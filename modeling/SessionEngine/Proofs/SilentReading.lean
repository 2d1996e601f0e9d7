import Mathlib.Data.Set.Basic
import Mathlib.Order.Bounds.Defs
import SessionEngine.Proofs.Session.Listening
import SessionEngine.Proofs.Timing.Bursts

/-! When a synchronous read of a session that cuts by silence returns, and with what. The splitter counts
from the last byte, and the read from its own beginning if no byte has come since: so a read that finds
bytes which are not yet old enough looks again only a whole window later, unless more bytes come.
`sleep_eq` finds the moment, and `read_by_silence` says what that means for the first silence. -/

namespace SessionEngine

variable {ε : Type}

/-- An arrival, as what another thread does to the session. -/
def Arrival.act (a : Arrival) : Nat × Intrusion := (a.1, .feed a.2)

def Buffer.Gathers (b b' : Buffer) : Prop := b' = b ∨ ∃ more ≠ [], b'.contents = b.contents ++ more

theorem Buffer.Gathers.refl (b : Buffer) : b.Gathers b := .inl rfl

theorem Buffer.Gathers.trans {b1 b2 b3 : Buffer} (h1 : b1.Gathers b2) (h2 : b2.Gathers b3) :
    b1.Gathers b3 := by
  rcases h1 with rfl | ⟨more, hmore, hcontents⟩
  · exact h2
  · rcases h2 with rfl | ⟨more', -, hcontents'⟩
    · exact .inr ⟨more, hmore, hcontents⟩
    · refine .inr ⟨more ++ more', List.append_ne_nil_of_left_ne_nil hmore _, ?_⟩
      rw [hcontents', hcontents, List.append_assoc]

theorem Buffer.Gathers.eq_of_contents {b b' : Buffer} (h : b.Gathers b')
    (hcontents : b'.contents = b.contents) : b' = b := by
  rcases h with rfl | ⟨more, hmore, happend⟩
  · rfl
  · exact absurd (List.append_right_eq_self.mp (happend.symm.trans hcontents)) hmore

theorem Buffer.Gathers.empty {b b' : Buffer} (h : b.Gathers b') (hempty : b'.contents = []) :
    b.contents = [] := by
  rcases h with rfl | ⟨more, -, happend⟩
  · exact hempty
  · exact (List.append_eq_nil_iff.mp (happend.symm.trans hempty)).1

/-- What holds the same in the end has held the same all along. -/
theorem Buffer.Gathers.between {b1 b2 b3 : Buffer} (h1 : b1.Gathers b2) (h2 : b2.Gathers b3)
    (hcontents : b3.contents = b1.contents) : b2.contents = b1.contents := by
  obtain rfl : b3 = b1 := (h1.trans h2).eq_of_contents hcontents
  rcases h1 with rfl | ⟨more, hmore, happend⟩
  · rfl
  · rcases h2 with rfl | ⟨more', -, happend'⟩
    · rfl
    · rw [happend, List.append_assoc] at happend'
      exact absurd (List.append_eq_nil_iff.mp (List.append_right_eq_self.mp happend'.symm)).1 hmore

namespace Session

variable {s : Session ε} {now time time' started : Nat} {a : Arrival} {feeds : List Arrival}

theorem Listening.mono (hs : s.Listening now) (h : now ≤ time) : s.Listening time :=
  { hs with past := fun last hlast => Nat.le_trans (hs.past last hlast) h }

variable [Tls.RecordEngine ε]

/-- The session as it is at `time`, before what comes then: after those of the feeds that come
earlier. -/
def before (s : Session ε) (time : Nat) : List Arrival → Session ε
  | [] => s
  | a :: rest => if a.1 < time then (s.feed a.1 a.2).2.before time rest else s

/-! ### What comes while a read sleeps -/

theorem gathers_feed (hs : s.Listening now) (time : Nat) (data : Bytes) :
    s.buffer.Gathers (s.feed time data).2.buffer := by
  rcases buffer_feed hs.bare time data with hsame | ⟨plain, hplain, happend⟩
  · exact .inl hsame
  · exact .inr ⟨plain, hplain, Buffer.contents_append happend⟩

theorem deadline_feed_le (hs : s.Listening now) (htime : now ≤ time) (data : Bytes) (started : Nat) :
    s.deadline started ≤ (s.feed time data).2.deadline started := by
  have hsettings := (kept_feed s time data).settings
  rcases buffer_feed hs.bare time data with hsame | ⟨plain, hplain, happend⟩
  · rw [deadline, deadline, hsame, hsettings]
  · rw [deadline, deadline, Buffer.lastArrival_append happend hplain, hsettings, Option.getD_some]
    cases hlast : s.buffer.lastArrival with
    | none => simp only [Option.getD_none]; omega
    | some last =>
      have hpast := hs.past last hlast
      simp only [Option.getD_some]
      omega

theorem before_of_lt (h : a.1 < time) :
    s.before time (a :: feeds) = (s.feed a.1 a.2).2.before time feeds := if_pos h

theorem before_of_le (h : time ≤ a.1) : s.before time (a :: feeds) = s := if_neg (Nat.not_lt.mpr h)

theorem settings_before (s : Session ε) (time : Nat) (feeds : List Arrival) :
    (s.before time feeds).settings = s.settings := by
  fun_induction before s time feeds with
  | case1 => rfl
  | case2 s a rest h ih => exact ih.trans (kept_feed s a.1 a.2).settings
  | case3 => rfl

theorem before_started (horder : (started :: feeds.map Prod.fst).IsChain (· ≤ ·)) :
    s.before started feeds = s := by
  cases feeds with
  | nil => rfl
  | cons a feeds => exact before_of_le (List.isChain_cons_cons.mp horder).1

theorem Listening.before (hs : s.Listening now)
    (horder : (now :: feeds.map Prod.fst).IsChain (· ≤ ·)) (htime : now ≤ time) :
    (s.before time feeds).Listening time := by
  induction feeds generalizing s now with
  | nil => exact hs.mono htime
  | cons a feeds ih =>
    obtain ⟨hafter, hrest⟩ := List.isChain_cons_cons.mp horder
    by_cases h : a.1 < time
    · rw [before_of_lt h]
      exact ih (hs.feed hafter a.2) hrest (Nat.le_of_lt h)
    · rw [before_of_le (Nat.not_lt.mp h)]
      exact hs.mono htime

theorem deadline_le_before (hs : s.Listening now)
    (horder : (now :: feeds.map Prod.fst).IsChain (· ≤ ·)) (started time : Nat) :
    s.deadline started ≤ (s.before time feeds).deadline started := by
  induction feeds generalizing s now with
  | nil => exact Nat.le_refl _
  | cons a feeds ih =>
    obtain ⟨hafter, hrest⟩ := List.isChain_cons_cons.mp horder
    by_cases h : a.1 < time
    · rw [before_of_lt h]
      exact (deadline_feed_le hs hafter a.2 started).trans (ih (hs.feed hafter a.2) hrest)
    · rw [before_of_le (Nat.not_lt.mp h)]

theorem gathers_before (hs : s.Listening now)
    (horder : (now :: feeds.map Prod.fst).IsChain (· ≤ ·)) (h : time ≤ time') :
    (s.before time feeds).buffer.Gathers (s.before time' feeds).buffer := by
  induction feeds generalizing s now time with
  | nil => exact .refl _
  | cons a feeds ih =>
    obtain ⟨hafter, hrest⟩ := List.isChain_cons_cons.mp horder
    by_cases hsoon : a.1 < time
    · rw [before_of_lt hsoon, before_of_lt (Nat.lt_of_lt_of_le hsoon h)]
      exact ih (hs.feed hafter a.2) hrest h
    · rw [before_of_le (Nat.not_lt.mp hsoon)]
      by_cases hlate : a.1 < time'
      · have hrest' := ih (hs.feed hafter a.2) hrest (Nat.le_of_lt hlate)
        rw [before_started hrest] at hrest'
        rw [before_of_lt hlate]
        exact (gathers_feed hs a.1 a.2).trans hrest'
      · rw [before_of_le (Nat.not_lt.mp hlate)]
        exact .refl _

/-! ### When a sleep ends -/

/-- A feed wakes a sleeping read for nothing, or does not wake it. -/
theorem sleep_feed (hs : s.Listening now) (hafter : now ≤ a.1) (hsoon : a.1 < s.deadline started)
    (others : List (Nat × Intrusion)) :
    s.sleep started s.buffer.generation (a.act :: others) =
      (s.feed a.1 a.2).2.sleep started (s.feed a.1 a.2).2.buffer.generation others := by
  have hs' := hs.feed hafter a.2
  have hsoon' : a.1 < (s.feed a.1 a.2).2.deadline started :=
    Nat.lt_of_lt_of_le hsoon (deadline_feed_le hs hafter a.2 started)
  rw [Arrival.act, sleep, if_neg (Nat.not_le.mpr hsoon)]
  simp only [intrude, Buffer.changedSince, hs'.opened, Bool.or_false, bne_iff_ne]
  rcases buffer_feed hs.bare a.1 a.2 with hsame | ⟨plain, hplain, happend⟩
  · simp [hsame]
  · have hnew := Buffer.eq_of_append happend hplain
    have hchanged : (s.feed a.1 a.2).2.buffer.generation ≠ s.buffer.generation := by
      rw [hnew]
      simp
    -- The byte has just come, so no silence is behind it.
    have hwait : ¬ (s.feed a.1 a.2).2.Silent a.1 := by
      rintro ⟨last, hlast, hle⟩
      obtain rfl : a.1 = last :=
        Option.some.inj ((Buffer.lastArrival_append happend hplain).symm.trans hlast.arrival)
      have hpatient := hs'.patient
      omega
    rw [if_pos hchanged, pass_of_waiting hs' hwait hsoon']

/-- A read that sleeps looks again at the first moment that is its deadline then. -/
theorem sleep_eq (hs : s.Listening now) (horder : (now :: feeds.map Prod.fst).IsChain (· ≤ ·))
    (started : Nat) :
    ∃ time, IsLeast {time | (s.before time feeds).deadline started ≤ time} time ∧
      (s.before time feeds).deadline started = time ∧
      s.sleep started s.buffer.generation (feeds.map Arrival.act) =
        (s.before time feeds).expire started ((feeds.dropWhile (·.1 < time)).map Arrival.act) := by
  induction feeds generalizing s now with
  | nil => exact ⟨s.deadline started, ⟨Nat.le_refl _, fun time htime => htime⟩, rfl, rfl⟩
  | cons a feeds ih =>
    obtain ⟨hafter, hrest⟩ := List.isChain_cons_cons.mp horder
    by_cases hsoon : a.1 < s.deadline started
    · have hs' := hs.feed hafter a.2
      obtain ⟨time, hleast, hexact, hsleep⟩ := ih hs' hrest
      -- No moment up to this arrival is the deadline, whether it is counted or not.
      have hdeadline : ∀ time, time ≤ a.1 →
          ¬ ((s.feed a.1 a.2).2.before time feeds).deadline started ≤ time := by
        intro time htime hle
        have hfeed := deadline_feed_le hs hafter a.2 started
        have hbefore := deadline_le_before hs' hrest started time
        omega
      have hsame : {time | (s.before time (a :: feeds)).deadline started ≤ time} =
          {time | ((s.feed a.1 a.2).2.before time feeds).deadline started ≤ time} := by
        ext time
        by_cases htime : a.1 < time
        · simp only [Set.mem_ofPred_eq, before_of_lt htime]
        · have hle := Nat.not_lt.mp htime
          simp only [Set.mem_ofPred_eq, before_of_le hle, hdeadline time hle, iff_false]
          omega
      have htime : a.1 < time := Nat.not_le.mp fun hle => hdeadline time hle hleast.1
      refine ⟨time, hsame ▸ hleast, ?_, ?_⟩
      · rw [before_of_lt htime, hexact]
      · rw [List.map_cons, sleep_feed hs hafter hsoon, hsleep, before_of_lt htime,
          List.dropWhile_cons_of_pos (by simpa using htime)]
    · have hle : s.deadline started ≤ a.1 := Nat.not_lt.mp hsoon
      have hbefore : s.before (s.deadline started) (a :: feeds) = s := before_of_le hle
      refine ⟨s.deadline started, ⟨?_, fun time htime => ?_⟩, by rw [hbefore], ?_⟩
      · rw [Set.mem_ofPred_eq, hbefore]
      · by_cases h : a.1 < time
        · omega
        · rwa [Set.mem_ofPred_eq, before_of_le (Nat.not_lt.mp h)] at htime
      · rw [List.map_cons, hbefore, List.dropWhile_cons_of_neg (by simpa using hle)]
        exact if_pos hle

/-! ### When a read returns -/

/-- When a read returns that was begun at `started`: at once if there is silence, and else at its first
deadline. -/
structure Returns (s : Session ε) (started : Nat) (feeds : List Arrival) (stop : Nat) : Prop where
  atOnce : s.Silent started → stop = started
  atDeadline : ¬ s.Silent started →
    IsLeast {time | (s.before time feeds).deadline started ≤ time} stop

/-- A read returns what is buffered then, and fails if nothing is. -/
theorem read_eq (hs : s.Listening started) (horder : (started :: feeds.map Prod.fst).IsChain (· ≤ ·)) :
    ∃ stop, s.Returns started feeds stop ∧ s.read started (feeds.map Arrival.act) =
      ⟨if (s.before stop feeds).buffer.contents = [] then
          .error (.readTimeout (Span.toMillis s.settings.readTimeout))
        else .ok (s.before stop feeds).buffer.contents,
        (s.before stop feeds).withContents [], stop,
        (feeds.dropWhile (·.1 < stop)).map Arrival.act⟩ := by
  by_cases hsilent : s.Silent started
  · have hlater : feeds.dropWhile (·.1 < started) = feeds := by
      cases feeds with
      | nil => rfl
      | cons a feeds =>
        exact List.dropWhile_cons_of_neg (by simpa using (List.isChain_cons_cons.mp horder).1)
    refine ⟨started, ⟨fun _ => rfl, absurd hsilent⟩, ?_⟩
    rw [before_started horder, hlater, if_neg hsilent.choose_spec.1.nonempty]
    exact read_of_pass (pass_of_silent hs hsilent started) _
  · obtain ⟨stop, hleast, hexact, hsleep⟩ := sleep_eq hs horder started
    refine ⟨stop, ⟨fun h => absurd h hsilent, fun _ => hleast⟩, ?_⟩
    have hwindow := s.le_deadline started
    have hpatient := hs.patient
    have hbefore : started ≤ stop := by
      have hdeadline := (s.before stop feeds).le_deadline started
      omega
    rw [read, pass_of_waiting hs hsilent (by omega)]
    simp only [hsleep]
    rw [expire_eq (hs.before horder hbefore), settings_before, hexact]

variable {stop : Nat}

theorem Returns.window_le (h : s.Returns started feeds stop) (hwait : ¬ s.Silent started) :
    started + s.settings.readTimeout ≤ stop := by
  have hdeadline := (s.before stop feeds).le_deadline started
  rw [settings_before] at hdeadline
  exact hdeadline.trans (h.atDeadline hwait).1

/-- A read returns with a silence in its first window if nothing more comes in this window. -/
theorem Returns.le_of_same (h : s.Returns started feeds stop) (hwait : ¬ s.Silent started)
    (hs : s.Listening started) (horder : (started :: feeds.map Prod.fst).IsChain (· ≤ ·))
    (hquiet : (s.before time feeds).Silent time) {later : Nat} (hafter : time ≤ later)
    (hwindow : started + s.settings.readTimeout ≤ later)
    (hsame : (s.before later feeds).buffer.contents = (s.before time feeds).buffer.contents) :
    stop ≤ later := by
  have hbuffer := (gathers_before hs horder hafter).eq_of_contents hsame
  obtain ⟨last, hlast, hle⟩ := hquiet
  rw [settings_before] at hle
  have hdeadline : (s.before later feeds).deadline started ≤ later := by
    rw [deadline, hbuffer, settings_before, hlast.arrival, Option.getD_some]
    omega
  exact (h.atDeadline hwait).2 hdeadline

/-- What is buffered at a silence is what the read returns exactly if the read begins with the silence,
or nothing comes behind the silence in the first window of the read. -/
theorem Returns.held_iff (h : s.Returns started feeds stop) (hs : s.Listening started)
    (horder : (started :: feeds.map Prod.fst).IsChain (· ≤ ·)) (hafter : started ≤ time)
    (hquiet : (s.before time feeds).Silent time) (hbefore : time ≤ stop) :
    (s.before stop feeds).buffer.contents = (s.before time feeds).buffer.contents ↔
      time = started ∨
        (s.before (max time (started + s.settings.readTimeout)) feeds).buffer.contents =
          (s.before time feeds).buffer.contents := by
  by_cases hsilent : s.Silent started
  · obtain rfl : stop = started := h.atOnce hsilent
    obtain rfl : time = stop := Nat.le_antisymm hbefore hafter
    exact iff_of_true rfl (.inl rfl)
  · have hlate : time ≠ started := by
      rintro rfl
      rw [before_started horder] at hquiet
      exact hsilent hquiet
    have hmax : max time (started + s.settings.readTimeout) ≤ stop :=
      Nat.max_le.mpr ⟨hbefore, h.window_le hsilent⟩
    simp only [hlate, false_or]
    constructor
    · exact (gathers_before hs horder (Nat.le_max_left ..)).between (gathers_before hs horder hmax)
    · intro hsame
      have hstop := h.le_of_same hsilent hs horder hquiet (Nat.le_max_left ..) (Nat.le_max_right ..) hsame
      rwa [Nat.le_antisymm hstop hmax]

end Session

variable [Tls.RecordEngine ε]

/-- A synchronous read of a session that cuts by silence, without a heartbeat, in virtual time. It
returns at once if what is buffered is silent, and else at its deadline, which more bytes put off; then
it returns all that is buffered, and fails only if nothing is. At a silence that it waits for, what it
returns is what is buffered then exactly if it has begun with this silence, or nothing more comes until
its first window has passed: a silence that ends within this window, behind bytes that came before the
read, does not wake it. A read times out only if nothing is buffered in all this window. -/
theorem read_by_silence {s : Session ε} {started : Nat} (hs : s.Listening started) {feeds : List Arrival}
    (horder : (started :: feeds.map Prod.fst).IsChain (· ≤ ·)) :
    let e := s.read started (feeds.map Arrival.act)
    let held := fun time => (s.before time feeds).buffer.contents
    let timeout := s.settings.readTimeout
    (s.Silent started → e.time = started) ∧
      (¬ s.Silent started → IsLeast {time | (s.before time feeds).deadline started ≤ time} e.time) ∧
      e.result = (if held e.time = [] then .error (.readTimeout (Span.toMillis timeout))
        else .ok (held e.time)) ∧
      e.session = (s.before e.time feeds).withContents [] ∧
      e.later = (feeds.dropWhile (·.1 < e.time)).map Arrival.act ∧
      (∀ time, started ≤ time → (s.before time feeds).Silent time → time ≤ e.time →
        (e.result = .ok (held time) ↔
          time = started ∨ held (max time (started + timeout)) = held time)) ∧
      ∀ millis, e.result = .error (.readTimeout millis) →
        ∀ time ≤ started + timeout, held time = [] := by
  intro e held timeout
  obtain ⟨stop, hstop, he⟩ := Session.read_eq hs horder
  have hresult : e.result = if held stop = [] then .error (.readTimeout (Span.toMillis timeout))
      else .ok (held stop) := congrArg ReadEnd.result he
  have htime : e.time = stop := congrArg ReadEnd.time he
  rw [htime, hresult]
  refine ⟨hstop.atOnce, hstop.atDeadline, rfl, congrArg ReadEnd.session he, congrArg ReadEnd.later he,
    fun time hafter hquiet hbefore => ?_, fun millis hmillis time hbefore => ?_⟩
  · have hheld : held time ≠ [] := hquiet.choose_spec.1.nonempty
    have hne : held stop ≠ [] := fun hempty =>
      hheld ((Session.gathers_before hs horder hbefore).empty hempty)
    rw [if_neg hne, Except.ok.injEq]
    exact hstop.held_iff hs horder hafter hquiet hbefore
  · have hempty : held stop = [] := by
      by_contra hne
      rw [if_neg hne] at hmillis
      cases hmillis
    have hstart : held started = s.buffer.contents :=
      congrArg (fun s : Session ε => s.buffer.contents) (Session.before_started horder)
    have hwait : ¬ s.Silent started := by
      intro hsilent
      rw [hstop.atOnce hsilent, hstart] at hempty
      exact hsilent.choose_spec.1.nonempty hempty
    have hwindow := hstop.window_le hwait
    exact (Session.gathers_before hs horder (hbefore.trans hwindow)).empty hempty

/-- A byte that comes as the read begins is handed over when the window has passed, without the byte
behind it. -/
theorem read_by_silence_fresh :
    let s : Session Empty := ((Session.new 0 { Settings.server "localhost" 6380 with readTimeout := 10 }
      .silence).feed 4 [97]).2
    let feeds : List Arrival := [(15, [98])]
    (s.Listening 4 ∧ (4 :: feeds.map Prod.fst).IsChain (· ≤ ·)) ∧ (s.before 14 feeds).Silent 14 ∧
      (s.read 4 (feeds.map Arrival.act)).result = .ok [97] := by
  intro s feeds
  have hs : s.Listening 4 := ⟨rfl, rfl, rfl, by decide, fun _ => nofun, fun | _, rfl => Nat.le_refl 4⟩
  have horder : (4 :: feeds.map Prod.fst).IsChain (· ≤ ·) := by decide
  have hquiet : (s.before 14 feeds).Silent 14 := ⟨4, ⟨by decide, rfl⟩, by decide⟩
  obtain ⟨-, -, -, -, -, hsilence, -⟩ := read_by_silence hs horder
  exact ⟨⟨hs, horder⟩, hquiet,
    (hsilence 14 (by decide) hquiet (by decide +kernel)).mpr (.inr (by decide +kernel))⟩

/-- A read does not return with the first silence it waits for: with a byte from before the read, it
sleeps over the end of the silence, and takes the next byte for a part of the message. -/
theorem silence_overslept :
    ¬ ∀ (s : Session Empty) (started : Nat) (feeds : List Arrival), s.Listening started →
      (started :: feeds.map Prod.fst).IsChain (· ≤ ·) →
      (∀ a ∈ feeds, ∀ last ∈ (s.before a.1 feeds).buffer.lastArrival,
        a.1 ≠ last + s.settings.readTimeout) →
      ∀ time, IsLeast {time | started ≤ time ∧ (s.before time feeds).Silent time} time →
        time ≤ (s.read started (feeds.map Arrival.act)).time →
        (s.read started (feeds.map Arrival.act)).result =
          .ok (s.before time feeds).buffer.contents := by
  intro hall
  let s : Session Empty := ((Session.new 0 { Settings.server "localhost" 6380 with readTimeout := 10 }
    .silence).feed 0 [97]).2
  let feeds : List Arrival := [(12, [98])]
  have hs : s.Listening 6 := ⟨rfl, rfl, rfl, by decide, fun _ => nofun, fun | _, rfl => by decide⟩
  have hleast : IsLeast {time | 6 ≤ time ∧ (s.before time feeds).Silent time} 10 := by
    refine ⟨⟨by decide, 0, ⟨by decide, rfl⟩, by decide⟩, fun time ⟨_, last, hlast, hle⟩ => ?_⟩
    by_contra hsoon
    have hbefore : s.before time feeds = s := Session.before_of_le (show time ≤ 12 by omega)
    rw [hbefore] at hlast hle
    obtain rfl : 0 = last := Option.some.inj hlast.arrival
    have hwindow : 0 + 10 ≤ time := hle
    omega
  have hread := hall s 6 feeds hs (by decide) (by decide +kernel) 10 hleast (by decide +kernel)
  revert hread
  decide +kernel

end SessionEngine
