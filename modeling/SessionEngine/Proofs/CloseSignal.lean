import SessionEngine.Proofs.Session.Heeding
import SessionEngine.Socket.ReadLoop
import SessionEngine.Socket.WriteLoop

/-! Who hears of the close of a session: those who have asked for its signal, those who wait until it has
closed, and its two loops. They come and go in any order, and anything may be done to the session
meanwhile. The signal stores nothing for nobody, so all depends on who watches when the close runs.
`heeds_move` and `Attended.move` say what one move does to the signal and to the number of those who watch;
`close_heeded_iff` says that if somebody watches when the session closes, everybody hears of it, also who
comes later, and else nobody ever does. -/

namespace SessionEngine

variable {ε : Type}

/-- Somebody who watches for the close of a session. -/
inductive Watcher where
  /-- It has asked for the signal, and may look at it at any moment. -/
  | receiver
  /-- It waits until the session has closed. -/
  | caller
  | reader
  /-- A write loop, with how many payloads it has tried, and those that the connection took. -/
  | writer (tried : Nat) (sent : List Bytes)
  | gone
  deriving DecidableEq

def Watcher.watches : Watcher → Bool
  | .receiver | .caller | .reader | .writer .. => true
  | .gone => false

/-- A session and its counters, with everybody who has ever watched for its close. -/
structure Vigil (ε : Type) where
  session : Session ε
  traffic : Traffic
  watchers : List Watcher := []

theorem WriteLoop.stop_passes {l : WriteLoop ε} (hrunning : l.running = true)
    (outcomes : List (Option IoError)) : (l.stop outcomes).running = false ∧
      ∃ s, l.session.Passes s ∧ (l.stop outcomes).session = s.unwatchClose := by
  rw [stop, if_pos hrunning]
  exact ⟨rfl, _, (Session.kept_writer l.session _).passes, rfl⟩

namespace Vigil

def start (s : Session ε) (traffic : Traffic) : Vigil ε := { session := s, traffic }

def enter (v : Vigil ε) (who : Watcher) : Vigil ε :=
  { v with session := v.session.watchClose, watchers := v.watchers ++ [who] }

def leave (v : Vigil ε) (place : Nat) : Vigil ε :=
  { v with session := v.session.unwatchClose, watchers := v.watchers.set place .gone }

def readLoop (v : Vigil ε) : ReadLoop ε := ⟨v.session, v.traffic, true⟩

def writeLoop (v : Vigil ε) (tried : Nat) (sent : List Bytes) : WriteLoop ε :=
  ⟨v.session, v.traffic, tried, sent, true⟩

def withReadLoop (v : Vigil ε) (place : Nat) (l : ReadLoop ε) : Vigil ε :=
  { session := l.session, traffic := l.traffic
    watchers := v.watchers.set place (if l.running then .reader else .gone) }

def withWriteLoop (v : Vigil ε) (place : Nat) (l : WriteLoop ε) : Vigil ε :=
  { session := l.session, traffic := l.traffic
    watchers := v.watchers.set place (if l.running then .writer l.tried l.sent else .gone) }

def Watched (v : Vigil ε) : Prop := ∃ who ∈ v.watchers, who.watches = true

variable {v v' : Vigil ε} {place : Nat} {who who' : Watcher}

/-- The signal counts those who watch, and is raised for a closed session only. -/
structure Attended (v : Vigil ε) : Prop where
  watchers : v.session.closeSignal.watchers = v.watchers.countP Watcher.watches
  shut : v.session.closeSignal.raised = true → v.session.stage.isOpen = false

theorem Attended.watched_iff (hv : v.Attended) : v.Watched ↔ v.session.closeSignal.watchers ≠ 0 := by
  rw [hv.watchers, ← Nat.pos_iff_ne_zero, List.countP_pos_iff]
  rfl

theorem Attended.enter (hv : v.Attended) (hwho : who.watches = true) {s : Session ε}
    (hs : v.session.watchClose.Stays s) (traffic : Traffic) :
    Attended ⟨s, traffic, v.watchers ++ [who]⟩ ∧ v.session.Heeds s := by
  have hheeds : v.session.Heeds s :=
    (Session.Heeds.refl v.session).watch.congr (congrArg Stage.isOpen hs.stage)
      (congrArg Signal.raised hs.closeSignal)
  refine ⟨⟨?_, hheeds.shut_of_raised hv.shut⟩, hheeds⟩
  have hcount : s.closeSignal.watchers = v.session.closeSignal.watchers + 1 :=
    congrArg Signal.watchers hs.closeSignal
  rw [hcount, hv.watchers, List.countP_append, List.countP_singleton, if_pos hwho]

/-- Whoever watches in a place passes on what it has done, and watches on or leaves. -/
theorem Attended.set (hv : v.Attended) (hplace : v.watchers[place]? = some who) (hwho : who.watches = true)
    {s s' : Session ε} (hs : v.session.Passes s) (hs' : s' = if who'.watches then s else s.unwatchClose)
    (traffic : Traffic) :
    Attended ⟨s', traffic, v.watchers.set place who'⟩ ∧ v.session.Heeds s' := by
  have hheeds : v.session.Heeds s' := by
    rw [hs']
    split
    · exact hs.toHeeds
    · exact hs.toHeeds.unwatch
  obtain ⟨hlt, hget⟩ := List.getElem?_eq_some_iff.mp hplace
  have hsome : 0 < v.watchers.countP Watcher.watches :=
    List.countP_pos_iff.mpr ⟨who, List.mem_of_getElem? hplace, hwho⟩
  refine ⟨⟨?_, hheeds.shut_of_raised hv.shut⟩, hheeds⟩
  show s'.closeSignal.watchers = (v.watchers.set place who').countP Watcher.watches
  rw [List.countP_set hlt, hget, if_pos hwho, ← hv.watchers, ← hs.watchers, hs']
  rw [← hv.watchers, ← hs.watchers] at hsome
  split
  · omega
  · rfl

theorem Attended.leave (hv : v.Attended) (hplace : v.watchers[place]? = some who)
    (hwho : who.watches = true) : (v.leave place).Attended ∧ v.session.Heeds (v.leave place).session :=
  hv.set hplace hwho (.refl v.session)
    (show _ = if Watcher.gone.watches then v.session else v.session.unwatchClose from rfl) v.traffic

theorem attended_start {s : Session ε} (hquiet : s.closeSignal = .quiet) (traffic : Traffic) :
    (start s traffic).Attended := by
  refine ⟨?_, fun hraised => ?_⟩
  · simp only [start, hquiet]
    rfl
  · simp only [start, hquiet] at hraised
    cases hraised

end Vigil

variable [Tls.RecordEngine ε]

inductive Vigil.Move where
  | subscribe
  | await
  | startReading
  | startWriting
  /-- Whoever watches in a place stops to do so. -/
  | leave (place : Nat)
  | deed (d : Deed)
  /-- A read of a loop ends by itself. -/
  | read (place : Nat) (outcome : ReadOutcome)
  /-- A loop writes a payload; after a failure it tries the rest with the outcomes `later`. -/
  | write (place : Nat) (failure : Option IoError) (later : List (Option IoError))
  /-- Whoever watches in a place sees that the session has closed. -/
  | heed (place : Nat) (outcomes : List (Option IoError))

namespace Vigil

/-- Whoever watches in a place sees that the session has closed, if the signal was raised: who waited goes
on, a loop takes its exit, and who holds the signal may look at it again. -/
def heed? (v : Vigil ε) (place now : Nat) (outcomes : List (Option IoError)) : Option (Vigil ε) :=
  if v.session.closeSignal.raised then
    match v.watchers[place]? with
    | some .receiver => some v
    | some .caller => some (v.leave place)
    | some .reader => some (v.withReadLoop place (v.readLoop.step now .closing))
    | some (.writer tried sent) => some (v.withWriteLoop place ((v.writeLoop tried sent).stop outcomes))
    | some .gone | none => none
  else none

/-- The vigil after a move at `now`; a move that is not possible changes nothing. -/
def move (v : Vigil ε) (now : Nat) : Move → Vigil ε
  | .subscribe => v.enter .receiver
  | .await => v.enter .caller
  | .startReading =>
    let l := ReadLoop.start v.session v.traffic now
    { session := l.session, traffic := l.traffic, watchers := v.watchers ++ [.reader] }
  | .startWriting =>
    let l := WriteLoop.start v.session v.traffic
    { session := l.session, traffic := l.traffic, watchers := v.watchers ++ [.writer l.tried l.sent] }
  | .leave place =>
    match v.watchers[place]? with
    | some .gone | none => v
    | some _ => v.leave place
  | .deed d => { v with session := v.session.perform now d }
  | .read place outcome =>
    if v.watchers[place]? = some .reader ∧ outcome ≠ .closing then
      v.withReadLoop place (v.readLoop.step now outcome)
    else v
  | .write place failure later =>
    match v.watchers[place]? with
    | some (.writer tried sent) =>
      v.withWriteLoop place ((v.writeLoop tried sent).step failure later)
    | _ => v
  | .heed place outcomes => (v.heed? place now outcomes).getD v

def run (moves : List (Nat × Move)) (v : Vigil ε) : Vigil ε :=
  moves.foldl (fun v m => v.move m.1 m.2) v

def Closes (v : Vigil ε) (now : Nat) (m : Move) : Prop :=
  v.session.stage.isOpen = true ∧ (v.move now m).session.stage.isOpen = false

instance (v : Vigil ε) (now : Nat) (m : Move) : Decidable (v.Closes now m) :=
  inferInstanceAs (Decidable (_ ∧ _))

end Vigil

/-- The end of a read closes the session or not, and then the loop watches on or leaves. -/
theorem ReadLoop.step_passes {l : ReadLoop ε} (hrunning : l.running = true) (now : Nat)
    (outcome : ReadOutcome) : ∃ s, l.session.Passes s ∧
      (l.step now outcome).session = if (l.step now outcome).running then s else s.unwatchClose := by
  have hdispatch := fun s : Session ε => s.passes_perform now .dispatch
  cases outcome with
  | closing =>
    refine ⟨l.session.close.2, l.session.passes_close, ?_⟩
    simp only [step, hrunning]
    rfl
  | timedOut =>
    simp only [step, hrunning]
    by_cases hnone : (l.session.dispatch now).1 = 0
    · refine ⟨_, (hdispatch l.session).trans (Session.stays_fire _ .idle).passes, ?_⟩
      simp only [if_pos hnone]
      rfl
    · refine ⟨_, hdispatch l.session, ?_⟩
      simp only [if_neg hnone]
      rfl
  | ended =>
    refine ⟨_, (hdispatch l.session).trans (Session.passes_close _), ?_⟩
    simp only [step, hrunning]
    rfl
  | data bytes =>
    have hfeed := l.session.passes_perform now (.feed bytes)
    simp only [step, hrunning]
    cases hresult : l.session.feed now bytes with
    | mk result s =>
      have hs : l.session.perform now (.feed bytes) = s := congrArg Prod.snd hresult
      rw [hs] at hfeed
      cases result with
      | ok => exact ⟨_, hfeed.trans (hdispatch s), rfl⟩
      | error e =>
        have hfire : s.Passes (s.fire (.exception e)) := (Session.stays_fire s _).passes
        exact ⟨_, (hfeed.trans hfire).trans (Session.passes_close _), rfl⟩
  | failed cause =>
    simp only [step, hrunning]
    by_cases hconnected : l.session.isConnected = true
    · refine ⟨_, (Session.stays_fire l.session (.exception (.read cause))).passes.trans
        (Session.passes_close _), ?_⟩
      simp only [if_pos hconnected]
      rfl
    · refine ⟨_, l.session.passes_close, ?_⟩
      simp only [if_neg hconnected]
      rfl

theorem WriteLoop.step_passes {l : WriteLoop ε} (hrunning : l.running = true) (failure : Option IoError)
    (later : List (Option IoError)) : ∃ s, l.session.Passes s ∧
      (l.step failure later).session =
        if (l.step failure later).running then s else s.unwatchClose := by
  unfold step
  rw [hrunning]
  cases hqueued : l.queued with
  | nil => exact ⟨_, .refl l.session, by simp only [hrunning, if_true]⟩
  | cons payload rest =>
    cases failure with
    | none => exact ⟨_, .refl l.session, by simp only [if_true]⟩
    | some cause =>
      have htold : l.session.Passes (if l.session.isConnected then
          l.session.fire (.exception (.send cause)) else l.session) := by
        split
        · exact (Session.stays_fire l.session _).passes
        · exact .refl l.session
      exact ⟨_, (htold.trans (Session.passes_close _)).trans (Session.kept_writer _ _).passes, rfl⟩

namespace Vigil

variable {v v' : Vigil ε} {place : Nat} {who who' : Watcher}

/-- One move: the signal goes on to count those who watch, and is raised exactly if the move closes the
session while somebody watches. -/
theorem Attended.move (hv : v.Attended) (now : Nat) (m : Move) :
    (v.move now m).Attended ∧ v.session.Heeds (v.move now m).session := by
  have hsame : v.Attended ∧ v.session.Heeds v.session := ⟨hv, .refl v.session⟩
  -- A read loop sees the close as one of the ways in which a read ends.
  have hreads : ∀ place outcome, v.watchers[place]? = some .reader →
      (v.withReadLoop place (v.readLoop.step now outcome)).Attended ∧
        v.session.Heeds (v.withReadLoop place (v.readLoop.step now outcome)).session := by
    intro place outcome hplace
    obtain ⟨s, hs, hsession⟩ := ReadLoop.step_passes (l := v.readLoop) rfl now outcome
    refine hv.set hplace rfl hs ?_ _
    rw [hsession]
    cases (v.readLoop.step now outcome).running <;> rfl
  cases m with
  | subscribe => exact hv.enter rfl (.refl _) v.traffic
  | await => exact hv.enter rfl (.refl _) v.traffic
  | startReading => exact hv.enter rfl (Session.stays_dispatch _ now) v.traffic
  | startWriting => exact hv.enter rfl (.refl _) v.traffic
  | leave place =>
    simp only [Vigil.move]
    split
    · exact hsame
    · exact hsame
    next who hwho hplace =>
      have hwatches : who.watches = true := by cases who <;> first | rfl | exact absurd rfl hwho
      exact hv.leave hplace hwatches
  | deed d =>
    have hs := v.session.passes_perform now d
    exact ⟨⟨hs.watchers.trans hv.watchers, hs.shut_of_raised hv.shut⟩, hs.toHeeds⟩
  | read place outcome =>
    simp only [Vigil.move]
    split
    next h => exact hreads place outcome h.1
    · exact hsame
  | write place failure later =>
    simp only [Vigil.move]
    split
    next tried sent hplace =>
      obtain ⟨s, hs, hsession⟩ := WriteLoop.step_passes (l := v.writeLoop tried sent) rfl failure later
      refine hv.set hplace rfl hs ?_ _
      rw [hsession]
      cases ((v.writeLoop tried sent).step failure later).running <;> rfl
    · exact hsame
  | heed place outcomes =>
    simp only [Vigil.move, heed?]
    split
    next hraised =>
      split
      · exact hsame
      next hplace => exact hv.leave hplace rfl
      next hplace => exact hreads place .closing hplace
      next tried sent hplace =>
        obtain ⟨hends, s, hs, hsession⟩ := WriteLoop.stop_passes (l := v.writeLoop tried sent) rfl outcomes
        refine hv.set hplace rfl hs ?_ _
        rw [hsession, hends]
        rfl
      · exact hsame
      · exact hsame
    · exact hsame

theorem Attended.run (hv : v.Attended) (moves : List (Nat × Move)) : (v.run moves).Attended := by
  induction moves generalizing v with
  | nil => exact hv
  | cons m moves ih => exact ih (hv.move m.1 m.2).1

theorem Attended.raised_run (hv : v.Attended) (hclosed : v.session.stage.isOpen = false)
    (moves : List (Nat × Move)) :
    (v.run moves).session.closeSignal.raised = v.session.closeSignal.raised := by
  induction moves generalizing v with
  | nil => rfl
  | cons m moves ih =>
    obtain ⟨hnext, hheeds⟩ := hv.move m.1 m.2
    have hclosed' : (v.move m.1 m.2).session.stage.isOpen = false := by
      rw [Bool.eq_false_iff]
      intro hopen
      rw [hheeds.shut hopen] at hclosed
      cases hclosed
    refine (ih hnext hclosed').trans ?_
    rw [Bool.eq_iff_iff, hheeds.raised, hclosed]
    simp

theorem closes_of_close (hfirst : v.session.close.1 = true) (now : Nat) : v.Closes now (.deed .close) := by
  rcases v.session.close_cases with ⟨hclosed, h⟩ | ⟨hopen, writer, tls, -, h⟩
  · unfold Session.close at hfirst
    rw [hclosed] at hfirst
    cases hfirst
  · refine ⟨hopen, ?_⟩
    simp only [Vigil.move, Session.perform, h]
    rfl

/-- Only a loop closes the session by itself, and then it is there to hear of it. -/
theorem Attended.watched_of_closes (hv : v.Attended) {now : Nat} {m : Move} (hcloses : v.Closes now m)
    (hloop : ∀ d, m ≠ .deed d) : v.Watched := by
  obtain ⟨hopen, hclosed⟩ := hcloses
  have hsame : (v.move now m).session.stage ≠ v.session.stage := by
    intro hstage
    rw [hstage, hopen] at hclosed
    cases hclosed
  cases m with
  | subscribe => exact absurd rfl hsame
  | await => exact absurd rfl hsame
  | startReading => exact absurd (Session.stays_dispatch v.session.watchClose now).stage hsame
  | startWriting => exact absurd rfl hsame
  | leave place =>
    simp only [Vigil.move] at hsame
    split at hsame <;> exact absurd rfl hsame
  | deed d => exact absurd rfl (hloop d)
  | read place outcome =>
    simp only [Vigil.move] at hsame
    split at hsame
    next h => exact ⟨.reader, List.mem_of_getElem? h.1, rfl⟩
    · exact absurd rfl hsame
  | write place failure later =>
    simp only [Vigil.move] at hsame
    split at hsame
    next tried sent hplace => exact ⟨.writer tried sent, List.mem_of_getElem? hplace, rfl⟩
    · exact absurd rfl hsame
  | heed place outcomes =>
    -- Who sees the close finds the session closed.
    have hquiet : ¬ v.session.closeSignal.raised = true := by
      intro hraised
      rw [hv.shut hraised] at hopen
      cases hopen
    rw [Vigil.move, heed?, if_neg hquiet] at hsame
    exact absurd rfl hsame

/-- Who watches sees the close exactly if the signal was raised. -/
theorem isSome_heed?_iff (hplace : v.watchers[place]? = some who) (hwho : who.watches = true) (now : Nat)
    (outcomes : List (Option IoError)) :
    (v.heed? place now outcomes).isSome = true ↔ v.session.closeSignal.raised = true := by
  unfold heed?
  rw [hplace]
  cases hraised : v.session.closeSignal.raised with
  | false => simp
  | true =>
    cases who with
    | gone => cases hwho
    | _ => simp

/-- Seeing the close ends whoever does more than to hold the signal. -/
theorem watchers_heed? (hplace : v.watchers[place]? = some who) {now : Nat}
    {outcomes : List (Option IoError)} (h : v.heed? place now outcomes = some v') :
    who = .receiver ∧ v' = v ∨ v'.watchers = v.watchers.set place .gone := by
  unfold heed? at h
  rw [hplace] at h
  split at h
  · cases who with
    | receiver => exact .inl ⟨rfl, (Option.some.inj h).symm⟩
    | caller =>
      obtain rfl := Option.some.inj h
      exact .inr rfl
    | reader =>
      obtain rfl := Option.some.inj h
      exact .inr rfl
    | writer tried sent =>
      obtain rfl := Option.some.inj h
      exact .inr rfl
    | gone => cases h
  · cases h

end Vigil

/-- Who hears of a close. If somebody watches when the session closes, everybody hears of it who watches
then or comes later: the signal is there to be seen, who waits goes on, and the loops end. If nobody does,
nobody ever hears of it. A loop that closes the session by itself is one who watches. It does not matter who
else comes and goes, and what is done to the session before and after. -/
theorem close_heeded_iff {s : Session ε} (hquiet : s.closeSignal = .quiet) (traffic : Traffic)
    (before : List (Nat × Vigil.Move)) {now : Nat} {m : Vigil.Move}
    (hcloses : ((Vigil.start s traffic).run before).Closes now m) (after : List (Nat × Vigil.Move)) :
    let v := (Vigil.start s traffic).run before
    let w := (v.move now m).run after
    (w.session.closeSignal.raised = true ↔ v.Watched) ∧
      (∀ place who later outcomes, w.watchers[place]? = some who → who.watches = true →
        ((w.heed? place later outcomes).isSome = true ↔ v.Watched) ∧
        ∀ w', w.heed? place later outcomes = some w' →
          who = .receiver ∧ w' = w ∨ w'.watchers = w.watchers.set place .gone) ∧
      ((∀ d, m ≠ .deed d) → v.Watched) := by
  intro v w
  have hv : v.Attended := (Vigil.attended_start hquiet traffic).run before
  obtain ⟨hnext, hheeds⟩ := hv.move now m
  obtain ⟨hopen, hclosed⟩ := hcloses
  have hraised : w.session.closeSignal.raised = true ↔ v.Watched := by
    rw [hnext.raised_run hclosed after, hheeds.raised, hv.watched_iff]
    constructor
    · rintro (hraised | ⟨-, -, hsome⟩)
      · rw [hv.shut hraised] at hopen
        cases hopen
      · exact hsome
    · exact fun hsome => .inr ⟨hopen, hclosed, hsome⟩
  refine ⟨hraised, fun place who later outcomes hplace hwho => ⟨?_, fun w' hw' => ?_⟩,
    hv.watched_of_closes ⟨hopen, hclosed⟩⟩
  · rw [Vigil.isSome_heed?_iff hplace hwho, hraised]
  · exact Vigil.watchers_heed? hplace hw'

/-- With a write loop at work when the session closes, all who come later hear of it too. -/
theorem close_heeded_by_all :
    let s : Session Empty := .new 0 (Settings.server "localhost" 6380) .line
    let v := (Vigil.start s .zero).run [(0, .startWriting)]
    let w := (v.move 1 (.deed .close)).run [(2, .subscribe), (3, .await), (4, .startReading)]
    (s.closeSignal = .quiet ∧ v.Closes 1 (.deed .close)) ∧
      w.watchers = [.writer 0 [], .receiver, .caller, .reader] ∧
      w.session.closeSignal.raised = true ∧ ∀ place < 4, (w.heed? place 5 []).isSome = true := by
  intro s v w
  have hquiet : s.closeSignal = .quiet := rfl
  have hcloses : v.Closes 1 (.deed .close) := Vigil.closes_of_close (by decide) 1
  have hwatched : v.Watched := ⟨.writer 0 [], by decide, rfl⟩
  have hwatchers : w.watchers = [.writer 0 [], .receiver, .caller, .reader] := by decide
  obtain ⟨hraised, hheed, -⟩ := close_heeded_iff hquiet .zero [(0, .startWriting)] hcloses
    [(2, .subscribe), (3, .await), (4, .startReading)]
  refine ⟨⟨hquiet, hcloses⟩, hwatchers, hraised.mpr hwatched, fun place hplace => ?_⟩
  obtain ⟨who, hwho, hwatches⟩ : ∃ who, w.watchers[place]? = some who ∧ who.watches = true := by
    rw [hwatchers]
    match place, hplace with
    | 0, _ | 1, _ | 2, _ | 3, _ => exact ⟨_, rfl, rfl⟩
  exact (hheed place who 5 [] hwho hwatches).1.mpr hwatched

/-- With nobody there when the session closes, nobody who comes later hears of it: the one who asks for the
signal does not see it, the one who waits waits on, and neither loop takes its exit. -/
theorem close_unheeded :
    let s : Session Empty := .new 0 (Settings.server "localhost" 6380) .line
    let v := Vigil.start s .zero
    let w := (v.move 0 (.deed .close)).run
      [(1, .subscribe), (2, .await), (3, .startWriting), (4, .startReading)]
    v.session.close.1 = true ∧ w.watchers = [.receiver, .caller, .writer 0 [], .reader] ∧
      w.session.closeSignal.raised = false ∧
      ∀ place later outcomes, w.heed? place later outcomes = none := by
  intro s v w
  have hquiet : w.session.closeSignal.raised = false := by decide
  refine ⟨by decide, by decide, hquiet, fun place later outcomes => ?_⟩
  rw [Vigil.heed?, hquiet]
  rfl

end SessionEngine
