import SessionEngine.Proofs.Session.Asking

/-! Dispatching with any splitter whatsoever. The rounds of a dispatch are followed one by one (`Rounds`):
each takes at least a byte off the buffer, so that they come to an end (`Rounds.length_le`), and what is
fired and counted is told by them alone (`Rounds.dispatchAll`). The splitter is never asked twice about as
many bytes, so one that remembers what it was asked before gets no further than one that does not
(`exists_splitter`). -/

namespace SessionEngine

variable {ε : Type}

/-- A round of a dispatch: the session that takes a message off its buffer, and the message. -/
structure Round (ε : Type) where
  session : Session ε
  message : Bytes

/-- A splitter that remembers what it was asked before, oldest first. -/
abbrev MindfulSplitter := List SplitView → SplitView → Except Error Split

namespace Session

/-- The session after the attempt to take a message that takes none. -/
def complain (s : Session ε) : Option Error → Session ε
  | none => s
  | some e => s.fire (.exception e)

variable {s s' last : Session ε} {now : Nat} {message : Bytes} {rounds : List (Round ε)}

/-- The sessions that attempt to take a message, in order. -/
def attempts (rounds : List (Round ε)) (last : Session ε) : List (Session ε) :=
  rounds.map Round.session ++ [last]

theorem attempts_withSplitter (splitter : Splitter) (rounds : List (Round ε)) (last : Session ε) :
    attempts (rounds.map fun r => ⟨r.session.withSplitter splitter, r.message⟩)
      (last.withSplitter splitter) = (attempts rounds last).map (·.withSplitter splitter) := by
  simp [attempts, Function.comp_def]

/-- At each attempt to take a message from a buffer that is not empty, the splitter answers as `mindful`
does behind what was asked before. -/
def AnswersAs (mindful : MindfulSplitter) (now : Nat) (asked : List (Session ε)) : Prop :=
  ∀ before t after, asked = before ++ t :: after → t.buffer.contents ≠ [] →
    t.splitter (t.view now) = mindful (before.map (·.view now)) (t.view now)

theorem answersAs_cons {mindful : MindfulSplitter} {first : Session ε} {asked : List (Session ε)}
    (hfirst : first.splitter (first.view now) = mindful [] (first.view now))
    (hrest : AnswersAs (fun before v => mindful (first.view now :: before) v) now asked) :
    AnswersAs mindful now (first :: asked) := by
  intro before t after hasked hne
  cases before with
  | nil =>
    obtain ⟨rfl, -⟩ := List.cons.inj hasked
    exact hfirst
  | cons b before =>
    obtain ⟨rfl, hlater⟩ := List.cons.inj hasked
    exact hrest before t after hlater hne

/-- The answers count, and not the splitter that gives them. -/
theorem AnswersAs.withSplitter {mindful : MindfulSplitter} {asked : List (Session ε)} {splitter : Splitter}
    (h : AnswersAs mindful now asked)
    (hanswers : ∀ t ∈ asked, splitter (t.view now) = t.splitter (t.view now)) :
    AnswersAs mindful now (asked.map (·.withSplitter splitter)) := by
  intro before t after hasked hne
  obtain ⟨before, rest, rfl, rfl, hrest⟩ := List.map_eq_append_iff.mp hasked
  obtain ⟨t, after, rfl, rfl, rfl⟩ := List.map_eq_cons_iff.mp hrest
  have hanswer := hanswers t (List.mem_append_right before List.mem_cons_self)
  rw [List.map_map]
  exact hanswer.trans (h before t after rfl hne)

variable [Tls.RecordEngine ε]

/-- The rounds of a dispatch, each of which takes a message and fires it, and the session that takes none. -/
inductive Rounds (now : Nat) : Session ε → List (Round ε) → Session ε → Prop
  | last {s : Session ε} (h : ∀ message s', s.takeMessage now ≠ (.ok (some message), s')) :
      Rounds now s [] s
  | more {s s' last : Session ε} {message : Bytes} {rounds : List (Round ε)}
      (h : s.takeMessage now = (.ok (some message), s'))
      (hrest : Rounds now (s'.fire (.receive message)) rounds last) :
      Rounds now s (⟨s, message⟩ :: rounds) last

theorem dispatchAll_of_some (h : s.takeMessage now = (.ok (some message), s')) :
    s.dispatchAll now = (((s'.fire (.receive message)).dispatchAll now).1 + 1,
      ((s'.fire (.receive message)).dispatchAll now).2) := by
  rw [dispatchAll]
  split
  next heq => rw [h] at heq; cases heq; rfl
  next heq => rw [h] at heq; cases heq
  next heq => rw [h] at heq; cases heq

/-- An attempt that takes no message changes nothing, and the answer of the splitter tells why it does not. -/
theorem exists_stops (h : ∀ message s', s.takeMessage now ≠ (.ok (some message), s')) :
    ∃ failure, s.Stops now failure ∧ s.dispatchAll now = (0, s.complain failure) ∧
      s.takeMessage now = (failure.elim (.ok none) .error, s) := by
  rcases takeMessage_cases s now with ⟨message, s', htake⟩ | htake | ⟨e, htake⟩
  · exact absurd htake (h message s')
  · refine ⟨none, stops_of_none htake, ?_, htake⟩
    rw [dispatchAll]
    split
    next heq => rw [htake] at heq; cases heq
    next heq => rw [htake] at heq; cases heq; rfl
    next heq => rw [htake] at heq; cases heq
  · refine ⟨some e, stops_of_error htake, ?_, htake⟩
    rw [dispatchAll]
    split
    next heq => rw [htake] at heq; cases heq
    next heq => rw [htake] at heq; cases heq
    next heq => rw [htake] at heq; cases heq; rfl

namespace Rounds

/-- Every round takes a byte at least. -/
theorem length_le (h : s.Rounds now rounds last) :
    rounds.length + last.buffer.length ≤ s.buffer.length := by
  induction h with
  | last _ => exact Nat.le_of_eq (Nat.zero_add _)
  | more htake _ ih =>
    have hshorter := length_lt_of_takeMessage htake
    rw [buffer_fire] at ih
    rw [List.length_cons]
    omega

/-- A message is not empty, stands at the head of the buffer, and is as long as the splitter has said. -/
theorem cut (h : s.Rounds now rounds last) : ∀ r ∈ rounds, r.message ≠ [] ∧
    r.message <+: r.session.buffer.contents ∧
    r.session.splitter (r.session.view now) = .ok (.complete r.message.length) := by
  induction h with
  | last _ => exact List.forall_mem_nil _
  | more htake _ ih =>
    refine List.forall_mem_cons.mpr ⟨⟨(takeMessage_some htake).1, ?_, split_of_message htake⟩, ih⟩
    obtain ⟨-, buffer, hbuffer, -⟩ := takeMessage_some htake
    rw [(Buffer.contents_take? hbuffer).1]
    exact List.prefix_append _ _

theorem stopped (h : s.Rounds now rounds last) :
    ∀ message s', last.takeMessage now ≠ (.ok (some message), s') := by
  induction h with
  | last hnone => exact hnone
  | more _ _ ih => exact ih

/-- A dispatch is its rounds: it counts them, and leaves what the last attempt leaves. -/
theorem dispatchAll (h : s.Rounds now rounds last) :
    s.dispatchAll now = (rounds.length, (last.dispatchAll now).2) := by
  induction h with
  | last hnone =>
    obtain ⟨failure, -, hlast, -⟩ := exists_stops hnone
    rw [hlast]
    rfl
  | more htake _ ih =>
    rw [dispatchAll_of_some htake, ih]
    rfl

theorem events (h : s.Rounds now rounds last) :
    last.events = (rounds.map fun r => Event.receive r.message).foldl EventQueue.fire s.events := by
  induction h with
  | last _ => rfl
  | @more s s' last message rounds htake _ ih =>
    have hkept := (kept_takeMessage s now).events
    rw [htake] at hkept
    rw [ih, events_fire, List.map_cons, List.foldl_cons]
    exact congrArg (fun q => List.foldl EventQueue.fire (q.fire (.receive message)) _) hkept

end Rounds

/-- With any splitter the rounds come to an end. -/
theorem exists_rounds (s : Session ε) (now : Nat) : ∃ rounds last, s.Rounds now rounds last := by
  fun_induction Session.dispatchAll s now with
  | case1 s message s' htake _ n t _ ih =>
    obtain ⟨rounds, last, hrest⟩ := ih
    exact ⟨⟨s, message⟩ :: rounds, last, .more htake hrest⟩
  | case2 s s' htake => exact ⟨[], s, .last fun m t h => by rw [htake] at h; cases h⟩
  | case3 s e s' htake => exact ⟨[], s, .last fun m t h => by rw [htake] at h; cases h⟩

/-! ### Splitters with a memory -/

theorem Rounds.length_attempts_le (h : s.Rounds now rounds last) :
    ∀ t ∈ attempts rounds last, t.buffer.length ≤ s.buffer.length := by
  induction h with
  | last _ => simp [attempts]
  | @more s s' last message rounds htake _ ih =>
    have hshorter := length_lt_of_takeMessage htake
    refine List.forall_mem_cons.mpr ⟨Nat.le_refl _, fun t ht => ?_⟩
    have hle := ih t ht
    rw [buffer_fire] at hle
    omega

theorem Rounds.splitter_eq (h : s.Rounds now rounds last) :
    ∀ t ∈ attempts rounds last, t.splitter = s.splitter := by
  induction h with
  | last _ => simp [attempts]
  | @more s s' last message rounds htake _ ih =>
    have hkept := (kept_takeMessage s now).splitter
    rw [htake] at hkept
    exact List.forall_mem_cons.mpr ⟨rfl, fun t ht => (ih t ht).trans hkept⟩

/-- Another splitter that gives the same answers makes the same rounds. -/
theorem Rounds.withSplitter {splitter : Splitter} (h : s.Rounds now rounds last)
    (hanswers : ∀ t ∈ attempts rounds last, splitter (t.view now) = t.splitter (t.view now)) :
    (s.withSplitter splitter).Rounds now
      (rounds.map fun r => ⟨r.session.withSplitter splitter, r.message⟩) (last.withSplitter splitter) := by
  induction h with
  | @last s hnone =>
    refine .last fun message t htake => ?_
    rw [takeMessage_withSplitter (hanswers s (List.mem_append_right _ List.mem_cons_self))] at htake
    exact hnone message (s.takeMessage now).2 (Prod.ext (Prod.mk.inj htake).1 rfl)
  | @more s s' last message rounds htake _ ih =>
    have hfirst := takeMessage_withSplitter (hanswers s List.mem_cons_self)
    rw [htake] at hfirst
    exact .more hfirst (ih fun t ht => hanswers t (List.mem_cons_of_mem s ht))

/-- Whatever a splitter with a memory answers, some splitter without one answers in its place. -/
theorem exists_splitter (mindful : MindfulSplitter) (s : Session ε) (now : Nat) :
    ∃ splitter rounds last, (s.withSplitter splitter).Rounds now rounds last ∧
      AnswersAs mindful now (attempts rounds last) := by
  -- The induction is on the length of the buffer, which every message makes shorter.
  induction hlength : s.buffer.length using Nat.strongRecOn generalizing s mindful with
  | _ length ih =>
    let first : Splitter := fun _ => mindful [] (s.view now)
    by_cases hsome : ∃ message s', (s.withSplitter first).takeMessage now = (.ok (some message), s')
    · obtain ⟨message, s', htake⟩ := hsome
      have hshorter : s'.buffer.length < s.buffer.length :=
        length_lt_of_takeMessage (s := s.withSplitter first) htake
      obtain ⟨later, rounds, last, hrounds, hanswers⟩ := ih _ (hlength ▸ hshorter)
        (fun before v => mindful (s.view now :: before) v) (s'.fire (.receive message)) rfl
      -- What is asked later is shorter than what is asked first.
      let splitter : Splitter := fun v =>
        if v.bytes.length = s.buffer.length then mindful [] (s.view now) else later v
      have hlater : ∀ t ∈ attempts rounds last, splitter (t.view now) = t.splitter (t.view now) := by
        intro t ht
        have hle : t.buffer.length ≤ s'.buffer.length := hrounds.length_attempts_le t ht
        have hne : t.buffer.length ≠ s.buffer.length := by omega
        rw [hrounds.splitter_eq t ht]
        exact if_neg hne
      have hfirst : splitter (s.view now) = first (s.view now) := if_pos rfl
      have hsame := takeMessage_withSplitter (s := s.withSplitter first) hfirst
      rw [htake] at hsame
      refine ⟨splitter, _, _, .more hsame (hrounds.withSplitter hlater), ?_⟩
      have hattempts := hanswers.withSplitter hlater
      rw [← attempts_withSplitter] at hattempts
      exact answersAs_cons hfirst hattempts
    · have hnone : ∀ message s', (s.withSplitter first).takeMessage now ≠ (.ok (some message), s') :=
        fun message s' htake => hsome ⟨message, s', htake⟩
      exact ⟨first, [], _, .last hnone, answersAs_cons rfl fun before t after hasked => by simp at hasked⟩

end Session

variable [Tls.RecordEngine ε]

open Session in
/-- A dispatch of a session with a handler, with any splitter and any buffer, with or without a
heartbeat. It ends: it takes messages in rounds, no more than there are bytes, and stops at the first
attempt for which the splitter finds none whole or which fails. Every message is a head of the buffer at
that moment, not empty and as long as the splitter has said. The attempt that stops it changes nothing;
if it fails then its one failure is fired. What is counted are the messages, each of which is fired once.
A splitter that remembers what it was asked before is no exception: what it answers in one dispatch, one
without a memory answers too. -/
theorem dispatch_of_any_splitter {s : Session ε} (hhandled : s.settings.handled = true) (now : Nat) :
    (∃ rounds last failure, s.Rounds now rounds last ∧ rounds.length ≤ s.buffer.length ∧
      (∀ r ∈ rounds, r.message ≠ [] ∧ r.message <+: r.session.buffer.contents ∧
        r.session.splitter (r.session.view now) = .ok (.complete r.message.length)) ∧
      last.Stops now failure ∧ last.takeMessage now = (failure.elim (.ok none) .error, last) ∧
      s.dispatch now = (rounds.length, last.complain failure) ∧
      (s.dispatch now).2.buffer = last.buffer ∧
      (s.dispatch now).2.events = ((rounds.map fun r => Event.receive r.message) ++
        failure.toList.map Event.exception).foldl EventQueue.fire s.events) ∧
    ∀ mindful : MindfulSplitter, ∃ splitter rounds last,
      (s.withSplitter splitter).Rounds now rounds last ∧ AnswersAs mindful now (attempts rounds last) := by
  refine ⟨?_, fun mindful => exists_splitter mindful s now⟩
  obtain ⟨rounds, last, hrounds⟩ := exists_rounds s now
  obtain ⟨failure, hstops, hlast, htake⟩ := exists_stops hrounds.stopped
  have hdispatch : s.dispatch now = (rounds.length, last.complain failure) := by
    rw [dispatch, if_pos hhandled, hrounds.dispatchAll, hlast]
  have hlength := hrounds.length_le
  refine ⟨rounds, last, failure, hrounds, by omega, hrounds.cut, hstops, htake, hdispatch, ?_, ?_⟩
  · rw [hdispatch]
    cases failure <;> rfl
  · rw [hdispatch, List.foldl_append, ← hrounds.events]
    cases failure with
    | none => rfl
    | some e => exact events_fire last (.exception e)

open Session in
/-- A splitter that asks for more than there is behind the first message, which is followed by a ping. -/
theorem dispatch_of_any_splitter_greedy :
    let greedy : Splitter := fun v => .ok (.complete (if v.bytes.length = 4 then 2 else 5))
    let fresh : Session Empty := .new 0 { Settings.server "localhost" 6380 with handled := true } greedy
    let s := ((fresh.attach [7] [8] .initiator).2.feed 0 [1, 2, 7, 3]).2
    s.settings.handled = true ∧ s.buffer.contents = [1, 2, 7, 3] ∧
      (s.dispatch 0).2.events.pending =
        [.receive [1, 2], .exception (.splitter (.beyondBuffer 5 1))] ∧
      ∃ rounds last failure, s.Rounds 0 rounds last ∧ rounds.length = 1 ∧
        last.Stops 0 (some failure) ∧ last.buffer.contents = [3] := by
  intro greedy fresh s
  have hhandled : s.settings.handled = true := by decide +kernel
  have hpending : (s.dispatch 0).2.events.pending =
      [.receive [1, 2], .exception (.splitter (.beyondBuffer 5 1))] := by decide +kernel
  obtain ⟨⟨rounds, last, failure, hrounds, -, -, hstops, -, hdispatch, hbuffer, hevents⟩, -⟩ :=
    dispatch_of_any_splitter hhandled 0
  have hcount : (s.dispatch 0).1 = 1 := by decide +kernel
  have hleft : (s.dispatch 0).2.buffer.contents = [3] := by decide +kernel
  rw [hbuffer] at hleft
  rw [hdispatch] at hcount
  cases failure with
  | some e =>
    exact ⟨hhandled, by decide +kernel, hpending, rounds, last, e, hrounds, hcount, hstops, hleft⟩
  | none =>
    -- The splitter never asks for more.
    have hfed : s.splitter = greedy := (kept_feed (fresh.attach [7] [8] .initiator).2 0 _).splitter
    have hgreedy : last.splitter = greedy :=
      (hrounds.splitter_eq last (List.mem_append_right _ List.mem_cons_self)).trans hfed
    rcases hstops with hempty | hmore
    · rw [hleft] at hempty
      cases hempty
    · rw [hgreedy] at hmore
      cases hmore

end SessionEngine
