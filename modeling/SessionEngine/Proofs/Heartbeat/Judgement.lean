import Mathlib.Data.List.DropRight
import SessionEngine.Proofs.Heartbeat.Items

/-! What a heartbeat remembers of its history: whether there was a beat, whether a pong came since the last
one, and how many beats in a row have failed (`Heartbeat.Recalls`). So the next beat gives what is `due`
(`Recalls.alive_eq`), and it keeps being so with every beat and with all that is heard (`Recalls.turns`). -/

namespace SessionEngine

/-- What happens to a heartbeat: a beat and its result, or a token that it hears. -/
inductive Mark where
  | beat (alive : Bool)
  | token (token : Token)
  deriving DecidableEq, Repr

namespace Mark

def alive? : Mark → Option Bool
  | .beat alive => some alive
  | .token _ => none

/-- The results of the beats. -/
def results (marks : List Mark) : List Bool := marks.filterMap alive?

/-- What came behind the last beat. -/
def sinceBeat (marks : List Mark) : List Mark := marks.rtakeWhile fun m => m.alive?.isNone

/-- How many beats in a row have failed by now. -/
def misses (marks : List Mark) : Nat := ((results marks).rtakeWhile fun alive => !alive).length

/-- What the next beat is to give: nothing is amiss before the first one, and then a pong must have come. -/
def due (marks : List Mark) : Bool :=
  (results marks).isEmpty || (sinceBeat marks).contains (.token .pong)

variable {marks earlier since : List Mark} {alive : Bool} {t : Token}

theorem results_token : results (marks ++ [.token t]) = results marks := by
  simp [results, alive?]

theorem results_beat : results (marks ++ [.beat alive]) = results marks ++ [alive] := by
  simp [results, alive?]

theorem sinceBeat_token : sinceBeat (marks ++ [.token t]) = sinceBeat marks ++ [.token t] :=
  List.rtakeWhile_concat_pos _ _ _ rfl

theorem sinceBeat_beat : sinceBeat (marks ++ [.beat alive]) = [] :=
  List.rtakeWhile_concat_neg _ _ _ (by simp [alive?])

theorem misses_token : misses (marks ++ [.token t]) = misses marks := by
  rw [misses, results_token, misses]

theorem misses_answered : misses (marks ++ [.beat true]) = 0 := by
  simp [misses, results_beat]

theorem misses_missed : misses (marks ++ [.beat false]) = misses marks + 1 := by
  simp [misses, results_beat]

/-- What came behind the last beat, by where that was. -/
theorem sinceBeat_of_last (h : results since = []) :
    sinceBeat (earlier ++ .beat alive :: since) = since := by
  induction since using List.reverseRecOn with
  | nil => exact sinceBeat_beat
  | append_singleton since m ih =>
    cases m with
    | beat result => simp [results_beat] at h
    | token t =>
      rw [results_token] at h
      rw [← List.cons_append, ← List.append_assoc, sinceBeat_token, ih h]

theorem due_of_first (h : results marks = []) : due marks = true := by
  simp [due, h]

/-- Behind a beat, the next one is to give whether a pong came in between. -/
theorem due_of_last (h : results since = []) :
    due (earlier ++ .beat alive :: since) = true ↔ .token .pong ∈ since := by
  have hresults : results (earlier ++ .beat alive :: since) ≠ [] := by simp [results, alive?]
  rw [due, sinceBeat_of_last h, List.isEmpty_eq_false_iff.mpr hresults]
  simp

end Mark

namespace Heartbeat

/-- What a heartbeat knows of what has happened to it. -/
structure Recalls (h : Heartbeat) (marks : List Mark) : Prop where
  idle : h.phase = .idle ↔ Mark.results marks = []
  answered : h.answered = (Mark.sinceBeat marks).contains (.token .pong)
  failures : h.failures = UInt32.ofNat (Mark.misses marks)

/-- How a heartbeat changes: it hears tokens, or it beats, and its ping may then fail to be sent. -/
inductive Turns (h : Heartbeat) : List Mark → Heartbeat → Prop
  | hears (tokens : List Token) : Turns h (tokens.map .token) (h.receive tokens)
  | beats (now : Nat) : Turns h [.beat h.alive] (h.beat now)
  | fails (now : Nat) : Turns h [.beat h.alive] (h.beat now).unsent

variable {h h' : Heartbeat} {marks more : List Mark}

theorem recalls_new (ping pong : Bytes) (role : BeatRole) : (new ping pong role).Recalls [] :=
  ⟨iff_of_true rfl rfl, rfl, rfl⟩

/-- A beat gives what is due. -/
theorem Recalls.alive_eq (hh : h.Recalls marks) : h.alive = Mark.due marks := by
  unfold alive Mark.due
  rw [hh.answered]
  cases hphase : h.phase with
  | idle => rw [hh.idle.mp hphase]; rfl
  | awaitingPong | failed =>
    have hresults : Mark.results marks ≠ [] := fun hnone => by simp [hh.idle.mpr hnone] at hphase
    rw [List.isEmpty_eq_false_iff.mpr hresults]
    rfl

theorem Recalls.token (hh : h.Recalls marks) (t : Token) :
    (h.receive [t]).Recalls (marks ++ [.token t]) := by
  refine ⟨?_, ?_, ?_⟩
  · rw [Mark.results_token]
    exact hh.idle
  · rw [Mark.sinceBeat_token]
    simp [receive, hh.answered]
  · rw [Mark.misses_token]
    exact hh.failures

theorem Recalls.receive (hh : h.Recalls marks) (tokens : List Token) :
    (h.receive tokens).Recalls (marks ++ tokens.map .token) := by
  induction tokens generalizing h marks with
  | nil => rwa [receive_nil, List.map_nil, List.append_nil]
  | cons t tokens ih =>
    have hrest := ih (hh.token t)
    rwa [receive_receive, List.append_assoc] at hrest

/-- A beat counts what it gives. -/
theorem Recalls.failures_beat (hh : h.Recalls marks) (now : Nat) :
    (h.beat now).failures = UInt32.ofNat (Mark.misses (marks ++ [.beat h.alive])) := by
  cases hphase : h.phase with
  | idle =>
    -- The first beat leaves the count alone, and nothing has failed before it.
    have halive : h.alive = true := by simp [alive, hphase]
    have hnone : Mark.misses marks = 0 := by simp [Mark.misses, hh.idle.mp hphase]
    rw [halive, Mark.misses_answered, ← hnone, ← hh.failures]
    simp [beat, hphase]
  | awaitingPong | failed =>
    have halive : h.alive = h.answered := by simp [alive, hphase]
    cases hanswered : h.answered with
    | true =>
      rw [halive, hanswered, Mark.misses_answered]
      simp [beat, hphase, hanswered]
    | false =>
      rw [halive, hanswered, Mark.misses_missed, UInt32.ofNat_add, ← hh.failures]
      simp [beat, hphase, hanswered]

theorem Recalls.beat (hh : h.Recalls marks) (now : Nat) :
    (h.beat now).Recalls (marks ++ [.beat h.alive]) := by
  refine ⟨?_, ?_, hh.failures_beat now⟩
  · have hphase : (h.beat now).phase ≠ .idle := by
      unfold Heartbeat.beat
      cases h.alive <;> simp
    simp [hphase, Mark.results_beat]
  · rw [Mark.sinceBeat_beat]
    rfl

/-- A ping that is not sent is one that was: only the phase changes, and not to that before the first
beat. -/
theorem Recalls.unsent (hh : h.Recalls marks) (hbeat : Mark.results marks ≠ []) :
    h.unsent.Recalls marks :=
  ⟨⟨nofun, fun hnone => absurd hnone hbeat⟩, hh.answered, hh.failures⟩

theorem Recalls.turns (hh : h.Recalls marks) (hturn : h.Turns more h') : h'.Recalls (marks ++ more) := by
  cases hturn with
  | hears tokens => exact hh.receive tokens
  | beats now => exact hh.beat now
  | fails now => exact (hh.beat now).unsent (by simp [Mark.results_beat])

end Heartbeat

end SessionEngine
