import SessionEngine.Framing.Split

/-! Framing by silence: what is buffered is one message once no byte has arrived for a while. -/

namespace SessionEngine.Silence

/-- The answer about `buffered` bytes of which the last arrived `idle` nanoseconds ago, if any ever
did, when a message ends after `window` nanoseconds of silence. -/
def decide (buffered : Nat) (idle : Option Nat) (window : Nat) : Split :=
  match idle with
  | some quiet => if 0 < buffered ∧ window ≤ quiet then .complete buffered else .needMore
  | none => .needMore

theorem decide_eq_complete_iff {buffered window n : Nat} {idle : Option Nat} :
    decide buffered idle window = .complete n ↔
      n = buffered ∧ 0 < buffered ∧ ∃ quiet, idle = some quiet ∧ window ≤ quiet := by
  cases idle with
  | none => simp [decide]
  | some quiet =>
    simp only [decide, Option.some.injEq, exists_eq_left']
    split <;> simp_all [eq_comm]

end SessionEngine.Silence
