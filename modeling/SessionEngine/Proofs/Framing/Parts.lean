import SessionEngine.Proofs.Framing.Grammar
import SessionEngine.Proofs.Heartbeat.Lines

/-! The messages of a cut, and its fault. Each message is cut off what begins with it (`step?_part`), so none
is empty. Lines have no fault (`fault_line`), and lengths have one exactly where what is left over begins
with a header that announces too much (`fault_length_iff`). -/

namespace SessionEngine.Cut

variable {find : Bytes → Except SplitFault Split}

/-- Each message is cut off what is left when those before it are gone. -/
theorem step?_part {data part : Bytes} {early late : List Bytes}
    (h : (all find data).parts = early ++ part :: late) :
    step? find (part ++ (late.flatten ++ (all find data).rest)) =
      .ok (some (part, late.flatten ++ (all find data).rest)) := by
  induction early generalizing data with
  | nil =>
    cases hstep : step? find data with
    | error fault => rw [all_of_error hstep] at h; cases h
    | ok found =>
      rcases found with _ | ⟨part', rest⟩
      · rw [all_of_none hstep] at h; cases h
      · rw [all_of_some hstep] at h ⊢
        obtain ⟨rfl, rfl⟩ := List.cons.inj h
        change step? find (part' ++ ((all find rest).parts.flatten ++ (all find rest).rest)) =
          .ok (some (part', (all find rest).parts.flatten ++ (all find rest).rest))
        rw [flatten_parts_append_rest, ← (step?_some hstep).1]
        exact hstep
  | cons first early ih =>
    cases hstep : step? find data with
    | error fault => rw [all_of_error hstep] at h; cases h
    | ok found =>
      rcases found with _ | ⟨part', rest⟩
      · rw [all_of_none hstep] at h; cases h
      · rw [all_of_some hstep] at h ⊢
        exact ih (List.cons.inj h).2

/-- No message is empty. -/
theorem nil_notMem_parts (data : Bytes) : [] ∉ (all find data).parts := by
  intro hmem
  obtain ⟨early, late, hparts⟩ := List.append_of_mem hmem
  exact absurd (step?_some (step?_part hparts)).2 (Nat.lt_irrefl _)

theorem fault_eq_some_iff {data : Bytes} {fault : SplitFault} :
    (all find data).fault = some fault ↔ step? find (all find data).rest = .error fault := by
  have hrest : step? find (all find data).rest = _ := step?_rest data
  rw [hrest]
  cases (all find data).fault <;> simp

theorem fault_line (data : Bytes) : (all Framing.line.find data).fault = none := by
  refine Option.eq_none_iff_forall_ne_some.mpr fun fault hfault => ?_
  have hstep := fault_eq_some_iff.mp hfault
  rcases step?_line_cases (all Framing.line.find data).rest with ⟨-, hnone⟩ | ⟨text, rest, -, -, hsome⟩
  · rw [hnone] at hstep; cases hstep
  · rw [hsome] at hstep; cases hstep

theorem step?_length_error_iff {limit : Nat} {data : Bytes} {fault : SplitFault} :
    step? (Length.find limit) data = .error fault ↔
      Length.headerLength ≤ data.length ∧ limit < Length.announced data ∧
        fault = .frameTooLarge (Length.announced data) limit := by
  rw [← Length.find_eq_error_iff]
  unfold step?
  split
  next hempty => rw [List.isEmpty_iff.mp hempty]; simp [Length.find, Length.headerLength]
  · cases hfind : Length.find limit data with
    | error cause => simp
    | ok answer =>
      rcases answer with _ | _ | n
      · simp
      · have hheader := (Length.find_complete_iff.mp hfind).1
        simp [Length.headerLength] at hheader
      · have hfits : n + 1 ≤ data.length := (Length.find_complete_iff.mp hfind).2.1
        simp [hfits]

theorem fault_length_iff {limit : Nat} {data : Bytes} {fault : SplitFault} :
    (all (Length.find limit) data).fault = some fault ↔
      Length.headerLength ≤ (all (Length.find limit) data).rest.length ∧
        limit < Length.announced (all (Length.find limit) data).rest ∧
          fault = .frameTooLarge (Length.announced (all (Length.find limit) data).rest) limit :=
  fault_eq_some_iff.trans step?_length_error_iff

end SessionEngine.Cut
