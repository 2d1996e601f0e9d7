import SessionEngine.Framing.Cut
import SessionEngine.Splitter

/-! Cutting a byte string that is still growing. The main statement is `all_append`: to cut a string
and more behind it is to cut the string, and then what was left over with the rest behind it. So the chunks
that a string comes in make no difference (`ofChunks_eq`). It holds of every framing whose answers stand
whatever comes later, as those of lines and of lengths do (`stable_find`). -/

namespace SessionEngine

/-- The framings whose answers depend on the bytes alone. -/
inductive Framing where
  | line
  | length (limit : Nat)
  deriving DecidableEq, Repr

namespace Framing

/-- The answer of a framing about the bytes at hand. -/
def find : Framing → Bytes → Except SplitFault Split
  | .line, data => .ok (Line.find data)
  | .length limit, data => Length.find limit data

def splitter : Framing → Splitter
  | .line => .line
  | .length limit => .length limit

theorem splitter_eq (f : Framing) (v : SplitView) :
    f.splitter v = (f.find v.bytes).mapError .splitter := by
  cases f <;> rfl

end Framing

namespace Cut

/-- An answer other than to wait for more stands, whatever comes later. -/
structure Stable (find : Bytes → Except SplitFault Split) : Prop where
  complete : ∀ {data : Bytes} {n : Nat}, find data = .ok (.complete n) →
    n ≤ data.length ∧ ∀ more, find (data ++ more) = .ok (.complete n)
  error : ∀ {data : Bytes} {fault : SplitFault}, find data = .error fault →
    ∀ more, find (data ++ more) = .error fault

theorem stable_line : Stable Framing.line.find := by
  refine ⟨fun {data n} h => ?_, fun {data fault} h => by cases h⟩
  obtain ⟨line, rest, rfl, hline, rfl⟩ := Line.find_eq_complete_iff.mp (Except.ok.inj h)
  refine ⟨by simp only [List.length_append, List.length_cons]; omega, fun more => ?_⟩
  refine congrArg Except.ok (Line.find_eq_complete_iff.mpr ⟨line, rest ++ more, ?_, hline, rfl⟩)
  rw [List.append_assoc, List.cons_append]

theorem announced_append {data : Bytes} (h : Length.headerLength ≤ data.length) (more : Bytes) :
    Length.announced (data ++ more) = Length.announced data := by
  rw [Length.announced, List.take_append_of_le_length h, Length.announced]

theorem stable_length (limit : Nat) : Stable (Framing.length limit).find := by
  refine ⟨fun {data n} h => ?_, fun {data fault} h more => ?_⟩
  · simp only [Framing.find, Length.find] at h ⊢
    split at h
    · cases h
    next hheader =>
      split at h
      · cases h
      next hbig =>
        split at h
        · cases h
        next hbody =>
          cases h
          refine ⟨by omega, fun more => ?_⟩
          have hlength : (data ++ more).length = data.length + more.length := List.length_append
          rw [announced_append (by omega), if_neg (by omega), if_neg hbig, if_neg (by omega)]
  · obtain ⟨hheader, hbig, rfl⟩ := Length.find_eq_error_iff.mp h
    refine Length.find_eq_error_iff.mpr ?_
    rw [announced_append hheader]
    exact ⟨by rw [List.length_append]; omega, hbig, rfl⟩

theorem stable_find (f : Framing) : Stable f.find := by
  cases f with
  | line => exact stable_line
  | length limit => exact stable_length limit

variable {find : Bytes → Except SplitFault Split}

theorem Stable.step?_append (h : Stable find) {data part rest : Bytes}
    (hstep : step? find data = .ok (some (part, rest))) (more : Bytes) :
    step? find (data ++ more) = .ok (some (part, rest ++ more)) := by
  unfold step? at hstep
  split at hstep
  · cases hstep
  next hne =>
    split at hstep
    · cases hstep
    · cases hstep
    · cases hstep
    next n hfind =>
      obtain ⟨hle, hmore⟩ := h.complete hfind
      rw [if_pos hle] at hstep
      cases hstep
      have hne' : ¬ (data ++ more).isEmpty = true := by simp_all
      have hle' : n + 1 ≤ (data ++ more).length := by rw [List.length_append]; omega
      simp only [step?, if_neg hne', hmore more, if_pos hle']
      rw [List.take_append_of_le_length hle, List.drop_append_of_le_length hle]

theorem Stable.step?_append_error (h : Stable find) {data : Bytes} {fault : SplitFault}
    (hstep : step? find data = .error fault) (more : Bytes) :
    step? find (data ++ more) = .error fault := by
  unfold step? at hstep
  split at hstep
  · cases hstep
  next hne =>
    have hne' : ¬ (data ++ more).isEmpty = true := by simp_all
    split at hstep
    next hfind =>
      cases hstep
      simp only [step?, if_neg hne', h.error hfind more]
    · cases hstep
    next hfind =>
      cases hstep
      simp only [step?, if_neg hne', (h.complete hfind).2 more]
    next n hfind =>
      rw [if_pos (h.complete hfind).1] at hstep
      cases hstep

/-- The cut with messages before its own. -/
def after (done : List Bytes) (cut : Cut) : Cut := { cut with parts := done ++ cut.parts }

@[simp] theorem after_nil (cut : Cut) : cut.after [] = cut := rfl

theorem after_after (done more : List Bytes) (cut : Cut) :
    (cut.after more).after done = cut.after (done ++ more) := by
  simp [after]

/-! ### Cutting step by step -/

theorem loop_of_error {data : Bytes} {fault : SplitFault} (h : step? find data = .error fault)
    (done : List Bytes) : loop find done data = ⟨done.reverse, some fault, data⟩ := by
  rw [loop]; split <;> simp_all

theorem loop_of_none {data : Bytes} (h : step? find data = .ok none) (done : List Bytes) :
    loop find done data = ⟨done.reverse, none, data⟩ := by
  rw [loop]; split <;> simp_all

theorem loop_of_some {data part rest : Bytes} (h : step? find data = .ok (some (part, rest)))
    (done : List Bytes) : loop find done data = loop find (part :: done) rest := by
  rw [loop]; split <;> simp_all

theorem loop_append (done more : List Bytes) (data : Bytes) :
    loop find (done ++ more) data = (loop find done data).after more.reverse := by
  fun_induction loop find done data with
  | case1 done data fault h => rw [loop_of_error h, List.reverse_append]; rfl
  | case2 done data h => rw [loop_of_none h, List.reverse_append]; rfl
  | case3 done data part rest h _ ih => rw [loop_of_some h]; exact ih

theorem all_of_error {data : Bytes} {fault : SplitFault} (h : step? find data = .error fault) :
    all find data = ⟨[], some fault, data⟩ := loop_of_error h []

theorem all_of_none {data : Bytes} (h : step? find data = .ok none) :
    all find data = ⟨[], none, data⟩ := loop_of_none h []

theorem all_of_some {data part rest : Bytes} (h : step? find data = .ok (some (part, rest))) :
    all find data = (all find rest).after [part] :=
  (loop_of_some h []).trans (loop_append [] [part] rest)

/-- What is left over holds no further message; it starts with the fault, if there was one. -/
theorem step?_rest (data : Bytes) :
    step? find (all find data).rest =
      match (all find data).fault with
      | some fault => .error fault
      | none => .ok none := by
  induction hlength : data.length using Nat.strongRecOn generalizing data with
  | _ n ih =>
    cases hstep : step? find data with
    | error fault => rw [all_of_error hstep]; exact hstep
    | ok found =>
      rcases found with _ | ⟨part, rest⟩
      · rw [all_of_none hstep]; exact hstep
      · rw [all_of_some hstep]
        exact ih rest.length (hlength ▸ (step?_some hstep).2) rest rfl

theorem all_rest (data : Bytes) :
    all find (all find data).rest = ⟨[], (all find data).fault, (all find data).rest⟩ := by
  have hstep : step? find (all find data).rest = _ := step?_rest data
  cases hfault : (all find data).fault with
  | none => rw [hfault] at hstep; exact all_of_none hstep
  | some fault => rw [hfault] at hstep; exact all_of_error hstep

theorem rest_of_parts_nil {data : Bytes} (h : (all find data).parts = []) :
    (all find data).rest = data := by
  have hflat := flatten_parts_append_rest find data
  rw [h] at hflat
  exact hflat

/-- Cutting goes on where it stopped when more comes in. -/
theorem Stable.all_append (h : Stable find) (data more : Bytes) :
    all find (data ++ more) =
      (all find ((all find data).rest ++ more)).after (all find data).parts := by
  -- Each message that is cut off leaves a shorter string to go on with.
  induction hlength : data.length using Nat.strongRecOn generalizing data with
  | _ n ih =>
    cases hstep : step? find data with
    | error fault => rw [all_of_error hstep, after_nil]
    | ok found =>
      rcases found with _ | ⟨part, rest⟩
      · rw [all_of_none hstep, after_nil]
      · have hrest := ih rest.length (hlength ▸ (step?_some hstep).2) rest rfl
        rw [all_of_some hstep, all_of_some (h.step?_append hstep more), hrest, after_after]
        rfl

/-- The cut of a string that comes in chunks: what was left over is cut again, with the next chunk behind
it. -/
def ofChunks (find : Bytes → Except SplitFault Split) (chunks : List Bytes) : Cut :=
  chunks.foldl (fun cut chunk => (all find (cut.rest ++ chunk)).after cut.parts) ⟨[], none, []⟩

/-- The chunks that a string comes in make no difference. -/
theorem Stable.ofChunks_eq (h : Stable find) (chunks : List Bytes) :
    ofChunks find chunks = all find chunks.flatten := by
  suffices hrun : ∀ data : Bytes,
      chunks.foldl (fun cut chunk => (all find (cut.rest ++ chunk)).after cut.parts) (all find data) =
        all find (data ++ chunks.flatten) by
    have hempty : all find [] = ⟨[], none, []⟩ := all_of_none rfl
    rw [ofChunks, ← hempty]
    exact hrun []
  induction chunks with
  | nil => intro data; rw [List.flatten_nil, List.append_nil]; rfl
  | cons chunk chunks ih =>
    intro data
    rw [List.foldl_cons, ← h.all_append, ih, List.flatten_cons, List.append_assoc]

/-- Nothing that comes in mends a fault. -/
theorem Stable.fault_append (h : Stable find) {data : Bytes} {fault : SplitFault}
    (hfault : (all find data).fault = some fault) (more : Bytes) :
    (all find (data ++ more)).fault = some fault := by
  have hrest : step? find (all find data).rest = _ := step?_rest data
  simp only [hfault] at hrest
  rw [h.all_append, all_of_error (h.step?_append_error hrest more)]
  rfl

end Cut

end SessionEngine
