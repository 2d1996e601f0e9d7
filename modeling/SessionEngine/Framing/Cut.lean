import SessionEngine.Framing.Split

/-! Cutting a whole byte string into messages. The main statement is `flatten_parts_append_rest`:
the messages and the remainder, put together again, are the string. -/

namespace SessionEngine

/-- What cutting a byte string gives: the messages, why it stopped, and what is left over. -/
structure Cut where
  parts : List Bytes
  fault : Option SplitFault
  rest : Bytes
  deriving DecidableEq, Repr

namespace Cut

/-- One step of cutting: the message at the head of `data` and what follows it. -/
def step? (find : Bytes → Except SplitFault Split) (data : Bytes) :
    Except SplitFault (Option (Bytes × Bytes)) :=
  if data.isEmpty then .ok none
  else match find data with
    | .error fault => .error fault
    | .ok .needMore => .ok none
    | .ok (.complete 0) => .error .emptyMessage
    | .ok (.complete (n + 1)) =>
      if n + 1 ≤ data.length then .ok (some (data.take (n + 1), data.drop (n + 1)))
      else .error (.beyondBuffer (n + 1) data.length)

theorem step?_some {find : Bytes → Except SplitFault Split} {data part rest : Bytes}
    (h : step? find data = .ok (some (part, rest))) :
    data = part ++ rest ∧ rest.length < data.length := by
  unfold step? at h
  split at h
  · simp at h
  · split at h <;> try simp at h
    split at h
    · simp only [Except.ok.injEq, Option.some.injEq, Prod.mk.injEq] at h
      obtain ⟨rfl, rfl⟩ := h
      exact ⟨(List.take_append_drop ..).symm, by rw [List.length_drop]; omega⟩
    · simp at h

/-- Cuts `data` as long as `find` reports messages, with `done` the messages cut so far, last one
first. -/
def loop (find : Bytes → Except SplitFault Split) (done : List Bytes) (data : Bytes) : Cut :=
  match h : step? find data with
  | .error fault => ⟨done.reverse, some fault, data⟩
  | .ok none => ⟨done.reverse, none, data⟩
  | .ok (some (part, rest)) =>
    have : rest.length < data.length := (step?_some h).2
    loop find (part :: done) rest
  termination_by data.length

/-- The messages that `find` reports in `data`, cut off one after the other until it asks for more,
complains, or nothing is left. -/
def all (find : Bytes → Except SplitFault Split) (data : Bytes) : Cut := loop find [] data

theorem flatten_loop (find : Bytes → Except SplitFault Split) (done : List Bytes) (data : Bytes) :
    (loop find done data).parts.flatten ++ (loop find done data).rest =
      done.reverse.flatten ++ data := by
  fun_induction loop find done data with
  | case1 => rfl
  | case2 => rfl
  | case3 done data part rest h _ ih =>
    rw [ih, (step?_some h).1]
    simp

/-- Cutting loses, repeats and moves no byte. -/
theorem flatten_parts_append_rest (find : Bytes → Except SplitFault Split) (data : Bytes) :
    (all find data).parts.flatten ++ (all find data).rest = data := by
  simpa [all] using flatten_loop find [] data

end Cut

end SessionEngine
