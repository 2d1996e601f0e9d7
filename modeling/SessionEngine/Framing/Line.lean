import SessionEngine.Framing.Split

/-! Line framing: a message ends with, and includes, the first line feed. The main statement is
`find_eq_complete_iff`: the reported length is that of the shortest head that ends in a line feed. -/

namespace SessionEngine.Line

/-- The length of the shortest head of `data` that ends in a line feed, with `passed` bytes before
`data` counted in. -/
def scan (passed : Nat) : Bytes → Split
  | [] => .needMore
  | b :: rest => if b = Bytes.newline then .complete (passed + 1) else scan (passed + 1) rest

/-- The answer of line framing about `data`. -/
def find (data : Bytes) : Split := scan 0 data

theorem scan_eq_complete_iff {passed n : Nat} {data : Bytes} :
    scan passed data = .complete n ↔
      ∃ line rest, data = line ++ Bytes.newline :: rest ∧ Bytes.newline ∉ line ∧
        n = passed + line.length + 1 := by
  induction data generalizing passed with
  | nil => simp [scan]
  | cons b data ih =>
    by_cases hb : b = Bytes.newline
    · subst hb
      constructor
      · intro h
        exact ⟨[], data, rfl, by simp, by simpa [scan] using h.symm⟩
      · rintro ⟨line, rest, hdata, hline, hn⟩
        cases line with
        | nil => simpa [scan] using hn.symm
        | cons c line =>
          simp only [List.cons_append, List.cons.injEq] at hdata
          exact absurd (hdata.1 ▸ List.mem_cons_self) hline
    · simp only [scan, hb, if_false]
      rw [ih]
      constructor
      · rintro ⟨line, rest, rfl, hline, rfl⟩
        exact ⟨b :: line, rest, rfl, by simp [hline, Ne.symm hb], by simp; omega⟩
      · rintro ⟨line, rest, hdata, hline, rfl⟩
        cases line with
        | nil => simp only [List.nil_append, List.cons.injEq] at hdata; exact absurd hdata.1 hb
        | cons c line =>
          simp only [List.cons_append, List.cons.injEq] at hdata
          exact ⟨line, rest, hdata.2, fun h => hline (List.mem_cons_of_mem _ h), by simp; omega⟩

theorem scan_eq_needMore_iff {passed : Nat} {data : Bytes} :
    scan passed data = .needMore ↔ Bytes.newline ∉ data := by
  induction data generalizing passed with
  | nil => simp [scan]
  | cons b data ih =>
    by_cases hb : b = Bytes.newline
    · simp [scan, hb]
    · simp [scan, hb, ih, Ne.symm hb]

/-- A message is complete exactly when the data holds a line feed, and then it is the line up to
and with the first one. -/
theorem find_eq_complete_iff {n : Nat} {data : Bytes} :
    find data = .complete n ↔
      ∃ line rest, data = line ++ Bytes.newline :: rest ∧ Bytes.newline ∉ line ∧
        n = line.length + 1 := by
  simp only [find, scan_eq_complete_iff, Nat.zero_add]

theorem find_eq_needMore_iff {data : Bytes} : find data = .needMore ↔ Bytes.newline ∉ data :=
  scan_eq_needMore_iff

end SessionEngine.Line
