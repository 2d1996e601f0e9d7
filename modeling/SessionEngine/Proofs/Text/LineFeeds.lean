import SessionEngine.Text.Blank
import SessionEngine.Text.Lossy
import Mathlib.Tactic.SplitIfs

/-! Line feeds in text and in the bytes that write it. Text that is written as UTF-8 has the line feeds
of its bytes (`newline_mem_ofString_iff`), and so has text that is read from any bytes, however malformed
(`count_newline_decode`): the line feed is no part of a longer sequence, and ends one that breaks off
(`decode_append_ascii`). -/

namespace SessionEngine

namespace Bytes

theorem toList_loop (data : ByteArray) (i : Nat) (done : List UInt8) :
    ByteArray.toList.loop data i done = done.reverse ++ data.data.toList.drop i := by
  fun_induction ByteArray.toList.loop data i done with
  | case1 i done h ih =>
    have hi : i < data.data.toList.length := h
    rw [ih, List.drop_eq_getElem_cons hi]
    simp [ByteArray.get!, h]
  | case2 i done h =>
    rw [List.drop_eq_nil_of_le (Nat.le_of_not_lt h), List.append_nil]

theorem ofString_eq (text : String) : ofString text = text.toList.flatMap String.utf8EncodeChar := by
  obtain ⟨chars, rfl⟩ : ∃ chars, text = String.ofList chars :=
    ⟨text.toList, String.ofList_toList.symm⟩
  rw [ofString, ByteArray.toList, toList_loop, String.toUTF8_eq_toByteArray, String.toByteArray_ofList,
    String.toList_ofList]
  simp [List.utf8Encode]

theorem ofString_append (text more : String) :
    ofString (text ++ more) = ofString text ++ ofString more := by
  rw [ofString_eq, String.toList_append, List.flatMap_append, ← ofString_eq, ← ofString_eq]

theorem newline_eq_ofNat_iff (n : Nat) : newline = UInt8.ofNat n ↔ n % 256 = 10 := by
  rw [← UInt8.toNat_inj, UInt8.toNat_ofNat', eq_comm]
  rfl

theorem eq_newline_iff (c : Char) : c = '\n' ↔ c.val.toNat = 10 := by
  rw [← Char.toNat_inj]
  rfl

theorem newline_mem_utf8EncodeChar_iff (c : Char) : newline ∈ String.utf8EncodeChar c ↔ c = '\n' := by
  rw [eq_newline_iff]
  simp only [String.utf8EncodeChar]
  -- One case for each number of bytes.
  split_ifs <;> simp only [List.mem_cons, List.not_mem_nil, or_false, newline_eq_ofNat_iff] <;> omega

theorem newline_mem_ofString_iff (text : String) : newline ∈ ofString text ↔ '\n' ∈ text.toList := by
  simp only [ofString_eq, List.mem_flatMap, newline_mem_utf8EncodeChar_iff, exists_eq_right]

end Bytes

namespace Text

namespace Lossy

/-- What follows the first byte of a sequence is not ASCII, and the character that the sequence writes
is none of the first sixteen. -/
theorem following?_cases {lead : UInt8} {ranges : List Range} (h : following? lead = some ranges) :
    ∃ r more, ranges = r :: more ∧ (∀ r ∈ ranges, 0x80 ≤ r.low ∧ r.high ≤ 0xbf) ∧
      16 ≤ lead.toNat % (64 >>> ranges.length) * 64 + r.low.toNat % 64 := by
  unfold following? at h
  simp only [UInt8.lt_iff_toNat_lt, UInt8.le_iff_toNat_le, ← UInt8.toNat_inj] at h
  -- One case for each row of the table.
  split_ifs at h <;> cases h <;> refine ⟨_, _, rfl, by decide, ?_⟩ <;>
    simp [tail] at * <;> omega

theorem follow_append_ascii {ranges : List Range} (hranges : ∀ r ∈ ranges, 0x80 ≤ r.low) {b : UInt8}
    (hb : b < 0x80) (data rest : Bytes) :
    follow ranges (data ++ b :: rest) =
      ((follow ranges data).1, (follow ranges data).2 ++ b :: rest) := by
  fun_induction follow ranges data with
  | case1 r ranges b' data hin taken left hfollow ih =>
    have hmore := ih fun r' hr' => hranges r' (List.mem_cons_of_mem r hr')
    rw [hfollow] at hmore
    simp only [List.cons_append, follow, hin, if_true, hmore]
  | case2 r ranges b' data hout =>
    simp [follow, hout]
  | case3 ranges data hends =>
    cases ranges with
    | nil => rfl
    | cons r ranges =>
      cases data with
      | cons b' data => exact absurd rfl (hends r ranges b' data rfl)
      | nil =>
        have hout : r.contains b = false := by
          have hr := hranges r List.mem_cons_self
          simp only [Range.contains, Bool.and_eq_false_iff, decide_eq_false_iff_not]
          exact .inl fun hle => absurd (UInt8.lt_of_lt_of_le hb hr) (UInt8.not_lt.mpr hle)
        simp [follow, hout]

theorem contains_of_mem_follow {ranges : List Range} {data : Bytes} {b : UInt8}
    (hb : b ∈ (follow ranges data).1) : ∃ r ∈ ranges, r.contains b = true := by
  fun_induction follow ranges data with
  | case1 r ranges b' data hin taken left hfollow ih =>
    rcases List.mem_cons.mp hb with rfl | hmem
    · exact ⟨r, List.mem_cons_self, hin⟩
    · rw [hfollow] at ih
      obtain ⟨r', hr', hin'⟩ := ih hmem
      exact ⟨r', List.mem_cons_of_mem r hr', hin'⟩
  | case2 => cases hb
  | case3 => cases hb

/-- The bytes before an ASCII byte are read as if nothing followed: a sequence that it breaks off ends
there. -/
theorem decode_append_ascii {b : UInt8} (hb : b < 0x80) (data rest : Bytes) :
    decode (data ++ b :: rest) = decode data ++ Char.ofNat b.toNat :: decode rest := by
  fun_induction decode data with
  | case1 => exact decode_ascii_cons hb rest
  | case2 lead data hlead ih =>
    rw [List.cons_append, decode_ascii_cons hlead, ih, List.cons_append]
  | case3 lead data hlead hnone ih =>
    rw [List.cons_append, decode, if_neg hlead, hnone]
    simp only [ih, List.cons_append]
  | case4 lead data hlead ranges hsome _ taken c ih =>
    obtain ⟨_, _, _, hranges, -⟩ := following?_cases hsome
    have hfollow := follow_append_ascii (fun r hr => (hranges r hr).1) hb data rest
    rw [List.cons_append, decode, if_neg hlead, hsome]
    simp only [hfollow, ih, List.cons_append]
    rfl

theorem le_foldl_bits (data : Bytes) (n : Nat) :
    n ≤ data.foldl (fun n b => n * 64 + b.toNat % 64) n := by
  induction data generalizing n with
  | nil => exact Nat.le_refl n
  | cons b data ih =>
    have hrest := ih (n * 64 + b.toNat % 64)
    rw [List.foldl_cons]
    omega

theorem ofNat_ne_newline {n : Nat} (h : n ≠ 10) : Char.ofNat n ≠ '\n' := by
  by_cases hvalid : n.isValidChar
  · have hcode : (Char.ofNat n).toNat = n := by
      rw [Char.ofNat, dif_pos hvalid]
      rfl
    exact fun heq => h (hcode.symm.trans (congrArg Char.toNat heq))
  · rw [Char.ofNat, dif_neg hvalid]
    decide

/-- A sequence of more than one byte does not write a line feed. -/
theorem assemble_ne_newline {lead : UInt8} {ranges : List Range} (h : following? lead = some ranges)
    {data : Bytes} (hwhole : (follow ranges data).1.length = ranges.length) :
    assemble lead (follow ranges data).1 ≠ '\n' := by
  obtain ⟨r, more, rfl, hranges, hfirst⟩ := following?_cases h
  obtain ⟨hlow, hhigh⟩ := hranges r List.mem_cons_self
  cases data with
  | nil => cases hwhole
  | cons b data =>
    by_cases hin : r.contains b = true
    · simp only [follow, hin, if_true] at hwhole ⊢
      simp only [Range.contains, Bool.and_eq_true, decide_eq_true_eq, UInt8.le_iff_toNat_le] at hin
      rw [UInt8.le_iff_toNat_le] at hlow hhigh
      simp only [UInt8.reduceToNat] at hlow hhigh
      rw [assemble, hwhole, List.foldl_cons]
      refine ofNat_ne_newline ?_
      have hle := le_foldl_bits (follow more data).1
        (lead.toNat % (64 >>> (r :: more).length) * 64 + b.toNat % 64)
      omega
    · simp [follow, hin] at hwhole

theorem newline_notMem_follow {ranges : List Range} (hranges : ∀ r ∈ ranges, 0x80 ≤ r.low)
    (data : Bytes) : Bytes.newline ∉ (follow ranges data).1 := by
  intro hmem
  obtain ⟨r, hr, hin⟩ := contains_of_mem_follow hmem
  simp only [Range.contains, Bool.and_eq_true, decide_eq_true_eq] at hin
  exact absurd (UInt8.le_trans (hranges r hr) hin.1) (by decide)

/-- Text has the line feeds of the bytes that it is read from. -/
theorem count_newline_decode (data : Bytes) :
    (decode data).count '\n' = data.count Bytes.newline := by
  have hlong : ∀ {lead : UInt8}, ¬ lead < 0x80 → lead ≠ Bytes.newline := by
    rintro lead hlead rfl
    exact hlead (by decide)
  fun_induction decode data with
  | case1 => rfl
  | case2 lead data hlead ih =>
    by_cases hfeed : lead = Bytes.newline
    · subst hfeed
      rw [List.count_cons_self, ← ih]
      exact List.count_cons_self
    · have hcode : lead.toNat ≠ 10 := fun heq => hfeed (UInt8.toNat_inj.mp heq)
      rw [List.count_cons_of_ne (ofNat_ne_newline hcode), List.count_cons_of_ne hfeed, ih]
  | case3 lead data hlead hnone ih =>
    rw [List.count_cons_of_ne (by decide), List.count_cons_of_ne (hlong hlead), ih]
  | case4 lead data hlead ranges hsome _ taken c ih =>
    obtain ⟨_, _, _, hranges, -⟩ := following?_cases hsome
    have hc : c ≠ '\n' := by
      simp only [c]
      split
      next hwhole => exact assemble_ne_newline hsome hwhole
      · decide
    have htaken : taken.count Bytes.newline = 0 :=
      List.count_eq_zero.mpr (newline_notMem_follow (fun r hr => (hranges r hr).1) data)
    rw [List.count_cons_of_ne hc, List.count_cons_of_ne (hlong hlead), ih]
    conv => rhs; rw [← follow_append ranges data, List.count_append, htaken, Nat.zero_add]

end Lossy

/-- What is left has no other characters. -/
theorem dropBlankEnd_subset (text : List Char) : dropBlankEnd text ⊆ text := by
  intro c hc
  exact List.mem_reverse.mp ((List.dropWhile_suffix isBlank).subset (List.mem_reverse.mp hc))

theorem dropBlankEnd_concat {c : Char} (hc : isBlank c = true) (text : List Char) :
    dropBlankEnd (text ++ [c]) = dropBlankEnd text := by
  rw [dropBlankEnd, List.reverse_concat, dropBlank, List.dropWhile_cons_of_pos hc]
  rfl

end Text

end SessionEngine
