/-! White space: the characters with the Unicode property White_Space, and text without them at its
ends. The main statements are `isBlank_of_isWhitespace`, by which the class of the core library is
part of this one, and `dropBlank_eq_self_iff`. -/

namespace SessionEngine.Text

/-- The ranges of code points that have the property White_Space. -/
def blankRanges : List (Nat × Nat) :=
  [(0x09, 0x0d), (0x20, 0x20), (0x85, 0x85), (0xa0, 0xa0), (0x1680, 0x1680), (0x2000, 0x200a),
   (0x2028, 0x2029), (0x202f, 0x202f), (0x205f, 0x205f), (0x3000, 0x3000)]

/-- Whether a character is white space. -/
def isBlank (c : Char) : Bool := blankRanges.any fun (low, high) => low ≤ c.toNat && c.toNat ≤ high

theorem isBlank_of_isWhitespace {c : Char} (h : c.isWhitespace = true) : isBlank c = true := by
  simp only [Char.isWhitespace, Bool.or_eq_true, decide_eq_true_eq] at h
  rcases h with ((rfl | rfl) | rfl) | rfl <;> decide

/-- `text` without the white space at its start. -/
def dropBlank (text : List Char) : List Char := text.dropWhile isBlank

/-- `text` without the white space at its end. -/
def dropBlankEnd (text : List Char) : List Char := (dropBlank text.reverse).reverse

/-- `text` without the white space at its ends. -/
def trim (text : String) : String := String.ofList (dropBlankEnd (dropBlank text.toList))

/-- `text` without the white space at its end. -/
def trimEnd (text : String) : String := String.ofList (dropBlankEnd text.toList)

theorem dropBlank_eq_self_iff {text : List Char} :
    dropBlank text = text ↔ ∀ c ∈ text.head?, isBlank c = false := by
  cases text with
  | nil => simp [dropBlank]
  | cons c text =>
    simp only [dropBlank, List.dropWhile_cons, List.head?_cons, Option.mem_some_iff, forall_eq']
    split
    next h =>
      have := (List.dropWhile_suffix isBlank (l := text)).length_le
      constructor
      · intro he
        rw [he, List.length_cons] at this
        omega
      · simp [h]
    next h => simp [h]

end SessionEngine.Text
