/-! Decimal numbers: a sign of plus, which may be left out, and at least one ASCII digit. A number
that is too large is refused. The main statement is `natural_eq_some_iff`, by which a number is read
exactly from the texts that write it, up to the limit. -/

namespace SessionEngine.Text.Decimal

/-- The number that digits write after `n`, while it is at most `limit`. -/
def digits (limit : Nat) : (n : Nat) → List Char → Option Nat
  | n, [] => some n
  | n, c :: rest =>
    if c.isDigit = true ∧ n * 10 + (c.toNat - '0'.toNat) ≤ limit then
      digits limit (n * 10 + (c.toNat - '0'.toNat)) rest
    else none

/-- The digits of a text: all of it, less one plus at the start. -/
def unsigned : List Char → List Char
  | '+' :: rest => rest
  | text => text

/-- The number that `text` writes, if it is at most `limit`. -/
def natural (limit : Nat) (text : String) : Option Nat :=
  match unsigned text.toList with
  | [] => none
  | cs => digits limit 0 cs

/-- The text writes `n`: in digits, and at least one, perhaps behind a plus. -/
def Writes (text : String) (n : Nat) : Prop :=
  ∃ cs : List Char, cs ≠ [] ∧ (∀ c ∈ cs, c.isDigit = true) ∧
    (text.toList = cs ∨ text.toList = '+' :: cs) ∧ Nat.ofDigitChars 10 cs 0 = n

theorem le_ofDigitChars (cs : List Char) (n : Nat) : n ≤ Nat.ofDigitChars 10 cs n := by
  rw [Nat.ofDigitChars_eq_ofDigitChars_zero]
  exact Nat.le_add_right_of_le (Nat.le_mul_of_pos_left n (Nat.pow_pos (by decide)))

theorem digits_eq_some_iff {limit n m : Nat} {cs : List Char} (hn : n ≤ limit) :
    digits limit n cs = some m ↔
      (∀ c ∈ cs, c.isDigit = true) ∧ Nat.ofDigitChars 10 cs n = m ∧ m ≤ limit := by
  induction cs generalizing n with
  | nil =>
    simp only [digits, Option.some.injEq, Nat.ofDigitChars_nil, List.not_mem_nil, false_implies,
      implies_true, true_and]
    exact ⟨fun h => ⟨h, h ▸ hn⟩, fun h => h.1⟩
  | cons c cs ih =>
    rw [digits, Nat.ofDigitChars_cons, List.forall_mem_cons, Nat.mul_comm 10 n]
    split
    next hc => rw [ih hc.2, and_iff_right hc.1]
    next hc =>
      -- What a digit makes too large, no further digit makes smaller.
      refine ⟨fun h => (by cases h), fun ⟨⟨hdigit, _⟩, heq, hle⟩ => absurd ⟨hdigit, ?_⟩ hc⟩
      exact Nat.le_trans (le_ofDigitChars cs _) (heq ▸ hle)

theorem unsigned_cases (text : List Char) : text = unsigned text ∨ text = '+' :: unsigned text := by
  unfold unsigned
  split
  · exact .inr rfl
  · exact .inl rfl

theorem unsigned_of_digits {cs : List Char} (hcs : ∀ c ∈ cs, c.isDigit = true) : unsigned cs = cs := by
  unfold unsigned
  split
  next rest => exact absurd (hcs '+' List.mem_cons_self) (by decide)
  next => rfl

/-- A number is read exactly from the texts that write it, unless it is too large. -/
theorem natural_eq_some_iff {limit n : Nat} {text : String} :
    natural limit text = some n ↔ Writes text n ∧ n ≤ limit := by
  unfold natural
  constructor
  · intro h
    split at h
    · cases h
    next hne =>
      obtain ⟨hdigits, hvalue, hle⟩ := (digits_eq_some_iff (Nat.zero_le limit)).mp h
      exact ⟨⟨unsigned text.toList, hne, hdigits, unsigned_cases text.toList, hvalue⟩, hle⟩
  · rintro ⟨⟨cs, hne, hdigits, htext, hvalue⟩, hle⟩
    have hcs : unsigned text.toList = cs := by
      rcases htext with htext | htext
      · rw [htext, unsigned_of_digits hdigits]
      · rw [htext]
        rfl
    rw [hcs]
    split
    next => exact absurd rfl hne
    next => exact (digits_eq_some_iff (Nat.zero_le limit)).mpr ⟨hdigits, hvalue, hle⟩

end SessionEngine.Text.Decimal
