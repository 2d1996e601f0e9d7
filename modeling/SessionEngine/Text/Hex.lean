import SessionEngine.Bytes

/-! Hexadecimal text: two digits to a byte, written in lower case and read in either. The main statement
is `decode_encode`: what is written is read back. -/

namespace SessionEngine.Text.Hex

def digit (n : Nat) : Char := Nat.digitChar n

/-- What a digit stands for; a character that is no digit stands for zero. -/
def value (c : Char) : Nat :=
  if '0' ≤ c ∧ c ≤ '9' then c.toNat - '0'.toNat
  else if 'a' ≤ c ∧ c ≤ 'f' then c.toNat - 'a'.toNat + 10
  else if 'A' ≤ c ∧ c ≤ 'F' then c.toNat - 'A'.toNat + 10
  else 0

/-- The digits of bytes. -/
def encode (data : Bytes) : List Char :=
  data.flatMap fun b => [digit (b.toNat / 16), digit (b.toNat % 16)]

/-- The bytes that digits write; a digit without a second one writes nothing. -/
def decode : List Char → Bytes
  | a :: b :: rest => UInt8.ofNat (value a * 16 + value b) :: decode rest
  | _ => []

theorem value_digit (n : Fin 16) : value (digit n) = n := by revert n; decide

theorem decode_encode (data : Bytes) : decode (encode data) = data := by
  induction data with
  | nil => rfl
  | cons b data ih =>
    have hb := b.toNat_lt
    have high := value_digit ⟨b.toNat / 16, by omega⟩
    have low := value_digit ⟨b.toNat % 16, by omega⟩
    simp only at high low
    have hsum : b.toNat / 16 * 16 + b.toNat % 16 = b.toNat := by omega
    change UInt8.ofNat (value (digit (b.toNat / 16)) * 16 + value (digit (b.toNat % 16))) ::
      decode (encode data) = _
    rw [high, low, ih, hsum, UInt8.ofNat_toNat]

end SessionEngine.Text.Hex
