import SessionEngine.Bytes

/-! Arithmetic modulo a number. The main statements are `power_mod`, by which a power depends on its
base modulo the modulus only, and `difference_lt`, by which a difference stays below the modulus. -/

namespace SessionEngine.Crypto.Modular

/-- `a` less `b` modulo `m`, for `a` and `b` below `m`. -/
def difference (m a b : Nat) : Nat := (a + (m - b)) % m

/-- The power of `base` to `exponent` modulo `m`, by squaring. -/
def power (m base exponent : Nat) : Nat :=
  if exponent = 0 then 1 % m
  else
    let rest := power m (base * base % m) (exponent / 2)
    if exponent % 2 = 0 then rest else base * rest % m
  termination_by exponent

/-- The inverse of `a` modulo the prime `p`, with zero for zero. -/
def inverse (p a : Nat) : Nat := power p a (p - 2)

theorem difference_lt {m : Nat} (hm : 0 < m) (a b : Nat) : difference m a b < m := Nat.mod_lt _ hm

/-- A power depends on its base modulo the modulus only. -/
theorem power_mod (m base exponent : Nat) : power m (base % m) exponent = power m base exponent := by
  unfold power
  split
  · rfl
  · have hsquare : base % m * (base % m) % m = base * base % m := (Nat.mul_mod ..).symm
    rw [hsquare]
    split
    · rfl
    · rw [Nat.mul_mod, Nat.mod_mod, ← Nat.mul_mod]

/-- The fewest bytes that write `n`; none for zero. -/
def byteCount (n : Nat) : Nat := if n = 0 then 0 else byteCount (n / 256) + 1
  termination_by n

/-- The number that `data` writes in base 256, least significant byte first. -/
def littleEndian (data : Bytes) : Nat := Bytes.bigEndian data.reverse

/-- The last `width` bytes of `n` in base 256, least significant byte first. -/
def fixedLittle (width n : Nat) : Bytes := (Bytes.fixed width n).reverse

end SessionEngine.Crypto.Modular
