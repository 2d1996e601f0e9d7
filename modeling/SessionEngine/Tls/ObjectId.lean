import SessionEngine.Tls.Der

/-! Object identifiers: lists of numbers in base 128. The main statement is `arcs_bits`, by which a
number below 128 is one byte. -/

namespace SessionEngine.Tls.ObjectId

/-- The bytes of PBES2, encryption under a password. -/
def pbes2 : Bytes := [0x2a, 0x86, 0x48, 0x86, 0xf7, 0x0d, 1, 5, 13]
def pbkdf2 : Bytes := [0x2a, 0x86, 0x48, 0x86, 0xf7, 0x0d, 1, 5, 12]
def scrypt : Bytes := [0x2b, 6, 1, 4, 1, 0xda, 0x47, 4, 11]
/-- The bytes of keys of elliptic curves. -/
def curveKey : Bytes := [0x2a, 0x86, 0x48, 0xce, 0x3d, 2, 1]
def p256 : Bytes := [0x2a, 0x86, 0x48, 0xce, 0x3d, 3, 1, 7]
def p384 : Bytes := [0x2b, 0x81, 4, 0, 34]
def rsaKey : Bytes := [0x2a, 0x86, 0x48, 0x86, 0xf7, 0x0d, 1, 1, 1]
def ed25519 : Bytes := [0x2b, 0x65, 0x70]

/-- An identifier in its written form. -/
def encode (id : Bytes) : Bytes := Der.wrap Der.tagObjectId id

/-- The numbers after the first two, with `n` the number that is begun, modulo `UInt32.size`. -/
def arcs (n : Nat) : Bytes → List Nat
  | [] => []
  | b :: rest =>
    let n := (n * 128 + b.toNat % 128) % UInt32.size
    if b.toNat < 128 then n :: arcs 0 rest else arcs n rest

/-- Whether the numbers after the first two are whole and have at most 32 bits, `used` bytes of the
first one gone already. -/
def isTail (used : Nat) : Bytes → Bool
  | [] => used == 0
  | b :: rest =>
    if 4 ≤ used ∧ 16 ≤ b.toNat then false
    else isTail (if b.toNat < 128 then 0 else used + 1) rest

/-- Whether `id` is an identifier: at least three bytes that make a list of numbers. -/
def isValid (id : Bytes) : Bool :=
  decide (3 ≤ id.length) && decide ((id.headD 0).toNat < 120) && isTail 0 id.tail

/-- The identifier with dots between its numbers. -/
def dotted (id : Bytes) : String :=
  let first := (id.headD 0).toNat
  ".".intercalate ((first / 40 :: first % 40 :: arcs 0 id.tail).map toString)

example : dotted pbes2 = "1.2.840.113549.1.5.13" := by cbv
example : dotted scrypt = "1.3.6.1.4.1.11591.4.11" := by cbv

/-- A number below 128 is one byte. -/
theorem arcs_bits {b : UInt8} (h : b.toNat < 128) (rest : Bytes) :
    arcs 0 (b :: rest) = b.toNat :: arcs 0 rest := by
  have hsmall : (0 * 128 + b.toNat % 128) % UInt32.size = b.toNat := by
    rw [UInt32.size]; omega
  simp only [arcs, hsmall, h, if_true]

end SessionEngine.Tls.ObjectId
