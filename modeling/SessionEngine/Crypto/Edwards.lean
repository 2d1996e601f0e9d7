import SessionEngine.Crypto.Modular
import SessionEngine.Crypto.Sha512

/-! The curve over the prime 2²⁵⁵ - 19 in its two forms: X25519, by which two sides agree on a secret
with one coordinate of Montgomery's form, and Ed25519, signatures by points of Edwards' form. The main
statements are `agree?_ne_zero`, by which the two sides never agree on zero, and `length_sign`. -/

namespace SessionEngine.Crypto.Edwards

/-- The prime of the field. -/
def prime : Nat := 0x7fffffffffffffffffffffffffffffffffffffffffffffffffffffffffffffed

/-- `a` less `b`. -/
def minus (a b : Nat) : Nat := Modular.difference prime a b

/-- The number that 32 bytes stand for as a factor: the lowest three bits and the highest one are
cleared, and the one below that is set. -/
def clamp (data : Bytes) : Nat :=
  let n := Modular.littleEndian data % 0x4000000000000000000000000000000000000000000000000000000000000000
  0x4000000000000000000000000000000000000000000000000000000000000000 + n / 8 * 8

/-! ### Agreement on a secret -/

/-- Two multiples of a point by their first coordinates, each a fraction; their factors differ by
one. -/
structure Ladder where
  x2 : Nat
  z2 : Nat
  x3 : Nat
  z3 : Nat

/-- One step up, which doubles the first factor. -/
def Ladder.step (l : Ladder) (x1 : Nat) : Ladder :=
  let a := (l.x2 + l.z2) % prime
  let aa := a * a % prime
  let b := minus l.x2 l.z2
  let bb := b * b % prime
  let e := minus aa bb
  let da := minus l.x3 l.z3 * a % prime
  let cb := (l.x3 + l.z3) * b % prime
  let sum := (da + cb) % prime
  let gap := minus da cb
  { x2 := aa * bb % prime
    z2 := e * (aa + 121665 * e) % prime
    x3 := sum * sum % prime
    z3 := x1 * (gap * gap % prime) % prime }

/-- The two multiples changed for each other. -/
def Ladder.swap (l : Ladder) : Ladder := ⟨l.x3, l.z3, l.x2, l.z2⟩

/-- The steps for the lowest `n` bits of `k`, the highest one first. -/
def Ladder.climb (l : Ladder) (x1 k : Nat) : (n : Nat) → Ladder
  | 0 => l
  | n + 1 =>
    if k >>> n % 2 = 0 then (l.step x1).climb x1 k n else (l.swap.step x1).swap.climb x1 k n

/-- The first coordinate of `k` times a point with first coordinate `x`. -/
def times (k x : Nat) : Nat :=
  let l := Ladder.climb ⟨1, 0, x, 1⟩ x k 255
  l.x2 * Modular.inverse prime l.z2 % prime

def publicKey (secret : Bytes) : Bytes := Modular.fixedLittle 32 (times (clamp secret) 9)

/-- The secret that the holder of `secret` shares with the holder of the public key `peer`. -/
def agree? (secret peer : Bytes) : Option Bytes :=
  if peer.length = 32 then
    let x := Modular.littleEndian peer % 0x8000000000000000000000000000000000000000000000000000000000000000
    let shared := Modular.fixedLittle 32 (times (clamp secret) (x % prime))
    if shared.all (· == 0) then none else some shared
  else none

/-- The two sides never agree on zero. -/
theorem agree?_ne_zero {secret peer shared : Bytes} (h : agree? secret peer = some shared) :
    shared.all (· == 0) = false := by
  unfold agree? at h
  split at h
  · simp only at h
    split at h
    · simp at h
    · next hz => exact Option.some.inj h ▸ Bool.eq_false_iff.mpr hz
  · simp at h

/-! ### Signatures -/

def coefficient : Nat := 0x52036cee2b6ffe738cc740797779e89800700a4d4141d8ab75eb4dca135978a3

/-- A point: `x / z`, `y / z`, and `t = x * y / z`. -/
structure Point where
  x : Nat
  y : Nat
  z : Nat
  t : Nat

/-- The sum of two points. -/
def Point.add (p q : Point) : Point :=
  let a := minus p.y p.x * minus q.y q.x % prime
  let b := (p.y + p.x) * (q.y + q.x) % prime
  let c := 2 * coefficient * p.t % prime * q.t % prime
  let d := 2 * p.z * q.z % prime
  let e := minus b a
  let f := minus d c
  let g := (d + c) % prime
  let h := (b + a) % prime
  ⟨e * f % prime, g * h % prime, f * g % prime, e * h % prime⟩

/-- `sum` with `n` times a point added, by doubling. -/
def Point.addMultiple (sum : Point) (n : Nat) (p : Point) : Point :=
  if n = 0 then sum
  else Point.addMultiple (if n % 2 = 0 then sum else sum.add p) (n / 2) (p.add p)
  termination_by n

def base : Point :=
  let x := 0x216936d3cd6e53fec0a4e231fdd6dc5c692cc7609525a7b2c9562d608f25d51a
  let y := 0x6666666666666666666666666666666666666666666666666666666666666658
  ⟨x, y, 1, x * y % prime⟩

/-- A point in bytes: its second coordinate, with the last bit of the first one on top. -/
def Point.encode (p : Point) : Bytes :=
  let i := Modular.inverse prime p.z
  let x := p.x * i % prime
  let y := p.y * i % prime
  Modular.fixedLittle 32
    (y + x % 2 * 0x8000000000000000000000000000000000000000000000000000000000000000)

/-- How many multiples the base point has. -/
def order : Nat := 0x1000000000000000000000000000000014def9dea2f79cd65812631a5cf5d3ed

/-- A root of -1. -/
def imaginary : Nat := Modular.power prime 2 ((prime - 1) / 4)

def root? (u v : Nat) : Option Nat :=
  let x := Modular.power prime (u * Modular.inverse prime v) ((prime + 3) / 8)
  [x, x * imaginary % prime].find? fun x => v * (x * x) % prime == u % prime

/-- The point that 32 bytes write. -/
def point? (data : Bytes) : Option Point := do
  let half := 0x8000000000000000000000000000000000000000000000000000000000000000
  let n := Modular.littleEndian data
  let y := n % half
  if data.length ≠ 32 ∨ prime ≤ y then none
  else
    let square := y * y % prime
    let x ← root? (minus square 1) ((coefficient * square + 1) % prime)
    let x := if x % 2 = n / half then x else minus 0 x
    if x % 2 = n / half then return ⟨x, y, 1, x * y % prime⟩ else none

def baseMultiple (n : Nat) : Point := Point.addMultiple ⟨0, 1, 1, 0⟩ n base

/-- The public key of a signer's private key of 32 bytes. -/
def signerKey (seed : Bytes) : Bytes := (baseMultiple (clamp ((sha512.hash seed).take 32))).encode

/-- The factor that ties a signature to its key, its one-time point and its message. -/
def challenge (point key message : Bytes) : Nat :=
  Modular.littleEndian (sha512.hash (point ++ key ++ message)) % order

/-- The signature of `message` under a private key. -/
def sign (seed message : Bytes) : Bytes :=
  let expanded := sha512.hash seed
  let once := Modular.littleEndian (sha512.hash (expanded.drop 32 ++ message)) % order
  let point := (baseMultiple once).encode
  let secret := clamp (expanded.take 32)
  point ++ Modular.fixedLittle 32
    ((once + challenge point (signerKey seed) message * secret) % order)

/-- Whether `signature` is one of `message` by the holder of the public key `key`. -/
def verify (key message signature : Bytes) : Bool :=
  let point := signature.take 32
  let s := Modular.littleEndian (signature.drop 32)
  match point? key with
  | some p =>
    let turned : Point := { p with x := minus 0 p.x, t := minus 0 p.t }
    signature.length == 64 && decide (s < order) &&
      ((baseMultiple s).addMultiple (challenge point key message) turned).encode == point
  | none => false

theorem length_sign (seed message : Bytes) : (sign seed message).length = 64 := by
  simp [sign, Point.encode, Modular.fixedLittle]

end SessionEngine.Crypto.Edwards
