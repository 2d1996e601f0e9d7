import SessionEngine.Crypto.Modular

/-! Elliptic curves in the short form of Weierstrass, whose linear coefficient is -3, over a prime
field: the group of their points, points in bytes, agreement on a secret, and signatures. The main
statement is `mem_of_point?_eq_some`: only points of the curve are read. -/

namespace SessionEngine.Crypto

/-- A curve with a base point. -/
structure Curve where
  /-- The prime of the field. -/
  prime : Nat
  /-- The constant coefficient. -/
  constant : Nat
  /-- How many multiples the base point has. -/
  order : Nat
  baseX : Nat
  baseY : Nat
  /-- The bytes of a coordinate. -/
  size : Nat
  deriving DecidableEq, Repr

namespace Curve

def p256 : Curve where
  prime := 0xffffffff00000001000000000000000000000000ffffffffffffffffffffffff
  constant := 0x5ac635d8aa3a93e7b3ebbd55769886bc651d06b0cc53b0f63bce3c3e27d2604b
  order := 0xffffffff00000000ffffffffffffffffbce6faada7179e84f3b9cac2fc632551
  baseX := 0x6b17d1f2e12c4247f8bce6e563a440f277037d812deb33a0f4a13945d898c296
  baseY := 0x4fe342e2fe1a7f9b8ee7eb4a7c0f9e162bce33576b315ececbb6406837bf51f5
  size := 32

def p384 : Curve where
  prime := 0xfffffffffffffffffffffffffffffffffffffffffffffffffffffffffffffffeffffffff0000000000000000ffffffff
  constant := 0xb3312fa7e23ee7e4988e056be3f82d19181d9c6efe8141120314088f5013875ac656398d8a2ed19d2a85c8edd3ec2aef
  order := 0xffffffffffffffffffffffffffffffffffffffffffffffffc7634d81f4372ddf581a0db248b0a77aecec196accc52973
  baseX := 0xaa87ca22be8b05378eb1c71ef320ad746e1d3b628ba79b9859f741e082542a385502f25dbf55296c3a545e3872760ab7
  baseY := 0x3617de4a96262c6f5d9e98bf9292dc29f8f41dbd289a147ce9da3113b5f0b8c00a60b1ce1d7e819d7a431d7c90ea0e5f
  size := 48

/-- A point of the plane. -/
structure Point where
  x : Nat
  y : Nat
  deriving DecidableEq, Repr

/-- A point of the plane in coordinates that need no division: `x / z²` and `y / z³`. With `z = 0` it
is the point at infinity. -/
structure Projective where
  x : Nat
  y : Nat
  z : Nat
  deriving DecidableEq, Repr

/-- The point at infinity. -/
def infinity : Projective := ⟨1, 1, 0⟩

/-- A point in coordinates that need no division. -/
def Point.projective (p : Point) : Projective := ⟨p.x, p.y, 1⟩

variable (c : Curve)

def base : Point := ⟨c.baseX, c.baseY⟩

/-- A point in the plane; there is none for the point at infinity. -/
def affine? (p : Projective) : Option Point :=
  if p.z = 0 then none
  else
    let i := Modular.inverse c.prime p.z
    let square := i * i % c.prime
    some ⟨p.x * square % c.prime, p.y * (square * i % c.prime) % c.prime⟩

/-- Twice a point. -/
def double (p : Projective) : Projective :=
  let m := c.prime
  let delta := p.z * p.z % m
  let gamma := p.y * p.y % m
  let beta := p.x * gamma % m
  let alpha := 3 * Modular.difference m p.x delta * (p.x + delta) % m
  let x := Modular.difference m (alpha * alpha % m) (8 * beta % m)
  let y := Modular.difference m (alpha * Modular.difference m (4 * beta % m) x % m)
    (8 * gamma * gamma % m)
  ⟨x, y, 2 * p.y * p.z % m⟩

/-- The sum of two points. -/
def add (p q : Projective) : Projective :=
  if p.z = 0 then q
  else if q.z = 0 then p
  else
    let m := c.prime
    let pz := p.z * p.z % m
    let qz := q.z * q.z % m
    let u := p.x * qz % m
    let s := p.y * (q.z * qz % m) % m
    let h := Modular.difference m (q.x * pz % m) u
    let r := Modular.difference m (q.y * (p.z * pz % m) % m) s
    if h = 0 then if r = 0 then c.double p else infinity
    else
      let hh := h * h % m
      let hhh := h * hh % m
      let v := u * hh % m
      let x := Modular.difference m (Modular.difference m (r * r % m) hhh) (2 * v % m)
      let y := Modular.difference m (r * Modular.difference m v x % m) (s * hhh % m)
      ⟨x, y, p.z * q.z % m * h % m⟩

/-- `sum` with `n` times a point added, by doubling. -/
def addMultiple (sum : Projective) (n : Nat) (p : Projective) : Projective :=
  if n = 0 then sum
  else addMultiple (if n % 2 = 0 then sum else c.add sum p) (n / 2) (c.double p)
  termination_by n

def multiple (n : Nat) (p : Point) : Option Point :=
  c.affine? (c.addMultiple infinity n p.projective)

/-- Whether a point of the plane lies on the curve. -/
def Contains (p : Point) : Prop :=
  p.x < c.prime ∧ p.y < c.prime ∧
    p.y * p.y % c.prime = (p.x * p.x * p.x + (c.prime - 3) * p.x + c.constant) % c.prime

instance (p : Point) : Decidable (c.Contains p) := by unfold Contains; infer_instance

/-- Whether a number is a private key. -/
def IsSecret (n : Nat) : Prop := 0 < n ∧ n < c.order

instance (n : Nat) : Decidable (c.IsSecret n) := by unfold IsSecret; infer_instance

/-- A private key drawn from bytes. -/
def drawSecret (data : Bytes) : Nat := 1 + Bytes.bigEndian data % (c.order - 1)

/-! ### Points in bytes -/

/-- A point in bytes: the mark of an uncompressed point and both coordinates. -/
def encode (p : Point) : Bytes := 4 :: Bytes.fixed c.size p.x ++ Bytes.fixed c.size p.y

/-- The point that `data` writes. -/
def point? : Bytes → Option Point
  | 4 :: rest =>
    let p : Point := ⟨Bytes.bigEndian (rest.take c.size), Bytes.bigEndian (rest.drop c.size)⟩
    if rest.length = 2 * c.size ∧ c.Contains p then some p else none
  | _ => none

def publicKey (secret : Nat) : Bytes := ((c.multiple secret c.base).map c.encode).getD []

/-- The secret that the holder of `secret` shares with the holder of the public key `peer`. -/
def agree? (secret : Nat) (peer : Bytes) : Option Bytes := do
  let p ← c.multiple secret (← c.point? peer)
  return Bytes.fixed c.size p.x

/-! ### Signatures -/

/-- A hash value as a number, cut to as many bits as the order has. The orders in use have whole
bytes. -/
def fold (hash : Bytes) : Nat := Bytes.bigEndian (hash.take c.size)

/-- The signature of what hashes to `hash` under `secret`, with the one-time secret `once`. -/
def sign (secret once : Nat) (hash : Bytes) : Nat × Nat :=
  let r := ((c.multiple once c.base).elim 0 (·.x)) % c.order
  (r, Modular.inverse c.order once * (c.fold hash + r * secret) % c.order)

/-- Whether `signature` is one of what hashes to `hash` by the holder of the key `key`. -/
def verify (key : Point) (hash : Bytes) (signature : Nat × Nat) : Bool :=
  let (r, s) := signature
  if c.IsSecret r ∧ c.IsSecret s then
    let w := Modular.inverse c.order s
    let sum := c.addMultiple (c.addMultiple infinity (c.fold hash * w % c.order) c.base.projective)
      (r * w % c.order) key.projective
    (c.affine? sum).any fun p => p.x % c.order == r
  else false

/-- Only points of the curve are read. -/
theorem mem_of_point?_eq_some {data : Bytes} {p : Point} (h : c.point? data = some p) :
    c.Contains p := by
  unfold point? at h
  split at h
  · simp only at h
    split at h
    · next hc => exact Option.some.inj h ▸ hc.2
    · simp at h
  · simp at h

end Curve

end SessionEngine.Crypto
