import SessionEngine.Crypto.Hash

/-! SHA-256 and SHA-224, which hash blocks of 64 bytes into eight words of 32 bits. -/

namespace SessionEngine.Crypto.Sha256

/-- The eight words between blocks. -/
structure State where
  a : UInt32
  b : UInt32
  c : UInt32
  d : UInt32
  e : UInt32
  f : UInt32
  g : UInt32
  h : UInt32
  deriving DecidableEq, Repr, Inhabited

/-- The words that go into the rounds: the fractions of the cube roots of the first primes. -/
def constants : Array UInt32 :=
  #[0x428a2f98, 0x71374491, 0xb5c0fbcf, 0xe9b5dba5, 0x3956c25b, 0x59f111f1, 0x923f82a4, 0xab1c5ed5,
    0xd807aa98, 0x12835b01, 0x243185be, 0x550c7dc3, 0x72be5d74, 0x80deb1fe, 0x9bdc06a7, 0xc19bf174,
    0xe49b69c1, 0xefbe4786, 0x0fc19dc6, 0x240ca1cc, 0x2de92c6f, 0x4a7484aa, 0x5cb0a9dc, 0x76f988da,
    0x983e5152, 0xa831c66d, 0xb00327c8, 0xbf597fc7, 0xc6e00bf3, 0xd5a79147, 0x06ca6351, 0x14292967,
    0x27b70a85, 0x2e1b2138, 0x4d2c6dfc, 0x53380d13, 0x650a7354, 0x766a0abb, 0x81c2c92e, 0x92722c85,
    0xa2bfe8a1, 0xa81a664b, 0xc24b8b70, 0xc76c51a3, 0xd192e819, 0xd6990624, 0xf40e3585, 0x106aa070,
    0x19a4c116, 0x1e376c08, 0x2748774c, 0x34b0bcb5, 0x391c0cb3, 0x4ed8aa4a, 0x5b9cca4f, 0x682e6ff3,
    0x748f82ee, 0x78a5636f, 0x84c87814, 0x8cc70208, 0x90befffa, 0xa4506ceb, 0xbef9a3f7, 0xc67178f2]

/-- `x` turned right by `n` bits, for `n` between 1 and 31. -/
def rotate (x n : UInt32) : UInt32 := (x >>> n) ||| (x <<< (32 - n))

/-- The words of a block, the most significant byte of each first. -/
def words : Bytes → Array UInt32 → Array UInt32
  | a :: b :: c :: d :: rest, out =>
    words rest (out.push ((a.toUInt32 <<< 24) ||| (b.toUInt32 <<< 16) ||| (c.toUInt32 <<< 8) |||
      d.toUInt32))
  | _, out => out

/-- `n` more words behind those of a block, each made from four before it. -/
def extend (w : Array UInt32) : (n : Nat) → Array UInt32
  | 0 => w
  | n + 1 =>
    let at_ (back : Nat) := w.getD (w.size - back) 0
    let x := at_ 15
    let y := at_ 2
    let s0 := rotate x 7 ^^^ rotate x 18 ^^^ (x >>> 3)
    let s1 := rotate y 17 ^^^ rotate y 19 ^^^ (y >>> 10)
    extend (w.push (at_ 16 + s0 + at_ 7 + s1)) n

/-- One round with word `w` and constant `k`. -/
def round (s : State) (w k : UInt32) : State :=
  let s1 := rotate s.e 6 ^^^ rotate s.e 11 ^^^ rotate s.e 25
  let choice := (s.e &&& s.f) ^^^ (~~~s.e &&& s.g)
  let t1 := s.h + s1 + choice + k + w
  let s0 := rotate s.a 2 ^^^ rotate s.a 13 ^^^ rotate s.a 22
  let majority := (s.a &&& s.b) ^^^ (s.a &&& s.c) ^^^ (s.b &&& s.c)
  ⟨t1 + s0 + majority, s.a, s.b, s.c, s.d + t1, s.e, s.f, s.g⟩

def absorb (s : State) (block : Bytes) : State :=
  let w := extend (words block #[]) 48
  let t := (List.range 64).foldl (fun t i => round t (w.getD i 0) (constants.getD i 0)) s
  ⟨s.a + t.a, s.b + t.b, s.c + t.c, s.d + t.d, s.e + t.e, s.f + t.f, s.g + t.g, s.h + t.h⟩

def State.bytes (s : State) : Bytes :=
  [s.a, s.b, s.c, s.d, s.e, s.f, s.g, s.h].flatMap fun w => Bytes.word w.toNat

theorem State.length_bytes (s : State) : s.bytes.length = 32 := rfl

theorem State.length_take {n : Nat} (hn : n ≤ 32) (s : State) : (s.bytes.take n).length = n := by
  rw [List.length_take, length_bytes, Nat.min_eq_left hn]

end Sha256

def sha256 : HashFunction where
  State := Sha256.State
  blockLength := 64
  lengthWidth := 8
  initial :=
    ⟨0x6a09e667, 0xbb67ae85, 0x3c6ef372, 0xa54ff53a,
      0x510e527f, 0x9b05688c, 0x1f83d9ab, 0x5be0cd19⟩
  absorb := Sha256.absorb
  output s := s.bytes

/-- SHA-224: the first 28 bytes that the blocks leave, from another beginning. -/
def sha224 : HashFunction where
  State := Sha256.State
  blockLength := 64
  lengthWidth := 8
  initial :=
    ⟨0xc1059ed8, 0x367cd507, 0x3070dd17, 0xf70e5939,
      0xffc00b31, 0x68581511, 0x64f98fa7, 0xbefa4fa4⟩
  absorb := Sha256.absorb
  output s := s.bytes.take 28

end SessionEngine.Crypto
