import SessionEngine.Crypto.Sha256

/-! Keys made from passwords, slowly on purpose: PBKDF2, which repeats a code of authentication, and
scrypt, which also fills memory. The main statement is `length_pbkdf2`: both give as many bytes as are
asked for. -/

namespace SessionEngine.Crypto

/-- Byte by byte, which of two strings has each bit. -/
def xorBytes (a b : Bytes) : Bytes := List.zipWith (· ^^^ ·) a b

namespace Stretch

/-- `sum` with the codes of the `n` rounds after the one that gave `last` added in. -/
def rounds (h : HashFunction) (states : h.State × h.State) : (n : Nat) → (last sum : Bytes) → Bytes
  | 0, _, sum => sum
  | n + 1, last, sum =>
    let next := Hmac.codeFrom h states last
    rounds h states n next (xorBytes sum next)

/-- Block `i` of the key, after `count` rounds. -/
def block (h : HashFunction) (states : h.State × h.State) (salt : Bytes) (count i : Nat) : Bytes :=
  let first := Hmac.codeFrom h states (salt ++ Bytes.word i)
  rounds h states (count - 1) first first

/-- The first `length` bytes of the blocks from block `i` on; a block without bytes counts as zeros. -/
def blocks (h : HashFunction) (states : h.State × h.State) (salt : Bytes) (count i length : Nat) :
    Bytes :=
  if length = 0 then []
  else match block h states salt count i with
    | [] => List.replicate length 0
    | b :: rest =>
      (b :: rest).take length ++ blocks h states salt count (i + 1) (length - (rest.length + 1))
  termination_by length

end Stretch

/-- A key of `length` bytes from a password by PBKDF2 with `count` rounds. -/
def pbkdf2 (h : HashFunction) (password salt : Bytes) (count length : Nat) : Bytes :=
  Stretch.blocks h (Hmac.states h password) salt count 1 length

theorem length_blocks (h : HashFunction) (states : h.State × h.State) (salt : Bytes)
    (count i length : Nat) : (Stretch.blocks h states salt count i length).length = length := by
  fun_induction Stretch.blocks h states salt count i length with
  | case1 => rfl
  | case2 => exact List.length_replicate
  | case3 i length _ b rest _ ih =>
    rw [List.length_append, List.length_take, ih, List.length_cons]
    omega

/-- PBKDF2 gives as many bytes as are asked for. -/
theorem length_pbkdf2 (h : HashFunction) (password salt : Bytes) (count length : Nat) :
    (pbkdf2 h password salt count length).length = length :=
  length_blocks ..

namespace Scrypt

/-- The words of `data`, the least significant byte of each first. -/
def words : Bytes → Array UInt32 → Array UInt32
  | a :: b :: c :: d :: rest, out =>
    words rest (out.push (a.toUInt32 ||| (b.toUInt32 <<< 8) ||| (c.toUInt32 <<< 16) |||
      (d.toUInt32 <<< 24)))
  | _, out => out

/-- The bytes of words, the least significant byte of each first. -/
def bytes (w : Array UInt32) : Bytes := w.toList.flatMap fun x => (Bytes.word x.toNat).reverse

/-- `x` turned left by `n` bits, for `n` between 1 and 31. -/
def rotate (x n : UInt32) : UInt32 := (x <<< n) ||| (x >>> (32 - n))

/-- The steps of a double round of Salsa20: the word that changes, the two words that are added, and
how far their sum is turned. -/
def steps : List (Nat × Nat × Nat × UInt32) :=
  let quarter (a b c d : Nat) : List (Nat × Nat × Nat × UInt32) :=
    [(b, a, d, 7), (c, b, a, 9), (d, c, b, 13), (a, d, c, 18)]
  quarter 0 4 8 12 ++ quarter 5 9 13 1 ++ quarter 10 14 2 6 ++ quarter 15 3 7 11 ++
    quarter 0 1 2 3 ++ quarter 5 6 7 4 ++ quarter 10 11 8 9 ++ quarter 15 12 13 14

def doubleRound (x : Array UInt32) : Array UInt32 :=
  steps.foldl (fun x (i, a, b, n) =>
    x.setIfInBounds i (x.getD i 0 ^^^ rotate (x.getD a 0 + x.getD b 0) n)) x

/-- Word by word, which of two arrays has each bit. -/
def xorWords (a b : Array UInt32) : Array UInt32 := Array.zipWith (· ^^^ ·) a b

/-- Salsa20 with eight rounds, on sixteen words. -/
def salsa (x : Array UInt32) : Array UInt32 :=
  Array.zipWith (· + ·) x (doubleRound (doubleRound (doubleRound (doubleRound x))))

/-- The blocks of `x` mixed, each with the one before it; those in even places come first. -/
def mixBlocks (x : Array UInt32) : Array UInt32 :=
  let count := x.size / 16
  let block (i : Nat) := x.extract (16 * i) (16 * i + 16)
  let (_, even, odd) := (List.range count).foldl (fun (last, even, odd) i =>
    let y := salsa (xorWords last (block i))
    if i % 2 = 0 then (y, even ++ y, odd) else (y, even, odd ++ y)) (block (count - 1), #[], #[])
  even ++ odd

/-- `x` mixed `n` times, and what it was before each time. -/
def fill : (n : Nat) → Array UInt32 → Array (Array UInt32) → Array UInt32 × Array (Array UInt32)
  | 0, x, seen => (x, seen)
  | n + 1, x, seen => fill n (mixBlocks x) (seen.push x)

/-- `x` mixed `n` times, each time with an entry of `seen` that it picks itself. -/
def drain (seen : Array (Array UInt32)) : (n : Nat) → Array UInt32 → Array UInt32
  | 0, x => x
  | n + 1, x =>
    let pick := (x.getD (x.size - 16) 0).toNat % seen.size
    drain seen n (mixBlocks (xorWords x (seen.getD pick #[])))

/-- A lane of memory filled `cost` times and read as often. -/
def lane (cost : Nat) (data : Bytes) : Bytes :=
  let (x, seen) := fill cost (words data #[]) #[]
  bytes (drain seen cost x)

end Scrypt

/-- A key of `length` bytes from a password by scrypt, in `lanes` lanes of `size` double blocks. -/
def scrypt (password salt : Bytes) (cost size lanes length : Nat) : Bytes :=
  let filled := pbkdf2 sha256 password salt 1 (lanes * 128 * size)
  let mixed := (Bytes.pieces (128 * size) filled).flatMap (Scrypt.lane cost)
  pbkdf2 sha256 password mixed 1 length

end SessionEngine.Crypto
