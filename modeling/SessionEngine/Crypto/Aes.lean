import SessionEngine.Crypto.Stretch

/-! AES, read backwards: blocks of 16 bytes and texts of chained blocks are decrypted. The tables are
computed from the field of 256 elements that they stand for. The main statement is
`length_decryptBlocks_le`: decryption adds no bytes. -/

namespace SessionEngine.Crypto.Aes

def double (x : UInt8) : UInt8 := (x <<< 1) ^^^ (if x &&& 0x80 = 0 then 0 else 0x1b)

/-- The product of `x` and the number of the lowest `n` bits of `y`, in the field. -/
def timesBits : (n : Nat) → (x y : UInt8) → UInt8
  | 0, _, _ => 0
  | n + 1, x, y => (if y &&& 1 = 0 then 0 else x) ^^^ timesBits n (double x) (y >>> 1)

/-- The product in the field. -/
def times (x y : UInt8) : UInt8 := timesBits 8 x y

/-- The inverse of `x` in the field, with zero for zero: the power 254 of `x`. -/
def inverse (x : UInt8) : UInt8 :=
  let square (y : UInt8) := times y y
  let x2 := square x
  let x4 := square x2
  let x8 := square x4
  let x16 := square x8
  let x32 := square x16
  let x64 := square x32
  times (square x64) (times x64 (times x32 (times x16 (times x8 (times x4 x2)))))

/-- `x` turned left by `n` bits, for `n` between 1 and 7. -/
def rotate (x n : UInt8) : UInt8 := (x <<< n) ||| (x >>> (8 - n))

/-- The byte that stands for `x` after substitution. -/
def substitute (x : UInt8) : UInt8 :=
  let y := inverse x
  y ^^^ rotate y 1 ^^^ rotate y 2 ^^^ rotate y 3 ^^^ rotate y 4 ^^^ 0x63

/-- What each byte is substituted by. -/
def box : Array UInt8 := (Array.range 256).map fun n => substitute (UInt8.ofNat n)

/-- What substitution turns into each byte. -/
def unbox : Array UInt8 :=
  (List.range 256).foldl
    (fun table n => table.setIfInBounds (box.getD n 0).toNat (UInt8.ofNat n)) (Array.replicate 256 0)

def substituteAll (w : Bytes) : Bytes := w.map fun x => box.getD x.toNat 0

/-- `n` more words of a key schedule behind `words`, which began as `size` words. -/
def schedule (size : Nat) : (n : Nat) → (words : Array Bytes) → (constant : UInt8) → Array Bytes
  | 0, words, _ => words
  | n + 1, words, constant =>
    let i := words.size
    let last := words.getD (i - 1) []
    let far := words.getD (i - size) []
    if i % size = 0 then
      let turned := substituteAll (last.drop 1 ++ last.take 1)
      let mixed := xorBytes turned [constant, 0, 0, 0]
      schedule size n (words.push (xorBytes far mixed)) (double constant)
    else
      let last := if 6 < size ∧ i % size = 4 then substituteAll last else last
      schedule size n (words.push (xorBytes far last)) constant

/-- The keys of the rounds, the first one first. -/
def roundKeys (key : Bytes) : List Bytes :=
  let words := (Bytes.pieces 4 key).toArray
  let total := 4 * (words.size + 7)
  Bytes.pieces 16 (schedule words.size (total - words.size) words 1).toList.flatten

/-- The rows of a block turned back: byte `i` comes from column and row of byte `13 * i`. -/
def turnBack (block : Bytes) : Bytes :=
  (List.range 16).map fun i => block.getD (13 * i % 16) 0

def mixBack (column : Bytes) : Bytes :=
  (List.range 4).map fun i =>
    let at_ (k : Nat) := column.getD ((i + k) % 4) 0
    times (at_ 0) 14 ^^^ times (at_ 1) 11 ^^^ times (at_ 2) 13 ^^^ times (at_ 3) 9

/-- The end of a round backwards: rows, then substitution. -/
def unround (block : Bytes) : Bytes := (turnBack block).map fun x => unbox.getD x.toNat 0

/-- The rounds backwards after the last one, whose key is gone already: of those that are left every
one but the first mixes columns. -/
def unrounds (block : Bytes) : (keys : List Bytes) → Bytes
  | [] => block
  | [key] => xorBytes (unround block) key
  | key :: keys =>
    unrounds ((Bytes.pieces 4 (xorBytes (unround block) key)).flatMap mixBack) keys

/-- The block that encryption with the round keys `keys`, last one first, turned into `block`. -/
def decryptBlock (block : Bytes) (keys : List Bytes) : Bytes :=
  unrounds (xorBytes block (keys.headD [])) keys.tail

/-- Chained blocks decrypted, with `before` as the block in front of the first. -/
def decryptBlocks (keys : List Bytes) (before : Bytes) : List Bytes → Bytes
  | [] => []
  | block :: rest => xorBytes (decryptBlock block keys) before ++ decryptBlocks keys block rest

/-- `data` without the padding that filled its last block: so many bytes as the last one says. -/
def unpad? (data : Bytes) : Option Bytes :=
  match data.getLast? with
  | none => none
  | some last =>
    let n := last.toNat
    let tail := data.drop (data.length - n)
    if 1 ≤ n ∧ n ≤ 16 ∧ n ≤ data.length ∧ tail.all (· == last) then
      some (data.take (data.length - n))
    else none

/-- The text that was encrypted under `key` in chained blocks. -/
def decrypt? (key start data : Bytes) : Option Bytes :=
  if data.length % 16 = 0 then
    unpad? (decryptBlocks (roundKeys key).reverse start (Bytes.pieces 16 data))
  else none

/-- Decryption adds no bytes. -/
theorem length_decryptBlocks_le (keys : List Bytes) (before : Bytes) (blocks : List Bytes)
    (hb : before.length ≤ 16) (h : ∀ b ∈ blocks, b.length ≤ 16) :
    (decryptBlocks keys before blocks).length ≤ 16 * blocks.length := by
  induction blocks generalizing before with
  | nil => simp [decryptBlocks]
  | cons b rest ih =>
    have := ih b (h b (by simp)) fun x hx => h x (by simp [hx])
    simp only [decryptBlocks, List.length_append, List.length_cons, xorBytes, List.length_zipWith]
    omega

end SessionEngine.Crypto.Aes
