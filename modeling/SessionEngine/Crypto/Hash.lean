import SessionEngine.Bytes

/-! Hash functions that take their input block by block, and authentication codes made with them. The
main statement is `length_padding`, by which the padding fills the last block. -/

namespace SessionEngine.Crypto

/-- A hash function that takes its input block by block. -/
structure HashFunction where
  /-- What is kept of the blocks so far. -/
  State : Type
  blockLength : Nat
  /-- The bytes in which the length of the whole input is written behind it. -/
  lengthWidth : Nat
  initial : State
  absorb : State → Bytes → State
  output : State → Bytes

namespace HashFunction

/-- What is put behind an input of `n` bytes so that it fills its blocks: a bit, zeros, and the number
of its bits. -/
def padding (h : HashFunction) (n : Nat) : Bytes :=
  let used := (n + 1 + h.lengthWidth) % h.blockLength
  0x80 :: List.replicate ((h.blockLength - used) % h.blockLength) 0 ++
    Bytes.fixed h.lengthWidth (8 * n)

/-- The hash value after `done` bytes were absorbed and `rest` follows. -/
def finish (h : HashFunction) (s : h.State) (done : Nat) (rest : Bytes) : Bytes :=
  h.output ((Bytes.pieces h.blockLength (rest ++ h.padding (done + rest.length))).foldl h.absorb s)

def hash (h : HashFunction) (data : Bytes) : Bytes := h.finish h.initial 0 data

/-- The padding fills the last block. -/
theorem length_padding {h : HashFunction} (hb : 0 < h.blockLength) (n : Nat) :
    (n + (h.padding n).length) % h.blockLength = 0 := by
  have hsum : n + (h.padding n).length = (n + 1 + h.lengthWidth) +
      (h.blockLength - (n + 1 + h.lengthWidth) % h.blockLength) % h.blockLength := by
    simp only [padding, List.cons_append, List.length_cons, List.length_append,
      List.length_replicate, Bytes.length_fixed]
    omega
  rw [hsum]
  generalize n + 1 + h.lengthWidth = m
  have hlt := Nat.mod_lt m hb
  by_cases h0 : m % h.blockLength = 0
  · simp [h0]
  · rw [Nat.mod_eq_of_lt (a := h.blockLength - m % h.blockLength) (by omega), Nat.add_mod,
      Nat.mod_eq_of_lt (a := h.blockLength - m % h.blockLength) (by omega)]
    have : m % h.blockLength + (h.blockLength - m % h.blockLength) = h.blockLength := by omega
    rw [this, Nat.mod_self]

end HashFunction

/-! ### Codes of authentication -/

namespace Hmac

/-- A key as it goes into the blocks: cut down by hashing if it is long, and filled up with zeros. -/
def keyBlock (h : HashFunction) (key : Bytes) : Bytes :=
  let key := if h.blockLength < key.length then h.hash key else key
  key ++ List.replicate (h.blockLength - key.length) 0

/-- The states after the two blocks that a key makes: the one before the message, and the one before
the hash value of that. -/
def states (h : HashFunction) (key : Bytes) : h.State × h.State :=
  let block := keyBlock h key
  (h.absorb h.initial (block.map (· ^^^ 0x36)), h.absorb h.initial (block.map (· ^^^ 0x5c)))

/-- The code of `message` under the key that made `states`. -/
def codeFrom (h : HashFunction) (states : h.State × h.State) (message : Bytes) : Bytes :=
  h.finish states.2 h.blockLength (h.finish states.1 h.blockLength message)

def code (h : HashFunction) (key message : Bytes) : Bytes := codeFrom h (states h key) message

end Hmac

end SessionEngine.Crypto
