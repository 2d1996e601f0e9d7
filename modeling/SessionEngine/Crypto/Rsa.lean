import SessionEngine.Crypto.Digest
import SessionEngine.Crypto.Modular
import SessionEngine.Crypto.Stretch

/-! Signatures by RSA: raising to powers modulo a product of two primes, with the hash value padded in
one of two ways. The main statement is `length_sign`: a signature is as long as the modulus. -/

namespace SessionEngine.Crypto.Rsa

structure PublicKey where
  modulus : Nat
  exponent : Nat
  deriving DecidableEq, Repr

/-- The bits of a number. -/
def bitCount (n : Nat) : Nat := if n = 0 then 0 else bitCount (n / 2) + 1
  termination_by n

def PublicKey.size (k : PublicKey) : Nat := Modular.byteCount k.modulus

/-- The bits of a salted block: one less than the modulus has. -/
def PublicKey.saltedBits (k : PublicKey) : Nat := bitCount k.modulus - 1

/-! ### Padding with fixed bytes -/

/-- What stands in front of the hash value: the hash function by its identifier, and the length. -/
def header (d : Digest) : Bytes :=
  let size := UInt8.ofNat d.length
  [0x30, size + 17, 0x30, 13, 6, 9, 0x60, 0x86, 0x48, 1, 0x65, 3, 4, 2, d.number, 5, 0, 4, size]

/-- The block that is raised to a power: the hash value behind as many bytes as it takes. -/
def fixedBlock (d : Digest) (size : Nat) (message : Bytes) : Bytes :=
  let tail := header d ++ d.hash message
  [0, 1] ++ List.replicate (size - 3 - tail.length) 0xff ++ 0 :: tail

/-! ### Padding with salt -/

/-- `n` bytes drawn from `seed` by hashing it with a counter. -/
def mask (d : Digest) (seed : Bytes) (n : Nat) : Bytes :=
  ((List.range (n / d.length + 1)).flatMap fun i => d.hash (seed ++ Bytes.word i)).take n

/-- `block` with its first `n` bits cleared, for `n` below eight. -/
def clearBits (n : Nat) : Bytes → Bytes
  | [] => []
  | b :: rest => (b &&& (0xff >>> UInt8.ofNat n)) :: rest

/-- The part of a salted block in front of the hash value, under the mask or without it. -/
def flip (d : Digest) (bits : Nat) (value data : Bytes) : Bytes :=
  clearBits ((8 - bits % 8) % 8) (xorBytes data (mask d value data.length))

/-- The block of `bits` bits that is raised to a power: the salt behind a mask, and the hash value of
message and salt. The salt is as long as a hash value. -/
def saltedBlock (d : Digest) (bits : Nat) (message salt : Bytes) : Bytes :=
  let value := d.hash (List.replicate 8 0 ++ d.hash message ++ salt)
  let fill := List.replicate ((bits + 7) / 8 - 2 * d.length - 2) 0
  flip d bits value (fill ++ 1 :: salt) ++ value ++ [0xbc]

/-- Whether `block` is a salted block of `message`: the salt that it holds makes it again. -/
def isSaltedBlock (d : Digest) (bits : Nat) (message block : Bytes) : Bool :=
  let front := block.length - d.length - 1
  let data := flip d bits ((block.drop front).take d.length) (block.take front)
  saltedBlock d bits message (data.drop (front - d.length)) == block

/-! ### Signing -/

/-- The ways to pad. -/
inductive Padding where
  | fixed
  | salted
  deriving DecidableEq, Repr

/-- The signature of `message` under the private exponent `secret`. -/
def sign (k : PublicKey) (secret : Nat) (padding : Padding) (d : Digest) (message salt : Bytes) :
    Bytes :=
  let block := match padding with
    | .fixed => fixedBlock d k.size message
    | .salted => saltedBlock d k.saltedBits message salt
  Bytes.fixed k.size (Modular.power k.modulus (Bytes.bigEndian block) secret)

/-- Whether `signature` is one of `message` by the holder of the key. -/
def verify (k : PublicKey) (padding : Padding) (d : Digest) (message signature : Bytes) : Bool :=
  let n := Bytes.bigEndian signature
  let opened := Modular.power k.modulus n k.exponent
  signature.length == k.size && decide (n < k.modulus) &&
    match padding with
    | .fixed => Bytes.fixed k.size opened == fixedBlock d k.size message
    | .salted =>
      let size := (k.saltedBits + 7) / 8
      Modular.byteCount opened ≤ size &&
        isSaltedBlock d k.saltedBits message (Bytes.fixed size opened)

/-- A signature is as long as the modulus. -/
theorem length_sign (k : PublicKey) (secret : Nat) (padding : Padding) (d : Digest)
    (message salt : Bytes) : (sign k secret padding d message salt).length = k.size :=
  Bytes.length_fixed ..

end SessionEngine.Crypto.Rsa
