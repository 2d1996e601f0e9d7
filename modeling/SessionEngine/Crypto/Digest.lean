import SessionEngine.Crypto.Sha256
import SessionEngine.Crypto.Sha512

/-! The hash functions of SHA-2 by name. The main statement is `length_hash`: a hash value is as long as
the name says. -/

namespace SessionEngine.Crypto

/-- A hash function of SHA-2. -/
inductive Digest where
  | sha224
  | sha256
  | sha384
  | sha512
  deriving DecidableEq, Repr, Inhabited

namespace Digest

def function : Digest → HashFunction
  | .sha224 => Crypto.sha224
  | .sha256 => Crypto.sha256
  | .sha384 => Crypto.sha384
  | .sha512 => Crypto.sha512

/-- The bytes of a hash value. -/
def length : Digest → Nat
  | .sha224 => 28
  | .sha256 => 32
  | .sha384 => 48
  | .sha512 => 64

/-- The last number of the object identifier of a hash function. -/
def number : Digest → UInt8
  | .sha224 => 4
  | .sha256 => 1
  | .sha384 => 2
  | .sha512 => 3

def hash (d : Digest) (data : Bytes) : Bytes := d.function.hash data

/-- A hash value is as long as the name says. -/
@[simp] theorem length_hash (d : Digest) (data : Bytes) : (d.hash data).length = d.length := by
  cases d with
  | sha224 => exact Sha256.State.length_take (by decide : 28 ≤ 32) _
  | sha256 => exact Sha256.State.length_bytes _
  | sha384 => exact Sha512.State.length_take (by decide : 48 ≤ 64) _
  | sha512 => exact Sha512.State.length_bytes _

def code (d : Digest) (key message : Bytes) : Bytes := Hmac.code d.function key message

end Digest

end SessionEngine.Crypto
