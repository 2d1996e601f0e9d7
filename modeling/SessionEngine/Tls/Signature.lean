import SessionEngine.Crypto.Curve
import SessionEngine.Crypto.Edwards
import SessionEngine.Crypto.Rsa
import SessionEngine.Tls.ObjectId

/-! Schemes of signature, and the public keys under which signatures are checked. The main statements are
`ofCode?_code` and `ofAlgorithm?_algorithm`: a scheme is known by its number, and by the algorithm that it
writes. -/

namespace SessionEngine.Tls

open Crypto (Curve Digest)

/-- The curves that keys may be of. -/
inductive CurveName where
  | p256
  | p384
  deriving DecidableEq, Repr, Inhabited

def CurveName.curve : CurveName → Curve
  | .p256 => .p256
  | .p384 => .p384

/-- The identifier of a curve. -/
def CurveName.objectId : CurveName → Bytes
  | .p256 => ObjectId.p256
  | .p384 => ObjectId.p384

inductive PublicKey where
  | ecdsa (curve : CurveName) (point : Curve.Point)
  | rsa (key : Crypto.Rsa.PublicKey)
  | ed25519 (key : Bytes)
  deriving DecidableEq, Repr

namespace PublicKey

open Der

/-- What says that a key is on `curve`. -/
def curveKind (curve : CurveName) : Bytes :=
  ObjectId.encode ObjectId.curveKey ++ ObjectId.encode curve.objectId

def rsaKind : Bytes := ObjectId.encode ObjectId.rsaKey ++ wrap tagNull []

/-- What stands before a key and says of which kind it is. -/
def algorithm : PublicKey → Bytes
  | .ecdsa curve _ => curveKind curve
  | .rsa _ => rsaKind
  | .ed25519 _ => ObjectId.encode ObjectId.ed25519

def bytes : PublicKey → Bytes
  | .ecdsa curve point => curve.curve.encode point
  | .rsa key => sequence [natural key.modulus, natural key.exponent]
  | .ed25519 key => key

/-- A public key as certificates hold it: its kind and its bytes. -/
def info (k : PublicKey) : Bytes := wrap tagSequence k.algorithm ++ Der.bits k.bytes

/-- What `info` says of the kind of a key, and the bytes of the key. -/
def parts? (info : Bytes) : Option (Bytes × Bytes) := Reader.whole (do
  let algorithm ← Reader.value tagSequence
  return (algorithm, ← Reader.bits)) info

def ofInfo? (info : Bytes) : Option PublicKey := do
  let (algorithm, data) ← parts? info
  let modulus : Reader Crypto.Rsa.PublicKey := Reader.within tagSequence do
    let modulus ← Reader.natural
    return ⟨modulus, ← Reader.natural⟩
  let candidates : List PublicKey :=
    ([CurveName.p256, .p384].filterMap fun c => (c.curve.point? data).map (.ecdsa c)) ++
      ((modulus.whole data).map .rsa).toList ++ [.ed25519 data]
  candidates.find? (·.algorithm == algorithm)

end PublicKey

inductive Scheme where
  | ecdsa (digest : Digest)
  | rsa (padding : Crypto.Rsa.Padding) (digest : Digest)
  | ed25519
  deriving DecidableEq, Repr, Inhabited

namespace Scheme

/-- The schemes that are known, with their numbers; the first ones are preferred. -/
def table : List (Scheme × Nat) :=
  [(.ecdsa .sha384, 0x0503), (.ecdsa .sha256, 0x0403), (.ed25519, 0x0807),
   (.rsa .salted .sha512, 0x0806), (.rsa .salted .sha384, 0x0805), (.rsa .salted .sha256, 0x0804),
   (.rsa .fixed .sha512, 0x0601), (.rsa .fixed .sha384, 0x0501), (.rsa .fixed .sha256, 0x0401)]

/-- All schemes that are known. -/
def all : List Scheme := table.map (·.1)

/-- The number of a scheme. -/
def code (s : Scheme) : Nat := (table.lookup s).getD 0

/-- The scheme with a number. -/
def ofCode? (code : Nat) : Option Scheme := (table.find? (·.2 == code)).map (·.1)

/-- The curve that a number names besides the scheme. -/
def curve? : Scheme → Option CurveName
  | .ecdsa .sha256 => some .p256
  | .ecdsa .sha384 => some .p384
  | _ => none

/-- Whether a scheme may be used in version 1.3. -/
def isModern : Scheme → Bool
  | .rsa .fixed _ => false
  | _ => true

/-- A known scheme is known by its number. -/
theorem ofCode?_code {s : Scheme} (h : s ∈ all) : ofCode? s.code = some s := by
  revert s
  decide

/-- The two numbers of a signature on a curve. -/
def pair? (signature : Bytes) : Option (Nat × Nat) :=
  Der.Reader.whole (Der.Reader.within Der.tagSequence do
    let r ← Der.Reader.natural
    return (r, ← Der.Reader.natural)) signature

/-- Whether `signature` is one of `message` by the holder of `key`. -/
def verify (s : Scheme) (key : PublicKey) (message signature : Bytes) : Bool :=
  match s, key with
  | .ecdsa d, .ecdsa curve point =>
    (pair? signature).any fun pair => curve.curve.verify point (d.hash message) pair
  | .rsa padding d, .rsa key => Crypto.Rsa.verify key padding d message signature
  | .ed25519, .ed25519 key => Crypto.Edwards.verify key message signature
  | _, _ => false

/-! ### Schemes as algorithms -/

/-- The kinds of key that go with a scheme. In version 1.3 a scheme is tied to one curve. -/
def keyKinds (s : Scheme) (modern : Bool) : List Bytes :=
  match s with
  | .ecdsa _ =>
    ([CurveName.p256, .p384].filter fun c => !modern || s.curve? == some c).map PublicKey.curveKind
  | .rsa .. => [PublicKey.rsaKind]
  | .ed25519 => [ObjectId.encode ObjectId.ed25519]

/-- The written form of an algorithm of RSA, by the last number of its identifier. -/
def rsaAlgorithm (last : UInt8) : Bytes := ObjectId.encode (ObjectId.rsaKey.dropLast ++ [last])

/-- The written form of a hash function without parameters. -/
def hashAlgorithm (d : Digest) : Bytes :=
  Der.sequence [ObjectId.encode [0x60, 0x86, 0x48, 1, 0x65, 3, 4, 2, d.number], Der.wrap Der.tagNull []]

/-- The algorithm of a scheme as certificates write it. Salted padding tells its hash function, how its
mask is made, and the length of its salt. -/
def algorithm : Scheme → Bytes
  | .ecdsa d =>
    let last : UInt8 := match d with
      | .sha224 => 1
      | .sha256 => 2
      | .sha384 => 3
      | .sha512 => 4
    ObjectId.encode [0x2a, 0x86, 0x48, 0xce, 0x3d, 4, 3, last]
  | .rsa .fixed d => rsaAlgorithm (10 + d.number) ++ Der.wrap Der.tagNull []
  | .rsa .salted d =>
    rsaAlgorithm 10 ++ Der.sequence
      [Der.wrap (Der.tagContext 0) (hashAlgorithm d),
       Der.wrap (Der.tagContext 1) (Der.sequence [rsaAlgorithm 8, hashAlgorithm d]),
       Der.wrap (Der.tagContext 2) (Der.natural d.length)]
  | .ed25519 => ObjectId.encode ObjectId.ed25519

/-- The ways in which certificates write the algorithm of a scheme: parameters that say nothing may be
left out. -/
def algorithms (s : Scheme) : List Bytes :=
  match s with
  | .rsa .fixed d => [s.algorithm, rsaAlgorithm (10 + d.number)]
  | _ => [s.algorithm]

/-- The scheme that a certificate names. -/
def ofAlgorithm? (algorithm : Bytes) : Option Scheme :=
  all.find? fun s => s.algorithms.contains algorithm

/-- A known scheme is known by the algorithm that it writes. -/
theorem ofAlgorithm?_algorithm {s : Scheme} (h : s ∈ all) : ofAlgorithm? s.algorithm = some s := by
  revert s
  decide +kernel

end Scheme

end SessionEngine.Tls
