import SessionEngine.Tls.Fault
import SessionEngine.Tls.Signature

/-! Private keys: how they are written, which public key belongs to each, and signing with them. A
written key is refused if its parts do not fit together. The main statement is
`public_of_curveKey?`: the public key that is written beside a private one is the one that belongs to
it. -/

namespace SessionEngine.Tls

open Crypto (Curve Digest)

inductive PrivateKey where
  | ecdsa (curve : CurveName) (secret : Nat)
  | rsa (key : Crypto.Rsa.PublicKey) (secret : Nat)
  | ed25519 (seed : Bytes)
  deriving DecidableEq, Repr

namespace PrivateKey

open Der

/-- The forms of a written key: for RSA alone, for curves alone, and for keys of any kind. -/
inductive Form where
  | rsa
  | curve
  | general
  deriving DecidableEq, Repr, Inhabited

/-! ### Keys of RSA -/

structure RsaParts where
  modulus : Nat
  exponent : Nat
  secret : Nat
  first : Nat
  second : Nat
  firstSecret : Nat
  secondSecret : Nat
  coefficient : Nat
  deriving DecidableEq, Repr

/-- Whether the parts are of the right sizes and fit together. -/
def RsaParts.fit (k : RsaParts) : Bool :=
  let bits := Crypto.Rsa.bitCount k.modulus
  let half := (bits + 1) / 2
  let isPrimeSize (p : Nat) := p % 2 == 1 && Crypto.Rsa.bitCount p == half && half % 512 == 0
  let isPower (d p : Nat) := d % 2 == 1 && decide (d < p)
  k.modulus % 2 == 1 && decide (2041 ≤ bits) && decide (bits ≤ 4096) &&
    decide (65537 ≤ k.exponent) && decide (k.exponent < 0x200000000) && k.exponent % 2 == 1 &&
    isPrimeSize k.first && isPrimeSize k.second && k.first * k.second == k.modulus &&
    k.secret % 2 == 1 && decide (half < Crypto.Rsa.bitCount k.secret) &&
    decide (k.secret < k.modulus) && isPower k.firstSecret k.first &&
    isPower k.secondSecret k.second && decide (k.coefficient < k.first) &&
    k.coefficient * k.second % k.first == 1

def rsaKey? (data : Bytes) : Option PrivateKey := do
  let (version, parts) ← Reader.whole (Reader.within tagSequence do
    let version ← Reader.natural
    let modulus ← Reader.natural
    let exponent ← Reader.natural
    let secret ← Reader.natural
    let first ← Reader.natural
    let second ← Reader.natural
    let firstSecret ← Reader.natural
    let secondSecret ← Reader.natural
    let coefficient ← Reader.natural
    return (version, (⟨modulus, exponent, secret, first, second, firstSecret, secondSecret,
      coefficient⟩ : RsaParts))) data
  if version = 0 ∧ parts.fit then return .rsa ⟨parts.modulus, parts.exponent⟩ parts.secret else none

/-! ### Keys of curves -/

/-- The private key, the public key and the curve, if one is given, that `data` writes. -/
def curveParts : Reader (Bytes × Option Bytes × Bytes) := Reader.within tagSequence do
  let version ← Reader.natural
  let secret ← Reader.value tagOctets
  let curve ← Reader.valueIf (tagContext 0)
  let key ← Reader.within (tagContext 1) Reader.bits
  if version = 1 then return (secret, curve, key) else failure

def curveKey? (name : CurveName) (data : Bytes) : Option PrivateKey := do
  let (secret, curve, key) ← curveParts.whole data
  let n := Bytes.bigEndian secret
  if curve.all (· == ObjectId.encode name.objectId) ∧ secret.length = name.curve.size ∧
      name.curve.IsSecret n ∧ name.curve.publicKey n = key then
    return .ecdsa name n
  else none

/-! ### Keys of any kind -/

/-- The private part of a key of the kind `algorithm` that `data` writes, and the public part, which is
there in the second version only. -/
def general? (algorithm : Bytes) (data : Bytes) : Option (Bytes × Option Bytes) :=
  Reader.whole (Reader.within tagSequence do
    let version ← Reader.natural
    let found ← Reader.value tagSequence
    let secret ← Reader.value tagOctets
    let _ ← Reader.valueIf (tagContext 0)
    if found ≠ algorithm ∨ 1 < version then failure
    else if version = 0 then return (secret, none)
    else if ← Reader.comes (tagContext 1) then
      return (secret, some (← Reader.within (tagContext 1) Reader.bits))
    else match ← Reader.value 0x81 with
      | 0 :: key => return (secret, some key)
      | _ => failure) data

/-- The private part of a key in the first version. -/
def generalFirst? (algorithm : Bytes) (data : Bytes) : Option Bytes :=
  match general? algorithm data with
  | some (secret, none) => some secret
  | _ => none

def signerKey? (data : Bytes) : Option PrivateKey := do
  let (secret, key) ← general? (ObjectId.encode ObjectId.ed25519) data
  let seed ← (Reader.value tagOctets).whole secret
  if seed.length = 32 ∧ key.all (· == Crypto.Edwards.signerKey seed) then return .ed25519 seed
  else none

def decode? (form : Form) (data : Bytes) : Option PrivateKey :=
  let onCurve (read : CurveName → Option Bytes) : Option PrivateKey :=
    [CurveName.p256, .p384].findSome? fun name => (read name).bind (curveKey? name)
  match form with
  | .rsa => rsaKey? data
  | .curve => onCurve fun _ => some data
  | .general =>
    ((generalFirst? (PublicKey.rsaKind) data).bind rsaKey?).or
      ((onCurve fun name => generalFirst? (PublicKey.curveKind name) data).or (signerKey? data))

def decode (form : Form) (data : Bytes) : Except KeyFault PrivateKey :=
  (decode? form data).elim (.error .unparsable) .ok

/-! ### What belongs to a key -/

/-- The public key of a private key, if the secret is one. -/
def publicKey? : PrivateKey → Option PublicKey
  | .ecdsa name secret => (name.curve.multiple secret name.curve.base).map (.ecdsa name)
  | .rsa key _ => some (.rsa key)
  | .ed25519 seed => some (.ed25519 (Crypto.Edwards.signerKey seed))

/-- The schemes that a key signs by; the first ones are preferred. -/
def schemes : PrivateKey → List Scheme
  | .ecdsa .p256 _ => [.ecdsa .sha256]
  | .ecdsa .p384 _ => [.ecdsa .sha384]
  | .rsa .. => Scheme.all.filter fun
    | .rsa .. => true
    | _ => false
  | .ed25519 _ => [.ed25519]

/-- The signature of `message` by a scheme of the key. What would be drawn at random is drawn from the
key and the message, so that no two messages share it. -/
def sign (k : PrivateKey) (scheme : Scheme) (message : Bytes) : Bytes :=
  match k, scheme with
  | .ecdsa name secret, .ecdsa d =>
    let c := name.curve
    let once := c.drawSecret (Digest.sha512.code (Bytes.fixed c.size secret) message)
    let (r, s) := c.sign secret once (d.hash message)
    sequence [natural r, natural s]
  | .rsa key secret, .rsa padding d =>
    let salt := Digest.sha512.code (Bytes.fixed key.size secret) message
    Crypto.Rsa.sign key secret padding d message (salt.take d.length)
  | .ed25519 seed, .ed25519 => Crypto.Edwards.sign seed message
  | _, _ => []

/-- The public key that is written beside a private one is the one that belongs to it. -/
theorem public_of_curveKey? {name : CurveName} {data : Bytes} {k : PrivateKey}
    (h : curveKey? name data = some k) :
    ∃ secret curve key, curveParts.whole data = some (secret, curve, key) ∧
      name.curve.publicKey (Bytes.bigEndian secret) = key ∧
      k = .ecdsa name (Bytes.bigEndian secret) := by
  simp only [curveKey?, Option.bind_eq_bind, Option.bind_eq_some_iff] at h
  obtain ⟨⟨secret, curve, key⟩, hparts, h⟩ := h
  simp only at h
  split at h
  · next hfit => exact ⟨secret, curve, key, hparts, hfit.2.2.2, (Option.some.inj h).symm⟩
  · simp at h

end PrivateKey

end SessionEngine.Tls
