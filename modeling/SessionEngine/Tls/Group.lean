import SessionEngine.Crypto.Edwards
import SessionEngine.Tls.Signature

/-! The groups in which two sides agree on a secret. The main statement is `ofCode?_code`: a group is
known by its number. -/

namespace SessionEngine.Tls

/-- A group in which two sides agree on a secret. -/
inductive Group where
  | x25519
  | p256
  | p384
  deriving DecidableEq, Repr, Inhabited

namespace Group

/-- The groups, best first. -/
def all : List Group := [.x25519, .p256, .p384]

/-- The number of a group. -/
def code : Group → Nat
  | .x25519 => 0x001d
  | .p256 => 0x0017
  | .p384 => 0x0018

/-- The group with a number. -/
def ofCode? (code : Nat) : Option Group := all.find? (·.code == code)

/-- A group is known by its number. -/
@[simp] theorem ofCode?_code (g : Group) : ofCode? g.code = some g := by cases g <;> decide

/-- What the peer is told of a secret that was drawn as 64 bytes. -/
def share (g : Group) (secret : Bytes) : Bytes :=
  match g with
  | .x25519 => Crypto.Edwards.publicKey (secret.take 32)
  | .p256 => CurveName.p256.curve.publicKey (CurveName.p256.curve.drawSecret secret)
  | .p384 => CurveName.p384.curve.publicKey (CurveName.p384.curve.drawSecret secret)

/-- What two sides have in common: one drew `secret`, and the other one told `peer`. -/
def agree? (g : Group) (secret peer : Bytes) : Option Bytes :=
  match g with
  | .x25519 => Crypto.Edwards.agree? (secret.take 32) peer
  | .p256 => CurveName.p256.curve.agree? (CurveName.p256.curve.drawSecret secret) peer
  | .p384 => CurveName.p384.curve.agree? (CurveName.p384.curve.drawSecret secret) peer

end Group

end SessionEngine.Tls
