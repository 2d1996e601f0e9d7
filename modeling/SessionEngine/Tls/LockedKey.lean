import SessionEngine.Crypto.Aes
import SessionEngine.Crypto.Digest
import SessionEngine.Tls.Der.Cursor

/-! Private keys locked under a password: which way of making a key from the password was chosen, which
cipher, and unlocking. The main statement is `unlock_eq_error_of_prf`: what the locks know of SHA-1 is
that they do not support it. -/

namespace SessionEngine.Tls

open Crypto (Digest)

/-- Why a locked key stays locked. -/
inductive LockFault where
  /-- It is not written as a locked key. -/
  | unreadable (fault : Der.Located)
  /-- What it holds under the password is no key. -/
  | unreadableContent (fault : Der.Located)
  | unsupportedHash (id : Bytes)
  /-- The parameters of the algorithm with an identifier cannot be used. -/
  | badParameters (id : Bytes)
  /-- An old scheme. -/
  | outdated
  | wrongPassword
  deriving DecidableEq, Repr

def LockFault.message : LockFault → String
  | .unreadable fault => s!"PKCS#8 ASN.1 error: {fault.message}"
  | .unreadableContent fault => s!"cannot decrypt key: PKCS#8 ASN.1 error: {fault.message}"
  | .unsupportedHash id =>
    s!"cannot decrypt key: PKCS#5 algorithm {ObjectId.dotted id} is unsupported"
  | .badParameters id =>
    s!"cannot decrypt key: PKCS#5 parameters for algorithm {ObjectId.dotted id} are invalid"
  | .outdated =>
    "cannot decrypt key: PKCS#5 encryption/decryption unsupported for PBES1 (won't fix)"
  | .wrongPassword => "cannot decrypt key: PKCS#5 encryption failed"

namespace LockedKey

open Der Cursor

/-- How a key is made from a password. -/
inductive Stretching where
  /-- Repeated codes with the hash function that `hash` names. -/
  | pbkdf2 (salt : Bytes) (count : Nat) (length : Option Nat) (hash : Bytes)
  | scrypt (salt : Bytes) (cost size lanes : Nat) (length : Option Nat)
  deriving DecidableEq, Repr

inductive Lock where
  /-- A cipher with keys of `keyLength` bytes that starts from `start`. -/
  | modern (stretching : Stretching) (keyLength : Nat) (start : Bytes)
  | outdated
  deriving DecidableEq, Repr

structure Locked where
  lock : Lock
  content : Bytes
  deriving DecidableEq, Repr

/-! ### Reading -/

/-- An algorithm: its identifier and its parameters. -/
structure Algorithm where
  id : Bytes
  parameters : Option (Tag × Bytes)

def algorithm : Cursor Algorithm := sequence do
  let id ← step objectId
  return ⟨id, ← step (optional (fun _ => true) any)⟩

/-- What `r` reads from parameters that are a sequence. -/
def parameters {α : Type} (given : Tag × Bytes) (r : Cursor α) : Cursor α := do
  expect sequenceTag given.1
  part r given.2

/-- Codes of SHA-1 and of the hash functions of SHA-2, by their identifiers. -/
def hashes : List (Bytes × Option Digest) :=
  let id (last : UInt8) : Bytes := [0x2a, 0x86, 0x48, 0x86, 0xf7, 0x0d, 2, last]
  [(id 7, none), (id 8, some .sha224), (id 9, some .sha256), (id 10, some .sha384),
   (id 11, some .sha512)]

/-- The identifier of codes of SHA-1, which is meant if no other one is given. -/
def defaultHash : Bytes := [0x2a, 0x86, 0x48, 0x86, 0xf7, 0x0d, 2, 7]

/-- The hash function that an algorithm names. -/
def hashOf (a : Algorithm) : Cursor Bytes :=
  match a.parameters with
  | none => fail (.value nullTag)
  | some (tag, content) =>
    if tag ≠ nullTag ∨ content ≠ [] then fail (.value tag)
    else if (hashes.lookup a.id).isSome then pure a.id
    else fail (.unknownId a.id)

/-- A whole number of at most `width` bytes, if one follows. -/
def numberIf (width : Nat) : Cursor (Option Nat) := step (optional (· == integerTag) (unsigned width))

/-- How a key is made, by the algorithm that says so. -/
def stretchingOf (a : Algorithm) : Cursor Stretching :=
  match a.parameters with
  | none => fail (.value octetsTag)
  | some given =>
    if a.id = ObjectId.pbkdf2 then parameters given do
      let salt ← octets
      let count ← step (unsigned 4)
      let length ← numberIf 2
      match ← optional (· == sequenceTag) algorithm with
      | none => return .pbkdf2 salt count length defaultHash
      | some a => return .pbkdf2 salt count length (← hashOf a)
    else if a.id = ObjectId.scrypt then parameters given do
      let salt ← octets
      let cost ← step (unsigned 8)
      let size ← step (unsigned 2)
      let lanes ← step (unsigned 2)
      return .scrypt salt cost size lanes (← numberIf 2)
    else fail (.unknownId a.id)

/-- The bytes of the keys of the ciphers that are known, by their identifiers. -/
def ciphers : List (Bytes × Nat) :=
  let id (last : UInt8) : Bytes := [0x60, 0x86, 0x48, 1, 0x65, 3, 4, 1, last]
  [(id 2, 16), (id 22, 24), (id 42, 32)]

/-- The length of the keys of a cipher, and the bytes that it starts from. -/
def cipherOf (a : Algorithm) : Cursor (Nat × Bytes) :=
  match a.parameters with
  | none => fail (.value octetsTag)
  | some (tag, start) => do
    expect octetsTag tag
    match ciphers.lookup a.id with
    | none => fail (.unknownId a.id)
    | some n => if start.length = 16 then return (n, start) else fail (.value octetsTag)

/-- The last numbers of the identifiers of the old schemes. -/
def outdatedNumbers : List UInt8 := [1, 3, 4, 6, 10, 11]

def lockOf (a : Algorithm) : Cursor Lock :=
  if a.id = ObjectId.pbes2 then
    match a.parameters with
    | none => fail (.value octetsTag)
    | some given => parameters given do
      let stretching ← algorithm
      let cipher ← algorithm
      let stretching ← stretchingOf stretching
      let (keyLength, start) ← cipherOf cipher
      return .modern stretching keyLength start
  else if outdatedNumbers.any fun last => ObjectId.pbes2.dropLast ++ [last] == a.id then
    match a.parameters with
    | none => fail (.value octetsTag)
    | some given => parameters given do
      if (← octets).length ≠ 8 then fail (.value octetsTag)
      let _ ← step (unsigned 2)
      return .outdated
  else fail (.value idTag)

def locked : Cursor Locked := sequence do
  let lock ← step do lockOf (← algorithm)
  return ⟨lock, ← octets⟩

def decode (data : Bytes) : Except LockFault Locked := (all locked data).mapError .unreadable

/-! ### Unlocking -/

def isPowerOfTwo (n : Nat) : Bool := 0 < n && n &&& (n - 1) == 0

/-- Whether scrypt can work with these parameters. -/
def suitsScrypt (cost size lanes : Nat) : Bool :=
  isPowerOfTwo cost && 0 < size && 0 < lanes && decide (cost < 1 <<< (16 * size)) &&
    decide (size * lanes < 0x40000000) && decide (128 * size * cost < UInt64.size)

/-- The key of `keyLength` bytes that a password makes. -/
def Stretching.key (s : Stretching) (keyLength : Nat) (password : Bytes) :
    Except LockFault Bytes :=
  match s with
  | .pbkdf2 salt count length hash =>
    if length.any (· != keyLength) then .error (.badParameters ObjectId.pbkdf2)
    else match hashes.lookup hash with
      | some (some d) => .ok (Crypto.pbkdf2 d.function password salt count keyLength)
      | _ => .error (.unsupportedHash hash)
  | .scrypt salt cost size lanes length =>
    if length.any (· != keyLength) ∨ !suitsScrypt cost size lanes then
      .error (.badParameters ObjectId.scrypt)
    else .ok (Crypto.scrypt password salt cost size lanes keyLength)

/-- What a locked key holds under `password`. -/
def Locked.unlock (l : Locked) (password : Bytes) : Except LockFault Bytes :=
  match l.lock with
  | .outdated => .error .outdated
  | .modern stretching keyLength start => do
    let key ← stretching.key keyLength password
    match Crypto.Aes.decrypt? key start l.content with
    | none => .error .wrongPassword
    | some content =>
      ((all wholeSequence content).mapError .unreadableContent).map fun _ => content
where
  /-- A sequence, whatever it holds. -/
  wholeSequence : Cursor Unit := do
    let start ← get
    let (tag, n) ← header
    expect sequenceTag tag
    let used ← position
    set start
    discard (bytes (used + n))

/-- SHA-1 is not supported. -/
theorem unlock_eq_error_of_prf (salt content start password : Bytes) (count keyLength : Nat) :
    Locked.unlock ⟨.modern (.pbkdf2 salt count none defaultHash) keyLength start, content⟩ password =
      .error (.unsupportedHash defaultHash) := rfl

end LockedKey

end SessionEngine.Tls
