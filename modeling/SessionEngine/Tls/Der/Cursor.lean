import SessionEngine.Tls.ObjectId

/-! Reading DER with an account of what went wrong and at which byte. Values lie within each other like
frames; a value that is read as a step of its own adds its place to the place of a failure within it.
The main statement is `bytes_take`: as many bytes are taken as are asked for, if the frame has them. -/

namespace SessionEngine.Tls.Der

/-- The types of value, by their tags. -/
inductive Tag where
  | plain (byte : UInt8)
  /-- A type of a class other than the universal one. -/
  | classed (byte : UInt8)
  deriving DecidableEq, Repr, Inhabited

namespace Tag

/-- The types with a name. -/
def names : List (UInt8 × String) :=
  [(0x01, "BOOLEAN"), (0x02, "INTEGER"), (0x03, "BIT STRING"), (0x04, "OCTET STRING"),
   (0x05, "NULL"), (0x06, "OBJECT IDENTIFIER"), (0x09, "REAL"), (0x0a, "ENUMERATED"),
   (0x0c, "UTF8String"), (0x12, "NumericString"), (0x13, "PrintableString"),
   (0x14, "TeletexString"), (0x15, "VideotexString"), (0x16, "IA5String"), (0x17, "UTCTime"),
   (0x18, "GeneralizedTime"), (0x1a, "VisibleString"), (0x1e, "BMPString"), (0x30, "SEQUENCE"),
   (0x31, "SET")]

/-- The byte of a type. -/
def byte : Tag → UInt8
  | .plain byte => byte
  | .classed byte => byte

/-- The name of a type. -/
def name (tag : Tag) : String :=
  let byte := tag.byte
  let kind := if byte &&& 0x20 = 0 then "primitive" else "constructed"
  let within (family : String) := s!"{family} [{(byte &&& 0x1f).toNat}] ({kind})"
  if byte < 0x40 then (names.lookup byte).getD ""
  else if byte < 0x80 then within "APPLICATION"
  else if byte < 0xc0 then within "CONTEXT-SPECIFIC"
  else within "PRIVATE"

end Tag

/-- How bytes fail to be a value. -/
inductive Fault where
  /-- The value would end at `expected`, and there is nothing behind `actual`. -/
  | incomplete (expected actual : Nat)
  | trailing (decoded remaining : Nat)
  | tagNumber
  | unknownTag (byte : UInt8)
  | unexpectedTag (expected actual : Tag)
  | indefiniteLength
  | overflow
  | overlong
  /-- A length that is not in its shortest form, or does not suit the type. -/
  | length (tag : Tag)
  | noncanonical (tag : Tag)
  | value (tag : Tag)
  | malformedId
  | unknownId (id : Bytes)
  deriving DecidableEq, Repr, Inhabited

/-- The text of a fault. -/
def Fault.message : Fault → String
  | .incomplete expected actual =>
    s!"ASN.1 DER message is incomplete: expected {expected}, actual {actual}"
  | .trailing decoded remaining =>
    s!"trailing data at end of DER message: decoded {decoded} bytes, {remaining} bytes remaining"
  | .tagNumber => "invalid tag number"
  | .unknownTag byte =>
    "unknown/unsupported ASN.1 DER tag: 0x" ++
      String.ofList [Nat.digitChar (byte.toNat / 16), Nat.digitChar (byte.toNat % 16)]
  | .unexpectedTag expected actual =>
    s!"unexpected ASN.1 DER tag: expected {expected.name}, got {actual.name}"
  | .indefiniteLength => "indefinite length disallowed"
  | .overflow => "integer overflow"
  | .overlong => "ASN.1 DER message is too long"
  | .length tag => s!"incorrect length for {tag.name}"
  | .noncanonical tag => s!"ASN.1 {tag.name} not canonically encoded as DER"
  | .value tag => s!"malformed ASN.1 DER value for {tag.name}"
  | .malformedId => "malformed OID"
  | .unknownId id => s!"unknown/unsupported OID: {ObjectId.dotted id}"

/-- A fault and the byte at which it was met, as far as that is known. -/
structure Located where
  fault : Fault
  position : Option Nat := none
  deriving DecidableEq, Repr, Inhabited

/-- The text of a fault with its place. -/
def Located.message (e : Located) : String :=
  match e.position with
  | none => e.fault.message
  | some n => s!"{e.fault.message} at DER byte {n}"

/-- The value that is read: where it starts and where it ends. -/
structure Frame where
  start : Nat
  stop : Nat
  deriving DecidableEq, Repr

/-- How far reading has come, and what is left. -/
structure Place where
  offset : Nat
  data : Bytes
  deriving DecidableEq, Repr

/-- Reads within a frame; how far it came is known of a failure too. -/
abbrev Cursor := ReaderT Frame (ExceptT Located (StateM Place))

namespace Cursor

variable {α : Type}

def runAt (r : Cursor α) (frame : Frame) (place : Place) : Except Located α × Place :=
  (r.run frame).run.run place

/-- Fails at no place in particular. -/
def fail (fault : Fault) : Cursor α := throw { fault }

def orFail (found : Option α) (fault : Fault) : Cursor α := found.elim (fail fault) pure

/-- The bytes from the beginning of the frame to the place. -/
def position : Cursor Nat := return (← get).offset - (← read).start

/-- The bytes from the place to the end of the frame. -/
def remaining : Cursor Nat := return (← read).stop - (← get).offset

/-- Fails unless the frame has `n` bytes more. -/
def need (n : Nat) : Cursor Unit := do
  let offset := (← get).offset
  let stop := (← read).stop
  if stop < offset + n then throw ⟨.incomplete (offset + n) stop, some offset⟩

def bytes (n : Nat) : Cursor Bytes := do
  need n
  let place ← get
  set (⟨place.offset + n, place.data.drop n⟩ : Place)
  return place.data.take n

/-- The next byte. -/
def byte : Cursor UInt8 := return (← bytes 1).headD 0

/-- What `r` reads as a step of its own: its place is added to the place of a failure. -/
def step (r : Cursor α) : Cursor α := fun frame => do
  let place ← get
  match r.runAt frame place with
  | (.ok a, place) => set place; return a
  | (.error e, place) =>
    set place
    throw { e with position := some (place.offset - frame.start + e.position.getD 0) }

/-- What `r` reads from all of the next `n` bytes. -/
def within (n : Nat) (r : Cursor α) : Cursor α := do
  need n
  let offset := (← get).offset
  withReader (fun _ => ⟨offset, offset + n⟩) do
    let a ← r
    let left ← remaining
    let decoded ← position
    if left = 0 then return a else throw ⟨.trailing decoded left, some decoded⟩

/-- What `r` reads from all of `data`, by itself. -/
def all (r : Cursor α) (data : Bytes) : Except Located α :=
  (runAt (within data.length r) ⟨0, data.length⟩ ⟨0, data⟩).1

/-- What `r` reads from all of `data`, as a part of this reading. -/
def part (r : Cursor α) (data : Bytes) : Cursor α :=
  match all r data with
  | .ok a => pure a
  | .error e => throw e

/-! ### Values -/

/-- The type that a byte is the tag of. -/
def tagOf (b : UInt8) : Except Fault Tag :=
  if b &&& 0x1f = 0x1f then .error .tagNumber
  else if 0x40 ≤ b then .ok (.classed b)
  else if (Tag.names.lookup b).isSome then .ok (.plain b)
  else .error (.unknownTag b)

/-- The next tag. -/
def tag : Cursor Tag := do
  match tagOf (← byte) with
  | .ok tag => return tag
  | .error fault => fail fault

/-- The number that `n` bytes write after `sum`. -/
def lengthBytes (sum : Nat) : (n : Nat) → Cursor Nat
  | 0 => return sum
  | n + 1 => do lengthBytes (sum * 256 + (← byte).toNat) n

/-- The longest length. -/
def maxLength : Nat := 0xfffffff

/-- The length of a value of type `tag`. -/
def length (tag : Tag) : Cursor Nat := do
  let first := (← byte).toNat
  if first < 128 then return first
  else if first = 128 then fail .indefiniteLength
  else if 132 < first then fail (.length tag)
  else
    let n ← lengthBytes 0 (first - 128)
    if maxLength < n then fail .overflow
    else if (encodeLongLength n).headD 0 = UInt8.ofNat first then return n
    else fail (.length tag)
where
  /-- A length in its shortest form. -/
  encodeLongLength (n : Nat) : Bytes :=
    if n < 128 then [UInt8.ofNat n] else UInt8.ofNat (128 + (digits n).length) :: digits n

/-- The type and length of the next value. -/
def header : Cursor (Tag × Nat) := do
  let tag ← tag
  return (tag, ← length tag)

/-- Fails unless the type is the one that is expected. -/
def expect (expected actual : Tag) : Cursor Unit :=
  if expected = actual then pure () else fail (.unexpectedTag expected actual)

/-- The type of sequences. -/
def sequenceTag : Tag := .plain tagSequence
/-- The type of byte strings. -/
def octetsTag : Tag := .plain tagOctets
/-- The type of whole numbers. -/
def integerTag : Tag := .plain tagInteger
/-- The type of object identifiers. -/
def idTag : Tag := .plain tagObjectId
/-- The type of the value that says nothing. -/
def nullTag : Tag := .plain tagNull

def sequence (r : Cursor α) : Cursor α := do
  let (tag, n) ← header
  expect sequenceTag tag
  within n r

/-- A byte string. -/
def octets : Cursor Bytes := do
  let (tag, n) ← header
  expect octetsTag tag
  bytes n

/-- A value of any type. -/
def any : Cursor (Tag × Bytes) := do
  let (tag, n) ← header
  return (tag, ← bytes n)

/-- The most bytes of an object identifier. -/
def maxId : Nat := 39

/-- An object identifier. -/
def objectId : Cursor Bytes := do
  let (tag, n) ← header
  expect idTag tag
  if maxId < n then fail (.length idTag)
  let id ← bytes n
  if ObjectId.isValid id then return id else fail .malformedId

/-- The next `n` bytes as a whole number of at most `width` bytes that is not negative. -/
def unsignedValue (width n : Nat) : Cursor Nat := do
  if width + 1 < n then fail (.noncanonical integerTag)
  match ← bytes n with
  | [] => fail (.noncanonical integerTag)
  | a :: rest =>
    if a = 0 ∧ rest ≠ [] ∧ (rest.headD 0) < 0x80 then fail (.noncanonical integerTag)
    else if 0x80 ≤ a then fail (.value integerTag)
    else if a ≠ 0 ∧ width < n then fail (.length integerTag)
    else return Bytes.bigEndian (a :: rest)

/-- A whole number of at most `width` bytes that is not negative. -/
def unsigned (width : Nat) : Cursor Nat := do
  let (tag, n) ← header
  expect integerTag tag
  unsignedValue width n

/-- What `r` reads, if a value follows whose type `fits` says it may have. -/
def optional (fits : Tag → Bool) (r : Cursor α) : Cursor (Option α) := do
  if (← remaining) = 0 then return none
  match tagOf ((← get).data.headD 0) with
  | .error fault => fail fault
  | .ok tag => if fits tag then return some (← r) else return none

/-- As many bytes are taken as are asked for, if the frame has them. -/
theorem bytes_take {n : Nat} {frame : Frame} {place : Place} (h : place.offset + n ≤ frame.stop) :
    (bytes n).runAt frame place =
      (.ok (place.data.take n), ⟨place.offset + n, place.data.drop n⟩) := by
  have hn : ¬ frame.stop < place.offset + n := Nat.not_lt.mpr h
  change (((if frame.stop < place.offset + n then
      throw ⟨.incomplete (place.offset + n) frame.stop, some place.offset⟩
    else pure ()) >>= fun () => do
      let here ← get
      set (⟨here.offset + n, here.data.drop n⟩ : Place)
      return here.data.take n) : Cursor Bytes).runAt frame place = _
  rw [if_neg hn]
  rfl

end Cursor

end SessionEngine.Tls.Der
