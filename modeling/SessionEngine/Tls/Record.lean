import SessionEngine.Bytes
import SessionEngine.Tls.Fault
import SessionEngine.Tls.Version

/-! The records of TLS: a type, a version, a length and so many bytes of payload; and records sealed
under a key, with the ideal that only who holds the key makes a record that opens. The main
statements are `next?_encode`, by which a written record is read back whatever follows it, and
`unprotect_protect`, by which a sealed record opens under its key and number. -/

namespace SessionEngine.Tls

inductive ContentType where
  | changeCipherSpec
  | alert
  | handshake
  | applicationData
  | heartbeat
  deriving DecidableEq, Repr, Inhabited

namespace ContentType

/-- The number of a type on the wire. -/
def code : ContentType → UInt8
  | .changeCipherSpec => 20
  | .alert => 21
  | .handshake => 22
  | .applicationData => 23
  | .heartbeat => 24

/-- The type with a number. -/
def ofCode? (code : UInt8) : Option ContentType :=
  if code = 20 then some .changeCipherSpec
  else if code = 21 then some .alert
  else if code = 22 then some .handshake
  else if code = 23 then some .applicationData
  else if code = 24 then some .heartbeat
  else none

def name : ContentType → String
  | .changeCipherSpec => "ChangeCipherSpec"
  | .alert => "Alert"
  | .handshake => "Handshake"
  | .applicationData => "ApplicationData"
  | .heartbeat => "Heartbeat"

@[simp] theorem ofCode?_code (t : ContentType) : ofCode? t.code = some t := by cases t <;> rfl

end ContentType

structure Record where
  type : ContentType
  payload : Bytes
  /-- The first byte of the version that the record names. -/
  major : UInt8 := 3
  minor : UInt8 := 3
  deriving DecidableEq, Repr, Inhabited

namespace Record

/-- The most bytes of plaintext in one record. -/
def maxFragment : Nat := 16384

/-- A payload has to be shorter than this. -/
def payloadBound : Nat := maxFragment + 2048

/-- The written form of a record. -/
def encode (r : Record) : Bytes :=
  [r.type.code, r.major, r.minor, UInt8.ofNat (r.payload.length / 256), UInt8.ofNat r.payload.length] ++
    r.payload

/-- Whether two bytes name a version of the protocol or of a relative of it. -/
def isVersion (high low : UInt8) : Bool :=
  high == 3 || (high == 0 && low == 2) || (high == 0xfe && (low == 0xff || low == 0xfd || low == 0xfc))

/-- The head of a record: its type, the version that it names, and the length of its payload. -/
structure Header where
  type : ContentType
  major : UInt8
  minor : UInt8
  length : Nat
  deriving DecidableEq, Repr

/-- The head of the record at the head of `data`, once five bytes are there. Each field is checked as
soon as it is. -/
def header? : Bytes → Except Corruption (Option Header)
  | [] => .ok none
  | code :: rest =>
    match ContentType.ofCode? code with
    | none => .error .invalidContentType
    | some type =>
      match rest with
      | major :: minor :: rest =>
        if !isVersion major minor then .error .unknownProtocolVersion
        else match rest with
          | high :: low :: _ =>
            let length := high.toNat * 256 + low.toNat
            if type ≠ .applicationData ∧ length = 0 then .error .invalidEmptyPayload
            else if payloadBound ≤ length then .error .messageTooLarge
            else .ok (some ⟨type, major, minor, length⟩)
          | _ => .ok none
      | _ => .ok none

/-- The record at the head of `data` and what follows it, once it is there whole. -/
def next? (data : Bytes) : Except Corruption (Option (Record × Bytes)) :=
  match header? data with
  | .error how => .error how
  | .ok none => .ok none
  | .ok (some h) =>
    if data.length < 5 + h.length then .ok none
    else .ok (some (⟨h.type, (data.drop 5).take h.length, h.major, h.minor⟩, data.drop (5 + h.length)))

theorem header?_encode {r : Record} (hversion : isVersion r.major r.minor = true)
    (hlength : r.payload.length < payloadBound)
    (hempty : r.type = .applicationData ∨ r.payload ≠ []) (rest : Bytes) :
    header? (r.encode ++ rest) = .ok (some ⟨r.type, r.major, r.minor, r.payload.length⟩) := by
  obtain ⟨type, payload, major, minor⟩ := r
  have hbound : payloadBound ≤ 65536 := by decide
  have hword : payload.length < 65536 := Nat.lt_of_lt_of_le hlength hbound
  have hhigh : (UInt8.ofNat (payload.length / 256)).toNat = payload.length / 256 := by
    rw [UInt8.toNat_ofNat']; omega
  have hlow : (UInt8.ofNat payload.length).toNat = payload.length % 256 := by
    rw [UInt8.toNat_ofNat']
  have hsum : payload.length / 256 * 256 + payload.length % 256 = payload.length := by omega
  have hfilled : ¬ (type ≠ .applicationData ∧ payload.length = 0) := by
    rintro ⟨ht, hp⟩
    exact hempty.elim ht fun h => h (List.length_eq_zero_iff.mp hp)
  simp only [encode, List.cons_append, List.nil_append, header?, ContentType.ofCode?_code,
    hversion, Bool.not_true, Bool.false_eq_true, if_false, hhigh, hlow, hsum, if_neg hfilled]
  rw [if_neg (Nat.not_le.mpr hlength)]

/-- A written record is read back, whatever follows it. -/
theorem next?_encode {r : Record} (hversion : isVersion r.major r.minor = true)
    (hlength : r.payload.length < payloadBound)
    (hempty : r.type = .applicationData ∨ r.payload ≠ []) (rest : Bytes) :
    next? (r.encode ++ rest) = .ok (some (r, rest)) := by
  have hl : (r.encode ++ rest).length = 5 + r.payload.length + rest.length := by
    simp [encode]; omega
  have hd : (r.encode ++ rest).drop 5 = r.payload ++ rest := by simp [encode]
  rw [next?, header?_encode hversion hlength hempty]
  simp only [hl]
  rw [if_neg (by omega), ← List.drop_drop, hd, List.take_left, List.drop_left]

theorem length_lt_of_next? {data rest : Bytes} {r : Record}
    (h : next? data = .ok (some (r, rest))) : rest.length < data.length := by
  unfold next? at h
  split at h
  · simp at h
  · simp at h
  next =>
    split at h
    · simp at h
    next hl =>
      simp only [Except.ok.injEq, Option.some.injEq, Prod.mk.injEq] at h
      obtain ⟨-, rfl⟩ := h
      rw [List.length_drop]
      omega

/-! ### Sealed records -/

/-- The bytes that a seal adds. -/
def tagLength : Nat := 16

/-- The tag that ties a record to a key and to its number. -/
def tag (key : Bytes) (number : Nat) (r : Record) : Bytes :=
  let covered := key ++ Bytes.word number ++ r.type.code :: r.major :: r.minor :: r.payload
  Bytes.ofUInt64 (Bytes.digest Bytes.digestBasis covered) ++
    Bytes.ofUInt64 (Bytes.digest 0x9e3779b97f4a7c15 covered)

def nonce (number : Nat) : Bytes := Bytes.ofUInt64 (UInt64.ofNat number)

/-- A record as it is read once it is opened: in version 1.3 the version that it names is not part of
what is sealed. -/
def opened (version : Version) (r : Record) : Record :=
  match version with
  | .tls12 => r
  | .tls13 => { r with major := 3, minor := 4 }

/-- Record `number` under `key`. In version 1.2 the number stands in front of the content; in version
1.3 the type is part of the sealed content, and all sealed records look like application data. -/
def protect (version : Version) (key : Bytes) (number : Nat) (r : Record) : Record :=
  match version with
  | .tls12 => { r with payload := nonce number ++ r.payload ++ tag key number r }
  | .tls13 =>
    { type := .applicationData
      payload := r.payload ++ r.type.code :: tag key number (r.opened .tls13) }

/-- A sealed payload without its tag, and the tag. -/
def unsealed (payload : Bytes) : Bytes × Bytes :=
  (payload.take (payload.length - tagLength), payload.drop (payload.length - tagLength))

/-- The content of a sealed record, if it is record `number` under `key`. -/
def unprotect (version : Version) (key : Bytes) (number : Nat) (r : Record) : Option Record :=
  let (content, found) := unsealed r.payload
  let inner? : Option Record := match version with
    | .tls12 => (Bytes.after? (nonce number) content).map fun payload => { r with payload }
    | .tls13 => (content.getLast?.bind ContentType.ofCode?).map fun type =>
      opened .tls13 { type, payload := content.dropLast }
  inner?.filter fun inner => found == tag key number inner

theorem length_ofUInt64 (w : UInt64) : (Bytes.ofUInt64 w).length = 8 := by simp [Bytes.ofUInt64]

theorem length_tag (key : Bytes) (number : Nat) (r : Record) :
    (tag key number r).length = tagLength := by
  unfold tag
  simp [length_ofUInt64, tagLength]

theorem unsealed_append {content found : Bytes} (h : found.length = tagLength) :
    unsealed (content ++ found) = (content, found) := by
  have : (content ++ found).length - tagLength = content.length := by simp [h]
  rw [unsealed, this, List.take_left, List.drop_left]

/-- A sealed record opens under its key and number. -/
theorem unprotect_protect (version : Version) (key : Bytes) (number : Nat) (r : Record) :
    unprotect version key number (protect version key number r) = some (r.opened version) := by
  cases version with
  | tls12 =>
    simp only [protect, unprotect, unsealed_append (length_tag ..), Bytes.after?_append, Option.map_some,
      Option.filter_some, beq_self_eq_true, if_true, opened]
  | tls13 =>
    rw [protect, unprotect, List.append_cons, unsealed_append (length_tag ..)]
    simp only [List.getLast?_concat, Option.bind_some, ContentType.ofCode?_code, List.dropLast_concat,
      Option.map_some, opened, Option.filter_some, beq_self_eq_true, if_true]

end Record

end SessionEngine.Tls
