import SessionEngine.Bytes

/-! DER: values as a tag, a length and that many bytes of content. The main statement is
`element?_encode`: a written value is read back, whatever follows it. -/

namespace SessionEngine.Tls.Der

/-- A value. -/
structure Element where
  tag : UInt8
  content : Bytes
  deriving DecidableEq, Repr, Inhabited

/-- The tag of truth values. -/
def tagBoolean : UInt8 := 0x01
/-- The tag of whole numbers. -/
def tagInteger : UInt8 := 0x02
def tagBits : UInt8 := 0x03
/-- The tag of byte strings. -/
def tagOctets : UInt8 := 0x04
/-- The tag of the value that says nothing. -/
def tagNull : UInt8 := 0x05
def tagObjectId : UInt8 := 0x06
def tagSequence : UInt8 := 0x30
/-- The tag of something that the context numbers `n`, for small `n`, made of other values. -/
def tagContext (n : UInt8) : UInt8 := 0xa0 + n

/-- Whether a tag is a byte of its own: the highest number says that more bytes follow. -/
def isShortTag (tag : UInt8) : Bool := tag &&& 0x1f != 0x1f

/-- A length in its shortest form, below `UInt16.size`. -/
def encodeLength (n : Nat) : Bytes :=
  if n < 128 then [UInt8.ofNat n]
  else if n < 256 then [0x81, UInt8.ofNat n]
  else [0x82, UInt8.ofNat (n / 256), UInt8.ofNat n]

/-- The written form of a value. -/
def Element.encode (e : Element) : Bytes := e.tag :: encodeLength e.content.length ++ e.content

/-- A value in its written form. -/
def wrap (tag : UInt8) (content : Bytes) : Bytes := (Element.mk tag content).encode

/-- A sequence of written values in its written form. -/
def sequence (parts : List Bytes) : Bytes := wrap tagSequence parts.flatten

/-- The fewest bytes that write `n`. -/
def digits (n : Nat) : Bytes := if n = 0 then [] else digits (n / 256) ++ [UInt8.ofNat n]
  termination_by n

/-- A whole number in its written form; the first bit is that of the sign. -/
def natural (n : Nat) : Bytes :=
  match digits n with
  | [] => wrap tagInteger [0]
  | b :: rest => wrap tagInteger (if b &&& 0x80 = 0 then b :: rest else 0 :: b :: rest)

/-- A string of whole bytes as a bit string, in its written form. -/
def bits (data : Bytes) : Bytes := wrap tagBits (0 :: data)

/-- The length at the head of `data` and what follows it. -/
def length? : Bytes → Option (Nat × Bytes)
  | [] => none
  | b :: rest =>
    if b.toNat < 128 then some (b.toNat, rest)
    else match b, rest with
      | 0x81, n :: rest => if 128 ≤ n.toNat then some (n.toNat, rest) else none
      | 0x82, high :: low :: rest =>
        if high = 0 then none else some (high.toNat * 256 + low.toNat, rest)
      | _, _ => none

/-- The value at the head of `data` and what follows it. -/
def element? : Bytes → Option (Element × Bytes)
  | [] => none
  | tag :: rest =>
    match length? rest with
    | none => none
    | some (n, rest) =>
      if isShortTag tag ∧ n ≤ rest.length then some (⟨tag, rest.take n⟩, rest.drop n) else none

theorem length?_encodeLength {n : Nat} (hn : n < UInt16.size) (rest : Bytes) :
    length? (encodeLength n ++ rest) = some (n, rest) := by
  rw [UInt16.size] at hn
  unfold encodeLength
  split
  next h =>
    have : (UInt8.ofNat n).toNat = n := by rw [UInt8.toNat_ofNat']; omega
    simp [length?, this, h]
  next h =>
    split
    next h' =>
      have : (UInt8.ofNat n).toNat = n := by rw [UInt8.toNat_ofNat']; omega
      simp only [List.cons_append, List.nil_append, length?, this]
      simp only [Nat.not_lt.mp h, if_true]
      rfl
    next h' =>
      have hlow : (UInt8.ofNat n).toNat = n % 256 := by rw [UInt8.toNat_ofNat']
      have hhigh : (UInt8.ofNat (n / 256)).toNat = n / 256 := by rw [UInt8.toNat_ofNat']; omega
      have hne : UInt8.ofNat (n / 256) ≠ 0 := fun h0 => by
        have := congrArg UInt8.toNat h0
        rw [hhigh] at this
        simp only [UInt8.toNat_zero] at this
        omega
      simp only [List.cons_append, List.nil_append, length?, hlow, hhigh]
      simp only [hne, if_false]
      have : n / 256 * 256 + n % 256 = n := by omega
      rw [this]
      rfl

/-- A written value is read back, whatever follows it. -/
theorem element?_encode {e : Element} (ht : isShortTag e.tag)
    (he : e.content.length < UInt16.size) (rest : Bytes) :
    element? (e.encode ++ rest) = some (e, rest) := by
  have := length?_encodeLength he (e.content ++ rest)
  simp only [Element.encode, List.cons_append, List.append_assoc, element?, this]
  rw [if_pos ⟨ht, by rw [List.length_append]; omega⟩, List.take_left, List.drop_left]

/-- Reading a length takes at least a byte. -/
theorem length_lt_of_length? {data rest : Bytes} {n : Nat} (h : length? data = some (n, rest)) :
    rest.length < data.length := by
  cases data with
  | nil => simp [length?] at h
  | cons b tail =>
    simp only [length?] at h
    split at h
    · simp only [Option.some.injEq, Prod.mk.injEq] at h
      simp [← h.2]
    · split at h
      · split at h
        · obtain ⟨_, rfl⟩ := Prod.mk.inj (Option.some.inj h)
          simp only [List.length_cons]
          omega
        · simp at h
      · split at h
        · simp at h
        · obtain ⟨_, rfl⟩ := Prod.mk.inj (Option.some.inj h)
          simp only [List.length_cons]
          omega
      · simp at h

/-- Reading a value takes at least a byte. -/
theorem length_lt_of_element? {data rest : Bytes} {e : Element} (h : element? data = some (e, rest)) :
    rest.length < data.length := by
  cases data with
  | nil => simp [element?] at h
  | cons tag tail =>
    cases hlen : length? tail with
    | none => simp [element?, hlen] at h
    | some parts =>
      have := length_lt_of_length? hlen
      simp only [element?, hlen] at h
      split at h
      · obtain ⟨_, rfl⟩ := Prod.mk.inj (Option.some.inj h)
        simp only [List.length_drop, List.length_cons]
        omega
      · simp at h

/-- The values in `data`, if it holds nothing else. -/
def elements? (data : Bytes) : Option (List Element) :=
  if data.isEmpty then some []
  else
    match h : element? data with
    | none => none
    | some (e, rest) =>
      have := length_lt_of_element? h
      (elements? rest).map (e :: ·)
  termination_by data.length

/-- Whether `data` is one sequence and nothing else, whatever the sequence holds. -/
def isSequence (data : Bytes) : Bool :=
  match element? data with
  | some (e, []) => e.tag == tagSequence
  | _ => false

/-! ### Reading one value after the other -/

/-- Reads from the head of what is left. -/
abbrev Reader := StateT Bytes Option

namespace Reader

variable {α : Type}

def whole (r : Reader α) (data : Bytes) : Option α :=
  match r data with
  | some (a, []) => some a
  | _ => none

def value (tag : UInt8) : Reader Bytes := fun data =>
  match element? data with
  | some (e, rest) => if e.tag = tag then some (e.content, rest) else none
  | none => none

/-- What `r` reads from all of a value with tag `tag`. -/
def within (tag : UInt8) (r : Reader α) : Reader α := do
  r.whole (← value tag)

/-- Whether the next value has tag `tag`. -/
def comes (tag : UInt8) : Reader Bool := fun data => some (data.head? == some tag, data)

/-- The content of a value with tag `tag`, if that comes next. -/
def valueIf (tag : UInt8) : Reader (Option Bytes) := do
  if ← comes tag then return some (← value tag) else return none

/-- What is left. -/
def rest : Reader Bytes := fun data => some (data, [])

/-- A whole number that is not negative, in its shortest form. -/
def natural : Reader Nat := do
  match ← value tagInteger with
  | [] => failure
  | [b] => if b &&& 0x80 = 0 then return b.toNat else failure
  | a :: b :: more =>
    if a &&& 0x80 = 0 ∧ ¬ (a = 0 ∧ b &&& 0x80 = 0) then return Bytes.bigEndian (a :: b :: more)
    else failure

/-- A bit string of whole bytes. -/
def bits : Reader Bytes := do
  match ← value tagBits with
  | 0 :: data => return data
  | _ => failure

/-- A written value is read back, whatever follows it. -/
theorem value_encode {e : Element} (ht : isShortTag e.tag) (he : e.content.length < UInt16.size)
    (rest : Bytes) : value e.tag (e.encode ++ rest) = some (e.content, rest) := by
  rw [value, element?_encode ht he]
  exact if_pos rfl

end Reader

end SessionEngine.Tls.Der
