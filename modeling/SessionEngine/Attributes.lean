import SessionEngine.Bytes

/-! The attributes of a session: values of several types under names. A name holds one value, and a
look-up for another type than the one stored finds nothing. -/

namespace SessionEngine

inductive AttributeType where
  | byte
  | word32
  | word64
  | int64
  | bool
  | string
  | bytes
  | heartbeat
  deriving DecidableEq, Repr, Inhabited

/-- A value kept under a name. -/
inductive Attribute where
  | byte (value : UInt8)
  | word32 (value : UInt32)
  | word64 (value : UInt64)
  | int64 (value : Int64)
  | bool (value : Bool)
  | string (value : String)
  | bytes (value : Bytes)
  /-- One of the heartbeats of the session, by its place among them. -/
  | heartbeat (slot : Nat)
  deriving DecidableEq

def Attribute.type : Attribute → AttributeType
  | .byte _ => .byte
  | .word32 _ => .word32
  | .word64 _ => .word64
  | .int64 _ => .int64
  | .bool _ => .bool
  | .string _ => .string
  | .bytes _ => .bytes
  | .heartbeat _ => .heartbeat

/-- Values under names. -/
structure Attributes where
  entries : List (String × Attribute)
  deriving DecidableEq

namespace Attributes

def empty : Attributes := ⟨[]⟩

/-- The value under `name`. -/
def get? (a : Attributes) (name : String) : Option Attribute := a.entries.lookup name

/-- The value under `name`, if it has type `type`. -/
def typed? (a : Attributes) (name : String) (type : AttributeType) : Option Attribute :=
  (a.get? name).filter (·.type == type)

/-- No value under `name` any more. -/
def erase (a : Attributes) (name : String) : Attributes := ⟨a.entries.filter (·.1 != name)⟩

/-- `value` under `name`, in the place of what was there. -/
def insert (a : Attributes) (name : String) (value : Attribute) : Attributes :=
  ⟨(name, value) :: (a.erase name).entries⟩

/-- `value` under `name` unless something is there already. -/
def insertNew (a : Attributes) (name : String) (value : Attribute) : Attributes :=
  if (a.get? name).isSome then a else a.insert name value

theorem lookup_filter_ne {entries : List (String × Attribute)} {name other : String} :
    (entries.filter (·.1 != name)).lookup other =
      if other = name then none else entries.lookup other := by
  induction entries with
  | nil => simp
  | cons e entries ih =>
    obtain ⟨key, value⟩ := e
    by_cases hk : key = name
    · subst hk
      simp only [List.filter, bne_self_eq_false, ih, List.lookup_cons]
      by_cases ho : other = key
      · simp [ho]
      · simp [ho, beq_false_of_ne ho]
    · have : (key != name) = true := by simpa using hk
      simp only [List.filter, this, List.lookup_cons, ih]
      by_cases ho : other = key
      · subst ho; simp [hk]
      · simp [beq_false_of_ne ho]

@[simp] theorem get?_erase (a : Attributes) (name other : String) :
    (a.erase name).get? other = if other = name then none else a.get? other :=
  lookup_filter_ne

@[simp] theorem get?_insert (a : Attributes) (name other : String) (value : Attribute) :
    (a.insert name value).get? other = if other = name then some value else a.get? other := by
  by_cases h : other = name
  · simp [insert, get?, h]
  · simp only [insert, get?, List.lookup_cons, beq_false_of_ne h, if_neg h]
    simpa [h, get?] using get?_erase a name other

end Attributes

end SessionEngine
