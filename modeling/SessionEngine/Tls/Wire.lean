import SessionEngine.Bytes
import SessionEngine.Tls.Fault

/-! How the fields of messages are written: numbers of fixed width, byte strings behind their length, and
lists behind the length of all their elements. A reader says how the bytes are corrupt if they do not
write what it reads. The main statements are `run_u16` and `run_opaqueBytes`, by which what
is written is read back whatever follows it. -/

namespace SessionEngine.Tls.Wire

/-! ### Writing -/

/-- A number in two bytes. -/
def word16 (n : Nat) : Bytes := Bytes.fixed 2 n

/-- A number in three bytes. -/
def word24 (n : Nat) : Bytes := Bytes.fixed 3 n

def vector (width : Nat) (data : Bytes) : Bytes := Bytes.fixed width data.length ++ data

/-! ### Reading -/

/-- Reads from the head of what is left. -/
abbrev Reader := StateT Bytes (Except Corruption)

namespace Reader

variable {α : Type}

/-- The next `n` bytes; `how` says what is wrong if they are not there. -/
def take (n : Nat) (how : Corruption) : Reader Bytes := fun data =>
  if data.length < n then .error how else .ok (data.take n, data.drop n)

/-- The next number, in `width` bytes. -/
def number (width : Nat) (field : String) : Reader Nat :=
  Bytes.bigEndian <$> take width (.missingData field)

/-- The next number in one byte. -/
def u8 : Reader Nat := number 1 "u8"

/-- The next number in two bytes. -/
def u16 : Reader Nat := number 2 "u16"

/-- The next number in three bytes. -/
def u24 : Reader Nat := number 3 "u24"

/-- The next number in four bytes. -/
def u32 : Reader Nat := number 4 "u32"

/-- Reads what has to be well-formed and is not looked at. -/
def skip (r : Reader α) : Reader Unit := do let _ ← r

/-- All that is left. -/
def rest : Reader Bytes := fun data => .ok (data, [])

/-- Whether nothing is left. -/
def isDone : Reader Bool := return (← get).isEmpty

/-- Fails if something is left, which `field` names. -/
def done (field : String) : Reader Unit := do
  if !(← isDone) then throw (.trailingData field)

def ofBytes (r : Reader α) (data : Bytes) : Except Corruption α := (·.1) <$> r data

/-- What `r` reads of the next `n` bytes. -/
def within (n : Nat) (r : Reader α) : Reader α := do
  match r.ofBytes (← take n .messageTooShort) with
  | .error how => throw how
  | .ok a => return a

/-- What `r` reads again and again until nothing is left, at most `n` times. -/
def upTo (r : Reader α) : (n : Nat) → Reader (List α)
  | 0 => return []
  | n + 1 => do
    if ← isDone then return []
    let a ← r
    return a :: (← upTo r n)

/-- What `r`, which takes at least a byte, reads again and again until nothing is left. -/
def each (r : Reader α) : Reader (List α) := do upTo r (← get).length

/-- What `r` reads of the bytes behind a length. -/
def short (length : Reader Nat) (r : Reader α) : Reader α := do within (← length) r

/-- A length that must not be zero; `how` says what is wrong if it is. -/
def positive (length : Reader Nat) (how : Corruption) : Reader Nat := do
  match ← length with
  | 0 => throw how
  | n => return n

def list (length : Reader Nat) (r : Reader α) : Reader (List α) := short length r.each

/-- A list behind its length in one byte; it must not be empty. -/
def list8 (field : String) (r : Reader α) : Reader (List α) := list (positive u8 (.emptyList field)) r

/-- A list behind its length in two bytes; it must not be empty. -/
def list16 (field : String) (r : Reader α) : Reader (List α) :=
  list (positive u16 (.emptyList field)) r

def opaqueBytes (length : Reader Nat) : Reader Bytes := short length rest

/-- The bytes behind a length that must not be zero. -/
def filled (length : Reader Nat) : Reader Bytes := opaqueBytes (positive length .emptyValue)

/-! ### Laws -/

/-- A reader that goes on with another one succeeds if both do. -/
theorem bind_eq_ok {β : Type} {r : Reader α} {f : α → Reader β} {data : Bytes} {found : β × Bytes} :
    (r >>= f) data = .ok found ↔ ∃ a rest, r data = .ok (a, rest) ∧ f a rest = .ok found := by
  simp only [bind, StateT.bind, Except.bind]
  cases r data with
  | error => simp
  | ok p =>
    constructor
    · intro h
      exact ⟨p.1, p.2, rfl, h⟩
    · rintro ⟨a, rest, hp, h⟩
      cases hp
      exact h

/-- What is read behind a length is read of bytes of its own. -/
theorem short_eq_ok {length : Reader Nat} {r : Reader α} {data rest : Bytes} {a : α}
    (h : short length r data = .ok (a, rest)) : ∃ body left, r body = .ok (a, left) := by
  obtain ⟨n, _, _, h⟩ := bind_eq_ok.mp h
  obtain ⟨body, _, _, h⟩ := bind_eq_ok.mp h
  simp only [ofBytes] at h
  cases hr : r body with
  | error how => rw [hr] at h; cases h
  | ok found =>
    rw [hr] at h
    cases h
    exact ⟨body, found.2, hr⟩

@[simp] theorem run_take (data rest : Bytes) (how : Corruption) :
    take data.length how (data ++ rest) = .ok (data, rest) := by
  simp [take]

/-- A number in two bytes is read back, whatever follows it. -/
theorem run_u16 {n : Nat} (h : n < 65536) (rest : Bytes) : u16 (word16 n ++ rest) = .ok (n, rest) := by
  have hb : Bytes.bigEndian (word16 n) = n := by
    simp only [word16, Bytes.fixed, Bytes.bigEndian, List.nil_append, List.cons_append,
      List.foldl_cons, List.foldl_nil, UInt8.toNat_ofNat']
    omega
  have ht : take 2 (.missingData "u16") (word16 n ++ rest) = .ok (word16 n, rest) :=
    run_take (word16 n) rest _
  show ((Bytes.bigEndian <$> take 2 (.missingData "u16") : Reader Nat) _) = _
  simp only [Functor.map, StateT.map, ht, bind, Except.bind, pure, Except.pure, hb]

/-- Bytes behind their length are read back, whatever follows them. -/
theorem run_opaqueBytes {data : Bytes} (h : data.length < 65536) (rest : Bytes) :
    opaqueBytes u16 (vector 2 data ++ rest) = .ok (data, rest) := by
  have hn : u16 (vector 2 data ++ rest) = .ok (data.length, data ++ rest) := by
    rw [vector, List.append_assoc]
    exact run_u16 h _
  simp only [opaqueBytes, short, within, bind, StateT.bind, Except.bind, hn, run_take]
  rfl

end Reader

end SessionEngine.Tls.Wire
