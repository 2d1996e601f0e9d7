import SessionEngine.Error

/-! The read buffer of a session: a bounded queue of bytes that remembers when the last bytes came
and counts its changes, so that a reader can wait for the next one. The main statements are
`append_eq_error_iff`, which says when bytes are refused, and the lemmas that give, for each
operation, the contents before it in terms of those after it. -/

namespace SessionEngine

/-- A bounded queue of bytes. -/
structure Buffer where
  /-- The most bytes that may be held. -/
  limit : Nat
  contents : Bytes
  /-- The number of changes that a waiting reader is woken for, modulo `2^64`. -/
  generation : UInt64
  closed : Bool
  /-- When the last byte came, in nanoseconds. -/
  lastArrival : Option Nat
  deriving DecidableEq, Repr

namespace Buffer

/-- The limit unless another is given: 8 MiB. -/
def defaultLimit : Nat := 8 * 1024 * 1024

/-- An open buffer with nothing in it. -/
def empty (limit : Nat) : Buffer := ⟨limit, [], 0, false, none⟩

/-- The number of bytes held. -/
def length (b : Buffer) : Nat := b.contents.length

/-- Whether nothing is held. -/
def isEmpty (b : Buffer) : Bool := b.contents.isEmpty

/-- The time since the last byte came, if one ever did. -/
def idle (b : Buffer) (now : Nat) : Option Nat := b.lastArrival.map (now - ·)

/-- The refusal of bytes that would make `total`. -/
def overflow (b : Buffer) (total : Nat) : IoError :=
  ⟨.outOfMemory, s!"buffer limit exceeded: {total} bytes (max: {b.limit})"⟩

/-- Adds `data`, which came at `now`. Bytes beyond the limit are refused as a whole; no bytes are
no change. -/
def append (b : Buffer) (now : Nat) (data : Bytes) : Except IoError Buffer :=
  if data.isEmpty then .ok b
  else if b.limit < b.length + data.length then .error (b.overflow (b.length + data.length))
  else .ok { b with
    contents := b.contents ++ data
    generation := b.generation + 1
    lastArrival := some now }

/-- Removes the first `n` bytes, if so many are held. -/
def take? (b : Buffer) (n : Nat) : Option (Bytes × Buffer) :=
  if n ≤ b.length then some (b.contents.take n, { b with contents := b.contents.drop n }) else none

/-- Removes everything. -/
def takeAll (b : Buffer) : Bytes × Buffer := (b.contents, { b with contents := [] })

/-- Removes `head`, if it is not empty and the contents start with it. -/
def stripHead? (b : Buffer) (head : Bytes) : Option Buffer :=
  if head.isEmpty then none
  else (Bytes.after? head b.contents).map fun rest => { b with contents := rest }

/-- Closes the buffer; what it holds stays. -/
def close (b : Buffer) : Buffer :=
  if b.closed then b else { b with closed := true, generation := b.generation + 1 }

/-- Whether a reader that has seen generation `seen` has something new to look at. -/
def changedSince (b : Buffer) (seen : UInt64) : Bool := b.generation != seen || b.closed

/-- Bytes are refused exactly when there are some and they do not fit. -/
theorem append_eq_error_iff {b : Buffer} {now : Nat} {data : Bytes} {e : IoError} :
    b.append now data = .error e ↔
      data ≠ [] ∧ b.limit < b.length + data.length ∧ e = b.overflow (b.length + data.length) := by
  unfold append
  split
  next h => simp [List.isEmpty_iff.mp h]
  next h =>
    have hne : data ≠ [] := by simpa using h
    split
    next hlimit => simp only [Except.error.injEq, ne_eq, hne, not_false_eq_true, hlimit, true_and, eq_comm]
    next hlimit => simp [hlimit]

theorem contents_append {b b' : Buffer} {now : Nat} {data : Bytes}
    (h : b.append now data = .ok b') : b'.contents = b.contents ++ data := by
  unfold append at h
  split at h
  next hd =>
    obtain rfl := Except.ok.inj h
    simp_all
  next hd =>
    split at h
    · simp at h
    · rw [← Except.ok.inj h]

theorem lastArrival_append {b b' : Buffer} {now : Nat} {data : Bytes}
    (h : b.append now data = .ok b') (hdata : data ≠ []) : b'.lastArrival = some now := by
  unfold append at h
  split at h
  next hempty => exact absurd (List.isEmpty_iff.mp hempty) hdata
  · split at h
    · simp at h
    · rw [← Except.ok.inj h]

theorem closed_append {b b' : Buffer} {now : Nat} {data : Bytes}
    (h : b.append now data = .ok b') : b'.closed = b.closed := by
  unfold append at h
  split at h
  · rw [← Except.ok.inj h]
  · split at h
    · simp at h
    · rw [← Except.ok.inj h]

theorem length_append_le {b b' : Buffer} {now : Nat} {data : Bytes}
    (h : b.append now data = .ok b') (hb : b.length ≤ b.limit) : b'.length ≤ b'.limit := by
  unfold append at h
  split at h
  next hd => rwa [← Except.ok.inj h]
  next hd =>
    split at h
    · simp at h
    · rw [← Except.ok.inj h]
      simp_all [length]

theorem contents_take? {b b' : Buffer} {n : Nat} {head : Bytes}
    (h : b.take? n = some (head, b')) : b.contents = head ++ b'.contents ∧ head.length = n := by
  unfold take? at h
  split at h
  next hn =>
    obtain ⟨rfl, rfl⟩ := Prod.mk.inj (Option.some.inj h)
    exact ⟨(List.take_append_drop ..).symm, List.length_take_of_le hn⟩
  next => simp at h

theorem closed_take? {b b' : Buffer} {n : Nat} {head : Bytes}
    (h : b.take? n = some (head, b')) : b'.closed = b.closed := by
  unfold take? at h
  split at h
  · rw [← (Prod.mk.inj (Option.some.inj h)).2]
  · simp at h

theorem contents_stripHead? {b b' : Buffer} {head : Bytes} (h : b.stripHead? head = some b') :
    b.contents = head ++ b'.contents ∧ head ≠ [] := by
  unfold stripHead? at h
  split at h
  next => simp at h
  next hne =>
    obtain ⟨rest, hrest, rfl⟩ := Option.map_eq_some_iff.mp h
    exact ⟨Bytes.after?_eq_some_iff.mp hrest, by simpa using hne⟩

@[simp] theorem contents_close (b : Buffer) : b.close.contents = b.contents := by
  unfold close; split <;> rfl

@[simp] theorem lastArrival_close (b : Buffer) : b.close.lastArrival = b.lastArrival := by
  unfold close; split <;> rfl

@[simp] theorem closed_close (b : Buffer) : b.close.closed = true := by
  unfold close; split <;> simp_all

@[simp] theorem close_close (b : Buffer) : b.close.close = b.close := by
  rw [close, if_pos b.closed_close]

end Buffer

end SessionEngine
