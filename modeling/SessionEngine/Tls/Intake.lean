import SessionEngine.Tls.Message
import SessionEngine.Tls.Record

/-! What one side has read and not worked off: bytes that wait to be cut into records, and messages of the
handshake that are joined from records. The main statements are `read_pos`, by which a read takes
something as long as there is room, and `waiting_read`, by which what it takes is kept in order. -/

namespace SessionEngine.Tls

/-! ### Bytes -/

/-- The bytes that were read and are not worked off. -/
structure Intake where
  /-- How many bytes may be kept before more room is made. -/
  capacity : Nat := 0
  /-- How many bytes are kept, although they are worked off, until the message that they belong to is. -/
  held : Nat := 0
  /-- The bytes that wait to be cut into records. -/
  waiting : Bytes := []
  deriving DecidableEq, Repr

namespace Intake

/-- How many bytes are kept. -/
def used (i : Intake) : Nat := i.held + i.waiting.length

/-- The most bytes that are kept: a record, or the longest message while one is being joined. -/
def bound (joining : Bool) : Nat := if joining then 65535 else Record.payloadBound + 5

/-- The bytes for which room is made at once. -/
def readSize : Nat := 4096

/-- The room that a read finds. -/
def room (i : Intake) (joining : Bool) : Nat :=
  let need := min (bound joining) (i.used + readSize)
  if i.capacity < need ∨ i.used = 0 ∨ bound joining < i.capacity then need else i.capacity

/-- Reads a head of `data` and says how long it is; nothing is read if too much is kept already. -/
def read? (i : Intake) (joining : Bool) (data : Bytes) : Option (Nat × Intake) :=
  if bound joining ≤ i.used then none
  else
    let capacity := i.room joining
    let head := data.take (capacity - i.used)
    some (head.length, { i with capacity, waiting := i.waiting ++ head })

/-- Lets go of the bytes that are worked off. -/
def release (i : Intake) : Intake := { i with held := 0 }

/-- Works off the bytes before `rest`, and keeps them. -/
def hold (i : Intake) (rest : Bytes) : Intake :=
  { i with held := i.held + (i.waiting.length - rest.length), waiting := rest }

/-- What a read takes is kept in order. -/
theorem waiting_read {i i' : Intake} {joining : Bool} {data : Bytes} {n : Nat}
    (h : i.read? joining data = some (n, i')) : i'.waiting = i.waiting ++ data.take n := by
  unfold read? at h
  split at h
  · cases h
  · simp only [Option.some.injEq, Prod.mk.injEq] at h
    obtain ⟨rfl, rfl⟩ := h
    simp only [List.append_cancel_left_eq, List.length_take]
    rw [List.take_eq_take_iff]
    omega

/-- A read takes something as long as there is room. -/
theorem read_pos {i i' : Intake} {joining : Bool} {data : Bytes} {n : Nat} (hdata : data ≠ [])
    (h : i.read? joining data = some (n, i')) : 0 < n := by
  unfold read? at h
  split at h
  · cases h
  next hroom =>
    simp only [Option.some.injEq, Prod.mk.injEq] at h
    obtain ⟨rfl, -⟩ := h
    have hlength := List.length_pos_iff.mpr hdata
    have hsize : readSize = 4096 := rfl
    have : i.used < i.room joining := by
      simp only [room]
      split <;> omega
    rw [List.length_take]
    omega

end Intake

/-! ### Messages -/

/-- The messages of the handshake that are joined from records. Each goes with whether it is in the form
of version 1.3. -/
structure Joiner where
  /-- Messages that are whole: their kinds and bodies. -/
  ready : List (Bool × UInt8 × Bytes) := []
  /-- The beginning of a message. -/
  begun : Option (Bool × Bytes) := none
  deriving DecidableEq, Repr

namespace Joiner

/-- Whether there is nothing to join and nothing that was joined. -/
def isIdle (j : Joiner) : Bool := j.ready.isEmpty && j.begun.isNone

/-- The joiner after one more payload. A message that is too long spoils what came with it. -/
def add (j : Joiner) (modern : Bool) (payload : Bytes) : Option Corruption × Joiner :=
  let (modern, data) := match j.begun with
    | some (modern, data) => (modern, data ++ payload)
    | none => (modern, payload)
  match Message.split data with
  | .error how => (some how, { j with begun := some (modern, data) })
  | .ok (messages, rest) =>
    (none, { ready := j.ready ++ messages.map (modern, ·)
             begun := if rest.isEmpty then none else some (modern, rest) })

end Joiner

end SessionEngine.Tls
