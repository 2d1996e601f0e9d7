/-! The traffic counters of a socket: connections opened and open, bytes read and written. They
count modulo `2^64`. -/

namespace SessionEngine

/-- Counters that a socket shares with every session it starts. -/
structure Traffic where
  opened : UInt64
  active : UInt64
  bytesRead : UInt64
  bytesWritten : UInt64
  deriving DecidableEq, Repr, Inhabited

namespace Traffic

/-- Counters that have counted nothing. -/
def zero : Traffic := ⟨0, 0, 0, 0⟩

/-- A connection was made. -/
def connectionOpened (t : Traffic) : Traffic :=
  { t with opened := t.opened + 1, active := t.active + 1 }

/-- A connection ended. -/
def connectionClosed (t : Traffic) : Traffic := { t with active := t.active - 1 }

def read (t : Traffic) (n : Nat) : Traffic := { t with bytesRead := t.bytesRead + UInt64.ofNat n }

/-- `n` bytes went out. -/
def written (t : Traffic) (n : Nat) : Traffic :=
  { t with bytesWritten := t.bytesWritten + UInt64.ofNat n }

/-- A connection that was made and ended leaves only its mark on the total. -/
theorem connectionClosed_connectionOpened (t : Traffic) :
    t.connectionOpened.connectionClosed = { t with opened := t.opened + 1 } := by
  simp [connectionOpened, connectionClosed]

end Traffic

end SessionEngine
