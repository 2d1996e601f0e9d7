/-! The stages of a session's life, in the order in which they follow each other. -/

namespace SessionEngine

/-- Where a session is in its life. -/
inductive Stage where
  | connecting
  | connected
  | closing
  | closed
  deriving DecidableEq, Repr, Inhabited

namespace Stage

def name : Stage → String
  | .connecting => "Connecting"
  | .connected => "Connected"
  | .closing => "Closing"
  | .closed => "Closed"

def ofName? (name : String) : Option Stage :=
  [connecting, connected, closing, closed].find? (·.name == name)

/-- The place of a stage in the order. -/
def rank : Stage → Nat
  | .connecting => 0
  | .connected => 1
  | .closing => 2
  | .closed => 3

instance : LE Stage := ⟨fun a b => a.rank ≤ b.rank⟩

instance (a b : Stage) : Decidable (a ≤ b) := inferInstanceAs (Decidable (a.rank ≤ b.rank))

/-- Whether a session in this stage can still be closed. -/
def isOpen : Stage → Bool
  | .connecting | .connected => true
  | .closing | .closed => false

theorem isOpen_iff {s : Stage} : s.isOpen = true ↔ ¬ .closing ≤ s := by
  cases s <;> decide

end Stage

end SessionEngine
