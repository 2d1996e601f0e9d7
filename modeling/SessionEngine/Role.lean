/-! The two ends of a connection. -/

namespace SessionEngine

/-- Which end of a connection a socket is. -/
inductive Role where
  | client
  | server
  deriving DecidableEq, Repr, Inhabited

def Role.name : Role → String
  | .client => "Client"
  | .server => "Server"

/-- The other end. -/
def Role.other : Role → Role
  | .client => .server
  | .server => .client

@[simp] theorem Role.other_other (r : Role) : r.other.other = r := by cases r <;> rfl

theorem Role.other_ne (r : Role) : r.other ≠ r := by
  cases r <;> decide

theorem Role.other_eq_of_ne {r r' : Role} (h : r ≠ r') : r.other = r' := by
  cases r <;> cases r' <;> first | rfl | exact absurd rfl h

end SessionEngine
