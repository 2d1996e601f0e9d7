/-! A signal that one side raises and others watch for. Raising it with no watcher stores nothing:
a watcher that comes later sees the signal as it was. -/

namespace SessionEngine

/-- A flag with a count of those who watch it. -/
structure Signal where
  raised : Bool
  watchers : Nat
  deriving DecidableEq, Repr, Inhabited

namespace Signal

/-- A signal that nobody has raised or watched. -/
def quiet : Signal := ⟨false, 0⟩

/-- One more watcher. -/
def watch (s : Signal) : Signal := { s with watchers := s.watchers + 1 }

/-- One watcher less. -/
def unwatch (s : Signal) : Signal := { s with watchers := s.watchers - 1 }

/-- Raises the signal; with no watcher this has no effect. -/
def raise (s : Signal) : Signal := if s.watchers = 0 then s else { s with raised := true }

/-- What somebody sees who watches only for the moment. -/
def glance (s : Signal) : Bool := s.watch.raised

theorem raise_of_no_watcher {s : Signal} (h : s.watchers = 0) : s.raise = s := if_pos h

theorem raised_raise {s : Signal} (h : s.watchers ≠ 0) : s.raise.raised = true := by
  simp [raise, h]

end Signal

end SessionEngine
