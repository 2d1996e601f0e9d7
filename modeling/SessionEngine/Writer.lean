import SessionEngine.Error

/-! The writer of a session: it takes payloads in order and says of each what became of it. -/

namespace SessionEngine

/-- What becomes of a payload. -/
inductive WriteMode where
  | accept
  | refuse (cause : IoError)
  /-- Nobody ever says what became of it. -/
  | abandon
  deriving DecidableEq, Repr, Inhabited

/-- The error of a sender whose payload met the given end, if it is one. -/
def WriteMode.result : WriteMode → Except Error Unit
  | .accept => .ok ()
  | .refuse cause => .error (.send cause)
  | .abandon => .error .writerGone

/-- The writer of a session. -/
structure Writer where
  installed : Bool
  /-- Whether the writer has ended and takes nothing more. -/
  gone : Bool
  mode : WriteMode
  /-- The payloads that were handed over, in order. -/
  taken : List Bytes
  deriving DecidableEq, Repr, Inhabited

namespace Writer

/-- No writer yet. -/
def absent : Writer := ⟨false, false, .accept, []⟩

/-- Installs the writer; only the first time has an effect. -/
def install (w : Writer) : Writer := { w with installed := true }

/-- Ends the writer. -/
def drop (w : Writer) : Writer := { w with gone := w.gone || w.installed }

/-- Hands a payload over and says what becomes of it. -/
def hand (w : Writer) (payload : Bytes) : Except Error (WriteMode × Writer) :=
  if !w.installed then .error .closed
  else if w.gone then .error .writerGone
  else .ok (w.mode, { w with taken := w.taken ++ [payload] })

theorem taken_hand {w w' : Writer} {payload : Bytes} {mode : WriteMode}
    (h : w.hand payload = .ok (mode, w')) : w'.taken = w.taken ++ [payload] ∧ mode = w.mode := by
  unfold hand at h
  split at h
  · simp at h
  · split at h
    · simp at h
    · obtain ⟨rfl, rfl⟩ := Prod.mk.inj (Except.ok.inj h)
      exact ⟨rfl, rfl⟩

end Writer

end SessionEngine
