import SessionEngine.Buffer

/-! Waiting for a buffer to change. The waiter has seen a generation and sleeps until the buffer has
another one, is closed, or a deadline passes; others change the buffer meanwhile. The main statement
is `await_of_changedSince`: a waiter that has already missed a change does not sleep. -/

namespace SessionEngine.Buffer

/-- What another thread does to a buffer. -/
inductive Change where
  | append (data : Bytes)
  | take (n : Nat)
  | stripHead (head : Bytes)
  | close
  deriving DecidableEq, Repr

/-- The buffer after a change at `now`; a change that is refused leaves it as it is. -/
def apply (b : Buffer) (now : Nat) : Change → Buffer
  | .append data => (b.append now data).toOption.getD b
  | .take n => (b.take? n).elim b (·.2)
  | .stripHead head => (b.stripHead? head).getD b
  | .close => b.close

/-- Whether the buffer changes before `deadline` for a waiter that has seen generation `seen`, when
the given changes happen at the given times, in order of time; and the buffer and the changes still
to come when the waiter goes on. -/
def await (b : Buffer) (seen : UInt64) (deadline : Nat) :
    List (Nat × Change) → Bool × Buffer × List (Nat × Change)
  | [] => (b.changedSince seen, b, [])
  | (time, change) :: rest =>
    if b.changedSince seen then (true, b, (time, change) :: rest)
    else if time < deadline then await (b.apply time change) seen deadline rest
    else (false, b, (time, change) :: rest)

theorem await_of_changedSince {b : Buffer} {seen : UInt64} (h : b.changedSince seen = true)
    (deadline : Nat) (changes : List (Nat × Change)) :
    b.await seen deadline changes = (true, b, changes) := by
  cases changes with
  | nil => simp [await, h]
  | cons c rest => simp [await, h]

end SessionEngine.Buffer
