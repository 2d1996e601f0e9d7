/-! The worker pool that runs a socket's tasks: it takes tasks until it is shut down. -/

namespace SessionEngine

/-- A pool of worker threads. -/
structure Workers where
  threads : Nat
  stopped : Bool
  deriving DecidableEq, Repr, Inhabited

namespace Workers

/-- A running pool of `threads` workers, at least one. -/
def start (threads : Nat) : Workers := ⟨max threads 1, false⟩

/-- The number of workers on a machine with `processors` processors: one each, at least two. -/
def defaultThreads (processors : Nat) : Nat := max processors 2

/-- What a task gives, unless the pool is shut down and takes none. -/
def spawn? (w : Workers) (task : Unit → α) : Option α := if w.stopped then none else some (task ())

/-- Shuts the pool down for good. -/
def shutdown (w : Workers) : Workers := { w with stopped := true }

/-- How long a shutdown waits for running callbacks, in milliseconds. -/
def shutdownGrace : Nat := 2000

theorem spawn?_shutdown (w : Workers) (task : Unit → α) : w.shutdown.spawn? task = none := rfl

@[simp] theorem shutdown_shutdown (w : Workers) : w.shutdown.shutdown = w.shutdown := rfl

end Workers

end SessionEngine
