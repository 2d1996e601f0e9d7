import SessionEngine.Handler
import SessionEngine.Session.Dispatch
import SessionEngine.Workers

/-! The delivery of a session's events: one at a time, oldest first, until the disconnect. It runs on
a pool of workers and ends with it. -/

namespace SessionEngine

/-- How far the delivery of a session's events has come. -/
inductive DeliveryPhase where
  | idle
  | running
  /-- The disconnect was delivered, or delivery could not begin. -/
  | finished
  deriving DecidableEq, Repr, Inhabited

/-- A session with what delivers its events. -/
structure Delivery (μ ε : Type) where
  session : Session ε
  /-- Who is told; with nobody, events are taken and forgotten. -/
  handler : Option (Handler μ ε)
  memory : μ
  /-- Whether the pool belongs to this session and ends with it. -/
  ownsPool : Bool
  phase : DeliveryPhase := .idle

namespace Delivery

variable {ε : Type}

/-- Begins the delivery; only the first time has an effect. A pool that is shut down takes no
task. -/
def start (d : Delivery μ ε) (pool : Workers) : Delivery μ ε :=
  if d.phase = .idle then { d with phase := if pool.stopped then .finished else .running } else d

/-- Shuts the pool down, if it belongs to the session. -/
def shutdown (d : Delivery μ ε) (pool : Workers) : Workers :=
  if d.ownsPool then pool.shutdown else pool

/-- The delivery in a form for diagnostics. -/
def describe (d : Delivery μ ε) : String :=
  s!"EventTrigger \x7b has_handler: {d.handler.isSome}, owns_pool: {d.ownsPool}, " ++
    s!"connected: {d.session.events.connected}, disconnected: {d.session.events.disconnected} \x7d"

variable [Tls.RecordEngine ε]

/-- Delivers the oldest event at `now`. The disconnect is the last one, and takes the pool with it
if it belongs to the session. -/
def step? (d : Delivery μ ε) (now : Nat) (pool : Workers) : Option (Delivery μ ε × Workers) :=
  if d.phase ≠ .running ∨ pool.stopped then none
  else match d.session.events.pop? with
    | none => none
    | some (e, events) =>
      let session := { d.session with events }
      let d := match d.handler with
        | none => { d with session }
        | some h =>
          let (memory, session) := h.deliver now d.memory e session
          { d with memory, session }
      if e = .disconnect then
        some ({ d with phase := .finished }, if d.ownsPool then pool.shutdown else pool)
      else some (d, pool)

/-- Delivers until nothing is left, at most `fuel` events. -/
def settle (now : Nat) : (fuel : Nat) → Delivery μ ε → Workers → Delivery μ ε × Workers
  | 0, d, pool => (d, pool)
  | fuel + 1, d, pool =>
    match d.step? now pool with
    | none => (d, pool)
    | some (d, pool) => settle now fuel d pool

/-- Nothing is delivered on a pool that is shut down. -/
theorem step?_of_stopped {d : Delivery μ ε} {pool : Workers} (h : pool.stopped = true) (now : Nat) :
    d.step? now pool = none := by
  simp [step?, h]

/-- A delivery keeps what it owns, and shuts down no pool that others own. -/
theorem step?_pool {d d' : Delivery μ ε} {now : Nat} {pool pool' : Workers}
    (h : d.step? now pool = some (d', pool')) :
    d'.ownsPool = d.ownsPool ∧ (d.ownsPool = false → pool' = pool) := by
  unfold step? at h
  split at h
  · simp at h
  · split at h
    · simp at h
    · dsimp only at h
      cases hh : d.handler <;> rw [hh] at h <;> split at h <;>
        obtain ⟨rfl, rfl⟩ := Prod.mk.inj (Option.some.inj h) <;> simp_all

theorem settle_pool (now fuel : Nat) (d : Delivery μ ε) (pool : Workers) :
    (settle now fuel d pool).1.ownsPool = d.ownsPool ∧
      (d.ownsPool = false → (settle now fuel d pool).2 = pool) := by
  induction fuel generalizing d pool with
  | zero => exact ⟨rfl, fun _ => rfl⟩
  | succ fuel ih =>
    unfold settle
    split
    · exact ⟨rfl, fun _ => rfl⟩
    next d' pool' h =>
      obtain ⟨hown, hpool⟩ := step?_pool h
      obtain ⟨hown', hpool'⟩ := ih d' pool'
      exact ⟨hown'.trans hown, fun hd => (hpool' (hown.trans hd)).trans (hpool hd)⟩

end Delivery

end SessionEngine
