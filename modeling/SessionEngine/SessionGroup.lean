import SessionEngine.Delivery
import SessionEngine.Tls.Pair

/-! Sessions side by side under one clock. A session that owns no pool delivers its events on the pool
that all of those share. The main statement is `shared_settleOne`: a delivery never shuts down the
pool that others run on. -/

namespace SessionEngine

/-- A session of a group: its delivery, and its own pool, which counts if the delivery owns one. -/
structure Member (μ ε : Type) where
  delivery : Delivery μ ε
  own : Workers

/-- Sessions side by side. -/
structure SessionGroup (μ ε : Type) where
  members : List (Member μ ε)
  shared : Workers
  now : Nat := 0

namespace SessionGroup

variable {ε : Type}

def pool (g : SessionGroup μ ε) (m : Member μ ε) : Workers :=
  if m.delivery.ownsPool then m.own else g.shared

/-- The group with a member in another state, and the pool it runs on in another state. -/
def set (g : SessionGroup μ ε) (i : Nat) (d : Delivery μ ε) (pool : Workers) : SessionGroup μ ε :=
  if d.ownsPool then { g with members := g.members.set i ⟨d, pool⟩ }
  else { g with
    members := g.members.modify i fun m => { m with delivery := d }
    shared := pool }

/-- The group with the delivery in place `i` in another state. -/
def modify (g : SessionGroup μ ε) (i : Nat) (f : Delivery μ ε → Delivery μ ε) : SessionGroup μ ε :=
  { g with members := g.members.modify i fun m => { m with delivery := f m.delivery } }

/-- The group with another session in place `i`. -/
def setSession (g : SessionGroup μ ε) (i : Nat) (s : Session ε) : SessionGroup μ ε :=
  g.modify i fun d => { d with session := s }

def session? (g : SessionGroup μ ε) (i : Nat) : Option (Session ε) :=
  (g.members[i]?).map (·.delivery.session)

def wait (g : SessionGroup μ ε) (span : Nat) : SessionGroup μ ε := { g with now := g.now + span }

variable [Tls.RecordEngine ε]

/-- The group after the session in place `i` was fed, whatever came of it. -/
def feed (g : SessionGroup μ ε) (i : Nat) (data : Bytes) : SessionGroup μ ε :=
  g.modify i fun d => { d with session := (d.session.feed g.now data).2 }

/-- The group with the TLS layer of two sessions after they have shaken hands as client and server. What
was left unread then is fed to the session of the side it was meant for, the server's first. -/
def secure (g : SessionGroup μ ε) (i k millis : Nat) (client server : Tls.Channel ε) :
    Option (Except Error Unit) × Option (Except Error Unit) × SessionGroup μ ε :=
  let (c, s, p) := (⟨client, server, [], []⟩ : Tls.Pair ε).handshake Tls.Party.pipeSize millis
  let install (tls : Tls.Channel ε) (d : Delivery μ ε) : Delivery μ ε :=
    { d with session := { d.session with tls := some tls } }
  let g := (g.modify i (install p.client)).modify k (install p.server)
  (c, s, (g.feed k p.toServer).feed i p.toClient)

/-- Delivers what is queued for the member in place `i`, at most `fuel` events. -/
def settleOne (g : SessionGroup μ ε) (fuel i : Nat) : SessionGroup μ ε :=
  match g.members[i]? with
  | none => g
  | some m =>
    let (d, pool) := m.delivery.settle g.now fuel (g.pool m)
    g.set i d pool

/-- Delivers what is queued for every member whose handler is `free`. -/
def settle (g : SessionGroup μ ε) (free : μ → Bool) (fuel : Nat) : SessionGroup μ ε :=
  (List.range g.members.length).foldl
    (fun g i => if (g.members[i]?).any (free ·.delivery.memory) then g.settleOne fuel i else g) g

/-- A delivery never shuts down the pool that others run on. -/
theorem shared_settleOne (g : SessionGroup μ ε) (fuel i : Nat) :
    (g.settleOne fuel i).shared = g.shared := by
  unfold settleOne
  split
  · rfl
  next m _ =>
    obtain ⟨hown, hpool⟩ := m.delivery.settle_pool g.now fuel (g.pool m)
    simp only [set]
    split
    · rfl
    next hd =>
      rw [hown] at hd
      simpa [pool, hd] using hpool (by simpa using hd)

end SessionGroup

end SessionEngine
