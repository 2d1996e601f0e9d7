import SessionEngine.Proofs.Session.Hearing

/-! How the heartbeat of a session judges its peer over a whole run. By `heartbeat_assessment` the
results of its beats, the failures that it counts and the advice to close follow from the beats and the
pongs alone, whatever becomes of the pings and however else the session fares. -/

namespace SessionEngine

variable {ε : Type}

namespace Session

variable {s : Session ε} {slot : Nat} {h : Heartbeat}

/-- A stream session on which nothing stands in the place of a heartbeat bears the one that is attached. -/
theorem bears_attach (hstream : s.settings.transport = .stream)
    (hfree : s.attributes.get? heartbeatName = none) (ping pong : Bytes) (role : BeatRole) :
    (s.attach ping pong role).1 = some s.heartbeats.length ∧
      (s.attach ping pong role).2.Bears s.heartbeats.length (.new ping pong role) := by
  have hattach : s.attach ping pong role = (some s.heartbeats.length, { s with
      attributes := s.attributes.insert heartbeatName (.heartbeat s.heartbeats.length)
      heartbeats := s.heartbeats ++ [.new ping pong role] }) := by
    rw [attach, hstream, if_neg (by decide), hfree]
    rfl
  rw [hattach]
  exact ⟨rfl, by simp [heartbeatSlot?], List.getElem?_concat_length⟩

/-- To attach a heartbeat where one is attached gives the one that is there. -/
theorem Bears.attach_eq (hs : s.Bears slot h) (hstream : s.settings.transport = .stream)
    (ping pong : Bytes) (role : BeatRole) : s.attach ping pong role = (some slot, s) := by
  have hattached := hs.attached
  unfold heartbeatSlot? at hattached
  unfold Session.attach
  rw [hstream, if_neg (by decide)]
  split at hattached
  next place hget => rw [hget]; cases hattached; rfl
  · cases hattached

end Session

variable [Tls.RecordEngine ε]

open Mark Session in
/-- A heartbeat that was attached to a stream session (`bears_attach`), and any run of operations behind
that: beats, feeds and all else that strips tokens off the buffer, attempts to attach another one, and
changes of the writer and the stage by which transmissions fail. Let `past` be its history in that run: its
beats with their results and the tokens that it heard, in order. Then its next beat gives `true` if it is
the first, and else exactly if a pong was heard behind the last beat. Its failures are the beats in a row,
up to the last, that gave `false`, modulo `2^32`; and it advises to close exactly as a responder with more
failures than the threshold. It is the one that is attached still, with its tokens and its role, and to
attach another gives this one and changes nothing. -/
theorem heartbeat_assessment {s : Session ε} {slot : Nat} {ping pong : Bytes} {role : BeatRole}
    (hs : s.Bears slot (.new ping pong role)) (hstream : s.settings.transport = .stream)
    (deeds : List (Nat × Deed)) :
    let now := s.run deeds
    let past := gather (marks slot) s deeds
    (results past = [] → ∀ time, (now.beat time slot).1 = true) ∧
    (∀ earlier alive since, past = earlier ++ .beat alive :: since → results since = [] →
      ∀ time, (now.beat time slot).1 = true ↔ .token .pong ∈ since) ∧
    ∃ h, now.Bears slot h ∧ h.ping = ping ∧ h.pong = pong ∧ h.role = role ∧
      h.failures = UInt32.ofNat (misses past) ∧
      (misses past < UInt32.size → ∀ threshold,
        h.shouldClose threshold = true ↔ role = .responder ∧ threshold < misses past) ∧
      ∀ ping' pong' role', now.attach ping' pong' role' = (some slot, now) := by
  intro now past
  obtain ⟨h, hbears, hfix, hrecalls⟩ := hs.run (Heartbeat.recalls_new ping pong role) deeds
  have hrecalls : h.Recalls past := hrecalls
  have hbeat : ∀ time, (now.beat time slot).1 = due past := fun time =>
    (hbears.beat time).1.trans hrecalls.alive_eq
  obtain ⟨hping, htail⟩ := Prod.mk.inj hfix
  obtain ⟨hpong, hrole⟩ := Prod.mk.inj htail
  refine ⟨?_, ?_, h, hbears, hping, hpong, hrole, hrecalls.failures, ?_, ?_⟩
  · intro hfirst time
    rw [hbeat, due_of_first hfirst]
  · intro earlier alive since hpast hsince time
    rw [hbeat, hpast]
    exact due_of_last hsince
  · intro hsmall threshold
    have hcount : h.failures.toNat = misses past := by
      rw [hrecalls.failures]
      exact UInt32.toNat_ofNat_of_lt hsmall
    have hrole' : h.role = role := hrole
    simp [Heartbeat.shouldClose, hcount, hrole']
  · exact hbears.attach_eq ((grows_run s deeds).settings ▸ hstream)

/-- No ping is ever sent here, as the session is not connected. Two pongs make one beat good, and the two
beats behind that fail. -/
theorem heartbeat_assessment_unsent :
    let s : Session Empty := ((Session.new 0 (.client "localhost" 6380) .line).attach [112] [113] .responder).2
    let deeds : List (Nat × Deed) :=
      [(1, .beat 0), (2, .feed [113, 113]), (3, .beat 0), (4, .beat 0), (5, .beat 0)]
    let now := s.run deeds
    (s.Bears 0 (.new [112] [113] .responder) ∧ s.settings.transport = .stream) ∧
      Session.gather (Session.marks 0) s deeds = [.beat true, .token .pong, .token .pong, .beat true,
        .beat false, .beat false] ∧
      (now.beat 6 0).1 = false ∧
      ∃ h, now.heartbeats[0]? = some h ∧ h.failures = 2 ∧ h.shouldClose 1 = true ∧
        h.shouldClose 2 = false := by
  intro s deeds now
  have hs : s.Bears 0 (.new [112] [113] .responder) := (Session.bears_attach rfl rfl _ _ _).2
  have hpast : Session.gather (Session.marks 0) s deeds = [.beat true, .token .pong, .token .pong,
      .beat true, .beat false, .beat false] := by decide +kernel
  obtain ⟨-, hbeat, h, hbears, -, -, -, hfailures, hclose, -⟩ :=
    heartbeat_assessment hs rfl deeds
  rw [hpast] at hbeat hfailures hclose
  have hmisses : Mark.misses [.beat true, .token .pong, .token .pong, .beat true, .beat false,
      .beat false] = 2 := by decide
  rw [hmisses] at hfailures hclose
  have hclose := hclose (by decide)
  refine ⟨⟨hs, rfl⟩, hpast, ?_, h, hbears.heartbeat, hfailures, ?_, ?_⟩
  · have hlast := hbeat [.beat true, .token .pong, .token .pong, .beat true, .beat false] false [] rfl rfl 6
    exact Bool.eq_false_iff.mpr fun htrue => absurd (hlast.mp htrue) List.not_mem_nil
  · exact (hclose 1).mpr ⟨rfl, by decide⟩
  · exact Bool.eq_false_iff.mpr fun htrue => absurd ((hclose 2).mp htrue).2 (by decide)

end SessionEngine
