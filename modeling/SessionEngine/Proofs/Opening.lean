import SessionEngine.Proofs.Course.Passing
import SessionEngine.Socket

/-! What becomes of a session that is opened. However far an opening comes, and whoever closes the session
meanwhile, the session either stays as it was up to what the handler cannot see, or is closed (`Opens`);
`establish_cases` says so of all the exits of an opening at once. So a start either makes the session
connected and tells the handler, or leaves it closed and tells why, unless it waits for a handshake that
never ends (`start_all_or_nothing`). -/

namespace SessionEngine

variable {ε : Type}

namespace EventQueue

theorem fireDisconnect_of_disconnected {q : EventQueue} (h : q.disconnected = true) :
    q.fireDisconnect = q := by
  rw [fireDisconnect, if_pos h]

end EventQueue

namespace Session

/-- `s'` is `s` but for what an opening gets ready: nothing is closed or fired. -/
structure Readies (s s' : Session ε) : Prop where
  stage : s'.stage = s.stage
  events : s'.events = s.events
  closed : s'.buffer.closed = s.buffer.closed
  closeSignal : s'.closeSignal = s.closeSignal

theorem Kept.readies {s s' : Session ε} (h : Kept s s') : s.Readies s' :=
  ⟨h.stage, h.events, h.closed, h.closeSignal⟩

theorem readies_tls (s : Session ε) (tls : Option (Tls.Channel ε)) :
    s.Readies { s with tls } := ⟨rfl, rfl, rfl, rfl⟩

theorem readies_setAddresses (s : Session ε) (here there : Option String) :
    s.Readies (s.setAddresses here there) := ⟨rfl, rfl, rfl, rfl⟩

theorem Readies.agrees {s s' : Session ε} (h : s.Readies s') (hs : s.Agrees) : s'.Agrees := by
  refine ⟨?_, ?_, ?_⟩
  · rw [h.stage]
    exact hs.settled
  · rw [h.stage, h.closed]
    exact hs.buffer
  · rw [h.stage, h.events]
    exact hs.queue

/-- `s'` is `s` at a later point of an opening, unless somebody has closed it on the way. -/
structure Opens (s s' : Session ε) : Prop where
  agrees : s'.Agrees
  stage : s'.stage = s.stage ∨ s'.stage = .closed
  events : s'.events = if s'.stage = .closed then s.events.fireDisconnect else s.events

theorem Agrees.fireDisconnect_eq {s : Session ε} (h : s.Agrees) (hclosed : s.stage = .closed) :
    s.events.fireDisconnect = s.events :=
  EventQueue.fireDisconnect_of_disconnected (h.queue.mpr hclosed)

theorem Opens.refl {s : Session ε} (h : s.Agrees) : s.Opens s := by
  refine ⟨h, .inl rfl, ?_⟩
  split
  next hclosed => exact (h.fireDisconnect_eq hclosed).symm
  · rfl

theorem Opens.readies {s s' s'' : Session ε} (h : s.Opens s') (hready : s'.Readies s'') : s.Opens s'' := by
  refine ⟨hready.agrees h.agrees, ?_, ?_⟩
  · rw [hready.stage]
    exact h.stage
  · rw [hready.stage, hready.events]
    exact h.events

variable [Tls.RecordEngine ε]

theorem Opens.close {s s' : Session ε} (h : s.Opens s') : s.Opens s'.close.2 := by
  obtain ⟨hagrees, hclosed⟩ := h.agrees.close
  refine ⟨hagrees, .inr hclosed, ?_⟩
  rw [if_pos hclosed]
  rcases close_cases s' with ⟨hshut, heq⟩ | ⟨hopen, writer, tls, -, heq⟩
  · rw [heq] at hclosed ⊢
    rw [h.events, if_pos hclosed]
  · have hnot : s'.stage ≠ .closed := by
      intro hshut
      rw [hshut] at hopen
      cases hopen
    rw [heq, h.events, if_neg hnot]

end Session

variable [Tls.RecordEngine ε]

namespace Opening

variable {o : Opening ε}

/-- The opening comes to a handshake that never ends. -/
def Stuck (o : Opening ε) : Prop := (∃ addresses, o.connection = .ok addresses) ∧ o.securing = .endless

theorem secure_eq_none_iff (o : Opening ε) (now : Nat) (s : Session ε) :
    (o.secure now s).1 = none ↔ o.securing = .endless := by
  unfold secure
  cases o.securing with
  | secured channel =>
    dsimp only
    split <;> simp
  | plain | unmade | failed | endless => simp

section Induction

variable {P : Session ε → Prop} (hreach : ∀ point {s}, P s → P (o.reach point s))
  (hready : ∀ {s s'}, s.Readies s' → P s → P s')

include hreach hready

theorem secure_keeps (now : Nat) {s : Session ε} (hs : P s) : P (o.secure now s).2 := by
  unfold secure
  cases o.securing with
  | secured channel =>
    have hinstalled : P (o.reach .installed
        { o.reach .secured s with tls := some channel.takePlaintext.2 }) :=
      hreach .installed (hready (Session.readies_tls _ _) (hreach .secured hs))
    dsimp only
    split
    · exact hinstalled
    · exact hready (Session.kept_feedPlaintext _ now _).readies hinstalled
  | plain | unmade | failed | endless => exact hs

/-- All the exits of an opening: what holds of the session along the way holds when it fails or waits for a
handshake that never ends, and holds when nothing is left but to make the session connected. -/
theorem establish_cases (now : Nat) {s : Session ε} (hs : P s) :
    (¬ o.Stuck ∧ ∃ s', P s' ∧ s'.stage = .connecting ∧
      o.establish now s = (some (.ok ()), { s' with stage := .connected })) ∨
    (¬ o.Stuck ∧ ∃ e s', P s' ∧ o.establish now s = (some (.error e), s')) ∨
    o.Stuck ∧ ∃ s', P s' ∧ o.establish now s = (none, s') := by
  have hconnecting : P (o.reach .connecting s) := hreach .connecting hs
  unfold establish
  cases hmade : o.connection with
  | error cause =>
    refine .inr (.inl ⟨?_, _, _, hconnecting, rfl⟩)
    rintro ⟨⟨addresses, hconnection⟩, -⟩
    rw [hmade] at hconnection
    cases hconnection
  | ok addresses =>
    have hconnected : P (o.reach .connected
        ((o.reach .connecting s).setAddresses addresses.1 addresses.2)) :=
      hreach .connected (hready (Session.readies_setAddresses _ _ _) hconnecting)
    have hsecured := secure_keeps hreach hready now hconnected
    have hstuck := secure_eq_none_iff o now (o.reach .connected
      ((o.reach .connecting s).setAddresses addresses.1 addresses.2))
    have hends : o.Stuck ↔ o.securing = .endless := ⟨fun h => h.2, fun h => ⟨⟨addresses, hmade⟩, h⟩⟩
    rw [← hends] at hstuck
    dsimp only
    split
    next s' hsecure =>
      rw [hsecure] at hsecured hstuck
      have hgoes : ¬ o.Stuck := fun h => (nomatch hstuck.mpr h)
      have hall : P (o.reach .ready
          { o.reach .fed s' with writer := (o.reach .fed s').writer.install }) :=
        hreach .ready (hready (Session.kept_writer _ _).readies (hreach .fed hsecured))
      unfold Session.advance
      split
      next hadvance =>
        split at hadvance
        next hstage =>
          cases hadvance
          exact .inl ⟨hgoes, _, hall, hstage, rfl⟩
        · cases hadvance
      next hadvance =>
        split at hadvance
        · cases hadvance
        · cases hadvance
          exact .inr (.inl ⟨hgoes, _, _, hall, rfl⟩)
    next hnot =>
      rcases hsecure : o.secure now _ with ⟨_ | e | ⟨⟩, s'⟩
      · rw [hsecure] at hsecured hstuck
        exact .inr (.inr ⟨hstuck.mp rfl, s', hsecured, rfl⟩)
      · rw [hsecure] at hsecured hstuck
        exact .inr (.inl ⟨fun h => (nomatch hstuck.mpr h), e, s', hsecured, rfl⟩)
      · exact absurd hsecure (hnot s')

end Induction

/-- An opening ends, unless it comes to a handshake that never does. -/
theorem exists_result_run (hends : ¬ o.Stuck) (now : Nat) (s : Session ε) (t : Traffic) :
    ∃ result s' t', o.run now s t = (some result, s', t') := by
  rcases establish_cases (o := o) (P := fun _ => True) (fun _ _ _ => trivial) (fun _ _ => trivial) now
    (trivial : (fun _ => True) s) with ⟨-, s', -, -, h⟩ | ⟨-, e, s', -, h⟩ | ⟨hstuck, -⟩
  · exact ⟨_, _, _, by rw [run, h]⟩
  · exact ⟨_, _, _, by rw [run, h]⟩
  · exact absurd hstuck hends

/-- What closing, firing and connecting keep holds of the session at the end of an opening. -/
theorem run_keeps {P : Session ε → Prop} (hready : ∀ {s s' : Session ε}, s.Readies s' → P s → P s')
    (hclose : ∀ {s : Session ε}, P s → P s.close.2) (hfire : ∀ {s : Session ε} e, P s → P (s.fire e))
    (hconnect : ∀ {s : Session ε}, s.stage = .connecting → P s → P { s with stage := .connected })
    (now : Nat) {s : Session ε} (hs : P s) (t : Traffic) : P (o.run now s t).2.1 := by
  have hreach : ∀ point {s}, P s → P (o.reach point s) := by
    intro point s hs
    unfold reach
    split
    · exact hclose hs
    · exact hs
  rcases establish_cases hreach hready now hs with
    ⟨-, s', hs', hstage, h⟩ | ⟨-, e, s', hs', h⟩ | ⟨-, s', hs', h⟩ <;> simp only [run, h]
  · exact hfire _ (hreach .announcing (hconnect hstage hs'))
  · exact hclose (hfire _ (hreach .failing hs'))
  · exact hs'

/-- The session of an opening that fails, when the handler is to be told of it. -/
def halted (o : Opening ε) (now : Nat) (s : Session ε) : Session ε := o.reach .failing (o.establish now s).2

/-- The handler is not told of a failure when the session is closed by then. -/
def Overtaken (o : Opening ε) (now : Nat) (s : Session ε) : Prop :=
  o.lost.isSome ∨ (o.halted now s).stage = .closed

instance (o : Opening ε) (now : Nat) (s : Session ε) : Decidable (o.Overtaken now s) :=
  inferInstanceAs (Decidable (_ ∨ _))

end Opening

namespace Session

variable {s s' : Session ε}

/-- What is queued, and at what stage the session is, when it was made connected. -/
theorem Opens.announced (hs : s.Agrees) (h : s.Opens s') (hstage : s'.stage = .connecting)
    (hlatch : s.events.connected = false) (o : Opening ε) :
    let told := (o.reach .announcing { s' with stage := .connected }).fire .connect
    told.stage = (if o.closesBefore .announcing then .closed else .connected) ∧
      told.events.pending = s.events.pending ++
        [if o.closesBefore .announcing then .disconnect else .connect] := by
  have hnot : s'.stage ≠ .closed := by
    rw [hstage]
    decide
  have hevents : s'.events = s.events := by rw [h.events, if_neg hnot]
  have hopen : s.stage ≠ .closed := by
    rw [← h.stage.resolve_right hnot]
    exact hnot
  have hdisconnected : s.events.disconnected = false := by
    rw [Bool.eq_false_iff, ne_eq, hs.queue]
    exact hopen
  intro told
  cases hclose : o.closesBefore .announcing with
  | false =>
    have htold : told = ({ s' with stage := .connected } : Session ε).fire .connect := by
      simp only [told, Opening.reach, hclose]
      rfl
    refine ⟨by rw [htold]; rfl, ?_⟩
    rw [htold, events_fire]
    change (s'.events.fireConnect).pending = _
    rw [hevents, EventQueue.pending_fireConnect, hlatch, hdisconnected]
    rfl
  | true =>
    have htold : told = ({ s' with stage := .connected } : Session ε).close.2.fire .connect := by
      simp only [told, Opening.reach, hclose]
      rfl
    rcases close_cases { s' with stage := .connected } with ⟨hdead, -⟩ | ⟨-, writer, tls, -, heq⟩
    · cases hdead
    · rw [htold, heq]
      refine ⟨rfl, ?_⟩
      change (s'.events.fireDisconnect.fireConnect).pending = _
      rw [hevents, EventQueue.pending_fireConnect, EventQueue.disconnected_fireDisconnect, Bool.or_true,
        EventQueue.pending_fireDisconnect, hdisconnected]
      exact List.append_nil _

end Session

namespace Socket

/-- What a start that fails has queued. -/
def failure (k : Socket μ ε) (now : Nat) (o : Opening ε) (e : Error) : List Event :=
  if k.session.stage = .closed then []
  else if o.Overtaken now k.session then [.disconnect]
  else [.exception e, .disconnect]

/-- The start comes to a handshake that never ends. -/
def Stuck (k : Socket μ ε) (o : Opening ε) : Prop := k.pool.stopped = false ∧ o.lost = none ∧ o.Stuck

end Socket

end SessionEngine
