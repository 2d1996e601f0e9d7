import SessionEngine.Proofs.Heartbeat.Judgement
import SessionEngine.Proofs.Session.Decoding
import SessionEngine.Proofs.Session.Ledger

/-! What the attached heartbeat goes through. `marks` lists it for each operation: a beat with its
result, and the tokens that are stripped. By `Bears.perform` the heartbeat turns by just that, whatever
becomes of what the session transmits, and `Bears.run` says so of whole runs. -/

namespace SessionEngine.Session

variable {ε : Type}

/-- The tokens that stripping takes off the head of the buffer. -/
def stripped (s : Session ε) : List Token :=
  match s.heartbeat? with
  | none => []
  | some h => (h.strip s.buffer.contents).1

@[simp] theorem heartbeats_fire (s : Session ε) (e : Event) : (s.fire e).heartbeats = s.heartbeats := rfl

@[simp] theorem heartbeats_enqueue (s : Session ε) (payload : Bytes) :
    (s.enqueue payload).2.heartbeats = s.heartbeats := by
  unfold enqueue; split <;> rfl

/-- The heartbeat `h` is attached, in the place `slot`. -/
structure Bears (s : Session ε) (slot : Nat) (h : Heartbeat) : Prop where
  attached : s.heartbeatSlot? = some slot
  heartbeat : s.heartbeats[slot]? = some h

variable {s s' : Session ε} {slot now : Nat} {h : Heartbeat}

theorem Bears.heartbeat?_eq (hs : s.Bears slot h) : s.heartbeat? = some h :=
  heartbeat?_eq_some.mpr ⟨slot, hs.attached, hs.heartbeat⟩

theorem Bears.stripped_eq (hs : s.Bears slot h) : s.stripped = (h.strip s.buffer.contents).1 := by
  simp only [stripped, hs.heartbeat?_eq]

theorem Bears.of_same (hs : s.Bears slot h) (hstays : s.Stays s') (hsame : s'.heartbeats = s.heartbeats) :
    s'.Bears slot h :=
  ⟨hstays.heartbeatSlot?.trans hs.attached, by rw [hsame]; exact hs.heartbeat⟩

theorem Bears.setHeartbeat (hs : s.Bears slot h) (h' : Heartbeat) : (s.setHeartbeat slot h').Bears slot h' :=
  ⟨hs.attached, List.getElem?_set_self (List.getElem?_eq_some_iff.mp hs.heartbeat).1⟩

theorem Bears.attach (hs : s.Bears slot h) (ping pong : Bytes) (role : BeatRole) :
    (s.attach ping pong role).2 = s := by
  rcases attach_cases s ping pong role with hattach | ⟨hnone, -⟩
  · exact hattach
  · rw [hs.attached] at hnone
    cases hnone

/-- Where nothing is heard the heartbeat stays as it is. -/
theorem Bears.still (hs : s.Bears slot h) : ∃ h', s.Bears slot h' ∧ h.Turns [] h' :=
  ⟨_, h.receive_nil.symm ▸ hs, .hears []⟩

variable [Tls.RecordEngine ε]

/-- The tokens that are stripped when a message is taken off the buffer. -/
def strippedBehind (s : Session ε) (now : Nat) : List Token :=
  match (s.takeMessage now).1 with
  | .ok (some message) => (s.withContents (s.buffer.contents.drop message.length)).stripped
  | _ => []

/-- The tokens that are stripped while messages are dispatched. -/
def strippedAlong (s : Session ε) (now : Nat) : List Token :=
  match h : s.takeMessage now with
  | (.ok (some message), s') =>
    have : (s'.fire (.receive message)).buffer.length < s.buffer.length := by
      simpa using length_lt_of_takeMessage h
    s.strippedBehind now ++ (s'.fire (.receive message)).strippedAlong now
  | _ => []
  termination_by s.buffer.length

/-- The tokens that the attached heartbeat hears in an operation. -/
def heard (s : Session ε) (now : Nat) : Deed → List Token
  | .feed data =>
    match (s.feed now data).1 with
    | .ok () => (s.withContents (s.buffer.contents ++ s.decoded data)).stripped
    | .error _ => []
  | .take | .look | .lastLook => s.strippedBehind now
  | .dispatch => if s.settings.handled then s.strippedAlong now else []
  | .fire _ | .send _ | .attach .. | .beat _ | .establish | .close | .installWriter | .dropWriter
  | .setMode _ => []

/-- What the heartbeat in place `slot` goes through in an operation. -/
def marks (slot : Nat) (s : Session ε) (now : Nat) : Deed → List Mark
  | .beat place => if place = slot then [.beat (s.beat now slot).1] else []
  | d => (s.heard now d).map .token

/-! ### What leaves the heartbeats alone -/

@[simp] theorem heartbeats_transmit (s : Session ε) (data : Bytes) :
    (s.transmit data).2.heartbeats = s.heartbeats := by
  unfold transmit
  split
  · rfl
  · split
    · exact heartbeats_enqueue ..
    · split
      · rfl
      · exact heartbeats_enqueue ..

@[simp] theorem heartbeats_answerTokens (s : Session ε) (pong : Bytes) (tokens : List Token) :
    (s.answerTokens pong tokens).heartbeats = s.heartbeats := by
  induction tokens generalizing s with
  | nil => rfl
  | cons token tokens ih => cases token <;> simp [answerTokens, ih]

theorem heartbeats_send (s : Session ε) (data : Bytes) : (s.send data).2.heartbeats = s.heartbeats := by
  rcases send_cases s data with h | ⟨e, h⟩ <;> simp [h]

/-! ### One operation -/

/-- Stripping is heard, whatever becomes of the answers. -/
theorem Bears.intercept (hs : s.Bears slot h) : s.intercept.Bears slot (h.receive s.stripped) := by
  have hintercept : s.intercept = s.interceptWith slot := by simp only [Session.intercept, hs.attached]
  have hcut : (s.withContents (h.strip s.buffer.contents).2).Bears slot h := ⟨hs.attached, hs.heartbeat⟩
  rw [hintercept, interceptWith_eq hs.heartbeat, hs.stripped_eq]
  exact (hcut.setHeartbeat _).of_same (kept_answerTokens _ _ _).toStays (heartbeats_answerTokens _ _ _)

theorem Bears.feed (hs : s.Bears slot h) (now : Nat) (data : Bytes) :
    (s.feed now data).2.Bears slot (h.receive (s.heard now (.feed data))) := by
  cases hfeed : (s.feed now data).1 with
  | error e =>
    have hfailed : (s.feed now data).1 ≠ .ok () := by rw [hfeed]; simp
    simp only [heard, hfeed, Heartbeat.receive_nil]
    exact hs.of_same (kept_feed s now data).toStays (unchanged_of_failed hfailed).2
  | ok =>
    obtain ⟨s', buffer, hkept, hbeats, happend, hstrip⟩ := feed_eq_intercept hfeed
    have hs' : ({ s' with buffer } : Session ε).Bears slot h :=
      ⟨hkept.heartbeatSlot?.trans hs.attached, by rw [← hs.heartbeat, ← hbeats]⟩
    have hfed : (s.withContents (s.buffer.contents ++ s.decoded data)).Bears slot h :=
      ⟨hs.attached, hs.heartbeat⟩
    simp only [heard, hfeed]
    rw [hstrip, hfed.stripped_eq]
    have hheard := hs'.intercept
    rw [hs'.stripped_eq] at hheard
    exact Buffer.contents_append happend ▸ hheard

theorem Bears.take (hs : s.Bears slot h) (now : Nat) :
    (s.takeMessage now).2.Bears slot (h.receive (s.strippedBehind now)) := by
  unfold strippedBehind
  rcases takeMessage_cases s now with ⟨message, s', htake⟩ | htake | ⟨e, htake⟩
  · have hrest : (s.withContents (s.buffer.contents.drop message.length)).Bears slot h :=
      ⟨hs.attached, hs.heartbeat⟩
    rw [htake, eq_intercept_of_message htake]
    exact hrest.intercept
  · simpa only [htake, Heartbeat.receive_nil] using hs
  · simpa only [htake, Heartbeat.receive_nil] using hs

theorem strippedAlong_of_message {message : Bytes} (h : s.takeMessage now = (.ok (some message), s')) :
    s.strippedAlong now = s.strippedBehind now ++ (s'.fire (.receive message)).strippedAlong now := by
  rw [strippedAlong]
  split
  next heq =>
    rw [h] at heq
    cases heq
    rfl
  next hne => exact (hne _ _ h).elim

theorem strippedAlong_of_no_message {result : Except Error (Option Bytes)}
    (h : s.takeMessage now = (result, s')) (hnone : ∀ message, result ≠ .ok (some message)) :
    s.strippedAlong now = [] := by
  rw [strippedAlong]
  split
  next heq =>
    rw [h] at heq
    cases heq
    exact (hnone _ rfl).elim
  · rfl

theorem Bears.dispatchAll (hs : s.Bears slot h) (now : Nat) :
    (s.dispatchAll now).2.Bears slot (h.receive (s.strippedAlong now)) := by
  have htake := hs.take now
  fun_induction Session.dispatchAll s now generalizing h with
  | case1 s message s' hmessage _ n t hrest ih =>
    rw [hmessage] at htake
    have hfire := htake.of_same (stays_fire s' (.receive message)) rfl
    have hall := ih hfire (hfire.take now)
    rw [Heartbeat.receive_receive] at hall
    rw [strippedAlong_of_message hmessage]
    rwa [hrest] at hall
  | case2 s s' hnone =>
    rw [strippedAlong_of_no_message hnone (by simp), Heartbeat.receive_nil]
    rwa [eq_of_takeMessage_none hnone]
  | case3 s e s' herror =>
    rw [strippedAlong_of_no_message herror (by simp), Heartbeat.receive_nil]
    rw [eq_of_takeMessage_error herror]
    exact hs.of_same (stays_fire s (.exception e)) rfl

/-- A beat turns the heartbeat, whether its ping is sent or not. -/
theorem Bears.beat (hs : s.Bears slot h) (now : Nat) :
    (s.beat now slot).1 = h.alive ∧ ((s.beat now slot).2.Bears slot (h.beat now) ∨
      (s.beat now slot).2.Bears slot (h.beat now).unsent) := by
  have hset := hs.setHeartbeat (h.beat now)
  have hsent := hset.of_same (kept_transmit _ h.ping).toStays (heartbeats_transmit _ h.ping)
  simp only [Session.beat, hs.heartbeat]
  cases htransmit : (s.setHeartbeat slot (h.beat now)).transmit h.ping with
  | mk result s' =>
    rw [htransmit] at hsent
    cases result with
    | ok mode => exact ⟨rfl, .inl hsent⟩
    | error e => exact ⟨rfl, .inr (hsent.setHeartbeat _)⟩

/-- A beat of another heartbeat is nothing to this one. -/
theorem Bears.beat_of_ne (hs : s.Bears slot h) {place : Nat} (hne : place ≠ slot) (now : Nat) :
    (s.beat now place).2.Bears slot h := by
  refine ⟨(kept_beat s now place).heartbeatSlot?.trans hs.attached, ?_⟩
  unfold Session.beat
  split
  · exact hs.heartbeat
  next other _ =>
    have hset : (s.heartbeats.set place (other.beat now))[slot]? = some h :=
      (List.getElem?_set_ne hne).trans hs.heartbeat
    have hsent := heartbeats_transmit (s.setHeartbeat place (other.beat now)) other.ping
    dsimp only
    split
    next mode s' he =>
      rw [he] at hsent
      exact hsent ▸ hset
    next e s' he =>
      rw [he] at hsent
      refine (List.getElem?_set_ne hne).trans ?_
      exact hsent ▸ hset

/-- Whatever is done to the session, the heartbeat turns by what is marked. -/
theorem Bears.perform (hs : s.Bears slot h) (now : Nat) (d : Deed) :
    ∃ h', (s.perform now d).Bears slot h' ∧ h.Turns (marks slot s now d) h' := by
  cases d with
  | beat place =>
    by_cases hplace : place = slot
    · subst hplace
      obtain ⟨hresult, hbeat⟩ := hs.beat now
      simp only [marks, if_true, hresult]
      rcases hbeat with hsent | hunsent
      · exact ⟨_, hsent, .beats now⟩
      · exact ⟨_, hunsent, .fails now⟩
    · simp only [marks, if_neg hplace]
      exact (hs.beat_of_ne hplace now).still
  | feed data => exact ⟨_, hs.feed now data, .hears _⟩
  | take => exact ⟨_, hs.take now, .hears _⟩
  | look =>
    obtain ⟨buffer, hlook⟩ := s.look_snd now
    have htake := hs.take now
    simp only [Session.perform, hlook]
    exact ⟨_, ⟨htake.attached, htake.heartbeat⟩, .hears _⟩
  | lastLook =>
    simp only [Session.perform, lastLook_snd]
    exact ⟨_, hs.take now, .hears _⟩
  | dispatch =>
    simp only [Session.perform, dispatch, marks, heard]
    split
    · exact ⟨_, hs.dispatchAll now, .hears _⟩
    · exact hs.still
  | send data => exact (hs.of_same (stays_send s data) (heartbeats_send s data)).still
  | attach ping pong role =>
    simp only [Session.perform, hs.attach]
    exact hs.still
  | establish =>
    simp only [Session.perform, advance]
    split <;> exact Bears.still ⟨hs.attached, hs.heartbeat⟩
  | close =>
    rcases close_cases s with ⟨-, hclose⟩ | ⟨-, writer, tls, -, hclose⟩ <;>
      simp only [Session.perform, hclose] <;> exact Bears.still ⟨hs.attached, hs.heartbeat⟩
  | fire e => exact (hs.of_same (stays_fire s e) rfl).still
  | installWriter => exact Bears.still ⟨hs.attached, hs.heartbeat⟩
  | dropWriter => exact Bears.still ⟨hs.attached, hs.heartbeat⟩
  | setMode mode => exact Bears.still ⟨hs.attached, hs.heartbeat⟩

theorem fixture_turns {h' : Heartbeat} {more : List Mark} (hturn : h.Turns more h') :
    fixture h' = fixture h := by
  cases hturn <;> rfl

/-- A heartbeat that is attached recalls all that it goes through, and keeps its tokens and its role. -/
theorem Bears.run (hs : s.Bears slot h) {past : List Mark} (hh : h.Recalls past)
    (deeds : List (Nat × Deed)) : ∃ h', (s.run deeds).Bears slot h' ∧ fixture h' = fixture h ∧
      h'.Recalls (past ++ gather (marks slot) s deeds) := by
  induction deeds generalizing s h past with
  | nil => exact ⟨h, hs, rfl, (List.append_nil past).symm ▸ hh⟩
  | cons d deeds ih =>
    obtain ⟨now, d⟩ := d
    obtain ⟨h₁, hs₁, hturn⟩ := hs.perform now d
    obtain ⟨h₂, hs₂, hfix, hrecalls⟩ := ih hs₁ (hh.turns hturn)
    rw [List.append_assoc] at hrecalls
    exact ⟨h₂, hs₂, hfix.trans (fixture_turns hturn), hrecalls⟩

end SessionEngine.Session
