import SessionEngine.Proofs.Course.History
import SessionEngine.Proofs.Session.Ledger
import SessionEngine.Proofs.Session.Sending

/-! What a session without a TLS layer transmits: the messages that are sent, and the tokens of its
heartbeats. `parcels` lists it for each operation in the order in which the code transmits. By
`posts_perform` the writer takes those parcels whose transmission succeeds, and nothing else; by
`sents_fires` an operation fires a sent event for each message that the writer reports done. -/

namespace SessionEngine

variable {ε : Type} [Tls.RecordEngine ε]

/-- Something that is transmitted, and the session that it is transmitted from. -/
structure Parcel (ε : Type) where
  session : Session ε
  load : Segment

namespace Parcel

/-- What its transmission gives. -/
def outcome (p : Parcel ε) : Except Error WriteMode := (p.session.transmit p.load.bytes).1

/-- The payload that the writer takes. -/
def taken? (p : Parcel ε) : Option Bytes :=
  match p.outcome with
  | .ok _ => some p.load.bytes
  | .error _ => none

/-- The message that the writer reports done. -/
def done? (p : Parcel ε) : Option Bytes :=
  match p.outcome with
  | .ok .accept => p.load.message?
  | _ => none

/-- A transmission fails where the session is not connected, or its writer takes nothing. -/
theorem outcome_of_plain {p : Parcel ε} (hplain : p.session.tls = none) :
    p.outcome =
      if p.session.stage ≠ .connected ∨ p.session.writer.installed = false then .error .closed
      else if p.session.writer.gone then .error .writerGone
      else .ok p.session.writer.mode := by
  unfold outcome
  rw [Session.transmit_of_plain hplain]
  by_cases hstage : p.session.stage ≠ .connected
  · rw [if_pos hstage, if_pos (.inl hstage)]
  · rw [if_neg hstage]
    cases hinstalled : p.session.writer.installed
    · simp [Session.enqueue, Writer.hand, hinstalled]
    · cases hgone : p.session.writer.gone <;>
        simp [Session.enqueue, Writer.hand, hinstalled, hgone, hstage]

theorem connected_of_outcome {p : Parcel ε} {mode : WriteMode} (h : p.outcome = .ok mode) :
    p.session.stage = .connected := by
  unfold outcome Session.transmit at h
  split at h
  · cases h
  next hstage => exact Decidable.not_not.mp hstage

theorem done?_of_ne {p : Parcel ε} (h : p.outcome ≠ .ok .accept) : p.done? = none := by
  unfold done?
  split
  next haccept => exact absurd haccept h
  · rfl

theorem done?_of_token {p : Parcel ε} (h : p.load.message? = none) : p.done? = none := by
  unfold done?
  split
  · exact h
  · rfl

end Parcel

/-- The message that was sent, by an event that says so. -/
def Event.sent? : Event → Option Bytes
  | .sent message => some message
  | _ => none

namespace Session

/-- The pongs that answer tokens. -/
def pongs (s : Session ε) (pong : Bytes) : List Token → List (Parcel ε)
  | [] => []
  | .ping :: rest => ⟨s, .token pong⟩ :: (s.transmit pong).2.pongs pong rest
  | .pong :: rest => s.pongs pong rest

/-- The pongs that go out when the head of the buffer is stripped. -/
def answers (s : Session ε) : List (Parcel ε) :=
  match s.heartbeatSlot? with
  | none => []
  | some slot =>
    match s.heartbeats[slot]? with
    | none => []
    | some h =>
      ((s.withContents (h.strip s.buffer.contents).2).setHeartbeat slot
        (h.receive (h.strip s.buffer.contents).1)).pongs h.pong (h.strip s.buffer.contents).1

/-- The pongs that go out when a message is taken off the buffer. -/
def answersBehind (s : Session ε) (now : Nat) : List (Parcel ε) :=
  match (s.takeMessage now).1 with
  | .ok (some message) => (s.withContents (s.buffer.contents.drop message.length)).answers
  | _ => []

/-- The pongs that go out while messages are dispatched. -/
def answersAlong (s : Session ε) (now : Nat) : List (Parcel ε) :=
  match h : s.takeMessage now with
  | (.ok (some message), s') =>
    have : (s'.fire (.receive message)).buffer.length < s.buffer.length := by
      simpa using length_lt_of_takeMessage h
    s.answersBehind now ++ (s'.fire (.receive message)).answersAlong now
  | _ => []
  termination_by s.buffer.length

/-- What an operation transmits, in order. -/
def parcels (s : Session ε) (now : Nat) : Deed → List (Parcel ε)
  | .send data => [⟨s, .message data⟩]
  | .beat slot =>
    match s.heartbeats[slot]? with
    | none => []
    | some h => [⟨s.setHeartbeat slot (h.beat now), .token h.ping⟩]
  | .feed data =>
    match s.buffer.append now data with
    | .error _ => []
    | .ok buffer => { s with buffer }.answers
  | .take | .look | .lastLook => s.answersBehind now
  | .dispatch => if s.settings.handled then s.answersAlong now else []
  | .fire _ | .attach .. | .establish | .close | .installWriter | .dropWriter | .setMode _ => []

theorem answersAlong_of_message {s s' : Session ε} {now : Nat} {message : Bytes}
    (h : s.takeMessage now = (.ok (some message), s')) :
    s.answersAlong now = s.answersBehind now ++ (s'.fire (.receive message)).answersAlong now := by
  rw [answersAlong]
  split
  next heq =>
    rw [h] at heq
    cases heq
    rfl
  next hne => exact (hne _ _ h).elim

theorem answersAlong_of_no_message {s s' : Session ε} {now : Nat} {result : Except Error (Option Bytes)}
    (h : s.takeMessage now = (result, s')) (hnone : ∀ message, result ≠ .ok (some message)) :
    s.answersAlong now = [] := by
  rw [answersAlong]
  split
  next heq =>
    rw [h] at heq
    cases heq
    exact (hnone _ rfl).elim
  · rfl

/-! ### Who transmits, and from where -/

/-- Between `s` and `s'` the parcels were transmitted, and the writer took what it could. -/
structure Posts (s s' : Session ε) (parcels : List (Parcel ε)) : Prop where
  taken : s'.writer.taken = s.writer.taken ++ parcels.filterMap Parcel.taken?
  stage : ∀ p ∈ parcels, p.session.stage = s.stage
  plain : ∀ p ∈ parcels, p.session.tls = none

variable {s s' s'' : Session ε} {now : Nat}

theorem posts_nil (h : s'.writer.taken = s.writer.taken) : s.Posts s' [] :=
  ⟨by rw [h]; exact (List.append_nil _).symm, by simp, by simp⟩

theorem Posts.append {parcels more : List (Parcel ε)} (h : s.Posts s' parcels) (hstage : s'.stage = s.stage)
    (h' : s'.Posts s'' more) : s.Posts s'' (parcels ++ more) := by
  refine ⟨?_, fun p hp => ?_, fun p hp => ?_⟩
  · rw [h'.taken, h.taken, List.filterMap_append, List.append_assoc]
  · rcases List.mem_append.mp hp with hp | hp
    · exact h.stage p hp
    · exact (h'.stage p hp).trans hstage
  · rcases List.mem_append.mp hp with hp | hp
    · exact h.plain p hp
    · exact h'.plain p hp

theorem posts_transmit (hplain : s.tls = none) (load : Segment) :
    s.Posts (s.transmit load.bytes).2 [⟨s, load⟩] := by
  refine ⟨?_, ?_, ?_⟩
  · have houtcome : Parcel.outcome ⟨s, load⟩ = (s.transmit load.bytes).1 := rfl
    simp only [List.filterMap_cons, List.filterMap_nil, Parcel.taken?, houtcome]
    rw [transmit_of_plain hplain]
    by_cases hstage : s.stage ≠ .connected
    · simp only [if_pos hstage, List.append_nil]
    · simp only [if_neg hstage, enqueue]
      cases hhand : s.writer.hand load.bytes with
      | error e => simp only [List.append_nil]
      | ok handed => exact (Writer.taken_hand hhand).1
  · simp
  · simpa using hplain

theorem posts_pongs (hplain : s.tls = none) (pong : Bytes) (tokens : List Token) :
    s.Posts (s.answerTokens pong tokens) (s.pongs pong tokens) := by
  induction tokens generalizing s with
  | nil => exact posts_nil rfl
  | cons token tokens ih =>
    cases token with
    | ping =>
      have hkept := kept_transmit s pong
      exact (posts_transmit hplain (.token pong)).append hkept.stage (ih (hkept.plain hplain))
    | pong => exact ih hplain

theorem posts_answers (hplain : s.tls = none) : s.Posts s.intercept s.answers := by
  unfold intercept answers
  cases s.heartbeatSlot? with
  | none => exact posts_nil rfl
  | some slot =>
    cases hslot : s.heartbeats[slot]? with
    | none =>
      simp only [interceptWith, hslot]
      exact posts_nil rfl
    | some h =>
      simp only [hslot, interceptWith_eq hslot]
      have hposts := posts_pongs (s := (s.withContents (h.strip s.buffer.contents).2).setHeartbeat slot
        (h.receive (h.strip s.buffer.contents).1)) hplain h.pong (h.strip s.buffer.contents).1
      exact ⟨hposts.taken, hposts.stage, hposts.plain⟩

theorem posts_take (hplain : s.tls = none) (now : Nat) :
    s.Posts (s.takeMessage now).2 (s.answersBehind now) := by
  unfold answersBehind
  rcases takeMessage_cases s now with ⟨message, s', h⟩ | h | ⟨e, h⟩
  · rw [h, eq_intercept_of_message h]
    have hposts := posts_answers (s := s.withContents (s.buffer.contents.drop message.length)) hplain
    exact ⟨hposts.taken, hposts.stage, hposts.plain⟩
  · rw [h]
    exact posts_nil rfl
  · rw [h]
    exact posts_nil rfl

theorem posts_dispatchAll (hplain : s.tls = none) (now : Nat) :
    s.Posts (s.dispatchAll now).2 (s.answersAlong now) := by
  have hposts := posts_take hplain now
  have hkept := kept_takeMessage s now
  fun_induction dispatchAll s now with
  | case1 s message s' h _ n t hrest ih =>
    rw [h] at hposts hkept
    rw [answersAlong_of_message h]
    have hplain' : (s'.fire (.receive message)).tls = none := hkept.plain hplain
    have hrest' := ih hplain' (posts_take hplain' now) (kept_takeMessage _ now)
    rw [hrest] at hrest'
    exact hposts.append hkept.stage ⟨hrest'.taken, hrest'.stage, hrest'.plain⟩
  | case2 s s' h =>
    rw [answersAlong_of_no_message h (by simp), eq_of_takeMessage_none h]
    exact posts_nil rfl
  | case3 s e s' h =>
    rw [answersAlong_of_no_message h (by simp), eq_of_takeMessage_error h]
    exact posts_nil rfl

theorem posts_feed (hplain : s.tls = none) (now : Nat) (data : Bytes) :
    s.Posts (s.feed now data).2 (s.parcels now (.feed data)) := by
  have hfeed : s.feed now data = s.feedPlaintext now data := by rw [feed, hplain]
  simp only [hfeed, feedPlaintext, parcels]
  cases s.buffer.append now data with
  | error cause => exact posts_nil rfl
  | ok buffer =>
    have hposts := posts_answers (s := { s with buffer }) hplain
    exact ⟨hposts.taken, hposts.stage, hposts.plain⟩

theorem posts_beat (hplain : s.tls = none) (now slot : Nat) :
    s.Posts (s.beat now slot).2 (s.parcels now (.beat slot)) := by
  simp only [parcels, beat]
  cases s.heartbeats[slot]? with
  | none => exact posts_nil rfl
  | some h =>
    have hposts := posts_transmit (s := s.setHeartbeat slot (h.beat now)) hplain (.token h.ping)
    dsimp only [Segment.bytes] at hposts ⊢
    cases htransmit : (s.setHeartbeat slot (h.beat now)).transmit h.ping with
    | mk result s' =>
      rw [htransmit] at hposts
      cases result <;> exact ⟨hposts.taken, hposts.stage, hposts.plain⟩

theorem posts_send (hplain : s.tls = none) (data : Bytes) :
    s.Posts (s.send data).2 [⟨s, .message data⟩] := by
  have hposts := posts_transmit hplain (.message data)
  rcases send_cases s data with h | ⟨e, h⟩ <;> rw [h] <;>
    exact ⟨hposts.taken, hposts.stage, hposts.plain⟩

theorem taken_close (hplain : s.tls = none) : s.close.2.writer.taken = s.writer.taken := by
  unfold close
  split
  · simp only [hplain]
    rfl
  · rfl

/-- The writer takes what an operation transmits with success, in order, and nothing else. -/
theorem posts_perform (hplain : s.tls = none) (now : Nat) (d : Deed) :
    s.Posts (s.perform now d) (s.parcels now d) := by
  cases d with
  | send data => exact posts_send hplain data
  | feed data => exact posts_feed hplain now data
  | take => exact posts_take hplain now
  | dispatch =>
    simp only [perform, dispatch, parcels]
    split
    · exact posts_dispatchAll hplain now
    · exact posts_nil rfl
  | look =>
    obtain ⟨buffer, hlook⟩ := s.look_snd now
    have hposts := posts_take hplain now
    rw [perform, hlook]
    exact ⟨hposts.taken, hposts.stage, hposts.plain⟩
  | lastLook =>
    rw [perform, lastLook_snd]
    exact posts_take hplain now
  | beat slot => exact posts_beat hplain now slot
  | attach ping pong role =>
    refine posts_nil ?_
    simp only [perform]
    rcases attach_cases s ping pong role with h | ⟨-, attributes, h⟩ <;> rw [h]
  | establish =>
    refine posts_nil ?_
    simp only [perform, advance]
    split <;> rfl
  | close => exact posts_nil (taken_close hplain)
  | fire e => exact posts_nil rfl
  | installWriter => exact posts_nil rfl
  | dropWriter => exact posts_nil rfl
  | setMode mode => exact posts_nil rfl

/-! ### What is acknowledged -/

theorem token_of_pongs {pong : Bytes} {tokens : List Token} {p : Parcel ε}
    (hp : p ∈ s.pongs pong tokens) : p.load.message? = none := by
  induction tokens generalizing s with
  | nil => cases hp
  | cons token tokens ih =>
    cases token with
    | ping =>
      rcases List.mem_cons.mp hp with rfl | hp
      · rfl
      · exact ih hp
    | pong => exact ih hp

theorem token_of_answers {p : Parcel ε} (hp : p ∈ s.answers) : p.load.message? = none := by
  unfold answers at hp
  split at hp
  · cases hp
  · split at hp
    · cases hp
    · exact token_of_pongs hp

theorem token_of_answersBehind {p : Parcel ε} (hp : p ∈ s.answersBehind now) :
    p.load.message? = none := by
  unfold answersBehind at hp
  split at hp
  · exact token_of_answers hp
  · cases hp

theorem token_of_answersAlong {p : Parcel ε} (hp : p ∈ s.answersAlong now) :
    p.load.message? = none := by
  fun_induction answersAlong s now with
  | case1 s message s' h _ ih =>
    rcases List.mem_append.mp hp with hp | hp
    · exact token_of_answersBehind hp
    · exact ih hp
  | case2 s h => cases hp

/-- Only a send transmits a message; all else that is transmitted is a token. -/
theorem token_of_parcels {d : Deed} (hd : ∀ data, d ≠ .send data) {p : Parcel ε}
    (hp : p ∈ s.parcels now d) : p.load.message? = none := by
  cases d with
  | send data => exact absurd rfl (hd data)
  | beat slot =>
    simp only [parcels] at hp
    split at hp
    · cases hp
    · obtain rfl := List.mem_singleton.mp hp
      rfl
  | feed data =>
    simp only [parcels] at hp
    split at hp
    · cases hp
    · exact token_of_answers hp
  | take => exact token_of_answersBehind hp
  | look => exact token_of_answersBehind hp
  | lastLook => exact token_of_answersBehind hp
  | dispatch =>
    simp only [parcels] at hp
    split at hp
    · exact token_of_answersAlong hp
    · cases hp
  | _ => cases hp

theorem send_eq_ok_iff (s : Session ε) (data : Bytes) :
    (s.send data).1 = .ok () ↔ (s.transmit data).1 = .ok .accept := by
  unfold send
  split
  next e s' h => simp [h]
  next mode s' h =>
    cases mode <;> simp [h, WriteMode.result]

/-- Only a send fires a sent event, unless somebody fires it by hand. -/
theorem sent?_of_fires {d : Deed} (hsend : ∀ data, d ≠ .send data)
    (hd : ∀ message, d ≠ .fire (.sent message)) {e : Event} (he : e ∈ s.fires now d) :
    e.sent? = none := by
  cases d with
  | send data => exact absurd rfl (hsend data)
  | fire event =>
    obtain rfl := List.mem_singleton.mp he
    cases e with
    | sent message => exact absurd rfl (hd message)
    | _ => rfl
  | dispatch =>
    simp only [fires] at he
    split at he
    · simp only [offers, List.mem_append, List.mem_map] at he
      rcases he with ⟨message, -, rfl⟩ | ⟨error, -, rfl⟩ <;> rfl
    · cases he
  | close =>
    simp only [fires] at he
    split at he
    · obtain rfl := List.mem_singleton.mp he
      rfl
    · cases he
  | _ => cases he

/-- An operation fires a sent event for each message that the writer reports done, in order, and no
other. -/
theorem sents_fires (s : Session ε) (now : Nat) {d : Deed} (hd : ∀ message, d ≠ .fire (.sent message)) :
    (s.fires now d).filterMap Event.sent? = (s.parcels now d).filterMap Parcel.done? := by
  by_cases hsend : ∃ data, d = .send data
  · obtain ⟨data, rfl⟩ := hsend
    have hdone : (s.send data).1 = .ok () ↔ Parcel.outcome ⟨s, .message data⟩ = .ok .accept :=
      send_eq_ok_iff s data
    simp only [fires, parcels]
    by_cases hok : (s.send data).1 = .ok ()
    · have hmessage : Parcel.done? ⟨s, .message data⟩ = some data := by
        rw [Parcel.done?, hdone.mp hok]
        rfl
      rw [if_pos hok, List.filterMap_cons_some hmessage]
      rfl
    · have hnone : Parcel.done? ⟨s, .message data⟩ = none :=
        Parcel.done?_of_ne fun haccept => hok (hdone.mpr haccept)
      rw [if_neg hok, List.filterMap_cons_none hnone]
      rfl
  · have hne : ∀ data, d ≠ .send data := fun data h => hsend ⟨data, h⟩
    have htokens : (s.parcels now d).filterMap Parcel.done? = [] :=
      List.filterMap_eq_nil_iff.mpr fun p hp => Parcel.done?_of_token (token_of_parcels hne hp)
    rw [htokens, List.filterMap_eq_nil_iff]
    exact fun e he => sent?_of_fires hne hd he

end Session

end SessionEngine
