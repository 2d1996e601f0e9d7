import Mathlib.Logic.Function.Iterate
import SessionEngine.Proofs.Session.Hearing

/-! Stripping the head of the buffer of a session. `stripping_intercept` says what one run of the loop
does: what it takes off, what the heartbeat hears of it, and what is answered. Each feed that succeeds
ends with it, and each message that is taken (`stripping_feed`, `stripping_message`), so that no whole
token heads the buffer then (`clear_feed`, `clear_message`). -/

namespace SessionEngine

variable {ε : Type}

namespace Session

/-- A heartbeat with the tokens and the role of `h` is attached. -/
def Wears (s : Session ε) (h : Heartbeat) : Prop := ∃ h', s.heartbeat? = some h' ∧ fixture h' = fixture h

variable {s s' : Session ε} {now : Nat} {h : Heartbeat}

theorem Wears.grows (hs : s.Wears h) (hgrows : s.Grows s') : s'.Wears h := by
  obtain ⟨h', hbeat, hfix⟩ := hs
  obtain ⟨h'', hbeat', hfix'⟩ := hgrows.heartbeat? hbeat
  exact ⟨h'', hbeat', hfix'.trans hfix⟩

variable [Tls.RecordEngine ε]

/-- From `s` to `s'` the head of the buffer is stripped of `tokens`, the heartbeat `h` hears them, and
for each ping a pong is transmitted, whatever became of those before it. -/
structure Stripping (h : Heartbeat) (tokens : List Token) (s s' : Session ε) : Prop where
  strips : h.Strips s.buffer.contents tokens s'.buffer.contents
  heard : s'.heartbeat? = some { h with answered := h.answered || tokens.contains .pong }
  answers : ∃ slot, s.heartbeatSlot? = some slot ∧
    s' = (fun t : Session ε => (t.transmit h.pong).2)^[tokens.count .ping]
      ((s.withContents s'.buffer.contents).setHeartbeat slot (h.receive tokens))

theorem headed_fixture {h' : Heartbeat} (hfix : fixture h' = fixture h) (data : Bytes) :
    h'.Headed data ↔ h.Headed data := by
  obtain ⟨hping, hrest⟩ := Prod.mk.inj hfix
  exact Heartbeat.headed_congr hping (Prod.mk.inj hrest).1

/-! ### The loop -/

theorem answerTokens_eq_iterate (s : Session ε) (pong : Bytes) (tokens : List Token) :
    s.answerTokens pong tokens = (fun t : Session ε => (t.transmit pong).2)^[tokens.count .ping] s := by
  induction tokens generalizing s with
  | nil => rfl
  | cons token tokens ih =>
    cases token with
    | ping => rw [answerTokens, ih, List.count_cons_self, Function.iterate_succ_apply]
    | pong => rw [answerTokens, ih, List.count_cons_of_ne (by decide)]

theorem stripping_intercept (hattached : s.heartbeat? = some h) :
    Stripping h (h.strip s.buffer.contents).1 s s.intercept := by
  obtain ⟨slot, hslot, hbeat⟩ := heartbeat?_eq_some.mp hattached
  have hs : s.Bears slot h := ⟨hslot, hbeat⟩
  have hintercept : s.intercept = s.interceptWith slot := by simp only [intercept, hslot]
  have hcontents : s.intercept.buffer.contents = (h.strip s.buffer.contents).2 := by
    rw [hintercept, contents_interceptWith, hbeat]
  refine ⟨?_, ?_, slot, hslot, ?_⟩
  · rw [hcontents]
    exact h.strips_strip s.buffer.contents
  · have hheard := hs.intercept.heartbeat?_eq
    rwa [hs.stripped_eq] at hheard
  · rw [hcontents, ← answerTokens_eq_iterate, hintercept, interceptWith_eq hbeat]

/-- A plaintext session strips what it has taken in when a feed has succeeded. -/
theorem stripping_feed (hplain : s.tls = none) (hattached : s.heartbeat? = some h) {data : Bytes}
    (hok : (s.feed now data).1 = .ok ()) : ∃ buffer tokens, s.buffer.append now data = .ok buffer ∧
      Stripping h tokens { s with buffer } (s.feed now data).2 := by
  have hfeed : s.feed now data = s.feedPlaintext now data := by rw [feed, hplain]
  rw [hfeed, feedPlaintext] at hok ⊢
  cases happend : s.buffer.append now data with
  | error cause =>
    rw [happend] at hok
    cases hok
  | ok buffer => exact ⟨buffer, _, rfl, stripping_intercept (s := { s with buffer }) hattached⟩

/-- What stands behind a message is stripped when it is taken. -/
theorem stripping_message (hattached : s.heartbeat? = some h) {message : Bytes}
    (htake : s.takeMessage now = (.ok (some message), s')) :
    ∃ buffer tokens, s.buffer.take? message.length = some (message, buffer) ∧
      Stripping h tokens { s with buffer } s' := by
  obtain ⟨-, buffer, hbuffer, rfl⟩ := takeMessage_some htake
  exact ⟨buffer, _, hbuffer, stripping_intercept (s := { s with buffer }) hattached⟩

/-! ### The head of the buffer -/

/-- A look takes a message, finds nothing to give, or gives all that a closed session holds. -/
theorem look_cases (s : Session ε) (now : Nat) :
    (∃ message s', s.takeMessage now = (.ok (some message), s') ∧
      s.look now = (some (.ok message), s')) ∨
    (s.yields now .look = [] ∧ (s.look now).2 = s) ∨
    s.look now = (some (.ok s.buffer.contents), s.withContents []) := by
  unfold yields look
  rcases takeMessage_cases s now with ⟨message, s', htake⟩ | htake | ⟨e, htake⟩
  · exact .inl ⟨message, s', htake, by rw [htake]⟩
  · rw [htake]
    dsimp only
    split
    · exact .inr (.inl ⟨rfl, rfl⟩)
    · split
      · exact .inr (.inl ⟨rfl, rfl⟩)
      · exact .inr (.inr rfl)
  · rw [htake]
    exact .inr (.inl ⟨rfl, rfl⟩)

theorem lastLook_cases (s : Session ε) (now : Nat) :
    (∃ message s', s.takeMessage now = (.ok (some message), s') ∧ s.lastLook now = (.ok message, s')) ∨
      ∃ e, s.lastLook now = (.error e, s) := by
  unfold lastLook
  rcases takeMessage_cases s now with ⟨message, s', htake⟩ | htake | ⟨e, htake⟩
  · exact .inl ⟨message, s', htake, by rw [htake]⟩
  · exact .inr ⟨_, by rw [htake]⟩
  · exact .inr ⟨_, by rw [htake]⟩

theorem clear_intercept (hs : s.Wears h) : ¬ h.Headed s.intercept.buffer.contents := by
  obtain ⟨h', hattached, hfix⟩ := hs
  rw [← headed_fixture hfix]
  exact (stripping_intercept hattached).strips.not_headed

theorem clear_feed (hs : s.Wears h) {data : Bytes} (hok : (s.feed now data).1 = .ok ()) :
    ¬ h.Headed (s.feed now data).2.buffer.contents := by
  obtain ⟨s', buffer, hkept, -, -, hfeed⟩ := feed_eq_intercept hok
  have hs' : s'.Wears h := hs.grows hkept.grows
  rw [hfeed]
  exact clear_intercept (s := { s' with buffer }) hs'

theorem clear_message (hs : s.Wears h) {message : Bytes}
    (htake : s.takeMessage now = (.ok (some message), s')) : ¬ h.Headed s'.buffer.contents := by
  obtain ⟨-, buffer, -, rfl⟩ := takeMessage_some htake
  exact clear_intercept (s := { s with buffer }) hs

theorem prefix_of_message {message : Bytes} (htake : s.takeMessage now = (.ok (some message), s')) :
    message <+: s.buffer.contents := by
  obtain ⟨-, buffer, hbuffer, -⟩ := takeMessage_some htake
  rw [(Buffer.contents_take? hbuffer).1]
  exact List.prefix_append message buffer.contents

theorem Wears.message (hs : s.Wears h) {message : Bytes}
    (htake : s.takeMessage now = (.ok (some message), s')) : (s'.fire (.receive message)).Wears h := by
  have hkept := kept_takeMessage s now
  rw [htake] at hkept
  exact (hs.grows hkept.grows).grows (stays_fire s' _).grows

theorem dispatchAll_of_message {message : Bytes} (htake : s.takeMessage now = (.ok (some message), s')) :
    (s.dispatchAll now).2 = ((s'.fire (.receive message)).dispatchAll now).2 ∧
      (s.offers now).filterMap Event.message? =
        message :: ((s'.fire (.receive message)).offers now).filterMap Event.message? := by
  refine ⟨?_, by rw [offers_of_message htake]; rfl⟩
  rw [dispatchAll]
  split
  next heq => rw [htake] at heq; cases heq; rfl
  next heq => rw [htake] at heq; cases heq
  next heq => rw [htake] at heq; cases heq

theorem clear_dispatchAll (hs : s.Wears h) (hclear : ¬ h.Headed s.buffer.contents) (now : Nat) :
    ¬ h.Headed (s.dispatchAll now).2.buffer.contents ∧
      ∀ m ∈ (s.offers now).filterMap Event.message?, ¬ h.Headed m := by
  fun_induction dispatchAll s now with
  | case1 s message s' htake _ n t hrest ih =>
    have hclear' : ¬ h.Headed s'.buffer.contents := clear_message hs htake
    obtain ⟨hafter, hlater⟩ := ih (hs.message htake) hclear'
    rw [hrest] at hafter
    rw [(dispatchAll_of_message htake).2]
    have hfirst : ¬ h.Headed message := fun hheaded => hclear (hheaded.mono (prefix_of_message htake))
    exact ⟨hafter, List.forall_mem_cons.mpr ⟨hfirst, hlater⟩⟩
  | case2 s s' htake =>
    rw [eq_of_takeMessage_none htake, offers_of_none htake]
    exact ⟨hclear, List.forall_mem_nil _⟩
  | case3 s e s' htake =>
    rw [eq_of_takeMessage_error htake, offers_of_error htake]
    exact ⟨hclear, List.forall_mem_nil _⟩

end Session

end SessionEngine
