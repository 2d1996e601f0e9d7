import SessionEngine.Proofs.Conservation
import SessionEngine.Proofs.Session.Stripping

/-! Where the tokens of an attached heartbeat are stripped over a whole run. Nothing but a feed that
succeeds and the taking of messages changes the head of the buffer (`contents_of_not_renews`), and both
leave no whole token there. So once either has happened no token heads the buffer between two operations,
and no message that is taken begins with one (`tokens_stripped`). -/

namespace SessionEngine

variable {ε : Type} [Tls.RecordEngine ε]

namespace Session

variable {s : Session ε} {now : Nat} {h : Heartbeat}

/-- What an operation other than a feed takes off the buffer: nothing; all that a closed session holds; or a
message, and if it is a dispatch then all that comes behind that one. -/
theorem yields_cases {d : Deed} (hd : ∀ data, d ≠ .feed data) (s : Session ε) (now : Nat) :
    (s.yields now d = [] ∧ (s.perform now d).buffer.contents = s.buffer.contents) ∨
    (s.yields now d = [s.buffer.contents] ∧ (s.perform now d).buffer.contents = []) ∨
    ∃ message s', s.takeMessage now = (.ok (some message), s') ∧
      ((s.yields now d = [message] ∧ s.perform now d = s') ∨
        (s.yields now d = message :: ((s'.fire (.receive message)).offers now).filterMap Event.message? ∧
          s.perform now d = ((s'.fire (.receive message)).dispatchAll now).2)) := by
  cases d with
  | feed data => exact absurd rfl (hd data)
  | take =>
    rcases takeMessage_cases s now with ⟨message, s', htake⟩ | htake | ⟨e, htake⟩
    · exact .inr (.inr ⟨message, s', htake, .inl ⟨by simp [yields, htake], by simp [perform, htake]⟩⟩)
    · exact .inl ⟨by simp [yields, htake], by simp [perform, htake]⟩
    · exact .inl ⟨by simp [yields, htake], by simp [perform, htake]⟩
  | look =>
    rcases look_cases s now with ⟨message, s', htake, hlook⟩ | ⟨hnone, hsame⟩ | hlook
    · exact .inr (.inr ⟨message, s', htake, .inl ⟨by simp [yields, hlook], by simp [perform, hlook]⟩⟩)
    · exact .inl ⟨hnone, by simp [perform, hsame]⟩
    · exact .inr (.inl ⟨by simp [yields, hlook], by simp [perform, hlook, withContents]⟩)
  | lastLook =>
    rcases lastLook_cases s now with ⟨message, s', htake, hlook⟩ | ⟨e, hlook⟩
    · exact .inr (.inr ⟨message, s', htake, .inl ⟨by simp [yields, hlook], by simp [perform, hlook]⟩⟩)
    · exact .inl ⟨by simp [yields, hlook], by simp [perform, hlook]⟩
  | dispatch =>
    simp only [yields, fires, perform, dispatch]
    split
    · have hbalance := balance_haul s now
      rcases takeMessage_cases s now with ⟨message, s', htake⟩ | htake | ⟨e, htake⟩
      · obtain ⟨hsession, hmessages⟩ := dispatchAll_of_message htake
        exact .inr (.inr ⟨message, s', htake, .inr ⟨hmessages, hsession⟩⟩)
      · rw [haul_of_none htake] at hbalance
        rw [offers_of_none htake]
        exact .inl ⟨rfl, hbalance.symm⟩
      · rw [haul_of_error htake] at hbalance
        rw [offers_of_error htake]
        exact .inl ⟨rfl, hbalance.symm⟩
    · exact .inl ⟨rfl, rfl⟩
  | send data => exact .inl ⟨rfl, congrArg Buffer.contents (buffer_send s data)⟩
  | attach ping pong role => exact .inl ⟨rfl, congrArg Buffer.contents (buffer_attach s ping pong role)⟩
  | beat slot => exact .inl ⟨rfl, congrArg Buffer.contents (buffer_beat s now slot)⟩
  | establish => exact .inl ⟨rfl, congrArg Buffer.contents (buffer_advance s _ _)⟩
  | close => exact .inl ⟨rfl, contents_close s⟩
  | fire e => exact .inl ⟨rfl, rfl⟩
  | installWriter => exact .inl ⟨rfl, rfl⟩
  | dropWriter => exact .inl ⟨rfl, rfl⟩
  | setMode mode => exact .inl ⟨rfl, rfl⟩

/-- The operation renews the head of the buffer: it is a feed that succeeds, or it takes a message. -/
def Renews (s : Session ε) (now : Nat) (d : Deed) : Prop :=
  (∃ data, d = .feed data ∧ (s.feed now data).1 = .ok ()) ∨ s.yields now d ≠ []

theorem ne_feed_of_yields {d : Deed} (hyields : s.yields now d ≠ []) (data : Bytes) : d ≠ .feed data := by
  rintro rfl
  exact hyields rfl

/-- The first message that an operation takes was at the head of the buffer. -/
theorem prefix_of_yields {d : Deed} {message : Bytes} {more : List Bytes}
    (hyields : s.yields now d = message :: more) : message <+: s.buffer.contents := by
  have hne : s.yields now d ≠ [] := by simp [hyields]
  rcases yields_cases (ne_feed_of_yields hne) s now with
    ⟨hnone, -⟩ | ⟨hall, -⟩ | ⟨first, s', htake, ⟨hfirst, -⟩ | ⟨hfirst, -⟩⟩
  · exact absurd hnone hne
  · obtain ⟨rfl, -⟩ := List.cons.inj (hyields.symm.trans hall)
    exact List.prefix_rfl
  · obtain ⟨rfl, -⟩ := List.cons.inj (hyields.symm.trans hfirst)
    exact prefix_of_message htake
  · obtain ⟨rfl, -⟩ := List.cons.inj (hyields.symm.trans hfirst)
    exact prefix_of_message htake

/-- An operation that does not renew the head of the buffer leaves all that is in it. -/
theorem contents_of_not_renews {d : Deed} (hno : ¬ s.Renews now d) :
    (s.perform now d).buffer.contents = s.buffer.contents := by
  rw [Renews, not_or, not_not] at hno
  obtain ⟨hfeed, hnone⟩ := hno
  by_cases hd : ∃ data, d = .feed data
  · obtain ⟨data, rfl⟩ := hd
    have hfailed : (s.feed now data).1 ≠ .ok () := fun hok => hfeed ⟨data, rfl, hok⟩
    exact congrArg Buffer.contents (unchanged_of_failed hfailed).1
  · rcases yields_cases (fun data hdata => hd ⟨data, hdata⟩) s now with
      ⟨-, hsame⟩ | ⟨hsome, -⟩ | ⟨message, s', -, ⟨hsome, -⟩ | ⟨hsome, -⟩⟩
    · exact hsame
    · rw [hnone] at hsome; cases hsome
    · rw [hnone] at hsome; cases hsome
    · rw [hnone] at hsome; cases hsome

/-- After an operation that renews the head of the buffer no token heads it, and none heads a message that was
taken behind the first one. -/
theorem clear_perform_of_renews (hs : s.Wears h) {d : Deed} (hrenews : s.Renews now d) :
    ¬ h.Headed (s.perform now d).buffer.contents ∧ ∀ m ∈ (s.yields now d).tail, ¬ h.Headed m := by
  rcases hrenews with ⟨data, rfl, hok⟩ | hne
  · exact ⟨clear_feed hs hok, List.forall_mem_nil _⟩
  · rcases yields_cases (ne_feed_of_yields hne) s now with
      ⟨hnone, -⟩ | ⟨hall, hempty⟩ | ⟨message, s', htake, ⟨hone, hafter⟩ | ⟨hmany, hafter⟩⟩
    · exact absurd hnone hne
    · rw [hall, hempty]
      exact ⟨h.not_headed_nil, List.forall_mem_nil _⟩
    · rw [hone, hafter]
      exact ⟨clear_message hs htake, List.forall_mem_nil _⟩
    · have hclear : ¬ h.Headed s'.buffer.contents := clear_message hs htake
      rw [hmany, hafter]
      exact clear_dispatchAll (hs.message htake) hclear now

/-- Where no token heads the buffer none does after an operation, and none heads a message that it takes. -/
theorem clear_perform (hs : s.Wears h) (hclear : ¬ h.Headed s.buffer.contents) (now : Nat) (d : Deed) :
    ¬ h.Headed (s.perform now d).buffer.contents ∧ ∀ m ∈ s.yields now d, ¬ h.Headed m := by
  by_cases hrenews : s.Renews now d
  · obtain ⟨hafter, hlater⟩ := clear_perform_of_renews hs hrenews
    refine ⟨hafter, ?_⟩
    cases hyields : s.yields now d with
    | nil => exact List.forall_mem_nil _
    | cons message more =>
      -- The first message was at the head of the buffer already, and none headed that.
      rw [hyields] at hlater
      have hfirst : ¬ h.Headed message := fun hheaded => hclear (hheaded.mono (prefix_of_yields hyields))
      exact List.forall_mem_cons.mpr ⟨hfirst, hlater⟩
  · rw [contents_of_not_renews hrenews, not_not.mp (not_or.mp hrenews).2]
    exact ⟨hclear, List.forall_mem_nil _⟩

/-! ### Many operations -/

theorem clear_run (hs : s.Wears h) (hclear : ¬ h.Headed s.buffer.contents) (deeds : List (Nat × Deed)) :
    ¬ h.Headed (s.run deeds).buffer.contents ∧ ∀ m ∈ gather yields s deeds, ¬ h.Headed m := by
  induction deeds generalizing s with
  | nil => exact ⟨hclear, List.forall_mem_nil _⟩
  | cons d deeds ih =>
    obtain ⟨now, d⟩ := d
    obtain ⟨hclear', hmessages⟩ := clear_perform hs hclear now d
    obtain ⟨hafter, hlater⟩ := ih (hs.grows (grows_perform s now d)) hclear'
    exact ⟨hafter, List.forall_mem_append.mpr ⟨hmessages, hlater⟩⟩

end Session

open Session in
/-- A session with a heartbeat attached, its tokens any bytes, and any run of operations on it. Once an
operation has renewed the head of the buffer, by a feed that succeeded or by taking a message, no whole
token heads the buffer between two operations, and none heads a message that is taken behind that. Each
feed of a plaintext session that succeeds strips the buffer with the chunk behind it, and each message
that is taken is followed by stripping what stood behind it: tokens come off the head as long as one
stands there, a ping before a pong, a pong is transmitted for each ping, whatever becomes of it, and the
heartbeat is answered exactly if it was or a pong came off. Reads are runs of such operations. -/
theorem tokens_stripped {s : Session ε} {h : Heartbeat} (hattached : s.heartbeat? = some h) :
    (∀ early now d late, (s.run early).Renews now d →
      let t := (s.run early).perform now d
      ¬ h.Headed (t.run late).buffer.contents ∧
        ∀ m ∈ ((s.run early).yields now d).tail ++ gather yields t late, ¬ h.Headed m) ∧
    ∀ deeds,
      let t := s.run deeds
      ∃ g, t.heartbeat? = some g ∧ g.ping = h.ping ∧ g.pong = h.pong ∧
        (s.tls = none → ∀ now data, (t.feed now data).1 = .ok () → ∃ buffer tokens,
          t.buffer.append now data = .ok buffer ∧
            Stripping g tokens { t with buffer } (t.feed now data).2) ∧
        (∀ now message t', t.takeMessage now = (.ok (some message), t') → ∃ buffer tokens,
          t.buffer.take? message.length = some (message, buffer) ∧ Stripping g tokens { t with buffer } t') ∧
        ∀ started others, t.Accounted others (t.read started others) := by
  have hs : s.Wears h := ⟨h, hattached, rfl⟩
  refine ⟨fun early now d late hrenews => ?_, fun deeds => ?_⟩
  · have ht : (s.run early).Wears h := hs.grows (grows_run s early)
    obtain ⟨hclear, hfirst⟩ := clear_perform_of_renews ht hrenews
    obtain ⟨hafter, hlater⟩ := clear_run (ht.grows (grows_perform _ now d)) hclear late
    exact ⟨hafter, List.forall_mem_append.mpr ⟨hfirst, hlater⟩⟩
  · have hgrows := grows_run s deeds
    obtain ⟨g, hattached', hfix⟩ := hs.grows hgrows
    obtain ⟨hping, hrest⟩ := Prod.mk.inj hfix
    obtain ⟨hpong, -⟩ := Prod.mk.inj hrest
    exact ⟨g, hattached', hping, hpong,
      fun hplain now data => stripping_feed (hgrows.plain hplain) hattached',
      fun now message t' => stripping_message hattached', (s.run deeds).accounted_read⟩

/-- The ping begins like the pong, so that no pong is ever found. Two pings come off in front of a line, with
the session not connected and no pong sent, and one behind it. -/
theorem tokens_stripped_overlap :
    let s : Session Empty := ((Session.new 0 (.server "localhost" 6380) .line).attach [7] [7, 8] .initiator).2
    let h := Heartbeat.new [7] [7, 8] .initiator
    let data : Bytes := [7, 7, 8, 10, 7, 105]
    s.heartbeat? = some h ∧ s.tls = none ∧ (s.feed 0 data).1 = .ok () ∧
      Session.gather Session.yields s [(0, .feed data), (0, .take)] = [[8, 10]] ∧
      ¬ h.Headed (s.run [(0, .feed data), (0, .take)]).buffer.contents ∧
      ¬ h.Headed [8, 10] ∧
      ∃ tokens, tokens = [.ping, .ping] ∧ h.Strips data tokens (s.feed 0 data).2.buffer.contents := by
  intro s h data
  have hattached : s.heartbeat? = some h := by decide
  have hok : (s.feed 0 data).1 = .ok () := by decide +kernel
  have hyields : Session.gather Session.yields s [(0, .feed data), (0, .take)] = [[8, 10]] := by
    decide +kernel
  obtain ⟨hclear, hstrips⟩ := tokens_stripped hattached
  obtain ⟨hafter, hmessages⟩ := hclear [] 0 (.feed data) [(0, .take)] (.inl ⟨data, rfl, hok⟩)
  obtain ⟨g, hg, -, -, hfeed, -⟩ := hstrips []
  cases hg.symm.trans hattached
  obtain ⟨buffer, tokens, happend, hstripping⟩ := hfeed rfl 0 data hok
  cases happend
  have htokens : h.strip data = (tokens, (s.feed 0 data).2.buffer.contents) :=
    Heartbeat.strips_iff.mp hstripping.strips
  have hstrip : h.strip data = ([.ping, .ping], [8, 10, 7, 105]) := by decide +kernel
  refine ⟨hattached, rfl, hok, hyields, hafter, hmessages [8, 10] (by decide +kernel), tokens, ?_,
    hstripping.strips⟩
  rw [hstrip] at htokens
  exact (Prod.mk.inj htokens).1.symm

end SessionEngine
