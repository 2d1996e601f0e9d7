import SessionEngine.Proofs.Session.Deed
import SessionEngine.Session.Read

/-! The bytes of a plaintext session, from the feeds that took them in to those who got them. `intake`
is what an operation adds to the buffer and `outlay` what it takes off it; `balance_perform` holds them
against each other for one operation, and `balance_run` for any number of them. -/

namespace SessionEngine.Session

variable {ε : Type}

theorem buffer_attach (s : Session ε) (ping pong : Bytes) (role : BeatRole) :
    (s.attach ping pong role).2.buffer = s.buffer := by
  rcases attach_cases s ping pong role with h | ⟨-, attributes, h⟩ <;> rw [h]

theorem buffer_advance (s : Session ε) (source target : Stage) :
    (s.advance source target).2.buffer = s.buffer := by
  unfold advance; split <;> rfl

theorem heartbeat?_eq_some {s : Session ε} {h : Heartbeat} :
    s.heartbeat? = some h ↔ ∃ slot, s.heartbeatSlot? = some slot ∧ s.heartbeats[slot]? = some h := by
  simp [heartbeat?, Option.bind_eq_some_iff]

/-- An attached heartbeat stays, with its tokens. -/
theorem Grows.heartbeat? {s s' : Session ε} (hgrows : Grows s s') {h : Heartbeat}
    (hbeat : s.heartbeat? = some h) : ∃ h', s'.heartbeat? = some h' ∧ fixture h' = fixture h := by
  obtain ⟨slot, hslot, hplace⟩ := heartbeat?_eq_some.mp hbeat
  obtain ⟨tail, htail⟩ := hgrows.fixtures
  have hfix : (s'.heartbeats.map fixture)[slot]? = some (fixture h) := by
    have hlt : slot < (s.heartbeats.map fixture).length := by
      obtain ⟨hlt, -⟩ := List.getElem?_eq_some_iff.mp hplace
      rwa [List.length_map]
    rw [← htail, List.getElem?_append_left hlt, List.getElem?_map, hplace]
    rfl
  rw [List.getElem?_map] at hfix
  obtain ⟨h', hplace', heq⟩ := Option.map_eq_some_iff.mp hfix
  exact ⟨h', heartbeat?_eq_some.mpr ⟨slot, hgrows.slot slot hslot, hplace'⟩, heq⟩

/-- The data is the ping or the pong of the attached heartbeat. -/
def Beats (s : Session ε) (data : Bytes) : Prop :=
  ∃ h, s.heartbeat? = some h ∧ (data = h.ping ∨ data = h.pong)

theorem Grows.beats {s s' : Session ε} (hgrows : Grows s s') {data : Bytes} (hdata : s.Beats data) :
    s'.Beats data := by
  obtain ⟨h, hbeat, htoken⟩ := hdata
  obtain ⟨h', hbeat', hfix⟩ := hgrows.heartbeat? hbeat
  obtain ⟨hping, hrest⟩ := Prod.mk.inj hfix
  obtain ⟨hpong, -⟩ := Prod.mk.inj hrest
  exact ⟨h', hbeat', by rw [hping, hpong]; exact htoken⟩

theorem beats_tokens {s : Session ε} {contents data : Bytes}
    (h : .token data ∈ (s.withContents contents).tokens) : s.Beats data := by
  unfold tokens at h
  split at h
  · cases h
  next beat hbeat =>
    obtain ⟨token, -, heq⟩ := List.mem_map.mp h
    cases heq
    refine ⟨beat, hbeat, ?_⟩
    cases token
    · exact .inl rfl
    · exact .inr rfl

variable [Tls.RecordEngine ε]

/-- The bytes that an operation adds to the buffer: a chunk that is not refused. -/
def intake (s : Session ε) (now : Nat) : Deed → Bytes
  | .feed data => if (s.feed now data).1 = .ok () then data else []
  | _ => []

def takings (s : Session ε) (now : Nat) : List Segment :=
  match (s.takeMessage now).1 with
  | .ok (some message) => .message message :: s.tokensBehind message
  | _ => []

/-- The segments that an operation takes off the buffer, in order. -/
def outlay (s : Session ε) (now : Nat) : Deed → List Segment
  | .feed data =>
    if (s.feed now data).1 = .ok () then (s.withContents (s.buffer.contents ++ data)).tokens else []
  | .take | .lastLook => s.takings now
  | .look =>
    match (s.takeMessage now).1, (s.look now).1 with
    | .ok none, some (.ok rest) => [.message rest]
    | _, _ => s.takings now
  | .dispatch => if s.settings.handled then (s.haul now).1 else []
  | _ => []

/-- The messages that an operation gives to a reader or hands over as receive events. -/
def yields (s : Session ε) (now : Nat) : Deed → List Bytes
  | .take => match (s.takeMessage now).1 with
    | .ok (some message) => [message]
    | _ => []
  | .look => match (s.look now).1 with
    | some (.ok message) => [message]
    | _ => []
  | .lastLook => match (s.lastLook now).1 with
    | .ok message => [message]
    | _ => []
  | .dispatch => (s.fires now .dispatch).filterMap Event.message?
  | _ => []

/-! ### One operation -/

theorem takeMessage_cases (s : Session ε) (now : Nat) :
    (∃ message s', s.takeMessage now = (.ok (some message), s')) ∨
      s.takeMessage now = (.ok none, s) ∨ ∃ e, s.takeMessage now = (.error e, s) := by
  unfold takeMessage
  split
  next e _ => exact .inr (.inr ⟨e, rfl⟩)
  · exact .inr (.inl rfl)
  · split
    · exact .inr (.inr ⟨_, rfl⟩)
    · split
      · exact .inr (.inr ⟨_, rfl⟩)
      next message buffer _ => exact .inl ⟨message, _, rfl⟩

theorem eq_of_takeMessage_none {s s' : Session ε} {now : Nat} (h : s.takeMessage now = (.ok none, s')) :
    s' = s := by
  rcases takeMessage_cases s now with ⟨message, t, h'⟩ | h' | ⟨e, h'⟩ <;> rw [h'] at h <;> cases h
  rfl

theorem eq_of_takeMessage_error {s s' : Session ε} {now : Nat} {e : Error}
    (h : s.takeMessage now = (.error e, s')) : s' = s := by
  rcases takeMessage_cases s now with ⟨message, t, h'⟩ | h' | ⟨e', h'⟩ <;> rw [h'] at h <;> cases h
  rfl

/-- What stands behind a message is stripped when it is taken. -/
theorem eq_intercept_of_message {s s' : Session ε} {now : Nat} {message : Bytes}
    (h : s.takeMessage now = (.ok (some message), s')) :
    s' = (s.withContents (s.buffer.contents.drop message.length)).intercept := by
  obtain ⟨-, buffer, htake, rfl⟩ := takeMessage_some h
  unfold Buffer.take? at htake
  split at htake
  · rw [← (Prod.mk.inj (Option.some.inj htake)).2]
    rfl
  · cases htake

/-- A look leaves what taking a message leaves, but for the buffer of a closed session. -/
theorem look_snd (s : Session ε) (now : Nat) :
    ∃ buffer, (s.look now).2 = { (s.takeMessage now).2 with buffer } := by
  unfold look
  split
  next s' h => exact ⟨s'.buffer, by rw [h]⟩
  next s' h => exact ⟨s'.buffer, by rw [h]⟩
  next s' h =>
    rw [h]
    split
    · exact ⟨s'.buffer, rfl⟩
    · split
      · exact ⟨s'.buffer, rfl⟩
      · exact ⟨_, rfl⟩

theorem lastLook_snd (s : Session ε) (now : Nat) : (s.lastLook now).2 = (s.takeMessage now).2 := by
  unfold lastLook
  split
  next h => rw [h]
  next h => rw [h]
  next h => rw [h]

/-- Stripping takes the tokens off the buffer and nothing else. -/
theorem balance_intercept (s : Session ε) :
    s.buffer.contents = s.tokens.flatMap Segment.bytes ++ s.intercept.buffer.contents := by
  unfold intercept tokens heartbeat?
  cases hslot : s.heartbeatSlot? with
  | none => rfl
  | some slot =>
    simp only [Option.bind_some, contents_interceptWith]
    cases s.heartbeats[slot]? with
    | none => rfl
    | some h =>
      have hstrip := h.flatten_strip s.buffer.contents
      simp only [List.flatMap_map, Segment.bytes]
      exact hstrip.symm

theorem balance_feed {s : Session ε} (hplain : s.tls = none) (now : Nat) (data : Bytes) :
    s.buffer.contents ++ s.intake now (.feed data) =
      (s.outlay now (.feed data)).flatMap Segment.bytes ++ (s.feed now data).2.buffer.contents := by
  have hfeed : s.feed now data = s.feedPlaintext now data := by rw [feed, hplain]
  simp only [intake, outlay, hfeed, feedPlaintext]
  cases happend : s.buffer.append now data with
  | error cause => simp
  | ok buffer =>
    have hcontents := Buffer.contents_append happend
    have hbalance := balance_intercept { s with buffer }
    simp only [if_true]
    rw [← hcontents]
    exact hbalance

theorem balance_message {s s' : Session ε} {now : Nat} {message : Bytes}
    (h : s.takeMessage now = (.ok (some message), s')) :
    s.buffer.contents =
      message ++ ((s.tokensBehind message).flatMap Segment.bytes ++ s'.buffer.contents) := by
  obtain ⟨-, buffer, htake, rfl⟩ := takeMessage_some h
  have hcontents := (Buffer.contents_take? htake).1
  have hbehind : s.tokensBehind message = ({ s with buffer } : Session ε).tokens := by
    rw [tokensBehind, hcontents, List.drop_left]
    rfl
  rw [hcontents, hbehind]
  exact congrArg (message ++ ·) (balance_intercept { s with buffer })

theorem balance_take (s : Session ε) (now : Nat) :
    s.buffer.contents =
      (s.takings now).flatMap Segment.bytes ++ (s.takeMessage now).2.buffer.contents := by
  rcases takeMessage_cases s now with ⟨message, s', h⟩ | h | ⟨e, h⟩
  · simp only [takings, h, List.flatMap_cons, Segment.bytes, List.append_assoc]
    exact balance_message h
  · simp [takings, h]
  · simp [takings, h]

theorem balance_look (s : Session ε) (now : Nat) :
    s.buffer.contents =
      (s.outlay now .look).flatMap Segment.bytes ++ (s.look now).2.buffer.contents := by
  have htake := balance_take s now
  rcases takeMessage_cases s now with ⟨message, s', h⟩ | h | ⟨e, h⟩
  · simpa [outlay, look, h] using htake
  · simp only [outlay, look, h, takings]
    by_cases hclosed : s.buffer.closed = true
    · by_cases hempty : s.buffer.isEmpty = true
      · simp [hclosed, hempty]
      · simp [hclosed, hempty, Buffer.takeAll, Segment.bytes]
    · simp [hclosed]
  · simpa [outlay, look, h] using htake

theorem balance_lastLook (s : Session ε) (now : Nat) :
    s.buffer.contents =
      (s.takings now).flatMap Segment.bytes ++ (s.lastLook now).2.buffer.contents := by
  rw [lastLook_snd]
  exact balance_take s now

theorem balance_haul (s : Session ε) (now : Nat) :
    s.buffer.contents =
      (s.haul now).1.flatMap Segment.bytes ++ (s.dispatchAll now).2.buffer.contents := by
  fun_induction dispatchAll s now with
  | case1 s message s' h _ n t hrest ih =>
    rw [hrest] at ih
    rw [balance_message h, haul_of_message h, ← buffer_fire s' (.receive message), ih]
    simp only [List.cons_append, List.flatMap_cons, List.flatMap_append, Segment.bytes,
      List.append_assoc]
  | case2 s s' h =>
    obtain rfl := eq_of_takeMessage_none h
    rw [haul_of_none h]
    rfl
  | case3 s e s' h =>
    obtain rfl := eq_of_takeMessage_error h
    rw [haul_of_error h]
    rfl

theorem balance_dispatch (s : Session ε) (now : Nat) :
    s.buffer.contents =
      (s.outlay now .dispatch).flatMap Segment.bytes ++ (s.dispatch now).2.buffer.contents := by
  by_cases hhandled : s.settings.handled = true
  · simp only [outlay, dispatch, if_pos hhandled]
    exact balance_haul s now
  · simp only [outlay, dispatch, if_neg hhandled]
    rfl

theorem buffer_send (s : Session ε) (data : Bytes) : (s.send data).2.buffer = s.buffer := by
  rcases send_cases s data with h | ⟨e, h⟩ <;> simp [h]

theorem buffer_beat (s : Session ε) (now slot : Nat) : (s.beat now slot).2.buffer = s.buffer := by
  unfold beat
  split
  · rfl
  next h _ =>
    have hsent := buffer_transmit (s.setHeartbeat slot (h.beat now)) h.ping
    dsimp only
    split
    next mode s' he => rw [he] at hsent; exact hsent
    next e s' he => rw [he] at hsent; exact hsent

theorem contents_close (s : Session ε) : s.close.2.buffer.contents = s.buffer.contents := by
  rcases close_cases s with ⟨-, h⟩ | ⟨-, writer, tls, -, h⟩
  · rw [h]
  · rw [h]
    exact Buffer.contents_close s.buffer

/-- What an operation takes off the buffer is what was in it and what the operation adds, less what is
in it then. -/
theorem balance_perform {s : Session ε} (hplain : s.tls = none) (now : Nat) (d : Deed) :
    s.buffer.contents ++ s.intake now d =
      (s.outlay now d).flatMap Segment.bytes ++ (s.perform now d).buffer.contents := by
  cases d with
  | feed data => exact balance_feed hplain now data
  | take => exact (List.append_nil _).trans (balance_take s now)
  | dispatch => exact (List.append_nil _).trans (balance_dispatch s now)
  | look => exact (List.append_nil _).trans (balance_look s now)
  | lastLook => exact (List.append_nil _).trans (balance_lastLook s now)
  | send data => simp [intake, outlay, perform, buffer_send]
  | attach ping pong role => simp [intake, outlay, perform, buffer_attach]
  | beat slot => simp [intake, outlay, perform, buffer_beat]
  | establish => simp [intake, outlay, perform, buffer_advance]
  | close => simp [intake, outlay, perform, contents_close]
  | fire e => simp [intake, outlay, perform]
  | installWriter => simp [intake, outlay, perform]
  | dropWriter => simp [intake, outlay, perform]
  | setMode mode => simp [intake, outlay, perform]

theorem messages_takings (s : Session ε) (now : Nat) :
    (s.takings now).filterMap Segment.message? = s.yields now .take := by
  unfold takings yields
  split
  next message h => simp [Segment.message?, tokensBehind, messages_tokens]
  next h => split <;> simp_all

theorem messages_offers (s : Session ε) (now : Nat) :
    (s.offers now).filterMap Event.message? = (s.haul now).1.filterMap Segment.message? := by
  have hreceive : Event.message? ∘ Event.receive = some := rfl
  simp only [offers, List.filterMap_append, List.filterMap_map, hreceive, List.filterMap_some]
  cases (s.haul now).2 <;> exact List.append_nil _

theorem messages_outlay (s : Session ε) (now : Nat) (d : Deed) :
    (s.outlay now d).filterMap Segment.message? = s.yields now d := by
  cases d with
  | feed data =>
    simp only [outlay, yields]
    split
    · exact messages_tokens _
    · rfl
  | take => exact messages_takings s now
  | dispatch =>
    simp only [outlay, yields, fires]
    split
    · exact (messages_offers s now).symm
    · rfl
  | look =>
    have htake := messages_takings s now
    rcases takeMessage_cases s now with ⟨message, s', h⟩ | h | ⟨e, h⟩
    · simpa [outlay, yields, look, h] using htake
    · simp only [outlay, yields, look, h, takings]
      by_cases hclosed : s.buffer.closed = true
      · by_cases hempty : s.buffer.isEmpty = true
        · simp [hclosed, hempty]
        · simp [hclosed, hempty, Buffer.takeAll, Segment.message?]
      · simp [hclosed]
    · simpa [outlay, yields, look, h] using htake
  | lastLook =>
    have htake := messages_takings s now
    rcases takeMessage_cases s now with ⟨message, s', h⟩ | h | ⟨e, h⟩ <;>
      simpa [outlay, yields, lastLook, h] using htake
  | _ => rfl

/-! ### The tokens -/

theorem beats_haul {s : Session ε} {now : Nat} {data : Bytes} (h : .token data ∈ (s.haul now).1) :
    (s.dispatchAll now).2.Beats data := by
  fun_induction dispatchAll s now with
  | case1 s message s' htake _ n t hrest ih =>
    rw [hrest] at ih
    rw [haul_of_message htake, List.cons_append, List.mem_cons, List.mem_append] at h
    rcases h with h | h | h
    · cases h
    · have hkept := kept_takeMessage s now
      have hstays := stays_dispatchAll (s'.fire (.receive message)) now
      rw [htake] at hkept
      rw [hrest] at hstays
      have hall := (hkept.toStays.trans (stays_fire s' (.receive message))).trans hstays
      exact hall.grows.beats (beats_tokens h)
    · exact ih h
  | case2 s s' htake => rw [haul_of_none htake] at h; cases h
  | case3 s e s' htake => rw [haul_of_error htake] at h; cases h

theorem beats_takings {s : Session ε} {now : Nat} {data : Bytes} (h : .token data ∈ s.takings now) :
    s.Beats data := by
  unfold takings at h
  split at h
  next message _ =>
    rcases List.mem_cons.mp h with h | h
    · cases h
    · exact beats_tokens h
  · cases h

/-- Whatever leaves the buffer and is no message is a token of the attached heartbeat. -/
theorem beats_outlay {s : Session ε} {now : Nat} {d : Deed} {data : Bytes}
    (h : .token data ∈ s.outlay now d) : (s.perform now d).Beats data := by
  have hgrows := grows_perform s now d
  cases d with
  | feed chunk =>
    simp only [outlay] at h
    split at h
    · exact hgrows.beats (beats_tokens h)
    · cases h
  | take => exact hgrows.beats (beats_takings h)
  | lastLook => exact hgrows.beats (beats_takings h)
  | look =>
    simp only [outlay] at h
    split at h
    · simp at h
    · exact hgrows.beats (beats_takings h)
  | dispatch =>
    simp only [outlay] at h
    split at h
    next hhandled =>
      simp only [perform, dispatch, if_pos hhandled]
      exact beats_haul h
    · cases h
  | _ => cases h

/-! ### Many operations -/

def run (s : Session ε) (deeds : List (Nat × Deed)) : Session ε :=
  deeds.foldl (fun s d => s.perform d.1 d.2) s

/-- What operations at their times come to, each where its turn is. -/
def gather {α : Type} (of : Session ε → Nat → Deed → List α) :
    Session ε → List (Nat × Deed) → List α
  | _, [] => []
  | s, (now, d) :: deeds => of s now d ++ gather of (s.perform now d) deeds

theorem run_append (s : Session ε) (deeds more : List (Nat × Deed)) :
    s.run (deeds ++ more) = (s.run deeds).run more := List.foldl_append

theorem gather_append {α : Type} (of : Session ε → Nat → Deed → List α) (s : Session ε)
    (deeds more : List (Nat × Deed)) :
    gather of s (deeds ++ more) = gather of s deeds ++ gather of (s.run deeds) more := by
  induction deeds generalizing s with
  | nil => rfl
  | cons d deeds ih =>
    obtain ⟨now, d⟩ := d
    simp only [List.cons_append, gather, ih, List.append_assoc]
    rfl

theorem grows_run (s : Session ε) (deeds : List (Nat × Deed)) : Grows s (s.run deeds) := by
  induction deeds generalizing s with
  | nil => exact (Stays.refl s).grows
  | cons d deeds ih => exact (grows_perform s d.1 d.2).trans (ih _)

theorem events_run (s : Session ε) (deeds : List (Nat × Deed)) :
    (s.run deeds).events = (gather fires s deeds).foldl EventQueue.fire s.events := by
  induction deeds generalizing s with
  | nil => rfl
  | cons d deeds ih =>
    rw [gather, List.foldl_append, ← events_perform]
    exact ih _

theorem balance_run {s : Session ε} (hplain : s.tls = none) (deeds : List (Nat × Deed)) :
    s.buffer.contents ++ gather intake s deeds =
      (gather outlay s deeds).flatMap Segment.bytes ++ (s.run deeds).buffer.contents := by
  induction deeds generalizing s with
  | nil => exact List.append_nil _
  | cons d deeds ih =>
    obtain ⟨now, d⟩ := d
    have hstep := balance_perform hplain now d
    have hrest := ih ((grows_perform s now d).plain hplain)
    simp only [gather, List.flatMap_append, List.append_assoc]
    rw [← List.append_assoc, hstep, List.append_assoc, hrest]
    rfl

theorem messages_gather (s : Session ε) (deeds : List (Nat × Deed)) :
    (gather outlay s deeds).filterMap Segment.message? = gather yields s deeds := by
  induction deeds generalizing s with
  | nil => rfl
  | cons d deeds ih => simp only [gather, List.filterMap_append, messages_outlay, ih]

theorem beats_gather {s : Session ε} {deeds : List (Nat × Deed)} {data : Bytes}
    (h : .token data ∈ gather outlay s deeds) : (s.run deeds).Beats data := by
  induction deeds generalizing s with
  | nil => cases h
  | cons d deeds ih =>
    rcases List.mem_append.mp h with h | h
    · exact (grows_run _ deeds).beats (beats_outlay h)
    · exact ih h

end SessionEngine.Session
