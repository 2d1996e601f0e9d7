import SessionEngine.Proofs.Session.Ledger

/-! What becomes of the bytes that a plaintext session takes in, whatever its splitter answers and
whatever is done to it. A read is a run of looks between which others feed or close the session
(`accounted_read`), so the ledger of operations accounts for reads as well. -/

namespace SessionEngine

variable {ε : Type}

def Intrusion.deed : Intrusion → Deed
  | .feed data => .feed data
  | .close => .close

variable [Tls.RecordEngine ε]

def Deed.isLook : Deed → Bool
  | .look | .lastLook => true
  | _ => false

namespace Session

/-- The operation is refused, or fails. -/
def Fails (s : Session ε) (now : Nat) : Deed → Prop
  | .send data => ∃ e, (s.send data).1 = .error e
  | .feed data => ∃ e, (s.feed now data).1 = .error e
  | .take => ∃ e, (s.takeMessage now).1 = .error e
  | .look => ∃ e, (s.look now).1 = some (.error e)
  | .lastLook => ∃ e, (s.lastLook now).1 = .error e
  | _ => False

theorem takings_of_error {s : Session ε} {now : Nat} {e : Error}
    (h : (s.takeMessage now).1 = .error e) : s.takings now = [] := by
  simp only [takings, h]

/-- An operation that fails adds nothing and takes nothing off. -/
theorem Fails.idle {s : Session ε} {now : Nat} {d : Deed} (h : s.Fails now d) :
    s.intake now d = [] ∧ s.outlay now d = [] := by
  cases d with
  | send data => exact ⟨rfl, rfl⟩
  | feed data =>
    obtain ⟨e, he⟩ := h
    simp only [intake, outlay, he]
    exact ⟨rfl, rfl⟩
  | take =>
    obtain ⟨e, he⟩ := h
    exact ⟨rfl, takings_of_error he⟩
  | look =>
    obtain ⟨e, he⟩ := h
    refine ⟨rfl, ?_⟩
    rcases takeMessage_cases s now with ⟨message, s', htake⟩ | htake | ⟨e', htake⟩
    · simp [look, htake] at he
    · simp [outlay, takings, htake, he]
    · simp [outlay, takings, htake]
  | lastLook =>
    obtain ⟨e, he⟩ := h
    refine ⟨rfl, ?_⟩
    rcases takeMessage_cases s now with ⟨message, s', htake⟩ | htake | ⟨e', htake⟩
    · simp [lastLook, htake] at he
    · simp [outlay, takings, htake]
    · simp [outlay, takings, htake]
  | _ => cases h

/-! ### Reads -/

/-- The message that a reader has got, if it got one. -/
def gained : Option (Except Error Bytes) → List Bytes
  | some (.ok message) => [message]
  | _ => []

/-- While a reader goes on from `s` to `s'`, with or without a result, `deeds` is what happens: its
looks, and between them what others do. -/
structure Reading (s : Session ε) (deeds : List (Nat × Deed)) (others : List (Nat × Intrusion))
    (result : Option (Except Error Bytes)) (s' : Session ε) : Prop where
  session : s.run deeds = s'
  gained : gather yields s deeds = gained result
  others : deeds.filter (!·.2.isLook) = others.map fun x => (x.1, x.2.deed)

theorem Reading.append {s s' s'' : Session ε} {deeds more : List (Nat × Deed)}
    {others rest : List (Nat × Intrusion)} {result : Option (Except Error Bytes)}
    (h : s.Reading deeds others none s') (h' : s'.Reading more rest result s'') :
    s.Reading (deeds ++ more) (others ++ rest) result s'' := by
  refine ⟨?_, ?_, ?_⟩
  · rw [run_append, h.session, h'.session]
  · rw [gather_append, h.gained, h.session, h'.gained]
    rfl
  · rw [List.filter_append, h.others, h'.others, List.map_append]

theorem reading_look (s : Session ε) (now : Nat) :
    s.Reading [(now, .look)] [] (s.look now).1 (s.look now).2 :=
  ⟨rfl, List.append_nil _, rfl⟩

theorem reading_lastLook (s : Session ε) (now : Nat) :
    s.Reading [(now, .lastLook)] [] (some (s.lastLook now).1) (s.lastLook now).2 := by
  refine ⟨rfl, ?_, rfl⟩
  simp only [gather, yields, List.append_nil]
  cases (s.lastLook now).1 <;> rfl

theorem reading_intrude (s : Session ε) (now : Nat) (act : Intrusion) :
    s.Reading [(now, act.deed)] [(now, act)] none (s.intrude now act) := by
  cases act <;> exact ⟨rfl, rfl, rfl⟩

theorem reading_pass (s : Session ε) (started now : Nat) :
    ∃ deeds, s.Reading deeds [] (s.pass started now).1 (s.pass started now).2 := by
  have hlook := reading_look s now
  unfold pass
  split
  next result s' h =>
    rw [h] at hlook
    exact ⟨_, hlook⟩
  next s' h =>
    rw [h] at hlook
    split
    · exact ⟨_, hlook⟩
    · exact ⟨_, hlook.append (reading_lastLook s' now)⟩

/-- A read that is over was a run of looks and of the first of what others do. -/
def Accounted (s : Session ε) (others : List (Nat × Intrusion)) (e : ReadEnd ε) : Prop :=
  ∃ deeds before, others = before ++ e.later ∧ s.Reading deeds before (some e.result) e.session

theorem Reading.accounted {s s' : Session ε} {deeds : List (Nat × Deed)}
    {before others : List (Nat × Intrusion)} {e : ReadEnd ε} (h : s.Reading deeds before none s')
    (h' : s'.Accounted others e) : s.Accounted (before ++ others) e := by
  obtain ⟨more, rest, rfl, hrest⟩ := h'
  exact ⟨_, before ++ rest, (List.append_assoc ..).symm, h.append hrest⟩

theorem accounted_expire (s : Session ε) (started : Nat) (later : List (Nat × Intrusion)) :
    s.Accounted later (s.expire started later) := by
  obtain ⟨deeds, hpass⟩ := reading_pass s started (s.deadline started)
  unfold expire
  dsimp only
  split
  next result s' h =>
    rw [h] at hpass
    exact ⟨deeds, [], rfl, hpass⟩
  next s' h =>
    rw [h] at hpass
    exact ⟨_, [], rfl, hpass.append (reading_lastLook s' _)⟩

theorem accounted_sleep (s : Session ε) (started : Nat) (seen : UInt64)
    (others : List (Nat × Intrusion)) : s.Accounted others (s.sleep started seen others) := by
  induction others generalizing s seen with
  | nil => exact accounted_expire s started []
  | cons other rest ih =>
    obtain ⟨time, act⟩ := other
    have hact := reading_intrude s time act
    unfold sleep
    split
    · exact accounted_expire s started _
    · dsimp only
      split
      -- The reader looks again only where the buffer has changed.
      · obtain ⟨deeds, hpass⟩ := reading_pass (s.intrude time act) started time
        split
        next result s' h =>
          rw [h] at hpass
          exact ⟨_, [(time, act)], rfl, hact.append hpass⟩
        next s' h =>
          rw [h] at hpass
          exact hact.accounted (hpass.accounted (ih s' _))
      · exact hact.accounted (ih _ seen)

theorem accounted_read (s : Session ε) (started : Nat) (others : List (Nat × Intrusion)) :
    s.Accounted others (s.read started others) := by
  obtain ⟨deeds, hpass⟩ := reading_pass s started started
  unfold read
  split
  next result s' h =>
    rw [h] at hpass
    exact ⟨deeds, [], rfl, hpass⟩
  next s' h =>
    rw [h] at hpass
    exact hpass.accounted (accounted_sleep s' started _ others)

end Session

/-- No byte of a plaintext session is lost, doubled or moved, whatever its splitter answers: what was
in the buffer and what feeds took in since is what was taken off it, in order, and what is in it now.
Each segment that was taken off is a message that a reader got or that was fired as received, or a token
of the attached heartbeat; an operation that fails adds and takes off nothing; and a read is a run of
such operations. -/
theorem bytes_conserved {s : Session ε} (hplain : s.tls = none) (deeds : List (Nat × Deed)) :
    let used := Session.gather Session.outlay s deeds
    let t := s.run deeds
    s.buffer.contents ++ Session.gather Session.intake s deeds =
        used.flatMap Segment.bytes ++ t.buffer.contents ∧
      used.filterMap Segment.message? = Session.gather Session.yields s deeds ∧
      t.events = (Session.gather Session.fires s deeds).foldl EventQueue.fire s.events ∧
      (∀ data, .token data ∈ used → t.Beats data) ∧
      (∀ now d, t.Fails now d →
        t.outlay now d = [] ∧ (t.perform now d).buffer.contents = t.buffer.contents) ∧
      ∀ started others, t.Accounted others (t.read started others) := by
  intro used t
  refine ⟨Session.balance_run hplain deeds, Session.messages_gather s deeds,
    Session.events_run s deeds, fun data => Session.beats_gather, fun now d hfails => ?_, t.accounted_read⟩
  obtain ⟨hintake, houtlay⟩ := hfails.idle
  have hbalance := Session.balance_perform ((Session.grows_run s deeds).plain hplain) now d
  rw [hintake, houtlay, List.append_nil] at hbalance
  exact ⟨houtlay, hbalance.symm⟩

/-- A heartbeat is attached late, a chunk is refused, and the last bytes have no line feed. -/
theorem bytes_conserved_late_heartbeat :
    let s : Session Empty := .new 0 { Settings.server "localhost" 6380 with maxBuffer := 8 } .line
    let deeds : List (Nat × Deed) := [.feed [104, 10, 7], .attach [7] [8] .initiator, .look,
      .feed [105, 105, 105, 105, 105, 105, 105, 105, 105], .feed [8, 105], .look, .close,
      .look].map (0, ·)
    s.tls = none ∧
      Session.gather Session.outlay s deeds =
        [.message [104, 10], .token [7], .token [8], .message [105]] ∧
      Session.gather Session.intake s deeds = [104, 10, 7, 8, 105] ∧
      Session.gather Session.yields s deeds = [[104, 10], [105]] := by
  intro s deeds
  have hplain : s.tls = none := rfl
  have hused : Session.gather Session.outlay s deeds =
      [.message [104, 10], .token [7], .token [8], .message [105]] := by decide +kernel
  obtain ⟨hbalance, hmessages, -⟩ := bytes_conserved hplain deeds
  have hempty : (s.run deeds).buffer.contents = [] := by decide +kernel
  refine ⟨hplain, hused, ?_, ?_⟩
  · rw [hused, hempty] at hbalance
    exact hbalance
  · rw [← hmessages, hused]
    rfl

end SessionEngine
