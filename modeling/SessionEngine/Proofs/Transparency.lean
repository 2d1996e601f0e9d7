import SessionEngine.Proofs.Course.Sieve
import SessionEngine.Proofs.Heartbeat.Lines

/-! A heartbeat does not show in the lines that a session receives: lines and tokens that can be told
apart blend under line framing, and `Course.Sieves` divides the stream into them. -/

namespace SessionEngine

variable {ε : Type} [Tls.RecordEngine ε]

/-- A heartbeat does not show in the lines that a session receives, however the stream is cut into
chunks: the messages are the lines, in order, and nothing stays in the buffer; each ping was answered
with one pong, and nothing else was written; and the heartbeat knows whether a pong has come. What is
fired goes through the queue to the handler. -/
theorem lines_transparent {handler : Handler μ ε} (hquiet : handler.Quiet) {h : Heartbeat}
    {items : List Item} (hmixes : h.Mixes items) {s : Session ε} {slot : Nat} (hs : s.Beating slot h)
    (hhandled : s.settings.handled = true) (hsplitter : s.splitter = .line)
    (hempty : s.buffer.contents = []) (memory : μ) {chunks : List Bytes}
    (hstream : chunks.flatten = items.flatMap (Item.bytes h)) {moves : List (Nat × Move)}
    (hmoves : moves.filterMap (·.2.deed?) = Deed.ofChunks chunks)
    (hadmits : (Course.start s memory).Admits handler moves)
    (hstays : ((Course.start s memory).run handler moves).session.stage = .connected) :
    let c := (Course.start s memory).run handler moves
    c.fired.filterMap Event.message? = items.filterMap Item.body? ∧
      c.session.buffer.contents = [] ∧
      c.session.writer.taken =
        s.writer.taken ++ List.replicate (items.count (.token .ping)) h.pong ∧
      c.session.heartbeat?.map Heartbeat.answered =
        some (h.answered || decide (.token .pong ∈ items)) ∧
      c.Replays s.events := by
  intro c
  obtain ⟨hc, hrest⟩ := Course.sieves_whole hquiet hmixes.blends hs hhandled hsplitter hempty memory
    hstream hmoves hadmits hstays
  exact ⟨hc.messages, hrest, hc.taken, hc.answered, Course.replays_run handler s memory moves⟩

/-- Tokens before, between and behind two lines, and two of them cut in half. -/
theorem lines_transparent_cut_tokens :
    let handler : Handler Unit Empty := ⟨fun _ _ => .nothing ()⟩
    let h : Heartbeat := .new [80, 73] [80, 79] .initiator
    let items : List Item :=
      [.token .ping, .body [97, 10], .token .pong, .token .ping, .body [98, 98, 10], .token .ping]
    let s : Session Empty := (Session.new 0 { Settings.server "localhost" 6380 with handled := true }
      .line).run [(0, .installWriter), (0, .establish), (0, .attach [80, 73] [80, 79] .initiator)]
    let moves : List (Nat × Move) := [.deed (.feed [80]), .deed .dispatch,
      .deed (.feed [73, 97, 10, 80, 79, 80]), .tell, .deed .dispatch, .tell, .act,
      .deed (.feed [73, 98, 98, 10, 80, 73]), .deed .dispatch].map (0, ·)
    let c := (Course.start s ()).run handler moves
    (handler.Quiet ∧ h.Mixes items ∧ s.Beating 0 h ∧ c.session.stage = .connected) ∧
      c.fired.filterMap Event.message? = [[97, 10], [98, 98, 10]] ∧
      c.session.writer.taken = [[80, 79], [80, 79], [80, 79]] ∧
      c.session.heartbeat?.map Heartbeat.answered = some true := by
  intro handler h items s moves c
  have hquiet : handler.Quiet := fun _ _ => .inl rfl
  have hdistinct : h.Distinct := by
    refine ⟨fun t => ?_, fun {t t'} => ?_⟩
    · cases t <;> decide
    · cases t <;> cases t' <;> decide
  have hmixes : h.Mixes items := by
    refine ⟨hdistinct, fun t => ?_, fun data hdata => ?_⟩
    · cases t <;> decide
    · simp only [items, List.mem_cons, reduceCtorEq, Item.body.injEq, List.not_mem_nil, false_or,
        or_false] at hdata
      rcases hdata with rfl | rfl
      · refine ⟨⟨[97], rfl, by decide⟩, fun t => ?_⟩
        cases t <;> decide
      · refine ⟨⟨[98, 98], rfl, by decide⟩, fun t => ?_⟩
        cases t <;> decide
  have hs : s.Beating 0 h := ⟨rfl, rfl, ⟨rfl, rfl⟩, by decide +kernel, by decide +kernel⟩
  have hstays : c.session.stage = .connected := by decide +kernel
  have hstream : [[80], [73, 97, 10, 80, 79, 80], [73, 98, 98, 10, 80, 73]].flatten =
      items.flatMap (Item.bytes h) := by decide
  obtain ⟨hmessages, -, htaken, hanswered, -⟩ := lines_transparent hquiet hmixes hs rfl
    (rfl : s.splitter = .line) rfl () hstream (rfl : moves.filterMap _ = _) (by decide +kernel) hstays
  exact ⟨⟨hquiet, hmixes, hs, hstays⟩, hmessages.trans rfl, htaken.trans rfl, hanswered.trans rfl⟩

end SessionEngine
