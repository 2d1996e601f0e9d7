import SessionEngine.Proofs.Course.Sieve
import SessionEngine.Proofs.Heartbeat.Frames

/-! A heartbeat in a stream of length frames. Where its tokens are sheltered it does not show in the
frames that a session receives (`frames_transparent`). Of a token that is not, there is a part that the
splitter reads as a header when the stream is cut behind it (`exists_part_of_not_sheltered`), so that the
session meets a fault or hands over a piece of the token; `ping_cut_at_header` is such a stream. -/

namespace SessionEngine

variable {ε : Type} [Tls.RecordEngine ε]

namespace Heartbeat

/-- A part of a token that is not the whole of it stays in the buffer. -/
theorem strip_part {h : Heartbeat} (hd : h.Distinct) {t : Token} {part : Bytes}
    (hpart : part <+: h.bytes t) (hne : part ≠ h.bytes t) : h.strip part = ([], part) := by
  have hhead : h.head? part = none := by
    rw [head?_eq_none_iff hd]
    intro t' hpre
    obtain rfl : t' = t := hd.apart (hpre.trans hpart)
    exact hne (hpart.eq_of_length (Nat.le_antisymm hpart.length_le hpre.length_le))
  have htokens : (h.strip part).1 = [] := strip_eq_nil_iff.mpr hhead
  have hrest := h.flatten_strip part
  rw [htokens] at hrest
  exact Prod.ext htokens hrest

end Heartbeat

/-- A heartbeat with sheltered tokens does not show in the frames that a session receives, however the
stream is cut into chunks: the messages are the frames, in order, the splitter never complains, and
nothing stays in the buffer; each ping was answered with one pong, and nothing else was written; and the
heartbeat knows whether a pong has come. What is fired goes through the queue to the handler. -/
theorem frames_transparent {handler : Handler μ ε} (hquiet : handler.Quiet) {h : Heartbeat} {limit : Nat}
    {items : List Item} (hitems : h.Interleaves limit items)
    (hsheltered : ∀ t, Length.Sheltered limit (h.bytes t)) {s : Session ε} {slot : Nat}
    (hs : s.Beating slot h) (hhandled : s.settings.handled = true)
    (hsplitter : s.splitter = .length limit) (hempty : s.buffer.contents = []) (memory : μ)
    {chunks : List Bytes} (hstream : chunks.flatten = items.flatMap (Item.bytes h))
    {moves : List (Nat × Move)} (hmoves : moves.filterMap (·.2.deed?) = Deed.ofChunks chunks)
    (hadmits : (Course.start s memory).Admits handler moves)
    (hstays : ((Course.start s memory).run handler moves).session.stage = .connected) :
    let c := (Course.start s memory).run handler moves
    c.fired.filterMap Event.message? = items.filterMap Item.body? ∧
      c.fired.filterMap Event.fault? = [] ∧
      c.session.buffer.contents = [] ∧
      c.session.writer.taken =
        s.writer.taken ++ List.replicate (items.count (.token .ping)) h.pong ∧
      c.session.heartbeat?.map Heartbeat.answered =
        some (h.answered || decide (.token .pong ∈ items)) ∧
      c.Replays s.events := by
  intro c
  obtain ⟨hc, hrest⟩ := Course.sieves_whole hquiet (hitems.blends hsheltered) hs hhandled
    (f := .length limit) hsplitter hempty memory hstream hmoves hadmits hstays
  exact ⟨hc.messages, hc.faults, hrest, hc.taken, hc.answered,
    Course.replays_run handler s memory moves⟩

/-- Frames between tokens, one of which is cut behind four bytes that announce a frame still to come. -/
theorem frames_transparent_cut_header :
    let handler : Handler Unit Empty := ⟨fun _ _ => .nothing ()⟩
    let h : Heartbeat := .new [0, 0, 0, 9, 1] [80, 79] .initiator
    let items : List Item := [.token .ping, .body [0, 0, 0, 1, 97], .token .pong, .token .ping,
      .body [0, 0, 0, 0]]
    let s : Session Empty := (Session.new 0 { Settings.server "localhost" 6380 with handled := true }
      (.length 9)).run [(0, .installWriter), (0, .establish), (0, .attach [0, 0, 0, 9, 1] [80, 79] .initiator)]
    let moves : List (Nat × Move) := [.deed (.feed [0, 0, 0, 9]), .deed .dispatch,
      .deed (.feed [1, 0, 0, 0, 1, 97, 80]), .tell, .deed .dispatch, .tell, .act,
      .deed (.feed [79, 0, 0, 0, 9, 1, 0, 0]), .deed .dispatch, .deed (.feed [0, 0]),
      .deed .dispatch].map (0, ·)
    let c := (Course.start s ()).run handler moves
    (handler.Quiet ∧ h.Interleaves 9 items ∧ (∀ t, Length.Sheltered 9 (h.bytes t)) ∧ s.Beating 0 h ∧
        c.session.stage = .connected) ∧
      c.fired.filterMap Event.message? = [[0, 0, 0, 1, 97], [0, 0, 0, 0]] ∧
      c.fired.filterMap Event.fault? = [] ∧ c.session.writer.taken = [[80, 79], [80, 79]] ∧
      c.session.heartbeat?.map Heartbeat.answered = some true := by
  intro handler h items s moves c
  have hquiet : handler.Quiet := fun _ _ => .inl rfl
  have hdistinct : h.Distinct := by
    refine ⟨fun t => ?_, fun {t t'} => ?_⟩
    · cases t <;> decide
    · cases t <;> cases t' <;> decide
  have hitems : h.Interleaves 9 items := by
    refine ⟨hdistinct, fun data hdata t => ?_, fun data hdata => ?_⟩ <;>
      simp only [items, List.mem_cons, reduceCtorEq, Item.body.injEq, List.not_mem_nil, false_or,
        or_false] at hdata <;>
      rcases hdata with rfl | rfl
    · cases t <;> decide
    · cases t <;> decide
    · exact ⟨[97], by decide, by decide, by decide⟩
    · exact ⟨[], by decide, by decide, by decide⟩
  have hsheltered : ∀ t, Length.Sheltered 9 (h.bytes t) := by
    intro t
    cases t <;> decide
  have hs : s.Beating 0 h := ⟨rfl, rfl, ⟨rfl, rfl⟩, by decide +kernel, by decide +kernel⟩
  have hstays : c.session.stage = .connected := by decide +kernel
  have hstream : [[0, 0, 0, 9], [1, 0, 0, 0, 1, 97, 80], [79, 0, 0, 0, 9, 1, 0, 0], [0, 0]].flatten =
      items.flatMap (Item.bytes h) := by decide
  obtain ⟨hmessages, hfaults, -, htaken, hanswered, -⟩ := frames_transparent hquiet hitems hsheltered hs
    rfl (rfl : s.splitter = .length 9) rfl () hstream (rfl : moves.filterMap _ = _) (by decide +kernel)
    hstays
  exact ⟨⟨hquiet, hitems, hsheltered, hs, hstays⟩, hmessages.trans rfl, hfaults, htaken.trans rfl,
    hanswered.trans rfl⟩

/-- A token that is not sheltered has a part that the splitter reads as a header: when the stream is cut
behind it, the next dispatch fires a message or a complaint, though no frame has come. -/
theorem exists_part_of_not_sheltered {h : Heartbeat} (hd : h.Distinct) {limit : Nat} {t : Token}
    (hexposed : ¬ Length.Sheltered limit (h.bytes t)) :
    ∃ part, part <+: h.bytes t ∧ part ≠ h.bytes t ∧
      ∀ {s : Session ε} {slot : Nat}, s.Beating slot h → s.settings.handled = true →
        s.splitter = .length limit → s.buffer.contents = [] →
        ∀ now, (s.feed now part).1 = .ok () →
          ∃ e ∈ (s.perform now (.feed part)).fires now .dispatch,
            (∃ message, e = .receive message) ∨ ∃ error, e = .exception error := by
  rw [← Framing.waits_length_iff, Framing.Waits] at hexposed
  push Not at hexposed
  obtain ⟨part, hpart, hne, hstep⟩ := hexposed
  refine ⟨part, hpart, hne, fun {s slot} hs hhandled hsplitter hempty now hfeed => ?_⟩
  have hcontents : (s.feed now part).2.buffer.contents = part := by
    have hcontents := (Session.hears_feed hs hfeed).2
    rwa [hempty, List.nil_append, Heartbeat.strip_part hd hpart hne] at hcontents
  have hkept := Session.kept_feed s now part
  have hhandled' : (s.feed now part).2.settings.handled = true := by rw [hkept.settings, hhandled]
  have htake := Session.takeMessage_eq_step? (f := .length limit) (hkept.splitter.trans hsplitter) now
  rw [hcontents] at htake
  have hfires : (s.perform now (.feed part)).fires now .dispatch = (s.feed now part).2.offers now :=
    if_pos hhandled'
  rw [hfires]
  cases hcut : Cut.step? (Framing.length limit).find part with
  | error fault =>
    rw [hcut] at htake
    rw [Session.offers_of_error htake]
    exact ⟨_, List.mem_singleton.mpr rfl, .inr ⟨_, rfl⟩⟩
  | ok found =>
    cases found with
    | none => exact absurd hcut hstep
    | some cut =>
      rw [hcut] at htake
      rw [Session.offers_of_message htake]
      exact ⟨_, List.mem_cons_self, .inl ⟨_, rfl⟩⟩

/-- A ping of five letters comes in two chunks, the first as long as a header: all that is asked of the
stream and of the session holds, and yet the splitter complains of a frame of 1346981447 bytes. -/
theorem ping_cut_at_header :
    let handler : Handler Unit Empty := ⟨fun _ _ => .nothing ()⟩
    let h : Heartbeat := .new (Bytes.ofString "PINGq") (Bytes.ofString "PONGq") .initiator
    let items : List Item := [.token .ping]
    let s : Session Empty := (Session.new 0 { Settings.server "localhost" 6380 with handled := true }
      (.length Length.defaultLimit)).run [(0, .installWriter), (0, .establish),
        (0, .attach (Bytes.ofString "PINGq") (Bytes.ofString "PONGq") .initiator)]
    let chunks : List Bytes := [Bytes.ofString "PING", Bytes.ofString "q"]
    let moves : List (Nat × Move) := (Deed.ofChunks chunks).map fun d => (0, .deed d)
    let c := (Course.start s ()).run handler moves
    (handler.Quiet ∧ h.Interleaves Length.defaultLimit items ∧ s.Beating 0 h ∧
        s.settings.handled = true ∧ s.splitter = .length Length.defaultLimit ∧
        s.buffer.contents = [] ∧ chunks.flatten = items.flatMap (Item.bytes h) ∧
        moves.filterMap (·.2.deed?) = Deed.ofChunks chunks ∧
        (Course.start s ()).Admits handler moves ∧ c.session.stage = .connected) ∧
      c.fired.filterMap Event.fault? = [.frameTooLarge 1346981447 Length.defaultLimit] := by
  intro handler h items s chunks moves c
  have hdistinct : h.Distinct := by
    refine ⟨fun t => ?_, fun {t t'} => ?_⟩
    · cases t <;> decide +kernel
    · cases t <;> cases t' <;> decide +kernel
  have hitems : h.Interleaves Length.defaultLimit items :=
    ⟨hdistinct, fun data hdata => by simp [items] at hdata, fun data hdata => by simp [items] at hdata⟩
  refine ⟨⟨fun _ _ => .inl rfl, hitems, ⟨rfl, rfl, ⟨rfl, rfl⟩, by decide +kernel, by decide +kernel⟩,
    rfl, rfl, rfl, by decide +kernel, rfl, by decide +kernel, by decide +kernel⟩, by decide +kernel⟩

end SessionEngine
