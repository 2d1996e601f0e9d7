import SessionEngine.Demo.Handlers
import SessionEngine.Proofs.Course.Intake
import SessionEngine.Proofs.Session.Cutting

/-! How a stream comes in chunks makes no difference to the messages that are cut from it. `Cuts` says
where a session stands after the bytes `fed`, and every move keeps it; at the end the messages, the
rest and the fault are those of the whole stream, cut at once. -/

namespace SessionEngine

variable {ε : Type}

namespace Course

/-- The messages that were fired, with those that the buffer still holds, are the messages of what was
fed, and so are the rest and the fault. Unless a dispatch is due, the buffer holds no message, and the
fault was told. -/
structure Cuts (f : Framing) (due : Bool) (fed : Bytes) (c : Course μ ε) : Prop where
  plain : c.session.tls = none
  splitter : c.session.splitter = f.splitter
  handled : c.session.settings.handled = true
  cut : Cut.all f.find fed =
    (Cut.all f.find c.session.buffer.contents).after (c.fired.filterMap Event.message?)
  settled : due = false → (Cut.all f.find c.session.buffer.contents).parts = []
  faults : ∀ fault ∈ c.fired.filterMap Event.fault?, (Cut.all f.find fed).fault = some fault
  told : due = false → ∀ fault, (Cut.all f.find fed).fault = some fault →
    fault ∈ c.fired.filterMap Event.fault?

variable {f : Framing} {fed : Bytes}

theorem Cuts.messages {c : Course μ ε} (h : c.Cuts f false fed) :
    c.fired.filterMap Event.message? = (Cut.all f.find fed).parts := by
  rw [h.cut]
  simp only [Cut.after, h.settled rfl, List.append_nil]

theorem Cuts.rest {c : Course μ ε} (h : c.Cuts f false fed) :
    c.session.buffer.contents = (Cut.all f.find fed).rest := by
  rw [h.cut]
  exact (Cut.rest_of_parts_nil (h.settled rfl)).symm

theorem Cuts.fault_iff {c : Course μ ε} (h : c.Cuts f false fed) {fault : SplitFault} :
    fault ∈ c.fired.filterMap Event.fault? ↔ (Cut.all f.find fed).fault = some fault :=
  ⟨h.faults fault, h.told rfl fault⟩

theorem Cuts.faults_ne_nil {c : Course μ ε} (h : c.Cuts f false fed) :
    c.fired.filterMap Event.fault? ≠ [] ↔ (Cut.all f.find fed).fault ≠ none := by
  constructor
  · intro hne
    obtain ⟨fault, hfault⟩ := List.exists_mem_of_ne_nil _ hne
    rw [h.fault_iff.mp hfault]
    exact Option.some_ne_none fault
  · intro hne
    obtain ⟨fault, hfault⟩ := Option.ne_none_iff_exists'.mp hne
    exact List.ne_nil_of_mem (h.fault_iff.mpr hfault)

theorem Cuts.aside {due : Bool} {c c' : Course μ ε} (h : c.Cuts f due fed) (haside : c.Aside c') :
    c'.Cuts f due fed := by
  obtain ⟨hgrows, hcontents, hmessages, hfaults⟩ := haside
  refine ⟨hgrows.plain h.plain, hgrows.splitter.trans h.splitter, ?_, ?_, ?_, ?_, ?_⟩
  · rw [hgrows.settings]
    exact h.handled
  · rw [hcontents, hmessages]
    exact h.cut
  · rw [hcontents]
    exact h.settled
  · rw [hfaults]
    exact h.faults
  · rw [hfaults]
    exact h.told

theorem cuts_start {s : Session ε} (hplain : s.tls = none) (hhandled : s.settings.handled = true)
    (hsplitter : s.splitter = f.splitter) (hempty : s.buffer.contents = []) (memory : μ) :
    (start s memory).Cuts f false [] := by
  have hcut : Cut.all f.find [] = ⟨[], none, []⟩ := Cut.all_of_none rfl
  refine ⟨hplain, hsplitter, hhandled, ?_, fun _ => ?_, fun fault hfault => ?_,
    fun _ fault hfault => ?_⟩
  · simp only [start, hempty]
    rfl
  · simp only [start, hempty, hcut]
  · cases hfault
  · rw [hcut] at hfault
    cases hfault

end Course

variable [Tls.RecordEngine ε]

theorem Session.contents_feed_of_bare {s : Session ε} (hplain : s.tls = none)
    (hbare : s.heartbeatSlot? = none) {now : Nat} {data : Bytes}
    (hfeed : (s.feed now data).1 = .ok ()) :
    (s.feed now data).2.buffer.contents = s.buffer.contents ++ data := by
  rw [feed_of_bare hplain hbare] at hfeed ⊢
  cases happend : s.buffer.append now data with
  | error cause =>
    rw [happend] at hfeed
    cases hfeed
  | ok buffer => exact Buffer.contents_append happend

namespace Course

variable {f : Framing} {fed : Bytes}

theorem Cuts.feed {c : Course μ ε} (h : c.Cuts f false fed) (hbare : c.session.heartbeatSlot? = none)
    {now : Nat} {data : Bytes} (hfeed : (c.session.feed now data).1 = .ok ()) :
    (c.perform now (.feed data)).Cuts f true (fed ++ data) := by
  have hgrows := Session.grows_perform c.session now (.feed data)
  have hcontents : (c.perform now (.feed data)).session.buffer.contents =
      c.session.buffer.contents ++ data := Session.contents_feed_of_bare h.plain hbare hfeed
  have hfired : (c.perform now (.feed data)).fired = c.fired := List.append_nil _
  refine ⟨hgrows.plain h.plain, hgrows.splitter.trans h.splitter, ?_, ?_, fun hdue => (by cases hdue),
    ?_, fun hdue => (by cases hdue)⟩
  · exact (congrArg Settings.handled hgrows.settings).trans h.handled
  · rw [(Cut.stable_find f).all_append, ← h.rest, ← h.messages, hcontents, hfired]
  · intro fault hfault
    rw [hfired] at hfault
    exact (Cut.stable_find f).fault_append (h.faults fault hfault) data

theorem Cuts.dispatch {c : Course μ ε} (h : c.Cuts f true fed) (hbare : c.session.heartbeatSlot? = none)
    (now : Nat) : (c.perform now .dispatch).Cuts f false fed := by
  have hgrows := Session.grows_perform c.session now .dispatch
  obtain ⟨hoffers, hrest⟩ := Session.dispatchAll_of_bare h.splitter hbare now
  have hcontents : (c.perform now .dispatch).session.buffer.contents =
      (Cut.all f.find c.session.buffer.contents).rest := by
    simp only [perform, Session.perform, Session.dispatch, if_pos h.handled]
    exact hrest
  have hfired : (c.perform now .dispatch).fired = c.fired ++
      ((Cut.all f.find c.session.buffer.contents).parts.map .receive ++
        (Cut.all f.find c.session.buffer.contents).fault.toList.map (.exception <| .splitter ·)) := by
    simp only [perform, Session.fires, if_pos h.handled, hoffers]
  have hmessages : (c.perform now .dispatch).fired.filterMap Event.message? =
      c.fired.filterMap Event.message? ++ (Cut.all f.find c.session.buffer.contents).parts := by
    have hreceive : Event.message? ∘ Event.receive = some := rfl
    rw [hfired]
    simp only [List.filterMap_append, List.filterMap_map, hreceive, List.filterMap_some]
    cases (Cut.all f.find c.session.buffer.contents).fault <;> simp [Event.message?]
  have hfaults : (c.perform now .dispatch).fired.filterMap Event.fault? =
      c.fired.filterMap Event.fault? ++ (Cut.all f.find fed).fault.toList := by
    have hreceive : Event.fault? ∘ Event.receive = fun _ => none := rfl
    have hsplitter : (Event.fault? ∘ fun fault => Event.exception (.splitter fault)) = some := rfl
    rw [hfired, h.cut]
    simp only [List.filterMap_append, List.filterMap_map, hreceive, hsplitter, List.filterMap_some]
    simp [Cut.after]
  refine ⟨hgrows.plain h.plain, hgrows.splitter.trans h.splitter, ?_, ?_, fun _ => ?_, ?_, ?_⟩
  · exact (congrArg Settings.handled hgrows.settings).trans h.handled
  · rw [hcontents, Cut.all_rest, hmessages, h.cut]
    simp [Cut.after]
  · rw [hcontents, Cut.all_rest]
  · intro fault hfault
    rw [hfaults] at hfault
    rcases List.mem_append.mp hfault with hold | hnew
    · exact h.faults fault hold
    · exact Option.mem_toList.mp hnew
  · intro _ fault hfault
    rw [hfaults]
    exact List.mem_append_right _ (Option.mem_toList.mpr hfault)

/-- What a session has cut after its last dispatch, as long as no heartbeat is attached. -/
theorem cuts_run {h : Handler μ ε} {c : Course μ ε} (hc : c.Cuts f false []) {chunks : List Bytes}
    {moves : List (Nat × Move)} (hmoves : moves.filterMap (·.2.deed?) = Deed.ofChunks chunks)
    (hadmits : c.Admits h moves) (hbare : (c.run h moves).session.heartbeatSlot? = none) :
    (c.run h moves).Cuts f false chunks.flatten := by
  -- Nothing detaches a heartbeat, so what is bare at the end was bare before every move.
  refine run_ofChunks (P := fun due fed c => c.session.heartbeatSlot? = none → c.Cuts f due fed)
    ?_ ?_ ?_ ?_ (fun _ => hc) hmoves hadmits hbare
  · intro due fed c hcuts hend
    have haside := c.aside_tell h
    exact (hcuts (haside.grows.bare hend)).aside haside
  · intro due fed c now hcuts hend
    have hcut := hcuts ((c.grows_act now).bare hend)
    exact hcut.aside (aside_act hcut.plain now)
  · intro fed c now data hcuts hfeed hend
    have hgrows := Session.grows_perform c.session now (.feed data)
    exact (hcuts (hgrows.bare hend)).feed (hgrows.bare hend) hfeed
  · intro fed c now hcuts hend
    have hgrows := Session.grows_perform c.session now .dispatch
    exact (hcuts (hgrows.bare hend)).dispatch (hgrows.bare hend) now

end Course

/-- However a stream is cut into chunks, a session without a heartbeat cuts the same messages from it,
leaves the same bytes in its buffer, and meets the same fault or none: those of the whole stream, cut at
once. Between the operations of the socket the handler may be told and act at any moment; what is fired
goes through the queue to it. -/
theorem segmentation_independent (f : Framing) (h : Handler μ ε) {s : Session ε} (hplain : s.tls = none)
    (hhandled : s.settings.handled = true) (hsplitter : s.splitter = f.splitter)
    (hempty : s.buffer.contents = []) (memory : μ) {chunks chunks' : List Bytes}
    (hstream : chunks.flatten = chunks'.flatten) {moves moves' : List (Nat × Move)}
    (hmoves : moves.filterMap (·.2.deed?) = Deed.ofChunks chunks)
    (hmoves' : moves'.filterMap (·.2.deed?) = Deed.ofChunks chunks')
    (hadmits : (Course.start s memory).Admits h moves)
    (hadmits' : (Course.start s memory).Admits h moves')
    (hbare : ((Course.start s memory).run h moves).session.heartbeatSlot? = none)
    (hbare' : ((Course.start s memory).run h moves').session.heartbeatSlot? = none) :
    let c := (Course.start s memory).run h moves
    let c' := (Course.start s memory).run h moves'
    let whole := Cut.all f.find chunks.flatten
    c.fired.filterMap Event.message? = whole.parts ∧
      c'.fired.filterMap Event.message? = whole.parts ∧
      c.session.buffer.contents = whole.rest ∧ c'.session.buffer.contents = whole.rest ∧
      (∀ fault, fault ∈ c.fired.filterMap Event.fault? ↔ whole.fault = some fault) ∧
      (c.fired.filterMap Event.fault? ≠ [] ↔ c'.fired.filterMap Event.fault? ≠ []) ∧
      c.Replays s.events ∧ c'.Replays s.events := by
  intro c c' whole
  have hstart : (Course.start s memory).Cuts f false [] :=
    Course.cuts_start hplain hhandled hsplitter hempty memory
  have hcuts : c.Cuts f false chunks.flatten := Course.cuts_run hstart hmoves hadmits hbare
  have hcuts' : c'.Cuts f false chunks.flatten :=
    hstream ▸ Course.cuts_run hstart hmoves' hadmits' hbare'
  refine ⟨hcuts.messages, hcuts'.messages, hcuts.rest, hcuts'.rest, fun fault => hcuts.fault_iff, ?_,
    Course.replays_run h s memory moves, Course.replays_run h s memory moves'⟩
  rw [hcuts.faults_ne_nil, hcuts'.faults_ne_nil]

/-- A frame, and a header that announces too much, in three chunks and in one. -/
theorem segmentation_independent_frames :
    let s : Session Empty := .new 0 { Settings.server "localhost" 6380 with handled := true } (.length 4)
    let moves : List (Nat × Move) := [.deed (.feed [0, 0]), .deed .dispatch, .deed (.feed [0, 2, 104]),
      .deed .dispatch, .deed (.feed [105, 0, 0, 0, 9]), .tell, .deed .dispatch, .tell, .act, .tell,
      .act].map (0, ·)
    let moves' : List (Nat × Move) :=
      [.deed (.feed [0, 0, 0, 2, 104, 105, 0, 0, 0, 9]), .deed .dispatch].map (0, ·)
    let c := (Course.start s ()).run Demo.echo moves
    let c' := (Course.start s ()).run Demo.echo moves'
    (s.tls = none ∧ s.settings.handled = true ∧ s.buffer.contents = [] ∧
        c.session.heartbeatSlot? = none ∧ c'.session.heartbeatSlot? = none) ∧
      c.fired.filterMap Event.message? = [[0, 0, 0, 2, 104, 105]] ∧
      c'.fired.filterMap Event.message? = [[0, 0, 0, 2, 104, 105]] ∧
      c.session.buffer.contents = [0, 0, 0, 9] ∧ c'.session.buffer.contents = [0, 0, 0, 9] ∧
      SplitFault.frameTooLarge 9 4 ∈ c.fired.filterMap Event.fault? := by
  intro s moves moves' c c'
  have hplain : s.tls = none := rfl
  have hhandled : s.settings.handled = true := rfl
  have hempty : s.buffer.contents = [] := rfl
  have hbare : c.session.heartbeatSlot? = none := by decide +kernel
  have hbare' : c'.session.heartbeatSlot? = none := by decide +kernel
  have hwhole : Cut.all (Framing.length 4).find [0, 0, 0, 2, 104, 105, 0, 0, 0, 9] =
      ⟨[[0, 0, 0, 2, 104, 105]], some (.frameTooLarge 9 4), [0, 0, 0, 9]⟩ := by decide +kernel
  have hstream : [[0, 0], [0, 2, 104], [105, 0, 0, 0, 9]].flatten =
      [[(0 : UInt8), 0, 0, 2, 104, 105, 0, 0, 0, 9]].flatten := rfl
  obtain ⟨hmessages, hmessages', hrest, hrest', hfault, -⟩ := segmentation_independent (.length 4)
    Demo.echo hplain hhandled (rfl : s.splitter = _) hempty () hstream (rfl : moves.filterMap _ = _)
    (rfl : moves'.filterMap _ = _) (by decide +kernel) (by decide +kernel) hbare hbare'
  refine ⟨⟨hplain, hhandled, hempty, hbare, hbare'⟩, ?_, ?_, ?_, ?_, ?_⟩
  · exact hmessages.trans (congrArg Cut.parts hwhole)
  · exact hmessages'.trans (congrArg Cut.parts hwhole)
  · exact hrest.trans (congrArg Cut.rest hwhole)
  · exact hrest'.trans (congrArg Cut.rest hwhole)
  · exact (hfault _).mpr (congrArg Cut.fault hwhole)

end SessionEngine
