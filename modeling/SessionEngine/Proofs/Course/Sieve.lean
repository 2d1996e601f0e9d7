import SessionEngine.Proofs.Course.Intake
import SessionEngine.Proofs.Course.Quiet
import SessionEngine.Proofs.Heartbeat.Blend
import SessionEngine.Proofs.Session.Beating
import SessionEngine.Proofs.Session.Cutting

/-! Sessions that sift a stream: tokens go to the heartbeat and messages to the handler. `Sieves`
divides the stream into the items that are gone and those that are left, of which the buffer holds the
first bytes; every move keeps it, and `sieves_run` says so of a whole course. Where the stream came to
its end, nothing is left of it (`sieves_whole`). -/

namespace SessionEngine

variable {ε : Type}

namespace Course

/-- From `start` to `c` the items `gone` went through the session, and the bytes `fed` hold besides them
only what is in the buffer: the head of the next item. Unless a dispatch is due, the framing waits for
the rest of it. -/
structure Sieves (start : Course μ ε) (f : Framing) (slot : Nat) (h : Heartbeat) (gone : List Item)
    (due : Bool) (fed : Bytes) (c : Course μ ε) : Prop where
  hears : Session.Hears slot h (gone.filterMap Item.token?) start.session c.session
  splitter : c.session.splitter = f.splitter
  handled : c.session.settings.handled = true
  fed : fed = gone.flatMap (Item.bytes h) ++ c.session.buffer.contents
  head : h.head? c.session.buffer.contents = none
  messages : c.fired.filterMap Event.message? =
    start.fired.filterMap Event.message? ++ gone.filterMap Item.body?
  faults : c.fired.filterMap Event.fault? = start.fired.filterMap Event.fault?
  settled : due = false → Cut.step? f.find c.session.buffer.contents = .ok none

variable {f : Framing} {slot : Nat} {h : Heartbeat} {start c : Course μ ε} {gone left : List Item}
  {due : Bool} {fed : Bytes}

theorem Sieves.contents_append (hc : start.Sieves f slot h gone due fed c) {future : Bytes}
    (hfuture : fed ++ future = (gone ++ left).flatMap (Item.bytes h)) :
    c.session.buffer.contents ++ future = left.flatMap (Item.bytes h) := by
  rw [hc.fed, List.flatMap_append, List.append_assoc] at hfuture
  exact List.append_cancel_left hfuture

/-- Events that are no messages and no complaints of the splitter may come in. -/
theorem Sieves.congr {c' : Course μ ε} (hc : start.Sieves f slot h gone due fed c) {events : EventQueue}
    (hsession : c'.session = { c.session with events })
    (hmessages : c'.fired.filterMap Event.message? = c.fired.filterMap Event.message?)
    (hfaults : c'.fired.filterMap Event.fault? = c.fired.filterMap Event.fault?) :
    start.Sieves f slot h gone due fed c' := by
  obtain ⟨session, dispatcher, fired, told⟩ := c'
  obtain rfl : session = { c.session with events } := hsession
  exact ⟨⟨hc.hears.beating.congr c.session.buffer events, hc.hears.taken⟩, hc.splitter, hc.handled,
    hc.fed, hc.head, hmessages.trans hc.messages, hfaults.trans hc.faults, hc.settled⟩

theorem sieves_refl (hs : c.session.Beating slot h) (hsplitter : c.session.splitter = f.splitter)
    (hhandled : c.session.settings.handled = true) (hhead : h.head? c.session.buffer.contents = none)
    (hwait : Cut.step? f.find c.session.buffer.contents = .ok none) :
    c.Sieves f slot h [] false c.session.buffer.contents c :=
  ⟨.refl hs, hsplitter, hhandled, rfl, hhead, (List.append_nil _).symm, rfl, fun _ => hwait⟩

/-- Each ping that is gone was answered with one pong, and nothing else was written. -/
theorem Sieves.taken (hc : start.Sieves f slot h gone due fed c) :
    c.session.writer.taken =
      start.session.writer.taken ++ List.replicate (gone.count (.token .ping)) h.pong := by
  rw [hc.hears.taken, Item.count_token?]

/-- The heartbeat knows whether a pong has come. -/
theorem Sieves.answered (hc : start.Sieves f slot h gone due fed c) :
    c.session.heartbeat?.map Heartbeat.answered =
      some (h.answered || decide (.token .pong ∈ gone)) := by
  have hpong : (gone.filterMap Item.token?).contains .pong = decide (.token .pong ∈ gone) := by
    rw [List.contains_eq_mem]
    simp only [List.mem_filterMap, Item.token?_eq_some, exists_eq_right]
  rw [hc.hears.beating.heartbeat?_eq]
  exact congrArg (fun b => some (h.answered || b)) hpong

end Course

variable [Tls.RecordEngine ε]

namespace Session

variable {slot : Nat} {h : Heartbeat} {f : Framing}

/-- What is taken, if anything is, is the message with which the stream goes on, and the tokens behind
it are heard. -/
theorem takeMessage_blend {s : Session ε} {items : List Item} (hb : h.Blends f items)
    (hs : s.Beating slot h) (hsplitter : s.splitter = f.splitter)
    (hhead : h.head? s.buffer.contents = none) {future : Bytes}
    (hbytes : s.buffer.contents ++ future = items.flatMap (Item.bytes h)) (now : Nat) :
    (Cut.step? f.find s.buffer.contents = .ok none ∧ s.takeMessage now = (.ok none, s)) ∨
      ∃ message s' tokens left, s.takeMessage now = (.ok (some message), s') ∧
        items = .body message :: (tokens.map .token ++ left) ∧ Hears slot h tokens s s' ∧
        h.head? s'.buffer.contents = none ∧
        s'.buffer.contents ++ future = left.flatMap (Item.bytes h) := by
  have htake := takeMessage_eq_step? hsplitter now
  rcases hb.step?_cases hhead hbytes with hcut | ⟨message, rest, items', rfl, hcut, hrest⟩
  · rw [hcut] at htake
    exact .inl ⟨hcut, htake⟩
  · rw [hcut] at htake
    obtain ⟨left, rfl, hleft⟩ := Heartbeat.strip_items hb.distinct hb.tail.legible hrest
    have hbeats : (s.withContents rest).Beating slot h := hs.congr _ s.events
    obtain ⟨hhears, hcontents⟩ := hears_intercept hbeats
    refine .inr ⟨message, _, _, left, htake, rfl, ⟨hhears.beating, hhears.taken⟩, ?_, ?_⟩
    · rw [hcontents]
      exact h.head?_strip rest
    · rw [hcontents]
      exact hleft

/-- A dispatch hands over the messages with which the stream goes on, up to one that is not whole. -/
theorem dispatchAll_blend {s : Session ε} {items : List Item} (hb : h.Blends f items)
    (hs : s.Beating slot h) (hsplitter : s.splitter = f.splitter)
    (hhead : h.head? s.buffer.contents = none) {future : Bytes}
    (hbytes : s.buffer.contents ++ future = items.flatMap (Item.bytes h)) (now : Nat) :
    ∃ gone left, items = gone ++ left ∧ s.offers now = (gone.filterMap Item.body?).map .receive ∧
      Hears slot h (gone.filterMap Item.token?) s (s.dispatchAll now).2 ∧
      h.head? (s.dispatchAll now).2.buffer.contents = none ∧
      Cut.step? f.find (s.dispatchAll now).2.buffer.contents = .ok none ∧
      (s.dispatchAll now).2.buffer.contents ++ future = left.flatMap (Item.bytes h) := by
  have hcases := takeMessage_blend hb hs hsplitter hhead hbytes now
  fun_induction dispatchAll s now generalizing items h with
  | case1 s message s' htake _ n t hrest ih =>
    rw [htake] at hcases
    obtain ⟨-, heq⟩ | ⟨_, _, tokens, left, heq, rfl, hhears, hhead', hleft⟩ := hcases <;> cases heq
    -- The tokens behind a message are heard before the next message is looked for.
    have hkept := kept_takeMessage s now
    rw [htake] at hkept
    have hb' : (h.receive tokens).Blends f left := hb.tail.right.receive tokens
    have hs' : (s'.fire (.receive message)).Beating slot (h.receive tokens) :=
      hhears.beating.congr s'.buffer _
    have hsplitter' : (s'.fire (.receive message)).splitter = f.splitter :=
      hkept.splitter.trans hsplitter
    obtain ⟨gone, left', rfl, hoffers, hhears', hhead'', hwait, hleft'⟩ := ih hb' hs' hsplitter' hhead'
      hleft (takeMessage_blend hb' hs' hsplitter' hhead' hleft now)
    rw [hrest] at hhears' hhead'' hwait hleft'
    refine ⟨.body message :: (tokens.map .token ++ gone), left', by simp, ?_, ?_, hhead'', hwait,
      hleft'⟩
    · rw [offers_of_message htake, hoffers]
      simp [Item.body?]
    · have htokens : (Item.body message :: (tokens.map .token ++ gone)).filterMap Item.token? =
          tokens ++ gone.filterMap Item.token? := by
        rw [List.filterMap_cons_none rfl, List.filterMap_append, Item.token?_tokens]
      rw [htokens]
      exact hhears.trans ⟨hhears'.beating, hhears'.taken⟩
  | case2 s s' htake =>
    rw [htake] at hcases
    obtain ⟨hwait, heq⟩ | ⟨_, _, _, _, heq, -⟩ := hcases <;> cases heq
    exact ⟨[], items, rfl, offers_of_none htake, .refl hs, hhead, hwait, hbytes⟩
  | case3 s e s' htake =>
    rw [htake] at hcases
    obtain ⟨-, heq⟩ | ⟨_, _, _, _, heq, -⟩ := hcases <;> cases heq

end Session

namespace Course

variable {f : Framing} {slot : Nat} {h : Heartbeat} {start c : Course μ ε} {gone left : List Item}
  {due : Bool} {fed : Bytes}

/-- A chunk that is fed completes the tokens with which the stream goes on. -/
theorem Sieves.feed (hc : start.Sieves f slot h gone false fed c) (hb : h.Blends f (gone ++ left))
    {now : Nat} {data future : Bytes}
    (hfuture : fed ++ data ++ future = (gone ++ left).flatMap (Item.bytes h))
    (hfeed : (c.session.feed now data).1 = .ok ()) :
    ∃ more left', left = more ++ left' ∧
      start.Sieves f slot h (gone ++ more) true (fed ++ data) (c.perform now (.feed data)) := by
  have hstays := (Session.kept_feed c.session now data).toStays
  obtain ⟨hhears, hcontents⟩ := Session.hears_feed hc.hears.beating hfeed
  rw [Heartbeat.strip_receive] at hhears hcontents
  have hcontents' : (c.perform now (.feed data)).session.buffer.contents = _ := hcontents
  have hbytes : c.session.buffer.contents ++ data ++ future = left.flatMap (Item.bytes h) := by
    rw [List.append_assoc]
    exact hc.contents_append ((List.append_assoc ..).symm.trans hfuture)
  obtain ⟨left', rfl, hleft⟩ := Heartbeat.strip_items hb.distinct hb.right.legible hbytes
  have hquiet : (c.perform now (.feed data)).fired = c.fired := List.append_nil c.fired
  refine ⟨_, left', rfl, ?_, hstays.splitter.trans hc.splitter, ?_, ?_, ?_, ?_, ?_, nofun⟩
  · rw [List.filterMap_append, Item.token?_tokens]
    exact hc.hears.trans hhears
  · exact (congrArg Settings.handled hstays.settings).trans hc.handled
  · rw [hcontents']
    rw [← List.append_assoc] at hfuture
    exact Item.eq_append_of_left hfuture hleft
  · rw [hcontents']
    exact h.head?_strip _
  · rw [List.filterMap_append, Item.body?_tokens, List.append_nil, hquiet]
    exact hc.messages
  · rw [hquiet]
    exact hc.faults

theorem Sieves.dispatch (hc : start.Sieves f slot h gone true fed c) (hb : h.Blends f (gone ++ left))
    {future : Bytes} (hfuture : fed ++ future = (gone ++ left).flatMap (Item.bytes h)) (now : Nat) :
    ∃ more left', left = more ++ left' ∧
      start.Sieves f slot h (gone ++ more) false fed (c.perform now .dispatch) := by
  have hgrows := Session.grows_perform c.session now .dispatch
  obtain ⟨more, left', rfl, hoffers, hhears, hhead, hwait, hleft⟩ := Session.dispatchAll_blend
    (hb.right.receive _) hc.hears.beating hc.splitter hc.head (hc.contents_append hfuture) now
  have hsession : (c.perform now .dispatch).session = (c.session.dispatchAll now).2 := by
    simp only [perform, Session.perform, Session.dispatch, if_pos hc.handled]
  have hfired : (c.perform now .dispatch).fired =
      c.fired ++ (more.filterMap Item.body?).map .receive := by
    simp only [perform, Session.fires, if_pos hc.handled, hoffers]
  refine ⟨more, left', rfl, ?_, hgrows.splitter.trans hc.splitter, ?_, ?_, ?_, ?_, ?_, fun _ => ?_⟩
  · rw [List.filterMap_append, hsession]
    exact hc.hears.trans hhears
  · exact (congrArg Settings.handled hgrows.settings).trans hc.handled
  · rw [hsession]
    rw [← List.append_assoc] at hfuture
    exact Item.eq_append_of_left hfuture hleft
  · rw [hsession]
    exact hhead
  · have hreceive : Event.message? ∘ Event.receive = some := rfl
    rw [hfired, List.filterMap_append, List.filterMap_map, hreceive, List.filterMap_some, hc.messages,
      List.filterMap_append, List.append_assoc]
  · have hreceive : Event.fault? ∘ Event.receive = fun _ => none := rfl
    rw [hfired, List.filterMap_append, List.filterMap_map, hreceive, hc.faults]
    simp
  · rw [hsession]
    exact hwait

/-- Where a session stands after its last dispatch, as long as it stays connected and its handler neither
writes nor closes. -/
theorem sieves_run {handler : Handler μ ε} (hquiet : handler.Quiet) {items : List Item}
    (hb : h.Blends f items) (hc : start.Sieves f slot h [] false [] c) (hcalls : c.Quiet)
    {chunks : List Bytes} {moves : List (Nat × Move)}
    (hmoves : moves.filterMap (·.2.deed?) = Deed.ofChunks chunks) (hadmits : c.Admits handler moves)
    (hstays : (c.run handler moves).session.stage = .connected) {future : Bytes}
    (hfuture : chunks.flatten ++ future = items.flatMap (Item.bytes h)) :
    ∃ gone left, items = gone ++ left ∧
      start.Sieves f slot h gone false chunks.flatten (c.run handler moves) := by
  -- What is connected at the end was connected before every move.
  have hrun := run_ofChunks (P := fun due fed c => c.Quiet ∧ (c.session.stage = .connected →
    ∀ future, fed ++ future = items.flatMap (Item.bytes h) →
      ∃ gone left, items = gone ++ left ∧ start.Sieves f slot h gone due fed c))
    ?_ ?_ ?_ ?_ ⟨hcalls, fun _ _ _ => ⟨[], items, rfl, hc⟩⟩ hmoves hadmits
  · exact hrun.2 hstays future hfuture
  · intro due fed c ⟨hcalls, hsieves⟩
    obtain ⟨hfired, events, hsession⟩ := c.session_tell handler
    refine ⟨hcalls.tell hquiet, fun hstage future hfuture => ?_⟩
    rw [hsession] at hstage
    obtain ⟨gone, left, hitems, hc⟩ := hsieves hstage future hfuture
    exact ⟨gone, left, hitems, hc.congr hsession (by rw [hfired]) (by rw [hfired])⟩
  · intro due fed c now ⟨hcalls, hsieves⟩
    refine ⟨hcalls.act now, fun hstage future hfuture => ?_⟩
    obtain ⟨gone, left, hitems, hc⟩ := hsieves (connected_of_act hstage) future hfuture
    obtain ⟨events, hsession⟩ := hcalls.session_act hc.hears.beating.attached hstage
    have haside := aside_act (c := c) hc.hears.beating.plain now
    exact ⟨gone, left, hitems, hc.congr hsession haside.messages haside.faults⟩
  · intro fed c now data ⟨hcalls, hsieves⟩ hfeed
    refine ⟨hcalls, fun hstage future hfuture => ?_⟩
    have hstage' := Session.connected_of_perform (fun hd => by cases hd) hstage
    obtain ⟨gone, left, rfl, hc⟩ := hsieves hstage' (data ++ future)
      ((List.append_assoc ..).symm.trans hfuture)
    obtain ⟨more, left', rfl, hc'⟩ := hc.feed hb hfuture hfeed
    exact ⟨gone ++ more, left', (List.append_assoc ..).symm, hc'⟩
  · intro fed c now ⟨hcalls, hsieves⟩
    refine ⟨hcalls, fun hstage future hfuture => ?_⟩
    have hstage' := Session.connected_of_perform (fun hd => by cases hd) hstage
    obtain ⟨gone, left, rfl, hc⟩ := hsieves hstage' future hfuture
    obtain ⟨more, left', rfl, hc'⟩ := hc.dispatch hb hfuture now
    exact ⟨gone ++ more, left', (List.append_assoc ..).symm, hc'⟩

/-- Of a stream that came to its end nothing is left. -/
theorem sieves_whole {handler : Handler μ ε} (hquiet : handler.Quiet) {items : List Item}
    (hb : h.Blends f items) {s : Session ε} (hs : s.Beating slot h)
    (hhandled : s.settings.handled = true) (hsplitter : s.splitter = f.splitter)
    (hempty : s.buffer.contents = []) (memory : μ) {chunks : List Bytes}
    (hstream : chunks.flatten = items.flatMap (Item.bytes h)) {moves : List (Nat × Move)}
    (hmoves : moves.filterMap (·.2.deed?) = Deed.ofChunks chunks)
    (hadmits : (Course.start s memory).Admits handler moves)
    (hstays : ((Course.start s memory).run handler moves).session.stage = .connected) :
    (Course.start s memory).Sieves f slot h items false chunks.flatten
        ((Course.start s memory).run handler moves) ∧
      ((Course.start s memory).run handler moves).session.buffer.contents = [] := by
  have hhead : h.head? s.buffer.contents = none := by
    rw [hempty, Heartbeat.head?_eq_none_iff hb.distinct]
    exact fun t hpre => hb.distinct.nonempty t (List.prefix_nil.mp hpre)
  have hstart := sieves_refl (c := Course.start s memory) hs hsplitter hhandled hhead
    (congrArg (Cut.step? f.find) hempty)
  rw [show (Course.start s memory).session.buffer.contents = [] from hempty] at hstart
  obtain ⟨gone, left, rfl, hc⟩ := sieves_run hquiet hb hstart (quiet_start s memory) hmoves hadmits
    hstays ((List.append_nil _).trans hstream)
  have hrest := (List.append_nil _).symm.trans
    (hc.contents_append ((List.append_nil _).trans hstream))
  obtain rfl : left = [] := hb.right.eq_nil hc.head (hc.settled rfl) hrest
  rw [List.append_nil]
  exact ⟨hc, hrest⟩

end Course

end SessionEngine
