import SessionEngine.Proofs.Session.Replying
import SessionEngine.Proofs.Settling

/-! Replies to messages that were queued together. `Answers` ties what the handler was told of to what was
handed to the writer, between any two moves: the replies to the messages that the handler is done with have
gone out, and their events wait behind all the messages. -/

namespace SessionEngine

variable {ε : Type}

namespace Handler

/-- A handler that answers messages, or does not, and does nothing else. -/
def answering (answer : μ → Bytes → μ × Option Bytes) : Handler μ ε where
  respond memory e := match e with
    | .receive message => .done (answer memory message).1 (answer memory message).2
    | _ => .nothing memory

/-- What a handler that answers remembers behind messages. -/
def memoryAfter (answer : μ → Bytes → μ × Option Bytes) (memory : μ) (messages : List Bytes) : μ :=
  messages.foldl (fun memory message => (answer memory message).1) memory

/-- The replies to messages, in order. -/
def replies (answer : μ → Bytes → μ × Option Bytes) : μ → List Bytes → List Bytes
  | _, [] => []
  | memory, message :: rest =>
    (answer memory message).2.toList ++ replies answer (answer memory message).1 rest

variable (answer : μ → Bytes → μ × Option Bytes)

theorem replies_append (memory : μ) (done more : List Bytes) :
    replies answer memory (done ++ more) =
      replies answer memory done ++ replies answer (memoryAfter answer memory done) more := by
  induction done generalizing memory with
  | nil => rfl
  | cons message done ih =>
    simp only [List.cons_append, replies, ih, List.append_assoc]
    rfl

theorem moderate_answering : (answering answer : Handler μ ε).Moderate := by
  intro memory e he
  cases e with
  | sent | exception => trivial
  | _ => cases he

end Handler

namespace Course

open Handler

variable {answer : μ → Bytes → μ × Option Bytes} {s : Session ε} {memory : μ} {messages done : List Bytes}
  {c : Course μ ε}

/-- The dispatcher of a handler that is done with the messages `done`: it waits, or is at work for what the
handler was told of last. -/
inductive Stands (answer : μ → Bytes → μ × Option Bytes) (memory : μ) (done : List Bytes)
    (told : List Event) : Dispatcher μ ε → Prop
  | waiting (hdone : told.filterMap Event.message? = done) :
    Stands answer memory done told (.waiting (memoryAfter answer memory done))
  | calling {before : List Event} {e : Event} (he : e ≠ .disconnect) (htold : told = before ++ [e])
      (hdone : before.filterMap Event.message? = done) :
    Stands answer memory done told
      (.calling e ((answering answer).respond (memoryAfter answer memory done) e))

theorem Stands.prefix {told : List Event} {d : Dispatcher μ ε} (h : Stands answer memory done told d) :
    done <+: told.filterMap Event.message? := by
  cases h with
  | waiting hdone =>
    rw [hdone]
  | calling he htold hdone =>
    rw [htold, List.filterMap_append, hdone]
    exact List.prefix_append _ _

variable [Tls.RecordEngine ε]

/-- The session is what sending the replies to the messages `done` makes of `s`, but for the events that the
handler was told of. -/
structure Answers (answer : μ → Bytes → μ × Option Bytes) (s : Session ε) (memory : μ) (done : List Bytes)
    (c : Course μ ε) : Prop where
  session : c.session.behind c.told = s.sendAll (replies answer memory done)
  dispatcher : Stands answer memory done c.told c.dispatcher

theorem answers_start (answer : μ → Bytes → μ × Option Bytes) (s : Session ε) (memory : μ) :
    Answers answer s memory [] (start s memory) := ⟨rfl, .waiting rfl⟩

/-- The messages stand in front of the queue, and behind them what was sent in reply. -/
theorem Answers.queued (hc : Answers answer s memory done c) (hs : s.Sends)
    (hopen : s.events.disconnected = false) (hpending : s.events.pending = messages.map .receive) :
    c.queued = messages.map .receive ++ (replies answer memory done).map .sent := by
  have hevents := congrArg (fun s => s.events.pending) hc.session
  simp only [Session.pending_sendAll hs hopen, hpending] at hevents
  exact hevents

theorem Answers.sends (hc : Answers answer s memory done c) (hs : s.Sends) : c.session.Sends := by
  have hsends : (c.session.behind c.told).Sends := hc.session ▸ Session.sends_sendAll hs _
  exact ⟨hsends.stage, hsends.writer, hsends.mode, hsends.tls⟩

theorem Answers.taken (hc : Answers answer s memory done c) (hs : s.Sends) :
    c.session.writer.taken = s.writer.taken ++ s.payloads (replies answer memory done) := by
  rw [← Session.taken_sendAll hs, ← hc.session]
  rfl

theorem Answers.tell (hc : Answers answer s memory done c) (hs : s.Sends)
    (hopen : s.events.disconnected = false) (hpending : s.events.pending = messages.map .receive) :
    Answers answer s memory done (c.tell (answering answer)) := by
  unfold Course.tell
  split
  next memory' e events hwaiting hpop =>
    have hstands := hc.dispatcher
    rw [hwaiting] at hstands
    have hbehind := EventQueue.behind_of_pop? hpop c.told
    cases hstands with
    | waiting hdone =>
      refine ⟨?_, .calling ?_ rfl hdone⟩
      · rw [← hc.session]
        simp only [Session.behind, hbehind]
      · rintro rfl
        have hmem : .disconnect ∈ c.queued := by
          have hqueued : c.queued = _ := congrArg EventQueue.pending hbehind
          rw [hqueued]
          simp [EventQueue.behind]
        rw [hc.queued hs hopen hpending] at hmem
        simp at hmem
  · exact hc

/-- The callback of a handler that answers takes one action, which sends its reply if there is one. -/
theorem session_act_answering (hs : c.session.Sends) {e : Event}
    (hcall : c.dispatcher = .calling e ((answering answer).respond memory e)) (now : Nat) :
    (c.act now).session = c.session.sendAll (replies answer memory e.message?.toList) := by
  rw [act_of_calling hcall]
  cases e with
  | receive message =>
    simp only [session_performAll, answering, Script.deeds, Event.takesReply, if_true, Event.message?,
      Option.toList_some, replies, List.append_nil]
    cases (answer memory message).2 with
    | none => rfl
    | some data => simp only [Script.replying, (hs.send data).1]; rfl
  | _ => rfl

theorem dispatcher_act_answering {e : Event} (he : e ≠ .disconnect)
    (hcall : c.dispatcher = .calling e ((answering answer).respond memory e)) (now : Nat) :
    (c.act now).dispatcher = .waiting (memoryAfter answer memory e.message?.toList) := by
  rw [act_of_calling hcall]
  cases e with
  | disconnect => exact absurd rfl he
  | _ => rfl

theorem Answers.act (hc : Answers answer s memory done c) (hs : s.Sends) (now : Nat) :
    ∃ done', Answers answer s memory done' (c.act now) := by
  cases hcall : c.dispatcher with
  | calling e script =>
    have hstands := hc.dispatcher
    rw [hcall] at hstands
    cases hstands with
    | calling he htold hdone =>
      -- The handler is done with one message more, if the event is one.
      refine ⟨done ++ e.message?.toList, ?_, ?_⟩
      · rw [session_act_answering (hc.sends hs) hcall, c.told_act, ← Session.sendAll_behind, hc.session,
          replies_append]
        exact (List.foldl_append ..).symm
      · rw [dispatcher_act_answering he hcall, c.told_act]
        have hmemory : memoryAfter answer (memoryAfter answer memory done) e.message?.toList =
            memoryAfter answer memory (done ++ e.message?.toList) := (List.foldl_append ..).symm
        rw [hmemory]
        refine .waiting ?_
        rw [htold, List.filterMap_append, hdone]
        cases e <;> rfl
  | _ =>
    simp only [Course.act, hcall]
    exact ⟨done, hc⟩

theorem exists_answers (hs : s.Sends) (hopen : s.events.disconnected = false)
    (hpending : s.events.pending = messages.map .receive) {agenda : Agenda}
    (hnobody : ∀ n d, (agenda n).2 ≠ .deed d) (n : Nat) :
    ∃ done, Answers answer s memory done ((start s memory).along (answering answer) agenda n) := by
  induction n with
  | zero => exact ⟨[], answers_start answer s memory⟩
  | succ n ih =>
    obtain ⟨done, hc⟩ := ih
    rw [along]
    cases hmove : (agenda n).2 with
    | deed d => exact absurd hmove (hnobody n d)
    | tell => exact ⟨done, hc.tell hs hopen hpending⟩
    | act => exact hc.act hs _

theorem messages_calls (messages : List Bytes) (sent : List Bytes) :
    (messages.map Event.receive ++ sent.map Event.sent).filterMap Event.message? = messages := by
  simp [List.filterMap_append, List.filterMap_map, Function.comp_def, Event.message?]

/-- The handler is done with the first of the messages, so what is queued are the first of all the calls. -/
theorem Answers.queued_prefix (hc : Answers answer s memory done c) (hs : s.Sends)
    (hopen : s.events.disconnected = false) (hpending : s.events.pending = messages.map .receive) :
    c.queued <+: messages.map .receive ++ (replies answer memory messages).map .sent := by
  have hqueued := hc.queued hs hopen hpending
  have hdone : done <+: messages := by
    have htold : c.told.filterMap Event.message? <+: messages := by
      have hprefix := c.told_prefix_queued.filterMap Event.message?
      rwa [hqueued, messages_calls] at hprefix
    exact hc.dispatcher.prefix.trans htold
  obtain ⟨rest, rfl⟩ := hdone
  rw [hqueued, replies_append, List.map_append (f := Event.sent), ← List.append_assoc]
  exact List.prefix_append _ _

/-- In front of a message come messages only. -/
theorem eq_map_of_prefix {before : List Event} {message : Bytes} {messages sent : List Bytes}
    (h : before ++ [.receive message] <+: messages.map .receive ++ sent.map .sent) :
    before = (before.filterMap Event.message?).map .receive := by
  induction messages generalizing before with
  | nil =>
    have hmem : Event.receive message ∈ sent.map Event.sent := h.subset (by simp)
    simp at hmem
  | cons first messages ih =>
    cases before with
    | nil => rfl
    | cons e before =>
      obtain ⟨rfl, hrest⟩ := List.cons_prefix_cons.mp h
      have hbefore := ih hrest
      simp only [List.filterMap_cons, Event.message?, List.map_cons]
      rw [← hbefore]

/-- A message is delivered when the handler is done with the ones before it. -/
theorem Answers.told_message (hc : Answers answer s memory done c) (hs : s.Sends)
    (hopen : s.events.disconnected = false) (hpending : s.events.pending = messages.map .receive)
    {message : Bytes} {script : Script μ ε} (hcall : c.dispatcher = .calling (.receive message) script) :
    c.told = (done ++ [message]).map .receive := by
  have hstands := hc.dispatcher
  rw [hcall] at hstands
  cases hstands with
  | calling he htold hdone =>
    have hprefix := c.told_prefix_queued.trans (hc.queued_prefix hs hopen hpending)
    rw [htold] at hprefix
    rw [htold, eq_map_of_prefix hprefix, hdone, List.map_append]
    rfl

theorem Answers.done_of_waiting (hc : Answers answer s memory done c) {memory' : μ}
    (hwaiting : c.dispatcher = .waiting memory') : done = c.told.filterMap Event.message? := by
  have hstands := hc.dispatcher
  rw [hwaiting] at hstands
  cases hstands with
  | waiting hdone => exact hdone.symm

theorem Answers.not_over (hc : Answers answer s memory done c) : ¬ c.dispatcher.isOver = true := by
  intro hover
  obtain ⟨memory', hmemory⟩ := Dispatcher.isOver_iff.mp hover
  have hstands := hc.dispatcher
  rw [hmemory] at hstands
  cases hstands

/-- With nothing left in the queue the handler is done with all the messages. -/
theorem Answers.done_of_idle (hc : Answers answer s memory done c) (hs : s.Sends)
    (hopen : s.events.disconnected = false) (hpending : s.events.pending = messages.map .receive)
    (hidle : c.Idle) :
    done = messages ∧ c.told = messages.map .receive ++ (replies answer memory messages).map .sent := by
  obtain ⟨⟨memory', hwaiting⟩, hnone⟩ := hidle
  have htold : c.told = messages.map .receive ++ (replies answer memory done).map .sent := by
    rw [← hc.queued hs hopen hpending, Course.queued, hnone, List.append_nil]
  obtain rfl : done = messages := by
    rw [hc.done_of_waiting hwaiting, htold, messages_calls]
  exact ⟨rfl, htold⟩

end Course

variable [Tls.RecordEngine ε]

/-- Replies to messages that were queued together, before the first of them is delivered, over every
course in which the handler answers them, or does not, and nobody does anything else. It is told of the
messages in order, and then of what was sent in reply, in order. Whenever a message is delivered, the
replies to the messages before it were handed to the writer, in order and nothing else, and so were those
to the messages that the handler is done with, whenever the dispatcher waits. If the dispatcher goes on,
the handler comes to be told of everything, and the writer has all the replies. With a TLS layer they are
handed over as what it makes of them, one after the other. -/
theorem replies_in_order (answer : μ → Bytes → μ × Option Bytes) {s : Session ε} (hs : s.Sends)
    (hopen : s.events.disconnected = false) {messages : List Bytes}
    (hpending : s.events.pending = messages.map .receive) (memory : μ) {agenda : Agenda}
    (hnobody : ∀ n d, (agenda n).2 ≠ .deed d) :
    let c := (Course.start s memory).along (.answering answer) agenda
    let replies := Handler.replies answer memory
    let calls : List Event := messages.map .receive ++ (replies messages).map .sent
    (∀ n, (c n).told <+: calls) ∧
      (∀ n message script, (c n).dispatcher = .calling (.receive message) script → ∃ before,
        (c n).told = (before ++ [message]).map .receive ∧
        (c n).session.writer.taken = s.writer.taken ++ s.payloads (replies before)) ∧
      (∀ n memory', (c n).dispatcher = .waiting memory' →
        (c n).session.writer.taken =
          s.writer.taken ++ s.payloads (replies ((c n).told.filterMap Event.message?))) ∧
      (agenda.Serves → ∃ n, ∀ k ≥ n, (c k).told = calls ∧ (c k).session.events.pending = [] ∧
        (c k).session.writer.taken = s.writer.taken ++ s.payloads (replies messages)) := by
  intro c replies calls
  have hc : ∀ n, ∃ done, Course.Answers answer s memory done (c n) :=
    Course.exists_answers hs hopen hpending hnobody
  refine ⟨fun n => ?_, fun n message script hcall => ?_, fun n memory' hwaiting => ?_, fun hserves => ?_⟩
  · obtain ⟨done, hn⟩ := hc n
    exact (c n).told_prefix_queued.trans (hn.queued_prefix hs hopen hpending)
  · obtain ⟨before, hn⟩ := hc n
    exact ⟨before, hn.told_message hs hopen hpending hcall, hn.taken hs⟩
  · obtain ⟨done, hn⟩ := hc n
    rw [hn.taken hs, hn.done_of_waiting hwaiting]
  · have hundisturbed : (Course.start s memory).Undisturbed (.answering answer) agenda :=
      fun n d hmove => absurd hmove (hnobody n d)
    obtain ⟨n, hrest⟩ := Course.exists_idle hserves (Handler.moderate_answering answer)
      (Course.moderate_start s memory) hundisturbed
    refine ⟨n, fun k hk => ?_⟩
    obtain ⟨done, hn⟩ := hc k
    have hidle := (hrest k hk).resolve_left hn.not_over
    obtain ⟨rfl, htold⟩ := hn.done_of_idle hs hopen hpending hidle
    exact ⟨htold, hidle.2, hn.taken hs⟩

/-- The handler numbers its replies, and has none to the second of three messages. -/
theorem replies_in_order_numbered :
    let answer : Nat → Bytes → Nat × Option Bytes := fun count message =>
      (count + 1, if message = [111] then none else some (message ++ [UInt8.ofNat count]))
    let s : Session Empty :=
      { Session.new 0 { Settings.server "localhost" 6380 with handled := true } .line with
        stage := .connected
        writer := Writer.absent.install
        events := ⟨[.receive [110], .receive [111], .receive [112]], true, false⟩ }
    let c := (Course.start s 0).along (.answering answer) (Agenda.turning [])
    (s.Sends ∧ s.events.disconnected = false ∧ s.events.pending = [[110], [111], [112]].map .receive ∧
      ∀ n d, (Agenda.turning [] n).2 ≠ .deed d) ∧
    ∃ n, ∀ k ≥ n, (c k).told =
        [.receive [110], .receive [111], .receive [112], .sent [110, 0], .sent [112, 2]] ∧
      (c k).session.writer.taken = [[110, 0], [112, 2]] := by
  intro answer s c
  have hs : s.Sends := Session.sends_of_plain rfl rfl ⟨rfl, rfl⟩ rfl
  have hnobody : ∀ n d, (Agenda.turning [] n).2 ≠ .deed d :=
    fun n d => Agenda.turning_ne (m := .deed d) List.not_mem_nil nofun nofun n
  have hpending : s.events.pending = [[110], [111], [112]].map .receive := rfl
  obtain ⟨-, -, -, hend⟩ := replies_in_order answer hs rfl hpending 0 hnobody
  obtain ⟨n, hn⟩ := hend (Agenda.serves_turning [])
  refine ⟨⟨hs, rfl, hpending, hnobody⟩, n, fun k hk => ?_⟩
  obtain ⟨htold, -, htaken⟩ := hn k hk
  exact ⟨htold.trans (by decide +kernel), htaken.trans (by decide +kernel)⟩

end SessionEngine
