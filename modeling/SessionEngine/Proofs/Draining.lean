import SessionEngine.Proofs.Framing.Parts
import SessionEngine.Proofs.Session.Attending
import SessionEngine.Proofs.Session.Pausing

/-! Reading a session that is closed, when nothing more comes to it. The reads give what is buffered message
by message, the last of them perhaps a remainder that is no whole message, and then say that the session is
closed, for ever (`Session.ReadsOut`). By `read_after_close` that is so by silence and by lines; by lengths it
is so unless the remainder begins with a header that announces too much. Such a header is what every further
read fails with, and the remainder is never given (`remainder_withheld`). -/

namespace SessionEngine

variable {ε : Type} [Tls.RecordEngine ε]

namespace Session

/-- Reads one after the other, each at its time, while nobody else does anything. -/
def reads (s : Session ε) : List Nat → List (ReadEnd ε)
  | [] => []
  | now :: times => s.read now [] :: (s.read now []).session.reads times

/-- However often and whenever the session is read, the reads give `messages`, one after the other, and all
others fail with `last`. No read waits. What is not read yet stays buffered, and `tail` stays for ever. -/
structure Drains (s : Session ε) (messages : List Bytes) (last : Error) (tail : Bytes) : Prop where
  contents : s.buffer.contents = messages.flatten ++ tail
  reads : ∀ times : List Nat,
    (s.reads times).map (fun e => (e.result, e.time, e.session.buffer.contents)) =
      times.mapIdx fun k now =>
        (messages[k]?.elim (.error last) .ok, now, (messages.drop (k + 1)).flatten ++ tail)

/-- The reads give all that is buffered, in messages that are not empty and that are cut off by the splitter,
except perhaps the last one. All others fail, as the session is closed. -/
structure ReadsOut (s : Session ε) (messages : List Bytes) : Prop where
  drains : s.Drains messages .closed []
  nonempty : [] ∉ messages
  cut : ∀ early message late, messages = early ++ message :: late → late ≠ [] → ∀ now,
    (s.withContents (message :: late).flatten).takeMessage now =
      (.ok (some message), s.withContents late.flatten)

variable {s s' : Session ε} {f : Framing} {messages : List Bytes} {last : Error} {tail : Bytes}

/-! ### One read after the other -/

theorem read_of_look {result : Except Error Bytes} {now : Nat}
    (h : s.look now = (some result, s')) : s.read now [] = ⟨result, s', now, []⟩ :=
  read_of_pass (by simp only [pass, h]) []

theorem drains_nil (h : ∀ now, s.look now = (some (.error last), s)) :
    s.Drains [] last s.buffer.contents := by
  refine ⟨rfl, fun times => ?_⟩
  induction times with
  | nil => rfl
  | cons now times ih =>
    rw [Session.reads, read_of_look (h now), List.map_cons, ih, List.mapIdx_cons]
    rfl

theorem Drains.cons {message : Bytes} (hs' : s'.Drains messages last tail)
    (hcontents : s.buffer.contents = message ++ s'.buffer.contents)
    (h : ∀ now, s.look now = (some (.ok message), s')) : s.Drains (message :: messages) last tail := by
  refine ⟨?_, fun times => ?_⟩
  · rw [hcontents, hs'.contents, List.flatten_cons, List.append_assoc]
  · cases times with
    | nil => rfl
    | cons now times =>
      rw [Session.reads, read_of_look (h now), List.map_cons, hs'.reads, List.mapIdx_cons, hs'.contents]
      rfl

/-- There is one error that reads end up with. -/
theorem Drains.last_unique {messages' : List Bytes} {last' : Error} {tail' : Bytes}
    (h : s.Drains messages last tail) (h' : s.Drains messages' last' tail') : last = last' := by
  let n := max messages.length messages'.length
  have hreads := (h.reads (List.replicate (n + 1) 0)).symm.trans (h'.reads (List.replicate (n + 1) 0))
  have hresult := congrArg (fun l => l[n]?.map Prod.fst) hreads
  have hnone : messages[n]? = none := List.getElem?_eq_none (Nat.le_max_left ..)
  have hnone' : messages'[n]? = none := List.getElem?_eq_none (Nat.le_max_right ..)
  simp only [List.getElem?_mapIdx, List.getElem?_replicate, Nat.lt_succ_self, if_true, Option.map_some,
    hnone, hnone', Option.elim_none, Option.some.injEq] at hresult
  exact Except.error.inj hresult

/-! ### What is left when no message is whole -/

/-- The message that is made of what is left over. -/
def remainder (data : Bytes) : List Bytes := if data = [] then [] else [data]

theorem flatten_remainder (data : Bytes) : (remainder data).flatten = data := by
  unfold remainder
  split
  next h => exact h.symm
  · exact List.append_nil data

theorem nil_notMem_remainder (data : Bytes) : [] ∉ remainder data := by
  unfold remainder
  split
  · exact List.not_mem_nil
  next h => exact fun hmem => h (List.mem_singleton.mp hmem).symm

/-- Nothing comes behind what is left over. -/
theorem eq_nil_of_remainder {data message : Bytes} {early late : List Bytes}
    (h : remainder data = early ++ message :: late) : early = [] ∧ late = [] := by
  unfold remainder at h
  split at h
  · simp at h
  · obtain ⟨rfl, hlate⟩ | ⟨more, -, hnil⟩ := List.cons_eq_append_iff.mp h
    · exact ⟨rfl, (List.cons.inj hlate).2⟩
    · simp at hnil

theorem eq_append_remainder {data message : Bytes} {parts early late : List Bytes}
    (h : parts ++ remainder data = early ++ message :: late) (hlate : late ≠ []) :
    ∃ late', parts = early ++ message :: late' ∧ late = late' ++ remainder data := by
  rcases List.append_eq_append_iff.mp h with ⟨more, -, hmore⟩ | ⟨more, hparts, hmore⟩
  · exact absurd (eq_nil_of_remainder hmore).2 hlate
  · cases more with
    | nil =>
      have hremainder : remainder data = [] ++ message :: late := hmore.symm
      exact absurd (eq_nil_of_remainder hremainder).2 hlate
    | cons first more =>
      obtain ⟨rfl, hlate'⟩ := List.cons.inj hmore
      exact ⟨more, hparts, hlate'⟩

theorem look_of_empty (hclosed : s.buffer.closed = true) (hempty : s.buffer.contents = []) (now : Nat) :
    s.look now = (some (.error .closed), s) := by
  have hnothing : s.buffer.isEmpty = true := List.isEmpty_iff.mpr hempty
  simp [look, takeMessage_of_empty hempty, hclosed, hnothing]

theorem look_of_remainder (hclosed : s.buffer.closed = true) (hne : s.buffer.contents ≠ []) {now : Nat}
    (htake : s.takeMessage now = (.ok none, s)) :
    s.look now = (some (.ok s.buffer.contents), s.withContents []) := by
  have hsome : s.buffer.isEmpty = false := by simpa [Buffer.isEmpty] using hne
  simp [look, htake, hclosed, hsome, Buffer.takeAll, withContents]

/-- A closed session of which no part is cut off gives all that is buffered as one message. -/
theorem drains_remainder (hclosed : s.buffer.closed = true)
    (htake : s.buffer.contents ≠ [] → ∀ now, s.takeMessage now = (.ok none, s) ∨
      s.takeMessage now = (.ok (some s.buffer.contents), s.withContents [])) :
    s.Drains (remainder s.buffer.contents) .closed [] := by
  by_cases hempty : s.buffer.contents = []
  · have hnil := drains_nil (look_of_empty hclosed hempty)
    rwa [remainder, if_pos hempty, ← hempty]
  · have hnil : (s.withContents []).Drains [] .closed [] := drains_nil (look_of_empty hclosed rfl)
    rw [remainder, if_neg hempty]
    refine hnil.cons (List.append_nil _).symm fun now => ?_
    rcases htake hempty now with h | h
    · exact look_of_remainder hclosed hempty h
    · simp only [look, h]

/-! ### Silence -/

/-- By silence all that is buffered is a message, or nothing is yet. -/
theorem takeMessage_of_silence (hs : s.splitter = .silence) (hbare : s.heartbeatSlot? = none)
    (hne : s.buffer.contents ≠ []) (now : Nat) : s.takeMessage now = (.ok none, s) ∨
      s.takeMessage now = (.ok (some s.buffer.contents), s.withContents []) := by
  cases hlast : s.buffer.lastArrival with
  | none =>
    have hsome : s.buffer.isEmpty = false := by simpa [Buffer.isEmpty] using hne
    have hsplit : s.split now = .ok .needMore := by
      rw [split, hsome, hs]
      simp [Splitter.silence, view, Buffer.idle, hlast, Silence.decide]
    exact .inl (by rw [takeMessage, hsplit])
  | some last =>
    by_cases hwait : now - last < s.settings.readTimeout
    · exact .inl (takeMessage_of_waiting hs ⟨hne, hlast⟩ hwait)
    · exact .inr (takeMessage_of_silent hs hbare ⟨hne, hlast⟩ (Nat.not_lt.mp hwait))

theorem readsOut_of_silence (hs : s.splitter = .silence) (hbare : s.heartbeatSlot? = none)
    (hclosed : s.buffer.closed = true) : s.ReadsOut (remainder s.buffer.contents) := by
  refine ⟨drains_remainder hclosed (takeMessage_of_silence hs hbare), nil_notMem_remainder _, ?_⟩
  intro early message late hmessages hlate
  exact absurd (eq_nil_of_remainder hmessages).2 hlate

/-! ### Lines and lengths -/

/-- The reads give the messages that are cut off, and go on with what is left. -/
theorem Drains.behind_parts (hf : s.splitter = f.splitter) (hbare : s.heartbeatSlot? = none)
    (h : (s.withContents (Cut.all f.find s.buffer.contents).rest).Drains messages last tail) :
    s.Drains ((Cut.all f.find s.buffer.contents).parts ++ messages) last tail := by
  -- Each message that is cut off leaves a shorter buffer.
  induction hlength : s.buffer.contents.length using Nat.strongRecOn generalizing s with
  | _ n ih =>
    cases hstep : Cut.step? f.find s.buffer.contents with
    | error fault => rwa [Cut.all_of_error hstep] at h ⊢
    | ok found =>
      rcases found with _ | ⟨part, rest⟩
      · rwa [Cut.all_of_none hstep] at h ⊢
      · obtain ⟨hcontents, hlt⟩ := Cut.step?_some hstep
        have hverdict := Framing.verdict_of_some hstep
        rw [Cut.all_of_some hstep] at h ⊢
        have hrest : (s.withContents rest).Drains ((Cut.all f.find rest).parts ++ messages) last tail :=
          ih rest.length (hlength ▸ hlt) (s := s.withContents rest) hf hbare h rfl
        exact hrest.cons hcontents (look_of_verdict hf hbare hverdict)

/-- A closed session that cuts without a fault is read out. -/
theorem readsOut_of_sound (hf : s.splitter = f.splitter) (hbare : s.heartbeatSlot? = none)
    (hclosed : s.buffer.closed = true) (hsound : (Cut.all f.find s.buffer.contents).fault = none) :
    s.ReadsOut ((Cut.all f.find s.buffer.contents).parts ++
      remainder (Cut.all f.find s.buffer.contents).rest) := by
  have hrest : Cut.step? f.find (Cut.all f.find s.buffer.contents).rest = _ := Cut.step?_rest _
  rw [hsound] at hrest
  have hnone := Framing.verdict_eq_none_iff.mpr hrest
  refine ⟨?_, ?_, ?_⟩
  · refine Drains.behind_parts hf hbare (drains_remainder
      (s := s.withContents (Cut.all f.find s.buffer.contents).rest) hclosed fun _ now => .inl ?_)
    exact takeMessage_of_undecided (s := s.withContents (Cut.all f.find s.buffer.contents).rest) hf hnone now
  · rw [List.mem_append, not_or]
    exact ⟨Cut.nil_notMem_parts _, nil_notMem_remainder _⟩
  · intro early message late hmessages hlate now
    -- The message is not the remainder, for that one comes last.
    obtain ⟨late', hparts, hlate'⟩ := eq_append_remainder hmessages hlate
    have hstep := Cut.step?_part hparts
    have hflat : late.flatten = late'.flatten ++ (Cut.all f.find s.buffer.contents).rest := by
      rw [hlate', List.flatten_append, flatten_remainder]
    rw [← hflat] at hstep
    have htake := takeMessage_eq_step? (s := s.withContents (message :: late).flatten) hf now
    have hmessage : Cut.step? f.find (s.withContents (message :: late).flatten).buffer.contents =
      .ok (some (message, late.flatten)) := hstep
    rw [hmessage] at htake
    have hstrip : (s.withContents late.flatten).intercept = s.withContents late.flatten :=
      intercept_of_bare (s := s.withContents late.flatten) hbare
    exact htake.trans (congrArg (Prod.mk _) hstrip)

/-- A closed session that meets a fault gives the messages before it, and the fault for ever. -/
theorem drains_of_fault {fault : SplitFault} (hf : s.splitter = f.splitter) (hbare : s.heartbeatSlot? = none)
    (hfault : (Cut.all f.find s.buffer.contents).fault = some fault) :
    s.Drains (Cut.all f.find s.buffer.contents).parts (.splitter fault)
      (Cut.all f.find s.buffer.contents).rest := by
  have hverdict := Framing.verdict_of_error (Cut.fault_eq_some_iff.mp hfault)
  have hdrains := Drains.behind_parts hf hbare (drains_nil
    (s := s.withContents (Cut.all f.find s.buffer.contents).rest)
    (look_of_verdict (s := s.withContents (Cut.all f.find s.buffer.contents).rest) hf hbare hverdict))
  rwa [List.append_nil] at hdrains

end Session

open Length in
/-- A closed session without a heartbeat, to which nothing more comes. By silence all that is buffered is read
as one message; by lines the lines are, and then what is left over; and every read after them says that the
session is closed. So it is by lengths, unless what is left over begins with a header that announces more
than the limit: then the reads give the frames before it, every read after them fails with the fault of
the header, and what is left over is never given. No read waits. -/
theorem read_after_close {s : Session ε} (hclosed : s.buffer.closed = true)
    (hbare : s.heartbeatSlot? = none) :
    (s.splitter = .silence → s.ReadsOut (Session.remainder s.buffer.contents)) ∧
    (s.splitter = .line →
      let cut := Cut.all Framing.line.find s.buffer.contents
      s.ReadsOut (cut.parts ++ Session.remainder cut.rest)) ∧
    ∀ limit, s.splitter = .length limit →
      let cut := Cut.all (find limit) s.buffer.contents
      let malformed := headerLength ≤ cut.rest.length ∧ limit < announced cut.rest
      (¬ malformed → s.ReadsOut (cut.parts ++ Session.remainder cut.rest)) ∧
      (malformed →
        s.Drains cut.parts (.splitter (.frameTooLarge (announced cut.rest) limit)) cut.rest ∧
          ∀ messages, ¬ s.ReadsOut messages) := by
  refine ⟨fun hs => Session.readsOut_of_silence hs hbare hclosed, fun hs => ?_, fun limit hs => ?_⟩
  · exact Session.readsOut_of_sound (f := .line) hs hbare hclosed (Cut.fault_line _)
  · intro cut malformed
    have hf : s.splitter = (Framing.length limit).splitter := hs
    refine ⟨fun hwell => ?_, fun hmalformed => ?_⟩
    · have hsound : cut.fault = none := by
        refine Option.eq_none_iff_forall_ne_some.mpr fun fault hfault => hwell ?_
        obtain ⟨hheader, hbig, -⟩ := Cut.fault_length_iff.mp hfault
        exact ⟨hheader, hbig⟩
      exact Session.readsOut_of_sound hf hbare hclosed hsound
    · have hfault : cut.fault = some (.frameTooLarge (announced cut.rest) limit) :=
        Cut.fault_length_iff.mpr ⟨hmalformed.1, hmalformed.2, rfl⟩
      have hdrains := Session.drains_of_fault hf hbare hfault
      refine ⟨hdrains, fun messages hreads => ?_⟩
      cases hdrains.last_unique hreads.drains

/-- The session of a server that is closed with `data` buffered. -/
def Session.closedWith (splitter : Splitter) (data : Bytes) : Session ε :=
  ((Session.new 0 (.server "localhost" 6380) splitter).feed 4 data).2.close.2

/-- A line, and a part of one, are read before the session says that it is closed; a malformed header is not
read, and takes the place of that. -/
theorem read_after_close_pieces :
    let s : Session Empty := .closedWith .line [104, 105, 10, 104]
    let s' : Session Empty := .closedWith (.length 8) [0, 0, 0, 1, 104, 0, 0, 0, 9]
    (s.buffer.closed = true ∧ s.heartbeatSlot? = none ∧ s'.buffer.closed = true ∧
        s'.heartbeatSlot? = none) ∧
      s.ReadsOut [[104, 105, 10], [104]] ∧
      s'.Drains [[0, 0, 0, 1, 104]] (.splitter (.frameTooLarge 9 8)) [0, 0, 0, 9] := by
  intro s s'
  obtain ⟨-, hline, -⟩ := read_after_close (s := s) rfl rfl
  obtain ⟨-, -, hlength⟩ := read_after_close (s := s') rfl rfl
  refine ⟨⟨rfl, rfl, rfl, rfl⟩, ?_, ?_⟩
  · have hcut : Cut.all Framing.line.find s.buffer.contents = ⟨[[104, 105, 10]], none, [104]⟩ := by
      decide +kernel
    have hreads := hline rfl
    rwa [hcut] at hreads
  · have hcut : Cut.all (Length.find 8) s'.buffer.contents =
        ⟨[[0, 0, 0, 1, 104]], some (.frameTooLarge 9 8), [0, 0, 0, 9]⟩ := by decide +kernel
    have hreads := (hlength 8 rfl).2
    rw [hcut] at hreads
    exact (hreads ⟨by decide, by decide⟩).1

/-- Not every closed session is read out: behind a header that announces too much nothing is given any
more. -/
theorem remainder_withheld :
    ¬ ∀ s : Session Empty, s.buffer.closed = true → s.heartbeatSlot? = none →
      (s.splitter = .silence ∨ s.splitter = .line ∨ ∃ limit, s.splitter = .length limit) →
      ∃ messages, s.ReadsOut messages := by
  intro hall
  obtain ⟨messages, hreads⟩ := hall (Session.closedWith (.length 8) [0, 0, 0, 9]) rfl rfl
    (.inr (.inr ⟨8, rfl⟩))
  have hcontents : messages.flatten ++ [] = [0, 0, 0, 9] := hreads.drains.contents.symm
  have hfirst := hreads.drains.reads [0]
  have hread : (Session.closedWith (.length 8) [0, 0, 0, 9] : Session Empty).reads [0] =
      [⟨.error (.splitter (.frameTooLarge 9 8)), Session.closedWith (.length 8) [0, 0, 0, 9], 0, []⟩] := by
    rfl
  rw [hread] at hfirst
  cases messages with
  | nil => cases hcontents
  | cons message messages => simp at hfirst

end SessionEngine
