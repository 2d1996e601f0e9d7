import SessionEngine.Proofs.Heartbeat.Lines
import SessionEngine.Proofs.Segmentation
import SessionEngine.Proofs.Session.Replying
import SessionEngine.Proofs.Text.LineFeeds

/-! The server of the demo answers lines with lines. Whatever bytes a line has, its text has no line feed
but the one at the end, which is taken off as white space, and so the answer has one line feed, at its end
(`isLine_answer`). What a stream of answers is cut into are the answers, one for each line. -/

namespace SessionEngine

variable {ε : Type} [Tls.RecordEngine ε]

namespace Demo

/-- The text of a line has no line feed, whatever its bytes are. -/
theorem newline_notMem_lineText {line : Bytes} (h : Bytes.IsLine line) : '\n' ∉ (lineText line).toList := by
  obtain ⟨text, rfl, htext⟩ := h
  have hdecode : Text.Lossy.decode (text ++ [Bytes.newline]) = Text.Lossy.decode text ++ ['\n'] := by
    rw [Text.Lossy.decode_append_ascii (by decide), Text.Lossy.decode]
    rfl
  have hnone : '\n' ∉ Text.Lossy.decode text := by
    rw [← List.count_eq_zero, Text.Lossy.count_newline_decode]
    exact List.count_eq_zero.mpr htext
  rw [lineText, Text.trimEnd, Text.Lossy.text, String.toList_ofList, String.toList_ofList, hdecode,
    Text.dropBlankEnd_concat (by decide)]
  exact fun hmem => hnone (Text.dropBlankEnd_subset _ hmem)

/-- The answer to a line is a line. -/
theorem isLine_answer {line : Bytes} (h : Bytes.IsLine line) : Bytes.IsLine (answer line) := by
  refine ⟨Bytes.ofString ("==== " ++ lineText line ++ " ====\r"), ?_, ?_⟩
  · have hend : " ====\r\n" = " ====\r" ++ "\n" := by decide
    have hfeed : Bytes.ofString "\n" = [Bytes.newline] := by decide +kernel
    rw [← hfeed, ← Bytes.ofString_append, String.append_assoc, ← hend]
    rfl
  · rw [Bytes.newline_mem_ofString_iff, String.toList_append, String.toList_append]
    simp only [List.mem_append, not_or]
    exact ⟨⟨by decide, newline_notMem_lineText h⟩, by decide⟩

end Demo

namespace Handler

/-- What telling a handler of events, one after the other, leaves behind. -/
def deliverAll (h : Handler μ ε) (now : Nat) (memory : μ) (s : Session ε) (events : List Event) :
    μ × Session ε :=
  events.foldl (fun (memory, s) e => h.deliver now memory e s) (memory, s)

theorem sendReply_of_sends {s : Session ε} (hs : s.Sends) (reply : Bytes) :
    sendReply reply s = (s.send reply).2 := by
  have hok := (hs.send reply).1
  rw [sendReply]
  rcases hsend : s.send reply with ⟨_ | _, s'⟩
  · rw [hsend] at hok
    cases hok
  · rfl

end Handler

namespace Demo

/-- A server that is told of lines sends the answers to them, in order. -/
theorem deliverAll_echo {s : Session ε} (hs : s.Sends) (now : Nat) (lines : List Bytes) :
    echo.deliverAll now () s (lines.map .receive) = ((), s.sendAll (lines.map answer)) := by
  induction lines generalizing s with
  | nil => rfl
  | cons line lines ih =>
    have hfirst : echo.deliver now () (.receive line) s = ((), (s.send (answer line)).2) := by
      rw [echo_receive, Handler.sendReply_of_sends hs]
    have hrest := ih (hs.send (answer line)).2.1
    simp only [Handler.deliverAll, List.map_cons, List.foldl_cons, hfirst] at hrest ⊢
    exact hrest

end Demo

/-- Lines are cut out of a stream of them, and nothing is left. -/
theorem Cut.all_lines {lines : List Bytes} (h : ∀ line ∈ lines, Bytes.IsLine line) :
    all Framing.line.find lines.flatten = ⟨lines, none, []⟩ := by
  have hnothing : step? Framing.line.find [] = .ok none := rfl
  have hall := Framing.all_messages (fun line hline => Framing.isMessage_of_isLine (h line hline)) hnothing
  rwa [List.append_nil] at hall

open Demo in
/-- The server of the demo answers line for line. Text that is read from any bytes has the line feeds of the
bytes, and so the answer to a line, of any bytes, has one line feed, at its end. A server that is told of
lines sends the answers, in order. However the stream of the answers is cut into chunks, line framing cuts the
answers out of it, one for each line, in order, and leaves nothing; and so does a session with that framing,
without a heartbeat, that takes the chunks in while its handler is told and acts at any moment. -/
theorem answers_line_for_line :
    (∀ data : Bytes, (Text.Lossy.text data).toList.count '\n' = data.count Bytes.newline) ∧
    (∀ line : Bytes, echo.respond () (.receive line) = (.done () (some (answer line)) : Script Unit ε) ∧
      (Bytes.IsLine line → Bytes.IsLine (answer line))) ∧
    ∀ lines : List Bytes, (∀ line ∈ lines, Bytes.IsLine line) →
      (∀ (now : Nat) (s : Session ε), s.Sends →
        (echo.deliverAll now () s (lines.map .receive)).2.writer.taken =
          s.writer.taken ++ s.payloads (lines.map answer)) ∧
      ∀ chunks : List Bytes, chunks.flatten = (lines.map answer).flatten →
        Cut.ofChunks Framing.line.find chunks = ⟨lines.map answer, none, []⟩ ∧
        ∀ (μ : Type) (h : Handler μ ε) (s : Session ε) (memory : μ) (moves : List (Nat × Move)),
          s.tls = none → s.settings.handled = true → s.splitter = .line → s.buffer.contents = [] →
          moves.filterMap (·.2.deed?) = Deed.ofChunks chunks →
          (Course.start s memory).Admits h moves →
          ((Course.start s memory).run h moves).session.heartbeatSlot? = none →
          ((Course.start s memory).run h moves).fired.filterMap Event.message? = lines.map answer ∧
            ((Course.start s memory).run h moves).session.buffer.contents = [] := by
  refine ⟨fun data => ?_, fun line => ⟨rfl, isLine_answer⟩, fun lines hlines => ?_⟩
  · rw [Text.Lossy.text, String.toList_ofList, Text.Lossy.count_newline_decode]
  have hanswers : ∀ reply ∈ lines.map answer, Bytes.IsLine reply := by
    intro reply hreply
    obtain ⟨line, hline, rfl⟩ := List.mem_map.mp hreply
    exact isLine_answer (hlines line hline)
  refine ⟨fun now s hs => ?_, fun chunks hchunks => ?_⟩
  · rw [deliverAll_echo hs, Session.taken_sendAll hs]
  have hcut : Cut.all Framing.line.find chunks.flatten = ⟨lines.map answer, none, []⟩ := by
    rw [hchunks]
    exact Cut.all_lines hanswers
  refine ⟨?_, fun μ h s memory moves hplain hhandled hsplitter hempty hmoves hadmits hbare => ?_⟩
  · rw [Cut.stable_line.ofChunks_eq, hcut]
  · have hstart : (Course.start s memory).Cuts .line false [] :=
      Course.cuts_start (f := .line) hplain hhandled hsplitter hempty memory
    have hcuts := Course.cuts_run hstart hmoves hadmits hbare
    rw [hcuts.messages, hcuts.rest, hcut]
    exact ⟨rfl, rfl⟩

open Demo in
/-- A sequence that its line feed breaks off, an empty line, and one that ends in another white space. The
answers come in three chunks, and the second one ends before a line feed. -/
theorem answers_line_for_line_malformed :
    let lines : List Bytes := [[0xe2, 0x82, 10], [10], [104, 0xc2, 0x85, 13, 10]]
    let replies : List Bytes := [[61, 61, 61, 61, 32, 0xef, 0xbf, 0xbd, 32, 61, 61, 61, 61, 13, 10],
      [61, 61, 61, 61, 32, 32, 61, 61, 61, 61, 13, 10],
      [61, 61, 61, 61, 32, 104, 32, 61, 61, 61, 61, 13, 10]]
    let chunks : List Bytes := [replies.flatten.take 6, (replies.flatten.drop 6).take 20,
      replies.flatten.drop 26]
    let server : Session Empty :=
      { Session.new 0 { Settings.server "localhost" 6380 with handled := true } .line with
        stage := .connected
        writer := Writer.absent.install }
    let s : Session Empty := .new 0 { Settings.client "localhost" 6380 with handled := true } .line
    let moves : List (Nat × Move) := (Deed.ofChunks chunks).map fun d => (0, .deed d)
    let c := (Course.start s ()).run ⟨fun _ _ => .nothing ()⟩ moves
    ((∀ line ∈ lines, Bytes.IsLine line) ∧ server.Sends ∧ c.session.heartbeatSlot? = none) ∧
      (echo.deliverAll 0 () server (lines.map .receive)).2.writer.taken = replies ∧
      Cut.ofChunks Framing.line.find chunks = ⟨replies, none, []⟩ ∧
      c.fired.filterMap Event.message? = replies ∧ c.session.buffer.contents = [] := by
  intro lines replies chunks server s moves c
  have hlines : ∀ line ∈ lines, Bytes.IsLine line := by
    simp only [lines, List.forall_mem_cons, List.not_mem_nil, false_implies, implies_true, and_true]
    exact ⟨⟨[0xe2, 0x82], rfl, by decide⟩, ⟨[], rfl, by decide⟩, ⟨[104, 0xc2, 0x85, 13], rfl, by decide⟩⟩
  have hserver : server.Sends := Session.sends_of_plain rfl rfl ⟨rfl, rfl⟩ rfl
  have hreplies : lines.map answer = replies := by decide +kernel
  have hchunks : chunks.flatten = (lines.map answer).flatten := by
    rw [hreplies]
    decide
  have hbare : c.session.heartbeatSlot? = none := by decide +kernel
  obtain ⟨hsent, hread⟩ := (@answers_line_for_line Empty _).2.2 lines hlines
  obtain ⟨hcut, hsession⟩ := hread chunks hchunks
  obtain ⟨hmessages, hempty⟩ := hsession Unit ⟨fun _ _ => .nothing ()⟩ s () moves rfl rfl rfl rfl
    (rfl : moves.filterMap _ = _) (by decide +kernel) hbare
  rw [hreplies] at hsent hcut hmessages
  exact ⟨⟨hlines, hserver, hbare⟩, hsent 0 server hserver, hcut, hmessages, hempty⟩

end SessionEngine
