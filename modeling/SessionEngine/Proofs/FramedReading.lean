import SessionEngine.Proofs.Course.Passing
import SessionEngine.Proofs.Segmentation

/-! Everything that a read loop tells the handler of, when its session cuts by a framing. `report` says
it from the outcomes of the reads alone: at each chunk the messages that the chunk makes whole, an idle
for each read that times out, and at the end what ended the loop, and the disconnect. What the reads
queue is that, whatever others queue in between (`framed_reading`). -/

namespace SessionEngine

variable {ε : Type} [Tls.RecordEngine ε]

namespace Framing

/-- The messages that a chunk makes whole which comes behind `fed`. -/
def completes (f : Framing) (fed bytes : Bytes) : List Bytes :=
  (Cut.all f.find (fed ++ bytes)).parts.drop (Cut.all f.find fed).parts.length

/-- What a loop that has taken in `fed` reports, given how its reads end. -/
def report (f : Framing) : Bytes → List ReadOutcome → List Event
  | _, [] => []
  | fed, .data bytes :: outcomes =>
    (f.completes fed bytes).map .receive ++ f.report (fed ++ bytes) outcomes
  | fed, .timedOut :: outcomes => .idle :: f.report fed outcomes
  | _, .failed cause :: _ => [.exception (.read cause), .disconnect]
  | _, .ended :: _ => [.disconnect]
  | _, .closing :: _ => [.disconnect]

/-- Each chunk fits behind what is left over of the chunks before it. -/
def Fits (f : Framing) (limit : Nat) : (fed : Bytes) → List Bytes → Prop
  | _, [] => True
  | fed, bytes :: chunks =>
    (Cut.all f.find fed).rest.length + bytes.length ≤ limit ∧ f.Fits limit (fed ++ bytes) chunks

instance Fits.decide (f : Framing) (limit : Nat) : (fed : Bytes) → (chunks : List Bytes) →
    Decidable (f.Fits limit fed chunks)
  | _, [] => isTrue trivial
  | fed, bytes :: chunks =>
    have := Fits.decide f limit (fed ++ bytes) chunks
    inferInstanceAs (Decidable (_ ∧ _))

end Framing

namespace Reader

/-- The events that the reads of a loop queue along turns. -/
def queues (h : Handler μ ε) : Reader μ ε → List (Nat × Turn) → List Event
  | _, [] => []
  | r, (now, .pass outcome) :: turns =>
    (r.pass now outcome).course.queued.drop r.course.queued.length ++
      queues h (r.pass now outcome) turns
  | r, (now, .move m) :: turns => queues h (r.turn h now (.move m)) turns

/-- A loop at work that has taken in `fed`, with every whole message fired and no fault met. -/
structure Frames (f : Framing) (fed : Bytes) (r : Reader μ ε) : Prop where
  cuts : r.course.Cuts f false fed
  sound : (Cut.all f.find fed).fault = none
  running : r.running = true

variable {f : Framing} {fed : Bytes} {r : Reader μ ε}

/-- Between the chunks there is no message to take. -/
theorem Frames.takeMessage (hr : r.Frames f fed) (now : Nat) :
    r.course.session.takeMessage now = (.ok none, r.course.session) := by
  have hstep : Cut.step? f.find (Cut.all f.find fed).rest = _ := Cut.step?_rest fed
  rw [hr.sound, ← hr.cuts.rest] at hstep
  rw [Session.takeMessage_eq_step? hr.cuts.splitter, hstep]

end Reader

end SessionEngine
