import SessionEngine.Proofs.Framing.Growing
import SessionEngine.Proofs.Session.Deed

/-! How a session whose splitter goes by a framing cuts its buffer. The main statements are
`takeMessage_eq_step?`, by which a message is taken as one step of cutting takes it, and
`dispatchAll_of_bare`: without a heartbeat, a dispatch cuts the whole buffer. -/

namespace SessionEngine.Session

variable {ε : Type}

theorem split_eq_find {s : Session ε} {f : Framing} (hf : s.splitter = f.splitter) (now : Nat) :
    s.split now = if s.buffer.contents.isEmpty then .ok .needMore
      else (f.find s.buffer.contents).mapError .splitter := by
  rw [split, hf, Framing.splitter_eq]
  rfl

variable [Tls.RecordEngine ε]

/-- A message is taken by one step of cutting, and stripping follows. -/
theorem takeMessage_eq_step? {s : Session ε} {f : Framing} (hf : s.splitter = f.splitter) (now : Nat) :
    s.takeMessage now =
      match Cut.step? f.find s.buffer.contents with
      | .error fault => (.error (.splitter fault), s)
      | .ok none => (.ok none, s)
      | .ok (some (part, rest)) => (.ok (some part), (s.withContents rest).intercept) := by
  unfold takeMessage Cut.step?
  rw [split_eq_find hf]
  split_ifs with hempty
  · rfl
  · cases hfind : f.find s.buffer.contents with
    | error fault => rfl
    | ok answer =>
      rcases answer with _ | _ | n
      · rfl
      · rfl
      · simp only [Except.mapError, Buffer.take?, if_neg (Nat.succ_ne_zero n)]
        by_cases hle : n + 1 ≤ s.buffer.length
        · simp only [if_pos hle, if_pos (show n + 1 ≤ s.buffer.contents.length from hle)]
          rfl
        · simp only [if_neg hle, if_neg (show ¬ n + 1 ≤ s.buffer.contents.length from hle)]
          rfl

theorem intercept_of_bare {s : Session ε} (h : s.heartbeatSlot? = none) : s.intercept = s := by
  simp only [intercept, h]

/-- Without a heartbeat a plaintext session takes a chunk in as it is. -/
theorem feed_of_bare {s : Session ε} (hplain : s.tls = none) (hbare : s.heartbeatSlot? = none)
    (now : Nat) (data : Bytes) :
    s.feed now data = match s.buffer.append now data with
      | .error cause => (.error (.read cause), s)
      | .ok buffer => (.ok (), { s with buffer }) := by
  have hfeed : s.feed now data = s.feedPlaintext now data := by rw [feed, hplain]
  simp only [hfeed, feedPlaintext]
  cases s.buffer.append now data with
  | error cause => rfl
  | ok buffer => exact congrArg (Prod.mk _) (intercept_of_bare (s := { s with buffer }) hbare)

/-- Without a heartbeat a dispatch cuts the whole buffer: it fires the messages and the fault, and
leaves the rest. -/
theorem dispatchAll_of_bare {s : Session ε} {f : Framing} (hf : s.splitter = f.splitter)
    (hbare : s.heartbeatSlot? = none) (now : Nat) :
    s.offers now = (Cut.all f.find s.buffer.contents).parts.map .receive ++
        (Cut.all f.find s.buffer.contents).fault.toList.map (.exception <| .splitter ·) ∧
      (s.dispatchAll now).2.buffer.contents = (Cut.all f.find s.buffer.contents).rest := by
  fun_induction dispatchAll s now with
  | case1 s message s' h _ n t hrest ih =>
    have htake := takeMessage_eq_step? hf now
    rw [h] at htake
    split at htake
    · cases htake
    · cases htake
    next part rest hstep =>
      cases htake
      have hstrip : (s.withContents rest).intercept = s.withContents rest := intercept_of_bare hbare
      rw [hstrip] at h hrest ih
      obtain ⟨hoffers, hcontents⟩ := ih hf hbare
      rw [hrest] at hcontents
      rw [offers_of_message h, hoffers, Cut.all_of_some hstep]
      exact ⟨rfl, hcontents⟩
  | case2 s s' h =>
    have htake := takeMessage_eq_step? hf now
    rw [h] at htake
    split at htake
    · cases htake
    next hstep =>
      cases htake
      rw [offers_of_none h, Cut.all_of_none hstep]
      exact ⟨rfl, rfl⟩
    · cases htake
  | case3 s e s' h =>
    have htake := takeMessage_eq_step? hf now
    rw [h] at htake
    split at htake
    next fault hstep =>
      cases htake
      rw [offers_of_error h, Cut.all_of_error hstep]
      exact ⟨rfl, rfl⟩
    · cases htake
    · cases htake

end SessionEngine.Session
