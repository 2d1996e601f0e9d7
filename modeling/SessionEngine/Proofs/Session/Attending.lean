import SessionEngine.Proofs.Session.Cutting
import SessionEngine.Proofs.Session.Decoding
import SessionEngine.Proofs.Session.Listening
import SessionEngine.Proofs.Timing.Windows

/-! A session that cuts by a framing and is read by its owner, without a heartbeat. A feed adds to the
buffer what it `brings` (`buffer_feed_brings`), and a read that wakes ends with the verdict on what is
buffered, gives up if there is none and its window has passed, and else sleeps on (`pass_of_verdict`,
`pass_of_late`, `pass_of_undecided`). -/

namespace SessionEngine.Session

variable {ε : Type}

variable {s : Session ε} {now time started : Nat} {feeds : List Arrival}

/-- An open session that cuts by the framing `f`, has no heartbeat, and has buffered nothing later than
`now`. -/
structure Attending (f : Framing) (s : Session ε) (now : Nat) : Prop where
  splitter : s.splitter = f.splitter
  bare : s.heartbeatSlot? = none
  opened : s.buffer.closed = false
  patient : 0 < s.settings.readTimeout
  past : ∀ last ∈ s.buffer.lastArrival, last ≤ now

variable {f : Framing}

theorem Attending.deadline_eq (hs : s.Attending f started) :
    s.deadline started = started + s.settings.readTimeout := by
  unfold deadline
  cases hlast : s.buffer.lastArrival with
  | none => simp
  | some last =>
    have hpast := hs.past last hlast
    rw [Option.getD_some, Nat.max_eq_left hpast]

variable [Tls.RecordEngine ε]

/-! ### What feeds bring -/

/-- The bytes that feeds bring to the buffer, with the times at which any come. -/
def arrivals (s : Session ε) : List Arrival → List Arrival
  | [] => []
  | a :: feeds =>
    if s.brings a.1 a.2 = [] then (s.feed a.1 a.2).2.arrivals feeds
    else (a.1, s.brings a.1 a.2) :: (s.feed a.1 a.2).2.arrivals feeds

/-- The session that has been fed. -/
def fedBy (s : Session ε) (feeds : List Arrival) : Session ε :=
  feeds.foldl (fun s a => (s.feed a.1 a.2).2) s

/-- A plaintext session is brought the chunks that it is fed, if none is refused. -/
theorem arrivals_of_plain (hplain : s.tls = none)
    (hfed : ∀ early a late, feeds = early ++ a :: late → ((s.fedBy early).feed a.1 a.2).1 = .ok ()) :
    s.arrivals feeds = feeds.filter (·.2 ≠ []) := by
  induction feeds generalizing s with
  | nil => rfl
  | cons a feeds ih =>
    have hbrings : s.brings a.1 a.2 = a.2 :=
      (brings_of_ok (hfed [] a feeds rfl)).trans (decoded_of_plain hplain a.2)
    have hrest : (s.feed a.1 a.2).2.arrivals feeds = feeds.filter (·.2 ≠ []) := by
      refine ih ((kept_feed s a.1 a.2).plain hplain) fun early b late hfeeds => ?_
      exact hfed (a :: early) b late (by rw [hfeeds, List.cons_append])
    rw [arrivals, hbrings, hrest, List.filter_cons]
    by_cases hempty : a.2 = [] <;> simp [hempty]

/-! ### The session -/

theorem Attending.feed (hs : s.Attending f now) (htime : now ≤ time) (data : Bytes) :
    (s.feed time data).2.Attending f time := by
  have hkept := kept_feed s time data
  refine ⟨hkept.splitter.trans hs.splitter, hkept.heartbeatSlot?.trans hs.bare,
    hkept.closed.trans hs.opened, hkept.settings ▸ hs.patient, ?_⟩
  rcases buffer_feed_brings hs.bare time data with ⟨-, hsame⟩ | ⟨hbrings, happend⟩
  · rw [hsame]
    exact fun last hlast => (hs.past last hlast).trans htime
  · rw [Buffer.lastArrival_append happend hbrings]
    rintro last ⟨⟩
    exact Nat.le_refl time

/-! ### What a read does when it wakes -/

theorem look_of_verdict {result : Except Error Bytes} {rest : Bytes} (hf : s.splitter = f.splitter)
    (hbare : s.heartbeatSlot? = none) (hfound : f.verdict s.buffer.contents = some (result, rest))
    (time : Nat) : s.look time = (some result, s.withContents rest) := by
  have htake := takeMessage_eq_step? hf time
  unfold Framing.verdict at hfound
  split at hfound
  next message rest' hstep =>
    cases hfound
    have hstrip : (s.withContents rest).intercept = s.withContents rest := intercept_of_bare hbare
    rw [hstep] at htake
    simp only [look, htake, hstrip]
  · cases hfound
  next fault hstep =>
    cases hfound
    rw [hstep] at htake
    simp only [look, htake]
    rfl

theorem takeMessage_of_undecided (hf : s.splitter = f.splitter)
    (hnone : f.verdict s.buffer.contents = none) (time : Nat) : s.takeMessage time = (.ok none, s) := by
  have htake := takeMessage_eq_step? hf time
  rwa [Framing.verdict_eq_none_iff.mp hnone] at htake

theorem look_of_undecided (hs : s.Attending f now) (hnone : f.verdict s.buffer.contents = none)
    (time : Nat) : s.look time = (none, s) := by
  simp [look, takeMessage_of_undecided hs.splitter hnone, hs.opened]

theorem pass_of_verdict {result : Except Error Bytes} {rest : Bytes} (hs : s.Attending f now)
    (hfound : f.verdict s.buffer.contents = some (result, rest)) (started time : Nat) :
    s.pass started time = (some result, s.withContents rest) := by
  simp only [pass, look_of_verdict hs.splitter hs.bare hfound]

/-- A read sleeps on as long as nothing is decided and its window has not passed. -/
theorem pass_of_undecided (hs : s.Attending f now) (hnone : f.verdict s.buffer.contents = none)
    (hsoon : time < s.deadline started) : s.pass started time = (none, s) := by
  simp only [pass, look_of_undecided hs hnone, if_pos hsoon]

/-- A read gives up if nothing is decided when its window has passed. -/
theorem pass_of_late (hs : s.Attending f now) (hnone : f.verdict s.buffer.contents = none)
    (hlate : s.deadline started ≤ time) : s.pass started time =
      (some (.error (.readTimeout (Span.toMillis s.settings.readTimeout))), s) := by
  simp only [pass, look_of_undecided hs hnone, if_neg (Nat.not_lt.mpr hlate), lastLook,
    takeMessage_of_undecided hs.splitter hnone]

end SessionEngine.Session
