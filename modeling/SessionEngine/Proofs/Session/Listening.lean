import SessionEngine.Proofs.Session.Decoding
import SessionEngine.Proofs.Session.Pausing
import SessionEngine.Session.Read

/-! A session that cuts by silence and is read by its owner, without a heartbeat. A feed leaves the
buffer alone or adds to it (`buffer_feed`), and a read that wakes hands over what is buffered if that is
`Silent`, gives up if its window has passed, and else sleeps on (`pass_of_silent`, `pass_of_expired`,
`pass_of_waiting`). -/

namespace SessionEngine

variable {ε : Type}

theorem Buffer.eq_of_append {b b' : Buffer} {now : Nat} {data : Bytes}
    (h : b.append now data = .ok b') (hdata : data ≠ []) :
    b' = { b with
      contents := b.contents ++ data, generation := b.generation + 1, lastArrival := some now } := by
  unfold append at h
  rw [if_neg (by simpa using hdata)] at h
  split at h
  · cases h
  · exact (Except.ok.inj h).symm

namespace Session

/-- Something is buffered at `now`, and the last of it is as old as the read timeout. -/
def Silent (s : Session ε) (now : Nat) : Prop :=
  ∃ last, s.Holding last ∧ last + s.settings.readTimeout ≤ now

/-- An open session that cuts by silence, has no heartbeat, and has buffered nothing later than
`now`. -/
structure Listening (s : Session ε) (now : Nat) : Prop where
  splitter : s.splitter = .silence
  bare : s.heartbeatSlot? = none
  opened : s.buffer.closed = false
  patient : 0 < s.settings.readTimeout
  dated : s.buffer.contents ≠ [] → s.buffer.lastArrival ≠ none
  past : ∀ last ∈ s.buffer.lastArrival, last ≤ now

variable {s : Session ε} {now time started : Nat}

/-! ### Feeds -/

theorem Listening.holding (hs : s.Listening now) (hheld : s.buffer.contents ≠ []) :
    ∃ last ≤ now, s.Holding last := by
  obtain ⟨last, hlast⟩ := Option.ne_none_iff_exists'.mp (hs.dated hheld)
  exact ⟨last, hs.past last hlast, hheld, hlast⟩

theorem le_deadline (s : Session ε) (started : Nat) : started + s.settings.readTimeout ≤ s.deadline started :=
  Nat.add_le_add_right (Nat.le_max_left ..) _

theorem Holding.le_deadline {last : Nat} (h : s.Holding last) (started : Nat) :
    last + s.settings.readTimeout ≤ s.deadline started := by
  rw [deadline, h.arrival]
  exact Nat.add_le_add_right (Nat.le_max_right ..) _

theorem Listening.silent_of_deadline (hs : s.Listening now) (hheld : s.buffer.contents ≠ [])
    (htime : s.deadline started ≤ time) : s.Silent time := by
  obtain ⟨last, -, hlast⟩ := hs.holding hheld
  exact ⟨last, hlast, Nat.le_trans (hlast.le_deadline started) htime⟩

variable [Tls.RecordEngine ε]

/-- A feed leaves the buffer alone, or adds to it what the TLS layer makes of the bytes. -/
theorem buffer_feed (hbare : s.heartbeatSlot? = none) (now : Nat) (data : Bytes) :
    (s.feed now data).2.buffer = s.buffer ∨
      ∃ plain ≠ [], s.buffer.append now plain = .ok (s.feed now data).2.buffer := by
  rcases buffer_feed_brings hbare now data with ⟨-, hsame⟩ | ⟨hbrings, happend⟩
  · exact .inl hsame
  · exact .inr ⟨_, hbrings, happend⟩

theorem Listening.feed (hs : s.Listening now) (htime : now ≤ time) (data : Bytes) :
    (s.feed time data).2.Listening time := by
  have hkept := kept_feed s time data
  refine ⟨hkept.splitter.trans hs.splitter, hkept.heartbeatSlot?.trans hs.bare,
    hkept.closed.trans hs.opened, hkept.settings ▸ hs.patient, ?_, ?_⟩
  · rcases buffer_feed hs.bare time data with hsame | ⟨plain, hplain, happend⟩
    · rw [hsame]
      exact hs.dated
    · rw [Buffer.lastArrival_append happend hplain]
      exact fun _ => nofun
  · rcases buffer_feed hs.bare time data with hsame | ⟨plain, hplain, happend⟩
    · rw [hsame]
      exact fun last hlast => Nat.le_trans (hs.past last hlast) htime
    · rw [Buffer.lastArrival_append happend hplain]
      rintro last ⟨⟩
      exact Nat.le_refl time

/-! ### Deadlines -/

/-! ### What a read does when it wakes -/

theorem takeMessage_of_not_silent (hs : s.Listening now) (hwait : ¬ s.Silent time) :
    s.takeMessage time = (.ok none, s) := by
  by_cases hheld : s.buffer.contents = []
  · exact takeMessage_of_empty hheld time
  · obtain ⟨last, -, hlast⟩ := hs.holding hheld
    refine takeMessage_of_waiting hs.splitter hlast ?_
    have hyoung : ¬ last + s.settings.readTimeout ≤ time := fun hle => hwait ⟨last, hlast, hle⟩
    have hpatient := hs.patient
    omega

theorem look_of_not_silent (hs : s.Listening now) (hwait : ¬ s.Silent time) :
    s.look time = (none, s) := by
  simp [look, takeMessage_of_not_silent hs hwait, hs.opened]

theorem pass_of_silent (hs : s.Listening now) (h : s.Silent time) (started : Nat) :
    s.pass started time = (some (.ok s.buffer.contents), s.withContents []) := by
  obtain ⟨last, hlast, hle⟩ := h
  have hsilent : s.settings.readTimeout ≤ time - last := by omega
  have htake := takeMessage_of_silent hs.splitter hs.bare hlast hsilent
  simp only [pass, look, htake]

/-- A read sleeps on as long as there is no silence and its window has not passed. -/
theorem pass_of_waiting (hs : s.Listening now) (hwait : ¬ s.Silent time)
    (hsoon : time < s.deadline started) : s.pass started time = (none, s) := by
  simp only [pass, look_of_not_silent hs hwait, if_pos hsoon]

/-- A read gives up if nothing is there when its window has passed. -/
theorem pass_of_expired (hs : s.Listening now) (hempty : s.buffer.contents = [])
    (hlate : s.deadline started ≤ time) : s.pass started time =
      (some (.error (.readTimeout (Span.toMillis s.settings.readTimeout))), s) := by
  have hwait : ¬ s.Silent time := fun ⟨_, hlast, _⟩ => hlast.nonempty hempty
  simp only [pass, look_of_not_silent hs hwait, if_neg (Nat.not_lt.mpr hlate), lastLook,
    takeMessage_of_empty hempty]

/-- How a read ends that sleeps until its deadline: with what is buffered, or without a message. -/
theorem expire_eq (hs : s.Listening now) (started : Nat) (later : List (Nat × Intrusion)) :
    s.expire started later =
      ⟨if s.buffer.contents = [] then .error (.readTimeout (Span.toMillis s.settings.readTimeout))
        else .ok s.buffer.contents,
        s.withContents [], s.deadline started, later⟩ := by
  by_cases hheld : s.buffer.contents = []
  · have hsame : s.withContents [] = s := by rw [withContents, ← hheld]
    simp only [expire, pass_of_expired hs hheld (Nat.le_refl _), if_pos hheld, hsame]
  · have hsilent := hs.silent_of_deadline hheld (Nat.le_refl (s.deadline started))
    simp only [expire, pass_of_silent hs hsilent, if_neg hheld]

end Session

end SessionEngine
