import Mathlib.Data.List.Infix
import SessionEngine.Proofs.Session.Attending
import SessionEngine.Proofs.SilentReading

/-! When a synchronous read of a session that cuts by a framing returns, and with what. A sleeping read is
woken by each arrival and by nothing else before its deadline, so it goes through a wait step by step
(`awaits_sleep`); `read_by_framing` says how the wait ends, by the arrivals alone. -/

namespace SessionEngine

variable {ε : Type} [Tls.RecordEngine ε]

namespace Session

variable {f : Framing} {s : Session ε} {now started anchor : Nat} {a : Arrival} {feeds : List Arrival}

/-- What feeds bring comes in order of time. -/
theorem arrivals_order (horder : (now :: feeds.map Prod.fst).IsChain (· ≤ ·)) :
    (now :: (s.arrivals feeds).map Prod.fst).IsChain (· ≤ ·) := by
  induction feeds generalizing s now with
  | nil => exact .singleton now
  | cons a feeds ih =>
    obtain ⟨hafter, hrest⟩ := List.isChain_cons_cons.mp horder
    unfold arrivals
    split
    · exact ih (hrest.imp_head fun hle => Nat.le_trans hafter hle)
    · exact List.isChain_cons_cons.mpr ⟨hafter, ih hrest⟩

/-! ### One arrival -/

/-- A feed that brings nothing does not wake a sleeping read. -/
theorem sleep_of_same (hs : s.Attending f now) (hsame : (s.feed a.1 a.2).2.buffer = s.buffer)
    (hsoon : a.1 < s.deadline started) (others : List (Nat × Intrusion)) :
    s.sleep started s.buffer.generation (a.act :: others) =
      (s.feed a.1 a.2).2.sleep started (s.feed a.1 a.2).2.buffer.generation others := by
  rw [Arrival.act, sleep, if_neg (Nat.not_le.mpr hsoon)]
  simp [intrude, Buffer.changedSince, hsame, hs.opened]

/-- A read that is woken looks, and sleeps on if it finds nothing. -/
theorem sleep_of_append (happend : s.buffer.append a.1 data = .ok (s.feed a.1 a.2).2.buffer)
    (hdata : data ≠ []) (hsoon : a.1 < s.deadline started) (others : List (Nat × Intrusion)) :
    s.sleep started s.buffer.generation (a.act :: others) =
      match (s.feed a.1 a.2).2.pass started a.1 with
      | (some result, s') => ⟨result, s', a.1, others⟩
      | (none, s') => s'.sleep started s'.buffer.generation others := by
  have hchanged : (s.feed a.1 a.2).2.buffer.changedSince s.buffer.generation = true := by
    rw [Buffer.changedSince, Buffer.eq_of_append happend hdata]
    simp
  rw [Arrival.act, sleep, if_neg (Nat.not_le.mpr hsoon)]
  exact if_pos hchanged

/-- The window of a read starts again when bytes come. -/
theorem deadline_of_append (happend : s.buffer.append a.1 data = .ok (s.feed a.1 a.2).2.buffer)
    (hdata : data ≠ []) (hafter : started ≤ a.1) :
    (s.feed a.1 a.2).2.deadline started = a.1 + s.settings.readTimeout := by
  rw [deadline, Buffer.lastArrival_append happend hdata, (kept_feed s a.1 a.2).settings,
    Option.getD_some, Nat.max_eq_right hafter]

theorem expire_of_undecided (hs : s.Attending f now) (hnone : f.verdict s.buffer.contents = none)
    (started : Nat) (later : List (Nat × Intrusion)) :
    s.expire started later = ⟨.error (.readTimeout (Span.toMillis s.settings.readTimeout)), s,
      s.deadline started, later⟩ := by
  simp only [expire, pass_of_late hs hnone (Nat.le_refl _)]

/-! ### All arrivals -/

/-- A read that sleeps goes through a wait for what the feeds bring. -/
theorem awaits_sleep (hs : s.Attending f now) (hnone : f.verdict s.buffer.contents = none)
    (horder : (now :: feeds.map Prod.fst).IsChain (· ≤ ·)) (hstarted : started ≤ now)
    (hanchor : anchor ≤ now) (hdeadline : s.deadline started = anchor + s.settings.readTimeout) :
    let e := s.sleep started s.buffer.generation (feeds.map Arrival.act)
    f.Awaits s.settings.readTimeout anchor s.buffer.contents (s.arrivals feeds) e.result e.time
      e.session.buffer.contents ∧ s.Kept e.session := by
  induction feeds generalizing s now anchor with
  | nil =>
    simp only [List.map_nil, sleep, expire_of_undecided hs hnone, hdeadline]
    exact ⟨.expires (by simp [arrivals]), .refl s⟩
  | cons a feeds ih =>
    obtain ⟨hafter, hrest⟩ := List.isChain_cons_cons.mp horder
    have hkept := kept_feed s a.1 a.2
    have hs' := hs.feed hafter a.2
    by_cases hsoon : a.1 < s.deadline started
    · rcases buffer_feed_brings hs.bare a.1 a.2 with ⟨hbrings, hsame⟩ | ⟨hbrings, happend⟩
      -- A feed that brings nothing is no arrival, and the window goes on.
      · have hdeadline' : (s.feed a.1 a.2).2.deadline started = anchor + s.settings.readTimeout := by
          rw [← hdeadline, deadline, hsame, hkept.settings, ← deadline]
        obtain ⟨hawaits, hkept'⟩ := ih hs' (by rwa [hsame]) hrest (hstarted.trans hafter)
          (hanchor.trans hafter) (by rw [hdeadline', hkept.settings])
        rw [hsame, hkept.settings] at hawaits
        simp only [List.map_cons, sleep_of_same hs hsame hsoon, arrivals, if_pos hbrings]
        exact ⟨hsame ▸ hawaits, hkept.trans hkept'⟩
      · have hdeadline' := deadline_of_append happend hbrings (hstarted.trans hafter)
        have hcontents := Buffer.contents_append happend
        rw [hdeadline] at hsoon
        simp only [List.map_cons, sleep_of_append happend hbrings (hdeadline ▸ hsoon), arrivals,
          if_neg hbrings]
        cases hverdict : f.verdict (s.feed a.1 a.2).2.buffer.contents with
        | some found =>
          obtain ⟨result, rest⟩ := found
          simp only [pass_of_verdict hs' hverdict]
          exact ⟨.decides hsoon (hcontents ▸ hverdict), hkept.trans (kept_withContents _ rest)⟩
        | none =>
          have hsoon' : a.1 < (s.feed a.1 a.2).2.deadline started := by
            rw [hdeadline']
            omega
          obtain ⟨hawaits, hkept'⟩ := ih hs' hverdict hrest (hstarted.trans hafter) (Nat.le_refl _)
            (by rw [hdeadline', hkept.settings])
          rw [hcontents, hkept.settings] at hawaits
          simp only [pass_of_undecided hs' hverdict hsoon']
          exact ⟨.restarts hsoon (hcontents ▸ hverdict) hawaits, hkept.trans hkept'⟩
    -- The deadline comes before all that is fed from here on.
    · have hlate : s.deadline started ≤ a.1 := Nat.not_lt.mp hsoon
      have harrivals : (s.deadline started :: (s.arrivals (a :: feeds)).map Prod.fst).IsChain (· ≤ ·) :=
        arrivals_order (List.isChain_cons_cons.mpr ⟨hlate, hrest⟩)
      rw [List.map_cons, Arrival.act, sleep, if_pos hlate]
      simp only [expire_of_undecided hs hnone, hdeadline]
      refine ⟨.expires fun b hb => ?_, .refl s⟩
      rw [← hdeadline]
      exact harrivals.rel_head? (by rw [List.head?_map, Option.mem_def.mp hb]; rfl)

end Session

/-- A synchronous read of an open session that cuts by a framing, without a heartbeat, in virtual time. If
what is buffered is decided when it begins, it ends at once. Else it ends with the first arrival that
decides what is buffered, if all gaps up to it are shorter than the read timeout: with the first message
then, exactly, or with the fault of the splitter. And if no run of arrivals with such gaps decides
anything, it times out at the first moment when the read timeout has passed since it began and since all
that has come; every byte that has come by then is buffered, in order. Nothing but the buffer, the TLS
layer and the writer is changed; the session stays open. What comes to a plaintext session is what it is
fed, if nothing is refused. -/
theorem read_by_framing {f : Framing} {s : Session ε} {started : Nat} (hs : s.Attending f started)
    {feeds : List Arrival} (horder : (started :: feeds.map Prod.fst).IsChain (· ≤ ·)) :
    let e := s.read started (feeds.map Arrival.act)
    let coming := s.arrivals feeds
    let held := fun come : List Arrival => s.buffer.contents ++ come.flatMap Prod.snd
    let timeout := s.settings.readTimeout
    (∀ result rest, f.verdict s.buffer.contents = some (result, rest) →
      e.result = result ∧ e.time = started ∧ e.session.buffer.contents = rest) ∧
    (∀ early a late result rest, coming = early ++ a :: late →
      Prompt timeout started (early ++ [a]) → f.verdict (held early) = none →
      f.verdict (held (early ++ [a])) = some (result, rest) →
      e.result = result ∧ e.time = a.1 ∧ e.session.buffer.contents = rest) ∧
    ((∀ come, come <+: coming → Prompt timeout started come → f.verdict (held come) = none) →
      e.result = .error (.readTimeout (Span.toMillis timeout)) ∧
      IsLeast {time | started + timeout ≤ time ∧ ∀ a ∈ coming, a.1 < time → a.1 + timeout ≤ time}
        e.time ∧
      e.session.buffer.contents = held (coming.takeWhile (·.1 < e.time))) ∧
    s.Kept e.session ∧
    (s.tls = none →
      (∀ early a late, feeds = early ++ a :: late → ((s.fedBy early).feed a.1 a.2).1 = .ok ()) →
      coming = feeds.filter (·.2 ≠ [])) := by
  intro e coming held timeout
  cases hverdict : f.verdict s.buffer.contents with
  | some found =>
    have hread : e = ⟨found.1, s.withContents found.2, started, feeds.map Arrival.act⟩ :=
      Session.read_of_pass (Session.pass_of_verdict hs hverdict started started) _
    refine ⟨?_, ?_, ?_, ?_, Session.arrivals_of_plain⟩
    · rintro result rest ⟨⟩
      rw [hread]
      exact ⟨rfl, rfl, rfl⟩
    · intro early a late result rest _ _ hnone _
      rw [Framing.verdict_of_append hnone] at hverdict
      cases hverdict
    · intro hwait
      have hnone := hwait [] List.nil_prefix (prompt_nil timeout started)
      rw [Framing.verdict_of_append hnone] at hverdict
      cases hverdict
    · rw [hread]
      exact Session.kept_withContents s found.2
  | none =>
    have hdeadline := hs.deadline_eq
    have hsoon : started < s.deadline started := by
      rw [hdeadline]
      exact Nat.lt_add_of_pos_right hs.patient
    have hread : e = s.sleep started s.buffer.generation (feeds.map Arrival.act) := by
      simp only [e, Session.read, Session.pass_of_undecided hs hverdict hsoon]
    obtain ⟨hawaits, hkept⟩ := Session.awaits_sleep hs hverdict horder (Nat.le_refl _) (Nat.le_refl _)
      hdeadline
    rw [← hread] at hawaits hkept
    refine ⟨fun result rest hfound => (by cases hfound), ?_, ?_, hkept, Session.arrivals_of_plain⟩
    · intro early a late result rest hcoming hprompt hnone hfound
      exact hawaits.decided hcoming hprompt hnone hfound
    · exact hawaits.expired (Session.arrivals_order horder)

/-- A frame comes in four pieces, the first one before the read, and the piece behind it is not read; where
the third piece is late, the read has timed out before it. -/
theorem read_by_framing_pieces :
    let s : Session Empty := ((Session.new 0 { Settings.server "localhost" 6380 with readTimeout := 10 }
      (.length 4)).feed 4 [0, 0]).2
    let feeds : List Arrival := [(9, [0, 2]), (12, [104]), (20, [105, 0]), (21, [0])]
    let late : List Arrival := [(9, [0, 2]), (19, [104])]
    (s.Attending (.length 4) 6 ∧ (6 :: feeds.map Prod.fst).IsChain (· ≤ ·) ∧
        (6 :: late.map Prod.fst).IsChain (· ≤ ·)) ∧
      (s.read 6 (feeds.map Arrival.act)).result = .ok [0, 0, 0, 2, 104, 105] ∧
      (s.read 6 (feeds.map Arrival.act)).time = 20 ∧
      (s.read 6 (late.map Arrival.act)).result = .error (.readTimeout 0) ∧
      (s.read 6 (late.map Arrival.act)).session.buffer.contents = [0, 0, 0, 2] := by
  intro s feeds late
  have hs : s.Attending (.length 4) 6 := ⟨rfl, rfl, rfl, by decide, fun | _, rfl => by decide⟩
  have horder : (6 :: feeds.map Prod.fst).IsChain (· ≤ ·) := by decide
  have horder' : (6 :: late.map Prod.fst).IsChain (· ≤ ·) := by decide
  obtain ⟨-, hdecided, -⟩ := read_by_framing hs horder
  obtain ⟨hresult, htime, -⟩ := hdecided [(9, [0, 2]), (12, [104])] (20, [105, 0]) [(21, [0])]
    (.ok [0, 0, 0, 2, 104, 105]) [0] (by decide +kernel) (by decide) (by decide +kernel)
    (by decide +kernel)
  obtain ⟨-, -, hexpired, -⟩ := read_by_framing hs horder'
  have hwait : ∀ come ∈ (s.arrivals late).inits, Prompt 10 6 come →
      (Framing.length 4).verdict (s.buffer.contents ++ come.flatMap Prod.snd) = none := by
    decide +kernel
  obtain ⟨hresult', -, hheld⟩ := hexpired fun come hcome =>
    hwait come ((List.mem_inits come _).mpr hcome)
  have htimeout : s.settings.readTimeout = 10 := by decide +kernel
  rw [htimeout] at hresult'
  refine ⟨⟨hs, horder, horder'⟩, hresult, htime, hresult', ?_⟩
  have hend : (s.read 6 (late.map Arrival.act)).time = 19 := by decide +kernel
  rw [hheld, hend]
  decide +kernel

end SessionEngine
