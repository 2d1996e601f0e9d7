import SessionEngine.Proofs.TlsStream
import SessionEngine.Tls.Engine.Channel

/-! How a handshake ends, with any engine and over any stream. Turn by turn the channel writes what its engine
wants to send and takes in what a read gave (`Turns`), until the engine is out of the handshake or the turn
breaks off (`Breaks`). `drive_cases` is the induction over the reads; `handshake_outcome` says that a
handshake that passes has written all that the engine gave it, that every other one comes to a failure of the
handshake, for whatever reason, and that what the engine has still queued then is offered to the stream. The
failure is told when that write has ended: over a stream that never takes it the handshake has no result, and
no time limit helps (`handshake_unlimited`). -/

namespace SessionEngine.Tls

namespace Stream

/-- The stream takes `data` and becomes `s'`. There is no write if there is nothing to take. -/
def Takes (s : Stream) (data : Bytes) (s' : Stream) : Prop :=
  if data = [] then s' = s else s.write data = (.done, s')

/-- The stream takes each of the `outs`, in order. -/
inductive TakesAll : Stream → List Bytes → Stream → Prop
  | nil (s : Stream) : TakesAll s [] s
  | cons {s s' s'' : Stream} {out : Bytes} {outs : List Bytes} (hout : s.Takes out s')
      (houts : TakesAll s' outs s'') : TakesAll s (out :: outs) s''

/-- A write of `data` does not end: there is something to write, and the stream never takes it. -/
def Blocks (s : Stream) (data : Bytes) : Prop := data ≠ [] ∧ (s.write data).1 = .blocked

/-- The stream after `data` was offered to it, whatever became of that. -/
def offer (s : Stream) (data : Bytes) : Stream := if data = [] then s else (s.write data).2

variable {s s' s'' : Stream} {out : Bytes} {outs : List Bytes}

theorem TakesAll.concat (h : s.TakesAll outs s') (hout : s'.Takes out s'') :
    s.TakesAll (outs ++ [out]) s'' := by
  induction h with
  | nil s => exact .cons hout (.nil s'')
  | cons hfirst _ ih => exact .cons hfirst (ih hout)

theorem offered_offer (s : Stream) (data : Bytes) :
    (s.offer data).offered.flatten = s.offered.flatten ++ data := by
  unfold offer
  split
  next hempty => rw [hempty, List.append_nil]
  · simp [write]

theorem Takes.offer_eq (h : s.Takes out s') : s' = s.offer out := by
  unfold Takes at h
  unfold offer
  by_cases hempty : out = []
  · rw [if_pos hempty] at h ⊢
    exact h
  · rw [if_neg hempty] at h ⊢
    rw [h]

/-- What a stream takes is what it is offered, and it does nothing else with it. -/
theorem TakesAll.offered (h : s.TakesAll outs s') :
    s'.offered.flatten = s.offered.flatten ++ outs.flatten := by
  induction h with
  | nil s => rw [List.flatten_nil, List.append_nil]
  | cons hout _ ih =>
    rw [ih, hout.offer_eq, offered_offer, List.append_assoc, List.flatten_cons]

end Stream

namespace Channel

variable {ε : Type} [RecordEngine ε] {c c' c'' : Channel ε} {millis : Nat} {s s' : Stream}

/-- Turns of a handshake: each writes what the engine has to send, finds that the handshake goes on, and takes
in what a read gave. -/
inductive Turns : Channel ε → List (Bytes × Arrival) → Channel ε → Prop
  | start (c : Channel ε) : Turns c [] c
  | turn {c c' c'' : Channel ε} {arrival : Arrival} {turns : List (Bytes × Arrival)}
      (hgoesOn : c.takeOutbound.2.handshaking = true) (hhear : c.takeOutbound.2.hear arrival = (.ok (), c'))
      (hturns : Turns c' turns c'') : Turns c ((c.takeOutbound.1, arrival) :: turns) c''

/-- Why a channel does not take in ciphertext: a fault in the handshake; or the engine takes nothing more, or
its plaintext cannot be read, or it finds a fault when the handshake is already over; or it does not take the
plaintext that was held back. -/
inductive Refusal (c : Channel ε) : Error → Prop
  | unagreed (fault : Fault) (hgoesOn : c.handshaking = true) : Refusal c (.handshake (.protocol fault))
  | full (cause : IoError) : Refusal c (.read cause)
  | unreadable (cause : IoError) : Refusal c (.read cause)
  | late (fault : Fault) (hover : c.handshaking = false) : Refusal c (.ofFault fault)
  | unheld (cause : IoError) : Refusal c (.send cause)

/-- A turn at which a handshake breaks off, with the reads that were still to come. -/
inductive Breaks (millis : Nat) (c : Channel ε) (s : Stream) :
    List Arrival → HandshakeFault → Channel ε → Stream → Prop
  | unwritten {rest : List Arrival} {cause : IoError} {s' : Stream} (hsome : c.takeOutbound.1 ≠ [])
      (hwrite : s.write c.takeOutbound.1 = (.failed cause, s')) :
      Breaks millis c s rest (.other cause.text) c.takeOutbound.2 s'
  | stuck {rest : List Arrival} {s' : Stream} (hsome : c.takeOutbound.1 ≠ [])
      (hwrite : s.write c.takeOutbound.1 = (.blocked, s')) :
      Breaks millis c s rest (.timedOut millis) c.takeOutbound.2 s'
  | silent {s' : Stream} (hflush : s.Takes c.takeOutbound.1 s')
      (hgoesOn : c.takeOutbound.2.handshaking = true) :
      Breaks millis c s [] (.timedOut millis) c.takeOutbound.2 s'
  | hungUp {rest : List Arrival} {arrival : Arrival} {s' : Stream} (hflush : s.Takes c.takeOutbound.1 s')
      (hgoesOn : c.takeOutbound.2.handshaking = true) (hend : arrival = .ended ∨ arrival = .data []) :
      Breaks millis c s (arrival :: rest) .hungUp c.takeOutbound.2 s'
  | unread {rest : List Arrival} {cause : IoError} {s' : Stream} (hflush : s.Takes c.takeOutbound.1 s')
      (hgoesOn : c.takeOutbound.2.handshaking = true) :
      Breaks millis c s (.failed cause :: rest) (.other cause.text) c.takeOutbound.2 s'
  | refused {rest : List Arrival} {bytes : Bytes} {e : Error} {c' : Channel ε} {s' : Stream}
      (hflush : s.Takes c.takeOutbound.1 s') (hgoesOn : c.takeOutbound.2.handshaking = true)
      (hsome : bytes ≠ []) (hingest : c.takeOutbound.2.ingest bytes = (.error e, c'))
      (hrefusal : Refusal c' e) :
      Breaks millis c s (.data bytes :: rest) (handshakeFault e) c' s'

theorem refusal_failure (c : Channel ε) (fault : Fault) : Refusal c (c.failure fault) := by
  rw [failure]
  cases hgoesOn : c.handshaking with
  | true => exact .unagreed fault hgoesOn
  | false => exact .late fault hgoesOn

theorem refusal_drain {e : Error} (h : c.drain = (.error e, c')) : Refusal c' e := by
  rcases hread : RecordEngine.drain c.engine with ⟨_ | cause, data, engine⟩ <;> simp only [drain, hread] at h
  · cases h
  · cases h
    exact .unreadable cause

theorem refusal_digest {pending : Bytes} {e : Error} (h : c.digest pending = (.error e, c')) :
    Refusal c' e := by
  fun_induction digest c pending with
  | case1 => cases h
  | case2 c pending hsome cause haccept =>
    cases h
    exact .full cause
  | case3 c pending hsome n engine haccept engine' c₁ fault hprocess =>
    obtain ⟨hfault, hchannel⟩ := Prod.mk.inj h
    rw [← Except.error.inj hfault, ← hchannel]
    exact refusal_failure c₁ fault
  | case4 c pending hsome n engine haccept engine' c₁ e' c₂ hdrain hprocess =>
    cases h
    exact refusal_drain hdrain
  | case5 => cases h
  | case6 c pending hsome n engine haccept engine' c₁ hprocess c₂ hdrain hn hshorter ih => exact ih h

theorem refusal_ingest {data : Bytes} {e : Error} (h : c.ingest data = (.error e, c')) : Refusal c' e := by
  unfold ingest at h
  split at h
  next c₁ hdigest =>
    unfold release at h
    split at h
    · cases h
    · rcases hwrite : RecordEngine.write c₁.engine c₁.held with ⟨cause | ⟨⟩, engine⟩ <;>
        simp only [hwrite] at h
      · cases h
        exact .unheld cause
      · cases h
  next hfailed => exact refusal_digest h

/-! ### A whole handshake -/

theorem flush_cases (c : Channel ε) (millis : Nat) (s : Stream) :
    (∃ s', s.Takes c.takeOutbound.1 s' ∧ c.flush millis s = (.ok (), c.takeOutbound.2, s')) ∨
      ∃ fault s', (∀ rest, Breaks millis c s rest fault c.takeOutbound.2 s') ∧
        c.flush millis s = (.error fault, c.takeOutbound.2, s') := by
  unfold flush Stream.Takes
  by_cases hempty : c.takeOutbound.1 = []
  · left
    exact ⟨s, by rw [if_pos hempty], if_pos (List.isEmpty_iff.mpr hempty)⟩
  · have hsome : ¬ c.takeOutbound.1.isEmpty = true := by rwa [List.isEmpty_iff]
    simp only [if_neg hempty, if_neg hsome]
    rcases hwrite : s.write c.takeOutbound.1 with ⟨_ | cause | _, s'⟩
    · left
      exact ⟨s', rfl, rfl⟩
    · right
      exact ⟨_, s', fun rest => .unwritten hempty hwrite, rfl⟩
    · right
      exact ⟨_, s', fun rest => .stuck hempty hwrite, rfl⟩

theorem hear_data (c : Channel ε) {bytes : Bytes} (hsome : bytes ≠ []) :
    c.hear (.data bytes) = ((c.ingest bytes).1.mapError handshakeFault, (c.ingest bytes).2) := by
  cases bytes with
  | nil => exact absurd rfl hsome
  | cons first bytes => rfl

theorem hear_cases (c : Channel ε) (arrival : Arrival) :
    (∃ c', c.hear arrival = (.ok (), c')) ∨
      ((arrival = .ended ∨ arrival = .data []) ∧ c.hear arrival = (.error .hungUp, c)) ∨
      (∃ cause, arrival = .failed cause ∧ c.hear arrival = (.error (.other cause.text), c)) ∨
      ∃ bytes e c', arrival = .data bytes ∧ bytes ≠ [] ∧ c.ingest bytes = (.error e, c') ∧
        c.hear arrival = (.error (handshakeFault e), c') := by
  cases arrival with
  | ended => exact .inr (.inl ⟨.inl rfl, rfl⟩)
  | failed cause => exact .inr (.inr (.inl ⟨cause, rfl, rfl⟩))
  | data bytes =>
    by_cases hsome : bytes = []
    · subst hsome
      exact .inr (.inl ⟨.inr rfl, rfl⟩)
    · rw [hear_data c hsome]
      rcases hingest : c.ingest bytes with ⟨e | ⟨⟩, c'⟩
      · exact .inr (.inr (.inr ⟨bytes, e, c', rfl, hsome, hingest, rfl⟩))
      · exact .inl ⟨c', rfl⟩

theorem drive_of_broken {fault : HandshakeFault} (hflush : c.flush millis s = (.error fault, c', s'))
    (arrivals : List Arrival) : c.drive millis s arrivals = (.error fault, c', s') := by
  cases arrivals <;> simp [drive, hflush, Except.toBool]

theorem drive_of_unheard {fault : HandshakeFault} {arrival : Arrival}
    (hflush : c.flush millis s = (.ok (), c', s')) (hgoesOn : c'.handshaking = true)
    (hhear : c'.hear arrival = (.error fault, c'')) (rest : List Arrival) :
    c.drive millis s (arrival :: rest) = (.error fault, c'', s') := by
  rw [drive]
  simp [hflush, hgoesOn, hhear, Except.toBool]

/-- How a handshake goes in which the engine gives `outs`. It takes turns until it is over and all is written,
or until a turn breaks off. What the engine still wants to send then is offered; the handshake fails once that
write has ended, well or badly, and it has no result if the stream never takes it. -/
inductive Outcome (millis : Nat) (c : Channel ε) (s : Stream) :
    List Bytes → Option (Except Error Unit) → Channel ε → Stream → Prop
  | passed {turns : List (Bytes × Arrival)} {rest : List Arrival} {c' : Channel ε} {s' : Stream}
      (harrivals : s.arrivals = turns.map Prod.snd ++ rest) (hturns : Turns c turns c')
      (hover : c'.takeOutbound.2.handshaking = false)
      (hwritten : s.TakesAll (turns.map Prod.fst ++ [c'.takeOutbound.1]) s') :
      Outcome millis c s (turns.map Prod.fst ++ [c'.takeOutbound.1]) (some (.ok ())) c'.takeOutbound.2 s'
  | failed {turns : List (Bytes × Arrival)} {rest : List Arrival} {c' c'' : Channel ε} {s' s'' : Stream}
      {fault : HandshakeFault} (harrivals : s.arrivals = turns.map Prod.snd ++ rest) (hturns : Turns c turns c')
      (hwritten : s.TakesAll (turns.map Prod.fst) s') (hbreaks : Breaks millis c' s' rest fault c'' s'')
      (hends : ¬ s''.Blocks c''.takeOutbound.1) :
      Outcome millis c s (turns.map Prod.fst ++ [c'.takeOutbound.1, c''.takeOutbound.1])
        (some (.error (.handshake fault))) c''.takeOutbound.2 (s''.offer c''.takeOutbound.1)
  | endless {turns : List (Bytes × Arrival)} {rest : List Arrival} {c' c'' : Channel ε} {s' s'' : Stream}
      {fault : HandshakeFault} (harrivals : s.arrivals = turns.map Prod.snd ++ rest) (hturns : Turns c turns c')
      (hwritten : s.TakesAll (turns.map Prod.fst) s') (hbreaks : Breaks millis c' s' rest fault c'' s'')
      (hblocks : s''.Blocks c''.takeOutbound.1) :
      Outcome millis c s (turns.map Prod.fst ++ [c'.takeOutbound.1, c''.takeOutbound.1])
        none c''.takeOutbound.2 (s''.offer c''.takeOutbound.1)

/-- A handshake takes turns until it is over, or until one of them breaks off. -/
theorem drive_cases (c : Channel ε) (millis : Nat) (s : Stream) (arrivals : List Arrival) :
    ∃ turns rest c' s', arrivals = turns.map Prod.snd ++ rest ∧ Turns c turns c' ∧
      s.TakesAll (turns.map Prod.fst) s' ∧
      ((c'.takeOutbound.2.handshaking = false ∧ ∃ s'', s'.Takes c'.takeOutbound.1 s'' ∧
          c.drive millis s arrivals = (.ok (), c'.takeOutbound.2, s'')) ∨
        ∃ fault c'' s'', Breaks millis c' s' rest fault c'' s'' ∧
          c.drive millis s arrivals = (.error fault, c'', s'')) := by
  -- The induction is on the reads: the handshake ends with this turn, or goes on with the next read.
  induction arrivals generalizing c s with
  | nil =>
    rcases flush_cases c millis s with ⟨s', htakes, hflush⟩ | ⟨fault, s', hbreaks, hflush⟩
    · refine ⟨[], [], c, s, rfl, .start c, .nil s, ?_⟩
      cases hgoesOn : c.takeOutbound.2.handshaking with
      | false => exact .inl ⟨rfl, s', htakes, drive_of_over hflush hgoesOn []⟩
      | true => exact .inr ⟨_, _, s', .silent htakes hgoesOn, drive_nil hflush hgoesOn⟩
    · exact ⟨[], [], c, s, rfl, .start c, .nil s, .inr ⟨fault, _, s', hbreaks [], drive_of_broken hflush []⟩⟩
  | cons arrival arrivals ih =>
    rcases flush_cases c millis s with ⟨s', htakes, hflush⟩ | ⟨fault, s', hbreaks, hflush⟩
    · cases hgoesOn : c.takeOutbound.2.handshaking with
      | false =>
        exact ⟨[], arrival :: arrivals, c, s, rfl, .start c, .nil s,
          .inl ⟨hgoesOn, s', htakes, drive_of_over hflush hgoesOn _⟩⟩
      | true =>
        rcases hear_cases c.takeOutbound.2 arrival with ⟨c', hhear⟩ | ⟨hend, hhear⟩ | ⟨cause, rfl, hhear⟩ |
          ⟨bytes, e, c', rfl, hsome, hingest, hhear⟩
        · obtain ⟨turns, rest, c'', s'', rfl, hturns, hwritten, hlast⟩ := ih c' s'
          refine ⟨(c.takeOutbound.1, arrival) :: turns, rest, c'', s'', rfl, .turn hgoesOn hhear hturns,
            .cons htakes hwritten, ?_⟩
          rw [drive_cons hflush hgoesOn hhear]
          exact hlast
        · exact ⟨[], arrival :: arrivals, c, s, rfl, .start c, .nil s,
            .inr ⟨_, _, s', .hungUp htakes hgoesOn hend, drive_of_unheard hflush hgoesOn hhear arrivals⟩⟩
        · exact ⟨[], _, c, s, rfl, .start c, .nil s,
            .inr ⟨_, _, s', .unread htakes hgoesOn, drive_of_unheard hflush hgoesOn hhear arrivals⟩⟩
        · exact ⟨[], _, c, s, rfl, .start c, .nil s,
            .inr ⟨_, c', s', .refused htakes hgoesOn hsome hingest (refusal_ingest hingest),
              drive_of_unheard hflush hgoesOn hhear arrivals⟩⟩
    · exact ⟨[], arrival :: arrivals, c, s, rfl, .start c, .nil s,
        .inr ⟨fault, _, s', hbreaks _, drive_of_broken hflush _⟩⟩

/-- What follows on a turn that broke off is one write, without a limit. -/
theorem handshake_of_broken {fault : HandshakeFault}
    (hdrive : c.drive millis s s.arrivals = (.error fault, c', s')) :
    (¬ s'.Blocks c'.takeOutbound.1 ∧ c.handshake millis s =
        (some (.error (.handshake fault)), c'.takeOutbound.2, s'.offer c'.takeOutbound.1)) ∨
      (s'.Blocks c'.takeOutbound.1 ∧ c.handshake millis s =
        (none, c'.takeOutbound.2, s'.offer c'.takeOutbound.1)) := by
  unfold Stream.Blocks Stream.offer
  simp only [handshake, hdrive, List.isEmpty_iff]
  by_cases hempty : c'.takeOutbound.1 = []
  · left
    exact ⟨fun h => h.1 hempty, by rw [if_pos hempty, if_pos hempty]⟩
  · simp only [if_neg hempty]
    rcases hwrite : s'.write c'.takeOutbound.1 with ⟨_ | cause | _, s''⟩
    · left
      exact ⟨nofun, rfl⟩
    · left
      exact ⟨nofun, rfl⟩
    · right
      exact ⟨⟨hempty, rfl⟩, rfl⟩

theorem outcome_handshake (c : Channel ε) (millis : Nat) (s : Stream) :
    ∃ outs result c' s', c.handshake millis s = (result, c', s') ∧ Outcome millis c s outs result c' s' := by
  obtain ⟨turns, rest, c', s', harrivals, hturns, hwritten, ⟨hover, s'', htakes, hdrive⟩ | hbroken⟩ :=
    c.drive_cases millis s s.arrivals
  · refine ⟨_, _, _, _, ?_, .passed harrivals hturns hover (hwritten.concat htakes)⟩
    rw [handshake, hdrive]
  · obtain ⟨fault, c'', s'', hbreaks, hdrive⟩ := hbroken
    rcases handshake_of_broken hdrive with ⟨hends, hrun⟩ | ⟨hblocks, hrun⟩
    · exact ⟨_, _, _, _, hrun, .failed harrivals hturns hwritten hbreaks hends⟩
    · exact ⟨_, _, _, _, hrun, .endless harrivals hturns hwritten hbreaks hblocks⟩

/-- Whatever becomes of its write, a turn that breaks off has offered what the engine gave. -/
theorem Breaks.offered {rest : List Arrival} {fault : HandshakeFault} (h : Breaks millis c s rest fault c' s') :
    s'.offered.flatten = s.offered.flatten ++ c.takeOutbound.1 := by
  cases h with
  | unwritten hsome hwrite | stuck hsome hwrite =>
    have hoffer := s.offered_offer c.takeOutbound.1
    rwa [Stream.offer, if_neg hsome, hwrite] at hoffer
  | silent hflush | hungUp hflush | unread hflush | refused hflush =>
    rw [hflush.offer_eq]
    exact s.offered_offer _

theorem Outcome.offered {outs : List Bytes} {result : Option (Except Error Unit)}
    (h : Outcome millis c s outs result c' s') :
    s'.offered.flatten = s.offered.flatten ++ outs.flatten := by
  cases h with
  | passed harrivals hturns hover hwritten => exact hwritten.offered
  | failed harrivals hturns hwritten hbreaks | endless harrivals hturns hwritten hbreaks =>
    rw [Stream.offered_offer, hbreaks.offered, hwritten.offered, List.flatten_append]
    simp only [List.flatten_cons, List.flatten_nil, List.append_nil, List.append_assoc]

/-- Once its records were taken out, an engine that gives all of them at once has none left. -/
theorem Outcome.emptied (hemit : ∀ e : ε, (RecordEngine.emit (RecordEngine.emit e).2).1 = [])
    {outs : List Bytes} {result : Option (Except Error Unit)} (h : Outcome millis c s outs result c' s') :
    c'.takeOutbound.1 = [] := by
  cases h with
  | passed => exact hemit _
  | failed => exact hemit _
  | endless => exact hemit _

/-- A handshake of any engine that gives all it has to send at once, over any stream. All that the engine
gives in its turns (`outs`) is offered to the stream, in order, and the engine has nothing queued in the
end. It passes only with the engine out of the handshake and all of that taken. Else it breaks off, for
one of the reasons in `Breaks`, and the last that is offered is what the engine still had queued then:
the handshake fails, as a handshake, unless the stream never takes that, and then it has no result. -/
theorem handshake_outcome (hemit : ∀ e : ε, (RecordEngine.emit (RecordEngine.emit e).2).1 = [])
    (c : Channel ε) (millis : Nat) (s : Stream) :
    ∃ outs result c' s', c.handshake millis s = (result, c', s') ∧
      Outcome millis c s outs result c' s' ∧
      s'.offered.flatten = s.offered.flatten ++ outs.flatten ∧
      c'.takeOutbound.1 = [] ∧
      (result = some (.ok ()) → c'.handshaking = false ∧ s.TakesAll outs s') ∧
      (∀ e, result = some (.error e) → e.kindName = "HandshakeFailure") ∧
      (result = none → ∃ (s'' : Stream) (alert : Bytes),
        outs.getLast? = some alert ∧ s''.Blocks alert ∧ s' = s''.offer alert) := by
  obtain ⟨outs, result, c', s', hrun, houtcome⟩ := c.outcome_handshake millis s
  refine ⟨outs, result, c', s', hrun, houtcome, houtcome.offered, houtcome.emptied hemit, ?_, ?_, ?_⟩
  · intro hok
    cases houtcome with
    | passed harrivals hturns hover hwritten => exact ⟨hover, hwritten⟩
    | failed => cases hok
    | endless => cases hok
  · intro e he
    cases houtcome with
    | passed => cases he
    | failed => cases he; rfl
    | endless => cases he
  · intro hnone
    cases houtcome with
    | passed => cases hnone
    | failed => cases hnone
    | endless harrivals hturns hwritten hbreaks hblocks =>
      exact ⟨_, _, by rw [List.getLast?_append]; rfl, hblocks, rfl⟩

/-- Data comes to a server in place of a greeting, cut within its head. It answers with an alert and fails,
also if the peer is gone by then. -/
theorem handshake_outcome_unexpected :
    let policy : Policy :=
      { protocol := .any, credential := some ⟨[[48, 0]], .ed25519 [1]⟩, anchors := [], clientAuth := false }
    let s : Stream :=
      { arrivals := [.data [23, 3], .data [3, 0, 1, 7], .ended], writes := [.failed ⟨.brokenPipe, "gone"⟩] }
    ∃ c e c' s', Channel.server policy 1 7 = .ok c ∧ c.handshake 500 s = (some (.error e), c', s') ∧
      e.kindName = "HandshakeFailure" ∧ s'.offered.flatten = [21, 3, 3, 0, 2, 2, 10] ∧
      c'.takeOutbound.1 = [] := by
  intro policy s
  let engine : Engine := { role := .server, policy, serverName := none, seed := 7, expected := .clientHello }
  let c : Channel Engine := .ofEngine engine 1 .server
  obtain ⟨outs, result, c', s', hrun, -, -, hempty, -, hkind, -⟩ := handshake_outcome (fun _ => rfl) c 500 s
  have hfailed : (c.handshake 500 s).1.any Except.toBool = false := by decide +kernel
  have hended : (c.handshake 500 s).1.isSome = true := by decide +kernel
  have hoffered : (c.handshake 500 s).2.2.offered.flatten = [21, 3, 3, 0, 2, 2, 10] := by decide +kernel
  rw [hrun] at hfailed hended hoffered
  cases result with
  | none => cases hended
  | some result =>
    cases result with
    | ok => cases hfailed
    | error e => exact ⟨c, e, c', s', rfl, hrun, hkind e rfl, hoffered, hempty⟩

/-- The time limit of a handshake does not hold for its last write: the peer of that server takes nothing, and
the server waits for it whatever its limit is. -/
theorem handshake_unlimited :
    let policy : Policy :=
      { protocol := .any, credential := some ⟨[[48, 0]], .ed25519 [1]⟩, anchors := [], clientAuth := false }
    let s : Stream := { arrivals := [.data [23, 3], .data [3, 0, 1, 7], .ended], writes := [.blocked] }
    ∃ c, Channel.server policy 1 7 = .ok c ∧ (c.handshake 500 s).1 = none ∧
      ¬ ∀ millis s, ∃ result, (c.handshake millis s).1 = some result := by
  intro policy s
  let engine : Engine := { role := .server, policy, serverName := none, seed := 7, expected := .clientHello }
  have hnone : ((Channel.ofEngine engine 1 .server).handshake 500 s).1 = none := by decide +kernel
  refine ⟨_, rfl, hnone, fun hall => ?_⟩
  obtain ⟨result, hsome⟩ := hall 500 s
  rw [show _ = none from hnone] at hsome
  cases hsome

end Channel

end SessionEngine.Tls
