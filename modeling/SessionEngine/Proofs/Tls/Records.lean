import SessionEngine.Proofs.Tls.InOrder
import SessionEngine.Proofs.Tls.Steps

/-! How an engine whose handshake is over works off records that carry plaintext, and one that it rejects. The
records that are whole are opened in order, and what is left of the next one waits (`process_opens`); at a
record that it rejects the engine finds a fault, and has what it opened before (`process_rejects`). Where the
bytes were cut does not matter: what of them is whole is found by their number alone (`OpensAll.cut`). -/

namespace SessionEngine.Tls

namespace Record

variable {data rest : Bytes}

/-- What the head of a record was found to be does not depend on what follows. -/
theorem header?_append (h : header? data ≠ .ok none) (more : Bytes) :
    header? (data ++ more) = header? data := by
  rcases data with _ | ⟨code, data⟩
  · exact absurd rfl h
  simp only [List.cons_append, header?] at h ⊢
  cases hcode : ContentType.ofCode? code with
  | none => rfl
  | some type =>
    rw [hcode] at h
    rcases data with _ | ⟨major, _ | ⟨minor, data⟩⟩
    · exact absurd rfl h
    · exact absurd rfl h
    cases hversion : isVersion major minor with
    | false => simp [hversion]
    | true =>
      rcases data with _ | ⟨high, _ | ⟨low, data⟩⟩
      · simp [hversion] at h
      · simp [hversion] at h
      · rfl

theorem length_of_header?_none : header? data = .ok none → data.length < 5 := by
  fun_cases header? data with
  | case1 => exact fun _ => by decide
  | case2 | case3 | case4 | case5 | case6 =>
    intro h
    cases h
  | case7 code type hcode major minor hversion data hshort =>
    rcases data with _ | ⟨high, _ | ⟨low, data⟩⟩
    · simp
    · simp
    · exact absurd rfl (hshort high low data)
  | case8 code data type hcode hshort =>
    rcases data with _ | ⟨major, _ | ⟨minor, data⟩⟩
    · simp
    · simp
    · exact absurd rfl (hshort major minor data)

theorem length_of_header? {h : Header} : header? data = .ok (some h) → h.length < payloadBound := by
  fun_cases header? data with
  | case6 code type hcode major minor hversion high low rest length hfilled hshort =>
    rintro ⟨⟩
    exact Nat.lt_of_not_le hshort
  | case1 | case2 | case3 | case4 | case5 | case7 | case8 =>
    intro h
    cases h

/-- The same record is found whatever follows it, and so is a malformed head. -/
theorem next?_append {r : Record} (h : next? data = .ok (some (r, rest))) (more : Bytes) :
    next? (data ++ more) = .ok (some (r, rest ++ more)) := by
  unfold next? at h
  split at h
  · cases h
  · cases h
  next head hhead =>
    split at h
    · cases h
    next hwhole =>
      cases h
      have hlength : 5 + head.length ≤ data.length := Nat.le_of_not_lt hwhole
      rw [next?, header?_append (by simp [hhead]), hhead]
      simp only
      rw [if_neg (by rw [List.length_append]; omega), List.drop_append_of_le_length (by omega),
        List.take_append_of_le_length (by rw [List.length_drop]; omega), List.drop_append_of_le_length hlength]

theorem next?_append_error {how : Corruption} (h : next? data = .error how) (more : Bytes) :
    next? (data ++ more) = .error how := by
  unfold next? at h
  split at h
  next hhead =>
    cases h
    rw [next?, header?_append (by simp [hhead]), hhead]
  · cases h
  · split at h <;> cases h

/-- What is not a whole record is shorter than the longest one. -/
theorem length_of_unfinished (h : next? data = .ok none) : data.length < payloadBound + 5 := by
  unfold next? at h
  split at h
  · cases h
  next hhead =>
    have hshort := length_of_header?_none hhead
    omega
  next head hhead =>
    have hbound := length_of_header? hhead
    split at h
    · omega
    · cases h

/-- Of one whole record, no beginning is whole but all of it. -/
theorem unfinished_of_whole {r : Record} (h : next? data = .ok (some (r, []))) {p : Bytes} (hp : p <+: data)
    (hne : p ≠ data) : next? p = .ok none := by
  obtain ⟨more, rfl⟩ := hp
  cases hfound : next? p with
  | error how =>
    rw [next?_append_error hfound] at h
    cases h
  | ok found =>
    cases found with
    | none => rfl
    | some found =>
      rw [next?_append hfound] at h
      simp only [Except.ok.injEq, Option.some.injEq, Prod.mk.injEq, List.append_eq_nil_iff] at h
      exact absurd (by rw [h.2.2, List.append_nil]) hne

end Record

namespace Engine

open Sealed

/-- The engine with other plaintext that was not taken, and with other bytes to work off. -/
def holding (e : Engine) (plain : Bytes) (capacity : Nat) (waiting : Bytes) : Engine :=
  { e with plaintext := plain, intake := ⟨capacity, 0, waiting⟩ }

/-- The handshake is over, and nothing is under way but records of data. -/
structure Ready (e : Engine) : Prop where
  traffic : e.expected = .traffic
  sound : e.fault = none
  listening : e.peerClosed = false
  idle : e.joiner = {}
  unsent : e.outgoing = []

/-- The next record that the engine opens, if it is there, is this one: data under its key and number. Only so
many records in a row may be empty. -/
def Opens (e : Engine) (r : Sealed) : Prop :=
  ∃ key outer inner, e.receiving.key = some key ∧ Record.next? r.record = .ok (some (outer, [])) ∧
    outer.type = .applicationData ∧
    Record.unprotect (e.version.getD .tls12) key e.receiving.number outer = some inner ∧
    inner.type = .applicationData ∧ inner.payload = r.payload ∧ (r.payload = [] → e.blanks ≠ Step.maxBlanks)

/-- The engine behind a record that carried `payload`. -/
def past (e : Engine) (payload : Bytes) : Engine :=
  { e with
    opened := true
    receiving := { e.receiving with number := e.receiving.number + 1 }
    blanks := if payload.isEmpty then e.blanks + 1 else 0 }

/-- The engine opens these records one after the other, and is `e'` behind them. -/
inductive OpensAll : Engine → List Sealed → Engine → Prop
  | nil (e : Engine) : OpensAll e [] e
  | cons {e e' : Engine} {r : Sealed} {rs : List Sealed} (hfirst : e.Opens r)
      (hrest : OpensAll (e.past r.payload) rs e') : OpensAll e (r :: rs) e'

/-- The engine finds a fault as soon as `bad` is there whole, whatever follows it and whatever is kept, and it
finds nothing as long as `bad` is not. -/
structure Rejects (e : Engine) (bad : Bytes) : Prop where
  unfinished : ∀ p, p <+: bad → p ≠ bad → Record.next? p = .ok none
  faulty : ∀ plain capacity more, (e.holding plain capacity (bad ++ more)).process.1 ≠ none

variable {e e' : Engine} {r : Sealed} {rs : List Sealed} {rest bad : Bytes}

theorem Opens.whole (h : e.Opens r) : ∃ outer, Record.next? r.record = .ok (some (outer, [])) := by
  obtain ⟨key, outer, inner, -, hnext, -⟩ := h
  exact ⟨outer, hnext⟩

theorem Ready.past (h : e.Ready) (payload : Bytes) : (e.past payload).Ready :=
  ⟨h.traffic, h.sound, h.listening, h.idle, h.unsent⟩

theorem OpensAll.ready (h : e.OpensAll rs e') (he : e.Ready) : e'.Ready := by
  induction h with
  | nil => exact he
  | cons hfirst hrest ih => exact ih (he.past _)

/-! ### Working off -/

namespace Step

theorem run_nextRecord_unfinished {data : Bytes} (h : Record.next? data = .ok none) (e : Engine) :
    ExceptT.run (nextRecord data) e = (.ok none, e) := by
  rw [nextRecord]
  split
  next hfound => rw [h] at hfound; cases hfound
  · rfl
  next hfound => rw [h] at hfound; cases hfound

theorem run_nextRecord_opens {data rest key : Bytes} {outer inner : Record}
    (h : Record.next? data = .ok (some (outer, rest))) (hkey : e.receiving.key = some key)
    (hpasses : passes e outer = false)
    (hopen : Record.unprotect (e.version.getD .tls12) key e.receiving.number outer = some inner) :
    ExceptT.run (nextRecord data) e = (.ok (some (inner, rest)),
      { e with opened := true, receiving := { e.receiving with number := e.receiving.number + 1 } }) := by
  rw [nextRecord]
  split
  next hfound => rw [h] at hfound; cases hfound
  next hfound => rw [h] at hfound; cases hfound
  next hfound =>
    rw [h] at hfound
    cases hfound
    simp only [run_bind, run_get, hkey, hpasses, hopen, run_modify, run_pure, Bool.false_eq_true, if_false]

/-- Once the handshake is over, data is kept as plaintext. -/
theorem run_receiveRecord_data {inner : Record} (htype : inner.type = .applicationData)
    (he : e.expected = .traffic) :
    ExceptT.run (receiveRecord inner) e = (.ok (), { e with plaintext := e.plaintext ++ inner.payload }) := by
  simp only [receiveRecord, htype, receiveData, run_bind, run_get, he, run_modify]

theorem run_advance_unfinished (he : e.Ready) {plain waiting : Bytes} {capacity : Nat}
    (h : Record.next? waiting = .ok none) :
    ExceptT.run advance (e.holding plain capacity waiting) = (.ok false, e.holding plain capacity waiting) := by
  have hready : (e.holding plain capacity waiting).joiner.ready = [] := by rw [holding, he.idle]
  have hnext := run_nextRecord_unfinished h (e.holding plain capacity waiting)
  simp only [advance, takeRecord, run_bind, run_get, hready]
  rw [show (e.holding plain capacity waiting).intake.waiting = waiting from rfl, hnext]
  rfl

theorem run_advance_opens (he : e.Ready) (hr : e.Opens r) (plain : Bytes) (capacity : Nat) (rest : Bytes) :
    ExceptT.run advance (e.holding plain capacity (r.record ++ rest)) =
      (.ok true, (e.past r.payload).holding (plain ++ r.payload) capacity rest) := by
  obtain ⟨key, outer, inner, hkey, hnext, houter, hopen, htype, hpayload, hblanks⟩ := hr
  have hready : (e.holding plain capacity (r.record ++ rest)).joiner.ready = [] := by rw [holding, he.idle]
  have hpasses : passes (e.holding plain capacity (r.record ++ rest)) outer = false := by
    simp [passes, houter]
  have hrun := run_nextRecord_opens (e := e.holding plain capacity (r.record ++ rest))
    (Record.next?_append hnext rest) hkey hpasses hopen
  simp only [advance, takeRecord, run_bind, run_get, hready]
  rw [show (e.holding plain capacity (r.record ++ rest)).intake.waiting = r.record ++ rest from rfl, hrun]
  have hbegun : (e.holding plain capacity (r.record ++ rest)).joiner.begun.isSome = false := by
    rw [holding, he.idle]
    rfl
  simp only [hbegun, htype, hpayload, reduceCtorEq, Bool.false_eq_true, false_and, if_false]
  cases hempty : r.payload with
  | nil =>
    have hroom : ¬ (e.holding plain capacity (r.record ++ rest)).blanks = maxBlanks := hblanks hempty
    simp only [List.isEmpty_nil, if_true, if_neg hroom, run_bind, run_modify]
    rw [run_receiveRecord_data htype ?_, hpayload, hempty]
    · rfl
    · exact he.traffic
  | cons b bs =>
    simp only [List.isEmpty_cons, Bool.false_eq_true, if_false, run_bind, run_modify]
    rw [run_receiveRecord_data htype ?_, hpayload, hempty]
    · rfl
    · exact he.traffic

theorem run_workOff_opens (he : e.Ready) (hrs : e.OpensAll rs e') (n : Nat) (plain : Bytes) (capacity : Nat)
    (rest : Bytes) :
    ExceptT.run (workOff (rs.length + n)) (e.holding plain capacity (Sealed.written rs ++ rest)) =
      ExceptT.run (workOff n) (e'.holding (plain ++ Sealed.carried rs) capacity rest) := by
  induction hrs generalizing plain with
  | nil e => simp only [List.length_nil, Nat.zero_add, Sealed.written, Sealed.carried, List.flatMap_nil,
      List.nil_append, List.append_nil]
  | @cons e e' r rs hfirst hrest ih =>
    have hadvance := run_advance_opens he hfirst plain capacity (Sealed.written rs ++ rest)
    have hlength : (r :: rs).length + n = rs.length + n + 1 := by rw [List.length_cons]; omega
    rw [hlength, workOff, run_bind, Sealed.written_cons, List.append_assoc, hadvance, Sealed.carried_cons,
      ← List.append_assoc]
    exact ih (he.past _) _

/-- A fault that is found is found with more turns too. -/
theorem run_workOff_add {n : Nat} {fault : Fault} (h : ExceptT.run (workOff n) e = (.error fault, e'))
    (m : Nat) :
    ExceptT.run (workOff (n + m)) e = (.error fault, e') := by
  induction n generalizing e with
  | zero => cases h
  | succ n ih =>
    rw [Nat.add_right_comm, workOff, run_bind]
    rw [workOff, run_bind] at h
    rcases hadvance : ExceptT.run advance e with ⟨_ | more, e₁⟩
    · rw [hadvance] at h
      exact h
    · rw [hadvance] at h
      cases more with
      | false => cases h
      | true => exact ih h

end Step

theorem backlog_holding (he : e.Ready) (plain waiting : Bytes) (capacity : Nat) :
    (e.holding plain capacity waiting).backlog = waiting.length + 1 := by
  rw [backlog, holding, he.idle, Intake.used, Nat.zero_add]
  rfl

theorem process_holding (he : e.Ready) (plain waiting : Bytes) (capacity : Nat) :
    (e.holding plain capacity waiting).process =
      match ExceptT.run (Step.workOff (waiting.length + 1)) (e.holding plain capacity waiting) with
      | (.ok (), e') => (none, e')
      | (.error fault, e') => (some fault, { e' with fault := some fault }) := by
  have hsound : (e.holding plain capacity waiting).fault = none := he.sound
  rcases hrun : ExceptT.run (Step.workOff (waiting.length + 1)) (e.holding plain capacity waiting) with
    ⟨fault | ⟨⟩, e'⟩
  · simp only [process, hsound, backlog_holding he, hrun]
  · simp only [process, hsound, backlog_holding he, hrun]

/-- A record is not empty as it is written, so there are as many turns as records and more. -/
theorem OpensAll.length_le (hrs : e.OpensAll rs e') : rs.length ≤ (Sealed.written rs).length := by
  induction hrs with
  | nil => exact Nat.le_refl 0
  | @cons e e' r rs hfirst hrest ih =>
    obtain ⟨outer, hnext⟩ := hfirst.whole
    have hpos := Record.length_lt_of_next? hnext
    rw [Sealed.written_cons, List.length_append, List.length_cons]
    omega

theorem process_opens (he : e.Ready) (hrs : e.OpensAll rs e') (hrest : Record.next? rest = .ok none)
    (plain : Bytes) (capacity : Nat) :
    (e.holding plain capacity (Sealed.written rs ++ rest)).process =
      (none, e'.holding (plain ++ Sealed.carried rs) capacity rest) := by
  obtain ⟨n, hn⟩ : ∃ n, (Sealed.written rs ++ rest).length + 1 = rs.length + (n + 1) := by
    have hlength := hrs.length_le
    exact ⟨(Sealed.written rs ++ rest).length - rs.length, by rw [List.length_append]; omega⟩
  rw [process_holding he, hn, Step.run_workOff_opens he hrs, Step.workOff, Step.run_bind,
    Step.run_advance_unfinished (hrs.ready he) hrest]
  rfl

theorem process_rejects (he : e.Ready) (hrs : e.OpensAll rs e') (hbad : e'.Rejects bad) (plain more : Bytes)
    (capacity : Nat) : ∃ fault e'',
      (e.holding plain capacity (Sealed.written rs ++ (bad ++ more))).process = (some fault, e'') ∧
        e''.expected = .traffic ∧ plain ++ Sealed.carried rs <+: e''.plaintext := by
  have hready := hrs.ready he
  have hfaulty := hbad.faulty (plain ++ Sealed.carried rs) capacity more
  have honward :=
    onward_process (e := e'.holding (plain ++ Sealed.carried rs) capacity (bad ++ more)) hready.traffic
  rw [process_holding hready] at hfaulty honward
  obtain ⟨m, hm⟩ : ∃ m, (Sealed.written rs ++ (bad ++ more)).length + 1 =
      rs.length + ((bad ++ more).length + 1 + m) := by
    have hlength := hrs.length_le
    exact ⟨(Sealed.written rs).length - rs.length, by rw [List.length_append]; omega⟩
  rw [process_holding he, hm, Step.run_workOff_opens he hrs]
  rcases hrun : ExceptT.run (Step.workOff ((bad ++ more).length + 1))
      (e'.holding (plain ++ Sealed.carried rs) capacity (bad ++ more)) with ⟨fault | ⟨⟩, e''⟩
  · rw [hrun] at honward
    rw [Step.run_workOff_add hrun]
    exact ⟨fault, _, rfl, honward.traffic, honward.plaintext⟩
  · rw [hrun] at hfaulty
    exact absurd rfl hfaulty

/-- A beginning of what is written cuts the records into those that are whole in it and the others. -/
theorem OpensAll.cut (hrs : e.OpensAll rs e') {x z : Bytes} (hx : x <+: Sealed.written rs ++ z)
    (hz : ∀ y, y <+: z → x = Sealed.written rs ++ y → Record.next? y = .ok none) :
    ∃ e₁ y, e.OpensAll (rs.take (Sealed.whole rs x.length)) e₁ ∧
      e₁.OpensAll (rs.drop (Sealed.whole rs x.length)) e' ∧
      x = Sealed.written (rs.take (Sealed.whole rs x.length)) ++ y ∧ Record.next? y = .ok none := by
  induction hrs generalizing x with
  | nil e => exact ⟨e, x, .nil e, .nil e, rfl, hz x hx rfl⟩
  | @cons e e' r rs hfirst hrest ih =>
    rw [Sealed.written_cons, List.append_assoc] at hx
    have hrecord : r.record <+: r.record ++ (Sealed.written rs ++ z) := List.prefix_append ..
    by_cases hwhole : r.record.length ≤ x.length
    · obtain ⟨x', rfl⟩ := List.prefix_of_prefix_length_le hrecord hx hwhole
      rw [List.prefix_append_right_inj] at hx
      obtain ⟨e₁, y, hbefore, hbehind, hcut, hy⟩ := ih hx fun y hy hx' =>
        hz y hy (by rw [hx', Sealed.written_cons, List.append_assoc])
      have hcount : Sealed.whole (r :: rs) (r.record ++ x').length = Sealed.whole rs x'.length + 1 := by
        rw [Sealed.whole, if_pos hwhole, List.length_append, Nat.add_sub_cancel_left]
      rw [hcount, List.take_succ_cons, List.drop_succ_cons, Sealed.written_cons]
      refine ⟨e₁, y, .cons hfirst hbefore, hbehind, ?_, hy⟩
      rw [List.append_assoc, ← hcut]
    · have hcount : Sealed.whole (r :: rs) x.length = 0 := by rw [Sealed.whole, if_neg hwhole]
      obtain ⟨outer, hnext⟩ := hfirst.whole
      have hproper : x <+: r.record := List.prefix_of_prefix_length_le hx hrecord (by omega)
      have hne : x ≠ r.record := fun heq => hwhole (heq ▸ Nat.le_refl _)
      rw [hcount]
      exact ⟨e, x, .nil e, .cons hfirst hrest, rfl, Record.unfinished_of_whole hnext hproper hne⟩

/-- Before the rejected record is there whole, nothing but the records in front of it is. -/
theorem OpensAll.cut_before (hrs : e.OpensAll rs e') (hbad : e'.Rejects bad) {x more : Bytes}
    (hx : x <+: Sealed.written rs ++ (bad ++ more)) (hshort : x.length < (Sealed.written rs ++ bad).length) :
    ∃ e₁ y, e.OpensAll (rs.take (Sealed.whole rs x.length)) e₁ ∧
      e₁.OpensAll (rs.drop (Sealed.whole rs x.length)) e' ∧
      x = Sealed.written (rs.take (Sealed.whole rs x.length)) ++ y ∧ Record.next? y = .ok none := by
  refine hrs.cut hx fun y hy htaken => ?_
  rw [htaken, List.length_append, List.length_append] at hshort
  have hbeginning : y <+: bad := List.prefix_of_prefix_length_le hy (List.prefix_append ..) (by omega)
  refine hbad.unfinished y hbeginning ?_
  rintro rfl
  exact Nat.lt_irrefl _ hshort

/-! ### What is opened and what is rejected -/

/-- The record in which a peer with the same keys seals data is opened. -/
theorem opens_protect {key payload : Bytes} (hkey : e.receiving.key = some key)
    (hlength : payload.length ≤ Record.maxFragment) (hblanks : payload = [] → e.blanks ≠ Step.maxBlanks) :
    let inner : Record := { type := .applicationData, payload }
    e.Opens ⟨(Record.protect (e.version.getD .tls12) key e.receiving.number inner).encode, payload⟩ := by
  intro inner
  have hnonce : (Record.nonce e.receiving.number).length = 8 := Record.length_ofUInt64 _
  have htag := Record.length_tag key e.receiving.number
  have hbound : Record.maxFragment + 8 + Record.tagLength < Record.payloadBound := by decide
  have hinner : inner.payload.length ≤ Record.maxFragment := hlength
  generalize hversion : e.version.getD .tls12 = version
  have hopen := Record.unprotect_protect version key e.receiving.number inner
  have hnext : Record.next? ((Record.protect version key e.receiving.number inner).encode ++ []) =
      .ok (some (Record.protect version key e.receiving.number inner, [])) := by
    cases version with
    | tls12 =>
      refine Record.next?_encode rfl ?_ (.inl rfl) []
      simp only [Record.protect, List.length_append, hnonce, htag]
      omega
    | tls13 =>
      refine Record.next?_encode rfl ?_ (.inl rfl) []
      simp only [Record.protect, List.length_append, List.length_cons, htag]
      omega
  rw [List.append_nil] at hnext
  rw [← hversion] at hnext hopen
  refine ⟨key, _, _, hkey, hversion ▸ hnext, ?_, hopen, ?_, ?_, hblanks⟩
  all_goals cases version <;> simp only [hversion] <;> rfl

theorem run_fail {α : Type} (fault : Fault) (e : Engine) :
    ∃ e', ExceptT.run (Step.fail fault : Step α) e = (.error fault, e') := by
  unfold Step.fail
  split
  · exact ⟨e, rfl⟩
  next alert halert => exact ⟨e.sendAlert alert, rfl⟩

/-- The engine finds the fault of the first record that it looks at. -/
theorem process_of_nextRecord (he : e.Ready) {plain waiting : Bytes} {capacity : Nat} (fault : Fault)
    (h : ∃ e', ExceptT.run (Step.nextRecord waiting) (e.holding plain capacity waiting) = (.error fault, e')) :
    (e.holding plain capacity waiting).process.1 = some fault := by
  obtain ⟨e', hnext⟩ := h
  have hready : (e.holding plain capacity waiting).joiner.ready = [] := by rw [holding, he.idle]
  rw [process_holding he, Step.workOff, Step.run_bind]
  simp only [Step.advance, Step.takeRecord, Step.run_bind, Step.run_get, hready]
  rw [show (e.holding plain capacity waiting).intake.waiting = waiting from rfl, hnext]

/-- A record of data that does not open under the key and number is rejected, unless it may be passed over. -/
theorem rejects_of_unopened (he : e.Ready) {key : Bytes} {outer : Record} (hkey : e.receiving.key = some key)
    (hbad : Record.next? bad = .ok (some (outer, []))) (houter : outer.type = .applicationData)
    (hopen : Record.unprotect (e.version.getD .tls12) key e.receiving.number outer = none)
    (hskip : e.skipping = none) : e.Rejects bad := by
  refine ⟨fun p => Record.unfinished_of_whole hbad, fun plain capacity more => ?_⟩
  have hmore := Record.next?_append hbad more
  have hpasses : Step.passes (e.holding plain capacity (bad ++ more)) outer = false := by
    simp [Step.passes, houter]
  have hheld : (e.holding plain capacity (bad ++ more)).receiving.key = some key := hkey
  have hunopened : Record.unprotect ((e.holding plain capacity (bad ++ more)).version.getD .tls12) key
      (e.holding plain capacity (bad ++ more)).receiving.number outer = none := hopen
  have hkept : (e.holding plain capacity (bad ++ more)).skipping = none := hskip
  rw [process_of_nextRecord he .undecryptable ?_]
  · exact Option.some_ne_none _
  · rw [Step.nextRecord]
    split
    next hfound => rw [hmore] at hfound; cases hfound
    next hfound => rw [hmore] at hfound; cases hfound
    next hfound =>
      rw [hmore] at hfound
      cases hfound
      simp only [Step.run_bind, Step.run_get, hheld, hpasses, hunopened, hkept, Bool.false_eq_true, if_false,
        Option.filter_none]
      exact run_fail _ _

/-! ### Records in order -/

/-- An engine that waits for the rest of a record accepts something. -/
theorem accept_holding (he : e.Ready) {tail pending : Bytes} (htail : Record.next? tail = .ok none)
    (hpending : pending ≠ []) (capacity : Nat) : ∃ n capacity', 0 < n ∧ n ≤ pending.length ∧
      RecordEngine.accept (e.holding [] capacity tail) pending =
        (.ok n, e.holding [] capacity' (tail ++ pending.take n)) := by
  let intake : Intake := ⟨capacity, 0, tail⟩
  have hroom : ¬ Intake.bound false ≤ intake.used := by
    have hshort := Record.length_of_unfinished htail
    have hused : intake.used = tail.length := Nat.zero_add _
    have hbound : Intake.bound false = Record.payloadBound + 5 := rfl
    omega
  have hread : intake.read? (!e.joiner.isIdle) pending =
      some ((pending.take (intake.room false - intake.used)).length,
        ⟨intake.room false, 0, tail ++ pending.take (intake.room false - intake.used)⟩) := by
    rw [he.idle, Intake.read?]
    exact if_neg hroom
  have htake : pending.take (pending.take (intake.room false - intake.used)).length =
      pending.take (intake.room false - intake.used) := by
    rw [List.length_take, List.take_eq_take_iff]
    omega
  refine ⟨_, intake.room false, Intake.read_pos hpending hread, (List.take_prefix ..).length_le, ?_⟩
  rw [htake]
  have hfull : ¬ plaintextBound < (e.holding [] capacity tail).plaintext.length := Nat.not_lt_zero _
  have hlistening : ¬ (e.holding [] capacity tail).peerClosed = true := by
    rw [show (e.holding [] capacity tail).peerClosed = false from he.listening]
    exact Bool.false_ne_true
  have hfound :
      (e.holding [] capacity tail).intake.read? (!(e.holding [] capacity tail).joiner.isIdle) pending = _ :=
    hread
  simp only [RecordEngine.accept, Engine.accept, if_neg hfull, if_neg hlistening, hfound]
  rfl

/-- The engine has opened those of the records that are whole in `data`, and has what is left of it; it
is `e'` when it has opened all of them. -/
def Within (rs : List Sealed) (bad : Bytes) (e' : Engine) (data : Bytes) (e : Engine) : Prop :=
  data.length < (written rs ++ bad).length ∧ ∃ (e₁ : Engine) (capacity : Nat) (tail : Bytes),
    e = e₁.holding [] capacity tail ∧ e₁.Ready ∧ e₁.OpensAll (rs.drop (whole rs data.length)) e' ∧
      data = written (rs.take (whole rs data.length)) ++ tail ∧ Record.next? tail = .ok none

variable {data pending tail : Bytes} {capacity n : Nat} {e₂ : Engine}

/-- What such an engine has when it has accepted something. -/
theorem Within.accepted (h : Within rs bad e' data e) (hpending : pending ≠ [])
    (haccept : RecordEngine.accept e pending = (.ok n, e₂)) : ∃ (e₁ : Engine) (capacity : Nat) (tail : Bytes),
      e₂ = e₁.holding [] capacity (tail ++ pending.take n) ∧ e₁.Ready ∧
        e₁.OpensAll (rs.drop (whole rs data.length)) e' ∧
        data ++ pending.take n = written (rs.take (whole rs data.length)) ++ (tail ++ pending.take n) := by
  obtain ⟨-, e₁, capacity, tail, rfl, hready, hrs, hdata, htail⟩ := h
  obtain ⟨n', capacity', -, -, haccept'⟩ := accept_holding hready htail hpending capacity
  obtain ⟨hn, rfl⟩ := Prod.mk.inj (haccept'.symm.trans haccept)
  obtain rfl := Except.ok.inj hn
  exact ⟨e₁, capacity', tail, rfl, hready, hrs, by rw [← List.append_assoc, ← hdata]⟩

/-- The engine works off records of data as `InOrder` says. -/
theorem inOrder (hbad : e'.Rejects bad) : InOrder rs bad (Within rs bad e') where
  unfinished h := h.1
  accepts := by
    rintro data pending _ ⟨-, e₁, capacity, tail, rfl, hready, -, -, htail⟩ hpending
    obtain ⟨n, capacity', hn, hle, haccept⟩ := accept_holding hready htail hpending capacity
    exact ⟨n, _, haccept, hn, hle⟩
  opens := by
    intro data pending e e₂ n h hpending haccept hcut hshort
    obtain ⟨e₁, capacity, tail, rfl, hready, hrs, htaken⟩ := h.accepted hpending haccept
    obtain ⟨k, hk⟩ : ∃ k, whole rs data.length = k := ⟨_, rfl⟩
    rw [hk] at hrs htaken
    have hcut' : tail ++ pending.take n <+: written (rs.drop k) ++ (bad ++ []) := by
      rwa [htaken, ← written_take_append_drop rs k, List.append_assoc, List.prefix_append_right_inj,
        ← List.append_nil bad] at hcut
    have hshort' : (tail ++ pending.take n).length < (written (rs.drop k) ++ bad).length := by
      rw [htaken, ← written_take_append_drop rs k, List.append_assoc, List.length_append,
        @List.length_append _ (written (rs.take k))] at hshort
      exact Nat.lt_of_add_lt_add_left hshort
    obtain ⟨e₃, tail', hbefore, hrest, htail', hunfinished⟩ := hrs.cut_before hbad hcut' hshort'
    have hwhole : whole rs (data ++ pending.take n).length =
        k + whole (rs.drop k) (tail ++ pending.take n).length := by
      rw [htaken, List.length_append, whole_add (hk ▸ whole_le ..)]
    have hprocess := process_opens hready hbefore hunfinished [] capacity
    rw [← htail'] at hprocess
    refine ⟨_, _, _, hprocess, rfl, ?_, hshort, e₃, capacity, tail', rfl, hbefore.ready hready, ?_, ?_,
      hunfinished⟩
    · rw [completed, completed, hk, hwhole, List.take_add, carried_append]
      rfl
    · rwa [hwhole, ← List.drop_drop]
    · rw [hwhole, List.take_add, written_append, List.append_assoc, ← htail']
      exact htaken
  rejects := by
    intro data pending e e₂ n h hpending haccept hcut
    obtain ⟨e₁, capacity, tail, rfl, hready, hrs, htaken⟩ := h.accepted hpending haccept
    rw [htaken, ← written_take_append_drop rs (whole rs data.length), List.append_assoc,
      List.prefix_append_right_inj] at hcut
    obtain ⟨more, hmore⟩ := hcut
    obtain ⟨fault, e₃, hprocess, htraffic, hplain⟩ := process_rejects hready hrs hbad [] more capacity
    rw [← List.append_assoc, hmore] at hprocess
    refine ⟨fault, e₃, _, hprocess, ?_, completed_append .., hplain⟩
    change (e₃.expected != .traffic) = false
    rw [htraffic]
    rfl
  quiet := by
    rintro data _ ⟨hshort, e₁, capacity, tail, rfl, hready, hrest⟩
    have hemit : RecordEngine.emit (e₁.holding [] capacity tail) = ([], e₁.holding [] capacity tail) := by
      obtain ⟨⟩ := e₁
      obtain rfl : _ = [] := hready.unsent
      rfl
    exact ⟨_, hemit, hshort, e₁, capacity, tail, rfl, hready, hrest⟩

end Engine

end SessionEngine.Tls
