import SessionEngine.Proofs.Tls.Duplex

/-! An engine that gets records of data and then one that it rejects. `InOrder` says what a channel may
rely on: records are worked off in order as they are complete, and the fault of the rejected one shows
when it is there, with the plaintext of those in front of it still to be taken. From that follows what
becomes of any bytes that a channel takes in: of the plaintext that it gives when they hold no more than
the records (`unwrap_opens`), and of what stays in the TLS layer when they hold the rejected one
(`unwrap_rejects`). -/

namespace SessionEngine.Tls

/-- A record as it is written, and the plaintext that it carries. -/
structure Sealed where
  record : Bytes
  payload : Bytes

namespace Sealed

def written (rs : List Sealed) : Bytes := rs.flatMap record

def carried (rs : List Sealed) : Bytes := rs.flatMap payload

/-- How many of the records are whole within the first `n` bytes of what is written. -/
def whole : List Sealed → Nat → Nat
  | [], _ => 0
  | r :: rs, n => if r.record.length ≤ n then whole rs (n - r.record.length) + 1 else 0

/-- What the records carry that are whole within the first `n` bytes of what is written. -/
def completed (rs : List Sealed) (n : Nat) : Bytes := carried (rs.take (whole rs n))

variable (r : Sealed) (rs : List Sealed)

theorem written_cons : written (r :: rs) = r.record ++ written rs := rfl

theorem carried_cons : carried (r :: rs) = r.payload ++ carried rs := rfl

theorem written_append (rs' : List Sealed) : written (rs ++ rs') = written rs ++ written rs' :=
  List.flatMap_append

theorem carried_append (rs' : List Sealed) : carried (rs ++ rs') = carried rs ++ carried rs' :=
  List.flatMap_append

theorem written_take_append_drop (k : Nat) : written (rs.take k) ++ written (rs.drop k) = written rs := by
  rw [← written_append, List.take_append_drop]

theorem carried_take_append_drop (k : Nat) : carried (rs.take k) ++ carried (rs.drop k) = carried rs := by
  rw [← carried_append, List.take_append_drop]

theorem completed_append (n : Nat) : completed rs n ++ carried (rs.drop (whole rs n)) = carried rs :=
  carried_take_append_drop ..

variable {r rs}

theorem completed_of_whole {n : Nat} (h : whole rs n = 0) : completed rs n = [] := by
  rw [completed, h]
  rfl

theorem whole_le (rs : List Sealed) (n : Nat) : whole rs n ≤ rs.length := by
  induction rs generalizing n with
  | nil => exact Nat.le_refl 0
  | cons r rs ih =>
    rw [whole]
    split
    · exact Nat.succ_le_succ (ih _)
    · exact Nat.zero_le _

/-- Behind the first records, the others are counted. -/
theorem whole_add {k : Nat} (hk : k ≤ rs.length) (n : Nat) :
    whole rs ((written (rs.take k)).length + n) = k + whole (rs.drop k) n := by
  induction k generalizing rs with
  | zero => simp [written]
  | succ k ih =>
    cases rs with
    | nil => exact absurd hk (Nat.not_succ_le_zero _)
    | cons r rs =>
      rw [List.take_succ_cons, List.drop_succ_cons, written_cons, List.length_append, Nat.add_assoc, whole,
        if_pos (Nat.le_add_right ..), Nat.add_sub_cancel_left, ih (Nat.le_of_succ_le_succ hk)]
      omega

end Sealed

open Sealed

variable {ε : Type} [RecordEngine ε]

/-- What is relied on of an engine that gets the records `rs`, which it opens, and then one that it
rejects, of which `bad` is as much as shows that. `Has data e` is said of an engine that has taken in
`data` of this, less than all, and whose plaintext was taken. -/
structure InOrder (rs : List Sealed) (bad : Bytes) (Has : Bytes → ε → Prop) : Prop where
  unfinished : ∀ {data : Bytes} {e : ε}, Has data e → data.length < (written rs ++ bad).length
  accepts : ∀ {data pending : Bytes} {e : ε}, Has data e → pending ≠ [] →
    ∃ n e', RecordEngine.accept e pending = (.ok n, e') ∧ 0 < n ∧ n ≤ pending.length
  /-- The records are opened in order, each as soon as it is complete. -/
  opens : ∀ {data pending : Bytes} {e e' : ε} {n : Nat}, Has data e → pending ≠ [] →
    RecordEngine.accept e pending = (.ok n, e') → data ++ pending.take n <+: written rs ++ bad →
    (data ++ pending.take n).length < (written rs ++ bad).length →
    ∃ e'' plain e''', RecordEngine.process e' = (none, e'') ∧ RecordEngine.drain e'' = (none, plain, e''') ∧
      completed rs data.length ++ plain = completed rs (data ++ pending.take n).length ∧
      Has (data ++ pending.take n) e'''
  /-- The rejected record is a fault, and the plaintext of those before it can be read. -/
  rejects : ∀ {data pending : Bytes} {e e' : ε} {n : Nat}, Has data e → pending ≠ [] →
    RecordEngine.accept e pending = (.ok n, e') → written rs ++ bad <+: data ++ pending.take n →
    ∃ fault e'' plain, RecordEngine.process e' = (some fault, e'') ∧ RecordEngine.handshaking e'' = false ∧
      completed rs data.length ++ plain = carried rs ∧ plain <+: (RecordEngine.drain e'').2.1
  /-- There is nothing to answer to records of data. -/
  quiet : ∀ {data : Bytes} {e : ε}, Has data e → ∃ e', RecordEngine.emit e = ([], e') ∧ Has data e'

namespace Channel

variable {rs : List Sealed} {bad : Bytes} {Has : Bytes → ε → Prop} {c : Channel ε} {data pending : Bytes}

/-- The plaintext that was opened and has not left the TLS layer. -/
def withheld (c : Channel ε) : Bytes := c.received ++ (RecordEngine.drain c.engine).2.1

theorem digest_opens (hlaws : InOrder rs bad Has) (hc : Has data c.engine)
    (hcut : data ++ pending <+: written rs ++ bad)
    (hshort : (data ++ pending).length < (written rs ++ bad).length) : ∃ engine plain,
      c.digest pending = (.ok (), { c with engine, ciphertext := [], received := c.received ++ plain }) ∧
      completed rs data.length ++ plain = completed rs (data ++ pending).length ∧
      Has (data ++ pending) engine := by
  -- The induction is on how much is pending: the engine takes a byte of it at least.
  induction hlength : pending.length using Nat.strongRecOn generalizing c data pending with
  | _ length ih =>
    by_cases hpending : pending = []
    · subst hpending
      exact ⟨c.engine, [], by rw [digest_nil, List.append_nil], by rw [List.append_nil, List.append_nil],
        by rwa [List.append_nil]⟩
    obtain ⟨n, e, haccept, hn, hle⟩ := hlaws.accepts hc hpending
    have hall : data ++ pending.take n ++ pending.drop n = data ++ pending := by
      rw [List.append_assoc, List.take_append_drop]
    have hfirst : (data ++ pending.take n).length < (written rs ++ bad).length :=
      Nat.lt_of_le_of_lt (hall ▸ (List.prefix_append ..).length_le) hshort
    obtain ⟨e', plain, e'', hprocess, hdrain, hplain, hhas⟩ := hlaws.opens hc hpending haccept
      (hall ▸ List.prefix_append _ _ |>.trans hcut) hfirst
    have hshorter : (pending.drop n).length < length := by
      rw [List.length_drop]
      omega
    obtain ⟨engine, more, hdigest, hmore, hhas'⟩ := ih _ hshorter
      (c := { c with engine := e'', ciphertext := pending.drop n, received := c.received ++ plain })
      hhas (hall.symm ▸ hcut) (hall.symm ▸ hshort) rfl
    rw [hall] at hmore hhas'
    refine ⟨engine, plain ++ more, ?_, by rw [← List.append_assoc, hplain, hmore], hhas'⟩
    rw [digest_of_accept hpending haccept hn (by rw [hprocess]) (by rw [hprocess]; exact hdrain), hdigest,
      ← List.append_assoc]

theorem digest_of_fault (hpending : pending ≠ []) {n : Nat} {e e' : ε} {fault : Fault}
    (haccept : RecordEngine.accept c.engine pending = (.ok n, e))
    (hprocess : RecordEngine.process e = (some fault, e')) (hover : RecordEngine.handshaking e' = false) :
    c.digest pending = (.error (.ofFault fault), { c with engine := e', ciphertext := pending.drop n }) := by
  have hover' : ({ c with engine := e', ciphertext := pending.drop n } : Channel ε).handshaking = false := hover
  rw [digest, dif_neg hpending]
  simp only [haccept, hprocess, failure, hover', Bool.false_eq_true, if_false]

theorem digest_rejects (hlaws : InOrder rs bad Has) (hc : Has data c.engine)
    (hcut : written rs ++ bad <+: data ++ pending) : ∃ fault c' plain,
      c.digest pending = (.error (.ofFault fault), c') ∧ completed rs data.length ++ plain = carried rs ∧
        c.received ++ plain <+: c'.withheld := by
  -- The rejected record is there whole after one of the turns, and not before.
  induction hlength : pending.length using Nat.strongRecOn generalizing c data pending with
  | _ length ih =>
    have hpending : pending ≠ [] := by
      rintro rfl
      rw [List.append_nil] at hcut
      exact Nat.not_lt_of_le hcut.length_le (hlaws.unfinished hc)
    obtain ⟨n, e, haccept, hn, hle⟩ := hlaws.accepts hc hpending
    have hall : data ++ pending.take n ++ pending.drop n = data ++ pending := by
      rw [List.append_assoc, List.take_append_drop]
    have hfirst : data ++ pending.take n <+: data ++ pending := hall ▸ List.prefix_append ..
    by_cases hwhole : (written rs ++ bad).length ≤ (data ++ pending.take n).length
    · obtain ⟨fault, e', plain, hprocess, hover, hplain, hreadable⟩ := hlaws.rejects hc hpending haccept
        (List.prefix_of_prefix_length_le hcut hfirst hwhole)
      exact ⟨fault, _, plain, digest_of_fault hpending haccept hprocess hover, hplain,
        (List.prefix_append_right_inj _).mpr hreadable⟩
    · obtain ⟨e', plain, e'', hprocess, hdrain, hplain, hhas⟩ := hlaws.opens hc hpending haccept
        (List.prefix_of_prefix_length_le hfirst hcut (Nat.le_of_not_le hwhole)) (Nat.lt_of_not_le hwhole)
      have hshorter : (pending.drop n).length < length := by
        rw [List.length_drop]
        omega
      obtain ⟨fault, c', more, hdigest, hmore, hwithheld⟩ := ih _ hshorter
        (c := { c with engine := e'', ciphertext := pending.drop n, received := c.received ++ plain })
        hhas (hall.symm ▸ hcut) rfl
      refine ⟨fault, c', plain ++ more, ?_, by rw [← List.append_assoc, hplain, hmore],
        by rwa [← List.append_assoc]⟩
      rw [digest_of_accept hpending haccept hn (by rw [hprocess]) (by rw [hprocess]; exact hdrain), hdigest]

theorem takeOutbound_of_quiet (hlaws : InOrder rs bad Has) (hc : Has data c.engine) :
    ∃ engine, c.takeOutbound = ([], { c with engine }) ∧ Has data engine := by
  obtain ⟨engine, hemit, hhas⟩ := hlaws.quiet hc
  exact ⟨engine, by rw [takeOutbound, hemit], hhas⟩

theorem unwrap_opens (hlaws : InOrder rs bad Has) (hc : Has data c.engine) (hciphertext : c.ciphertext = [])
    (hreceived : c.received = []) (hheld : c.held = []) (hcut : data ++ pending <+: written rs ++ bad)
    (hshort : (data ++ pending).length < (written rs ++ bad).length) : ∃ engine plain,
      c.unwrap pending = (.ok plain, { c with engine }) ∧
      completed rs data.length ++ plain = completed rs (data ++ pending).length ∧
      Has (data ++ pending) engine := by
  obtain ⟨engine, plain, hdigest, hplain, hhas⟩ := digest_opens hlaws hc hcut hshort
  refine ⟨engine, plain, ?_, hplain, hhas⟩
  rw [unwrap, ingest, hciphertext, List.nil_append, hdigest]
  simp only [release, hheld, List.isEmpty_nil, Bool.or_true, if_true, takePlaintext, hreceived, List.nil_append]

theorem unwrap_rejects (hlaws : InOrder rs bad Has) (hc : Has data c.engine) (hciphertext : c.ciphertext = [])
    (hcut : written rs ++ bad <+: data ++ pending) : ∃ fault c' plain,
      c.unwrap pending = (.error (.ofFault fault), c') ∧ completed rs data.length ++ plain = carried rs ∧
        c.received ++ plain <+: c'.withheld := by
  obtain ⟨fault, c', plain, hdigest, hplain, hwithheld⟩ := digest_rejects hlaws hc hcut
  refine ⟨fault, c', plain, ?_, hplain, hwithheld⟩
  rw [unwrap, ingest, hciphertext, List.nil_append, hdigest]

end Channel

end SessionEngine.Tls
