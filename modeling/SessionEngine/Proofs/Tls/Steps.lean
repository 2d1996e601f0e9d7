import SessionEngine.Tls.Engine.Channel

/-! Running the steps of an engine one after the other, and what no step touches once the handshake is
over: the engine stays out of the handshake, and the plaintext that it has stays in front of what is
added, whether records are taken or a fault is found (`onward_process`). -/

namespace SessionEngine.Tls.Engine

/-! ### Sending -/

theorem exists_sendRecord (e : Engine) (r : Record) :
    ∃ sending outgoing, e.sendRecord r = { e with sending, outgoing } := by
  unfold sendRecord
  split
  · exact ⟨e.sending, _, rfl⟩
  · exact ⟨_, _, rfl⟩

/-- What is queued for the peer changes nothing else. -/
theorem exists_send (e : Engine) (type : ContentType) (payload : Bytes) :
    ∃ sending outgoing, e.send type payload = { e with sending, outgoing } := by
  rw [send, sendAs]
  induction Bytes.pieces Record.maxFragment payload generalizing e with
  | nil => exact ⟨e.sending, e.outgoing, rfl⟩
  | cons piece pieces ih =>
    obtain ⟨sending, outgoing, hrecord⟩ := e.exists_sendRecord { type, payload := piece, minor := 3 }
    obtain ⟨sending', outgoing', hrest⟩ := ih (e.sendRecord { type, payload := piece, minor := 3 })
    refine ⟨sending', outgoing', ?_⟩
    rw [List.foldl_cons, hrest, hrecord]

/-- How far an engine can go on: it is out of the handshake, and has the plaintext that it had. -/
structure Onward (e e' : Engine) : Prop where
  traffic : e'.expected = .traffic
  plaintext : e.plaintext <+: e'.plaintext

theorem Onward.of_eq {e e' : Engine} (h : e.expected = .traffic) (hexpected : e'.expected = e.expected)
    (hplaintext : e'.plaintext = e.plaintext) : Onward e e' :=
  ⟨hexpected.trans h, hplaintext ▸ List.prefix_refl _⟩

theorem Onward.trans {e e' e'' : Engine} (h : Onward e e') (h' : Onward e' e'') : Onward e e'' :=
  ⟨h'.traffic, h.plaintext.trans h'.plaintext⟩

namespace Step

variable {α β : Type}

theorem run_pure (a : α) (e : Engine) : ExceptT.run (pure a : Step α) e = (.ok a, e) := rfl

theorem run_get (e : Engine) : ExceptT.run (get : Step Engine) e = (.ok e, e) := rfl

theorem run_modify (f : Engine → Engine) (e : Engine) :
    ExceptT.run (modify f : Step Unit) e = (.ok (), f e) := rfl

theorem run_bind (x : Step α) (f : α → Step β) (e : Engine) :
    ExceptT.run (x >>= f) e = match ExceptT.run x e with
      | (.ok a, e') => ExceptT.run (f a) e'
      | (.error fault, e') => (.error fault, e') := by
  simp only [bind, ExceptT.bind, ExceptT.run, ExceptT.mk, StateT.bind]
  rcases x e with ⟨_ | a, e'⟩
  · rfl
  · rfl

/-! ### Steps once the handshake is over -/

/-- A step that goes onward from any engine that is out of the handshake, even if it ends with a fault. -/
def Keeps (x : Step α) : Prop := ∀ e : Engine, e.expected = .traffic → Onward e (ExceptT.run x e).2

theorem keeps_pure (a : α) : Keeps (pure a : Step α) := fun _ h => .of_eq h rfl rfl

theorem keeps_throw (fault : Fault) : Keeps (throw fault : Step α) := fun _ h => .of_eq h rfl rfl

theorem keeps_modify {f : Engine → Engine} (hf : ∀ e : Engine, e.expected = .traffic → Onward e (f e)) :
    Keeps (modify f : Step Unit) := fun e h => hf e h

theorem Keeps.bind {x : Step α} {f : α → Step β} (hx : Keeps x) (hf : ∀ a, Keeps (f a)) : Keeps (x >>= f) := by
  intro e h
  have hfirst := hx e h
  rw [run_bind]
  rcases hrun : ExceptT.run x e with ⟨fault | a, e'⟩
  · rw [hrun] at hfirst
    exact hfirst
  · rw [hrun] at hfirst
    exact hfirst.trans (hf a e' hfirst.traffic)

/-- What goes on by the state that it finds may rely on that. -/
theorem keeps_get_bind {f : Engine → Step β} (hf : ∀ e : Engine, e.expected = .traffic → Keeps (f e)) :
    Keeps (get >>= f) := by
  intro e h
  rw [run_bind, run_get]
  exact hf e h e h

theorem Keeps.ite {p : Prop} [Decidable p] {x y : Step α} (hx : p → Keeps x) (hy : ¬ p → Keeps y) :
    Keeps (if p then x else y) := by
  split
  next hp => exact hx hp
  next hp => exact hy hp

/-- A step that is taken only if `p` holds, and what follows it in any case. -/
theorem Keeps.when {p : Prop} [Decidable p] {x : Step Unit} {f : Unit → Step β} (hx : Keeps x)
    (hf : ∀ a, Keeps (f a)) : Keeps (if p then x >>= f else f ()) :=
  .ite (fun _ => hx.bind hf) fun _ => hf ()

/-- What touches neither the message to come nor the plaintext. -/
theorem Keeps.change {f : Engine → Engine} {g : Unit → Step β} (hexpected : ∀ e, (f e).expected = e.expected)
    (hplaintext : ∀ e, (f e).plaintext = e.plaintext) (hg : ∀ a, Keeps (g a)) : Keeps (modify f >>= g) :=
  (keeps_modify fun e h => .of_eq h (hexpected e) (hplaintext e)).bind hg

/-- Two ways that come together again. -/
theorem Keeps.fork {p : Prop} [Decidable p] {x y : Step β} {f : α → Step β} (hx : (∀ a, Keeps (f a)) → Keeps x)
    (hy : (∀ a, Keeps (f a)) → Keeps y) (hf : ∀ a, Keeps (f a)) : Keeps (if p then x else y) :=
  .ite (fun _ => hx hf) fun _ => hy hf

theorem keeps_failWith (alert : Alert) (fault : Fault) : Keeps (failWith alert fault : Step α) := by
  refine (keeps_modify fun e h => ?_).bind fun _ => keeps_throw fault
  obtain ⟨sending, outgoing, hsend⟩ := e.exists_send .alert [fatalLevel, alert.code]
  rw [sendAlert, hsend]
  exact .of_eq h rfl rfl

theorem keeps_fail (fault : Fault) : Keeps (fail fault : Step α) := by
  unfold fail
  split
  · exact keeps_throw fault
  · exact keeps_failWith _ fault

theorem keeps_misbehaved (how : Misbehaviour) : Keeps (misbehaved how : Step α) := keeps_fail _

theorem keeps_unexpected (m : Message) : Keeps (unexpected m) :=
  keeps_get_bind fun _ _ => .ite (fun _ => keeps_fail _) fun _ => keeps_fail _

theorem keeps_unexpectedRecord (type : ContentType) : Keeps (unexpectedRecord type) :=
  keeps_get_bind fun _ _ => keeps_fail _

/-- Once the handshake is over, a message of it is a ticket or out of turn. -/
theorem keeps_receiveMessage (m : Message) (message : Bytes) : Keeps (receiveMessage m message) := by
  unfold receiveMessage
  refine keeps_get_bind fun e h => ?_
  rw [h]
  cases e.role with
  | client =>
    cases m with
    | ticket => exact .ite (fun _ => keeps_pure ()) fun _ => keeps_unexpected _
    | _ => exact keeps_unexpected _
  | server => cases m <;> exact keeps_unexpected _

theorem keeps_receiveBody (modern : Bool) (kind : UInt8) (body : Bytes) :
    Keeps (receiveBody modern kind body) := by
  unfold receiveBody
  split
  · exact keeps_fail _
  · exact keeps_receiveMessage _ _

theorem keeps_receiveAlert (level : UInt8) (alert : Alert) : Keeps (receiveAlert level alert) := by
  unfold receiveAlert
  refine keeps_get_bind fun e h => ?_
  refine Keeps.when (keeps_failWith _ _) fun _ => ?_
  refine .ite (fun _ => keeps_modify fun e h => .of_eq h rfl rfl) fun _ => ?_
  refine .ite (fun _ => keeps_fail _) fun _ => .ite (fun _ => keeps_misbehaved _) fun _ => ?_
  refine .change (fun _ => rfl) (fun _ => rfl) fun _ => ?_
  exact .ite (fun _ => keeps_failWith _ _) fun _ => keeps_pure _

theorem keeps_receiveChange (payload : Bytes) : Keeps (receiveChange payload) := by
  unfold receiveChange
  refine keeps_get_bind fun e h => ?_
  refine .ite (fun hmodern => ?_) fun _ => ?_
  · rw [handshaking, h] at hmodern
    exact absurd hmodern.2 (by decide)
  split
  · exact keeps_fail _
  next mark more =>
    refine Keeps.when (keeps_fail _) fun _ => ?_
    refine Keeps.when (keeps_fail _) fun _ => ?_
    rw [h]
    exact keeps_unexpectedRecord _

theorem keeps_receiveData (payload : Bytes) : Keeps (receiveData payload) := by
  unfold receiveData
  refine keeps_get_bind fun e h => ?_
  rw [h]
  exact keeps_modify fun e h => ⟨h, List.prefix_append _ _⟩

theorem keeps_receiveRecord (r : Record) : Keeps (receiveRecord r) := by
  unfold receiveRecord
  cases r.type with
  | changeCipherSpec => exact keeps_receiveChange _
  | alert =>
    rcases r.payload with _ | ⟨level, _ | ⟨code, _ | ⟨more, rest⟩⟩⟩
    · exact keeps_fail _
    · exact keeps_fail _
    · exact keeps_receiveAlert _ _
    · exact keeps_fail _
  | applicationData => exact keeps_receiveData _
  | handshake | heartbeat => exact keeps_fail _

theorem keeps_nextRecord (data : Bytes) : Keeps (nextRecord data) := by
  -- What does not open is passed over, and the next record is looked for behind it.
  induction hlength : data.length using Nat.strongRecOn generalizing data with
  | _ length ih =>
    rw [nextRecord]
    split
    · exact keeps_fail _
    · exact keeps_pure _
    next r rest hnext =>
      have hshorter := Record.length_lt_of_next? hnext
      refine keeps_get_bind fun e h => ?_
      split
      · exact keeps_pure _
      refine .ite (fun _ => keeps_pure _) fun _ => ?_
      split
      · exact .change (fun _ => rfl) (fun _ => rfl) fun _ => keeps_pure _
      split
      · exact keeps_fail _
      · refine .change (fun _ => rfl) (fun _ => rfl) fun _ => ?_
        refine Keeps.when (keeps_misbehaved _) fun _ => ?_
        exact ih _ (hlength ▸ hshorter) rest rfl

theorem keeps_takeRecord : Keeps takeRecord := by
  unfold takeRecord
  refine keeps_get_bind fun e h => (keeps_nextRecord _).bind fun found => ?_
  split
  next r rest =>
    refine Keeps.when (keeps_misbehaved _) fun _ => ?_
    refine Keeps.fork
      (fun hlast => Keeps.when (keeps_misbehaved _) fun _ => .change (fun _ => rfl) (fun _ => rfl) hlast)
      (fun hlast => .change (fun _ => rfl) (fun _ => rfl) hlast) fun _ => ?_
    refine .ite (fun _ => ?_) fun _ => ?_
    · refine .change (fun _ => rfl) (fun _ => rfl) fun _ => ?_
      split
      · refine Keeps.bind (keeps_throw _) fun _ => ?_
        exact .change (fun _ => rfl) (fun _ => rfl) fun _ => keeps_pure _
      · exact .change (fun _ => rfl) (fun _ => rfl) fun _ => keeps_pure _
    · refine .change (fun _ => rfl) (fun _ => rfl) fun _ => ?_
      exact Keeps.bind (keeps_receiveRecord r) fun _ => keeps_pure _
  · exact keeps_pure false

theorem keeps_advance : Keeps advance := by
  unfold advance
  refine keeps_get_bind fun e h => ?_
  split
  · exact keeps_takeRecord
  · refine .change (fun _ => rfl) (fun _ => rfl) fun _ => ?_
    exact (keeps_receiveBody _ _ _).bind fun _ => keeps_pure true

theorem keeps_workOff (n : Nat) : Keeps (workOff n) := by
  induction n with
  | zero => exact keeps_pure ()
  | succ n ih => exact keeps_advance.bind fun more => .ite (fun _ => ih) fun _ => keeps_pure ()

end Step

/-- Out of the handshake, an engine that works off what is there stays out of it and keeps its plaintext. -/
theorem onward_process {e : Engine} (h : e.expected = .traffic) : Onward e e.process.2 := by
  unfold process
  split
  · exact .of_eq h rfl rfl
  · have hwork := Step.keeps_workOff e.backlog e h
    split
    next e' hrun =>
      rw [hrun] at hwork
      exact hwork
    next fault e' hrun =>
      rw [hrun] at hwork
      exact ⟨hwork.traffic, hwork.plaintext⟩

end SessionEngine.Tls.Engine
