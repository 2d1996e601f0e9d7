import Mathlib.Logic.Function.Basic
import SessionEngine.Tls.Handshake

/-! Two record engines on a line. What one emits waits until the other accepts it, in order; what is written
into one is drained from the other. `Reliable` says what a channel may rely on when it uses its engine as
it should, and by `Reliable.ingest` a channel that takes in a piece of what waits for it uses it so. -/

namespace SessionEngine.Tls

variable {ε : Type}

/-- One end of a line: its engine and the bytes on their way to it, with the plaintext that was written into
the engine and the plaintext that was drained from it. -/
structure Terminal (ε : Type) where
  engine : ε
  inbox : Bytes := []
  given : Bytes := []
  got : Bytes := []

abbrev Duplex (ε : Type) := Role → Terminal ε

namespace Duplex

def start (a b : ε) : Duplex ε
  | .client => { engine := a }
  | .server => { engine := b }

def set (l : Duplex ε) (side : Role) (t : Terminal ε) : Duplex ε := Function.update l side t

/-- Bytes that one side sends to the other. -/
def post (l : Duplex ε) (side : Role) (data : Bytes) : Duplex ε :=
  l.set side.other { l side.other with inbox := (l side.other).inbox ++ data }

variable (l : Duplex ε) (side : Role) (t t' : Terminal ε)

@[simp] theorem set_self : l.set side t side = t := Function.update_self ..

theorem set_of_ne {side' : Role} (h : side' ≠ side) : l.set side t side' = l side' := Function.update_of_ne h ..

@[simp] theorem set_set : (l.set side t).set side t' = l.set side t' := Function.update_idem ..

theorem set_eq_self : l.set side (l side) = l := Function.update_eq_self ..

@[simp] theorem post_nil : l.post side [] = l := by
  rw [post, List.append_nil]
  exact l.set_eq_self side.other

theorem post_set_self (data : Bytes) : (l.set side t).post side data side = t := by
  rw [post, set_of_ne _ _ _ side.other_ne.symm, set_self]

theorem post_set_of_ne (data : Bytes) {side' : Role} (h : side' ≠ side) :
    (l.set side t).post side data side' = { l side' with inbox := (l side').inbox ++ data } := by
  obtain rfl := Role.other_eq_of_ne h.symm
  rw [post, set_self, set_of_ne _ _ _ h]

end Duplex

variable [RecordEngine ε]

/-- The engine has no plaintext of the peer's that was not taken. -/
def Drained (e : ε) : Prop := (RecordEngine.drain e).2.1 = []

/-- What a line comes to whose engines are used as they should: plaintext is written once the handshake is
over, and what comes is offered from the front, to an engine that is drained. -/
inductive Duplex.Reaches (a b : ε) : Duplex ε → Prop
  | start : Reaches a b (Duplex.start a b)
  | write {l : Duplex ε} (hl : Reaches a b l) (side : Role) {data : Bytes} {engine : ε}
      (hover : RecordEngine.handshaking (l side).engine = false)
      (hwrite : RecordEngine.write (l side).engine data = (.ok (), engine)) :
      Reaches a b (l.set side ⟨engine, (l side).inbox, (l side).given ++ data, (l side).got⟩)
  | emit {l : Duplex ε} (hl : Reaches a b l) (side : Role) :
      Reaches a b ((l.set side
        ⟨(RecordEngine.emit (l side).engine).2, (l side).inbox, (l side).given, (l side).got⟩).post side
          (RecordEngine.emit (l side).engine).1)
  | intake {l : Duplex ε} (hl : Reaches a b l) (side : Role) {data rest : Bytes} {n : Nat} {engine : ε}
      (hinbox : (l side).inbox = data ++ rest) (hdata : data ≠ []) (hdrained : Drained (l side).engine)
      (haccept : RecordEngine.accept (l side).engine data = (.ok n, engine)) :
      Reaches a b (l.set side
        ⟨(RecordEngine.process engine).2, (l side).inbox.drop n, (l side).given, (l side).got⟩)
  | drain {l : Duplex ε} (hl : Reaches a b l) (side : Role) :
      Reaches a b (l.set side ⟨(RecordEngine.drain (l side).engine).2.2, (l side).inbox, (l side).given,
        (l side).got ++ (RecordEngine.drain (l side).engine).2.1⟩)

/-- What is relied on of two engines that talk to each other. -/
structure Reliable (a b : ε) : Prop where
  drained : ∀ side, Drained (Duplex.start a b side).engine
  drained_drain : ∀ e : ε, Drained (RecordEngine.drain e).2.2
  /-- What is written into an engine or emitted by it is not the peer's plaintext. -/
  drained_write : ∀ (e e' : ε) (data : Bytes), RecordEngine.write e data = (.ok (), e') → Drained e → Drained e'
  drained_emit : ∀ e : ε, Drained e → Drained (RecordEngine.emit e).2
  /-- The handshake does not go on by what is emitted. -/
  handshaking_emit : ∀ e : ε,
    RecordEngine.handshaking (RecordEngine.emit e).2 = RecordEngine.handshaking e
  /-- An engine that is drained accepts some of what the other has sent, and finds no fault in it. -/
  accepts : ∀ {l : Duplex ε}, l.Reaches a b → ∀ (side : Role) (data rest : Bytes),
    (l side).inbox = data ++ rest → data ≠ [] → Drained (l side).engine →
    ∃ n engine, RecordEngine.accept (l side).engine data = (.ok n, engine) ∧ 0 < n ∧ n ≤ data.length ∧
      (RecordEngine.process engine).1 = none
  /-- An engine that is never told of an end of what comes can always be drained. -/
  drains : ∀ {l : Duplex ε}, l.Reaches a b → ∀ side : Role, (RecordEngine.drain (l side).engine).1 = none
  /-- Once its handshake is over, plaintext can be written into an engine. -/
  writes : ∀ {l : Duplex ε}, l.Reaches a b → ∀ (side : Role) (data : Bytes),
    RecordEngine.handshaking (l side).engine = false →
    ∃ engine, RecordEngine.write (l side).engine data = (.ok (), engine)
  /-- What is drained from an engine is what was written into the other, in order. -/
  ordered : ∀ {l : Duplex ε}, l.Reaches a b → ∀ side : Role, (l side.other).got <+: (l side).given
  /-- When nothing is under way any more, it is all that was written. -/
  complete : ∀ {l : Duplex ε}, l.Reaches a b → ∀ side : Role,
    (∀ side, RecordEngine.handshaking (l side).engine = false) →
    (RecordEngine.emit (l side).engine).1 = [] → (l side.other).inbox = [] →
    Drained (l side.other).engine → (l side.other).got = (l side).given

variable {a b : ε} {l : Duplex ε}

open Duplex

theorem Channel.digest_nil (c : Channel ε) : c.digest [] = (.ok (), { c with ciphertext := [] }) := by
  rw [digest, dif_pos rfl]

/-- An engine that accepts something, finds no fault and can be drained goes on with the rest. -/
theorem Channel.digest_of_accept {c : Channel ε} {pending : Bytes} (hpending : pending ≠ []) {n : Nat}
    {engine engine' : ε} {plain : Bytes} (haccept : RecordEngine.accept c.engine pending = (.ok n, engine))
    (hn : 0 < n) (hsound : (RecordEngine.process engine).1 = none)
    (hdrain : RecordEngine.drain (RecordEngine.process engine).2 = (none, plain, engine')) :
    c.digest pending = ({ c with
      engine := engine', ciphertext := pending.drop n, received := c.received ++ plain } : Channel ε).digest
        (pending.drop n) := by
  rw [digest, dif_neg hpending]
  simp only [haccept, hsound, Channel.drain, hdrain]
  rw [dif_neg (Nat.ne_of_gt hn)]

/-- A channel that works off a piece of what waits for it takes all of it, and what it receives is what its
engine has of the peer's plaintext. -/
theorem Reliable.digest (hab : Reliable a b) (hl : l.Reaches a b) (side : Role) (c : Channel ε)
    {pending rest : Bytes} (hengine : (l side).engine = c.engine) (hdrained : Drained c.engine)
    (hinbox : (l side).inbox = pending ++ rest) : ∃ engine data,
      c.digest pending =
        (.ok (), { c with engine, ciphertext := [], received := c.received ++ data }) ∧
      Drained engine ∧
      Reaches a b (l.set side ⟨engine, rest, (l side).given, (l side).got ++ data⟩) := by
  -- The induction is on how much is pending: an engine that is drained takes a byte of it at least.
  induction hlength : pending.length using Nat.strongRecOn generalizing l c pending with
  | ind length ih =>
    by_cases hpending : pending = []
    · subst hpending
      refine ⟨c.engine, [], by rw [Channel.digest_nil, List.append_nil], hdrained, ?_⟩
      have hsame : (⟨c.engine, rest, (l side).given, (l side).got ++ []⟩ : Terminal ε) = l side := by
        rw [List.append_nil, ← hengine, show rest = (l side).inbox from hinbox.symm]
      rw [hsame, set_eq_self]
      exact hl
    · rw [← hengine] at hdrained
      obtain ⟨n, engine, haccept, hn, hle, hsound⟩ := hab.accepts hl side pending rest hinbox hpending hdrained
      have hdrop : (l side).inbox.drop n = pending.drop n ++ rest := by
        rw [hinbox, List.drop_append_of_le_length hle]
      have htaken := hl.intake side hinbox hpending hdrained haccept
      have hsafe := hab.drains htaken side
      replace htaken := htaken.drain side
      rw [set_self] at hsafe
      rw [set_self, set_set] at htaken
      have hdrain : RecordEngine.drain (RecordEngine.process engine).2 =
          (none, (RecordEngine.drain (RecordEngine.process engine).2).2) := Prod.ext hsafe rfl
      rw [hengine] at haccept
      have hshorter : (pending.drop n).length < length := by
        have := List.length_pos_iff.mpr hpending
        rw [List.length_drop]
        omega
      obtain ⟨engine', data, hdigest, hdrained', hrest⟩ := ih _ hshorter htaken
        ({ c with
          engine := (RecordEngine.drain (RecordEngine.process engine).2).2.2, ciphertext := pending.drop n
          received := c.received ++ (RecordEngine.drain (RecordEngine.process engine).2).2.1 } : Channel ε)
        (by rw [set_self]) (hab.drained_drain _) (by rw [set_self]; exact hdrop) rfl
      refine ⟨engine', (RecordEngine.drain (RecordEngine.process engine).2).2.1 ++ data, ?_, hdrained', ?_⟩
      · rw [Channel.digest_of_accept hpending haccept hn hsound hdrain, hdigest, ← List.append_assoc]
      · rw [set_self, set_set] at hrest
        rw [← List.append_assoc]
        exact hrest

end SessionEngine.Tls
