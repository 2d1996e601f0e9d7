import SessionEngine.Proofs.Tls.Duplex

/-! Two channels on a link, in any order of their acts. A side wraps plaintext, writes what its channel has
to send, and takes in what has come, in pieces of any size; the two sides take turns as they like. `Carries`
relates a side to the terminal of a line whose engines are the channels' own: what a channel holds back was
wrapped and not written into its engine, and what it has received was drained and not returned. Every act of
a link is a way of a line (`Carries.act`). -/

namespace SessionEngine.Tls

/-- One side of a link: its channel and the bytes on their way to it, with the plaintext that was wrapped and
the plaintext that was returned so far. -/
structure Station (ε : Type) where
  channel : Channel ε
  inbox : Bytes := []
  wrapped : Bytes := []
  returned : Bytes := []
  failed : Bool := false

/-- What a side does; `n` is how much of what has come it takes. -/
inductive Act where
  | wrap (data : Bytes)
  | flush
  /-- Takes in a read of the handshake. -/
  | hear (n : Nat)
  | unwrap (n : Nat)
  /-- Takes what was received and not returned. -/
  | take
  deriving DecidableEq, Repr

abbrev Link (ε : Type) := Role → Station ε

variable {ε : Type} [RecordEngine ε]

/-- The side after an act, and the bytes that it writes. A read that has nothing to take waits. -/
def Station.act (s : Station ε) : Act → Station ε × Bytes
  | .wrap data =>
    match s.channel.wrap data with
    | (.ok out, channel) => ({ s with channel, wrapped := s.wrapped ++ data }, out)
    | (.error _, channel) => ({ s with channel, failed := true }, [])
  | .flush => ({ s with channel := s.channel.takeOutbound.2 }, s.channel.takeOutbound.1)
  | .hear n =>
    if (s.inbox.take n).isEmpty then (s, [])
    else match s.channel.hear (.data (s.inbox.take n)) with
      | (.ok (), channel) => ({ s with channel, inbox := s.inbox.drop n }, [])
      | (.error _, channel) => ({ s with channel, failed := true }, [])
  | .unwrap n =>
    match s.channel.unwrap (s.inbox.take n) with
    | (.ok data, channel) =>
      ({ s with channel, inbox := s.inbox.drop n, returned := s.returned ++ data }, [])
    | (.error _, channel) => ({ s with channel, failed := true }, [])
  | .take =>
    ({ s with channel := s.channel.takePlaintext.2, returned := s.returned ++ s.channel.takePlaintext.1 }, [])

namespace Link

def start (a b : ε) (m n : Nat) : Link ε
  | .client => { channel := .ofEngine a m .client }
  | .server => { channel := .ofEngine b n .server }

/-- An act of one side; what it writes is on its way to the other. -/
def act (k : Link ε) (side : Role) (act : Act) : Link ε := fun r =>
  if r = side then ((k side).act act).1
  else { k r with inbox := (k r).inbox ++ ((k side).act act).2 }

def run (acts : List (Role × Act)) (k : Link ε) : Link ε := acts.foldl (fun k m => k.act m.1 m.2) k

end Link

/-- The terminal is where the side's engine stands. -/
structure Carries (s : Station ε) (t : Terminal ε) : Prop where
  engine : t.engine = s.channel.engine
  inbox : t.inbox = s.inbox
  wrapped : s.wrapped = t.given ++ s.channel.held
  got : t.got = s.returned ++ s.channel.received
  ciphertext : s.channel.ciphertext = []
  drained : Drained s.channel.engine
  held : s.channel.handshaking = false → s.channel.held = []
  sound : s.failed = false

variable {a b : ε} {l : Duplex ε} {s : Station ε} {t : Terminal ε} {side : Role}

open Duplex

theorem Channel.hear_of_ingest {c c' : Channel ε} {data : Bytes} (hdata : data ≠ [])
    (hingest : c.ingest data = (.ok (), c')) : c.hear (.data data) = (.ok (), c') := by
  cases data with
  | nil => exact absurd rfl hdata
  | cons byte rest => exact congrArg (fun r => (r.1.mapError handshakeFault, r.2)) hingest

/-- A channel takes in a piece of what waits for it, and what it held back goes into the engine as soon as the
handshake is over. -/
theorem Carries.ingest (hs : Carries s (l side)) (hab : Reliable a b) (hl : l.Reaches a b)
    {data rest : Bytes} (hinbox : s.inbox = data ++ rest) : ∃ channel t,
      s.channel.ingest data = (.ok (), channel) ∧ Carries { s with channel, inbox := rest } t ∧
      Reaches a b (l.set side t) := by
  obtain ⟨engine, plain, hdigest, hdrained, hrest⟩ :=
    hab.digest hl side s.channel hs.engine hs.drained (hs.inbox.trans hinbox)
  have hgot : (l side).got ++ plain = s.returned ++ (s.channel.received ++ plain) := by
    rw [hs.got, List.append_assoc]
  rw [Channel.ingest, hs.ciphertext, List.nil_append, hdigest]
  simp only [Channel.release]
  -- Only the piece with which the handshake ends lets go of what was held back.
  split
  next hkeeps =>
    refine ⟨_, ⟨engine, rest, (l side).given, (l side).got ++ plain⟩, rfl,
      ⟨rfl, rfl, hs.wrapped, hgot, rfl, hdrained, fun hover => ?_, hs.sound⟩, hrest⟩
    simpa [hover] using hkeeps
  next hover =>
    simp only [Bool.or_eq_true, not_or, Bool.not_eq_true] at hover
    obtain ⟨engine', hwrite⟩ := hab.writes hrest side s.channel.held (by rw [set_self]; exact hover.1)
    have hwritten := hrest.write side (by rw [set_self]; exact hover.1) hwrite
    rw [set_self] at hwrite hwritten
    rw [set_set] at hwritten
    simp only [hwrite]
    refine ⟨_, _, rfl, ⟨rfl, rfl, ?_, hgot, rfl, hab.drained_write _ _ _ hwrite hdrained, fun _ => rfl,
      hs.sound⟩, hwritten⟩
    rw [List.append_nil]
    exact hs.wrapped

theorem Carries.flush (hs : Carries s (l side)) (hab : Reliable a b) (hl : l.Reaches a b) :
    ∃ t, Carries { s with channel := s.channel.takeOutbound.2 } t ∧
      Reaches a b ((l.set side t).post side s.channel.takeOutbound.1) := by
  have hemit := hl.emit side
  rw [hs.engine] at hemit
  refine ⟨⟨(RecordEngine.emit s.channel.engine).2, (l side).inbox, (l side).given, (l side).got⟩,
    ⟨rfl, hs.inbox, hs.wrapped, hs.got, hs.ciphertext, hab.drained_emit _ hs.drained,
      fun hover => hs.held ?_, hs.sound⟩, hemit⟩
  exact (hab.handshaking_emit s.channel.engine).symm.trans hover

theorem Carries.wrap (hs : Carries s (l side)) (hab : Reliable a b) (hl : l.Reaches a b) (data : Bytes) :
    ∃ out channel t, s.channel.wrap data = (.ok out, channel) ∧
      Carries { s with channel, wrapped := s.wrapped ++ data } t ∧
      Reaches a b ((l.set side t).post side out) := by
  unfold Channel.wrap
  split
  next hgoesOn =>
    have hheld : Carries { s with
        channel := { s.channel with held := s.channel.held ++ data }, wrapped := s.wrapped ++ data }
        (l side) := by
      refine ⟨hs.engine, hs.inbox, ?_, hs.got, hs.ciphertext, hs.drained, fun hover => ?_, hs.sound⟩
      · rw [← List.append_assoc, ← hs.wrapped]
      · exact absurd (hgoesOn.symm.trans hover) nofun
    obtain ⟨t, hcarries, hreaches⟩ := hheld.flush hab hl
    exact ⟨_, _, t, rfl, hcarries, hreaches⟩
  next hover =>
    rw [Bool.not_eq_true] at hover
    have hengine := hs.engine
    have hready : RecordEngine.handshaking (l side).engine = false := by
      rw [hengine]
      exact hover
    obtain ⟨engine, hwrite⟩ := hab.writes hl side data hready
    have hwritten := hl.write side hready hwrite
    rw [hengine] at hwrite
    simp only [hwrite]
    have hgiven : Carries { s with channel := { s.channel with engine }, wrapped := s.wrapped ++ data }
        ((l.set side ⟨engine, (l side).inbox, (l side).given ++ data, (l side).got⟩) side) := by
      rw [set_self]
      refine ⟨rfl, hs.inbox, ?_, hs.got, hs.ciphertext, hab.drained_write _ _ _ hwrite hs.drained,
        fun _ => hs.held hover, hs.sound⟩
      rw [hs.wrapped, hs.held hover, List.append_nil, List.append_nil]
    obtain ⟨t, hcarries, hreaches⟩ := hgiven.flush hab hwritten
    rw [set_set] at hreaches
    exact ⟨_, _, t, rfl, hcarries, hreaches⟩

theorem Carries.take (hs : Carries s t) :
    Carries { s with
      channel := s.channel.takePlaintext.2, returned := s.returned ++ s.channel.takePlaintext.1 } t :=
  ⟨hs.engine, hs.inbox, hs.wrapped, hs.got.trans (List.append_nil _).symm, hs.ciphertext, hs.drained,
    hs.held, hs.sound⟩

theorem Carries.act (hs : Carries s (l side)) (hab : Reliable a b) (hl : l.Reaches a b) (act : Act) :
    ∃ t, Carries (s.act act).1 t ∧ Reaches a b ((l.set side t).post side (s.act act).2) := by
  cases act with
  | wrap data =>
    obtain ⟨out, channel, t, hwrap, hcarries, hreaches⟩ := hs.wrap hab hl data
    simp only [Station.act, hwrap]
    exact ⟨t, hcarries, hreaches⟩
  | flush => exact hs.flush hab hl
  | hear n =>
    simp only [Station.act]
    split
    · refine ⟨l side, hs, ?_⟩
      rw [set_eq_self, post_nil]
      exact hl
    next hsome =>
      obtain ⟨channel, t, hingest, hcarries, hreaches⟩ := hs.ingest hab hl (List.take_append_drop n _).symm
      rw [List.isEmpty_iff] at hsome
      simp only [Channel.hear_of_ingest hsome hingest]
      refine ⟨t, hcarries, ?_⟩
      rw [post_nil]
      exact hreaches
  | unwrap n =>
    obtain ⟨channel, t, hingest, hcarries, hreaches⟩ := hs.ingest hab hl (List.take_append_drop n _).symm
    simp only [Station.act, Channel.unwrap, hingest]
    refine ⟨t, hcarries.take, ?_⟩
    rw [post_nil]
    exact hreaches
  | take =>
    refine ⟨l side, hs.take, ?_⟩
    rw [Station.act, set_eq_self, post_nil]
    exact hl

end SessionEngine.Tls
