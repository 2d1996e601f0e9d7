import SessionEngine.Proofs.Tls.Duplex

/-! A small engine. Each of its records is a tag and a byte: the first one greets, and every other carries a
byte of plaintext. It accepts a few bytes at once and none before its plaintext is taken, and so it meets the
records of its peer cut anywhere. Two such engines are reliable (`Tagged.reliable`): what one has sent are the
records that the other has opened, and what is on its way (`Streams`). -/

namespace SessionEngine.Tls

structure Tagged where
  /-- Whether the greeting of the peer was opened. -/
  greeted : Bool := false
  queued : Bytes := [22, 0]
  /-- Bytes that make no whole record yet. -/
  waiting : Bytes := []
  /-- Plaintext that was not taken. -/
  plain : Bytes := []
  deriving DecidableEq, Repr

namespace Tagged

def flat (records : List (UInt8 × UInt8)) : Bytes := records.flatMap fun r => [r.1, r.2]

/-- The whole records at the front, and what is left behind them. -/
def cut : Bytes → List (UInt8 × UInt8) × Bytes
  | tag :: byte :: rest => ((tag, byte) :: (cut rest).1, (cut rest).2)
  | left => ([], left)

def enclose (data : Bytes) : List (UInt8 × UInt8) := data.map (23, ·)

def opened (e : Tagged) (records : List (UInt8 × UInt8)) : Tagged :=
  { e with
    greeted := e.greeted || !records.isEmpty
    plain := e.plain ++ (if e.greeted then records else records.tail).map Prod.snd }

instance : RecordEngine Tagged where
  accept e data :=
    let n := if e.plain = [] then min 3 data.length else 0
    (.ok n, { e with waiting := e.waiting ++ data.take n })
  process e := (none, { e with waiting := (cut e.waiting).2 }.opened (cut e.waiting).1)
  drain e := (none, e.plain, { e with plain := [] })
  write e data :=
    if e.greeted then (.ok (), { e with queued := e.queued ++ flat (enclose data) })
    else (.error ⟨.other, "not greeted"⟩, e)
  emit e := (e.queued, { e with queued := [] })
  closeNotify e := e
  handshaking e := !e.greeted
  version _ := none

/-! ### Records -/

theorem snd_enclose (data : Bytes) : (enclose data).map Prod.snd = data := by
  rw [enclose, List.map_map]
  exact List.map_id data

theorem flat_append (records more : List (UInt8 × UInt8)) :
    flat (records ++ more) = flat records ++ flat more := List.flatMap_append

theorem length_flat (records : List (UInt8 × UInt8)) : (flat records).length = 2 * records.length := by
  induction records with
  | nil => rfl
  | cons first rest ih =>
    simp only [flat, List.flatMap_cons, List.length_append, List.length_cons, List.length_nil] at ih ⊢
    omega

theorem flat_cut (data : Bytes) : flat (cut data).1 ++ (cut data).2 = data := by
  fun_induction cut data with
  | case1 tag byte rest ih => exact congrArg (tag :: byte :: ·) ih
  | case2 left => rfl

theorem length_cut (data : Bytes) : (cut data).2.length ≤ 1 := by
  fun_induction cut data with
  | case1 tag byte rest ih => exact ih
  | case2 left hshort =>
    match left, hshort with
    | [], _ => exact Nat.zero_le 1
    | [_], _ => exact Nat.le_refl 1
    | tag :: byte :: rest, hshort => exact absurd rfl (hshort tag byte rest)

/-- Records at the front of records are the first of them. -/
theorem flat_prefix {records all : List (UInt8 × UInt8)} {rest : Bytes}
    (h : flat records ++ rest = flat all) : ∃ more, all = records ++ more ∧ rest = flat more := by
  induction records generalizing all with
  | nil => exact ⟨all, rfl, h⟩
  | cons first records ih =>
    cases all with
    | nil => cases h
    | cons first' all =>
      obtain ⟨tag, byte⟩ := first
      obtain ⟨tag', byte'⟩ := first'
      simp only [flat, List.flatMap_cons, List.cons_append, List.nil_append, List.cons.injEq] at h
      obtain ⟨rfl, rfl, htail⟩ := h
      obtain ⟨more, rfl, hrest⟩ := ih htail
      exact ⟨more, rfl, hrest⟩

/-! ### What one has sent and the other has opened -/

/-- These are the records that were opened at a terminal: none, or a greeting and the plaintext since. -/
def Opened (u : Terminal Tagged) (records : List (UInt8 × UInt8)) : Prop :=
  (u.engine.greeted = false ∧ records = [] ∧ u.got ++ u.engine.plain = []) ∨
    (u.engine.greeted = true ∧ ∃ first rest, records = first :: rest ∧
      rest.map Prod.snd = u.got ++ u.engine.plain)

/-- What was opened at `u`, waits there, is on its way to it and is queued at `t` is what `t` has sent: a
greeting, and what it was given. -/
structure Streams (t u : Terminal Tagged) : Prop where
  sent : ∃ records, Opened u records ∧
    flat records ++ (u.engine.waiting ++ (u.inbox ++ t.engine.queued)) = flat ((22, 0) :: enclose t.given)
  waiting : u.engine.waiting.length ≤ 1

variable {t u : Terminal Tagged}

/-- What opens goes to the plaintext, but for the greeting. -/
theorem Opened.append {records : List (UInt8 × UInt8)} (h : Opened u records)
    (more : List (UInt8 × UInt8)) (waiting inbox : Bytes) :
    Opened ⟨{ u.engine with waiting }.opened more, inbox, u.given, u.got⟩ (records ++ more) := by
  rcases h with ⟨hgreeted, rfl, hnone⟩ | ⟨hgreeted, first, rest, rfl, hsome⟩
  · cases more with
    | nil => exact .inl ⟨by simp [opened, hgreeted], rfl, by simp [opened, hgreeted, hnone]⟩
    | cons first rest =>
      refine .inr ⟨by simp [opened], first, rest, rfl, ?_⟩
      simp [opened, hgreeted, ← List.append_assoc, hnone]
  · refine .inr ⟨by simp [opened, hgreeted], first, rest ++ more, rfl, ?_⟩
    simp [opened, hgreeted, hsome]

/-- Once it is greeted, a terminal got and has what the first records carry. -/
theorem Opened.given {records more : List (UInt8 × UInt8)} {given : Bytes} (h : Opened u records)
    (hgreeted : u.engine.greeted = true) (hall : (22, 0) :: enclose given = records ++ more) :
    given = u.got ++ u.engine.plain ++ more.map Prod.snd := by
  rcases h with ⟨hnot, -, -⟩ | ⟨-, first, rest, rfl, hsome⟩
  · rw [hgreeted] at hnot
    cases hnot
  · rw [List.cons_append] at hall
    have hdata := congrArg (List.map Prod.snd) (List.cons.inj hall).2
    rwa [snd_enclose, List.map_append, hsome] at hdata

theorem Streams.ordered (h : Streams t u) : u.got <+: t.given := by
  obtain ⟨records, hopened, hsent⟩ := h.sent
  cases hgreeted : u.engine.greeted with
  | false =>
    rcases hopened with ⟨-, -, hnone⟩ | ⟨hsome, -⟩
    · rw [(List.append_eq_nil_iff.mp hnone).1]
      exact List.nil_prefix
    · rw [hgreeted] at hsome
      cases hsome
  | true =>
    obtain ⟨more, hall, -⟩ := flat_prefix hsent
    rw [hopened.given hgreeted hall, List.append_assoc]
    exact List.prefix_append ..

theorem Streams.complete (h : Streams t u) (hgreeted : u.engine.greeted = true)
    (hqueued : t.engine.queued = []) (hinbox : u.inbox = []) (hplain : u.engine.plain = []) :
    u.got = t.given := by
  obtain ⟨records, hopened, hsent⟩ := h.sent
  obtain ⟨more, hall, hrest⟩ := flat_prefix hsent
  -- Less than a record is left.
  have hnone : more = [] := by
    have hlength := congrArg List.length hrest
    have hshort := h.waiting
    rw [hqueued, hinbox, List.append_nil, List.append_nil, length_flat] at hlength
    exact List.length_eq_zero_iff.mp (by omega)
  rw [hopened.given hgreeted hall, hnone, hplain, List.append_nil]
  exact (List.append_nil _).symm

/-- A step of one side keeps what is said of both ways. -/
theorem streams_set {l : Duplex Tagged} (side : Role) (t : Terminal Tagged)
    (hsends : Streams t (l side.other)) (hopens : Streams (l side.other) t) (r : Role) :
    Streams (l.set side t r) (l.set side t r.other) := by
  by_cases hr : r = side
  · subst hr
    rw [Duplex.set_self, Duplex.set_of_ne _ _ _ r.other_ne]
    exact hsends
  · obtain rfl := Role.other_eq_of_ne (Ne.symm hr)
    rw [Role.other_other, Duplex.set_self, Duplex.set_of_ne _ _ _ hr]
    exact hopens

theorem streams_of_reaches {l : Duplex Tagged} (hl : l.Reaches {} {}) : ∀ r, Streams (l r) (l r.other) := by
  induction hl with
  | start =>
    have hfresh : Streams { engine := {} } { engine := {} } :=
      ⟨⟨[], .inl ⟨rfl, rfl, rfl⟩, rfl⟩, Nat.zero_le 1⟩
    intro r
    cases r <;> exact hfresh
  | @write l hl side data engine hover hwrite ih =>
    have hopens := ih side.other
    rw [Role.other_other] at hopens
    have hgreeted : (l side).engine.greeted = true := by simpa [RecordEngine.handshaking] using hover
    obtain rfl := congrArg Prod.snd (hwrite.symm.trans (if_pos hgreeted))
    refine streams_set side _ ⟨?_, (ih side).waiting⟩ ⟨hopens.sent, hopens.waiting⟩
    obtain ⟨records, hopened, hsent⟩ := (ih side).sent
    refine ⟨records, hopened, ?_⟩
    have hmore : flat ((22, 0) :: enclose ((l side).given ++ data)) =
        flat ((22, 0) :: enclose (l side).given) ++ flat (enclose data) := by
      rw [enclose, List.map_append, ← List.cons_append, flat_append]
      rfl
    rw [hmore, ← hsent]
    simp only [List.append_assoc]
  | @emit l hl side ih =>
    intro r
    have hopens := ih side.other
    rw [Role.other_other] at hopens
    by_cases hr : r = side
    · subst hr
      rw [Duplex.post_set_self, Duplex.post_set_of_ne _ _ _ _ r.other_ne]
      obtain ⟨records, hopened, hsent⟩ := (ih r).sent
      refine ⟨⟨records, hopened, ?_⟩, (ih r).waiting⟩
      rw [← hsent]
      simp only [RecordEngine.emit, List.append_nil]
    · obtain rfl := Role.other_eq_of_ne (Ne.symm hr)
      rw [Role.other_other, Duplex.post_set_self, Duplex.post_set_of_ne _ _ _ _ hr]
      exact ⟨hopens.sent, hopens.waiting⟩
  | @intake l hl side data rest n engine hinbox hdata hdrained haccept ih =>
    have hopens := ih side.other
    rw [Role.other_other] at hopens
    obtain ⟨hn, rfl⟩ := Prod.mk.inj haccept
    replace hn := Except.ok.inj hn
    rw [hn]
    have hle : n ≤ data.length := by
      rw [← hn]
      split <;> omega
    refine streams_set side _ ⟨(ih side).sent, (ih side).waiting⟩ ⟨?_, length_cut _⟩
    obtain ⟨records, hopened, hsent⟩ := hopens.sent
    refine ⟨_, hopened.append _ _ _, ?_⟩
    -- What was accepted is cut into records and what is left, and nothing is lost on the way.
    have hcut := flat_cut ((l side).engine.waiting ++ data.take n)
    have hinbox' : data.take n ++ (l side).inbox.drop n = (l side).inbox := by
      rw [hinbox, List.drop_append_of_le_length hle, ← List.append_assoc, List.take_append_drop]
    rw [← hsent, flat_append, List.append_assoc]
    congr 1
    calc flat (cut ((l side).engine.waiting ++ data.take n)).1 ++
          ((cut ((l side).engine.waiting ++ data.take n)).2 ++
            ((l side).inbox.drop n ++ (l side.other).engine.queued))
        = (l side).engine.waiting ++ data.take n ++
            ((l side).inbox.drop n ++ (l side.other).engine.queued) := by
          rw [← List.append_assoc, hcut]
      _ = (l side).engine.waiting ++ ((l side).inbox ++ (l side.other).engine.queued) := by
          rw [List.append_assoc, ← List.append_assoc (data.take n), hinbox']
  | @drain l hl side ih =>
    have hopens := ih side.other
    rw [Role.other_other] at hopens
    refine streams_set side _ ⟨(ih side).sent, (ih side).waiting⟩ ⟨?_, hopens.waiting⟩
    obtain ⟨records, hopened, hsent⟩ := hopens.sent
    refine ⟨records, ?_, hsent⟩
    rcases hopened with ⟨hgreeted, rfl, hnone⟩ | ⟨hgreeted, first, rest, rfl, hsome⟩
    · exact .inl ⟨hgreeted, rfl, by rw [← hnone]; exact List.append_nil _⟩
    · exact .inr ⟨hgreeted, first, rest, rfl, by rw [hsome]; exact (List.append_nil _).symm⟩

theorem reliable : Reliable ({} : Tagged) {} where
  drained side := by cases side <;> rfl
  drained_drain _ := rfl
  drained_write e e' data hwrite hdrained := by
    simp only [RecordEngine.write] at hwrite
    split at hwrite
    · obtain rfl := congrArg Prod.snd hwrite
      exact hdrained
    · cases hwrite
  drained_emit _ hdrained := hdrained
  handshaking_emit _ := rfl
  accepts {l} _ side data rest _ hdata hdrained := by
    have hplain : (l side).engine.plain = [] := hdrained
    have hlength := List.length_pos_iff.mpr hdata
    refine ⟨_, _, rfl, ?_, ?_, rfl⟩
    · rw [if_pos hplain]
      omega
    · rw [if_pos hplain]
      exact Nat.min_le_right ..
  drains _ _ := rfl
  writes {l} _ side data hover := ⟨_, if_pos (by simpa [RecordEngine.handshaking] using hover)⟩
  ordered hl side := (streams_of_reaches hl side).ordered
  complete {l} hl side hover hqueued hinbox hdrained := by
    have hgreeted : (l side.other).engine.greeted = true := by
      simpa [RecordEngine.handshaking] using hover side.other
    exact (streams_of_reaches hl side).complete hgreeted hqueued hinbox hdrained

end Tagged

end SessionEngine.Tls
