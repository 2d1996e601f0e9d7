import SessionEngine.Proofs.Session.Limit
import SessionEngine.Proofs.Session.Listening

/-! A buffer as a bounded queue. Every operation on it leaves an entry: what was done, when, and what was
answered. `Balances.perform` says what one operation does to the balance of a buffer, and `bounded_queue`
what any number of them come to: what went out and what is left is what came in, in order, nothing is held
beyond the limit, and an operation that is refused leaves the buffer as it is. -/

namespace SessionEngine.Buffer

/-- What can be done with a buffer. Who peeks may ask anything about the contents. -/
inductive Operation (ρ : Type) where
  | append (data : Bytes)
  | take (n : Nat)
  | takeAll
  | stripHead (head : Bytes)
  | snapshot
  | peek (question : Bytes → ρ)
  | close

inductive Reply (ρ : Type) where
  | appended (result : Except IoError Unit)
  | taken (bytes : Option Bytes)
  | stripped (done : Bool)
  | seen (bytes : Bytes)
  | told (answer : ρ)
  | closed

variable {ρ : Type} {b b' : Buffer}

def perform (b : Buffer) (now : Nat) : Operation ρ → Reply ρ × Buffer
  | .append data =>
    match b.append now data with
    | .error e => (.appended (.error e), b)
    | .ok b' => (.appended (.ok ()), b')
  | .take n =>
    match b.take? n with
    | none => (.taken none, b)
    | some (bytes, b') => (.taken (some bytes), b')
  | .takeAll => (.taken (some b.takeAll.1), b.takeAll.2)
  | .stripHead head =>
    match b.stripHead? head with
    | none => (.stripped false, b)
    | some b' => (.stripped true, b')
  | .snapshot => (.seen b.contents, b)
  | .peek question => (.told (question b.contents), b)
  | .close => (.closed, b.close)

/-- Whether a buffer refuses an operation. -/
def Refuses (b : Buffer) : Operation ρ → Prop
  | .append data => data ≠ [] ∧ b.limit < b.length + data.length
  | .take n => b.length < n
  | .stripHead head => head = [] ∨ ¬ head <+: b.contents
  | .takeAll | .snapshot | .peek _ | .close => False

/-- What an operation comes to that is not refused. -/
def effect (b : Buffer) (now : Nat) : Operation ρ → Reply ρ × Buffer
  | .append data => (.appended (.ok ()), if data = [] then b else { b with
      contents := b.contents ++ data, generation := b.generation + 1, lastArrival := some now })
  | .take n => (.taken (some (b.contents.take n)), { b with contents := b.contents.drop n })
  | .takeAll => (.taken (some b.contents), { b with contents := [] })
  | .stripHead head => (.stripped true, { b with contents := b.contents.drop head.length })
  | .snapshot => (.seen b.contents, b)
  | .peek question => (.told (question b.contents), b)
  | .close => (.closed, b.close)

/-- Whether an answer says that nothing was done. -/
def Reply.isRefusal : Reply ρ → Bool
  | .appended (.error _) | .taken none | .stripped false => true
  | _ => false

/-- Whether an operation is one that can only take bytes out, or look at them. -/
def Operation.isRemoval : Operation ρ → Bool
  | .append _ | .close => false
  | _ => true

/-! ### One operation -/

theorem take?_of_le {n : Nat} (h : n ≤ b.length) :
    b.take? n = some (b.contents.take n, { b with contents := b.contents.drop n }) := if_pos h

theorem take?_of_lt {n : Nat} (h : b.length < n) : b.take? n = none := if_neg (Nat.not_le.mpr h)

theorem stripHead?_append {head rest : Bytes} (hhead : head ≠ []) (hcontents : b.contents = head ++ rest) :
    b.stripHead? head = some { b with contents := rest } := by
  rw [stripHead?, if_neg (by simpa using hhead), hcontents, Bytes.after?_append]
  rfl

theorem stripHead?_of_not_prefix {head : Bytes} (h : head = [] ∨ ¬ head <+: b.contents) :
    b.stripHead? head = none := by
  cases hstrip : b.stripHead? head with
  | none => rfl
  | some b' =>
    obtain ⟨hcontents, hhead⟩ := contents_stripHead? hstrip
    exact absurd ⟨_, hcontents.symm⟩ (h.resolve_left hhead)

/-- An operation that is refused says so, and changes nothing. -/
theorem perform_of_refuses {op : Operation ρ} (h : b.Refuses op) (now : Nat) :
    (b.perform now op).1.isRefusal = true ∧ (b.perform now op).2 = b := by
  cases op with
  | append data =>
    have happend : b.append now data = .error (b.overflow (b.length + data.length)) :=
      append_eq_error_iff.mpr ⟨h.1, h.2, rfl⟩
    rw [perform, happend]
    exact ⟨rfl, rfl⟩
  | take n =>
    rw [perform, take?_of_lt h]
    exact ⟨rfl, rfl⟩
  | stripHead head =>
    rw [perform, stripHead?_of_not_prefix h]
    exact ⟨rfl, rfl⟩
  | takeAll | snapshot | peek question | close => exact h.elim

theorem perform_of_not_refuses {op : Operation ρ} (h : ¬ b.Refuses op) (now : Nat) :
    b.perform now op = b.effect now op := by
  cases op with
  | append data =>
    cases happend : b.append now data with
    | error e =>
      obtain ⟨hdata, hover, -⟩ := append_eq_error_iff.mp happend
      exact absurd ⟨hdata, hover⟩ h
    | ok b' =>
      rw [perform, happend, effect]
      by_cases hdata : data = []
      · subst hdata
        rw [if_pos rfl, ← Except.ok.inj happend]
      · rw [if_neg hdata, eq_of_append happend hdata]
  | take n =>
    rw [perform, take?_of_le (Nat.not_lt.mp h)]
    rfl
  | stripHead head =>
    simp only [Refuses, not_or, not_not] at h
    obtain ⟨hhead, rest, hrest⟩ := h
    rw [perform, stripHead?_append hhead hrest.symm, effect, ← hrest, List.drop_left]
  | takeAll | snapshot | peek question | close => rfl

theorem isRefusal_perform_iff {now : Nat} {op : Operation ρ} :
    (b.perform now op).1.isRefusal = true ↔ b.Refuses op := by
  constructor
  · intro hrefusal
    by_contra h
    rw [perform_of_not_refuses h] at hrefusal
    cases op <;> cases hrefusal
  · exact fun h => (perform_of_refuses h now).1

/-- What takes bytes out changes nothing but the contents. -/
theorem perform_of_isRemoval {op : Operation ρ} (h : op.isRemoval = true) (now : Nat) :
    ∃ contents, (b.perform now op).2 = { b with contents } := by
  by_cases hrefuses : b.Refuses op
  · exact ⟨b.contents, (perform_of_refuses hrefuses now).2⟩
  · rw [perform_of_not_refuses hrefuses]
    cases op with
    | append data | close => cases h
    | take n | takeAll | stripHead head | snapshot | peek question => exact ⟨_, rfl⟩

/-! ### Many operations -/

/-- An operation, when it was done and what was answered. -/
structure Entry (ρ : Type) where
  time : Nat
  operation : Operation ρ
  reply : Reply ρ

namespace Entry

/-- The bytes that came in. -/
def added (e : Entry ρ) : Bytes :=
  match e.operation, e.reply with
  | .append data, .appended (.ok ()) => data
  | _, _ => []

/-- The bytes that went out. -/
def removed (e : Entry ρ) : Bytes :=
  match e.operation, e.reply with
  | .take _, .taken (some bytes) | .takeAll, .taken (some bytes) => bytes
  | .stripHead head, .stripped true => head
  | _, _ => []

/-- What was refused has moved nothing. -/
theorem idle_of_isRefusal {e : Entry ρ} (h : e.reply.isRefusal = true) : e.added = [] ∧ e.removed = [] := by
  unfold added removed
  constructor <;> split <;> first | rfl | simp_all [Reply.isRefusal]

/-- Whether bytes came in at all. -/
def brings (e : Entry ρ) : Bool := !e.added.isEmpty

def closes (e : Entry ρ) : Bool :=
  match e.operation with
  | .close => true
  | _ => false

end Entry

def entry (b : Buffer) (now : Nat) (op : Operation ρ) : Entry ρ := ⟨now, op, (b.perform now op).1⟩

def run (b : Buffer) : List (Nat × Operation ρ) → Buffer
  | [] => b
  | (now, op) :: operations => (b.perform now op).2.run operations

def history (b : Buffer) : List (Nat × Operation ρ) → List (Entry ρ)
  | [] => []
  | (now, op) :: operations => b.entry now op :: (b.perform now op).2.history operations

/-- What `b` has come to by what these entries tell. -/
structure Balances (b : Buffer) (entries : List (Entry ρ)) (b' : Buffer) : Prop where
  contents : entries.flatMap Entry.removed ++ b'.contents = b.contents ++ entries.flatMap Entry.added
  limit : b'.limit = b.limit
  fits : b.length ≤ b.limit → b'.length ≤ b.limit
  closed : b'.closed = (b.closed || entries.any Entry.closes)
  /-- Every entry that brings bytes counts, and the close if it was the first. -/
  generation : b'.generation = b.generation +
    UInt64.ofNat (entries.countP Entry.brings + if b'.closed && !b.closed then 1 else 0)
  lastArrival : b'.lastArrival = (((entries.filter Entry.brings).getLast?).map Entry.time).or b.lastArrival

theorem balances_nil (b : Buffer) : b.Balances ([] : List (Entry ρ)) b where
  contents := by simp
  limit := rfl
  fits h := h
  closed := by simp
  generation := by simp
  lastArrival := rfl

theorem Balances.trans {b1 b2 b3 : Buffer} {entries more : List (Entry ρ)} (h : b1.Balances entries b2)
    (h' : b2.Balances more b3) : b1.Balances (entries ++ more) b3 where
  contents := by
    rw [List.flatMap_append, List.flatMap_append, List.append_assoc, h'.contents, ← List.append_assoc,
      h.contents, List.append_assoc]
  limit := h'.limit.trans h.limit
  fits hfits := by
    have hfits' := h'.fits (h.limit ▸ h.fits hfits)
    rwa [h.limit] at hfits'
  closed := by rw [h'.closed, h.closed, List.any_append, Bool.or_assoc]
  generation := by
    -- Who is closed stays closed, so the close counts in one of the two parts at most.
    have hclosed := h.closed
    have hclosed' := h'.closed
    rw [h'.generation, h.generation, UInt64.add_assoc, ← UInt64.ofNat_add, List.countP_append]
    congr 2
    cases hb1 : b1.closed <;> cases hb2 : b2.closed <;> cases hb3 : b3.closed <;>
      simp [hb1, hb2, hb3] at hclosed hclosed' ⊢ <;> omega
  lastArrival := by
    rw [h'.lastArrival, h.lastArrival, List.filter_append, List.getLast?_append, Option.map_or, Option.or_assoc]

/-- Bytes that go out from the front are all that an entry tells of if it brings nothing and closes
nothing. -/
theorem balances_of_removed {e : Entry ρ} {contents : Bytes} (hadded : e.added = []) (hopen : e.closes = false)
    (hremoved : b.contents = e.removed ++ contents) : b.Balances [e] { b with contents } where
  contents := by simp [hadded, hremoved]
  limit := rfl
  fits hfits := by
    have hlength := congrArg List.length hremoved
    rw [List.length_append] at hlength
    calc contents.length ≤ b.contents.length := by omega
      _ ≤ b.limit := hfits
  closed := by simp [hopen]
  generation := by simp [Entry.brings, hadded]
  lastArrival := by simp [Entry.brings, hadded]

theorem balances_of_added {e : Entry ρ} (hadded : e.added ≠ []) (hremoved : e.removed = [])
    (hopen : e.closes = false) (hfits : b.length + e.added.length ≤ b.limit) :
    b.Balances [e] { b with
      contents := b.contents ++ e.added, generation := b.generation + 1, lastArrival := some e.time } where
  contents := by simp [hremoved]
  limit := rfl
  fits _ := by simpa [length] using hfits
  closed := by simp [hopen]
  generation := by simp [Entry.brings, hadded]
  lastArrival := by simp [Entry.brings, hadded]

theorem balances_close {e : Entry ρ} (hadded : e.added = []) (hremoved : e.removed = [])
    (hcloses : e.closes = true) : b.Balances [e] b.close where
  contents := by simp [hadded, hremoved]
  limit := limit_close b
  fits hfits := by rwa [length, contents_close]
  closed := by simp [hcloses]
  generation := by
    rw [closed_close, close]
    cases hb : b.closed <;> simp [Entry.brings, hadded]
  lastArrival := by simp [Entry.brings, hadded]

/-- One operation, by the entry that it leaves. -/
theorem balances_perform (b : Buffer) (now : Nat) (op : Operation ρ) :
    b.Balances [b.entry now op] (b.perform now op).2 := by
  by_cases hrefuses : b.Refuses op
  · obtain ⟨hreply, hsame⟩ := perform_of_refuses hrefuses now
    rw [hsame]
    obtain ⟨hadded, hremoved⟩ := Entry.idle_of_isRefusal (e := b.entry now op) hreply
    refine balances_of_removed hadded ?_ (by rw [hremoved]; rfl)
    cases op with
    | close => exact hrefuses.elim
    | _ => rfl
  · rw [entry, perform_of_not_refuses hrefuses]
    cases op with
    | append data =>
      by_cases hdata : data = []
      · rw [effect, if_pos hdata]
        exact balances_of_removed hdata rfl rfl
      · rw [effect, if_neg hdata]
        have hfits : b.length + data.length ≤ b.limit := by
          by_contra hover
          exact hrefuses ⟨hdata, Nat.lt_of_not_le hover⟩
        exact balances_of_added hdata rfl rfl hfits
    | take n => exact balances_of_removed rfl rfl (List.take_append_drop n b.contents).symm
    | takeAll => exact balances_of_removed rfl rfl (List.append_nil b.contents).symm
    | stripHead head =>
      simp only [Refuses, not_or, not_not] at hrefuses
      refine balances_of_removed rfl rfl ?_
      obtain ⟨rest, hrest⟩ := hrefuses.2
      show b.contents = head ++ b.contents.drop head.length
      rw [← hrest, List.drop_left]
    | snapshot | peek question => exact balances_of_removed rfl rfl rfl
    | close => exact balances_close rfl rfl rfl

/-- The balance of a buffer along any operations. -/
theorem balances_run (b : Buffer) (operations : List (Nat × Operation ρ)) :
    b.Balances (b.history operations) (b.run operations) := by
  induction operations generalizing b with
  | nil => exact balances_nil b
  | cons first operations ih =>
    obtain ⟨now, op⟩ := first
    exact (balances_perform b now op).trans (ih (b.perform now op).2)

/-- After any operations, refused ones among them, what went out of a buffer, in order, and then what is left
are what came in; no more is held than the limit allows; the generation tells how often bytes came in and
whether the buffer was closed, and so nothing that only takes bytes out changes it. A refused operation
changes nothing at all, and bytes are refused exactly when there are some and they do not fit. -/
theorem bounded_queue (limit : Nat) (operations : List (Nat × Operation ρ)) :
    let b := (empty limit).run operations
    let entries := (empty limit).history operations
    (entries.flatMap Entry.removed ++ b.contents = entries.flatMap Entry.added ∧
      b.limit = limit ∧ b.length ≤ limit ∧
      b.generation = UInt64.ofNat (entries.countP Entry.brings + if b.closed then 1 else 0) ∧
      b.closed = entries.any Entry.closes ∧
      b.lastArrival = ((entries.filter Entry.brings).getLast?).map Entry.time) ∧
    (∀ now data, (∃ e, b.append now data = .error e) ↔ data ≠ [] ∧ limit < b.length + data.length) ∧
    ∀ (now : Nat) (op : Operation ρ),
      ((b.perform now op).1.isRefusal = true ↔ b.Refuses op) ∧
      (b.Refuses op → (b.perform now op).2 = b) ∧
      (¬ b.Refuses op → b.perform now op = b.effect now op) ∧
      (op.isRemoval = true → ∃ contents, (b.perform now op).2 = { b with contents }) := by
  intro b entries
  have hbalances : (empty limit).Balances entries b := balances_run (empty limit) operations
  have hlimit : b.limit = limit := hbalances.limit
  refine ⟨⟨hbalances.contents, hlimit, hbalances.fits (Nat.zero_le limit), ?_, hbalances.closed, ?_⟩,
    fun now data => ?_, fun now op => ?_⟩
  · have hgeneration := hbalances.generation
    simpa [empty] using hgeneration
  · have harrival := hbalances.lastArrival
    simpa [empty] using harrival
  · constructor
    · rintro ⟨e, he⟩
      obtain ⟨hdata, hover, -⟩ := append_eq_error_iff.mp he
      exact ⟨hdata, hlimit ▸ hover⟩
    · rintro ⟨hdata, hover⟩
      exact ⟨_, append_eq_error_iff.mpr ⟨hdata, hlimit ▸ hover, rfl⟩⟩
  · exact ⟨isRefusal_perform_iff, fun h => (perform_of_refuses h now).2,
      fun h => perform_of_not_refuses h now, fun h => perform_of_isRemoval h now⟩

end SessionEngine.Buffer
