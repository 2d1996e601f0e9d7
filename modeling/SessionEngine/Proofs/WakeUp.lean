import SessionEngine.Buffer.Wait
import SessionEngine.Proofs.BoundedQueue

/-! A reader that waits for a buffer to change, while others use the buffer. Every step is what somebody does
with the lock in hand, or what happens to a sleeper; those who change the buffer call the sleepers only after
they gave the lock back, and a sleeper may wake up for no reason. `Vigilant.step` says what one step keeps:
above all, that a sleeper for whom something has changed will be called. By `no_wakeup_lost` the reader comes
back with a change exactly if there was one since it last looked at the generation. -/

namespace SessionEngine.Buffer

variable {ρ : Type}

/-- A reader that has seen a generation and asks for the next change. -/
inductive Waiter where
  /-- It looks at the buffer, and is not asking yet. -/
  | looking (seen : UInt64)
  | asleep (seen : UInt64) (deadline : Nat)
  /-- It has woken up, and looks whether there is a change as soon as it has the lock. -/
  | roused (seen : UInt64) (deadline : Nat)
  | returned (changed : Bool)
  deriving DecidableEq

namespace Waiter

def rouse : Waiter → Waiter
  | asleep seen deadline => roused seen deadline
  | w => w

def seen? : Waiter → Option UInt64
  | looking seen | asleep seen _ | roused seen _ => some seen
  | returned _ => none

@[simp] theorem seen?_rouse (w : Waiter) : w.rouse.seen? = w.seen? := by
  cases w <;> rfl

theorem rouse_ne_asleep (w : Waiter) (seen : UInt64) (deadline : Nat) : w.rouse ≠ asleep seen deadline := by
  cases w <;> nofun

end Waiter

/-- Whether sleepers are called after an operation: bytes came in, or it was a close. -/
def Entry.rings (e : Entry ρ) : Bool := e.brings || e.closes

/-- A buffer and a reader that waits for it to change. -/
structure Scene where
  buffer : Buffer
  waiter : Waiter
  /-- How many times the sleepers will be called for what was done already. -/
  calls : Nat
  /-- How long the reader will wait. -/
  timeout : Nat
  now : Nat

/-- An operation for which nobody is called is no change for anybody who waits. -/
theorem changedSince_perform_of_not_rings {b : Buffer} {now : Nat} {op : Operation ρ}
    (h : (b.entry now op).rings = false) (seen : UInt64) :
    (b.perform now op).2.changedSince seen = b.changedSince seen := by
  obtain ⟨hbrings, hcloses⟩ := Bool.or_eq_false_iff.mp h
  have hbalances := balances_perform b now op
  have hclosed : (b.perform now op).2.closed = b.closed := by
    rw [hbalances.closed, List.any_cons, hcloses]
    simp
  have hgeneration : (b.perform now op).2.generation = b.generation := by
    rw [hbalances.generation, hclosed]
    simp [hbrings]
  rw [changedSince, hclosed, hgeneration, changedSince]

/-- An operation for which sleepers are called is a change for whoever has seen the generation before. -/
theorem changedSince_perform_of_rings {b : Buffer} {now : Nat} {op : Operation ρ} {seen : UInt64}
    (hsame : b.changedSince seen = false) (h : (b.entry now op).rings = true) :
    (b.perform now op).2.changedSince seen = true := by
  have hbalances := balances_perform b now op
  have hclosed := hbalances.closed
  have hgeneration := hbalances.generation
  rw [changedSince, Bool.or_eq_false_iff, bne_eq_false_iff_eq] at hsame
  rw [hsame.1] at hgeneration
  rw [hsame.2, Bool.false_or, List.any_cons, List.any_nil, Bool.or_false] at hclosed
  rw [changedSince, Bool.or_eq_true]
  cases hcloses : (b.entry now op).closes with
  | true => exact .inr (hclosed.trans hcloses)
  | false =>
    have hbrings : (b.entry now op).brings = true := by simpa [Entry.rings, hcloses] using h
    left
    rw [hgeneration, hclosed, hcloses, bne_iff_ne]
    simp [hbrings]

namespace Scene

/-- One step of somebody, with the entry of an operation on the buffer. The scene ends when the reader is
back. -/
inductive Step : Scene → Option (Entry ρ) → Scene → Prop
  | operate {s : Scene} (op : Operation ρ) (hwaits : s.waiter.seen?.isSome) :
      Step s (some (s.buffer.entry s.now op)) { s with
        buffer := (s.buffer.perform s.now op).2
        calls := s.calls + if (s.buffer.entry s.now op).rings then 1 else 0 }
  | call {s : Scene} {n : Nat} (hwaits : s.waiter.seen?.isSome) (hcalls : s.calls = n + 1) :
      Step s none { s with calls := n, waiter := s.waiter.rouse }
  | pass {s : Scene} {later : Nat} (hwaits : s.waiter.seen?.isSome) (hlater : s.now ≤ later) :
      Step s none { s with now := later }
  /-- The reader asks for a change, and there was one. -/
  | find {s : Scene} {seen : UInt64} (hwaiter : s.waiter = .looking seen)
      (hchanged : s.buffer.changedSince seen = true) : Step s none { s with waiter := .returned true }
  | sleep {s : Scene} {seen : UInt64} (hwaiter : s.waiter = .looking seen)
      (hsame : s.buffer.changedSince seen = false) :
      Step s none { s with waiter := .asleep seen (s.now + s.timeout) }
  /-- The reader wakes up because its time is over, or for no reason. -/
  | stir {s : Scene} {seen : UInt64} {deadline : Nat} (hwaiter : s.waiter = .asleep seen deadline) :
      Step s none { s with waiter := .roused seen deadline }
  | notice {s : Scene} {seen : UInt64} {deadline : Nat} (hwaiter : s.waiter = .roused seen deadline)
      (hchanged : s.buffer.changedSince seen = true) : Step s none { s with waiter := .returned true }
  | doze {s : Scene} {seen : UInt64} {deadline : Nat} (hwaiter : s.waiter = .roused seen deadline)
      (hsame : s.buffer.changedSince seen = false) (hearly : s.now ≤ deadline) :
      Step s none { s with waiter := .asleep seen deadline }
  | giveUp {s : Scene} {seen : UInt64} {deadline : Nat} (hwaiter : s.waiter = .roused seen deadline)
      (hsame : s.buffer.changedSince seen = false) (hlate : deadline ≤ s.now) :
      Step s none { s with waiter := .returned false }

/-- Any number of steps, with the entries of all operations. -/
inductive Run (s : Scene) : List (Entry ρ) → Scene → Prop
  | start : Run s [] s
  | quiet {entries : List (Entry ρ)} {s' s'' : Scene} (h : Run s entries s')
      (hstep : Step s' (none : Option (Entry ρ)) s'') : Run s entries s''
  | act {entries : List (Entry ρ)} {s' s'' : Scene} {e : Entry ρ} (h : Run s entries s')
      (hstep : Step s' (some e) s'') : Run s (entries ++ [e]) s''

variable {s s' s'' : Scene} {entries more : List (Entry ρ)}

theorem Run.trans (h : s.Run entries s') (h' : s'.Run more s'') : s.Run (entries ++ more) s'' := by
  induction h' with
  | start =>
    rw [List.append_nil]
    exact h
  | quiet _ hstep ih => exact ih.quiet hstep
  | act _ hstep ih =>
    rw [← List.append_assoc]
    exact ih.act hstep

/-- What holds of a reader that has seen the generation of `b`, while the buffer went on from `b`. -/
structure Vigilant (b : Buffer) (entries : List (Entry ρ)) (s : Scene) : Prop where
  balances : b.Balances entries s.buffer
  seen : ∀ seen ∈ s.waiter.seen?, seen = b.generation
  called : ∀ seen deadline, s.waiter = .asleep seen deadline →
    s.buffer.changedSince b.generation = true → 0 < s.calls
  returned : ∀ changed, s.waiter = .returned changed → s.buffer.changedSince b.generation = changed

/-- A reader has seen the generation of a buffer. Earlier changes of it may still have calls to come. -/
def start (b : Buffer) (calls timeout now : Nat) : Scene := ⟨b, .looking b.generation, calls, timeout, now⟩

theorem vigilant_start (b : Buffer) (calls timeout now : Nat) :
    Vigilant b ([] : List (Entry ρ)) (start b calls timeout now) where
  balances := balances_nil b
  seen _ h := (Option.some.inj h).symm
  called _ _ h := nomatch h
  returned _ h := nomatch h

/-- Whoever changes the buffer owes the sleepers a call. -/
theorem Vigilant.act {b : Buffer} {e : Entry ρ} (h : Vigilant b entries s) (hstep : Step s (some e) s') :
    Vigilant b (entries ++ [e]) s' := by
  cases hstep with
  | operate op hwaits =>
    refine ⟨h.balances.trans (balances_perform s.buffer s.now op), h.seen,
      fun seen deadline hasleep hchanged => ?_, fun changed hreturned => ?_⟩
    · cases hrings : (s.buffer.entry s.now op).rings with
      | true => exact Nat.succ_pos _
      | false =>
        rw [changedSince_perform_of_not_rings hrings] at hchanged
        exact h.called seen deadline hasleep hchanged
    · rw [show s.waiter = .returned changed from hreturned] at hwaits
      cases hwaits

/-- A reader goes to sleep only while nothing has changed, and comes back with what it finds. -/
theorem Vigilant.quiet {b : Buffer} (h : Vigilant b entries s) (hstep : Step s (none : Option (Entry ρ)) s') :
    Vigilant b entries s' := by
  have hseen : ∀ {seen}, s.waiter.seen? = some seen → seen = b.generation := fun {seen} => h.seen seen
  cases hstep with
  | call hwaits hcalls =>
    refine ⟨h.balances, fun seen hsame => hseen (s.waiter.seen?_rouse ▸ hsame),
      fun seen deadline hasleep => absurd hasleep (s.waiter.rouse_ne_asleep seen deadline),
      fun changed hreturned => ?_⟩
    have hnone := congrArg Waiter.seen? hreturned
    rw [Waiter.seen?_rouse] at hnone
    rw [hnone] at hwaits
    cases hwaits
  | pass hwaits hlater => exact ⟨h.balances, h.seen, h.called, h.returned⟩
  | find hwaiter hchanged | notice hwaiter hchanged =>
    refine ⟨h.balances, nofun, nofun, fun changed hreturned => ?_⟩
    obtain rfl := hseen (congrArg Waiter.seen? hwaiter)
    rw [← Waiter.returned.inj hreturned]
    exact hchanged
  | giveUp hwaiter hsame hlate =>
    refine ⟨h.balances, nofun, nofun, fun changed hreturned => ?_⟩
    obtain rfl := hseen (congrArg Waiter.seen? hwaiter)
    rw [← Waiter.returned.inj hreturned]
    exact hsame
  | sleep hwaiter hsame | doze hwaiter hsame hearly =>
    obtain rfl := hseen (congrArg Waiter.seen? hwaiter)
    refine ⟨h.balances, fun seen heq => (Option.some.inj heq).symm,
      fun seen deadline hasleep hchanged => ?_, nofun⟩
    rw [hsame] at hchanged
    cases hchanged
  | stir hwaiter =>
    obtain rfl := hseen (congrArg Waiter.seen? hwaiter)
    exact ⟨h.balances, fun seen heq => (Option.some.inj heq).symm, nofun, nofun⟩

theorem Vigilant.run {b : Buffer} (h : Vigilant b entries s) (hrun : s.Run more s') :
    Vigilant b (entries ++ more) s' := by
  induction hrun with
  | start =>
    rw [List.append_nil]
    exact h
  | quiet _ hstep ih => exact ih.quiet hstep
  | act _ hstep ih =>
    rw [← List.append_assoc]
    exact ih.act hstep

/-- With less than `2^64` changes, the generation and the close tell whether there was one. -/
theorem Vigilant.changedSince_iff {b : Buffer} (h : Vigilant b entries s)
    (hfew : entries.countP Entry.brings < UInt64.size) :
    s.buffer.changedSince b.generation = true ↔ (∃ e ∈ entries, e.brings = true) ∨ s.buffer.closed = true := by
  rw [changedSince, Bool.or_eq_true]
  cases hclosed : s.buffer.closed with
  | true => simp
  | false =>
    rw [h.balances.generation, hclosed, bne_iff_ne, ← List.countP_pos_iff]
    simp only [Bool.false_and, Bool.false_eq_true, if_false, Nat.add_zero, or_false]
    rw [ne_eq, UInt64.add_eq_left, ← UInt64.toNat_inj, UInt64.toNat_ofNat_of_lt' hfew]
    exact Nat.pos_iff_ne_zero.symm

/-- Behind a change the reader does not fall asleep any more. -/
theorem Vigilant.awake {b : Buffer} (h : Vigilant b entries s)
    (hchanged : s.buffer.changedSince b.generation = true) {label : Option (Entry ρ)}
    (hstep : Step s label s') {seen : UInt64} {deadline : Nat}
    (hasleep : s'.waiter = .asleep seen deadline) : s.waiter = .asleep seen deadline := by
  cases hstep with
  | operate op hwaits => exact hasleep
  | call hwaits hcalls => exact absurd hasleep (s.waiter.rouse_ne_asleep seen deadline)
  | pass hwaits hlater => exact hasleep
  | find hwaiter | notice hwaiter | giveUp hwaiter | stir hwaiter => cases hasleep
  | sleep hwaiter hsame | doze hwaiter hsame hearly =>
    obtain rfl := h.seen _ (congrArg Waiter.seen? hwaiter)
    rw [hsame] at hchanged
    cases hchanged

/-- A reader that sleeps although something has changed will be called, and every call wakes it. -/
theorem Vigilant.roused {b : Buffer} (h : Vigilant b entries s)
    (hchanged : s.buffer.changedSince b.generation = true) {seen : UInt64} {deadline : Nat}
    (hasleep : s.waiter = .asleep seen deadline) :
    0 < s.calls ∧ ∀ (label : Option (Entry ρ)) s', s.Step label s' → s'.calls < s.calls →
      s'.waiter = .roused seen deadline := by
  refine ⟨h.called seen deadline hasleep hchanged, fun label s' hstep hcall => ?_⟩
  cases hstep with
  | call hwaits hcalls =>
    show s.waiter.rouse = .roused seen deadline
    rw [hasleep]
    rfl
  | operate op hwaits => exact absurd (Nat.le_add_right ..) (Nat.not_le_of_lt hcall)
  | pass | find | sleep | stir | notice | doze | giveUp => exact absurd hcall (Nat.lt_irrefl _)

/-- A reader for whom something has changed can come back at once: if it sleeps it is called. -/
theorem Vigilant.exists_returned {b : Buffer} (h : Vigilant b entries s)
    (hchanged : s.buffer.changedSince b.generation = true) :
    ∃ s', s.Run ([] : List (Entry ρ)) s' ∧ s'.waiter = .returned true ∧ s'.now = s.now := by
  cases hwaiter : s.waiter with
  | looking seen =>
    obtain rfl := h.seen seen (congrArg Waiter.seen? hwaiter)
    exact ⟨_, .quiet .start (.find hwaiter hchanged), rfl, rfl⟩
  | roused seen deadline =>
    obtain rfl := h.seen seen (congrArg Waiter.seen? hwaiter)
    exact ⟨_, .quiet .start (.notice hwaiter hchanged), rfl, rfl⟩
  | asleep seen deadline =>
    obtain rfl := h.seen seen (congrArg Waiter.seen? hwaiter)
    obtain ⟨n, hcalls⟩ := Nat.exists_eq_add_one.mpr (h.called _ deadline hwaiter hchanged)
    have hcall : Step s (none : Option (Entry ρ)) { s with calls := n, waiter := s.waiter.rouse } :=
      .call (by rw [hwaiter]; rfl) hcalls
    have hroused : s.waiter.rouse = .roused b.generation deadline := by rw [hwaiter]; rfl
    exact ⟨_, .quiet (.quiet .start hcall) (.notice hroused hchanged), rfl, rfl⟩
  | returned changed =>
    refine ⟨s, .start, ?_, rfl⟩
    rw [hwaiter, ← h.returned changed hwaiter, hchanged]

/-- Once its time is over, a reader comes back in any case. -/
theorem exists_returned (s : Scene) :
    ∃ s' changed, s.Run ([] : List (Entry ρ)) s' ∧ s'.waiter = .returned changed := by
  have hroused : ∀ {t : Scene} {seen deadline}, t.waiter = .roused seen deadline →
      ∃ s' changed, t.Run ([] : List (Entry ρ)) s' ∧ s'.waiter = .returned changed := by
    intro t seen deadline hwaiter
    cases hchanged : t.buffer.changedSince seen with
    | true => exact ⟨_, true, .quiet .start (.notice hwaiter hchanged), rfl⟩
    | false =>
      have hpass : Step t (none : Option (Entry ρ)) { t with now := max t.now deadline } :=
        .pass (by rw [hwaiter]; rfl) (Nat.le_max_left ..)
      exact ⟨_, false, .quiet (.quiet .start hpass) (.giveUp hwaiter hchanged (Nat.le_max_right ..)), rfl⟩
  have hasleep : ∀ {t : Scene} {seen deadline}, t.waiter = .asleep seen deadline →
      ∃ s' changed, t.Run ([] : List (Entry ρ)) s' ∧ s'.waiter = .returned changed := by
    intro t seen deadline hwaiter
    obtain ⟨s', changed, hrun, hreturned⟩ := hroused (t := { t with waiter := .roused seen deadline }) rfl
    exact ⟨s', changed, Run.trans (.quiet .start (.stir hwaiter)) hrun, hreturned⟩
  cases hwaiter : s.waiter with
  | looking seen =>
    cases hchanged : s.buffer.changedSince seen with
    | true => exact ⟨_, true, .quiet .start (.find hwaiter hchanged), rfl⟩
    | false =>
      obtain ⟨s', changed, hrun, hreturned⟩ :=
        hasleep (t := { s with waiter := .asleep seen (s.now + s.timeout) }) rfl
      exact ⟨s', changed, Run.trans (.quiet .start (.sleep hwaiter hchanged)) hrun, hreturned⟩
  | asleep seen deadline => exact hasleep hwaiter
  | roused seen deadline => exact hroused hwaiter
  | returned changed => exact ⟨s, changed, .start, hwaiter⟩

/-! ### What wakes nobody -/

theorem rings_eq_false {b : Buffer} {op : Operation ρ}
    (h : op.isRemoval = true ∨ b.Refuses op ∨ op = .append []) (now : Nat) :
    (b.entry now op).rings = false := by
  have hbrings : (b.entry now op).added = [] ∧ (b.entry now op).closes = false := by
    rcases h with hremoval | hrefuses | rfl
    · cases op with
      | append data | close => cases hremoval
      | _ => exact ⟨rfl, rfl⟩
    · refine ⟨(Entry.idle_of_isRefusal (perform_of_refuses hrefuses now).1).1, ?_⟩
      cases op with
      | close => exact hrefuses.elim
      | _ => rfl
    · exact ⟨rfl, rfl⟩
  rw [Entry.rings, Entry.brings, hbrings.1, hbrings.2]
  rfl

theorem Step.unmoved {e : Entry ρ} (h : Step s (some e) s') (hrings : e.rings = false) :
    s'.waiter = s.waiter ∧ s'.calls = s.calls ∧
      ∀ seen, s'.buffer.changedSince seen = s.buffer.changedSince seen := by
  cases h with
  | operate op hwaits =>
    refine ⟨rfl, ?_, changedSince_perform_of_not_rings hrings⟩
    show s.calls + (if (s.buffer.entry s.now op).rings then 1 else 0) = s.calls
    rw [hrings]
    rfl

end Scene

/-! ### Waiting along a schedule -/

def Change.operation : Change → Operation ρ
  | .append data => .append data
  | .take n => .take n
  | .stripHead head => .stripHead head
  | .close => .close

/-- What is to be told of changes that are made at their times. -/
def entries (b : Buffer) (changes : List (Nat × Change)) : List (Entry Unit) :=
  b.history (changes.map fun c => (c.1, c.2.operation))

theorem apply_eq_perform (b : Buffer) (now : Nat) (c : Change) :
    b.apply now c = (b.perform now (c.operation : Operation ρ)).2 := by
  cases c with
  | append data =>
    simp only [apply, Change.operation, perform]
    cases b.append now data <;> rfl
  | take n =>
    simp only [apply, Change.operation, perform]
    cases b.take? n <;> rfl
  | stripHead head =>
    simp only [apply, Change.operation, perform]
    cases b.stripHead? head <;> rfl
  | close => rfl

namespace Scene

/-- The run of a scene in which a reader waits along a schedule, up to its deadline. The first changes
are made, each before the deadline; none of them but the last is one that sleepers are called for, and
with the last the reader goes on, or with the deadline if that comes first. Those that are to come later
are left. -/
structure Plays (s : Scene) (seen : UInt64) (deadline : Nat) (changes performed : List (Nat × Change))
    (s' : Scene) : Prop where
  split : changes = performed ++ (s.buffer.await seen deadline changes).2.2
  early : ∀ c ∈ performed, c.1 < deadline
  run : s.Run (s.buffer.entries performed) s'
  silent : ∀ e ∈ (s.buffer.entries performed).dropLast, e.rings = false
  waiter : s'.waiter = .returned (s.buffer.await seen deadline changes).1
  buffer : s'.buffer = (s.buffer.await seen deadline changes).2.1
  late : (s.buffer.await seen deadline changes).1 = false →
    ∀ c ∈ (s.buffer.await seen deadline changes).2.2, deadline ≤ c.1

variable {s : Scene} {seen : UInt64} {deadline : Nat} {changes : List (Nat × Change)}

/-- A reader that finds a change goes on at once. -/
theorem plays_of_changedSince (hwaiter : s.waiter = .roused seen deadline)
    (hchanged : s.buffer.changedSince seen = true) :
    s.Plays seen deadline changes [] { s with waiter := .returned true } := by
  have hawait := await_of_changedSince hchanged deadline changes
  refine ⟨by rw [hawait]; rfl, List.forall_mem_nil _, .quiet .start (.notice hwaiter hchanged),
    List.forall_mem_nil _, ?_, ?_, fun hfalse => ?_⟩
  · rw [hawait]
  · rw [hawait]
  · rw [hawait] at hfalse
    cases hfalse

/-- A reader for whom nothing changes before its deadline gives up then. -/
theorem exists_plays_of_late (hwaiter : s.waiter = .roused seen deadline)
    (hsame : s.buffer.changedSince seen = false) (hnow : s.now ≤ deadline)
    (hlate : ∀ c ∈ changes, deadline ≤ c.1) : ∃ s', s.Plays seen deadline changes [] s' := by
  have hawait : s.buffer.await seen deadline changes = (false, s.buffer, changes) := by
    cases changes with
    | nil => rw [await, hsame]
    | cons first changes =>
      have hfirst := hlate first List.mem_cons_self
      rw [await, hsame, if_neg Bool.false_ne_true, if_neg (Nat.not_lt_of_le hfirst)]
  have hpass : s.Run ([] : List (Entry Unit)) { s with now := deadline } :=
    .quiet .start (.pass (by rw [hwaiter]; rfl) hnow)
  refine ⟨_, by rw [hawait]; rfl, List.forall_mem_nil _,
    hpass.quiet (.giveUp hwaiter hsame (Nat.le_refl deadline)), List.forall_mem_nil _, ?_, ?_, ?_⟩
  · rw [hawait]
  · rw [hawait]
  · rw [hawait]
    exact fun _ => hlate

/-- A change of the schedule is made while the reader sleeps, and the reader wakes up. -/
theorem exists_roused (hwaiter : s.waiter = .roused seen deadline) (hsame : s.buffer.changedSince seen = false)
    (hnow : s.now ≤ deadline) {time : Nat} (change : Change) (htime : s.now ≤ time) : ∃ s' : Scene,
      s.Run (s.buffer.entries [(time, change)]) s' ∧ s'.waiter = .roused seen deadline ∧ s'.now = time ∧
        s'.buffer = s.buffer.apply time change := by
  have hdoze : s.Run ([] : List (Entry Unit)) { s with waiter := .asleep seen deadline } :=
    .quiet .start (.doze hwaiter hsame hnow)
  have hpass := hdoze.quiet (.pass rfl htime)
  exact ⟨_, (hpass.act (.operate change.operation rfl)).quiet (.stir rfl), rfl, rfl,
    (apply_eq_perform s.buffer time change).symm⟩

/-- If a reader goes on sleeping behind an operation, nobody was called for it. -/
theorem silent_of_await_cons {b : Buffer} {time : Nat} {op : Operation Unit} {next : Nat × Change}
    {performed : List (Nat × Change)} (hsame : b.changedSince seen = false)
    (hsplit : changes = next :: performed ++ ((b.perform time op).2.await seen deadline changes).2.2) :
    (b.entry time op).rings = false := by
  by_contra hrings
  have hchanged := changedSince_perform_of_rings hsame ((Bool.not_eq_false _).mp hrings)
  rw [await_of_changedSince hchanged] at hsplit
  have hlength : changes.length = (next :: performed ++ changes).length := congrArg List.length hsplit
  rw [List.length_append, List.length_cons] at hlength
  omega

/-- A reader sleeps through the first change of a schedule, or wakes up by it, and waits along the rest. -/
theorem Plays.cons {t s' : Scene} {time : Nat} {change : Change} {performed : List (Nat × Change)}
    (h : t.Plays seen deadline changes performed s') (hsame : s.buffer.changedSince seen = false)
    (hsoon : time < deadline) (hrun : s.Run (s.buffer.entries [(time, change)]) t)
    (hbuffer : t.buffer = s.buffer.apply time change) :
    s.Plays seen deadline ((time, change) :: changes) ((time, change) :: performed) s' := by
  have hawait : s.buffer.await seen deadline ((time, change) :: changes) =
      t.buffer.await seen deadline changes := by
    rw [await, hsame, if_neg Bool.false_ne_true, if_pos hsoon, hbuffer]
  have hentries : s.buffer.entries ((time, change) :: performed) =
      s.buffer.entry time change.operation :: t.buffer.entries performed := by
    rw [hbuffer, apply_eq_perform]
    rfl
  refine ⟨?_, List.forall_mem_cons.mpr ⟨hsoon, h.early⟩, ?_, ?_, ?_, ?_, ?_⟩
  · rw [hawait, List.cons_append, ← h.split]
  · rw [hentries]
    exact hrun.trans h.run
  · rw [hentries]
    intro e he
    cases performed with
    | nil => cases he
    | cons next performed =>
      rw [entries, List.map_cons, history, List.dropLast_cons_cons, List.mem_cons] at he
      rcases he with rfl | he
      · exact silent_of_await_cons hsame (by rw [← apply_eq_perform, ← hbuffer]; exact h.split)
      · exact h.silent e he
  · rw [hawait]
    exact h.waiter
  · rw [hawait]
    exact h.buffer
  · rw [hawait]
    exact h.late

/-- A reader that waits along a schedule goes through a run of the scene. -/
theorem exists_plays (hwaiter : s.waiter = .roused seen deadline) (hnow : s.now ≤ deadline)
    (hsorted : (s.now :: changes.map Prod.fst).Pairwise (· ≤ ·)) :
    ∃ performed s', s.Plays seen deadline changes performed s' := by
  induction changes generalizing s with
  | nil =>
    cases hchanged : s.buffer.changedSince seen with
    | true => exact ⟨[], _, plays_of_changedSince hwaiter hchanged⟩
    | false => exact ⟨[], exists_plays_of_late hwaiter hchanged hnow (List.forall_mem_nil _)⟩
  | cons first changes ih =>
    obtain ⟨time, change⟩ := first
    rw [List.map_cons, List.pairwise_cons] at hsorted
    obtain ⟨hfirst, hsorted⟩ := hsorted
    cases hchanged : s.buffer.changedSince seen with
    | true => exact ⟨[], _, plays_of_changedSince hwaiter hchanged⟩
    | false =>
      by_cases hsoon : time < deadline
      · obtain ⟨t, hrun, hroused, hnow', hbuffer⟩ :=
          exists_roused hwaiter hchanged hnow change (hfirst time List.mem_cons_self)
        obtain ⟨performed, s', hplays⟩ := ih hroused (hnow' ▸ Nat.le_of_lt hsoon) (hnow' ▸ hsorted)
        exact ⟨_, s', hplays.cons hchanged hsoon hrun hbuffer⟩
      · refine ⟨[], exists_plays_of_late hwaiter hchanged hnow fun c hc => ?_⟩
        have hle : time ≤ c.1 := by
          rcases List.mem_cons.mp hc with rfl | hc
          · exact Nat.le_refl _
          · exact (List.pairwise_cons.mp hsorted).1 c.1 (List.mem_map_of_mem hc)
        exact Nat.le_trans (Nat.le_of_not_lt hsoon) hle

/-- A reader that asks for a change sleeps, or finds one. -/
theorem exists_plays_start (b : Buffer) (calls timeout now : Nat)
    (hsorted : (now :: changes.map Prod.fst).Pairwise (· ≤ ·)) :
    ∃ performed s', (start b calls timeout now).Plays b.generation (now + timeout) changes performed s' := by
  cases hsame : b.changedSince b.generation with
  | true =>
    have hawait := await_of_changedSince hsame (now + timeout) changes
    refine ⟨[], _, by rw [start, hawait]; rfl, List.forall_mem_nil _, .quiet .start (.find rfl hsame),
      List.forall_mem_nil _, ?_, ?_, fun hfalse => ?_⟩
    · rw [start, hawait]
    · rw [start, hawait]
    · rw [start, hawait] at hfalse
      cases hfalse
  | false =>
    have hasleep : (start b calls timeout now).Run ([] : List (Entry Unit))
        ⟨b, .roused b.generation (now + timeout), calls, timeout, now⟩ :=
      .quiet (.quiet .start (.sleep rfl hsame)) (.stir rfl)
    obtain ⟨performed, s', hplays⟩ := exists_plays
      (s := ⟨b, .roused b.generation (now + timeout), calls, timeout, now⟩)
      rfl (Nat.le_add_right now timeout) hsorted
    exact ⟨performed, s', hplays.split, hplays.early, hasleep.trans hplays.run, hplays.silent, hplays.waiter,
      hplays.buffer, hplays.late⟩

end Scene

/-- A reader takes the generation of a buffer, looks at the buffer and waits for a change, while others
do anything with the buffer, each step under its lock. It comes back with a change exactly if bytes came
in after it took the generation, or the buffer is closed by then. From the change on it does not fall
asleep; if it sleeps, a call is still to come, and every call wakes it; so it can come back before any
time passes. What is refused, brings nothing or only takes bytes out is nothing to it. It comes back in
any case. And a wait along a schedule is such a run, in which exactly the changes up to the first that
counts are made, and none from the deadline on. -/
theorem no_wakeup_lost {b : Buffer} {calls timeout now : Nat} {entries : List (Entry ρ)} {s : Scene}
    (hrun : (Scene.start b calls timeout now).Run entries s)
    (hfew : entries.countP Entry.brings < UInt64.size) :
    (∀ changed, s.waiter = .returned changed →
      (changed = true ↔ (∃ e ∈ entries, e.brings = true) ∨ s.buffer.closed = true)) ∧
    ((∃ e ∈ entries, e.brings = true) ∨ s.buffer.closed = true →
      (∀ (label : Option (Entry ρ)) s' seen deadline, s.Step label s' → s'.waiter = .asleep seen deadline →
        s.waiter = .asleep seen deadline) ∧
      (∀ seen deadline, s.waiter = .asleep seen deadline →
        0 < s.calls ∧ ∀ (label : Option (Entry ρ)) s', s.Step label s' → s'.calls < s.calls →
          s'.waiter = .roused seen deadline) ∧
      ∃ s', s.Run ([] : List (Entry ρ)) s' ∧ s'.waiter = .returned true ∧ s'.now = s.now) ∧
    (∀ op : Operation ρ, op.isRemoval = true ∨ s.buffer.Refuses op ∨ op = .append [] →
      ∀ s', s.Step (some (s.buffer.entry s.now op)) s' → s'.waiter = s.waiter ∧ s'.calls = s.calls ∧
        ∀ seen, s'.buffer.changedSince seen = s.buffer.changedSince seen) ∧
    (∃ s' changed, s.Run ([] : List (Entry ρ)) s' ∧ s'.waiter = .returned changed) ∧
    ∀ changes : List (Nat × Change), (now :: changes.map Prod.fst).Pairwise (· ≤ ·) → ∃ performed s',
      (Scene.start b calls timeout now).Plays b.generation (now + timeout) changes performed s' := by
  have hs : s.Vigilant b entries := (Scene.vigilant_start b calls timeout now).run hrun
  have hchanged := hs.changedSince_iff hfew
  refine ⟨fun changed hreturned => ?_, fun hchange => ⟨fun label s' seen deadline hstep => ?_,
    fun seen deadline hasleep => ?_, ?_⟩, fun op hop s' hstep => ?_, s.exists_returned,
    fun changes hsorted => ?_⟩
  · rw [← hchanged, hs.returned changed hreturned]
  · exact hs.awake (hchanged.mpr hchange) hstep
  · exact hs.roused (hchanged.mpr hchange) hasleep
  · exact hs.exists_returned (hchanged.mpr hchange)
  · exact hstep.unmoved (Scene.rings_eq_false hop s.now)
  · exact Scene.exists_plays_start b calls timeout now hsorted

/-- A reader sleeps when three bytes are refused and one more is taken; it is called, and comes back. -/
theorem no_wakeup_lost_behind_refusal :
    let b := empty 2
    let entries : List (Entry Unit) := [b.entry 1 (.append [97, 98, 99]), b.entry 1 (.append [97])]
    ∃ s, ((Scene.start b 0 5 0).Run entries s ∧ entries.countP Entry.brings < UInt64.size) ∧
      s.waiter = .returned true ∧ s.now = 1 ∧ ∃ e ∈ entries, e.brings = true := by
  intro b entries
  have hsleep : (Scene.start b 0 5 0).Run ([] : List (Entry Unit)) ⟨b, .asleep 0 5, 0, 5, 1⟩ :=
    .quiet (.quiet .start (.sleep rfl (by decide))) (.pass rfl (by decide))
  have hrun := ((hsleep.act (.operate (.append [97, 98, 99]) rfl)).act (.operate (.append [97]) rfl)).quiet
    (.call (n := 0) rfl (by decide))
  have hback := hrun.quiet (.notice rfl (by decide))
  have hfew : entries.countP Entry.brings < UInt64.size := by decide
  refine ⟨_, ⟨hback, hfew⟩, rfl, rfl, ?_⟩
  rcases ((no_wakeup_lost hback hfew).1 true rfl).mp rfl with hbrings | hclosed
  · exact hbrings
  · exact absurd hclosed (by decide)

end SessionEngine.Buffer
