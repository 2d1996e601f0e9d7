import SessionEngine.Demo.Handlers
import SessionEngine.Proofs.Pool.Tenants

/-! Who stops a pool of workers, and what is delivered before. Sessions that do not own their pool never
stop it, so it takes tasks for ever and every event that was accepted is told of as long as the dispatcher
of its session goes on (`Shared.told_of_served`); a session that owns its pool stops it only behind its last
event (`Owned.move`). -/

namespace SessionEngine

variable {ε : Type}

structure Tenancy (μ ε : Type) where
  tenants : List (Tenant μ ε)
  pool : Workers

/-- Which session moves at each step, and how. -/
abbrev Schedule := Nat → Nat × Tenant.Move

/-- The dispatcher of the session in place `i` goes on: again and again it may take an event, and its
callback may act. -/
def Schedule.Serves (schedule : Schedule) (i : Nat) : Prop :=
  ∀ n, (∃ k ≥ n, schedule k = (i, .tell)) ∧ ∃ k ≥ n, ∃ now, schedule k = (i, .act now)

namespace Tenancy

/-- New sessions on a pool that runs. -/
structure Fresh (g : Tenancy μ ε) : Prop where
  running : g.pool.stopped = false
  entered : ∀ t ∈ g.tenants, ∃ s handler memory ownsPool, s.events = .empty ∧ s.stage.isOpen = true ∧
    t = .enter s handler memory ownsPool

variable {g : Tenancy μ ε} {i k : Nat} {m : Tenant.Move} {t : Tenant μ ε} {schedule : Schedule}

theorem Fresh.sound (hg : g.Fresh) : ∀ t ∈ g.tenants, t.Sound := by
  intro t ht
  obtain ⟨s, handler, memory, ownsPool, hqueue, hopen, rfl⟩ := hg.entered t ht
  exact Tenant.sound_enter hqueue hopen handler memory ownsPool

/-- The pool runs and belongs to no session, and a delivery is over only when its dispatcher is. -/
structure Shared (g : Tenancy μ ε) : Prop where
  running : g.pool.stopped = false
  guests : ∀ t ∈ g.tenants, t.ownsPool = false
  sound : ∀ t ∈ g.tenants, t.Sound
  settled : ∀ t ∈ g.tenants, t.phase = .finished → t.course.dispatcher.isOver = true

theorem Fresh.shared (hg : g.Fresh) (hguests : ∀ t ∈ g.tenants, t.ownsPool = false) : g.Shared := by
  refine ⟨hg.running, hguests, hg.sound, fun t ht hfinished => ?_⟩
  obtain ⟨s, handler, memory, ownsPool, -, -, rfl⟩ := hg.entered t ht
  cases hfinished

/-- The pool belongs to the session in place `i` at most, and runs until the delivery of that session is
over. -/
structure Owned (g : Tenancy μ ε) (i : Nat) : Prop where
  sound : ∀ t ∈ g.tenants, t.Sound
  guests : ∀ k t, k ≠ i → g.tenants[k]? = some t → t.ownsPool = false
  ends : g.pool.stopped = true →
    ∃ t, g.tenants[i]? = some t ∧ t.phase = .finished ∧ t.course.dispatcher.isOver = true

theorem Fresh.owned (hg : g.Fresh)
    (hguests : ∀ k t, k ≠ i → g.tenants[k]? = some t → t.ownsPool = false) : g.Owned i := by
  refine ⟨hg.sound, hguests, fun hstopped => ?_⟩
  rw [hg.running] at hstopped
  cases hstopped

variable [Tls.RecordEngine ε]

def move (g : Tenancy μ ε) (i : Nat) (m : Tenant.Move) : Tenancy μ ε :=
  match g.tenants[i]? with
  | none => g
  | some t => ⟨g.tenants.set i (t.move g.pool m).1, (t.move g.pool m).2⟩

def after (g : Tenancy μ ε) (schedule : Schedule) : Nat → Tenancy μ ε
  | 0 => g
  | n + 1 => (g.after schedule n).move (schedule n).1 (schedule n).2

/-! ### One move among many -/

theorem move_of_some (ht : g.tenants[i]? = some t) (m : Tenant.Move) :
    g.move i m = ⟨g.tenants.set i (t.move g.pool m).1, (t.move g.pool m).2⟩ := by
  simp only [move, ht]

theorem getElem?_move (g : Tenancy μ ε) (i : Nat) (m : Tenant.Move) (k : Nat) :
    (g.move i m).tenants[k]? =
      (g.tenants[k]?).map fun t => if i = k then (t.move g.pool m).1 else t := by
  cases hi : g.tenants[i]? with
  | none =>
    by_cases hne : i = k
    · subst hne
      simp only [move, hi, Option.map_none]
    · simp only [move, hi, if_neg hne, Option.map_id_fun', id]
  | some mover =>
    rw [move_of_some hi]
    by_cases hne : i = k
    · subst hne
      obtain ⟨hlt, -⟩ := List.getElem?_eq_some_iff.mp hi
      rw [hi, Option.map_some, if_pos rfl]
      exact List.getElem?_set_self hlt
    · simp only [if_neg hne, Option.map_id_fun', id]
      exact List.getElem?_set_ne hne

theorem getElem?_move_of_some (ht : g.tenants[k]? = some t) (i : Nat) (m : Tenant.Move) :
    (g.move i m).tenants[k]? = some (if i = k then (t.move g.pool m).1 else t) := by
  rw [getElem?_move, ht, Option.map_some]

/-- What every move of a session keeps holds of all sessions after it. -/
theorem forall_move {P : Tenant μ ε → Prop} (hkeep : ∀ t, P t → P (t.move g.pool m).1)
    (hg : ∀ t ∈ g.tenants, P t) (i : Nat) : ∀ t ∈ (g.move i m).tenants, P t := by
  cases hi : g.tenants[i]? with
  | none => simpa only [move, hi] using hg
  | some mover =>
    rw [move_of_some hi]
    intro t ht
    rcases List.mem_or_eq_of_mem_set ht with ht | rfl
    · exact hg t ht
    · exact hkeep mover (hg mover (List.mem_of_getElem? hi))

theorem stopped_move (hstopped : g.pool.stopped = true) (i : Nat) (m : Tenant.Move) :
    (g.move i m).pool.stopped = true := by
  cases hi : g.tenants[i]? with
  | none => simpa only [move, hi] using hstopped
  | some t =>
    rw [move_of_some hi]
    exact Tenant.stopped_move hstopped m

theorem stopped_after {n n' : Nat} (hstopped : (g.after schedule n).pool.stopped = true) (h : n ≤ n') :
    (g.after schedule n').pool.stopped = true := by
  induction h with
  | refl => exact hstopped
  | step _ ih => exact stopped_move ih _ _

/-! ### A pool that belongs to none of its sessions -/

theorem Shared.move (hg : g.Shared) (i : Nat) (m : Tenant.Move) : (g.move i m).Shared := by
  refine ⟨?_, forall_move (fun t ht => ?_) hg.guests i, forall_move (fun t ht => ht.move g.pool m) hg.sound i,
    forall_move (fun t ht => ?_) hg.settled i⟩
  · cases hi : g.tenants[i]? with
    | none => simpa only [Tenancy.move, hi] using hg.running
    | some t =>
      rw [move_of_some hi, Tenant.pool_move_of_guest (hg.guests t (List.mem_of_getElem? hi))]
      exact hg.running
  · rw [Tenant.ownsPool_move]
    exact ht
  · exact Tenant.over_of_finished_move hg.running ht m

theorem Shared.after (hg : g.Shared) (schedule : Schedule) (n : Nat) : (g.after schedule n).Shared := by
  induction n with
  | zero => exact hg
  | succ n ih => exact ih.move _ _

/-! ### Dispatchers that go on -/

section Served

variable {n : Nat} {A : List Event}

/-- What a session keeps up to a move that comes again and again holds when that move comes. -/
theorem Shared.exists_move (hg : g.Shared) {P : Tenant μ ε → Prop} {stop : Tenant.Move → Prop}
    (hkeep : ∀ t pool m, pool.stopped = false → ¬ stop m → P t → P (t.move pool m).1)
    (hstop : ∀ n, ∃ k ≥ n, ∃ m, schedule k = (i, m) ∧ stop m)
    (ht : (g.after schedule n).tenants[i]? = some t) (hP : P t) :
    ∃ k ≥ n, ∃ t' m, stop m ∧ P t' ∧ t.Later t' ∧
      (g.after schedule (k + 1)).tenants[i]? = some (t'.move (g.after schedule k).pool m).1 := by
  obtain ⟨k, hk, m, hm, hs⟩ := hstop n
  obtain ⟨d, rfl⟩ := Nat.exists_eq_add_of_le hk
  -- The induction is on how far away such a move is; another one may come sooner.
  induction d generalizing n t with
  | zero =>
    refine ⟨n, Nat.le_refl n, t, m, hs, hP, .refl _, ?_⟩
    rw [Nat.add_zero] at hm
    rw [Tenancy.after, getElem?_move_of_some ht, hm, if_pos rfl]
  | succ d ih =>
    have hm' : schedule (n + 1 + d) = (i, m) := by rwa [show n + 1 + d = n + (d + 1) by omega]
    have hnext : (g.after schedule (n + 1)).tenants[i]? = some _ :=
      getElem?_move_of_some ht _ _
    by_cases hmoves : (schedule n).1 = i
    · by_cases hfirst : stop (schedule n).2
      · refine ⟨n, Nat.le_refl n, t, (schedule n).2, hfirst, hP, .refl _, ?_⟩
        rw [hnext, if_pos hmoves]
      · rw [if_pos hmoves] at hnext
        have hrunning := (hg.after schedule n).running
        obtain ⟨k, hk, t', m', h, hP', hext, ht'⟩ :=
          ih hnext (hkeep t _ _ hrunning hfirst hP) (Nat.le_add_right _ _) hm'
        exact ⟨k, by omega, t', m', h, hP', (t.later_move _ _).trans hext, ht'⟩
    · rw [if_neg hmoves] at hnext
      obtain ⟨k, hk, rest⟩ := ih hnext hP (Nat.le_add_right _ _) hm'
      exact ⟨k, by omega, rest⟩

theorem Shared.exists_act (hg : g.Shared) (hserves : schedule.Serves i) {e : Event} {script : Script μ ε}
    (ht : (g.after schedule n).tenants[i]? = some t) (hcall : t.course.dispatcher = .calling e script) :
    ∃ k ≥ n, ∃ t' now s, (g.after schedule k).tenants[i]? = some t' ∧
      t'.course.dispatcher = script.following now e s ∧ t.Later t' := by
  have hkeep : ∀ (t : Tenant μ ε) (pool : Workers) m, pool.stopped = false → ¬ (∃ now, m = .act now) →
      t.course.dispatcher = .calling e script →
      (t.move pool m).1.course.dispatcher = .calling e script := by
    intro t pool m _ hother hcall
    cases m with
    | act now => exact absurd ⟨now, rfl⟩ hother
    | tell =>
      simp only [Tenant.move, Course.tell, hcall]
      split <;> exact hcall
    | begin | finish =>
      simp only [Tenant.move]
      split <;> exact hcall
    | deed | vacate | shutdown => exact hcall
  have hacts : ∀ n, ∃ k ≥ n, ∃ m, schedule k = (i, m) ∧ ∃ now, m = .act now := by
    intro n
    obtain ⟨k, hk, now, h⟩ := (hserves n).2
    exact ⟨k, hk, .act now, h, now, rfl⟩
  obtain ⟨k, hk, t', _, ⟨now, rfl⟩, hcall', hext, ht'⟩ := hg.exists_move hkeep hacts ht hcall
  refine ⟨k + 1, by omega, _, now, t'.course.session, ht', ?_, hext.trans (t'.later_move _ _)⟩
  simp only [Tenant.move, Course.act, hcall']

/-- A callback that is at work comes to its end. -/
theorem Shared.exists_after (hg : g.Shared) (hserves : schedule.Serves i) {e : Event} (script : Script μ ε)
    (ht : (g.after schedule n).tenants[i]? = some t) (hcall : t.course.dispatcher = .calling e script) :
    ∃ k ≥ n, ∃ t' memory, (g.after schedule k).tenants[i]? = some t' ∧
      t'.course.dispatcher = .after e memory ∧ t.Later t' := by
  -- The rest of a callback is one of the branches of its script.
  induction script generalizing n t with
  | done memory _ | panic memory =>
    obtain ⟨k, hk, t', now, s, ht', hnext, hext⟩ := hg.exists_act hserves ht hcall
    exact ⟨k, hk, t', memory, ht', hnext, hext⟩
  | send data next ih | close next ih | attach ping pong next ih | beat slot next ih | inspect next ih =>
    obtain ⟨k, hk, t1, now, s, ht1, hnext, hext⟩ := hg.exists_act hserves ht hcall
    obtain ⟨k', hk', t2, memory, ht2, hafter, hext'⟩ := ih _ ht1 hnext
    exact ⟨k', by omega, t2, memory, ht2, hafter, hext.trans hext'⟩

/-- A dispatcher that goes on waits at some time, or is over. -/
theorem Shared.exists_rest (hg : g.Shared) (hserves : schedule.Serves i)
    (ht : (g.after schedule n).tenants[i]? = some t) :
    ∃ k ≥ n, ∃ t', (g.after schedule k).tenants[i]? = some t' ∧ t.Later t' ∧
      (t'.course.dispatcher.isOver = true ∨ ∃ memory, t'.course.dispatcher = .waiting memory) := by
  match hdispatcher : t.course.dispatcher with
  | .waiting memory => exact ⟨n, Nat.le_refl n, t, ht, .refl t, .inr ⟨memory, hdispatcher⟩⟩
  | .over memory =>
    exact ⟨n, Nat.le_refl n, t, ht, .refl t, .inl (Dispatcher.isOver_iff.mpr ⟨memory, hdispatcher⟩)⟩
  | .calling e script =>
    obtain ⟨k, hk, t', memory, ht', hafter, hlater⟩ := hg.exists_after hserves script ht hdispatcher
    refine ⟨k, hk, t', ht', hlater, ?_⟩
    rw [hafter]
    unfold Dispatcher.after
    split
    · exact .inl rfl
    · exact .inr ⟨memory, rfl⟩

theorem Shared.exists_tell (hg : g.Shared) (hserves : schedule.Serves i) {told : List Event}
    (ht : (g.after schedule n).tenants[i]? = some t) (hdue : t.Due told) :
    ∃ k ≥ n, ∃ t', (g.after schedule k).tenants[i]? = some t' ∧ t.Later t' ∧
      told.length < t'.course.told.length := by
  have htells : ∀ n, ∃ k ≥ n, ∃ m, schedule k = (i, m) ∧ m = .tell := by
    intro n
    obtain ⟨k, hk, h⟩ := (hserves n).1
    exact ⟨k, hk, .tell, h, rfl⟩
  obtain ⟨k, hk, t', _, rfl, hdue', hlater, ht'⟩ :=
    hg.exists_move (P := (·.Due told)) (fun _ pool m _ hm hdue => hdue.move pool hm) htells ht hdue
  exact ⟨k + 1, by omega, _, ht', hlater.trans (t'.later_move _ _), hdue'.tell (hg.after schedule k).running⟩

/-- Every event that is accepted is told of, as long as the dispatcher goes on. -/
theorem Shared.told_of_served (hg : g.Shared) (hserves : schedule.Serves i) {A : List Event} {d : Nat}
    (ht : (g.after schedule n).tenants[i]? = some t) (hbegun : t.phase ≠ .idle)
    (haccepted : A <+: EventQueue.accepted t.course.fired) (hd : A.length ≤ t.course.told.length + d) :
    ∃ k ≥ n, ∃ t', (g.after schedule k).tenants[i]? = some t' ∧ A <+: t'.course.told := by
  -- The induction is on how many of the events the handler has not been told of.
  induction d generalizing n t with
  | zero =>
    have hsound := (hg.after schedule n).sound t (List.mem_of_getElem? ht)
    have htold : t.course.told <+: EventQueue.accepted t.course.fired := ⟨_, hsound.accepted⟩
    exact ⟨n, Nat.le_refl n, t, ht, List.prefix_of_prefix_length_le haccepted htold hd⟩
  | succ d ih =>
    obtain ⟨k, hk, t1, ht1, hlater, hrest⟩ := hg.exists_rest hserves ht
    have hmem := List.mem_of_getElem? ht1
    have hsound := (hg.after schedule k).sound t1 hmem
    have haccepted1 := haccepted.trans (EventQueue.accepted_prefix hlater.course.fired)
    have hd1 : A.length ≤ t1.course.told.length + (d + 1) := by
      have hle := hlater.course.told.length_le
      omega
    by_cases hover : t1.course.dispatcher.isOver = true
    · exact ⟨k, hk, t1, ht1, (hsound.told_of_over hover).1 ▸ haccepted1⟩
    · have hrunning : t1.phase = .running := by
        cases hphase : t1.phase with
        | idle => exact absurd hphase (hlater.begun hbegun)
        | running => rfl
        | finished => exact absurd ((hg.after schedule k).settled t1 hmem hphase) hover
      by_cases hmore : t1.course.told.length < (EventQueue.accepted t1.course.fired).length
      · have hdue : t1.Due t1.course.told :=
          ⟨hsound, hrunning, hrest.resolve_left hover, rfl, hmore⟩
        obtain ⟨k2, hk2, t2, ht2, hlater2, hlt⟩ := hg.exists_tell hserves ht1 hdue
        obtain ⟨k3, hk3, t3, ht3, htold⟩ := ih ht2 (hlater2.begun (hlater.begun hbegun))
          (haccepted1.trans (EventQueue.accepted_prefix hlater2.course.fired)) (by omega)
        exact ⟨k3, by omega, t3, ht3, htold⟩
      · have htold : t1.course.told <+: EventQueue.accepted t1.course.fired := ⟨_, hsound.accepted⟩
        have hle := haccepted1.length_le
        exact ⟨k, hk, t1, ht1, List.prefix_of_prefix_length_le haccepted1 htold (by omega)⟩

end Served

/-! ### A pool that belongs to one of its sessions -/

/-- The pool is not stopped before the delivery of its owner is over, unless that is done by hand. -/
theorem Owned.move (hg : g.Owned i) (hm : (k, m) ≠ (i, .shutdown)) : (g.move k m).Owned i := by
  refine ⟨forall_move (fun t ht => ht.move g.pool m) hg.sound k, fun l t hl ht => ?_, fun hstopped => ?_⟩
  · rw [getElem?_move] at ht
    obtain ⟨before, hbefore, rfl⟩ := Option.map_eq_some_iff.mp ht
    have howns := hg.guests l before hl hbefore
    split
    · rwa [Tenant.ownsPool_move]
    · exact howns
  · have hended : ∃ t, g.tenants[i]? = some t ∧ t.phase = .finished ∧
        t.course.dispatcher.isOver = true := by
      by_cases hbefore : g.pool.stopped = true
      · exact hg.ends hbefore
      · cases hk : g.tenants[k]? with
        | none =>
          simp only [Tenancy.move, hk] at hstopped
          exact absurd hstopped hbefore
        | some t =>
          rw [move_of_some hk] at hstopped
          obtain ⟨howns, hby⟩ := Tenant.stops_cases (Bool.eq_false_iff.mpr hbefore) hstopped
          obtain rfl : k = i := by
            by_contra hne
            rw [hg.guests k t hne hk] at howns
            cases howns
          exact ⟨t, hk, hby.resolve_left fun h => hm (by rw [h])⟩
    obtain ⟨t, ht, hfinished, hover⟩ := hended
    refine ⟨_, getElem?_move_of_some ht k m, ?_⟩
    split
    · obtain ⟨hstill, hstays⟩ := Tenant.over_move hover m
      exact ⟨hstays hfinished, hstill⟩
    · exact ⟨hfinished, hover⟩

theorem Owned.after (hg : g.Owned i) (hhand : ∀ n, schedule n ≠ (i, .shutdown)) (n : Nat) :
    (g.after schedule n).Owned i := by
  induction n with
  | zero => exact hg
  | succ n ih => exact ih.move (hhand n)

end Tenancy

variable [Tls.RecordEngine ε]

/-- Who stops a pool, in whatever order its sessions move. A pool that belongs to none of its sessions
takes tasks for ever, and what a session has accepted is delivered as long as its dispatcher goes on. A
pool that belongs to one session, and is not stopped by hand, is not stopped before the handler of that
session was told of all that is accepted, the disconnect last, and that callback has ended. A pool that is
stopped takes no task ever after. -/
theorem pool_ownership {g : Tenancy μ ε} (hg : g.Fresh) (schedule : Schedule) {α : Type}
    (task : Unit → α) :
    ((∀ t ∈ g.tenants, t.ownsPool = false) → ∀ n,
      (g.after schedule n).pool.spawn? task = some (task ()) ∧
      ∀ i t, (g.after schedule n).tenants[i]? = some t → t.phase ≠ .idle → schedule.Serves i →
        ∃ k ≥ n, ∃ t', (g.after schedule k).tenants[i]? = some t' ∧
          EventQueue.accepted t.course.fired <+: t'.course.told) ∧
    (∀ i, (∀ k t, k ≠ i → g.tenants[k]? = some t → t.ownsPool = false) →
      (∀ n, schedule n ≠ (i, .shutdown)) → ∀ n, (g.after schedule n).pool.stopped = true →
        ∃ t, (g.after schedule n).tenants[i]? = some t ∧ t.course.dispatcher.isOver = true ∧
          t.course.told = EventQueue.accepted t.course.fired ∧
          ∃ before, t.course.told = before ++ [.disconnect]) ∧
    ∀ n n', n ≤ n' → (g.after schedule n).pool.stopped = true →
      (g.after schedule n').pool.spawn? task = none := by
  refine ⟨fun hguests n => ?_, fun i hguests hhand n hstopped => ?_, fun n n' hle hstopped => ?_⟩
  · have hshared := (hg.shared hguests).after schedule n
    refine ⟨by rw [Workers.spawn?, hshared.running]; rfl, fun i t ht hbegun hserves => ?_⟩
    exact (hg.shared hguests).told_of_served hserves ht hbegun List.prefix_rfl (Nat.le_add_left _ _)
  · have howned := (hg.owned hguests).after hhand n
    obtain ⟨t, ht, -, hover⟩ := howned.ends hstopped
    exact ⟨t, ht, hover, (howned.sound t (List.mem_of_getElem? ht)).told_of_over hover⟩
  · rw [Workers.spawn?, if_pos (Tenancy.stopped_after hstopped hle)]

/-- One of two sessions closes, and somebody asks the other one to shut the pool down. If the pool belongs to
the first it stops behind its disconnect; if it belongs to nobody it goes on, and the second session hears
of what it has accepted. -/
theorem pool_ownership_two :
    let s : Session Empty := .new 0 { Settings.server "localhost" 6380 with handled := true } .line
    let g (owner : Bool) : Tenancy Unit Empty :=
      ⟨[.enter s (some Demo.echo) () owner, .enter s (some Demo.echo) () false], .start 2⟩
    let moves : List (Nat × Tenant.Move) := [(0, .begin), (1, .begin), (0, .deed 0 .installWriter),
      (0, .deed 0 .establish), (0, .deed 0 (.fire .connect)), (1, .deed 0 (.fire .connect)),
      (0, .deed 0 .close), (1, .shutdown), (0, .tell), (0, .act 0), (0, .act 0), (0, .tell), (0, .act 0),
      (0, .finish), (0, .vacate)]
    let schedule : Schedule := fun n => (moves[n]?).getD (1, if n % 2 = 0 then .tell else .act 0)
    (g true).Fresh ∧ (g false).Fresh ∧ ((g true).after schedule 15).pool.stopped = true ∧
      (∃ t, ((g true).after schedule 15).tenants[0]? = some t ∧ t.course.told = [.connect, .disconnect]) ∧
      ((g true).after schedule 20).pool.spawn? (fun _ => 7) = none ∧
      ((g false).after schedule 15).pool.spawn? (fun _ => 7) = some 7 ∧
      ∃ k ≥ 15, ∃ t, ((g false).after schedule k).tenants[1]? = some t ∧ [.connect] <+: t.course.told := by
  intro s g moves schedule
  have hfresh : ∀ owner, (g owner).Fresh := by
    refine fun owner => ⟨rfl, fun t ht => ?_⟩
    rcases List.mem_cons.mp ht with rfl | ht
    · exact ⟨s, some Demo.echo, (), owner, rfl, rfl, rfl⟩
    · obtain rfl := List.mem_singleton.mp ht
      exact ⟨s, some Demo.echo, (), false, rfl, rfl, rfl⟩
  have hserves : schedule.Serves 1 := by
    have htail : ∀ n ≥ 15, schedule n = (1, if n % 2 = 0 then .tell else .act 0) := by
      intro n hn
      have hnone : moves[n]? = none := List.getElem?_eq_none hn
      simp only [schedule, hnone, Option.getD_none]
    refine fun n => ⟨⟨2 * (n + 8), by omega, ?_⟩, 2 * (n + 8) + 1, by omega, 0, ?_⟩
    · rw [htail _ (by omega), if_pos (by omega)]
    · rw [htail _ (by omega), if_neg (by omega)]
  have hhand : ∀ n, schedule n ≠ (0, .shutdown) := by
    intro n
    cases hm : moves[n]? with
    | none => simp [schedule, hm]
    | some m =>
      have hmem := List.mem_of_getElem? hm
      simp only [schedule, hm, Option.getD_some]
      rintro rfl
      simp [moves] at hmem
  have hguests : ∀ k t, k ≠ 0 → (g true).tenants[k]? = some t → t.ownsPool = false := by
    rintro (_ | _ | k) t hk ht
    · exact absurd rfl hk
    · obtain rfl := Option.some.inj ht
      rfl
    · cases ht
  have hnobody : ∀ t ∈ (g false).tenants, t.ownsPool = false := by
    intro t ht
    simp only [g, List.mem_cons, List.not_mem_nil, or_false] at ht
    rcases ht with rfl | rfl <;> rfl
  have hstops : ((g true).after schedule 15).pool.stopped = true := by decide +kernel
  have hfirst : (((g true).after schedule 15).tenants[0]?).map (EventQueue.accepted ·.course.fired) =
      some [.connect, .disconnect] := by decide +kernel
  have hsecond : (((g false).after schedule 15).tenants[1]?).map
      (fun t => (EventQueue.accepted t.course.fired, t.phase)) = some ([.connect], .running) := by
    decide +kernel
  obtain ⟨-, howned, hstopped⟩ := pool_ownership (hfresh true) schedule fun _ => 7
  obtain ⟨hshared, -, -⟩ := pool_ownership (hfresh false) schedule fun _ => 7
  obtain ⟨t, ht, -, htold, -⟩ := howned 0 hguests hhand 15 hstops
  obtain ⟨t', ht', hpair⟩ := Option.map_eq_some_iff.mp hsecond
  obtain ⟨haccepted, hphase⟩ := Prod.mk.inj hpair
  obtain ⟨hspawn, hdelivered⟩ := hshared hnobody 15
  rw [ht, Option.map_some, Option.some.injEq] at hfirst
  have hheard := hdelivered 1 t' ht' (by rw [hphase]; exact nofun) hserves
  rw [haccepted] at hheard
  exact ⟨hfresh true, hfresh false, hstops, ⟨t, ht, htold.trans hfirst⟩, hstopped 15 20 (by decide) hstops,
    hspawn, hheard⟩

end SessionEngine
