import IxWebsocket.Lib.Runs

/-!
# Threads that block on mutexes and on each other's callbacks

A thread is the list of its blocking operations, with two ways to go on after a `try_lock`. It waits
in `lock` for the holder of the mutex, and in `join` for every thread that is inside the callback.

When the resources have ranks and each thread only ever waits for what ranks above all it holds
(`Prog.Ordered`), a thread waits for one that holds something higher than it, so no chain of waiting
threads is closed (`waitsFor_acyclic`). What `Ordered` asks is local to the code of one thread, and
every step keeps it (`ordered_step`). As the ranks end somewhere, so does every such chain, at a
thread that can go on (`exists_goesOn`); and the threads are through after as many operations as
they have ahead (`run_length_le`).

When a thread takes no step any more, neither do those that wait for it, through others maybe
(`waits_run`), and what they hold is lost to all others (`ne_done_of_passes`).
-/

namespace Locks

/-- What a thread may hold and wait for. -/
inductive Resource (M R : Type*)
  | mutex (m : M)
  | callback (r : R)

/-- The blocking operations ahead of a thread. -/
inductive Prog (M R : Type*)
  | done
  | lock (m : M) (next : Prog M R)
  | unlock (m : M) (next : Prog M R)
  | tryLock (m : M) (locked busy : Prog M R)
  | enter (r : R) (next : Prog M R)
  | leave (r : R) (next : Prog M R)
  /-- Wait until no thread is inside `r`. -/
  | join (r : R) (next : Prog M R)

structure State (T M R : Type*) where
  prog : T → Prog M R := fun _ => .done
  holder : M → Option T := fun _ => none
  /-- The threads inside each callback. -/
  running : R → Finset T := fun _ => ∅

variable {T M R E : Type*}

/-! ## Who waits for whom -/

def State.Held (s : State T M R) (t : T) : Resource M R → Prop
  | .mutex m => s.holder m = some t
  | .callback r => t ∈ s.running r

def State.held (s : State T M R) (t : T) : Set (Resource M R) := {x | s.Held t x}

/-- What an operation waits for while it cannot be taken. -/
def Prog.awaits : Prog M R → Option (Resource M R)
  | .lock m _ => some (.mutex m)
  | .join r _ => some (.callback r)
  | _ => none

/-- `t` waits for something that `u` holds. -/
def WaitsFor (s : State T M R) (t u : T) : Prop :=
  ∃ x, (s.prog t).awaits = some x ∧ s.Held u x

section Order

variable {O : Type*} [Preorder O] (rank : Resource M R → O)

/-- A thread that holds `held` and has these operations ahead waits only for what ranks above all
it holds then, gives back only what it holds, and ends with nothing. -/
def Prog.Ordered : Set (Resource M R) → Prog M R → Prop
  | held, .done => held = ∅
  | held, .lock m next =>
    (∀ x ∈ held, rank x < rank (.mutex m)) ∧ Ordered (insert (.mutex m) held) next
  | held, .unlock m next => .mutex m ∈ held ∧ Ordered (held \ {.mutex m}) next
  | held, .tryLock m locked busy =>
    .mutex m ∉ held ∧ Ordered (insert (.mutex m) held) locked ∧ Ordered held busy
  | held, .enter r next => .callback r ∉ held ∧ Ordered (insert (.callback r) held) next
  | held, .leave r next => .callback r ∈ held ∧ Ordered (held \ {.callback r}) next
  | held, .join r next => (∀ x ∈ held, rank x < rank (.callback r)) ∧ Ordered held next

/-- Every thread is ordered from where it is. -/
def State.Ordered (s : State T M R) : Prop := ∀ t, (s.prog t).Ordered rank (s.held t)

variable {rank} {s : State T M R} {t u : T}

theorem Prog.Ordered.lt_awaits {held : Set (Resource M R)} {x y : Resource M R} :
    ∀ {p : Prog M R}, p.Ordered rank held → p.awaits = some x → y ∈ held → rank y < rank x
  | .lock m _, hp, hx, hy => by
    obtain rfl : Resource.mutex m = x := Option.some.inj hx
    exact hp.1 y hy
  | .join r _, hp, hx, hy => by
    obtain rfl : Resource.callback r = x := Option.some.inj hx
    exact hp.1 y hy
  | .done, _, hx, _ | .unlock _ _, _, hx, _ | .tryLock _ _ _, _, hx, _ | .enter _ _, _, hx, _
  | .leave _ _, _, hx, _ => by simp [Prog.awaits] at hx

theorem Prog.ordered_unlock {held : Set (Resource M R)} {m : M} {next : Prog M R}
    (hm : .mutex m ∉ held) :
    (Prog.unlock m next).Ordered rank (insert (.mutex m) held) ↔ next.Ordered rank held := by
  simp [Prog.Ordered, hm]

theorem Prog.ordered_leave {held : Set (Resource M R)} {r : R} {next : Prog M R}
    (hr : .callback r ∉ held) :
    (Prog.leave r next).Ordered rank (insert (.callback r) held) ↔ next.Ordered rank held := by
  simp [Prog.Ordered, hr]

/-- A resource above all that is held is not held. -/
theorem notMem_of_lt {held : Set (Resource M R)} {x : Resource M R}
    (h : ∀ y ∈ held, rank y < rank x) : x ∉ held := fun hx => (h x hx).false

/-- A mutex locked for a moment. -/
theorem Prog.Ordered.guard {held : Set (Resource M R)} {m : M} {next : Prog M R}
    (hm : ∀ x ∈ held, rank x < rank (.mutex m)) (hnext : next.Ordered rank held) :
    (Prog.lock m (.unlock m next)).Ordered rank held :=
  ⟨hm, (Prog.ordered_unlock (notMem_of_lt hm)).2 hnext⟩

/-- Along a chain of waiting threads the ranks of what they wait for go up. -/
theorem rank_le_of_waitsFor (hs : s.Ordered rank) (h : Relation.TransGen (WaitsFor s) t u) :
    ∃ x y, (s.prog t).awaits = some x ∧ s.Held u y ∧ rank x ≤ rank y := by
  induction h with
  | single h =>
    obtain ⟨x, hx, hu⟩ := h
    exact ⟨x, x, hx, hu, le_rfl⟩
  | tail _ h ih =>
    obtain ⟨x, y, hx, hy, hxy⟩ := ih
    obtain ⟨z, hz, hu⟩ := h
    exact ⟨x, z, hx, hu, hxy.trans ((hs _).lt_awaits hz hy).le⟩

theorem ordered_init : ({} : State T M R).Ordered rank := by
  intro t
  refine Set.eq_empty_iff_forall_notMem.2 fun x hx => ?_
  rcases x with m | r
  · cases hx
  · exact Finset.notMem_empty t hx

theorem waitsFor_acyclic (hs : s.Ordered rank) (t : T) :
    ¬ Relation.TransGen (WaitsFor s) t t := by
  intro h
  obtain ⟨x, y, hx, hy, hxy⟩ := rank_le_of_waitsFor hs h
  exact hxy.not_gt ((hs t).lt_awaits hx hy)

/-- A thread that holds something is not through. -/
theorem State.Ordered.ne_done (hs : s.Ordered rank) {x : Resource M R} (hx : s.Held t x) :
    s.prog t ≠ .done := by
  intro hdone
  have ht := hs t
  rw [hdone] at ht
  exact (Set.eq_empty_iff_forall_notMem.1 ht x) hx

/-- When all threads are through, nothing is held. -/
theorem State.Ordered.free (hs : s.Ordered rank) (hdone : ∀ t, s.prog t = .done) :
    (∀ m, s.holder m = none) ∧ ∀ r, s.running r = ∅ := by
  refine ⟨fun m => ?_, fun r => ?_⟩
  · by_contra hm
    obtain ⟨t, ht⟩ := Option.ne_none_iff_exists'.1 hm
    exact hs.ne_done (x := .mutex m) ht (hdone t)
  · by_contra hr
    obtain ⟨t, ht⟩ := Finset.nonempty_iff_ne_empty.2 hr
    exact hs.ne_done (x := .callback r) ht (hdone t)

end Order

/-! ## The operations -/

namespace State

section Mutex

variable [DecidableEq M]

def acquire (s : State T M R) (t : T) (m : M) : State T M R :=
  { s with holder := Function.update s.holder m (some t) }

def release (s : State T M R) (m : M) : State T M R :=
  { s with holder := Function.update s.holder m none }

variable {s : State T M R} {t u : T} {m : M}

theorem acquire_held : (s.acquire t m).held t = insert (.mutex m) (s.held t) := by
  ext x
  rcases x with n | n
  · by_cases h : n = m <;> simp [held, Held, acquire, h]
  · simp [held, Held, acquire]

theorem acquire_held_of_ne (hm : s.holder m = none) (hu : u ≠ t) :
    (s.acquire t m).held u = s.held u := by
  ext x
  rcases x with n | n
  · by_cases h : n = m <;> simp [held, Held, acquire, h, hm, hu.symm]
  · simp [held, Held, acquire]

theorem release_held : (s.release m).held t = s.held t \ {.mutex m} := by
  ext x
  rcases x with n | n
  · by_cases h : n = m <;> simp [held, Held, release, h]
  · simp [held, Held, release]

theorem release_held_of_ne (hm : s.holder m = some t) (hu : u ≠ t) :
    (s.release m).held u = s.held u := by
  rw [release_held, Set.sdiff_singleton_eq_self]
  exact fun h => hu (Option.some.inj (h.symm.trans hm))

end Mutex

section Callback

variable [DecidableEq T] [DecidableEq R]

def enter (s : State T M R) (t : T) (r : R) : State T M R :=
  { s with running := Function.update s.running r (insert t (s.running r)) }

def leave (s : State T M R) (t : T) (r : R) : State T M R :=
  { s with running := Function.update s.running r ((s.running r).erase t) }

variable {s : State T M R} {t u : T} {r : R}

theorem enter_held : (s.enter t r).held t = insert (.callback r) (s.held t) := by
  ext x
  rcases x with n | n
  · simp [held, Held, enter]
  · by_cases h : n = r <;> simp [held, Held, enter, h]

theorem enter_held_of_ne (hu : u ≠ t) : (s.enter t r).held u = s.held u := by
  ext x
  rcases x with n | n
  · simp [held, Held, enter]
  · by_cases h : n = r <;> simp [held, Held, enter, h, hu]

theorem leave_held : (s.leave t r).held t = s.held t \ {.callback r} := by
  ext x
  rcases x with n | n
  · simp [held, Held, leave]
  · by_cases h : n = r <;> simp [held, Held, leave, h]

theorem leave_held_of_ne (hu : u ≠ t) : (s.leave t r).held u = s.held u := by
  ext x
  rcases x with n | n
  · simp [held, Held, leave]
  · by_cases h : n = r <;> simp [held, Held, leave, h, hu]

end Callback

end State

/-! ## The steps -/

variable [DecidableEq T]

/-- `t` has `next` ahead from here. -/
def State.goOn (s : State T M R) (t : T) (next : Prog M R) : State T M R :=
  { s with prog := Function.update s.prog t next }

@[simp] theorem State.goOn_held (s : State T M R) (t u : T) (next : Prog M R) :
    (s.goOn t next).held u = s.held u := rfl

@[simp] theorem State.goOn_prog (s : State T M R) (t : T) (next : Prog M R) :
    (s.goOn t next).prog t = next := Function.update_self ..

theorem State.goOn_prog_of_ne {s : State T M R} {t u : T} (hu : u ≠ t) {next : Prog M R} :
    (s.goOn t next).prog u = s.prog u := Function.update_of_ne hu ..

variable {O : Type*} [Preorder O] {rank : Resource M R → O} {s s' : State T M R} {t : T}

/-- The state after an operation of `t` that left what the others hold. -/
theorem State.Ordered.goOn (hs : s.Ordered rank) (s' : State T M R) {next : Prog M R}
    (hprog : s'.prog = s.prog) (hheld : ∀ u ≠ t, s'.held u = s.held u)
    (hnext : next.Ordered rank (s'.held t)) : (s'.goOn t next).Ordered rank := by
  intro u
  rcases eq_or_ne u t with rfl | hu
  · rw [State.goOn_prog, State.goOn_held]
    exact hnext
  · rw [State.goOn_prog_of_ne hu, State.goOn_held, hprog, hheld u hu]
    exact hs u

variable [DecidableEq M] [DecidableEq R]

/-- The next operation of `t`, unless it has none or must wait. -/
def runThread (s : State T M R) (t : T) : Option (State T M R) :=
  match s.prog t with
  | .done => none
  | .lock m next => if s.holder m = none then some ((s.acquire t m).goOn t next) else none
  | .unlock m next => if s.holder m = some t then some ((s.release m).goOn t next) else none
  | .tryLock m locked busy =>
    if s.holder m = none then some ((s.acquire t m).goOn t locked) else some (s.goOn t busy)
  | .enter r next => some ((s.enter t r).goOn t next)
  | .leave r next => some ((s.leave t r).goOn t next)
  | .join r next => if s.running r = ∅ then some (s.goOn t next) else none

/-- A thread with nothing ahead begins `e`, or a thread takes its next operation. -/
inductive Act (T E : Type*)
  | begin (t : T) (e : E)
  | run (t : T)

def step (program : E → Prog M R) (s : State T M R) : Act T E → Option (State T M R)
  | .begin t e => match s.prog t with
    | .done => some (s.goOn t (program e))
    | _ => none
  | .run t => runThread s t

/-! ## The steps keep the order -/

theorem ordered_runThread (h : runThread s t = some s') (hs : s.Ordered rank) :
    s'.Ordered rank := by
  have ht := hs t
  unfold runThread at h
  split at h <;> rename_i hp <;> rw [hp] at ht
  · cases h
  · rename_i m next
    split_ifs at h with hm
    cases h
    refine hs.goOn (s.acquire t m) rfl (fun u => State.acquire_held_of_ne hm) ?_
    rw [State.acquire_held]
    exact ht.2
  · rename_i m next
    split_ifs at h with hm
    cases h
    refine hs.goOn (s.release m) rfl (fun u => State.release_held_of_ne hm) ?_
    rw [State.release_held]
    exact ht.2
  · rename_i m locked busy
    split_ifs at h with hm <;> cases h
    · refine hs.goOn (s.acquire t m) rfl (fun u => State.acquire_held_of_ne hm) ?_
      rw [State.acquire_held]
      exact ht.2.1
    · exact hs.goOn s rfl (fun _ _ => rfl) ht.2.2
  · rename_i r next
    cases h
    refine hs.goOn (s.enter t r) rfl (fun u => State.enter_held_of_ne) ?_
    rw [State.enter_held]
    exact ht.2
  · rename_i r next
    cases h
    refine hs.goOn (s.leave t r) rfl (fun u => State.leave_held_of_ne) ?_
    rw [State.leave_held]
    exact ht.2
  · split_ifs at h
    cases h
    exact hs.goOn s rfl (fun _ _ => rfl) ht.2

theorem ordered_step {program : E → Prog M R} (hprogram : ∀ e, (program e).Ordered rank ∅)
    {a : Act T E} (h : step program s a = some s') (hs : s.Ordered rank) : s'.Ordered rank := by
  cases a with
  | begin t e =>
    have ht := hs t
    simp only [step] at h
    split at h
    · rename_i hp
      cases h
      rw [hp] at ht
      refine hs.goOn s rfl (fun _ _ => rfl) ?_
      rw [show s.held t = ∅ from ht]
      exact hprogram e
    · cases h
  | run t => exact ordered_runThread h hs

/-- Threads whose programs are ordered never wait for each other in a circle. -/
theorem no_circle {program : E → Prog M R} (hprogram : ∀ e, (program e).Ordered rank ∅)
    (hs : Runs.Reachable (step program) {} s) (t : T) : ¬ Relation.TransGen (WaitsFor s) t t :=
  waitsFor_acyclic (hs.invariant (fun _ _ _ => ordered_step hprogram) ordered_init) t

/-! ## Progress -/

/-- The number of operations ahead of a thread, after a `try_lock` on the longer way. -/
def Prog.size : Prog M R → ℕ
  | .done => 0
  | .lock _ next | .unlock _ next | .enter _ next | .leave _ next | .join _ next => next.size + 1
  | .tryLock _ locked busy => max locked.size busy.size + 1

/-- A thread that cannot take its next operation waits for another one. -/
theorem State.Ordered.waits (hs : s.Ordered rank) (ht : runThread s t = none)
    (hdone : s.prog t ≠ .done) : ∃ u, WaitsFor s t u := by
  have hordered := hs t
  unfold runThread at ht
  split at ht <;> rename_i hp
  · exact absurd hp hdone
  · rename_i m next
    rw [ite_eq_right_iff] at ht
    obtain ⟨u, hu⟩ := Option.ne_none_iff_exists'.1 fun hm => Option.some_ne_none _ (ht hm)
    exact ⟨u, .mutex m, by rw [hp]; rfl, hu⟩
  · rw [hp] at hordered
    have hm : s.holder _ = some t := hordered.1
    rw [if_pos hm] at ht
    cases ht
  · split_ifs at ht
  · cases ht
  · cases ht
  · rename_i r next
    rw [ite_eq_right_iff] at ht
    obtain ⟨u, hu⟩ := Finset.nonempty_iff_ne_empty.2 fun hr => Option.some_ne_none _ (ht hr)
    exact ⟨u, .callback r, by rw [hp]; rfl, hu⟩

/-- Where the ranks end, each thread that is not through can go on, or waits, through others maybe,
for one that can. -/
theorem exists_goesOn (hwf : WellFounded fun y x : Resource M R => rank x < rank y)
    (hs : s.Ordered rank) (hdone : s.prog t ≠ .done) :
    ∃ u, Relation.ReflTransGen (WaitsFor s) t u ∧ (runThread s u).isSome = true := by
  have hwaiting : ∀ x t, (s.prog t).awaits = some x →
      ∃ u, Relation.ReflTransGen (WaitsFor s) t u ∧ (runThread s u).isSome = true := by
    intro x
    induction x using hwf.induction with
    | _ x ih =>
    intro t hx
    rcases hrun : runThread s t with _ | s'
    · have ht : s.prog t ≠ .done := fun h => by simp [h, Prog.awaits] at hx
      obtain ⟨u, x', hx', hheld⟩ := hs.waits hrun ht
      have hu : WaitsFor s t u := ⟨x', hx', hheld⟩
      obtain rfl := Option.some.inj (hx.symm.trans hx')
      -- the one waited for can go on, or waits for something higher
      rcases hrun' : runThread s u with _ | s''
      · obtain ⟨v, y, hy, -⟩ := hs.waits hrun' (hs.ne_done hheld)
        obtain ⟨w, hw, hgoes⟩ := ih y ((hs u).lt_awaits hy hheld) u hy
        exact ⟨w, .head hu hw, hgoes⟩
      · exact ⟨u, .single hu, by rw [hrun']; rfl⟩
    · exact ⟨t, .refl, by rw [hrun]; rfl⟩
  rcases hrun : runThread s t with _ | s'
  · obtain ⟨u, x, hx, -⟩ := hs.waits hrun hdone
    exact hwaiting x t hx
  · exact ⟨t, .refl, by rw [hrun]; rfl⟩

/-- A step of a thread takes an operation from it, and none from the others. -/
theorem runThread_prog (h : runThread s t = some s') :
    ∃ next, s'.prog = Function.update s.prog t next ∧ next.size < (s.prog t).size := by
  unfold runThread at h
  split at h <;> rename_i hp
  · cases h
  · split_ifs at h
    cases h
    exact ⟨_, rfl, by rw [hp]; exact Nat.lt_succ_self _⟩
  · split_ifs at h
    cases h
    exact ⟨_, rfl, by rw [hp]; exact Nat.lt_succ_self _⟩
  · split_ifs at h <;> cases h
    · exact ⟨_, rfl, by rw [hp]; exact Nat.lt_succ_of_le (le_max_left _ _)⟩
    · exact ⟨_, rfl, by rw [hp]; exact Nat.lt_succ_of_le (le_max_right _ _)⟩
  · cases h
    exact ⟨_, rfl, by rw [hp]; exact Nat.lt_succ_self _⟩
  · cases h
    exact ⟨_, rfl, by rw [hp]; exact Nat.lt_succ_self _⟩
  · split_ifs at h
    cases h
    exact ⟨_, rfl, by rw [hp]; exact Nat.lt_succ_self _⟩

/-- While no thread begins anew, the threads take no more operations than they have ahead. -/
theorem run_length_le {active : Finset T} (hactive : ∀ t ∉ active, s.prog t = .done) {ts : List T}
    (h : Runs.Run runThread s ts s') : ts.length ≤ ∑ t ∈ active, (s.prog t).size := by
  induction h with
  | nil => exact Nat.zero_le _
  | @cons s u s' t ts _ hstep _ ih =>
    obtain ⟨next, hprog, hlt⟩ := runThread_prog hstep
    have ht : t ∈ active := by
      by_contra ht
      rw [hactive t ht] at hlt
      exact Nat.not_lt_zero _ hlt
    have hu : ∀ v ∉ active, u.prog v = .done := by
      intro v hv
      rw [hprog, Function.update_of_ne fun hvt => hv (by rwa [hvt])]
      exact hactive v hv
    have hsum : ∑ v ∈ active, (u.prog v).size < ∑ v ∈ active, (s.prog v).size := by
      refine Finset.sum_lt_sum (fun v _ => ?_) ⟨t, ht, ?_⟩
      · rw [hprog]
        by_cases hvt : v = t
        · rw [hvt, Function.update_self]
          exact hlt.le
        · rw [Function.update_of_ne hvt]
      · rw [hprog, Function.update_self]
        exact hlt
    exact Nat.succ_le_of_lt ((ih hu).trans_lt hsum)

theorem State.Ordered.run (hs : s.Ordered rank) {ts : List T} (h : Runs.Run runThread s ts s') :
    s'.Ordered rank := h.invariant (fun _ _ _ _ => ordered_runThread) hs

/-! ## Threads that wait for good -/

def Act.thread : Act T E → T
  | .begin t _ | .run t => t

/-- `n` takes no step. -/
def Without (n : T) (_ : State T M R) (a : Act T E) : Prop := n ≠ a.thread

/-- `x` is held by a thread that waits, through others maybe, for `n`. -/
def Lost (n : T) (s : State T M R) (x : Resource M R) : Prop :=
  ∃ u, Relation.ReflTransGen (WaitsFor s) u n ∧ s.Held u x

/-- Whichever way it goes, a thread that has these operations ahead waits for `x`. -/
def Prog.Passes (x : Resource M R) : Prog M R → Prop
  | .done => False
  | .lock m next => x = .mutex m ∨ next.Passes x
  | .tryLock _ locked busy => locked.Passes x ∧ busy.Passes x
  | .unlock _ next | .enter _ next | .leave _ next => next.Passes x
  | .join r next => x = .callback r ∨ next.Passes x

section Stuck

variable {program : E → Prog M R} {a : Act T E} {n u : T} {x : Resource M R} {as : List (Act T E)}

theorem runThread_of_ne (h : runThread s t = some s') (hu : u ≠ t) :
    s'.prog u = s.prog u ∧ s'.held u = s.held u := by
  unfold runThread at h
  split at h
  · cases h
  · split_ifs at h with hm
    cases h
    exact ⟨State.goOn_prog_of_ne hu, State.acquire_held_of_ne hm hu⟩
  · split_ifs at h with hm
    cases h
    exact ⟨State.goOn_prog_of_ne hu, State.release_held_of_ne hm hu⟩
  · split_ifs at h with hm <;> cases h
    · exact ⟨State.goOn_prog_of_ne hu, State.acquire_held_of_ne hm hu⟩
    · exact ⟨State.goOn_prog_of_ne hu, rfl⟩
  · cases h
    refine ⟨State.goOn_prog_of_ne hu, ?_⟩
    rw [State.goOn_held, State.enter_held_of_ne hu]
  · cases h
    refine ⟨State.goOn_prog_of_ne hu, ?_⟩
    rw [State.goOn_held, State.leave_held_of_ne hu]
  · split_ifs at h
    cases h
    exact ⟨State.goOn_prog_of_ne hu, rfl⟩

/-- A step of one thread leaves what the others have ahead and what they hold. -/
theorem step_of_ne (h : step program s a = some s') (hu : u ≠ a.thread) :
    s'.prog u = s.prog u ∧ s'.held u = s.held u := by
  cases a with
  | begin t e =>
    simp only [step] at h
    split at h
    · cases h
      exact ⟨State.goOn_prog_of_ne hu, rfl⟩
    · cases h
  | run t => exact runThread_of_ne h hu

theorem WaitsFor.runThread_eq_none (h : WaitsFor s t u) : runThread s t = none := by
  obtain ⟨x, hx, hu⟩ := h
  unfold runThread
  rcases hp : s.prog t with _ | ⟨m, next⟩ | _ | _ | _ | _ | ⟨r, next⟩ <;> rw [hp] at hx <;>
    cases hx
  · have hm : s.holder m = some u := hu
    simp [hm]
  · exact if_neg (Finset.ne_empty_of_mem hu)

theorem WaitsFor.ne_thread (h : WaitsFor s t u) (hstep : step program s a = some s') :
    t ≠ a.thread := by
  rintro rfl
  cases a with
  | begin t e =>
    obtain ⟨x, hx, -⟩ := h
    simp only [step] at hstep
    split at hstep
    · rename_i hp
      rw [show (Act.begin t e).thread = t from rfl, hp] at hx
      cases hx
    · cases hstep
  | run t => exact Option.some_ne_none _ (hstep.symm.trans h.runThread_eq_none)

/-- Who waits, through others maybe, for a thread that takes no step takes none either. -/
theorem waits_step (h : Relation.ReflTransGen (WaitsFor s) t n) (hn : n ≠ a.thread)
    (hstep : step program s a = some s') :
    Relation.ReflTransGen (WaitsFor s') t n ∧ t ≠ a.thread := by
  induction h using Relation.ReflTransGen.head_induction_on with
  | refl => exact ⟨.refl, hn⟩
  | @head t u h _ ih =>
    obtain ⟨hun, hu⟩ := ih
    have ht := h.ne_thread hstep
    obtain ⟨x, hx, hheld⟩ := h
    have hheld' : x ∈ s'.held u := (step_of_ne hstep hu).2 ▸ hheld
    exact ⟨.head ⟨x, (step_of_ne hstep ht).1 ▸ hx, hheld'⟩ hun, ht⟩

theorem waits_run (h : Relation.ReflTransGen (WaitsFor s) t n)
    (hrun : Runs.Steps (step program) (Without n) s as s') :
    (∀ a ∈ as, t ≠ a.thread) ∧ s'.prog t = s.prog t ∧ s'.held t = s.held t := by
  have hend : Relation.ReflTransGen (WaitsFor s') t n ∧ (∀ a ∈ as, t ≠ a.thread)
      ∧ s'.prog t = s.prog t ∧ s'.held t = s.held t := by
    refine hrun.trace_invariant (I := fun as s' => Relation.ReflTransGen (WaitsFor s') t n
      ∧ (∀ a ∈ as, t ≠ a.thread) ∧ s'.prog t = s.prog t ∧ s'.held t = s.held t)
      ⟨h, nofun, rfl, rfl⟩ ?_
    rintro as v a w - hn hstep ⟨hwaits, hnone, hprog, hheld⟩
    obtain ⟨hwaits', ht⟩ := waits_step hwaits hn hstep
    obtain ⟨hprog', hheld'⟩ := step_of_ne hstep ht
    refine ⟨hwaits', fun b hb => ?_, hprog'.trans hprog, hheld'.trans hheld⟩
    rcases List.mem_append.1 hb with hb | hb
    · exact hnone b hb
    · rw [List.mem_singleton.1 hb]
      exact ht
  exact hend.2

theorem Lost.step (h : Lost n s x) (hn : n ≠ a.thread) (hstep : step program s a = some s') :
    Lost n s' x := by
  obtain ⟨u, hwaits, hx⟩ := h
  obtain ⟨hwaits', hu⟩ := waits_step hwaits hn hstep
  have hx' : x ∈ s'.held u := (step_of_ne hstep hu).2 ▸ hx
  exact ⟨u, hwaits', hx'⟩

theorem Lost.run (h : Lost n s x) (hrun : Runs.Steps (Locks.step program) (Without n) s as s') :
    Lost n s' x := by
  refine hrun.invariant (I := fun s => Lost n s x) ?_ h
  exact fun _ _ _ hn hstep h => h.step hn hstep

theorem passes_runThread (h : runThread s t = some s') (hx : Lost n s x)
    (hp : (s.prog t).Passes x) : (s'.prog t).Passes x := by
  obtain ⟨u, -, hx⟩ := hx
  unfold runThread at h
  split at h <;> rename_i hprog <;> rw [hprog] at hp
  · cases hp
  · split_ifs at h with hm
    cases h
    rcases hp with rfl | hp
    · cases hm.symm.trans hx
    · rwa [State.goOn_prog]
  · split_ifs at h
    cases h
    rwa [State.goOn_prog]
  · split_ifs at h <;> cases h <;> rw [State.goOn_prog]
    · exact hp.1
    · exact hp.2
  · cases h
    rwa [State.goOn_prog]
  · cases h
    rwa [State.goOn_prog]
  · split_ifs at h with hr
    cases h
    rcases hp with rfl | hp
    · exact absurd hr (Finset.ne_empty_of_mem hx)
    · rwa [State.goOn_prog]

theorem passes_step (h : step program s a = some s') (hx : Lost n s x)
    (hp : (s.prog t).Passes x) : (s'.prog t).Passes x := by
  by_cases ht : t = a.thread
  · subst ht
    cases a with
    | begin t e =>
      simp only [step] at h
      split at h
      · rename_i hprog
        rw [show (Act.begin t e).thread = t from rfl, hprog] at hp
        cases hp
      · cases h
    | run t => exact passes_runThread h hx hp
  · rwa [(step_of_ne h ht).1]

/-- What is held by a thread that waits for good is not to be had, so whoever needs it does not come
to an end. -/
theorem ne_done_of_passes (h : Lost n s x) {e : E} (he : (program e).Passes x)
    {bs : List (Act T E)}
    (hrun : Runs.Steps (step program) (Without n) s (as ++ .begin t e :: bs) s') :
    s'.prog t ≠ .done := by
  obtain ⟨v, hv, hrest⟩ := hrun.of_append
  cases hrest with
  | @cons _ w _ _ _ hn hstep hrun =>
    have hw : Lost n w x ∧ (w.prog t).Passes x := by
      refine ⟨(h.run hv).step hn hstep, ?_⟩
      simp only [step] at hstep
      split at hstep
      · cases hstep
        rwa [State.goOn_prog]
      · cases hstep
    have hend : Lost n s' x ∧ (s'.prog t).Passes x := by
      refine hrun.invariant (I := fun s => Lost n s x ∧ (s.prog t).Passes x) ?_ hw
      rintro p a q hn hstep ⟨hlost, hp⟩
      exact ⟨hlost.step hn hstep, passes_step hstep hlost hp⟩
    intro hdone
    rw [hdone] at hend
    exact hend.2

end Stuck

end Locks
