import IxWebsocket.Commands
import IxWebsocket.Proofs.Drain

/-!
# What a messages query answers

Once a query is inside the mutex, no handler appends and the loop does not erase, so it reads the
vector as it was when the query came in (`reading_run`). Its `try_lock` is not repeated: a query
that finds the mutex held by anyone answers with nothing, whatever is pending (`query_snapshot`).
-/

namespace IxWebsocket

namespace Pipeline

variable {M : Type*} {s t : State M} {a : Act M} {n i : ℕ} {f : M → Bool} {r r' : List (Obj M)}
  {as : List (Act M)}

theorem Trans.queries (h : Trans s a t) (ha : ∀ select, a ≠ .query n select) :
    t.queries n = s.queries n := by
  have hne : ∀ {k : ℕ} {select : M → Bool}, a = .query k select → n ≠ k := by
    rintro k select rfl rfl
    exact ha select rfl
  cases h with
  | query | queryLocked | queryBusy | queryRead | queryUnlock =>
    exact Function.update_of_ne (hne rfl) ..
  | _ => rfl

/-- While a query is inside, the vector stays as it is. -/
theorem Trans.messages (h : Trans s a t) (hl : Locks s) (hmutex : s.mutex = some (.query n))
    (ht : t.main.stopped = false) : t.messages = s.messages := by
  cases h with
  | clearErase | clearRest => cases ht
  | erase hloop =>
    have := hl.loop.1 (by rw [hloop]; rfl)
    simp [hmutex] at this
  | addMessage h => simp [hmutex] at h
  | _ => rfl

theorem Trans.tryLock {select : M → Bool} (h : Trans s (.query n select) t)
    (hq : s.queries n = .tryLock f) :
    (s.mutex = none ∧ t.queries n = .reading f 0 [] ∧ t.messages = s.messages)
      ∨ (s.mutex ≠ none ∧ t.queries n = .done []) := by
  cases h with
  | query h | queryRead h | queryUnlock h => simp [hq] at h
  | queryLocked h hfree =>
    cases hq.symm.trans h
    exact .inl ⟨hfree, Function.update_self .., rfl⟩
  | queryBusy h hfree => exact .inr ⟨hfree, Function.update_self ..⟩

theorem Trans.reading {select : M → Bool} (h : Trans s (.query n select) t)
    (hq : s.queries n = .reading f i r) :
    (∃ m, s.messages[i]? = some m
        ∧ t.queries n = .reading f (i + 1) (if f m.msg then r ++ [m] else r))
      ∨ (s.messages[i]? = none ∧ t.queries n = .done r) := by
  cases h with
  | query h | queryLocked h | queryBusy h => simp [hq] at h
  | @queryRead _ _ _ _ _ m h hm =>
    cases hq.symm.trans h
    exact .inl ⟨m, hm, Function.update_self ..⟩
  | queryUnlock h hend =>
    cases hq.symm.trans h
    exact .inr ⟨hend, Function.update_self ..⟩

theorem stopped_of_run (h : Runs.Run step s as t) (ht : t.main.stopped = false) :
    s.main.stopped = false := by
  induction h with
  | nil => exact ht
  | cons _ hstep _ ih => exact (trans_of_step hstep).stopped (ih ht)

theorem done_run (h : Runs.Run step s as t) (hq : s.queries n = .done r) :
    t.queries n = .done r := by
  refine h.invariant (I := fun s => s.queries n = .done r) ?_ hq
  intro s a t _ hstep hq
  by_cases ha : ∃ select, a = .query n select
  · obtain ⟨select, rfl⟩ := ha
    simp [step, queryStep, hq] at hstep
  · rw [(trans_of_step hstep).queries fun select h => ha ⟨select, h⟩, hq]

/-- A query that is inside at the `i`-th place adds what it selects from there on. -/
theorem reading_run (h : Runs.Run step s as t) (hl : Locks s) (ht : t.main.stopped = false)
    (hq : s.queries n = .reading f i r) (hr : t.queries n = .done r') :
    r' = r ++ (s.messages.drop i).filter (f ·.msg) := by
  induction h generalizing i r with
  | nil s => simp [hq] at hr
  | @cons s u t a as _ hstep hrun ih =>
    have htrans := trans_of_step hstep
    have hmessages := htrans.messages hl (hl.query _ _ _ _ hq) (stopped_of_run hrun ht)
    by_cases ha : ∃ select, a = .query n select
    · obtain ⟨select, rfl⟩ := ha
      rcases htrans.reading hq with ⟨m, hm, hq'⟩ | ⟨hend, hq'⟩
      · obtain ⟨hi, rfl⟩ := List.getElem?_eq_some_iff.1 hm
        rw [ih (hl.step htrans) ht hq' hr, hmessages, List.drop_eq_getElem_cons hi,
          List.filter_cons]
        split <;> simp
      · have hdone := done_run hrun hq'
        rw [hr] at hdone
        cases hdone
        rw [List.drop_eq_nil_of_le (List.getElem?_eq_none_iff.1 hend), List.filter_nil,
          List.append_nil]
    · rw [← hmessages]
      refine ih (hl.step htrans) ht ?_ hr
      rw [htrans.queries fun select h => ha ⟨select, h⟩, hq]

/-- Up to the exit, a query answers with what it selects from the vector as it is at its `try_lock`,
in order, and with nothing when the mutex is held then. -/
theorem query_snapshot (hs : Reachable s) (hq : s.queries n = .tryLock f)
    (h : Runs.Run step s as t) (hr : t.queries n = .done r) (ht : t.main.stopped = false) :
    ∃ bs cs u, as = bs ++ cs ∧ Runs.Run step s bs u ∧ Runs.Run step u cs t
      ∧ u.queries n = .tryLock f
      ∧ (u.mutex = none → r = u.messages.filter (f ·.msg))
      ∧ (u.mutex ≠ none → r = []) := by
  induction h with
  | nil s => simp [hq] at hr
  | @cons s u t a as _ hstep hrun ih =>
    have htrans := trans_of_step hstep
    by_cases ha : ∃ select, a = .query n select
    · obtain ⟨select, rfl⟩ := ha
      refine ⟨[], _, s, rfl, .nil s, .cons trivial hstep hrun, hq, ?_⟩
      rcases htrans.tryLock hq with ⟨hfree, hq', hmessages⟩ | ⟨hheld, hq'⟩
      · refine ⟨fun _ => ?_, fun h => absurd hfree h⟩
        simpa [hmessages] using reading_run hrun (hs.locks.step htrans) ht hq' hr
      · have hdone := done_run hrun hq'
        rw [hr] at hdone
        cases hdone
        exact ⟨fun h => absurd h hheld, fun _ => rfl⟩
    · have hq' : u.queries n = .tryLock f := by
        rw [htrans.queries fun select h => ha ⟨select, h⟩, hq]
      obtain ⟨bs, cs, v, rfl, hbs, hcs, hv⟩ := ih (hs.step hstep) hq' hr ht
      exact ⟨a :: bs, cs, v, rfl, .cons trivial hstep hbs, hcs, hv⟩

/-- A handler has just appended a message of client 1, and a query has begun. -/
def asked : State Message :=
  (Runs.exec step {} [.main, .main, .query 0 (clientSelects 1),
    .lock (Message.create .plain {} 0 1 (ascii "close") [] 0 0), .addMessage]).getD {}

theorem asked_reachable : Reachable asked :=
  Runs.reachable_of_exec [.main, .main, .query 0 (clientSelects 1),
    .lock (Message.create .plain {} 0 1 (ascii "close") [] 0 0), .addMessage] rfl

/-- The handler leaves before the query tries the mutex. -/
def inTurn : List (Act Message) :=
  [.unlock, .query 0 (clientSelects 1), .query 0 (clientSelects 1), .query 0 (clientSelects 1)]

def answered : State Message := (Runs.exec step asked inTurn).getD {}

theorem answered_snapshot :
    ∃ r bs cs u, answered.queries 0 = .done r ∧ inTurn = bs ++ cs ∧ Runs.Run step asked bs u
      ∧ (u.mutex = none → r = u.messages.filter (clientSelects 1 ·.msg)) := by
  have hrun : Runs.Run step asked inTurn answered := Runs.run_of_exec rfl
  obtain ⟨bs, cs, u, has, hbs, -, -, hfree, -⟩ :=
    query_snapshot (n := 0) (f := clientSelects 1) asked_reachable rfl hrun rfl rfl
  exact ⟨_, bs, cs, u, rfl, has, hbs, hfree⟩

/-- The query tries the mutex while the handler still holds it. -/
def contended : State Message :=
  (Runs.exec step asked [.query 0 (clientSelects 1)]).getD {}

theorem contended_not_snapshot :
    Reachable asked ∧ asked.queries 0 = .tryLock (clientSelects 1)
      ∧ Runs.Run step asked [.query 0 (clientSelects 1)] contended
      ∧ contended.queries 0 = .done [] ∧ contended.main.stopped = false
      ∧ ∀ bs cs u, [.query 0 (clientSelects 1)] = bs ++ cs → Runs.Run step asked bs u →
        u.messages.filter (clientSelects 1 ·.msg) ≠ [] := by
  refine ⟨asked_reachable, rfl, Runs.run_of_exec rfl, rfl, rfl, fun bs cs u has hbs => ?_⟩
  rcases bs with _ | ⟨b, bs⟩
  · cases hbs
    exact List.cons_ne_nil _ _
  · obtain ⟨rfl, hnil⟩ := List.cons_eq_cons.1 has
    obtain ⟨rfl, rfl⟩ := List.append_eq_nil_iff.1 hnil.symm
    cases hbs with
    | cons _ hstep hrun =>
      cases hrun
      cases hstep
      exact List.cons_ne_nil _ _

end Pipeline

end IxWebsocket
