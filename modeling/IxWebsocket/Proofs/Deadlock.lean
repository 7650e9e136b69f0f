import IxWebsocket.Locking

/-!
# No deadlock

The mutexes of the registries come first, as the clear commands hold one of them while they wait for
callbacks. A callback holds nothing but itself when it asks for the mutex of the message list, so
callbacks come next and that mutex after them. The mutex inside `erase` comes last, as the loop asks
for it with the list locked. Every entry point only waits upwards (`program_ordered`). So there is
always a thread that can go on, and all threads come to their ends (`threads_end`).
-/

namespace IxWebsocket

namespace Locking

open Locks (Resource WaitsFor)

def rank : Resource Mutex ℕ → ℕ
  | .mutex .websocketClientRef => 0
  | .mutex .websocketServerRef => 0
  | .callback _ => 1
  | .mutex .messageList => 2
  | .mutex .websocketMessageList => 3

/-- Nothing but the mutex of a registry is held. -/
def Low (held : Set (Resource Mutex ℕ)) : Prop := ∀ x ∈ held, rank x < 1

variable {held : Set (Resource Mutex ℕ)} {next : Prog} {ref : ℕ} {found : List Bool}

theorem done_ordered : (Locks.Prog.done : Prog).Ordered rank ∅ := rfl

theorem low_empty : Low ∅ := fun _ hx => hx.elim

theorem low_insert {mutex : Mutex} (hm : rank (.mutex mutex) = 0) :
    Low (insert (.mutex mutex) ∅) := by
  rintro x (rfl | hx)
  · rw [hm]
    exact one_pos
  · exact hx.elim

theorem handler_ordered (hheld : Low held) (found : Bool) (hnext : next.Ordered rank held) :
    (handler ref found next).Ordered rank held := by
  have href : .callback ref ∉ held := Locks.notMem_of_lt hheld
  refine ⟨href, ?_⟩
  have hleave := (Locks.Prog.ordered_leave href).2 hnext
  cases found with
  | false => exact hleave
  | true =>
    refine hleave.guard ?_
    rintro x (rfl | hx)
    · exact one_lt_two
    · exact (hheld x hx).trans one_lt_two

theorem handlers_ordered (hheld : Low held) (hnext : next.Ordered rank held) :
    (handlers ref found next).Ordered rank held := by
  induction found with
  | nil => exact hnext
  | cons f found ih => exact handler_ordered hheld f ih

theorem stop_ordered (hheld : Low held) (hnext : next.Ordered rank held) :
    (stop ref found next).Ordered rank held := handlers_ordered hheld ⟨hheld, hnext⟩

theorem erase_ordered (hheld : ∀ x ∈ held, rank x < 3) (hnext : next.Ordered rank held) :
    ∀ n, (erase n next).Ordered rank held
  | 0 => hnext
  | n + 1 => (erase_ordered hheld hnext n).guard hheld

theorem create_ordered (mutex : Mutex) : (create mutex).Ordered rank ∅ :=
  .guard (fun _ hx => hx.elim) done_ordered

/-- What a registry's mutex is held around ends with giving it back. -/
theorem unlock_ordered {mutex : Mutex} (hnext : next.Ordered rank ∅) :
    (Locks.Prog.unlock mutex next).Ordered rank (insert (.mutex mutex) ∅) :=
  (Locks.Prog.ordered_unlock (Set.notMem_empty _)).2 hnext

theorem clear_ordered {mutex : Mutex} (hm : rank (.mutex mutex) = 0)
    (it : Option (ℕ × List Bool)) : (clear mutex it).Ordered rank ∅ := by
  refine ⟨fun _ hx => hx.elim, ?_⟩
  cases it with
  | none => exact unlock_ordered done_ordered
  | some it => exact stop_ordered (low_insert hm) (unlock_ordered done_ordered)

theorem clearAll_ordered {mutex : Mutex} (hm : rank (.mutex mutex) = 0)
    (list : List (ℕ × List Bool)) (hnext : next.Ordered rank ∅) :
    (clearAll mutex list next).Ordered rank ∅ := by
  refine ⟨fun _ hx => hx.elim, ?_⟩
  induction list with
  | nil => exact unlock_ordered hnext
  | cons e list ih => exact stop_ordered (low_insert hm) ih

theorem messages_ordered : messages.Ordered rank ∅ :=
  ⟨Set.notMem_empty _, unlock_ordered done_ordered, done_ordered⟩

theorem pass_ordered (n : ℕ) : (pass n).Ordered rank ∅ := by
  refine ⟨Set.notMem_empty _, erase_ordered ?_ (unlock_ordered done_ordered) n, done_ordered⟩
  rintro x (rfl | hx)
  · exact Nat.lt_succ_self 2
  · exact hx.elim

theorem program_ordered (e : Entry) : (program e).Ordered rank ∅ := by
  cases e with
  | websocketClient | websocketServer => exact create_ordered _
  | websocketClientStart ref found | websocketServerStart ref found
  | websocketClientSend ref found | websocketServerSend ref found =>
    exact handlers_ordered low_empty done_ordered
  | websocketClientStop ref found | websocketServerStop ref found =>
    exact stop_ordered low_empty done_ordered
  | websocketClientClear it | websocketServerClear it => exact clear_ordered rfl it
  | websocketClientMessages | websocketServerMessages => exact messages_ordered
  | callback ref found => exact handler_ordered low_empty found done_ordered
  | loop n => exact pass_ordered n
  | onExit n clients servers =>
    exact erase_ordered (fun _ hx => hx.elim)
      (clearAll_ordered rfl clients (clearAll_ordered rfl servers done_ordered)) n

/-- In no state of any interleaving do threads wait in a circle for mutexes and callbacks. -/
theorem no_deadlock {T : Type*} [DecidableEq T] {s : State T} (hs : Reachable s) (t : T) :
    ¬ Relation.TransGen (WaitsFor s) t t := Locks.no_circle program_ordered hs t

/-- Thread 0 clears a client, thread 1 is in a callback of it, and thread 2 drains the list. -/
def waiting : State ℕ :=
  (Runs.exec (Locks.step program) {}
    [.begin 1 (.callback 5 true), .run 1, .begin 0 (.websocketClientClear (some (5, []))), .run 0,
      .begin 2 (.loop 1), .run 2]).getD {}

theorem waiting_no_deadlock :
    WaitsFor waiting 0 1 ∧ WaitsFor waiting 1 2 ∧ ¬ Relation.TransGen (WaitsFor waiting) 0 0 :=
  ⟨⟨.callback 5, rfl, Finset.mem_insert_self 1 ∅⟩, ⟨.mutex .messageList, rfl, rfl⟩,
    no_deadlock (Runs.reachable_of_exec
      [.begin 1 (.callback 5 true), .run 1, .begin 0 (.websocketClientClear (some (5, []))),
        .run 0, .begin 2 (.loop 1), .run 2] rfl) 0⟩

/-! ## Every thread comes to its end -/

theorem rank_ends : WellFounded fun y x : Resource Mutex ℕ => rank x < rank y := by
  have hle : ∀ x : Resource Mutex ℕ, rank x ≤ 3
    | .mutex .websocketClientRef | .mutex .websocketServerRef => Nat.zero_le 3
    | .callback _ => Nat.le_add_left 1 2
    | .mutex .messageList => Nat.le_succ 2
    | .mutex .websocketMessageList => le_rfl
  refine Subrelation.wf (r := InvImage (· < ·) fun x => 3 - rank x) (fun {y x} h => ?_)
    (InvImage.wf _ Nat.lt_wfRel.wf)
  have := hle y
  exact (Nat.sub_lt_sub_left (lt_of_lt_of_le h this) h :)

/-- From any state of any interleaving, let the threads go on in any order, while none begins
anything new. They take no more operations than they had ahead, and on the way each thread that is
not through can go on, or waits, through others maybe, for one that can. When all are through, no
mutex is held and no callback is running. -/
theorem threads_end {T : Type*} [DecidableEq T] {s t : State T} (hs : Reachable s)
    {active : Finset T} (hactive : ∀ τ ∉ active, s.prog τ = .done) {τs : List T}
    (h : Runs.Run Locks.runThread s τs t) :
    τs.length ≤ ∑ τ ∈ active, (s.prog τ).size
      ∧ (∀ τ, t.prog τ ≠ .done → ∃ υ, Relation.ReflTransGen (WaitsFor t) τ υ
        ∧ (Locks.runThread t υ).isSome = true)
      ∧ ((∀ τ, t.prog τ = .done) → (∀ m, t.holder m = none) ∧ ∀ r, t.running r = ∅) := by
  have hordered : Locks.State.Ordered rank s :=
    hs.invariant (fun _ _ _ => Locks.ordered_step program_ordered) Locks.ordered_init
  have ht := hordered.run h
  exact ⟨Locks.run_length_le hactive h, fun _ => Locks.exists_goesOn rank_ends ht, ht.free⟩

theorem waiting_reachable : Reachable waiting :=
  Runs.reachable_of_exec
    [.begin 1 (.callback 5 true), .run 1, .begin 0 (.websocketClientClear (some (5, []))), .run 0,
      .begin 2 (.loop 1), .run 2] rfl

/-- The loop gives the list back, the callback returns, and the clear is through. -/
def ended : State ℕ := (Runs.exec Locks.runThread waiting [2, 2, 2, 1, 1, 1, 0, 0]).getD {}

theorem waiting_ends : (∀ m, ended.holder m = none) ∧ ∀ r, ended.running r = ∅ := by
  have hactive : ∀ τ ∉ ({0, 1, 2} : Finset ℕ), waiting.prog τ = .done := by
    intro τ hτ
    rcases τ with _ | _ | _ | τ
    · simp at hτ
    · simp at hτ
    · simp at hτ
    · rfl
  have hrun : Runs.Run Locks.runThread waiting [2, 2, 2, 1, 1, 1, 0, 0] ended :=
    Runs.run_of_exec rfl
  refine (threads_end waiting_reachable hactive hrun).2.2 fun τ => ?_
  rcases τ with _ | _ | _ | τ <;> rfl

end Locking

end IxWebsocket
