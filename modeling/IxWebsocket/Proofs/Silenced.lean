import IxWebsocket.Locking
import IxWebsocket.Proofs.Snapshot

/-!
# After a query that has failed

A query that is inside the mutex when memory runs out is not gone on with: `PluginMain` swallows
what is thrown, and nobody else gives the mutex back. From then on no handler appends, the loop
delivers nothing and every other query answers with nothing, in any interleaving
(`failed_silences`). The handlers wait for good, and with them whoever waits for their callbacks,
which is `stop()`, the clear commands and `OnExit`, and whoever needs what these hold
(`failed_hangs`).
-/

namespace IxWebsocket

namespace Pipeline

variable {M : Type*} {s t : State M} {a : Act M} {n i : ℕ} {f : M → Bool} {r : List (Obj M)}
  {as : List (Act M)}

/-- The `n`-th query is not gone on with. -/
def Failed (n : ℕ) (_ : State M) (a : Act M) : Prop := ∀ select, a ≠ .query n select

/-- Nobody but the query that is inside gives the mutex back. -/
theorem Trans.kept (h : Trans s a t) (hl : Locks s) (hmutex : s.mutex = some (.query n))
    (ha : Failed n s a) :
    t.mutex = some (.query n) ∧ a.isHandler = false ∧ SameLog s t := by
  have hout : ∀ {pc : LoopPc M}, s.loop = pc → pc.inPass = false := by
    rintro pc rfl
    by_contra hin
    have := hl.loop.1 (by simpa using hin)
    simp [hmutex] at this
  cases h with
  | locked h hfree | queryLocked h hfree | lock hfree => simp [hmutex] at hfree
  | addMessage h | release h => simp [hmutex] at h
  | next h | drained h | take h | known h | unknown h | execute h | abort h | living h | erase h
  | unlock h => cases hout h
  | @queryUnlock k i select f r h hend =>
    have hk := hl.query _ _ _ _ h
    rw [hmutex] at hk
    cases hk
    exact absurd rfl (ha select)
  | deleteQueue | clearErase | clearRest | start =>
    exact ⟨hmutex, rfl, .of_concat rfl rfl rfl rfl rfl⟩
  | _ => exact ⟨hmutex, rfl, .of_eq rfl⟩

/-- What another query answers with while the mutex is held. -/
theorem Trans.done (h : Trans s a t) (hl : Locks s) (hmutex : s.mutex = some (.query n))
    (ha : Failed n s a) {k : ℕ} (hk : t.queries k = .done r) :
    s.queries k = .done r ∨ r = [] := by
  by_cases hkq : ∃ select, a = .query k select
  · obtain ⟨select, rfl⟩ := hkq
    cases h with
    | query | queryRead => simp at hk
    | queryLocked h hfree => simp [hmutex] at hfree
    | queryBusy h =>
      simp only [Function.update_self, QueryPc.done.injEq] at hk
      exact .inr hk.symm
    | queryUnlock h =>
      have hkn := hl.query _ _ _ _ h
      rw [hmutex] at hkn
      cases hkn
      exact absurd rfl (ha select)
  · rw [h.queries fun select hs => hkq ⟨select, hs⟩] at hk
    exact .inl hk

/-- What is as it was when the query got in. -/
structure Silenced (n : ℕ) (s : State M) (as : List (Act M)) (t : State M) : Prop where
  mutex : t.mutex = some (.query n)
  handlers : ∀ a ∈ as, a.isHandler = false
  log : SameLog s t
  messages : t.main.stopped = false → t.messages = s.messages
  queries : ∀ k r, t.queries k = .done r → s.queries k = .done r ∨ r = []

theorem Silenced.step {u : State M} (hs : Silenced n s as t) (hl : Locks t) (ha : Failed n t a)
    (h : Trans t a u) : Silenced n s (as ++ [a]) u := by
  obtain ⟨hmutex, hhandler, hlog⟩ := h.kept hl hs.mutex ha
  refine ⟨hmutex, fun b hb => ?_, hs.log.trans hlog, fun hu => ?_, fun k r hk => ?_⟩
  · rcases List.mem_append.1 hb with hb | hb
    · exact hs.handlers b hb
    · rw [List.mem_singleton.1 hb]
      exact hhandler
  · exact (h.messages hl hs.mutex hu).trans (hs.messages (h.stopped hu))
  · rcases h.done hl hs.mutex ha hk with hk | hnil
    · exact hs.queries k r hk
    · exact .inr hnil

/-- Once a query that is inside is not gone on with, the mutex stays locked. No handler takes
another step, nothing is appended, asked for or delivered, up to the exit the vector stays as it is,
and every query that comes to its end answers with nothing. -/
theorem failed_silences (h : Reachable s) (hq : s.queries n = .reading f i r)
    (hrun : Runs.Steps step (Failed n) s as t) :
    t.mutex = some (.query n) ∧ (∀ a ∈ as, a.isHandler = false)
      ∧ t.appended = s.appended ∧ t.handled = s.handled ∧ t.delivered = s.delivered
      ∧ (t.main.stopped = false → t.messages = s.messages)
      ∧ ∀ k r', t.queries k = .done r' → s.queries k = .done r' ∨ r' = [] := by
  have hinit : Silenced n s [] s := by
    refine ⟨h.locks.query _ _ _ _ hq, fun a ha => ?_, .refl s, fun _ => rfl, fun k r hk => .inl hk⟩
    cases ha
  have hend : Silenced n s as t := by
    refine hrun.trace_invariant (I := Silenced n s) hinit ?_
    intro as u a v hu ha hstep hs
    have hreach : Reachable u := h.trans hu.run
    exact hs.step hreach.locks ha (trans_of_step hstep)
  exact ⟨hend.mutex, hend.handlers, hend.log.appended, hend.log.handled, hend.log.delivered,
    hend.messages, hend.queries⟩

/-- A query is inside, and has read the message that is there. -/
def inside : State Message :=
  (Runs.exec step asked [.unlock, .query 0 (clientSelects 1), .query 0 (clientSelects 1)]).getD {}

/-- The loop and another query do what they can. -/
def inVain : List (Act Message) :=
  [.loop 0 false, .loop 0 false, .loop 0 false, .query 1 (clientSelects 1), .loop 0 false,
    .query 1 (clientSelects 1), .loop 0 false]

theorem inside_silences :
    inside.messages.length = 1 ∧ ((Runs.exec step inside inVain).getD {}).messages.length = 1
      ∧ ((Runs.exec step inside inVain).getD {}).queries 1 = .done []
      ∧ ((Runs.exec step inside inVain).getD {}).delivered = [] := by
  have hasked : Runs.Run step asked
      [.unlock, .query 0 (clientSelects 1), .query 0 (clientSelects 1)] inside :=
    Runs.run_of_exec rfl
  have hinside : Reachable inside := asked_reachable.trans hasked
  have hrun : Runs.Steps step (Failed 0) inside inVain
      ((Runs.exec step inside inVain).getD {}) := by
    refine Runs.steps_of_exec (fun a ha u select => ?_) rfl
    rintro rfl
    simp [inVain] at ha
  obtain ⟨-, -, -, -, hdelivered, hmessages, -⟩ := failed_silences hinside rfl hrun
  refine ⟨rfl, ?_, rfl, hdelivered.trans rfl⟩
  rw [hmessages rfl]
  rfl

end Pipeline

namespace Locking

open Locks (Resource WaitsFor Without)

variable {T : Type*} [DecidableEq T] {s t : State T} {n : T} {as : List (Locks.Act T Entry)}
  {x : Resource Mutex ℕ} {next : Prog} {ref : ℕ} {found : List Bool}

/-- What `stop()` waits for. The callbacks it runs itself wait for the list. -/
def StopNeeds (e : ℕ × List Bool) (x : Resource Mutex ℕ) : Prop :=
  true ∈ e.2 ∧ x = .mutex .messageList ∨ x = .callback e.1

/-- What an entry waits for whichever way it goes. -/
def Entry.Needs (x : Resource Mutex ℕ) : Entry → Prop
  | .websocketClient => x = .mutex .websocketClientRef
  | .websocketServer => x = .mutex .websocketServerRef
  | .websocketClientStart _ found | .websocketServerStart _ found
  | .websocketClientSend _ found | .websocketServerSend _ found =>
    true ∈ found ∧ x = .mutex .messageList
  | .websocketClientStop ref found | .websocketServerStop ref found => StopNeeds (ref, found) x
  | .websocketClientClear it => x = .mutex .websocketClientRef ∨ ∃ e ∈ it, StopNeeds e x
  | .websocketServerClear it => x = .mutex .websocketServerRef ∨ ∃ e ∈ it, StopNeeds e x
  | .websocketClientMessages | .websocketServerMessages | .loop _ => False
  | .callback _ found => found = true ∧ x = .mutex .messageList
  | .onExit n clients servers => n ≠ 0 ∧ x = .mutex .websocketMessageList
    ∨ (x = .mutex .websocketClientRef ∨ ∃ e ∈ clients, StopNeeds e x)
    ∨ x = .mutex .websocketServerRef ∨ ∃ e ∈ servers, StopNeeds e x

theorem handler_passes (found : Bool) : (handler ref found next).Passes x
    ↔ found = true ∧ x = .mutex .messageList ∨ next.Passes x := by
  cases found <;> simp [handler, Locks.Prog.Passes]

theorem handlers_passes : (handlers ref found next).Passes x
    ↔ true ∈ found ∧ x = .mutex .messageList ∨ next.Passes x := by
  induction found with
  | nil => simp [handlers]
  | cons f found ih =>
    have hcons : handlers ref (f :: found) next = handler ref f (handlers ref found next) := rfl
    rw [hcons, handler_passes, ih, List.mem_cons, eq_comm (a := true), or_and_right, or_assoc]

theorem stop_passes : (stop ref found next).Passes x
    ↔ StopNeeds (ref, found) x ∨ next.Passes x := by
  rw [stop, handlers_passes, StopNeeds, or_assoc]
  rfl

theorem erase_passes : ∀ n, (erase n next).Passes x
    ↔ n ≠ 0 ∧ x = .mutex .websocketMessageList ∨ next.Passes x
  | 0 => by simp [erase]
  | n + 1 => by
    have hn : (n + 1 ≠ 0) = True := eq_true n.succ_ne_zero
    rw [hn, true_and]
    refine (or_congr_right (erase_passes n)).trans ?_
    tauto

theorem clear_passes {mutex : Mutex} (it : Option (ℕ × List Bool)) :
    (clear mutex it).Passes x ↔ x = .mutex mutex ∨ ∃ e ∈ it, StopNeeds e x := by
  refine or_congr_right ?_
  rcases it with _ | ⟨ref, found⟩
  · simp [Locks.Prog.Passes]
  · simp [stop_passes, Locks.Prog.Passes]

theorem clearAll_passes {mutex : Mutex} (list : List (ℕ × List Bool)) :
    (clearAll mutex list next).Passes x
      ↔ (x = .mutex mutex ∨ ∃ e ∈ list, StopNeeds e x) ∨ next.Passes x := by
  rw [or_assoc]
  refine or_congr_right ?_
  induction list with
  | nil => simp [Locks.Prog.Passes]
  | cons e list ih => simp [stop_passes, ih, or_assoc]

theorem program_passes (e : Entry) : (program e).Passes x ↔ e.Needs x := by
  cases e with
  | websocketClient | websocketServer => simp [program, create, Entry.Needs, Locks.Prog.Passes]
  | websocketClientStart | websocketServerStart | websocketClientSend | websocketServerSend =>
    simp [program, handlers_passes, Entry.Needs, Locks.Prog.Passes]
  | websocketClientStop | websocketServerStop =>
    simp [program, stop_passes, Entry.Needs, Locks.Prog.Passes]
  | websocketClientClear it | websocketServerClear it => exact clear_passes it
  | websocketClientMessages | websocketServerMessages =>
    simp [program, messages, Entry.Needs, Locks.Prog.Passes]
  | callback => simp [program, handler_passes, Entry.Needs, Locks.Prog.Passes]
  | loop n => simp [program, pass, Entry.Needs, Locks.Prog.Passes]
  | onExit n clients servers =>
    simp [program, erase_passes, clearAll_passes, Entry.Needs, Locks.Prog.Passes]

/-- A thread that is inside the mutex of the list is not gone on with. Whoever waits for it, through
others maybe, takes no further step and keeps what it holds, and no entry begun since that needs any
of this comes to its end. -/
theorem failed_hangs (hn : s.holder .messageList = some n)
    (hrun : Runs.Steps (Locks.step program) (Without n) s as t) :
    t.holder .messageList = some n
      ∧ (∀ υ, Relation.ReflTransGen (WaitsFor s) υ n →
        (∀ a ∈ as, υ ≠ a.thread) ∧ t.prog υ = s.prog υ ∧ t.held υ = s.held υ)
      ∧ ∀ υ x, Relation.ReflTransGen (WaitsFor s) υ n → s.Held υ x →
        ∀ bs cs τ e, as = bs ++ .begin τ e :: cs → e.Needs x → t.prog τ ≠ .done := by
  refine ⟨?_, fun υ hwaits => Locks.waits_run hwaits hrun, fun υ x hwaits hx bs cs τ e has he => ?_⟩
  · have hheld : t.held n = s.held n := (Locks.waits_run .refl hrun).2.2
    have hlist : .mutex .messageList ∈ t.held n := by
      rw [hheld]
      exact hn
    exact hlist
  · subst has
    exact Locks.ne_done_of_passes ⟨υ, hwaits, hx⟩ ((program_passes e).2 he) hrun

/-- Thread 0 is in a query that has failed, thread 1 in a callback of a client, and threads 2 and 5
clear and stop that client. -/
def abandonedRun : List (Locks.Act ℕ Entry) :=
  [.begin 0 .websocketClientMessages, .run 0, .begin 1 (.callback 5 true), .run 1,
    .begin 2 (.websocketClientClear (some (5, []))), .run 2, .begin 5 (.websocketClientStop 5 [])]

def abandoned : State ℕ := (Runs.exec (Locks.step program) {} abandonedRun).getD {}

/-- The loop tries in vain, and a client is to be created. -/
def since : List (Locks.Act ℕ Entry) := [.begin 4 (.loop 3), .run 4, .begin 3 .websocketClient]

def sinceEnd : State ℕ := (Runs.exec (Locks.step program) abandoned since).getD {}

theorem abandoned_hangs :
    Reachable abandoned ∧ sinceEnd.holder .messageList = some 0
      ∧ sinceEnd.prog 2 = abandoned.prog 2
      ∧ ((∀ m, abandoned.holder m ≠ some 5) ∧ sinceEnd.prog 5 = abandoned.prog 5
        ∧ sinceEnd.prog 5 ≠ .done)
      ∧ sinceEnd.prog 3 ≠ .done ∧ sinceEnd.prog 4 = .done := by
  have hrun : Runs.Steps (Locks.step program) (Without 0) abandoned since sinceEnd := by
    refine Runs.steps_of_exec (fun a ha u => ?_) rfl
    simp only [since, List.mem_cons, List.not_mem_nil, or_false] at ha
    rcases ha with rfl | rfl | rfl <;> exact nofun
  have hclear : WaitsFor abandoned 2 1 := ⟨.callback 5, rfl, Finset.mem_insert_self 1 ∅⟩
  have hstop : WaitsFor abandoned 5 1 := ⟨.callback 5, rfl, Finset.mem_insert_self 1 ∅⟩
  have hcallback : WaitsFor abandoned 1 0 := ⟨.mutex .messageList, rfl, rfl⟩
  obtain ⟨hholder, hkept, hhangs⟩ := failed_hangs (n := 0) rfl hrun
  have hwaits := Relation.ReflTransGen.head hclear (.single hcallback)
  have hstopped := (hkept 5 (.head hstop (.single hcallback))).2.1
  have hcreate := hhangs 2 (.mutex .websocketClientRef) hwaits rfl [.begin 4 (.loop 3), .run 4] []
  refine ⟨Runs.reachable_of_exec abandonedRun rfl, hholder, (hkept 2 hwaits).2.1,
    ⟨fun m => by cases m <;> decide +kernel, hstopped, ?_⟩, hcreate 3 .websocketClient rfl rfl, rfl⟩
  rw [hstopped]
  exact nofun

end Locking

end IxWebsocket
