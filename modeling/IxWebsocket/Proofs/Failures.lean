import IxWebsocket.Failures
import IxWebsocket.Proofs.Routing

/-!
# What an invocation leaves locked

Whatever is locked by a `lock_guard` alone is given back, wherever memory runs out. A messages query
that has got `message_list_mutex` gives it back unless memory runs out while it lists the messages.
-/

namespace IxWebsocket

namespace Failures

open Locking (Mutex)
open Guards (Allocates Balanced lock unlock)

variable {e : Env}

/-- An invocation that ends has given back all it locked. `fuse` allocations go well. -/
def Releases (x : Guards.Call Mutex Unit) (fuse : ℕ) : Prop :=
  (x.run ⟨0, fuse⟩).1 ≠ .error .terminated → (x.run ⟨0, fuse⟩).2.held = 0

theorem releases_of_balanced {x : Guards.Call Mutex Unit} (hx : Balanced x) (fuse : ℕ) :
    Releases x fuse := hx ⟨0, fuse⟩

/-! ## How many allocations -/

/-- One key is converted. -/
def Env.keyAllocs (e : Env) : ℕ :=
  match e.platform with
  | .windows => 1
  | .mac => 2

/-- `getValue` -/
def Env.valueAllocs (e : Env) (m : Message) : ℕ :=
  if e.parsed m then e.keyAllocs + e.keyAllocs else e.keyAllocs

theorem jsonWconv_allocates : Allocates (jsonWconv e).call e.keyAllocs () := by
  unfold jsonWconv Env.keyAllocs
  cases e.platform with
  | windows => exact Guards.allocates_alloc
  | mac =>
    refine Allocates.bind (n := 1) (k := 1) Guards.allocates_alloc ?_
    exact Guards.allocates_alloc

theorem getValue_allocates (m : Message) : Allocates (getValue e m).call (e.valueAllocs m) () := by
  unfold getValue Env.valueAllocs
  cases e.parsed m with
  | false => exact jsonWconv_allocates.bind (Guards.allocates_pure ())
  | true => exact jsonWconv_allocates.bind jsonWconv_allocates

theorem obGetN_allocates (obj : Option PAObject) :
    Allocates (obGetN e obj).call (if obj.isSome then e.keyAllocs else 0) () := by
  unfold obGetN
  cases obj with
  | none => exact Guards.allocates_pure ()
  | some o => exact jsonWconv_allocates

/-- The messages that a query lists. -/
def Env.listAllocs (e : Env) (select : Message → Bool) : ℕ :=
  (e.plugin.messages.map fun q => if select q.msg then e.valueAllocs q.msg else 0).sum

theorem list_allocates (select : Message → Bool) :
    Allocates (list e select) (e.listAllocs select) () := by
  refine Allocates.forM (fun q => ?_) _
  by_cases hq : select q.msg
  · rw [if_pos hq, if_pos hq]
    exact getValue_allocates q.msg
  · rw [if_neg hq, if_neg hq]
    exact Guards.allocates_pure ()

/-- The lookup of the ref. -/
def Env.lookupAllocs (e : Env) (param : Option PAObject) : ℕ :=
  if param.isSome then e.keyAllocs else 0

theorem serverPtr_allocates (param : Option PAObject) :
    Allocates (ServerRef.ptr e param).call (e.lookupAllocs param)
      (IxWebsocket.ServerRef.ptr e.host e.plugin param) := by
  refine Allocates.bind (k := 0) (obGetN_allocates param) ?_
  exact Guards.allocates_pure _

theorem clientPtr_allocates (param : Option PAObject) :
    Allocates (ClientRef.ptr e param).call (e.lookupAllocs param)
      (IxWebsocket.ClientRef.ptr e.host e.plugin param) := by
  refine Allocates.bind (k := 0) (obGetN_allocates param) ?_
  exact Guards.allocates_pure _

/-! ## Queries -/

/-- What a messages query of a live ref lists. -/
def Env.selects (e : Env) (selector : Selector) (param : Option PAObject) :
    Option (Message → Bool) :=
  match selector with
  | .command 12 =>
    (IxWebsocket.ServerRef.ptr e.host e.plugin param).map fun ref => serverSelects ref.id
  | .command 13 =>
    (IxWebsocket.ClientRef.ptr e.host e.plugin param).map fun ref => clientSelects ref.id
  | _ => none

/-- Memory runs out in a query that has got `message_list_mutex`, at an allocation that it makes to
list the messages. -/
def Env.FailsListing (e : Env) (selects : Option (Message → Bool))
    (param : Option PAObject) (fuse : ℕ) : Prop :=
  e.answered = true ∧ e.locked = true ∧ ∃ select, selects = some select
    ∧ e.lookupAllocs param ≤ fuse ∧ fuse < e.lookupAllocs param + e.listAllocs select

theorem releases_catchAll {x : Guards.Call Mutex Unit} {fuse : ℕ} :
    Releases (Guards.catchAll x) fuse ↔ Releases x fuse := by
  unfold Releases Guards.catchAll
  dsimp only
  generalize x.run ⟨0, fuse⟩ = r
  rcases r with ⟨(_ | _) | a, t⟩
  · exact ⟨fun h _ => h nofun, fun h _ => h nofun⟩
  · rfl
  · rfl

theorem releases_query {R : Type} {lookup : Call (Option R)} {param : Option PAObject}
    {r : Option R} (hlookup : Allocates lookup.call (e.lookupAllocs param) r)
    (select : R → Message → Bool) (fuse : ℕ) :
    Releases (messagesQuery e lookup select) fuse
      ↔ ¬ e.FailsListing (r.map select) param fuse := by
  have hrun := hlookup ⟨0, fuse⟩
  unfold Releases messagesQuery Env.FailsListing
  rcases hanswered : e.answered with _ | _
  · exact iff_of_true (fun _ => rfl) fun h => absurd h.1 nofun
  simp only [if_true]
  rw [Guards.run_bind, hrun]
  by_cases hn : e.lookupAllocs param ≤ fuse
  · rw [if_pos hn]
    rcases r with _ | ref
    · refine iff_of_true (fun _ => rfl) ?_
      rintro ⟨-, -, _, hr, -⟩
      cases hr
    rcases hlocked : e.locked with _ | _
    · exact iff_of_true (fun _ => rfl) fun h => absurd h.2.1 nofun
    · have hsection := (list_allocates (e := e) (select ref)).byHand_run .messageList
        ⟨0, fuse - e.lookupAllocs param⟩
      simp only [if_true, hsection]
      by_cases hlist : e.listAllocs (select ref) ≤ fuse - e.lookupAllocs param
      · rw [if_pos hlist]
        refine iff_of_true (fun _ => rfl) ?_
        rintro ⟨-, -, _, hr, -, hlt⟩
        cases hr
        omega
      · rw [if_neg hlist]
        refine iff_of_false (fun h => ?_)
          (not_not.2 ⟨trivial, trivial, select ref, rfl, hn, by omega⟩)
        have hheld : Mutex.messageList ::ₘ 0 = 0 := h nofun
        exact Multiset.cons_ne_zero hheld
  · rw [if_neg hn]
    refine iff_of_true (fun _ => rfl) ?_
    rintro ⟨-, -, _, -, hle, -⟩
    exact hn hle

/-! ## Every invocation -/

/-- Every other command locks by guards. -/
theorem pluginMain_balanced {selector : Selector} (param : Option PAObject)
    (h12 : selector ≠ .command 12) (h13 : selector ≠ .command 13) :
    Balanced (pluginMain e selector param) := by
  unfold pluginMain
  refine Balanced.catchAll ?_
  split
  all_goals first
    | exact absurd rfl h12
    | exact absurd rfl h13
    | exact Guards.balanced_pure _
    | exact Guards.Guarded.balanced _

theorem pluginMain_releases_iff (selector : Selector) (param : Option PAObject) (fuse : ℕ) :
    Releases (pluginMain e selector param) fuse
      ↔ ¬ e.FailsListing (e.selects selector param) param fuse := by
  by_cases h12 : selector = .command 12
  · rw [h12]
    exact releases_catchAll.trans (releases_query (serverPtr_allocates param) _ fuse)
  by_cases h13 : selector = .command 13
  · rw [h13]
    exact releases_catchAll.trans (releases_query (clientPtr_allocates param) _ fuse)
  · refine iff_of_true (releases_of_balanced (pluginMain_balanced param h12 h13) fuse) ?_
    rintro ⟨-, -, _, hselects, -⟩
    unfold Env.selects at hselects
    split at hselects
    · exact h12 rfl
    · exact h13 rfl
    · cases hselects

/-- An invocation that has ended holds no mutex, unless it is a messages query that has got
`message_list_mutex` and then runs out of memory while it lists the messages. -/
theorem released_iff (e : Env) (fuse : ℕ) :
    (∀ selector param, Releases (pluginMain e selector param) fuse
        ↔ ¬ e.FailsListing (e.selects selector param) param fuse)
      ∧ (∀ i p msg, Releases (serverCallback e i p msg).call fuse)
      ∧ ∀ i msg, Releases (clientCallback e i msg).call fuse := by
  refine ⟨fun selector param => pluginMain_releases_iff selector param fuse,
    fun i p msg => ?_, fun i msg => ?_⟩
  · exact releases_of_balanced (serverCallback e i p msg).balanced fuse
  · exact releases_of_balanced (clientCallback e i msg).balanced fuse

/-- One message is pending for client 1. -/
def pending : Plugin :=
  (Runs.exec (step .plain) {} [.client none, .clientEvent 1 { type := .message }]).getD {}

def pendingEnv : Env where
  platform := .mac
  host := .plain
  plugin := pending
  answered := true
  locked := true
  blob := false
  parsed _ := true
  success := false
  errorStr := []
  uri := []
  headers := default
  listening := false
  message := []
  clientFired _ _ := []
  serverFired _ _ := []

/-- Its query looks the ref up, and finds no memory for the first key of the message. -/
theorem pending_left_locked :
    Reachable .plain pending
      ∧ ¬ Releases (pluginMain pendingEnv (.command 13) (some [("ref", .real (1 : ℤ))])) 2 := by
  refine ⟨Runs.reachable_of_exec [.client none, .clientEvent 1 { type := .message }] rfl, ?_⟩
  have hrun : (pluginMain pendingEnv (.command 13) (some [("ref", .real (1 : ℤ))])).run ⟨0, 2⟩
      = (.ok (), ⟨{.messageList}, 0⟩) := rfl
  intro h
  unfold Releases at h
  rw [hrun] at h
  exact Multiset.singleton_ne_zero _ (h nofun)

end Failures

end IxWebsocket
