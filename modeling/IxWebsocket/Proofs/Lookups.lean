import IxWebsocket.Lookups
import IxWebsocket.Proofs.Registries

/-!
# Lookups that yield a destroyed ref

An entry whose ref is destroyed is exactly one between its `delete` and its removal: the id at which
a `clear` is about to erase, and the ids that a `clearAll` has gone past (`Inv.between`). So a
lookup yields a destroyed ref exactly when it comes in between (`lookups_live_iff`).
-/

namespace IxWebsocket

namespace Lookups

variable {registry : Registry} {s t : State} {i : ℤ} {obj : ℕ}

/-- The lookup gives null or a ref whose destructor has not returned. -/
def Live (s : State) : Act → Prop
  | .lookup i => ∀ obj, s.ref i = some obj → obj ∉ s.destroyed
  | _ => True

/-- The ref under `i` is deleted, and its entry is still there. -/
def State.Between (s : State) (i : ℤ) : Prop :=
  match s.mutex with
  | some (.erase j) => i = j
  | some (.deleteAll n) => i ∈ (s.list.toList.take n).map (·.1)
  | _ => False

/-- The lookup does not come between the `delete` of its id and the removal of the entry. -/
def Outside (s : State) : Act → Prop
  | .lookup i => ¬ s.Between i
  | _ => True

structure Inv (s : State) : Prop where
  fresh : ∀ {i : ℤ} {obj}, s.list[i]? = some obj → obj < s.objects
  destroyed : ∀ obj ∈ s.destroyed, obj < s.objects
  inj : ∀ {i j : ℤ} {obj}, s.list[i]? = some obj → s.list[j]? = some obj → i = j
  deleting : ∀ {i : ℤ} {obj}, s.mutex = some (.delete i obj) → s.list[i]? = some obj
  erasing : ∀ {i : ℤ}, s.mutex = some (.erase i) → ∃ obj, s.list[i]? = some obj
  between : ∀ {i : ℤ} {obj}, s.list[i]? = some obj → (obj ∈ s.destroyed ↔ s.Between i)

theorem not_between_of_none (hmutex : s.mutex = none) : ¬ s.Between i := by
  simp [State.Between, hmutex]

theorem not_between_of_delete {j : ℤ} (hmutex : s.mutex = some (.delete j obj)) :
    ¬ s.Between i := by
  simp [State.Between, hmutex]

theorem between_of_erase {j : ℤ} (hmutex : s.mutex = some (.erase j)) :
    s.Between i ↔ i = j := by
  simp [State.Between, hmutex]

theorem between_of_deleteAll {n : ℕ} (hmutex : s.mutex = some (.deleteAll n)) :
    s.Between i ↔ i ∈ (s.list.toList.take n).map (·.1) := by
  simp [State.Between, hmutex]

/-! ## The statements -/

theorem inv_init : Inv {} where
  fresh h := by simp at h
  destroyed _ h := by simp at h
  inj h := by simp at h
  deleting h := by simp at h
  erasing h := by simp at h
  between h := by simp at h

theorem Inv.live_of_none (hs : Inv s) (hmutex : s.mutex = none) (hi : s.list[i]? = some obj) :
    obj ∉ s.destroyed := mt (hs.between hi).1 (not_between_of_none hmutex)

theorem inv_construct (hs : Inv s) (hmutex : s.mutex = none) :
    Inv { s with
      list := s.list.insertIfNew (registry.newId s.list) s.objects
      objects := s.objects + 1 } where
  fresh h := by
    rcases Maps.getElem?_insertIfNew_some h with ⟨-, -, rfl⟩ | h
    · exact Nat.lt_succ_self _
    · exact (hs.fresh h).trans (Nat.lt_succ_self _)
  destroyed obj h := (hs.destroyed obj h).trans (Nat.lt_succ_self _)
  inj hi hj := by
    rcases Maps.getElem?_insertIfNew_some hi with ⟨rfl, -, rfl⟩ | hi <;>
      rcases Maps.getElem?_insertIfNew_some hj with ⟨rfl, -, hobj⟩ | hj
    · rfl
    · exact absurd (hs.fresh hj) (lt_irrefl _)
    · exact absurd (hs.fresh hi) (hobj ▸ lt_irrefl _)
    · exact hs.inj hi hj
  deleting h := by simp [hmutex] at h
  erasing h := by simp [hmutex] at h
  between h := by
    refine iff_of_false ?_ (not_between_of_none hmutex)
    rcases Maps.getElem?_insertIfNew_some h with ⟨-, -, rfl⟩ | h
    · exact fun hd => (hs.destroyed _ hd).false
    · exact hs.live_of_none hmutex h

theorem inv_clear (hs : Inv s) (hmutex : s.mutex = none) :
    Inv { s with mutex := s.list[i]?.map (.delete i) } where
  fresh := hs.fresh
  destroyed := hs.destroyed
  inj := hs.inj
  deleting h := by
    obtain ⟨obj, hi, heq⟩ := Option.map_eq_some_iff.1 h
    cases heq
    exact hi
  erasing h := by simp at h
  between h := by
    refine iff_of_false (hs.live_of_none hmutex h) ?_
    rcases hi : s.list[i]? with _ | obj
    · exact not_between_of_none rfl
    · exact not_between_of_delete rfl

theorem inv_clearAll (hs : Inv s) (hmutex : s.mutex = none) :
    Inv { s with mutex := some (.deleteAll 0) } where
  fresh := hs.fresh
  destroyed := hs.destroyed
  inj := hs.inj
  deleting h := by simp at h
  erasing h := by simp at h
  between h := iff_of_false (hs.live_of_none hmutex h) (by simp [between_of_deleteAll])

theorem inv_delete (hs : Inv s) (hmutex : s.mutex = some (.delete i obj)) :
    Inv { s with destroyed := insert obj s.destroyed, mutex := some (.erase i) } where
  fresh := hs.fresh
  destroyed o h := by
    rcases Finset.mem_insert.1 h with rfl | h
    · exact hs.fresh (hs.deleting hmutex)
    · exact hs.destroyed o h
  inj := hs.inj
  deleting h := by simp at h
  erasing h := by
    cases h
    exact ⟨obj, hs.deleting hmutex⟩
  between {j o} h := by
    have hi := hs.deleting hmutex
    have hlive : o ∉ s.destroyed := mt (hs.between h).1 (not_between_of_delete hmutex)
    rw [between_of_erase rfl, Finset.mem_insert, or_iff_left hlive]
    constructor
    · rintro rfl
      exact hs.inj h hi
    · rintro rfl
      exact Option.some.inj (h.symm.trans hi)

theorem inv_erase (hs : Inv s) (hmutex : s.mutex = some (.erase i)) :
    Inv { s with list := s.list.erase i, mutex := none } where
  fresh h := hs.fresh (Maps.getElem?_erase_some h).2
  destroyed := hs.destroyed
  inj hi hj := hs.inj (Maps.getElem?_erase_some hi).2 (Maps.getElem?_erase_some hj).2
  deleting h := by simp at h
  erasing h := by simp at h
  between h := by
    obtain ⟨hne, h⟩ := Maps.getElem?_erase_some h
    refine iff_of_false ?_ (not_between_of_none rfl)
    rw [hs.between h, between_of_erase hmutex]
    exact hne.symm

theorem inv_deleteAll {n : ℕ} {it : ℤ × ℕ} (hs : Inv s) (hmutex : s.mutex = some (.deleteAll n))
    (hit : s.list.toList[n]? = some it) :
    Inv { s with destroyed := insert it.2 s.destroyed, mutex := some (.deleteAll (n + 1)) } := by
  have hi : s.list[it.1]? = some it.2 :=
    Std.TreeMap.mem_toList_iff_getElem?_eq_some.1 (List.mem_of_getElem? hit)
  refine ⟨hs.fresh, fun o h => ?_, hs.inj, by simp, by simp, fun {j o} h => ?_⟩
  · rcases Finset.mem_insert.1 h with rfl | h
    · exact hs.fresh hi
    · exact hs.destroyed o h
  · -- the iterator has gone past one place more, and the ref there is the one deleted
    have hobj : o = it.2 ↔ j = it.1 := by
      constructor
      · rintro rfl
        exact hs.inj h hi
      · rintro rfl
        exact Option.some.inj (h.symm.trans hi)
    rw [Finset.mem_insert, hs.between h, between_of_deleteAll hmutex, between_of_deleteAll rfl,
      List.take_add_one, hit, hobj]
    simp [or_comm]

theorem inv_listClear (hs : Inv s) : Inv { s with list := ∅, mutex := none } where
  fresh h := by simp at h
  destroyed := hs.destroyed
  inj h := by simp at h
  deleting h := by simp at h
  erasing h := by simp at h
  between h := by simp at h

theorem inv_step {a : Act} (h : step registry s a = some t) (hs : Inv s) : Inv t := by
  cases a with
  | construct =>
    simp only [step] at h
    split at h <;> cases h
    exact inv_construct hs ‹_›
  | clear i =>
    simp only [step] at h
    split at h <;> cases h
    exact inv_clear hs ‹_›
  | clearAll =>
    simp only [step] at h
    split at h <;> cases h
    exact inv_clearAll hs ‹_›
  | next =>
    simp only [step, nextStep] at h
    split at h
    · cases h
    · cases h
      exact inv_delete hs ‹_›
    · cases h
      exact inv_erase hs ‹_›
    · split at h <;> cases h
      · exact inv_deleteAll hs ‹_› ‹_›
      · exact inv_listClear hs
  | lookup i =>
    cases h
    exact hs

/-! ## The lookups -/

/-- What is in between has an entry. -/
theorem Inv.entry (hs : Inv s) (h : s.Between i) : ∃ obj, s.list[i]? = some obj := by
  unfold State.Between at h
  split at h
  · exact h ▸ hs.erasing ‹_›
  · obtain ⟨it, hit, rfl⟩ := List.mem_map.1 h
    exact ⟨it.2, Std.TreeMap.mem_toList_iff_getElem?_eq_some.1 (List.mem_of_mem_take hit)⟩
  · exact h.elim

theorem Inv.live_iff (hs : Inv s) : ∀ a, Live s a ↔ Outside s a
  | .lookup i => by
    constructor
    · intro hlive hbetween
      obtain ⟨obj, hi⟩ := hs.entry hbetween
      exact hlive obj hi ((hs.between hi).2 hbetween)
    · intro houtside obj hi
      exact mt (hs.between hi).1 houtside
  | .construct | .clear _ | .clearAll | .next => Iff.rfl

/-- The lookups of a run yield no ref whose destructor has returned exactly when none of them comes
between the `delete` of its id and the removal of the entry. -/
theorem lookups_live_iff (registry : Registry) (as : List Act) (s : State) :
    Runs.Steps (step registry) Live {} as s ↔ Runs.Steps (step registry) Outside {} as s := by
  constructor <;> intro h
  · exact h.mono_of_invariant (fun _ _ _ => inv_step) (fun _ a hs => (hs.live_iff a).1) inv_init
  · exact h.mono_of_invariant (fun _ _ _ => inv_step) (fun _ a hs => (hs.live_iff a).2) inv_init

/-- A client whose destructor has returned in `clear`, and that is still in the registry. -/
def notErased : State :=
  (Runs.exec (step .client) {} [.construct, .clear 1, .next]).getD {}

theorem notErased_looked_up :
    Runs.Reachable (step .client) {} notErased
      ∧ ∃ obj, notErased.ref 1 = some obj ∧ obj ∈ notErased.destroyed :=
  ⟨Runs.reachable_of_exec [.construct, .clear 1, .next] rfl, 0, rfl, Finset.mem_insert_self 0 ∅⟩

/-! ## A section alone -/

/-- Nobody holds the mutex, and the ids in the registry are those of `list`. -/
structure State.Shows {β : Type*} (s : State) (list : Std.TreeMap ℤ β) : Prop where
  mutex : s.mutex = none
  mem : ∀ i, i ∈ s.list ↔ i ∈ list

variable (registry) in
theorem construct_alone {β : Type*} {list : Std.TreeMap ℤ β} (hs : s.Shows list) (b : β) :
    ∃ t, step registry s .construct = some t
      ∧ t.Shows (list.insertIfNew (registry.newId list) b) := by
  have hid : registry.newId s.list = registry.newId list := by
    cases registry with
    | client => exact Maps.leastFree_congr hs.mem
    | server => exact Maps.greatestFree_congr hs.mem
  refine ⟨{ s with
    list := s.list.insertIfNew (registry.newId s.list) s.objects
    objects := s.objects + 1 }, ?_, hs.mutex, fun i => ?_⟩
  · unfold step
    rw [hs.mutex]
  · rw [hid, Std.TreeMap.mem_insertIfNew, Std.TreeMap.mem_insertIfNew, hs.mem i]

variable (registry) in
theorem step_clear (hmutex : s.mutex = none) (i : ℤ) :
    step registry s (.clear i) = some { s with mutex := s.list[i]?.map (.delete i) } := by
  unfold step
  rw [hmutex]

variable (registry) in
theorem clear_alone {β : Type*} {list : Std.TreeMap ℤ β} (hs : s.Shows list) (i : ℤ) :
    ∃ n t, Runs.Run (step registry) s (.clear i :: List.replicate n .next) t
      ∧ t.Shows (list.erase i) := by
  have hclear := step_clear registry hs.mutex i
  rcases hi : s.list[i]? with _ | obj <;> rw [hi] at hclear
  · refine ⟨0, _, .single trivial hclear, rfl, fun j => ?_⟩
    rw [Maps.mem_erase_iff, ← hs.mem j, iff_and_self]
    rintro hj rfl
    rw [← Std.TreeMap.isSome_getElem?_iff_mem, hi] at hj
    cases hj
  · refine ⟨2, _, .cons trivial hclear (.cons trivial rfl (.single trivial rfl)), rfl, fun j => ?_⟩
    rw [Maps.mem_erase_iff, Maps.mem_erase_iff, hs.mem j]

/-- The loop of `clearAll` from its `n`-th place on. -/
theorem deleteAll_run : ∀ (k : ℕ) {n : ℕ} {s : State}, s.mutex = some (.deleteAll n) →
    s.list.toList.length = n + k →
      ∃ t, Runs.Run (step registry) s (List.replicate (k + 1) .next) t ∧ t.mutex = none
        ∧ t.list = ∅
  | 0, n, s, hmutex, hlen => by
    have hnone : s.list.toList[n]? = none := List.getElem?_eq_none hlen.le
    have hnext : step registry s .next = some { s with list := ∅, mutex := none } := by
      simp only [step, nextStep, hmutex, hnone]
    exact ⟨_, .single trivial hnext, rfl, rfl⟩
  | k + 1, n, s, hmutex, hlen => by
    have hlt : n < s.list.toList.length := by omega
    obtain ⟨it, hit⟩ : ∃ it, s.list.toList[n]? = some it := ⟨_, List.getElem?_eq_getElem hlt⟩
    have hnext : step registry s .next = some { s with
        destroyed := insert it.2 s.destroyed, mutex := some (.deleteAll (n + 1)) } := by
      simp only [step, nextStep, hmutex, hit]
    have hlen' : s.list.toList.length = n + 1 + k := by omega
    obtain ⟨t, hrun, ht⟩ := deleteAll_run k (s := { s with
      destroyed := insert it.2 s.destroyed, mutex := some (.deleteAll (n + 1)) }) rfl hlen'
    exact ⟨t, .cons trivial hnext hrun, ht⟩

variable (registry) in
theorem clearAll_alone (hmutex : s.mutex = none) :
    ∃ n t, Runs.Run (step registry) s (.clearAll :: List.replicate n .next) t
      ∧ t.mutex = none ∧ t.list = ∅ := by
  have hclearAll : step registry s .clearAll = some { s with mutex := some (.deleteAll 0) } := by
    unfold step
    rw [hmutex]
  obtain ⟨t, hrun, ht⟩ := deleteAll_run s.list.toList.length
    (n := 0) (s := { s with mutex := some (.deleteAll 0) }) rfl (Nat.zero_add _).symm
  exact ⟨_, t, .cons trivial hclearAll hrun, ht⟩

theorem mem_cleared {β : Type*} {list list' : Std.TreeMap ℤ β} (hgone : list'[i]? = none)
    (hsame : ∀ j, i ≠ j → list'[j]? = list[j]?) (j : ℤ) : j ∈ list.erase i ↔ j ∈ list' := by
  rw [Maps.mem_erase_iff, ← Std.TreeMap.isSome_getElem?_iff_mem,
    ← Std.TreeMap.isSome_getElem?_iff_mem]
  rcases eq_or_ne i j with rfl | hne
  · simp [hgone]
  · simp [hne, hsame j hne]

/-- Statement by statement and undisturbed, the sections leave the ids that they leave as one
step. -/
theorem client_sections_alone {H : Host} {u : Plugin} (hs : s.Shows u.clientList) :
    (∀ params, ∃ t, step .client s .construct = some t
        ∧ t.Shows (ClientRef.construct H u params).1.clientList)
      ∧ (∀ param fired, ∃ n t,
        Runs.Run (step .client) s (.clear (refParam H param) :: List.replicate n .next) t
          ∧ t.Shows (runCommand H u param (.clientClear fired)).1.clientList)
      ∧ ∀ fired, ∃ n t, Runs.Run (step .client) s (.clearAll :: List.replicate n .next) t
        ∧ t.Shows (ClientRef.clearAll H u fired).clientList := by
  refine ⟨fun params => construct_alone _ hs _, fun param fired => ?_, fun fired => ?_⟩
  · obtain ⟨n, t, hrun, ht⟩ := clear_alone _ hs (refParam H param)
    have hgone := clear_gone (H := H) (s := u) (c := .clientClear fired) rfl param
    have hsame := (runCommand_step (H := H) u param (.clientClear fired)).sameBut
    refine ⟨n, t, hrun, ht.mutex, fun i => (ht.mem i).trans (mem_cleared ?_ (fun j hj => ?_) i)⟩
    · exact Option.map_eq_none_iff.1 hgone
    · exact hsame.client j fun h => hj (Place.client.inj h)
  · obtain ⟨n, t, hrun, hmutex, hlist⟩ := clearAll_alone _ hs.mutex
    refine ⟨n, t, hrun, hmutex, fun i => ?_⟩
    rw [hlist]
    simp [ClientRef.clearAll]

theorem server_sections_alone {H : Host} {u : Plugin} (hs : s.Shows u.serverList) :
    (∀ params, ∃ t, step .server s .construct = some t
        ∧ t.Shows (ServerRef.construct H u params).1.serverList)
      ∧ (∀ param fired, ∃ n t,
        Runs.Run (step .server) s (.clear (refParam H param) :: List.replicate n .next) t
          ∧ t.Shows (runCommand H u param (.serverClear fired)).1.serverList)
      ∧ ∀ fired, ∃ n t, Runs.Run (step .server) s (.clearAll :: List.replicate n .next) t
        ∧ t.Shows (ServerRef.clearAll H u fired).serverList := by
  refine ⟨fun params => construct_alone _ hs _, fun param fired => ?_, fun fired => ?_⟩
  · obtain ⟨n, t, hrun, ht⟩ := clear_alone _ hs (refParam H param)
    have hgone := clear_gone (H := H) (s := u) (c := .serverClear fired) rfl param
    have hsame := (runCommand_step (H := H) u param (.serverClear fired)).sameBut
    refine ⟨n, t, hrun, ht.mutex, fun i => (ht.mem i).trans (mem_cleared ?_ (fun j hj => ?_) i)⟩
    · exact Option.map_eq_none_iff.1 hgone
    · exact hsame.server j fun h => hj (Place.server.inj h)
  · obtain ⟨n, t, hrun, hmutex, hlist⟩ := clearAll_alone _ hs.mutex
    refine ⟨n, t, hrun, hmutex, fun i => ?_⟩
    rw [hlist]
    simp [ServerRef.clearAll]

end Lookups

end IxWebsocket
