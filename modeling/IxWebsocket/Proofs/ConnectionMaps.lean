import IxWebsocket.Refs
import IxWebsocket.Lib.Runs

/-!
# The two maps of the connections

Whatever is registered, and as often, the map from connections to ids says nothing that the map
from ids does not say (`Linked`). As long as a connection is not registered twice, the two are
inverse to each other (`Inverse`), and each call changes one pair.
-/

namespace IxWebsocket

namespace ServerRef

variable {r : ServerRef} {p q : Conn} {i j : ℤ}

/-! ## Any registrations -/

/-- What the reverse map says, the map of the ids says too. -/
structure Linked (r : ServerRef) : Prop where
  pos : ∀ {i : ℤ} {p : Conn}, r.clients[i]? = some p → 1 ≤ i
  back : ∀ {p : Conn} {i : ℤ}, r.clientsReverse[p]? = some i → r.clients[i]? = some p

theorem Linked.register (hr : r.Linked) (p : Conn) : (r.registerClient p).1.Linked where
  pos h := by
    rcases Maps.getElem?_insertIfNew_some h with ⟨rfl, -, -⟩ | h
    · exact Maps.leastFree_pos _
    · exact hr.pos h
  back {q i} h := by
    rcases Maps.getElem?_insertIfNew_some h with ⟨rfl, -, rfl⟩ | h
    · exact Maps.getElem?_insertIfNew_self (Maps.leastFree_notMem _)
    · exact Maps.getElem?_insertIfNew_of_some (hr.back h)

theorem Linked.unregister (hr : r.Linked) (p : Conn) : (r.unregisterClient p).1.Linked := by
  unfold unregisterClient
  split
  · exact hr
  · rename_i i hi
    refine ⟨fun h => hr.pos (Maps.getElem?_erase_some h).2, fun {q j} h => ?_⟩
    obtain ⟨hne, hq⟩ := Maps.getElem?_erase_some h
    refine (Maps.getElem?_erase_of_ne fun hij => hne ?_).trans (hr.back hq)
    -- both connections would stand under the id that goes
    subst hij
    have := hr.back hi
    rw [hr.back hq, Option.some.injEq] at this
    exact this.symm

/-- The id that is found for a connection leads back to it. -/
theorem Linked.findClient (hr : r.Linked) (hj : 1 ≤ r.findClient p) :
    r.getClient (r.findClient p) = some p := by
  unfold ServerRef.findClient at hj ⊢
  split at hj
  · omega
  · rename_i i hi
    split_ifs at hj ⊢
    · exact hr.back hi
    · omega

/-! ## One registration at a time -/

structure Inverse (r : ServerRef) : Prop where
  pos : ∀ {i : ℤ} {p : Conn}, r.clients[i]? = some p → 1 ≤ i
  iff : ∀ {p : Conn} {i : ℤ}, r.clientsReverse[p]? = some i ↔ r.clients[i]? = some p

theorem Inverse.linked (hr : r.Inverse) : r.Linked := ⟨hr.pos, hr.iff.1⟩

theorem Inverse.inj (hr : r.Inverse) (hi : r.clients[i]? = some p) (hj : r.clients[j]? = some p) :
    i = j := by
  have h := (hr.iff.2 hi).symm.trans (hr.iff.2 hj)
  exact Option.some.inj h

theorem registerClient_clients (r : ServerRef) (p : Conn) (j : ℤ) :
    (r.registerClient p).1.clients[j]?
      = if j = (r.registerClient p).2 then some p else r.clients[j]? := by
  split_ifs with hj
  · subst hj
    exact Maps.getElem?_insertIfNew_self (Maps.leastFree_notMem _)
  · exact Maps.getElem?_insertIfNew_of_ne (Ne.symm hj)

theorem unregisterClient_clients (hi : r.clientsReverse[p]? = some i) (j : ℤ) :
    (r.unregisterClient p).2 = i
      ∧ (r.unregisterClient p).1.clients[j]? = if j = i then none else r.clients[j]? := by
  simp only [unregisterClient, hi, true_and]
  split_ifs with hj
  · subst hj
    exact Std.TreeMap.getElem?_erase_self
  · exact Maps.getElem?_erase_of_ne (Ne.symm hj)

theorem Inverse.register (hr : r.Inverse) (hp : ∀ i : ℤ, r.clients[i]? ≠ some p) :
    (r.registerClient p).1.Inverse where
  pos {i q} h := by
    rw [registerClient_clients] at h
    split_ifs at h with hi
    · rw [hi]
      exact Maps.leastFree_pos _
    · exact hr.pos h
  iff {q i} := by
    have hfree : r.clients[(r.registerClient p).2]? = none :=
      Std.TreeMap.getElem?_eq_none (Maps.leastFree_notMem _)
    have hnew : p ∉ r.clientsReverse := by
      intro hmem
      obtain ⟨i, hi⟩ := Option.isSome_iff_exists.1 (Std.TreeMap.isSome_getElem?_iff_mem.2 hmem)
      exact hp i (hr.iff.1 hi)
    rw [registerClient_clients]
    by_cases hq : p = q
    · subst hq
      rw [show (r.registerClient p).1.clientsReverse[p]? = some (r.registerClient p).2 from
        Maps.getElem?_insertIfNew_self hnew]
      split_ifs with hi
      · simp [hi]
      · simp only [Option.some.injEq]
        exact ⟨fun h => absurd h.symm hi, fun h => absurd h (hp i)⟩
    · rw [show (r.registerClient p).1.clientsReverse[q]? = r.clientsReverse[q]? from
        Maps.getElem?_insertIfNew_of_ne hq, hr.iff]
      split_ifs with hi
      · subst hi
        rw [hfree]
        simp [hq]
      · exact Iff.rfl

theorem Inverse.unregister (hr : r.Inverse) (p : Conn) : (r.unregisterClient p).1.Inverse := by
  rcases hp : r.clientsReverse[p]? with _ | i
  · have heq : (r.unregisterClient p).1 = r := by simp [unregisterClient, hp]
    rwa [heq]
  · have hi := hr.iff.1 hp
    have hclients := fun j => (unregisterClient_clients hp j).2
    refine ⟨fun {j q} h => ?_, fun {q j} => ?_⟩
    · rw [hclients] at h
      split_ifs at h
      exact hr.pos h
    · have hreverse : (r.unregisterClient p).1.clientsReverse = r.clientsReverse.erase p := by
        simp [unregisterClient, hp]
      rw [hclients, hreverse]
      by_cases hq : p = q
      · subst hq
        rw [Std.TreeMap.getElem?_erase_self]
        split_ifs with hj
        · simp
        · exact ⟨nofun, fun h => absurd (hr.inj h hi) hj⟩
      · rw [Maps.getElem?_erase_of_ne hq, hr.iff]
        split_ifs with hj
        · subst hj
          rw [hi]
          simp [hq]
        · exact Iff.rfl

/-! ## Sequences of calls -/

inductive Call
  | register (p : Conn)
  | unregister (p : Conn)

def call (r : ServerRef) : Call → Option ServerRef
  | .register p => some (r.registerClient p).1
  | .unregister p => some (r.unregisterClient p).1

/-- A connection is not registered while it is registered. -/
def Fresh (r : ServerRef) (c : Call) : Prop := ∀ p, c = .register p → p ∉ r.clientsReverse

/-- What `registerClient p` does to `r` when it answers `i`. -/
structure Registers (r r' : ServerRef) (p : Conn) (i : ℤ) : Prop where
  id : Maps.IsLeastFree r.clients i
  registered : r'.clientsReverse[p]? = some i
  others : ∀ q, q ≠ p → r'.clientsReverse[q]? = r.clientsReverse[q]?

/-- What `unregisterClient p` does to `r` when it answers `i`. -/
structure Unregisters (r r' : ServerRef) (p : Conn) (i : ℤ) : Prop where
  id : ∀ j, r.clientsReverse[p]? = some j → i = j
  zero : i = 0 ↔ p ∉ r.clientsReverse
  gone : p ∉ r'.clientsReverse ∧ ∀ j : ℤ, r'.clients[j]? ≠ some p
  freed : i ∉ r'.clients ∧ ∀ q : Conn, r'.clientsReverse[q]? ≠ some i
  others : ∀ q, q ≠ p → r'.clientsReverse[q]? = r.clientsReverse[q]?

theorem Inverse.create (H : Host) (obj : ℕ) (params : Option PAObject) :
    (create H obj params).Inverse :=
  ⟨fun h => by simp [ServerRef.create, setParams] at h, by simp [ServerRef.create, setParams]⟩

theorem Inverse.notMem_reverse (hr : r.Inverse) (hp : p ∉ r.clientsReverse) (i : ℤ) :
    r.clients[i]? ≠ some p := by
  intro hi
  have hsome := hr.iff.2 hi
  rw [Std.TreeMap.getElem?_eq_none hp] at hsome
  cases hsome

theorem Inverse.notMem_zero (hr : r.Inverse) : (0 : ℤ) ∉ r.clients := by
  intro hmem
  obtain ⟨p, hp⟩ := Option.isSome_iff_exists.1 (Std.TreeMap.isSome_getElem?_iff_mem.2 hmem)
  have := hr.pos hp
  omega

theorem Inverse.call (hr : r.Inverse) {c : Call} (hc : Fresh r c) {r' : ServerRef}
    (h : r.call c = some r') : r'.Inverse := by
  cases c with
  | register p =>
    obtain rfl := Option.some.inj h
    exact hr.register (hr.notMem_reverse (hc p rfl))
  | unregister p =>
    obtain rfl := Option.some.inj h
    exact hr.unregister p

theorem registerClient_reverse (hp : p ∉ r.clientsReverse) :
    Registers r (r.registerClient p).1 p (r.registerClient p).2 where
  id := Maps.isLeastFree r.clients
  registered := Maps.getElem?_insertIfNew_self hp
  others _ hq := Maps.getElem?_insertIfNew_of_ne hq.symm

theorem Inverse.unregisters (hr : r.Inverse) (p : Conn) :
    Unregisters r (r.unregisterClient p).1 p (r.unregisterClient p).2 := by
  have hr' := hr.unregister p
  rcases hp : r.clientsReverse[p]? with _ | i
  · have hnone : p ∉ r.clientsReverse := by
      rw [← Std.TreeMap.isSome_getElem?_iff_mem, hp]
      simp
    have heq : r.unregisterClient p = (r, 0) := by simp [unregisterClient, hp]
    rw [heq] at hr' ⊢
    refine ⟨fun j hj => ?_, ?_, ⟨hnone, hr.notMem_reverse hnone⟩, ⟨hr.notMem_zero, ?_⟩,
      fun q _ => rfl⟩
    · rw [hp] at hj
      cases hj
    · simpa using hnone
    · intro q hq
      exact absurd (hr.pos (hr.iff.1 hq)) (by omega)
  · have hmem : p ∈ r.clientsReverse := by
      rw [← Std.TreeMap.isSome_getElem?_iff_mem, hp]
      rfl
    have hi := hr.iff.1 hp
    obtain ⟨hid, hclients⟩ := unregisterClient_clients hp i
    rw [if_pos rfl] at hclients
    have hreverse : (r.unregisterClient p).1.clientsReverse = r.clientsReverse.erase p := by
      simp [unregisterClient, hp]
    have hgone : p ∉ (r.unregisterClient p).1.clientsReverse := by simp [hreverse]
    rw [hid]
    refine ⟨fun j hj => ?_, ?_, ⟨hgone, hr'.notMem_reverse hgone⟩, ⟨?_, fun q hq => ?_⟩,
      fun q hq => ?_⟩
    · rw [hp, Option.some.injEq] at hj
      exact hj
    · have := hr.pos hi
      exact ⟨fun h0 => absurd h0 (by omega), fun hn => absurd hmem hn⟩
    · rw [← Std.TreeMap.isSome_getElem?_iff_mem, hclients]
      simp
    · rw [hr'.iff, hclients] at hq
      cases hq
    · rw [hreverse]
      exact Maps.getElem?_erase_of_ne (Ne.symm hq)

/-- After any calls that never register a connection twice, the two maps are inverse to each other,
and the next call takes the least free id or gives its own back, and moves no other connection. -/
theorem calls_inverse {H : Host} {obj : ℕ} {params : Option PAObject} {cs : List Call}
    (h : Runs.Steps call Fresh (create H obj params) cs r) :
    ((∀ (i : ℤ) (p : Conn), r.clients[i]? = some p ↔ r.clientsReverse[p]? = some i)
        ∧ ∀ (i : ℤ) (p : Conn), r.clients[i]? = some p → 1 ≤ i)
      ∧ (∀ p, p ∉ r.clientsReverse →
        Registers r (r.registerClient p).1 p (r.registerClient p).2)
      ∧ ∀ p, Unregisters r (r.unregisterClient p).1 p (r.unregisterClient p).2 := by
  have hr : r.Inverse :=
    h.invariant (fun _ _ _ hok hstep hs => hs.call hok hstep) (.create H obj params)
  exact ⟨⟨fun _ _ => hr.iff.symm, fun _ _ => hr.pos⟩, fun p hp => registerClient_reverse hp,
    hr.unregisters⟩

/-- Two connections are registered, and the first goes: its id is the next to be handed out. -/
def firstGone : ServerRef :=
  (Runs.exec call (create .plain 0 none) [.register 7, .register 8, .unregister 7]).getD
    (create .plain 0 none)

theorem firstGone_registers :
    Registers firstGone (firstGone.registerClient 9).1 9 1 := by
  have hrun : Runs.Steps call Fresh (create .plain 0 none)
      [.register 7, .register 8, .unregister 7] firstGone := by
    refine .cons ?_ rfl (.cons ?_ rfl (.cons nofun rfl (.nil _)))
    · rintro p ⟨⟩
      decide +kernel
    · rintro p ⟨⟩
      decide +kernel
  exact (calls_inverse hrun).2.1 9 (by decide +kernel)

end ServerRef

end IxWebsocket
