import IxWebsocket.Registration

/-!
# Two connections with one id

The map keeps the entry it has when a second connection is inserted under its id, so the second
handler goes on with an id that leads to the first connection. While every `insert` finds its id as
free as the `find` before it did, a connection owns the entry under its id, from the insertion to
its own erasure (`Inv`).
-/

namespace IxWebsocket

namespace Registration

variable {s t : State} {p q : Conn} {i : ℤ} {phase : Phase} {a : Act} {as : List Act}

/-- A handler about to insert under an id finds the id still free. -/
def InsertsFree (s : State) : Act → Prop
  | .next p => match s.phase p with
    | .insert i => i ∉ s.clients
    | _ => True
  | _ => True

/-- What the maps hold of `p` while its thread is at a statement. -/
def State.Place (s : State) (p : Conn) : Phase → Prop
  | .before | .probe _ | .insert _ | .after => s.clientsReverse[p]? = none
  | .insertReverse i | .find i | .erase i =>
    s.clientsReverse[p]? = none ∧ s.clients[i]? = some p
  | .registered i | .eraseReverse i => s.clientsReverse[p]? = some i ∧ s.clients[i]? = some p
  | .findReverse => ∃ i, s.clientsReverse[p]? = some i ∧ s.clients[i]? = some p

def Inv (s : State) : Prop := ∀ p, s.Place p (s.phase p)

/-- Nothing that `p` has in the maps is lost from `s` to `t`. -/
structure Keeps (s t : State) (p : Conn) : Prop where
  clients : ∀ {i : ℤ}, s.clients[i]? = some p → t.clients[i]? = some p
  reverse : t.clientsReverse[p]? = s.clientsReverse[p]?

theorem Keeps.refl (s : State) (p : Conn) : Keeps s s p := ⟨id, rfl⟩

theorem Keeps.place (h : Keeps s t p) : ∀ {phase : Phase}, s.Place p phase → t.Place p phase
  | .before, hp | .probe _, hp | .insert _, hp | .after, hp => h.reverse.trans hp
  | .insertReverse _, hp | .find _, hp | .erase _, hp | .registered _, hp | .eraseReverse _, hp =>
    ⟨h.reverse.trans hp.1, h.clients hp.2⟩
  | .findReverse, ⟨i, hp⟩ => ⟨i, h.reverse.trans hp.1, h.clients hp.2⟩

theorem goTo_phase : (s.goTo p phase).phase p = phase := Function.update_self ..

theorem goTo_phase_of_ne (hq : q ≠ p) : (s.goTo p phase).phase q = s.phase q :=
  Function.update_of_ne hq ..

/-- A thread does not move another. -/
theorem step_phase (h : step s a = some t) (hq : q ≠ a.conn) : t.phase q = s.phase q := by
  cases a <;> simp only [step, nextStep] at h <;> split at h <;> cases h <;>
    exact goTo_phase_of_ne hq

theorem run_phase (h : Runs.Run step s as t) (hq : ∀ a ∈ as, q ≠ a.conn) :
    t.phase q = s.phase q := by
  induction h with
  | nil => rfl
  | cons _ hstep _ ih =>
    rw [ih fun a ha => hq a (List.mem_cons_of_mem _ ha)]
    exact step_phase hstep (hq _ List.mem_cons_self)

/-! ## A handler alone -/

theorem goTo_goTo (phase phase' : Phase) : (s.goTo p phase).goTo p phase' = s.goTo p phase' := by
  simp [State.goTo]

/-- The probes of one thread end at the least id that is free. -/
theorem probe_run : ∀ (n : ℕ) {s : State} {i : ℤ}, s.phase p = .probe i → 1 ≤ i →
    Maps.leastFree s.clients = i + n →
      Runs.Run step s (List.replicate (n + 1) (.next p))
        (s.goTo p (.insert (Maps.leastFree s.clients)))
  | 0, s, i, hp, _, hfree => by
    rw [Int.natCast_zero, add_zero] at hfree
    have hi : i ∉ s.clients := hfree ▸ Maps.leastFree_notMem s.clients
    exact .single trivial (by simp [step, nextStep, hp, hi, hfree])
  | n + 1, s, i, hp, hpos, hfree => by
    have hi : i ∈ s.clients := by
      by_contra hi
      have := Maps.leastFree_le s.clients hpos hi
      omega
    have hphase : (s.goTo p (.probe (i + 1))).phase p = .probe (i + 1) := goTo_phase
    have hclients : (s.goTo p (.probe (i + 1))).clients = s.clients := rfl
    have hrun := probe_run n hphase (by omega) (by rw [hclients]; omega)
    rw [goTo_goTo] at hrun
    exact .cons trivial (by simp [step, nextStep, hp, hi]) hrun

/-- The statements of a handler that nobody comes between are `registerClient`. -/
theorem register_alone (hp : s.phase p = .before) (ref : ServerRef)
    (hclients : s.clients = ref.clients) (hreverse : s.clientsReverse = ref.clientsReverse) :
    ∃ as t, Runs.Run step s as t ∧ (∀ a ∈ as, a.conn = p)
      ∧ t.clients = (ref.registerClient p).1.clients
      ∧ t.clientsReverse = (ref.registerClient p).1.clientsReverse
      ∧ t.phase p = .registered (ref.registerClient p).2 := by
  set i := Maps.leastFree s.clients with hi
  obtain ⟨n, hn⟩ := Int.le.dest (Maps.leastFree_pos s.clients)
  have hopen : step s (.open p) = some (s.goTo p (.probe 1)) := by simp [step, hp]
  have hphase : (s.goTo p (.probe 1)).phase p = .probe 1 := goTo_phase
  have hprobe := probe_run n hphase le_rfl hn.symm
  rw [goTo_goTo] at hprobe
  have hinsert : Runs.Run step (s.goTo p (.insert i)) [.next p, .next p]
      ⟨s.clients.insertIfNew i p, s.clientsReverse.insertIfNew p i,
        Function.update s.phase p (.registered i)⟩ :=
    Runs.run_of_exec (by simp [Runs.exec, step, nextStep, State.goTo])
  refine ⟨_, _, .cons trivial hopen (hprobe.append hinsert), by simp [Act.conn], ?_, ?_, ?_⟩
  · rw [hi, hclients]
    rfl
  · rw [hi, hclients, hreverse]
    rfl
  · refine (Function.update_self ..).trans ?_
    rw [hi, hclients]
    rfl

/-- And those of a close handler are `unregisterClient`. -/
theorem unregister_alone (hp : s.phase p = .registered i) (ref : ServerRef)
    (hclients : s.clients = ref.clients) (hreverse : s.clientsReverse = ref.clientsReverse) :
    ∃ as t, Runs.Run step s as t ∧ (∀ a ∈ as, a.conn = p)
      ∧ (∀ j : ℤ, t.clients[j]? = (ref.unregisterClient p).1.clients[j]?)
      ∧ t.clientsReverse = (ref.unregisterClient p).1.clientsReverse ∧ t.phase p = .after := by
  rcases hj : s.clientsReverse[p]? with _ | j
  · have hrun : Runs.Run step s [.close p, .next p] (s.goTo p .after) :=
      Runs.run_of_exec (by simp [Runs.exec, step, nextStep, State.goTo, hp, hj])
    refine ⟨_, _, hrun, by simp [Act.conn], fun k => ?_, ?_, goTo_phase⟩
    · simp [ServerRef.unregisterClient, ← hreverse, hj, State.goTo, hclients]
    · simp [ServerRef.unregisterClient, ← hreverse, hj, State.goTo]
  by_cases hin : j ∈ s.clients
  · have hrun : Runs.Run step s [.close p, .next p, .next p, .next p, .next p]
        ⟨s.clients.erase j, s.clientsReverse.erase p, Function.update s.phase p .after⟩ :=
      Runs.run_of_exec (by simp [Runs.exec, step, nextStep, State.goTo, hp, hj, hin])
    refine ⟨_, _, hrun, by simp [Act.conn], fun k => ?_, ?_, Function.update_self ..⟩
    · simp [ServerRef.unregisterClient, ← hreverse, hj, hclients]
    · simp [ServerRef.unregisterClient, ← hreverse, hj]
  · have hrun : Runs.Run step s [.close p, .next p, .next p, .next p]
        ⟨s.clients, s.clientsReverse.erase p, Function.update s.phase p .after⟩ :=
      Runs.run_of_exec (by simp [Runs.exec, step, nextStep, State.goTo, hp, hj, hin])
    refine ⟨_, _, hrun, by simp [Act.conn], fun k => ?_, ?_, Function.update_self ..⟩
    · have herase : (s.clients.erase j)[k]? = s.clients[k]? := by
        rcases eq_or_ne j k with rfl | hne
        · rw [Std.TreeMap.getElem?_erase_self, Std.TreeMap.getElem?_eq_none hin]
        · exact Maps.getElem?_erase_of_ne hne
      simp [ServerRef.unregisterClient, ← hreverse, hj, ← hclients, herase]
    · simp [ServerRef.unregisterClient, ← hreverse, hj]

/-! ## What a connection owns -/

/-- A statement of `p` that keeps what the others have. -/
theorem Inv.goTo (hs : Inv s) (t : State) (hphase : t.phase = s.phase)
    (hkeeps : ∀ q ≠ p, Keeps s t q) (hp : t.Place p phase) : Inv (t.goTo p phase) := by
  intro q
  have hgoTo : Keeps t (t.goTo p phase) q := ⟨id, rfl⟩
  rcases eq_or_ne q p with rfl | hq
  · rw [goTo_phase]
    exact hgoTo.place hp
  · rw [goTo_phase_of_ne hq, hphase]
    exact hgoTo.place ((hkeeps q hq).place (hs q))

theorem inv_nextStep (h : nextStep s p = some t)
    (hok : ∀ i, s.phase p = .insert i → i ∉ s.clients) (hs : Inv s) : Inv t := by
  have hp := hs p
  unfold nextStep at h
  split at h <;> rename_i hphase <;> rw [hphase] at hp <;> cases h
  · refine hs.goTo s rfl (fun q _ => .refl s q) ?_
    split <;> exact hp
  · rename_i i
    refine hs.goTo _ rfl (fun q _ => ⟨Maps.getElem?_insertIfNew_of_some, rfl⟩) ?_
    exact ⟨hp, Maps.getElem?_insertIfNew_self (hok i hphase)⟩
  · rename_i i
    refine hs.goTo _ rfl (fun q hq => ⟨id, Maps.getElem?_insertIfNew_of_ne hq.symm⟩) ?_
    exact ⟨Maps.getElem?_insertIfNew_self (by simpa using hp.1), hp.2⟩
  · refine hs.goTo s rfl (fun q _ => .refl s q) ?_
    obtain ⟨i, hi⟩ := hp
    rw [hi.1]
    exact hi
  · rename_i i
    refine hs.goTo _ rfl (fun q hq => ⟨id, Maps.getElem?_erase_of_ne hq.symm⟩) ?_
    exact ⟨Std.TreeMap.getElem?_erase_self, hp.2⟩
  · refine hs.goTo s rfl (fun q _ => .refl s q) ?_
    split
    · exact hp
    · exact hp.1
  · -- the entry erased is that of `p` itself
    rename_i i
    refine hs.goTo _ rfl (fun q hq => ⟨fun {k} hk => ?_, rfl⟩) hp.1
    have hne : i ≠ k := by
      rintro rfl
      exact hq (Option.some.inj (hk.symm.trans hp.2))
    exact (Maps.getElem?_erase_of_ne hne).trans hk

theorem inv_step (hok : InsertsFree s a) (h : step s a = some t) (hs : Inv s) : Inv t := by
  cases a with
  | «open» p =>
    have hp := hs p
    simp only [step] at h
    split at h <;> rename_i hphase <;> cases h
    rw [hphase] at hp
    exact hs.goTo s rfl (fun q _ => .refl s q) hp
  | close p =>
    have hp := hs p
    simp only [step] at h
    split at h <;> rename_i hphase <;> cases h
    rw [hphase] at hp
    exact hs.goTo s rfl (fun q _ => .refl s q) ⟨_, hp⟩
  | next p => exact inv_nextStep h (fun i hi => by simpa [InsertsFree, hi] using hok) hs

theorem inv_init : Inv {} := fun _ => rfl

/-- While every insertion finds its id free, the registered connections have different ids, and
each id leads to its connection. -/
theorem registered_resolve (h : Runs.Steps step InsertsFree {} as s) :
    (∀ p q i, s.phase p = .registered i → s.phase q = .registered i → p = q)
      ∧ ∀ p i, s.phase p = .registered i →
        s.clientsReverse[p]? = some i ∧ s.clients[i]? = some p := by
  have hs : Inv s := h.invariant (fun _ _ _ hok hstep => inv_step hok hstep) inv_init
  have hresolve : ∀ p i, s.phase p = .registered i →
      s.clientsReverse[p]? = some i ∧ s.clients[i]? = some p := by
    intro p i hp
    have := hs p
    rw [hp] at this
    exact this
  refine ⟨fun p q i hp hq => ?_, hresolve⟩
  exact Option.some.inj ((hresolve p i hp).2.symm.trans (hresolve q i hq).2)

/-- Two connections open one after the other. -/
def inTurn : List Act :=
  [.open 7, .next 7, .next 7, .next 7, .open 8, .next 8, .next 8, .next 8, .next 8]

def bothOpen : State := (Runs.exec step {} inTurn).getD {}

theorem bothOpen_resolve :
    bothOpen.phase 7 = .registered 1 ∧ bothOpen.clients[(1 : ℤ)]? = some 7
      ∧ bothOpen.phase 8 = .registered 2 ∧ bothOpen.clients[(2 : ℤ)]? = some 8 := by
  have hrun : Runs.Steps step InsertsFree {} inTurn bothOpen := by
    refine .cons trivial rfl (.cons trivial rfl (.cons ?_ rfl (.cons trivial rfl ?_)))
    · exact Std.TreeMap.not_mem_emptyc
    refine .cons trivial rfl (.cons trivial rfl (.cons trivial rfl (.cons ?_ rfl ?_)))
    · show (2 : ℤ) ∉ (∅ : Std.TreeMap ℤ Conn).insertIfNew 1 7
      decide +kernel
    exact .cons trivial rfl (.nil _)
  have hresolve := (registered_resolve hrun).2
  exact ⟨rfl, (hresolve 7 1 rfl).2, rfl, (hresolve 8 2 rfl).2⟩

/-- Both handlers find id 1 free before either inserts. -/
def atOnce : List Act :=
  [.open 7, .open 8, .next 7, .next 8, .next 7, .next 8, .next 7, .next 8]

def raced : State := (Runs.exec step {} atOnce).getD {}

def State.Quiet (s : State) : Prop :=
  ∀ p, s.phase p = .before ∨ (∃ i, s.phase p = .registered i) ∨ s.phase p = .after

theorem raced_one_id :
    Runs.Reachable step {} raced ∧ raced.Quiet ∧ raced.phase 7 = .registered 1
      ∧ raced.phase 8 = .registered 1 ∧ raced.clients[(1 : ℤ)]? = some 7 := by
  have hrun : Runs.Run step {} atOnce raced := Runs.run_of_exec rfl
  refine ⟨⟨atOnce, hrun⟩, fun p => ?_, rfl, rfl, rfl⟩
  rcases eq_or_ne p 7 with rfl | h7
  · exact .inr (.inl ⟨1, rfl⟩)
  rcases eq_or_ne p 8 with rfl | h8
  · exact .inr (.inl ⟨1, rfl⟩)
  · exact .inl (run_phase hrun (by simp [atOnce, Act.conn, h7, h8]))

end Registration

end IxWebsocket
