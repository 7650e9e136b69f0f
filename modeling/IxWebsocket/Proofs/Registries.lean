import IxWebsocket.Registries
import IxWebsocket.Proofs.Reuse

/-!
# What the registries hold

In every order of their sections the threads keep the keys of the two registries on their sides of
zero, every ref under its own id, and every object in one place. A creation takes the free id next
to zero, and a clear takes out the entry of its id, if there is one, and no other
(`registries_kept`).
-/

namespace IxWebsocket

variable {H : Host} {s t : Plugin}

structure Registries (s : Plugin) : Prop where
  client : ∀ (i : ℤ) (r : ClientRef), s.clientList[i]? = some r → 1 ≤ i ∧ r.id = i
  server : ∀ (i : ℤ) (r : ServerRef), s.serverList[i]? = some r → i ≤ -1 ∧ r.id = i
  once : ∀ (k k' : Place) (o : ℕ), s.objAt k = some o → s.objAt k' = some o → k = k'

/-! ## Sections -/

theorem clientClearAll_moves (fired : ℤ → List WebSocketMessage) :
    ∀ {l : List (ℤ × ClientRef)} {s : Plugin}, Inv s → (∀ e ∈ l, 1 ≤ e.1) →
      Moves s (l.foldl (fun s e => (fired e.1).foldl (clientCallback H · e.1) s) s)
  | [], s, _, _ => .refl
  | e :: l, s, hs, hl => by
    have h : Moves s ((fired e.1).foldl (clientCallback H · e.1) s) :=
      clientFired_moves hs (hl e List.mem_cons_self) (fired e.1)
    refine h.trans (clientClearAll_moves fired (h.inv hs) fun e' he' => ?_)
    exact hl e' (List.mem_cons_of_mem _ he')

theorem serverClearAll_moves (fired : ℤ → List (Conn × WebSocketMessage)) :
    ∀ {l : List (ℤ × ServerRef)} {s : Plugin}, Inv s →
      Moves s (l.foldl (fun s e => (fired e.1).foldl
        (fun s f => serverCallback H s e.1 f.1 f.2) s) s)
  | [], s, _ => .refl
  | e :: l, s, hs => by
    have h : Moves s ((fired e.1).foldl (fun s f => serverCallback H s e.1 f.1 f.2) s) :=
      serverFired_moves hs e.1 (fired e.1)
    exact h.trans (serverClearAll_moves fired (h.inv hs))

/-- A section is moves of the plugin, and at its end one registry may be emptied. -/
theorem sectionStep_moves (hs : Inv s) {a : Section} (h : sectionStep H s a = some t) :
    ∃ u, Moves s u ∧ (t = u ∨ t = { u with clientList := ∅ } ∨ t = { u with serverList := ∅ }) := by
  cases a with
  | newClient params =>
    obtain rfl := Option.some.inj h
    exact ⟨_, .single (.newClient rfl rfl), .inl rfl⟩
  | newServer params =>
    obtain rfl := Option.some.inj h
    exact ⟨_, .single (.newServer rfl rfl rfl rfl), .inl rfl⟩
  | clearAllClients fired =>
    obtain rfl := Option.some.inj h
    refine ⟨_, clientClearAll_moves fired hs fun e he => ?_, .inr (.inl rfl)⟩
    exact (hs.client (Std.TreeMap.mem_toList_iff_getElem?_eq_some.1 he)).1
  | clearAllServers fired =>
    obtain rfl := Option.some.inj h
    exact ⟨_, serverClearAll_moves fired hs, .inr (.inr rfl)⟩
  | other a => exact ⟨t, step_moves hs h, .inl rfl⟩

theorem section_inv (hs : Inv s ∧ Ledger.Inv s.ledger) {a : Section}
    (h : sectionStep H s a = some t) : Inv t ∧ Ledger.Inv t.ledger := by
  obtain ⟨u, hu, ht⟩ := sectionStep_moves hs.1 h
  have hIu := hu.inv hs.1
  have hLu := hs.2.run hu.ledger
  rcases ht with rfl | rfl | rfl
  · exact ⟨hIu, hLu⟩
  · refine ⟨⟨fun h => by simp at h, hIu.server⟩, hLu.of_holder (fun {k o} hk => ?_) rfl rfl⟩
    rcases k with i | i
    · simp [Plugin.ledger, Plugin.objAt] at hk
    · exact hk
  · refine ⟨⟨hIu.client, fun h => by simp at h⟩, hLu.of_holder (fun {k o} hk => ?_) rfl rfl⟩
    rcases k with i | i
    · exact hk
    · simp [Plugin.ledger, Plugin.objAt] at hk

theorem sections_inv (h : Runs.Reachable (sectionStep H) {} s) : Inv s ∧ Ledger.Inv s.ledger :=
  h.invariant (I := fun s => Inv s ∧ Ledger.Inv s.ledger)
    (fun _ _ _ hstep hs => section_inv hs hstep) ⟨inv_init, reachable_ledger (H := H) .refl⟩

/-! ## Creations and clears -/

theorem construct_client (s : Plugin) (params : Option PAObject) :
    let (t, ref) := ClientRef.construct H s params
    Maps.IsLeastFree s.clientList ref.id ∧ t.clientList[ref.id]? = some ref
      ∧ SameBut (.client ref.id) s t := by
  refine ⟨Maps.isLeastFree _, Maps.getElem?_insertIfNew_self (Maps.leastFree_notMem _), ?_⟩
  exact ⟨fun j hj => Maps.getElem?_insertIfNew_of_ne fun hij => hj (hij ▸ rfl), fun _ _ => rfl⟩

theorem construct_server (s : Plugin) (params : Option PAObject) :
    let (t, ref) := ServerRef.construct H s params
    Maps.IsGreatestFree s.serverList ref.id ∧ t.serverList[ref.id]? = some ref
      ∧ SameBut (.server ref.id) s t := by
  refine ⟨Maps.isGreatestFree _, Maps.getElem?_insertIfNew_self (Maps.greatestFree_notMem _), ?_⟩
  exact ⟨fun _ _ => rfl, fun j hj => Maps.getElem?_insertIfNew_of_ne fun hij => hj (hij ▸ rfl)⟩

/-- A clear leaves nothing at its place. -/
theorem clear_gone {c : Command} (hc : c.isClear = true) (param : Option PAObject) :
    (runCommand H s param c).1.objAt (c.place (refParam H param)) = none := by
  cases c <;> simp only [Command.isClear, Bool.false_eq_true] at hc
  case clientClear fired =>
    simp only [runCommand, websocketClientClear, Command.place]
    split
    · rename_i hnone
      exact Option.map_eq_none_iff.2 hnone
    · simp [Plugin.objAt]
  case serverClear fired =>
    simp only [runCommand, websocketServerClear, Command.place]
    split
    · rename_i hnone
      exact Option.map_eq_none_iff.2 hnone
    · simp [Plugin.objAt]

theorem refParam_of_not_real {param : Option PAObject}
    (h : ∀ x, obGet param "ref" ≠ some (.real x)) : refParam H param = 0 := by
  unfold refParam obGetN
  split
  · rename_i x hx
    exact absurd hx (h x)
  · exact H.toInt_intCast 0

theorem Inv.place_zero (hs : Inv s) (c : Command) : s.objAt (c.place 0) = none := by
  have hclient : s.objAt (.client 0) = none := by
    rcases h : s.clientList[(0 : ℤ)]? with _ | r
    · simp [Plugin.objAt, h]
    · have := (hs.client h).1
      omega
  have hserver : s.objAt (.server 0) = none := by simp [Plugin.objAt, hs.no_server le_rfl]
  cases c <;> first | exact hclient | exact hserver

/-- In every order of the sections the registries stay in order. A creation takes the free id next
to zero, found after at most one probe more than there are refs, and changes no other entry. A
clear with the id of a ref takes out that entry only, and with any other id nothing. -/
theorem registries_kept (h : Runs.Reachable (sectionStep H) {} s) :
    Registries s
      ∧ (∀ params, let (t, ref) := ClientRef.construct H s params
        Maps.IsLeastFree s.clientList ref.id ∧ t.clientList[ref.id]? = some ref
          ∧ SameBut (.client ref.id) s t)
      ∧ (∀ params, let (t, ref) := ServerRef.construct H s params
        Maps.IsGreatestFree s.serverList ref.id ∧ t.serverList[ref.id]? = some ref
          ∧ SameBut (.server ref.id) s t)
      ∧ ∀ c param, Command.isClear c = true →
        (runCommand H s param c).1.objAt (c.place (refParam H param)) = none
          ∧ SameBut (c.place (refParam H param)) s (runCommand H s param c).1
          ∧ (s.objAt (c.place (refParam H param)) = none → (runCommand H s param c).1 = s)
          ∧ ((∀ x, obGet param "ref" ≠ some (.real x)) → (runCommand H s param c).1 = s) := by
  obtain ⟨hs, hL⟩ := sections_inv h
  refine ⟨⟨fun _ _ hi => hs.client hi, fun i r hi => ?_, fun k k' o hk hk' => hL.inj hk hk'⟩,
    construct_client s, construct_server s, fun c param hc => ⟨clear_gone hc param,
      (runCommand_step s param c).sameBut, fun hnone => ?_, fun hreal => ?_⟩⟩
  · exact ⟨(hs.server hi).1, (hs.server hi).2.1⟩
  · rw [runCommand_of_none hnone]
  · have hzero := hs.place_zero c
    rw [← refParam_of_not_real (H := H) hreal] at hzero
    rw [runCommand_of_none hzero]

/-- Two threads have made a client each, and a third has cleared the first of them. -/
def oneLeft : Plugin :=
  (Runs.exec (sectionStep .plain) {} [.newClient none, .newClient none,
    .other (.command (.clientClear []) (some oneHandle))]).getD {}

theorem oneLeft_kept :
    Registries oneLeft ∧ oneLeft.objAt (.client 2) = some 1
      ∧ Maps.IsLeastFree oneLeft.clientList 1 := by
  have hs : Runs.Reachable (sectionStep .plain) {} oneLeft :=
    Runs.reachable_of_exec [.newClient none, .newClient none,
      .other (.command (.clientClear []) (some oneHandle))] rfl
  obtain ⟨hkept, hclient, -⟩ := registries_kept hs
  exact ⟨hkept, by decide +kernel, (hclient none).1⟩

end IxWebsocket
