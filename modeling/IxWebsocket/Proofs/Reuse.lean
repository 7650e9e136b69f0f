import IxWebsocket.Proofs.Frames

/-!
# Ids that are handed out again

A handle carries the id of its ref and nothing else, and an id is free again as soon as its ref is
cleared. So a handle leads to the ref it was returned for while that ref lives, and afterwards to
a newer ref of the same kind under the same id, if there is one (`handle_resolves`). The pending
messages of a ref that is cleared stay in the list: a query for the next ref under the id shows
them too, and no others beside that ref's own (`query_own_or_inherited`).
-/

namespace IxWebsocket

variable {H : Host} {s t u : Plugin}

/-! ## What a command acts on -/

theorem clientSetParams_effects (i : ℤ) (param : Option PAObject) {e : Effect}
    (he : e ∈ (clientSetParams H s i param).2) : s.objAt (.client i) = some e.obj := by
  unfold clientSetParams ClientRef.ref at he
  split at he
  · simp at he
  · rename_i r hr
    rw [List.mem_singleton] at he
    simp [Plugin.objAt, hr, he]

theorem serverSetParams_effects (i : ℤ) (param : Option PAObject) {e : Effect}
    (he : e ∈ (serverSetParams H s i param).2) : s.objAt (.server i) = some e.obj := by
  unfold serverSetParams ServerRef.ref at he
  split at he
  · simp at he
  · rename_i r hr
    rw [List.mem_singleton] at he
    simp [Plugin.objAt, hr, he]

section Effects

variable {k : Option ℕ} {o : ℕ} {act act' : Act} {effects : List Effect} {e : Effect}

theorem start_effects (heffects : ∀ e ∈ effects, k = some e.obj) (ho : k = some o)
    {success : Bool}
    (he : e ∈ effects ++ [⟨o, act⟩] ++ if success then [⟨o, act'⟩] else []) :
    k = some e.obj := by
  simp only [List.mem_append, List.mem_singleton, List.mem_ite_nil_right] at he
  rcases he with (he | rfl) | ⟨-, rfl⟩
  · exact heffects e he
  · exact ho
  · exact ho

theorem stop_effects (heffects : ∀ e ∈ effects, k = some e.obj) (ho : k = some o)
    (he : e ∈ effects ++ effects.map (fun e => ⟨e.obj, act⟩) ++ [⟨o, act'⟩]) :
    k = some e.obj := by
  simp only [List.mem_append, List.mem_map, List.mem_singleton] at he
  rcases he with (he | ⟨e', he, rfl⟩) | rfl
  · exact heffects e he
  · exact heffects e' he
  · exact ho

theorem send_effects (heffects : ∀ e ∈ effects, k = some e.obj) (ho : k = some o)
    {data : Option Bytes} {send : Bytes → Act}
    (he : e ∈ effects ++ (data.map fun data => ⟨o, send data⟩).toList) : k = some e.obj := by
  simp only [List.mem_append, Option.mem_toList, Option.map_eq_some_iff] at he
  rcases he with he | ⟨d, -, rfl⟩
  · exact heffects e he
  · exact ho

theorem clear_effects (ho : k = some o) (he : e ∈ [⟨o, act⟩, ⟨o, act'⟩]) : k = some e.obj := by
  simp only [List.mem_cons, List.not_mem_nil, or_false] at he
  rcases he with rfl | rfl <;> exact ho

end Effects

/-- A command acts on the object at its place only. -/
theorem runCommand_effects {param : Option PAObject} {c : Command} {e : Effect}
    (he : e ∈ (runCommand H s param c).2) :
    s.objAt (c.place (refParam H param)) = some e.obj := by
  have hclient : ∀ e ∈ (clientSetParams H s (refParam H param) param).2,
      s.objAt (.client (refParam H param)) = some e.obj :=
    fun _ => clientSetParams_effects _ param
  have hserver : ∀ e ∈ (serverSetParams H s (refParam H param) param).2,
      s.objAt (.server (refParam H param)) = some e.obj :=
    fun _ => serverSetParams_effects _ param
  cases c with
  | clientStart success =>
    simp only [runCommand, websocketClientStart, ClientRef.get, ClientRef.find] at he
    split at he
    · simp at he
    · exact start_effects hclient ‹_› he
  | serverStart success =>
    simp only [runCommand, websocketServerStart, ServerRef.get, ServerRef.find] at he
    split at he
    · simp at he
    · exact start_effects hserver ‹_› he
  | clientStop =>
    simp only [runCommand, websocketClientStop, ClientRef.get, ClientRef.find] at he
    split at he
    · simp at he
    · exact stop_effects hclient ‹_› he
  | serverStop =>
    simp only [runCommand, websocketServerStop, ServerRef.get, ServerRef.find] at he
    split at he
    · simp at he
    · exact stop_effects hserver ‹_› he
  | clientSend data =>
    simp only [runCommand, websocketClientSend, ClientRef.ptr, ClientRef.ref] at he
    split at he
    · simp at he
    · rename_i r hr
      exact send_effects hclient (objAt_client_eq_some.2 ⟨r, hr, rfl⟩) he
  | serverSend data outcome =>
    simp only [runCommand, websocketServerSend, ServerRef.ptr, ServerRef.ref] at he
    split at he
    · simp at he
    · rename_i r hr
      exact send_effects hserver (objAt_server_eq_some.2 ⟨r, hr, rfl⟩) he
  | clientClear fired =>
    simp only [runCommand, websocketClientClear, ClientRef.ref] at he
    split at he
    · simp at he
    · rename_i r hr
      exact clear_effects (objAt_client_eq_some.2 ⟨r, hr, rfl⟩) he
  | serverClear fired =>
    simp only [runCommand, websocketServerClear, ServerRef.ref] at he
    split at he
    · simp at he
    · rename_i r hr
      exact clear_effects (objAt_server_eq_some.2 ⟨r, hr, rfl⟩) he
  | serverClients | serverMessages =>
    simp only [runCommand, Option.mem_toList, Option.map_eq_some_iff] at he
    obtain ⟨r, hr, rfl⟩ := he
    exact objAt_server_eq_some.2 ⟨r, hr, rfl⟩
  | clientMessages =>
    simp only [runCommand, Option.mem_toList, Option.map_eq_some_iff] at he
    obtain ⟨r, hr, rfl⟩ := he
    exact objAt_client_eq_some.2 ⟨r, hr, rfl⟩

/-- A command that finds a ref acts on it. -/
theorem runCommand_acts {param : Option PAObject} {c : Command} {o : ℕ}
    (h : s.objAt (c.place (refParam H param)) = some o) : (runCommand H s param c).2 ≠ [] := by
  cases c with
  | clientStart | clientStop | clientSend | clientClear | clientMessages =>
    obtain ⟨r, hr, -⟩ := objAt_client_eq_some.1 h
    simp [runCommand, websocketClientStart, websocketClientStop, websocketClientSend,
      websocketClientClear, clientSetParams, ClientRef.ref, ClientRef.ptr, ClientRef.get,
      ClientRef.find, hr]
  | serverStart | serverStop | serverSend | serverClear | serverClients | serverMessages =>
    obtain ⟨r, hr, -⟩ := objAt_server_eq_some.1 h
    simp [runCommand, websocketServerStart, websocketServerStop, websocketServerSend,
      websocketServerClear, serverSetParams, ServerRef.ref, ServerRef.ptr, ServerRef.get,
      ServerRef.find, hr]

theorem runCommand_of_none {param : Option PAObject} {c : Command}
    (h : s.objAt (c.place (refParam H param)) = none) : runCommand H s param c = (s, []) := by
  cases c <;> have h := Option.map_eq_none_iff.1 h <;>
    simp [runCommand, websocketClientStart, websocketServerStart, websocketClientStop,
      websocketServerStop, websocketClientSend, websocketServerSend, websocketClientClear,
      websocketServerClear, ClientRef.ref, ClientRef.ptr, ClientRef.get, ClientRef.find,
      ServerRef.ref, ServerRef.ptr, ServerRef.get, ServerRef.find, h]

/-! ## Creations and their handles -/

/-- Where a creation puts the new ref, and the handle it answers with. -/
def Action.creates (H : Host) (s : Plugin) : Action → Option (Place × PAObject)
  | .client param => some (.client (Maps.leastFree s.clientList), (websocketClient H s param).2)
  | .server param => some (.server (Maps.greatestFree s.serverList), (websocketServer H s param).2)
  | _ => none

theorem refParam_clientHandle (r : ClientRef) : refParam H (some (r.getParams H [])) = r.id := by
  simp [refParam, ClientRef.getParams, obSetI, obSetS, obSetB, obSetA, obSetO, obGetN_set_of_ne]

theorem refParam_serverHandle (r : ServerRef) : refParam H (some (r.getParams H [])) = r.id := by
  simp [refParam, ServerRef.getParams, obSetI, obSetS, obSetA, obGetN_set_of_ne]

section Creation

variable {a : Action} {k : Place} {handle : PAObject}

theorem creates_handle (ha : a.creates H s = some (k, handle)) :
    refParam H (some handle) = k.id := by
  cases a with
  | client param =>
    obtain ⟨rfl, rfl⟩ := Prod.mk.inj (Option.some.inj ha)
    exact refParam_clientHandle _
  | server param =>
    obtain ⟨rfl, rfl⟩ := Prod.mk.inj (Option.some.inj ha)
    exact refParam_serverHandle _
  | _ => simp [Action.creates] at ha

theorem creates_free (ha : a.creates H s = some (k, handle)) : s.objAt k = none := by
  cases a with
  | client param =>
    obtain ⟨rfl, -⟩ := Prod.mk.inj (Option.some.inj ha)
    exact objAt_leastFree s
  | server param =>
    obtain ⟨rfl, -⟩ := Prod.mk.inj (Option.some.inj ha)
    exact objAt_greatestFree s
  | _ => simp [Action.creates] at ha

/-- A creation gives the new object the place, and changes nothing else in the ledger. -/
theorem creates_ledger (ha : a.creates H s = some (k, handle)) (hu : step H s a = some u) :
    u.ledger = { s.ledger with
      holder := Function.update s.ledger.holder k (some s.objects)
      objects := s.objects + 1 } := by
  cases a with
  | client param =>
    obtain ⟨rfl, -⟩ := Prod.mk.inj (Option.some.inj ha)
    simp only [step, Option.some.injEq] at hu
    subst hu
    refine (ledger_clientList _ (fun j hj => (Maps.getElem?_insert_of_ne hj).trans
      (Maps.getElem?_insertIfNew_of_ne hj)) _).trans ?_
    rw [Std.TreeMap.getElem?_insert_self]
    rfl
  | server param =>
    obtain ⟨rfl, -⟩ := Prod.mk.inj (Option.some.inj ha)
    simp only [step, Option.some.injEq] at hu
    subst hu
    refine (ledger_serverList _ (fun j hj => Maps.getElem?_insertIfNew_of_ne hj) _).trans ?_
    rw [Maps.getElem?_insertIfNew_self (Maps.greatestFree_notMem _)]
    rfl
  | _ => simp [Action.creates] at ha

/-- A handle leads nowhere in the registry of the other kind. -/
theorem place_of_handle (ht : Inv t) (ha : a.creates H s = some (k, handle)) (c : Command) :
    c.place k.id = k ∨ t.objAt (c.place k.id) = none := by
  have hclient : ∀ i ≤ 0, t.objAt (.client i) = none := by
    intro i hi
    rcases h : t.clientList[i]? with _ | r
    · simp [Plugin.objAt, h]
    · have := (ht.client h).1
      omega
  have hserver : ∀ i, 0 ≤ i → t.objAt (.server i) = none := fun i hi => by
    simp [Plugin.objAt, ht.no_server hi]
  cases a with
  | client param =>
    obtain ⟨rfl, -⟩ := Prod.mk.inj (Option.some.inj ha)
    have hpos := Maps.leastFree_pos s.clientList
    cases c <;> first | exact .inl rfl | exact .inr (hserver _ (by simp only [Place.id]; omega))
  | server param =>
    obtain ⟨rfl, -⟩ := Prod.mk.inj (Option.some.inj ha)
    have hneg := Maps.greatestFree_neg s.serverList
    cases c <;> first | exact .inl rfl | exact .inr (hclient _ (by simp only [Place.id]; omega))
  | _ => simp [Action.creates] at ha

theorem run_of_creation (hs : Reachable H s) (hu : step H s a = some u) {as : List Action}
    (h : Runs.Run (step H) u as t) : Inv u ∧ Inv t ∧ Ledger.Inv u.ledger
      ∧ Ledger.Run u.ledger t.ledger := by
  have hIu := reachable_inv (hs.step hu)
  exact ⟨hIu, run_inv hIu h, reachable_ledger (hs.step hu), run_ledger hIu h⟩

/-- A command of the kind of a creation, given the handle of the creation, acts on the object that
is at the place of the creation then, and on no other; where there is none it does nothing, and so
does every command of the other kind. The object at the place is the one that was made with the
handle, for as long as that is in the registry, and afterwards one that was made later. -/
theorem handle_resolves (hs : Reachable H s) (ha : a.creates H s = some (k, handle))
    (hu : step H s a = some u) {as : List Action} (h : Runs.Run (step H) u as t) (c : Command) :
    u.objAt k = some s.objects
      ∧ (c.place k.id = k → SameBut k t (runCommand H t (some handle) c).1
        ∧ (∀ o, t.objAt k = some o → (runCommand H t (some handle) c).2 ≠ []
          ∧ ∀ e ∈ (runCommand H t (some handle) c).2, e.obj = o)
        ∧ (t.objAt k = none → runCommand H t (some handle) c = (t, [])))
      ∧ (c.place k.id ≠ k → runCommand H t (some handle) c = (t, []))
      ∧ (t.objAt k = some s.objects
        ∨ (∀ k', t.objAt k' ≠ some s.objects) ∧ ∀ o, t.objAt k = some o → s.objects < o) := by
  obtain ⟨-, hIt, hLu, hrun⟩ := run_of_creation hs hu h
  have hid := creates_handle ha
  have hheld : u.ledger.holder k = some s.objects := by
    rw [creates_ledger ha hu]
    exact Function.update_self ..
  have hobjects : u.ledger.objects = s.objects + 1 := by rw [creates_ledger ha hu]
  refine ⟨hheld, fun hk => ?_, fun hk => ?_, ?_⟩
  · have hplace : c.place (refParam H (some handle)) = k := by rw [hid, hk]
    refine ⟨(hplace ▸ (runCommand_step t (some handle) c).sameBut :), fun o ho => ?_,
      fun hnone => runCommand_of_none (by rwa [hplace])⟩
    refine ⟨runCommand_acts (by rwa [hplace]), fun e he => ?_⟩
    have hobj := runCommand_effects he
    rw [hplace, ho] at hobj
    exact (Option.some.inj hobj).symm
  · have hnone := (place_of_handle hIt ha c).resolve_left hk
    exact runCommand_of_none (by rwa [hid])
  · rcases Ledger.holder_later hLu hheld hrun with hlive | ⟨hgone, hnewer⟩
    · exact .inl hlive
    · refine .inr ⟨hgone, fun o ho => ?_⟩
      have := hnewer o ho
      omega

end Creation

def oneHandle : PAObject := (websocketClient .plain {} none).2

/-- The plugin after a client is made, cleared through its handle, and a second one is made. -/
def secondClient : Plugin :=
  (Runs.exec (step .plain) {} [.client none, .command (.clientClear []) (some oneHandle),
    .client none]).getD {}

theorem secondClient_run : Runs.Run (step .plain) (websocketClient .plain {} none).1
    [.command (.clientClear []) (some oneHandle), .client none] secondClient :=
  Runs.run_of_exec rfl

/-- The handle of the first client leads to the second, and as the handle of a server nowhere. -/
theorem oneHandle_resolves :
    ((runCommand .plain secondClient (some oneHandle) .clientStop).2 ≠ []
        ∧ ∀ e ∈ (runCommand .plain secondClient (some oneHandle) .clientStop).2, e.obj = 1)
      ∧ runCommand .plain secondClient (some oneHandle) .serverStop = (secondClient, [])
      ∧ ∀ k, secondClient.objAt k ≠ some 0 := by
  have hsecond : secondClient.objAt (.client 1) = some 1 := by decide +kernel
  have hclient := handle_resolves (H := .plain) (a := .client none) .refl rfl rfl secondClient_run
    .clientStop
  have hserver := handle_resolves (H := .plain) (a := .client none) .refl rfl rfl secondClient_run
    .serverStop
  refine ⟨(hclient.2.1 rfl).2.1 1 hsecond, hserver.2.2.1 (by decide), fun k hk => ?_⟩
  rcases hclient.2.2.2 with hlive | ⟨hgone, -⟩
  · exact absurd (hsecond.symm.trans hlive) (by decide)
  · exact hgone k hk

/-- The handle of the first client, which is object 0, is given once more, and destroys the second,
which is object 1. -/
theorem oneHandle_destroys_second :
    Reachable .plain secondClient ∧ refParam .plain (some oneHandle) = 1
      ∧ secondClient.objAt (.client 1) = some 1
      ∧ (runCommand .plain secondClient (some oneHandle) (.clientClear [])).2
        = [⟨1, .stop⟩, ⟨1, .destroy⟩] := by
  refine ⟨?_, by decide +kernel, by decide +kernel, by decide +kernel⟩
  exact (Runs.Reachable.refl.step (a := .client none) rfl).trans secondClient_run

/-! ## Queries -/

/-- The messages query of the kind of a place. -/
def Place.query (H : Host) (s : Plugin) (param : Option PAObject) (locked : Bool) :
    Place → List Queued
  | .client _ => websocketClientMessages H s param locked
  | .server _ => websocketServerMessages H s param locked

/-- What a query lists is pending, and names the place the query is for. -/
theorem mem_query (hs : Inv s) {k : Place} (hk : (s.objAt k).isSome) {param : Option PAObject}
    (hparam : refParam H param = k.id) {locked : Bool} {q : Queued}
    (hq : q ∈ k.query H s param locked) : q ∈ s.messages ∧ q.msg.place = k := by
  rcases k with i | i
  · obtain ⟨r, hr⟩ := Option.isSome_iff_exists.1 (Option.isSome_map.symm.trans hk)
    simp only [Place.query, websocketClientMessages, ClientRef.ptr, ClientRef.ref, hparam,
      Place.id, hr] at hq
    split_ifs at hq with hl
    · simp only [List.mem_filter, clientSelects, decide_eq_true_eq] at hq
      refine ⟨hq.1, place_client hq.2.1 ?_⟩
      rw [← hq.2.2, (hs.client hr).2]
    · simp at hq
  · obtain ⟨r, hr⟩ := Option.isSome_iff_exists.1 (Option.isSome_map.symm.trans hk)
    simp only [Place.query, websocketServerMessages, ServerRef.ptr, ServerRef.ref, hparam,
      Place.id, hr] at hq
    split_ifs at hq with hl
    · simp only [List.mem_filter, serverSelects, decide_eq_true_eq] at hq
      have hid := (hs.server hr).2.1
      exact ⟨hq.1, place_server (hs.server hr).1 (hq.2.symm.trans hid)⟩
    · simp at hq

/-- A query for a live ref lists messages of that ref, and messages that were pending when it was
made, of objects that were in neither registry then. -/
theorem query_own_or_inherited (hs : Reachable H s) {a : Action} {k : Place} {handle : PAObject}
    (ha : a.creates H s = some (k, handle)) (hu : step H s a = some u) {as : List Action}
    (h : Runs.Run (step H) u as t) (hlive : t.objAt k = some s.objects) {param : Option PAObject}
    (hparam : refParam H param = k.id) (locked : Bool) :
    ∀ q ∈ k.query H t param locked, q.origin.obj = s.objects
      ∨ (q ∈ s.messages ∧ q.msg.place = k ∧ ∀ k', s.objAt k' ≠ some q.origin.obj) := by
  intro q hq
  obtain ⟨-, hIt, -, hrun⟩ := run_of_creation hs hu h
  obtain ⟨hmem, hplace⟩ := mem_query hIt (by simp [hlive]) hparam hq
  rw [creates_ledger ha hu] at hrun
  have hpost : (⟨q.msg.place, q.origin.obj, q⟩ : Ledger.Post Place Queued) ∈ t.ledger.posts :=
    List.mem_map.2 ⟨q, hmem, rfl⟩
  rcases Ledger.posts_of_holder (reachable_ledger hs) (creates_free ha) hrun hlive hpost hplace
    with hown | ⟨hold, hnone⟩
  · exact .inl hown
  · obtain ⟨q', hq', heq⟩ := List.mem_map.1 hold
    obtain rfl : q' = q := congrArg Ledger.Post.body heq
    exact .inr ⟨hq', hplace, hnone⟩

/-- A client that is cleared with a message pending, and then a second client. -/
def inheritingClient : Plugin :=
  (Runs.exec (step .plain) {} [.client none, .clientEvent 1 { type := .message },
    .command (.clientClear []) (some oneHandle), .client none]).getD {}

def clearedClient : Plugin :=
  (Runs.exec (step .plain) {} [.client none, .clientEvent 1 { type := .message },
    .command (.clientClear []) (some oneHandle)]).getD {}

theorem clearedClient_reachable : Reachable .plain clearedClient :=
  Runs.reachable_of_exec [.client none, .clientEvent 1 { type := .message },
    .command (.clientClear []) (some oneHandle)] rfl

theorem inheritingClient_query :
    ((Place.client 1).query .plain inheritingClient (some oneHandle) true).length = 1
      ∧ ∀ q ∈ (Place.client 1).query .plain inheritingClient (some oneHandle) true,
        q.origin.obj = 1 ∨ (q ∈ clearedClient.messages ∧ q.msg.place = .client 1
          ∧ ∀ k', clearedClient.objAt k' ≠ some q.origin.obj) := by
  refine ⟨by decide +kernel, ?_⟩
  exact query_own_or_inherited (a := .client none) clearedClient_reachable rfl rfl
    (.nil inheritingClient) rfl (by decide +kernel) true

/-- The query for the second client, which is object 1, lists the message of the first. -/
theorem inheritingClient_lists_old :
    Reachable .plain inheritingClient ∧ inheritingClient.objAt (.client 1) = some 1
      ∧ (websocketClientMessages .plain inheritingClient (some oneHandle) true).map
        (·.origin.obj) = [0] := by
  refine ⟨?_, by decide +kernel, by decide +kernel⟩
  exact clearedClient_reachable.step (a := .client none) rfl

end IxWebsocket
