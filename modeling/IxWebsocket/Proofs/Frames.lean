import IxWebsocket.Proofs.Moves

/-!
# What a step leaves alone

A command changes the ref at the place its handle leads to, and no other (`CommandStep.sameBut`),
and unless it clears the ref, that ref's settings only (`setParams_kept`).
The maps in which a live server keeps its connections change by the events of those connections
only (`step_server`).
-/

namespace IxWebsocket

variable {H : Host} {s t u : Plugin}

/-! ## Places -/

/-- The refs at all places but `k` are the same. -/
structure SameBut (k : Place) (s t : Plugin) : Prop where
  client : ∀ i, k ≠ .client i → t.clientList[i]? = s.clientList[i]?
  server : ∀ i, k ≠ .server i → t.serverList[i]? = s.serverList[i]?

theorem SameBut.refl (k : Place) (s : Plugin) : SameBut k s s := ⟨fun _ _ => rfl, fun _ _ => rfl⟩

theorem SameBut.trans {k : Place} (h : SameBut k s t) (h' : SameBut k t u) : SameBut k s u where
  client i hi := (h'.client i hi).trans (h.client i hi)
  server i hi := (h'.server i hi).trans (h.server i hi)

theorem sameBut_clientList {i : ℤ} (list : Std.TreeMap ℤ ClientRef)
    (h : ∀ j, i ≠ j → list[j]? = s.clientList[j]?) :
    SameBut (.client i) s { s with clientList := list } where
  client j hj := h j fun hij => hj (hij ▸ rfl)
  server _ _ := rfl

theorem sameBut_serverList {i : ℤ} (list : Std.TreeMap ℤ ServerRef)
    (h : ∀ j, i ≠ j → list[j]? = s.serverList[j]?) :
    SameBut (.server i) s { s with serverList := list } where
  client _ _ := rfl
  server j hj := h j fun hij => hj (hij ▸ rfl)

theorem clientHandler_lists (type : String) (info : JsonObject) (i : ℤ) :
    (clientHandler H type info s i).clientList = s.clientList
      ∧ (clientHandler H type info s i).serverList = s.serverList := by
  unfold clientHandler
  split <;> exact ⟨rfl, rfl⟩

theorem clientCallback_sameBut (k : Place) (i : ℤ) (msg : WebSocketMessage) :
    SameBut k s (clientCallback H s i msg) := by
  have hlists : (clientCallback H s i msg).clientList = s.clientList
      ∧ (clientCallback H s i msg).serverList = s.serverList := by
    unfold clientCallback
    split
    · exact clientHandler_lists _ _ i
    · unfold websocketclientOpen
      split <;> exact ⟨rfl, rfl⟩
    all_goals exact clientHandler_lists _ _ i
  exact ⟨fun j _ => by rw [hlists.1], fun j _ => by rw [hlists.2]⟩

theorem serverHandler_sameBut (look : ServerRef → Conn → ServerRef × ℤ) (type : String)
    (info : JsonObject) (i : ℤ) (p : Conn) :
    SameBut (.server i) s (serverHandler H look type info s i p) := by
  unfold serverHandler
  split
  · exact .refl _ _
  · exact ⟨fun _ _ => rfl, fun j hj => Maps.getElem?_insert_of_ne fun hij => hj (hij ▸ rfl)⟩

theorem serverCallback_sameBut (i : ℤ) (p : Conn) (msg : WebSocketMessage) :
    SameBut (.server i) s (serverCallback H s i p msg) := by
  unfold serverCallback
  split <;> exact serverHandler_sameBut _ _ _ i p

theorem clientFired_sameBut (k : Place) (i : ℤ) (fired : List WebSocketMessage) :
    SameBut k s (fired.foldl (clientCallback H · i) s) := by
  induction fired generalizing s with
  | nil => exact .refl _ _
  | cons msg fired ih => exact (clientCallback_sameBut k i msg).trans ih

theorem serverFired_sameBut (i : ℤ) (fired : List (Conn × WebSocketMessage)) :
    SameBut (.server i) s (fired.foldl (fun s e => serverCallback H s i e.1 e.2) s) := by
  induction fired generalizing s with
  | nil => exact .refl _ _
  | cons e fired ih => exact (serverCallback_sameBut i e.1 e.2).trans ih

theorem CommandStep.sameBut {i : ℤ} {k : Place} (h : CommandStep H s i k t) : SameBut k s t := by
  cases h with
  | none => exact .refl _ _
  | setClient param hr => exact sameBut_clientList _ fun j hj => Maps.getElem?_insert_of_ne hj
  | setServer param hr => exact sameBut_serverList _ fun j hj => Maps.getElem?_insert_of_ne hj
  | clearClient hr fired ht =>
    subst ht
    refine (clientFired_sameBut _ _ fired).trans (sameBut_clientList _ fun j hj => ?_)
    exact Maps.getElem?_erase_of_ne hj
  | clearServer fired ht =>
    subst ht
    refine (serverFired_sameBut _ fired).trans (sameBut_serverList _ fun j hj => ?_)
    exact Maps.getElem?_erase_of_ne hj

theorem SameBut.objAt {k k' : Place} (h : SameBut k s t) (hne : k ≠ k') :
    t.objAt k' = s.objAt k' := by
  cases k' with
  | client i => simp only [Plugin.objAt, h.client i hne]
  | server i => simp only [Plugin.objAt, h.server i hne]

/-! ## Commands that clear nothing -/

/-- What such a command does to the registries. -/
def Command.setParams (H : Host) (s : Plugin) (param : Option PAObject) : Command → Plugin
  | .clientStart _ | .clientStop | .clientSend _ =>
    (clientSetParams H s (refParam H param) param).1
  | .serverStart _ | .serverStop | .serverSend _ _ =>
    (serverSetParams H s (refParam H param) param).1
  | _ => s

theorem clientSetParams_of_none {i : ℤ} (h : s.clientList[i]? = none)
    (param : Option PAObject) : (clientSetParams H s i param).1 = s := by
  unfold clientSetParams ClientRef.ref
  rw [h]

theorem serverSetParams_of_none {i : ℤ} (h : s.serverList[i]? = none)
    (param : Option PAObject) : (serverSetParams H s i param).1 = s := by
  unfold serverSetParams ServerRef.ref
  rw [h]

theorem runCommand_setParams {param : Option PAObject} {c : Command} (hc : c.isClear = false) :
    (runCommand H s param c).1 = c.setParams H s param := by
  cases c with
  | clientClear | serverClear => cases hc
  | clientStart success =>
    simp only [runCommand, websocketClientStart, Command.setParams, ClientRef.get, ClientRef.find]
    rcases h : s.clientList[refParam H param]? with _ | r
    · exact (clientSetParams_of_none h param).symm
    · rfl
  | clientStop =>
    simp only [runCommand, websocketClientStop, Command.setParams, ClientRef.get, ClientRef.find]
    rcases h : s.clientList[refParam H param]? with _ | r
    · exact (clientSetParams_of_none h param).symm
    · rfl
  | clientSend data =>
    simp only [runCommand, websocketClientSend, Command.setParams, ClientRef.ptr, ClientRef.ref]
    rcases h : s.clientList[refParam H param]? with _ | r
    · exact (clientSetParams_of_none h param).symm
    · rfl
  | serverStart success =>
    simp only [runCommand, websocketServerStart, Command.setParams, ServerRef.get, ServerRef.find]
    rcases h : s.serverList[refParam H param]? with _ | r
    · exact (serverSetParams_of_none h param).symm
    · rfl
  | serverStop =>
    simp only [runCommand, websocketServerStop, Command.setParams, ServerRef.get, ServerRef.find]
    rcases h : s.serverList[refParam H param]? with _ | r
    · exact (serverSetParams_of_none h param).symm
    · rfl
  | serverSend data outcome =>
    simp only [runCommand, websocketServerSend, Command.setParams, ServerRef.ptr, ServerRef.ref]
    rcases h : s.serverList[refParam H param]? with _ | r
    · exact (serverSetParams_of_none h param).symm
    · rfl
  | serverClients | serverMessages | clientMessages => rfl

/-- Such a command changes settings only. -/
theorem setParams_kept (s : Plugin) (param : Option PAObject) (c : Command) :
    (c.setParams H s param).objAt = s.objAt
      ∧ (c.setParams H s param).messages = s.messages := by
  have hclient : ∀ i, (clientSetParams H s i param).1.objAt = s.objAt
      ∧ (clientSetParams H s i param).1.messages = s.messages := by
    intro i
    unfold clientSetParams ClientRef.ref
    split
    · exact ⟨rfl, rfl⟩
    · rename_i r hr
      exact ⟨objAt_setClient hr rfl, rfl⟩
  have hserver : ∀ i, (serverSetParams H s i param).1.objAt = s.objAt
      ∧ (serverSetParams H s i param).1.messages = s.messages := by
    intro i
    unfold serverSetParams ServerRef.ref
    split
    · exact ⟨rfl, rfl⟩
    · rename_i r hr
      exact ⟨objAt_setServer hr rfl, rfl⟩
  cases c with
  | clientStart | clientStop | clientSend => exact hclient _
  | serverStart | serverStop | serverSend => exact hserver _
  | _ => exact ⟨rfl, rfl⟩

/-! ## All steps -/

/-- The place a step can change. -/
def Action.place (H : Host) (s : Plugin) : Action → Place
  | .client _ => .client (Maps.leastFree s.clientList)
  | .server _ => .server (Maps.greatestFree s.serverList)
  | .command c param => c.place (refParam H param)
  | .clientEvent i _ => .client i
  | .serverEvent i _ _ => .server i
  | .hold i _ => .server i
  | .deliver => .client 0

theorem step_sameBut {a : Action} (h : step H s a = some t) : SameBut (a.place H s) s t := by
  cases a with
  | client param =>
    cases h
    refine ⟨fun i hi => ?_, fun _ _ => rfl⟩
    have hne : Maps.leastFree s.clientList ≠ i := fun hi' => hi (by rw [Action.place, hi'])
    simp only [websocketClient, Maps.getElem?_insert_of_ne hne, Maps.getElem?_insertIfNew_of_ne hne]
  | server param =>
    cases h
    refine ⟨fun _ _ => rfl, fun i hi => ?_⟩
    have hne : Maps.greatestFree s.serverList ≠ i := fun hi' => hi (by rw [Action.place, hi'])
    simp only [websocketServer, Maps.getElem?_insertIfNew_of_ne hne]
  | command c param =>
    cases h
    exact (runCommand_step s param c).sameBut
  | clientEvent i msg =>
    obtain ⟨-, -, rfl⟩ := Option.map_eq_some_iff.1 h
    exact clientCallback_sameBut _ i msg
  | serverEvent i p msg =>
    obtain ⟨-, -, rfl⟩ := Option.map_eq_some_iff.1 h
    exact serverCallback_sameBut i p msg
  | hold i conns =>
    obtain ⟨-, -, rfl⟩ := Option.map_eq_some_iff.1 h
    exact sameBut_serverList _ fun j hj => Maps.getElem?_insert_of_ne hj
  | deliver =>
    simp only [step] at h
    split at h
    · cases h
    · cases h
      exact ⟨fun _ _ => rfl, fun _ _ => rfl⟩

/-! ## One server -/

/-- A command keeps the connections of every server it leaves in the registry. -/
theorem CommandStep.server {i j : ℤ} {k : Place} (h : CommandStep H s i k t) {r' : ServerRef}
    (ht : t.serverList[j]? = some r') :
    ∃ r, s.serverList[j]? = some r ∧ r'.obj = r.obj ∧ r'.clients = r.clients
      ∧ r'.clientsReverse = r.clientsReverse := by
  by_cases hk : k = .server j
  · cases h with
    | none => exact ⟨r', ht, rfl, rfl, rfl⟩
    | setClient | clearClient => cases hk
    | setServer param hr =>
      rcases Maps.getElem?_insert_some ht with ⟨rfl, rfl⟩ | ⟨-, ht⟩
      · exact ⟨_, hr, rfl, rfl, rfl⟩
      · exact ⟨r', ht, rfl, rfl, rfl⟩
    | clearServer => exact absurd (Place.server.inj hk) (Maps.getElem?_erase_some ht).1
  · rw [h.sameBut.server j hk] at ht
    exact ⟨r', ht, rfl, rfl, rfl⟩

/-- A server in the registry after a step is new, or was there before, with the same connections
or with those an event of one of them left. -/
theorem step_server {a : Action} (h : step H s a = some t) {i : ℤ} {r' : ServerRef}
    (ht : t.serverList[i]? = some r') :
    r'.obj = s.objects ∨ ∃ r, s.serverList[i]? = some r ∧ r'.obj = r.obj
      ∧ ((r'.clients = r.clients ∧ r'.clientsReverse = r.clientsReverse)
        ∨ ∃ p msg, a = .serverEvent i p msg ∧ r' = (lookOf msg.type r p).1) := by
  cases a with
  | client param =>
    simp only [step, Option.some.injEq] at h
    subst h
    exact .inr ⟨r', ht, rfl, .inl ⟨rfl, rfl⟩⟩
  | server param =>
    simp only [step, Option.some.injEq] at h
    subst h
    rcases Maps.getElem?_insertIfNew_some ht with ⟨-, -, rfl⟩ | ht
    · exact .inl rfl
    · exact .inr ⟨r', ht, rfl, .inl ⟨rfl, rfl⟩⟩
  | command c param =>
    simp only [step, Option.some.injEq] at h
    subst h
    obtain ⟨r, hr, hobj, hclients, hreverse⟩ := (runCommand_step s param c).server ht
    exact .inr ⟨r, hr, hobj, .inl ⟨hclients, hreverse⟩⟩
  | clientEvent j msg =>
    obtain ⟨-, -, rfl⟩ := Option.map_eq_some_iff.1 h
    rw [(clientCallback_sameBut (.client j) j msg).server i (by simp)] at ht
    exact .inr ⟨r', ht, rfl, .inl ⟨rfl, rfl⟩⟩
  | serverEvent j p msg =>
    obtain ⟨r, hr, rfl⟩ := Option.map_eq_some_iff.1 h
    have heq := serverCallback_eq (H := H) s j p msg
    rw [heq, serverHandler, hr] at ht
    rcases Maps.getElem?_insert_some ht with ⟨rfl, rfl⟩ | ⟨-, ht⟩
    · refine .inr ⟨r, hr, ?_, .inr ⟨p, msg, rfl, rfl⟩⟩
      exact (lookOf_move msg.type r p).obj.1
    · exact .inr ⟨r', ht, rfl, .inl ⟨rfl, rfl⟩⟩
  | hold j conns =>
    obtain ⟨r, hr, rfl⟩ := Option.map_eq_some_iff.1 h
    rcases Maps.getElem?_insert_some ht with ⟨rfl, rfl⟩ | ⟨-, ht⟩
    · exact .inr ⟨r, hr, rfl, .inl ⟨rfl, rfl⟩⟩
    · exact .inr ⟨r', ht, rfl, .inl ⟨rfl, rfl⟩⟩
  | deliver =>
    simp only [step] at h
    split at h
    · simp at h
    · simp only [Option.some.injEq] at h
      subst h
      exact .inr ⟨r', ht, rfl, .inl ⟨rfl, rfl⟩⟩

end IxWebsocket
