import IxWebsocket.Commands
import IxWebsocket.Lib.Ledger
import IxWebsocket.Proofs.ConnectionMaps

/-!
# What a step of the plugin can do

Every handler and every command is a sequence of a few moves on the registries and the message
list (`step_moves`), so what the moves keep holds in every reachable state: client ids are
positive and server ids negative, which tells the messages of the two registries apart, and the
plugin is a ledger whose slots are the ids.
-/

namespace IxWebsocket

variable {H : Host}

/-! ## Refs by place -/

/-- A registry and an id in it. -/
inductive Place
  | client (i : ℤ)
  | server (i : ℤ)
  deriving DecidableEq

def Place.id : Place → ℤ
  | .client i => i
  | .server i => i

/-- The place a command acts on when its handle says `i`. -/
def Command.place (i : ℤ) : Command → Place
  | .clientStart _ | .clientStop | .clientSend _ | .clientClear _ | .clientMessages => .client i
  | .serverStart _ | .serverStop | .serverSend _ _ | .serverClear _ | .serverClients
  | .serverMessages => .server i

def Command.isClear : Command → Bool
  | .clientClear _ | .serverClear _ => true
  | _ => false

/-- The object a place leads to now. -/
def Plugin.objAt (s : Plugin) : Place → Option ℕ
  | .client i => s.clientList[i]?.map (·.obj)
  | .server i => s.serverList[i]?.map (·.obj)

theorem objAt_client_eq_some {s : Plugin} {i : ℤ} {o : ℕ} :
    s.objAt (.client i) = some o ↔ ∃ r, s.clientList[i]? = some r ∧ r.obj = o :=
  Option.map_eq_some_iff

theorem objAt_server_eq_some {s : Plugin} {i : ℤ} {o : ℕ} :
    s.objAt (.server i) = some o ↔ ∃ r, s.serverList[i]? = some r ∧ r.obj = o :=
  Option.map_eq_some_iff

/-- The place a message names as its sender. -/
def Message.place (m : Message) : Place :=
  if m.server = 0 then .client m.client else .server m.server

/-- The plugin as a ledger: the ids are slots, the refs hold them, the messages are posts. -/
def Plugin.ledger (s : Plugin) : Ledger.State Place Queued where
  holder := s.objAt
  posts := s.messages.map fun q => ⟨q.msg.place, q.origin.obj, q⟩
  objects := s.objects

structure Inv (s : Plugin) : Prop where
  client : ∀ {i : ℤ} {r : ClientRef}, s.clientList[i]? = some r → 1 ≤ i ∧ r.id = i
  server : ∀ {i : ℤ} {r : ServerRef}, s.serverList[i]? = some r → i ≤ -1 ∧ r.id = i ∧ r.Linked

theorem inv_init : Inv {} where
  client h := by simp at h
  server h := by simp at h

/-- The message list is there, and no message came too late for it. -/
def Plugin.Alive (s : Plugin) : Prop := s.listDeleted = false ∧ s.late = []

theorem Inv.no_server {s : Plugin} (hs : Inv s) {i : ℤ} (hi : 0 ≤ i) : s.serverList[i]? = none := by
  rcases h : s.serverList[i]? with _ | r
  · rfl
  · have := (hs.server h).1
    omega

/-! ## The moves -/

/-- What happens to a server ref in place. -/
inductive ServerMove (r : ServerRef) : ServerRef → Prop
  | settings {r' : ServerRef} (hobj : r'.obj = r.obj) (hid : r'.id = r.id)
      (hclients : r'.clients = r.clients) (hreverse : r'.clientsReverse = r.clientsReverse) :
      ServerMove r r'
  | register (p : Conn) : ServerMove r (r.registerClient p).1
  | unregister (p : Conn) : ServerMove r (r.unregisterClient p).1

inductive Move : Plugin → Plugin → Prop
  | setClient {s : Plugin} {i : ℤ} {r r' : ClientRef} (h : s.clientList[i]? = some r)
      (hobj : r'.obj = r.obj) (hid : r'.id = r.id) :
      Move s { s with clientList := s.clientList.insert i r' }
  | setServer {s : Plugin} {i : ℤ} {r r' : ServerRef} (h : s.serverList[i]? = some r)
      (hr : ServerMove r r') : Move s { s with serverList := s.serverList.insert i r' }
  | queue {s : Plugin} {q : Queued} (h : s.objAt q.msg.place = some q.origin.obj) :
      Move s (s.push q)
  | newClient {s : Plugin} {r : ClientRef} (hobj : r.obj = s.objects)
      (hid : r.id = Maps.leastFree s.clientList) :
      Move s { s with
        clientList := s.clientList.insertIfNew (Maps.leastFree s.clientList) r
        objects := s.objects + 1 }
  | newServer {s : Plugin} {r : ServerRef} (hobj : r.obj = s.objects)
      (hid : r.id = Maps.greatestFree s.serverList) (hclients : r.clients = ∅)
      (hreverse : r.clientsReverse = ∅) :
      Move s { s with
        serverList := s.serverList.insertIfNew (Maps.greatestFree s.serverList) r
        objects := s.objects + 1 }
  | eraseClient {s : Plugin} (i : ℤ) : Move s { s with clientList := s.clientList.erase i }
  | eraseServer {s : Plugin} (i : ℤ) : Move s { s with serverList := s.serverList.erase i }
  | pop {s : Plugin} {q : Queued} {qs : List Queued} (h : s.messages = q :: qs) :
      Move s { s with messages := qs }

abbrev Moves : Plugin → Plugin → Prop := Relation.ReflTransGen Move

/-! ## What the moves keep -/

theorem ServerMove.obj {r r' : ServerRef} (h : ServerMove r r') :
    r'.obj = r.obj ∧ r'.id = r.id := by
  cases h with
  | settings hobj hid => exact ⟨hobj, hid⟩
  | register p => exact ⟨rfl, rfl⟩
  | unregister p =>
    unfold ServerRef.unregisterClient
    split <;> exact ⟨rfl, rfl⟩

theorem ServerMove.linked {r r' : ServerRef} (h : ServerMove r r') (hr : r.Linked) :
    r'.Linked := by
  cases h with
  | settings _ _ hclients hreverse =>
    exact ⟨fun h => hr.pos (hclients ▸ h), fun h => hclients ▸ hr.back (hreverse ▸ h)⟩
  | register p => exact hr.register p
  | unregister p => exact hr.unregister p

theorem Move.inv {s t : Plugin} (h : Move s t) (hs : Inv s) : Inv t := by
  cases h with
  | @setClient i r r' hi hobj hid =>
    refine ⟨fun {j a} ht => ?_, hs.server⟩
    rcases Maps.getElem?_insert_some ht with ⟨rfl, rfl⟩ | ⟨-, ht⟩
    · exact ⟨(hs.client hi).1, hid.trans (hs.client hi).2⟩
    · exact hs.client ht
  | @setServer i r r' hi hr =>
    refine ⟨hs.client, fun {j a} ht => ?_⟩
    rcases Maps.getElem?_insert_some ht with ⟨rfl, rfl⟩ | ⟨-, ht⟩
    · obtain ⟨hneg, hid, hl⟩ := hs.server hi
      exact ⟨hneg, hr.obj.2.trans hid, hr.linked hl⟩
    · exact hs.server ht
  | queue h => exact ⟨hs.client, hs.server⟩
  | newClient hobj hid =>
    refine ⟨fun {j a} ht => ?_, hs.server⟩
    rcases Maps.getElem?_insertIfNew_some ht with ⟨rfl, -, rfl⟩ | ht
    · exact ⟨Maps.leastFree_pos _, hid⟩
    · exact hs.client ht
  | @newServer r hobj hid hclients hreverse =>
    refine ⟨hs.client, fun {j a} ht => ?_⟩
    rcases Maps.getElem?_insertIfNew_some ht with ⟨rfl, -, rfl⟩ | ht
    · exact ⟨Maps.greatestFree_neg _, hid, by simp [hclients], by simp [hreverse]⟩
    · exact hs.server ht
  | eraseClient i =>
    exact ⟨fun ht => hs.client (Maps.getElem?_erase_some ht).2, hs.server⟩
  | eraseServer i =>
    exact ⟨hs.client, fun ht => hs.server (Maps.getElem?_erase_some ht).2⟩
  | pop h => exact ⟨hs.client, hs.server⟩

theorem Move.alive {s t : Plugin} (h : Move s t) (hs : s.Alive) : t.Alive := by
  cases h with
  | queue h => exact ⟨hs.1, by simpa [Plugin.push, hs.1] using hs.2⟩
  | _ => exact hs

theorem objAt_clientList {s : Plugin} (list : Std.TreeMap ℤ ClientRef) {i : ℤ}
    (h : ∀ j, i ≠ j → list[j]? = s.clientList[j]?) (n : ℕ) :
    Plugin.objAt { s with clientList := list, objects := n } =
      Function.update s.objAt (.client i) (list[i]?.map (·.obj)) := by
  funext k
  rcases k with j | j
  · by_cases hij : i = j
    · subst hij
      rw [Function.update_self]
      rfl
    · rw [Function.update_of_ne fun hc => hij (Place.client.inj hc).symm]
      simp only [Plugin.objAt, h j hij]
  · rw [Function.update_of_ne (by simp)]
    rfl

theorem objAt_serverList {s : Plugin} (list : Std.TreeMap ℤ ServerRef) {i : ℤ}
    (h : ∀ j, i ≠ j → list[j]? = s.serverList[j]?) (n : ℕ) :
    Plugin.objAt { s with serverList := list, objects := n } =
      Function.update s.objAt (.server i) (list[i]?.map (·.obj)) := by
  funext k
  rcases k with j | j
  · rw [Function.update_of_ne (by simp)]
    rfl
  · by_cases hij : i = j
    · subst hij
      rw [Function.update_self]
      rfl
    · rw [Function.update_of_ne fun hc => hij (Place.server.inj hc).symm]
      simp only [Plugin.objAt, h j hij]

theorem objAt_setClient {s : Plugin} {i : ℤ} {r r' : ClientRef} (hi : s.clientList[i]? = some r)
    (hobj : r'.obj = r.obj) :
    Plugin.objAt { s with clientList := s.clientList.insert i r' } = s.objAt := by
  have heq := objAt_clientList (s.clientList.insert i r')
    (fun j hj => Maps.getElem?_insert_of_ne hj) s.objects
  rwa [Std.TreeMap.getElem?_insert_self, Option.map_some, hobj, Function.update_eq_self_iff.2
    (by simp [Plugin.objAt, hi])] at heq

theorem objAt_setServer {s : Plugin} {i : ℤ} {r r' : ServerRef} (hi : s.serverList[i]? = some r)
    (hobj : r'.obj = r.obj) :
    Plugin.objAt { s with serverList := s.serverList.insert i r' } = s.objAt := by
  have heq := objAt_serverList (s.serverList.insert i r')
    (fun j hj => Maps.getElem?_insert_of_ne hj) s.objects
  rwa [Std.TreeMap.getElem?_insert_self, Option.map_some, hobj, Function.update_eq_self_iff.2
    (by simp [Plugin.objAt, hi])] at heq

theorem ledger_clientList {s : Plugin} (list : Std.TreeMap ℤ ClientRef) {i : ℤ}
    (h : ∀ j, i ≠ j → list[j]? = s.clientList[j]?) (n : ℕ) :
    Plugin.ledger { s with clientList := list, objects := n } = { s.ledger with
      holder := Function.update s.ledger.holder (.client i) (list[i]?.map (·.obj))
      objects := n } := by
  unfold Plugin.ledger
  rw [objAt_clientList list h n]

theorem ledger_serverList {s : Plugin} (list : Std.TreeMap ℤ ServerRef) {i : ℤ}
    (h : ∀ j, i ≠ j → list[j]? = s.serverList[j]?) (n : ℕ) :
    Plugin.ledger { s with serverList := list, objects := n } = { s.ledger with
      holder := Function.update s.ledger.holder (.server i) (list[i]?.map (·.obj))
      objects := n } := by
  unfold Plugin.ledger
  rw [objAt_serverList list h n]

theorem objAt_leastFree (s : Plugin) : s.objAt (.client (Maps.leastFree s.clientList)) = none := by
  simp [Plugin.objAt, Std.TreeMap.getElem?_eq_none (Maps.leastFree_notMem s.clientList)]

theorem objAt_greatestFree (s : Plugin) :
    s.objAt (.server (Maps.greatestFree s.serverList)) = none := by
  simp [Plugin.objAt, Std.TreeMap.getElem?_eq_none (Maps.greatestFree_notMem s.serverList)]

/-- A move is a step of the ledger, or none. -/
theorem Move.ledger {s t : Plugin} (h : Move s t) :
    Ledger.Run s.ledger t.ledger := by
  cases h with
  | @setClient i r r' hi hobj hid =>
    unfold Plugin.ledger
    rw [objAt_setClient hi hobj]
  | @setServer i r r' hi hr =>
    unfold Plugin.ledger
    rw [objAt_setServer hi hr.obj.1]
  | @queue q h =>
    have : (s.push q).ledger = { s.ledger with
        posts := s.ledger.posts ++ [⟨q.msg.place, q.origin.obj, q⟩] } := by
      simp only [Plugin.ledger, Plugin.push, List.map_append, List.map_singleton]
      rfl
    rw [this]
    exact .single (.post q h)
  | newClient hobj hid =>
    rw [ledger_clientList _ fun j hj => Maps.getElem?_insertIfNew_of_ne hj,
      Maps.getElem?_insertIfNew_self (Maps.leastFree_notMem _), Option.map_some, hobj]
    exact .single (.acquire (objAt_leastFree s))
  | newServer hobj hid hclients hreverse =>
    rw [ledger_serverList _ fun j hj => Maps.getElem?_insertIfNew_of_ne hj,
      Maps.getElem?_insertIfNew_self (Maps.greatestFree_notMem _), Option.map_some, hobj]
    exact .single (.acquire (objAt_greatestFree s))
  | eraseClient i =>
    have heq := ledger_clientList (s.clientList.erase i)
      (fun j hj => Maps.getElem?_erase_of_ne hj) s.objects
    rw [Std.TreeMap.getElem?_erase_self, Option.map_none] at heq
    rw [heq]
    exact .single (.release _)
  | eraseServer i =>
    have heq := ledger_serverList (s.serverList.erase i)
      (fun j hj => Maps.getElem?_erase_of_ne hj) s.objects
    rw [Std.TreeMap.getElem?_erase_self, Option.map_none] at heq
    rw [heq]
    exact .single (.release _)
  | @pop q qs h =>
    refine .single (.take (p := ⟨q.msg.place, q.origin.obj, q⟩) ?_)
    simp [Plugin.ledger, h]

/-! ## Every step is a sequence of moves -/

section Steps

variable {s t u : Plugin}

theorem Moves.inv (h : Moves s t) (hs : Inv s) : Inv t := by
  induction h with
  | refl => exact hs
  | tail _ h ih => exact h.inv ih

theorem Moves.alive (h : Moves s t) (hs : s.Alive) : t.Alive := by
  induction h with
  | refl => exact hs
  | tail _ h ih => exact h.alive ih

theorem Moves.ledger (h : Moves s t) : Ledger.Run s.ledger t.ledger := by
  induction h with
  | refl => exact .refl
  | tail _ h ih => exact ih.trans h.ledger

theorem place_server {i : ℤ} (hi : i ≤ -1) {m : Message} (hm : m.server = i) :
    m.place = .server i := by
  unfold Message.place
  rw [if_neg (by omega), hm]

theorem place_client {i : ℤ} {m : Message} (hm : m.server = 0) (hm' : m.client = i) :
    m.place = .client i := by
  unfold Message.place
  rw [if_pos hm, hm']

theorem serverHandler_moves (hs : Inv s) {look : ServerRef → Conn → ServerRef × ℤ} {p : Conn}
    (hlook : ∀ r, ServerMove r (look r p).1) (type : String) (info : JsonObject) (i : ℤ) :
    Moves s (serverHandler H look type info s i p) := by
  unfold serverHandler
  rcases hi : s.serverList[i]? with _ | r
  · exact .refl
  · refine .tail (.single (.setServer hi (hlook r))) (.queue ?_)
    rw [place_server (hs.server hi).1 rfl]
    simp [Plugin.objAt, (hlook r).obj.1]

theorem lookOf_move (type : MessageType) (r : ServerRef) (p : Conn) :
    ServerMove r (lookOf type r p).1 := by
  cases type with
  | «open» => exact .register p
  | close => exact .unregister p
  | _ => exact .settings rfl rfl rfl rfl

/-- The seven handlers of a server are one. -/
theorem serverCallback_eq (s : Plugin) (i : ℤ) (p : Conn) (msg : WebSocketMessage) :
    serverCallback H s i p msg
      = serverHandler H (lookOf msg.type) msg.type.text msg.info s i p := by
  unfold serverCallback WebSocketMessage.info
  split <;> rename_i h <;> rw [h] <;> rfl

theorem serverCallback_moves (hs : Inv s) (i : ℤ) (p : Conn) (msg : WebSocketMessage) :
    Moves s (serverCallback H s i p msg) := by
  rw [serverCallback_eq]
  exact serverHandler_moves hs (fun r => lookOf_move msg.type r p) _ _ i

theorem clientHandler_moves (type : String) (info : JsonObject) (i : ℤ) :
    Moves s (clientHandler H type info s i) := by
  unfold clientHandler
  rcases hi : s.clientList[i]? with _ | r
  · exact .refl
  · refine .single (.queue ?_)
    rw [place_client rfl rfl]
    simp [Plugin.objAt, Message.create, hi]

/-- A client's id is no server's, so the `open` handler of a client finds nothing. -/
theorem websocketclientOpen_eq (hs : Inv s) {i : ℤ} (hi : 1 ≤ i) (info : OpenInfo) :
    websocketclientOpen H s i info = s := by
  unfold websocketclientOpen
  rw [hs.no_server (by omega)]

theorem clientCallback_moves (hs : Inv s) {i : ℤ} (hi : 1 ≤ i) (msg : WebSocketMessage) :
    Moves s (clientCallback H s i msg) := by
  unfold clientCallback
  split
  · exact clientHandler_moves _ _ i
  · rw [websocketclientOpen_eq hs hi]
  all_goals exact clientHandler_moves _ _ i

theorem clientFired_moves (hs : Inv s) {i : ℤ} (hi : 1 ≤ i) (fired : List WebSocketMessage) :
    Moves s (fired.foldl (clientCallback H · i) s) := by
  induction fired generalizing s with
  | nil => exact .refl
  | cons msg fired ih =>
    have h : Moves s (clientCallback H s i msg) := clientCallback_moves hs hi msg
    exact h.trans (ih (h.inv hs))

theorem serverFired_moves (hs : Inv s) (i : ℤ) (fired : List (Conn × WebSocketMessage)) :
    Moves s (fired.foldl (fun s e => serverCallback H s i e.1 e.2) s) := by
  induction fired generalizing s with
  | nil => exact .refl
  | cons e fired ih =>
    have h : Moves s (serverCallback H s i e.1 e.2) := serverCallback_moves hs i e.1 e.2
    exact h.trans (ih (h.inv hs))

/-- What a command whose handle says `i` can do to the registries, and at which place. -/
inductive CommandStep (H : Host) (s : Plugin) (i : ℤ) : Place → Plugin → Prop
  | none (k : Place) : CommandStep H s i k s
  | setClient {r : ClientRef} (param : Option PAObject) (h : s.clientList[i]? = some r) :
      CommandStep H s i (.client i)
        { s with clientList := s.clientList.insert i (r.setParams H param) }
  | setServer {r : ServerRef} (param : Option PAObject) (h : s.serverList[i]? = some r) :
      CommandStep H s i (.server i)
        { s with serverList := s.serverList.insert i (r.setParams H param) }
  | clearClient {r : ClientRef} {t : Plugin} (h : s.clientList[i]? = some r)
      (fired : List WebSocketMessage) (ht : fired.foldl (clientCallback H · i) s = t) :
      CommandStep H s i (.client i) { t with clientList := t.clientList.erase i }
  | clearServer {t : Plugin} (fired : List (Conn × WebSocketMessage))
      (ht : fired.foldl (fun s e => serverCallback H s i e.1 e.2) s = t) :
      CommandStep H s i (.server i) { t with serverList := t.serverList.erase i }

theorem clientSetParams_step (i : ℤ) (param : Option PAObject) :
    CommandStep H s i (.client i) (clientSetParams H s i param).1 := by
  unfold clientSetParams ClientRef.ref
  split
  · exact .none _
  · rename_i r hr
    exact .setClient param hr

theorem serverSetParams_step (i : ℤ) (param : Option PAObject) :
    CommandStep H s i (.server i) (serverSetParams H s i param).1 := by
  unfold serverSetParams ServerRef.ref
  split
  · exact .none _
  · rename_i r hr
    exact .setServer param hr

theorem runCommand_step (s : Plugin) (param : Option PAObject) (c : Command) :
    CommandStep H s (refParam H param) (c.place (refParam H param)) (runCommand H s param c).1 := by
  cases c with
  | clientStart success =>
    simp only [runCommand, websocketClientStart]
    split
    · exact .none _
    · exact clientSetParams_step _ param
  | serverStart success =>
    simp only [runCommand, websocketServerStart]
    split
    · exact .none _
    · exact serverSetParams_step _ param
  | clientStop =>
    simp only [runCommand, websocketClientStop]
    split
    · exact .none _
    · exact clientSetParams_step _ param
  | serverStop =>
    simp only [runCommand, websocketServerStop]
    split
    · exact .none _
    · exact serverSetParams_step _ param
  | clientSend data =>
    simp only [runCommand, websocketClientSend]
    split
    · exact .none _
    · exact clientSetParams_step _ param
  | serverSend data outcome =>
    simp only [runCommand, websocketServerSend]
    split
    · exact .none _
    · exact serverSetParams_step _ param
  | clientClear fired =>
    simp only [runCommand, websocketClientClear, ClientRef.ref]
    split
    · exact .none _
    · rename_i r hr
      exact .clearClient hr fired rfl
  | serverClear fired =>
    simp only [runCommand, websocketServerClear]
    split
    · exact .none _
    · exact .clearServer fired rfl
  | serverClients => exact .none _
  | serverMessages => exact .none _
  | clientMessages => exact .none _

theorem CommandStep.moves {i : ℤ} {k : Place} (h : CommandStep H s i k t) (hs : Inv s) :
    Moves s t := by
  cases h with
  | none => exact .refl
  | setClient param hr => exact .single (.setClient hr rfl rfl)
  | setServer param hr =>
    refine .single (.setServer hr (.settings ?_ ?_ ?_ ?_)) <;> rfl
  | clearClient hr fired ht =>
    subst ht
    exact (clientFired_moves hs (hs.client hr).1 fired).tail (.eraseClient _)
  | clearServer fired ht =>
    subst ht
    exact (serverFired_moves hs _ fired).tail (.eraseServer _)

theorem step_moves (hs : Inv s) {a : Action} (h : step H s a = some t) : Moves s t := by
  cases a with
  | client param =>
    simp only [step, Option.some.injEq] at h
    subst h
    refine .tail (.single (.newClient (r := _) ?_ rfl))
      (.setClient (Maps.getElem?_insertIfNew_self (Maps.leastFree_notMem _)) ?_ ?_)
    all_goals rfl
  | server param =>
    simp only [step, Option.some.injEq] at h
    subst h
    exact .single (.newServer rfl rfl rfl rfl)
  | command c param =>
    simp only [step, Option.some.injEq] at h
    subst h
    exact (runCommand_step s param c).moves hs
  | clientEvent i msg =>
    obtain ⟨r, hr, rfl⟩ := Option.map_eq_some_iff.1 h
    exact clientCallback_moves hs (hs.client hr).1 msg
  | serverEvent i p msg =>
    obtain ⟨r, hr, rfl⟩ := Option.map_eq_some_iff.1 h
    exact serverCallback_moves hs i p msg
  | hold i conns =>
    obtain ⟨r, hr, rfl⟩ := Option.map_eq_some_iff.1 h
    refine .single (.setServer hr (.settings ?_ ?_ ?_ ?_)) <;> rfl
  | deliver =>
    simp only [step] at h
    split at h
    · simp at h
    · rename_i q qs hq
      simp only [Option.some.injEq] at h
      subst h
      exact .single (.pop hq)

theorem run_inv (hs : Inv s) {as : List Action} (h : Runs.Run (step H) s as t) : Inv t :=
  h.invariant (fun _ _ _ _ hstep hs => (step_moves hs hstep).inv hs) hs

theorem reachable_inv (h : Reachable H s) : Inv s := by
  obtain ⟨as, h⟩ := h
  exact run_inv inv_init h

theorem reachable_alive (h : Reachable H s) : s.Alive := by
  refine (h.invariant (I := fun s => Inv s ∧ s.Alive) ?_ ⟨inv_init, rfl, rfl⟩).2
  rintro s a t hstep ⟨hs, halive⟩
  have h := step_moves hs hstep
  exact ⟨h.inv hs, h.alive halive⟩

/-- Along a run the plugin is a ledger. -/
theorem run_ledger (hs : Inv s) {as : List Action} (h : Runs.Run (step H) s as t) :
    Ledger.Run s.ledger t.ledger := by
  induction h with
  | nil => exact .refl
  | cons _ hstep _ ih =>
    have hm := step_moves hs hstep
    exact hm.ledger.trans (ih (hm.inv hs))

theorem reachable_ledger (h : Reachable H s) : Ledger.Inv s.ledger := by
  obtain ⟨as, h⟩ := h
  have hinit : Ledger.Inv (Plugin.ledger {}) := by
    refine ⟨fun {k o} h => ?_, fun {k k' o} h => ?_, by simp [Plugin.ledger],
      by simp [Plugin.ledger]⟩ <;> rcases k with i | i <;> simp [Plugin.ledger, Plugin.objAt] at h
  exact hinit.run (run_ledger inv_init h)

end Steps

end IxWebsocket
