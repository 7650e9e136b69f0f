import IxWebsocket.Proofs.Moves

/-!
# What an event queues

The callback of a live ref queues one message, with the type of the event and the routing of that
ref, and only that ref's query lists it. The constructor of the message looks the ref up a second
time, among the servers first: a client's message has server 0, and no server has that id.

The `open` handler of a client looks the client up among the servers, so a client's open event
is the one that is lost.
-/

namespace IxWebsocket

variable {H : Host}

/-! ## Statements -/

/-- An ASCII literal in UTF-16. -/
def wide (s : String) : CUTF16String := (ascii s).map UInt8.toUInt16

/-- The callback of the ref at a place. -/
def runCallback (H : Host) (s : Plugin) : Place → Conn → WebSocketMessage → Plugin
  | .client i, _, msg => clientCallback H s i msg
  | .server i, p, msg => serverCallback H s i p msg

def Place.isClient : Place → Bool
  | .client _ => true
  | .server _ => false

/-- The message says it is of this place. -/
def Place.Names : Place → Message → Prop
  | .client i, m => m.server = 0 ∧ m.client = i
  | .server i, m => m.server = i

/-- One message more, in the place's name and of the given type. -/
def Queues (s t : Plugin) (k : Place) (type : MessageType) : Prop :=
  ∃ q, t.messages = s.messages ++ [q] ∧ q.msg.type = wide type.text ∧ k.Names q.msg

/-- Where the host delivers a message to. -/
structure Routing where
  method : CUTF16String
  worker : CUTF16String
  window : ℤ
  process : ℤ
  deriving DecidableEq

def Message.routing (m : Message) : Routing := ⟨m.method, m.worker, m.window, m.process⟩

def ClientRef.routing (r : ClientRef) : Routing := ⟨r.method, r.worker, r.window, r.process⟩

def ServerRef.routing (r : ServerRef) : Routing := ⟨r.method, r.worker, r.window, r.process⟩

def Plugin.routing (s : Plugin) : Place → Option Routing
  | .client i => s.clientList[i]?.map (·.routing)
  | .server i => s.serverList[i]?.map (·.routing)

/-- The query of the live ref at a place lists the message. -/
def Plugin.accepts (s : Plugin) (m : Message) : Place → Bool
  | .client i => s.clientList[i]?.any fun r => clientSelects r.id m
  | .server i => s.serverList[i]?.any fun r => serverSelects r.id m

/-! ## One message for one event -/

theorem convert_ascii {s : Bytes} (h : ∀ b ∈ s, b ≠ 0 ∧ b < 128) :
    convert H s = s.map UInt8.toUInt16 := by
  have hs : cstr s = s := List.takeWhile_eq_self_iff.2 fun b hb => by simpa using (h b hb).1
  have hm : cstr (s.map UInt8.toUInt16) = s.map UInt8.toUInt16 := by
    refine List.takeWhile_eq_self_iff.2 fun c hc => ?_
    obtain ⟨b, hb, rfl⟩ := List.mem_map.1 hc
    have := (h b hb).1
    simpa [← UInt16.toNat_inj, ← UInt8.toNat_inj] using this
  rw [convert, hs, H.fromUtf8_ascii s fun b hb => (h b hb).2, Option.map_some, hm,
    Option.getD_some]

theorem convert_text (type : MessageType) : convert H (ascii type.text) = wide type.text := by
  cases type <;> exact convert_ascii (by decide +kernel)

theorem Message.create_client {s : Plugin} (hs : Inv s) {i : ℤ} {r : ClientRef}
    (hi : s.clientList[i]? = some r) (type headers : Bytes) :
    (Message.create H s 0 i type headers r.window r.process).routing = r.routing := by
  simp [Message.create, Message.routing, ClientRef.routing, hs.no_server le_rfl, hi]

theorem Message.create_server {s : Plugin} {i : ℤ} {r : ServerRef}
    (hi : s.serverList[i]? = some r) (j : ℤ) (type headers : Bytes) :
    (Message.create H s i j type headers r.window r.process).routing = r.routing := by
  simp [Message.create, Message.routing, ServerRef.routing, hi]

theorem clientHandler_spec {s : Plugin} (hs : Inv s) {i : ℤ} {r : ClientRef}
    (hi : s.clientList[i]? = some r) (type : MessageType) (info : JsonObject) :
    ∃ q, clientHandler H type.text info s i = s.push q ∧ q.msg.type = wide type.text
      ∧ (Place.client i).Names q.msg ∧ q.msg.routing = r.routing ∧ q.origin = ⟨r.obj, none⟩ := by
  unfold clientHandler
  rw [hi]
  exact ⟨_, rfl, convert_text type, ⟨rfl, rfl⟩, Message.create_client hs hi _ _, rfl⟩

theorem serverHandler_spec {s : Plugin} {look : ServerRef → Conn → ServerRef × ℤ} {i : ℤ}
    {p : Conn} {r : ServerRef} (hi : s.serverList[i]? = some r)
    (hlook : (look r p).1.routing = r.routing) (type : MessageType) (info : JsonObject) :
    ∃ q, serverHandler H look type.text info s i p
        = { s with serverList := s.serverList.insert i (look r p).1 }.push q
      ∧ q.msg.type = wide type.text ∧ (Place.server i).Names q.msg ∧ q.msg.client = (look r p).2
      ∧ q.msg.routing = r.routing ∧ q.origin = ⟨r.obj, some p⟩ := by
  unfold serverHandler
  rw [hi]
  refine ⟨_, rfl, convert_text type, rfl, rfl, ?_, rfl⟩
  rw [← hlook]
  exact Message.create_server (by simp) _ _ _

theorem unregisterClient_routing (r : ServerRef) (p : Conn) :
    (r.unregisterClient p).1.routing = r.routing := by
  unfold ServerRef.unregisterClient
  split <;> rfl

theorem lookOf_routing (type : MessageType) (r : ServerRef) (p : Conn) :
    (lookOf type r p).1.routing = r.routing := by
  cases type with
  | close => exact unregisterClient_routing r p
  | _ => rfl

theorem clientCallback_eq {s : Plugin} {i : ℤ} {msg : WebSocketMessage} (h : msg.type ≠ .open) :
    clientCallback H s i msg = clientHandler H msg.type.text msg.info s i := by
  unfold clientCallback WebSocketMessage.info
  split <;> rename_i ht <;> first | exact absurd ht h | (rw [ht]; rfl)

theorem clientCallback_open {s : Plugin} (hs : Inv s) {i : ℤ} (hi : 1 ≤ i)
    {msg : WebSocketMessage} (h : msg.type = .open) : clientCallback H s i msg = s := by
  unfold clientCallback
  rw [h]
  exact websocketclientOpen_eq hs hi _

/-- The callback of a live ref queues one message, the open event of a client apart. -/
theorem runCallback_spec {s : Plugin} (hs : Inv s) {k : Place} {o : ℕ} (hk : s.objAt k = some o)
    (p : Conn) {msg : WebSocketMessage} (hopen : ¬ (k.isClient ∧ msg.type = .open)) :
    ∃ q list, runCallback H s k p msg = { s with serverList := list }.push q
      ∧ q.msg.type = wide msg.type.text ∧ k.Names q.msg ∧ s.routing k = some q.msg.routing := by
  rcases k with i | i
  · obtain ⟨r, hi, rfl⟩ := objAt_client_eq_some.1 hk
    have he := clientCallback_eq (H := H) (s := s) (i := i) fun h => hopen ⟨rfl, h⟩
    obtain ⟨q, hq, htype, hnames, hrouting, -⟩ :=
      clientHandler_spec (H := H) hs hi msg.type msg.info
    refine ⟨q, s.serverList, he.trans hq, htype, hnames, ?_⟩
    rw [Plugin.routing, hi, Option.map_some, hrouting]
  · obtain ⟨r, hi, rfl⟩ := objAt_server_eq_some.1 hk
    have he := serverCallback_eq (H := H) s i p msg
    obtain ⟨q, hq, htype, hnames, -, hrouting, -⟩ :=
      serverHandler_spec (H := H) hi (lookOf_routing msg.type r p) msg.type msg.info
    refine ⟨q, _, he.trans hq, htype, hnames, ?_⟩
    rw [Plugin.routing, hi, Option.map_some, hrouting]

theorem runCallback_clientOpen {s : Plugin} (hs : Inv s) {k : Place} {o : ℕ}
    (hk : s.objAt k = some o) (p : Conn) {msg : WebSocketMessage}
    (hopen : k.isClient ∧ msg.type = .open) : runCallback H s k p msg = s := by
  rcases k with i | i
  · obtain ⟨r, hi, -⟩ := objAt_client_eq_some.1 hk
    exact clientCallback_open hs (hs.client hi).1 hopen.2
  · simp [Place.isClient] at hopen

/-- The event of a live ref is queued, unless it is the open event of a client. -/
theorem event_queued_iff {s : Plugin} (hs : Reachable H s) {k : Place}
    (hk : (s.objAt k).isSome) (p : Conn) (msg : WebSocketMessage) :
    Queues s (runCallback H s k p msg) k msg.type ↔ ¬ (k.isClient ∧ msg.type = .open) := by
  have hI := reachable_inv hs
  obtain ⟨o, ho⟩ := Option.isSome_iff_exists.1 hk
  constructor
  · rintro ⟨q, hq, -, -⟩ hopen
    rw [runCallback_clientOpen hI ho p hopen] at hq
    simp at hq
  · intro hne
    obtain ⟨q, list, hq, htype, hnames, -⟩ := runCallback_spec (H := H) hI ho p hne
    refine ⟨q, ?_, htype, hnames⟩
    rw [hq]
    rfl

/-! ## A client that is opened -/

/-- The plugin after one `Websocket_client`. -/
def oneClient : Plugin := (websocketClient .plain {} none).1

theorem oneClient_reachable : Reachable .plain oneClient :=
  Runs.reachable_of_exec [.client none] rfl

theorem oneClient_live : (oneClient.objAt (.client 1)).isSome := by decide

theorem oneClient_message_queued :
    Queues oneClient (runCallback .plain oneClient (.client 1) 0 { type := .message })
      (.client 1) .message :=
  (event_queued_iff oneClient_reachable oneClient_live 0 { type := .message }).2 (by decide)

/-- Its open event leaves nothing in the list. -/
theorem oneClient_open_lost :
    Reachable .plain oneClient ∧ (oneClient.objAt (.client 1)).isSome
      ∧ ¬ Queues oneClient (runCallback .plain oneClient (.client 1) 0 { type := .open })
        (.client 1) .open := by
  refine ⟨oneClient_reachable, oneClient_live, ?_⟩
  rintro ⟨q, hq, -⟩
  have hempty : (runCallback .plain oneClient (.client 1) 0 { type := .open }).messages = [] := rfl
  rw [hempty] at hq
  simp at hq

/-! ## The routing of what is queued -/

/-- The `server` field of the messages of a place. -/
def Place.serverField : Place → ℤ
  | .client _ => 0
  | .server i => i

/-- A message in the name of one live ref is listed by the query of that ref only. -/
theorem accepts_iff {s : Plugin} (hs : Inv s) {k k' : Place} (hk : (s.objAt k).isSome)
    (hk' : (s.objAt k').isSome) {m : Message} (hm : k.Names m) :
    s.accepts m k' = true ↔ k' = k := by
  rcases k with i | i <;> rcases k' with j | j <;>
    simp only [Plugin.objAt, Option.isSome_map, Option.isSome_iff_exists] at hk hk' <;>
    obtain ⟨r, hr⟩ := hk <;> obtain ⟨r', hr'⟩ := hk'
  · obtain ⟨hm0, hmi⟩ := hm
    simp [Plugin.accepts, hr', (hs.client hr').2, clientSelects, hm0, hmi]
  · have hj := (hs.server hr').1
    simp only [Plugin.accepts, hr', Option.any_some, serverSelects, hm.1, (hs.server hr').2.1,
      decide_eq_true_eq, reduceCtorEq, iff_false]
    omega
  · have hi := (hs.server hr).1
    simp only [Place.Names] at hm
    simp only [Plugin.accepts, hr', Option.any_some, clientSelects, hm, decide_eq_true_eq,
      reduceCtorEq, iff_false, not_and]
    omega
  · simp only [Place.Names] at hm
    simp [Plugin.accepts, hr', (hs.server hr').2.1, serverSelects, hm]

/-- What a handler run on a live ref queues carries that ref's routing, and of all live refs it is
listed by this one only. -/
theorem event_routing {s : Plugin} (hs : Reachable H s) {k : Place} (hk : (s.objAt k).isSome)
    (p : Conn) (msg : WebSocketMessage) {q : Queued}
    (h : (runCallback H s k p msg).messages = s.messages ++ [q]) :
    s.routing k = some q.msg.routing ∧ q.msg.server = k.serverField
      ∧ ∀ k', (s.objAt k').isSome → (s.accepts q.msg k' = true ↔ k' = k) := by
  have hI := reachable_inv hs
  obtain ⟨o, ho⟩ := Option.isSome_iff_exists.1 hk
  have hne : ¬ (k.isClient ∧ msg.type = .open) := by
    intro hopen
    rw [runCallback_clientOpen hI ho p hopen] at h
    simp at h
  obtain ⟨q', list, hq', -, hnames, hrouting⟩ := runCallback_spec (H := H) hI ho p hne
  obtain rfl : q' = q := by simpa [hq', Plugin.push] using h
  refine ⟨hrouting, ?_, fun k' hk' => accepts_iff hI hk hk' hnames⟩
  rcases k with i | i
  · exact hnames.1
  · exact hnames

/-- A client with id 1, and a server whose first connection has just been opened as 1 too. -/
def clientAndServer : Plugin := (websocketServer .plain oneClient none).1

theorem clientAndServer_reachable : Reachable .plain clientAndServer :=
  Runs.reachable_of_exec [.client none, .server none] rfl

theorem clientAndServer_open_routing :
    ∃ q, (runCallback .plain clientAndServer (.server (-1)) 7 { type := .open }).messages = [q]
      ∧ q.msg.client = 1 ∧ clientAndServer.accepts q.msg (.client 1) = false
      ∧ clientAndServer.accepts q.msg (.server (-1)) = true := by
  refine ⟨_, rfl, rfl, ?_⟩
  have h := (event_routing clientAndServer_reachable (k := .server (-1)) (by decide) 7
    { type := .open } rfl).2.2
  refine ⟨?_, (h (.server (-1)) (by decide)).2 rfl⟩
  rw [Bool.eq_false_iff]
  exact fun hc => absurd ((h (.client 1) (by decide)).1 hc) (by decide)

end IxWebsocket
