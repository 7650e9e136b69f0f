import IxWebsocket.Plugin
import IxWebsocket.Lib.Runs

/-!
# The commands, and the runs of the plugin

A command resolves the `ref` property of its handle and acts on the object it finds; what it did
to which object is its list of effects. A command called from a process of `PA_NewProcess` gets no
object to answer with and returns at once, so it is no step of a run.

What IXWebSocket answers, and which callbacks a `stop()` fires before it returns, are inputs.
-/

namespace IxWebsocket

variable (H : Host)

/-! ## Lookups -/

/-- `(int)ob_get_n(params, L"ref")` -/
def refParam (params : Option PAObject) : ℤ := H.toInt (obGetN params "ref")

namespace ClientRef

def ref (s : Plugin) (i : ℤ) : Option ClientRef := s.clientList[i]?

def ptr (s : Plugin) (params : Option PAObject) : Option ClientRef := ref s (refParam H params)

/-- The `ix::WebSocket`, named by the ref object that owns it. -/
def find (s : Plugin) (i : ℤ) : Option ℕ := s.clientList[i]?.map (·.obj)

def get (s : Plugin) (params : Option PAObject) : Option ℕ := find s (refParam H params)

end ClientRef

namespace ServerRef

def ref (s : Plugin) (i : ℤ) : Option ServerRef := s.serverList[i]?

def ptr (s : Plugin) (params : Option PAObject) : Option ServerRef := ref s (refParam H params)

def find (s : Plugin) (i : ℤ) : Option ℕ := s.serverList[i]?.map (·.obj)

def get (s : Plugin) (params : Option PAObject) : Option ℕ := find s (refParam H params)

end ServerRef

/-! ## Creation -/

/-- `Websocket_client`: the constructor, then `setParams` once more. -/
def websocketClient (s : Plugin) (param : Option PAObject) : Plugin × PAObject :=
  let i := Maps.leastFree s.clientList
  let ref := { ClientRef.create H s.objects param with id := i }
  let list := s.clientList.insertIfNew i ref
  let ref := ref.setParams H param
  ({ s with clientList := list.insert i ref, objects := s.objects + 1 }, ref.getParams H [])

/-- `Websocket_server` -/
def websocketServer (s : Plugin) (param : Option PAObject) : Plugin × PAObject :=
  let i := Maps.greatestFree s.serverList
  let ref := { ServerRef.create H s.objects param with id := i }
  ({ s with serverList := s.serverList.insertIfNew i ref, objects := s.objects + 1 },
    ref.getParams H [])

/-! ## Commands on a handle -/

inductive Act
  | setParams
  | getParams
  | connect (timeout : ℤ)
  | listen
  | start
  | send (sent : List (Option Conn × Bytes))
  | stop
  | destroy
  | messages
  | clients
  deriving DecidableEq

structure Effect where
  obj : ℕ
  act : Act
  deriving DecidableEq

/-- The commands that take a handle, with what the calls they make answer. -/
inductive Command
  | clientStart (success : Bool)
  | serverStart (success : Bool)
  | clientStop
  | serverStop
  | clientSend (data : Option Bytes)
  | serverSend (data : Option Bytes) (outcome : ℕ → Conn → SendInfo)
  | clientClear (fired : List WebSocketMessage)
  | serverClear (fired : List (Conn × WebSocketMessage))
  | serverClients
  | serverMessages
  | clientMessages

def clientSetParams (s : Plugin) (i : ℤ) (param : Option PAObject) : Plugin × List Effect :=
  match ClientRef.ref s i with
  | none => (s, [])
  | some ref =>
    ({ s with clientList := s.clientList.insert i (ref.setParams H param) },
      [⟨ref.obj, .setParams⟩])

def serverSetParams (s : Plugin) (i : ℤ) (param : Option PAObject) : Plugin × List Effect :=
  match ServerRef.ref s i with
  | none => (s, [])
  | some ref =>
    ({ s with serverList := s.serverList.insert i (ref.setParams H param) },
      [⟨ref.obj, .setParams⟩])

def websocketClientStart (s : Plugin) (param : Option PAObject) (success : Bool) :
    Plugin × List Effect :=
  match ClientRef.get H s param with
  | none => (s, [])
  | some client =>
    let (s, effects) := clientSetParams H s (refParam H param) param
    let timeout := if obIsDefined param "timeout" then H.toInt (obGetN param "timeout") else 20
    (s, effects ++ [⟨client, .connect timeout⟩] ++ if success then [⟨client, .start⟩] else [])

def websocketServerStart (s : Plugin) (param : Option PAObject) (success : Bool) :
    Plugin × List Effect :=
  match ServerRef.get H s param with
  | none => (s, [])
  | some server =>
    let (s, effects) := serverSetParams H s (refParam H param) param
    (s, effects ++ [⟨server, .listen⟩] ++ if success then [⟨server, .start⟩] else [])

def websocketClientSend (s : Plugin) (param : Option PAObject) (data : Option Bytes) :
    Plugin × List Effect :=
  match ClientRef.ptr H s param with
  | none => (s, [])
  | some ref =>
    let (s, effects) := clientSetParams H s (refParam H param) param
    (s, effects ++ (data.map fun data => ⟨ref.obj, .send [(none, data)]⟩).toList)

def websocketServerSend (s : Plugin) (param : Option PAObject) (data : Option Bytes)
    (outcome : ℕ → Conn → SendInfo) : Plugin × List Effect :=
  match ServerRef.ptr H s param with
  | none => (s, [])
  | some ref =>
    let (s, effects) := serverSetParams H s (refParam H param) param
    (s, effects ++ (data.map fun data =>
      ⟨ref.obj, .send ((ref.send H param data outcome).map fun t => (some t.conn, t.data))⟩).toList)

def websocketClientStop (s : Plugin) (param : Option PAObject) : Plugin × List Effect :=
  match ClientRef.get H s param with
  | none => (s, [])
  | some client =>
    let (s, effects) := clientSetParams H s (refParam H param) param
    (s, effects ++ effects.map (fun e => ⟨e.obj, .getParams⟩) ++ [⟨client, .stop⟩])

def websocketServerStop (s : Plugin) (param : Option PAObject) : Plugin × List Effect :=
  match ServerRef.get H s param with
  | none => (s, [])
  | some server =>
    let (s, effects) := serverSetParams H s (refParam H param) param
    (s, effects ++ effects.map (fun e => ⟨e.obj, .getParams⟩) ++ [⟨server, .stop⟩])

/-- `delete it->second` runs the callbacks `stop()` fires; the entry goes after it. -/
def websocketClientClear (s : Plugin) (param : Option PAObject)
    (fired : List WebSocketMessage) : Plugin × List Effect :=
  let i := refParam H param
  match ClientRef.ref s i with
  | none => (s, [])
  | some ref =>
    let s := fired.foldl (clientCallback H · i) s
    ({ s with clientList := s.clientList.erase i }, [⟨ref.obj, .stop⟩, ⟨ref.obj, .destroy⟩])

def websocketServerClear (s : Plugin) (param : Option PAObject)
    (fired : List (Conn × WebSocketMessage)) : Plugin × List Effect :=
  let i := refParam H param
  match ServerRef.ref s i with
  | none => (s, [])
  | some ref =>
    let s := fired.foldl (fun s e => serverCallback H s i e.1 e.2) s
    ({ s with serverList := s.serverList.erase i }, [⟨ref.obj, .stop⟩, ⟨ref.obj, .destroy⟩])

/-- The test by which `Websocket_client_messages` picks the messages of client `i`. -/
def clientSelects (i : ℤ) (m : Message) : Bool := decide (m.server = 0 ∧ i = m.client)

/-- The test by which `Websocket_server_messages` picks the messages of server `i`. -/
def serverSelects (i : ℤ) (m : Message) : Bool := decide (i = m.server)

/-- The messages the command lists, when `try_lock` succeeds (`locked`). -/
def websocketClientMessages (s : Plugin) (param : Option PAObject) (locked : Bool) :
    List Queued :=
  match ClientRef.ptr H s param with
  | none => []
  | some ref => if locked then s.messages.filter fun q => clientSelects ref.id q.msg else []

def websocketServerMessages (s : Plugin) (param : Option PAObject) (locked : Bool) :
    List Queued :=
  match ServerRef.ptr H s param with
  | none => []
  | some ref => if locked then s.messages.filter fun q => serverSelects ref.id q.msg else []

def websocketServerClients (s : Plugin) (param : Option PAObject) : PACollection :=
  match ServerRef.ptr H s param with
  | none => []
  | some ref => ref.getClients.toList.map fun client : ℤ => .real (client : Double)

def runCommand (s : Plugin) (param : Option PAObject) : Command → Plugin × List Effect
  | .clientStart success => websocketClientStart H s param success
  | .serverStart success => websocketServerStart H s param success
  | .clientStop => websocketClientStop H s param
  | .serverStop => websocketServerStop H s param
  | .clientSend data => websocketClientSend H s param data
  | .serverSend data outcome => websocketServerSend H s param data outcome
  | .clientClear fired => websocketClientClear H s param fired
  | .serverClear fired => websocketServerClear H s param fired
  | .serverClients => (s, ((ServerRef.ptr H s param).map (⟨·.obj, .clients⟩)).toList)
  | .serverMessages => (s, ((ServerRef.ptr H s param).map (⟨·.obj, .messages⟩)).toList)
  | .clientMessages => (s, ((ClientRef.ptr H s param).map (⟨·.obj, .messages⟩)).toList)

/-! ## Runs -/

inductive Action
  | client (param : Option PAObject)
  | server (param : Option PAObject)
  | command (c : Command) (param : Option PAObject)
  /-- The callback of a live ref. -/
  | clientEvent (i : ℤ) (msg : WebSocketMessage)
  | serverEvent (i : ℤ) (p : Conn) (msg : WebSocketMessage)
  /-- Server `i` of IXWebSocket now holds `conns`. -/
  | hold (i : ℤ) (conns : Std.TreeSet Conn)
  /-- The event loop is through with the first message. -/
  | deliver

def step (s : Plugin) : Action → Option Plugin
  | .client param => some (websocketClient H s param).1
  | .server param => some (websocketServer H s param).1
  | .command c param => some (runCommand H s param c).1
  | .clientEvent i msg => s.clientList[i]?.map fun _ => clientCallback H s i msg
  | .serverEvent i p msg => s.serverList[i]?.map fun _ => serverCallback H s i p msg
  | .hold i conns => s.serverList[i]?.map fun ref =>
    let server := { ref.server with clients := conns }
    { s with serverList := s.serverList.insert i { ref with server } }
  | .deliver => match s.messages with
    | [] => none
    | _ :: messages => some { s with messages }

/-- The states of the plugin between `OnStartup` and `OnExit`. -/
abbrev Reachable (s : Plugin) : Prop := Runs.Reachable (step H) {} s

/-! ## The end -/

/-- `fired i` are the callbacks the `stop()` of client `i` fires. -/
def ClientRef.clearAll (s : Plugin) (fired : ℤ → List WebSocketMessage) : Plugin :=
  let s := s.clientList.toList.foldl (fun s e => (fired e.1).foldl (clientCallback H · e.1) s) s
  { s with clientList := ∅ }

def ServerRef.clearAll (s : Plugin) (fired : ℤ → List (Conn × WebSocketMessage)) : Plugin :=
  let s := s.serverList.toList.foldl
    (fun s e => (fired e.1).foldl (fun s f => serverCallback H s e.1 f.1 f.2) s) s
  { s with serverList := ∅ }

/-- `delete event_queue` leaves nothing here; `delete message_list` clears the vector. -/
def onExit (s : Plugin) (clientFired : ℤ → List WebSocketMessage)
    (serverFired : ℤ → List (Conn × WebSocketMessage)) : Plugin :=
  let s := { s with messages := [], listDeleted := true }
  let s := ClientRef.clearAll H s clientFired
  ServerRef.clearAll H s serverFired

end IxWebsocket
