import IxWebsocket.Support
import IxWebsocket.Lib.Maps

/-!
# The two kinds of ref

A `websocket_client_ref` and a `websocket_server_ref` with their settings, and the two maps in
which a server ref keeps the ids of its connections. `obj` names the C++ object: two refs that
get the same `id` one after the other are still two objects.
-/

namespace IxWebsocket

variable (H : Host)

/-- `websocket_client_ref` -/
structure ClientRef where
  obj : ℕ
  client : WebSocket
  method : CUTF16String := []
  worker : CUTF16String := []
  window : ℤ := 0
  process : ℤ := 0
  id : ℤ := 0
  deriving DecidableEq

namespace ClientRef

def setUrl (client : WebSocket) (params : Option PAObject) : WebSocket :=
  let (isDefined, url) := obGetS H params "url" []
  if isDefined then { client with url } else client

def setReconnection (client : WebSocket) (params : Option PAObject) : WebSocket :=
  if obIsDefined params "enableAutomaticReconnection" then
    { client with automaticReconnection := obGetB params "enableAutomaticReconnection" }
  else client

def setPong (client : WebSocket) (params : Option PAObject) : WebSocket :=
  if obIsDefined params "enablePong" then { client with pong := obGetB params "enablePong" }
  else client

def setDeflate (client : WebSocket) (params : Option PAObject) : WebSocket :=
  if obIsDefined params "perMessageDeflate" then
    match obGetO params "perMessageDeflate" with
    | none => client
    | some objOption =>
      let enabled := obGetB objOption "enabled"
      let clientNoContextTakeover := obGetB objOption "clientNoContextTakeover"
      let serverNoContextTakeover := obGetB objOption "serverNoContextTakeover"
      let serverMaxWindowBits := H.toUInt8 (obGetN objOption "serverMaxWindowBits")
      let clientMaxWindowBits := H.toUInt8 (obGetN objOption "clientMaxWindowBits")
      -- the call passes the server's bits where the constructor takes the client's
      { client with
        perMessageDeflateOptions := ⟨enabled, clientNoContextTakeover, serverNoContextTakeover,
          serverMaxWindowBits, clientMaxWindowBits⟩ }
  else if obIsDefined params "disablePerMessageDeflate" then
    if obGetB params "disablePerMessageDeflate" then
      { client with perMessageDeflateOptions := H.deflateDisabled }
    else { client with perMessageDeflateOptions := H.deflateDefaults }
  else client

def setParams (ref : ClientRef) (params : Option PAObject) : ClientRef :=
  { ref with
    method := setText params "method" ref.method
    worker := setText params "worker" ref.worker
    window := setInt H params "window" ref.window
    process := setInt H params "process" ref.process
    client := setDeflate H (setPong (setReconnection (setUrl H ref.client params) params) params)
      params }

def getParams (ref : ClientRef) (params : PAObject) : PAObject :=
  let options := ref.client.perMessageDeflateOptions
  let objOption := obSetB [] "enabled" options.enabled
  let objOption := obSetB objOption "clientNoContextTakeover" options.clientNoContextTakeover
  let objOption := obSetB objOption "serverNoContextTakeover" options.serverNoContextTakeover
  let objOption := obSetI objOption "serverMaxWindowBits" options.serverMaxWindowBits.toNat
  let objOption := obSetI objOption "clientMaxWindowBits" options.clientMaxWindowBits.toNat
  let params := obSetI params "ref" ref.id
  let params := obSetS H params "url" ref.client.url
  let params := obSetI params "pingInterval" ref.client.pingInterval
  let params := obSetB params "isAutomaticReconnectionEnabled" ref.client.automaticReconnection
  let params := obSetO params "perMessageDeflateOptions" objOption
  let params := obSetA params "method" ref.method
  let params := obSetA params "worker" ref.worker
  let params := obSetI params "window" ref.window
  obSetI params "process" ref.process

/-- The constructor up to the allocation of the id, which `websocketClient` does. -/
def create (obj : ℕ) (params : Option PAObject) : ClientRef :=
  setParams H { obj, client := H.webSocket } params

end ClientRef

/-- `websocket_server_ref` -/
structure ServerRef where
  obj : ℕ
  server : WebSocketServer
  method : CUTF16String := []
  worker : CUTF16String := []
  window : ℤ := 0
  process : ℤ := 0
  id : ℤ := 0
  clients : Std.TreeMap ℤ Conn := ∅
  clientsReverse : Std.TreeMap Conn ℤ := ∅

namespace ServerRef

/-- The fields `port`, `host`, `backlog` and `maxConnections`, as given to the
`ix::WebSocketServer` the constructor makes next. -/
def setInitParams (server : WebSocketServer) (params : Option PAObject) : WebSocketServer :=
  let (hostDefined, host) := obGetS H params "host" []
  { server with
    host := if hostDefined then host else server.host
    port := setInt H params "port" server.port
    backlog := setInt H params "backlog" server.backlog
    maxConnections := setSize H params "maxConnections" server.maxConnections }

def setParams (ref : ServerRef) (params : Option PAObject) : ServerRef :=
  { ref with
    method := setText params "method" ref.method
    worker := setText params "worker" ref.worker
    window := setInt H params "window" ref.window
    process := setInt H params "process" ref.process }

def getParams (ref : ServerRef) (params : PAObject) : PAObject :=
  let params := obSetI params "ref" ref.id
  let params := obSetI params "port" ref.server.port
  let params := obSetS H params "host" ref.server.host
  let params := obSetI params "backlog" ref.server.backlog
  let params := obSetI params "maxConnections" (lowInt ref.server.maxConnections)
  let params := obSetA params "method" ref.method
  let params := obSetA params "worker" ref.worker
  let params := obSetI params "window" ref.window
  obSetI params "process" ref.process

/-- The constructor up to the allocation of the id, which `websocketServer` does. -/
def create (obj : ℕ) (params : Option PAObject) : ServerRef :=
  setParams H { obj, server := setInitParams H H.serverDefaults params } params

/-! ## Connections -/

def registerClient (ref : ServerRef) (p : Conn) : ServerRef × ℤ :=
  let i := Maps.leastFree ref.clients
  ({ ref with
      clients := ref.clients.insertIfNew i p
      clientsReverse := ref.clientsReverse.insertIfNew p i }, i)

def unregisterClient (ref : ServerRef) (p : Conn) : ServerRef × ℤ :=
  match ref.clientsReverse[p]? with
  | none => (ref, 0)
  | some i =>
    ({ ref with
        clients := ref.clients.erase i
        clientsReverse := ref.clientsReverse.erase p }, i)

def getClient (ref : ServerRef) (i : ℤ) : Option Conn := ref.clients[i]?

/-- The id of `p`, or 0 unless the server holds `p`. -/
def findClient (ref : ServerRef) (p : Conn) : ℤ :=
  match ref.clientsReverse[p]? with
  | none => 0
  | some i => if p ∈ ref.server.clients then i else 0

def getClients (ref : ServerRef) : Std.TreeSet ℤ :=
  ref.server.clients.toList.foldl
    (fun c p => let i := ref.findClient p; if i ≠ 0 then c.insert i else c) ∅

/-! ## Sending -/

/-- What one `client->send(data)` did, and the entry it adds to the results. -/
structure Transmission where
  conn : Conn
  data : Bytes
  result : PAObject

def sendResult (r : SendInfo) (client : ℤ) : PAObject :=
  let result := obSetB [] "success" r.success
  let result := obSetB result "compressionError" r.compressionError
  let result := obSetN result "payloadSize" (.ofSize r.payloadSize)
  let result := obSetN result "wireSize" (.ofSize r.wireSize)
  obSetN result "client" client

/-- `outcome n p` is what the `n`-th transmission answers when it goes to `p`. -/
def sendTo (ref : ServerRef) (data : Bytes) (outcome : ℕ → Conn → SendInfo) :
    PACollection → ℕ → List Transmission
  | [], _ => []
  | v :: c, n =>
    match v with
    | .real x =>
      let j := H.toInt x
      match ref.getClient j with
      | some client =>
        ⟨client, data, sendResult (outcome n client) j⟩ :: sendTo ref data outcome c (n + 1)
      | none => sendTo ref data outcome c n
    | _ => sendTo ref data outcome c n

def sendToAll (ref : ServerRef) (data : Bytes) (outcome : ℕ → Conn → SendInfo) :
    List Conn → ℕ → List Transmission
  | [], _ => []
  | client :: clients, n =>
    ⟨client, data, sendResult (outcome n client) (ref.findClient client)⟩ ::
      sendToAll ref data outcome clients (n + 1)

def send (ref : ServerRef) (params : Option PAObject) (data : Bytes)
    (outcome : ℕ → Conn → SendInfo) : List Transmission :=
  match obGetC params "clients" with
  | some c => sendTo H ref data outcome c 0
  | none => sendToAll ref data outcome ref.server.clients.toList 0

end ServerRef

end IxWebsocket
