import IxWebsocket.Registries
import IxWebsocket.Locking
import IxWebsocket.Lib.Guards

/-!
# Where an invocation can run out of memory

Each function as the allocations it makes and the mutexes it takes, in the order of the source. A
string, a vector or an object that is built is one allocation, and so is a call of jsoncpp, of a
container or of IXWebSocket, whatever it allocates inside. The 4D API does not throw.

Whoever locks by a `lock_guard` is `Guarded`; the two messages queries lock by hand.
-/

namespace IxWebsocket

namespace Failures

open Guards (lock unlock)
open Guards.Guarded (alloc guard noexcept)
open Locking (Mutex)

abbrev Call (α : Type) := Guards.Guarded Mutex α

inductive Platform
  | windows
  | mac

/-- The state in which the plugin is called, and what the calls answer that it makes. -/
structure Env where
  platform : Platform
  host : Host
  plugin : Plugin
  /-- The host gives an object to answer with. -/
  answered : Bool
  /-- `message_list_mutex.try_lock()` -/
  locked : Bool
  /-- The command is given a blob. -/
  blob : Bool
  /-- `JSON Parse` gives an object for the context of the message. -/
  parsed : Message → Bool
  /-- What `connect` answers. -/
  success : Bool
  errorStr : Bytes
  uri : Bytes
  headers : HttpHeaders
  /-- What `listen` answers. -/
  listening : Bool
  message : Bytes
  /-- The callbacks of client `i` that the `n`-th call of IXWebSocket runs before it returns. -/
  clientFired : ℤ → ℕ → List WebSocketMessage
  serverFired : ℤ → ℕ → List (Conn × WebSocketMessage)

variable (e : Env)

/-! ## Host objects -/

/-- A key is ASCII, so it converts. -/
def jsonWconv : Call Unit :=
  match e.platform with
  | .windows => alloc
  | .mac => do alloc; alloc

def obIsDefined (obj : Option PAObject) (key : String) : Call Bool := do
  if obj.isSome then jsonWconv e
  return IxWebsocket.obIsDefined obj key

def obGetA (obj : Option PAObject) (key : String) : Call Unit := do
  if obj.isSome then
    jsonWconv e
    if let some (.unistring _) := obGet obj key then alloc

def obGetS (obj : Option PAObject) (key : String) : Call Bool := do
  if obj.isSome then
    jsonWconv e
    if let some (.unistring u) := obGet obj key then
      alloc
      match e.platform, e.host.toUtf8 u with
      | .mac, none => pure ()
      | .windows, none | .windows, some [] => alloc
      | _, some _ => do alloc; alloc
  return IxWebsocket.obIsDefined obj key

def obGetB (obj : Option PAObject) : Call Unit := do
  if obj.isSome then jsonWconv e

def obGetN (obj : Option PAObject) : Call Unit := do
  if obj.isSome then jsonWconv e

def obGetO (obj : Option PAObject) : Call Unit := do
  if obj.isSome then jsonWconv e

def obGetC (obj : Option PAObject) : Call Unit := do
  if obj.isSome then jsonWconv e

def obSetA : Call Unit := jsonWconv e

def obSetO : Call Unit := jsonWconv e

def obSetN : Call Unit := jsonWconv e

def obSetI : Call Unit := jsonWconv e

def obSetB : Call Unit := jsonWconv e

/-- `websocket_event_queue::convert` -/
def convert (text : Bytes) : Call Unit :=
  match e.platform, e.host.fromUtf8 (cstr text) with
  | .mac, none => pure ()
  | .windows, none | .windows, some [] => alloc
  | _, some _ => do alloc; alloc

def obSetS (value : Bytes) : Call Unit := do
  jsonWconv e
  alloc
  convert e value

/-- The conversion in the `ob_set_s` whose key is a `const char *`. -/
def convertTo (text : Bytes) : Call Unit :=
  match e.platform, e.host.fromUtf8 (cstr text) with
  | _, none | .windows, some [] => pure ()
  | _, some _ => do alloc; alloc

/-- That `ob_set_s`. -/
def obSetSName (key value : Bytes) : Call Unit := do
  alloc
  alloc
  convertTo e key
  if let .windows := e.platform then alloc
  convertTo e value

/-! ## The message list -/

def addMessage (server client : ℤ) (type headers : Bytes) : Call Unit := do
  -- `websocket_message` and its four texts
  alloc; alloc; alloc; alloc; alloc
  convert e type
  convert e (cstr headers)
  if e.plugin.serverList[server]?.isSome || e.plugin.clientList[client]?.isSome then
    -- `getWorker` and `getMethod`
    alloc; alloc
  -- `push_back`
  alloc

def getValue (m : Message) : Call Unit := do
  obSetA e
  if e.parsed m then obSetO e

def erase : Call Unit := guard .websocketMessageList (pure ())

/-- `~websocket_message_list` -/
def deleteMessageList : Call Unit := noexcept do
  for _ in e.plugin.messages do erase

/-! ## Callbacks -/

/-- From the context of `members` members to the end of the handler. -/
def queue (server client : ℤ) (type : String) (members : ℕ) (info : JsonObject) : Call Unit := do
  for _ in List.range members do alloc
  -- `StreamWriterBuilder`, `writeString`
  alloc; alloc
  guard .messageList <| addMessage e server client (ascii type) (e.host.writeString info)

/-- Finding `p` copies the set of connections, when `p` is registered. -/
def findClient (ref : ServerRef) (p : Conn) : Call ℤ := do
  if p ∈ ref.clientsReverse then alloc
  return ref.findClient p

def registerClient (ref : ServerRef) (p : Conn) : Call ℤ := do
  alloc; alloc
  return (ref.registerClient p).2

def unregisterClient (ref : ServerRef) (p : Conn) : Call ℤ := return (ref.unregisterClient p).2

def serverHandler (look : ServerRef → Conn → Call ℤ) (type : String) (members : ℕ)
    (info : JsonObject) (i : ℤ) (p : Conn) : Call Unit := do
  if let some ref := e.plugin.serverList[i]? then
    let j ← look ref p
    queue e i j type members info

def websocketserverMessage (i : ℤ) (p : Conn) (msg : WebSocketMessage) : Call Unit :=
  serverHandler e findClient "message" 3 (payloadInfo msg) i p

def websocketserverPing (i : ℤ) (p : Conn) (msg : WebSocketMessage) : Call Unit :=
  serverHandler e findClient "ping" 3 (payloadInfo msg) i p

def websocketserverPong (i : ℤ) (p : Conn) (msg : WebSocketMessage) : Call Unit :=
  serverHandler e findClient "pong" 3 (payloadInfo msg) i p

def websocketserverFragment (i : ℤ) (p : Conn) (msg : WebSocketMessage) : Call Unit :=
  serverHandler e findClient "fragment" 3 (payloadInfo msg) i p

def websocketserverClose (i : ℤ) (p : Conn) (info : CloseInfo) : Call Unit :=
  serverHandler e unregisterClient "close" 3 (closeInfo info) i p

def websocketserverError (i : ℤ) (p : Conn) (info : ErrorInfo) : Call Unit :=
  serverHandler e findClient "error" 5 (errorInfo info) i p

def websocketserverOpen (i : ℤ) (p : Conn) (info : OpenInfo) : Call Unit :=
  serverHandler e registerClient "open" (info.headers.entries.length + 1) (openInfo info) i p

def serverCallback (ref : ℤ) (p : Conn) (msg : WebSocketMessage) : Call Unit :=
  match msg.type with
  | .message => websocketserverMessage e ref p msg
  | .open => websocketserverOpen e ref p msg.openInfo
  | .close => websocketserverClose e ref p msg.closeInfo
  | .error => websocketserverError e ref p msg.errorInfo
  | .ping => websocketserverPing e ref p msg
  | .pong => websocketserverPong e ref p msg
  | .fragment => websocketserverFragment e ref p msg

def clientHandler (type : String) (members : ℕ) (info : JsonObject) (i : ℤ) : Call Unit := do
  if e.plugin.clientList[i]?.isSome then queue e 0 i type members info

def websocketclientMessage (i : ℤ) (msg : WebSocketMessage) : Call Unit :=
  clientHandler e "message" 3 (payloadInfo msg) i

def websocketclientPing (i : ℤ) (msg : WebSocketMessage) : Call Unit :=
  clientHandler e "ping" 3 (payloadInfo msg) i

def websocketclientPong (i : ℤ) (msg : WebSocketMessage) : Call Unit :=
  clientHandler e "pong" 3 (payloadInfo msg) i

def websocketclientFragment (i : ℤ) (msg : WebSocketMessage) : Call Unit :=
  clientHandler e "fragment" 3 (payloadInfo msg) i

def websocketclientClose (i : ℤ) (info : CloseInfo) : Call Unit :=
  clientHandler e "close" 3 (closeInfo info) i

def websocketclientError (i : ℤ) (info : ErrorInfo) : Call Unit :=
  clientHandler e "error" 5 (errorInfo info) i

/-- This one looks `i` up among the servers. -/
def websocketclientOpen (i : ℤ) (info : OpenInfo) : Call Unit := do
  if e.plugin.serverList[i]?.isSome then
    queue e 0 i "open" (info.headers.entries.length + 1) (openInfo info)

def clientCallback (ref : ℤ) (msg : WebSocketMessage) : Call Unit :=
  match msg.type with
  | .message => websocketclientMessage e ref msg
  | .open => websocketclientOpen e ref msg.openInfo
  | .close => websocketclientClose e ref msg.closeInfo
  | .error => websocketclientError e ref msg.errorInfo
  | .ping => websocketclientPing e ref msg
  | .pong => websocketclientPong e ref msg
  | .fragment => websocketclientFragment e ref msg

/-! ## Refs -/

namespace ClientRef

/-- The `n`-th call of IXWebSocket, with the callbacks it runs before it returns. -/
def ix (i : ℤ) (n : ℕ) : Call Unit := do
  alloc
  for msg in e.clientFired i n do clientCallback e i msg

def get (param : Option PAObject) : Call (Option ℕ) := do
  obGetN e param
  return IxWebsocket.ClientRef.get e.host e.plugin param

def ptr (param : Option PAObject) : Call (Option ClientRef) := do
  obGetN e param
  return IxWebsocket.ClientRef.ptr e.host e.plugin param

def setParams (params : Option PAObject) : Call Unit := do
  if ← obIsDefined e params "method" then obGetA e params "method"
  if ← obIsDefined e params "worker" then obGetA e params "worker"
  if ← obIsDefined e params "window" then obGetN e params
  if ← obIsDefined e params "process" then obGetN e params
  if ← obGetS e params "url" then
    -- `url`, `setUrl`
    alloc; alloc
  let _ ← obIsDefined e params "pingInterval"
  let _ ← obIsDefined e params "pingTimeout"
  if ← obIsDefined e params "enableAutomaticReconnection" then obGetB e params
  if ← obIsDefined e params "enablePong" then obGetB e params
  if ← obIsDefined e params "perMessageDeflate" then
    obGetO e params
    let objOption := IxWebsocket.obGetO params "perMessageDeflate"
    obGetB e objOption; obGetB e objOption; obGetB e objOption
    obGetN e objOption; obGetN e objOption
  else if ← obIsDefined e params "disablePerMessageDeflate" then obGetB e params

def getParams (ref : ClientRef) : Call Unit := do
  obSetI e; obSetS e ref.client.url; obSetI e; obSetB e
  -- `objOption`
  obSetB e; obSetB e; obSetB e; obSetI e; obSetI e
  obSetO e; obSetA e; obSetA e; obSetI e; obSetI e

/-- The constructor. -/
def create (params : Option PAObject) : Call Unit := do
  -- `_method`, `_worker`, `_client`
  alloc; alloc; alloc
  setParams e params
  guard .websocketClientRef alloc

/-- `~websocket_client_ref` -/
def destroy (i : ℤ) : Call Unit := noexcept (ix e i 0)

def send (ref : ClientRef) : Call Unit := do
  ix e ref.id 0
  obSetB e; obSetB e; obSetN e; obSetN e

def clear (params : Option PAObject) : Call Unit := guard .websocketClientRef do
  obGetN e params
  let i := refParam e.host params
  if e.plugin.clientList[i]?.isSome then destroy e i

def clearAll : Call Unit := guard .websocketClientRef do
  for it in e.plugin.clientList.toList do destroy e it.1

end ClientRef

namespace ServerRef

def ix (i : ℤ) (n : ℕ) : Call Unit := do
  alloc
  for f in e.serverFired i n do serverCallback e i f.1 f.2

def get (param : Option PAObject) : Call (Option ℕ) := do
  obGetN e param
  return IxWebsocket.ServerRef.get e.host e.plugin param

def ptr (param : Option PAObject) : Call (Option ServerRef) := do
  obGetN e param
  return IxWebsocket.ServerRef.ptr e.host e.plugin param

def setInitParams (params : Option PAObject) : Call Unit := do
  -- `_host`
  if ← obGetS e params "host" then alloc
  if ← obIsDefined e params "port" then obGetN e params
  if ← obIsDefined e params "backlog" then obGetN e params
  if ← obIsDefined e params "maxConnections" then obGetN e params

def setParams (params : Option PAObject) : Call Unit := do
  if ← obIsDefined e params "method" then obGetA e params "method"
  if ← obIsDefined e params "worker" then obGetA e params "worker"
  if ← obIsDefined e params "window" then obGetN e params
  if ← obIsDefined e params "process" then obGetN e params

def getParams (ref : ServerRef) : Call Unit := do
  obSetI e; obSetI e; obSetS e ref.server.host; obSetI e; obSetI e
  obSetA e; obSetA e; obSetI e; obSetI e

def create (params : Option PAObject) : Call Unit := do
  -- `_method`, `_worker`, `_host`
  alloc; alloc; alloc
  setInitParams e params
  -- `_server`
  alloc
  setParams e params
  guard .websocketServerRef alloc

def destroy (i : ℤ) : Call Unit := noexcept (ix e i 0)

def sendTo (ref : ServerRef) (c : PACollection) : Call Unit := do
  for (v, n) in c.zipIdx do
    if let .real x := v then
      if (ref.getClient (e.host.toInt x)).isSome then
        ix e ref.id n
        obSetB e; obSetB e; obSetN e; obSetN e; obSetN e

def sendToAll (ref : ServerRef) : Call Unit := do
  -- `clients`
  alloc
  for (p, n) in ref.server.clients.toList.zipIdx do
    ix e ref.id n
    obSetB e; obSetB e; obSetN e; obSetN e
    let _ ← findClient ref p
    obSetN e

def send (ref : ServerRef) (params : Option PAObject) : Call Unit := do
  obGetC e params
  match IxWebsocket.obGetC params "clients" with
  | some c => sendTo e ref c
  | none => sendToAll e ref

def getClients (ref : ServerRef) : Call Unit := do
  -- `clients`
  alloc
  for p in ref.server.clients.toList do
    if (← findClient ref p) ≠ 0 then alloc

def clear (params : Option PAObject) : Call Unit := guard .websocketServerRef do
  obGetN e params
  let i := refParam e.host params
  if e.plugin.serverList[i]?.isSome then destroy e i

def clearAll : Call Unit := guard .websocketServerRef do
  for it in e.plugin.serverList.toList do destroy e it.1

end ServerRef

/-! ## Commands -/

def websocketClient (param : Option PAObject) : Call Unit := do
  if e.answered then
    alloc
    ClientRef.create e param
    ClientRef.setParams e param
    let ref := (IxWebsocket.ClientRef.construct e.host e.plugin param).2
    ClientRef.getParams e (ref.setParams e.host param)
    -- `setOnMessageCallback`
    alloc

def websocketServer (param : Option PAObject) : Call Unit := do
  if e.answered then
    alloc
    ServerRef.create e param
    ServerRef.getParams e (IxWebsocket.ServerRef.construct e.host e.plugin param).2
    -- `setOnConnectionCallback`
    alloc

def websocketClientStart (param : Option PAObject) : Call Unit := do
  if e.answered then
    if let some _ ← ClientRef.get e param then
      if let some _ ← ClientRef.ptr e param then ClientRef.setParams e param
      if ← obIsDefined e param "timeout" then obGetN e param
      ClientRef.ix e (refParam e.host param) 0
      obSetB e; obSetN e; obSetS e e.errorStr; obSetS e e.uri
      -- `headers`
      alloc
      for it in e.headers.entries do obSetSName e it.1 it.2
      obSetO e
      if e.success then ClientRef.ix e (refParam e.host param) 1

def websocketServerStart (param : Option PAObject) : Call Unit := do
  if e.answered then
    if let some _ ← ServerRef.get e param then
      if let some _ ← ServerRef.ptr e param then ServerRef.setParams e param
      ServerRef.ix e (refParam e.host param) 0
      if e.listening then ServerRef.ix e (refParam e.host param) 1
      obSetB e; obSetS e e.message

def websocketClientSend (param : Option PAObject) : Call Unit := do
  if e.answered then
    if let some ref ← ClientRef.ptr e param then
      ClientRef.setParams e param
      if e.blob then
        -- `data`
        alloc
        ClientRef.send e ref

def websocketServerSend (param : Option PAObject) : Call Unit := do
  if e.answered then
    if let some ref ← ServerRef.ptr e param then
      ServerRef.setParams e param
      if e.blob then
        -- `data`
        alloc
        ServerRef.send e ref param

def websocketClientStop (param : Option PAObject) : Call Unit := do
  if e.answered then
    if let some _ ← ClientRef.get e param then
      if let some ref ← ClientRef.ptr e param then
        ClientRef.setParams e param
        ClientRef.getParams e (ref.setParams e.host param)
      ClientRef.ix e (refParam e.host param) 0

def websocketServerStop (param : Option PAObject) : Call Unit := do
  if e.answered then
    if let some _ ← ServerRef.get e param then
      if let some ref ← ServerRef.ptr e param then
        ServerRef.setParams e param
        ServerRef.getParams e (ref.setParams e.host param)
      ServerRef.ix e (refParam e.host param) 0

def websocketClientClear (param : Option PAObject) : Call Unit := do
  if e.answered then ClientRef.clear e param

def websocketServerClear (param : Option PAObject) : Call Unit := do
  if e.answered then ServerRef.clear e param

def websocketServerClients (param : Option PAObject) : Call Unit := do
  if e.answered then
    if let some ref ← ServerRef.ptr e param then ServerRef.getClients ref

/-- The loop of a messages query: the messages that `select` accepts are listed. -/
def list (select : Message → Bool) : Guards.Call Mutex Unit :=
  e.plugin.messages.forM fun q => if select q.msg then (getValue e q.msg).call else pure ()

/-- The body the messages queries share. -/
def messagesQuery {R : Type} (lookup : Call (Option R)) (select : R → Message → Bool) :
    Guards.Call Mutex Unit := do
  if e.answered then
    if let some ref ← lookup.call then
      if e.locked then
        lock .messageList
        list e (select ref)
        unlock .messageList

def websocketServerMessages (param : Option PAObject) : Guards.Call Mutex Unit :=
  messagesQuery e (ServerRef.ptr e param) fun ref => serverSelects ref.id

def websocketClientMessages (param : Option PAObject) : Guards.Call Mutex Unit :=
  messagesQuery e (ClientRef.ptr e param) fun ref => clientSelects ref.id

/-! ## The entry point -/

def onStartup : Call Unit := do
  -- `message_list`, `event_queue`, `_name`
  alloc; alloc; alloc
  convert e (ascii "$websocket_event_queue")

def onExit : Call Unit := do
  deleteMessageList e
  ClientRef.clearAll e
  ServerRef.clearAll e

inductive Selector
  /-- `kInitPlugin`, `kServerInitPlugin` -/
  | init
  /-- `kDeinitPlugin`, `kServerDeinitPlugin` -/
  | deinit
  | command (n : ℕ)

def pluginMain (selector : Selector) (param : Option PAObject) : Guards.Call Mutex Unit :=
  Guards.catchAll <| match selector with
    | .init => (onStartup e).call
    | .deinit => (onExit e).call
    | .command 1 => (websocketClient e param).call
    | .command 2 => (websocketServer e param).call
    | .command 3 => (websocketClientStart e param).call
    | .command 4 => (websocketServerStart e param).call
    | .command 5 => (websocketClientStop e param).call
    | .command 6 => (websocketServerStop e param).call
    | .command 7 => (websocketClientSend e param).call
    | .command 8 => (websocketServerSend e param).call
    | .command 9 => (websocketClientClear e param).call
    | .command 10 => (websocketServerClear e param).call
    | .command 11 => (websocketServerClients e param).call
    | .command 12 => websocketServerMessages e param
    | .command 13 => websocketClientMessages e param
    | .command _ => pure ()

end Failures

end IxWebsocket
