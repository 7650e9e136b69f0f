import IxWebsocket.Refs
import IxWebsocket.Events

/-!
# The state of the plugin and its event handlers

The two registries and the message list, as one state that every handler and every command takes
to the next. A handler is one atomic step here.

A queued message carries the event it was made for (`origin`) and the number of the object made
for it (`serial`). Neither is in the source and neither is read by a definition that models it.
-/

namespace IxWebsocket

/-- `websocket_message` -/
structure Message where
  server : ℤ
  client : ℤ
  window : ℤ
  process : ℤ
  context : CUTF16String
  type : CUTF16String
  worker : CUTF16String
  method : CUTF16String
  deriving DecidableEq

/-- The ref object, and for a server the connection, an event is of. -/
structure Origin where
  obj : ℕ
  conn : Option Conn
  deriving DecidableEq

structure Queued where
  msg : Message
  origin : Origin
  serial : ℕ
  deriving DecidableEq

structure Plugin where
  /-- `websocket_client_list` -/
  clientList : Std.TreeMap ℤ ClientRef := ∅
  /-- `websocket_server_list` -/
  serverList : Std.TreeMap ℤ ServerRef := ∅
  messages : List Queued := []
  /-- `message_list` has been deleted. -/
  listDeleted : Bool := false
  /-- The messages `addMessage` was called with after that. -/
  late : List Queued := []
  /-- The number of ref objects, and of messages, made so far. -/
  objects : ℕ := 0
  serials : ℕ := 0

variable (H : Host)

/-! ## The message list -/

/-- The constructor of `websocket_message`: method and worker come from a second lookup. -/
def Message.create (s : Plugin) (server client : ℤ) (type headers : Bytes)
    (window process : ℤ) : Message :=
  let (worker, method) := match s.serverList[server]? with
    | some ref => (ref.worker, ref.method)
    | none => match s.clientList[client]? with
      | some ref => (ref.worker, ref.method)
      | none => ([], [])
  { server, client, window, process, type := convert H type, context := convert H headers,
    worker, method }

/-- `messages.push_back`. The vector is global: it is there still when the list is deleted. -/
def Plugin.push (s : Plugin) (q : Queued) : Plugin :=
  { s with
    messages := s.messages ++ [q]
    late := if s.listDeleted then s.late ++ [q] else s.late
    serials := s.serials + 1 }

def addMessage (s : Plugin) (origin : Origin) (server client : ℤ) (type headers : Bytes)
    (window process : ℤ) : Plugin :=
  s.push ⟨Message.create H s server client type (cstr headers) window process, origin, s.serials⟩

/-! ## Server callbacks -/

/-- The body the server handlers share: `look` finds, registers or unregisters the connection. -/
def serverHandler (look : ServerRef → Conn → ServerRef × ℤ) (type : String) (info : JsonObject)
    (s : Plugin) (i : ℤ) (p : Conn) : Plugin :=
  match s.serverList[i]? with
  | none => s
  | some ref =>
    let (ref', j) := look ref p
    addMessage H { s with serverList := s.serverList.insert i ref' } ⟨ref.obj, some p⟩ i j
      (ascii type) (H.writeString info) ref'.window ref'.process

def lookClient (ref : ServerRef) (p : Conn) : ServerRef × ℤ := (ref, ref.findClient p)

/-- What the handler of a server's event does with the connection. -/
def lookOf : MessageType → ServerRef → Conn → ServerRef × ℤ
  | .open => ServerRef.registerClient
  | .close => ServerRef.unregisterClient
  | _ => lookClient

def websocketserverMessage (s : Plugin) (i : ℤ) (p : Conn) (msg : WebSocketMessage) : Plugin :=
  serverHandler H lookClient "message" (payloadInfo msg) s i p

def websocketserverPing (s : Plugin) (i : ℤ) (p : Conn) (msg : WebSocketMessage) : Plugin :=
  serverHandler H lookClient "ping" (payloadInfo msg) s i p

def websocketserverPong (s : Plugin) (i : ℤ) (p : Conn) (msg : WebSocketMessage) : Plugin :=
  serverHandler H lookClient "pong" (payloadInfo msg) s i p

def websocketserverFragment (s : Plugin) (i : ℤ) (p : Conn) (msg : WebSocketMessage) : Plugin :=
  serverHandler H lookClient "fragment" (payloadInfo msg) s i p

def websocketserverClose (s : Plugin) (i : ℤ) (p : Conn) (info : CloseInfo) : Plugin :=
  serverHandler H ServerRef.unregisterClient "close" (closeInfo info) s i p

def websocketserverError (s : Plugin) (i : ℤ) (p : Conn) (info : ErrorInfo) : Plugin :=
  serverHandler H lookClient "error" (errorInfo info) s i p

def websocketserverOpen (s : Plugin) (i : ℤ) (p : Conn) (info : OpenInfo) : Plugin :=
  serverHandler H ServerRef.registerClient "open" (openInfo info) s i p

/-- The callback `Websocket_server` sets on each connection of server `ref`. -/
def serverCallback (s : Plugin) (ref : ℤ) (p : Conn) (msg : WebSocketMessage) : Plugin :=
  match msg.type with
  | .message => websocketserverMessage H s ref p msg
  | .open => websocketserverOpen H s ref p msg.openInfo
  | .close => websocketserverClose H s ref p msg.closeInfo
  | .error => websocketserverError H s ref p msg.errorInfo
  | .ping => websocketserverPing H s ref p msg
  | .pong => websocketserverPong H s ref p msg
  | .fragment => websocketserverFragment H s ref p msg

/-! ## Client callbacks -/

/-- The body the client handlers share, the one of `open` apart. -/
def clientHandler (type : String) (info : JsonObject) (s : Plugin) (i : ℤ) : Plugin :=
  match s.clientList[i]? with
  | none => s
  | some ref =>
    addMessage H s ⟨ref.obj, none⟩ 0 i (ascii type) (H.writeString info) ref.window ref.process

def websocketclientMessage (s : Plugin) (i : ℤ) (msg : WebSocketMessage) : Plugin :=
  clientHandler H "message" (payloadInfo msg) s i

def websocketclientPing (s : Plugin) (i : ℤ) (msg : WebSocketMessage) : Plugin :=
  clientHandler H "ping" (payloadInfo msg) s i

def websocketclientPong (s : Plugin) (i : ℤ) (msg : WebSocketMessage) : Plugin :=
  clientHandler H "pong" (payloadInfo msg) s i

def websocketclientFragment (s : Plugin) (i : ℤ) (msg : WebSocketMessage) : Plugin :=
  clientHandler H "fragment" (payloadInfo msg) s i

def websocketclientClose (s : Plugin) (i : ℤ) (info : CloseInfo) : Plugin :=
  clientHandler H "close" (closeInfo info) s i

def websocketclientError (s : Plugin) (i : ℤ) (info : ErrorInfo) : Plugin :=
  clientHandler H "error" (errorInfo info) s i

/-- This one looks `i` up among the servers. -/
def websocketclientOpen (s : Plugin) (i : ℤ) (info : OpenInfo) : Plugin :=
  match s.serverList[i]? with
  | none => s
  | some ref =>
    addMessage H s ⟨ref.obj, none⟩ 0 i (ascii "open") (H.writeString (openInfo info)) ref.window
      ref.process

/-- The callback `Websocket_client` sets on client `ref`. -/
def clientCallback (s : Plugin) (ref : ℤ) (msg : WebSocketMessage) : Plugin :=
  match msg.type with
  | .message => websocketclientMessage H s ref msg
  | .open => websocketclientOpen H s ref msg.openInfo
  | .close => websocketclientClose H s ref msg.closeInfo
  | .error => websocketclientError H s ref msg.errorInfo
  | .ping => websocketclientPing H s ref msg
  | .pong => websocketclientPong H s ref msg
  | .fragment => websocketclientFragment H s ref msg

end IxWebsocket
