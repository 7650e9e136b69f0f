import IxWebsocket.Commands

/-!
# What the commands answer

A command answers with an object or a collection that it fills as it goes; where the handle leads to
no ref, it stays empty. What IXWebSocket and the host answer to the calls in between are inputs, as
for the effects; `parse` is the command JSON Parse of the host, and `name` writes a property name
made from bytes as the other definitions write theirs.
-/

namespace IxWebsocket

variable (H : Host) (parse : CUTF16String → Option PAObject) (name : CUTF16String → String)

/-- `ix::WebSocketInitResult` -/
structure InitResult where
  success : Bool
  httpStatus : ℤ := 0
  errorStr : Bytes := []
  uri : Bytes := []
  headers : HttpHeaders := default

/-- The calls of a command, with what the functions called there answer. -/
inductive Call
  | clientStart (r : InitResult)
  | serverStart (success : Bool) (message : Bytes)
  | clientStop
  | serverStop
  | clientSend (data : Option Bytes) (r : SendInfo)
  | serverSend (data : Option Bytes) (outcome : ℕ → Conn → SendInfo)
  | clientClear (fired : List WebSocketMessage)
  | serverClear (fired : List (Conn × WebSocketMessage))
  | serverClients
  | serverMessages (locked : Bool)
  | clientMessages (locked : Bool)

def Call.command : Call → Command
  | .clientStart r => .clientStart r.success
  | .serverStart success _ => .serverStart success
  | .clientStop => .clientStop
  | .serverStop => .serverStop
  | .clientSend data _ => .clientSend data
  | .serverSend data outcome => .serverSend data outcome
  | .clientClear fired => .clientClear fired
  | .serverClear fired => .serverClear fired
  | .serverClients => .serverClients
  | .serverMessages _ => .serverMessages
  | .clientMessages _ => .clientMessages

inductive Reply
  | object (o : PAObject)
  | collection (c : PACollection)

/-! ## Start and send -/

/-- `ob_set_s` with a name made of bytes. -/
def obSetHeader (header : PAObject) (key value : Bytes) : PAObject :=
  header.set (name (convert H key)) (.unistring (convert H value))

def headerObject (headers : HttpHeaders) : PAObject :=
  headers.entries.foldl (fun header e => obSetHeader H name header e.1 e.2) []

def clientStartReply (r : InitResult) : PAObject :=
  let returnValue := obSetB [] "success" r.success
  let returnValue := obSetN returnValue "http_status" r.httpStatus
  let returnValue := obSetS H returnValue "errorStr" r.errorStr
  let returnValue := obSetS H returnValue "uri" r.uri
  obSetO returnValue "headers" (headerObject H name r.headers)

def serverStartReply (success : Bool) (message : Bytes) : PAObject :=
  obSetS H (obSetB [] "success" success) "message" message

/-- `websocket_client_ref::send` -/
def clientSendReply (r : SendInfo) : PAObject :=
  let result := obSetB [] "success" r.success
  let result := obSetB result "compressionError" r.compressionError
  let result := obSetN result "payloadSize" (.ofSize r.payloadSize)
  obSetN result "wireSize" (.ofSize r.wireSize)

/-! ## Messages -/

/-- The context is an object again where the host can parse it as one. -/
def Message.getValue (m : Message) : PAObject :=
  let message := obSetA [] "type" m.type
  match parse (cstr m.context) with
  | some object => obSetO message "context" object
  | none => message

def messageCollection (qs : List Queued) : PACollection :=
  qs.map fun q => .object (q.msg.getValue parse)

/-! ## All commands -/

/-- What the method that called the command gets back; a stop answers with the settings after those
of the handle have been laid over them. -/
def Call.reply (s : Plugin) (param : Option PAObject) : Call → Reply
  | .clientStart r => .object <| match ClientRef.get H s param with
    | none => []
    | some _ => clientStartReply H name r
  | .serverStart success message => .object <| match ServerRef.get H s param with
    | none => []
    | some _ => serverStartReply H success message
  | .clientStop => .object <| match ClientRef.ptr H s param with
    | none => []
    | some ref => (ref.setParams H param).getParams H []
  | .serverStop => .object <| match ServerRef.ptr H s param with
    | none => []
    | some ref => (ref.setParams H param).getParams H []
  | .clientSend data r => .object <| match ClientRef.ptr H s param, data with
    | some _, some _ => clientSendReply r
    | _, _ => []
  | .serverSend data outcome => .collection <| match ServerRef.ptr H s param, data with
    | some ref, some data =>
      ((ref.setParams H param).send H param data outcome).map fun t => .object t.result
    | _, _ => []
  | .clientClear _ => .object []
  | .serverClear _ => .object []
  | .serverClients => .collection (websocketServerClients H s param)
  | .serverMessages locked =>
    .collection (messageCollection parse (websocketServerMessages H s param locked))
  | .clientMessages locked =>
    .collection (messageCollection parse (websocketClientMessages H s param locked))

end IxWebsocket
