import IxWebsocket.Values

/-!
# Events of IXWebSocket and their JSON context

A callback gets one `ix::WebSocketMessage`, whose `type` says which of its parts is meant. Each
handler writes that part into a JSON object, the context of the message it queues.
-/

namespace IxWebsocket

inductive MessageType
  | message
  | open
  | close
  | error
  | ping
  | pong
  | fragment
  deriving DecidableEq

/-- What the handlers of such an event call it. -/
def MessageType.text : MessageType → String
  | .message => "message"
  | .open => "open"
  | .close => "close"
  | .error => "error"
  | .ping => "ping"
  | .pong => "pong"
  | .fragment => "fragment"

/-- A name in lower case. -/
def nocase (name : Bytes) : Bytes := name.map fun c => if 65 ≤ c ∧ c ≤ 90 then c + 32 else c

/-- `ix::CaseInsensitiveLess`. The source declares it only, so it is any strict order that does not
tell apart what differs in case only. -/
structure CaseInsensitiveLess where
  less : Bytes → Bytes → Bool
  trans : ∀ a b c, less a b → less b c → less a c
  incomparable : ∀ a b, less a b = false ∧ less b a = false ↔ nocase a = nocase b

/-- `ix::WebSocketHttpHeaders`: a map with the comparison it is ordered by, and no two names that
are the same to it. -/
structure HttpHeaders where
  keyComp : CaseInsensitiveLess
  entries : List (Bytes × Bytes)
  sorted : entries.Pairwise fun a b => keyComp.less a.1 b.1

/-- Byte by byte, in lower case. -/
def CaseInsensitiveLess.plain : CaseInsensitiveLess where
  less a b := decide (nocase a < nocase b)
  trans a b c := by
    simp only [decide_eq_true_eq]
    exact List.lt_trans
  incomparable a b := by
    simp only [decide_eq_false_iff_not, List.not_lt]
    exact ⟨fun h => List.le_antisymm h.2 h.1, fun h => ⟨h ▸ List.le_refl _, h ▸ List.le_refl _⟩⟩

instance : Inhabited HttpHeaders := ⟨⟨.plain, [], .nil⟩⟩

structure ErrorInfo where
  retries : UInt32 := 0
  waitTime : Double := (0 : ℤ)
  httpStatus : ℤ := 0
  reason : Bytes := []
  decompressionError : Bool := false

structure OpenInfo where
  uri : Bytes := []
  headers : HttpHeaders := default

structure CloseInfo where
  code : UInt16 := 0
  reason : Bytes := []
  remote : Bool := false

/-- `ix::WebSocketMessage` -/
structure WebSocketMessage where
  type : MessageType
  str : Bytes := []
  wireSize : UInt64 := 0
  errorInfo : ErrorInfo := {}
  openInfo : OpenInfo := {}
  closeInfo : CloseInfo := {}
  binary : Bool := false

/-- `(Json::Int)n` -/
def jsonInt (n : UInt64) : ℤ := lowInt n

/-- The context of message, ping, pong and fragment. -/
def payloadInfo (msg : WebSocketMessage) : JsonObject :=
  (((∅ : JsonObject).insert (ascii "wireSize") (.int (jsonInt msg.wireSize))).insert
    (ascii "binary") (.bool msg.binary)).insert (ascii "data") (.string msg.str)

def closeInfo (info : CloseInfo) : JsonObject :=
  (((∅ : JsonObject).insert (ascii "code") (.int info.code.toNat)).insert
    (ascii "reason") (.string info.reason)).insert (ascii "remote") (.bool info.remote)

def errorInfo (info : ErrorInfo) : JsonObject :=
  (((((∅ : JsonObject).insert (ascii "decompressionError") (.bool info.decompressionError)).insert
    (ascii "reason") (.string info.reason)).insert
    (ascii "http_status") (.int info.httpStatus)).insert
    (ascii "wait_time") (.real info.waitTime)).insert
    (ascii "retries") (.uint info.retries.toNat)

/-- The headers by name, then the uri under a name of its own. -/
def openInfo (info : OpenInfo) : JsonObject :=
  (info.headers.entries.foldl
    (fun json e => json.insert (cstr e.1) (.string (cstr e.2))) (∅ : JsonObject)).insert
    (ascii "uri") (.string info.uri)

/-- The context of an event. -/
def WebSocketMessage.info (msg : WebSocketMessage) : JsonObject :=
  match msg.type with
  | .message | .ping | .pong | .fragment => payloadInfo msg
  | .close => IxWebsocket.closeInfo msg.closeInfo
  | .error => IxWebsocket.errorInfo msg.errorInfo
  | .open => IxWebsocket.openInfo msg.openInfo

end IxWebsocket
