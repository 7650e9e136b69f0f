import IxWebsocket.Plugin
import IxWebsocket.Lib.Runs

/-!
# The handlers of one server in two steps

A handler of a server's event first finds, takes or gives back the id of its connection, and then,
under `message_list_mutex`, appends its message. Nothing holds other handlers off in between. The
handlers of one connection run one after another: the one of its open event, then others, and
none after the one of its close event.
-/

namespace IxWebsocket

namespace Handlers

inductive Phase
  | before
  /-- The handler of an event of this type has its id, and is still to append. -/
  | looked (type : MessageType) (j : ℤ)
  | idle
  | after
  deriving DecidableEq

/-- An appended message, with the connection it is of. -/
structure Entry where
  client : ℤ
  conn : Conn
  type : MessageType
  deriving DecidableEq

structure State where
  ref : ServerRef
  phase : Conn → Phase := fun _ => .before
  messages : List Entry := []

inductive Act
  | look (p : Conn) (type : MessageType)
  | append (p : Conn)
  /-- The server holds `conns` now. -/
  | hold (conns : Std.TreeSet Conn)

/-- The thread of a connection in this phase runs the handler of such an event. -/
def Phase.takes : Phase → MessageType → Bool
  | .before, .open => true
  | .idle, .open => false
  | .idle, _ => true
  | _, _ => false

def step (s : State) : Act → Option State
  | .look p type =>
    if (s.phase p).takes type then
      let (ref, j) := lookOf type s.ref p
      some { s with ref, phase := Function.update s.phase p (.looked type j) }
    else none
  | .append p => match s.phase p with
    | .looked type j => some { s with
      phase := Function.update s.phase p (if type = .close then .after else .idle)
      messages := s.messages ++ [⟨j, p, type⟩] }
    | _ => none
  | .hold conns =>
    let server := { s.ref.server with clients := conns }
    some { s with ref := { s.ref with server } }

/-- A server nobody has connected to. -/
def init (server : WebSocketServer) : State := { ref := { obj := 0, server } }

end Handlers

end IxWebsocket
