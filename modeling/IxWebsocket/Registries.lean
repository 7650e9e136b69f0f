import IxWebsocket.Commands

/-!
# The registries between threads

A constructor takes its id and enters its ref under the mutex of the registry, and the clear
commands and `clearAll` run under it as a whole. What a thread does between two such sections is
its own, or touches one live ref in place. So each section is one step here, and the sections of
any number of threads follow each other in any order.
-/

namespace IxWebsocket

variable (H : Host)

/-- The constructor. What comes before its section is in `create`. -/
def ClientRef.construct (s : Plugin) (params : Option PAObject) : Plugin × ClientRef :=
  let i := Maps.leastFree s.clientList
  let ref := { ClientRef.create H s.objects params with id := i }
  ({ s with clientList := s.clientList.insertIfNew i ref, objects := s.objects + 1 }, ref)

def ServerRef.construct (s : Plugin) (params : Option PAObject) : Plugin × ServerRef :=
  let i := Maps.greatestFree s.serverList
  let ref := { ServerRef.create H s.objects params with id := i }
  ({ s with serverList := s.serverList.insertIfNew i ref, objects := s.objects + 1 }, ref)

inductive Section
  | newClient (params : Option PAObject)
  | newServer (params : Option PAObject)
  | clearAllClients (fired : ℤ → List WebSocketMessage)
  | clearAllServers (fired : ℤ → List (Conn × WebSocketMessage))
  /-- A command or a callback as a whole, the clear commands among them. -/
  | other (a : Action)

def sectionStep (s : Plugin) : Section → Option Plugin
  | .newClient params => some (ClientRef.construct H s params).1
  | .newServer params => some (ServerRef.construct H s params).1
  | .clearAllClients fired => some (ClientRef.clearAll H s fired)
  | .clearAllServers fired => some (ServerRef.clearAll H s fired)
  | .other a => step H s a

/-- `Websocket_client` is the constructor, and `setParams` after it. -/
theorem websocketClient_eq (s : Plugin) (param : Option PAObject) :
    websocketClient H s param =
      let (t, ref) := ClientRef.construct H s param
      let ref' := ref.setParams H param
      ({ t with clientList := t.clientList.insert ref.id ref' }, ref'.getParams H []) := rfl

theorem websocketServer_eq (s : Plugin) (param : Option PAObject) :
    websocketServer H s param =
      let (t, ref) := ServerRef.construct H s param
      (t, ref.getParams H []) := rfl

end IxWebsocket
