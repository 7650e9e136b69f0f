import IxWebsocket.Lib.Locks

/-!
# What the threads block on

Each entry point of the plugin is the blocking operations it performs, in the order of the source.
The lookups `ref`, `find`, `ptr` and `get` take no mutex. A ref is named by its object, as the waits
are for the callbacks of one object. IXWebSocket runs a callback on a thread of its own, or on the
thread that calls `connect`, `send` or `stop`. `Websocket_server_clients` blocks on nothing.

What the loop runs through `PA_ExecuteMethodByID` returns before it blocks on anything here, as
`PA_CreateObject` and `PA_CreateCollection` give null in its process.
-/

namespace IxWebsocket

namespace Locking

inductive Mutex
  | websocketClientRef
  | websocketServerRef
  | messageList
  | websocketMessageList
  deriving DecidableEq

abbrev Prog := Locks.Prog Mutex ℕ

/-- A handler. It appends its message when it finds the ref. -/
def handler (ref : ℕ) (found : Bool) (next : Prog) : Prog :=
  .enter ref <| match found with
    | true => .lock .messageList <| .unlock .messageList <| .leave ref next
    | false => .leave ref next

/-- The callbacks that a call runs on its own thread. -/
def handlers (ref : ℕ) (found : List Bool) (next : Prog) : Prog := found.foldr (handler ref) next

/-- `stop()` returns when no callback of the object is running. -/
def stop (ref : ℕ) (found : List Bool) (next : Prog) : Prog := handlers ref found (.join ref next)

/-- `websocket_message_list::erase`, `n` times -/
def erase : ℕ → Prog → Prog
  | 0, next => next
  | n + 1, next => .lock .websocketMessageList <| .unlock .websocketMessageList <| erase n next

/-- The section of a constructor. -/
def create (mutex : Mutex) : Prog := .lock mutex <| .unlock mutex .done

/-- `it` is what `find` gave, with the callbacks its `stop()` runs. -/
def clear (mutex : Mutex) (it : Option (ℕ × List Bool)) : Prog :=
  .lock mutex <| match it with
    | some (ref, found) => stop ref found <| .unlock mutex .done
    | none => .unlock mutex .done

def clearAll (mutex : Mutex) (list : List (ℕ × List Bool)) (next : Prog) : Prog :=
  .lock mutex <| list.foldr (fun e => stop e.1 e.2) <| .unlock mutex next

/-- The messages queries. -/
def messages : Prog := .tryLock .messageList (.unlock .messageList .done) .done

/-- One pass of `websocket_event_queue::loop` that erases `n` messages. -/
def pass (n : ℕ) : Prog :=
  .tryLock .messageList (erase n <| .unlock .messageList .done) .done

inductive Entry
  | websocketClient
  | websocketServer
  | websocketClientStart (ref : ℕ) (found : List Bool)
  | websocketServerStart (ref : ℕ) (found : List Bool)
  | websocketClientSend (ref : ℕ) (found : List Bool)
  | websocketServerSend (ref : ℕ) (found : List Bool)
  | websocketClientStop (ref : ℕ) (found : List Bool)
  | websocketServerStop (ref : ℕ) (found : List Bool)
  | websocketClientClear (it : Option (ℕ × List Bool))
  | websocketServerClear (it : Option (ℕ × List Bool))
  | websocketClientMessages
  | websocketServerMessages
  | callback (ref : ℕ) (found : Bool)
  | loop (n : ℕ)
  | onExit (n : ℕ) (clients servers : List (ℕ × List Bool))

def program : Entry → Prog
  | .websocketClient => create .websocketClientRef
  | .websocketServer => create .websocketServerRef
  | .websocketClientStart ref found | .websocketServerStart ref found
  | .websocketClientSend ref found | .websocketServerSend ref found => handlers ref found .done
  | .websocketClientStop ref found | .websocketServerStop ref found => stop ref found .done
  | .websocketClientClear it => clear .websocketClientRef it
  | .websocketServerClear it => clear .websocketServerRef it
  | .websocketClientMessages | .websocketServerMessages => messages
  | .callback ref found => handler ref found .done
  | .loop n => pass n
  | .onExit n clients servers =>
    erase n <| clearAll .websocketClientRef clients <| clearAll .websocketServerRef servers .done

abbrev State (T : Type*) := Locks.State T Mutex ℕ

/-- The states of any interleaving of threads `T`. A thread that is through may begin any entry. -/
def Reachable {T : Type*} [DecidableEq T] (s : State T) : Prop :=
  Runs.Reachable (Locks.step program) {} s

end Locking

end IxWebsocket
