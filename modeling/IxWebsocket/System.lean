import IxWebsocket.Commands
import IxWebsocket.Pipeline

/-!
# The plugin between its threads

The registries and the message list together. A handler runs on the thread on which IXWebSocket
calls it. It looks its ref up, does its part on the connections and reads window and process; then
it takes `message_list_mutex`, makes its message, which looks the ref up once more for method and
worker, and leaves. All other threads may come between any two of these steps.

The commands are the sections of the registries as before. The callbacks a `stop()` fires run as
handlers of their own, so a clear command fires none here, and waits for them instead (`Waits`).
-/

namespace IxWebsocket

/-- A call of `PA_ExecuteMethodByID`: the name of the method, and the parameters `$1` to `$7`. -/
structure MethodCall where
  method : CUTF16String
  server : ℤ
  client : ℤ
  type : CUTF16String
  context : CUTF16String
  worker : CUTF16String
  window : ℤ
  process : ℤ
  deriving DecidableEq

/-- The call the loop makes for a message. The texts are passed on by their `c_str()`. -/
def Message.call (m : Message) : MethodCall where
  method := cstr m.method
  server := m.server
  client := m.client
  type := cstr m.type
  context := cstr m.context
  worker := cstr m.worker
  window := m.window
  process := m.process

namespace System

/-- An event of client `i`, or of a connection of server `i`. -/
inductive Event
  | client (i : ℤ) (msg : WebSocketMessage)
  | server (i : ℤ) (p : Conn) (msg : WebSocketMessage)

/-- What a handler has when it comes to the mutex: the arguments of `addMessage`. The fields from
`worker` on are not in the source: worker and method of the ref as they are now, the event, and
the thread. -/
structure Post (T : Type*) where
  server : ℤ
  client : ℤ
  type : Bytes
  context : Bytes
  window : ℤ
  process : ℤ
  worker : CUTF16String
  method : CUTF16String
  origin : Origin
  thread : T

/-- Where a thread is in a handler, by its next statement. -/
inductive Phase (T : Type*)
  | outside
  | looked (m : Post T)
  | adding (m : Post T)
  | added (m : Post T)

structure State (T : Type*) where
  /-- The registries. The message list is in `pipe`. -/
  plugin : Plugin := {}
  pipe : Pipeline.State (Post T) := {}
  /-- The `websocket_message` objects, by the number they have in `pipe`. -/
  made : ℕ → Option Message := fun _ => none
  phase : T → Phase T := fun _ => .outside
  /-- What the handlers have looked up so far. It is not in the source. -/
  begun : List (Post T) := []

inductive Act (T : Type*)
  /-- A section of the registries. -/
  | registry (a : Action)
  /-- IXWebSocket calls the callback of a ref, and its handler looks the ref up. -/
  | look (thread : T) (e : Event)
  | lock (thread : T)
  | addMessage (thread : T)
  | unlock (thread : T)
  | main
  | loop (methodId : ℤ) (dying : Bool)
  | query (n : ℕ) (select : Post T → Bool)

variable {T : Type*} (H : Host)

/-- The sections in which no callback runs. -/
def quiet : Action → Bool
  | .client _ | .server _ | .hold _ _ => true
  | .command c _ => match c with
    | .clientClear fired => fired.isEmpty
    | .serverClear fired => fired.isEmpty
    | _ => true
  | .clientEvent _ _ | .serverEvent _ _ _ | .deliver => false

/-- The ref is in its registry. -/
def Event.live (s : Plugin) : Event → Bool
  | .client i _ => s.clientList[i]?.isSome
  | .server i _ _ => s.serverList[i]?.isSome

/-- A handler of server `i` up to the mutex. -/
def lookServer (s : Plugin) (thread : T) (i : ℤ) (p : Conn) (msg : WebSocketMessage) :
    Option (Plugin × Post T) :=
  s.serverList[i]?.map fun ref =>
    let (ref', j) := lookOf msg.type ref p
    ({ s with serverList := s.serverList.insert i ref' },
      { server := i, client := j, type := ascii msg.type.text,
        context := H.writeString msg.info, window := ref'.window, process := ref'.process,
        worker := ref'.worker, method := ref'.method, origin := ⟨ref.obj, some p⟩, thread })

/-- What a handler of client `i` has when the ref it found is as given. -/
def clientPost (thread : T) (i : ℤ) (msg : WebSocketMessage) (obj : ℕ)
    (worker method : CUTF16String) (window process : ℤ) : Post T where
  server := 0
  client := i
  type := ascii msg.type.text
  context := H.writeString msg.info
  window := window
  process := process
  worker := worker
  method := method
  origin := ⟨obj, none⟩
  thread := thread

/-- A handler of client `i` up to the mutex. The one of `open` looks `i` up among the servers. -/
def lookClient (s : Plugin) (thread : T) (i : ℤ) (msg : WebSocketMessage) : Option (Post T) :=
  match msg.type with
  | .open => s.serverList[i]?.map fun ref =>
    clientPost H thread i msg ref.obj ref.worker ref.method ref.window ref.process
  | _ => s.clientList[i]?.map fun ref =>
    clientPost H thread i msg ref.obj ref.worker ref.method ref.window ref.process

def look (s : Plugin) (thread : T) : Event → Option (Plugin × Post T)
  | .client i msg => (lookClient H s thread i msg).map (s, ·)
  | .server i p msg => lookServer H s thread i p msg

variable [DecidableEq T]

def step (s : State T) : Act T → Option (State T)
  | .registry a =>
    if quiet a then (IxWebsocket.step H s.plugin a).map fun plugin => { s with plugin } else none
  | .look τ e => match s.phase τ with
    | .outside =>
      if e.live s.plugin then
        match look H s.plugin τ e with
        -- the handler returns at once
        | none => some s
        | some (plugin, m) => some { s with
          plugin, phase := Function.update s.phase τ (.looked m), begun := s.begun ++ [m] }
      else none
    | _ => none
  | .lock τ => match s.phase τ with
    | .looked m => (Pipeline.step s.pipe (.lock m)).map fun pipe =>
      { s with pipe, phase := Function.update s.phase τ (.adding m) }
    | _ => none
  | .addMessage τ => match s.phase τ with
    | .adding m => (Pipeline.step s.pipe .addMessage).map fun pipe =>
      let message := Message.create H s.plugin m.server m.client m.type (cstr m.context) m.window
        m.process
      { s with
        pipe
        made := Function.update s.made s.pipe.objects (some message)
        phase := Function.update s.phase τ (.added m) }
    | _ => none
  | .unlock τ => match s.phase τ with
    | .added _ => (Pipeline.step s.pipe .unlock).map fun pipe =>
      { s with pipe, phase := Function.update s.phase τ .outside }
    | _ => none
  | .main => (Pipeline.step s.pipe .main).map fun pipe => { s with pipe }
  | .loop methodId dying =>
    (Pipeline.step s.pipe (.loop methodId dying)).map fun pipe => { s with pipe }
  | .query n select =>
    (Pipeline.step s.pipe (.query n select)).map fun pipe => { s with pipe }

/-- What the handler of a thread is with. -/
def Phase.post : Phase T → Option (Post T)
  | .outside => none
  | .looked m | .adding m | .added m => some m

/-- No handler of the object is running. -/
def State.Idle (s : State T) (obj : ℕ) : Prop :=
  ∀ τ m, (s.phase τ).post = some m → m.origin.obj ≠ obj

/-- The destructor of a ref returns from `stop()` when no callback of the ref is running. -/
def Waits (s : State T) : Act T → Prop
  | .registry (.command (.clientClear _) param) =>
    ∀ ref, ClientRef.ptr H s.plugin param = some ref → s.Idle ref.obj
  | .registry (.command (.serverClear _) param) =>
    ∀ ref, ServerRef.ptr H s.plugin param = some ref → s.Idle ref.obj
  | _ => True

/-- The states of any interleaving of threads `T`. -/
def Reachable (s : State T) : Prop := ∃ as, Runs.Steps (step H) (Waits H) {} as s

end System

end IxWebsocket
