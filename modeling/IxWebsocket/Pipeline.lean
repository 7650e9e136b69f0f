import IxWebsocket.Lib.Runs

/-!
# The message list between its threads

Handlers append to the vector, the loop process drains it, queries read it, and the main thread
tears it down. What one thread does between two others is one step. All of them but the main thread
go through `message_list_mutex`; `websocket_message_list_mutex` is held inside an `erase` only, so
an `erase` is one step.

Both loops that erase start from `begin()` and go on from what `erase` returns, so their iterator is
at the first place of the vector throughout. When the vector has become empty meanwhile, that place
still holds the pointer that was erased last (`residue`).

`log` is what happened so far, and `Obj.id` numbers the objects made by `new websocket_message`;
neither is in the source.
-/

namespace IxWebsocket

namespace Pipeline

structure Obj (M : Type*) where
  id : ℕ
  msg : M
  deriving DecidableEq

/-- Who holds `message_list_mutex`. A handler holds it before and after its `addMessage`. -/
inductive Holder (M : Type*)
  | adding (msg : M)
  | added
  | query (n : ℕ)
  | loop

/-- Where `websocket_event_queue::loop` is, by its next statement. -/
inductive LoopPc (M : Type*)
  | absent
  | start
  | size
  | tryLock
  | hasNext
  | take
  | getMethodId (m : Obj M)
  | execute (m : Obj M)
  | isDying
  | erase
  | unlock
  | sleep
  | again
  | ended

/-- Where the main thread is in `OnStartup` and `OnExit`, by its next statement. -/
inductive MainPc
  | newList
  | newQueue
  | deleteQueue
  | deleteList
  | clearHasNext
  | clearErase
  | clearRest
  | refsClearAll
  deriving DecidableEq

/-- A call of `Websocket_client_messages` or `Websocket_server_messages` on a live ref. -/
inductive QueryPc (M : Type*)
  | idle
  | tryLock (select : M → Bool)
  | reading (select : M → Bool) (i : ℕ) (result : List (Obj M))
  | done (result : List (Obj M))

inductive Event (M : Type*)
  | append (m : Obj M)
  /-- The loop sets `websocket_event_queue_exit` to false. -/
  | start
  | take (m : Obj M)
  | methodId (m : Obj M) (id : ℤ)
  | deliver (m : Obj M)
  | abort
  | erase (m : Obj M)
  /-- `~websocket_event_queue` sets `websocket_event_queue_exit` to true. -/
  | stop
  /-- `~websocket_message_list` erases. -/
  | clear (m : Obj M)
  | listDeleted

structure State (M : Type*) where
  messages : List (Obj M) := []
  residue : Option (Obj M) := none
  mutex : Option (Holder M) := none
  /-- `websocket_event_queue_exit` -/
  exit : Bool := true
  loop : LoopPc M := .absent
  main : MainPc := .newList
  queries : ℕ → QueryPc M := fun _ => .idle
  objects : ℕ := 0
  log : List (Event M) := []

variable {M : Type*}

/-- What the first place of the vector holds. -/
def State.front (s : State M) : Option (Obj M) := s.messages.head?.or s.residue

/-- `websocket_message_list::erase` of the first place, which holds `m`. -/
def State.erase (s : State M) (m : Obj M) : State M :=
  { s with messages := s.messages.tail, residue := some m }

/-- One statement of the loop. The host answers `methodId` to `PA_GetMethodID` and `dying` to
`PA_IsProcessDying`. -/
def loopStep (s : State M) (methodId : ℤ) (dying : Bool) : Option (State M) :=
  match s.loop with
  | .absent => none
  | .start => some { s with exit := false, loop := .size, log := s.log ++ [.start] }
  | .size => some { s with loop := if s.messages.length ≠ 0 then .tryLock else .sleep }
  | .tryLock => match s.mutex with
    | none => some { s with mutex := some .loop, loop := .hasNext }
    | some _ => some { s with loop := .again }
  | .hasNext => some { s with loop := if s.messages.isEmpty then .unlock else .take }
  | .take => s.front.map fun m => { s with loop := .getMethodId m, log := s.log ++ [.take m] }
  | .getMethodId m =>
    some { s with
      loop := if methodId ≠ 0 then .execute m else .erase
      log := s.log ++ [.methodId m methodId] }
  | .execute m => some { s with loop := .isDying, log := s.log ++ [.deliver m] }
  | .isDying =>
    if dying then some { s with exit := true, loop := .unlock, log := s.log ++ [.abort] }
    else some { s with loop := .erase }
  | .erase => s.front.map fun m => { s.erase m with loop := .hasNext, log := s.log ++ [.erase m] }
  | .unlock => some { s with mutex := none, loop := .again }
  | .sleep => some { s with loop := .again }
  | .again => some { s with loop := if !s.exit && !dying then .size else .ended }
  | .ended => none

/-- One statement of `OnStartup` or `OnExit`. -/
def mainStep (s : State M) : Option (State M) :=
  match s.main with
  | .newList => some { s with main := .newQueue }
  | .newQueue => some { s with main := .deleteQueue, loop := .start }
  | .deleteQueue => some { s with exit := true, main := .deleteList, log := s.log ++ [.stop] }
  | .deleteList => some { s with main := .clearHasNext }
  | .clearHasNext => some { s with main := if s.messages.isEmpty then .clearRest else .clearErase }
  | .clearErase =>
    s.front.map fun m => { s.erase m with main := .clearHasNext, log := s.log ++ [.clear m] }
  | .clearRest =>
    some { s with messages := [], main := .refsClearAll, log := s.log ++ [.listDeleted] }
  | .refsClearAll => none

/-- One statement of the `n`-th messages query, which selects the messages that `select` accepts. -/
def queryStep (s : State M) (n : ℕ) (select : M → Bool) : Option (State M) :=
  match s.queries n with
  | .idle => some { s with queries := Function.update s.queries n (.tryLock select) }
  | .tryLock select => match s.mutex with
    | none => some { s with
      mutex := some (.query n)
      queries := Function.update s.queries n (.reading select 0 []) }
    | some _ => some { s with queries := Function.update s.queries n (.done []) }
  | .reading select i result => match s.messages[i]? with
    | some m =>
      let result := if select m.msg then result ++ [m] else result
      some { s with queries := Function.update s.queries n (.reading select (i + 1) result) }
    | none => some { s with
      mutex := none
      queries := Function.update s.queries n (.done result) }
  | .done _ => none

inductive Act (M : Type*)
  | main
  | loop (methodId : ℤ) (dying : Bool)
  | query (n : ℕ) (select : M → Bool)
  /-- A handler enters its `lock_guard`, ... -/
  | lock (msg : M)
  /-- ... adds its message ... -/
  | addMessage
  /-- ... and leaves. -/
  | unlock

def step (s : State M) : Act M → Option (State M)
  | .main => mainStep s
  | .loop methodId dying => loopStep s methodId dying
  | .query n select => queryStep s n select
  | .lock msg => match s.mutex with
    | none => some { s with mutex := some (.adding msg) }
    | some _ => none
  | .addMessage => match s.mutex with
    | some (.adding msg) => some { s with
      messages := s.messages ++ [⟨s.objects, msg⟩]
      mutex := some .added
      objects := s.objects + 1
      log := s.log ++ [.append ⟨s.objects, msg⟩] }
    | _ => none
  | .unlock => match s.mutex with
    | some .added => some { s with mutex := none }
    | _ => none

/-- The states of any interleaving, from the load of the plugin on. -/
abbrev Reachable (s : State M) : Prop := Runs.Reachable step {} s

end Pipeline

end IxWebsocket
