import IxWebsocket.Lib.Maps
import IxWebsocket.Lib.Runs

/-!
# Lookups while refs are cleared

The constructor, `clear` and `clearAll` of a registry run under its mutex; `ref`, `find`, `ptr` and
`get` are one `find` of the map each, without it. So the lookups of other threads, and those of the
callbacks that a destructor waits for, come between any two statements of a clear. A thread outside
the mutex has nothing of its own here, so the threads are not named.

A ref is its object. `destroyed` are the objects whose destructor has returned; it is not in the
source.
-/

namespace IxWebsocket

namespace Lookups

/-- The two registries differ in the id a new ref takes. -/
inductive Registry
  | client
  | server

def Registry.newId {β : Type*} : Registry → Std.TreeMap ℤ β → ℤ
  | .client => Maps.leastFree
  | .server => Maps.greatestFree

/-- Where the holder of the mutex is, by its next statement. -/
inductive Pc
  /-- In the `delete` of `clear`, whose iterator is at `i`. -/
  | delete (i : ℤ) (obj : ℕ)
  | erase (i : ℤ)
  /-- At the test of the loop of `clearAll`, whose iterator is at the `n`-th place. -/
  | deleteAll (n : ℕ)

structure State where
  /-- `websocket_client_list` or `websocket_server_list` -/
  list : Std.TreeMap ℤ ℕ := ∅
  mutex : Option Pc := none
  objects : ℕ := 0
  destroyed : Finset ℕ := ∅

/-- `ref(i)`, `find(i)`, `ptr` and `get` -/
def State.ref (s : State) (i : ℤ) : Option ℕ := s.list[i]?

inductive Act
  | construct
  /-- A `clear` takes the mutex and finds its id. -/
  | clear (i : ℤ)
  /-- A `clearAll` takes the mutex. -/
  | clearAll
  /-- The next statement of the holder. -/
  | next
  | lookup (i : ℤ)

/-- One statement under the mutex. A destructor has returned when its `delete` is over. -/
def nextStep (s : State) : Option State :=
  match s.mutex with
  | none => none
  | some (.delete i obj) =>
    some { s with destroyed := insert obj s.destroyed, mutex := some (.erase i) }
  | some (.erase i) => some { s with list := s.list.erase i, mutex := none }
  | some (.deleteAll n) => match s.list.toList[n]? with
    | some it =>
      some { s with destroyed := insert it.2 s.destroyed, mutex := some (.deleteAll (n + 1)) }
    | none => some { s with list := ∅, mutex := none }

def step (registry : Registry) (s : State) : Act → Option State
  | .construct => match s.mutex with
    | none => some { s with
      list := s.list.insertIfNew (registry.newId s.list) s.objects
      objects := s.objects + 1 }
    | some _ => none
  | .clear i => match s.mutex with
    | none => some { s with mutex := s.list[i]?.map (.delete i) }
    | some _ => none
  | .clearAll => match s.mutex with
    | none => some { s with mutex := some (.deleteAll 0) }
    | some _ => none
  | .next => nextStep s
  | .lookup _ => some s

end Lookups

end IxWebsocket
