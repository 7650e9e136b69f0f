import IxWebsocket.Refs
import IxWebsocket.Lib.Runs

/-!
# Registering a connection, one map operation at a time

`registerClient` and `unregisterClient` of one server ref, run by the threads of its connections.
Each `find`, `insert` and `erase` of one of the two maps is a step, and nothing holds the others off
between two of them. An iterator is the key it is at.
-/

namespace IxWebsocket

namespace Registration

/-- Where the thread of a connection is, by its next statement. -/
inductive Phase
  | before
  /-- `registerClient` is about to look whether `i` is free, ... -/
  | probe (i : ℤ)
  /-- ... has found that it is, ... -/
  | insert (i : ℤ)
  /-- ... and has inserted the connection under it. -/
  | insertReverse (i : ℤ)
  | registered (i : ℤ)
  /-- `unregisterClient` is about to look for the connection, ... -/
  | findReverse
  | eraseReverse (i : ℤ)
  /-- ... and then for the id it had found. -/
  | find (i : ℤ)
  | erase (i : ℤ)
  | after
  deriving DecidableEq

structure State where
  clients : Std.TreeMap ℤ Conn := ∅
  clientsReverse : Std.TreeMap Conn ℤ := ∅
  phase : Conn → Phase := fun _ => .before

inductive Act
  | open (p : Conn)
  | close (p : Conn)
  /-- The next statement of the handler of `p`. -/
  | next (p : Conn)

def Act.conn : Act → Conn
  | .open p | .close p | .next p => p

def State.goTo (s : State) (p : Conn) (phase : Phase) : State :=
  { s with phase := Function.update s.phase p phase }

def nextStep (s : State) (p : Conn) : Option State :=
  match s.phase p with
  | .probe i => some (s.goTo p (if i ∈ s.clients then .probe (i + 1) else .insert i))
  | .insert i =>
    some ({ s with clients := s.clients.insertIfNew i p }.goTo p (.insertReverse i))
  | .insertReverse i =>
    some ({ s with clientsReverse := s.clientsReverse.insertIfNew p i }.goTo p (.registered i))
  | .findReverse => some (s.goTo p (match s.clientsReverse[p]? with
    | some i => .eraseReverse i
    | none => .after))
  | .eraseReverse i =>
    some ({ s with clientsReverse := s.clientsReverse.erase p }.goTo p (.find i))
  | .find i => some (s.goTo p (if i ∈ s.clients then .erase i else .after))
  | .erase i => some ({ s with clients := s.clients.erase i }.goTo p .after)
  | .before | .registered _ | .after => none

def step (s : State) : Act → Option State
  | .open p => match s.phase p with
    | .before => some (s.goTo p (.probe 1))
    | _ => none
  | .close p => match s.phase p with
    | .registered _ => some (s.goTo p .findReverse)
    | _ => none
  | .next p => nextStep s p

end Registration

end IxWebsocket
