import IxWebsocket.Proofs.Frames
import IxWebsocket.Proofs.Routing

/-!
# The closes of a server that is cleared

The destructor of a server stops it first, and gives up the maps and the texts after that. So each
close handler that `stop()` runs still finds the ref in the registry, its connection under its id
and the routing, whatever order the connections close in (`clear_reports`).
-/

namespace IxWebsocket

variable {H : Host} {s : Plugin} {r r' : ServerRef} {i : ℤ}

/-- `q` says that connection `e.1` of server `i` was closed, with the id it had in `r`. -/
structure ReportsClose (r : ServerRef) (i : ℤ) (e : Conn × WebSocketMessage) (q : Queued) :
    Prop where
  type : q.msg.type = wide "close"
  server : q.msg.server = i
  client : r.clientsReverse[e.1]? = some q.msg.client
  client_pos : 1 ≤ q.msg.client
  routing : q.msg.routing = r.routing
  origin : q.origin = ⟨r.obj, some e.1⟩

/-- `r'` is `r` after some connections other than those of `fired` have closed. -/
structure ClosedBut (r r' : ServerRef) (fired : List (Conn × WebSocketMessage)) : Prop where
  obj : r'.obj = r.obj
  routing : r'.routing = r.routing
  reverse : ∀ e ∈ fired, r'.clientsReverse[e.1]? = r.clientsReverse[e.1]?

theorem unregisterClient_some {p : Conn} (h : r.clientsReverse[p]? = some i) :
    (r.unregisterClient p).2 = i
      ∧ (r.unregisterClient p).1.clientsReverse = r.clientsReverse.erase p := by
  simp [ServerRef.unregisterClient, h]

/-- One close handler queues its report and leaves the other connections as they are. -/
theorem serverCallback_close (hr : r.Linked) (hi : s.serverList[i]? = some r')
    {e : Conn × WebSocketMessage} {fired : List (Conn × WebSocketMessage)}
    (hclosed : ClosedBut r r' (e :: fired)) (htype : e.2.type = .close)
    (hreg : e.1 ∈ r.clientsReverse) (hnew : e.1 ∉ fired.map (·.1)) :
    ∃ q r'', (serverCallback H s i e.1 e.2).messages = s.messages ++ [q] ∧ ReportsClose r i e q
      ∧ (serverCallback H s i e.1 e.2).serverList[i]? = some r'' ∧ ClosedBut r r'' fired := by
  obtain ⟨j, hj⟩ := Option.isSome_iff_exists.1 (Std.TreeMap.isSome_getElem?_iff_mem.2 hreg)
  have hj' : r'.clientsReverse[e.1]? = some j := (hclosed.reverse e List.mem_cons_self).trans hj
  obtain ⟨hid, hreverse⟩ := unregisterClient_some hj'
  have heq := serverCallback_eq (H := H) s i e.1 e.2
  obtain ⟨q, hq, hqtype, hserver, hclient, hrouting, horigin⟩ :=
    serverHandler_spec (H := H) hi (lookOf_routing e.2.type r' e.1) e.2.type e.2.info
  rw [htype] at heq hq hqtype hclient
  rw [heq, hq]
  refine ⟨q, (r'.unregisterClient e.1).1, rfl, ⟨hqtype, hserver, ?_, ?_, ?_, ?_⟩,
    Std.TreeMap.getElem?_insert_self, ⟨?_, ?_, fun e' he' => ?_⟩⟩
  · rw [hj, hclient]
    exact congrArg some hid.symm
  · rw [hclient]
    have := hr.pos (hr.back hj)
    exact hid ▸ this
  · exact hrouting.trans hclosed.routing
  · rw [horigin, hclosed.obj]
  · exact ((lookOf_move .close r' e.1).obj.1).trans hclosed.obj
  · exact (unregisterClient_routing r' e.1).trans hclosed.routing
  · have hne : e.1 ≠ e'.1 := fun hee => hnew (hee ▸ List.mem_map_of_mem he')
    rw [hreverse, Maps.getElem?_erase_of_ne hne]
    exact hclosed.reverse e' (List.mem_cons_of_mem _ he')

theorem closes_reported (hr : r.Linked) :
    ∀ {fired : List (Conn × WebSocketMessage)} {s : Plugin} {r' : ServerRef},
      s.serverList[i]? = some r' → ClosedBut r r' fired →
      (∀ e ∈ fired, e.2.type = .close ∧ e.1 ∈ r.clientsReverse) → (fired.map (·.1)).Nodup →
      ∃ qs, (fired.foldl (fun s e => serverCallback H s i e.1 e.2) s).messages = s.messages ++ qs
        ∧ List.Forall₂ (ReportsClose r i) fired qs
        ∧ (fired.foldl (fun s e => serverCallback H s i e.1 e.2) s).objAt (.server i)
          = some r.obj
  | [], s, r', hi, hclosed, _, _ => by
    refine ⟨[], by simp, .nil, ?_⟩
    exact objAt_server_eq_some.2 ⟨r', hi, hclosed.obj⟩
  | e :: fired, s, r', hi, hclosed, hall, hnodup => by
    rw [List.map_cons, List.nodup_cons] at hnodup
    obtain ⟨htype, hreg⟩ := hall e List.mem_cons_self
    obtain ⟨q, r'', hmessages, hq, hi', hclosed'⟩ :=
      serverCallback_close (H := H) hr hi hclosed htype hreg hnodup.1
    obtain ⟨qs, hqs, hforall, hobj⟩ := closes_reported hr hi' hclosed'
      (fun e' he' => hall e' (List.mem_cons_of_mem _ he')) hnodup.2
    refine ⟨q :: qs, ?_, .cons hq hforall, hobj⟩
    rw [List.foldl_cons, hqs, hmessages, List.append_assoc, List.singleton_append]

/-- When the `stop()` of a server fires the close of each registered connection once, in any order,
and nothing else, its clear queues one report for each of them while the ref is still in the
registry. Afterwards its id leads nowhere, and no other ref has changed. -/
theorem clear_reports (hs : Reachable H s) {param : Option PAObject}
    (hr : s.serverList[refParam H param]? = some r) {fired : List (Conn × WebSocketMessage)}
    (hclose : ∀ e ∈ fired, e.2.type = .close) (honce : (fired.map (·.1)).Nodup)
    (hopen : ∀ p, p ∈ fired.map (·.1) ↔ p ∈ r.clientsReverse) :
    ∃ (u : Plugin) (qs : List Queued), u.messages = s.messages ++ qs
      ∧ List.Forall₂ (ReportsClose r (refParam H param)) fired qs
      ∧ u.objAt (.server (refParam H param)) = some r.obj
      ∧ (runCommand H s param (.serverClear fired)).1
        = { u with serverList := u.serverList.erase (refParam H param) }
      ∧ (runCommand H s param (.serverClear fired)).1.objAt (.server (refParam H param)) = none
      ∧ SameBut (.server (refParam H param)) s (runCommand H s param (.serverClear fired)).1 := by
  obtain ⟨qs, hqs, hforall, hobj⟩ := closes_reported (H := H)
    ((reachable_inv hs).server hr).2.2 hr ⟨rfl, rfl, fun _ _ => rfl⟩
    (fun e he => ⟨hclose e he, (hopen e.1).1 (List.mem_map_of_mem he)⟩) honce
  have heq : (runCommand H s param (.serverClear fired)).1
      = { fired.foldl (fun s e => serverCallback H s (refParam H param) e.1 e.2) s with
          serverList := (fired.foldl (fun s e => serverCallback H s (refParam H param) e.1 e.2)
            s).serverList.erase (refParam H param) } := by
    simp only [runCommand, websocketServerClear, ServerRef.ref, hr]
  refine ⟨_, qs, hqs, hforall, hobj, heq, ?_, ?_⟩
  · rw [heq]
    simp [Plugin.objAt]
  · exact (runCommand_step s param (.serverClear fired)).sameBut

/-- A server with connections 7 and 8 open as numbers 1 and 2. -/
def twoOpen : Plugin :=
  (Runs.exec (step .plain) {} [.server none, .serverEvent (-1) 7 { type := .open },
    .serverEvent (-1) 8 { type := .open }]).getD {}

def twoOpenHandle : Option PAObject := some [("ref", .real (-1 : ℤ))]

/-- The second connection closes before the first. -/
def twoCloses : List (Conn × WebSocketMessage) := [(8, { type := .close }), (7, { type := .close })]

theorem twoOpen_reachable : Reachable .plain twoOpen :=
  Runs.reachable_of_exec [.server none, .serverEvent (-1) 7 { type := .open },
    .serverEvent (-1) 8 { type := .open }] rfl

/-- The ref of the server of `twoOpen`. -/
def twoOpenRef : ServerRef :=
  (({ ServerRef.create .plain 0 none with id := -1 }.registerClient 7).1.registerClient 8).1

theorem twoOpen_clear_reports :
    ∃ qs, List.Forall₂ (ReportsClose twoOpenRef (-1)) twoCloses qs
      ∧ (runCommand .plain twoOpen twoOpenHandle (.serverClear twoCloses)).1.messages
        = twoOpen.messages ++ qs := by
  have hr : twoOpen.serverList[refParam .plain twoOpenHandle]? = some twoOpenRef := rfl
  have hclose : ∀ e ∈ twoCloses, e.2.type = .close := by decide
  have hopen : ∀ p, p ∈ twoCloses.map (·.1) ↔ p ∈ twoOpenRef.clientsReverse := by
    intro p
    have hreverse : twoOpenRef.clientsReverse
        = ((∅ : Std.TreeMap Conn ℤ).insertIfNew 7 1).insertIfNew 8 2 := rfl
    rw [hreverse, Std.TreeMap.mem_insertIfNew, Std.TreeMap.mem_insertIfNew,
      Std.compare_eq_iff_eq, Std.compare_eq_iff_eq]
    simp [twoCloses, eq_comm (a := p)]
  obtain ⟨u, qs, hu, hqs, -, heq, -⟩ :=
    clear_reports twoOpen_reachable hr hclose (by decide) hopen
  exact ⟨qs, hqs, by rw [heq]; exact hu⟩

end IxWebsocket
