import IxWebsocket.Proofs.Send

/-!
# The reported clients and everybody

`Websocket_server_clients` goes from the connections the server holds to their ids, and a send with
ids in `clients` goes from ids to connections. The two maps agree on every connection that is in
both, so a send to the reported ids makes the transmissions of a broadcast, but for the entries
that say client 0 (`send_reported_perm`).
-/

namespace IxWebsocket

variable {H : Host} {r : ServerRef} {p : Conn} {i : ℤ}

/-! ## The reported ids -/

theorem mem_foldl_findClient (r : ServerRef) :
    ∀ (l : List Conn) (c : Std.TreeSet ℤ),
      i ∈ l.foldl (fun c p => let i := r.findClient p; if i ≠ 0 then c.insert i else c) c ↔
        i ∈ c ∨ ∃ p ∈ l, r.findClient p = i ∧ i ≠ 0
  | [], c => by simp
  | q :: l, c => by
    rw [List.foldl_cons, mem_foldl_findClient r l, List.exists_mem_cons_iff]
    dsimp only
    split_ifs with hq
    · rw [Std.TreeSet.mem_insert, Std.compare_eq_iff_eq, ← or_assoc]
      refine or_congr_left ?_
      constructor
      · rintro (rfl | hi)
        · exact .inr ⟨rfl, hq⟩
        · exact .inl hi
      · rintro (hi | ⟨hi, -⟩)
        · exact .inr hi
        · exact .inl hi
    · rw [← or_assoc]
      refine or_congr_left ?_
      rw [not_not] at hq
      rw [hq]
      constructor
      · exact .inl
      · rintro (hi | ⟨rfl, h⟩)
        · exact hi
        · exact absurd rfl h

theorem mem_getClients :
    i ∈ r.getClients ↔ ∃ p, p ∈ r.server.clients ∧ r.findClient p = i ∧ i ≠ 0 := by
  unfold ServerRef.getClients
  rw [mem_foldl_findClient]
  simp

/-- The ids that are found are those of the connections both held and registered. -/
theorem findClient_eq (hi : i ≠ 0) :
    r.findClient p = i ↔ p ∈ r.server.clients ∧ r.clientsReverse[p]? = some i := by
  unfold ServerRef.findClient
  constructor
  · intro h
    split at h
    · exact absurd h.symm hi
    · rename_i j hj
      split_ifs at h with hp
      · exact ⟨hp, h ▸ hj⟩
      · exact absurd h.symm hi
  · rintro ⟨hp, hrev⟩
    rw [hrev]
    exact if_pos hp

theorem findClient_ne_zero (hr : r.Linked) (hp : p ∈ r.server.clients) :
    r.findClient p ≠ 0 ↔ p ∈ r.clientsReverse := by
  rw [← Std.TreeMap.isSome_getElem?_iff_mem, Option.isSome_iff_exists]
  constructor
  · intro hne
    exact ⟨_, ((findClient_eq hne).1 rfl).2⟩
  · rintro ⟨i, hi⟩
    have := hr.pos (hr.back hi)
    rw [(findClient_eq (by omega)).2 ⟨hp, hi⟩]
    omega

theorem mem_getClients_iff (hr : r.Linked) :
    i ∈ r.getClients ↔ ∃ p, p ∈ r.server.clients ∧ r.clientsReverse[p]? = some i := by
  rw [mem_getClients]
  constructor
  · rintro ⟨p, -, hfind, hi⟩
    exact ⟨p, (findClient_eq hi).1 hfind⟩
  · rintro ⟨p, hp, hrev⟩
    have hi : i ≠ 0 := by
      have := hr.pos (hr.back hrev)
      omega
    exact ⟨p, hp, (findClient_eq hi).2 ⟨hp, hrev⟩, hi⟩

theorem zero_notMem_getClients : 0 ∉ r.getClients := by
  rw [mem_getClients]
  rintro ⟨p, -, -, h⟩
  exact h rfl

/-! ## The transmissions -/

/-- What is sent to `client` when the entry is to name it `i`. -/
def transmission (data : Bytes) (f : Conn → SendInfo) (client : Conn) (i : ℤ) :
    ServerRef.Transmission :=
  ⟨client, data, ServerRef.sendResult (f client) i⟩

theorem sendTo_ids (data : Bytes) (f : Conn → SendInfo) :
    ∀ (ids : List ℤ) (n : ℕ),
      r.sendTo H data (fun _ => f) (ids.map fun i : ℤ => .real (i : Double)) n
        = ids.filterMap fun i => (r.getClient i).map fun client => transmission data f client i
  | [], n => rfl
  | i :: ids, n => by
    rw [List.map_cons, List.filterMap_cons, ServerRef.sendTo, Host.toInt_intCast]
    rcases h : r.getClient i with _ | client
    · exact sendTo_ids data f ids n
    · exact congrArg _ (sendTo_ids data f ids (n + 1))

theorem sendToAll_eq (data : Bytes) (f : Conn → SendInfo) :
    ∀ (clients : List Conn) (n : ℕ), r.sendToAll data (fun _ => f) clients n
      = clients.map fun client => transmission data f client (r.findClient client)
  | [], n => rfl
  | client :: clients, n => by
    rw [ServerRef.sendToAll, sendToAll_eq data f clients]
    rfl

theorem transmission_client (data : Bytes) (f : Conn → SendInfo) (client : Conn) (i : ℤ) :
    obGetN (some (transmission data f client i).result) "client" = (i : Double) := by
  simp [transmission, ServerRef.sendResult, obSetN]

/-- The ids, in the order in which they are reported, and those of the held connections, in the
order in which a broadcast meets them. -/
theorem getClients_perm (hr : r.Linked) :
    r.getClients.toList.Perm
      ((r.server.clients.toList.filter fun p => r.findClient p ≠ 0).map r.findClient) := by
  refine (List.perm_ext_iff_of_nodup (Maps.nodup_toList _) ?_).2 fun i => ?_
  · refine List.Nodup.map_on (fun p hp q hq heq => ?_) ((Maps.nodup_toList _).filter _)
    -- one id leads to one connection
    have hne : r.findClient p ≠ 0 := by simpa using (List.mem_filter.1 hp).2
    have hp' := hr.back ((findClient_eq hne).1 rfl).2
    have hq' := hr.back ((findClient_eq hne).1 heq.symm).2
    exact Option.some.inj (hp'.symm.trans hq')
  · rw [Std.TreeSet.mem_toList, mem_getClients]
    simp only [List.mem_map, List.mem_filter, Std.TreeSet.mem_toList, decide_eq_true_eq]
    constructor
    · rintro ⟨p, hp, rfl, hi⟩
      exact ⟨p, ⟨hp, hi⟩, rfl⟩
    · rintro ⟨p, ⟨hp, hi⟩, rfl⟩
      exact ⟨p, hp, rfl, hi⟩

theorem sendTo_reported_perm (hr : r.Linked) (data : Bytes) (f : Conn → SendInfo) :
    (r.sendTo H data (fun _ => f) (r.getClients.toList.map fun i : ℤ => .real (i : Double)) 0).Perm
      ((r.server.clients.toList.filter fun p => r.findClient p ≠ 0).map
        fun p => transmission data f p (r.findClient p)) := by
  rw [sendTo_ids]
  refine ((getClients_perm hr).filterMap _).trans (List.Perm.of_eq ?_)
  rw [List.filterMap_map, ← List.filterMap_eq_map]
  refine List.filterMap_congr fun p hp => ?_
  have hne : r.findClient p ≠ 0 := by simpa using (List.mem_filter.1 hp).2
  have hclient : r.getClient (r.findClient p) = some p :=
    hr.back ((findClient_eq hne).1 rfl).2
  simp [hclient]

/-- The ids `Websocket_server_clients` reports rise and are those of the connections both held and
registered. A send to them goes to each of these connections once and to no other, and its entries
are those of a broadcast that name a client. -/
theorem send_reported_perm {s : Plugin} (hs : Reachable H s) {param : Option PAObject}
    (hr : ServerRef.ptr H s param = some r) (data : Bytes) (f : Conn → SendInfo)
    {params : PAObject}
    (hclients : params.get? "clients" = some (.collection (websocketServerClients H s param)))
    {all : Option PAObject} (hall : obGet all "clients" = none) :
    (∃ ids : List ℤ, websocketServerClients H s param = ids.map (fun i : ℤ => .real (i : Double))
        ∧ ids.Pairwise (· < ·) ∧ 0 ∉ ids
        ∧ ∀ i, i ∈ ids ↔ ∃ p, p ∈ r.server.clients ∧ r.clientsReverse[p]? = some i)
      ∧ ((r.send H (some params) data fun _ => f).map (·.conn)).Nodup
      ∧ (∀ p, p ∈ (r.send H (some params) data fun _ => f).map (·.conn) ↔
        p ∈ r.server.clients ∧ p ∈ r.clientsReverse)
      ∧ (∀ t ∈ r.send H (some params) data fun _ => f, t.data = data)
      ∧ (r.send H (some params) data fun _ => f).Perm
        ((r.send H all data fun _ => f).filter fun t =>
          obGetN (some t.result) "client" ≠ ((0 : ℤ) : Double)) := by
  have hlinked : r.Linked := ((reachable_inv hs).server hr).2.2
  have hids : websocketServerClients H s param
      = r.getClients.toList.map fun i : ℤ => .real (i : Double) := by
    simp only [websocketServerClients, hr]
  have hsend : r.send H (some params) data (fun _ => f) = r.sendTo H data (fun _ => f)
      (r.getClients.toList.map fun i : ℤ => .real (i : Double)) 0 := by
    have hget : obGetC (some params) "clients" = some (websocketServerClients H s param) :=
      obGetC_of_get? hclients
    rw [ServerRef.send, hget, hids]
  have hperm := sendTo_reported_perm (H := H) hlinked data f
  rw [← hsend] at hperm
  have hconns : (((r.server.clients.toList.filter fun p => r.findClient p ≠ 0).map
      fun p => transmission data f p (r.findClient p)).map (·.conn))
      = r.server.clients.toList.filter fun p => r.findClient p ≠ 0 := by
    rw [List.map_map]
    exact List.map_id _
  refine ⟨⟨r.getClients.toList, hids, ?_, ?_, fun i => ?_⟩, ?_, fun p => ?_, fun t ht => ?_, ?_⟩
  · exact Std.TreeSet.ordered_toList.imp fun h => compare_lt_iff_lt.1 h
  · rw [Std.TreeSet.mem_toList]
    exact zero_notMem_getClients
  · rw [Std.TreeSet.mem_toList, mem_getClients_iff hlinked]
  · rw [(hperm.map _).nodup_iff, hconns]
    exact (Maps.nodup_toList _).filter _
  · rw [(hperm.map _).mem_iff, hconns, List.mem_filter, Std.TreeSet.mem_toList, decide_eq_true_eq]
    exact and_congr_right fun hp => findClient_ne_zero hlinked hp
  · obtain ⟨p, -, rfl⟩ := List.mem_map.1 (hperm.mem_iff.1 ht)
    rfl
  · refine hperm.trans (List.Perm.of_eq ?_)
    have hall' : obGetC all "clients" = none := by simp [obGetC, hall]
    rw [ServerRef.send, hall', sendToAll_eq, List.filter_map]
    simp [Function.comp_def, transmission_client]

/-- A server that holds connections 7 and 8, the second of them open as number 1. -/
def twoHeld : Plugin :=
  (Runs.exec (step .plain) {} [.server none, .hold (-1) (Std.TreeSet.ofList [7, 8]),
    .serverEvent (-1) 8 { type := .open }]).getD {}

theorem twoHeld_reachable : Reachable .plain twoHeld :=
  Runs.reachable_of_exec [.server none, .hold (-1) (Std.TreeSet.ofList [7, 8]),
    .serverEvent (-1) 8 { type := .open }] rfl

def twoHeldHandle : Option PAObject := some [("ref", .real (-1 : ℤ))]

/-- What is sent to the reported clients of `twoHeld` is what a broadcast sends to 8. -/
theorem twoHeld_send_reported :
    ∃ r, ServerRef.ptr .plain twoHeld twoHeldHandle = some r
      ∧ (r.send .plain none (ascii "hi") fun _ _ => ⟨true, false, 2, 4⟩).map (·.conn) = [7, 8]
      ∧ (r.send .plain (some [("clients", .collection
          (websocketServerClients .plain twoHeld twoHeldHandle))]) (ascii "hi")
        fun _ _ => ⟨true, false, 2, 4⟩).Perm
          ((r.send .plain none (ascii "hi") fun _ _ => ⟨true, false, 2, 4⟩).filter fun t =>
            obGetN (some t.result) "client" ≠ ((0 : ℤ) : Double)) := by
  refine ⟨_, rfl, by decide +kernel, ?_⟩
  exact (send_reported_perm twoHeld_reachable rfl (ascii "hi") _ rfl rfl).2.2.2.2

end IxWebsocket
