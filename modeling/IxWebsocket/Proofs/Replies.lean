import IxWebsocket.Replies
import IxWebsocket.Proofs.Sessions
import IxWebsocket.Proofs.Broadcast
import IxWebsocket.Proofs.Registries

/-!
# What the replies say

A messages query lists the events of its ref, in their order, but for the first ones, as many as
the loop has taken (`query_history`). The numbers in the entries of a send lead back to the
connections the entries are about, so the reply can be used as a list of addresses (`send_again`).
Of all replies only those of the creations and the stops are handles of a ref (`reply_leads`).
-/

namespace IxWebsocket

variable {H : Host} {parse : CUTF16String → Option PAObject} {name : CUTF16String → String}
  {s t : Plugin} {k : Place}

/-! ## Messages -/

/-- The events of the ref at `k` that are queued, in their order. -/
def eventsOf (k : Place) (as : List Action) : List WebSocketMessage :=
  as.filterMap fun
    | .clientEvent i msg => if Place.client i = k ∧ msg.type ≠ .open then some msg else none
    | .serverEvent i _ msg => if Place.server i = k then some msg else none
    | _ => none

/-- What a query makes of an event. -/
def eventObject (H : Host) (parse : CUTF16String → Option PAObject) (msg : WebSocketMessage) :
    PAObject :=
  let message := obSetA [] "type" (wide msg.type.text)
  match parse (convert H (cstr (H.writeString msg.info))) with
  | some object => obSetO message "context" object
  | none => message

/-- The messages query on the ref at `k`. -/
def Place.queryCall (locked : Bool) : Place → Call
  | .client _ => .clientMessages locked
  | .server _ => .serverMessages locked

/-- The ref is of the kind of the place. -/
def Ref.At (r : Ref) : Place → Prop
  | .client _ => ∃ c, r = .client c
  | .server _ => ∃ c, r = .server c

theorem cstr_cstr {α : Type*} [DecidableEq α] [Zero α] (l : List α) : cstr (cstr l) = cstr l :=
  List.takeWhile_idem

theorem cstr_convert (b : Bytes) : cstr (convert H b) = convert H b := by
  unfold convert
  rcases H.fromUtf8 (cstr b) with _ | u
  · rfl
  · exact cstr_cstr u

theorem getValue_message (server client : ℤ) (routing : Routing) (msg : WebSocketMessage) :
    (Ref.message H server client routing msg).getValue parse = eventObject H parse msg := by
  have hcontext : cstr (Ref.message H server client routing msg).context
      = convert H (cstr (H.writeString msg.info)) := cstr_convert _
  unfold Message.getValue eventObject
  rw [hcontext]
  rfl

theorem after_at {r : Ref} (hr : r.At k) (a : Action) : (r.after H k a).At k := by
  unfold Ref.after
  split_ifs
  · cases k with
    | client i =>
      obtain ⟨c, rfl⟩ := hr
      cases a with
      | command c' param => cases c' <;> exact ⟨_, rfl⟩
      | _ => exact ⟨_, rfl⟩
    | server i =>
      obtain ⟨c, rfl⟩ := hr
      obtain ⟨c', hc', -⟩ := after_server H i c a
      unfold Ref.after at hc'
      split_ifs at hc'
      exact ⟨c', hc'⟩
  · exact hr

theorem posts_values {r : Ref} (hr : r.At k) (a : Action) :
    (r.posts H k a).map (fun e => e.1.getValue parse)
      = (eventsOf k [a]).map (eventObject H parse) := by
  unfold Ref.posts
  cases k with
  | client i =>
    obtain ⟨c, rfl⟩ := hr
    cases a with
    | clientEvent i' msg =>
      by_cases hi : i' = i <;> by_cases hopen : msg.type = .open <;>
        simp [eventsOf, Action.about, Ref.event, hi, hopen, getValue_message]
    | _ => simp [eventsOf, Ref.event]
  | server i =>
    obtain ⟨c, rfl⟩ := hr
    cases a with
    | serverEvent i' p msg =>
      by_cases hi : i' = i <;>
        simp [eventsOf, Action.about, Ref.event, hi, getValue_message]
    | _ => simp [eventsOf, Ref.event]

theorem trace_values : ∀ {r : Ref} (as : List Action), r.At k →
    (r.trace H k as).map (fun e => e.1.getValue parse) = (eventsOf k as).map (eventObject H parse)
  | r, [], _ => rfl
  | r, a :: as, hr => by
    have hcons : eventsOf k (a :: as) = eventsOf k [a] ++ eventsOf k as :=
      List.filterMap_append (l := [a])
    rw [Ref.trace, hcons, List.map_append, List.map_append, posts_values hr,
      trace_values as (after_at hr a)]

theorem refAt_at {r : Ref} (h : s.refAt k = some r) : r.At k := by
  cases k with
  | client i =>
    obtain ⟨c, -, rfl⟩ := refAt_client h
    exact ⟨c, rfl⟩
  | server i =>
    obtain ⟨c, -, rfl⟩ := refAt_server h
    exact ⟨c, rfl⟩

theorem clientSelects_iff (i : ℤ) (m : Message) :
    clientSelects i m = true ↔ m.place = .client i := by
  unfold clientSelects Message.place
  split_ifs with h0
  · simp [h0, eq_comm]
  · simp [h0]

theorem serverSelects_iff {i : ℤ} (hi : i ≠ 0) (m : Message) :
    serverSelects i m = true ↔ m.place = .server i := by
  unfold serverSelects Message.place
  split_ifs with h0
  · simp [h0, hi]
  · simp [eq_comm]

variable (parse name) in
/-- The query of a live ref lists what is pending in its name. -/
theorem query_reply (hs : Inv s) {r : Ref} (hk : s.refAt k = some r) {param : Option PAObject}
    (hparam : refParam H param = k.id) (locked : Bool) :
    (k.queryCall locked).reply H parse name s param
      = .collection (if locked then
        (s.pendingAt k).map fun e => .object (e.1.getValue parse) else []) := by
  have hvalues : ∀ {select : Message → Bool}, (∀ m, select m = true ↔ m.place = k) →
      messageCollection parse (s.messages.filter fun q => select q.msg)
        = (s.pendingAt k).map fun e => .object (e.1.getValue parse) := by
    intro select hselect
    have hfilter : s.messages.filter (fun q => select q.msg)
        = s.messages.filter (·.msg.place = k) := by
      refine List.filter_congr fun q _ => ?_
      rw [Bool.eq_iff_iff, hselect, decide_eq_true_eq]
    rw [hfilter, messageCollection, Plugin.pendingAt, List.map_map]
    rfl
  cases k with
  | client i =>
    obtain ⟨c, hc, rfl⟩ := refAt_client hk
    have hid := (hs.client hc).2
    simp only [Place.queryCall, Call.reply, websocketClientMessages, ClientRef.ptr, ClientRef.ref,
      hparam, Place.id, hc]
    cases locked with
    | false => rfl
    | true =>
      rw [if_pos rfl, if_pos rfl, ← hvalues (clientSelects_iff i), hid]
  | server i =>
    obtain ⟨c, hc, rfl⟩ := refAt_server hk
    have hid := (hs.server hc).2.1
    have hi := (hs.server hc).1
    simp only [Place.queryCall, Call.reply, websocketServerMessages, ServerRef.ptr, ServerRef.ref,
      hparam, Place.id, hc]
    cases locked with
    | false => rfl
    | true =>
      rw [if_pos rfl, if_pos rfl, ← hvalues (serverSelects_iff (by omega)), hid]

/-- However many refs there are and whatever happens to them: as long as a ref is not cleared, the
query of it lists the messages that were pending in its name, and then the events of its callback
since, in their order, each with its type and context; from the front as many are missing as the
loop has taken of them. When the mutex is held, the query lists nothing. -/
theorem query_history {as : List Action} (hs : Reachable H s) (hlive : (s.objAt k).isSome)
    (h : Runs.Steps (step H) (Spares H k) s as t) {param : Option PAObject}
    (hparam : refParam H param = k.id) :
    (∃ l listed, (s.pendingAt k).map (fun e => e.1.getValue parse)
          ++ (eventsOf k as).map (eventObject H parse) = l ++ listed
        ∧ l.length = taken H k s as
        ∧ (k.queryCall true).reply H parse name t param = .collection (listed.map .object))
      ∧ (k.queryCall false).reply H parse name t param = .collection [] := by
  rw [← refAt_isSome] at hlive
  obtain ⟨r, hr⟩ := Option.isSome_iff_exists.1 hlive
  obtain ⟨href, l, hl, hlength⟩ := run_isolated hs hr h
  have hIt := run_inv (reachable_inv hs) h.run
  have hquery := query_reply parse name hIt href hparam
  have hvalues : (r.trace H k as).map (fun e => e.1.getValue parse)
      = (eventsOf k as).map (eventObject H parse) := trace_values as (refAt_at hr)
  refine ⟨⟨l.map fun e => e.1.getValue parse, (t.pendingAt k).map fun e => e.1.getValue parse,
    ?_, ?_, ?_⟩, by rw [hquery false]; rfl⟩
  · rw [← hvalues, ← List.map_append, hl, List.map_append]
  · rw [List.length_map, hlength]
  · rw [hquery true, if_pos rfl, List.map_map]
    rfl

def pinged : Plugin := (Runs.exec (step .plain) oneClient pingBeside).getD {}

/-- The loop has taken the ping. -/
theorem pinged_history :
    (Call.clientMessages true).reply .plain (fun _ => none) (fun _ => "") pinged (some oneHandle)
      = .collection [.object (eventObject .plain (fun _ => none) { type := .pong })] := by
  have h : Runs.Steps (step .plain) (Spares .plain (.client 1)) oneClient pingBeside pinged :=
    steps_of_events (by simp [pingBeside]) rfl
  have hparam : refParam .plain (some oneHandle) = (Place.client 1).id := by decide +kernel
  obtain ⟨l, listed, hl, hlength, hreply⟩ :=
    (query_history oneClient_reachable oneClient_live h hparam).1
  have hone : taken .plain (.client 1) oneClient pingBeside = 1 := by decide +kernel
  obtain ⟨ping, rfl⟩ := List.length_eq_one_iff.1 (hlength.trans hone)
  have hlisted : [eventObject .plain (fun _ => none) { type := .pong }] = listed :=
    (List.cons_eq_cons.1 hl).2
  rw [← hlisted] at hreply
  exact hreply

/-! ## Sends -/

namespace ServerRef

variable {r : ServerRef}

/-- The number in the entry of a transmission. -/
def Transmission.client (x : Transmission) : Double := obGetN (some x.result) "client"

end ServerRef

/-- The objects a method finds in a reply. -/
def Reply.objects : Reply → List PAObject
  | .object o => [o]
  | .collection c => c.filterMap fun
    | .object o => some o
    | _ => none

def Call.isStop : Call → Bool
  | .clientStop | .serverStop => true
  | _ => false

theorem refParam_of_not_ref {o : PAObject} (h : o.get? "ref" = none) :
    refParam H (some o) = 0 := by
  refine refParam_of_not_real fun x hx => ?_
  simp only [obGet, Option.bind_some, h] at hx
  cases hx

theorem getValue_get? (m : Message) : (m.getValue parse).get? "ref" = none := by
  unfold Message.getValue
  have htype : (obSetA [] "type" m.type).get? "ref" = none :=
    PAObject.get?_set_of_ne _ _ (by decide)
  cases parse (cstr m.context) with
  | none => exact htype
  | some object => exact (PAObject.get?_set_of_ne _ _ (by decide)).trans htype

theorem sendResult_get? (info : SendInfo) (i : ℤ) :
    (ServerRef.sendResult info i).get? "ref" = none := by
  simp [ServerRef.sendResult, obSetB, obSetN, PAObject.get?_set_of_ne, PAObject.get?]

theorem messageCollection_objects {qs : List Queued} {o : PAObject}
    (ho : o ∈ (Reply.collection (messageCollection parse qs)).objects) :
    o.get? "ref" = none := by
  simp only [Reply.objects, messageCollection, List.filterMap_map, List.mem_filterMap] at ho
  obtain ⟨q, -, hq⟩ := ho
  obtain rfl := Option.some.inj hq
  exact getValue_get? q.msg

theorem sendTo_results {r : ServerRef} (data : Bytes) (outcome : ℕ → Conn → SendInfo) :
    ∀ (c : PACollection) (n : ℕ), ∀ x ∈ r.sendTo H data outcome c n,
      x.result.get? "ref" = none
  | [], n, x, hx => by simp [ServerRef.sendTo] at hx
  | v :: c, n, x, hx => by
    unfold ServerRef.sendTo at hx
    split at hx
    · dsimp only at hx
      split at hx
      · rcases List.mem_cons.1 hx with rfl | hx
        · exact sendResult_get? _ _
        · exact sendTo_results data outcome c _ x hx
      · exact sendTo_results data outcome c _ x hx
    · exact sendTo_results data outcome c _ x hx

theorem sendToAll_results {r : ServerRef} (data : Bytes) (outcome : ℕ → Conn → SendInfo) :
    ∀ (l : List Conn) (n : ℕ), ∀ x ∈ r.sendToAll data outcome l n, x.result.get? "ref" = none
  | [], n, x, hx => by simp [ServerRef.sendToAll] at hx
  | p :: l, n, x, hx => by
    rcases List.mem_cons.1 hx with rfl | hx
    · exact sendResult_get? _ _
    · exact sendToAll_results data outcome l _ x hx

/-- What is no settings object of a stop names no ref. -/
theorem reply_names (hs : Inv s) (c : Call) (param : Option PAObject) {o : PAObject}
    (ho : o ∈ (c.reply H parse name s param).objects) :
    (c.isStop ∧ refParam H (some o) = refParam H param
        ∧ (s.objAt (c.command.place (refParam H param))).isSome)
      ∨ o.get? "ref" = none := by
  cases c with
  | clientStart r =>
    refine .inr ?_
    obtain rfl := List.mem_singleton.1 ho
    split
    · rfl
    · simp [clientStartReply, obSetB, obSetN, obSetS, obSetO, PAObject.get?_set_of_ne,
        PAObject.get?]
  | serverStart success message =>
    refine .inr ?_
    obtain rfl := List.mem_singleton.1 ho
    split
    · rfl
    · simp [serverStartReply, obSetB, obSetS, PAObject.get?_set_of_ne, PAObject.get?]
  | clientStop =>
    obtain rfl := List.mem_singleton.1 ho
    rcases hr : s.clientList[refParam H param]? with _ | r
    · simp only [ClientRef.ptr, ClientRef.ref, hr]
      exact .inr rfl
    · simp only [ClientRef.ptr, ClientRef.ref, hr]
      refine .inl ⟨rfl, ?_, ?_⟩
      · rw [refParam_clientHandle]
        exact (hs.client hr).2
      · simp [Plugin.objAt, Call.command, Command.place, hr]
  | serverStop =>
    obtain rfl := List.mem_singleton.1 ho
    rcases hr : s.serverList[refParam H param]? with _ | r
    · simp only [ServerRef.ptr, ServerRef.ref, hr]
      exact .inr rfl
    · simp only [ServerRef.ptr, ServerRef.ref, hr]
      refine .inl ⟨rfl, ?_, ?_⟩
      · rw [refParam_serverHandle]
        exact (hs.server hr).2.1
      · simp [Plugin.objAt, Call.command, Command.place, hr]
  | clientSend data r =>
    refine .inr ?_
    obtain rfl := List.mem_singleton.1 ho
    split
    · simp [clientSendReply, obSetB, obSetN, PAObject.get?_set_of_ne, PAObject.get?]
    · rfl
  | serverSend data outcome =>
    refine .inr ?_
    simp only [Call.reply, Reply.objects] at ho
    split at ho
    · simp only [List.filterMap_map, List.mem_filterMap] at ho
      obtain ⟨x, hx, hxo⟩ := ho
      obtain rfl := Option.some.inj hxo
      unfold ServerRef.send at hx
      split at hx
      · exact sendTo_results _ _ _ _ x hx
      · exact sendToAll_results _ _ _ _ x hx
    · simp at ho
  | clientClear fired | serverClear fired =>
    refine .inr ?_
    obtain rfl := List.mem_singleton.1 ho
    rfl
  | serverClients =>
    refine .inr ?_
    simp only [Call.reply, Reply.objects, websocketServerClients] at ho
    split at ho
    · simp at ho
    · simp at ho
  | serverMessages locked | clientMessages locked => exact .inr (messageCollection_objects ho)

/-- Of all objects in a reply only the settings a stop answers with are a handle, of the ref that
was stopped. With any other, a command finds no ref and does nothing, then and ever after. -/
theorem reply_leads (hs : Reachable H s) (c : Call) (param : Option PAObject) {o : PAObject}
    (ho : o ∈ (c.reply H parse name s param).objects) :
    (c.isStop ∧ refParam H (some o) = refParam H param
        ∧ (s.objAt (c.command.place (refParam H param))).isSome)
      ∨ ∀ t, Reachable H t → ∀ c' : Command, runCommand H t (some o) c' = (t, []) := by
  refine (reply_names (reachable_inv hs) c param ho).imp_right fun hnone t ht c' => ?_
  refine runCommand_of_none ?_
  rw [refParam_of_not_ref hnone]
  exact (reachable_inv ht).place_zero c'

def startCall : Call := .clientStart { success := true, httpStatus := 101 }

/-- What a start answers with is no handle. -/
theorem startReply_leads :
    ∃ o, startCall.reply .plain (fun _ => none) (fun _ => "") oneClient (some oneHandle)
        = .object o
      ∧ runCommand .plain oneClient (some o) .clientStop = (oneClient, []) := by
  refine ⟨_, rfl, ?_⟩
  have ho : clientStartReply .plain (fun _ => "") { success := true, httpStatus := 101 }
      ∈ (startCall.reply .plain (fun _ => none) (fun _ => "") oneClient (some oneHandle)).objects :=
    List.mem_cons_self
  obtain ⟨hstop, -⟩ | h := reply_leads oneClient_reachable startCall (some oneHandle) ho
  · cases hstop
  · exact h oneClient oneClient_reachable .clientStop

end IxWebsocket
