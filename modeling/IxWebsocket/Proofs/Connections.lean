import IxWebsocket.Proofs.Frames
import IxWebsocket.Proofs.Routing

/-!
# Whom the id in a queued event leads to

An event of connection `p` is queued with the id `p` is registered under. Until the close of `p`
is handled the id leads to `p`. From then on it leads to nobody, or to a connection that was
opened after that close and given the id again (`queued_client_resolves`): ids are handed out
smallest first, and a message that waits in the list does not keep its id back.
-/

namespace IxWebsocket

variable {H : Host} {s t : Plugin} {r r' : ServerRef} {p : Conn}

/-! ## One event -/

/-- An event moves one connection into a free id, or out of its id, or changes nothing. -/
theorem lookOf_getClient (hr : r.Linked) (type : MessageType) (p : Conn) (j : ℤ) :
    (lookOf type r p).1.getClient j = r.getClient j
      ∨ (type = .open ∧ r.getClient j = none ∧ (lookOf type r p).1.getClient j = some p)
      ∨ (type = .close ∧ r.getClient j = some p ∧ (lookOf type r p).1.getClient j = none) := by
  cases type with
  | «open» =>
    by_cases hj : Maps.leastFree r.clients = j
    · subst hj
      have hfree := Maps.leastFree_notMem r.clients
      exact .inr (.inl ⟨rfl, Std.TreeMap.getElem?_eq_none hfree,
        Maps.getElem?_insertIfNew_self hfree⟩)
    · exact .inl (Maps.getElem?_insertIfNew_of_ne hj)
  | close =>
    simp only [lookOf, ServerRef.unregisterClient]
    split
    · exact .inl rfl
    · rename_i i hi
      by_cases hj : i = j
      · subst hj
        exact .inr (.inr ⟨trivial, hr.back hi, Std.TreeMap.getElem?_erase_self⟩)
      · exact .inl (Maps.getElem?_erase_of_ne hj)
  | _ => exact .inl rfl

/-- The id an event is queued with leads to its connection, or that was its close. -/
theorem lookOf_client (hr : r.Linked) (type : MessageType) (hj : 1 ≤ (lookOf type r p).2) :
    (lookOf type r p).1.getClient (lookOf type r p).2 = some p
      ∨ (type = .close ∧ (lookOf type r p).1.getClient (lookOf type r p).2 = none) := by
  cases type with
  | «open» => exact .inl (Maps.getElem?_insertIfNew_self (Maps.leastFree_notMem _))
  | close =>
    refine .inr ⟨rfl, ?_⟩
    simp only [lookOf, ServerRef.unregisterClient] at hj ⊢
    split at hj
    · omega
    · exact Std.TreeMap.getElem?_erase_self
  | _ => exact .inl (hr.findClient hj)

/-! ## Runs -/

/-- A close of `p` on server `i` is handled in `as`. -/
def Closed (i : ℤ) (p : Conn) (as : List Action) : Prop :=
  ∃ msg : WebSocketMessage, .serverEvent i p msg ∈ as ∧ msg.type = .close

/-- A connection other than `p` that is opened on server `i` in `as`, after the close of `p`. -/
def OpenedAfter (i : ℤ) (p p' : Conn) (closed : Prop) (as : List Action) : Prop :=
  ∃ (before after : List Action) (msg : WebSocketMessage),
    as = before ++ .serverEvent i p' msg :: after ∧ msg.type = .open ∧ (closed ∨ Closed i p before)

/-- What id `j` of server `i` can lead to, `as` after it was queued for `p`. -/
def Resolves (i j : ℤ) (p : Conn) (closed : Prop) (as : List Action) (r : ServerRef) : Prop :=
  r.getClient j = some p
    ∨ (r.getClient j = none ∧ (closed ∨ Closed i p as))
    ∨ ∃ p', r.getClient j = some p' ∧ OpenedAfter i p p' closed as

theorem Closed.append {i : ℤ} {as bs : List Action} (h : Closed i p as) :
    Closed i p (as ++ bs) := by
  obtain ⟨msg, hmem, htype⟩ := h
  exact ⟨msg, List.mem_append_left _ hmem, htype⟩

theorem OpenedAfter.append {i : ℤ} {p' : Conn} {closed : Prop} {as bs : List Action}
    (h : OpenedAfter i p p' closed as) : OpenedAfter i p p' closed (as ++ bs) := by
  obtain ⟨before, after, msg, rfl, htype, hclosed⟩ := h
  exact ⟨before, after ++ bs, msg, by simp, htype, hclosed⟩

theorem OpenedAfter.closed {i : ℤ} {p' : Conn} {closed : Prop} {as : List Action}
    (h : OpenedAfter i p p' closed as) : closed ∨ Closed i p as := by
  obtain ⟨before, after, msg, rfl, -, hclosed⟩ := h
  exact hclosed.imp_right Closed.append

theorem Resolves.append {i j : ℤ} {closed : Prop} {as bs : List Action}
    (h : Resolves i j p closed as r) (hr : r'.getClient j = r.getClient j) :
    Resolves i j p closed (as ++ bs) r' := by
  unfold Resolves
  rw [hr]
  rcases h with h | ⟨h, hclosed⟩ | ⟨p', h, hopened⟩
  · exact .inl h
  · exact .inr (.inl ⟨h, hclosed.imp_right Closed.append⟩)
  · exact .inr (.inr ⟨p', h, hopened.append⟩)

/-- One event of the server. -/
theorem Resolves.event {i j : ℤ} {closed : Prop} {as : List Action} {p' : Conn}
    {msg : WebSocketMessage} (hr : r.Linked) (h : Resolves i j p closed as r) :
    Resolves i j p closed (as ++ [.serverEvent i p' msg]) (lookOf msg.type r p').1 := by
  rcases lookOf_getClient hr msg.type p' j with heq | ⟨htype, hnone, hsome⟩ | ⟨htype, hsome, hnone⟩
  · exact h.append heq
  · -- the id was free, so the close of `p` lies before this open event
    have hclosed : closed ∨ Closed i p as := by
      rcases h with h | ⟨-, hclosed⟩ | ⟨q, h, -⟩
      · rw [hnone] at h
        cases h
      · exact hclosed
      · rw [hnone] at h
        cases h
    exact .inr (.inr ⟨p', hsome, as, [], msg, rfl, htype, hclosed⟩)
  · refine .inr (.inl ⟨hnone, ?_⟩)
    rcases h with h | ⟨h, -⟩ | ⟨q, h, hopened⟩
    · rw [hsome, Option.some.injEq] at h
      subst h
      exact .inr ⟨msg, by simp, htype⟩
    · rw [hsome] at h
      cases h
    · exact hopened.closed.imp_right Closed.append

/-- Let an event of `p` be queued with an id from 1 on. In every state that follows, the loop's
delivery of that message among them, the id leads to `p`, or the close of `p` has been handled
and it leads to nobody or to a connection opened since. -/
theorem queued_client_resolves (hs : Reachable H s) {i : ℤ} (hr : s.serverList[i]? = some r)
    {msg : WebSocketMessage} {q : Queued}
    (hq : (serverCallback H s i p msg).messages = s.messages ++ [q]) (hj : 1 ≤ q.msg.client)
    {as : List Action} (h : Runs.Run (step H) (serverCallback H s i p msg) as t)
    (hr' : t.serverList[i]? = some r') (hobj : r'.obj = r.obj) :
    Resolves i q.msg.client p (msg.type = .close) as r' := by
  have hI := reachable_inv hs
  have hreach : Reachable H (serverCallback H s i p msg) :=
    hs.step (a := .serverEvent i p msg) (by simp [step, hr])
  have hlt : r.obj < s.objects :=
    (reachable_ledger hs).lt (k := .server i) (objAt_server_eq_some.2 ⟨r, hr, rfl⟩)
  have heq := serverCallback_eq (H := H) s i p msg
  obtain ⟨q', hq', -, -, hclient, -⟩ :=
    serverHandler_spec (H := H) hr (lookOf_routing msg.type r p) msg.type msg.info
  rw [heq, hq'] at hq
  obtain rfl : q' = q := by simpa [Plugin.push] using hq
  rw [hclient] at hj ⊢
  have hstart : (serverCallback H s i p msg).serverList[i]? = some (lookOf msg.type r p).1 := by
    rw [heq, hq']
    exact Std.TreeMap.getElem?_insert_self
  refine h.trace_invariant (I := fun as t => s.objects ≤ t.objects ∧
    ∀ r', t.serverList[i]? = some r' → r'.obj = r.obj →
      Resolves i (lookOf msg.type r p).2 p (msg.type = .close) as r') ?_ ?_ |>.2 r' hr' hobj
  · refine ⟨(by rw [heq, hq']; exact le_rfl), fun r' hr' _ => ?_⟩
    obtain rfl := Option.some.inj (hstart.symm.trans hr')
    rcases lookOf_client (hI.server hr).2.2 msg.type hj with h | ⟨htype, h⟩
    · exact .inl h
    · exact .inr (.inl ⟨h, .inl htype⟩)
  · rintro as t a u hrun - hstep ⟨hle, ih⟩
    have hIt := run_inv (reachable_inv hreach) hrun
    refine ⟨hle.trans (step_moves hIt hstep).ledger.objects_le, fun r' hr' hobj => ?_⟩
    rcases step_server hstep hr' with hnew | ⟨r₁, hr₁, hobj₁, ⟨hsame, -⟩ | ⟨p', m, rfl, rfl⟩⟩
    · omega
    · exact (ih r₁ hr₁ (hobj₁.symm.trans hobj)).append (by simp [ServerRef.getClient, hsame])
    · exact (ih r₁ hr₁ (hobj₁.symm.trans hobj)).event (hIt.server hr₁).2.2

/-! ## A number that is given again -/

/-- A server that holds connections 7 and 8, the first of them open as number 1. -/
def oneOpen : Plugin :=
  (Runs.exec (step .plain) {} [.server none, .hold (-1) (Std.TreeSet.ofList [7, 8]),
    .serverEvent (-1) 7 { type := .open }]).getD {}

theorem oneOpen_reachable : Reachable .plain oneOpen :=
  Runs.reachable_of_exec [.server none, .hold (-1) (Std.TreeSet.ofList [7, 8]),
    .serverEvent (-1) 7 { type := .open }] rfl

/-- What happens between the event of 7 and its delivery. -/
def closeAndOpen : List Action :=
  [.serverEvent (-1) 7 { type := .close }, .serverEvent (-1) 8 { type := .open }, .deliver]

def reopened : Plugin :=
  (Runs.exec (step .plain) (serverCallback .plain oneOpen (-1) 7 { type := .message })
    closeAndOpen).getD {}

theorem reopened_run : Runs.Run (step .plain)
    (serverCallback .plain oneOpen (-1) 7 { type := .message }) closeAndOpen reopened :=
  Runs.run_of_exec rfl

theorem reopened_resolves :
    ∃ r, reopened.serverList[(-1 : ℤ)]? = some r
      ∧ Resolves (-1) 1 7 (MessageType.message = .close) closeAndOpen r := by
  obtain ⟨q, hq, hj⟩ : ∃ q, (serverCallback .plain oneOpen (-1) 7 { type := .message }).messages
      = oneOpen.messages ++ [q] ∧ q.msg.client = 1 := ⟨_, rfl, rfl⟩
  have h0 : oneOpen.objAt (.server (-1)) = some 0 := by decide +kernel
  have h0' : reopened.objAt (.server (-1)) = some 0 := by decide +kernel
  obtain ⟨r, hr, hobj⟩ := objAt_server_eq_some.1 h0
  obtain ⟨r', hr', hobj'⟩ := objAt_server_eq_some.1 h0'
  have h := queued_client_resolves oneOpen_reachable hr hq (by omega) reopened_run hr'
    (hobj'.trans hobj.symm)
  rw [hj] at h
  exact ⟨r', hr', h⟩

/-- When the message of 7 is the first in the list, its number is that of 8. -/
theorem reopened_names_other :
    Reachable .plain reopened
      ∧ (reopened.messages.head?.map fun q => (q.msg.server, q.msg.client, q.origin.conn))
        = some (-1, 1, some 7)
      ∧ (reopened.serverList[(-1 : ℤ)]?.bind (·.getClient 1)) = some 8 := by
  refine ⟨?_, by decide +kernel, by decide +kernel⟩
  exact (oneOpen_reachable.step (a := .serverEvent (-1) 7 { type := .message }) rfl).trans
    reopened_run

end IxWebsocket
