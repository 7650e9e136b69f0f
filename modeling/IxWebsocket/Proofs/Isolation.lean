import IxWebsocket.Proofs.Frames
import IxWebsocket.Proofs.Routing

/-!
# A ref by itself

What a ref becomes, and which messages are queued in its name, is up to the actions about that
ref: the commands whose handle leads to it, the events of its callback, and what IXWebSocket holds
for it (`run_isolated`). The actions about the others, and how they come between, make no
difference (`run_noninterference`).
-/

namespace IxWebsocket

variable {H : Host} {s t : Plugin} {k : Place}

/-! ## Statements -/

inductive Ref
  | client (r : ClientRef)
  | server (r : ServerRef)

def Plugin.refAt (s : Plugin) : Place → Option Ref
  | .client i => s.clientList[i]?.map .client
  | .server i => s.serverList[i]?.map .server

/-- The messages in the list in the name of a place. -/
def Plugin.pendingAt (s : Plugin) (k : Place) : List (Message × Origin) :=
  (s.messages.filter (·.msg.place = k)).map fun q => (q.msg, q.origin)

def Action.about (H : Host) (k : Place) : Action → Bool
  | .command c param => c.place (refParam H param) = k
  | .clientEvent i _ => Place.client i = k
  | .serverEvent i _ _ => Place.server i = k
  | .hold i _ => Place.server i = k
  | .client _ | .server _ | .deliver => false

/-- The loop takes a message in the name of `k`. -/
def Plugin.takes (s : Plugin) (k : Place) : Action → Bool
  | .deliver => s.messages.head?.any (·.msg.place = k)
  | _ => false

/-- How many of these it takes along a run. -/
def taken (H : Host) (k : Place) : Plugin → List Action → ℕ
  | _, [] => 0
  | s, a :: as => (s.takes k a).toNat + match step H s a with
    | none => 0
    | some t => taken H k t as

/-- The ref at `k` is not cleared. -/
def Spares (H : Host) (k : Place) (_ : Plugin) (a : Action) : Prop :=
  ∀ c param, a = .command c param → c.isClear → c.place (refParam H param) ≠ k

namespace Ref

/-- What an action about a ref does to it. -/
def move (H : Host) : Ref → Action → Ref
  | .client r, .command c param => match c with
    | .clientStart _ | .clientStop | .clientSend _ => .client (r.setParams H param)
    | _ => .client r
  | .server r, .command c param => match c with
    | .serverStart _ | .serverStop | .serverSend _ _ => .server (r.setParams H param)
    | _ => .server r
  | .server r, .serverEvent _ p msg => .server (lookOf msg.type r p).1
  | .server r, .hold _ conns => .server { r with server := { r.server with clients := conns } }
  | r, _ => r

def message (H : Host) (server client : ℤ) (routing : Routing) (msg : WebSocketMessage) :
    Message where
  server := server
  client := client
  window := routing.window
  process := routing.process
  context := convert H (cstr (H.writeString msg.info))
  type := wide msg.type.text
  worker := routing.worker
  method := routing.method

/-- The message an event of a ref is queued as, if it is. -/
def event (H : Host) : Ref → Action → List (Message × Origin)
  | .client r, .clientEvent i msg =>
    if msg.type = .open then [] else [(message H 0 i r.routing msg, ⟨r.obj, none⟩)]
  | .server r, .serverEvent i p msg =>
    [(message H i (lookOf msg.type r p).2 r.routing msg, ⟨r.obj, some p⟩)]
  | _, _ => []

def after (H : Host) (k : Place) (r : Ref) (a : Action) : Ref :=
  if a.about H k then r.move H a else r

def posts (H : Host) (k : Place) (r : Ref) (a : Action) : List (Message × Origin) :=
  if a.about H k then r.event H a else []

/-- The ref at `k` after the actions, by itself. -/
def run (H : Host) (k : Place) (r : Ref) (as : List Action) : Ref := as.foldl (after H k) r

/-- The messages queued for it meanwhile. -/
def trace (H : Host) (k : Place) : Ref → List Action → List (Message × Origin)
  | _, [] => []
  | r, a :: as => r.posts H k a ++ trace H k (r.after H k a) as

end Ref

/-! ## Refs and their messages -/

theorem refAt_client {i : ℤ} {r : Ref} (h : s.refAt (.client i) = some r) :
    ∃ c, s.clientList[i]? = some c ∧ r = .client c := by
  obtain ⟨c, hc, rfl⟩ := Option.map_eq_some_iff.1 h
  exact ⟨c, hc, rfl⟩

theorem refAt_server {i : ℤ} {r : Ref} (h : s.refAt (.server i) = some r) :
    ∃ c, s.serverList[i]? = some c ∧ r = .server c := by
  obtain ⟨c, hc, rfl⟩ := Option.map_eq_some_iff.1 h
  exact ⟨c, hc, rfl⟩

theorem SameBut.refAt {k k' : Place} (h : SameBut k s t) (hne : k ≠ k') :
    t.refAt k' = s.refAt k' := by
  cases k' with
  | client i => simp only [Plugin.refAt, h.client i hne]
  | server i => simp only [Plugin.refAt, h.server i hne]

theorem pendingAt_append {qs : List Queued} (h : t.messages = s.messages ++ qs) (k : Place) :
    t.pendingAt k = s.pendingAt k
      ++ ((qs.filter (·.msg.place = k)).map fun q => (q.msg, q.origin)) := by
  unfold Plugin.pendingAt
  rw [h, List.filter_append, List.map_append]

theorem clientEvent_queues (hs : Inv s) {i : ℤ} {r : ClientRef} (hr : s.clientList[i]? = some r)
    (msg : WebSocketMessage) :
    ∃ qs, (clientCallback H s i msg).messages = s.messages ++ qs
      ∧ (∀ q ∈ qs, q.msg.place = .client i)
      ∧ qs.map (fun q => (q.msg, q.origin)) = (Ref.client r).event H (.clientEvent i msg) := by
  by_cases hopen : msg.type = .open
  · rw [clientCallback_open hs (hs.client hr).1 hopen]
    exact ⟨[], by simp, nofun, by simp [Ref.event, hopen]⟩
  · rw [clientCallback_eq hopen, clientHandler, hr]
    refine ⟨_, rfl, fun q hq => ?_, ?_⟩
    · rw [List.mem_singleton.1 hq]
      exact place_client rfl rfl
    · simp only [Ref.event, if_neg hopen, List.map_cons, List.map_nil, List.cons.injEq, and_true,
        Prod.mk.injEq]
      simp only [Message.create, hs.no_server le_rfl, hr, Ref.message, ClientRef.routing,
        convert_text]

theorem serverHandler_queues {look : ServerRef → Conn → ServerRef × ℤ} {i : ℤ} {r : ServerRef}
    (hr : s.serverList[i]? = some r) {p : Conn} (hlook : (look r p).1.routing = r.routing)
    (msg : WebSocketMessage) :
    ∃ q, (serverHandler H look msg.type.text msg.info s i p).messages = s.messages ++ [q]
      ∧ q.msg = Ref.message H i (look r p).2 r.routing msg ∧ q.origin = ⟨r.obj, some p⟩ := by
  simp only [ServerRef.routing, Routing.mk.injEq] at hlook
  unfold serverHandler
  rw [hr]
  refine ⟨_, rfl, ?_, rfl⟩
  simp [Message.create, Ref.message, ServerRef.routing, convert_text, hlook]

theorem serverEvent_queues (hs : Inv s) {i : ℤ} {r : ServerRef} (hr : s.serverList[i]? = some r)
    (p : Conn) (msg : WebSocketMessage) :
    ∃ qs, (serverCallback H s i p msg).messages = s.messages ++ qs
      ∧ (∀ q ∈ qs, q.msg.place = .server i)
      ∧ qs.map (fun q => (q.msg, q.origin)) = (Ref.server r).event H (.serverEvent i p msg) := by
  obtain ⟨q, hq, hmsg, horigin⟩ :=
    serverHandler_queues (H := H) hr (lookOf_routing msg.type r p) msg
  rw [serverCallback_eq]
  refine ⟨[q], hq, fun q' hq' => ?_, by rw [List.map_singleton, hmsg, horigin]; rfl⟩
  rw [List.mem_singleton.1 hq', hmsg]
  exact place_server (hs.server hr).1 rfl

/-! ## One step -/

theorem clientFired_queues {i : ℤ} {r : ClientRef} (fired : List WebSocketMessage) (hs : Inv s)
    (hr : s.clientList[i]? = some r) :
    ∃ qs, (fired.foldl (clientCallback H · i) s).messages = s.messages ++ qs
      ∧ ∀ q ∈ qs, q.msg.place = .client i := by
  induction fired generalizing s with
  | nil => exact ⟨[], (List.append_nil _).symm, nofun⟩
  | cons msg fired ih =>
    obtain ⟨qs, hqs, hplace, -⟩ := clientEvent_queues (H := H) hs hr msg
    have hI := (clientCallback_moves (H := H) hs (hs.client hr).1 msg).inv hs
    have hr' := (clientCallback_sameBut (H := H) (s := s) (.server i) i msg).client i (by simp)
    obtain ⟨qs', hqs', hplace'⟩ := ih hI (hr'.trans hr)
    refine ⟨qs ++ qs', ?_, fun q hq => ?_⟩
    · rw [List.foldl_cons, hqs', hqs, List.append_assoc]
    · rcases List.mem_append.1 hq with hq | hq
      · exact hplace q hq
      · exact hplace' q hq

theorem serverFired_queues {i : ℤ} (fired : List (Conn × WebSocketMessage)) {r : ServerRef}
    (hs : Inv s) (hr : s.serverList[i]? = some r) :
    ∃ qs, (fired.foldl (fun s e => serverCallback H s i e.1 e.2) s).messages = s.messages ++ qs
      ∧ ∀ q ∈ qs, q.msg.place = .server i := by
  induction fired generalizing s r with
  | nil => exact ⟨[], (List.append_nil _).symm, nofun⟩
  | cons e fired ih =>
    obtain ⟨qs, hqs, hplace, -⟩ := serverEvent_queues (H := H) hs hr e.1 e.2
    have hI := (serverCallback_moves (H := H) hs i e.1 e.2).inv hs
    have hr' : (serverCallback H s i e.1 e.2).serverList[i]? = some (lookOf e.2.type r e.1).1 := by
      rw [serverCallback_eq, serverHandler, hr]
      exact Std.TreeMap.getElem?_insert_self
    obtain ⟨qs', hqs', hplace'⟩ := ih hI hr'
    refine ⟨qs ++ qs', ?_, fun q hq => ?_⟩
    · rw [List.foldl_cons, hqs', hqs, List.append_assoc]
    · rcases List.mem_append.1 hq with hq | hq
      · exact hplace q hq
      · exact hplace' q hq

theorem refAt_isSome : (s.refAt k).isSome = (s.objAt k).isSome := by
  cases k <;> simp [Plugin.refAt, Plugin.objAt]

/-- A command that clears nothing does to the ref at its place what it does to a ref by itself. -/
theorem setParams_refAt {r : Ref} {c : Command} {param : Option PAObject}
    (hc : c.isClear = false) (hk : s.refAt (c.place (refParam H param)) = some r) :
    (c.setParams H s param).refAt (c.place (refParam H param))
      = some (r.move H (.command c param)) := by
  cases c with
  | clientClear | serverClear => cases hc
  | clientStart | clientStop | clientSend =>
    obtain ⟨r, hr, rfl⟩ := refAt_client hk
    simp [Command.setParams, clientSetParams, ClientRef.ref, hr, Ref.move, Plugin.refAt,
      Command.place]
  | serverStart | serverStop | serverSend =>
    obtain ⟨r, hr, rfl⟩ := refAt_server hk
    simp [Command.setParams, serverSetParams, ServerRef.ref, hr, Ref.move, Plugin.refAt,
      Command.place]
  | clientMessages =>
    obtain ⟨r, hr, rfl⟩ := refAt_client hk
    exact hk
  | serverClients | serverMessages =>
    obtain ⟨r, hr, rfl⟩ := refAt_server hk
    exact hk

theorem step_refAt {r : Ref} {a : Action} (hk : s.refAt k = some r) (hok : Spares H k s a)
    (h : step H s a = some t) : t.refAt k = some (r.after H k a) := by
  have hlive : (s.objAt k).isSome := by rw [← refAt_isSome, hk]; rfl
  unfold Ref.after
  split_ifs with habout
  · cases a with
    | client | server | deliver => cases habout
    | command c param =>
      obtain rfl : c.place (refParam H param) = k := by simpa [Action.about] using habout
      have hc : c.isClear = false := by
        by_contra hc
        exact hok c param rfl (by simpa using hc) rfl
      cases h
      rw [runCommand_setParams hc]
      exact setParams_refAt hc hk
    | clientEvent i msg =>
      obtain rfl : Place.client i = k := by simpa [Action.about] using habout
      obtain ⟨r, hr, rfl⟩ := refAt_client hk
      obtain ⟨-, -, rfl⟩ := Option.map_eq_some_iff.1 h
      exact ((clientCallback_sameBut (.server i) i msg).refAt (by simp)).trans hk
    | serverEvent i p msg =>
      obtain rfl : Place.server i = k := by simpa [Action.about] using habout
      obtain ⟨r, hr, rfl⟩ := refAt_server hk
      obtain ⟨-, -, rfl⟩ := Option.map_eq_some_iff.1 h
      simp only [Plugin.refAt]
      rw [serverCallback_eq, serverHandler, hr]
      exact congrArg (Option.map Ref.server) Std.TreeMap.getElem?_insert_self
    | hold i conns =>
      obtain rfl : Place.server i = k := by simpa [Action.about] using habout
      obtain ⟨r, hr, rfl⟩ := refAt_server hk
      obtain ⟨r', hr', rfl⟩ := Option.map_eq_some_iff.1 h
      obtain rfl : r = r' := Option.some.inj (hr.symm.trans hr')
      simp [Plugin.refAt, Ref.move]
  · have hne : a.place H s ≠ k ∨ a = .deliver := by
      cases a with
      | deliver => exact .inr rfl
      | client param =>
        refine .inl fun hk' => ?_
        rw [← hk', Action.place, objAt_leastFree] at hlive
        cases hlive
      | server param =>
        refine .inl fun hk' => ?_
        rw [← hk', Action.place, objAt_greatestFree] at hlive
        cases hlive
      | _ => exact .inl (by simpa [Action.about, Action.place] using habout)
    rcases hne with hne | rfl
    · rw [(step_sameBut h).refAt hne, hk]
    · simp only [step] at h
      split at h
      · cases h
      · cases h
        exact hk

/-- A step that is no delivery queues for `k` what its ref by itself would queue. -/
theorem step_pendingAt (hs : Inv s) {r : Ref} {a : Action} (hk : s.refAt k = some r)
    (hok : Spares H k s a) (hdeliver : a ≠ .deliver) (h : step H s a = some t) :
    t.pendingAt k = s.pendingAt k ++ r.posts H k a := by
  have hnone : t.messages = s.messages → r.posts H k a = [] →
      t.pendingAt k = s.pendingAt k ++ r.posts H k a := by
    intro hmes hposts
    rw [hposts, List.append_nil, Plugin.pendingAt, hmes]
    rfl
  have hother : ∀ {k' : Place} {qs : List Queued}, t.messages = s.messages ++ qs →
      (∀ q ∈ qs, q.msg.place = k') → k' ≠ k → a.about H k = false →
      t.pendingAt k = s.pendingAt k ++ r.posts H k a := by
    intro k' qs hqs hplace hne habout
    have hfilter : qs.filter (·.msg.place = k) = [] := by
      refine List.filter_eq_nil_iff.2 fun q hq => ?_
      rw [hplace q hq]
      simpa using hne
    rw [pendingAt_append hqs, hfilter, Ref.posts, habout]
    rfl
  have hown : ∀ {qs : List Queued}, t.messages = s.messages ++ qs →
      (∀ q ∈ qs, q.msg.place = k) → qs.map (fun q => (q.msg, q.origin)) = r.event H a →
      a.about H k → t.pendingAt k = s.pendingAt k ++ r.posts H k a := by
    intro qs hqs hplace hevent habout
    have hfilter : qs.filter (·.msg.place = k) = qs := by
      refine List.filter_eq_self.2 fun q hq => ?_
      simpa using hplace q hq
    rw [pendingAt_append hqs, hfilter, Ref.posts, if_pos habout, hevent]
  cases a with
  | deliver => exact absurd rfl hdeliver
  | client | server =>
    cases h
    exact hnone rfl rfl
  | hold i conns =>
    obtain ⟨r', hr, rfl⟩ := Option.map_eq_some_iff.1 h
    refine hnone rfl ?_
    cases r <;> simp [Ref.posts, Ref.event]
  | command c param =>
    cases h
    cases hc : c.isClear with
    | false =>
      rw [runCommand_setParams hc] at hnone
      rw [runCommand_setParams hc]
      refine hnone (setParams_kept s param c).2 ?_
      cases r <;> simp [Ref.posts, Ref.event]
    | true =>
      have hne := hok c param rfl hc
      have habout : Action.about H k (.command c param) = false := by simpa [Action.about] using hne
      cases c with
      | clientClear fired =>
        rcases hr : s.clientList[refParam H param]? with _ | r'
        · refine hnone ?_ (by simp [Ref.posts, habout])
          simp [runCommand, websocketClientClear, ClientRef.ref, hr]
        · obtain ⟨qs, hqs, hplace⟩ := clientFired_queues (H := H) fired hs hr
          refine hother ?_ hplace hne habout
          rw [← hqs]
          simp [runCommand, websocketClientClear, ClientRef.ref, hr]
      | serverClear fired =>
        rcases hr : s.serverList[refParam H param]? with _ | r'
        · refine hnone ?_ (by simp [Ref.posts, habout])
          simp [runCommand, websocketServerClear, ServerRef.ref, hr]
        · obtain ⟨qs, hqs, hplace⟩ := serverFired_queues (H := H) fired hs hr
          refine hother ?_ hplace hne habout
          rw [← hqs]
          simp [runCommand, websocketServerClear, ServerRef.ref, hr]
      | _ => cases hc
  | clientEvent i msg =>
    obtain ⟨r', hr, rfl⟩ := Option.map_eq_some_iff.1 h
    obtain ⟨qs, hqs, hplace, hevent⟩ := clientEvent_queues (H := H) hs hr msg
    by_cases hne : Place.client i = k
    · subst hne
      simp only [Plugin.refAt, hr, Option.map_some, Option.some.injEq] at hk
      subst hk
      exact hown hqs hplace hevent (by simp [Action.about])
    · exact hother hqs hplace hne (by simpa [Action.about] using hne)
  | serverEvent i p msg =>
    obtain ⟨r', hr, rfl⟩ := Option.map_eq_some_iff.1 h
    obtain ⟨qs, hqs, hplace, hevent⟩ := serverEvent_queues (H := H) hs hr p msg
    by_cases hne : Place.server i = k
    · subst hne
      simp only [Plugin.refAt, hr, Option.map_some, Option.some.injEq] at hk
      subst hk
      exact hown hqs hplace hevent (by simp [Action.about])
    · exact hother hqs hplace hne (by simpa [Action.about] using hne)

/-! ## Runs -/

namespace Ref

theorem trace_append (k : Place) : ∀ (r : Ref) (as bs : List Action),
    r.trace H k (as ++ bs) = r.trace H k as ++ (r.run H k as).trace H k bs
  | r, [], bs => rfl
  | r, a :: as, bs => by
    rw [List.cons_append, trace, trace, trace_append k (r.after H k a) as bs, List.append_assoc]
    rfl

theorem run_filter (k : Place) : ∀ (r : Ref) (as : List Action),
    r.run H k (as.filter (·.about H k)) = r.run H k as
  | r, [] => rfl
  | r, a :: as => by
    have ih := run_filter k (r.after H k a) as
    cases ha : a.about H k with
    | true =>
      rw [List.filter_cons_of_pos ha]
      exact ih
    | false =>
      rw [List.filter_cons_of_neg (by simp [ha])]
      rw [after, ha] at ih
      simp only [run, List.foldl_cons, after, ha] at ih ⊢
      exact ih

theorem trace_filter (k : Place) : ∀ (r : Ref) (as : List Action),
    r.trace H k (as.filter (·.about H k)) = r.trace H k as
  | r, [] => rfl
  | r, a :: as => by
    have ih := trace_filter k (r.after H k a) as
    cases ha : a.about H k with
    | true =>
      rw [List.filter_cons_of_pos ha, trace, trace, ih]
    | false =>
      rw [List.filter_cons_of_neg (by simp [ha]), trace, posts, ha]
      rw [after, ha] at ih ⊢
      exact ih

end Ref

/-- A delivery takes the first message of a place, or none. -/
theorem deliver_pendingAt (h : step H s .deliver = some t) (k : Place) :
    (∃ l, s.pendingAt k = l ++ t.pendingAt k ∧ l.length = (s.takes k .deliver).toNat)
      ∧ t.refAt k = s.refAt k := by
  simp only [step] at h
  split at h
  · cases h
  · rename_i q qs hqs
    cases h
    refine ⟨?_, rfl⟩
    unfold Plugin.pendingAt Plugin.takes
    rw [hqs]
    by_cases hq : q.msg.place = k
    · exact ⟨[(q.msg, q.origin)], by simp [hq], by simp [hq]⟩
    · exact ⟨[], by simp [hq], by simp [hq]⟩

/-- Along a run in which it is not cleared, a ref becomes what the actions about it make of it by
themselves. What is pending in its name was so before or is what they queue, in their order; from
the front as many are missing as the loop has taken. -/
theorem run_isolated {as : List Action} (hs : Reachable H s) {r : Ref} (hk : s.refAt k = some r)
    (h : Runs.Steps (step H) (Spares H k) s as t) :
    t.refAt k = some (r.run H k as)
      ∧ ∃ l, s.pendingAt k ++ r.trace H k as = l ++ t.pendingAt k
        ∧ l.length = taken H k s as := by
  induction h generalizing r with
  | nil s => exact ⟨hk, [], List.append_nil _, rfl⟩
  | @cons s u t a as hok hstep _ ih =>
    obtain ⟨href, l, hl, hlength⟩ := ih (hs.step hstep) (step_refAt hk hok hstep)
    refine ⟨href, ?_⟩
    simp only [taken, hstep, Ref.trace]
    by_cases ha : a = .deliver
    · subst ha
      obtain ⟨l₀, hl₀, hlength₀⟩ := (deliver_pendingAt hstep k).1
      have hnil : r.posts H k .deliver = [] := rfl
      refine ⟨l₀ ++ l, ?_, by rw [List.length_append, hlength₀, hlength]⟩
      rw [hnil, List.nil_append, hl₀, List.append_assoc, List.append_assoc, ← hl]
    · have hnot : s.takes k a = false := by
        cases a with
        | deliver => exact absurd rfl ha
        | _ => rfl
      refine ⟨l, ?_, by rw [hnot, hlength, Bool.toNat_false, Nat.zero_add]⟩
      rw [← List.append_assoc, ← step_pendingAt (reachable_inv hs) hk hok ha hstep, hl]

/-- Two runs with the same actions about a ref, none of them a clear, from states that agree on the
ref and on what is pending in its name, agree on the ref again, whatever the other actions are and
wherever they come. What is pending in its name is in both what is left of one list when as many are
taken from its front as the loop has taken in that run. -/
theorem run_noninterference {as bs : List Action} {s' t' : Plugin} (hs : Reachable H s)
    (hs' : Reachable H s') (hlive : (s.objAt k).isSome) (href : s.refAt k = s'.refAt k)
    (hpending : s.pendingAt k = s'.pendingAt k)
    (h : Runs.Steps (step H) (Spares H k) s as t)
    (h' : Runs.Steps (step H) (Spares H k) s' bs t')
    (habout : as.filter (·.about H k) = bs.filter (·.about H k)) :
    t.refAt k = t'.refAt k
      ∧ (∃ posts, (∃ l, posts = l ++ t.pendingAt k ∧ l.length = taken H k s as)
        ∧ ∃ l, posts = l ++ t'.pendingAt k ∧ l.length = taken H k s' bs)
      ∧ (taken H k s as = taken H k s' bs → t.pendingAt k = t'.pendingAt k) := by
  rw [← refAt_isSome] at hlive
  obtain ⟨r, hr⟩ := Option.isSome_iff_exists.1 hlive
  obtain ⟨ht, l, hl, hlength⟩ := run_isolated hs hr h
  obtain ⟨ht', l', hl', hlength'⟩ := run_isolated hs' (href ▸ hr) h'
  rw [← Ref.run_filter, habout, Ref.run_filter] at ht
  rw [hpending, ← Ref.trace_filter, habout, Ref.trace_filter] at hl
  refine ⟨ht.trans ht'.symm, ⟨_, ⟨l, hl, hlength⟩, l', hl', hlength'⟩, fun htaken => ?_⟩
  refine List.append_inj_right (hl.symm.trans hl') ?_
  rw [hlength, hlength', htaken]

/-- A client gets a ping and a pong, by itself or beside a server that is made and gets a
connection, while the loop takes the ping. -/
def pingAlone : List Action := [.clientEvent 1 { type := .ping }, .clientEvent 1 { type := .pong }]

def pingBeside : List Action :=
  [.server none, .clientEvent 1 { type := .ping }, .serverEvent (-1) 7 { type := .open }, .deliver,
    .clientEvent 1 { type := .pong }]

theorem ping_noninterference :
    ∃ ping, ((Runs.exec (step .plain) oneClient pingAlone).getD {}).pendingAt (.client 1)
      = ping :: ((Runs.exec (step .plain) oneClient pingBeside).getD {}).pendingAt (.client 1) := by
  have hspares : ∀ as : List Action, (∀ c param, .command c param ∉ as) →
      ∀ a ∈ as, ∀ s, Spares .plain (.client 1) s a := by
    rintro as has a ha s c param rfl
    exact absurd ha (has c param)
  have halone : Runs.Steps (step .plain) (Spares .plain (.client 1)) oneClient pingAlone
      ((Runs.exec (step .plain) oneClient pingAlone).getD {}) :=
    Runs.steps_of_exec (hspares _ (by simp [pingAlone])) rfl
  have hbeside : Runs.Steps (step .plain) (Spares .plain (.client 1)) oneClient pingBeside
      ((Runs.exec (step .plain) oneClient pingBeside).getD {}) :=
    Runs.steps_of_exec (hspares _ (by simp [pingBeside])) rfl
  obtain ⟨posts, ⟨l, hl, hlength⟩, l', hl', hlength'⟩ := (run_noninterference oneClient_reachable
    oneClient_reachable oneClient_live rfl rfl halone hbeside rfl).2.1
  have hnone : taken .plain (.client 1) oneClient pingAlone = 0 := rfl
  have hone : taken .plain (.client 1) oneClient pingBeside = 1 := by decide +kernel
  obtain rfl := List.eq_nil_of_length_eq_zero (hlength.trans hnone)
  obtain ⟨ping, rfl⟩ := List.length_eq_one_iff.1 (hlength'.trans hone)
  exact ⟨ping, hl.symm.trans hl'⟩

end IxWebsocket
