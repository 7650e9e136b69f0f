import IxWebsocket.Proofs.Routing

/-!
# What is queued while the plugin goes down

`OnExit` deletes the message list first and the refs after it. Each ref stops its connection when
it goes, and the callbacks `stop()` fires still find their ref, so every one of them is queued in
the list that has gone, but for the open event of a client, which never is (`onExit_clean_iff`).
-/

namespace IxWebsocket

variable {H : Host} {s t : Plugin}

/-! ## Callbacks without a list -/

abbrev Callback : Type := Place × Conn × WebSocketMessage

def runCallbacks (H : Host) (s : Plugin) (cs : List Callback) : Plugin :=
  cs.foldl (fun s c => runCallback H s c.1 c.2.1 c.2.2) s

/-- Nothing came too late, and nothing is left behind. -/
def Plugin.Clean (s : Plugin) : Prop := s.late = [] ∧ s.messages = []

theorem runCallback_moves (hs : Inv s) {k : Place} {o : ℕ} (hk : s.objAt k = some o) (p : Conn)
    (msg : WebSocketMessage) : Moves s (runCallback H s k p msg) := by
  rcases k with i | i
  · obtain ⟨r, hr, -⟩ := objAt_client_eq_some.1 hk
    exact clientCallback_moves hs (hs.client hr).1 msg
  · exact serverCallback_moves hs i p msg

theorem runCallback_objAt (hs : Inv s) {k : Place} {o : ℕ} (hk : s.objAt k = some o) (p : Conn)
    (msg : WebSocketMessage) : (runCallback H s k p msg).objAt = s.objAt := by
  rcases k with i | i
  · obtain ⟨r, hr, -⟩ := objAt_client_eq_some.1 hk
    by_cases hopen : msg.type = .open
    · rw [runCallback, clientCallback_open hs (hs.client hr).1 hopen]
    · have he := clientCallback_eq (H := H) (s := s) (i := i) hopen
      obtain ⟨q, hq, -⟩ := clientHandler_spec (H := H) hs hr msg.type msg.info
      rw [runCallback, he, hq]
      rfl
  · obtain ⟨r, hr, -⟩ := objAt_server_eq_some.1 hk
    have he := serverCallback_eq (H := H) s i p msg
    obtain ⟨q, hq, -⟩ :=
      serverHandler_spec (H := H) hr (lookOf_routing msg.type r p) msg.type msg.info
    rw [runCallback, he, hq]
    exact objAt_setServer hr (lookOf_move msg.type r p).obj.1

/-- One callback of a ref that is still there, after the list has gone. -/
theorem runCallback_clean (hs : Inv s) (hdel : s.listDeleted = true) {k : Place} {o : ℕ}
    (hk : s.objAt k = some o) (p : Conn) (msg : WebSocketMessage) :
    (runCallback H s k p msg).listDeleted = true
      ∧ ((runCallback H s k p msg).Clean ↔ s.Clean ∧ k.isClient ∧ msg.type = .open) := by
  by_cases hopen : k.isClient ∧ msg.type = .open
  · rw [runCallback_clientOpen hs hk p hopen]
    exact ⟨hdel, fun h => ⟨h, hopen⟩, fun h => h.1⟩
  · obtain ⟨q, list, hq, -⟩ := runCallback_spec (H := H) hs hk p hopen
    rw [hq]
    refine ⟨hdel, fun h => ?_, fun h => absurd h.2 hopen⟩
    have hmessages := h.2
    simp [Plugin.push] at hmessages

theorem runCallbacks_clean (cs : List Callback) (hs : Inv s) (hdel : s.listDeleted = true)
    (hlive : ∀ c ∈ cs, (s.objAt c.1).isSome) :
    Inv (runCallbacks H s cs) ∧ (runCallbacks H s cs).listDeleted = true
      ∧ (runCallbacks H s cs).objAt = s.objAt
      ∧ ((runCallbacks H s cs).Clean ↔
        s.Clean ∧ ∀ c ∈ cs, c.1.isClient ∧ c.2.2.type = .open) := by
  induction cs generalizing s with
  | nil => exact ⟨hs, hdel, rfl, by simp [runCallbacks]⟩
  | cons c cs ih =>
    obtain ⟨o, ho⟩ := Option.isSome_iff_exists.1 (hlive c List.mem_cons_self)
    have hobjAt := runCallback_objAt (H := H) hs ho c.2.1 c.2.2
    obtain ⟨hdel', hclean⟩ := runCallback_clean (H := H) hs hdel ho c.2.1 c.2.2
    obtain ⟨hI, hd, hobj, hiff⟩ := ih ((runCallback_moves hs ho c.2.1 c.2.2).inv hs) hdel'
      fun c' hc' => by rw [hobjAt]; exact hlive c' (List.mem_cons_of_mem _ hc')
    refine ⟨hI, hd, hobj.trans hobjAt, hiff.trans ?_⟩
    rw [hclean, List.forall_mem_cons, and_assoc]

/-! ## The two lists -/

def clientCallbacks (s : Plugin) (fired : ℤ → List WebSocketMessage) : List Callback :=
  s.clientList.toList.flatMap fun e => (fired e.1).map fun msg => (.client e.1, 0, msg)

def serverCallbacks (s : Plugin) (fired : ℤ → List (Conn × WebSocketMessage)) : List Callback :=
  s.serverList.toList.flatMap fun e => (fired e.1).map fun f => (.server e.1, f)

theorem clientClearAll_eq (s : Plugin) (fired : ℤ → List WebSocketMessage) :
    ClientRef.clearAll H s fired
      = { runCallbacks H s (clientCallbacks s fired) with clientList := ∅ } := by
  simp only [ClientRef.clearAll, runCallbacks, clientCallbacks, List.foldl_flatMap, List.foldl_map,
    runCallback]

theorem serverClearAll_eq (s : Plugin) (fired : ℤ → List (Conn × WebSocketMessage)) :
    ServerRef.clearAll H s fired
      = { runCallbacks H s (serverCallbacks s fired) with serverList := ∅ } := by
  simp only [ServerRef.clearAll, runCallbacks, serverCallbacks, List.foldl_flatMap, List.foldl_map,
    runCallback]

theorem mem_clientCallbacks {fired : ℤ → List WebSocketMessage} {c : Callback} :
    c ∈ clientCallbacks s fired ↔
      ∃ i, (s.objAt (.client i)).isSome ∧ ∃ msg ∈ fired i, c = (.client i, 0, msg) := by
  simp only [clientCallbacks, List.mem_flatMap, List.mem_map, Prod.exists,
    Std.TreeMap.mem_toList_iff_getElem?_eq_some, Plugin.objAt, Option.isSome_map,
    Option.isSome_iff_exists]
  constructor
  · rintro ⟨i, r, hr, msg, hmsg, rfl⟩
    exact ⟨i, ⟨r, hr⟩, msg, hmsg, rfl⟩
  · rintro ⟨i, ⟨r, hr⟩, msg, hmsg, rfl⟩
    exact ⟨i, r, hr, msg, hmsg, rfl⟩

theorem mem_serverCallbacks {fired : ℤ → List (Conn × WebSocketMessage)} {c : Callback} :
    c ∈ serverCallbacks s fired ↔
      ∃ i, (s.objAt (.server i)).isSome ∧ ∃ f ∈ fired i, c = (.server i, f) := by
  simp only [serverCallbacks, List.mem_flatMap, List.mem_map, Prod.exists,
    Std.TreeMap.mem_toList_iff_getElem?_eq_some, Plugin.objAt, Option.isSome_map,
    Option.isSome_iff_exists]
  constructor
  · rintro ⟨i, r, hr, p, msg, hmsg, rfl⟩
    exact ⟨i, ⟨r, hr⟩, p, msg, hmsg, rfl⟩
  · rintro ⟨i, ⟨r, hr⟩, p, msg, hmsg, rfl⟩
    exact ⟨i, r, hr, p, msg, hmsg, rfl⟩

/-! ## The exit -/

/-- The `stop()` of every live ref fires nothing that is queued. -/
structure Silent (s : Plugin) (clientFired : ℤ → List WebSocketMessage)
    (serverFired : ℤ → List (Conn × WebSocketMessage)) : Prop where
  client : ∀ i, (s.objAt (.client i)).isSome → ∀ msg ∈ clientFired i, msg.type = .open
  server : ∀ i, (s.objAt (.server i)).isSome → serverFired i = []

/-- The `stop()` of a ref fires the close of each of its connections that is open. -/
structure StopFires (opened : Place → Conn → Prop) (clientFired : ℤ → List WebSocketMessage)
    (serverFired : ℤ → List (Conn × WebSocketMessage)) : Prop where
  client : ∀ i p, opened (.client i) p → ∃ msg ∈ clientFired i, msg.type = .close
  server : ∀ i p, opened (.server i) p → ∃ msg, (p, msg) ∈ serverFired i ∧ msg.type = .close

theorem Silent.closed {opened : Place → Conn → Prop} {clientFired : ℤ → List WebSocketMessage}
    {serverFired : ℤ → List (Conn × WebSocketMessage)} (h : Silent s clientFired serverFired)
    (hstop : StopFires opened clientFired serverFired) {k : Place} (hk : (s.objAt k).isSome)
    (p : Conn) : ¬ opened k p := by
  intro hp
  rcases k with i | i
  · obtain ⟨msg, hmsg, hclose⟩ := hstop.client i p hp
    have hopen := h.client i hk msg hmsg
    rw [hclose] at hopen
    cases hopen
  · obtain ⟨msg, hmsg, -⟩ := hstop.server i p hp
    rw [h.server i hk] at hmsg
    simp at hmsg

theorem silent_iff {clientFired : ℤ → List WebSocketMessage}
    {serverFired : ℤ → List (Conn × WebSocketMessage)} :
    Silent s clientFired serverFired ↔
      (∀ c ∈ clientCallbacks s clientFired, c.1.isClient ∧ c.2.2.type = .open)
        ∧ ∀ c ∈ serverCallbacks s serverFired, c.1.isClient ∧ c.2.2.type = .open := by
  constructor
  · intro h
    refine ⟨fun c hc => ?_, fun c hc => ?_⟩
    · obtain ⟨i, hi, msg, hmsg, rfl⟩ := mem_clientCallbacks.1 hc
      exact ⟨rfl, h.client i hi msg hmsg⟩
    · obtain ⟨i, hi, f, hf, -⟩ := mem_serverCallbacks.1 hc
      rw [h.server i hi] at hf
      simp at hf
  · rintro ⟨hclient, hserver⟩
    refine ⟨fun i hi msg hmsg => ?_, fun i hi => List.eq_nil_iff_forall_not_mem.2 fun f hf => ?_⟩
    · exact (hclient _ (mem_clientCallbacks.2 ⟨i, hi, msg, hmsg, rfl⟩)).2
    · have h := (hserver _ (mem_serverCallbacks.2 ⟨i, hi, f, hf, rfl⟩)).1
      simp [Place.isClient] at h

/-- Nothing is queued after the list has gone exactly when stopping the refs fires nothing that
is queued. That asks for no open connection at any live ref. -/
theorem onExit_clean_iff (hs : Reachable H s) {opened : Place → Conn → Prop}
    {clientFired : ℤ → List WebSocketMessage} {serverFired : ℤ → List (Conn × WebSocketMessage)}
    (hstop : StopFires opened clientFired serverFired) :
    ((onExit H s clientFired serverFired).Clean ↔ Silent s clientFired serverFired)
      ∧ (Silent s clientFired serverFired → ∀ k, (s.objAt k).isSome → ∀ p, ¬ opened k p) := by
  refine ⟨?_, fun h k hk p => h.closed hstop hk p⟩
  have hI := reachable_inv hs
  have hI₀ : Inv { s with messages := [], listDeleted := true } := ⟨hI.client, hI.server⟩
  have hclean₀ : Plugin.Clean { s with messages := [], listDeleted := true } :=
    ⟨(reachable_alive hs).2, rfl⟩
  -- the clients go first
  obtain ⟨hI₁, hdel₁, hobj₁, hiff₁⟩ := runCallbacks_clean (H := H)
    (clientCallbacks { s with messages := [], listDeleted := true } clientFired) hI₀ rfl
    fun c hc => by
      obtain ⟨i, hi, msg, -, rfl⟩ := mem_clientCallbacks.1 hc
      exact hi
  generalize hs₁ : runCallbacks H { s with messages := [], listDeleted := true }
    (clientCallbacks { s with messages := [], listDeleted := true } clientFired) = s₁ at *
  have hI₁' : Inv { s₁ with clientList := ∅ } := ⟨fun h => by simp at h, hI₁.server⟩
  -- then the servers
  obtain ⟨-, -, -, hiff₂⟩ := runCallbacks_clean (H := H)
    (serverCallbacks { s₁ with clientList := ∅ } serverFired) hI₁' hdel₁
    fun c hc => by
      obtain ⟨i, hi, f, -, rfl⟩ := mem_serverCallbacks.1 hc
      exact hi
  have hserver : ∀ i, Plugin.objAt { s₁ with clientList := ∅ } (.server i) = s.objAt (.server i) :=
    fun i => congrFun hobj₁ (.server i)
  rw [silent_iff, onExit, clientClearAll_eq, hs₁, serverClearAll_eq]
  have hmem : (∀ c ∈ serverCallbacks { s₁ with clientList := ∅ } serverFired,
      c.1.isClient ∧ c.2.2.type = .open) ↔
      ∀ c ∈ serverCallbacks s serverFired, c.1.isClient ∧ c.2.2.type = .open := by
    simp only [mem_serverCallbacks, hserver]
  exact hiff₂.trans (and_congr (hiff₁.trans (and_iff_right hclean₀)) hmem)

/-- Stopping a client whose connection has just been opened, and a server nobody has connected
to. -/
theorem opening_silent_exit :
    (onExit .plain clientAndServer (fun _ => [{ type := .open }]) fun _ => []).Clean := by
  have hstop : StopFires (fun _ _ => False) (fun _ => [{ type := .open }]) fun _ => [] :=
    ⟨fun _ _ h => h.elim, fun _ _ h => h.elim⟩
  refine (onExit_clean_iff clientAndServer_reachable hstop).1.2 ⟨fun i _ msg hmsg => ?_, ?_⟩
  · rw [List.mem_singleton.1 hmsg]
  · exact fun _ _ => rfl

/-- The close of an open client comes too late, and its message stays in the vector. -/
theorem oneClient_late_close :
    Reachable .plain oneClient ∧ (oneClient.objAt (.client 1)).isSome
      ∧ StopFires (fun k _ => k = .client 1) (fun _ => [{ type := .close }]) (fun _ => [])
      ∧ (onExit .plain oneClient (fun _ => [{ type := .close }]) fun _ => []).late.length = 1
      ∧ (onExit .plain oneClient (fun _ => [{ type := .close }]) fun _ => []).messages.length
        = 1 := by
  refine ⟨oneClient_reachable, oneClient_live, ⟨fun i p _ => ?_, fun i p h => ?_⟩, ?_, ?_⟩
  · exact ⟨_, List.mem_cons_self, rfl⟩
  · cases h
  · decide +kernel
  · decide +kernel

end IxWebsocket
