import IxWebsocket.Proofs.Threads

/-!
# From the event to the method

All threads together, in any interleaving. Of each connection whose events come on one thread, as
IXWebSocket has it, the event loop comes to the events in their order, and the list loses none
(`events_in_order`). A message is made for the very object whose event it is (`made_for_owner`),
and but for method and worker it is the one the handler would make alone (`refines_handlers`).
-/

namespace IxWebsocket

namespace System

variable {T : Type*} [DecidableEq T] {H : Host} {s t : State T} {a : Act T}

/-! ## The second lookup -/

omit [DecidableEq T] in
/-- At its second lookup a handler finds method and worker of the ref that is there. -/
theorem create_routing {u : Plugin} (hu : Inv u) {m : Post T} {o : ℕ}
    (ho : u.objAt m.place = some o) :
    ∃ r, u.routing m.place = some r
      ∧ (Message.create H u m.server m.client m.type (cstr m.context) m.window m.process).routing
        = { r with window := m.window, process := m.process } := by
  by_cases hserver : m.server = 0
  · rw [Post.place, if_pos hserver] at ho ⊢
    obtain ⟨r, hr, -⟩ := objAt_client_eq_some.1 ho
    refine ⟨r.routing, by simp [Plugin.routing, hr], ?_⟩
    simp [Message.create, Message.routing, ClientRef.routing, hserver, hu.no_server le_rfl, hr]
  · rw [Post.place, if_neg hserver] at ho ⊢
    obtain ⟨r, hr, -⟩ := objAt_server_eq_some.1 ho
    refine ⟨r.routing, by simp [Plugin.routing, hr], ?_⟩
    simp [Message.create, Message.routing, ServerRef.routing, hr]

theorem adding_spec {τ : T} {m : Post T} (hs : Threads s) (hphase : s.phase τ = .adding m)
    (hstep : step H s (.addMessage τ) = some t) :
    t.plugin = s.plugin ∧ t.pipe.appended = s.pipe.appended ++ [⟨s.pipe.objects, m⟩]
      ∧ t.made = Function.update s.made s.pipe.objects (some (Message.create H s.plugin m.server
        m.client m.type (cstr m.context) m.window m.process)) := by
  cases trans_of_step hstep with
  | @addMessage _ m' pipe hphase' h =>
    obtain rfl : m = m' := by simpa using hphase.symm.trans hphase'
    exact ⟨rfl, (Pipeline.addMessage_spec (hs.adding hphase) h).2.2, rfl⟩

/-- The message object has been made out of `u`, by the handler of `o.msg` at its second lookup. -/
structure MadeFrom (H : Host) (u s : State T) (o : Pipeline.Obj (Post T)) : Prop where
  reachable : Reachable H u
  adding : u.phase o.msg.thread = .adding o.msg
  objects : o.id = u.pipe.objects
  run : ∃ as, Runs.Steps (step H) (Waits H) u (.addMessage o.msg.thread :: as) s

/-- The call is the one of the event, with the method and the worker its ref had at the second
lookup. -/
def Called (H : Host) (s : State T) (o : Pipeline.Obj (Post T)) (call : Option MethodCall) : Prop :=
  ∃ u r, MadeFrom H u s o ∧ u.plugin.objAt o.msg.place = some o.msg.origin.obj
    ∧ u.plugin.routing o.msg.place = some r
    ∧ call = some (Message.call { o.msg.message H with worker := r.worker, method := r.method })

theorem MadeFrom.step {u : State T} {o : Pipeline.Obj (Post T)} (h : MadeFrom H u s o)
    (hok : Waits H s a) (hstep : step H s a = some t) : MadeFrom H u t o := by
  obtain ⟨as, hrun⟩ := h.run
  exact ⟨h.reachable, h.adding, h.objects, as ++ [a], hrun.append (.single hok hstep)⟩

/-- A step makes no message object, or it is the second lookup of a handler. -/
theorem step_appended (hs : Sound H s) (hstep : step H s a = some t) :
    (t.pipe.appended = s.pipe.appended ∧ t.made = s.made)
      ∨ ∃ τ m, a = .addMessage τ ∧ s.phase τ = .adding m
        ∧ t.pipe.appended = s.pipe.appended ++ [⟨s.pipe.objects, m⟩]
        ∧ t.made = Function.update s.made s.pipe.objects (some (Message.create H s.plugin m.server
          m.client m.type (cstr m.context) m.window m.process)) := by
  cases trans_of_step hstep with
  | registry | nothing | look => exact .inl ⟨rfl, rfl⟩
  | @lock τ m pipe hphase h =>
    obtain ⟨-, rfl⟩ := Pipeline.lock_spec h
    exact .inl ⟨rfl, rfl⟩
  | @addMessage τ m pipe hphase h =>
    exact .inr ⟨τ, m, rfl, hphase, (adding_spec hs.threads hphase hstep).2⟩
  | @unlock τ m pipe hphase h =>
    obtain rfl := Pipeline.unlock_spec h
    exact .inl ⟨rfl, rfl⟩
  | main h | loop h | query h =>
    exact .inl ⟨((Pipeline.trans_of_step h).handler hs.locks rfl).2.1, rfl⟩

/-- The message a handler makes has method and worker of its ref, which is there. -/
theorem Sound.second_lookup (hs : Sound H s) {τ : T} {m : Post T} (hphase : s.phase τ = .adding m) :
    ∃ r, s.plugin.objAt m.place = some m.origin.obj ∧ s.plugin.routing m.place = some r
      ∧ Message.create H s.plugin m.server m.client m.type (cstr m.context) m.window m.process
        = { m.message H with worker := r.worker, method := r.method } := by
  have ho := hs.owned τ m (by rw [hphase]; rfl)
  obtain ⟨r, hr, hrouting⟩ := create_routing (H := H) hs.inv ho
  obtain ⟨worker, method, hmade⟩ := message_made (H := H) s.plugin m
  refine ⟨r, ho, hr, ?_⟩
  rw [hmade] at hrouting ⊢
  simp only [Message.routing, Routing.mk.injEq] at hrouting
  rw [hrouting.1, hrouting.2.1]

theorem Reachable.called (h : Reachable H s) {o : Pipeline.Obj (Post T)}
    (ho : o ∈ s.pipe.appended) : Called H s o ((s.made o.id).map Message.call) := by
  obtain ⟨as, hrun⟩ := h
  -- by induction on the run, of all objects appended so far
  refine hrun.trace_invariant (I := fun _ s => ∀ o ∈ s.pipe.appended,
    Called H s o ((s.made o.id).map Message.call)) nofun ?_ o ho
  intro as s a t hs hok hstep ih o ho
  have hsound := Reachable.sound ⟨as, hs⟩
  have hold : ∀ o ∈ s.pipe.appended, Called H t o ((s.made o.id).map Message.call) := by
    intro o ho
    obtain ⟨u, r, hmade, hrest⟩ := ih o ho
    exact ⟨u, r, hmade.step hok hstep, hrest⟩
  rcases step_appended hsound hstep with ⟨happ, hmade⟩ | ⟨τ, m, rfl, hphase, happ, hmade⟩
  · rw [hmade]
    exact hold o (happ ▸ ho)
  · rw [happ] at ho
    rcases List.mem_append.1 ho with ho | ho
    · rw [hmade, Function.update_of_ne (hsound.made.fresh o ho).ne]
      exact hold o ho
    · rw [List.mem_singleton.1 ho, hmade, Function.update_self]
      obtain rfl : m.thread = τ := hsound.threads.thread (by rw [hphase]; rfl)
      obtain ⟨r, hobj, hr, hcreate⟩ := hsound.second_lookup hphase
      refine ⟨s, r, ⟨⟨as, hs⟩, hphase, rfl, [], .single hok hstep⟩, hobj, hr, ?_⟩
      rw [hcreate]
      rfl

/-! ## The order of a connection's events -/

def ofOrigin (g : Origin) (ms : List (Post T)) : List (Post T) := ms.filter (·.origin = g)

/-- The events of a connection, or of a client, that its handlers have begun with: all but the
`open` of a client, for which no message is made. -/
def State.events (s : State T) (g : Origin) : List (Post T) := ofOrigin g s.begun

/-- Those of them whose method the loop has asked the host for. -/
def State.asked (s : State T) (g : Origin) : List (Post T) :=
  ofOrigin g (s.pipe.handled.map (·.1.msg))

/-- The message objects of those the loop has handed to their method. -/
def State.handed (s : State T) (g : Origin) : List (Pipeline.Obj (Post T)) :=
  s.pipe.delivered.filter (·.msg.origin = g)

/-- The events the loop has handed to their method. -/
def State.reached (s : State T) (g : Origin) : List (Post T) := (s.handed g).map (·.msg)

/-- The calls of methods made for these. -/
def State.calls (s : State T) (g : Origin) : List (Option MethodCall) :=
  (s.handed g).map fun o => (s.made o.id).map Message.call

/-- Those of them in the vector. -/
def State.pending (s : State T) (g : Origin) : List (Post T) :=
  ofOrigin g (s.pipe.messages.map (·.msg))

omit [DecidableEq T] in
@[simp] theorem ofOrigin_append (g : Origin) (ms ms' : List (Post T)) :
    ofOrigin g (ms ++ ms') = ofOrigin g ms ++ ofOrigin g ms' := List.filter_append ..

theorem InOrder.mem_begun (hs : InOrder s) {m : Post T}
    (hm : m ∈ s.pipe.appended.map (·.msg)) : m ∈ s.begun := by
  have hof : m ∈ (s.pipe.appended.map (·.msg)).filter (·.thread = m.thread) :=
    List.mem_filter.2 ⟨hm, by simp⟩
  have : m ∈ s.begun.filter (·.thread = m.thread) := by
    rw [hs m.thread]
    exact List.mem_append_left _ hof
  exact (List.mem_filter.1 this).1

/-- Of a connection on one thread, what its handlers have begun with is what they have appended,
and the one they are at. -/
theorem InOrder.events_eq (hs : InOrder s) {g : Origin} {τ : T}
    (hone : ∀ m ∈ s.begun, m.origin = g → m.thread = τ) :
    s.events g = ofOrigin g (s.pipe.appended.map (·.msg))
      ++ ofOrigin g (s.phase τ).waiting.toList := by
  have hfilter : ∀ ms : List (Post T), (∀ m ∈ ms, m ∈ s.begun) →
      ofOrigin g (ms.filter (·.thread = τ)) = ofOrigin g ms := by
    intro ms hms
    unfold ofOrigin
    rw [List.filter_filter]
    refine List.filter_congr fun m hm => ?_
    by_cases hg : m.origin = g
    · simp [hg, hone m (hms m hm) hg]
    · simp [hg]
  have hbegun := hfilter s.begun fun _ => id
  rw [hs τ, ofOrigin_append, hfilter _ fun _ => hs.mem_begun] at hbegun
  exact hbegun.symm

omit [DecidableEq T] in
theorem State.reached_eq (s : State T) (g : Origin) :
    s.reached g = ofOrigin g (s.pipe.delivered.map (·.msg)) := by
  unfold State.reached State.handed ofOrigin
  rw [List.filter_map]
  rfl

theorem Reachable.calls (h : Reachable H s) (hsub : s.pipe.delivered.Sublist s.pipe.appended)
    (g : Origin) : List.Forall₂ (Called H s) (s.handed g) (s.calls g) := by
  unfold State.calls
  rw [List.forall₂_map_right_iff]
  refine List.forall₂_same.2 fun o ho => ?_
  exact h.called (hsub.subset (List.mem_filter.1 ho).1)

/-- Up to the exit the loop comes to the events of a connection in their order, and skips none:
what it has asked for is their first part. What it hands to the method is a part of that, in order,
each with the parameters of its event, and method and worker its ref had at the second lookup, and
no message object is handed over twice. While no pass has been aborted, the others are in the list,
but for the one whose handler has not got there. -/
theorem events_in_order (h : Reachable H s) (hs : s.pipe.main.stopped = false) {g : Origin} {τ : T}
    (hone : ∀ m ∈ s.begun, m.origin = g → m.thread = τ) :
    (s.asked g <+: s.events g ∧ (s.reached g).Sublist (s.asked g)
        ∧ List.Forall₂ (Called H s) (s.handed g) (s.calls g)
        ∧ (s.pipe.delivered.map (·.id)).Nodup)
      ∧ (s.pipe.mutex = none → s.pipe.aborted = false →
        s.events g = s.asked g ++ s.pending g ++ ofOrigin g (s.phase τ).waiting.toList
          ∧ s.reached g = ofOrigin g ((s.pipe.handled.filter (·.2 ≠ 0)).map (·.1.msg))) := by
  have hup := (pipe_reachable h).upToExit hs
  obtain ⟨hhandled, hdelivered, -, -⟩ := hup.accounted
  have hevents := h.sound.inOrder.events_eq hone
  have happended : s.pipe.appended.map (·.msg) = s.pipe.handled.map (·.1.msg)
      ++ (s.pipe.loop.rest s.pipe.aborted s.pipe.messages).map (·.msg) := by
    rw [hhandled, List.map_append, List.map_map]
    rfl
  have hsub : s.pipe.delivered.Sublist (s.pipe.handled.map (·.1)) := by
    have hfilter := (List.filter_sublist (p := fun x : Pipeline.Obj (Post T) × ℤ =>
      decide (x.2 ≠ 0)) (l := s.pipe.handled)).map (·.1)
    rw [← hdelivered] at hfilter
    exact (List.sublist_append_left _ _).trans hfilter
  have hall : s.pipe.delivered.Sublist s.pipe.appended := by
    rw [hhandled]
    exact hsub.trans (List.sublist_append_left _ _)
  refine ⟨⟨?_, ?_, h.calls hall g, hup.accounts.nodup.sublist (hall.map _)⟩,
    fun hfree hab => ?_⟩
  · rw [hevents, happended, ofOrigin_append, List.append_assoc]
    exact List.prefix_append _ _
  · have := (hsub.map (·.msg)).filter (·.origin = g)
    rw [s.reached_eq]
    rwa [List.map_map] at this
  · have hout : s.pipe.loop.inPass = false := by
      by_contra hin
      have := hup.locks.loop.1 (by simpa using hin)
      rw [hfree] at this
      cases this
    -- the loop is outside, so it has nothing in its hands
    have hrest : s.pipe.loop.rest s.pipe.aborted s.pipe.messages = s.pipe.messages
        ∧ s.pipe.loop.pending = [] := by
      rw [hab]
      cases hpc : s.pipe.loop <;> rw [hpc] at hout <;>
        simp_all [Pipeline.LoopPc.inPass, Pipeline.LoopPc.rest, Pipeline.LoopPc.pending]
    constructor
    · rw [hevents, happended, hrest.1, ofOrigin_append]
      rfl
    · rw [hrest.2, List.append_nil] at hdelivered
      rw [s.reached_eq, hdelivered, List.map_map]
      rfl

/-! ## The message of a handler -/

theorem names_place (message : Message) : message.place.Names message := by
  unfold Message.place
  split_ifs with h
  · exact ⟨h, rfl⟩
  · rfl

/-- Whatever comes between the two lookups of a handler, its message is made for the object whose
event it is: that object is at the place the message names, the message has its method and worker
as they are now and window and process as they were found at first, and of all live refs it is
listed by the query of this one only. -/
theorem made_for_owner (h : Reachable H s) {τ : T} {m : Post T} (hphase : s.phase τ = .adding m)
    (hstep : step H s (.addMessage τ) = some t) :
    ∃ id message, t.pipe.appended = s.pipe.appended ++ [⟨id, m⟩] ∧ t.made id = some message
      ∧ t.plugin.objAt message.place = some m.origin.obj
      ∧ (∃ r, t.plugin.routing message.place = some r
        ∧ message.routing = { r with window := m.window, process := m.process })
      ∧ ∀ k, (t.plugin.objAt k).isSome →
        (t.plugin.accepts message k = true ↔ k = message.place) := by
  have hs := h.sound
  obtain ⟨hplugin, happ, hmade⟩ := adding_spec hs.threads hphase hstep
  obtain ⟨r, ho, hr, hcreate⟩ := hs.second_lookup hphase
  rw [hcreate] at hmade
  refine ⟨_, _, happ, by rw [hmade, Function.update_self], ?_⟩
  rw [hplugin]
  refine ⟨ho, ⟨r, hr, rfl⟩, fun k hk => ?_⟩
  have hnames := names_place { m.message H with worker := r.worker, method := r.method }
  exact accepts_iff hs.inv (Option.isSome_iff_exists.2 ⟨_, ho⟩) hk hnames

/-- A client gets a ping and a message on thread `true`, and the loop delivers the ping. Between
the two lookups of the ping the host gives the client a worker, and between those of the message a
method; and a server has a connection opened on the other thread. -/
def twoThreads : List (Act Bool) :=
  [.registry (.client none), .registry (.server none), .main, .main,
    .look true (.client 1 { type := .ping }),
    .registry (.command (.clientStart true)
      (some [("ref", .real (1 : ℤ)), ("worker", .unistring [66])])),
    .lock true, .addMessage true, .unlock true,
    .loop 0 false, .loop 0 false, .loop 0 false, .loop 0 false, .loop 0 false, .loop 1 false,
    .loop 0 false, .loop 0 false, .loop 0 false, .loop 0 false, .loop 0 false,
    .look true (.client 1 { type := .message }), .look false (.server (-1) 7 { type := .open }),
    .lock false, .addMessage false, .unlock false,
    .registry (.command (.clientStart true)
      (some [("ref", .real (1 : ℤ)), ("method", .unistring [65])]))]

def afterTwoThreads (as : List (Act Bool)) : State Bool :=
  (Runs.exec (step .plain) {} (twoThreads ++ as)).getD {}

theorem twoThreads_reachable : Reachable .plain (afterTwoThreads []) :=
  ⟨twoThreads, Runs.steps_of_exec (by simp [twoThreads, Waits]) rfl⟩

theorem twoThreads_locked_reachable : Reachable .plain (afterTwoThreads [.lock true]) :=
  ⟨twoThreads ++ [.lock true], Runs.steps_of_exec (by simp [twoThreads, Waits]) rfl⟩

theorem twoThreads_in_order :
    ((afterTwoThreads []).events ⟨0, none⟩).length = 2
      ∧ (afterTwoThreads []).asked ⟨0, none⟩ <+: (afterTwoThreads []).events ⟨0, none⟩
      ∧ ((afterTwoThreads []).reached ⟨0, none⟩).length = 1
      ∧ List.Forall₂ (Called .plain (afterTwoThreads [])) ((afterTwoThreads []).handed ⟨0, none⟩)
        ((afterTwoThreads []).calls ⟨0, none⟩)
      ∧ ((afterTwoThreads []).calls ⟨0, none⟩).map (·.map (·.worker)) = [some [66]] := by
  have hone : ∀ m ∈ (afterTwoThreads []).begun, m.origin = ⟨0, none⟩ → m.thread = true := by
    decide +kernel
  have h := (events_in_order twoThreads_reachable rfl hone).1
  exact ⟨rfl, h.1, rfl, h.2.2.1, rfl⟩

theorem twoThreads_made :
    ∃ id message, (afterTwoThreads [.lock true, .addMessage true]).made id = some message
      ∧ (afterTwoThreads [.lock true, .addMessage true]).plugin.objAt message.place = some 0 := by
  have hphase : (afterTwoThreads [.lock true]).phase true = .adding _ := rfl
  obtain ⟨id, message, -, hmade, hobj, -⟩ := made_for_owner twoThreads_locked_reachable hphase
    (t := afterTwoThreads [.lock true, .addMessage true]) rfl
  exact ⟨id, message, hmade, hobj⟩

end System

end IxWebsocket
