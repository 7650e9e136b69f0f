import IxWebsocket.System
import IxWebsocket.Proofs.Drain
import IxWebsocket.Proofs.Routing

/-!
# The plugin between its threads, and handler by handler

A step between two others leaves the message list as the list's own statements leave it
(`pipe_reachable`), and the registries as whole handlers and commands leave them
(`simulates_plugin`). So what holds of the list between its threads, and of the registries
handler by handler, holds of the two together.
-/

namespace IxWebsocket

namespace System

variable {T : Type*} [DecidableEq T] {H : Host} {s t : State T} {a : Act T}

/-! ## What a step does -/

inductive Trans (H : Host) (s : State T) : Act T → State T → Prop
  | registry {a : Action} {plugin : Plugin} (hq : quiet a)
      (h : IxWebsocket.step H s.plugin a = some plugin) :
      Trans H s (.registry a) { s with plugin }
  | nothing {τ : T} {e : Event} (hout : s.phase τ = .outside) (hlive : e.live s.plugin)
      (h : look H s.plugin τ e = none) : Trans H s (.look τ e) s
  | look {τ : T} {e : Event} {plugin : Plugin} {m : Post T} (hout : s.phase τ = .outside)
      (hlive : e.live s.plugin) (h : look H s.plugin τ e = some (plugin, m)) :
      Trans H s (.look τ e) { s with
        plugin, phase := Function.update s.phase τ (.looked m), begun := s.begun ++ [m] }
  | lock {τ : T} {m : Post T} {pipe : Pipeline.State (Post T)} (hphase : s.phase τ = .looked m)
      (h : Pipeline.step s.pipe (.lock m) = some pipe) :
      Trans H s (.lock τ) { s with pipe, phase := Function.update s.phase τ (.adding m) }
  | addMessage {τ : T} {m : Post T} {pipe : Pipeline.State (Post T)}
      (hphase : s.phase τ = .adding m) (h : Pipeline.step s.pipe .addMessage = some pipe) :
      Trans H s (.addMessage τ) { s with
        pipe
        made := Function.update s.made s.pipe.objects (some (Message.create H s.plugin m.server
          m.client m.type (cstr m.context) m.window m.process))
        phase := Function.update s.phase τ (.added m) }
  | unlock {τ : T} {m : Post T} {pipe : Pipeline.State (Post T)} (hphase : s.phase τ = .added m)
      (h : Pipeline.step s.pipe .unlock = some pipe) :
      Trans H s (.unlock τ) { s with pipe, phase := Function.update s.phase τ .outside }
  | main {pipe : Pipeline.State (Post T)} (h : Pipeline.step s.pipe .main = some pipe) :
      Trans H s .main { s with pipe }
  | loop {methodId : ℤ} {dying : Bool} {pipe : Pipeline.State (Post T)}
      (h : Pipeline.step s.pipe (.loop methodId dying) = some pipe) :
      Trans H s (.loop methodId dying) { s with pipe }
  | query {n : ℕ} {select : Post T → Bool} {pipe : Pipeline.State (Post T)}
      (h : Pipeline.step s.pipe (.query n select) = some pipe) :
      Trans H s (.query n select) { s with pipe }

theorem trans_of_step (h : step H s a = some t) : Trans H s a t := by
  cases a with
  | registry a =>
    simp only [step] at h
    split_ifs at h with hq
    obtain ⟨plugin, hp, rfl⟩ := Option.map_eq_some_iff.1 h
    exact .registry hq hp
  | look τ e =>
    simp only [step] at h
    split at h
    · rename_i hout
      split_ifs at h with hlive
      split at h <;> rename_i hlook <;> cases h
      · exact .nothing hout hlive hlook
      · exact .look hout hlive hlook
    · cases h
  | lock τ =>
    simp only [step] at h
    split at h
    · rename_i m hphase
      obtain ⟨pipe, hp, rfl⟩ := Option.map_eq_some_iff.1 h
      exact .lock hphase hp
    · cases h
  | addMessage τ =>
    simp only [step] at h
    split at h
    · rename_i m hphase
      obtain ⟨pipe, hp, rfl⟩ := Option.map_eq_some_iff.1 h
      exact .addMessage hphase hp
    · cases h
  | unlock τ =>
    simp only [step] at h
    split at h
    · rename_i m hphase
      obtain ⟨pipe, hp, rfl⟩ := Option.map_eq_some_iff.1 h
      exact .unlock hphase hp
    · cases h
  | main =>
    obtain ⟨pipe, hp, rfl⟩ := Option.map_eq_some_iff.1 h
    exact .main hp
  | loop methodId dying =>
    obtain ⟨pipe, hp, rfl⟩ := Option.map_eq_some_iff.1 h
    exact .loop hp
  | query n select =>
    obtain ⟨pipe, hp, rfl⟩ := Option.map_eq_some_iff.1 h
    exact .query hp

/-! ## The message list -/

/-- Each step is one of the message list, or none of its. -/
theorem simulates_pipe :
    Runs.Simulates (step H) (Waits H (T := T)) Pipeline.step fun s u => s.pipe = u := by
  rintro s a t _ - hstep rfl
  cases trans_of_step hstep with
  | registry | nothing | look => exact ⟨[], _, .nil _, rfl⟩
  | lock _ h | addMessage _ h | unlock _ h | main h | loop h | query h =>
    exact ⟨[_], _, .single trivial h, rfl⟩

theorem pipe_reachable (h : Reachable H s) : Pipeline.Reachable s.pipe := by
  obtain ⟨as, h⟩ := h
  obtain ⟨bs, u, hrun, rfl⟩ := simulates_pipe.run h rfl
  exact ⟨bs, hrun⟩

/-! ## Handler by handler -/

/-- The message a handler makes when nothing comes between its two lookups. -/
def Post.message (H : Host) (m : Post T) : Message where
  server := m.server
  client := m.client
  window := m.window
  process := m.process
  context := convert H (cstr m.context)
  type := convert H m.type
  worker := m.worker
  method := m.method

/-- The step of the plugin that is the whole handler. -/
def Event.action : Event → Action
  | .client i msg => .clientEvent i msg
  | .server i p msg => .serverEvent i p msg

omit [DecidableEq T] in
theorem clientCallback_push {u : Plugin} (hu : Inv u) {i : ℤ} {τ : T} {msg : WebSocketMessage}
    {r : ClientRef} (hr : u.clientList[i]? = some r) {m : Post T}
    (h : lookClient H u τ i msg = some m) :
    clientCallback H u i msg = u.push ⟨m.message H, m.origin, u.serials⟩ := by
  by_cases hopen : msg.type = .open
  · have hnone := hu.no_server (i := i) (by linarith [(hu.client hr).1])
    simp [lookClient, hopen, hnone] at h
  · have hlook : lookClient H u τ i msg
        = some (clientPost H τ i msg r.obj r.worker r.method r.window r.process) := by
      unfold lookClient
      split
      · rename_i ht
        exact absurd ht hopen
      · rw [hr]
        rfl
    obtain rfl := Option.some.inj (hlook.symm.trans h)
    rw [clientCallback_eq hopen]
    simp only [clientHandler, hr, addMessage, Message.create, hu.no_server le_rfl]
    rfl

omit [DecidableEq T] in
theorem serverCallback_push {u plugin : Plugin} {i : ℤ} {p : Conn} {τ : T}
    {msg : WebSocketMessage} {m : Post T} (h : lookServer H u τ i p msg = some (plugin, m)) :
    serverCallback H u i p msg = plugin.push ⟨m.message H, m.origin, u.serials⟩ := by
  obtain ⟨r, hr, hm⟩ := Option.map_eq_some_iff.1 h
  obtain ⟨rfl, rfl⟩ := Prod.mk.inj hm
  rw [IxWebsocket.serverCallback_eq]
  simp only [serverHandler, hr, addMessage, Message.create, Std.TreeMap.getElem?_insert_self]
  rfl

omit [DecidableEq T] in
/-- A handler as a single step: it looks its ref up, and appends what it has then. -/
theorem look_push {u plugin : Plugin} (hu : Inv u) {τ : T} {e : Event} (hlive : e.live u)
    {m : Post T} (h : look H u τ e = some (plugin, m)) :
    IxWebsocket.step H u e.action = some (plugin.push ⟨m.message H, m.origin, u.serials⟩) := by
  cases e with
  | client i msg =>
    obtain ⟨m', hm, heq⟩ := Option.map_eq_some_iff.1 h
    obtain ⟨rfl, rfl⟩ := Prod.mk.inj heq
    obtain ⟨r, hr⟩ := Option.isSome_iff_exists.1 hlive
    simp only [Event.action, IxWebsocket.step, hr, Option.map_some]
    rw [clientCallback_push hu hr hm]
  | server i p msg =>
    obtain ⟨r, hr⟩ := Option.isSome_iff_exists.1 hlive
    simp only [Event.action, IxWebsocket.step, hr, Option.map_some]
    rw [serverCallback_push h]

end System

end IxWebsocket
