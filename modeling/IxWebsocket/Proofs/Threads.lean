import IxWebsocket.Proofs.Frames
import IxWebsocket.Proofs.System

/-!
# What the threads of the handlers keep

A handler that holds `message_list_mutex` is the only one, and what it appends is what it looked
up (`Threads`). So of each thread the events that have been appended are the first of its events, in
order (`InOrder`), and the loop, which asks for the messages in the order of the list, comes to
them in that order too. As a clear waits for the handlers of its ref, a handler that has found its
ref finds the same object at its second lookup (`Owned`).
-/

namespace IxWebsocket

namespace Pipeline

variable {M : Type*} {s t : State M} {a : Act M}

def Holder.isHandler : Holder M → Bool
  | .adding _ | .added => true
  | _ => false

/-- Who is no handler leaves the mutex with the handlers that hold it, and appends nothing. -/
theorem Trans.handler (hl : Locks s) (h : Trans s a t) (ha : a.isHandler = false) :
    (∀ x : Holder M, x.isHandler → (t.mutex = some x ↔ s.mutex = some x))
      ∧ t.appended = s.appended ∧ t.objects = s.objects := by
  have hfree : ∀ {x y : Option (Holder M)}, (∀ z, x = some z → z.isHandler = false) →
      (∀ z, y = some z → z.isHandler = false) →
      ∀ z : Holder M, z.isHandler → (y = some z ↔ x = some z) := by
    intro x y hx hy z hz
    constructor
    · intro h
      rw [hy z h] at hz
      cases hz
    · intro h
      rw [hx z h] at hz
      cases hz
  have hlog : ∀ e : Event M, e.appended? = none →
      (s.log ++ [e]).filterMap Event.appended? = s.appended := by
    intro e he
    simp [State.appended, he]
  cases h with
  | lock | addMessage | release => cases ha
  | locked _ hnone =>
    exact ⟨hfree (by simp [hnone]) (by simp [Holder.isHandler]), rfl, rfl⟩
  | unlock hloop =>
    have hmutex := hl.loop.1 (by rw [hloop]; rfl)
    exact ⟨hfree (by simp [hmutex, Holder.isHandler]) (by simp), rfl, rfl⟩
  | queryLocked _ hnone =>
    exact ⟨hfree (by simp [hnone]) (by simp [Holder.isHandler]), rfl, rfl⟩
  | queryUnlock hq =>
    have hmutex := hl.query _ _ _ _ hq
    exact ⟨hfree (by simp [hmutex, Holder.isHandler]) (by simp), rfl, rfl⟩
  | newList | newQueue | deleteList | clearNext | clearEnd | full | empty | busy | next | drained
  | living | sleep | again | ended | query | queryBusy | queryRead =>
    exact ⟨fun _ _ => Iff.rfl, rfl, rfl⟩
  | deleteQueue | clearErase | clearRest | start | take | known | unknown | execute | abort
  | erase =>
    exact ⟨fun _ _ => Iff.rfl, hlog _ rfl, rfl⟩

theorem lock_spec {m : M} (h : step s (.lock m) = some t) :
    s.mutex = none ∧ t = { s with mutex := some (.adding m) } := by
  cases trans_of_step h with
  | lock hnone => exact ⟨hnone, rfl⟩

theorem addMessage_spec {m : M} (hm : s.mutex = some (.adding m))
    (h : step s .addMessage = some t) :
    t.mutex = some .added ∧ t.objects = s.objects + 1
      ∧ t.appended = s.appended ++ [⟨s.objects, m⟩] := by
  cases trans_of_step h with
  | @addMessage m' hm' =>
    obtain rfl : m = m' := by simpa using hm.symm.trans hm'
    exact ⟨rfl, rfl, by simp [State.appended, Event.appended?]⟩

theorem unlock_spec (h : step s .unlock = some t) : t = { s with mutex := none } := by
  cases trans_of_step h with
  | release => rfl

end Pipeline

namespace System

variable {T : Type*} [DecidableEq T] {H : Host} {s t : State T} {a : Act T}

/-! ## The mutex -/

/-- The thread holds `message_list_mutex`. -/
def Phase.inside : Phase T → Bool
  | .adding _ | .added _ => true
  | _ => false

/-- What the handler has still to append. -/
def Phase.waiting : Phase T → Option (Post T)
  | .looked m | .adding m => some m
  | _ => none

structure Threads (s : State T) : Prop where
  thread : ∀ {τ m}, (s.phase τ).post = some m → m.thread = τ
  adding : ∀ {τ m}, s.phase τ = .adding m → s.pipe.mutex = some (.adding m)
  added : ∀ {τ m}, s.phase τ = .added m → s.pipe.mutex = some .added
  alone : ∀ {τ τ'}, (s.phase τ).inside → (s.phase τ').inside → τ = τ'

omit [DecidableEq T] in
theorem Threads.init : Threads ({} : State T) where
  thread h := by cases h
  adding h := by cases h
  added h := by cases h
  alone h := by cases h

omit [DecidableEq T] in
theorem Threads.not_inside (hs : Threads s) (h : s.pipe.mutex = none) (τ : T) :
    (s.phase τ).inside = false := by
  cases hτ : s.phase τ with
  | outside | looked => rfl
  | adding m =>
    have := hs.adding hτ
    simp [h] at this
  | added m =>
    have := hs.added hτ
    simp [h] at this

/-- One thread goes on, outside or while no other is inside. -/
theorem Threads.update (hs : Threads s) {τ : T} {phase : Phase T}
    (hphase : t.phase = Function.update s.phase τ phase)
    (hthread : ∀ m, phase.post = some m → m.thread = τ)
    (hadding : ∀ m, phase = .adding m → t.pipe.mutex = some (.adding m))
    (hadded : ∀ m, phase = .added m → t.pipe.mutex = some .added)
    (hothers : (∀ τ', τ' ≠ τ → (s.phase τ').inside = false)
      ∨ (phase.inside = false ∧ t.pipe.mutex = s.pipe.mutex)) : Threads t := by
  have hself : t.phase τ = phase := by rw [hphase, Function.update_self]
  have hother : ∀ {τ'}, τ' ≠ τ → t.phase τ' = s.phase τ' := by
    intro τ' hne
    rw [hphase, Function.update_of_ne hne]
  have hmutex : ∀ {τ'}, τ' ≠ τ → (s.phase τ').inside → t.pipe.mutex = s.pipe.mutex := by
    intro τ' hne hin
    rcases hothers with h | ⟨-, h⟩
    · rw [h τ' hne] at hin
      cases hin
    · exact h
  refine ⟨fun {τ' m} h => ?_, fun {τ' m} h => ?_, fun {τ' m} h => ?_, fun {τ₁ τ₂} h₁ h₂ => ?_⟩
  · by_cases hne : τ' = τ
    · subst hne
      exact hthread m (hself ▸ h)
    · exact hs.thread (hother hne ▸ h)
  · by_cases hne : τ' = τ
    · subst hne
      exact hadding m (hself.symm.trans h)
    · rw [hother hne] at h
      rw [hmutex hne (by rw [h]; rfl)]
      exact hs.adding h
  · by_cases hne : τ' = τ
    · subst hne
      exact hadded m (hself.symm.trans h)
    · rw [hother hne] at h
      rw [hmutex hne (by rw [h]; rfl)]
      exact hs.added h
  · have hnot : ∀ {τ'}, τ' ≠ τ → (t.phase τ').inside → (t.phase τ).inside = false := by
      intro τ' hne hin
      rw [hself]
      rcases hothers with h | ⟨h, -⟩
      · rw [hother hne, h τ' hne] at hin
        cases hin
      · exact h
    by_cases hne₁ : τ₁ = τ <;> by_cases hne₂ : τ₂ = τ
    · rw [hne₁, hne₂]
    · rw [hne₁, hnot hne₂ h₂] at h₁
      cases h₁
    · rw [hne₂, hnot hne₁ h₁] at h₂
      cases h₂
    · rw [hother hne₁] at h₁
      rw [hother hne₂] at h₂
      exact hs.alone h₁ h₂

omit [DecidableEq T] in
/-- The handlers stay where they are, and the mutex with them. -/
theorem Threads.of_phase (hs : Threads s) (hphase : t.phase = s.phase)
    (hmutex : ∀ x : Pipeline.Holder (Post T), x.isHandler →
      (t.pipe.mutex = some x ↔ s.pipe.mutex = some x)) : Threads t where
  thread h := hs.thread (hphase ▸ h)
  adding h := (hmutex _ rfl).2 (hs.adding (hphase ▸ h))
  added h := (hmutex _ rfl).2 (hs.added (hphase ▸ h))
  alone h h' := hs.alone (hphase ▸ h) (hphase ▸ h')

omit [DecidableEq T] in
theorem look_thread {plugin u : Plugin} {τ : T} {e : Event} {m : Post T}
    (h : look H u τ e = some (plugin, m)) : m.thread = τ := by
  cases e with
  | client i msg =>
    obtain ⟨m', hm, heq⟩ := Option.map_eq_some_iff.1 h
    obtain ⟨-, rfl⟩ := Prod.mk.inj heq
    unfold lookClient at hm
    split at hm <;>
      · obtain ⟨r, -, rfl⟩ := Option.map_eq_some_iff.1 hm
        rfl
  | server i p msg =>
    obtain ⟨r, -, heq⟩ := Option.map_eq_some_iff.1 h
    obtain ⟨-, rfl⟩ := Prod.mk.inj heq
    rfl

theorem Threads.step (hs : Threads s) (hl : Pipeline.Locks s.pipe) (h : Trans H s a t) :
    Threads t := by
  have hothers : ∀ {τ}, (s.phase τ).inside → ∀ τ', τ' ≠ τ → (s.phase τ').inside = false := by
    intro τ hin τ' hne
    by_contra hin'
    exact hne (hs.alone (by simpa using hin') hin)
  cases h with
  | registry | nothing => exact hs.of_phase rfl fun _ _ => Iff.rfl
  | look hout hlive h =>
    refine hs.update rfl (fun m' hm' => ?_) nofun nofun (.inr ⟨rfl, rfl⟩)
    obtain rfl := Option.some.inj hm'
    exact look_thread h
  | @lock τ m pipe hphase h =>
    obtain ⟨hnone, rfl⟩ := Pipeline.lock_spec h
    refine hs.update rfl (fun m' hm' => ?_) (fun m' hm' => ?_) nofun
      (.inl fun τ' _ => hs.not_inside hnone τ')
    · exact hs.thread (τ := τ) (by rw [hphase]; exact hm')
    · cases hm'
      rfl
  | @addMessage τ m pipe hphase h =>
    obtain ⟨hmutex, -⟩ := Pipeline.addMessage_spec (hs.adding hphase) h
    refine hs.update rfl (fun m' hm' => ?_) nofun (fun _ _ => hmutex)
      (.inl (hothers (by rw [hphase]; rfl)))
    exact hs.thread (τ := τ) (by rw [hphase]; exact hm')
  | @unlock τ m pipe hphase h =>
    exact hs.update rfl nofun nofun nofun (.inl (hothers (by rw [hphase]; rfl)))
  | main h | loop h | query h =>
    exact hs.of_phase rfl ((Pipeline.trans_of_step h).handler hl rfl).1

/-! ## The order of the events of a thread -/

/-- Of each thread the list has got what the handlers have looked up, but for the one that has
still to append. -/
def InOrder (s : State T) : Prop :=
  ∀ τ, s.begun.filter (·.thread = τ)
    = (s.pipe.appended.map (·.msg)).filter (·.thread = τ) ++ (s.phase τ).waiting.toList

/-- One thread goes on, and what it has looked up and appended says so. -/
theorem InOrder.update (hs : InOrder s) {τ : T} {phase : Phase T} {ms ms' : List (Post T)}
    (hphase : t.phase = Function.update s.phase τ phase) (hbegun : t.begun = s.begun ++ ms)
    (happended : t.pipe.appended.map (·.msg) = s.pipe.appended.map (·.msg) ++ ms')
    (hms : ∀ m ∈ ms, m.thread = τ) (hms' : ∀ m ∈ ms', m.thread = τ)
    (hwaiting : (s.phase τ).waiting.toList ++ ms = ms' ++ phase.waiting.toList) : InOrder t := by
  intro τ'
  rw [hbegun, happended, List.filter_append, List.filter_append, hs τ', hphase]
  by_cases hne : τ' = τ
  · subst hne
    have hfilter : ∀ l : List (Post T), (∀ m ∈ l, m.thread = τ') → l.filter (·.thread = τ') = l :=
      fun l hl => List.filter_eq_self.2 fun m hm => by simpa using hl m hm
    rw [hfilter ms hms, hfilter ms' hms', Function.update_self, List.append_assoc,
      List.append_assoc, hwaiting]
  · have hfilter : ∀ l : List (Post T), (∀ m ∈ l, m.thread = τ) →
        l.filter (·.thread = τ') = [] := by
      intro l hl
      refine List.filter_eq_nil_iff.2 fun m hm => ?_
      rw [hl m hm]
      simpa using Ne.symm hne
    rw [hfilter ms hms, hfilter ms' hms', Function.update_of_ne hne, List.append_nil,
      List.append_nil]

theorem InOrder.of_eq (hs : InOrder s) (hphase : t.phase = s.phase) (hbegun : t.begun = s.begun)
    (happended : t.pipe.appended = s.pipe.appended) : InOrder t := by
  intro τ
  rw [hbegun, happended, hphase]
  exact hs τ

theorem InOrder.step (hs : InOrder s) (hth : Threads s) (hl : Pipeline.Locks s.pipe)
    (h : Trans H s a t) : InOrder t := by
  cases h with
  | registry | nothing => exact hs.of_eq rfl rfl rfl
  | @look τ e plugin m hout hlive h =>
    refine hs.update rfl rfl (List.append_nil _).symm ?_ nofun (by simp [hout, Phase.waiting])
    intro m' hm'
    rw [List.mem_singleton.1 hm']
    exact look_thread h
  | @lock τ m pipe hphase h =>
    obtain ⟨-, rfl⟩ := Pipeline.lock_spec h
    exact hs.update rfl (List.append_nil _).symm (List.append_nil _).symm nofun nofun
      (by simp [hphase, Phase.waiting])
  | @addMessage τ m pipe hphase h =>
    obtain ⟨-, -, happ⟩ := Pipeline.addMessage_spec (hth.adding hphase) h
    have hposts : pipe.appended.map (·.msg) = s.pipe.appended.map (·.msg) ++ [m] := by
      simp [happ]
    refine hs.update rfl (List.append_nil _).symm hposts nofun ?_
      (by simp [hphase, Phase.waiting])
    intro m' hm'
    rw [List.mem_singleton.1 hm']
    exact hth.thread (by rw [hphase]; rfl)
  | @unlock τ m pipe hphase h =>
    obtain rfl := Pipeline.unlock_spec h
    exact hs.update rfl (List.append_nil _).symm (List.append_nil _).symm nofun nofun
      (by simp [hphase, Phase.waiting])
  | main h | loop h | query h =>
    exact hs.of_eq rfl rfl ((Pipeline.trans_of_step h).handler hl rfl).2.1

/-! ## The message objects -/

/-- The message is the one of `m`, whatever method and worker were found at the second lookup. -/
def Post.Made (H : Host) (m : Post T) (message : Message) : Prop :=
  ∃ worker method, message = { m.message H with worker, method }

structure Made (H : Host) (s : State T) : Prop where
  fresh : ∀ o ∈ s.pipe.appended, o.id < s.pipe.objects
  made : ∀ o ∈ s.pipe.appended, ∃ message, s.made o.id = some message ∧ o.msg.Made H message

omit [DecidableEq T] in
theorem message_made (u : Plugin) (m : Post T) :
    m.Made H (Message.create H u m.server m.client m.type (cstr m.context) m.window m.process) := by
  unfold Message.create
  exact ⟨_, _, rfl⟩

theorem Made.step (hs : Made H s) (hth : Threads s) (hl : Pipeline.Locks s.pipe)
    (h : Trans H s a t) : Made H t := by
  have hsame : ∀ {pipe : Pipeline.State (Post T)}, pipe.appended = s.pipe.appended →
      pipe.objects = s.pipe.objects → Made H { s with pipe } := by
    intro pipe happ hobj
    refine ⟨fun o ho => ?_, fun o ho => hs.made o (happ ▸ ho)⟩
    rw [hobj]
    exact hs.fresh o (happ ▸ ho)
  cases h with
  | registry | nothing | look => exact ⟨hs.fresh, hs.made⟩
  | @lock τ m pipe hphase h =>
    obtain ⟨-, rfl⟩ := Pipeline.lock_spec h
    exact ⟨hs.fresh, hs.made⟩
  | @unlock τ m pipe hphase h =>
    obtain rfl := Pipeline.unlock_spec h
    exact ⟨hs.fresh, hs.made⟩
  | @addMessage τ m pipe hphase h =>
    obtain ⟨-, hobj, happ⟩ := Pipeline.addMessage_spec (hth.adding hphase) h
    refine ⟨fun o ho => ?_, fun o ho => ?_⟩
    · rw [happ] at ho
      show o.id < pipe.objects
      rcases List.mem_append.1 ho with ho | ho
      · have := hs.fresh o ho
        omega
      · rw [List.mem_singleton.1 ho]
        show s.pipe.objects < pipe.objects
        omega
    · rw [happ] at ho
      rcases List.mem_append.1 ho with ho | ho
      · have hne : o.id ≠ s.pipe.objects := (hs.fresh o ho).ne
        simp only [Function.update_of_ne hne]
        exact hs.made o ho
      · rw [List.mem_singleton.1 ho]
        exact ⟨_, Function.update_self .., message_made s.plugin m⟩
  | main h | loop h | query h =>
    obtain ⟨-, happ, hobj⟩ := (Pipeline.trans_of_step h).handler hl rfl
    exact hsame happ hobj

/-! ## The two lookups of a handler -/

/-- The place at which a handler has found its ref. -/
def Post.place (m : Post T) : Place := if m.server = 0 then .client m.client else .server m.server

/-- A handler's ref is where the handler has found it. -/
def Owned (s : State T) : Prop :=
  ∀ τ m, (s.phase τ).post = some m → s.plugin.objAt m.place = some m.origin.obj

omit [DecidableEq T] in
theorem look_owned {u plugin : Plugin} (hu : Inv u) {τ : T} {e : Event} (hlive : e.live u)
    {m : Post T} (h : look H u τ e = some (plugin, m)) :
    plugin.objAt = u.objAt ∧ u.objAt m.place = some m.origin.obj := by
  cases e with
  | client i msg =>
    obtain ⟨m', hm, heq⟩ := Option.map_eq_some_iff.1 h
    obtain ⟨rfl, rfl⟩ := Prod.mk.inj heq
    obtain ⟨r, hr⟩ := Option.isSome_iff_exists.1 hlive
    have hnone := hu.no_server (i := i) (by linarith [(hu.client hr).1])
    unfold lookClient at hm
    split at hm
    · rw [hnone] at hm
      cases hm
    · rw [hr] at hm
      cases hm
      exact ⟨rfl, objAt_client_eq_some.2 ⟨r, hr, rfl⟩⟩
  | server i p msg =>
    obtain ⟨r, hr, heq⟩ := Option.map_eq_some_iff.1 h
    obtain ⟨rfl, rfl⟩ := Prod.mk.inj heq
    have hi := (hu.server hr).1
    have hplace : ∀ m : Post T, m.server = i → m.place = .server i := by
      intro m hm
      unfold Post.place
      rw [if_neg (by omega), hm]
    refine ⟨objAt_setServer hr (lookOf_move msg.type r p).obj.1, ?_⟩
    rw [hplace _ rfl]
    exact objAt_server_eq_some.2 ⟨r, hr, rfl⟩

/-- A section takes no ref out of its place, unless it is a clear of that place. -/
theorem registry_objAt {u v : Plugin} {a : Action} (hq : quiet a)
    (h : IxWebsocket.step H u a = some v) {k : Place} {o : ℕ} (ho : u.objAt k = some o)
    (hclear : ∀ c param, a = .command c param → c.isClear → c.place (refParam H param) ≠ k) :
    v.objAt k = some o := by
  by_cases hne : a.place H u ≠ k
  · rw [(step_sameBut h).objAt hne, ho]
  rw [not_not] at hne
  cases a with
  | client param =>
    rw [← hne, Action.place, objAt_leastFree] at ho
    cases ho
  | server param =>
    rw [← hne, Action.place, objAt_greatestFree] at ho
    cases ho
  | command c param =>
    cases h
    cases hc : c.isClear with
    | false => rw [runCommand_setParams hc, (setParams_kept u param c).1, ho]
    | true => exact absurd hne (hclear c param rfl hc)
  | hold i conns =>
    obtain ⟨r, hr, rfl⟩ := Option.map_eq_some_iff.1 h
    refine (congrFun (objAt_setServer hr ?_) k).trans ho
    rfl
  | clientEvent | serverEvent | deliver => cases hq

omit [DecidableEq T] in
/-- A clear command does not take the ref away from a handler that has found it. -/
theorem Owned.not_cleared (hs : Owned s) (hok : Waits H s a) {c : Command}
    {param : Option PAObject} (ha : a = .registry (.command c param)) (hc : c.isClear) {τ : T}
    {m : Post T} (hm : (s.phase τ).post = some m) : c.place (refParam H param) ≠ m.place := by
  intro hplace
  have hobj := hs τ m hm
  rw [← hplace] at hobj
  subst ha
  cases c with
  | clientClear fired =>
    obtain ⟨r, hr, hro⟩ := objAt_client_eq_some.1 hobj
    exact hok r hr τ m hm hro.symm
  | serverClear fired =>
    obtain ⟨r, hr, hro⟩ := objAt_server_eq_some.1 hobj
    exact hok r hr τ m hm hro.symm
  | _ => cases hc

theorem Owned.step (hs : Owned s) (hI : Inv s.plugin) (hok : Waits H s a) (h : Trans H s a t) :
    Owned t := by
  have hupdate : ∀ {τ : T} {m : Post T} {phase : Phase T}, (s.phase τ).post = some m →
      (∀ m', phase.post = some m' → m' = m) → ∀ τ' m',
      (Function.update s.phase τ phase τ').post = some m' →
      s.plugin.objAt m'.place = some m'.origin.obj := by
    intro τ m phase hm hphase τ' m' hm'
    by_cases hne : τ' = τ
    · subst hne
      rw [Function.update_self] at hm'
      rw [hphase m' hm']
      exact hs τ' m hm
    · rw [Function.update_of_ne hne] at hm'
      exact hs τ' m' hm'
  cases h with
  | @registry a plugin hq h =>
    intro τ m hm
    refine registry_objAt hq h (hs τ m hm) fun c param ha hc => ?_
    exact hs.not_cleared hok (by rw [ha]) hc hm
  | nothing | main | loop | query => exact hs
  | @look τ e plugin m hout hlive h =>
    obtain ⟨hsame, hown⟩ := look_owned hI hlive h
    intro τ' m' hm'
    show plugin.objAt m'.place = some m'.origin.obj
    rw [hsame]
    by_cases hne : τ' = τ
    · subst hne
      simp only [Function.update_self] at hm'
      obtain rfl := Option.some.inj hm'
      exact hown
    · simp only [Function.update_of_ne hne] at hm'
      exact hs τ' m' hm'
  | @lock τ m pipe hphase h | @addMessage τ m pipe hphase h =>
    refine hupdate (τ := τ) (m := m) (by rw [hphase]; rfl) fun m' hm' => ?_
    exact (Option.some.inj hm').symm
  | @unlock τ m pipe hphase h => exact hupdate (τ := τ) (m := m) (by rw [hphase]; rfl) nofun

/-! ## Any interleaving -/

structure Sound (H : Host) (s : State T) : Prop where
  inv : Inv s.plugin
  locks : Pipeline.Locks s.pipe
  threads : Threads s
  inOrder : InOrder s
  made : Made H s
  owned : Owned s

theorem Sound.init : Sound H ({} : State T) where
  inv := inv_init
  locks := .init
  threads := .init
  inOrder _ := rfl
  made := ⟨nofun, nofun⟩
  owned _ _ h := by cases h

theorem Trans.inv (h : Trans H s a t) (hs : Inv s.plugin) : Inv t.plugin := by
  cases h with
  | registry hq h => exact (step_moves hs h).inv hs
  | @look τ e plugin m hout hlive h =>
    -- the registries are those the whole handler leaves
    have := (step_moves hs (look_push hs hlive h)).inv hs
    exact ⟨this.client, this.server⟩
  | _ => exact hs

theorem Trans.locks (h : Trans H s a t) (hs : Pipeline.Locks s.pipe) : Pipeline.Locks t.pipe := by
  cases h with
  | registry | nothing | look => exact hs
  | lock _ h | addMessage _ h | unlock _ h | main h | loop h | query h =>
    exact hs.step (Pipeline.trans_of_step h)

theorem Sound.step (hs : Sound H s) (hok : Waits H s a) (h : Trans H s a t) : Sound H t where
  inv := h.inv hs.inv
  locks := h.locks hs.locks
  threads := hs.threads.step hs.locks h
  inOrder := hs.inOrder.step hs.threads hs.locks h
  made := hs.made.step hs.threads hs.locks h
  owned := hs.owned.step hs.inv hok h

theorem Reachable.sound (h : Reachable H s) : Sound H s := by
  obtain ⟨as, h⟩ := h
  exact h.invariant (fun _ _ _ hok hstep hs => hs.step hok (trans_of_step hstep)) .init

end System

end IxWebsocket
