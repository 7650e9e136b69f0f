import IxWebsocket.Plugin
import IxWebsocket.Proofs.Objects

/-!
# What becomes of an appended message

Until the list is deleted, the messages the loop has asked the method id of, followed by those it
has still to ask, are the messages appended, in order (`Accounted`). A pass that is aborted leaves
the message it delivered last in the vector, and sets the flag at which the loop ends, so no later
pass meets that message again.
-/

namespace IxWebsocket

namespace Pipeline

variable {M : Type*} {s t : State M} {a : Act M}

def Event.isAbort : Event M → Bool
  | .abort => true
  | _ => false

/-- A pass has been aborted. -/
def State.aborted (s : State M) : Bool := s.log.any Event.isAbort

/-- What the loop has still to ask the method id of. -/
def LoopPc.rest (aborted : Bool) : LoopPc M → List (Obj M) → List (Obj M)
  | .execute _, messages | .isDying, messages | .erase, messages => messages.tail
  | _, messages => if aborted then messages.tail else messages

/-- What the loop is about to deliver. -/
def LoopPc.pending : LoopPc M → List (Obj M)
  | .execute m => [m]
  | _ => []

/-- Where an aborted pass can have got. -/
def LoopPc.leaving (pc : LoopPc M) : Prop := pc = .unlock ∨ pc = .again ∨ pc = .ended

structure Accounted (s : State M) : Prop where
  handled : s.appended = s.handled.map (·.1) ++ s.loop.rest s.aborted s.messages
  delivered : s.delivered ++ s.loop.pending = (s.handled.filter (·.2 ≠ 0)).map (·.1)
  aborted : s.aborted = true → s.exit = true ∧ s.loop.leaving ∧ s.messages ≠ []
  unlock : s.loop = .unlock → s.aborted = true ∨ s.messages = []

theorem Accounted.init : Accounted ({} : State M) where
  handled := by simp [State.appended, State.handled, LoopPc.rest]
  delivered := by simp [State.delivered, State.handled, LoopPc.pending]
  aborted := by simp [State.aborted]
  unlock := by simp

theorem Accounted.not_aborted (hs : Accounted s) (h : ¬ s.loop.leaving) : s.aborted = false := by
  by_contra hab
  exact h (hs.aborted (by simpa using hab)).2.1

/-- The log of `t` says no more about the messages than that of `s`. -/
structure SameLog (s t : State M) : Prop where
  appended : t.appended = s.appended
  handled : t.handled = s.handled
  delivered : t.delivered = s.delivered
  aborted : t.aborted = s.aborted

theorem filterMap_singleton {α β : Type*} (f : α → Option β) (a : α) :
    [a].filterMap f = (f a).toList := by
  rcases hf : f a with _ | b <;> simp [hf]

theorem log_concat {e : Event M} (h : t.log = s.log ++ [e]) :
    t.appended = s.appended ++ e.appended?.toList ∧ t.handled = s.handled ++ e.handled?.toList
      ∧ t.delivered = s.delivered ++ e.delivered?.toList
      ∧ t.aborted = (s.aborted || e.isAbort) := by
  simp [State.appended, State.handled, State.delivered, State.aborted, h, filterMap_singleton]

theorem SameLog.of_eq (h : t.log = s.log) : SameLog s t := by
  constructor <;> simp only [State.appended, State.handled, State.delivered, State.aborted, h]

theorem SameLog.of_concat {e : Event M} (h : t.log = s.log ++ [e]) (happended : e.appended? = none)
    (hhandled : e.handled? = none) (hdelivered : e.delivered? = none) (habort : e.isAbort = false) :
    SameLog s t := by
  obtain ⟨ha, hh, hd, hb⟩ := log_concat h
  rw [happended, Option.toList_none, List.append_nil] at ha
  rw [hhandled, Option.toList_none, List.append_nil] at hh
  rw [hdelivered, Option.toList_none, List.append_nil] at hd
  rw [habort, Bool.or_false] at hb
  exact ⟨ha, hh, hd, hb⟩

theorem SameLog.refl (s : State M) : SameLog s s := .of_eq rfl

theorem SameLog.trans {u : State M} (h : SameLog s t) (h' : SameLog t u) : SameLog s u :=
  ⟨h'.appended.trans h.appended, h'.handled.trans h.handled, h'.delivered.trans h.delivered,
    h'.aborted.trans h.aborted⟩

/-- A step that neither handles a message nor touches the vector. -/
theorem Accounted.silent (hs : Accounted s) (hlog : SameLog s t) (hmes : t.messages = s.messages)
    (hrest : t.loop.rest s.aborted s.messages = s.loop.rest s.aborted s.messages)
    (hpending : t.loop.pending = s.loop.pending)
    (haborted : s.aborted = true → t.exit = true ∧ t.loop.leaving)
    (hunlock : t.loop = .unlock → s.aborted = true ∨ s.messages = []) : Accounted t := by
  refine ⟨?_, ?_, fun h => ?_, fun h => ?_⟩
  · rw [hlog.appended, hlog.handled, hlog.aborted, hmes, hrest, hs.handled]
  · rw [hlog.delivered, hlog.handled, hpending, hs.delivered]
  · rw [hlog.aborted] at h
    exact ⟨(haborted h).1, (haborted h).2, hmes ▸ (hs.aborted h).2.2⟩
  · rw [hlog.aborted, hmes]
    exact hunlock h

/-- A message that is appended while the loop is outside comes last of what it has to ask. -/
theorem LoopPc.rest_append {pc : LoopPc M} (hpc : pc.inPass = false) {aborted : Bool}
    {messages : List (Obj M)} (hne : aborted = true → messages ≠ []) (m : Obj M) :
    pc.rest aborted (messages ++ [m]) = pc.rest aborted messages ++ [m] := by
  have hout : ∀ ms : List (Obj M), pc.rest aborted ms = if aborted then ms.tail else ms := by
    intro ms
    cases pc <;> first | rfl | cases hpc
  rw [hout, hout]
  split_ifs with hab
  · exact List.tail_append_of_ne_nil (hne hab)
  · rfl

/-- The loop has asked the method id of the first message. -/
theorem Accounted.asked (hs : Accounted s) {m : Obj M} (h : s.loop = .getMethodId m)
    (hm : s.messages.head? = some m) {pc : LoopPc M} {id : ℤ}
    (hrest : pc.rest false s.messages = s.messages.tail)
    (hpending : pc.pending = if id ≠ 0 then [m] else []) (hpc : pc ≠ .unlock) :
    Accounted { s with loop := pc, log := s.log ++ [.methodId m id] } := by
  have hfalse := hs.not_aborted (by simp [h, LoopPc.leaving])
  obtain ⟨ms, hms⟩ := List.head?_eq_some_iff.1 hm
  obtain ⟨happ, hhan, hdel, habt⟩ := log_concat (s := s) (t := { s with
    loop := pc, log := s.log ++ [.methodId m id] }) rfl
  have hnone : (LoopPc.getMethodId m).pending = [] := rfl
  refine ⟨?_, ?_, fun h => ?_, fun h => absurd h hpc⟩
  · rw [happ, hhan, habt, hfalse, show (false || Event.isAbort _) = false from rfl, hrest,
      hs.handled, h, hfalse, hms]
    simp [LoopPc.rest, Event.appended?, Event.handled?]
  · have hd := hs.delivered
    rw [h, hnone, List.append_nil] at hd
    rw [hdel, hhan, hpending, List.filter_append, List.map_append, ← hd]
    by_cases hid : id = 0 <;> simp [Event.delivered?, Event.handled?, hid]
  · rw [habt, hfalse] at h
    cases h

theorem Accounted.step (hs : Accounted s) (hc : Control s) (hl : Locks s)
    (hmain : t.main.clearing = false) (h : Trans s a t) : Accounted t := by
  have hplace := hc.place
  have hna : ∀ {pc : LoopPc M}, s.loop = pc → ¬ pc.leaving → s.aborted = false :=
    fun h hpc => hs.not_aborted (h ▸ hpc)
  have hab := hs.aborted
  cases h with
  | deleteList | clearNext | clearEnd | clearErase | clearRest => cases hmain
  | newList =>
    exact hs.silent (.of_eq rfl) rfl rfl rfl (fun h => ⟨(hab h).1, (hab h).2.1⟩) hs.unlock
  | newQueue h =>
    have hloop := hl.absent (.inr h)
    have hfalse := hna hloop (by simp [LoopPc.leaving])
    exact hs.silent (.of_eq rfl) rfl (by simp [hloop, LoopPc.rest])
      (by simp [hloop, LoopPc.pending]) (by simp [hfalse]) (by simp)
  | full h | empty h | locked h | busy h | next h | living h | sleep h =>
    have hfalse := hna h (by simp [LoopPc.leaving])
    exact hs.silent (.of_eq rfl) rfl (by simp [h, LoopPc.rest]) (by simp [h, LoopPc.pending])
      (by simp [hfalse]) (by simp)
  | drained h hnil =>
    have hfalse := hna h (by simp [LoopPc.leaving])
    exact hs.silent (.of_eq rfl) rfl (by simp [h, LoopPc.rest]) (by simp [h, LoopPc.pending])
      (by simp [hfalse]) (fun _ => .inr hnil)
  | unlock h =>
    exact hs.silent (.of_eq rfl) rfl (by simp [h, LoopPc.rest]) (by simp [h, LoopPc.pending])
      (fun h => ⟨(hab h).1, .inr (.inl rfl)⟩) (by simp)
  | ended h =>
    exact hs.silent (.of_eq rfl) rfl (by simp [h, LoopPc.rest]) (by simp [h, LoopPc.pending])
      (fun h => ⟨(hab h).1, .inr (.inr rfl)⟩) (by simp)
  | again h hexit =>
    -- the flag an aborted pass has set keeps the loop from going on
    exact hs.silent (.of_eq rfl) rfl (by simp [h, LoopPc.rest]) (by simp [h, LoopPc.pending])
      (fun h => by simp [(hab h).1] at hexit) (by simp)
  | query | queryLocked | queryBusy | queryRead | queryUnlock | lock | release =>
    exact hs.silent (.of_eq rfl) rfl rfl rfl (fun h => ⟨(hab h).1, (hab h).2.1⟩) hs.unlock
  | deleteQueue h =>
    exact hs.silent (.of_concat rfl rfl rfl rfl rfl) rfl rfl rfl (fun h => ⟨rfl, (hab h).2.1⟩)
      hs.unlock
  | start h =>
    have hfalse := hna h (by simp [LoopPc.leaving])
    exact hs.silent (.of_concat rfl rfl rfl rfl rfl) rfl (by simp [h, LoopPc.rest])
      (by simp [h, LoopPc.pending]) (by simp [hfalse]) (by simp)
  | take h =>
    have hfalse := hna h (by simp [LoopPc.leaving])
    exact hs.silent (.of_concat rfl rfl rfl rfl rfl) rfl (by simp [h, LoopPc.rest])
      (by simp [h, LoopPc.pending]) (by simp [hfalse]) (by simp)
  | known h hid =>
    rw [h] at hplace
    exact hs.asked h hplace rfl (by simp [LoopPc.pending, hid]) (by simp)
  | unknown h =>
    rw [h] at hplace
    exact hs.asked h hplace rfl rfl (by simp)
  | @execute methodId dying m h =>
    have hfalse := hna h (by simp [LoopPc.leaving])
    obtain ⟨happ, hhan, hdel, habt⟩ := log_concat (s := s) (t := { s with
      loop := .isDying, log := s.log ++ [.deliver m] }) rfl
    refine ⟨?_, ?_, ?_, by simp⟩
    · rw [happ, hhan, hs.handled, h]
      simp [LoopPc.rest, Event.appended?, Event.handled?]
    · have hd := hs.delivered
      rw [h] at hd
      rw [hdel, hhan]
      simpa [LoopPc.pending, Event.delivered?, Event.handled?] using hd
    · rw [habt, hfalse]
      simp [Event.isAbort]
  | abort h =>
    rw [h] at hplace
    obtain ⟨happ, hhan, hdel, habt⟩ := log_concat (s := s) (t := { s with
      exit := true, loop := .unlock, log := s.log ++ [.abort] }) rfl
    have htrue : (s.aborted || Event.isAbort (M := M) .abort) = true := by simp [Event.isAbort]
    rw [htrue] at habt
    refine ⟨?_, ?_, fun _ => ⟨rfl, .inl rfl, hplace⟩, fun _ => .inl habt⟩
    · rw [happ, hhan, habt, hs.handled, h]
      simp [LoopPc.rest, Event.appended?, Event.handled?]
    · have hd := hs.delivered
      rw [h] at hd
      rw [hdel, hhan]
      simpa [LoopPc.pending, Event.delivered?, Event.handled?] using hd
  | @erase methodId dying m h hm =>
    have hfalse := hna h (by simp [LoopPc.leaving])
    have hlog : SameLog s { s.erase m with loop := .hasNext, log := s.log ++ [.erase m] } :=
      .of_concat rfl rfl rfl rfl rfl
    refine ⟨?_, ?_, ?_, by simp⟩
    · rw [hlog.appended, hlog.handled, hlog.aborted, hs.handled, h, hfalse]
      rfl
    · have hd := hs.delivered
      rw [h] at hd
      rw [hlog.delivered, hlog.handled, ← hd]
      rfl
    · rw [hlog.aborted, hfalse]
      simp
  | @addMessage msg h =>
    obtain ⟨happ, hhan, hdel, habt⟩ := log_concat (s := s) (t := { s with
      messages := s.messages ++ [⟨s.objects, msg⟩]
      mutex := some .added
      objects := s.objects + 1
      log := s.log ++ [.append ⟨s.objects, msg⟩] }) rfl
    have houtside : s.loop.inPass = false := by
      by_contra hin
      have := hl.loop.1 (by simpa using hin)
      rw [h] at this
      simp at this
    refine ⟨?_, ?_, fun hb => ?_, fun hu => ?_⟩
    · rw [happ, hhan, habt, hs.handled]
      simp [Event.appended?, Event.handled?, Event.isAbort,
        LoopPc.rest_append houtside (fun hb => (hab hb).2.2)]
    · rw [hdel, hhan]
      simpa [Event.delivered?, Event.handled?] using hs.delivered
    · have hb' : s.aborted = true := by simpa [habt, Event.isAbort] using hb
      exact ⟨(hab hb').1, (hab hb').2.1, by simp⟩
    · have : s.loop = .unlock := hu
      simp [this, LoopPc.inPass] at houtside

/-! ## Runs up to the exit -/

theorem Trans.stopped (h : Trans s a t) (ht : t.main.stopped = false) :
    s.main.stopped = false := by
  cases h with
  | newList h | newQueue h => rw [h]; rfl
  | deleteQueue | deleteList | clearNext | clearEnd | clearErase | clearRest => cases ht
  | _ => exact ht

theorem MainPc.clearing_of_stopped {pc : MainPc} (h : pc.stopped = false) :
    pc.clearing = false := by
  cases pc <;> simp_all [MainPc.clearing, MainPc.stopped]

/-- Up to the exit there is nothing the main thread would have to wait for. -/
theorem ordered_of_stopped (h : Trans s a t) (ht : t.main.stopped = false) : Ordered s a where
  start _ _ _ _ := h.stopped ht
  delete _ hm := by
    have := h.stopped ht
    rw [hm] at this
    cases this

structure UpToExit (s : State M) : Prop where
  locks : Locks s
  control : Control s
  accounts : Accounts s
  accounted : Accounted s

theorem UpToExit.run {as : List (Act M)} {ok : State M → Act M → Prop}
    (h : Runs.Steps Pipeline.step ok s as t) (ht : t.main.stopped = false) (hs : UpToExit s) :
    UpToExit t := by
  refine h.invariant (I := fun s => s.main.stopped = false → UpToExit s) ?_ (fun _ => hs) ht
  intro s a t _ hstep ih ht
  have h := trans_of_step hstep
  obtain ⟨hl, hc, hacc, haccd⟩ := ih (h.stopped ht)
  exact ⟨hl.step h, hc.step (ordered_of_stopped h ht) h, hacc.step hc h,
    haccd.step hc hl (MainPc.clearing_of_stopped ht) h⟩

theorem Reachable.upToExit (h : Reachable s) (hs : s.main.stopped = false) : UpToExit s := by
  obtain ⟨as, h⟩ := h
  exact UpToExit.run h hs ⟨.init, .init, .init, .init⟩

/-! ## One pass -/

/-- The loop does not leave its pass. -/
def Draining (s : State M) (a : Act M) : Prop :=
  ∀ methodId dying, a = .loop methodId dying → s.loop ≠ .unlock

def Act.isLoop : Act M → Bool
  | .loop _ _ => true
  | _ => false

def Act.isHandler : Act M → Bool
  | .lock _ | .addMessage | .unlock => true
  | _ => false

/-- A bound on the statements left of a pass: six for each message, and the last test. -/
def State.todo (s : State M) : ℕ :=
  match s.loop with
  | .hasNext => 6 * s.messages.length + 1
  | .take => 6 * s.messages.length
  | .getMethodId _ => 6 * s.messages.length - 1
  | .execute _ => 6 * s.messages.length - 2
  | .isDying => 6 * s.messages.length - 3
  | .erase => 6 * s.messages.length - 4
  | _ => 0

/-- During a pass nothing is appended, and every statement of the loop brings its end nearer. -/
theorem drain_step (hl : Locks s) (hc : Control s) (hpass : s.mutex = some .loop)
    (hd : Draining s a) (h : Trans s a t) (ht : t.main.stopped = false) :
    t.mutex = some .loop ∧ t.appended = s.appended
      ∧ t.todo + (if a.isLoop then 1 else 0) ≤ s.todo := by
  have hin := hl.loop.2 hpass
  have hout : ∀ {pc : LoopPc M}, s.loop = pc → pc.inPass ≠ false := by
    rintro pc rfl hpc
    rw [hin] at hpc
    cases hpc
  have hplace := hc.place
  have hlen : ∀ {m : Obj M}, s.messages.head? = some m → 0 < s.messages.length := by
    intro m hm
    exact List.length_pos_of_mem (List.mem_of_mem_head? hm)
  cases h with
  | newList => exact ⟨hpass, rfl, le_rfl⟩
  | newQueue h => exact absurd rfl (hout (hl.absent (.inr h)))
  | deleteQueue | deleteList | clearNext | clearEnd | clearErase | clearRest => cases ht
  | start h | full h | empty h | busy h | sleep h | again h | ended h => exact absurd rfl (hout h)
  | locked h => exact absurd rfl (hout h)
  | unlock h => exact absurd h (hd _ _ rfl)
  | next h =>
    refine ⟨hpass, rfl, ?_⟩
    simp [State.todo, h, Act.isLoop]
  | drained h =>
    refine ⟨hpass, rfl, ?_⟩
    simp [State.todo, h, Act.isLoop]
  | take h hm =>
    rw [h] at hplace
    have := List.length_pos_of_ne_nil hplace
    refine ⟨hpass, by simp [State.appended, Event.appended?], ?_⟩
    simp only [State.todo, h, Act.isLoop, if_true]
    omega
  | known h | unknown h =>
    rw [h] at hplace
    have := hlen hplace
    refine ⟨hpass, by simp [State.appended, Event.appended?], ?_⟩
    simp only [State.todo, h, Act.isLoop, if_true]
    omega
  | execute h =>
    rw [h] at hplace
    have := hlen hplace
    refine ⟨hpass, by simp [State.appended, Event.appended?], ?_⟩
    simp only [State.todo, h, Act.isLoop, if_true]
    omega
  | abort h =>
    rw [h] at hplace
    have := List.length_pos_of_ne_nil hplace
    refine ⟨hpass, by simp [State.appended, Event.appended?], ?_⟩
    simp only [State.todo, h, Act.isLoop, if_true]
    omega
  | living h =>
    rw [h] at hplace
    have := List.length_pos_of_ne_nil hplace
    refine ⟨hpass, rfl, ?_⟩
    simp only [State.todo, h, Act.isLoop, if_true]
    omega
  | erase h hm =>
    rw [h] at hplace
    have := List.length_pos_of_ne_nil hplace
    refine ⟨hpass, by simp [State.appended, Event.appended?], ?_⟩
    simp only [State.todo, h, State.erase, Act.isLoop, if_true, List.length_tail]
    omega
  | query | queryBusy | queryRead => exact ⟨hpass, rfl, le_rfl⟩
  | queryLocked h hfree | lock hfree =>
    rw [hpass] at hfree
    cases hfree
  | queryUnlock h hend =>
    have := hl.query _ _ _ _ h
    rw [hpass] at this
    simp at this
  | addMessage h | release h =>
    rw [hpass] at h
    simp at h

theorem drain_run {as : List (Act M)} (h : Runs.Steps step Draining s as t)
    (ht : t.main.stopped = false) (hs : UpToExit s) (hpass : s.mutex = some .loop) :
    t.mutex = some .loop ∧ t.appended = s.appended ∧ t.todo + as.countP Act.isLoop ≤ s.todo := by
  refine h.trace_invariant (I := fun as u => u.main.stopped = false → u.mutex = some .loop
    ∧ u.appended = s.appended ∧ u.todo + as.countP Act.isLoop ≤ s.todo) ?_ ?_ ht
  · exact fun _ => ⟨hpass, rfl, by simp⟩
  · intro as u a v hrun hd hstep ih hv
    have h := trans_of_step hstep
    have hu := h.stopped hv
    obtain ⟨hl, hc, -, -⟩ := UpToExit.run hrun hu hs
    obtain ⟨hpass, happ, htodo⟩ := ih hu
    obtain ⟨hpass', happ', htodo'⟩ := drain_step hl hc hpass hd h hv
    refine ⟨hpass', happ'.trans happ, ?_⟩
    rw [List.countP_append, List.countP_singleton]
    omega

/-- During a pass the loop can always go on. -/
theorem pass_goes_on (hc : Control s) (hin : s.loop.inPass = true) (methodId : ℤ) (dying : Bool) :
    (loopStep s methodId dying).isSome = true := by
  have hplace := hc.place
  have hfront : s.messages ≠ [] → s.front.isSome = true := by
    intro hne
    obtain ⟨m, ms, hms⟩ := List.exists_cons_of_ne_nil hne
    simp [State.front, hms]
  rcases hpc : s.loop <;> rw [hpc] at hin hplace <;>
    simp only [LoopPc.inPass, Bool.false_eq_true] at hin <;> simp only [loopStep, hpc]
  case take => simpa using hfront hplace
  case erase => simpa using hfront hplace
  case isDying => split_ifs <;> rfl
  all_goals rfl

/-- The state after `try_lock` has succeeded. -/
def State.locked (s : State M) : State M := { s with mutex := some .loop, loop := .hasNext }

/-- Up to the exit: messages are delivered in the order in which they were appended, none twice.
While no pass has been aborted, a message is missing from the vector only when the loop has asked
its method id, and it was delivered unless the answer was 0. A pass comes to its end, and unless it
is aborted, the messages of the vector it began with are those it has handled. -/
theorem drained_in_order (h : Reachable s) (hs : s.main.stopped = false) :
    (s.delivered.Sublist s.appended ∧ (s.appended.map (·.id)).Nodup)
      ∧ (s.mutex = none → s.aborted = false →
        s.appended = s.handled.map (·.1) ++ s.messages
          ∧ s.delivered = (s.handled.filter (·.2 ≠ 0)).map (·.1))
      ∧ ∀ as t, s.loop = .tryLock → s.mutex = none → Runs.Steps step Draining s.locked as t →
        t.main.stopped = false →
          as.countP Act.isLoop ≤ 6 * s.messages.length + 1
            ∧ (t.loop ≠ .unlock → ∀ methodId dying, (loopStep t methodId dying).isSome = true)
            ∧ (t.loop = .unlock → t.aborted = false →
              t.handled.map (·.1) = s.handled.map (·.1) ++ s.messages ∧ t.messages = []) := by
  have hup := h.upToExit hs
  have hl := hup.locks
  obtain ⟨hhandled, hdelivered, -, -⟩ := hup.accounted
  refine ⟨⟨?_, hup.accounts.nodup⟩, fun hfree hab => ?_, fun as t hloop hfree hrun ht => ?_⟩
  · have hsub : s.delivered.Sublist (s.handled.map (·.1)) := by
      have hfilter := (List.filter_sublist (p := (fun x : Obj M × ℤ => decide (x.2 ≠ 0)))
        (l := s.handled)).map (·.1)
      rw [← hdelivered] at hfilter
      exact (List.sublist_append_left _ _).trans hfilter
    rw [hhandled]
    exact hsub.trans (List.sublist_append_left _ _)
  · -- nobody is inside, so the loop is not past the front
    have hout : s.loop.inPass = false := by
      by_contra hin
      have := hl.loop.1 (by simpa using hin)
      rw [hfree] at this
      cases this
    rw [hab] at hhandled
    rcases hpc : s.loop <;> rw [hpc] at hout hhandled hdelivered <;>
      simp only [LoopPc.inPass, Bool.true_eq_false] at hout <;>
      exact ⟨hhandled, by simpa [LoopPc.pending] using hdelivered⟩
  · have hna : s.aborted = false := hup.accounted.not_aborted (by simp [hloop, LoopPc.leaving])
    have hlocked : UpToExit s.locked := by
      have hstep : step s (.loop 0 false) = some s.locked := by
        simp [step, loopStep, hloop, hfree, State.locked]
      have hreach : Reachable s.locked := Runs.Reachable.step h hstep
      exact hreach.upToExit hs
    obtain ⟨hpass, happ, htodo⟩ := drain_run hrun ht hlocked rfl
    obtain ⟨hlt, hct, -, hhandledt, -, -, hunlockt⟩ := UpToExit.run hrun ht hlocked
    refine ⟨?_, fun _ methodId dying => pass_goes_on hct (hlt.loop.2 hpass) methodId dying,
      fun htl hab => ?_⟩
    · simp only [State.locked, State.todo] at htodo
      omega
    · have hnil := (hunlockt htl).resolve_left (by simp [hab])
      refine ⟨?_, hnil⟩
      rw [htl, hab, hnil, happ] at hhandledt
      have hs' : s.locked.appended = s.appended := rfl
      rw [hs', hhandled, hloop, hna] at hhandledt
      simpa [LoopPc.rest] using hhandledt.symm

/-- The loop is about to try the mutex, with two messages in the vector. -/
def twoMessagesRun : List (Act Message) :=
  [.main, .main, .lock (Message.create .plain {} 0 1 (ascii "message") [] 0 0), .addMessage,
    .unlock, .lock (Message.create .plain {} 0 1 (ascii "close") [] 0 0), .addMessage, .unlock,
    .loop 0 false, .loop 0 false]

def twoMessages : State Message := (Runs.exec step {} twoMessagesRun).getD {}

/-- For the first the host has no method, for the second it has. -/
def onePass : List (Act Message) :=
  [.loop 0 false, .loop 0 false, .loop 0 false, .loop 0 false, .loop 0 false, .loop 0 false,
    .loop 1 false, .loop 0 false, .loop 0 false, .loop 0 false, .loop 0 false]

def onePassEnd : State Message := (Runs.exec step twoMessages.locked onePass).getD {}

theorem onePass_drained :
    twoMessages.messages.length = 2
      ∧ onePass.countP Act.isLoop ≤ 13 ∧ onePassEnd.handled.map (·.1) = twoMessages.messages
      ∧ onePassEnd.handled.map (·.2) = [0, 1]
      ∧ onePassEnd.messages = []
      ∧ onePassEnd.delivered.Sublist onePassEnd.appended
      ∧ onePassEnd.delivered.map (·.id) = [1] := by
  have hreach : Reachable twoMessages := Runs.reachable_of_exec twoMessagesRun rfl
  have hrun : Runs.Steps step Draining twoMessages.locked onePass onePassEnd := by
    refine .cons nofun rfl (.cons nofun rfl (.cons nofun rfl (.cons nofun rfl ?_)))
    refine .cons nofun rfl (.cons nofun rfl (.cons nofun rfl (.cons nofun rfl ?_)))
    exact .cons nofun rfl (.cons nofun rfl (.cons nofun rfl (.nil _)))
  obtain ⟨hcount, -, hend⟩ :=
    (drained_in_order hreach rfl).2.2 onePass onePassEnd rfl rfl hrun rfl
  obtain ⟨hhandled, hempty⟩ := hend rfl rfl
  have hlocked : Reachable twoMessages.locked :=
    Runs.reachable_of_exec (twoMessagesRun ++ [.loop 0 false]) rfl
  obtain ⟨hdelivered, -⟩ := (drained_in_order (hlocked.trans hrun.run) rfl).1
  exact ⟨rfl, hcount, hhandled, rfl, hempty, hdelivered, rfl⟩

end Pipeline

end IxWebsocket
