import IxWebsocket.Proofs.Transitions

/-!
# The message objects from their append to their end

As long as the main thread waits for the loop to be out of its pass before it deletes the list
(`Ordered`), one thread at a time takes objects from the front. Then the front is there when it is
read (`Control`), and what was destroyed and what is in the vector are different objects, in the
order in which they were appended (`Accounts`).
-/

namespace IxWebsocket

namespace Pipeline

variable {M : Type*} {s t : State M} {a : Act M}

/-! ## What the log says -/

def Event.appended? : Event M → Option (Obj M)
  | .append m => some m
  | _ => none

def Event.delivered? : Event M → Option (Obj M)
  | .deliver m => some m
  | _ => none

def Event.destroyed? : Event M → Option (Obj M)
  | .erase m | .clear m => some m
  | _ => none

/-- An object and what `PA_GetMethodID` answered for it. -/
def Event.handled? : Event M → Option (Obj M × ℤ)
  | .methodId m id => some (m, id)
  | _ => none

def State.appended (s : State M) : List (Obj M) := s.log.filterMap Event.appended?

def State.delivered (s : State M) : List (Obj M) := s.log.filterMap Event.delivered?

def State.destroyed (s : State M) : List (Obj M) := s.log.filterMap Event.destroyed?

def State.handled (s : State M) : List (Obj M × ℤ) := s.log.filterMap Event.handled?

/-! ## Runs in which the main thread waits -/

def MainPc.stopped : MainPc → Bool
  | .newList | .newQueue | .deleteQueue => false
  | _ => true

def MainPc.clearing : MainPc → Bool
  | .newList | .newQueue | .deleteQueue | .deleteList => false
  | _ => true

/-- Unless it is told to go on, the loop is done with the list. -/
def LoopPc.idle : LoopPc M → Bool
  | .absent | .start | .unlock | .sleep | .again | .ended => true
  | _ => false

/-- The loop does not start once it was stopped, and is done with the list when that goes. -/
structure Ordered (s : State M) (a : Act M) : Prop where
  start : ∀ methodId dying, a = .loop methodId dying → s.loop = .start → s.main.stopped = false
  delete : a = .main → s.main = .deleteList → s.loop.idle = true

/-- What the vector holds while the loop is at a statement. -/
def LoopPc.Place : LoopPc M → List (Obj M) → Prop
  | .take, messages | .isDying, messages | .erase, messages => messages ≠ []
  | .getMethodId m, messages | .execute m, messages => messages.head? = some m
  | _, _ => True

structure Control (s : State M) : Prop where
  place : s.loop.Place s.messages
  clearErase : s.main = .clearErase → s.messages ≠ []
  idle : s.main.clearing = true → s.loop.idle = true
  stopped : s.main.stopped = true → s.exit = true

/-- What became of the objects: some are destroyed, and the vector holds younger ones. -/
structure Accounts (s : State M) : Prop where
  nodup : (s.appended.map (·.id)).Nodup
  fresh : ∀ m ∈ s.appended, m.id < s.objects
  whole : (s.destroyed ++ s.messages).Sublist s.appended

theorem Control.init : Control ({} : State M) where
  place := trivial
  clearErase := by simp
  idle := by simp [MainPc.clearing]
  stopped := by simp [MainPc.stopped]

theorem Accounts.init : Accounts ({} : State M) where
  nodup := by simp [State.appended]
  fresh := by simp [State.appended]
  whole := by simp [State.appended, State.destroyed]

/-! ## Control -/

theorem MainPc.stopped_of_clearing {pc : MainPc} (h : pc.clearing = true) : pc.stopped = true := by
  cases pc <;> simp_all [MainPc.clearing, MainPc.stopped]

theorem LoopPc.place_of_idle {pc : LoopPc M} (h : pc.idle = true) (messages : List (Obj M)) :
    pc.Place messages := by
  cases pc <;> simp_all [LoopPc.idle, LoopPc.Place]

theorem LoopPc.Place.append {pc : LoopPc M} {messages : List (Obj M)} (h : pc.Place messages)
    (m : Obj M) : pc.Place (messages ++ [m]) := by
  cases pc <;> simp_all [LoopPc.Place]

theorem cons_of_front {m : Obj M} (hne : s.messages ≠ []) (hm : s.front = some m) :
    s.messages = m :: s.messages.tail := by
  rcases hs : s.messages with _ | ⟨m', ms⟩
  · exact absurd hs hne
  · simp only [State.front, hs, List.head?_cons, Option.some_or, Option.some.injEq] at hm
    rw [hm]
    rfl

/-- While the loop is at work on the list, the main thread is not. -/
theorem Control.not_clearing (hs : Control s) (h : s.loop.idle = false) :
    s.main.clearing = false := by
  by_contra hc
  rw [hs.idle (by simpa using hc)] at h
  cases h

theorem Control.not_clearErase (hs : Control s) (h : s.loop.idle = false) :
    s.main ≠ .clearErase := by
  intro hc
  have := hs.not_clearing h
  simp [hc, MainPc.clearing] at this

theorem Control.step (hs : Control s) (hok : Ordered s a) (h : Trans s a t) : Control t := by
  have hbusy : ∀ {pc : LoopPc M}, s.loop = pc → pc.idle = false → ¬ s.main.clearing = true := by
    intro pc hpc hi
    simp [hs.not_clearing (hpc ▸ hi)]
  have hne : ∀ {m : Obj M}, s.messages.head? = some m → s.messages ≠ [] := by
    intro m hm hnil
    simp [hnil] at hm
  have hnotErase := hs.not_clearErase
  obtain ⟨hplace, hclear, hidle, hstopped⟩ := hs
  cases h with
  | newList h => exact ⟨hplace, by simp, by simp [MainPc.clearing], by simp [MainPc.stopped]⟩
  | newQueue h => exact ⟨trivial, by simp, by simp [MainPc.clearing], by simp [MainPc.stopped]⟩
  | deleteQueue h => exact ⟨hplace, by simp, by simp [MainPc.clearing], fun _ => rfl⟩
  | deleteList h =>
    refine ⟨hplace, by simp, fun _ => hok.delete rfl h, fun _ => hstopped ?_⟩
    simp [h, MainPc.stopped]
  | clearNext h hne =>
    refine ⟨hplace, fun _ => hne, fun _ => hidle ?_, fun _ => hstopped ?_⟩ <;>
      simp [h, MainPc.clearing, MainPc.stopped]
  | clearEnd h hnil =>
    refine ⟨hplace, by simp, fun _ => hidle ?_, fun _ => hstopped ?_⟩ <;>
      simp [h, MainPc.clearing, MainPc.stopped]
  | clearErase h hm =>
    have hl := hidle (by simp [h, MainPc.clearing])
    refine ⟨LoopPc.place_of_idle hl _, by simp, fun _ => hl, fun _ => hstopped ?_⟩
    simp [h, MainPc.stopped]
  | clearRest h =>
    have hl := hidle (by simp [h, MainPc.clearing])
    refine ⟨LoopPc.place_of_idle hl _, by simp, fun _ => hl, fun _ => hstopped ?_⟩
    simp [h, MainPc.stopped]
  | start h =>
    have hm := hok.start _ _ rfl h
    refine ⟨trivial, hclear, fun hc => ?_, fun hc => ?_⟩
    · rw [MainPc.stopped_of_clearing hc] at hm
      cases hm
    · rw [hc] at hm
      cases hm
  | query | queryLocked | queryBusy | queryRead | queryUnlock | lock | release =>
    exact ⟨hplace, hclear, hidle, hstopped⟩
  | addMessage h => exact ⟨hplace.append _, by simp, hidle, hstopped⟩
  | unlock h => exact ⟨trivial, hclear, fun _ => rfl, hstopped⟩
  | sleep h => exact ⟨trivial, hclear, fun _ => rfl, hstopped⟩
  | ended h => exact ⟨trivial, hclear, fun _ => rfl, hstopped⟩
  | again h hexit =>
    refine ⟨trivial, hclear, fun hc => ?_, hstopped⟩
    rw [hstopped (MainPc.stopped_of_clearing hc)] at hexit
    cases hexit
  | full h => exact ⟨trivial, hclear, fun hc => absurd hc (hbusy h rfl), hstopped⟩
  | empty h => exact ⟨trivial, hclear, fun _ => rfl, hstopped⟩
  | locked h => exact ⟨trivial, hclear, fun hc => absurd hc (hbusy h rfl), hstopped⟩
  | busy h => exact ⟨trivial, hclear, fun _ => rfl, hstopped⟩
  | next h hnonempty => exact ⟨hnonempty, hclear, fun hc => absurd hc (hbusy h rfl), hstopped⟩
  | drained h => exact ⟨trivial, hclear, fun _ => rfl, hstopped⟩
  | take h hm =>
    rw [h] at hplace
    refine ⟨?_, hclear, fun hc => absurd hc (hbusy h rfl), hstopped⟩
    have hcons := cons_of_front hplace hm
    simp only [LoopPc.Place]
    rw [hcons]
    rfl
  | known h =>
    rw [h] at hplace
    exact ⟨hplace, hclear, fun hc => absurd hc (hbusy h rfl), hstopped⟩
  | unknown h =>
    rw [h] at hplace
    exact ⟨hne hplace, hclear, fun hc => absurd hc (hbusy h rfl), hstopped⟩
  | execute h =>
    rw [h] at hplace
    exact ⟨hne hplace, hclear, fun hc => absurd hc (hbusy h rfl), hstopped⟩
  | abort h => exact ⟨trivial, hclear, fun _ => rfl, fun _ => rfl⟩
  | living h =>
    rw [h] at hplace
    exact ⟨hplace, hclear, fun hc => absurd hc (hbusy h rfl), hstopped⟩
  | erase h hm =>
    exact ⟨trivial, fun hc => absurd hc (hnotErase (by rw [h]; rfl)),
      fun hc => absurd hc (hbusy h rfl), hstopped⟩

/-! ## Accounts -/

/-- What a step does to the objects: a new one comes last, or some go at the front, or none. -/
theorem Trans.objects (hs : Control s) (h : Trans s a t) :
    (t.appended = s.appended ∧ t.objects = s.objects
        ∧ (t.destroyed ++ t.messages).Sublist (s.destroyed ++ s.messages))
      ∨ ∃ m : Obj M, m.id = s.objects ∧ t.objects = s.objects + 1
        ∧ t.appended = s.appended ++ [m] ∧ t.destroyed = s.destroyed
        ∧ t.messages = s.messages ++ [m] := by
  have hplace := hs.place
  cases h with
  | addMessage h =>
    refine .inr ⟨⟨s.objects, _⟩, rfl, rfl, ?_, ?_, rfl⟩ <;>
      simp [State.appended, State.destroyed, Event.appended?, Event.destroyed?]
  | clearErase h hm =>
    have hcons := cons_of_front (hs.clearErase h) hm
    refine .inl ⟨by simp [State.appended, Event.appended?], rfl, ?_⟩
    rw [hcons]
    simp [State.destroyed, State.erase, Event.destroyed?]
  | erase h hm =>
    rw [h] at hplace
    have hcons := cons_of_front hplace hm
    refine .inl ⟨by simp [State.appended, Event.appended?], rfl, ?_⟩
    rw [hcons]
    simp [State.destroyed, State.erase, Event.destroyed?]
  | clearRest h =>
    refine .inl ⟨by simp [State.appended, Event.appended?], rfl, ?_⟩
    simp [State.destroyed, Event.destroyed?]
  | _ =>
    refine .inl ⟨?_, rfl, ?_⟩ <;>
      simp [State.appended, State.destroyed, Event.appended?, Event.destroyed?]

theorem Accounts.step (hs : Accounts s) (hc : Control s) (h : Trans s a t) : Accounts t := by
  rcases h.objects hc with ⟨happ, hobj, hsub⟩ | ⟨m, hid, hobj, happ, hdes, hmes⟩
  · exact ⟨happ ▸ hs.nodup, by rw [happ, hobj]; exact hs.fresh, happ ▸ hsub.trans hs.whole⟩
  · refine ⟨?_, ?_, ?_⟩
    · rw [happ, List.map_append, List.map_singleton, List.nodup_append]
      refine ⟨hs.nodup, List.nodup_singleton _, ?_⟩
      intro i hi j hj hij
      obtain ⟨m', hm', rfl⟩ := List.mem_map.1 hi
      have := hs.fresh m' hm'
      rw [List.mem_singleton] at hj
      omega
    · rw [happ, hobj]
      intro m' hm'
      rcases List.mem_append.1 hm' with hm' | hm'
      · have := hs.fresh m' hm'
        omega
      · rw [List.mem_singleton.1 hm']
        omega
    · rw [happ, hdes, hmes, ← List.append_assoc]
      exact hs.whole.append_right [m]

/-- What is still in the vector has not been destroyed. -/
theorem Accounts.not_destroyed (hs : Accounts s) {m : Obj M} (hm : m ∈ s.messages) :
    m ∉ s.destroyed := by
  have hnodup := List.Nodup.sublist hs.whole (List.Nodup.of_map _ hs.nodup)
  exact fun hd => (List.nodup_append.1 hnodup).2.2 m hd m hm rfl

end Pipeline

end IxWebsocket
