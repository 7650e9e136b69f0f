import IxWebsocket.Pipeline

/-!
# The statements of the threads, one by one

What one step of the pipeline does, with the condition under which it does it (`trans_of_step`).
The mutex says who is inside: the loop during a pass, a query while it reads (`Locks`).
-/

namespace IxWebsocket

namespace Pipeline

variable {M : Type*} {s t : State M} {a : Act M}

inductive Trans (s : State M) : Act M → State M → Prop
  | newList (h : s.main = .newList) : Trans s .main { s with main := .newQueue }
  | newQueue (h : s.main = .newQueue) :
      Trans s .main { s with main := .deleteQueue, loop := .start }
  | deleteQueue (h : s.main = .deleteQueue) :
      Trans s .main { s with exit := true, main := .deleteList, log := s.log ++ [.stop] }
  | deleteList (h : s.main = .deleteList) : Trans s .main { s with main := .clearHasNext }
  | clearNext (h : s.main = .clearHasNext) (hne : s.messages ≠ []) :
      Trans s .main { s with main := .clearErase }
  | clearEnd (h : s.main = .clearHasNext) (hnil : s.messages = []) :
      Trans s .main { s with main := .clearRest }
  | clearErase {m : Obj M} (h : s.main = .clearErase) (hm : s.front = some m) :
      Trans s .main { s.erase m with main := .clearHasNext, log := s.log ++ [.clear m] }
  | clearRest (h : s.main = .clearRest) : Trans s .main { s with
      messages := [], main := .refsClearAll, log := s.log ++ [.listDeleted] }
  | start {methodId : ℤ} {dying : Bool} (h : s.loop = .start) : Trans s (.loop methodId dying)
      { s with exit := false, loop := .size, log := s.log ++ [.start] }
  | full {methodId : ℤ} {dying : Bool} (h : s.loop = .size) (hne : s.messages ≠ []) :
      Trans s (.loop methodId dying) { s with loop := .tryLock }
  | empty {methodId : ℤ} {dying : Bool} (h : s.loop = .size) (hnil : s.messages = []) :
      Trans s (.loop methodId dying) { s with loop := .sleep }
  | locked {methodId : ℤ} {dying : Bool} (h : s.loop = .tryLock) (hfree : s.mutex = none) :
      Trans s (.loop methodId dying) { s with mutex := some .loop, loop := .hasNext }
  | busy {methodId : ℤ} {dying : Bool} (h : s.loop = .tryLock) (hfree : s.mutex ≠ none) :
      Trans s (.loop methodId dying) { s with loop := .again }
  | next {methodId : ℤ} {dying : Bool} (h : s.loop = .hasNext) (hne : s.messages ≠ []) :
      Trans s (.loop methodId dying) { s with loop := .take }
  | drained {methodId : ℤ} {dying : Bool} (h : s.loop = .hasNext) (hnil : s.messages = []) :
      Trans s (.loop methodId dying) { s with loop := .unlock }
  | take {methodId : ℤ} {dying : Bool} {m : Obj M} (h : s.loop = .take)
      (hm : s.front = some m) : Trans s (.loop methodId dying)
      { s with loop := .getMethodId m, log := s.log ++ [.take m] }
  | known {methodId : ℤ} {dying : Bool} {m : Obj M} (h : s.loop = .getMethodId m)
      (hid : methodId ≠ 0) : Trans s (.loop methodId dying)
      { s with loop := .execute m, log := s.log ++ [.methodId m methodId] }
  | unknown {dying : Bool} {m : Obj M} (h : s.loop = .getMethodId m) : Trans s (.loop 0 dying)
      { s with loop := .erase, log := s.log ++ [.methodId m 0] }
  | execute {methodId : ℤ} {dying : Bool} {m : Obj M} (h : s.loop = .execute m) :
      Trans s (.loop methodId dying) { s with loop := .isDying, log := s.log ++ [.deliver m] }
  | abort {methodId : ℤ} (h : s.loop = .isDying) : Trans s (.loop methodId true)
      { s with exit := true, loop := .unlock, log := s.log ++ [.abort] }
  | living {methodId : ℤ} (h : s.loop = .isDying) :
      Trans s (.loop methodId false) { s with loop := .erase }
  | erase {methodId : ℤ} {dying : Bool} {m : Obj M} (h : s.loop = .erase)
      (hm : s.front = some m) : Trans s (.loop methodId dying)
      { s.erase m with loop := .hasNext, log := s.log ++ [.erase m] }
  | unlock {methodId : ℤ} {dying : Bool} (h : s.loop = .unlock) :
      Trans s (.loop methodId dying) { s with mutex := none, loop := .again }
  | sleep {methodId : ℤ} {dying : Bool} (h : s.loop = .sleep) :
      Trans s (.loop methodId dying) { s with loop := .again }
  | again {methodId : ℤ} (h : s.loop = .again) (hexit : s.exit = false) :
      Trans s (.loop methodId false) { s with loop := .size }
  | ended {methodId : ℤ} {dying : Bool} (h : s.loop = .again) :
      Trans s (.loop methodId dying) { s with loop := .ended }
  | query {n : ℕ} {select : M → Bool} (h : s.queries n = .idle) : Trans s (.query n select)
      { s with queries := Function.update s.queries n (.tryLock select) }
  | queryLocked {n : ℕ} {select f : M → Bool} (h : s.queries n = .tryLock f)
      (hfree : s.mutex = none) : Trans s (.query n select) { s with
        mutex := some (.query n)
        queries := Function.update s.queries n (.reading f 0 []) }
  | queryBusy {n : ℕ} {select f : M → Bool} (h : s.queries n = .tryLock f)
      (hfree : s.mutex ≠ none) : Trans s (.query n select)
      { s with queries := Function.update s.queries n (.done []) }
  | queryRead {n i : ℕ} {select f : M → Bool} {r : List (Obj M)} {m : Obj M}
      (h : s.queries n = .reading f i r) (hm : s.messages[i]? = some m) :
      Trans s (.query n select) { s with
        queries := Function.update s.queries n
          (.reading f (i + 1) (if f m.msg then r ++ [m] else r)) }
  | queryUnlock {n i : ℕ} {select f : M → Bool} {r : List (Obj M)}
      (h : s.queries n = .reading f i r) (hend : s.messages[i]? = none) :
      Trans s (.query n select)
      { s with mutex := none, queries := Function.update s.queries n (.done r) }
  | lock {msg : M} (hfree : s.mutex = none) :
      Trans s (.lock msg) { s with mutex := some (.adding msg) }
  | addMessage {msg : M} (h : s.mutex = some (.adding msg)) : Trans s .addMessage { s with
      messages := s.messages ++ [⟨s.objects, msg⟩]
      mutex := some .added
      objects := s.objects + 1
      log := s.log ++ [.append ⟨s.objects, msg⟩] }
  | release (h : s.mutex = some .added) : Trans s .unlock { s with mutex := none }

theorem trans_of_mainStep (h : mainStep s = some t) : Trans s .main t := by
  unfold mainStep at h
  split at h
  case h_5 hmain =>
    simp only [Option.some.injEq] at h
    subst h
    split_ifs with hm
    · exact .clearEnd hmain (List.isEmpty_iff.1 hm)
    · exact .clearNext hmain (fun hnil => hm (List.isEmpty_iff.2 hnil))
  case h_6 hmain =>
    obtain ⟨m, hm, rfl⟩ := Option.map_eq_some_iff.1 h
    exact .clearErase hmain hm
  case h_8 => cases h
  all_goals
    rename_i hmain
    simp only [Option.some.injEq] at h
    subst h
    constructor
    exact hmain

theorem trans_of_loopStep {methodId : ℤ} {dying : Bool} (h : loopStep s methodId dying = some t) :
    Trans s (.loop methodId dying) t := by
  unfold loopStep at h
  split at h
  · cases h
  · rename_i hloop
    cases h
    exact .start hloop
  · rename_i hloop
    cases h
    split_ifs with hm
    · exact .full hloop (fun hnil => hm (by rw [hnil]; rfl))
    · exact .empty hloop (List.eq_nil_of_length_eq_zero (not_not.1 hm))
  · rename_i hloop
    split at h <;> rename_i hmutex <;> cases h
    · exact .locked hloop hmutex
    · exact .busy hloop (by rw [hmutex]; simp)
  · rename_i hloop
    cases h
    split_ifs with hm
    · exact .drained hloop (List.isEmpty_iff.1 hm)
    · exact .next hloop (fun hnil => hm (List.isEmpty_iff.2 hnil))
  · rename_i hloop
    obtain ⟨m, hm, rfl⟩ := Option.map_eq_some_iff.1 h
    exact .take hloop hm
  · rename_i m hloop
    cases h
    by_cases hid : methodId = 0
    · subst hid
      exact .unknown hloop
    · simp only [ne_eq, hid, not_false_eq_true, if_true]
      exact .known hloop hid
  · rename_i m hloop
    cases h
    exact .execute hloop
  · rename_i hloop
    cases dying
    · cases h
      exact .living hloop
    · cases h
      exact .abort hloop
  · rename_i hloop
    obtain ⟨m, hm, rfl⟩ := Option.map_eq_some_iff.1 h
    exact .erase hloop hm
  · rename_i hloop
    cases h
    exact .unlock hloop
  · rename_i hloop
    cases h
    exact .sleep hloop
  · rename_i hloop
    cases h
    split_ifs with hexit
    · simp only [Bool.and_eq_true, Bool.not_eq_true'] at hexit
      obtain ⟨hexit, rfl⟩ := hexit
      exact .again hloop hexit
    · exact .ended hloop
  · cases h

theorem trans_of_queryStep {n : ℕ} {select : M → Bool} (h : queryStep s n select = some t) :
    Trans s (.query n select) t := by
  unfold queryStep at h
  split at h
  · rename_i hq
    cases h
    exact .query hq
  · rename_i f hq
    split at h <;> rename_i hmutex <;> cases h
    · exact .queryLocked hq hmutex
    · exact .queryBusy hq (by rw [hmutex]; simp)
  · rename_i f i r hq
    split at h <;> rename_i hm <;> cases h
    · exact .queryRead hq hm
    · exact .queryUnlock hq hm
  · cases h

theorem trans_of_step (h : step s a = some t) : Trans s a t := by
  cases a with
  | main => exact trans_of_mainStep h
  | loop methodId dying => exact trans_of_loopStep h
  | query n select => exact trans_of_queryStep h
  | lock msg =>
    simp only [step] at h
    split at h
    · rename_i hmutex
      cases h
      exact .lock hmutex
    · cases h
  | addMessage =>
    simp only [step] at h
    split at h
    · rename_i msg hmutex
      cases h
      exact .addMessage hmutex
    · cases h
  | unlock =>
    simp only [step] at h
    split at h
    · rename_i hmutex
      cases h
      exact .release hmutex
    · cases h

/-! ## Who is inside -/

/-- The loop holds the mutex. -/
def LoopPc.inPass : LoopPc M → Bool
  | .hasNext | .take | .getMethodId _ | .execute _ | .isDying | .erase | .unlock => true
  | _ => false

structure Locks (s : State M) : Prop where
  loop : s.loop.inPass = true ↔ s.mutex = some .loop
  query : ∀ n f i r, s.queries n = .reading f i r → s.mutex = some (.query n)
  absent : s.main = .newList ∨ s.main = .newQueue → s.loop = .absent

theorem Locks.init : Locks ({} : State M) where
  loop := by simp [LoopPc.inPass]
  query := by simp
  absent := by simp

/-- A query that is not reading does not mind what another one does. -/
theorem reading_update {n k : ℕ} {q : QueryPc M} (hq : ∀ f i r, q ≠ .reading f i r)
    {f : M → Bool} {i : ℕ} {r : List (Obj M)}
    (h : Function.update s.queries n q k = .reading f i r) :
    k ≠ n ∧ s.queries k = .reading f i r := by
  by_cases hk : k = n
  · subst hk
    rw [Function.update_self] at h
    exact absurd h (hq f i r)
  · rw [Function.update_of_ne hk] at h
    exact ⟨hk, h⟩

theorem Locks.step (hs : Locks s) (h : Trans s a t) : Locks t := by
  obtain ⟨hloop, hquery, habsent⟩ := hs
  cases h with
  | newList h => exact ⟨hloop, hquery, fun _ => habsent (.inl h)⟩
  | newQueue h =>
    rw [habsent (.inr h)] at hloop
    exact ⟨hloop, hquery, by simp⟩
  | query h =>
    exact ⟨hloop, fun k f i r hk => hquery k f i r (reading_update (by simp) hk).2, habsent⟩
  | queryBusy h =>
    exact ⟨hloop, fun k f i r hk => hquery k f i r (reading_update (by simp) hk).2, habsent⟩
  | @queryLocked n select f h hfree =>
    refine ⟨by simpa [hfree] using hloop, fun k f' i r hk => ?_, habsent⟩
    by_cases hkn : k = n
    · rw [hkn]
    · simp only [Function.update_of_ne hkn] at hk
      exact absurd (hquery k f' i r hk) (by simp [hfree])
  | @queryRead n i select f r m h hm =>
    refine ⟨hloop, fun k f' i' r' hk => ?_, habsent⟩
    by_cases hkn : k = n
    · rw [hkn]
      exact hquery n f i r h
    · simp only [Function.update_of_ne hkn] at hk
      exact hquery k f' i' r' hk
  | @queryUnlock n i select f r h hend =>
    have hmutex := hquery n f i r h
    refine ⟨by simpa [hmutex] using hloop, fun k f' i' r' hk => ?_, habsent⟩
    obtain ⟨hkn, hk⟩ := reading_update (by simp) hk
    have heq := hmutex.symm.trans (hquery k f' i' r' hk)
    simp only [Option.some.injEq, Holder.query.injEq] at heq
    exact absurd heq.symm hkn
  | deleteQueue | deleteList | clearNext | clearEnd | clearErase | clearRest =>
    exact ⟨hloop, hquery, by simp⟩
  | locked h hfree =>
    refine ⟨by simp [LoopPc.inPass], fun k f i r hk => ?_, fun hm => by simp [habsent hm] at h⟩
    exact absurd (hquery k f i r hk) (by simp [hfree])
  | unlock h =>
    refine ⟨by simp [LoopPc.inPass], fun k f i r hk => ?_, fun hm => by simp [habsent hm] at h⟩
    have hmutex := hloop.1 (by rw [h]; rfl)
    exact absurd (hquery k f i r hk) (by simp [hmutex])
  | lock hfree =>
    refine ⟨by simpa [hfree] using hloop, fun k f i r hk => ?_, habsent⟩
    exact absurd (hquery k f i r hk) (by simp [hfree])
  | addMessage h =>
    refine ⟨by simpa [h] using hloop, fun k f i r hk => ?_, habsent⟩
    exact absurd (hquery k f i r hk) (by simp [h])
  | release h =>
    refine ⟨by simpa [h] using hloop, fun k f i r hk => ?_, habsent⟩
    exact absurd (hquery k f i r hk) (by simp [h])
  | _ h =>
    -- the loop goes on inside, or outside
    refine ⟨?_, hquery, fun hm => by simp [habsent hm] at h⟩
    rw [h] at hloop
    exact hloop

theorem Reachable.locks (h : Reachable s) : Locks s :=
  h.invariant (fun _ _ _ hstep hs => hs.step (trans_of_step hstep)) .init

end Pipeline

end IxWebsocket
