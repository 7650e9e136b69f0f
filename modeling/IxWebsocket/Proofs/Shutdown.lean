import IxWebsocket.Plugin
import IxWebsocket.Proofs.Objects

/-!
# The end of the loop and of the list

Nothing makes the main thread wait for the loop: `~websocket_event_queue` sets a flag, which the
loop's first statement takes back when it comes later, and `~websocket_message_list` does not ask
for the mutex the loop holds. When the loop has started before the flag is set, and is out of its
pass before the list is deleted, the end is in order (`ordered_safe`).
-/

namespace IxWebsocket

namespace Pipeline

variable {M : Type*} {s t : State M} {a : Act M}

/-- The loop takes, delivers or erases a message. -/
def Event.byLoop : Event M → Bool
  | .take _ | .deliver _ | .erase _ => true
  | _ => false

/-- What may happen after `e`: once stopped the loop does not start, once the list is deleted the
loop does not touch it, and a message that was destroyed is not destroyed again or delivered. -/
structure Event.Before (e e' : Event M) : Prop where
  stop : e = .stop → e' ≠ .start
  deleted : e = .listDeleted → e'.byLoop = false
  destroyed : ∀ m, e.destroyed? = some m → e'.destroyed? ≠ some m ∧ e' ≠ .deliver m

structure Safe (s : State M) : Prop where
  exit : s.main.stopped = true → s.exit = true
  log : s.log.Pairwise Event.Before

structure Logged (s : State M) : Prop where
  stop : .stop ∈ s.log → s.main.stopped = true
  deleted : .listDeleted ∈ s.log → s.main.clearing = true

theorem Logged.step (hs : Logged s) (h : Trans s a t) : Logged t := by
  obtain ⟨hstop, hdeleted⟩ := hs
  cases h with
  | newList h => exact ⟨fun hl => by simpa [h, MainPc.stopped] using hstop hl,
      fun hl => by simpa [h, MainPc.clearing] using hdeleted hl⟩
  | newQueue h => exact ⟨fun hl => by simpa [h, MainPc.stopped] using hstop hl,
      fun hl => by simpa [h, MainPc.clearing] using hdeleted hl⟩
  | deleteQueue h =>
    exact ⟨fun _ => rfl, fun hl => by simpa [h, MainPc.clearing] using hdeleted (by simpa using hl)⟩
  | deleteList | clearNext | clearEnd | clearErase | clearRest => exact ⟨fun _ => rfl, fun _ => rfl⟩
  | start | take | known | unknown | execute | abort | erase | addMessage =>
    exact ⟨fun hl => hstop (by simpa using hl), fun hl => hdeleted (by simpa using hl)⟩
  | _ => exact ⟨hstop, hdeleted⟩

theorem Event.Before.of_harmless {e e' : Event M} (hstart : e' ≠ .start) (hloop : e'.byLoop = false)
    (hdestroyed : e'.destroyed? = none) : e.Before e' where
  stop _ := hstart
  deleted _ := hloop
  destroyed m _ := by
    refine ⟨by simp [hdestroyed], fun he => ?_⟩
    simp [he, Event.byLoop] at hloop

theorem pairwise_concat {α : Type*} {R : α → α → Prop} {l : List α} {b : α} (hl : l.Pairwise R)
    (hb : ∀ a ∈ l, R a b) : (l ++ [b]).Pairwise R :=
  List.pairwise_append.2 ⟨hl, List.pairwise_singleton _ _, fun a ha _ hb' =>
    List.mem_singleton.1 hb' ▸ hb a ha⟩

theorem mem_destroyed {e : Event M} {m : Obj M} (he : e ∈ s.log) (hm : e.destroyed? = some m) :
    m ∈ s.destroyed := List.mem_filterMap.2 ⟨e, he, hm⟩

theorem log_step (hlog : s.log.Pairwise Event.Before) (hl : Logged s) (hc : Control s)
    (hacc : Accounts s) (hok : Ordered s a) (h : Trans s a t) : t.log.Pairwise Event.Before := by
  have hplace := hc.place
  -- the loop is at work, so the list is not deleted
  have hdeleted : ∀ {pc : LoopPc M} {e : Event M}, s.loop = pc → pc.idle = false → e ∈ s.log →
      e = .listDeleted → False := by
    rintro pc e hpc hi he rfl
    have := hl.deleted he
    rw [hc.not_clearing (hpc ▸ hi)] at this
    cases this
  -- what stands in the vector has not been destroyed
  have hfront : ∀ {m : Obj M} {e : Event M}, m ∈ s.messages → e ∈ s.log →
      e.destroyed? ≠ some m := fun hm he hd =>
    hacc.not_destroyed hm (mem_destroyed he hd)
  cases h with
  | start h =>
    refine pairwise_concat hlog fun e he =>
      ⟨?_, fun _ => rfl, fun m _ => by simp [Event.destroyed?]⟩
    rintro rfl
    have := hok.start _ _ rfl h
    rw [hl.stop he] at this
    cases this
  | take h hm =>
    refine pairwise_concat hlog fun e he => ⟨by simp, fun hd => (hdeleted h rfl he hd).elim, ?_⟩
    intro m' _
    simp [Event.destroyed?]
  | @execute methodId dying m h =>
    rw [h] at hplace
    have hm : m ∈ s.messages := List.mem_of_mem_head? hplace
    refine pairwise_concat hlog fun e he => ⟨by simp, fun hd => (hdeleted h rfl he hd).elim, ?_⟩
    rintro m' hm'
    refine ⟨by simp [Event.destroyed?], fun heq => ?_⟩
    cases heq
    exact hfront hm he hm'
  | @erase methodId dying m h hm =>
    rw [h] at hplace
    have hmem : m ∈ s.messages := by
      rw [cons_of_front hplace hm]
      exact List.mem_cons_self
    refine pairwise_concat hlog fun e he => ⟨by simp, fun hd => (hdeleted h rfl he hd).elim, ?_⟩
    rintro m' hm'
    refine ⟨fun heq => ?_, by simp⟩
    cases heq
    exact hfront hmem he hm'
  | @clearErase m h hm =>
    have hmem : m ∈ s.messages := by
      rw [cons_of_front (hc.clearErase h) hm]
      exact List.mem_cons_self
    refine pairwise_concat hlog fun e he => ⟨by simp, fun _ => rfl, ?_⟩
    rintro m' hm'
    refine ⟨fun heq => ?_, by simp⟩
    cases heq
    exact hfront hmem he hm'
  | deleteQueue | clearRest | known | unknown | abort | addMessage =>
    exact pairwise_concat hlog fun e _ => .of_harmless (by simp) rfl rfl
  | _ => exact hlog

/-- In every run in which the loop does not start after it was stopped, and is out of its pass
when the list is deleted, the end is in order. -/
theorem ordered_safe {as : List (Act M)} (h : Runs.Steps step Ordered {} as s) : Safe s := by
  have hinv := h.invariant
    (I := fun s => (Control s ∧ Accounts s) ∧ Logged s ∧ s.log.Pairwise Event.Before)
    (fun s a t hok hstep ⟨⟨hc, hacc⟩, hl, hlog⟩ => by
      have h := trans_of_step hstep
      exact ⟨⟨hc.step hok h, hacc.step hc h⟩, hl.step h, log_step hlog hl hc hacc hok h⟩)
    ⟨⟨.init, .init⟩, ⟨by simp, by simp⟩, .nil⟩
  exact ⟨hinv.1.1.stopped, hinv.2.2⟩

/-! ## Three exits -/

/-- The loop starts, finds nothing and goes to sleep; then the plugin goes down. -/
def orderlyExit : List (Act Message) :=
  [.main, .main, .loop 0 false, .loop 0 false, .main, .main, .main, .main, .loop 0 false,
    .loop 0 false]

def orderlyEnd : State Message := (Runs.exec step {} orderlyExit).getD {}

theorem orderlyEnd_safe : orderlyEnd.main = .refsClearAll ∧ Safe orderlyEnd := by
  have hrun : Runs.Steps step Ordered {} orderlyExit orderlyEnd := by
    refine .cons ⟨nofun, nofun⟩ rfl (.cons ⟨nofun, nofun⟩ rfl ?_)
    refine .cons ⟨fun _ _ _ _ => rfl, nofun⟩ rfl (.cons ⟨nofun, nofun⟩ rfl ?_)
    refine .cons ⟨nofun, nofun⟩ rfl (.cons ⟨nofun, fun _ _ => rfl⟩ rfl ?_)
    refine .cons ⟨nofun, nofun⟩ rfl (.cons ⟨nofun, nofun⟩ rfl ?_)
    exact .cons ⟨nofun, nofun⟩ rfl (.cons ⟨nofun, nofun⟩ rfl (.nil _))
  exact ⟨rfl, ordered_safe hrun⟩

/-- The loop runs its first statement after the queue was deleted. -/
def lateStart : State Message :=
  (Runs.exec step {} [.main, .main, .main, .loop 0 false]).getD {}

def closeMessage : Message := Message.create .plain {} 0 1 (ascii "close") [] 0 0

/-- The list is cleared while the loop holds its first message. -/
def lateDelivery : State Message :=
  (Runs.exec step {} [.main, .main, .lock closeMessage, .addMessage, .unlock, .loop 0 false,
    .loop 0 false, .loop 0 false, .loop 0 false, .loop 0 false, .main, .main, .main, .main,
    .loop 1 false, .loop 1 false]).getD {}

/-- In the first of these two runs the exit flag is false again, in the second a message is
delivered that was destroyed. -/
theorem disordered_unsafe :
    (Reachable lateStart ∧ lateStart.main.stopped = true ∧ lateStart.exit = false)
      ∧ Reachable lateDelivery
      ∧ lateDelivery.log = [.append ⟨0, closeMessage⟩, .start, .take ⟨0, closeMessage⟩, .stop,
        .clear ⟨0, closeMessage⟩, .methodId ⟨0, closeMessage⟩ 1, .deliver ⟨0, closeMessage⟩] := by
  refine ⟨⟨?_, rfl, rfl⟩, ?_, rfl⟩
  · exact Runs.reachable_of_exec [.main, .main, .main, .loop 0 false] rfl
  · exact Runs.reachable_of_exec [.main, .main, .lock closeMessage, .addMessage, .unlock,
      .loop 0 false, .loop 0 false, .loop 0 false, .loop 0 false, .loop 0 false, .main, .main,
      .main, .main, .loop 1 false, .loop 1 false] rfl

end Pipeline

end IxWebsocket
