import Mathlib

/-!
# Runs of a transition system

A system is a partial step function `next : σ → α → Option σ`, where `α` names the step taken.
`Steps next ok` are its runs whose every step meets the side condition `ok`, and `Run next` all
its runs. What each such step keeps, each such run keeps (`Steps.invariant`). One system simulates
another when each step of the one is matched by a run of the other; then each run is
(`Simulates.run`).
-/

namespace Runs

variable {σ α : Type*} (next : σ → α → Option σ) (ok : σ → α → Prop)

/-- The runs from `s` to `t` along `as` whose every step meets `ok`. -/
inductive Steps : σ → List α → σ → Prop
  | nil (s : σ) : Steps s [] s
  | cons {s t u : σ} {a : α} {as : List α} (hok : ok s a) (hstep : next s a = some t)
      (hrun : Steps t as u) : Steps s (a :: as) u

/-- The runs from `s` to `t` along `as`. -/
abbrev Run : σ → List α → σ → Prop := Steps next fun _ _ => True

/-- The states some run from `init` ends in. -/
def Reachable (init s : σ) : Prop := ∃ as, Run next init as s

/-- The run along `as`, when every step of it can be taken. -/
def exec : σ → List α → Option σ
  | s, [] => some s
  | s, a :: as => (next s a).bind fun t => exec t as

variable {next ok} {s t u : σ} {a : α} {as bs : List α}

theorem Steps.mono {ok' : σ → α → Prop} (hok : ∀ s a, ok s a → ok' s a)
    (h : Steps next ok s as t) : Steps next ok' s as t := by
  induction h with
  | nil s => exact .nil s
  | cons h hstep _ ih => exact .cons (hok _ _ h) hstep ih

theorem Steps.run (h : Steps next ok s as t) : Run next s as t := h.mono fun _ _ _ => trivial

/-- What every step meeting `ok` keeps holds at the end of a run of such steps. -/
theorem Steps.invariant {I : σ → Prop}
    (hI : ∀ s a t, ok s a → next s a = some t → I s → I t) (h : Steps next ok s as t)
    (hs : I s) : I t := by
  induction h with
  | nil => exact hs
  | cons hok hstep _ ih => exact ih (hI _ _ _ hok hstep hs)

/-- As `Steps.mono`, where the one side condition gives the other under an invariant only. -/
theorem Steps.mono_of_invariant {I : σ → Prop} {ok' : σ → α → Prop}
    (hI : ∀ s a t, next s a = some t → I s → I t) (hok : ∀ s a, I s → ok s a → ok' s a)
    (h : Steps next ok s as t) (hs : I s) : Steps next ok' s as t := by
  induction h with
  | nil s => exact .nil s
  | cons h hstep _ ih => exact .cons (hok _ _ hs h) hstep (ih (hI _ _ _ hstep hs))

theorem Steps.append (h : Steps next ok s as t) (h' : Steps next ok t bs u) :
    Steps next ok s (as ++ bs) u := by
  induction h with
  | nil => exact h'
  | cons hok hstep _ ih => exact .cons hok hstep (ih h')

theorem Steps.of_append : ∀ {as : List α} {s : σ}, Steps next ok s (as ++ bs) u →
    ∃ t, Steps next ok s as t ∧ Steps next ok t bs u
  | [], s, h => ⟨s, .nil s, h⟩
  | a :: as, s, h => by
    cases h with
    | cons hok hstep hrun =>
      obtain ⟨t, ht, hu⟩ := Steps.of_append hrun
      exact ⟨t, .cons hok hstep ht, hu⟩

/-- As `Steps.invariant`, for an invariant that speaks of the steps taken so far too. -/
theorem Steps.trace_invariant {I : List α → σ → Prop} (h : Steps next ok s as t) (hs : I [] s)
    (hI : ∀ as t a u, Steps next ok s as t → ok t a → next t a = some u → I as t →
      I (as ++ [a]) u) : I as t := by
  induction as using List.reverseRecOn generalizing t with
  | nil =>
    cases h
    exact hs
  | append_singleton as a ih =>
    obtain ⟨u, hu, ha⟩ := h.of_append
    cases ha with
    | cons hok hstep hrun =>
      cases hrun
      exact hI as u a _ hu hok hstep (ih hu)

theorem Steps.single (hok : ok s a) (h : next s a = some t) : Steps next ok s [a] t :=
  .cons hok h (.nil t)

theorem Reachable.refl : Reachable next s s := ⟨[], .nil s⟩

theorem Reachable.trans (h : Reachable next s t) (h' : Run next t as u) :
    Reachable next s u := by
  obtain ⟨bs, hb⟩ := h
  exact ⟨bs ++ as, hb.append h'⟩

theorem Reachable.step (h : Reachable next s t) (h' : next t a = some u) :
    Reachable next s u := h.trans (.single trivial h')

/-- What every step keeps holds in every reachable state. -/
theorem Reachable.invariant {I : σ → Prop} (hI : ∀ s a t, next s a = some t → I s → I t)
    (h : Reachable next s t) (hs : I s) : I t := by
  obtain ⟨as, h⟩ := h
  exact h.invariant (fun s a t _ => hI s a t) hs

theorem steps_of_exec : ∀ {as : List α} {s t : σ}, (∀ a ∈ as, ∀ s, ok s a) →
    exec next s as = some t → Steps next ok s as t
  | [], s, t, _, h => by
    simp only [exec, Option.some.injEq] at h
    exact h ▸ .nil s
  | a :: as, s, t, hok, h => by
    obtain ⟨u, hu, h⟩ := Option.bind_eq_some_iff.1 h
    exact .cons (hok a List.mem_cons_self s) hu
      (steps_of_exec (fun b hb => hok b (List.mem_cons_of_mem a hb)) h)

theorem run_of_exec {as : List α} (h : exec next s as = some t) : Run next s as t :=
  steps_of_exec (fun _ _ _ => trivial) h

theorem reachable_of_exec (as : List α) (h : exec next s as = some t) : Reachable next s t :=
  ⟨as, run_of_exec h⟩

section Simulation

variable {τ β : Type*} {next' : τ → β → Option τ} {R : σ → τ → Prop} {u v : τ}

/-- From related states, what a step of `next` does a run of `next'` does too. -/
def Simulates (next : σ → α → Option σ) (ok : σ → α → Prop) (next' : τ → β → Option τ)
    (R : σ → τ → Prop) : Prop :=
  ∀ s a t u, ok s a → next s a = some t → R s u → ∃ bs v, Run next' u bs v ∧ R t v

theorem Simulates.run (h : Simulates next ok next' R) (hrun : Steps next ok s as t)
    (hR : R s u) : ∃ bs v, Run next' u bs v ∧ R t v := by
  induction hrun generalizing u with
  | nil => exact ⟨[], u, .nil u, hR⟩
  | cons hok hstep _ ih =>
    obtain ⟨bs, v, hbs, hv⟩ := h _ _ _ _ hok hstep hR
    obtain ⟨cs, w, hcs, hw⟩ := ih hv
    exact ⟨bs ++ cs, w, hbs.append hcs, hw⟩

end Simulation

end Runs
