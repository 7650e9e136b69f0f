import Mathlib

/-!
# Calls that run out of memory while they hold mutexes

A call can be thrown out of at each of its allocations; `fuse` is how many of them go well. What
`guard` locks is given back however its scope is left, what `lock` locks only by an `unlock` that is
reached. So a call of guards alone holds at its end what it held at its start (`Balanced`), and
these calls are a monad of their own (`Guarded`). A section locked by hand leaves its mutex locked
exactly when it is thrown out of (`Allocates.byHand_run`).
-/

namespace Guards

inductive Failure
  | thrown
  /-- Thrown out of a destructor: the process ends here. -/
  | terminated
  deriving DecidableEq

structure Machine (M : Type) where
  held : Multiset M
  fuse : ℕ

/-- A call that gives an `α`. -/
structure Call (M α : Type) where
  run : Machine M → Except Failure α × Machine M

instance {M : Type} : Monad (Call M) where
  pure a := ⟨fun s => (.ok a, s)⟩
  bind x f := ⟨fun s => match x.run s with
    | (.ok a, t) => (f a).run t
    | (.error e, t) => (.error e, t)⟩

variable {M α β ι : Type}

/-! ## Operations -/

/-- Something is built that needs memory. -/
def alloc : Call M Unit where
  run s := if s.fuse = 0 then (.error .thrown, s) else (.ok (), { s with fuse := s.fuse - 1 })

def lock (m : M) : Call M Unit where
  run s := (.ok (), { s with held := m ::ₘ s.held })

def unlock [DecidableEq M] (m : M) : Call M Unit where
  run s := (.ok (), { s with held := s.held.erase m })

/-- A `lock_guard`, and what follows it in its scope. -/
def guard [DecidableEq M] (m : M) (x : Call M α) : Call M α where
  run s := match x.run { s with held := m ::ₘ s.held } with
    | (.error .terminated, t) => (.error .terminated, t)
    | (r, t) => (r, { t with held := t.held.erase m })

/-- The body of a destructor. -/
def noexcept (x : Call M Unit) : Call M Unit where
  run s := match x.run s with
    | (.error .thrown, t) => (.error .terminated, t)
    | r => r

/-- `try { x } catch(...) { }` -/
def catchAll (x : Call M Unit) : Call M Unit where
  run s := match x.run s with
    | (.error .thrown, t) => (.ok (), t)
    | r => r

theorem run_bind (x : Call M α) (f : α → Call M β) (s : Machine M) :
    (x >>= f).run s = match x.run s with
      | (.ok a, t) => (f a).run t
      | (.error e, t) => (.error e, t) := rfl

/-! ## Balanced calls -/

/-- Where `x` ends at all, it holds what it held at its start. -/
def Balanced (x : Call M α) : Prop :=
  ∀ s, (x.run s).1 ≠ .error .terminated → (x.run s).2.held = s.held

theorem balanced_pure (a : α) : Balanced (pure a : Call M α) := fun _ _ => rfl

theorem Balanced.bind {x : Call M α} {f : α → Call M β} (hx : Balanced x)
    (hf : ∀ a, Balanced (f a)) : Balanced (x >>= f) := by
  intro s hend
  rw [run_bind] at hend ⊢
  have hheld := hx s
  generalize x.run s = r at hend hheld ⊢
  rcases r with ⟨e | a, t⟩
  · exact hheld fun h => hend (by rw [Except.error.inj h])
  · exact (hf a t hend).trans (hheld nofun)

theorem balanced_alloc : Balanced (alloc : Call M Unit) := by
  intro s _
  unfold alloc
  dsimp only
  split_ifs <;> rfl

theorem Balanced.guard [DecidableEq M] {m : M} {x : Call M α} (hx : Balanced x) :
    Balanced (guard m x) := by
  intro s hend
  have hheld := hx { s with held := m ::ₘ s.held }
  unfold Guards.guard at hend ⊢
  dsimp only at hend ⊢
  generalize x.run { s with held := m ::ₘ s.held } = r at hend hheld ⊢
  have hback : ∀ t : Machine M, t.held = m ::ₘ s.held → t.held.erase m = s.held := by
    intro t ht
    rw [ht, Multiset.erase_cons_head]
  rcases r with ⟨(_ | _) | a, t⟩
  · exact hback t (hheld nofun)
  · exact absurd rfl hend
  · exact hback t (hheld nofun)

theorem Balanced.noexcept {x : Call M Unit} (hx : Balanced x) : Balanced (noexcept x) := by
  intro s hend
  have hheld := hx s
  unfold Guards.noexcept at hend ⊢
  dsimp only at hend ⊢
  generalize x.run s = r at hend hheld ⊢
  rcases r with ⟨(_ | _) | a, t⟩
  · exact absurd rfl hend
  · exact absurd rfl hend
  · exact hheld nofun

theorem Balanced.catchAll {x : Call M Unit} (hx : Balanced x) : Balanced (catchAll x) := by
  intro s hend
  have hheld := hx s
  unfold Guards.catchAll at hend ⊢
  dsimp only at hend ⊢
  generalize x.run s = r at hend hheld ⊢
  rcases r with ⟨(_ | _) | a, t⟩
  · exact hheld nofun
  · exact absurd rfl hend
  · exact hheld nofun

/-- A call that locks by guards only. -/
structure Guarded (M α : Type) where
  call : Call M α
  balanced : Balanced call

namespace Guarded

instance : Monad (Guarded M) where
  pure a := ⟨pure a, balanced_pure a⟩
  bind x f := ⟨x.call >>= fun a => (f a).call, x.balanced.bind fun a => (f a).balanced⟩

def alloc : Guarded M Unit := ⟨Guards.alloc, balanced_alloc⟩

def guard [DecidableEq M] (m : M) (x : Guarded M α) : Guarded M α :=
  ⟨Guards.guard m x.call, x.balanced.guard⟩

def noexcept (x : Guarded M Unit) : Guarded M Unit :=
  ⟨Guards.noexcept x.call, x.balanced.noexcept⟩

end Guarded

/-! ## How many allocations a call makes -/

/-- `x` gives `a` after `n` allocations, and is thrown out of if one of these fails. -/
def Allocates (x : Call M α) (n : ℕ) (a : α) : Prop :=
  ∀ s, x.run s = if n ≤ s.fuse then (.ok a, { s with fuse := s.fuse - n })
    else (.error .thrown, { s with fuse := 0 })

theorem allocates_pure (a : α) : Allocates (pure a : Call M α) 0 a := fun _ => rfl

theorem allocates_alloc : Allocates (alloc : Call M Unit) 1 () := by
  rintro ⟨held, fuse⟩
  unfold alloc
  rcases fuse with _ | n <;> simp

theorem Allocates.bind {x : Call M α} {f : α → Call M β} {n k : ℕ} {a : α} {b : β}
    (hx : Allocates x n a) (hf : Allocates (f a) k b) : Allocates (x >>= f) (n + k) b := by
  intro s
  rw [run_bind, hx s]
  by_cases hn : n ≤ s.fuse
  · have hle : k ≤ s.fuse - n ↔ n + k ≤ s.fuse := by omega
    simp only [if_pos hn, hf { s with fuse := s.fuse - n }, hle, Nat.sub_sub]
  · simp only [if_neg hn]
    rw [if_neg (by omega)]

theorem Allocates.forM {f : ι → Call M Unit} {n : ι → ℕ} (hf : ∀ i, Allocates (f i) (n i) ()) :
    ∀ l : List ι, Allocates (l.forM f) (l.map n).sum ()
  | [] => allocates_pure ()
  | i :: l => by
    rw [List.map_cons, List.sum_cons]
    exact (hf i).bind (Allocates.forM hf l)

/-- What a section that is locked by hand leaves behind. -/
theorem Allocates.byHand_run [DecidableEq M] {x : Call M Unit} {n : ℕ} (hx : Allocates x n ())
    (m : M) (s : Machine M) :
    (do lock m; x; unlock m : Call M Unit).run s
      = if n ≤ s.fuse then (.ok (), { s with fuse := s.fuse - n })
        else (.error .thrown, ⟨m ::ₘ s.held, 0⟩) := by
  simp only [run_bind, lock, unlock, hx { s with held := m ::ₘ s.held }]
  by_cases hn : n ≤ s.fuse
  · simp only [if_pos hn, Multiset.erase_cons_head]
  · simp only [if_neg hn]

end Guards
