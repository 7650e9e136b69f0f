import Mathlib

/-!
# Slots that are handed out again

Objects hold slots, one each. A slot whose holder has gone is free for a new object, and what an
object posts names the slot it was posted from. So a reader that goes by the slot may meet the
posts of an earlier holder: exactly those still there when the slot was opened
(`posts_of_holder`), and a name kept from an earlier holder leads to none or to a newer one
(`holder_later`).
-/

namespace Ledger

variable {K M : Type*}

structure Post (K M : Type*) where
  slot : K
  author : ℕ
  body : M

structure State (K M : Type*) where
  holder : K → Option ℕ := fun _ => none
  posts : List (Post K M) := []
  /-- The number of objects made so far. -/
  objects : ℕ := 0

structure Inv (s : State K M) : Prop where
  lt : ∀ {k o}, s.holder k = some o → o < s.objects
  inj : ∀ {k k' o}, s.holder k = some o → s.holder k' = some o → k = k'
  author_lt : ∀ {p}, p ∈ s.posts → p.author < s.objects
  author_slot : ∀ {p k}, p ∈ s.posts → s.holder k = some p.author → k = p.slot

theorem Inv.init : Inv (K := K) (M := M) {} where
  lt h := by simp at h
  inj h := by simp at h
  author_lt h := by simp at h
  author_slot h := by simp at h

/-- Slots may be given back at once. -/
theorem Inv.of_holder {s t : State K M} (hs : Inv s)
    (h : ∀ {k o}, t.holder k = some o → s.holder k = some o) (hposts : t.posts = s.posts)
    (hobjects : t.objects = s.objects) : Inv t where
  lt hk := hobjects ▸ hs.lt (h hk)
  inj hk hk' := hs.inj (h hk) (h hk')
  author_lt hp := hobjects ▸ hs.author_lt (hposts ▸ hp)
  author_slot hp hk := hs.author_slot (hposts ▸ hp) (h hk)

section Steps

variable [DecidableEq K]

inductive Step : State K M → State K M → Prop
  | acquire {s : State K M} {k : K} (h : s.holder k = none) :
      Step s { s with
        holder := Function.update s.holder k (some s.objects)
        objects := s.objects + 1 }
  | release {s : State K M} (k : K) :
      Step s { s with holder := Function.update s.holder k none }
  | post {s : State K M} {k : K} {o : ℕ} (m : M) (h : s.holder k = some o) :
      Step s { s with posts := s.posts ++ [⟨k, o, m⟩] }
  | take {s : State K M} {p : Post K M} {ps : List (Post K M)} (h : s.posts = p :: ps) :
      Step s { s with posts := ps }

abbrev Run : State K M → State K M → Prop := Relation.ReflTransGen Step

variable {s t : State K M} {k : K} {o : ℕ}

/-- A holder after a step held its slot before, or is the object the step made. -/
theorem Step.holder (h : Step s t) (ht : t.holder k = some o) :
    s.holder k = some o ∨ (o = s.objects ∧ s.holder k = none ∧ t.objects = s.objects + 1) := by
  cases h with
  | @acquire k' hk' =>
    by_cases hk : k = k'
    · subst hk
      simp only [Function.update_self, Option.some.injEq] at ht
      exact .inr ⟨ht.symm, hk', rfl⟩
    · simp only [Function.update_of_ne hk] at ht
      exact .inl ht
  | release k' =>
    by_cases hk : k = k'
    · subst hk
      simp at ht
    · simp only [Function.update_of_ne hk] at ht
      exact .inl ht
  | post m hm => exact .inl ht
  | take hp => exact .inl ht

theorem Step.objects_le (h : Step s t) : s.objects ≤ t.objects := by
  cases h <;> simp

theorem Step.posts (h : Step s t) {p : Post K M} (hp : p ∈ t.posts) :
    p ∈ s.posts ∨ (s.holder p.slot = some p.author ∧ t.holder = s.holder) := by
  cases h with
  | acquire => exact .inl hp
  | release => exact .inl hp
  | post m hm =>
    rcases List.mem_append.1 hp with hp | hp
    · exact .inl hp
    · rw [List.mem_singleton.1 hp]
      exact .inr ⟨hm, rfl⟩
  | take hs => exact .inl (hs ▸ List.mem_cons_of_mem _ hp)

theorem Inv.step (hs : Inv s) (h : Step s t) : Inv t where
  lt := by
    intro k o ht
    rcases h.holder ht with hk | ⟨rfl, -, ho⟩
    · exact (hs.lt hk).trans_le h.objects_le
    · omega
  inj := by
    intro k k' o ht ht'
    rcases h.holder ht with hk | ⟨rfl, hk, -⟩ <;> rcases h.holder ht' with hk' | ⟨ho, hk', -⟩
    · exact hs.inj hk hk'
    · exact absurd (hs.lt hk) (by omega)
    · exact absurd (hs.lt hk') (by omega)
    · cases h with
      | @acquire k₀ h₀ =>
        have hk₀ : ∀ j, (Function.update s.holder k₀ (some s.objects)) j = some s.objects →
            j = k₀ := by
          intro j hj
          by_contra hne
          rw [Function.update_of_ne hne] at hj
          exact absurd (hs.lt hj) (by omega)
        rw [hk₀ k ht, hk₀ k' ht']
      | release k₀ => exact absurd ht (by simp [Function.update_apply, hk])
      | post m hm => exact absurd ht (by simp [hk])
      | take hp => exact absurd ht (by simp [hk])
  author_lt := by
    intro p hp
    rcases h.posts hp with hp | ⟨hp, -⟩
    · exact (hs.author_lt hp).trans_le h.objects_le
    · exact (hs.lt hp).trans_le h.objects_le
  author_slot := by
    intro p k hp ht
    rcases h.posts hp with hp | ⟨hp, heq⟩
    · rcases h.holder ht with hk | ⟨ho, -, -⟩
      · exact hs.author_slot hp hk
      · exact absurd (hs.author_lt hp) (by omega)
    · rw [heq] at ht
      exact hs.inj ht hp

theorem Inv.run (hs : Inv s) (h : Run s t) : Inv t := by
  induction h with
  | refl => exact hs
  | tail _ h ih => exact ih.step h

theorem Run.objects_le (h : Run s t) : s.objects ≤ t.objects := by
  induction h with
  | refl => exact le_rfl
  | tail _ h ih => exact ih.trans h.objects_le

/-- An object that is already made holds later only the slot it held before. -/
theorem Run.holder_back (h : Run s t) (ho : o < s.objects) (ht : t.holder k = some o) :
    s.holder k = some o := by
  induction h with
  | refl => exact ht
  | @tail t u hst h ih =>
    rcases h.holder ht with hk | ⟨rfl, -, -⟩
    · exact ih hk
    · have := Run.objects_le hst
      omega

/-- What stands under a slot while one object holds it is that object's, or stood there before. -/
theorem Run.posts_of_held (h : Run s t) (ho : o < s.objects) (ht : t.holder k = some o)
    {p : Post K M} (hp : p ∈ t.posts) (hk : p.slot = k) : p.author = o ∨ p ∈ s.posts := by
  induction h with
  | refl => exact .inr hp
  | @tail t u hst h ih =>
    have hto : t.holder k = some o := by
      rcases h.holder ht with h' | ⟨rfl, -, -⟩
      · exact h'
      · have := Run.objects_le hst
        omega
    rcases h.posts hp with hp | ⟨hp, -⟩
    · exact ih hto hp
    · rw [hk, hto, Option.some.injEq] at hp
      exact .inl hp.symm

/-- Opened at `s`, slot `k` shows its holder `o` its own posts, and posts that stood there at `s`,
by objects that held nothing any more. -/
theorem posts_of_holder (hs : Inv s) (hk : s.holder k = none)
    (h : Run { s with
      holder := Function.update s.holder k (some s.objects)
      objects := s.objects + 1 } t)
    (ht : t.holder k = some s.objects) {p : Post K M} (hp : p ∈ t.posts) (hpk : p.slot = k) :
    p.author = s.objects ∨ (p ∈ s.posts ∧ ∀ k', s.holder k' ≠ some p.author) := by
  rcases h.posts_of_held (by simp) ht hp hpk with hp | hp
  · exact .inl hp
  · refine .inr ⟨hp, fun k' hk' => ?_⟩
    have := hs.author_slot hp hk'
    rw [this, hpk, hk] at hk'
    cases hk'

/-- The slot `o` held at `s` is later held by `o`, or `o` holds nothing any more and the slot has
no holder older than `s`. -/
theorem holder_later (hs : Inv s) (hk : s.holder k = some o) (h : Run s t) :
    t.holder k = some o
      ∨ (∀ k', t.holder k' ≠ some o) ∧ ∀ o', t.holder k = some o' → s.objects ≤ o' := by
  by_cases ht : t.holder k = some o
  · exact .inl ht
  · refine .inr ⟨fun k' hk' => ?_, fun o' ho' => ?_⟩
    · have := hs.inj hk (h.holder_back (hs.lt hk) hk')
      exact ht (this ▸ hk')
    · by_contra hlt
      have := h.holder_back (not_le.1 hlt) ho'
      rw [hk, Option.some.injEq] at this
      exact ht (this ▸ ho')

/-! ## Conservation -/

/-- The objects made so far are those in `gone` and those that hold a slot; none is both. -/
structure Freed (s : State K M) (gone : List ℕ) : Prop where
  nodup : gone.Nodup
  lt : ∀ {o}, o ∈ gone → o < s.objects
  held : ∀ {k o}, s.holder k = some o → o ∉ gone
  all : ∀ {o}, o < s.objects → o ∈ gone ∨ ∃ k, s.holder k = some o

variable {gone : List ℕ}

omit [DecidableEq K] in
theorem Freed.init : Freed (K := K) (M := M) {} [] where
  nodup := .nil
  lt h := by cases h
  held h := by cases h
  all h := absurd h (Nat.not_lt_zero _)

omit [DecidableEq K] in
theorem Freed.congr (hf : Freed s gone) (hholder : t.holder = s.holder)
    (hobjects : t.objects = s.objects) : Freed t gone where
  nodup := hf.nodup
  lt h := hobjects ▸ hf.lt h
  held h := hf.held (hholder ▸ h)
  all h := by
    rw [hholder]
    exact hf.all (hobjects ▸ h)

theorem Freed.acquire (hf : Freed s gone) (hk : s.holder k = none)
    (hholder : t.holder = Function.update s.holder k (some s.objects))
    (hobjects : t.objects = s.objects + 1) : Freed t gone where
  nodup := hf.nodup
  lt h := by
    have := hf.lt h
    omega
  held {k' o} h hgone := by
    rw [hholder] at h
    by_cases hk' : k' = k
    · subst hk'
      rw [Function.update_self] at h
      obtain rfl := Option.some.inj h
      exact absurd (hf.lt hgone) (Nat.lt_irrefl _)
    · rw [Function.update_of_ne hk'] at h
      exact hf.held h hgone
  all {o} h := by
    rw [hholder]
    rcases Nat.lt_succ_iff_lt_or_eq.1 (hobjects ▸ h) with h | rfl
    · refine (hf.all h).imp_right fun ⟨k', hk'⟩ => ⟨k', ?_⟩
      rwa [Function.update_of_ne fun hkk => by simp [hkk ▸ hk'] at hk]
    · exact .inr ⟨k, Function.update_self ..⟩

theorem Freed.release (hf : Freed s gone) (hs : Inv s) (hk : s.holder k = some o)
    (hholder : t.holder = Function.update s.holder k none) (hobjects : t.objects = s.objects) :
    Freed t (gone ++ [o]) where
  nodup := by
    refine List.nodup_append.2 ⟨hf.nodup, List.nodup_singleton o, fun a ha b hb hab => ?_⟩
    rw [List.mem_singleton] at hb
    exact hf.held hk (hb ▸ hab ▸ ha)
  lt h := by
    rw [hobjects]
    rcases List.mem_append.1 h with h | h
    · exact hf.lt h
    · exact List.mem_singleton.1 h ▸ hs.lt hk
  held {k' o'} h hgone := by
    rw [hholder] at h
    by_cases hk' : k' = k
    · subst hk'
      simp at h
    · rw [Function.update_of_ne hk'] at h
      rcases List.mem_append.1 hgone with hgone | hgone
      · exact hf.held h hgone
      · obtain rfl := List.mem_singleton.1 hgone
        exact hk' (hs.inj h hk)
  all {o'} h := by
    rw [hholder]
    rcases hf.all (hobjects ▸ h) with h | ⟨k', hk'⟩
    · exact .inl (List.mem_append_left _ h)
    · by_cases hkk : k' = k
      · subst hkk
        obtain rfl := Option.some.inj (hk.symm.trans hk')
        exact .inl (List.mem_append_right _ List.mem_cons_self)
      · exact .inr ⟨k', by rwa [Function.update_of_ne hkk]⟩

end Steps

end Ledger
