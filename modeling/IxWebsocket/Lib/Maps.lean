import Mathlib

/-!
# Maps, and searching one for a free key

What a map holds after an insertion or an erasure, read backwards. `search used next n k` asks
the keys `k`, `next k`, `next (next k)`, ..., at most `n` of them, for the first that is not used.
When no key comes twice, one probe more than there are used keys is enough
(`exists_search_eq_some`). For integer keys this gives the least positive and the greatest
negative integer that is no key of a map.
-/

namespace Maps

section Entries

variable {κ β : Type*} [Ord κ] [Std.TransOrd κ] [Std.LawfulEqOrd κ] {t : Std.TreeMap κ β}
  {i j : κ} {a b : β}

theorem getElem?_insert_some (h : (t.insert i a)[j]? = some b) :
    (i = j ∧ a = b) ∨ (i ≠ j ∧ t[j]? = some b) := by
  rw [Std.TreeMap.getElem?_insert] at h
  split_ifs at h with hij
  · exact .inl ⟨Std.compare_eq_iff_eq.1 hij, Option.some.inj h⟩
  · exact .inr ⟨fun hc => hij (Std.compare_eq_iff_eq.2 hc), h⟩

theorem getElem?_insertIfNew_some (h : (t.insertIfNew i a)[j]? = some b) :
    (i = j ∧ i ∉ t ∧ a = b) ∨ t[j]? = some b := by
  rw [Std.TreeMap.getElem?_insertIfNew] at h
  split_ifs at h with hij
  · exact .inl ⟨Std.compare_eq_iff_eq.1 hij.1, hij.2, Option.some.inj h⟩
  · exact .inr h

theorem getElem?_erase_some (h : (t.erase i)[j]? = some b) : i ≠ j ∧ t[j]? = some b := by
  rw [Std.TreeMap.getElem?_erase] at h
  split_ifs at h with hij
  exact ⟨fun hc => hij (Std.compare_eq_iff_eq.2 hc), h⟩

theorem mem_erase_iff : j ∈ t.erase i ↔ i ≠ j ∧ j ∈ t := by
  rw [Std.TreeMap.mem_erase, ne_eq, Std.compare_eq_iff_eq]

theorem getElem?_insert_of_ne (h : i ≠ j) : (t.insert i a)[j]? = t[j]? := by
  rw [Std.TreeMap.getElem?_insert, if_neg fun hc => h (Std.compare_eq_iff_eq.1 hc)]

theorem getElem?_insertIfNew_of_some (h : t[j]? = some b) : (t.insertIfNew i a)[j]? = some b := by
  rw [Std.TreeMap.getElem?_insertIfNew, if_neg, h]
  rintro ⟨hij, hi⟩
  rw [Std.compare_eq_iff_eq.1 hij, ← Std.TreeMap.isSome_getElem?_iff_mem, h] at hi
  exact hi rfl

theorem getElem?_insertIfNew_of_ne (h : i ≠ j) : (t.insertIfNew i a)[j]? = t[j]? := by
  rw [Std.TreeMap.getElem?_insertIfNew, if_neg fun hc => h (Std.compare_eq_iff_eq.1 hc.1)]

theorem getElem?_insertIfNew_self (h : i ∉ t) : (t.insertIfNew i a)[i]? = some a := by
  rw [Std.TreeMap.getElem?_insertIfNew, if_pos ⟨Std.compare_eq_iff_eq.2 rfl, h⟩]

theorem getElem?_erase_of_ne (h : i ≠ j) : (t.erase i)[j]? = t[j]? := by
  rw [Std.TreeMap.getElem?_erase, if_neg fun hc => h (Std.compare_eq_iff_eq.1 hc)]

/-- Of the entries under one key that are inserted one after the other, the last stays. -/
theorem getElem?_foldl_insert {ε : Type*} [DecidableEq κ] (f : ε → κ) (g : ε → β) :
    ∀ (l : List ε) (t : Std.TreeMap κ β),
      (l.foldl (fun t e => t.insert (f e) (g e)) t)[j]?
        = ((l.reverse.find? fun e => f e = j).map g).or t[j]?
  | [], _ => rfl
  | e :: l, t => by
    rw [List.foldl_cons, getElem?_foldl_insert f g l, List.reverse_cons, List.find?_append]
    rcases List.find? (fun e => f e = j) l.reverse with _ | e'
    · by_cases he : f e = j
      · simp [he]
      · simp [he, getElem?_insert_of_ne he]
    · rfl

theorem nodup_toList (c : Std.TreeSet κ) : c.toList.Nodup :=
  Std.TreeSet.distinct_toList.imp fun h heq => h (Std.compare_eq_iff_eq.2 heq)

end Entries

section Search

variable {κ : Type*} (used : κ → Bool) (next : κ → κ)

/-- The first unused key among `k`, `next k`, ..., asking `n` of them. -/
def search : ℕ → κ → Option κ
  | 0, _ => none
  | n + 1, k => if used k then search n (next k) else some k

variable {used next}

/-- A search that ends has stopped at the first unused key. -/
theorem search_eq_some : ∀ {n : ℕ} {k k' : κ}, search used next n k = some k' →
    ∃ m < n, next^[m] k = k' ∧ used k' = false ∧ ∀ l < m, used (next^[l] k) = true
  | 0, _, _, h => by simp [search] at h
  | n + 1, k, k', h => by
    unfold search at h
    split_ifs at h with hk
    · obtain ⟨m, hm, hk', hfree, hused⟩ := search_eq_some h
      refine ⟨m + 1, by omega, hk', hfree, fun l hl => ?_⟩
      rcases l with _ | l
      · exact hk
      · exact hused l (by omega)
    · simp only [Option.some.injEq] at h
      subst h
      exact ⟨0, by omega, rfl, by simpa using hk, fun l hl => by omega⟩

/-- A search that gives up has met used keys only. -/
theorem search_eq_none : ∀ {n : ℕ} {k : κ}, search used next n k = none →
    ∀ l < n, used (next^[l] k) = true
  | 0, _, _, l, hl => by omega
  | n + 1, k, h, l, hl => by
    unfold search at h
    split_ifs at h with hk
    rcases l with _ | l
    · exact hk
    · exact search_eq_none h l (by omega)

/-- One probe more than there are used keys is enough. -/
theorem exists_search_eq_some [DecidableEq κ] {k : κ} (hinj : Function.Injective (next^[·] k))
    {S : Finset κ} (hS : ∀ k', used k' = true → k' ∈ S) :
    ∃ k', search used next (S.card + 1) k = some k' := by
  rcases h : search used next (S.card + 1) k with _ | k'
  · have hsub : (Finset.range (S.card + 1)).image (next^[·] k) ⊆ S := by
      intro k' hk'
      obtain ⟨l, hl, rfl⟩ := Finset.mem_image.1 hk'
      exact hS _ (search_eq_none h l (Finset.mem_range.1 hl))
    have hcard := Finset.card_le_card hsub
    rw [Finset.card_image_of_injective _ hinj, Finset.card_range] at hcard
    omega
  · exact ⟨k', rfl⟩

end Search

section Integers

variable {β : Type*} (t : Std.TreeMap ℤ β)

theorem exists_search_keys {next : ℤ → ℤ} {k : ℤ} (hinj : Function.Injective (next^[·] k)) :
    ∃ k', search t.contains next (t.size + 1) k = some k' := by
  have hcard : t.keys.toFinset.card = t.size := by
    rw [List.toFinset_card_of_nodup Std.TreeMap.nodup_keys, Std.TreeMap.length_keys]
  rw [← hcard]
  refine exists_search_eq_some hinj fun k' hk' => ?_
  rw [List.mem_toFinset, Std.TreeMap.mem_keys]
  exact Std.TreeMap.contains_iff_mem.1 hk'

theorem iterate_succ (m : ℕ) (k : ℤ) : (· + 1)^[m] k = k + m := by
  induction m generalizing k with
  | zero => simp
  | succ m ih => rw [Function.iterate_succ_apply, ih]; push_cast; ring

theorem iterate_pred (m : ℕ) (k : ℤ) : (· - 1)^[m] k = k - m := by
  induction m generalizing k with
  | zero => simp
  | succ m ih => rw [Function.iterate_succ_apply, ih]; push_cast; ring

/-- `int i = 1; while (t.find(i) != t.end()) i++;` -/
def leastFree : ℤ := (search t.contains (· + 1) (t.size + 1) 1).getD 0

/-- `int i = -1; while (t.find(i) != t.end()) i--;` -/
def greatestFree : ℤ := (search t.contains (· - 1) (t.size + 1) (-1)).getD 0

/-- The loop that looks for the least free key returns, after at most `t.size + 1` probes. -/
theorem search_leastFree : search t.contains (· + 1) (t.size + 1) 1 = some (leastFree t) := by
  have hinj : Function.Injective ((· + 1 : ℤ → ℤ)^[·] 1) := fun m n h => by
    simpa [iterate_succ] using h
  obtain ⟨k, hk⟩ := exists_search_keys t hinj
  rw [leastFree, hk, Option.getD_some]

theorem search_greatestFree :
    search t.contains (· - 1) (t.size + 1) (-1) = some (greatestFree t) := by
  have hinj : Function.Injective ((· - 1 : ℤ → ℤ)^[·] (-1)) := fun m n h => by
    simpa [iterate_pred] using h
  obtain ⟨k, hk⟩ := exists_search_keys t hinj
  rw [greatestFree, hk, Option.getD_some]

theorem leastFree_pos : 1 ≤ leastFree t := by
  obtain ⟨m, -, hm, -⟩ := search_eq_some (search_leastFree t)
  rw [iterate_succ] at hm
  omega

theorem leastFree_notMem : leastFree t ∉ t := by
  obtain ⟨_, -, -, hfree, -⟩ := search_eq_some (search_leastFree t)
  rw [Std.TreeMap.mem_iff_contains, hfree]
  exact Bool.false_ne_true

theorem leastFree_le {i : ℤ} (hi : 1 ≤ i) (hfree : i ∉ t) : leastFree t ≤ i := by
  obtain ⟨m, -, hm, -, hused⟩ := search_eq_some (search_leastFree t)
  rw [iterate_succ] at hm
  by_contra hlt
  have h := hused (i - 1).toNat (by omega)
  rw [iterate_succ, show 1 + ((i - 1).toNat : ℤ) = i by omega] at h
  exact hfree (Std.TreeMap.contains_iff_mem.1 h)

theorem greatestFree_neg : greatestFree t ≤ -1 := by
  obtain ⟨m, -, hm, -⟩ := search_eq_some (search_greatestFree t)
  rw [iterate_pred] at hm
  omega

theorem greatestFree_notMem : greatestFree t ∉ t := by
  obtain ⟨_, -, -, hfree, -⟩ := search_eq_some (search_greatestFree t)
  rw [Std.TreeMap.mem_iff_contains, hfree]
  exact Bool.false_ne_true

theorem le_greatestFree {i : ℤ} (hi : i ≤ -1) (hfree : i ∉ t) : i ≤ greatestFree t := by
  obtain ⟨m, -, hm, -, hused⟩ := search_eq_some (search_greatestFree t)
  rw [iterate_pred] at hm
  by_contra hlt
  have h := hused (-1 - i).toNat (by omega)
  rw [iterate_pred, show -1 - ((-1 - i).toNat : ℤ) = i by omega] at h
  exact hfree (Std.TreeMap.contains_iff_mem.1 h)

/-- `i` is the least positive integer that is no key, and the search has found it after at most one
probe more than there are keys. -/
structure IsLeastFree (i : ℤ) : Prop where
  pos : 1 ≤ i
  notMem : i ∉ t
  least : ∀ j, 1 ≤ j → j ∉ t → i ≤ j
  probes : search t.contains (· + 1) (t.size + 1) 1 = some i

/-- The same downwards from -1. -/
structure IsGreatestFree (i : ℤ) : Prop where
  neg : i ≤ -1
  notMem : i ∉ t
  greatest : ∀ j, j ≤ -1 → j ∉ t → j ≤ i
  probes : search t.contains (· - 1) (t.size + 1) (-1) = some i

theorem isLeastFree : IsLeastFree t (leastFree t) where
  pos := leastFree_pos t
  notMem := leastFree_notMem t
  least _ hj hfree := leastFree_le t hj hfree
  probes := search_leastFree t

theorem isGreatestFree : IsGreatestFree t (greatestFree t) where
  neg := greatestFree_neg t
  notMem := greatestFree_notMem t
  greatest _ hj hfree := le_greatestFree t hj hfree
  probes := search_greatestFree t

variable {t}

theorem leastFree_congr {γ : Type*} {u : Std.TreeMap ℤ γ} (h : ∀ i, i ∈ t ↔ i ∈ u) :
    leastFree t = leastFree u :=
  le_antisymm (leastFree_le t (leastFree_pos u) (mt (h _).1 (leastFree_notMem u)))
    (leastFree_le u (leastFree_pos t) (mt (h _).2 (leastFree_notMem t)))

theorem greatestFree_congr {γ : Type*} {u : Std.TreeMap ℤ γ} (h : ∀ i, i ∈ t ↔ i ∈ u) :
    greatestFree t = greatestFree u :=
  le_antisymm (le_greatestFree u (greatestFree_neg t) (mt (h _).2 (greatestFree_notMem t)))
    (le_greatestFree t (greatestFree_neg u) (mt (h _).1 (greatestFree_notMem u)))

end Integers

end Maps
