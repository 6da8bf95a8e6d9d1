import Mathlib.Algebra.GroupWithZero.Nat
import Mathlib.Data.List.Nodup
import Mathlib.Data.List.Count

/-!
# Keyed tables

A table is a list of rows with a key column.  `Keyed.get?` reads the row of a
key, `Keyed.modify` rewrites it in place; an insertion appends.

## Main definitions

* `Keyed` — the key column of a row type.
* `Keyed.get?`, `Keyed.modify` — reading and rewriting the row of a key.

## Main results

* `Keyed.get?_modify_self`, `Keyed.get?_modify_ne`, `Keyed.get?_concat` — what a
  read sees after a write.
* `Keyed.nodup_modify` — a write keeps a unique index.
* `Keyed.length_filter_eq_one` — distinct keys make the row of a key unique.
* `Keyed.countP_eq_add`, `Keyed.countP_modify_ne`, `Keyed.countP_modify_le` —
  rewriting one row moves the number of rows with a property by at most one.
* `Keyed.countP_others_congr` — tables that agree on all keys but one.
-/

/-- The key column of a table with rows `α`. -/
class Keyed (α : Type) (κ : outParam Type) where
  /-- The key of a row. -/
  key : α → κ

namespace Keyed

variable {α κ : Type} [Keyed α κ]

/-- The key column of a table. -/
def keys (t : List α) : List κ := t.map key

variable [DecidableEq κ]

/-- The row of a key. -/
def get? (t : List α) (k : κ) : Option α := t.find? fun r => key r = k

/-- Rewrite the row of a key. -/
def modify (t : List α) (k : κ) (f : α → α) : List α :=
  t.map fun r => if key r = k then f r else r

omit [DecidableEq κ] in
@[simp] theorem keys_concat (t : List α) (r : α) : keys (t ++ [r]) = keys t ++ [key r] := by
  simp [keys]

theorem key_of_get? {t : List α} {k : κ} {r : α} (h : get? t k = some r) : key r = k := by
  simpa using List.find?_some h

theorem mem_of_get? {t : List α} {k : κ} {r : α} (h : get? t k = some r) : r ∈ t :=
  List.mem_of_find?_eq_some h

theorem get?_isSome_iff (t : List α) (k : κ) : (get? t k).isSome ↔ k ∈ keys t := by
  simp [get?, keys]

theorem get?_eq_none_iff (t : List α) (k : κ) : get? t k = none ↔ k ∉ keys t := by
  rw [← get?_isSome_iff, Bool.not_eq_true, Option.isSome_eq_false_iff, Option.isNone_iff_eq_none]

/-- Distinct keys: a row of the table is the row of its key. -/
theorem get?_of_mem {t : List α} (hn : (keys t).Nodup) {r : α} (h : r ∈ t) :
    get? t (key r) = some r := by
  induction t with
  | nil => simp at h
  | cons x t ih =>
    simp only [keys, List.map_cons, List.nodup_cons] at hn
    rcases List.mem_cons.mp h with rfl | h
    · simp [get?]
    · have hne : key x ≠ key r := fun he => hn.1 (he ▸ List.mem_map_of_mem h)
      simpa [get?, hne] using ih hn.2 h

/-! ### Writes -/

theorem keys_modify (t : List α) (k : κ) {f : α → α} (hf : ∀ r, key (f r) = key r) :
    keys (modify t k f) = keys t := by
  simp only [keys, modify, List.map_map]
  refine List.map_congr_left fun r _ => ?_
  simp only [Function.comp_apply]
  split
  · exact hf r
  · rfl

theorem get?_modify_self (t : List α) (k : κ) {f : α → α} (hf : ∀ r, key (f r) = key r) :
    get? (modify t k f) k = (get? t k).map f := by
  induction t with
  | nil => rfl
  | cons r t ih =>
    by_cases hr : key r = k
    · simp [get?, modify, hr, hf]
    · simpa [get?, modify, hr] using ih

theorem get?_modify_ne (t : List α) {k k' : κ} (hne : k' ≠ k) {f : α → α}
    (hf : ∀ r, key (f r) = key r) : get? (modify t k f) k' = get? t k' := by
  induction t with
  | nil => rfl
  | cons r t ih =>
    by_cases hr : key r = k
    · have hr' : key r ≠ k' := fun h => hne (h ▸ hr)
      simpa [get?, modify, hr, hf, hr', Ne.symm hne] using ih
    · by_cases hr' : key r = k'
      · simp [get?, modify, hr', hne]
      · simpa [get?, modify, hr, hr'] using ih

theorem get?_inj {t : List α} {k : κ} {r r' : α} (hr : get? t k = some r)
    (hr' : get? t k = some r') : r = r' := Option.some.inj (hr.symm.trans hr')

/-- Only what becomes of the row of the key matters. -/
theorem modify_congr {t : List α} {k : κ} {f g : α → α}
    (h : ∀ r ∈ t, key r = k → f r = g r) : modify t k f = modify t k g := by
  refine List.map_congr_left fun r hr => ?_
  by_cases hk : key r = k
  · simp only [hk, if_true, h r hr hk]
  · simp only [hk, if_false]

/-- A write that changes nothing. -/
theorem modify_eq_self {t : List α} {k : κ} {f : α → α} (h : ∀ r, f r = r) : modify t k f = t := by
  refine List.map_id'' (fun r => ?_) t
  split
  · exact h r
  · rfl

/-- A write under a key that is not there. -/
theorem modify_of_not_mem {t : List α} {k : κ} (hk : k ∉ keys t) (f : α → α) :
    modify t k f = t := by
  refine (List.map_congr_left fun r hr => ?_).trans t.map_id
  have hne : key r ≠ k := fun h => hk (h ▸ List.mem_map_of_mem hr)
  exact if_neg hne

/-- A row of the table after a write: the rewritten row, or another one that was there. -/
theorem mem_modify {t : List α} {k : κ} {f : α → α} {r : α} :
    r ∈ modify t k f ↔ (∃ r₀ ∈ t, key r₀ = k ∧ f r₀ = r) ∨ (r ∈ t ∧ key r ≠ k) := by
  rw [modify, List.mem_map]
  constructor
  · rintro ⟨r₀, hr₀, rfl⟩
    by_cases hk : key r₀ = k
    · exact Or.inl ⟨r₀, hr₀, hk, by rw [if_pos hk]⟩
    · rw [if_neg hk]
      exact Or.inr ⟨hr₀, hk⟩
  · rintro (⟨r₀, hr₀, hk, rfl⟩ | ⟨hr, hk⟩)
    · exact ⟨r₀, hr₀, by rw [if_pos hk]⟩
    · exact ⟨r, hr, if_neg hk⟩

/-- **A unique index is kept** by a write that leaves its column alone or sets it to what no
other row has. -/
theorem nodup_modify {β : Type} (column : α → β) {t : List α} (hn : (keys t).Nodup) {k : κ}
    {f : α → α} (hcolumn : (t.map column).Nodup)
    (h : ∀ r ∈ t, key r = k →
      column (f r) = column r ∨ ∀ v ∈ t, key v ≠ k → column v ≠ column (f r)) :
    ((modify t k f).map column).Nodup := by
  induction t with
  | nil => exact List.nodup_nil
  | cons x t ih =>
    simp only [keys, List.map_cons, List.nodup_cons] at hn hcolumn
    by_cases hx : key x = k
    · have hrest : modify t k f = t := modify_of_not_mem (hx ▸ hn.1) f
      have hothers : column (f x) ∉ t.map column := by
        intro hmem
        obtain ⟨v, hv, heq⟩ := List.mem_map.mp hmem
        rcases h x List.mem_cons_self hx with hsame | hnew
        · exact hcolumn.1 (hsame ▸ hmem)
        · have hvk : key v ≠ k := fun hk => hn.1 (hx.trans hk.symm ▸ List.mem_map_of_mem hv)
          exact hnew v (List.mem_cons_of_mem x hv) hvk heq
      simp only [modify, List.map_cons, hx, if_true] at hrest ⊢
      rw [hrest]
      exact List.nodup_cons.mpr ⟨hothers, hcolumn.2⟩
    · have hothers : column x ∉ (modify t k f).map column := by
        intro hmem
        obtain ⟨v, hv, heq⟩ := List.mem_map.mp hmem
        rcases mem_modify.mp hv with ⟨r, hr, hrk, rfl⟩ | ⟨hv, -⟩
        · rcases h r (List.mem_cons_of_mem x hr) hrk with hsame | hnew
          · exact hcolumn.1 (List.mem_map.mpr ⟨r, hr, hsame.symm.trans heq⟩)
          · exact hnew x List.mem_cons_self hx heq.symm
        · exact hcolumn.1 (heq ▸ List.mem_map_of_mem hv)
      have ih := ih hn.2 hcolumn.2 fun r hr hrk => by
        rcases h r (List.mem_cons_of_mem x hr) hrk with hsame | hnew
        · exact Or.inl hsame
        · exact Or.inr fun v hv => hnew v (List.mem_cons_of_mem x hv)
      simp only [modify, List.map_cons, hx, if_false] at ih hothers ⊢
      exact List.nodup_cons.mpr ⟨hothers, ih⟩

/-- Distinct keys: a write replaces one summand. -/
theorem sum_modify {t : List α} (hn : (keys t).Nodup) {r : α} (hr : r ∈ t) (r' : α) (f : α → ℕ) :
    ((modify t (key r) fun _ => r').map f).sum + f r = (t.map f).sum + f r' := by
  induction t with
  | nil => simp at hr
  | cons x t ih =>
    simp only [keys, List.map_cons, List.nodup_cons] at hn
    rcases List.mem_cons.mp hr with rfl | hr
    · have hrest : modify t (key r) (fun _ => r') = t := modify_of_not_mem hn.1 _
      simp only [modify, List.map_cons, if_true, List.sum_cons] at hrest ⊢
      rw [hrest]
      omega
    · have hne : key x ≠ key r := fun he => hn.1 (he ▸ List.mem_map_of_mem hr)
      have ih := ih hn.2 hr
      simp only [modify, List.map_cons, if_neg hne, List.sum_cons] at ih ⊢
      omega

/-- An appended row is found under its key, if that key was not there before. -/
theorem get?_concat (t : List α) (r : α) (k : κ) (hr : key r ∉ keys t) :
    get? (t ++ [r]) k = if k = key r then some r else get? t k := by
  by_cases hk : k = key r
  · subst hk
    have hnone : t.find? (fun r' => key r' = key r) = none := (get?_eq_none_iff _ _).mpr hr
    simp only [get?, List.find?_append, hnone, if_true]
    simp
  · simp [get?, List.find?_append, hk, Ne.symm hk]

/-! ### Counting rows -/

/-- Distinct keys make the row of a key unique. -/
theorem length_filter_eq_one {t : List α} (hn : (keys t).Nodup) {k : κ} (hk : k ∈ keys t) :
    (t.filter fun r => key r = k).length = 1 := by
  have h := List.count_eq_one_of_mem hn hk
  rw [keys, List.count_eq_countP, List.countP_map, List.countP_eq_length_filter] at h
  rw [← h]
  congr 2

/-- All rows, and all rows but the one of a key. -/
theorem countP_eq_add {t : List α} (hn : (keys t).Nodup) (k : κ) (p : α → Bool) :
    t.countP p =
      t.countP (fun r => p r && decide (key r ≠ k)) + ((get? t k).any p).toNat := by
  induction t with
  | nil => rfl
  | cons r t ih =>
    simp only [keys, List.map_cons, List.nodup_cons] at hn
    have ih := ih hn.2
    by_cases hr : key r = k
    · have hrest : t.countP p = t.countP fun r => p r && decide (key r ≠ k) := by
        refine List.countP_congr fun x hx => ?_
        have hxk : key x ≠ k := by
          intro h
          exact hn.1 (hr ▸ h ▸ List.mem_map_of_mem hx)
        simp [hxk]
      have hget : get? (r :: t) k = some r := by simp [get?, hr]
      rw [List.countP_cons, List.countP_cons, ← hrest, hget]
      cases hp : p r <;> simp [hr, hp]
    · have hget : get? (r :: t) k = get? t k := by simp [get?, hr]
      rw [List.countP_cons, List.countP_cons, hget]
      simp only [ne_eq, hr, not_false_eq_true, decide_true, Bool.and_true] at ih ⊢
      omega

/-- Leaving out one key lowers a count by at most one. -/
theorem countP_le_succ {t : List α} (hn : (keys t).Nodup) (k : κ) (p : α → Bool) :
    t.countP p ≤ t.countP (fun r => p r && decide (key r ≠ k)) + 1 := by
  have hadd := countP_eq_add hn k p
  have hone := Bool.toNat_le ((get? t k).any p)
  omega

/-- Two tables that agree on all keys but one count the other rows alike. -/
theorem countP_others_congr {t t' : List α} (hn : (keys t).Nodup) (hn' : (keys t').Nodup) {k : κ}
    (h : ∀ j, j ≠ k → get? t' j = get? t j) (p : α → Bool) :
    t'.countP (fun r => p r && decide (key r ≠ k)) =
      t.countP fun r => p r && decide (key r ≠ k) := by
  have hmem : ∀ r, r ∈ t'.filter (fun r => decide (key r ≠ k)) ↔
      r ∈ t.filter fun r => decide (key r ≠ k) := by
    intro r
    simp only [List.mem_filter, decide_eq_true_eq]
    refine and_congr_left fun hne => ?_
    constructor
    · intro hr
      exact mem_of_get? ((h _ hne).symm.trans (get?_of_mem hn' hr))
    · intro hr
      exact mem_of_get? ((h _ hne).trans (get?_of_mem hn hr))
  have hperm : (t'.filter fun r => decide (key r ≠ k)).Perm
      (t.filter fun r => decide (key r ≠ k)) :=
    (List.perm_ext_iff_of_nodup (hn'.of_map.filter _) (hn.of_map.filter _)).mpr hmem
  rw [← List.countP_filter, ← List.countP_filter]
  exact hperm.countP_eq p

/-- Rewriting a row does not change how many other rows have a property. -/
theorem countP_modify_ne (t : List α) (k : κ) {f : α → α} (hf : ∀ r, key (f r) = key r)
    (p : α → Bool) :
    (modify t k f).countP (fun r => p r && decide (key r ≠ k)) =
      t.countP fun r => p r && decide (key r ≠ k) := by
  rw [modify, List.countP_map]
  refine List.countP_congr fun r _ => ?_
  by_cases hr : key r = k <;> simp [hr, hf]

/-- Rewriting a row that does not gain a property does not raise the count. -/
theorem countP_modify_le (t : List α) (k : κ) (f : α → α) (p : α → Bool)
    (h : ∀ r ∈ t, key r = k → p (f r) = true → p r = true) :
    (modify t k f).countP p ≤ t.countP p := by
  rw [modify, List.countP_map]
  refine List.countP_mono_left fun r hr hp => ?_
  by_cases hk : key r = k
  · exact h r hr hk (by simpa [hk] using hp)
  · simpa [hk] using hp

end Keyed
