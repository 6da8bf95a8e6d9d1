import Mathlib.Data.Set.Finite.Basic
import Mathlib.Logic.Function.Basic

/-!
# A store whose entries expire

Entries of a store are visible until they expire.  A typed cache kept in such a store names its
keys by the keys of the store and reads its values back from the entries; then an operation of
the store is one of the cache, and time that passes makes some of its entries disappear.

## Main definitions

* `Ttl.Store` — the store, with `get`, `set`, `delete` and `evict`.
* `Ttl.Typed` — the keys of a typed cache, and how its values are read.
* `Ttl.Typed.cache` — the cache that is visible at a moment.
* `Ttl.forget` — a cache without some of its entries.

## Main results

* `Typed.cache_set`, `Typed.cache_delete`, `Typed.cache_evict` — the operations on the cache.
* `Typed.cache_later` — **later the cache is the same without finitely many of its entries**.
-/

namespace Ttl

variable {K V I A : Type}

/-- An entry, visible before the moment it expires at. -/
structure Entry (V : Type) where
  value : V
  expiresAt : ℕ

/-- A store. -/
abbrev Store (K V : Type) := K → Option (Entry V)

namespace Store

/-- The store without entries. -/
def empty : Store K V := fun _ => none

/-- The visible value under a key. -/
def get (store : Store K V) (now : ℕ) (key : K) : Option V :=
  (store key).bind fun entry => if now < entry.expiresAt then some entry.value else none

/-- There are finitely many entries. -/
def Finite (store : Store K V) : Prop := {key | store key ≠ none}.Finite

theorem finite_empty : (empty : Store K V).Finite := by
  apply Set.Finite.subset Set.finite_empty
  intro key hkey
  exact hkey rfl

theorem get_eq_some {store : Store K V} {now : ℕ} {key : K} {value : V} :
    store.get now key = some value ↔
      ∃ entry, store key = some entry ∧ now < entry.expiresAt ∧ entry.value = value := by
  unfold get
  rw [Option.bind_eq_some_iff]
  constructor
  · rintro ⟨entry, hentry, hvisible⟩
    split at hvisible
    · next hnow => exact ⟨entry, hentry, hnow, Option.some.inj hvisible⟩
    · cases hvisible
  · rintro ⟨entry, hentry, hnow, rfl⟩
    exact ⟨entry, hentry, if_pos hnow⟩

/-- An entry that is visible later is visible now. -/
theorem get_of_later {store : Store K V} {now later : ℕ} (h : now ≤ later) {key : K} {value : V}
    (hget : store.get later key = some value) : store.get now key = some value := by
  obtain ⟨entry, hentry, hlater, hvalue⟩ := get_eq_some.mp hget
  exact get_eq_some.mpr ⟨entry, hentry, by omega, hvalue⟩

variable [DecidableEq K]

/-- Put a value under a key. -/
def set (store : Store K V) (key : K) (value : V) (expiresAt : ℕ) : Store K V :=
  Function.update store key (some ⟨value, expiresAt⟩)

/-- Remove some keys. -/
def delete (store : Store K V) (keys : List K) : Store K V := fun key =>
  if key ∈ keys then none else store key

theorem get_set_self {store : Store K V} {now expiresAt : ℕ} (key : K) (value : V)
    (h : now < expiresAt) : (store.set key value expiresAt).get now key = some value := by
  simp [get, set, h]

theorem get_set_ne {store : Store K V} {now expiresAt : ℕ} {key key' : K} (value : V)
    (h : key' ≠ key) : (store.set key value expiresAt).get now key' = store.get now key' := by
  simp [get, set, Function.update_of_ne h]

theorem get_delete (store : Store K V) (now : ℕ) (keys : List K) (key : K) :
    (store.delete keys).get now key = if key ∈ keys then none else store.get now key := by
  unfold get delete
  split
  · rfl
  · rfl

theorem Finite.set {store : Store K V} (h : store.Finite) (key : K) (value : V) (expiresAt : ℕ) :
    (store.set key value expiresAt).Finite := by
  apply (h.insert key).subset
  intro key' hkey'
  by_cases hkey : key' = key
  · exact Or.inl hkey
  · right
    intro hnone
    apply hkey'
    rw [Store.set, Function.update_of_ne hkey, hnone]

theorem Finite.delete {store : Store K V} (h : store.Finite) (keys : List K) :
    (store.delete keys).Finite := by
  apply h.subset
  intro key hkey hnone
  apply hkey
  unfold Store.delete
  rw [hnone, ite_self]

end Store

/-- A cache without the entries of some keys. -/
def forget [DecidableEq I] (cache : I → Option A) (keys : List I) : I → Option A :=
  keys.foldl (fun cache key => Function.update cache key none) cache

theorem forget_apply [DecidableEq I] (cache : I → Option A) (keys : List I) (key : I) :
    forget cache keys key = if key ∈ keys then none else cache key := by
  induction keys generalizing cache with
  | nil => rfl
  | cons k keys ih =>
    change forget (Function.update cache k none) keys key = _
    rw [ih]
    by_cases hmem : key ∈ keys
    · simp [hmem]
    · by_cases hk : key = k
      · subst hk
        simp
      · simp [hmem, hk]

/-! ### Typed caches -/

/-- The keys of a typed cache, and how its values are read. -/
structure Typed (K V I A : Type) where
  name : I → K
  read : I → V → Option A
  name_injective : Function.Injective name

namespace Typed

variable (typed : Typed K V I A)

/-- The cache that is visible at a moment. -/
def cache (store : Store K V) (now : ℕ) : I → Option A := fun key =>
  (store.get now (typed.name key)).bind (typed.read key)

variable {typed} {store : Store K V} {now : ℕ}

section

variable [DecidableEq K] [DecidableEq I]

/-- A value that reads back is put into the cache. -/
theorem cache_set {key : I} {value : V} {a : A} (hread : typed.read key value = some a)
    {expiresAt : ℕ} (h : now < expiresAt) :
    typed.cache (store.set (typed.name key) value expiresAt) now =
      Function.update (typed.cache store now) key (some a) := by
  funext key'
  unfold cache
  by_cases hkey : key' = key
  · subst hkey
    rw [Store.get_set_self _ _ h, Function.update_self]
    exact hread
  · have hname : typed.name key' ≠ typed.name key := by
      intro hname
      exact hkey (typed.name_injective hname)
    rw [Store.get_set_ne _ hname, Function.update_of_ne hkey]

/-- Keys that are removed are no longer cached. -/
theorem cache_delete (keys : List I) :
    typed.cache (store.delete (keys.map typed.name)) now =
      fun key => if key ∈ keys then none else typed.cache store now key := by
  funext key
  unfold cache
  rw [Store.get_delete]
  by_cases hkey : key ∈ keys
  · rw [if_pos hkey, if_pos (List.mem_map_of_mem hkey)]
    rfl
  · have hname : typed.name key ∉ keys.map typed.name := by
      rwa [List.mem_map_of_injective typed.name_injective]
    rw [if_neg hkey, if_neg hname]

/-- Whatever key is removed, at most one entry disappears. -/
theorem cache_evict (key : K) : ∃ keys : List I,
    typed.cache (store.delete [key]) now = forget (typed.cache store now) keys := by
  by_cases h : ∃ i, typed.name i = key
  · obtain ⟨i, rfl⟩ := h
    refine ⟨[i], ?_⟩
    funext i'
    rw [forget_apply]
    exact congrFun (cache_delete [i]) i'
  · refine ⟨[], ?_⟩
    funext i
    have hi : typed.name i ∉ [key] := by
      intro hmem
      exact h ⟨i, List.mem_singleton.mp hmem⟩
    unfold cache
    rw [Store.get_delete, if_neg hi]
    rfl

end

/-- An entry that is visible later is visible now. -/
theorem cache_of_later {later : ℕ} (h : now ≤ later) {key : I} {a : A}
    (hcache : typed.cache store later key = some a) : typed.cache store now key = some a := by
  obtain ⟨value, hget, hread⟩ := Option.bind_eq_some_iff.mp hcache
  exact Option.bind_eq_some_iff.mpr ⟨value, Store.get_of_later h hget, hread⟩

/-- A finite store keeps a finite cache. -/
theorem finite_cache (h : store.Finite) : {key | typed.cache store now key ≠ none}.Finite := by
  have hnames : (Set.preimage typed.name {key | store key ≠ none}).Finite :=
    h.preimage typed.name_injective.injOn
  apply hnames.subset
  intro key hkey hnone
  apply hkey
  change store (typed.name key) = none at hnone
  unfold cache Store.get
  rw [hnone]
  rfl

/-- **Later the cache is the same without finitely many of its entries.** -/
theorem cache_later [DecidableEq I] (hfinite : store.Finite) {later : ℕ} (h : now ≤ later) :
    ∃ keys, typed.cache store later = forget (typed.cache store now) keys := by
  have hgone : {key | typed.cache store later key = none ∧
      typed.cache store now key ≠ none}.Finite :=
    (typed.finite_cache hfinite).subset fun key hkey => hkey.2
  refine ⟨hgone.toFinset.toList, ?_⟩
  funext key
  rw [forget_apply]
  cases hlater : typed.cache store later key with
  | some a =>
    have hstays : key ∉ hgone.toFinset.toList := by
      intro hmem
      rw [Finset.mem_toList, Set.Finite.mem_toFinset] at hmem
      exact Option.some_ne_none a (hlater.symm.trans hmem.1)
    rw [if_neg hstays, cache_of_later h hlater]
  | none =>
    split
    · rfl
    · next hstays =>
      by_contra hnow
      apply hstays
      rw [Finset.mem_toList, Set.Finite.mem_toFinset]
      exact ⟨hlater, fun hnone => hnow hnone.symm⟩

end Typed

end Ttl
