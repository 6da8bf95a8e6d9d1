import Mathlib.Logic.Function.Basic
import SmsLite.Lib.Keyed

/-!
# A cache beside a table

A table of rows, and a cache whose entries each belong to one row and show a projection of it.
Readers fill an entry from the row, writers change a row and forget some of its entries.  The
cache is current while every entry shows its row, and a write keeps it current exactly if the
entries it does not forget show nothing of the change.

## Main definitions

* `CacheAside.View` — the row each entry belongs to, and what it shows of it.
* `View.Current` — every entry that is present shows its row.

## Main results

* `View.Current.fill`, `View.Current.forget`, `View.Current.insert` — what keeps a cache current.
* `View.current_rewrite_iff` — **a write keeps it current exactly if the entries that stay show
  the same of the old and of the new row**.
* `View.current_modify_iff` — the same for a keyed table.
-/

namespace CacheAside

variable {κ ρ E V : Type}

/-- The row each entry belongs to, and what it shows of it. -/
structure View (κ ρ E V : Type) where
  owner : E → κ
  project : E → ρ → V

namespace View

variable (view : View κ ρ E V)

/-- Every entry that is present shows its row. -/
def Current (row : κ → Option ρ) (cache : E → Option V) : Prop :=
  ∀ e v, cache e = some v → (row (view.owner e)).map (view.project e) = some v

variable {view} {row row' : κ → Option ρ} {cache cache' : E → Option V}

/-- An empty cache is current. -/
theorem current_of_cold (hcold : ∀ e, cache e = none) : view.Current row cache := by
  intro e v he
  cases (hcold e).symm.trans he

/-- What a present entry shows is what a reader of the row would see. -/
theorem Current.hit (h : view.Current row cache) {e : E} {v : V} (he : cache e = some v) :
    ∃ r, row (view.owner e) = some r ∧ view.project e r = v :=
  Option.map_eq_some_iff.mp (h e v he)

/-- Entries may disappear. -/
theorem Current.forget (h : view.Current row cache)
    (hsub : ∀ e v, cache' e = some v → cache e = some v) : view.Current row cache' :=
  fun e v he => h e v (hsub e v he)

/-- Rows that have no entry may be written. -/
theorem Current.insert (h : view.Current row cache)
    (hrow : ∀ k r, row k = some r → row' k = some r) : view.Current row' cache := by
  intro e v he
  obtain ⟨r, hr, hv⟩ := h.hit he
  rw [hrow _ _ hr, Option.map_some, hv]

/-- A reader fills an entry from its row. -/
theorem Current.fill [DecidableEq E] (h : view.Current row cache) {e : E} {r : ρ}
    (hr : row (view.owner e) = some r) :
    view.Current row (Function.update cache e (some (view.project e r))) := by
  intro e' v he'
  by_cases hne : e' = e
  · subst hne
    rw [Function.update_self] at he'
    rw [hr, Option.map_some, he']
  · rw [Function.update_of_ne hne] at he'
    exact h e' v he'

/-- **A write keeps the cache current exactly if the entries that stay show nothing of it.** -/
theorem current_rewrite_iff (forgets : E → Prop) (h : view.Current row cache) {k : κ} {r r' : ρ}
    (hr : row k = some r) (hr' : row' k = some r') (hother : ∀ k', k' ≠ k → row' k' = row k')
    (hstays : ∀ e, ¬ forgets e → cache' e = cache e) (hforgets : ∀ e, forgets e → cache' e = none) :
    view.Current row' cache' ↔
      ∀ e, view.owner e = k → ¬ forgets e → cache e ≠ none →
        view.project e r' = view.project e r := by
  constructor
  · intro h' e howner hstay hpresent
    obtain ⟨v, hv⟩ := Option.ne_none_iff_exists'.mp hpresent
    have hold : (row (view.owner e)).map (view.project e) = some v := h e v hv
    have hnew : (row' (view.owner e)).map (view.project e) = some v :=
      h' e v ((hstays e hstay).trans hv)
    rw [howner, hr, Option.map_some] at hold
    rw [howner, hr', Option.map_some] at hnew
    exact Option.some.inj (hnew.trans hold.symm)
  · intro hsame e v he
    by_cases hforget : forgets e
    · cases (hforgets e hforget).symm.trans he
    · have hbefore : cache e = some v := (hstays e hforget).symm.trans he
      by_cases howner : view.owner e = k
      · have hv : (row (view.owner e)).map (view.project e) = some v := h e v hbefore
        have hpresent : cache e ≠ none := by
          rw [hbefore]
          exact Option.some_ne_none v
        rw [howner, hr, Option.map_some] at hv
        rw [howner, hr', Option.map_some, hsame e howner hforget hpresent, hv]
      · rw [hother _ howner]
        exact h e v hbefore

/-- The same for a row of a keyed table, and a list of entries that the write forgets. -/
theorem current_modify_iff [DecidableEq κ] [DecidableEq E] [Keyed ρ κ] {table : List ρ}
    (h : view.Current (Keyed.get? table) cache) {k : κ} {r : ρ}
    (hr : Keyed.get? table k = some r) {write : ρ → ρ}
    (hkey : ∀ r, Keyed.key (write r) = Keyed.key r) (forgets : List E) :
    view.Current (Keyed.get? (Keyed.modify table k write))
        (fun e => if e ∈ forgets then none else cache e) ↔
      ∀ e, view.owner e = k → e ∉ forgets → cache e ≠ none →
        view.project e (write r) = view.project e r := by
  have hnew : Keyed.get? (Keyed.modify table k write) k = some (write r) := by
    rw [Keyed.get?_modify_self _ _ hkey, hr]
    rfl
  apply current_rewrite_iff (· ∈ forgets) h hr hnew
  · intro k' hk'
    exact Keyed.get?_modify_ne _ hk' hkey
  · intro e he
    exact if_neg he
  · intro e he
    exact if_pos he

end View

end CacheAside
