import Mathlib.Data.List.Sort

/-!
# Queries of one table

A query keeps the rows that meet its conditions and orders them by a ranking.  A ranking may
hold rows for equal, and a server returns equal rows in any order, each time in another one:
so a page is cut from an arrangement, which is some list of the kept rows that the ranking
allows.

## Main definitions

* `Ranking`, `Ranking.linear`, `Ranking.ofColumn`, `Ranking.flip` — total preorders, decided.
* `Select`, `Select.filter`, `Select.orderBy` — queries.
* `Select.Arrangement`, `Arrangement.page` — an order of the rows, and a page of it.
* `Like.accepts` — the pattern language of `LIKE`.

## Main results

* `Select.Arrangement.mem_page` — **what a page shows meets the conditions of its query**.
* `Select.Arrangement.sorted` — every query has an arrangement.
-/

/-- A total preorder, decided. -/
structure Ranking (α : Type) where
  le : α → α → Bool
  trans : ∀ a b c, le a b = true → le b c = true → le a c = true
  total : ∀ a b, (le a b || le b a) = true

namespace Ranking

variable {α β : Type}

/-- All rows are equal: there is no `ORDER BY`. -/
def none : Ranking α where
  le _ _ := true
  trans _ _ _ _ _ := rfl
  total _ _ := rfl

/-- The order of a column. -/
def ofColumn (r : Ranking β) (column : α → β) : Ranking α where
  le a b := r.le (column a) (column b)
  trans _ _ _ := r.trans _ _ _
  total _ _ := r.total _ _

/-- `DESC`. -/
def flip (r : Ranking α) : Ranking α where
  le a b := r.le b a
  trans a b c hab hbc := r.trans c b a hbc hab
  total a b := r.total b a

/-- The order of a type. -/
def linear (α : Type) [LinearOrder α] : Ranking α where
  le a b := decide (a ≤ b)
  trans a b c hab hbc := by
    have hle : a ≤ c := (of_decide_eq_true hab).trans (of_decide_eq_true hbc)
    exact decide_eq_true hle
  total a b := by
    rcases le_total a b with h | h
    · simp [h]
    · simp [h]

end Ranking

/-- A query of a table: the conditions a row has to meet, and the order of the rows. -/
structure Select (α : Type) where
  keeps : α → Bool := fun _ => true
  ranking : Ranking α := Ranking.none

namespace Select

variable {α : Type}

/-- `query.filter(condition)`. -/
def filter (q : Select α) (condition : α → Bool) : Select α :=
  { q with keeps := fun a => q.keeps a && condition a }

/-- `query.order_by(ranking)`. -/
def orderBy (q : Select α) (ranking : Ranking α) : Select α := { q with ranking }

/-- A further condition keeps no more rows. -/
theorem keeps_of_filter {q : Select α} {condition : α → Bool} {a : α}
    (h : (q.filter condition).keeps a = true) : q.keeps a = true ∧ condition a = true :=
  Bool.and_eq_true_iff.mp h

/-- The rows that meet the conditions. -/
def rows (q : Select α) (table : List α) : List α := table.filter q.keeps

/-- `select(func.count()).select_from(query.subquery())`. -/
def count (q : Select α) (table : List α) : ℕ := (q.rows table).length

/-- An order in which a server may return the rows. -/
structure Arrangement (q : Select α) (table : List α) where
  ordered : List α
  perm : ordered.Perm (q.rows table)
  pairwise : ordered.Pairwise fun a b => q.ranking.le a b = true

namespace Arrangement

variable {q : Select α} {table : List α}

/-- The rows in the order of the ranking, equal ones as they stand in the table. -/
def sorted (q : Select α) (table : List α) : q.Arrangement table where
  ordered := (q.rows table).mergeSort q.ranking.le
  perm := List.mergeSort_perm _ _
  pairwise := List.pairwise_mergeSort q.ranking.trans q.ranking.total _

/-- `query.offset(skip).limit(limit)`. -/
def page (A : q.Arrangement table) (skip limit : ℕ) : List α := (A.ordered.drop skip).take limit

/-- **What a page shows** is in the table and meets the conditions. -/
theorem mem_page {A : q.Arrangement table} {skip limit : ℕ} {a : α} (h : a ∈ A.page skip limit) :
    a ∈ table ∧ q.keeps a = true := by
  have hordered : a ∈ A.ordered := List.mem_of_mem_drop (List.mem_of_mem_take h)
  have hrows : a ∈ q.rows table := A.perm.mem_iff.mp hordered
  exact List.mem_filter.mp hrows

end Arrangement

end Select

/-! ### Patterns -/

namespace Like

/-- The text matches the pattern: `%` stands for any string, `_` for any character, and a
backslash makes the next character stand for itself.  Characters are compared by `same`. -/
def accepts (same : Char → Char → Bool) : List Char → List Char → Bool
  | [], text => text.isEmpty
  | '%' :: pattern, text => text.tails.any (accepts same pattern)
  | '_' :: pattern, text =>
    match text with
    | [] => false
    | _ :: rest => accepts same pattern rest
  | '\\' :: c :: pattern, text =>
    match text with
    | [] => false
    | d :: rest => same c d && accepts same pattern rest
  | c :: pattern, text =>
    match text with
    | [] => false
    | d :: rest => same c d && accepts same pattern rest

end Like
