import Mathlib.Data.List.Perm.Basic
import Mathlib.Tactic.Ring
import SmsLite.Lib.Select

/-!
# Walking through the pages of a query

A client reads a list page by page, until it is told that there is no more.  The server may
arrange equal rows anew for every page, so a row may be shown twice and another one never.  What
the client gets is right whatever the server does exactly if no page ends between equal rows.

## Main definitions

* `Paging.crawl` — the client, with fuel.
* `Paging.pages` — some pages in a row.
* `Select.before`, `Select.upto` — the rows ranked before a row, and those not ranked after it.
* `Select.Aligned` — no page ends between equal rows.

## Main results

* `Paging.crawl_eq` — **the client ends**, with the pages that cover the list.
* `Select.Arrangement.take_perm` — where no equal rows are cut apart, every arrangement begins
  with the same rows.
* `Select.complete_iff` — **the client gets every row once exactly if the pages are aligned**.
-/

namespace Paging

variable {β : Type}

/-- The client: it asks for the page at `skip` and, while there is more, for the one after it. -/
def crawl (page : ℕ → List β) (more : ℕ → Bool) (limit : ℕ) : ℕ → ℕ → Option (List β)
  | 0, _ => none
  | fuel + 1, skip =>
    if more skip then (crawl page more limit fuel (skip + limit)).map (page skip ++ ·)
    else some (page skip)

/-- The pages in a row from `skip` on. -/
def pages (page : ℕ → List β) (limit : ℕ) : ℕ → ℕ → List β
  | 0, _ => []
  | count + 1, skip => page skip ++ pages page limit count (skip + limit)

variable {page page' : ℕ → List β} {more : ℕ → Bool} {limit : ℕ}

@[simp] theorem pages_zero (skip : ℕ) : pages page limit 0 skip = [] := rfl

theorem pages_succ (count skip : ℕ) :
    pages page limit (count + 1) skip = page skip ++ pages page limit count (skip + limit) := rfl

theorem pages_add (count count' skip : ℕ) :
    pages page limit (count + count') skip =
      pages page limit count skip ++ pages page limit count' (skip + count * limit) := by
  induction count generalizing skip with
  | zero => simp
  | succ count ih =>
    have hskip : skip + limit + count * limit = skip + (count + 1) * limit := by ring
    rw [Nat.add_right_comm, pages_succ, pages_succ, ih, List.append_assoc, hskip]

/-- Pages that agree where they are asked for. -/
theorem pages_congr {count skip : ℕ}
    (h : ∀ i < count, page (skip + i * limit) = page' (skip + i * limit)) :
    pages page limit count skip = pages page' limit count skip := by
  induction count generalizing skip with
  | zero => rfl
  | succ count ih =>
    rw [pages_succ, pages_succ]
    have hfirst : page skip = page' skip := by simpa using h 0 (Nat.succ_pos count)
    rw [hfirst, ih fun i hi => ?_]
    have hlater := h (i + 1) (by omega)
    have hskip : skip + (i + 1) * limit = skip + limit + i * limit := by ring
    rwa [hskip] at hlater

/-- More fuel makes no difference to a client that has ended. -/
theorem crawl_mono {fuel skip : ℕ} {items : List β}
    (h : crawl page more limit fuel skip = some items) (extra : ℕ) :
    crawl page more limit (fuel + extra) skip = some items := by
  induction fuel generalizing skip items with
  | zero => cases h
  | succ fuel ih =>
    rw [Nat.add_right_comm]
    unfold crawl at h ⊢
    by_cases hmore : more skip = true
    · rw [if_pos hmore] at h ⊢
      obtain ⟨rest, hrest, rfl⟩ := Option.map_eq_some_iff.mp h
      rw [ih hrest]
      rfl
    · rw [if_neg hmore] at h ⊢
      exact h

/-- The client of what is made of the rows. -/
theorem crawl_map {γ : Type} (f : β → γ) (limit fuel skip : ℕ) :
    crawl (fun skip => (page skip).map f) more limit fuel skip =
      (crawl page more limit fuel skip).map (List.map f) := by
  induction fuel generalizing skip with
  | zero => rfl
  | succ fuel ih =>
    unfold crawl
    by_cases hmore : more skip = true
    · rw [if_pos hmore, if_pos hmore, ih, Option.map_map, Option.map_map]
      have hitems : (((page skip).map f ++ ·) ∘ List.map f : List β → List γ) =
          List.map f ∘ (page skip ++ ·) := by
        funext rest
        exact List.map_append.symm
      rw [hitems]
    · rw [if_neg hmore, if_neg hmore]
      rfl

/-- **The client ends**, with pages that cover the list of `total` rows. -/
theorem crawl_eq {total : ℕ} (hlimit : 0 < limit)
    (hmore : ∀ skip, more skip = decide (skip + limit < total)) (skip : ℕ) :
    ∃ count, total ≤ skip + count * limit ∧ ∀ page : ℕ → List β,
      crawl page more limit count skip = some (pages page limit count skip) := by
  -- on the number of rows that are left
  induction hleft : total - skip using Nat.strong_induction_on generalizing skip with
  | _ left ih =>
    by_cases hlast : skip + limit < total
    · obtain ⟨count, htotal, hcrawl⟩ := ih (total - (skip + limit)) (by omega) (skip + limit) rfl
      refine ⟨count + 1, ?_, fun page => ?_⟩
      · have hskip : skip + limit + count * limit = skip + (count + 1) * limit := by ring
        omega
      · have htrue : more skip = true := by simpa [hmore] using hlast
        unfold crawl
        rw [if_pos htrue, hcrawl page]
        rfl
    · refine ⟨1, by omega, fun page => ?_⟩
      have hfalse : ¬ more skip = true := by simpa [hmore] using hlast
      unfold crawl
      rw [if_neg hfalse, pages_succ, pages_zero, List.append_nil]

end Paging

theorem Ranking.le_refl {α : Type} (r : Ranking α) (a : α) : r.le a a = true := by
  simpa using r.total a a

namespace Select

open Paging

variable {α : Type} {q : Select α} {table : List α}

/-- How many rows are ranked before the row. -/
def before (q : Select α) (table : List α) (a : α) : ℕ :=
  (q.rows table).countP fun b => !q.ranking.le a b

/-- How many rows are not ranked after the row. -/
def upto (q : Select α) (table : List α) (a : α) : ℕ :=
  (q.rows table).countP fun b => q.ranking.le b a

/-- A cut after so many rows leaves equal rows together: none has its first equal before the cut
and its last one after it. -/
def CutsClean (q : Select α) (table : List α) (cut : ℕ) : Prop :=
  ∀ a ∈ q.rows table, ¬ (q.before table a < cut ∧ cut < q.upto table a)

/-- No page of the given size ends between equal rows. -/
def Aligned (q : Select α) (table : List α) (limit : ℕ) : Prop :=
  ∀ k, q.CutsClean table (k * limit)

theorem upto_le_count (a : α) : q.upto table a ≤ q.count table := List.countP_le_length

namespace Arrangement

variable (A : q.Arrangement table) {cut : ℕ}

/-- Both halves of a cut count. -/
theorem countP_eq (p : α → Bool) :
    (q.rows table).countP p = (A.ordered.take cut).countP p + (A.ordered.drop cut).countP p := by
  rw [← List.countP_append, List.take_append_drop]
  exact (A.perm.countP_eq p).symm

theorem le_of_cut {a b : α} (ha : a ∈ A.ordered.take cut) (hb : b ∈ A.ordered.drop cut) :
    q.ranking.le a b = true := by
  have hsorted := A.pairwise
  rw [← List.take_append_drop cut A.ordered, List.pairwise_append] at hsorted
  exact hsorted.2.2 a ha b hb

/-- A row before the cut has its first equal before the cut. -/
theorem before_lt {a : α} (ha : a ∈ A.ordered.take cut) : q.before table a < cut := by
  have hdrop : (A.ordered.drop cut).countP (fun b => !q.ranking.le a b) = 0 := by
    refine List.countP_eq_zero.mpr fun b hb => ?_
    simp [A.le_of_cut ha hb]
  have htake : (A.ordered.take cut).countP (fun b => !q.ranking.le a b) <
      (A.ordered.take cut).length := by
    refine lt_of_le_of_ne List.countP_le_length fun hall => ?_
    have hself := List.countP_eq_length.mp hall a ha
    simp [Ranking.le_refl] at hself
  have hlength : (A.ordered.take cut).length ≤ cut := List.length_take_le _ _
  unfold before
  rw [A.countP_eq, hdrop]
  omega

/-- A row after the cut has its last equal after the cut. -/
theorem cut_lt_upto {a : α} (ha : a ∈ A.ordered.drop cut) : cut < q.upto table a := by
  have htake : (A.ordered.take cut).countP (fun b => q.ranking.le b a) =
      (A.ordered.take cut).length := by
    exact List.countP_eq_length.mpr fun b hb => A.le_of_cut hb ha
  have hdrop : 0 < (A.ordered.drop cut).countP fun b => q.ranking.le b a :=
    List.countP_pos_iff.mpr ⟨a, ha, q.ranking.le_refl a⟩
  have hlength : cut < A.ordered.length := by
    by_contra hle
    rw [List.drop_eq_nil_of_le (not_lt.mp hle)] at ha
    cases ha
  have htakeLength : (A.ordered.take cut).length = cut := by
    rw [List.length_take]
    omega
  unfold upto
  rw [A.countP_eq, htake, htakeLength]
  omega

/-- **Where no equal rows are cut apart, every arrangement begins with the same rows.** -/
theorem take_perm (h : q.CutsClean table cut) :
    (A.ordered.take cut).Perm
      ((q.rows table).filter fun a => decide (q.upto table a ≤ cut)) := by
  have hmem : ∀ a ∈ A.ordered, a ∈ q.rows table := fun a ha => A.perm.mem_iff.mp ha
  have htake : (A.ordered.take cut).filter (fun a => decide (q.upto table a ≤ cut)) =
      A.ordered.take cut := by
    refine List.filter_eq_self.mpr fun a ha => decide_eq_true ?_
    by_contra hlt
    exact h a (hmem a (List.mem_of_mem_take ha)) ⟨A.before_lt ha, not_le.mp hlt⟩
  have hdrop : (A.ordered.drop cut).filter (fun a => decide (q.upto table a ≤ cut)) = [] := by
    refine List.filter_eq_nil_iff.mpr fun a ha hle => ?_
    exact absurd (of_decide_eq_true hle) (not_le.mpr (A.cut_lt_upto ha))
  have hall := A.perm.filter fun a => decide (q.upto table a ≤ cut)
  rw [← List.take_append_drop cut A.ordered, List.filter_append, htake, hdrop,
    List.append_nil] at hall
  exact hall

end Arrangement

/-- Aligned pages of any arrangements are the first rows. -/
theorem Aligned.pages_perm {limit : ℕ} (h : q.Aligned table limit)
    (A : ℕ → q.Arrangement table) (count : ℕ) :
    (pages (fun skip => (A skip).page skip limit) limit count 0).Perm
      ((q.rows table).filter fun a => decide (q.upto table a ≤ count * limit)) := by
  induction count with
  | zero =>
    have hclean := ((A 0).take_perm (h 0)).symm
    rw [Nat.zero_mul] at hclean ⊢
    exact hclean.symm
  | succ count ih =>
    have hnext : (count + 1) * limit = count * limit + limit := by ring
    have hclean := (A (count * limit)).take_perm (h count)
    have hclean' := (A (count * limit)).take_perm (h (count + 1))
    rw [hnext, List.take_add] at hclean'
    rw [pages_add, pages_succ, pages_zero, List.append_nil, Nat.zero_add, hnext]
    -- what was shown so far is where this arrangement begins
    have hbegin := ih.trans hclean.symm
    exact (hbegin.append_right _).trans hclean'

/-! ### Cutting equal rows apart -/

namespace Arrangement

/-- If all that comes after a cut is ranked after the row, its last equal is before the cut. -/
theorem upto_le (A : q.Arrangement table) {a : α} {cut : ℕ}
    (h : ∀ b ∈ A.ordered.drop cut, ¬ q.ranking.le b a = true) : q.upto table a ≤ cut := by
  have hdrop : (A.ordered.drop cut).countP (fun b => q.ranking.le b a) = 0 :=
    List.countP_eq_zero.mpr h
  have htake : (A.ordered.take cut).countP (fun b => q.ranking.le b a) ≤
      (A.ordered.take cut).length := List.countP_le_length
  have hlength : (A.ordered.take cut).length ≤ cut := List.length_take_le _ _
  unfold upto
  rw [A.countP_eq, hdrop]
  omega

/-- If all that comes before a cut is ranked before the row, its first equal is after the cut. -/
theorem le_before (A : q.Arrangement table) {a : α} {cut : ℕ} (hcut : cut ≤ A.ordered.length)
    (h : ∀ b ∈ A.ordered.take cut, ¬ q.ranking.le a b = true) : cut ≤ q.before table a := by
  have htake : (A.ordered.take cut).countP (fun b => !q.ranking.le a b) =
      (A.ordered.take cut).length := by
    refine List.countP_eq_length.mpr fun b hb => ?_
    simp [h b hb]
  have hlength : (A.ordered.take cut).length = cut := by
    rw [List.length_take]
    omega
  unfold before
  rw [A.countP_eq, htake, hlength]
  exact Nat.le_add_right _ _

/-- The elements on both sides of a cut. -/
theorem exists_neighbours {l : List α} {cut : ℕ} (hpos : 0 < cut) (hcut : cut < l.length) :
    ∃ pre x y post, l = pre ++ x :: y :: post ∧ pre.length + 1 = cut := by
  obtain ⟨before, rfl⟩ : ∃ before, cut = before + 1 := ⟨cut - 1, by omega⟩
  refine ⟨l.take before, l[before], l[before + 1], l.drop (before + 2), ?_, ?_⟩
  · rw [← List.drop_eq_getElem_cons, ← List.drop_eq_getElem_cons, List.take_append_drop]
  · rw [List.length_take]
    omega

/-- Where a cut separates equal rows, the rows on both sides of it are equal. -/
theorem exists_tied (A : q.Arrangement table) {a : α} {cut : ℕ} (hbefore : q.before table a < cut)
    (hupto : cut < q.upto table a) :
    ∃ pre x y post, A.ordered = pre ++ x :: y :: post ∧ pre.length + 1 = cut ∧
      q.ranking.le y x = true := by
  have hcut : cut < A.ordered.length := by
    have hle : q.upto table a ≤ q.count table := q.upto_le_count a
    have hcount : A.ordered.length = q.count table := A.perm.length_eq
    omega
  obtain ⟨pre, x, y, post, hord, hlength⟩ := exists_neighbours (Nat.zero_lt_of_lt hbefore) hcut
  refine ⟨pre, x, y, post, hord, hlength, ?_⟩
  have htake : A.ordered.take cut = pre ++ [x] := by
    rw [hord, ← hlength, List.take_length_add_append]
    rfl
  have hdrop : A.ordered.drop cut = y :: post := by
    rw [hord, ← hlength, List.drop_length_add_append]
    rfl
  have hsorted := A.pairwise
  rw [hord, List.pairwise_append] at hsorted
  obtain ⟨-, htail, hcross⟩ := hsorted
  obtain ⟨hy, -⟩ := List.pairwise_cons.mp (List.pairwise_cons.mp htail).2
  by_contra hyx
  by_cases hax : q.ranking.le a x = true
  -- `a` is not ranked after `x`, so it is ranked before all that follows
  · refine absurd hupto (not_lt.mpr (A.upto_le fun d hd hda => hyx ?_))
    have hyd : q.ranking.le y d = true := by
      rw [hdrop] at hd
      rcases List.mem_cons.mp hd with rfl | hd
      · exact q.ranking.le_refl d
      · exact hy d hd
    exact q.ranking.trans _ _ _ (q.ranking.trans _ _ _ hyd hda) hax
  -- `a` is ranked after `x`, and so after all that come before `x`
  · refine absurd hbefore (not_lt.mpr (A.le_before hcut.le fun t ht hat => hax ?_))
    have htx : q.ranking.le t x = true := by
      rw [htake] at ht
      rcases List.mem_append.mp ht with ht | ht
      · exact hcross t ht x List.mem_cons_self
      · rw [List.mem_singleton.mp ht]
        exact q.ranking.le_refl x
    exact q.ranking.trans _ _ _ hat htx

/-- Two equal neighbours may change places. -/
def swap (A : q.Arrangement table) {pre post : List α} {x y : α}
    (hord : A.ordered = pre ++ x :: y :: post) (hyx : q.ranking.le y x = true) :
    q.Arrangement table where
  ordered := pre ++ y :: x :: post
  perm := by
    have hswap : (pre ++ y :: x :: post).Perm (pre ++ x :: y :: post) :=
      (List.Perm.swap x y post).append_left pre
    exact hswap.trans (hord ▸ A.perm)
  pairwise := by
    have hsorted := A.pairwise
    rw [hord] at hsorted
    simp only [List.pairwise_append, List.pairwise_cons, List.mem_cons, forall_eq_or_imp]
      at hsorted ⊢
    obtain ⟨hpre, ⟨⟨-, hx⟩, hy, hpost⟩, hcross⟩ := hsorted
    exact ⟨hpre, ⟨⟨hyx, hy⟩, hx, hpost⟩, fun a ha => ⟨(hcross a ha).2.1, (hcross a ha).1,
      (hcross a ha).2.2⟩⟩

/-- Pages of one arrangement are a part of it. -/
theorem pages_eq (A : q.Arrangement table) (limit count skip : ℕ) :
    pages (fun skip => A.page skip limit) limit count skip =
      (A.ordered.drop skip).take (count * limit) := by
  induction count generalizing skip with
  | zero => simp
  | succ count ih =>
    have hnext : (count + 1) * limit = limit + count * limit := by ring
    rw [pages_succ, ih, hnext, List.take_add, List.drop_drop]
    rfl

/-- The pages before a cut from one arrangement, those after it from another one. -/
theorem pages_switch (A A' : q.Arrangement table) {limit : ℕ} (hlimit : 0 < limit)
    (k later : ℕ) :
    pages (fun skip => (if skip < k * limit then A else A').page skip limit) limit (k + later) 0 =
      A.ordered.take (k * limit) ++ (A'.ordered.drop (k * limit)).take (later * limit) := by
  rw [pages_add, Nat.zero_add]
  congr 1
  · refine Eq.trans (pages_congr fun i hi => ?_) (A.pages_eq limit k 0)
    have hlt : 0 + i * limit < k * limit := by
      rw [Nat.zero_add]
      exact Nat.mul_lt_mul_of_pos_right hi hlimit
    rw [if_pos hlt]
  · refine Eq.trans (pages_congr fun i hi => ?_) (A'.pages_eq limit later (k * limit))
    rw [if_neg (by omega)]

end Arrangement

/-! ### Completeness -/

/-- Whatever arrangement the server has for each page, the client ends, and has then got every
row that meets the conditions once. -/
def Complete (q : Select α) (table : List α) (limit : ℕ) : Prop :=
  ∀ A : ℕ → q.Arrangement table, ∃ fuel items,
    crawl (fun skip => (A skip).page skip limit)
      (fun skip => decide (skip + limit < q.count table)) limit fuel 0 = some items ∧
    items.Perm (q.rows table)

/-- Unaligned pages of two arrangements show one row twice. -/
theorem not_perm_of_unaligned {limit count : ℕ} (hlimit : 0 < limit) (hn : table.Nodup)
    (htotal : q.count table ≤ count * limit) (h : ¬ q.Aligned table limit) :
    ∃ A : ℕ → q.Arrangement table,
      ¬ (pages (fun skip => (A skip).page skip limit) limit count 0).Perm (q.rows table) := by
  unfold Aligned CutsClean at h
  push Not at h
  obtain ⟨k, a, -, hbefore, hupto⟩ := h
  obtain ⟨pre, x, y, post, hord, hlength, hyx⟩ :=
    (Arrangement.sorted q table).exists_tied hbefore hupto
  let S := Arrangement.sorted q table
  let S' := S.swap hord hyx
  obtain ⟨later, rfl⟩ : ∃ later, count = k + later := by
    have hle : q.upto table a ≤ q.count table := q.upto_le_count a
    have hk : k ≤ count := by
      by_contra hlt
      have hmul := Nat.mul_le_mul_right limit (le_of_lt (not_le.mp hlt))
      omega
    exact ⟨count - k, by omega⟩
  refine ⟨fun skip => if skip < k * limit then S else S', fun hperm => ?_⟩
  rw [S.pages_switch S' hlimit] at hperm
  -- the row `x` is the last one before the cut, and the first one after it
  have htake : S.ordered.take (k * limit) = pre ++ [x] := by
    rw [hord, ← hlength, List.take_length_add_append]
    rfl
  have hdrop : (S'.ordered.drop (k * limit)).take (later * limit) = x :: post := by
    have hrest : S'.ordered.drop (k * limit) = x :: post := by
      show (pre ++ y :: x :: post).drop (k * limit) = x :: post
      rw [← hlength, List.drop_length_add_append]
      rfl
    have hcount : (x :: post).length ≤ later * limit := by
      have hall : S.ordered.length = q.count table := S.perm.length_eq
      rw [hord] at hall
      simp only [List.length_append, List.length_cons] at hall ⊢
      rw [Nat.add_mul] at htotal
      omega
    rw [hrest, List.take_of_length_le hcount]
  rw [htake, hdrop] at hperm
  have hnodup : ((pre ++ [x]) ++ x :: post).Nodup :=
    hperm.nodup_iff.mpr (hn.filter _)
  rw [List.nodup_append] at hnodup
  exact hnodup.2.2 x (by simp) x List.mem_cons_self rfl

/-- **The client gets every row once exactly if the pages are aligned.** -/
theorem complete_iff {limit : ℕ} (hlimit : 0 < limit) (hn : table.Nodup) :
    q.Complete table limit ↔ q.Aligned table limit := by
  let more (skip : ℕ) : Bool := decide (skip + limit < q.count table)
  have hmore : ∀ skip, more skip = decide (skip + limit < q.count table) := fun _ => rfl
  obtain ⟨count, htotal, hcrawl⟩ := crawl_eq (β := α) hlimit hmore 0
  rw [Nat.zero_add] at htotal
  constructor
  · intro hcomplete
    by_contra hunaligned
    obtain ⟨A, hA⟩ := not_perm_of_unaligned hlimit hn htotal hunaligned
    obtain ⟨fuel, items, hitems, hperm⟩ := hcomplete A
    have hsame := (crawl_mono hitems count).symm
    rw [Nat.add_comm, crawl_mono (hcrawl _) fuel] at hsame
    rw [Option.some.inj hsame] at hperm
    exact hA hperm
  · intro haligned A
    refine ⟨count, _, hcrawl _, (haligned.pages_perm A count).trans ?_⟩
    have hall : (q.rows table).filter (fun a => decide (q.upto table a ≤ count * limit)) =
        q.rows table :=
      List.filter_eq_self.mpr fun a _ => decide_eq_true ((q.upto_le_count a).trans htotal)
    rw [hall]

end Select
