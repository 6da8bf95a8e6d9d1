import Mathlib.Algebra.GroupWithZero.Nat
import Mathlib.Data.List.DropRight

/-!
# Lists trimmed and rewritten letter by letter

A text is brought into normal form by cutting what does not count off its ends and rewriting each
of its letters, possibly into several.

## Main definitions

* `Trim.trim` — a list without what meets a condition at its ends.
* `Trim.Rewriting` — letters are rewritten into letters that stay as they are, and that count
  exactly if the rewritten one does.
* `Trim.normal` — the trimmed and rewritten list.

## Main results

* `Trim.Rewriting.trim_flatMap` — rewriting and trimming commute.
* `Trim.Rewriting.normal_normal` — **a normal form is its own**.
* `Trim.length_normal` — its length, letter by letter.
-/

namespace Trim

variable {α : Type}

/-- The list without what meets `p` at its ends. -/
def trim (p : α → Bool) (l : List α) : List α := (l.dropWhile p).rdropWhile p

/-- Trimmed, and then rewritten. -/
def normal (p : α → Bool) (f : α → List α) (l : List α) : List α := (trim p l).flatMap f

/-- Rewriting `f` leaves what it has written, and does not make or remove what meets `p`. -/
structure Rewriting (p : α → Bool) (f : α → List α) : Prop where
  ne_nil : ∀ a, f a ≠ []
  kept : ∀ a, ∀ b ∈ f a, f b = [b]
  congr : ∀ a, ∀ b ∈ f a, p b = p a

variable {p : α → Bool} {f : α → List α}

/-- A trimmed list does not begin with what is cut off. -/
theorem dropWhile_trim (l : List α) : (trim p l).dropWhile p = trim p l := by
  unfold trim
  cases htrim : (l.dropWhile p).rdropWhile p with
  | nil => rfl
  | cons b rest =>
    obtain ⟨cut, hcut⟩ := List.rdropWhile_prefix p (l := l.dropWhile p)
    have hhead := List.head?_dropWhile_not p l
    rw [← hcut, htrim] at hhead
    have hb : ¬ p b = true := Bool.eq_false_iff.mp hhead
    exact List.dropWhile_cons_of_neg hb

/-- A list in which nothing is cut off. -/
theorem trim_eq_self {l : List α} (h : ∀ a ∈ l, ¬ p a = true) : trim p l = l := by
  have hstart : l.dropWhile p = l := by
    cases l with
    | nil => rfl
    | cons a l => exact List.dropWhile_cons_of_neg (h a List.mem_cons_self)
  unfold trim
  rw [hstart, List.rdropWhile_eq_self_iff]
  exact fun hl => h _ (List.getLast_mem hl)

theorem trim_trim (l : List α) : trim p (trim p l) = trim p l := by
  have hstart := dropWhile_trim (p := p) l
  unfold trim at hstart ⊢
  rw [hstart, List.rdropWhile_idempotent]

theorem length_normal (l : List α) :
    (normal p f l).length = ((trim p l).map fun a => (f a).length).sum := List.length_flatMap

namespace Rewriting

variable (h : Rewriting p f)
include h

/-- The letters of a rewritten letter are cut off together, or not at all. -/
theorem dropWhile_append (a : α) (l : List α) :
    (f a ++ l).dropWhile p = if p a then l.dropWhile p else f a ++ l := by
  have hcongr := h.congr a
  have hne := h.ne_nil a
  generalize f a = written at hcongr hne
  by_cases hp : p a = true
  · rw [if_pos hp]
    clear hne
    induction written with
    | nil => rfl
    | cons b written ih =>
      have hb : p b = true := (hcongr b List.mem_cons_self).trans hp
      rw [List.cons_append, List.dropWhile_cons_of_pos hb]
      exact ih fun c hc => hcongr c (List.mem_cons_of_mem b hc)
  · rw [if_neg hp]
    cases written with
    | nil => exact absurd rfl hne
    | cons b written =>
      have hb : ¬ p b = true := by
        rw [hcongr b List.mem_cons_self]
        exact hp
      rw [List.cons_append, List.dropWhile_cons_of_neg hb]

theorem dropWhile_flatMap (l : List α) : (l.flatMap f).dropWhile p = (l.dropWhile p).flatMap f := by
  induction l with
  | nil => rfl
  | cons a l ih =>
    rw [List.flatMap_cons, h.dropWhile_append]
    by_cases hp : p a = true
    · rw [if_pos hp, List.dropWhile_cons_of_pos hp, ih]
    · rw [if_neg hp, List.dropWhile_cons_of_neg hp, List.flatMap_cons]

/-- Written backwards, it is a rewriting as well. -/
theorem reverse : Rewriting p (List.reverse ∘ f) where
  ne_nil a := by simpa using h.ne_nil a
  kept a b hb := by
    have hkept := h.kept a b (List.mem_reverse.mp hb)
    simp [hkept]
  congr a b hb := h.congr a b (List.mem_reverse.mp hb)

/-- **Rewriting and trimming commute.** -/
theorem trim_flatMap (l : List α) : trim p (l.flatMap f) = (trim p l).flatMap f := by
  unfold trim List.rdropWhile
  rw [h.dropWhile_flatMap, List.reverse_flatMap, h.reverse.dropWhile_flatMap, List.reverse_flatMap]
  congr 1
  funext a
  simp

/-- What has been rewritten stays as it is. -/
theorem flatMap_flatMap (l : List α) : (l.flatMap f).flatMap f = l.flatMap f := by
  have hkept : ∀ written : List α, (∀ b ∈ written, f b = [b]) → written.flatMap f = written := by
    intro written hwritten
    induction written with
    | nil => rfl
    | cons b written ih =>
      rw [List.flatMap_cons, hwritten b List.mem_cons_self,
        ih fun c hc => hwritten c (List.mem_cons_of_mem b hc)]
      rfl
  apply hkept
  intro b hb
  obtain ⟨a, -, hab⟩ := List.mem_flatMap.mp hb
  exact h.kept a b hab

/-- **A normal form is its own.** -/
theorem normal_normal (l : List α) : normal p f (normal p f l) = normal p f l := by
  unfold normal
  rw [h.trim_flatMap, trim_trim, h.flatMap_flatMap]

end Rewriting

end Trim
