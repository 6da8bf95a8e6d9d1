import Mathlib.Computability.RegularExpressions
import Mathlib.Data.List.Chain

/-!
# Words of segments

A word of segments, with one separator between any two of them, can be recognised from its
characters alone: all of them are known, no separator is the last one, and no two separators are
neighbours.

## Main definitions

* `Segments.charRange`, `Segments.oneOf`, `Segments.many1` — `[a-z]`, `[abc]` and `r+`.
* `Segments.segmented` — `[first][inner]*([sep][inner]+)*`.
* `Segments.Spaced` — what is asked of the characters.

## Main results

* `Segments.rest_eq` — what may follow a character, one character further.
* `Segments.mem_rest_iff` — **what may follow a character is what is spaced**.
* `Segments.mem_segmented_iff` — **the words of the expression are the spaced ones that begin
  with a first character**.
-/

namespace Segments

open Computability

/-! ### Classes of characters -/

/-- `[lo-hi]`: the characters from `lo` to `hi`. -/
def charRange (lo hi : Char) : List Char :=
  ((List.range' lo.toNat (hi.toNat + 1 - lo.toNat)).map Char.ofNat).filter fun c =>
    decide (lo ≤ c ∧ c ≤ hi)

theorem mem_charRange {lo hi c : Char} : c ∈ charRange lo hi ↔ lo ≤ c ∧ c ≤ hi := by
  unfold charRange
  rw [List.mem_filter, decide_eq_true_iff]
  refine and_iff_right_of_imp ?_
  rintro ⟨hlo, hhi⟩
  apply List.mem_map.mpr
  refine ⟨c.toNat, List.mem_range'_1.mpr ?_, Char.ofNat_toNat c⟩
  have hlo : lo.toNat ≤ c.toNat := hlo
  have hhi : c.toNat ≤ hi.toNat := hhi
  omega

section Words

variable {α : Type} {first inner sep cs : List α} {a : α} {w : List α} {L : Language α}

/-- `[cs]`: one of the characters. -/
def oneOf : List α → RegularExpression α
  | [] => 0
  | c :: cs => .char c + oneOf cs

/-- `r+`: the expression once or more often. -/
def many1 (r : RegularExpression α) : RegularExpression α := r * .star r

theorem mem_oneOf : w ∈ (oneOf cs).matches' ↔ ∃ c ∈ cs, w = [c] := by
  induction cs with
  | nil =>
    constructor
    · intro h
      cases h
    · rintro ⟨c, hc, -⟩
      cases hc
  | cons c cs ih =>
    unfold oneOf
    rw [RegularExpression.matches'_add, Language.mem_add, ih, List.exists_mem_cons_iff]
    exact Iff.rfl

theorem nil_notMem_oneOf_mul : [] ∉ (oneOf cs).matches' * L := by
  intro h
  obtain ⟨u, hu, v, -, hnil⟩ := Language.mem_mul.mp h
  obtain ⟨c, -, rfl⟩ := mem_oneOf.mp hu
  cases hnil

/-- A word that begins with one of the characters. -/
theorem cons_mem_oneOf_mul : a :: w ∈ (oneOf cs).matches' * L ↔ a ∈ cs ∧ w ∈ L := by
  constructor
  · intro h
    obtain ⟨u, hu, v, hv, hcons⟩ := Language.mem_mul.mp h
    obtain ⟨c, hc, rfl⟩ := mem_oneOf.mp hu
    obtain ⟨rfl, rfl⟩ := List.cons.inj hcons
    exact ⟨hc, hv⟩
  · rintro ⟨ha, hw⟩
    exact Language.append_mem_mul (mem_oneOf.mpr ⟨a, ha, rfl⟩) hw

/-! ### Segments -/

/-- `[inner]*([sep][inner]+)*`: what may follow a character of a segment. -/
def rest (inner sep : List α) : RegularExpression α :=
  .star (oneOf inner) * .star (oneOf sep * many1 (oneOf inner))

/-- `[first][inner]*([sep][inner]+)*`. -/
def segmented (first inner sep : List α) : RegularExpression α :=
  oneOf first * .star (oneOf inner) * .star (oneOf sep * many1 (oneOf inner))

/-- All characters are known, the last one is no separator, and separators are apart. -/
structure Spaced (inner sep w : List α) : Prop where
  known : ∀ c ∈ w, c ∈ inner ∨ c ∈ sep
  last : ∀ c ∈ w.getLast?, c ∉ sep
  apart : w.IsChain fun c d => c ∈ sep → d ∉ sep

/-- Nothing follows, or a character of the segment, or a separator and the first character of the
next segment. -/
theorem rest_eq (inner sep : List α) :
    (rest inner sep).matches' = 1 + (oneOf inner).matches' * (rest inner sep).matches' +
      (oneOf sep).matches' * ((oneOf inner).matches' * (rest inner sep).matches') := by
  have hrest : (rest inner sep).matches' = (oneOf inner).matches'∗ *
      ((oneOf sep).matches' * ((oneOf inner).matches' * (oneOf inner).matches'∗))∗ := rfl
  rw [hrest]
  generalize (oneOf inner).matches' = I
  generalize (oneOf sep).matches' = S
  generalize hparts : (S * (I * I∗))∗ = parts
  have hinner : 1 + I * I∗ = I∗ := Language.one_add_self_mul_kstar_eq_kstar I
  have hunfold : 1 + S * (I * I∗) * parts = parts := by
    rw [← hparts]
    exact Language.one_add_self_mul_kstar_eq_kstar _
  calc
    I∗ * parts = (1 + I * I∗) * parts := by rw [hinner]
    _ = parts + I * I∗ * parts := by rw [add_mul, one_mul]
    _ = 1 + S * (I * I∗) * parts + I * I∗ * parts := by rw [hunfold]
    _ = 1 + I * (I∗ * parts) + S * (I * (I∗ * parts)) := by
      simp only [mul_assoc]
      exact add_right_comm _ _ _

theorem nil_mem_rest : [] ∈ (rest inner sep).matches' := by
  rw [rest_eq]
  exact Or.inl (Or.inl rfl)

/-- What may follow a character, one character further. -/
theorem cons_mem_rest_iff :
    a :: w ∈ (rest inner sep).matches' ↔ a ∈ inner ∧ w ∈ (rest inner sep).matches' ∨
      a ∈ sep ∧ w ∈ (oneOf inner).matches' * (rest inner sep).matches' := by
  conv_lhs => rw [rest_eq]
  rw [Language.mem_add, Language.mem_add, cons_mem_oneOf_mul, cons_mem_oneOf_mul]
  exact or_congr_left (or_iff_right (by intro h; cases h))

/-- A segment may follow exactly if something may follow that does not begin with a separator. -/
theorem mem_oneOf_mul_rest_iff (hdisjoint : inner.Disjoint sep) :
    w ∈ (oneOf inner).matches' * (rest inner sep).matches' ↔
      (∃ b ∈ w.head?, b ∉ sep) ∧ w ∈ (rest inner sep).matches' := by
  cases w with
  | nil => exact iff_of_false nil_notMem_oneOf_mul (by rintro ⟨⟨_, ⟨⟩, _⟩, _⟩)
  | cons b w =>
    rw [cons_mem_oneOf_mul, cons_mem_rest_iff]
    constructor
    · rintro ⟨hb, hw⟩
      exact ⟨⟨b, rfl, fun h => hdisjoint hb h⟩, Or.inl ⟨hb, hw⟩⟩
    · rintro ⟨⟨b', hb', hsep⟩, h⟩
      cases hb'
      rcases h with h | ⟨hmem, -⟩
      · exact h
      · exact absurd hmem hsep

/-! ### Spaced words -/

theorem spaced_nil : Spaced inner sep [] :=
  ⟨fun _ h => absurd h List.not_mem_nil, (by intro _ h; cases h), List.isChain_nil⟩

/-- A character of a segment in front changes nothing. -/
theorem spaced_cons_inner (hdisjoint : inner.Disjoint sep) (ha : a ∈ inner) :
    Spaced inner sep (a :: w) ↔ Spaced inner sep w := by
  have hsep : a ∉ sep := fun h => hdisjoint ha h
  constructor
  · intro h
    refine ⟨fun c hc => h.known c (List.mem_cons_of_mem _ hc), ?_, (List.isChain_cons.mp h.apart).2⟩
    cases w with
    | nil => rintro _ ⟨⟩
    | cons b w => exact h.last
  · intro h
    refine ⟨fun c hc => ?_, ?_, List.isChain_cons.mpr ⟨fun _ _ hmem => absurd hmem hsep, h.apart⟩⟩
    · rcases List.mem_cons.mp hc with rfl | hc
      · exact Or.inl ha
      · exact h.known c hc
    · cases w with
      | nil =>
        rintro c ⟨⟩
        exact hsep
      | cons b w => exact h.last

/-- A separator in front has to be followed by a segment. -/
theorem spaced_cons_sep (ha : a ∈ sep) :
    Spaced inner sep (a :: w) ↔ (∃ b ∈ w.head?, b ∉ sep) ∧ Spaced inner sep w := by
  constructor
  · intro h
    cases w with
    | nil => exact absurd ha (h.last a rfl)
    | cons b w =>
      obtain ⟨hnext, hchain⟩ := List.isChain_cons.mp h.apart
      exact ⟨⟨b, rfl, hnext b rfl ha⟩, fun c hc => h.known c (List.mem_cons_of_mem _ hc), h.last,
        hchain⟩
  · rintro ⟨⟨b, hb, hsep⟩, h⟩
    cases w with
    | nil => cases hb
    | cons b' w =>
      cases hb
      refine ⟨fun c hc => ?_, h.last, List.isChain_cons.mpr ⟨fun c hc _ => ?_, h.apart⟩⟩
      · rcases List.mem_cons.mp hc with rfl | hc
        · exact Or.inr ha
        · exact h.known c hc
      · cases hc
        exact hsep

/-- **What may follow a character is what is spaced.** -/
theorem mem_rest_iff (hdisjoint : inner.Disjoint sep) (w : List α) :
    w ∈ (rest inner sep).matches' ↔ Spaced inner sep w := by
  induction w with
  | nil => exact iff_of_true nil_mem_rest spaced_nil
  | cons a w ih =>
    rw [cons_mem_rest_iff]
    by_cases ha : a ∈ inner
    · have hsep : a ∉ sep := fun h => hdisjoint ha h
      rw [spaced_cons_inner hdisjoint ha, ih]
      simp [ha, hsep]
    · by_cases hsep : a ∈ sep
      · rw [spaced_cons_sep hsep, ← ih, mem_oneOf_mul_rest_iff hdisjoint]
        simp only [ha, hsep, false_and, true_and, false_or]
      · refine iff_of_false ?_ fun h => ?_
        · rintro (⟨h, -⟩ | ⟨h, -⟩)
          · exact ha h
          · exact hsep h
        · rcases h.known a List.mem_cons_self with h | h
          · exact ha h
          · exact hsep h

/-- **The words of the expression are the spaced ones that begin with a first character.** -/
theorem mem_segmented_iff (hdisjoint : inner.Disjoint sep) (hfirst : first ⊆ inner) {w : List α} :
    w ∈ (segmented first inner sep).matches' ↔
      (∃ c ∈ w.head?, c ∈ first) ∧ Spaced inner sep w := by
  have hsegmented : (segmented first inner sep).matches' =
      (oneOf first).matches' * (rest inner sep).matches' := mul_assoc _ _ _
  rw [hsegmented]
  cases w with
  | nil => exact iff_of_false nil_notMem_oneOf_mul (by rintro ⟨⟨_, ⟨⟩, _⟩, _⟩)
  | cons a w =>
    rw [cons_mem_oneOf_mul, mem_rest_iff hdisjoint]
    constructor
    · rintro ⟨ha, hw⟩
      exact ⟨⟨a, rfl, ha⟩, (spaced_cons_inner hdisjoint (hfirst ha)).mpr hw⟩
    · rintro ⟨⟨c, hc, hmem⟩, hw⟩
      cases hc
      exact ⟨hmem, (spaced_cons_inner hdisjoint (hfirst hmem)).mp hw⟩

end Words

end Segments
