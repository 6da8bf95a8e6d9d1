import Mathlib.Data.List.Infix
import SmsLite.Lib.Select

/-!
# Searching for a text with `LIKE`

A query often searches for the columns that contain a text by putting the text between two `%`.
That is right for a text without metacharacters, and for no other text, unless the column is too
short for what the pattern asks.

## Main definitions

* `Like.Meta`, `Like.Plain` — the metacharacters, and the texts without them.
* `Like.Occurs` — the text occurs in the column, up to case.
* `Like.contains` — the pattern with the text between two `%`.
* `Like.sample` — a shortest column that the pattern accepts.

## Main results

* `Like.contains_iff_of_plain` — **for a plain text the pattern accepts the columns in which the
  text occurs**.
* `Like.not_occurs_sample` — any other text does not occur in its sample.
* `Like.contains_exact_iff` — **on the columns of bounded length the pattern is right exactly if
  the text is plain or asks for more characters than the bound**.
-/

namespace Like

/-- A character that does not stand for itself in a pattern. -/
def Meta (c : Char) : Prop := c = '%' ∨ c = '_' ∨ c = '\\'

instance : DecidablePred Meta := fun _ => inferInstanceAs (Decidable (_ ∨ _))

/-- A text without metacharacters. -/
def Plain (text : List Char) : Prop := ∀ c ∈ text, ¬ Meta c

instance : DecidablePred Plain := fun text => List.decidableBAll (fun c => ¬ Meta c) text

/-- The text occurs in the column, where `lower` forgets the case of a character. -/
def Occurs (lower : Char → Char) (text column : List Char) : Prop :=
  text.map lower <:+: column.map lower

instance (lower : Char → Char) (text column : List Char) : Decidable (Occurs lower text column) :=
  inferInstanceAs (Decidable (_ <:+: _))

/-- The pattern `%text%` accepts the column. -/
def contains (lower : Char → Char) (text column : List Char) : Bool :=
  accepts (fun c d => decide (lower c = lower d)) ('%' :: (text ++ ['%'])) column

section Accepts

variable {same : Char → Char → Bool} {pattern text : List Char} {c d : Char}

@[simp] theorem accepts_nil : accepts same [] text = text.isEmpty := rfl

theorem accepts_percent :
    accepts same ('%' :: pattern) text = text.tails.any (accepts same pattern) := rfl

@[simp] theorem accepts_underscore_nil : accepts same ('_' :: pattern) [] = false := rfl

theorem accepts_underscore_cons :
    accepts same ('_' :: pattern) (d :: text) = accepts same pattern text := rfl

@[simp] theorem accepts_escape_nil : accepts same ('\\' :: c :: pattern) [] = false := rfl

theorem accepts_escape_cons :
    accepts same ('\\' :: c :: pattern) (d :: text) =
      (same c d && accepts same pattern text) := rfl

theorem accepts_literal_cons (hc : ¬ Meta c) :
    accepts same (c :: pattern) (d :: text) = (same c d && accepts same pattern text) := by
  rw [accepts]
  · intro hpercent
    exact hc (Or.inl hpercent)
  · intro hunderscore
    exact hc (Or.inr (Or.inl hunderscore))
  · intro e rest hescape _
    exact hc (Or.inr (Or.inr hescape))

theorem accepts_literal_nil (hc : ¬ Meta c) : accepts same (c :: pattern) [] = false := by
  rw [accepts]
  · intro hpercent
    exact hc (Or.inl hpercent)
  · intro hunderscore
    exact hc (Or.inr (Or.inl hunderscore))
  · intro e rest hescape _
    exact hc (Or.inr (Or.inr hescape))

end Accepts

/-! ### Plain texts -/

section Plain

variable {lower : Char → Char} {text column : List Char}

/-- `%` at the end of a pattern accepts all that is left. -/
theorem accepts_any {same : Char → Char → Bool} (column : List Char) :
    accepts same ['%'] column = true := by
  rw [accepts_percent, List.any_eq_true]
  exact ⟨[], by simp, by simp⟩

/-- A plain text followed by `%` accepts the columns that begin with the text. -/
theorem accepts_plain_iff (hplain : Plain text) :
    accepts (fun c d => decide (lower c = lower d)) (text ++ ['%']) column = true ↔
      text.map lower <+: column.map lower := by
  induction text generalizing column with
  | nil => simp [accepts_any]
  | cons c text ih =>
    have hc : ¬ Meta c := hplain c List.mem_cons_self
    have htext : Plain text := fun d hd => hplain d (List.mem_cons_of_mem c hd)
    rw [List.cons_append]
    cases column with
    | nil => simp [accepts_literal_nil hc]
    | cons d column =>
      rw [accepts_literal_cons hc, Bool.and_eq_true, ih htext, decide_eq_true_eq, List.map_cons,
        List.map_cons, List.cons_prefix_cons]

/-- **For a plain text the pattern accepts the columns in which the text occurs.** -/
theorem contains_iff_of_plain (hplain : Plain text) :
    contains lower text column = true ↔ Occurs lower text column := by
  unfold contains Occurs
  rw [accepts_percent, List.any_eq_true]
  constructor
  · rintro ⟨rest, hrest, haccepts⟩
    have hsuffix : rest.map lower <:+ column.map lower := ((List.mem_tails _ _).mp hrest).map lower
    exact ((accepts_plain_iff hplain).mp haccepts).isInfix.trans hsuffix.isInfix
  · rintro ⟨before, after, hcolumn⟩
    obtain ⟨front, rest, rfl, -, hrest⟩ :=
      List.map_eq_append_iff.mp ((List.append_assoc _ _ _ ▸ hcolumn).symm)
    refine ⟨rest, (List.mem_tails _ _).mpr (List.suffix_append _ _), ?_⟩
    exact (accepts_plain_iff hplain).mpr ⟨after, hrest.symm⟩

end Plain

/-! ### Samples -/

/-- A shortest column that the pattern of the text accepts: `%` stands for nothing, `_` for a `%`,
an escaped character for itself, and a backslash at the end for the `%` that it escapes. -/
def sample : List Char → List Char
  | [] => []
  | '%' :: text => sample text
  | '_' :: text => '%' :: sample text
  | '\\' :: c :: text => c :: sample text
  | ['\\'] => ['%']
  | c :: text => c :: sample text

theorem sample_percent (text : List Char) : sample ('%' :: text) = sample text := rfl

theorem sample_underscore (text : List Char) : sample ('_' :: text) = '%' :: sample text := rfl

theorem sample_escape (c : Char) (text : List Char) :
    sample ('\\' :: c :: text) = c :: sample text := rfl

theorem sample_backslash : sample ['\\'] = ['%'] := rfl

/-- Induction on a text by what its first character means in a pattern. -/
@[elab_as_elim]
theorem text_induction {motive : List Char → Prop} (text : List Char) (nil : motive [])
    (percent : ∀ text, motive text → motive ('%' :: text))
    (underscore : ∀ text, motive text → motive ('_' :: text))
    (escape : ∀ c text, motive text → motive ('\\' :: c :: text))
    (backslash : motive ['\\'])
    (literal : ∀ c text, ¬ Meta c → motive text → motive (c :: text)) : motive text := by
  induction text using sample.induct with
  | case1 => exact nil
  | case2 text ih => exact percent text ih
  | case3 text ih => exact underscore text ih
  | case4 c text ih => exact escape c text ih
  | case5 => exact backslash
  | case6 c text hpercent hunderscore hescape hbackslash ih =>
    refine literal c text ?_ ih
    rintro (rfl | rfl | rfl)
    · exact hpercent rfl
    · exact hunderscore rfl
    · cases text with
      | nil => exact hbackslash rfl rfl
      | cons d text => exact hescape d text rfl rfl

theorem sample_literal {c : Char} (hc : ¬ Meta c) (text : List Char) :
    sample (c :: text) = c :: sample text := by
  rw [sample]
  · intro hpercent
    exact hc (Or.inl hpercent)
  · intro hunderscore
    exact hc (Or.inr (Or.inl hunderscore))
  · intro d rest hescape _
    exact hc (Or.inr (Or.inr hescape))
  · intro hescape _
    exact hc (Or.inr (Or.inr hescape))

theorem length_sample_le (text : List Char) : (sample text).length ≤ text.length := by
  induction text using text_induction with
  | nil => exact le_rfl
  | percent text ih =>
    show (sample text).length ≤ text.length + 1
    omega
  | underscore text ih =>
    show (sample text).length + 1 ≤ text.length + 1
    omega
  | escape c text ih =>
    show (sample text).length + 1 ≤ text.length + 2
    omega
  | backslash => exact le_rfl
  | literal c text hc ih =>
    rw [sample_literal hc, List.length_cons, List.length_cons]
    omega

section Sample

variable {same : Char → Char → Bool} {lower : Char → Char} {text column : List Char}

/-- The pattern accepts the sample. -/
theorem accepts_sample (hsame : ∀ c, same c c = true) (text : List Char) :
    accepts same (text ++ ['%']) (sample text) = true := by
  induction text using text_induction with
  | nil => exact accepts_any _
  | percent text ih =>
    rw [List.cons_append, accepts_percent, List.any_eq_true]
    exact ⟨sample text, by simp [sample_percent], ih⟩
  | underscore text ih =>
    rw [List.cons_append, sample_underscore, accepts_underscore_cons]
    exact ih
  | escape c text ih =>
    rw [List.cons_append, List.cons_append, sample_escape, accepts_escape_cons, hsame, ih]
    rfl
  | backslash =>
    show accepts same ['\\', '%'] ['%'] = true
    rw [accepts_escape_cons, hsame, accepts_nil]
    rfl
  | literal c text hc ih =>
    rw [List.cons_append, sample_literal hc, accepts_literal_cons hc, hsame, ih]
    rfl

/-- No accepted column is shorter than the sample. -/
theorem length_sample_le_of_accepts (h : accepts same (text ++ ['%']) column = true) :
    (sample text).length ≤ column.length := by
  induction text using text_induction generalizing column with
  | nil => exact Nat.zero_le _
  | percent text ih =>
    rw [List.cons_append, accepts_percent, List.any_eq_true] at h
    obtain ⟨rest, hrest, haccepts⟩ := h
    have hle := ((List.mem_tails _ _).mp hrest).length_le
    exact (ih haccepts).trans hle
  | underscore text ih =>
    rw [List.cons_append] at h
    cases column with
    | nil => simp at h
    | cons d column =>
      rw [accepts_underscore_cons] at h
      exact Nat.succ_le_succ (ih h)
  | escape c text ih =>
    rw [List.cons_append, List.cons_append] at h
    cases column with
    | nil => simp at h
    | cons d column =>
      rw [accepts_escape_cons, Bool.and_eq_true] at h
      exact Nat.succ_le_succ (ih h.2)
  | backslash =>
    cases column with
    | nil => simp at h
    | cons d column => exact Nat.succ_le_succ (Nat.zero_le _)
  | literal c text hc ih =>
    rw [List.cons_append] at h
    rw [sample_literal hc]
    cases column with
    | nil =>
      rw [accepts_literal_nil hc] at h
      cases h
    | cons d column =>
      rw [accepts_literal_cons hc, Bool.and_eq_true] at h
      exact Nat.succ_le_succ (ih h.2)

theorem contains_sample (text : List Char) : contains lower text (sample text) = true := by
  unfold contains
  rw [accepts_percent, List.any_eq_true]
  exact ⟨sample text, by simp, accepts_sample (fun c => decide_eq_true rfl) text⟩

theorem length_sample_le_of_contains (h : contains lower text column = true) :
    (sample text).length ≤ column.length := by
  unfold contains at h
  rw [accepts_percent, List.any_eq_true] at h
  obtain ⟨rest, hrest, haccepts⟩ := h
  have hle := ((List.mem_tails _ _).mp hrest).length_le
  exact (length_sample_le_of_accepts haccepts).trans hle

theorem Occurs.length_le (h : Occurs lower text column) : text.length ≤ column.length := by
  have hle := List.IsInfix.length_le h
  rwa [List.length_map, List.length_map] at hle

/-- The sample of a text is as long and the same up to case only if the text is plain. -/
theorem plain_of_sample (hmeta : ∀ c, Meta c → lower c = c)
    (hlength : (sample text).length = text.length)
    (hsame : text.map lower = (sample text).map lower) : Plain text := by
  have hpercent : lower '%' = '%' := hmeta '%' (by decide)
  induction text using text_induction with
  | nil => exact fun c hc => absurd hc List.not_mem_nil
  | percent text ih =>
    have hle := length_sample_le text
    have heq : (sample text).length = text.length + 1 := hlength
    omega
  | underscore text ih =>
    rw [sample_underscore, List.map_cons, List.map_cons, hpercent, hmeta '_' (by decide)] at hsame
    exact absurd (List.cons.inj hsame).1 (by decide)
  | escape c text ih =>
    have hle := length_sample_le text
    have heq : (sample text).length + 1 = text.length + 2 := hlength
    omega
  | backslash =>
    rw [sample_backslash, List.map_cons, List.map_cons, hpercent, hmeta '\\' (by decide)] at hsame
    exact absurd (List.cons.inj hsame).1 (by decide)
  | literal c text hc ih =>
    rw [sample_literal hc] at hlength hsame
    have hplain := ih (Nat.succ.inj hlength) (List.cons.inj hsame).2
    intro d hd
    rcases List.mem_cons.mp hd with rfl | hd
    · exact hc
    · exact hplain d hd

/-- **A text with a metacharacter does not occur in its sample.** -/
theorem not_occurs_sample (hmeta : ∀ c, Meta c → lower c = c) (h : ¬ Plain text) :
    ¬ Occurs lower text (sample text) := by
  intro hoccurs
  have hlength : (sample text).length = text.length :=
    le_antisymm (length_sample_le text) hoccurs.length_le
  have hsame : text.map lower = (sample text).map lower := by
    refine List.IsInfix.eq_of_length hoccurs ?_
    rw [List.length_map, List.length_map, hlength]
  exact h (plain_of_sample hmeta hlength hsame)

/-- **On the columns of bounded length the pattern is right exactly if** the text is plain or asks
for more characters than the bound. -/
theorem contains_exact_iff (hmeta : ∀ c, Meta c → lower c = c) (size : ℕ) :
    (∀ column : List Char, column.length ≤ size →
      (contains lower text column = true ↔ Occurs lower text column)) ↔
      Plain text ∨ size < (sample text).length := by
  constructor
  · intro hexact
    by_contra hnot
    push Not at hnot
    obtain ⟨hmetas, hsize⟩ := hnot
    exact not_occurs_sample hmeta hmetas ((hexact (sample text) hsize).mp (contains_sample text))
  · rintro (hplain | hsize) column hcolumn
    · exact contains_iff_of_plain hplain
    · constructor
      · intro hcontains
        have hle := length_sample_le_of_contains hcontains
        omega
      · intro hoccurs
        have hle := hoccurs.length_le
        have hsample := length_sample_le text
        omega

end Sample

end Like
