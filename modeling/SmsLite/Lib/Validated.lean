import Mathlib.Tactic.Common

/-!
# Validation that reports everything

A body is checked field by field; what comes out is a value, or every error that was found.

## Main definitions

* `Validated` — an applicative functor that collects errors.
* `Validated.field` — the check of one field, which names it.
* `Validated.Passes` — no error is reported under a name.

## Main results

* `Validated.seq_eq_ok`, `Validated.map_eq_ok` — **a body is accepted exactly if every field
  is**.
* `Validated.passes_seq`, `Validated.passes_field` — an error names the field it is about.
-/

/-- The value, or every error that was found. -/
inductive Validated (ε α : Type)
  | ok (a : α)
  | errors (es : List ε)
  deriving DecidableEq, Repr

namespace Validated

variable {ε α β φ : Type}

/-- Both parts are checked, and the errors of both are reported. -/
def seq : Validated ε (α → β) → Validated ε α → Validated ε β
  | .ok f, .ok a => .ok (f a)
  | .errors es, .ok _ => .errors es
  | .ok _, .errors es => .errors es
  | .errors es, .errors es' => .errors (es ++ es')

instance : Applicative (Validated ε) where
  pure := .ok
  seq f x := seq f (x ())

/-- The check of a field; its error is reported under the name of the field. -/
def field (name : String) : Except φ α → Validated (String × φ) α
  | .ok a => .ok a
  | .error e => .errors [(name, e)]

/-- **A body is accepted exactly if every field is.** -/
theorem seq_eq_ok {f : Validated ε (α → β)} {x : Validated ε α} {b : β} :
    f <*> x = .ok b ↔ ∃ g a, f = .ok g ∧ x = .ok a ∧ g a = b := by
  show seq f x = .ok b ↔ _
  constructor
  · intro h
    cases f with
    | errors es =>
      cases x with
      | errors es' => cases h
      | ok a => cases h
    | ok g =>
      cases x with
      | errors es => cases h
      | ok a => exact ⟨g, a, rfl, rfl, Validated.ok.inj h⟩
  · rintro ⟨g, a, rfl, rfl, rfl⟩
    rfl

theorem map_eq_ok {f : α → β} {x : Validated ε α} {b : β} :
    f <$> x = .ok b ↔ ∃ a, x = .ok a ∧ f a = b := by
  show (.ok f : Validated ε (α → β)) <*> x = .ok b ↔ _
  rw [seq_eq_ok]
  constructor
  · rintro ⟨g, a, hg, ha, rfl⟩
    have hf : f = g := Validated.ok.inj hg
    exact ⟨a, ha, congrFun hf a⟩
  · rintro ⟨a, ha, rfl⟩
    exact ⟨f, a, rfl, ha, rfl⟩

theorem field_eq_ok {name : String} {checked : Except φ α} {a : α} :
    field name checked = .ok a ↔ checked = .ok a := by
  cases checked with
  | error e =>
    constructor
    · intro h
      cases h
    · intro h
      cases h
  | ok a' =>
    constructor
    · intro h
      exact congrArg Except.ok (Validated.ok.inj h)
    · intro h
      exact congrArg Validated.ok (Except.ok.inj h)

/-! ### Reported errors -/

/-- The errors that are reported. -/
def reported : Validated ε α → List ε
  | .ok _ => []
  | .errors es => es

/-- No error is reported under the name. -/
def Passes (x : Validated (String × φ) α) (name : String) : Prop :=
  ∀ e, (name, e) ∉ x.reported

theorem reported_seq (f : Validated ε (α → β)) (x : Validated ε α) :
    (f <*> x).reported = f.reported ++ x.reported := by
  show (seq f x).reported = _
  cases f with
  | ok g => cases x <;> rfl
  | errors es =>
    cases x with
    | ok a => exact (List.append_nil es).symm
    | errors es' => rfl

theorem reported_map (f : α → β) (x : Validated ε α) : (f <$> x).reported = x.reported :=
  reported_seq (.ok f) x

variable {name name' : String}

theorem passes_seq {f : Validated (String × φ) (α → β)} {x : Validated (String × φ) α} :
    (f <*> x).Passes name ↔ f.Passes name ∧ x.Passes name := by
  unfold Passes
  simp only [reported_seq, List.mem_append, not_or, forall_and]

theorem passes_map {f : α → β} {x : Validated (String × φ) α} :
    (f <$> x).Passes name ↔ x.Passes name := by
  unfold Passes
  rw [reported_map]

/-- The check of a field says nothing about another one. -/
theorem passes_field_of_ne (checked : Except φ α) (hne : name' ≠ name) :
    (field name' checked).Passes name := by
  intro e he
  cases checked with
  | ok a => cases he
  | error e' =>
    obtain ⟨hname, -⟩ := Prod.mk.inj (List.mem_singleton.mp he)
    exact hne hname.symm

/-- A field passes if its check does. -/
theorem passes_field {checked : Except φ α} :
    (field name checked).Passes name ↔ ∃ a, checked = .ok a := by
  cases checked with
  | ok a => exact iff_of_true (by intro e h; cases h) ⟨a, rfl⟩
  | error e =>
    refine iff_of_false (fun h => ?_) (by rintro ⟨a, ⟨⟩⟩)
    exact h e (List.mem_singleton_self _)

end Validated
