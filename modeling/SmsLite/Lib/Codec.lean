import Mathlib.Data.List.Basic

/-!
# Prefix codecs

A codec writes a value as characters and reads it back from the front of any text, so
that codecs can be put one after the other.  The law that the reader undoes the writer is
a field: a codec without it cannot be built.

## Main definitions

* `Codec` — a writer, a reader and their law.
* `Codec.bool`, `Codec.nat`, `Codec.text`, `Codec.option`, `Codec.pair`, `Codec.retract` —
  codecs and ways to combine them.
* `Codec.encode`, `Codec.decode` — a value as a whole string.

## Main results

* `Codec.decode_encode` — **the round trip**.
* `Codec.flatMap_emit_injective` — values written one after the other can be told apart.
-/

/-- A writer, a reader and the law between them. -/
structure Codec (α : Type) where
  /-- Write a value. -/
  emit : α → List Char
  /-- Read a value from the front. -/
  parse : List Char → Option (α × List Char)
  /-- Reading gives back what was written, and the rest. -/
  parse_emit : ∀ a rest, parse (emit a ++ rest) = some (a, rest)

namespace Codec

variable {α β : Type}

attribute [simp] parse_emit

/-! ### Basic codecs -/

/-- A truth value as one digit. -/
def bool : Codec Bool where
  emit b := [if b then '1' else '0']
  parse
    | '0' :: rest => some (false, rest)
    | '1' :: rest => some (true, rest)
    | _ => none
  parse_emit b rest := by cases b <;> rfl

/-- The binary digits of a number, the lowest first, and a semicolon; the first argument
bounds their number. -/
def digits : ℕ → ℕ → List Char
  | 0, _ => [';']
  | fuel + 1, n => if n = 0 then [';'] else (if n % 2 = 1 then '1' else '0') :: digits fuel (n / 2)

/-- Read binary digits up to a semicolon. -/
def parseDigits : List Char → Option (ℕ × List Char)
  | ';' :: rest => some (0, rest)
  | '0' :: rest => (parseDigits rest).map fun r => (2 * r.1, r.2)
  | '1' :: rest => (parseDigits rest).map fun r => (2 * r.1 + 1, r.2)
  | _ => none

theorem parseDigits_digits {fuel n : ℕ} (h : n ≤ fuel) (rest : List Char) :
    parseDigits (digits fuel n ++ rest) = some (n, rest) := by
  induction fuel generalizing n with
  | zero =>
    obtain rfl := Nat.le_zero.mp h
    rfl
  | succ fuel ih =>
    by_cases hn : n = 0
    · subst hn
      rfl
    · have hhalf := ih (n := n / 2) (by omega)
      rcases Nat.mod_two_eq_zero_or_one n with hbit | hbit
      · simp only [digits, hn, hbit, if_false, Nat.zero_ne_one, List.cons_append, parseDigits,
          hhalf, Option.map_some]
        rw [show 2 * (n / 2) = n by omega]
      · simp only [digits, hn, hbit, if_false, if_true, List.cons_append, parseDigits, hhalf,
          Option.map_some]
        rw [show 2 * (n / 2) + 1 = n by omega]

/-- A number by its binary digits. -/
def nat : Codec ℕ where
  emit n := digits n n
  parse := parseDigits
  parse_emit _ rest := parseDigits_digits (Nat.le_refl _) rest

/-- A text under its length. -/
def text : Codec (List Char) where
  emit cs := nat.emit cs.length ++ cs
  parse input :=
    (nat.parse input).map fun r => (r.2.take r.1, r.2.drop r.1)
  parse_emit cs rest := by simp [List.append_assoc]

/-! ### Combinations -/

/-- A value that may be missing, after a digit that says whether it is there. -/
def option (c : Codec α) : Codec (Option α) where
  emit
    | none => bool.emit false
    | some a => bool.emit true ++ c.emit a
  parse input :=
    (bool.parse input).bind fun r =>
      if r.1 then (c.parse r.2).map fun s => (some s.1, s.2) else some (none, r.2)
  parse_emit a rest := by cases a <;> simp [List.append_assoc]

/-- One value after the other. -/
def pair (c : Codec α) (d : Codec β) : Codec (α × β) where
  emit p := c.emit p.1 ++ d.emit p.2
  parse input :=
    (c.parse input).bind fun r => (d.parse r.2).map fun s => ((r.1, s.1), s.2)
  parse_emit p rest := by simp [List.append_assoc]

/-- A type whose values another one represents. -/
def retract (c : Codec β) (f : α → β) (g : β → Option α) (h : ∀ a, g (f a) = some a) :
    Codec α where
  emit a := c.emit (f a)
  parse input := (c.parse input).bind fun r => (g r.1).map fun a => (a, r.2)
  parse_emit a rest := by simp [h]

/-! ### Whole strings -/

/-- A value as a string. -/
def encode (c : Codec α) (a : α) : String := String.ofList (c.emit a)

/-- The value a string spells, with nothing left over. -/
def decode (c : Codec α) (s : String) : Option α :=
  match c.parse s.toList with
  | some (a, []) => some a
  | _ => none

/-- **The round trip.** -/
@[simp] theorem decode_encode (c : Codec α) (a : α) : c.decode (c.encode a) = some a := by
  have h := c.parse_emit a []
  rw [List.append_nil] at h
  simp [decode, encode, h]

/-- Values that are not written as nothing are told apart when they follow each other. -/
theorem flatMap_emit_injective (c : Codec α) (h : ∀ a, c.emit a ≠ []) :
    Function.Injective fun as : List α => as.flatMap c.emit := by
  intro as
  induction as with
  | nil =>
    intro bs heq
    cases bs with
    | nil => rfl
    | cons b bs =>
      have hnil : c.emit b = [] := (List.append_eq_nil_iff.mp heq.symm).1
      exact absurd hnil (h b)
  | cons a as ih =>
    intro bs heq
    cases bs with
    | nil =>
      have hnil : c.emit a = [] := (List.append_eq_nil_iff.mp heq).1
      exact absurd hnil (h a)
    | cons b bs =>
      have hparse := congrArg c.parse heq
      simp only [List.flatMap_cons, parse_emit, Option.some.injEq, Prod.mk.injEq] at hparse
      obtain ⟨rfl, hrest⟩ := hparse
      rw [ih hrest]

theorem encode_injective (c : Codec α) : Function.Injective c.encode := by
  intro a b h
  have ha := c.decode_encode a
  rw [h, c.decode_encode b] at ha
  exact (Option.some.inj ha).symm

end Codec
