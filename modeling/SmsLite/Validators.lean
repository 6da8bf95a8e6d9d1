import SmsLite.Utils

/-!
# Validated contact texts

A request reaches a service only after its schema accepted it, so the contact
texts in a payload carry the proof that their validator let them through.

## Main definitions

* `emailPattern` — `EMAIL_PATTERN.fullmatch`.
* `EmailAddress` — a text `validate_email` accepts.
* `PhoneNumber` — what `parse_and_validate_mobile_number` returns, in E.164.

## Main results

* `EmailAddress.text_ne_empty`, `PhoneNumber.text_ne_empty` — neither is empty,
  so the truth tests of the lock acquisition never skip one.
-/

namespace SmsLite

/-- `[A-Za-z]`. -/
def isAsciiLetter (c : Char) : Bool := ('a' ≤ c && c ≤ 'z') || ('A' ≤ c && c ≤ 'Z')

/-- `[0-9]`. -/
def isAsciiDigit (c : Char) : Bool := '0' ≤ c && c ≤ '9'

/-- `[A-Za-z0-9_]`. -/
def isWordChar (c : Char) : Bool := isAsciiLetter c || isAsciiDigit c || c == '_'

/-- At least `n` nonempty runs of characters of the class `p`, separated by dots. -/
def dotted (p : Char → Bool) (n : ℕ) (text : List Char) : Bool :=
  let parts := text.splitOn '.'
  decide (n ≤ parts.length) && parts.all fun part => !part.isEmpty && part.all p

/-- `EMAIL_PATTERN.fullmatch(email)`, the pattern being
`[A-Za-z0-9_]+(?:\.[A-Za-z0-9_]+)*@[A-Za-z]+(?:\.[A-Za-z]+)+`. -/
def emailPattern (email : String) : Bool :=
  match email.toList.splitOn '@' with
  | [localPart, domain] => dotted isWordChar 1 localPart && dotted isAsciiLetter 2 domain
  | _ => false

/-- A text that `validate_email` accepts; it returns it unchanged. -/
structure EmailAddress where
  /-- The address. -/
  text : String
  /-- The validator accepted it. -/
  valid : emailPattern text = true
  deriving DecidableEq, Repr

/-- E.164: a plus sign and at least one digit. -/
def isE164 (text : String) : Bool :=
  match text.toList with
  | '+' :: digits => !digits.isEmpty && digits.all isAsciiDigit
  | _ => false

/-- A mobile number as `parse_and_validate_mobile_number` returns it: `phonenumbers`
formats it in E.164. -/
structure PhoneNumber where
  /-- The number. -/
  text : String
  /-- It is in E.164. -/
  valid : isE164 text = true
  deriving DecidableEq, Repr

theorem EmailAddress.text_ne_empty (e : EmailAddress) : e.text ≠ "" := by
  intro h
  have hv := e.valid
  rw [h] at hv
  exact absurd hv (by decide)

theorem PhoneNumber.text_ne_empty (p : PhoneNumber) : p.text ≠ "" := by
  intro h
  have hv := p.valid
  rw [h] at hv
  exact absurd hv (by decide)

end SmsLite
