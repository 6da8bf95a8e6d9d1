import SmsLite.Schemas
import SmsLite.UserServiceSelf

/-!
# The password policy

A password is set when an account is activated, when it is reset and when its holder changes it.
The three schemas share a check of the characters; the bounds of the length stand in one of them.

## Main definitions

* `CharacterClasses` — the upper case letters and the digits of Unicode.
* `validatePassword` — the check of the characters.
* `PasswordRequest`, `PasswordRequest.Accepts` — the three requests, with their other fields.

## Main results

* `validatePassword_ok_iff` — what the check asks for.
* `PasswordRequest.accepts_iff` — the policy of each request.
* `passwordPolicy_iff` — **the requests agree on a password exactly if it has 8 to 100 characters
  or none of them takes it**.
-/

namespace SmsLite

/-! ### Characters -/

/-- The methods of `str` that a password is looked at with, of one character. -/
structure CharacterClasses where
  /-- `str.isupper`. -/
  isUpper : Char → Bool
  /-- `str.isdigit`. -/
  isDigit : Char → Bool

/-- The special characters of `validate_password`. -/
def specialCharacters : List Char := "!@#$%^&*()_+-=[]\x7b\x7d|;:,.<>?".toList

/-- `validate_password`. -/
def validatePassword (C : CharacterClasses) : FieldCheck String String := fun password =>
  if !password.toList.any C.isUpper then
    .error (.custom "password_no_uppercase"
      "Password must contain at least one uppercase letter")
  else if !password.toList.any C.isDigit then
    .error (.custom "password_no_digit" "Password must contain at least one digit")
  else if !password.toList.any (fun c => decide (c ∈ specialCharacters)) then
    .error (.custom "password_no_special_character"
      "Password must contain at least one special character")
  else .ok password

/-- A password has an upper case letter, a digit and a special character. -/
structure CharacterClasses.Mixed (C : CharacterClasses) (password : String) : Prop where
  upper : ∃ c ∈ password.toList, C.isUpper c = true
  digit : ∃ c ∈ password.toList, C.isDigit c = true
  special : ∃ c ∈ password.toList, c ∈ specialCharacters

/-- What the check asks for. -/
theorem validatePassword_ok_iff {C : CharacterClasses} {password : String} :
    (∃ accepted, validatePassword C password = .ok accepted) ↔ C.Mixed password := by
  unfold validatePassword
  by_cases hupper : password.toList.any C.isUpper = true
  · rw [if_neg (by simp [hupper])]
    by_cases hdigit : password.toList.any C.isDigit = true
    · rw [if_neg (by simp [hdigit])]
      by_cases hspecial : (password.toList.any fun c => decide (c ∈ specialCharacters)) = true
      · rw [if_neg (by simp [hspecial])]
        obtain ⟨c, hc, hmem⟩ := List.any_eq_true.mp hspecial
        exact iff_of_true ⟨password, rfl⟩ ⟨List.any_eq_true.mp hupper, List.any_eq_true.mp hdigit,
          c, hc, of_decide_eq_true hmem⟩
      · rw [if_pos (by simp [hspecial])]
        refine not_ok_error fun hmixed => hspecial ?_
        obtain ⟨c, hc, hmem⟩ := hmixed.special
        exact List.any_eq_true.mpr ⟨c, hc, decide_eq_true hmem⟩
    · rw [if_pos (by simp [hdigit])]
      exact not_ok_error fun hmixed =>
        hdigit (List.any_eq_true.mpr hmixed.digit)
  · rw [if_pos (by simp [hupper])]
    exact not_ok_error fun hmixed =>
      hupper (List.any_eq_true.mpr hmixed.upper)

/-! ### Schemas -/

/-- `ActivateAccountWithToken`. -/
def ActivateAccountWithToken.validate (C : CharacterClasses) (b : ActivateAccountWithToken) :
    Validated (String × FieldError) ActivateAccountWithToken :=
  ActivateAccountWithToken.mk b.username b.inviteToken
    <$> .field "new_password" (validatePassword C b.newPassword)

/-- `ResetPassword`. -/
def ResetPassword.validate (C : CharacterClasses) (b : ResetPassword) :
    Validated (String × FieldError) ResetPassword :=
  ResetPassword.mk b.username b.resetToken
    <$> .field "new_password" (validatePassword C b.newPassword)

/-- `UpdateMePassword`. -/
def UpdateMePassword.validate (C : CharacterClasses) (b : UpdateMePassword) :
    Validated (String × FieldError) UpdateMePassword :=
  UpdateMePassword.mk b.currentPassword
    <$> .field "new_password" (lengthBetween 8 100 b.newPassword >>= validatePassword C)

/-- The requests that set a password, with what else they send. -/
inductive PasswordRequest
  | activateAccount (username inviteToken : String)
  | resetPassword (username resetToken : String)
  | updateMePassword (currentPassword : String)
  deriving DecidableEq, Repr

namespace PasswordRequest

/-- The schema of the request accepts the text as the new password. -/
def Accepts (C : CharacterClasses) (newPassword : String) : PasswordRequest → Prop
  | activateAccount username inviteToken =>
    ∃ r, ActivateAccountWithToken.validate C { username, inviteToken, newPassword } = .ok r
  | resetPassword username resetToken =>
    ∃ r, ResetPassword.validate C { username, resetToken, newPassword } = .ok r
  | updateMePassword currentPassword =>
    ∃ r, UpdateMePassword.validate C { currentPassword, newPassword } = .ok r

/-- The bounds that a request sets itself. -/
def MinMax (newPassword : String) : PasswordRequest → Prop
  | updateMePassword _ => 8 ≤ newPassword.length ∧ newPassword.length ≤ 100
  | _ => True

end PasswordRequest

/-- A body of one checked field is accepted if the field is. -/
theorem map_field_ok_iff {α β : Type} {f : α → β} {name : String} {checked : Except FieldError α} :
    (∃ b, f <$> Validated.field name checked = .ok b) ↔ ∃ a, checked = .ok a := by
  simp only [Validated.map_eq_ok, Validated.field_eq_ok]
  constructor
  · rintro ⟨-, a, ha, -⟩
    exact ⟨a, ha⟩
  · rintro ⟨a, ha⟩
    exact ⟨f a, a, ha, rfl⟩

/-- **The policy of each request.** -/
theorem PasswordRequest.accepts_iff {C : CharacterClasses} {newPassword : String}
    (r : PasswordRequest) :
    r.Accepts C newPassword ↔ r.MinMax newPassword ∧ C.Mixed newPassword := by
  cases r with
  | activateAccount | resetPassword =>
    refine map_field_ok_iff.trans (validatePassword_ok_iff.trans ?_)
    exact (and_iff_right trivial).symm
  | updateMePassword =>
    refine map_field_ok_iff.trans ?_
    simp only [lengthBetween_bind_ok_iff, exists_and_left]
    exact and_congr_right fun _ => validatePassword_ok_iff

/-- **The three requests agree on a password exactly if it has 8 to 100 characters, or lacks an
upper case letter, a digit or a special character.** -/
theorem passwordPolicy_iff (C : CharacterClasses) (newPassword : String) :
    (∀ r r' : PasswordRequest, r.Accepts C newPassword ↔ r'.Accepts C newPassword) ↔
      (8 ≤ newPassword.length ∧ newPassword.length ≤ 100) ∨ ¬ C.Mixed newPassword := by
  constructor
  · intro h
    by_cases hmixed : C.Mixed newPassword
    · left
      have hreset : (PasswordRequest.resetPassword "" "").Accepts C newPassword :=
        (PasswordRequest.accepts_iff _).mpr ⟨trivial, hmixed⟩
      have hme := (h _ (.updateMePassword "")).mp hreset
      exact ((PasswordRequest.accepts_iff _).mp hme).1
    · exact Or.inr hmixed
  · rintro (hbounds | hmixed) r r'
    · have hall : ∀ r : PasswordRequest, r.MinMax newPassword := by
        intro r
        cases r with
        | activateAccount | resetPassword => trivial
        | updateMePassword => exact hbounds
      rw [r.accepts_iff, r'.accepts_iff, and_iff_right (hall r), and_iff_right (hall r')]
    · rw [r.accepts_iff, r'.accepts_iff]
      exact iff_of_false (fun h => hmixed h.2) fun h => hmixed h.2

/-- The classes of the characters below 128. -/
def CharacterClasses.ascii : CharacterClasses := ⟨Char.isUpper, Char.isDigit⟩

/-- **Three characters do to activate an account, and to reset its password**, but not to change
it. -/
theorem passwordPolicy_differs :
    ¬ ∀ (newPassword : String) (r r' : PasswordRequest),
      r.Accepts .ascii newPassword ↔ r'.Accepts .ascii newPassword := by
  intro h
  have hmixed : CharacterClasses.ascii.Mixed "A1!" :=
    ⟨⟨'A', by decide, by decide⟩, ⟨'1', by decide, by decide⟩, ⟨'!', by decide, by decide⟩⟩
  have hreset : (PasswordRequest.resetPassword "lovelace" "1;").Accepts .ascii "A1!" :=
    (PasswordRequest.accepts_iff _).mpr ⟨trivial, hmixed⟩
  have hme := (h "A1!" _ (.updateMePassword "pw")).mp hreset
  have hbounds : 8 ≤ "A1!".length ∧ "A1!".length ≤ 100 := ((PasswordRequest.accepts_iff _).mp hme).1
  exact absurd hbounds (by decide)

end SmsLite
