import Mathlib.Data.List.Infix

/-!
# Enumerations, exceptions and cache keys

The shared vocabulary of the services: the enumerations of the columns, the
exception classes with the status each maps to, the message texts, and the keys
of the Redis cache.

An exception class of Python is an object, so the module path it is imported
from matters: `src.utils.exceptions.InvalidRefreshTokenError`, which the
application registers its handler for, and `utils.exceptions.InvalidRefreshTokenError`,
which `src/core/security.py` raises, are two classes.  They are the two
constructors `Exn.app` and `Exn.utilsApp`.

## Main definitions

* `UserRole`, `UserStatus`, `EmailType`, `EmailSendingStatus` — enumerations.
* `AppException`, `AppException.statusCode` — the exception classes.
* `Exn` — everything a service call can raise.
* `CacheKey` — the keys of the cache.
* `Time` — the clock, in microseconds.
-/

namespace SmsLite

/-! ### Enumerations -/

/-- `UserRole`. -/
inductive UserRole
  | systemAdmin
  | director
  | teacher
  | student
  deriving DecidableEq, Repr

/-- `UserStatus`. -/
inductive UserStatus
  | active
  | deactivated
  | pendingActivation
  | graduated
  | expelled
  | withdrawn
  deriving DecidableEq, Repr

/-- `EmailType`. -/
inductive EmailType
  | invite
  | updatingAccount
  | adminCredentialsOverride
  | accountDeactivation
  | accountActivation
  | passwordResetAdmin
  | emailChangeCode
  | emailChanged
  | passwordChanged
  | activationWithToken
  | forgotPassword
  deriving DecidableEq, Repr

/-- `EmailSendingStatus`. -/
inductive EmailSendingStatus
  | pending
  | sent
  | failed
  deriving DecidableEq, Repr

/-! ### The clock -/

/-- A moment in UTC, in microseconds: the resolution of `datetime`. -/
abbrev Time := ℕ

namespace Time

/-- `timedelta(minutes=n)`. -/
def minutes (n : ℕ) : Time := n * 60 * 1000000

/-- `timedelta(hours=n)`. -/
def hours (n : ℕ) : Time := minutes (n * 60)

/-- `timedelta(days=n)`. -/
def days (n : ℕ) : Time := hours (n * 24)

/-- `timegm(t.utctimetuple())`: whole seconds, as the `exp` claim counts them. -/
def timegm (t : Time) : ℕ := t / 1000000

/-- A number below one hundred with two digits. -/
def twoDigits (n : ℕ) : String := toString (n / 10) ++ toString (n % 10)

/-- `t.strftime('%H:%M UTC')`. -/
def strftimeHM (t : Time) : String :=
  twoDigits (t / minutes 60 % 24) ++ ":" ++ twoDigits (t / minutes 1 % 60) ++ " UTC"

end Time

/-! ### Python text -/

/-- `needle in text`. -/
def pyIn (needle text : String) : Bool := decide (needle.toList <:+: text.toList)

/-- The character that neither a text column nor a bcrypt password takes. -/
def nul : Char := Char.ofNat 0

/-- `text.isascii()`. -/
def isAscii (text : String) : Bool := text.toList.all fun c => c.toNat < 128

/-! ### Exceptions -/

/-- The subclasses of `AppException` in `src/utils/exceptions.py` and
`src/users/utils/exceptions.py`. -/
inductive AppException
  | emptyCredentialsError
  | invalidCredentialsError
  | invalidAccessTokenError
  | invalidRefreshTokenError
  | expiredRefreshTokenError
  | accountInactiveError
  | accountLockedError
  | accessDeniedError
  | invalidInviteTokenError
  | expiredInviteTokenError
  | noChangesDetectedError
  | expiredResetPasswordTokenError
  | invalidResetPasswordTokenError
  | pendingEmailNotFoundError
  | subjectNotFoundError
  | subjectCodeAlreadyExistsError
  | subjectAlreadyArchivedError
  | subjectNotArchivedError
  | groupNotFoundError
  | groupNameYearAlreadyExistsError
  | groupAlreadyArchivedError
  | groupIsNotArchivedError
  | usernameAlreadyTakenError
  | maxStudentsPerEmailError
  | maxStudentsPerPhoneNumberError
  | maxTeachersPerEmailError
  | maxTeachersPerPhoneNumberError
  | duplicateEmailError
  | duplicatePhoneNumberError
  | userNotFoundError
  | userTypeMismatchError
  | userAlreadyInactiveError
  | userAlreadyActiveError
  | userNotPendingActivationError
  | noPendingEmailChangeError
  | emailChangeCodeExpiredError
  | invalidEmailChangeCodeError
  | incorrectPasswordError
  | duplicateEmailChangeRequestError
  deriving DecidableEq, Repr

/-- `status_code` of an exception class. -/
def AppException.statusCode : AppException → ℕ
  | emptyCredentialsError | invalidInviteTokenError | expiredInviteTokenError
  | noChangesDetectedError | expiredResetPasswordTokenError | invalidResetPasswordTokenError
  | userTypeMismatchError | emailChangeCodeExpiredError | invalidEmailChangeCodeError
  | incorrectPasswordError => 400
  | invalidCredentialsError | invalidAccessTokenError | invalidRefreshTokenError
  | expiredRefreshTokenError => 401
  | accountLockedError | accessDeniedError => 403
  | userNotFoundError | noPendingEmailChangeError | pendingEmailNotFoundError
  | subjectNotFoundError | groupNotFoundError => 404
  | accountInactiveError | usernameAlreadyTakenError | maxStudentsPerEmailError
  | maxStudentsPerPhoneNumberError | maxTeachersPerEmailError | maxTeachersPerPhoneNumberError
  | duplicateEmailError | duplicatePhoneNumberError | userAlreadyInactiveError
  | userAlreadyActiveError | userNotPendingActivationError | duplicateEmailChangeRequestError
  | subjectCodeAlreadyExistsError | subjectAlreadyArchivedError | subjectNotArchivedError
  | groupNameYearAlreadyExistsError | groupAlreadyArchivedError | groupIsNotArchivedError => 409

/-- Where a `TypeError` of the interpreter comes from. -/
inductive TypeErrorSite
  /-- `int(None)`. -/
  | intOfNone
  /-- `hmac.compare_digest` on a `str` that is not ASCII. -/
  | compareDigestNonAscii
  /-- `hmac.compare_digest` with `None` for the stored hash. -/
  | compareDigestNone
  /-- `None < datetime`. -/
  | compareNone
  deriving DecidableEq, Repr

/-- What a service call can raise. -/
inductive Exn
  /-- A class of `src.utils.exceptions` or `src.users.utils.exceptions`. -/
  | app (cls : AppException) (detail : String)
  /-- The class of the same name as imported from `utils.exceptions`. -/
  | utilsApp (cls : AppException) (detail : String)
  /-- `sqlalchemy.exc.IntegrityError`; `orig` is the text of the driver's error. -/
  | integrityError (orig : String)
  /-- Another `DBAPIError`. -/
  | dbapiError (orig : String)
  /-- `sqlalchemy.exc.InvalidRequestError`: the row of a refreshed object is gone. -/
  | invalidRequestError (message : String)
  | valueError (message : String)
  | typeError (site : TypeErrorSite)
  /-- `'NoneType' object has no attribute ...`. -/
  | attributeError (name : String)
  deriving DecidableEq, Repr

/-- Something the code takes for granted was missing: an attribute of `None`, a `None` in
a comparison or a conversion, a row that is gone.  The comparison of a cookie that is not
ASCII is not among them. -/
def Exn.isCrash : Exn → Bool
  | .attributeError _ | .invalidRequestError _ => true
  | .typeError site => decide (site ≠ .compareDigestNonAscii)
  | _ => false

/-- An exception is no success. -/
theorem not_ok_error {ε α : Type} {e : ε} {P : Prop} (h : ¬ P) :
    (∃ a, (.error e : Except ε α) = .ok a) ↔ P := by
  refine iff_of_false ?_ h
  rintro ⟨a, hok⟩
  cases hok

/-! ### Message texts -/

namespace HTTP400
def invalidInviteToken : String := "Invalid invite token"
def expiredInviteToken : String := "Expired invite token"
def noChangesDetected : String := "No changes detected"
def expiredResetPasswordToken : String := "Expired reset password token"
def invalidResetPasswordToken : String := "Invalid reset password token"
end HTTP400

namespace HTTP401
def invalidCredentials : String := "Invalid credentials"
def invalidRefreshToken : String := "Invalid refresh token"
def expiredRefreshToken : String := "Expired refresh token"
def invalidAccessToken : String := "Invalid access token"
def expiredAccessToken : String := "Expired access token"
def invalidTokenType : String := "Invalid token type"
end HTTP401

namespace HTTP403
def accountDeactivated : String := "Your account has been deactivated"
end HTTP403

namespace HTTP404
def user : String := "User not found"
def pendingEmail : String := "Pending email not found"
def subject : String := "Subject not found"
def group : String := "Group not found"
end HTTP404

namespace HTTP409
def username : String := "Username already taken"
def duplicatePhoneNumber : String := "Phone number already taken"
def duplicateEmail : String := "Email already taken"
def subjectCode : String := "Subject with this code already exists"
def groupName : String := "Group with this name and academic year already exists"
end HTTP409

/-! ### Cache keys -/

/-- A primary key of the `users` table. -/
abbrev UserId := ℕ

/-- `SessionCacheKey` and `UserCacheKey`: the key texts are
`user:token_version:{id}` and `users:detail:{id}:admin`, `:staff`, `:self`. -/
inductive CacheKey
  | accessTokenVersionKey (userId : UserId)
  | userDetailKeyAdmin (userId : UserId)
  | userDetailKeyStaff (userId : UserId)
  | userDetailKeySelf (userId : UserId)
  deriving DecidableEq, Repr

/-! ### Contact limits -/

/-- `STUDENT_MAX_SHARED_CONTACT`. -/
def studentMaxSharedContact : ℕ := 3

/-- `TEACHER_MAX_SHARED_CONTACT`. -/
def teacherMaxSharedContact : ℕ := 1

/-- `SYSTEM_ADMIN_INVISIBLE_ROLES`. -/
def systemAdminInvisibleRoles : List UserRole := [.systemAdmin]

/-- `TEACHER_ROLE`. -/
def teacherRole : List UserRole := [.teacher]

/-- `STUDENT_ROLE`. -/
def studentRole : List UserRole := [.student]

end SmsLite
