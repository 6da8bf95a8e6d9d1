import SmsLite.Database

/-!
# The shared helpers of the services

The statements as programs, and the functions the services share: the repository
queries, the cache helpers, `ensure_exists`, the advisory locks and the contact
limit, and the mapping of integrity errors.

## Main definitions

* `getUserById`, `getUserByUsername`, `tryCommit`, `commitOrRaise`, ... — the
  statements as programs.
* `ensureExists`, `deref`, `ofExcept` — the ways a value can be missing.
* `acquireStudentContactLock`, `checkContactLimit` — the contact limit.
* `handleUsernameIntegrityError`, `handleNonStudentUniqueContactError` — the
  mapping of integrity errors.
-/

namespace SmsLite

open Interleave

/-! ### Statements -/

def raise {α : Type} (e : Exn) : Service α := Prog.raise e

/-- `datetime.now(UTC)`. -/
def datetimeNow : Service Time := Prog.call Stmt.now

/-- `secrets.token_urlsafe`. -/
def tokenUrlsafe : Service String := Prog.call Stmt.tokenUrlsafe

/-- `secrets.randbelow(900_000)`. -/
def randbelow : Service (Fin 900000) := Prog.call Stmt.randbelow

/-- `get_user_by_id`. -/
def getUserById (userId : UserId) (q : UserQuery) : Service (Option Loaded) :=
  Prog.call (Stmt.selectUserById userId q)

/-- `get_user_by_username`. -/
def getUserByUsername (username : String) (q : UserQuery) : Service (Option Loaded) :=
  Prog.call (Stmt.selectUserByUsername username q)

/-- `count_users_with_contact`. -/
def countUsersWithContact (role : Option UserRole) (contact : Contact)
    (excludeUserId : Option UserId) : Service ℕ :=
  Prog.call (Stmt.countUsersWithContact role contact excludeUserId)

/-- `SELECT pg_advisory_xact_lock(:ns, :key)`. -/
def advisoryLock (lock : AdvisoryLock) : Service Unit := Prog.call (Stmt.advisoryLock lock)

/-- `session.flush()` of a new user. -/
def tryFlushUser (user : User) : Service (Except DbError UserId) := Prog.call (Stmt.flushUser user)

/-- `session.commit()` inside a `try`. -/
def tryCommit (work : UnitOfWork) : Service (Except DbError Unit) := Prog.call (Stmt.commit work)

/-- `session.rollback()`. -/
def rollback : Service Unit := Prog.call Stmt.rollback

/-- `get_cache`. -/
def getCache (key : CacheKey) : Service (Option CacheValue) := Prog.call (Stmt.getCache key)

/-- `set_cache`. -/
def setCache (key : CacheKey) (value : CacheValue) : Service Unit :=
  Prog.call (Stmt.setCache key value)

/-- `delete_cache`. -/
def deleteCache (keys : List CacheKey) : Service Unit := Prog.call (Stmt.deleteCache keys)

/-- `asyncio.create_task(send_safe(...))`. -/
def createTask (mail : Mail) : Service Unit := Prog.call (Stmt.createTask mail)

/-- The exception an error of the database surfaces as. -/
def DbError.exn : DbError → Exn
  | .integrity orig => .integrityError orig
  | .data orig => .dbapiError orig

/-- `session.commit()` outside a `try`. -/
def commitOrRaise (work : UnitOfWork) : Service Unit := do
  match ← tryCommit work with
  | .ok () => pure ()
  | .error e => raise e.exn

/-- A statement under an `if` without an `else`. -/
def onlyIf (condition : Bool) (p : Service Unit) : Service Unit := if condition then p else pure ()

/-! ### Values that may be missing -/

/-- `ensure_exists`. -/
def ensureExists {α : Type} (obj : Option α) (e : Exn) : Service α :=
  match obj with
  | none => raise e
  | some a => pure a

/-- `session.refresh(user)`. -/
def refresh (userId : UserId) : Service User := do
  ensureExists (← Prog.call (Stmt.refresh userId))
    (.invalidRequestError "Could not refresh instance")

/-- An attribute of a companion object: an `AttributeError` when there is none. -/
def deref {α : Type} (name : String) (obj : Option α) : Service α :=
  match obj with
  | none => raise (.attributeError name)
  | some a => pure a

/-- A pure function that may raise. -/
def ofExcept {α : Type} (r : Except Exn α) : Service α :=
  match r with
  | .ok a => pure a
  | .error e => raise e

/-- `hash_password`. -/
def hashPassword (password : String) : Service String := do
  ofExcept (← Prog.call (Stmt.hashPassword password))

/-- `verify_password`. -/
def verifyPassword (plainPassword : String) (hashedPassword : Option String) : Service Bool := do
  ofExcept (← Prog.call (Stmt.verifyPassword plainPassword hashedPassword))

/-- `UserNotFoundError(HTTP404.USER)`. -/
def userNotFound : Exn := .app .userNotFoundError HTTP404.user

/-! ### Revocation -/

/-- The assignments every revocation makes to the session row. -/
def UserSession.revoked (s : UserSession) : UserSession :=
  { s with
    accessTokenVersion := s.accessTokenVersion + 1
    refreshTokenHash := none, refreshTokenFamily := none, refreshTokenExpiresAt := none }

/-! ### The contact limit -/

/-- `NAMESPACE_STUDENT_PHONE`. -/
def namespaceStudentPhone : ℤ := 9001

/-- `NAMESPACE_STUDENT_EMAIL`. -/
def namespaceStudentEmail : ℤ := 9002

/-- `re.sub(r"[\s\-().]", "", phone_number).lower()`. -/
def normalizedPhone (phoneNumber : String) : String :=
  String.ofList ((phoneNumber.toList.filter fun c =>
    !(c.isWhitespace || c == '-' || c == '(' || c == ')' || c == '.')).map Char.toLower)

/-- `email.strip().lower()`, on addresses of ASCII characters. -/
def normalizedEmail (email : String) : String :=
  let stripped := ((email.toList.dropWhile Char.isWhitespace).reverse.dropWhile
    Char.isWhitespace).reverse
  String.ofList (stripped.map Char.toLower)

/-- The advisory lock of a phone number. -/
def phoneLock (env : Env) (phoneNumber : String) : AdvisoryLock :=
  (namespaceStudentPhone, computeLockKey env (normalizedPhone phoneNumber))

/-- The advisory lock of an email address. -/
def emailLock (env : Env) (email : String) : AdvisoryLock :=
  (namespaceStudentEmail, computeLockKey env (normalizedEmail email))

/-- One of the two halves of `acquire_student_contact_lock`: a missing or empty text
takes no lock. -/
def acquireLockFor (lock : String → AdvisoryLock) (text : Option String) : Service Unit :=
  match text with
  | none => pure ()
  | some text => if text = "" then pure () else advisoryLock (lock text)

/-- `acquire_student_contact_lock`: the phone lock first, then the email lock. -/
def acquireStudentContactLock (env : Env) (phoneNumber email : Option String) : Service Unit := do
  acquireLockFor (phoneLock env) phoneNumber
  acquireLockFor (emailLock env) email

/-- One of the two halves of `check_contact_limit`, with the class and the text of
its error for students and for the other roles. -/
def checkContact (role : Option UserRole) (contact : Option Contact) (maxAllowed : ℕ)
    (excludeUserId : Option UserId) (students teachers : Exn) : Service Unit :=
  match contact with
  | none => pure ()
  | some contact => do
    let count ← countUsersWithContact role contact excludeUserId
    if maxAllowed ≤ count then
      raise (if role = some .student then students else teachers)
    else pure ()

/-- `check_contact_limit`. -/
def checkContactLimit (phoneNumber email : Option String) (role : Option UserRole)
    (maxAllowed : ℕ) (excludeUserId : Option UserId) : Service Unit := do
  checkContact role (phoneNumber.map .phoneNumber) maxAllowed excludeUserId
    (.app .maxStudentsPerPhoneNumberError
      "Maximum number of students with this phone number reached")
    (.app .maxTeachersPerPhoneNumberError
      "Maximum number of teachers with this phone number reached")
  checkContact role (email.map .email) maxAllowed excludeUserId
    (.app .maxStudentsPerEmailError "Maximum number of students with this email reached")
    (.app .maxTeachersPerEmailError "Maximum number of teachers with this email reached")

/-- The guarded lock and count of the three updates: `applies` is the guard, the
contact of the other kind is `None`, and the user being updated is not counted. -/
def checkStudentContact (env : Env) (applies : Bool) (phoneNumber email : Option String)
    (excludeUserId : UserId) : Service Unit :=
  onlyIf applies do
    acquireStudentContactLock env phoneNumber email
    checkContactLimit phoneNumber email (some .student) studentMaxSharedContact
      (some excludeUserId)

/-! ### Integrity errors -/

/-- `handle_username_integrity_error`. -/
def handleUsernameIntegrityError (orig : String) : Service Unit :=
  if pyIn "users_username_key" orig then
    raise (.app .usernameAlreadyTakenError HTTP409.username)
  else pure ()

/-- `handle_non_student_unique_contact_error`. -/
def handleNonStudentUniqueContactError (orig : String) : Service Unit :=
  if pyIn "uix_non_student_unique_phone" orig then
    raise (.app .duplicatePhoneNumberError HTTP409.duplicatePhoneNumber)
  else if pyIn "uix_non_student_unique_email" orig then
    raise (.app .duplicateEmailError HTTP409.duplicateEmail)
  else pure ()

/-- The `except IntegrityError` blocks: roll back, then map the error.  The callers
differ in whether the username is looked for, and all of them look for the contacts
of anyone who is not a student.  Any other error of the database is not caught. -/
def exceptIntegrityError {α : Type} (mapsUsername mapsContacts : Bool) (e : DbError) :
    Service α := do
  match e with
  | .data orig => raise (.dbapiError orig)
  | .integrity orig =>
    rollback
    onlyIf mapsUsername (handleUsernameIntegrityError orig)
    onlyIf mapsContacts (handleNonStudentUniqueContactError orig)
    raise (.integrityError orig)

end SmsLite
