import SmsLite.AuthService
import SmsLite.UserServiceAdmin

/-!
# The user services of the account holder and of the director

`src/users/services/shared.py` and `src/users/services/director.py`.

## Main definitions

* `updateMeCredentials`, `confirmEmailChange`, `updateMePassword` — the mutators.
* `getMyProfile`, `getMyStudentProfile`, `UserServiceDirector.getTeacherById`,
  `UserServiceDirector.getStudentById` — the cached readers.
-/

namespace SmsLite

open Interleave

/-! ### Mutators -/

/-- `ConfirmEmailChange`. -/
structure ConfirmEmailChange where
  code : String
  deriving DecidableEq, Repr

/-- `UpdateMePassword`. -/
structure UpdateMePassword where
  currentPassword : String
  newPassword : String
  deriving DecidableEq, Repr

/-- An identical change of the email is pending and its code has not expired. -/
def UserSession.duplicateRequest (s : UserSession) (now : Time) (newEmail : EmailAddress) : Bool :=
  decide (s.pendingNewEmail = some newEmail) && s.emailChangeCodeExpiresAt.any (now < ·)

/-- A requested change of the email: the address, the raw code and when it was made. -/
structure EmailChange where
  newEmail : EmailAddress
  rawCode : String
  now : Time

/-- `generate_email_change_code`, when a change is requested. -/
def generateEmailChangeCode (newEmail : Option EmailAddress) : Service (Option EmailChange) :=
  match newEmail with
  | none => pure none
  | some newEmail => do
    let rawCode := emailChangeCode (← randbelow)
    let now ← datetimeNow
    pure (some { newEmail, rawCode, now })

/-- The session with the change pending. -/
def UserSession.withEmailChange (env : Env) (s : UserSession) (change : EmailChange) :
    UserSession :=
  { s with
    pendingNewEmail := some change.newEmail
    emailChangeCodeHash := some (env.sha256 change.rawCode)
    emailChangeCodeExpiresAt :=
      some (change.now + Time.minutes env.settings.emailChangeCodeExpiresMinutes) }

/-- `send_email_change_verification`, when a change is requested. -/
def sendEmailChangeCode (change : Option EmailChange) : Service Unit :=
  match change with
  | none => pure ()
  | some change =>
    createTask
      { recipient := change.newEmail.text, emailType := .emailChangeCode
        content := .emailChangeVerification change.rawCode }

/-- The `try` block of `update_me_credentials`, from its commit on. -/
def commitMyCredentials (targetUser : Loaded) (user : UserDraft) (session : UserSession)
    (usernameChanging : Bool) (change : Option EmailChange) : Service Unit := do
  match ← tryCommit (.update targetUser
      { targetUser.dirty with user := user, session := some session } []) with
  | .error e => exceptIntegrityError true false e
  | .ok () =>
    let _ ← refresh targetUser.user.id
    sendEmailChangeCode change
    deleteCache (userDetailKeys targetUser.user.id)
    onlyIf usernameChanging (deleteCache [.accessTokenVersionKey targetUser.user.id])

/-- `UserServiceSelf.update_me_credentials`. -/
def updateMeCredentials (env : Env) (currentUserId : UserId)
    (updateRequest : UpdateUserCredentials) : Service Unit := do
  let targetUser ← ensureExists (← getUserById currentUserId { loadSession := true }) userNotFound
  let newUsername := updateRequest.newUsername targetUser.user
  let newEmail := updateRequest.newEmail targetUser.user
  if newUsername.isNone && newEmail.isNone then
    raise (.app .noChangesDetectedError HTTP400.noChangesDetected)
  else
    let session ← deref "email_change_code_expires_at" targetUser.session
    let now ← datetimeNow
    if newEmail.any (session.duplicateRequest now) then
      raise (.app .duplicateEmailChangeRequestError
        "An identical email change request is already pending")
    else
      let user := { targetUser.user.draft with
        username := some (newUsername.getD targetUser.user.username) }
      let session :=
        if newUsername.isSome then
          { session with accessTokenVersion := session.accessTokenVersion + 1 }
        else session
      let change ← generateEmailChangeCode newEmail
      let session := change.elim session fun change => session.withEmailChange env change
      commitMyCredentials targetUser user session newUsername.isSome change

/-- `UserServiceSelf.confirm_email_change`. -/
def confirmEmailChange (env : Env) (currentUserId : UserId) (confirmRequest : ConfirmEmailChange) :
    Service Unit := do
  let targetUser ← ensureExists (← getUserById currentUserId { loadSession := true }) userNotFound
  let session ← deref "pending_new_email" targetUser.session
  match session.pendingNewEmail, session.emailChangeCodeHash with
  | some newEmail, some emailChangeCodeHash =>
    let now ← datetimeNow
    match session.emailChangeCodeExpiresAt with
    | none => raise (.typeError .compareNone)
    | some expiresAt =>
      if expiresAt < now then
        raise (.app .emailChangeCodeExpiredError "Email change code has expired")
      else if !(← ofExcept (verifyDigest env confirmRequest.code (some emailChangeCodeHash))) then
        raise (.app .invalidEmailChangeCodeError "Invalid email change code")
      else
        let isStudent := decide (targetUser.user.role = .student)
        checkStudentContact env isStudent none (some newEmail.text) currentUserId
        match ← tryCommit (.update targetUser
            { targetUser.dirty with
              user := { targetUser.user.draft with email := some newEmail.text }
              session := some session.overridden } []) with
        | .error e => exceptIntegrityError false (!isStudent) e
        | .ok () =>
          let refreshed ← refresh targetUser.user.id
          createTask
            { recipient := refreshed.email, emailType := .emailChanged
              content := .emailChangedNotification targetUser.user.email refreshed.email }
          deleteCache (.accessTokenVersionKey currentUserId :: userDetailKeys currentUserId)
  | _, _ => raise (.app .noPendingEmailChangeError "No email change is currently pending")

/-- `UserServiceSelf.update_me_password`. -/
def updateMePassword (currentUserId : UserId) (updateRequest : UpdateMePassword) :
    Service Unit := do
  let targetUser ← ensureExists (← getUserById currentUserId { loadSession := true }) userNotFound
  if !(← verifyPassword updateRequest.currentPassword targetUser.user.passwordHash) then
    raise (.app .incorrectPasswordError "Current password is incorrect")
  else
    let newPasswordHash ← hashPassword updateRequest.newPassword
    let session ← deref "access_token_version" targetUser.session
    commitOrRaise (.update targetUser
      { targetUser.dirty with
        user := { targetUser.user.draft with passwordHash := some newPasswordHash }
        session := some session.revoked } [])
    createTask
      { recipient := targetUser.user.email, emailType := .passwordChanged
        content := .passwordChangedNotification }
    deleteCache [.accessTokenVersionKey currentUserId]

/-! ### Cached readers -/

/-- `StudentResponseSelfCache.model_validate`; `UserResponseSelfCache` when no group was
loaded. -/
def Loaded.selfCache (l : Loaded) : UserResponseSelfCache where
  id := l.user.id
  username := l.user.username
  firstname := l.user.firstname
  lastname := l.user.lastname
  middlename := l.user.middlename
  phoneNumber := l.user.phoneNumber
  email := l.user.email
  dateOfBirth := l.user.dateOfBirth
  address := l.user.address
  createdAt := l.user.createdAt
  group := l.group.map Group.response

/-- The self dump under a key. -/
def CacheValue.self? : CacheValue → Option UserResponseSelfCache
  | .self detail => some detail
  | _ => none

/-- `UserServiceSelf.get_my_profile`; its schema has no group. -/
def getMyProfile (currentUserId : UserId) : Service UserResponseSelfCache :=
  cachedDetail (.userDetailKeySelf currentUserId) currentUserId { excludedRoles := studentRole }
    (fun cached => cached.self?.map fun detail => { detail with group := none })
    (fun user => .self user.selfCache) Loaded.selfCache

/-- `UserServiceSelf.get_my_student_profile`. -/
def getMyStudentProfile (currentUserId : UserId) : Service UserResponseSelfCache :=
  cachedDetail (.userDetailKeySelf currentUserId) currentUserId
    { allowedRoles := studentRole, loadGroup := true }
    CacheValue.self? (fun user => .self user.selfCache) Loaded.selfCache

/-- `StudentResponseDirectorCache.model_validate`; `UserResponseDirectorCache` when no
group was loaded. -/
def Loaded.directorCache (l : Loaded) : UserResponseDirectorCache where
  id := l.user.id
  firstname := l.user.firstname
  lastname := l.user.lastname
  middlename := l.user.middlename
  phoneNumber := l.user.phoneNumber
  dateOfBirth := l.user.dateOfBirth
  address := l.user.address
  role := l.user.role
  status := l.user.status
  createdAt := l.user.createdAt
  group := l.group.map Group.response

/-- The staff dump under a key. -/
def CacheValue.staff? : CacheValue → Option UserResponseDirectorCache
  | .staff detail => some detail
  | _ => none

/-- `UserServiceDirector.get_teacher_by_id`; the teacher schema has no group. -/
def UserServiceDirector.getTeacherById (targetTeacherId : UserId) :
    Service UserResponseDirectorCache :=
  cachedDetail (.userDetailKeyStaff targetTeacherId) targetTeacherId
    { allowedRoles := teacherRole }
    (fun cached => cached.staff?.map fun detail => { detail with group := none })
    (fun user => .staff user.directorCache) Loaded.directorCache

/-- `UserServiceDirector.get_student_by_id`. -/
def UserServiceDirector.getStudentById (targetStudentId : UserId) :
    Service UserResponseDirectorCache :=
  cachedDetail (.userDetailKeyStaff targetStudentId) targetStudentId
    { allowedRoles := studentRole, loadGroup := true }
    CacheValue.staff? (fun user => .staff user.directorCache) Loaded.directorCache

end SmsLite
