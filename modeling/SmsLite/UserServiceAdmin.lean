import SmsLite.Repository

/-!
# The user service of the system administrator

`src/users/services/system_admin.py`, with the payloads of
`src/users/schemas/system_admin.py` and `update_object` of `src/utils/helpers.py`.

A field of an update request has three states: not sent, sent as null, and sent
with a value.  `model_dump(exclude_unset=True)` keeps the last two, while
`request.field is not None` is true of the last one only.

## Main definitions

* `Patch` — a field of an update request.
* `updateObject` — the assignments of an update, refused when nothing changes.
* `registerUser`, `updateUser`, `updateUserCredentials`, `deactivateUser`,
  `activateUser`, `createResetPasswordRequest`, `resendActivationInvite` — the
  mutators.
* `cachedDetail`, `UserServiceAdmin.getTeacherById`, `UserServiceAdmin.getStudentById`
  — the cached readers.
-/

namespace SmsLite

open Interleave

/-! ### Update requests -/

/-- A field of an update request. -/
inductive Patch (α : Type)
  | unset
  | null
  | set (a : α)
  deriving DecidableEq, Repr

/-- The attribute of the request: `None` both when it was not sent and when it is null. -/
def Patch.value? {α : Type} : Patch α → Option α
  | .unset | .null => none
  | .set a => some a

/-- What `update_object` leaves in a column that holds `old`. -/
def Patch.assign {α : Type} (p : Patch α) (old : Option α) : Option α :=
  match p with
  | .unset => old
  | .null => none
  | .set a => some a

/-- The same field with its value converted. -/
def Patch.map {α β : Type} (f : α → β) : Patch α → Patch β
  | .unset => .unset
  | .null => .null
  | .set a => .set (f a)

/-- `update_object`: `assigned` is the instance with the sent fields assigned. -/
def updateObject (instance_ assigned : UserDraft) : Service UserDraft :=
  if assigned = instance_ then raise (.app .noChangesDetectedError HTTP400.noChangesDetected)
  else pure assigned

/-- `CreateUserBase`, after its validators. -/
structure CreateUserBase where
  username : String
  firstname : String
  lastname : String
  middlename : Option String
  phoneNumber : PhoneNumber
  email : EmailAddress
  deriving DecidableEq, Repr

/-- `CreateUserRequest`. -/
inductive CreateUserRequest
  /-- `CreateTeacherAdmin`. -/
  | teacher (base : CreateUserBase)
  /-- `CreateStudentAdmin`. -/
  | student (base : CreateUserBase) (dateOfBirth : Date) (address : Option String)
  deriving DecidableEq, Repr

namespace CreateUserRequest

/-- The common fields. -/
def base : CreateUserRequest → CreateUserBase
  | teacher base => base
  | student base _ _ => base

/-- `resolved_role`. -/
def resolvedRole : CreateUserRequest → UserRole
  | teacher _ => .teacher
  | student _ _ _ => .student

/-- `contact_limit_role`. -/
def contactLimitRole : CreateUserRequest → Option UserRole
  | teacher _ => none
  | student _ _ _ => some .student

/-- `max_allowed`. -/
def maxAllowed : CreateUserRequest → ℕ
  | teacher _ => teacherMaxSharedContact
  | student _ _ _ => studentMaxSharedContact

/-- `is_student`. -/
def isStudent (r : CreateUserRequest) : Bool := decide (r.resolvedRole = .student)

/-- `create_request.date_of_birth if is_student else None`. -/
def dateOfBirth? : CreateUserRequest → Option Date
  | teacher _ => none
  | student _ dateOfBirth _ => some dateOfBirth

/-- `create_request.address if is_student else None`. -/
def address? : CreateUserRequest → Option String
  | teacher _ => none
  | student _ _ address => address

/-- The `User` of `register_user`, under the id the flush gives it. -/
def newUser (r : CreateUserRequest) (currentUserId : UserId) (id : UserId) : User where
  id := id
  username := r.base.username
  firstname := r.base.firstname
  lastname := r.base.lastname
  middlename := r.base.middlename
  dateOfBirth := r.dateOfBirth?
  address := r.address?
  phoneNumber := r.base.phoneNumber.text
  email := r.base.email.text
  passwordHash := none
  role := r.resolvedRole
  status := .pendingActivation
  isActive := false
  createdBy := some currentUserId
  groupId := none
  createdAt := 0

end CreateUserRequest

/-- `UpdateUserBase`. -/
structure UpdateUserBase where
  firstname : Patch String
  lastname : Patch String
  middlename : Patch String
  phoneNumber : Patch PhoneNumber
  deriving DecidableEq, Repr

/-- `UpdateUserRequest`. -/
inductive UpdateUserRequest
  /-- `UpdateTeacherAdmin`. -/
  | teacher (base : UpdateUserBase)
  /-- `UpdateStudentAdmin`. -/
  | student (base : UpdateUserBase) (dateOfBirth : Patch Date) (address : Patch String)
  deriving DecidableEq, Repr

namespace UpdateUserRequest

/-- The common fields. -/
def base : UpdateUserRequest → UpdateUserBase
  | teacher base => base
  | student base _ _ => base

/-- `isinstance(update_request, UpdateStudentAdmin)`. -/
def isStudentShaped : UpdateUserRequest → Bool
  | teacher _ => false
  | student _ _ _ => true

/-- The user with the sent fields assigned. -/
def assign (r : UpdateUserRequest) (u : UserDraft) : UserDraft :=
  let u :=
    { u with
      firstname := r.base.firstname.assign u.firstname
      lastname := r.base.lastname.assign u.lastname
      middlename := r.base.middlename.assign u.middlename
      phoneNumber := (r.base.phoneNumber.map (·.text)).assign u.phoneNumber }
  match r with
  | teacher _ => u
  | student _ dateOfBirth address =>
    { u with dateOfBirth := dateOfBirth.assign u.dateOfBirth, address := address.assign u.address }

/-- The new phone number, when the request sends one that differs from the current one. -/
def newPhoneNumber (r : UpdateUserRequest) (u : User) : Option PhoneNumber :=
  r.base.phoneNumber.value?.filter (·.text ≠ u.phoneNumber)

end UpdateUserRequest

/-- `UpdateUserCredentials`. -/
structure UpdateUserCredentials where
  username : Patch String
  email : Patch EmailAddress
  deriving DecidableEq, Repr

namespace UpdateUserCredentials

/-- The user with the sent fields assigned. -/
def assign (r : UpdateUserCredentials) (u : UserDraft) : UserDraft :=
  { u with
    username := r.username.assign u.username
    email := (r.email.map (·.text)).assign u.email }

/-- The new username, when the request sends one that differs from the current one. -/
def newUsername (r : UpdateUserCredentials) (u : User) : Option String :=
  r.username.value?.filter (· ≠ u.username)

/-- The new address, when the request sends one that differs from the current one. -/
def newEmail (r : UpdateUserCredentials) (u : User) : Option EmailAddress :=
  r.email.value?.filter (·.text ≠ u.email)

end UpdateUserCredentials

/-! ### Mutators -/

/-- The keys of the cached details of a user. -/
def userDetailKeys (userId : UserId) : List CacheKey :=
  [.userDetailKeyAdmin userId, .userDetailKeyStaff userId, .userDetailKeySelf userId]

/-- The outbox row of an invitation. -/
def inviteMail (rawInviteToken username recipient : String) (currentUserId userId : UserId) :
    NewPendingEmail where
  recipient := recipient
  content := .inviteEmail rawInviteToken username
  emailType := .invite
  triggeredBy := some currentUserId
  recipientUserId := some userId

/-- `UserServiceAdmin.register_user`. -/
def registerUser (env : Env) (currentUserId : UserId) (createRequest : CreateUserRequest) :
    Service User := do
  let phoneNumber := some createRequest.base.phoneNumber.text
  let email := some createRequest.base.email.text
  onlyIf createRequest.isStudent (acquireStudentContactLock env phoneNumber email)
  checkContactLimit phoneNumber email createRequest.contactLimitRole createRequest.maxAllowed none
  let rawInviteToken ← tokenUrlsafe
  let now ← datetimeNow
  match ← tryFlushUser (createRequest.newUser currentUserId 0) with
  | .error e => exceptIntegrityError true (!createRequest.isStudent) e
  | .ok id =>
    match ← tryCommit (.register (createRequest.newUser currentUserId id)
        { userId := id
          inviteTokenHash := some (env.sha256 rawInviteToken)
          inviteTokenExpiresAt := some (now + Time.hours env.settings.inviteTokenExpiresHours) }
        { userId := id } { userId := id }
        (inviteMail rawInviteToken createRequest.base.username createRequest.base.email.text
          currentUserId id)) with
    | .error e => exceptIntegrityError true (!createRequest.isStudent) e
    | .ok () => refresh id

/-- `UserServiceAdmin.update_user`. -/
def updateUser (env : Env) (targetUserId : UserId) (updateRequest : UpdateUserRequest) :
    Service Unit := do
  let targetUser ← ensureExists
    (← getUserById targetUserId { excludedRoles := systemAdminInvisibleRoles }) userNotFound
  let isStudent := decide (targetUser.user.role = .student)
  if isStudent ≠ updateRequest.isStudentShaped then
    raise (.app .userTypeMismatchError
      "Submitted update payload type does not match the target user's role")
  else
    let phoneNumber := updateRequest.newPhoneNumber targetUser.user
    checkStudentContact env (isStudent && phoneNumber.isSome) (phoneNumber.map (·.text)) none
      targetUserId
    let user ← updateObject targetUser.user.draft (updateRequest.assign targetUser.user.draft)
    match ← tryCommit (.update targetUser { targetUser.dirty with user := user } []) with
    | .error e => exceptIntegrityError false (!isStudent) e
    | .ok () =>
      let refreshed ← refresh targetUserId
      createTask
        { recipient := refreshed.email, emailType := .updatingAccount
          content := .accountInfoUpdated }
      deleteCache (userDetailKeys targetUserId)

/-- `generate_invite_token` and its use in `update_user_credentials` and
`resend_activation_invite`: the activation row with the new invite, and the mail that
carries it. -/
def reissueInvite (env : Env) (currentUserId : UserId) (targetUser : Loaded)
    (username email : Option String) : Service (UserActivation × NewPendingEmail) := do
  let rawInviteToken ← tokenUrlsafe
  let now ← datetimeNow
  let activation ← deref "invite_token_hash" targetUser.activation
  pure
    ({ activation with
       inviteTokenHash := some (env.sha256 rawInviteToken)
       inviteTokenExpiresAt := some (now + Time.hours env.settings.inviteTokenExpiresHours) },
     inviteMail rawInviteToken (username.getD "None") (email.getD "None") currentUserId
       targetUser.user.id)

/-- The outbox row that tells a user that an administrator changed the credentials. -/
def credentialsOverrideMail (old : User) (new : UserDraft) (currentUserId : UserId) :
    NewPendingEmail where
  recipient := old.email
  content :=
    .adminCredentialsOverrideNotificationEmail
      (if some old.username ≠ new.username then some old.username else none)
      (if some old.username ≠ new.username then new.username else none)
      (if some old.email ≠ new.email then some old.email else none)
      (if some old.email ≠ new.email then new.email else none)
  emailType := .adminCredentialsOverride
  triggeredBy := some currentUserId
  recipientUserId := some old.id

/-- A revoked session without a pending change of the email. -/
def UserSession.overridden (s : UserSession) : UserSession :=
  { s.revoked with
    pendingNewEmail := none, emailChangeCodeHash := none, emailChangeCodeExpiresAt := none }

/-- `UserServiceAdmin.update_user_credentials`. -/
def updateUserCredentials (env : Env) (currentUserId targetUserId : UserId)
    (updateRequest : UpdateUserCredentials) : Service Unit := do
  let targetUser ← ensureExists
    (← getUserById targetUserId
      { excludedRoles := systemAdminInvisibleRoles, loadSession := true, loadActivation := true })
    userNotFound
  let isStudent := decide (targetUser.user.role = .student)
  let newEmail := updateRequest.newEmail targetUser.user
  let shouldReissueActivationToken :=
    newEmail.isSome && decide (targetUser.user.status = .pendingActivation)
  checkStudentContact env (isStudent && newEmail.isSome) none (newEmail.map (·.text)) targetUserId
  let user ← updateObject targetUser.user.draft (updateRequest.assign targetUser.user.draft)
  let session ← deref "access_token_version" targetUser.session
  let (activation, newPendingEmail) ←
    if shouldReissueActivationToken then do
      let (activation, mail) ← reissueInvite env currentUserId targetUser user.username user.email
      pure (some activation, mail)
    else
      pure (targetUser.activation, credentialsOverrideMail targetUser.user user currentUserId)
  match ← tryCommit (.update targetUser
      { user := user, session := some session.overridden, activation := activation
        loginLockout := targetUser.loginLockout } [newPendingEmail]) with
  | .error e => exceptIntegrityError true (!isStudent) e
  | .ok () => deleteCache (.accessTokenVersionKey targetUserId :: userDetailKeys targetUserId)

/-- `UserServiceAdmin.deactivate_user`. -/
def deactivateUser (targetUserId : UserId) : Service Unit := do
  let targetUser ← ensureExists
    (← getUserById targetUserId
      { excludedRoles := systemAdminInvisibleRoles, loadSession := true }) userNotFound
  if !targetUser.user.isActive then
    raise (.app .userAlreadyInactiveError "User is already deactivated")
  else
    let session ← deref "access_token_version" targetUser.session
    commitOrRaise (.update targetUser
      { targetUser.dirty with
        user := { targetUser.user.draft with isActive := false, status := .deactivated }
        session := some session.revoked } [])
    createTask
      { recipient := targetUser.user.email, emailType := .accountDeactivation
        content := .accountDeactivation }
    deleteCache (.accessTokenVersionKey targetUserId :: userDetailKeys targetUserId)

/-- `UserServiceAdmin.activate_user`. -/
def activateUser (targetUserId : UserId) : Service Unit := do
  let targetUser ← ensureExists
    (← getUserById targetUserId
      { excludedRoles := systemAdminInvisibleRoles, loadLoginLockout := true }) userNotFound
  if targetUser.user.isActive then
    raise (.app .userAlreadyActiveError "User is already activated")
  else
    let loginLockout ← deref "failed_login_attempts" targetUser.loginLockout
    commitOrRaise (.update targetUser
      { targetUser.dirty with
        user := { targetUser.user.draft with isActive := true, status := .active }
        loginLockout := some { loginLockout with failedLoginAttempts := 0, lockedUntil := none } }
      [])
    createTask
      { recipient := targetUser.user.email, emailType := .accountActivation
        content := .accountActivation }
    deleteCache [.userDetailKeyAdmin targetUserId]

/-- `UserServiceAdmin.create_reset_password_request`. -/
def createResetPasswordRequest (env : Env) (currentUserId targetUserId : UserId) :
    Service Unit := do
  let targetUser ← ensureExists
    (← getUserById targetUserId
      { excludedRoles := systemAdminInvisibleRoles, loadSession := true }) userNotFound
  let rawResetToken ← tokenUrlsafe
  let session ← deref "reset_password_token_hash" targetUser.session
  let now ← datetimeNow
  commitOrRaise (.update targetUser
    { targetUser.dirty with
      session := some
        { session with
          resetPasswordTokenHash := some (env.sha256 rawResetToken)
          resetPasswordTokenExpiresAt :=
            some (now + Time.minutes env.settings.resetPasswordExpiresMinutes) } }
    [{ recipient := targetUser.user.email, content := .resetPasswordEmail rawResetToken
       emailType := .passwordResetAdmin, triggeredBy := some currentUserId
       recipientUserId := some targetUserId }])

/-- `UserServiceAdmin.resend_activation_invite`. -/
def resendActivationInvite (env : Env) (currentUserId targetUserId : UserId) : Service Unit := do
  let targetUser ← ensureExists
    (← getUserById targetUserId
      { excludedRoles := systemAdminInvisibleRoles, loadActivation := true }) userNotFound
  if targetUser.user.status ≠ .pendingActivation then
    raise (.app .userNotPendingActivationError "User is already activated")
  else
    let (activation, newPendingEmail) ← reissueInvite env currentUserId targetUser
      (some targetUser.user.username) (some targetUser.user.email)
    commitOrRaise (.update targetUser
      { targetUser.dirty with activation := some activation } [newPendingEmail])

/-! ### Cached readers -/

/-- A reader of one user: answer from the cache, else from the row, which it caches.
`validate` reads a cache entry back, `project` makes one. -/
def cachedDetail {α : Type} (cacheKey : CacheKey) (userId : UserId) (q : UserQuery)
    (validate : CacheValue → Option α) (project : Loaded → CacheValue) (respond : Loaded → α) :
    Service α := do
  match ← getCache cacheKey with
  | some cached =>
    match validate cached with
    | some response => pure response
    | none => raise (.valueError "validation error")
  | none =>
    let user ← ensureExists (← getUserById userId q) userNotFound
    setCache cacheKey (project user)
    pure (respond user)

/-- `GroupResponseBase.model_validate`. -/
def Group.response (g : Group) : GroupResponseBase where
  name := g.name
  academicYear := g.academicYear
  gradeLevel := g.gradeLevel
  capacity := g.capacity

/-- `StudentResponseAdminCache.model_validate`; `UserResponseAdminCache` when no group
was loaded. -/
def Loaded.adminCache (l : Loaded) : UserResponseAdminCache where
  id := l.user.id
  username := l.user.username
  firstname := l.user.firstname
  lastname := l.user.lastname
  middlename := l.user.middlename
  phoneNumber := l.user.phoneNumber
  email := l.user.email
  dateOfBirth := l.user.dateOfBirth
  address := l.user.address
  role := l.user.role
  status := l.user.status
  isActive := l.user.isActive
  createdBy := l.user.createdBy
  createdAt := l.user.createdAt
  group := l.group.map Group.response

/-- The admin dump under a key. -/
def CacheValue.admin? : CacheValue → Option UserResponseAdminCache
  | .admin detail => some detail
  | _ => none

/-- `UserServiceAdmin.get_teacher_by_id`; the teacher schema has no group. -/
def UserServiceAdmin.getTeacherById (targetTeacherId : UserId) : Service UserResponseAdminCache :=
  cachedDetail (.userDetailKeyAdmin targetTeacherId) targetTeacherId
    { allowedRoles := teacherRole }
    (fun cached => cached.admin?.map fun detail => { detail with group := none })
    (fun user => .admin user.adminCache) Loaded.adminCache

/-- `UserServiceAdmin.get_student_by_id`. -/
def UserServiceAdmin.getStudentById (targetStudentId : UserId) : Service UserResponseAdminCache :=
  cachedDetail (.userDetailKeyAdmin targetStudentId) targetStudentId
    { allowedRoles := studentRole, loadGroup := true }
    CacheValue.admin? (fun user => .admin user.adminCache) Loaded.adminCache

end SmsLite
