import SmsLite.System

/-!
# The life of one account

The abstract machine behind the services.  An account is one user with its three
companion rows and the version the cache holds for it; a request does one of a few
things to one account, whatever the other accounts are.  Everything the guards of the
source establish on the account itself is a premise here; what they check on other
accounts (unique names, the contact limit) only decides whether the step happens.

`SmsLite.Refinement` proves that the services do nothing else.

## Main definitions

* `Account` — the state.
* `Account.Step` — **the steps**, one constructor for each branch of the source that
  changes an account.
* `Account.Violation`, `Account.Revoking` — the security-violation branch of
  `refresh_token`, and the steps that revoke every token of the account.

## Main results

* `Account.Step.accessTokenVersion` — the version moves exactly at the revoking steps.
* `Account.Step.refreshColumns` — what each step leaves in the refresh columns.
* `Account.Step.status` — what each step leaves in the status.
-/

namespace SmsLite

/-- A user, its companion rows and its cached version. -/
structure Account where
  user : User
  session : UserSession
  activation : UserActivation
  loginLockout : UserLoginLockout
  cachedVersion : Option CacheValue
  deriving DecidableEq, Repr

namespace Account

/-! ### What the steps leave behind -/

/-- The tokens and cookies of a new session. -/
def issue (env : Env) (now : Time) (draws : ℕ) (acc : Account) : LoginResponse where
  accessToken :=
    createAccessToken env now acc.user.id acc.user.role acc.session.accessTokenVersion
  refreshTokenCookie := createRefreshToken env now acc.user.id (env.tokenUrlsafe (draws + 1))
  refreshTokenFamilyCookie := env.tokenUrlsafe draws

/-- The refresh session is the one of `issue`. -/
def opened (env : Env) (now : Time) (draws : ℕ) (acc : Account) : Account :=
  { acc with
    session :=
      { acc.session with
        refreshTokenFamily := some (env.tokenUrlsafe draws)
        refreshTokenHash := some (env.sha256
          (createRefreshToken env now acc.user.id (env.tokenUrlsafe (draws + 1))))
        refreshTokenExpiresAt := some (now + Time.days env.settings.refreshTokenExpiresDays) } }

/-- Every token is revoked. -/
def revoked (acc : Account) : Account :=
  { acc with session := acc.session.revoked, cachedVersion := none }

/-- The lockout row is reset. -/
def unlocked (acc : Account) : Account :=
  { acc with
    loginLockout := { acc.loginLockout with failedLoginAttempts := 0, lockedUntil := none } }

/-- One more wrong password. -/
def failedLogin (now : Time) (acc : Account) : Account :=
  { acc with
    loginLockout :=
      { acc.loginLockout with
        failedLoginAttempts := acc.loginLockout.failedLoginAttempts + 1
        lockedUntil :=
          if maxFailedAttempts ≤ acc.loginLockout.failedLoginAttempts + 1 then
            some (now + Time.minutes lockoutMinutes)
          else acc.loginLockout.lockedUntil } }

/-- The password hash is replaced. -/
def withPassword (hash : String) (acc : Account) : Account :=
  { acc with user := { acc.user with passwordHash := some hash } }

/-- The email is replaced. -/
def withEmail (email : String) (acc : Account) : Account :=
  { acc with user := { acc.user with email := email } }

/-- The account is active. -/
def activated (acc : Account) : Account :=
  { acc with user := { acc.user with isActive := true, status := .active } }

/-- The account is deactivated. -/
def deactivated (acc : Account) : Account :=
  { acc with user := { acc.user with isActive := false, status := .deactivated } }

/-- No invite is outstanding. -/
def withoutInvite (acc : Account) : Account :=
  { acc with
    activation := { acc.activation with inviteTokenHash := none, inviteTokenExpiresAt := none } }

/-- The secret of the given draw is the invite. -/
def invited (env : Env) (now : Time) (draw : ℕ) (acc : Account) : Account :=
  { acc with
    activation :=
      { acc.activation with
        inviteTokenHash := some (env.sha256 (env.tokenUrlsafe draw))
        inviteTokenExpiresAt := some (now + Time.hours env.settings.inviteTokenExpiresHours) } }

/-- The secret of the given draw resets the password. -/
def resetRequested (env : Env) (now : Time) (draw : ℕ) (acc : Account) : Account :=
  { acc with
    session :=
      { acc.session with
        resetPasswordTokenHash := some (env.sha256 (env.tokenUrlsafe draw))
        resetPasswordTokenExpiresAt :=
          some (now + Time.minutes env.settings.resetPasswordExpiresMinutes) } }

/-- No password reset is outstanding. -/
def withoutReset (acc : Account) : Account :=
  { acc with
    session :=
      { acc.session with resetPasswordTokenHash := none, resetPasswordTokenExpiresAt := none } }

/-- No change of the email is pending. -/
def withoutEmailChange (acc : Account) : Account :=
  { acc with
    session :=
      { acc.session with
        pendingNewEmail := none, emailChangeCodeHash := none, emailChangeCodeExpiresAt := none } }

/-- A change of the email is pending under the code of the given draw. -/
def emailChangeRequested (env : Env) (now : Time) (draw : ℕ) (newEmail : EmailAddress)
    (acc : Account) : Account :=
  { acc with
    session :=
      { acc.session with
        pendingNewEmail := some newEmail
        emailChangeCodeHash := some (env.sha256 (emailChangeCode (env.randbelow draw)))
        emailChangeCodeExpiresAt :=
          some (now + Time.minutes env.settings.emailChangeCodeExpiresMinutes) } }

/-- A new username, under a new version; the refresh session stays. -/
def renamed (username : String) (acc : Account) : Account :=
  { acc with
    user := { acc.user with username := username }
    session := { acc.session with accessTokenVersion := acc.session.accessTokenVersion + 1 }
    cachedVersion := none }

/-- An account right after `register_user`. -/
def registered (env : Env) (now : Time) (draw : ℕ) (user : User) : Account where
  user := user
  session := { userId := user.id }
  activation :=
    { userId := user.id
      inviteTokenHash := some (env.sha256 (env.tokenUrlsafe draw))
      inviteTokenExpiresAt := some (now + Time.hours env.settings.inviteTokenExpiresHours) }
  loginLockout := { userId := user.id }
  cachedVersion := none

/-! ### Guards -/

/-- The lock of the account has not run out. -/
def Locked (now : Time) (acc : Account) : Prop := ∃ t ∈ acc.loginLockout.lockedUntil, now < t

/-- The refresh session: its three columns, when none of them is null. -/
def Session (acc : Account) (hash family : String) (expiresAt : Time) : Prop :=
  acc.session.refreshTokenHash = some hash ∧ acc.session.refreshTokenFamily = some family ∧
    acc.session.refreshTokenExpiresAt = some expiresAt

/-- The security-violation branch of `refresh_token`: a refresh token of the account that
decodes is presented while a session is live, and it or its family is not the session's. -/
def Violation (env : Env) (now : Time) (token family : String) (acc : Account) : Prop :=
  refreshTokenSubject env now token = .ok acc.user.id ∧
    ∃ hash stored expiresAt, acc.Session hash stored expiresAt ∧ now ≤ expiresAt ∧
      isAscii family = true ∧ isAscii stored = true ∧ isAscii hash = true ∧
      ¬ (family = stored ∧ env.sha256 token = hash)

/-- `refresh_token` accepts the pair. -/
def Accepts (env : Env) (now : Time) (token family : String) (acc : Account) : Prop :=
  refreshTokenSubject env now token = .ok acc.user.id ∧ isAscii family = true ∧
    ∃ expiresAt, acc.Session (env.sha256 token) family expiresAt ∧ now ≤ expiresAt

/-- `activate_account` accepts the invite. -/
def AcceptsInvite (env : Env) (now : Time) (inviteToken : String) (acc : Account) : Prop :=
  ∃ expiresAt, acc.activation.inviteTokenHash = some (env.sha256 inviteToken) ∧
    acc.activation.inviteTokenExpiresAt = some expiresAt ∧ now ≤ expiresAt

/-! ### The steps -/

/-- **The steps.**  `Step env now draws r out acc acc' draws'`: the request `r`, served at
the time `now` with the random values from `draws` to `draws'`, ends with `out` and takes
the account from `acc` to `acc'`. -/
inductive Step (env : Env) (now : Time) (draws : ℕ) :
    Request → Outcome → Account → Account → ℕ → Prop
  /-- `login` with a wrong password. -/
  | loginFailed (acc : Account) (formData : LoginForm) (password hash : String) (detail : String)
      (hname : formData.username = some acc.user.username)
      (hform : formData.password = some password) (hunlocked : ¬ acc.Locked now)
      (hhash : acc.user.passwordHash = some hash)
      (hstatus : acc.user.status ≠ .pendingActivation)
      (hbad : env.verifyPassword password (some hash) = .ok false) :
      Step env now draws (.login formData) (.error (.app .invalidCredentialsError detail)) acc
        (acc.failedLogin now) draws
  /-- `login`. -/
  | login (acc : Account) (formData : LoginForm) (password hash : String)
      (hname : formData.username = some acc.user.username)
      (hform : formData.password = some password) (hunlocked : ¬ acc.Locked now)
      (hhash : acc.user.passwordHash = some hash) (hstatus : acc.user.status = .active)
      (hgood : env.verifyPassword password (some hash) = .ok true) :
      Step env now draws (.login formData) (.ok (.tokens (acc.issue env now draws))) acc
        (acc.opened env now draws).unlocked (draws + 2)
  /-- `logout`. -/
  | logout (acc : Account) :
      Step env now draws (.logout acc.user.id) (.ok .none) acc acc.revoked draws
  /-- `activate_account`. -/
  | activateAccount (acc : Account) (request : ActivateAccountWithToken)
      (hname : request.username = acc.user.username)
      (h : acc.AcceptsInvite env now request.inviteToken) {passwordHash : String}
      (hpassword : env.hashPassword draws request.newPassword = .ok passwordHash) :
      Step env now draws (.activateAccount request) (.ok .none) acc
        (acc.withPassword passwordHash).activated.withoutInvite (draws + 1)
  /-- `refresh_token`, the pair being the current one. -/
  | refreshToken (acc : Account) (token family : String) (h : acc.Accepts env now token family) :
      Step env now draws (.refreshToken token family) (.ok (.tokens (acc.issue env now draws))) acc
        (acc.opened env now draws) (draws + 2)
  /-- `refresh_token`, the security-violation branch. -/
  | violation (acc : Account) (token family : String) (h : acc.Violation env now token family) :
      Step env now draws (.refreshToken token family)
        (.error (.app .invalidRefreshTokenError HTTP401.invalidRefreshToken)) acc acc.revoked draws
  /-- `reset_password`. -/
  | resetPassword (acc : Account) (request : ResetPassword) (expiresAt : Time)
      (hname : request.username = acc.user.username)
      (hhash : acc.session.resetPasswordTokenHash = some (env.sha256 request.resetToken))
      (hexpires : acc.session.resetPasswordTokenExpiresAt = some expiresAt)
      (hnow : now ≤ expiresAt) {passwordHash : String}
      (hpassword : env.hashPassword draws request.newPassword = .ok passwordHash) :
      Step env now draws (.resetPassword request) (.ok .none) acc
        (acc.withPassword passwordHash).revoked.withoutReset.unlocked (draws + 1)
  /-- `create_forgot_password_request` for an existing account. -/
  | forgotPassword (acc : Account) (request : ForgotPasswordPublicRequest) (text : String)
      (hname : request.username = acc.user.username) :
      Step env now draws (.createForgotPasswordRequest request) (.ok (.message text)) acc
        (acc.resetRequested env now draws) (draws + 1)
  /-- `get_current_user` fills the cache. -/
  | getCurrentUser (acc : Account) (token : String) (role : UserRole)
      (htoken : accessTokenSubject env now token =
        .ok (acc.user.id, acc.session.accessTokenVersion, some role))
      (hcache : acc.cachedVersion = none) (hactive : acc.user.isActive = true) :
      Step env now draws (.getCurrentUser token)
        (.ok (.currentUser { id := acc.user.id, role := role })) acc
        { acc with cachedVersion := some (.version acc.session.accessTokenVersion) } draws
  /-- `update_user`. -/
  | updateUser (acc : Account) (updateRequest : UpdateUserRequest) (user : User)
      (hrole : acc.user.role ≠ .systemAdmin)
      (hshape : decide (acc.user.role = .student) = updateRequest.isStudentShaped)
      (huser : user.draft = updateRequest.assign acc.user.draft)
      (hchanged : user ≠ acc.user) :
      Step env now draws (.updateUser acc.user.id updateRequest) (.ok .none) acc
        { acc with user := user } draws
  /-- `update_user_credentials`. -/
  | updateUserCredentials (acc : Account) (currentUserId : UserId)
      (updateRequest : UpdateUserCredentials) (user : User)
      (hrole : acc.user.role ≠ .systemAdmin)
      (huser : user.draft = updateRequest.assign acc.user.draft)
      (hchanged : user ≠ acc.user)
      (hkeep : ¬ ((updateRequest.newEmail acc.user).isSome ∧
        acc.user.status = .pendingActivation)) :
      Step env now draws (.updateUserCredentials currentUserId acc.user.id updateRequest)
        (.ok .none) acc { acc with user := user }.revoked.withoutEmailChange draws
  /-- `update_user_credentials` on a pending account whose email it changes: the invitation
  is renewed. -/
  | updatePendingCredentials (acc : Account) (currentUserId : UserId)
      (updateRequest : UpdateUserCredentials) (user : User)
      (hrole : acc.user.role ≠ .systemAdmin)
      (huser : user.draft = updateRequest.assign acc.user.draft)
      (hchanged : user ≠ acc.user)
      (hemail : (updateRequest.newEmail acc.user).isSome = true)
      (hpending : acc.user.status = .pendingActivation) :
      Step env now draws (.updateUserCredentials currentUserId acc.user.id updateRequest)
        (.ok .none) acc
        ({ acc with user := user }.revoked.withoutEmailChange.invited env now draws) (draws + 1)
  /-- `deactivate_user`. -/
  | deactivateUser (acc : Account) (hrole : acc.user.role ≠ .systemAdmin)
      (hactive : acc.user.isActive = true) :
      Step env now draws (.deactivateUser acc.user.id) (.ok .none) acc acc.deactivated.revoked draws
  /-- `activate_user`. -/
  | activateUser (acc : Account) (hrole : acc.user.role ≠ .systemAdmin)
      (hactive : acc.user.isActive = false) :
      Step env now draws (.activateUser acc.user.id) (.ok .none) acc acc.activated.unlocked draws
  /-- `create_reset_password_request`. -/
  | createResetPasswordRequest (acc : Account) (currentUserId : UserId)
      (hrole : acc.user.role ≠ .systemAdmin) :
      Step env now draws (.createResetPasswordRequest currentUserId acc.user.id) (.ok .none) acc
        (acc.resetRequested env now draws) (draws + 1)
  /-- `resend_activation_invite`. -/
  | resendActivationInvite (acc : Account) (currentUserId : UserId)
      (hrole : acc.user.role ≠ .systemAdmin) (hpending : acc.user.status = .pendingActivation) :
      Step env now draws (.resendActivationInvite currentUserId acc.user.id) (.ok .none) acc
        (acc.invited env now draws) (draws + 1)
  /-- `update_me_credentials` with a new username. -/
  | renameMe (acc : Account) (updateRequest : UpdateUserCredentials) (username : String)
      (hname : updateRequest.newUsername acc.user = some username)
      (hemail : updateRequest.newEmail acc.user = none) :
      Step env now draws (.updateMeCredentials acc.user.id updateRequest) (.ok .none) acc
        (acc.renamed username) draws
  /-- `update_me_credentials` with a new email. -/
  | requestEmailChange (acc : Account) (updateRequest : UpdateUserCredentials)
      (newEmail : EmailAddress) (hname : updateRequest.newUsername acc.user = none)
      (hemail : updateRequest.newEmail acc.user = some newEmail)
      (hnew : acc.session.duplicateRequest now newEmail = false) :
      Step env now draws (.updateMeCredentials acc.user.id updateRequest) (.ok .none) acc
        (acc.emailChangeRequested env now draws newEmail) (draws + 1)
  /-- `update_me_credentials` with both. -/
  | renameMeAndRequestEmailChange (acc : Account) (updateRequest : UpdateUserCredentials)
      (username : String) (newEmail : EmailAddress)
      (hname : updateRequest.newUsername acc.user = some username)
      (hemail : updateRequest.newEmail acc.user = some newEmail)
      (hnew : acc.session.duplicateRequest now newEmail = false) :
      Step env now draws (.updateMeCredentials acc.user.id updateRequest) (.ok .none) acc
        ((acc.renamed username).emailChangeRequested env now draws newEmail) (draws + 1)
  /-- `confirm_email_change`. -/
  | confirmEmailChange (acc : Account) (confirmRequest : ConfirmEmailChange)
      (newEmail : EmailAddress) (expiresAt : Time)
      (hnew : acc.session.pendingNewEmail = some newEmail)
      (hhash : acc.session.emailChangeCodeHash = some (env.sha256 confirmRequest.code))
      (hexpires : acc.session.emailChangeCodeExpiresAt = some expiresAt) (hnow : now ≤ expiresAt) :
      Step env now draws (.confirmEmailChange acc.user.id confirmRequest) (.ok .none) acc
        (acc.withEmail newEmail.text).revoked.withoutEmailChange draws
  /-- `update_me_password`. -/
  | updateMePassword (acc : Account) (updateRequest : UpdateMePassword) (hash : String)
      (hhash : acc.user.passwordHash = some hash)
      (hgood : env.verifyPassword updateRequest.currentPassword (some hash) = .ok true)
      {passwordHash : String}
      (hpassword : env.hashPassword draws updateRequest.newPassword = .ok passwordHash) :
      Step env now draws (.updateMePassword acc.user.id updateRequest) (.ok .none) acc
        (acc.withPassword passwordHash).revoked (draws + 1)

/-- The request, ending so, revokes every access token of the account it is about. -/
def Revoking (env : Env) (now : Time) (acc : Account) : Request → Outcome → Prop
  | .refreshToken token family, _ => acc.Violation env now token family
  | .updateMeCredentials _ r, .ok _ => (r.newUsername acc.user).isSome = true
  | .logout _, .ok _ | .resetPassword _, .ok _ | .updateMePassword _ _, .ok _
  | .confirmEmailChange _ _, .ok _ | .updateUserCredentials _ _ _, .ok _
  | .deactivateUser _, .ok _ => True
  | _, _ => False

/-! ### The invariant -/

/-- The three columns are null together. -/
def AllOrNone {α β γ : Type} (a : Option α) (b : Option β) (c : Option γ) : Prop :=
  (a = none ↔ b = none) ∧ (b = none ↔ c = none)

/-- What holds of every account in every reachable state. -/
structure Sound (acc : Account) : Prop where
  /-- The refresh session. -/
  refreshGroup : AllOrNone acc.session.refreshTokenHash acc.session.refreshTokenFamily
    acc.session.refreshTokenExpiresAt
  /-- The password reset. -/
  resetGroup : acc.session.resetPasswordTokenHash = none ↔
    acc.session.resetPasswordTokenExpiresAt = none
  /-- The pending change of the email. -/
  emailChangeGroup : AllOrNone acc.session.pendingNewEmail acc.session.emailChangeCodeHash
    acc.session.emailChangeCodeExpiresAt
  /-- The invitation. -/
  inviteGroup : acc.activation.inviteTokenHash = none ↔ acc.activation.inviteTokenExpiresAt = none
  /-- `login` looks at the status, `get_current_user` at the flag. -/
  isActive : acc.user.isActive = true ↔ acc.user.status = .active
  /-- A refresh session belongs to an active account with a password. -/
  refreshSession : acc.session.refreshTokenHash ≠ none →
    acc.user.status = .active ∧ acc.user.passwordHash ≠ none
  /-- The cached version is the current one, of an active account. -/
  cachedVersion : ∀ v ∈ acc.cachedVersion,
    v = .version acc.session.accessTokenVersion ∧ acc.user.isActive = true

/-- A newly registered account is sound. -/
theorem registered_sound (env : Env) (now : Time) (draw : ℕ) {user : User}
    (hactive : user.isActive = false) (hstatus : user.status = .pendingActivation) :
    (registered env now draw user).Sound := by
  constructor <;> simp [registered, AllOrNone, hactive, hstatus]

/-- Assigning the fields of an update leaves the other columns alone. -/
theorem assign_eq {r : UpdateUserRequest} {u v : User} (h : v.draft = r.assign u.draft) :
    v.id = u.id ∧ v.username = u.username ∧ v.email = u.email ∧ v.passwordHash = u.passwordHash ∧
      v.role = u.role ∧ v.status = u.status ∧ v.isActive = u.isActive := by
  cases r <;>
    simp only [UpdateUserRequest.assign, User.draft, UserColumns.mk.injEq,
      Option.some.injEq] at h <;>
    tauto

/-- Assigning credentials leaves the other columns alone. -/
theorem assign_credentials_eq {r : UpdateUserCredentials} {u v : User}
    (h : v.draft = r.assign u.draft) :
    v.id = u.id ∧ v.passwordHash = u.passwordHash ∧ v.role = u.role ∧ v.status = u.status ∧
      v.isActive = u.isActive := by
  simp only [UpdateUserCredentials.assign, User.draft, UserColumns.mk.injEq] at h
  tauto

section Sound

variable {acc : Account} (hs : acc.Sound)
include hs

theorem Sound.unlocked : acc.unlocked.Sound :=
  ⟨hs.refreshGroup, hs.resetGroup, hs.emailChangeGroup, hs.inviteGroup, hs.isActive,
    hs.refreshSession, hs.cachedVersion⟩

theorem Sound.failedLogin (now : Time) : (acc.failedLogin now).Sound :=
  ⟨hs.refreshGroup, hs.resetGroup, hs.emailChangeGroup, hs.inviteGroup, hs.isActive,
    hs.refreshSession, hs.cachedVersion⟩

/-- Opening a session needs an active account with a password. -/
theorem Sound.opened (env : Env) (now : Time) (draws : ℕ) (hstatus : acc.user.status = .active)
    (hhash : acc.user.passwordHash ≠ none) : (acc.opened env now draws).Sound :=
  ⟨by simp [AllOrNone, Account.opened], hs.resetGroup, hs.emailChangeGroup, hs.inviteGroup,
    hs.isActive, fun _ => ⟨hstatus, hhash⟩, hs.cachedVersion⟩

theorem Sound.revoked : acc.revoked.Sound :=
  ⟨by simp [AllOrNone, Account.revoked, UserSession.revoked], hs.resetGroup, hs.emailChangeGroup,
    hs.inviteGroup, hs.isActive, by simp [Account.revoked, UserSession.revoked],
    by simp [Account.revoked]⟩

theorem Sound.withPassword (hash : String) : (acc.withPassword hash).Sound :=
  ⟨hs.refreshGroup, hs.resetGroup, hs.emailChangeGroup, hs.inviteGroup, hs.isActive,
    fun h => ⟨(hs.refreshSession h).1, by simp [Account.withPassword]⟩, hs.cachedVersion⟩

theorem Sound.withEmail (email : String) : (acc.withEmail email).Sound :=
  ⟨hs.refreshGroup, hs.resetGroup, hs.emailChangeGroup, hs.inviteGroup, hs.isActive,
    hs.refreshSession, hs.cachedVersion⟩

theorem Sound.activated : acc.activated.Sound :=
  ⟨hs.refreshGroup, hs.resetGroup, hs.emailChangeGroup, hs.inviteGroup,
    by simp [Account.activated], fun h => ⟨rfl, (hs.refreshSession h).2⟩,
    fun v hv => ⟨(hs.cachedVersion v hv).1, rfl⟩⟩

/-- Deactivation alone would leave a refresh session behind; revocation clears it. -/
theorem Sound.deactivated_revoked : acc.deactivated.revoked.Sound :=
  ⟨by simp [AllOrNone, Account.revoked, UserSession.revoked], hs.resetGroup, hs.emailChangeGroup,
    hs.inviteGroup, by simp [Account.deactivated, Account.revoked],
    by simp [Account.revoked, UserSession.revoked], by simp [Account.revoked]⟩

theorem Sound.withoutInvite : acc.withoutInvite.Sound :=
  ⟨hs.refreshGroup, hs.resetGroup, hs.emailChangeGroup, by simp [Account.withoutInvite],
    hs.isActive, hs.refreshSession, hs.cachedVersion⟩

theorem Sound.invited (env : Env) (now : Time) (draw : ℕ) : (acc.invited env now draw).Sound :=
  ⟨hs.refreshGroup, hs.resetGroup, hs.emailChangeGroup, by simp [Account.invited], hs.isActive,
    hs.refreshSession, hs.cachedVersion⟩

theorem Sound.resetRequested (env : Env) (now : Time) (draw : ℕ) :
    (acc.resetRequested env now draw).Sound :=
  ⟨hs.refreshGroup, by simp [Account.resetRequested], hs.emailChangeGroup, hs.inviteGroup,
    hs.isActive, hs.refreshSession, hs.cachedVersion⟩

theorem Sound.withoutReset : acc.withoutReset.Sound :=
  ⟨hs.refreshGroup, by simp [Account.withoutReset], hs.emailChangeGroup, hs.inviteGroup,
    hs.isActive, hs.refreshSession, hs.cachedVersion⟩

theorem Sound.withoutEmailChange : acc.withoutEmailChange.Sound :=
  ⟨hs.refreshGroup, hs.resetGroup, by simp [AllOrNone, Account.withoutEmailChange], hs.inviteGroup,
    hs.isActive, hs.refreshSession, hs.cachedVersion⟩

theorem Sound.emailChangeRequested (env : Env) (now : Time) (draw : ℕ) (newEmail : EmailAddress) :
    (acc.emailChangeRequested env now draw newEmail).Sound :=
  ⟨hs.refreshGroup, hs.resetGroup, by simp [AllOrNone, Account.emailChangeRequested],
    hs.inviteGroup, hs.isActive, hs.refreshSession, hs.cachedVersion⟩

theorem Sound.renamed (username : String) : (acc.renamed username).Sound :=
  ⟨hs.refreshGroup, hs.resetGroup, hs.emailChangeGroup, hs.inviteGroup, hs.isActive,
    hs.refreshSession, by simp [Account.renamed]⟩

/-- The columns of the user that the invariant does not speak of may change. -/
theorem Sound.withUser {user : User} (hhash : user.passwordHash = acc.user.passwordHash)
    (hstatus : user.status = acc.user.status) (hactive : user.isActive = acc.user.isActive) :
    ({ acc with user := user } : Account).Sound := by
  refine ⟨hs.refreshGroup, hs.resetGroup, hs.emailChangeGroup, hs.inviteGroup, ?_, ?_, ?_⟩
  · rw [hactive, hstatus]
    exact hs.isActive
  · rw [hhash, hstatus]
    exact hs.refreshSession
  · rw [hactive]
    exact hs.cachedVersion

/-- `get_current_user` caches the current version of an active account. -/
theorem Sound.cached (hactive : acc.user.isActive = true) :
    ({ acc with cachedVersion := some (.version acc.session.accessTokenVersion) } :
      Account).Sound :=
  ⟨hs.refreshGroup, hs.resetGroup, hs.emailChangeGroup, hs.inviteGroup, hs.isActive,
    hs.refreshSession, fun _ hv => ⟨(Option.mem_some.mp hv).symm, hactive⟩⟩

/-- The cache may forget the version. -/
theorem Sound.evicted : ({ acc with cachedVersion := none } : Account).Sound :=
  ⟨hs.refreshGroup, hs.resetGroup, hs.emailChangeGroup, hs.inviteGroup, hs.isActive,
    hs.refreshSession, by simp⟩

/-- An account whose session accepts a pair is active and has a password. -/
theorem Sound.active_of_accepts {env : Env} {now : Time} {token family : String}
    (h : acc.Accepts env now token family) :
    acc.user.status = .active ∧ acc.user.passwordHash ≠ none := by
  obtain ⟨-, -, expiresAt, hsession, -⟩ := h
  exact hs.refreshSession (by simp [hsession.1])

end Sound

/-- **Every step keeps the invariant.** -/
theorem Step.sound {env : Env} {now : Time} {draws draws' : ℕ} {r : Request} {out : Outcome}
    {acc acc' : Account} (h : Step env now draws r out acc acc' draws') (hs : acc.Sound) :
    acc'.Sound := by
  cases h with
  | loginFailed => exact hs.failedLogin now
  | login _ _ _ _ _ _ _ hhash hstatus =>
    exact (hs.opened env now draws hstatus (by simp [hhash])).unlocked
  | logout => exact hs.revoked
  | activateAccount => exact (hs.withPassword _).activated.withoutInvite
  | refreshToken _ _ _ h =>
    obtain ⟨hstatus, hhash⟩ := hs.active_of_accepts h
    exact hs.opened env now draws hstatus hhash
  | violation => exact hs.revoked
  | resetPassword => exact (hs.withPassword _).revoked.withoutReset.unlocked
  | forgotPassword => exact hs.resetRequested env now draws
  | getCurrentUser _ _ _ _ _ hactive => exact hs.cached hactive
  | updateUser _ _ _ _ _ huser =>
    obtain ⟨-, -, -, hhash, -, hstatus, hactive⟩ := assign_eq huser
    exact hs.withUser hhash hstatus hactive
  | updateUserCredentials _ _ _ _ _ huser =>
    obtain ⟨-, hhash, -, hstatus, hactive⟩ := assign_credentials_eq huser
    exact (hs.withUser hhash hstatus hactive).revoked.withoutEmailChange
  | updatePendingCredentials _ _ _ _ _ huser =>
    obtain ⟨-, hhash, -, hstatus, hactive⟩ := assign_credentials_eq huser
    exact (hs.withUser hhash hstatus hactive).revoked.withoutEmailChange.invited env now draws
  | deactivateUser => exact hs.deactivated_revoked
  | activateUser => exact hs.activated.unlocked
  | createResetPasswordRequest => exact hs.resetRequested env now draws
  | resendActivationInvite => exact hs.invited env now draws
  | renameMe _ _ username => exact hs.renamed username
  | requestEmailChange _ _ newEmail => exact hs.emailChangeRequested env now draws newEmail
  | renameMeAndRequestEmailChange _ _ username newEmail =>
    exact (hs.renamed username).emailChangeRequested env now draws newEmail
  | confirmEmailChange => exact (hs.withEmail _).revoked.withoutEmailChange
  | updateMePassword => exact (hs.withPassword _).revoked

/-- **No step changes the role.** -/
theorem Step.role {env : Env} {now : Time} {draws draws' : ℕ} {r : Request} {out : Outcome}
    {acc acc' : Account} (h : Step env now draws r out acc acc' draws') :
    acc'.user.role = acc.user.role := by
  cases h with
  | updateUser _ _ _ _ _ huser =>
    obtain ⟨-, -, -, -, hrole, -⟩ := assign_eq huser
    exact hrole
  | updateUserCredentials _ _ _ _ _ huser | updatePendingCredentials _ _ _ _ _ huser =>
    obtain ⟨-, -, hrole, -⟩ := assign_credentials_eq huser
    exact hrole
  | _ => rfl

/-! ### Versions -/

theorem Accepts.not_violation {env : Env} {now : Time} {token family : String} {acc : Account}
    (h : acc.Accepts env now token family) : ¬ acc.Violation env now token family := by
  obtain ⟨-, -, expiresAt, ⟨hhash, hfamily, -⟩, -⟩ := h
  rintro ⟨-, hash, stored, expiresAt', ⟨hhash', hfamily', -⟩, -, -, -, -, hne⟩
  rw [hhash] at hhash'
  rw [hfamily] at hfamily'
  exact hne ⟨Option.some.inj hfamily', Option.some.inj hhash'⟩

/-- **The version moves exactly at the revoking steps**, which also drop the cached one.
Any other step keeps an active account active. -/
theorem Step.accessTokenVersion {env : Env} {now : Time} {draws draws' : ℕ} {r : Request}
    {out : Outcome} {acc acc' : Account} (h : Step env now draws r out acc acc' draws') :
    (acc.Revoking env now r out ∧
        acc'.session.accessTokenVersion = acc.session.accessTokenVersion + 1 ∧
        acc'.cachedVersion = none) ∨
      (¬ acc.Revoking env now r out ∧
        acc'.session.accessTokenVersion = acc.session.accessTokenVersion ∧
        (acc.user.isActive = true → acc'.user.isActive = true)) := by
  cases h with
  | logout | resetPassword | deactivateUser | confirmEmailChange | updateMePassword
  | updateUserCredentials | updatePendingCredentials => exact Or.inl ⟨trivial, rfl, rfl⟩
  | violation _ _ _ h => exact Or.inl ⟨h, rfl, rfl⟩
  | renameMe _ _ _ hname | renameMeAndRequestEmailChange _ _ _ _ hname =>
    exact Or.inl ⟨by simp [Revoking, hname], rfl, rfl⟩
  | refreshToken _ _ _ h => exact Or.inr ⟨h.not_violation, rfl, id⟩
  | requestEmailChange _ _ _ hname => exact Or.inr ⟨by simp [Revoking, hname], rfl, id⟩
  | updateUser _ _ _ _ _ huser =>
    obtain ⟨-, -, -, -, -, -, hactive⟩ := assign_eq huser
    exact Or.inr ⟨not_false, rfl, hactive.trans⟩
  | activateAccount | activateUser => exact Or.inr ⟨not_false, rfl, fun _ => rfl⟩
  | loginFailed | login | forgotPassword | getCurrentUser | createResetPasswordRequest
  | resendActivationInvite => exact Or.inr ⟨not_false, rfl, id⟩

/-- The three columns of the refresh session: hash, family and expiry. -/
def refreshColumns (acc : Account) : Option String × Option String × Option Time :=
  (acc.session.refreshTokenHash, acc.session.refreshTokenFamily, acc.session.refreshTokenExpiresAt)

/-- The request revokes the account and clears the refresh columns: a change of the
username revokes the access tokens only. -/
def EndsSession (env : Env) (now : Time) (acc : Account) (r : Request) (out : Outcome) : Prop :=
  acc.Revoking env now r out ∧ ∀ id q, r ≠ .updateMeCredentials id q

/-- **What each step leaves in the refresh columns**: those of the tokens it issues,
nothing, or what was there. -/
theorem Step.refreshColumns {env : Env} {now : Time} {draws draws' : ℕ} {r : Request}
    {out : Outcome} {acc acc' : Account} (h : Step env now draws r out acc acc' draws') :
    (out = .ok (.tokens (acc.issue env now draws)) ∧
        acc'.refreshColumns = (acc.opened env now draws).refreshColumns) ∨
      ((∀ t, out ≠ .ok (.tokens t)) ∧ acc.EndsSession env now r out ∧
        acc'.refreshColumns = (none, none, none)) ∨
      ((∀ t, out ≠ .ok (.tokens t)) ∧ ¬ acc.EndsSession env now r out ∧
        acc'.refreshColumns = acc.refreshColumns) := by
  cases h with
  | login | refreshToken => exact Or.inl ⟨rfl, rfl⟩
  | logout | resetPassword | deactivateUser | confirmEmailChange | updateMePassword
  | updateUserCredentials | updatePendingCredentials =>
    exact Or.inr (Or.inl ⟨by simp, ⟨trivial, by simp⟩, rfl⟩)
  | violation _ _ _ h => exact Or.inr (Or.inl ⟨by simp, ⟨h, by simp⟩, rfl⟩)
  | renameMe | renameMeAndRequestEmailChange | requestEmailChange =>
    exact Or.inr (Or.inr ⟨by simp, fun h => h.2 _ _ rfl, rfl⟩)
  | loginFailed | forgotPassword | getCurrentUser | createResetPasswordRequest
  | resendActivationInvite | updateUser | activateAccount | activateUser =>
    exact Or.inr (Or.inr ⟨by simp, fun h => h.1, rfl⟩)

/-- **What each step leaves in the status**: what was there, the end of the account, or a
new beginning, by its invite or by an administrator. -/
theorem Step.status {env : Env} {now : Time} {draws draws' : ℕ} {r : Request} {out : Outcome}
    {acc acc' : Account} (h : Step env now draws r out acc acc' draws') :
    acc'.user.status = acc.user.status ∨
      (r = .deactivateUser acc.user.id ∧ acc'.user.status = .deactivated) ∨
      (r = .activateUser acc.user.id ∧ acc'.user.status = .active) ∨
      (∃ request, r = .activateAccount request ∧ acc.AcceptsInvite env now request.inviteToken ∧
        Secret.Valid request.newPassword ∧ acc'.user.status = .active) := by
  cases h with
  | deactivateUser => exact Or.inr (Or.inl ⟨rfl, rfl⟩)
  | activateUser => exact Or.inr (Or.inr (Or.inl ⟨rfl, rfl⟩))
  | activateAccount _ request _ h hpassword =>
    exact Or.inr (Or.inr (Or.inr ⟨request, rfl, h, Env.valid_of_hashPassword hpassword, rfl⟩))
  | updateUser _ _ _ _ _ huser =>
    obtain ⟨-, -, -, -, -, hstatus, -⟩ := assign_eq huser
    exact Or.inl hstatus
  | updateUserCredentials _ _ _ _ _ huser | updatePendingCredentials _ _ _ _ _ huser =>
    obtain ⟨-, -, -, hstatus, -⟩ := assign_credentials_eq huser
    exact Or.inl hstatus
  | _ => exact Or.inl rfl

/-- A step takes new random values only. -/
theorem Step.draws_le {env : Env} {now : Time} {draws draws' : ℕ} {r : Request} {out : Outcome}
    {acc acc' : Account} (h : Step env now draws r out acc acc' draws') : draws ≤ draws' := by
  cases h <;> omega

end Account

end SmsLite
