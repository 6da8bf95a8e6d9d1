import SmsLite.Repository

/-!
# The authentication service

`src/auth/service.py` and the `get_current_user` dependency of
`src/core/dependencies.py`.

## Main definitions

* `login`, `logout`, `activateAccount`, `refreshToken`, `resetPassword`,
  `createForgotPasswordRequest` — the public and authenticated calls.
* `invalidateAllTokens` — revocation of every token of a user.
* `getCurrentUser` — the check of an access token.
-/

namespace SmsLite

open Interleave

/-- `MAX_FAILED_ATTEMPTS`. -/
def maxFailedAttempts : ℕ := 5

/-- `LOCKOUT_MINUTES`. -/
def lockoutMinutes : ℕ := 15

/-- `OAuth2PasswordRequestForm`. -/
structure LoginForm where
  username : Option String
  password : Option String
  deriving DecidableEq, Repr

/-- `LoginResponse`, with the two cookies set on the response object. -/
structure LoginResponse where
  accessToken : String
  tokenType : String := "bearer"
  refreshTokenCookie : String
  refreshTokenFamilyCookie : String
  deriving DecidableEq, Repr

/-- `ActivateAccountWithToken`. -/
structure ActivateAccountWithToken where
  username : String
  inviteToken : String
  newPassword : String
  deriving DecidableEq, Repr

/-- `ResetPassword`. -/
structure ResetPassword where
  username : String
  resetToken : String
  newPassword : String
  deriving DecidableEq, Repr

/-- `ForgotPasswordPublicRequest`. -/
structure ForgotPasswordPublicRequest where
  username : String
  deriving DecidableEq, Repr

/-- `_invalidate_all_tokens`.  `identity` is the object the session already holds for
the user, if there is one: a query that finds its row returns that object, with the
attribute values of its first load. -/
def invalidateAllTokens (identity : Option Loaded) (currentUserId : UserId) : Service Unit := do
  match ← getUserById currentUserId { loadSession := true } with
  | none => pure ()
  | some loaded =>
    let user := identity.getD loaded
    let session ← deref "access_token_version" user.session
    commitOrRaise (.update user { user.dirty with session := some session.revoked } [])
    deleteCache [.accessTokenVersionKey currentUserId]

/-- The last part of `login` and `refresh_token`: mint the tokens, store the new
refresh session and set the cookies.  The two callers differ only in the lockout
row, which `login` resets. -/
def openSession (env : Env) (user : Loaded) (session : UserSession)
    (loginLockout : Option UserLoginLockout) : Service LoginResponse := do
  let newFamily ← tokenUrlsafe
  let now ← datetimeNow
  let accessToken :=
    createAccessToken env now user.user.id user.user.role session.accessTokenVersion
  let jti ← tokenUrlsafe
  let now ← datetimeNow
  let rawRefreshToken := createRefreshToken env now user.user.id jti
  let now ← datetimeNow
  commitOrRaise (.update user
    { user.dirty with
      session := some
        { session with
          refreshTokenFamily := some newFamily
          refreshTokenHash := some (env.sha256 rawRefreshToken)
          refreshTokenExpiresAt := some (now + Time.days env.settings.refreshTokenExpiresDays) }
      loginLockout := loginLockout } [])
  let _ ← refresh user.user.id
  pure
    { accessToken := accessToken
      refreshTokenCookie := rawRefreshToken
      refreshTokenFamilyCookie := newFamily }

/-- `AuthService.login`. -/
def login (env : Env) (formData : LoginForm) : Service LoginResponse := do
  match formData.username, formData.password with
  | some username, some password =>
    match ← getUserByUsername username { loadSession := true, loadLoginLockout := true } with
    | none => raise (.app .invalidCredentialsError HTTP401.invalidCredentials)
    | some user =>
      let loginLockout ← deref "locked_until" user.loginLockout
      let now ← datetimeNow
      match loginLockout.lockedUntil.filter (now < ·) with
      | some lockedUntil =>
        raise (.app .accountLockedError
          ("Account locked. Try again after " ++ Time.strftimeHM lockedUntil))
      | none =>
        if user.user.passwordHash = none then
          raise (.app .invalidCredentialsError HTTP401.invalidCredentials)
        else if user.user.status = .pendingActivation then
          raise (.app .invalidCredentialsError HTTP401.invalidCredentials)
        else if !(← verifyPassword password user.user.passwordHash) then
          let failed := loginLockout.failedLoginAttempts + 1
          let now ← datetimeNow
          let lockedUntil :=
            if maxFailedAttempts ≤ failed then some (now + Time.minutes lockoutMinutes)
            else loginLockout.lockedUntil
          commitOrRaise (.update user
            { user.dirty with
              loginLockout := some { loginLockout with
                failedLoginAttempts := failed, lockedUntil := lockedUntil } } [])
          raise (.app .invalidCredentialsError HTTP401.invalidCredentials)
        else if user.user.status ≠ .active then
          raise (.app .accountInactiveError HTTP403.accountDeactivated)
        else
          let session ← deref "refresh_token_family" user.session
          openSession env user session
            (some { loginLockout with failedLoginAttempts := 0, lockedUntil := none })
  | _, _ => raise (.app .emptyCredentialsError "Username and password is required")

/-- `AuthService.logout`. -/
def logout (currentUserId : UserId) : Service Unit := invalidateAllTokens none currentUserId

/-- `AuthService.activate_account`. -/
def activateAccount (env : Env) (request : ActivateAccountWithToken) : Service Unit := do
  match ← getUserByUsername request.username { loadActivation := true } with
  | none => raise (.app .invalidInviteTokenError HTTP400.invalidInviteToken)
  | some user =>
    let activation ← deref "invite_token_hash" user.activation
    match activation.inviteTokenHash with
    | none => raise (.app .invalidInviteTokenError HTTP400.invalidInviteToken)
    | some inviteTokenHash =>
      let now ← datetimeNow
      match activation.inviteTokenExpiresAt.filter (now ≤ ·) with
      | none => raise (.app .expiredInviteTokenError HTTP400.expiredInviteToken)
      | some _ =>
        if !(← ofExcept (verifyDigest env request.inviteToken (some inviteTokenHash))) then
          raise (.app .invalidInviteTokenError HTTP400.invalidInviteToken)
        else
          let passwordHash ← hashPassword request.newPassword
          commitOrRaise (.update user
            { user.dirty with
              user :=
                { user.dirty.user with
                  passwordHash := some passwordHash, isActive := true, status := .active }
              activation := some
                { activation with inviteTokenHash := none, inviteTokenExpiresAt := none } } [])
          let _ ← refresh user.user.id

/-- The first block of `refresh_token`: the subject of the presented token.  The
`except` clauses name the classes of `src.utils.exceptions`. -/
def refreshTokenSubject (env : Env) (now : Time) (rawRefreshToken : String) : Except Exn UserId :=
  match decodeRefreshToken env now rawRefreshToken with
  | .error (.app .expiredRefreshTokenError detail) =>
    .error (.app .expiredRefreshTokenError detail)
  | .error (.app .invalidRefreshTokenError _) | .error (.valueError _) | .error (.typeError _) =>
    .error (.app .invalidRefreshTokenError HTTP401.invalidRefreshToken)
  | .error e => .error e
  | .ok payload =>
    match payload.sub with
    | none => .error (.app .invalidRefreshTokenError HTTP401.invalidRefreshToken)
    | some userId => .ok userId

/-- `AuthService.refresh_token`. -/
def refreshToken (env : Env) (rawRefreshToken refreshTokenFamily : String) :
    Service LoginResponse := do
  let now ← datetimeNow
  let userId ← ofExcept (refreshTokenSubject env now rawRefreshToken)
  match ← getUserById userId { loadSession := true } with
  | none => raise (.app .invalidRefreshTokenError HTTP401.invalidRefreshToken)
  | some user =>
    let session ← deref "refresh_token_hash" user.session
    match session.refreshTokenHash, session.refreshTokenFamily, session.refreshTokenExpiresAt with
    | some hash, some family, some expiresAt =>
      let now ← datetimeNow
      if expiresAt < now then
        raise (.app .expiredRefreshTokenError HTTP401.expiredRefreshToken)
      else
        let familyValid ← ofExcept (compareDigest refreshTokenFamily family)
        let hashValid ← ofExcept (verifyDigest env rawRefreshToken (some hash))
        if !familyValid || !hashValid then
          invalidateAllTokens (some user) user.user.id
          raise (.app .invalidRefreshTokenError HTTP401.invalidRefreshToken)
        else
          openSession env user session user.loginLockout
    | _, _, _ => raise (.app .invalidRefreshTokenError HTTP401.invalidRefreshToken)

/-- `AuthService.reset_password`. -/
def resetPassword (env : Env) (request : ResetPassword) : Service Unit := do
  match ← getUserByUsername request.username { loadSession := true, loadLoginLockout := true } with
  | none => raise (.app .invalidCredentialsError HTTP401.invalidCredentials)
  | some user =>
    let session ← deref "reset_password_token_expires_at" user.session
    let now ← datetimeNow
    match session.resetPasswordTokenExpiresAt.filter (now ≤ ·) with
    | none => raise (.app .expiredResetPasswordTokenError HTTP400.expiredResetPasswordToken)
    | some _ =>
      if !(← ofExcept (verifyDigest env request.resetToken session.resetPasswordTokenHash)) then
        raise (.app .invalidResetPasswordTokenError HTTP400.invalidResetPasswordToken)
      else
        let passwordHash ← hashPassword request.newPassword
        let loginLockout ← deref "failed_login_attempts" user.loginLockout
        commitOrRaise (.update user
          { user.dirty with
            user := { user.dirty.user with passwordHash := some passwordHash }
            session := some
              { session.revoked with
                resetPasswordTokenHash := none, resetPasswordTokenExpiresAt := none }
            loginLockout := some
              { loginLockout with failedLoginAttempts := 0, lockedUntil := none } } [])
        let _ ← refresh user.user.id
        deleteCache [.accessTokenVersionKey user.user.id]

/-- `AuthService.create_forgot_password_request`.  The answer is the same text for
every username. -/
def createForgotPasswordRequest (env : Env) (request : ForgotPasswordPublicRequest) :
    Service String := do
  let user ← getUserByUsername request.username { loadSession := true }
  let rawResetPasswordToken ← tokenUrlsafe
  match user with
  | some user =>
    match user.session with
    | some session =>
      let now ← datetimeNow
      commitOrRaise (.update user
        { user.dirty with
          session := some
            { session with
              resetPasswordTokenHash := some (env.sha256 rawResetPasswordToken)
              resetPasswordTokenExpiresAt :=
                some (now + Time.minutes env.settings.resetPasswordExpiresMinutes) } } [])
      createTask
        { recipient := user.user.email, emailType := .forgotPassword
          content := .forgotPassword rawResetPasswordToken }
    | none => pure ()
  | none => pure ()
  pure ("If your username matches a registered account, " ++
    "you will receive a password reset link.")

/-- `CurrentUser`. -/
structure CurrentUser where
  id : UserId
  role : UserRole
  deriving DecidableEq, Repr

/-- The `try` block of `get_current_user`: the subject and the version of the token.
Every failure is an `InvalidAccessTokenError`. -/
def accessTokenSubject (env : Env) (now : Time) (token : String) :
    Except Exn (UserId × ℕ × Option UserRole) :=
  match decodeAccessToken env now token with
  | .error _ => .error (.app .invalidAccessTokenError HTTP401.invalidAccessToken)
  | .ok payload =>
    match payload.sub, payload.version with
    | some userId, some tokenVersion => .ok (userId, tokenVersion, payload.role)
    | _, _ => .error (.app .invalidAccessTokenError HTTP401.invalidAccessToken)

/-- `get_current_user`. -/
def getCurrentUser (env : Env) (token : String) : Service CurrentUser := do
  let now ← datetimeNow
  let (userId, tokenVersion, role) ← ofExcept (accessTokenSubject env now token)
  let cachedVersion ← getCache (.accessTokenVersionKey userId)
  match role with
  | none => raise (.valueError "None is not a valid UserRole")
  | some role =>
    match cachedVersion with
    | some (.version cachedVersion) =>
      if cachedVersion ≠ tokenVersion then
        raise (.app .invalidAccessTokenError HTTP401.invalidAccessToken)
      else pure { id := userId, role := role }
    | some _ => raise (.typeError .intOfNone)
    | none =>
      match ← getUserById userId { loadSession := true } with
      | none => raise (.app .invalidAccessTokenError HTTP401.invalidAccessToken)
      | some user =>
        let session ← deref "access_token_version" user.session
        if session.accessTokenVersion ≠ tokenVersion then
          raise (.app .invalidAccessTokenError HTTP401.invalidAccessToken)
        else if !user.user.isActive then
          raise (.app .accountInactiveError HTTP403.accountDeactivated)
        else
          setCache (.accessTokenVersionKey userId) (.version session.accessTokenVersion)
          pure { id := userId, role := role }

/-! ### What the tokens say -/

/-- The exceptions of the first block of `refresh_token`: the classes `decode_refresh_token`
raises for a token that does not verify are not the ones its `except` clauses name. -/
theorem refreshTokenSubject_eq (env : Env) (now : Time) (token : String) :
    refreshTokenSubject env now token =
      match env.jose.verify now token with
      | .error .expiredSignatureError =>
        .error (.utilsApp .expiredRefreshTokenError HTTP401.expiredRefreshToken)
      | .error .jwtError =>
        .error (.utilsApp .invalidRefreshTokenError HTTP401.invalidRefreshToken)
      | .ok payload =>
        if payload.type = "refresh" then
          match payload.sub with
          | some userId => .ok userId
          | none => .error (.app .invalidRefreshTokenError HTTP401.invalidRefreshToken)
        else .error (.app .invalidRefreshTokenError HTTP401.invalidRefreshToken) := by
  unfold refreshTokenSubject decodeRefreshToken
  rcases env.jose.verify now token with (_ | _) | payload
  · rfl
  · rfl
  · by_cases htype : payload.type = "refresh"
    · cases hsub : payload.sub <;> simp [htype, hsub]
    · simp [htype]

theorem refreshTokenSubject_eq_ok {env : Env} {now : Time} {token : String} {userId : UserId} :
    refreshTokenSubject env now token = .ok userId ↔
      ∃ claims, env.jose.decode token = some claims ∧ now.timegm ≤ claims.exp ∧
        claims.type = "refresh" ∧ claims.sub = some userId := by
  rw [refreshTokenSubject_eq]
  cases hv : env.jose.verify now token with
  | error e =>
    have hne : ∀ claims, ¬ (env.jose.decode token = some claims ∧ now.timegm ≤ claims.exp) := by
      intro claims
      rw [← Jose.verify_eq_ok, hv]
      simp
    cases e <;> simp only [reduceCtorEq, false_iff] <;>
      exact fun ⟨claims, h, hexp, _⟩ => hne claims ⟨h, hexp⟩
  | ok payload =>
    obtain ⟨hdecode, hexp⟩ := Jose.verify_eq_ok.mp hv
    simp only [hdecode, Option.some.injEq, exists_eq_left', hexp, true_and]
    by_cases htype : payload.type = "refresh"
    · cases hsub : payload.sub <;> simp [htype]
    · simp [htype]

/-- The first block of `refresh_token` raises no interpreter error. -/
theorem refreshTokenSubject_isCrash {env : Env} {now : Time} {token : String} {e : Exn}
    (h : refreshTokenSubject env now token = .error e) : e.isCrash = false := by
  rw [refreshTokenSubject_eq] at h
  split at h
  · cases h; rfl
  · cases h; rfl
  · split at h
    · split at h
      · cases h
      · cases h; rfl
    · cases h; rfl

theorem accessTokenSubject_eq_ok {env : Env} {now : Time} {token : String} {userId : UserId}
    {version : ℕ} {role : Option UserRole} :
    accessTokenSubject env now token = .ok (userId, version, role) ↔
      ∃ claims, env.jose.decode token = some claims ∧ now.timegm ≤ claims.exp ∧
        claims.type = "access" ∧ claims.sub = some userId ∧ claims.version = some version ∧
        claims.role = role := by
  unfold accessTokenSubject
  cases hd : decodeAccessToken env now token with
  | error e =>
    have hne : ∀ claims, ¬ (env.jose.decode token = some claims ∧ now.timegm ≤ claims.exp ∧
        claims.type = "access") := by
      intro claims
      rw [← decodeAccessToken_eq_ok, hd]
      simp
    simp only [reduceCtorEq, false_iff]
    exact fun ⟨claims, h, hexp, htype, _⟩ => hne claims ⟨h, hexp, htype⟩
  | ok payload =>
    obtain ⟨hdecode, hexp, htype⟩ := decodeAccessToken_eq_ok.mp hd
    simp only [hdecode, Option.some.injEq, exists_eq_left', hexp, htype, true_and]
    cases hsub : payload.sub <;> cases hversion : payload.version <;> simp

end SmsLite
