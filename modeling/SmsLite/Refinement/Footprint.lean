import SmsLite.Registry

/-!
# What a request leaves besides the accounts

A request that takes an account through a step also posts rows to the outbox, hands mails to
background tasks and deletes cached details.  What it posts, sends and deletes is a function
of the request and of the account before and after the step.

## Main definitions

* `Request.posts`, `Request.sends`, `Request.forgets` — the outbox rows, the direct mails and
  the keys of cached details.
* `Request.details` — the cached details after a read.
* `World.Leaves` — the outbox, the direct mails, the groups and the cached details after a
  request.
* `PendingEmail.posted` — what was inserted as a row.

## Main results

* `World.Leaves.rows` — the rows a request leaves are the ones it posts.
* `World.Leaves.of_commit`, `World.Leaves.committed` — what a commit and the statements after
  it leave.
-/

namespace SmsLite

/-! ### Outbox rows, direct mails and cached details -/

/-- The outbox row of a password reset by an administrator. -/
def resetPasswordMail (rawResetToken : String) (u : User) (currentUserId : UserId) :
    NewPendingEmail where
  recipient := u.email
  content := .resetPasswordEmail rawResetToken
  emailType := .passwordResetAdmin
  triggeredBy := some currentUserId
  recipientUserId := some u.id

namespace Request

/-- The outbox rows that a request inserts when it takes the account from `acc` to `acc'`. -/
def posts (env : Env) (draws : ℕ) (acc acc' : Account) : Request → List NewPendingEmail
  | updateUserCredentials currentUserId _ r =>
    if (r.newEmail acc.user).isSome && decide (acc.user.status = .pendingActivation) then
      [inviteMail (env.tokenUrlsafe draws) acc'.user.username acc'.user.email currentUserId
        acc.user.id]
    else [credentialsOverrideMail acc.user acc'.user.draft currentUserId]
  | createResetPasswordRequest currentUserId _ =>
    [resetPasswordMail (env.tokenUrlsafe draws) acc.user currentUserId]
  | resendActivationInvite currentUserId _ =>
    [inviteMail (env.tokenUrlsafe draws) acc.user.username acc.user.email currentUserId
      acc.user.id]
  | _ => []

/-- New credentials of an account that waits for its invite go out with a new invite. -/
theorem posts_reissue {env : Env} {draws : ℕ} {acc acc' : Account}
    {currentUserId targetUserId : UserId} {r : UpdateUserCredentials}
    (hemail : (r.newEmail acc.user).isSome = true)
    (hpending : acc.user.status = .pendingActivation) :
    (updateUserCredentials currentUserId targetUserId r).posts env draws acc acc' =
      [inviteMail (env.tokenUrlsafe draws) acc'.user.username acc'.user.email currentUserId
        acc.user.id] :=
  if_pos (by simp [hemail, hpending])

/-- Otherwise they are announced at the old address. -/
theorem posts_override {env : Env} {draws : ℕ} {acc acc' : Account}
    {currentUserId targetUserId : UserId} {r : UpdateUserCredentials}
    (hkeep : ¬ ((r.newEmail acc.user).isSome ∧ acc.user.status = .pendingActivation)) :
    (updateUserCredentials currentUserId targetUserId r).posts env draws acc acc' =
      [credentialsOverrideMail acc.user acc'.user.draft currentUserId] :=
  if_neg (by simpa using hkeep)

/-- The mails that it sends without the outbox. -/
def sends (env : Env) (draws : ℕ) (acc acc' : Account) : Request → List Mail
  | createForgotPasswordRequest _ =>
    [{ recipient := acc.user.email, emailType := .forgotPassword
       content := .forgotPassword (env.tokenUrlsafe draws) }]
  | updateUser _ _ =>
    [{ recipient := acc'.user.email, emailType := .updatingAccount
       content := .accountInfoUpdated }]
  | deactivateUser _ =>
    [{ recipient := acc.user.email, emailType := .accountDeactivation
       content := .accountDeactivation }]
  | activateUser _ =>
    [{ recipient := acc.user.email, emailType := .accountActivation
       content := .accountActivation }]
  | updateMeCredentials _ r =>
    (r.newEmail acc.user).toList.map fun newEmail =>
      { recipient := newEmail.text, emailType := .emailChangeCode
        content := .emailChangeVerification (emailChangeCode (env.randbelow draws)) }
  | confirmEmailChange _ _ =>
    [{ recipient := acc'.user.email, emailType := .emailChanged
       content := .emailChangedNotification acc.user.email acc'.user.email }]
  | updateMePassword _ _ =>
    [{ recipient := acc.user.email, emailType := .passwordChanged
       content := .passwordChangedNotification }]
  | _ => []

/-- The cached details of the account that it deletes. -/
def forgets (id : UserId) : Request → List CacheKey
  | updateUser _ _ | updateUserCredentials _ _ _ | deactivateUser _ | updateMeCredentials _ _
  | confirmEmailChange _ _ => userDetailKeys id
  | activateUser _ => [.userDetailKeyAdmin id]
  | _ => []

end Request

/-- The cache without the keys. -/
def World.forgetting (w : World) (keys : List CacheKey) : CacheKey → Option CacheValue :=
  fun key => if key ∈ keys then none else w.cache key

@[simp] theorem World.forgetting_nil (w : World) : w.forgetting [] = w.cache := by
  funext key
  exact if_neg List.not_mem_nil

/-- Deleting a version key beside them makes no difference to the details. -/
theorem World.forgetting_version (w : World) (id : UserId) (keys : List CacheKey) {key : CacheKey}
    (hkey : ∀ id, key ≠ .accessTokenVersionKey id) :
    (if key ∈ .accessTokenVersionKey id :: keys then none else w.cache key) =
      w.forgetting keys key := by
  simp only [forgetting, List.mem_cons, hkey id, false_or]

/-- The cache after a cached reader. -/
def World.filled (w : World) (key : CacheKey) (id : UserId) (q : UserQuery)
    (project : Loaded → CacheValue) : CacheKey → Option CacheValue :=
  match w.cache key, w.db.selectUserById id q with
  | none, some user => Function.update w.cache key (some (project user))
  | _, _ => w.cache

/-- The cached details after a request that changes no account. -/
def Request.details (w : World) : Request → CacheKey → Option CacheValue
  | getTeacherByIdAdmin id =>
    w.filled (.userDetailKeyAdmin id) id { allowedRoles := teacherRole }
      fun user => .admin user.adminCache
  | getStudentByIdAdmin id =>
    w.filled (.userDetailKeyAdmin id) id { allowedRoles := studentRole, loadGroup := true }
      fun user => .admin user.adminCache
  | getTeacherByIdDirector id =>
    w.filled (.userDetailKeyStaff id) id { allowedRoles := teacherRole }
      fun user => .staff user.directorCache
  | getStudentByIdDirector id =>
    w.filled (.userDetailKeyStaff id) id { allowedRoles := studentRole, loadGroup := true }
      fun user => .staff user.directorCache
  | getMyProfile id =>
    w.filled (.userDetailKeySelf id) id { excludedRoles := studentRole }
      fun user => .self user.selfCache
  | getMyStudentProfile id =>
    w.filled (.userDetailKeySelf id) id { allowedRoles := studentRole, loadGroup := true }
      fun user => .self user.selfCache
  | _ => w.cache

/-! ### What is left -/

/-- What a request leaves besides the accounts: it has inserted `posts` and sent `sends`, the
groups are as they were, and the cached details are those of `cache`. -/
structure World.Leaves (w w' : World) (posts : List NewPendingEmail) (sends : List Mail)
    (cache : CacheKey → Option CacheValue) : Prop where
  pendingEmails : w'.db.pendingEmails = (w.db.insertEmails w.clock posts).pendingEmails
  pendingEmailsIdSeq :
    w'.db.pendingEmailsIdSeq = (w.db.insertEmails w.clock posts).pendingEmailsIdSeq
  groups : w'.db.groups = w.db.groups
  mails : w'.mails = w.mails ++ sends
  details : ∀ key, (∀ id, key ≠ .accessTokenVersionKey id) → w'.cache key = cache key

variable {w w' : World} {posts : List NewPendingEmail} {sends : List Mail}
  {cache : CacheKey → Option CacheValue}

/-- What was inserted as the row. -/
def PendingEmail.posted (e : PendingEmail) : NewPendingEmail where
  recipient := e.recipient
  content := e.content
  emailType := e.emailType
  triggeredBy := e.triggeredBy
  recipientUserId := e.recipientUserId

/-- Rows go to the end of the outbox, each waiting to be sent for the first time. -/
theorem Db.insertEmails_rows (db : Db) (now : Time) (posts : List NewPendingEmail) :
    ∃ rows, (db.insertEmails now posts).pendingEmails = db.pendingEmails ++ rows ∧
      rows.map (·.posted) = posts ∧ ∀ r ∈ rows, r.status = .pending ∧ r.retryCount = 0 := by
  induction posts generalizing db with
  | nil => exact ⟨[], (List.append_nil _).symm, rfl, by simp⟩
  | cons e posts ih =>
    obtain ⟨rows, hrows, hposted, hfresh⟩ := ih (db.insertEmail now e)
    refine ⟨_ :: rows, hrows.trans (List.append_assoc _ _ _), congrArg (e :: ·) hposted, ?_⟩
    exact List.forall_mem_cons.mpr ⟨⟨rfl, rfl⟩, hfresh⟩

/-- The rows a request leaves. -/
theorem World.Leaves.rows (h : w.Leaves w' posts sends cache) :
    ∃ rows, w'.db.pendingEmails = w.db.pendingEmails ++ rows ∧ rows.map (·.posted) = posts := by
  rw [h.pendingEmails]
  obtain ⟨rows, hrows, hposted, -⟩ := w.db.insertEmails_rows w.clock posts
  exact ⟨rows, hrows, hposted⟩

/-- Rows go to the end of the outbox, whatever the other tables hold. -/
theorem Db.insertEmails_congr {db db' : Db} {now : Time} (posts : List NewPendingEmail)
    (hrows : db.pendingEmails = db'.pendingEmails)
    (hseq : db.pendingEmailsIdSeq = db'.pendingEmailsIdSeq) :
    (db.insertEmails now posts).pendingEmails = (db'.insertEmails now posts).pendingEmails ∧
      (db.insertEmails now posts).pendingEmailsIdSeq =
        (db'.insertEmails now posts).pendingEmailsIdSeq := by
  induction posts generalizing db db' with
  | nil => exact ⟨hrows, hseq⟩
  | cons e posts ih =>
    exact ih (by simp [Db.insertEmail, hrows, hseq]) (by simp [Db.insertEmail, hseq])

/-- A commit of loaded objects inserts its mails. -/
theorem Db.commit_update_outbox {db db' : Db} {now : Time} {loaded : Loaded} {current : Dirty}
    (h : db.commit now (.update loaded current posts) = .ok db') :
    db'.pendingEmails = (db.insertEmails now posts).pendingEmails ∧
      db'.pendingEmailsIdSeq = (db.insertEmails now posts).pendingEmailsIdSeq := by
  simp only [Db.commit] at h
  split at h
  · cases h
  · split at h
    · cases h
    · split at h
      · cases h
      · split at h
        · cases h
        · cases h
          exact Db.insertEmails_congr posts rfl rfl

/-- So does a registration. -/
theorem Db.commit_register_outbox {db db' : Db} {now : Time} {user : User}
    {activation : UserActivation} {session : UserSession} {loginLockout : UserLoginLockout}
    {email : NewPendingEmail}
    (h : db.commit now (.register user activation session loginLockout email) = .ok db') :
    db'.pendingEmails = (db.insertEmails now [email]).pendingEmails ∧
      db'.pendingEmailsIdSeq = (db.insertEmails now [email]).pendingEmailsIdSeq ∧
      db'.groups = db.groups := by
  simp only [Db.commit] at h
  split at h
  · cases h
  · split at h
    · cases h
    · split at h
      · cases h
      · cases h
        exact ⟨rfl, rfl, rfl⟩

/-- **What a commit and the statements after it leave.** -/
theorem World.Leaves.of_commit {loaded : Loaded} {current : Dirty} {db' : Db}
    (h : w.db.commit w.clock (.update loaded current posts) = .ok db') (hdb : w'.db = db')
    (hmails : w'.mails = w.mails ++ sends)
    (hdetails : ∀ key, (∀ id, key ≠ .accessTokenVersionKey id) → w'.cache key = cache key) :
    w.Leaves w' posts sends cache := by
  obtain ⟨user, -, -, -, -, -, -, -, hgroups⟩ := Db.commit_update h
  obtain ⟨hrows, hseq⟩ := Db.commit_update_outbox h
  subst hdb
  exact ⟨hrows, hseq, hgroups, hmails, hdetails⟩

/-- A commit alone. -/
theorem World.Leaves.committed {loaded : Loaded} {current : Dirty} {db' : Db}
    (h : w.db.commit w.clock (.update loaded current posts) = .ok db') (hdb : w'.db = db')
    (hmails : w'.mails = w.mails)
    (hdetails : ∀ key, (∀ id, key ≠ .accessTokenVersionKey id) → w'.cache key = w.cache key) :
    w.Leaves w' posts [] (w.forgetting []) :=
  .of_commit h hdb (hmails.trans (List.append_nil _).symm) fun key hkey => by
    rw [hdetails key hkey, World.forgetting_nil]

/-- Draws before it make no difference. -/
theorem World.Leaves.drawn {draws : ℕ}
    (h : ({ w with draws := draws } : World).Leaves w' posts sends cache) :
    w.Leaves w' posts sends cache :=
  ⟨h.pendingEmails, h.pendingEmailsIdSeq, h.groups, h.mails, h.details⟩

end SmsLite
