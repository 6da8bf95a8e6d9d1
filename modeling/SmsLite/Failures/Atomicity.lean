import SmsLite.Failures.RefreshToken
import SmsLite.Lib.Atomic
import SmsLite.Refinement.SubjectService
import SmsLite.Statements

/-!
# What a refused request leaves behind

Some twenty operations assign to loaded objects, flush, commit and map the errors of the
database.  One that ends in an `AppException` has committed nothing, with two exceptions: a wrong
password is counted, and a refresh token that is not the current one revokes the session.

## Main definitions

* `World.rows` — the tables without the id sequences, which a rollback does not give back.
* `Transaction`, `getSession` — the rows a request has flushed, and the dependency that rolls
  them back.
* `Request.Leaves` — the two exceptions.

## Main results

* `Request.atomic` — every other operation commits nothing before it raises an `AppException`.
* `appException_atomic` — **a request that ends in an `AppException` leaves every row as it was,
  with the two exceptions, and nothing uncommitted**.
-/

namespace SmsLite

open Interleave
open Interleave.Prog (Ends ends_bind ends_map Atomic atomic_pure atomic_raise atomic_raise_of_not)

/-! ### Rows and exceptions -/

/-- All rows; the id sequences are no rows. -/
def World.rows (w : World) : Db := { w.db with usersIdSeq := 0, pendingEmailsIdSeq := 0 }

/-- The exception is an `AppException`, whichever module it was imported from. -/
def Exn.isAppException : Exn → Prop
  | .app _ _ | .utilsApp _ _ => True
  | _ => False

/-- The reply says that the transaction was committed. -/
def Stmt.commits : (s : Stmt) → s.Reply → Bool
  | .commit _, .ok () => true
  | _, _ => false

/-- The operation raises no `AppException` once it has committed, if `c` says it has. -/
abbrev Service.Atomic {α : Type} (c : Bool) (p : Service α) : Prop :=
  Prog.Atomic Stmt.commits Exn.isAppException c p

/-- Statements that commit nothing, whatever the reply. -/
abbrev Stmt.Quiet (s : Stmt) : Prop := ∀ r, s.commits r = false

/-- Only commits change rows. -/
theorem exec_rows (env : Env) (s : Stmt) (w : World) (h : s.commits (exec env s w).1 = false) :
    (exec env s w).2.rows = w.rows := by
  cases s with
  | commit work =>
    cases hcommit : w.db.commit w.clock work with
    | ok db' =>
      rw [exec_commit_ok hcommit] at h
      cases h
    | error e => rw [exec_commit_error hcommit]
  | flushUser user =>
    obtain ⟨reply, hexec, -⟩ := exec_flushUser env w user
    rw [hexec]
    rfl
  | hashPassword password =>
    obtain ⟨reply, draws, hexec, -⟩ := exec_hashPassword env w password
    rw [hexec]
    rfl
  | _ => rfl

/-! ### Rules -/

section Rules

variable {α β : Type}

theorem atomic_bind {p : Service α} {f : α → Service β} (hp : OnlyIssues Stmt.Quiet p)
    (hf : ∀ a, Service.Atomic false (f a)) : Service.Atomic false (p >>= f) :=
  Atomic.quiet_bind hp hf

/-- A statement other than a commit. -/
theorem atomic_call {s : Stmt} {f : s.Reply → Service β} (hs : s.Quiet)
    (hf : ∀ r, Service.Atomic false (f r)) : Service.Atomic false (Prog.call s >>= f) :=
  Atomic.quiet_bind (Prog.issues_call hs) hf

/-- What follows a commit that went through may raise no `AppException`. -/
theorem atomic_tryCommit {work : UnitOfWork} {f : Except DbError Unit → Service β}
    (hok : Service.Atomic true (f (.ok ()))) (herr : ∀ e, Service.Atomic false (f (.error e))) :
    Service.Atomic false (tryCommit work >>= f) := by
  refine Atomic.call_bind fun reply => ?_
  cases reply with
  | ok _ => exact hok
  | error e => exact herr e

theorem atomic_commitOrRaise {work : UnitOfWork} {f : Unit → Service β}
    (hok : Service.Atomic true (f ())) : Service.Atomic false (commitOrRaise work >>= f) :=
  atomic_tryCommit hok fun e => atomic_raise e.exn

/-- The same as the last statement of a program. -/
theorem atomic_commitOrRaise' (work : UnitOfWork) :
    Service.Atomic false (commitOrRaise work) :=
  atomic_tryCommit (atomic_pure ()) fun e => atomic_raise e.exn

theorem atomic_exceptIntegrityError (mapsUsername mapsContacts : Bool) (e : DbError) :
    Service.Atomic false (exceptIntegrityError mapsUsername mapsContacts e : Service α) :=
  Atomic.of_quiet (issues_exceptIntegrityError (fun _ => rfl) mapsUsername mapsContacts e)

/-- A row that is gone raises an error of the library. -/
theorem atomic_refresh {id : UserId} : Service.Atomic true (refresh id) := by
  refine Atomic.call_bind fun reply => ?_
  cases reply with
  | none => exact atomic_raise_of_not not_false
  | some user => exact atomic_pure user

theorem atomic_createTask (mail : Mail) : Service.Atomic true (createTask mail) :=
  ⟨trivial, fun _ _ => atomic_pure ()⟩

theorem atomic_deleteCache (keys : List CacheKey) : Service.Atomic true (deleteCache keys) :=
  ⟨trivial, fun _ _ => atomic_pure ()⟩

theorem atomic_onlyIf {condition : Bool} {p : Service Unit} (h : Service.Atomic true p) :
    Service.Atomic true (onlyIf condition p) := by
  cases condition with
  | false => exact atomic_pure ()
  | true => exact h

theorem atomic_sendEmailChangeCode (change : Option EmailChange) :
    Service.Atomic true (sendEmailChangeCode change) := by
  cases change with
  | none => exact atomic_pure ()
  | some change => exact atomic_createTask _

theorem atomic_ite {b : Prop} [Decidable b] {c : Bool} {p q : Service α}
    (hthen : b → Service.Atomic c p) (helse : ¬ b → Service.Atomic c q) :
    Service.Atomic c (if b then p else q) := by
  by_cases h : b
  · rw [if_pos h]
    exact hthen h
  · rw [if_neg h]
    exact helse h

/-- A request about a user that may be missing. -/
theorem atomic_requireUserById {id : UserId} {q : UserQuery} {e : Exn} {f : Loaded → Service β}
    (hf : ∀ user, Service.Atomic false (f user)) :
    Service.Atomic false (getUserById id q >>= fun user => ensureExists user e >>= f) :=
  atomic_call (fun _ => rfl) fun user => atomic_bind (issues_ensureExists user e) hf

theorem atomic_checkStudentContact {env : Env} {applies : Bool} {phoneNumber email : Option String}
    {exclude : UserId} {f : Unit → Service β} (hf : ∀ a, Service.Atomic false (f a)) :
    Service.Atomic false
      (checkStudentContact env applies phoneNumber email exclude >>= f) :=
  atomic_bind (issues_checkStudentContact (A := Stmt.Quiet) (fun _ _ => rfl)
    (fun _ _ _ _ => rfl) _ _ _ _) hf

end Rules

/-! ### The operations -/

section Operations

variable (env : Env)

theorem invalidateAllTokens_atomic (identity : Option Loaded) (currentUserId : UserId) :
    Service.Atomic false (invalidateAllTokens identity currentUserId) := by
  unfold invalidateAllTokens
  refine atomic_call (fun _ => rfl) fun reply => ?_
  cases reply with
  | none => exact atomic_pure ()
  | some loaded =>
    refine atomic_bind (issues_deref _ _) fun session => ?_
    exact atomic_commitOrRaise (atomic_deleteCache _)

theorem openSession_atomic (user : Loaded) (session : UserSession)
    (loginLockout : Option UserLoginLockout) :
    Service.Atomic false (openSession env user session loginLockout) := by
  unfold openSession
  refine atomic_call (fun _ => rfl) fun newFamily => ?_
  refine atomic_call (fun _ => rfl) fun now => ?_
  refine atomic_call (fun _ => rfl) fun jti => ?_
  refine atomic_call (fun _ => rfl) fun now => ?_
  refine atomic_call (fun _ => rfl) fun now => ?_
  exact atomic_commitOrRaise (atomic_refresh.bind fun _ => atomic_pure _)

theorem activateAccount_atomic (request : ActivateAccountWithToken) :
    Service.Atomic false (activateAccount env request) := by
  unfold activateAccount
  refine atomic_call (fun _ => rfl) fun reply => ?_
  cases reply with
  | none => exact atomic_raise _
  | some user =>
    refine atomic_bind (issues_deref _ _) fun activation => ?_
    split
    · exact atomic_raise _
    · refine atomic_call (fun _ => rfl) fun now => ?_
      split
      · exact atomic_raise _
      · refine atomic_bind (issues_ofExcept _) fun valid => ?_
        refine atomic_ite (fun _ => atomic_raise _) fun _ => ?_
        refine atomic_bind (issues_hashPassword fun _ => rfl) fun passwordHash => ?_
        exact atomic_commitOrRaise (atomic_refresh.bind fun _ => atomic_pure _)

theorem resetPassword_atomic (request : ResetPassword) :
    Service.Atomic false (resetPassword env request) := by
  unfold resetPassword
  refine atomic_call (fun _ => rfl) fun reply => ?_
  cases reply with
  | none => exact atomic_raise _
  | some user =>
    refine atomic_bind (issues_deref _ _) fun session => ?_
    refine atomic_call (fun _ => rfl) fun now => ?_
    split
    · exact atomic_raise _
    · refine atomic_bind (issues_ofExcept _) fun valid => ?_
      refine atomic_ite (fun _ => atomic_raise _) fun _ => ?_
      refine atomic_bind (issues_hashPassword fun _ => rfl) fun passwordHash => ?_
      refine atomic_bind (issues_deref _ _) fun loginLockout => ?_
      exact atomic_commitOrRaise (atomic_refresh.bind fun _ => atomic_deleteCache _)

theorem createForgotPasswordRequest_atomic (request : ForgotPasswordPublicRequest) :
    Service.Atomic false (createForgotPasswordRequest env request) := by
  unfold createForgotPasswordRequest
  refine atomic_call (fun _ => rfl) fun reply => ?_
  refine atomic_call (fun _ => rfl) fun rawResetPasswordToken => ?_
  cases reply with
  | none => exact atomic_pure _
  | some user =>
    cases hsession : user.session with
    | none =>
      simp only [hsession]
      exact atomic_pure _
    | some session =>
      simp only [hsession]
      refine atomic_call (fun _ => rfl) fun now => ?_
      exact atomic_commitOrRaise ((atomic_createTask _).bind fun _ => atomic_pure _)

theorem getCurrentUser_atomic (token : String) :
    Service.Atomic false (getCurrentUser env token) := by
  unfold getCurrentUser
  refine atomic_call (fun _ => rfl) fun now => ?_
  refine atomic_bind (issues_ofExcept _) fun subject => ?_
  refine atomic_call (fun _ => rfl) fun cachedVersion => ?_
  split
  · exact atomic_raise _
  · split
    · exact atomic_ite (fun _ => atomic_raise _) fun _ => atomic_pure _
    · exact atomic_raise _
    · refine atomic_call (fun _ => rfl) fun reply => ?_
      cases reply with
      | none => exact atomic_raise _
      | some user =>
        refine atomic_bind (issues_deref _ _) fun session => ?_
        refine atomic_ite (fun _ => atomic_raise _) fun _ => ?_
        refine atomic_ite (fun _ => atomic_raise _) fun _ => ?_
        exact atomic_call (fun _ => rfl) fun _ => atomic_pure _

theorem registerUser_atomic (currentUserId : UserId) (createRequest : CreateUserRequest) :
    Service.Atomic false (registerUser env currentUserId createRequest) := by
  unfold registerUser
  have hlock : OnlyIssues Stmt.Quiet (onlyIf createRequest.isStudent
      (acquireStudentContactLock env (some createRequest.base.phoneNumber.text)
        (some createRequest.base.email.text))) :=
    issues_onlyIf ((issues_acquireLockFor (fun _ _ => rfl) _).bind fun _ =>
      issues_acquireLockFor (fun _ _ => rfl) _)
  refine atomic_bind hlock fun _ => ?_
  refine atomic_bind (issues_checkContactLimit (fun _ _ => rfl) _ _ _) fun _ => ?_
  refine atomic_call (fun _ => rfl) fun rawInviteToken => ?_
  refine atomic_call (fun _ => rfl) fun now => ?_
  refine atomic_call (fun _ => rfl) fun flushed => ?_
  cases flushed with
  | error e => exact atomic_exceptIntegrityError _ _ e
  | ok id => exact atomic_tryCommit atomic_refresh fun e => atomic_exceptIntegrityError _ _ e

theorem updateUser_atomic (targetUserId : UserId) (updateRequest : UpdateUserRequest) :
    Service.Atomic false (updateUser env targetUserId updateRequest) := by
  unfold updateUser
  refine atomic_requireUserById fun targetUser => ?_
  refine atomic_ite (fun _ => atomic_raise _) fun _ => ?_
  refine atomic_checkStudentContact fun _ => ?_
  refine atomic_bind (issues_updateObject _ _) fun user => ?_
  refine atomic_tryCommit ?_ fun e => atomic_exceptIntegrityError _ _ e
  refine atomic_refresh.bind fun refreshed => ?_
  exact (atomic_createTask _).bind fun _ => atomic_deleteCache _

theorem updateUserCredentials_atomic (currentUserId targetUserId : UserId)
    (updateRequest : UpdateUserCredentials) :
    Service.Atomic false
      (updateUserCredentials env currentUserId targetUserId updateRequest) := by
  unfold updateUserCredentials
  refine atomic_requireUserById fun targetUser => ?_
  refine atomic_checkStudentContact fun _ => ?_
  refine atomic_bind (issues_updateObject _ _) fun user => ?_
  refine atomic_bind (issues_deref _ _) fun session => ?_
  dsimp only
  -- Both branches of the new invite end in the same commit.
  refine atomic_ite (fun _ => ?_) fun _ => ?_
  · refine atomic_bind (issues_reissueInvite (fun _ => rfl) (fun _ => rfl) _ _ _ _) fun invite => ?_
    exact atomic_tryCommit (atomic_deleteCache _) fun e => atomic_exceptIntegrityError _ _ e
  · exact atomic_tryCommit (atomic_deleteCache _) fun e => atomic_exceptIntegrityError _ _ e

theorem deactivateUser_atomic (targetUserId : UserId) :
    Service.Atomic false (deactivateUser targetUserId) := by
  unfold deactivateUser
  refine atomic_requireUserById fun targetUser => ?_
  refine atomic_ite (fun _ => atomic_raise _) fun _ => ?_
  refine atomic_bind (issues_deref _ _) fun session => ?_
  exact atomic_commitOrRaise ((atomic_createTask _).bind fun _ => atomic_deleteCache _)

theorem activateUser_atomic (targetUserId : UserId) :
    Service.Atomic false (activateUser targetUserId) := by
  unfold activateUser
  refine atomic_requireUserById fun targetUser => ?_
  refine atomic_ite (fun _ => atomic_raise _) fun _ => ?_
  refine atomic_bind (issues_deref _ _) fun loginLockout => ?_
  exact atomic_commitOrRaise ((atomic_createTask _).bind fun _ => atomic_deleteCache _)

theorem createResetPasswordRequest_atomic (currentUserId targetUserId : UserId) :
    Service.Atomic false (createResetPasswordRequest env currentUserId targetUserId) := by
  unfold createResetPasswordRequest
  refine atomic_requireUserById fun targetUser => ?_
  refine atomic_call (fun _ => rfl) fun rawResetToken => ?_
  refine atomic_bind (issues_deref _ _) fun session => ?_
  refine atomic_call (fun _ => rfl) fun now => ?_
  exact atomic_commitOrRaise' _

theorem resendActivationInvite_atomic (currentUserId targetUserId : UserId) :
    Service.Atomic false (resendActivationInvite env currentUserId targetUserId) := by
  unfold resendActivationInvite
  refine atomic_requireUserById fun targetUser => ?_
  refine atomic_ite (fun _ => atomic_raise _) fun _ => ?_
  refine atomic_bind (issues_reissueInvite (fun _ => rfl) (fun _ => rfl) _ _ _ _) fun reissued => ?_
  exact atomic_commitOrRaise' _

theorem updateMeCredentials_atomic (currentUserId : UserId)
    (updateRequest : UpdateUserCredentials) :
    Service.Atomic false (updateMeCredentials env currentUserId updateRequest) := by
  unfold updateMeCredentials
  refine atomic_requireUserById fun targetUser => ?_
  refine atomic_ite (fun _ => atomic_raise _) fun _ => ?_
  refine atomic_bind (issues_deref _ _) fun session => ?_
  refine atomic_call (fun _ => rfl) fun now => ?_
  refine atomic_ite (fun _ => atomic_raise _) fun _ => ?_
  have hcode : OnlyIssues Stmt.Quiet
      (generateEmailChangeCode (updateRequest.newEmail targetUser.user)) := by
    cases updateRequest.newEmail targetUser.user with
    | none => exact issues_pure _
    | some newEmail =>
      exact (Prog.issues_call fun _ => rfl).bind fun _ =>
        (Prog.issues_call fun _ => rfl).bind fun _ => issues_pure _
  refine atomic_bind hcode fun change => ?_
  unfold commitMyCredentials
  refine atomic_tryCommit ?_ fun e => atomic_exceptIntegrityError _ _ e
  refine atomic_refresh.bind fun _ => ?_
  refine (atomic_sendEmailChangeCode change).bind fun _ => ?_
  exact (atomic_deleteCache _).bind fun _ => atomic_onlyIf (atomic_deleteCache _)

theorem confirmEmailChange_atomic (currentUserId : UserId) (confirmRequest : ConfirmEmailChange) :
    Service.Atomic false (confirmEmailChange env currentUserId confirmRequest) := by
  unfold confirmEmailChange
  refine atomic_requireUserById fun targetUser => ?_
  refine atomic_bind (issues_deref _ _) fun session => ?_
  split
  · refine atomic_call (fun _ => rfl) fun now => ?_
    split
    · exact atomic_raise _
    · split
      · exact atomic_raise _
      · refine atomic_bind (issues_ofExcept _) fun valid => ?_
        refine atomic_ite (fun _ => atomic_raise _) fun _ => ?_
        refine atomic_checkStudentContact fun _ => ?_
        refine atomic_tryCommit ?_ fun e => atomic_exceptIntegrityError _ _ e
        refine atomic_refresh.bind fun refreshed => ?_
        exact (atomic_createTask _).bind fun _ => atomic_deleteCache _
  · exact atomic_raise _

theorem updateMePassword_atomic (currentUserId : UserId) (updateRequest : UpdateMePassword) :
    Service.Atomic false (updateMePassword currentUserId updateRequest) := by
  unfold updateMePassword
  refine atomic_requireUserById fun targetUser => ?_
  refine atomic_bind (issues_verifyPassword fun _ => rfl) fun verified => ?_
  refine atomic_ite (fun _ => atomic_raise _) fun _ => ?_
  refine atomic_bind (issues_hashPassword fun _ => rfl) fun newPasswordHash => ?_
  refine atomic_bind (issues_deref _ _) fun session => ?_
  exact atomic_commitOrRaise ((atomic_createTask _).bind fun _ => atomic_deleteCache _)

theorem cachedDetail_atomic {α : Type} (cacheKey : CacheKey) (userId : UserId) (q : UserQuery)
    (validate : CacheValue → Option α) (project : Loaded → CacheValue) (respond : Loaded → α) :
    Service.Atomic false (cachedDetail cacheKey userId q validate project respond) := by
  unfold cachedDetail
  refine atomic_call (fun _ => rfl) fun cached => ?_
  split
  · split
    · exact atomic_pure _
    · exact atomic_raise _
  · refine atomic_requireUserById fun user => ?_
    exact atomic_call (fun _ => rfl) fun _ => atomic_pure _

/-- **No operation but two commits anything before it raises an `AppException`.** -/
theorem Request.atomic (r : Request) (hlogin : ∀ formData, r ≠ .login formData)
    (hrefresh : ∀ token family, r ≠ .refreshToken token family) :
    Service.Atomic false (r.service env) := by
  cases r with
  | login formData => exact absurd rfl (hlogin formData)
  | refreshToken token family => exact absurd rfl (hrefresh token family)
  | logout id => exact (invalidateAllTokens_atomic none id).map _
  | activateAccount r => exact (activateAccount_atomic env r).map _
  | resetPassword r => exact (resetPassword_atomic env r).map _
  | createForgotPasswordRequest r => exact (createForgotPasswordRequest_atomic env r).map _
  | getCurrentUser token => exact (getCurrentUser_atomic env token).map _
  | registerUser id r => exact (registerUser_atomic env id r).map _
  | updateUser target r => exact (updateUser_atomic env target r).map _
  | updateUserCredentials id target r => exact (updateUserCredentials_atomic env id target r).map _
  | deactivateUser target => exact (deactivateUser_atomic target).map _
  | activateUser target => exact (activateUser_atomic target).map _
  | createResetPasswordRequest id target =>
    exact (createResetPasswordRequest_atomic env id target).map _
  | resendActivationInvite id target => exact (resendActivationInvite_atomic env id target).map _
  | updateMeCredentials id r => exact (updateMeCredentials_atomic env id r).map _
  | confirmEmailChange id r => exact (confirmEmailChange_atomic env id r).map _
  | updateMePassword id r => exact (updateMePassword_atomic id r).map _
  | getTeacherByIdAdmin | getStudentByIdAdmin | getTeacherByIdDirector | getStudentByIdDirector
  | getMyProfile | getMyStudentProfile =>
    exact (cachedDetail_atomic _ _ _ _ _ _).map _

end Operations

/-! ### The two exceptions -/

/-- The password of the form is not the one of the user it names. -/
def World.WrongPassword (env : Env) (w : World) (formData : LoginForm) (user : User) : Prop :=
  ∃ username password hash, formData.username = some username ∧
    formData.password = some password ∧
    w.db.users.find? (fun u => u.username = username) = some user ∧
    user.passwordHash = some hash ∧ env.verifyPassword password (some hash) = .ok false

/-- The token is a refresh token of the user whose session is live, but not the current one, or
its family is not. -/
def World.Violation (env : Env) (w : World) (token family : String) (id : UserId) : Prop :=
  refreshTokenSubject env w.clock token = .ok id ∧
    ∃ s hash stored, Keyed.get? w.db.sessions id = some s ∧ s.refreshTokenHash = some hash ∧
      s.refreshTokenFamily = some stored ∧ (family ≠ stored ∨ env.sha256 token ≠ hash)

/-- Only `failed_login_attempts` and `locked_until` of the user have changed. -/
def Db.ChangesLockout (db db' : Db) (id : UserId) : Prop :=
  ∃ f : UserLoginLockout → UserLoginLockout,
    (∀ row, f row =
      { row with
        failedLoginAttempts := (f row).failedLoginAttempts
        lockedUntil := (f row).lockedUntil }) ∧
    db' = { db with loginLockouts := Keyed.modify db.loginLockouts id f }

/-- Only the refresh triple and `access_token_version` of the user have changed. -/
def Db.ChangesTokens (db db' : Db) (id : UserId) : Prop :=
  ∃ f : UserSession → UserSession,
    (∀ row, f row =
      { row with
        accessTokenVersion := (f row).accessTokenVersion
        refreshTokenHash := (f row).refreshTokenHash
        refreshTokenFamily := (f row).refreshTokenFamily
        refreshTokenExpiresAt := (f row).refreshTokenExpiresAt }) ∧
    db' = { db with sessions := Keyed.modify db.sessions id f }

/-- What a request may leave behind that ends in an `AppException`. -/
def Request.Leaves (env : Env) (w : World) (db' : Db) : Request → Prop
  | .login formData => ∃ user, w.WrongPassword env formData user ∧
      w.db.ChangesLockout db' user.id
  | .refreshToken token family => ∃ id, w.Violation env token family id ∧
      w.db.ChangesTokens db' id
  | _ => False

section Exceptions

variable (env : Env) {w : World}

/-- The companions that a commit writes back as they were loaded stay as they are. -/
theorem flushRow_self {α : Type} [Keyed α UserId] {write : α → α → α → α}
    (hwrite : ∀ a stored, write a a stored = stored) (id : UserId) (loaded : Option α)
    (table : List α) : flushRow write id loaded loaded table = table := by
  cases loaded with
  | none => rfl
  | some a => exact Keyed.modify_eq_self (hwrite a)

/-- A commit of the lockout alone. -/
theorem Db.commit_lockout (db : Db) (now : Time) {loaded : Loaded} {l l' : UserLoginLockout}
    (hl : loaded.loginLockout = some l) :
    ∃ db', db.commit now (.update loaded { loaded.dirty with loginLockout := some l' } []) =
        .ok db' ∧ db.ChangesLockout db' loaded.user.id := by
  refine ⟨_, db.commit_companions now rfl fun s hs => ⟨s, hs, rfl⟩,
    UserLoginLockout.write l l', fun row => rfl, ?_⟩
  simp only [Loaded.dirty, flushRow_self UserSession.write_self,
    flushRow_self UserActivation.write_self]
  rw [hl]
  rfl

/-- A commit of a revoked session alone. -/
theorem Db.commit_revoked (db : Db) (now : Time) {loaded : Loaded} {s : UserSession}
    (hs : loaded.session = some s) :
    ∃ db', db.commit now (.update loaded { loaded.dirty with session := some s.revoked } []) =
        .ok db' ∧ db.ChangesTokens db' loaded.user.id := by
  refine ⟨_, db.commit_companions now rfl fun s' hs' => ⟨s, hs, ?_⟩,
    UserSession.write s s.revoked, fun row => ?_, ?_⟩
  · cases hs'
    rfl
  · simp [UserSession.write, UserSession.revoked]
  · simp only [Loaded.dirty, flushRow_self UserActivation.write_self,
      flushRow_self UserLoginLockout.write_self]
    rw [hs]
    rfl

/-- **A login that is refused leaves every row as it was, unless the password was wrong.** -/
theorem login_leaves (formData : LoginForm) :
    Ends (exec env) (login env formData) (fun r w' => ∀ e, r = .error e → e.isAppException →
      w'.rows = w.rows ∨ Request.Leaves env w w'.db (.login formData)) w := by
  unfold login
  split
  · next username password husername hpassword =>
    rw [ends_getUserByUsername]
    cases hload : w.db.selectUserByUsername username
        { loadSession := true, loadLoginLockout := true } with
    | none => exact fun _ _ _ => Or.inl rfl
    | some loaded =>
      dsimp only
      cases hlockout : loaded.loginLockout with
      | none => exact fun _ _ _ => Or.inl rfl
      | some lockout =>
        rw [deref_some, ends_datetimeNow]
        split
        · exact fun _ _ _ => Or.inl rfl
        · split
          · exact fun _ _ _ => Or.inl rfl
          · next hhash =>
            split
            · exact fun _ _ _ => Or.inl rfl
            · refine ends_verifyPassword (fun valid hvalid => ?_) fun e _ => fun _ _ _ => Or.inl rfl
              split
              · next hwrong =>
                -- The wrong password is counted before it is refused.
                rw [ends_datetimeNow]
                refine ends_commitOrRaise (fun db' hcommit => ?_) fun e _ => fun _ _ _ => Or.inl rfl
                intro e _ _
                obtain ⟨hash, hhash⟩ := Option.ne_none_iff_exists'.mp hhash
                obtain ⟨user, huser, rfl⟩ := Option.map_eq_some_iff.mp hload
                obtain ⟨db₁, hcommit₁, hchanges⟩ := w.db.commit_lockout w.clock hlockout
                obtain rfl := Except.ok.inj (hcommit₁.symm.trans hcommit)
                refine Or.inr ⟨user, ⟨username, password, hash, husername, hpassword, huser,
                  hhash, ?_⟩, hchanges⟩
                obtain rfl : valid = false := by simpa using hwrong
                rw [← hhash]
                exact hvalid
              · split
                · exact fun _ _ _ => Or.inl rfl
                · cases hsession : loaded.session with
                  | none => exact fun _ _ _ => Or.inl rfl
                  | some session =>
                    rw [deref_some]
                    refine ((openSession_atomic env _ _ _).ends (exec_rows env) w).mono ?_
                    exact fun r w' h e he hbad => Or.inl (h e he hbad)
  · exact fun _ _ _ => Or.inl rfl

/-- **So does a refresh, unless it is a security violation.** -/
theorem refreshToken_leaves (token family : String) :
    Ends (exec env) (refreshToken env token family) (fun r w' => ∀ e, r = .error e →
      e.isAppException →
        w'.rows = w.rows ∨ Request.Leaves env w w'.db (.refreshToken token family)) w := by
  unfold refreshToken
  rw [ends_datetimeNow]
  cases hsubject : refreshTokenSubject env w.clock token with
  | error e => exact fun _ _ _ => Or.inl rfl
  | ok id =>
    rw [ofExcept_ok, ends_getUserById]
    cases hload : w.db.selectUserById id { loadSession := true } with
    | none => exact fun _ _ _ => Or.inl rfl
    | some loaded =>
      dsimp only
      cases hsession : loaded.session with
      | none => exact fun _ _ _ => Or.inl rfl
      | some s =>
        rw [deref_some]
        split
        · next hash stored expiresAt hhash hstored hexpires =>
          rw [ends_datetimeNow]
          split
          · exact fun _ _ _ => Or.inl rfl
          · refine ends_compareDigest (fun _ => ?_) fun _ => fun _ _ _ => Or.inl rfl
            refine ends_verifyDigest (fun _ => ?_) fun _ => fun _ _ _ => Or.inl rfl
            split
            · next hinvalid =>
              -- The session is revoked before the token is refused.
              obtain ⟨user, hget, hloaded⟩ := Option.map_eq_some_iff.mp hload
              obtain ⟨huser, -⟩ := Option.filter_eq_some_iff.mp hget
              obtain rfl : user.id = id := Keyed.key_of_get? huser
              have hid : loaded.user.id = user.id := by
                rw [← hloaded]
                rfl
              have hstored' : Keyed.get? w.db.sessions user.id = some s := by
                rw [← hsession, ← hloaded]
                rfl
              unfold invalidateAllTokens
              rw [ends_bind, ends_getUserById, hid, hload]
              simp only [Option.getD_some, hsession, deref_some]
              refine ends_commitOrRaise (fun db' hcommit => ?_) fun e _ => fun _ _ _ => Or.inl rfl
              intro e _ _
              obtain ⟨db₁, hcommit₁, hchanges⟩ := w.db.commit_revoked w.clock hsession
              obtain rfl := Except.ok.inj (hcommit₁.symm.trans hcommit)
              rw [hid] at hchanges
              refine Or.inr ⟨user.id, ⟨hsubject, s, hash, stored, hstored', hhash, hstored, ?_⟩,
                hchanges⟩
              rw [Bool.or_eq_true] at hinvalid
              rcases hinvalid with h | h
              · exact Or.inl (by simpa using h)
              · exact Or.inr (by simpa using h)
            · refine ((openSession_atomic env _ _ _).ends (exec_rows env) w).mono ?_
              exact fun r w' h e he hbad => Or.inl (h e he hbad)
        · exact fun _ _ _ => Or.inl rfl

end Exceptions

/-! ### The session of a request -/

/-- The state while a request is served: nobody else sees the rows it has flushed. -/
structure Transaction where
  world : World
  /-- The users flushed since the last commit or rollback. -/
  uncommitted : List User

/-- What becomes of the flushed rows. -/
def Stmt.uncommitted : (s : Stmt) → s.Reply → List User → List User
  | .flushUser user, .ok id, rows => rows ++ [{ user with id := id }]
  | .flushUser _, .error _, _ => []
  | .commit _, _, _ => []
  | .rollback, _, _ => []
  | _, _, rows => rows

/-- A statement of a request. -/
def Transaction.exec (env : Env) (s : Stmt) (t : Transaction) : s.Reply × Transaction :=
  ((SmsLite.exec env s t.world).1,
    { world := (SmsLite.exec env s t.world).2
      uncommitted := s.uncommitted (SmsLite.exec env s t.world).1 t.uncommitted })

/-- `await session.rollback()`, and what closing a session does. -/
def Transaction.rollback (t : Transaction) : Transaction := { t with uncommitted := [] }

/-- `get_session` around an operation: the handler rolls back and raises again. -/
def getSession (env : Env) {α : Type} (p : Service α) (w : World) : Except Exn α × Transaction :=
  match p.run (Transaction.exec env) { world := w, uncommitted := [] } with
  | (.ok a, t) => (.ok a, t.rollback)
  | (.error e, t) => (.error e, t.rollback)

/-- The flushed rows make no difference to a run. -/
theorem Transaction.run_eq (env : Env) {α : Type} (p : Service α) (t : Transaction) :
    (p.run (Transaction.exec env) t).1 = (p.run (SmsLite.exec env) t.world).1 ∧
      (p.run (Transaction.exec env) t).2.world = (p.run (SmsLite.exec env) t.world).2 := by
  induction p generalizing t with
  | pure a => exact ⟨rfl, rfl⟩
  | raise e => exact ⟨rfl, rfl⟩
  | stmt s k ih => exact ih _ (Transaction.exec env s t).2

/-- **Serving a request through `get_session` is serving it**, and nothing uncommitted is left. -/
theorem getSession_eq (env : Env) (w : World) (r : Request) :
    (getSession env (r.service env) w).1 = w.respond env r ∧
      (getSession env (r.service env) w).2 = ⟨(w.serve env r).2, []⟩ := by
  obtain ⟨hresult, hworld⟩ := Transaction.run_eq env (r.service env) ⟨w, []⟩
  unfold getSession World.respond World.serve
  generalize (r.service env).run (Transaction.exec env) ⟨w, []⟩ = served at hresult hworld
  obtain ⟨result, t⟩ := served
  cases result with
  | ok a => exact ⟨hresult, congrArg (Transaction.mk · []) hworld⟩
  | error e => exact ⟨hresult, congrArg (Transaction.mk · []) hworld⟩

/-! ### All services -/

/-- A function applied to the value raises nothing. -/
theorem error_of_map {α β : Type} {f : α → β} {x : Except Exn α} {e : Exn}
    (h : x.map f = .error e) : x = .error e := by
  cases x with
  | ok a => cases h
  | error e' =>
    cases h
    rfl

/-- A request that ends in an `AppException` leaves every row as it was, with the two
exceptions. -/
theorem World.rows_of_appException (env : Env) (w : World) (r : Request) {e : Exn}
    (he : w.respond env r = .error e) (happ : e.isAppException) :
    (w.serve env r).2.rows = w.rows ∨ r.Leaves env w (w.serve env r).2.db := by
  by_cases hlogin : ∃ formData, r = .login formData
  · obtain ⟨formData, rfl⟩ := hlogin
    have hrun := Prog.run_map (exec env) Response.tokens (login env formData) w
    change ((Response.tokens <$> login env formData).run (exec env) w).1 = _ at he
    change ((Response.tokens <$> login env formData).run (exec env) w).2.rows = _ ∨
      Request.Leaves env w ((Response.tokens <$> login env formData).run (exec env) w).2.db _
    rw [hrun] at he ⊢
    exact login_leaves env formData e (error_of_map he) happ
  · by_cases hrefresh : ∃ token family, r = .refreshToken token family
    · obtain ⟨token, family, rfl⟩ := hrefresh
      have hrun := Prog.run_map (exec env) Response.tokens (refreshToken env token family) w
      change ((Response.tokens <$> refreshToken env token family).run (exec env) w).1 = _ at he
      change ((Response.tokens <$> refreshToken env token family).run (exec env) w).2.rows = _ ∨
        Request.Leaves env w
          ((Response.tokens <$> refreshToken env token family).run (exec env) w).2.db _
      rw [hrun] at he ⊢
      exact refreshToken_leaves env token family e (error_of_map he) happ
    · have hatomic := r.atomic env (fun formData h => hlogin ⟨formData, h⟩)
        fun token family h => hrefresh ⟨token, family, h⟩
      exact Or.inl (hatomic.run_view (exec_rows env) he happ)

/-- A group operation that ends in an exception leaves the table as it was. -/
theorem GroupStore.rows_of_error (s : GroupStore) (r : GroupRequest) {e : Exn}
    (he : (s.serve r).1 = .error e) : (s.serve r).2.rows = s.rows := by
  have hserves := s.serves r
  generalize s.serve r = served at hserves he
  cases hserves with
  | created | updated | archived | restored => cases he
  | _ => rfl

/-- So does a subject operation. -/
theorem SubjectStore.rows_of_error (s : SubjectStore) (r : SubjectRequest) {e : Exn}
    (he : (s.serve r).1 = .error e) : (s.serve r).2.rows = s.rows := by
  have hserves := s.serves r
  generalize s.serve r = served at hserves he
  cases hserves with
  | created | updated | archived | restored => cases he
  | _ => rfl

/-- **An operation that ends in an `AppException` leaves every row as it was**, in every state of
the database: the requests of the auth and user services, but for a wrong password and a
security violation, and the operations on groups and subjects.  Nothing uncommitted is left. -/
theorem appException_atomic (env : Env) :
    (∀ (w : World) (r : Request) (e : Exn), (getSession env (r.service env) w).1 = .error e →
      e.isAppException →
        (getSession env (r.service env) w).2.uncommitted = [] ∧
        ((getSession env (r.service env) w).2.world.rows = w.rows ∨
          r.Leaves env w (getSession env (r.service env) w).2.world.db)) ∧
      (∀ (s : GroupStore) (r : GroupRequest) (e : Exn), (s.serve r).1 = .error e →
        e.isAppException → (s.serve r).2.rows = s.rows) ∧
      ∀ (s : SubjectStore) (r : SubjectRequest) (e : Exn), (s.serve r).1 = .error e →
        e.isAppException → (s.serve r).2.rows = s.rows := by
  refine ⟨fun w r e he happ => ?_, fun s r e he _ => s.rows_of_error r he,
    fun s r e he _ => s.rows_of_error r he⟩
  obtain ⟨hresult, hstate⟩ := getSession_eq env w r
  rw [hresult] at he
  rw [hstate]
  exact ⟨rfl, w.rows_of_appException env r he happ⟩

/-- Another student under Ada's username. -/
def registerAda : Request :=
  .registerUser 1 (.student
    { username := "lovelace", firstname := "Augusta", lastname := "Byron", middlename := none
      phoneNumber := ⟨"+992917000003", isE164_grace⟩
      email := ⟨"byron@school.org", by decide⟩ }
    { year := 2010, month := 12, day := 10 } none)

/-- A registration under a username that is taken fails at its flush. -/
theorem appException_atomic_taken :
    (getSession .concrete (registerAda.service .concrete) World.concrete).2.uncommitted = [] ∧
      (getSession .concrete (registerAda.service .concrete) World.concrete).2.world.rows =
        World.concrete.rows := by
  have he : (getSession .concrete (registerAda.service .concrete) World.concrete).1 =
      .error (.app .usernameAlreadyTakenError HTTP409.username) := by decide +kernel
  obtain ⟨huncommitted, hrows⟩ :=
    (appException_atomic .concrete).1 World.concrete registerAda _ he trivial
  exact ⟨huncommitted, hrows.resolve_right not_false⟩

end SmsLite
