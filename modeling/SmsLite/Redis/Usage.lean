import SmsLite.Redis.Deployment
import SmsLite.Statements

/-!
# How the services use their caches

The mutators of the user services only delete entries; the readers write nothing but entries,
each under a key of its kind.  The same holds of the services of the groups, of the subjects and
of the letters.

## Main definitions

* `Stmt.Cacheless`, `Stmt.ReadsOnly` — the statements of the mutators, and of the readers.
* `Request.isReader` — the requests that read a cache.

## Main results

* `Request.cacheless` — **a mutator reads no cache and fills none**.
* `Request.readsOnly` — **a reader changes nothing but the caches, and fills them by kind**.
-/

namespace SmsLite

open Interleave
open Interleave.Prog (Issues issues_call issues_ite issues_stmt)

variable {env : Env}

/-! ### Mutators -/

/-- A statement that neither reads nor fills a cache. -/
def Stmt.Cacheless : Stmt → Prop
  | getCache _ | setCache _ _ => False
  | _ => True

/-- The two ways to commit. -/
theorem cacheless_commitOrRaise (work : UnitOfWork) :
    OnlyIssues Stmt.Cacheless (commitOrRaise work) := by
  refine (issues_call trivial).bind fun committed => ?_
  cases committed with
  | ok done => exact issues_pure _
  | error e => exact issues_raise _

theorem cacheless_tryCommit {α : Type} {work : UnitOfWork} {f : Except DbError Unit → Service α}
    (hok : OnlyIssues Stmt.Cacheless (f (.ok ())))
    (herr : ∀ e, OnlyIssues Stmt.Cacheless (f (.error e))) :
    OnlyIssues Stmt.Cacheless (tryCommit work >>= f) := by
  refine (issues_call trivial).bind fun committed => ?_
  cases committed with
  | ok done => exact hok
  | error e => exact herr e

theorem cacheless_exceptIntegrityError {α : Type} (mapsUsername mapsContacts : Bool)
    (e : DbError) :
    OnlyIssues Stmt.Cacheless (exceptIntegrityError mapsUsername mapsContacts e : Service α) :=
  issues_exceptIntegrityError trivial _ _ _

theorem cacheless_refresh (id : UserId) : OnlyIssues Stmt.Cacheless (refresh id) :=
  issues_refresh trivial

theorem cacheless_deleteCache (keys : List CacheKey) :
    OnlyIssues Stmt.Cacheless (deleteCache keys) := issues_call trivial

/-- The query for the user an operation is about. -/
theorem cacheless_requireUserById {α : Type} (id : UserId) (q : UserQuery)
    {f : Loaded → Service α} (hf : ∀ targetUser, OnlyIssues Stmt.Cacheless (f targetUser)) :
    OnlyIssues Stmt.Cacheless
      (getUserById id q >>= fun user => ensureExists user userNotFound >>= f) :=
  (issues_call trivial).bind fun _ => (issues_ensureExists _ _).bind hf

theorem cacheless_checkStudentContact (applies : Bool) (phoneNumber email : Option String)
    (exclude : UserId) :
    OnlyIssues Stmt.Cacheless (checkStudentContact env applies phoneNumber email exclude) :=
  issues_checkStudentContact (fun _ => trivial) (fun _ _ _ => trivial) _ _ _ _

theorem cacheless_invalidateAllTokens (identity : Option Loaded) (id : UserId) :
    OnlyIssues Stmt.Cacheless (invalidateAllTokens identity id) := by
  unfold invalidateAllTokens
  refine (issues_call trivial).bind fun reply => ?_
  cases reply with
  | none => exact issues_pure _
  | some loaded =>
    refine (issues_deref _ _).bind fun session => ?_
    exact (cacheless_commitOrRaise _).bind fun _ => cacheless_deleteCache _

theorem cacheless_openSession (user : Loaded) (session : UserSession)
    (loginLockout : Option UserLoginLockout) :
    OnlyIssues Stmt.Cacheless (openSession env user session loginLockout) := by
  unfold openSession
  refine (issues_call trivial).bind fun family => (issues_call trivial).bind fun now => ?_
  refine (issues_call trivial).bind fun jti => (issues_call trivial).bind fun now' => ?_
  refine (issues_call trivial).bind fun now'' => (cacheless_commitOrRaise _).bind fun _ => ?_
  exact (cacheless_refresh _).bind fun _ => issues_pure _

theorem cacheless_login (formData : LoginForm) :
    OnlyIssues Stmt.Cacheless (login env formData) := by
  unfold login
  split
  · refine (issues_call trivial).bind fun reply => ?_
    cases reply with
    | none => exact issues_raise _
    | some user =>
      refine (issues_deref _ _).bind fun loginLockout => (issues_call trivial).bind fun now => ?_
      split
      · exact issues_raise _
      · refine issues_ite (fun _ => issues_raise _) fun _ => ?_
        refine issues_ite (fun _ => issues_raise _) fun _ => ?_
        refine (issues_verifyPassword trivial).bind fun valid => ?_
        refine issues_ite (fun _ => ?_) fun _ => ?_
        · refine (issues_call trivial).bind fun now' => ?_
          exact (cacheless_commitOrRaise _).bind fun _ => issues_raise _
        · refine issues_ite (fun _ => issues_raise _) fun _ => ?_
          exact (issues_deref _ _).bind fun session => cacheless_openSession _ _ _
  · exact issues_raise _

theorem cacheless_activateAccount (request : ActivateAccountWithToken) :
    OnlyIssues Stmt.Cacheless (activateAccount env request) := by
  unfold activateAccount
  refine (issues_call trivial).bind fun reply => ?_
  cases reply with
  | none => exact issues_raise _
  | some user =>
    refine (issues_deref _ _).bind fun activation => ?_
    split
    · exact issues_raise _
    · refine (issues_call trivial).bind fun (now : Time) => ?_
      split
      · exact issues_raise _
      · refine (issues_ofExcept _).bind fun valid => ?_
        refine issues_ite (fun _ => issues_raise _) fun _ => ?_
        refine (issues_hashPassword trivial).bind fun hash => ?_
        refine (cacheless_commitOrRaise _).bind fun _ => ?_
        exact (cacheless_refresh _).bind fun _ => issues_pure _

theorem cacheless_refreshToken (token family : String) :
    OnlyIssues Stmt.Cacheless (refreshToken env token family) := by
  unfold refreshToken
  refine (issues_call trivial).bind fun (now : Time) => (issues_ofExcept _).bind fun userId => ?_
  refine (issues_call trivial).bind fun reply => ?_
  cases reply with
  | none => exact issues_raise _
  | some user =>
    refine (issues_deref _ _).bind fun session => ?_
    split
    · refine (issues_call trivial).bind fun (now' : Time) => ?_
      refine issues_ite (fun _ => issues_raise _) fun _ => ?_
      refine (issues_ofExcept _).bind fun familyValid => ?_
      refine (issues_ofExcept _).bind fun hashValid => issues_ite (fun _ => ?_) fun _ => ?_
      · exact (cacheless_invalidateAllTokens _ _).bind fun _ => issues_raise _
      · exact cacheless_openSession _ _ _
    · exact issues_raise _

theorem cacheless_resetPassword (request : ResetPassword) :
    OnlyIssues Stmt.Cacheless (resetPassword env request) := by
  unfold resetPassword
  refine (issues_call trivial).bind fun reply => ?_
  cases reply with
  | none => exact issues_raise _
  | some user =>
    refine (issues_deref _ _).bind fun session => (issues_call trivial).bind fun (now : Time) => ?_
    split
    · exact issues_raise _
    · refine (issues_ofExcept _).bind fun valid => ?_
      refine issues_ite (fun _ => issues_raise _) fun _ => ?_
      refine (issues_hashPassword trivial).bind fun hash => ?_
      refine (issues_deref _ _).bind fun lockout => (cacheless_commitOrRaise _).bind fun _ => ?_
      exact (cacheless_refresh _).bind fun _ => cacheless_deleteCache _

theorem cacheless_createForgotPasswordRequest (request : ForgotPasswordPublicRequest) :
    OnlyIssues Stmt.Cacheless (createForgotPasswordRequest env request) := by
  unfold createForgotPasswordRequest
  refine (issues_call trivial).bind fun reply => (issues_call trivial).bind fun secret => ?_
  cases reply with
  | none => exact issues_pure _
  | some user =>
    obtain ⟨u, _ | session, a, lo, g⟩ := user
    · exact issues_pure _
    · refine (issues_call trivial).bind fun (now : Time) => ?_
      refine (cacheless_commitOrRaise _).bind fun _ => ?_
      exact (issues_call trivial).bind fun _ => issues_pure _

theorem cacheless_registerUser (currentUserId : UserId) (request : CreateUserRequest) :
    OnlyIssues Stmt.Cacheless (registerUser env currentUserId request) := by
  have hlock : ∀ (lock : String → AdvisoryLock) (text : Option String),
      OnlyIssues Stmt.Cacheless (acquireLockFor lock text) :=
    fun lock text => issues_acquireLockFor (fun _ => trivial) text
  unfold registerUser
  refine (issues_onlyIf ((hlock _ _).bind fun _ => hlock _ _)).bind fun _ => ?_
  refine (issues_checkContactLimit (fun _ => trivial) _ _ _).bind fun _ => ?_
  refine (issues_call trivial).bind fun secret => (issues_call trivial).bind fun now => ?_
  refine (issues_call trivial).bind fun flushed => ?_
  cases flushed with
  | error e => exact cacheless_exceptIntegrityError _ _ e
  | ok id =>
    exact cacheless_tryCommit (cacheless_refresh _) fun e => cacheless_exceptIntegrityError _ _ e

theorem cacheless_updateUser (id : UserId) (request : UpdateUserRequest) :
    OnlyIssues Stmt.Cacheless (updateUser env id request) := by
  unfold updateUser
  refine cacheless_requireUserById _ _ fun targetUser => ?_
  refine issues_ite (fun _ => issues_raise _) fun _ => ?_
  refine (cacheless_checkStudentContact _ _ _ _).bind fun _ => ?_
  refine (issues_updateObject _ _).bind fun user => ?_
  refine cacheless_tryCommit ?_ fun e => cacheless_exceptIntegrityError _ _ e
  refine (cacheless_refresh _).bind fun refreshed => ?_
  exact (issues_call trivial).bind fun _ => cacheless_deleteCache _

theorem cacheless_updateUserCredentials (currentUserId id : UserId)
    (request : UpdateUserCredentials) :
    OnlyIssues Stmt.Cacheless (updateUserCredentials env currentUserId id request) := by
  unfold updateUserCredentials
  refine cacheless_requireUserById _ _ fun targetUser => ?_
  refine (cacheless_checkStudentContact _ _ _ _).bind fun _ => ?_
  refine (issues_updateObject _ _).bind fun user => (issues_deref _ _).bind fun session => ?_
  refine issues_ite (fun _ => ?_) fun _ => ?_
  · refine (issues_reissueInvite trivial trivial _ _ _ _).bind fun reissued => ?_
    exact cacheless_tryCommit (cacheless_deleteCache _) fun e =>
      cacheless_exceptIntegrityError _ _ e
  · exact cacheless_tryCommit (cacheless_deleteCache _) fun e =>
      cacheless_exceptIntegrityError _ _ e

theorem cacheless_deactivateUser (id : UserId) :
    OnlyIssues Stmt.Cacheless (deactivateUser id) := by
  unfold deactivateUser
  refine cacheless_requireUserById _ _ fun targetUser => ?_
  refine issues_ite (fun _ => issues_raise _) fun _ => (issues_deref _ _).bind fun session => ?_
  refine (cacheless_commitOrRaise _).bind fun _ => ?_
  exact (issues_call trivial).bind fun _ => cacheless_deleteCache _

theorem cacheless_activateUser (id : UserId) : OnlyIssues Stmt.Cacheless (activateUser id) := by
  unfold activateUser
  refine cacheless_requireUserById _ _ fun targetUser => ?_
  refine issues_ite (fun _ => issues_raise _) fun _ => (issues_deref _ _).bind fun lockout => ?_
  refine (cacheless_commitOrRaise _).bind fun _ => ?_
  exact (issues_call trivial).bind fun _ => cacheless_deleteCache _

theorem cacheless_createResetPasswordRequest (currentUserId id : UserId) :
    OnlyIssues Stmt.Cacheless (createResetPasswordRequest env currentUserId id) := by
  unfold createResetPasswordRequest
  refine cacheless_requireUserById _ _ fun targetUser => ?_
  refine (issues_call trivial).bind fun secret => (issues_deref _ _).bind fun session => ?_
  exact (issues_call trivial).bind fun now => cacheless_commitOrRaise _

theorem cacheless_resendActivationInvite (currentUserId id : UserId) :
    OnlyIssues Stmt.Cacheless (resendActivationInvite env currentUserId id) := by
  unfold resendActivationInvite
  refine cacheless_requireUserById _ _ fun targetUser => ?_
  refine issues_ite (fun _ => issues_raise _) fun _ => ?_
  exact (issues_reissueInvite trivial trivial _ _ _ _).bind fun _ => cacheless_commitOrRaise _

theorem cacheless_commitMyCredentials (targetUser : Loaded) (user : UserDraft)
    (session : UserSession) (usernameChanging : Bool) (change : Option EmailChange) :
    OnlyIssues Stmt.Cacheless
      (commitMyCredentials targetUser user session usernameChanging change) := by
  unfold commitMyCredentials
  refine cacheless_tryCommit ?_ fun e => cacheless_exceptIntegrityError _ _ e
  have hsend : OnlyIssues Stmt.Cacheless (sendEmailChangeCode change) := by
    cases change with
    | none => exact issues_pure _
    | some change => exact issues_call trivial
  refine (cacheless_refresh _).bind fun _ => hsend.bind fun _ => ?_
  exact (cacheless_deleteCache _).bind fun _ => issues_onlyIf (cacheless_deleteCache _)

theorem cacheless_updateMeCredentials (id : UserId) (request : UpdateUserCredentials) :
    OnlyIssues Stmt.Cacheless (updateMeCredentials env id request) := by
  unfold updateMeCredentials
  refine cacheless_requireUserById _ _ fun targetUser => ?_
  refine issues_ite (fun _ => issues_raise _) fun _ => (issues_deref _ _).bind fun session => ?_
  refine (issues_call trivial).bind fun (now : Time) => ?_
  refine issues_ite (fun _ => issues_raise _) fun _ => ?_
  have hcode : OnlyIssues Stmt.Cacheless
      (generateEmailChangeCode (request.newEmail targetUser.user)) := by
    cases request.newEmail targetUser.user with
    | none => exact issues_pure _
    | some newEmail =>
      exact (issues_call trivial).bind fun _ => (issues_call trivial).bind fun _ => issues_pure _
  exact hcode.bind fun change => cacheless_commitMyCredentials _ _ _ _ _

theorem cacheless_confirmEmailChange (id : UserId) (request : ConfirmEmailChange) :
    OnlyIssues Stmt.Cacheless (confirmEmailChange env id request) := by
  unfold confirmEmailChange
  refine cacheless_requireUserById _ _ fun targetUser => (issues_deref _ _).bind fun session => ?_
  split
  · refine (issues_call trivial).bind fun (now : Time) => ?_
    split
    · exact issues_raise _
    · refine issues_ite (fun _ => issues_raise _) fun _ => (issues_ofExcept _).bind fun valid => ?_
      refine issues_ite (fun _ => issues_raise _) fun _ => ?_
      refine (cacheless_checkStudentContact _ _ _ _).bind fun _ => ?_
      refine cacheless_tryCommit ?_ fun e => cacheless_exceptIntegrityError _ _ e
      refine (cacheless_refresh _).bind fun refreshed => ?_
      exact (issues_call trivial).bind fun _ => cacheless_deleteCache _
  · exact issues_raise _

theorem cacheless_updateMePassword (id : UserId) (request : UpdateMePassword) :
    OnlyIssues Stmt.Cacheless (updateMePassword id request) := by
  unfold updateMePassword
  refine cacheless_requireUserById _ _ fun targetUser => ?_
  refine (issues_verifyPassword trivial).bind fun valid => ?_
  refine issues_ite (fun _ => issues_raise _) fun _ => ?_
  refine (issues_hashPassword trivial).bind fun hash => ?_
  refine (issues_deref _ _).bind fun session => (cacheless_commitOrRaise _).bind fun _ => ?_
  exact (issues_call trivial).bind fun _ => cacheless_deleteCache _

/-! ### Readers -/

/-- A statement that changes nothing but the caches, and fills them by kind. -/
def Stmt.ReadsOnly : Stmt → Prop
  | now | selectUserById _ _ | selectUserByUsername _ _ | getCache _ | deleteCache _ => True
  | setCache key value => (RedisKey.user key).Fits (.user value)
  | _ => False

theorem readsOnly_cachedDetail {α : Type} {key : CacheKey} {id : UserId} {q : UserQuery}
    {validate : CacheValue → Option α} {project : Loaded → CacheValue} {respond : Loaded → α}
    (hfits : ∀ user, (RedisKey.user key).Fits (.user (project user))) :
    OnlyIssues Stmt.ReadsOnly (cachedDetail key id q validate project respond) := by
  unfold cachedDetail
  refine (issues_call trivial).bind fun cached => ?_
  cases cached with
  | some value =>
    dsimp only
    cases validate value with
    | some response => exact issues_pure _
    | none => exact issues_raise _
  | none =>
    refine (issues_call trivial).bind fun reply => (issues_ensureExists _ _).bind fun user => ?_
    have hset : Stmt.ReadsOnly (.setCache key (project user)) := hfits user
    exact (issues_call hset).bind fun _ => issues_pure _

theorem readsOnly_getCurrentUser (token : String) :
    OnlyIssues Stmt.ReadsOnly (getCurrentUser env token) := by
  unfold getCurrentUser
  refine (issues_call trivial).bind fun (now : Time) => (issues_ofExcept _).bind fun subject => ?_
  obtain ⟨userId, version, role⟩ := subject
  refine (issues_call trivial).bind fun cached => ?_
  cases role with
  | none => exact issues_raise _
  | some role =>
    cases cached with
    | some value =>
      cases value with
      | version cachedVersion => exact issues_ite (fun _ => issues_raise _) fun _ => issues_pure _
      | _ => exact issues_raise _
    | none =>
      refine (issues_call trivial).bind fun reply => ?_
      cases reply with
      | none => exact issues_raise _
      | some user =>
        refine (issues_deref _ _).bind fun session => ?_
        refine issues_ite (fun _ => issues_raise _) fun _ => ?_
        refine issues_ite (fun _ => issues_raise _) fun _ => ?_
        exact (issues_call trivial).bind fun _ => issues_pure _

/-! ### The requests -/

/-- The requests that read a cache. -/
def Request.isReader : Request → Bool
  | getCurrentUser _ | getTeacherByIdAdmin _ | getStudentByIdAdmin _ | getTeacherByIdDirector _
  | getStudentByIdDirector _ | getMyProfile _ | getMyStudentProfile _ => true
  | _ => false

/-- **A mutator reads no cache and fills none.** -/
theorem Request.cacheless {r : Request} (h : r.isReader = false) :
    OnlyIssues Stmt.Cacheless (r.service env) := by
  cases r with
  | login formData => exact (cacheless_login formData).map _
  | logout id => exact (cacheless_invalidateAllTokens none id).map _
  | activateAccount request => exact (cacheless_activateAccount request).map _
  | refreshToken token family => exact (cacheless_refreshToken token family).map _
  | resetPassword request => exact (cacheless_resetPassword request).map _
  | createForgotPasswordRequest request =>
    exact (cacheless_createForgotPasswordRequest request).map _
  | registerUser id request => exact (cacheless_registerUser id request).map _
  | updateUser id request => exact (cacheless_updateUser id request).map _
  | updateUserCredentials by_ id request =>
    exact (cacheless_updateUserCredentials by_ id request).map _
  | deactivateUser id => exact (cacheless_deactivateUser id).map _
  | activateUser id => exact (cacheless_activateUser id).map _
  | createResetPasswordRequest by_ id =>
    exact (cacheless_createResetPasswordRequest by_ id).map _
  | resendActivationInvite by_ id => exact (cacheless_resendActivationInvite by_ id).map _
  | updateMeCredentials id request => exact (cacheless_updateMeCredentials id request).map _
  | confirmEmailChange id request => exact (cacheless_confirmEmailChange id request).map _
  | updateMePassword id request => exact (cacheless_updateMePassword id request).map _
  | _ => cases h

/-- **A reader changes nothing but the caches, and fills them by kind.** -/
theorem Request.readsOnly {r : Request} (h : r.isReader = true) :
    OnlyIssues Stmt.ReadsOnly (r.service env) := by
  cases r with
  | getCurrentUser token => exact (readsOnly_getCurrentUser token).map _
  | getTeacherByIdAdmin | getStudentByIdAdmin | getTeacherByIdDirector | getStudentByIdDirector
  | getMyProfile | getMyStudentProfile =>
    refine Issues.map (readsOnly_cachedDetail ?_) _
    intro user
    trivial
  | _ => cases h

/-! ### The other services -/

/-- A statement that neither reads nor fills a cache. -/
def GroupStmt.Cacheless : GroupStmt → Prop
  | getCache _ | setCache _ _ => False
  | _ => True

/-- A statement that changes nothing but the caches, and fills them by kind. -/
def GroupStmt.ReadsOnly : GroupStmt → Prop
  | now | getGroupById _ | getCache _ | deleteCache _ => True
  | setCache key value => (RedisKey.group key).Fits (.group value)
  | _ => False

/-- The requests that read a cache. -/
def GroupRequest.isReader : GroupRequest → Bool
  | getGroupByIdAdmin _ | getGroupByIdDirector _ => true
  | _ => false

namespace GroupProg

/-- The program issues only statements with `A`. -/
abbrev OnlyIssues {α : Type} (A : GroupStmt → Prop) (p : GroupProg α) : Prop :=
  Issues A (fun _ _ => True) p

theorem issues_getGroupById {A : GroupStmt → Prop} {groupId : ℕ} (h : A (.getGroupById groupId)) :
    OnlyIssues A (getGroupById groupId) := by
  refine (issues_call h).bind fun reply => ?_
  cases reply with
  | none => trivial
  | some group => trivial

theorem cacheless_refresh (groupId : ℕ) : OnlyIssues GroupStmt.Cacheless (refresh groupId) := by
  refine (issues_call trivial).bind fun reply => ?_
  cases reply with
  | none => trivial
  | some group => trivial

theorem cacheless_commitOrRaise (loaded : Group) (current : GroupDraft) :
    OnlyIssues GroupStmt.Cacheless (commitOrRaise loaded current) := by
  refine (issues_call trivial).bind fun committed => ?_
  cases committed with
  | ok done => trivial
  | error e => trivial

theorem cacheless_exceptIntegrityError {α : Type} (e : DbError) :
    OnlyIssues GroupStmt.Cacheless (exceptIntegrityError e : GroupProg α) := by
  cases e with
  | data orig => trivial
  | integrity orig =>
    refine (issues_call trivial).bind fun _ => ?_
    exact issues_ite (fun _ => trivial) fun _ => trivial

end GroupProg

/-- A mutator of the groups reads no cache and fills none. -/
theorem GroupRequest.cacheless {r : GroupRequest} (h : r.isReader = false) :
    GroupProg.OnlyIssues GroupStmt.Cacheless r.service := by
  have hdelete : ∀ keys, GroupProg.OnlyIssues GroupStmt.Cacheless (GroupProg.deleteCache keys) :=
    fun keys => issues_call trivial
  cases r with
  | createGroup request =>
    refine Issues.map ((issues_call trivial).bind fun inserted => ?_) _
    cases inserted with
    | error e => exact GroupProg.cacheless_exceptIntegrityError e
    | ok groupId => exact GroupProg.cacheless_refresh groupId
  | updateGroup groupId request =>
    refine Issues.map ((GroupProg.issues_getGroupById trivial).bind fun target => ?_) _
    refine issues_ite (fun _ => trivial) fun _ => (issues_call trivial).bind fun committed => ?_
    cases committed with
    | error e => exact GroupProg.cacheless_exceptIntegrityError e
    | ok done => exact (GroupProg.cacheless_refresh groupId).bind fun _ => hdelete _
  | archiveGroup groupId =>
    refine Issues.map ((GroupProg.issues_getGroupById trivial).bind fun target => ?_) _
    refine issues_ite (fun _ => trivial) fun _ => (issues_call trivial).bind fun now => ?_
    exact (GroupProg.cacheless_commitOrRaise _ _).bind fun _ => hdelete _
  | restoreGroup groupId =>
    refine Issues.map ((GroupProg.issues_getGroupById trivial).bind fun target => ?_) _
    refine issues_ite (fun _ => trivial) fun _ => ?_
    exact (GroupProg.cacheless_commitOrRaise _ _).bind fun _ => hdelete _
  | _ => cases h

theorem readsOnly_cachedGroup {α : Type} {key : GroupCacheKey} {groupId : ℕ}
    {validate : GroupCacheValue → Option α} {project : Group → GroupCacheValue}
    {respond : Group → α} (hfits : ∀ group, (RedisKey.group key).Fits (.group (project group))) :
    GroupProg.OnlyIssues GroupStmt.ReadsOnly
      (cachedGroup key groupId validate project respond) := by
  unfold cachedGroup
  refine (issues_call trivial).bind fun cached => ?_
  cases cached with
  | some value =>
    dsimp only
    cases validate value with
    | some response => trivial
    | none => trivial
  | none =>
    refine (GroupProg.issues_getGroupById trivial).bind fun group => ?_
    have hset : GroupStmt.ReadsOnly (.setCache key (project group)) := hfits group
    exact (issues_call hset).bind fun _ => trivial

/-- A reader of the groups changes nothing but the caches, and fills them by kind. -/
theorem GroupRequest.readsOnly {r : GroupRequest} (h : r.isReader = true) :
    GroupProg.OnlyIssues GroupStmt.ReadsOnly r.service := by
  cases r with
  | getGroupByIdAdmin | getGroupByIdDirector =>
    refine Issues.map (readsOnly_cachedGroup ?_) _
    intro group
    trivial
  | _ => cases h

/-- A statement that neither reads nor fills a cache. -/
def SubjectStmt.Cacheless : SubjectStmt → Prop
  | getCache _ | setCache _ _ => False
  | _ => True

/-- A statement that changes nothing but the caches, and fills them by kind. -/
def SubjectStmt.ReadsOnly : SubjectStmt → Prop
  | now | getSubjectById _ | getCache _ | deleteCache _ => True
  | setCache key value => (RedisKey.subject key).Fits (.subject value)
  | _ => False

/-- The requests that read a cache. -/
def SubjectRequest.isReader : SubjectRequest → Bool
  | getSubjectByIdAdmin _ | getSubjectByIdDirector _ => true
  | _ => false

namespace SubjectProg

/-- The program issues only statements with `A`. -/
abbrev OnlyIssues {α : Type} (A : SubjectStmt → Prop) (p : SubjectProg α) : Prop :=
  Issues A (fun _ _ => True) p

theorem issues_getSubjectById {A : SubjectStmt → Prop} {subjectId : ℕ}
    (h : A (.getSubjectById subjectId)) :
    OnlyIssues A (getSubjectById subjectId) := by
  refine (issues_call h).bind fun reply => ?_
  cases reply with
  | none => trivial
  | some subject => trivial

theorem cacheless_refresh (subjectId : ℕ) :
    OnlyIssues SubjectStmt.Cacheless (refresh subjectId) := by
  refine (issues_call trivial).bind fun reply => ?_
  cases reply with
  | none => trivial
  | some subject => trivial

theorem cacheless_commitOrRaise (loaded : Subject) (current : SubjectDraft) :
    OnlyIssues SubjectStmt.Cacheless (commitOrRaise loaded current) := by
  refine (issues_call trivial).bind fun committed => ?_
  cases committed with
  | ok done => trivial
  | error e => trivial

theorem cacheless_exceptIntegrityError {α : Type} (e : DbError) :
    OnlyIssues SubjectStmt.Cacheless (exceptIntegrityError e : SubjectProg α) := by
  cases e with
  | data orig => trivial
  | integrity orig =>
    refine (issues_call trivial).bind fun _ => ?_
    exact issues_ite (fun _ => trivial) fun _ => trivial

end SubjectProg

/-- A mutator of the subjects reads no cache and fills none. -/
theorem SubjectRequest.cacheless {r : SubjectRequest} (h : r.isReader = false) :
    SubjectProg.OnlyIssues SubjectStmt.Cacheless r.service := by
  have hdelete : ∀ keys,
      SubjectProg.OnlyIssues SubjectStmt.Cacheless (SubjectProg.deleteCache keys) :=
    fun keys => issues_call trivial
  cases r with
  | createSubject request =>
    refine Issues.map ((issues_call trivial).bind fun inserted => ?_) _
    cases inserted with
    | error e => exact SubjectProg.cacheless_exceptIntegrityError e
    | ok subjectId => exact SubjectProg.cacheless_refresh subjectId
  | updateSubject subjectId request =>
    refine Issues.map ((SubjectProg.issues_getSubjectById trivial).bind fun target => ?_) _
    refine issues_ite (fun _ => trivial) fun _ => (issues_call trivial).bind fun committed => ?_
    cases committed with
    | error e => exact SubjectProg.cacheless_exceptIntegrityError e
    | ok done => exact (SubjectProg.cacheless_refresh subjectId).bind fun _ => hdelete _
  | archiveSubject subjectId =>
    refine Issues.map ((SubjectProg.issues_getSubjectById trivial).bind fun target => ?_) _
    refine issues_ite (fun _ => trivial) fun _ => (issues_call trivial).bind fun now => ?_
    exact (SubjectProg.cacheless_commitOrRaise _ _).bind fun _ => hdelete _
  | restoreSubject subjectId =>
    refine Issues.map ((SubjectProg.issues_getSubjectById trivial).bind fun target => ?_) _
    refine issues_ite (fun _ => trivial) fun _ => ?_
    exact (SubjectProg.cacheless_commitOrRaise _ _).bind fun _ => hdelete _
  | _ => cases h

theorem readsOnly_cachedSubject {α : Type} {key : SubjectCacheKey} {subjectId : ℕ}
    {validate : SubjectCacheValue → Option α} {project : Subject → SubjectCacheValue}
    {respond : Subject → α}
    (hfits : ∀ subject, (RedisKey.subject key).Fits (.subject (project subject))) :
    SubjectProg.OnlyIssues SubjectStmt.ReadsOnly
      (cachedSubject key subjectId validate project respond) := by
  unfold cachedSubject
  refine (issues_call trivial).bind fun cached => ?_
  cases cached with
  | some value =>
    dsimp only
    cases validate value with
    | some response => trivial
    | none => trivial
  | none =>
    refine (SubjectProg.issues_getSubjectById trivial).bind fun subject => ?_
    have hset : SubjectStmt.ReadsOnly (.setCache key (project subject)) := hfits subject
    exact (issues_call hset).bind fun _ => trivial

/-- A reader of the subjects changes nothing but the caches, and fills them by kind. -/
theorem SubjectRequest.readsOnly {r : SubjectRequest} (h : r.isReader = true) :
    SubjectProg.OnlyIssues SubjectStmt.ReadsOnly r.service := by
  cases r with
  | getSubjectByIdAdmin | getSubjectByIdDirector =>
    refine Issues.map (readsOnly_cachedSubject ?_) _
    intro subject
    trivial
  | _ => cases h

/-- A statement that is none on a cache. -/
def OutboxStmt.Cacheless : OutboxStmt → Prop
  | getCache _ | setCache _ _ => False
  | _ => True

/-- A statement that is no call of the mail provider, and fills the cache by kind. -/
def OutboxStmt.Still : OutboxStmt → Prop
  | send _ => False
  | setCache emailId value => (RedisKey.email emailId).Fits (.email value)
  | _ => True

/-- A statement that changes nothing but the cache, and fills it by kind. -/
def OutboxStmt.ReadsOnly : OutboxStmt → Prop
  | send _ | commit _ _ => False
  | setCache emailId value => (RedisKey.email emailId).Fits (.email value)
  | _ => True

theorem OutboxStmt.ReadsOnly.still {s : OutboxStmt} (h : s.ReadsOnly) : s.Still := by
  cases s with
  | send record => exact h
  | setCache emailId value => exact h
  | _ => trivial

namespace OutboxProg

/-- The program issues only statements with `A`. -/
abbrev OnlyIssues {α : Type} (A : OutboxStmt → Prop) (p : OutboxProg α) : Prop :=
  Issues A (fun _ _ => True) p

theorem issues_commitOrRaise {A : OutboxStmt → Prop} {loaded current : PendingEmail}
    (h : A (.commit loaded current)) : OnlyIssues A (commitOrRaise loaded current) := by
  refine (issues_call h).bind fun committed => ?_
  cases committed with
  | ok done => trivial
  | error e => trivial

end OutboxProg

/-- The worker uses no cache. -/
theorem cacheless_processBatch : OutboxProg.OnlyIssues OutboxStmt.Cacheless processBatch := by
  have hrecord : ∀ record, OutboxProg.OnlyIssues OutboxStmt.Cacheless (processRecord record) := by
    intro record
    refine (issues_call trivial).bind fun outcome => ?_
    cases outcome with
    | delivered =>
      refine (issues_call trivial).bind fun (now : Time) => ?_
      refine (issues_call trivial).bind fun done => ?_
      cases done with
      | ok done => trivial
      | error e => trivial
    | raised error => exact OutboxProg.issues_commitOrRaise trivial
  have hrecords : ∀ records,
      OutboxProg.OnlyIssues OutboxStmt.Cacheless (processRecords records) := by
    intro records
    induction records with
    | nil => trivial
    | cons record records ih => exact (hrecord record).bind fun _ => ih
  exact (issues_call trivial).bind hrecords

/-- A letter is put back without a cache and without a send. -/
theorem still_retryFailedEmail (emailId : ℕ) :
    OutboxProg.OnlyIssues (fun s => s.Still ∧ s.Cacheless)
      (PendingEmailService.retryFailedEmail emailId) := by
  refine (issues_call ⟨trivial, trivial⟩).bind fun reply => ?_
  cases reply with
  | none => trivial
  | some email => exact OutboxProg.issues_commitOrRaise ⟨trivial, trivial⟩

/-- The reader of a letter changes nothing but the cache. -/
theorem readsOnly_getEmailById (emailId : ℕ) :
    OutboxProg.OnlyIssues OutboxStmt.ReadsOnly (PendingEmailService.getEmailById emailId) := by
  refine (issues_call trivial).bind fun cached => ?_
  cases cached with
  | some value => cases value <;> trivial
  | none =>
    refine (issues_call trivial).bind fun reply => ?_
    cases reply with
    | none => trivial
    | some email => exact (issues_call trivial).bind fun _ => trivial

end SmsLite
