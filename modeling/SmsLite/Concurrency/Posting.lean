import SmsLite.Concurrency.Pools
import SmsLite.Secrets.Letters

/-!
# Which transactions post the secrets they store

A secret is kept as a hash; its text exists only in the mail it goes out in.  A transaction
posts a secret when the row that stores the hash and the outbox row that carries the text are
written by the same commit.  What a request may commit is again a walk along its statements,
here without a typestate: it is a condition on each commit by itself.

## Main definitions

* `Db.secretHash`, `UnitOfWork.Stores` — the hash of a secret, and a fresh one.
* `UnitOfWork.Posted` — every fresh hash is posted by the transaction that stores it.
* `Request.Bypasses` — the two commits that post nothing.

## Main results

* `Db.commit_secretHash`, `Db.commit_rows` — what a commit does to the hashes and the outbox.
* `Request.outboxes` — **every request posts what it stores**, but for the two.
-/

namespace SmsLite

open Interleave

variable {env : Env}

/-! ### Hashes -/

/-- The hash of a secret in the rows that may hold it. -/
def SecretKind.hash? (kind : SecretKind) (activation : Option UserActivation)
    (session : Option UserSession) : Option String :=
  match kind with
  | .invite => activation.bind (·.inviteTokenHash)
  | .resetPassword => session.bind (·.resetPasswordTokenHash)
  | .emailChange => session.bind (·.emailChangeCodeHash)

/-- The hash of a secret in the tables. -/
def Db.secretHash (db : Db) (u : UserId) (kind : SecretKind) : Option String :=
  kind.hash? (Keyed.get? db.activations u) (Keyed.get? db.sessions u)

/-- The mail is for the user and carries the secret behind the hash. -/
def NewPendingEmail.Conveys (env : Env) (u : UserId) (kind : SecretKind) (hash : String)
    (e : NewPendingEmail) : Prop :=
  e.recipientUserId = some u ∧
    ∃ secret, e.content.secret? = some (kind, secret) ∧ env.sha256 secret = hash

namespace UnitOfWork

/-- The rows a unit of work inserts into the outbox. -/
def emails : UnitOfWork → List NewPendingEmail
  | update _ _ emails => emails
  | register _ _ _ _ email => [email]

/-- The unit of work stores a hash that its rows did not hold when they were loaded. -/
def Stores (u : UserId) (kind : SecretKind) (hash : String) : UnitOfWork → Prop
  | update l d _ =>
    l.user.id = u ∧ kind.hash? d.activation d.session = some hash ∧
      kind.hash? l.activation l.session ≠ some hash
  | register _ activation session _ _ =>
    kind.hash? (Keyed.get? [activation] u) (Keyed.get? [session] u) = some hash

/-- Every hash it stores is that of a secret in one of its mails. -/
def Posted (env : Env) (work : UnitOfWork) : Prop :=
  ∀ u kind hash, work.Stores u kind hash → ∃ e ∈ work.emails, e.Conveys env u kind hash

/-- A unit of work that stores no hash. -/
theorem posted_of_keeps {l : Loaded} {d : Dirty} {mails : List NewPendingEmail}
    (h : ∀ (kind : SecretKind) hash, kind.hash? d.activation d.session = some hash →
      kind.hash? l.activation l.session = some hash) : (update l d mails).Posted env :=
  fun _ kind hash ⟨_, hnew, hold⟩ => absurd (h kind hash hnew) hold

end UnitOfWork

/-! ### What a commit does to them -/

/-- A flush leaves a column as it is, or sets it to a value it did not have. -/
theorem written_cases {α : Type} [DecidableEq α] (loaded current stored : α) :
    written loaded current stored = stored ∨
      written loaded current stored = current ∧ current ≠ loaded := by
  by_cases h : current = loaded
  · subst h
    exact Or.inl (written_self _ _)
  · exact Or.inr ⟨written_of_ne stored h, h⟩

/-- A column of a companion row after a flush. -/
theorem flushRow_column {α : Type} [Keyed α UserId] {write : α → α → α → α}
    (hkey : ∀ l c s, Keyed.key (write l c s) = Keyed.key s) {column : α → Option String}
    (hwrite : ∀ l c s, column (write l c s) = written (column l) (column c) (column s))
    {id u : UserId} {l c : Option α} {table : List α} {hash : String}
    (h : (Keyed.get? (flushRow write id l c table) u).bind column = some hash) :
    (Keyed.get? table u).bind column = some hash ∨
      id = u ∧ c.bind column = some hash ∧ l.bind column ≠ some hash := by
  cases l with
  | none => exact Or.inl h
  | some l =>
    cases c with
    | none => exact Or.inl h
    | some c =>
      simp only [flushRow] at h
      -- Only the row of the flushed object can change, and only in a column that was assigned.
      by_cases hu : u = id
      · subst hu
        rw [Keyed.get?_modify_self _ _ (hkey l c)] at h
        obtain ⟨_, hrow', hcolumn⟩ := Option.bind_eq_some_iff.mp h
        obtain ⟨row, hrow, rfl⟩ := Option.map_eq_some_iff.mp hrow'
        rw [hwrite] at hcolumn
        rcases written_cases (column l) (column c) (column row) with hsame | ⟨hnew, hne⟩
        · rw [hsame] at hcolumn
          exact Or.inl (by rw [hrow]; exact hcolumn)
        · rw [hnew] at hcolumn
          refine Or.inr ⟨rfl, hcolumn, ?_⟩
          rw [Option.bind_some, ← hcolumn]
          exact hne.symm
      · rw [Keyed.get?_modify_ne _ hu (hkey l c)] at h
        exact Or.inl h

/-- The row of a key in a table that has grown by a row. -/
theorem get?_concat_bind {α β : Type} [Keyed α UserId] (table : List α) (row : α) (u : UserId)
    {column : α → Option β} {value : β}
    (h : (Keyed.get? (table ++ [row]) u).bind column = some value) :
    (Keyed.get? table u).bind column = some value ∨
      (Keyed.get? [row] u).bind column = some value := by
  rw [Keyed.get?, List.find?_append] at h
  change ((Keyed.get? table u).or (Keyed.get? [row] u)).bind column = some value at h
  cases hget : Keyed.get? table u with
  | none =>
    rw [hget, Option.none_or] at h
    exact Or.inr h
  | some r =>
    rw [hget, Option.some_or] at h
    exact Or.inl h

/-- **A hash after a commit** was there before, or the unit of work stores it. -/
theorem Db.commit_secretHash {db db' : Db} {now : Time} {work : UnitOfWork}
    (h : db.commit now work = .ok db') {u : UserId} {kind : SecretKind} {hash : String}
    (hafter : db'.secretHash u kind = some hash) :
    db.secretHash u kind = some hash ∨ work.Stores u kind hash := by
  cases work with
  | update l d mails =>
    obtain ⟨user, -, -, -, hsessions, hactivations, -⟩ := Db.commit_update h
    simp only [secretHash, hsessions, hactivations] at hafter
    cases kind with
    | invite => exact flushRow_column UserActivation.key_write (fun _ _ _ => rfl) hafter
    | resetPassword => exact flushRow_column UserSession.key_write (fun _ _ _ => rfl) hafter
    | emailChange => exact flushRow_column UserSession.key_write (fun _ _ _ => rfl) hafter
  | register user activation session loginLockout email =>
    obtain ⟨-, -, hsessions, hactivations, -⟩ := Db.commit_register h
    simp only [secretHash, hsessions, hactivations] at hafter
    cases kind with
    | invite => exact get?_concat_bind _ _ _ hafter
    | resetPassword => exact get?_concat_bind _ _ _ hafter
    | emailChange => exact get?_concat_bind _ _ _ hafter

/-- A commit appends its mails to the outbox, each waiting to be sent for the first time. -/
theorem Db.commit_rows {db db' : Db} {now : Time} {work : UnitOfWork}
    (h : db.commit now work = .ok db') :
    ∃ rows, db'.pendingEmails = db.pendingEmails ++ rows ∧ rows.map (·.posted) = work.emails ∧
      ∀ r ∈ rows, r.status = .pending ∧ r.retryCount = 0 := by
  cases work with
  | update l d mails =>
    simp only [commit] at h
    split at h
    · cases h
    · split at h
      · cases h
      · split at h
        · cases h
        · split at h
          · cases h
          · cases h
            exact Db.insertEmails_rows _ now mails
  | register user activation session loginLockout email =>
    simp only [commit] at h
    split at h
    · cases h
    · split at h
      · cases h
      · split at h
        · cases h
        · cases h
          exact Db.insertEmails_rows _ now [email]

/-! ### What the requests commit -/

/-- The two commits whose secret goes to a background task only. -/
def Request.Bypasses : Request → UnitOfWork → Prop
  | createForgotPasswordRequest _, .update _ _ _ => True
  | updateMeCredentials _ updateRequest, .update l _ _ => (updateRequest.newEmail l.user).isSome
  | _, _ => False

/-- A request may issue any statement but a commit that posts less than it stores. -/
def Request.MayIssue (env : Env) (r : Request) : Stmt → Prop
  | .commit work => r.Bypasses work ∨ work.Posted env
  | _ => True

/-- A query by id answers for that id. -/
def Stmt.Truthful : (s : Stmt) → s.Reply → Prop
  | .selectUserById id _, reply => ∀ l, reply = some l → l.user.id = id
  | _, _ => True

theorem exec_truthful (env : Env) (s : Stmt) (w : World) : s.Truthful (exec env s w).1 := by
  cases s with
  | selectUserById id q => exact fun l hl => (Db.selectUserById_shows hl).2
  | _ => trivial

/-- Whatever the request does, it posts what it stores. -/
def Request.Outboxes {α : Type} (env : Env) (r : Request) (p : Service α) : Prop :=
  Prog.Issues (r.MayIssue env) Stmt.Truthful p

section Rules

variable {α β : Type} {r : Request}

theorem outboxes_raise (e : Exn) : r.Outboxes env (raise e : Service α) := trivial

theorem outboxes_pure (a : α) : r.Outboxes env (pure a : Service α) := trivial

/-- A statement that is no commit. -/
theorem outboxes_call {s : Stmt} {f : s.Reply → Service β} (hs : r.MayIssue env s)
    (h : ∀ reply, r.Outboxes env (f reply)) : r.Outboxes env (Prog.call s >>= f) :=
  Prog.issues_stmt.mpr ⟨hs, fun reply _ => h reply⟩

theorem outboxes_getUserById {id : UserId} {q : UserQuery} {f : Option Loaded → Service β}
    (h : ∀ reply, (∀ l, reply = some l → l.user.id = id) → r.Outboxes env (f reply)) :
    r.Outboxes env (getUserById id q >>= f) := Prog.issues_stmt.mpr ⟨trivial, h⟩

theorem outboxes_deref {name : String} {obj : Option α} {f : α → Service β}
    (h : ∀ a, obj = some a → r.Outboxes env (f a)) : r.Outboxes env (deref name obj >>= f) := by
  cases obj with
  | none => exact outboxes_raise _
  | some a => exact h a rfl

theorem outboxes_ofExcept {x : Except Exn α} {f : α → Service β}
    (h : ∀ a, r.Outboxes env (f a)) : r.Outboxes env (ofExcept x >>= f) := by
  cases x with
  | error e => exact outboxes_raise _
  | ok a => exact h a

theorem outboxes_ensureExists {obj : Option α} {e : Exn} {f : α → Service β}
    (h : ∀ a, obj = some a → r.Outboxes env (f a)) :
    r.Outboxes env (ensureExists obj e >>= f) := by
  cases obj with
  | none => exact outboxes_raise _
  | some a => exact h a rfl

theorem outboxes_hashPassword {password : String} {f : String → Service β}
    (h : ∀ hash, r.Outboxes env (f hash)) : r.Outboxes env (hashPassword password >>= f) :=
  outboxes_call trivial fun _ => outboxes_ofExcept h

theorem outboxes_verifyPassword {plain : String} {hashed : Option String} {f : Bool → Service β}
    (h : ∀ valid, r.Outboxes env (f valid)) :
    r.Outboxes env (verifyPassword plain hashed >>= f) :=
  outboxes_call trivial fun _ => outboxes_ofExcept h

/-- The two ways to commit. -/
theorem outboxes_tryCommit {work : UnitOfWork} {f : Except DbError Unit → Service β}
    (hwork : r.Bypasses work ∨ work.Posted env) (h : ∀ reply, r.Outboxes env (f reply)) :
    r.Outboxes env (tryCommit work >>= f) := outboxes_call hwork h

theorem outboxes_commitOrRaise {work : UnitOfWork} {f : Unit → Service β}
    (hwork : r.Bypasses work ∨ work.Posted env) (h : r.Outboxes env (f ())) :
    r.Outboxes env (commitOrRaise work >>= f) := by
  refine outboxes_tryCommit hwork fun reply => ?_
  cases reply with
  | ok done => exact h
  | error e => exact outboxes_raise _

/-- The same as the last statement of a program. -/
theorem outboxes_commitOrRaise' {work : UnitOfWork}
    (hwork : r.Bypasses work ∨ work.Posted env) : r.Outboxes env (commitOrRaise work) := by
  refine outboxes_tryCommit hwork fun reply => ?_
  cases reply with
  | ok done => exact outboxes_pure _
  | error e => exact outboxes_raise _

theorem outboxes_refresh (id : UserId) : r.Outboxes env (refresh id) := by
  refine outboxes_call trivial fun reply => ?_
  cases reply with
  | none => exact outboxes_raise _
  | some u => exact outboxes_pure _

theorem outboxes_onlyIf {condition : Bool} {p : Service Unit} (h : r.Outboxes env p) :
    r.Outboxes env (onlyIf condition p) := by
  cases condition with
  | false => exact outboxes_pure _
  | true => exact h

/-! ### The helpers without a commit -/

theorem outboxes_acquireStudentContactLock (phoneNumber email : Option String) :
    r.Outboxes env (acquireStudentContactLock env phoneNumber email) := by
  have hlock : ∀ (lock : String → AdvisoryLock) (text : Option String),
      r.Outboxes env (acquireLockFor lock text) := by
    intro lock text
    cases text with
    | none => exact outboxes_pure _
    | some text => exact Prog.issues_ite (fun _ => trivial) fun _ => Prog.issues_call trivial
  exact (hlock _ _).bind fun _ => hlock _ _

theorem outboxes_checkContactLimit (phoneNumber email : Option String) (role : Option UserRole)
    (maxAllowed : ℕ) (exclude : Option UserId) :
    r.Outboxes env (checkContactLimit phoneNumber email role maxAllowed exclude) := by
  have hcheck : ∀ (contact : Option Contact) (students teachers : Exn),
      r.Outboxes env (checkContact role contact maxAllowed exclude students teachers) := by
    intro contact students teachers
    cases contact with
    | none => exact outboxes_pure _
    | some contact =>
      refine outboxes_call trivial fun (count : ℕ) => ?_
      exact Prog.issues_ite (fun _ => trivial) fun _ => trivial
  exact (hcheck _ _ _).bind fun _ => hcheck _ _ _

theorem outboxes_checkStudentContact (applies : Bool) (phoneNumber email : Option String)
    (exclude : UserId) :
    r.Outboxes env (checkStudentContact env applies phoneNumber email exclude) :=
  outboxes_onlyIf ((outboxes_acquireStudentContactLock _ _).bind fun _ =>
    outboxes_checkContactLimit _ _ _ _ _)

theorem outboxes_exceptIntegrityError (mapsUsername mapsContacts : Bool) (e : DbError) :
    r.Outboxes env (exceptIntegrityError mapsUsername mapsContacts e : Service α) := by
  cases e with
  | data orig => exact outboxes_raise _
  | integrity orig =>
    refine outboxes_call trivial fun _ => (outboxes_onlyIf ?_).bind fun _ =>
      (outboxes_onlyIf ?_).bind fun _ => outboxes_raise _
    · exact Prog.issues_ite (fun _ => trivial) fun _ => trivial
    · exact Prog.issues_ite (fun _ => trivial) fun _ => Prog.issues_ite (fun _ => trivial) fun _ =>
        trivial

theorem outboxes_updateObject (instance_ assigned : UserDraft) :
    r.Outboxes env (updateObject instance_ assigned) :=
  Prog.issues_ite (fun _ => trivial) fun _ => trivial

/-- The cached readers commit nothing. -/
theorem outboxes_cachedDetail (cacheKey : CacheKey) (id : UserId) (q : UserQuery)
    (validate : CacheValue → Option α) (project : Loaded → CacheValue) (respond : Loaded → α) :
    r.Outboxes env (cachedDetail cacheKey id q validate project respond) := by
  refine outboxes_call trivial fun reply => ?_
  cases reply with
  | some cached =>
    dsimp only
    cases validate cached with
    | some response => exact outboxes_pure _
    | none => exact outboxes_raise _
  | none =>
    refine outboxes_getUserById fun reply _ => outboxes_ensureExists fun user _ => ?_
    exact outboxes_call trivial fun _ => outboxes_pure _

/-- A new invite is in the mail that `reissue_invite` makes. -/
theorem outboxes_reissueInvite {by_ : UserId} {l : Loaded} {username email : Option String}
    {f : UserActivation × NewPendingEmail → Service β}
    (h : ∀ (secret : String) (invite : UserActivation × NewPendingEmail),
      invite.1.inviteTokenHash = some (env.sha256 secret) →
      invite.2.content.secret? = some (.invite, secret) →
      invite.2.recipientUserId = some l.user.id → r.Outboxes env (f invite)) :
    r.Outboxes env (reissueInvite env by_ l username email >>= f) := by
  unfold reissueInvite
  refine outboxes_call trivial fun (secret : String) => outboxes_call trivial fun (now : Time) => ?_
  cases l.activation with
  | none => exact outboxes_raise _
  | some activation => exact h secret _ rfl rfl rfl

end Rules

/-! ### One operation after the other -/

theorem outboxes_invalidateAllTokens {r : Request} (identity : Option Loaded) (id : UserId) :
    r.Outboxes env (invalidateAllTokens identity id) := by
  unfold invalidateAllTokens
  refine outboxes_getUserById fun reply _ => ?_
  cases reply with
  | none => exact outboxes_pure _
  | some loaded =>
    refine outboxes_deref fun session hsession => outboxes_commitOrRaise (Or.inr ?_) ?_
    · refine UnitOfWork.posted_of_keeps fun kind hash h => ?_
      cases kind <;> simpa [SecretKind.hash?, Loaded.dirty, UserSession.revoked, hsession] using h
    · exact Prog.issues_call trivial

theorem outboxes_openSession {r : Request} {user : Loaded} {session : UserSession}
    {loginLockout : Option UserLoginLockout} (hsession : user.session = some session) :
    r.Outboxes env (openSession env user session loginLockout) := by
  unfold openSession
  refine outboxes_call trivial fun (family : String) => outboxes_call trivial fun (now : Time) => ?_
  refine outboxes_call trivial fun (jti : String) => outboxes_call trivial fun (now' : Time) => ?_
  refine outboxes_call trivial fun (now'' : Time) => outboxes_commitOrRaise (Or.inr ?_) ?_
  · refine UnitOfWork.posted_of_keeps fun kind hash h => ?_
    cases kind <;> simpa [SecretKind.hash?, Loaded.dirty, hsession] using h
  · exact (outboxes_refresh _).bind fun _ => outboxes_pure _

theorem outboxes_login {r : Request} (formData : LoginForm) :
    r.Outboxes env (login env formData) := by
  unfold login
  split
  · refine outboxes_call trivial fun reply => ?_
    cases reply with
    | none => exact outboxes_raise _
    | some user =>
      refine outboxes_deref fun loginLockout _ => outboxes_call trivial fun (now : Time) => ?_
      split
      · exact outboxes_raise _
      · refine Prog.issues_ite (fun _ => outboxes_raise _) fun _ => ?_
        refine Prog.issues_ite (fun _ => outboxes_raise _) fun _ => ?_
        refine outboxes_verifyPassword fun valid => Prog.issues_ite (fun _ => ?_) fun _ => ?_
        · refine outboxes_call trivial fun (now' : Time) => outboxes_commitOrRaise (Or.inr ?_) ?_
          · exact UnitOfWork.posted_of_keeps fun kind hash h => h
          · exact outboxes_raise _
        · refine Prog.issues_ite (fun _ => outboxes_raise _) fun _ => ?_
          exact outboxes_deref fun session hsession => outboxes_openSession hsession
  · exact outboxes_raise _

theorem outboxes_activateAccount {r : Request} (request : ActivateAccountWithToken) :
    r.Outboxes env (activateAccount env request) := by
  unfold activateAccount
  refine outboxes_call trivial fun reply => ?_
  cases reply with
  | none => exact outboxes_raise _
  | some user =>
    refine outboxes_deref fun activation hactivation => ?_
    split
    · exact outboxes_raise _
    · refine outboxes_call trivial fun (now : Time) => ?_
      split
      · exact outboxes_raise _
      · refine outboxes_ofExcept fun valid => Prog.issues_ite (fun _ => outboxes_raise _)
          fun _ => ?_
        refine outboxes_hashPassword fun hash => outboxes_commitOrRaise (Or.inr ?_) ?_
        · -- The invite it clears is the only secret it touches.
          refine UnitOfWork.posted_of_keeps fun kind hash h => ?_
          cases kind with
          | invite => cases h
          | resetPassword => exact h
          | emailChange => exact h
        · exact (outboxes_refresh _).bind fun _ => outboxes_pure _

theorem outboxes_refreshToken {r : Request} (token family : String) :
    r.Outboxes env (refreshToken env token family) := by
  unfold refreshToken
  refine outboxes_call trivial fun (now : Time) => outboxes_ofExcept fun userId => ?_
  refine outboxes_getUserById fun reply _ => ?_
  cases reply with
  | none => exact outboxes_raise _
  | some user =>
    refine outboxes_deref fun session hsession => ?_
    split
    · refine outboxes_call trivial fun (now' : Time) => ?_
      refine Prog.issues_ite (fun _ => outboxes_raise _) fun _ => ?_
      refine outboxes_ofExcept fun familyValid => outboxes_ofExcept fun hashValid => ?_
      refine Prog.issues_ite (fun _ => ?_) fun _ => outboxes_openSession hsession
      exact (outboxes_invalidateAllTokens _ _).bind fun _ => outboxes_raise _
    · exact outboxes_raise _

theorem outboxes_resetPassword {r : Request} (request : ResetPassword) :
    r.Outboxes env (resetPassword env request) := by
  unfold resetPassword
  refine outboxes_call trivial fun reply => ?_
  cases reply with
  | none => exact outboxes_raise _
  | some user =>
    refine outboxes_deref fun session hsession => outboxes_call trivial fun (now : Time) => ?_
    split
    · exact outboxes_raise _
    · refine outboxes_ofExcept fun valid => Prog.issues_ite (fun _ => outboxes_raise _) fun _ => ?_
      refine outboxes_hashPassword fun hash => outboxes_deref fun loginLockout _ => ?_
      refine outboxes_commitOrRaise (Or.inr ?_) ?_
      · refine UnitOfWork.posted_of_keeps fun kind hash h => ?_
        cases kind with
        | invite => exact h
        | resetPassword => cases h
        | emailChange =>
          simpa [SecretKind.hash?, Loaded.dirty, UserSession.revoked, hsession] using h
      · exact (outboxes_refresh _).bind fun _ => Prog.issues_call trivial

/-- The reset token goes to a background task, after the commit. -/
theorem outboxes_createForgotPasswordRequest (request : ForgotPasswordPublicRequest) :
    (Request.createForgotPasswordRequest request).Outboxes env
      (createForgotPasswordRequest env request) := by
  unfold createForgotPasswordRequest
  refine outboxes_call trivial fun reply => outboxes_call trivial fun (secret : String) => ?_
  cases reply with
  | none => exact outboxes_pure _
  | some user =>
    obtain ⟨u, _ | session, a, lo, g⟩ := user
    · exact outboxes_pure _
    · refine outboxes_call trivial fun (now : Time) => ?_
      refine outboxes_commitOrRaise (Or.inl trivial) ?_
      exact outboxes_call trivial fun _ => outboxes_pure _

theorem outboxes_getCurrentUser {r : Request} (token : String) :
    r.Outboxes env (getCurrentUser env token) := by
  unfold getCurrentUser
  refine outboxes_call trivial fun (now : Time) => outboxes_ofExcept fun subject => ?_
  obtain ⟨userId, version, role⟩ := subject
  refine outboxes_call trivial fun cached => ?_
  cases role with
  | none => exact outboxes_raise _
  | some role =>
    cases cached with
    | some value =>
      cases value with
      | version cachedVersion =>
        exact Prog.issues_ite (fun _ => outboxes_raise _) fun _ => outboxes_pure _
      | _ => exact outboxes_raise _
    | none =>
      refine outboxes_getUserById fun reply _ => ?_
      cases reply with
      | none => exact outboxes_raise _
      | some user =>
        refine outboxes_deref fun session _ => Prog.issues_ite (fun _ => outboxes_raise _)
          fun _ => ?_
        refine Prog.issues_ite (fun _ => outboxes_raise _) fun _ => ?_
        exact outboxes_call trivial fun _ => outboxes_pure _

theorem outboxes_registerUser {r : Request} (by_ : UserId) (request : CreateUserRequest) :
    r.Outboxes env (registerUser env by_ request) := by
  unfold registerUser
  refine (outboxes_onlyIf (outboxes_acquireStudentContactLock _ _)).bind fun _ => ?_
  refine (outboxes_checkContactLimit _ _ _ _ _).bind fun _ => ?_
  refine outboxes_call trivial fun (secret : String) => outboxes_call trivial fun (now : Time) => ?_
  refine outboxes_call trivial fun reply => ?_
  cases reply with
  | error e => exact outboxes_exceptIntegrityError _ _ e
  | ok id =>
    refine outboxes_tryCommit (Or.inr ?_) fun reply => ?_
    · rintro u kind hash hstores
      -- Of the new rows only the activation holds a hash.
      cases kind with
      | invite =>
        obtain ⟨row, hrow, hhash⟩ := Option.bind_eq_some_iff.mp hstores
        obtain rfl := List.mem_singleton.mp (Keyed.mem_of_get? hrow)
        obtain rfl : id = u := Keyed.key_of_get? hrow
        exact ⟨_, List.mem_singleton_self _, rfl, secret, rfl, Option.some.inj hhash⟩
      | resetPassword =>
        obtain ⟨row, hrow, hhash⟩ := Option.bind_eq_some_iff.mp hstores
        obtain rfl := List.mem_singleton.mp (Keyed.mem_of_get? hrow)
        cases hhash
      | emailChange =>
        obtain ⟨row, hrow, hhash⟩ := Option.bind_eq_some_iff.mp hstores
        obtain rfl := List.mem_singleton.mp (Keyed.mem_of_get? hrow)
        cases hhash
    · cases reply with
      | error e => exact outboxes_exceptIntegrityError _ _ e
      | ok done => exact outboxes_refresh _

theorem outboxes_updateUser {r : Request} (id : UserId) (request : UpdateUserRequest) :
    r.Outboxes env (updateUser env id request) := by
  unfold updateUser
  refine outboxes_getUserById fun reply _ => outboxes_ensureExists fun user _ => ?_
  refine Prog.issues_ite (fun _ => outboxes_raise _) fun _ => ?_
  refine (outboxes_checkStudentContact _ _ _ _).bind fun _ => ?_
  refine (outboxes_updateObject _ _).bind fun draft =>
    outboxes_tryCommit (Or.inr ?_) fun reply => ?_
  · exact UnitOfWork.posted_of_keeps fun kind hash h => h
  · cases reply with
    | error e => exact outboxes_exceptIntegrityError _ _ e
    | ok done =>
      refine (outboxes_refresh _).bind fun refreshed => outboxes_call trivial fun _ => ?_
      exact Prog.issues_call trivial

/-- A commit of a new invite that sets no other secret. -/
theorem posted_reissued {l : Loaded} {d : Dirty} {activation : UserActivation}
    {mail : NewPendingEmail} {secret : String}
    (hsession : ∀ kind : SecretKind, kind ≠ .invite → ∀ hash,
      kind.hash? d.activation d.session = some hash →
        kind.hash? l.activation l.session = some hash)
    (hactivation : d.activation = some activation)
    (hhash : activation.inviteTokenHash = some (env.sha256 secret))
    (hcontent : mail.content.secret? = some (.invite, secret))
    (hrecipient : mail.recipientUserId = some l.user.id) :
    (UnitOfWork.update l d [mail]).Posted env := by
  rintro u kind hash ⟨rfl, hnew, hold⟩
  cases kind with
  | invite =>
    refine ⟨mail, List.mem_singleton_self _, hrecipient, secret, hcontent, ?_⟩
    simp only [SecretKind.hash?, hactivation, Option.bind_some, hhash] at hnew
    exact Option.some.inj hnew
  | resetPassword => exact absurd (hsession _ (by decide) hash hnew) hold
  | emailChange => exact absurd (hsession _ (by decide) hash hnew) hold

theorem outboxes_updateUserCredentials {r : Request} (by_ id : UserId)
    (request : UpdateUserCredentials) :
    r.Outboxes env (updateUserCredentials env by_ id request) := by
  unfold updateUserCredentials
  refine outboxes_getUserById fun reply _ => outboxes_ensureExists fun user _ => ?_
  refine (outboxes_checkStudentContact _ _ _ _).bind fun _ => ?_
  refine (outboxes_updateObject _ _).bind fun draft => outboxes_deref fun session hsession => ?_
  -- Neither the reset token nor a code is set anew.
  have hkeeps : ∀ (activation : Option UserActivation) (kind : SecretKind), kind ≠ .invite →
      ∀ hash, kind.hash? activation (some session.overridden) = some hash →
        kind.hash? user.activation user.session = some hash := by
    intro activation kind hkind hash h
    cases kind with
    | invite => exact absurd rfl hkind
    | resetPassword => rw [hsession]; exact h
    | emailChange => cases h
  have hrest : ∀ {after : Except DbError Unit → Service Unit},
      after (.ok ()) = deleteCache (.accessTokenVersionKey id :: userDetailKeys id) →
      (∀ e, after (.error e) = exceptIntegrityError true (!decide (user.user.role = .student)) e) →
      ∀ reply, r.Outboxes env (after reply) := by
    intro after hok herr reply
    cases reply with
    | error e =>
      rw [herr]
      exact outboxes_exceptIntegrityError _ _ e
    | ok done =>
      rw [hok]
      exact Prog.issues_call trivial
  refine Prog.issues_ite (fun _ => ?_) fun _ => ?_
  · refine outboxes_reissueInvite fun secret invite hhash hcontent hrecipient => ?_
    exact outboxes_tryCommit (Or.inr (posted_reissued (hkeeps _) rfl hhash hcontent hrecipient))
      (hrest rfl fun _ => rfl)
  · refine outboxes_tryCommit (Or.inr (UnitOfWork.posted_of_keeps fun kind hash h => ?_))
      (hrest rfl fun _ => rfl)
    cases kind with
    | invite => exact h
    | resetPassword => exact hkeeps user.activation _ (by decide) hash h
    | emailChange => exact hkeeps user.activation _ (by decide) hash h

theorem outboxes_deactivateUser {r : Request} (id : UserId) :
    r.Outboxes env (deactivateUser id) := by
  unfold deactivateUser
  refine outboxes_getUserById fun reply _ => outboxes_ensureExists fun user _ => ?_
  refine Prog.issues_ite (fun _ => outboxes_raise _) fun _ => ?_
  refine outboxes_deref fun session hsession => ?_
  refine outboxes_commitOrRaise (Or.inr ?_) ?_
  · refine UnitOfWork.posted_of_keeps fun kind hash h => ?_
    cases kind <;> simpa [SecretKind.hash?, Loaded.dirty, UserSession.revoked, hsession] using h
  · exact outboxes_call trivial fun _ => Prog.issues_call trivial

theorem outboxes_activateUser {r : Request} (id : UserId) : r.Outboxes env (activateUser id) := by
  unfold activateUser
  refine outboxes_getUserById fun reply _ => outboxes_ensureExists fun user _ => ?_
  refine Prog.issues_ite (fun _ => outboxes_raise _) fun _ => outboxes_deref fun lockout _ => ?_
  refine outboxes_commitOrRaise (Or.inr ?_) ?_
  · exact UnitOfWork.posted_of_keeps fun kind hash h => h
  · exact outboxes_call trivial fun _ => Prog.issues_call trivial

/-- The reset token is in the row it inserts, which is for the user it names. -/
theorem outboxes_createResetPasswordRequest {r : Request} (by_ id : UserId) :
    r.Outboxes env (createResetPasswordRequest env by_ id) := by
  unfold createResetPasswordRequest
  refine outboxes_getUserById fun reply hreply => outboxes_ensureExists fun user huser => ?_
  refine outboxes_call trivial fun (secret : String) => outboxes_deref fun session hsession => ?_
  refine outboxes_call trivial fun (now : Time) => outboxes_commitOrRaise' (Or.inr ?_)
  rintro u kind hash ⟨rfl, hnew, hold⟩
  cases kind with
  | invite => exact absurd hnew hold
  | resetPassword =>
    refine ⟨_, List.mem_singleton_self _, ?_, secret, rfl, Option.some.inj hnew⟩
    exact congrArg some (hreply user huser).symm
  | emailChange => exact absurd (by rw [hsession]; exact hnew) hold

theorem outboxes_resendActivationInvite {r : Request} (by_ id : UserId) :
    r.Outboxes env (resendActivationInvite env by_ id) := by
  unfold resendActivationInvite
  refine outboxes_getUserById fun reply _ => outboxes_ensureExists fun user _ => ?_
  refine Prog.issues_ite (fun _ => outboxes_raise _) fun _ => ?_
  refine outboxes_reissueInvite fun secret invite hhash hcontent hrecipient => ?_
  refine outboxes_commitOrRaise' (Or.inr (posted_reissued ?_ rfl hhash hcontent hrecipient))
  intro kind hkind hash h
  cases kind with
  | invite => exact absurd rfl hkind
  | resetPassword => exact h
  | emailChange => exact h

/-- The code goes to a background task, after the commit. -/
theorem outboxes_updateMeCredentials (id : UserId) (request : UpdateUserCredentials) :
    (Request.updateMeCredentials id request).Outboxes env (updateMeCredentials env id request) := by
  unfold updateMeCredentials
  refine outboxes_getUserById fun reply _ => outboxes_ensureExists fun user _ => ?_
  refine Prog.issues_ite (fun _ => outboxes_raise _) fun _ => ?_
  refine outboxes_deref fun session hsession => ?_
  refine outboxes_call trivial fun (now : Time) => ?_
  refine Prog.issues_ite (fun _ => outboxes_raise _) fun _ => ?_
  have hcommit : ∀ (draft : UserDraft) (session' : UserSession) (change : Option EmailChange),
      (Request.updateMeCredentials id request).Bypasses
          (.update user { user.dirty with user := draft, session := some session' } []) ∨
        (UnitOfWork.update user { user.dirty with user := draft, session := some session' }
          []).Posted env →
      (Request.updateMeCredentials id request).Outboxes env
        (commitMyCredentials user draft session' (request.newUsername user.user).isSome
          change) := by
    intro draft session' change hwork
    refine outboxes_tryCommit hwork fun reply => ?_
    cases reply with
    | error e => exact outboxes_exceptIntegrityError _ _ e
    | ok done =>
      refine (outboxes_refresh _).bind fun _ => ?_
      have hdrop : (Request.updateMeCredentials id request).Outboxes env (do
          deleteCache (userDetailKeys user.user.id)
          onlyIf (request.newUsername user.user).isSome
            (deleteCache [.accessTokenVersionKey user.user.id])) :=
        outboxes_call trivial fun _ => outboxes_onlyIf (Prog.issues_call trivial)
      cases change with
      | none => exact hdrop
      | some change => exact outboxes_call trivial fun _ => hdrop
  cases hemail : request.newEmail user.user with
  | none =>
    refine hcommit _ _ none (Or.inr (UnitOfWork.posted_of_keeps fun kind hash h => ?_))
    simp only [Option.elim_none] at h
    split at h
    · cases kind <;> simpa [SecretKind.hash?, Loaded.dirty, hsession] using h
    · cases kind <;> simpa [SecretKind.hash?, Loaded.dirty, hsession] using h
  | some newEmail =>
    refine outboxes_call trivial fun (r : Fin 900000) =>
      outboxes_call trivial fun (now' : Time) => ?_
    refine hcommit _ _ (some _) (Or.inl ?_)
    exact Option.isSome_iff_exists.mpr ⟨newEmail, hemail⟩

theorem outboxes_confirmEmailChange {r : Request} (id : UserId) (request : ConfirmEmailChange) :
    r.Outboxes env (confirmEmailChange env id request) := by
  unfold confirmEmailChange
  refine outboxes_getUserById fun reply _ => outboxes_ensureExists fun user _ => ?_
  refine outboxes_deref fun session hsession => ?_
  split
  · refine outboxes_call trivial fun (now : Time) => ?_
    split
    · exact outboxes_raise _
    · refine Prog.issues_ite (fun _ => outboxes_raise _) fun _ => outboxes_ofExcept fun valid => ?_
      refine Prog.issues_ite (fun _ => outboxes_raise _) fun _ => ?_
      refine (outboxes_checkStudentContact _ _ _ _).bind fun _ => ?_
      refine outboxes_tryCommit (Or.inr ?_) fun reply => ?_
      · refine UnitOfWork.posted_of_keeps fun kind hash h => ?_
        cases kind with
        | invite => exact h
        | resetPassword => rw [hsession]; exact h
        | emailChange => cases h
      · cases reply with
        | error e => exact outboxes_exceptIntegrityError _ _ e
        | ok done =>
          refine (outboxes_refresh _).bind fun refreshed => outboxes_call trivial fun _ => ?_
          exact Prog.issues_call trivial
  · exact outboxes_raise _

theorem outboxes_updateMePassword {r : Request} (id : UserId) (request : UpdateMePassword) :
    r.Outboxes env (updateMePassword id request) := by
  unfold updateMePassword
  refine outboxes_getUserById fun reply _ => outboxes_ensureExists fun user _ => ?_
  refine outboxes_verifyPassword fun valid => ?_
  refine Prog.issues_ite (fun _ => outboxes_raise _) fun _ => ?_
  refine outboxes_hashPassword fun hash => outboxes_deref fun session hsession => ?_
  refine outboxes_commitOrRaise (Or.inr ?_) ?_
  · refine UnitOfWork.posted_of_keeps fun kind hash h => ?_
    cases kind <;> simpa [SecretKind.hash?, Loaded.dirty, UserSession.revoked, hsession] using h
  · exact outboxes_call trivial fun _ => Prog.issues_call trivial

/-- **Every request posts what it stores**, but for the two. -/
theorem Request.outboxes (env : Env) (r : Request) : r.Outboxes env (r.service env) := by
  cases r with
  | login formData => exact (outboxes_login formData).map _
  | logout id => exact (outboxes_invalidateAllTokens none id).map _
  | activateAccount request => exact (outboxes_activateAccount request).map _
  | refreshToken token family => exact (outboxes_refreshToken token family).map _
  | resetPassword request => exact (outboxes_resetPassword request).map _
  | createForgotPasswordRequest request =>
    exact (outboxes_createForgotPasswordRequest request).map _
  | getCurrentUser token => exact (outboxes_getCurrentUser token).map _
  | registerUser by_ request => exact (outboxes_registerUser by_ request).map _
  | updateUser id request => exact (outboxes_updateUser id request).map _
  | updateUserCredentials by_ id request =>
    exact (outboxes_updateUserCredentials by_ id request).map _
  | deactivateUser id => exact (outboxes_deactivateUser id).map _
  | activateUser id => exact (outboxes_activateUser id).map _
  | createResetPasswordRequest by_ id => exact (outboxes_createResetPasswordRequest by_ id).map _
  | resendActivationInvite by_ id => exact (outboxes_resendActivationInvite by_ id).map _
  | getTeacherByIdAdmin id | getStudentByIdAdmin id | getTeacherByIdDirector id
  | getStudentByIdDirector id | getMyProfile id | getMyStudentProfile id =>
    exact (outboxes_cachedDetail _ _ _ _ _ _).map _
  | updateMeCredentials id request => exact (outboxes_updateMeCredentials id request).map _
  | confirmEmailChange id request => exact (outboxes_confirmEmailChange id request).map _
  | updateMePassword id request => exact (outboxes_updateMePassword id request).map _

end SmsLite
