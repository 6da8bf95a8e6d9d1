import SmsLite.System

/-!
# Requests as transactions

Between two statements of one request any statement of another one may run, so what a
request may rely on is only what it has seen and what it holds.  A typestate records
both, and a protocol over it says what a request does: it reads one row, commits at most
once, writes a contact only under the lock it has counted under, and touches the session
in one of four ways.

## Main definitions

* `Tx` — what a request has seen, what it holds and what it has done.
* `Tx.MayWriteUser`, `Tx.MayWriteSession`, `Tx.MayCommit` — what it may commit.
* `protocol` — the protocol of every request.
* `Tx.Obeys` — a program keeps to the protocol and returns only with a postcondition.
* `Tx.Answers` — what a request has done when it returns.

## Main results

* `obeys_commitOrRaise`, `obeys_checkStudentContact`, ... — one rule for each statement
  and each helper of the services.
-/

namespace SmsLite

open Interleave
open Interleave.Prog (Follows follows_bind follows_map)

/-! ### What a request has done so far -/

/-- What a request has seen, what it holds and what it has done. -/
structure Tx where
  request : Request
  /-- The objects its first query loaded. -/
  loaded : Option Loaded := none
  /-- What it found under the key of an access token version. -/
  cached : Option CacheValue := none
  /-- The advisory locks of the open transaction. -/
  locks : List AdvisoryLock := []
  /-- The contacts it has counted under their lock and found free, each with the user it
  left out of the count. -/
  cleared : List (Contact × Option UserId) := []
  /-- The random texts it has drawn. -/
  drawn : List String := []
  /-- What it has committed. -/
  committed : Option UnitOfWork := none
  /-- It has deleted the cached version of the loaded user since its commit. -/
  dropped : Bool := false
  /-- It has answered. -/
  ended : Bool := false

/-- The lock a contact is counted under. -/
def Contact.lock (env : Env) : Contact → AdvisoryLock
  | .phoneNumber number => phoneLock env number
  | .email address => emailLock env address

/-- The user a request names, or the subject of its token. -/
def Request.userId? (env : Env) : Request → Option UserId
  | .refreshToken token _ | .getCurrentUser token => (env.jose.decode token).bind (·.sub)
  | .logout id | .updateUser id _ | .updateUserCredentials _ id _ | .deactivateUser id
  | .activateUser id | .createResetPasswordRequest _ id | .resendActivationInvite _ id
  | .getTeacherByIdAdmin id | .getStudentByIdAdmin id | .getTeacherByIdDirector id
  | .getStudentByIdDirector id | .getMyProfile id | .getMyStudentProfile id
  | .updateMeCredentials id _ | .confirmEmailChange id _ | .updateMePassword id _ => some id
  | .login _ | .activateAccount _ | .resetPassword _ | .createForgotPasswordRequest _
  | .registerUser _ _ => none

/-- The requests that look their user up by name. -/
def Request.byUsername : Request → Bool
  | .login _ | .activateAccount _ | .resetPassword _ | .createForgotPasswordRequest _ => true
  | _ => false

/-- The requests that open a session. -/
def Request.opensSession : Request → Bool
  | .login _ | .refreshToken _ _ => true
  | _ => false

/-- The requests that do nothing to a session but revoke it. -/
def Request.revokesSession : Request → Bool
  | .logout _ | .deactivateUser _ | .resetPassword _ | .updateMePassword _ _
  | .confirmEmailChange _ _ | .updateUserCredentials _ _ _ => true
  | _ => false

/-- The columns of a session that decide which tokens are good. -/
def UserSession.secrets (s : UserSession) : ℕ × Option String :=
  (s.accessTokenVersion, s.refreshTokenHash)

namespace Tx

/-- A request that has done nothing yet. -/
def start (r : Request) : Tx := { request := r }

/-- A transaction that has ended holds no lock. -/
def unlocked (c : Tx) : Tx := { c with locks := [], cleared := [] }

/-- The request has committed. -/
def commit (c : Tx) (work : UnitOfWork) : Tx := { c.unlocked with committed := some work }

/-- The request has answered. -/
def close (c : Tx) (_ : Outcome) : Tx := { c.unlocked with ended := true }

/-- The request has neither committed nor answered. -/
def Pending (c : Tx) : Prop := c.committed = none ∧ c.ended = false

instance (c : Tx) : Decidable c.Pending :=
  inferInstanceAs (Decidable (c.committed = none ∧ c.ended = false))

/-- The version key of the loaded user is among the keys. -/
def drops (c : Tx) (keys : List CacheKey) : Bool :=
  c.committed.isSome && c.loaded.any fun l => .accessTokenVersionKey l.user.id ∈ keys

/-- The typestate after the reply to a statement. -/
def next (env : Env) (c : Tx) : (s : Stmt) → s.Reply → Tx
  | .tokenUrlsafe, text => { c with drawn := text :: c.drawn }
  | .selectUserById _ _, reply => { c with loaded := c.loaded.or reply }
  | .selectUserByUsername _ _, reply => { c with loaded := c.loaded.or reply }
  | .countUsersWithContact role contact exclude, (count : ℕ) =>
    if role = some .student ∧ contact.lock env ∈ c.locks ∧ count < studentMaxSharedContact then
      { c with cleared := (contact, exclude) :: c.cleared }
    else c
  | .advisoryLock lock, _ => { c with locks := lock :: c.locks }
  | .commit work, .ok () => c.commit work
  | .rollback, _ => c.unlocked
  | .getCache (.accessTokenVersionKey _), reply => { c with cached := reply }
  | .deleteCache keys, _ => { c with dropped := c.dropped || c.drops keys }
  | _, _ => c

/-! ### What a request may do -/

/-- A contact column may be set to a text only if the text has been cleared, without
counting the user whose column it is. -/
def MayWriteContact (c : Tx) (u : User) (kind : String → Contact) (old : String)
    (new : Option String) : Prop :=
  u.role = .student → ∀ text ∈ new, text ≠ old → (kind text, some u.id) ∈ c.cleared

/-- How a commit may change a loaded user: the role stays, and a new contact of a student
has been cleared. -/
structure MayWriteUser (c : Tx) (u : User) (d : UserDraft) : Prop where
  id : d.id = u.id
  role : d.role = u.role
  phoneNumber : c.MayWriteContact u .phoneNumber u.phoneNumber d.phoneNumber
  email : c.MayWriteContact u .email u.email d.email

/-- How a commit may change a loaded session. -/
inductive MayWriteSession (env : Env) (c : Tx) : Option UserSession → Option UserSession → Prop
  /-- It leaves both the version and the refresh token alone. -/
  | keeps {o o' : Option UserSession} (hreq : c.request.revokesSession = false)
      (h : o'.map UserSession.secrets = o.map UserSession.secrets) : MayWriteSession env c o o'
  /-- It stores a refresh token made of a text it has drawn. -/
  | opens {s s' : UserSession} {now : Time} {userId : UserId} {jti : String}
      (hreq : c.request.opensSession = true) (hjti : jti ∈ c.drawn)
      (hversion : s'.accessTokenVersion = s.accessTokenVersion)
      (hhash : s'.refreshTokenHash =
        some (env.sha256 (createRefreshToken env now userId jti))) :
      MayWriteSession env c (some s) (some s')
  /-- It raises the version and clears the refresh token. -/
  | revokes {s s' : UserSession} (hversion : s'.accessTokenVersion = s.accessTokenVersion + 1)
      (hhash : s'.refreshTokenHash = none) : MayWriteSession env c (some s) (some s')
  /-- It raises the version only. -/
  | renames {s s' : UserSession} (hreq : c.request.revokesSession = false)
      (hversion : s'.accessTokenVersion = s.accessTokenVersion + 1)
      (hhash : s'.refreshTokenHash = s.refreshTokenHash) : MayWriteSession env c (some s) (some s')

/-- What a request may commit: the objects it loaded, changed as far as it may, or a new
user whose contacts have been cleared. -/
def MayCommit (env : Env) (c : Tx) : UnitOfWork → Prop
  | .update l d _ =>
    c.loaded = some l ∧ c.MayWriteUser l.user d.user ∧ c.MayWriteSession env l.session d.session
  | .register u _ s _ _ =>
    c.request.revokesSession = false ∧ s.refreshTokenHash = none ∧
      (u.role = .student →
        (.phoneNumber u.phoneNumber, none) ∈ c.cleared ∧ (.email u.email, none) ∈ c.cleared)

/-- The statements a request may issue. -/
def allowed (env : Env) (c : Tx) : Stmt → Prop
  | .tokenUrlsafe => c.committed = none
  | .selectUserById id _ => c.request.userId? env = some id
  | .selectUserByUsername _ _ => c.request.byUsername = true
  | .getCache (.accessTokenVersionKey id) => c.request.userId? env = some id
  | .setCache (.accessTokenVersionKey id) value =>
    ∃ l s, c.loaded = some l ∧ l.user.id = id ∧ l.session = some s ∧
      value = .version s.accessTokenVersion
  | .commit work => c.Pending ∧ c.MayCommit env work
  | _ => True

/-- The replies it relies on: a query by id answers for that id, and a user it has loaded
does not go away. -/
def replies (c : Tx) : (s : Stmt) → s.Reply → Prop
  | .selectUserById id _, reply => ∀ l, reply = some l → l.user.id = id
  | .refresh id, reply => ∀ l, c.loaded = some l → l.user.id = id → reply ≠ none
  | _, _ => True

end Tx

/-- The protocol of every request. -/
def protocol (env : Env) : Protocol Stmt Stmt.Reply Tx where
  allowed := Tx.allowed env
  replies := Tx.replies
  next := Tx.next env

/-! ### What a request has done when it returns -/

/-- The user whose access token version a commit raises, and the version it writes. -/
def UnitOfWork.raised? : UnitOfWork → Option (UserId × ℕ)
  | .update l d _ =>
    match l.session, d.session with
    | some s, some s' =>
      if s'.accessTokenVersion = s.accessTokenVersion then none
      else some (l.user.id, s'.accessTokenVersion)
    | _, _ => none
  | .register .. => none

theorem UnitOfWork.raised?_eq_some {work : UnitOfWork} {u : UserId} {v : ℕ} :
    work.raised? = some (u, v) ↔ ∃ l d mails s s', work = .update l d mails ∧ l.user.id = u ∧
      l.session = some s ∧ d.session = some s' ∧ s'.accessTokenVersion ≠ s.accessTokenVersion ∧
      s'.accessTokenVersion = v := by
  constructor
  · intro h
    cases work with
    | register => cases h
    | update l d mails =>
      simp only [raised?] at h
      split at h
      · next s s' hs hs' =>
        split at h
        · cases h
        · next hne =>
          cases h
          exact ⟨l, d, mails, s, s', rfl, rfl, hs, hs', hne, rfl⟩
      · cases h
  · rintro ⟨l, d, mails, s, s', rfl, rfl, hs, hs', hne, rfl⟩
    simp only [raised?, hs, hs', if_neg hne]

namespace Tx

/-- The user whose access token version the request has raised, and the version it has
written. -/
def raised? (c : Tx) : Option (UserId × ℕ) := c.committed.bind UnitOfWork.raised?

/-- Whoever has raised a version has deleted the cached one. -/
def Settled (c : Tx) : Prop := c.raised? ≠ none → c.dropped = true

/-- The row the request read held the pair. -/
def ReadPair (env : Env) (c : Tx) (token family : String) : Prop :=
  ∃ l ∈ c.loaded, ∃ s ∈ l.session,
    s.refreshTokenHash = some (env.sha256 token) ∧ s.refreshTokenFamily = some family

instance (env : Env) (c : Tx) (token family : String) : Decidable (c.ReadPair env token family) :=
  inferInstanceAs (Decidable (∃ l ∈ c.loaded, ∃ s ∈ l.session, _))

/-- The request has made the refresh token of a text it has drawn, and stored its digest. -/
def Stored (env : Env) (c : Tx) (token : String) : Prop :=
  ∃ l d mails s, c.committed = some (.update l d mails) ∧ d.session = some s ∧
    s.refreshTokenHash = some (env.sha256 token) ∧
    ∃ now, ∃ jti ∈ c.drawn, token = createRefreshToken env now l.user.id jti

/-- The request has read the version that the token carries, from the cache or from the
row. -/
def ReadVersion (env : Env) (c : Tx) (token : String) : Prop :=
  ∃ claims version, env.jose.decode token = some claims ∧ claims.version = some version ∧
    (c.cached = some (.version version) ∨
      ∃ l s, c.loaded = some l ∧ l.session = some s ∧ s.accessTokenVersion = version)

/-- What a request has done when it returns a value. -/
def Answers (env : Env) (c : Tx) (response : Response) : Prop :=
  match c.request with
  | .login _ => ∀ t, response = .tokens t → c.Stored env t.refreshTokenCookie
  | .refreshToken token family =>
    c.ReadPair env token family ∧ ∀ t, response = .tokens t → c.Stored env t.refreshTokenCookie
  | .getCurrentUser token => c.ReadVersion env token
  | _ => True

/-- The postcondition of every request. -/
def Post (env : Env) (c : Tx) (out : Outcome) : Prop :=
  c.Settled ∧ ∀ response, out = .ok response → c.Answers env response

theorem raised?_of_not_committed {c : Tx} (h : c.committed = none) : c.raised? = none := by
  simp [raised?, h]

/-- Before the commit there is nothing to settle. -/
theorem settled_of_not_committed {c : Tx} (h : c.committed = none) : c.Settled :=
  fun hne => absurd (raised?_of_not_committed h) hne

/-- From `c` the program keeps to the protocol, returns only with `Q`, and raises only when
it has settled. -/
def Obeys {α : Type} (env : Env) (c : Tx) (p : Service α) (Q : Tx → α → Prop) : Prop :=
  Follows (protocol env) (fun c r => match r with
    | .ok a => Q c a
    | .error _ => c.Settled) c p

end Tx

open Tx (Obeys)

/-! ### The rules -/

section Rules

variable {env : Env} {α β : Type} {c : Tx} {Q : Tx → β → Prop}

theorem obeys_pure {b : β} : Obeys env c (pure b) Q ↔ Q c b := Iff.rfl

theorem obeys_raise (e : Exn) (hs : c.Settled) : Obeys env c (raise e : Service β) Q := hs

theorem obeys_bind {p : Service α} {f : α → Service β} :
    Obeys env c (p >>= f) Q ↔ Obeys env c p fun c a => Obeys env c (f a) Q := by
  unfold Obeys
  rw [follows_bind]
  constructor
  · refine fun h => h.mono fun c r hr => ?_
    cases r with
    | ok a => exact hr
    | error e => exact hr
  · refine fun h => h.mono fun c r hr => ?_
    cases r with
    | ok a => exact hr
    | error e => exact hr

theorem obeys_map {p : Service α} {f : α → β} (h : Obeys env c p fun c a => Q c (f a)) :
    Obeys env c (f <$> p) Q := by
  unfold Obeys
  rw [follows_map]
  refine Prog.Follows.mono h fun c r hr => ?_
  cases r with
  | ok a => exact hr
  | error e => exact hr

theorem obeys_stmt {s : Stmt} {f : s.Reply → Service β} (hallowed : c.allowed env s)
    (h : ∀ r, c.replies s r → Obeys env (c.next env s r) (f r) Q) :
    Obeys env c (Prog.stmt s f) Q := ⟨hallowed, h⟩

theorem obeys_ite {b : Prop} [Decidable b] {p q : Service β} (hthen : b → Obeys env c p Q)
    (helse : ¬ b → Obeys env c q Q) : Obeys env c (if b then p else q) Q := by
  split
  · next h => exact hthen h
  · next h => exact helse h

theorem obeys_deref {name : String} {obj : Option α} {f : α → Service β} (hs : c.Settled)
    (h : ∀ a, obj = some a → Obeys env c (f a) Q) : Obeys env c (deref name obj >>= f) Q := by
  cases obj with
  | none => exact obeys_raise _ hs
  | some a => exact h a rfl

theorem obeys_ofExcept {r : Except Exn α} {f : α → Service β} (hs : c.Settled)
    (h : ∀ a, r = .ok a → Obeys env c (f a) Q) : Obeys env c (ofExcept r >>= f) Q := by
  cases r with
  | error e => exact obeys_raise _ hs
  | ok a => exact h a rfl

theorem obeys_ensureExists {obj : Option α} {e : Exn} {f : α → Service β} (hs : c.Settled)
    (h : ∀ a, obj = some a → Obeys env c (f a) Q) : Obeys env c (ensureExists obj e >>= f) Q := by
  cases obj with
  | none => exact obeys_raise _ hs
  | some a => exact h a rfl

theorem obeys_datetimeNow {f : Time → Service β} (h : ∀ now, Obeys env c (f now) Q) :
    Obeys env c (datetimeNow >>= f) Q := obeys_stmt trivial fun now _ => h now

theorem obeys_tokenUrlsafe {f : String → Service β} (hcommitted : c.committed = none)
    (h : ∀ text, Obeys env { c with drawn := text :: c.drawn } (f text) Q) :
    Obeys env c (tokenUrlsafe >>= f) Q := obeys_stmt hcommitted fun text _ => h text

theorem obeys_randbelow {f : Fin 900000 → Service β} (h : ∀ r, Obeys env c (f r) Q) :
    Obeys env c (randbelow >>= f) Q := obeys_stmt trivial fun r _ => h r

theorem obeys_hashPassword {password : String} {f : String → Service β} (hs : c.Settled)
    (h : ∀ hash, Obeys env c (f hash) Q) : Obeys env c (hashPassword password >>= f) Q :=
  obeys_stmt trivial fun _ _ => obeys_ofExcept hs fun hash _ => h hash

theorem obeys_verifyPassword {plain : String} {hashed : Option String} {f : Bool → Service β}
    (hs : c.Settled) (h : ∀ valid, Obeys env c (f valid) Q) :
    Obeys env c (verifyPassword plain hashed >>= f) Q :=
  obeys_stmt trivial fun _ _ => obeys_ofExcept hs fun valid _ => h valid

/-- The query of the row, by the id the request is about. -/
theorem obeys_getUserById {id : UserId} {q : UserQuery} {f : Option Loaded → Service β}
    (hid : c.request.userId? env = some id)
    (h : ∀ reply, (∀ l, reply = some l → l.user.id = id) →
      Obeys env { c with loaded := c.loaded.or reply } (f reply) Q) :
    Obeys env c (getUserById id q >>= f) Q := obeys_stmt hid h

theorem obeys_getUserByUsername {username : String} {q : UserQuery}
    {f : Option Loaded → Service β} (hname : c.request.byUsername = true)
    (h : ∀ reply, Obeys env { c with loaded := c.loaded.or reply } (f reply) Q) :
    Obeys env c (getUserByUsername username q >>= f) Q := obeys_stmt hname fun reply _ => h reply

/-- A commit inside a `try`. -/
theorem obeys_tryCommit {work : UnitOfWork} {f : Except DbError Unit → Service β}
    (hpending : c.Pending) (hmay : c.MayCommit env work)
    (hok : Obeys env (c.commit work) (f (.ok ())) Q) (herr : ∀ e, Obeys env c (f (.error e)) Q) :
    Obeys env c (tryCommit work >>= f) Q := by
  refine obeys_stmt ⟨hpending, hmay⟩ fun r _ => ?_
  cases r with
  | ok done => exact hok
  | error e => exact herr e

theorem obeys_getCache {id : UserId} {f : Option CacheValue → Service β}
    (hid : c.request.userId? env = some id)
    (h : ∀ reply, Obeys env { c with cached := reply } (f reply) Q) :
    Obeys env c (getCache (.accessTokenVersionKey id) >>= f) Q :=
  obeys_stmt hid fun reply _ => h reply

/-- Only the version of the row it has loaded may be cached. -/
theorem obeys_setCache {id : UserId} {value : CacheValue} {f : Unit → Service β}
    (hvalue : ∃ l s, c.loaded = some l ∧ l.user.id = id ∧ l.session = some s ∧
      value = .version s.accessTokenVersion) (h : Obeys env c (f ()) Q) :
    Obeys env c (setCache (.accessTokenVersionKey id) value >>= f) Q :=
  obeys_stmt hvalue fun _ _ => h

theorem obeys_commitOrRaise {work : UnitOfWork} {f : Unit → Service β}
    (hpending : c.Pending) (hmay : c.MayCommit env work)
    (h : Obeys env (c.commit work) (f ()) Q) : Obeys env c (commitOrRaise work >>= f) Q := by
  refine obeys_stmt ⟨hpending, hmay⟩ fun r _ => ?_
  cases r with
  | ok done => exact h
  | error e => exact obeys_raise _ (Tx.settled_of_not_committed hpending.1)

/-- The same as the last statement of a program. -/
theorem obeys_commitOrRaise' {Q : Tx → Unit → Prop} {work : UnitOfWork}
    (hpending : c.Pending) (hmay : c.MayCommit env work)
    (h : Q (c.commit work) ()) : Obeys env c (commitOrRaise work) Q := by
  refine obeys_stmt ⟨hpending, hmay⟩ fun r _ => ?_
  cases r with
  | ok done => exact h
  | error e => exact obeys_raise _ (Tx.settled_of_not_committed hpending.1)

/-- The row the request has loaded is still there. -/
theorem obeys_refresh {id : UserId} {f : User → Service β}
    (hid : ∃ l, c.loaded = some l ∧ l.user.id = id) (h : ∀ u, Obeys env c (f u) Q) :
    Obeys env c (refresh id >>= f) Q := by
  obtain ⟨l, hl, hlid⟩ := hid
  refine obeys_stmt trivial fun reply hreply => ?_
  cases reply with
  | none => exact absurd rfl (hreply l hl hlid)
  | some u => exact h u

/-- A row without a version to settle may be missing. -/
theorem obeys_refresh' {Q : Tx → User → Prop} {id : UserId} (hs : c.Settled) (h : ∀ u, Q c u) :
    Obeys env c (refresh id) Q := by
  refine obeys_stmt trivial fun reply _ => ?_
  cases reply with
  | none => exact obeys_raise _ hs
  | some u => exact h u

theorem obeys_createTask {mail : Mail} {f : Unit → Service β} (h : Obeys env c (f ()) Q) :
    Obeys env c (createTask mail >>= f) Q := obeys_stmt trivial fun _ _ => h

theorem obeys_deleteCache {keys : List CacheKey} {f : Unit → Service β}
    (h : Obeys env { c with dropped := c.dropped || c.drops keys } (f ()) Q) :
    Obeys env c (deleteCache keys >>= f) Q := obeys_stmt trivial fun _ _ => h

/-- The same as the last statement of a program. -/
theorem obeys_deleteCache' {Q : Tx → Unit → Prop} {keys : List CacheKey}
    (h : Q { c with dropped := c.dropped || c.drops keys } ()) :
    Obeys env c (deleteCache keys) Q := obeys_stmt trivial fun _ _ => h

theorem obeys_onlyIf {condition : Bool} {p : Service Unit} {f : Unit → Service β}
    (hthen : condition = true → Obeys env c (p >>= f) Q)
    (helse : condition = false → Obeys env c (f ()) Q) :
    Obeys env c (onlyIf condition p >>= f) Q := by
  cases condition with
  | false => exact helse rfl
  | true => exact hthen rfl

/-! ### The contact limit -/

theorem obeys_acquireLockFor {lock : String → AdvisoryLock} {text : Option String}
    {f : Unit → Service β} (htext : ∀ t ∈ text, t ≠ "")
    (h : ∀ locks, (∀ t ∈ text, lock t ∈ locks) → c.locks ⊆ locks →
      Obeys env { c with locks := locks } (f ()) Q) :
    Obeys env c (acquireLockFor lock text >>= f) Q := by
  cases text with
  | none => exact h c.locks (by simp) (List.Subset.refl _)
  | some text =>
    simp only [acquireLockFor]
    rw [if_neg (htext text rfl)]
    refine obeys_stmt trivial fun _ _ => h (lock text :: c.locks) ?_ (List.subset_cons_self _ _)
    rintro t ⟨⟩
    exact List.mem_cons_self

/-- Both locks are held afterwards. -/
theorem obeys_acquireStudentContactLock {phoneNumber email : Option String}
    {f : Unit → Service β} (hphone : ∀ t ∈ phoneNumber, t ≠ "") (hemail : ∀ t ∈ email, t ≠ "")
    (h : ∀ locks, (∀ t ∈ phoneNumber, phoneLock env t ∈ locks) →
      (∀ t ∈ email, emailLock env t ∈ locks) → Obeys env { c with locks := locks } (f ()) Q) :
    Obeys env c (acquireStudentContactLock env phoneNumber email >>= f) Q := by
  unfold acquireStudentContactLock
  refine obeys_bind.mpr (obeys_acquireLockFor hphone fun locks hlocks _ => obeys_bind.mp ?_)
  exact obeys_acquireLockFor hemail fun locks' hlocks' hsub =>
    h locks' (fun t ht => hsub (hlocks t ht)) hlocks'

/-- The same under a guard. -/
theorem obeys_onlyIf_acquireStudentContactLock {applies : Bool} {phoneNumber email : Option String}
    {f : Unit → Service β} (hphone : ∀ t ∈ phoneNumber, t ≠ "") (hemail : ∀ t ∈ email, t ≠ "")
    (h : ∀ locks, (applies = true → (∀ t ∈ phoneNumber, phoneLock env t ∈ locks) ∧
        ∀ t ∈ email, emailLock env t ∈ locks) → Obeys env { c with locks := locks } (f ()) Q) :
    Obeys env c (onlyIf applies (acquireStudentContactLock env phoneNumber email) >>= f) Q := by
  refine obeys_onlyIf (fun _ => ?_) fun hno => h c.locks (by simp [hno])
  exact obeys_acquireStudentContactLock hphone hemail fun locks hp he => h locks fun _ => ⟨hp, he⟩

/-- A count below the limit under the lock clears the contact. -/
theorem obeys_checkContact {role : Option UserRole} {contact : Option Contact} {maxAllowed : ℕ}
    {exclude : Option UserId} {students teachers : Exn} {f : Unit → Service β} (hs : c.Settled)
    (h : ∀ cleared, c.cleared ⊆ cleared →
      (role = some .student → maxAllowed = studentMaxSharedContact →
        ∀ k ∈ contact, k.lock env ∈ c.locks → (k, exclude) ∈ cleared) →
      Obeys env { c with cleared := cleared } (f ()) Q) :
    Obeys env c (checkContact role contact maxAllowed exclude students teachers >>= f) Q := by
  cases contact with
  | none => exact h c.cleared (List.Subset.refl _) (by simp)
  | some contact =>
    simp only [checkContact]
    refine obeys_bind.mpr (obeys_stmt trivial fun (count : ℕ) _ => ?_)
    refine obeys_ite (fun _ => obeys_raise _ ?_) fun hfew => obeys_pure.mpr ?_
    · simp only [Tx.next]
      split <;> exact hs
    · simp only [Tx.next]
      split
      · refine h _ (List.subset_cons_self _ _) ?_
        rintro - - k ⟨⟩ -
        exact List.mem_cons_self
      · next hno =>
        refine h c.cleared (List.Subset.refl _) ?_
        rintro hrole hmax k ⟨⟩ hlock
        exact absurd ⟨hrole, hlock, by omega⟩ hno

theorem obeys_checkContactLimit {phoneNumber email : Option String} {role : Option UserRole}
    {maxAllowed : ℕ} {exclude : Option UserId} {f : Unit → Service β} (hs : c.Settled)
    (h : ∀ cleared, (role = some .student → maxAllowed = studentMaxSharedContact →
        (∀ t ∈ phoneNumber, phoneLock env t ∈ c.locks → (.phoneNumber t, exclude) ∈ cleared) ∧
        ∀ t ∈ email, emailLock env t ∈ c.locks → (.email t, exclude) ∈ cleared) →
      Obeys env { c with cleared := cleared } (f ()) Q) :
    Obeys env c (checkContactLimit phoneNumber email role maxAllowed exclude >>= f) Q := by
  unfold checkContactLimit
  refine obeys_bind.mpr (obeys_checkContact hs fun cleared _ hphone => obeys_bind.mp ?_)
  refine obeys_checkContact hs fun cleared' hsub hemail => h cleared' fun hrole hmax => ?_
  constructor
  · intro t ht hlock
    exact hsub (hphone hrole hmax _ (Option.mem_map_of_mem _ ht) hlock)
  · intro t ht hlock
    exact hemail hrole hmax _ (Option.mem_map_of_mem _ ht) hlock

/-- The guarded check of the three updates clears what it is given. -/
theorem obeys_checkStudentContact {applies : Bool} {phoneNumber email : Option String}
    {exclude : UserId} {f : Unit → Service β} (hs : c.Settled)
    (hphone : ∀ t ∈ phoneNumber, t ≠ "") (hemail : ∀ t ∈ email, t ≠ "")
    (h : ∀ locks cleared, (applies = true →
        (∀ t ∈ phoneNumber, (.phoneNumber t, some exclude) ∈ cleared) ∧
        ∀ t ∈ email, (.email t, some exclude) ∈ cleared) →
      Obeys env { c with locks := locks, cleared := cleared } (f ()) Q) :
    Obeys env c (checkStudentContact env applies phoneNumber email exclude >>= f) Q := by
  unfold checkStudentContact
  refine obeys_onlyIf (fun _ => ?_) fun hno => h c.locks c.cleared (by simp [hno])
  refine obeys_bind.mpr (obeys_acquireStudentContactLock hphone hemail
    fun locks hlocks hlocks' => obeys_bind.mp ?_)
  refine obeys_checkContactLimit hs fun cleared hcleared => h locks cleared fun _ => ?_
  obtain ⟨hp, he⟩ := hcleared rfl rfl
  exact ⟨fun t ht => hp t ht (hlocks t ht), fun t ht => he t ht (hlocks' t ht)⟩

/-! ### The other helpers -/

theorem obeys_handleUsernameIntegrityError {orig : String} {f : Unit → Service β}
    (hs : c.Settled) (h : Obeys env c (f ()) Q) :
    Obeys env c (handleUsernameIntegrityError orig >>= f) Q := by
  unfold handleUsernameIntegrityError
  split
  · exact obeys_raise _ hs
  · exact h

theorem obeys_handleNonStudentUniqueContactError {orig : String} {f : Unit → Service β}
    (hs : c.Settled) (h : Obeys env c (f ()) Q) :
    Obeys env c (handleNonStudentUniqueContactError orig >>= f) Q := by
  unfold handleNonStudentUniqueContactError
  split
  · exact obeys_raise _ hs
  · split
    · exact obeys_raise _ hs
    · exact h

/-- The `except IntegrityError` blocks roll back and raise. -/
theorem obeys_exceptIntegrityError {mapsUsername mapsContacts : Bool} {e : DbError}
    (hs : c.Settled) :
    Obeys env c (exceptIntegrityError mapsUsername mapsContacts e : Service β) Q := by
  cases e with
  | data orig => exact obeys_raise _ hs
  | integrity orig =>
    have hraise : Obeys env c.unlocked (raise (.integrityError orig) : Service β) Q :=
      obeys_raise _ hs
    refine obeys_stmt trivial fun _ _ => ?_
    refine obeys_onlyIf (fun _ => obeys_handleUsernameIntegrityError hs ?_) fun _ => ?_
    · exact obeys_onlyIf
        (fun _ => obeys_handleNonStudentUniqueContactError hs hraise) fun _ => hraise
    · exact obeys_onlyIf
        (fun _ => obeys_handleNonStudentUniqueContactError hs hraise) fun _ => hraise

theorem obeys_updateObject {instance_ assigned : UserDraft} {f : UserDraft → Service β}
    (hs : c.Settled) (h : Obeys env c (f assigned) Q) :
    Obeys env c (updateObject instance_ assigned >>= f) Q := by
  unfold updateObject
  split
  · exact obeys_raise _ hs
  · exact h

theorem obeys_generateEmailChangeCode {newEmail : Option EmailAddress}
    {f : Option EmailChange → Service β} (h : ∀ change, Obeys env c (f change) Q) :
    Obeys env c (generateEmailChangeCode newEmail >>= f) Q := by
  cases newEmail with
  | none => exact h none
  | some newEmail => exact obeys_randbelow fun r => obeys_datetimeNow fun now => h _

theorem obeys_sendEmailChangeCode {change : Option EmailChange} {f : Unit → Service β}
    (h : Obeys env c (f ()) Q) : Obeys env c (sendEmailChangeCode change >>= f) Q := by
  cases change with
  | none => exact h
  | some change => exact obeys_createTask h

theorem obeys_reissueInvite {currentUserId : UserId} {l : Loaded} {username email : Option String}
    {f : UserActivation × NewPendingEmail → Service β} (hcommitted : c.committed = none)
    (h : ∀ text invite, Obeys env { c with drawn := text :: c.drawn } (f invite) Q) :
    Obeys env c (reissueInvite env currentUserId l username email >>= f) Q := by
  unfold reissueInvite
  refine obeys_bind.mpr (obeys_tokenUrlsafe hcommitted fun text => obeys_datetimeNow fun now => ?_)
  exact obeys_deref (Tx.settled_of_not_committed hcommitted) fun activation _ => h text _

theorem obeys_tryFlushUser {user : User} {f : Except DbError UserId → Service β}
    (h : ∀ r, Obeys env c (f r) Q) : Obeys env c (tryFlushUser user >>= f) Q :=
  obeys_stmt trivial fun r _ => h r

end Rules

end SmsLite
