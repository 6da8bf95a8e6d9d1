import SmsLite.Lib.Pool
import SmsLite.Models
import SmsLite.Security

/-!
# Statements and what they do

The services reach PostgreSQL, Redis, the clock and the thread pool only through
the statements of this module.  Each is atomic; between two statements of one
request any statement of another one may run.

* A query sees the rows committed before it (READ COMMITTED).
* A commit flushes the session: it writes the columns whose in-memory value
  differs from the loaded one into the rows as they are now, inserts the new
  objects, and either does all of it or fails on a constraint and does nothing.
* An advisory lock is held until the transaction ends.

## Main definitions

* `written`, `User.write`, `UserSession.write`, ... — the columns a flush sets.
* `Db.checkUser`, `Db.commit` — constraints, and the effect of a commit.
* `World`, `Stmt`, `exec`, `machine` — the shared state and the statement interface.
* `Service` — programs over it.

## Main results

* `UserSession.write_loaded` and its siblings — if no one else wrote the row
  since the load, a flush stores the in-memory object.
* `Db.checkUser_eq_none` — a flush that leaves the text columns alone passes every
  check.
-/

namespace SmsLite

open Interleave

/-! ### The columns a flush sets -/

/-- The value of a column after a flush: an `UPDATE` sets it only if the object
changed it since the load. -/
def written {α : Type} [DecidableEq α] (loaded current stored : α) : α :=
  if current = loaded then stored else current

@[simp] theorem written_loaded {α : Type} [DecidableEq α] (loaded current : α) :
    written loaded current loaded = current := by
  unfold written
  split
  · next h => exact h.symm
  · rfl

@[simp] theorem written_self {α : Type} [DecidableEq α] (loaded stored : α) :
    written loaded loaded stored = stored := if_pos rfl

theorem written_of_ne {α : Type} [DecidableEq α] {loaded current : α} (stored : α)
    (h : current ≠ loaded) : written loaded current stored = current := if_neg h

/-- The row of `users` after a flush. -/
def User.write (loaded current stored : User) : User where
  id := stored.id
  username := written loaded.username current.username stored.username
  firstname := written loaded.firstname current.firstname stored.firstname
  lastname := written loaded.lastname current.lastname stored.lastname
  middlename := written loaded.middlename current.middlename stored.middlename
  dateOfBirth := written loaded.dateOfBirth current.dateOfBirth stored.dateOfBirth
  address := written loaded.address current.address stored.address
  phoneNumber := written loaded.phoneNumber current.phoneNumber stored.phoneNumber
  email := written loaded.email current.email stored.email
  passwordHash := written loaded.passwordHash current.passwordHash stored.passwordHash
  role := written loaded.role current.role stored.role
  status := written loaded.status current.status stored.status
  isActive := written loaded.isActive current.isActive stored.isActive
  createdBy := written loaded.createdBy current.createdBy stored.createdBy
  groupId := written loaded.groupId current.groupId stored.groupId
  createdAt := stored.createdAt

/-- The row of `users_sessions` after a flush. -/
def UserSession.write (loaded current stored : UserSession) : UserSession where
  userId := stored.userId
  accessTokenVersion :=
    written loaded.accessTokenVersion current.accessTokenVersion stored.accessTokenVersion
  refreshTokenHash :=
    written loaded.refreshTokenHash current.refreshTokenHash stored.refreshTokenHash
  refreshTokenExpiresAt :=
    written loaded.refreshTokenExpiresAt current.refreshTokenExpiresAt stored.refreshTokenExpiresAt
  refreshTokenFamily :=
    written loaded.refreshTokenFamily current.refreshTokenFamily stored.refreshTokenFamily
  resetPasswordTokenHash :=
    written loaded.resetPasswordTokenHash current.resetPasswordTokenHash
      stored.resetPasswordTokenHash
  resetPasswordTokenExpiresAt :=
    written loaded.resetPasswordTokenExpiresAt current.resetPasswordTokenExpiresAt
      stored.resetPasswordTokenExpiresAt
  pendingNewEmail := written loaded.pendingNewEmail current.pendingNewEmail stored.pendingNewEmail
  emailChangeCodeHash :=
    written loaded.emailChangeCodeHash current.emailChangeCodeHash stored.emailChangeCodeHash
  emailChangeCodeExpiresAt :=
    written loaded.emailChangeCodeExpiresAt current.emailChangeCodeExpiresAt
      stored.emailChangeCodeExpiresAt

/-- The row of `users_activations` after a flush. -/
def UserActivation.write (loaded current stored : UserActivation) : UserActivation where
  userId := stored.userId
  inviteTokenHash := written loaded.inviteTokenHash current.inviteTokenHash stored.inviteTokenHash
  inviteTokenExpiresAt :=
    written loaded.inviteTokenExpiresAt current.inviteTokenExpiresAt stored.inviteTokenExpiresAt

/-- The row of `users_login_lockout` after a flush. -/
def UserLoginLockout.write (loaded current stored : UserLoginLockout) : UserLoginLockout where
  userId := stored.userId
  failedLoginAttempts :=
    written loaded.failedLoginAttempts current.failedLoginAttempts stored.failedLoginAttempts
  lockedUntil := written loaded.lockedUntil current.lockedUntil stored.lockedUntil

@[simp] theorem User.key_write (loaded current stored : User) :
    Keyed.key (User.write loaded current stored) = Keyed.key stored := rfl

@[simp] theorem UserSession.key_write (loaded current stored : UserSession) :
    Keyed.key (UserSession.write loaded current stored) = Keyed.key stored := rfl

@[simp] theorem UserActivation.key_write (loaded current stored : UserActivation) :
    Keyed.key (UserActivation.write loaded current stored) = Keyed.key stored := rfl

@[simp] theorem UserLoginLockout.key_write (loaded current stored : UserLoginLockout) :
    Keyed.key (UserLoginLockout.write loaded current stored) = Keyed.key stored := rfl

/-- If no one else wrote the row since the load, a flush stores the object. -/
theorem User.write_loaded {loaded current : User} (hid : current.id = loaded.id)
    (hat : current.createdAt = loaded.createdAt) : User.write loaded current loaded = current := by
  cases current
  simp_all [User.write]

theorem UserSession.write_loaded {loaded current : UserSession}
    (hid : current.userId = loaded.userId) : UserSession.write loaded current loaded = current := by
  cases current
  simp_all [UserSession.write]

theorem UserActivation.write_loaded {loaded current : UserActivation}
    (hid : current.userId = loaded.userId) :
    UserActivation.write loaded current loaded = current := by
  cases current
  simp_all [UserActivation.write]

theorem UserLoginLockout.write_loaded {loaded current : UserLoginLockout}
    (hid : current.userId = loaded.userId) :
    UserLoginLockout.write loaded current loaded = current := by
  cases current
  simp_all [UserLoginLockout.write]

/-- A flush of an unchanged object changes nothing. -/
theorem User.write_self (u stored : User) : User.write u u stored = stored := by
  simp [User.write]

theorem UserSession.write_self (s stored : UserSession) :
    UserSession.write s s stored = stored := by
  simp [UserSession.write]

theorem UserActivation.write_self (a stored : UserActivation) :
    UserActivation.write a a stored = stored := by
  simp [UserActivation.write]

theorem UserLoginLockout.write_self (l stored : UserLoginLockout) :
    UserLoginLockout.write l l stored = stored := by
  simp [UserLoginLockout.write]

/-! ### Constraints -/

/-- An error of the database at a flush. -/
inductive DbError
  /-- `IntegrityError`, with the driver's message. -/
  | integrity (orig : String)
  /-- Any other `DBAPIError`. -/
  | data (orig : String)
  deriving DecidableEq, Repr

/-- The driver's message for a violated unique constraint. -/
def duplicateKey (constraint column value : String) : String :=
  "duplicate key value violates unique constraint \"" ++ constraint ++ "\"\nDETAIL:  Key (" ++
    column ++ ")=(" ++ value ++ ") already exists."

/-- The driver's message for a null in a `NOT NULL` column of `users`. -/
def nullValue (column : String) (row : UserDraft) : String :=
  "null value in column \"" ++ column ++ "\" of relation \"users\" violates not-null constraint" ++
    "\nDETAIL:  Failing row contains (" ++
    String.intercalate ", " ([row.username, row.firstname, row.lastname, row.middlename,
      row.address, row.phoneNumber, row.email].map fun text => text.getD "null") ++ ")."

/-- The `NOT NULL` columns of a flushed user. -/
def UserDraft.toRow (d : UserDraft) : Except DbError User :=
  match d.username, d.firstname, d.lastname, d.phoneNumber, d.email with
  | some username, some firstname, some lastname, some phoneNumber, some email =>
    .ok { d with username, firstname, lastname, phoneNumber, email }
  | none, _, _, _, _ => .error (.integrity (nullValue "username" d))
  | _, none, _, _, _ => .error (.integrity (nullValue "firstname" d))
  | _, _, none, _, _ => .error (.integrity (nullValue "lastname" d))
  | _, _, _, none, _ => .error (.integrity (nullValue "phone_number" d))
  | _, _, _, _, none => .error (.integrity (nullValue "email" d))

/-- A loaded user has no nulls. -/
@[simp] theorem User.draft_toRow (u : User) : u.draft.toRow = .ok u := rfl

/-- The flush sets the column. -/
def changed {α β : Type} [DecidableEq β] (old : Option α) (new : α) (column : α → β) : Bool :=
  old.all fun o => column o ≠ column new

/-- A text column is set to a value longer than its `String(limit)`. -/
def tooLong {α : Type} (old : Option α) (new : α) (limit : ℕ) (column : α → Option String) : Bool :=
  changed old new column && (column new).any fun text => limit < text.length

/-- The other rows of `users`. -/
def Db.others (db : Db) (u : User) : List User := db.users.filter fun v => v.id ≠ u.id

/-- The check of a flushed row of `users`: lengths, then the unique indexes, each for
the columns the flush sets. -/
def Db.checkUser (db : Db) (old : Option User) (new : User) : Option DbError :=
  if tooLong old new 20 (some ·.username) || tooLong old new 50 (some ·.firstname) ||
      tooLong old new 50 (some ·.lastname) || tooLong old new 50 (·.middlename) ||
      tooLong old new 100 (·.address) || tooLong old new 25 (some ·.phoneNumber) ||
      tooLong old new 50 (some ·.email) then
    some (.data "value too long for type character varying")
  else if changed old new (·.username) &&
      (db.others new).any (fun v => v.username = new.username) then
    some (.integrity (duplicateKey "users_username_key" "username" new.username))
  else if new.role ≠ .student && changed old new (·.phoneNumber) &&
      (db.others new).any (fun v => v.role ≠ .student && v.phoneNumber = new.phoneNumber) then
    some (.integrity (duplicateKey "uix_non_student_unique_phone" "phone_number" new.phoneNumber))
  else if new.role ≠ .student && changed old new (·.email) &&
      (db.others new).any (fun v => v.role ≠ .student && v.email = new.email) then
    some (.integrity (duplicateKey "uix_non_student_unique_email" "email" new.email))
  else none

/-- A flush that leaves the text columns alone passes every check. -/
theorem Db.checkUser_eq_none (db : Db) {old new : User} (hu : old.username = new.username)
    (hf : old.firstname = new.firstname) (hl : old.lastname = new.lastname)
    (hm : old.middlename = new.middlename) (ha : old.address = new.address)
    (hp : old.phoneNumber = new.phoneNumber) (he : old.email = new.email) :
    db.checkUser (some old) new = none := by
  simp [checkUser, tooLong, changed, hu, hf, hl, hm, ha, hp, he]

/-- A foreign key to `users` without a row. -/
def Db.danglingUser (db : Db) (id : Option UserId) : Bool :=
  id.any fun i => i ∉ Keyed.keys db.users

/-- The driver's message for a foreign key without a row. -/
def foreignKeyViolation (table : String) : String :=
  "insert or update on table \"" ++ table ++ "\" violates foreign key constraint"

/-! ### Commit -/

/-- What a session holds when it is committed. -/
inductive UnitOfWork
  /-- A loaded user and its companions, possibly modified, and new outbox rows. -/
  | update (loaded : Loaded) (current : Dirty) (emails : List NewPendingEmail)
  /-- A new user with its three companions and its invitation. -/
  | register (user : User) (activation : UserActivation) (session : UserSession)
      (loginLockout : UserLoginLockout) (email : NewPendingEmail)

/-- Insert one outbox row. -/
def Db.insertEmail (db : Db) (now : Time) (e : NewPendingEmail) : Db :=
  { db with
    pendingEmails := db.pendingEmails ++
      [{ id := db.pendingEmailsIdSeq, recipient := e.recipient, content := e.content,
         emailType := e.emailType, triggeredBy := e.triggeredBy,
         recipientUserId := e.recipientUserId, createdAt := now }]
    pendingEmailsIdSeq := db.pendingEmailsIdSeq + 1 }

/-- Insert outbox rows in order. -/
def Db.insertEmails (db : Db) (now : Time) (emails : List NewPendingEmail) : Db :=
  emails.foldl (·.insertEmail now ·) db

/-- `UPDATE` of a companion row, if the query loaded one. -/
def flushRow {α : Type} [Keyed α UserId] (write : α → α → α → α) (userId : UserId)
    (loaded current : Option α) (table : List α) : List α :=
  match loaded, current with
  | some l, some c => Keyed.modify table userId (write l c)
  | _, _ => table

/-- `session.commit()`. -/
def Db.commit (db : Db) (now : Time) : UnitOfWork → Except DbError Db
  | .update loaded current emails =>
    match current.user.toRow with
    | .error e => .error e
    | .ok user =>
      match db.checkUser (some loaded.user) user with
      | some e => .error e
      | none =>
        if current.session.any fun s =>
            tooLong loaded.session s 100 fun s => s.pendingNewEmail.map (·.text) then
          .error (.data "value too long for type character varying(100)")
        else if emails.any fun e => db.danglingUser e.triggeredBy then
          .error (.integrity (foreignKeyViolation "pending_emails"))
        else
          let id := loaded.user.id
          let db :=
            { db with
              users := Keyed.modify db.users id (User.write loaded.user user)
              sessions := flushRow UserSession.write id loaded.session current.session db.sessions
              activations :=
                flushRow UserActivation.write id loaded.activation current.activation db.activations
              loginLockouts :=
                flushRow UserLoginLockout.write id loaded.loginLockout current.loginLockout
                  db.loginLockouts }
          .ok (db.insertEmails now emails)
  | .register user activation session loginLockout email =>
    if user.id ∈ Keyed.keys db.users then
      .error (.integrity (duplicateKey "users_pkey" "id" (toString user.id)))
    else
      match db.checkUser none user with
      | some e => .error e
      | none =>
        if db.danglingUser user.createdBy || db.danglingUser email.triggeredBy then
          .error (.integrity (foreignKeyViolation "users"))
        else
          let db :=
            { db with
              users := db.users ++ [{ user with createdAt := now }]
              sessions := db.sessions ++ [session]
              activations := db.activations ++ [activation]
              loginLockouts := db.loginLockouts ++ [loginLockout] }
          .ok (db.insertEmail now email)

/-! ### Queries -/

/-- The keyword arguments of `get_user_by_id` and `get_user_by_username`.  An empty
set of roles filters nothing, like `None`. -/
structure UserQuery where
  loadSession : Bool := false
  loadActivation : Bool := false
  loadLoginLockout : Bool := false
  loadGroup : Bool := false
  allowedRoles : List UserRole := []
  excludedRoles : List UserRole := []

/-- The row passes the role filters. -/
def UserQuery.admits (q : UserQuery) (u : User) : Bool :=
  (q.allowedRoles.isEmpty || u.role ∈ q.allowedRoles) &&
    (q.excludedRoles.isEmpty || u.role ∉ q.excludedRoles)

/-- The companions that `joinedload` fetches for a row. -/
def Db.load (db : Db) (q : UserQuery) (u : User) : Loaded where
  user := u
  session := if q.loadSession then Keyed.get? db.sessions u.id else none
  activation := if q.loadActivation then Keyed.get? db.activations u.id else none
  loginLockout := if q.loadLoginLockout then Keyed.get? db.loginLockouts u.id else none
  group := if q.loadGroup then u.groupId.bind (Keyed.get? db.groups) else none

/-- `select(User).filter(User.id == user_id)`, with its filters and joins. -/
def Db.selectUserById (db : Db) (userId : UserId) (q : UserQuery) : Option Loaded :=
  ((Keyed.get? db.users userId).filter q.admits).map (db.load q)

/-- `select(User).filter(User.username == username)`; the unique index leaves at most
one row. -/
def Db.selectUserByUsername (db : Db) (username : String) (q : UserQuery) : Option Loaded :=
  (db.users.find? fun u => u.username = username).map (db.load q)

/-- The column `count_users_with_contact` compares. -/
inductive Contact
  | phoneNumber (number : String)
  | email (address : String)
  deriving DecidableEq, Repr

/-- `contact_condition`. -/
def Contact.matches (c : Contact) (u : User) : Bool :=
  match c with
  | .phoneNumber number => u.phoneNumber = number
  | .email address => u.email = address

/-- `count_users_with_contact`. -/
def Db.countUsersWithContact (db : Db) (role : Option UserRole) (contact : Contact)
    (excludeUserId : Option UserId) : ℕ :=
  db.users.countP fun u =>
    (match role with
      | none => u.role ≠ .student
      | some role => u.role = role) &&
    contact.matches u && excludeUserId.all fun x => u.id ≠ x

/-! ### The shared state and the statements -/

/-- Everything the requests share. -/
structure World where
  db : Db
  /-- The Redis keys that are present. -/
  cache : CacheKey → Option CacheValue
  clock : Time
  /-- How many random values have been drawn. -/
  draws : ℕ
  /-- The mails handed to background tasks. -/
  mails : List Mail

/-- The key of a `pg_advisory_xact_lock`. -/
abbrev AdvisoryLock := ℤ × ℤ

/-- One atomic step of a request. -/
inductive Stmt
  /-- `datetime.now(UTC)`. -/
  | now
  /-- `secrets.token_urlsafe(...)`. -/
  | tokenUrlsafe
  /-- `secrets.randbelow(900_000)`. -/
  | randbelow
  /-- `await hash_password(...)`, in the thread pool. -/
  | hashPassword (password : String)
  /-- `await verify_password(...)`, in the thread pool. -/
  | verifyPassword (plainPassword : String) (hashedPassword : Option String)
  | selectUserById (userId : UserId) (q : UserQuery)
  | selectUserByUsername (username : String) (q : UserQuery)
  | countUsersWithContact (role : Option UserRole) (contact : Contact)
      (excludeUserId : Option UserId)
  /-- `SELECT pg_advisory_xact_lock(:ns, :key)`. -/
  | advisoryLock (lock : AdvisoryLock)
  /-- `session.add(new_user)` and `await session.flush()`: the reply is the new id. -/
  | flushUser (user : User)
  /-- `await session.commit()`. -/
  | commit (work : UnitOfWork)
  /-- `await session.rollback()`. -/
  | rollback
  /-- `await session.refresh(user)`. -/
  | refresh (userId : UserId)
  | getCache (key : CacheKey)
  | setCache (key : CacheKey) (value : CacheValue)
  | deleteCache (keys : List CacheKey)
  /-- `asyncio.create_task(send_safe(...))`. -/
  | createTask (mail : Mail)

/-- The type of the reply. -/
def Stmt.Reply : Stmt → Type
  | now => Time
  | tokenUrlsafe => String
  | randbelow => Fin 900000
  | hashPassword _ => Except Exn String
  | verifyPassword _ _ => Except Exn Bool
  | selectUserById _ _ => Option Loaded
  | selectUserByUsername _ _ => Option Loaded
  | countUsersWithContact _ _ _ => ℕ
  | advisoryLock _ => Unit
  | flushUser _ => Except DbError UserId
  | commit _ => Except DbError Unit
  | rollback => Unit
  | refresh _ => Option User
  | getCache _ => Option CacheValue
  | setCache _ _ => Unit
  | deleteCache _ => Unit
  | createTask _ => Unit

/-- The reply to a statement and the state after it. -/
def exec (env : Env) : (s : Stmt) → World → s.Reply × World
  | .now, w => (w.clock, w)
  | .tokenUrlsafe, w => (env.tokenUrlsafe w.draws, { w with draws := w.draws + 1 })
  | .randbelow, w => (env.randbelow w.draws, { w with draws := w.draws + 1 })
  | .hashPassword password, w =>
    match env.hashPassword w.draws password with
    | .ok hash => (.ok hash, { w with draws := w.draws + 1 })
    | .error e => (.error e, w)
  | .verifyPassword plain hashed, w => (env.verifyPassword plain hashed, w)
  | .selectUserById userId q, w => (w.db.selectUserById userId q, w)
  | .selectUserByUsername username q, w => (w.db.selectUserByUsername username q, w)
  | .countUsersWithContact role contact exclude, w =>
    (w.db.countUsersWithContact role contact exclude, w)
  | .advisoryLock _, w => ((), w)
  | .flushUser user, w =>
    let id := w.db.usersIdSeq
    let w' := { w with db := { w.db with usersIdSeq := id + 1 } }
    match w.db.checkUser none { user with id := id } with
    | some e => (.error e, w')
    | none => (.ok id, w')
  | .commit work, w =>
    match w.db.commit w.clock work with
    | .ok db => (.ok (), { w with db := db })
    | .error e => (.error e, w)
  | .rollback, w => ((), w)
  | .refresh userId, w => (Keyed.get? w.db.users userId, w)
  | .getCache key, w => (w.cache key, w)
  | .setCache key value, w => ((), { w with cache := Function.update w.cache key (some value) })
  | .deleteCache keys, w =>
    ((), { w with cache := fun key => if key ∈ keys then none else w.cache key })
  | .createTask mail, w => ((), { w with mails := w.mails ++ [mail] })

section Exec

variable {env : Env} {w : World}

theorem exec_hashPassword_ok {password hash : String}
    (h : env.hashPassword w.draws password = .ok hash) :
    exec env (.hashPassword password) w = (.ok hash, { w with draws := w.draws + 1 }) := by
  unfold exec
  dsimp only
  rw [h]

theorem exec_hashPassword_error {password : String} {e : Exn}
    (h : env.hashPassword w.draws password = .error e) :
    exec env (.hashPassword password) w = (.error e, w) := by
  unfold exec
  dsimp only
  rw [h]

/-- Hashing takes a salt at most. -/
theorem exec_hashPassword (env : Env) (w : World) (password : String) :
    ∃ reply draws, exec env (.hashPassword password) w = (reply, { w with draws }) ∧
      w.draws ≤ draws := by
  cases h : env.hashPassword w.draws password with
  | ok hash => exact ⟨_, _, exec_hashPassword_ok h, Nat.le_succ _⟩
  | error e => exact ⟨_, _, exec_hashPassword_error h, le_rfl⟩

theorem exec_commit_ok {work : UnitOfWork} {db' : Db} (h : w.db.commit w.clock work = .ok db') :
    exec env (.commit work) w = (.ok (), { w with db := db' }) := by
  unfold exec
  dsimp only
  rw [h]

theorem exec_commit_error {work : UnitOfWork} {e : DbError}
    (h : w.db.commit w.clock work = .error e) : exec env (.commit work) w = (.error e, w) := by
  unfold exec
  dsimp only
  rw [h]

/-- A flush takes an id, whether or not the row passes. -/
theorem exec_flushUser_eq (env : Env) (w : World) (user : User) :
    exec env (.flushUser user) w =
      ((match w.db.checkUser none { user with id := w.db.usersIdSeq } with
        | some e => .error e
        | none => .ok w.db.usersIdSeq),
        { w with db := { w.db with usersIdSeq := w.db.usersIdSeq + 1 } }) := by
  unfold exec
  dsimp only
  cases w.db.checkUser none { user with id := w.db.usersIdSeq } with
  | some e => rfl
  | none => rfl

/-- What follows a flush knows only the id. -/
theorem exec_flushUser (env : Env) (w : World) (user : User) :
    ∃ reply, exec env (.flushUser user) w =
        (reply, { w with db := { w.db with usersIdSeq := w.db.usersIdSeq + 1 } }) ∧
      ∀ id, reply = .ok id → id = w.db.usersIdSeq := by
  refine ⟨_, exec_flushUser_eq env w user, fun id hid => ?_⟩
  cases hcheck : w.db.checkUser none { user with id := w.db.usersIdSeq } with
  | some e =>
    rw [hcheck] at hid
    cases hid
  | none =>
    rw [hcheck] at hid
    exact (Except.ok.inj hid).symm

end Exec

/-- What happens between the statements of the requests. -/
inductive Outside
  /-- Time passes. -/
  | tick (d : ℕ)
  /-- Redis evicts a key: its time to live is over, or memory is short. -/
  | expire (key : CacheKey)
  deriving DecidableEq, Repr

/-- The effect of the outside on the shared state. -/
def outside : Outside → World → World
  | .tick d, w => { w with clock := w.clock + d }
  | .expire key, w => { w with cache := Function.update w.cache key none }

/-- PostgreSQL, Redis and the runtime as the system a pool of requests runs against. -/
def machine (env : Env) : Machine Stmt Stmt.Reply World AdvisoryLock Outside where
  exec := exec env
  lock?
    | .advisoryLock lock => some lock
    | _ => none
  frees
    | .commit _, .ok _ => true
    | .rollback, _ => true
    | _, _ => false
  env := outside

/-- A service function: a program over the statements. -/
abbrev Service (α : Type) := Prog Stmt Stmt.Reply Exn α

end SmsLite
