import SmsLite.Account

/-!
# The accounts of a state

How the tables and the cache hold the accounts, and what loads and commits are on
accounts.

## Main definitions

* `World.account` — the account under an id.
* `World.Coherent` — every user has its three companion rows, ids are distinct and
  below the sequence, and no version is cached for an id without a user.
* `Moved` — one account moved, the others stayed.

## Main results

* `World.Coherent.exists_account`, `World.Coherent.selectUserById`,
  `World.Coherent.selectUserByUsername` — loads find accounts.
* `World.Coherent.commit_update` — **a commit of loaded objects moves one account**, to
  the in-memory objects.
* `World.Coherent.commit_register` — a registration adds one account.
-/

namespace SmsLite

open Interleave

/-- The account under an id. -/
def World.account (w : World) (id : UserId) : Option Account :=
  match Keyed.get? w.db.users id, Keyed.get? w.db.sessions id, Keyed.get? w.db.activations id,
    Keyed.get? w.db.loginLockouts id with
  | some user, some session, some activation, some loginLockout =>
    some
      { user, session, activation, loginLockout
        cachedVersion := w.cache (.accessTokenVersionKey id) }
  | _, _, _, _ => none

/-- The companion tables have the ids of `users`, in the same order. -/
structure Db.Coherent (db : Db) : Prop where
  nodup : (Keyed.keys db.users).Nodup
  sessions : Keyed.keys db.sessions = Keyed.keys db.users
  activations : Keyed.keys db.activations = Keyed.keys db.users
  loginLockouts : Keyed.keys db.loginLockouts = Keyed.keys db.users
  fresh : ∀ id ∈ Keyed.keys db.users, id < db.usersIdSeq

/-- Coherent tables, and no version cached for an id without a user. -/
structure World.Coherent (w : World) : Prop where
  db : w.db.Coherent
  orphans : ∀ id, id ∉ Keyed.keys w.db.users → w.cache (.accessTokenVersionKey id) = none

theorem World.account_eq_some_iff {w : World} {id : UserId} {acc : Account} :
    w.account id = some acc ↔
      Keyed.get? w.db.users id = some acc.user ∧ Keyed.get? w.db.sessions id = some acc.session ∧
      Keyed.get? w.db.activations id = some acc.activation ∧
      Keyed.get? w.db.loginLockouts id = some acc.loginLockout ∧
      w.cache (.accessTokenVersionKey id) = acc.cachedVersion := by
  unfold World.account
  constructor
  · intro h
    split at h
    · next hu hs ha hl =>
      cases h
      exact ⟨hu, hs, ha, hl, rfl⟩
    · simp at h
  · rintro ⟨hu, hs, ha, hl, hv⟩
    simp [hu, hs, ha, hl, hv]

/-- The account depends on the tables and the version key only. -/
theorem World.account_congr {w w' : World} (hdb : w'.db = w.db) {id : UserId}
    (hcache : w'.cache (.accessTokenVersionKey id) = w.cache (.accessTokenVersionKey id)) :
    w'.account id = w.account id := by
  unfold World.account
  rw [hdb, hcache]

/-- The cache does not make an account appear or disappear. -/
theorem World.account_eq_none_of_db {w w' : World} (hdb : w'.db = w.db) {id : UserId}
    (h : w.account id = none) : w'.account id = none := by
  unfold World.account at h ⊢
  rw [hdb]
  split at h
  · cases h
  · rfl

section Account

variable {w : World} {id : UserId} {acc : Account}

theorem World.account_user (h : w.account id = some acc) :
    Keyed.get? w.db.users id = some acc.user := (account_eq_some_iff.mp h).1

theorem World.account_cachedVersion (h : w.account id = some acc) :
    w.cache (.accessTokenVersionKey id) = acc.cachedVersion :=
  (account_eq_some_iff.mp h).2.2.2.2

theorem World.account_id (h : w.account id = some acc) : acc.user.id = id :=
  Keyed.key_of_get? (account_user h)

theorem World.account_mem_keys (h : w.account id = some acc) : id ∈ Keyed.keys w.db.users := by
  rw [← Keyed.get?_isSome_iff, account_user h]
  rfl

end Account

/-! ### Loads -/

/-- The objects a query loads for an account. -/
def Account.loaded (acc : Account) (db : Db) (q : UserQuery) : Loaded where
  user := acc.user
  session := if q.loadSession then some acc.session else none
  activation := if q.loadActivation then some acc.activation else none
  loginLockout := if q.loadLoginLockout then some acc.loginLockout else none
  group := if q.loadGroup then acc.user.groupId.bind (Keyed.get? db.groups) else none

@[simp] theorem Account.loaded_user (acc : Account) (db : Db) (q : UserQuery) :
    (acc.loaded db q).user = acc.user := rfl

@[simp] theorem Account.loaded_session (acc : Account) (db : Db) (q : UserQuery) :
    (acc.loaded db q).session = if q.loadSession then some acc.session else none := rfl

@[simp] theorem Account.loaded_activation (acc : Account) (db : Db) (q : UserQuery) :
    (acc.loaded db q).activation = if q.loadActivation then some acc.activation else none := rfl

@[simp] theorem Account.loaded_loginLockout (acc : Account) (db : Db) (q : UserQuery) :
    (acc.loaded db q).loginLockout = if q.loadLoginLockout then some acc.loginLockout else none :=
  rfl

@[simp] theorem Account.dirty_user (acc : Account) (db : Db) (q : UserQuery) :
    (acc.loaded db q).dirty.user = acc.user.draft := rfl

@[simp] theorem Account.dirty_session (acc : Account) (db : Db) (q : UserQuery) :
    (acc.loaded db q).dirty.session = if q.loadSession then some acc.session else none := rfl

@[simp] theorem Account.dirty_activation (acc : Account) (db : Db) (q : UserQuery) :
    (acc.loaded db q).dirty.activation = if q.loadActivation then some acc.activation else none :=
  rfl

@[simp] theorem Account.dirty_loginLockout (acc : Account) (db : Db) (q : UserQuery) :
    (acc.loaded db q).dirty.loginLockout =
      if q.loadLoginLockout then some acc.loginLockout else none := rfl

/-- Every user has an account. -/
theorem World.Coherent.exists_account {w : World} (hc : w.Coherent) {id : UserId}
    (h : id ∈ Keyed.keys w.db.users) : ∃ acc, w.account id = some acc := by
  obtain ⟨u, hu⟩ := Option.isSome_iff_exists.mp ((Keyed.get?_isSome_iff _ _).mpr h)
  obtain ⟨s, hs⟩ := Option.isSome_iff_exists.mp
    ((Keyed.get?_isSome_iff _ _).mpr (hc.db.sessions ▸ h))
  obtain ⟨a, ha⟩ := Option.isSome_iff_exists.mp
    ((Keyed.get?_isSome_iff _ _).mpr (hc.db.activations ▸ h))
  obtain ⟨l, hl⟩ := Option.isSome_iff_exists.mp
    ((Keyed.get?_isSome_iff _ _).mpr (hc.db.loginLockouts ▸ h))
  exact ⟨⟨u, s, a, l, _⟩, account_eq_some_iff.mpr ⟨hu, hs, ha, hl, rfl⟩⟩

theorem World.Coherent.account_eq_none_iff {w : World} (hc : w.Coherent) {id : UserId} :
    w.account id = none ↔ id ∉ Keyed.keys w.db.users := by
  constructor
  · intro h hid
    obtain ⟨acc, hacc⟩ := hc.exists_account hid
    simp [h] at hacc
  · intro h
    cases hacc : w.account id with
    | none => rfl
    | some acc => exact absurd (World.account_mem_keys hacc) h

/-- The users are those of the accounts. -/
theorem World.Coherent.get?_users {w : World} (hc : w.Coherent) (id : UserId) :
    Keyed.get? w.db.users id = (w.account id).map (·.user) := by
  cases h : w.account id with
  | none => exact (Keyed.get?_eq_none_iff _ _).mpr (hc.account_eq_none_iff.mp h)
  | some acc => exact World.account_user h

theorem World.account_load {w : World} {id : UserId} {acc : Account} (h : w.account id = some acc)
    (q : UserQuery) : w.db.load q acc.user = acc.loaded w.db q := by
  obtain ⟨-, hs, ha, hl, -⟩ := account_eq_some_iff.mp h
  simp only [Db.load, Account.loaded, account_id h, hs, ha, hl]

/-- A load by id finds the account. -/
theorem World.Coherent.selectUserById {w : World} (hc : w.Coherent) {id : UserId} {q : UserQuery}
    {loaded : Loaded} (h : w.db.selectUserById id q = some loaded) :
    ∃ acc, w.account id = some acc ∧ q.admits acc.user = true ∧ loaded = acc.loaded w.db q := by
  simp only [Db.selectUserById, Option.map_eq_some_iff, Option.filter_eq_some_iff] at h
  obtain ⟨u, ⟨hu, hq⟩, rfl⟩ := h
  have hid : id ∈ Keyed.keys w.db.users := by
    rw [← Keyed.get?_isSome_iff, hu]
    rfl
  obtain ⟨acc, hacc⟩ := hc.exists_account hid
  have huser : u = acc.user := by
    rw [account_user hacc] at hu
    exact (Option.some.inj hu).symm
  subst huser
  exact ⟨acc, hacc, hq, account_load hacc q⟩

theorem World.selectUserById_of_account {w : World} {id : UserId} {acc : Account}
    (h : w.account id = some acc) {q : UserQuery} (hq : q.admits acc.user = true) :
    w.db.selectUserById id q = some (acc.loaded w.db q) := by
  simp [Db.selectUserById, account_user h, Option.filter, hq, account_load h]

/-- A load by id that filters nothing misses only an account that does not exist. -/
theorem World.account_of_selectUserById_none {w : World} {id : UserId} {q : UserQuery}
    (hq : ∀ u, q.admits u = true) (h : w.db.selectUserById id q = none) : w.account id = none := by
  by_contra hne
  obtain ⟨acc, hacc⟩ := Option.ne_none_iff_exists'.mp hne
  simp [selectUserById_of_account hacc (hq _)] at h

/-- A load by username finds the account the name stands for. -/
theorem World.Coherent.selectUserByUsername {w : World} (hc : w.Coherent) {username : String}
    {q : UserQuery} {loaded : Loaded} (h : w.db.selectUserByUsername username q = some loaded) :
    ∃ id acc, w.account id = some acc ∧ acc.user.username = username ∧
      w.db.userNamed username = some id ∧ loaded = acc.loaded w.db q := by
  simp only [Db.selectUserByUsername, Option.map_eq_some_iff] at h
  obtain ⟨u, hu, rfl⟩ := h
  have hmem : u ∈ w.db.users := List.mem_of_find?_eq_some hu
  have hget := Keyed.get?_of_mem hc.db.nodup hmem
  have hid : u.id ∈ Keyed.keys w.db.users := List.mem_map_of_mem hmem
  obtain ⟨acc, hacc⟩ := hc.exists_account hid
  have huser : u = acc.user := by
    rw [key_user, account_user hacc] at hget
    exact (Option.some.inj hget).symm
  subst huser
  refine ⟨_, acc, hacc, by simpa using List.find?_some hu, ?_, account_load hacc q⟩
  simp [Db.userNamed, hu]

theorem World.selectUserByUsername_of_account {w : World} {id : UserId} {acc : Account}
    (h : w.account id = some acc) (hc : w.Coherent) {username : String}
    (hname : w.db.userNamed username = some id) (q : UserQuery) :
    w.db.selectUserByUsername username q = some (acc.loaded w.db q) := by
  simp only [Db.userNamed, Option.map_eq_some_iff] at hname
  obtain ⟨u, hu, rfl⟩ := hname
  have hget := Keyed.get?_of_mem hc.db.nodup (List.mem_of_find?_eq_some hu)
  obtain rfl : u = acc.user := by
    rw [key_user, account_user h] at hget
    exact (Option.some.inj hget).symm
  simp [Db.selectUserByUsername, hu, account_load h]

/-! ### Moves -/

/-- From `w` to `w'` the account `id` moved to `acc'` and the others stayed. -/
structure Moved (w w' : World) (id : UserId) (acc' : Account) : Prop where
  account : w'.account id = some acc'
  others : ∀ j, j ≠ id → w'.account j = w.account j
  coherent : w'.Coherent

theorem Moved.get_user {w w' : World} {id : UserId} {acc' : Account} (h : Moved w w' id acc') :
    Keyed.get? w'.db.users id = some acc'.user := World.account_user h.account

/-- What happens outside the tables and the version keys moves no account. -/
theorem Moved.congr {w w' w'' : World} {id : UserId} {acc' : Account} (h : Moved w w' id acc')
    (hdb : w''.db = w'.db)
    (hcache : ∀ j, w''.cache (.accessTokenVersionKey j) = w'.cache (.accessTokenVersionKey j)) :
    Moved w w'' id acc' where
  account := (World.account_congr hdb (hcache id)).trans h.account
  others j hj := (World.account_congr hdb (hcache j)).trans (h.others j hj)
  coherent := ⟨hdb ▸ h.coherent.db, fun j hj => (hcache j).trans (h.coherent.orphans j (hdb ▸ hj))⟩

/-- The version cached for the account is replaced. -/
theorem Moved.recached {w w' : World} {id : UserId} {acc' : Account} (h : Moved w w' id acc')
    {cache : CacheKey → Option CacheValue} {v : Option CacheValue}
    (hid : cache (.accessTokenVersionKey id) = v)
    (hne : ∀ j, j ≠ id → cache (.accessTokenVersionKey j) = w'.cache (.accessTokenVersionKey j)) :
    Moved w { w' with cache := cache } id { acc' with cachedVersion := v } where
  account := by
    obtain ⟨hu, hs, ha, hl, -⟩ := World.account_eq_some_iff.mp h.account
    exact World.account_eq_some_iff.mpr ⟨hu, hs, ha, hl, hid⟩
  others j hj := by
    rw [← h.others j hj]
    simp only [World.account, hne j hj]
  coherent := by
    refine ⟨h.coherent.db, fun j hj => ?_⟩
    have hjid : j ≠ id := by
      rintro rfl
      have hmem := World.account_mem_keys h.account
      exact hj hmem
    exact (hne j hjid).trans (h.coherent.orphans j hj)

/-- A deletion of keys that include the account's version key and no other one. -/
theorem Moved.deleteCache {w w' : World} {id : UserId} {acc' : Account} (h : Moved w w' id acc')
    (keys : List CacheKey) (hid : .accessTokenVersionKey id ∈ keys)
    (hne : ∀ j, j ≠ id → .accessTokenVersionKey j ∉ keys) :
    Moved w { w' with cache := fun key => if key ∈ keys then none else w'.cache key } id
      { acc' with cachedVersion := none } :=
  h.recached (if_pos hid) fun j hj => if_neg (hne j hj)

/-- A deletion of keys that include no version key. -/
theorem Moved.deleteDetails {w w' : World} {id : UserId} {acc' : Account} (h : Moved w w' id acc')
    (keys : List CacheKey) (hne : ∀ j, .accessTokenVersionKey j ∉ keys) :
    Moved w { w' with cache := fun key => if key ∈ keys then none else w'.cache key } id acc' :=
  h.congr rfl fun j => if_neg (hne j)

/-- An account that has not moved. -/
theorem Moved.refl {w : World} (hc : w.Coherent) {id : UserId} {acc : Account}
    (h : w.account id = some acc) : Moved w w id acc := ⟨h, fun _ _ => rfl, hc⟩

/-! ### Commits -/

/-- The in-memory user a row was made from. -/
theorem UserDraft.draft_of_toRow {d : UserDraft} {u : User} (h : d.toRow = .ok u) :
    u.draft = d := by
  unfold UserDraft.toRow at h
  split at h
  · next hu hf hl hp he =>
    cases h
    cases d
    simp_all [User.draft]
  all_goals simp at h

/-- The rows of the mails go to a table of their own. -/
theorem Db.insertEmails_tables (now : Time) (emails : List NewPendingEmail) (db : Db) :
    (db.insertEmails now emails).users = db.users ∧
      (db.insertEmails now emails).sessions = db.sessions ∧
      (db.insertEmails now emails).activations = db.activations ∧
      (db.insertEmails now emails).loginLockouts = db.loginLockouts ∧
      (db.insertEmails now emails).usersIdSeq = db.usersIdSeq ∧
      (db.insertEmails now emails).groups = db.groups := by
  induction emails generalizing db with
  | nil => exact ⟨rfl, rfl, rfl, rfl, rfl, rfl⟩
  | cons e emails ih => exact ih (db.insertEmail now e)

/-- What a successful commit of loaded objects writes. -/
theorem Db.commit_update {db db' : Db} {now : Time} {loaded : Loaded} {current : Dirty}
    {emails : List NewPendingEmail} (h : db.commit now (.update loaded current emails) = .ok db') :
    ∃ user, current.user.toRow = .ok user ∧ db.checkUser (some loaded.user) user = none ∧
      db'.users = Keyed.modify db.users loaded.user.id (User.write loaded.user user) ∧
      db'.sessions =
        flushRow UserSession.write loaded.user.id loaded.session current.session db.sessions ∧
      db'.activations =
        flushRow UserActivation.write loaded.user.id loaded.activation current.activation
          db.activations ∧
      db'.loginLockouts =
        flushRow UserLoginLockout.write loaded.user.id loaded.loginLockout current.loginLockout
          db.loginLockouts ∧
      db'.usersIdSeq = db.usersIdSeq ∧ db'.groups = db.groups := by
  simp only [Db.commit] at h
  split at h
  · simp at h
  · next user huser =>
    split at h
    · simp at h
    · next hcheck =>
      split at h
      · simp at h
      · split at h
        · simp at h
        · cases h
          obtain ⟨h₁, h₂, h₃, h₄, h₅, h₆⟩ := Db.insertEmails_tables now emails _
          exact ⟨user, huser, hcheck, h₁, h₂, h₃, h₄, h₅, h₆⟩

/-- Both contacts are below the limit of `check_contact_limit`. -/
def Db.HasRoom (db : Db) (role : Option UserRole) (maxAllowed : ℕ)
    (phoneNumber email : Option String) (exclude : Option UserId) : Prop :=
  (∀ number ∈ phoneNumber,
    db.countUsersWithContact role (.phoneNumber number) exclude < maxAllowed) ∧
    ∀ address ∈ email, db.countUsersWithContact role (.email address) exclude < maxAllowed

/-- The texts of a flushed user and its session pass the checks. -/
def Account.Fits (acc : Account) (db : Db) (user : User) (session : UserSession) : Prop :=
  db.checkUser (some acc.user) user = none ∧
    tooLong (some acc.session) session 100 (fun s => s.pendingNewEmail.map (·.text)) = false

/-- A commit that adds no mail succeeds exactly when the texts pass the checks. -/
theorem Db.commit_update_ok_iff (db : Db) (now : Time) (acc : Account) (user : User)
    (session : UserSession) :
    (∃ db', db.commit now (.update (acc.loaded db { loadSession := true })
        { (acc.loaded db { loadSession := true }).dirty with
          user := user.draft, session := some session } []) = .ok db') ↔
      acc.Fits db user session := by
  simp only [commit, User.draft_toRow, Account.Fits, Account.loaded_user, Account.loaded_session,
    if_true, Option.any_some]
  cases db.checkUser (some acc.user) user with
  | some e => simp
  | none =>
    cases tooLong (some acc.session) session 100 fun s => s.pendingNewEmail.map (·.text) <;> simp

/-- A commit that touches neither the texts of the user nor the pending email, and adds no
mail, passes every check. -/
theorem Db.commit_update_ne_error (db : Db) (now : Time) {loaded : Loaded} {current : Dirty}
    (user : User) (huser : current.user = user.draft)
    (hcheck : db.checkUser (some loaded.user) user = none)
    (hsession : ∀ s ∈ current.session, ∃ l ∈ loaded.session, l.pendingNewEmail = s.pendingNewEmail)
    {e : DbError} : db.commit now (.update loaded current []) ≠ .error e := by
  have hlong : (current.session.any fun s =>
      tooLong loaded.session s 100 fun s => s.pendingNewEmail.map (·.text)) = false := by
    cases hs : current.session with
    | none => rfl
    | some s =>
      obtain ⟨l, hl, hpending⟩ := hsession s hs
      rw [Option.mem_def.mp hl]
      simp [tooLong, changed, hpending]
  simp only [commit, huser, User.draft_toRow, hlong, List.any_nil, hcheck]
  intro h
  cases h

/-- A companion row after the flush of an account: the in-memory object if the query
loaded it. -/
theorem get?_flushRow {α : Type} [Keyed α UserId] {write : α → α → α → α}
    (hkey : ∀ l c s, Keyed.key (write l c s) = Keyed.key s) {table : List α} {id : UserId} {row : α}
    (hrow : Keyed.get? table id = some row) (load : Bool) (current : Option α)
    (hwrite : ∀ c, load = true → current = some c → write row c row = c) (j : UserId) :
    Keyed.get? (flushRow write id (if load then some row else none) current table) j =
      if j = id then some (if load then current.getD row else row) else Keyed.get? table j := by
  by_cases hj : j = id
  · subst hj
    cases load with
    | false => simp [flushRow, hrow]
    | true =>
      cases current with
      | none => simp [flushRow, hrow]
      | some c => simp [flushRow, Keyed.get?_modify_self _ _ (hkey row c), hrow, hwrite c rfl rfl]
  · cases load with
    | false => simp [flushRow, hj]
    | true =>
      cases current with
      | none => simp [flushRow, hj]
      | some c => simp [flushRow, Keyed.get?_modify_ne _ hj (hkey row c), hj]

theorem keys_flushRow {α : Type} [Keyed α UserId] {write : α → α → α → α}
    (hkey : ∀ l c s, Keyed.key (write l c s) = Keyed.key s) (table : List α) (id : UserId)
    (loaded current : Option α) :
    Keyed.keys (flushRow write id loaded current table) = Keyed.keys table := by
  unfold flushRow
  split
  · exact Keyed.keys_modify _ _ (hkey _ _)
  · rfl

/-- The account that the in-memory objects describe. -/
def Account.updated (acc : Account) (q : UserQuery) (user : User) (current : Dirty) : Account where
  user := user
  session := if q.loadSession then current.session.getD acc.session else acc.session
  activation := if q.loadActivation then current.activation.getD acc.activation else acc.activation
  loginLockout :=
    if q.loadLoginLockout then current.loginLockout.getD acc.loginLockout else acc.loginLockout
  cachedVersion := acc.cachedVersion

/-- The in-memory objects still belong to the account. -/
structure Account.Owns (acc : Account) (current : Dirty) : Prop where
  user : current.user.id = acc.user.id
  createdAt : current.user.createdAt = acc.user.createdAt
  session : ∀ s ∈ current.session, s.userId = acc.session.userId
  activation : ∀ a ∈ current.activation, a.userId = acc.activation.userId
  loginLockout : ∀ l ∈ current.loginLockout, l.userId = acc.loginLockout.userId

/-- **A commit of loaded objects moves one account**, to what the objects describe, when
nothing was committed since the load. -/
theorem World.Coherent.commit_update {w : World} (hc : w.Coherent) {id : UserId} {acc : Account}
    (hacc : w.account id = some acc) {q : UserQuery} {current : Dirty} (hown : acc.Owns current)
    {emails : List NewPendingEmail} {db' : Db}
    (h : w.db.commit w.clock (.update (acc.loaded w.db q) current emails) = .ok db') :
    ∃ user, user.draft = current.user ∧
      w.db.checkUser (some acc.user) user = none ∧
      Moved w { w with db := db' } id (acc.updated q user current) := by
  obtain ⟨user, huser, hcheck, husers, hsessions, hactivations, hlockouts, hseq, -⟩ :=
    Db.commit_update h
  have hdraft := UserDraft.draft_of_toRow huser
  have hid : user.id = acc.user.id := by rw [← hown.user, ← hdraft]; rfl
  have hat : user.createdAt = acc.user.createdAt := by rw [← hown.createdAt, ← hdraft]; rfl
  obtain ⟨hu, hs, ha, hl, hv⟩ := account_eq_some_iff.mp hacc
  have haid := account_id hacc
  simp only [Account.loaded, haid] at husers hsessions hactivations hlockouts
  -- Table by table: the row of the account is what the object says, the others stay.
  have hgu : ∀ j, Keyed.get? db'.users j =
      if j = id then some user else Keyed.get? w.db.users j := by
    intro j
    by_cases hj : j = id
    · subst hj
      rw [husers, Keyed.get?_modify_self _ _ (User.key_write _ _), hu]
      simp [User.write_loaded hid hat]
    · rw [husers, Keyed.get?_modify_ne _ hj (User.key_write _ _), if_neg hj]
  have hgs := get?_flushRow UserSession.key_write hs q.loadSession current.session
    fun c _ hcur => UserSession.write_loaded (hown.session c hcur)
  have hga := get?_flushRow UserActivation.key_write ha q.loadActivation current.activation
    fun c _ hcur => UserActivation.write_loaded (hown.activation c hcur)
  have hgl := get?_flushRow UserLoginLockout.key_write hl q.loadLoginLockout current.loginLockout
    fun c _ hcur => UserLoginLockout.write_loaded (hown.loginLockout c hcur)
  have hku : Keyed.keys db'.users = Keyed.keys w.db.users := by
    rw [husers]
    exact Keyed.keys_modify _ _ (User.key_write _ _)
  refine ⟨user, hdraft, hcheck, ?_, fun j hj => ?_, ⟨?_, ?_, ?_, ?_, ?_⟩, ?_⟩
  · refine account_eq_some_iff.mpr ⟨by simp [hgu, Account.updated], ?_, ?_, ?_, hv⟩
    · simp [hsessions, hgs, Account.updated]
    · simp [hactivations, hga, Account.updated]
    · simp [hlockouts, hgl, Account.updated]
  · unfold World.account
    simp [hgu, hsessions, hgs, hactivations, hga, hlockouts, hgl, hj]
  · exact hku ▸ hc.db.nodup
  · rw [hku, hsessions, keys_flushRow UserSession.key_write]
    exact hc.db.sessions
  · rw [hku, hactivations, keys_flushRow UserActivation.key_write]
    exact hc.db.activations
  · rw [hku, hlockouts, keys_flushRow UserLoginLockout.key_write]
    exact hc.db.loginLockouts
  · intro j hj
    rw [hseq]
    exact hc.db.fresh j (hku ▸ hj)
  · exact fun j hj => hc.orphans j (hku ▸ hj)

/-! ### Registrations -/

/-- What a successful registration appends. -/
theorem Db.commit_register {db db' : Db} {now : Time} {user : User} {activation : UserActivation}
    {session : UserSession} {loginLockout : UserLoginLockout} {email : NewPendingEmail}
    (h : db.commit now (.register user activation session loginLockout email) = .ok db') :
    user.id ∉ Keyed.keys db.users ∧
      db'.users = db.users ++ [{ user with createdAt := now }] ∧
      db'.sessions = db.sessions ++ [session] ∧ db'.activations = db.activations ++ [activation] ∧
      db'.loginLockouts = db.loginLockouts ++ [loginLockout] ∧ db'.usersIdSeq = db.usersIdSeq := by
  simp only [Db.commit] at h
  split at h
  · simp at h
  · next hnew =>
    split at h
    · simp at h
    · split at h
      · simp at h
      · cases h
        exact ⟨hnew, rfl, rfl, rfl, rfl, rfl⟩

/-- Drawing random values touches no table. -/
theorem World.Coherent.drawn {w : World} (hc : w.Coherent) (draws : ℕ) :
    ({ w with draws := draws } : World).Coherent := ⟨hc.db, hc.orphans⟩

/-- The sequence has moved on; nothing else has. -/
theorem World.Coherent.bumped {w : World} (hc : w.Coherent) :
    ({ w with db := { w.db with usersIdSeq := w.db.usersIdSeq + 1 } } : World).Coherent where
  db := ⟨hc.db.nodup, hc.db.sessions, hc.db.activations, hc.db.loginLockouts,
    fun id hid => Nat.lt_succ_of_lt (hc.db.fresh id hid)⟩
  orphans := hc.orphans

/-- **A registration adds one account**, under the id the flush drew. -/
theorem World.Coherent.commit_register {w : World} (hc : w.Coherent) {user : User}
    {activation : UserActivation} {session : UserSession} {loginLockout : UserLoginLockout}
    {email : NewPendingEmail} {db' : Db} (hid : user.id = w.db.usersIdSeq)
    (hs : session.userId = user.id) (ha : activation.userId = user.id)
    (hl : loginLockout.userId = user.id)
    (h : ({ w.db with usersIdSeq := w.db.usersIdSeq + 1 } : Db).commit w.clock
      (.register user activation session loginLockout email) = .ok db') :
    w.account user.id = none ∧
      Moved w { w with db := db' } user.id
        { user := { user with createdAt := w.clock }, session, activation, loginLockout
          cachedVersion := none } := by
  obtain ⟨hnew, husers, hsessions, hactivations, hlockouts, hseq⟩ := Db.commit_register h
  have hnone : w.account user.id = none := hc.account_eq_none_iff.mpr hnew
  -- The id is new in every table, so its row is the one that was appended.
  have hgu := Keyed.get?_concat w.db.users { user with createdAt := w.clock }
  have hgs := Keyed.get?_concat w.db.sessions session
  have hga := Keyed.get?_concat w.db.activations activation
  have hgl := Keyed.get?_concat w.db.loginLockouts loginLockout
  simp only [key_user, key_userSession, key_userActivation, key_userLoginLockout, hs, ha, hl,
    hc.db.sessions, hc.db.activations, hc.db.loginLockouts] at hgu hgs hga hgl
  have hku : Keyed.keys db'.users = Keyed.keys w.db.users ++ [user.id] := by
    rw [husers, Keyed.keys_concat]
    rfl
  refine ⟨hnone, ⟨?_, fun j hj => ?_, ⟨?_, ?_, ?_, ?_, ?_⟩, ?_⟩⟩
  · refine account_eq_some_iff.mpr ⟨?_, ?_, ?_, ?_, hc.orphans _ hnew⟩
    · simp [husers, hgu _ hnew]
    · simp [hsessions, hgs _ hnew]
    · simp [hactivations, hga _ hnew]
    · simp [hlockouts, hgl _ hnew]
  · simp only [World.account, husers, hsessions, hactivations, hlockouts, hgu j hnew, hgs j hnew,
      hga j hnew, hgl j hnew, hj, if_false]
  · rw [hku, ← List.concat_eq_append]
    exact hc.db.nodup.concat hnew
  · rw [hku, hsessions, Keyed.keys_concat, hc.db.sessions, key_userSession, hs]
  · rw [hku, hactivations, Keyed.keys_concat, hc.db.activations, key_userActivation, ha]
  · rw [hku, hlockouts, Keyed.keys_concat, hc.db.loginLockouts, key_userLoginLockout, hl]
  · intro j hj
    rw [hku, List.mem_append, List.mem_singleton] at hj
    rw [hseq]
    rcases hj with hj | rfl
    · exact Nat.lt_succ_of_lt (hc.db.fresh j hj)
    · exact hid ▸ Nat.lt_succ_self _
  · intro j hj
    rw [hku, List.mem_append, not_or] at hj
    exact hc.orphans j hj.1

end SmsLite
