import SmsLite.Details.Readers
import SmsLite.Refinement.GroupService
import SmsLite.Secrets.Invites

/-!
# Are the cached details current?

Three keys hold the details of a user, each by its own schema, and a student's details embed
the group.  The operations that write what they show have to delete them: `activate_user`
deletes one key only, `activate_account` none, and `update_group` knows the keys of the groups
only.  This module proves that nothing else makes an entry stale, and that these do.

## Main definitions

* `World.profile`, `CacheKey.detail?` — the row with its group, and the schema of each key.
* `World.DetailsCurrent` — every cached detail shows the current row.
* `School`, `SchoolEvent` — the user and auth services beside the group services.
* `Event.Stales`, `School.Stales` — an event after which an entry is stale.

## Main results

* `Account.Step.details` — what each step does to what the schemas show.
* `World.DetailsCurrent.after`, `Event.Stales.after` — an event of the user services keeps the
  entries current exactly if it is no `Event.Stales`.
* `detailsCurrent_run_iff` — **the entries are current throughout a run exactly if no event of
  it is a `School.Stales`**, and `staffDetail_stale`: not in every run.
-/

namespace SmsLite

open Interleave
open Interleave.Prog (Ends ends_map)

variable {env : Env} {w : World}

/-! ### What the keys should show -/

/-- The row of a user as the schemas read it: a student comes with the group. -/
def User.profile (groups : List Group) (u : User) : Loaded where
  user := u
  session := none
  activation := none
  loginLockout := none
  group := if u.role = .student then u.groupId.bind (Keyed.get? groups) else none

/-- The current row of a user. -/
def World.profile (w : World) (u : UserId) : Option Loaded :=
  (Keyed.get? w.db.users u).map (User.profile w.db.groups)

/-- The user a key is about, and the schema of its entries. -/
def CacheKey.detail? : CacheKey → Option (UserId × (Loaded → CacheValue))
  | .userDetailKeyAdmin userId => some (userId, fun user => .admin user.adminCache)
  | .userDetailKeyStaff userId => some (userId, fun user => .staff user.directorCache)
  | .userDetailKeySelf userId => some (userId, fun user => .self user.selfCache)
  | .accessTokenVersionKey _ => none

/-- Every cached detail shows the current row of the user. -/
def World.DetailsCurrent (w : World) : Prop :=
  ∀ key u project value, key.detail? = some (u, project) → w.cache key = some value →
    (w.profile u).map project = some value

section Keys

variable {key : CacheKey} {u : UserId} {project : Loaded → CacheValue}

theorem CacheKey.mem_of_detail (h : key.detail? = some (u, project)) : key ∈ userDetailKeys u := by
  cases key <;> cases h <;> simp [userDetailKeys]

theorem CacheKey.detail_of_mem (h : key ∈ userDetailKeys u) :
    ∃ project, key.detail? = some (u, project) := by
  simp only [userDetailKeys, List.mem_cons, List.not_mem_nil, or_false] at h
  rcases h with rfl | rfl | rfl <;> exact ⟨_, rfl⟩

theorem CacheKey.ne_version_of_detail (h : key.detail? = some (u, project)) (id : UserId) :
    key ≠ .accessTokenVersionKey id := by
  rintro rfl
  cases h

/-- No schema shows the password. -/
theorem CacheKey.detail_password (h : key.detail? = some (u, project)) (groups : List Group)
    (user : User) (passwordHash : Option String) :
    project (User.profile groups { user with passwordHash := passwordHash }) =
      project (User.profile groups user) := by
  cases key <;> cases h <;> rfl

/-- The schema of the user's own entry does not show the status. -/
theorem CacheKey.detail_status (h : CacheKey.detail? (.userDetailKeySelf u) = some (u, project))
    (groups : List Group) (user : User) (isActive : Bool) (status : UserStatus) :
    project (User.profile groups { user with isActive := isActive, status := status }) =
      project (User.profile groups user) := by
  cases h
  rfl

/-- Every schema shows the group, and no more of it than its response. -/
theorem CacheKey.detail_group (h : key.detail? = some (u, project)) (user : User)
    (groups groups' : List Group) :
    project (user.profile groups) = project (user.profile groups') ↔
      (user.profile groups).group.map Group.response =
        (user.profile groups').group.map Group.response := by
  cases key <;> cases h <;>
    simp [Loaded.adminCache, Loaded.directorCache, Loaded.selfCache, User.profile]

/-- A reader fills its key by the schema, with the current row. -/
theorem Request.reader_profile {r : Request} {rd : Reader} {l : Loaded} (hr : r.reader? = some rd)
    (hl : w.db.selectUserById rd.userId rd.query = some l) :
    rd.key.detail? = some (rd.userId, rd.project) ∧ w.profile rd.userId = some l := by
  simp only [Db.selectUserById, Option.map_eq_some_iff, Option.filter_eq_some_iff,
    Request.admits_query hr] at hl
  obtain ⟨user, ⟨huser, hadmits⟩, rfl⟩ := hl
  simp only [World.profile, huser, Option.map_some, Option.some.injEq]
  cases r with
  | getTeacherByIdAdmin | getTeacherByIdDirector | getStudentByIdAdmin | getStudentByIdDirector
  | getMyProfile | getMyStudentProfile =>
    cases hr
    have hrole := of_decide_eq_true hadmits
    exact ⟨rfl, by simp [User.profile, Db.load, hrole]⟩
  | _ => cases hr

end Keys

/-- The profile is the account's. -/
theorem World.Coherent.profile_eq (hc : w.Coherent) (u : UserId) :
    w.profile u = (w.account u).map fun acc => acc.user.profile w.db.groups := by
  cases hacc : w.account u with
  | none =>
    have hnone : Keyed.get? w.db.users u = none :=
      (Keyed.get?_eq_none_iff _ _).mpr (hc.account_eq_none_iff.mp hacc)
    rw [profile, hnone]
    rfl
  | some acc =>
    rw [profile, World.account_user hacc]
    rfl

/-! ### Steps -/

section Step

variable {now : Time} {draws draws' : ℕ} {r : Request} {out : Outcome} {acc acc' : Account}

/-- **What each step does to what the schemas show**: it deletes the three keys, or changes at
most the password, or makes the account active. -/
theorem Account.Step.details (h : acc.Step env now draws r out acc' draws') :
    r.forgets acc.user.id = userDetailKeys acc.user.id ∨
      (∃ hash, acc'.user = { acc.user with passwordHash := hash }) ∨
      (r = .activateUser acc.user.id ∧ acc.user.role ≠ .systemAdmin ∧
        acc'.user = { acc.user with isActive := true, status := .active }) ∨
      ∃ q hash, r = .activateAccount q ∧ acc.AcceptsInvite env now q.inviteToken ∧
        Secret.Valid q.newPassword ∧ acc'.user =
          { acc.user with passwordHash := hash, isActive := true, status := .active } := by
  cases h with
  | updateUser | updateUserCredentials | updatePendingCredentials | deactivateUser | renameMe
  | requestEmailChange | renameMeAndRequestEmailChange | confirmEmailChange => exact Or.inl rfl
  | activateUser _ hrole => exact Or.inr (Or.inr (Or.inl ⟨rfl, hrole, rfl⟩))
  | activateAccount _ q _ haccepts hpassword =>
    have hvalid := Env.valid_of_hashPassword hpassword
    exact Or.inr (Or.inr (Or.inr ⟨q, _, rfl, haccepts, hvalid, rfl⟩))
  | _ => exact Or.inr (Or.inl ⟨_, rfl⟩)

/-- Both ways to make an account active. -/
theorem Account.Step.activates (h : acc.Step env now draws r out acc' draws')
    (hr : (∃ id, r = .activateUser id) ∨ ∃ q, r = .activateAccount q) :
    acc'.user.status = .active := by
  rcases hr with ⟨id, rfl⟩ | ⟨q, rfl⟩ <;> cases h <;> rfl

/-- No step moves a user to another group. -/
theorem Account.Step.groupId (h : acc.Step env now draws r out acc' draws') :
    acc'.user.groupId = acc.user.groupId := by
  cases h with
  | updateUser _ q user _ _ huser =>
    have hgroup := congrArg UserColumns.groupId huser
    cases q <;> exact hgroup
  | updateUserCredentials _ _ _ _ _ huser | updatePendingCredentials _ _ _ _ _ huser =>
    have hgroup := congrArg UserColumns.groupId huser
    exact hgroup
  | _ => rfl

end Step

/-! ### Events of the user services -/

/-- The event makes an account active whose earlier status is still cached: `activate_user`
leaves the entry of the staff, `activate_account` that of the administrators too. -/
def Event.Stales (env : Env) (w : World) (e : Event) : Prop :=
  ∃ u acc, w.account u = some acc ∧ acc.user.isActive = false ∧
    ((e = .request (.activateUser u) ∧ acc.user.role ≠ .systemAdmin ∧
        w.cache (.userDetailKeyStaff u) ≠ none) ∨
      ∃ q, e = .request (.activateAccount q) ∧ w.db.userNamed q.username = some u ∧
        acc.AcceptsInvite env w.clock q.inviteToken ∧ Secret.Valid q.newPassword ∧
        (w.cache (.userDetailKeyAdmin u) ≠ none ∨ w.cache (.userDetailKeyStaff u) ≠ none))

/-- Activating an active account changes nothing. -/
theorem Account.Sound.activated_user {acc : Account} (hs : acc.Sound)
    (hactive : acc.user.isActive = true) :
    { acc.user with isActive := true, status := .active } = acc.user := by
  rw [← hactive, ← hs.isActive.mp hactive]

/-- A step that stales nothing leaves what the schemas show, as far as it is still cached. -/
theorem Account.Step.detail {u : UserId} {r : Request} {acc acc' : Account} (hs : w.Sound)
    (hacc : w.account u = some acc) (htarget : r.target? env w = some u)
    (hstep : acc.Step env w.clock w.draws r (w.respond env r) acc'
      (w.after env (.request r)).draws) (hstales : ¬ (Event.request r).Stales env w)
    {key : CacheKey} {project : Loaded → CacheValue} (hkey : key.detail? = some (u, project))
    (hkept : key ∉ r.forgets u) (hcached : w.cache key ≠ none) :
    project (acc'.user.profile w.db.groups) = project (acc.user.profile w.db.groups) := by
  obtain rfl := World.account_id hacc
  -- Only the status is at stake, and only where the account was not active before.
  have hactivated : (acc.user.isActive = false → key = .userDetailKeySelf acc.user.id) →
      project (User.profile w.db.groups { acc.user with isActive := true, status := .active }) =
        project (acc.user.profile w.db.groups) := by
    intro hself
    by_cases hactive : acc.user.isActive = true
    · rw [(hs.accounts _ _ hacc).activated_user hactive]
    · obtain rfl := hself (Bool.not_eq_true _ ▸ hactive)
      exact CacheKey.detail_status hkey _ _ _ _
  -- A step deletes all three entries, changes the password only, or activates the account.
  rcases hstep.details with hforgets | ⟨hash, huser⟩ | ⟨rfl, hrole, huser⟩ |
    ⟨q, hash, rfl, haccepts, hvalid, huser⟩
  · exact absurd (hforgets ▸ CacheKey.mem_of_detail hkey) hkept
  · rw [huser]
    exact CacheKey.detail_password hkey _ _ _
  · rw [huser]
    refine hactivated fun hinactive => ?_
    cases key with
    | userDetailKeySelf => exact congrArg _ (Prod.ext_iff.mp (Option.some.inj hkey)).1
    | userDetailKeyAdmin =>
      cases hkey
      exact absurd (List.mem_singleton_self _) hkept
    | userDetailKeyStaff =>
      cases hkey
      exact absurd ⟨_, acc, hacc, hinactive, Or.inl ⟨rfl, hrole, hcached⟩⟩ hstales
    | accessTokenVersionKey => cases hkey
  · rw [huser]
    refine (CacheKey.detail_password hkey _ { acc.user with isActive := true, status := .active }
      hash).trans (hactivated fun hinactive => ?_)
    cases key with
    | userDetailKeySelf => exact congrArg _ (Prod.ext_iff.mp (Option.some.inj hkey)).1
    | userDetailKeyAdmin =>
      cases hkey
      exact absurd ⟨_, acc, hacc, hinactive,
        Or.inr ⟨q, rfl, htarget, haccepts, hvalid, Or.inl hcached⟩⟩ hstales
    | userDetailKeyStaff =>
      cases hkey
      exact absurd ⟨_, acc, hacc, hinactive,
        Or.inr ⟨q, rfl, htarget, haccepts, hvalid, Or.inr hcached⟩⟩ hstales
    | accessTokenVersionKey => cases hkey

/-- Time and evictions leave what is still cached as it was. -/
theorem World.DetailsCurrent.outside (h : w.DetailsCurrent) (o : Outside) :
    (outside o w).DetailsCurrent := by
  intro key u project value hkey hvalue
  have hprofile : (SmsLite.outside o w).profile u = w.profile u := by cases o <;> rfl
  have hcached : w.cache key = some value := by
    cases o with
    | tick d => exact hvalue
    | expire key' =>
      by_cases hsame : key = key'
      · subst hsame
        exact absurd ((Function.update_self _ _ _).symm.trans hvalue) (by simp)
      · exact (Function.update_of_ne hsame _ _).symm.trans hvalue
  rw [hprofile]
  exact h key u project value hkey hcached

/-- What the readers cache is the current row. -/
theorem World.DetailsCurrent.details (h : w.DetailsCurrent) (r : Request) {key : CacheKey}
    {u : UserId} {project : Loaded → CacheValue} {value : CacheValue}
    (hkey : key.detail? = some (u, project)) (hvalue : r.details w key = some value) :
    (w.profile u).map project = some value := by
  rw [r.details_eq] at hvalue
  cases hr : r.reader? with
  | none =>
    rw [hr] at hvalue
    exact h key u project value hkey hvalue
  | some rd =>
    rw [hr] at hvalue
    rcases w.filled_cases rd key with hsame | ⟨l, rfl, hl, hfilled⟩
    · exact h key u project value hkey (hsame.symm.trans hvalue)
    · -- The reader has just filled the key, so the entry is the row it has loaded.
      obtain ⟨hdetail, hrow⟩ := Request.reader_profile hr hl
      cases hdetail.symm.trans hkey
      rw [hrow]
      exact hfilled.symm.trans hvalue

/-- **An event of the user services that stales nothing keeps the entries current.** -/
theorem World.DetailsCurrent.after (hs : w.Sound) (h : w.DetailsCurrent) {e : Event}
    (hstales : ¬ e.Stales env w) : (w.after env e).DetailsCurrent := by
  cases e with
  | outside o => exact h.outside o
  | request r =>
    intro key u project value hkey hvalue
    have hversion := CacheKey.ne_version_of_detail hkey
    have hafter := (hs.after env (.request r)).toCoherent.profile_eq u
    have hbefore := hs.toCoherent.profile_eq u
    cases (hs.serves env r).served with
    | quiet haccounts _ _ _ hleaves =>
      rw [hafter, haccounts, hleaves.groups, ← hbefore]
      rw [hleaves.details key hversion] at hvalue
      exact h.details r hkey hvalue
    | moved id acc acc' htarget hacc hstep hmoved hleaves =>
      rw [hleaves.details key hversion] at hvalue
      -- The entry is still there, so the step has not deleted it and it is the old one.
      have hkept : key ∉ r.forgets id := by
        intro hmem
        exact absurd ((if_pos hmem).symm.trans hvalue) (by simp)
      have hcached : w.cache key = some value := (if_neg hkept).symm.trans hvalue
      have hcurrent := h key u project value hkey hcached
      by_cases hu : u = id
      · subst hu
        have hsame := hstep.detail hs hacc htarget hstales hkey hkept (by simp [hcached])
        rw [hbefore, hacc] at hcurrent
        rw [hafter, hmoved.account, hleaves.groups]
        exact (congrArg some hsame).trans hcurrent
      · rwa [hafter, hmoved.others u hu, hleaves.groups, ← hbefore]
    | registered _ _ user _ _ _ hnone hmoved _ hleaves =>
      rw [hleaves.details key hversion] at hvalue
      have hcurrent := h key u project value hkey hvalue
      by_cases hu : u = user.id
      · -- A new user has no entry yet: an entry that is current has a row behind it.
        subst hu
        rw [hbefore, hnone] at hcurrent
        cases hcurrent
      · rwa [hafter, hmoved.others u hu, hleaves.groups, ← hbefore]

/-- `activate_user` of an inactive user succeeds. -/
theorem activateUser_respond {u : UserId} {acc : Account} (hacc : w.account u = some acc)
    (hrole : acc.user.role ≠ .systemAdmin) (hinactive : acc.user.isActive = false) :
    w.respond env (.activateUser u) = .ok .none := by
  change Ends (exec env) ((fun _ => Response.none) <$> activateUser u)
    (fun out _ => out = .ok .none) w
  rw [ends_map]
  unfold activateUser
  rw [ends_getUserById, World.selectUserById_of_account hacc (by
    simpa [UserQuery.admits, systemAdminInvisibleRoles] using hrole), ensureExists_some]
  simp only [Account.loaded_user, Account.loaded_loginLockout, if_true, hinactive,
    Bool.false_eq_true, if_false, deref_some]
  refine ends_commitOrRaise (fun db' _ => ?_) fun e hcommit => absurd hcommit
    (w.db.commit_update_ne_error w.clock acc.activated.user rfl
      (w.db.checkUser_eq_none rfl rfl rfl rfl rfl rfl rfl) (by simp))
  rw [ends_createTask, ends_deleteCache']
  rfl

/-- An entry that shows a status the account no longer has. -/
theorem World.not_current_of_status {w' : World} (hs : w.Sound) (h : w.DetailsCurrent) {u : UserId}
    {acc acc' : Account} (hacc : w.account u = some acc) (hinactive : acc.user.isActive = false)
    (hs' : w'.Sound) (hacc' : w'.account u = some acc') (hactive : acc'.user.status = .active)
    {key : CacheKey} (hkey : key = .userDetailKeyAdmin u ∨ key = .userDetailKeyStaff u)
    (hcached : w.cache key ≠ none) (hkept : w'.cache key = w.cache key) : ¬ w'.DetailsCurrent := by
  intro h'
  obtain ⟨value, hvalue⟩ := Option.ne_none_iff_exists'.mp hcached
  have hstatus : acc.user.status ≠ .active := by
    intro hactive
    rw [(hs.accounts u acc hacc).isActive.mpr hactive] at hinactive
    cases hinactive
  -- The one value is the projection of the old row and of the new one.
  have hsame : ∀ project, key.detail? = some (u, project) →
      project (acc.user.profile w.db.groups) = project (acc'.user.profile w'.db.groups) := by
    intro project hdetail
    have hold := h key u project value hdetail hvalue
    have hnew := h' key u project value hdetail (hkept.trans hvalue)
    rw [hs.toCoherent.profile_eq, hacc] at hold
    rw [hs'.toCoherent.profile_eq, hacc'] at hnew
    exact Option.some.inj (hold.trans hnew.symm)
  refine hstatus (Eq.trans ?_ hactive)
  rcases hkey with rfl | rfl
  · exact congrArg UserResponseAdminCache.status (CacheValue.admin.inj (hsame _ rfl))
  · exact congrArg UserResponseDirectorCache.status (CacheValue.staff.inj (hsame _ rfl))

/-- **An event of the user services that stales an entry leaves it stale.** -/
theorem Event.Stales.after (hs : w.Sound) (h : w.DetailsCurrent) {e : Event}
    (hstales : e.Stales env w) : ¬ (w.after env e).DetailsCurrent := by
  obtain ⟨u, acc, hacc, hinactive, ⟨rfl, hrole, hcached⟩ | ⟨q, rfl, hname, haccepts, hvalid,
    hcached⟩⟩ := hstales
  · obtain ⟨acc', hstep, hacc', hleaves⟩ :=
      hs.step_of_ok rfl rfl hacc (activateUser_respond hacc hrole hinactive)
    exact World.not_current_of_status hs h hacc hinactive (hs.after env _) hacc'
      (hstep.activates (Or.inl ⟨u, rfl⟩)) (Or.inr rfl) hcached
      ((hleaves.details _ (by simp)).trans (if_neg (by simp [Request.forgets])))
  · obtain ⟨acc', hstep, hacc', hleaves⟩ :=
      hs.step_of_ok (r := .activateAccount q) rfl hname hacc
        ((Account.AcceptsInvite.respond hs hacc hname haccepts).mpr hvalid)
    have hactive : acc'.user.status = .active := hstep.activates (Or.inr ⟨q, rfl⟩)
    have hkept : ∀ key : CacheKey, (∀ id, key ≠ .accessTokenVersionKey id) →
        (w.after env (.request (.activateAccount q))).cache key = w.cache key := by
      intro key hkey
      exact (hleaves.details key hkey).trans (if_neg List.not_mem_nil)
    rcases hcached with hcached | hcached
    · exact World.not_current_of_status hs h hacc hinactive (hs.after env _) hacc' hactive
        (Or.inl rfl) hcached (hkept _ (by simp))
    · exact World.not_current_of_status hs h hacc hinactive (hs.after env _) hacc' hactive
        (Or.inr rfl) hcached (hkept _ (by simp))

/-! ### The user services beside the group services -/

/-- The whole state: groups have an id sequence and cache keys of their own. -/
structure School where
  world : World
  groupsIdSeq : ℕ
  groupCache : GroupCacheKey → Option GroupCacheValue

/-- What the group services work on. -/
def School.store (s : School) : GroupStore where
  rows := s.world.db.groups
  idSeq := s.groupsIdSeq
  clock := s.world.clock
  cache := s.groupCache

/-- What they leave. -/
def School.withStore (s : School) (store : GroupStore) : School where
  world := { s.world with db := { s.world.db with groups := store.rows } }
  groupsIdSeq := store.idSeq
  groupCache := store.cache

/-- A step of a sequential run of all services. -/
inductive SchoolEvent
  | user (e : Event)
  | group (r : GroupRequest)
  | expireGroup (key : GroupCacheKey)

/-- The state after an event. -/
def School.after (env : Env) (s : School) : SchoolEvent → School
  | .user e => { s with world := s.world.after env e }
  | .group r => s.withStore (s.store.after r)
  | .expireGroup key => { s with groupCache := Function.update s.groupCache key none }

/-- The state after a sequential run. -/
def School.run (env : Env) (s : School) (events : List SchoolEvent) : School :=
  Run.run (School.after env) s events

/-- A state a run may start from: the group of a user exists, and new groups get new ids. -/
structure School.Seeded (s : School) : Prop where
  world : s.world.Seeded
  groupsIdSeq : ∀ id ∈ Keyed.keys s.world.db.groups, id < s.groupsIdSeq
  groupIds : ∀ u ∈ s.world.db.users, ∀ id ∈ u.groupId, id ∈ Keyed.keys s.world.db.groups

/-- What holds of every reachable state. -/
structure School.Sound (s : School) : Prop where
  world : s.world.Sound
  groupsIdSeq : ∀ id ∈ Keyed.keys s.world.db.groups, id < s.groupsIdSeq
  groupIds : ∀ u acc, s.world.account u = some acc → ∀ id ∈ acc.user.groupId,
    id ∈ Keyed.keys s.world.db.groups

variable {s : School}

theorem School.Seeded.sound (hs : s.Seeded) : s.Sound where
  world := hs.world.sound
  groupsIdSeq := hs.groupsIdSeq
  groupIds _ _ hacc := hs.groupIds _ (Keyed.mem_of_get? (World.account_user hacc))

theorem School.Sound.withStore (hs : s.Sound) {store : GroupStore}
    (hkeys : ∀ id ∈ Keyed.keys s.world.db.groups, id ∈ Keyed.keys store.rows)
    (hseq : ∀ id ∈ Keyed.keys store.rows, id < store.idSeq) : (s.withStore store).Sound where
  world :=
    ⟨⟨⟨hs.world.db.nodup, hs.world.db.sessions, hs.world.db.activations,
      hs.world.db.loginLockouts, hs.world.db.fresh⟩, hs.world.orphans⟩, hs.world.accounts⟩
  groupsIdSeq := hseq
  groupIds u acc hacc id hid := hkeys id (hs.groupIds u acc hacc id hid)

/-- A request of the user services moves no user to another group, and leaves the groups. -/
theorem School.Sound.request (hs : s.Sound) (env : Env) (r : Request) :
    (s.after env (.user (.request r))).Sound := by
  have hserves := hs.world.serves env r
  suffices hgroups : (s.world.after env (.request r)).db.groups = s.world.db.groups ∧
      ∀ u acc, (s.world.after env (.request r)).account u = some acc → ∀ id ∈ acc.user.groupId,
        id ∈ Keyed.keys s.world.db.groups by
    refine ⟨hs.world.after env (.request r), ?_, ?_⟩
    · intro id hid
      exact hs.groupsIdSeq id (hgroups.1 ▸ hid)
    · intro u acc hacc id hid
      exact hgroups.1 ▸ hgroups.2 u acc hacc id hid
  cases hserves.served with
  | quiet haccounts _ _ _ hleaves =>
    exact ⟨hleaves.groups, fun u acc hacc => hs.groupIds u acc ((haccounts u).symm.trans hacc)⟩
  | moved id acc acc' _ hacc hstep hmoved hleaves =>
    refine ⟨hleaves.groups, fun u acc₁ hacc₁ => ?_⟩
    by_cases hu : u = id
    · subst hu
      cases hmoved.account.symm.trans hacc₁
      rw [hstep.groupId]
      exact hs.groupIds u acc hacc
    · exact hs.groupIds u acc₁ ((hmoved.others u hu).symm.trans hacc₁)
  | registered _ _ user _ _ huser _ hmoved _ hleaves =>
    refine ⟨hleaves.groups, fun u acc₁ hacc₁ => ?_⟩
    by_cases hu : u = user.id
    · subst hu
      cases hmoved.account.symm.trans hacc₁
      intro id hid
      rw [Account.registered, huser] at hid
      cases hid
    · exact hs.groupIds u acc₁ ((hmoved.others u hu).symm.trans hacc₁)

/-- **Soundness is kept by every event.** -/
theorem School.Sound.after (hs : s.Sound) (env : Env) (e : SchoolEvent) :
    (s.after env e).Sound := by
  cases e with
  | expireGroup key => exact ⟨hs.world, hs.groupsIdSeq, hs.groupIds⟩
  | user e =>
    cases e with
    | request r => exact hs.request env r
    | outside o =>
      have hdb : (s.world.after env (.outside o)).db = s.world.db := s.world.outside_db o
      refine ⟨hs.world.after env (.outside o), ?_, fun u acc hacc => ?_⟩
      · intro id hid
        exact hs.groupsIdSeq id (hdb ▸ hid)
      · obtain ⟨acc₀, hacc₀, hcases⟩ := hs.world.toCoherent.account_of_outside hacc
        have huser : acc.user = acc₀.user := by
          rcases hcases with rfl | rfl
          · rfl
          · rfl
        intro id hid
        exact hdb ▸ hs.groupIds u acc₀ hacc₀ id (huser ▸ hid)
  | group r =>
    have hseq : ∀ id ∈ Keyed.keys s.store.rows, id < s.store.idSeq := hs.groupsIdSeq
    cases s.store.change r with
    | none hrows hle =>
      refine hs.withStore (fun id hid => hrows ▸ hid) fun id hid => ?_
      exact (hseq id (hrows ▸ hid)).trans_le hle
    | added g hid hrows hnext =>
      refine hs.withStore (fun id hid => ?_) fun id hid => ?_
      · rw [hrows, Keyed.keys_concat]
        exact List.mem_append_left _ hid
      · rw [hrows, Keyed.keys_concat, List.mem_append, List.mem_singleton] at hid
        rw [hnext]
        rcases hid with hid | rfl
        · exact (hseq id hid).trans (Nat.lt_succ_self _)
        · exact hid ▸ Nat.lt_succ_self _
    | rewritten groupId g write _ hid hrows hsame =>
      have hkeys : Keyed.keys (s.store.after r).rows = Keyed.keys s.store.rows := by
        rw [hrows, Keyed.keys_modify _ _ hid]
      refine hs.withStore (fun id hid => hkeys ▸ hid) fun id hid => ?_
      exact hsame ▸ hseq id (hkeys ▸ hid)

/-- **Soundness is kept by every run.** -/
theorem School.Sound.run (hs : s.Sound) (env : Env) (events : List SchoolEvent) :
    (s.run env events).Sound :=
  Run.invariant' (fun _ e h => h.after env e) hs events

/-! ### Events of all services -/

/-- The event stales an entry: one of the user services does, or an update goes through of the
group of a student whose details are cached. -/
def School.Stales (env : Env) (s : School) : SchoolEvent → Prop
  | .user e => e.Stales env s.world
  | .group (.updateGroup groupId r) =>
    ∃ g u acc key, s.store.Updates groupId r g ∧ s.world.account u = some acc ∧
      acc.user.role = .student ∧ acc.user.groupId = some groupId ∧
      key ∈ userDetailKeys u ∧ s.world.cache key ≠ none
  | _ => False

/-- What becomes of the group of a user, as the schemas show it. -/
theorem School.Sound.profile_withStore (hs : s.Sound) {r : GroupRequest} {u : UserId}
    {acc : Account} (hacc : s.world.account u = some acc) {key : CacheKey}
    {project : Loaded → CacheValue} (hkey : key.detail? = some (u, project))
    (hcached : s.world.cache key ≠ none) (hstales : ¬ s.Stales env (.group r)) :
    project (acc.user.profile (s.store.after r).rows) =
      project (acc.user.profile s.world.db.groups) := by
  refine (CacheKey.detail_group hkey _ _ _).mpr ?_
  by_cases hstudent : acc.user.role = .student
  · simp only [User.profile, hstudent, if_true]
    cases hgroup : acc.user.groupId with
    | none => rfl
    | some groupId =>
      simp only [Option.bind_some]
      have hmem := hs.groupIds u acc hacc groupId hgroup
      cases s.store.change r with
      | none hrows => rw [hrows]; rfl
      | added g hid hrows =>
        have hid : Keyed.key g = s.groupsIdSeq := hid
        -- The group of the user was there before, so it is not the new one.
        have hnew : Keyed.key g ∉ Keyed.keys s.store.rows := by
          intro hold
          exact (hs.groupsIdSeq _ hold).ne hid
        have hne : groupId ≠ Keyed.key g := by
          rintro rfl
          exact hnew hmem
        rw [hrows, Keyed.get?_concat _ _ _ hnew, if_neg hne]
        rfl
      | rewritten groupId' g write hget hid hrows _ hseen =>
        by_cases hsame : groupId = groupId'
        · subst hsame
          have hold : Keyed.get? s.world.db.groups groupId = some g := hget
          rw [hrows, Keyed.get?_modify_self _ _ hid, hget, hold]
          -- The group of the user is rewritten: unseen, or by an update that stales the entry.
          rcases hseen with hseen | ⟨q, rfl, hupdates⟩
          · exact congrArg some hseen
          · exact absurd ⟨g, u, acc, key, hupdates, hacc, hstudent, hgroup,
              CacheKey.mem_of_detail hkey, hcached⟩ hstales
        · rw [hrows, Keyed.get?_modify_ne _ hsame hid]
          rfl
  · simp only [User.profile, hstudent, if_false]

/-- **An event that stales nothing keeps the entries current.** -/
theorem School.detailsCurrent_after (hs : s.Sound) (h : s.world.DetailsCurrent) {e : SchoolEvent}
    (hstales : ¬ s.Stales env e) : (s.after env e).world.DetailsCurrent := by
  cases e with
  | user e => exact h.after hs.world hstales
  | expireGroup key => exact h
  | group r =>
    intro key u project value hkey hvalue
    have hcurrent := h key u project value hkey hvalue
    have hsound := (hs.after env (.group r)).world
    rw [hs.world.toCoherent.profile_eq] at hcurrent
    rw [hsound.toCoherent.profile_eq]
    change ((s.world.account u).map _).map project = _
    cases hacc : s.world.account u with
    | none =>
      rw [hacc] at hcurrent
      cases hcurrent
    | some acc =>
      rw [hacc] at hcurrent
      have hcached : s.world.cache key ≠ none := fun hnone => by
        have hvalue : s.world.cache key = some value := hvalue
        simp [hnone] at hvalue
      exact (congrArg some (hs.profile_withStore hacc hkey hcached hstales)).trans hcurrent

/-- **An event that stales an entry leaves it stale.** -/
theorem School.Stales.after (hs : s.Sound) (h : s.world.DetailsCurrent) {e : SchoolEvent}
    (hstales : s.Stales env e) : ¬ (s.after env e).world.DetailsCurrent := by
  cases e with
  | user e => exact Event.Stales.after hs.world h hstales
  | expireGroup key => exact hstales.elim
  | group r =>
    cases r with
    | updateGroup groupId r =>
      obtain ⟨g, u, acc, key, hupdates, hacc, hstudent, hgroup, hmem, hcached⟩ := hstales
      intro h'
      obtain ⟨value, hvalue⟩ := Option.ne_none_iff_exists'.mp hcached
      obtain ⟨project, hkey⟩ := CacheKey.detail_of_mem hmem
      have hold := h key u project value hkey hvalue
      have hnew := h' key u project value hkey hvalue
      rw [hs.world.toCoherent.profile_eq, hacc] at hold
      rw [(hs.after env _).world.toCoherent.profile_eq] at hnew
      change ((s.world.account u).map _).map project = _ at hnew
      rw [hacc] at hnew
      -- The entry shows the group as it was, and as it is now.
      have hsame := (CacheKey.detail_group hkey _ _ _).mp (Option.some.inj (hnew.trans hold.symm))
      rcases s.store.after_updateGroup groupId r with
        ⟨g', write, hupdates', hid, hresponse, hafter⟩ | ⟨hnone, -⟩
      · obtain rfl := Keyed.get?_inj hupdates.found hupdates'.found
        have hget : Keyed.get? s.world.db.groups groupId = some g := hupdates.found
        change ((User.profile (s.store.after (.updateGroup groupId r)).rows acc.user).group.map _) =
          _ at hsame
        simp only [User.profile, hstudent, if_true, hgroup, Option.bind_some, hafter, hget,
          Keyed.get?_modify_self _ _ hid, hupdates.found, Option.map_some,
          Option.some.injEq] at hsame
        exact hresponse hsame
      · exact hnone g hupdates
    | _ => exact hstales.elim

/-! ### Runs -/

/-- **The entries are current throughout a run exactly if nothing in it stales one**: the three
keys of every user hold nothing, or what their schemas make of the row of the user and its
group, in every state on the way, if and only if no account whose status is cached is made
active and no group of a student with cached details is updated. -/
theorem detailsCurrent_run_iff (env : Env) (s : School) (hs : s.Seeded)
    (events : List SchoolEvent) :
    (∀ before after, events = before ++ after →
        (s.run env before).world.DetailsCurrent) ↔
      Run.Throughout (School.after env) (fun s e => ¬ s.Stales env e) s events := by
  have hstart : s.world.DetailsCurrent := by
    intro key u project value _ hvalue
    rw [hs.world.cache] at hvalue
    cases hvalue
  refine Run.invariant_iff (I := fun s : School => s.world.DetailsCurrent)
    (fun s e hs => hs.after env e) (fun s e hs hcurrent => ?_) hs.sound hstart events
  constructor
  · exact fun hafter hstales => hstales.after hs hcurrent hafter
  · exact fun hstales => School.detailsCurrent_after hs hcurrent hstales

/-- A school with one group, which the student is in. -/
def School.concrete : School where
  world :=
    { World.concrete with
      db :=
        { World.concrete.db with
          users := World.concrete.db.users.map fun u =>
            if u.role = .student then { u with groupId := some 1 } else u
          groups := [{ id := 1, name := "5-A", academicYear := 2025, gradeLevel := some 5
                       capacity := none, isArchived := false, archivedAt := none
                       createdAt := 0 }] } }
  groupsIdSeq := 2
  groupCache := fun _ => none

theorem School.concrete_seeded : School.concrete.Seeded where
  world :=
    { ids := by decide
      usersIdSeq := by decide
      users := by
        intro u' hu'
        obtain ⟨u, hu, rfl⟩ := List.mem_map.mp hu'
        have hseeded := World.concrete_seeded.users u hu
        split
        · exact ⟨hseeded.status, hseeded.isActive, hseeded.passwordHash⟩
        · exact hseeded
      sessions := rfl
      activations := rfl
      loginLockouts := rfl
      cache := rfl }
  groupsIdSeq := by decide
  groupIds := by
    decide

/-- The group gets another name. -/
def renameGroup : SchoolEvent :=
  .group (.updateGroup 1
    { name := .set "5-B", gradeLevel := .unset, capacity := .unset
      name_valid := by
        rintro _ ⟨⟩
        exact ⟨by decide, by decide⟩
      capacity_pos := nofun })

/-- The group is renamed before anybody looks. -/
theorem detailsCurrent_run_concrete :
    (School.concrete.run .concrete
      [renameGroup, .user (.request (.getStudentByIdDirector 2))]).world.DetailsCurrent := by
  refine (detailsCurrent_run_iff .concrete School.concrete School.concrete_seeded
    [renameGroup, .user (.request (.getStudentByIdDirector 2))]).mpr ⟨?_, ?_, trivial⟩ _ [] rfl
  · rintro ⟨g, u, acc, key, -, -, -, -, -, hcached⟩
    exact hcached rfl
  · rintro ⟨u, acc, -, -, ⟨⟨⟩, -⟩ | ⟨q, ⟨⟩, -⟩⟩

/-- **Not every run keeps the entries current**: the status after `activate_user`, the status
after `activate_account`, and the name of the group are stale. -/
theorem staffDetail_stale :
    ¬ (School.concrete.run .concrete
        [.user (.request (.deactivateUser 2)), .user (.request (.getStudentByIdDirector 2)),
          .user (.request (.activateUser 2))]).world.DetailsCurrent ∧
      ¬ (School.concrete.run .concrete
        [.user registerHopper, .user (.request (.getStudentByIdAdmin 3)),
          .user (.request (.activateAccount
            { username := "hopper", inviteToken := "1;"
              newPassword := "Pa55word!" }))]).world.DetailsCurrent ∧
      ¬ (School.concrete.run .concrete
        [.user (.request (.getMyStudentProfile 2)), renameGroup]).world.DetailsCurrent := by
  refine ⟨fun h => ?_, fun h => ?_, fun h => ?_⟩
  · exact absurd (h (.userDetailKeyStaff 2) 2 _ _ rfl rfl) (by decide)
  · exact absurd (h (.userDetailKeyAdmin 3) 3 _ _ rfl rfl) (by decide)
  · exact absurd (h (.userDetailKeySelf 2) 2 _ _ rfl rfl) (by decide)

end SmsLite
