import Mathlib.Data.String.Basic
import SmsLite.Details.Currency
import SmsLite.Lists.Users
import SmsLite.SubjectService

/-!
# System administrators and the services of other administrators

No request carries a role, and every load of `UserServiceAdmin` filters by role, in a query of
its own each time: six loads by id leave out the system administrators, two cached readers and
two lists ask for teachers or for students.  This module proves that none of the filters is
missing.

## Main definitions

* `Backend`, `Call` — all services side by side, and what may be called.
* `Call.isUserServiceAdmin` — the calls of `UserServiceAdmin`.
* `World.DetailsByRole` — every cached detail of `UserServiceAdmin` is of a teacher or a student.
* `Backend.SparesAdmins` — what a call of `UserServiceAdmin` does about system administrators.

## Main results

* `Account.Step.not_admin` — a step of `UserServiceAdmin` is not about a system administrator.
* `World.Sound.role?_after`, `World.Sound.rowsOf_after`, `World.Sound.posts_after` — what a
  request does to roles, to the rows of system administrators and to the outbox.
* `World.DetailsByRole.after` — the cached details keep to teachers and students.
* `admins_spared` — **no role ever changes, only teachers and students are registered, and
  `UserServiceAdmin` neither touches nor shows a system administrator**.
-/

namespace SmsLite

open Interleave
open Interleave.Prog (Ends ends_map)

variable {env : Env} {w : World}

/-! ### All services -/

/-- The whole state. -/
structure Backend where
  school : School
  subjects : SubjectStore

/-- What may be called, and what may happen in between. -/
inductive Call
  | school (e : SchoolEvent)
  | subject (r : SubjectRequest)
  | expireSubject (key : SubjectCacheKey)
  | users (r : UserListRequest)

/-- The state after a call; a list is read only. -/
def Backend.after (env : Env) (b : Backend) : Call → Backend
  | .school e => { b with school := b.school.after env e }
  | .subject r =>
    { b with subjects := { b.subjects with clock := b.school.world.clock }.after r }
  | .expireSubject key =>
    { b with
      subjects := { b.subjects with cache := Function.update b.subjects.cache key none } }
  | .users _ => b

/-- The state after a sequence of calls. -/
def Backend.run (env : Env) (b : Backend) (calls : List Call) : Backend :=
  Run.run (Backend.after env) b calls

/-- The users and what belongs to them. -/
abbrev Backend.world (b : Backend) : World := b.school.world

/-- The requests of `UserServiceAdmin`. -/
def Request.isUserServiceAdmin : Request → Bool
  | registerUser _ _ | updateUser _ _ | updateUserCredentials _ _ _ | deactivateUser _
  | activateUser _ | createResetPasswordRequest _ _ | resendActivationInvite _ _
  | getTeacherByIdAdmin _ | getStudentByIdAdmin _ => true
  | _ => false

/-- The calls of `UserServiceAdmin`. -/
def Call.isUserServiceAdmin : Call → Bool
  | .school (.user (.request r)) => r.isUserServiceAdmin
  | .users r => r.isAdmin
  | _ => false

/-! ### Steps -/

section Step

variable {now : Time} {draws draws' : ℕ} {r : Request} {out : Outcome} {acc acc' : Account}

/-- **A step of `UserServiceAdmin` is not about a system administrator.** -/
theorem Account.Step.not_admin (h : acc.Step env now draws r out acc' draws')
    (hr : r.isUserServiceAdmin = true) : acc.user.role ≠ .systemAdmin := by
  cases h with
  | updateUser _ _ _ hrole | updateUserCredentials _ _ _ _ hrole
  | updatePendingCredentials _ _ _ _ hrole | deactivateUser _ hrole | activateUser _ hrole
  | createResetPasswordRequest _ _ hrole | resendActivationInvite _ _ hrole => exact hrole
  | _ => cases hr

end Step

/-- A new user is a teacher or a student. -/
theorem CreateUserRequest.resolvedRole_cases (r : CreateUserRequest) :
    r.resolvedRole = .teacher ∨ r.resolvedRole = .student := by
  cases r with
  | teacher base => exact Or.inl rfl
  | student base dateOfBirth address => exact Or.inr rfl

/-! ### Roles -/

/-- The role of a user. -/
def World.role? (w : World) (id : UserId) : Option UserRole :=
  (Keyed.get? w.db.users id).map (·.role)

theorem World.Coherent.role?_eq (hc : w.Coherent) (id : UserId) :
    w.role? id = (w.account id).map (·.user.role) := by
  rw [World.role?, hc.get?_users, Option.map_map]
  rfl

/-- The role of an account. -/
theorem World.role?_of_account {id : UserId} {acc : Account} (h : w.account id = some acc) :
    w.role? id = some acc.user.role := by
  rw [World.role?, World.account_user h]
  rfl

/-- **What an event does to the roles**: nothing, but `register_user` adds a teacher or a
student. -/
theorem World.Sound.role?_after (hs : w.Sound) (env : Env) (e : Event) (id : UserId) :
    (w.after env e).role? id = w.role? id ∨
      w.role? id = none ∧ ∃ currentUserId r, e = .request (.registerUser currentUserId r) ∧
        ((w.after env e).role? id = some .teacher ∨ (w.after env e).role? id = some .student) := by
  cases e with
  | outside o =>
    have hdb : (w.after env (.outside o)).db = w.db := w.outside_db o
    left
    rw [World.role?, World.role?, hdb]
  | request r =>
    have hc := hs.toCoherent
    have hc' := (hs.after env (.request r)).toCoherent
    cases (hs.acts env r).effect with
    | quiet haccounts =>
      left
      rw [hc.role?_eq, hc'.role?_eq, haccounts id]
    | moved id' acc acc' _ hacc hstep hmoved =>
      left
      by_cases hid : id = id'
      · subst hid
        rw [World.role?_of_account hacc, World.role?_of_account hmoved.account, hstep.role]
      · rw [hc.role?_eq, hc'.role?_eq, hmoved.others id hid]
    | registered currentUserId request user hr _ huser hnone hmoved =>
      by_cases hid : id = user.id
      · subst hid
        right
        refine ⟨by rw [hc.role?_eq, hnone]; rfl, currentUserId, request, by rw [hr], ?_⟩
        have hrole : user.role = request.resolvedRole := by rw [huser]; rfl
        rw [World.role?_of_account hmoved.account]
        show some user.role = some .teacher ∨ some user.role = some .student
        rw [hrole]
        rcases request.resolvedRole_cases with h | h
        · exact Or.inl (congrArg some h)
        · exact Or.inr (congrArg some h)
      · left
        rw [hc.role?_eq, hc'.role?_eq, hmoved.others id hid]

/-- A role stays. -/
theorem World.Sound.role?_stays (hs : w.Sound) (env : Env) (e : Event) {id : UserId}
    {role : UserRole} (h : w.role? id = some role) : (w.after env e).role? id = some role := by
  rcases hs.role?_after env e id with hsame | ⟨hnone, -⟩
  · exact hsame.trans h
  · cases hnone.symm.trans h

/-! ### Rows -/

/-- The rows of a user in the four tables. -/
def Db.rowsOf (db : Db) (id : UserId) :
    Option User × Option UserSession × Option UserActivation × Option UserLoginLockout :=
  (Keyed.get? db.users id, Keyed.get? db.sessions id, Keyed.get? db.activations id,
    Keyed.get? db.loginLockouts id)

theorem World.rowsOf_of_account {id : UserId} {acc : Account} (h : w.account id = some acc) :
    w.db.rowsOf id =
      (some acc.user, some acc.session, some acc.activation, some acc.loginLockout) := by
  obtain ⟨hu, hs, ha, hl, -⟩ := World.account_eq_some_iff.mp h
  rw [Db.rowsOf, hu, hs, ha, hl]

/-- **`UserServiceAdmin` leaves the rows of every system administrator.** -/
theorem World.Sound.rowsOf_after (hs : w.Sound) (env : Env) {r : Request}
    (hr : r.isUserServiceAdmin = true) {id : UserId} (hid : w.role? id = some .systemAdmin) :
    (w.after env (.request r)).db.rowsOf id = w.db.rowsOf id := by
  rw [hs.toCoherent.role?_eq] at hid
  obtain ⟨acc, hacc, hadmin⟩ := Option.map_eq_some_iff.mp hid
  have hsame : (w.after env (.request r)).account id = some acc := by
    cases (hs.acts env r).effect with
    | quiet haccounts => exact (haccounts id).trans hacc
    | moved id' acc₀ acc' _ hacc₀ hstep hmoved =>
      have hne : id ≠ id' := by
        rintro rfl
        obtain rfl := Option.some.inj (hacc.symm.trans hacc₀)
        exact hstep.not_admin hr hadmin
      exact (hmoved.others id hne).trans hacc
    | registered _ _ user _ _ _ hnone hmoved =>
      have hne : id ≠ user.id := by
        rintro rfl
        cases hnone.symm.trans hacc
      exact (hmoved.others id hne).trans hacc
  rw [World.rowsOf_of_account hacc, World.rowsOf_of_account hsame]

/-- **`UserServiceAdmin` posts nothing to a system administrator.** -/
theorem World.Sound.posts_after (hs : w.Sound) (env : Env) {r : Request}
    (hr : r.isUserServiceAdmin = true) :
    ∃ rows, (w.after env (.request r)).db.pendingEmails = w.db.pendingEmails ++ rows ∧
      ∀ e ∈ rows, ∀ id, e.recipientUserId = some id →
        (w.after env (.request r)).role? id ≠ some .systemAdmin := by
  have hstays : ∀ id role, w.role? id = some role →
      (w.after env (.request r)).role? id = some role :=
    fun id role h => hs.role?_stays env _ h
  cases (hs.serves env r).served with
  | quiet _ _ _ _ hleaves =>
    obtain ⟨rows, hrows, hposted⟩ := hleaves.rows
    obtain rfl := List.map_eq_nil_iff.mp hposted
    exact ⟨[], hrows, fun e he => absurd he List.not_mem_nil⟩
  | moved id' acc acc' _ hacc hstep _ hleaves =>
    obtain ⟨rows, hrows, hposted⟩ := hleaves.rows
    refine ⟨rows, hrows, fun e he id hid => ?_⟩
    have hmem : e.posted ∈ r.posts env w.draws acc acc' := hposted ▸ List.mem_map_of_mem he
    have hrecipient := r.posts_recipient env w.draws acc acc' e.posted hmem
    obtain rfl : acc.user.id = id := Option.some.inj (hrecipient.symm.trans hid)
    obtain rfl := World.account_id hacc
    rw [hstays _ _ (World.role?_of_account hacc)]
    exact fun h => hstep.not_admin hr (Option.some.inj h)
  | registered currentUserId request user _ _ huser _ hmoved _ hleaves =>
    obtain ⟨rows, hrows, hposted⟩ := hleaves.rows
    refine ⟨rows, hrows, fun e he id hid => ?_⟩
    have hmem : e.posted ∈ [_] := hposted ▸ List.mem_map_of_mem he
    have hrecipient := congrArg NewPendingEmail.recipientUserId (List.mem_singleton.mp hmem)
    obtain rfl : user.id = id := Option.some.inj (hrecipient.symm.trans hid)
    have hrole : user.role = request.resolvedRole := by rw [huser]; rfl
    rw [World.role?_of_account hmoved.account]
    show some user.role ≠ some .systemAdmin
    rw [hrole]
    rcases request.resolvedRole_cases with h | h
    · simp [h]
    · simp [h]

/-! ### Reads -/

/-- The details are of a teacher or a student. -/
def World.ShowsByRole (w : World) (id : UserId) (detail : UserResponseAdminCache) : Prop :=
  detail.id = id ∧ w.role? id = some detail.role ∧
    (detail.role = .teacher ∨ detail.role = .student)

/-- So is every cached detail of `UserServiceAdmin`. -/
def World.DetailsByRole (w : World) : Prop :=
  ∀ id value, w.cache (.userDetailKeyAdmin id) = some value →
    ∃ detail, value = .admin detail ∧ w.ShowsByRole id detail

theorem World.Seeded.detailsByRole (hw : w.Seeded) : w.DetailsByRole := by
  intro id value h
  rw [hw.cache] at h
  cases h

/-- A query by role loads a user of the role. -/
theorem World.showsByRole_of_select {id : UserId} {q : UserQuery} {l : Loaded}
    (hq : ∀ u, q.admits u = true → u.role = .teacher ∨ u.role = .student)
    (h : w.db.selectUserById id q = some l) : w.ShowsByRole id l.adminCache := by
  simp only [Db.selectUserById, Option.map_eq_some_iff, Option.filter_eq_some_iff] at h
  obtain ⟨u, ⟨hu, hadmits⟩, rfl⟩ := h
  have hid : u.id = id := Keyed.key_of_get? hu
  have hrole : w.role? id = some u.role := by rw [World.role?, hu]; rfl
  exact ⟨hid, hrole, hq u hadmits⟩

/-- The two queries of `UserServiceAdmin` that go to its key. -/
theorem Request.admits_adminReader {r : Request} {rd : Reader} {id : UserId}
    (hr : r.reader? = some rd) (hkey : rd.key = .userDetailKeyAdmin id) :
    rd.userId = id ∧ (∀ l, rd.project l = .admin l.adminCache) ∧
      ∀ u, rd.query.admits u = true → u.role = .teacher ∨ u.role = .student := by
  have hrole := Request.admits_query hr
  cases r with
  | getTeacherByIdAdmin | getStudentByIdAdmin =>
    cases hr
    cases hkey
    refine ⟨rfl, fun _ => rfl, fun u hu => ?_⟩
    rw [hrole] at hu
    simp [Request.admits] at hu
    simp [hu]
  | getTeacherByIdDirector | getStudentByIdDirector | getMyProfile | getMyStudentProfile =>
    cases hr
    cases hkey
  | _ => cases hr

/-- **The cached details keep to teachers and students.** -/
theorem World.DetailsByRole.after (h : w.DetailsByRole) (hs : w.Sound) (env : Env) (e : Event) :
    (w.after env e).DetailsByRole := by
  have hstays : ∀ {id detail}, w.ShowsByRole id detail → (w.after env e).ShowsByRole id detail :=
    fun ⟨hid, hrole, hcases⟩ => ⟨hid, hs.role?_stays env e hrole, hcases⟩
  intro id value hvalue
  have hkey : ∀ i, CacheKey.userDetailKeyAdmin id ≠ .accessTokenVersionKey i := by
    rintro _ ⟨⟩
  rcases hs.cache_after env e hkey with
    hsame | hnone | ⟨r, rd, l, -, hr, hkey, hl, hfilled⟩
  · obtain ⟨detail, rfl, hshows⟩ := h id value (hsame.symm.trans hvalue)
    exact ⟨detail, rfl, hstays hshows⟩
  · cases hnone.symm.trans hvalue
  · obtain ⟨rfl, hproject, hadmits⟩ := Request.admits_adminReader hr hkey
    rw [hproject] at hfilled
    obtain rfl := Option.some.inj (hfilled.symm.trans hvalue)
    exact ⟨_, rfl, hstays (World.showsByRole_of_select hadmits hl)⟩

/-- What a cached reader answers: the entry it finds, or the row it loads. -/
theorem ends_map_cachedDetail {α β : Type} {key : CacheKey} {id : UserId} {q : UserQuery}
    {validate : CacheValue → Option α} {project : Loaded → CacheValue} {respond : Loaded → α}
    (f : α → β) {P : β → Prop}
    (hcached : ∀ value a, w.cache key = some value → validate value = some a → P (f a))
    (hloaded : ∀ l, w.db.selectUserById id q = some l → P (f (respond l))) :
    Ends (exec env) (f <$> cachedDetail key id q validate project respond)
      (fun out _ => ∀ b, out = .ok b → P b) w := by
  rw [ends_map]
  unfold cachedDetail
  rw [ends_getCache]
  cases hcache : w.cache key with
  | some value =>
    dsimp only
    cases hvalid : validate value with
    | none =>
      rw [ends_raise']
      rintro b ⟨⟩
    | some a =>
      rintro b ⟨⟩
      exact hcached value a hcache hvalid
  | none =>
    dsimp only
    rw [ends_getUserById]
    cases hl : w.db.selectUserById id q with
    | none =>
      rw [ensureExists_none]
      rintro b ⟨⟩
    | some l =>
      rw [ensureExists_some, ends_setCache]
      rintro b ⟨⟩
      exact hloaded l hl

/-- What a request returns is made from what its program returns. -/
theorem exists_of_map {α β : Type} {f : α → β} {p : Service α} {b : β}
    (h : ((f <$> p).run (exec env) w).1 = .ok b) : ∃ a, f a = b := by
  have hends : Ends (exec env) (f <$> p) (fun out _ => ∀ b, out = .ok b → ∃ a, f a = b) w := by
    rw [ends_map]
    refine Ends.of_forall fun out _ b hb => ?_
    cases out with
    | error e => cases hb
    | ok a => exact ⟨a, Except.ok.inj hb⟩
  exact hends b h

/-- **`UserServiceAdmin` shows teachers and students only**, from the cache as from the
table. -/
theorem World.DetailsByRole.respond (h : w.DetailsByRole) {r : Request} {id : UserId}
    (hr : r = .getTeacherByIdAdmin id ∨ r = .getStudentByIdAdmin id)
    {response : Response} (hok : w.respond env r = .ok response) :
    ∃ detail, response = .admin detail ∧ w.ShowsByRole id detail := by
  have hread : ∀ value, w.cache (.userDetailKeyAdmin id) = some value →
      ∀ detail, value.admin? = some detail → w.ShowsByRole id detail := by
    intro value hvalue detail hdetail
    obtain ⟨detail', rfl, hshows⟩ := h id value hvalue
    obtain rfl := Option.some.inj hdetail
    exact hshows
  rcases hr with rfl | rfl
  · refine ends_map_cachedDetail
      (P := fun response => ∃ detail, response = .admin detail ∧ w.ShowsByRole id detail)
      Response.admin (fun value detail hvalue hdetail => ?_) (fun l hl => ?_) response hok
    · obtain ⟨found, hfound, rfl⟩ := Option.map_eq_some_iff.mp hdetail
      exact ⟨_, rfl, hread value hvalue found hfound⟩
    · refine ⟨_, rfl, World.showsByRole_of_select (fun u hu => Or.inl ?_) hl⟩
      simpa [UserQuery.admits, teacherRole] using hu
  · refine ends_map_cachedDetail
      (P := fun response => ∃ detail, response = .admin detail ∧ w.ShowsByRole id detail)
      Response.admin (fun value detail hvalue hdetail => ?_) (fun l hl => ?_) response hok
    · exact ⟨_, rfl, hread value hvalue detail hdetail⟩
    · refine ⟨_, rfl, World.showsByRole_of_select (fun u hu => Or.inr ?_) hl⟩
      simpa [UserQuery.admits, studentRole] using hu

/-! ### Runs -/

/-- What holds of every state a sequence of calls reaches. -/
structure Backend.Sound (b : Backend) : Prop where
  school : b.school.Sound
  details : b.world.DetailsByRole

variable {b : Backend}

/-- Only the user services change a user, a row of the outbox or a cached detail. -/
theorem Backend.world_after (b : Backend) (env : Env) (c : Call) :
    (∃ groups, (b.after env c).world = { b.world with db := { b.world.db with groups } }) ∨
      ∃ e, c = .school (.user e) ∧ (b.after env c).world = b.world.after env e := by
  cases c with
  | school e =>
    cases e with
    | user e => exact Or.inr ⟨e, rfl, rfl⟩
    | group r => exact Or.inl ⟨_, rfl⟩
    | expireGroup key => exact Or.inl ⟨_, rfl⟩
  | subject r => exact Or.inl ⟨_, rfl⟩
  | expireSubject key => exact Or.inl ⟨_, rfl⟩
  | users r => exact Or.inl ⟨_, rfl⟩

/-- **Soundness is kept by every call.** -/
theorem Backend.Sound.after (hb : b.Sound) (env : Env) (c : Call) : (b.after env c).Sound := by
  refine ⟨?_, ?_⟩
  · cases c with
    | school e => exact hb.school.after env e
    | subject r => exact hb.school
    | expireSubject key => exact hb.school
    | users r => exact hb.school
  · rcases b.world_after env c with ⟨groups, hworld⟩ | ⟨e, -, hworld⟩
    · rw [hworld]
      exact hb.details
    · rw [hworld]
      exact hb.details.after hb.school.world env e

/-- **Soundness is kept by every sequence of calls.** -/
theorem Backend.Sound.run (hb : b.Sound) (env : Env) (calls : List Call) :
    (b.run env calls).Sound :=
  Run.invariant' (fun _ c h => h.after env c) hb calls

/-- What a call does to the roles. -/
theorem Backend.Sound.role?_after (hb : b.Sound) (env : Env) (c : Call) (id : UserId) :
    (b.after env c).world.role? id = b.world.role? id ∨
      b.world.role? id = none ∧
        ∃ currentUserId r, c = .school (.user (.request (.registerUser currentUserId r))) ∧
          ((b.after env c).world.role? id = some .teacher ∨
            (b.after env c).world.role? id = some .student) := by
  rcases b.world_after env c with ⟨groups, hworld⟩ | ⟨e, rfl, hworld⟩
  · rw [hworld]
    exact Or.inl rfl
  · rw [hworld]
    rcases hb.school.world.role?_after env e id with hsame | ⟨hnone, currentUserId, r, rfl, hrole⟩
    · exact Or.inl hsame
    · exact Or.inr ⟨hnone, currentUserId, r, rfl, hrole⟩

/-- A role stays, whatever is called. -/
theorem Backend.Sound.role?_run (hb : b.Sound) (env : Env) (calls : List Call) {id : UserId}
    {role : UserRole} (h : b.world.role? id = some role) :
    (b.run env calls).world.role? id = some role := by
  induction calls generalizing b with
  | nil => exact h
  | cons c calls ih =>
    refine ih (hb.after env c) ?_
    rcases hb.role?_after env c id with hsame | ⟨hnone, -⟩
    · exact hsame.trans h
    · cases hnone.symm.trans h

/-! ### `UserServiceAdmin` and system administrators -/

/-- The call shows the user: by id, or in a list, in whatever order the server returns it. -/
def Backend.Shows (env : Env) (co : Collation) (b : Backend) : Call → UserId → Prop
  | .school (.user (.request r)), id =>
    ∃ detail, b.world.respond env r = .ok (.admin detail) ∧ detail.id = id
  | .users r, id =>
    ∃ (A : (r.select co).Arrangement b.world.db.users) (item : Loaded),
      item ∈ (r.answer co b.world.db A).items ∧ item.user.id = id
  | _, _ => False

/-- The call leaves the rows of every system administrator, posts nothing to one and shows
none. -/
structure Backend.SparesAdmins (env : Env) (co : Collation) (b : Backend) (c : Call) : Prop where
  rows : ∀ id, b.world.role? id = some .systemAdmin →
    (b.after env c).world.db.rowsOf id = b.world.db.rowsOf id
  posts : ∃ rows, (b.after env c).world.db.pendingEmails = b.world.db.pendingEmails ++ rows ∧
    ∀ e ∈ rows, ∀ id, e.recipientUserId = some id →
      (b.after env c).world.role? id ≠ some .systemAdmin
  shows : ∀ id, b.Shows env co c id →
    b.world.role? id = some .teacher ∨ b.world.role? id = some .student

/-- A read by id shows the user it is asked for. -/
theorem Backend.Sound.shows_request (hb : b.Sound) (env : Env) {r : Request}
    (hr : r.isUserServiceAdmin = true) {detail : UserResponseAdminCache}
    (hok : b.world.respond env r = .ok (.admin detail)) :
    ∃ id, b.world.ShowsByRole id detail := by
  have hread : ∀ id, r = .getTeacherByIdAdmin id ∨ r = .getStudentByIdAdmin id →
      ∃ id, b.world.ShowsByRole id detail := by
    intro id hid
    obtain ⟨_, ⟨⟩, hshows⟩ := hb.details.respond hid hok
    exact ⟨id, hshows⟩
  cases r with
  | getTeacherByIdAdmin id => exact hread id (Or.inl rfl)
  | getStudentByIdAdmin id => exact hread id (Or.inr rfl)
  | registerUser | updateUser | updateUserCredentials | deactivateUser | activateUser
  | createResetPasswordRequest | resendActivationInvite =>
    obtain ⟨_, ha⟩ := exists_of_map hok
    cases ha
  | _ => cases hr

/-- What it shows. -/
theorem Backend.Sound.shows (hb : b.Sound) (env : Env) (co : Collation) {c : Call}
    (hc : c.isUserServiceAdmin = true) {id : UserId} (h : b.Shows env co c id) :
    b.world.role? id = some .teacher ∨ b.world.role? id = some .student := by
  cases c with
  | school e =>
    cases e with
    | user e =>
      cases e with
      | request r =>
        obtain ⟨detail, hok, rfl⟩ := h
        obtain ⟨id, hid, hrole, hcases⟩ := hb.shows_request env hc hok
        rw [hid, hrole]
        rcases hcases with hcase | hcase
        · exact Or.inl (congrArg some hcase)
        · exact Or.inr (congrArg some hcase)
      | outside o => cases hc
    | group r => cases hc
    | expireGroup key => cases hc
  | subject r => cases hc
  | expireSubject key => cases hc
  | users r =>
    obtain ⟨A, item, hitem, rfl⟩ := h
    obtain ⟨hmem, hcases⟩ := UserListRequest.mem_answer hc hitem
    have hget := Keyed.get?_of_mem hb.school.world.db.nodup hmem
    rw [World.role?, show Keyed.get? b.world.db.users item.user.id = some item.user from hget]
    rcases hcases with hcase | hcase
    · exact Or.inl (congrArg some hcase)
    · exact Or.inr (congrArg some hcase)

/-- **A call of `UserServiceAdmin` spares the system administrators.** -/
theorem Backend.Sound.sparesAdmins (hb : b.Sound) (env : Env) (co : Collation) {c : Call}
    (hc : c.isUserServiceAdmin = true) : b.SparesAdmins env co c := by
  refine ⟨?_, ?_, fun id h => hb.shows env co hc h⟩
  · intro id hid
    rcases b.world_after env c with ⟨groups, hworld⟩ | ⟨e, rfl, hworld⟩
    · rw [hworld]
      rfl
    · rw [hworld]
      cases e with
      | request r => exact hb.school.world.rowsOf_after env hc hid
      | outside o => cases hc
  · rcases b.world_after env c with ⟨groups, hworld⟩ | ⟨e, rfl, hworld⟩
    · rw [hworld]
      exact ⟨[], (List.append_nil _).symm, fun e he => absurd he List.not_mem_nil⟩
    · rw [hworld]
      cases e with
      | request r => exact hb.school.world.posts_after env hc
      | outside o => cases hc

/-- **Roles are for ever, `register_user` creates teachers and students, and
`UserServiceAdmin` spares the system administrators**: in every state that a sequence of calls
reaches, whoever makes them and whatever is cached. -/
theorem admins_spared (env : Env) (co : Collation) (b : Backend) (hb : b.school.Seeded)
    (calls : List Call) :
    (∀ later id role, (b.run env calls).world.role? id = some role →
        ((b.run env calls).run env later).world.role? id = some role) ∧
      (∀ c id role, (b.run env calls).world.role? id = none →
        ((b.run env calls).after env c).world.role? id = some role →
          (∃ currentUserId r, c = .school (.user (.request (.registerUser currentUserId r)))) ∧
            (role = .teacher ∨ role = .student)) ∧
      ∀ c : Call, c.isUserServiceAdmin = true → (b.run env calls).SparesAdmins env co c := by
  have hsound : b.Sound := ⟨hb.sound, hb.world.detailsByRole⟩
  have hrun := hsound.run env calls
  refine ⟨fun later id role h => hrun.role?_run env later h, ?_,
    fun c hc => hrun.sparesAdmins env co hc⟩
  intro c id role hnone hrole
  rcases hrun.role?_after env c id with hsame | ⟨-, currentUserId, r, rfl, hcases⟩
  · rw [hsame, hnone] at hrole
    cases hrole
  · refine ⟨⟨currentUserId, r, rfl⟩, ?_⟩
    rcases hcases with hcase | hcase
    · exact Or.inl (Option.some.inj (hrole.symm.trans hcase))
    · exact Or.inr (Option.some.inj (hrole.symm.trans hcase))

/-- A server that compares texts as they are written. -/
def Collation.concrete : Collation where
  lower := Char.toLower
  ranking := Ranking.linear String

/-- The school, without subjects. -/
def Backend.concrete : Backend where
  school := School.concrete
  subjects := { rows := [], idSeq := 1, clock := 0, cache := fun _ => none }

/-- An administrator has looked at a student, whose details are cached since; she registers
another one and tries to deactivate the first administrator. -/
theorem admins_spared_concrete :
    let b := Backend.concrete.run .concrete [.school (.user viewAda)]
    b.world.cache (.userDetailKeyAdmin 2) ≠ none ∧
      (b.run .concrete [.school (.user registerHopper)]).world.role? 1 = some .systemAdmin ∧
      b.SparesAdmins .concrete .concrete (.school (.user (.request (.deactivateUser 1)))) := by
  intro b
  obtain ⟨hroles, -, hspares⟩ := admins_spared .concrete .concrete Backend.concrete
    School.concrete_seeded [.school (.user viewAda)]
  have hadmin : b.world.role? 1 = some .systemAdmin := by decide +kernel
  exact ⟨by decide +kernel, hroles _ 1 _ hadmin, hspares _ rfl⟩

end SmsLite
