import SmsLite.Lib.Select
import SmsLite.UserServiceAdmin

/-!
# The lists of users

`UserRepositoryBase.get_users` and `UserRepositoryAdmin.get_users_admin` of
`src/users/repositories/user.py`, and the four services that page through them.

## Main definitions

* `Collation` — how the server compares texts.
* `SearchUserBase`, `SearchUserAdmin` — the filters.
* `applyBaseFilters`, `applyAdminFilters`, `applySorting` — what they make of a query.
* `getUsers`, `getUsersAdmin` — the queries.
* `UserListRequest`, `UserListRequest.answer` — the services.

## Main results

* `getUsersAdmin_keeps` — **the query of the administrators keeps teachers and students
  only**, whatever the filters.
-/

namespace SmsLite

/-- How the server compares texts: the lower case of a character, and the order of texts. -/
structure Collation where
  lower : Char → Char
  ranking : Ranking String

/-- `column ILIKE pattern`. -/
def Collation.ilike (co : Collation) (pattern column : String) : Bool :=
  Like.accepts (fun c d => decide (co.lower c = co.lower d)) pattern.toList column.toList

/-! ### Filters -/

/-- `SearchUserBase`. -/
structure SearchUserBase where
  firstname : Option String
  lastname : Option String
  middlename : Option String
  status : Option UserStatus
  deriving DecidableEq, Repr

/-- `SearchUserAdmin`. -/
structure SearchUserAdmin extends SearchUserBase where
  username : Option String
  email : Option String
  phoneNumber : Option String
  deriving DecidableEq, Repr

/-- `if text: query = query.filter(column.ilike(f"%{text}%"))`: an empty text filters nothing,
and a null in the column meets no pattern. -/
def filterText (co : Collation) (column : User → Option String) (text : Option String)
    (q : Select User) : Select User :=
  match text with
  | none => q
  | some text =>
    if text = "" then q else q.filter fun u => (column u).any (co.ilike ("%" ++ text ++ "%"))

/-- `if roles: query = query.filter(User.role.in_(roles))`. -/
def filterRoles (roles : List UserRole) (q : Select User) : Select User :=
  if roles.isEmpty then q else q.filter fun u => decide (u.role ∈ roles)

/-- `apply_base_filters`. -/
def applyBaseFilters (co : Collation) (q : Select User) (filters : Option SearchUserBase)
    (allowedRoles : List UserRole) : Select User :=
  filterRoles allowedRoles <|
    match filters with
    | none => q
    | some filters =>
      let named := filterText co (fun u => some u.firstname) filters.firstname q
      let named := filterText co (fun u => some u.lastname) filters.lastname named
      let named := filterText co (·.middlename) filters.middlename named
      match filters.status with
      | none => named
      | some status => named.filter fun u => decide (u.status = status)

/-- `_apply_admin_filters`. -/
def applyAdminFilters (co : Collation) (q : Select User) (filters : SearchUserAdmin)
    (allowedRoles : List UserRole) : Select User :=
  filterText co (fun u => some u.phoneNumber) filters.phoneNumber <|
    filterText co (fun u => some u.email) filters.email <|
      filterText co (fun u => some u.username) filters.username <|
        applyBaseFilters co q (some filters.toSearchUserBase) allowedRoles

/-- `if group_id is not None: query = query.filter(User.group_id == group_id)`. -/
def filterGroup (groupId : Option ℕ) (q : Select User) : Select User :=
  match groupId with
  | none => q
  | some groupId => q.filter fun u => decide (u.groupId = some groupId)

/-! ### The order -/

/-- `UserSortField`. -/
inductive UserSortField
  | createdAt
  | firstname
  | lastname
  deriving DecidableEq, Repr

/-- The field of a text; any other text stands for `created_at`. -/
def UserSortField.ofText (sortBy : String) : UserSortField :=
  if sortBy = "firstname" then .firstname
  else if sortBy = "lastname" then .lastname
  else .createdAt

/-- The order of the column. -/
def UserSortField.ranking (co : Collation) : UserSortField → Ranking User
  | createdAt => (Ranking.linear Time).ofColumn fun u => u.createdAt
  | firstname => co.ranking.ofColumn fun u => u.firstname
  | lastname => co.ranking.ofColumn fun u => u.lastname

/-- `apply_sorting`. -/
def applySorting (co : Collation) (q : Select User) (sortBy order : String) : Select User :=
  let ranking := (UserSortField.ofText sortBy).ranking co
  q.orderBy (if order = "desc" then ranking.flip else ranking)

/-! ### Queries -/

/-- `UserRepositoryBase.get_users`, up to the page. -/
def getUsers (co : Collation) (excludedRoles allowedRoles : List UserRole)
    (filters : Option SearchUserBase) (sortBy order : String) (groupId : Option ℕ) : Select User :=
  let base : Select User := {}
  let base := if excludedRoles.isEmpty then base
    else base.filter fun u => decide (u.role ∉ excludedRoles)
  let base := filterGroup groupId (filterRoles allowedRoles base)
  applySorting co (applyBaseFilters co base filters []) sortBy order

/-- `UserRepositoryAdmin.get_users_admin`, up to the page. -/
def getUsersAdmin (co : Collation) (filters : SearchUserAdmin) (sortBy order : String)
    (allowedRoles : List UserRole) (groupId : Option ℕ) : Select User :=
  let base : Select User := {}
  let base := base.filter fun u => decide (u.role ∉ [UserRole.systemAdmin, .director])
  applySorting co (applyAdminFilters co (filterGroup groupId base) filters allowedRoles)
    sortBy order

section Keeps

variable {co : Collation} {q : Select User} {u : User}

theorem keeps_of_filterText {column : User → Option String} {text : Option String}
    (h : (filterText co column text q).keeps u = true) : q.keeps u = true := by
  unfold filterText at h
  split at h
  · exact h
  · split at h
    · exact h
    · exact (Select.keeps_of_filter h).1

theorem keeps_of_filterRoles {roles : List UserRole}
    (h : (filterRoles roles q).keeps u = true) :
    q.keeps u = true ∧ (roles ≠ [] → u.role ∈ roles) := by
  unfold filterRoles at h
  split at h
  · next hempty => exact ⟨h, fun hne => absurd (List.isEmpty_iff.mp hempty) hne⟩
  · obtain ⟨hq, hrole⟩ := Select.keeps_of_filter h
    exact ⟨hq, fun _ => of_decide_eq_true hrole⟩

theorem keeps_of_filterGroup {groupId : Option ℕ} (h : (filterGroup groupId q).keeps u = true) :
    q.keeps u = true := by
  cases groupId with
  | none => exact h
  | some groupId => exact (Select.keeps_of_filter h).1

theorem keeps_of_applyBaseFilters {filters : Option SearchUserBase} {allowedRoles : List UserRole}
    (h : (applyBaseFilters co q filters allowedRoles).keeps u = true) :
    q.keeps u = true ∧ (allowedRoles ≠ [] → u.role ∈ allowedRoles) := by
  obtain ⟨hrows, hrole⟩ := keeps_of_filterRoles h
  refine ⟨?_, hrole⟩
  cases filters with
  | none => exact hrows
  | some filters =>
    dsimp only at hrows
    split at hrows
    · exact keeps_of_filterText (keeps_of_filterText (keeps_of_filterText hrows))
    · have hnamed := (Select.keeps_of_filter hrows).1
      exact keeps_of_filterText (keeps_of_filterText (keeps_of_filterText hnamed))

/-- **The query of the administrators keeps neither administrators nor directors**, and of the
others those of the allowed roles. -/
theorem getUsersAdmin_keeps {filters : SearchUserAdmin} {sortBy order : String}
    {allowedRoles : List UserRole} {groupId : Option ℕ}
    (h : (getUsersAdmin co filters sortBy order allowedRoles groupId).keeps u = true) :
    u.role ≠ .systemAdmin ∧ u.role ≠ .director ∧ (allowedRoles ≠ [] → u.role ∈ allowedRoles) := by
  have hfilters := keeps_of_filterText (keeps_of_filterText (keeps_of_filterText h))
  obtain ⟨hgroup, hrole⟩ := keeps_of_applyBaseFilters hfilters
  have hbase := (Select.keeps_of_filter (keeps_of_filterGroup hgroup)).2
  have hmem : u.role ∉ [UserRole.systemAdmin, .director] := of_decide_eq_true hbase
  exact ⟨fun heq => hmem (by simp [heq]), fun heq => hmem (by simp [heq]), hrole⟩

end Keeps

/-! ### Pages -/

/-- `PaginatedResponse`. -/
structure PaginatedResponse (α : Type) where
  items : List α
  total : ℕ
  skip : ℕ
  limit : ℕ
  hasMore : Bool
  deriving DecidableEq, Repr

/-- The page of an arrangement, as `paginate` and the services make it. -/
def paginate {α β : Type} {q : Select α} {table : List α} (A : q.Arrangement table)
    (load : α → β) (skip limit : ℕ) : PaginatedResponse β where
  items := (A.page skip limit).map load
  total := q.count table
  skip := skip
  limit := limit
  hasMore := decide (skip + limit < q.count table)

/-- The services that list users, with their parameters. -/
inductive UserListRequest
  | getTeachersAdmin (skip limit : ℕ) (filters : SearchUserAdmin) (sortBy order : String)
  | getStudentsAdmin (skip limit : ℕ) (groupId : Option ℕ) (filters : SearchUserAdmin)
      (sortBy order : String)
  | getTeachersDirector (skip limit : ℕ) (filters : SearchUserBase) (sortBy order : String)
  | getStudentsDirector (skip limit : ℕ) (groupId : Option ℕ) (filters : SearchUserBase)
      (sortBy order : String)
  deriving DecidableEq, Repr

namespace UserListRequest

/-- The query of a list. -/
def select (co : Collation) : UserListRequest → Select User
  | getTeachersAdmin _ _ filters sortBy order =>
    getUsersAdmin co filters sortBy order teacherRole none
  | getStudentsAdmin _ _ groupId filters sortBy order =>
    getUsersAdmin co filters sortBy order studentRole groupId
  | getTeachersDirector _ _ filters sortBy order =>
    getUsers co [] teacherRole (some filters) sortBy order none
  | getStudentsDirector _ _ groupId filters sortBy order =>
    getUsers co [] studentRole (some filters) sortBy order groupId

/-- The lists of students load their groups. -/
def loadGroup : UserListRequest → Bool
  | getTeachersAdmin .. | getTeachersDirector .. => false
  | getStudentsAdmin .. | getStudentsDirector .. => true

/-- The page that is asked for. -/
def window : UserListRequest → ℕ × ℕ
  | getTeachersAdmin skip limit .. | getStudentsAdmin skip limit ..
  | getTeachersDirector skip limit .. | getStudentsDirector skip limit .. => (skip, limit)

/-- The list is one of the administrators. -/
def isAdmin : UserListRequest → Bool
  | getTeachersAdmin .. | getStudentsAdmin .. => true
  | getTeachersDirector .. | getStudentsDirector .. => false

/-- The response, with the rows in the order the server has chosen. -/
def answer (co : Collation) (db : Db) (r : UserListRequest)
    (A : (r.select co).Arrangement db.users) : PaginatedResponse Loaded :=
  paginate A (db.load { loadGroup := r.loadGroup }) r.window.1 r.window.2

/-- **A list of the administrators shows teachers and students only.** -/
theorem mem_answer {co : Collation} {db : Db} {r : UserListRequest}
    {A : (r.select co).Arrangement db.users} (hr : r.isAdmin = true) {item : Loaded}
    (h : item ∈ (r.answer co db A).items) :
    item.user ∈ db.users ∧ (item.user.role = .teacher ∨ item.user.role = .student) := by
  obtain ⟨u, hu, rfl⟩ := List.mem_map.mp h
  obtain ⟨hmem, hkeeps⟩ := Select.Arrangement.mem_page hu
  refine ⟨hmem, ?_⟩
  show u.role = .teacher ∨ u.role = .student
  cases r with
  | getTeachersAdmin =>
    have hrole := (getUsersAdmin_keeps hkeeps).2.2 (by simp [teacherRole])
    exact Or.inl (by simpa [teacherRole] using hrole)
  | getStudentsAdmin =>
    have hrole := (getUsersAdmin_keeps hkeeps).2.2 (by simp [studentRole])
    exact Or.inr (by simpa [studentRole] using hrole)
  | getTeachersDirector | getStudentsDirector => cases hr

end UserListRequest

end SmsLite
