import SmsLite.UserServiceAdmin

/-!
# The group services

`src/groups/services/system_admin.py` and `src/groups/services/director.py`, with the payloads
of `src/groups/schemas.py`.  Groups have a table and two cache keys of their own; what the
user services read of them is the row a student points to.

## Main definitions

* `CreateGroupAdmin`, `UpdateGroupAdmin` — the requests, after their validators.
* `GroupStore`, `GroupStmt` — the table with its cache, and the statements on it.
* `GroupServiceAdmin.createGroup`, `GroupServiceAdmin.updateGroup`,
  `GroupServiceAdmin.archiveGroup`, `GroupServiceAdmin.restoreGroup` — the mutators.
* `GroupServiceAdmin.getGroupById`, `GroupServiceDirector.getGroupById` — the cached readers.
* `GroupRequest`, `GroupStore.after` — the operations, and what each makes of the store.
-/

namespace SmsLite

open Interleave

/-! ### Requests -/

/-- `Field(min_length=2, max_length=10)`. -/
def GroupName.Valid (name : String) : Prop := 2 ≤ name.length ∧ name.length ≤ 10

/-- `CreateGroupAdmin`, after its validators. -/
structure CreateGroupAdmin where
  name : String
  academicYear : ℤ
  gradeLevel : Option ℤ
  capacity : Option ℤ
  name_valid : GroupName.Valid name
  academicYear_range : 2000 ≤ academicYear ∧ academicYear ≤ 2100
  capacity_pos : ∀ n ∈ capacity, 0 < n

/-- `UpdateGroupAdmin`, after its validators; a null name passes them. -/
structure UpdateGroupAdmin where
  name : Patch String
  gradeLevel : Patch ℤ
  capacity : Patch ℤ
  name_valid : ∀ text, name = .set text → GroupName.Valid text
  capacity_pos : ∀ n, capacity = .set n → 0 < n

/-- A mapped `Group` object before it is flushed. -/
structure GroupDraft where
  name : Option String
  academicYear : ℤ
  gradeLevel : Option ℤ
  capacity : Option ℤ
  isArchived : Bool
  archivedAt : Option Time
  deriving DecidableEq, Repr

/-- The object a load makes from a row. -/
def Group.draft (g : Group) : GroupDraft where
  name := some g.name
  academicYear := g.academicYear
  gradeLevel := g.gradeLevel
  capacity := g.capacity
  isArchived := g.isArchived
  archivedAt := g.archivedAt

/-- The group with the sent fields assigned. -/
def UpdateGroupAdmin.assign (r : UpdateGroupAdmin) (g : GroupDraft) : GroupDraft :=
  { g with
    name := r.name.assign g.name
    gradeLevel := r.gradeLevel.assign g.gradeLevel
    capacity := r.capacity.assign g.capacity }

/-! ### Cache entries -/

/-- `GroupCacheKey`: the key texts are `groups:{id}:admin` and `groups:{id}:staff`. -/
inductive GroupCacheKey
  | groupDetailKeyAdmin (groupId : ℕ)
  | groupDetailKeyStaff (groupId : ℕ)
  deriving DecidableEq, Repr

/-- `GroupResponseDirectorCache`. -/
structure GroupResponseDirectorCache extends GroupResponseBase where
  id : ℕ
  isArchived : Bool
  createdAt : Time
  deriving DecidableEq, Repr

/-- `GroupResponseAdminCache`. -/
structure GroupResponseAdminCache extends GroupResponseBase where
  id : ℕ
  isArchived : Bool
  archivedAt : Option Time
  createdAt : Time
  deriving DecidableEq, Repr

/-- `GroupResponseDirectorCache.model_validate`. -/
def Group.directorCache (g : Group) : GroupResponseDirectorCache :=
  { g.response with id := g.id, isArchived := g.isArchived, createdAt := g.createdAt }

/-- `GroupResponseAdminCache.model_validate`. -/
def Group.adminCache (g : Group) : GroupResponseAdminCache :=
  { g.response with
    id := g.id, isArchived := g.isArchived, archivedAt := g.archivedAt, createdAt := g.createdAt }

/-- The JSON value under a key. -/
inductive GroupCacheValue
  | admin (detail : GroupResponseAdminCache)
  | staff (detail : GroupResponseDirectorCache)
  /-- What no schema takes. -/
  | invalid
  deriving DecidableEq, Repr

/-- The admin dump under a key. -/
def GroupCacheValue.admin? : GroupCacheValue → Option GroupResponseAdminCache
  | .admin detail => some detail
  | _ => none

/-- The staff dump under a key. -/
def GroupCacheValue.staff? : GroupCacheValue → Option GroupResponseDirectorCache
  | .staff detail => some detail
  | _ => none

/-! ### The store -/

/-- The table of the groups, and what goes with it. -/
structure GroupStore where
  rows : List Group
  /-- The next value of the `groups` id sequence. -/
  idSeq : ℕ
  clock : Time
  cache : GroupCacheKey → Option GroupCacheValue

/-- A value does not fit an `INTEGER` column. -/
def outOfRange (value : Option ℤ) : Bool :=
  value.any fun n => decide (n < -2 ^ 31) || decide (2 ^ 31 ≤ n)

/-- The driver's message for two groups of one name and year. -/
def duplicateGroup (name : String) (academicYear : ℤ) : String :=
  duplicateKey "uix_group_name_academic_year" "name, academic_year"
    (name ++ ", " ++ toString academicYear)

/-- Another group has the name in the same year. -/
def GroupStore.taken (s : GroupStore) (id : ℕ) (name : String) (academicYear : ℤ) : Bool :=
  s.rows.any fun g => g.id ≠ id && g.name = name && g.academicYear = academicYear

/-- The row after a flush: the columns whose value differs from the loaded one are set, if
the database takes them. -/
def GroupStore.flush (s : GroupStore) (loaded : Group) (current : GroupDraft) :
    Except DbError (Group → Group) :=
  if current.gradeLevel ≠ loaded.gradeLevel && outOfRange current.gradeLevel ||
      current.capacity ≠ loaded.capacity && outOfRange current.capacity then
    .error (.data "value out of int32 range")
  else
    match current.name with
    | none =>
      .error (.integrity
        "null value in column \"name\" of relation \"groups\" violates not-null constraint")
    | some name =>
      if name ≠ loaded.name && s.taken loaded.id name current.academicYear then
        .error (.integrity (duplicateGroup name current.academicYear))
      else
        .ok fun stored =>
          { stored with
            name := written loaded.name name stored.name
            gradeLevel := written loaded.gradeLevel current.gradeLevel stored.gradeLevel
            capacity := written loaded.capacity current.capacity stored.capacity
            isArchived := written loaded.isArchived current.isArchived stored.isArchived
            archivedAt := written loaded.archivedAt current.archivedAt stored.archivedAt }

/-- The row of a new group. -/
def CreateGroupAdmin.row (r : CreateGroupAdmin) (id : ℕ) (createdAt : Time) : Group where
  id := id
  name := r.name
  academicYear := r.academicYear
  gradeLevel := r.gradeLevel
  capacity := r.capacity
  isArchived := false
  archivedAt := none
  createdAt := createdAt

/-- One atomic step of a group request. -/
inductive GroupStmt
  /-- `datetime.now(UTC)`. -/
  | now
  | getGroupById (groupId : ℕ)
  /-- `session.add(new_group)` and `await session.commit()`: the reply is the new id. -/
  | insert (group : CreateGroupAdmin)
  /-- `await session.commit()` with one loaded group. -/
  | commit (loaded : Group) (current : GroupDraft)
  | rollback
  /-- `await session.refresh(group)`. -/
  | refresh (groupId : ℕ)
  | getCache (key : GroupCacheKey)
  | setCache (key : GroupCacheKey) (value : GroupCacheValue)
  | deleteCache (keys : List GroupCacheKey)

/-- The type of the reply. -/
def GroupStmt.Reply : GroupStmt → Type
  | now => Time
  | getGroupById _ => Option Group
  | insert _ => Except DbError ℕ
  | commit _ _ => Except DbError Unit
  | rollback => Unit
  | refresh _ => Option Group
  | getCache _ => Option GroupCacheValue
  | setCache _ _ => Unit
  | deleteCache _ => Unit

/-- The reply to a statement and the state after it.  A failed insert has used up an id,
unless its values never reached the server. -/
def GroupStmt.exec : (s : GroupStmt) → GroupStore → s.Reply × GroupStore
  | .now, s => (s.clock, s)
  | .getGroupById groupId, s => (Keyed.get? s.rows groupId, s)
  | .insert group, s =>
    if outOfRange group.gradeLevel || outOfRange group.capacity then
      (.error (.data "value out of int32 range"), s)
    else if s.taken s.idSeq group.name group.academicYear then
      (.error (.integrity (duplicateGroup group.name group.academicYear)),
        { s with idSeq := s.idSeq + 1 })
    else
      (.ok s.idSeq,
        { s with rows := s.rows ++ [group.row s.idSeq s.clock], idSeq := s.idSeq + 1 })
  | .commit loaded current, s =>
    match s.flush loaded current with
    | .error e => (.error e, s)
    | .ok write => (.ok (), { s with rows := Keyed.modify s.rows loaded.id write })
  | .rollback, s => ((), s)
  | .refresh groupId, s => (Keyed.get? s.rows groupId, s)
  | .getCache key, s => (s.cache key, s)
  | .setCache key value, s => ((), { s with cache := Function.update s.cache key (some value) })
  | .deleteCache keys, s =>
    ((), { s with cache := fun key => if key ∈ keys then none else s.cache key })

/-! ### Programs -/

/-- A program over the store. -/
abbrev GroupProg (α : Type) := Prog GroupStmt GroupStmt.Reply Exn α

namespace GroupProg

/-- `datetime.now(UTC)`. -/
def now : GroupProg Time := Prog.call GroupStmt.now

/-- `GroupRepository.get_group_by_id` and `ensure_exists`: `GroupNotFoundError(HTTP404.GROUP)`. -/
def getGroupById (groupId : ℕ) : GroupProg Group := do
  match ← Prog.call (GroupStmt.getGroupById groupId) with
  | none => .raise (.app .groupNotFoundError HTTP404.group)
  | some group => pure group

/-- `session.refresh(group)`. -/
def refresh (groupId : ℕ) : GroupProg Group := do
  match ← Prog.call (GroupStmt.refresh groupId) with
  | none => .raise (.invalidRequestError "Could not refresh instance")
  | some group => pure group

/-- `delete_cache`. -/
def deleteCache (keys : List GroupCacheKey) : GroupProg Unit :=
  Prog.call (GroupStmt.deleteCache keys)

/-- `session.commit()` outside a `try`. -/
def commitOrRaise (loaded : Group) (current : GroupDraft) : GroupProg Unit := do
  match ← Prog.call (GroupStmt.commit loaded current) with
  | .ok () => pure ()
  | .error e => .raise e.exn

/-- The `except IntegrityError` blocks: roll back, then `handle_group_name_year_integrity_error`
and `raise_unhandled_integrity_error`.  Any other error of the database is not caught. -/
def exceptIntegrityError {α : Type} (e : DbError) : GroupProg α :=
  match e with
  | .data orig => .raise (.dbapiError orig)
  | .integrity orig => do
    Prog.call GroupStmt.rollback
    if pyIn "uix_group_name_academic_year" orig then
      .raise (.app .groupNameYearAlreadyExistsError HTTP409.groupName)
    else .raise (.integrityError orig)

end GroupProg

namespace GroupServiceAdmin

/-- `GroupServiceAdmin.create_group`. -/
def createGroup (createRequest : CreateGroupAdmin) : GroupProg Group := do
  match ← Prog.call (GroupStmt.insert createRequest) with
  | .error e => GroupProg.exceptIntegrityError e
  | .ok groupId => GroupProg.refresh groupId

/-- `GroupServiceAdmin.update_group`. -/
def updateGroup (groupId : ℕ) (updateRequest : UpdateGroupAdmin) : GroupProg Unit := do
  let targetGroup ← GroupProg.getGroupById groupId
  let assigned := updateRequest.assign targetGroup.draft
  if assigned = targetGroup.draft then
    .raise (.app .noChangesDetectedError HTTP400.noChangesDetected)
  else
    match ← Prog.call (GroupStmt.commit targetGroup assigned) with
    | .error e => GroupProg.exceptIntegrityError e
    | .ok () =>
      let _ ← GroupProg.refresh groupId
      GroupProg.deleteCache [.groupDetailKeyAdmin groupId, .groupDetailKeyStaff groupId]

/-- `GroupServiceAdmin.archive_group`. -/
def archiveGroup (groupId : ℕ) : GroupProg Unit := do
  let targetGroup ← GroupProg.getGroupById groupId
  if targetGroup.isArchived && targetGroup.archivedAt.isSome then
    .raise (.app .groupAlreadyArchivedError "Group is already archived")
  else
    let now ← GroupProg.now
    GroupProg.commitOrRaise targetGroup
      { targetGroup.draft with isArchived := true, archivedAt := some now }
    GroupProg.deleteCache [.groupDetailKeyAdmin groupId]

/-- `GroupServiceAdmin.restore_group`. -/
def restoreGroup (groupId : ℕ) : GroupProg Unit := do
  let targetGroup ← GroupProg.getGroupById groupId
  if !targetGroup.isArchived && targetGroup.archivedAt.isNone then
    .raise (.app .groupIsNotArchivedError "Group is already restored or has not been archived")
  else
    GroupProg.commitOrRaise targetGroup
      { targetGroup.draft with isArchived := false, archivedAt := none }
    GroupProg.deleteCache [.groupDetailKeyAdmin groupId]

end GroupServiceAdmin

/-- The two `get_group_by_id`: answer from the cache, else from the row, which is cached. -/
def cachedGroup {α : Type} (cacheKey : GroupCacheKey) (groupId : ℕ)
    (validate : GroupCacheValue → Option α) (project : Group → GroupCacheValue)
    (respond : Group → α) : GroupProg α := do
  match ← Prog.call (GroupStmt.getCache cacheKey) with
  | some cached =>
    match validate cached with
    | some response => pure response
    | none => .raise (.valueError "validation error")
  | none =>
    let group ← GroupProg.getGroupById groupId
    Prog.call (GroupStmt.setCache cacheKey (project group))
    pure (respond group)

/-- `GroupServiceAdmin.get_group_by_id`. -/
def GroupServiceAdmin.getGroupById (groupId : ℕ) : GroupProg GroupResponseAdminCache :=
  cachedGroup (.groupDetailKeyAdmin groupId) groupId GroupCacheValue.admin?
    (fun group => .admin group.adminCache) Group.adminCache

/-- `GroupServiceDirector.get_group_by_id`. -/
def GroupServiceDirector.getGroupById (groupId : ℕ) : GroupProg GroupResponseDirectorCache :=
  cachedGroup (.groupDetailKeyStaff groupId) groupId GroupCacheValue.staff?
    (fun group => .staff group.directorCache) Group.directorCache

/-! ### Operations -/

/-- The operations of the group services. -/
inductive GroupRequest
  | createGroup (createRequest : CreateGroupAdmin)
  | updateGroup (groupId : ℕ) (updateRequest : UpdateGroupAdmin)
  | archiveGroup (groupId : ℕ)
  | restoreGroup (groupId : ℕ)
  | getGroupByIdAdmin (groupId : ℕ)
  | getGroupByIdDirector (groupId : ℕ)

/-- The values they return. -/
inductive GroupResponse
  | none
  | group (group : Group)
  | admin (detail : GroupResponseAdminCache)
  | staff (detail : GroupResponseDirectorCache)
  deriving DecidableEq, Repr

/-- The program that serves a request. -/
def GroupRequest.service : GroupRequest → GroupProg GroupResponse
  | createGroup r => GroupResponse.group <$> GroupServiceAdmin.createGroup r
  | updateGroup id r => (fun _ => .none) <$> GroupServiceAdmin.updateGroup id r
  | archiveGroup id => (fun _ => .none) <$> GroupServiceAdmin.archiveGroup id
  | restoreGroup id => (fun _ => .none) <$> GroupServiceAdmin.restoreGroup id
  | getGroupByIdAdmin id => GroupResponse.admin <$> GroupServiceAdmin.getGroupById id
  | getGroupByIdDirector id => GroupResponse.staff <$> GroupServiceDirector.getGroupById id

/-- Serve a request from beginning to end. -/
def GroupStore.serve (s : GroupStore) (r : GroupRequest) :
    Except Exn GroupResponse × GroupStore :=
  r.service.run GroupStmt.exec s

/-- The store after a request. -/
def GroupStore.after (s : GroupStore) (r : GroupRequest) : GroupStore := (s.serve r).2

end SmsLite
