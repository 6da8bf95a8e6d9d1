import SmsLite.UserServiceAdmin

/-!
# The subject services

`src/subjects/services/system_admin.py` and `src/subjects/services/director.py`, with the
payloads of `src/subjects/schemas.py`.  Subjects have a table and two cache keys of their own,
and nothing refers to them.

## Main definitions

* `CreateSubjectAdmin`, `UpdateSubjectAdmin` — the requests, after their validators.
* `SubjectStore`, `SubjectStmt` — the table with its cache, and the statements on it.
* `SubjectServiceAdmin.createSubject`, `SubjectServiceAdmin.updateSubject`,
  `SubjectServiceAdmin.archiveSubject`, `SubjectServiceAdmin.restoreSubject` — the mutators.
* `SubjectServiceAdmin.getSubjectById`, `SubjectServiceDirector.getSubjectById` — the cached
  readers.
* `SubjectRequest`, `SubjectStore.after` — the operations, and what each makes of the store.
-/

namespace SmsLite

open Interleave

/-! ### Rows and requests -/

/-- A row of `subjects`. -/
structure Subject where
  id : ℕ
  name : String
  code : String
  description : Option String
  isArchived : Bool
  archivedAt : Option Time
  createdAt : Time
  deriving DecidableEq, Repr

instance : Keyed Subject ℕ := ⟨Subject.id⟩

@[simp] theorem key_subject (g : Subject) : Keyed.key g = g.id := rfl

/-- `Field(min_length=5, max_length=100)`. -/
def SubjectName.Valid (name : String) : Prop := 5 ≤ name.length ∧ name.length ≤ 100

/-- `Field(max_length=255)`. -/
def SubjectDescription.Valid (description : String) : Prop := description.length ≤ 255

/-- `CreateSubjectAdmin`, after its validators; the code is what `normalize_subject_code`
returns. -/
structure CreateSubjectAdmin where
  name : String
  code : String
  description : Option String
  name_valid : SubjectName.Valid name
  description_valid : ∀ text ∈ description, SubjectDescription.Valid text

/-- `UpdateSubjectAdmin`, after its validators; a null name or code passes them. -/
structure UpdateSubjectAdmin where
  name : Patch String
  code : Patch String
  description : Patch String
  name_valid : ∀ text, name = .set text → SubjectName.Valid text
  description_valid : ∀ text, description = .set text → SubjectDescription.Valid text

/-- A mapped `Subject` object before it is flushed. -/
structure SubjectDraft where
  name : Option String
  code : Option String
  description : Option String
  isArchived : Bool
  archivedAt : Option Time
  deriving DecidableEq, Repr

/-- The object a load makes from a row. -/
def Subject.draft (subject : Subject) : SubjectDraft where
  name := some subject.name
  code := some subject.code
  description := subject.description
  isArchived := subject.isArchived
  archivedAt := subject.archivedAt

/-- The subject with the sent fields assigned. -/
def UpdateSubjectAdmin.assign (r : UpdateSubjectAdmin) (subject : SubjectDraft) : SubjectDraft :=
  { subject with
    name := r.name.assign subject.name
    code := r.code.assign subject.code
    description := r.description.assign subject.description }

/-! ### Cache entries -/

/-- `SubjectCacheKey`: the key texts are `subjects:{id}:admin` and `subjects:{id}:staff`. -/
inductive SubjectCacheKey
  | subjectDetailKeyAdmin (subjectId : ℕ)
  | subjectDetailKeyStaff (subjectId : ℕ)
  deriving DecidableEq, Repr

/-- `SubjectResponseBase`. -/
structure SubjectResponseBase where
  name : String
  code : String
  description : Option String
  deriving DecidableEq, Repr

/-- `SubjectResponseDirectorCache`. -/
structure SubjectResponseDirectorCache extends SubjectResponseBase where
  id : ℕ
  isArchived : Bool
  createdAt : Time
  deriving DecidableEq, Repr

/-- `SubjectResponseAdminCache`. -/
structure SubjectResponseAdminCache extends SubjectResponseBase where
  id : ℕ
  isArchived : Bool
  archivedAt : Option Time
  createdAt : Time
  deriving DecidableEq, Repr

/-- The fields of `SubjectResponseBase`. -/
def Subject.response (subject : Subject) : SubjectResponseBase where
  name := subject.name
  code := subject.code
  description := subject.description

/-- `SubjectResponseDirectorCache.model_validate`. -/
def Subject.directorCache (subject : Subject) : SubjectResponseDirectorCache :=
  { subject.response with
    id := subject.id, isArchived := subject.isArchived, createdAt := subject.createdAt }

/-- `SubjectResponseAdminCache.model_validate`. -/
def Subject.adminCache (subject : Subject) : SubjectResponseAdminCache :=
  { subject.response with
    id := subject.id, isArchived := subject.isArchived, archivedAt := subject.archivedAt
    createdAt := subject.createdAt }

/-- The JSON value under a key. -/
inductive SubjectCacheValue
  | admin (detail : SubjectResponseAdminCache)
  | staff (detail : SubjectResponseDirectorCache)
  /-- What no schema takes. -/
  | invalid
  deriving DecidableEq, Repr

/-- The admin dump under a key. -/
def SubjectCacheValue.admin? : SubjectCacheValue → Option SubjectResponseAdminCache
  | .admin detail => some detail
  | _ => none

/-- The staff dump under a key. -/
def SubjectCacheValue.staff? : SubjectCacheValue → Option SubjectResponseDirectorCache
  | .staff detail => some detail
  | _ => none

/-! ### The store -/

/-- The table of the subjects, and what goes with it. -/
structure SubjectStore where
  rows : List Subject
  /-- The next value of the `subjects` id sequence. -/
  idSeq : ℕ
  clock : Time
  cache : SubjectCacheKey → Option SubjectCacheValue

/-- The driver's message for two subjects of one code. -/
def duplicateSubject (code : String) : String := duplicateKey "ix_subjects_code" "code" code

/-- A value as the server writes it into the description of a row. -/
def describedValue : Option String → String
  | none => "null"
  | some text => if 64 < text.length then String.ofList (text.toList.take 64) ++ "..." else text

/-- The driver's message for a null in a `NOT NULL` column of `subjects`. -/
def nullSubject (column : String) (row : SubjectDraft) : String :=
  "null value in column \"" ++ column ++
    "\" of relation \"subjects\" violates not-null constraint" ++
    "\nDETAIL:  Failing row contains (" ++
    String.intercalate ", " ([row.name, row.code, row.description].map describedValue) ++ ")."

/-- The driver's message for a text that is longer than its column. -/
def tooLongText (limit : ℕ) : String :=
  "value too long for type character varying(" ++ toString limit ++ ")"

/-- Another subject has the code. -/
def SubjectStore.taken (s : SubjectStore) (id : ℕ) (code : String) : Bool :=
  s.rows.any fun subject => subject.id ≠ id && subject.code = code

/-- The row after a flush: the columns whose value differs from the loaded one are set, if
the database takes them.  A text is cut to its column before anything else is checked. -/
def SubjectStore.flush (s : SubjectStore) (loaded : Subject) (current : SubjectDraft) :
    Except DbError (Subject → Subject) :=
  if current.code ≠ some loaded.code && current.code.any (20 < ·.length) then
    .error (.data (tooLongText 20))
  else
    match current.name, current.code with
    | none, _ => .error (.integrity (nullSubject "name" current))
    | _, none => .error (.integrity (nullSubject "code" current))
    | some name, some code =>
      if code ≠ loaded.code && s.taken loaded.id code then
        .error (.integrity (duplicateSubject code))
      else
        .ok fun stored =>
          { stored with
            name := written loaded.name name stored.name
            code := written loaded.code code stored.code
            description := written loaded.description current.description stored.description
            isArchived := written loaded.isArchived current.isArchived stored.isArchived
            archivedAt := written loaded.archivedAt current.archivedAt stored.archivedAt }

/-- The row of a new subject. -/
def CreateSubjectAdmin.row (r : CreateSubjectAdmin) (id : ℕ) (createdAt : Time) : Subject where
  id := id
  name := r.name
  code := r.code
  description := r.description
  isArchived := false
  archivedAt := none
  createdAt := createdAt

/-- One atomic step of a subject request. -/
inductive SubjectStmt
  /-- `datetime.now(UTC)`. -/
  | now
  | getSubjectById (subjectId : ℕ)
  /-- `session.add(new_subject)` and `await session.commit()`: the reply is the new id. -/
  | insert (subject : CreateSubjectAdmin)
  /-- `await session.commit()` with one loaded subject. -/
  | commit (loaded : Subject) (current : SubjectDraft)
  | rollback
  /-- `await session.refresh(subject)`. -/
  | refresh (subjectId : ℕ)
  | getCache (key : SubjectCacheKey)
  | setCache (key : SubjectCacheKey) (value : SubjectCacheValue)
  | deleteCache (keys : List SubjectCacheKey)

/-- The type of the reply. -/
def SubjectStmt.Reply : SubjectStmt → Type
  | now => Time
  | getSubjectById _ => Option Subject
  | insert _ => Except DbError ℕ
  | commit _ _ => Except DbError Unit
  | rollback => Unit
  | refresh _ => Option Subject
  | getCache _ => Option SubjectCacheValue
  | setCache _ _ => Unit
  | deleteCache _ => Unit

/-- The reply to a statement and the state after it.  A failed insert has used up an id. -/
def SubjectStmt.exec : (s : SubjectStmt) → SubjectStore → s.Reply × SubjectStore
  | .now, s => (s.clock, s)
  | .getSubjectById subjectId, s => (Keyed.get? s.rows subjectId, s)
  | .insert subject, s =>
    if 20 < subject.code.length then
      (.error (.data (tooLongText 20)), { s with idSeq := s.idSeq + 1 })
    else if s.taken s.idSeq subject.code then
      (.error (.integrity (duplicateSubject subject.code)), { s with idSeq := s.idSeq + 1 })
    else
      (.ok s.idSeq,
        { s with rows := s.rows ++ [subject.row s.idSeq s.clock], idSeq := s.idSeq + 1 })
  | .commit loaded current, s =>
    match s.flush loaded current with
    | .error e => (.error e, s)
    | .ok write => (.ok (), { s with rows := Keyed.modify s.rows loaded.id write })
  | .rollback, s => ((), s)
  | .refresh subjectId, s => (Keyed.get? s.rows subjectId, s)
  | .getCache key, s => (s.cache key, s)
  | .setCache key value, s => ((), { s with cache := Function.update s.cache key (some value) })
  | .deleteCache keys, s =>
    ((), { s with cache := fun key => if key ∈ keys then none else s.cache key })

/-! ### Programs -/

/-- A program over the store. -/
abbrev SubjectProg (α : Type) := Prog SubjectStmt SubjectStmt.Reply Exn α

namespace SubjectProg

/-- `datetime.now(UTC)`. -/
def now : SubjectProg Time := Prog.call SubjectStmt.now

/-- `SubjectRepository.get_subject_by_id` and `ensure_exists`:
`SubjectNotFoundError(HTTP404.SUBJECT)`. -/
def getSubjectById (subjectId : ℕ) : SubjectProg Subject := do
  match ← Prog.call (SubjectStmt.getSubjectById subjectId) with
  | none => .raise (.app .subjectNotFoundError HTTP404.subject)
  | some subject => pure subject

/-- `session.refresh(subject)`. -/
def refresh (subjectId : ℕ) : SubjectProg Subject := do
  match ← Prog.call (SubjectStmt.refresh subjectId) with
  | none => .raise (.invalidRequestError "Could not refresh instance")
  | some subject => pure subject

/-- `delete_cache`. -/
def deleteCache (keys : List SubjectCacheKey) : SubjectProg Unit :=
  Prog.call (SubjectStmt.deleteCache keys)

/-- `session.commit()` outside a `try`. -/
def commitOrRaise (loaded : Subject) (current : SubjectDraft) : SubjectProg Unit := do
  match ← Prog.call (SubjectStmt.commit loaded current) with
  | .ok () => pure ()
  | .error e => .raise e.exn

/-- The `except IntegrityError` blocks: roll back, then `handle_subject_code_integrity_error`
and `raise_unhandled_integrity_error`.  Any other error of the database is not caught. -/
def exceptIntegrityError {α : Type} (e : DbError) : SubjectProg α :=
  match e with
  | .data orig => .raise (.dbapiError orig)
  | .integrity orig => do
    Prog.call SubjectStmt.rollback
    if pyIn "ix_subjects_code" orig then
      .raise (.app .subjectCodeAlreadyExistsError HTTP409.subjectCode)
    else .raise (.integrityError orig)

end SubjectProg

namespace SubjectServiceAdmin

/-- `SubjectServiceAdmin.create_subject`. -/
def createSubject (createRequest : CreateSubjectAdmin) : SubjectProg Subject := do
  match ← Prog.call (SubjectStmt.insert createRequest) with
  | .error e => SubjectProg.exceptIntegrityError e
  | .ok subjectId => SubjectProg.refresh subjectId

/-- `SubjectServiceAdmin.update_subject`. -/
def updateSubject (subjectId : ℕ) (request : UpdateSubjectAdmin) : SubjectProg Unit := do
  let targetSubject ← SubjectProg.getSubjectById subjectId
  let assigned := request.assign targetSubject.draft
  if assigned = targetSubject.draft then
    .raise (.app .noChangesDetectedError HTTP400.noChangesDetected)
  else
    match ← Prog.call (SubjectStmt.commit targetSubject assigned) with
    | .error e => SubjectProg.exceptIntegrityError e
    | .ok () =>
      let _ ← SubjectProg.refresh subjectId
      SubjectProg.deleteCache [.subjectDetailKeyAdmin subjectId, .subjectDetailKeyStaff subjectId]

/-- `SubjectServiceAdmin.archive_subject`. -/
def archiveSubject (subjectId : ℕ) : SubjectProg Unit := do
  let targetSubject ← SubjectProg.getSubjectById subjectId
  if targetSubject.isArchived || targetSubject.archivedAt.isSome then
    .raise (.app .subjectAlreadyArchivedError "Subject is already archived")
  else
    let now ← SubjectProg.now
    SubjectProg.commitOrRaise targetSubject
      { targetSubject.draft with isArchived := true, archivedAt := some now }
    SubjectProg.deleteCache [.subjectDetailKeyAdmin subjectId]

/-- `SubjectServiceAdmin.restore_subject`. -/
def restoreSubject (subjectId : ℕ) : SubjectProg Unit := do
  let targetSubject ← SubjectProg.getSubjectById subjectId
  if !targetSubject.isArchived || targetSubject.archivedAt.isNone then
    .raise (.app .subjectNotArchivedError "Subject is already restored or has not been archived")
  else
    SubjectProg.commitOrRaise targetSubject
      { targetSubject.draft with isArchived := false, archivedAt := none }
    SubjectProg.deleteCache [.subjectDetailKeyAdmin subjectId]

end SubjectServiceAdmin

/-- The two `get_subject_by_id`: answer from the cache, else from the row, which is cached. -/
def cachedSubject {α : Type} (cacheKey : SubjectCacheKey) (subjectId : ℕ)
    (validate : SubjectCacheValue → Option α) (project : Subject → SubjectCacheValue)
    (respond : Subject → α) : SubjectProg α := do
  match ← Prog.call (SubjectStmt.getCache cacheKey) with
  | some cached =>
    match validate cached with
    | some response => pure response
    | none => .raise (.valueError "validation error")
  | none =>
    let subject ← SubjectProg.getSubjectById subjectId
    Prog.call (SubjectStmt.setCache cacheKey (project subject))
    pure (respond subject)

/-- `SubjectServiceAdmin.get_subject_by_id`. -/
def SubjectServiceAdmin.getSubjectById (subjectId : ℕ) : SubjectProg SubjectResponseAdminCache :=
  cachedSubject (.subjectDetailKeyAdmin subjectId) subjectId SubjectCacheValue.admin?
    (fun subject => .admin subject.adminCache) Subject.adminCache

/-- `SubjectServiceDirector.get_subject_by_id`. -/
def SubjectServiceDirector.getSubjectById (subjectId : ℕ) :
    SubjectProg SubjectResponseDirectorCache :=
  cachedSubject (.subjectDetailKeyStaff subjectId) subjectId SubjectCacheValue.staff?
    (fun subject => .staff subject.directorCache) Subject.directorCache

/-! ### Operations -/

/-- The operations of the subject services. -/
inductive SubjectRequest
  | createSubject (createRequest : CreateSubjectAdmin)
  | updateSubject (subjectId : ℕ) (request : UpdateSubjectAdmin)
  | archiveSubject (subjectId : ℕ)
  | restoreSubject (subjectId : ℕ)
  | getSubjectByIdAdmin (subjectId : ℕ)
  | getSubjectByIdDirector (subjectId : ℕ)

/-- The values they return. -/
inductive SubjectResponse
  | none
  | subject (subject : Subject)
  | admin (detail : SubjectResponseAdminCache)
  | staff (detail : SubjectResponseDirectorCache)
  deriving DecidableEq, Repr

/-- The program that serves a request. -/
def SubjectRequest.service : SubjectRequest → SubjectProg SubjectResponse
  | createSubject r => SubjectResponse.subject <$> SubjectServiceAdmin.createSubject r
  | updateSubject id r => (fun _ => .none) <$> SubjectServiceAdmin.updateSubject id r
  | archiveSubject id => (fun _ => .none) <$> SubjectServiceAdmin.archiveSubject id
  | restoreSubject id => (fun _ => .none) <$> SubjectServiceAdmin.restoreSubject id
  | getSubjectByIdAdmin id => SubjectResponse.admin <$> SubjectServiceAdmin.getSubjectById id
  | getSubjectByIdDirector id => SubjectResponse.staff <$> SubjectServiceDirector.getSubjectById id

/-- Serve a request from beginning to end. -/
def SubjectStore.serve (s : SubjectStore) (r : SubjectRequest) :
    Except Exn SubjectResponse × SubjectStore :=
  r.service.run SubjectStmt.exec s

/-- The store after a request. -/
def SubjectStore.after (s : SubjectStore) (r : SubjectRequest) : SubjectStore := (s.serve r).2

end SmsLite
