import SmsLite.Lists.Users
import SmsLite.SubjectService

/-!
# The lists of groups, subjects and emails

The queries of `src/groups/repository.py`, `src/subjects/repository.py` and
`src/emails/repository.py`, and the services that page through them.

## Main definitions

* `searchText`, `meetsText` — a text filter, of any table, and what it asks of a row.
* `Ranking.nullsLast`, `directed` — columns that may be null, and `ASC` and `DESC`.
* `getGroups`, `getSubjects`, `getEmails` — the queries.
* `GroupListRequest`, `SubjectListRequest`, `EmailListRequest` — the services.

## Main results

* `searchText_keeps` — **a text filter keeps the rows whose column meets the filter**.
-/

/-- A column that may be null: a null comes after every value. -/
def Ranking.nullsLast {β : Type} (r : Ranking β) : Ranking (Option β) where
  le
    | .some a, .some b => r.le a b
    | .none, .some _ => false
    | _, .none => true
  trans
    | .some a, .some b, .some c => r.trans a b c
    | .some _, .some _, .none | .some _, .none, .none | .none, .none, .none => fun _ _ => rfl
    | .none, .some _, .none => fun _ _ => rfl
    | .none, .some _, .some _ => fun hab _ => nomatch hab
    | .some _, .none, .some _ | .none, .none, .some _ => fun _ hbc => nomatch hbc
  total
    | .some a, .some b => r.total a b
    | .none, .some _ | .some _, .none | .none, .none => rfl

namespace SmsLite

/-- `query.order_by(column.desc())` or `query.order_by(column.asc())`. -/
def directed {α : Type} (ranking : Ranking α) (order : String) : Ranking α :=
  if order = "desc" then ranking.flip else ranking

/-! ### Text filters -/

/-- `if text: query = query.filter(column.ilike(f"%{text}%"))`, of any table. -/
def searchText {α : Type} (co : Collation) (column : α → Option String) (text : Option String)
    (q : Select α) : Select α :=
  match text with
  | none => q
  | some text =>
    if text = "" then q else q.filter fun a => (column a).any (co.ilike ("%" ++ text ++ "%"))

/-- The column of a row meets the filter. -/
def meetsText (co : Collation) (text column : Option String) : Bool :=
  match text with
  | none => true
  | some text => decide (text = "") || column.any (co.ilike ("%" ++ text ++ "%"))

/-- **A text filter keeps the rows whose column meets the filter.** -/
theorem searchText_keeps {α : Type} (co : Collation) (column : α → Option String)
    (text : Option String) (q : Select α) (a : α) :
    (searchText co column text q).keeps a = (q.keeps a && meetsText co text (column a)) := by
  cases text with
  | none => simp [searchText, meetsText]
  | some text =>
    by_cases hempty : text = ""
    · simp [searchText, meetsText, hempty]
    · simp [searchText, meetsText, hempty, Select.filter]

/-! ### Groups -/

/-- `SearchGroupBase`. -/
structure SearchGroupBase where
  name : Option String
  academicYear : Option ℤ
  deriving DecidableEq, Repr

/-- `SearchGroupAdmin`. -/
structure SearchGroupAdmin extends SearchGroupBase where
  includeArchived : Bool := false
  deriving DecidableEq, Repr

/-- `if year: query = query.filter(Group.academic_year == year)`: the year 0 filters nothing. -/
def filterAcademicYear (academicYear : Option ℤ) (q : Select Group) : Select Group :=
  match academicYear with
  | none => q
  | some year => if year = 0 then q else q.filter fun g => decide (g.academicYear = year)

/-- `GroupRepository.apply_filters`; `getattr(filters, "include_archived", False)` is an argument
of its own. -/
def applyGroupFilters (co : Collation) (q : Select Group) (filters : Option SearchGroupBase)
    (includeArchived : Bool) : Select Group :=
  match filters with
  | none => q
  | some filters =>
    let named := searchText co (fun g => some g.name) filters.name q
    let ofYear := filterAcademicYear filters.academicYear named
    if includeArchived then ofYear else ofYear.filter fun g => !g.isArchived

/-- `GroupSortField`. -/
inductive GroupSortField
  | name
  | academicYear
  | createdAt
  deriving DecidableEq, Repr

/-- The field of a text; any other text stands for `created_at`. -/
def GroupSortField.ofText (sortBy : String) : GroupSortField :=
  if sortBy = "name" then .name
  else if sortBy = "academic_year" then .academicYear
  else .createdAt

/-- The order of the column. -/
def GroupSortField.ranking (co : Collation) : GroupSortField → Ranking Group
  | name => co.ranking.ofColumn fun g => g.name
  | academicYear => (Ranking.linear ℤ).ofColumn fun g => g.academicYear
  | createdAt => (Ranking.linear Time).ofColumn fun g => g.createdAt

/-- `GroupRepository.get_groups`, up to the page. -/
def getGroups (co : Collation) (filters : Option SearchGroupBase) (includeArchived : Bool)
    (sortBy order : String) : Select Group :=
  (applyGroupFilters co {} filters includeArchived).orderBy
    (directed ((GroupSortField.ofText sortBy).ranking co) order)

/-- The services that list groups. -/
inductive GroupListRequest
  | getGroupsAdmin (filters : SearchGroupAdmin) (sortBy order : String)
  | getGroupsDirector (filters : SearchGroupBase) (sortBy order : String)
  deriving DecidableEq, Repr

/-- The query of a list. -/
def GroupListRequest.select (co : Collation) : GroupListRequest → Select Group
  | getGroupsAdmin filters sortBy order =>
    getGroups co (some filters.toSearchGroupBase) filters.includeArchived sortBy order
  | getGroupsDirector filters sortBy order => getGroups co (some filters) false sortBy order

/-! ### Subjects -/

/-- `SearchSubjectBase`. -/
structure SearchSubjectBase where
  name : Option String
  code : Option String
  deriving DecidableEq, Repr

/-- `SearchSubjectAdmin`. -/
structure SearchSubjectAdmin extends SearchSubjectBase where
  includeArchived : Bool := false
  deriving DecidableEq, Repr

/-- `SubjectRepository.apply_filters`; `getattr(filters, "include_archived", False)` is an argument
of its own. -/
def applySubjectFilters (co : Collation) (q : Select Subject) (filters : Option SearchSubjectBase)
    (includeArchived : Bool) : Select Subject :=
  match filters with
  | none => q
  | some filters =>
    let named := searchText co (fun s => some s.name) filters.name q
    let coded := searchText co (fun s => some s.code) filters.code named
    if includeArchived then coded else coded.filter fun s => !s.isArchived

/-- `SubjectSortField`. -/
inductive SubjectSortField
  | name
  | code
  | createdAt
  deriving DecidableEq, Repr

/-- The field of a text; any other text stands for `created_at`. -/
def SubjectSortField.ofText (sortBy : String) : SubjectSortField :=
  if sortBy = "name" then .name
  else if sortBy = "code" then .code
  else .createdAt

/-- The order of the column. -/
def SubjectSortField.ranking (co : Collation) : SubjectSortField → Ranking Subject
  | name => co.ranking.ofColumn fun s => s.name
  | code => co.ranking.ofColumn fun s => s.code
  | createdAt => (Ranking.linear Time).ofColumn fun s => s.createdAt

/-- `SubjectRepository.get_subjects`, up to the page. -/
def getSubjects (co : Collation) (filters : Option SearchSubjectBase) (includeArchived : Bool)
    (sortBy order : String) : Select Subject :=
  (applySubjectFilters co {} filters includeArchived).orderBy
    (directed ((SubjectSortField.ofText sortBy).ranking co) order)

/-- The services that list subjects. -/
inductive SubjectListRequest
  | getSubjectsAdmin (filters : SearchSubjectAdmin) (sortBy order : String)
  | getSubjectsDirector (filters : SearchSubjectBase) (sortBy order : String)
  deriving DecidableEq, Repr

/-- The query of a list. -/
def SubjectListRequest.select (co : Collation) : SubjectListRequest → Select Subject
  | getSubjectsAdmin filters sortBy order =>
    getSubjects co (some filters.toSearchSubjectBase) filters.includeArchived sortBy order
  | getSubjectsDirector filters sortBy order => getSubjects co (some filters) false sortBy order

/-! ### Emails -/

/-- `SearchEmailAdmin`. -/
structure SearchEmailAdmin where
  status : Option EmailSendingStatus
  emailType : Option EmailType
  recipientUserId : Option UserId
  triggeredBy : Option UserId
  deriving DecidableEq, Repr

/-- `if value is not None: query = query.filter(column == value)`: a null in the column equals
no value. -/
def filterEqual {α β : Type} [DecidableEq β] (column : α → Option β) (value : Option β)
    (q : Select α) : Select α :=
  match value with
  | none => q
  | some value => q.filter fun a => decide (column a = some value)

/-- `PendingEmailRepository.apply_filters`. -/
def applyEmailFilters (q : Select PendingEmail) (filters : Option SearchEmailAdmin) :
    Select PendingEmail :=
  match filters with
  | none => q
  | some filters =>
    filterEqual (·.triggeredBy) filters.triggeredBy <|
      filterEqual (·.recipientUserId) filters.recipientUserId <|
        filterEqual (fun r => some r.emailType) filters.emailType <|
          filterEqual (fun r => some r.status) filters.status q

/-- `EmailSortField`. -/
inductive EmailSortField
  | createdAt
  | emailType
  | status
  | sentAt
  deriving DecidableEq, Repr

/-- The field of a text; any other text stands for `created_at`. -/
def EmailSortField.ofText (sortBy : String) : EmailSortField :=
  if sortBy = "email_type" then .emailType
  else if sortBy = "status" then .status
  else if sortBy = "sent_at" then .sentAt
  else .createdAt

/-- The place of a value in the type `emailtype`, to which the migrations have added values one
by one. -/
def EmailType.sortOrder : EmailType → ℕ
  | invite => 0
  | passwordResetAdmin => 1
  | activationWithToken => 2
  | accountDeactivation => 3
  | accountActivation => 4
  | adminCredentialsOverride => 5
  | updatingAccount => 6
  | passwordChanged => 7
  | emailChangeCode => 8
  | emailChanged => 9
  | forgotPassword => 10

/-- The place of a value in the type `emailsendingstatus`. -/
def EmailSendingStatus.sortOrder : EmailSendingStatus → ℕ
  | pending => 0
  | sent => 1
  | failed => 2

/-- The order of the column. -/
def EmailSortField.ranking : EmailSortField → Ranking PendingEmail
  | createdAt => (Ranking.linear Time).ofColumn fun r => r.createdAt
  | emailType => (Ranking.linear ℕ).ofColumn fun r => r.emailType.sortOrder
  | status => (Ranking.linear ℕ).ofColumn fun r => r.status.sortOrder
  | sentAt => (Ranking.linear Time).nullsLast.ofColumn fun r => r.sentAt

/-- `PendingEmailRepository.get_emails`, up to the page. -/
def getEmails (filters : Option SearchEmailAdmin) (sortBy order : String) : Select PendingEmail :=
  (applyEmailFilters {} filters).orderBy
    (directed (EmailSortField.ofText sortBy).ranking order)

/-- The service that lists emails. -/
inductive EmailListRequest
  | getEmails (filters : SearchEmailAdmin) (sortBy order : String)
  deriving DecidableEq, Repr

/-- The query of the list. -/
def EmailListRequest.select : EmailListRequest → Select PendingEmail
  | .getEmails filters sortBy order => SmsLite.getEmails (some filters) sortBy order

end SmsLite
