import Mathlib.Data.String.Basic
import SmsLite.Lib.Like
import SmsLite.Lists.Catalogue

/-!
# Searching the lists for a text

The text of a filter is put between two `%`, and its metacharacters are not escaped.  Underscores
are legal in usernames, so the search for `j_doe` also shows `jadoe`.

## Main definitions

* `OccursIn` — the text occurs in the column, up to case.
* `Searchable` — the text has no metacharacters, or asks for more than the column holds.
* `UserTextField`, `SubjectTextField` — the text filters, with their columns.
* `UserTextField.Exact`, `SubjectTextField.Exact`, `GroupName.Exact` — the filter keeps exactly the
  rows in which the text occurs.

## Main results

* `UserTextField.searchable_iff_plain` — of the texts that the schemas accept for users, those
  without metacharacters are searchable.
* `textFilters_exact_iff` — **a text filter keeps exactly the rows in which the text occurs if and
  only if the text is searchable**.
* `username_pattern` — the search for `grace_hopper` shows `graceahopper`.
-/

namespace SmsLite

/-! ### Columns -/

/-- The text occurs in the column as a substring, up to case.  The empty text occurs everywhere, in
a null too. -/
def OccursIn (co : Collation) (text : String) (column : Option String) : Prop :=
  text = "" ∨ ∃ value ∈ column, Like.Occurs co.lower text.toList value.toList

/-- The column can hold the value. -/
def Storable (size : ℕ) (column : Option String) : Prop := ∀ value ∈ column, value.length ≤ size

/-- The text has no metacharacters, or its pattern asks for more characters than the column
holds. -/
def Searchable (size : ℕ) (text : String) : Prop :=
  Like.Plain text.toList ∨ size < (Like.sample text.toList).length

section Columns

variable {co : Collation} {text : String} {size : ℕ}

theorem ilike_eq_contains (co : Collation) (text value : String) :
    co.ilike ("%" ++ text ++ "%") value = Like.contains co.lower text.toList value.toList := by
  have hpattern : ("%" ++ text ++ "%").toList = '%' :: (text.toList ++ ['%']) := by simp
  unfold Collation.ilike Like.contains
  rw [hpattern]

theorem meetsText_some (co : Collation) (text : String) (column : Option String) :
    meetsText co (some text) column = true ↔
      text = "" ∨ ∃ value ∈ column, Like.contains co.lower text.toList value.toList = true := by
  simp [meetsText, ilike_eq_contains, Option.any_eq_true]

theorem meetsText_iff_of_searchable (hmeta : ∀ c, Like.Meta c → co.lower c = c)
    (h : Searchable size text) {column : Option String} (hcolumn : Storable size column) :
    meetsText co (some text) column = true ↔ OccursIn co text column := by
  rw [meetsText_some]
  have hexact := (Like.contains_exact_iff hmeta size).mpr h
  have hvalue : ∀ value ∈ column, (Like.contains co.lower text.toList value.toList = true ↔
      Like.Occurs co.lower text.toList value.toList) := by
    intro value hmem
    exact hexact value.toList (String.length_toList ▸ hcolumn value hmem)
  refine or_congr_right (exists_congr fun value => and_congr_right fun hmem => hvalue value hmem)

/-- Any other text is found in some value in which it does not occur. -/
theorem exists_of_not_searchable (hmeta : ∀ c, Like.Meta c → co.lower c = c)
    (h : ¬ Searchable size text) :
    ∃ value : String, value.length ≤ size ∧ meetsText co (some text) (some value) = true ∧
      ¬ OccursIn co text (some value) := by
  unfold Searchable at h
  push Not at h
  obtain ⟨hmetas, hsize⟩ := h
  refine ⟨String.ofList (Like.sample text.toList), by simpa using hsize, ?_, ?_⟩
  · rw [meetsText_some]
    refine Or.inr ⟨_, rfl, ?_⟩
    rw [String.toList_ofList]
    exact Like.contains_sample text.toList
  · rintro (hempty | ⟨value, hvalue, hoccurs⟩)
    · rw [hempty] at hmetas
      exact hmetas fun c hc => absurd hc List.not_mem_nil
    · rw [← Option.some.inj hvalue, String.toList_ofList] at hoccurs
      exact Like.not_occurs_sample hmeta hmetas hoccurs

end Columns

/-! ### Queries -/

section Queries

variable {α : Type}

/-- Of the rows that `without` keeps, `q` keeps those in which the text occurs. -/
def KeepsOccurrences (co : Collation) (text : String) (column : α → Option String) (size : ℕ)
    (q without : Select α) : Prop :=
  ∀ a, Storable size (column a) →
    (q.keeps a = true ↔ without.keeps a = true ∧ OccursIn co text (column a))

variable {co : Collation} {text : String} {column : α → Option String} {size : ℕ}
  {q without : Select α}

theorem keepsOccurrences_of_searchable (hmeta : ∀ c, Like.Meta c → co.lower c = c)
    (hkeeps : ∀ a, q.keeps a = (without.keeps a && meetsText co (some text) (column a)))
    (h : Searchable size text) : KeepsOccurrences co text column size q without := by
  intro a hcolumn
  rw [hkeeps, Bool.and_eq_true, meetsText_iff_of_searchable hmeta h hcolumn]

/-- If the query keeps a row for every value, the text is searchable. -/
theorem searchable_of_keepsOccurrences (hmeta : ∀ c, Like.Meta c → co.lower c = c)
    (row : String → α)
    (hkeeps : ∀ a, q.keeps a = (without.keeps a && meetsText co (some text) (column a)))
    (hcolumn : ∀ value, column (row value) = some value)
    (hrow : ∀ value, without.keeps (row value) = true)
    (h : KeepsOccurrences co text column size q without) : Searchable size text := by
  by_contra hnot
  obtain ⟨value, hsize, hmeets, hoccurs⟩ := exists_of_not_searchable hmeta hnot
  have hstorable : Storable size (column (row value)) := by
    intro other hother
    rw [hcolumn] at hother
    exact Option.some.inj hother ▸ hsize
  have hboth := (h (row value) hstorable).mp (by rw [hkeeps, hrow, hcolumn, hmeets]; rfl)
  rw [hcolumn] at hboth
  exact hoccurs hboth.2

end Queries

/-! ### Users -/

/-- The text filters of `SearchUserAdmin`; the last three are those of `SearchUserBase`. -/
inductive UserTextField
  | username
  | email
  | phoneNumber
  | firstname
  | lastname
  | middlename
  deriving DecidableEq, Repr

namespace UserTextField

/-- The column that is searched. -/
def column : UserTextField → User → Option String
  | username, u => some u.username
  | email, u => some u.email
  | phoneNumber, u => some u.phoneNumber
  | firstname, u => some u.firstname
  | lastname, u => some u.lastname
  | middlename, u => u.middlename

/-- Its `String(size)`. -/
def size : UserTextField → ℕ
  | username => 20
  | phoneNumber => 25
  | email | firstname | lastname | middlename => 50

/-- `Field(min_length=…, max_length=…)` of the filter. -/
def bounds : UserTextField → ℕ × ℕ
  | username => (3, 15)
  | email => (5, 20)
  | phoneNumber => (5, 16)
  | firstname | lastname | middlename => (3, 50)

/-- The schema accepts the text. -/
def Accepts (field : UserTextField) (text : String) : Prop :=
  field.bounds.1 ≤ text.length ∧ text.length ≤ field.bounds.2

/-- No text that the schema accepts asks for more than the column holds. -/
theorem searchable_iff_plain {field : UserTextField} {text : String} (h : field.Accepts text) :
    Searchable field.size text ↔ Like.Plain text.toList := by
  have hsize : field.bounds.2 ≤ field.size := by cases field <;> decide
  have hsample := Like.length_sample_le text.toList
  have hlength : text.toList.length = text.length := String.length_toList
  have hmax := h.2
  constructor
  · rintro (hplain | hlong)
    · exact hplain
    · omega
  · intro hplain
    exact Or.inl hplain

/-- The filters of a director with another text; they have names only. -/
def setBase (field : UserTextField) (text : Option String) (filters : SearchUserBase) :
    SearchUserBase :=
  match field with
  | firstname => { filters with firstname := text }
  | lastname => { filters with lastname := text }
  | middlename => { filters with middlename := text }
  | username | email | phoneNumber => filters

/-- The filters of an administrator with another text. -/
def setAdmin (field : UserTextField) (text : Option String) (filters : SearchUserAdmin) :
    SearchUserAdmin :=
  match field with
  | username => { filters with username := text }
  | email => { filters with email := text }
  | phoneNumber => { filters with phoneNumber := text }
  | firstname | lastname | middlename =>
    { filters with toSearchUserBase := field.setBase text filters.toSearchUserBase }

/-- The field is one of `SearchUserBase`. -/
def isBase : UserTextField → Bool
  | username | email | phoneNumber => false
  | firstname | lastname | middlename => true

end UserTextField

namespace UserListRequest

/-- The filters of the list have the field. -/
def offers (field : UserTextField) (r : UserListRequest) : Bool := r.isAdmin || field.isBase

/-- The list with another text in a field. -/
def setText (field : UserTextField) (text : Option String) : UserListRequest → UserListRequest
  | getTeachersAdmin skip limit filters sortBy order =>
    getTeachersAdmin skip limit (field.setAdmin text filters) sortBy order
  | getStudentsAdmin skip limit groupId filters sortBy order =>
    getStudentsAdmin skip limit groupId (field.setAdmin text filters) sortBy order
  | getTeachersDirector skip limit filters sortBy order =>
    getTeachersDirector skip limit (field.setBase text filters) sortBy order
  | getStudentsDirector skip limit groupId filters sortBy order =>
    getStudentsDirector skip limit groupId (field.setBase text filters) sortBy order

end UserListRequest

section Users

variable {co : Collation} {q : Select User} {u : User}

theorem filterText_keeps (column : User → Option String) (text : Option String) :
    (filterText co column text q).keeps u = (q.keeps u && meetsText co text (column u)) :=
  searchText_keeps co column text q u

/-- What the filters of a director ask of a user, apart from the role. -/
def SearchUserBase.meets (co : Collation) (filters : SearchUserBase) (u : User) : Bool :=
  meetsText co filters.firstname (some u.firstname) &&
    meetsText co filters.lastname (some u.lastname) &&
    meetsText co filters.middlename u.middlename &&
    filters.status.all fun status => decide (u.status = status)

/-- What the filters of an administrator ask of a user, apart from the role. -/
def SearchUserAdmin.meets (co : Collation) (filters : SearchUserAdmin) (u : User) : Bool :=
  filters.toSearchUserBase.meets co u && meetsText co filters.username (some u.username) &&
    meetsText co filters.email (some u.email) &&
    meetsText co filters.phoneNumber (some u.phoneNumber)

theorem filterRoles_keeps (roles : List UserRole) :
    (filterRoles roles q).keeps u = (q.keeps u && (roles.isEmpty || decide (u.role ∈ roles))) := by
  unfold filterRoles
  split
  · next hempty => simp [hempty]
  · next hne => simp [hne, Select.filter]

theorem applyBaseFilters_keeps (filters : SearchUserBase) (allowedRoles : List UserRole) :
    (applyBaseFilters co q (some filters) allowedRoles).keeps u =
      (q.keeps u && filters.meets co u &&
        (allowedRoles.isEmpty || decide (u.role ∈ allowedRoles))) := by
  obtain ⟨firstname, lastname, middlename, status⟩ := filters
  unfold applyBaseFilters SearchUserBase.meets
  rw [filterRoles_keeps]
  cases status with
  | none => simp [filterText_keeps, Bool.and_assoc]
  | some status => simp [filterText_keeps, Select.filter, Bool.and_assoc]

theorem applyAdminFilters_keeps (filters : SearchUserAdmin) (allowedRoles : List UserRole) :
    (applyAdminFilters co q filters allowedRoles).keeps u =
      (q.keeps u && filters.meets co u &&
        (allowedRoles.isEmpty || decide (u.role ∈ allowedRoles))) := by
  unfold applyAdminFilters SearchUserAdmin.meets
  rw [filterText_keeps, filterText_keeps, filterText_keeps, applyBaseFilters_keeps]
  ac_rfl

theorem UserTextField.meets_setBase {field : UserTextField} (hfield : field.isBase = true)
    (text : Option String) (filters : SearchUserBase) :
    (field.setBase text filters).meets co u =
      ((field.setBase none filters).meets co u && meetsText co text (field.column u)) := by
  cases field with
  | username | email | phoneNumber => cases hfield
  | firstname | lastname | middlename =>
    simp only [SearchUserBase.meets, setBase, column, meetsText]
    ac_rfl

theorem UserTextField.meets_setAdmin (field : UserTextField) (text : Option String)
    (filters : SearchUserAdmin) :
    (field.setAdmin text filters).meets co u =
      ((field.setAdmin none filters).meets co u && meetsText co text (field.column u)) := by
  cases hfield : field.isBase with
  | true =>
    have hbase : (field.setBase text filters.toSearchUserBase).meets co u = _ :=
      meets_setBase hfield text filters.toSearchUserBase
    cases field with
    | username | email | phoneNumber => cases hfield
    | firstname | lastname | middlename =>
      simp only [SearchUserAdmin.meets, setAdmin, hbase]
      ac_rfl
  | false =>
    cases field with
    | username | email | phoneNumber =>
      simp only [SearchUserAdmin.meets, setAdmin, column, meetsText]
      ac_rfl
    | firstname | lastname | middlename => cases hfield

end Users

namespace UserListRequest

variable {co : Collation} {u : User}

/-- The text of a field is one more condition of a list. -/
theorem setText_keeps (field : UserTextField) {r : UserListRequest}
    (hoffers : r.offers field = true) (text : Option String) :
    ((r.setText field text).select co).keeps u =
      (((r.setText field none).select co).keeps u && meetsText co text (field.column u)) := by
  cases r with
  | getTeachersAdmin skip limit filters sortBy order =>
    show (applyAdminFilters _ _ _ _).keeps u = ((applyAdminFilters _ _ _ _).keeps u && _)
    rw [applyAdminFilters_keeps, applyAdminFilters_keeps, field.meets_setAdmin]
    ac_rfl
  | getStudentsAdmin skip limit groupId filters sortBy order =>
    show (applyAdminFilters _ _ _ _).keeps u = ((applyAdminFilters _ _ _ _).keeps u && _)
    rw [applyAdminFilters_keeps, applyAdminFilters_keeps, field.meets_setAdmin]
    ac_rfl
  | getTeachersDirector skip limit filters sortBy order =>
    show (applyBaseFilters _ _ _ _).keeps u = ((applyBaseFilters _ _ _ _).keeps u && _)
    rw [applyBaseFilters_keeps, applyBaseFilters_keeps, UserTextField.meets_setBase hoffers]
    ac_rfl
  | getStudentsDirector skip limit groupId filters sortBy order =>
    show (applyBaseFilters _ _ _ _).keeps u = ((applyBaseFilters _ _ _ _).keeps u && _)
    rw [applyBaseFilters_keeps, applyBaseFilters_keeps, UserTextField.meets_setBase hoffers]
    ac_rfl

end UserListRequest

/-- A teacher with the value in every text column. -/
def teacherNamed (value : String) : User where
  id := 1
  username := value
  firstname := value
  lastname := value
  middlename := some value
  dateOfBirth := none
  address := none
  phoneNumber := value
  email := value
  passwordHash := none
  role := .teacher
  status := .active
  isActive := true
  createdBy := none
  groupId := none
  createdAt := 0

/-- **The filter keeps exactly the users in which the text occurs**, whatever the list. -/
def UserTextField.Exact (co : Collation) (text : String) (field : UserTextField) : Prop :=
  ∀ r : UserListRequest, r.offers field = true →
    KeepsOccurrences co text field.column field.size ((r.setText field (some text)).select co)
      ((r.setText field none).select co)

theorem UserTextField.exact_iff {co : Collation} (hmeta : ∀ c, Like.Meta c → co.lower c = c)
    (text : String) (field : UserTextField) :
    field.Exact co text ↔ Searchable field.size text := by
  constructor
  · intro hexact
    let r : UserListRequest :=
      .getTeachersAdmin 0 10 ⟨⟨none, none, none, none⟩, none, none, none⟩ "created_at" "desc"
    have hoffers : r.offers field = true := rfl
    refine searchable_of_keepsOccurrences hmeta teacherNamed
      (fun u => UserListRequest.setText_keeps field hoffers (some text)) ?_ ?_ (hexact r hoffers)
    · intro value
      cases field <;> rfl
    · intro value
      cases field <;> rfl
  · intro hsearchable r hoffers
    exact keepsOccurrences_of_searchable hmeta
      (fun u => UserListRequest.setText_keeps field hoffers (some text)) hsearchable

/-! ### Subjects and groups -/

/-- The text filters of `SearchSubjectBase`. -/
inductive SubjectTextField
  | name
  | code
  deriving DecidableEq, Repr

namespace SubjectTextField

/-- The column that is searched. -/
def column : SubjectTextField → Subject → Option String
  | name, s => some s.name
  | code, s => some s.code

/-- Its `String(size)`. -/
def size : SubjectTextField → ℕ
  | name => 100
  | code => 20

/-- The filters with another text. -/
def set (field : SubjectTextField) (text : Option String) (filters : SearchSubjectBase) :
    SearchSubjectBase :=
  match field with
  | name => { filters with name := text }
  | code => { filters with code := text }

end SubjectTextField

/-- The list with another text in a field. -/
def SubjectListRequest.setText (field : SubjectTextField) (text : Option String) :
    SubjectListRequest → SubjectListRequest
  | getSubjectsAdmin filters sortBy order =>
    getSubjectsAdmin
      { filters with toSearchSubjectBase := field.set text filters.toSearchSubjectBase }
      sortBy order
  | getSubjectsDirector filters sortBy order =>
    getSubjectsDirector (field.set text filters) sortBy order

/-- The list with another text for the name. -/
def GroupListRequest.setName (text : Option String) : GroupListRequest → GroupListRequest
  | getGroupsAdmin filters sortBy order => getGroupsAdmin { filters with name := text } sortBy order
  | getGroupsDirector filters sortBy order =>
    getGroupsDirector { filters with name := text } sortBy order

section Catalogue

variable {co : Collation}

theorem getSubjects_keeps (filters : SearchSubjectBase) (includeArchived : Bool)
    (sortBy order : String) (s : Subject) :
    (getSubjects co (some filters) includeArchived sortBy order).keeps s =
      (meetsText co filters.name (some s.name) && meetsText co filters.code (some s.code) &&
        (includeArchived || !s.isArchived)) := by
  unfold getSubjects applySubjectFilters Select.orderBy
  cases includeArchived with
  | true => simp [searchText_keeps]
  | false => simp [searchText_keeps, Select.filter]

theorem SubjectListRequest.setText_keeps (field : SubjectTextField) (text : Option String)
    (r : SubjectListRequest) (s : Subject) :
    ((r.setText field text).select co).keeps s =
      (((r.setText field none).select co).keeps s && meetsText co text (field.column s)) := by
  cases r with
  | getSubjectsAdmin filters sortBy order | getSubjectsDirector filters sortBy order =>
    unfold setText select
    dsimp only
    rw [getSubjects_keeps, getSubjects_keeps]
    cases field with
    | name | code =>
      simp only [SubjectTextField.set, SubjectTextField.column, meetsText]
      ac_rfl

/-- **The filter keeps exactly the subjects in which the text occurs**, whatever the list. -/
def SubjectTextField.Exact (co : Collation) (text : String) (field : SubjectTextField) : Prop :=
  ∀ r : SubjectListRequest,
    KeepsOccurrences co text field.column field.size ((r.setText field (some text)).select co)
      ((r.setText field none).select co)

/-- A subject with the value in every text column. -/
def subjectNamed (value : String) : Subject where
  id := 1
  name := value
  code := value
  description := none
  isArchived := false
  archivedAt := none
  createdAt := 0

theorem SubjectTextField.exact_iff (hmeta : ∀ c, Like.Meta c → co.lower c = c) (text : String)
    (field : SubjectTextField) : field.Exact co text ↔ Searchable field.size text := by
  constructor
  · intro hexact
    let r : SubjectListRequest := .getSubjectsDirector ⟨none, none⟩ "name" "desc"
    refine searchable_of_keepsOccurrences hmeta subjectNamed (r.setText_keeps field (some text))
      ?_ ?_ (hexact r)
    · intro value
      cases field <;> rfl
    · intro value
      cases field <;> rfl
  · intro hsearchable r
    exact keepsOccurrences_of_searchable hmeta (r.setText_keeps field (some text)) hsearchable

theorem filterAcademicYear_keeps (year : Option ℤ) (q : Select Group) (g : Group) :
    (filterAcademicYear year q).keeps g =
      (q.keeps g && year.all fun year => decide (year = 0) || decide (g.academicYear = year)) := by
  cases year with
  | none => simp [filterAcademicYear]
  | some year =>
    by_cases hzero : year = 0
    · simp [filterAcademicYear, hzero]
    · simp [filterAcademicYear, hzero, Select.filter]

theorem getGroups_keeps (filters : SearchGroupBase) (includeArchived : Bool)
    (sortBy order : String) (g : Group) :
    (getGroups co (some filters) includeArchived sortBy order).keeps g =
      (meetsText co filters.name (some g.name) &&
        (filters.academicYear.all fun year =>
          decide (year = 0) || decide (g.academicYear = year)) &&
        (includeArchived || !g.isArchived)) := by
  unfold getGroups applyGroupFilters Select.orderBy
  cases includeArchived with
  | true => simp [searchText_keeps, filterAcademicYear_keeps]
  | false => simp [searchText_keeps, filterAcademicYear_keeps, Select.filter]

theorem GroupListRequest.setName_keeps (text : Option String) (r : GroupListRequest) (g : Group) :
    ((r.setName text).select co).keeps g =
      (((r.setName none).select co).keeps g && meetsText co text (some g.name)) := by
  cases r with
  | getGroupsAdmin filters sortBy order | getGroupsDirector filters sortBy order =>
    unfold setName select
    dsimp only
    rw [getGroups_keeps, getGroups_keeps]
    simp only [meetsText]
    ac_rfl

/-- **The filter keeps exactly the groups in whose name the text occurs**, whatever the list. -/
def GroupName.Exact (co : Collation) (text : String) : Prop :=
  ∀ r : GroupListRequest,
    KeepsOccurrences co text (fun g => some g.name) 50 ((r.setName (some text)).select co)
      ((r.setName none).select co)

theorem GroupName.exact_iff (hmeta : ∀ c, Like.Meta c → co.lower c = c) (text : String) :
    GroupName.Exact co text ↔ Searchable 50 text := by
  constructor
  · intro hexact
    let r : GroupListRequest := .getGroupsDirector ⟨none, none⟩ "name" "desc"
    let row (value : String) : Group :=
      { id := 1, name := value, academicYear := 2025, gradeLevel := none, capacity := none,
        isArchived := false, archivedAt := none, createdAt := 0 }
    exact searchable_of_keepsOccurrences hmeta row (r.setName_keeps (some text))
      (fun _ => rfl) (fun _ => rfl) (hexact r)
  · intro hsearchable r
    exact keepsOccurrences_of_searchable hmeta (r.setName_keeps (some text)) hsearchable

end Catalogue

/-! ### All text filters -/

/-- **A text filter keeps exactly the rows in which the text occurs if and only if the text has no
metacharacters**, or asks for more characters than the column holds. -/
theorem textFilters_exact_iff (co : Collation) (hmeta : ∀ c, Like.Meta c → co.lower c = c)
    (text : String) :
    (∀ field : UserTextField, field.Exact co text ↔ Searchable field.size text) ∧
    (∀ field : SubjectTextField, field.Exact co text ↔ Searchable field.size text) ∧
    (GroupName.Exact co text ↔ Searchable 50 text) := by
  refine ⟨fun field => ?_, fun field => ?_, ?_⟩
  · exact field.exact_iff hmeta text
  · exact field.exact_iff hmeta text
  · exact GroupName.exact_iff hmeta text

/-- A name without metacharacters is searched for exactly, and one with an underscore is not;
the case is that of ASCII, under which the metacharacters stay what they are. -/
theorem textFilters_exact_grace :
    let co : Collation := ⟨Char.toLower, Ranking.linear String⟩
    ((∀ field : UserTextField, field.Exact co "grace") ∧
      (∀ field : SubjectTextField, field.Exact co "grace") ∧ GroupName.Exact co "grace") ∧
    ¬ UserTextField.username.Exact co "grace_" := by
  intro co
  have hmeta : ∀ c, Like.Meta c → co.lower c = c := by rintro c (rfl | rfl | rfl) <;> rfl
  have hplain : Like.Plain "grace".toList := by decide +kernel
  obtain ⟨huser, hsubject, hgroup⟩ := textFilters_exact_iff co hmeta "grace"
  refine ⟨⟨fun field => ?_, fun field => ?_, hgroup.mpr (Or.inl hplain)⟩, fun hexact => ?_⟩
  · exact (huser field).mpr (Or.inl hplain)
  · exact (hsubject field).mpr (Or.inl hplain)
  · rcases ((textFilters_exact_iff co hmeta "grace_").1 .username).mp hexact with hplain | hlong
    · exact absurd hplain (by decide +kernel)
    · exact absurd hlong (by decide +kernel)

/-- The search for the username `grace_hopper` shows `graceahopper`. -/
theorem username_pattern :
    let co : Collation := ⟨Char.toLower, Ranking.linear String⟩
    let u := { teacherNamed "Grace" with
      username := "graceahopper", phoneNumber := "+998901234567", email := "grace@example.com" }
    (getUsersAdmin co ⟨⟨none, none, none, none⟩, some "grace_hopper", none, none⟩ "created_at"
      "desc" teacherRole none).keeps u = true ∧
    ¬ OccursIn co "grace_hopper" (some u.username) := by
  refine ⟨by decide +kernel, ?_⟩
  rintro (hempty | ⟨value, hvalue, hoccurs⟩)
  · exact absurd hempty (by decide)
  · rw [← Option.some.inj hvalue] at hoccurs
    exact absurd hoccurs (by decide +kernel)

end SmsLite
