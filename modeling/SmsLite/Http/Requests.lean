import SmsLite.Http.Routes
import SmsLite.Lib.FixedWindow
import SmsLite.Lib.Trim
import SmsLite.Lists.Pages
import SmsLite.Outbox.Delivery
import SmsLite.Roles
import SmsLite.Schemas.Passwords

/-!
# The requests of the HTTP interface

What a client sends, and what each operation makes of it before it calls its service: the id in
the path, the query of a list, the body as its schema accepts it, and the caller its dependency
provides.

## Main definitions

* `HttpRequest`, `Framework` — a request, and what FastAPI reads out of its texts.
* `Operation`, `Handler.operation` — the service call of an operation.
* `Handler.limit` — the limits of the operations.
-/

namespace SmsLite

/-! ### Requests -/

/-- A request as it comes in. -/
structure HttpRequest where
  method : Method
  /-- The path, split at its slashes. -/
  path : List String
  query : String
  /-- The `Authorization` header. -/
  authorization : Option String
  /-- The cookie `refresh_token`. -/
  refreshToken : Option String
  /-- The cookie `refresh_token_family`. -/
  refreshTokenFamily : Option String
  body : String
  /-- `request.client.host`. -/
  remoteAddress : String
  deriving DecidableEq, Repr

/-- `PaginationParams`. -/
structure PaginationParams where
  skip : ℕ
  limit : PageLimit

/-- The query of a list. -/
structure ListQuery (Filters : Type) where
  pagination : PaginationParams
  filters : Filters
  sortBy : String
  order : String

/-- What is reported of a request, by field. -/
abbrev Parsed (α : Type) := Validated (String × FieldError) α

/-- A body of `create_group`. -/
structure CreateGroupAdmin.Body where
  name : String
  academicYear : ℤ
  gradeLevel : Option ℤ
  capacity : Option ℤ
  deriving DecidableEq, Repr

/-- A body of `update_group`. -/
structure UpdateGroupAdmin.Body where
  name : Patch String
  gradeLevel : Patch ℤ
  capacity : Patch ℤ
  deriving DecidableEq, Repr

/-- What FastAPI reads out of the texts of a request: values of the declared types, before the
validators of the schemas. -/
structure Framework where
  /-- Pydantic's `int`. -/
  int : String → Option ℤ
  int_toString : ∀ n : ℕ, int (toString n) = some (n : ℤ)
  /-- The body is JSON. -/
  isJson : String → Bool
  loginForm : String → Parsed LoginForm
  activateAccount : String → Parsed ActivateAccountWithToken
  resetPassword : String → Parsed ResetPassword
  forgotPassword : String → Parsed ForgotPasswordPublicRequest
  createUser : String → Parsed CreateUserRequest.Body
  updateUser : String → Parsed UpdateUserRequest.Body
  updateUserCredentials : String → Parsed UpdateUserCredentials.Body
  confirmEmailChange : String → Parsed ConfirmEmailChange
  updateMePassword : String → Parsed UpdateMePassword
  createSubject : String → Parsed CreateSubjectAdmin.Body
  updateSubject : String → Parsed UpdateSubjectAdmin.Body
  createGroup : String → Parsed CreateGroupAdmin.Body
  updateGroup : String → Parsed UpdateGroupAdmin.Body
  searchUserAdmin : String → Parsed (ListQuery SearchUserAdmin)
  searchUserBase : String → Parsed (ListQuery SearchUserBase)
  /-- The query parameter `group_id`. -/
  groupId : String → Parsed (Option ℕ)
  searchGroupAdmin : String → Parsed (ListQuery SearchGroupAdmin)
  searchGroupBase : String → Parsed (ListQuery SearchGroupBase)
  searchSubjectAdmin : String → Parsed (ListQuery SearchSubjectAdmin)
  searchSubjectBase : String → Parsed (ListQuery SearchSubjectBase)
  searchEmailAdmin : String → Parsed (ListQuery SearchEmailAdmin)

/-- `OAuth2PasswordBearer`. -/
structure BearerScheme where
  /-- `get_authorization_scheme_param`: the scheme and the parameter of a header. -/
  split : String → String × String
  /-- A token has no blank in it and none around it. -/
  split_token : ∀ scheme token : String, (∀ c ∈ scheme.toList, c ≠ ' ') →
    (∀ c ∈ token.toList, isWordChar c = true ∨ c = '-' ∨ c = '.') →
      split (scheme ++ " " ++ token) = (scheme, token)

/-- `oauth2_scheme`. -/
def BearerScheme.token (bearer : BearerScheme) (req : HttpRequest) : Option String :=
  req.authorization.bind fun text =>
    if text = "" then none
    else if (bearer.split text).1.toLower = "bearer" then some (bearer.split text).2
    else none

/-- `param.strip()`, on ASCII. -/
def strip (text : List Char) : List Char := Trim.trim Char.isWhitespace text

/-- A text of word characters is not stripped. -/
theorem strip_eq_self {text : List Char}
    (h : ∀ c ∈ text, isWordChar c = true ∨ c = '-' ∨ c = '.') : strip text = text := by
  refine Trim.trim_eq_self fun c hc hblank => ?_
  have hc := h c hc
  simp only [Char.isWhitespace, Bool.or_eq_true, decide_eq_true_eq] at hblank
  rcases hblank with ((rfl | rfl) | rfl) | rfl <;> exact absurd hc (by decide)

/-- The two parts around the first blank, the second one stripped. -/
def BearerScheme.concrete : BearerScheme where
  split text :=
    (String.ofList (text.toList.takeWhile (· ≠ ' ')),
      String.ofList (strip ((text.toList.dropWhile (· ≠ ' ')).drop 1)))
  split_token := by
    intro scheme token hscheme htoken
    have htext : (scheme ++ " " ++ token).toList = scheme.toList ++ ' ' :: token.toList := by simp
    have hne : ∀ c ∈ scheme.toList, decide (c ≠ ' ') = true :=
      fun c hc => decide_eq_true (hscheme c hc)
    rw [htext, List.takeWhile_append_of_pos hne, List.dropWhile_append_of_pos hne]
    simp [strip_eq_self htoken]

/-- Everything the application is given. -/
structure Platform extends Framework where
  env : Env
  bearer : BearerScheme
  unicode : Unicode
  phonenumbers : Phonenumbers
  classes : CharacterClasses
  collation : Collation
  /-- The date of a time. -/
  date : Time → Date
  /-- The order in which the server returns the rows of a query. -/
  arrange : ∀ {α : Type} (q : Select α) (table : List α), q.Arrangement table
  provider : Provider

/-- What the schemas go by. -/
def Platform.validation (P : Platform) (now : Time) : Validation where
  unicode := P.unicode
  phonenumbers := P.phonenumbers
  today := P.date now

/-- A body of `create_group`. -/
def groupBody : String := "\x7b\"name\": \"6-A\", \"academic_year\": 2026\x7d"

/-- A framework that knows one form and one body. -/
def Framework.concrete : Framework where
  int text := if isNumeral text then some (Nat.ofDigitChars 10 text.toList 0) else none
  int_toString n := by
    have hlist : (toString n).toList = Nat.toDigits 10 n := by simp
    rw [if_pos (isNumeral_toString n), hlist, Nat.ofDigitChars_ten_toDigits]
  isJson body := decide (body = groupBody)
  loginForm body :=
    if body = "username=principal&password=pw" then
      .ok { username := some "principal", password := some "pw" }
    else .errors []
  activateAccount _ := .errors []
  resetPassword _ := .errors []
  forgotPassword _ := .errors []
  createUser _ := .errors []
  updateUser _ := .errors []
  updateUserCredentials _ := .errors []
  confirmEmailChange _ := .errors []
  updateMePassword _ := .errors []
  createSubject _ := .errors []
  updateSubject _ := .errors []
  createGroup body :=
    if body = groupBody then
      .ok { name := "6-A", academicYear := 2026, gradeLevel := none, capacity := none }
    else .errors []
  updateGroup _ := .errors []
  searchUserAdmin _ := .errors []
  searchUserBase _ := .errors []
  groupId _ := .errors []
  searchGroupAdmin _ := .errors []
  searchGroupBase _ := .errors []
  searchSubjectAdmin _ := .errors []
  searchSubjectBase _ := .errors []
  searchEmailAdmin _ := .errors []

/-- The platform of the examples. -/
def Platform.concrete : Platform where
  toFramework := .concrete
  env := .concrete
  bearer := .concrete
  unicode := Validation.concrete.unicode
  phonenumbers := Validation.concrete.phonenumbers
  classes := .ascii
  collation := .concrete
  date _ := Validation.concrete.today
  arrange := Select.Arrangement.sorted
  provider := .always .delivered

/-! ### Bodies of groups -/

/-- `Field(ge=..., le=...)`. -/
def intBetween (ge le : ℤ) : FieldCheck ℤ { n : ℤ // ge ≤ n ∧ n ≤ le } := fun n =>
  if hge : n < ge then
    .error (.custom "greater_than_equal"
      ("Input should be greater than or equal to " ++ toString ge))
  else if hle : le < n then
    .error (.custom "less_than_equal" ("Input should be less than or equal to " ++ toString le))
  else .ok ⟨n, not_lt.mp hge, not_lt.mp hle⟩

/-- `Field(gt=0)`. -/
def intPositive : FieldCheck ℤ { n : ℤ // 0 < n } := fun n =>
  if h : 0 < n then .ok ⟨n, h⟩
  else .error (.custom "greater_than" "Input should be greater than 0")

/-- `CreateGroupAdmin`. -/
def CreateGroupAdmin.Body.validate (b : CreateGroupAdmin.Body) : Parsed CreateGroupAdmin :=
  (fun name academicYear capacity =>
      { name := name.val
        academicYear := academicYear.val
        gradeLevel := b.gradeLevel
        capacity := capacity.map Subtype.val
        name_valid := name.property
        academicYear_range := academicYear.property
        capacity_pos := by
          intro n hn
          obtain ⟨sent, -, rfl⟩ := Option.map_eq_some_iff.mp hn
          exact sent.property })
    <$> .field "name" (boundedText 2 10 b.name)
    <*> .field "academic_year" (intBetween 2000 2100 b.academicYear)
    <*> .field "capacity" (checkOption intPositive b.capacity)

/-- `UpdateGroupAdmin`. -/
def UpdateGroupAdmin.Body.validate (b : UpdateGroupAdmin.Body) : Parsed UpdateGroupAdmin :=
  (fun name capacity =>
      { name := name.map Subtype.val
        gradeLevel := b.gradeLevel
        capacity := capacity.map Subtype.val
        name_valid := fun _ => Patch.property_of_map
        capacity_pos := fun _ => Patch.property_of_map })
    <$> .field "name" (Patch.check (boundedText 2 10) b.name)
    <*> .field "capacity" (Patch.check intPositive b.capacity)

/-! ### Operations -/

/-- What an operation does, once its caller is let in and its parameters are read. -/
inductive Operation
  | liveness
  | readiness
  /-- `refresh_token` without one of the two cookies. -/
  | noRefreshToken
  | user (r : Request)
  | group (r : GroupRequest)
  | subject (r : SubjectRequest)
  | listUsers (r : UserListRequest)
  | listGroups (page : PaginationParams) (r : GroupListRequest)
  | listSubjects (page : PaginationParams) (r : SubjectListRequest)
  | listEmails (page : PaginationParams) (r : EmailListRequest)
  | getEmailById (emailId : ℕ)
  | retryFailedEmail (emailId : ℕ)

/-- The value a dependency hands to its operation. -/
def Dependency.Provides : Dependency → Type
  | .nobody => Unit
  | .currentUser => CurrentUser
  | .requireRoles _ => CurrentUser

/-- `Path(ge=1)`. -/
def positiveInt (F : Framework) : FieldCheck String ℕ := fun text =>
  match F.int text with
  | none =>
    .error (.custom "int_parsing"
      "Input should be a valid integer, unable to parse string as an integer")
  | some n =>
    if 1 ≤ n then .ok n.toNat
    else .error (.custom "greater_than_equal" "Input should be greater than or equal to 1")

/-- The id in the path. -/
def pathId (F : Framework) (name : String) (parameters : List String) : Parsed ℕ :=
  match parameters with
  | [text] => .field name (positiveInt F text)
  | _ => .errors []

/-- A body that is read, and then checked. -/
def checkBody {α β : Type} (body : Parsed α) (validate : α → Parsed β) : Parsed β :=
  match body with
  | .ok a => validate a
  | .errors es => .errors es

/-- The service call of an operation. -/
def Handler.operation (P : Platform) (now : Time) (req : HttpRequest) (parameters : List String) :
    (h : Handler) → h.dependency.Provides → Parsed Operation
  | .liveness, _ => pure .liveness
  | .readiness, _ => pure .readiness
  | .login, _ => (fun form => .user (.login form)) <$> P.loginForm req.body
  | .logout, (user : CurrentUser) => pure (.user (.logout user.id))
  | .activateAccount, _ =>
    (fun r => .user (.activateAccount r)) <$>
      checkBody (P.activateAccount req.body) fun b => b.validate P.classes
  | .refreshToken, _ =>
    match req.refreshToken, req.refreshTokenFamily with
    | some token, some family => pure (.user (.refreshToken token family))
    | _, _ => pure .noRefreshToken
  | .resetPassword, _ =>
    (fun r => .user (.resetPassword r)) <$>
      checkBody (P.resetPassword req.body) fun b => b.validate P.classes
  | .createForgotPasswordRequest, _ =>
    (fun r => .user (.createForgotPasswordRequest r)) <$>
      checkBody (P.forgotPassword req.body) fun b =>
        ForgotPasswordPublicRequest.mk <$> .field "username" (lengthBetween 6 20 b.username)
  | .getEmails, _ =>
    (fun q => .listEmails q.pagination (.getEmails q.filters q.sortBy q.order)) <$>
      P.searchEmailAdmin req.query
  | .getEmailById, _ =>
    .getEmailById <$> pathId P.toFramework "email_id" parameters
  | .retryFailedEmail, _ =>
    .retryFailedEmail <$> pathId P.toFramework "email_id" parameters
  | .getMyProfile, (user : CurrentUser) => pure (.user (.getMyProfile user.id))
  | .updateMeCredentials, (user : CurrentUser) =>
    (fun r => .user (.updateMeCredentials user.id r)) <$>
      checkBody (P.updateUserCredentials req.body) UpdateUserCredentials.Body.validate
  | .confirmEmailChange, (user : CurrentUser) =>
    (fun r => .user (.confirmEmailChange user.id r)) <$> P.confirmEmailChange req.body
  | .updateMePassword, (user : CurrentUser) =>
    (fun r => .user (.updateMePassword user.id r)) <$>
      checkBody (P.updateMePassword req.body) fun b => b.validate P.classes
  | .getMyStudentProfile, (user : CurrentUser) => pure (.user (.getMyStudentProfile user.id))
  | .registerUser, (user : CurrentUser) =>
    (fun r => .user (.registerUser user.id r)) <$>
      checkBody (P.createUser req.body) fun b => b.validate (P.validation now)
  | .updateUser, _ =>
    (fun id r => .user (.updateUser id r))
      <$> pathId P.toFramework "target_user_id" parameters
      <*> checkBody (P.updateUser req.body) fun b => b.validate (P.validation now)
  | .updateUserCredentials, (user : CurrentUser) =>
    (fun id r => .user (.updateUserCredentials user.id id r))
      <$> pathId P.toFramework "target_user_id" parameters
      <*> checkBody (P.updateUserCredentials req.body) UpdateUserCredentials.Body.validate
  | .deactivateUser, _ =>
    (fun id => .user (.deactivateUser id)) <$> pathId P.toFramework "target_user_id" parameters
  | .activateUser, _ =>
    (fun id => .user (.activateUser id)) <$> pathId P.toFramework "target_user_id" parameters
  | .createResetPasswordRequest, (user : CurrentUser) =>
    (fun id => .user (.createResetPasswordRequest user.id id)) <$>
      pathId P.toFramework "target_user_id" parameters
  | .resendActivationInvite, (user : CurrentUser) =>
    (fun id => .user (.resendActivationInvite user.id id)) <$>
      pathId P.toFramework "target_user_id" parameters
  | .getTeachersAdmin, _ =>
    (fun q => .listUsers (.getTeachersAdmin q.pagination.skip q.pagination.limit q.filters
        q.sortBy q.order)) <$> P.searchUserAdmin req.query
  | .getTeacherByIdAdmin, _ =>
    (fun id => .user (.getTeacherByIdAdmin id)) <$>
      pathId P.toFramework "target_teacher_id" parameters
  | .getStudentsAdmin, _ =>
    (fun q groupId => .listUsers (.getStudentsAdmin q.pagination.skip q.pagination.limit groupId
        q.filters q.sortBy q.order)) <$> P.searchUserAdmin req.query <*> P.groupId req.query
  | .getStudentByIdAdmin, _ =>
    (fun id => .user (.getStudentByIdAdmin id)) <$>
      pathId P.toFramework "target_student_id" parameters
  | .getTeachersDirector, _ =>
    (fun q => .listUsers (.getTeachersDirector q.pagination.skip q.pagination.limit q.filters
        q.sortBy q.order)) <$> P.searchUserBase req.query
  | .getTeacherByIdDirector, _ =>
    (fun id => .user (.getTeacherByIdDirector id)) <$>
      pathId P.toFramework "target_teacher_id" parameters
  | .getStudentsDirector, _ =>
    (fun q groupId => .listUsers (.getStudentsDirector q.pagination.skip q.pagination.limit
        groupId q.filters q.sortBy q.order)) <$> P.searchUserBase req.query <*> P.groupId req.query
  | .getStudentByIdDirector, _ =>
    (fun id => .user (.getStudentByIdDirector id)) <$>
      pathId P.toFramework "target_student_id" parameters
  | .createSubject, _ =>
    (fun r => .subject (.createSubject r)) <$>
      checkBody (P.createSubject req.body) fun b => b.validate (P.validation now)
  | .updateSubject, _ =>
    (fun id r => .subject (.updateSubject id r))
      <$> pathId P.toFramework "subject_id" parameters
      <*> checkBody (P.updateSubject req.body) fun b => b.validate (P.validation now)
  | .archiveSubject, _ =>
    (fun id => .subject (.archiveSubject id)) <$> pathId P.toFramework "subject_id" parameters
  | .restoreSubject, _ =>
    (fun id => .subject (.restoreSubject id)) <$> pathId P.toFramework "subject_id" parameters
  | .getSubjectsAdmin, _ =>
    (fun q => .listSubjects q.pagination (.getSubjectsAdmin q.filters q.sortBy q.order)) <$>
      P.searchSubjectAdmin req.query
  | .getSubjectByIdAdmin, _ =>
    (fun id => .subject (.getSubjectByIdAdmin id)) <$>
      pathId P.toFramework "subject_id" parameters
  | .getSubjectsDirector, _ =>
    (fun q => .listSubjects q.pagination (.getSubjectsDirector q.filters q.sortBy q.order)) <$>
      P.searchSubjectBase req.query
  | .getSubjectByIdDirector, _ =>
    (fun id => .subject (.getSubjectByIdDirector id)) <$>
      pathId P.toFramework "subject_id" parameters
  | .createGroup, _ =>
    (fun r => .group (.createGroup r)) <$>
      checkBody (P.createGroup req.body) CreateGroupAdmin.Body.validate
  | .updateGroup, _ =>
    (fun id r => .group (.updateGroup id r))
      <$> pathId P.toFramework "group_id" parameters
      <*> checkBody (P.updateGroup req.body) UpdateGroupAdmin.Body.validate
  | .archiveGroup, _ =>
    (fun id => .group (.archiveGroup id)) <$> pathId P.toFramework "group_id" parameters
  | .restoreGroup, _ =>
    (fun id => .group (.restoreGroup id)) <$> pathId P.toFramework "group_id" parameters
  | .getGroupsAdmin, _ =>
    (fun q => .listGroups q.pagination (.getGroupsAdmin q.filters q.sortBy q.order)) <$>
      P.searchGroupAdmin req.query
  | .getGroupByIdAdmin, _ =>
    (fun id => .group (.getGroupByIdAdmin id)) <$> pathId P.toFramework "group_id" parameters
  | .getGroupsDirector, _ =>
    (fun q => .listGroups q.pagination (.getGroupsDirector q.filters q.sortBy q.order)) <$>
      P.searchGroupBase req.query
  | .getGroupByIdDirector, _ =>
    (fun id => .group (.getGroupByIdDirector id)) <$> pathId P.toFramework "group_id" parameters

/-- The operations whose body is JSON; the body of `login` is a form. -/
def Handler.readsJson : Handler → Bool
  | activateAccount | resetPassword | createForgotPasswordRequest | updateMeCredentials
  | confirmEmailChange | updateMePassword | registerUser | updateUser | updateUserCredentials
  | createSubject | updateSubject | createGroup | updateGroup => true
  | _ => false

/-- `status_code` of an operation. -/
def Handler.statusCode : Handler → ℕ
  | registerUser | createSubject | createGroup => 201
  | logout | activateAccount | resetPassword | retryFailedEmail | updateMeCredentials
  | confirmEmailChange | updateMePassword | updateUser | updateUserCredentials | deactivateUser
  | activateUser | createResetPasswordRequest | resendActivationInvite | updateSubject
  | archiveSubject | restoreSubject | updateGroup | archiveGroup | restoreGroup => 204
  | _ => 200

/-! ### Limits -/

/-- `key_func` of a limiter. -/
inductive Limiter
  /-- `ip_limiter`. -/
  | ip
  /-- `user_limiter`. -/
  | user
  deriving DecidableEq, Repr

/-- `@ip_limiter.limit(...)` and `@user_limiter.limit(...)`: how many calls a minute. -/
def Handler.limit : Handler → Option (Limiter × ℕ)
  | login => some (.ip, 5)
  | activateAccount => some (.ip, 3)
  | refreshToken => some (.ip, 30)
  | resetPassword | createForgotPasswordRequest => some (.ip, 5)
  | updateMeCredentials | confirmEmailChange | updateMePassword | updateUserCredentials
  | createResetPasswordRequest | resendActivationInvite => some (.user, 5)
  | registerUser | updateUser | deactivateUser | activateUser => some (.user, 10)
  | getTeachersAdmin | getStudentsAdmin | getTeachersDirector | getStudentsDirector
  | getSubjectsDirector | getGroupsDirector => some (.user, 15)
  | _ => none

/-- `request.headers.get("Authorization", "")` without its `Bearer `, if it starts so. -/
def bearerOf (header : Option String) : Option String :=
  header.bind fun text =>
    if "Bearer ".toList.isPrefixOf text.toList then some (String.ofList (text.toList.drop 7))
    else none

/-- `get_user_identifier`. -/
def getUserIdentifier (env : Env) (now : Time) (req : HttpRequest) : String :=
  match bearerOf req.authorization with
  | none => req.remoteAddress
  | some token =>
    match decodeAccessToken env now token with
    | .error _ => req.remoteAddress
    | .ok payload =>
      match payload.sub with
      | some userId => "user:" ++ toString userId
      | none => req.remoteAddress

/-- The key of a counter: whom it counts, the address that is counted, and the amount. -/
structure LimitKey where
  identifier : String
  scope : List String
  amount : ℕ
  deriving DecidableEq, Repr

/-- The counter of a call. -/
def Limiter.key (env : Env) (now : Time) (req : HttpRequest) (amount : ℕ) : Limiter → LimitKey
  | ip => ⟨req.remoteAddress, req.path, amount⟩
  | user => ⟨getUserIdentifier env now req, req.path, amount⟩

/-- How long a counter of calls a minute runs. -/
def limitDuration : Time := Time.minutes 1

end SmsLite
