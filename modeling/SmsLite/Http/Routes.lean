import SmsLite.Lib.Router
import SmsLite.Utils
import SmsLite.Validators

/-!
# The routes of the application

The routers of `src/auth`, `src/emails`, `src/users`, `src/subjects`, `src/groups` and `src/api`,
in the order `src/main.py` includes them, each operation with the dependency that lets its callers
in.

## Main definitions

* `Handler` — the path operations.
* `Dependency`, `Handler.dependency` — who is let in.
* `APIRouter`, `includedRouters`, `routes` — the routers and the table they make.

## Main results

* `routes_serve_iff` — **every address with an id goes to its operation, and the order of the
  table matters for two pairs of operations only**.
-/

namespace SmsLite

open Router (Segment Template Route)
open Router.Segment (literal parameter)

/-- The methods of the routes. -/
inductive Method
  | get
  | post
  | patch
  deriving DecidableEq, Repr

/-- The path operations. -/
inductive Handler
  | liveness
  | readiness
  | login
  | logout
  | activateAccount
  | refreshToken
  | resetPassword
  | createForgotPasswordRequest
  | getEmails
  | getEmailById
  | retryFailedEmail
  | getMyProfile
  | updateMeCredentials
  | confirmEmailChange
  | updateMePassword
  | getMyStudentProfile
  | registerUser
  | updateUser
  | updateUserCredentials
  | deactivateUser
  | activateUser
  | createResetPasswordRequest
  | resendActivationInvite
  | getTeachersAdmin
  | getTeacherByIdAdmin
  | getStudentsAdmin
  | getStudentByIdAdmin
  | getTeachersDirector
  | getTeacherByIdDirector
  | getStudentsDirector
  | getStudentByIdDirector
  | createSubject
  | updateSubject
  | archiveSubject
  | restoreSubject
  | getSubjectsAdmin
  | getSubjectByIdAdmin
  | getSubjectsDirector
  | getSubjectByIdDirector
  | createGroup
  | updateGroup
  | archiveGroup
  | restoreGroup
  | getGroupsAdmin
  | getGroupByIdAdmin
  | getGroupsDirector
  | getGroupByIdDirector
  deriving DecidableEq, Repr

/-! ### Routers -/

/-- `APIRouter`: the common start of its paths, and its operations. -/
structure APIRouter where
  base : Template
  operations : List (Route Method Handler)

/-- `include_router`. -/
def APIRouter.routes (router : APIRouter) : List (Route Method Handler) :=
  router.operations.map fun operation =>
    { operation with template := router.base ++ operation.template }

/-- `src/api/health.py`. -/
def healthRouter : APIRouter where
  base := [literal "health"]
  operations :=
    [⟨.get, [literal "live"], .liveness⟩,
      ⟨.get, [literal "ready"], .readiness⟩]

/-- `src/auth/router.py`. -/
def authRouter : APIRouter where
  base := [literal "auth"]
  operations :=
    [⟨.post, [literal "login"], .login⟩,
      ⟨.post, [literal "logout"], .logout⟩,
      ⟨.post, [literal "activation"], .activateAccount⟩,
      ⟨.post, [literal "refresh-token"], .refreshToken⟩,
      ⟨.post, [literal "reset-password"], .resetPassword⟩,
      ⟨.post, [literal "forgot-password"], .createForgotPasswordRequest⟩]

/-- `src/emails/router.py`. -/
def emailsRouter : APIRouter where
  base := [literal "emails"]
  operations :=
    [⟨.get, [], .getEmails⟩,
      ⟨.get, [parameter], .getEmailById⟩,
      ⟨.post, [parameter, literal "retry"], .retryFailedEmail⟩]

/-- `src/users/routers/shared.py`. -/
def usersSharedRouter : APIRouter where
  base := [literal "users"]
  operations :=
    [⟨.get, [literal "me"], .getMyProfile⟩,
      ⟨.patch, [literal "me", literal "credentials"], .updateMeCredentials⟩,
      ⟨.post, [literal "me", literal "credentials", literal "confirm-email"],
        .confirmEmailChange⟩,
      ⟨.patch, [literal "me", literal "password"], .updateMePassword⟩,
      ⟨.get, [literal "students", literal "me"], .getMyStudentProfile⟩]

/-- `src/users/routers/system_admin.py`. -/
def usersSystemAdminRouter : APIRouter where
  base := [literal "users"]
  operations :=
    [⟨.post, [], .registerUser⟩,
      ⟨.patch, [parameter], .updateUser⟩,
      ⟨.patch, [parameter, literal "credentials"], .updateUserCredentials⟩,
      ⟨.patch, [parameter, literal "deactivation"], .deactivateUser⟩,
      ⟨.patch, [parameter, literal "activation"], .activateUser⟩,
      ⟨.post, [parameter, literal "password"], .createResetPasswordRequest⟩,
      ⟨.post, [parameter, literal "resend-invite"], .resendActivationInvite⟩,
      ⟨.get, [literal "teachers"], .getTeachersAdmin⟩,
      ⟨.get, [literal "teachers", parameter], .getTeacherByIdAdmin⟩,
      ⟨.get, [literal "students"], .getStudentsAdmin⟩,
      ⟨.get, [literal "students", parameter], .getStudentByIdAdmin⟩]

/-- `src/users/routers/director.py`. -/
def usersDirectorRouter : APIRouter where
  base := [literal "director", literal "users"]
  operations :=
    [⟨.get, [literal "teachers"], .getTeachersDirector⟩,
      ⟨.get, [literal "teachers", parameter], .getTeacherByIdDirector⟩,
      ⟨.get, [literal "students"], .getStudentsDirector⟩,
      ⟨.get, [literal "students", parameter], .getStudentByIdDirector⟩]

/-- `src/subjects/routers/system_admin.py`. -/
def subjectsSystemAdminRouter : APIRouter where
  base := [literal "subjects"]
  operations :=
    [⟨.post, [], .createSubject⟩,
      ⟨.patch, [parameter], .updateSubject⟩,
      ⟨.patch, [parameter, literal "archive"], .archiveSubject⟩,
      ⟨.patch, [parameter, literal "restoration"], .restoreSubject⟩,
      ⟨.get, [], .getSubjectsAdmin⟩,
      ⟨.get, [parameter], .getSubjectByIdAdmin⟩]

/-- `src/subjects/routers/director.py`. -/
def subjectsDirectorRouter : APIRouter where
  base := [literal "director", literal "subjects"]
  operations :=
    [⟨.get, [], .getSubjectsDirector⟩,
      ⟨.get, [parameter], .getSubjectByIdDirector⟩]

/-- `src/groups/routers/system_admin.py`. -/
def groupsSystemAdminRouter : APIRouter where
  base := [literal "groups"]
  operations :=
    [⟨.post, [], .createGroup⟩,
      ⟨.patch, [parameter], .updateGroup⟩,
      ⟨.patch, [parameter, literal "archive"], .archiveGroup⟩,
      ⟨.patch, [parameter, literal "restoration"], .restoreGroup⟩,
      ⟨.get, [], .getGroupsAdmin⟩,
      ⟨.get, [parameter], .getGroupByIdAdmin⟩]

/-- `src/groups/routers/director.py`. -/
def groupsDirectorRouter : APIRouter where
  base := [literal "director", literal "groups"]
  operations :=
    [⟨.get, [], .getGroupsDirector⟩,
      ⟨.get, [parameter], .getGroupByIdDirector⟩]

/-- The calls of `app.include_router`, in the order of `src/main.py`. -/
def includedRouters : List APIRouter :=
  [healthRouter, authRouter, emailsRouter, usersSharedRouter, usersSystemAdminRouter,
    usersDirectorRouter, subjectsSystemAdminRouter, subjectsDirectorRouter,
    groupsSystemAdminRouter, groupsDirectorRouter]

/-- The routes of the application. -/
def routes : List (Route Method Handler) := includedRouters.flatMap APIRouter.routes

/-! ### Dependencies -/

/-- What an operation depends on besides the session. -/
inductive Dependency
  | nobody
  /-- `current_user_dependency`. -/
  | currentUser
  /-- `Depends(require_roles(...))`. -/
  | requireRoles (roles : List UserRole)
  deriving DecidableEq, Repr

/-- `require_system_admin`. -/
def requireSystemAdmin : Dependency := .requireRoles [.systemAdmin]

/-- `require_director`. -/
def requireDirector : Dependency := .requireRoles [.director]

/-- `require_student`. -/
def requireStudent : Dependency := .requireRoles [.student]

/-- The dependency of an operation. -/
def Handler.dependency : Handler → Dependency
  | liveness | readiness | login | activateAccount | refreshToken | resetPassword
  | createForgotPasswordRequest => .nobody
  | logout | getMyProfile | updateMeCredentials | confirmEmailChange | updateMePassword =>
    .currentUser
  | getMyStudentProfile => requireStudent
  | getEmails | getEmailById | retryFailedEmail | registerUser | updateUser
  | updateUserCredentials | deactivateUser | activateUser | createResetPasswordRequest
  | resendActivationInvite | getTeachersAdmin | getTeacherByIdAdmin | getStudentsAdmin
  | getStudentByIdAdmin | createSubject | updateSubject | archiveSubject | restoreSubject
  | getSubjectsAdmin | getSubjectByIdAdmin | createGroup | updateGroup | archiveGroup
  | restoreGroup | getGroupsAdmin | getGroupByIdAdmin => requireSystemAdmin
  | getTeachersDirector | getTeacherByIdDirector | getStudentsDirector | getStudentByIdDirector
  | getSubjectsDirector | getSubjectByIdDirector | getGroupsDirector | getGroupByIdDirector =>
    requireDirector

/-! ### Addresses -/

/-- A text of digits. -/
def isNumeral (text : String) : Bool := decide (text ≠ "") && text.toList.all isAsciiDigit

/-- An id as it stands in an address. -/
theorem isNumeral_toString (n : ℕ) : isNumeral (toString n) = true := by
  have hlist : (toString n).toList = Nat.toDigits 10 n := by simp
  have hdigits : ∀ c ∈ (toString n).toList, isAsciiDigit c = true := by
    intro c hc
    rw [hlist] at hc
    have hdigit : c.isDigit = true := Nat.isDigit_of_mem_toDigits (by decide) (by decide) hc
    simp only [Char.isDigit, Bool.and_eq_true, decide_eq_true_eq] at hdigit
    simp only [isAsciiDigit, Bool.and_eq_true, decide_eq_true_eq]
    exact hdigit
  have hne : toString n ≠ "" := by
    intro h
    have hnil : Nat.toDigits 10 n = [] := by rw [← hlist, h]; rfl
    exact Nat.toDigits_ne_nil hnil
  rw [isNumeral, List.all_eq_true.mpr hdigits, Bool.and_true]
  exact decide_eq_true hne

/-- The operations of the application are all different. -/
theorem nodup_routes : (routes.map (·.handler)).Nodup := by decide +kernel

/-- The two pairs of operations of which the second takes an address of the first. -/
def Handler.shadows : List (Handler × Handler) :=
  [(.updateMeCredentials, .updateUserCredentials), (.getMyStudentProfile, .getStudentByIdAdmin)]

/-- Every operation has a route. -/
theorem exists_route (h : Handler) : ∃ r ∈ routes, r.handler = h := by
  cases h <;> decide +kernel

theorem shadows_ne : ∀ pair ∈ Handler.shadows, pair.1 ≠ pair.2 := by decide

/-- No other operation takes an address of another one. -/
theorem rivals_routes : ∀ r ∈ routes, ∀ r' ∈ routes,
    r.rivals isNumeral r' = true ↔ r = r' ∨ (r.handler, r'.handler) ∈ Handler.shadows := by
  decide +kernel

/-- **Every address with an id goes to its operation, and the order of the table matters for two
pairs of operations only**: however the routes are rearranged, each address is served by its own
operation exactly if `update_me_credentials` comes before `update_user_credentials`, whose path
takes `me` for an id, and `get_my_student_profile` before `get_student_by_id`. -/
theorem routes_serve_iff :
    (∀ r ∈ routes, Router.Serves isNumeral routes r) ∧
      ∀ table : List (Route Method Handler), table.Perm routes →
        ((∀ r ∈ table, Router.Serves isNumeral table r) ↔
          ∀ pair ∈ Handler.shadows, [pair.1, pair.2].Sublist (table.map (·.handler))) := by
  have hlaw : ∀ table : List (Route Method Handler), table.Perm routes →
      ((∀ r ∈ table, Router.Serves isNumeral table r) ↔
        ∀ pair ∈ Handler.shadows, [pair.1, pair.2].Sublist (table.map (·.handler))) := by
    intro table hperm
    have hnodup : (table.map (·.handler)).Nodup := (hperm.map _).nodup_iff.mpr nodup_routes
    have hmem : ∀ {r}, r ∈ table ↔ r ∈ routes := hperm.mem_iff
    have hserves : ∀ r ∈ table, (Router.Serves isNumeral table r ↔
        ∀ r' ∈ table, r.rivals isNumeral r' = true → r' = r ∨ [r, r'].Sublist table) :=
      fun r hr => Router.serves_iff (isNumeral_toString 1) (by decide) hnodup hr
    constructor
    · intro h pair hpair
      obtain ⟨r, hr, hfirst⟩ := exists_route pair.1
      obtain ⟨r', hr', hsecond⟩ := exists_route pair.2
      have hrivals : r.rivals isNumeral r' = true :=
        (rivals_routes r hr r' hr').mpr (Or.inr (by rw [hfirst, hsecond]; exact hpair))
      rcases (hserves r (hmem.mpr hr)).mp (h r (hmem.mpr hr)) r' (hmem.mpr hr') hrivals with
        heq | hsub
      · rw [heq, hfirst] at hsecond
        exact absurd hsecond (shadows_ne pair hpair)
      · rw [← hfirst, ← hsecond]
        exact hsub.map (·.handler)
    · intro h r hr
      refine (hserves r hr).mpr fun r' hr' hrivals => ?_
      rcases (rivals_routes r (hmem.mp hr) r' (hmem.mp hr')).mp hrivals with heq | hpair
      · exact Or.inl heq.symm
      · refine Or.inr ?_
        obtain ⟨pair, hsub, heq⟩ := List.sublist_map_iff.mp (h _ hpair)
        -- The two routes of the table under these handlers are the two at hand.
        obtain ⟨x, _, rfl, hx, htail⟩ := List.map_eq_cons_iff.mp heq.symm
        obtain ⟨y, _, rfl, hy, hnil⟩ := List.map_eq_cons_iff.mp htail
        obtain rfl := List.map_eq_nil_iff.mp hnil
        obtain rfl := List.inj_on_of_nodup_map hnodup (hsub.subset (by simp)) hr hx
        obtain rfl := List.inj_on_of_nodup_map hnodup (hsub.subset (by simp)) hr' hy
        exact hsub
  refine ⟨fun r hr => (hlaw routes (List.Perm.refl _)).mpr ?_ r hr, hlaw⟩
  decide +kernel

/-- With the routers in the opposite order some address goes to another operation. -/
theorem routes_reversed : ¬ ∀ r ∈ routes.reverse, Router.Serves isNumeral routes.reverse r := by
  intro h
  have hpairs := (routes_serve_iff.2 routes.reverse (List.reverse_perm routes)).mp h
  exact absurd (hpairs _ List.mem_cons_self) (by decide +kernel)

end SmsLite
