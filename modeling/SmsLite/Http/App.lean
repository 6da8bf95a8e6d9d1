import SmsLite.Failures.Enumeration
import SmsLite.Http.Requests

/-!
# The application

A request passes the routing, the dependency of its operation, the validation of its parameters
and the limiter, and then runs the service; what comes back is an answer with a status code.

## Main definitions

* `App` — all services, the outbox and the counters of the limiters.
* `App.solve` — the dependency of an operation.
* `App.handle` — a request from beginning to end.
* `AppEvent`, `App.run` — sequential runs of the application and the worker.

## Main results

* `App.Performs.handle` — a request that is let in is answered by its service.
* `App.handle_refused` — one that is not let in ends with an error, and **no service but
  `get_current_user` is called** for it.
-/

namespace SmsLite

open Interleave
open Router (Dispatch)

/-! ### Answers -/

/-- The body of an answer. -/
inductive HttpContent
  | empty
  | detail (text : String)
  /-- The handler of `RateLimitExceeded` names its text `error`. -/
  | error (text : String)
  /-- The errors of the parameters, by field. -/
  | invalid (errors : List (String × FieldError))
  | status (text : String)
  | user (response : Response)
  | group (response : GroupResponse)
  | subject (response : SubjectResponse)
  | users (page : PaginatedResponse Loaded)
  | groups (page : PaginatedResponse Group)
  | subjects (page : PaginatedResponse Subject)
  | emails (page : PaginatedResponse PendingEmail)
  | email (detail : PendingEmailResponseCache)
  deriving DecidableEq, Repr

/-- An answer; the cookies of a session are part of the tokens it returns. -/
structure HttpAnswer where
  statusCode : ℕ
  content : HttpContent
  deriving DecidableEq, Repr

namespace HttpAnswer

/-- The answer of the exception handlers. -/
def raised (e : Exn) : HttpAnswer :=
  ⟨e.httpResponse.statusCode, e.httpResponse.detail.elim .empty .detail⟩

/-- The default answer to a path that nothing serves. -/
def notFound : HttpAnswer := ⟨404, .detail "Not Found"⟩

/-- The default answer to a method that nothing serves. -/
def methodNotAllowed : HttpAnswer := ⟨405, .detail "Method Not Allowed"⟩

/-- `OAuth2PasswordBearer` without a token. -/
def notAuthenticated : HttpAnswer := ⟨401, .detail "Not authenticated"⟩

/-- `AccessDeniedError(HTTP403.ACCESS_DENIED)`. -/
def accessDenied : HttpAnswer := raised (.app .accessDeniedError "Access denied")

/-- `RequestValidationError`. -/
def invalid (errors : List (String × FieldError)) : HttpAnswer := ⟨422, .invalid errors⟩

/-- `_rate_limit_exceeded_handler`. -/
def tooManyRequests (amount : ℕ) : HttpAnswer :=
  ⟨429, .error ("Rate limit exceeded: " ++ toString amount ++ " per 1 minute")⟩

/-- How a service call ends. -/
def of {α : Type} (statusCode : ℕ) (content : α → HttpContent) : Except Exn α → HttpAnswer
  | .ok a => ⟨statusCode, content a⟩
  | .error e => raised e

end HttpAnswer

/-! ### The application -/

/-- The state of the application.  The rows of `pending_emails` that are sent and retried are
those of the outbox; the services only add to the table, and their additions are copied. -/
structure App where
  backend : Backend
  outbox : Outbox
  /-- The counters of the limiters. -/
  windows : LimitKey → Option FixedWindow.Window

namespace App

/-- The users and what belongs to them. -/
abbrev world (s : App) : World := s.backend.world

/-- `datetime.now(UTC)`. -/
abbrev now (s : App) : Time := s.world.clock

/-- A call of a service, and the letters it has posted. -/
def call (P : Platform) (s : App) (c : Call) : App :=
  let backend := s.backend.after P.env c
  { s with
    backend := backend
    outbox :=
      { s.outbox with
        rows := s.outbox.rows ++
          backend.world.db.pendingEmails.drop s.world.db.pendingEmails.length
        idSeq := backend.world.db.pendingEmailsIdSeq } }

/-- A program over the outbox; time goes on while it waits. -/
def callOutbox {α : Type} (P : Platform) (s : App) (p : OutboxProg α) :
    Except Exn α × App :=
  let result := p.run (OutboxStmt.exec P.provider) { s.outbox with clock := s.now }
  (result.1,
    { s with
      backend := s.backend.after P.env
        (.school (.user (.outside (.tick (result.2.clock - s.now)))))
      outbox := result.2 })

/-! ### A request -/

/-- `get_current_user`. -/
def currentUser (P : Platform) (s : App) (req : HttpRequest) :
    Except HttpAnswer CurrentUser × App :=
  match P.bearer.token req with
  | none => (.error .notAuthenticated, s)
  | some token =>
    (((getCurrentUser P.env token).run (exec P.env) s.world).1.mapError HttpAnswer.raised,
      s.call P (.school (.user (.request (.getCurrentUser token)))))

/-- The dependency of an operation; `require_roles` goes by the role in the token. -/
def solve (P : Platform) (s : App) (req : HttpRequest) :
    (d : Dependency) → Except HttpAnswer d.Provides × App
  | .nobody => (.ok (), s)
  | .currentUser => s.currentUser P req
  | .requireRoles roles =>
    ((s.currentUser P req).1.bind fun user =>
        if user.role ∈ roles then .ok user else .error .accessDenied,
      (s.currentUser P req).2)

/-- The limiter of an operation. -/
def hit (P : Platform) (s : App) (req : HttpRequest) (h : Handler) : Bool × App :=
  match h.limit with
  | none => (true, s)
  | some (limiter, amount) =>
    let key := limiter.key P.env s.now req amount
    let counted := FixedWindow.hit amount limitDuration s.now (s.windows key)
    (counted.1, { s with windows := Function.update s.windows key (some counted.2) })

/-- The page of a list. -/
def page {α : Type} (P : Platform) (page : PaginationParams) (q : Select α) (table : List α) :
    PaginatedResponse α :=
  paginate (P.arrange q table) id page.skip page.limit

/-- The service call of an operation. -/
def perform (P : Platform) (s : App) (statusCode : ℕ) : Operation → HttpAnswer × App
  | .liveness => (⟨statusCode, .status "ok"⟩, s)
  -- `postgres_check["status"]` is a `KeyError`: the dictionary has the key `postgres` only.
  | .readiness => (⟨500, .detail "An internal error occurred"⟩, s)
  | .noRefreshToken => (⟨401, .detail HTTP401.invalidRefreshToken⟩, s)
  | .user r =>
    (.of statusCode .user (s.world.respond P.env r), s.call P (.school (.user (.request r))))
  | .group r =>
    (.of statusCode .group (s.backend.school.store.serve r).1, s.call P (.school (.group r)))
  | .subject r =>
    (.of statusCode .subject ({ s.backend.subjects with clock := s.now }.serve r).1,
      s.call P (.subject r))
  | .listUsers r =>
    (⟨statusCode, .users (r.answer P.collation s.world.db (P.arrange _ _))⟩,
      s.call P (.users r))
  | .listGroups page r =>
    (⟨statusCode, .groups (App.page P page (r.select P.collation) s.world.db.groups)⟩, s)
  | .listSubjects page r =>
    (⟨statusCode, .subjects (App.page P page (r.select P.collation) s.backend.subjects.rows)⟩,
      s)
  | .listEmails page r => (⟨statusCode, .emails (App.page P page r.select s.outbox.rows)⟩, s)
  | .getEmailById emailId =>
    let result := s.callOutbox P (PendingEmailService.getEmailById emailId)
    (.of statusCode .email result.1, result.2)
  | .retryFailedEmail emailId =>
    let result := s.callOutbox P (PendingEmailService.retryFailedEmail emailId)
    (.of statusCode (fun _ => .empty) result.1, result.2)

/-- An operation once its caller is let in. -/
def enter (P : Platform) (s : App) (req : HttpRequest) (parameters : List String) (h : Handler)
    (provided : h.dependency.Provides) : HttpAnswer × App :=
  match h.operation P s.now req parameters provided with
  | .errors es => (.invalid es, s)
  | .ok operation =>
    if (s.hit P req h).1 then (s.hit P req h).2.perform P h.statusCode operation
    else (.tooManyRequests ((h.limit.map (·.2)).getD 0), (s.hit P req h).2)

/-- A body that is not JSON where one is expected. -/
def malformed (P : Platform) (req : HttpRequest) (h : Handler) : Bool :=
  h.readsJson && decide (req.body ≠ "") && !P.isJson req.body

/-- An operation. -/
def serve (P : Platform) (s : App) (req : HttpRequest)
    (parameters : List String) (h : Handler) : HttpAnswer × App :=
  if malformed P req h then (.invalid [("body", .custom "json_invalid" "JSON decode error")], s)
  else
    match s.solve P req h.dependency with
    | (.error answer, s') => (answer, s')
    | (.ok provided, s') => s'.enter P req parameters h provided

/-- A request from beginning to end. -/
def handle (P : Platform) (s : App) (req : HttpRequest) :
    HttpAnswer × App :=
  match Router.dispatch routes req.method req.path with
  | .notFound => (.notFound, s)
  | .methodNotAllowed => (.methodNotAllowed, s)
  | .found h parameters => s.serve P req parameters h

end App

/-! ### Runs -/

/-- A step of a sequential run. -/
inductive AppEvent
  | http (req : HttpRequest)
  /-- Time passes, or Redis forgets an entry of a user. -/
  | outside (o : Outside)
  | expireGroup (key : GroupCacheKey)
  | expireSubject (key : SubjectCacheKey)
  | expireEmail (emailId : ℕ)
  /-- A batch of the worker. -/
  | processBatch

/-- The state after an event. -/
def App.after (P : Platform) (s : App) : AppEvent → App
  | .http req => (s.handle P req).2
  | .outside o => s.call P (.school (.user (.outside o)))
  | .expireGroup key => s.call P (.school (.expireGroup key))
  | .expireSubject key => s.call P (.expireSubject key)
  | .expireEmail emailId =>
    { s with
      outbox := { s.outbox with cache := Function.update s.outbox.cache emailId none } }
  | .processBatch => (s.callOutbox P SmsLite.processBatch).2

/-- The state after a sequential run. -/
def App.run (P : Platform) (s : App) (events : List AppEvent) :
    App :=
  Run.run (App.after P) s events

/-- The application of the examples, with nothing posted yet. -/
def App.concrete : App where
  backend := .concrete
  outbox := .empty
  windows := fun _ => none

/-- The principal logs in. -/
def loginPrincipal : HttpRequest where
  method := .post
  path := ["auth", "login"]
  query := ""
  authorization := none
  refreshToken := none
  refreshTokenFamily := none
  body := "username=principal&password=pw"
  remoteAddress := "10.0.0.1"

/-- What she gets at the start. -/
def tokensPrincipal : LoginResponse where
  accessToken := createAccessToken .concrete 0 1 .systemAdmin 1
  refreshTokenCookie := createRefreshToken .concrete 0 1 (Codec.nat.encode 2)
  refreshTokenFamilyCookie := Codec.nat.encode 1

/-- She creates a group. -/
def createGroupPrincipal : HttpRequest where
  method := .post
  path := ["groups"]
  query := ""
  authorization := some ("Bearer " ++ tokensPrincipal.accessToken)
  refreshToken := none
  refreshTokenFamily := none
  body := groupBody
  remoteAddress := "10.0.0.1"

/-! ### What a request does -/

namespace App

variable {P : Platform} {s s' : App} {req : HttpRequest} {operation : Operation}

/-- The request gets as far as the call of a service, in the state `s'`. -/
structure Performs (P : Platform) (s : App) (req : HttpRequest) (h : Handler)
    (provided : h.dependency.Provides) (operation : Operation) (s' : App) : Prop where
  wellFormed : malformed P req h = false
  routed : ∃ parameters, Router.dispatch routes req.method req.path = .found h parameters ∧
    h.operation P (s.solve P req h.dependency).2.now req parameters provided = .ok operation
  solved : (s.solve P req h.dependency).1 = .ok provided
  unlimited : ((s.solve P req h.dependency).2.hit P req h).1 = true
  state : s' = ((s.solve P req h.dependency).2.hit P req h).2

/-- Such a request is answered by its service. -/
theorem Performs.handle {h : Handler} {provided : h.dependency.Provides}
    (hp : s.Performs P req h provided operation s') :
    s.handle P req = s'.perform P h.statusCode operation := by
  obtain ⟨parameters, hrouted, hoperation⟩ := hp.routed
  have hwell := hp.wellFormed
  have hsolved := hp.solved
  have hunlimited := hp.unlimited
  rw [hp.state]
  unfold App.handle App.serve
  simp only [hrouted, hwell, Bool.false_eq_true, if_false]
  generalize s.solve P req h.dependency = result at hsolved hoperation hunlimited
  obtain ⟨outcome, state⟩ := result
  dsimp only at hsolved
  subst hsolved
  dsimp only at hoperation hunlimited ⊢
  unfold App.enter
  simp only [hoperation, hunlimited, if_true]

/-- The limiter touches nothing but its counters. -/
theorem hit_backend (P : Platform) (s : App) (req : HttpRequest) (h : Handler) :
    (s.hit P req h).2.backend = s.backend ∧ (s.hit P req h).2.outbox = s.outbox := by
  unfold hit
  cases h.limit with
  | none => exact ⟨rfl, rfl⟩
  | some limit => exact ⟨rfl, rfl⟩

/-- The dependency of an operation calls `get_current_user`, or nothing. -/
theorem solve_state (P : Platform) (s : App) (req : HttpRequest) (d : Dependency) :
    (s.solve P req d).2 = s ∨
      ∃ token, P.bearer.token req = some token ∧
        (s.solve P req d).2 = s.call P (.school (.user (.request (.getCurrentUser token)))) := by
  have huser : (s.currentUser P req).2 = s ∨
      ∃ token, P.bearer.token req = some token ∧
        (s.currentUser P req).2 =
          s.call P (.school (.user (.request (.getCurrentUser token)))) := by
    unfold currentUser
    cases P.bearer.token req with
    | none => exact Or.inl rfl
    | some token => exact Or.inr ⟨token, rfl, rfl⟩
  cases d with
  | nobody => exact Or.inl rfl
  | currentUser => exact huser
  | requireRoles roles => exact huser

/-- An exception is answered with an error. -/
theorem le_statusCode_raised (e : Exn) : 400 ≤ (HttpAnswer.raised e).statusCode := by
  have hcode : ∀ cls : AppException, 400 ≤ cls.statusCode := by
    intro cls
    cases cls <;> decide
  have hinternal : 400 ≤ 500 := by decide
  cases e with
  | app cls detail => exact hcode cls
  | _ => exact hinternal

/-- A refused dependency is answered with an error. -/
theorem le_statusCode_solve {d : Dependency} {answer : HttpAnswer}
    (h : (s.solve P req d).1 = .error answer) : 400 ≤ answer.statusCode := by
  have huser : ∀ answer, (s.currentUser P req).1 = .error answer → 400 ≤ answer.statusCode := by
    intro answer h
    unfold currentUser at h
    cases htoken : P.bearer.token req with
    | none =>
      rw [htoken] at h
      cases h
      decide
    | some token =>
      rw [htoken] at h
      dsimp only at h
      cases hout : ((getCurrentUser P.env token).run (exec P.env) s.world).1 with
      | ok user =>
        rw [hout] at h
        cases h
      | error e =>
        rw [hout] at h
        cases h
        exact le_statusCode_raised e
  cases d with
  | nobody => cases h
  | currentUser => exact huser answer h
  | requireRoles roles =>
    change (s.currentUser P req).1.bind _ = .error answer at h
    cases hresult : (s.currentUser P req).1 with
    | error answer' =>
      rw [hresult] at h
      cases h
      exact huser _ hresult
    | ok user =>
      rw [hresult] at h
      change (if user.role ∈ roles then Except.ok user else .error HttpAnswer.accessDenied) = _ at h
      split at h
      · cases h
      · cases h
        decide

/-- The services and the outbox after the authentication of a request, or without one. -/
def Authenticated (P : Platform) (s : App) (req : HttpRequest) (s' : App) : Prop :=
  s'.backend = s.backend ∧ s'.outbox = s.outbox ∨
    ∃ token, P.bearer.token req = some token ∧
      s'.backend = (s.call P (.school (.user (.request (.getCurrentUser token))))).backend ∧
      s'.outbox = (s.call P (.school (.user (.request (.getCurrentUser token))))).outbox

theorem authenticated_solve (P : Platform) (s : App) (req : HttpRequest) (d : Dependency) :
    s.Authenticated P req (s.solve P req d).2 := by
  rcases s.solve_state P req d with h | ⟨token, htoken, h⟩
  · rw [h]
    exact Or.inl ⟨rfl, rfl⟩
  · rw [h]
    exact Or.inr ⟨token, htoken, rfl, rfl⟩

theorem authenticated_hit (P : Platform) (s : App) (req : HttpRequest) (h : Handler) :
    s.Authenticated P req ((s.solve P req h.dependency).2.hit P req h).2 := by
  obtain ⟨hbackend, houtbox⟩ := (s.solve P req h.dependency).2.hit_backend P req h
  unfold Authenticated
  rw [hbackend, houtbox]
  exact s.authenticated_solve P req h.dependency

/-- A request that does not get so far ends with an error, and no service but
`get_current_user` is called. -/
theorem handle_refused
    (hno : ∀ (h : Handler) (provided : h.dependency.Provides) (operation : Operation) (s' : App),
      ¬ s.Performs P req h provided operation s') :
    400 ≤ (s.handle P req).1.statusCode ∧ s.Authenticated P req (s.handle P req).2 := by
  have hsame : s.Authenticated P req s := Or.inl ⟨rfl, rfl⟩
  unfold App.handle
  cases hrouted : Router.dispatch routes req.method req.path with
  | notFound => exact ⟨(by decide : 400 ≤ 404), hsame⟩
  | methodNotAllowed => exact ⟨(by decide : 400 ≤ 405), hsame⟩
  | found h parameters =>
    dsimp only
    unfold App.serve
    cases hwell : malformed P req h with
    | true => exact ⟨(by decide : 400 ≤ 422), hsame⟩
    | false =>
      rw [if_neg Bool.false_ne_true]
      have hauth := s.authenticated_solve P req h.dependency
      have hhit := s.authenticated_hit P req h
      have herror := @le_statusCode_solve P s req h.dependency
      have hnever := hno h
      cases hresult : s.solve P req h.dependency with
      | mk outcome state =>
        rw [hresult] at hauth hhit herror
        cases outcome with
        | error answer => exact ⟨herror rfl, hauth⟩
        | ok provided =>
          dsimp only at hauth hhit ⊢
          unfold App.enter
          cases hoperation : h.operation P state.now req parameters provided with
          | errors es => exact ⟨(by decide : 400 ≤ 422), hauth⟩
          | ok operation =>
            dsimp only
            cases hunlimited : (state.hit P req h).1 with
            | false => exact ⟨(by decide : 400 ≤ 429), hhit⟩
            | true =>
              refine absurd ?_ (hnever provided operation (state.hit P req h).2)
              exact ⟨hwell, ⟨parameters, hrouted, by rw [hresult]; exact hoperation⟩,
                by rw [hresult], by rw [hresult]; exact hunlimited, by rw [hresult]⟩

/-- The state in which a service is called. -/
theorem Performs.authenticated {h : Handler} {provided : h.dependency.Provides}
    (hp : s.Performs P req h provided operation s') : s.Authenticated P req s' := by
  rw [hp.state]
  exact s.authenticated_hit P req h

end App

end SmsLite
