import SmsLite.Lib.Run
import SmsLite.UserServiceSelf

/-!
# The service as one system

Every service operation is a request, and a sequential run is a list of events:
a request served from beginning to end, or something that happens outside.

## Main definitions

* `Request`, `Request.service` — the operations and the programs that serve them.
* `Event`, `World.after`, `World.run` — events and sequential runs.
* `Request.target?` — the account a request is about.
* `World.Seeded` — the states a run may start from.
-/

namespace SmsLite

open Interleave

/-- The service operations, with the id of the caller where the operation reads it. -/
inductive Request
  | login (formData : LoginForm)
  | logout (currentUserId : UserId)
  | activateAccount (request : ActivateAccountWithToken)
  | refreshToken (rawRefreshToken refreshTokenFamily : String)
  | resetPassword (request : ResetPassword)
  | createForgotPasswordRequest (request : ForgotPasswordPublicRequest)
  | getCurrentUser (token : String)
  | registerUser (currentUserId : UserId) (createRequest : CreateUserRequest)
  | updateUser (targetUserId : UserId) (updateRequest : UpdateUserRequest)
  | updateUserCredentials (currentUserId targetUserId : UserId)
      (updateRequest : UpdateUserCredentials)
  | deactivateUser (targetUserId : UserId)
  | activateUser (targetUserId : UserId)
  | createResetPasswordRequest (currentUserId targetUserId : UserId)
  | resendActivationInvite (currentUserId targetUserId : UserId)
  | getTeacherByIdAdmin (targetTeacherId : UserId)
  | getStudentByIdAdmin (targetStudentId : UserId)
  | getTeacherByIdDirector (targetTeacherId : UserId)
  | getStudentByIdDirector (targetStudentId : UserId)
  | getMyProfile (currentUserId : UserId)
  | getMyStudentProfile (currentUserId : UserId)
  | updateMeCredentials (currentUserId : UserId) (updateRequest : UpdateUserCredentials)
  | confirmEmailChange (currentUserId : UserId) (confirmRequest : ConfirmEmailChange)
  | updateMePassword (currentUserId : UserId) (updateRequest : UpdateMePassword)
  deriving DecidableEq, Repr

/-- The values the operations return. -/
inductive Response
  | none
  | tokens (response : LoginResponse)
  | message (text : String)
  | currentUser (user : CurrentUser)
  | user (user : User)
  | admin (detail : UserResponseAdminCache)
  | staff (detail : UserResponseDirectorCache)
  | self (detail : UserResponseSelfCache)
  deriving DecidableEq, Repr

/-- How a request ends. -/
abbrev Outcome := Except Exn Response

/-- The program that serves a request. -/
def Request.service (env : Env) : Request → Service Response
  | login formData => Response.tokens <$> SmsLite.login env formData
  | logout id => (fun _ => .none) <$> SmsLite.logout id
  | activateAccount r => (fun _ => .none) <$> SmsLite.activateAccount env r
  | refreshToken token family => Response.tokens <$> SmsLite.refreshToken env token family
  | resetPassword r => (fun _ => .none) <$> SmsLite.resetPassword env r
  | createForgotPasswordRequest r => Response.message <$> SmsLite.createForgotPasswordRequest env r
  | getCurrentUser token => Response.currentUser <$> SmsLite.getCurrentUser env token
  | registerUser id r => Response.user <$> SmsLite.registerUser env id r
  | updateUser target r => (fun _ => .none) <$> SmsLite.updateUser env target r
  | updateUserCredentials id target r =>
    (fun _ => .none) <$> SmsLite.updateUserCredentials env id target r
  | deactivateUser target => (fun _ => .none) <$> SmsLite.deactivateUser target
  | activateUser target => (fun _ => .none) <$> SmsLite.activateUser target
  | createResetPasswordRequest id target =>
    (fun _ => .none) <$> SmsLite.createResetPasswordRequest env id target
  | resendActivationInvite id target =>
    (fun _ => .none) <$> SmsLite.resendActivationInvite env id target
  | getTeacherByIdAdmin id => Response.admin <$> UserServiceAdmin.getTeacherById id
  | getStudentByIdAdmin id => Response.admin <$> UserServiceAdmin.getStudentById id
  | getTeacherByIdDirector id => Response.staff <$> UserServiceDirector.getTeacherById id
  | getStudentByIdDirector id => Response.staff <$> UserServiceDirector.getStudentById id
  | getMyProfile id => Response.self <$> SmsLite.getMyProfile id
  | getMyStudentProfile id => Response.self <$> SmsLite.getMyStudentProfile id
  | updateMeCredentials id r => (fun _ => .none) <$> SmsLite.updateMeCredentials env id r
  | confirmEmailChange id r => (fun _ => .none) <$> SmsLite.confirmEmailChange env id r
  | updateMePassword id r => (fun _ => .none) <$> SmsLite.updateMePassword id r

/-- Serve a request from beginning to end. -/
def World.serve (env : Env) (w : World) (r : Request) : Outcome × World :=
  (r.service env).run (exec env) w

/-- How the request ends. -/
def World.respond (env : Env) (w : World) (r : Request) : Outcome := (w.serve env r).1

/-- A step of a sequential run. -/
inductive Event
  | request (r : Request)
  | outside (o : Outside)
  deriving DecidableEq, Repr

/-- The state after an event. -/
def World.after (env : Env) (w : World) : Event → World
  | .request r => (w.serve env r).2
  | .outside o => outside o w

/-- The state after a sequential run. -/
def World.run (env : Env) (w : World) (events : List Event) : World :=
  Run.run (World.after env) w events

theorem World.run_concat (env : Env) (w : World) (events : List Event) (e : Event) :
    w.run env (events ++ [e]) = (w.run env events).after env e := Run.run_concat w events e

theorem World.run_around (env : Env) (w : World) (before : List Event) (e : Event)
    (after : List Event) :
    w.run env (before ++ e :: after) = ((w.run env before).after env e).run env after :=
  Run.run_append w before (e :: after)

/-- The user with the username. -/
def Db.userNamed (db : Db) (username : String) : Option UserId :=
  (db.users.find? fun u => u.username = username).map (·.id)

/-- The account a request is about: the one it names, or the subject of its token. -/
def Request.target? (env : Env) (w : World) : Request → Option UserId
  | login formData => formData.username.bind w.db.userNamed
  | activateAccount r => w.db.userNamed r.username
  | resetPassword r => w.db.userNamed r.username
  | createForgotPasswordRequest r => w.db.userNamed r.username
  | refreshToken token _ => (refreshTokenSubject env w.clock token).toOption
  | getCurrentUser token => (accessTokenSubject env w.clock token).toOption.map (·.1)
  | registerUser _ _ => .none
  | logout id | updateUser id _ | updateUserCredentials _ id _ | deactivateUser id
  | activateUser id | createResetPasswordRequest _ id | resendActivationInvite _ id
  | getTeacherByIdAdmin id | getStudentByIdAdmin id | getTeacherByIdDirector id
  | getStudentByIdDirector id | getMyProfile id | getMyStudentProfile id
  | updateMeCredentials id _ | confirmEmailChange id _ | updateMePassword id _ => some id

/-- A user the database may be seeded with: active, with a password. -/
structure User.Seeded (u : User) : Prop where
  status : u.status = .active
  isActive : u.isActive = true
  passwordHash : u.passwordHash ≠ none

/-- A state a run may start from: seeded users, each with untouched companion rows, and
an empty cache.  All other users come from `register_user`. -/
structure World.Seeded (w : World) : Prop where
  ids : (Keyed.keys w.db.users).Nodup
  usersIdSeq : ∀ id ∈ Keyed.keys w.db.users, id < w.db.usersIdSeq
  users : ∀ u ∈ w.db.users, u.Seeded
  sessions : w.db.sessions = w.db.users.map fun u => { userId := u.id }
  activations : w.db.activations = w.db.users.map fun u => { userId := u.id }
  loginLockouts : w.db.loginLockouts = w.db.users.map fun u => { userId := u.id }
  cache : w.cache = fun _ => none

end SmsLite
