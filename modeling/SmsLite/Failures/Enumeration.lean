import SmsLite.Failures.RefreshToken

/-!
# What password recovery tells an anonymous caller

Two states that differ only in one account, and the same request for the recovery of its
password.  The request for a reset link is answered alike in both.  The reset itself is not: an
unknown username is refused with a 401, a known one with a 400.

## Main definitions

* `HttpResponse`, `Exn.httpResponse` — what the exception handlers answer.
* `World.DifferOnlyIn` — two states that differ only in whether an account exists.
* `World.HoldsResetToken` — the reset tokens that are currently valid.
* `resetRefusal` — the answer to a reset without such a token.

## Main results

* `recovery_answers` — **the request for a link is answered alike; the reset is answered with a
  401 in the one state and from the account's row in the other**.
-/

namespace SmsLite

open Interleave
open Interleave.Prog (Ends ends_bind ends_map)

variable {env : Env} {w : World}

/-! ### Answers -/

/-- The status code of a response, and the `detail` of its body. -/
structure HttpResponse where
  statusCode : ℕ
  detail : Option String
  deriving DecidableEq, Repr

/-- `unhandled_exception_handler`. -/
def HttpResponse.internalError : HttpResponse := ⟨500, some "An internal error occurred"⟩

/-- `app_exception_handler`, and `unhandled_exception_handler` for every other class. -/
def Exn.httpResponse : Exn → HttpResponse
  | .app cls detail => ⟨cls.statusCode, some detail⟩
  | _ => .internalError

/-- The answer of the two recovery endpoints: a 200 with a text, or a 204 without a body. -/
def recoveryResponse : Outcome → HttpResponse
  | .ok (.message text) => ⟨200, some text⟩
  | .ok _ => ⟨204, none⟩
  | .error e => e.httpResponse

/-- What an anonymous caller sees of a recovery request. -/
def World.answer (env : Env) (w : World) (r : Request) : HttpResponse :=
  recoveryResponse (w.respond env r)

/-! ### Two states that differ in one account -/

/-- The database without an account: its row, the companion rows and the letters to it. -/
def Db.without (db : Db) (id : UserId) : Db :=
  { db with
    users := db.users.filter (·.id ≠ id)
    sessions := db.sessions.filter (·.userId ≠ id)
    activations := db.activations.filter (·.userId ≠ id)
    loginLockouts := db.loginLockouts.filter (·.userId ≠ id)
    pendingEmails := db.pendingEmails.filter (·.recipientUserId ≠ some id) }

/-- Two states that differ only in whether an account with the username exists.  The cache and
the random draws may be any. -/
structure World.DifferOnlyIn (username : String) (w₀ w₁ : World) : Prop where
  clock : w₀.clock = w₁.clock
  absent : ∀ u ∈ w₀.db.users, u.username ≠ username
  account : ∃ u ∈ w₁.db.users, u.username = username ∧ w₀.db = w₁.db.without u.id

/-- The token is a currently valid reset token of the username. -/
def World.HoldsResetToken (env : Env) (w : World) (username token : String) : Prop :=
  ∃ u ∈ w.db.users, u.username = username ∧ ∃ s, Keyed.get? w.db.sessions u.id = some s ∧
    s.resetPasswordTokenHash = some (env.sha256 token) ∧
    ∃ expiresAt ∈ s.resetPasswordTokenExpiresAt, w.clock ≤ expiresAt

/-- The answer to a reset without a valid token, from the session row of the account: expired
unless a token is outstanding, and invalid if one is.  A row or a digest that is missing, or a
digest that is not ASCII, is a 500. -/
def resetRefusal (now : Time) : Option UserSession → HttpResponse
  | none => .internalError
  | some s =>
    match s.resetPasswordTokenExpiresAt.filter (now ≤ ·), s.resetPasswordTokenHash with
    | none, _ => ⟨400, some HTTP400.expiredResetPasswordToken⟩
    | some _, none => .internalError
    | some _, some hash =>
      if isAscii hash then ⟨400, some HTTP400.invalidResetPasswordToken⟩ else .internalError

/-- Where no user has the username, the query finds nobody. -/
theorem selectUserByUsername_eq_none {username : String} {q : UserQuery}
    (h : ∀ u ∈ w.db.users, u.username ≠ username) :
    w.db.selectUserByUsername username q = none := by
  have hfind : (w.db.users.find? fun u => u.username = username) = none := by
    rw [List.find?_eq_none]
    intro u hu hname
    exact h u hu (of_decide_eq_true hname)
  rw [Db.selectUserByUsername, hfind]
  rfl

/-- Where some user has the username, the query finds a user of that name. -/
theorem selectUserByUsername_eq_some {username : String} {q : UserQuery}
    (h : ∃ u ∈ w.db.users, u.username = username) :
    ∃ u ∈ w.db.users, u.username = username ∧
      w.db.selectUserByUsername username q = some (w.db.load q u) := by
  obtain ⟨u₁, hu₁, hname₁⟩ := h
  cases hfind : w.db.users.find? fun u => u.username = username with
  | none =>
    have hno := List.find?_eq_none.mp hfind u₁ hu₁
    exact absurd (decide_eq_true hname₁) hno
  | some u =>
    refine ⟨u, List.mem_of_find?_eq_some hfind, ?_, ?_⟩
    · have hdecide := List.find?_some hfind
      exact of_decide_eq_true hdecide
    · rw [Db.selectUserByUsername, hfind]
      rfl

/-! ### The request for a reset link -/

/-- **The request for a link has one answer**, in every state and for every username. -/
theorem answer_createForgotPasswordRequest (env : Env) (w : World)
    (request : ForgotPasswordPublicRequest) :
    w.answer env (.createForgotPasswordRequest request) =
      ⟨200, some ("If your username matches a registered account, " ++
        "you will receive a password reset link.")⟩ := by
  change Ends (exec env) (Response.message <$> createForgotPasswordRequest env request)
    (fun out _ => recoveryResponse out = _) w
  rw [ends_map]
  unfold createForgotPasswordRequest
  rw [ends_getUserByUsername, ends_tokenUrlsafe]
  cases huser : w.db.selectUserByUsername request.username { loadSession := true } with
  | none => rfl
  | some user =>
    dsimp only
    cases hsession : user.session with
    | none => rfl
    | some s =>
      dsimp only
      rw [ends_datetimeNow]
      refine ends_commitCompanions rfl (fun s' hs' => ⟨s, hsession, ?_⟩) fun db' _ => rfl
      obtain rfl := Option.some.inj hs'
      rfl

/-! ### The reset -/

/-- A reset for an unknown username. -/
theorem answer_resetPassword_of_absent {request : ResetPassword}
    (habsent : ∀ u ∈ w.db.users, u.username ≠ request.username) :
    w.answer env (.resetPassword request) = ⟨401, some HTTP401.invalidCredentials⟩ := by
  change Ends (exec env) ((fun _ => Response.none) <$> resetPassword env request)
    (fun out _ => recoveryResponse out = _) w
  rw [ends_map]
  unfold resetPassword
  rw [ends_getUserByUsername, selectUserByUsername_eq_none habsent]
  rfl

/-- A reset for a known username, with a token that is not valid. -/
theorem answer_resetPassword_of_invalid {request : ResetPassword}
    (hmem : ∃ u ∈ w.db.users, u.username = request.username)
    (htoken : ¬ w.HoldsResetToken env request.username request.resetToken) :
    ∃ u ∈ w.db.users, u.username = request.username ∧
      w.answer env (.resetPassword request) =
        resetRefusal w.clock (Keyed.get? w.db.sessions u.id) := by
  obtain ⟨u, hu, hname, hload⟩ :=
    selectUserByUsername_eq_some (q := { loadSession := true, loadLoginLockout := true }) hmem
  refine ⟨u, hu, hname, ?_⟩
  change Ends (exec env) ((fun _ => Response.none) <$> resetPassword env request)
    (fun out _ => recoveryResponse out = _) w
  rw [ends_map]
  unfold resetPassword
  rw [ends_getUserByUsername, hload]
  dsimp only [Db.load]
  rw [if_pos rfl]
  cases hsession : Keyed.get? w.db.sessions u.id with
  | none => rfl
  | some s =>
    rw [deref_some, ends_datetimeNow]
    dsimp only [resetRefusal]
    cases hfilter : s.resetPasswordTokenExpiresAt.filter (w.clock ≤ ·) with
    | none => rfl
    | some expiresAt =>
      cases hhash : s.resetPasswordTokenHash with
      | none => rfl
      | some hash =>
        have hne : (env.sha256 request.resetToken == hash) = false := by
          rw [beq_eq_false_iff_ne]
          rintro rfl
          obtain ⟨hexpires, hnow⟩ := Option.filter_eq_some_iff.mp hfilter
          exact htoken ⟨u, hu, hname, s, hsession, hhash, expiresAt, hexpires,
            of_decide_eq_true hnow⟩
        refine ends_verifyDigest (fun hascii => ?_) fun hascii => ?_
        · dsimp only
          rw [hne, if_pos hascii]
          rfl
        · dsimp only
          rw [if_neg hascii]
          rfl

/-- **What the recovery endpoints tell of an account.**  In two states that differ only in
whether the account exists, the request for a reset link is answered alike; a reset without a
valid token is refused with a 401 where the account does not exist, and from the session row of
the account where it does. -/
theorem recovery_answers (env : Env) {username : String} {w₀ w₁ : World}
    (h : w₀.DifferOnlyIn username w₁) :
    (∀ request : ForgotPasswordPublicRequest, request.username = username →
      w₀.answer env (.createForgotPasswordRequest request) =
        w₁.answer env (.createForgotPasswordRequest request)) ∧
    ∀ request : ResetPassword, request.username = username →
      ¬ w₁.HoldsResetToken env username request.resetToken →
        w₀.answer env (.resetPassword request) = ⟨401, some HTTP401.invalidCredentials⟩ ∧
        ∃ u ∈ w₁.db.users, u.username = username ∧
          w₁.answer env (.resetPassword request) =
            resetRefusal w₁.clock (Keyed.get? w₁.db.sessions u.id) := by
  constructor
  · intro request _
    rw [answer_createForgotPasswordRequest, answer_createForgotPasswordRequest]
  · rintro request rfl htoken
    refine ⟨answer_resetPassword_of_absent h.absent, ?_⟩
    obtain ⟨u, hu, hname, -⟩ := h.account
    exact answer_resetPassword_of_invalid ⟨u, hu, hname⟩ htoken

/-- The seeded state without its student. -/
def World.withoutAda : World :=
  { World.concrete with db := World.concrete.db.without 2 }

/-- The two states differ only in the student. -/
theorem World.withoutAda_differOnlyIn :
    World.withoutAda.DifferOnlyIn "lovelace" World.concrete where
  clock := rfl
  absent := by decide +kernel
  account := ⟨seededAda, .tail _ (.head _), rfl, rfl⟩

/-- The student holds no reset token. -/
theorem World.concrete_not_holdsResetToken (token : String) :
    ¬ World.concrete.HoldsResetToken Env.concrete "lovelace" token := by
  rintro ⟨u, hu, -, s, hs, hhash, -⟩
  have hmem : s ∈ World.concrete.db.sessions := Keyed.mem_of_get? hs
  simp only [World.concrete, List.mem_cons, List.not_mem_nil, or_false] at hmem
  obtain rfl | rfl := hmem
  · cases hhash
  · cases hhash

/-- A guessed token tells whether the student has an account: the reset is refused with a 401
where there is none and with a 400 where there is one. -/
theorem resetPassword_tells_accounts_apart :
    World.withoutAda.DifferOnlyIn "lovelace" World.concrete ∧
      ¬ World.concrete.HoldsResetToken Env.concrete "lovelace" "guess" ∧
      World.withoutAda.answer Env.concrete (.resetPassword ⟨"lovelace", "guess", "Passw0rd!"⟩) =
        ⟨401, some HTTP401.invalidCredentials⟩ ∧
      World.concrete.answer Env.concrete (.resetPassword ⟨"lovelace", "guess", "Passw0rd!"⟩) =
        ⟨400, some HTTP400.expiredResetPasswordToken⟩ :=
  ⟨World.withoutAda_differOnlyIn, World.concrete_not_holdsResetToken "guess",
    by decide +kernel, by decide +kernel⟩

/-- The two states meet the hypothesis. -/
theorem recovery_answers_ada :
    World.withoutAda.answer Env.concrete (.createForgotPasswordRequest ⟨"lovelace"⟩) =
        World.concrete.answer Env.concrete (.createForgotPasswordRequest ⟨"lovelace"⟩) ∧
      World.withoutAda.answer Env.concrete (.resetPassword ⟨"lovelace", "guess", "Passw0rd!"⟩) =
        ⟨401, some HTTP401.invalidCredentials⟩ := by
  obtain ⟨hforgot, hreset⟩ := recovery_answers Env.concrete World.withoutAda_differOnlyIn
  refine ⟨hforgot ⟨"lovelace"⟩ rfl, ?_⟩
  exact (hreset ⟨"lovelace", "guess", "Passw0rd!"⟩ rfl
    (World.concrete_not_holdsResetToken "guess")).1

end SmsLite
