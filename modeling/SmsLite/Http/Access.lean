import SmsLite.AccessTokens
import SmsLite.Http.App

/-!
# Who is let in

A guarded operation looks at the token a request carries, and `require_roles` at the role in the
token alone.  This module follows a token from the login that hands it out to the request that
presents it, over every run of the application, and finds that the guard is as good as one that
looks at the tables.

## Main definitions

* `AppEvent.Issues`, `AppEvent.Revokes` — the events that hand out tokens and that end them.
* `App.HandedOut` — the tokens of earlier answers.
* `App.Bears` — the request bears a token of the user that is still good.

## Main results

* `App.account_after` — what an event does to the version of an account.
* `requireRoles_ok_iff` — **a guarded operation lets in exactly the bearer of an unexpired access
  token that an earlier answer has handed out to an account of one of its roles and that nothing
  has revoked since**.
-/

namespace SmsLite

open Interleave
open Interleave.Prog (Ends ends_map)

variable {P : Platform} {s s' : App} {req : HttpRequest}

/-! ### Soundness -/

/-- Nothing but a call of the user services changes an account. -/
theorem Backend.account_after (b : Backend) (env : Env) {c : Call}
    (hc : ∀ e, c ≠ .school (.user e)) (u : UserId) :
    (b.after env c).world.account u = b.world.account u := by
  rcases b.world_after env c with ⟨groups, hworld⟩ | ⟨e, heq, -⟩
  · rw [hworld]
    rfl
  · exact absurd heq (hc e)

/-- The call of an operation; time may pass while it waits for the outbox. -/
inductive Operation.Calls : Operation → Call → Prop
  | user (r : Request) : Calls (.user r) (.school (.user (.request r)))
  | group (r : GroupRequest) : Calls (.group r) (.school (.group r))
  | subject (r : SubjectRequest) : Calls (.subject r) (.subject r)
  | listUsers (r : UserListRequest) : Calls (.listUsers r) (.users r)
  | getEmailById (emailId d : ℕ) :
      Calls (.getEmailById emailId) (.school (.user (.outside (.tick d))))
  | retryFailedEmail (emailId d : ℕ) :
      Calls (.retryFailedEmail emailId) (.school (.user (.outside (.tick d))))

namespace App

/-- **What an operation does to the services**: it makes its call, if it has one. -/
theorem perform_backend (P : Platform) (s : App) (code : ℕ) (operation : Operation) :
    ((s.perform P code operation).2.backend = s.backend ∧ ∀ c, ¬ operation.Calls c) ∨
      ∃ c, operation.Calls c ∧
        (s.perform P code operation).2.backend = s.backend.after P.env c := by
  have hquiet : ∀ operation : Operation, (∀ c, ¬ operation.Calls c) →
      (s.perform P code operation).2.backend = s.backend →
      ((s.perform P code operation).2.backend = s.backend ∧ ∀ c, ¬ operation.Calls c) ∨
        ∃ c, operation.Calls c ∧
          (s.perform P code operation).2.backend = s.backend.after P.env c :=
    fun _ hno hsame => Or.inl ⟨hsame, hno⟩
  cases operation with
  | user r => exact Or.inr ⟨_, .user r, rfl⟩
  | group r => exact Or.inr ⟨_, .group r, rfl⟩
  | subject r => exact Or.inr ⟨_, .subject r, rfl⟩
  | listUsers r => exact Or.inr ⟨_, .listUsers r, rfl⟩
  | getEmailById id => exact Or.inr ⟨_, .getEmailById id _, rfl⟩
  | retryFailedEmail id => exact Or.inr ⟨_, .retryFailedEmail id _, rfl⟩
  | _ => exact hquiet _ (by intro c h; cases h) rfl

/-- The services and the outbox after the authentication: no call, or one. -/
theorem Authenticated.calls (h : s.Authenticated P req s') :
    ∃ calls, s'.backend = s.backend.run P.env calls := by
  rcases h with ⟨hbackend, -⟩ | ⟨token, -, hbackend, -⟩
  · exact ⟨[], hbackend⟩
  · exact ⟨[.school (.user (.request (.getCurrentUser token)))], hbackend⟩

theorem Authenticated.sound (h : s.Authenticated P req s') (hs : s.backend.Sound) :
    s'.backend.Sound := by
  obtain ⟨calls, hcalls⟩ := h.calls
  rw [hcalls]
  exact hs.run P.env calls

/-- Either the request is answered by a service, or it is refused. -/
theorem handle_cases (P : Platform) (s : App) (req : HttpRequest) :
    (∃ (h : Handler) (provided : h.dependency.Provides) (operation : Operation) (s' : App),
        s.Performs P req h provided operation s' ∧
          s.handle P req = s'.perform P h.statusCode operation) ∨
      (∀ (h : Handler) (provided : h.dependency.Provides) (operation : Operation) (s' : App),
          ¬ s.Performs P req h provided operation s') ∧
        400 ≤ (s.handle P req).1.statusCode ∧ s.Authenticated P req (s.handle P req).2 := by
  by_cases h : ∃ (h : Handler) (provided : h.dependency.Provides) (operation : Operation)
      (s' : App), s.Performs P req h provided operation s'
  · obtain ⟨h, provided, operation, s', hp⟩ := h
    exact Or.inl ⟨h, provided, operation, s', hp, hp.handle⟩
  · have hno : ∀ (h : Handler) (provided : h.dependency.Provides) (operation : Operation)
        (s' : App), ¬ s.Performs P req h provided operation s' :=
      fun h' provided operation s' hp => h ⟨h', provided, operation, s', hp⟩
    exact Or.inr ⟨hno, handle_refused hno⟩

/-- A request is answered by one service call, in one state. -/
theorem Performs.unique {h h' : Handler} {provided : h.dependency.Provides}
    {provided' : h'.dependency.Provides} {operation operation' : Operation} {s₁ s₂ : App}
    (hp : s.Performs P req h provided operation s₁)
    (hp' : s.Performs P req h' provided' operation' s₂) :
    h = h' ∧ operation = operation' ∧ s₁ = s₂ := by
  obtain ⟨parameters, hrouted, hoperation⟩ := hp.routed
  obtain ⟨parameters', hrouted', hoperation'⟩ := hp'.routed
  rw [hrouted] at hrouted'
  cases hrouted'
  have hprovided : provided = provided' := Except.ok.inj (hp.solved.symm.trans hp'.solved)
  subst hprovided
  rw [hoperation] at hoperation'
  exact ⟨rfl, Validated.ok.inj hoperation', hp.state.trans hp'.state.symm⟩

/-- What an event does to the services is a sequence of calls. -/
theorem after_calls (P : Platform) (s : App) (e : AppEvent) :
    ∃ calls, (s.after P e).backend = s.backend.run P.env calls := by
  cases e with
  | http req =>
    rcases s.handle_cases P req with ⟨h, provided, operation, s', hp, hhandle⟩ | ⟨-, -, hauth⟩
    · obtain ⟨calls, hcalls⟩ := hp.authenticated.calls
      have hafter : (s.after P (.http req)).backend =
          (s'.perform P h.statusCode operation).2.backend := by rw [← hhandle]; rfl
      rw [hafter]
      rcases s'.perform_backend P h.statusCode operation with ⟨hsame, -⟩ | ⟨c, -, hcall⟩
      · exact ⟨calls, hsame.trans hcalls⟩
      · refine ⟨calls ++ [c], ?_⟩
        rw [hcall, hcalls]
        exact (Run.run_concat _ _ _).symm
    · exact hauth.calls
  | outside o => exact ⟨[.school (.user (.outside o))], rfl⟩
  | expireGroup key => exact ⟨[.school (.expireGroup key)], rfl⟩
  | expireSubject key => exact ⟨[.expireSubject key], rfl⟩
  | expireEmail id => exact ⟨[], rfl⟩
  | processBatch => exact ⟨[.school (.user (.outside (.tick _)))], rfl⟩

/-- What a run does to the services is a sequence of calls. -/
theorem run_calls (P : Platform) (s : App) (events : List AppEvent) :
    ∃ calls, (s.run P events).backend = s.backend.run P.env calls := by
  induction events generalizing s with
  | nil => exact ⟨[], rfl⟩
  | cons e events ih =>
    obtain ⟨first, hfirst⟩ := s.after_calls P e
    obtain ⟨rest, hrest⟩ := ih (s.after P e)
    refine ⟨first ++ rest, ?_⟩
    rw [hfirst] at hrest
    exact hrest.trans (Run.run_append _ _ _).symm

/-- **Soundness is kept by every event.** -/
theorem sound_after (hs : s.backend.Sound) (P : Platform) (e : AppEvent) :
    (s.after P e).backend.Sound := by
  obtain ⟨calls, hcalls⟩ := s.after_calls P e
  rw [hcalls]
  exact hs.run P.env calls

/-- **Soundness is kept by every run.** -/
theorem sound_run (hs : s.backend.Sound) (P : Platform) (events : List AppEvent) :
    (s.run P events).backend.Sound :=
  Run.invariant' (I := fun s : App => s.backend.Sound) (fun _ e h => sound_after h P e) hs events

/-! ### Accounts -/

end App

/-- The event runs an operation that revokes the access tokens of the user. -/
def AppEvent.Revokes (P : Platform) (s : App) (u : UserId) : AppEvent → Prop
  | .http req => ∃ (h : Handler) (provided : h.dependency.Provides) (r : Request) (s' : App),
      s.Performs P req h provided (.user r) s' ∧ (Event.request r).Revokes P.env s'.world u
  | _ => False

/-- A request is answered with tokens of the user. -/
def AppEvent.Issues (P : Platform) (s : App) (u : UserId) (t : LoginResponse) : AppEvent → Prop
  | .http req => (s.handle P req).1 = ⟨200, .user (.tokens t)⟩ ∧
      (P.env.jose.decode t.accessToken).bind (·.sub) = some u
  | _ => False

/-- The version stays, and an active account stays active. -/
def Account.Keeps (acc acc' : Account) : Prop :=
  acc'.session.accessTokenVersion = acc.session.accessTokenVersion ∧
    (acc.user.isActive = true → acc'.user.isActive = true)

theorem Account.Keeps.trans {a b c : Account} (h : a.Keeps b) (h' : b.Keeps c) : a.Keeps c :=
  ⟨h'.1.trans h.1, fun hactive => h'.2 (h.2 hactive)⟩

namespace App

variable {u : UserId} {acc : Account}

/-- What happens outside, and `get_current_user`, revoke nothing. -/
theorem account_event (hs : s.backend.Sound) (hacc : s.world.account u = some acc) (e : Event)
    (hno : ¬ e.Revokes P.env s.world u) :
    ∃ acc', (s.call P (.school (.user e))).world.account u = some acc' ∧ acc.Keeps acc' := by
  obtain ⟨acc', hacc', hevolves⟩ := hs.school.world.evolves P.env hacc e
  refine ⟨acc', hacc', ?_⟩
  rcases hevolves.accessTokenVersion hacc with ⟨hrevokes, -⟩ | ⟨-, hkeeps⟩
  · exact absurd hrevokes hno
  · exact hkeeps

theorem not_revokes_getCurrentUser (env : Env) (w : World) (token : String) :
    ¬ (Event.request (.getCurrentUser token)).Revokes env w u := by
  rintro ⟨-, _, -, hrevoking⟩
  exact hrevoking

/-- The authentication of a request keeps every account. -/
theorem Authenticated.account (h : s.Authenticated P req s') (hs : s.backend.Sound)
    (hacc : s.world.account u = some acc) :
    ∃ acc', s'.world.account u = some acc' ∧ acc.Keeps acc' := by
  rcases h with ⟨hbackend, -⟩ | ⟨token, -, hbackend, -⟩
  · refine ⟨acc, ?_, rfl, id⟩
    rw [world, hbackend]
    exact hacc
  · rw [world, hbackend]
    exact account_event hs hacc _ (not_revokes_getCurrentUser _ _ _)

/-- **What an event does to the version of an account**: it moves it on if it revokes its tokens,
and keeps it if not. -/
theorem account_after (hs : s.backend.Sound) (hacc : s.world.account u = some acc) (e : AppEvent) :
    ∃ acc', (s.after P e).world.account u = some acc' ∧
      ((e.Revokes P s u ∧
          acc'.session.accessTokenVersion = acc.session.accessTokenVersion + 1) ∨
        (¬ e.Revokes P s u ∧ acc.Keeps acc')) := by
  cases e with
  | http req =>
    rcases s.handle_cases P req with ⟨h, provided, operation, s', hp, hhandle⟩ | ⟨hno, -, hauth⟩
    · obtain ⟨acc₁, hacc₁, hkeeps₁⟩ := hp.authenticated.account hs hacc
      have hs' : s'.backend.Sound := hp.authenticated.sound hs
      have hafter : (s.after P (.http req)).backend =
          (s'.perform P h.statusCode operation).2.backend := by rw [← hhandle]; rfl
      rw [world, hafter]
      rcases s'.perform_backend P h.statusCode operation with ⟨hsame, hnocall⟩ | ⟨c, hc, hcall⟩
      · rw [hsame]
        refine ⟨acc₁, hacc₁, Or.inr ⟨?_, hkeeps₁⟩⟩
        rintro ⟨h', provided', r, s'', hp', -⟩
        obtain ⟨-, hoperation, -⟩ := hp.unique hp'
        rw [hoperation] at hnocall
        exact hnocall _ (Operation.Calls.user r)
      · rw [hcall]
        cases hc with
        | user r =>
          obtain ⟨acc₂, hacc₂, hevolves⟩ := hs'.school.world.evolves P.env hacc₁ (.request r)
          refine ⟨acc₂, hacc₂, ?_⟩
          rcases hevolves.accessTokenVersion hacc₁ with ⟨hrevokes, hversion⟩ | ⟨hno, hkeeps⟩
          · refine Or.inl ⟨⟨h, provided, r, s', hp, hrevokes⟩, ?_⟩
            rw [hversion, hkeeps₁.1]
          · refine Or.inr ⟨?_, hkeeps₁.trans hkeeps⟩
            rintro ⟨h', provided', r', s'', hp', hrevokes⟩
            obtain ⟨-, hoperation, hstate⟩ := hp.unique hp'
            cases hoperation
            exact hno (hstate ▸ hrevokes)
        | getEmailById emailId d | retryFailedEmail emailId d =>
          obtain ⟨acc₂, hacc₂, hkeeps⟩ :=
            account_event (P := P) hs' hacc₁ (.outside (.tick d)) id
          refine ⟨acc₂, hacc₂, Or.inr ⟨?_, hkeeps₁.trans hkeeps⟩⟩
          rintro ⟨h', provided', r', s'', hp', -⟩
          cases (hp.unique hp').2.1
        | group r | subject r | listUsers r =>
          refine ⟨acc₁, ?_, Or.inr ⟨?_, hkeeps₁⟩⟩
          · rw [Backend.account_after _ _ (by intro e h; cases h)]
            exact hacc₁
          · rintro ⟨h', provided', r', s'', hp', -⟩
            cases (hp.unique hp').2.1
    · obtain ⟨acc', hacc', hkeeps⟩ := hauth.account hs hacc
      refine ⟨acc', hacc', Or.inr ⟨?_, hkeeps⟩⟩
      rintro ⟨h, provided, r, s', hp, -⟩
      exact hno h provided _ s' hp
  | outside o =>
    obtain ⟨acc', hacc', hkeeps⟩ := account_event (P := P) hs hacc (.outside o) id
    exact ⟨acc', hacc', Or.inr ⟨id, hkeeps⟩⟩
  | expireGroup key =>
    exact ⟨acc, (s.backend.account_after P.env (by intro e h; cases h) u).trans hacc,
      Or.inr ⟨id, rfl, id⟩⟩
  | expireSubject key =>
    exact ⟨acc, (s.backend.account_after P.env (by intro e h; cases h) u).trans hacc,
      Or.inr ⟨id, rfl, id⟩⟩
  | expireEmail emailId => exact ⟨acc, hacc, Or.inr ⟨id, rfl, id⟩⟩
  | processBatch =>
    obtain ⟨acc', hacc', hkeeps⟩ := account_event (P := P) hs hacc (.outside (.tick _)) id
    exact ⟨acc', hacc', Or.inr ⟨id, hkeeps⟩⟩

/-- The version of the access tokens of a user. -/
def version (u : UserId) (s : App) : ℕ :=
  ((s.world.account u).map (·.session.accessTokenVersion)).getD 0

/-- The account is active, if it is there. -/
def Active (u : UserId) (s : App) : Prop :=
  ∀ acc, s.world.account u = some acc → acc.user.isActive = true

/-- **The version of an active account stands still, and the account stays active, exactly as
long as no event revokes its tokens.** -/
theorem version_iff (hs : s.backend.Sound) (hacc : s.world.account u = some acc)
    (hactive : acc.user.isActive = true) (events : List AppEvent) :
    (∃ acc', (s.run P events).world.account u = some acc' ∧
        acc'.session.accessTokenVersion = acc.session.accessTokenVersion ∧
        acc'.user.isActive = true) ↔
      Run.Throughout (App.after P) (fun s e => ¬ e.Revokes P s u) s events := by
  have hversion : ∀ {s : App} {acc}, s.world.account u = some acc →
      s.version u = acc.session.accessTokenVersion := by
    intro s acc h
    rw [version, h]
    rfl
  have hinvariant : ∀ (s : App) e, (s.backend.Sound ∧ ∃ acc, s.world.account u = some acc) →
      (s.after P e).backend.Sound ∧ ∃ acc, (s.after P e).world.account u = some acc := by
    rintro s e ⟨hs, acc, hacc⟩
    obtain ⟨acc', hacc', -⟩ := account_after (P := P) hs hacc e
    exact ⟨sound_after hs P e, acc', hacc'⟩
  have hstep : ∀ (s : App) e, (s.backend.Sound ∧ ∃ acc, s.world.account u = some acc) →
      (AppEvent.Revokes P s u e ∧ s.version u < (s.after P e).version u) ∨
        (¬ AppEvent.Revokes P s u e ∧ (s.after P e).version u = s.version u ∧
          (s.Active u → (s.after P e).Active u)) := by
    rintro s e ⟨hs, acc, hacc⟩
    obtain ⟨acc', hacc', hcases⟩ := account_after (P := P) hs hacc e
    rw [hversion hacc, hversion hacc']
    rcases hcases with ⟨hrevokes, hnext⟩ | ⟨hno, hkeeps⟩
    · exact Or.inl ⟨hrevokes, by omega⟩
    · refine Or.inr ⟨hno, hkeeps.1, fun h acc'' hacc'' => ?_⟩
      cases hacc'.symm.trans hacc''
      exact hkeeps.2 (h acc hacc)
  have hok : s.Active u := by
    intro acc' hacc'
    cases hacc.symm.trans hacc'
    exact hactive
  have hgeneration : (s.run P events).version u = s.version u ∧ (s.run P events).Active u ↔
      Run.Throughout (App.after P) (fun s e => ¬ e.Revokes P s u) s events :=
    Run.generation_iff hinvariant hstep ⟨hs, acc, hacc⟩ hok events
  rw [← hgeneration]
  have hend : (s.run P events).backend.Sound ∧ ∃ acc, (s.run P events).world.account u = some acc :=
    Run.invariant' hinvariant ⟨hs, acc, hacc⟩ events
  obtain ⟨-, acc', hacc'⟩ := hend
  rw [hversion hacc, hversion hacc']
  constructor
  · rintro ⟨acc'', hacc'', hsame, hactive''⟩
    cases hacc'.symm.trans hacc''
    refine ⟨hsame, fun acc₃ hacc₃ => ?_⟩
    cases hacc'.symm.trans hacc₃
    exact hactive''
  · rintro ⟨hsame, hactive'⟩
    exact ⟨acc', hacc', hsame, hactive' acc' hacc'⟩

/-! ### Answers of the dependencies -/

/-- The database path accepts a token of the current version of an active account. -/
theorem databaseAnswer_eq_ok_iff {env : Env} {w : World} {token : String} {user : CurrentUser} :
    databaseAnswer env w token = .ok (.currentUser user) ↔
      ∃ acc, accessTokenSubject env w.clock token =
          .ok (user.id, acc.session.accessTokenVersion, some user.role) ∧
        w.account user.id = some acc ∧ acc.user.isActive = true := by
  constructor
  · intro h
    unfold databaseAnswer at h
    cases hsubject : accessTokenSubject env w.clock token with
    | error e =>
      rw [hsubject] at h
      cases h
    | ok subject =>
      obtain ⟨id, version, role⟩ := subject
      rw [hsubject] at h
      cases role with
      | none => cases h
      | some role =>
        cases hacc : w.account id with
        | none =>
          simp only [hacc] at h
          cases h
        | some acc =>
          simp only [hacc] at h
          split at h
          · cases h
          · rename_i hversion
            split at h
            · cases h
            · rename_i hactive
              cases h
              exact ⟨acc, by rw [not_not.mp hversion], hacc, by simpa using hactive⟩
  · rintro ⟨acc, hsubject, hacc, hactive⟩
    simp only [databaseAnswer, hsubject, hacc, ne_eq, not_true_eq_false, if_false, hactive,
      Bool.not_true, Bool.false_eq_true]

/-- `get_current_user` returns a user. -/
theorem currentUser_ok_iff (hs : s.backend.Sound) {user : CurrentUser} :
    (s.currentUser P req).1 = .ok user ↔
      ∃ token acc, P.bearer.token req = some token ∧
        accessTokenSubject P.env s.now token =
          .ok (user.id, acc.session.accessTokenVersion, some user.role) ∧
        s.world.account user.id = some acc ∧ acc.user.isActive = true := by
  have hrespond : ∀ token, ((getCurrentUser P.env token).run (exec P.env) s.world).1 = .ok user ↔
      databaseAnswer P.env s.world token = .ok (.currentUser user) := by
    intro token
    rw [← getCurrentUser_respond hs.school.world token]
    have hmap : s.world.respond P.env (.getCurrentUser token) =
        ((getCurrentUser P.env token).run (exec P.env) s.world).1.map Response.currentUser :=
      congrArg Prod.fst (Prog.run_map _ _ _ _)
    rw [hmap]
    cases ((getCurrentUser P.env token).run (exec P.env) s.world).1 with
    | error e => exact iff_of_false (by intro h; cases h) (by intro h; cases h)
    | ok user' =>
      constructor
      · intro h
        cases h
        rfl
      · intro h
        cases h
        rfl
  unfold currentUser
  cases htoken : P.bearer.token req with
  | none =>
    refine iff_of_false (by intro h; cases h) ?_
    rintro ⟨token, acc, h, -⟩
    cases h
  | some token =>
    have hmapError : ∀ out : Except Exn CurrentUser,
        out.mapError HttpAnswer.raised = .ok user ↔ out = .ok user := by
      intro out
      cases out with
      | error e => exact iff_of_false (by intro h; cases h) (by intro h; cases h)
      | ok user' => exact ⟨fun h => congrArg _ (Except.ok.inj h),
          fun h => congrArg _ (Except.ok.inj h)⟩
    refine (hmapError _).trans ?_
    rw [hrespond, databaseAnswer_eq_ok_iff]
    constructor
    · rintro ⟨acc, hsubject, hacc, hactive⟩
      exact ⟨token, acc, rfl, hsubject, hacc, hactive⟩
    · rintro ⟨token', acc, htoken', hsubject, hacc, hactive⟩
      cases htoken'
      exact ⟨acc, hsubject, hacc, hactive⟩

/-- `require_roles` goes by the user that `get_current_user` returns. -/
theorem solve_requireRoles_ok_iff {roles : List UserRole} {user : CurrentUser} :
    (s.solve P req (.requireRoles roles)).1 = .ok user ↔
      (s.currentUser P req).1 = .ok user ∧ user.role ∈ roles := by
  change (s.currentUser P req).1.bind (fun user => if user.role ∈ roles then Except.ok user
    else .error HttpAnswer.accessDenied) = Except.ok user ↔ _
  cases (s.currentUser P req).1 with
  | error answer =>
    refine iff_of_false (by intro h; cases h) ?_
    rintro ⟨h, -⟩
    cases h
  | ok user' =>
    change (if user'.role ∈ roles then Except.ok user' else .error HttpAnswer.accessDenied) =
      Except.ok user ↔ _
    by_cases hrole : user'.role ∈ roles
    · rw [if_pos hrole]
      constructor
      · intro h
        cases h
        exact ⟨rfl, hrole⟩
      · intro h
        exact congrArg _ (Except.ok.inj h.1)
    · rw [if_neg hrole]
      refine iff_of_false (by intro h; cases h) ?_
      rintro ⟨h, hmem⟩
      cases h
      exact hrole hmem

/-! ### Tokens -/

/-- A successful answer is the value of the service. -/
theorem of_eq_ok {α : Type} {code : ℕ} {content : α → HttpContent} {out : Except Exn α}
    {body : HttpContent} (h : HttpAnswer.of code content out = ⟨200, body⟩) :
    ∃ a, out = .ok a ∧ content a = body := by
  cases out with
  | error e =>
    have hle := le_statusCode_raised e
    have hcode : (HttpAnswer.raised e).statusCode = 200 := congrArg HttpAnswer.statusCode h
    omega
  | ok a => exact ⟨a, rfl, congrArg HttpAnswer.content h⟩

/-- Only the user services return tokens. -/
theorem perform_tokens {code : ℕ} {operation : Operation} {t : LoginResponse}
    (h : (s.perform P code operation).1 = ⟨200, .user (.tokens t)⟩) :
    ∃ r, operation = .user r ∧ s.world.respond P.env r = .ok (.tokens t) := by
  cases operation with
  | user r =>
    obtain ⟨response, hout, hcontent⟩ := of_eq_ok h
    cases hcontent
    exact ⟨r, rfl, hout⟩
  | group r =>
    obtain ⟨_, -, hcontent⟩ := of_eq_ok h
    cases hcontent
  | subject r =>
    obtain ⟨_, -, hcontent⟩ := of_eq_ok h
    cases hcontent
  | getEmailById emailId =>
    obtain ⟨_, -, hcontent⟩ := of_eq_ok h
    cases hcontent
  | retryFailedEmail emailId =>
    obtain ⟨_, -, hcontent⟩ := of_eq_ok h
    cases hcontent
  | _ => cases h

/-- A request that is answered with tokens runs the operation that issues them. -/
theorem issues_performs {u : UserId} {t : LoginResponse} {e : AppEvent} (h : e.Issues P s u t) :
    ∃ (req : HttpRequest) (r : Request) (s' : App), e = .http req ∧
      s.Authenticated P req s' ∧ (Event.request r).Issues P.env s'.world u t ∧
      (s.after P e).backend = s'.backend.after P.env (.school (.user (.request r))) := by
  cases e with
  | http req =>
    obtain ⟨hanswer, hsub⟩ := h
    rcases s.handle_cases P req with ⟨h, provided, operation, s', hp, hhandle⟩ | ⟨-, hcode, -⟩
    · have htokens := hanswer
      rw [hhandle] at htokens
      obtain ⟨r, rfl, hrespond⟩ := perform_tokens htokens
      refine ⟨req, r, s', rfl, hp.authenticated, ⟨hrespond, hsub⟩, ?_⟩
      show (s.handle P req).2.backend = _
      rw [hhandle]
      rfl
    · rw [hanswer] at hcode
      have hlt : ¬ 400 ≤ 200 := by decide
      exact absurd hcode hlt
  | _ => exact absurd h id

/-- An answer of the run has handed out the token. -/
def HandedOut (P : Platform) (s₀ : App) (events : List AppEvent) (token : String) : Prop :=
  ∃ before e after u t, events = before ++ e :: after ∧ AppEvent.Issues P (s₀.run P before) u t e ∧
    (token = t.accessToken ∨ token = t.refreshTokenCookie)

theorem run_around (P : Platform) (s : App) (before : List AppEvent) (e : AppEvent)
    (after : List AppEvent) :
    s.run P (before ++ e :: after) = ((s.run P before).after P e).run P after :=
  Run.run_append s before (e :: after)

/-- A role stays, whatever happens. -/
theorem role?_run (hs : s.backend.Sound) (P : Platform) (events : List AppEvent) {u : UserId}
    {role : UserRole} (h : s.world.role? u = some role) :
    (s.run P events).world.role? u = some role := by
  obtain ⟨calls, hcalls⟩ := s.run_calls P events
  rw [world, hcalls]
  exact hs.role?_run P.env calls h

/-- What a mint leaves: an active account of the token's version and role. -/
theorem account_issued (hs : s.backend.Sound) {u : UserId} {t : LoginResponse} {e : AppEvent}
    (h : e.Issues P s u t) :
    ∃ (acc acc' : Account) (now : Time) (draws : ℕ), t = acc.issue P.env now draws ∧
      acc.user.id = u ∧ (s.after P e).world.account u = some acc' ∧
      acc'.session.accessTokenVersion = acc.session.accessTokenVersion ∧
      acc'.user.isActive = true ∧ (s.after P e).world.role? u = some acc.user.role := by
  obtain ⟨req, r, s', rfl, hauth, hissues, hafter⟩ := issues_performs h
  have hs' := hauth.sound hs
  obtain ⟨acc, acc', hacc, hacc', ht, hstatus, hsession, huser, -⟩ :=
    hs'.school.world.issues hissues
  have hactive : acc.user.isActive = true :=
    (hs'.school.world.accounts u acc hacc).isActive.mpr hstatus
  have hworld : (s.after P (.http req)).world = s'.world.after P.env (.request r) := by
    rw [world, hafter]
    rfl
  refine ⟨acc, acc', s'.world.clock, s'.world.draws, ht, World.account_id hacc, ?_, ?_, ?_, ?_⟩
  · rw [hworld]
    exact hacc'
  · rw [hsession]
    rfl
  · rw [huser]
    exact hactive
  · rw [hworld, World.role?_of_account hacc', huser]

end App

/-! ### The law -/

/-- No token is presented that decodes and has not been handed out. -/
def App.Unforged (P : Platform) (s₀ : App) (events : List AppEvent) (req : HttpRequest) : Prop :=
  ∀ token, P.bearer.token req = some token → (P.env.jose.decode token).isSome = true →
    s₀.HandedOut P events token

/-- After the events the request bears an unexpired access token that an answer has handed out to
the user and that nothing has revoked since; the role is that of the table. -/
def App.Bears (P : Platform) (s₀ : App) (events : List AppEvent) (req : HttpRequest)
    (user : CurrentUser) : Prop :=
  ∃ before mint after t claims, events = before ++ mint :: after ∧
    AppEvent.Issues P (s₀.run P before) user.id t mint ∧
    P.bearer.token req = some t.accessToken ∧
    P.env.jose.decode t.accessToken = some claims ∧
    (s₀.run P events).now.timegm ≤ claims.exp ∧
    Run.Throughout (App.after P) (fun s e => ¬ e.Revokes P s user.id)
      (s₀.run P (before ++ [mint])) after ∧
    (s₀.run P events).world.role? user.id = some user.role

/-- **`get_current_user` returns exactly the user whose token the request bears.** -/
theorem App.currentUser_iff_bears {s₀ : App} (h₀ : s₀.backend.school.Seeded)
    {events : List AppEvent} {user : CurrentUser} (hunforged : s₀.Unforged P events req) :
    ((s₀.run P events).currentUser P req).1 = .ok user ↔ s₀.Bears P events req user := by
  have hsound₀ : s₀.backend.Sound := ⟨h₀.sound, h₀.world.detailsByRole⟩
  rw [App.currentUser_ok_iff (App.sound_run hsound₀ P events)]
  constructor
  · rintro ⟨token, accEnd, htoken, hsubject, haccEnd, hactiveEnd⟩
    obtain ⟨claims, hdecode, hexp, htype, hsub, hversion, hclaim⟩ :=
      accessTokenSubject_eq_ok.mp hsubject
    obtain ⟨before, mint, after, u, t, hevents, hissues, heq⟩ :=
      hunforged token htoken (by rw [hdecode]; rfl)
    have hs := App.sound_run hsound₀ P before
    obtain ⟨acc, acc', now, draws, ht, hid, hacc', hsame, hactive, hrole'⟩ :=
      App.account_issued hs hissues
    rcases heq with heq | heq
    · -- The access token of the answer.
      have hclaims : claims = accessClaims P.env now acc.user.id acc.user.role
          acc.session.accessTokenVersion := by
        rw [heq, ht] at hdecode
        simp only [Account.issue, createAccessToken, P.env.jose.decode_encode,
          Option.some.injEq] at hdecode
        exact hdecode.symm
      have huser : u = user.id := by
        rw [hclaims] at hsub
        rw [← hid]
        exact Option.some.inj hsub
      subst huser
      have hstays := App.role?_run (App.sound_after hs P mint) P after hrole'
      rw [hevents, App.run_around] at haccEnd
      refine ⟨before, mint, after, t, claims, hevents, hissues, by rw [htoken, heq],
        by rw [← heq, hdecode], ?_, ?_, ?_⟩
      · exact hexp
      · show Run.Throughout _ _ (Run.run (App.after P) s₀ (before ++ [mint])) after
        rw [Run.run_concat]
        refine (App.version_iff (App.sound_after hs P mint) hacc' hactive after).mp
          ⟨accEnd, haccEnd, ?_, hactiveEnd⟩
        rw [hclaims] at hversion
        rw [hsame]
        exact (Option.some.inj hversion).symm
      · rw [hevents, App.run_around, hstays]
        rw [hclaims] at hclaim
        exact hclaim
    · -- The refresh token of the answer is of the other type.
      rw [heq, ht] at hdecode
      simp only [Account.issue, createRefreshToken, P.env.jose.decode_encode,
        Option.some.injEq] at hdecode
      rw [← hdecode] at htype
      have hne : "refresh" ≠ "access" := by decide
      exact absurd htype hne
  · rintro ⟨before, mint, after, t, claims, hevents, hissues, htoken, hclaims, hexp, hkept, hrole⟩
    have hs := App.sound_run hsound₀ P before
    obtain ⟨acc, acc', now, draws, rfl, hid, hacc', hsame, hactive, hrole'⟩ :=
      App.account_issued hs hissues
    have hkept' : Run.Throughout (App.after P) (fun s e => ¬ e.Revokes P s user.id)
        ((s₀.run P before).after P mint) after := by
      have hmint : s₀.run P (before ++ [mint]) = (s₀.run P before).after P mint :=
        Run.run_concat s₀ before mint
      rw [← hmint]
      exact hkept
    obtain ⟨accEnd, haccEnd, hversion, hactiveEnd⟩ :=
      (App.version_iff (App.sound_after hs P mint) hacc' hactive after).mpr hkept'
    have hstays := App.role?_run (App.sound_after hs P mint) P after hrole'
    have hrun : s₀.run P events = ((s₀.run P before).after P mint).run P after := by
      rw [hevents, App.run_around]
    rw [← hrun] at haccEnd hstays
    have huserRole : acc.user.role = user.role := Option.some.inj (hstays.symm.trans hrole)
    refine ⟨_, accEnd, htoken, ?_, haccEnd, hactiveEnd⟩
    rw [accessTokenSubject_issue hclaims hexp, hid, huserRole, hversion, hsame]

/-- **A guarded operation lets in exactly the bearer of an unexpired access token that an earlier
answer has handed out to an account of one of its roles and that nothing has revoked since**: if
no one presents a token that decodes and has not been handed out, then the role in the token,
which is all the guard looks at, is the one in the table. -/
theorem requireRoles_ok_iff (P : Platform) (s₀ : App) (h₀ : s₀.backend.school.Seeded)
    (events : List AppEvent) (req : HttpRequest) (roles : List UserRole) (user : CurrentUser)
    (hunforged : s₀.Unforged P events req) :
    ((s₀.run P events).solve P req (.requireRoles roles)).1 = .ok user ↔
      s₀.Bears P events req user ∧ user.role ∈ roles := by
  rw [App.solve_requireRoles_ok_iff, App.currentUser_iff_bears h₀ hunforged]

/-- The login hands out the tokens. -/
theorem loginPrincipal_issues :
    AppEvent.Issues .concrete App.concrete 1 tokensPrincipal (.http loginPrincipal) := by
  exact ⟨by decide +kernel, by decide +kernel⟩

theorem token_createGroupPrincipal :
    Platform.concrete.bearer.token createGroupPrincipal = some tokensPrincipal.accessToken := by
  decide +kernel

theorem App.concrete_seeded : App.concrete.backend.school.Seeded := School.concrete_seeded

/-- The principal has logged in and creates a group. -/
theorem requireRoles_ok_concrete :
    ((App.concrete.run .concrete [.http loginPrincipal]).solve .concrete createGroupPrincipal
      (.requireRoles [.systemAdmin])).1 = .ok (⟨1, .systemAdmin⟩ : CurrentUser) := by
  refine (requireRoles_ok_iff .concrete App.concrete App.concrete_seeded [.http loginPrincipal]
    createGroupPrincipal [.systemAdmin] ⟨1, .systemAdmin⟩ ?_).mpr ?_
  · intro token htoken _
    rw [token_createGroupPrincipal] at htoken
    exact ⟨[], .http loginPrincipal, [], 1, tokensPrincipal, rfl, loginPrincipal_issues,
      Or.inl (Option.some.inj htoken).symm⟩
  · exact ⟨⟨[], .http loginPrincipal, [], tokensPrincipal,
      accessClaims .concrete 0 1 .systemAdmin 1, rfl, loginPrincipal_issues,
      token_createGroupPrincipal, by decide +kernel, by decide +kernel, trivial,
      by decide +kernel⟩, by decide⟩

end SmsLite
