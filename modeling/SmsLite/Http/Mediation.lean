import SmsLite.Http.Access
import SmsLite.Outbox.Batches
import SmsLite.Refinement.SubjectService

/-!
# Who changes what

Every table is changed by the operations alone, and an operation runs only for the callers its
dependency lets in.  This module puts the two together: from a row that has changed it follows
who has asked for it.

## Main definitions

* `Operation.guard`, `Operation.caller?` — the dependency of the operation behind a service call,
  and the caller it is told of.
* `App.ByAdmin`, `App.Redeems` — the request comes from an administrator, or with a secret that
  has been mailed.

## Main results

* `Handler.operation_fits` — **no operation makes a call that another dependency guards**, and
  the caller it names is the one that has been let in.
* `changes_mediated` — **groups and subjects change for administrators only, a letter for them and
  the worker, and a user for an administrator, for itself, or for the holder of its secret**.
-/

namespace SmsLite

open Interleave

variable {P : Platform} {s s' : App} {req : HttpRequest}

/-! ### Guards -/

/-- The value of a dependency as a user. -/
def Dependency.user? : (d : Dependency) → d.Provides → Option CurrentUser
  | .nobody, _ => none
  | .currentUser, user => some user
  | .requireRoles _, user => some user

/-- The dependency in front of a request. -/
def Request.guard : Request → Dependency
  | login _ | activateAccount _ | refreshToken _ _ | resetPassword _
  | createForgotPasswordRequest _ | getCurrentUser _ => .nobody
  | logout _ | getMyProfile _ | updateMeCredentials _ _ | confirmEmailChange _ _
  | updateMePassword _ _ => .currentUser
  | getMyStudentProfile _ => requireStudent
  | registerUser _ _ | updateUser _ _ | updateUserCredentials _ _ _ | deactivateUser _
  | activateUser _ | createResetPasswordRequest _ _ | resendActivationInvite _ _
  | getTeacherByIdAdmin _ | getStudentByIdAdmin _ => requireSystemAdmin
  | getTeacherByIdDirector _ | getStudentByIdDirector _ => requireDirector

/-- The dependency in front of a call. -/
def Operation.guard : Operation → Dependency
  | .liveness | .readiness | .noRefreshToken => .nobody
  | .user r => r.guard
  | .group (.getGroupByIdDirector _) | .listGroups _ (.getGroupsDirector ..)
  | .subject (.getSubjectByIdDirector _) | .listSubjects _ (.getSubjectsDirector ..)
  | .listUsers (.getTeachersDirector ..) | .listUsers (.getStudentsDirector ..) => requireDirector
  | .group _ | .subject _ | .listUsers _ | .listGroups .. | .listSubjects .. | .listEmails ..
  | .getEmailById _ | .retryFailedEmail _ => requireSystemAdmin

/-- The user a request is told to come from. -/
def Request.caller? : Request → Option UserId
  | logout id | registerUser id _ | updateUserCredentials id _ _
  | createResetPasswordRequest id _ | resendActivationInvite id _ | getMyProfile id
  | getMyStudentProfile id | updateMeCredentials id _ | confirmEmailChange id _
  | updateMePassword id _ => some id
  | _ => none

/-- The user a call is told to come from. -/
def Operation.caller? : Operation → Option UserId
  | .user r => r.caller?
  | _ => none

/-- The call stands behind the dependency of the operation, and names the user it provides. -/
structure Operation.Fits (operation : Operation) (d : Dependency) (provided : d.Provides) :
    Prop where
  guard : d = operation.guard
  caller : ∀ id, operation.caller? = some id → ∃ user, d.user? provided = some user ∧ user.id = id

/-- **No operation makes a call that another dependency guards**, and the caller it names is the
one that has been let in. -/
theorem Handler.operation_fits {now : Time} {parameters : List String} {h : Handler}
    {provided : h.dependency.Provides} {operation : Operation}
    (hop : h.operation P now req parameters provided = .ok operation) :
    operation.Fits h.dependency provided := by
  cases h with
  | liveness | readiness =>
    cases hop
    exact ⟨rfl, by intro id h; cases h⟩
  | logout | getMyProfile | getMyStudentProfile =>
    cases hop
    exact ⟨rfl, by intro id h; cases h; exact ⟨provided, rfl, rfl⟩⟩
  | refreshToken =>
    unfold Handler.operation at hop
    dsimp only at hop
    split at hop
    · cases hop
      exact ⟨rfl, by intro id h; cases h⟩
    · cases hop
      exact ⟨rfl, by intro id h; cases h⟩
  | updateMeCredentials | confirmEmailChange | updateMePassword | registerUser
  | createResetPasswordRequest | resendActivationInvite =>
    obtain ⟨_, -, rfl⟩ := Validated.map_eq_ok.mp hop
    exact ⟨rfl, by intro id h; cases h; exact ⟨provided, rfl, rfl⟩⟩
  | updateUserCredentials =>
    obtain ⟨_, _, hfirst, -, rfl⟩ := Validated.seq_eq_ok.mp hop
    obtain ⟨_, -, rfl⟩ := Validated.map_eq_ok.mp hfirst
    exact ⟨rfl, by intro id h; cases h; exact ⟨provided, rfl, rfl⟩⟩
  | updateUser | getStudentsAdmin | getStudentsDirector | updateSubject | updateGroup =>
    obtain ⟨_, _, hfirst, -, rfl⟩ := Validated.seq_eq_ok.mp hop
    obtain ⟨_, -, rfl⟩ := Validated.map_eq_ok.mp hfirst
    exact ⟨rfl, by intro id h; cases h⟩
  | _ =>
    obtain ⟨_, -, rfl⟩ := Validated.map_eq_ok.mp hop
    exact ⟨rfl, by intro id h; cases h⟩

/-- Who has been let in is the caller of the request. -/
theorem App.currentUser_of_solve {d : Dependency} {provided : d.Provides} {user : CurrentUser}
    (h : (s.solve P req d).1 = .ok provided) (huser : d.user? provided = some user) :
    (s.currentUser P req).1 = .ok user := by
  cases d with
  | nobody => cases huser
  | currentUser =>
    cases huser
    exact h
  | requireRoles roles =>
    cases huser
    exact (App.solve_requireRoles_ok_iff.mp h).1

/-- A guard lets in a caller of one of its roles. -/
theorem App.currentUser_of_guard {d : Dependency} {provided : d.Provides} {roles : List UserRole}
    (h : (s.solve P req d).1 = .ok provided) (hd : d = .requireRoles roles) :
    ∃ user, (s.currentUser P req).1 = .ok user ∧ user.role ∈ roles := by
  subst hd
  exact ⟨provided, App.solve_requireRoles_ok_iff.mp h⟩

/-- The call of an operation stands behind its dependency. -/
theorem App.Performs.fits {h : Handler} {provided : h.dependency.Provides} {operation : Operation}
    (hp : s.Performs P req h provided operation s') : operation.Fits h.dependency provided := by
  obtain ⟨parameters, -, hoperation⟩ := hp.routed
  exact Handler.operation_fits hoperation

/-- A call behind a guard comes from a caller of one of its roles. -/
theorem App.Performs.guarded {h : Handler} {provided : h.dependency.Provides}
    {operation : Operation} {roles : List UserRole}
    (hp : s.Performs P req h provided operation s')
    (hguard : operation.guard = .requireRoles roles) :
    ∃ user, (s.currentUser P req).1 = .ok user ∧ user.role ∈ roles :=
  App.currentUser_of_guard hp.solved (hp.fits.guard.trans hguard)

/-- A call that names its caller comes from that caller. -/
theorem App.Performs.caller {h : Handler} {provided : h.dependency.Provides}
    {operation : Operation} {id : UserId} (hp : s.Performs P req h provided operation s')
    (hcaller : operation.caller? = some id) :
    ∃ user, (s.currentUser P req).1 = .ok user ∧ user.id = id := by
  obtain ⟨user, huser, hid⟩ := hp.fits.caller id hcaller
  exact ⟨user, App.currentUser_of_solve hp.solved huser, hid⟩

/-! ### Users -/

/-- The requests of a user about its own row. -/
def Request.self? : Request → Option UserId
  | updateMeCredentials id _ | confirmEmailChange id _ | updateMePassword id _ => some id
  | _ => none

/-- The request carries a secret that has been mailed for the account and is still good. -/
def Account.Redeems (env : Env) (now : Time) (acc : Account) : Request → Prop
  | .activateAccount r =>
    r.username = acc.user.username ∧ acc.AcceptsInvite env now r.inviteToken
  | .resetPassword r =>
    r.username = acc.user.username ∧
      acc.session.resetPasswordTokenHash = some (env.sha256 r.resetToken) ∧
      ∃ expiresAt, acc.session.resetPasswordTokenExpiresAt = some expiresAt ∧ now ≤ expiresAt
  | _ => False

/-- Whose request writes the row of a user. -/
theorem Account.Step.user_cases {env : Env} {now : Time} {draws draws' : ℕ} {r : Request}
    {out : Outcome} {acc acc' : Account} (h : acc.Step env now draws r out acc' draws') :
    acc'.user = acc.user ∨ (r.isUserServiceAdmin = true ∧ acc.user.role ≠ .systemAdmin) ∨
      r.self? = some acc.user.id ∨ acc.Redeems env now r := by
  have hadmin := h.not_admin
  cases h with
  | loginFailed | login | logout | refreshToken | violation | forgotPassword | getCurrentUser =>
    exact Or.inl rfl
  | activateAccount _ _ hname haccepts => exact Or.inr (Or.inr (Or.inr ⟨hname, haccepts⟩))
  | resetPassword _ _ expiresAt hname hhash hexpires hnow =>
    exact Or.inr (Or.inr (Or.inr ⟨hname, hhash, expiresAt, hexpires, hnow⟩))
  | updateUser | updateUserCredentials | updatePendingCredentials | deactivateUser | activateUser
  | createResetPasswordRequest | resendActivationInvite =>
    exact Or.inr (Or.inl ⟨rfl, hadmin rfl⟩)
  | renameMe | requestEmailChange | renameMeAndRequestEmailChange | confirmEmailChange
  | updateMePassword => exact Or.inr (Or.inr (Or.inl rfl))

/-- **Whose request writes the row of a user**, or adds it. -/
theorem World.Sound.user_after {w : World} (hs : w.Sound) (env : Env) (r : Request) (u : UserId) :
    Keyed.get? (w.after env (.request r)).db.users u = Keyed.get? w.db.users u ∨
      (r.isUserServiceAdmin = true ∧ w.role? u ≠ some .systemAdmin) ∨ r.self? = some u ∨
      ∃ acc, w.account u = some acc ∧ acc.Redeems env w.clock r := by
  have hc := hs.toCoherent
  have hc' := (hs.after env (.request r)).toCoherent
  rw [hc.get?_users, hc'.get?_users]
  cases hacc : w.account u with
  | some acc =>
    obtain ⟨acc', hacc', hevolves⟩ := hs.evolves env hacc (.request r)
    rw [hacc', World.role?_of_account hacc]
    cases hevolves with
    | stays => exact Or.inl rfl
    | steps _ _ htarget hstep =>
      rcases hstep.user_cases with hsame | ⟨hadmin, hrole⟩ | hself | hredeems
      · exact Or.inl (congrArg some hsame)
      · exact Or.inr (Or.inl ⟨hadmin, by intro h; exact hrole (Option.some.inj h)⟩)
      · rw [World.account_id hacc] at hself
        exact Or.inr (Or.inr (Or.inl hself))
      · exact Or.inr (Or.inr (Or.inr ⟨acc, rfl, hredeems⟩))
  | none =>
    rcases hs.role?_after env (.request r) u with hsame | ⟨hnone, id, q, heq, -⟩
    · left
      rw [hc.role?_eq, hc'.role?_eq, hacc] at hsame
      have hnone : (w.after env (.request r)).account u = none := by
        cases hafter : (w.after env (.request r)).account u with
        | none => rfl
        | some acc' =>
          rw [hafter] at hsame
          cases hsame
      rw [hnone]
    · cases heq
      refine Or.inr (Or.inl ⟨rfl, ?_⟩)
      rw [hnone]
      intro h
      cases h

/-! ### Tables -/

/-- The user services leave the groups. -/
theorem World.Sound.groups_after {w : World} (hs : w.Sound) (env : Env) (e : Event) :
    (w.after env e).db.groups = w.db.groups := by
  cases e with
  | outside o =>
    have hdb : (w.after env (.outside o)).db = w.db := w.outside_db o
    rw [hdb]
  | request r =>
    cases (hs.serves env r).served with
    | quiet _ _ _ _ hleaves => exact hleaves.groups
    | moved _ _ _ _ _ _ _ hleaves => exact hleaves.groups
    | registered _ _ _ _ _ _ _ _ _ hleaves => exact hleaves.groups

/-- A group request that changes the table is an administrator's. -/
theorem GroupStore.rows_after (store : GroupStore) (r : GroupRequest) :
    (store.after r).rows = store.rows ∨ (Operation.group r).guard = requireSystemAdmin := by
  cases r with
  | getGroupByIdDirector groupId =>
    left
    have hserves := store.serves (.getGroupByIdDirector groupId)
    unfold GroupStore.after
    generalize store.serve (.getGroupByIdDirector groupId) = served at hserves
    cases hserves with
    | missing | hitStaff | missStaff => rfl
  | _ => exact Or.inr rfl

/-- A subject request that changes the table is an administrator's. -/
theorem SubjectStore.rows_after (store : SubjectStore) (r : SubjectRequest) :
    (store.after r).rows = store.rows ∨ (Operation.subject r).guard = requireSystemAdmin := by
  cases r with
  | getSubjectByIdDirector subjectId =>
    left
    have hserves := store.serves (.getSubjectByIdDirector subjectId)
    unfold SubjectStore.after
    generalize store.serve (.getSubjectByIdDirector subjectId) = served at hserves
    cases hserves with
    | missing | hitStaff | missStaff => rfl
  | _ => exact Or.inr rfl

/-- The authentication leaves groups, subjects and users, and posts nothing that takes a letter
back. -/
structure App.SameRows (s s' : App) : Prop where
  groups : s'.world.db.groups = s.world.db.groups
  subjects : s'.backend.subjects.rows = s.backend.subjects.rows
  users : ∀ u, Keyed.get? s'.world.db.users u = Keyed.get? s.world.db.users u
  outbox : ∃ rows, s'.outbox.rows = s.outbox.rows ++ rows

theorem App.SameRows.of_eq (hbackend : s'.backend = s.backend) (houtbox : s'.outbox = s.outbox) :
    s.SameRows s' := by
  refine ⟨?_, ?_, fun u => ?_, [], ?_⟩
  · rw [App.world, hbackend]
  · rw [hbackend]
  · rw [App.world, hbackend]
  · rw [houtbox, List.append_nil]

theorem App.Authenticated.sameRows (h : s.Authenticated P req s') (hs : s.backend.Sound) :
    s.SameRows s' := by
  rcases h with ⟨hbackend, houtbox⟩ | ⟨token, -, hbackend, houtbox⟩
  · exact .of_eq hbackend houtbox
  · have hworld : s'.world = s.world.after P.env (.request (.getCurrentUser token)) := by
      rw [App.world, hbackend]
      rfl
    refine ⟨?_, ?_, fun u => ?_, ?_⟩
    · rw [hworld]
      exact hs.school.world.groups_after P.env _
    · rw [hbackend]
      rfl
    · rw [hworld]
      rcases hs.school.world.user_after P.env (.getCurrentUser token) u with
        hsame | ⟨hadmin, -⟩ | hself | ⟨acc, -, hredeems⟩
      · exact hsame
      · cases hadmin
      · cases hself
      · exact absurd hredeems id
    · rw [houtbox]
      exact ⟨_, rfl⟩

/-! ### Mediation -/

/-- The request bears a token of an administrator. -/
def App.ByAdmin (P : Platform) (s₀ : App) (events : List AppEvent) (req : HttpRequest) : Prop :=
  ∃ admin, s₀.Bears P events req admin ∧ admin.role = .systemAdmin

/-- The request carries a secret that has been mailed for the user, to the operation that takes
it. -/
def App.Redeems (P : Platform) (s : App) (req : HttpRequest) (u : UserId) : Prop :=
  ∃ (h : Handler) (provided : h.dependency.Provides) (r : Request) (s' : App) (acc : Account),
    s.Performs P req h provided (.user r) s' ∧ s'.world.account u = some acc ∧
      acc.Redeems P.env s'.now r

/-- Who has asked for the changes of an event. -/
structure AppEvent.Mediated (P : Platform) (s₀ : App) (events : List AppEvent) (e : AppEvent)
    (s s' : App) : Prop where
  groups : s'.world.db.groups ≠ s.world.db.groups →
    ∃ req, e = .http req ∧ s₀.ByAdmin P events req
  subjects : s'.backend.subjects.rows ≠ s.backend.subjects.rows →
    ∃ req, e = .http req ∧ s₀.ByAdmin P events req
  /-- A letter that is not merely added. -/
  outbox : (¬ ∃ rows, s'.outbox.rows = s.outbox.rows ++ rows) →
    e = .processBatch ∨ ∃ req, e = .http req ∧ s₀.ByAdmin P events req
  users : ∀ u, Keyed.get? s'.world.db.users u ≠ Keyed.get? s.world.db.users u →
    ∃ req, e = .http req ∧
      (s₀.ByAdmin P events req ∧ s.world.role? u ≠ some .systemAdmin ∨
        (∃ user, s₀.Bears P events req user ∧ user.id = u) ∨ (s₀.run P events).Redeems P req u)

/-- Nothing has to be asked for where nothing changes. -/
theorem AppEvent.Mediated.of_sameRows {s₀ : App} {events : List AppEvent} {e : AppEvent}
    (h : s.SameRows s') : e.Mediated P s₀ events s s' :=
  ⟨fun hne => absurd h.groups hne, fun hne => absurd h.subjects hne,
    fun hno => absurd h.outbox hno, fun u hne => absurd (h.users u) hne⟩

/-- What an event does after a step that changes no row is what both do. -/
theorem AppEvent.Mediated.after {s₀ t : App} {events : List AppEvent} {e : AppEvent}
    (hsame : s.SameRows s') (h : e.Mediated P s₀ events s' t) :
    e.Mediated P s₀ events s t := by
  obtain ⟨rows, hrows⟩ := hsame.outbox
  refine ⟨fun hne => ?_, fun hne => ?_, fun hno => ?_, fun u hne => ?_⟩
  · exact h.groups (by rw [hsame.groups]; exact hne)
  · exact h.subjects (by rw [hsame.subjects]; exact hne)
  · refine h.outbox ?_
    rintro ⟨rows', hrows'⟩
    exact hno ⟨rows ++ rows', by rw [hrows', hrows, List.append_assoc]⟩
  · obtain ⟨req, heq, hcases⟩ := h.users u (by rw [hsame.users u]; exact hne)
    refine ⟨req, heq, ?_⟩
    rcases hcases with ⟨hadmin, hrole⟩ | hself | hholder
    · refine Or.inl ⟨hadmin, ?_⟩
      rw [World.role?, ← hsame.users u]
      exact hrole
    · exact Or.inr (Or.inl hself)
    · exact Or.inr (Or.inr hholder)

/-- What happens outside the application changes no row. -/
theorem App.sameRows_outside (P : Platform) (s : App) (o : Outside) :
    s.SameRows (s.call P (.school (.user (.outside o)))) := by
  have hdb : (s.call P (.school (.user (.outside o)))).world.db = s.world.db := s.world.outside_db o
  refine ⟨?_, rfl, fun u => ?_, _, rfl⟩
  · rw [hdb]
  · rw [hdb]

/-- A program over the outbox leaves groups, subjects and users. -/
theorem App.sameRows_callOutbox {α : Type} (P : Platform) (s : App) (p : OutboxProg α)
    (hrows : (p.run (OutboxStmt.exec P.provider) { s.outbox with clock := s.now }).2.rows =
      s.outbox.rows) : s.SameRows (s.callOutbox P p).2 := by
  have hdb : (s.callOutbox P p).2.world.db = s.world.db := s.world.outside_db _
  refine ⟨?_, rfl, fun u => ?_, [], ?_⟩
  · rw [hdb]
  · rw [hdb]
  · rw [List.append_nil]
    exact hrows

theorem App.callOutbox_db {α : Type} (P : Platform) (s : App) (p : OutboxProg α) :
    (s.callOutbox P p).2.world.db = s.world.db := s.world.outside_db _

/-- A program over the outbox is mediated if the change of its rows is. -/
theorem AppEvent.Mediated.of_callOutbox {s₀ : App} {events : List AppEvent} {e : AppEvent}
    {α : Type} (p : OutboxProg α)
    (h : e = .processBatch ∨ ∃ req, e = .http req ∧ s₀.ByAdmin P events req) :
    e.Mediated P s₀ events s (s.callOutbox P p).2 := by
  have hdb := s.callOutbox_db P p
  refine ⟨fun hne => absurd ?_ hne, fun hne => absurd rfl hne, fun _ => h,
    fun u hne => absurd ?_ hne⟩
  · rw [hdb]
  · rw [hdb]

/-- What an operation does that has been let in. -/
theorem App.Performs.mediated {s₀ : App} {events : List AppEvent} {h : Handler}
    {provided : h.dependency.Provides} {operation : Operation}
    (h₀ : s₀.backend.school.Seeded) (hunforged : s₀.Unforged P events req)
    (hs' : s'.backend.Sound)
    (hp : (s₀.run P events).Performs P req h provided operation s') :
    AppEvent.Mediated P s₀ events (.http req) s' (s'.perform P h.statusCode operation).2 := by
  have hadmin : operation.guard = requireSystemAdmin →
      ∃ req', AppEvent.http req = .http req' ∧ s₀.ByAdmin P events req' := by
    intro hguard
    obtain ⟨user, huser, hrole⟩ := hp.guarded hguard
    exact ⟨req, rfl, user, (App.currentUser_iff_bears h₀ hunforged).mp huser,
      List.mem_singleton.mp hrole⟩
  cases operation with
  | user r =>
    refine ⟨fun hne => ?_, fun hne => absurd rfl hne, fun hno => absurd ⟨_, rfl⟩ hno,
      fun u hne => ⟨req, rfl, ?_⟩⟩
    · exact absurd (hs'.school.world.groups_after P.env (.request r)) hne
    · rcases hs'.school.world.user_after P.env r u with
        hsame | ⟨hservice, hrole⟩ | hself | ⟨acc, hacc, hredeems⟩
      · exact absurd hsame hne
      · have hguard : (Operation.user r).guard = requireSystemAdmin := by
          cases r <;> first | rfl | cases hservice
        obtain ⟨_, heq, hby⟩ := hadmin hguard
        cases heq
        exact Or.inl ⟨hby, hrole⟩
      · have hcaller : (Operation.user r).caller? = some u := by
          cases r <;> first | exact hself | cases hself
        obtain ⟨user, huser, hid⟩ := hp.caller hcaller
        exact Or.inr (Or.inl ⟨user, (App.currentUser_iff_bears h₀ hunforged).mp huser, hid⟩)
      · exact Or.inr (Or.inr ⟨h, provided, r, s', acc, hp, hacc, hredeems⟩)
  | group r =>
    refine ⟨fun hne => ?_, fun hne => absurd rfl hne, fun hno => absurd ⟨_, rfl⟩ hno,
      fun u hne => absurd rfl hne⟩
    rcases s'.backend.school.store.rows_after r with hsame | hguard
    · exact absurd hsame hne
    · exact hadmin hguard
  | subject r =>
    refine ⟨fun hne => absurd rfl hne, fun hne => ?_, fun hno => absurd ⟨_, rfl⟩ hno,
      fun u hne => absurd rfl hne⟩
    rcases SubjectStore.rows_after { s'.backend.subjects with clock := s'.now } r with
      hsame | hguard
    · exact absurd hsame hne
    · exact hadmin hguard
  | listUsers r => exact .of_sameRows ⟨rfl, rfl, fun u => rfl, _, rfl⟩
  | getEmailById emailId =>
    refine .of_sameRows (s'.sameRows_callOutbox P _ ?_)
    obtain ⟨cache, hcache⟩ :=
      Outbox.after_getEmailById P.provider { s'.outbox with clock := s'.now } emailId
    have hrows : (Outbox.after P.provider { s'.outbox with clock := s'.now }
        (.getEmailById emailId)).rows = s'.outbox.rows := by rw [hcache]
    exact hrows
  | retryFailedEmail emailId => exact .of_callOutbox _ (Or.inr (hadmin rfl))
  | liveness | readiness | noRefreshToken | listGroups | listSubjects | listEmails =>
    exact .of_sameRows (.of_eq rfl rfl)

/-- **Groups and subjects change for administrators only, a letter for them and the worker, and a
user for an administrator, for itself, or for the holder of its secret**: in every run in which
no one forges a token, and an administrator changes no other administrator. -/
theorem changes_mediated (P : Platform) (s₀ : App) (h₀ : s₀.backend.school.Seeded)
    (events : List AppEvent) (e : AppEvent)
    (hunforged : ∀ req, e = .http req → s₀.Unforged P events req) :
    e.Mediated P s₀ events (s₀.run P events) ((s₀.run P events).after P e) := by
  have hs : (s₀.run P events).backend.Sound :=
    App.sound_run ⟨h₀.sound, h₀.world.detailsByRole⟩ P events
  cases e with
  | http req =>
    rcases (s₀.run P events).handle_cases P req with
      ⟨h, provided, operation, s', hp, hhandle⟩ | ⟨-, -, hauth⟩
    · have hafter : (s₀.run P events).after P (.http req) =
          (s'.perform P h.statusCode operation).2 := congrArg Prod.snd hhandle
      rw [hafter]
      exact .after (hp.authenticated.sameRows hs)
        (hp.mediated h₀ (hunforged req rfl) (hp.authenticated.sound hs))
    · exact .of_sameRows (hauth.sameRows hs)
  | outside o => exact .of_sameRows (App.sameRows_outside P _ o)
  | expireGroup key => exact .of_sameRows ⟨rfl, rfl, fun u => rfl, _, rfl⟩
  | expireSubject key => exact .of_sameRows ⟨rfl, rfl, fun u => rfl, _, rfl⟩
  | expireEmail emailId =>
    exact .of_sameRows ⟨rfl, rfl, fun u => rfl, [], (List.append_nil _).symm⟩
  | processBatch => exact .of_callOutbox _ (Or.inl rfl)

/-- The principal deactivates the student. -/
def deactivateAda : HttpRequest :=
  { createGroupPrincipal with method := .patch, path := ["users", "2", "deactivation"], body := "" }

/-- The principal creates a group, and deactivates the student: there is one group more, the row of
the student is another, and it was an administrator, or the student herself. -/
theorem changes_mediated_concrete :
    (∃ req, AppEvent.http createGroupPrincipal = .http req ∧
      App.concrete.ByAdmin .concrete [.http loginPrincipal] req) ∧
    ∃ req, AppEvent.http deactivateAda = .http req ∧
      (App.concrete.ByAdmin .concrete [.http loginPrincipal] req ∧
          (App.concrete.run .concrete [.http loginPrincipal]).world.role? 2 ≠ some .systemAdmin ∨
        (∃ user, App.concrete.Bears .concrete [.http loginPrincipal] req user ∧ user.id = 2) ∨
        (App.concrete.run .concrete [.http loginPrincipal]).Redeems .concrete req 2) := by
  have hbearer : ∀ req, Platform.concrete.bearer.token req = some tokensPrincipal.accessToken →
      App.concrete.Unforged .concrete [.http loginPrincipal] req := by
    intro req htoken' token htoken _
    rw [htoken'] at htoken
    exact ⟨[], .http loginPrincipal, [], 1, tokensPrincipal, rfl, loginPrincipal_issues,
      Or.inl (Option.some.inj htoken).symm⟩
  constructor
  · refine (changes_mediated .concrete App.concrete App.concrete_seeded [.http loginPrincipal]
      (.http createGroupPrincipal) ?_).groups (by decide +kernel)
    rintro req ⟨⟩
    exact hbearer _ token_createGroupPrincipal
  · refine (changes_mediated .concrete App.concrete App.concrete_seeded [.http loginPrincipal]
      (.http deactivateAda) ?_).users 2 (by decide +kernel)
    rintro req ⟨⟩
    exact hbearer _ (by decide +kernel)

end SmsLite
