import SmsLite.Rows.Passwords
import SmsLite.Secrets.Address

/-!
# The shape of a role

A student is registered with a date of birth, anybody else with neither a date of birth nor an
address.  An update is compared with the role of its target, but a null that it sends is assigned
like a value.

## Main definitions

* `User.Shaped` — the columns fit the role.
* `UpdateUserRequest.Updatable` — the guards of `update_user`.
* `Event.ClearsDateOfBirth` — a student is sent an update with a null date of birth.

## Main results

* `updateUser_ok_iff` — the guards decide.
* `Account.Step.shaped` — **only an update with a null date of birth breaks the shape**.
* `shaped_run_iff` — **every registered user keeps its shape all along a run exactly if no
  student is updated with a null date of birth**.
-/

namespace SmsLite

open Interleave
open Interleave.Prog (Ends ends_map)

variable {env : Env} {w : World}

/-- A student has a date of birth; anybody else has neither a date of birth nor an address. -/
structure User.Shaped (u : User) : Prop where
  student : u.role = .student → u.dateOfBirth ≠ none
  other : u.role ≠ .student → u.dateOfBirth = none ∧ u.address = none

/-- The shape is a matter of three columns. -/
theorem User.Shaped.congr {u v : User} (h : u.Shaped) (hrole : v.role = u.role)
    (hbirth : v.dateOfBirth = u.dateOfBirth) (haddress : v.address = u.address) : v.Shaped := by
  constructor
  · intro hstudent
    rw [hbirth]
    exact h.student (hrole.symm.trans hstudent)
  · intro hother
    rw [hbirth, haddress]
    exact h.other (hrole ▸ hother)

/-- A registration gives every role its shape. -/
theorem CreateUserRequest.newUser_shaped (r : CreateUserRequest) (currentUserId id : UserId)
    (now : Time) : User.Shaped { r.newUser currentUserId id with createdAt := now } := by
  cases r with
  | teacher base =>
    constructor
    · intro hstudent
      cases hstudent
    · exact fun _ => ⟨rfl, rfl⟩
  | student base dateOfBirth address =>
    constructor
    · intro _ hnone
      cases hnone
    · exact fun hother => absurd rfl hother

/-! ### Updates -/

/-- The guards of `update_user`. -/
structure UpdateUserRequest.Updatable (r : UpdateUserRequest) (db : Db) (u : User) : Prop where
  role : u.role ≠ .systemAdmin
  kind : decide (u.role = .student) = r.isStudentShaped
  room : u.role = .student → (r.newPhoneNumber u).isSome = true →
    db.HasRoom (some .student) studentMaxSharedContact ((r.newPhoneNumber u).map (·.text)) none
      (some u.id)
  row : ∃ v : User, v.draft = r.assign u.draft ∧ v ≠ u ∧ db.checkUser (some u) v = none

/-- `update_user` of an existing user succeeds exactly if its guards hold. -/
theorem updateUser_ok_iff (hs : w.Sound) {u : UserId} {acc : Account}
    (hacc : w.account u = some acc) {r : UpdateUserRequest} :
    (∃ response, w.respond env (.updateUser u r) = .ok response) ↔ r.Updatable w.db acc.user := by
  obtain rfl := World.account_id hacc
  change Ends (exec env) ((fun _ => Response.none) <$> updateUser env acc.user.id r)
    (fun out _ => (∃ response, out = .ok response) ↔ r.Updatable w.db acc.user) w
  rw [ends_map]
  unfold updateUser
  rw [ends_getUserById]
  by_cases hrole : acc.user.role = .systemAdmin
  · have hnone : w.db.selectUserById acc.user.id { excludedRoles := systemAdminInvisibleRoles } =
        none := by
      simp [Db.selectUserById, World.account_user hacc, Option.filter, UserQuery.admits, hrole,
        systemAdminInvisibleRoles]
    rw [hnone]
    exact not_ok_error fun h => h.role hrole
  · rw [World.selectUserById_of_account hacc (by
      simpa [UserQuery.admits, systemAdminInvisibleRoles] using hrole), ensureExists_some]
    simp only [Account.loaded_user]
    refine ends_ite (fun hkind => not_ok_error fun h => hkind h.kind) fun hkind => ?_
    refine ends_checkStudentContact (fun hroom => ?_) fun hfull _ _ => not_ok_error fun h => ?_
    · have hroom' : acc.user.role = .student → (r.newPhoneNumber acc.user).isSome = true →
          w.db.HasRoom (some .student) studentMaxSharedContact
            ((r.newPhoneNumber acc.user).map (·.text)) none (some acc.user.id) :=
        fun hstudent hnew => hroom (Bool.and_eq_true_iff.mpr ⟨decide_eq_true hstudent, hnew⟩)
      refine ends_updateObject (fun hchanged => ?_) fun hsame _ _ => not_ok_error fun h => ?_
      · have hiff : (∃ db', w.db.commit w.clock
            (.update (acc.loaded w.db { excludedRoles := systemAdminInvisibleRoles })
              { (acc.loaded w.db { excludedRoles := systemAdminInvisibleRoles }).dirty with
                user := r.assign acc.user.draft } []) = .ok db') ↔ r.Updatable w.db acc.user := by
          rw [Db.commit_overridden_ok_iff (by simp)]
          constructor
          · rintro ⟨⟨user, hdraft, hcheck⟩, -⟩
            refine ⟨hrole, not_not.mp hkind, hroom', user, hdraft, ?_, hcheck⟩
            rintro rfl
            exact hchanged hdraft.symm
          · rintro ⟨-, -, -, user, hdraft, -, hcheck⟩
            exact ⟨⟨user, hdraft, hcheck⟩, fun e he => absurd he List.not_mem_nil⟩
        refine ends_tryCommit_iff hiff (fun _ => rfl) (fun h db' hcommit => ?_)
          fun h x => not_ok_error h
        obtain ⟨user, -, -, hmoved⟩ := hs.toCoherent.commit_update hacc
          ⟨by cases r <;> rfl, by cases r <;> rfl, by simp, by simp, by simp⟩ hcommit
        exact (ends_refresh hmoved (by rfl) _).mpr (iff_of_true ⟨_, rfl⟩ h)
      · obtain ⟨user, hdraft, hne, -⟩ := h.row
        exact hne (User.draft_injective (hdraft.trans hsame))
    · refine hfull fun happlies => ?_
      obtain ⟨hstudent, hnew⟩ := Bool.and_eq_true_iff.mp happlies
      exact h.room (of_decide_eq_true hstudent) hnew

/-- The request sends a null date of birth. -/
def UpdateUserRequest.ClearsDateOfBirth (r : UpdateUserRequest) : Prop :=
  ∃ base address, r = .student base .null address

/-- What an update leaves of a shape. -/
theorem UpdateUserRequest.assign_shaped {r : UpdateUserRequest} {u v : User} (h : u.Shaped)
    (hkind : decide (u.role = .student) = r.isStudentShaped) (hdraft : v.draft = r.assign u.draft) :
    v.Shaped ∨ (u.role = .student ∧ r.ClearsDateOfBirth) := by
  have hrole : v.role = u.role := (Account.assign_eq hdraft).2.2.2.2.1
  have hbirth := congrArg UserColumns.dateOfBirth hdraft
  have haddress := congrArg UserColumns.address hdraft
  cases r with
  | teacher base => exact Or.inl (h.congr hrole hbirth haddress)
  | student base dateOfBirth address =>
    have hstudent : u.role = .student := of_decide_eq_true hkind
    have hother : v.role ≠ .student → v.dateOfBirth = none ∧ v.address = none :=
      fun hne => absurd (hrole.trans hstudent) hne
    cases dateOfBirth with
    | null => exact Or.inr ⟨hstudent, base, address, rfl⟩
    | unset =>
      refine Or.inl ⟨fun _ => ?_, hother⟩
      show v.dateOfBirth ≠ none
      rw [show v.dateOfBirth = u.dateOfBirth from hbirth]
      exact h.student hstudent
    | set date =>
      refine Or.inl ⟨fun _ => ?_, hother⟩
      rw [show v.dateOfBirth = some date from hbirth]
      exact Option.some_ne_none date

/-- Credentials are no matter of the shape. -/
theorem UpdateUserCredentials.assign_shaped {r : UpdateUserCredentials} {u v : User}
    (h : u.Shaped) (hdraft : v.draft = r.assign u.draft) : v.Shaped := by
  have hrole := congrArg UserColumns.role hdraft
  have hbirth := congrArg UserColumns.dateOfBirth hdraft
  have haddress := congrArg UserColumns.address hdraft
  exact h.congr hrole hbirth haddress

/-- A null date of birth is assigned. -/
theorem UpdateUserRequest.ClearsDateOfBirth.assign {r : UpdateUserRequest} {u v : User}
    (h : r.ClearsDateOfBirth) (hdraft : v.draft = r.assign u.draft) : v.dateOfBirth = none := by
  obtain ⟨base, address, rfl⟩ := h
  exact congrArg UserColumns.dateOfBirth hdraft

/-! ### Events -/

/-- **Only an update with a null date of birth breaks the shape.** -/
theorem Account.Step.shaped {now : Time} {draws draws' : ℕ} {r : Request} {out : Outcome}
    {acc acc' : Account} (h : acc.Step env now draws r out acc' draws')
    (hshaped : acc.user.Shaped) :
    acc'.user.Shaped ∨
      ∃ q, r = .updateUser acc.user.id q ∧ acc.user.role = .student ∧ q.ClearsDateOfBirth ∧
        ∃ response, out = .ok response := by
  cases h with
  | updateUser _ q user hrole hkind huser =>
    rcases UpdateUserRequest.assign_shaped hshaped hkind huser with hkept | ⟨hstudent, hclears⟩
    · exact Or.inl hkept
    · exact Or.inr ⟨q, rfl, hstudent, hclears, _, rfl⟩
  | updateUserCredentials _ _ _ _ _ huser | updatePendingCredentials _ _ _ _ _ huser =>
    exact Or.inl (UpdateUserCredentials.assign_shaped hshaped huser)
  | _ => exact Or.inl (hshaped.congr rfl rfl rfl)

/-- No step gives an account another id. -/
theorem Account.Step.user_id {now : Time} {draws draws' : ℕ} {r : Request} {out : Outcome}
    {acc acc' : Account} (h : acc.Step env now draws r out acc' draws') :
    acc'.user.id = acc.user.id := by
  cases h with
  | updateUser _ _ _ _ _ huser => exact (Account.assign_eq huser).1
  | updateUserCredentials _ _ _ _ _ huser | updatePendingCredentials _ _ _ _ _ huser =>
    exact (Account.assign_credentials_eq huser).1
  | _ => rfl

/-- A successful update assigns what it sends. -/
theorem Account.Step.updateUser_draft {now : Time} {draws draws' : ℕ} {u : UserId}
    {q : UpdateUserRequest} {out : Outcome} {acc acc' : Account}
    (h : acc.Step env now draws (.updateUser u q) out acc' draws') :
    acc'.user.draft = q.assign acc.user.draft := by
  cases h with
  | updateUser _ _ _ _ _ huser => exact huser

/-- The users that are not among the given ones have the shape of their role. -/
def World.Shaped (seeded : List UserId) (w : World) : Prop :=
  ∀ u ∈ w.db.users, u.id ∈ seeded ∨ u.Shaped

/-- A student that is not among the given users is updated with a null date of birth. -/
def Event.ClearsDateOfBirth (seeded : List UserId) (w : World) (e : Event) : Prop :=
  ∃ u ∈ w.db.users, ∃ q, e = .request (.updateUser u.id q) ∧ u.id ∉ seeded ∧ u.role = .student ∧
    q.ClearsDateOfBirth ∧ q.Updatable w.db u

/-- **An event keeps the shapes exactly if it clears no date of birth.** -/
theorem World.Sound.shaped_after (hs : w.Sound) {seeded : List UserId} (h : w.Shaped seeded)
    (e : Event) : (w.after env e).Shaped seeded ↔ ¬ e.ClearsDateOfBirth seeded w := by
  constructor
  · rintro hafter ⟨u, hu, q, rfl, hnew, hstudent, hclears, hupdatable⟩
    obtain ⟨acc, hacc, rfl⟩ := hs.account_of_user hu
    obtain ⟨response, hout⟩ : ∃ response,
        w.respond env (.updateUser acc.user.id q) = .ok response :=
      (updateUser_ok_iff hs hacc).mpr hupdatable
    obtain ⟨acc', hstep, hacc', -⟩ :=
      hs.step_of_ok (r := .updateUser acc.user.id q) rfl rfl hacc hout
    have hdraft := hstep.updateUser_draft
    have hmem : acc'.user ∈ (w.after env (.request (.updateUser acc.user.id q))).db.users :=
      Keyed.mem_of_get? (World.account_user hacc')
    rcases hafter _ hmem with hseeded | hshaped
    · exact hnew (World.account_id hacc' ▸ hseeded)
    · have hrole : acc'.user.role = acc.user.role := (Account.assign_eq hdraft).2.2.2.2.1
      exact hshaped.student (hrole.trans hstudent) (hclears.assign hdraft)
  · intro hclears
    refine hs.forall_users_after h (fun currentUserId r id _ => ?_)
      fun r acc acc' he hacc hkept hstep => ?_
    · exact Or.inr (r.newUser_shaped currentUserId id w.clock)
    · rw [hstep.user_id]
      rcases hkept with hseeded | hshaped
      · exact Or.inl hseeded
      · rcases hstep.shaped hshaped with hshaped' | ⟨q, rfl, hstudent, hnull, hok⟩
        · exact Or.inr hshaped'
        · left
          by_contra hnew
          have hmem : acc.user ∈ w.db.users := Keyed.mem_of_get? (World.account_user hacc)
          exact hclears ⟨acc.user, hmem, q, he, hnew, hstudent, hnull,
            (updateUser_ok_iff hs hacc).mp hok⟩

/-- **Every registered user keeps its shape all along a run exactly if no student is updated with
a null date of birth.**  The users that were there at the start, whom nobody has registered, are
left out. -/
theorem shaped_run_iff (env : Env) (w₀ : World) (h₀ : w₀.Seeded) (events : List Event) :
    (∀ before after, events = before ++ after →
        (w₀.run env before).Shaped (Keyed.keys w₀.db.users)) ↔
      Run.Throughout (World.after env)
        (fun w e => ¬ e.ClearsDateOfBirth (Keyed.keys w₀.db.users) w) w₀ events := by
  have hstart : w₀.Shaped (Keyed.keys w₀.db.users) :=
    fun u hu => Or.inl (List.mem_map_of_mem hu)
  exact Run.invariant_iff (I := World.Shaped (Keyed.keys w₀.db.users)) (J := World.Sound)
    (fun _ e hs => hs.after env e) (fun _ e hs h => hs.shaped_after h e) h₀.sound hstart events

/-- An update of Grace's date of birth alone. -/
def updateGrace (dateOfBirth : Patch Date) : Event :=
  .request (.updateUser 3 (.student
    { firstname := .unset, lastname := .unset, middlename := .unset, phoneNumber := .unset }
    dateOfBirth .unset))

/-- Her date of birth is corrected. -/
theorem shaped_run_concrete :
    (World.concrete.run .concrete [registerHopper,
      updateGrace (.set { year := 2011, month := 12, day := 9 })]).Shaped [1, 2] := by
  refine (shaped_run_iff .concrete World.concrete World.concrete_seeded [registerHopper,
    updateGrace (.set { year := 2011, month := 12, day := 9 })]).mpr ⟨?_, ?_, trivial⟩ _ [] rfl
  · rintro ⟨u, -, q, he, -⟩
    cases he
  · rintro ⟨u, -, q, he, -, -, ⟨base, address, rfl⟩, -⟩
    simp [updateGrace] at he

/-- **A null date of birth leaves a student without one.** -/
theorem dateOfBirth_cleared :
    ¬ (World.concrete.run .concrete [registerHopper, updateGrace .null]).Shaped [1, 2] := by
  intro h
  have hcleared : ∃ u ∈ (World.concrete.run .concrete [registerHopper, updateGrace .null]).db.users,
      u.id = 3 ∧ u.role = .student ∧ u.dateOfBirth = none := by decide +kernel
  obtain ⟨u, hu, hid, hstudent, hnone⟩ := hcleared
  rcases h u hu with hseeded | hshaped
  · rw [hid] at hseeded
    exact absurd hseeded (by decide)
  · exact hshaped.student hstudent hnone

end SmsLite
