import SmsLite.Details.Currency
import SmsLite.Lifecycle

/-!
# Passwords of active accounts

`activate_account` sets a password together with the status, `activate_user` sets the status
alone.  An account that an administrator activates before its invite was accepted is active and
cannot be logged in to, and its invite is not sent again.

## Main definitions

* `World.ActiveHavePasswords` — every active account has a password.
* `Event.ActivatesUnset` — an administrator activates an account without a password.

## Main results

* `World.Sound.forall_users_after` — what registrations and steps keep of a user, an event
  keeps of all users.
* `Account.unset_locked_out` — **without a password nobody logs in**, and an active account is
  not invited again.
* `activeHavePasswords_run_iff` — **active accounts have passwords all along a run exactly if
  no administrator activates an account without one**.
-/

namespace SmsLite

open Interleave

variable {env : Env} {w : World}

/-! ### All users -/

/-- The users are those of the accounts. -/
theorem World.Sound.forall_users_iff (hs : w.Sound) {P : User → Prop} :
    (∀ u ∈ w.db.users, P u) ↔ ∀ id acc, w.account id = some acc → P acc.user := by
  constructor
  · intro h id acc hacc
    exact h _ (Keyed.mem_of_get? (World.account_user hacc))
  · intro h u hu
    obtain ⟨acc, hacc, rfl⟩ := hs.account_of_user hu
    exact h _ acc hacc

/-- **What registrations and steps keep of a user, an event keeps of all users.** -/
theorem World.Sound.forall_users_after (hs : w.Sound) {P : User → Prop} {e : Event}
    (h : ∀ u ∈ w.db.users, P u)
    (hnew : ∀ currentUserId r id, e = .request (.registerUser currentUserId r) →
      P { r.newUser currentUserId id with createdAt := w.clock })
    (hstep : ∀ r acc acc', e = .request r → w.account acc.user.id = some acc → P acc.user →
      acc.Step env w.clock w.draws r (w.respond env r) acc' (w.after env e).draws →
      P acc'.user) : ∀ u ∈ (w.after env e).db.users, P u := by
  rw [(hs.after env e).forall_users_iff]
  rw [hs.forall_users_iff] at h
  intro id acc' hacc'
  cases e with
  | outside o =>
    obtain ⟨acc, hacc, rfl | rfl⟩ := hs.toCoherent.account_of_outside hacc'
    · exact h id _ hacc
    · exact h id acc hacc
  | request r =>
    cases (hs.acts env r).effect with
    | quiet haccounts => exact h id acc' (haccounts id ▸ hacc')
    | moved id' acc acc₁ _ hacc hsteps hmoved =>
      by_cases hid : id = id'
      · subst hid
        obtain rfl : acc₁ = acc' := Option.some.inj (hmoved.account.symm.trans hacc')
        obtain rfl := World.account_id hacc
        exact hstep r acc acc₁ rfl hacc (h _ acc hacc) hsteps
      · exact h id acc' (hmoved.others id hid ▸ hacc')
    | registered currentUserId q user hr _ huser _ hmoved =>
      by_cases hid : id = user.id
      · subst hid
        obtain rfl := Option.some.inj (hmoved.account.symm.trans hacc')
        show P user
        rw [huser]
        exact hnew currentUserId q user.id (congrArg Event.request hr)
      · exact h id acc' (hmoved.others id hid ▸ hacc')

/-! ### Passwords -/

/-- The user is not active, or has a password. -/
def User.ActiveHasPassword (u : User) : Prop := u.status = .active → u.passwordHash ≠ none

/-- Every active account has a password. -/
def World.ActiveHavePasswords (w : World) : Prop := ∀ u ∈ w.db.users, u.ActiveHasPassword

/-- An administrator activates an inactive user without a password. -/
def Event.ActivatesUnset (w : World) (e : Event) : Prop :=
  ∃ u ∈ w.db.users, e = .request (.activateUser u.id) ∧ u.role ≠ .systemAdmin ∧
    u.isActive = false ∧ u.passwordHash = none

theorem User.ActiveHasPassword.congr {u v : User} (h : u.ActiveHasPassword)
    (hstatus : v.status = u.status) (hhash : v.passwordHash = u.passwordHash) :
    v.ActiveHasPassword := by
  intro hactive
  rw [hhash]
  exact h (hstatus.symm.trans hactive)

/-- **Only `activate_user` makes an account active without a password.** -/
theorem Account.Step.activeHasPassword {now : Time} {draws draws' : ℕ} {r : Request} {out : Outcome}
    {acc acc' : Account} (h : acc.Step env now draws r out acc' draws')
    (hpassword : acc.user.ActiveHasPassword) :
    acc'.user.ActiveHasPassword ∨
      (r = .activateUser acc.user.id ∧ acc.user.role ≠ .systemAdmin ∧ acc.user.isActive = false ∧
        acc.user.passwordHash = none) := by
  cases h with
  | activateUser _ hrole hinactive =>
    by_cases hhash : acc.user.passwordHash = none
    · exact Or.inr ⟨rfl, hrole, hinactive, hhash⟩
    · exact Or.inl fun _ => hhash
  | activateAccount | resetPassword | updateMePassword =>
    left
    intro _ hnone
    cases hnone
  | deactivateUser =>
    left
    intro hactive
    cases hactive
  | updateUser _ _ _ _ _ huser =>
    obtain ⟨-, -, -, hhash, -, hstatus, -⟩ := Account.assign_eq huser
    exact Or.inl (hpassword.congr hstatus hhash)
  | updateUserCredentials _ _ _ _ _ huser | updatePendingCredentials _ _ _ _ _ huser =>
    obtain ⟨-, hhash, -, hstatus, -⟩ := Account.assign_credentials_eq huser
    exact Or.inl (hpassword.congr hstatus hhash)
  | _ => exact Or.inl hpassword

theorem Account.Step.login_passwordHash {now : Time} {draws draws' : ℕ} {formData : LoginForm}
    {response : Response} {acc acc' : Account}
    (h : acc.Step env now draws (.login formData) (.ok response) acc' draws') :
    acc.user.passwordHash ≠ none := by
  cases h with
  | login _ _ _ hash _ _ _ hhash =>
    intro hnone
    cases hnone.symm.trans hhash

theorem Account.Step.resend_status {now : Time} {draws draws' : ℕ} {currentUserId u : UserId}
    {out : Outcome} {acc acc' : Account}
    (h : acc.Step env now draws (.resendActivationInvite currentUserId u) out acc' draws') :
    acc.user.status = .pendingActivation := by
  cases h with
  | resendActivationInvite _ _ _ hpending => exact hpending

theorem Account.Step.activateUser_passwordHash {now : Time} {draws draws' : ℕ} {u : UserId}
    {out : Outcome} {acc acc' : Account}
    (h : acc.Step env now draws (.activateUser u) out acc' draws') :
    acc'.user.passwordHash = acc.user.passwordHash := by
  cases h
  rfl

/-- **Without a password nobody logs in**, and an account that does not wait for its activation
is not invited again. -/
theorem Account.unset_locked_out (hs : w.Sound) {u : UserId} {acc : Account}
    (hacc : w.account u = some acc) (hactive : acc.user.status = .active)
    (hhash : acc.user.passwordHash = none) :
    (∀ formData response, (Request.login formData).target? env w = some u →
      w.respond env (.login formData) ≠ .ok response) ∧
    ∀ currentUserId response,
      w.respond env (.resendActivationInvite currentUserId u) ≠ .ok response := by
  constructor
  · intro formData response htarget hout
    obtain ⟨acc', hstep, -⟩ := hs.step_of_ok rfl htarget hacc hout
    exact hstep.login_passwordHash hhash
  · intro currentUserId response hout
    obtain ⟨acc', hstep, -⟩ :=
      hs.step_of_ok (r := .resendActivationInvite currentUserId u) rfl rfl hacc hout
    cases hactive.symm.trans hstep.resend_status

/-- **An event keeps the passwords of active accounts exactly if it activates no account
without one.** -/
theorem World.Sound.activeHavePasswords_after (hs : w.Sound) (h : w.ActiveHavePasswords)
    (e : Event) : (w.after env e).ActiveHavePasswords ↔ ¬ e.ActivatesUnset w := by
  constructor
  · rintro hafter ⟨u, hu, rfl, hrole, hinactive, hhash⟩
    obtain ⟨acc, hacc, rfl⟩ := hs.account_of_user hu
    obtain ⟨acc', hstep, hacc', -⟩ :=
      hs.step_of_ok (r := .activateUser acc.user.id) rfl rfl hacc
        (activateUser_respond hacc hrole hinactive)
    have hmem : acc'.user ∈ (w.after env (.request (.activateUser acc.user.id))).db.users :=
      Keyed.mem_of_get? (World.account_user hacc')
    exact hafter _ hmem (hstep.activates (Or.inl ⟨_, rfl⟩))
      (hstep.activateUser_passwordHash.trans hhash)
  · intro hactivates
    refine hs.forall_users_after h (fun currentUserId r id _ hactive => ?_)
      fun r acc acc' he hacc hpassword hstep => ?_
    · cases hactive
    · rcases hstep.activeHasPassword hpassword with hkept | ⟨hr, hguards⟩
      · exact hkept
      · have hmem : acc.user ∈ w.db.users := Keyed.mem_of_get? (World.account_user hacc)
        exact absurd ⟨acc.user, hmem, he.trans (congrArg Event.request hr), hguards⟩ hactivates

/-- **Active accounts have passwords all along a run exactly if no administrator activates an
account without one.** -/
theorem activeHavePasswords_run_iff (env : Env) (w₀ : World) (h₀ : w₀.Seeded)
    (events : List Event) :
    (∀ before after, events = before ++ after → (w₀.run env before).ActiveHavePasswords) ↔
      Run.Throughout (World.after env) (fun w e => ¬ e.ActivatesUnset w) w₀ events := by
  have hstart : w₀.ActiveHavePasswords := fun u hu _ => (h₀.users u hu).passwordHash
  exact Run.invariant_iff (I := World.ActiveHavePasswords) (J := World.Sound)
    (fun _ e hs => hs.after env e) (fun _ e hs h => hs.activeHavePasswords_after h e) h₀.sound
    hstart events

/-- Grace accepts her invite. -/
def acceptGrace : Event :=
  .request (.activateAccount
    { username := "hopper", inviteToken := "1;", newPassword := "Pa55word!" })

/-- She accepts her invite, is deactivated and activated again. -/
theorem activeHavePasswords_run_concrete :
    (World.concrete.run .concrete [registerHopper, acceptGrace, .request (.deactivateUser 3),
      .request (.activateUser 3)]).ActiveHavePasswords := by
  refine (activeHavePasswords_run_iff .concrete World.concrete World.concrete_seeded
    [registerHopper, acceptGrace, .request (.deactivateUser 3), .request (.activateUser 3)]).mpr
      ⟨?_, ?_, ?_, ?_, trivial⟩ _ [] rfl
  · rintro ⟨u, -, he, -⟩
    cases he
  · rintro ⟨u, -, he, -⟩
    cases he
  · rintro ⟨u, -, he, -⟩
    cases he
  · have hset : ∀ u ∈ (World.concrete.run .concrete
        [registerHopper, acceptGrace, .request (.deactivateUser 3)]).db.users,
        u.passwordHash ≠ none := by decide +kernel
    rintro ⟨u, hu, -, -, -, hhash⟩
    exact hset u hu hhash

/-- **An administrator activates an account whose invite is still open**: it has no password. -/
theorem activated_without_password :
    ¬ (World.concrete.run .concrete
      [registerHopper, .request (.activateUser 3)]).ActiveHavePasswords := by
  intro h
  have hunset : ∃ u ∈ (World.concrete.run .concrete
      [registerHopper, .request (.activateUser 3)]).db.users,
      u.status = .active ∧ u.passwordHash = none := by decide +kernel
  obtain ⟨u, hu, hactive, hhash⟩ := hunset
  exact h u hu hactive hhash

end SmsLite
