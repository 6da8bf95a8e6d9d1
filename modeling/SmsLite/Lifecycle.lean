import SmsLite.RefreshTokens

/-!
# Accounts over sequential runs

What holds of the rows in every reachable state, and which steps bring an account back
from its deactivation.

## Main definitions

* `Event.Reactivates` — an invite is accepted for a deactivated account.

## Main results

* `companionRows_reachable` — **every user has its companions, whole groups of columns,
  and no operation misses a row or a value**.
* `activity_reachable` — **the three notions of an active account agree**.
* `deactivated_until_activateUser_iff` — **a deactivated account stays deactivated until an
  administrator activates it, exactly if no invite is accepted for one**.
-/

namespace SmsLite

open Interleave
open Interleave.Prog (Ends ends_map)

variable {env : Env} {w : World}

/-! ### The rows -/

/-- Every row of `users` belongs to an account. -/
theorem World.Sound.account_of_user (hs : w.Sound) {u : User} (hu : u ∈ w.db.users) :
    ∃ acc, w.account u.id = some acc ∧ acc.user = u := by
  have hkey : u.id ∈ Keyed.keys w.db.users := List.mem_map_of_mem hu
  obtain ⟨acc, hacc⟩ := hs.toCoherent.exists_account hkey
  have hget := Keyed.get?_of_mem hs.db.nodup hu
  rw [key_user, World.account_user hacc] at hget
  exact ⟨acc, hacc, Option.some.inj hget⟩

/-- Every row of `users_sessions` belongs to an account. -/
theorem World.Sound.account_of_session (hs : w.Sound) {s : UserSession} (h : s ∈ w.db.sessions) :
    ∃ acc, w.account s.userId = some acc ∧ acc.session = s := by
  have hkey : s.userId ∈ Keyed.keys w.db.sessions := List.mem_map_of_mem h
  obtain ⟨acc, hacc⟩ := hs.toCoherent.exists_account (hs.db.sessions ▸ hkey)
  obtain ⟨-, hget, -⟩ := World.account_eq_some_iff.mp hacc
  have hget' := Keyed.get?_of_mem (hs.db.sessions ▸ hs.db.nodup) h
  rw [key_userSession, hget] at hget'
  exact ⟨acc, hacc, Option.some.inj hget'⟩

/-- Every row of `users_activations` belongs to an account. -/
theorem World.Sound.account_of_activation (hs : w.Sound) {a : UserActivation}
    (h : a ∈ w.db.activations) : ∃ acc, w.account a.userId = some acc ∧ acc.activation = a := by
  have hkey : a.userId ∈ Keyed.keys w.db.activations := List.mem_map_of_mem h
  obtain ⟨acc, hacc⟩ := hs.toCoherent.exists_account (hs.db.activations ▸ hkey)
  obtain ⟨-, -, hget, -⟩ := World.account_eq_some_iff.mp hacc
  have hget' := Keyed.get?_of_mem (hs.db.activations ▸ hs.db.nodup) h
  rw [key_userActivation, hget] at hget'
  exact ⟨acc, hacc, Option.some.inj hget'⟩

/-- A companion table has one row for each user. -/
theorem length_companion {α : Type} [Keyed α UserId] {users : List User} {rows : List α}
    (hkeys : Keyed.keys rows = Keyed.keys users) (hn : (Keyed.keys users).Nodup) {u : User}
    (hu : u ∈ users) : (rows.filter fun r => Keyed.key r = u.id).length = 1 :=
  Keyed.length_filter_eq_one (hkeys ▸ hn) (hkeys ▸ List.mem_map_of_mem hu)

/-- **Every user has its companions, whole groups of columns, and no operation misses a
row or a value.**  In every reachable state each user has exactly one session, activation
and lockout row; the columns of each credential are null together; and whatever is
requested next, no comparison meets a null hash or a null expiry and no attribute of a
missing row is read. -/
theorem companionRows_reachable (env : Env) (w₀ : World) (h₀ : w₀.Seeded) (events : List Event) :
    let w := w₀.run env events
    (∀ u ∈ w.db.users,
      (w.db.sessions.filter fun s => s.userId = u.id).length = 1 ∧
      (w.db.activations.filter fun a => a.userId = u.id).length = 1 ∧
      (w.db.loginLockouts.filter fun l => l.userId = u.id).length = 1) ∧
    (∀ s ∈ w.db.sessions,
      Account.AllOrNone s.refreshTokenHash s.refreshTokenFamily s.refreshTokenExpiresAt ∧
      (s.resetPasswordTokenHash = none ↔ s.resetPasswordTokenExpiresAt = none) ∧
      Account.AllOrNone s.pendingNewEmail s.emailChangeCodeHash s.emailChangeCodeExpiresAt) ∧
    (∀ a ∈ w.db.activations, a.inviteTokenHash = none ↔ a.inviteTokenExpiresAt = none) ∧
    (∀ r e, w.respond env r = .error e → e ≠ .typeError .compareDigestNone ∧
      e ≠ .typeError .compareNone ∧ ∀ name, e ≠ .attributeError name) := by
  intro w
  have hs : w.Sound := h₀.sound.run env events
  refine ⟨fun u hu => ⟨?_, ?_, ?_⟩, fun s h => ?_, fun a h => ?_, fun r e h => ?_⟩
  · exact length_companion hs.db.sessions hs.db.nodup hu
  · exact length_companion hs.db.activations hs.db.nodup hu
  · exact length_companion hs.db.loginLockouts hs.db.nodup hu
  · obtain ⟨acc, hacc, rfl⟩ := hs.account_of_session h
    have hsound := hs.accounts _ acc hacc
    exact ⟨hsound.refreshGroup, hsound.resetGroup, hsound.emailChangeGroup⟩
  · obtain ⟨acc, hacc, rfl⟩ := hs.account_of_activation h
    exact (hs.accounts _ acc hacc).inviteGroup
  · have hcrash := (hs.acts env r).crashFree e h
    refine ⟨?_, ?_, fun name => ?_⟩ <;> rintro rfl <;> cases hcrash

/-- After a registration no request meets a missing row or a null. -/
theorem companionRows_concrete :
    (∀ a ∈ (World.concrete.run .concrete [registerHopper]).db.activations,
      a.inviteTokenHash = none ↔ a.inviteTokenExpiresAt = none) ∧
    (∀ r e, (World.concrete.run .concrete [registerHopper]).respond .concrete r = .error e →
      e ≠ .typeError .compareDigestNone ∧ e ≠ .typeError .compareNone ∧
        ∀ name, e ≠ .attributeError name) :=
  (companionRows_reachable .concrete World.concrete World.concrete_seeded [registerHopper]).2.2

/-- **The three notions of an active account agree.**  In every reachable state the flag is
the status, a refresh session belongs to an active account with a password, and
`refresh_token`, which looks at neither, issues tokens to active accounts only. -/
theorem activity_reachable (env : Env) (w₀ : World) (h₀ : w₀.Seeded) (events : List Event) :
    let w := w₀.run env events
    (∀ u ∈ w.db.users, u.isActive = true ↔ u.status = .active) ∧
    (∀ u ∈ w.db.users, ∀ s ∈ w.db.sessions, s.userId = u.id → s.refreshTokenHash ≠ none →
      u.status = .active ∧ u.passwordHash ≠ none) ∧
    (∀ token family t, w.respond env (.refreshToken token family) = .ok (.tokens t) →
      ∃ u ∈ w.db.users, u.status = .active ∧
        (Event.request (.refreshToken token family)).Issues env w u.id t) := by
  intro w
  have hs : w.Sound := h₀.sound.run env events
  refine ⟨fun u hu => ?_, fun u hu s h hid hne => ?_, fun token family t hout => ?_⟩
  · obtain ⟨acc, hacc, rfl⟩ := hs.account_of_user hu
    exact (hs.accounts _ acc hacc).isActive
  · obtain ⟨acc, hacc, rfl⟩ := hs.account_of_user hu
    obtain ⟨acc', hacc', rfl⟩ := hs.account_of_session h
    rw [hid, hacc] at hacc'
    cases hacc'
    exact (hs.accounts _ acc hacc).refreshSession hne
  · obtain ⟨u, hissues⟩ := hs.issues_of_tokens hout
    obtain ⟨acc, -, hacc, -, -, hstatus, -⟩ := hs.issues hissues
    obtain rfl := World.account_id hacc
    exact ⟨acc.user, Keyed.mem_of_get? (World.account_user hacc), hstatus, hissues⟩

/-- The student who logged in is active and has a password. -/
theorem activity_concrete :
    seededAda.status = .active ∧ seededAda.passwordHash ≠ none := by
  obtain ⟨-, hsession, -⟩ :=
    activity_reachable .concrete World.concrete World.concrete_seeded [loginAda]
  have husers : (World.concrete.run .concrete [loginAda]).db.users = World.concrete.db.users := rfl
  have hsessions : (World.concrete.run .concrete [loginAda]).db.sessions =
      [{ userId := 1 },
        { userId := 2
          refreshTokenHash := some tokensAda.refreshTokenCookie
          refreshTokenFamily := some tokensAda.refreshTokenFamilyCookie
          refreshTokenExpiresAt := some (Time.days 7) }] := by decide +kernel
  rw [husers, hsessions] at hsession
  exact hsession _ (List.mem_cons_of_mem _ List.mem_cons_self) _
    (List.mem_cons_of_mem _ List.mem_cons_self) rfl (by simp)

/-! ### Deactivation -/

/-- An invite is accepted for the deactivated user, with a password that passlib takes. -/
def Event.Reactivates (env : Env) (w : World) (u : UserId) (e : Event) : Prop :=
  ∃ request acc, e = .request (.activateAccount request) ∧
    w.db.userNamed request.username = some u ∧ w.account u = some acc ∧
    acc.user.status = .deactivated ∧ acc.AcceptsInvite env w.clock request.inviteToken ∧
    Secret.Valid request.newPassword

/-- An accepted invite takes a deactivated account back. -/
theorem Event.Reactivates.after (hs : w.Sound) {u : UserId} {e : Event}
    (h : e.Reactivates env w u) :
    ∃ acc', (w.after env e).account u = some acc' ∧ acc'.user.status = .active := by
  obtain ⟨request, acc, rfl, hid, hacc, -, haccepts, hvalid⟩ := h
  obtain rfl := World.account_id hacc
  change Ends (exec env) ((fun _ => Response.none) <$> activateAccount env request)
    (fun _ w' => ∃ acc', w'.account acc.user.id = some acc' ∧ acc'.user.status = .active) w
  rw [ends_map]
  refine activateAccount_accepts hs request hacc hid haccepts
    (fun _ _ w' hmoved _ _ _ => ⟨_, hmoved.account, rfl⟩) fun e he => ?_
  exact absurd hvalid (Env.not_valid_of_hashPassword he)

/-- What brings a deactivated account back. -/
theorem Evolves.of_deactivated {u : UserId} {acc acc' : Account} {e : Event}
    (hacc : w.account u = some acc) (h : Evolves env w u acc e acc')
    (hstatus : acc.user.status = .deactivated) (hstatus' : acc'.user.status ≠ .deactivated) :
    e = .request (.activateUser u) ∨ e.Reactivates env w u := by
  cases h with
  | stays => exact absurd hstatus hstatus'
  | evicted => exact absurd hstatus hstatus'
  | steps r _ htarget hstep =>
    obtain rfl := World.account_id hacc
    rcases hstep.status with hsame | ⟨-, hnew⟩ | ⟨rfl, -⟩ | ⟨request, rfl, haccepts, hvalid, -⟩
    · exact absurd (hsame.trans hstatus) hstatus'
    · exact absurd hnew hstatus'
    · exact Or.inl rfl
    · exact Or.inr ⟨request, acc, rfl, htarget, hacc, hstatus, haccepts, hvalid⟩

/-- **A deactivated account stays deactivated until an administrator activates it, exactly
if no invite is accepted for one.** -/
theorem deactivated_until_activateUser_iff (env : Env) (w₀ : World) (h₀ : w₀.Seeded)
    (events : List Event) (u : UserId) :
    (∀ before e after acc acc', events = before ++ e :: after →
      (w₀.run env before).account u = some acc → acc.user.status = .deactivated →
      (w₀.run env (before ++ [e])).account u = some acc' → acc'.user.status ≠ .deactivated →
      e = .request (.activateUser u)) ↔
    Run.Throughout (World.after env) (fun w e => ¬ e.Reactivates env w u) w₀ events := by
  rw [Run.throughout_iff]
  constructor
  · intro h before e after hevents hreactivates
    obtain ⟨acc', hacc', hactive⟩ := hreactivates.after (h₀.sound.run env before)
    obtain ⟨request, acc, rfl, -, hacc, hstatus, -⟩ := hreactivates
    have he := h before _ after acc acc' hevents hacc hstatus
      (by rw [World.run_concat]; exact hacc') (by rw [hactive]; exact nofun)
    cases he
  · intro h before e after acc acc' hevents hacc hstatus hacc' hstatus'
    obtain ⟨acc'', hacc'', hevolves⟩ := (h₀.sound.run env before).evolves env hacc e
    rw [World.run_concat, hacc''] at hacc'
    cases hacc'
    exact (hevolves.of_deactivated hacc hstatus hstatus').resolve_right (h before e after hevents)

/-- Without invites only the administrator's step is left, and it is there. -/
theorem deactivated_until_activateUser_concrete :
    (∀ before e after acc acc',
      [Event.request (.deactivateUser 2), .request (.activateUser 2)] = before ++ e :: after →
      (World.concrete.run .concrete before).account 2 = some acc →
      acc.user.status = .deactivated →
      (World.concrete.run .concrete (before ++ [e])).account 2 = some acc' →
      acc'.user.status ≠ .deactivated → e = .request (.activateUser 2)) ∧
    ((World.concrete.run .concrete
      [.request (.deactivateUser 2), .request (.activateUser 2)]).account 2).map (·.user.status) =
        some .active := by
  refine ⟨(deactivated_until_activateUser_iff .concrete World.concrete World.concrete_seeded _
    2).mpr ⟨?_, ?_, trivial⟩, rfl⟩
  · rintro ⟨_, _, h, -⟩
    cases h
  · rintro ⟨_, _, h, -⟩
    cases h

/-- The invite of an account that the administrator activated is still good after its
deactivation: the holder takes the account back. -/
theorem deactivated_taken_back :
    ¬ ∀ before e acc acc', (World.concrete.run .concrete before).account 3 = some acc →
      acc.user.status = .deactivated →
      (World.concrete.run .concrete (before ++ [e])).account 3 = some acc' →
      acc'.user.status ≠ .deactivated → e = .request (.activateUser 3) := by
  intro h
  have he := h [registerHopper, .request (.activateUser 3), .request (.deactivateUser 3)]
    (.request (.activateAccount
      { username := "hopper", inviteToken := "1;", newPassword := "Pa55word!" }))
    _ _ rfl rfl rfl (by decide)
  cases he

end SmsLite
