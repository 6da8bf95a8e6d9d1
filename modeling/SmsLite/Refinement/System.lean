import SmsLite.Refinement.UserService

/-!
# Sequential runs refine the account machine

## Main definitions

* `Event.Revokes`, `Event.Issues` — an event that revokes the tokens of a user, and one
  that issues tokens to it.
* `Evolves` — what an event does to one account.

## Main results

* `World.Sound.serves`, `World.Sound.acts` — **the refinement**: every request, in every sound
  state, `Serves`, and so `Acts`.
* `World.Sound.after`, `World.Sound.run`, `World.Seeded.sound` — every state that a
  sequential run from a seeded state reaches is sound.
* `World.Sound.evolves` — an event takes every account through `Evolves`.
* `World.Sound.run_account` — what every event preserves of an account, a run preserves.
-/

namespace SmsLite

open Interleave
open Interleave.Prog (Ends ends_map)

variable {env : Env} {w : World}

/-- **The refinement**, with what every request leaves besides the accounts. -/
theorem World.Sound.serves (hs : w.Sound) (env : Env) (r : Request) :
    Serves env w r (w.respond env r) (w.after env (.request r)) := by
  change Ends (exec env) (r.service env) (Serves env w r) w
  cases r with
  | login formData => exact (ends_map _ _ _).mpr (login_serves hs formData)
  | logout id => exact (ends_map _ _ _).mpr (logout_serves hs id)
  | activateAccount request => exact (ends_map _ _ _).mpr (activateAccount_serves hs request)
  | refreshToken token family => exact (ends_map _ _ _).mpr (refreshToken_serves hs token family)
  | resetPassword request => exact (ends_map _ _ _).mpr (resetPassword_serves hs request)
  | createForgotPasswordRequest request =>
    exact (ends_map _ _ _).mpr (createForgotPasswordRequest_serves hs request)
  | getCurrentUser token => exact (ends_map _ _ _).mpr (getCurrentUser_serves hs token)
  | registerUser id request => exact (ends_map _ _ _).mpr (registerUser_serves hs id request)
  | updateUser target request => exact (ends_map _ _ _).mpr (updateUser_serves hs target request)
  | updateUserCredentials id target request =>
    exact (ends_map _ _ _).mpr (updateUserCredentials_serves hs id target request)
  | deactivateUser target => exact (ends_map _ _ _).mpr (deactivateUser_serves hs target)
  | activateUser target => exact (ends_map _ _ _).mpr (activateUser_serves hs target)
  | createResetPasswordRequest id target =>
    exact (ends_map _ _ _).mpr (createResetPasswordRequest_serves hs id target)
  | resendActivationInvite id target =>
    exact (ends_map _ _ _).mpr (resendActivationInvite_serves hs id target)
  | updateMeCredentials id request =>
    exact (ends_map _ _ _).mpr (updateMeCredentials_serves hs id request)
  | confirmEmailChange id request =>
    exact (ends_map _ _ _).mpr (confirmEmailChange_serves hs id request)
  | updateMePassword id request =>
    exact (ends_map _ _ _).mpr (updateMePassword_serves hs id request)
  | getTeacherByIdAdmin | getStudentByIdAdmin | getTeacherByIdDirector | getStudentByIdDirector
  | getMyProfile | getMyStudentProfile =>
    exact (ends_map _ _ _).mpr
      (cachedDetail_serves hs rfl _ (by simp) (by simp) _ _ _ _ _ rfl)

/-- **The refinement.** -/
theorem World.Sound.acts (hs : w.Sound) (env : Env) (r : Request) :
    Acts env w r (w.respond env r) (w.after env (.request r)) := (hs.serves env r).acts

/-- A successful request that is no read takes the account it is about through a step. -/
theorem World.Sound.step_of_ok (hs : w.Sound) {u : UserId} {acc : Account} {r : Request}
    {response : Response} (hr : r.isRead = false) (htarget : r.target? env w = some u)
    (hacc : w.account u = some acc) (hout : w.respond env r = .ok response) :
    ∃ acc', acc.Step env w.clock w.draws r (.ok response) acc' (w.after env (.request r)).draws ∧
      (w.after env (.request r)).account u = some acc' ∧
      w.Leaves (w.after env (.request r)) (r.posts env w.draws acc acc')
        (r.sends env w.draws acc acc') (w.forgetting (r.forgets u)) := by
  rcases (hs.serves env r).served.of_target htarget hacc with
    ⟨hquiet, -⟩ | ⟨acc', hstep, hacc', hleaves⟩
  · rw [hout] at hquiet
    cases hquiet with
    | read _ hread => exact absurd (hread.symm.trans hr) (by simp)
    | absent _ _ hnone => exact absurd ((hnone u htarget).symm.trans hacc) (by simp)
  · exact ⟨acc', hout ▸ hstep, hacc', hleaves⟩

/-! ### Every reachable state is sound -/

theorem World.outside_db (w : World) (o : Outside) : (outside o w).db = w.db := by
  cases o <;> rfl

/-- Nothing outside touches a table, and the cache only forgets. -/
theorem World.outside_account (w : World) (o : Outside) {id : UserId} {acc : Account}
    (h : w.account id = some acc) :
    (outside o w).account id = some acc ∨
      (outside o w).account id = some { acc with cachedVersion := none } := by
  cases o with
  | tick d => exact Or.inl h
  | expire key =>
    obtain ⟨hu, hs, ha, hl, hv⟩ := World.account_eq_some_iff.mp h
    by_cases hkey : key = .accessTokenVersionKey id
    · subst hkey
      exact Or.inr (World.account_eq_some_iff.mpr ⟨hu, hs, ha, hl, Function.update_self _ _ _⟩)
    · refine Or.inl (World.account_eq_some_iff.mpr ⟨hu, hs, ha, hl, ?_⟩)
      rw [← hv]
      exact Function.update_of_ne (Ne.symm hkey) _ _

/-- An account after something outside was there before. -/
theorem World.Coherent.account_of_outside (hc : w.Coherent) {o : Outside} {id : UserId}
    {acc' : Account} (h : (outside o w).account id = some acc') :
    ∃ acc, w.account id = some acc ∧ (acc' = acc ∨ acc' = { acc with cachedVersion := none }) := by
  have hid : id ∈ Keyed.keys w.db.users := w.outside_db o ▸ World.account_mem_keys h
  obtain ⟨acc, hacc⟩ := hc.exists_account hid
  refine ⟨acc, hacc, ?_⟩
  rcases w.outside_account o hacc with hsame | hevicted
  · exact Or.inl (Option.some.inj (h.symm.trans hsame))
  · exact Or.inr (Option.some.inj (h.symm.trans hevicted))

theorem World.Coherent.outside (hc : w.Coherent) (o : Outside) : (outside o w).Coherent := by
  cases o with
  | tick d => exact ⟨hc.db, hc.orphans⟩
  | expire key =>
    refine ⟨hc.db, fun id hid => ?_⟩
    by_cases hkey : CacheKey.accessTokenVersionKey id = key
    · rw [hkey]
      exact Function.update_self _ _ _
    · exact (Function.update_of_ne hkey _ _).trans (hc.orphans id hid)

theorem Effect.coherent {r : Request} {out : Outcome} {w' : World} (h : Effect env w r out w') :
    w'.Coherent := by
  cases h with
  | quiet _ hcoherent => exact hcoherent
  | moved _ _ _ _ _ _ hmoved => exact hmoved.coherent
  | registered _ _ _ _ _ _ _ hmoved => exact hmoved.coherent

/-- **Soundness is kept by every event.** -/
theorem World.Sound.after (hs : w.Sound) (env : Env) (e : Event) : (w.after env e).Sound := by
  cases e with
  | outside o =>
    refine ⟨hs.toCoherent.outside o, fun id acc hacc => ?_⟩
    obtain ⟨acc₀, hacc₀, rfl | rfl⟩ := hs.toCoherent.account_of_outside hacc
    · exact hs.accounts id _ hacc₀
    · exact (hs.accounts id _ hacc₀).evicted
  | request r =>
    have heffect := (hs.acts env r).effect
    refine ⟨heffect.coherent, fun id acc hacc => ?_⟩
    cases heffect with
    | quiet haccounts => exact hs.accounts id acc (haccounts id ▸ hacc)
    | moved id' acc₀ acc' _ hacc₀ hstep hmoved =>
      by_cases hid : id = id'
      · subst hid
        rw [hmoved.account] at hacc
        cases hacc
        exact hstep.sound (hs.accounts _ _ hacc₀)
      · exact hs.accounts id acc (hmoved.others id hid ▸ hacc)
    | registered by_ request user _ _ huser _ hmoved =>
      by_cases hid : id = user.id
      · subst hid
        rw [hmoved.account] at hacc
        cases hacc
        exact Account.registered_sound env w.clock w.draws (by rw [huser]; rfl) (by rw [huser]; rfl)
      · exact hs.accounts id acc (hmoved.others id hid ▸ hacc)

/-- **Soundness is kept by every run.** -/
theorem World.Sound.run (hs : w.Sound) (env : Env) (events : List Event) :
    (w.run env events).Sound :=
  Run.invariant' (fun _ e h => h.after env e) hs events

/-- The companion of a seeded user. -/
theorem get?_companion {α : Type} [Keyed α UserId] (row : User → α)
    (hkey : ∀ u, Keyed.key (row u) = u.id) (users : List User) (id : UserId) :
    Keyed.get? (users.map row) id = (Keyed.get? users id).map row := by
  simp only [Keyed.get?, List.find?_map, Function.comp_def, hkey]
  rfl

theorem keys_companion {α : Type} [Keyed α UserId] (row : User → α)
    (hkey : ∀ u, Keyed.key (row u) = u.id) (users : List User) :
    Keyed.keys (users.map row) = Keyed.keys users := by
  simp [Keyed.keys, hkey]

/-- A seeded user has an untouched session. -/
theorem World.Seeded.session (h : w.Seeded) {id : UserId} {acc : Account}
    (hacc : w.account id = some acc) : acc.session = { userId := id } := by
  obtain ⟨hu, hs, -⟩ := World.account_eq_some_iff.mp hacc
  rw [h.sessions, get?_companion _ fun _ => rfl, hu, Option.map_some, Option.some.injEq] at hs
  rw [← hs, World.account_id hacc]

/-- A seeded user has no invitation. -/
theorem World.Seeded.activation (h : w.Seeded) {id : UserId} {acc : Account}
    (hacc : w.account id = some acc) : acc.activation = { userId := id } := by
  obtain ⟨hu, -, ha, -⟩ := World.account_eq_some_iff.mp hacc
  rw [h.activations, get?_companion _ fun _ => rfl, hu, Option.map_some, Option.some.injEq] at ha
  rw [← ha, World.account_id hacc]

/-- **The states a run may start from are sound.** -/
theorem World.Seeded.sound (h : w.Seeded) : w.Sound := by
  refine ⟨⟨⟨h.ids, ?_, ?_, ?_, h.usersIdSeq⟩, fun id _ => by rw [h.cache]⟩, fun id acc hacc => ?_⟩
  · rw [h.sessions]
    exact keys_companion _ (fun _ => rfl) _
  · rw [h.activations]
    exact keys_companion _ (fun _ => rfl) _
  · rw [h.loginLockouts]
    exact keys_companion _ (fun _ => rfl) _
  · have hseeded := h.users _ (Keyed.mem_of_get? (World.account_user hacc))
    have hv := World.account_cachedVersion hacc
    rw [h.cache] at hv
    constructor <;>
      simp [h.session hacc, h.activation hacc, ← hv, Account.AllOrNone, hseeded.isActive,
        hseeded.status]

/-! ### One account -/

/-- The event revokes the access tokens of the user. -/
def Event.Revokes (env : Env) (w : World) (u : UserId) : Event → Prop
  | .request r =>
    r.target? env w = some u ∧
      ∃ acc, w.account u = some acc ∧ acc.Revoking env w.clock r (w.respond env r)
  | .outside _ => False

/-- `login` or `refresh_token` returns tokens, and they are the user's. -/
def Event.Issues (env : Env) (w : World) (u : UserId) (t : LoginResponse) : Event → Prop
  | .request r =>
    w.respond env r = .ok (.tokens t) ∧ (env.jose.decode t.accessToken).bind (·.sub) = some u
  | .outside _ => False

/-- What an event does to the account of `u`. -/
inductive Evolves (env : Env) (w : World) (u : UserId) (acc : Account) : Event → Account → Prop
  /-- Nothing. -/
  | stays (e : Event) (hrevokes : ¬ e.Revokes env w u) (hissues : ∀ t, ¬ e.Issues env w u t) :
      Evolves env w u acc e acc
  /-- The cache forgets its version. -/
  | evicted (o : Outside) :
      Evolves env w u acc (.outside o) { acc with cachedVersion := none }
  /-- A step. -/
  | steps (r : Request) (acc' : Account) (htarget : r.target? env w = some u)
      (hstep : acc.Step env w.clock w.draws r (w.respond env r) acc'
        (w.after env (.request r)).draws) : Evolves env w u acc (.request r) acc'

/-- The owner of the tokens a step issues. -/
theorem Account.Step.tokens {now : Time} {draws draws' : ℕ} {r : Request} {t : LoginResponse}
    {acc acc' : Account} (h : acc.Step env now draws r (.ok (.tokens t)) acc' draws') :
    t = acc.issue env now draws ∧ acc'.session = (acc.opened env now draws).session ∧
      acc'.user = acc.user ∧ acc'.cachedVersion = acc.cachedVersion ∧ draws' = draws + 2 := by
  cases h <;> exact ⟨rfl, rfl, rfl, rfl, rfl⟩

/-- Tokens are only issued to active accounts. -/
theorem Account.Step.tokens_active {now : Time} {draws draws' : ℕ} {r : Request}
    {t : LoginResponse} {acc acc' : Account}
    (h : acc.Step env now draws r (.ok (.tokens t)) acc' draws') (hs : acc.Sound) :
    acc.user.status = .active := by
  cases h with
  | login _ _ _ _ _ _ _ _ hstatus => exact hstatus
  | refreshToken _ _ _ haccepts => exact (hs.active_of_accepts haccepts).1

theorem Account.issue_sub {acc : Account} {now : Time} {draws : ℕ} :
    (env.jose.decode (acc.issue env now draws).accessToken).bind (·.sub) = some acc.user.id := by
  simp [Account.issue, createAccessToken, env.jose.decode_encode, accessClaims]

/-- Tokens are somebody's. -/
theorem World.Sound.issues_of_tokens (hs : w.Sound) {r : Request} {t : LoginResponse}
    (hout : w.respond env r = .ok (.tokens t)) : ∃ u, (Event.request r).Issues env w u t := by
  have heffect := (hs.acts env r).effect
  rw [hout] at heffect
  obtain ⟨id, acc, acc', -, -, hstep, -⟩ := heffect.step_of_tokens
  refine ⟨acc.user.id, hout, ?_⟩
  rw [hstep.tokens.1, Account.issue_sub]

/-- **An event takes every account through `Evolves`.** -/
theorem World.Sound.evolves (hs : w.Sound) (env : Env) {u : UserId} {acc : Account}
    (hacc : w.account u = some acc) (e : Event) :
    ∃ acc', (w.after env e).account u = some acc' ∧ Evolves env w u acc e acc' := by
  cases e with
  | outside o =>
    rcases w.outside_account o hacc with h | h
    · exact ⟨acc, h, .stays _ id fun _ => id⟩
    · exact ⟨_, h, .evicted o⟩
  | request r =>
    cases (hs.acts env r).effect with
    | quiet haccounts _ _ hquiet =>
      -- Nothing has moved, so the request neither revokes nor issues anything.
      refine ⟨acc, (haccounts u).trans hacc, .stays _ ?_ ?_⟩
      · rintro ⟨htarget, acc', hacc', hrevoking⟩
        rw [hacc] at hacc'
        cases hacc'
        generalize w.respond env r = out at hquiet hrevoking
        cases hquiet with
        | read response hr => cases r <;> simp_all [Request.isRead, Account.Revoking]
        | failed e' h => exact h u acc htarget hacc hrevoking
        | absent response _ hnone => simp [hnone u htarget] at hacc
      · rintro t ⟨hout, -⟩
        rw [hout] at hquiet
        cases hquiet with
        | read _ _ htokens => exact htokens t rfl
        | absent _ htokens => exact htokens t rfl
    | moved id acc₀ acc' htarget hacc₀ hstep hmoved =>
      by_cases hu : u = id
      · subst hu
        rw [hacc] at hacc₀
        cases hacc₀
        exact ⟨acc', hmoved.account, .steps r acc' htarget hstep⟩
      · refine ⟨acc, (hmoved.others u hu).trans hacc, .stays _ ?_ ?_⟩
        · rintro ⟨htarget', -⟩
          rw [htarget] at htarget'
          exact hu (Option.some.inj htarget').symm
        · rintro t ⟨hout, hsub⟩
          rw [hout] at hstep
          rw [hstep.tokens.1, Account.issue_sub, World.account_id hacc₀] at hsub
          exact hu (Option.some.inj hsub).symm
    | registered by_ request user hr hout _ hnone hmoved =>
      -- The new account is not this one, which was there before.
      have hu : u ≠ user.id := by
        rintro rfl
        rw [hacc] at hnone
        cases hnone
      -- Somebody else has moved.
      refine ⟨acc, (hmoved.others u hu).trans hacc, .stays _ ?_ ?_⟩
      · rintro ⟨htarget, -⟩
        subst hr
        cases htarget
      · rintro t ⟨hout', -⟩
        rw [hout] at hout'
        cases hout'

/-- **A new account is a newly registered one.** -/
theorem World.Sound.account_new (hs : w.Sound) {u : UserId} {acc : Account} {e : Event}
    (hnone : w.account u = none) (hacc : (w.after env e).account u = some acc) :
    acc = Account.registered env w.clock w.draws acc.user ∧
      acc.user.status = .pendingActivation := by
  cases e with
  | outside o =>
    have hdb : (w.after env (.outside o)).db = w.db := w.outside_db o
    rw [World.account_eq_none_of_db hdb hnone] at hacc
    cases hacc
  | request r =>
    cases (hs.acts env r).effect with
    | quiet haccounts =>
      rw [haccounts, hnone] at hacc
      cases hacc
    | moved id acc₀ _ _ hacc₀ _ hmoved =>
      have hu : u ≠ id := by
        rintro rfl
        rw [hnone] at hacc₀
        cases hacc₀
      rw [hmoved.others u hu, hnone] at hacc
      cases hacc
    | registered by_ request user _ _ huser _ hmoved =>
      by_cases hu : u = user.id
      · subst hu
        rw [hmoved.account] at hacc
        cases hacc
        exact ⟨rfl, by rw [Account.registered, huser]; rfl⟩
      · rw [hmoved.others u hu, hnone] at hacc
        cases hacc

/-! ### One account over a run -/

/-- **What every event preserves of an account, a run preserves**: `P` is a condition all
events of the run are known to meet. -/
theorem World.Sound.run_account {u : UserId} {P : World → Event → Prop}
    {I : World → Account → Prop}
    (hstep : ∀ w acc e acc', w.Sound → w.account u = some acc → I w acc → P w e →
      Evolves env w u acc e acc' → I (w.after env e) acc')
    {acc : Account} {events : List Event} (hs : w.Sound) (hacc : w.account u = some acc)
    (hI : I w acc) (h : Run.Throughout (World.after env) P w events) :
    ∃ acc', (w.run env events).account u = some acc' ∧ I (w.run env events) acc' := by
  induction events generalizing w acc with
  | nil => exact ⟨acc, hacc, hI⟩
  | cons e events ih =>
    obtain ⟨acc', hacc', hevolves⟩ := hs.evolves env hacc e
    exact ih (hs.after env e) hacc' (hstep w acc e acc' hs hacc hI h.1 hevolves) h.2

/-- Time does not run backwards. -/
theorem World.Sound.clock_le_after (hs : w.Sound) (env : Env) (e : Event) :
    w.clock ≤ (w.after env e).clock := by
  cases e with
  | request r => exact (hs.acts env r).clock.ge
  | outside o =>
    cases o with
    | tick d => exact Nat.le_add_right _ _
    | expire key => exact le_rfl

/-- No random value is drawn twice. -/
theorem World.Sound.draws_le_after (hs : w.Sound) (env : Env) (e : Event) :
    w.draws ≤ (w.after env e).draws := by
  cases e with
  | request r =>
    cases (hs.acts env r).effect with
    | quiet _ _ hdraws => exact hdraws
    | moved _ _ _ _ _ hstep => exact hstep.draws_le
    | registered _ _ _ _ _ _ _ _ hdraws => exact hdraws ▸ Nat.le_succ _
  | outside o => cases o <;> exact le_rfl

theorem World.Sound.draws_le_run (hs : w.Sound) (env : Env) (events : List Event) :
    w.draws ≤ (w.run env events).draws := by
  induction events generalizing w with
  | nil => exact le_rfl
  | cons e events ih => exact (hs.draws_le_after env e).trans (ih (hs.after env e))

end SmsLite
