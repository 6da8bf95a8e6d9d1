import SmsLite.Concrete
import SmsLite.Refinement.System

/-!
# Access tokens over sequential runs

`get_current_user` has two paths.  The cached one compares the token's version with
what Redis holds and looks at nothing else; the database one compares it with the row
and then asks whether the account is active.  In a sound state the two agree, because
what Redis holds is the current version of an active account.

## Main definitions

* `databaseAnswer` — the database path alone.

## Main results

* `getCurrentUser_respond` — in a sound state the answer is the database path's,
  whatever is cached.
* `accessToken_accepted_iff` — **an access token is accepted exactly as long as no
  operation revokes it**.
-/

namespace SmsLite

open Interleave
open Interleave.Prog (Ends ends_map)

variable {env : Env} {w : World}

/-! ### The two paths -/

/-- The database path of `get_current_user`: what the tables alone say about a token. -/
def databaseAnswer (env : Env) (w : World) (token : String) : Outcome :=
  match accessTokenSubject env w.clock token with
  | .error e => .error e
  | .ok (_, _, none) => .error (.valueError "None is not a valid UserRole")
  | .ok (userId, version, some role) =>
    match w.account userId with
    | none => .error (.app .invalidAccessTokenError HTTP401.invalidAccessToken)
    | some acc =>
      if acc.session.accessTokenVersion ≠ version then
        .error (.app .invalidAccessTokenError HTTP401.invalidAccessToken)
      else if !acc.user.isActive then
        .error (.app .accountInactiveError HTTP403.accountDeactivated)
      else .ok (.currentUser { id := userId, role := role })

/-- In a sound state the answer of `get_current_user` is the database path's. -/
theorem getCurrentUser_respond (hs : w.Sound) (token : String) :
    w.respond env (.getCurrentUser token) = databaseAnswer env w token := by
  suffices h : Ends (exec env) (getCurrentUser env token)
      (fun r _ => r.map Response.currentUser = databaseAnswer env w token) w from
    (ends_map (Q := fun out _ => out = databaseAnswer env w token) Response.currentUser
      (getCurrentUser env token) w).mpr h
  unfold getCurrentUser databaseAnswer
  rw [ends_datetimeNow]
  cases accessTokenSubject env w.clock token with
  | error e => rfl
  | ok subject =>
    obtain ⟨id, version, role⟩ := subject
    rw [ofExcept_ok]
    dsimp only
    rw [ends_getCache]
    cases role with
    | none => rfl
    | some role =>
      cases hcache : w.cache (.accessTokenVersionKey id) with
      | some cached =>
        -- The cached path: the entry is the current version, and the account is active.
        obtain ⟨acc, hacc, -, rfl, hactive⟩ := hs.cachedVersion hcache
        simp only [hacc, hactive]
        refine ends_ite (fun hne => ?_) fun heq => ?_
        · rw [if_pos hne]
          rfl
        · rw [if_neg heq]
          rfl
      | none =>
        dsimp only
        rw [ends_getUserById]
        cases hload : w.db.selectUserById id { loadSession := true } with
        | none =>
          rw [World.account_of_selectUserById_none (by simp [UserQuery.admits]) hload]
          rfl
        | some loaded =>
          -- The database path: the loaded row is that of the account.
          obtain ⟨acc, hacc, -, rfl⟩ := hs.toCoherent.selectUserById hload
          simp only [hacc]
          rw [Account.loaded_session, if_pos rfl, deref_some]
          refine ends_ite (fun hne => ?_) fun heq =>
            ends_ite (fun hno : (!acc.user.isActive) = true => ?_)
              fun hyes : ¬ (!acc.user.isActive) = true => ?_
          · rw [if_pos hne]
            rfl
          · rw [if_neg heq, if_pos hno]
            rfl
          · rw [if_neg heq, if_neg hyes]
            rfl

/-! ### Versions over a run -/

/-- What an event does to the version of an account, and to its activity. -/
theorem Evolves.accessTokenVersion {u : UserId} {acc acc' : Account} {e : Event}
    (hacc : w.account u = some acc) (h : Evolves env w u acc e acc') :
    (e.Revokes env w u ∧ acc'.session.accessTokenVersion = acc.session.accessTokenVersion + 1) ∨
      (¬ e.Revokes env w u ∧
        acc'.session.accessTokenVersion = acc.session.accessTokenVersion ∧
        (acc.user.isActive = true → acc'.user.isActive = true)) := by
  cases h with
  | stays _ hrevokes => exact Or.inr ⟨hrevokes, rfl, id⟩
  | evicted o => exact Or.inr ⟨id, rfl, id⟩
  | steps r _ htarget hstep =>
    rcases hstep.accessTokenVersion with ⟨hrevoking, hversion, -⟩ | ⟨hno, hversion, hactive⟩
    · exact Or.inl ⟨⟨htarget, acc, hacc, hrevoking⟩, hversion⟩
    · refine Or.inr ⟨?_, hversion, hactive⟩
      rintro ⟨-, acc₀, hacc₀, hrevoking⟩
      rw [hacc] at hacc₀
      cases hacc₀
      exact hno hrevoking

/-- Without a revocation the version stands still and an active account stays active. -/
theorem World.Sound.run_unrevoked {u : UserId} {acc : Account} {events : List Event}
    (hs : w.Sound) (hacc : w.account u = some acc) (hactive : acc.user.isActive = true)
    (h : Run.Throughout (World.after env) (fun w e => ¬ e.Revokes env w u) w events) :
    ∃ acc', (w.run env events).account u = some acc' ∧
      acc'.session.accessTokenVersion = acc.session.accessTokenVersion ∧
      acc'.user.isActive = true := by
  refine hs.run_account (I := fun _ a => a.session.accessTokenVersion =
    acc.session.accessTokenVersion ∧ a.user.isActive = true) ?_ hacc ⟨rfl, hactive⟩ h
  rintro w a e a' - ha ⟨hversion, hactive⟩ hkept hevolves
  rcases hevolves.accessTokenVersion ha with ⟨hrevokes, -⟩ | ⟨-, hversion', hactive'⟩
  · exact absurd hrevokes hkept
  · exact ⟨hversion'.trans hversion, hactive' hactive⟩

/-- The version never goes down. -/
theorem World.Sound.run_version_le (hs : w.Sound) {u : UserId} {acc : Account}
    (env : Env) (events : List Event) (hacc : w.account u = some acc) :
    ∃ acc', (w.run env events).account u = some acc' ∧
      acc.session.accessTokenVersion ≤ acc'.session.accessTokenVersion := by
  refine hs.run_account (P := fun _ _ => True) (I := fun _ a =>
    acc.session.accessTokenVersion ≤ a.session.accessTokenVersion) ?_ hacc le_rfl
    (Run.throughout_of_forall (fun _ _ => trivial) _ _)
  rintro w a e a' - ha hle - hevolves
  rcases hevolves.accessTokenVersion ha with ⟨-, hversion⟩ | ⟨-, hversion, -⟩ <;> omega

/-- A revocation moves it past every version of before. -/
theorem World.Sound.run_revoked {u : UserId} {acc : Account} {events : List Event}
    (hs : w.Sound) (hacc : w.account u = some acc)
    (h : ¬ Run.Throughout (World.after env) (fun w e => ¬ e.Revokes env w u) w events) :
    ∃ acc', (w.run env events).account u = some acc' ∧
      acc.session.accessTokenVersion < acc'.session.accessTokenVersion := by
  induction events generalizing w acc with
  | nil => exact absurd trivial h
  | cons e events ih =>
    obtain ⟨acc', hacc', hevolves⟩ := hs.evolves env hacc e
    rcases hevolves.accessTokenVersion hacc with ⟨-, hversion⟩ | ⟨hno, hversion, -⟩
    -- The first revocation moves the version, and nothing takes it back.
    · obtain ⟨acc'', hacc'', hle⟩ := (hs.after env e).run_version_le env events hacc'
      exact ⟨acc'', hacc'', by omega⟩
    · rw [← hversion]
      exact ih (hs.after env e) hacc' fun hrest => h ⟨hno, hrest⟩

/-! ### The law -/

/-- Tokens are issued to an active account, under its current version. -/
theorem World.Sound.issues (hs : w.Sound) {u : UserId} {t : LoginResponse} {e : Event}
    (h : e.Issues env w u t) :
    ∃ acc acc', w.account u = some acc ∧ (w.after env e).account u = some acc' ∧
      t = acc.issue env w.clock w.draws ∧ acc.user.status = .active ∧
      acc'.session = (acc.opened env w.clock w.draws).session ∧ acc'.user = acc.user ∧
      (w.after env e).draws = w.draws + 2 ∧ (w.after env e).clock = w.clock := by
  cases e with
  | outside o => exact absurd h id
  | request r =>
    obtain ⟨hout, hsub⟩ := h
    have hacts := hs.acts env r
    have hclock := hacts.clock
    have heffect := hacts.effect
    rw [hout] at heffect
    obtain ⟨id, acc, acc', -, hacc, hstep, hmoved⟩ := heffect.step_of_tokens
    obtain ⟨ht, hsession, huser, -, hdraws⟩ := hstep.tokens
    rw [ht, Account.issue_sub, World.account_id hacc] at hsub
    obtain rfl : id = u := Option.some.inj hsub
    exact ⟨acc, acc', hacc, hmoved.account, ht, hstep.tokens_active (hs.accounts id acc hacc),
      hsession, huser, hdraws, hclock⟩

/-- The database path accepts an unexpired access token exactly when its version is the
current one and the account is active. -/
theorem databaseAnswer_ok_iff {u : UserId} {acc : Account} (hacc : w.account u = some acc)
    {token : String} {version : ℕ} {role : UserRole}
    (htoken : accessTokenSubject env w.clock token = .ok (u, version, some role)) :
    (∃ user, databaseAnswer env w token = .ok (.currentUser user)) ↔
      acc.session.accessTokenVersion = version ∧ acc.user.isActive = true := by
  simp only [databaseAnswer, htoken, hacc]
  by_cases hversion : acc.session.accessTokenVersion = version
  · cases hactive : acc.user.isActive <;> simp [hversion]
  · simp [hversion]

/-- A token of another version is refused, expired or not. -/
theorem databaseAnswer_stale {u : UserId} {acc : Account} (hacc : w.account u = some acc)
    {token : String} {claims : Claims} (hdecode : env.jose.decode token = some claims)
    (hsub : claims.sub = some u) (hversion : claims.version ≠ some acc.session.accessTokenVersion)
    (response : Response) : databaseAnswer env w token ≠ .ok response := by
  unfold databaseAnswer
  cases hsubject : accessTokenSubject env w.clock token with
  | error e => simp
  | ok subject =>
    obtain ⟨id, version, role⟩ := subject
    obtain ⟨claims', hdecode', -, -, hsub', hversion', -⟩ := accessTokenSubject_eq_ok.mp hsubject
    rw [hdecode] at hdecode'
    cases hdecode'
    rw [hsub] at hsub'
    cases hsub'
    -- The token is not expired: its version decides.
    cases role with
    | none => simp
    | some role =>
      have hne : acc.session.accessTokenVersion ≠ version := by
        rintro rfl
        exact hversion hversion'
      simp [hacc, hne]

/-- **A token of an earlier version is refused for ever.** -/
theorem World.Sound.accessToken_refused (hs : w.Sound) {u : UserId} {acc : Account}
    (hacc : w.account u = some acc) {token : String} {claims : Claims} {version : ℕ}
    (hdecode : env.jose.decode token = some claims) (hsub : claims.sub = some u)
    (hversion : claims.version = some version) (hlt : version < acc.session.accessTokenVersion)
    (events : List Event) (response : Response) :
    (w.run env events).respond env (.getCurrentUser token) ≠ .ok response := by
  obtain ⟨acc', hacc', hle⟩ := hs.run_version_le env events hacc
  rw [getCurrentUser_respond (hs.run env events)]
  refine databaseAnswer_stale hacc' hdecode hsub ?_ response
  rw [hversion, ne_eq, Option.some.injEq]
  omega

/-- What the access token of `issue` says, while it is not expired. -/
theorem accessTokenSubject_issue {acc : Account} {now later : Time} {draws : ℕ} {claims : Claims}
    (hclaims : env.jose.decode (acc.issue env now draws).accessToken = some claims)
    (hexp : later.timegm ≤ claims.exp) :
    accessTokenSubject env later (acc.issue env now draws).accessToken =
      .ok (acc.user.id, acc.session.accessTokenVersion, some acc.user.role) := by
  refine accessTokenSubject_eq_ok.mpr ⟨claims, hclaims, hexp, ?_⟩
  simp only [Account.issue, createAccessToken, env.jose.decode_encode, Option.some.injEq] at hclaims
  subst hclaims
  exact ⟨rfl, rfl, rfl, rfl⟩

/-- The database path does not look at the cache. -/
theorem databaseAnswer_expire (w : World) (key : CacheKey) (token : String) :
    databaseAnswer env (w.after env (.outside (.expire key))) token =
      databaseAnswer env w token := by
  have hclock : (w.after env (.outside (.expire key))).clock = w.clock := rfl
  have hdb : (w.after env (.outside (.expire key))).db = w.db := rfl
  unfold databaseAnswer
  rw [hclock]
  cases accessTokenSubject env w.clock token with
  | error e => rfl
  | ok subject =>
    obtain ⟨id, version, _ | role⟩ := subject
    · rfl
    · cases hacc : w.account id with
      | none =>
        simp only [World.account_eq_none_of_db hdb hacc, hacc]
      | some acc =>
        rcases w.outside_account (.expire key) hacc with h | h <;> simp only [World.after, h, hacc]

/-- **An access token is accepted exactly as long as no operation revokes it**, at every
point of every sequential run and up to its expiry; and whatever is or is not cached,
the answer to any token is the same. -/
theorem accessToken_accepted_iff (env : Env) (w₀ : World) (h₀ : w₀.Seeded) :
    (∀ (before : List Event) (mint : Event) (after : List Event) (u : UserId) (t : LoginResponse)
        (claims : Claims),
      mint.Issues env (w₀.run env before) u t →
      env.jose.decode t.accessToken = some claims →
      (w₀.run env (before ++ mint :: after)).clock.timegm ≤ claims.exp →
      ((∃ user, (w₀.run env (before ++ mint :: after)).respond env (.getCurrentUser t.accessToken) =
          .ok (.currentUser user)) ↔
        Run.Throughout (World.after env) (fun w e => ¬ e.Revokes env w u)
          (w₀.run env (before ++ [mint])) after)) ∧
    (∀ (events : List Event) (key : CacheKey) (token : String),
      ((w₀.run env events).after env (.outside (.expire key))).respond env (.getCurrentUser token) =
        (w₀.run env events).respond env (.getCurrentUser token)) := by
  refine ⟨fun before mint after u t claims hmint hclaims hexp => ?_, fun events key token => ?_⟩
  · have hs := h₀.sound.run env before
    obtain ⟨acc, acc', hacc, hacc', rfl, hstatus, hsession, huser, -⟩ := hs.issues hmint
    have hactive : acc'.user.isActive = true := by
      rw [((hs.after env mint).accounts u acc' hacc').isActive, huser]
      exact hstatus
    have hversion : acc'.session.accessTokenVersion = acc.session.accessTokenVersion := by
      rw [hsession]
      rfl
    rw [World.run_around] at hexp ⊢
    rw [World.run_concat]
    have htoken := accessTokenSubject_issue hclaims hexp
    rw [World.account_id hacc] at htoken
    rw [getCurrentUser_respond ((hs.after env mint).run env after)]
    -- Without a revocation the version stands still, with one it has moved past the token.
    by_cases h : Run.Throughout (World.after env) (fun w e => ¬ e.Revokes env w u)
      ((w₀.run env before).after env mint) after
    · obtain ⟨acc'', hacc'', hversion', hactive'⟩ :=
        (hs.after env mint).run_unrevoked hacc' hactive h
      rw [databaseAnswer_ok_iff hacc'' htoken]
      exact ⟨fun _ => h, fun _ => ⟨hversion'.trans hversion, hactive'⟩⟩
    · obtain ⟨acc'', hacc'', hlt⟩ := (hs.after env mint).run_revoked hacc' h
      rw [databaseAnswer_ok_iff hacc'' htoken]
      exact ⟨fun h' => by omega, fun h' => absurd h' h⟩
  · have hs := h₀.sound.run env events
    rw [getCurrentUser_respond hs, getCurrentUser_respond (hs.after env _)]
    exact databaseAnswer_expire _ key token

/-- The tokens of the concrete login. -/
theorem loginAda_issues : loginAda.Issues .concrete World.concrete 2 tokensAda := by
  exact ⟨rfl, by decide +kernel⟩

/-- A student's access token is good after the login, and no longer after a logout. -/
theorem accessToken_accepted_concrete :
    (∃ user, (World.concrete.run .concrete [loginAda]).respond .concrete
      (.getCurrentUser tokensAda.accessToken) = .ok (.currentUser user)) ∧
    ¬ ∃ user, (World.concrete.run .concrete [loginAda, .request (.logout 2)]).respond .concrete
      (.getCurrentUser tokensAda.accessToken) = .ok (.currentUser user) := by
  have hlaw := fun after hexp => (accessToken_accepted_iff .concrete .concrete
    World.concrete_seeded).1 [] loginAda after 2 tokensAda
    { sub := some 2, role := some .student, version := some 1, type := "access", jti := none
      exp := 900 } loginAda_issues (by decide +kernel) hexp
  refine ⟨(hlaw [] (by decide)).mpr trivial, fun h => ?_⟩
  exact ((hlaw [.request (.logout 2)] (by decide)).mp h).1 ⟨rfl, _, rfl, trivial⟩

end SmsLite
