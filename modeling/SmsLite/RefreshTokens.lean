import SmsLite.AccessTokens

/-!
# Refresh tokens over sequential runs

The refresh columns of an account are the only record of the tokens it was issued: one
hash, one family, one expiry.  This module relates them to the history of a run, the list
of everything that was ever issued and revoked.

## Main definitions

* `Accepted` — `refresh_token` answers a pair with new tokens.
* `Current` — the pair last issued to a user and not revoked since, by the history.
* `Spent` — a token issued in the past that the columns no longer hold.

## Main results

* `accepted_iff` — acceptance, in terms of the account.
* `World.Seeded.current_iff` — **the columns are the history's current pair**.
* `Spent.run` — a spent token stays spent.
* `refreshToken_singleUse` — **one pair at a time, each once, and replays end the session**.
* `refreshToken_revoked_iff` — **refresh tokens die with the version exactly if no live
  session is renamed**.
-/

namespace SmsLite

open Interleave
open Interleave.Prog (Ends ends_map)

variable {env : Env} {w : World}

/-! ### Acceptance -/

/-- `refresh_token` answers the pair with new tokens for the user. -/
def Accepted (env : Env) (w : World) (u : UserId) (token family : String) : Prop :=
  refreshTokenSubject env w.clock token = .ok u ∧
    ∃ t, w.respond env (.refreshToken token family) = .ok (.tokens t)

/-- The account's own pair, in time, is answered with new tokens. -/
theorem Account.Accepts.respond (hs : w.Sound) {u : UserId} {acc : Account}
    (hacc : w.account u = some acc) {token family : String}
    (h : acc.Accepts env w.clock token family) :
    w.respond env (.refreshToken token family) = .ok (.tokens (acc.issue env w.clock w.draws)) := by
  obtain ⟨hsub, hascii, expiresAt, ⟨hhash, hfamily, hexpires⟩, hnow⟩ := h
  obtain rfl := World.account_id hacc
  change Ends (exec env) (Response.tokens <$> refreshToken env token family)
    (fun out _ => out = .ok (.tokens (acc.issue env w.clock w.draws))) w
  rw [ends_map]
  unfold refreshToken
  rw [ends_datetimeNow, hsub, ofExcept_ok, ends_getUserById,
    World.selectUserById_of_account hacc (by simp [UserQuery.admits])]
  simp only [Account.loaded_user, Account.loaded_session, if_true, deref_some, hhash, hfamily,
    hexpires]
  rw [ends_datetimeNow, if_neg (not_lt.mpr hnow), compareDigest_of_ascii hascii hascii]
  simp only [ofExcept_ok, verifyDigest_sha256, beq_self_eq_true, Bool.not_true, Bool.or_self,
    Bool.false_eq_true, if_false]
  exact openSession_ends hs.toCoherent hacc rfl _ (by simp) fun _ _ _ _ _ => rfl

/-- `refresh_token` on a pair, whatever it is. -/
theorem accepted_iff (hs : w.Sound) {u : UserId} {token family : String} :
    Accepted env w u token family ↔
      ∃ acc, w.account u = some acc ∧ acc.Accepts env w.clock token family := by
  constructor
  · rintro ⟨hsub, t, hout⟩
    have htarget : (Request.refreshToken token family).target? env w = some u := by
      simp [Request.target?, hsub, Except.toOption]
    have heffect := (hs.acts env (.refreshToken token family)).effect
    rw [hout] at heffect
    obtain ⟨id, acc, acc', htarget', hacc, hstep, -⟩ := heffect.step_of_tokens
    obtain rfl : id = u := Option.some.inj (htarget'.symm.trans htarget)
    refine ⟨acc, hacc, ?_⟩
    generalize (w.after env (.request (.refreshToken token family))).draws = draws' at hstep
    cases hstep with
    | refreshToken _ _ _ h => exact h
  · rintro ⟨acc, hacc, h⟩
    exact ⟨World.account_id hacc ▸ h.1, _, h.respond hs hacc⟩

/-- The security-violation branch, on a pair that is not the account's. -/
theorem Account.Violation.respond (hs : w.Sound) {u : UserId} {acc : Account}
    (hacc : w.account u = some acc) {token family : String}
    (h : acc.Violation env w.clock token family) :
    w.respond env (.refreshToken token family) =
        .error (.app .invalidRefreshTokenError HTTP401.invalidRefreshToken) ∧
      (w.after env (.request (.refreshToken token family))).account u = some acc.revoked := by
  have htarget : (Request.refreshToken token family).target? env w = some u := by
    simp [Request.target?, h.1, Except.toOption, World.account_id hacc]
  -- Of what the account can do, only the violation answers such a pair.
  cases (hs.acts env (.refreshToken token family)).effect with
  | quiet _ _ _ hquiet =>
    generalize w.respond env (.refreshToken token family) = out at hquiet
    cases hquiet with
    | read _ hr => cases hr
    | failed e hrevoking => exact absurd h (hrevoking u acc htarget hacc)
    | absent _ _ hnone => simp [hnone u htarget] at hacc
  | registered _ _ _ hr => cases hr
  | moved id acc₀ acc' htarget' hacc₀ hstep hmoved =>
    obtain rfl : id = u := Option.some.inj (htarget'.symm.trans htarget)
    rw [hacc] at hacc₀
    cases hacc₀
    obtain ⟨hout, rfl⟩ : w.respond env (.refreshToken token family) =
        .error (.app .invalidRefreshTokenError HTTP401.invalidRefreshToken) ∧
        acc' = acc.revoked := by
      generalize (w.after env (.request (.refreshToken token family))).draws = draws' at hstep
      generalize w.respond env (.refreshToken token family) = out at hstep
      cases hstep with
      | refreshToken _ _ _ haccepts => exact absurd h haccepts.not_violation
      | violation => exact ⟨rfl, rfl⟩
    exact ⟨hout, hmoved.account⟩

/-! ### The columns and the history -/

/-- The event ends the refresh session of the user. -/
def Event.EndsSession (env : Env) (w : World) (u : UserId) (e : Event) : Prop :=
  e.Revokes env w u ∧ ∀ q, e ≠ .request (.updateMeCredentials u q)

/-- The event leaves the refresh session of the user alone. -/
def Event.KeepsSession (env : Env) (w : World) (u : UserId) (e : Event) : Prop :=
  (∀ t, ¬ e.Issues env w u t) ∧ ¬ e.EndsSession env w u

/-- The columns of a session opened with the tokens at the given time. -/
def sessionColumns (env : Env) (t : LoginResponse) (since : Time) :
    Option String × Option String × Option Time :=
  (some (env.sha256 t.refreshTokenCookie), some t.refreshTokenFamilyCookie,
    some (since + Time.days env.settings.refreshTokenExpiresDays))

/-- What an event does to the refresh columns of an account. -/
theorem Evolves.refreshColumns {u : UserId} {acc acc' : Account} {e : Event}
    (hacc : w.account u = some acc) (h : Evolves env w u acc e acc') :
    (∃ t, e.Issues env w u t ∧ t = acc.issue env w.clock w.draws ∧
        acc'.refreshColumns = sessionColumns env t w.clock) ∨
      (e.EndsSession env w u ∧ acc'.refreshColumns = (none, none, none)) ∨
      (e.KeepsSession env w u ∧ acc'.refreshColumns = acc.refreshColumns) := by
  cases h with
  | stays _ hrevokes hissues => exact Or.inr (Or.inr ⟨⟨hissues, fun h => hrevokes h.1⟩, rfl⟩)
  | evicted o => exact Or.inr (Or.inr ⟨⟨fun _ => id, fun h => h.1⟩, rfl⟩)
  | steps r _ htarget hstep =>
    -- On the level of events and of steps the session ends in the same cases.
    have hends : (Event.request r).EndsSession env w u ↔
        acc.EndsSession env w.clock r (w.respond env r) := by
      constructor
      · rintro ⟨⟨-, acc₀, hacc₀, hrevoking⟩, hr⟩
        rw [hacc] at hacc₀
        cases hacc₀
        refine ⟨hrevoking, ?_⟩
        rintro id q rfl
        obtain rfl : id = u := Option.some.inj htarget
        exact hr q rfl
      · rintro ⟨hrevoking, hr⟩
        refine ⟨⟨htarget, acc, hacc, hrevoking⟩, ?_⟩
        rintro q ⟨⟩
        exact hr _ _ rfl
    have hissues : (∀ t, w.respond env r ≠ .ok (.tokens t)) → ∀ t,
        ¬ (Event.request r).Issues env w u t := fun h t ht => h t ht.1
    rcases hstep.refreshColumns with ⟨hout, hcols⟩ | ⟨-, h, hcols⟩ | ⟨hno, h, hcols⟩
    · refine Or.inl ⟨_, ⟨hout, ?_⟩, rfl, hcols⟩
      rw [Account.issue_sub, World.account_id hacc]
    · exact Or.inr (Or.inl ⟨hends.mpr h, hcols⟩)
    · exact Or.inr (Or.inr ⟨⟨hissues hno, fun h' => h (hends.mp h')⟩, hcols⟩)

/-- The pair most recently issued to the user and not revoked since, and when it was
issued. -/
def Current (env : Env) (w₀ : World) (events : List Event) (u : UserId) (t : LoginResponse)
    (since : Time) : Prop :=
  ∃ before mint after, events = before ++ mint :: after ∧
    mint.Issues env (w₀.run env before) u t ∧ since = (w₀.run env before).clock ∧
    Run.Throughout (World.after env) (fun w e => e.KeepsSession env w u)
      ((w₀.run env before).after env mint) after

/-- The tokens were issued to the user at some point of the run. -/
def Issued (env : Env) (w₀ : World) (events : List Event) (u : UserId) (t : LoginResponse) : Prop :=
  ∃ before mint after, events = before ++ mint :: after ∧
    mint.Issues env (w₀.run env before) u t

/-- The run goes on without touching the session. -/
theorem Current.concat {w₀ : World} {events : List Event} {u : UserId} {t : LoginResponse}
    {since : Time} (h : Current env w₀ events u t since) {e : Event}
    (he : e.KeepsSession env (w₀.run env events) u) :
    Current env w₀ (events ++ [e]) u t since := by
  obtain ⟨before, mint, after, rfl, hmint, hsince, hkept⟩ := h
  refine ⟨before, mint, after ++ [e], by simp, hmint, hsince, ?_⟩
  rw [World.run_around] at he
  exact (Run.throughout_append _ _ _).mpr ⟨hkept, he, trivial⟩

/-- **The columns are the history's current pair.** -/
theorem World.Seeded.current_iff {w₀ : World} (h₀ : w₀.Seeded) {events : List Event} {u : UserId}
    {acc : Account} (hacc : (w₀.run env events).account u = some acc) :
    (∀ t since, Current env w₀ events u t since → acc.refreshColumns = sessionColumns env t since) ∧
      (acc.session.refreshTokenHash ≠ none → ∃ t since, Current env w₀ events u t since) := by
  constructor
  -- From the columns at the issue, kept by every event since.
  · rintro t since ⟨before, mint, after, rfl, hmint, rfl, hkept⟩
    have hs := h₀.sound.run env before
    obtain ⟨acc₁, acc₂, -, hacc₂, rfl, -, hsession, -⟩ := hs.issues hmint
    have hcols : acc₂.refreshColumns = sessionColumns env (acc₁.issue env (w₀.run env before).clock
        (w₀.run env before).draws) (w₀.run env before).clock := by
      rw [Account.refreshColumns, hsession]
      rfl
    obtain ⟨acc₃, hacc₃, hcols₃⟩ := (hs.after env mint).run_account
      (I := fun _ a => a.refreshColumns = acc₂.refreshColumns)
      (fun w a e a' _ ha hI hkeeps hevolves => by
        rcases hevolves.refreshColumns ha with ⟨t, ht, -⟩ | ⟨hends, -⟩ | ⟨-, hsame⟩
        · exact absurd ht (hkeeps.1 t)
        · exact absurd hends hkeeps.2
        · exact hsame.trans hI)
      hacc₂ rfl hkept
    rw [World.run_around, hacc₃] at hacc
    cases hacc
    exact hcols₃.trans hcols
  · induction events using List.reverseRecOn generalizing acc with
    | nil =>
      intro hne
      rw [h₀.session hacc] at hne
      exact absurd rfl hne
    | append_singleton events e ih =>
      intro hne
      rw [World.run_concat] at hacc
      have hs := h₀.sound.run env events
      cases hacc₀ : (w₀.run env events).account u with
      | none =>
        -- A new account has no session yet.
        rw [(hs.account_new hacc₀ hacc).1] at hne
        exact absurd rfl hne
      | some acc₀ =>
        obtain ⟨acc', hacc', hevolves⟩ := hs.evolves env hacc₀ e
        rw [hacc] at hacc'
        cases hacc'
        rcases hevolves.refreshColumns hacc₀ with ⟨t, ht, -⟩ | ⟨-, hcleared⟩ | ⟨hkeeps, hsame⟩
        · exact ⟨t, _, events, e, [], rfl, ht, rfl, trivial⟩
        · exact absurd (congrArg Prod.fst hcleared) hne
        · have hhash : acc.session.refreshTokenHash = acc₀.session.refreshTokenHash :=
            congrArg Prod.fst hsame
          obtain ⟨t, since, hcurrent⟩ := ih hacc₀ (hhash ▸ hne)
          exact ⟨t, since, hcurrent.concat hkeeps⟩

/-! ### Tokens of the past -/

/-- The pair an event issues, by the clock and the draws. -/
theorem Event.Issues.pair (hs : w.Sound) {u : UserId} {t : LoginResponse} {e : Event}
    (h : e.Issues env w u t) :
    t.refreshTokenCookie = createRefreshToken env w.clock u (env.tokenUrlsafe (w.draws + 1)) ∧
      t.refreshTokenFamilyCookie = env.tokenUrlsafe w.draws ∧
      (w.after env e).draws = w.draws + 2 := by
  obtain ⟨acc, acc', hacc, -, rfl, -, -, -, hdraws, -⟩ := hs.issues h
  obtain rfl := World.account_id hacc
  exact ⟨rfl, rfl, hdraws⟩

/-- Only `login` and `refresh_token` issue tokens. -/
theorem Event.Issues.request (hs : w.Sound) {u : UserId} {t : LoginResponse} {e : Event}
    (h : e.Issues env w u t) :
    (∃ formData, e = .request (.login formData)) ∨
      ∃ token family, e = .request (.refreshToken token family) := by
  obtain ⟨acc, -, hacc, -⟩ := hs.issues h
  obtain ⟨acc', -, hevolves⟩ := hs.evolves env hacc e
  cases hevolves with
  | stays _ _ hissues => exact absurd h (hissues t)
  | evicted => exact absurd h id
  | steps r _ _ hstep =>
    rw [h.1] at hstep
    generalize (w.after env (.request r)).draws = draws' at hstep
    cases hstep with
    | login => exact Or.inl ⟨_, rfl⟩
    | refreshToken => exact Or.inr ⟨_, _, rfl⟩

/-- A refresh token of an earlier draw. -/
def Minted (env : Env) (w : World) (token : String) : Prop :=
  ∃ now u n, n < w.draws ∧ token = createRefreshToken env now u (env.tokenUrlsafe n)

/-- A refresh token of an earlier draw that the columns do not hold, or hold beyond its
time. -/
def Spent (env : Env) (token : String) (w : World) (acc : Account) : Prop :=
  Minted env w token ∧
    ∀ expiresAt, acc.session.refreshTokenHash = some (env.sha256 token) →
      acc.session.refreshTokenExpiresAt = some expiresAt → expiresAt < w.clock

/-- Draws of the past stay draws of the past. -/
theorem Minted.after (hs : w.Sound) {token : String} (h : Minted env w token) (e : Event) :
    Minted env (w.after env e) token := by
  obtain ⟨now, u, n, hn, htoken⟩ := h
  exact ⟨now, u, n, lt_of_lt_of_le hn (hs.draws_le_after env e), htoken⟩

/-- Every token issued in a run is of an earlier draw than its end. -/
theorem Issued.minted {w₀ : World} (h₀ : w₀.Sound) {events : List Event} {u : UserId}
    {t : LoginResponse} (h : Issued env w₀ events u t) :
    Minted env (w₀.run env events) t.refreshTokenCookie := by
  obtain ⟨before, mint, after, rfl, hmint⟩ := h
  have hs := h₀.run env before
  obtain ⟨hcookie, -, hdraws⟩ := hmint.pair hs
  refine ⟨_, u, _, ?_, hcookie⟩
  have hle := (hs.after env mint).draws_le_run env after
  rw [World.run_around]
  omega

/-- New tokens are not old ones. -/
theorem spent_of_issues (hl : env.Ideal) (hs : w.Sound) {u : UserId} {acc' : Account}
    {e : Event} {t : LoginResponse} {token : String} (hissues : e.Issues env w u t)
    (hcols : acc'.refreshColumns = sessionColumns env t w.clock) (h : Minted env w token) :
    Spent env token (w.after env e) acc' := by
  refine ⟨h.after hs e, fun expiresAt hhash _ => ?_⟩
  obtain ⟨now, v, n, hn, rfl⟩ := h
  have hnew : some (env.sha256 t.refreshTokenCookie) = _ :=
    (congrArg Prod.fst hcols).symm.trans hhash
  have hcookie := hl.sha256 (Option.some.inj hnew)
  rw [(hissues.pair hs).1] at hcookie
  have hdraw := hl.tokenUrlsafe (createRefreshToken_injective env hcookie).2
  omega

/-- **A spent token stays spent**, whatever happens. -/
theorem Spent.evolves (hl : env.Ideal) (hs : w.Sound) {u : UserId} {acc acc' : Account}
    {e : Event} {token : String} (hacc : w.account u = some acc)
    (hevolves : Evolves env w u acc e acc') (h : Spent env token w acc) :
    Spent env token (w.after env e) acc' := by
  rcases hevolves.refreshColumns hacc with ⟨t, ht, -, hcols⟩ | ⟨-, hcols⟩ | ⟨-, hcols⟩
  · exact spent_of_issues hl hs ht hcols h.1
  all_goals
    obtain ⟨hminted, hspent⟩ := h
    refine ⟨hminted.after hs e, fun x hhash hx => ?_⟩
    simp only [Account.refreshColumns, Prod.mk.injEq] at hcols
  · rw [hcols.1] at hhash
    cases hhash
  · rw [hcols.1] at hhash
    rw [hcols.2.2] at hx
    exact lt_of_lt_of_le (hspent x hhash hx) (hs.clock_le_after env e)

/-- **A spent token is never accepted again.** -/
theorem Spent.run (hl : env.Ideal) (hs : w.Sound) {u : UserId} {acc : Account} {token : String}
    (hacc : w.account u = some acc) (h : Spent env token w acc) (events : List Event)
    (family : String) : ¬ Accepted env (w.run env events) u token family := by
  obtain ⟨acc', hacc', hspent⟩ := hs.run_account (P := fun _ _ => True)
    (I := fun w a => Spent env token w a)
    (fun w a e a' hs ha hI _ hevolves => hI.evolves hl hs ha hevolves)
    hacc h (Run.throughout_of_forall (fun _ _ => trivial) w events)
  rw [accepted_iff (hs.run env events)]
  rintro ⟨acc'', hacc'', -, -, x, ⟨hhash, -, hx⟩, hnow⟩
  rw [hacc'] at hacc''
  cases hacc''
  exact absurd (hspent.2 x hhash hx) (not_lt.mpr hnow)

/-- A user tokens were issued to exists, and the tokens carry no version of the future. -/
theorem Issued.account {w₀ : World} (h₀ : w₀.Sound) {events : List Event} {u : UserId}
    {t : LoginResponse} (h : Issued env w₀ events u t) :
    ∃ acc, (w₀.run env events).account u = some acc ∧
      ∃ claims version, env.jose.decode t.accessToken = some claims ∧ claims.sub = some u ∧
        claims.version = some version ∧ version ≤ acc.session.accessTokenVersion := by
  obtain ⟨before, mint, after, rfl, hmint⟩ := h
  have hs := h₀.run env before
  obtain ⟨acc, acc', hacc, hacc', rfl, -, hsession, -⟩ := hs.issues hmint
  obtain ⟨acc'', hacc'', hle⟩ := (hs.after env mint).run_version_le env after hacc'
  have hversion : acc'.session.accessTokenVersion = acc.session.accessTokenVersion := by
    rw [hsession]
    rfl
  rw [World.run_around]
  refine ⟨acc'', hacc'', _, _, env.jose.decode_encode _, ?_, rfl, hversion ▸ hle⟩
  rw [← World.account_id hacc]
  rfl

theorem Current.issued {w₀ : World} {events : List Event} {u : UserId} {t : LoginResponse}
    {since : Time} (h : Current env w₀ events u t since) : Issued env w₀ events u t := by
  obtain ⟨before, mint, after, hevents, hmint, -⟩ := h
  exact ⟨before, mint, after, hevents, hmint⟩

/-- The current pair, by the time and the draws of its issue. -/
theorem Current.pair {w₀ : World} (h₀ : w₀.Sound) {events : List Event} {u : UserId}
    {t : LoginResponse} {since : Time} (h : Current env w₀ events u t since) :
    ∃ draws, t.refreshTokenCookie = createRefreshToken env since u (env.tokenUrlsafe (draws + 1)) ∧
      t.refreshTokenFamilyCookie = env.tokenUrlsafe draws := by
  obtain ⟨before, mint, after, -, hmint, rfl, -⟩ := h
  obtain ⟨hcookie, hfamily, -⟩ := hmint.pair (h₀.run env before)
  exact ⟨_, hcookie, hfamily⟩

/-- **The accepted pair is the current one**, in its time. -/
theorem World.Seeded.accepted_iff_current {w₀ : World} (h₀ : w₀.Seeded) (hl : env.Ideal)
    (events : List Event) (u : UserId) (token family : String) :
    Accepted env (w₀.run env events) u token family ↔
      ∃ t since, Current env w₀ events u t since ∧
        (w₀.run env events).clock ≤ since + Time.days env.settings.refreshTokenExpiresDays ∧
        token = t.refreshTokenCookie ∧ family = t.refreshTokenFamilyCookie := by
  rw [accepted_iff (h₀.sound.run env events)]
  constructor
  · rintro ⟨acc, hacc, -, -, expiresAt, ⟨hhash, hfamily, hexpires⟩, hnow⟩
    obtain ⟨t, since, hcurrent⟩ := (h₀.current_iff hacc).2 (by simp [hhash])
    have hcols := (h₀.current_iff hacc).1 t since hcurrent
    simp only [Account.refreshColumns, sessionColumns, hhash, hfamily, hexpires, Prod.mk.injEq,
      Option.some.injEq] at hcols
    obtain ⟨hhash, rfl, rfl⟩ := hcols
    exact ⟨t, since, hcurrent, hnow, hl.sha256 hhash, rfl⟩
  · rintro ⟨t, since, hcurrent, hnow, rfl, rfl⟩
    obtain ⟨acc, hacc, -⟩ := hcurrent.issued.account h₀.sound
    have hcols := (h₀.current_iff hacc).1 t since hcurrent
    simp only [Account.refreshColumns, sessionColumns, Prod.mk.injEq] at hcols
    obtain ⟨draws, hcookie, hfamily⟩ := hcurrent.pair h₀.sound
    refine ⟨acc, hacc, ?_, hfamily ▸ hl.tokenUrlsafe_isAscii draws, _, hcols, hnow⟩
    rw [World.account_id hacc, refreshTokenSubject_eq_ok, hcookie]
    exact ⟨_, env.jose.decode_encode _, Nat.div_le_div_right hnow, rfl, rfl⟩

/-! ### Single use and theft -/

/-- No two pairs are accepted at a time. -/
theorem Accepted.unique (hl : env.Ideal) (hs : w.Sound) {u : UserId}
    {token family token' family' : String} (h : Accepted env w u token family)
    (h' : Accepted env w u token' family') : token = token' ∧ family = family' := by
  obtain ⟨acc, hacc, -, -, expiresAt, ⟨hhash, hfamily, -⟩, -⟩ := (accepted_iff hs).mp h
  obtain ⟨acc', hacc', -, -, expiresAt', ⟨hhash', hfamily', -⟩, -⟩ := (accepted_iff hs).mp h'
  rw [hacc] at hacc'
  cases hacc'
  rw [hhash] at hhash'
  rw [hfamily] at hfamily'
  exact ⟨hl.sha256 (Option.some.inj hhash'), Option.some.inj hfamily'⟩

/-- The pair is accepted once: what answers it replaces it. -/
theorem World.Seeded.accepted_once {w₀ : World} (h₀ : w₀.Seeded) (hl : env.Ideal)
    {before : List Event} {u : UserId} {token family : String}
    (h : Accepted env (w₀.run env before) u token family) (after : List Event) (family' : String) :
    ¬ Accepted env
      (w₀.run env (before ++ .request (.refreshToken token family) :: after)) u token family' := by
  have hs := h₀.sound.run env before
  obtain ⟨t, since, hcurrent, -, rfl, -⟩ := (h₀.accepted_iff_current hl before u token family).mp h
  have hminted := hcurrent.issued.minted h₀.sound
  obtain ⟨acc, hacc, haccepts⟩ := (accepted_iff hs).mp h
  have hout := haccepts.respond hs hacc
  obtain ⟨acc', hacc', hevolves⟩ :=
    hs.evolves env hacc (.request (.refreshToken t.refreshTokenCookie family))
  have hissues : (Event.request (.refreshToken t.refreshTokenCookie family)).Issues env
      (w₀.run env before) u _ := ⟨hout, by rw [Account.issue_sub, World.account_id hacc]⟩
  rw [World.run_around]
  refine Spent.run hl (hs.after env _) hacc' ?_ after family'
  -- The acceptance itself has written a new pair over the old one.
  rcases hevolves.refreshColumns hacc with ⟨t', ht', -, hcols⟩ | ⟨hends, -⟩ | ⟨hkeeps, -⟩
  · exact spent_of_issues hl hs ht' hcols hminted
  · exact absurd hends.1 fun ⟨_, acc₀, hacc₀, hrevoking⟩ => by
      rw [hacc] at hacc₀
      cases hacc₀
      exact haccepts.not_violation hrevoking
  · exact absurd hissues (hkeeps.1 _)

/-- A foreign pair presented against a live session is a security violation. -/
theorem Current.violation {w₀ : World} (h₀ : w₀.Seeded) (hl : env.Ideal) {events : List Event}
    {u : UserId} {t : LoginResponse} {since : Time} (h : Current env w₀ events u t since)
    (hlive : (w₀.run env events).clock ≤ since + Time.days env.settings.refreshTokenExpiresDays)
    {token family : String}
    (hgenuine : refreshTokenSubject env (w₀.run env events).clock token = .ok u)
    (hascii : isAscii family = true)
    (hforeign : ¬ (token = t.refreshTokenCookie ∧ family = t.refreshTokenFamilyCookie)) :
    ∃ acc, (w₀.run env events).account u = some acc ∧
      acc.Violation env (w₀.run env events).clock token family := by
  obtain ⟨acc, hacc, -⟩ := h.issued.account h₀.sound
  have hcols := (h₀.current_iff hacc).1 t since h
  simp only [Account.refreshColumns, sessionColumns, Prod.mk.injEq] at hcols
  obtain ⟨draws, -, hfamily⟩ := h.pair h₀.sound
  refine ⟨acc, hacc, World.account_id hacc ▸ hgenuine, _, _, _, hcols, hlive, hascii,
    hfamily ▸ hl.tokenUrlsafe_isAscii draws, env.sha256_isAscii _, ?_⟩
  rintro ⟨hfam, hhash⟩
  exact hforeign ⟨hl.sha256 hhash, hfam⟩

/-- **One pair at a time, each once, and replays end the session.**

* At every moment `refresh_token` accepts exactly the pair most recently issued to the
  user and not revoked since, in its time; so it accepts one pair at most.
* A pair that was accepted is never accepted again.
* While a session is live, presenting another genuine token of the user, or its token
  with another family, raises `InvalidRefreshTokenError`, clears the refresh columns and
  moves the version; from then on no token issued before is accepted, refresh or access. -/
theorem refreshToken_singleUse (env : Env) (hl : env.Ideal) (w₀ : World) (h₀ : w₀.Seeded)
    (u : UserId) :
    (∀ events token family, Accepted env (w₀.run env events) u token family ↔
      ∃ t since, Current env w₀ events u t since ∧
        (w₀.run env events).clock ≤ since + Time.days env.settings.refreshTokenExpiresDays ∧
        token = t.refreshTokenCookie ∧ family = t.refreshTokenFamilyCookie) ∧
    (∀ events token family token' family', Accepted env (w₀.run env events) u token family →
      Accepted env (w₀.run env events) u token' family' → token = token' ∧ family = family') ∧
    (∀ before token family after, Accepted env (w₀.run env before) u token family →
      ¬ Accepted env (w₀.run env (before ++ .request (.refreshToken token family) :: after)) u
        token family) ∧
    (∀ events t since token family, Current env w₀ events u t since →
      (w₀.run env events).clock ≤ since + Time.days env.settings.refreshTokenExpiresDays →
      refreshTokenSubject env (w₀.run env events).clock token = .ok u → isAscii family = true →
      ¬ (token = t.refreshTokenCookie ∧ family = t.refreshTokenFamilyCookie) →
      (w₀.run env events).respond env (.refreshToken token family) =
          .error (.app .invalidRefreshTokenError HTTP401.invalidRefreshToken) ∧
        (∃ acc acc', (w₀.run env events).account u = some acc ∧
          ((w₀.run env events).after env (.request (.refreshToken token family))).account u =
            some acc' ∧ acc'.refreshColumns = (none, none, none) ∧
          acc'.session.accessTokenVersion = acc.session.accessTokenVersion + 1) ∧
        ∀ t' after, Issued env w₀ events u t' →
          (∀ family', ¬ Accepted env
            (w₀.run env (events ++ .request (.refreshToken token family) :: after)) u
            t'.refreshTokenCookie family') ∧
          ∀ response,
            (w₀.run env (events ++ .request (.refreshToken token family) :: after)).respond env
              (.getCurrentUser t'.accessToken) ≠ .ok response) := by
  refine ⟨fun events => h₀.accepted_iff_current hl events u, ?_,
    fun before token family after h => h₀.accepted_once hl h after family, ?_⟩
  · exact fun events _ _ _ _ h h' => h.unique hl (h₀.sound.run env events) h'
  · intro events t since token family hcurrent hlive hgenuine hascii hforeign
    have hs := h₀.sound.run env events
    obtain ⟨acc, hacc, hviolation⟩ :=
      hcurrent.violation h₀ hl hlive hgenuine hascii hforeign
    obtain ⟨hout, hacc'⟩ := hviolation.respond hs hacc
    refine ⟨hout, ⟨acc, _, hacc, hacc', rfl, rfl⟩, fun t' after ht' => ?_⟩
    -- The columns are empty now and the version has moved.
    rw [World.run_around]
    constructor
    · refine Spent.run hl (hs.after env _) hacc' ⟨(ht'.minted h₀.sound).after hs _, ?_⟩ after
      rintro x ⟨⟩
    · obtain ⟨acc₀, hacc₀, claims, version, hdecode, hsub, hversion, hle⟩ :=
        ht'.account h₀.sound
      rw [hacc] at hacc₀
      cases hacc₀
      exact (hs.after env _).accessToken_refused hacc' hdecode hsub hversion
        (Nat.lt_succ_of_le hle) after

/-- A login, a rotation, and then the first pair again: the session is over. -/
theorem refreshToken_singleUse_concrete :
    let rotate := Event.request
      (.refreshToken tokensAda.refreshTokenCookie tokensAda.refreshTokenFamilyCookie)
    let second := "101;00111;refresh1001;001;00000001010111001001;"
    (World.concrete.run .concrete [loginAda, rotate]).respond .concrete
        (.refreshToken tokensAda.refreshTokenCookie tokensAda.refreshTokenFamilyCookie) =
        .error (.app .invalidRefreshTokenError HTTP401.invalidRefreshToken) ∧
      ∀ after, ¬ Accepted .concrete
        (World.concrete.run .concrete ([loginAda, rotate] ++ rotate :: after)) 2 second "11;" := by
  intro rotate second
  obtain ⟨-, -, -, htheft⟩ := refreshToken_singleUse .concrete Env.concrete_ideal World.concrete
    World.concrete_seeded 2
  have hcurrent : Current .concrete World.concrete [loginAda, rotate] 2
      { tokensAda with refreshTokenCookie := second, refreshTokenFamilyCookie := "11;" } 0 :=
    ⟨[loginAda], rotate, [], rfl, ⟨by decide +kernel, by decide +kernel⟩, rfl, trivial⟩
  obtain ⟨hout, -, hlater⟩ := htheft _ _ _ tokensAda.refreshTokenCookie
    tokensAda.refreshTokenFamilyCookie hcurrent (by decide) (by decide +kernel) (by decide)
    (by decide)
  exact ⟨hout, fun after => (hlater _ after hcurrent.issued).1 "11;"⟩

/-! ### Changes of the username -/

/-- The session with the pending email of a request, if it sends one. -/
def Account.pendingFor (acc : Account) (newEmail : Option EmailAddress) : UserSession :=
  { acc.session with pendingNewEmail := newEmail.or acc.session.pendingNewEmail }

/-- The request changes the username of the account: it sends a new one, an email it sends
beside it is not pending already, and the columns take both. -/
def Account.Renames (db : Db) (now : Time) (r : UpdateUserCredentials) (acc : Account) : Prop :=
  ∃ username, r.newUsername acc.user = some username ∧
    (r.newEmail acc.user).any (acc.session.duplicateRequest now) = false ∧
    acc.Fits db { acc.user with username := username } (acc.pendingFor (r.newEmail acc.user))

/-- The texts of a session are those of its pending email. -/
theorem Account.fits_congr {acc : Account} {db : Db} {user : User} {s s' : UserSession}
    (h : s.pendingNewEmail = s'.pendingNewEmail) : acc.Fits db user s ↔ acc.Fits db user s' := by
  simp [Account.Fits, tooLong, changed, h]

/-- `update_me_credentials` with a new username succeeds exactly when it `Renames`. -/
theorem updateMeCredentials_ok_iff (hs : w.Sound) {u : UserId} {acc : Account}
    (hacc : w.account u = some acc) {r : UpdateUserCredentials} {username : String}
    (hname : r.newUsername acc.user = some username) :
    (∃ response, w.respond env (.updateMeCredentials u r) = .ok response) ↔
      acc.Renames w.db w.clock r := by
  obtain rfl := World.account_id hacc
  change Ends (exec env) ((fun _ => Response.none) <$> updateMeCredentials env acc.user.id r)
    (fun out _ => (∃ response, out = .ok response) ↔ acc.Renames w.db w.clock r) w
  rw [ends_map]
  unfold updateMeCredentials
  rw [ends_getUserById, World.selectUserById_of_account hacc (by simp [UserQuery.admits]),
    ensureExists_some]
  have hdrawn : ({ w with draws := w.draws + 1 } : World).account acc.user.id = some acc := hacc
  -- Whatever else the session gets, its texts are those of the pending email.
  have hfits : ∀ {s : UserSession}, s.pendingNewEmail =
      (acc.pendingFor (r.newEmail acc.user)).pendingNewEmail →
      (r.newEmail acc.user).any (acc.session.duplicateRequest w.clock) = false →
      (acc.Fits w.db { acc.user with username := username } s ↔ acc.Renames w.db w.clock r) := by
    intro s hs hnew
    rw [acc.fits_congr hs]
    constructor
    · intro h
      exact ⟨username, hname, hnew, h⟩
    · rintro ⟨name, hname', -, h⟩
      rw [hname] at hname'
      cases hname'
      exact h
  simp only [Account.loaded_user, hname, Option.isNone_some, Bool.false_and, Bool.false_eq_true,
    if_false, Account.loaded_session, if_true, deref_some]
  rw [ends_datetimeNow]
  refine ends_ite (fun hduplicate => ?_) fun hnew => ?_
  · refine not_ok_error ?_
    rintro ⟨-, -, hno, -⟩
    rw [hduplicate] at hno
    cases hno
  · have hnew : (r.newEmail acc.user).any (acc.session.duplicateRequest w.clock) = false := by
      simpa using hnew
    cases hemail : r.newEmail acc.user with
    | none =>
      rw [hemail] at hfits hnew
      refine commitMyCredentials_ends hs.toCoherent hacc (acc.renamed username).user rfl rfl
        (acc.renamed username).session rfl true none (fun h _ _ _ _ _ => ?_) fun h _ _ => ?_
      · exact iff_of_true ⟨_, rfl⟩ ((hfits rfl hnew).mp h)
      · exact not_ok_error fun h' => h ((hfits rfl hnew).mpr h')
    | some newEmail =>
      rw [hemail] at hfits hnew
      refine (ends_generateEmailChangeCode _ _).mpr ?_
      refine commitMyCredentials_ends (hs.toCoherent.drawn _) hdrawn (acc.renamed username).user
        rfl rfl ((acc.renamed username).emailChangeRequested env w.clock w.draws newEmail).session
        rfl true _ (fun h _ _ _ _ _ => ?_) fun h _ _ => ?_
      · exact iff_of_true ⟨_, rfl⟩ ((hfits rfl hnew).mp h)
      · exact not_ok_error fun h' => h ((hfits rfl hnew).mpr h')

/-- A request of the account holder revokes exactly when it changes the username. -/
theorem revokes_updateMeCredentials_iff (env : Env) (hs : w.Sound) {u : UserId}
    {r : UpdateUserCredentials} :
    (Event.request (.updateMeCredentials u r)).Revokes env w u ↔
      ∃ acc, w.account u = some acc ∧ acc.Renames w.db w.clock r := by
  constructor
  · rintro ⟨-, acc, hacc, hrevoking⟩
    refine ⟨acc, hacc, ?_⟩
    cases hout : w.respond env (.updateMeCredentials u r) with
    | error e =>
      rw [hout] at hrevoking
      exact absurd hrevoking id
    | ok response =>
      rw [hout] at hrevoking
      obtain ⟨username, hname⟩ := Option.isSome_iff_exists.mp hrevoking
      exact (updateMeCredentials_ok_iff hs hacc hname).mp ⟨response, hout⟩
  · rintro ⟨acc, hacc, hrenames⟩
    obtain ⟨username, hname, -⟩ := id hrenames
    obtain ⟨response, hout⟩ := (updateMeCredentials_ok_iff hs hacc hname).mpr hrenames
    refine ⟨rfl, acc, hacc, ?_⟩
    rw [hout]
    exact Option.isSome_iff_exists.mpr ⟨username, hname⟩

/-- A refresh session of the account has not run out. -/
def Account.LiveSession (now : Time) (acc : Account) : Prop :=
  ∃ hash family expiresAt, acc.Session hash family expiresAt ∧ now ≤ expiresAt

/-- The event changes the username of the user while its refresh session is live. -/
def Event.RenamesLive (w : World) (u : UserId) (e : Event) : Prop :=
  ∃ r acc, e = .request (.updateMeCredentials u r) ∧ w.account u = some acc ∧
    acc.Renames w.db w.clock r ∧ acc.LiveSession w.clock

/-- A revocation that is no change of the username clears the session; a change of it does
not, and then the session must be dead already. -/
theorem Event.Revokes.spent (hl : env.Ideal) (hs : w.Sound) {u : UserId} {acc acc' : Account}
    {e : Event} {token : String} (hrevokes : e.Revokes env w u) (hno : ¬ e.RenamesLive w u)
    (hacc : w.account u = some acc) (hevolves : Evolves env w u acc e acc')
    (hminted : Minted env w token) : Spent env token (w.after env e) acc' := by
  have hminted' : Minted env (w.after env e) token := hminted.after hs e
  rcases hevolves.refreshColumns hacc with ⟨t, ht, -, hcols⟩ | ⟨-, hcols⟩ | ⟨⟨-, hkept⟩, hcols⟩
  · exact spent_of_issues hl hs ht hcols hminted
  · refine ⟨hminted', fun x hhash => ?_⟩
    have hnone : acc'.session.refreshTokenHash = none := congrArg Prod.fst hcols
    rw [hnone] at hhash
    cases hhash
  · refine ⟨hminted', fun x hhash hx => ?_⟩
    -- It revokes and keeps the session, so it is a change of the username.
    have hrename : ∃ r, e = .request (.updateMeCredentials u r) := by
      by_contra h
      exact hkept ⟨hrevokes, fun q hq => h ⟨q, hq⟩⟩
    obtain ⟨r, rfl⟩ := hrename
    simp only [Account.refreshColumns, Prod.mk.injEq] at hcols
    obtain ⟨acc₀, hacc₀, hrenames⟩ := (revokes_updateMeCredentials_iff env hs).mp hrevokes
    rw [hacc] at hacc₀
    cases hacc₀
    rw [hcols.1] at hhash
    rw [hcols.2.2] at hx
    have hgroup := (hs.accounts u acc hacc).refreshGroup
    obtain ⟨family, hfamily⟩ : ∃ family, acc.session.refreshTokenFamily = some family :=
      Option.ne_none_iff_exists'.mp fun hnull => by simp [hgroup.1.mpr hnull] at hhash
    refine lt_of_lt_of_le (not_le.mp fun hle => ?_) (hs.clock_le_after env _)
    exact hno ⟨r, acc, rfl, hacc, hrenames, _, family, x, ⟨hhash, hfamily, hx⟩, hle⟩

/-- **Refresh tokens die with the version exactly if no live session is renamed.**  Over a
run, no refresh token issued to the user before a revoking operation is ever accepted
after it, if and only if no change of the username is made while a session is live. -/
theorem refreshToken_revoked_iff (env : Env) (hl : env.Ideal) (w₀ : World) (h₀ : w₀.Seeded)
    (events : List Event) (u : UserId) :
    (∀ before e middle after t family, events = before ++ e :: (middle ++ after) →
      e.Revokes env (w₀.run env before) u → Issued env w₀ before u t →
      ¬ Accepted env (w₀.run env (before ++ e :: middle)) u t.refreshTokenCookie family) ↔
    Run.Throughout (World.after env) (fun w e => ¬ e.RenamesLive w u) w₀ events := by
  rw [Run.throughout_iff]
  constructor
  · rintro h before e after rfl ⟨r, acc, rfl, hacc, hrenames, hash, family, x, hsession, hlive⟩
    have hs := h₀.sound.run env before
    have hrevokes := (revokes_updateMeCredentials_iff env hs).mpr ⟨acc, hacc, hrenames⟩
    -- The pair of the live session is the current one, and the new name keeps it so.
    obtain ⟨t, since, hcurrent⟩ := (h₀.current_iff hacc).2 (by simp [hsession.1])
    have hcols := (h₀.current_iff hacc).1 t since hcurrent
    have hkeeps : (Event.request (.updateMeCredentials u r)).KeepsSession env
        (w₀.run env before) u := by
      refine ⟨fun t ht => ?_, fun hends => hends.2 r rfl⟩
      rcases ht.request hs with ⟨_, h⟩ | ⟨_, _, h⟩ <;> cases h
    refine h before _ [] after t t.refreshTokenFamilyCookie rfl hrevokes hcurrent.issued ?_
    rw [h₀.accepted_iff_current hl]
    refine ⟨t, since, hcurrent.concat hkeeps, ?_, rfl, rfl⟩
    rw [World.run_concat,
      show ((w₀.run env before).after env _).clock = _ from (hs.acts env _).clock]
    have hx : x = since + Time.days env.settings.refreshTokenExpiresDays := by
      have := hsession.2.2.symm.trans (congrArg (·.2.2) hcols)
      exact Option.some.inj this
    exact hx ▸ hlive
  · intro h before e middle after t family hevents hrevokes hissued
    have hs := h₀.sound.run env before
    obtain ⟨acc, hacc, -⟩ := hissued.account h₀.sound
    obtain ⟨acc', hacc', hevolves⟩ := hs.evolves env hacc e
    rw [World.run_around]
    exact Spent.run hl (hs.after env e) hacc'
      (hrevokes.spent hl hs (h before e _ hevents) hacc hevolves (hissued.minted h₀.sound))
      middle family

/-- A logout leaves nothing of the session. -/
theorem refreshToken_revoked_concrete :
    ¬ Accepted .concrete (World.concrete.run .concrete [loginAda, .request (.logout 2)]) 2
      tokensAda.refreshTokenCookie tokensAda.refreshTokenFamilyCookie := by
  have hlaw := (refreshToken_revoked_iff .concrete Env.concrete_ideal World.concrete
    World.concrete_seeded [loginAda, .request (.logout 2)] 2).mpr
    ⟨(by rintro ⟨_, _, ⟨⟩, _⟩), (by rintro ⟨_, _, ⟨⟩, _⟩), trivial⟩
  exact hlaw [loginAda] (.request (.logout 2)) [] [] tokensAda _ rfl ⟨rfl, _, rfl, trivial⟩
    ⟨[], loginAda, [], rfl, loginAda_issues⟩

/-- A new username revokes the access tokens and leaves the refresh token in use. -/
theorem refreshToken_survives_rename :
    ¬ ∀ before e middle t family, e.Revokes .concrete (World.concrete.run .concrete before) 2 →
      Issued .concrete World.concrete before 2 t →
      ¬ Accepted .concrete (World.concrete.run .concrete (before ++ e :: middle)) 2
        t.refreshTokenCookie family := by
  intro h
  refine h [loginAda]
    (.request (.updateMeCredentials 2 { username := .set "augusta", email := .unset })) [] tokensAda
    tokensAda.refreshTokenFamilyCookie ?_ ⟨[], loginAda, [], rfl, loginAda_issues⟩ ?_
  · exact ⟨rfl, _, rfl, rfl⟩
  · exact ⟨by decide +kernel,
      { accessToken := "101;111;101;011;access00010000111;"
        refreshTokenCookie := "101;00111;refresh1001;001;00000001010111001001;"
        refreshTokenFamilyCookie := "11;" }, by decide +kernel⟩

end SmsLite
