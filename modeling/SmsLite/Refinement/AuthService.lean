import SmsLite.Refinement.Effect

/-!
# The authentication service refines the account machine

Each function is executed symbolically, statement by statement, under the rule of its
first statement; where it commits, `World.Coherent.commit_update` turns the commit into
a move of one account.

## Main results

* `login_serves`, `logout_serves`, `activateAccount_serves`, `refreshToken_serves`,
  `resetPassword_serves`, `createForgotPasswordRequest_serves`, `getCurrentUser_serves` — each
  operation `Serves`.
-/

namespace SmsLite

open Interleave
open Interleave.Prog (Ends ends_bind)

/-! ### Login and logout -/

section Operations

variable {env : Env} {w : World}

/-- Opening a session is one move of the account. -/
theorem openSession_ends (hc : w.Coherent) {id : UserId} {acc : Account}
    (hacc : w.account id = some acc) {q : UserQuery} (hq : q.loadSession = true)
    (loginLockout : Option UserLoginLockout)
    (hlockout : ∀ l ∈ loginLockout, l.userId = acc.loginLockout.userId)
    {Q : Except Exn LoginResponse → World → Prop}
    (hok : ∀ w', Moved w w' id
        { acc.opened env w.clock w.draws with
          loginLockout :=
            if q.loadLoginLockout then loginLockout.getD acc.loginLockout else acc.loginLockout } →
      w.Leaves w' [] [] (w.forgetting []) → w'.clock = w.clock → w'.draws = w.draws + 2 →
        Q (.ok (acc.issue env w.clock w.draws)) w') :
    Ends (exec env) (openSession env (acc.loaded w.db q) acc.session loginLockout) Q w := by
  unfold openSession
  rw [ends_tokenUrlsafe, ends_datetimeNow, ends_tokenUrlsafe, ends_datetimeNow, ends_datetimeNow]
  refine ends_commitOrRaise (fun db' h => ?_) fun e h => absurd h
    (w.db.commit_update_ne_error w.clock acc.user rfl
      (w.db.checkUser_eq_none rfl rfl rfl rfl rfl rfl rfl)
      (by simp [hq]))
  have hown : acc.Owns
      { (acc.loaded w.db q).dirty with
        session := some (acc.opened env w.clock w.draws).session
        loginLockout := loginLockout } :=
    ⟨rfl, rfl, by simp [Account.opened], (acc.owns_dirty w.db q).activation, hlockout⟩
  -- The flush writes the user back unchanged, so it is the same row.
  obtain ⟨user, hdraft, -, hmoved⟩ := hc.commit_update hacc hown h
  obtain rfl : user = acc.user := User.draft_injective hdraft
  have hacc' : acc.updated q acc.user
      { (acc.loaded w.db q).dirty with
        session := some (acc.opened env w.clock w.draws).session
        loginLockout := loginLockout } =
      { acc.opened env w.clock w.draws with
        loginLockout :=
          if q.loadLoginLockout then loginLockout.getD acc.loginLockout
          else acc.loginLockout } := by
    cases hact : q.loadActivation <;>
      simp [Account.updated, Account.opened, Account.loaded, Loaded.dirty, hq, hact]
  rw [hacc'] at hmoved
  obtain rfl := World.account_id hacc
  refine (ends_refresh hmoved (by rfl) _).mpr ?_
  exact hok _ (hmoved.congr rfl fun _ => rfl) (.committed h rfl rfl fun _ _ => rfl) rfl rfl

theorem login_serves (hs : w.Sound) (formData : LoginForm) :
    Ends (exec env) (login env formData)
      (fun r w' => Serves env w (.login formData) (r.map .tokens) w') w := by
  have hrefused : ∀ (cls : AppException) (detail : String),
      Serves env w (.login formData) (.error (.app cls detail)) w :=
    fun cls detail => .refused hs.toCoherent _ rfl rfl (by simp)
  unfold login
  split
  · next username password huser hpass =>
    rw [ends_getUserByUsername]
    cases h : w.db.selectUserByUsername username
      { loadSession := true, loadLoginLockout := true } with
    | none => exact hrefused _ _
    | some loaded =>
      obtain ⟨id, acc, hacc, hname, hid, rfl⟩ := hs.toCoherent.selectUserByUsername h
      have htarget : (Request.login formData).target? env w = some id := by
        simp [Request.target?, huser, hid]
      simp only [Account.loaded_user, Account.loaded_session, Account.loaded_loginLockout, if_true,
        deref_some, ends_datetimeNow]
      split
      · exact hrefused _ _
      · next hunlocked =>
        have hunlocked : ¬ acc.Locked w.clock := by
          rintro ⟨t, ht, hlt⟩
          simp [Option.filter, Option.mem_def.mp ht, hlt] at hunlocked
        split
        · exact hrefused _ _
        · next hhash =>
          obtain ⟨hash, hhash⟩ := Option.ne_none_iff_exists'.mp hhash
          split
          · exact hrefused _ _
          · next hpending =>
            rw [hhash]
            refine ends_verifyPassword (fun valid hverify => ?_) fun e he => ?_
            · cases valid with
              -- A wrong password is the one refusal that is committed.
              | false =>
                simp only [Bool.not_false, if_true, ends_datetimeNow]
                refine ends_commitOrRaise (fun db' hcommit => ?_) fun e _ =>
                  .refused hs.toCoherent _ e.exn_isCrash rfl (by simp)
                obtain ⟨user, hdraft, -, hmoved⟩ := hs.toCoherent.commit_update hacc
                  ⟨rfl, rfl, by simp, by simp, by simp⟩ hcommit
                obtain rfl : user = acc.user := User.draft_injective hdraft
                exact .step htarget hacc
                  (.loginFailed acc formData password hash _ (by rw [huser, hname]) hpass hunlocked
                    hhash hpending hverify)
                  hmoved (.committed hcommit rfl rfl fun _ _ => rfl) rfl rfl (by rintro _ ⟨⟩; rfl)
              | true =>
                simp only [Bool.not_true, Bool.false_eq_true, if_false]
                split
                · exact hrefused _ _
                · next hactive =>
                  refine openSession_ends hs.toCoherent hacc rfl _ (by simp)
                    fun w' hmoved hleaves hclock hdraws => ?_
                  exact .moved htarget hacc
                    (.login acc formData password hash (by rw [huser, hname]) hpass hunlocked hhash
                      (not_not.mp hactive) hverify)
                    hmoved hleaves hclock hdraws
            · exact .refused hs.toCoherent _ (Env.verifyPassword_isCrash he) rfl (by simp)
  · exact hrefused _ _

/-- `_invalidate_all_tokens` on the account a user id stands for. -/
theorem invalidateAllTokens_ends (hs : w.Sound) {id : UserId} {acc : Account}
    (hacc : w.account id = some acc) (identity : Option Loaded)
    (hidentity : ∀ l ∈ identity, l = acc.loaded w.db { loadSession := true })
    {Q : Except Exn Unit → World → Prop}
    (hok : ∀ w', Moved w w' id acc.revoked → w.Leaves w' [] [] (w.forgetting []) →
      w'.clock = w.clock → w'.draws = w.draws → Q (.ok ()) w') :
    Ends (exec env) (invalidateAllTokens identity id) Q w := by
  unfold invalidateAllTokens
  rw [ends_getUserById, World.selectUserById_of_account hacc rfl]
  -- A user that is handed in has been loaded with the same query.
  have hget : identity.getD (acc.loaded w.db { loadSession := true }) =
      acc.loaded w.db { loadSession := true } := by
    cases identity with
    | none => rfl
    | some l => exact hidentity l rfl
  simp only [hget, Account.loaded_session, if_true, deref_some]
  refine ends_commitOrRaise (fun db' hcommit => ?_) fun e hcommit => ?_
  · obtain ⟨user, hdraft, -, hmoved⟩ := hs.toCoherent.commit_update hacc
      ⟨rfl, rfl, by simp [UserSession.revoked], by simp, by simp⟩ hcommit
    obtain rfl : user = acc.user := User.draft_injective hdraft
    rw [ends_deleteCache']
    exact hok _ (hmoved.deleteCache _ (by simp) (by simp))
      (.committed hcommit rfl rfl fun key hkey => if_neg (by simpa using hkey id)) rfl rfl
  · exact absurd hcommit (w.db.commit_update_ne_error w.clock acc.user rfl
      (w.db.checkUser_eq_none rfl rfl rfl rfl rfl rfl rfl) (by simp [UserSession.revoked]))

theorem logout_serves (hs : w.Sound) (currentUserId : UserId) :
    Ends (exec env) (logout currentUserId)
      (fun r w' => Serves env w (.logout currentUserId) (r.map fun _ => .none) w') w := by
  unfold logout
  cases hacc : w.account currentUserId with
  | none =>
    have hload : w.db.selectUserById currentUserId { loadSession := true } = none := by
      by_contra hne
      obtain ⟨loaded, h⟩ := Option.ne_none_iff_exists'.mp hne
      obtain ⟨acc, hacc', -⟩ := hs.toCoherent.selectUserById h
      simp [hacc] at hacc'
    unfold invalidateAllTokens
    rw [ends_getUserById, hload]
    exact .absent hs.toCoherent (by simp) w.draws le_rfl rfl (by simpa [Request.target?] using hacc)
  | some acc =>
    obtain rfl := World.account_id hacc
    exact invalidateAllTokens_ends hs hacc none (by simp) fun w' hmoved hleaves hclock hdraws =>
      .moved rfl hacc (.logout acc) hmoved hleaves hclock hdraws

/-! ### Activation, refresh and password reset -/

/-- An accepted invite activates the account. -/
theorem activateAccount_accepts (hs : w.Sound) (request : ActivateAccountWithToken) {acc : Account}
    (hacc : w.account acc.user.id = some acc)
    (hid : w.db.userNamed request.username = some acc.user.id)
    (h : acc.AcceptsInvite env w.clock request.inviteToken) {Q : Except Exn Unit → World → Prop}
    (hok : ∀ passwordHash, env.hashPassword w.draws request.newPassword = .ok passwordHash → ∀ w',
      Moved w w' acc.user.id (acc.withPassword passwordHash).activated.withoutInvite →
      w.Leaves w' [] [] (w.forgetting []) → w'.clock = w.clock → w'.draws = w.draws + 1 →
        Q (.ok ()) w')
    (herr : ∀ e, env.hashPassword w.draws request.newPassword = .error e → Q (.error e) w) :
    Ends (exec env) (activateAccount env request) Q w := by
  obtain ⟨expiresAt, hhash, hexpires, hnow⟩ := h
  unfold activateAccount
  rw [ends_getUserByUsername, World.selectUserByUsername_of_account hacc hs.toCoherent hid]
  simp only [Account.loaded_user, Account.loaded_activation, if_true, deref_some, hhash]
  rw [ends_datetimeNow, hexpires]
  simp only [Option.filter, hnow, decide_true, if_true, verifyDigest_sha256, ofExcept_ok,
    Bool.not_true, Bool.false_eq_true, if_false]
  refine ends_hashPassword (fun passwordHash hpassword => ?_) herr
  refine ends_commitOrRaise (fun db' hcommit => ?_) fun e hcommit => absurd hcommit
    (w.db.commit_update_ne_error w.clock (acc.withPassword passwordHash).activated.user rfl
      (w.db.checkUser_eq_none rfl rfl rfl rfl rfl rfl rfl) (by simp))
  obtain ⟨user, hdraft, -, hmoved⟩ := hs.toCoherent.commit_update hacc
    ⟨rfl, rfl, by simp, by simp, by simp⟩ hcommit
  obtain rfl : user = (acc.withPassword passwordHash).activated.withoutInvite.user :=
    User.draft_injective hdraft
  refine (ends_refresh hmoved (by rfl) _).mpr ?_
  exact hok _ hpassword _ (hmoved.congr rfl fun _ => rfl)
    (.committed hcommit rfl rfl fun _ _ => rfl) rfl rfl

theorem activateAccount_serves (hs : w.Sound) (request : ActivateAccountWithToken) :
    Ends (exec env) (activateAccount env request)
      (fun r w' => Serves env w (.activateAccount request) (r.map fun _ => .none) w') w := by
  have hrefused : ∀ (cls : AppException) (detail : String),
      Serves env w (.activateAccount request) (.error (.app cls detail)) w :=
    fun cls detail => .refused hs.toCoherent _ rfl rfl (by simp)
  cases h : w.db.selectUserByUsername request.username { loadActivation := true } with
  | none =>
    unfold activateAccount
    rw [ends_getUserByUsername, h]
    exact hrefused _ _
  | some loaded =>
    obtain ⟨id, acc, hacc, hname, hid, rfl⟩ := hs.toCoherent.selectUserByUsername h
    obtain rfl := World.account_id hacc
    by_cases haccepts : acc.AcceptsInvite env w.clock request.inviteToken
    · refine activateAccount_accepts hs request hacc hid haccepts
        (fun passwordHash hpassword w' hmoved hleaves hclock hdraws => ?_) fun e he => ?_
      · exact .moved hid hacc (.activateAccount acc request hname.symm haccepts hpassword) hmoved
          hleaves hclock hdraws
      · exact .refused hs.toCoherent _ (Env.hashPassword_isCrash he) rfl (by simp)
    · unfold activateAccount
      rw [ends_getUserByUsername, h]
      simp only [Account.loaded_user, Account.loaded_activation, if_true, deref_some]
      -- The account does not accept the invite, so one of the checks refuses it.
      cases hhash : acc.activation.inviteTokenHash with
      | none => exact hrefused _ _
      | some inviteTokenHash =>
        rw [ends_datetimeNow]
        cases hexpires : acc.activation.inviteTokenExpiresAt.filter (w.clock ≤ ·) with
        | none => exact hrefused _ _
        | some expiresAt =>
          obtain ⟨hexpires, hnow⟩ := Option.filter_eq_some_iff.mp hexpires
          refine ends_verifyDigest (fun _ => ?_) fun _ =>
            .refused hs.toCoherent _ rfl rfl (by simp)
          refine ends_ite (fun _ => hrefused _ _) fun hvalid => absurd ?_ haccepts
          have hvalid : env.sha256 request.inviteToken = inviteTokenHash := by simpa using hvalid
          exact ⟨expiresAt, hvalid ▸ hhash, hexpires, by simpa using hnow⟩

/-- A refresh that fails revokes nothing, if the pair is no violation. -/
theorem serves_refreshToken_failed (hs : w.Sound) {token family : String} {e : Exn}
    (hcrash : e.isCrash = false)
    (hno : ∀ id acc, refreshTokenSubject env w.clock token = .ok id → w.account id = some acc →
      ¬ acc.Violation env w.clock token family) :
    Serves env w (.refreshToken token family) (.error e) w := by
  refine .failed hs.toCoherent e w.draws le_rfl hcrash rfl fun id acc hid hacc => ?_
  refine hno id acc ?_ hacc
  cases hsub : refreshTokenSubject env w.clock token with
  | error e => simp [Request.target?, hsub, Except.toOption] at hid
  | ok u => simpa [Request.target?, hsub, Except.toOption] using hid

/-- The columns of a session are those of one session. -/
theorem Account.Session.inj {acc : Account} {hash hash' stored stored' : String}
    {expiresAt expiresAt' : Time} (h : acc.Session hash stored expiresAt)
    (h' : acc.Session hash' stored' expiresAt') :
    hash' = hash ∧ stored' = stored ∧ expiresAt' = expiresAt := by
  obtain ⟨hhash, hfamily, hexpires⟩ := h
  obtain ⟨hhash', hfamily', hexpires'⟩ := h'
  refine ⟨?_, ?_, ?_⟩
  · exact Option.some.inj (hhash'.symm.trans hhash)
  · exact Option.some.inj (hfamily'.symm.trans hfamily)
  · exact Option.some.inj (hexpires'.symm.trans hexpires)

theorem refreshToken_serves (hs : w.Sound) (token family : String) :
    Ends (exec env) (refreshToken env token family)
      (fun r w' => Serves env w (.refreshToken token family) (r.map .tokens) w') w := by
  unfold refreshToken
  rw [ends_datetimeNow]
  cases hsub : refreshTokenSubject env w.clock token with
  | error e =>
    rw [ofExcept_error]
    exact serves_refreshToken_failed hs (refreshTokenSubject_isCrash hsub) (by simp [hsub])
  | ok id =>
    rw [ofExcept_ok, ends_getUserById]
    cases hload : w.db.selectUserById id { loadSession := true } with
    | none =>
      have hnone := World.account_of_selectUserById_none (by simp [UserQuery.admits]) hload
      refine serves_refreshToken_failed hs rfl fun id' acc hid hacc => ?_
      obtain rfl : id = id' := by simpa [hsub] using hid
      simp [hnone] at hacc
    | some loaded =>
      obtain ⟨acc, hacc, -, rfl⟩ := hs.toCoherent.selectUserById hload
      obtain rfl := World.account_id hacc
      have htarget : Request.target? env w (.refreshToken token family) = some acc.user.id := by
        simp [Request.target?, hsub, Except.toOption]
      have hrefused : ∀ e : Exn, e.isCrash = false → ¬ acc.Violation env w.clock token family →
          Serves env w (.refreshToken token family) (.error e) w := by
        refine fun e hcrash hno => serves_refreshToken_failed hs hcrash fun id acc' hid hacc' => ?_
        obtain rfl : acc.user.id = id := by simpa [hsub] using hid
        rw [hacc] at hacc'
        cases hacc'
        exact hno
      simp only [Account.loaded_user, Account.loaded_session, if_true, deref_some]
      split
      · next hash stored expiresAt hhash hfamily hexpires =>
        have hsession : acc.Session hash stored expiresAt := ⟨hhash, hfamily, hexpires⟩
        rw [ends_datetimeNow]
        split
        · next hlate =>
          refine hrefused _ rfl ?_
          rintro ⟨-, _, _, _, hsession', hnow, -⟩
          obtain ⟨-, -, rfl⟩ := hsession.inj hsession'
          exact absurd hlate (not_lt.mpr hnow)
        · next hnow =>
          -- `compare_digest` raises for texts that are not ASCII; that revokes nothing.
          refine ends_compareDigest (fun hascii => ?_) fun hascii => ?_
          · have hnotAscii : ¬ isAscii hash = true →
                ¬ acc.Violation env w.clock token family := by
              rintro hhashAscii ⟨-, _, _, _, hsession', -, -, -, hhashAscii', -⟩
              obtain ⟨rfl, -⟩ := hsession.inj hsession'
              exact hhashAscii hhashAscii'
            refine ends_verifyDigest (fun hhashAscii => ?_) fun hhashAscii =>
              hrefused _ rfl (hnotAscii hhashAscii)
            split
            · next hbad =>
              have hviolation : acc.Violation env w.clock token family := by
                refine ⟨hsub, hash, stored, expiresAt, hsession, not_lt.mp hnow, hascii.1, hascii.2,
                  hhashAscii, ?_⟩
                rintro ⟨rfl, rfl⟩
                simp at hbad
              rw [ends_bind]
              refine invalidateAllTokens_ends hs hacc _ (by simp)
                fun w' hmoved hleaves hclock hdraws => ?_
              exact .step htarget hacc (.violation acc token family hviolation) hmoved hleaves
                hclock hdraws (by rintro _ ⟨⟩; rfl)
            · next hgood =>
              -- Family and hash agree: the pair is exchanged.
              obtain ⟨rfl, rfl⟩ : family = stored ∧ env.sha256 token = hash := by simpa using hgood
              have haccepts : acc.Accepts env w.clock token family :=
                ⟨hsub, hascii.1, expiresAt, hsession, not_lt.mp hnow⟩
              refine openSession_ends hs.toCoherent hacc rfl _ (by simp)
                fun w' hmoved hleaves hclock hdraws => ?_
              exact .moved htarget hacc (.refreshToken acc token family haccepts) hmoved hleaves
                hclock hdraws
          · refine hrefused _ rfl ?_
            rintro ⟨-, _, _, _, hsession', -, hfamilyAscii, hstoredAscii, -⟩
            obtain ⟨-, rfl, -⟩ := hsession.inj hsession'
            exact hascii ⟨hfamilyAscii, hstoredAscii⟩
      · next hnull =>
        refine hrefused _ rfl ?_
        rintro ⟨-, hash, stored, expiresAt, ⟨hhash, hfamily, hexpires⟩, -⟩
        exact hnull hash stored expiresAt hhash hfamily hexpires

theorem resetPassword_serves (hs : w.Sound) (request : ResetPassword) :
    Ends (exec env) (resetPassword env request)
      (fun r w' => Serves env w (.resetPassword request) (r.map fun _ => .none) w') w := by
  have hrefused : ∀ (cls : AppException) (detail : String),
      Serves env w (.resetPassword request) (.error (.app cls detail)) w :=
    fun cls detail => .refused hs.toCoherent _ rfl rfl (by simp)
  have hpasslib : ∀ e, env.hashPassword w.draws request.newPassword = .error e →
      Serves env w (.resetPassword request) (.error e) w :=
    fun e he => .refused hs.toCoherent _ (Env.hashPassword_isCrash he) rfl (by simp)
  unfold resetPassword
  rw [ends_getUserByUsername]
  cases h : w.db.selectUserByUsername request.username
      { loadSession := true, loadLoginLockout := true } with
  | none => exact hrefused _ _
  | some loaded =>
    obtain ⟨id, acc, hacc, hname, hid, rfl⟩ := hs.toCoherent.selectUserByUsername h
    obtain rfl := World.account_id hacc
    simp only [Account.loaded_user, Account.loaded_session, Account.loaded_loginLockout, if_true,
      deref_some]
    rw [ends_datetimeNow]
    cases hexpires : acc.session.resetPasswordTokenExpiresAt.filter (w.clock ≤ ·) with
    | none => exact hrefused _ _
    | some expiresAt =>
      obtain ⟨hexpires, hnow⟩ := Option.filter_eq_some_iff.mp hexpires
      -- The code looks at the expiry only; the hash is there because the two go together.
      have hhash : acc.session.resetPasswordTokenHash ≠ none := fun hnull => by
        simp [(hs.accounts _ acc hacc).resetGroup.mp hnull] at hexpires
      obtain ⟨hash, hhash⟩ := Option.ne_none_iff_exists'.mp hhash
      rw [hhash]
      refine ends_verifyDigest (fun _ => ?_) fun _ => .refused hs.toCoherent _ rfl rfl (by simp)
      split
      · exact hrefused _ _
      · next hvalid =>
        have hvalid : env.sha256 request.resetToken = hash := by simpa using hvalid
        refine ends_hashPassword (fun passwordHash hpassword => ?_) hpasslib
        -- The password was hashed before the commit could fail, so a failure has drawn a salt.
        refine ends_commitOrRaise (fun db' hcommit => ?_) fun e _ =>
          .failed hs.toCoherent _ _ (Nat.le_succ _) e.exn_isCrash rfl fun _ _ _ _ =>
            not_revoking_error (by simp)
        obtain ⟨user, hdraft, -, hmoved⟩ := hs.toCoherent.commit_update hacc
          ⟨rfl, rfl, by simp [UserSession.revoked], by simp, by simp⟩ hcommit
        obtain rfl : user = (acc.withPassword passwordHash).user := User.draft_injective hdraft
        refine (ends_refresh hmoved (by rfl) _).mpr ?_
        rw [ends_deleteCache']
        exact .moved hid hacc
          (.resetPassword acc request expiresAt hname.symm (hvalid ▸ hhash) hexpires
            (by simpa using hnow) hpassword)
          ((hmoved.deleteCache _ (by simp) (by simp)).congr rfl fun _ => rfl)
          (.committed hcommit rfl rfl fun key hkey => if_neg (by simpa using hkey acc.user.id))
          rfl rfl

theorem createForgotPasswordRequest_serves (hs : w.Sound) (request : ForgotPasswordPublicRequest) :
    Ends (exec env) (createForgotPasswordRequest env request)
      (fun r w' => Serves env w (.createForgotPasswordRequest request) (r.map .message) w') w := by
  unfold createForgotPasswordRequest
  rw [ends_getUserByUsername, ends_tokenUrlsafe]
  cases h : w.db.selectUserByUsername request.username { loadSession := true } with
  | none =>
    -- An unknown name gets the same answer, after the same draw.
    refine .absent hs.toCoherent (by simp) _ (Nat.le_succ _) rfl fun id hid => ?_
    have hname : w.db.userNamed request.username = none := by
      simpa [Db.selectUserByUsername, Db.userNamed] using h
    simp [Request.target?, hname] at hid
  | some loaded =>
    obtain ⟨id, acc, hacc, hname, hid, rfl⟩ := hs.toCoherent.selectUserByUsername h
    obtain rfl := World.account_id hacc
    simp only [Account.loaded_user, Account.loaded_session, if_true]
    rw [ends_datetimeNow]
    refine ends_commitOrRaise (fun db' hcommit => ?_) fun e _ =>
      .failed hs.toCoherent _ _ (Nat.le_succ _) e.exn_isCrash rfl fun _ _ _ _ =>
        not_revoking_error (by simp)
    obtain ⟨user, hdraft, -, hmoved⟩ := hs.toCoherent.commit_update hacc
      ⟨rfl, rfl, by simp, by simp, by simp⟩ hcommit
    obtain rfl : user = acc.user := User.draft_injective hdraft
    rw [ends_createTask]
    exact .moved hid hacc (.forgotPassword acc request _ hname.symm)
      (hmoved.congr rfl fun _ => rfl)
      (.of_commit hcommit rfl rfl fun key _ => congrFun w.forgetting_nil.symm key) rfl rfl

/-! ### Reads -/

/-- What the cache holds for a version key is the current version of an active account. -/
theorem World.Sound.cachedVersion (hs : w.Sound) {id : UserId} {v : CacheValue}
    (h : w.cache (.accessTokenVersionKey id) = some v) :
    ∃ acc, w.account id = some acc ∧ acc.cachedVersion = some v ∧
      v = .version acc.session.accessTokenVersion ∧ acc.user.isActive = true := by
  have hid : id ∈ Keyed.keys w.db.users := by
    by_contra hno
    simp [hs.orphans id hno] at h
  obtain ⟨acc, hacc⟩ := hs.toCoherent.exists_account hid
  have hcached := World.account_cachedVersion hacc
  rw [h] at hcached
  exact ⟨acc, hacc, hcached.symm, (hs.accounts id acc hacc).cachedVersion v hcached.symm⟩

theorem getCurrentUser_serves (hs : w.Sound) (token : String) :
    Ends (exec env) (getCurrentUser env token)
      (fun r w' => Serves env w (.getCurrentUser token) (r.map .currentUser) w') w := by
  have hrefused : ∀ e : Exn, e.isCrash = false →
      Serves env w (.getCurrentUser token) (.error e) w :=
    fun e hcrash => .refused hs.toCoherent e hcrash rfl (by simp)
  unfold getCurrentUser
  rw [ends_datetimeNow]
  cases hsub : accessTokenSubject env w.clock token with
  | error e =>
    rw [ofExcept_error]
    refine hrefused e ?_
    unfold accessTokenSubject at hsub
    split at hsub
    · cases hsub; rfl
    · split at hsub
      · cases hsub
      · cases hsub; rfl
  | ok subject =>
    obtain ⟨id, version, role⟩ := subject
    have htarget : (Request.getCurrentUser token).target? env w = some id := by
      simp [Request.target?, hsub, Except.toOption]
    rw [ofExcept_ok]
    dsimp only
    rw [ends_getCache]
    cases role with
    | none => exact hrefused _ rfl
    | some role =>
      cases hcache : w.cache (.accessTokenVersionKey id) with
      | some cached =>
        -- A hit: the cache holds a version of an active account only, and nothing is written.
        obtain ⟨acc, hacc, hcached, rfl, hactive⟩ := hs.cachedVersion hcache
        dsimp only
        split
        · exact hrefused _ rfl
        · exact .read hs.toCoherent rfl (by simp) (fun _ => rfl) rfl
      | none =>
        dsimp only
        rw [ends_getUserById]
        cases hload : w.db.selectUserById id { loadSession := true } with
        | none => exact hrefused _ rfl
        | some loaded =>
          obtain ⟨acc, hacc, -, rfl⟩ := hs.toCoherent.selectUserById hload
          obtain rfl := World.account_id hacc
          simp only [Account.loaded_user, Account.loaded_session, if_true, deref_some]
          split
          · exact hrefused _ rfl
          · next hversion =>
            obtain rfl : acc.session.accessTokenVersion = version := not_not.mp hversion
            refine ends_ite (fun _ => hrefused _ rfl) fun hactive => ?_
            -- A miss: the version goes to the cache, which is a step of the account.
            have hcached : acc.cachedVersion = none :=
              (World.account_cachedVersion hacc).symm.trans hcache
            exact .moved htarget hacc
              (.getCurrentUser acc token role hsub hcached (by simpa using hactive))
              ((Moved.refl hs.toCoherent hacc).recached (Function.update_self _ _ _)
                fun j hj => Function.update_of_ne (by simpa using hj) _ _)
              ⟨rfl, rfl, rfl, (List.append_nil _).symm, fun key hkey =>
                (Function.update_of_ne (hkey _) _ _).trans (congrFun w.forgetting_nil.symm key)⟩
              rfl rfl

/-- The cached readers touch one key, which is no version key. -/
theorem cachedDetail_serves (hs : w.Sound) {r : Request} (hr : r.isRead = true) {α : Type}
    (f : α → Response) (hf : ∀ a t, f a ≠ .tokens t) {cacheKey : CacheKey}
    (hkey : ∀ j, cacheKey ≠ .accessTokenVersionKey j) (userId : UserId) (q : UserQuery)
    (validate : CacheValue → Option α) (project : Loaded → CacheValue) (respond : Loaded → α)
    (hdetails : r.details w = w.filled cacheKey userId q project) :
    Ends (exec env) (cachedDetail cacheKey userId q validate project respond)
      (fun out w' => Serves env w r (out.map f) w') w := by
  have hrefused : ∀ e : Exn, e.isCrash = false → r.details w = w.cache →
      Serves env w r (.error e) w := fun e hcrash hkept =>
    .refused hs.toCoherent e hcrash hkept (by rintro _ _ rfl; simp [Request.isRead] at hr)
  unfold World.filled at hdetails
  unfold cachedDetail
  rw [ends_getCache]
  cases hcached : w.cache cacheKey with
  | some cached =>
    simp only [hcached] at hdetails
    dsimp only
    cases validate cached with
    | some response => exact .read hs.toCoherent hr (hf _) (fun _ => rfl) hdetails
    | none => exact hrefused _ rfl hdetails
  | none =>
    dsimp only
    rw [ends_getUserById]
    cases hload : w.db.selectUserById userId q with
    | none =>
      simp only [hcached, hload] at hdetails
      exact hrefused _ rfl hdetails
    | some user =>
      simp only [hcached, hload] at hdetails
      rw [ensureExists_some, ends_setCache]
      exact .read hs.toCoherent hr (hf _)
        (fun j => Function.update_of_ne (hkey j).symm _ _) hdetails

end Operations

end SmsLite
