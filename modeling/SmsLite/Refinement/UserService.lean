import SmsLite.Refinement.AuthService

/-!
# The user services refine the account machine

The same for `src/users/services/`.

## Main results

* `registerUser_serves`, `updateUser_serves`, `updateUserCredentials_serves`, ... — each
  operation `Serves`.
-/

namespace SmsLite

open Interleave
open Interleave.Prog (Ends ends_bind)

variable {env : Env} {w : World}

/-! ### Registration -/

theorem registerUser_serves (hs : w.Sound) (currentUserId : UserId)
    (createRequest : CreateUserRequest) :
    Ends (exec env) (registerUser env currentUserId createRequest)
      (fun r w' => Serves env w (.registerUser currentUserId createRequest) (r.map .user) w')
      w := by
  have hrefused : ∀ (cls : AppException) (detail : String),
      Serves env w (.registerUser currentUserId createRequest) (.error (.app cls detail)) w :=
    fun cls detail => .refused hs.toCoherent _ rfl rfl (by simp)
  -- A registration that fails after the flush has used up a draw and an id.
  have hfailed : ∀ e : Exn, e.isCrash = false →
      Serves env w (.registerUser currentUserId createRequest) (.error e)
        { w with db := { w.db with usersIdSeq := w.db.usersIdSeq + 1 }, draws := w.draws + 1 } :=
    fun e hcrash =>
      { served := .quiet (fun _ => rfl) ⟨hs.toCoherent.bumped.db, hs.orphans⟩ (Nat.le_succ _)
          (.failed e fun _ _ h => by simp [Request.target?] at h)
          ⟨rfl, rfl, rfl, (List.append_nil _).symm, fun _ _ => rfl⟩
        clock := rfl
        crashFree := by rintro _ ⟨⟩; exact hcrash }
  unfold registerUser
  rw [ends_onlyIf_skip (ends_acquireStudentContactLock _ _ _)]
  refine ends_checkContactLimit (fun _ => ?_) fun _ => hrefused
  rw [ends_tokenUrlsafe, ends_datetimeNow]
  refine ends_tryFlushUser (fun _ => ?_) fun e _ => ends_exceptIntegrityError hfailed
  refine ends_tryCommit (fun db' hcommit => ?_) fun e _ => ends_exceptIntegrityError hfailed
  obtain ⟨hnone, hmoved⟩ := hs.toCoherent.commit_register rfl rfl rfl rfl hcommit
  refine (ends_refresh' hmoved (by rfl)).mpr ?_
  obtain ⟨hrows, hseq, hgroups⟩ := Db.commit_register_outbox hcommit
  exact
    { served := .registered currentUserId createRequest _ rfl rfl rfl hnone
        (hmoved.congr rfl fun _ => rfl) rfl
        ⟨hrows, hseq, hgroups, (List.append_nil _).symm, fun _ _ => rfl⟩
      clock := rfl
      crashFree := by intro _ h; cases h }

/-! ### Updates by an administrator -/

/-- Every user passes a filter that excludes nothing but administrators, unless it is one. -/
theorem admits_visible {q : UserQuery} (hallowed : q.allowedRoles = [])
    (hexcluded : q.excludedRoles = systemAdminInvisibleRoles) {u : User}
    (h : q.admits u = true) : u.role ≠ .systemAdmin := by
  simpa [UserQuery.admits, hallowed, hexcluded, systemAdminInvisibleRoles] using h

theorem updateUser_serves (hs : w.Sound) (targetUserId : UserId)
    (updateRequest : UpdateUserRequest) :
    Ends (exec env) (updateUser env targetUserId updateRequest)
      (fun r w' => Serves env w (.updateUser targetUserId updateRequest) (r.map fun _ => .none) w')
      w := by
  have hrefused : ∀ e : Exn, e.isCrash = false →
      Serves env w (.updateUser targetUserId updateRequest) (.error e) w :=
    fun e hcrash => .refused hs.toCoherent e hcrash rfl (by simp)
  unfold updateUser
  refine ends_requireUserById hs.toCoherent (hrefused _ rfl) fun acc hacc hrole => ?_
  obtain rfl := World.account_id hacc
  simp only [Account.loaded_user]
  refine ends_ite (fun _ => hrefused _ rfl) fun hshape => ?_
  refine ends_checkStudentContact (fun _ => ?_) fun _ _ _ => hrefused _ rfl
  refine ends_updateObject (fun hchanged => ?_) fun _ _ _ => hrefused _ rfl
  refine ends_tryCommit (fun db' hcommit => ?_) fun e _ => ends_exceptIntegrityError hrefused
  obtain ⟨user, hdraft, -, hmoved⟩ := hs.toCoherent.commit_update hacc
    ⟨by cases updateRequest <;> rfl, by cases updateRequest <;> rfl, by simp, by simp, by simp⟩
    hcommit
  refine (ends_refresh hmoved (by rfl) _).mpr ?_
  rw [ends_createTask, ends_deleteCache']
  exact .moved rfl hacc
    (.updateUser acc updateRequest user (admits_visible rfl rfl hrole) (not_not.mp hshape)
      hdraft fun h => hchanged (hdraft.symm.trans (congrArg User.draft h)))
    ((hmoved.deleteDetails _ (by simp [userDetailKeys])).congr rfl fun _ => rfl)
    (.of_commit hcommit rfl rfl fun _ _ => rfl) rfl rfl

theorem updateUserCredentials_serves (hs : w.Sound) (currentUserId targetUserId : UserId)
    (updateRequest : UpdateUserCredentials) :
    Ends (exec env) (updateUserCredentials env currentUserId targetUserId updateRequest)
      (fun r w' => Serves env w (.updateUserCredentials currentUserId targetUserId updateRequest)
        (r.map fun _ => .none) w') w := by
  have hrefused : ∀ e : Exn, e.isCrash = false →
      Serves env w (.updateUserCredentials currentUserId targetUserId updateRequest) (.error e) w :=
    fun e hcrash => .refused hs.toCoherent e hcrash rfl (by simp)
  unfold updateUserCredentials
  refine ends_requireUserById hs.toCoherent (hrefused _ rfl) fun acc hacc hrole => ?_
  obtain rfl := World.account_id hacc
  simp only [Account.loaded_user, Account.loaded_session, Account.loaded_activation, if_true]
  refine ends_checkStudentContact (fun _ => ?_) fun _ _ _ => hrefused _ rfl
  refine ends_updateObject (fun hchanged => ?_) fun _ _ _ => hrefused _ rfl
  rw [deref_some]
  -- Whatever is done about the invite, the rows it writes are those of the account.
  have hown : ∀ activation : Option UserActivation,
      (∀ a ∈ activation, a.userId = acc.activation.userId) →
        ∀ loginLockout : Option UserLoginLockout,
          (∀ l ∈ loginLockout, l.userId = acc.loginLockout.userId) →
            acc.Owns ⟨updateRequest.assign acc.user.draft, some acc.session.overridden, activation,
              loginLockout⟩ :=
    fun _ ha _ hl => ⟨rfl, rfl, by simp [UserSession.overridden, UserSession.revoked], ha, hl⟩
  refine ends_ite (fun hreissue => ?_) fun hkeep => ?_
  · refine ends_reissueInvite rfl (ends_tryCommit (fun db' hcommit => ?_) fun e _ =>
      ends_exceptIntegrityError fun x hx => .failed hs.toCoherent _ _ (Nat.le_succ _) hx rfl
        fun _ _ _ _ => not_revoking_error (by simp))
    obtain ⟨user, hdraft, -, hmoved⟩ := hs.toCoherent.commit_update hacc
      (hown _ (by simp [Account.invited]) _ (by simp)) hcommit
    have hdraft : user.draft = updateRequest.assign acc.user.draft := hdraft
    rw [← hdraft] at hcommit
    obtain ⟨hemail, hpending⟩ := Bool.and_eq_true_iff.mp hreissue
    have hpending := of_decide_eq_true hpending
    refine .moved rfl hacc
      (.updatePendingCredentials acc currentUserId updateRequest user
        (admits_visible rfl rfl hrole) hdraft
        (fun h => hchanged (hdraft.symm.trans (congrArg User.draft h))) hemail hpending)
      ((hmoved.deleteCache _ (by simp) (by simp [userDetailKeys])).congr rfl fun _ => rfl)
      ?_ rfl rfl
    rw [Request.posts_reissue hemail hpending]
    exact .of_commit hcommit rfl (List.append_nil _).symm fun key hkey =>
      w.forgetting_version _ _ hkey
  · refine ends_tryCommit (fun db' hcommit => ?_) fun e _ => ends_exceptIntegrityError hrefused
    obtain ⟨user, hdraft, -, hmoved⟩ := hs.toCoherent.commit_update hacc
      (hown _ (by simp) _ (by simp)) hcommit
    have hdraft : user.draft = updateRequest.assign acc.user.draft := hdraft
    rw [← hdraft] at hcommit
    have hkeep : ¬ ((updateRequest.newEmail acc.user).isSome ∧
        acc.user.status = .pendingActivation) :=
      fun h => hkeep (Bool.and_eq_true_iff.mpr ⟨h.1, decide_eq_true h.2⟩)
    refine .moved rfl hacc
      (.updateUserCredentials acc currentUserId updateRequest user
        (admits_visible rfl rfl hrole) hdraft
        (fun h => hchanged (hdraft.symm.trans (congrArg User.draft h))) hkeep)
      ((hmoved.deleteCache _ (by simp) (by simp [userDetailKeys])).congr rfl fun _ => rfl)
      ?_ rfl rfl
    rw [Request.posts_override hkeep]
    exact .of_commit hcommit rfl (List.append_nil _).symm fun key hkey =>
      w.forgetting_version _ _ hkey

/-! ### Activation state and secrets -/

theorem deactivateUser_serves (hs : w.Sound) (targetUserId : UserId) :
    Ends (exec env) (deactivateUser targetUserId)
      (fun r w' => Serves env w (.deactivateUser targetUserId) (r.map fun _ => .none) w') w := by
  have hrefused : ∀ e : Exn, e.isCrash = false →
      Serves env w (.deactivateUser targetUserId) (.error e) w :=
    fun e hcrash => .refused hs.toCoherent e hcrash rfl (by simp)
  unfold deactivateUser
  refine ends_requireUserById hs.toCoherent (hrefused _ rfl) fun acc hacc hrole => ?_
  obtain rfl := World.account_id hacc
  simp only [Account.loaded_user, Account.loaded_session, if_true]
  refine ends_ite (fun _ => hrefused _ rfl) fun hactive => ?_
  rw [deref_some]
  refine ends_commitOrRaise (fun db' hcommit => ?_) fun e _ => hrefused _ e.exn_isCrash
  obtain ⟨user, hdraft, -, hmoved⟩ := hs.toCoherent.commit_update hacc
    ⟨rfl, rfl, by simp [UserSession.revoked], by simp, by simp⟩ hcommit
  obtain rfl : user = acc.deactivated.user := User.draft_injective hdraft
  rw [ends_createTask, ends_deleteCache']
  exact .moved rfl hacc
    (.deactivateUser acc (admits_visible rfl rfl hrole) (by simpa using hactive))
    ((hmoved.deleteCache _ (by simp) (by simp [userDetailKeys])).congr rfl fun _ => rfl)
    (.of_commit hcommit rfl rfl fun key hkey => w.forgetting_version _ _ hkey) rfl rfl

theorem activateUser_serves (hs : w.Sound) (targetUserId : UserId) :
    Ends (exec env) (activateUser targetUserId)
      (fun r w' => Serves env w (.activateUser targetUserId) (r.map fun _ => .none) w') w := by
  have hrefused : ∀ e : Exn, e.isCrash = false →
      Serves env w (.activateUser targetUserId) (.error e) w :=
    fun e hcrash => .refused hs.toCoherent e hcrash rfl (by simp)
  unfold activateUser
  refine ends_requireUserById hs.toCoherent (hrefused _ rfl) fun acc hacc hrole => ?_
  obtain rfl := World.account_id hacc
  simp only [Account.loaded_user, Account.loaded_loginLockout, if_true]
  refine ends_ite (fun _ => hrefused _ rfl) fun hactive => ?_
  rw [deref_some]
  refine ends_commitOrRaise (fun db' hcommit => ?_) fun e _ => hrefused _ e.exn_isCrash
  obtain ⟨user, hdraft, -, hmoved⟩ := hs.toCoherent.commit_update hacc
    ⟨rfl, rfl, by simp, by simp, by simp⟩ hcommit
  obtain rfl : user = acc.activated.user := User.draft_injective hdraft
  rw [ends_createTask, ends_deleteCache']
  exact .moved rfl hacc
    (.activateUser acc (admits_visible rfl rfl hrole) (by simpa using hactive))
    ((hmoved.deleteDetails _ (by simp)).congr rfl fun _ => rfl)
    (.of_commit hcommit rfl rfl fun _ _ => rfl) rfl rfl

theorem createResetPasswordRequest_serves (hs : w.Sound) (currentUserId targetUserId : UserId) :
    Ends (exec env) (createResetPasswordRequest env currentUserId targetUserId)
      (fun r w' => Serves env w (.createResetPasswordRequest currentUserId targetUserId)
        (r.map fun _ => .none) w') w := by
  unfold createResetPasswordRequest
  refine ends_requireUserById hs.toCoherent (.refused hs.toCoherent _ rfl rfl (by simp))
    fun acc hacc hrole => ?_
  obtain rfl := World.account_id hacc
  rw [ends_tokenUrlsafe]
  simp only [Account.loaded_user, Account.loaded_session, if_true]
  rw [deref_some, ends_datetimeNow]
  refine ends_commitOrRaise' (fun db' hcommit => ?_) fun e _ =>
    .failed hs.toCoherent _ _ (Nat.le_succ _) e.exn_isCrash rfl fun _ _ _ _ =>
      not_revoking_error (by simp)
  obtain ⟨user, hdraft, -, hmoved⟩ := hs.toCoherent.commit_update hacc
    ⟨rfl, rfl, by simp, by simp, by simp⟩ hcommit
  obtain rfl : user = acc.user := User.draft_injective hdraft
  exact .moved rfl hacc
    (.createResetPasswordRequest acc currentUserId (admits_visible rfl rfl hrole))
    (hmoved.congr rfl fun _ => rfl) (.committed hcommit rfl rfl fun _ _ => rfl) rfl rfl

theorem resendActivationInvite_serves (hs : w.Sound) (currentUserId targetUserId : UserId) :
    Ends (exec env) (resendActivationInvite env currentUserId targetUserId)
      (fun r w' => Serves env w (.resendActivationInvite currentUserId targetUserId)
        (r.map fun _ => .none) w') w := by
  have hrefused : ∀ e : Exn, e.isCrash = false →
      Serves env w (.resendActivationInvite currentUserId targetUserId) (.error e) w :=
    fun e hcrash => .refused hs.toCoherent e hcrash rfl (by simp)
  unfold resendActivationInvite
  refine ends_requireUserById hs.toCoherent (hrefused _ rfl) fun acc hacc hrole => ?_
  obtain rfl := World.account_id hacc
  simp only [Account.loaded_user]
  refine ends_ite (fun _ => hrefused _ rfl) fun hpending => ?_
  refine ends_reissueInvite rfl (ends_commitOrRaise' (fun db' hcommit => ?_) fun e _ =>
    .failed hs.toCoherent _ _ (Nat.le_succ _) e.exn_isCrash rfl fun _ _ _ _ =>
      not_revoking_error (by simp))
  obtain ⟨user, hdraft, -, hmoved⟩ := hs.toCoherent.commit_update hacc
    ⟨rfl, rfl, by simp, by simp [Account.invited], by simp⟩ hcommit
  obtain rfl : user = acc.user := User.draft_injective hdraft
  exact .moved rfl hacc
    (.resendActivationInvite acc currentUserId (admits_visible rfl rfl hrole)
      (not_not.mp hpending))
    (hmoved.congr rfl fun _ => rfl) (.committed hcommit rfl rfl fun _ _ => rfl) rfl rfl

/-! ### The account holder -/

theorem updateMePassword_serves (hs : w.Sound) (currentUserId : UserId)
    (updateRequest : UpdateMePassword) :
    Ends (exec env) (updateMePassword currentUserId updateRequest)
      (fun r w' => Serves env w (.updateMePassword currentUserId updateRequest)
        (r.map fun _ => .none) w') w := by
  have hrefused : ∀ e : Exn, e.isCrash = false →
      Serves env w (.updateMePassword currentUserId updateRequest) (.error e) w :=
    fun e hcrash => .refused hs.toCoherent e hcrash rfl (by simp)
  unfold updateMePassword
  refine ends_requireUserById hs.toCoherent (hrefused _ rfl) fun acc hacc _ => ?_
  obtain rfl := World.account_id hacc
  simp only [Account.loaded_user, Account.loaded_session, if_true]
  refine ends_verifyPassword (fun valid hvalid => ?_)
    fun e he => hrefused e (Env.verifyPassword_isCrash he)
  refine ends_ite (fun _ => hrefused _ rfl) fun hgood => ?_
  obtain rfl : valid = true := by simpa using hgood
  obtain ⟨hash, hhash⟩ := Env.some_of_verifyPassword hvalid
  rw [hhash] at hvalid
  refine ends_hashPassword (fun passwordHash hpassword => ?_)
    fun e he => hrefused e (Env.hashPassword_isCrash he)
  rw [deref_some]
  refine ends_commitOrRaise (fun db' hcommit => ?_) fun e _ =>
    .failed hs.toCoherent _ _ (Nat.le_succ _) e.exn_isCrash rfl fun _ _ _ _ =>
      not_revoking_error (by simp)
  obtain ⟨user, hdraft, -, hmoved⟩ := hs.toCoherent.commit_update hacc
    ⟨rfl, rfl, by simp [UserSession.revoked], by simp, by simp⟩ hcommit
  obtain rfl : user = (acc.withPassword passwordHash).user := User.draft_injective hdraft
  rw [ends_createTask, ends_deleteCache']
  exact .moved rfl hacc (.updateMePassword acc updateRequest hash hhash hvalid hpassword)
    ((hmoved.deleteCache _ (by simp) (by simp)).congr rfl fun _ => rfl)
    (.of_commit hcommit rfl rfl fun key hkey => w.forgetting_version _ [] hkey) rfl rfl

theorem confirmEmailChange_serves (hs : w.Sound) (currentUserId : UserId)
    (confirmRequest : ConfirmEmailChange) :
    Ends (exec env) (confirmEmailChange env currentUserId confirmRequest)
      (fun r w' => Serves env w (.confirmEmailChange currentUserId confirmRequest)
        (r.map fun _ => .none) w') w := by
  have hrefused : ∀ e : Exn, e.isCrash = false →
      Serves env w (.confirmEmailChange currentUserId confirmRequest) (.error e) w :=
    fun e hcrash => .refused hs.toCoherent e hcrash rfl (by simp)
  unfold confirmEmailChange
  refine ends_requireUserById hs.toCoherent (hrefused _ rfl) fun acc hacc _ => ?_
  obtain rfl := World.account_id hacc
  simp only [Account.loaded_user, Account.loaded_session, if_true]
  rw [deref_some]
  cases hnew : acc.session.pendingNewEmail with
  | none => exact hrefused _ rfl
  | some newEmail =>
    cases hhash : acc.session.emailChangeCodeHash with
    | none => exact hrefused _ rfl
    | some hash =>
      dsimp only
      rw [ends_datetimeNow]
      -- The code compares the expiry without looking; it is there because the three go together.
      obtain ⟨expiresAt, hexpires⟩ : ∃ t, acc.session.emailChangeCodeExpiresAt = some t := by
        refine Option.ne_none_iff_exists'.mp fun hnull => ?_
        simp [(hs.accounts _ acc hacc).emailChangeGroup.2.mpr hnull] at hhash
      rw [hexpires]
      dsimp only
      refine ends_ite (fun _ => hrefused _ rfl) fun hnow => ?_
      refine ends_verifyDigest (fun _ => ?_) fun _ => hrefused _ rfl
      refine ends_ite (fun _ => hrefused _ rfl) fun hvalid => ?_
      have hvalid : env.sha256 confirmRequest.code = hash := by simpa using hvalid
      refine ends_checkStudentContact (fun _ => ?_) fun _ _ _ => hrefused _ rfl
      refine ends_tryCommit (fun db' hcommit => ?_) fun e _ => ends_exceptIntegrityError hrefused
      obtain ⟨user, hdraft, -, hmoved⟩ := hs.toCoherent.commit_update hacc
        ⟨rfl, rfl, by simp [UserSession.overridden, UserSession.revoked], by simp, by simp⟩ hcommit
      obtain rfl : user = (acc.withEmail newEmail.text).user := User.draft_injective hdraft
      refine (ends_refresh hmoved (by rfl) _).mpr ?_
      rw [ends_createTask, ends_deleteCache']
      exact .moved rfl hacc
        (.confirmEmailChange acc confirmRequest newEmail expiresAt hnew (hvalid ▸ hhash) hexpires
          (not_lt.mp hnow))
        ((hmoved.deleteCache _ (by simp) (by simp [userDetailKeys])).congr rfl fun _ => rfl)
        (.of_commit hcommit rfl rfl fun key hkey => w.forgetting_version _ _ hkey) rfl rfl

/-- The commit of `update_me_credentials` is one move of the account, which drops the
cached version when the username changes. -/
theorem commitMyCredentials_ends (hc : w.Coherent) {acc : Account}
    (hacc : w.account acc.user.id = some acc) (user : User)
    (hid : user.id = acc.user.id) (hat : user.createdAt = acc.user.createdAt)
    (session : UserSession) (hsession : session.userId = acc.session.userId)
    (usernameChanging : Bool) (change : Option EmailChange) {Q : Except Exn Unit → World → Prop}
    (hok : acc.Fits w.db user session → ∀ w', Moved w w' acc.user.id
        { acc with
          user := user, session := session
          cachedVersion := if usernameChanging then none else acc.cachedVersion } →
      w.Leaves w' [] (change.toList.map fun change =>
        { recipient := change.newEmail.text, emailType := .emailChangeCode
          content := .emailChangeVerification change.rawCode })
        (w.forgetting (userDetailKeys acc.user.id)) →
      w'.clock = w.clock → w'.draws = w.draws → Q (.ok ()) w')
    (herr : ¬ acc.Fits w.db user session → ∀ e : Exn, e.isCrash = false → Q (.error e) w) :
    Ends (exec env)
      (commitMyCredentials (acc.loaded w.db { loadSession := true }) user.draft session
      usernameChanging change) Q w := by
  unfold commitMyCredentials
  have hiff := w.db.commit_update_ok_iff w.clock acc user session
  refine ends_tryCommit (fun db' hcommit => ?_) fun e hcommit =>
    ends_exceptIntegrityError (herr fun hfits => ?_)
  · have hok := hok (hiff.mp ⟨db', hcommit⟩)
    obtain ⟨user', hdraft, -, hmoved⟩ := hc.commit_update hacc
      ⟨hid, hat, by simp [hsession], by simp, by simp⟩ hcommit
    obtain rfl : user' = user := User.draft_injective hdraft
    refine (ends_refresh hmoved (by rfl) _).mpr ?_
    refine ends_sendEmailChangeCode fun mails hmails => ?_
    rw [ends_deleteCache]
    -- The details are dropped in any case, the version only with the name.
    have hmoved := hmoved.deleteDetails (userDetailKeys acc.user.id) (by simp [userDetailKeys])
    cases usernameChanging with
    | false =>
      exact hok _ (hmoved.congr rfl fun _ => rfl) (.of_commit hcommit rfl hmails fun _ _ => rfl)
        rfl rfl
    | true =>
      refine hok _ ((hmoved.deleteCache [.accessTokenVersionKey acc.user.id] (by simp)
        (by simp)).congr rfl fun _ => rfl)
        (.of_commit hcommit rfl hmails fun key hkey => ?_) rfl rfl
      exact if_neg (by simpa using hkey acc.user.id)
  · obtain ⟨db', hcommit'⟩ := hiff.mpr hfits
    cases hcommit'.symm.trans hcommit

theorem updateMeCredentials_serves (hs : w.Sound) (currentUserId : UserId)
    (updateRequest : UpdateUserCredentials) :
    Ends (exec env) (updateMeCredentials env currentUserId updateRequest)
      (fun r w' => Serves env w (.updateMeCredentials currentUserId updateRequest)
        (r.map fun _ => .none) w') w := by
  have hrefused : ∀ e : Exn, e.isCrash = false →
      Serves env w (.updateMeCredentials currentUserId updateRequest) (.error e) w :=
    fun e hcrash => .refused hs.toCoherent e hcrash rfl (by simp)
  have hfailed : ∀ e : Exn, e.isCrash = false →
      Serves env w (.updateMeCredentials currentUserId updateRequest) (.error e)
        { w with draws := w.draws + 1 } :=
    fun e hcrash => .failed hs.toCoherent e _ (Nat.le_succ _) hcrash rfl fun _ _ _ _ =>
      not_revoking_error (by simp)
  unfold updateMeCredentials
  refine ends_requireUserById hs.toCoherent (hrefused _ rfl) fun acc hacc _ => ?_
  obtain rfl := World.account_id hacc
  -- What has been drawn is no part of an account.
  have hdrawn : ({ w with draws := w.draws + 1 } : World).account acc.user.id = some acc := hacc
  cases hname : updateRequest.newUsername (acc.loaded w.db { loadSession := true }).user with
  | none =>
    cases hemail : updateRequest.newEmail (acc.loaded w.db { loadSession := true }).user with
    | none => exact hrefused _ rfl
    | some newEmail =>
      refine ends_ite (fun _ => hrefused _ rfl) fun _ => ?_
      rw [Account.loaded_session, if_pos rfl, deref_some, ends_datetimeNow]
      refine ends_ite (fun _ => hrefused _ rfl) fun hnew => ?_
      refine (ends_generateEmailChangeCode _ _).mpr ?_
      refine commitMyCredentials_ends (hs.toCoherent.drawn _) hdrawn acc.user rfl rfl
        (acc.emailChangeRequested env w.clock w.draws newEmail).session rfl false _
        (fun _ w' hmoved hleaves hclock hdraws => ?_) fun _ => ?_
      · refine .moved rfl hacc
          (.requestEmailChange acc updateRequest newEmail hname hemail (by simpa using hnew))
          ⟨hmoved.account, hmoved.others, hmoved.coherent⟩ ?_ hclock hdraws
        rw [Request.sends, show updateRequest.newEmail acc.user = some newEmail from hemail]
        exact hleaves.drawn
      · exact hfailed
  | some username =>
    cases hemail : updateRequest.newEmail (acc.loaded w.db { loadSession := true }).user with
    | none =>
      refine ends_ite (fun _ => hrefused _ rfl) fun _ => ?_
      rw [Account.loaded_session, if_pos rfl, deref_some, ends_datetimeNow]
      refine ends_ite (fun _ => hrefused _ rfl) fun hnew => ?_
      refine commitMyCredentials_ends hs.toCoherent hacc (acc.renamed username).user rfl rfl
        (acc.renamed username).session rfl true none (fun _ w' hmoved hleaves hclock hdraws => ?_)
        fun _ => ?_
      · refine .moved rfl hacc (.renameMe acc updateRequest username hname hemail) hmoved ?_ hclock
          hdraws
        rw [Request.sends, show updateRequest.newEmail acc.user = none from hemail]
        exact hleaves
      · exact hrefused
    | some newEmail =>
      refine ends_ite (fun _ => hrefused _ rfl) fun _ => ?_
      rw [Account.loaded_session, if_pos rfl, deref_some, ends_datetimeNow]
      refine ends_ite (fun _ => hrefused _ rfl) fun hnew => ?_
      refine (ends_generateEmailChangeCode _ _).mpr ?_
      refine commitMyCredentials_ends (hs.toCoherent.drawn _) hdrawn (acc.renamed username).user
        rfl rfl ((acc.renamed username).emailChangeRequested env w.clock w.draws newEmail).session
        rfl true _ (fun _ w' hmoved hleaves hclock hdraws => ?_) fun _ => ?_
      · refine .moved rfl hacc
          (.renameMeAndRequestEmailChange acc updateRequest username newEmail hname hemail
            (by simpa using hnew))
          ⟨hmoved.account, hmoved.others, hmoved.coherent⟩ ?_ hclock hdraws
        rw [Request.sends, show updateRequest.newEmail acc.user = some newEmail from hemail]
        exact hleaves.drawn
      · exact hfailed

end SmsLite
