import SmsLite.Concurrency.Transactions

/-!
# Every service keeps to the protocol

One lemma for each operation, by a walk along its statements.  What the operation does to
the session shows in the constructor of `Tx.MayWriteSession` its commit uses.

## Main results

* `Request.follows` — **every request keeps to the protocol, whatever replies it gets**.
-/

namespace SmsLite

open Interleave
open Interleave.Prog (Follows)
open Tx (Obeys MayWriteSession MayWriteUser settled_of_not_committed)

variable {env : Env}

/-! ### What the commits change -/

/-- The four columns a commit has to account for. -/
theorem Tx.MayWriteUser.of_eq {c : Tx} {u : User} {d : UserDraft} (hid : d.id = u.id)
    (hrole : d.role = u.role) (hphone : d.phoneNumber = some u.phoneNumber)
    (hemail : d.email = some u.email) : c.MayWriteUser u d where
  id := hid
  role := hrole
  phoneNumber := by
    intro _ text htext hne
    rw [hphone] at htext
    exact absurd (Option.some.inj htext).symm hne
  email := by
    intro _ text htext hne
    rw [hemail] at htext
    exact absurd (Option.some.inj htext).symm hne

/-- A field of an update request sets a contact only to the value it carries. -/
theorem Tx.MayWriteContact.of_patch {α : Type} {c : Tx} {u : User} {kind : String → Contact}
    {old : String} {p : Patch α} {text : α → String}
    (h : u.role = .student → ∀ a, p = .set a → text a ≠ old →
      (kind (text a), some u.id) ∈ c.cleared) :
    c.MayWriteContact u kind old ((p.map text).assign (some old)) := by
  intro hrole t ht hne
  cases p with
  | unset =>
    cases ht
    exact absurd rfl hne
  | null => cases ht
  | set a =>
    cases ht
    exact h hrole a rfl hne

/-- A commit that leaves the session and the contacts alone. -/
theorem mayCommit_keeps {c : Tx} {l : Loaded} {d : Dirty} {mails : List NewPendingEmail}
    (hloaded : c.loaded = some l) (hreq : c.request.revokesSession = false)
    (huser : c.MayWriteUser l.user d.user)
    (hsession : d.session.map UserSession.secrets = l.session.map UserSession.secrets) :
    c.MayCommit env (.update l d mails) := ⟨hloaded, huser, .keeps hreq hsession⟩

/-- After a commit that raises no version there is nothing to settle. -/
theorem settled_of_secrets {c : Tx} {l : Loaded} {d : Dirty} {mails : List NewPendingEmail}
    (hcommitted : c.committed = some (.update l d mails))
    (h : d.session.map UserSession.secrets = l.session.map UserSession.secrets) : c.Settled := by
  intro hraised
  refine absurd ?_ hraised
  simp only [Tx.raised?, hcommitted, Option.bind_some, UnitOfWork.raised?]
  cases hs : l.session with
  | none => rfl
  | some s =>
    cases hd : d.session with
    | none => rfl
    | some s' =>
      rw [hs, hd] at h
      have hversion := congrArg Prod.fst (Option.some.inj h)
      exact if_pos hversion

/-- Deleting the version key of the loaded user settles. -/
theorem settled_drop {c : Tx} {l : Loaded} {work : UnitOfWork} {keys : List CacheKey}
    (hloaded : c.loaded = some l) (hkey : .accessTokenVersionKey l.user.id ∈ keys) :
    Tx.Settled { c.commit work with
      dropped := (c.commit work).dropped || (c.commit work).drops keys } := by
  intro _
  simp [Tx.drops, Tx.commit, Tx.unlocked, hloaded, hkey]

/-! ### The authentication service -/

/-- `_invalidate_all_tokens` raises the version of the user it is given, then deletes the
cached one. -/
theorem obeys_invalidateAllTokens {c : Tx} {Q : Tx → Unit → Prop} {identity : Option Loaded}
    {id : UserId} (hpending : c.Pending) (hid : c.request.userId? env = some id)
    (hidentity : c.loaded = identity) (howner : ∀ l ∈ identity, l.user.id = id)
    (h : ∀ c' : Tx, c'.request = c.request → c'.Settled → Q c' ()) :
    Obeys env c (invalidateAllTokens identity id) Q := by
  unfold invalidateAllTokens
  refine obeys_getUserById hid fun reply hreply => ?_
  cases reply with
  | none => exact h _ rfl (settled_of_not_committed hpending.1)
  | some loaded =>
    have hloaded : c.loaded.or (some loaded) = some (identity.getD loaded) := by
      rw [hidentity]
      cases identity <;> rfl
    have hown : (identity.getD loaded).user.id = id := by
      cases identity with
      | none => exact hreply loaded rfl
      | some l => exact howner l rfl
    refine obeys_deref (settled_of_not_committed hpending.1) fun session hsession => ?_
    refine obeys_commitOrRaise hpending ⟨hloaded, .of_eq rfl rfl rfl rfl, ?_⟩ ?_
    · rw [hsession]
      exact .revokes rfl rfl
    · refine obeys_deleteCache' (h _ rfl (settled_drop hloaded ?_))
      rw [hown]
      exact List.mem_singleton_self _

/-- The new refresh token is made of a text drawn here. -/
theorem obeys_openSession {c : Tx} {Q : Tx → LoginResponse → Prop} {user : Loaded}
    {session : UserSession} {loginLockout : Option UserLoginLockout}
    (hreq : c.request.opensSession = true) (hloaded : c.loaded = some user)
    (hsession : user.session = some session) (hpending : c.Pending)
    (h : ∀ (c' : Tx) t, c'.request = c.request → c'.loaded = c.loaded → c'.Settled →
      c'.Stored env t.refreshTokenCookie → Q c' t) :
    Obeys env c (openSession env user session loginLockout) Q := by
  unfold openSession
  refine obeys_tokenUrlsafe hpending.1 fun family => obeys_datetimeNow fun now => ?_
  refine obeys_tokenUrlsafe hpending.1 fun jti => obeys_datetimeNow fun now' => ?_
  refine obeys_datetimeNow fun now'' => ?_
  refine obeys_commitOrRaise hpending ⟨hloaded, .of_eq rfl rfl rfl rfl, ?_⟩ ?_
  · rw [hsession]
    exact .opens hreq List.mem_cons_self rfl rfl
  · refine obeys_refresh ⟨user, hloaded, rfl⟩ fun _ => h _ _ rfl rfl ?_ ?_
    · intro hraised
      simp [Tx.raised?, UnitOfWork.raised?, Tx.commit, hsession] at hraised
    · exact ⟨_, _, _, _, rfl, rfl, rfl, now', jti, List.mem_cons_self, rfl⟩

theorem obeys_login (formData : LoginForm) :
    Obeys env (.start (.login formData)) (login env formData)
      fun c t => c.Settled ∧ c.Answers env (.tokens t) := by
  unfold login
  split
  · refine obeys_getUserByUsername rfl fun reply => ?_
    cases reply with
    | none => exact obeys_raise _ (settled_of_not_committed rfl)
    | some user =>
      refine obeys_deref (settled_of_not_committed rfl) fun loginLockout _ => ?_
      refine obeys_datetimeNow fun now => ?_
      split
      · exact obeys_raise _ (settled_of_not_committed rfl)
      · refine obeys_ite (fun _ => obeys_raise _ (settled_of_not_committed rfl)) fun _ => ?_
        refine obeys_ite (fun _ => obeys_raise _ (settled_of_not_committed rfl)) fun _ => ?_
        refine obeys_verifyPassword (settled_of_not_committed rfl) fun valid => ?_
        refine obeys_ite (fun _ => ?_) fun _ => ?_
        -- The wrong password: a commit that leaves the session alone.
        · refine obeys_datetimeNow fun now' => ?_
          refine obeys_commitOrRaise ⟨rfl, rfl⟩
            (mayCommit_keeps rfl rfl (.of_eq rfl rfl rfl rfl) rfl) ?_
          exact obeys_raise _ (settled_of_secrets rfl rfl)
        · refine obeys_ite (fun _ => obeys_raise _ (settled_of_not_committed rfl)) fun _ => ?_
          refine obeys_deref (settled_of_not_committed rfl) fun session hsession => ?_
          refine obeys_openSession rfl rfl hsession ⟨rfl, rfl⟩ fun c t hreq _ hsettled hstored => ?_
          refine ⟨hsettled, ?_⟩
          simp only [Tx.Answers, hreq, Tx.start]
          rintro _ ⟨⟩
          exact hstored
  · exact obeys_raise _ (settled_of_not_committed rfl)

theorem obeys_refreshToken (token family : String) :
    Obeys env (.start (.refreshToken token family)) (refreshToken env token family)
      fun c t => c.Settled ∧ c.Answers env (.tokens t) := by
  have hbefore : (Tx.start (.refreshToken token family)).Settled := settled_of_not_committed rfl
  unfold refreshToken
  refine obeys_datetimeNow fun now => obeys_ofExcept hbefore fun userId hsubject => ?_
  have hid : (Request.refreshToken token family).userId? env = some userId := by
    obtain ⟨claims, hdecode, -, -, hsub⟩ := refreshTokenSubject_eq_ok.mp hsubject
    simp [Request.userId?, hdecode, hsub]
  refine obeys_getUserById hid fun reply hreply => ?_
  cases reply with
  | none => exact obeys_raise _ hbefore
  | some user =>
    have hown : user.user.id = userId := hreply user rfl
    refine obeys_deref hbefore fun session hsession => ?_
    split
    · next hash family' expiresAt hhash hfamily hexpires =>
      refine obeys_datetimeNow fun now' => ?_
      refine obeys_ite (fun _ => obeys_raise _ hbefore) fun _ => ?_
      refine obeys_ofExcept hbefore fun familyValid hfamilyValid => ?_
      refine obeys_ofExcept hbefore fun hashValid hhashValid => ?_
      refine obeys_ite (fun _ => ?_) fun hvalid => ?_
      · -- The violation: everything is revoked, and the answer is an error.
        refine obeys_bind.mpr
          (obeys_invalidateAllTokens ⟨rfl, rfl⟩ (by rw [hown]; exact hid) rfl ?_ ?_)
        · rintro l ⟨⟩
          rfl
        · exact fun c' _ hsettled => obeys_raise _ hsettled
      · refine obeys_openSession rfl rfl hsession ⟨rfl, rfl⟩
          fun c t hreq hloaded hsettled hstored => ?_
        refine ⟨hsettled, ?_⟩
        simp only [Tx.Answers, hreq, Tx.start]
        -- Neither check failed, so the row it has loaded holds the pair.
        refine ⟨⟨user, hloaded, session, hsession, ?_, ?_⟩, ?_⟩
        · have hcheck : env.sha256 token = hash := by
            simp only [Bool.or_eq_true, Bool.not_eq_true', not_or, Bool.not_eq_false] at hvalid
            simpa [hvalid.2] using compareDigest_eq_ok hhashValid
          rw [hhash, hcheck]
        · have hcheck : family = family' := by
            simp only [Bool.or_eq_true, Bool.not_eq_true', not_or, Bool.not_eq_false] at hvalid
            unfold compareDigest at hfamilyValid
            split at hfamilyValid
            · simpa [hvalid.1] using hfamilyValid
            · cases hfamilyValid
          rw [hfamily, hcheck]
        · rintro _ ⟨⟩
          exact hstored
    · exact obeys_raise _ hbefore

theorem obeys_logout (id : UserId) :
    Obeys env (.start (.logout id)) (logout id) fun c _ => c.Settled ∧ c.Answers env .none := by
  refine obeys_invalidateAllTokens ⟨rfl, rfl⟩ rfl rfl (by simp) fun c' hreq hsettled =>
    ⟨hsettled, ?_⟩
  simp only [Tx.Answers, hreq, Tx.start]

theorem obeys_activateAccount (r : ActivateAccountWithToken) :
    Obeys env (.start (.activateAccount r)) (activateAccount env r)
      fun c _ => c.Settled ∧ c.Answers env .none := by
  have hbefore : (Tx.start (.activateAccount r)).Settled := settled_of_not_committed rfl
  unfold activateAccount
  refine obeys_getUserByUsername rfl fun reply => ?_
  cases reply with
  | none => exact obeys_raise _ hbefore
  | some user =>
    refine obeys_deref hbefore fun activation _ => ?_
    split
    · exact obeys_raise _ hbefore
    · refine obeys_datetimeNow fun now => ?_
      split
      · exact obeys_raise _ hbefore
      · refine obeys_ofExcept hbefore fun valid _ => ?_
        refine obeys_ite (fun _ => obeys_raise _ hbefore) fun _ => ?_
        refine obeys_hashPassword hbefore fun hash => ?_
        refine obeys_commitOrRaise ⟨rfl, rfl⟩
          (mayCommit_keeps rfl rfl (.of_eq rfl rfl rfl rfl) rfl) ?_
        exact obeys_refresh ⟨user, rfl, rfl⟩ fun _ => ⟨settled_of_secrets rfl rfl, trivial⟩

theorem obeys_resetPassword (r : ResetPassword) :
    Obeys env (.start (.resetPassword r)) (resetPassword env r)
      fun c _ => c.Settled ∧ c.Answers env .none := by
  have hbefore : (Tx.start (.resetPassword r)).Settled := settled_of_not_committed rfl
  unfold resetPassword
  refine obeys_getUserByUsername rfl fun reply => ?_
  cases reply with
  | none => exact obeys_raise _ hbefore
  | some user =>
    refine obeys_deref hbefore fun session hsession => obeys_datetimeNow fun now => ?_
    split
    · exact obeys_raise _ hbefore
    · refine obeys_ofExcept hbefore fun valid _ => ?_
      refine obeys_ite (fun _ => obeys_raise _ hbefore) fun _ => ?_
      refine obeys_hashPassword hbefore fun hash => obeys_deref hbefore fun loginLockout _ => ?_
      refine obeys_commitOrRaise ⟨rfl, rfl⟩ ⟨rfl, .of_eq rfl rfl rfl rfl, ?_⟩ ?_
      · rw [hsession]
        exact .revokes rfl rfl
      · refine obeys_refresh ⟨user, rfl, rfl⟩ fun _ => ?_
        refine obeys_deleteCache' ⟨settled_drop rfl ?_, trivial⟩
        exact List.mem_singleton_self _

theorem obeys_createForgotPasswordRequest (r : ForgotPasswordPublicRequest) :
    Obeys env (.start (.createForgotPasswordRequest r)) (createForgotPasswordRequest env r)
      fun c text => c.Settled ∧ c.Answers env (.message text) := by
  have hbefore : (Tx.start (.createForgotPasswordRequest r)).Settled := settled_of_not_committed rfl
  unfold createForgotPasswordRequest
  refine obeys_getUserByUsername rfl fun reply => obeys_tokenUrlsafe rfl fun text => ?_
  cases reply with
  | none => exact ⟨hbefore, trivial⟩
  | some user =>
    obtain ⟨u, _ | session, a, lo, g⟩ := user
    · exact ⟨hbefore, trivial⟩
    · refine obeys_datetimeNow fun now => ?_
      refine obeys_commitOrRaise ⟨rfl, rfl⟩
        (mayCommit_keeps rfl rfl (.of_eq rfl rfl rfl rfl) rfl) ?_
      exact obeys_createTask ⟨settled_of_secrets rfl rfl, trivial⟩

/-- The version it accepts is the one it has read. -/
theorem obeys_getCurrentUser (token : String) :
    Obeys env (.start (.getCurrentUser token)) (getCurrentUser env token)
      fun c user => c.Settled ∧ c.Answers env (.currentUser user) := by
  have hbefore : (Tx.start (.getCurrentUser token)).Settled := settled_of_not_committed rfl
  unfold getCurrentUser
  refine obeys_datetimeNow fun now => obeys_ofExcept hbefore fun subject hsubject => ?_
  obtain ⟨userId, version, role⟩ := subject
  obtain ⟨claims, hdecode, -, -, hsub, hversion, -⟩ := accessTokenSubject_eq_ok.mp hsubject
  have hid : (Request.getCurrentUser token).userId? env = some userId := by
    simp [Request.userId?, hdecode, hsub]
  refine obeys_getCache hid fun cached => ?_
  cases role with
  | none => exact obeys_raise _ hbefore
  | some role =>
    cases cached with
    | some value =>
      cases value with
      | version cachedVersion =>
        refine obeys_ite (fun _ => obeys_raise _ hbefore) fun heq => ?_
        rw [not_not] at heq
        subst heq
        exact ⟨hbefore, claims, cachedVersion, hdecode, hversion, .inl rfl⟩
      | _ => exact obeys_raise _ hbefore
    | none =>
      refine obeys_getUserById hid fun reply hreply => ?_
      cases reply with
      | none => exact obeys_raise _ hbefore
      | some user =>
        refine obeys_deref hbefore fun session hsession => ?_
        refine obeys_ite (fun _ => obeys_raise _ hbefore) fun heq => ?_
        refine obeys_ite (fun _ => obeys_raise _ hbefore) fun _ => ?_
        rw [not_not] at heq
        refine obeys_setCache ⟨user, session, rfl, hreply user rfl, hsession, rfl⟩ ?_
        exact ⟨hbefore, claims, version, hdecode, hversion,
          .inr ⟨user, session, rfl, hsession, heq⟩⟩

/-! ### The user services -/

/-- The contacts of a new student are cleared before it is added. -/
theorem obeys_registerUser (id : UserId) (r : CreateUserRequest) :
    Obeys env (.start (.registerUser id r)) (registerUser env id r)
      fun c u => c.Settled ∧ c.Answers env (.user u) := by
  have hbefore : (Tx.start (.registerUser id r)).Settled := settled_of_not_committed rfl
  unfold registerUser
  refine obeys_onlyIf_acquireStudentContactLock ?_ ?_ fun locks hlocks => ?_
  · rintro t ⟨⟩
    exact r.base.phoneNumber.text_ne_empty
  · rintro t ⟨⟩
    exact r.base.email.text_ne_empty
  refine obeys_checkContactLimit hbefore fun cleared hcleared => ?_
  refine obeys_tokenUrlsafe rfl fun text => obeys_datetimeNow fun now => ?_
  refine obeys_tryFlushUser fun reply => ?_
  cases reply with
  | error e => exact obeys_exceptIntegrityError hbefore
  | ok newId =>
    refine obeys_tryCommit ⟨rfl, rfl⟩ ⟨rfl, rfl, fun hrole => ?_⟩ ?_ fun e =>
      obeys_exceptIntegrityError hbefore
    · -- A student: the limit was checked for its role and its number, under both locks.
      cases r with
      | teacher base => cases hrole
      | student base dateOfBirth address =>
        obtain ⟨hphone, hemail⟩ := hlocks rfl
        obtain ⟨hphone', hemail'⟩ := hcleared rfl rfl
        exact ⟨hphone' _ rfl (hphone _ rfl), hemail' _ rfl (hemail _ rfl)⟩
    · exact obeys_refresh' (fun h => absurd rfl h) fun u => ⟨fun h => absurd rfl h, trivial⟩

theorem obeys_updateUser (id : UserId) (r : UpdateUserRequest) :
    Obeys env (.start (.updateUser id r)) (updateUser env id r)
      fun c _ => c.Settled ∧ c.Answers env .none := by
  have hbefore : (Tx.start (.updateUser id r)).Settled := settled_of_not_committed rfl
  unfold updateUser
  refine obeys_getUserById rfl fun reply hreply => obeys_ensureExists hbefore fun user huser => ?_
  subst huser
  have hown : user.user.id = id := hreply user rfl
  refine obeys_ite (fun _ => obeys_raise _ hbefore) fun hshape => ?_
  refine obeys_checkStudentContact hbefore ?_ (by simp) fun locks cleared hcleared => ?_
  · intro t ht
    obtain ⟨number, -, rfl⟩ := Option.map_eq_some_iff.mp ht
    exact number.text_ne_empty
  refine obeys_updateObject hbefore ?_
  refine obeys_tryCommit ⟨rfl, rfl⟩ (mayCommit_keeps rfl rfl ⟨?_, ?_, ?_, ?_⟩ rfl) ?_ fun e =>
    obeys_exceptIntegrityError hbefore
  · cases r <;> rfl
  · cases r <;> rfl
  · have hphone : (r.assign user.user.draft).phoneNumber =
        (r.base.phoneNumber.map (·.text)).assign (some user.user.phoneNumber) := by
      cases r <;> rfl
    rw [hphone]
    refine .of_patch fun hrole number hset hne => ?_
    have hnew : r.newPhoneNumber user.user = some number := by
      simp [UpdateUserRequest.newPhoneNumber, hset, Patch.value?, hne]
    rw [hown]
    exact (hcleared (by simp [hrole, hnew])).1 _ (by simp [hnew])
  · have hemail : (r.assign user.user.draft).email = some user.user.email := by
      cases r <;> rfl
    intro _ text htext hne
    rw [hemail] at htext
    exact absurd (Option.some.inj htext).symm hne
  · refine obeys_refresh ⟨user, rfl, hown⟩ fun refreshed => obeys_createTask ?_
    exact obeys_deleteCache' ⟨settled_of_secrets rfl rfl, trivial⟩

theorem obeys_updateUserCredentials (by_ id : UserId) (r : UpdateUserCredentials) :
    Obeys env (.start (.updateUserCredentials by_ id r)) (updateUserCredentials env by_ id r)
      fun c _ => c.Settled ∧ c.Answers env .none := by
  have hbefore : (Tx.start (.updateUserCredentials by_ id r)).Settled :=
    settled_of_not_committed rfl
  unfold updateUserCredentials
  refine obeys_getUserById rfl fun reply hreply => obeys_ensureExists hbefore fun user huser => ?_
  subst huser
  have hown : user.user.id = id := hreply user rfl
  refine obeys_checkStudentContact hbefore (by simp) ?_ fun locks cleared hcleared => ?_
  · intro t ht
    obtain ⟨address, -, rfl⟩ := Option.map_eq_some_iff.mp ht
    exact address.text_ne_empty
  refine obeys_updateObject hbefore (obeys_deref hbefore fun session hsession => ?_)
  -- Whether or not the invite is issued anew, the rest is the same.
  have hrest : ∀ drawn, ∀ invite : Option UserActivation × NewPendingEmail,
      ∀ {after : Except DbError Unit → Service Unit},
      after (.ok ()) = deleteCache (.accessTokenVersionKey id :: userDetailKeys id) →
      (∀ e, after (.error e) = exceptIntegrityError true (!decide (user.user.role = .student)) e) →
      Obeys env
        { Tx.start (.updateUserCredentials by_ id r) with
          loaded := some user, locks := locks, cleared := cleared, drawn := drawn }
        (tryCommit (.update user
            { user := r.assign user.user.draft, session := some session.overridden
              activation := invite.1, loginLockout := user.loginLockout } [invite.2]) >>= after)
        fun c _ => c.Settled ∧ c.Answers env .none := by
    intro drawn invite after hok herr
    refine obeys_tryCommit ⟨rfl, rfl⟩ ⟨rfl, ⟨rfl, rfl, ?_, ?_⟩, ?_⟩ (hok ▸ ?_) fun e =>
      herr e ▸ obeys_exceptIntegrityError hbefore
    · intro _ text htext hne
      exact absurd (Option.some.inj htext).symm hne
    · refine .of_patch fun hrole address hset hne => ?_
      have hnew : r.newEmail user.user = some address := by
        simp [UpdateUserCredentials.newEmail, hset, Patch.value?, hne]
      rw [hown]
      exact (hcleared (by simp [hrole, hnew])).2 _ (by simp [hnew])
    · rw [hsession]
      exact .revokes rfl rfl
    · refine obeys_deleteCache' ⟨settled_drop rfl ?_, trivial⟩
      rw [hown]
      exact List.mem_cons_self
  refine obeys_ite (fun _ => ?_) fun _ => ?_
  · refine obeys_reissueInvite rfl fun text invite => ?_
    exact hrest [text] (some invite.1, invite.2) rfl fun _ => rfl
  · exact hrest [] (user.activation, _) rfl fun _ => rfl

theorem obeys_deactivateUser (id : UserId) :
    Obeys env (.start (.deactivateUser id)) (deactivateUser id)
      fun c _ => c.Settled ∧ c.Answers env .none := by
  have hbefore : (Tx.start (.deactivateUser id)).Settled := settled_of_not_committed rfl
  unfold deactivateUser
  refine obeys_getUserById rfl fun reply hreply => obeys_ensureExists hbefore fun user huser => ?_
  subst huser
  refine obeys_ite (fun _ => obeys_raise _ hbefore) fun _ => ?_
  refine obeys_deref hbefore fun session hsession => ?_
  refine obeys_commitOrRaise ⟨rfl, rfl⟩ ⟨rfl, .of_eq rfl rfl rfl rfl, ?_⟩ (obeys_createTask ?_)
  · rw [hsession]
    exact .revokes rfl rfl
  · refine obeys_deleteCache' ⟨settled_drop rfl ?_, trivial⟩
    rw [hreply user rfl]
    exact List.mem_cons_self

theorem obeys_activateUser (id : UserId) :
    Obeys env (.start (.activateUser id)) (activateUser id)
      fun c _ => c.Settled ∧ c.Answers env .none := by
  have hbefore : (Tx.start (.activateUser id)).Settled := settled_of_not_committed rfl
  unfold activateUser
  refine obeys_getUserById rfl fun reply _ => obeys_ensureExists hbefore fun user huser => ?_
  subst huser
  refine obeys_ite (fun _ => obeys_raise _ hbefore) fun _ => ?_
  refine obeys_deref hbefore fun loginLockout _ => ?_
  refine obeys_commitOrRaise ⟨rfl, rfl⟩ (mayCommit_keeps rfl rfl (.of_eq rfl rfl rfl rfl) rfl) ?_
  refine obeys_createTask (obeys_deleteCache' ⟨settled_of_secrets rfl rfl, trivial⟩)

theorem obeys_createResetPasswordRequest (by_ id : UserId) :
    Obeys env (.start (.createResetPasswordRequest by_ id)) (createResetPasswordRequest env by_ id)
      fun c _ => c.Settled ∧ c.Answers env .none := by
  have hbefore : (Tx.start (.createResetPasswordRequest by_ id)).Settled :=
    settled_of_not_committed rfl
  unfold createResetPasswordRequest
  refine obeys_getUserById rfl fun reply _ => obeys_ensureExists hbefore fun user huser => ?_
  subst huser
  refine obeys_tokenUrlsafe rfl fun text => obeys_deref hbefore fun session hsession => ?_
  refine obeys_datetimeNow fun now => ?_
  have hkeeps : some session.secrets = user.session.map UserSession.secrets := by rw [hsession]; rfl
  exact obeys_commitOrRaise' ⟨rfl, rfl⟩ (mayCommit_keeps rfl rfl (.of_eq rfl rfl rfl rfl) hkeeps)
    ⟨settled_of_secrets rfl hkeeps, trivial⟩

theorem obeys_resendActivationInvite (by_ id : UserId) :
    Obeys env (.start (.resendActivationInvite by_ id)) (resendActivationInvite env by_ id)
      fun c _ => c.Settled ∧ c.Answers env .none := by
  have hbefore : (Tx.start (.resendActivationInvite by_ id)).Settled :=
    settled_of_not_committed rfl
  unfold resendActivationInvite
  refine obeys_getUserById rfl fun reply _ => obeys_ensureExists hbefore fun user huser => ?_
  subst huser
  refine obeys_ite (fun _ => obeys_raise _ hbefore) fun _ => ?_
  refine obeys_reissueInvite rfl fun text invite => ?_
  exact obeys_commitOrRaise' ⟨rfl, rfl⟩ (mayCommit_keeps rfl rfl (.of_eq rfl rfl rfl rfl) rfl)
    ⟨settled_of_secrets rfl rfl, trivial⟩

/-- The version is raised, and the cached one deleted, exactly when the username changes. -/
theorem obeys_commitMyCredentials {c : Tx} {Q : Tx → Unit → Prop} {user : Loaded}
    {draft : UserDraft} {session session' : UserSession} {usernameChanging : Bool}
    {change : Option EmailChange} (hloaded : c.loaded = some user)
    (hsession : user.session = some session) (hpending : c.Pending)
    (hreq : c.request.revokesSession = false) (huser : c.MayWriteUser user.user draft)
    (hhash : session'.refreshTokenHash = session.refreshTokenHash)
    (hversion : session'.accessTokenVersion =
      if usernameChanging then session.accessTokenVersion + 1 else session.accessTokenVersion)
    (h : ∀ c' : Tx, c'.request = c.request → c'.Settled → Q c' ()) :
    Obeys env c (commitMyCredentials user draft session' usernameChanging change) Q := by
  unfold commitMyCredentials
  refine obeys_tryCommit hpending ⟨hloaded, huser, ?_⟩ ?_ fun e =>
    obeys_exceptIntegrityError (settled_of_not_committed hpending.1)
  · rw [hsession]
    cases usernameChanging with
    | false => exact .keeps hreq (by simp [UserSession.secrets, hhash, hversion])
    | true => exact .renames hreq hversion hhash
  · refine obeys_refresh ⟨user, hloaded, rfl⟩ fun _ => obeys_sendEmailChangeCode ?_
    refine obeys_deleteCache ?_
    cases usernameChanging with
    | false =>
      refine h _ rfl (settled_of_secrets rfl ?_)
      simp [UserSession.secrets, hsession, hhash, hversion]
    | true =>
      refine obeys_deleteCache' (h _ rfl fun _ => ?_)
      simp [Tx.drops, Tx.commit, Tx.unlocked, hloaded]

theorem obeys_updateMeCredentials (id : UserId) (r : UpdateUserCredentials) :
    Obeys env (.start (.updateMeCredentials id r)) (updateMeCredentials env id r)
      fun c _ => c.Settled ∧ c.Answers env .none := by
  have hbefore : (Tx.start (.updateMeCredentials id r)).Settled := settled_of_not_committed rfl
  unfold updateMeCredentials
  refine obeys_getUserById rfl fun reply hreply => obeys_ensureExists hbefore fun user huser => ?_
  subst huser
  refine obeys_ite (fun _ => obeys_raise _ hbefore) fun _ => ?_
  refine obeys_deref hbefore fun session hsession => obeys_datetimeNow fun now => ?_
  refine obeys_ite (fun _ => obeys_raise _ hbefore) fun _ => ?_
  refine obeys_generateEmailChangeCode fun change => ?_
  refine obeys_commitMyCredentials rfl hsession ⟨rfl, rfl⟩ rfl (.of_eq rfl rfl rfl rfl) ?_ ?_ ?_
  · cases r.newUsername user.user <;> cases change <;> rfl
  · cases r.newUsername user.user <;> cases change <;> rfl
  · intro c' hreq hsettled
    refine ⟨hsettled, ?_⟩
    simp only [Tx.Answers, hreq, Tx.start]

theorem obeys_confirmEmailChange (id : UserId) (r : ConfirmEmailChange) :
    Obeys env (.start (.confirmEmailChange id r)) (confirmEmailChange env id r)
      fun c _ => c.Settled ∧ c.Answers env .none := by
  have hbefore : (Tx.start (.confirmEmailChange id r)).Settled := settled_of_not_committed rfl
  unfold confirmEmailChange
  refine obeys_getUserById rfl fun reply hreply => obeys_ensureExists hbefore fun user huser => ?_
  subst huser
  have hown : user.user.id = id := hreply user rfl
  refine obeys_deref hbefore fun session hsession => ?_
  split
  · next newEmail emailChangeCodeHash _ _ =>
    refine obeys_datetimeNow fun now => ?_
    split
    · exact obeys_raise _ hbefore
    · refine obeys_ite (fun _ => obeys_raise _ hbefore) fun _ => ?_
      refine obeys_ofExcept hbefore fun valid _ => ?_
      refine obeys_ite (fun _ => obeys_raise _ hbefore) fun _ => ?_
      refine obeys_checkStudentContact hbefore (by simp) ?_ fun locks cleared hcleared => ?_
      · rintro t ⟨⟩
        exact newEmail.text_ne_empty
      refine obeys_tryCommit ⟨rfl, rfl⟩ ⟨rfl, ⟨rfl, rfl, ?_, ?_⟩, ?_⟩ ?_ fun e =>
        obeys_exceptIntegrityError hbefore
      · intro _ text htext hne
        exact absurd (Option.some.inj htext).symm hne
      · rintro hrole _ ⟨⟩ -
        rw [hown]
        exact (hcleared (by simp [hrole])).2 _ rfl
      · rw [hsession]
        exact .revokes rfl rfl
      · refine obeys_refresh ⟨user, rfl, rfl⟩ fun refreshed => obeys_createTask ?_
        refine obeys_deleteCache' ⟨settled_drop rfl ?_, trivial⟩
        rw [hown]
        exact List.mem_cons_self
  · exact obeys_raise _ hbefore

theorem obeys_updateMePassword (id : UserId) (r : UpdateMePassword) :
    Obeys env (.start (.updateMePassword id r)) (updateMePassword id r)
      fun c _ => c.Settled ∧ c.Answers env .none := by
  have hbefore : (Tx.start (.updateMePassword id r)).Settled := settled_of_not_committed rfl
  unfold updateMePassword
  refine obeys_getUserById rfl fun reply hreply => obeys_ensureExists hbefore fun user huser => ?_
  subst huser
  refine obeys_verifyPassword hbefore fun valid => ?_
  refine obeys_ite (fun _ => obeys_raise _ hbefore) fun _ => ?_
  refine obeys_hashPassword hbefore fun hash => obeys_deref hbefore fun session hsession => ?_
  refine obeys_commitOrRaise ⟨rfl, rfl⟩ ⟨rfl, .of_eq rfl rfl rfl rfl, ?_⟩ (obeys_createTask ?_)
  · rw [hsession]
    exact .revokes rfl rfl
  · refine obeys_deleteCache' ⟨settled_drop rfl ?_, trivial⟩
    rw [hreply user rfl]
    exact List.mem_singleton_self _

/-- The cached readers commit nothing. -/
theorem obeys_cachedDetail {α : Type} {r : Request} {cacheKey : CacheKey} {id : UserId}
    {q : UserQuery} {validate : CacheValue → Option α} {project : Loaded → CacheValue}
    {respond : Loaded → α} {Q : Tx → α → Prop} (hid : r.userId? env = some id)
    (hkey : ∀ id, cacheKey ≠ .accessTokenVersionKey id)
    (h : ∀ c : Tx, c.request = r → c.Settled → ∀ a, Q c a) :
    Obeys env (.start r) (cachedDetail cacheKey id q validate project respond) Q := by
  have hbefore : (Tx.start r).Settled := settled_of_not_committed rfl
  unfold cachedDetail
  have hcache : ∀ f : Option CacheValue → Service α, (∀ reply, Obeys env (.start r) (f reply) Q) →
      Obeys env (.start r) (getCache cacheKey >>= f) Q := by
    intro f hf
    cases cacheKey with
    | accessTokenVersionKey id => exact absurd rfl (hkey id)
    | _ => exact obeys_stmt trivial fun reply _ => hf reply
  refine hcache _ fun reply => ?_
  cases reply with
  | some cached =>
    dsimp only
    cases validate cached with
    | some response => exact h _ rfl hbefore response
    | none => exact obeys_raise _ hbefore
  | none =>
    refine obeys_getUserById hid fun reply _ => obeys_ensureExists hbefore fun user _ => ?_
    cases cacheKey with
    | accessTokenVersionKey id => exact absurd rfl (hkey id)
    | _ =>
      refine obeys_stmt trivial fun _ _ => obeys_pure.mpr (h _ rfl ?_ _)
      exact settled_of_not_committed rfl

/-! ### All of them -/

/-- **Every request keeps to the protocol, whatever replies it gets.** -/
theorem Request.follows (env : Env) (r : Request) :
    Follows (protocol env) (Tx.Post env) (.start r) (r.service env) := by
  -- A program that obeys, and settles when it returns, meets the postcondition.
  have hpost : ∀ p : Service Response,
      Obeys env (.start r) p (fun c response => c.Settled ∧ c.Answers env response) →
      Follows (protocol env) (Tx.Post env) (.start r) p := by
    intro p hp
    refine Prog.Follows.mono hp fun c out hout => ?_
    cases out with
    | ok response =>
      refine ⟨hout.1, ?_⟩
      rintro _ ⟨⟩
      exact hout.2
    | error e => exact ⟨hout, by intro _ h; cases h⟩
  refine hpost _ ?_
  cases r with
  | login formData => exact obeys_map (obeys_login formData)
  | logout id => exact obeys_map (obeys_logout id)
  | activateAccount r => exact obeys_map (obeys_activateAccount r)
  | refreshToken token family => exact obeys_map (obeys_refreshToken token family)
  | resetPassword r => exact obeys_map (obeys_resetPassword r)
  | createForgotPasswordRequest r => exact obeys_map (obeys_createForgotPasswordRequest r)
  | getCurrentUser token => exact obeys_map (obeys_getCurrentUser token)
  | registerUser id r => exact obeys_map (obeys_registerUser id r)
  | updateUser id r => exact obeys_map (obeys_updateUser id r)
  | updateUserCredentials by_ id r => exact obeys_map (obeys_updateUserCredentials by_ id r)
  | deactivateUser id => exact obeys_map (obeys_deactivateUser id)
  | activateUser id => exact obeys_map (obeys_activateUser id)
  | createResetPasswordRequest by_ id =>
    exact obeys_map (obeys_createResetPasswordRequest by_ id)
  | resendActivationInvite by_ id => exact obeys_map (obeys_resendActivationInvite by_ id)
  | getTeacherByIdAdmin id | getStudentByIdAdmin id | getTeacherByIdDirector id
  | getStudentByIdDirector id | getMyProfile id | getMyStudentProfile id =>
    refine obeys_map (obeys_cachedDetail rfl (fun _ => by simp) fun c hreq hsettled a => ?_)
    refine ⟨hsettled, ?_⟩
    simp only [Tx.Answers, hreq]
  | updateMeCredentials id r => exact obeys_map (obeys_updateMeCredentials id r)
  | confirmEmailChange id r => exact obeys_map (obeys_confirmEmailChange id r)
  | updateMePassword id r => exact obeys_map (obeys_updateMePassword id r)

end SmsLite
