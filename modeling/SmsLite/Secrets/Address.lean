import SmsLite.Secrets.Letters
import SmsLite.Concrete

/-!
# Tokens and the address they were mailed to

A token proves that its bearer reads the mail of the account, so it should die with the
address.  An administrator who changes the email of a pending account renews its invite; the
other changes of the email leave the tokens alone.

## Main definitions

* `World.TokensCurrent` — every token that would still be accepted was mailed to the current
  email of its user.
* `Account.Overridable`, `Account.Confirmable` — the guards of `update_user_credentials` and of
  `confirm_email_change`.
* `Event.Strands` — the event changes the email of a user who keeps a token.

## Main results

* `updateUserCredentials_ok_iff`, `confirmEmailChange_ok_iff` — the guards decide.
* `tokensCurrent_run` — **in a run that strands no token, every token is current**, and
  `resetToken_survives`: otherwise one is not.
-/

namespace SmsLite

open Interleave
open Interleave.Prog (Ends ends_map)

variable {env : Env} {w : World}

/-! ### Guards -/

/-- The guards of `update_user_credentials`. -/
structure Account.Overridable (db : Db) (currentUserId : UserId) (q : UpdateUserCredentials)
    (acc : Account) : Prop where
  role : acc.user.role ≠ .systemAdmin
  room : acc.user.role = .student → db.HasRoom (some .student) studentMaxSharedContact none
    ((q.newEmail acc.user).map (·.text)) (some acc.user.id)
  user : ∃ user : User, user.draft = q.assign acc.user.draft ∧ user ≠ acc.user ∧
    db.checkUser (some acc.user) user = none
  caller : currentUserId ∈ Keyed.keys db.users

/-- The guards of `confirm_email_change`. -/
def Account.Confirmable (env : Env) (db : Db) (now : Time) (q : ConfirmEmailChange)
    (acc : Account) : Prop :=
  ∃ newEmail expiresAt, acc.session.pendingNewEmail = some newEmail ∧
    acc.session.emailChangeCodeHash = some (env.sha256 q.code) ∧
    acc.session.emailChangeCodeExpiresAt = some expiresAt ∧ now ≤ expiresAt ∧
    (acc.user.role = .student → db.HasRoom (some .student) studentMaxSharedContact none
      (some newEmail.text) (some acc.user.id)) ∧
    db.checkUser (some acc.user) (acc.withEmail newEmail.text).user = none

/-- What decides about a commit of loaded objects, when no new email is pending. -/
theorem Db.commit_overridden_ok_iff {db : Db} {now : Time} {loaded : Loaded} {current : Dirty}
    {emails : List NewPendingEmail} (hsession : ∀ s ∈ current.session, s.pendingNewEmail = none) :
    (∃ db', db.commit now (.update loaded current emails) = .ok db') ↔
      (∃ user : User, user.draft = current.user ∧ db.checkUser (some loaded.user) user = none) ∧
        ∀ e ∈ emails, db.danglingUser e.triggeredBy = false := by
  have hshort : (current.session.any fun s =>
      tooLong loaded.session s 100 fun s => s.pendingNewEmail.map (·.text)) = false := by
    cases hs : current.session with
    | none => rfl
    | some s => simp [tooLong, hsession s (by rw [hs]; rfl)]
  simp only [Db.commit, hshort]
  -- The flush first gives up on a draft with an empty column, then checks the constraints.
  cases hrow : current.user.toRow with
  | error e =>
    refine not_ok_error ?_
    rintro ⟨⟨user, hdraft, -⟩, -⟩
    rw [← hdraft, User.draft_toRow] at hrow
    cases hrow
  | ok user =>
    have hunique : ∀ user' : User, user'.draft = current.user → user' = user := by
      intro user' h
      rw [← h, User.draft_toRow] at hrow
      exact Except.ok.inj hrow
    have hdraft := UserDraft.draft_of_toRow hrow
    dsimp only
    cases hcheck : db.checkUser (some loaded.user) user with
    | some e =>
      refine not_ok_error ?_
      rintro ⟨⟨user', h, hfits⟩, -⟩
      rw [hunique user' h, hcheck] at hfits
      cases hfits
    | none =>
      simp only [Bool.false_eq_true, if_false]
      by_cases hdangling : (emails.any fun e => db.danglingUser e.triggeredBy) = true
      · rw [if_pos hdangling]
        refine not_ok_error fun h => ?_
        obtain ⟨e, he, hd⟩ := List.any_eq_true.mp hdangling
        rw [h.2 e he] at hd
        cases hd
      · rw [if_neg hdangling]
        refine iff_of_true ⟨_, rfl⟩ ⟨⟨user, hdraft, hcheck⟩, fun e he => ?_⟩
        by_contra hd
        exact hdangling (List.any_eq_true.mpr ⟨e, he, by simpa using hd⟩)

/-- The commit of `update_user_credentials` succeeds exactly if its guards hold. -/
theorem Account.commit_overridable_iff {acc : Account} {now : Time} {query : UserQuery}
    {currentUserId : UserId} {q : UpdateUserCredentials} {activation : Option UserActivation}
    {loginLockout : Option UserLoginLockout} {mail : NewPendingEmail}
    (hmail : mail.triggeredBy = some currentUserId) (hrole : acc.user.role ≠ .systemAdmin)
    (hroom : acc.user.role = .student → w.db.HasRoom (some .student) studentMaxSharedContact none
      ((q.newEmail acc.user).map (·.text)) (some acc.user.id))
    (hchanged : q.assign acc.user.draft ≠ acc.user.draft) :
    (∃ db', w.db.commit now (.update (acc.loaded w.db query)
      ⟨q.assign acc.user.draft, some acc.session.overridden, activation, loginLockout⟩
      [mail]) = .ok db') ↔ acc.Overridable w.db currentUserId q := by
  rw [Db.commit_overridden_ok_iff (by simp [UserSession.overridden])]
  have hcaller : w.db.danglingUser (some currentUserId) = false ↔
      currentUserId ∈ Keyed.keys w.db.users := by simp [Db.danglingUser]
  simp only [Account.loaded_user, List.mem_singleton, forall_eq, hmail, hcaller]
  constructor
  · rintro ⟨⟨user, hdraft, hcheck⟩, hknown⟩
    refine ⟨hrole, hroom, ⟨user, hdraft, ?_, hcheck⟩, hknown⟩
    rintro rfl
    exact hchanged hdraft.symm
  · rintro ⟨-, -, ⟨user, hdraft, -, hcheck⟩, hknown⟩
    exact ⟨⟨user, hdraft, hcheck⟩, hknown⟩

/-- `update_user_credentials` of an existing user succeeds exactly if its guards hold. -/
theorem updateUserCredentials_ok_iff {u : UserId} {acc : Account}
    (hacc : w.account u = some acc) {currentUserId : UserId} {q : UpdateUserCredentials} :
    (∃ response, w.respond env (.updateUserCredentials currentUserId u q) = .ok response) ↔
      acc.Overridable w.db currentUserId q := by
  obtain rfl := World.account_id hacc
  change Ends (exec env) ((fun _ => Response.none) <$>
      updateUserCredentials env currentUserId acc.user.id q)
    (fun out _ => (∃ response, out = .ok response) ↔ acc.Overridable w.db currentUserId q) w
  rw [ends_map]
  unfold updateUserCredentials
  rw [ends_getUserById]
  -- The guards in the order of the source: visible, room for the contact, something changed.
  by_cases hrole : acc.user.role = .systemAdmin
  · have hnone : w.db.selectUserById acc.user.id
        { excludedRoles := systemAdminInvisibleRoles, loadSession := true
          loadActivation := true } =
          none := by
      simp [Db.selectUserById, World.account_user hacc, Option.filter, UserQuery.admits, hrole,
        systemAdminInvisibleRoles]
    rw [hnone]
    exact not_ok_error fun h => h.role hrole
  · rw [World.selectUserById_of_account hacc (by
      simpa [UserQuery.admits, systemAdminInvisibleRoles] using hrole), ensureExists_some]
    simp only [Account.loaded_user, Account.loaded_session, Account.loaded_activation, if_true]
    refine ends_checkStudentContact (fun hroom => ?_) fun hfull _ _ =>
      not_ok_error fun h => hfull fun happlies =>
        h.room (of_decide_eq_true (Bool.and_eq_true_iff.mp happlies).1)
    have hroom : acc.user.role = .student →
        w.db.HasRoom (some .student) studentMaxSharedContact none
        ((q.newEmail acc.user).map (·.text)) (some acc.user.id) := by
      intro hstudent
      cases hemail : q.newEmail acc.user with
      | none => exact ⟨(by intro _ h; cases h), (by intro _ h; cases h)⟩
      | some newEmail =>
        rw [hemail] at hroom
        exact hroom (by simp [hstudent])
    refine ends_updateObject (fun hchanged => ?_) fun hsame _ _ => not_ok_error fun h => ?_
    -- A pending account is sent a new invite, any other is committed at once.
    · rw [deref_some]
      refine ends_ite (fun _ => ?_) fun _ => ?_
      · refine ends_reissueInvite rfl (ends_tryCommit_iff
          (Account.commit_overridable_iff rfl hrole hroom hchanged) (fun _ => rfl)
          (fun h _ _ => ?_) fun h _ => not_ok_error h)
        exact iff_of_true ⟨_, rfl⟩ h
      · refine ends_tryCommit_iff
          (Account.commit_overridable_iff rfl hrole hroom hchanged) (fun _ => rfl)
          (fun h _ _ => ?_) fun h _ => not_ok_error h
        exact iff_of_true ⟨_, rfl⟩ h
    · obtain ⟨user, hdraft, hne, -⟩ := h.user
      exact hne (User.draft_injective (hdraft.trans hsame))

/-- What decides about the commit of a confirmed email. -/
theorem Account.commit_confirmed_ok_iff {db : Db} {acc : Account} {now : Time} {email : String} :
    (∃ db', db.commit now (.update (acc.loaded db { loadSession := true })
      { (acc.loaded db { loadSession := true }).dirty with
        user := { acc.user.draft with email := some email }
        session := some acc.session.overridden } []) = .ok db') ↔
      db.checkUser (some acc.user) (acc.withEmail email).user = none := by
  rw [Db.commit_overridden_ok_iff (by simp [UserSession.overridden])]
  constructor
  · rintro ⟨⟨user, hdraft, hcheck⟩, -⟩
    obtain rfl : user = (acc.withEmail email).user := User.draft_injective hdraft
    exact hcheck
  · exact fun hcheck => ⟨⟨_, rfl, hcheck⟩, fun e he => absurd he List.not_mem_nil⟩

/-- `confirm_email_change` of an existing user succeeds exactly if its guards hold. -/
theorem confirmEmailChange_ok_iff (hs : w.Sound) {u : UserId} {acc : Account}
    (hacc : w.account u = some acc) {q : ConfirmEmailChange} :
    (∃ response, w.respond env (.confirmEmailChange u q) = .ok response) ↔
      acc.Confirmable env w.db w.clock q := by
  obtain rfl := World.account_id hacc
  change Ends (exec env) ((fun _ => Response.none) <$> confirmEmailChange env acc.user.id q)
    (fun out _ => (∃ response, out = .ok response) ↔ acc.Confirmable env w.db w.clock q) w
  rw [ends_map]
  unfold confirmEmailChange
  rw [ends_getUserById, World.selectUserById_of_account hacc (by simp [UserQuery.admits]),
    ensureExists_some]
  simp only [Account.loaded_user, Account.loaded_session, if_true, deref_some]
  cases hnew : acc.session.pendingNewEmail with
  | none =>
    refine not_ok_error ?_
    rintro ⟨_, _, h, -⟩
    cases hnew.symm.trans h
  | some newEmail =>
    cases hhash : acc.session.emailChangeCodeHash with
    | none =>
      refine not_ok_error ?_
      rintro ⟨_, _, _, h, -⟩
      cases hhash.symm.trans h
    | some hash =>
      dsimp only
      rw [ends_datetimeNow]
      cases hexpires : acc.session.emailChangeCodeExpiresAt with
      | none =>
        refine not_ok_error ?_
        rintro ⟨_, _, _, _, h, -⟩
        cases hexpires.symm.trans h
      | some expiresAt =>
        -- A change is pending: what is left of the condition are the guards in their order.
        have hiff : acc.Confirmable env w.db w.clock q ↔ env.sha256 q.code = hash ∧
            w.clock ≤ expiresAt ∧ (acc.user.role = .student → w.db.HasRoom (some .student)
              studentMaxSharedContact none (some newEmail.text) (some acc.user.id)) ∧
            w.db.checkUser (some acc.user) (acc.withEmail newEmail.text).user = none := by
          simp only [Account.Confirmable, hnew, hhash, hexpires, Option.some.injEq]
          constructor
          · rintro ⟨_, _, rfl, rfl, rfl, h⟩
            exact ⟨rfl, h⟩
          · rintro ⟨rfl, h⟩
            exact ⟨_, _, rfl, rfl, rfl, h⟩
        rw [hiff]
        dsimp only
        refine ends_ite (fun hlate => not_ok_error fun h => not_le.mpr hlate h.2.1) fun hnow => ?_
        -- What is not ASCII is not the digest of the code.
        have hdigest : env.sha256 q.code = hash → isAscii hash = true :=
          fun h => h ▸ env.sha256_isAscii q.code
        refine ends_verifyDigest (fun _ => ?_) fun hascii =>
          not_ok_error fun h => hascii (hdigest h.1)
        refine ends_ite (fun hbad => not_ok_error fun h => by simp [h.1] at hbad) fun hvalid => ?_
        refine ends_checkStudentContact (fun hroom => ?_) fun hfull _ _ =>
          not_ok_error fun h => hfull fun happlies => h.2.2.1 (of_decide_eq_true happlies)
        refine ends_tryCommit_iff Account.commit_confirmed_ok_iff (fun _ => rfl)
          (fun hcheck db' hcommit => ?_) fun hcheck x => not_ok_error fun h => hcheck h.2.2.2
        -- The session that is refreshed after the commit is there, so nothing fails any more.
        obtain ⟨user, -, -, hmoved⟩ := hs.toCoherent.commit_update hacc
          ⟨rfl, rfl, by simp [UserSession.overridden, UserSession.revoked], by simp, by simp⟩
          hcommit
        refine (ends_refresh hmoved (by rfl) _).mpr ?_
        exact iff_of_true ⟨_, rfl⟩ ⟨by simpa using hvalid, not_lt.mp hnow,
          fun hstudent => hroom (decide_eq_true hstudent), hcheck⟩

/-! ### Changes of the email -/

/-- A token of the account is outstanding. -/
def Account.Outstanding (now : Time) (kind : SecretKind) (acc : Account) : Prop :=
  ∃ expiresAt, (acc.secret kind).expiresAt = some expiresAt ∧ now ≤ expiresAt

/-- The assigned email is the new one, if one was sent that differs. -/
theorem UpdateUserCredentials.email_of_assign {q : UpdateUserCredentials} {u v : User}
    (h : v.draft = q.assign u.draft) :
    v.email = ((q.newEmail u).map (·.text)).getD u.email := by
  have hemail : some v.email = (q.email.map (·.text)).assign (some u.email) :=
    congrArg UserColumns.email h
  unfold UpdateUserCredentials.newEmail
  cases hsent : q.email with
  | unset =>
    rw [hsent] at hemail
    exact Option.some.inj hemail
  | null =>
    rw [hsent] at hemail
    cases hemail
  | set address =>
    rw [hsent] at hemail
    have htext : v.email = address.text := Option.some.inj hemail
    by_cases hne : address.text = u.email
    · simp [Patch.value?, Option.filter, hne, htext]
    · simp [Patch.value?, Option.filter, hne, htext]

/-- An email that was assigned and differs was sent. -/
theorem UpdateUserCredentials.newEmail_of_assign {q : UpdateUserCredentials} {u v : User}
    (h : v.draft = q.assign u.draft) (hne : v.email ≠ u.email) :
    (q.newEmail u).isSome = true := by
  have hemail := UpdateUserCredentials.email_of_assign h
  cases hnew : q.newEmail u with
  | none =>
    rw [hnew] at hemail
    exact absurd hemail hne
  | some address => rfl

/-- What changes the email of an account. -/
theorem Account.Step.email {now : Time} {draws draws' : ℕ} {r : Request} {out : Outcome}
    {acc acc' : Account} (h : acc.Step env now draws r out acc' draws') :
    acc'.user.email = acc.user.email ∨
      (∃ currentUserId q, r = .updateUserCredentials currentUserId acc.user.id q ∧
        (∃ response, out = .ok response) ∧ (q.newEmail acc.user).isSome = true) ∨
      ∃ q newEmail, r = .confirmEmailChange acc.user.id q ∧ (∃ response, out = .ok response) ∧
        acc.session.pendingNewEmail = some newEmail ∧ acc'.user.email = newEmail.text := by
  cases h with
  | updateUser _ _ _ _ _ huser => exact Or.inl (Account.assign_eq huser).2.2.1
  | updateUserCredentials _ currentUserId q user _ huser
  | updatePendingCredentials _ currentUserId q user _ huser =>
    by_cases hsame : user.email = acc.user.email
    · exact Or.inl hsame
    · exact Or.inr (Or.inl ⟨currentUserId, q, rfl, ⟨_, rfl⟩,
        UpdateUserCredentials.newEmail_of_assign huser hsame⟩)
  | confirmEmailChange _ q newEmail _ hnew =>
    exact Or.inr (Or.inr ⟨q, newEmail, rfl, ⟨_, rfl⟩, hnew, rfl⟩)
  | _ => exact Or.inl rfl

/-- The event changes the email of a user who keeps a token.  Only the invite of a pending
account is renewed. -/
def Event.Strands (env : Env) (w : World) (e : Event) : Prop :=
  ∃ u acc kind, w.account u = some acc ∧ kind ≠ .emailChange ∧ acc.Outstanding w.clock kind ∧
    ((∃ currentUserId q, e = .request (.updateUserCredentials currentUserId u q) ∧
        acc.Overridable w.db currentUserId q ∧ (q.newEmail acc.user).isSome = true ∧
        ¬ (kind = .invite ∧ acc.user.status = .pendingActivation)) ∨
      ∃ q newEmail, e = .request (.confirmEmailChange u q) ∧
        acc.Confirmable env w.db w.clock q ∧ acc.session.pendingNewEmail = some newEmail ∧
        newEmail.text ≠ acc.user.email)

/-! ### Tokens and mails -/

/-- Every token that is outstanding was mailed to the current email. -/
def World.TokensMailed (env : Env) (w : World) : Prop :=
  ∀ u acc kind secret, w.account u = some acc → kind ≠ .emailChange →
    (acc.secret kind).hash = some (env.sha256 secret) → acc.Outstanding w.clock kind →
    { kind, secret, address := acc.user.email } ∈ w.letters

/-- Every token that `activate_account` or `reset_password` would still accept for a user was
mailed to the current email of the user. -/
def World.TokensCurrent (env : Env) (w : World) : Prop :=
  ∀ u acc kind secret (e : Event), w.account u = some acc → kind ≠ .emailChange →
    e.Redeems env w u kind secret → { kind, secret, address := acc.user.email } ∈ w.letters

theorem World.TokensMailed.current (hs : w.Sound) (h : w.TokensMailed env) :
    w.TokensCurrent env := by
  intro u acc kind secret e hacc hkind hredeems
  obtain ⟨r, response, acc₀, acc', rfl, hr, -, hacc₀, -, hstep⟩ := hredeems.step hs
  obtain rfl : acc₀ = acc := Option.some.inj (hacc₀.symm.trans hacc)
  obtain ⟨expiresAt, hhash, hexpires, hnow, -⟩ := hstep.redeems hr
  exact h u acc₀ kind secret hacc hkind hhash ⟨expiresAt, hexpires, hnow⟩

/-- A step that strands no token of its account. -/
theorem World.TokensMailed.step (hl : env.Ideal) (hs : w.Sound) (h : w.TokensMailed env)
    {u : UserId} {r : Request} {acc acc' : Account} (hacc : w.account u = some acc)
    (hstep : acc.Step env w.clock w.draws r (w.respond env r) acc'
      (w.after env (.request r)).draws) (hstrands : ¬ (Event.request r).Strands env w)
    {kind : SecretKind} {secret : String} (hkind : kind ≠ .emailChange)
    (hhash : (acc'.secret kind).hash = some (env.sha256 secret))
    (hout : acc'.Outstanding w.clock kind) :
    { kind, secret, address := acc'.user.email } ∈ w.letters ∨
      { kind, secret, address := acc'.user.email } ∈ r.letters env w.draws acc acc' := by
  rcases hstep.secret kind with ⟨-, secret', address, expiresAt, hissues⟩ |
    ⟨-, -, -, hempty⟩ | ⟨hsilent, -, hsame⟩
  -- The step has mailed this very token, to the email it leaves.
  · right
    rw [hissues.columns] at hhash
    obtain rfl : secret' = secret := hl.sha256 (Option.some.inj hhash)
    rw [hissues.letters, (hissues.token hkind).2]
    exact List.mem_singleton_self _
  · rw [hempty] at hhash
    cases hhash
  -- The columns stay, so an event that changed the email would strand the token.
  · left
    obtain rfl := World.account_id hacc
    have hout : acc.Outstanding w.clock kind := by
      rw [Account.Outstanding, ← hsame]
      exact hout
    have hmailed := h _ acc kind secret hacc hkind (hsame ▸ hhash) hout
    rcases hstep.email with hemail | ⟨currentUserId, q, rfl, hok, hnewEmail⟩ |
      ⟨q, newEmail, rfl, hok, hpending, hemail⟩
    · rwa [hemail]
    · refine absurd ⟨_, acc, kind, hacc, hkind, hout, Or.inl ⟨currentUserId, q, rfl,
        (updateUserCredentials_ok_iff hacc).mp hok, hnewEmail, ?_⟩⟩ hstrands
      -- the invite of a pending account is renewed, so the one there was does not stay
      rintro ⟨rfl, hstatus⟩
      have hrenewed : (⟨.invite, env.tokenUrlsafe w.draws, acc'.user.email⟩ : Letter) ∈
          (Request.updateUserCredentials currentUserId acc.user.id q).letters env w.draws acc
            acc' := by
        rw [Request.letters_reissue hnewEmail hstatus]
        exact List.mem_singleton_self _
      exact hsilent _ hrenewed rfl
    · by_cases hsame : newEmail.text = acc.user.email
      · rwa [hemail, hsame]
      · exact absurd ⟨_, acc, kind, hacc, hkind, hout, Or.inr ⟨q, newEmail, rfl,
          (confirmEmailChange_ok_iff hs hacc).mp hok, hpending, hsame⟩⟩ hstrands

/-- **Every event that strands no token keeps the tokens at their addresses.** -/
theorem World.TokensMailed.after (hl : env.Ideal) (hs : w.Sound) (h : w.TokensMailed env)
    {e : Event} (hstrands : ¬ e.Strands env w) : (w.after env e).TokensMailed env := by
  intro u acc' kind secret hacc' hkind hhash hout
  cases e with
  | outside o =>
    have hletters : (outside o w).letters = w.letters := by cases o <;> rfl
    have hclock := hs.clock_le_after env (.outside o)
    obtain ⟨acc, hacc, hcases⟩ := hs.toCoherent.account_of_outside hacc'
    -- Neither the clock nor the cache is in the columns of an account.
    have hsame : acc'.secret kind = acc.secret kind ∧ acc'.user = acc.user := by
      rcases hcases with rfl | rfl
      · exact ⟨rfl, rfl⟩
      · exact ⟨by cases kind <;> rfl, rfl⟩
    obtain ⟨expiresAt, hexpires, hnow⟩ := hout
    rw [hsame.1] at hhash hexpires
    change _ ∈ (outside o w).letters
    rw [hletters, hsame.2]
    exact h u acc kind secret hacc hkind hhash ⟨expiresAt, hexpires, hclock.trans hnow⟩
  | request r =>
    have hserves := hs.serves env r
    have hout : acc'.Outstanding w.clock kind := hserves.clock ▸ hout
    cases hserves.served with
    | quiet haccounts _ _ _ hleaves =>
      refine hleaves.mem_letters.mpr (Or.inl ?_)
      exact h u acc' kind secret ((haccounts u).symm.trans hacc') hkind hhash hout
    | moved id acc acc₁ htarget hacc hstep hmoved hleaves =>
      rw [hleaves.mem_letters]
      by_cases hu : u = id
      · subst hu
        obtain rfl : acc₁ = acc' := Option.some.inj (hmoved.account.symm.trans hacc')
        exact h.step hl hs hacc hstep hstrands hkind hhash hout
      · exact Or.inl (h u acc' kind secret ((hmoved.others u hu).symm.trans hacc') hkind hhash hout)
    | registered by_ q user hr hout' huser hnone hmoved hdraws hleaves =>
      rw [hleaves.mem_letters]
      by_cases hu : u = user.id
      · subst hu
        obtain rfl := Option.some.inj (hmoved.account.symm.trans hacc')
        right
        -- A registration mails its only token to the address it stores.
        cases kind with
        | invite =>
          obtain rfl : env.tokenUrlsafe w.draws = secret := hl.sha256 (Option.some.inj hhash)
          exact List.mem_singleton_self _
        | resetPassword | emailChange => cases hhash
      · exact Or.inl (h u acc' kind secret ((hmoved.others u hu).symm.trans hacc') hkind hhash hout)

/-- At the start no token is outstanding. -/
theorem World.Seeded.tokensMailed (h₀ : w.Seeded) (env : Env) : w.TokensMailed env := by
  intro u acc kind secret hacc hkind hhash
  cases kind with
  | invite => simp [Account.secret, h₀.activation hacc] at hhash
  | resetPassword => simp [Account.secret, h₀.session hacc] at hhash
  | emailChange => exact absurd rfl hkind

/-- **In a run that strands no token, every token is current**: in every state on the way, an
invite or reset token that would still be accepted was mailed to the address that is now the
user's email. -/
theorem tokensCurrent_run (env : Env) (hl : env.Ideal) (w₀ : World) (h₀ : w₀.Seeded)
    (events : List Event)
    (h : Run.Throughout (World.after env) (fun w e => ¬ e.Strands env w) w₀ events)
    (before after : List Event) (hevents : events = before ++ after) :
    (w₀.run env before).TokensCurrent env := by
  subst hevents
  have hinvariant := Run.invariant (I := fun w : World => w.Sound ∧ w.TokensMailed env)
    (fun w e hI hstrands => ⟨hI.1.after env e, hI.2.after hl hI.1 hstrands⟩)
    ⟨h₀.sound, h₀.tokensMailed env⟩ ((Run.throughout_append _ _ _).mp h).1
  exact hinvariant.2.current hinvariant.1

/-- The administrator has a reset token mailed to Ada. -/
def resetAda : Event := .request (.createResetPasswordRequest 1 2)

/-- The administrator gives her another email. -/
def moveAda : Event :=
  .request (.updateUserCredentials 1 2
    { username := .unset, email := .set ⟨"lovelace@school.org", emailPattern_lovelace⟩ })

/-- With her old email, she resets her password in time. -/
theorem tokensCurrent_run_concrete :
    { kind := .resetPassword, secret := "1;", address := "ada@school.org" } ∈
      (World.concrete.run .concrete [resetAda]).letters := by
  have hkept : ¬ resetAda.Strands .concrete World.concrete := by
    rintro ⟨_, _, _, -, -, -, ⟨_, _, h, -⟩ | ⟨_, _, h, -⟩⟩
    · cases h
    · cases h
  have h := tokensCurrent_run .concrete Env.concrete_ideal World.concrete World.concrete_seeded
    [resetAda] ⟨hkept, trivial⟩ [resetAda] [] rfl
  exact h 2 _ .resetPassword "1;" (.request (.resetPassword
    { username := "lovelace", resetToken := "1;", newPassword := "Pa55word!" })) rfl (by decide)
      ⟨_, .none, _, rfl, rfl, by decide +kernel, rfl, by decide +kernel⟩

/-- **A reset token survives the email it was mailed to**: whoever reads the old mailbox can
still reset the password. -/
theorem resetToken_survives :
    ¬ (World.concrete.run .concrete [resetAda, moveAda]).TokensCurrent .concrete := by
  intro h
  have hmailed := h 2 _ .resetPassword "1;" (.request (.resetPassword
    { username := "lovelace", resetToken := "1;", newPassword := "Pa55word!" })) rfl (by decide)
      ⟨_, .none, _, rfl, rfl, by decide +kernel, rfl, by decide +kernel⟩
  revert hmailed
  decide +kernel

end SmsLite
