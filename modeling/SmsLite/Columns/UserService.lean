import SmsLite.Columns.Users
import SmsLite.Contacts

/-!
# The user services and the columns of the users

`register_user`, `update_user`, `update_user_credentials` and `update_me_credentials` trust their
schemas to let through what the columns take.  This module says, for each of them, when that is
right.

## Main definitions

* `CreateUserRequest.Fits`, `UpdateUserRequest.Fits`, `UpdateUserCredentials.Fits` — what the
  schemas should have made sure of.
* `UpdateUserRequest.Flushes`, `UpdateUserCredentials.Overrides`, ... — the request gets as far
  as its flush.

## Main results

* `CreateUserRequest.Body.validate_ok`, `UpdateUserRequest.Body.validate_ok`, ... — what the
  schemas do make sure of.
* `registerUser_answers_iff`, `updateUser_answers_iff`, `updateUserCredentials_answers_iff`,
  `updateMeCredentials_answers_iff` — **when an operation runs without a refused statement**.
-/

namespace SmsLite

open Interleave
open Interleave.Prog (Passes passes_bind)

/-! ### What the schemas make sure of -/

theorem CreateUserBase.Body.validate_ok {V : Validation} {b : CreateUserBase.Body}
    {base : CreateUserBase} (h : b.validate V = .ok base) :
    FitsText 20 base.username ∧ FitsText 25 base.phoneNumber.text := by
  simp only [validate, Validated.seq_eq_ok, Validated.map_eq_ok, Validated.field_eq_ok] at h
  obtain ⟨_, email, ⟨_, phoneNumber, ⟨_, middlename, ⟨_, lastname, ⟨_, firstname,
    ⟨username, husername, rfl⟩, -, rfl⟩, -, rfl⟩, -, rfl⟩, hphone, rfl⟩, -, rfl⟩ := h
  exact ⟨validateUsername_fits husername, parseAndValidateMobileNumber_fits hphone⟩

theorem CreateUserRequest.Body.validate_ok {V : Validation} {b : CreateUserRequest.Body}
    {r : CreateUserRequest} (h : b.validate V = .ok r) :
    FitsText 20 r.base.username ∧ FitsText 25 r.base.phoneNumber.text ∧
      ∀ text, r.address? = some text → text.length ≤ 100 := by
  cases b with
  | teacher base =>
    simp only [validate, Validated.map_eq_ok] at h
    obtain ⟨payload, hpayload, rfl⟩ := h
    obtain ⟨husername, hphone⟩ := CreateUserBase.Body.validate_ok hpayload
    exact ⟨husername, hphone, by intro _ h; cases h⟩
  | student base dateOfBirth address =>
    simp only [validate, Validated.seq_eq_ok, Validated.map_eq_ok, Validated.field_eq_ok] at h
    obtain ⟨_, address', ⟨_, dateOfBirth', ⟨payload, hpayload, rfl⟩, -, rfl⟩, haddress, rfl⟩ := h
    obtain ⟨husername, hphone⟩ := CreateUserBase.Body.validate_ok hpayload
    refine ⟨husername, hphone, fun text htext => ?_⟩
    obtain rfl : address' = some text := htext
    obtain ⟨sent, hsent⟩ := checkOption_ok haddress
    obtain ⟨rfl, -, hlength⟩ := lengthBetween_ok hsent
    exact hlength

/-- The address of the update, of a student. -/
def UpdateUserRequest.address : UpdateUserRequest → Patch String
  | teacher _ => .unset
  | student _ _ address => address

theorem UpdateUserBase.Body.validate_ok {V : Validation} {b : UpdateUserBase.Body}
    {base : UpdateUserBase} (h : b.validate V = .ok base) (number : PhoneNumber)
    (hnumber : base.phoneNumber = .set number) : FitsText 25 number.text := by
  simp only [validate, Validated.seq_eq_ok, Validated.map_eq_ok, Validated.field_eq_ok] at h
  obtain ⟨_, phoneNumber, ⟨_, middlename, ⟨_, lastname, ⟨firstname, -, rfl⟩, -, rfl⟩, -, rfl⟩,
    hphone, rfl⟩ := h
  obtain rfl : phoneNumber = .set number := hnumber
  obtain ⟨sent, hsent⟩ := Patch.check_ok hphone
  exact parseAndValidateMobileNumber_fits hsent

theorem UpdateUserRequest.Body.validate_ok {V : Validation} {b : UpdateUserRequest.Body}
    {r : UpdateUserRequest} (h : b.validate V = .ok r) :
    (∀ number, r.base.phoneNumber = .set number → FitsText 25 number.text) ∧
      ∀ text, r.address = .set text → text.length ≤ 100 := by
  cases b with
  | teacher base =>
    simp only [validate, Validated.map_eq_ok] at h
    obtain ⟨payload, hpayload, rfl⟩ := h
    exact ⟨UpdateUserBase.Body.validate_ok hpayload, by intro _ h; cases h⟩
  | student base dateOfBirth address =>
    simp only [validate, Validated.seq_eq_ok, Validated.map_eq_ok, Validated.field_eq_ok] at h
    obtain ⟨_, address', ⟨_, dateOfBirth', ⟨payload, hpayload, rfl⟩, -, rfl⟩, haddress, rfl⟩ := h
    refine ⟨UpdateUserBase.Body.validate_ok hpayload, fun text htext => ?_⟩
    obtain rfl : address' = .set text := htext
    obtain ⟨sent, hsent⟩ := Patch.check_ok haddress
    obtain ⟨rfl, -, hlength⟩ := lengthBetween_ok hsent
    exact hlength

theorem UpdateUserCredentials.Body.validate_ok {b : UpdateUserCredentials.Body}
    {r : UpdateUserCredentials} (h : b.validate = .ok r) (username : String)
    (husername : r.username = .set username) : FitsText 20 username := by
  simp only [validate, Validated.seq_eq_ok, Validated.map_eq_ok, Validated.field_eq_ok] at h
  obtain ⟨_, email, ⟨username', hsent, rfl⟩, -, rfl⟩ := h
  obtain rfl : username' = .set username := husername
  obtain ⟨sent, hsent⟩ := Patch.check_ok hsent
  exact validateUsername_fits hsent

/-! ### What they should have made sure of -/

/-- The texts of a new user fit.  The validators may make a name longer than what they accepted,
and take a NUL in an address and any length of an email address. -/
structure CreateUserRequest.Fits (r : CreateUserRequest) : Prop where
  firstname : FitsText 50 r.base.firstname
  lastname : FitsText 50 r.base.lastname
  middlename : Nullable (FitsText 50) r.base.middlename
  email : r.base.email.text.length ≤ 50
  address : Nullable (fun text => nul ∉ text.toList) r.address?

/-- No `NOT NULL` column is set to null, and the texts fit. -/
structure UpdateUserRequest.Fits (r : UpdateUserRequest) : Prop where
  firstname : r.base.firstname.NotNull (FitsText 50)
  lastname : r.base.lastname.NotNull (FitsText 50)
  middlename : r.base.middlename.Nullable (FitsText 50)
  phoneNumber : r.base.phoneNumber ≠ .null
  address : r.address.Nullable fun text => nul ∉ text.toList

/-- Neither credential is set to null, and the email address fits. -/
structure UpdateUserCredentials.Fits (r : UpdateUserCredentials) : Prop where
  username : r.username ≠ .null
  email : r.email.NotNull fun address => address.text.length ≤ 50

/-- The row of a new user. -/
theorem CreateUserRequest.newUser_fits {V : Validation} {b : CreateUserRequest.Body}
    {r : CreateUserRequest} (hbody : b.validate V = .ok r) {currentUserId id : UserId}
    (hcaller : FitsId currentUserId) :
    (User.draft (r.newUser currentUserId id)).Fits ↔ FitsId id ∧ r.Fits := by
  obtain ⟨husername, hphone, haddress⟩ := CreateUserRequest.Body.validate_ok hbody
  constructor
  · intro h
    exact ⟨h.id, notNull_some.mp h.firstname, notNull_some.mp h.lastname, h.middlename,
      (notNull_some.mp h.email).length_le, fun text htext => (h.address text htext).nul_notMem⟩
  · rintro ⟨hid, h⟩
    exact
      { id := hid
        username := notNull_some.mpr husername
        firstname := notNull_some.mpr h.firstname
        lastname := notNull_some.mpr h.lastname
        middlename := h.middlename
        address := fun text htext => ⟨haddress text htext, h.address text htext⟩
        phoneNumber := notNull_some.mpr hphone
        email := notNull_some.mpr ⟨h.email, r.base.email.nul_notMem⟩
        createdBy := nullable_some.mpr hcaller
        groupId := nullable_none }

/-- The row of an updated user. -/
theorem UpdateUserRequest.assign_fits {V : Validation} {b : UpdateUserRequest.Body}
    {r : UpdateUserRequest} (hbody : b.validate V = .ok r) {u : UserDraft} (hu : u.Fits) :
    (r.assign u).Fits ↔ r.Fits := by
  obtain ⟨hphone, haddress⟩ := UpdateUserRequest.Body.validate_ok hbody
  have hnumber : NotNull (FitsText 25) ((r.base.phoneNumber.map (·.text)).assign u.phoneNumber) ↔
      r.base.phoneNumber ≠ .null := by
    rw [notNull_assign _ hu.phoneNumber, Patch.notNull_map, Patch.notNull_iff hphone]
  have haddress' : Nullable (FitsText 100) (r.address.assign u.address) ↔
      r.address.Nullable fun text => nul ∉ text.toList := by
    rw [nullable_assign _ hu.address]
    cases hsent : r.address with
    | set text => exact FitsText.of_le (haddress text hsent)
    | unset | null => exact Iff.rfl
  have hcolumns : (r.assign u).Fits ↔
      NotNull (FitsText 50) (r.base.firstname.assign u.firstname) ∧
        NotNull (FitsText 50) (r.base.lastname.assign u.lastname) ∧
        Nullable (FitsText 50) (r.base.middlename.assign u.middlename) ∧
        NotNull (FitsText 25) ((r.base.phoneNumber.map (·.text)).assign u.phoneNumber) ∧
        Nullable (FitsText 100) (r.address.assign u.address) := by
    cases r with
    | teacher base =>
      exact ⟨fun h => ⟨h.firstname, h.lastname, h.middlename, h.phoneNumber, h.address⟩,
        fun ⟨h₁, h₂, h₃, h₄, h₅⟩ => ⟨hu.id, hu.username, h₁, h₂, h₃, h₅, h₄, hu.email,
          hu.createdBy, hu.groupId⟩⟩
    | student base dateOfBirth address =>
      exact ⟨fun h => ⟨h.firstname, h.lastname, h.middlename, h.phoneNumber, h.address⟩,
        fun ⟨h₁, h₂, h₃, h₄, h₅⟩ => ⟨hu.id, hu.username, h₁, h₂, h₃, h₅, h₄, hu.email,
          hu.createdBy, hu.groupId⟩⟩
  rw [hcolumns, notNull_assign _ hu.firstname, notNull_assign _ hu.lastname,
    nullable_assign _ hu.middlename, hnumber, haddress']
  exact ⟨fun ⟨h₁, h₂, h₃, h₄, h₅⟩ => ⟨h₁, h₂, h₃, h₄, h₅⟩,
    fun ⟨h₁, h₂, h₃, h₄, h₅⟩ => ⟨h₁, h₂, h₃, h₄, h₅⟩⟩

/-- The row of a user with new credentials. -/
theorem UpdateUserCredentials.assign_fits {b : UpdateUserCredentials.Body}
    {r : UpdateUserCredentials} (hbody : b.validate = .ok r) {u : UserDraft} (hu : u.Fits) :
    (r.assign u).Fits ↔ r.Fits := by
  have husername : NotNull (FitsText 20) (r.username.assign u.username) ↔ r.username ≠ .null := by
    rw [notNull_assign _ hu.username,
      Patch.notNull_iff (UpdateUserCredentials.Body.validate_ok hbody)]
  have hemail : NotNull (FitsText 50) ((r.email.map (·.text)).assign u.email) ↔
      r.email.NotNull fun address => address.text.length ≤ 50 := by
    rw [notNull_assign _ hu.email, Patch.notNull_map]
    cases r.email with
    | set address => exact ⟨FitsText.length_le, fun h => ⟨h, address.nul_notMem⟩⟩
    | unset | null => exact Iff.rfl
  constructor
  · intro h
    exact ⟨husername.mp h.username, hemail.mp h.email⟩
  · rintro ⟨h₁, h₂⟩
    exact { hu with username := husername.mpr h₁, email := hemail.mpr h₂ }

/-! ### Rows and runs -/

/-- What a query by id finds. -/
theorem Db.selectUserById_eq_some {db : Db} {id : UserId} {q : UserQuery} {target : Loaded}
    (h : db.selectUserById id q = some target) :
    target.user ∈ db.users ∧ target.user.id = id ∧
      ∀ s, target.session = some s → s ∈ db.sessions := by
  obtain ⟨u, hu, rfl⟩ := Option.map_eq_some_iff.mp h
  obtain ⟨hget, -⟩ := Option.filter_eq_some_iff.mp hu
  refine ⟨Keyed.mem_of_get? hget, Keyed.key_of_get? hget, fun s hs => ?_⟩
  dsimp only [Db.load] at hs
  split at hs
  · exact Keyed.mem_of_get? hs
  · cases hs

/-- The id of a stored user fits. -/
theorem Db.Constrained.fitsId {db : Db} (hw : db.Constrained) {id : UserId}
    (h : id ∈ Keyed.keys db.users) : FitsId id := by
  obtain ⟨u, hu, rfl⟩ := List.mem_map.mp h
  exact (hw.users u hu).id

theorem Db.fitsEmails_nil (db : Db) : db.FitsEmails [] :=
  ⟨fun _ hi => absurd hi (Nat.not_lt_zero _), by intro _ h; cases h⟩

/-- The mails of a commit are about the ids the table gives next. -/
theorem Db.fitsEmails_singleton {db : Db} {e : NewPendingEmail} (he : e.Fits) :
    db.FitsEmails [e] ↔ FitsId db.pendingEmailsIdSeq := by
  constructor
  · intro h
    exact h.ids 0 Nat.one_pos
  · intro h
    refine ⟨fun i hi => ?_, fun e' he' => ?_⟩
    · obtain rfl : i = 0 := by
        rw [List.length_singleton] at hi
        omega
      exact h
    · rw [List.mem_singleton.mp he']
      exact he

/-- A run that raises an `AppException` has answered. -/
theorem answered_app {α : Type} (cls : AppException) (detail : String) :
    Answered (.error (.app cls detail) : Except Exn α) := by
  intro e he
  cases he
  trivial

theorem answered_ok {α : Type} (a : α) : Answered (.ok a : Except Exn α) := by
  rintro _ ⟨⟩

/-! ### Registration -/

/-- What `register_user` takes for granted at its flush. -/
@[mk_iff]
structure CreateUserRequest.Insertable (r : CreateUserRequest) (db : Db)
    (currentUserId : UserId) : Prop where
  fresh : db.usersIdSeq ∉ Keyed.keys db.users
  id : FitsId db.usersIdSeq
  fits : r.Fits
  outbox : db.checkUser none (r.newUser currentUserId db.usersIdSeq) = none →
    FitsId db.pendingEmailsIdSeq

/-- **When `register_user` runs without a refused statement.** -/
theorem registerUser_answers_iff {env : Env} {w : World} (hw : w.db.Constrained)
    {currentUserId : UserId} (hcaller : currentUserId ∈ Keyed.keys w.db.users) {V : Validation}
    {b : CreateUserRequest.Body} {r : CreateUserRequest} (hbody : b.validate V = .ok r) :
    (registerUser env currentUserId r).Answers env w ↔
      (w.db.HasRoom r.contactLimitRole r.maxAllowed (some r.base.phoneNumber.text)
        (some r.base.email.text) none → r.Insertable w.db currentUserId) := by
  have hcallerId := hw.fitsId hcaller
  have hphone : ∀ t, some r.base.phoneNumber.text = some t → nul ∉ t.toList :=
    fun _ ht => Option.some.inj ht ▸ r.base.phoneNumber.nul_notMem
  have hemail : ∀ t, some r.base.email.text = some t → nul ∉ t.toList :=
    fun _ ht => Option.some.inj ht ▸ r.base.email.nul_notMem
  unfold Service.Answers registerUser
  dsimp only
  rw [passes_onlyIf_skip passes_acquireStudentContactLock,
    passes_checkContactLimit hphone hemail nullable_none answered_app]
  refine imp_congr_right fun _ => ?_
  rw [passes_tokenUrlsafe, passes_datetimeNow, passes_tryFlushUser]
  refine Iff.trans (b := (Stmt.flushUser (r.newUser currentUserId 0)).Fits w ∧
    (w.db.checkUser none (r.newUser currentUserId w.db.usersIdSeq) = none →
      FitsId w.db.pendingEmailsIdSeq)) (and_congr_right fun hflush => ?_) ?_
  · obtain ⟨hfresh, hrow⟩ := hflush
    obtain ⟨hid, hfits⟩ := (CreateUserRequest.newUser_fits hbody hcallerId).mp hrow
    refine (and_iff_right fun e he => ?_).trans (imp_congr_right fun hcheck => ?_)
    · refine passes_exceptIntegrityError (Db.checkUser_mapped hrow he (fun _ => rfl) ?_)
        answered_app
      intro hrole _
      exact (Bool.not_eq_true' _).mpr (decide_eq_false hrole)
    · refine (passes_commit_iff (fun _ db' hcommit => ?_) fun _ e he => ?_).trans ?_
      · obtain ⟨-, husers, -⟩ := Db.commit_register hcommit
        refine passes_refresh' hid ?_ fun _ => answered_ok _
        show w.db.usersIdSeq ∈ Keyed.keys db'.users
        rw [husers, Keyed.keys_concat]
        exact List.mem_append_right _ (List.mem_singleton_self _)
      · have hcaller' : ({ w.db with usersIdSeq := w.db.usersIdSeq + 1 } : Db).danglingUser
            (some currentUserId) = false := by
          simp [Db.danglingUser, hcaller]
        exact absurd ⟨hfresh, hcheck, hcaller', hcaller'⟩ (Db.not_commit_register he)
      · have hsession : UserSession.Fits { userId := w.db.usersIdSeq } :=
          ⟨hid, (⟨by decide, by decide⟩ : FitsId 1), (by intro _ h; cases h), nullable_none⟩
        have hmail : (inviteMail (env.tokenUrlsafe w.draws) r.base.username r.base.email.text
            currentUserId w.db.usersIdSeq).Fits :=
          ⟨⟨hfits.email.trans (by decide), r.base.email.nul_notMem⟩,
            nullable_some.mpr hcallerId, nullable_some.mpr hid⟩
        exact (and_iff_right hsession).trans (Db.fitsEmails_singleton hmail)
  · rw [CreateUserRequest.insertable_iff]
    refine (and_congr_left fun _ => and_congr_right fun _ =>
      CreateUserRequest.newUser_fits hbody hcallerId).trans ?_
    exact and_assoc.trans (and_congr_right fun _ => and_assoc)

/-! ### Updates -/

section Updates

variable {env : Env} {w : World}

/-- `update_user` gets as far as its flush. -/
@[mk_iff]
structure UpdateUserRequest.Flushes (r : UpdateUserRequest) (db : Db) (id : UserId)
    (target : Loaded) : Prop where
  found : db.selectUserById id { excludedRoles := systemAdminInvisibleRoles } = some target
  kind : decide (target.user.role = .student) = r.isStudentShaped
  room :
    (decide (target.user.role = .student) && (r.newPhoneNumber target.user).isSome) = true →
      db.HasRoom (some .student) studentMaxSharedContact
        ((r.newPhoneNumber target.user).map (·.text)) none (some id)
  changed : r.assign (User.draft target.user) ≠ User.draft target.user

theorem UpdateUserRequest.assign_username (r : UpdateUserRequest) (u : UserDraft) :
    (r.assign u).username = u.username := by
  cases r <;> rfl

theorem UpdateUserRequest.assign_role (r : UpdateUserRequest) (u : UserDraft) :
    (r.assign u).role = u.role := by
  cases r <;> rfl

/-- A text that is not there has no NUL. -/
theorem nul_notMem_none : ∀ t, (none : Option String) = some t → nul ∉ t.toList := by
  rintro _ ⟨⟩

/-- **When `update_user` runs without a refused statement.** -/
theorem updateUser_answers_iff (hw : w.db.Constrained) {V : Validation}
    {b : UpdateUserRequest.Body} {r : UpdateUserRequest} (hbody : b.validate V = .ok r)
    (id : UserId) :
    (updateUser env id r).Answers env w ↔
      FitsId id ∧ ∀ target, r.Flushes w.db id target → r.Fits := by
  unfold Service.Answers updateUser
  rw [passes_requireUserById (answered_app _ _)]
  refine and_congr_right fun hid => forall_congr' fun target => ?_
  rw [UpdateUserRequest.flushes_iff, and_imp, and_imp, and_imp]
  refine imp_congr_right fun hfound => ?_
  obtain ⟨hmem, rfl, hsession⟩ := Db.selectUserById_eq_some hfound
  have hstored := hw.users _ hmem
  dsimp only
  by_cases hkind : decide (target.user.role = .student) = r.isStudentShaped
  · have hphone : ∀ t, (r.newPhoneNumber target.user).map (·.text) = some t → nul ∉ t.toList := by
      intro t ht
      obtain ⟨number, -, rfl⟩ := Option.map_eq_some_iff.mp ht
      exact number.nul_notMem
    rw [if_neg (not_not.mpr hkind), forall_prop_of_true hkind,
      passes_checkStudentContact hphone nul_notMem_none hid answered_app]
    refine imp_congr_right fun _ => ?_
    rw [passes_updateObject answered_app]
    refine imp_congr_right fun _ => ?_
    refine (passes_commit_update_iff (fun _ h => absurd h List.not_mem_nil) (r.assign_role _)
      (fun _ => r.assign_username _) (fun h => ?_) (fun db' hkeys => ?_) (fun _ => rfl)
      answered_app).trans ?_
    · left
      simpa using h
    · refine passes_refresh hid ?_ fun user => ?_
      · rw [hkeys]
        exact List.mem_map_of_mem hmem
      · rw [passes_createTask]
        exact passes_deleteCache' fun _ => answered_ok _
    · rw [← UpdateUserRequest.assign_fits hbody hstored]
      exact and_iff_left fun _ =>
        ⟨fun s hs => hw.sessions s (hsession s hs), Db.fitsEmails_nil _⟩
  · rw [if_pos hkind]
    exact iff_of_true ((passes_raise' _).mpr (answered_app _ _)) fun h => absurd h hkind

/-- `update_user_credentials` gets as far as its flush. -/
@[mk_iff]
structure UpdateUserCredentials.Overrides (r : UpdateUserCredentials) (db : Db) (id : UserId)
    (target : Loaded) : Prop where
  found : db.selectUserById id
    { excludedRoles := systemAdminInvisibleRoles, loadSession := true, loadActivation := true } =
      some target
  room :
    (decide (target.user.role = .student) && (r.newEmail target.user).isSome) = true →
      db.HasRoom (some .student) studentMaxSharedContact none
        ((r.newEmail target.user).map (·.text)) (some id)
  changed : r.assign (User.draft target.user) ≠ User.draft target.user

/-- What `update_user_credentials` takes for granted at its flush. -/
@[mk_iff]
structure UpdateUserCredentials.Overridable (r : UpdateUserCredentials) (db : Db)
    (target : Loaded) : Prop where
  session : target.session.isSome = true
  activation :
    (r.newEmail target.user).isSome = true → target.user.status = .pendingActivation →
      target.activation.isSome = true
  fits : r.Fits
  counters : db.Takes target.user (r.assign (User.draft target.user)) →
    (∀ s, target.session = some s → FitsId (s.accessTokenVersion + 1)) ∧
      FitsId db.pendingEmailsIdSeq

/-- The commit of an override is in order if its texts and its counters fit. -/
theorem passes_override (hw : w.db.Constrained) {currentUserId : UserId}
    (hcaller : currentUserId ∈ Keyed.keys w.db.users) {b : UpdateUserCredentials.Body}
    {r : UpdateUserCredentials} (hbody : b.validate = .ok r) {target : Loaded}
    (hmem : target.user ∈ w.db.users) {session : UserSession} (hsession : session ∈ w.db.sessions)
    {activation : Option UserActivation} {mail : NewPendingEmail} (hmail : r.Fits → mail.Fits)
    (htriggered : mail.triggeredBy = some currentUserId)
    {f : Except DbError Unit → Service Unit} {keys : List CacheKey}
    (hok : f (.ok ()) = deleteCache keys)
    (herr : ∀ e, f (.error e) =
      exceptIntegrityError true (!decide (target.user.role = .student)) e) :
    Passes Stmt.Fits (exec env)
        (tryCommit (.update target
          { user := r.assign (User.draft target.user), session := some session.overridden
            activation := activation, loginLockout := target.loginLockout } [mail]) >>= f)
        (fun out _ => Answered out) w ↔
      r.Fits ∧ (w.db.Takes target.user (r.assign (User.draft target.user)) →
        FitsId (session.accessTokenVersion + 1) ∧ FitsId w.db.pendingEmailsIdSeq) := by
  have hstored := hw.sessions _ hsession
  have hoverridden : session.overridden.Fits ↔ FitsId (session.accessTokenVersion + 1) :=
    ⟨fun h => h.accessTokenVersion, fun h => ⟨hstored.userId, h, (by intro _ h; cases h),
      nullable_none⟩⟩
  refine (passes_commit_update_iff (fun mail' hmail' id hid => ?_) rfl ?_ (fun h => ?_)
    (fun db' _ => ?_) herr answered_app).trans ?_
  · rw [List.mem_singleton.mp hmail', htriggered] at hid
    rw [← Option.some.inj hid]
    exact hcaller
  · intro h
    cases h
  · left
    simpa using h
  · rw [hok]
    exact passes_deleteCache' fun _ => answered_ok _
  · refine (and_congr (UpdateUserCredentials.assign_fits hbody (hw.users _ hmem)) Iff.rfl).trans ?_
    refine and_congr_right fun hfits => imp_congr_right fun _ => and_congr ?_ ?_
    · rw [← hoverridden]
      exact ⟨fun h => h _ rfl, fun h _ hs => Option.some.inj hs ▸ h⟩
    · exact Db.fitsEmails_singleton (hmail hfits)

/-- An invite needs the row it is written to. -/
theorem passes_reissueInvite {β : Type} {Q : Except Exn β → World → Prop}
    {currentUserId : UserId} {target : Loaded} {username email : Option String}
    {f : UserActivation × NewPendingEmail → Service β}
    (herr : ∀ name w', ¬ Q (.error (.attributeError name)) w') :
    Passes Stmt.Fits (exec env) (reissueInvite env currentUserId target username email >>= f) Q w ↔
      ∃ activation, target.activation = some activation ∧
        Passes Stmt.Fits (exec env)
          (f ({ activation with
                inviteTokenHash := some (env.sha256 (env.tokenUrlsafe w.draws))
                inviteTokenExpiresAt :=
                  some (w.clock + Time.hours env.settings.inviteTokenExpiresHours) },
              inviteMail (env.tokenUrlsafe w.draws) (username.getD "None") (email.getD "None")
                currentUserId target.user.id)) Q { w with draws := w.draws + 1 } := by
  unfold reissueInvite
  rw [passes_bind, passes_tokenUrlsafe, passes_datetimeNow]
  refine (passes_deref ?_).trans ?_
  · exact herr _ _
  exact exists_congr fun activation => and_congr_right fun _ => and_iff_right trivial

/-- The invite to a new address that fits. -/
theorem UpdateUserCredentials.inviteMail_fits {b : UpdateUserCredentials.Body}
    {r : UpdateUserCredentials} (hbody : b.validate = .ok r) {u : UserDraft} (hu : u.Fits)
    {currentUserId id : UserId} (hcaller : FitsId currentUserId) (hid : FitsId id)
    (rawInviteToken username : String) (hfits : r.Fits) :
    (inviteMail rawInviteToken username ((r.assign u).email.getD "None") currentUserId
      id).Fits := by
  have hassigned := (UpdateUserCredentials.assign_fits hbody hu).mpr hfits
  obtain ⟨address, haddress, hlength⟩ := hassigned.email
  refine ⟨?_, nullable_some.mpr hcaller, nullable_some.mpr hid⟩
  show FitsText 100 ((r.assign u).email.getD "None")
  rw [haddress]
  exact hlength.mono (by decide)

/-- The notice to the old address. -/
theorem credentialsOverrideMail_fits {old : User} (hold : (User.draft old).Fits)
    (new : UserDraft) {currentUserId : UserId} (hcaller : FitsId currentUserId) :
    (credentialsOverrideMail old new currentUserId).Fits := by
  have hemail : FitsText 50 old.email := notNull_some.mp hold.email
  exact ⟨hemail.mono (by decide), nullable_some.mpr hcaller, nullable_some.mpr hold.id⟩

/-- **When `update_user_credentials` runs without a refused statement.** -/
theorem updateUserCredentials_answers_iff (hw : w.db.Constrained) {currentUserId : UserId}
    (hcaller : currentUserId ∈ Keyed.keys w.db.users) {b : UpdateUserCredentials.Body}
    {r : UpdateUserCredentials} (hbody : b.validate = .ok r) (id : UserId) :
    (updateUserCredentials env currentUserId id r).Answers env w ↔
      FitsId id ∧ ∀ target, r.Overrides w.db id target → r.Overridable w.db target := by
  have hcallerId := hw.fitsId hcaller
  unfold Service.Answers updateUserCredentials
  rw [passes_requireUserById (answered_app _ _)]
  refine and_congr_right fun hid => forall_congr' fun target => ?_
  rw [UpdateUserCredentials.overrides_iff, and_imp, and_imp]
  refine imp_congr_right fun hfound => ?_
  obtain ⟨hmem, rfl, hsessions⟩ := Db.selectUserById_eq_some hfound
  have hstored := hw.users _ hmem
  have hemail : ∀ t, (r.newEmail target.user).map (·.text) = some t → nul ∉ t.toList := by
    intro t ht
    obtain ⟨address, -, rfl⟩ := Option.map_eq_some_iff.mp ht
    exact address.nul_notMem
  dsimp only
  rw [passes_checkStudentContact nul_notMem_none hemail hid answered_app]
  refine imp_congr_right fun _ => ?_
  rw [passes_updateObject answered_app]
  refine imp_congr_right fun _ => ?_
  rw [passes_deref fun h => h _ rfl, UpdateUserCredentials.overridable_iff]
  cases hsession : target.session with
  | none => exact iff_of_false (by rintro ⟨_, ⟨⟩, _⟩) (by rintro ⟨⟨⟩, -⟩)
  | some session =>
    simp only [Option.some.injEq, exists_eq_left', Option.isSome_some, true_and, forall_eq']
    by_cases hreissue :
        ((r.newEmail target.user).isSome && decide (target.user.status = .pendingActivation)) = true
    · rw [if_pos hreissue, passes_reissueInvite fun _ _ h => h _ rfl]
      obtain ⟨hemail, hpending⟩ := Bool.and_eq_true_iff.mp hreissue
      have hpending := of_decide_eq_true hpending
      rw [imp_iff_right hemail, imp_iff_right hpending]
      cases hactivation : target.activation with
      | none => exact iff_of_false (by rintro ⟨_, ⟨⟩, _⟩) (by rintro ⟨⟨⟩, -⟩)
      | some activation =>
        simp only [Option.some.injEq, exists_eq_left', Option.isSome_some, true_and]
        exact passes_override (w := { w with draws := w.draws + 1 }) hw hcaller hbody hmem
          (hsessions session hsession)
          (UpdateUserCredentials.inviteMail_fits hbody hstored hcallerId hid _ _) rfl rfl
          fun _ => rfl
    · rw [if_neg hreissue]
      have hkeep : (r.newEmail target.user).isSome = true →
          target.user.status = .pendingActivation → target.activation.isSome = true :=
        fun hemail hpending =>
          absurd (Bool.and_eq_true_iff.mpr ⟨hemail, decide_eq_true hpending⟩) hreissue
      rw [and_iff_right hkeep]
      exact passes_override hw hcaller hbody hmem (hsessions session hsession)
        (fun _ => credentialsOverrideMail_fits hstored _ hcallerId) rfl rfl fun _ => rfl

/-- `update_me_credentials` has something to do. -/
@[mk_iff]
structure UpdateUserCredentials.ChangesMe (r : UpdateUserCredentials) (db : Db) (id : UserId)
    (target : Loaded) : Prop where
  found : db.selectUserById id { loadSession := true } = some target
  changes : ((r.newUsername target.user).isNone && (r.newEmail target.user).isNone) = false

/-- The user under the new username. -/
def UpdateUserCredentials.renamed (r : UpdateUserCredentials) (u : User) : UserDraft :=
  { User.draft u with username := some ((r.newUsername u).getD u.username) }

/-- What `update_me_credentials` takes for granted at its flush. -/
@[mk_iff]
structure UpdateUserCredentials.Changeable (r : UpdateUserCredentials) (w : World)
    (target : Loaded) : Prop where
  session : target.session.isSome = true
  counters : ∀ s, target.session = some s →
    (r.newEmail target.user).any (s.duplicateRequest w.clock) = false →
      w.db.Takes target.user (r.renamed target.user) →
        ((r.newUsername target.user).isSome = true → FitsId (s.accessTokenVersion + 1)) ∧
          ∀ e, r.newEmail target.user = some e → e.text.length ≤ 100

/-- A new username has been validated. -/
theorem UpdateUserCredentials.renamed_fits {b : UpdateUserCredentials.Body}
    {r : UpdateUserCredentials} (hbody : b.validate = .ok r) {u : User}
    (hu : (User.draft u).Fits) : (r.renamed u).Fits := by
  refine { hu with username := notNull_some.mpr ?_ }
  cases hnew : r.newUsername u with
  | none => exact notNull_some.mp hu.username
  | some username =>
    obtain ⟨hvalue, -⟩ := Option.filter_eq_some_iff.mp hnew
    refine UpdateUserCredentials.Body.validate_ok hbody _ ?_
    cases hsent : r.username with
    | set sent =>
      rw [hsent] at hvalue
      cases hvalue
      rfl
    | unset | null =>
      rw [hsent] at hvalue
      cases hvalue

/-- The session with the version of a changed username. -/
def UserSession.versioned (s : UserSession) (usernameChanging : Bool) : UserSession :=
  if usernameChanging then { s with accessTokenVersion := s.accessTokenVersion + 1 } else s

theorem UserSession.versioned_fits {s : UserSession} (hs : s.Fits) (usernameChanging : Bool) :
    (s.versioned usernameChanging).Fits ↔
      (usernameChanging = true → FitsId (s.accessTokenVersion + 1)) := by
  cases usernameChanging with
  | false => exact iff_of_true hs (by intro h; cases h)
  | true =>
    constructor
    · intro h _
      exact h.accessTokenVersion
    · intro h
      exact { hs with accessTokenVersion := h rfl }

theorem UserSession.withEmailChange_fits {s : UserSession} (change : EmailChange)
    (hpending : Nullable (fun e => FitsText 100 e.text) s.pendingNewEmail) :
    (s.withEmailChange env change).Fits ↔ s.Fits ∧ change.newEmail.text.length ≤ 100 := by
  constructor
  · intro h
    have hemail : FitsText 100 change.newEmail.text := h.pendingNewEmail _ rfl
    exact ⟨⟨h.userId, h.accessTokenVersion, hpending, h.refreshTokenFamily⟩, hemail.length_le⟩
  · rintro ⟨h, hlength⟩
    have hemail : FitsText 100 change.newEmail.text := ⟨hlength, change.newEmail.nul_notMem⟩
    exact { h with pendingNewEmail := nullable_some.mpr hemail }

/-- The session as `update_me_credentials` leaves it. -/
def UpdateUserCredentials.sessionAfter (r : UpdateUserCredentials) (env : Env) (u : User)
    (s : UserSession) (change : Option EmailChange) : UserSession :=
  change.elim (s.versioned (r.newUsername u).isSome) fun change =>
    (s.versioned (r.newUsername u).isSome).withEmailChange env change

theorem UpdateUserCredentials.sessionAfter_fits {r : UpdateUserCredentials} {u : User}
    {s : UserSession} (hs : s.Fits) (change : Option EmailChange) :
    (r.sessionAfter env u s change).Fits ↔
      ((r.newUsername u).isSome = true → FitsId (s.accessTokenVersion + 1)) ∧
        ∀ c, change = some c → c.newEmail.text.length ≤ 100 := by
  rw [← UserSession.versioned_fits hs]
  cases change with
  | none => exact (and_iff_left (by intro _ h; cases h)).symm
  | some change =>
    have hpending : (s.versioned (r.newUsername u).isSome).pendingNewEmail = s.pendingNewEmail := by
      cases (r.newUsername u).isSome <;> rfl
    refine (UserSession.withEmailChange_fits change (hpending ▸ hs.pendingNewEmail)).trans ?_
    simp only [Option.some.injEq, forall_eq']

/-- A code is drawn for a change. -/
theorem passes_generateEmailChangeCode (env : Env) (w : World) {β : Type}
    {Q : Except Exn β → World → Prop} (newEmail : Option EmailAddress)
    (f : Option EmailChange → Service β) :
    ∃ draws, Passes Stmt.Fits (exec env) (generateEmailChangeCode newEmail >>= f) Q w ↔
      Passes Stmt.Fits (exec env)
        (f (newEmail.map fun e => ⟨e, emailChangeCode (env.randbelow w.draws), w.clock⟩)) Q
        { w with draws := draws } := by
  cases newEmail with
  | none => exact ⟨w.draws, Iff.rfl⟩
  | some e =>
    refine ⟨w.draws + 1, ?_⟩
    exact (Prog.passes_call_of Stmt.randbelow _ trivial).trans
      (Prog.passes_call_of Stmt.now _ trivial)

theorem passes_sendEmailChangeCode {change : Option EmailChange} {β : Type}
    {Q : Except Exn β → World → Prop} {f : Unit → Service β}
    (h : ∀ mails, Passes Stmt.Fits (exec env) (f ()) Q { w with mails := mails }) :
    Passes Stmt.Fits (exec env) (sendEmailChangeCode change >>= f) Q w := by
  cases change with
  | none => exact h w.mails
  | some change => exact (passes_createTask _ _).mpr (h _)

/-- The commit of `update_me_credentials` is in order if its session fits. -/
theorem passes_commitMyCredentials {target : Loaded} {user : UserDraft} {session : UserSession}
    (hmem : target.user.id ∈ Keyed.keys w.db.users) (hid : FitsId target.user.id)
    (hrole : user.role = target.user.role)
    (hphone : user.phoneNumber = some target.user.phoneNumber)
    (hemail : user.email = some target.user.email) (hfits : user.Fits) (usernameChanging : Bool)
    (change : Option EmailChange) :
    Passes Stmt.Fits (exec env) (commitMyCredentials target user session usernameChanging change)
        (fun out _ => Answered out) w ↔
      (w.db.Takes target.user user → session.Fits) := by
  unfold commitMyCredentials
  refine (passes_commit_update_iff (fun _ h => absurd h List.not_mem_nil) hrole ?_
    (fun _ => Or.inr ⟨hphone, hemail⟩) (fun db' hkeys => ?_) (fun _ => rfl) answered_app).trans ?_
  · intro h
    cases h
  · refine passes_refresh hid (by rwa [hkeys]) fun _ => ?_
    refine passes_sendEmailChangeCode fun mails => ?_
    rw [passes_deleteCache]
    cases usernameChanging with
    | false => exact ⟨trivial, answered_ok _⟩
    | true => exact passes_deleteCache' fun _ => answered_ok _
  · refine (and_iff_right hfits).trans (imp_congr_right fun _ => ?_)
    exact (and_iff_left (Db.fitsEmails_nil _)).trans
      ⟨fun h => h _ rfl, fun h _ hs => Option.some.inj hs ▸ h⟩

/-- **When `update_me_credentials` runs without a refused statement.** -/
theorem updateMeCredentials_answers_iff (hw : w.db.Constrained) {currentUserId : UserId}
    (hcaller : currentUserId ∈ Keyed.keys w.db.users) {b : UpdateUserCredentials.Body}
    {r : UpdateUserCredentials} (hbody : b.validate = .ok r) :
    (updateMeCredentials env currentUserId r).Answers env w ↔
      ∀ target, r.ChangesMe w.db currentUserId target → r.Changeable w target := by
  have hid := hw.fitsId hcaller
  unfold Service.Answers updateMeCredentials
  rw [passes_requireUserById (answered_app _ _), and_iff_right hid]
  refine forall_congr' fun target => ?_
  rw [UpdateUserCredentials.changesMe_iff, and_imp]
  refine imp_congr_right fun hfound => ?_
  obtain ⟨hmem, rfl, hsessions⟩ := Db.selectUserById_eq_some hfound
  have hstored := hw.users _ hmem
  dsimp only
  cases hnothing : (r.newUsername target.user).isNone && (r.newEmail target.user).isNone with
  | true =>
    rw [if_pos rfl]
    exact iff_of_true ((passes_raise' _).mpr (answered_app _ _)) (by intro h; cases h)
  | false =>
    rw [if_neg (by decide), imp_iff_right rfl, UpdateUserCredentials.changeable_iff,
      passes_deref fun h => h _ rfl]
    cases hsession : target.session with
    | none => exact iff_of_false (by rintro ⟨_, ⟨⟩, _⟩) (by rintro ⟨⟨⟩, -⟩)
    | some session =>
      simp only [Option.some.injEq, exists_eq_left', Option.isSome_some, true_and, forall_eq']
      rw [passes_datetimeNow]
      cases hduplicate : (r.newEmail target.user).any (session.duplicateRequest w.clock) with
      | true =>
        rw [if_pos rfl]
        exact iff_of_true ((passes_raise' _).mpr (answered_app _ _)) (by intro h; cases h)
      | false =>
        rw [if_neg (by decide), imp_iff_right rfl]
        obtain ⟨draws, hgenerate⟩ := passes_generateEmailChangeCode env w
          (Q := fun out _ => Answered out) (r.newEmail target.user) fun change =>
            commitMyCredentials target (r.renamed target.user)
              (r.sessionAfter env target.user session change) (r.newUsername target.user).isSome
              change
        refine hgenerate.trans ((passes_commitMyCredentials (w := { w with draws := draws })
          hcaller hid rfl rfl rfl (UpdateUserCredentials.renamed_fits hbody hstored) _ _).trans ?_)
        refine imp_congr_right fun _ => ?_
        rw [UpdateUserCredentials.sessionAfter_fits (hw.sessions _ (hsessions session hsession))]
        refine and_congr_right fun _ => ?_
        cases r.newEmail target.user <;> simp

end Updates

end SmsLite
