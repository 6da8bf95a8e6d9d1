import SmsLite.Secrets.Address

/-!
# One address in several spellings

`acquire_student_contact_lock` takes the lock of an address after `strip` and `lower`, so it
treats the spellings of an address as one.  `validate_email` changes no letter, the address is
stored as it was typed, and `count_users_with_contact` compares it with `=`.  So three students
may share each spelling of one address.

## Main definitions

* `Db.sharing` — the students whose address the lock treats as the given one.
* `Db.SpellingsLimited` — at most three students share an address, in whatever spelling.
* `CreateUserRequest.Registrable` — the guards of `register_user`.
* `Event.Crowds` — the event gives a student an address that three others have.

## Main results

* `registerUser_ends` — the guards decide.
* `spellingsLimited_run_iff` — **the limit holds all along a run exactly if no event of it
  crowds an address**, and `spellings_crowded`: otherwise it does not.
-/

namespace SmsLite

open Interleave
open Interleave.Prog (Ends ends_map)

variable {env : Env} {w w' : World}

/-! ### The two notions of equality -/

/-- The student has the address in some spelling: the lock is the same. -/
def User.shares (address : String) (u : User) : Bool :=
  decide (u.role = .student) && decide (normalizedEmail u.email = normalizedEmail address)

/-- How many students have the address in some spelling, but for one user. -/
def Db.sharing (db : Db) (address : String) (exclude : Option UserId) : ℕ :=
  db.users.countP fun u => u.shares address && exclude.all fun x => u.id ≠ x

/-- At most three students have one address in any spelling. -/
def Db.SpellingsLimited (db : Db) : Prop := ∀ address, db.sharing address none ≤ 3

/-- A user, and all the others. -/
theorem Db.sharing_eq_add {db : Db} (hn : (Keyed.keys db.users).Nodup) (address : String)
    (id : UserId) :
    db.sharing address none = db.sharing address (some id) +
      ((Keyed.get? db.users id).any (User.shares address)).toNat := by
  have hadd := Keyed.countP_eq_add hn id (User.shares address)
  simpa [Db.sharing] using hadd

/-- The others share an address as they did before the account moved. -/
theorem Moved.sharing {id : UserId} {acc' : Account} (h : Moved w w' id acc') (hc : w.Coherent)
    (address : String) : w'.db.sharing address (some id) = w.db.sharing address (some id) := by
  have hothers : ∀ j, j ≠ id → Keyed.get? w'.db.users j = Keyed.get? w.db.users j := by
    intro j hj
    rw [hc.get?_users, h.coherent.get?_users, h.others j hj]
  have hcount := Keyed.countP_others_congr hc.db.nodup h.coherent.db.nodup hothers
    (User.shares address)
  simpa [Db.sharing] using hcount

/-- The moved account is counted as it is now. -/
theorem Moved.sharing_eq_add {id : UserId} {acc' : Account} (h : Moved w w' id acc')
    (hc : w.Coherent) (address : String) :
    w'.db.sharing address none =
      w.db.sharing address (some id) + (acc'.user.shares address).toNat := by
  rw [Db.sharing_eq_add h.coherent.db.nodup address id, h.get_user, h.sharing hc]
  rfl

/-- Accounts that are the same share addresses alike. -/
theorem sharing_congr (hc : w.Coherent) (hc' : w'.Coherent)
    (h : ∀ j, w'.account j = w.account j) (address : String) :
    w'.db.sharing address none = w.db.sharing address none := by
  have hmem : ∀ u, u ∈ w'.db.users ↔ u ∈ w.db.users := by
    intro u
    have hget : Keyed.get? w'.db.users u.id = Keyed.get? w.db.users u.id := by
      rw [hc.get?_users, hc'.get?_users, h]
    constructor
    · intro hu
      exact Keyed.mem_of_get? (hget.symm.trans (Keyed.get?_of_mem hc'.db.nodup hu))
    · intro hu
      exact Keyed.mem_of_get? (hget.trans (Keyed.get?_of_mem hc.db.nodup hu))
  have hperm : w'.db.users.Perm w.db.users :=
    (List.perm_ext_iff_of_nodup hc'.db.nodup.of_map hc.db.nodup.of_map).mpr hmem
  exact hperm.countP_eq _

/-! ### The guards of a registration -/

/-- The guards of `register_user`. -/
structure CreateUserRequest.Registrable (db : Db) (currentUserId : UserId)
    (r : CreateUserRequest) : Prop where
  room : db.HasRoom r.contactLimitRole r.maxAllowed (some r.base.phoneNumber.text)
    (some r.base.email.text) none
  user : db.checkUser none (r.newUser currentUserId db.usersIdSeq) = none
  caller : currentUserId ∈ Keyed.keys db.users

/-- What decides about the commit of a new user. -/
theorem Db.commit_register_ok_iff {db : Db} {now : Time} {user : User}
    {activation : UserActivation} {session : UserSession} {loginLockout : UserLoginLockout}
    {email : NewPendingEmail} :
    (∃ db', db.commit now (.register user activation session loginLockout email) = .ok db') ↔
      user.id ∉ Keyed.keys db.users ∧ db.checkUser none user = none ∧
        db.danglingUser user.createdBy = false ∧ db.danglingUser email.triggeredBy = false := by
  simp only [Db.commit]
  by_cases hid : user.id ∈ Keyed.keys db.users
  · rw [if_pos hid]
    exact not_ok_error fun h => h.1 hid
  · rw [if_neg hid]
    cases hcheck : db.checkUser none user with
    | some e =>
      refine not_ok_error ?_
      rintro ⟨-, hnone, -⟩
      cases hnone
    | none =>
      dsimp only
      by_cases hdangling : (db.danglingUser user.createdBy || db.danglingUser email.triggeredBy) =
          true
      · rw [if_pos hdangling]
        refine not_ok_error fun h => ?_
        rw [h.2.2.1, h.2.2.2] at hdangling
        cases hdangling
      · rw [if_neg hdangling]
        rw [Bool.not_eq_true, Bool.or_eq_false_iff] at hdangling
        exact iff_of_true ⟨_, rfl⟩ ⟨hid, rfl, hdangling.1, hdangling.2⟩

/-- A commit that failed has met a guard. -/
theorem Db.not_commit_register {db : Db} {now : Time} {user : User}
    {activation : UserActivation} {session : UserSession} {loginLockout : UserLoginLockout}
    {email : NewPendingEmail} {e : DbError}
    (h : db.commit now (.register user activation session loginLockout email) = .error e) :
    ¬ (user.id ∉ Keyed.keys db.users ∧ db.checkUser none user = none ∧
      db.danglingUser user.createdBy = false ∧ db.danglingUser email.triggeredBy = false) := by
  intro hguards
  obtain ⟨db', hcommit⟩ := Db.commit_register_ok_iff.mpr hguards
  cases h.symm.trans hcommit

/-- **`register_user` creates an account exactly if its guards hold**, and fails otherwise. -/
theorem registerUser_ends (hc : w.Coherent) (currentUserId : UserId) (r : CreateUserRequest) :
    Ends (exec env) (registerUser env currentUserId r)
      (fun out w' =>
        (r.Registrable w.db currentUserId ∧ w.account w.db.usersIdSeq = none ∧
          ∃ acc', Moved w w' w.db.usersIdSeq acc' ∧ acc'.user.role = r.resolvedRole ∧
            acc'.user.email = r.base.email.text) ∨
        (¬ r.Registrable w.db currentUserId ∧ ∃ e, out = .error e)) w := by
  unfold registerUser
  rw [ends_onlyIf_skip (ends_acquireStudentContactLock _ _ _)]
  refine ends_checkContactLimit (fun hroom => ?_) fun hfull _ _ =>
    Or.inr ⟨fun h => hfull h.room, _, rfl⟩
  rw [ends_tokenUrlsafe, ends_datetimeNow]
  refine ends_tryFlushUser (fun hcheck => ?_) fun e he =>
    ends_exceptIntegrityError fun x _ =>
      Or.inr ⟨fun h => Option.some_ne_none e (he.symm.trans h.user), x, rfl⟩
  -- The flush has passed: the commit fails only for a caller who does not exist.
  have hfresh : w.db.usersIdSeq ∉ Keyed.keys w.db.users := fun h =>
    absurd (hc.db.fresh _ h) (lt_irrefl _)
  have hcaller : ({ w.db with usersIdSeq := w.db.usersIdSeq + 1 } : Db).danglingUser
      (some currentUserId) = false ↔ currentUserId ∈ Keyed.keys w.db.users := by
    simp [Db.danglingUser]
  refine ends_tryCommit (fun db' hcommit => ?_) fun e he =>
    ends_exceptIntegrityError fun x _ => Or.inr ⟨fun h => ?_, x, rfl⟩
  · obtain ⟨hnone, hmoved⟩ := hc.commit_register rfl rfl rfl rfl hcommit
    refine (ends_refresh' hmoved (by rfl)).mpr (Or.inl ?_)
    obtain ⟨-, -, hcreated, -⟩ := Db.commit_register_ok_iff.mp ⟨db', hcommit⟩
    exact ⟨⟨hroom, hcheck, hcaller.mp hcreated⟩, hnone, _, hmoved.congr rfl fun _ => rfl, rfl, rfl⟩
  · exact Db.not_commit_register he ⟨hfresh, hcheck, hcaller.mpr h.caller, hcaller.mpr h.caller⟩

/-! ### Events that crowd an address -/

/-- The guards of the request hold, and it gives a student an address that three other students
have in some spelling. -/
def Event.Crowds (env : Env) (w : World) : Event → Prop
  | .request (.registerUser currentUserId r) =>
    r.resolvedRole = .student ∧ r.Registrable w.db currentUserId ∧
      3 ≤ w.db.sharing r.base.email.text none
  | .request (.updateUserCredentials currentUserId targetUserId q) =>
    ∃ acc newEmail, w.account targetUserId = some acc ∧ acc.user.role = .student ∧
      acc.Overridable w.db currentUserId q ∧ q.newEmail acc.user = some newEmail ∧
      3 ≤ w.db.sharing newEmail.text (some targetUserId)
  | .request (.confirmEmailChange currentUserId q) =>
    ∃ acc newEmail, w.account currentUserId = some acc ∧ acc.user.role = .student ∧
      acc.Confirmable env w.db w.clock q ∧ acc.session.pendingNewEmail = some newEmail ∧
      3 ≤ w.db.sharing newEmail.text (some currentUserId)
  | _ => False

/-- An account takes a step of these two only if they succeed. -/
theorem Account.Step.override_ok {now : Time} {draws draws' : ℕ} {currentUserId u : UserId}
    {q : UpdateUserCredentials} {out : Outcome} {acc acc' : Account}
    (h : acc.Step env now draws (.updateUserCredentials currentUserId u q) out acc' draws') :
    ∃ response, out = .ok response := by
  cases h with
  | updateUserCredentials | updatePendingCredentials => exact ⟨_, rfl⟩

theorem Account.Step.confirm_ok {now : Time} {draws draws' : ℕ} {u : UserId}
    {q : ConfirmEmailChange} {out : Outcome} {acc acc' : Account}
    (h : acc.Step env now draws (.confirmEmailChange u q) out acc' draws') :
    ∃ response, out = .ok response := by
  cases h with
  | confirmEmailChange => exact ⟨_, rfl⟩

/-- `update_user_credentials` leaves the new email, if there is one. -/
theorem Account.Step.email_override {now : Time} {draws draws' : ℕ} {currentUserId u : UserId}
    {q : UpdateUserCredentials} {response : Response} {acc acc' : Account}
    (h : acc.Step env now draws (.updateUserCredentials currentUserId u q) (.ok response) acc'
      draws') :
    acc'.user.email = ((q.newEmail acc.user).map (·.text)).getD acc.user.email := by
  cases h with
  | updateUserCredentials _ _ _ user _ huser | updatePendingCredentials _ _ _ user _ huser =>
    exact UpdateUserCredentials.email_of_assign huser

/-- `confirm_email_change` leaves the pending email. -/
theorem Account.Step.email_confirmed {now : Time} {draws draws' : ℕ} {u : UserId}
    {q : ConfirmEmailChange} {response : Response} {acc acc' : Account}
    (h : acc.Step env now draws (.confirmEmailChange u q) (.ok response) acc' draws') :
    ∃ newEmail, acc.session.pendingNewEmail = some newEmail ∧ acc'.user.email = newEmail.text := by
  cases h with
  | confirmEmailChange _ _ newEmail _ hnew => exact ⟨newEmail, hnew, rfl⟩

/-- A user with an address in one spelling has it in every spelling. -/
theorem User.sharing_congr {u : User} {address : String} (h : u.shares address = true)
    (db : Db) (exclude : Option UserId) :
    db.sharing address exclude = db.sharing u.email exclude := by
  simp only [User.shares, Bool.and_eq_true, decide_eq_true_eq] at h
  simp only [Db.sharing, User.shares, h.2]

/-- **An account that moves keeps the limit exactly if the address it has then had room.** -/
theorem Moved.spellingsLimited_iff {id : UserId} {acc' : Account} (h : Moved w w' id acc')
    (hc : w.Coherent) (hlimited : w.db.SpellingsLimited) :
    w'.db.SpellingsLimited ↔
      ¬ (acc'.user.role = .student ∧ 3 ≤ w.db.sharing acc'.user.email (some id)) := by
  constructor
  · rintro hafter ⟨hstudent, hthree⟩
    have hfour := hafter acc'.user.email
    have hshares : acc'.user.shares acc'.user.email = true := by simp [User.shares, hstudent]
    rw [h.sharing_eq_add hc, hshares, Bool.toNat_true] at hfour
    omega
  · intro hroom address
    have hbefore := hlimited address
    rw [Db.sharing_eq_add hc.db.nodup address id] at hbefore
    rw [h.sharing_eq_add hc]
    cases hshares : acc'.user.shares address with
    | false =>
      rw [Bool.toNat_false]
      omega
    | true =>
      have hstudent : acc'.user.role = .student := by
        simp only [User.shares, Bool.and_eq_true, decide_eq_true_eq] at hshares
        exact hshares.1
      have hless : ¬ 3 ≤ w.db.sharing acc'.user.email (some id) := fun h => hroom ⟨hstudent, h⟩
      rw [User.sharing_congr hshares, Bool.toNat_true]
      omega

/-- An account that keeps its email keeps the limit. -/
theorem sharing_lt_of_email {id : UserId} {acc acc' : Account} (hc : w.Coherent)
    (hlimited : w.db.SpellingsLimited) (hacc : w.account id = some acc)
    (hrole : acc'.user.role = acc.user.role) (hemail : acc'.user.email = acc.user.email) :
    ¬ (acc'.user.role = .student ∧ 3 ≤ w.db.sharing acc'.user.email (some id)) := by
  rintro ⟨hstudent, hthree⟩
  have hbefore := hlimited acc'.user.email
  have hshares : acc.user.shares acc'.user.email = true := by
    simp [User.shares, ← hrole, hstudent, hemail]
  rw [Db.sharing_eq_add hc.db.nodup _ id, World.account_user hacc, Option.any_some, hshares,
    Bool.toNat_true] at hbefore
  omega

/-- A registration. -/
theorem World.Sound.spellingsLimited_register (hs : w.Sound) (hlimited : w.db.SpellingsLimited)
    (currentUserId : UserId) (q : CreateUserRequest) :
    (w.after env (.request (.registerUser currentUserId q))).db.SpellingsLimited ↔
      ¬ (Event.request (.registerUser currentUserId q)).Crowds env w := by
  have hc := hs.toCoherent
  have hrun := Prog.run_map (exec env) Response.user (registerUser env currentUserId q) w
  have hafter : w.after env (.request (.registerUser currentUserId q)) =
      ((registerUser env currentUserId q).run (exec env) w).2 := congrArg Prod.snd hrun
  have hends : Ends (exec env) (registerUser env currentUserId q) _ w :=
    registerUser_ends hc currentUserId q
  rcases hends with ⟨hguards, hnone, acc', hmoved, hrole, hemail⟩ | ⟨hguards, e, he⟩
  · rw [← hafter] at hmoved
    rw [hmoved.spellingsLimited_iff hc hlimited, hrole, hemail]
    have hall : w.db.sharing q.base.email.text none =
        w.db.sharing q.base.email.text (some w.db.usersIdSeq) := by
      rw [Db.sharing_eq_add hc.db.nodup _ w.db.usersIdSeq, hc.get?_users, hnone]
      rfl
    rw [← hall]
    exact not_congr ⟨fun h => ⟨h.1, hguards, h.2⟩, fun h => ⟨h.1, h.2.2⟩⟩
  · refine iff_of_true ?_ fun h => hguards h.2.1
    have hout : w.respond env (.registerUser currentUserId q) = .error e :=
      (congrArg Prod.fst hrun).trans (congrArg (Except.map Response.user) he)
    cases (hs.serves env (.registerUser currentUserId q)).served with
    | quiet haccounts hcoherent =>
      intro address
      rw [sharing_congr hc hcoherent haccounts]
      exact hlimited address
    | moved _ _ _ htarget => cases htarget
    | registered _ _ _ _ hok => cases hout.symm.trans hok

/-- What succeeded is no quiet failure. -/
theorem Quiet.not_ok {r : Request} {out : Outcome} {id : UserId} {acc : Account}
    (h : Quiet env w r out) (hr : r.isRead = false) (htarget : r.target? env w = some id)
    (hacc : w.account id = some acc) (response : Response) : out ≠ .ok response := by
  rintro rfl
  cases h with
  | read _ hread => cases hread.symm.trans hr
  | absent _ _ hnone => cases (hnone id htarget).symm.trans hacc

/-- An override of the credentials. -/
theorem World.Sound.spellingsLimited_override (hs : w.Sound) (hlimited : w.db.SpellingsLimited)
    (currentUserId u : UserId) (q : UpdateUserCredentials) :
    (w.after env (.request (.updateUserCredentials currentUserId u q))).db.SpellingsLimited ↔
      ¬ (Event.request (.updateUserCredentials currentUserId u q)).Crowds env w := by
  have hc := hs.toCoherent
  have hok : ∀ acc, w.account u = some acc → acc.Overridable w.db currentUserId q →
      ∃ response, w.respond env (.updateUserCredentials currentUserId u q) = .ok response :=
    fun acc hacc => (updateUserCredentials_ok_iff hacc).mpr
  cases (hs.serves env (.updateUserCredentials currentUserId u q)).served with
  | registered _ _ _ hr => cases hr
  | quiet haccounts hcoherent _ hquiet =>
    refine iff_of_true (fun address => ?_) ?_
    · rw [sharing_congr hc hcoherent haccounts]
      exact hlimited address
    · rintro ⟨acc, newEmail, hacc, -, hguards, -⟩
      obtain ⟨response, hresponse⟩ := hok acc hacc hguards
      exact hquiet.not_ok rfl rfl hacc response hresponse
  | moved id acc acc' htarget hacc hstep hmoved =>
    obtain rfl : u = id := Option.some.inj htarget
    rw [hmoved.spellingsLimited_iff hc hlimited, not_iff_not]
    have hresponse : ∃ response,
        w.respond env (.updateUserCredentials currentUserId u q) = .ok response :=
      hstep.override_ok
    have hguards := (updateUserCredentials_ok_iff hacc).mp hresponse
    have hrole := hstep.role
    obtain ⟨response, hresponse⟩ := hresponse
    rw [hresponse] at hstep
    have hemail := hstep.email_override
    constructor
    · rintro ⟨hstudent, hthree⟩
      cases hnew : q.newEmail acc.user with
      | none =>
        rw [hnew] at hemail
        exact absurd ⟨hstudent, hthree⟩ (sharing_lt_of_email hc hlimited hacc hrole hemail)
      | some newEmail =>
        rw [hnew] at hemail
        rw [hemail] at hthree
        exact ⟨acc, newEmail, hacc, hrole ▸ hstudent, hguards, hnew, hthree⟩
    · rintro ⟨acc₁, newEmail, hacc₁, hstudent, -, hnew, hthree⟩
      obtain rfl : acc = acc₁ := Option.some.inj (hacc.symm.trans hacc₁)
      rw [hnew] at hemail
      rw [hemail, hrole]
      exact ⟨hstudent, hthree⟩

/-- A confirmed change of the email. -/
theorem World.Sound.spellingsLimited_confirm (hs : w.Sound) (hlimited : w.db.SpellingsLimited)
    (u : UserId) (q : ConfirmEmailChange) :
    (w.after env (.request (.confirmEmailChange u q))).db.SpellingsLimited ↔
      ¬ (Event.request (.confirmEmailChange u q)).Crowds env w := by
  have hc := hs.toCoherent
  cases (hs.serves env (.confirmEmailChange u q)).served with
  | registered _ _ _ hr => cases hr
  | quiet haccounts hcoherent _ hquiet =>
    refine iff_of_true (fun address => ?_) ?_
    · rw [sharing_congr hc hcoherent haccounts]
      exact hlimited address
    · rintro ⟨acc, newEmail, hacc, -, hguards, -⟩
      obtain ⟨response, hresponse⟩ := (confirmEmailChange_ok_iff hs hacc).mpr hguards
      exact hquiet.not_ok rfl rfl hacc response hresponse
  | moved id acc acc' htarget hacc hstep hmoved =>
    obtain rfl : u = id := Option.some.inj htarget
    rw [hmoved.spellingsLimited_iff hc hlimited, not_iff_not]
    have hresponse : ∃ response, w.respond env (.confirmEmailChange u q) = .ok response :=
      hstep.confirm_ok
    have hguards := (confirmEmailChange_ok_iff hs hacc).mp hresponse
    have hrole := hstep.role
    obtain ⟨response, hresponse⟩ := hresponse
    rw [hresponse] at hstep
    obtain ⟨newEmail, hnew, hemail⟩ := hstep.email_confirmed
    constructor
    · rintro ⟨hstudent, hthree⟩
      rw [hemail] at hthree
      exact ⟨acc, newEmail, hacc, hrole ▸ hstudent, hguards, hnew, hthree⟩
    · rintro ⟨acc₁, newEmail₁, hacc₁, hstudent, -, hnew₁, hthree⟩
      obtain rfl : acc = acc₁ := Option.some.inj (hacc.symm.trans hacc₁)
      obtain rfl : newEmail = newEmail₁ := Option.some.inj (hnew.symm.trans hnew₁)
      rw [hemail, hrole]
      exact ⟨hstudent, hthree⟩

/-- Any other request keeps the emails, and with them the limit. -/
theorem World.Sound.spellingsLimited_request (hs : w.Sound) (hlimited : w.db.SpellingsLimited)
    (r : Request) (hregister : ∀ currentUserId q, r ≠ .registerUser currentUserId q)
    (hoverride : ∀ currentUserId u q, r ≠ .updateUserCredentials currentUserId u q)
    (hconfirm : ∀ u q, r ≠ .confirmEmailChange u q) :
    (w.after env (.request r)).db.SpellingsLimited := by
  have hc := hs.toCoherent
  cases (hs.serves env r).served with
  | registered currentUserId q _ hr => exact absurd hr (hregister currentUserId q)
  | quiet haccounts hcoherent =>
    intro address
    rw [sharing_congr hc hcoherent haccounts]
    exact hlimited address
  | moved id acc acc' _ hacc hstep hmoved =>
    rcases hstep.email with hemail | ⟨_, _, hr, -⟩ | ⟨_, _, hr, -⟩
    · exact (hmoved.spellingsLimited_iff hc hlimited).mpr
        (sharing_lt_of_email hc hlimited hacc hstep.role hemail)
    · exact absurd hr (hoverride _ _ _)
    · exact absurd hr (hconfirm _ _)

/-- **A step keeps the limit exactly if it crowds no address.** -/
theorem World.Sound.spellingsLimited_after (hs : w.Sound) (hlimited : w.db.SpellingsLimited)
    (e : Event) : (w.after env e).db.SpellingsLimited ↔ ¬ e.Crowds env w := by
  cases e with
  | outside o =>
    have hsame : (w.after env (.outside o)).db = w.db := w.outside_db o
    rw [hsame]
    exact iff_of_true hlimited not_false
  | request r =>
    cases r with
    | registerUser currentUserId q => exact hs.spellingsLimited_register hlimited currentUserId q
    | updateUserCredentials currentUserId u q =>
      exact hs.spellingsLimited_override hlimited currentUserId u q
    | confirmEmailChange u q => exact hs.spellingsLimited_confirm hlimited u q
    | _ =>
      refine iff_of_true (hs.spellingsLimited_request hlimited _ ?_ ?_ ?_) not_false
      · exact fun _ _ h => by cases h
      · exact fun _ _ _ h => by cases h
      · exact fun _ _ h => by cases h

/-! ### Runs -/

/-- **At most three students share an address all along a run, whatever the spelling, exactly if
no event of the run gives a student an address that three others have in some spelling.** -/
theorem spellingsLimited_run_iff (env : Env) (w : World) (hw : w.Seeded)
    (hlimited : w.db.SpellingsLimited) (events : List Event) :
    (∀ before after, events = before ++ after → (w.run env before).db.SpellingsLimited) ↔
      Run.Throughout (World.after env) (fun w e => ¬ e.Crowds env w) w events :=
  Run.invariant_iff (I := fun w : World => w.db.SpellingsLimited) (J := World.Sound)
    (fun _ e h => h.after env e) (fun _ e hs hlimited => hs.spellingsLimited_after hlimited e)
    hw.sound hlimited events

theorem World.concrete_spellingsLimited : World.concrete.db.SpellingsLimited :=
  fun _ => List.countP_le_length.trans (by decide)

/-- Four siblings, each under another spelling of one address. -/
def registerSpellings : List Event :=
  [sibling "first.sib" ⟨"+992917000003", isE164_grace⟩ ⟨"home@school.org", by decide⟩,
    sibling "second.sib" ⟨"+992917000004", by decide⟩ ⟨"Home@school.org", by decide⟩,
    sibling "third.sib" ⟨"+992917000005", by decide⟩ ⟨"home@School.org", by decide⟩,
    sibling "fourth.sib" ⟨"+992917000006", by decide⟩ ⟨"HOME@school.org", by decide⟩]
where
  sibling (username : String) (phoneNumber : PhoneNumber) (email : EmailAddress) : Event :=
    .request (.registerUser 1 (.student
      { username := username, firstname := "Sib", lastname := "Ling", middlename := none
        phoneNumber := phoneNumber, email := email } { year := 2010, month := 12, day := 9 } none))

/-- The first three may share it. -/
theorem spellingsLimited_run_concrete :
    (World.concrete.run .concrete (registerSpellings.take 3)).db.SpellingsLimited ∧
      (World.concrete.run .concrete (registerSpellings.take 3)).db.sharing "home@school.org" none =
        3 := by
  refine ⟨?_, by decide +kernel⟩
  refine (spellingsLimited_run_iff .concrete World.concrete World.concrete_seeded
    World.concrete_spellingsLimited (registerSpellings.take 3)).mpr
      ⟨fun h => ?_, fun h => ?_, fun h => ?_, trivial⟩ _ [] rfl
  all_goals exact absurd h.2.2 (by decide +kernel)

/-- **Otherwise an address is crowded**: the four registrations take the same lock, are all
accepted, and the students share the address as the lock has it. -/
theorem spellings_crowded :
    (World.concrete.run .concrete registerSpellings).db.users.map (fun u => (u.role, u.email)) =
        [(.systemAdmin, "root@school.org"), (.student, "ada@school.org"),
          (.student, "home@school.org"), (.student, "Home@school.org"),
          (.student, "home@School.org"), (.student, "HOME@school.org")] ∧
      (World.concrete.run .concrete registerSpellings).db.sharing "home@school.org" none = 4 ∧
      ¬ (World.concrete.run .concrete registerSpellings).db.SpellingsLimited := by
  have hfour : (World.concrete.run .concrete registerSpellings).db.sharing "home@school.org" none =
      4 := by decide +kernel
  refine ⟨by decide +kernel, hfour, fun h => ?_⟩
  have hle := h "home@school.org"
  omega

end SmsLite
