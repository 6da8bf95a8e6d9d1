import SmsLite.Registry

/-!
# The rules of sequential runs

One rule for each statement and each helper of the services: what has to be shown of
the rest of the program for the whole of it to end in a postcondition.

## Main results

* `ends_tryCommit`, `ends_commitOrRaise`, `ends_refresh`, ... — the rules.
* `ends_checkStudentContact`, `ends_exceptIntegrityError` — the helpers that change
  nothing.
-/

namespace SmsLite

open Interleave
open Interleave.Prog (Ends ends_bind)

section Rules

variable {env : Env} {α β : Type} {Q : Except Exn β → World → Prop} {w : World}

@[simp] theorem ensureExists_some (a : α) (e : Exn) (f : α → Service β) :
    ensureExists (some a) e >>= f = f a := rfl

@[simp] theorem ensureExists_none (e : Exn) (f : α → Service β) :
    ensureExists none e >>= f = raise e := rfl

@[simp] theorem deref_some (name : String) (a : α) (f : α → Service β) :
    deref name (some a) >>= f = f a := rfl

@[simp] theorem ofExcept_ok (a : α) (f : α → Service β) : ofExcept (.ok a) >>= f = f a := rfl

@[simp] theorem ofExcept_error (e : Exn) (f : α → Service β) :
    ofExcept (.error e) >>= f = raise e := rfl

@[simp] theorem ends_raise' (e : Exn) :
    Ends (exec env) (raise e : Service β) Q w ↔ Q (.error e) w :=
  Iff.rfl

theorem ends_ite {c : Prop} [Decidable c] {p q : Service β}
    (hthen : c → Ends (exec env) p Q w) (helse : ¬ c → Ends (exec env) q Q w) :
    Ends (exec env) (if c then p else q) Q w := by
  split
  · next h => exact hthen h
  · next h => exact helse h

theorem ends_datetimeNow (f : Time → Service β) :
    Ends (exec env) (datetimeNow >>= f) Q w ↔ Ends (exec env) (f w.clock) Q w := Iff.rfl

theorem ends_tokenUrlsafe (f : String → Service β) :
    Ends (exec env) (tokenUrlsafe >>= f) Q w ↔
      Ends (exec env) (f (env.tokenUrlsafe w.draws)) Q { w with draws := w.draws + 1 } := Iff.rfl

theorem ends_hashPassword {password : String} {f : String → Service β}
    (hok : ∀ hash, env.hashPassword w.draws password = .ok hash →
      Ends (exec env) (f hash) Q { w with draws := w.draws + 1 })
    (herr : ∀ e, env.hashPassword w.draws password = .error e → Q (.error e) w) :
    Ends (exec env) (hashPassword password >>= f) Q w := by
  change Ends (exec env) (ofExcept (exec env (.hashPassword password) w).1 >>= f) Q
    (exec env (.hashPassword password) w).2
  cases h : env.hashPassword w.draws password with
  | ok hash =>
    rw [exec_hashPassword_ok h]
    exact hok hash h
  | error e =>
    rw [exec_hashPassword_error h]
    exact herr e h

theorem ends_verifyPassword {plain : String} {hashed : Option String} {f : Bool → Service β}
    (hok : ∀ valid, env.verifyPassword plain hashed = .ok valid → Ends (exec env) (f valid) Q w)
    (herr : ∀ e, env.verifyPassword plain hashed = .error e → Q (.error e) w) :
    Ends (exec env) (verifyPassword plain hashed >>= f) Q w := by
  change Ends (exec env) (ofExcept (env.verifyPassword plain hashed) >>= f) Q w
  cases h : env.verifyPassword plain hashed with
  | ok valid => exact hok valid h
  | error e => exact herr e h

/-- The comparison raises nothing but the `TypeError` of a text that is not ASCII. -/
theorem ends_compareDigest {a b : String} {f : Bool → Service β}
    (hok : isAscii a = true ∧ isAscii b = true → Ends (exec env) (f (a == b)) Q w)
    (herr : ¬ (isAscii a = true ∧ isAscii b = true) →
      Q (.error (.typeError .compareDigestNonAscii)) w) :
    Ends (exec env) (ofExcept (compareDigest a b) >>= f) Q w := by
  by_cases hascii : isAscii a = true ∧ isAscii b = true
  · rw [compareDigest_of_ascii hascii.1 hascii.2]
    exact hok hascii
  · rw [compareDigest_of_not_ascii hascii]
    exact herr hascii

/-- Of a secret and the digest it is compared with, only the stored one may not be ASCII. -/
theorem ends_verifyDigest {raw hash : String} {f : Bool → Service β}
    (hok : isAscii hash = true → Ends (exec env) (f (env.sha256 raw == hash)) Q w)
    (herr : ¬ isAscii hash = true → Q (.error (.typeError .compareDigestNonAscii)) w) :
    Ends (exec env) (ofExcept (verifyDigest env raw (some hash)) >>= f) Q w := by
  refine ends_compareDigest (fun hascii => hok hascii.2) fun hascii => herr fun h => ?_
  exact hascii ⟨env.sha256_isAscii raw, h⟩

theorem ends_getUserById (id : UserId) (q : UserQuery) (f : Option Loaded → Service β) :
    Ends (exec env) (getUserById id q >>= f) Q w ↔
      Ends (exec env) (f (w.db.selectUserById id q)) Q w := Iff.rfl

/-- A request about a user goes on with the account of the user, if the query shows it. -/
theorem ends_requireUserById (hc : w.Coherent) {id : UserId} {q : UserQuery} {e : Exn}
    {f : Loaded → Service β} (hmissing : Q (.error e) w)
    (hfound : ∀ acc, w.account id = some acc → q.admits acc.user = true →
      Ends (exec env) (f (acc.loaded w.db q)) Q w) :
    Ends (exec env) (getUserById id q >>= fun user => ensureExists user e >>= f) Q w := by
  rw [ends_getUserById]
  cases hload : w.db.selectUserById id q with
  | none => exact hmissing
  | some loaded =>
    obtain ⟨acc, hacc, hadmits, rfl⟩ := hc.selectUserById hload
    exact hfound acc hacc hadmits

theorem ends_getUserByUsername (username : String) (q : UserQuery)
    (f : Option Loaded → Service β) :
    Ends (exec env) (getUserByUsername username q >>= f) Q w ↔
      Ends (exec env) (f (w.db.selectUserByUsername username q)) Q w := Iff.rfl

theorem ends_countUsersWithContact (role : Option UserRole) (contact : Contact)
    (exclude : Option UserId) (f : ℕ → Service β) :
    Ends (exec env) (countUsersWithContact role contact exclude >>= f) Q w ↔
      Ends (exec env) (f (w.db.countUsersWithContact role contact exclude)) Q w := Iff.rfl

theorem ends_rollback (f : Unit → Service β) :
    Ends (exec env) (rollback >>= f) Q w ↔ Ends (exec env) (f ()) Q w := Iff.rfl

theorem ends_getCache (key : CacheKey) (f : Option CacheValue → Service β) :
    Ends (exec env) (getCache key >>= f) Q w ↔ Ends (exec env) (f (w.cache key)) Q w := Iff.rfl

theorem ends_setCache (key : CacheKey) (value : CacheValue) (f : Unit → Service β) :
    Ends (exec env) (setCache key value >>= f) Q w ↔
      Ends (exec env) (f ()) Q { w with cache := Function.update w.cache key (some value) } :=
  Iff.rfl

theorem ends_deleteCache (keys : List CacheKey) (f : Unit → Service β) :
    Ends (exec env) (deleteCache keys >>= f) Q w ↔
      Ends (exec env) (f ()) Q
        { w with cache := fun key => if key ∈ keys then none else w.cache key } := Iff.rfl

/-- The same as the last statement of a program. -/
theorem ends_deleteCache' {Q : Except Exn Unit → World → Prop} (keys : List CacheKey) :
    Ends (exec env) (deleteCache keys) Q w ↔
      Q (.ok ()) { w with cache := fun key => if key ∈ keys then none else w.cache key } := Iff.rfl

theorem ends_createTask (mail : Mail) (f : Unit → Service β) :
    Ends (exec env) (createTask mail >>= f) Q w ↔
      Ends (exec env) (f ()) Q { w with mails := w.mails ++ [mail] } := Iff.rfl

theorem ends_tryCommit {work : UnitOfWork} {f : Except DbError Unit → Service β}
    (hok : ∀ db', w.db.commit w.clock work = .ok db' →
      Ends (exec env) (f (.ok ())) Q { w with db := db' })
    (herr : ∀ e, w.db.commit w.clock work = .error e → Ends (exec env) (f (.error e)) Q w) :
    Ends (exec env) (tryCommit work >>= f) Q w := by
  change Ends (exec env) (f (exec env (.commit work) w).1) Q (exec env (.commit work) w).2
  cases h : w.db.commit w.clock work with
  | ok db' =>
    rw [exec_commit_ok h]
    exact hok db' h
  | error e =>
    rw [exec_commit_error h]
    exact herr e h

theorem ends_commitOrRaise {work : UnitOfWork} {f : Unit → Service β}
    (hok : ∀ db', w.db.commit w.clock work = .ok db' →
      Ends (exec env) (f ()) Q { w with db := db' })
    (herr : ∀ e : DbError, w.db.commit w.clock work = .error e → Q (.error e.exn) w) :
    Ends (exec env) (commitOrRaise work >>= f) Q w := by
  unfold commitOrRaise
  rw [ends_bind]
  exact ends_tryCommit hok herr

/-- The same as the last statement of a program. -/
theorem ends_commitOrRaise' {Q : Except Exn Unit → World → Prop} {work : UnitOfWork}
    (hok : ∀ db', w.db.commit w.clock work = .ok db' → Q (.ok ()) { w with db := db' })
    (herr : ∀ e : DbError, w.db.commit w.clock work = .error e → Q (.error e.exn) w) :
    Ends (exec env) (commitOrRaise work) Q w := by
  unfold commitOrRaise
  exact ends_tryCommit hok herr

/-- The row is there: the commit before has moved its account. -/
theorem ends_refresh {w₀ w' : World} {id : UserId} {acc' : Account} (h : Moved w₀ w' id acc')
    (hdb : w.db = w'.db) (f : User → Service β) :
    Ends (exec env) (refresh id >>= f) Q w ↔ Ends (exec env) (f acc'.user) Q w := by
  change Ends (exec env) (ensureExists (Keyed.get? w.db.users id) _ >>= f) Q w ↔ _
  rw [hdb, h.get_user]
  rfl

/-- The same as the last statement of a program. -/
theorem ends_refresh' {Q : Except Exn User → World → Prop} {w₀ w' : World} {id : UserId}
    {acc' : Account} (h : Moved w₀ w' id acc') (hdb : w.db = w'.db) :
    Ends (exec env) (refresh id) Q w ↔ Q (.ok acc'.user) w := by
  change Ends (exec env) (ensureExists (Keyed.get? w.db.users id) _) Q w ↔ _
  rw [hdb, h.get_user]
  rfl

theorem ends_onlyIf {condition : Bool} {p : Service Unit} {f : Unit → Service β}
    (hthen : condition = true → Ends (exec env) (p >>= f) Q w)
    (helse : condition = false → Ends (exec env) (f ()) Q w) :
    Ends (exec env) (onlyIf condition p >>= f) Q w := by
  cases condition with
  | false => exact helse rfl
  | true => exact hthen rfl

/-- A statement that changes nothing may as well be skipped. -/
theorem ends_onlyIf_skip {condition : Bool} {p : Service Unit} {f : Unit → Service β}
    (hskip : Ends (exec env) (p >>= f) Q w ↔ Ends (exec env) (f ()) Q w) :
    Ends (exec env) (onlyIf condition p >>= f) Q w ↔ Ends (exec env) (f ()) Q w := by
  cases condition with
  | false => rfl
  | true => exact hskip

theorem ends_acquireLockFor (lock : String → AdvisoryLock) (text : Option String)
    (f : Unit → Service β) :
    Ends (exec env) (acquireLockFor lock text >>= f) Q w ↔ Ends (exec env) (f ()) Q w := by
  cases text with
  | none => rfl
  | some text =>
    simp only [acquireLockFor]
    split <;> rfl

/-- Sequentially a lock is always free. -/
theorem ends_acquireStudentContactLock (phoneNumber email : Option String)
    (f : Unit → Service β) :
    Ends (exec env) (acquireStudentContactLock env phoneNumber email >>= f) Q w ↔
      Ends (exec env) (f ()) Q w := by
  unfold acquireStudentContactLock
  rw [ends_bind, ends_acquireLockFor, ← ends_bind, ends_acquireLockFor]

theorem ends_checkContact {role : Option UserRole} {contact : Option Contact} {maxAllowed : ℕ}
    {exclude : Option UserId} {students teachers : Exn} {f : Unit → Service β}
    (hok : (∀ c ∈ contact, w.db.countUsersWithContact role c exclude < maxAllowed) →
      Ends (exec env) (f ()) Q w)
    (herr : (¬ ∀ c ∈ contact, w.db.countUsersWithContact role c exclude < maxAllowed) →
      Q (.error students) w ∧ Q (.error teachers) w) :
    Ends (exec env) (checkContact role contact maxAllowed exclude students teachers >>= f) Q w := by
  cases contact with
  | none => exact hok (by intro c h; cases h)
  | some contact =>
    simp only [Option.mem_def, Option.some.injEq, forall_eq'] at hok herr
    simp only [checkContact]
    rw [ends_bind, ends_countUsersWithContact]
    by_cases h : maxAllowed ≤ w.db.countUsersWithContact role contact exclude
    · obtain ⟨hstudents, hteachers⟩ := herr (not_lt.mpr h)
      rw [if_pos h, ends_raise']
      by_cases hrole : role = some .student
      · rw [if_pos hrole]
        exact hstudents
      · rw [if_neg hrole]
        exact hteachers
    · rw [if_neg h]
      exact hok (not_le.mp h)

/-- The limit is checked without touching anything. -/
theorem ends_checkContactLimit {phoneNumber email : Option String} {role : Option UserRole}
    {maxAllowed : ℕ} {exclude : Option UserId} {f : Unit → Service β}
    (hok : w.db.HasRoom role maxAllowed phoneNumber email exclude → Ends (exec env) (f ()) Q w)
    (herr : ¬ w.db.HasRoom role maxAllowed phoneNumber email exclude →
      ∀ cls detail, Q (.error (.app cls detail)) w) :
    Ends (exec env) (checkContactLimit phoneNumber email role maxAllowed exclude >>= f) Q w := by
  have hmap : ∀ (contact : String → Contact) (text : Option String),
      (∀ c ∈ text.map contact, w.db.countUsersWithContact role c exclude < maxAllowed) ↔
        ∀ t ∈ text, w.db.countUsersWithContact role (contact t) exclude < maxAllowed := by
    intro contact text
    cases text <;> simp
  unfold checkContactLimit
  rw [ends_bind]
  refine ends_checkContact (fun hphone => ?_) fun hphone => ?_
  · rw [← ends_bind]
    refine ends_checkContact (fun hemail => ?_) fun hemail => ?_
    · exact hok ⟨(hmap _ _).mp hphone, (hmap _ _).mp hemail⟩
    · have hfull := herr fun h => hemail ((hmap _ _).mpr h.2)
      exact ⟨hfull _ _, hfull _ _⟩
  · have hfull := herr fun h => hphone ((hmap _ _).mpr h.1)
    exact ⟨hfull _ _, hfull _ _⟩

theorem ends_checkStudentContact {applies : Bool} {phoneNumber email : Option String}
    {exclude : UserId} {f : Unit → Service β}
    (hok : (applies = true → w.db.HasRoom (some .student) studentMaxSharedContact phoneNumber email
      (some exclude)) → Ends (exec env) (f ()) Q w)
    (herr : ¬ (applies = true → w.db.HasRoom (some .student) studentMaxSharedContact phoneNumber
      email (some exclude)) → ∀ cls detail, Q (.error (.app cls detail)) w) :
    Ends (exec env) (checkStudentContact env applies phoneNumber email exclude >>= f) Q w := by
  unfold checkStudentContact
  refine ends_onlyIf (fun happlies => ?_) fun hskip => hok fun happlies => ?_
  · rw [ends_bind, ends_acquireStudentContactLock, ← ends_bind]
    exact ends_checkContactLimit (fun hroom => hok fun _ => hroom) fun hfull =>
      herr fun h => hfull (h happlies)
  · rw [hskip] at happlies
    cases happlies

theorem ends_handleUsernameIntegrityError {orig : String} {f : Unit → Service β}
    (hok : Ends (exec env) (f ()) Q w) (herr : ∀ cls detail, Q (.error (.app cls detail)) w) :
    Ends (exec env) (handleUsernameIntegrityError orig >>= f) Q w := by
  unfold handleUsernameIntegrityError
  split
  · exact herr _ _
  · exact hok

theorem ends_handleNonStudentUniqueContactError {orig : String} {f : Unit → Service β}
    (hok : Ends (exec env) (f ()) Q w) (herr : ∀ cls detail, Q (.error (.app cls detail)) w) :
    Ends (exec env) (handleNonStudentUniqueContactError orig >>= f) Q w := by
  unfold handleNonStudentUniqueContactError
  split
  · exact herr _ _
  · split
    · exact herr _ _
    · exact hok

/-- The `except IntegrityError` blocks end in some exception. -/
theorem ends_exceptIntegrityError {mapsUsername mapsContacts : Bool} {e : DbError}
    (h : ∀ x : Exn, x.isCrash = false → Q (.error x) w) :
    Ends (exec env) (exceptIntegrityError mapsUsername mapsContacts e : Service β) Q w := by
  cases e with
  | data orig => exact h _ rfl
  | integrity orig =>
    have hraise : Ends (exec env) (raise (.integrityError orig) : Service β) Q w := h _ rfl
    have hcontacts : Ends (exec env) (onlyIf mapsContacts
        (handleNonStudentUniqueContactError orig) >>= fun _ =>
          (raise (.integrityError orig) : Service β)) Q w :=
      ends_onlyIf
        (fun _ => ends_handleNonStudentUniqueContactError hraise fun _ _ => h _ rfl) fun _ => hraise
    simp only [exceptIntegrityError]
    rw [ends_rollback]
    exact ends_onlyIf
      (fun _ => ends_handleUsernameIntegrityError hcontacts fun _ _ => h _ rfl) fun _ => hcontacts

/-- A commit whose success is known, with an `except IntegrityError` block. -/
theorem ends_tryCommit_iff {work : UnitOfWork} {P : Prop} {mapsUsername mapsContacts : Bool}
    {f : Except DbError Unit → Service β}
    (hiff : (∃ db', w.db.commit w.clock work = .ok db') ↔ P)
    (hhandler : ∀ e, f (.error e) = exceptIntegrityError mapsUsername mapsContacts e)
    (hok : P → ∀ db', w.db.commit w.clock work = .ok db' →
      Ends (exec env) (f (.ok ())) Q { w with db := db' })
    (herr : ¬ P → ∀ x : Exn, Q (.error x) w) :
    Ends (exec env) (tryCommit work >>= f) Q w := by
  refine ends_tryCommit (fun db' hcommit => ?_) fun e hcommit => ?_
  · exact hok (hiff.mp ⟨db', hcommit⟩) db' hcommit
  · rw [hhandler]
    refine ends_exceptIntegrityError fun x _ => herr (fun h => ?_) x
    obtain ⟨db', hok⟩ := hiff.mpr h
    cases hcommit.symm.trans hok

theorem ends_updateObject {instance_ assigned : UserDraft} {f : UserDraft → Service β}
    (hok : assigned ≠ instance_ → Ends (exec env) (f assigned) Q w)
    (herr : assigned = instance_ → ∀ cls detail, Q (.error (.app cls detail)) w) :
    Ends (exec env) (updateObject instance_ assigned >>= f) Q w := by
  unfold updateObject
  split
  · next h => exact herr h _ _
  · next h => exact hok h

theorem ends_generateEmailChangeCode (newEmail : EmailAddress)
    (f : Option EmailChange → Service β) :
    Ends (exec env) (generateEmailChangeCode (some newEmail) >>= f) Q w ↔
      Ends (exec env) (f (some ⟨newEmail, emailChangeCode (env.randbelow w.draws), w.clock⟩)) Q
        { w with draws := w.draws + 1 } := Iff.rfl

theorem ends_sendEmailChangeCode {change : Option EmailChange} {f : Unit → Service β}
    (h : ∀ mails, mails = w.mails ++ (change.toList.map fun change =>
        { recipient := change.newEmail.text, emailType := .emailChangeCode
          content := .emailChangeVerification change.rawCode }) →
      Ends (exec env) (f ()) Q { w with mails := mails }) :
    Ends (exec env) (sendEmailChangeCode change >>= f) Q w := by
  cases change with
  | none => exact h w.mails (List.append_nil _).symm
  | some change => exact h _ rfl

/-- The invite is the secret of the next draw. -/
theorem ends_reissueInvite {currentUserId : UserId} {acc : Account} {q : UserQuery}
    (hq : q.loadActivation = true) {username email : Option String}
    {f : UserActivation × NewPendingEmail → Service β}
    (h : Ends (exec env) (f ((acc.invited env w.clock w.draws).activation,
        inviteMail (env.tokenUrlsafe w.draws) (username.getD "None") (email.getD "None")
          currentUserId acc.user.id)) Q { w with draws := w.draws + 1 }) :
    Ends (exec env)
      (reissueInvite env currentUserId (acc.loaded w.db q) username email >>= f) Q w := by
  unfold reissueInvite
  rw [ends_bind, ends_tokenUrlsafe, ends_datetimeNow, Account.loaded_activation, if_pos hq,
    deref_some]
  exact h

theorem ends_tryFlushUser {user : User} {f : Except DbError UserId → Service β}
    (hok : w.db.checkUser none { user with id := w.db.usersIdSeq } = none →
      Ends (exec env) (f (.ok w.db.usersIdSeq)) Q
        { w with db := { w.db with usersIdSeq := w.db.usersIdSeq + 1 } })
    (herr : ∀ e, w.db.checkUser none { user with id := w.db.usersIdSeq } = some e →
      Ends (exec env) (f (.error e)) Q
        { w with db := { w.db with usersIdSeq := w.db.usersIdSeq + 1 } }) :
    Ends (exec env) (tryFlushUser user >>= f) Q w := by
  change Ends (exec env) (f (exec env (.flushUser user) w).1) Q (exec env (.flushUser user) w).2
  rw [exec_flushUser_eq]
  cases hcheck : w.db.checkUser none { user with id := w.db.usersIdSeq } with
  | none => exact hok hcheck
  | some e => exact herr e hcheck

end Rules

end SmsLite
