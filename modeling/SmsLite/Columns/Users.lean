import SmsLite.Failures.Atomicity
import SmsLite.Lib.Checked
import SmsLite.Schemas.Usernames
import SmsLite.Sequential

/-!
# What the columns of the users take

The driver and the server refuse a statement whose values its columns do not take: a null where
there is none, a text that is too long or contains a NUL, a number beyond `INTEGER`.  A refusal
that is no violated constraint is not caught by any service.  This module says what the
statements of the user services have to fit, and gives the rules for their runs.

## Main definitions

* `FitsText`, `FitsInteger`, `NotNull`, `Nullable` — the columns.
* `UserDraft.Fits`, `UserSession.Fits`, `NewPendingEmail.Fits` — the rows.
* `Stmt.Fits` — the statements.
* `Db.Constrained` — every stored row fits.
* `Service.Answers` — every statement of the run fits, and no exception but an `AppException`
  comes out of it.

## Main results

* `notNull_assign`, `nullable_assign` — what an update leaves in a column.
* `Db.checkUser_mapped` — a row that fits is refused for a unique index only.
* `passes_commit_iff` — the rule of a commit.
-/

namespace SmsLite

open Interleave
open Interleave.Prog (Checked Passes Ends passes_bind passes_pure passes_raise passes_stmt
  passes_stmt_eq passes_call_of)

/-! ### Columns -/

/-- A `String(limit)` takes the text. -/
@[mk_iff]
structure FitsText (limit : ℕ) (text : String) : Prop where
  length_le : text.length ≤ limit
  nul_notMem : nul ∉ text.toList

/-- An `INTEGER` takes the number. -/
def FitsInteger (n : ℤ) : Prop := -2 ^ 31 ≤ n ∧ n < 2 ^ 31

/-- The same for an id or a counter. -/
abbrev FitsId (id : ℕ) : Prop := FitsInteger id

/-- A `NOT NULL` column takes the value. -/
def NotNull {α : Type} (P : α → Prop) (value : Option α) : Prop := ∃ a, value = some a ∧ P a

/-- A column takes the value. -/
def Nullable {α : Type} (P : α → Prop) (value : Option α) : Prop := ∀ a, value = some a → P a

instance (limit : ℕ) (text : String) : Decidable (FitsText limit text) :=
  decidable_of_iff _ (fitsText_iff limit text).symm

instance (n : ℤ) : Decidable (FitsInteger n) := inferInstanceAs (Decidable (_ ∧ _))

instance {α : Type} (P : α → Prop) [DecidablePred P] : DecidablePred (NotNull P)
  | none => .isFalse fun ⟨_, h, _⟩ => nomatch h
  | some a =>
    decidable_of_iff (P a) ⟨fun h => ⟨a, rfl, h⟩, fun ⟨_, ha, h⟩ => Option.some.inj ha ▸ h⟩

instance {α : Type} (P : α → Prop) [DecidablePred P] : DecidablePred (Nullable P)
  | none => .isTrue fun _ h => nomatch h
  | some a => decidable_of_iff (P a) ⟨fun h _ ha => Option.some.inj ha ▸ h, fun h => h a rfl⟩

/-- A `NOT NULL` column takes what the field assigns. -/
def Patch.NotNull {α : Type} (P : α → Prop) : Patch α → Prop
  | .unset => True
  | .null => False
  | .set a => P a

/-- A column takes what the field assigns. -/
def Patch.Nullable {α : Type} (P : α → Prop) : Patch α → Prop
  | .set a => P a
  | _ => True

section Columns

variable {α β : Type} {P : α → Prop} {old : Option α}

@[simp] theorem notNull_some {a : α} : NotNull P (some a) ↔ P a := by
  simp [NotNull]

@[simp] theorem nullable_none : Nullable P none := by intro _ h; cases h

@[simp] theorem nullable_some {a : α} : Nullable P (some a) ↔ P a := by
  simp [Nullable]

/-- **A `NOT NULL` column takes an update** unless it is a null or a value it does not take. -/
theorem notNull_assign (p : Patch α) (h : NotNull P old) :
    NotNull P (p.assign old) ↔ p.NotNull P := by
  cases p with
  | unset => exact iff_of_true h trivial
  | null => exact iff_of_false (by rintro ⟨_, ⟨⟩, _⟩) id
  | set a => exact notNull_some

theorem nullable_assign (p : Patch α) (h : Nullable P old) :
    Nullable P (p.assign old) ↔ p.Nullable P := by
  cases p with
  | unset => exact iff_of_true h trivial
  | null => exact iff_of_true nullable_none trivial
  | set a => exact nullable_some

theorem Patch.notNull_map {Q : β → Prop} (p : Patch α) (f : α → β) :
    (p.map f).NotNull Q ↔ p.NotNull fun a => Q (f a) := by
  cases p <;> exact Iff.rfl

/-- If the column takes every value that may be sent, only a null is refused. -/
theorem Patch.notNull_iff {p : Patch α} (h : ∀ a, p = .set a → P a) :
    p.NotNull P ↔ p ≠ .null := by
  cases p with
  | unset => exact iff_of_true trivial (by intro h; cases h)
  | null => exact iff_of_false id fun h => h rfl
  | set a => exact iff_of_true (h a rfl) (by intro h; cases h)

end Columns

theorem FitsText.of_le {limit : ℕ} {text : String} (hlength : text.length ≤ limit) :
    FitsText limit text ↔ nul ∉ text.toList :=
  ⟨FitsText.nul_notMem, FitsText.mk hlength⟩

theorem FitsText.mono {limit limit' : ℕ} {text : String} (h : FitsText limit text)
    (hle : limit ≤ limit') : FitsText limit' text :=
  ⟨h.length_le.trans hle, h.nul_notMem⟩

/-! ### Texts without a NUL -/

theorem EmailAddress.nul_notMem (e : EmailAddress) : nul ∉ e.text.toList := by
  intro h
  rcases e.mem_text h with hat | hdot | hword
  · exact absurd hat (by decide)
  · exact absurd hdot (by decide)
  · exact absurd hword (by decide)

theorem PhoneNumber.nul_notMem (number : PhoneNumber) : nul ∉ number.text.toList := by
  intro h
  rcases number.mem_text h with hplus | hdigit
  · exact absurd hplus (by decide)
  · exact absurd hdigit (by decide)

/-- A phone number fits its column. -/
theorem parseAndValidateMobileNumber_fits {V : Validation} {text : String} {number : PhoneNumber}
    (h : parseAndValidateMobileNumber V text = .ok number) : FitsText 25 number.text :=
  ⟨(parseAndValidateMobileNumber_ok h).trans (by decide), number.nul_notMem⟩

/-- A username fits its column. -/
theorem validateUsername_fits {username text : String}
    (h : (lengthBetween 6 20 username >>= validateUsername) = .ok text) : FitsText 20 text := by
  obtain ⟨rfl, husername⟩ := username_ok_iff.mp h
  refine ⟨husername.max, fun hnul => ?_⟩
  have hchar := List.all_eq_true.mp (passesTests_iff.mpr husername.pattern).chars nul hnul
  exact absurd hchar (by decide)

/-- The key of an advisory lock is a signed 32-bit number. -/
theorem computeLockKey_fits (env : Env) (value : String) :
    FitsInteger (computeLockKey env value) := by
  have hlt := (env.sha256Prefix value).isLt
  unfold computeLockKey FitsInteger
  dsimp only
  split <;> omega

/-! ### Rows -/

/-- The columns of `users` that a request may set, and the ids. -/
@[mk_iff]
structure UserDraft.Fits (d : UserDraft) : Prop where
  id : FitsId d.id
  username : NotNull (FitsText 20) d.username
  firstname : NotNull (FitsText 50) d.firstname
  lastname : NotNull (FitsText 50) d.lastname
  middlename : Nullable (FitsText 50) d.middlename
  address : Nullable (FitsText 100) d.address
  phoneNumber : NotNull (FitsText 25) d.phoneNumber
  email : NotNull (FitsText 50) d.email
  createdBy : Nullable FitsId d.createdBy
  groupId : Nullable FitsId d.groupId

instance (d : UserDraft) : Decidable d.Fits := decidable_of_iff _ (UserDraft.fits_iff d).symm

/-- The columns of `users_sessions`, but for digests and times, which are made here. -/
@[mk_iff]
structure UserSession.Fits (s : UserSession) : Prop where
  userId : FitsId s.userId
  accessTokenVersion : FitsInteger s.accessTokenVersion
  pendingNewEmail : Nullable (fun e => FitsText 100 e.text) s.pendingNewEmail
  refreshTokenFamily : Nullable (FitsText 64) s.refreshTokenFamily

instance (s : UserSession) : Decidable s.Fits :=
  decidable_of_iff _ (UserSession.fits_iff s).symm

/-- The columns of `pending_emails`, but for the subject and the bodies, which are templates. -/
structure NewPendingEmail.Fits (e : NewPendingEmail) : Prop where
  recipient : FitsText 100 e.recipient
  triggeredBy : Nullable FitsId e.triggeredBy
  recipientUserId : Nullable FitsId e.recipientUserId

/-- The new rows of `pending_emails` fit, and there are ids for them. -/
structure Db.FitsEmails (db : Db) (emails : List NewPendingEmail) : Prop where
  ids : ∀ i, i < emails.length → FitsId (db.pendingEmailsIdSeq + i)
  rows : ∀ e ∈ emails, e.Fits

/-- Every stored row fits. -/
structure Db.Constrained (db : Db) : Prop where
  users : ∀ u ∈ db.users, (User.draft u).Fits
  sessions : ∀ s ∈ db.sessions, s.Fits

/-! ### Statements -/

/-- The text a count compares. -/
def Contact.text : Contact → String
  | phoneNumber number => number
  | email address => address

/-- The unique indexes take the object in place of the row it was loaded from. -/
def Db.Takes (db : Db) (old : User) (current : UserDraft) : Prop :=
  ∃ user, current = User.draft user ∧ db.checkUser (some old) user = none

/-- What a commit writes fits.  The users are written first, and a violated index ends the
commit. -/
def UnitOfWork.Fits (db : Db) : UnitOfWork → Prop
  | .update loaded current emails =>
    current.user.Fits ∧
      (db.Takes loaded.user current.user →
        (∀ s, current.session = some s → s.Fits) ∧ db.FitsEmails emails)
  | .register _ _ session _ email => session.Fits ∧ db.FitsEmails [email]

/-- The values of a statement fit the columns they are written to or compared with. -/
def Stmt.Fits : Stmt → World → Prop
  | .selectUserById userId _, _ => FitsId userId
  | .selectUserByUsername username _, _ => nul ∉ username.toList
  | .countUsersWithContact _ contact excludeUserId, _ =>
    nul ∉ contact.text.toList ∧ Nullable FitsId excludeUserId
  | .advisoryLock lock, _ => FitsInteger lock.1 ∧ FitsInteger lock.2
  | .flushUser user, w =>
    w.db.usersIdSeq ∉ Keyed.keys w.db.users ∧
      (User.draft { user with id := w.db.usersIdSeq }).Fits
  | .commit work, w => work.Fits w.db
  | .refresh userId, _ => FitsId userId
  | _, _ => True

/-- The exception is an `AppException`, if there is one. -/
def Answered {α : Type} (out : Except Exn α) : Prop := ∀ e, out = .error e → e.isAppException

/-- Every statement of the run fits, and only an `AppException` comes out of it. -/
def Service.Answers {α : Type} (env : Env) (p : Service α) (w : World) : Prop :=
  Passes Stmt.Fits (exec env) p (fun out _ => Answered out) w

/-! ### Refusals -/

/-- The `except IntegrityError` blocks make an `AppException` of the error. -/
def DbError.Mapped (mapsUsername mapsContacts : Bool) (e : DbError) : Prop :=
  ∃ orig, e = .integrity orig ∧
    (mapsUsername = true ∧ pyIn "users_username_key" orig = true ∨
      mapsContacts = true ∧ (pyIn "uix_non_student_unique_phone" orig = true ∨
        pyIn "uix_non_student_unique_email" orig = true))

/-- The message of a violated index names the index. -/
theorem pyIn_duplicateKey (constraint column value : String) :
    pyIn constraint (duplicateKey constraint column value) = true := by
  unfold pyIn duplicateKey
  rw [decide_eq_true_eq]
  simp only [String.toList_append]
  refine List.IsInfix.trans ?_ (List.prefix_append _ _).isInfix
  refine List.IsInfix.trans ?_ (List.prefix_append _ _).isInfix
  refine List.IsInfix.trans ?_ (List.prefix_append _ _).isInfix
  refine List.IsInfix.trans ?_ (List.prefix_append _ _).isInfix
  refine List.IsInfix.trans ?_ (List.prefix_append _ _).isInfix
  exact (List.suffix_append _ _).isInfix

/-- A text that fits is not too long. -/
theorem tooLong_eq_false {α : Type} {old : Option α} {new : α} {limit : ℕ}
    {column : α → Option String} (h : ∀ text, column new = some text → text.length ≤ limit) :
    tooLong old new limit column = false := by
  unfold tooLong
  cases htext : column new with
  | none => simp
  | some text =>
    have hle : ¬ limit < text.length := not_lt.mpr (h text htext)
    simp [hle]

/-- A column that keeps its value is not set. -/
theorem changed_eq_false {α β : Type} [DecidableEq β] {old new : α} {column : α → β}
    (h : column new = column old) : changed (some old) new column = false := by
  simp [changed, h]

/-- **A row that fits is refused for a unique index only**, and only for a column that is set. -/
theorem Db.checkUser_mapped {db : Db} {old : Option User} {new : User} {e : DbError}
    {mapsUsername mapsContacts : Bool} (hfits : (User.draft new).Fits)
    (h : db.checkUser old new = some e)
    (husername : changed old new (·.username) = true → mapsUsername = true)
    (hcontacts : new.role ≠ .student →
      changed old new (·.phoneNumber) = true ∨ changed old new (·.email) = true →
        mapsContacts = true) :
    e.Mapped mapsUsername mapsContacts := by
  have hshort : ∀ {limit : ℕ} {column : User → Option String},
      Nullable (FitsText limit) (column new) → tooLong old new limit column = false :=
    fun hcolumn => tooLong_eq_false fun text htext => (hcolumn text htext).length_le
  have hnotNull : ∀ {limit : ℕ} {column : User → String},
      NotNull (FitsText limit) (some (column new)) →
        tooLong old new limit (fun u => some (column u)) = false :=
    fun hcolumn => hshort (nullable_some.mpr (notNull_some.mp hcolumn))
  unfold Db.checkUser at h
  rw [hnotNull hfits.username, hnotNull hfits.firstname, hnotNull hfits.lastname,
    hshort hfits.middlename, hshort hfits.address, hnotNull hfits.phoneNumber,
    hnotNull hfits.email] at h
  rw [if_neg (by decide)] at h
  split at h
  · next htaken =>
    obtain ⟨hchanged, -⟩ := Bool.and_eq_true_iff.mp htaken
    cases h
    exact ⟨_, rfl, Or.inl ⟨husername hchanged, pyIn_duplicateKey _ _ _⟩⟩
  · split at h
    · next htaken =>
      simp only [Bool.and_eq_true, decide_eq_true_eq] at htaken
      obtain ⟨⟨hrole, hchanged⟩, -⟩ := htaken
      cases h
      exact ⟨_, rfl, Or.inr ⟨hcontacts hrole (Or.inl hchanged),
        Or.inl (pyIn_duplicateKey _ _ _)⟩⟩
    · split at h
      · next htaken =>
        simp only [Bool.and_eq_true, decide_eq_true_eq] at htaken
        obtain ⟨⟨hrole, hchanged⟩, -⟩ := htaken
        cases h
        exact ⟨_, rfl, Or.inr ⟨hcontacts hrole (Or.inr hchanged),
          Or.inr (pyIn_duplicateKey _ _ _)⟩⟩
      · cases h

/-- An object without nulls is a row. -/
theorem UserDraft.Fits.exists_row {d : UserDraft} (h : d.Fits) : ∃ user, d = User.draft user := by
  obtain ⟨username, husername, -⟩ := h.username
  obtain ⟨firstname, hfirstname, -⟩ := h.firstname
  obtain ⟨lastname, hlastname, -⟩ := h.lastname
  obtain ⟨phoneNumber, hphone, -⟩ := h.phoneNumber
  obtain ⟨email, hemail, -⟩ := h.email
  refine ⟨{ d with username, firstname, lastname, phoneNumber, email }, ?_⟩
  cases d
  simp_all [User.draft]

/-- **A commit that fits is refused for a unique index of `users` only.** -/
theorem Db.commit_update_refused {db : Db} {now : Time} {loaded : Loaded} {current : Dirty}
    {emails : List NewPendingEmail} {e : DbError}
    (hfits : (UnitOfWork.update loaded current emails).Fits db)
    (hcaller : ∀ mail ∈ emails, ∀ id, mail.triggeredBy = some id → id ∈ Keyed.keys db.users)
    (h : db.commit now (.update loaded current emails) = .error e) :
    ∃ user, current.user = User.draft user ∧ db.checkUser (some loaded.user) user = some e := by
  obtain ⟨hrow, haccepted⟩ := hfits
  obtain ⟨user, huser⟩ := hrow.exists_row
  refine ⟨user, huser, ?_⟩
  simp only [Db.commit, huser, User.draft_toRow] at h
  cases hcheck : db.checkUser (some loaded.user) user with
  | some e' =>
    rw [hcheck] at h
    cases h
    rfl
  | none =>
    obtain ⟨hsession, -⟩ := haccepted ⟨user, huser, hcheck⟩
    have hshort : (current.session.any fun s =>
        tooLong loaded.session s 100 fun s => s.pendingNewEmail.map (·.text)) = false := by
      cases hs : current.session with
      | none => rfl
      | some s =>
        refine tooLong_eq_false fun text htext => ?_
        obtain ⟨address, haddress, rfl⟩ := Option.map_eq_some_iff.mp htext
        exact ((hsession s hs).pendingNewEmail address haddress).length_le
    have hdangling : (emails.any fun mail => db.danglingUser mail.triggeredBy) = false := by
      rw [List.any_eq_false]
      intro mail hmail hdangling
      cases hid : mail.triggeredBy with
      | none => simp [Db.danglingUser, hid] at hdangling
      | some id => simp [Db.danglingUser, hid, hcaller mail hmail id hid] at hdangling
    rw [hcheck] at h
    dsimp only at h
    rw [hshort, if_neg (by decide), hdangling, if_neg (by decide)] at h
    cases h

/-! ### Rules -/

section Rules

variable {env : Env} {w : World} {β : Type} {Q : Except Exn β → World → Prop}

@[simp] theorem passes_raise' (e : Exn) :
    Passes Stmt.Fits (exec env) (raise e : Service β) Q w ↔ Q (.error e) w := passes_raise e w

theorem passes_getUserById (id : UserId) (q : UserQuery) (f : Option Loaded → Service β) :
    Passes Stmt.Fits (exec env) (getUserById id q >>= f) Q w ↔
      FitsId id ∧ Passes Stmt.Fits (exec env) (f (w.db.selectUserById id q)) Q w := and_assoc

theorem passes_countUsersWithContact (role : Option UserRole) (contact : Contact)
    (exclude : Option UserId) (f : ℕ → Service β) :
    Passes Stmt.Fits (exec env) (countUsersWithContact role contact exclude >>= f) Q w ↔
      (nul ∉ contact.text.toList ∧ Nullable FitsId exclude) ∧
        Passes Stmt.Fits (exec env) (f (w.db.countUsersWithContact role contact exclude)) Q w :=
  and_assoc

theorem passes_advisoryLock (lock : AdvisoryLock) (f : Unit → Service β) :
    Passes Stmt.Fits (exec env) (advisoryLock lock >>= f) Q w ↔
      (FitsInteger lock.1 ∧ FitsInteger lock.2) ∧ Passes Stmt.Fits (exec env) (f ()) Q w :=
  and_assoc

theorem passes_tokenUrlsafe (f : String → Service β) :
    Passes Stmt.Fits (exec env) (tokenUrlsafe >>= f) Q w ↔
      Passes Stmt.Fits (exec env) (f (env.tokenUrlsafe w.draws)) Q
        { w with draws := w.draws + 1 } := passes_call_of _ _ trivial

theorem passes_datetimeNow (f : Time → Service β) :
    Passes Stmt.Fits (exec env) (datetimeNow >>= f) Q w ↔
      Passes Stmt.Fits (exec env) (f w.clock) Q w := passes_call_of _ _ trivial

theorem passes_rollback (f : Unit → Service β) :
    Passes Stmt.Fits (exec env) (rollback >>= f) Q w ↔ Passes Stmt.Fits (exec env) (f ()) Q w :=
  passes_call_of _ _ trivial

theorem passes_createTask (mail : Mail) (f : Unit → Service β) :
    Passes Stmt.Fits (exec env) (createTask mail >>= f) Q w ↔
      Passes Stmt.Fits (exec env) (f ()) Q { w with mails := w.mails ++ [mail] } :=
  passes_call_of _ _ trivial

theorem passes_deleteCache (keys : List CacheKey) (f : Unit → Service β) :
    Passes Stmt.Fits (exec env) (deleteCache keys >>= f) Q w ↔
      Passes Stmt.Fits (exec env) (f ()) Q
        { w with cache := fun key => if key ∈ keys then none else w.cache key } :=
  passes_call_of _ _ trivial

/-- The same as the last statement of a program. -/
theorem passes_deleteCache' {Q : Except Exn Unit → World → Prop} {keys : List CacheKey}
    (h : ∀ w', Q (.ok ()) w') : Passes Stmt.Fits (exec env) (deleteCache keys) Q w :=
  ⟨⟨trivial, trivial⟩, h _⟩

/-- A request about a user goes on with the user, if the query finds one. -/
theorem passes_requireUserById {id : UserId} {q : UserQuery} {e : Exn} {f : Loaded → Service β}
    (hmissing : Q (.error e) w) :
    Passes Stmt.Fits (exec env) (getUserById id q >>= fun user => ensureExists user e >>= f) Q w ↔
      FitsId id ∧ ∀ target, w.db.selectUserById id q = some target →
        Passes Stmt.Fits (exec env) (f target) Q w := by
  rw [passes_getUserById]
  refine and_congr_right fun _ => ?_
  cases w.db.selectUserById id q with
  | none =>
    rw [ensureExists_none, passes_raise']
    exact iff_of_true hmissing (by intro _ h; cases h)
  | some target =>
    rw [ensureExists_some]
    exact ⟨fun h _ htarget => Option.some.inj htarget ▸ h, fun h => h target rfl⟩

theorem passes_onlyIf {condition : Bool} {p : Service Unit} {f : Unit → Service β} :
    Passes Stmt.Fits (exec env) (onlyIf condition p >>= f) Q w ↔
      (condition = true → Passes Stmt.Fits (exec env) (p >>= f) Q w) ∧
        (condition = false → Passes Stmt.Fits (exec env) (f ()) Q w) := by
  cases condition with
  | false => exact ⟨fun h => ⟨fun hc => absurd hc (by decide), fun _ => h⟩, fun h => h.2 rfl⟩
  | true => exact ⟨fun h => ⟨fun _ => h, fun hc => absurd hc (by decide)⟩, fun h => h.1 rfl⟩

/-- A statement that answers nothing may as well be skipped. -/
theorem passes_onlyIf_skip {condition : Bool} {p : Service Unit} {f : Unit → Service β}
    (hskip : Passes Stmt.Fits (exec env) (p >>= f) Q w ↔
      Passes Stmt.Fits (exec env) (f ()) Q w) :
    Passes Stmt.Fits (exec env) (onlyIf condition p >>= f) Q w ↔
      Passes Stmt.Fits (exec env) (f ()) Q w := by
  cases condition with
  | false => exact Iff.rfl
  | true => exact hskip

/-- Every lock of a contact has a key that fits. -/
theorem passes_acquireLockFor {lock : String → AdvisoryLock} {text : Option String}
    {f : Unit → Service β} (hlock : ∀ t, FitsInteger (lock t).1 ∧ FitsInteger (lock t).2) :
    Passes Stmt.Fits (exec env) (acquireLockFor lock text >>= f) Q w ↔
      Passes Stmt.Fits (exec env) (f ()) Q w := by
  cases text with
  | none => exact Iff.rfl
  | some text =>
    simp only [acquireLockFor]
    split
    · exact Iff.rfl
    · exact (passes_advisoryLock _ _).trans (and_iff_right (hlock text))

theorem passes_acquireStudentContactLock {phoneNumber email : Option String}
    {f : Unit → Service β} :
    Passes Stmt.Fits (exec env) (acquireStudentContactLock env phoneNumber email >>= f) Q w ↔
      Passes Stmt.Fits (exec env) (f ()) Q w := by
  have hnamespace : ∀ {n : ℤ}, n = namespaceStudentPhone ∨ n = namespaceStudentEmail →
      FitsInteger n := by
    rintro n (rfl | rfl)
    · exact ⟨by decide, by decide⟩
    · exact ⟨by decide, by decide⟩
  have hphone : ∀ t, FitsInteger (phoneLock env t).1 ∧ FitsInteger (phoneLock env t).2 :=
    fun _ => ⟨hnamespace (Or.inl rfl), computeLockKey_fits env _⟩
  have hemail : ∀ t, FitsInteger (emailLock env t).1 ∧ FitsInteger (emailLock env t).2 :=
    fun _ => ⟨hnamespace (Or.inr rfl), computeLockKey_fits env _⟩
  unfold acquireStudentContactLock
  rw [passes_bind, passes_acquireLockFor hphone, ← passes_bind, passes_acquireLockFor hemail]

/-- A count that finds the limit reached raises an `AppException`. -/
theorem passes_checkContact {role : Option UserRole} {contact : Option Contact} {maxAllowed : ℕ}
    {exclude : Option UserId} {students teachers : Exn} {f : Unit → Service β}
    (hfits : ∀ c, contact = some c → nul ∉ c.text.toList) (hexclude : Nullable FitsId exclude)
    (hstudents : Q (.error students) w) (hteachers : Q (.error teachers) w) :
    Passes Stmt.Fits (exec env)
        (checkContact role contact maxAllowed exclude students teachers >>= f) Q w ↔
      ((∀ c ∈ contact, w.db.countUsersWithContact role c exclude < maxAllowed) →
        Passes Stmt.Fits (exec env) (f ()) Q w) := by
  cases contact with
  | none => exact ⟨fun h _ => h, fun h => h (by intro _ h; cases h)⟩
  | some contact =>
    simp only [Option.mem_def, Option.some.injEq, forall_eq', checkContact]
    rw [passes_bind, passes_countUsersWithContact, and_iff_right ⟨hfits contact rfl, hexclude⟩]
    by_cases hroom : w.db.countUsersWithContact role contact exclude < maxAllowed
    · rw [if_neg (not_le.mpr hroom)]
      exact ⟨fun h _ => h.2, fun h => ⟨trivial, h hroom⟩⟩
    · rw [if_pos (not_lt.mp hroom)]
      refine iff_of_true ?_ fun h => absurd h hroom
      rw [passes_raise']
      show Q (.error (if role = some .student then students else teachers)) w
      split
      · exact hstudents
      · exact hteachers

theorem passes_checkContactLimit {phoneNumber email : Option String} {role : Option UserRole}
    {maxAllowed : ℕ} {exclude : Option UserId} {f : Unit → Service β}
    (hphone : ∀ t, phoneNumber = some t → nul ∉ t.toList)
    (hemail : ∀ t, email = some t → nul ∉ t.toList) (hexclude : Nullable FitsId exclude)
    (herr : ∀ cls detail, Q (.error (.app cls detail)) w) :
    Passes Stmt.Fits (exec env)
        (checkContactLimit phoneNumber email role maxAllowed exclude >>= f) Q w ↔
      (w.db.HasRoom role maxAllowed phoneNumber email exclude →
        Passes Stmt.Fits (exec env) (f ()) Q w) := by
  have hmap : ∀ (contact : String → Contact) (text : Option String),
      (∀ c ∈ text.map contact, w.db.countUsersWithContact role c exclude < maxAllowed) ↔
        ∀ t ∈ text, w.db.countUsersWithContact role (contact t) exclude < maxAllowed := by
    intro contact text
    cases text <;> simp
  have hphone' : ∀ c, phoneNumber.map Contact.phoneNumber = some c → nul ∉ c.text.toList := by
    intro c hc
    obtain ⟨t, ht, rfl⟩ := Option.map_eq_some_iff.mp hc
    exact hphone t ht
  have hemail' : ∀ c, email.map Contact.email = some c → nul ∉ c.text.toList := by
    intro c hc
    obtain ⟨t, ht, rfl⟩ := Option.map_eq_some_iff.mp hc
    exact hemail t ht
  unfold checkContactLimit Db.HasRoom
  rw [passes_bind]
  refine (passes_checkContact hphone' hexclude ?_ ?_).trans ?_
  · exact herr _ _
  · exact herr _ _
  rw [hmap, and_imp]
  refine imp_congr_right fun _ => ?_
  rw [← passes_bind, passes_checkContact hemail' hexclude (herr _ _) (herr _ _), hmap]

theorem passes_checkStudentContact {applies : Bool} {phoneNumber email : Option String}
    {exclude : UserId} {f : Unit → Service β}
    (hphone : ∀ t, phoneNumber = some t → nul ∉ t.toList)
    (hemail : ∀ t, email = some t → nul ∉ t.toList) (hexclude : FitsId exclude)
    (herr : ∀ cls detail, Q (.error (.app cls detail)) w) :
    Passes Stmt.Fits (exec env)
        (checkStudentContact env applies phoneNumber email exclude >>= f) Q w ↔
      ((applies = true → w.db.HasRoom (some .student) studentMaxSharedContact phoneNumber email
          (some exclude)) → Passes Stmt.Fits (exec env) (f ()) Q w) := by
  unfold checkStudentContact
  rw [passes_onlyIf]
  cases applies with
  | false => simp
  | true =>
    simp only [true_imp_iff, reduceCtorEq, false_imp_iff, and_true]
    rw [passes_bind, passes_acquireStudentContactLock, ← passes_bind]
    exact passes_checkContactLimit hphone hemail (nullable_some.mpr hexclude) herr

theorem passes_updateObject {instance_ assigned : UserDraft} {f : UserDraft → Service β}
    (herr : ∀ cls detail, Q (.error (.app cls detail)) w) :
    Passes Stmt.Fits (exec env) (updateObject instance_ assigned >>= f) Q w ↔
      (assigned ≠ instance_ → Passes Stmt.Fits (exec env) (f assigned) Q w) := by
  unfold updateObject
  by_cases h : assigned = instance_
  · rw [if_pos h]
    exact iff_of_true ((passes_raise' _).mpr (herr _ _)) fun hne => absurd h hne
  · rw [if_neg h]
    exact ⟨fun hpasses _ => hpasses, fun hpasses => hpasses h⟩

/-- The companion of an object has to be there. -/
theorem passes_deref {α : Type} {name : String} {obj : Option α} {f : α → Service β}
    (herr : ¬ Q (.error (.attributeError name)) w) :
    Passes Stmt.Fits (exec env) (deref name obj >>= f) Q w ↔
      ∃ a, obj = some a ∧ Passes Stmt.Fits (exec env) (f a) Q w := by
  cases obj with
  | none =>
    change Passes Stmt.Fits (exec env) (raise _) Q w ↔ _
    rw [passes_raise']
    exact iff_of_false herr (by rintro ⟨_, ⟨⟩, _⟩)
  | some a =>
    rw [deref_some]
    exact ⟨fun h => ⟨a, rfl, h⟩, fun ⟨_, ha, h⟩ => Option.some.inj ha ▸ h⟩

/-- An error of an index becomes an `AppException`. -/
theorem passes_exceptIntegrityError {mapsUsername mapsContacts : Bool} {e : DbError}
    (h : e.Mapped mapsUsername mapsContacts)
    (herr : ∀ cls detail, Q (.error (.app cls detail)) w) :
    Passes Stmt.Fits (exec env) (exceptIntegrityError mapsUsername mapsContacts e) Q w := by
  obtain ⟨orig, rfl, hmapped⟩ := h
  have hraise : ∀ {p : Service Unit} {f : Unit → Service β},
      (∃ cls detail, p = raise (.app cls detail)) →
        Passes Stmt.Fits (exec env) (p >>= f) Q w := by
    rintro p f ⟨cls, detail, rfl⟩
    exact ⟨trivial, herr cls detail⟩
  simp only [exceptIntegrityError]
  rw [passes_rollback, passes_onlyIf]
  by_cases husername : mapsUsername = true ∧ pyIn "users_username_key" orig = true
  · refine ⟨fun _ => hraise ⟨_, _, if_pos husername.2⟩, fun hfalse => ?_⟩
    rw [hfalse] at husername
    cases husername.1
  · obtain ⟨hmaps, hcontact⟩ := hmapped.resolve_left husername
    have hcontacts : Passes Stmt.Fits (exec env)
        (onlyIf mapsContacts (handleNonStudentUniqueContactError orig) >>= fun _ =>
          (raise (.integrityError orig) : Service β)) Q w := by
      rw [passes_onlyIf]
      refine ⟨fun _ => ?_, fun hfalse => ?_⟩
      · by_cases hphone : pyIn "uix_non_student_unique_phone" orig = true
        · exact hraise ⟨_, _, if_pos hphone⟩
        · exact hraise ⟨_, _, (if_neg hphone).trans (if_pos (hcontact.resolve_left hphone))⟩
      · cases hfalse.symm.trans hmaps
    refine ⟨fun hmapsUsername => ?_, fun _ => hcontacts⟩
    have hskip : handleUsernameIntegrityError orig = pure () :=
      if_neg fun hin => husername ⟨hmapsUsername, hin⟩
    rw [hskip]
    exact hcontacts

/-- **The rule of a commit**: if what follows is in order once the statement fits, the program
is in order exactly if it does. -/
theorem passes_commit_iff {work : UnitOfWork} {f : Except DbError Unit → Service β}
    (hok : work.Fits w.db → ∀ db', w.db.commit w.clock work = .ok db' →
      Passes Stmt.Fits (exec env) (f (.ok ())) Q { w with db := db' })
    (herr : work.Fits w.db → ∀ e, w.db.commit w.clock work = .error e →
      Passes Stmt.Fits (exec env) (f (.error e)) Q w) :
    Passes Stmt.Fits (exec env) (tryCommit work >>= f) Q w ↔ work.Fits w.db := by
  refine (passes_stmt (Stmt.commit work) _ w).trans (and_iff_left_of_imp fun hfits => ?_)
  change Passes Stmt.Fits (exec env) (f (exec env (.commit work) w).1) Q
    (exec env (.commit work) w).2
  cases hcommit : w.db.commit w.clock work with
  | ok db' =>
    rw [exec_commit_ok hcommit]
    exact hok hfits db' hcommit
  | error e =>
    rw [exec_commit_error hcommit]
    exact herr hfits e hcommit

/-- **The rule of a commit of a loaded user**: it is in order exactly if its rows fit, since the
`except` block knows the indexes of the columns it sets. -/
theorem passes_commit_update_iff {target : Loaded} {current : Dirty}
    {emails : List NewPendingEmail} {f : Except DbError Unit → Service β}
    {mapsUsername mapsContacts : Bool}
    (hcaller : ∀ mail ∈ emails, ∀ id, mail.triggeredBy = some id → id ∈ Keyed.keys w.db.users)
    (hrole : current.user.role = target.user.role)
    (husername : mapsUsername = false → current.user.username = some target.user.username)
    (hcontacts : mapsContacts = false → target.user.role = .student ∨
      current.user.phoneNumber = some target.user.phoneNumber ∧
        current.user.email = some target.user.email)
    (hok : ∀ db', Keyed.keys db'.users = Keyed.keys w.db.users →
      Passes Stmt.Fits (exec env) (f (.ok ())) Q { w with db := db' })
    (herr : ∀ e, f (.error e) = exceptIntegrityError mapsUsername mapsContacts e)
    (happ : ∀ cls detail, Q (.error (.app cls detail)) w) :
    Passes Stmt.Fits (exec env) (tryCommit (.update target current emails) >>= f) Q w ↔
      (UnitOfWork.update target current emails).Fits w.db := by
  refine passes_commit_iff (fun _ db' hcommit => ?_) fun hfits e he => ?_
  · obtain ⟨user, -, -, husers, -⟩ := Db.commit_update hcommit
    refine hok db' ?_
    rw [husers, Keyed.keys_modify _ _ (User.key_write _ _)]
  · obtain ⟨user, huser, hcheck⟩ := Db.commit_update_refused hfits hcaller he
    rw [huser] at hrole husername hcontacts
    rw [herr]
    refine passes_exceptIntegrityError (Db.checkUser_mapped (huser ▸ hfits.1) hcheck ?_ ?_) happ
    · intro hchanged
      cases mapsUsername with
      | true => rfl
      | false =>
        have hsame : user.username = target.user.username := Option.some.inj (husername rfl)
        exact absurd (hchanged.symm.trans (changed_eq_false hsame)) (by decide)
    · intro hnotStudent hchanged
      cases mapsContacts with
      | true => rfl
      | false =>
        rcases hcontacts rfl with hstudent | ⟨hphone, hemail⟩
        · exact absurd (hrole.trans hstudent) hnotStudent
        · rcases hchanged with hchanged | hchanged
          · exact absurd (hchanged.symm.trans (changed_eq_false (Option.some.inj hphone)))
              (by decide)
          · exact absurd (hchanged.symm.trans (changed_eq_false (Option.some.inj hemail)))
              (by decide)

/-- The rule of a flush. -/
theorem passes_tryFlushUser {user : User} {f : Except DbError UserId → Service β} :
    Passes Stmt.Fits (exec env) (tryFlushUser user >>= f) Q w ↔
      (Stmt.flushUser user).Fits w ∧
        (∀ e, w.db.checkUser none { user with id := w.db.usersIdSeq } = some e →
          Passes Stmt.Fits (exec env) (f (.error e)) Q
            { w with db := { w.db with usersIdSeq := w.db.usersIdSeq + 1 } }) ∧
        (w.db.checkUser none { user with id := w.db.usersIdSeq } = none →
          Passes Stmt.Fits (exec env) (f (.ok w.db.usersIdSeq)) Q
            { w with db := { w.db with usersIdSeq := w.db.usersIdSeq + 1 } }) := by
  refine (passes_stmt (Stmt.flushUser user) _ w).trans (and_congr_right fun _ => ?_)
  change Passes Stmt.Fits (exec env) (f (exec env (.flushUser user) w).1) Q
    (exec env (.flushUser user) w).2 ↔ _
  rw [exec_flushUser_eq]
  cases w.db.checkUser none { user with id := w.db.usersIdSeq } with
  | none => exact ⟨fun h => ⟨fun _ he => (by cases he), fun _ => h⟩, fun h => h.2 rfl⟩
  | some e =>
    refine ⟨fun h => ⟨fun e' he => ?_, fun hnone => by cases hnone⟩, fun h => h.1 e rfl⟩
    cases he
    exact h

/-- A row that has just been written is there. -/
theorem passes_refresh' {Q : Except Exn User → World → Prop} {id : UserId} (hid : FitsId id)
    (hmem : id ∈ Keyed.keys w.db.users) (hQ : ∀ user, Q (.ok user) w) :
    Passes Stmt.Fits (exec env) (refresh id) Q w := by
  obtain ⟨user, huser⟩ := Option.isSome_iff_exists.mp ((Keyed.get?_isSome_iff _ _).mpr hmem)
  have hexec : exec env (.refresh id) w = (some user, w) := congrArg (·, w) huser
  exact (passes_stmt_eq hexec).mpr ⟨hid, trivial, hQ user⟩

/-- The same with what follows. -/
theorem passes_refresh {id : UserId} {f : User → Service β} (hid : FitsId id)
    (hmem : id ∈ Keyed.keys w.db.users)
    (hf : ∀ user, Passes Stmt.Fits (exec env) (f user) Q w) :
    Passes Stmt.Fits (exec env) (refresh id >>= f) Q w :=
  (passes_bind _ _ _).mpr (passes_refresh' hid hmem hf)

end Rules

end SmsLite
