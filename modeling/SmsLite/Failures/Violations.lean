import SmsLite.Columns.Users
import SmsLite.Concrete
import SmsLite.Failures.Atomicity

/-!
# The names in an error of the database

Five operations find out which unique index a flush has violated by looking for the names of the
indexes in the driver's message, one after the other.  The message quotes the value as well, and an
address may contain the name of another index.

## Main definitions

* `UniqueIndex` — the unique indexes of `users`, and the errors they stand for.
* `Db.ViolatesOnly` — a flushed row violates one index and nothing else.
* `Service.Names` — a program ends with the error of the index it violates.
* `Request.Violates` — a statement of the request flushes a row that violates an index.
* `World.respondAmong` — how a request ends when others are served at the same time.
* `Unmistakable` — the address does not name an index that is looked for first.

## Main results

* `pyIn_duplicateKey_iff` — where a name may stand in the driver's message.
* `names_commit_update`, `names_register` — the rules of the two kinds of commit.
* `violation_named_iff` — **the error raised is that of the violated index exactly if the address
  is unmistakable**.
* `email_named_phone` — an address that names the index of the phone numbers.
-/

/-- A text without the separator occurs on one side of it. -/
theorem List.infix_append_cons_iff {α : Type} {x : α} {needle : List α} (hx : x ∉ needle)
    (l r : List α) : needle <:+: l ++ x :: r ↔ needle <:+: l ∨ needle <:+: r := by
  constructor
  · intro h
    induction l with
    | nil =>
      rcases List.infix_cons_iff.mp h with hprefix | hpart
      · cases needle with
        | nil => exact Or.inl (List.nil_infix)
        | cons c needle =>
          obtain ⟨rfl, -⟩ := List.cons_prefix_cons.mp hprefix
          exact absurd List.mem_cons_self hx
      · exact Or.inr hpart
    | cons a l ih =>
      rcases List.infix_cons_iff.mp h with hprefix | hpart
      · have hl : a :: l <+: (a :: l) ++ x :: r := List.prefix_append _ _
        rcases List.prefix_or_prefix_of_prefix hprefix hl with hle | ⟨more, rfl⟩
        · exact Or.inl hle.isInfix
        · -- the needle goes on after `a :: l`, so with the separator or not at all
          cases more with
          | nil =>
            rw [List.append_nil]
            exact Or.inl (List.infix_refl _)
          | cons c more =>
            have hrest := (List.prefix_append_right_inj (a :: l)).mp hprefix
            obtain ⟨rfl, -⟩ := List.cons_prefix_cons.mp hrest
            exact absurd (List.mem_append_right _ List.mem_cons_self) hx
      · exact (ih hpart).imp_left List.infix_cons
  · rintro (h | h)
    · exact h.trans (List.prefix_append _ _).isInfix
    · exact h.trans ((List.suffix_cons x r).isInfix.trans (List.suffix_append _ _).isInfix)

namespace SmsLite

open Interleave
open Interleave.Prog (Meets among)

/-! ### The message -/

/-- The driver's message in the parts between its quotes and brackets. -/
theorem duplicateKey_toList (constraint column value : String) :
    (duplicateKey constraint column value).toList =
      "duplicate key value violates unique constraint ".toList ++ '"' :: (constraint.toList ++
        '"' :: ("\nDETAIL:  Key ".toList ++ '(' :: (column.toList ++ ')' :: ("=".toList ++
          '(' :: (value.toList ++ ')' :: " already exists.".toList))))) := by
  have hhead : "duplicate key value violates unique constraint \"".toList =
      "duplicate key value violates unique constraint ".toList ++ ['"'] := by decide +kernel
  have hdetail : "\"\nDETAIL:  Key (".toList = '"' :: ("\nDETAIL:  Key ".toList ++ ['(']) := by
    decide +kernel
  have hequals : ")=(".toList = ')' :: ("=".toList ++ ['(']) := by decide +kernel
  have htail : ") already exists.".toList = ')' :: " already exists.".toList := by decide +kernel
  unfold duplicateKey
  simp only [String.toList_append, hhead, hdetail, hequals, htail, List.append_assoc,
    List.cons_append, List.nil_append]

theorem infix_message_iff {needle : List Char} (hquote : '"' ∉ needle) (hopen : '(' ∉ needle)
    (hclose : ')' ∉ needle) (a b c d e f g : List Char) :
    needle <:+: a ++ '"' :: (b ++ '"' :: (c ++ '(' :: (d ++ ')' :: (e ++ '(' :: (f ++
      ')' :: g))))) ↔
      needle <:+: a ∨ needle <:+: b ∨ needle <:+: c ∨ needle <:+: d ∨ needle <:+: e ∨
        needle <:+: f ∨ needle <:+: g := by
  rw [List.infix_append_cons_iff hquote, List.infix_append_cons_iff hquote,
    List.infix_append_cons_iff hopen, List.infix_append_cons_iff hclose,
    List.infix_append_cons_iff hopen, List.infix_append_cons_iff hclose]

/-- **Where a name may stand in the driver's message.** -/
theorem pyIn_duplicateKey_iff {needle : String} (hquote : '"' ∉ needle.toList)
    (hopen : '(' ∉ needle.toList) (hclose : ')' ∉ needle.toList)
    (constraint column value : String) :
    pyIn needle (duplicateKey constraint column value) = true ↔
      pyIn needle "duplicate key value violates unique constraint " = true ∨
      pyIn needle constraint = true ∨ pyIn needle "\nDETAIL:  Key " = true ∨
      pyIn needle column = true ∨ pyIn needle "=" = true ∨ pyIn needle value = true ∨
      pyIn needle " already exists." = true := by
  unfold pyIn
  simp only [decide_eq_true_iff]
  rw [duplicateKey_toList]
  exact infix_message_iff hquote hopen hclose _ _ _ _ _ _ _

/-! ### Unique indexes -/

/-- The unique indexes of `users` that have an error of their own. -/
inductive UniqueIndex
  | username
  | phone
  | email
  deriving DecidableEq, Repr

namespace UniqueIndex

/-- The name that is looked for. -/
def name : UniqueIndex → String
  | username => "users_username_key"
  | phone => "uix_non_student_unique_phone"
  | email => "uix_non_student_unique_email"

/-- The column of the index. -/
def column : UniqueIndex → String
  | username => "username"
  | phone => "phone_number"
  | email => "email"

/-- The value of a row in the column. -/
def value : UniqueIndex → User → String
  | username, u => u.username
  | phone, u => u.phoneNumber
  | email, u => u.email

/-- The index has an entry for the row: `postgresql_where=text("role <> 'STUDENT'")`. -/
def covers : UniqueIndex → User → Bool
  | username, _ => true
  | phone, u | email, u => decide (u.role ≠ .student)

/-- The error of a violation. -/
def error : UniqueIndex → Exn
  | username => .app .usernameAlreadyTakenError HTTP409.username
  | phone => .app .duplicatePhoneNumberError HTTP409.duplicatePhoneNumber
  | email => .app .duplicateEmailError HTTP409.duplicateEmail

/-- The driver's message. -/
def message (i : UniqueIndex) (u : User) : String := duplicateKey i.name i.column (i.value u)

/-- A message contains the name of its own index. -/
theorem named_self (i : UniqueIndex) (u : User) : pyIn i.name (i.message u) = true := by
  have hname : pyIn i.name i.name = true := by cases i <;> decide +kernel
  have hiff : pyIn i.name (i.message u) = true ↔ _ :=
    pyIn_duplicateKey_iff (by cases i <;> decide) (by cases i <;> decide)
      (by cases i <;> decide) i.name i.column (i.value u)
  exact hiff.mpr (Or.inr (Or.inl hname))

/-- It contains the name of another index only in the value. -/
theorem named_iff {i j : UniqueIndex} (hne : j ≠ i) (u : User) :
    pyIn j.name (i.message u) = true ↔ pyIn j.name (i.value u) = true := by
  have hparts : pyIn j.name "duplicate key value violates unique constraint " = false ∧
      pyIn j.name i.name = false ∧ pyIn j.name "\nDETAIL:  Key " = false ∧
      pyIn j.name i.column = false ∧ pyIn j.name "=" = false ∧
      pyIn j.name " already exists." = false := by
    cases i <;> cases j <;> first | exact absurd rfl hne | decide +kernel
  obtain ⟨hhead, hname, hdetail, hcolumn, hequals, htail⟩ := hparts
  unfold message
  rw [pyIn_duplicateKey_iff (by cases j <;> decide) (by cases j <;> decide)
    (by cases j <;> decide), hhead, hname, hdetail, hcolumn, hequals, htail]
  simp

end UniqueIndex

/-- A text is set that is too long for its column. -/
def User.overlong (old : Option User) (new : User) : Bool :=
  tooLong old new 20 (some ·.username) || tooLong old new 50 (some ·.firstname) ||
    tooLong old new 50 (some ·.lastname) || tooLong old new 50 (·.middlename) ||
    tooLong old new 100 (·.address) || tooLong old new 25 (some ·.phoneNumber) ||
    tooLong old new 50 (some ·.email)

/-- The flushed row sets the column of the index to a value that another row has. -/
def Db.violates (db : Db) (old : Option User) (new : User) (i : UniqueIndex) : Bool :=
  i.covers new && changed old new i.value &&
    (db.others new).any fun v => i.covers v && decide (i.value v = i.value new)

/-- The row violates the index and nothing else. -/
structure Db.ViolatesOnly (db : Db) (old : Option User) (new : User) (i : UniqueIndex) : Prop where
  fits : User.overlong old new = false
  violates : ∀ j, db.violates old new j = true ↔ j = i

theorem Db.checkUser_eq (db : Db) (old : Option User) (new : User) :
    db.checkUser old new =
      if User.overlong old new then some (.data "value too long for type character varying")
      else if db.violates old new .username then
        some (.integrity (UniqueIndex.username.message new))
      else if db.violates old new .phone then some (.integrity (UniqueIndex.phone.message new))
      else if db.violates old new .email then some (.integrity (UniqueIndex.email.message new))
      else none := rfl

/-- The database names the index. -/
theorem Db.ViolatesOnly.checkUser {db : Db} {old : Option User} {new : User} {i : UniqueIndex}
    (h : db.ViolatesOnly old new i) :
    db.checkUser old new = some (.integrity (i.message new)) := by
  have hother : ∀ j, j ≠ i → db.violates old new j = false := by
    intro j hj
    exact Bool.eq_false_iff.mpr fun hv => hj ((h.violates j).mp hv)
  have hself : db.violates old new i = true := (h.violates i).mpr rfl
  rw [Db.checkUser_eq, h.fits, if_neg Bool.false_ne_true]
  cases i with
  | username => rw [if_pos hself]
  | phone =>
    rw [hother .username (by decide), if_neg Bool.false_ne_true, if_pos hself]
  | email =>
    rw [hother .username (by decide), if_neg Bool.false_ne_true, hother .phone (by decide),
      if_neg Bool.false_ne_true, if_pos hself]

section ViolatesOnly

variable {db : Db} {old : Option User} {new : User} {i : UniqueIndex}

theorem Db.ViolatesOnly.covers (h : db.ViolatesOnly old new i) : i.covers new = true := by
  have hself : db.violates old new i = true := (h.violates i).mpr rfl
  unfold Db.violates at hself
  rw [Bool.and_eq_true_iff, Bool.and_eq_true_iff] at hself
  exact hself.1.1

theorem Db.ViolatesOnly.changed (h : db.ViolatesOnly old new i) :
    changed old new i.value = true := by
  have hself : db.violates old new i = true := (h.violates i).mpr rfl
  unfold Db.violates at hself
  rw [Bool.and_eq_true_iff, Bool.and_eq_true_iff] at hself
  exact hself.1.2

/-- The indexes of the contacts have no entry for a student. -/
theorem Db.ViolatesOnly.not_student (h : db.ViolatesOnly old new i) (hi : i ≠ .username) :
    decide (new.role = .student) = false := by
  have hcovers := h.covers
  cases i with
  | username => exact absurd rfl hi
  | phone | email =>
    have hrole : new.role ≠ .student := of_decide_eq_true hcovers
    exact decide_eq_false hrole

/-- An update violates only the index of a column that it changes. -/
theorem Db.ViolatesOnly.ne_of_kept {loaded : User} (h : db.ViolatesOnly (some loaded) new i)
    {j : UniqueIndex} (hkept : j.value new = j.value loaded) : i ≠ j := by
  rintro rfl
  have hchanged := h.changed
  rw [changed_eq_false hkept] at hchanged
  cases hchanged

end ViolatesOnly

/-- No phone number contains the name of the index of the usernames. -/
theorem PhoneNumber.not_named (number : PhoneNumber) :
    pyIn UniqueIndex.username.name number.text = false := by
  rw [Bool.eq_false_iff]
  intro h
  have hpart : UniqueIndex.username.name.toList <:+: number.text.toList := of_decide_eq_true h
  have hu : 'u' ∈ UniqueIndex.username.name.toList := by decide +kernel
  rcases number.mem_text (hpart.subset hu) with hplus | hdigit
  · exact absurd hplus (by decide)
  · exact absurd hdigit (by decide)

/-! ### What the handlers make of it -/

/-- The address does not contain the name of an index that is looked for before its own. -/
def Unmistakable (mapsUsername : Bool) (email : Option String) (i : UniqueIndex) : Prop :=
  i = .email → ∀ text ∈ email,
    pyIn UniqueIndex.phone.name text = false ∧
      (mapsUsername = true → pyIn UniqueIndex.username.name text = false)

/-- What an `except` block raises for the driver's message. -/
def mappedError (mapsUsername mapsContacts : Bool) (orig : String) : Exn :=
  if mapsUsername && pyIn UniqueIndex.username.name orig then UniqueIndex.username.error
  else if mapsContacts && pyIn UniqueIndex.phone.name orig then UniqueIndex.phone.error
  else if mapsContacts && pyIn UniqueIndex.email.name orig then UniqueIndex.email.error
  else .integrityError orig

section Handlers

variable {W : Type} (execute : (s : Stmt) → W → s.Reply × W) (w : W) {α : Type}

theorem run_handleUsername (mapsUsername : Bool) (orig : String) (f : Unit → Service α) :
    (onlyIf mapsUsername (handleUsernameIntegrityError orig) >>= f).run execute w =
      if mapsUsername && pyIn UniqueIndex.username.name orig then
        (.error UniqueIndex.username.error, w)
      else (f ()).run execute w := by
  cases mapsUsername with
  | false => rfl
  | true =>
    unfold onlyIf handleUsernameIntegrityError
    by_cases hnamed : pyIn UniqueIndex.username.name orig = true
    · have hliteral : pyIn "users_username_key" orig = true := hnamed
      rw [if_pos rfl, if_pos hliteral, hnamed]
      rfl
    · have hliteral : ¬ pyIn "users_username_key" orig = true := hnamed
      rw [if_pos rfl, if_neg hliteral, Bool.true_and, if_neg hnamed]
      rfl

theorem run_handleContact (mapsContacts : Bool) (orig : String) (f : Unit → Service α) :
    (onlyIf mapsContacts (handleNonStudentUniqueContactError orig) >>= f).run execute w =
      if mapsContacts && pyIn UniqueIndex.phone.name orig then
        (.error UniqueIndex.phone.error, w)
      else if mapsContacts && pyIn UniqueIndex.email.name orig then
        (.error UniqueIndex.email.error, w)
      else (f ()).run execute w := by
  cases mapsContacts with
  | false => rfl
  | true =>
    unfold onlyIf handleNonStudentUniqueContactError
    rw [if_pos rfl, Bool.true_and, Bool.true_and]
    by_cases hphone : pyIn UniqueIndex.phone.name orig = true
    · have hliteral : pyIn "uix_non_student_unique_phone" orig = true := hphone
      rw [if_pos hliteral, if_pos hphone]
      rfl
    · have hliteral : ¬ pyIn "uix_non_student_unique_phone" orig = true := hphone
      rw [if_neg hliteral, if_neg hphone]
      by_cases hemail : pyIn UniqueIndex.email.name orig = true
      · have hliteral : pyIn "uix_non_student_unique_email" orig = true := hemail
        rw [if_pos hliteral, if_pos hemail]
        rfl
      · have hliteral : ¬ pyIn "uix_non_student_unique_email" orig = true := hemail
        rw [if_neg hliteral, if_neg hemail]
        rfl

/-- Whatever happens at the rollback. -/
theorem run_exceptIntegrityError (mapsUsername mapsContacts : Bool) (orig : String) :
    ((exceptIntegrityError mapsUsername mapsContacts (.integrity orig) : Service α).run
      execute w).1 = .error (mappedError mapsUsername mapsContacts orig) := by
  have hrollback : ∀ p : Service α, (rollback >>= fun _ => p).run execute w =
      p.run execute (execute .rollback w).2 := fun _ => rfl
  simp only [exceptIntegrityError, mappedError]
  rw [hrollback, run_handleUsername, run_handleContact]
  split
  · rfl
  · split
    · rfl
    · split <;> rfl

end Handlers

/-- What the operation knows of a row that it flushes and that violates the index. -/
structure Flushed (mapsUsername mapsContacts : Bool) (email : Option String) (new : User)
    (i : UniqueIndex) : Prop where
  username_mapped : i = .username → mapsUsername = true
  contacts_mapped : i ≠ .username → mapsContacts = true
  phone : i = .phone → mapsUsername = true →
    pyIn UniqueIndex.username.name new.phoneNumber = false
  email : i = .email → email = some new.email

/-- An operation that keeps the username and the role, and looks for the indexes of the contacts
unless the user is a student. -/
theorem Flushed.of_kept {db : Db} {loaded new : User} {i : UniqueIndex} {email : Option String}
    (h : db.ViolatesOnly (some loaded) new i) (husername : new.username = loaded.username)
    (hrole : new.role = loaded.role) (hemail : i = .email → email = some new.email) :
    Flushed false (!decide (loaded.role = .student)) email new i where
  username_mapped heq := absurd heq (h.ne_of_kept (j := .username) husername)
  contacts_mapped hi := by
    rw [← hrole, h.not_student hi]
    rfl
  phone _ hmaps := absurd hmaps (by simp)
  email := hemail

theorem Flushed.mappedError_eq_iff {mapsUsername mapsContacts : Bool} {email : Option String}
    {new : User} {i : UniqueIndex} (h : Flushed mapsUsername mapsContacts email new i) :
    mappedError mapsUsername mapsContacts (i.message new) = i.error ↔
      Unmistakable mapsUsername email i := by
  unfold mappedError
  cases i with
  | username =>
    rw [h.username_mapped rfl, UniqueIndex.named_self, Bool.and_self, if_pos rfl]
    exact iff_of_true rfl (by intro h; cases h)
  | phone =>
    have hskip : (mapsUsername && pyIn UniqueIndex.username.name (UniqueIndex.phone.message new)) =
        false := by
      rw [Bool.and_eq_false_iff]
      cases hmaps : mapsUsername with
      | false => exact Or.inl rfl
      | true =>
        right
        rw [Bool.eq_false_iff, Ne, UniqueIndex.named_iff (by decide)]
        exact Bool.eq_false_iff.mp (h.phone rfl hmaps)
    rw [hskip, if_neg Bool.false_ne_true, h.contacts_mapped (by decide), UniqueIndex.named_self,
      Bool.and_self, if_pos rfl]
    exact iff_of_true rfl (by intro h; cases h)
  | email =>
    have hnamed : ∀ j, j ≠ UniqueIndex.email →
        pyIn j.name (UniqueIndex.email.message new) = pyIn j.name new.email := by
      intro j hj
      exact Bool.eq_iff_iff.mpr (UniqueIndex.named_iff hj new)
    rw [h.contacts_mapped (by decide), hnamed .username (by decide), hnamed .phone (by decide),
      UniqueIndex.named_self]
    have hunmistakable : Unmistakable mapsUsername email .email ↔
        pyIn UniqueIndex.phone.name new.email = false ∧
          (mapsUsername = true → pyIn UniqueIndex.username.name new.email = false) := by
      unfold Unmistakable
      rw [h.email rfl]
      simp
    rw [hunmistakable]
    cases mapsUsername <;> cases pyIn UniqueIndex.username.name new.email <;>
      cases pyIn UniqueIndex.phone.name new.email <;> simp [UniqueIndex.error]

/-! ### Statements -/

/-- The statement flushes a row that violates the index and nothing else. -/
def Stmt.ViolatesOnly (i : UniqueIndex) : Stmt → Db → Prop
  | .flushUser user, db => db.ViolatesOnly none { user with id := db.usersIdSeq } i
  | .commit (.update loaded current _), db =>
    ∃ user, current.user.toRow = .ok user ∧ db.ViolatesOnly (some loaded.user) user i
  | .commit (.register user _ _ _ _), db =>
    user.id ∉ Keyed.keys db.users ∧ db.ViolatesOnly none user i
  | _, _ => False

/-- The statement flushes no such row. -/
abbrev Stmt.Inert (s : Stmt) : Prop := ∀ i db, ¬ s.ViolatesOnly i db

/-- If the statement violates one index only, the result is the error of that index exactly if the
address is unmistakable. -/
def Named {α : Type} (mapsUsername : Bool) (email : Option String) (s : Stmt) (w : World × ℕ)
    (out : Except Exn α) : Prop :=
  ∀ i, s.ViolatesOnly i w.1.db → (out = .error i.error ↔ Unmistakable mapsUsername email i)

section Rules

variable {env : Env} {others : ℕ → World → World} {w : World × ℕ} {α β : Type}
  {mapsUsername mapsContacts : Bool} {email : Option String}

theorem named_of_inert {s : Stmt} (hs : s.Inert) (w : World × ℕ) (out : Except Exn α) :
    Named mapsUsername email s w out := fun i h => absurd h (hs i w.1.db)

/-- The program violates nothing, or ends with the error of what it violates. -/
abbrev Service.Names (env : Env) (others : ℕ → World → World) (mapsUsername : Bool)
    (email : Option String) (p : Service α) (w : World × ℕ) : Prop :=
  Meets (among (exec env) others) p (Named mapsUsername email) w

theorem names_bind {p : Service α} {f : α → Service β} (hp : OnlyIssues Stmt.Inert p)
    (hf : ∀ a w', (f a).Names env others mapsUsername email w') :
    (p >>= f).Names env others mapsUsername email w :=
  Meets.issues_bind hp (fun _ hs => named_of_inert hs) fun a w' _ => hf a w'

theorem names_of_issues {p : Service α} (hp : OnlyIssues Stmt.Inert p) :
    p.Names env others mapsUsername email w :=
  Prog.Issues.meets hp (fun _ hs => named_of_inert hs) w

/-- The violation of an index is mapped. -/
theorem named_exceptIntegrityError {new : User} {i : UniqueIndex}
    (h : Flushed mapsUsername mapsContacts email new i) :
    ((exceptIntegrityError mapsUsername mapsContacts (.integrity (i.message new)) :
        Service α).run (among (exec env) others) w).1 = .error i.error ↔
      Unmistakable mapsUsername email i := by
  rw [run_exceptIntegrityError, Except.error.injEq]
  exact h.mappedError_eq_iff

theorem names_exceptIntegrityError (e : DbError) :
    (exceptIntegrityError mapsUsername mapsContacts e : Service α).Names env others mapsUsername
      email w :=
  names_of_issues (issues_exceptIntegrityError (fun _ _ h => h) mapsUsername mapsContacts e)

/-- The rule of a commit, whose error is mapped. -/
theorem names_tryCommit {work : UnitOfWork} {f : Except DbError Unit → Service β}
    (hviolated : ∀ i, (Stmt.commit work).ViolatesOnly i w.1.db → ∃ new,
      w.1.db.commit w.1.clock work = .error (.integrity (i.message new)) ∧
        Flushed mapsUsername mapsContacts email new i)
    (herr : ∀ e, f (.error e) = exceptIntegrityError mapsUsername mapsContacts e)
    (hok : OnlyIssues Stmt.Inert (f (.ok ()))) :
    (tryCommit work >>= f).Names env others mapsUsername email w := by
  refine Prog.meets_call.mpr ⟨fun i hi => ?_, ?_⟩
  · obtain ⟨new, hcommit, hflushed⟩ := hviolated i hi
    have hreply : (among (exec env) others (.commit work) w).1 =
        .error (.integrity (i.message new)) := congrArg Prod.fst (exec_commit_error hcommit)
    rw [hreply, herr]
    exact named_exceptIntegrityError hflushed
  · generalize among (exec env) others (.commit work) w = committed
    obtain ⟨reply, w'⟩ := committed
    cases reply with
    | ok _ => exact names_of_issues hok
    | error e =>
      dsimp only
      rw [herr]
      exact names_exceptIntegrityError e

/-- **The rule of a commit of a loaded user.** -/
theorem names_commit_update {loaded : Loaded} {current : Dirty} {emails : List NewPendingEmail}
    {f : Except DbError Unit → Service β}
    (hflushed : ∀ user i, user.draft = current.user →
      w.1.db.ViolatesOnly (some loaded.user) user i →
        Flushed mapsUsername mapsContacts email user i)
    (herr : ∀ e, f (.error e) = exceptIntegrityError mapsUsername mapsContacts e)
    (hok : OnlyIssues Stmt.Inert (f (.ok ()))) :
    (tryCommit (.update loaded current emails) >>= f).Names env others mapsUsername email w := by
  refine names_tryCommit ?_ herr hok
  rintro i ⟨user, hrow, hviolates⟩
  refine ⟨user, ?_, hflushed user i (UserDraft.draft_of_toRow hrow) hviolates⟩
  unfold Db.commit
  simp only [hrow, hviolates.checkUser]

/-- **The rule of a registration**: another request may have taken the values between the flush
and the commit. -/
theorem names_register (user : UserId → User) {f : Except DbError UserId → Service β}
    {activation : UserId → UserActivation} {session : UserId → UserSession}
    {loginLockout : UserId → UserLoginLockout} {mail : UserId → NewPendingEmail}
    {g : UserId → Except DbError Unit → Service β}
    (hid : ∀ id, { user 0 with id := id } = user id)
    (hflushed : ∀ (db : Db) id i, db.ViolatesOnly none (user id) i →
      Flushed mapsUsername mapsContacts email (user id) i)
    (hf : ∀ id, f (.ok id) = tryCommit (.register (user id) (activation id) (session id)
      (loginLockout id) (mail id)) >>= g id)
    (hferr : ∀ e, f (.error e) = exceptIntegrityError mapsUsername mapsContacts e)
    (hgerr : ∀ id e, g id (.error e) = exceptIntegrityError mapsUsername mapsContacts e)
    (hok : ∀ id, OnlyIssues Stmt.Inert (g id (.ok ()))) :
    (tryFlushUser (user 0) >>= f).Names env others mapsUsername email w := by
  refine Prog.meets_call.mpr ⟨fun i hviolates => ?_, ?_⟩
  · change w.1.db.ViolatesOnly none { user 0 with id := w.1.db.usersIdSeq } i at hviolates
    have hreply : (among (exec env) others (.flushUser (user 0)) w).1 =
        .error (.integrity (i.message (user w.1.db.usersIdSeq))) := by
      change (exec env (.flushUser (user 0)) w.1).1 = _
      rw [exec_flushUser_eq, hviolates.checkUser, hid]
    rw [hid] at hviolates
    rw [hreply, hferr]
    exact named_exceptIntegrityError (hflushed _ _ i hviolates)
  · generalize among (exec env) others (.flushUser (user 0)) w = flushed
    obtain ⟨reply, w'⟩ := flushed
    cases reply with
    | error e =>
      dsimp only
      rw [hferr]
      exact names_exceptIntegrityError e
    | ok id =>
      dsimp only
      rw [hf]
      refine names_tryCommit ?_ (hgerr id) (hok id)
      rintro i ⟨hfresh, hviolates⟩
      refine ⟨user id, ?_, hflushed _ id i hviolates⟩
      unfold Db.commit
      simp only [if_neg hfresh, hviolates.checkUser]

/-- The rule of a required user. -/
theorem names_requireUserById {id : UserId} {q : UserQuery} {e : Exn} {f : Loaded → Service β}
    (hf : ∀ user w', w.1.db.selectUserById id q = some user →
      (f user).Names env others mapsUsername email w') :
    (getUserById id q >>= fun user => ensureExists user e >>= f).Names env others mapsUsername
      email w := by
  refine Prog.meets_call.mpr
    ⟨named_of_inert (s := .selectUserById id q) (fun _ _ h => h) w _, ?_⟩
  change (ensureExists (w.1.db.selectUserById id q) e >>= f).Names env others mapsUsername email _
  cases hfound : w.1.db.selectUserById id q with
  | none => exact Prog.meets_raise e
  | some user => exact hf user _ hfound

theorem names_deref {name : String} {obj : Option α} {f : α → Service β}
    (hf : ∀ a, obj = some a → (f a).Names env others mapsUsername email w) :
    (deref name obj >>= f).Names env others mapsUsername email w := by
  cases obj with
  | none => exact Prog.meets_raise _
  | some a => exact hf a rfl

/-- An update that changes something goes on with the assigned object. -/
theorem names_updateObject {instance_ assigned : UserDraft} {f : UserDraft → Service β}
    (hf : (f assigned).Names env others mapsUsername email w) :
    (updateObject instance_ assigned >>= f).Names env others mapsUsername email w := by
  unfold updateObject
  split
  · exact Prog.meets_raise _
  · exact hf

theorem names_checkStudentContact {applies : Bool} {phoneNumber address : Option String}
    {exclude : UserId} {f : Unit → Service β}
    (hf : ∀ w', (f ()).Names env others mapsUsername email w') :
    (checkStudentContact env applies phoneNumber address exclude >>= f).Names env others
      mapsUsername email w :=
  names_bind (issues_checkStudentContact (A := Stmt.Inert) (fun _ _ _ h => h)
    (fun _ _ _ _ _ h => h) _ _ _ _) fun _ w' => hf w'

theorem names_ite {b : Prop} [Decidable b] {p q : Service α}
    (hthen : b → p.Names env others mapsUsername email w)
    (helse : ¬ b → q.Names env others mapsUsername email w) :
    (if b then p else q : Service α).Names env others mapsUsername email w := by
  by_cases h : b
  · rw [if_pos h]
    exact hthen h
  · rw [if_neg h]
    exact helse h

end Rules

/-! ### The operations -/

section Operations

variable (env : Env) (others : ℕ → World → World) (w : World × ℕ)

theorem registerUser_names (currentUserId : UserId) (r : CreateUserRequest) :
    (registerUser env currentUserId r).Names env others true (some r.base.email.text) w := by
  unfold registerUser
  have hlock : OnlyIssues Stmt.Inert (onlyIf r.isStudent
      (acquireStudentContactLock env (some r.base.phoneNumber.text) (some r.base.email.text))) :=
    issues_onlyIf ((issues_acquireLockFor (fun _ _ _ h => h) _).bind fun _ =>
      issues_acquireLockFor (fun _ _ _ h => h) _)
  refine names_bind hlock fun _ w₁ => ?_
  refine names_bind (issues_checkContactLimit (fun _ _ _ h => h) _ _ _) fun _ w₂ => ?_
  refine names_bind (Prog.issues_call fun _ _ h => h) fun rawInviteToken w₃ => ?_
  refine names_bind (Prog.issues_call fun _ _ h => h) fun now w₄ => ?_
  refine names_register (r.newUser currentUserId) (fun _ => rfl)
    (fun db id i hviolates => ?_) (fun _ => rfl) (fun _ => rfl) (fun _ _ => rfl)
    fun _ => issues_refresh fun _ _ h => h
  exact
    { username_mapped := fun _ => rfl
      contacts_mapped := by
        intro hi
        have hstudent : r.isStudent = false := hviolates.not_student hi
        rw [hstudent]
        rfl
      phone := fun _ _ => r.base.phoneNumber.not_named
      email := fun _ => rfl }

theorem updateUser_names (targetUserId : UserId) (r : UpdateUserRequest) :
    (updateUser env targetUserId r).Names env others false none w := by
  unfold updateUser
  refine names_requireUserById fun target w' hfound => ?_
  refine names_ite (fun _ => Prog.meets_raise _) fun _ => ?_
  refine names_checkStudentContact fun w' => ?_
  refine names_updateObject ?_
  refine names_commit_update (fun user i hdraft hviolates => ?_) (fun _ => rfl) ?_
  · obtain ⟨-, husername, hemail, -, hrole, -, -⟩ := Account.assign_eq hdraft
    exact .of_kept hviolates husername hrole fun h =>
      absurd h (hviolates.ne_of_kept (j := .email) hemail)
  · refine (issues_refresh fun _ _ h => h).bind fun refreshed => ?_
    exact (Prog.issues_call fun _ _ h => h).bind fun _ => Prog.issues_call fun _ _ h => h

/-- What the request sends for the email is what the flush stores, if it sets the column. -/
theorem UpdateUserCredentials.flushed {r : UpdateUserCredentials} {db : Db} {loaded new : User}
    {i : UniqueIndex} (hdraft : new.draft = r.assign loaded.draft)
    (h : db.ViolatesOnly (some loaded) new i) :
    Flushed true (!decide (loaded.role = .student)) (r.email.value?.map (·.text)) new i := by
  obtain ⟨-, -, hrole, -, -⟩ := Account.assign_credentials_eq hdraft
  have hphone : new.phoneNumber = loaded.phoneNumber :=
    Option.some.inj (congrArg UserColumns.phoneNumber hdraft)
  have hemail : some new.email = (r.email.map (·.text)).assign (some loaded.email) :=
    congrArg UserColumns.email hdraft
  have hi : i ≠ .phone := h.ne_of_kept (j := .phone) hphone
  exact
    { username_mapped := fun _ => rfl
      contacts_mapped := by
        intro hi
        rw [← hrole, h.not_student hi]
        rfl
      phone := fun heq => absurd heq hi
      email := by
        intro heq
        cases hsent : r.email with
        | unset =>
          rw [hsent] at hemail
          exact absurd heq (h.ne_of_kept (j := .email) (Option.some.inj hemail))
        | null =>
          rw [hsent] at hemail
          cases hemail
        | set a =>
          rw [hsent] at hemail
          exact hemail.symm }

theorem updateUserCredentials_names (currentUserId targetUserId : UserId)
    (r : UpdateUserCredentials) :
    (updateUserCredentials env currentUserId targetUserId r).Names env others true
      (r.email.value?.map (·.text)) w := by
  unfold updateUserCredentials
  refine names_requireUserById fun target w₁ hfound => ?_
  refine names_checkStudentContact fun w₂ => ?_
  refine names_updateObject ?_
  refine names_deref fun session hsession => ?_
  have hok : OnlyIssues Stmt.Inert
      (deleteCache (.accessTokenVersionKey targetUserId :: userDetailKeys targetUserId)) :=
    Prog.issues_call fun _ _ h => h
  dsimp only
  refine names_ite (fun _ => ?_) fun _ => ?_
  · refine names_bind (issues_reissueInvite (fun _ _ h => h) (fun _ _ h => h) _ _ _ _)
      fun invite w₃ => ?_
    exact names_commit_update (fun _ _ => UpdateUserCredentials.flushed) (fun _ => rfl) hok
  · exact names_commit_update (fun _ _ => UpdateUserCredentials.flushed) (fun _ => rfl) hok

theorem updateMeCredentials_names (currentUserId : UserId) (r : UpdateUserCredentials) :
    (updateMeCredentials env currentUserId r).Names env others true none w := by
  unfold updateMeCredentials
  refine names_requireUserById fun target w' hfound => ?_
  refine names_ite (fun _ => Prog.meets_raise _) fun _ => ?_
  refine names_deref fun session hsession => ?_
  refine names_bind (Prog.issues_call fun _ _ h => h) fun now w₁ => ?_
  refine names_ite (fun _ => Prog.meets_raise _) fun _ => ?_
  have hcode : OnlyIssues Stmt.Inert (generateEmailChangeCode (r.newEmail target.user)) := by
    unfold generateEmailChangeCode
    split
    · exact issues_pure _
    · refine (Prog.issues_call fun _ _ h => h).bind fun drawn => ?_
      exact (Prog.issues_call fun _ _ h => h).bind fun now => issues_pure _
  refine names_bind hcode fun change w₂ => ?_
  unfold commitMyCredentials
  refine names_commit_update (fun user i hdraft hviolates => ?_) (fun _ => rfl) ?_
  · have hphone : user.phoneNumber = target.user.phoneNumber :=
      Option.some.inj (congrArg UserColumns.phoneNumber hdraft)
    have hemail : user.email = target.user.email :=
      Option.some.inj (congrArg UserColumns.email hdraft)
    have hi : i = .username := by
      have hphone : i ≠ .phone := hviolates.ne_of_kept (j := .phone) hphone
      have hemail : i ≠ .email := hviolates.ne_of_kept (j := .email) hemail
      cases i with
      | username => rfl
      | phone => exact absurd rfl hphone
      | email => exact absurd rfl hemail
    subst hi
    exact
      { username_mapped := fun _ => rfl
        contacts_mapped := fun h => absurd rfl h
        phone := by intro h; cases h
        email := by intro h; cases h }
  · refine (issues_refresh fun _ _ h => h).bind fun _ => ?_
    have hsend : OnlyIssues Stmt.Inert (sendEmailChangeCode change) := by
      cases change with
      | none => exact issues_pure _
      | some change => exact Prog.issues_call fun _ _ h => h
    refine hsend.bind fun _ => ?_
    refine (Prog.issues_call fun _ _ h => h).bind fun _ => ?_
    exact issues_onlyIf (Prog.issues_call fun _ _ h => h)

/-- The address that waits for its confirmation. -/
def Db.pendingNewEmail? (db : Db) (id : UserId) : Option String :=
  (Keyed.get? db.sessions id).bind fun session => session.pendingNewEmail.map (·.text)

theorem confirmEmailChange_names (currentUserId : UserId) (r : ConfirmEmailChange) :
    (confirmEmailChange env currentUserId r).Names env others false
      (w.1.db.pendingNewEmail? currentUserId) w := by
  unfold confirmEmailChange
  refine names_requireUserById fun target w' hfound => ?_
  refine names_deref fun session hsession => ?_
  split
  · next newEmail emailChangeCodeHash hpending _ =>
    have hemail : w.1.db.pendingNewEmail? currentUserId = some newEmail.text := by
      obtain ⟨u, hu, rfl⟩ := Option.map_eq_some_iff.mp hfound
      obtain ⟨hget, -⟩ := Option.filter_eq_some_iff.mp hu
      have hstored : Keyed.get? w.1.db.sessions u.id = some session := hsession
      have hid : u.id = currentUserId := Keyed.key_of_get? hget
      unfold Db.pendingNewEmail?
      rw [← hid, hstored, Option.bind_some, hpending]
      rfl
    rw [hemail]
    refine names_bind (Prog.issues_call fun _ _ h => h) fun now w₁ => ?_
    split
    · exact Prog.meets_raise _
    · refine names_ite (fun _ => Prog.meets_raise _) fun _ => ?_
      refine names_bind (issues_ofExcept _) fun valid w₂ => ?_
      refine names_ite (fun _ => Prog.meets_raise _) fun _ => ?_
      refine names_checkStudentContact fun w₃ => ?_
      refine names_commit_update (fun user i hdraft hviolates => ?_) (fun _ => rfl) ?_
      · have husername : user.username = target.user.username :=
          Option.some.inj (congrArg UserColumns.username hdraft)
        have hnew : user.email = newEmail.text :=
          Option.some.inj (congrArg UserColumns.email hdraft)
        have hrole : user.role = target.user.role :=
          congrArg (fun d : UserDraft => d.role) hdraft
        exact .of_kept hviolates husername hrole fun _ => congrArg some hnew.symm
      · refine (issues_refresh fun _ _ h => h).bind fun refreshed => ?_
        exact (Prog.issues_call fun _ _ h => h).bind fun _ => Prog.issues_call fun _ _ h => h
  · exact Prog.meets_raise _

end Operations

/-! ### Requests -/

namespace Request

/-- `register_user`, `update_user`, `update_user_credentials`, `update_me_credentials` and
`confirm_email_change`. -/
def mapsErrors : Request → Bool
  | registerUser _ _ | updateUser _ _ | updateUserCredentials _ _ _ | updateMeCredentials _ _
  | confirmEmailChange _ _ => true
  | _ => false

/-- The operation looks for the index of the usernames. -/
def mapsUsername : Request → Bool
  | registerUser _ _ | updateUserCredentials _ _ _ | updateMeCredentials _ _ => true
  | _ => false

/-- The address that the operation stores. -/
def newEmail? (db : Db) : Request → Option String
  | registerUser _ r => some r.base.email.text
  | updateUserCredentials _ _ r => r.email.value?.map (·.text)
  | confirmEmailChange id _ => db.pendingNewEmail? id
  | _ => none

/-- A statement of the request flushes a row that violates the index and nothing else. -/
def Violates (env : Env) (others : ℕ → World → World) (w : World) (i : UniqueIndex)
    (r : Request) : Prop :=
  ∃ s w', (s, w') ∈ (r.service env).steps (among (exec env) others) (w, 0) ∧
    s.ViolatesOnly i w'.1.db

end Request

/-- How the request ends when others are served at the same time. -/
def World.respondAmong (env : Env) (others : ℕ → World → World) (w : World) (r : Request) :
    Outcome := ((r.service env).run (among (exec env) others) (w, 0)).1

/-- When no other request is served, that is how the request ends on its own. -/
theorem World.respondAmong_id (env : Env) (w : World) (r : Request) :
    w.respondAmong env (fun _ => id) r = w.respond env r :=
  Prog.run_among_id (exec env) (r.service env) (w, 0)

/-- **The error raised is that of the violated index exactly if the address is unmistakable**,
whatever the others do. -/
theorem violation_named_iff (env : Env) (others : ℕ → World → World) (w : World) (r : Request)
    (hr : r.mapsErrors = true) (i : UniqueIndex) (h : r.Violates env others w i) :
    w.respondAmong env others r = .error i.error ↔
      Unmistakable r.mapsUsername (r.newEmail? w.db) i := by
  obtain ⟨s, w', hmem, hviolates⟩ := h
  have hmap : ∀ {α : Type} (f : α → Response) (p : Service α), r.service env = f <$> p →
      p.Names env others r.mapsUsername (r.newEmail? w.db) (w, 0) →
      (w.respondAmong env others r = .error i.error ↔
        Unmistakable r.mapsUsername (r.newEmail? w.db) i) := by
    intro α f p hservice hnames
    have hnamed : (f <$> p).Names env others r.mapsUsername (r.newEmail? w.db) (w, 0) := by
      refine (Prog.meets_map f p).mpr (hnames.mono fun s w' out hout i hi => ?_)
      refine Iff.trans ?_ (hout i hi)
      cases out with
      | ok a => exact iff_of_false (by intro h; cases h) (by intro h; cases h)
      | error e =>
        constructor
        · intro h
          exact congrArg Except.error (Except.error.inj h)
        · intro h
          exact congrArg Except.error (Except.error.inj h)
    rw [← hservice] at hnamed
    exact hnamed s w' hmem i hviolates
  cases r with
  | registerUser id r => exact hmap _ _ rfl (registerUser_names env others _ id r)
  | updateUser id r => exact hmap _ _ rfl (updateUser_names env others _ id r)
  | updateUserCredentials id target r =>
    exact hmap _ _ rfl (updateUserCredentials_names env others _ id target r)
  | updateMeCredentials id r => exact hmap _ _ rfl (updateMeCredentials_names env others _ id r)
  | confirmEmailChange id r => exact hmap _ _ rfl (confirmEmailChange_names env others _ id r)
  | _ => cases hr

/-! ### A school with a misleading address -/

/-- Ada teaches there. -/
def seededTeacher : User := seededUser 2 "lovelace" .teacher "+992917000002" "ada@school.org"

/-- The address of the administrator contains the name of the index of the phone numbers. -/
def World.misleading : World :=
  { World.concrete with
    db :=
      { World.concrete.db with
        users :=
          [seededUser 1 "principal" .systemAdmin "+992917000001"
            "uix_non_student_unique_phone@school.org", seededTeacher] } }

/-- The administrator gives the teacher a username that is taken. -/
def overrideUsername : Request :=
  .updateUserCredentials 1 2 { username := .set "principal", email := .unset }

/-- The administrator gives the teacher an address that is taken. -/
def overrideEmail : Request :=
  .updateUserCredentials 1 2
    { username := .unset
      email := .set ⟨"uix_non_student_unique_phone@school.org", by decide +kernel⟩ }

/-- A username that is taken is named. -/
theorem violation_named_overrideUsername :
    overrideUsername.Violates .concrete (fun _ => id) World.misleading .username ∧
      World.misleading.respondAmong .concrete (fun _ => id) overrideUsername =
        .error UniqueIndex.username.error := by
  have hviolates : overrideUsername.Violates .concrete (fun _ => id) World.misleading .username :=
    ⟨_, _, List.mem_cons_of_mem _ List.mem_cons_self, _, rfl, by decide +kernel, by
      intro j
      cases j <;> decide +kernel⟩
  refine ⟨hviolates, (violation_named_iff _ _ _ _ rfl _ hviolates).mpr ?_⟩
  intro h
  cases h

/-- **An address that names the index of the phone numbers**: the error is that of a phone
number, although the request sends none. -/
theorem email_named_phone :
    overrideEmail.Violates .concrete (fun _ => id) World.misleading .email ∧
      World.misleading.respondAmong .concrete (fun _ => id) overrideEmail =
        .error UniqueIndex.phone.error ∧
      UniqueIndex.phone.error ≠ UniqueIndex.email.error := by
  have honly : ∀ j, World.misleading.db.violates
      (some seededTeacher)
      { seededTeacher with email := "uix_non_student_unique_phone@school.org" } j = true ↔
        j = .email := by
    intro j
    cases j <;> decide +kernel
  refine ⟨⟨_, _, List.mem_cons_of_mem _ List.mem_cons_self, _, rfl, by decide +kernel, honly⟩,
    (World.respondAmong_id _ _ _).trans (by decide +kernel), by decide⟩

end SmsLite
