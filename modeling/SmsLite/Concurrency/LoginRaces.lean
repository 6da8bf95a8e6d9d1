import SmsLite.Concurrency.Pools
import SmsLite.Concrete
import SmsLite.Refinement.System
import Mathlib.Data.Fintype.Card

/-!
# Races for the failed login counter

`login` reads the lockout row, verifies the password in a thread pool, and stores the number
it has read plus one.  Two logins that read the same number store the same one, and a wrong
password goes uncounted.  So does one that passlib refuses: the login ends in its
`ValueError`, before it comes to the counter.

## Main definitions

* `Guess`, `guessing` — what a login with a wrong password sees and does, and its protocol.
* `World.guesses` — the typestates of such logins after a schedule.
* `CountsOn` — a login commits only over the number it has read, and passlib does not raise.
* `AttemptsCount` — every wrong password is counted, and the fifth locks.

## Main results

* `login_follows` — `login` keeps to the protocol.
* `tally_inductive` — the counter never runs ahead of the wrong passwords, and once behind it
  stays behind.
* `attemptsCount_iff` — **every wrong password is counted exactly when every login commits
  over the number it has read and passlib never raises**, and `attempt_lost`: otherwise one is
  lost.
-/

namespace SmsLite

open Interleave
open Interleave.Prog (Follows follows_call)

/-! ### A login with a wrong password -/

/-- What a login has seen and done. -/
structure Guess where
  /-- The objects its query loaded. -/
  loaded : Option Loaded := none
  /-- Its password has been verified. -/
  verified : Bool := false
  /-- The time it took after the verification. -/
  noted : Option Time := none
  /-- Its wrong password is due in the row: it has committed, or passlib has raised. -/
  due : Bool := false
  deriving DecidableEq, Repr

/-- One more wrong password in the lockout row. -/
def UserLoginLockout.failed (now : Time) (l : UserLoginLockout) : UserLoginLockout :=
  { l with
    failedLoginAttempts := l.failedLoginAttempts + 1
    lockedUntil :=
      if maxFailedAttempts ≤ l.failedLoginAttempts + 1 then some (now + Time.minutes lockoutMinutes)
      else l.lockedUntil }

/-- The number is always among the changed columns. -/
theorem UserLoginLockout.failed_written (now : Time) (lockout row : UserLoginLockout) :
    (UserLoginLockout.write lockout (lockout.failed now) row).failedLoginAttempts =
      lockout.failedLoginAttempts + 1 :=
  written_of_ne _ (Nat.succ_ne_self _)

namespace Guess

/-- The typestate after the reply to a statement. -/
def next (c : Guess) : (s : Stmt) → s.Reply → Guess
  | .selectUserByUsername _ _, reply => { c with loaded := reply }
  | .verifyPassword _ _, .ok _ => { c with verified := true }
  | .verifyPassword _ _, .error _ => { c with verified := true, due := true }
  | .now, (now : Time) => if c.verified then { c with noted := some now } else c
  | .commit _, .ok () => { c with due := true }
  | _, _ => c

/-- The lockout row it has read and is still to write. -/
def reading (c : Guess) : Option UserLoginLockout :=
  if c.due then none else c.loaded.bind (·.loginLockout)

/-- What it commits: the row it has read, with one more wrong password. -/
def work (l : Loaded) (lockout : UserLoginLockout) (now : Time) : UnitOfWork :=
  .update l { l.dirty with loginLockout := some (lockout.failed now) } []

/-- The statements it may issue, if it is about `user` and its password is not the right one. -/
def allowed (env : Env) (w : World) (user : User) (c : Guess) : Stmt → Prop
  | .selectUserByUsername username q =>
    c.due = false ∧ c.noted = none ∧ q.loadLoginLockout = true ∧
      w.db.users.find? (fun v => v.username = username) = some user
  | .now => c.due = false
  | .verifyPassword plain hashed =>
    c.due = false ∧ env.verifyPassword plain hashed ≠ .ok true
  | .commit work =>
    c.due = false ∧ ∃ l lockout now, c.loaded = some l ∧ l.user = user ∧
      l.loginLockout = some lockout ∧ c.noted = some now ∧ work = Guess.work l lockout now
  | _ => False

/-- The replies it relies on. -/
def replies (env : Env) (user : User) : (s : Stmt) → s.Reply → Prop
  | .selectUserByUsername _ _, reply =>
    ∃ l lockout, reply = some l ∧ l.user = user ∧ l.loginLockout = some lockout
  | .verifyPassword plain hashed, reply => reply = env.verifyPassword plain hashed
  | .commit _, reply => reply = .ok ()
  | _, _ => True

end Guess

/-- The protocol of a login to the account of `user` with a wrong password. -/
def guessing (env : Env) (w : World) (user : User) : Protocol Stmt Stmt.Reply Guess where
  allowed := Guess.allowed env w user
  replies := fun _ => Guess.replies env user
  next := Guess.next

/-- If it has verified a password, it has committed or passlib has raised. -/
def Guess.Settled (c : Guess) : Prop := c.verified = c.due

/-- The postcondition of a login with a wrong password. -/
def Guess.Post (c : Guess) (_ : Outcome) : Prop := c.Settled

/-- A login to the account of `u`, with a wrong password if it brings one. -/
def Request.Guesses (env : Env) (w : World) (u : UserId) : Request → Prop
  | .login formData =>
    (Request.login formData).target? env w = some u ∧
      ∀ acc, w.account u = some acc → ∀ password ∈ formData.password,
        ∀ hash ∈ acc.user.passwordHash, env.verifyPassword password (some hash) ≠ .ok true
  | _ => False

/-- **A login with a wrong password keeps to the protocol.** -/
theorem login_follows {env : Env} {w : World} {user : User} {formData : LoginForm}
    (hname : ∀ username ∈ formData.username,
      w.db.users.find? (fun v => v.username = username) = some user)
    (hwrong : ∀ password ∈ formData.password, ∀ hash ∈ user.passwordHash,
      env.verifyPassword password (some hash) ≠ .ok true) :
    Follows (guessing env w user) (fun c _ => c.Settled) {} (login env formData) := by
  unfold login
  split
  · next username password husername hpassword =>
    refine follows_call ⟨rfl, rfl, rfl, hname username husername⟩ ?_
    rintro _ ⟨l, lockout, rfl, rfl, hlockout⟩
    dsimp only
    rw [hlockout, deref_some]
    refine follows_call rfl fun now _ => ?_
    -- Locked, without a password or pending: refused before the password is looked at.
    split
    · exact rfl
    · split
      · exact rfl
      · split
        · exact rfl
        · have hbad : env.verifyPassword password l.user.passwordHash ≠ .ok true := by
            cases hhash : l.user.passwordHash with
            | none => simp [Env.verifyPassword]
            | some hash => exact hwrong password hpassword hash hhash
          refine follows_call ⟨rfl, hbad⟩ fun reply hreply => ?_
          cases reply with
          | error e => exact rfl
          | ok valid =>
            -- From here on the login owes a commit.
            obtain rfl : valid = false := by
              cases valid with
              | false => rfl
              | true => exact absurd hreply.symm hbad
            refine follows_call rfl fun now' _ => ?_
            refine follows_call ⟨rfl, l, lockout, now', rfl, rfl, hlockout, rfl, rfl⟩ ?_
            rintro _ rfl
            exact rfl
  · exact rfl

/-! ### The counter and the attempts -/

variable {ι : Type} [Fintype ι] [DecidableEq ι]

/-- How many wrong passwords are due in the row. -/
def attempts (c : ι → Guess) : ℕ := (Finset.univ.filter fun i => (c i).due = true).card

theorem attempts_update {c : ι → Guess} {i : ι} {c' : Guess}
    (h : c'.due = (c i).due) : attempts (Function.update c i c') = attempts c := by
  have hsame : ∀ j, (Function.update c i c' j).due = (c j).due := by
    intro j
    by_cases hj : j = i
    · subst hj
      rw [Function.update_self, h]
    · rw [Function.update_of_ne hj]
  simp only [attempts, hsame]

theorem attempts_update_succ {c : ι → Guess} {i : ι} {c' : Guess} (h : (c i).due = false)
    (h' : c'.due = true) : attempts (Function.update c i c') = attempts c + 1 := by
  have hinsert : (Finset.univ.filter fun j => (Function.update c i c' j).due = true) =
      insert i (Finset.univ.filter fun j => (c j).due = true) := by
    ext j
    by_cases hj : j = i
    · subst hj
      simp [h']
    · simp [hj]
  rw [attempts, hinsert, Finset.card_insert_of_notMem (by simp [h]), attempts]

/-- The counter in the row never runs ahead of the attempts, nor does a number that has been
read; and one that is level with them was read since the last of them. -/
structure Counts (v₀ : ℕ) (row : UserLoginLockout) (c : ι → Guess) : Prop where
  le : row.failedLoginAttempts ≤ v₀ + attempts c
  reads : ∀ i, ∀ lockout ∈ (c i).reading, lockout.failedLoginAttempts ≤ v₀ + attempts c ∧
    (lockout.failedLoginAttempts = v₀ + attempts c → lockout = row)

/-- A login that does not commit. -/
theorem Counts.update {v₀ : ℕ} {row : UserLoginLockout} {c : ι → Guess} (h : Counts v₀ row c)
    {i : ι} {c' : Guess} (hdue : c'.due = (c i).due)
    (hreads : ∀ lockout ∈ c'.reading, lockout ∈ (c i).reading ∨ lockout = row) :
    Counts v₀ row (Function.update c i c') := by
  refine ⟨by rw [attempts_update hdue]; exact h.le, fun j lockout hj => ?_⟩
  rw [attempts_update hdue]
  by_cases hji : j = i
  · subst hji
    rw [Function.update_self] at hj
    rcases hreads lockout hj with hold | rfl
    · exact h.reads j lockout hold
    · exact ⟨h.le, fun _ => rfl⟩
  · rw [Function.update_of_ne hji] at hj
    exact h.reads j lockout hj

/-- A login whose wrong password falls due: the row is at most one further than the attempts. -/
theorem Counts.fallsDue {v₀ : ℕ} {row row' : UserLoginLockout} {c : ι → Guess}
    (h : Counts v₀ row c) {i : ι} {c' : Guess} (hpending : (c i).due = false)
    (hdue : c'.due = true) (hrow : row'.failedLoginAttempts ≤ v₀ + attempts c + 1) :
    Counts v₀ row' (Function.update c i c') := by
  have hsucc := attempts_update_succ hpending hdue
  refine ⟨by omega, fun j lockout hj => ?_⟩
  by_cases hji : j = i
  · subst hji
    rw [Function.update_self, Guess.reading, if_pos hdue] at hj
    cases hj
  · rw [Function.update_of_ne hji] at hj
    -- What another login has read is now strictly behind, so it is level with nothing.
    have hle := (h.reads j lockout hj).1
    exact ⟨by omega, fun heq => by omega⟩

omit [DecidableEq ι] in
/-- **A login that commits over another number than it has read is lost**, and so is one
after a loss. -/
theorem Counts.lost {v₀ : ℕ} {row lockout : UserLoginLockout} {c : ι → Guess}
    (h : Counts v₀ row c) {i : ι} (hread : lockout ∈ (c i).reading)
    (hlost : row.failedLoginAttempts ≠ lockout.failedLoginAttempts ∨
      row.failedLoginAttempts < v₀ + attempts c) :
    lockout.failedLoginAttempts < v₀ + attempts c := by
  obtain ⟨hle, hlevel⟩ := h.reads i lockout hread
  refine lt_of_le_of_ne hle fun heq => ?_
  -- A number level with the attempts was read after the last of them: it is that of the row.
  have hrow := hlevel heq
  subst hrow
  rcases hlost with hne | hlt
  · exact hne rfl
  · omega

/-- As long as nothing is lost, times are noted in the order of the commits, and the fifth
wrong password locks. -/
structure Timely (v₀ : ℕ) (row : UserLoginLockout) (clock : Time) (c : ι → Guess) : Prop where
  level : row.failedLoginAttempts = v₀ + attempts c
  noted : ∀ i, ∀ t ∈ (c i).noted, t ≤ clock
  taken : ∀ i, (c i).due = true → ∃ t, (c i).noted = some t
  /-- A login that can still count notes its time after those that have committed. -/
  order : ∀ i, ∀ lockout ∈ (c i).reading,
    lockout.failedLoginAttempts = row.failedLoginAttempts → ∀ t ∈ (c i).noted,
      ∀ j, (c j).due = true → ∀ t' ∈ (c j).noted, t' ≤ t
  locked : maxFailedAttempts ≤ row.failedLoginAttempts → ∀ i, (c i).due = true →
    ∀ t ∈ (c i).noted, ∃ l ∈ row.lockedUntil, t + Time.minutes lockoutMinutes ≤ l

/-- A login that does not commit. -/
theorem Timely.update {v₀ : ℕ} {row : UserLoginLockout} {clock : Time} {c : ι → Guess}
    (h : Timely v₀ row clock c) {i : ι} {c' : Guess} (hpending : (c i).due = false)
    (hpending' : c'.due = false)
    (hreads : ∀ lockout ∈ c'.reading, lockout ∈ (c i).reading ∨ lockout = row ∧ c'.noted = none)
    (hnoted : ∀ t ∈ c'.noted, t ∈ (c i).noted ∨ t = clock) :
    Timely v₀ row clock (Function.update c i c') := by
  -- The logins that have committed are the old ones, and none of them has moved.
  have hdue : ∀ j, (Function.update c i c' j).due = true →
      (c j).due = true ∧ Function.update c i c' j = c j := by
    intro j hj
    by_cases hji : j = i
    · subst hji
      rw [Function.update_self, hpending'] at hj
      cases hj
    · rw [Function.update_of_ne hji] at hj ⊢
      exact ⟨hj, rfl⟩
  refine ⟨?_, ?_, ?_, ?_, ?_⟩
  · rw [attempts_update (hpending'.trans hpending.symm)]
    exact h.level
  · refine (Function.forall_update_iff c fun _ c => ∀ t ∈ c.noted, t ≤ clock).mpr
      ⟨fun t ht => ?_, fun j _ => h.noted j⟩
    rcases hnoted t ht with hold | rfl
    · exact h.noted i t hold
    · exact le_rfl
  · intro j hj
    obtain ⟨hj, hsame⟩ := hdue j hj
    rw [hsame]
    exact h.taken j hj
  · intro j lockout hlockout hlevel t ht k hk t' ht'
    obtain ⟨hdue', hsame⟩ := hdue k hk
    rw [hsame] at ht'
    by_cases hji : j = i
    · subst hji
      rw [Function.update_self] at hlockout ht
      rcases hnoted t ht with hold | rfl
      · rcases hreads lockout hlockout with hold' | ⟨-, hnone⟩
        · exact h.order j lockout hold' hlevel t hold k hdue' t' ht'
        · rw [hnone] at ht
          cases ht
      -- It has only now noted its time, so every commit noted an earlier one.
      · exact h.noted k t' ht'
    · rw [Function.update_of_ne hji] at hlockout ht
      exact h.order j lockout hlockout hlevel t ht k hdue' t' ht'
  · intro hmax j hj
    obtain ⟨hj, hsame⟩ := hdue j hj
    rw [hsame]
    exact h.locked hmax j hj

/-- A login that commits over the number it has read. -/
theorem Timely.commit {v₀ : ℕ} {row lockout : UserLoginLockout} {clock now : Time}
    {c : ι → Guess} (h : Timely v₀ row clock c) (hcounts : Counts v₀ row c) {i : ι}
    (hpending : (c i).due = false) (hread : lockout ∈ (c i).reading)
    (hnow : (c i).noted = some now)
    (hlevel : row.failedLoginAttempts = lockout.failedLoginAttempts) :
    Timely v₀ (UserLoginLockout.write lockout (lockout.failed now) row) clock
      (Function.update c i { c i with due := true }) := by
  -- Nothing has been committed since it read the row.
  obtain rfl : lockout = row := (hcounts.reads i lockout hread).2 (hlevel.symm.trans h.level)
  rw [UserLoginLockout.write_loaded (show (lockout.failed now).userId = lockout.userId from rfl)]
  have hnoted : ∀ j, (Function.update c i { c i with due := true } j).noted =
      (c j).noted := by
    intro j
    by_cases hji : j = i
    · subst hji
      rw [Function.update_self]
    · rw [Function.update_of_ne hji]
  refine ⟨?_, ?_, ?_, ?_, ?_⟩
  · rw [attempts_update_succ hpending rfl, ← Nat.add_assoc, ← h.level]
    rfl
  · intro j
    rw [hnoted]
    exact h.noted j
  · intro j hj
    rw [hnoted]
    by_cases hji : j = i
    · subst hji
      exact ⟨now, hnow⟩
    · rw [Function.update_of_ne hji] at hj
      exact h.taken j hj
  · intro j lockout' hlockout' hsucc
    -- No number that has been read is ahead of the attempts.
    by_cases hji : j = i
    · subst hji
      rw [Function.update_self] at hlockout'
      cases hlockout'
    · rw [Function.update_of_ne hji] at hlockout'
      have hle := (hcounts.reads j lockout' hlockout').1
      rw [← h.level] at hle
      rw [hsucc] at hle
      exact absurd hle (Nat.not_succ_le_self _)
  · intro hmax j hj t ht
    rw [hnoted] at ht
    refine ⟨now + Time.minutes lockoutMinutes, ?_, Nat.add_le_add_right ?_ _⟩
    -- It locks for a quarter of an hour from its own time on.
    · have hfifth : maxFailedAttempts ≤ lockout.failedLoginAttempts + 1 := hmax
      simp [UserLoginLockout.failed, hfifth]
    -- The earlier commits noted their time before this login, so its lock covers them too.
    · by_cases hji : j = i
      · subst hji
        rw [hnow] at ht
        exact (Option.some.inj ht).ge
      · rw [Function.update_of_ne hji] at hj
        exact h.order i lockout hread rfl now hnow j hj t ht

/-! ### What one statement does -/

/-- The number that a commit of a lockout row has read. -/
def Stmt.countsOn? : Stmt → Option ℕ
  | .commit (.update l _ _) => l.loginLockout.map (·.failedLoginAttempts)
  | _ => none

/-- The verification of a password that passlib refuses. -/
def Stmt.raises (env : Env) : Stmt → Bool
  | .verifyPassword plain hashed => !(env.verifyPassword plain hashed).isOk
  | _ => false

/-- What a statement of a login can do to the lockout row and to its own typestate. -/
inductive Guess.Moves (env : Env) (row : UserLoginLockout) (clock : Time) (c : Guess) :
    Stmt → UserLoginLockout → Guess → Prop
  /-- It leaves the row alone. -/
  | keeps (s : Stmt) (c' : Guess) (hstmt : s.countsOn? = none) (hquiet : s.raises env = false)
      (hpending : c.due = false) (hpending' : c'.due = false)
      (hreads : ∀ lockout ∈ c'.reading, lockout ∈ c.reading ∨ lockout = row ∧ c'.noted = none)
      (hnoted : ∀ t ∈ c'.noted, t ∈ c.noted ∨ t = clock) : Moves env row clock c s row c'
  /-- It commits a wrong password. -/
  | commits (l : Loaded) (lockout : UserLoginLockout) (now : Time)
      (hl : l.loginLockout = some lockout) (hpending : c.due = false)
      (hread : lockout ∈ c.reading) (hnow : c.noted = some now) :
      Moves env row clock c (.commit (Guess.work l lockout now))
        (UserLoginLockout.write lockout (lockout.failed now) row) { c with due := true }
  /-- passlib raises, and leaves the row alone. -/
  | raises (s : Stmt) (c' : Guess) (hstmt : s.raises env = true) (hpending : c.due = false)
      (hdue : c'.due = true) : Moves env row clock c s row c'

omit [Fintype ι] [DecidableEq ι] in
/-- A wrong password is always committed, into the row as it is now. -/
theorem Db.commit_guess {db : Db} {clock now : Time} {l : Loaded} {lockout row : UserLoginLockout}
    (hl : l.loginLockout = some lockout)
    (hrow : Keyed.get? db.loginLockouts l.user.id = some row) :
    ∃ db', db.commit clock (Guess.work l lockout now) = .ok db' ∧ db'.users = db.users ∧
      Keyed.get? db'.loginLockouts l.user.id =
        some (UserLoginLockout.write lockout (lockout.failed now) row) := by
  cases hcommit : db.commit clock (Guess.work l lockout now) with
  | error e =>
    refine absurd hcommit (db.commit_update_ne_error clock l.user rfl
      (db.checkUser_eq_none rfl rfl rfl rfl rfl rfl rfl) fun s hs => ⟨s, hs, rfl⟩)
  | ok db' =>
    obtain ⟨user, hdraft, -, husers, -, -, hlockouts, -⟩ := Db.commit_update hcommit
    obtain rfl : user = l.user := User.draft_injective (UserDraft.draft_of_toRow hdraft)
    refine ⟨db', rfl, ?_, ?_⟩
    · rw [husers]
      exact Keyed.modify_eq_self (User.write_self l.user)
    · rw [hlockouts, hl]
      exact (Keyed.get?_modify_self _ _ (UserLoginLockout.key_write _ _)).trans
        (congrArg _ hrow)

/-- **A statement of a login leaves the row alone or commits a wrong password.** -/
theorem Guess.moves (env : Env) {w₀ w : World} {user : User} {row : UserLoginLockout} {c : Guess}
    {s : Stmt} (husers : w.db.users = w₀.db.users)
    (hrow : Keyed.get? w.db.loginLockouts user.id = some row)
    (hallowed : c.allowed env w₀ user s) :
    Guess.replies env user s (exec env s w).1 ∧ (exec env s w).2.db.users = w.db.users ∧
      (exec env s w).2.clock = w.clock ∧
      ∃ row', Keyed.get? (exec env s w).2.db.loginLockouts user.id = some row' ∧
        Guess.Moves env row w.clock c s row' (c.next s (exec env s w).1) := by
  cases s with
  | selectUserByUsername username q =>
    obtain ⟨hpending, hnoted, hjoins, hfind⟩ := hallowed
    have hreply : w.db.selectUserByUsername username q = some (w.db.load q user) := by
      rw [Db.selectUserByUsername, husers, hfind, Option.map_some]
    have hjoined : (w.db.load q user).loginLockout = some row := by
      rw [Db.load, if_pos hjoins, hrow]
    refine ⟨⟨_, row, hreply, rfl, hjoined⟩, rfl, rfl, row, hrow, ?_⟩
    refine .keeps _ _ rfl rfl hpending hpending (fun lockout hlockout => Or.inr ⟨?_, hnoted⟩)
      fun t ht => Or.inl ht
    -- Having committed nothing, it now holds the row as it is at this moment.
    have hexec : (exec env (.selectUserByUsername username q) w).1 =
        some (w.db.load q user) := hreply
    have hreading : some row = some lockout := by
      simpa [Guess.next, Guess.reading, hexec, hpending, hjoined] using hlockout
    exact (Option.some.inj hreading).symm
  | now =>
    have hpending : c.due = false := hallowed
    refine ⟨trivial, rfl, rfl, row, hrow, ?_⟩
    have hexec : exec env .now w = (w.clock, w) := rfl
    simp only [Guess.next, hexec]
    split
    · refine .keeps _ _ rfl rfl hpending hpending (fun lockout hlockout => Or.inl hlockout) ?_
      rintro t ⟨⟩
      exact Or.inr rfl
    · exact .keeps _ _ rfl rfl hpending hpending (fun lockout hlockout => Or.inl hlockout)
        fun t ht => Or.inl ht
  | verifyPassword plain hashed =>
    refine ⟨rfl, rfl, rfl, row, hrow, ?_⟩
    have hexec : exec env (.verifyPassword plain hashed) w =
        (env.verifyPassword plain hashed, w) := rfl
    rw [hexec]
    cases hverify : env.verifyPassword plain hashed with
    | error e =>
      refine .raises _ _ ?_ hallowed.1 rfl
      rw [Stmt.raises, hverify]
      rfl
    | ok valid =>
      refine .keeps _ _ rfl ?_ hallowed.1 hallowed.1 (fun lockout hlockout => Or.inl hlockout)
        fun t ht => Or.inl ht
      rw [Stmt.raises, hverify]
      rfl
  | commit work =>
    obtain ⟨hpending, l, lockout, now, hloaded, rfl, hl, hnow, rfl⟩ := hallowed
    -- No constraint can refuse the rewrite of a lockout row: the commit succeeds.
    obtain ⟨db', hcommit, hdb', hrow'⟩ : ∃ db', w.db.commit w.clock (Guess.work l lockout now) =
        .ok db' ∧ db'.users = w.db.users ∧ Keyed.get? db'.loginLockouts l.user.id =
          some (UserLoginLockout.write lockout (lockout.failed now) row) :=
      Db.commit_guess hl hrow
    rw [exec_commit_ok hcommit]
    refine ⟨rfl, hdb', rfl, _, hrow', ?_⟩
    refine .commits l lockout now hl hpending ?_ hnow
    simp [Guess.reading, hpending, hloaded, hl]
  | _ => exact hallowed.elim

/-! ### Whole schedules -/

/-- What ties the typestates to the lockout row of the user. -/
structure Tally (w₀ : World) (user : User) (v₀ : ℕ) (w : World)
    (_owner : AdvisoryLock → Option ι) (c : ι → Guess) : Prop where
  users : w.db.users = w₀.db.users
  row : ∃ row, Keyed.get? w.db.loginLockouts user.id = some row ∧ Counts v₀ row c

/-- A login commits only over the number it has read, and passlib does not raise. -/
def CountsOn (env : Env) (u : UserId) (p : Pool Stmt Stmt.Reply Exn Response World ι AdvisoryLock)
    (_c : ι → Guess) : Label ι Outside → Prop
  | .run i => (∀ n ∈ (p.prog i).head?.bind Stmt.countsOn?,
      ∀ row ∈ Keyed.get? p.world.db.loginLockouts u, row.failedLoginAttempts = n) ∧
        (p.prog i).head?.any (Stmt.raises env) = false
  | .env _ => True

instance (env : Env) (u : UserId) (p : Pool Stmt Stmt.Reply Exn Response World ι AdvisoryLock)
    (c : ι → Guess) : (l : Label ι Outside) → Decidable (CountsOn env u p c l)
  | .run i => inferInstanceAs (Decidable ((∀ n ∈ (p.prog i).head?.bind Stmt.countsOn?, _) ∧ _))
  | .env _ => isTrue trivial

/-- The typestates after a schedule of logins with wrong passwords. -/
def World.guesses (env : Env) (w : World) (user : User) (requests : ι → Request)
    (schedule : Schedule ι) : ι → Guess :=
  (w.pool env requests).ghosts (machine env) (guessing env w user) (fun c _ => c) (fun _ => {})
    schedule

section Rule

variable {env : Env} {w₀ : World} {user : User} {v₀ : ℕ}

theorem Counts.moves {row row' : UserLoginLockout} {clock : Time} {c : ι → Guess} {i : ι}
    {s : Stmt} {c' : Guess} (h : Counts v₀ row c) (hm : Guess.Moves env row clock (c i) s row' c') :
    Counts v₀ row' (Function.update c i c') := by
  cases hm with
  | keeps s c' _ _ hpending hpending' hreads _ =>
    refine h.update (hpending'.trans hpending.symm) fun lockout hlockout => ?_
    exact (hreads lockout hlockout).imp_right And.left
  | commits l lockout now _ hpending hread _ =>
    -- The row it writes is one ahead of what it has read, which is at most the attempts.
    have hle := (h.reads i lockout hread).1
    refine h.fallsDue hpending rfl ?_
    rw [UserLoginLockout.failed_written]
    omega
  | raises s c' _ hpending hdue => exact h.fallsDue hpending hdue (Nat.le_succ_of_le h.le)

/-- The counter never runs ahead of the attempts. -/
theorem tally_inductive (env : Env) (w₀ : World) (user : User) (v₀ : ℕ) :
    Pool.Inductive (machine env) (guessing env w₀ user) Guess.Post
      (fun c _ => c) (fun _ _ _ => True) (Tally (ι := ι) w₀ user v₀) where
  stmt p c i s _ hinv _ hallowed _ _ := by
    obtain ⟨row, hrow, hcounts⟩ := hinv.row
    obtain ⟨hreplies, husers, -, row', hrow', hm⟩ := Guess.moves env hinv.users hrow hallowed
    exact ⟨hreplies, husers.trans hinv.users, row', hrow', hcounts.moves hm⟩
  fin w owner c i r hinv _ := by
    rw [Function.update_eq_self]
    exact ⟨hinv.users, hinv.row⟩
  env w owner c a hinv := by
    cases a <;> exact ⟨hinv.users, hinv.row⟩

/-- An invariant of the lockout row and the typestates beside `Tally`. -/
theorem Tally.conj
    {Ok : Pool Stmt Stmt.Reply Exn Response World ι AdvisoryLock → (ι → Guess) →
      Label ι Outside → Prop} {K : UserLoginLockout → Time → (ι → Guess) → Prop}
    (hmoves : ∀ (p : Pool Stmt Stmt.Reply Exn Response World ι AdvisoryLock) (c : ι → Guess)
      (i : ι) (s : Stmt) (row row' : UserLoginLockout) (c' : Guess),
      (p.prog i).head? = some s → Ok p c (.run i) →
      Keyed.get? p.world.db.loginLockouts user.id = some row → Counts v₀ row c →
      K row p.world.clock c → Guess.Moves env row p.world.clock (c i) s row' c' →
        K row' p.world.clock (Function.update c i c'))
    (htick : ∀ row clock d c, K row clock c → K row (clock + d) c) :
    Pool.Inductive (machine env) (guessing env w₀ user) Guess.Post (fun c _ => c) Ok
      fun w owner c => Tally w₀ user v₀ w owner c ∧
        ∃ row, Keyed.get? w.db.loginLockouts user.id = some row ∧ K row w.clock c := by
  refine (tally_inductive env w₀ user v₀).conj (fun _ _ _ _ => trivial) ?_ ?_ ?_
  · rintro p c i s k hinv ⟨row₁, hrow₁, hk⟩ hp hallowed - hok
    obtain ⟨row, hrow, hcounts⟩ := hinv.row
    obtain rfl := Keyed.get?_inj hrow hrow₁
    obtain ⟨-, -, hclock, row', hrow', hm⟩ := Guess.moves env hinv.users hrow hallowed
    refine ⟨row', hrow', ?_⟩
    rw [show ((machine env).exec s p.world).2.clock = p.world.clock from hclock]
    exact hmoves p c i s row row' _ (by rw [hp]; rfl) hok hrow hcounts hk hm
  · intro w owner c i r _ hk _
    rw [Function.update_eq_self]
    exact hk
  · rintro w owner c (d | key) ⟨row, hrow, hk⟩
    · exact ⟨row, hrow, htick row w.clock d c hk⟩
    · exact ⟨row, hrow, hk⟩

/-- **Once behind the attempts, the counter stays behind.** -/
theorem lost_inductive (env : Env) (w₀ : World) (user : User) (v₀ : ℕ) :
    Pool.Inductive (machine env) (guessing env w₀ user) Guess.Post (fun c _ => c)
      (fun _ _ _ => True) fun w owner (c : ι → Guess) => Tally w₀ user v₀ w owner c ∧
        ∃ row, Keyed.get? w.db.loginLockouts user.id = some row ∧
          row.failedLoginAttempts < v₀ + attempts c := by
  refine Tally.conj (K := fun row _ c => row.failedLoginAttempts < v₀ + attempts c) ?_
    fun _ _ _ _ h => h
  intro p c i s row row' c' _ _ _ hcounts hlost hm
  cases hm with
  | keeps s c' _ _ hpending hpending' _ _ =>
    rw [attempts_update (hpending'.trans hpending.symm)]
    exact hlost
  | commits l lockout now _ hpending hread _ =>
    have hbehind := hcounts.lost hread (Or.inr hlost)
    rw [UserLoginLockout.failed_written, attempts_update_succ hpending rfl]
    omega
  | raises s c' _ hpending hdue =>
    rw [attempts_update_succ hpending hdue]
    omega

/-- **While every login commits over the number it has read and passlib does not raise, nothing
is lost.** -/
theorem timely_inductive (env : Env) (w₀ : World) (user : User) (v₀ : ℕ) :
    Pool.Inductive (machine env) (guessing env w₀ user) Guess.Post (fun c _ => c)
      (CountsOn (ι := ι) env user.id) fun w owner c => Tally w₀ user v₀ w owner c ∧
        ∃ row, Keyed.get? w.db.loginLockouts user.id = some row ∧ Timely v₀ row w.clock c := by
  refine Tally.conj (K := Timely v₀) ?_ ?_
  · intro p c i s row row' c' hhead hok hrow hcounts htimely hm
    cases hm with
    | keeps s c' _ _ hpending hpending' hreads hnoted =>
      exact htimely.update hpending hpending' hreads hnoted
    | commits l lockout now hl hpending hread hnow =>
      refine htimely.commit hcounts hpending hread hnow ?_
      exact hok.1 _ (by simp [hhead, Stmt.countsOn?, Guess.work, hl]) row hrow
    | raises s c' hstmt _ _ =>
      have hquiet : (p.prog i).head?.any (Stmt.raises env) = false := hok.2
      rw [hhead, Option.any_some, hstmt] at hquiet
      cases hquiet
  · exact fun row clock d c h => ⟨h.level,
      fun i t ht => (h.noted i t ht).trans (Nat.le_add_right _ _), h.taken, h.order, h.locked⟩

end Rule

/-- A login that commits over another number than it has read falls behind, and so does one that
passlib refuses. -/
theorem Tally.lost {env : Env} {w₀ : World} {user : User} {v₀ : ℕ}
    {p q : Pool Stmt Stmt.Reply Exn Response World ι AdvisoryLock} {c : ι → Guess}
    {l : Label ι Outside} (h : Tally w₀ user v₀ p.world p.owner c)
    (hconforms : p.Conforms (guessing env w₀ user) Guess.Post (fun c _ => c) c)
    (hstep : p.step (machine env) l = some q) (hbroken : ¬ CountsOn env user.id p c l) :
    ∃ row, Keyed.get? q.world.db.loginLockouts user.id = some row ∧
      row.failedLoginAttempts < v₀ +
        attempts (p.ghost (machine env) (guessing env w₀ user) (fun c _ => c) c l) := by
  rcases Pool.step_cases hstep with ⟨i, s, k, rfl, hp, -, rfl⟩ | ⟨a, rfl, -⟩
  · have hghost : p.ghost (machine env) (guessing env w₀ user) (fun c _ => c) c (.run i) =
        Function.update c i ((c i).next s (exec env s p.world).1) := by
      simp only [Pool.ghost, hp]
      split <;> rfl
    have hfollows := hconforms i
    simp only [hp, Prog.result?] at hfollows
    obtain ⟨row, hrow, hcounts⟩ := h.row
    obtain ⟨-, -, -, row', hrow', hm⟩ := Guess.moves env h.users hrow hfollows.1
    refine ⟨row', hrow', ?_⟩
    rw [hghost]
    -- Had the statement met the row it counts on, the condition would hold.
    have hreads : (∀ n ∈ s.countsOn?, row.failedLoginAttempts = n) → s.raises env = false →
        CountsOn env user.id p c (.run i) := by
      intro hcounts hquiet
      refine ⟨fun n hn row₁ hrow₁ => ?_, ?_⟩
      · rw [hp, Prog.head?, Option.bind_some] at hn
        rw [Keyed.get?_inj hrow₁ hrow, hcounts n hn]
      · rw [hp, Prog.head?, Option.any_some, hquiet]
    generalize (c i).next s (exec env s p.world).1 = c' at hm
    cases hm with
    | keeps s c' hstmt hquiet =>
      refine absurd (hreads (fun n hn => ?_) hquiet) hbroken
      rw [hstmt] at hn
      cases hn
    | commits l lockout now hl hpending hread _ =>
      have hne : row.failedLoginAttempts ≠ lockout.failedLoginAttempts := by
        refine fun heq => hbroken (hreads (fun n hn => ?_) rfl)
        obtain rfl : lockout.failedLoginAttempts = n := by
          simpa [Stmt.countsOn?, Guess.work, hl] using hn
        exact heq
      have hbehind := hcounts.lost hread (Or.inl hne)
      rw [UserLoginLockout.failed_written, attempts_update_succ hpending rfl]
      omega
    | raises s c' _ hpending hdue =>
      have hle := hcounts.le
      rw [attempts_update_succ hpending hdue]
      omega
  · exact absurd trivial hbroken

/-- Every wrong password is counted, and from the fifth on the account is locked for a quarter
of an hour from each of them: `v₀` is the number of the start. -/
def AttemptsCount (v₀ : ℕ) (row : UserLoginLockout)
    (p : Pool Stmt Stmt.Reply Exn Response World ι AdvisoryLock) (c : ι → Guess) : Prop :=
  row.failedLoginAttempts =
      v₀ + (Finset.univ.filter fun i => (c i).verified && (p.prog i).ended).card ∧
    (maxFailedAttempts ≤ row.failedLoginAttempts →
      ∀ i, (c i).verified = true → (p.prog i).ended = true →
        ∃ t ∈ (c i).noted, ∃ l ∈ row.lockedUntil, t + Time.minutes lockoutMinutes ≤ l)

omit [Fintype ι] [DecidableEq ι] in
/-- A wrong password is due exactly when its login has verified it and is over. -/
theorem due_iff {env : Env} {w₀ : World} {user : User}
    {p : Pool Stmt Stmt.Reply Exn Response World ι AdvisoryLock} {c : ι → Guess}
    (h : p.Conforms (guessing env w₀ user) Guess.Post (fun c _ => c) c) (i : ι) :
    (c i).due = ((c i).verified && (p.prog i).ended) := by
  have hi := h i
  cases hp : p.prog i with
  | stmt s k =>
    simp only [hp, Prog.result?] at hi
    rw [Prog.ended, Bool.and_false]
    have hallowed : (c i).allowed env w₀ user s := hi.1
    cases s with
    | now => exact hallowed
    | selectUserByUsername | verifyPassword | commit => exact hallowed.1
    | _ => exact hallowed.elim
  | _ =>
    simp only [hp, Prog.result?] at hi
    obtain ⟨c₀, hpost, hc⟩ := hi
    simp only [Prog.ended, Bool.and_true, hc]
    exact hpost.symm

omit [Fintype ι] [DecidableEq ι] in
/-- A login with a wrong password keeps to the protocol of its account. -/
theorem Request.Guesses.follows {env : Env} {w : World} (hs : w.Sound) {u : UserId}
    {acc : Account} (hacc : w.account u = some acc) {r : Request} (h : r.Guesses env w u) :
    Follows (guessing env w acc.user) Guess.Post {} (r.service env) := by
  cases r with
  | login formData =>
    obtain ⟨htarget, hwrong⟩ := h
    refine (Prog.follows_map _ _).mpr (login_follows (fun username husername => ?_)
      (hwrong acc hacc))
    have hid : w.db.userNamed username = some u := by
      rw [← htarget, Request.target?, Option.mem_def.mp husername, Option.bind_some]
    obtain ⟨v, hv, hvu⟩ := Option.map_eq_some_iff.mp hid
    have hget := Keyed.get?_of_mem hs.db.nodup (List.mem_of_find?_eq_some hv)
    rw [key_user, hvu, World.account_user hacc] at hget
    rw [hv, Option.some.inj hget]
  | _ => exact h.elim

/-- **Every wrong password is counted exactly when every login commits over the number it has
read and passlib never raises.**  For any number of concurrent logins to one account, all with
wrong passwords, and any schedule of their statements, the counter has grown by the number of
those that have verified their password and are over, and the fifth locks, if and only if the
schedule meets `CountsOn` at every step. -/
theorem attemptsCount_iff (env : Env) (w : World) (hs : w.Sound) (u : UserId) (acc : Account)
    (hacc : w.account u = some acc) (requests : ι → Request)
    (hguess : ∀ i, (requests i).Guesses env w u) (schedule : Schedule ι)
    (p : Pool Stmt Stmt.Reply Exn Response World ι AdvisoryLock)
    (h : w.serveAll env requests schedule = some p) :
    ∃ row, Keyed.get? p.world.db.loginLockouts u = some row ∧
      ((w.pool env requests).Always (machine env) (guessing env w acc.user) (fun c _ => c)
          (CountsOn env u) (fun _ => {}) schedule ↔
        AttemptsCount acc.loginLockout.failedLoginAttempts row p
          (w.guesses env acc.user requests schedule)) := by
  obtain rfl : acc.user.id = u := World.account_id hacc
  obtain ⟨-, -, -, hlockout, -⟩ := World.account_eq_some_iff.mp hacc
  have hzero : attempts (fun _ : ι => ({} : Guess)) = 0 := by simp [attempts]
  have htally : Tally w acc.user acc.loginLockout.failedLoginAttempts w (fun _ => none)
      (fun _ : ι => {}) := by
    refine ⟨rfl, _, hlockout, by rw [hzero]; exact le_rfl, ?_⟩
    rintro i lockout ⟨⟩
  have hconforms : (w.pool env requests).Conforms (guessing env w acc.user) Guess.Post
      (fun c _ => c) (fun _ => {}) := by
    intro i
    have hi := (hguess i).follows hs hacc
    cases hr : ((w.pool env requests).prog i).result? with
    | none => exact hi
    | some r => exact ⟨{}, (Pool.follows_iff_post hr).mp hi, rfl⟩
  obtain ⟨⟨-, row, hrow, -⟩, hconforms'⟩ := Pool.exec_invariant
    (tally_inductive env w acc.user _) htally hconforms (Pool.always_true _ _ _) h
  -- At the end, a wrong password is due exactly if it has been verified.
  have hdue : ∀ i, (w.guesses env acc.user requests schedule i).due =
      ((w.guesses env acc.user requests schedule i).verified && (p.prog i).ended) :=
    due_iff hconforms'
  have hcount : attempts (w.guesses env acc.user requests schedule) =
      (Finset.univ.filter fun i => (w.guesses env acc.user requests schedule i).verified &&
        (p.prog i).ended).card :=
    congrArg Finset.card (Finset.filter_congr fun i _ => by rw [hdue i])
  refine ⟨row, hrow, fun hok => ?_, fun hcounts => ?_⟩
  -- The condition holds throughout: nothing is lost, and the times are in order.
  · have htimely : Timely acc.loginLockout.failedLoginAttempts acc.loginLockout w.clock
        (fun _ : ι => {}) := by
      refine ⟨by rw [hzero]; rfl, ?_, ?_, ?_, ?_⟩ <;> simp [Guess.reading]
    obtain ⟨⟨-, row', hrow', hlast⟩, -⟩ := Pool.exec_invariant
      (timely_inductive env w acc.user _) ⟨htally, _, hlockout, htimely⟩ hconforms hok h
    obtain rfl := Keyed.get?_inj hrow hrow'
    refine ⟨by rw [← hcount]; exact hlast.level, fun hfifth i hverified hended => ?_⟩
    have hdone : (w.guesses env acc.user requests schedule i).due = true := by
      refine (hdue i).trans ?_
      rw [hended, Bool.and_true]
      exact hverified
    obtain ⟨t, ht⟩ := hlast.taken i hdone
    exact ⟨t, ht, hlast.locked hfifth i hdone t ht⟩
  -- A step that breaks the condition falls behind, and stays behind to the end.
  · refine Pool.always_of_not (tally_inductive env w acc.user _) (lost_inductive env w acc.user _)
      (fun q q' c l htally' hconforms₁ hstep hbroken => htally'.lost hconforms₁ hstep hbroken)
      htally hconforms h ?_
    rintro ⟨row', hrow', hlt⟩
    obtain rfl := Keyed.get?_inj hrow hrow'
    have hlevel := hcounts.1
    rw [← hcount] at hlevel
    exact absurd hlt (by rw [hlevel]; exact lt_irrefl _)

/-- Five wrong passwords for Ada. -/
def fiveGuesses : Fin 5 → Request :=
  fun _ => .login { username := some "lovelace", password := some "guess" }

theorem fiveGuesses_guesses (i : Fin 5) : (fiveGuesses i).Guesses .concrete World.concrete 2 := by
  refine ⟨by decide +kernel, ?_⟩
  rintro acc hacc password ⟨⟩ hash hhash
  have huser : acc.user = seededAda := Option.some.inj (World.account_user hacc).symm
  rw [huser] at hhash
  cases hhash
  decide +kernel

/-- One after the other, they are all counted, and the fifth locks. -/
theorem attemptsCount_concrete :
    ∃ p row, World.concrete.serveAll .concrete fiveGuesses
        ((List.finRange 5).flatMap fun i => List.replicate 5 (.run i)) = some p ∧
      Keyed.get? p.world.db.loginLockouts 2 = some row ∧
      AttemptsCount 0 row p (World.concrete.guesses .concrete seededAda fiveGuesses
        ((List.finRange 5).flatMap fun i => List.replicate 5 (.run i))) := by
  have hsome : (World.concrete.serveAll .concrete fiveGuesses
      ((List.finRange 5).flatMap fun i => List.replicate 5 (.run i))).isSome = true := by
    decide +kernel
  obtain ⟨p, hp⟩ := Option.isSome_iff_exists.mp hsome
  obtain ⟨row, hrow, hiff⟩ := attemptsCount_iff .concrete World.concrete
    World.concrete_seeded.sound 2 _ rfl fiveGuesses fiveGuesses_guesses _ p hp
  exact ⟨p, row, hp, hrow, hiff.mp (by decide +kernel)⟩

/-- **Without it, attempts are lost**: five logins read the row before the first of them
commits, and all five wrong passwords count as one. -/
theorem attempt_lost :
    (World.concrete.serveAll .concrete fiveGuesses
      ((List.finRange 5).map .run ++
        (List.finRange 5).flatMap fun i => List.replicate 4 (.run i))).map
          (fun p => ((List.finRange 5).map fun i => (p.prog i).ended,
            Keyed.get? p.world.db.loginLockouts 2)) =
        some (List.replicate 5 true,
          some { userId := 2, failedLoginAttempts := 1, lockedUntil := none }) ∧
      ∀ i, (World.concrete.guesses .concrete seededAda fiveGuesses
        ((List.finRange 5).map .run ++
          (List.finRange 5).flatMap fun i => List.replicate 4 (.run i)) i).verified = true := by
  constructor <;> decide +kernel

-- passlib raises at the verification of a NUL: the login crashes, and nothing is counted.
example :
    let login := Request.login { username := some "lovelace", password := some "guess\x00" }
    (World.concrete.respond .concrete login).toOption = none ∧
      Keyed.get? (World.concrete.after .concrete (.request login)).db.loginLockouts 2 =
        some { userId := 2 } := by
  constructor <;> decide +kernel

end SmsLite
