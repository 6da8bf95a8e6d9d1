import SmsLite.Lib.Deadlock
import SmsLite.Concurrency.Pools
import SmsLite.Concrete
import SmsLite.Sequential
import SmsLite.Statements

/-!
# The advisory locks never deadlock

Four operations lock the contacts of a student before they count and write them.  Each asks
for the lock of the phone number first and for that of the email address after it, once each,
and for neither after its first write.  The order of the two namespaces is therefore an order
of acquisition, whatever the keys in them are.

## Main definitions

* `LockPhase`, `contactLocks` — how far a transaction is with its locks, as a protocol.
* `Request.LocksContacts` — the four operations.

## Main results

* `Request.follows_contactLocks` — each of the four follows the protocol.
* `not_waitCycle_serveAll` — **no schedule of them leads to a cycle of waiting
  transactions**.
-/

namespace SmsLite

open Interleave
open Interleave.Prog (Follows follows_bind follows_map Issues issues_call issues_ite)

/-! ### The order of the locks -/

/-- How far a transaction is with its locks. -/
inductive LockPhase
  /-- It has asked for none. -/
  | begun
  /-- It has asked for the lock of a phone number. -/
  | phoneNumber
  /-- It has asked for the lock of an email address. -/
  | email
  /-- It has written a row. -/
  | written
  deriving DecidableEq, Repr

/-- The locks a transaction may still ask for: one for a phone number and one for an email
address, in this order and before the first write. -/
def LockPhase.mayAsk : LockPhase → AdvisoryLock → Prop
  | begun, lock => lock.1 = namespaceStudentPhone ∨ lock.1 = namespaceStudentEmail
  | phoneNumber, lock => lock.1 = namespaceStudentEmail
  | email, _ | written, _ => False

/-- The phase after a statement. -/
def LockPhase.next (c : LockPhase) : Stmt → LockPhase
  | .advisoryLock lock => if lock.1 = namespaceStudentPhone then .phoneNumber else .email
  | .flushUser _ | .commit _ => .written
  | _ => c

/-- **The protocol of the locks**: at most one for a phone number, then at most one for an
email address, and none after the first write. -/
def contactLocks : Protocol Stmt Stmt.Reply LockPhase where
  allowed c
    | .advisoryLock lock => c.mayAsk lock
    | _ => True
  replies _ _ _ := True
  next c s _ := c.next s

/-- The phases in their order. -/
def LockPhase.level : LockPhase → ℕ
  | begun => 0
  | phoneNumber => 1
  | email => 2
  | written => 2

/-- The namespaces in their order. -/
def lockRank (lock : AdvisoryLock) : ℕ := if lock.1 = namespaceStudentPhone then 1 else 2

/-- The protocol makes a transaction ask for its locks in ascending rank. -/
theorem contactLocks_ascending (env : Env) :
    Ascending (machine env) contactLocks lockRank LockPhase.level where
  asks c s lock hallowed hlock := by
    cases s <;> simp only [machine, reduceCtorEq, Option.some.injEq] at hlock
    subst hlock
    cases c with
    | begun =>
      unfold lockRank
      split <;> decide
    | phoneNumber =>
      have hemail : lockRank _ = 2 := if_neg (by rw [show _ = _ from hallowed]; decide)
      rw [hemail]
      decide
    | email => exact hallowed.elim
    | written => exact hallowed.elim
  takes c s r lock _ hlock := by
    cases s <;> simp only [machine, reduceCtorEq, Option.some.injEq] at hlock
    subst hlock
    change lockRank _ ≤ LockPhase.level (if _ then _ else _)
    unfold lockRank
    split <;> decide
  rises c s r hallowed := by
    have hlevel : c.level ≤ 2 := by cases c <;> decide
    cases s with
    | advisoryLock lock =>
      change c.level ≤ LockPhase.level (if _ then _ else _)
      cases c with
      | begun => exact Nat.zero_le _
      | phoneNumber =>
        split <;> decide
      | email => exact hallowed.elim
      | written => exact hallowed.elim
    | flushUser user => exact hlevel
    | commit work => exact hlevel
    | _ => exact le_rfl
  replies _ _ _ := trivial

/-! ### The operations follow it -/

section Rules

variable {env : Env} {α β : Type} {c : LockPhase} {Q : LockPhase → Prop}

/-- From the phase `c` the program follows the protocol, and returns only with `Q`. -/
def LocksInOrder {α : Type} (c : LockPhase) (p : Service α) (Q : LockPhase → Prop) : Prop :=
  Follows contactLocks (fun c r => ∀ a, r = .ok a → Q c) c p

theorem locksInOrder_bind {p : Service α} {f : α → Service β} {Q' : LockPhase → Prop}
    (hp : LocksInOrder c p Q') (hf : ∀ a c, Q' c → LocksInOrder c (f a) Q) :
    LocksInOrder c (p >>= f) Q := by
  refine (follows_bind p f).mpr (hp.mono fun c r hr => ?_)
  cases r with
  | ok a => exact hf a c (hr a rfl)
  | error e => rintro _ ⟨⟩

theorem locksInOrder_raise (e : Exn) : LocksInOrder c (raise e : Service α) Q := by
  rintro _ ⟨⟩

/-- A statement that neither locks nor writes. -/
theorem locksInOrder_call {s : Stmt} {f : s.Reply → Service β} (hallowed : contactLocks.allowed c s)
    (hnext : c.next s = c) (h : ∀ reply, LocksInOrder c (f reply) Q) :
    LocksInOrder c (Prog.call s >>= f) Q := by
  refine ⟨hallowed, fun reply _ => ?_⟩
  change Follows contactLocks _ (c.next s) (f reply)
  rw [hnext]
  exact h reply

theorem locksInOrder_ite {b : Prop} [Decidable b] {p q : Service α}
    (hthen : LocksInOrder c p Q) (helse : LocksInOrder c q Q) :
    LocksInOrder c (if b then p else q) Q := by
  split
  · exact hthen
  · exact helse

theorem locksInOrder_ofExcept {x : Except Exn α} {f : α → Service β}
    (h : ∀ a, LocksInOrder c (f a) Q) : LocksInOrder c (ofExcept x >>= f) Q := by
  cases x with
  | error e => exact locksInOrder_raise _
  | ok a => exact h a

theorem locksInOrder_deref {name : String} {obj : Option α} {f : α → Service β}
    (h : ∀ a, LocksInOrder c (f a) Q) : LocksInOrder c (deref name obj >>= f) Q := by
  cases obj with
  | none => exact locksInOrder_raise _
  | some a => exact h a

/-- A statement that is no lock. -/
def Stmt.Lockless (s : Stmt) : Prop := ∀ lock, s ≠ .advisoryLock lock

/-- A program without a lock may come in any phase. -/
theorem locksInOrder_of_lockless {p : Service α} (h : OnlyIssues Stmt.Lockless p) :
    LocksInOrder c p fun _ => True := by
  induction p generalizing c with
  | pure a => exact fun _ _ => trivial
  | raise e => exact fun _ _ => trivial
  | stmt s k ih =>
    obtain ⟨hs, hk⟩ := Prog.issues_stmt.mp h
    refine ⟨?_, fun r _ => ih r (hk r trivial)⟩
    cases s with
    | advisoryLock lock => exact absurd rfl (hs lock)
    | _ => trivial

theorem lockless_exceptIntegrityError (mapsUsername mapsContacts : Bool) (e : DbError) :
    OnlyIssues Stmt.Lockless (exceptIntegrityError mapsUsername mapsContacts e : Service α) :=
  issues_exceptIntegrityError (by intro _ h; cases h) _ _ _

/-- A commit is no lock. -/
theorem lockless_tryCommit {work : UnitOfWork} {f : Except DbError Unit → Service α}
    (hok : OnlyIssues Stmt.Lockless (f (.ok ())))
    (herr : ∀ e, OnlyIssues Stmt.Lockless (f (.error e))) :
    OnlyIssues Stmt.Lockless (tryCommit work >>= f) := by
  refine (issues_call (by intro _ h; cases h)).bind fun committed => ?_
  cases committed with
  | error e => exact herr e
  | ok done => exact hok

/-- One half of `acquire_student_contact_lock`. -/
theorem locksInOrder_acquireLockFor {lock : String → AdvisoryLock} (text : Option String)
    (hask : ∀ t, c.mayAsk (lock t)) (hnone : Q c)
    (hsome : ∀ t, Q (c.next (.advisoryLock (lock t)))) :
    LocksInOrder c (acquireLockFor lock text) Q := by
  cases text with
  | none => exact fun _ _ => hnone
  | some text =>
    unfold acquireLockFor
    dsimp only
    split
    · exact fun _ _ => hnone
    · exact ⟨hask text, fun _ _ _ _ => hsome text⟩

theorem locksInOrder_acquireStudentContactLock (phoneNumber email : Option String) :
    LocksInOrder .begun (acquireStudentContactLock env phoneNumber email) fun _ => True := by
  have hphone : ∀ t, LockPhase.begun.next (.advisoryLock (phoneLock env t)) = .phoneNumber :=
    fun t => by simp only [LockPhase.next, phoneLock, if_true]
  have hfirst : LocksInOrder .begun (acquireLockFor (phoneLock env) phoneNumber)
      fun c => c = .begun ∨ c = .phoneNumber :=
    locksInOrder_acquireLockFor _ (fun _ => Or.inl rfl) (Or.inl rfl) fun t => Or.inr (hphone t)
  refine locksInOrder_bind hfirst fun _ c hc => ?_
  rcases hc with rfl | rfl
  · exact locksInOrder_acquireLockFor _ (fun _ => Or.inr rfl) trivial fun _ => trivial
  · exact locksInOrder_acquireLockFor _ (fun _ => rfl) trivial fun _ => trivial

theorem locksInOrder_onlyIf {condition : Bool} {p : Service Unit} (hQ : Q c)
    (h : LocksInOrder c p Q) : LocksInOrder c (onlyIf condition p) Q := by
  cases condition with
  | false => exact fun _ _ => hQ
  | true => exact h

theorem locksInOrder_checkStudentContact (applies : Bool) (phoneNumber email : Option String)
    (exclude : UserId) :
    LocksInOrder .begun (checkStudentContact env applies phoneNumber email exclude)
      fun _ => True := by
  refine locksInOrder_onlyIf trivial ?_
  refine locksInOrder_bind (locksInOrder_acquireStudentContactLock _ _) fun _ c _ => ?_
  refine locksInOrder_of_lockless (issues_checkContactLimit (fun contact => ?_) _ _ _)
  intro _ h
  cases h

end Rules

section Services

variable {env : Env}

theorem registerUser_locksInOrder (currentUserId : UserId) (createRequest : CreateUserRequest) :
    LocksInOrder .begun (registerUser env currentUserId createRequest) fun _ => True := by
  unfold registerUser
  refine locksInOrder_bind (locksInOrder_onlyIf trivial
    (locksInOrder_acquireStudentContactLock _ _)) fun _ c _ => locksInOrder_of_lockless ?_
  refine (issues_checkContactLimit (by intro _ _ h; cases h) _ _ _).bind fun _ => ?_
  refine (issues_call (by intro _ h; cases h)).bind fun rawInviteToken => ?_
  refine (issues_call (by intro _ h; cases h)).bind fun now => ?_
  refine (issues_call (by intro _ h; cases h)).bind fun flushed => ?_
  cases flushed with
  | error e => exact lockless_exceptIntegrityError _ _ e
  | ok id =>
    refine lockless_tryCommit ?_ fun e => lockless_exceptIntegrityError _ _ e
    exact issues_refresh (by intro _ h; cases h)

/-- The query for the user an operation is about. -/
theorem locksInOrder_requireUserById {β : Type} {c : LockPhase} {Q : LockPhase → Prop}
    (id : UserId) (q : UserQuery) {f : Loaded → Service β}
    (hf : ∀ targetUser, LocksInOrder c (f targetUser) Q) :
    LocksInOrder c (getUserById id q >>= fun user => ensureExists user userNotFound >>= f) Q := by
  refine locksInOrder_call trivial rfl fun (reply : Option Loaded) => ?_
  cases reply with
  | none => exact locksInOrder_raise _
  | some targetUser => exact hf targetUser

theorem updateUser_locksInOrder (targetUserId : UserId) (updateRequest : UpdateUserRequest) :
    LocksInOrder .begun (updateUser env targetUserId updateRequest) fun _ => True := by
  unfold updateUser
  refine locksInOrder_requireUserById _ _ fun targetUser => ?_
  refine locksInOrder_ite (locksInOrder_raise _) ?_
  refine locksInOrder_bind (locksInOrder_checkStudentContact _ _ _ _) fun _ c _ =>
    locksInOrder_of_lockless ?_
  refine (issues_updateObject _ _).bind fun user => ?_
  refine lockless_tryCommit ?_ fun e => lockless_exceptIntegrityError _ _ e
  refine (issues_refresh (by intro _ h; cases h)).bind fun refreshed => ?_
  exact (issues_call (by intro _ h; cases h)).bind fun _ => issues_call (by intro _ h; cases h)

theorem updateUserCredentials_locksInOrder (currentUserId targetUserId : UserId)
    (updateRequest : UpdateUserCredentials) :
    LocksInOrder .begun (updateUserCredentials env currentUserId targetUserId updateRequest)
      fun _ => True := by
  unfold updateUserCredentials
  refine locksInOrder_requireUserById _ _ fun targetUser => ?_
  refine locksInOrder_bind (locksInOrder_checkStudentContact _ _ _ _) fun _ c _ =>
    locksInOrder_of_lockless ?_
  refine (issues_updateObject _ _).bind fun user => (issues_deref _ _).bind fun session => ?_
  -- Whether or not the invitation is renewed, a commit comes next, and no lock after it.
  have hdelete : OnlyIssues Stmt.Lockless
      (deleteCache (.accessTokenVersionKey targetUserId :: userDetailKeys targetUserId)) :=
    issues_call (by intro _ h; cases h)
  refine issues_ite (fun _ => ?_) fun _ => ?_
  · refine (issues_reissueInvite (by intro _ h; cases h) (by intro _ h; cases h) _ _ _ _).bind
      fun reissued => ?_
    exact lockless_tryCommit hdelete fun e => lockless_exceptIntegrityError _ _ e
  · exact lockless_tryCommit hdelete fun e => lockless_exceptIntegrityError _ _ e

theorem confirmEmailChange_locksInOrder (currentUserId : UserId)
    (confirmRequest : ConfirmEmailChange) :
    LocksInOrder .begun (confirmEmailChange env currentUserId confirmRequest)
      fun _ => True := by
  unfold confirmEmailChange
  refine locksInOrder_requireUserById _ _ fun targetUser => ?_
  refine locksInOrder_deref fun session => ?_
  split
  · refine locksInOrder_call trivial rfl fun (now : Time) => ?_
    split
    · exact locksInOrder_raise _
    · refine locksInOrder_ite (locksInOrder_raise _) (locksInOrder_ofExcept fun valid => ?_)
      refine locksInOrder_ite (locksInOrder_raise _) ?_
      refine locksInOrder_bind (locksInOrder_checkStudentContact _ _ _ _) fun _ c _ =>
        locksInOrder_of_lockless ?_
      refine lockless_tryCommit ?_ fun e => lockless_exceptIntegrityError _ _ e
      refine (issues_refresh (by intro _ h; cases h)).bind fun refreshed => ?_
      exact (issues_call (by intro _ h; cases h)).bind fun _ => issues_call (by intro _ h; cases h)
  · exact locksInOrder_raise _

end Services

/-! ### No deadlock -/

/-- The operations that lock the contacts of a student. -/
def Request.LocksContacts : Request → Prop
  | .registerUser _ _ | .updateUser _ _ | .updateUserCredentials _ _ _ | .confirmEmailChange _ _ =>
    True
  | _ => False

/-- **Each of the four operations follows the protocol of the locks**, whatever the database
and the other transactions answer. -/
theorem Request.follows_contactLocks (env : Env) {r : Request} (hr : r.LocksContacts) :
    Follows contactLocks (fun _ _ => True) .begun (r.service env) := by
  have hmap : ∀ {α : Type} {p : Service α} (f : α → Response),
      LocksInOrder .begun p (fun _ => True) →
        Follows contactLocks (fun _ _ => True) .begun (f <$> p) := by
    intro α p f h
    exact (follows_map f p).mpr (h.mono fun _ _ _ => trivial)
  cases r with
  | registerUser id request => exact hmap _ (registerUser_locksInOrder id request)
  | updateUser id request => exact hmap _ (updateUser_locksInOrder id request)
  | updateUserCredentials by_ id request =>
    exact hmap _ (updateUserCredentials_locksInOrder by_ id request)
  | confirmEmailChange id request => exact hmap _ (confirmEmailChange_locksInOrder id request)
  | _ => exact hr.elim

section

variable {ι : Type} [DecidableEq ι]

/-- **The advisory locks never deadlock**: each of the four operations asks for at most one
lock of a phone number, then for at most one of an email address, and for none after its first
write; and no schedule of any number of them, from any state and with any keys, leads to a
cycle of transactions that wait for one another's locks. -/
theorem not_waitCycle_serveAll (env : Env) (w : World) (requests : ι → Request)
    (hrequests : ∀ i, (requests i).LocksContacts) :
    (∀ i, Follows contactLocks (fun _ _ => True) .begun ((requests i).service env)) ∧
      ∀ (schedule : Schedule ι) (p : Pool Stmt Stmt.Reply Exn Response World ι AdvisoryLock),
        w.serveAll env requests schedule = some p → ¬ p.WaitCycle (machine env) := by
  have hfollows := fun i => Request.follows_contactLocks env (hrequests i)
  refine ⟨hfollows, fun schedule p h => ?_⟩
  exact Pool.not_waitCycle (contactLocks_ascending env) (fun _ => .begun) (fun _ => rfl) hfollows h

end

/-- Two students with the same contacts are registered at once. -/
def registerTwins (_ : Fin 2) : Request :=
  .registerUser 1 (.student
    { username := "hopper", firstname := "Grace", lastname := "Hopper", middlename := none
      phoneNumber := ⟨"+992917000003", isE164_grace⟩
      email := ⟨"grace@school.org", emailPattern_grace⟩ }
    { year := 2010, month := 12, day := 9 } none)

/-- The second waits for the first, which holds both locks and waits for nobody. -/
theorem not_waitCycle_twins :
    ∃ p, World.concrete.serveAll Env.concrete registerTwins [.run 0, .run 0] = some p ∧
      p.Waits (machine Env.concrete) 1 0 ∧ ¬ p.WaitCycle (machine Env.concrete) := by
  refine ⟨_, rfl, ⟨_, _, rfl, rfl, ?_, by decide⟩, ?_⟩
  · decide +kernel
  · exact (not_waitCycle_serveAll Env.concrete World.concrete registerTwins
      fun _ => trivial).2 [.run 0, .run 0] _ rfl

end SmsLite
