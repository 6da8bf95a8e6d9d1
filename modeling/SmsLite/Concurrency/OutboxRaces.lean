import Mathlib.Data.Fintype.Basic
import SmsLite.Lib.Pool
import SmsLite.Outbox.Delivery

/-!
# Races for a row of the outbox

The worker loads a batch of rows and attempts them one after the other; an administrator's retry
loads one of them and resets it.  Each commits the columns that differ from its own copy, so a
commit may keep the counter of the one and the status of the other.  This module says when it
does not: while every retry resets the row it commits to and no failed attempt counts for a row
that was reset under it.

## Main definitions

* `runEmailWorker` — the loop of the worker.
* `Turn`, `outboxProtocol` — what the worker and the retries may do next.
* `Turn.Spares`, `Apart` — the condition on the steps of a schedule.
* `Outbox.Settled`, `Turns` — the invariant.
* `Counted` — the failed sends since a retry.

## Main results

* `runEmailWorker_follows`, `retryFailedEmail_follows` — the programs follow the protocol.
* `Turns.inductive`, `Counted.inductive` — every step keeps the invariants.
* `outbox_apart` — **under `Apart` a row is failed exactly if its count is three, and after a
  retry only by three sends that failed since**.
-/

namespace SmsLite

open Interleave
open Interleave.Prog (Follows follows_bind follows_call follows_attempt)

/-! ### Programs -/

/-- `run_email_worker` for a number of turns: a batch that raises is logged, and the next one
begins. -/
def runEmailWorker : ℕ → OutboxProg Unit
  | 0 => pure ()
  | turns + 1 => do
    let _ ← Prog.attempt processBatch
    runEmailWorker turns

/-- What happens beside the worker and the retries. -/
inductive OutboxOutside
  /-- A request commits a new row. -/
  | enqueue (createdAt : Time) (e : NewPendingEmail)
  | tick (d : ℕ)
  | expire (emailId : ℕ)
  deriving DecidableEq, Repr

/-- The system the programs run against; nobody takes a lock. -/
def outboxMachine (provider : Provider) :
    Machine OutboxStmt OutboxStmt.Reply Outbox Empty OutboxOutside where
  exec := OutboxStmt.exec provider
  lock? _ := none
  frees _ _ := false
  env
    | .enqueue createdAt e, o => o.enqueue createdAt e
    | .tick d, o => { o with clock := o.clock + d }
    | .expire emailId, o => { o with cache := Function.update o.cache emailId none }

/-- A pool of the worker and retries. -/
abbrev OutboxPool (ι : Type) := Pool OutboxStmt OutboxStmt.Reply Exn Unit Outbox ι Empty

/-! ### The protocol -/

/-- How far a program has come. -/
inductive Turn
  /-- The worker: the rows of the batch that are left, and the one handed to `send`. -/
  | worker (held : List PendingEmail) (inFlight : Option (PendingEmail × SendOutcome))
  /-- A retry, and the row it has loaded. -/
  | retry (emailId : ℕ) (loaded : Option PendingEmail)
  /-- A retry whose commit went through. -/
  | retried (emailId : ℕ)

/-- The statements a program may issue. -/
inductive Turn.Moves : Turn → OutboxStmt → Prop
  | batch (held : List PendingEmail) (limit : ℕ) :
      Moves (.worker held none) (.getPendingEmails limit)
  | send (record : PendingEmail) (held : List PendingEmail) :
      Moves (.worker (record :: held) none) (.send record)
  | now (held : List PendingEmail) (x : PendingEmail × SendOutcome) :
      Moves (.worker held (some x)) .now
  | delivered (held : List PendingEmail) (record : PendingEmail) (now : Time) :
      Moves (.worker held (some (record, .delivered))) (.commit record (record.markSent now))
  | failed (held : List PendingEmail) (record : PendingEmail) (error : String) :
      Moves (.worker held (some (record, .raised error)))
        (.commit record (record.markFailedAttempt error))
  | load (emailId : ℕ) : Moves (.retry emailId none) (.getEmailById emailId)
  | reset (emailId : ℕ) (record : PendingEmail) :
      Moves (.retry emailId (some record)) (.commit record record.resetForRetry)

/-- Where a reply leads. -/
def Turn.next : Turn → (s : OutboxStmt) → s.Reply → Turn
  | .worker _ _, .getPendingEmails _, pending => .worker pending none
  | .worker held _, .send record, outcome => .worker held.tail (some (record, outcome))
  | .worker held _, .commit _ _, .ok () => .worker held none
  | .worker _ _, .commit _ _, .error _ => .worker [] none
  | .retry emailId _, .getEmailById _, loaded => .retry emailId loaded
  | .retry emailId _, .commit _ _, .ok () => .retried emailId
  | c, _, _ => c

/-- The protocol of the outbox. -/
def outboxProtocol : Protocol OutboxStmt OutboxStmt.Reply Turn where
  allowed := Turn.Moves
  replies _ _ _ := True
  next := Turn.next

/-- How a program may end: a retry returns only after its commit. -/
def Turn.ends : Turn → Except Exn Unit → Prop
  | .retry _ _, .ok _ => False
  | _, _ => True

section Programs

variable {held : List PendingEmail} {record : PendingEmail}

/-- The `for` body. -/
theorem processRecord_follows (record : PendingEmail) (held : List PendingEmail) :
    Follows outboxProtocol (fun c r => match r with
        | .ok _ => c = .worker held none
        | .error _ => c = .worker [] none)
      (.worker (record :: held) none) (processRecord record) := by
  unfold processRecord
  refine follows_call (.send record held) fun outcome _ => ?_
  change Follows _ _ (Turn.worker held (some (record, outcome))) _
  cases outcome with
  | delivered =>
    refine follows_call (.now held (record, .delivered)) fun now _ => ?_
    refine follows_call (.delivered held record now) fun reply _ => ?_
    cases reply with
    | ok _ => rfl
    | error e => rfl
  | raised error =>
    refine follows_call (.failed held record error) fun reply _ => ?_
    cases reply with
    | ok _ => rfl
    | error e => rfl

/-- The loop. -/
theorem processRecords_follows (pending : List PendingEmail) :
    Follows outboxProtocol (fun c _ => ∃ held, c = .worker held none) (.worker pending none)
      (processRecords pending) := by
  induction pending with
  | nil => exact ⟨[], rfl⟩
  | cons record pending ih =>
    unfold processRecords
    rw [follows_bind]
    refine (processRecord_follows record pending).mono fun c r hr => ?_
    cases r with
    | ok _ =>
      subst hr
      exact ih
    | error e => exact ⟨[], hr⟩

/-- A batch. -/
theorem processBatch_follows (held : List PendingEmail) :
    Follows outboxProtocol (fun c _ => ∃ held, c = .worker held none) (.worker held none)
      processBatch := by
  unfold processBatch
  exact follows_call (.batch held batchSize) fun pending _ => processRecords_follows pending

/-- **The worker follows the protocol.** -/
theorem runEmailWorker_follows (turns : ℕ) (held : List PendingEmail) :
    Follows outboxProtocol Turn.ends (.worker held none) (runEmailWorker turns) := by
  induction turns generalizing held with
  | zero => trivial
  | succ turns ih =>
    unfold runEmailWorker
    rw [follows_bind, follows_attempt]
    refine (processBatch_follows held).mono fun c r hr => ?_
    obtain ⟨held', rfl⟩ := hr
    exact ih held'

/-- **A retry follows the protocol.** -/
theorem retryFailedEmail_follows (emailId : ℕ) :
    Follows outboxProtocol Turn.ends (.retry emailId none)
      (PendingEmailService.retryFailedEmail emailId) := by
  unfold PendingEmailService.retryFailedEmail
  refine follows_call (.load emailId) fun reply _ => ?_
  cases reply with
  | none => trivial
  | some record =>
    refine follows_call (.reset emailId record) fun reply _ => ?_
    cases reply with
    | ok _ => trivial
    | error e => trivial

end Programs

/-! ### The condition -/

/-- A failed attempt on the row is under way. -/
def Turn.failing (emailId : ℕ) : Turn → ℕ
  | .worker _ (some (record, .raised _)) => if record.id = emailId then 1 else 0
  | _ => 0

/-- The commit of a retry resets the row: it leaves neither an old count nor a failed status. -/
def Resets (loaded : PendingEmail) (o : Outbox) : Prop :=
  ∀ r ∈ o.rows, r.id = loaded.id →
    (loaded.retryCount = 0 → r.retryCount = 0) ∧ (loaded.status = .pending → r.status ≠ .failed)

/-- The commit of an attempt counts from the stored count. -/
def Recounts (loaded : PendingEmail) (o : Outbox) : Prop :=
  ∀ r ∈ o.rows, r.id = loaded.id → r.retryCount = loaded.retryCount

instance (loaded : PendingEmail) (o : Outbox) : Decidable (Resets loaded o) :=
  inferInstanceAs (Decidable (∀ r ∈ o.rows, _ → _))

instance (loaded : PendingEmail) (o : Outbox) : Decidable (Recounts loaded o) :=
  inferInstanceAs (Decidable (∀ r ∈ o.rows, _ → _))

/-- A retry resets the row it commits to, while no failed attempt on it is under way; a failed
attempt counts from the stored count. -/
def Turn.Spares {ι : Type} (o : Outbox) (c : ι → Turn) : Turn → OutboxStmt → Prop
  | .retry _ _, .commit loaded _ => Resets loaded o ∧ ∀ j, (c j).failing loaded.id = 0
  | .worker _ (some (_, .raised _)), .commit loaded _ => Recounts loaded o
  | _, _ => True

instance {ι : Type} [Fintype ι] (o : Outbox) (c : ι → Turn) :
    (t : Turn) → (s : OutboxStmt) → Decidable (t.Spares o c s)
  | .retry _ _, .commit loaded _ =>
    inferInstanceAs (Decidable (Resets loaded o ∧ ∀ j, (c j).failing loaded.id = 0))
  | .worker _ (some (_, .raised _)), .commit loaded _ =>
    inferInstanceAs (Decidable (Recounts loaded o))
  | .worker _ none, _ | .worker _ (some (_, .delivered)), _ | .retried _, _ => isTrue trivial
  | .worker _ (some (_, .raised _)), .now | .worker _ (some (_, .raised _)), .send _
  | .worker _ (some (_, .raised _)), .getPendingEmails _
  | .worker _ (some (_, .raised _)), .getEmailById _
  | .worker _ (some (_, .raised _)), .getCache _
  | .worker _ (some (_, .raised _)), .setCache _ _ => isTrue trivial
  | .retry _ _, .now | .retry _ _, .send _ | .retry _ _, .getPendingEmails _
  | .retry _ _, .getEmailById _ | .retry _ _, .getCache _ | .retry _ _, .setCache _ _ =>
    isTrue trivial

/-- Every commit that goes through spares what the others have done to the row. -/
def Apart {ι : Type} (provider : Provider) (p : OutboxPool ι) (c : ι → Turn) :
    Label ι OutboxOutside → Prop
  | .run i => ∀ s ∈ (p.prog i).head?, provider.commit p.world = none → (c i).Spares p.world c s
  | .env _ => True

instance {ι : Type} [Fintype ι] (provider : Provider) (p : OutboxPool ι) (c : ι → Turn) :
    (l : Label ι OutboxOutside) → Decidable (Apart provider p c l)
  | .run i => inferInstanceAs (Decidable (∀ s ∈ (p.prog i).head?, _ → (c i).Spares p.world c s))
  | .env _ => isTrue trivial

/-- What the condition says of the commit of a running program. -/
theorem Apart.spares {ι : Type} {provider : Provider} {p : OutboxPool ι} {c : ι → Turn} {i : ι}
    {s : OutboxStmt} {k : s.Reply → OutboxProg Unit} (h : Apart provider p c (.run i))
    (hp : p.prog i = .stmt s k) (hcommit : provider.commit p.world = none) :
    (c i).Spares p.world c s := by
  apply h s ?_ hcommit
  rw [hp]
  rfl

/-! ### The invariant -/

/-- A row is failed exactly if its count is three. -/
structure Outbox.Settled (o : Outbox) : Prop extends o.Tables where
  failed_iff : ∀ r ∈ o.rows, r.status = .failed ↔ 3 ≤ r.retryCount

/-- The worker holds copies of different rows, none of which has failed since. -/
structure Outbox.Holds (o : Outbox) (copies : List PendingEmail) : Prop where
  nodup : (copies.map (·.id)).Nodup
  eligible : ∀ record ∈ copies, record.eligible = true
  fresh : ∀ record ∈ copies, record.id < o.idSeq
  count : ∀ record ∈ copies, ∀ r ∈ o.rows, r.id = record.id → r.retryCount < 3

/-- The row handed to `send`. -/
def Turn.copies (held : List PendingEmail) (inFlight : Option (PendingEmail × SendOutcome)) :
    List PendingEmail :=
  (inFlight.map (·.1)).toList ++ held

/-- What holds between any two steps. -/
structure Turns {ι : Type} (worker : ι) (o : Outbox) (_owner : Empty → Option ι) (c : ι → Turn) :
    Prop where
  settled : o.Settled
  sole : ∀ i held inFlight, c i = .worker held inFlight → i = worker
  holds : ∀ i held inFlight, c i = .worker held inFlight → o.Holds (Turn.copies held inFlight)
  loaded : ∀ i emailId r, c i = .retry emailId (some r) → r.id = emailId ∧ r.id < o.idSeq

section Invariant

variable {o : Outbox} {copies : List PendingEmail}

/-- A commit that writes to one row keeps the table settled if it does so with the row. -/
theorem Outbox.Settled.write (hs : o.Settled) {loaded current : PendingEmail}
    (hrow : ∀ r ∈ o.rows, r.id = loaded.id →
      ((PendingEmail.write loaded current r).status = .failed ↔
        3 ≤ (PendingEmail.write loaded current r).retryCount)) :
    Outbox.Settled
      { o with rows := Keyed.modify o.rows loaded.id (PendingEmail.write loaded current) } := by
  have hid : ∀ r, Keyed.key (PendingEmail.write loaded current r) = Keyed.key r := fun _ => rfl
  refine ⟨⟨?_, fun r hr => ?_, hs.sends⟩, fun r hr => ?_⟩
  · rw [show Keyed.keys (Keyed.modify o.rows loaded.id (PendingEmail.write loaded current)) = _ from
      Keyed.keys_modify _ _ hid]
    exact hs.nodup
  · rcases Keyed.mem_modify.mp hr with ⟨r₀, hr₀, -, rfl⟩ | ⟨hr, -⟩
    · exact hs.fresh r₀ hr₀
    · exact hs.fresh r hr
  · rcases Keyed.mem_modify.mp hr with ⟨r₀, hr₀, hkey, rfl⟩ | ⟨hr, -⟩
    · exact hrow r₀ hr₀ hkey
    · exact hs.failed_iff r hr

/-- Copies stay good as long as the counts of their rows stay below three. -/
theorem Outbox.Holds.write (h : o.Holds copies) {loaded current : PendingEmail}
    (hrow : ∀ r ∈ o.rows, r.id = loaded.id → r.retryCount < 3 → loaded.id ∈ copies.map (·.id) →
      (PendingEmail.write loaded current r).retryCount < 3) :
    Outbox.Holds
      { o with rows := Keyed.modify o.rows loaded.id (PendingEmail.write loaded current) }
      copies := by
  refine ⟨h.nodup, h.eligible, h.fresh, fun record hrecord r hr hid => ?_⟩
  rcases Keyed.mem_modify.mp hr with ⟨r₀, hr₀, hkey, rfl⟩ | ⟨hr, -⟩
  · have hkey : r₀.id = loaded.id := hkey
    have hid : r₀.id = record.id := hid
    refine hrow r₀ hr₀ hkey (h.count record hrecord r₀ hr₀ hid) ?_
    rw [← hkey, hid]
    exact List.mem_map_of_mem hrecord
  · exact h.count record hrecord r hr hid

/-- The copies of a new batch. -/
theorem Outbox.Settled.holds_selected (hs : o.Settled) (rank : ℕ → ℕ) (limit : ℕ) :
    o.Holds (selectPendingEmails rank o.rows limit) := by
  have hmem : ∀ record ∈ selectPendingEmails rank o.rows limit,
      record ∈ o.rows ∧ record.eligible = true := fun _ h => mem_of_mem_selectPendingEmails h
  refine ⟨nodup_selectPendingEmails hs.nodup rank limit, fun record h => (hmem record h).2,
    fun record h => hs.fresh record (hmem record h).1, fun record h r hr hid => ?_⟩
  obtain ⟨hrecord, heligible⟩ := hmem record h
  have hget := Keyed.get?_of_mem hs.nodup hr
  rw [key_pendingEmail, hid] at hget
  obtain rfl := Keyed.get?_inj hget (Keyed.get?_of_mem hs.nodup hrecord)
  simp only [PendingEmail.eligible, Bool.and_eq_true, decide_eq_true_eq] at heligible
  exact heligible.2

theorem Outbox.holds_nil (o : Outbox) : o.Holds [] :=
  ⟨List.nodup_nil, fun _ h => absurd h List.not_mem_nil, fun _ h => absurd h List.not_mem_nil,
    fun _ h => absurd h List.not_mem_nil⟩

/-- Fewer copies. -/
theorem Outbox.Holds.tail {record : PendingEmail} (h : o.Holds (record :: copies)) :
    o.Holds copies :=
  ⟨(List.nodup_cons.mp h.nodup).2, fun r hr => h.eligible r (List.mem_cons_of_mem _ hr),
    fun r hr => h.fresh r (List.mem_cons_of_mem _ hr),
    fun r hr => h.count r (List.mem_cons_of_mem _ hr)⟩

/-- What does not touch the rows keeps the copies good. -/
theorem Outbox.Holds.congr {o' : Outbox} (h : o.Holds copies) (hrows : o'.rows = o.rows)
    (hseq : o'.idSeq = o.idSeq) : o'.Holds copies := by
  refine ⟨h.nodup, h.eligible, ?_, ?_⟩
  · rw [hseq]
    exact h.fresh
  · rw [hrows]
    exact h.count

/-- A new row is none of the copies. -/
theorem Outbox.Holds.enqueue (h : o.Holds copies) (createdAt : Time) (e : NewPendingEmail) :
    (o.enqueue createdAt e).Holds copies := by
  refine ⟨h.nodup, h.eligible, fun r hr => (h.fresh r hr).trans (Nat.lt_succ_self _),
    fun record hrecord r hr hid => ?_⟩
  rcases List.mem_append.mp hr with hr | hr
  · exact h.count record hrecord r hr hid
  · rw [List.mem_singleton.mp hr]
    show 0 < 3
    omega

/-- What touches neither the rows nor the log keeps the table settled. -/
theorem Outbox.Settled.congr {o' : Outbox} (hs : o.Settled) (hrows : o'.rows = o.rows)
    (hsends : o'.sends = o.sends) (hseq : o'.idSeq = o.idSeq) : o'.Settled := by
  refine ⟨⟨?_, ?_, ?_⟩, ?_⟩
  · rw [hrows]
    exact hs.nodup
  · rw [hrows, hseq]
    exact hs.fresh
  · rw [hsends, hseq]
    exact hs.sends
  · rw [hrows]
    exact hs.failed_iff

/-- So does a new row. -/
theorem Outbox.Settled.enqueue (hs : o.Settled) (createdAt : Time) (e : NewPendingEmail) :
    (o.enqueue createdAt e).Settled := by
  refine ⟨hs.toTables.enqueue createdAt e, fun r hr => ?_⟩
  rcases List.mem_append.mp hr with hr | hr
  · exact hs.failed_iff r hr
  · rw [List.mem_singleton.mp hr]
    exact iff_of_false (fun h => by cases h) (show ¬ 3 ≤ 0 by omega)

/-- And handing a row of the table to `send`. -/
theorem Outbox.Settled.send (hs : o.Settled) (provider : Provider) {record : PendingEmail}
    (hfresh : record.id < o.idSeq) :
    (OutboxStmt.exec provider (.send record) o).2.Settled := by
  refine ⟨⟨hs.nodup, hs.fresh, fun x hx => ?_⟩, hs.failed_iff⟩
  rcases List.mem_append.mp hx with hx | hx
  · exact hs.sends x hx
  · rw [List.mem_singleton.mp hx]
    exact hfresh

/-- What an eligible row looks like. -/
theorem PendingEmail.eligible_iff {r : PendingEmail} :
    r.eligible = true ↔ r.status = .pending ∧ r.retryCount < 3 := by
  simp [eligible]

/-- What the three commits write. -/
theorem PendingEmail.write_delivered {record : PendingEmail} (h : record.eligible = true)
    (now : Time) (r : PendingEmail) :
    (PendingEmail.write record (record.markSent now) r).status = .sent ∧
      (PendingEmail.write record (record.markSent now) r).retryCount = r.retryCount := by
  obtain ⟨hstatus, -⟩ := PendingEmail.eligible_iff.mp h
  constructor
  · refine written_of_ne _ ?_
    rw [hstatus]
    exact fun h => by cases h
  · exact written_self _ _

theorem PendingEmail.write_failed {record : PendingEmail} (h : record.eligible = true)
    (error : String) (r : PendingEmail) :
    (PendingEmail.write record (record.markFailedAttempt error) r).status =
        (if 3 ≤ record.retryCount + 1 then .failed else r.status) ∧
      (PendingEmail.write record (record.markFailedAttempt error) r).retryCount =
        record.retryCount + 1 := by
  obtain ⟨hstatus, -⟩ := PendingEmail.eligible_iff.mp h
  constructor
  · by_cases hlast : 3 ≤ record.retryCount + 1
    · simp only [PendingEmail.write, PendingEmail.markFailedAttempt, hlast, if_true, hstatus]
      exact written_of_ne _ fun h => by cases h
    · simp only [PendingEmail.write, PendingEmail.markFailedAttempt, hlast, if_false]
      exact written_self _ _
  · exact written_of_ne _ (Nat.succ_ne_self _)

theorem PendingEmail.write_reset {record r : PendingEmail}
    (hresets : (record.retryCount = 0 → r.retryCount = 0) ∧
      (record.status = .pending → r.status ≠ .failed)) :
    (PendingEmail.write record record.resetForRetry r).status ≠ .failed ∧
      (PendingEmail.write record record.resetForRetry r).retryCount = 0 := by
  constructor
  · by_cases hstatus : record.status = .pending
    · simp only [PendingEmail.write, PendingEmail.resetForRetry, hstatus]
      rw [written_self]
      exact hresets.2 hstatus
    · simp only [PendingEmail.write, PendingEmail.resetForRetry]
      rw [written_of_ne _ (Ne.symm hstatus)]
      exact fun h => by cases h
  · by_cases hcount : record.retryCount = 0
    · simp only [PendingEmail.write, PendingEmail.resetForRetry, hcount]
      rw [written_self]
      exact hresets.1 hcount
    · simp only [PendingEmail.write, PendingEmail.resetForRetry]
      exact written_of_ne _ (Ne.symm hcount)

end Invariant

/-- A commit that goes through. -/
theorem OutboxStmt.exec_commit_ok {provider : Provider} {o : Outbox} (h : provider.commit o = none)
    (loaded current : PendingEmail) :
    OutboxStmt.exec provider (.commit loaded current) o =
      (.ok (), { o with
        rows := Keyed.modify o.rows loaded.id (PendingEmail.write loaded current) }) := by
  simp only [OutboxStmt.exec, h]

/-- A commit that fails. -/
theorem OutboxStmt.exec_commit_error {provider : Provider} {o : Outbox} {e : DbError}
    (h : provider.commit o = some e) (loaded current : PendingEmail) :
    OutboxStmt.exec provider (.commit loaded current) o = (.error e, o) := by
  simp only [OutboxStmt.exec, h]

section Inductive

variable {ι : Type} [DecidableEq ι] {provider : Provider} {worker : ι} {o o' : Outbox}
  {owner owner' : Empty → Option ι} {c : ι → Turn} {i : ι}

/-- A step of the worker. -/
theorem Turns.worker_step (h : Turns worker o owner c) {held held' : List PendingEmail}
    {inFlight inFlight' : Option (PendingEmail × SendOutcome)}
    (hi : c i = .worker held inFlight) (hsettled : o'.Settled)
    (hholds : o'.Holds (Turn.copies held' inFlight')) (hseq : o'.idSeq = o.idSeq) :
    Turns worker o' owner' (Function.update c i (.worker held' inFlight')) := by
  have hsole : i = worker := h.sole i held inFlight hi
  refine ⟨hsettled, fun j held₁ inFlight₁ hj => ?_, fun j held₁ inFlight₁ hj => ?_,
    fun j emailId r hj => ?_⟩
  · by_cases hji : j = i
    · exact hji.trans hsole
    · rw [Function.update_of_ne hji] at hj
      exact h.sole j held₁ inFlight₁ hj
  · by_cases hji : j = i
    · subst hji
      rw [Function.update_self] at hj
      cases hj
      exact hholds
    · rw [Function.update_of_ne hji] at hj
      exact absurd ((h.sole j held₁ inFlight₁ hj).trans hsole.symm) hji
  · by_cases hji : j = i
    · subst hji
      rw [Function.update_self] at hj
      cases hj
    · rw [Function.update_of_ne hji] at hj
      rw [hseq]
      exact h.loaded j emailId r hj

/-- A step of a retry, which leaves the copies of the worker good. -/
theorem Turns.retry_step (h : Turns worker o owner c) {t : Turn}
    (hretry : ∀ held inFlight, t ≠ .worker held inFlight)
    (hloaded : ∀ emailId r, t = .retry emailId (some r) → r.id = emailId ∧ r.id < o.idSeq)
    (hsettled : o'.Settled) (hholds : ∀ copies, o.Holds copies → o'.Holds copies)
    (hseq : o'.idSeq = o.idSeq) : Turns worker o' owner' (Function.update c i t) := by
  refine ⟨hsettled, fun j held inFlight hj => ?_, fun j held inFlight hj => ?_,
    fun j emailId r hj => ?_⟩
  · by_cases hji : j = i
    · subst hji
      rw [Function.update_self] at hj
      exact absurd hj (hretry held inFlight)
    · rw [Function.update_of_ne hji] at hj
      exact h.sole j held inFlight hj
  · by_cases hji : j = i
    · subst hji
      rw [Function.update_self] at hj
      exact absurd hj (hretry held inFlight)
    · rw [Function.update_of_ne hji] at hj
      exact hholds _ (h.holds j held inFlight hj)
  · rw [hseq]
    by_cases hji : j = i
    · subst hji
      rw [Function.update_self] at hj
      exact hloaded emailId r hj
    · rw [Function.update_of_ne hji] at hj
      exact h.loaded j emailId r hj

/-- A commit of the worker that goes through. -/
theorem Turns.worker_commit (h : Turns worker o owner c) {held : List PendingEmail}
    {record current : PendingEmail} {outcome : SendOutcome}
    (hi : c i = .worker held (some (record, outcome)))
    (hrow : ∀ r ∈ o.rows, r.id = record.id → r.retryCount < 3 →
      ((PendingEmail.write record current r).status = .failed ↔
        3 ≤ (PendingEmail.write record current r).retryCount)) :
    Turns worker
      { o with rows := Keyed.modify o.rows record.id (PendingEmail.write record current) } owner'
      (Function.update c i (.worker held none)) := by
  have hholds : o.Holds (record :: held) := h.holds i held _ hi
  refine h.worker_step hi (h.settled.write fun r hr hid => ?_) ?_ rfl
  · exact hrow r hr hid (hholds.count record List.mem_cons_self r hr hid)
  · -- The copies that are left are of other rows.
    refine hholds.tail.write fun r hr hid hcount hmem => ?_
    exact absurd hmem (List.nodup_cons.mp hholds.nodup).1

/-- A delivery is recorded. -/
theorem Turns.commit_delivered (h : Turns worker o owner c) {held : List PendingEmail}
    {record : PendingEmail} (hi : c i = .worker held (some (record, .delivered))) (now : Time) :
    Turns worker
      { o with
        rows := Keyed.modify o.rows record.id
          (PendingEmail.write record (record.markSent now)) } owner'
      (Function.update c i (.worker held none)) := by
  have hholds : o.Holds (record :: held) := h.holds i held _ hi
  refine h.worker_commit hi fun r hr hid hcount => ?_
  obtain ⟨hstatus, hsame⟩ :=
    PendingEmail.write_delivered (hholds.eligible record List.mem_cons_self) now r
  rw [hstatus, hsame]
  exact iff_of_false (fun h => by cases h) (not_le.mpr hcount)

/-- A failed attempt is recorded. -/
theorem Turns.commit_failed (h : Turns worker o owner c) {held : List PendingEmail}
    {record : PendingEmail} {error : String}
    (hi : c i = .worker held (some (record, .raised error))) :
    Turns worker
      { o with
        rows := Keyed.modify o.rows record.id
          (PendingEmail.write record (record.markFailedAttempt error)) } owner'
      (Function.update c i (.worker held none)) := by
  have hholds : o.Holds (record :: held) := h.holds i held _ hi
  refine h.worker_commit hi fun r hr hid hcount => ?_
  obtain ⟨hstatus, hnew⟩ :=
    PendingEmail.write_failed (hholds.eligible record List.mem_cons_self) error r
  rw [hstatus, hnew]
  by_cases hlast : 3 ≤ record.retryCount + 1
  · exact iff_of_true (if_pos hlast) hlast
  · rw [if_neg hlast]
    refine iff_of_false (fun hfailed => ?_) hlast
    have hthree := (h.settled.failed_iff r hr).mp hfailed
    omega

/-- A retry resets its row. -/
theorem Turns.commit_reset (h : Turns worker o owner c) {record : PendingEmail}
    (hresets : Resets record o) (emailId : ℕ) :
    Turns worker
      { o with
        rows := Keyed.modify o.rows record.id
          (PendingEmail.write record record.resetForRetry) } owner'
      (Function.update c i (.retried emailId)) := by
  refine h.retry_step (fun _ _ h => by cases h) (fun _ _ h => by cases h)
    (h.settled.write fun r hr hid => ?_)
    (fun copies hholds => hholds.write fun r hr hid _ _ => ?_) rfl
  · obtain ⟨hstatus, hcount⟩ := PendingEmail.write_reset (hresets r hr hid)
    rw [hcount]
    exact iff_of_false hstatus (by omega)
  · rw [(PendingEmail.write_reset (hresets r hr hid)).2]
    omega

omit [DecidableEq ι] in
/-- A new row. -/
theorem Turns.enqueue (h : Turns worker o owner c) (createdAt : Time) (e : NewPendingEmail) :
    Turns worker (o.enqueue createdAt e) owner' c := by
  refine ⟨h.settled.enqueue createdAt e, h.sole, fun i held inFlight hi => ?_,
    fun i emailId r hi => ?_⟩
  · exact (h.holds i held inFlight hi).enqueue createdAt e
  · obtain ⟨hid, hfresh⟩ := h.loaded i emailId r hi
    exact ⟨hid, hfresh.trans (Nat.lt_succ_self _)⟩

omit [DecidableEq ι] in
/-- What touches neither the rows nor the log. -/
theorem Turns.congr (h : Turns worker o owner c) (hrows : o'.rows = o.rows)
    (hsends : o'.sends = o.sends) (hseq : o'.idSeq = o.idSeq) : Turns worker o' owner' c := by
  refine ⟨h.settled.congr hrows hsends hseq, h.sole, fun i held inFlight hi => ?_, ?_⟩
  · exact (h.holds i held inFlight hi).congr hrows hseq
  · rw [hseq]
    exact h.loaded

/-- **Every step of a schedule that meets the condition keeps the invariant.** -/
theorem Turns.inductive (provider : Provider) (worker : ι) :
    Pool.Inductive (outboxMachine provider) outboxProtocol Turn.ends
      (fun c (_ : Except Exn Unit) => c) (Apart provider) (Turns worker) where
  stmt p c i s k hinv hp hallowed _ hapart := by
    refine ⟨trivial, ?_⟩
    have hspares := Apart.spares hapart hp
    change Turns worker (OutboxStmt.exec provider s p.world).2 _
      (Function.update c i (Turn.next (c i) s (OutboxStmt.exec provider s p.world).1))
    change (c i).Moves s at hallowed
    generalize hi : c i = t at hallowed hspares ⊢
    cases hallowed with
    | batch held limit =>
      exact hinv.worker_step hi hinv.settled (hinv.settled.holds_selected _ limit) rfl
    | send record held =>
      have hholds : p.world.Holds (record :: held) := hinv.holds i _ _ hi
      have hfresh := hholds.fresh record List.mem_cons_self
      exact hinv.worker_step hi (hinv.settled.send provider hfresh) (hholds.congr rfl rfl) rfl
    | now held x => exact hinv.worker_step hi hinv.settled (hinv.holds i _ _ hi) rfl
    | delivered held record now =>
      cases hcommit : provider.commit p.world with
      | some e =>
        rw [OutboxStmt.exec_commit_error hcommit]
        exact hinv.worker_step hi hinv.settled (Outbox.holds_nil _) rfl
      | none =>
        rw [OutboxStmt.exec_commit_ok hcommit]
        exact hinv.commit_delivered hi now
    | failed held record error =>
      cases hcommit : provider.commit p.world with
      | some e =>
        rw [OutboxStmt.exec_commit_error hcommit]
        exact hinv.worker_step hi hinv.settled (Outbox.holds_nil _) rfl
      | none =>
        rw [OutboxStmt.exec_commit_ok hcommit]
        exact hinv.commit_failed hi
    | load emailId =>
      refine hinv.retry_step (fun _ _ h => by cases h) (fun id r h => ?_) hinv.settled
        (fun _ h => h) rfl
      simp only [Turn.next, OutboxStmt.exec, Turn.retry.injEq] at h
      obtain ⟨rfl, hget⟩ := h
      have hmem : r ∈ p.world.rows := Keyed.mem_of_get? hget
      exact ⟨Keyed.key_of_get? hget, hinv.settled.fresh r hmem⟩
    | reset emailId record =>
      cases hcommit : provider.commit p.world with
      | some e =>
        rw [OutboxStmt.exec_commit_error hcommit]
        refine hinv.retry_step (fun _ _ h => by cases h) (fun id r h => ?_) hinv.settled
          (fun _ h => h) rfl
        exact hinv.loaded i id r (hi.trans h)
      | none =>
        rw [OutboxStmt.exec_commit_ok hcommit]
        exact hinv.commit_reset (hspares hcommit).1 emailId
  fin w owner c i r hinv _ := by
    rw [Function.update_eq_self]
    exact hinv.congr rfl rfl rfl
  env w owner c a hinv := by
    cases a with
    | enqueue createdAt e => exact hinv.enqueue createdAt e
    | tick d => exact hinv.congr rfl rfl rfl
    | expire emailId => exact hinv.congr rfl rfl rfl

/-! ### The failed sends since a retry -/

/-- The row has failed as often as its count says, since the moment when it had failed `base`
times; an attempt that is under way is yet to be counted. -/
structure Counted (worker : ι) (emailId base : ℕ) (o : Outbox) (_owner : Empty → Option ι)
    (c : ι → Turn) : Prop where
  fresh : emailId < o.idSeq
  count : ∀ r ∈ o.rows, r.id = emailId →
    base + r.retryCount + (c worker).failing emailId ≤ o.failures emailId

omit [DecidableEq ι] in
/-- What changes neither the table nor the log. -/
theorem Counted.congr {emailId base : ℕ} {c' : ι → Turn} (h : Counted worker emailId base o owner c)
    (hrows : o'.rows = o.rows) (hsends : o'.sends = o.sends) (hseq : o'.idSeq = o.idSeq)
    (hfailing : (c' worker).failing emailId ≤ (c worker).failing emailId) :
    Counted worker emailId base o' owner' c' := by
  refine ⟨hseq ▸ h.fresh, fun r hr hid => ?_⟩
  rw [hrows] at hr
  have hcount := h.count r hr hid
  have hfailures : o'.failures emailId = o.failures emailId := by
    rw [Outbox.failures, hsends, Outbox.failures]
  omega

omit [DecidableEq ι] in
/-- A commit to one row. -/
theorem Counted.write {emailId base : ℕ} {c' : ι → Turn} {loaded current : PendingEmail}
    (h : Counted worker emailId base o owner c)
    (hrow : ∀ r ∈ o.rows, r.id = loaded.id → loaded.id = emailId →
      (PendingEmail.write loaded current r).retryCount + (c' worker).failing emailId ≤
        r.retryCount + (c worker).failing emailId)
    (hfailing : (c' worker).failing emailId ≤ (c worker).failing emailId) :
    Counted worker emailId base
      { o with rows := Keyed.modify o.rows loaded.id (PendingEmail.write loaded current) } owner'
      c' := by
  refine ⟨h.fresh, fun r hr hid => ?_⟩
  have hsame : Outbox.failures
      { o with rows := Keyed.modify o.rows loaded.id (PendingEmail.write loaded current) }
      emailId = o.failures emailId := rfl
  rw [hsame]
  rcases Keyed.mem_modify.mp hr with ⟨r₀, hr₀, hkey, rfl⟩ | ⟨hr, -⟩
  · have hkey : r₀.id = loaded.id := hkey
    have hid : r₀.id = emailId := hid
    have hcount := h.count r₀ hr₀ hid
    have hnew := hrow r₀ hr₀ hkey (hkey.symm.trans hid)
    omega
  · have hcount := h.count r hr hid
    omega

/-- The worker goes on. -/
theorem Counted.worker_step {emailId base : ℕ} {t t' : Turn}
    (h : Counted worker emailId base o owner c) (ht : c worker = t) (hrows : o'.rows = o.rows)
    (hsends : o'.sends = o.sends) (hseq : o'.idSeq = o.idSeq)
    (hfailing : t'.failing emailId ≤ t.failing emailId) :
    Counted worker emailId base o' owner' (Function.update c worker t') := by
  refine h.congr hrows hsends hseq ?_
  rw [Function.update_self, ht]
  exact hfailing

/-- An attempt that fails is under way. -/
theorem Counted.send {emailId base : ℕ} {held held' : List PendingEmail} {record : PendingEmail}
    (h : Counted worker emailId base o owner c) (ht : c worker = .worker held none) :
    Counted worker emailId base (OutboxStmt.exec provider (.send record) o).2 owner'
      (Function.update c worker (.worker held' (some (record, provider.send o record)))) := by
  refine ⟨h.fresh, fun r hr hid => ?_⟩
  have hcount := h.count r hr hid
  rw [ht] at hcount
  rw [Function.update_self]
  have hfailures : (OutboxStmt.exec provider (.send record) o).2.failures emailId =
      o.failures emailId +
        (Turn.worker held' (some (record, provider.send o record))).failing emailId := by
    simp only [OutboxStmt.exec, Outbox.failures, List.countP_append, List.countP_singleton,
      Turn.failing]
    cases provider.send o record with
    | delivered => simp
    | raised error => by_cases hrecord : record.id = emailId <;> simp [hrecord]
  rw [hfailures]
  exact Nat.add_le_add_right hcount _

/-- A delivery leaves the count alone. -/
theorem Counted.commit_delivered {emailId base : ℕ} {held : List PendingEmail}
    {record : PendingEmail} (h : Counted worker emailId base o owner c)
    (heligible : record.eligible = true)
    (ht : c worker = .worker held (some (record, .delivered))) (now : Time) :
    Counted worker emailId base
      { o with
        rows := Keyed.modify o.rows record.id
          (PendingEmail.write record (record.markSent now)) } owner'
      (Function.update c worker (.worker held none)) := by
  refine h.write (fun r hr hid _ => ?_) ?_ <;> rw [Function.update_self, ht]
  · rw [(PendingEmail.write_delivered heligible now r).2]
    exact le_rfl
  · exact Nat.le_refl 0

/-- The attempt that was under way is counted now, from the stored count. -/
theorem Counted.commit_failed {emailId base : ℕ} {held : List PendingEmail}
    {record : PendingEmail} {error : String} (h : Counted worker emailId base o owner c)
    (heligible : record.eligible = true)
    (ht : c worker = .worker held (some (record, .raised error))) (hrecounts : Recounts record o) :
    Counted worker emailId base
      { o with
        rows := Keyed.modify o.rows record.id
          (PendingEmail.write record (record.markFailedAttempt error)) } owner'
      (Function.update c worker (.worker held none)) := by
  refine h.write (fun r hr hid hemail => ?_) ?_ <;> rw [Function.update_self, ht]
  · rw [(PendingEmail.write_failed heligible error r).2, hrecounts r hr hid]
    simp [Turn.failing, hemail]
  · exact Nat.zero_le _

/-- No retry is a failed attempt. -/
theorem Turn.failing_update_le {t : Turn} (ht : ∀ held inFlight, t ≠ .worker held inFlight)
    (c : ι → Turn) (i worker : ι) (emailId : ℕ) :
    (Function.update c i t worker).failing emailId ≤ (c worker).failing emailId := by
  by_cases hworker : worker = i
  · subst hworker
    rw [Function.update_self]
    cases t with
    | worker held inFlight => exact absurd rfl (ht held inFlight)
    | retry | retried => exact Nat.zero_le _
  · rw [Function.update_of_ne hworker]

/-- A retry resets its row. -/
theorem Counted.commit_reset {emailId base : ℕ} {record : PendingEmail}
    (h : Counted worker emailId base o owner c) (hresets : Resets record o) (emailId' : ℕ) :
    Counted worker emailId base
      { o with
        rows := Keyed.modify o.rows record.id
          (PendingEmail.write record record.resetForRetry) } owner'
      (Function.update c i (.retried emailId')) := by
  have hfailing := Turn.failing_update_le (t := .retried emailId') (fun _ _ h => by cases h) c i
    worker emailId
  refine h.write (fun r hr hid _ => ?_) hfailing
  rw [(PendingEmail.write_reset (hresets r hr hid)).2]
  exact Nat.add_le_add (Nat.zero_le _) hfailing

omit [DecidableEq ι] in
/-- A new row is another one. -/
theorem Counted.enqueue {emailId base : ℕ} (h : Counted worker emailId base o owner c)
    (createdAt : Time) (e : NewPendingEmail) :
    Counted worker emailId base (o.enqueue createdAt e) owner c := by
  refine ⟨h.fresh.trans (Nat.lt_succ_self _), fun r hr hid => ?_⟩
  rcases List.mem_append.mp hr with hr | hr
  · exact h.count r hr hid
  · rw [List.mem_singleton.mp hr] at hid
    exact absurd hid h.fresh.ne'

/-- **So do the failed sends.** -/
theorem Counted.inductive (provider : Provider) (worker : ι) (emailId base : ℕ) :
    Pool.Inductive (outboxMachine provider) outboxProtocol Turn.ends
      (fun c (_ : Except Exn Unit) => c) (Apart provider)
      fun o owner c => Turns worker o owner c ∧ Counted worker emailId base o owner c := by
  refine (Turns.inductive provider worker).conj (fun _ _ _ h => h) ?_ ?_ ?_
  · intro p c i s k hinv hcounted hp hallowed _ hapart
    have hspares := Apart.spares hapart hp
    change Counted worker emailId base (OutboxStmt.exec provider s p.world).2 _
      (Function.update c i (Turn.next (c i) s (OutboxStmt.exec provider s p.world).1))
    change (c i).Moves s at hallowed
    generalize hi : c i = t at hallowed hspares ⊢
    cases hallowed with
    | batch held limit =>
      obtain rfl := hinv.sole i _ _ hi
      exact hcounted.worker_step hi rfl rfl rfl (Nat.le_refl 0)
    | send record held =>
      obtain rfl := hinv.sole i _ _ hi
      exact hcounted.send hi
    | now held x =>
      obtain rfl := hinv.sole i _ _ hi
      exact hcounted.worker_step hi rfl rfl rfl le_rfl
    | delivered held record now =>
      obtain rfl := hinv.sole i _ _ hi
      cases hcommit : provider.commit p.world with
      | some e =>
        rw [OutboxStmt.exec_commit_error hcommit]
        exact hcounted.worker_step hi rfl rfl rfl (Nat.le_refl 0)
      | none =>
        have heligible := (hinv.holds i _ _ hi).eligible record List.mem_cons_self
        rw [OutboxStmt.exec_commit_ok hcommit]
        exact hcounted.commit_delivered heligible hi now
    | failed held record error =>
      obtain rfl := hinv.sole i _ _ hi
      cases hcommit : provider.commit p.world with
      | some e =>
        rw [OutboxStmt.exec_commit_error hcommit]
        exact hcounted.worker_step hi rfl rfl rfl (Nat.zero_le _)
      | none =>
        have heligible := (hinv.holds i _ _ hi).eligible record List.mem_cons_self
        rw [OutboxStmt.exec_commit_ok hcommit]
        exact hcounted.commit_failed heligible hi (hspares hcommit)
    | load emailId' =>
      exact hcounted.congr rfl rfl rfl
        (Turn.failing_update_le (fun _ _ h => by cases h) c i worker emailId)
    | reset emailId' record =>
      cases hcommit : provider.commit p.world with
      | some e =>
        rw [OutboxStmt.exec_commit_error hcommit]
        exact hcounted.congr rfl rfl rfl
          (Turn.failing_update_le (fun _ _ h => by cases h) c i worker emailId)
      | none =>
        rw [OutboxStmt.exec_commit_ok hcommit]
        exact hcounted.commit_reset (hspares hcommit).1 emailId'
  · intro w owner c i r _ hcounted _
    rw [Function.update_eq_self]
    exact ⟨hcounted.fresh, hcounted.count⟩
  · intro w owner c a hcounted
    cases a with
    | enqueue createdAt e => exact hcounted.enqueue createdAt e
    | tick d => exact ⟨hcounted.fresh, hcounted.count⟩
    | expire emailId => exact ⟨hcounted.fresh, hcounted.count⟩

/-! ### From a retry on -/

/-- The row a retry is about. -/
def Turn.target : Turn → Option ℕ
  | .worker _ _ => none
  | .retry emailId _ => some emailId
  | .retried emailId => some emailId

theorem Turn.target_next (t : Turn) (s : OutboxStmt) (r : s.Reply) :
    (t.next s r).target = t.target := by
  cases t with
  | worker held inFlight =>
    cases s with
    | commit => cases r <;> rfl
    | _ => rfl
  | retry emailId loaded =>
    cases s with
    | commit => cases r <;> rfl
    | _ => rfl
  | retried emailId => rfl

/-- Nobody turns to another row. -/
theorem Turn.target_inductive (provider : Provider) (target : ι → Option ℕ) :
    Pool.Inductive (outboxMachine provider) outboxProtocol Turn.ends
      (fun c (_ : Except Exn Unit) => c) (Apart provider)
      fun _ _ c => ∀ i, (c i).target = target i where
  stmt p c i s k hinv _ _ _ _ := by
    refine ⟨trivial, fun j => ?_⟩
    by_cases hji : j = i
    · subst hji
      rw [Function.update_self]
      exact (Turn.target_next _ _ _).trans (hinv j)
    · rw [Function.update_of_ne hji]
      exact hinv j
  fin w owner c i r hinv _ := by
    rw [Function.update_eq_self]
    exact hinv
  env w owner c a hinv := hinv

/-- **When a retry has completed** its row has a count of zero and no failed attempt on it is
under way. -/
theorem Turns.counted {p q : OutboxPool ι} {j : ι} {emailId : ℕ}
    (hinv : Turns worker p.world p.owner c)
    (hc : p.Conforms outboxProtocol Turn.ends (fun c _ => c) c)
    (hapart : Apart provider p c (.run j))
    (hq : p.step (outboxMachine provider) (.run j) = some q)
    (hretried : p.ghost (outboxMachine provider) outboxProtocol (fun c _ => c) c (.run j) j =
      .retried emailId) :
    Counted worker emailId (q.world.failures emailId) q.world q.owner
      (p.ghost (outboxMachine provider) outboxProtocol (fun c _ => c) c (.run j)) := by
  obtain ⟨i, s, k, hlabel, hp, -, rfl⟩ | ⟨a, hlabel, -⟩ := Pool.step_cases hq
  swap
  · cases hlabel
  cases hlabel
  have hghost : p.ghost (outboxMachine provider) outboxProtocol (fun c _ => c) c (.run j) =
      Function.update c j (Turn.next (c j) s (OutboxStmt.exec provider s p.world).1) := by
    simp only [Pool.ghost, hp]
    split <;> rfl
  have hallowed : (c j).Moves s := by
    have hfollows := hc j
    rw [hp] at hfollows
    exact hfollows.1
  rw [hghost, Function.update_self] at hretried
  rw [hghost, hretried]
  have hspares := Apart.spares hapart hp
  change Counted worker emailId ((OutboxStmt.exec provider s p.world).2.failures emailId)
    (OutboxStmt.exec provider s p.world).2 _ _
  generalize hj : c j = t at hallowed hspares hretried
  -- Only the commit of a retry that goes through leads here.
  cases hallowed with
  | batch | send | now => cases hretried
  | delivered | failed =>
    cases hcommit : provider.commit p.world with
    | none =>
      rw [OutboxStmt.exec_commit_ok hcommit] at hretried
      cases hretried
    | some e =>
      rw [OutboxStmt.exec_commit_error hcommit] at hretried
      cases hretried
  | load => cases hretried
  | reset id record =>
    cases hcommit : provider.commit p.world with
    | some e =>
      rw [OutboxStmt.exec_commit_error hcommit] at hretried
      cases hretried
    | none =>
      rw [OutboxStmt.exec_commit_ok hcommit] at hretried ⊢
      cases hretried
      obtain ⟨hresets, hquiet⟩ := hspares hcommit
      obtain ⟨hid, hfresh⟩ := hinv.loaded j _ record hj
      subst hid
      refine ⟨hfresh, fun r hr hid => ?_⟩
      have hzero : r.retryCount = 0 := by
        rcases Keyed.mem_modify.mp hr with ⟨r₀, hr₀, hkey, rfl⟩ | ⟨-, hne⟩
        · exact (PendingEmail.write_reset (hresets r₀ hr₀ hkey)).2
        · exact absurd hid hne
      have hidle : (Function.update c j (.retried record.id) worker).failing record.id = 0 := by
        apply Nat.le_zero.mp
        rw [← hquiet worker]
        exact Turn.failing_update_le (fun _ _ h => by cases h) c j worker record.id
      rw [hzero, hidle]
      exact le_rfl

/-- Where the programs begin. -/
def Turn.start (worker : ι) (emailId : ι → ℕ) (i : ι) : Turn :=
  if i = worker then .worker [] none else .retry (emailId i) none

omit [DecidableEq ι] in
/-- The end of a program is no step of the protocol. -/
theorem Turn.close_eq (prog : ι → OutboxProg Unit) (c : ι → Turn) :
    Pool.close (fun c _ => c) prog c = c := by
  funext i
  unfold Pool.close
  split <;> rfl

/-- The invariant holds in the beginning. -/
theorem Outbox.Settled.turns_start (hsettled : o.Settled) (worker : ι) (emailId : ι → ℕ)
    (owner : Empty → Option ι) : Turns worker o owner (Turn.start worker emailId) := by
  refine ⟨hsettled, fun i held inFlight hi => ?_, fun i held inFlight hi => ?_,
    fun i id r hi => ?_⟩
  · by_contra hne
    rw [Turn.start, if_neg hne] at hi
    cases hi
  · by_cases hne : i = worker
    · rw [Turn.start, if_pos hne] at hi
      cases hi
      exact Outbox.holds_nil _
    · rw [Turn.start, if_neg hne] at hi
      cases hi
  · by_cases hne : i = worker
    · rw [Turn.start, if_pos hne] at hi
      cases hi
    · rw [Turn.start, if_neg hne] at hi
      cases hi

/-- The worker and the retries conform to the protocol. -/
theorem Turn.start_conforms {p : OutboxPool ι} {turns : ℕ} {emailId : ι → ℕ}
    (hworker : p.prog worker = runEmailWorker turns)
    (hretry : ∀ i, i ≠ worker → p.prog i = PendingEmailService.retryFailedEmail (emailId i)) :
    p.Conforms outboxProtocol Turn.ends (fun c _ => c) (Turn.start worker emailId) := by
  rw [← Turn.close_eq p.prog (Turn.start worker emailId)]
  refine Pool.Conforms.close fun i => ?_
  by_cases hi : i = worker
  · rw [hi, hworker, Turn.start, if_pos rfl]
    exact runEmailWorker_follows turns []
  · rw [hretry i hi, Turn.start, if_neg hi]
    exact retryFailedEmail_follows (emailId i)

/-- **When every retry resets its row and every failed attempt counts, nothing gets lost**: a row
is failed exactly if its count is three, and after a completed retry it is failed only once three
further sends have failed. -/
theorem outbox_apart {p q : OutboxPool ι} {turns : ℕ} {emailId : ι → ℕ}
    {ls : List (Label ι OutboxOutside)} (hworker : p.prog worker = runEmailWorker turns)
    (hretry : ∀ i, i ≠ worker → p.prog i = PendingEmailService.retryFailedEmail (emailId i))
    (hsettled : p.world.Settled) (hexec : p.exec (outboxMachine provider) ls = some q)
    (hapart : p.Always (outboxMachine provider) outboxProtocol (fun c _ => c) (Apart provider)
      (Turn.start worker emailId) ls) :
    (∀ r ∈ q.world.rows, r.status = .failed ↔ 3 ≤ r.retryCount) ∧
      ∀ pre i post p₁ p₂, ls = pre ++ .run i :: post → i ≠ worker →
        p.exec (outboxMachine provider) pre = some p₁ →
        p₁.step (outboxMachine provider) (.run i) = some p₂ →
        (p₂.prog i).result? = some (.ok ()) →
        ∀ r ∈ q.world.rows, r.id = emailId i → r.status = .failed →
          p₂.world.failures (emailId i) + 3 ≤ q.world.failures (emailId i) := by
  have hstart := hsettled.turns_start worker emailId p.owner
  have hconforms := Turn.start_conforms hworker hretry
  have hturns := (Pool.exec_invariant (Turns.inductive provider worker) hstart hconforms hapart
    hexec).1
  refine ⟨hturns.settled.failed_iff, ?_⟩
  rintro pre i post p₁ p₂ rfl hi hpre hstep hdone r hr hid hfailed
  -- The schedule up to the commit of the retry, that commit, and what follows.
  obtain ⟨hbefore, hapart₁, hafter⟩ := Pool.always_append hpre hapart
  obtain ⟨hturns₁, hconforms₁⟩ := Pool.exec_invariant (Turns.inductive provider worker) hstart
    hconforms hbefore hpre
  have htarget := (Pool.exec_invariant
    (Turn.target_inductive provider fun i => (Turn.start worker emailId i).target)
    (fun _ => rfl) hconforms hbefore hpre).1
  have hafter := hafter p₂ hstep
  obtain ⟨hturns₂, hconforms₂⟩ :=
    (Turns.inductive provider worker).step hturns₁ hconforms₁ hapart₁ hstep
  have htarget₂ := ((Turn.target_inductive provider fun i =>
    (Turn.start worker emailId i).target).step htarget hconforms₁ hapart₁ hstep).1 i
  rw [Turn.start, if_neg hi] at htarget₂
  have hretried := hconforms₂ i
  rw [hdone] at hretried
  obtain ⟨t, hends, ht⟩ := hretried
  have hcounted : Counted worker (emailId i) (p₂.world.failures (emailId i)) p₂.world p₂.owner
      _ := hturns₁.counted hconforms₁ hapart₁ hstep (by
    rw [ht]
    rw [ht] at htarget₂
    cases t with
    | worker => cases htarget₂
    | retry => exact hends.elim
    | retried id =>
      cases htarget₂
      rfl)
  rw [Pool.exec_append, hpre, Option.bind_some, Pool.exec_cons, hstep, Option.bind_some] at hexec
  obtain ⟨⟨hturns', hcounted'⟩, -⟩ := Pool.exec_invariant
    (Counted.inductive provider worker (emailId i) (p₂.world.failures (emailId i)))
    ⟨hturns₂, hcounted⟩ hconforms₂ hafter hexec
  have hcount := hcounted'.count r hr hid
  have hthree := (hturns'.settled.failed_iff r hr).mp hfailed
  omega

end Inductive

/-! ### One row, the worker and one retry -/

/-- An outbox with one row. -/
def Outbox.single (status : EmailSendingStatus) (retryCount : ℕ) : Outbox :=
  let o := Outbox.empty.enqueue 1 resetMail
  { o with rows := o.rows.map fun r => { r with status := status, retryCount := retryCount } }

theorem Outbox.settled_single {status : EmailSendingStatus} {retryCount : ℕ}
    (h : status = .failed ↔ 3 ≤ retryCount) : (Outbox.single status retryCount).Settled := by
  refine ⟨⟨List.nodup_singleton _, fun r hr => ?_, fun x hx => ?_⟩, fun r hr => ?_⟩
  · rw [List.mem_singleton.mp hr]
    exact Nat.lt_succ_self 1
  · exact absurd hx List.not_mem_nil
  · rw [List.mem_singleton.mp hr]
    exact h

/-- The worker and a retry of the row. -/
def Outbox.race (o : Outbox) (turns : ℕ) : OutboxPool (Fin 2) where
  world := o
  prog i := if i = 0 then runEmailWorker turns else PendingEmailService.retryFailedEmail 1
  owner _ := none

/-- Whether the retry has completed, and what the row is after the schedule, with the number of
its failed sends. -/
def Outbox.raceEnd (o : Outbox) (turns : ℕ) (ls : List (Label (Fin 2) OutboxOutside)) :
    Option (Bool × List (EmailSendingStatus × ℕ) × ℕ) :=
  ((o.race turns).exec (outboxMachine (.always (.raised "refused"))) ls).map fun p =>
    ((p.prog 1).ended, p.world.rows.map fun r => (r.status, r.retryCount), p.world.failures 1)

/-- A retry that completes before the worker takes the row up loses nothing: three sends fail
before the row has failed again. -/
theorem outbox_apart_retry_first :
    ∃ p₂ q : OutboxPool (Fin 2),
      ((Outbox.single .failed 3).race 3).exec (outboxMachine (.always (.raised "refused")))
        [.run 1, .run 1] = some p₂ ∧
      ((Outbox.single .failed 3).race 3).exec (outboxMachine (.always (.raised "refused")))
        ([.run 1, .run 1] ++ List.replicate 9 (.run 0)) = some q ∧
      (q.world.rows.map fun r => (r.id, r.status, r.retryCount)) = [(1, .failed, 3)] ∧
      p₂.world.failures 1 + 3 ≤ q.world.failures 1 := by
  let M := outboxMachine (.always (.raised "refused"))
  let p := (Outbox.single .failed 3).race 3
  -- The state before the retry commits, the state after it, and the state at the end.
  have hsome₁ : (p.exec M [.run 1]).isSome = true := by decide +kernel
  have hsome₂ : (p.exec M [.run 1, .run 1]).isSome = true := by decide +kernel
  have hsome : (p.exec M ([.run 1, .run 1] ++ List.replicate 9 (.run 0))).isSome = true := by
    decide +kernel
  obtain ⟨p₁, hp₁⟩ := Option.isSome_iff_exists.mp hsome₁
  obtain ⟨p₂, hp₂⟩ := Option.isSome_iff_exists.mp hsome₂
  obtain ⟨q, hq⟩ := Option.isSome_iff_exists.mp hsome
  have hstep : p₁.step M (.run 1) = some p₂ := by
    rw [show [Label.run 1, .run 1] = [Label.run (1 : Fin 2)] ++ [.run 1] from rfl,
      Pool.exec_append, hp₁, Option.bind_some, Pool.exec_cons] at hp₂
    simpa using hp₂
  have hdone : (p₂.prog 1).result?.map (·.toOption) = some (some ()) := by
    have h : (p.exec M [.run 1, .run 1]).map (fun p₂ => (p₂.prog 1).result?.map (·.toOption)) =
        some (some (some ())) := by decide +kernel
    rw [hp₂] at h
    exact Option.some.inj h
  have hrows : (q.world.rows.map fun r => (r.id, r.status, r.retryCount)) = [(1, .failed, 3)] := by
    have h : (p.exec M ([.run 1, .run 1] ++ List.replicate 9 (.run 0))).map (fun q =>
        q.world.rows.map fun r => (r.id, r.status, r.retryCount)) =
          some [(1, .failed, 3)] := by decide +kernel
    rw [hq] at h
    exact Option.some.inj h
  obtain ⟨r, hr, hrow⟩ := List.mem_map.mp (hrows ▸ List.mem_singleton_self _)
  obtain ⟨hid, hfailed, -⟩ : r.id = 1 ∧ r.status = .failed ∧ r.retryCount = 3 := by
    simpa using hrow
  refine ⟨p₂, q, hp₂, hq, hrows, ?_⟩
  have hworker : p.prog 0 = runEmailWorker 3 := rfl
  have hretry : ∀ i, i ≠ 0 → p.prog i = PendingEmailService.retryFailedEmail ((fun _ => 1) i) :=
    fun i hi => if_neg hi
  have h := outbox_apart hworker hretry (Outbox.settled_single (by decide)) hq (by decide +kernel)
  refine h.2 [.run 1] 1 (List.replicate 9 (.run 0)) p₁ p₂ rfl (by decide) hp₁ hstep ?_ r hr hid
    hfailed
  cases hresult : (p₂.prog 1).result? with
  | none => simp [hresult] at hdone
  | some x =>
    cases x with
    | ok _ => rfl
    | error e => simp [hresult, Except.toOption] at hdone

/-- **Without it a reset gets lost.**  A retry that loads the row before the third failure and
commits after it leaves a failed row with a count of zero; one that completes while the third
send is under way is followed by a failed row and no further send. -/
theorem retry_lost :
    (Outbox.single .pending 2).raceEnd 1 [.run 1, .run 0, .run 0, .run 0, .run 1] =
        some (true, [(.failed, 0)], 1) ∧
      (Outbox.single .pending 2).raceEnd 1 [.run 0, .run 0, .run 1, .run 1] =
        some (true, [(.pending, 0)], 1) ∧
      (Outbox.single .pending 2).raceEnd 1 [.run 0, .run 0, .run 1, .run 1, .run 0] =
        some (true, [(.failed, 3)], 1) := by
  refine ⟨?_, ?_, ?_⟩ <;> decide +kernel

end SmsLite
