import SmsLite.Outbox.Batches

/-!
# One session for a whole batch

`process_batch` uses one session for all its rows and never calls `rollback`.  After a commit that
fails the session rejects everything until it is rolled back, so the handler's own commit raises
and ends the batch.

## Main definitions

* `WorkerState` — the outbox, and whether the session needs a rollback.
* `WorkerStmt`, `WorkerStmt.exec` — the statements of the worker on its session.
* `Worker.processRecord`, `Worker.processRecords`, `Worker.processBatch` — the code with its
  `try` and its handler.
* `RowFaults`, `RowFaults.provider` — a pattern of failures, row by row.
* `Outbox.Thorough` — every row is attempted once, and recorded unless its own commit fails.

## Main results

* `Worker.processBatch_simulates` — the worker with its session does what `processBatch` does.
* `processBatch_thorough_iff` — **a batch is thorough exactly if no commit fails but that of the
  last row**.
* `second_row_not_attempted` — the commit of the first row fails, and the second one is not sent.
-/

namespace SmsLite

open Interleave

/-! ### The session -/

/-- Why a session raises. -/
inductive SessionError
  /-- A flush or a commit fails. -/
  | database (e : DbError)
  /-- `PendingRollbackError`: an earlier one has failed. -/
  | pendingRollback
  deriving DecidableEq, Repr

/-- `str(exc)`. -/
def SessionError.text : SessionError → String
  | database (.integrity orig) | database (.data orig) => orig
  | pendingRollback => "This Session's transaction has been rolled back"

/-- What leaves the worker. -/
def SessionError.exn : SessionError → Exn
  | database e => e.exn
  | pendingRollback => .invalidRequestError pendingRollback.text

/-- What the `try` block of `process_batch` raises. -/
inductive WorkerExn
  | send (error : String)
  | session (e : SessionError)
  deriving DecidableEq, Repr

/-- `str(exc)`. -/
def WorkerExn.str : WorkerExn → String
  | send error => error
  | session e => e.text

/-- The outbox, and the session of the worker. -/
structure WorkerState where
  outbox : Outbox
  /-- A commit has failed, and `rollback` was not called. -/
  needsRollback : Bool

/-- One atomic step of the worker. -/
inductive WorkerStmt
  | now
  | getPendingEmails (limit : ℕ)
  | send (record : PendingEmail)
  | commit (loaded current : PendingEmail)

/-- The type of the reply. -/
def WorkerStmt.Reply : WorkerStmt → Type
  | now => Time
  | getPendingEmails _ => Except SessionError (List PendingEmail)
  | send _ => SendOutcome
  | commit _ _ => Except SessionError Unit

/-- The reply to a statement and the state after it: a session that needs a rollback rejects
queries and commits. -/
def WorkerStmt.exec (provider : Provider) : (s : WorkerStmt) → WorkerState → s.Reply × WorkerState
  | .now, w => (w.outbox.clock, w)
  | .getPendingEmails limit, w =>
    if w.needsRollback then (.error .pendingRollback, w)
    else (.ok (selectPendingEmails (provider.rank w.outbox) w.outbox.rows limit), w)
  | .send record, w =>
    (provider.send w.outbox record,
      { w with outbox := (OutboxStmt.exec provider (.send record) w.outbox).2 })
  | .commit loaded current, w =>
    if w.needsRollback then (.error .pendingRollback, w)
    else
      match provider.commit w.outbox with
      | some e => (.error (.database e), { w with needsRollback := true })
      | none =>
        (.ok (),
          { w with outbox := (OutboxStmt.exec provider (.commit loaded current) w.outbox).2 })

/-! ### The worker -/

/-- A program of the worker. -/
abbrev WorkerProg (α : Type) := Prog WorkerStmt WorkerStmt.Reply WorkerExn α

namespace Worker

/-- `await PendingEmailRepository.get_pending_emails(session, limit=limit)`. -/
def getPendingEmails (limit : ℕ) : WorkerProg (List PendingEmail) := do
  match ← Prog.call (WorkerStmt.getPendingEmails limit) with
  | .ok pending => pure pending
  | .error e => .raise (.session e)

/-- `await send(...)`. -/
def send (record : PendingEmail) : WorkerProg Unit := do
  match ← Prog.call (WorkerStmt.send record) with
  | .delivered => pure ()
  | .raised error => .raise (.send error)

/-- `await session.commit()`. -/
def commit (loaded current : PendingEmail) : WorkerProg Unit := do
  match ← Prog.call (WorkerStmt.commit loaded current) with
  | .ok () => pure ()
  | .error e => .raise (.session e)

/-- `except Exception as exc`, where the `try` block has left the object as `current`. -/
def handler (loaded current : PendingEmail) (exc : WorkerExn) : WorkerProg Unit :=
  commit loaded (current.markFailedAttempt exc.str)

/-- The `for` body: one `try` block, and what it has assigned when it raises. -/
def processRecord (record : PendingEmail) : WorkerProg Unit := do
  match ← (send record).attempt with
  | .error exc => handler record record exc
  | .ok () =>
    let now ← Prog.call WorkerStmt.now
    let sent := record.markSent now
    match ← (commit record sent).attempt with
    | .error exc => handler record sent exc
    | .ok () => pure ()

/-- `for record in pending`. -/
def processRecords : List PendingEmail → WorkerProg Unit
  | [] => pure ()
  | record :: pending => do
    processRecord record
    processRecords pending

/-- `process_batch`. -/
def processBatch : WorkerProg Unit := do
  let pending ← getPendingEmails batchSize
  processRecords pending

end Worker

/-! ### What a row does -/

section Row

variable {provider : Provider}

/-- The outbox after a row was handed to `send`. -/
def Outbox.handed (provider : Provider) (record : PendingEmail) (o : Outbox) : Outbox :=
  { o with
    clock := o.clock + provider.latency o
    sends := o.sends ++ [⟨record.id, provider.send o record⟩] }

/-- The outbox after its outcome was committed. -/
def Outbox.settled (provider : Provider) (record : PendingEmail) (o : Outbox) : Outbox :=
  let handed := o.handed provider record
  let current := record.attempted (provider.send o record) handed.clock
  { handed with rows := Keyed.modify o.rows record.id (PendingEmail.write record current) }

/-- Why the `for` body raises if a commit fails with `e`: a failed first commit makes the session
reject that of the handler. -/
def rowError (outcome : SendOutcome) (e : DbError) : SessionError :=
  match outcome with
  | .delivered => .pendingRollback
  | .raised _ => .database e

/-- The `for` body of `processBatch`. -/
theorem processRecord_run (record : PendingEmail) (o : Outbox) :
    (processRecord record).run (OutboxStmt.exec provider) o =
      match provider.commit (o.handed provider record) with
      | none => (.ok (), o.settled provider record)
      | some e => (.error (rowError (provider.send o record) e).exn, o.handed provider record) := by
  unfold processRecord Outbox.settled
  rw [run_send]
  change Prog.run _ _ (o.handed provider record) = _
  cases provider.send o record with
  | delivered =>
    dsimp only
    rw [run_now, run_tryCommit_eq]
    cases provider.commit (o.handed provider record) <;> rfl
  | raised error =>
    dsimp only
    unfold OutboxProg.commitOrRaise
    rw [run_tryCommit_eq]
    cases provider.commit (o.handed provider record) <;> rfl

namespace Worker

theorem commit_run (loaded current : PendingEmail) (o : Outbox) :
    (commit loaded current).run (WorkerStmt.exec provider) ⟨o, false⟩ =
      match provider.commit o with
      | none =>
        (.ok (), ⟨{ o with
          rows := Keyed.modify o.rows loaded.id (PendingEmail.write loaded current) }, false⟩)
      | some e => (.error (.session (.database e)), ⟨o, true⟩) := by
  unfold commit
  rw [Prog.run_call]
  cases hcommit : provider.commit o with
  | none => simp [WorkerStmt.exec, OutboxStmt.exec, hcommit, pure]
  | some e => simp [WorkerStmt.exec, hcommit]

theorem send_run (record : PendingEmail) (o : Outbox) :
    (send record).run (WorkerStmt.exec provider) ⟨o, false⟩ =
      (match provider.send o record with
        | .delivered => .ok ()
        | .raised error => .error (.send error),
        ⟨o.handed provider record, false⟩) := by
  have hreply : WorkerStmt.exec provider (.send record) ⟨o, false⟩ =
      (provider.send o record, ⟨o.handed provider record, false⟩) := rfl
  unfold send
  rw [Prog.run_call, hreply]
  dsimp only
  cases provider.send o record <;> rfl

/-- The `for` body with its session does the same. -/
theorem processRecord_run (record : PendingEmail) (o : Outbox) :
    (Worker.processRecord record).run (WorkerStmt.exec provider) ⟨o, false⟩ =
      match provider.commit (o.handed provider record) with
      | none => (.ok (), ⟨o.settled provider record, false⟩)
      | some e =>
        (.error (.session (rowError (provider.send o record) e)),
          ⟨o.handed provider record, true⟩) := by
  unfold processRecord Outbox.settled
  rw [Prog.run_attempt_bind, send_run]
  cases provider.send o record with
  | delivered =>
    dsimp only
    rw [Prog.run_call, Prog.run_attempt_bind]
    dsimp only [WorkerStmt.exec]
    rw [commit_run]
    cases provider.commit (o.handed provider record) <;> rfl
  | raised error =>
    dsimp only
    unfold handler
    rw [commit_run]
    cases provider.commit (o.handed provider record) <;> rfl

/-- A loop that ends in the middle has broken the session. -/
theorem processRecords_run (pending : List PendingEmail) (o : Outbox) :
    ∃ r : Except SessionError Unit,
      ((SmsLite.processRecords pending).run (OutboxStmt.exec provider) o).1 =
        r.mapError SessionError.exn ∧
      (Worker.processRecords pending).run (WorkerStmt.exec provider) ⟨o, false⟩ =
        (r.mapError .session,
          ⟨((SmsLite.processRecords pending).run (OutboxStmt.exec provider) o).2, !r.isOk⟩) := by
  induction pending generalizing o with
  | nil => exact ⟨.ok (), rfl, rfl⟩
  | cons record pending ih =>
    simp only [processRecords, SmsLite.processRecords]
    rw [Prog.run_bind, Prog.run_bind, processRecord_run, SmsLite.processRecord_run]
    cases provider.commit (o.handed provider record) with
    | none => exact ih (o.settled provider record)
    | some e => exact ⟨.error (rowError (provider.send o record) e), rfl, rfl⟩

/-- **The worker with its session does what `processBatch` does**, and leaves the session broken
exactly if it raises. -/
theorem processBatch_simulates (provider : Provider) (o : Outbox) :
    ∃ r : Except SessionError Unit,
      (SmsLite.processBatch.run (OutboxStmt.exec provider) o).1 = r.mapError SessionError.exn ∧
      processBatch.run (WorkerStmt.exec provider) ⟨o, false⟩ =
        (r.mapError .session, ⟨o.after provider .processBatch, !r.isOk⟩) :=
  processRecords_run (selectPendingEmails (provider.rank o) o.rows batchSize) o

end Worker

end Row

/-! ### Patterns of failures -/

/-- What happens to one row of a batch: how its `send` ends, how long it takes, and whether the
commit of its outcome fails. -/
structure RowFaults where
  send : SendOutcome
  latency : ℕ
  commit : Option DbError
  deriving DecidableEq, Repr

/-- The outside that follows the pattern, in a batch before which there were `start` sends: the
number of the sends since says which row it is. -/
def RowFaults.provider (faults : ℕ → RowFaults) (rank : ℕ → ℕ) (start : ℕ) : Provider where
  send o _ := (faults (o.sends.length - start)).send
  latency o := (faults (o.sends.length - start)).latency
  commit o := (faults (o.sends.length - 1 - start)).commit
  rank _ := rank

/-- Every row of the batch is attempted once, and its outcome is recorded unless its own commit
fails. -/
structure Outbox.Thorough (o o' : Outbox) (batch : List PendingEmail) (faults : ℕ → RowFaults) :
    Prop where
  attempts : ∀ r ∈ batch, o'.attempts r.id = o.attempts r.id + 1
  recorded : ∀ i r, batch[i]? = some r → (faults i).commit = none →
    ∃ now, Keyed.get? o'.rows r.id = some (r.attempted (faults i).send now)

section Attempts

variable {provider : Provider} {o : Outbox} {record : PendingEmail}

theorem Outbox.attempts_handed (o : Outbox) (id : ℕ) :
    (o.handed provider record).attempts id =
      o.attempts id + if record.id = id then 1 else 0 := by
  by_cases hid : record.id = id
  · simp [attempts, handed, hid]
  · simp [attempts, handed, hid]

theorem Outbox.attempts_settled (o : Outbox) (id : ℕ) :
    (o.settled provider record).attempts id =
      o.attempts id + if record.id = id then 1 else 0 :=
  Outbox.attempts_handed o id

/-- If no one else wrote the row since the load, a flush stores the object. -/
theorem PendingEmail.write_attempted (record : PendingEmail) (outcome : SendOutcome) (now : Time) :
    PendingEmail.write record (record.attempted outcome now) record =
      record.attempted outcome now := by
  cases outcome with
  | delivered => exact record.write_markSent now
  | raised error => exact record.write_markFailedAttempt error

/-- A row of the table that is settled is attempted. -/
theorem Outbox.attempted_settled (ht : o.Tables) (hmem : record ∈ o.rows)
    (heligible : record.eligible = true) : Attempted o record (o.settled provider record) := by
  have hrows := ht.modify_write hmem
    (record.write_attempted (provider.send o record) (o.handed provider record).clock)
  unfold settled
  dsimp only
  rw [hrows]
  exact .intro (provider.send o record) _ (o.handed provider record).clock hmem heligible

theorem Outbox.get?_settled (ht : o.Tables) (hmem : record ∈ o.rows) :
    ∃ now, Keyed.get? (o.settled provider record).rows record.id =
      some (record.attempted (provider.send o record) now) := by
  have hget : Keyed.get? o.rows record.id = some record := Keyed.get?_of_mem ht.nodup hmem
  refine ⟨(o.handed provider record).clock, ?_⟩
  let current := record.attempted (provider.send o record) (o.handed provider record).clock
  have hmodify : Keyed.get? (o.settled provider record).rows record.id =
      (Keyed.get? o.rows record.id).map (PendingEmail.write record current) :=
    Keyed.get?_modify_self o.rows record.id fun _ => rfl
  rw [hmodify, hget, Option.map_some, record.write_attempted]

theorem Outbox.get?_settled_ne (o : Outbox) {id : ℕ} (hid : id ≠ record.id) :
    Keyed.get? (o.settled provider record).rows id = Keyed.get? o.rows id := by
  unfold settled
  exact Keyed.get?_modify_ne _ hid fun _ => rfl

/-- Rows outside the batch are left alone. -/
theorem processRecords_frame (pending : List PendingEmail) (o : Outbox) {id : ℕ}
    (hid : id ∉ pending.map (·.id)) :
    let o' := ((processRecords pending).run (OutboxStmt.exec provider) o).2
    o'.attempts id = o.attempts id ∧ Keyed.get? o'.rows id = Keyed.get? o.rows id := by
  induction pending generalizing o with
  | nil => exact ⟨rfl, rfl⟩
  | cons record pending ih =>
    rw [List.map_cons, List.mem_cons, not_or] at hid
    obtain ⟨hne, hid⟩ := hid
    have hcount : (if record.id = id then 1 else 0) = 0 := if_neg (Ne.symm hne)
    simp only [processRecords]
    rw [Prog.run_bind, processRecord_run]
    cases provider.commit (o.handed provider record) with
    | none =>
      obtain ⟨hattempts, hrow⟩ := ih (o.settled provider record) hid
      refine ⟨?_, hrow.trans (o.get?_settled_ne hne)⟩
      rw [o.attempts_settled, hcount] at hattempts
      exact hattempts
    | some e =>
      refine ⟨?_, rfl⟩
      show (o.handed provider record).attempts id = _
      rw [o.attempts_handed, hcount, Nat.add_zero]

end Attempts

/-! ### Thorough batches -/

section Thorough

variable {faults : ℕ → RowFaults} {rank : ℕ → ℕ} {start k : ℕ} {o : Outbox}
  {record : PendingEmail} {pending : List PendingEmail}

/-- The row after `k` others meets the `k`-th faults. -/
theorem RowFaults.provider_send (hk : o.sends.length = start + k) :
    (provider faults rank start).send o record = (faults k).send := by
  have hindex : o.sends.length - start = k := by omega
  simp only [provider, hindex]

theorem RowFaults.provider_commit (hk : o.sends.length = start + k) :
    (provider faults rank start).commit (o.handed (provider faults rank start) record) =
      (faults k).commit := by
  have hindex : (o.handed (provider faults rank start) record).sends.length - 1 - start = k := by
    simp only [Outbox.handed, List.length_append, List.length_singleton]
    omega
  show (faults _).commit = _
  rw [hindex]

theorem Outbox.length_settled {provider : Provider} (hk : o.sends.length = start + k) :
    (o.settled provider record).sends.length = start + (k + 1) := by
  simp only [settled, handed, List.length_append, List.length_singleton]
  omega

/-- A settled row, and then a thorough rest that leaves it alone. -/
theorem Outbox.Thorough.cons {o₁ o' : Outbox} (hnot : record.id ∉ pending.map (·.id))
    (hattempts : ∀ id, o₁.attempts id = o.attempts id + if record.id = id then 1 else 0)
    (hrecorded : ∃ now,
      Keyed.get? o₁.rows record.id = some (record.attempted (faults 0).send now))
    (hframe : o'.attempts record.id = o₁.attempts record.id ∧
      Keyed.get? o'.rows record.id = Keyed.get? o₁.rows record.id)
    (hrest : o₁.Thorough o' pending fun i => faults (i + 1)) :
    o.Thorough o' (record :: pending) faults := by
  constructor
  · intro r hr
    rcases List.mem_cons.mp hr with rfl | hr
    · rw [hframe.1, hattempts, if_pos rfl]
    · have hne : record.id ≠ r.id := fun hid => hnot (hid ▸ List.mem_map_of_mem hr)
      rw [hrest.attempts r hr, hattempts, if_neg hne]
  · intro i r hr hnone
    cases i with
    | zero =>
      obtain rfl : record = r := by simpa using hr
      obtain ⟨now, hget⟩ := hrecorded
      exact ⟨now, hframe.2.trans hget⟩
    | succ i => exact hrest.recorded i r (by simpa using hr) hnone

/-- The last row may fail. -/
theorem Outbox.Thorough.last {provider : Provider} (hfails : (faults 0).commit ≠ none) :
    o.Thorough (o.handed provider record) [record] faults := by
  constructor
  · intro r hr
    rw [List.mem_singleton.mp hr, o.attempts_handed, if_pos rfl]
  · intro i r hr hnone
    have hi : i = 0 := by
      by_contra hi
      simp [hi] at hr
    subst hi
    exact absurd hnone hfails

/-- **If no commit fails but that of the last row**, the loop is thorough. -/
theorem processRecords_thorough (rank : ℕ → ℕ) (ht : o.Tables)
    (hnodup : (pending.map (·.id)).Nodup)
    (hmem : ∀ r ∈ pending, r ∈ o.rows) (heligible : ∀ r ∈ pending, r.eligible = true)
    (hk : o.sends.length = start + k)
    (hcommit : ∀ i, i + 1 < pending.length → (faults (k + i)).commit = none) :
    o.Thorough ((processRecords pending).run
      (OutboxStmt.exec (RowFaults.provider faults rank start)) o).2 pending
      fun i => faults (k + i) := by
  induction pending generalizing o k with
  | nil => exact ⟨fun r hr => absurd hr List.not_mem_nil, fun i r hr => by simp at hr⟩
  | cons record pending ih =>
    rw [List.map_cons, List.nodup_cons] at hnodup
    have hrecord := hmem record List.mem_cons_self
    simp only [processRecords]
    rw [Prog.run_bind, processRecord_run, RowFaults.provider_commit hk]
    cases hfails : (faults k).commit with
    | some e =>
      have hlast : pending = [] := by
        by_contra hne
        have hlength := List.length_pos_iff.mpr hne
        have hnone := hcommit 0 (by rw [List.length_cons]; omega)
        rw [Nat.add_zero, hfails] at hnone
        cases hnone
      subst hlast
      exact .last (by simp [hfails])
    | none =>
      have hattempted : Attempted o record
          (o.settled (RowFaults.provider faults rank start) record) :=
        Outbox.attempted_settled ht hrecord (heligible record List.mem_cons_self)
      have hstay : ∀ r ∈ pending,
          r ∈ (o.settled (RowFaults.provider faults rank start) record).rows := by
        intro r hr
        refine hattempted.stays (hmem r (List.mem_cons_of_mem _ hr)) fun hid => hnodup.1 ?_
        rw [← hid]
        exact List.mem_map_of_mem hr
      have hindex : ∀ i, k + (i + 1) = k + 1 + i := fun i => by omega
      have hlater : ∀ i, i + 1 < pending.length → (faults (k + 1 + i)).commit = none := by
        intro i hi
        rw [← hindex]
        exact hcommit (i + 1) (by rw [List.length_cons]; omega)
      have hrest := ih (hattempted.tables ht) hnodup.2 hstay
        (fun r hr => heligible r (List.mem_cons_of_mem _ hr)) (Outbox.length_settled hk) hlater
      refine .cons hnodup.1 o.attempts_settled ?_ (processRecords_frame pending _ hnodup.1) ?_
      · rw [Nat.add_zero, ← RowFaults.provider_send hk]
        exact Outbox.get?_settled ht hrecord
      · have hsame : (fun i => faults (k + 1 + i)) = fun i => faults (k + (i + 1)) :=
          funext fun i => congrArg faults (hindex i).symm
        exact hsame ▸ hrest

/-- **If another commit fails**, some row is not attempted. -/
theorem processRecords_stops (rank : ℕ → ℕ) (hnodup : (pending.map (·.id)).Nodup)
    (hk : o.sends.length = start + k) {i : ℕ} (hi : i + 1 < pending.length)
    (hfails : (faults (k + i)).commit ≠ none) :
    ∃ r ∈ pending, ((processRecords pending).run
      (OutboxStmt.exec (RowFaults.provider faults rank start)) o).2.attempts r.id =
        o.attempts r.id := by
  induction pending generalizing o k i with
  | nil => simp at hi
  | cons record pending ih =>
    rw [List.map_cons, List.nodup_cons] at hnodup
    rw [List.length_cons] at hi
    have hne : ∀ r ∈ pending, record.id ≠ r.id :=
      fun r hr hid => hnodup.1 (hid ▸ List.mem_map_of_mem hr)
    simp only [processRecords]
    rw [Prog.run_bind, processRecord_run, RowFaults.provider_commit hk]
    cases hfirst : (faults k).commit with
    | some e =>
      obtain ⟨r, hr⟩ := List.exists_mem_of_length_pos (l := pending) (by omega)
      refine ⟨r, List.mem_cons_of_mem _ hr, ?_⟩
      show (o.handed _ record).attempts r.id = _
      rw [o.attempts_handed, if_neg (hne r hr), Nat.add_zero]
    | none =>
      obtain ⟨j, rfl⟩ : ∃ j, i = j + 1 := by
        refine Nat.exists_eq_succ_of_ne_zero ?_
        rintro rfl
        exact hfails hfirst
      have hindex : k + (j + 1) = k + 1 + j := by omega
      obtain ⟨r, hr, hattempts⟩ := ih (o := o.settled _ record) hnodup.2
        (Outbox.length_settled hk) (by omega) (hindex ▸ hfails)
      refine ⟨r, List.mem_cons_of_mem _ hr, hattempts.trans ?_⟩
      rw [o.attempts_settled, if_neg (hne r hr), Nat.add_zero]

end Thorough

/-- **Every row of a batch is attempted once, and recorded unless its own commit fails, exactly if
no commit fails but that of the last row.** -/
theorem processBatch_thorough_iff {o : Outbox} (ht : o.Tables) (rank : ℕ → ℕ)
    (faults : ℕ → RowFaults) :
    let batch := selectPendingEmails rank o.rows batchSize
    let provider := RowFaults.provider faults rank o.sends.length
    o.Thorough (Worker.processBatch.run (WorkerStmt.exec provider) ⟨o, false⟩).2.outbox batch
        faults ↔
      ∀ i, i + 1 < batch.length → (faults i).commit = none := by
  intro batch provider
  have hnodup : (batch.map (·.id)).Nodup := nodup_selectPendingEmails ht.nodup rank batchSize
  obtain ⟨r, -, hrun⟩ := Worker.processBatch_simulates provider o
  have houtbox : (Worker.processBatch.run (WorkerStmt.exec provider) ⟨o, false⟩).2.outbox =
      ((processRecords batch).run (OutboxStmt.exec provider) o).2 := by
    rw [hrun]
    rfl
  rw [houtbox]
  constructor
  · intro hthorough i hi
    by_contra hfails
    have hindex : 0 + i = i := Nat.zero_add i
    obtain ⟨r, hr, hattempts⟩ := processRecords_stops (o := o) rank hnodup
      (Nat.add_zero _).symm hi (hindex.symm ▸ hfails)
    have honce := hthorough.attempts r hr
    exact absurd (honce.symm.trans hattempts) (Nat.succ_ne_self _)
  · intro hcommit
    have hmem : ∀ r ∈ batch, r ∈ o.rows ∧ r.eligible = true :=
      fun r hr => mem_of_mem_selectPendingEmails hr
    have hthorough := processRecords_thorough rank ht hnodup (fun r hr => (hmem r hr).1)
      (fun r hr => (hmem r hr).2) (Nat.add_zero _).symm
      fun i hi => (Nat.zero_add i).symm ▸ hcommit i hi
    simpa only [Nat.zero_add] using hthorough

/-- Two emails that wait to be sent. -/
def Outbox.twoPending : Outbox where
  rows := [
    { id := 1, recipient := "grace@example.com", content := .resetPasswordEmail "a"
      emailType := .forgotPassword, triggeredBy := none, recipientUserId := none, createdAt := 0 },
    { id := 2, recipient := "alan@example.com", content := .resetPasswordEmail "b"
      emailType := .forgotPassword, triggeredBy := none, recipientUserId := none, createdAt := 1 }]
  idSeq := 3
  clock := 2
  cache _ := none
  sends := []

theorem Outbox.twoPending_tables : Outbox.twoPending.Tables := ⟨by decide, by decide, by decide⟩

/-- Both sends raise and both commits succeed: the second email is attempted all the same. -/
theorem processBatch_thorough_twoPending :
    let faults : ℕ → RowFaults := fun _ => ⟨.raised "timeout", 0, none⟩
    let batch := selectPendingEmails id Outbox.twoPending.rows batchSize
    let provider := RowFaults.provider faults id Outbox.twoPending.sends.length
    batch.length = 2 ∧ Outbox.twoPending.Thorough
      (Worker.processBatch.run (WorkerStmt.exec provider) ⟨Outbox.twoPending, false⟩).2.outbox
      batch faults :=
  ⟨by decide, (processBatch_thorough_iff Outbox.twoPending_tables id _).mpr fun _ _ => rfl⟩

/-- The first send raises, and the commit of that attempt fails: the second email is not sent. -/
theorem second_row_not_attempted :
    let faults : ℕ → RowFaults
      | 0 => ⟨.raised "timeout", 0, some (.data "server closed the connection unexpectedly")⟩
      | _ => ⟨.delivered, 0, none⟩
    let o := Outbox.twoPending
    let provider := RowFaults.provider faults id o.sends.length
    let o' := (Worker.processBatch.run (WorkerStmt.exec provider) ⟨o, false⟩).2.outbox
    2 ∈ (selectPendingEmails id o.rows batchSize).map (·.id) ∧ o'.attempts 2 = o.attempts 2 := by
  decide +kernel

end SmsLite
