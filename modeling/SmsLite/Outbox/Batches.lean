import SmsLite.Outbox

/-!
# A batch is a sequence of attempts

The worker executed statement by statement: each turn of its loop is one attempt on a row
as it stands, so what one attempt keeps, every batch and every run keeps.

## Main definitions

* `Attempted`, `Attempts` — one attempt, and the attempts of a batch.
* `Outbox.Tables` — the primary key of the table.
* `Outbox.attempts`, `Outbox.deliveries`, `Outbox.failures` — what the log says of a row.

## Main results

* `processRecord_attempted` — the `for` body is one attempt.
* `Outbox.processBatch_attempts` — **a batch is a sequence of attempts**.
* `Outbox.after_retryFailedEmail` — what a retry does.
-/

namespace SmsLite

open Interleave

/-! ### The rules of the statements -/

section Rules

variable {provider : Provider} {β : Type} {o : Outbox}

theorem run_send (record : PendingEmail) (f : SendOutcome → OutboxProg β) :
    (OutboxProg.send record >>= f).run (OutboxStmt.exec provider) o =
      (f (provider.send o record)).run (OutboxStmt.exec provider)
        { o with
          clock := o.clock + provider.latency o
          sends := o.sends ++ [⟨record.id, provider.send o record⟩] } := rfl

theorem run_now (f : Time → OutboxProg β) :
    (OutboxProg.now >>= f).run (OutboxStmt.exec provider) o =
      (f o.clock).run (OutboxStmt.exec provider) o := rfl

theorem run_getEmailById (emailId : ℕ) (f : Option PendingEmail → OutboxProg β) :
    (OutboxProg.getEmailById emailId >>= f).run (OutboxStmt.exec provider) o =
      (f (Keyed.get? o.rows emailId)).run (OutboxStmt.exec provider) o := rfl

theorem run_getCache (emailId : ℕ) (f : Option EmailCacheValue → OutboxProg β) :
    (OutboxProg.getCache emailId >>= f).run (OutboxStmt.exec provider) o =
      (f (o.cache emailId)).run (OutboxStmt.exec provider) o := rfl

/-- A cached email is answered from its entry. -/
theorem run_readEmail_hit {emailId : ℕ} {cached : EmailCacheValue}
    (hcache : o.cache emailId = some cached) :
    (PendingEmailService.getEmailById emailId).run (OutboxStmt.exec provider) o =
      (cached.detail?.elim (.error (.valueError "validation error")) .ok, o) := by
  unfold PendingEmailService.getEmailById
  rw [run_getCache, hcache]
  cases cached with
  | detail email => rfl
  | invalid => rfl

/-- Any other is loaded, and cached if it is there. -/
theorem run_readEmail_miss {emailId : ℕ} (hcache : o.cache emailId = none) :
    (PendingEmailService.getEmailById emailId).run (OutboxStmt.exec provider) o =
      (Keyed.get? o.rows emailId).elim (.error pendingEmailNotFound, o) fun email =>
        (.ok email.responseCache, { o with
          cache := Function.update o.cache emailId (some (.detail email.responseCache)) }) := by
  unfold PendingEmailService.getEmailById
  rw [run_getCache, hcache]
  dsimp only
  rw [run_getEmailById]
  cases Keyed.get? o.rows emailId with
  | none => rfl
  | some email => rfl

theorem run_tryCommit_eq (loaded current : PendingEmail) (f : Except DbError Unit → OutboxProg β)
    (o : Outbox) :
    (OutboxProg.tryCommit loaded current >>= f).run (OutboxStmt.exec provider) o =
      match provider.commit o with
      | none =>
        (f (.ok ())).run (OutboxStmt.exec provider)
          { o with
            rows := Keyed.modify o.rows loaded.id (PendingEmail.write loaded current) }
      | some e => (f (.error e)).run (OutboxStmt.exec provider) o := by
  change (f (OutboxStmt.exec provider (.commit loaded current) o).1).run _
    (OutboxStmt.exec provider (.commit loaded current) o).2 = _
  simp only [OutboxStmt.exec]
  cases provider.commit o <;> rfl

theorem run_tryCommit (hcommit : ∀ o, provider.commit o = none) (loaded current : PendingEmail)
    (f : Except DbError Unit → OutboxProg β) :
    (OutboxProg.tryCommit loaded current >>= f).run (OutboxStmt.exec provider) o =
      (f (.ok ())).run (OutboxStmt.exec provider)
        { o with
          rows := Keyed.modify o.rows loaded.id (PendingEmail.write loaded current) } := by
  rw [run_tryCommit_eq, hcommit]

theorem run_commitOrRaise (hcommit : ∀ o, provider.commit o = none)
    (loaded current : PendingEmail) :
    (OutboxProg.commitOrRaise loaded current).run (OutboxStmt.exec provider) o =
      (.ok (), { o with
        rows := Keyed.modify o.rows loaded.id (PendingEmail.write loaded current) }) := by
  unfold OutboxProg.commitOrRaise
  rw [run_tryCommit hcommit]
  rfl

end Rules

/-! ### One attempt -/

/-- A row right after it was handed to `send`. -/
def PendingEmail.attempted (record : PendingEmail) (outcome : SendOutcome) (now : Time) :
    PendingEmail :=
  match outcome with
  | .delivered => record.markSent now
  | .raised error => record.markFailedAttempt error

@[simp] theorem PendingEmail.attempted_id (record : PendingEmail) (outcome : SendOutcome)
    (now : Time) : (record.attempted outcome now).id = record.id := by
  cases outcome <;> rfl

@[simp] theorem PendingEmail.attempted_createdAt (record : PendingEmail) (outcome : SendOutcome)
    (now : Time) : (record.attempted outcome now).createdAt = record.createdAt := by
  cases outcome <;> rfl

/-- `Attempted o record o'`: from `o` to `o'` a pending row was handed to `send` once. -/
inductive Attempted (o : Outbox) (record : PendingEmail) : Outbox → Prop
  | intro (outcome : SendOutcome) (now clock : Time) (hmem : record ∈ o.rows)
      (heligible : record.eligible = true) :
      Attempted o record
        { o with
          rows := Keyed.modify o.rows record.id fun _ => record.attempted outcome now
          clock := clock
          sends := o.sends ++ [⟨record.id, outcome⟩] }

/-- The attempts of a batch, one after the other. -/
inductive Attempts : Outbox → List PendingEmail → Outbox → Prop
  | nil (o : Outbox) : Attempts o [] o
  | cons {o o' o'' : Outbox} {record : PendingEmail} {pending : List PendingEmail}
      (h : Attempted o record o') (hrest : Attempts o' pending o'') :
      Attempts o (record :: pending) o''

/-- If no one else wrote the row since the load, a flush stores the object. -/
theorem PendingEmail.write_markSent (record : PendingEmail) (now : Time) :
    PendingEmail.write record (record.markSent now) record = record.markSent now := by
  simp [PendingEmail.write, PendingEmail.markSent]

theorem PendingEmail.write_markFailedAttempt (record : PendingEmail) (error : String) :
    PendingEmail.write record (record.markFailedAttempt error) record =
      record.markFailedAttempt error := by
  simp [PendingEmail.write, PendingEmail.markFailedAttempt]

theorem PendingEmail.write_resetForRetry (record : PendingEmail) :
    PendingEmail.write record record.resetForRetry record = record.resetForRetry := by
  simp [PendingEmail.write, PendingEmail.resetForRetry]

/-- The primary key of the table. -/
structure Outbox.Tables (o : Outbox) : Prop where
  nodup : (Keyed.keys o.rows).Nodup
  fresh : ∀ r ∈ o.rows, r.id < o.idSeq
  /-- Only rows of the table are handed to `send`. -/
  sends : ∀ x ∈ o.sends, x.id < o.idSeq

section Tables

variable {o o' : Outbox} {record : PendingEmail}

/-- A flush of a row that no one else wrote since the load. -/
theorem Outbox.Tables.modify_write (ht : o.Tables) (hmem : record ∈ o.rows)
    {current : PendingEmail} (hwrite : PendingEmail.write record current record = current) :
    Keyed.modify o.rows record.id (PendingEmail.write record current) =
      Keyed.modify o.rows record.id fun _ => current := by
  refine Keyed.modify_congr fun r hr hk => ?_
  have hget := Keyed.get?_of_mem ht.nodup hr
  rw [hk] at hget
  obtain rfl := Keyed.get?_inj hget (Keyed.get?_of_mem ht.nodup hmem)
  exact hwrite

/-- An attempt leaves the keys alone. -/
theorem Attempted.keys (h : Attempted o record o') : Keyed.keys o'.rows = Keyed.keys o.rows := by
  cases h with
  | intro outcome now clock hmem heligible =>
    simp only [Keyed.keys, Keyed.modify, List.map_map]
    refine List.map_congr_left fun r _ => ?_
    by_cases hr : r.id = record.id <;> simp [hr]

/-- The row that was attempted, or another one that was there. -/
theorem Attempted.mem (h : Attempted o record o') {r : PendingEmail} (hr : r ∈ o'.rows) :
    r.id = record.id ∨ (r ∈ o.rows ∧ r.id ≠ record.id) := by
  cases h with
  | intro outcome now clock hmem heligible =>
    rcases Keyed.mem_modify.mp hr with ⟨r₀, -, -, rfl⟩ | h
    · exact Or.inl (record.attempted_id outcome now)
    · exact Or.inr h

theorem Attempted.tables (h : Attempted o record o') (ht : o.Tables) : o'.Tables := by
  have hfresh : record.id < o.idSeq := by
    cases h with
    | intro _ _ _ hmem => exact ht.fresh record hmem
  refine ⟨h.keys ▸ ht.nodup, fun r hr => ?_, ?_⟩
  · have hseq : o'.idSeq = o.idSeq := by cases h; rfl
    rcases h.mem hr with hid | ⟨hr, -⟩
    · rw [hid, hseq]
      exact hfresh
    · rw [hseq]
      exact ht.fresh r hr
  · cases h with
    | intro outcome now clock hmem heligible =>
      intro x hx
      rcases List.mem_append.mp hx with hx | hx
      · exact ht.sends x hx
      · rw [List.mem_singleton.mp hx]
        exact hfresh

/-- A row other than the one attempted is still there. -/
theorem Attempted.stays (h : Attempted o record o') {r : PendingEmail} (hr : r ∈ o.rows)
    (hne : r.id ≠ record.id) : r ∈ o'.rows := by
  cases h with
  | intro outcome now clock hmem heligible => exact Keyed.mem_modify.mpr (Or.inr ⟨hr, hne⟩)

end Tables

/-! ### A batch -/

theorem mem_of_mem_selectPendingEmails {rank : ℕ → ℕ} {rows : List PendingEmail} {limit : ℕ}
    {r : PendingEmail} (h : r ∈ selectPendingEmails rank rows limit) :
    r ∈ rows ∧ r.eligible = true :=
  List.mem_filter.mp ((List.mem_insertionSort _).mp (List.mem_of_mem_take h))

/-- No row is selected twice. -/
theorem nodup_selectPendingEmails {rows : List PendingEmail} (hn : (Keyed.keys rows).Nodup)
    (rank : ℕ → ℕ) (limit : ℕ) :
    ((selectPendingEmails rank rows limit).map (·.id)).Nodup := by
  have hfilter : ((rows.filter PendingEmail.eligible).map (·.id)).Nodup :=
    hn.sublist (List.filter_sublist.map _)
  -- Sorting permutes the ids, and the batch is an initial part of them.
  have hsort := ((List.perm_insertionSort (PendingEmail.Before rank)
    (rows.filter PendingEmail.eligible)).map (·.id)).nodup_iff.mpr hfilter
  exact hsort.sublist ((List.take_sublist _ _).map _)

section Batch

variable {provider : Provider} (hcommit : ∀ o, provider.commit o = none)
include hcommit

/-- **The `for` body is one attempt** on a row as it stands. -/
theorem processRecord_attempted {o : Outbox} (ht : o.Tables) {record : PendingEmail}
    (hmem : record ∈ o.rows) (heligible : record.eligible = true) :
    ∃ o', (processRecord record).run (OutboxStmt.exec provider) o = (.ok (), o') ∧
      Attempted o record o' := by
  unfold processRecord
  rw [run_send]
  cases hsend : provider.send o record with
  | delivered =>
    refine ⟨_, ?_, .intro .delivered (o.clock + provider.latency o) (o.clock + provider.latency o)
      hmem heligible⟩
    dsimp only
    rw [run_now, run_tryCommit hcommit, ht.modify_write hmem (record.write_markSent _)]
    rfl
  -- A send that raises is committed as well, without a time of sending.
  | raised error =>
    refine ⟨_, ?_, .intro (.raised error) 0 (o.clock + provider.latency o) hmem heligible⟩
    dsimp only
    rw [run_commitOrRaise hcommit, ht.modify_write hmem (record.write_markFailedAttempt error)]
    rfl

/-- The loop over rows that no one else writes meanwhile. -/
theorem processRecords_attempts {pending : List PendingEmail} {o : Outbox} (ht : o.Tables)
    (hnodup : (pending.map (·.id)).Nodup) (hmem : ∀ r ∈ pending, r ∈ o.rows)
    (heligible : ∀ r ∈ pending, r.eligible = true) :
    ∃ o', (processRecords pending).run (OutboxStmt.exec provider) o = (.ok (), o') ∧
      Attempts o pending o' := by
  induction pending generalizing o with
  | nil => exact ⟨o, rfl, .nil o⟩
  | cons record pending ih =>
    rw [List.map_cons, List.nodup_cons] at hnodup
    obtain ⟨o₁, hrun, hattempted⟩ := processRecord_attempted hcommit ht
      (hmem record List.mem_cons_self) (heligible record List.mem_cons_self)
    -- The attempt has written its own row only, and the others are still to come.
    have hstay : ∀ r ∈ pending, r ∈ o₁.rows := by
      intro r hr
      refine hattempted.stays (hmem r (List.mem_cons_of_mem _ hr)) fun hid => hnodup.1 ?_
      rw [← hid]
      exact List.mem_map_of_mem hr
    obtain ⟨o₂, hrun', hattempts⟩ := ih (hattempted.tables ht) hnodup.2 hstay
      fun r hr => heligible r (List.mem_cons_of_mem _ hr)
    refine ⟨o₂, ?_, .cons hattempted hattempts⟩
    simp only [processRecords]
    rw [Prog.run_bind, hrun]
    exact hrun'

/-- **A batch is a sequence of attempts** on the rows the query returns. -/
theorem Outbox.processBatch_attempts {o : Outbox} (ht : o.Tables) :
    Attempts o (selectPendingEmails (provider.rank o) o.rows batchSize)
      (o.after provider .processBatch) := by
  have hmem : ∀ r ∈ selectPendingEmails (provider.rank o) o.rows batchSize,
      r ∈ o.rows ∧ r.eligible = true := fun r hr => mem_of_mem_selectPendingEmails hr
  obtain ⟨o', hrun, hattempts⟩ := processRecords_attempts hcommit ht
    (nodup_selectPendingEmails ht.nodup (provider.rank o) batchSize) (fun r hr => (hmem r hr).1)
    fun r hr => (hmem r hr).2
  have hafter : o.after provider .processBatch = o' := congrArg Prod.snd hrun
  rw [hafter]
  exact hattempts

end Batch

/-! ### The log -/

/-- How often a row was handed to `send`. -/
def Outbox.attempts (o : Outbox) (id : ℕ) : ℕ := o.sends.countP fun x => decide (x.id = id)

/-- How often that succeeded. -/
def Outbox.deliveries (o : Outbox) (id : ℕ) : ℕ :=
  o.sends.countP fun x => decide (x.id = id) && decide (x.outcome = .delivered)

/-- How often that raised. -/
def Outbox.failures (o : Outbox) (id : ℕ) : ℕ :=
  o.sends.countP fun x => decide (x.id = id) && decide (x.outcome ≠ .delivered)

theorem Outbox.deliveries_add_failures (o : Outbox) (id : ℕ) :
    o.deliveries id + o.failures id = o.attempts id := by
  unfold deliveries failures attempts
  induction o.sends with
  | nil => rfl
  | cons x sends ih =>
    simp only [List.countP_cons, ← ih]
    by_cases hid : x.id = id <;> by_cases hout : x.outcome = .delivered <;>
      simp [hid, hout] <;> omega

/-- A row that does not exist yet was never handed to `send`. -/
theorem Outbox.Tables.attempts_idSeq {o : Outbox} (ht : o.Tables) : o.attempts o.idSeq = 0 :=
  List.countP_eq_zero.mpr fun x hx => by simpa using (ht.sends x hx).ne

section Log

variable {o o' : Outbox} {record : PendingEmail}

/-- An attempt on one row leaves the counts of the others alone. -/
theorem Attempted.counts_ne (h : Attempted o record o') {id : ℕ} (hid : id ≠ record.id) :
    o'.attempts id = o.attempts id ∧ o'.deliveries id = o.deliveries id ∧
      o'.failures id = o.failures id := by
  cases h with
  | intro outcome now clock hmem heligible =>
    simp [Outbox.attempts, Outbox.deliveries, Outbox.failures, hid.symm]

theorem Outbox.deliveries_handed (o : Outbox) (rows : List PendingEmail) (clock : Time) (id : ℕ)
    (outcome : SendOutcome) :
    ({ o with rows := rows, clock := clock, sends := o.sends ++ [⟨id, outcome⟩] } :
      Outbox).deliveries id = o.deliveries id + if outcome = .delivered then 1 else 0 := by
  simp [Outbox.deliveries, List.countP_cons]

theorem Outbox.failures_handed (o : Outbox) (rows : List PendingEmail) (clock : Time) (id : ℕ)
    (outcome : SendOutcome) :
    ({ o with rows := rows, clock := clock, sends := o.sends ++ [⟨id, outcome⟩] } :
      Outbox).failures id = o.failures id + if outcome = .delivered then 0 else 1 := by
  by_cases h : outcome = .delivered <;> simp [Outbox.failures, h]

theorem Attempted.attempts (h : Attempted o record o') :
    o'.attempts record.id = o.attempts record.id + 1 := by
  cases h with
  | intro outcome now clock hmem heligible => simp [Outbox.attempts]

theorem Attempted.attempts_le (h : Attempted o record o') (id : ℕ) :
    o.attempts id ≤ o'.attempts id := by
  by_cases hid : id = record.id
  · subst hid
    rw [h.attempts]
    exact Nat.le_succ _
  · exact (h.counts_ne hid).1.ge

theorem Attempts.attempts_le {pending : List PendingEmail} (h : Attempts o pending o') (id : ℕ) :
    o.attempts id ≤ o'.attempts id := by
  induction h with
  | nil => exact le_rfl
  | cons h _ ih => exact (h.attempts_le id).trans ih

/-- Every row of the batch is attempted. -/
theorem Attempts.attempts_lt {pending : List PendingEmail} (h : Attempts o pending o')
    (hr : record ∈ pending) : o.attempts record.id < o'.attempts record.id := by
  induction h with
  | nil => simp at hr
  | cons h hrest ih =>
    rcases List.mem_cons.mp hr with rfl | hr
    · have := hrest.attempts_le record.id
      rw [h.attempts] at this
      omega
    · exact (h.attempts_le record.id).trans_lt (ih hr)

theorem Attempts.tables {pending : List PendingEmail} (h : Attempts o pending o')
    (ht : o.Tables) : o'.Tables := by
  induction h with
  | nil => exact ht
  | cons h _ ih => exact ih (h.tables ht)

/-- A row that is not in the batch is still there. -/
theorem Attempts.stays {pending : List PendingEmail} (h : Attempts o pending o')
    (hr : record ∈ o.rows) (hne : ∀ x ∈ pending, record.id ≠ x.id) : record ∈ o'.rows := by
  induction h with
  | nil => exact hr
  | cons h _ ih =>
    exact ih (h.stays hr (hne _ List.mem_cons_self)) fun x hx => hne x (List.mem_cons_of_mem _ hx)

end Log

/-! ### The events -/

section Events

variable {provider : Provider} {o : Outbox}

/-- Only a batch, a retry and a new row touch the table. -/
theorem Outbox.after_getEmailById (provider : Provider) (o : Outbox) (emailId : ℕ) :
    ∃ cache, o.after provider (.getEmailById emailId) = { o with cache := cache } := by
  simp only [Outbox.after]
  cases hcache : o.cache emailId with
  | some cached =>
    refine ⟨o.cache, ?_⟩
    rw [run_readEmail_hit hcache]
  | none =>
    rw [run_readEmail_miss hcache]
    cases Keyed.get? o.rows emailId with
    | none => exact ⟨o.cache, rfl⟩
    | some email => exact ⟨_, rfl⟩

/-- A retry puts the row back, whatever its status. -/
theorem Outbox.after_retryFailedEmail (hcommit : ∀ o, provider.commit o = none) (ht : o.Tables)
    (emailId : ℕ) :
    (o.after provider (.retryFailedEmail emailId) = o ∧ Keyed.get? o.rows emailId = none) ∨
      ∃ record, Keyed.get? o.rows emailId = some record ∧
        o.after provider (.retryFailedEmail emailId) =
          { o with rows := Keyed.modify o.rows record.id fun _ => record.resetForRetry } := by
  simp only [Outbox.after, PendingEmailService.retryFailedEmail]
  rw [run_getEmailById]
  cases hget : Keyed.get? o.rows emailId with
  | none => exact Or.inl ⟨rfl, rfl⟩
  | some record =>
    refine Or.inr ⟨record, rfl, ?_⟩
    dsimp only
    rw [run_commitOrRaise hcommit,
      ht.modify_write (Keyed.mem_of_get? hget) record.write_resetForRetry]

/-- A new row. -/
theorem Outbox.Tables.enqueue (ht : o.Tables) (createdAt : Time) (e : NewPendingEmail) :
    (o.enqueue createdAt e).Tables := by
  refine ⟨?_, fun r hr => ?_, fun x hx => (ht.sends x hx).trans (Nat.lt_succ_self _)⟩
  · simp only [Outbox.enqueue, Keyed.keys_concat]
    refine List.nodup_append.mpr ⟨ht.nodup, List.nodup_singleton _, ?_⟩
    rintro id hid _ hseq rfl
    obtain ⟨r, hr, rfl⟩ := List.mem_map.mp hid
    exact (ht.fresh r hr).ne (List.mem_singleton.mp hseq)
  · rcases List.mem_append.mp hr with hr | hr
    · exact (ht.fresh r hr).trans (Nat.lt_succ_self _)
    · rw [List.mem_singleton.mp hr]
      exact Nat.lt_succ_self _

/-- The keys stay distinct. -/
theorem Outbox.Tables.after (hcommit : ∀ o, provider.commit o = none) (ht : o.Tables)
    (e : OutboxEvent) : (o.after provider e).Tables := by
  cases e with
  | processBatch => exact (Outbox.processBatch_attempts hcommit ht).tables ht
  | retryFailedEmail emailId =>
    rcases Outbox.after_retryFailedEmail hcommit ht emailId with ⟨h, -⟩ | ⟨record, hget, h⟩
    · rw [h]
      exact ht
    · rw [h]
      refine ⟨?_, fun r hr => ?_, ht.sends⟩
      -- The row keeps its id, so the ids are what they were.
      · have hkeys : Keyed.keys (Keyed.modify o.rows record.id fun _ => record.resetForRetry) =
            Keyed.keys o.rows := by
          simp only [Keyed.keys, Keyed.modify, List.map_map]
          refine List.map_congr_left fun r _ => ?_
          by_cases hr : r.id = record.id <;> simp [hr, PendingEmail.resetForRetry]
        exact hkeys ▸ ht.nodup
      · rcases Keyed.mem_modify.mp hr with ⟨r₀, hr₀, hid, rfl⟩ | ⟨hr, -⟩
        · exact ht.fresh record (Keyed.mem_of_get? hget)
        · exact ht.fresh r hr
  | getEmailById emailId =>
    obtain ⟨cache, h⟩ := o.after_getEmailById provider emailId
    rw [h]
    exact ⟨ht.nodup, ht.fresh, ht.sends⟩
  | enqueue createdAt e => exact ht.enqueue createdAt e
  | tick d => exact ⟨ht.nodup, ht.fresh, ht.sends⟩
  | expire emailId => exact ⟨ht.nodup, ht.fresh, ht.sends⟩

/-- Nothing takes a send back. -/
theorem Outbox.attempts_le_after (hcommit : ∀ o, provider.commit o = none) (ht : o.Tables)
    (e : OutboxEvent) (id : ℕ) : o.attempts id ≤ (o.after provider e).attempts id := by
  cases e with
  | processBatch => exact (Outbox.processBatch_attempts hcommit ht).attempts_le id
  | retryFailedEmail emailId =>
    rcases Outbox.after_retryFailedEmail hcommit ht emailId with ⟨h, -⟩ | ⟨record, -, h⟩
    · rw [h]
    · rw [h]
      exact le_rfl
  | getEmailById emailId =>
    obtain ⟨cache, h⟩ := o.after_getEmailById provider emailId
    rw [h]
    exact le_rfl
  | enqueue createdAt e => exact le_rfl
  | tick d => exact le_rfl
  | expire emailId => exact le_rfl

theorem Outbox.Tables.run (hcommit : ∀ o, provider.commit o = none) (ht : o.Tables)
    (events : List OutboxEvent) : (o.run provider events).Tables :=
  Run.invariant' (fun _ e ht => ht.after hcommit e) ht events

theorem Outbox.attempts_le_run (hcommit : ∀ o, provider.commit o = none) (ht : o.Tables)
    (events : List OutboxEvent) (id : ℕ) :
    o.attempts id ≤ (o.run provider events).attempts id := by
  induction events generalizing o with
  | nil => exact le_rfl
  | cons e events ih => exact (attempts_le_after hcommit ht e id).trans (ih (ht.after hcommit e))

end Events

end SmsLite
