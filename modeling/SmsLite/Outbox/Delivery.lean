import SmsLite.Outbox.Batches

/-!
# What becomes of a row of the outbox

Two invariants are carried along a run, attempt by attempt.

* Without administrators the log explains the row: its retry count is the number of its
  failed sends, and its status says which of its three fates it has met.
* With administrators, a row that was delivered stays delivered as long as no one puts
  it back.

Starvation is excluded by a measure: the attempts the older rows have left.

## Main definitions

* `Outbox.Accounted` — the log explains every row.
* `Outbox.budget` — the attempts left to the rows older than a moment.
* `Outbox.Stamped` — exactly the rows that are marked sent have a time of sending.

## Main results

* `Outbox.run_attempts_lt` — **no row starves**.
* `Outbox.delivery` — **the life of a row** without retries.
* `Outbox.sent_iff` — **when a delivered row stays delivered**.
-/

namespace SmsLite

open Interleave

/-! ### The accounts -/

/-- The three fates of a row, by how often a send of it succeeded and raised. -/
inductive Fate : EmailSendingStatus → ℕ → ℕ → Prop
  /-- Still to be sent. -/
  | pending (failures : ℕ) (h : failures < 3) : Fate .pending 0 failures
  /-- The last send succeeded. -/
  | sent (failures : ℕ) (h : failures < 3) : Fate .sent 1 failures
  /-- The third send raised. -/
  | failed : Fate .failed 0 3

/-- A pending row was never delivered. -/
theorem Fate.deliveries_eq_zero {deliveries failures : ℕ}
    (h : Fate .pending deliveries failures) : deliveries = 0 := by
  cases h
  rfl

/-- The log explains every row, and no two rows were created at once. -/
structure Outbox.Accounted (o : Outbox) : Prop extends o.Tables where
  retryCount : ∀ r ∈ o.rows, r.retryCount = o.failures r.id
  fate : ∀ r ∈ o.rows, Fate r.status (o.deliveries r.id) (o.failures r.id)
  createdAt : (o.rows.map (·.createdAt)).Nodup

/-- No administrator puts a row back, and a new row is younger than all others. -/
def Outbox.Orderly (o : Outbox) : OutboxEvent → Prop
  | .retryFailedEmail _ => False
  | .enqueue createdAt _ => ∀ r ∈ o.rows, r.createdAt < createdAt
  | _ => True

section Accounted

variable {provider : Provider} {o o' : Outbox} {record : PendingEmail}

/-- An attempt leaves the moments of creation alone. -/
theorem Attempted.createdAt (ht : o.Tables) (h : Attempted o record o') :
    o'.rows.map (·.createdAt) = o.rows.map (·.createdAt) := by
  cases h with
  | intro outcome now clock hmem heligible =>
    simp only [Keyed.modify, List.map_map]
    refine List.map_congr_left fun r hr => ?_
    by_cases hid : r.id = record.id
    · have hget := Keyed.get?_of_mem ht.nodup hr
      rw [key_pendingEmail, hid] at hget
      obtain rfl := Keyed.get?_inj hget (Keyed.get?_of_mem ht.nodup hmem)
      simp
    · simp [hid]

/-- **An attempt keeps the accounts**: a success ends the row, and so does a third
failure. -/
theorem Attempted.accounted (h : Attempted o record o') (ha : o.Accounted) : o'.Accounted := by
  have hrow : ∀ r ∈ o'.rows, r.retryCount = o'.failures r.id ∧
      Fate r.status (o'.deliveries r.id) (o'.failures r.id) := by
    intro r hr
    by_cases hid : r.id = record.id
    · cases h with
      | intro outcome now clock hmem heligible =>
        obtain rfl : r = record.attempted outcome now := by
          rcases Keyed.mem_modify.mp hr with ⟨-, -, -, h⟩ | ⟨-, hne⟩
          · exact h.symm
          · exact absurd hid hne
        have hretry := ha.retryCount record hmem
        have hfate := ha.fate record hmem
        simp only [PendingEmail.eligible, Bool.and_eq_true, decide_eq_true_eq] at heligible
        rw [heligible.1] at hfate
        -- The row was eligible, so it has not been delivered before.
        have hnone := hfate.deliveries_eq_zero
        rw [PendingEmail.attempted_id, Outbox.deliveries_handed, Outbox.failures_handed, hnone,
          ← hretry]
        cases outcome with
        | delivered => exact ⟨rfl, .sent record.retryCount heligible.2⟩
        | raised error =>
          refine ⟨rfl, ?_⟩
          simp only [PendingEmail.attempted, PendingEmail.markFailedAttempt, heligible.1]
          -- The third failure ends the row.
          by_cases hlast : 3 ≤ record.retryCount + 1
          · have hthree : record.retryCount + 1 = 3 := by omega
            simpa [hthree] using Fate.failed
          · simpa [hlast] using Fate.pending (record.retryCount + 1) (by omega)
    · obtain ⟨-, hdeliveries, hfailures⟩ := h.counts_ne hid
      rcases h.mem hr with hid' | ⟨hr, -⟩
      · exact absurd hid' hid
      · rw [hdeliveries, hfailures]
        exact ⟨ha.retryCount r hr, ha.fate r hr⟩
  exact ⟨h.tables ha.toTables, fun r hr => (hrow r hr).1, fun r hr => (hrow r hr).2,
    h.createdAt ha.toTables ▸ ha.createdAt⟩

theorem Attempts.accounted {pending : List PendingEmail} (h : Attempts o pending o')
    (ha : o.Accounted) : o'.Accounted := by
  induction h with
  | nil => exact ha
  | cons h _ ih => exact ih (h.accounted ha)

/-- What leaves the table and the log alone keeps the accounts. -/
theorem Outbox.Accounted.congr (ha : o.Accounted) (hrows : o'.rows = o.rows)
    (hseq : o'.idSeq = o.idSeq) (hsends : o'.sends = o.sends) : o'.Accounted := by
  obtain ⟨⟨hn, hf, hs⟩, hr, hfate, hc⟩ := ha
  simp only [Outbox.failures, Outbox.deliveries] at hr hfate
  constructor
  · exact ⟨hrows ▸ hn, by rwa [hrows, hseq], by rwa [hsends, hseq]⟩
  · simpa only [Outbox.failures, hrows, hsends] using hr
  · simpa only [Outbox.failures, Outbox.deliveries, hrows, hsends] using hfate
  · exact hrows ▸ hc

/-- A new row starts with an empty account. -/
theorem Outbox.Accounted.enqueue (ha : o.Accounted) {createdAt : Time}
    (hlater : ∀ r ∈ o.rows, r.createdAt < createdAt) (e : NewPendingEmail) :
    (o.enqueue createdAt e).Accounted := by
  have hzero := o.deliveries_add_failures o.idSeq
  rw [ha.attempts_idSeq] at hzero
  have hnew : ∀ r ∈ (o.enqueue createdAt e).rows, r.retryCount = o.failures r.id ∧
      Fate r.status (o.deliveries r.id) (o.failures r.id) := by
    intro r hr
    rcases List.mem_append.mp hr with hr | hr
    · exact ⟨ha.retryCount r hr, ha.fate r hr⟩
    · rw [List.mem_singleton.mp hr]
      have hfailures : o.failures o.idSeq = 0 := by omega
      have hdeliveries : o.deliveries o.idSeq = 0 := by omega
      simp only [hfailures, hdeliveries]
      exact ⟨trivial, .pending 0 (by omega)⟩
  refine ⟨ha.toTables.enqueue createdAt e, fun r hr => (hnew r hr).1, fun r hr => (hnew r hr).2, ?_⟩
  simp only [Outbox.enqueue, List.map_append, List.map_cons, List.map_nil]
  refine List.nodup_append.mpr ⟨ha.createdAt, List.nodup_singleton _, ?_⟩
  rintro t ht _ hlast rfl
  obtain ⟨r, hr, rfl⟩ := List.mem_map.mp ht
  exact (hlater r hr).ne (List.mem_singleton.mp hlast)

theorem Outbox.Accounted.after (hcommit : ∀ o, provider.commit o = none) (ha : o.Accounted)
    {e : OutboxEvent} (he : o.Orderly e) : (o.after provider e).Accounted := by
  cases e with
  | processBatch => exact (Outbox.processBatch_attempts hcommit ha.toTables).accounted ha
  | retryFailedEmail emailId => exact he.elim
  | getEmailById emailId =>
    obtain ⟨cache, h⟩ := o.after_getEmailById provider emailId
    rw [h]
    exact ha.congr rfl rfl rfl
  | enqueue createdAt e => exact ha.enqueue he e
  | tick d => exact ha.congr rfl rfl rfl
  | expire emailId => exact ha.congr rfl rfl rfl

/-- **Every run keeps the accounts.** -/
theorem Outbox.Accounted.run (hcommit : ∀ o, provider.commit o = none) (ha : o.Accounted)
    {events : List OutboxEvent}
    (h : Run.Throughout (Outbox.after provider) Outbox.Orderly o events) :
    (o.run provider events).Accounted :=
  Run.invariant (fun _ _ ha he => ha.after hcommit he) ha h

end Accounted

/-! ### No row starves -/

/-- The attempts a row has left, if it is pending and older than `c`. -/
def PendingEmail.left (c : Time) (r : PendingEmail) : ℕ :=
  if r.createdAt < c ∧ r.status = .pending then 3 - r.retryCount else 0

/-- The attempts left to the rows older than `c`. -/
def Outbox.budget (o : Outbox) (c : Time) : ℕ := (o.rows.map (PendingEmail.left c)).sum

/-- The pending rows older than `c`. -/
def Outbox.older (o : Outbox) (c : Time) : ℕ :=
  o.rows.countP fun r => decide (r.createdAt < c) && decide (r.status = .pending)

theorem Outbox.budget_le (o : Outbox) (c : Time) : o.budget c ≤ 3 * o.older c := by
  unfold budget older
  induction o.rows with
  | nil => simp
  | cons r rows ih =>
    simp only [List.map_cons, List.sum_cons, List.countP_cons, PendingEmail.left]
    by_cases hc : r.createdAt < c ∧ r.status = .pending
    · simp only [hc, and_self, if_true, decide_true, Bool.and_self]
      omega
    · rw [if_neg hc]
      omega

section Starvation

variable {provider : Provider} {o o' : Outbox} {record : PendingEmail}

/-- An attempt on an older row takes one attempt from the budget. -/
theorem Attempted.budget (h : Attempted o record o') (ht : o.Tables) (c : Time) :
    o'.budget c + (if record.createdAt < c then 1 else 0) ≤ o.budget c := by
  cases h with
  | intro outcome now clock hmem heligible =>
    have hsum := Keyed.sum_modify ht.nodup hmem (record.attempted outcome now)
      (PendingEmail.left c)
    have hleft : (record.attempted outcome now).left c + (if record.createdAt < c then 1 else 0) ≤
        record.left c := by
      simp only [PendingEmail.eligible, Bool.and_eq_true, decide_eq_true_eq] at heligible
      simp only [PendingEmail.left, PendingEmail.attempted_createdAt, heligible.1, and_true]
      by_cases hc : record.createdAt < c
      · cases outcome with
        | delivered =>
          simp only [PendingEmail.attempted, PendingEmail.markSent, hc]
          simp only [reduceCtorEq, and_false, if_false, if_true]
          omega
        | raised error =>
          simp only [PendingEmail.attempted, PendingEmail.markFailedAttempt, hc, heligible.1,
            true_and, if_true]
          split <;> simp <;> omega
      · simp [hc]
    simp only [key_pendingEmail] at hsum
    simp only [Outbox.budget]
    omega

theorem Attempts.budget {pending : List PendingEmail} (h : Attempts o pending o') (ht : o.Tables)
    (c : Time) : o'.budget c + pending.countP (fun r => decide (r.createdAt < c)) ≤ o.budget c := by
  induction h with
  | nil => simp
  | cons h _ ih =>
    have hhead := h.budget ht c
    have hrest := ih (h.tables ht)
    rw [List.countP_cons]
    simp only [decide_eq_true_eq]
    omega

instance (rank : ℕ → ℕ) : Std.Total (PendingEmail.Before rank) := ⟨fun a b => by
  rcases lt_trichotomy a.createdAt b.createdAt with h | h | h
  · exact Or.inl (Or.inl h)
  · rcases le_total (rank a.id) (rank b.id) with h' | h'
    · exact Or.inl (Or.inr ⟨h, h'⟩)
    · exact Or.inr (Or.inr ⟨h.symm, h'⟩)
  · exact Or.inr (Or.inl h)⟩

instance (rank : ℕ → ℕ) : IsTrans PendingEmail (PendingEmail.Before rank) := ⟨by
  rintro a b c (hab | ⟨hab, hab'⟩) (hbc | ⟨hbc, hbc'⟩)
  · exact Or.inl (hab.trans hbc)
  · exact Or.inl (hbc ▸ hab)
  · exact Or.inl (hab ▸ hbc)
  · exact Or.inr ⟨hab.trans hbc, hab'.trans hbc'⟩⟩

/-- A row that the query leaves out has a whole batch of older rows in front of it. -/
theorem older_of_not_selected (hn : (o.rows.map (·.createdAt)).Nodup) (rank : ℕ → ℕ) (limit : ℕ)
    (hr : record ∈ o.rows) (heligible : record.eligible = true)
    (hnot : record ∉ selectPendingEmails rank o.rows limit) :
    (selectPendingEmails rank o.rows limit).countP
        (fun r => decide (r.createdAt < record.createdAt)) =
      limit := by
  have hsorted := List.pairwise_insertionSort (PendingEmail.Before rank)
    (o.rows.filter PendingEmail.eligible)
  have hmem : record ∈ (o.rows.filter PendingEmail.eligible).insertionSort
      (PendingEmail.Before rank) :=
    (List.mem_insertionSort _).mpr (List.mem_filter.mpr ⟨hr, heligible⟩)
  have hsub : ∀ r ∈ selectPendingEmails rank o.rows limit, r ∈ o.rows := fun r h =>
    (mem_of_mem_selectPendingEmails h).1
  unfold selectPendingEmails at hnot hsub ⊢
  generalize (o.rows.filter PendingEmail.eligible).insertionSort (PendingEmail.Before rank) = l at *
  rw [← List.take_append_drop limit l] at hsorted hmem
  obtain ⟨-, -, hcross⟩ := List.pairwise_append.mp hsorted
  -- The row is sorted in behind the batch, which is therefore full.
  have hdrop := (List.mem_append.mp hmem).resolve_left hnot
  have hlength : (l.take limit).length = limit := by
    have hpos := List.length_pos_of_mem hdrop
    rw [List.length_drop] at hpos
    rw [List.length_take]
    omega
  rw [List.countP_eq_length.mpr, hlength]
  intro r hsel
  rcases hcross r hsel record hdrop with hlt | ⟨heq, -⟩
  · simpa using hlt
  · -- Rows of one moment are one row, and the row was not selected.
    have hsame := List.inj_on_of_nodup_map hn (hsub r hsel) hr heq
    exact absurd (hsame ▸ hsel) hnot

/-- How many batches a run has. -/
def batches (events : List OutboxEvent) : ℕ := events.countP fun e => decide (e = .processBatch)

/-- **No row starves**: it is attempted before the older rows have used up their attempts,
whatever is added behind it. -/
theorem Outbox.run_attempts_lt (hcommit : ∀ o, provider.commit o = none) (ha : o.Accounted)
    (hr : record ∈ o.rows) (heligible : record.eligible = true) {events : List OutboxEvent}
    (h : Run.Throughout (Outbox.after provider) Outbox.Orderly o events)
    (hbudget : o.budget record.createdAt < batchSize * batches events) :
    o.attempts record.id < (o.run provider events).attempts record.id := by
  induction events generalizing o with
  | nil => simp [batches] at hbudget
  | cons e events ih =>
    obtain ⟨he, hrest⟩ := h
    have hafter := ha.after hcommit he
    -- An event that is no batch keeps the row, its count and the budget of the older ones.
    have hidle : e ≠ .processBatch → record ∈ (o.after provider e).rows →
        (o.after provider e).budget record.createdAt = o.budget record.createdAt →
        (o.after provider e).sends = o.sends →
        o.attempts record.id < (o.run provider (e :: events)).attempts record.id := by
      intro hne hr' hb hs
      have hcount : batches (e :: events) = batches events := by simp [batches, hne]
      have hattempts : (o.after provider e).attempts record.id = o.attempts record.id := by
        simp only [Outbox.attempts, hs]
      rw [← hattempts]
      exact ih hafter hr' hrest (by rw [hb, ← hcount]; exact hbudget)
    cases e with
    | processBatch =>
      have hattempts := Outbox.processBatch_attempts hcommit ha.toTables
      by_cases hsel : record ∈ selectPendingEmails (provider.rank o) o.rows batchSize
      · exact (hattempts.attempts_lt hsel).trans_le
          (attempts_le_run hcommit hafter.toTables events record.id)
      -- The batch is full of older rows, and takes one attempt from each.
      · have hspent := hattempts.budget ha.toTables record.createdAt
        rw [older_of_not_selected ha.createdAt _ _ hr heligible hsel] at hspent
        have hstays : record ∈ (o.after provider .processBatch).rows := by
          refine hattempts.stays hr fun x hx hid => hsel ?_
          have hget := Keyed.get?_of_mem ha.nodup (mem_of_mem_selectPendingEmails hx).1
          rw [key_pendingEmail, ← hid] at hget
          rw [Keyed.get?_inj (Keyed.get?_of_mem ha.nodup hr) hget]
          exact hx
        have hcount : batches (.processBatch :: events) = batches events + 1 := by
          simp [batches]
        rw [hcount, Nat.mul_succ] at hbudget
        exact (hattempts.attempts_le record.id).trans_lt (ih hafter hstays hrest (by omega))
    | retryFailedEmail emailId => exact he.elim
    | getEmailById emailId =>
      obtain ⟨cache, hcache⟩ := o.after_getEmailById provider emailId
      rw [hcache] at hidle
      exact hidle (by simp) hr rfl rfl
    | enqueue createdAt e =>
      refine hidle (by simp) (List.mem_append_left _ hr) ?_ rfl
      have hlater : ¬ createdAt < record.createdAt := (he record hr).not_gt
      simp [Outbox.after, Outbox.enqueue, Outbox.budget, PendingEmail.left, hlater]
    | tick d => exact hidle (by simp) hr rfl rfl
    | expire emailId => exact hidle (by simp) hr rfl rfl

end Starvation

/-! ### The life of a row -/

theorem Fate.status_iff {status : EmailSendingStatus} {deliveries failures : ℕ}
    (h : Fate status deliveries failures) :
    deliveries + failures ≤ 3 ∧ (status = .pending ↔ deliveries = 0 ∧ failures < 3) ∧
      (status = .sent ↔ deliveries = 1) ∧ (status = .failed ↔ failures = 3) := by
  cases h with
  | pending failures h => simp [h]; omega
  | sent failures h => simp; omega
  | failed => simp

/-- **Every row is sent at most three times**, is selectable as long as it is pending, ends
with its first success or its third failure, and is attempted in time: within
`⌊3k/10⌋ + 1` batches when `k` pending rows are older. -/
theorem Outbox.delivery (provider : Provider) (hcommit : ∀ o, provider.commit o = none)
    (o : Outbox) (ha : o.Accounted) (events : List OutboxEvent)
    (h : Run.Throughout (Outbox.after provider) Outbox.Orderly o events) :
    ∀ r ∈ (o.run provider events).rows,
      (o.run provider events).attempts r.id ≤ 3 ∧
      (r.status = .pending → r.retryCount < 3) ∧
      (r.status = .pending ↔ (o.run provider events).deliveries r.id = 0 ∧
        (o.run provider events).failures r.id < 3) ∧
      (r.status = .sent ↔ (o.run provider events).deliveries r.id = 1) ∧
      (r.status = .failed ↔ (o.run provider events).failures r.id = 3) ∧
      (r.status = .pending → ∀ later : List OutboxEvent,
        Run.Throughout (Outbox.after provider) Outbox.Orderly (o.run provider events) later →
        3 * (o.run provider events).older r.createdAt / 10 + 1 ≤ batches later →
        (o.run provider events).attempts r.id <
          ((o.run provider events).run provider later).attempts r.id) := by
  have ha' := ha.run hcommit h
  intro r hr
  have hretry := ha'.retryCount r hr
  obtain ⟨hthree, hpending, hsent, hfailed⟩ := (ha'.fate r hr).status_iff
  have hcount := (o.run provider events).deliveries_add_failures r.id
  have hselectable : r.status = .pending → r.retryCount < 3 := fun hstatus => by
    rw [hretry]
    exact (hpending.mp hstatus).2
  -- Three attempts in all: a row is delivered once, or fails at most three times.
  refine ⟨by omega, hselectable, hpending, hsent, hfailed, fun hstatus later hlater hbatches => ?_⟩
  refine Outbox.run_attempts_lt hcommit ha' hr ?_ hlater ?_
  · simp [PendingEmail.eligible, hstatus, hselectable hstatus]
  -- The older rows have at most three attempts left each, ten of which go into a batch.
  · have hbudget := (o.run provider events).budget_le r.createdAt
    simp only [batchSize]
    omega

/-- An outbox before its first row. -/
def Outbox.empty : Outbox where
  rows := []
  idSeq := 1
  clock := 0
  cache := fun _ => none
  sends := []

theorem Outbox.accounted_empty : Outbox.empty.Accounted := by
  refine ⟨⟨List.nodup_nil, ?_, ?_⟩, ?_, ?_, List.nodup_nil⟩ <;> simp [Outbox.empty]

/-- A provider whose sends all end in one way. -/
def Provider.always (outcome : SendOutcome) : Provider where
  send _ _ := outcome
  latency _ := 1
  commit _ := none
  rank _ := id

/-- A row that says nothing in particular. -/
def resetMail : NewPendingEmail where
  recipient := "ada@school.org"
  content := .resetPasswordEmail "secret"
  emailType := .passwordResetAdmin
  triggeredBy := none
  recipientUserId := some 1

/-- Eleven such rows, one after the other. -/
def elevenMails : List OutboxEvent := (List.range 11).map fun i => .enqueue (i + 1) resetMail

/-- The last of eleven rows waits until the ten older ones have failed three times each. -/
theorem Outbox.delivery_queued :
    let provider := Provider.always (.raised "refused")
    let o := Outbox.empty.run provider elevenMails
    o.older 11 = 10 ∧ (o.run provider (List.replicate 3 .processBatch)).attempts 11 = 0 ∧
      o.attempts 11 < (o.run provider (List.replicate 4 .processBatch)).attempts 11 := by
  intro provider o
  have horderly : Run.Throughout (Outbox.after provider) Outbox.Orderly .empty elevenMails := by
    refine ⟨?_, ?_, ?_, ?_, ?_, ?_, ?_, ?_, ?_, ?_, ?_, trivial⟩
    all_goals
      change ∀ r ∈ Outbox.rows _, r.createdAt < _
      decide +kernel
  have holder : o.older 11 = 10 := by decide +kernel
  have hlast : ∃ r ∈ o.rows, r.id = 11 ∧ r.createdAt = 11 ∧ r.status = .pending := by
    decide +kernel
  obtain ⟨r, hr, hid, hcreated, hstatus⟩ := hlast
  obtain ⟨-, -, -, -, -, hnext⟩ := Outbox.delivery provider (fun _ => rfl) .empty
    Outbox.accounted_empty elevenMails horderly r hr
  refine ⟨holder, by decide +kernel, ?_⟩
  have hbatches : 3 * o.older r.createdAt / 10 + 1 ≤
      batches (List.replicate 4 OutboxEvent.processBatch) := by
    rw [hcreated, holder]
    decide
  rw [← hid]
  exact hnext hstatus _ ⟨trivial, trivial, trivial, trivial, trivial⟩ hbatches

/-! ### Rows that were delivered -/

/-- A row has a time of sending exactly when it is marked sent. -/
def Outbox.Stamped (o : Outbox) : Prop := ∀ r ∈ o.rows, r.sentAt ≠ none ↔ r.status = .sent

/-- The event does not put back a row that is marked sent. -/
def Outbox.KeepsSent (o : Outbox) (e : OutboxEvent) : Prop :=
  ∀ emailId, e = .retryFailedEmail emailId →
    ∀ r, Keyed.get? o.rows emailId = some r → r.status ≠ .sent

section Sent

variable {provider : Provider} {o o' : Outbox} {record r : PendingEmail}

theorem Attempted.stamped (h : Attempted o record o') (hs : o.Stamped) : o'.Stamped := by
  cases h with
  | intro outcome now clock hmem heligible =>
    intro r hr
    rcases Keyed.mem_modify.mp hr with ⟨-, -, -, rfl⟩ | ⟨hr, -⟩
    · have hrecord := hs record hmem
      simp only [PendingEmail.eligible, Bool.and_eq_true, decide_eq_true_eq] at heligible
      -- A success stamps the row; a failure leaves it unsent and unstamped.
      cases outcome with
      | delivered => simp [PendingEmail.attempted, PendingEmail.markSent]
      | raised error =>
        rw [heligible.1] at hrecord
        simp only [PendingEmail.attempted, PendingEmail.markFailedAttempt, heligible.1]
        split <;> simpa using hrecord
    · exact hs r hr

/-- A row that is marked sent is no pending row, so no attempt is on it. -/
theorem Attempted.keepsSent (h : Attempted o record o') (ht : o.Tables) (hr : r ∈ o.rows)
    (hsent : r.status = .sent) : r ∈ o'.rows ∧ o'.attempts r.id = o.attempts r.id := by
  have hne : r.id ≠ record.id := by
    intro hid
    -- An attempt is on a row that was eligible when it was selected.
    cases h with
    | intro outcome now clock hmem heligible =>
      have hget := Keyed.get?_of_mem ht.nodup hmem
      rw [key_pendingEmail, ← hid] at hget
      obtain rfl := Keyed.get?_inj hget (Keyed.get?_of_mem ht.nodup hr)
      simp [PendingEmail.eligible, hsent] at heligible
  exact ⟨h.stays hr hne, (h.counts_ne hne).1⟩

theorem Attempts.stamped {pending : List PendingEmail} (h : Attempts o pending o')
    (hs : o.Stamped) : o'.Stamped := by
  induction h with
  | nil => exact hs
  | cons h _ ih => exact ih (h.stamped hs)

theorem Attempts.keepsSent {pending : List PendingEmail} (h : Attempts o pending o')
    (ht : o.Tables) (hr : r ∈ o.rows) (hsent : r.status = .sent) :
    r ∈ o'.rows ∧ o'.attempts r.id = o.attempts r.id := by
  induction h with
  | nil => exact ⟨hr, rfl⟩
  | cons h _ ih =>
    obtain ⟨hr', hattempts⟩ := h.keepsSent ht hr hsent
    obtain ⟨hr'', hattempts'⟩ := ih (h.tables ht) hr'
    exact ⟨hr'', hattempts'.trans hattempts⟩

theorem Outbox.Stamped.after (hcommit : ∀ o, provider.commit o = none) (ht : o.Tables)
    (hs : o.Stamped) {e : OutboxEvent} (he : o.KeepsSent e) : (o.after provider e).Stamped := by
  cases e with
  | processBatch => exact (Outbox.processBatch_attempts hcommit ht).stamped hs
  | retryFailedEmail emailId =>
    rcases Outbox.after_retryFailedEmail hcommit ht emailId with ⟨h, -⟩ | ⟨record, hget, h⟩
    · rw [h]
      exact hs
    · rw [h]
      intro r hr
      rcases Keyed.mem_modify.mp hr with ⟨-, -, -, rfl⟩ | ⟨hr, -⟩
      -- A row that is put back was not sent, so it has no time of sending.
      · have hsent := hs record (Keyed.mem_of_get? hget)
        simpa [he emailId rfl record hget, PendingEmail.resetForRetry] using hsent
      · exact hs r hr
  | getEmailById emailId =>
    obtain ⟨cache, h⟩ := o.after_getEmailById provider emailId
    rw [h]
    exact hs
  | enqueue createdAt e =>
    intro r hr
    rcases List.mem_append.mp hr with hr | hr
    · exact hs r hr
    · rw [List.mem_singleton.mp hr]
      simp
  | tick d => exact hs
  | expire emailId => exact hs

/-- An event that puts back no sent row leaves the sent rows alone. -/
theorem Outbox.sent_after (hcommit : ∀ o, provider.commit o = none) (ht : o.Tables)
    {e : OutboxEvent} (he : o.KeepsSent e) (hr : r ∈ o.rows) (hsent : r.status = .sent) :
    r ∈ (o.after provider e).rows ∧ (o.after provider e).attempts r.id = o.attempts r.id := by
  cases e with
  | processBatch => exact (Outbox.processBatch_attempts hcommit ht).keepsSent ht hr hsent
  | retryFailedEmail emailId =>
    rcases Outbox.after_retryFailedEmail hcommit ht emailId with ⟨h, -⟩ | ⟨record, hget, h⟩
    · rw [h]
      exact ⟨hr, rfl⟩
    · rw [h]
      refine ⟨Keyed.mem_modify.mpr (Or.inr ⟨hr, fun hid => ?_⟩), rfl⟩
      have hget' := Keyed.get?_of_mem ht.nodup hr
      rw [hid, show record.id = emailId from Keyed.key_of_get? hget] at hget'
      exact he emailId rfl r hget' hsent
  | getEmailById emailId =>
    obtain ⟨cache, h⟩ := o.after_getEmailById provider emailId
    rw [h]
    exact ⟨hr, rfl⟩
  | enqueue createdAt e => exact ⟨List.mem_append_left _ hr, rfl⟩
  | tick d => exact ⟨hr, rfl⟩
  | expire emailId => exact ⟨hr, rfl⟩

theorem Outbox.sent_run (hcommit : ∀ o, provider.commit o = none) (ht : o.Tables)
    {events : List OutboxEvent}
    (h : Run.Throughout (Outbox.after provider) Outbox.KeepsSent o events) (hr : r ∈ o.rows)
    (hsent : r.status = .sent) :
    (o.run provider events).attempts r.id = o.attempts r.id := by
  induction events generalizing o with
  | nil => rfl
  | cons e events ih =>
    obtain ⟨hr', hattempts⟩ := sent_after hcommit ht h.1 hr hsent
    exact (ih (ht.after hcommit e) h.2 hr').trans hattempts

/-- **A delivered row is never sent again, and exactly the delivered rows have a time of
sending**, in every state of a run, if and only if no administrator retries a row that is
marked sent. -/
theorem Outbox.sent_iff (provider : Provider) (hcommit : ∀ o, provider.commit o = none)
    (o : Outbox) (ht : o.Tables) (hs : o.Stamped) (events : List OutboxEvent) :
    (∀ before after, events = before ++ after →
      ∀ r ∈ (o.run provider before).rows,
        (r.sentAt ≠ none ↔ r.status = .sent) ∧
        (r.status = .sent →
          (o.run provider events).attempts r.id = (o.run provider before).attempts r.id)) ↔
      Run.Throughout (Outbox.after provider) Outbox.KeepsSent o events := by
  constructor
  · intro hprop
    rw [Run.throughout_iff]
    rintro before e after rfl emailId rfl r hget hsent
    -- The row that was put back is pending and still has its time of sending.
    have htables := ht.run hcommit before
    have hstamped := ((hprop before _ rfl r (Keyed.mem_of_get? hget)).1).mpr hsent
    have hafter : o.run provider (before ++ [.retryFailedEmail emailId]) =
        { o.run provider before with
          rows := Keyed.modify (o.run provider before).rows r.id fun _ => r.resetForRetry } := by
      rw [show o.run provider (before ++ [.retryFailedEmail emailId]) =
        (o.run provider before).after provider (.retryFailedEmail emailId) from
          Run.run_concat o before _]
      rcases Outbox.after_retryFailedEmail hcommit htables emailId with
        ⟨-, hnone⟩ | ⟨record, hget', h⟩
      · rw [show Keyed.get? (o.run provider before).rows emailId = some r from hget] at hnone
        cases hnone
      · obtain rfl := Keyed.get?_inj hget hget'
        exact h
    have hmem : r.resetForRetry ∈
        (o.run provider (before ++ [.retryFailedEmail emailId])).rows := by
      rw [hafter]
      exact Keyed.mem_modify.mpr (Or.inl ⟨r, Keyed.mem_of_get? hget, rfl, rfl⟩)
    have hback := (hprop (before ++ [.retryFailedEmail emailId]) after (by simp) _ hmem).1
    exact absurd (hback.mp hstamped) (by simp [PendingEmail.resetForRetry])
  · rintro h before after rfl r hr
    obtain ⟨hbefore, hafter⟩ := (Run.throughout_append o before after).mp h
    have htables := ht.run hcommit before
    have hinv : (o.run provider before).Tables ∧ (o.run provider before).Stamped :=
      Run.invariant (I := fun o => o.Tables ∧ o.Stamped)
        (fun _ e hI he => ⟨hI.1.after hcommit e, hI.2.after hcommit hI.1 he⟩) ⟨ht, hs⟩ hbefore
    refine ⟨hinv.2 r hr, fun hsent => ?_⟩
    rw [show o.run provider (before ++ after) = (o.run provider before).run provider after from
      Run.run_append o before after]
    exact sent_run hcommit htables hafter hr hsent

end Sent

/-- A delivered row is not sent by the next batch. -/
theorem Outbox.sent_once :
    (Outbox.empty.run (.always .delivered)
        [.enqueue 1 resetMail, .processBatch, .tick 5, .processBatch]).attempts 1 =
      (Outbox.empty.run (.always .delivered) [.enqueue 1 resetMail, .processBatch]).attempts 1 := by
  have hrows : (Outbox.empty.run (.always .delivered)
      [.enqueue 1 resetMail, .processBatch]).rows.map (fun r => (r.id, r.status)) =
        [(1, .sent)] := by decide +kernel
  obtain ⟨r, hr, hrow⟩ := List.mem_map.mp (hrows ▸ List.mem_singleton_self _)
  obtain ⟨hid, hstatus⟩ : r.id = 1 ∧ r.status = .sent := by simpa using hrow
  have hkeeps : Run.Throughout (Outbox.after (.always .delivered)) Outbox.KeepsSent Outbox.empty
      [.enqueue 1 resetMail, .processBatch, .tick 5, .processBatch] := by
    refine ⟨?_, ?_, ?_, ?_, trivial⟩ <;> simp [Outbox.KeepsSent]
  have honce := ((Outbox.sent_iff (.always .delivered) (fun _ => rfl) Outbox.empty
    Outbox.accounted_empty.toTables (by simp [Outbox.Stamped, Outbox.empty]) _).mpr hkeeps
      [.enqueue 1 resetMail, .processBatch] [.tick 5, .processBatch] rfl r hr).2 hstatus
  rwa [hid] at honce

/-- **A retried row is sent twice**: the retry of a delivered row makes it pending, with its
time of sending, and the next batch sends it again. -/
theorem Outbox.retry_sends_again :
    (Outbox.empty.run (.always .delivered) [.enqueue 1 resetMail, .processBatch]).rows.map
        (fun r => (r.id, r.status, r.sentAt)) = [(1, .sent, some 1)] ∧
      (Outbox.empty.run (.always .delivered)
        [.enqueue 1 resetMail, .processBatch, .retryFailedEmail 1]).rows.map
          (fun r => (r.id, r.status, r.sentAt)) = [(1, .pending, some 1)] ∧
      (Outbox.empty.run (.always .delivered)
        [.enqueue 1 resetMail, .processBatch, .retryFailedEmail 1, .processBatch]).attempts 1 =
          2 := by
  decide +kernel

end SmsLite
