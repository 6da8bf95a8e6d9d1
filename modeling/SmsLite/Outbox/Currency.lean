import SmsLite.Lib.CacheAside
import SmsLite.Outbox.Delivery

/-!
# Are the cached emails current?

An administrator's read of an email is cached for a quarter of an hour, and neither the worker
nor a retry deletes the entry.  So the entries are current exactly as long as no batch takes a
row whose detail is cached and no retry changes one.

## Main definitions

* `Outbox.view`, `Outbox.Current` — what each entry should show.
* `Outbox.Faithful` — entries and reader show the rows.
* `Outbox.Stales` — an event after which an entry is stale.

## Main results

* `processRecords_spares` — the loop leaves every other row, and the cache, alone.
* `Outbox.Current.after` — an event that is no `Outbox.Stales` keeps the entries current, whatever
  the sends and the commits do.
* `outbox_faithful_run` — **the entries and the reader show the rows throughout a run in which
  nothing stales one**, and only in such a run if the commits go through.
-/

namespace SmsLite

open Interleave
open Interleave.Prog (Ends ends_bind)
open CacheAside (View)

variable {provider : Provider} {o : Outbox}

/-- What the entry of an email should show. -/
def Outbox.view : View ℕ PendingEmail ℕ EmailCacheValue where
  owner emailId := emailId
  project _ r := .detail r.responseCache

/-- Every entry that is present shows its row. -/
def Outbox.Current (o : Outbox) : Prop := Outbox.view.Current (Keyed.get? o.rows) o.cache

/-- What `get_email_by_id` answers. -/
def Outbox.read (provider : Provider) (o : Outbox) (emailId : ℕ) :
    Except Exn PendingEmailResponseCache :=
  ((PendingEmailService.getEmailById emailId).run (OutboxStmt.exec provider) o).1

/-- The entries are current, and the reader shows the row. -/
structure Outbox.Faithful (provider : Provider) (o : Outbox) : Prop where
  current : o.Current
  read : ∀ emailId r, Keyed.get? o.rows emailId = some r →
    o.read provider emailId = .ok r.responseCache

/-- The event is a batch that takes a row whose detail is cached, or a retry that changes one. -/
def Outbox.Stales (provider : Provider) (o : Outbox) : OutboxEvent → Prop
  | .processBatch =>
    ∃ r ∈ selectPendingEmails (provider.rank o) o.rows batchSize, o.cache r.id ≠ none
  | .retryFailedEmail emailId =>
    ∃ r, Keyed.get? o.rows emailId = some r ∧ o.cache emailId ≠ none ∧ r.resetForRetry ≠ r
  | _ => False

/-! ### Reads -/

/-- Current entries make a faithful reader. -/
theorem Outbox.Current.faithful (h : o.Current) (provider : Provider) : o.Faithful provider := by
  refine ⟨h, fun emailId r hget => ?_⟩
  unfold Outbox.read
  cases hcache : o.cache emailId with
  | some cached =>
    obtain ⟨r', hr', hshown⟩ := View.Current.hit h hcache
    obtain rfl := Keyed.get?_inj hget hr'
    rw [run_readEmail_hit hcache, ← hshown]
    rfl
  | none =>
    rw [run_readEmail_miss hcache, hget]
    rfl

/-- A read fills at most its own entry, with what it should show. -/
theorem Outbox.Current.after_getEmailById (h : o.Current) (provider : Provider) (emailId : ℕ) :
    (o.after provider (.getEmailById emailId)).Current := by
  simp only [Outbox.after]
  cases hcache : o.cache emailId with
  | some cached =>
    rw [run_readEmail_hit hcache]
    exact h
  | none =>
    rw [run_readEmail_miss hcache]
    cases hget : Keyed.get? o.rows emailId with
    | none => exact h
    | some r => exact View.Current.fill (e := emailId) h hget

/-! ### What the worker leaves alone -/

/-- The cache, and the rows with other ids, are as they were. -/
structure Outbox.Spares (o : Outbox) (ids : List ℕ) (o' : Outbox) : Prop where
  cache : o'.cache = o.cache
  row : ∀ id ∉ ids, Keyed.get? o'.rows id = Keyed.get? o.rows id

section Rules

variable {β : Type} {Q : Except Exn β → Outbox → Prop}

theorem ends_outboxSend (record : PendingEmail) (f : SendOutcome → OutboxProg β) :
    Ends (OutboxStmt.exec provider) (OutboxProg.send record >>= f) Q o ↔
      Ends (OutboxStmt.exec provider) (f (provider.send o record)) Q
        { o with
          clock := o.clock + provider.latency o
          sends := o.sends ++ [⟨record.id, provider.send o record⟩] } := Iff.rfl

theorem ends_outboxNow (f : Time → OutboxProg β) :
    Ends (OutboxStmt.exec provider) (OutboxProg.now >>= f) Q o ↔
      Ends (OutboxStmt.exec provider) (f o.clock) Q o := Iff.rfl

theorem ends_outboxGetEmailById (emailId : ℕ) (f : Option PendingEmail → OutboxProg β) :
    Ends (OutboxStmt.exec provider) (OutboxProg.getEmailById emailId >>= f) Q o ↔
      Ends (OutboxStmt.exec provider) (f (Keyed.get? o.rows emailId)) Q o := Iff.rfl

/-- A commit goes through or fails, as the database decides. -/
theorem ends_outboxCommit {loaded current : PendingEmail} {f : Except DbError Unit → OutboxProg β}
    (hok : provider.commit o = none → Ends (OutboxStmt.exec provider) (f (.ok ())) Q
      { o with rows := Keyed.modify o.rows loaded.id (PendingEmail.write loaded current) })
    (herr : ∀ e, provider.commit o = some e → Ends (OutboxStmt.exec provider) (f (.error e)) Q o) :
    Ends (OutboxStmt.exec provider) (OutboxProg.tryCommit loaded current >>= f) Q o := by
  change Ends _ (f (OutboxStmt.exec provider (.commit loaded current) o).1) Q
    (OutboxStmt.exec provider (.commit loaded current) o).2
  simp only [OutboxStmt.exec]
  cases hcommit : provider.commit o with
  | none => exact hok hcommit
  | some e => exact herr e hcommit

end Rules

/-- The row that a commit writes. -/
theorem Outbox.spares_write (o : Outbox) (loaded current : PendingEmail) (clock : Time)
    (sends : List Handed) :
    o.Spares [loaded.id]
      { o with
        rows := Keyed.modify o.rows loaded.id (PendingEmail.write loaded current)
        clock := clock, sends := sends } := by
  refine ⟨rfl, fun id hid => ?_⟩
  exact Keyed.get?_modify_ne _ (fun h => hid (List.mem_singleton.mpr h)) fun _ => rfl

/-- The `for` body leaves every other row alone, whether the commit fails or not. -/
theorem processRecord_spares (provider : Provider) (o : Outbox) (record : PendingEmail) :
    Ends (OutboxStmt.exec provider) (processRecord record) (fun _ o' => o.Spares [record.id] o')
      o := by
  have hnothing : ∀ clock sends, o.Spares [record.id] { o with clock := clock, sends := sends } :=
    fun _ _ => ⟨rfl, fun _ _ => rfl⟩
  unfold processRecord
  rw [ends_outboxSend]
  cases provider.send o record with
  | delivered =>
    dsimp only
    rw [ends_outboxNow]
    refine ends_outboxCommit (fun _ => ?_) fun e _ => ?_
    · exact o.spares_write record (record.markSent _) _ _
    · exact hnothing _ _
  | raised error =>
    unfold OutboxProg.commitOrRaise
    refine ends_outboxCommit (fun _ => ?_) fun e _ => ?_
    · exact o.spares_write record (record.markFailedAttempt error) _ _
    · exact hnothing _ _

/-- **The loop leaves every other row alone.** -/
theorem processRecords_spares (provider : Provider) (pending : List PendingEmail) (o : Outbox) :
    Ends (OutboxStmt.exec provider) (processRecords pending)
      (fun _ o' => o.Spares (pending.map (·.id)) o') o := by
  induction pending generalizing o with
  | nil => exact ⟨rfl, fun _ _ => rfl⟩
  | cons record pending ih =>
    unfold processRecords
    rw [ends_bind]
    refine (processRecord_spares provider o record).mono fun out o₁ h₁ => ?_
    have hfirst : ∀ id ∉ (record :: pending).map (·.id), id ∉ [record.id] := by
      intro id hid hmem
      rw [List.mem_singleton.mp hmem] at hid
      exact hid List.mem_cons_self
    cases out with
    | error e => exact ⟨h₁.cache, fun id hid => h₁.row id (hfirst id hid)⟩
    | ok _ =>
      refine (ih o₁).mono fun _ o₂ h₂ => ⟨h₂.cache.trans h₁.cache, fun id hid => ?_⟩
      have hrest : id ∉ pending.map (·.id) := fun hmem => hid (List.mem_cons_of_mem _ hmem)
      exact (h₂.row id hrest).trans (h₁.row id (hfirst id hid))

/-! ### Events -/

/-- A retry keeps the entries current if it changes no cached row. -/
theorem Outbox.Current.after_retryFailedEmail (h : o.Current) {emailId : ℕ}
    (hstales : ¬ o.Stales provider (.retryFailedEmail emailId)) :
    (o.after provider (.retryFailedEmail emailId)).Current := by
  change Ends (OutboxStmt.exec provider) (PendingEmailService.retryFailedEmail emailId)
    (fun _ o' => o'.Current) o
  unfold PendingEmailService.retryFailedEmail
  rw [ends_outboxGetEmailById]
  cases hget : Keyed.get? o.rows emailId with
  | none => exact h
  | some r =>
    obtain rfl : r.id = emailId := Keyed.key_of_get? hget
    unfold OutboxProg.commitOrRaise
    refine ends_outboxCommit (fun _ => ?_) fun e _ => h
    have hid : ∀ stored, Keyed.key (PendingEmail.write r r.resetForRetry stored) =
        Keyed.key stored := fun _ => rfl
    have hnew : Keyed.get? (Keyed.modify o.rows r.id (PendingEmail.write r r.resetForRetry)) r.id =
        some r.resetForRetry := by
      rw [Keyed.get?_modify_self _ _ hid, hget, Option.map_some, r.write_resetForRetry]
    refine (View.current_rewrite_iff (fun _ => False) h hget hnew
      (fun k hk => Keyed.get?_modify_ne _ hk hid) (fun _ _ => rfl) fun _ => nofun).mpr ?_
    rintro _ rfl - hcached
    have hsame : r.resetForRetry = r := by
      by_contra hne
      exact hstales ⟨r, hget, hcached, hne⟩
    rw [hsame]

/-- A batch keeps the entries current if it takes no cached row. -/
theorem Outbox.Current.after_processBatch (h : o.Current)
    (hstales : ¬ o.Stales provider .processBatch) :
    (o.after provider .processBatch).Current := by
  change Ends (OutboxStmt.exec provider) (processRecords
    (selectPendingEmails (provider.rank o) o.rows batchSize)) (fun _ o' => o'.Current) o
  refine (processRecords_spares provider _ o).mono fun _ o' hspares => ?_
  intro emailId value hvalue
  rw [hspares.cache] at hvalue
  have hnot : emailId ∉ (selectPendingEmails (provider.rank o) o.rows batchSize).map (·.id) := by
    intro hmem
    obtain ⟨r, hr, rfl⟩ := List.mem_map.mp hmem
    refine hstales ⟨r, hr, ?_⟩
    rw [hvalue]
    exact Option.some_ne_none value
  rw [show Keyed.get? o'.rows (Outbox.view.owner emailId) = _ from hspares.row emailId hnot]
  exact h emailId value hvalue

/-- **An event that stales nothing keeps the entries current**, whatever the sends and the
commits do. -/
theorem Outbox.Current.after (h : o.Current) {e : OutboxEvent} (hstales : ¬ o.Stales provider e) :
    (o.after provider e).Current := by
  cases e with
  | processBatch => exact h.after_processBatch hstales
  | retryFailedEmail emailId => exact h.after_retryFailedEmail hstales
  | getEmailById emailId => exact h.after_getEmailById provider emailId
  | enqueue createdAt e =>
    refine View.Current.insert h fun k r hk => ?_
    change Keyed.get? (o.rows ++ [_]) k = some r
    rw [Keyed.get?, List.find?_append]
    exact Option.or_eq_some_iff.mpr (Or.inl hk)
  | tick d => exact h
  | expire emailId =>
    refine View.Current.forget h fun key value hvalue => ?_
    by_cases hkey : key = emailId
    · subst hkey
      rw [show (o.after provider (.expire key)).cache key = none from Function.update_self ..]
        at hvalue
      cases hvalue
    · rwa [show (o.after provider (.expire emailId)).cache key = o.cache key from
        Function.update_of_ne hkey ..] at hvalue

/-! ### Events that make an entry stale -/

/-- What an administrator sees tells whether a retry changes the row. -/
theorem PendingEmail.resetForRetry_eq_self {r : PendingEmail}
    (h : r.resetForRetry.responseCache = r.responseCache) : r.resetForRetry = r := by
  simp only [responseCache, resetForRetry, PendingEmailResponseCache.mk.injEq, true_and] at h
  obtain ⟨hstatus, hretry, herror⟩ := h
  simp only [resetForRetry, hstatus, hretry, herror.1]

/-- An attempt is seen. -/
theorem PendingEmail.responseCache_attempted_ne {r : PendingEmail} (h : r.eligible = true)
    (outcome : SendOutcome) (now : Time) :
    (r.attempted outcome now).responseCache ≠ r.responseCache := by
  simp only [eligible, Bool.and_eq_true, decide_eq_true_eq] at h
  intro hsame
  cases outcome with
  | delivered =>
    have hstatus : EmailSendingStatus.sent = r.status :=
      congrArg PendingEmailResponseCache.status hsame
    rw [h.1] at hstatus
    cases hstatus
  | raised error =>
    have hretry : r.retryCount + 1 = r.retryCount :=
      congrArg PendingEmailResponseCache.retryCount hsame
    omega

/-- Every row of a batch is there as its attempt left it. -/
theorem Attempts.attempted_mem {o o' : Outbox} {pending : List PendingEmail}
    (h : Attempts o pending o') (hn : (pending.map (·.id)).Nodup) {r : PendingEmail}
    (hr : r ∈ pending) : ∃ outcome now, r.attempted outcome now ∈ o'.rows := by
  induction h with
  | nil => cases hr
  | @cons o o₁ o₂ record pending hfirst hrest ih =>
    rw [List.map_cons, List.nodup_cons] at hn
    rcases List.mem_cons.mp hr with rfl | hr
    · cases hfirst with
      | intro outcome now clock hmem heligible =>
        refine ⟨outcome, now, hrest.stays ?_ fun x hx => ?_⟩
        · exact Keyed.mem_modify.mpr (Or.inl ⟨r, hmem, rfl, rfl⟩)
        · rw [PendingEmail.attempted_id]
          rintro hid
          exact hn.1 (List.mem_map.mpr ⟨x, hx, hid.symm⟩)
    · exact ih hn.2 hr

/-- **An event that stales an entry leaves it stale**, if the commits go through. -/
theorem Outbox.Stales.after (hcommit : ∀ o, provider.commit o = none) (ht : o.Tables)
    (h : o.Current) {e : OutboxEvent} (hstales : o.Stales provider e) :
    ¬ (o.after provider e).Current := by
  cases e with
  | processBatch =>
    obtain ⟨r, hr, hcached⟩ := hstales
    obtain ⟨value, hvalue⟩ := Option.ne_none_iff_exists'.mp hcached
    obtain ⟨hmem, heligible⟩ := mem_of_mem_selectPendingEmails hr
    intro h'
    have hattempts := Outbox.processBatch_attempts hcommit ht
    have ht' : (o.after provider .processBatch).Tables := hattempts.tables ht
    obtain ⟨outcome, now, hnew⟩ := hattempts.attempted_mem
      (nodup_selectPendingEmails ht.nodup (provider.rank o) batchSize) hr
    have hcache : (o.after provider .processBatch).cache = o.cache :=
      ((processRecords_spares provider _ o).mono fun _ _ hs => hs.cache :
        Ends (OutboxStmt.exec provider) (processRecords
          (selectPendingEmails (provider.rank o) o.rows batchSize))
        (fun _ o' => o'.cache = o.cache) o)
    -- The entry shows the row before the attempt, and the row has changed since.
    have hold : (Keyed.get? o.rows r.id).map (Outbox.view.project r.id) = some value :=
      h r.id value hvalue
    have hnow : (Keyed.get? (o.after provider .processBatch).rows r.id).map
        (Outbox.view.project r.id) = some value := h' r.id value (hcache ▸ hvalue)
    rw [show Keyed.get? o.rows r.id = some r from Keyed.get?_of_mem ht.nodup hmem] at hold
    have hget := Keyed.get?_of_mem ht'.nodup hnew
    rw [key_pendingEmail, PendingEmail.attempted_id] at hget
    rw [hget] at hnow
    exact PendingEmail.responseCache_attempted_ne heligible outcome now
      (EmailCacheValue.detail.inj (Option.some.inj (hnow.trans hold.symm)))
  | retryFailedEmail emailId =>
    obtain ⟨r, hget, hcached, hne⟩ := hstales
    obtain rfl : r.id = emailId := Keyed.key_of_get? hget
    obtain ⟨value, hvalue⟩ := Option.ne_none_iff_exists'.mp hcached
    intro h'
    rcases Outbox.after_retryFailedEmail hcommit ht r.id with ⟨-, hnone⟩ | ⟨r', hget', hafter⟩
    · cases hnone.symm.trans hget
    · obtain rfl := Keyed.get?_inj hget hget'
      rw [hafter] at h'
      have hold : (Keyed.get? o.rows r.id).map (Outbox.view.project r.id) = some value :=
        h r.id value hvalue
      have hnow : (Keyed.get? (Keyed.modify o.rows r.id fun _ => r.resetForRetry) r.id).map
          (Outbox.view.project r.id) = some value := h' r.id value hvalue
      have hnew : r.resetForRetry ∈ Keyed.modify o.rows r.id fun _ => r.resetForRetry :=
        Keyed.mem_modify.mpr (Or.inl ⟨r, Keyed.mem_of_get? hget, rfl, rfl⟩)
      have ht' := (ht.after hcommit (.retryFailedEmail r.id)).nodup
      rw [hafter] at ht'
      have hget₁ : Keyed.get? (Keyed.modify o.rows r.id fun _ => r.resetForRetry) r.id =
          some r.resetForRetry := Keyed.get?_of_mem ht' hnew
      rw [hget] at hold
      rw [hget₁] at hnow
      exact hne (PendingEmail.resetForRetry_eq_self
        (EmailCacheValue.detail.inj (Option.some.inj (hnow.trans hold.symm))))
  | getEmailById | enqueue | tick | expire => exact hstales.elim

/-! ### Runs -/

/-- **The entries and the reader show the rows throughout a run in which nothing stales an
entry**: no batch takes a row whose detail is cached, and no retry changes one.  If the commits
go through, they do so in no other run. -/
theorem outbox_faithful_run (provider : Provider) {o : Outbox} (ht : o.Tables) (h : o.Current)
    (events : List OutboxEvent) :
    (Run.Throughout (Outbox.after provider) (fun o e => ¬ o.Stales provider e) o events →
      ∀ before after, events = before ++ after → (o.run provider before).Faithful provider) ∧
    ((∀ o, provider.commit o = none) →
      (∀ before after, events = before ++ after → (o.run provider before).Faithful provider) →
        Run.Throughout (Outbox.after provider) (fun o e => ¬ o.Stales provider e) o events) := by
  constructor
  · rintro hstales before after rfl
    have hcurrent : (o.run provider before).Current :=
      Run.invariant (fun o e h hstales => h.after hstales) h
        ((Run.throughout_append o before after).mp hstales).1
    exact hcurrent.faithful provider
  · intro hcommit hfaithful
    refine (Run.invariant_iff (I := Outbox.Current) (J := Outbox.Tables)
      (fun o e ht => ht.after hcommit e) (fun o e ht hcurrent => ?_) ht h events).mp
      fun before after hevents => (hfaithful before after hevents).current
    constructor
    · exact fun hafter hstales => hstales.after hcommit ht hcurrent hafter
    · exact fun hstales => hcurrent.after hstales

/-- The conditions can be met: the administrator reads the email after it was sent. -/
theorem outbox_faithful_sent_first :
    (Outbox.empty.run (.always .delivered)
      [.enqueue 1 resetMail, .processBatch, .getEmailById 1]).Faithful (.always .delivered) := by
  refine (outbox_faithful_run (.always .delivered) Outbox.accounted_empty.toTables
    (View.current_of_cold fun _ => rfl) [.enqueue 1 resetMail, .processBatch, .getEmailById 1]).1
    ⟨not_false, ?_, not_false, trivial⟩ _ [] rfl
  rintro ⟨r, -, hcached⟩
  exact hcached rfl

/-- An email is read while it waits, and then sent: the administrator still sees it wait. -/
theorem emailEntry_stale :
    ¬ (Outbox.empty.run (.always .delivered)
        [.enqueue 1 resetMail, .getEmailById 1, .processBatch]).Faithful (.always .delivered) ∧
      ((Outbox.empty.run (.always .delivered)
        [.enqueue 1 resetMail, .getEmailById 1, .processBatch]).read (.always .delivered)
          1).toOption.map (fun email => (email.status, email.sentAt)) = some (.pending, none) ∧
      (Outbox.empty.run (.always .delivered)
        [.enqueue 1 resetMail, .getEmailById 1, .processBatch]).rows.map
          (fun r => (r.status, r.sentAt)) = [(.sent, some 1)] := by
  have hrows : (Outbox.empty.run (.always .delivered)
      [.enqueue 1 resetMail, .getEmailById 1, .processBatch]).rows.map
        (fun r => (r.status, r.sentAt)) = [(.sent, some 1)] := by decide +kernel
  have hread : ((Outbox.empty.run (.always .delivered)
      [.enqueue 1 resetMail, .getEmailById 1, .processBatch]).read (.always .delivered)
        1).toOption.map (fun email => (email.status, email.sentAt)) = some (.pending, none) := by
    decide +kernel
  refine ⟨fun h => ?_, hread, hrows⟩
  have hget : (Keyed.get? (Outbox.empty.run (.always .delivered)
      [.enqueue 1 resetMail, .getEmailById 1, .processBatch]).rows 1).map (·.status) =
        some .sent := by decide +kernel
  obtain ⟨r, hr, hsent⟩ := Option.map_eq_some_iff.mp hget
  rw [h.read 1 r hr] at hread
  simp only [Except.toOption, Option.map_some, Option.some.injEq, Prod.mk.injEq] at hread
  have hpending : r.status = .pending := hread.1
  cases hsent.symm.trans hpending

end SmsLite
