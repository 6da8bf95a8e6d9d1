import Mathlib.Data.List.Sort
import SmsLite.Lib.Run
import SmsLite.Repository

/-!
# The outbox and its worker

`src/emails/repository.py`, `src/emails/service.py` and `src/workers/email_worker.py`:
the worker takes the oldest pending rows and hands each to the mail provider, and an
administrator may put a row back.

The provider and the database answer from outside: whether a send raises, how long it
takes, whether a commit fails and in which order rows of one `created_at` come are the
fields of `Provider`, each free to depend on everything that happened before.

## Main definitions

* `Outbox` — the table, the cached details and the log of all sends.
* `OutboxStmt`, `Provider`, `OutboxStmt.exec` — the statements and what they do.
* `PendingEmail.markSent`, `PendingEmail.markFailedAttempt`, `PendingEmail.resetForRetry`
  — the assignments of the repository.
* `processBatch`, `PendingEmailService.retryFailedEmail`, `PendingEmailService.getEmailById`
  — the programs.
* `OutboxEvent`, `Outbox.run` — sequential runs.
-/

namespace SmsLite

open Interleave

/-! ### Rows -/

instance : Keyed PendingEmail ℕ := ⟨PendingEmail.id⟩

@[simp] theorem key_pendingEmail (r : PendingEmail) : Keyed.key r = r.id := rfl

/-- The row of `pending_emails` after a flush; nothing assigns the other columns. -/
def PendingEmail.write (loaded current stored : PendingEmail) : PendingEmail :=
  { stored with
    status := written loaded.status current.status stored.status
    retryCount := written loaded.retryCount current.retryCount stored.retryCount
    lastError := written loaded.lastError current.lastError stored.lastError
    sentAt := written loaded.sentAt current.sentAt stored.sentAt }

/-- `mark_sent`. -/
def PendingEmail.markSent (record : PendingEmail) (now : Time) : PendingEmail :=
  { record with status := .sent, sentAt := some now }

/-- `mark_failed_attempt`. -/
def PendingEmail.markFailedAttempt (record : PendingEmail) (error : String) : PendingEmail :=
  { record with
    retryCount := record.retryCount + 1
    lastError := some error
    status := if 3 ≤ record.retryCount + 1 then .failed else record.status }

/-- `reset_for_retry`. -/
def PendingEmail.resetForRetry (record : PendingEmail) : PendingEmail :=
  { record with status := .pending, retryCount := 0, lastError := none }

/-- The `WHERE` clause of `get_pending_emails`. -/
def PendingEmail.eligible (record : PendingEmail) : Bool :=
  decide (record.status = .pending) && decide (record.retryCount < 3)

/-- The subject a builder gives. -/
def EmailContent.subject : EmailContent → String
  | inviteEmail _ _ => "Activate your LFGS account"
  | adminCredentialsOverrideNotificationEmail _ _ _ _ =>
    "Your LFGS account credentials were changed"
  | resetPasswordEmail _ => "Your LFGS password reset link"

/-- `PendingEmailResponseCache`. -/
structure PendingEmailResponseCache where
  id : ℕ
  recipient : String
  subject : String
  emailType : EmailType
  status : EmailSendingStatus
  triggeredBy : Option UserId
  recipientUserId : Option UserId
  retryCount : ℕ
  lastError : Option String
  sentAt : Option Time
  createdAt : Time
  deriving DecidableEq, Repr

/-- `PendingEmailResponseCache.model_validate`. -/
def PendingEmail.responseCache (r : PendingEmail) : PendingEmailResponseCache where
  id := r.id
  recipient := r.recipient
  subject := r.content.subject
  emailType := r.emailType
  status := r.status
  triggeredBy := r.triggeredBy
  recipientUserId := r.recipientUserId
  retryCount := r.retryCount
  lastError := r.lastError
  sentAt := r.sentAt
  createdAt := r.createdAt

/-- The JSON value under a cache key. -/
inductive EmailCacheValue
  | detail (email : PendingEmailResponseCache)
  /-- What the schema does not take. -/
  | invalid
  deriving DecidableEq, Repr

/-- The detail under a key. -/
def EmailCacheValue.detail? : EmailCacheValue → Option PendingEmailResponseCache
  | .detail email => some email
  | .invalid => none

/-! ### The shared state -/

/-- How a call of `send` ends. -/
inductive SendOutcome
  | delivered
  | raised (error : String)
  deriving DecidableEq, Repr

/-- A row handed to `send`. -/
structure Handed where
  id : ℕ
  outcome : SendOutcome
  deriving DecidableEq, Repr

/-- The outbox. -/
structure Outbox where
  rows : List PendingEmail
  /-- The next value of the `pending_emails` id sequence. -/
  idSeq : ℕ
  clock : Time
  /-- `EmailCacheKey.email_detail_key`: the details that are cached. -/
  cache : ℕ → Option EmailCacheValue
  /-- Every call of `send` so far, in order; no statement reads it. -/
  sends : List Handed

/-- What the outside decides, from everything that happened so far. -/
structure Provider where
  /-- Whether a call of `send` raises. -/
  send : Outbox → PendingEmail → SendOutcome
  /-- How long it takes. -/
  latency : Outbox → ℕ
  /-- Whether a commit fails. -/
  commit : Outbox → Option DbError
  /-- The order of the rows of one `created_at` in the next query. -/
  rank : Outbox → ℕ → ℕ

/-- One atomic step of the worker or of an email request. -/
inductive OutboxStmt
  /-- `datetime.now(UTC)`. -/
  | now
  | getPendingEmails (limit : ℕ)
  | getEmailById (emailId : ℕ)
  /-- `await send(...)` of the subject, the bodies and the recipient of a row. -/
  | send (record : PendingEmail)
  /-- `await session.commit()` with one loaded row. -/
  | commit (loaded current : PendingEmail)
  | getCache (emailId : ℕ)
  | setCache (emailId : ℕ) (value : EmailCacheValue)

/-- The type of the reply. -/
def OutboxStmt.Reply : OutboxStmt → Type
  | now => Time
  | getPendingEmails _ => List PendingEmail
  | getEmailById _ => Option PendingEmail
  | send _ => SendOutcome
  | commit _ _ => Except DbError Unit
  | getCache _ => Option EmailCacheValue
  | setCache _ _ => Unit

/-- `ORDER BY created_at ASC`, with an order among equals. -/
def PendingEmail.Before (rank : ℕ → ℕ) (a b : PendingEmail) : Prop :=
  a.createdAt < b.createdAt ∨ (a.createdAt = b.createdAt ∧ rank a.id ≤ rank b.id)

instance (rank : ℕ → ℕ) : DecidableRel (PendingEmail.Before rank) := fun _ _ =>
  inferInstanceAs (Decidable (_ ∨ _))

/-- `PendingEmailRepository.get_pending_emails`. -/
def selectPendingEmails (rank : ℕ → ℕ) (rows : List PendingEmail) (limit : ℕ) :
    List PendingEmail :=
  ((rows.filter PendingEmail.eligible).insertionSort (PendingEmail.Before rank)).take limit

/-- The reply to a statement and the state after it. -/
def OutboxStmt.exec (provider : Provider) : (s : OutboxStmt) → Outbox → s.Reply × Outbox
  | .now, o => (o.clock, o)
  | .getPendingEmails limit, o => (selectPendingEmails (provider.rank o) o.rows limit, o)
  | .getEmailById emailId, o => (Keyed.get? o.rows emailId, o)
  | .send record, o =>
    (provider.send o record,
      { o with
        clock := o.clock + provider.latency o
        sends := o.sends ++ [⟨record.id, provider.send o record⟩] })
  | .commit loaded current, o =>
    match provider.commit o with
    | some e => (.error e, o)
    | none =>
      (.ok (), { o with rows := Keyed.modify o.rows loaded.id (PendingEmail.write loaded current) })
  | .getCache emailId, o => (o.cache emailId, o)
  | .setCache emailId value, o =>
    ((), { o with cache := Function.update o.cache emailId (some value) })

/-! ### Programs -/

/-- A program over the outbox. -/
abbrev OutboxProg (α : Type) := Prog OutboxStmt OutboxStmt.Reply Exn α

/-- `datetime.now(UTC)`. -/
def OutboxProg.now : OutboxProg Time := Prog.call OutboxStmt.now

/-- `get_pending_emails`. -/
def OutboxProg.getPendingEmails (limit : ℕ) : OutboxProg (List PendingEmail) :=
  Prog.call (OutboxStmt.getPendingEmails limit)

/-- `get_email_by_id`. -/
def OutboxProg.getEmailById (emailId : ℕ) : OutboxProg (Option PendingEmail) :=
  Prog.call (OutboxStmt.getEmailById emailId)

/-- `send`. -/
def OutboxProg.send (record : PendingEmail) : OutboxProg SendOutcome :=
  Prog.call (OutboxStmt.send record)

/-- `session.commit()` inside a `try`. -/
def OutboxProg.tryCommit (loaded current : PendingEmail) : OutboxProg (Except DbError Unit) :=
  Prog.call (OutboxStmt.commit loaded current)

/-- `get_cache`. -/
def OutboxProg.getCache (emailId : ℕ) : OutboxProg (Option EmailCacheValue) :=
  Prog.call (OutboxStmt.getCache emailId)

/-- `set_cache`. -/
def OutboxProg.setCache (emailId : ℕ) (value : EmailCacheValue) : OutboxProg Unit :=
  Prog.call (OutboxStmt.setCache emailId value)

/-- `session.commit()` outside a `try`. -/
def OutboxProg.commitOrRaise (loaded current : PendingEmail) : OutboxProg Unit := do
  match ← OutboxProg.tryCommit loaded current with
  | .ok () => pure ()
  | .error e => .raise e.exn

/-- `BATCH_SIZE`. -/
def batchSize : ℕ := 10

/-- The `for` body of `process_batch`.  The handler of a failed first commit counts an
attempt on the object in memory and commits again, which the session refuses until it is
rolled back. -/
def processRecord (record : PendingEmail) : OutboxProg Unit := do
  match ← OutboxProg.send record with
  | .delivered =>
    let now ← OutboxProg.now
    match ← OutboxProg.tryCommit record (record.markSent now) with
    | .ok () => pure ()
    | .error _ =>
      .raise (.invalidRequestError "This Session's transaction has been rolled back")
  | .raised error => OutboxProg.commitOrRaise record (record.markFailedAttempt error)

/-- `for record in pending`. -/
def processRecords : List PendingEmail → OutboxProg Unit
  | [] => pure ()
  | record :: pending => do
    processRecord record
    processRecords pending

/-- `process_batch`. -/
def processBatch : OutboxProg Unit := do
  let pending ← OutboxProg.getPendingEmails batchSize
  processRecords pending

/-- `PendingEmailNotFoundError(HTTP404.PENDING_EMAIL)`. -/
def pendingEmailNotFound : Exn := .app .pendingEmailNotFoundError HTTP404.pendingEmail

/-- `PendingEmailService.retry_failed_email`. -/
def PendingEmailService.retryFailedEmail (emailId : ℕ) : OutboxProg Unit := do
  match ← OutboxProg.getEmailById emailId with
  | none => .raise pendingEmailNotFound
  | some failedEmail => OutboxProg.commitOrRaise failedEmail failedEmail.resetForRetry

/-- `PendingEmailService.get_email_by_id`. -/
def PendingEmailService.getEmailById (emailId : ℕ) : OutboxProg PendingEmailResponseCache := do
  match ← OutboxProg.getCache emailId with
  | some cached =>
    match cached.detail? with
    | some email => pure email
    | none => .raise (.valueError "validation error")
  | none =>
    match ← OutboxProg.getEmailById emailId with
    | none => .raise pendingEmailNotFound
    | some email =>
      OutboxProg.setCache emailId (.detail email.responseCache)
      pure email.responseCache

/-! ### Runs -/

/-- Insert one row, as the requests do. -/
def Outbox.enqueue (o : Outbox) (createdAt : Time) (e : NewPendingEmail) : Outbox :=
  { o with
    rows := o.rows ++
      [{ id := o.idSeq, recipient := e.recipient, content := e.content, emailType := e.emailType,
         triggeredBy := e.triggeredBy, recipientUserId := e.recipientUserId
         createdAt := createdAt }]
    idSeq := o.idSeq + 1 }

/-- A step of a sequential run. -/
inductive OutboxEvent
  | processBatch
  | retryFailedEmail (emailId : ℕ)
  | getEmailById (emailId : ℕ)
  /-- A request commits a new row. -/
  | enqueue (createdAt : Time) (e : NewPendingEmail)
  /-- Time passes. -/
  | tick (d : ℕ)
  /-- Redis evicts a detail. -/
  | expire (emailId : ℕ)
  deriving DecidableEq, Repr

/-- The state after an event. -/
def Outbox.after (provider : Provider) (o : Outbox) : OutboxEvent → Outbox
  | .processBatch => (SmsLite.processBatch.run (OutboxStmt.exec provider) o).2
  | .retryFailedEmail emailId =>
    ((PendingEmailService.retryFailedEmail emailId).run (OutboxStmt.exec provider) o).2
  | .getEmailById emailId =>
    ((PendingEmailService.getEmailById emailId).run (OutboxStmt.exec provider) o).2
  | .enqueue createdAt e => o.enqueue createdAt e
  | .tick d => { o with clock := o.clock + d }
  | .expire emailId => { o with cache := Function.update o.cache emailId none }

/-- The state after a sequential run. -/
def Outbox.run (provider : Provider) (o : Outbox) (events : List OutboxEvent) : Outbox :=
  Run.run (Outbox.after provider) o events

end SmsLite
