import SmsLite.Redis.Usage

/-!
# What does not depend on Redis

Whatever Redis holds, loses or forgets, and whichever commands fail, the services leave the same
tables and hand out the same mails; only what the cached readers answer may differ.

## Main definitions

* `Operation.isReader` — the operations whose answer may come from a cache.
* `ServiceEvent`, `Deployment.steps` — runs of service calls, without the guards before them.

## Main results

* `Deployment.callUsers_app` and its siblings — the state a program leaves but for Redis.
* `redis_immaterial` — **after the same service calls the application is in the same state,
  whatever became of Redis, and every operation that reads no cache answers alike**.
-/

namespace SmsLite

open Interleave
open Interleave.Prog (Issues)

/-! ### Runs of service calls -/

/-- The operations whose answer may come from a cache. -/
def Operation.isReader : Operation → Bool
  | user r => r.isReader
  | group r => r.isReader
  | subject r => r.isReader
  | getEmailById _ => true
  | _ => false

/-- A step of such a run. -/
inductive ServiceEvent
  | perform (statusCode : ℕ) (operation : Operation)
  /-- Time passes. -/
  | tick (elapsed : ℕ)
  /-- Redis removes an entry. -/
  | evict (key : String)
  /-- A batch of the worker. -/
  | processBatch

/-- The events that are not about Redis alone. -/
def ServiceEvent.visible : ServiceEvent → Bool
  | evict _ => false
  | _ => true

namespace Deployment

variable (P : Platform) (c : Connection)

/-- The state after an event. -/
def step (d : Deployment) : ServiceEvent → Deployment
  | .perform statusCode operation => (d.perform P c statusCode operation).2
  | .tick elapsed => { d with app := d.app.call P (.school (.user (.outside (.tick elapsed)))) }
  | .evict key => { d with redis := { d.redis with store := d.redis.store.delete [key] } }
  | .processBatch => (d.callOutbox P c SmsLite.processBatch).2

/-- The state after a run. -/
def steps (d : Deployment) (events : List ServiceEvent) : Deployment :=
  Run.run (Deployment.step P c) d events

end Deployment

/-! ### Programs -/

section Programs

variable {c c' : Connection} {α : Type}

/-- A mutator of the user services does not notice Redis. -/
theorem run_execRedis_cacheless (c c' : Connection) (env : Env) {p : Service α}
    (hp : OnlyIssues Stmt.Cacheless p) (w : World) (redis redis' : Redis) :
    (p.run (Stmt.execRedis c env) (w, redis)).1 = (p.run (Stmt.execRedis c' env) (w, redis')).1 ∧
      (p.run (Stmt.execRedis c env) (w, redis)).2.1 =
        (p.run (Stmt.execRedis c' env) (w, redis')).2.1 := by
  have hstep : ∀ (s : Stmt) (v v' : World × Redis), s.Cacheless → v.1 = v'.1 →
      (s.execRedis c env v).1 = (s.execRedis c' env v').1 ∧
        (s.execRedis c env v).2.1 = (s.execRedis c' env v').2.1 := by
    rintro s ⟨w, redis⟩ ⟨_, redis'⟩ hs rfl
    cases s with
    | getCache key => exact hs.elim
    | setCache key value => exact hs.elim
    | _ => exact ⟨rfl, rfl⟩
  exact hp.run_related hstep rfl

/-- A reader of the user services leaves the tables. -/
theorem run_execRedis_readsOnly (env : Env) {p : Service α} (hp : OnlyIssues Stmt.ReadsOnly p)
    (w : World) (redis : Redis) : (p.run (Stmt.execRedis c env) (w, redis)).2.1 = w := by
  have hstep : ∀ (s : Stmt) (v : World × Redis), s.ReadsOnly → v.1 = w →
      (s.execRedis c env v).2.1 = w := by
    rintro s ⟨v, redis⟩ hs hv
    cases s with
    | now | selectUserById | selectUserByUsername | getCache | setCache | deleteCache => exact hv
    | _ => exact hs.elim
  exact hp.run_keeps (I := fun s : World × Redis => s.1 = w) hstep rfl

/-- A mutator of the groups does not notice Redis. -/
theorem run_execRedis_group (c c' : Connection) {p : GroupProg α}
    (hp : GroupProg.OnlyIssues GroupStmt.Cacheless p) (store : GroupStore) (redis redis' : Redis) :
    (p.run (GroupStmt.execRedis c) (store, redis)).1 =
        (p.run (GroupStmt.execRedis c') (store, redis')).1 ∧
      (p.run (GroupStmt.execRedis c) (store, redis)).2.1 =
        (p.run (GroupStmt.execRedis c') (store, redis')).2.1 := by
  have hstep : ∀ (s : GroupStmt) (v v' : GroupStore × Redis), s.Cacheless → v.1 = v'.1 →
      (s.execRedis c v).1 = (s.execRedis c' v').1 ∧
        (s.execRedis c v).2.1 = (s.execRedis c' v').2.1 := by
    rintro s ⟨store, redis⟩ ⟨_, redis'⟩ hs rfl
    cases s with
    | getCache key => exact hs.elim
    | setCache key value => exact hs.elim
    | _ => exact ⟨rfl, rfl⟩
  exact hp.run_related hstep rfl

/-- A reader of the groups leaves the table. -/
theorem run_execRedis_group_readsOnly {p : GroupProg α}
    (hp : GroupProg.OnlyIssues GroupStmt.ReadsOnly p) (store : GroupStore) (redis : Redis) :
    (p.run (GroupStmt.execRedis c) (store, redis)).2.1 = store := by
  have hstep : ∀ (s : GroupStmt) (v : GroupStore × Redis), s.ReadsOnly → v.1 = store →
      (s.execRedis c v).2.1 = store := by
    rintro s ⟨v, redis⟩ hs hv
    cases s with
    | now | getGroupById | getCache | setCache | deleteCache => exact hv
    | _ => exact hs.elim
  exact hp.run_keeps (I := fun s : GroupStore × Redis => s.1 = store) hstep rfl

/-- A mutator of the subjects does not notice Redis. -/
theorem run_execRedis_subject (c c' : Connection) {p : SubjectProg α}
    (hp : SubjectProg.OnlyIssues SubjectStmt.Cacheless p) (store : SubjectStore)
    (redis redis' : Redis) :
    (p.run (SubjectStmt.execRedis c) (store, redis)).1 =
        (p.run (SubjectStmt.execRedis c') (store, redis')).1 ∧
      (p.run (SubjectStmt.execRedis c) (store, redis)).2.1 =
        (p.run (SubjectStmt.execRedis c') (store, redis')).2.1 := by
  have hstep : ∀ (s : SubjectStmt) (v v' : SubjectStore × Redis), s.Cacheless → v.1 = v'.1 →
      (s.execRedis c v).1 = (s.execRedis c' v').1 ∧
        (s.execRedis c v).2.1 = (s.execRedis c' v').2.1 := by
    rintro s ⟨store, redis⟩ ⟨_, redis'⟩ hs rfl
    cases s with
    | getCache key => exact hs.elim
    | setCache key value => exact hs.elim
    | _ => exact ⟨rfl, rfl⟩
  exact hp.run_related hstep rfl

/-- A reader of the subjects leaves the table. -/
theorem run_execRedis_subject_readsOnly {p : SubjectProg α}
    (hp : SubjectProg.OnlyIssues SubjectStmt.ReadsOnly p) (store : SubjectStore) (redis : Redis) :
    (p.run (SubjectStmt.execRedis c) (store, redis)).2.1 = store := by
  have hstep : ∀ (s : SubjectStmt) (v : SubjectStore × Redis), s.ReadsOnly → v.1 = store →
      (s.execRedis c v).2.1 = store := by
    rintro s ⟨v, redis⟩ hs hv
    cases s with
    | now | getSubjectById | getCache | setCache | deleteCache => exact hv
    | _ => exact hs.elim
  exact hp.run_keeps (I := fun s : SubjectStore × Redis => s.1 = store) hstep rfl

/-- The worker, and who puts a letter back, do not notice Redis. -/
theorem run_execRedis_outbox (c c' : Connection) (provider : Provider) {p : OutboxProg α}
    (hp : OutboxProg.OnlyIssues OutboxStmt.Cacheless p) (o : Outbox) (redis redis' : Redis) :
    (p.run (OutboxStmt.execRedis c provider) (o, redis)).1 =
        (p.run (OutboxStmt.execRedis c' provider) (o, redis')).1 ∧
      (p.run (OutboxStmt.execRedis c provider) (o, redis)).2.1 =
        (p.run (OutboxStmt.execRedis c' provider) (o, redis')).2.1 := by
  have hstep : ∀ (s : OutboxStmt) (v v' : Outbox × Redis), s.Cacheless → v.1 = v'.1 →
      (s.execRedis c provider v).1 = (s.execRedis c' provider v').1 ∧
        (s.execRedis c provider v).2.1 = (s.execRedis c' provider v').2.1 := by
    rintro s ⟨o, redis⟩ ⟨_, redis'⟩ hs rfl
    cases s with
    | getCache emailId => exact hs.elim
    | setCache emailId value => exact hs.elim
    | _ => exact ⟨rfl, rfl⟩
  exact hp.run_related hstep rfl

/-- The reader of a letter leaves the outbox. -/
theorem run_execRedis_outbox_readsOnly (provider : Provider) {p : OutboxProg α}
    (hp : OutboxProg.OnlyIssues OutboxStmt.ReadsOnly p) (o : Outbox) (redis : Redis) :
    (p.run (OutboxStmt.execRedis c provider) (o, redis)).2.1 = o := by
  have hstep : ∀ (s : OutboxStmt) (v : Outbox × Redis), s.ReadsOnly → v.1 = o →
      (s.execRedis c provider v).2.1 = o := by
    rintro s ⟨v, redis⟩ hs hv
    cases s with
    | send | commit => exact hs.elim
    | _ => exact hv
  exact hp.run_keeps (I := fun s : Outbox × Redis => s.1 = o) hstep rfl

end Programs

/-! ### Operations -/

namespace Deployment

variable {P : Platform} {c c' : Connection} {d d' : Deployment}

/-- The state an operation leaves but for Redis. -/
theorem perform_app (h : d.app = d'.app) (statusCode : ℕ) (operation : Operation) :
    (d.perform P c statusCode operation).2.app = (d'.perform P c' statusCode operation).2.app ∧
      (operation.isReader = false →
        (d.perform P c statusCode operation).1 = (d'.perform P c' statusCode operation).1) := by
  cases operation with
  | user r =>
    unfold perform callUsers
    dsimp only
    rw [h]
    cases hr : r.isReader with
    | false =>
      obtain ⟨hout, hworld⟩ := run_execRedis_cacheless c c' P.env
        (Request.cacheless hr) d'.app.world d.redis d'.redis
      rw [hout, hworld]
      exact ⟨rfl, fun _ => rfl⟩
    | true =>
      have hissues : OnlyIssues Stmt.ReadsOnly (r.service P.env) := Request.readsOnly hr
      rw [run_execRedis_readsOnly P.env hissues, run_execRedis_readsOnly P.env hissues]
      refine ⟨rfl, ?_⟩
      intro hreader
      exact absurd (hr.symm.trans hreader) (by decide)
  | group r =>
    unfold perform callGroups
    dsimp only
    rw [h]
    cases hr : r.isReader with
    | false =>
      obtain ⟨hout, hstore⟩ := run_execRedis_group c c'
        (GroupRequest.cacheless hr) d'.app.backend.school.store d.redis d'.redis
      rw [hout, hstore]
      exact ⟨rfl, fun _ => rfl⟩
    | true =>
      have hissues := GroupRequest.readsOnly hr
      rw [run_execRedis_group_readsOnly hissues, run_execRedis_group_readsOnly hissues]
      refine ⟨rfl, ?_⟩
      intro hreader
      exact absurd (hr.symm.trans hreader) (by decide)
  | subject r =>
    unfold perform callSubjects
    dsimp only
    rw [h]
    cases hr : r.isReader with
    | false =>
      obtain ⟨hout, hstore⟩ := run_execRedis_subject c c'
        (SubjectRequest.cacheless hr) { d'.app.backend.subjects with clock := d'.app.now }
        d.redis d'.redis
      rw [hout, hstore]
      exact ⟨rfl, fun _ => rfl⟩
    | true =>
      have hissues := SubjectRequest.readsOnly hr
      rw [run_execRedis_subject_readsOnly hissues, run_execRedis_subject_readsOnly hissues]
      refine ⟨rfl, ?_⟩
      intro hreader
      exact absurd (hr.symm.trans hreader) (by decide)
  | getEmailById emailId =>
    unfold perform callOutbox
    dsimp only
    rw [h, run_execRedis_outbox_readsOnly P.provider (readsOnly_getEmailById emailId),
      run_execRedis_outbox_readsOnly P.provider (readsOnly_getEmailById emailId)]
    refine ⟨rfl, ?_⟩
    intro hreader
    cases hreader
  | retryFailedEmail emailId =>
    unfold perform callOutbox
    dsimp only
    rw [h]
    obtain ⟨hout, houtbox⟩ := run_execRedis_outbox c c' P.provider
      ((still_retryFailedEmail emailId).mono fun _ h => h.2)
      { d'.app.outbox with clock := d'.app.now } d.redis d'.redis
    rw [hout, houtbox]
    exact ⟨rfl, fun _ => rfl⟩
  | _ =>
    unfold perform
    dsimp only
    rw [h]
    exact ⟨rfl, fun _ => rfl⟩

/-- The state an event leaves but for Redis. -/
theorem step_app (h : d.app = d'.app) (e : ServiceEvent) :
    (d.step P c e).app = (d'.step P c' e).app := by
  cases e with
  | perform statusCode operation => exact (perform_app h statusCode operation).1
  | tick elapsed =>
    unfold step
    rw [h]
  | evict key => exact h
  | processBatch =>
    unfold step callOutbox
    dsimp only
    rw [h]
    obtain ⟨-, houtbox⟩ := run_execRedis_outbox c c' P.provider
      cacheless_processBatch { d'.app.outbox with clock := d'.app.now } d.redis d'.redis
    rw [houtbox]

/-- What happens to Redis alone may be left out. -/
theorem steps_app (c c' : Connection) (h : d.app = d'.app) (events : List ServiceEvent) :
    (d.steps P c events).app = (d'.steps P c' (events.filter ServiceEvent.visible)).app := by
  induction events generalizing d d' with
  | nil => exact h
  | cons e events ih =>
    by_cases hvisible : e.visible = true
    · rw [List.filter_cons_of_pos hvisible]
      exact ih (step_app h e)
    · rw [List.filter_cons_of_neg hvisible]
      cases e with
      | evict key =>
        have hsame : (d.step P c (.evict key)).app = d'.app := h
        exact ih hsame
      | _ => exact absurd rfl hvisible

end Deployment

/-- **Redis is immaterial**: two applications that make the same service calls from the same
state are in the same state afterwards, whatever their two Redis hold, lose, fail to do or forget
meanwhile; and every operation that reads no cache then answers alike. -/
theorem redis_immaterial (P : Platform) (c c' : Connection) (d d' : Deployment)
    (h : d.app = d'.app) (events events' : List ServiceEvent)
    (hevents : events.filter ServiceEvent.visible = events'.filter ServiceEvent.visible) :
    (d.steps P c events).app = (d'.steps P c' events').app ∧
      ∀ (statusCode : ℕ) (operation : Operation), operation.isReader = false →
        ((d.steps P c events).perform P c statusCode operation).1 =
          ((d'.steps P c' events').perform P c' statusCode operation).1 := by
  have hsame : (d.steps P c events).app = (d'.steps P c' events').app := by
    rw [Deployment.steps_app c c' h events, hevents]
    exact (Deployment.steps_app c' c' rfl events').symm
  refine ⟨hsame, ?_⟩
  intro statusCode operation hreader
  exact (Deployment.perform_app hsame statusCode operation).2 hreader

/-- A connection whose commands are lost. -/
def Connection.broken : Connection where
  iso := Connection.concrete.iso
  foreign := Connection.concrete.foreign
  fate := fun _ => .lost

/-- A student is looked at and deactivated, with Redis and without. -/
theorem redis_immaterial_broken :
    (Deployment.concrete.steps .concrete .concrete
        [.perform 200 (.user (.getStudentByIdAdmin 2)), .evict "users:detail:2:admin",
          .perform 204 (.user (.deactivateUser 2))]).app =
      (Deployment.concrete.steps .concrete .broken
        [.perform 200 (.user (.getStudentByIdAdmin 2)),
          .perform 204 (.user (.deactivateUser 2))]).app :=
  (redis_immaterial .concrete .concrete .broken .concrete .concrete rfl
    [.perform 200 (.user (.getStudentByIdAdmin 2)), .evict "users:detail:2:admin",
      .perform 204 (.user (.deactivateUser 2))]
    [.perform 200 (.user (.getStudentByIdAdmin 2)),
      .perform 204 (.user (.deactivateUser 2))] rfl).1

end SmsLite
