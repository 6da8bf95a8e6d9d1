import SmsLite.Http.App
import SmsLite.Redis.Entries

/-!
# The application over Redis

`src/core/caching.py`: the services read and write texts under the texts of their keys, the
entries expire, and a command that fails is logged and forgotten.  The programs are those of the
services; only the statements on a cache are executed by Redis instead of the caches of the
model.

## Main definitions

* `Redis`, `Connection` — the store, and what becomes of the commands.
* `Connection.validate` — how a reader understands a text under its key.
* `Redis.getCache`, `Redis.setCache`, `Redis.deleteCache` — the functions of the module.
* `CachePart` — the keys and values of one service.
* `Stmt.execRedis` and its siblings — the statements over Redis.
* `Deployment` — the application with Redis; its own caches stay as they are.
* `Deployment.handle`, `Deployment.run` — requests and runs.
-/

namespace SmsLite

open Interleave
open Router (Dispatch)

/-! ### Redis -/

/-- What becomes of a command. -/
inductive CommandFate
  | answered
  /-- It does not reach the server. -/
  | lost
  /-- It is executed, and the answer does not come back. -/
  | unanswered
  deriving DecidableEq, Repr

/-- The database, and how many commands have been sent. -/
structure Redis where
  store : Ttl.Store String String
  commands : ℕ

/-- What a reader makes of a text that is no dump of its schema. -/
inductive ForeignText
  /-- `json.loads` raises or gives `None`. -/
  | missing
  /-- `model_validate` raises. -/
  | refused
  /-- It is taken for a dump. -/
  | coerced (json : Json)

/-- The format of the dumps, what is made of other texts, and the fate of the `n`-th command. -/
structure Connection where
  iso : IsoFormat
  foreign : RedisKey → String → ForeignText
  fate : ℕ → CommandFate

/-- `json.loads` of a text, and `model_validate` of what it gives; a version goes to `int`. -/
def Connection.validate (c : Connection) (key : RedisKey) (text : String) : Option RedisValue :=
  match (Json.loads text).bind fun json => key.load c.iso json with
  | some value => some value
  | none =>
    match c.foreign key text with
    | .missing => none
    | .refused => some key.invalid
    | .coerced json => some ((key.load c.iso json).getD key.invalid)

/-- What was dumped is validated. -/
theorem Connection.validate_dumps (c : Connection) (student : Bool) {key : RedisKey}
    {value : RedisValue} (h : key.Fits value) :
    c.validate key (Json.dumps (value.dump c.iso student)) = some value := by
  unfold validate
  rw [Json.loads_dumps, Option.bind_some, RedisKey.load_dump c.iso student h]

/-- `ttl_seconds`. -/
def RedisKey.ttlSeconds : RedisKey → ℕ
  | user (.accessTokenVersionKey _) => 300
  | _ => 900

/-- How long an entry is kept. -/
def RedisKey.ttl (key : RedisKey) : Time := key.ttlSeconds * 1000000

theorem RedisKey.ttl_pos (key : RedisKey) : 0 < key.ttl := by
  have hseconds : 0 < key.ttlSeconds := by
    unfold ttlSeconds
    split
    · omega
    · omega
  exact Nat.mul_pos hseconds (by decide)

namespace Redis

variable (c : Connection)

/-- The text that `get_cache` reads; where the command fails it returns `None`. -/
def getCache (now : Time) (key : String) (redis : Redis) : Option String × Redis :=
  (if c.fate redis.commands = .answered then redis.store.get now key else none,
    { redis with commands := redis.commands + 1 })

/-- `set_cache`. -/
def setCache (key : String) (value : Json) (expiresAt : Time) (redis : Redis) : Redis where
  store :=
    if c.fate redis.commands = .lost then redis.store
    else redis.store.set key (Json.dumps value) expiresAt
  commands := redis.commands + 1

/-- `delete_cache`; without keys it sends nothing. -/
def deleteCache (keys : List String) (redis : Redis) : Redis :=
  if keys = [] then redis
  else
    { store :=
        if c.fate redis.commands = .lost then redis.store else redis.store.delete keys
      commands := redis.commands + 1 }

/-- `get_cache`, and `model_validate` of what it returns. -/
def read (now : Time) (key : RedisKey) (redis : Redis) : Option RedisValue × Redis :=
  ((redis.getCache c now key.text).1.bind fun text => c.validate key text,
    (redis.getCache c now key.text).2)

/-- `model_dump` and `set_cache`. -/
def write (now : Time) (student : Bool) (key : RedisKey) (value : RedisValue) (redis : Redis) :
    Redis :=
  redis.setCache c key.text (value.dump c.iso student) (now + key.ttl)

/-- `delete_cache` of some keys. -/
def forget (keys : List RedisKey) (redis : Redis) : Redis :=
  redis.deleteCache c (keys.map RedisKey.text)

end Redis

/-- The keys of the caches, and how their entries are read. -/
def Connection.typed (c : Connection) : Ttl.Typed String String RedisKey RedisValue where
  name := RedisKey.text
  read key text := c.validate key text
  name_injective := RedisKey.text_injective

/-- What can be read at a moment. -/
def Redis.cache (c : Connection) (now : Time) (redis : Redis) : RedisKey → Option RedisValue :=
  c.typed.cache redis.store now

/-! ### The caches of the services -/

/-- The keys and the values of one service. -/
structure CachePart (K V : Type) where
  key : K → RedisKey
  value : V → RedisValue
  value? : RedisValue → Option V
  key_injective : Function.Injective key
  value?_eq_some : ∀ r v, value? r = some v ↔ r = value v

/-- The value of a user. -/
def RedisValue.user? : RedisValue → Option CacheValue
  | user value => some value
  | _ => none

theorem RedisValue.user?_eq_some (r : RedisValue) (v : CacheValue) :
    r.user? = some v ↔ r = .user v := by
  cases r <;> simp [user?]

/-- The value of a group. -/
def RedisValue.group? : RedisValue → Option GroupCacheValue
  | group value => some value
  | _ => none

theorem RedisValue.group?_eq_some (r : RedisValue) (v : GroupCacheValue) :
    r.group? = some v ↔ r = .group v := by
  cases r <;> simp [group?]

/-- The value of a subject. -/
def RedisValue.subject? : RedisValue → Option SubjectCacheValue
  | subject value => some value
  | _ => none

theorem RedisValue.subject?_eq_some (r : RedisValue) (v : SubjectCacheValue) :
    r.subject? = some v ↔ r = .subject v := by
  cases r <;> simp [subject?]

/-- The value of a letter. -/
def RedisValue.email? : RedisValue → Option EmailCacheValue
  | email value => some value
  | _ => none

theorem RedisValue.email?_eq_some (r : RedisValue) (v : EmailCacheValue) :
    r.email? = some v ↔ r = .email v := by
  cases r <;> simp [email?]

namespace CachePart

/-- The caches of the users. -/
def users : CachePart CacheKey CacheValue where
  key := .user
  value := .user
  value? := RedisValue.user?
  key_injective _ _ h := RedisKey.user.inj h
  value?_eq_some := RedisValue.user?_eq_some

/-- The caches of the groups. -/
def groups : CachePart GroupCacheKey GroupCacheValue where
  key := .group
  value := .group
  value? := RedisValue.group?
  key_injective _ _ h := RedisKey.group.inj h
  value?_eq_some := RedisValue.group?_eq_some

/-- The caches of the subjects. -/
def subjects : CachePart SubjectCacheKey SubjectCacheValue where
  key := .subject
  value := .subject
  value? := RedisValue.subject?
  key_injective _ _ h := RedisKey.subject.inj h
  value?_eq_some := RedisValue.subject?_eq_some

/-- The cache of the letters. -/
def emails : CachePart ℕ EmailCacheValue where
  key := .email
  value := .email
  value? := RedisValue.email?
  key_injective _ _ h := RedisKey.email.inj h
  value?_eq_some := RedisValue.email?_eq_some

variable {K V : Type} (part : CachePart K V) (c : Connection)

/-- The entries of one service. -/
def cache (entries : RedisKey → Option RedisValue) : K → Option V := fun k =>
  (entries (part.key k)).bind part.value?

/-- Read a key of the service. -/
def read (now : Time) (k : K) (redis : Redis) : Option V × Redis :=
  ((redis.read c now (part.key k)).1.bind part.value?, (redis.read c now (part.key k)).2)

/-- Write under a key of the service. -/
def write (now : Time) (student : Bool) (k : K) (v : V) (redis : Redis) : Redis :=
  redis.write c now student (part.key k) (part.value v)

/-- Delete some keys of the service. -/
def forget (ks : List K) (redis : Redis) : Redis := redis.forget c (ks.map part.key)

end CachePart

/-! ### The statements -/

section Statements

variable (c : Connection)

/-- A statement of the user services; the schemas of the students have a group. -/
def Stmt.execRedis (env : Env) : (s : Stmt) → World × Redis → s.Reply × (World × Redis)
  | .getCache key, (w, redis) =>
    ((CachePart.users.read c w.clock key redis).1,
      (w, (CachePart.users.read c w.clock key redis).2))
  | .setCache key value, (w, redis) =>
    let student := decide (w.role? (RedisKey.user key).id = some .student)
    ((), (w, CachePart.users.write c w.clock student key value redis))
  | .deleteCache keys, (w, redis) => ((), (w, CachePart.users.forget c keys redis))
  | s, (w, redis) => ((exec env s w).1, ((exec env s w).2, redis))

/-- A statement of the group services. -/
def GroupStmt.execRedis : (s : GroupStmt) → GroupStore × Redis → s.Reply × (GroupStore × Redis)
  | .getCache key, (store, redis) =>
    ((CachePart.groups.read c store.clock key redis).1,
      (store, (CachePart.groups.read c store.clock key redis).2))
  | .setCache key value, (store, redis) =>
    ((), (store, CachePart.groups.write c store.clock false key value redis))
  | .deleteCache keys, (store, redis) => ((), (store, CachePart.groups.forget c keys redis))
  | s, (store, redis) => ((s.exec store).1, ((s.exec store).2, redis))

/-- A statement of the subject services. -/
def SubjectStmt.execRedis :
    (s : SubjectStmt) → SubjectStore × Redis → s.Reply × (SubjectStore × Redis)
  | .getCache key, (store, redis) =>
    ((CachePart.subjects.read c store.clock key redis).1,
      (store, (CachePart.subjects.read c store.clock key redis).2))
  | .setCache key value, (store, redis) =>
    ((), (store, CachePart.subjects.write c store.clock false key value redis))
  | .deleteCache keys, (store, redis) => ((), (store, CachePart.subjects.forget c keys redis))
  | s, (store, redis) => ((s.exec store).1, ((s.exec store).2, redis))

/-- A statement of the worker or of an email request. -/
def OutboxStmt.execRedis (provider : Provider) :
    (s : OutboxStmt) → Outbox × Redis → s.Reply × (Outbox × Redis)
  | .getCache emailId, (o, redis) =>
    ((CachePart.emails.read c o.clock emailId redis).1,
      (o, (CachePart.emails.read c o.clock emailId redis).2))
  | .setCache emailId value, (o, redis) =>
    ((), (o, CachePart.emails.write c o.clock false emailId value redis))
  | s, (o, redis) => ((s.exec provider o).1, ((s.exec provider o).2, redis))

end Statements

/-! ### The application -/

/-- The services in another state; what they have posted is copied. -/
def App.withBackend (s : App) (backend : Backend) : App :=
  { s with
    backend := backend
    outbox :=
      { s.outbox with
        rows := s.outbox.rows ++
          backend.world.db.pendingEmails.drop s.world.db.pendingEmails.length
        idSeq := backend.world.db.pendingEmailsIdSeq } }

/-- The application with Redis in place of its caches. -/
structure Deployment where
  app : App
  redis : Redis

namespace Deployment

variable (P : Platform) (c : Connection)

/-- A program of the user services. -/
def callUsers {α : Type} (d : Deployment) (p : Service α) : Except Exn α × Deployment :=
  let result := p.run (Stmt.execRedis c P.env) (d.app.world, d.redis)
  let school := { d.app.backend.school with world := result.2.1 }
  (result.1,
    { app := d.app.withBackend { d.app.backend with school := school }, redis := result.2.2 })

/-- A program of the group services. -/
def callGroups {α : Type} (d : Deployment) (p : GroupProg α) : Except Exn α × Deployment :=
  let result := p.run (GroupStmt.execRedis c) (d.app.backend.school.store, d.redis)
  let school := d.app.backend.school.withStore result.2.1
  (result.1,
    { app := d.app.withBackend { d.app.backend with school := school }, redis := result.2.2 })

/-- A program of the subject services. -/
def callSubjects {α : Type} (d : Deployment) (p : SubjectProg α) : Except Exn α × Deployment :=
  let subjects := { d.app.backend.subjects with clock := d.app.now }
  let result := p.run (SubjectStmt.execRedis c) (subjects, d.redis)
  (result.1,
    { app := d.app.withBackend { d.app.backend with subjects := result.2.1 }
      redis := result.2.2 })

/-- A program over the outbox; time goes on while it waits. -/
def callOutbox {α : Type} (d : Deployment) (p : OutboxProg α) : Except Exn α × Deployment :=
  let result := p.run (OutboxStmt.execRedis c P.provider)
    ({ d.app.outbox with clock := d.app.now }, d.redis)
  let elapsed := result.2.1.clock - d.app.now
  (result.1,
    { app :=
        { d.app with
          backend := d.app.backend.after P.env (.school (.user (.outside (.tick elapsed))))
          outbox := result.2.1 }
      redis := result.2.2 })

/-- The service call of an operation; what has no cache is as it was. -/
def perform (d : Deployment) (statusCode : ℕ) : Operation → HttpAnswer × Deployment
  | .user r =>
    let result := d.callUsers P c (r.service P.env)
    (.of statusCode .user result.1, result.2)
  | .group r =>
    let result := d.callGroups c r.service
    (.of statusCode .group result.1, result.2)
  | .subject r =>
    let result := d.callSubjects c r.service
    (.of statusCode .subject result.1, result.2)
  | .getEmailById emailId =>
    let result := d.callOutbox P c (PendingEmailService.getEmailById emailId)
    (.of statusCode .email result.1, result.2)
  | .retryFailedEmail emailId =>
    let result := d.callOutbox P c (PendingEmailService.retryFailedEmail emailId)
    (.of statusCode (fun _ => .empty) result.1, result.2)
  | operation =>
    let result := d.app.perform P statusCode operation
    (result.1, { d with app := result.2 })

/-- `get_current_user`. -/
def currentUser (d : Deployment) (req : HttpRequest) :
    Except HttpAnswer CurrentUser × Deployment :=
  match P.bearer.token req with
  | none => (.error .notAuthenticated, d)
  | some token =>
    let result := d.callUsers P c (getCurrentUser P.env token)
    (result.1.mapError HttpAnswer.raised, result.2)

/-- The dependency of an operation. -/
def solve (d : Deployment) (req : HttpRequest) :
    (dependency : Dependency) → Except HttpAnswer dependency.Provides × Deployment
  | .nobody => (.ok (), d)
  | .currentUser => d.currentUser P c req
  | .requireRoles roles =>
    ((d.currentUser P c req).1.bind fun user =>
        if user.role ∈ roles then .ok user else .error .accessDenied,
      (d.currentUser P c req).2)

/-- The limiter of an operation. -/
def hit (d : Deployment) (req : HttpRequest) (h : Handler) : Bool × Deployment :=
  ((d.app.hit P req h).1, { d with app := (d.app.hit P req h).2 })

/-- An operation once its caller is let in. -/
def enter (d : Deployment) (req : HttpRequest) (parameters : List String) (h : Handler)
    (provided : h.dependency.Provides) : HttpAnswer × Deployment :=
  match h.operation P d.app.now req parameters provided with
  | .errors es => (.invalid es, d)
  | .ok operation =>
    if (d.hit P req h).1 then (d.hit P req h).2.perform P c h.statusCode operation
    else (.tooManyRequests ((h.limit.map (·.2)).getD 0), (d.hit P req h).2)

/-- An operation. -/
def serve (d : Deployment) (req : HttpRequest) (parameters : List String) (h : Handler) :
    HttpAnswer × Deployment :=
  if App.malformed P req h then
    (.invalid [("body", .custom "json_invalid" "JSON decode error")], d)
  else
    match d.solve P c req h.dependency with
    | (.error answer, d') => (answer, d')
    | (.ok provided, d') => d'.enter P c req parameters h provided

/-- A request from beginning to end. -/
def handle (d : Deployment) (req : HttpRequest) : HttpAnswer × Deployment :=
  match Router.dispatch routes req.method req.path with
  | .notFound => (.notFound, d)
  | .methodNotAllowed => (.methodNotAllowed, d)
  | .found h parameters => d.serve P c req parameters h

end Deployment

/-! ### Runs -/

/-- A step of a run. -/
inductive DeploymentEvent
  | http (req : HttpRequest)
  /-- Time passes. -/
  | tick (elapsed : ℕ)
  /-- Redis removes an entry, as memory is short. -/
  | evict (key : String)
  /-- A batch of the worker. -/
  | processBatch

namespace Deployment

variable (P : Platform) (c : Connection)

/-- The state after an event. -/
def after (d : Deployment) : DeploymentEvent → Deployment
  | .http req => (d.handle P c req).2
  | .tick elapsed => { d with app := d.app.call P (.school (.user (.outside (.tick elapsed)))) }
  | .evict key => { d with redis := { d.redis with store := d.redis.store.delete [key] } }
  | .processBatch => (d.callOutbox P c SmsLite.processBatch).2

/-- The state after a run. -/
def run (d : Deployment) (events : List DeploymentEvent) : Deployment :=
  Run.run (Deployment.after P c) d events

/-- The answer to a request. -/
def answer? (d : Deployment) : DeploymentEvent → Option HttpAnswer
  | .http req => some (d.handle P c req).1
  | _ => none

/-- The answers of a run. -/
def answers (d : Deployment) (events : List DeploymentEvent) : List HttpAnswer :=
  Run.observe (Deployment.after P c) (Deployment.answer? P c) d events

end Deployment

/-- A connection that answers. -/
def Connection.concrete : Connection where
  iso :=
    { date := .retract (.pair .nat (.pair .nat .nat)) (fun d => (d.year, d.month, d.day))
        (fun d => some ⟨d.1, d.2.1, d.2.2⟩) fun _ => rfl
      datetime := .nat }
  foreign := fun _ _ => .refused
  fate := fun _ => .answered

/-- A Redis without entries. -/
def Redis.empty : Redis := { store := Ttl.Store.empty, commands := 0 }

example : (Redis.read .concrete 0 (.user (.userDetailKeyAdmin 2))
    { store := Ttl.Store.empty.set "users:detail:2:admin" "\x7b\x7d" 5, commands := 0 }).1 =
      some (.user .invalid) := by
  decide +kernel

/-- The application of the examples with an empty Redis. -/
def Deployment.concrete : Deployment where
  app := .concrete
  redis := .empty

end SmsLite
