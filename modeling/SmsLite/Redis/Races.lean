import SmsLite.Lib.Logged
import SmsLite.Concrete
import SmsLite.Redis.Staleness

/-!
# Requests that race for a failing Redis

A reader that has found no entry reads the row and sets the entry later, and meanwhile another
request may have changed the row and deleted what was not there yet.  The entry then outlives the
row, and no lock prevents it.  What bounds the harm is the time an entry is kept: in every
interleaving, whatever commands fail, an answer shows what the row was not longer ago than that
time and the longest pause of a request between two of its statements.

## Main definitions

* `redisMachine` — the statements over PostgreSQL and Redis, for any number of requests at once.
* `Stmt.Justified` — an entry is set to what the statement before it has read.
* `Prompt` — no request pauses longer than a given time.

## Main results

* `Request.logged` — every request sets what it has just read, and answers what it has read.
* `answers_recent_interleaved` — **no cached answer is older than its entry may be, and a pause**.
* `tokens_recent_interleaved` — **a token is accepted only if it was good not longer ago**.
-/

namespace SmsLite

open Interleave
open Interleave.Prog (Logged logged_call logged_map)

/-! ### The machine -/

/-- What happens beside the requests. -/
inductive Disturbance
  /-- Time passes. -/
  | tick (elapsed : ℕ)
  /-- Redis removes an entry. -/
  | evict (key : String)

/-- PostgreSQL, Redis and the runtime as the system a pool of requests runs against. -/
def redisMachine (env : Env) (c : Connection) :
    Machine Stmt Stmt.Reply (World × Redis) AdvisoryLock Disturbance where
  exec := Stmt.execRedis c env
  lock? := (machine env).lock?
  frees := (machine env).frees
  env
    | .tick elapsed, (w, redis) => (outside (.tick elapsed) w, redis)
    | .evict key, (w, redis) => (w, { redis with store := redis.store.delete [key] })

section Machine

variable {ι : Type} {c : Connection} {log : List (World × Redis)}

/-- The requests, one for each thread, before any of them has begun. -/
def World.redisPool (env : Env) (w : World) (redis : Redis) (requests : ι → Request) :
    Pool Stmt Stmt.Reply Exn Response (World × Redis) ι AdvisoryLock where
  world := (w, redis)
  prog i := (requests i).service env
  owner := fun _ => none

/-- No request pauses longer than `pause` between two of its statements. -/
def Prompt (pause : Time) (p : Pool Stmt Stmt.Reply Exn Response (World × Redis) ι AdvisoryLock)
    (logs : ι → List (World × Redis)) : Label ι Disturbance → Prop
  | .run i => ∀ s ∈ (logs i).head?, p.world.1.clock ≤ s.1.clock + pause
  | .env _ => True

/-! ### What the programs write and return -/

/-- An entry is set to what its key was at the statement before. -/
def Stmt.Justified (log : List (World × Redis)) : Stmt → Prop
  | .setCache key value => ∃ s ∈ log.head?, s.1.current key = some value
  | _ => True

theorem Stmt.Cacheless.justified {s : Stmt} (h : s.Cacheless) (log : List (World × Redis)) :
    s.Justified log := by
  cases s with
  | setCache key value => exact h.elim
  | _ => trivial

/-- At some statement the request has read this from Redis or from the row. -/
def Found (c : Connection) (log : List (World × Redis)) (key : CacheKey) (value : CacheValue) :
    Prop :=
  ∃ s ∈ log, s.2.cache c s.1.clock (.user key) = some (.user value) ∨
    s.1.current key = some value

theorem found_of_read {s : World × Redis} {key : CacheKey} {value : CacheValue}
    (h : (CachePart.users.read c s.1.clock key s.2).1 = some value) :
    Found c (s :: log) key value :=
  ⟨s, List.mem_cons_self, Or.inl (CachePart.users.cache_of_read h)⟩

/-- A cached reader sets what it has just read, and answers what it has read. -/
theorem logged_cachedDetail (env : Env) {α : Type} {key : CacheKey} {id : UserId} {q : UserQuery}
    {validate : CacheValue → Option α} {project : Loaded → CacheValue} {respond : Loaded → α}
    (hfresh : ∀ (w : World) l, w.db.selectUserById id q = some l →
      w.current key = some (project l) ∧ validate (project l) = some (respond l)) :
    Logged (Stmt.execRedis c env) Stmt.Justified
      (fun log out => ∀ a, out = .ok a → ∃ value, Found c log key value ∧ validate value = some a)
      log (cachedDetail key id q validate project respond) := by
  unfold cachedDetail
  refine logged_call.mpr ⟨trivial, ?_⟩
  intro s
  dsimp only [Stmt.execRedis]
  cases hread : (CachePart.users.read c s.1.clock key s.2).1 with
  | some value =>
    dsimp only
    cases hvalidate : validate value with
    | some response =>
      intro a ha
      cases ha
      exact ⟨value, found_of_read hread, hvalidate⟩
    | none =>
      intro a ha
      cases ha
  | none =>
    refine logged_call.mpr ⟨trivial, ?_⟩
    intro s'
    change Logged _ _ _ _ (ensureExists (s'.1.db.selectUserById id q) userNotFound >>= _)
    cases hl : s'.1.db.selectUserById id q with
    | none =>
      intro a ha
      cases ha
    | some l =>
      obtain ⟨hcurrent, hvalidate⟩ := hfresh s'.1 l hl
      refine ⟨⟨s', rfl, hcurrent⟩, ?_⟩
      intro s'' a ha
      cases ha
      exact ⟨project l, ⟨s', List.mem_cons_of_mem _ List.mem_cons_self, Or.inr hcurrent⟩, hvalidate⟩

/-- `get_current_user` sets what it has just read, and accepts what it has read. -/
theorem logged_getCurrentUser (env : Env) (token : String) :
    Logged (Stmt.execRedis c env) Stmt.Justified
      (fun log out => ∀ user, out = .ok user → ∃ s₀ ∈ log, ∃ version,
        accessTokenSubject env s₀.1.clock token = .ok (user.id, version, some user.role) ∧
          Found c log (.accessTokenVersionKey user.id) (.version version))
      log (getCurrentUser env token) := by
  unfold getCurrentUser
  refine logged_call.mpr ⟨trivial, ?_⟩
  intro s₀
  change Logged _ _ _ _ (ofExcept (accessTokenSubject env s₀.1.clock token) >>= _)
  cases hsubject : accessTokenSubject env s₀.1.clock token with
  | error e =>
    intro a ha
    cases ha
  | ok subject =>
    obtain ⟨id, version, role⟩ := subject
    refine logged_call.mpr ⟨trivial, ?_⟩
    intro s
    dsimp only [Stmt.execRedis]
    cases role with
    | none =>
      intro a ha
      cases ha
    | some role =>
      cases hread : (CachePart.users.read c s.1.clock (.accessTokenVersionKey id) s.2).1 with
      | some value =>
        dsimp only
        cases value with
        | version cachedVersion =>
          dsimp only
          split
          · intro a ha
            cases ha
          · next hsame =>
            intro a ha
            cases ha
            rw [ne_eq, not_not] at hsame
            subst hsame
            exact ⟨s₀, List.mem_cons_of_mem _ List.mem_cons_self, cachedVersion, hsubject,
              found_of_read hread⟩
        | _ =>
          intro a ha
          cases ha
      | none =>
        refine logged_call.mpr ⟨trivial, ?_⟩
        intro s'
        dsimp only [Stmt.execRedis, exec]
        cases hl : s'.1.db.selectUserById id { loadSession := true } with
        | none =>
          intro a ha
          cases ha
        | some user =>
          dsimp only
          cases hsession : user.session with
          | none =>
            intro a ha
            cases ha
          | some session =>
            change Logged _ _ _ _ (if session.accessTokenVersion ≠ version then _ else _)
            split
            · intro a ha
              cases ha
            · next hsame =>
              rw [ne_eq, not_not] at hsame
              subst hsame
              split
              · intro a ha
                cases ha
              · next hactive =>
                have hcurrent := World.current_of_select hl hsession (by simpa using hactive)
                refine ⟨⟨s', rfl, hcurrent⟩, ?_⟩
                intro s'' a ha
                cases ha
                refine ⟨s₀, by simp, _, hsubject, s', by simp, Or.inr hcurrent⟩

/-- What a request that reads a cache has to show for its answer. -/
structure Request.Explained (env : Env) (c : Connection) (r : Request)
    (log : List (World × Redis)) (out : Outcome) : Prop where
  detail : ∀ reader, r.reader? = some reader → ∀ response, out = .ok response →
    ∃ value, Found c log reader.key value ∧ r.shows value = some response
  token : ∀ token, r = .getCurrentUser token → ∀ user, out = .ok (.currentUser user) →
    ∃ s₀ ∈ log, ∃ version,
      accessTokenSubject env s₀.1.clock token = .ok (user.id, version, some user.role) ∧
        Found c log (.accessTokenVersionKey user.id) (.version version)

/-- What is made of a value a reader has found. -/
theorem logged_map_shown (env : Env) {α : Type} {p : Service α} {key : CacheKey}
    {validate : CacheValue → Option α} {f : α → Response} {shown : CacheValue → Option Response}
    (hshown : ∀ value, (validate value).map f = shown value)
    (h : Logged (Stmt.execRedis c env) Stmt.Justified
      (fun log out => ∀ a, out = .ok a → ∃ value, Found c log key value ∧ validate value = some a)
      log p) :
    Logged (Stmt.execRedis c env) Stmt.Justified
      (fun log out => ∀ response, out = .ok response →
        ∃ value, Found c log key value ∧ shown value = some response)
      log (f <$> p) := by
  refine (logged_map f p).mpr (h.mono ?_)
  intro log out hout response hresponse
  cases out with
  | error e => cases hresponse
  | ok a =>
    cases hresponse
    obtain ⟨value, hfound, hvalidate⟩ := hout a rfl
    refine ⟨value, hfound, ?_⟩
    rw [← hshown, hvalidate, Option.map_some]

/-- The six readers of users. -/
theorem Request.logged_reader (env : Env) {r : Request} {reader : Reader}
    (hr : r.reader? = some reader) :
    Logged (Stmt.execRedis c env) Stmt.Justified
      (fun log out => ∀ response, out = .ok response →
        ∃ value, Found c log reader.key value ∧ r.shows value = some response)
      log (r.service env) := by
  have hcurrent : ∀ (w : World) l, w.db.selectUserById reader.userId reader.query = some l →
      w.current reader.key = some (reader.project l) := by
    intro w l hl
    exact World.current_of_reader hr hl
  cases r with
  | getStudentByIdAdmin id | getStudentByIdDirector id | getMyStudentProfile id =>
    cases hr
    refine logged_map_shown env ?_ (logged_cachedDetail env fun w l hl =>
      ⟨hcurrent w l hl, by rfl⟩)
    intro value
    rfl
  | getTeacherByIdAdmin id | getTeacherByIdDirector id | getMyProfile id =>
    cases hr
    refine logged_map_shown env ?_ (logged_cachedDetail env fun w l hl => ⟨hcurrent w l hl, ?_⟩)
    · intro value
      exact Option.map_map _ _ _
    · -- Without a group in the query there is none in the row.
      obtain ⟨u, -, rfl⟩ := Option.map_eq_some_iff.mp hl
      rfl
  | _ => cases hr

/-- **Every request sets what it has just read, and answers what it has read.** -/
theorem Request.logged (env : Env) (r : Request) :
    Logged (Stmt.execRedis c env) Stmt.Justified (r.Explained env c) log (r.service env) := by
  cases hreader : r.isReader with
  | false =>
    have hissues : OnlyIssues Stmt.Cacheless (r.service env) := Request.cacheless hreader
    refine hissues.logged (fun _ log hs => hs.justified log) ?_
    intro log out
    refine ⟨?_, ?_⟩
    · intro reader hr
      cases r with
      | getTeacherByIdAdmin | getStudentByIdAdmin | getTeacherByIdDirector
      | getStudentByIdDirector | getMyProfile | getMyStudentProfile => cases hreader
      | _ => cases hr
    · rintro token rfl
      cases hreader
  | true =>
    cases hr : r.reader? with
    | some reader =>
      refine (Request.logged_reader env hr).mono ?_
      intro log out hout
      refine ⟨?_, ?_⟩
      · intro reader' hreader'
        obtain rfl := Option.some.inj (hr.symm.trans hreader')
        exact hout
      · rintro token rfl
        cases hr
    | none =>
      cases r with
      | getCurrentUser token =>
        refine (logged_map _ _).mpr ((logged_getCurrentUser env token).mono ?_)
        intro log out hout
        refine ⟨?_, ?_⟩
        · intro reader hreader'
          cases hreader'
        · rintro _ ⟨⟩ user huser
          cases out with
          | error e => cases huser
          | ok user' =>
            cases huser
            exact hout user rfl
      | getTeacherByIdAdmin | getStudentByIdAdmin | getTeacherByIdDirector
      | getStudentByIdDirector | getMyProfile | getMyStudentProfile => cases hr
      | _ => cases hreader

/-! ### What Redis holds -/

/-- What the keys were in the states of a pool, and until when a pause lets it count. -/
def pausing (pause : Time) (past : World × Redis → Prop) : Chronicle := fun key value t =>
  ∃ s k v, past s ∧ key = .user k ∧ value = .user v ∧ s.1.current k = some v ∧
    t ≤ s.1.clock + pause

/-- **Every entry shows what its key was in a state of the pool.** -/
theorem traced_durable [DecidableEq ι] (env : Env) (pause : Time) (requests : ι → Request) :
    Pool.Durable (redisMachine env c) (fun _ => Stmt.Justified)
      (fun i => (requests i).Explained env c) (Prompt pause)
      (fun past s => Redis.Traced c (pausing pause past) s.2.store) where
  mono past past' s hpast h := by
    refine h.mono ?_
    rintro key value t ⟨s', k, v, hs', hrest⟩
    exact ⟨s', k, v, hpast s' hs', hrest⟩
  stmt past p log i s k hr hp hjustified htimely := by
    have ht := hr.kept p.world hr.world
    change Redis.Traced c (pausing pause past) (s.execRedis c env p.world).2.2.store
    generalize hworld : p.world = w at ht
    obtain ⟨w, redis⟩ := w
    cases s with
    | setCache key value =>
      obtain ⟨s', hs', hcurrent⟩ := hjustified
      have hpast : past s' := hr.seen i s' (List.mem_of_mem_head? hs')
      have hclock := htimely s' hs'
      rw [hworld] at hclock
      exact ht.write ⟨s', key, value, hpast, rfl, rfl, hcurrent, hclock⟩
        (World.current_fits hcurrent) _
    | deleteCache keys => exact ht.forget _
    | _ => exact ht
  env past s a h := by
    cases a with
    | tick elapsed => exact h
    | evict key => exact h.delete [key]

/-- What a request of the pool has found is what its key was in a state of the pool. -/
theorem Found.was {pause : Time} {past : World × Redis → Prop} {key : CacheKey}
    {value : CacheValue} (h : Found c log key value) (hseen : ∀ s ∈ log, past s)
    (hkept : ∀ s, past s → Redis.Traced c (pausing pause past) s.2.store) :
    ∃ s s', past s ∧ s.1.current key = some value ∧ s' ∈ log ∧
      s'.1.clock < s.1.clock + pause + (RedisKey.user key).ttl := by
  obtain ⟨s', hs', hcache | hcurrent⟩ := h
  · obtain ⟨t, ⟨s, k, v, hs, hkey, hvalue, hcurrent, hpause⟩, hlate⟩ :=
      (hkept s' (hseen s' hs')).recent hcache
    cases hkey
    cases hvalue
    refine ⟨s, s', hs, hcurrent, hs', ?_⟩
    exact Nat.lt_of_lt_of_le hlate (Nat.add_le_add_right hpause _)
  · refine ⟨s', s', hseen s' hs', hcurrent, hs', ?_⟩
    exact Nat.lt_of_le_of_lt (Nat.le_add_right _ pause)
      (Nat.lt_add_of_pos_right (RedisKey.user key).ttl_pos)

end Machine

section Interleaved

variable {ι : Type} [DecidableEq ι] {c : Connection}

/-! ### Every interleaving is prompt by some time -/

/-- The time that passes in a schedule. -/
def elapsed : List (Label ι Disturbance) → Time
  | [] => 0
  | .env (.tick d) :: schedule => d + elapsed schedule
  | _ :: schedule => elapsed schedule

/-- A statement takes no time of its own. -/
theorem clock_execRedis (env : Env) (s : Stmt) (w : World × Redis) :
    (s.execRedis c env w).2.1.clock = w.1.clock := by
  obtain ⟨w, redis⟩ := w
  cases s with
  | commit work =>
    change (exec env (.commit work) w).2.clock = w.clock
    unfold exec
    dsimp only
    cases w.db.commit w.clock work with
    | ok db => rfl
    | error e => rfl
  | flushUser user =>
    change (exec env (.flushUser user) w).2.clock = w.clock
    rw [exec_flushUser_eq]
  | hashPassword password =>
    change (exec env (.hashPassword password) w).2.clock = w.clock
    obtain ⟨reply, draws, hexec, -⟩ := exec_hashPassword env w password
    rw [hexec]
  | _ => rfl

/-- **No request pauses longer than the whole schedule takes.** -/
theorem prompt_elapsed (env : Env) (w : World) (redis : Redis) (requests : ι → Request)
    (schedule : List (Label ι Disturbance)) :
    (w.redisPool env redis requests).AlwaysLogged (redisMachine env c) (Prompt (elapsed schedule))
      (fun _ => []) schedule := by
  have hrun : ∀ (schedule : List (Label ι Disturbance)) (pause spent : Time)
      (p : Pool Stmt Stmt.Reply Exn Response (World × Redis) ι AdvisoryLock)
      (logs : ι → List (World × Redis)), spent + elapsed schedule ≤ pause →
      (∀ i, ∀ s ∈ logs i, p.world.1.clock ≤ s.1.clock + spent) →
      p.AlwaysLogged (redisMachine env c) (Prompt pause) logs schedule := by
    intro schedule
    induction schedule with
    | nil =>
      intro pause spent p logs hpause hlogs
      trivial
    | cons l schedule ih =>
      intro pause spent p logs hpause hlogs
      cases l with
      | run i =>
        refine ⟨?_, ?_⟩
        · intro s hs
          have hspent : spent ≤ pause := Nat.le_trans (Nat.le_add_right _ _) hpause
          exact Nat.le_trans (hlogs i s (List.mem_of_mem_head? hs))
            (Nat.add_le_add_left hspent _)
        · intro q hq
          rcases Pool.step_cases hq with ⟨j, s, k, hj, -, -, rfl⟩ | ⟨a, ha, -⟩
          · cases hj
            refine ih pause spent _ _ hpause ?_
            intro i' s' hs'
            change (s.execRedis c env p.world).2.1.clock ≤ _
            rw [clock_execRedis]
            by_cases hi : i' = i
            · subst hi
              rw [Pool.log, Function.update_self] at hs'
              rcases List.mem_cons.mp hs' with rfl | hs'
              · exact Nat.le_add_right _ _
              · exact hlogs i' s' hs'
            · rw [Pool.log, Function.update_of_ne hi] at hs'
              exact hlogs i' s' hs'
          · cases ha
      | env a =>
        refine ⟨trivial, ?_⟩
        intro q hq
        rcases Pool.step_cases hq with ⟨j, s, k, hj, -⟩ | ⟨a', ha, rfl⟩
        · cases hj
        · cases ha
          cases a with
          | tick d =>
            refine ih pause (spent + d) _ _ ?_ ?_
            · exact (Nat.add_assoc spent d (elapsed schedule)).symm ▸ hpause
            · intro i s hs
              exact Nat.le_trans (Nat.add_le_add_right (hlogs i s hs) d)
                (Nat.le_of_eq (Nat.add_assoc _ _ _))
          | evict key => exact ih pause spent _ _ hpause hlogs
  refine hrun schedule (elapsed schedule) 0 _ _ (Nat.le_of_eq (Nat.zero_add _)) ?_
  intro i s hs
  cases hs

/-! ### The laws -/

/-- From an empty Redis, in every interleaving. -/
theorem recorded_redisPool (env : Env) (w : World) {redis : Redis}
    (hempty : redis.store = Ttl.Store.empty) (requests : ι → Request) {pause : Time}
    {schedule : List (Label ι Disturbance)}
    (hprompt : (w.redisPool env redis requests).AlwaysLogged (redisMachine env c) (Prompt pause)
      (fun _ => []) schedule)
    {p : Pool Stmt Stmt.Reply Exn Response (World × Redis) ι AdvisoryLock}
    (hp : (w.redisPool env redis requests).exec (redisMachine env c) schedule = some p) :
    Pool.Recorded (redisMachine env c) (fun _ => Stmt.Justified)
      (fun i => (requests i).Explained env c)
      (fun past s => Redis.Traced c (pausing pause past) s.2.store)
      ((w.redisPool env redis requests).Visits (redisMachine env c) schedule) p
      ((w.redisPool env redis requests).logs (redisMachine env c) (fun _ => []) schedule) := by
  refine Pool.logged_invariant (traced_durable env pause requests) ?_ ?_ hprompt hp
  · intro i
    exact (requests i).logged env
  · change Redis.Traced c _ redis.store
    rw [hempty]
    exact Redis.traced_empty

/-- **No cached answer is older than its entry may be, and a pause**: from an empty Redis, in
every interleaving of any requests of the user services, whichever commands fail, if no request
pauses longer than `pause` between two of its statements, then a request that reads a cache
answers what the row was in a state of the interleaving, and that state is less than the time of
the entry and a pause older than one in which the request was under way. -/
theorem answers_recent_interleaved (env : Env) (c : Connection) (w : World) (redis : Redis)
    (hempty : redis.store = Ttl.Store.empty) (requests : ι → Request) (pause : Time)
    (schedule : List (Label ι Disturbance))
    (hprompt : (w.redisPool env redis requests).AlwaysLogged (redisMachine env c) (Prompt pause)
      (fun _ => []) schedule)
    {p : Pool Stmt Stmt.Reply Exn Response (World × Redis) ι AdvisoryLock}
    (hp : (w.redisPool env redis requests).exec (redisMachine env c) schedule = some p) {i : ι}
    {reader : Reader} (hr : (requests i).reader? = some reader) {response : Response}
    (hout : (p.prog i).result? = some (.ok response)) :
    ∃ s s' value, (w.redisPool env redis requests).Visits (redisMachine env c) schedule s ∧
      s.1.current reader.key = some value ∧ (requests i).shows value = some response ∧
      s' ∈ (w.redisPool env redis requests).logs (redisMachine env c) (fun _ => []) schedule i ∧
      s'.1.clock < s.1.clock + pause + (RedisKey.user reader.key).ttl := by
  have hrecorded := recorded_redisPool env w hempty requests hprompt hp
  have hexplained := (Prog.logged_result hout).mp (hrecorded.progs i)
  obtain ⟨value, hfound, hshows⟩ := hexplained.detail reader hr response rfl
  obtain ⟨s, s', hs, hcurrent, hs', hlate⟩ := hfound.was (hrecorded.seen i) hrecorded.kept
  exact ⟨s, s', value, hs, hcurrent, hshows, hs', hlate⟩

/-- A student is looked at, deactivated meanwhile, and looked at again. -/
def lookDeactivate : Fin 3 → Request
  | 0 => .getStudentByIdAdmin 2
  | 1 => .deactivateUser 2
  | 2 => .getStudentByIdAdmin 2

/-- The first look reads the row, the deactivation runs from beginning to end, ten minutes later
the first look sets the entry, and four minutes pass. -/
def lateLook : List (Label (Fin 3) Disturbance) :=
  List.replicate 2 (.run 0) ++ List.replicate 4 (.run 1) ++
    [.env (.tick (Time.minutes 10)), .run 0, .env (.tick (Time.minutes 4))]

/-- A look that begins is answered from the entry that it finds. -/
theorem getStudentByIdAdmin_hit {ι : Type} [DecidableEq ι] {env : Env} {c : Connection}
    (hc : ∀ n, c.fate n = .answered)
    {q : Pool Stmt Stmt.Reply Exn Response (World × Redis) ι AdvisoryLock} {i : ι} {id : UserId}
    (hprog : q.prog i = (Request.getStudentByIdAdmin id).service env) {student : Bool}
    {detail : UserResponseAdminCache} (hget : q.world.2.store.get q.world.1.clock
      (RedisKey.user (.userDetailKeyAdmin id)).text =
        some (Json.dumps ((RedisValue.user (.admin detail)).dump c.iso student))) :
    ∃ p, q.exec (redisMachine env c) [.run i] = some p ∧
      (p.prog i).result? = some (.ok (.admin detail)) ∧ p.world.1 = q.world.1 := by
  have hfits : (RedisKey.user (.userDetailKeyAdmin id)).Fits (.user (.admin detail)) := True.intro
  have hvalue : (q.world.2.read c q.world.1.clock (.user (.userDetailKeyAdmin id))).1 =
      some (.user (.admin detail)) := by
    unfold Redis.read Redis.getCache
    dsimp only
    rw [if_pos (hc _), hget, Option.bind_some, c.validate_dumps student hfits]
  have hread : ((redisMachine env c).exec (.getCache (.userDetailKeyAdmin id)) q.world).1 =
      some (.admin detail) := congrArg (Option.bind · RedisValue.user?) hvalue
  obtain ⟨k, hstmt, hends⟩ : ∃ k, q.prog i = .stmt (.getCache (.userDetailKeyAdmin id)) k ∧
      (k (some (.admin detail))).result? = some (.ok (.admin detail)) := by
    refine ⟨_, hprog.trans rfl, ?_⟩
    rfl
  rw [Pool.exec_cons, Pool.step_stmt hstmt rfl]
  refine ⟨_, rfl, ?_, rfl⟩
  dsimp only
  rw [Function.update_self, hread]
  exact hends

/-- The second look shows the student as she was before her deactivation, which is not longer ago
than the entry and the pause. -/
theorem answers_recent_late :
    let pool := World.concrete.redisPool .concrete .empty lookDeactivate
    let before := (World.concrete.db.load { loadGroup := true } seededAda).adminCache
    ∃ p s s' value,
      pool.exec (redisMachine .concrete .concrete) (lateLook ++ [.run 2]) = some p ∧
      (p.prog 2).result? = some (.ok (.admin before)) ∧ before.status = .active ∧
      (Keyed.get? p.world.1.db.users 2).map (·.status) = some .deactivated ∧
      pool.Visits (redisMachine .concrete .concrete) (lateLook ++ [.run 2]) s ∧
      s.1.current (.userDetailKeyAdmin 2) = some value ∧
      (Request.getStudentByIdAdmin 2).shows value = some (.admin before) ∧
      s' ∈ pool.logs (redisMachine .concrete .concrete) (fun _ => []) (lateLook ++ [.run 2]) 2 ∧
      s'.1.clock < s.1.clock + Time.minutes 14 + Time.minutes 15 := by
  intro pool before
  have hset : (pool.exec (redisMachine .concrete .concrete) lateLook).map (fun q =>
      (q.prog 2, q.world.2.store "users:detail:2:admin", q.world.1.clock,
        (Keyed.get? q.world.1.db.users 2).map (·.status))) =
      some ((Request.getStudentByIdAdmin 2).service .concrete,
        some ⟨Json.dumps ((RedisValue.user (.admin before)).dump Connection.concrete.iso true),
          Time.minutes 25⟩, Time.minutes 14, some .deactivated) := rfl
  obtain ⟨q, hq, hends⟩ := Option.map_eq_some_iff.mp hset
  simp only [Prod.mk.injEq] at hends
  obtain ⟨hprog, hentry, hclock, hstatus⟩ := hends
  have hvisible : q.world.1.clock < Time.minutes 25 := by
    rw [hclock]
    decide
  obtain ⟨p, hp, hout, hworld⟩ := getStudentByIdAdmin_hit (fun _ => rfl) hprog
    (Ttl.Store.get_eq_some.mpr ⟨_, hentry, hvisible, rfl⟩)
  have hexec : pool.exec (redisMachine .concrete .concrete) (lateLook ++ [.run 2]) = some p := by
    rw [Pool.exec_append, hq]
    exact hp
  obtain ⟨s, s', value, hs, hcurrent, hshows, hs', hlate⟩ := answers_recent_interleaved .concrete
    .concrete World.concrete .empty rfl lookDeactivate (elapsed (lateLook ++ [.run 2])) _
    (prompt_elapsed .concrete World.concrete .empty lookDeactivate _) hexec rfl hout
  exact ⟨p, s, s', value, hexec, hout, rfl, hworld ▸ hstatus, hs, hcurrent, hshows, hs', hlate⟩

/-- **A token is accepted only if it was good not longer ago**: under the same conditions
`get_current_user` lets a user in only if the version in the token was the live one of an active
account in a state of the interleaving that is less than five minutes and a pause older than one
in which the request was under way. -/
theorem tokens_recent_interleaved (env : Env) (c : Connection) (w : World) (redis : Redis)
    (hempty : redis.store = Ttl.Store.empty) (requests : ι → Request) (pause : Time)
    (schedule : List (Label ι Disturbance))
    (hprompt : (w.redisPool env redis requests).AlwaysLogged (redisMachine env c) (Prompt pause)
      (fun _ => []) schedule)
    {p : Pool Stmt Stmt.Reply Exn Response (World × Redis) ι AdvisoryLock}
    (hp : (w.redisPool env redis requests).exec (redisMachine env c) schedule = some p) {i : ι}
    {token : String} (hr : requests i = .getCurrentUser token) {user : CurrentUser}
    (hout : (p.prog i).result? = some (.ok (.currentUser user))) :
    ∃ s s₀ s' version, (w.redisPool env redis requests).Visits (redisMachine env c) schedule s ∧
      s.1.liveVersion user.id = some version ∧
      s₀ ∈ (w.redisPool env redis requests).logs (redisMachine env c) (fun _ => []) schedule i ∧
      accessTokenSubject env s₀.1.clock token = .ok (user.id, version, some user.role) ∧
      s' ∈ (w.redisPool env redis requests).logs (redisMachine env c) (fun _ => []) schedule i ∧
      s'.1.clock <
        s.1.clock + pause + (RedisKey.user (.accessTokenVersionKey user.id)).ttl := by
  have hrecorded := recorded_redisPool env w hempty requests hprompt hp
  have hexplained := (Prog.logged_result hout).mp (hrecorded.progs i)
  obtain ⟨s₀, hs₀, version, hsubject, hfound⟩ := hexplained.token token hr user rfl
  obtain ⟨s, s', hs, hcurrent, hs', hlate⟩ := hfound.was (hrecorded.seen i) hrecorded.kept
  obtain ⟨version', hlive, hsame⟩ := Option.map_eq_some_iff.mp hcurrent
  cases hsame
  exact ⟨s, s₀, s', version, hs, hlive, hs₀, hsubject, hs', hlate⟩

/-- Ada uses her access token, logs out meanwhile, and uses it again. -/
def useLogoutReuse : Fin 3 → Request
  | 0 => .getCurrentUser tokensAda.accessToken
  | 1 => .logout 2
  | 2 => .getCurrentUser tokensAda.accessToken

/-- The first use reads the row, the logout runs from beginning to end, the first use sets the
entry, and the second use finds it four minutes later. -/
def lateReuse : List (Label (Fin 3) Disturbance) :=
  List.replicate 3 (.run 0) ++ List.replicate 3 (.run 1) ++
    [.run 0, .env (.tick (Time.minutes 4)), .run 2, .run 2]

/-- The version was live not longer ago than the entry and the pause, which are nine minutes. -/
theorem tokens_recent_late :
    ∃ s s₀ s' version,
      ((World.concrete.after .concrete loginAda).redisPool .concrete .empty useLogoutReuse).Visits
        (redisMachine .concrete .concrete) lateReuse s ∧
      s.1.liveVersion 2 = some version ∧
      s₀ ∈ ((World.concrete.after .concrete loginAda).redisPool .concrete .empty
        useLogoutReuse).logs (redisMachine .concrete .concrete) (fun _ => []) lateReuse 2 ∧
      accessTokenSubject .concrete s₀.1.clock tokensAda.accessToken =
        .ok (2, version, some .student) ∧
      s' ∈ ((World.concrete.after .concrete loginAda).redisPool .concrete .empty
        useLogoutReuse).logs (redisMachine .concrete .concrete) (fun _ => []) lateReuse 2 ∧
      s'.1.clock < s.1.clock + Time.minutes 4 + Time.minutes 5 := by
  have haccepted : (((World.concrete.after .concrete loginAda).redisPool .concrete .empty
      useLogoutReuse).exec (redisMachine .concrete .concrete) lateReuse).map
        (fun p => (p.prog 2).result?) =
      some (some (.ok (.currentUser { id := 2, role := .student }))) := by decide +kernel
  obtain ⟨p, hp, hout⟩ := Option.map_eq_some_iff.mp haccepted
  exact tokens_recent_interleaved .concrete .concrete (World.concrete.after .concrete loginAda)
    .empty rfl useLogoutReuse (elapsed lateReuse) lateReuse
    (prompt_elapsed .concrete (World.concrete.after .concrete loginAda) .empty useLogoutReuse
      lateReuse) hp rfl hout

end Interleaved

end SmsLite
