import SmsLite.Redis.Usage

/-!
# Redis refines the caches

The model keeps its caches in functions that forget an entry when an event says so.  Over Redis
the entries are texts that expire.  If all commands are answered, what can be read from Redis at
a moment is such a cache: every statement does to it what it does in the model, and the time that
passes makes some entries disappear.

## Main definitions

* `App.withCaches`, `Deployment.view` — the application with the caches that can be read.
* `Provider.Blind` — the outside does not look at them.
* `AppEvent.visible` — the events other than those that make an entry disappear.

## Main results

* `Stmt.simulates` and its siblings — a statement over Redis is the statement on the caches.
* `Deployment.view_perform`, `Deployment.view_handle` — so is an operation, and a request.
* `redis_refines` — **every run over Redis gives the answers of a run of the model with the
  same events, among which some entries disappear**.
-/

namespace SmsLite

open Interleave
open Interleave.Prog (Issues)

variable {c : Connection} {now : Time} {redis : Redis}

/-! ### Commands that are answered -/

namespace Redis

theorem read_answered (hc : ∀ n, c.fate n = .answered) (key : RedisKey) :
    redis.read c now key =
      (redis.cache c now key, { redis with commands := redis.commands + 1 }) := by
  unfold read getCache
  rw [if_pos (hc _)]
  rfl

/-- What is written is read back. -/
theorem cache_write (hc : ∀ n, c.fate n = .answered) {student : Bool} {key : RedisKey}
    {value : RedisValue} (hfits : key.Fits value) :
    (redis.write c now student key value).cache c now =
      Function.update (redis.cache c now) key (some value) := by
  have hread : c.typed.read key (Json.dumps (value.dump c.iso student)) = some value :=
    c.validate_dumps student hfits
  have hlost : c.fate redis.commands ≠ .lost := by
    rw [hc]
    decide
  have hlater : now < now + key.ttl := Nat.lt_add_of_pos_right key.ttl_pos
  unfold cache write setCache
  rw [if_neg hlost]
  exact Ttl.Typed.cache_set hread hlater

theorem cache_forget (hc : ∀ n, c.fate n = .answered) (keys : List RedisKey) :
    (redis.forget c keys).cache c now =
      fun key => if key ∈ keys then none else redis.cache c now key := by
  have hlost : c.fate redis.commands ≠ .lost := by
    rw [hc]
    decide
  unfold cache forget deleteCache
  split
  · next hnil =>
    rw [List.map_eq_nil_iff.mp hnil]
    rfl
  · exact Ttl.Typed.cache_delete keys

theorem finite_write (h : redis.store.Finite) (student : Bool) (key : RedisKey)
    (value : RedisValue) : (redis.write c now student key value).store.Finite := by
  unfold write setCache
  dsimp only
  split
  · exact h
  · exact h.set _ _ _

theorem finite_forget (h : redis.store.Finite) (keys : List RedisKey) :
    (redis.forget c keys).store.Finite := by
  unfold forget deleteCache
  split
  · exact h
  · dsimp only
    split
    · exact h
    · exact h.delete _

end Redis

namespace CachePart

variable {K V : Type} (part : CachePart K V) {entries : RedisKey → Option RedisValue}

/-- Nothing is changed but entries of the service. -/
def Agrees (entries entries' : RedisKey → Option RedisValue) : Prop :=
  ∀ key, (∀ k, part.key k ≠ key) → entries' key = entries key

/-- The entries of another service are as they were. -/
theorem cache_of_agrees {K' V' : Type} {part' : CachePart K' V'}
    {entries' : RedisKey → Option RedisValue} (hother : ∀ k k', part'.key k' ≠ part.key k)
    (h : part'.Agrees entries entries') : part.cache entries' = part.cache entries := by
  funext k
  unfold cache
  rw [h _ (hother k)]

theorem cache_update [DecidableEq K] (k : K) (v : V) :
    part.cache (Function.update entries (part.key k) (some (part.value v))) =
      Function.update (part.cache entries) k (some v) := by
  funext k'
  unfold cache
  by_cases hk : k' = k
  · subst hk
    simp [part.value?_eq_some]
  · have hkey : part.key k' ≠ part.key k := by
      intro hkey
      exact hk (part.key_injective hkey)
    rw [Function.update_of_ne hkey, Function.update_of_ne hk]

theorem cache_delete [DecidableEq K] (ks : List K) :
    part.cache (fun key => if key ∈ ks.map part.key then none else entries key) =
      fun k => if k ∈ ks then none else part.cache entries k := by
  funext k
  unfold cache
  dsimp only
  by_cases hk : k ∈ ks
  · rw [if_pos hk, if_pos (List.mem_map_of_mem hk)]
    rfl
  · have hkey : part.key k ∉ ks.map part.key := by
      rwa [List.mem_map_of_injective part.key_injective]
    rw [if_neg hk, if_neg hkey]

/-- The caches of one service after a statement on it. -/
structure Keeps (c : Connection) (now : Time) (entries : RedisKey → Option RedisValue)
    (redis : Redis) : Prop where
  agrees : part.Agrees entries (redis.cache c now)
  finite : redis.store.Finite

variable {part}

theorem Keeps.read (h : part.Keeps c now entries redis) (hc : ∀ n, c.fate n = .answered) (k : K) :
    (part.read c now k redis).1 = part.cache (redis.cache c now) k ∧
      (part.read c now k redis).2.cache c now = redis.cache c now ∧
      part.Keeps c now entries (part.read c now k redis).2 := by
  unfold CachePart.read
  rw [Redis.read_answered hc]
  exact ⟨rfl, rfl, h.agrees, h.finite⟩

theorem Keeps.write [DecidableEq K] (h : part.Keeps c now entries redis)
    (hc : ∀ n, c.fate n = .answered) (student : Bool) {k : K} {v : V}
    (hfits : (part.key k).Fits (part.value v)) :
    part.cache ((part.write c now student k v redis).cache c now) =
        Function.update (part.cache (redis.cache c now)) k (some v) ∧
      part.Keeps c now entries (part.write c now student k v redis) := by
  have hcache : (redis.write c now student (part.key k) (part.value v)).cache c now =
      Function.update (redis.cache c now) (part.key k) (some (part.value v)) :=
    Redis.cache_write hc hfits
  refine ⟨?_, ?_, Redis.finite_write h.finite _ _ _⟩
  · rw [CachePart.write, hcache, cache_update]
  · intro key hkey
    rw [CachePart.write, hcache, Function.update_of_ne (Ne.symm (hkey k))]
    exact h.agrees key hkey

theorem Keeps.forget [DecidableEq K] (h : part.Keeps c now entries redis)
    (hc : ∀ n, c.fate n = .answered) (ks : List K) :
    part.cache ((part.forget c ks redis).cache c now) =
        (fun k => if k ∈ ks then none else part.cache (redis.cache c now) k) ∧
      part.Keeps c now entries (part.forget c ks redis) := by
  have hcache : (redis.forget c (ks.map part.key)).cache c now =
      fun key => if key ∈ ks.map part.key then none else redis.cache c now key :=
    Redis.cache_forget hc (ks.map part.key)
  refine ⟨?_, ?_, Redis.finite_forget h.finite _⟩
  · rw [CachePart.forget, hcache, cache_delete]
  · intro key hkey
    have hmem : key ∉ ks.map part.key := by
      intro hmem
      obtain ⟨k, -, hk⟩ := List.mem_map.mp hmem
      exact hkey k hk
    rw [CachePart.forget, hcache]
    exact (if_neg hmem).trans (h.agrees key hkey)

end CachePart

/-! ### Statements -/

/-- A statement that sets no entry of another kind than its key. -/
def Stmt.FillsByKind : Stmt → Prop
  | setCache key value => (RedisKey.user key).Fits (.user value)
  | _ => True

theorem Stmt.Cacheless.fillsByKind {s : Stmt} (h : s.Cacheless) : s.FillsByKind := by
  cases s with
  | setCache key value => exact h.elim
  | _ => trivial

theorem Stmt.ReadsOnly.fillsByKind {s : Stmt} (h : s.ReadsOnly) : s.FillsByKind := by
  cases s with
  | setCache key value => exact h
  | _ => trivial

/-- Every request of the user services sets its entries by kind. -/
theorem Request.fillsByKind (env : Env) (r : Request) :
    OnlyIssues Stmt.FillsByKind (r.service env) := by
  cases h : r.isReader with
  | false => exact (Request.cacheless h).mono fun _ => Stmt.Cacheless.fillsByKind
  | true => exact (Request.readsOnly h).mono fun _ => Stmt.ReadsOnly.fillsByKind

/-- The users with the caches that can be read. -/
def World.over (c : Connection) (s : World × Redis) : World :=
  { s.1 with cache := CachePart.users.cache (s.2.cache c s.1.clock) }

/-- A statement that is none on a cache does not look at it. -/
theorem exec_withCache (env : Env) {s : Stmt} (hs : s.Cacheless)
    (hdelete : ∀ ks, s ≠ .deleteCache ks) (w : World) (cache : CacheKey → Option CacheValue) :
    exec env s { w with cache := cache } =
      ((exec env s w).1, { (exec env s w).2 with cache := cache }) ∧
    (exec env s w).2.clock = w.clock := by
  cases s with
  | getCache key => exact hs.elim
  | setCache key value => exact hs.elim
  | deleteCache ks => exact absurd rfl (hdelete ks)
  | flushUser user =>
    rw [exec_flushUser_eq, exec_flushUser_eq]
    exact ⟨rfl, rfl⟩
  | commit work =>
    unfold exec
    dsimp only
    cases w.db.commit w.clock work with
    | ok db => exact ⟨rfl, rfl⟩
    | error e => exact ⟨rfl, rfl⟩
  | hashPassword password =>
    unfold exec
    dsimp only
    cases env.hashPassword w.draws password with
    | ok hash => exact ⟨rfl, rfl⟩
    | error e => exact ⟨rfl, rfl⟩
  | _ => exact ⟨rfl, rfl⟩

/-- The invariant of a program of the user services. -/
def World.Keeps (c : Connection) (now : Time) (entries : RedisKey → Option RedisValue)
    (s : World × Redis) : Prop :=
  s.1.clock = now ∧ CachePart.users.Keeps c now entries s.2

/-- A statement that is none on a cache leaves Redis alone. -/
theorem World.Keeps.frame {env : Env} {entries : RedisKey → Option RedisValue} {s : Stmt}
    {w : World} (h : World.Keeps c now entries (w, redis)) (hs : s.Cacheless)
    (hdelete : ∀ ks, s ≠ .deleteCache ks) :
    exec env s (World.over c (w, redis)) =
        ((exec env s w).1, World.over c ((exec env s w).2, redis)) ∧
      World.Keeps c now entries ((exec env s w).2, redis) := by
  obtain ⟨hsame, hclock⟩ :=
    exec_withCache env hs hdelete w (CachePart.users.cache (redis.cache c w.clock))
  refine ⟨hsame.trans (Prod.ext rfl ?_), hclock.trans h.1, h.2⟩
  unfold World.over
  rw [hclock]

/-- **A statement over Redis is the statement on the caches.** -/
theorem Stmt.simulates (env : Env) {entries : RedisKey → Option RedisValue}
    (hc : ∀ n, c.fate n = .answered) (s : Stmt) (state : World × Redis) (hs : s.FillsByKind)
    (h : World.Keeps c now entries state) :
    exec env s (World.over c state) =
        ((s.execRedis c env state).1, World.over c (s.execRedis c env state).2) ∧
      World.Keeps c now entries (s.execRedis c env state).2 := by
  obtain ⟨w, redis⟩ := state
  obtain ⟨hclock, hkeeps⟩ := h
  dsimp only at hclock hkeeps
  subst hclock
  cases s with
  | getCache key =>
    obtain ⟨hread, hsame, hkept⟩ := hkeeps.read hc key
    refine ⟨Prod.ext hread.symm ?_, rfl, hkept⟩
    unfold World.over execRedis
    dsimp only
    rw [hsame]
    rfl
  | setCache key value =>
    obtain ⟨hwrite, hkept⟩ :=
      hkeeps.write hc (decide (w.role? (RedisKey.user key).id = some .student)) hs
    refine ⟨Prod.ext rfl ?_, rfl, hkept⟩
    unfold World.over execRedis
    dsimp only
    rw [hwrite]
    rfl
  | deleteCache keys =>
    obtain ⟨hforget, hkept⟩ := hkeeps.forget hc keys
    refine ⟨Prod.ext rfl ?_, rfl, hkept⟩
    unfold World.over execRedis
    dsimp only
    rw [hforget]
    rfl
  | _ =>
    apply World.Keeps.frame ⟨rfl, hkeeps⟩
    · trivial
    · intro ks h
      cases h

/-- The groups with the caches that can be read. -/
def GroupStore.over (c : Connection) (s : GroupStore × Redis) : GroupStore :=
  { s.1 with cache := CachePart.groups.cache (s.2.cache c s.1.clock) }

/-- The invariant of a program of the group services. -/
def GroupStore.Keeps (c : Connection) (now : Time) (entries : RedisKey → Option RedisValue)
    (s : GroupStore × Redis) : Prop :=
  s.1.clock = now ∧ CachePart.groups.Keeps c now entries s.2

/-- A statement that sets no entry of another kind than its key. -/
def GroupStmt.FillsByKind : GroupStmt → Prop
  | setCache key value => (RedisKey.group key).Fits (.group value)
  | _ => True

/-- Every request of the group services sets its entries by kind. -/
theorem GroupRequest.fillsByKind (r : GroupRequest) :
    GroupProg.OnlyIssues GroupStmt.FillsByKind r.service := by
  cases h : r.isReader with
  | false =>
    refine (GroupRequest.cacheless h).mono fun s hs => ?_
    cases s with
    | setCache key value => exact hs.elim
    | _ => trivial
  | true =>
    refine (GroupRequest.readsOnly h).mono fun s hs => ?_
    cases s with
    | setCache key value => exact hs
    | _ => trivial

/-- A statement of the group services over Redis is the statement on the caches. -/
theorem GroupStmt.simulates {entries : RedisKey → Option RedisValue}
    (hc : ∀ n, c.fate n = .answered) (s : GroupStmt) (state : GroupStore × Redis)
    (hs : s.FillsByKind) (h : GroupStore.Keeps c now entries state) :
    s.exec (GroupStore.over c state) =
        ((s.execRedis c state).1, GroupStore.over c (s.execRedis c state).2) ∧
      GroupStore.Keeps c now entries (s.execRedis c state).2 := by
  obtain ⟨store, redis⟩ := state
  obtain ⟨hclock, hkeeps⟩ := h
  dsimp only at hclock hkeeps
  subst hclock
  cases s with
  | getCache key =>
    obtain ⟨hread, hsame, hkept⟩ := hkeeps.read hc key
    refine ⟨Prod.ext hread.symm ?_, rfl, hkept⟩
    unfold GroupStore.over execRedis
    dsimp only
    rw [hsame]
    rfl
  | setCache key value =>
    obtain ⟨hwrite, hkept⟩ := hkeeps.write hc false hs
    refine ⟨Prod.ext rfl ?_, rfl, hkept⟩
    unfold GroupStore.over execRedis
    dsimp only
    rw [hwrite]
    rfl
  | deleteCache keys =>
    obtain ⟨hforget, hkept⟩ := hkeeps.forget hc keys
    refine ⟨Prod.ext rfl ?_, rfl, hkept⟩
    unfold GroupStore.over execRedis
    dsimp only
    rw [hforget]
    rfl
  | insert group =>
    unfold execRedis exec
    dsimp only
    split
    · exact ⟨rfl, rfl, hkeeps⟩
    · change (if store.taken store.idSeq group.name group.academicYear then _ else _) = _ ∧ _
      split
      · exact ⟨rfl, rfl, hkeeps⟩
      · exact ⟨rfl, rfl, hkeeps⟩
  | commit loaded current =>
    unfold execRedis exec
    dsimp only
    have hflush : (GroupStore.over c (store, redis)).flush loaded current =
        store.flush loaded current := rfl
    rw [hflush]
    cases store.flush loaded current with
    | error e => exact ⟨rfl, rfl, hkeeps⟩
    | ok write => exact ⟨rfl, rfl, hkeeps⟩
  | _ => exact ⟨rfl, rfl, hkeeps⟩

/-- The subjects with the caches that can be read. -/
def SubjectStore.over (c : Connection) (s : SubjectStore × Redis) : SubjectStore :=
  { s.1 with cache := CachePart.subjects.cache (s.2.cache c s.1.clock) }

/-- The invariant of a program of the subject services. -/
def SubjectStore.Keeps (c : Connection) (now : Time) (entries : RedisKey → Option RedisValue)
    (s : SubjectStore × Redis) : Prop :=
  s.1.clock = now ∧ CachePart.subjects.Keeps c now entries s.2

/-- A statement that sets no entry of another kind than its key. -/
def SubjectStmt.FillsByKind : SubjectStmt → Prop
  | setCache key value => (RedisKey.subject key).Fits (.subject value)
  | _ => True

/-- Every request of the subject services sets its entries by kind. -/
theorem SubjectRequest.fillsByKind (r : SubjectRequest) :
    SubjectProg.OnlyIssues SubjectStmt.FillsByKind r.service := by
  cases h : r.isReader with
  | false =>
    refine (SubjectRequest.cacheless h).mono fun s hs => ?_
    cases s with
    | setCache key value => exact hs.elim
    | _ => trivial
  | true =>
    refine (SubjectRequest.readsOnly h).mono fun s hs => ?_
    cases s with
    | setCache key value => exact hs
    | _ => trivial

/-- A statement of the subject services over Redis is the statement on the caches. -/
theorem SubjectStmt.simulates {entries : RedisKey → Option RedisValue}
    (hc : ∀ n, c.fate n = .answered) (s : SubjectStmt) (state : SubjectStore × Redis)
    (hs : s.FillsByKind) (h : SubjectStore.Keeps c now entries state) :
    s.exec (SubjectStore.over c state) =
        ((s.execRedis c state).1, SubjectStore.over c (s.execRedis c state).2) ∧
      SubjectStore.Keeps c now entries (s.execRedis c state).2 := by
  obtain ⟨store, redis⟩ := state
  obtain ⟨hclock, hkeeps⟩ := h
  dsimp only at hclock hkeeps
  subst hclock
  cases s with
  | getCache key =>
    obtain ⟨hread, hsame, hkept⟩ := hkeeps.read hc key
    refine ⟨Prod.ext hread.symm ?_, rfl, hkept⟩
    unfold SubjectStore.over execRedis
    dsimp only
    rw [hsame]
    rfl
  | setCache key value =>
    obtain ⟨hwrite, hkept⟩ := hkeeps.write hc false hs
    refine ⟨Prod.ext rfl ?_, rfl, hkept⟩
    unfold SubjectStore.over execRedis
    dsimp only
    rw [hwrite]
    rfl
  | deleteCache keys =>
    obtain ⟨hforget, hkept⟩ := hkeeps.forget hc keys
    refine ⟨Prod.ext rfl ?_, rfl, hkept⟩
    unfold SubjectStore.over execRedis
    dsimp only
    rw [hforget]
    rfl
  | insert subject =>
    unfold execRedis exec
    dsimp only
    split
    · exact ⟨rfl, rfl, hkeeps⟩
    · change (if store.taken store.idSeq subject.code then _ else _) = _ ∧ _
      split
      · exact ⟨rfl, rfl, hkeeps⟩
      · exact ⟨rfl, rfl, hkeeps⟩
  | commit loaded current =>
    unfold execRedis exec
    dsimp only
    have hflush : (SubjectStore.over c (store, redis)).flush loaded current =
        store.flush loaded current := rfl
    rw [hflush]
    cases store.flush loaded current with
    | error e => exact ⟨rfl, rfl, hkeeps⟩
    | ok write => exact ⟨rfl, rfl, hkeeps⟩
  | _ => exact ⟨rfl, rfl, hkeeps⟩

/-- The outside does not look at the cache. -/
structure Provider.Blind (provider : Provider) : Prop where
  send : ∀ o cache record, provider.send { o with cache := cache } record = provider.send o record
  latency : ∀ o cache, provider.latency { o with cache := cache } = provider.latency o
  commit : ∀ o cache, provider.commit { o with cache := cache } = provider.commit o
  rank : ∀ o cache, provider.rank { o with cache := cache } = provider.rank o

/-- The letters with the cache that can be read. -/
def Outbox.over (c : Connection) (s : Outbox × Redis) : Outbox :=
  { s.1 with cache := CachePart.emails.cache (s.2.cache c s.1.clock) }

/-- The invariant of a program over the outbox that sends nothing. -/
def Outbox.Keeps (c : Connection) (now : Time) (entries : RedisKey → Option RedisValue)
    (s : Outbox × Redis) : Prop :=
  s.1.clock = now ∧ CachePart.emails.Keeps c now entries s.2

/-- A statement that is none on a cache does not look at it. -/
theorem OutboxStmt.exec_withCache {provider : Provider} (hblind : provider.Blind) {s : OutboxStmt}
    (hs : s.Cacheless) (o : Outbox) (cache : ℕ → Option EmailCacheValue) :
    s.exec provider { o with cache := cache } =
      ((s.exec provider o).1, { (s.exec provider o).2 with cache := cache }) := by
  cases s with
  | getCache emailId => exact hs.elim
  | setCache emailId value => exact hs.elim
  | getPendingEmails limit =>
    unfold exec
    dsimp only
    rw [hblind.rank]
  | send record =>
    unfold exec
    dsimp only
    rw [hblind.send, hblind.latency]
  | commit loaded current =>
    unfold exec
    dsimp only
    rw [hblind.commit]
    cases provider.commit o with
    | some e => rfl
    | none => rfl
  | _ => rfl

/-- A statement over Redis is the statement on the cache. -/
theorem OutboxStmt.simulates {provider : Provider} (hblind : provider.Blind)
    {entries : RedisKey → Option RedisValue} (hc : ∀ n, c.fate n = .answered) (s : OutboxStmt)
    (state : Outbox × Redis) (hs : s.Still) (h : Outbox.Keeps c now entries state) :
    s.exec provider (Outbox.over c state) =
        ((s.execRedis c provider state).1, Outbox.over c (s.execRedis c provider state).2) ∧
      Outbox.Keeps c now entries (s.execRedis c provider state).2 := by
  obtain ⟨o, redis⟩ := state
  obtain ⟨hclock, hkeeps⟩ := h
  dsimp only at hclock hkeeps
  subst hclock
  cases s with
  | send record => exact hs.elim
  | getCache emailId =>
    obtain ⟨hread, hsame, hkept⟩ := hkeeps.read hc emailId
    refine ⟨Prod.ext hread.symm ?_, rfl, hkept⟩
    unfold Outbox.over execRedis
    dsimp only
    rw [hsame]
    rfl
  | setCache emailId value =>
    obtain ⟨hwrite, hkept⟩ := hkeeps.write hc false hs
    refine ⟨Prod.ext rfl ?_, rfl, hkept⟩
    unfold Outbox.over execRedis
    dsimp only
    rw [hwrite]
    rfl
  | commit loaded current =>
    refine ⟨(exec_withCache hblind (by trivial) o _).trans ?_, ?_⟩
    · unfold Outbox.over execRedis exec
      dsimp only
      cases provider.commit o with
      | some e => rfl
      | none => rfl
    · unfold execRedis exec
      dsimp only
      cases provider.commit o with
      | some e => exact ⟨rfl, hkeeps⟩
      | none => exact ⟨rfl, hkeeps⟩
  | _ => exact ⟨exec_withCache hblind (by trivial) o _, rfl, hkeeps⟩

/-! ### Operations -/

/-- The application with these caches. -/
def App.withCaches (s : App) (entries : RedisKey → Option RedisValue) : App where
  backend :=
    { school :=
        { world := { s.world with cache := CachePart.users.cache entries }
          groupsIdSeq := s.backend.school.groupsIdSeq
          groupCache := CachePart.groups.cache entries }
      subjects := { s.backend.subjects with cache := CachePart.subjects.cache entries } }
  outbox := { s.outbox with cache := CachePart.emails.cache entries }
  windows := s.windows

namespace Deployment

variable {P : Platform} {d : Deployment}

/-- The application with the caches that can be read. -/
def view (c : Connection) (d : Deployment) : App :=
  d.app.withCaches (d.redis.cache c d.app.now)

/-- **A program of the user services over Redis.** -/
theorem view_callUsers {α : Type} (hc : ∀ n, c.fate n = .answered) (hfinite : d.redis.store.Finite)
    {p : Service α} (hp : OnlyIssues Stmt.FillsByKind p) :
    (p.run (exec P.env) (d.view c).world).1 = (d.callUsers P c p).1 ∧
      (d.view c).withBackend { (d.view c).backend with
          school := { (d.view c).backend.school with
            world := (p.run (exec P.env) (d.view c).world).2 } } =
        (d.callUsers P c p).2.view c ∧
      (d.callUsers P c p).2.redis.store.Finite := by
  have hkeeps : World.Keeps c d.app.now (d.redis.cache c d.app.now) (d.app.world, d.redis) :=
    ⟨rfl, fun _ _ => rfl, hfinite⟩
  obtain ⟨hrun, hclock, hagrees, hfinite'⟩ :=
    hp.run_simulates (Stmt.simulates P.env hc) hkeeps
  have hworld : (d.view c).world = World.over c (d.app.world, d.redis) := rfl
  rw [hworld, hrun]
  refine ⟨rfl, ?_, hfinite'⟩
  unfold callUsers view
  generalize p.run (Stmt.execRedis c P.env) (d.app.world, d.redis) = result at hclock hagrees
  obtain ⟨outcome, w, redis⟩ := result
  dsimp only at hclock hagrees ⊢
  have hgroups := CachePart.groups.cache_of_agrees (by intro k k' h; cases h) hagrees
  have hsubjects := CachePart.subjects.cache_of_agrees (by intro k k' h; cases h) hagrees
  have hemails := CachePart.emails.cache_of_agrees (by intro k k' h; cases h) hagrees
  have hover : World.over c (w, redis) =
      { w with cache := CachePart.users.cache (redis.cache c d.app.now) } := by
    rw [← hclock]
    rfl
  change _ = App.withCaches _ (redis.cache c w.clock)
  rw [hclock, hover]
  unfold App.withCaches
  rw [hgroups, hsubjects, hemails]
  rfl

/-- A program of the group services over Redis. -/
theorem view_callGroups {α : Type} (hc : ∀ n, c.fate n = .answered)
    (hfinite : d.redis.store.Finite) {p : GroupProg α}
    (hp : GroupProg.OnlyIssues GroupStmt.FillsByKind p) :
    (p.run GroupStmt.exec (d.view c).backend.school.store).1 = (d.callGroups c p).1 ∧
      (d.view c).withBackend { (d.view c).backend with
          school := (d.view c).backend.school.withStore
            (p.run GroupStmt.exec (d.view c).backend.school.store).2 } =
        (d.callGroups c p).2.view c ∧
      (d.callGroups c p).2.redis.store.Finite := by
  have hkeeps : GroupStore.Keeps c d.app.now (d.redis.cache c d.app.now)
      (d.app.backend.school.store, d.redis) := ⟨rfl, fun _ _ => rfl, hfinite⟩
  obtain ⟨hrun, hclock, hagrees, hfinite'⟩ := hp.run_simulates (GroupStmt.simulates hc) hkeeps
  have hstore : (d.view c).backend.school.store =
      GroupStore.over c (d.app.backend.school.store, d.redis) := rfl
  rw [hstore, hrun]
  refine ⟨rfl, ?_, hfinite'⟩
  unfold callGroups view
  generalize p.run (GroupStmt.execRedis c) (d.app.backend.school.store, d.redis) = result
    at hclock hagrees
  obtain ⟨outcome, store, redis⟩ := result
  dsimp only at hclock hagrees ⊢
  have husers := CachePart.users.cache_of_agrees (by intro k k' h; cases h) hagrees
  have hsubjects := CachePart.subjects.cache_of_agrees (by intro k k' h; cases h) hagrees
  have hemails := CachePart.emails.cache_of_agrees (by intro k k' h; cases h) hagrees
  have hover : GroupStore.over c (store, redis) =
      { store with cache := CachePart.groups.cache (redis.cache c d.app.now) } := by
    rw [← hclock]
    rfl
  change _ = App.withCaches _ (redis.cache c d.app.now)
  rw [hover]
  unfold App.withCaches
  rw [husers, hsubjects, hemails]
  rfl

/-- A program of the subject services over Redis. -/
theorem view_callSubjects {α : Type} (hc : ∀ n, c.fate n = .answered)
    (hfinite : d.redis.store.Finite) {p : SubjectProg α}
    (hp : SubjectProg.OnlyIssues SubjectStmt.FillsByKind p) :
    (p.run SubjectStmt.exec { (d.view c).backend.subjects with clock := (d.view c).now }).1 =
        (d.callSubjects c p).1 ∧
      (d.view c).withBackend { (d.view c).backend with
          subjects := (p.run SubjectStmt.exec
            { (d.view c).backend.subjects with clock := (d.view c).now }).2 } =
        (d.callSubjects c p).2.view c ∧
      (d.callSubjects c p).2.redis.store.Finite := by
  have hkeeps : SubjectStore.Keeps c d.app.now (d.redis.cache c d.app.now)
      ({ d.app.backend.subjects with clock := d.app.now }, d.redis) :=
    ⟨rfl, fun _ _ => rfl, hfinite⟩
  obtain ⟨hrun, hclock, hagrees, hfinite'⟩ := hp.run_simulates (SubjectStmt.simulates hc) hkeeps
  have hstore : { (d.view c).backend.subjects with clock := (d.view c).now } =
      SubjectStore.over c ({ d.app.backend.subjects with clock := d.app.now }, d.redis) := rfl
  rw [hstore, hrun]
  refine ⟨rfl, ?_, hfinite'⟩
  unfold callSubjects view
  dsimp only
  generalize p.run (SubjectStmt.execRedis c)
    ({ d.app.backend.subjects with clock := d.app.now }, d.redis) = result at hclock hagrees
  obtain ⟨outcome, store, redis⟩ := result
  dsimp only at hclock hagrees ⊢
  have husers := CachePart.users.cache_of_agrees (by intro k k' h; cases h) hagrees
  have hgroups := CachePart.groups.cache_of_agrees (by intro k k' h; cases h) hagrees
  have hemails := CachePart.emails.cache_of_agrees (by intro k k' h; cases h) hagrees
  have hover : SubjectStore.over c (store, redis) =
      { store with cache := CachePart.subjects.cache (redis.cache c d.app.now) } := by
    rw [← hclock]
    rfl
  change _ = App.withCaches _ (redis.cache c d.app.now)
  rw [hover]
  unfold App.withCaches
  rw [husers, hgroups, hemails]
  rfl

/-- A request about a letter over Redis. -/
theorem view_callOutbox {α : Type} (hblind : P.provider.Blind) (hc : ∀ n, c.fate n = .answered)
    (hfinite : d.redis.store.Finite) {p : OutboxProg α}
    (hp : OutboxProg.OnlyIssues OutboxStmt.Still p) :
    (d.view c).callOutbox P p = ((d.callOutbox P c p).1, (d.callOutbox P c p).2.view c) ∧
      (d.callOutbox P c p).2.redis.store.Finite := by
  have hkeeps : Outbox.Keeps c d.app.now (d.redis.cache c d.app.now)
      ({ d.app.outbox with clock := d.app.now }, d.redis) := ⟨rfl, fun _ _ => rfl, hfinite⟩
  obtain ⟨hrun, hclock, hagrees, hfinite'⟩ :=
    hp.run_simulates (OutboxStmt.simulates hblind hc) hkeeps
  have hstore : { (d.view c).outbox with clock := (d.view c).now } =
      Outbox.over c ({ d.app.outbox with clock := d.app.now }, d.redis) := rfl
  refine ⟨?_, hfinite'⟩
  unfold App.callOutbox
  rw [hstore, hrun]
  unfold callOutbox view
  dsimp only
  generalize p.run (OutboxStmt.execRedis c P.provider)
    ({ d.app.outbox with clock := d.app.now }, d.redis) = result at hclock hagrees
  obtain ⟨outcome, o, redis⟩ := result
  dsimp only at hclock hagrees ⊢
  refine Prod.ext rfl ?_
  have husers := CachePart.users.cache_of_agrees (by intro k k' h; cases h) hagrees
  have hgroups := CachePart.groups.cache_of_agrees (by intro k k' h; cases h) hagrees
  have hsubjects := CachePart.subjects.cache_of_agrees (by intro k k' h; cases h) hagrees
  have hover : Outbox.over c (o, redis) =
      { o with cache := CachePart.emails.cache (redis.cache c d.app.now) } := by
    rw [← hclock]
    rfl
  have hnow : d.app.now + (o.clock - d.app.now) = d.app.now := by
    rw [hclock, Nat.sub_self, Nat.add_zero]
  change _ = App.withCaches _ (redis.cache c (d.app.now + (o.clock - d.app.now)))
  rw [hnow, hover]
  unfold App.withCaches
  rw [husers, hgroups, hsubjects]
  rfl

/-- **An operation over Redis is the operation on the caches.** -/
theorem view_perform (hblind : P.provider.Blind) (hc : ∀ n, c.fate n = .answered)
    (hfinite : d.redis.store.Finite) (statusCode : ℕ) (operation : Operation) :
    (d.view c).perform P statusCode operation =
        ((d.perform P c statusCode operation).1, (d.perform P c statusCode operation).2.view c) ∧
      (d.perform P c statusCode operation).2.redis.store.Finite := by
  cases operation with
  | user r =>
    obtain ⟨hout, hview, hfinite'⟩ := view_callUsers hc hfinite (r.fillsByKind P.env)
    exact ⟨Prod.ext (congrArg (HttpAnswer.of statusCode .user) hout) hview, hfinite'⟩
  | group r =>
    obtain ⟨hout, hview, hfinite'⟩ := view_callGroups hc hfinite r.fillsByKind
    exact ⟨Prod.ext (congrArg (HttpAnswer.of statusCode .group) hout) hview, hfinite'⟩
  | subject r =>
    obtain ⟨hout, hview, hfinite'⟩ := view_callSubjects hc hfinite r.fillsByKind
    exact ⟨Prod.ext (congrArg (HttpAnswer.of statusCode .subject) hout) hview, hfinite'⟩
  | getEmailById emailId =>
    obtain ⟨hcall, hfinite'⟩ := view_callOutbox hblind hc hfinite
      ((readsOnly_getEmailById emailId).mono fun _ => OutboxStmt.ReadsOnly.still)
    refine ⟨?_, hfinite'⟩
    unfold App.perform
    dsimp only
    rw [hcall]
    rfl
  | retryFailedEmail emailId =>
    obtain ⟨hcall, hfinite'⟩ := view_callOutbox hblind hc hfinite
      ((still_retryFailedEmail emailId).mono fun _ h => h.1)
    refine ⟨?_, hfinite'⟩
    unfold App.perform
    dsimp only
    rw [hcall]
    rfl
  | _ => exact ⟨rfl, hfinite⟩

/-! ### Requests -/

/-- Authentication over Redis. -/
theorem view_currentUser (hc : ∀ n, c.fate n = .answered) (hfinite : d.redis.store.Finite)
    (req : HttpRequest) :
    (d.view c).currentUser P req =
        ((d.currentUser P c req).1, (d.currentUser P c req).2.view c) ∧
      (d.currentUser P c req).2.redis.store.Finite := by
  unfold App.currentUser currentUser
  cases P.bearer.token req with
  | none => exact ⟨rfl, hfinite⟩
  | some token =>
    have hissues : OnlyIssues Stmt.FillsByKind (getCurrentUser P.env token) :=
      (readsOnly_getCurrentUser token).mono fun _ => Stmt.ReadsOnly.fillsByKind
    obtain ⟨hout, hview, hfinite'⟩ := view_callUsers hc hfinite hissues
    refine ⟨Prod.ext (congrArg (Except.mapError HttpAnswer.raised) hout) ?_, hfinite'⟩
    dsimp only
    rw [← hview]
    -- The response is made of what the program returns, and the state is the same.
    have hserve : (d.view c).world.after P.env (.request (.getCurrentUser token)) =
        ((getCurrentUser P.env token).run (exec P.env) (d.view c).world).2 :=
      congrArg Prod.snd (Prog.run_map (exec P.env) Response.currentUser _ _)
    rw [← hserve]
    rfl

/-- The dependency of an operation over Redis. -/
theorem view_solve (hc : ∀ n, c.fate n = .answered) (hfinite : d.redis.store.Finite)
    (req : HttpRequest) (dependency : Dependency) :
    (d.view c).solve P req dependency =
        ((d.solve P c req dependency).1, (d.solve P c req dependency).2.view c) ∧
      (d.solve P c req dependency).2.redis.store.Finite := by
  obtain ⟨huser, hfinite'⟩ := view_currentUser (P := P) hc hfinite req
  cases dependency with
  | nobody => exact ⟨rfl, hfinite⟩
  | currentUser => exact ⟨huser, hfinite'⟩
  | requireRoles roles =>
    refine ⟨?_, hfinite'⟩
    unfold App.solve
    dsimp only
    rw [huser]
    rfl

/-- **A request over Redis is the request on the caches.** -/
theorem view_handle (hblind : P.provider.Blind) (hc : ∀ n, c.fate n = .answered)
    (hfinite : d.redis.store.Finite) (req : HttpRequest) :
    (d.view c).handle P req = ((d.handle P c req).1, (d.handle P c req).2.view c) ∧
      (d.handle P c req).2.redis.store.Finite := by
  unfold App.handle handle
  cases Router.dispatch routes req.method req.path with
  | notFound => exact ⟨rfl, hfinite⟩
  | methodNotAllowed => exact ⟨rfl, hfinite⟩
  | found h parameters =>
    dsimp only
    unfold App.serve serve
    split
    · exact ⟨rfl, hfinite⟩
    · obtain ⟨hsolve, hfinite'⟩ := view_solve (P := P) hc hfinite req h.dependency
      rw [hsolve]
      generalize d.solve P c req h.dependency = solved at hfinite'
      obtain ⟨outcome, d'⟩ := solved
      dsimp only at hfinite' ⊢
      cases outcome with
      | error answer => exact ⟨rfl, hfinite'⟩
      | ok provided =>
        dsimp only
        unfold App.enter enter
        have hnow : (d'.view c).now = d'.app.now := rfl
        rw [hnow]
        cases h.operation P d'.app.now req parameters provided with
        | errors es => exact ⟨rfl, hfinite'⟩
        | ok operation =>
          have hhit : (d'.view c).hit P req h =
              ((d'.hit P req h).1, (d'.hit P req h).2.view c) := by
            unfold App.hit hit App.hit
            cases h.limit with
            | none => rfl
            | some limit => rfl
          dsimp only
          rw [hhit]
          dsimp only
          split
          · exact view_perform (d := (d'.hit P req h).2) hblind hc hfinite' h.statusCode operation
          · exact ⟨rfl, hfinite'⟩

end Deployment

/-! ### Entries that disappear -/

/-- An entry disappears. -/
def RedisKey.evicted : RedisKey → AppEvent
  | user key => .outside (.expire key)
  | group key => .expireGroup key
  | subject key => .expireSubject key
  | email emailId => .expireEmail emailId

/-- The events other than those that make an entry disappear. -/
def AppEvent.visible : AppEvent → Bool
  | http _ | outside (.tick _) | processBatch => true
  | _ => false

/-- The answer to a request. -/
def App.answer? (P : Platform) (s : App) : AppEvent → Option HttpAnswer
  | .http req => some (s.handle P req).1
  | _ => none

/-- The answers of a run. -/
def App.answers (P : Platform) (s : App) (events : List AppEvent) : List HttpAnswer :=
  Run.observe (App.after P) (App.answer? P) s events

/-- The outbox and the services go by one sequence of ids. -/
def App.Synced (s : App) : Prop := s.outbox.idSeq = s.world.db.pendingEmailsIdSeq

namespace App

variable {P : Platform} {s : App} {entries : RedisKey → Option RedisValue}

/-- Services that have posted nothing. -/
theorem withBackend_of_quiet (hs : s.Synced) {backend : Backend}
    (hrows : backend.world.db.pendingEmails = s.world.db.pendingEmails)
    (hseq : backend.world.db.pendingEmailsIdSeq = s.world.db.pendingEmailsIdSeq) :
    s.withBackend backend = { s with backend := backend } := by
  unfold withBackend
  rw [hrows, hseq, List.drop_length, List.append_nil, ← hs]

/-- **An entry that disappears from Redis is an event of the model.** -/
theorem after_evicted (hs : s.Synced) (key : RedisKey) :
    (s.withCaches entries).after P key.evicted =
      s.withCaches (Function.update entries key none) := by
  have hother : ∀ {K V : Type} (part : CachePart K V), (∀ k, part.key k ≠ key) →
      part.cache (Function.update entries key none) = part.cache entries := by
    intro K V part hpart
    funext k
    unfold CachePart.cache
    rw [Function.update_of_ne (hpart k)]
  have hself : ∀ {K V : Type} [DecidableEq K] (part : CachePart K V) (k : K), part.key k = key →
      part.cache (Function.update entries key none) =
        Function.update (part.cache entries) k none := by
    intro K V _ part k hk
    subst hk
    funext k'
    unfold CachePart.cache
    by_cases hk' : k' = k
    · subst hk'
      simp
    · have hkey : part.key k' ≠ part.key k := by
        intro hkey
        exact hk' (part.key_injective hkey)
      rw [Function.update_of_ne hkey, Function.update_of_ne hk']
  have hsync : (s.withCaches entries).Synced := hs
  cases key with
  | user k =>
    change (s.withCaches entries).withBackend
      ((s.withCaches entries).backend.after P.env (.school (.user (.outside (.expire k))))) = _
    rw [withBackend_of_quiet hsync (by rfl) (by rfl)]
    unfold withCaches
    rw [hself CachePart.users k rfl, hother CachePart.groups (by intro _ h; cases h),
      hother CachePart.subjects (by intro _ h; cases h),
      hother CachePart.emails (by intro _ h; cases h)]
    rfl
  | group k =>
    change (s.withCaches entries).withBackend
      ((s.withCaches entries).backend.after P.env (.school (.expireGroup k))) = _
    rw [withBackend_of_quiet hsync (by rfl) (by rfl)]
    unfold withCaches
    rw [hself CachePart.groups k rfl, hother CachePart.users (by intro _ h; cases h),
      hother CachePart.subjects (by intro _ h; cases h),
      hother CachePart.emails (by intro _ h; cases h)]
    rfl
  | subject k =>
    change (s.withCaches entries).withBackend
      ((s.withCaches entries).backend.after P.env (.expireSubject k)) = _
    rw [withBackend_of_quiet hsync (by rfl) (by rfl)]
    unfold withCaches
    rw [hself CachePart.subjects k rfl, hother CachePart.users (by intro _ h; cases h),
      hother CachePart.groups (by intro _ h; cases h),
      hother CachePart.emails (by intro _ h; cases h)]
    rfl
  | email k =>
    unfold after RedisKey.evicted withCaches
    dsimp only
    rw [hself CachePart.emails k rfl, hother CachePart.users (by intro _ h; cases h),
      hother CachePart.groups (by intro _ h; cases h),
      hother CachePart.subjects (by intro _ h; cases h)]

/-- So do several of them, and nothing is answered meanwhile. -/
theorem run_evicted (hs : s.Synced) (entries : RedisKey → Option RedisValue)
    (keys : List RedisKey) :
    (s.withCaches entries).run P (keys.map RedisKey.evicted) =
        s.withCaches (Ttl.forget entries keys) ∧
      (s.withCaches entries).answers P (keys.map RedisKey.evicted) = [] ∧
      (keys.map RedisKey.evicted).filter AppEvent.visible = [] := by
  induction keys generalizing entries with
  | nil => exact ⟨rfl, rfl, rfl⟩
  | cons key keys ih =>
    have hfirst : (s.withCaches entries).after P key.evicted =
        s.withCaches (Function.update entries key none) := after_evicted hs key
    obtain ⟨hrun, hanswers, hvisible⟩ := ih (Function.update entries key none)
    have hquiet : (s.withCaches entries).answer? P key.evicted = none := by
      cases key <;> rfl
    have hinvisible : key.evicted.visible = false := by
      cases key <;> rfl
    refine ⟨?_, ?_, ?_⟩
    · change ((s.withCaches entries).after P key.evicted).run P _ = _
      rw [hfirst]
      exact hrun
    · change Run.observe (App.after P) (App.answer? P) _ (_ :: _) = _
      rw [Run.observe, hfirst, hquiet]
      exact hanswers
    · rw [List.map_cons, List.filter_cons_of_neg (by rw [hinvisible]; exact Bool.false_ne_true)]
      exact hvisible

end App

/-! ### Runs -/

/-- What an event over Redis is in the model. -/
def DeploymentEvent.appEvent? : DeploymentEvent → Option AppEvent
  | http req => some (.http req)
  | tick elapsed => some (.outside (.tick elapsed))
  | evict _ => none
  | processBatch => some .processBatch

namespace Deployment

variable {P : Platform} {d : Deployment}

/-- No statement takes an id of the outbox. -/
theorem synced_callOutbox {α : Type} (hsync : d.app.Synced) {A : OutboxStmt → Prop}
    {p : OutboxProg α} (hp : OutboxProg.OnlyIssues A p) : (d.callOutbox P c p).2.app.Synced := by
  have hkeeps : ((p.run (OutboxStmt.execRedis c P.provider)
      ({ d.app.outbox with clock := d.app.now }, d.redis)).2.1).idSeq = d.app.outbox.idSeq := by
    refine hp.run_keeps (I := fun s : Outbox × Redis => s.1.idSeq = d.app.outbox.idSeq) ?_ rfl
    rintro s ⟨o, redis⟩ - ho
    cases s with
    | commit loaded current =>
      unfold OutboxStmt.execRedis OutboxStmt.exec
      dsimp only
      cases P.provider.commit o with
      | some e => exact ho
      | none => exact ho
    | _ => exact ho
  exact hkeeps.trans hsync

/-- A request keeps the outbox and the services at one sequence. -/
theorem synced_handle (hsync : d.app.Synced) (req : HttpRequest) :
    (d.handle P c req).2.app.Synced := by
  have huser : (d.currentUser P c req).2.app.Synced := by
    unfold currentUser
    cases P.bearer.token req with
    | none => exact hsync
    | some token => rfl
  have hperform : ∀ (d : Deployment) (statusCode : ℕ) (operation : Operation), d.app.Synced →
      (d.perform P c statusCode operation).2.app.Synced := by
    intro d statusCode operation hsync
    cases operation with
    | getEmailById emailId => exact synced_callOutbox hsync (readsOnly_getEmailById emailId)
    | retryFailedEmail emailId => exact synced_callOutbox hsync (still_retryFailedEmail emailId)
    | liveness | readiness | noRefreshToken | listGroups | listSubjects | listEmails =>
      exact hsync
    | _ => rfl
  have hsolve : ∀ dependency, (d.solve P c req dependency).2.app.Synced := by
    intro dependency
    cases dependency with
    | nobody => exact hsync
    | currentUser => exact huser
    | requireRoles roles => exact huser
  unfold handle
  split
  · exact hsync
  · exact hsync
  · next h parameters hdispatch =>
    have hentered := hsolve h.dependency
    unfold serve
    split
    · exact hsync
    · split
      · next answer d' hresult =>
        rw [hresult] at hentered
        exact hentered
      · next provided d' hresult =>
        rw [hresult] at hentered
        have hhit : (d'.hit P req h).2.app.Synced := by
          obtain ⟨hbackend, houtbox⟩ := d'.app.hit_backend P req h
          unfold hit App.Synced App.world
          dsimp only
          rw [hbackend, houtbox]
          exact hentered
        unfold enter
        split
        · exact hentered
        · split
          · exact hperform _ _ _ hhit
          · exact hhit

/-- The worker over Redis; meanwhile the entries stay. -/
theorem view_processBatch (hblind : P.provider.Blind) :
    ((d.view c).callOutbox P processBatch).2 =
        (d.callOutbox P c processBatch).2.app.withCaches (d.redis.cache c d.app.now) ∧
      (d.callOutbox P c processBatch).2.redis = d.redis := by
  have hstep : ∀ (s : OutboxStmt) (w : Outbox × Redis), s.Cacheless → w.2 = d.redis →
      s.exec P.provider { w.1 with cache := CachePart.emails.cache (d.redis.cache c d.app.now) } =
          ((s.execRedis c P.provider w).1,
            { (s.execRedis c P.provider w).2.1 with
              cache := CachePart.emails.cache (d.redis.cache c d.app.now) }) ∧
        (s.execRedis c P.provider w).2.2 = d.redis := by
    rintro s ⟨o, redis⟩ hs hredis
    have hsame := OutboxStmt.exec_withCache hblind hs o
      (CachePart.emails.cache (d.redis.cache c d.app.now))
    cases s with
    | getCache emailId => exact hs.elim
    | setCache emailId value => exact hs.elim
    | _ => exact ⟨hsame, hredis⟩
  have hrun := cacheless_processBatch.run_simulates hstep
    (w := ({ d.app.outbox with clock := d.app.now }, d.redis)) rfl
  have hstore : { (d.view c).outbox with clock := (d.view c).now } =
      { d.app.outbox with
        clock := d.app.now, cache := CachePart.emails.cache (d.redis.cache c d.app.now) } := rfl
  refine ⟨?_, hrun.2⟩
  unfold App.callOutbox
  rw [hstore, hrun.1]
  rfl

/-- **An event over Redis is an event of the model**, after which some entries disappear. -/
theorem view_after (hblind : P.provider.Blind) (hc : ∀ n, c.fate n = .answered)
    (hfinite : d.redis.store.Finite) (hsync : d.app.Synced) (e : DeploymentEvent) :
    ((d.after P c e).redis.store.Finite ∧ (d.after P c e).app.Synced) ∧
      ∃ events : List AppEvent, events.filter AppEvent.visible = e.appEvent?.toList ∧
        (d.view c).run P events = (d.after P c e).view c ∧
        (d.view c).answers P events = (d.answer? P c e).toList := by
  -- An event that lets time pass, and then the entries that have expired.
  have hlater : ∀ (first : List AppEvent) (d' : Deployment), d'.app.Synced →
      d'.redis = d.redis → d.app.now ≤ d'.app.now →
      (d.view c).run P first = d'.app.withCaches (d.redis.cache c d.app.now) →
      (d.view c).answers P first = [] →
      ∃ events : List AppEvent, events.filter AppEvent.visible = first.filter AppEvent.visible ∧
        (d.view c).run P events = d'.view c ∧ (d.view c).answers P events = [] := by
    intro first d' hsync' hredis hnow hfirst hquiet
    obtain ⟨keys, hkeys⟩ := c.typed.cache_later hfinite hnow
    obtain ⟨hrun, hanswers, hvisible⟩ := App.run_evicted (P := P)
      hsync' (d.redis.cache c d.app.now) keys
    refine ⟨first ++ keys.map RedisKey.evicted, ?_, ?_, ?_⟩
    · rw [List.filter_append, hvisible, List.append_nil]
    · refine (Run.run_append _ _ _).trans ?_
      change ((d.view c).run P first).run P _ = _
      rw [hfirst, hrun]
      unfold view
      rw [hredis]
      exact congrArg _ hkeys.symm
    · refine (Run.observe_append _ _ _ _).trans ?_
      change (d.view c).answers P first ++ ((d.view c).run P first).answers P _ = _
      rw [hquiet, hfirst, hanswers]
      rfl
  cases e with
  | http req =>
    obtain ⟨hview, hfinite'⟩ := view_handle hblind hc hfinite req
    refine ⟨⟨hfinite', synced_handle hsync req⟩, [.http req], rfl, ?_, ?_⟩
    · exact congrArg Prod.snd hview
    · exact congrArg (fun result => [result.1]) hview
  | tick elapsed =>
    refine ⟨⟨hfinite, rfl⟩, ?_⟩
    have hnow : d.app.now ≤ (d.after P c (.tick elapsed)).app.now := Nat.le_add_right _ _
    exact hlater [.outside (.tick elapsed)] _ rfl rfl hnow rfl rfl
  | evict key =>
    refine ⟨⟨hfinite.delete _, hsync⟩, ?_⟩
    obtain ⟨keys, hkeys⟩ : ∃ keys, c.typed.cache (d.redis.store.delete [key]) d.app.now =
        Ttl.forget (d.redis.cache c d.app.now) keys := Ttl.Typed.cache_evict key
    obtain ⟨hrun, hanswers, hvisible⟩ := App.run_evicted (P := P)
      hsync (d.redis.cache c d.app.now) keys
    refine ⟨keys.map RedisKey.evicted, hvisible, hrun.trans ?_, hanswers⟩
    exact congrArg d.app.withCaches hkeys.symm
  | processBatch =>
    obtain ⟨hview, hredis⟩ := view_processBatch (c := c) (d := d) hblind
    have hsync' : (d.callOutbox P c SmsLite.processBatch).2.app.Synced :=
      synced_callOutbox hsync cacheless_processBatch
    refine ⟨⟨?_, hsync'⟩, ?_⟩
    · change (d.callOutbox P c SmsLite.processBatch).2.redis.store.Finite
      rw [hredis]
      exact hfinite
    · have hnow : d.app.now ≤ (d.after P c .processBatch).app.now := Nat.le_add_right _ _
      exact hlater [.processBatch] _ hsync' hredis hnow hview rfl

end Deployment

/-- **Redis refines the caches**: from an empty Redis, if all commands are answered, every run
gives the answers, and leaves the tables and the readable entries, of a run of the model with the
same events, among which some entries disappear. -/
theorem redis_refines (P : Platform) (hblind : P.provider.Blind) (c : Connection)
    (hc : ∀ n, c.fate n = .answered) (d : Deployment) (hempty : d.redis.store = Ttl.Store.empty)
    (hsync : d.app.Synced) (events : List DeploymentEvent) :
    ∃ appEvents : List AppEvent,
      appEvents.filter AppEvent.visible = events.filterMap DeploymentEvent.appEvent? ∧
        (d.view c).run P appEvents = (d.run P c events).view c ∧
        (d.view c).answers P appEvents = d.answers P c events := by
  have hfinite : d.redis.store.Finite := by
    rw [hempty]
    exact Ttl.Store.finite_empty
  refine Run.refines (I := fun d : Deployment => d.redis.store.Finite ∧ d.app.Synced) ?_
    ⟨hfinite, hsync⟩ events
  intro d e hd
  exact Deployment.view_after hblind hc hd.1 hd.2 e

/-- The principal logs in and creates a group; a quarter of an hour later she tries again. -/
theorem redis_refines_concrete : ∃ appEvents : List AppEvent,
    appEvents.filter AppEvent.visible =
        [.http loginPrincipal, .http createGroupPrincipal, .outside (.tick (Time.minutes 15)),
          .http createGroupPrincipal, .processBatch] ∧
      (Deployment.concrete.view .concrete).run .concrete appEvents =
        (Deployment.concrete.run .concrete .concrete
          [.http loginPrincipal, .http createGroupPrincipal, .tick (Time.minutes 15),
            .http createGroupPrincipal, .processBatch]).view .concrete ∧
      (Deployment.concrete.view .concrete).answers .concrete appEvents =
        Deployment.concrete.answers .concrete .concrete
          [.http loginPrincipal, .http createGroupPrincipal, .tick (Time.minutes 15),
            .http createGroupPrincipal, .processBatch] := by
  refine redis_refines .concrete ?_ .concrete (fun _ => rfl) .concrete rfl rfl
    [.http loginPrincipal, .http createGroupPrincipal, .tick (Time.minutes 15),
      .http createGroupPrincipal, .processBatch]
  exact ⟨fun _ _ _ => rfl, fun _ _ => rfl, fun _ _ => rfl, fun _ _ => rfl⟩

end SmsLite
