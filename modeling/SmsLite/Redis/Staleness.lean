import SmsLite.AccessTokens
import SmsLite.Redis.Independence

/-!
# How old an answer may be

Deletes get lost when Redis fails, and then an entry outlives the row it shows.  Whatever
becomes of the commands, an entry is a dump of what its row was when it was set, and no longer
there when its time is over; so no answer is older than the time its entry is kept.

## Main definitions

* `App.current` — what a reader would cache now under a key.
* `Chronicle` — what each key has been, and when.
* `Redis.Traced` — every entry shows a state of the past, and expires in time.
* `Redis.Recent` — what a key was in a state that is not older than its time.

## Main results

* `Redis.Traced.recent` — an entry that is still there shows a recent state.
* `Deployment.perform_recent` — **a service answers a read with a recent state, and leaves every
  entry traced**.
-/

namespace SmsLite

open Interleave
open Interleave.Prog (Ends ends_map)

/-! ### What a key is about -/

/-- The version an active account accepts, as `get_current_user` reads it. -/
def World.liveVersion (w : World) (id : UserId) : Option ℕ :=
  (Keyed.get? w.db.users id).bind fun u =>
    if u.isActive then (Keyed.get? w.db.sessions id).map (·.accessTokenVersion) else none

/-- It is what a query for the session shows of an active account. -/
theorem World.liveVersion_of_select {w : World} {id : UserId} {l : Loaded} {session : UserSession}
    (hl : w.db.selectUserById id { loadSession := true } = some l)
    (hsession : l.session = some session) (hactive : l.user.isActive = true) :
    w.liveVersion id = some session.accessTokenVersion := by
  obtain ⟨u, hu, rfl⟩ := Option.map_eq_some_iff.mp hl
  obtain ⟨hget, -⟩ := Option.filter_eq_some_iff.mp hu
  have hid : u.id = id := Keyed.key_of_get? hget
  change Keyed.get? w.db.sessions u.id = some session at hsession
  change u.isActive = true at hactive
  unfold liveVersion
  rw [hget, Option.bind_some, if_pos hactive, ← hid, hsession]
  rfl

/-- What a reader of users would cache now under a key. -/
def World.current (w : World) : CacheKey → Option CacheValue
  | .accessTokenVersionKey id => (w.liveVersion id).map .version
  | key => key.detail?.bind fun detail => (w.profile detail.1).map detail.2

theorem World.current_detail {w : World} {key : CacheKey} {id : UserId}
    {project : Loaded → CacheValue} (h : key.detail? = some (id, project)) :
    w.current key = (w.profile id).map project := by
  cases key <;> cases h <;> rfl

theorem World.current_of_select {w : World} {id : UserId} {l : Loaded} {session : UserSession}
    (hl : w.db.selectUserById id { loadSession := true } = some l)
    (hsession : l.session = some session) (hactive : l.user.isActive = true) :
    w.current (.accessTokenVersionKey id) = some (.version session.accessTokenVersion) :=
  congrArg (Option.map _) (World.liveVersion_of_select hl hsession hactive)

theorem World.current_of_reader {w : World} {r : Request} {reader : Reader} {l : Loaded}
    (hr : r.reader? = some reader)
    (hl : w.db.selectUserById reader.userId reader.query = some l) :
    w.current reader.key = some (reader.project l) := by
  obtain ⟨hdetail, hprofile⟩ := Request.reader_profile hr hl
  rw [World.current_detail hdetail, hprofile]
  rfl

/-- It is of the kind of the key. -/
theorem World.current_fits {w : World} {key : CacheKey} {value : CacheValue}
    (h : w.current key = some value) : (RedisKey.user key).Fits (.user value) := by
  cases key with
  | accessTokenVersionKey id =>
    obtain ⟨_, -, rfl⟩ := Option.map_eq_some_iff.mp h
    trivial
  | userDetailKeyAdmin id | userDetailKeyStaff id | userDetailKeySelf id =>
    obtain ⟨_, -, rfl⟩ := Option.map_eq_some_iff.mp h
    trivial

/-- What a reader would cache now under a key. -/
def App.current (s : App) : RedisKey → Option RedisValue
  | .user key => (s.world.current key).map .user
  | .group (.groupDetailKeyAdmin id) =>
    (Keyed.get? s.world.db.groups id).map fun g => .group (.admin g.adminCache)
  | .group (.groupDetailKeyStaff id) =>
    (Keyed.get? s.world.db.groups id).map fun g => .group (.staff g.directorCache)
  | .subject (.subjectDetailKeyAdmin id) =>
    (Keyed.get? s.backend.subjects.rows id).map fun r => .subject (.admin r.adminCache)
  | .subject (.subjectDetailKeyStaff id) =>
    (Keyed.get? s.backend.subjects.rows id).map fun r => .subject (.staff r.directorCache)
  | .email id => (Keyed.get? s.outbox.rows id).map fun r => .email (.detail r.responseCache)

/-- It is of the kind of the key. -/
theorem App.current_fits {s : App} {key : RedisKey} {value : RedisValue}
    (h : s.current key = some value) : key.Fits value := by
  cases key with
  | user key =>
    obtain ⟨_, hvalue, rfl⟩ := Option.map_eq_some_iff.mp h
    exact World.current_fits hvalue
  | group key =>
    cases key <;> obtain ⟨_, -, rfl⟩ := Option.map_eq_some_iff.mp h <;> trivial
  | subject key =>
    cases key <;> obtain ⟨_, -, rfl⟩ := Option.map_eq_some_iff.mp h <;> trivial
  | email id =>
    obtain ⟨_, -, rfl⟩ := Option.map_eq_some_iff.mp h
    trivial

/-- It depends on the tables alone. -/
theorem App.current_congr {s s' : App} (hdb : s'.world.db = s.world.db)
    (hsubjects : s'.backend.subjects.rows = s.backend.subjects.rows)
    (hletters : s'.outbox.rows = s.outbox.rows) : s'.current = s.current := by
  funext key
  unfold current World.current World.liveVersion World.profile
  rw [hdb, hsubjects, hletters]

/-! ### Entries and their past -/

/-- What the keys were, and until when they may be said to have been it. -/
abbrev Chronicle := RedisKey → RedisValue → Time → Prop

namespace Redis

variable {c : Connection} {was : Chronicle} {store : Ttl.Store String String} {now : Time}

/-- **Every entry shows what its key was, and expires in time.** -/
def Traced (c : Connection) (was : Chronicle) (store : Ttl.Store String String) : Prop :=
  ∀ text entry, store text = some entry →
    ∃ (key : RedisKey) (value : RedisValue) (t : Time) (student : Bool), key.text = text ∧
      was key value t ∧ key.Fits value ∧
      entry.value = Json.dumps (value.dump c.iso student) ∧ entry.expiresAt = t + key.ttl

/-- The key was this, and not longer ago than its entry may be kept. -/
def Recent (was : Chronicle) (now : Time) (key : RedisKey) (value : RedisValue) : Prop :=
  ∃ t, was key value t ∧ now < t + key.ttl

theorem traced_empty : Traced c was Ttl.Store.empty := by
  intro text entry h
  cases h

theorem Traced.mono (h : Traced c was store) {was' : Chronicle}
    (hwas : ∀ key value t, was key value t → was' key value t) : Traced c was' store := by
  intro text entry hentry
  obtain ⟨key, value, t, student, hkey, ht, hrest⟩ := h text entry hentry
  exact ⟨key, value, t, student, hkey, hwas key value t ht, hrest⟩

theorem Traced.delete (h : Traced c was store) (keys : List String) :
    Traced c was (store.delete keys) := by
  intro text entry hentry
  unfold Ttl.Store.delete at hentry
  split at hentry
  · cases hentry
  · exact h text entry hentry

theorem Traced.set (h : Traced c was store) {key : RedisKey} {value : RedisValue}
    (hwas : was key value now) (hfits : key.Fits value) (student : Bool) :
    Traced c was
      (store.set key.text (Json.dumps (value.dump c.iso student)) (now + key.ttl)) := by
  intro text entry hentry
  by_cases htext : text = key.text
  · subst htext
    rw [Ttl.Store.set, Function.update_self] at hentry
    obtain rfl := Option.some.inj hentry
    exact ⟨key, value, now, student, rfl, hwas, hfits, rfl, rfl⟩
  · rw [Ttl.Store.set, Function.update_of_ne htext] at hentry
    exact h text entry hentry

/-- What can be read is recent. -/
theorem Traced.recent {redis : Redis} (h : Traced c was redis.store) {key : RedisKey}
    {value : RedisValue} (hcache : redis.cache c now key = some value) :
    Recent was now key value := by
  obtain ⟨text, hget, hread⟩ := Option.bind_eq_some_iff.mp hcache
  obtain ⟨entry, hentry, hvisible, rfl⟩ := Ttl.Store.get_eq_some.mp hget
  obtain ⟨key', value', t, student, hkey, hwas, hfits, hvalue, hexpires⟩ := h _ _ hentry
  obtain rfl := RedisKey.text_injective hkey
  -- The dump of a value of its kind is read back as it was.
  have hloads : c.typed.read key' entry.value = some value' := by
    rw [hvalue]
    exact c.validate_dumps student hfits
  obtain rfl := Option.some.inj (hloads.symm.trans hread)
  exact ⟨t, hwas, hexpires ▸ hvisible⟩

/-- What is now is recent. -/
theorem recent_of_was {key : RedisKey} {value : RedisValue} (h : was key value now) :
    Recent was now key value :=
  ⟨now, h, Nat.lt_add_of_pos_right key.ttl_pos⟩

theorem Traced.write {redis : Redis} (h : Traced c was redis.store) {key : RedisKey}
    {value : RedisValue} (hwas : was key value now) (hfits : key.Fits value) (student : Bool) :
    Traced c was (redis.write c now student key value).store := by
  unfold Redis.write setCache
  dsimp only
  split
  · exact h
  · exact h.set hwas hfits student

theorem Traced.forget {redis : Redis} (h : Traced c was redis.store) (keys : List RedisKey) :
    Traced c was (redis.forget c keys).store := by
  unfold Redis.forget deleteCache
  split
  · exact h
  · dsimp only
    split
    · exact h
    · exact h.delete _

end Redis

/-- What the keys are in this state has been recorded. -/
def App.Recorded (s : App) (was : Chronicle) : Prop :=
  ∀ key value, s.current key = some value → was key value s.now

/-- What a read returns can be read. -/
theorem CachePart.cache_of_read {K V : Type} (part : CachePart K V) {c : Connection} {now : Time}
    {redis : Redis} {k : K} {v : V} (h : (part.read c now k redis).1 = some v) :
    redis.cache c now (part.key k) = some (part.value v) := by
  unfold CachePart.read Redis.read Redis.getCache at h
  obtain ⟨value, hvalue, hv⟩ := Option.bind_eq_some_iff.mp h
  obtain rfl := (part.value?_eq_some _ _).mp hv
  obtain ⟨text, htext, hvalidate⟩ := Option.bind_eq_some_iff.mp hvalue
  dsimp only at htext
  split at htext
  · exact Option.bind_eq_some_iff.mpr ⟨text, htext, hvalidate⟩
  · cases htext

/-! ### Readers -/

section Readers

variable {c : Connection} {was : Chronicle} {s : App} {redis : Redis}

/-- A cached reader answers with what is recent, and caches what is current. -/
theorem cachedDetail_recent (env : Env) (hs : s.Recorded was) (ht : Redis.Traced c was redis.store)
    {α : Type} {key : CacheKey} {id : UserId} {q : UserQuery} {validate : CacheValue → Option α}
    {project : Loaded → CacheValue} {respond : Loaded → α}
    (hfresh : ∀ l, s.world.db.selectUserById id q = some l →
      s.current (.user key) = some (.user (project l)) ∧
        validate (project l) = some (respond l)) :
    Ends (Stmt.execRedis c env) (cachedDetail key id q validate project respond)
      (fun out w => Redis.Traced c was w.2.store ∧ ∀ a, out = .ok a →
        ∃ value, Redis.Recent was s.now (.user key) (.user value) ∧ validate value = some a)
      (s.world, redis) := by
  unfold cachedDetail
  refine Prog.ends_call.mpr ?_
  have ht' : Redis.Traced c was (CachePart.users.read c s.world.clock key redis).2.store := ht
  dsimp only [Stmt.execRedis]
  generalize (CachePart.users.read c s.world.clock key redis).2 = redis' at ht'
  cases hread : (CachePart.users.read c s.world.clock key redis).1 with
  | some value =>
    have hrecent : Redis.Recent was s.now (.user key) (.user value) :=
      ht.recent (CachePart.users.cache_of_read hread)
    dsimp only
    cases hvalidate : validate value with
    | some response =>
      refine ⟨ht', ?_⟩
      rintro a ⟨⟩
      exact ⟨value, hrecent, hvalidate⟩
    | none =>
      refine ⟨ht', ?_⟩
      rintro a ⟨⟩
  | none =>
    refine Prog.ends_call.mpr ?_
    change Ends _ (ensureExists (s.world.db.selectUserById id q) userNotFound >>= _) _
      (s.world, redis')
    cases hl : s.world.db.selectUserById id q with
    | none =>
      refine ⟨ht', ?_⟩
      rintro a ⟨⟩
    | some l =>
      obtain ⟨hcurrent, hvalidate⟩ := hfresh l hl
      refine ⟨ht'.write (hs _ _ hcurrent) (App.current_fits hcurrent) _, ?_⟩
      rintro a ⟨⟩
      exact ⟨project l, Redis.recent_of_was (hs _ _ hcurrent), hvalidate⟩

/-- `get_current_user` accepts what was live a short while ago, and caches what is live. -/
theorem getCurrentUser_recent (env : Env) (hs : s.Recorded was)
    (ht : Redis.Traced c was redis.store) (token : String) :
    Ends (Stmt.execRedis c env) (getCurrentUser env token)
      (fun out w => Redis.Traced c was w.2.store ∧ ∀ user, out = .ok user →
        ∃ version, accessTokenSubject env s.now token = .ok (user.id, version, some user.role) ∧
          Redis.Recent was s.now (.user (.accessTokenVersionKey user.id))
            (.user (.version version)))
      (s.world, redis) := by
  unfold getCurrentUser
  refine Prog.ends_call.mpr ?_
  change Ends _ (ofExcept (accessTokenSubject env s.now token) >>= _) _ (s.world, redis)
  cases hsubject : accessTokenSubject env s.now token with
  | error e =>
    refine ⟨ht, ?_⟩
    rintro a ⟨⟩
  | ok subject =>
    obtain ⟨id, version, role⟩ := subject
    have ht' : Redis.Traced c was
        (CachePart.users.read c s.now (.accessTokenVersionKey id) redis).2.store := ht
    refine Prog.ends_call.mpr ?_
    dsimp only [Stmt.execRedis]
    generalize (CachePart.users.read c s.world.clock (.accessTokenVersionKey id) redis).2 =
      redis' at ht'
    cases role with
    | none =>
      refine ⟨ht', ?_⟩
      rintro a ⟨⟩
    | some role =>
      cases hread : (CachePart.users.read c s.world.clock (.accessTokenVersionKey id) redis).1 with
      | some value =>
        have hrecent : Redis.Recent was s.now (.user (.accessTokenVersionKey id)) (.user value) :=
          ht.recent (CachePart.users.cache_of_read hread)
        dsimp only
        cases value with
        | version cachedVersion =>
          dsimp only
          split
          · refine ⟨ht', ?_⟩
            rintro a ⟨⟩
          · next hsame =>
            refine ⟨ht', ?_⟩
            rintro a ⟨⟩
            rw [ne_eq, not_not] at hsame
            subst hsame
            exact ⟨cachedVersion, rfl, hrecent⟩
        | _ =>
          refine ⟨ht', ?_⟩
          rintro a ⟨⟩
      | none =>
        refine Prog.ends_call.mpr ?_
        dsimp only [Stmt.execRedis, exec]
        cases hl : s.world.db.selectUserById id { loadSession := true } with
        | none =>
          refine ⟨ht', ?_⟩
          rintro a ⟨⟩
        | some user =>
          dsimp only
          cases hsession : user.session with
          | none =>
            refine ⟨ht', ?_⟩
            rintro a ⟨⟩
          | some session =>
            change Ends _ (if session.accessTokenVersion ≠ version then _ else _) _ _
            split
            · refine ⟨ht', ?_⟩
              rintro a ⟨⟩
            · next hsame =>
              rw [ne_eq, not_not] at hsame
              subst hsame
              split
              · refine ⟨ht', ?_⟩
                rintro a ⟨⟩
              · next hactive =>
                have hcurrent : s.current (.user (.accessTokenVersionKey id)) =
                    some (.user (.version session.accessTokenVersion)) :=
                  congrArg (Option.map _)
                    (World.current_of_select hl hsession (by simpa using hactive))
                refine ⟨ht'.write (hs _ _ hcurrent) (App.current_fits hcurrent) _, ?_⟩
                rintro a ⟨⟩
                exact ⟨_, rfl, Redis.recent_of_was (hs _ _ hcurrent)⟩

/-- A reader of the groups answers with what is recent, and caches what is current. -/
theorem cachedGroup_recent (hs : s.Recorded was) (ht : Redis.Traced c was redis.store) {α : Type}
    {key : GroupCacheKey} {id : ℕ} {validate : GroupCacheValue → Option α}
    {project : Group → GroupCacheValue} {respond : Group → α}
    (hfresh : ∀ g, Keyed.get? s.world.db.groups id = some g →
      s.current (.group key) = some (.group (project g)) ∧
        validate (project g) = some (respond g)) :
    Ends (GroupStmt.execRedis c) (cachedGroup key id validate project respond)
      (fun out w => Redis.Traced c was w.2.store ∧ ∀ a, out = .ok a →
        ∃ value, Redis.Recent was s.now (.group key) (.group value) ∧ validate value = some a)
      (s.backend.school.store, redis) := by
  unfold cachedGroup
  refine Prog.ends_call.mpr ?_
  have ht' : Redis.Traced c was
      (CachePart.groups.read c s.backend.school.store.clock key redis).2.store := ht
  dsimp only [GroupStmt.execRedis]
  generalize (CachePart.groups.read c s.backend.school.store.clock key redis).2 = redis' at ht'
  cases hread : (CachePart.groups.read c s.backend.school.store.clock key redis).1 with
  | some value =>
    have hrecent : Redis.Recent was s.now (.group key) (.group value) :=
      ht.recent (CachePart.groups.cache_of_read hread)
    dsimp only
    cases hvalidate : validate value with
    | some response =>
      refine ⟨ht', ?_⟩
      rintro a ⟨⟩
      exact ⟨value, hrecent, hvalidate⟩
    | none =>
      refine ⟨ht', ?_⟩
      rintro a ⟨⟩
  | none =>
    refine Prog.ends_call.mpr ?_
    dsimp only [GroupStmt.execRedis, GroupStmt.exec]
    cases hg : Keyed.get? s.backend.school.store.rows id with
    | none =>
      refine ⟨ht', ?_⟩
      rintro a ⟨⟩
    | some group =>
      obtain ⟨hcurrent, hvalidate⟩ := hfresh group hg
      refine ⟨ht'.write (hs _ _ hcurrent) (App.current_fits hcurrent) false, ?_⟩
      rintro a ⟨⟩
      exact ⟨project group, Redis.recent_of_was (hs _ _ hcurrent), hvalidate⟩

/-- A reader of the subjects answers with what is recent, and caches what is current. -/
theorem cachedSubject_recent (hs : s.Recorded was) (ht : Redis.Traced c was redis.store) {α : Type}
    {key : SubjectCacheKey} {id : ℕ} {validate : SubjectCacheValue → Option α}
    {project : Subject → SubjectCacheValue} {respond : Subject → α}
    (hfresh : ∀ g, Keyed.get? s.backend.subjects.rows id = some g →
      s.current (.subject key) = some (.subject (project g)) ∧
        validate (project g) = some (respond g)) :
    Ends (SubjectStmt.execRedis c) (cachedSubject key id validate project respond)
      (fun out w => Redis.Traced c was w.2.store ∧ ∀ a, out = .ok a →
        ∃ value, Redis.Recent was s.now (.subject key) (.subject value) ∧ validate value = some a)
      ({ s.backend.subjects with clock := s.now }, redis) := by
  unfold cachedSubject
  refine Prog.ends_call.mpr ?_
  have ht' : Redis.Traced c was
      (CachePart.subjects.read c s.now key redis).2.store := ht
  dsimp only [SubjectStmt.execRedis]
  generalize (CachePart.subjects.read c s.now key redis).2 = redis' at ht'
  cases hread : (CachePart.subjects.read c s.now key redis).1 with
  | some value =>
    have hrecent : Redis.Recent was s.now (.subject key) (.subject value) :=
      ht.recent (CachePart.subjects.cache_of_read hread)
    dsimp only
    cases hvalidate : validate value with
    | some response =>
      refine ⟨ht', ?_⟩
      rintro a ⟨⟩
      exact ⟨value, hrecent, hvalidate⟩
    | none =>
      refine ⟨ht', ?_⟩
      rintro a ⟨⟩
  | none =>
    refine Prog.ends_call.mpr ?_
    dsimp only [SubjectStmt.execRedis, SubjectStmt.exec]
    cases hg : Keyed.get? s.backend.subjects.rows id with
    | none =>
      refine ⟨ht', ?_⟩
      rintro a ⟨⟩
    | some subject =>
      obtain ⟨hcurrent, hvalidate⟩ := hfresh subject hg
      refine ⟨ht'.write (hs _ _ hcurrent) (App.current_fits hcurrent) false, ?_⟩
      rintro a ⟨⟩
      exact ⟨project subject, Redis.recent_of_was (hs _ _ hcurrent), hvalidate⟩

/-- The reader of a letter answers with what is recent, and caches what is current. -/
theorem getEmailById_recent (provider : Provider) (hs : s.Recorded was)
    (ht : Redis.Traced c was redis.store) (id : ℕ) :
    Ends (OutboxStmt.execRedis c provider) (PendingEmailService.getEmailById id)
      (fun out w => Redis.Traced c was w.2.store ∧ ∀ detail, out = .ok detail →
        Redis.Recent was s.now (.email id) (.email (.detail detail)))
      ({ s.outbox with clock := s.now }, redis) := by
  unfold PendingEmailService.getEmailById
  refine Prog.ends_call.mpr ?_
  have ht' : Redis.Traced c was (CachePart.emails.read c s.now id redis).2.store := ht
  dsimp only [OutboxStmt.execRedis]
  generalize (CachePart.emails.read c s.now id redis).2 = redis' at ht'
  cases hread : (CachePart.emails.read c s.now id redis).1 with
  | some value =>
    cases value with
    | detail email =>
      refine ⟨ht', ?_⟩
      rintro a ⟨⟩
      exact ht.recent (CachePart.emails.cache_of_read hread)
    | invalid =>
      refine ⟨ht', ?_⟩
      rintro a ⟨⟩
  | none =>
    refine Prog.ends_call.mpr ?_
    dsimp only [OutboxStmt.execRedis, OutboxStmt.exec]
    cases hr : Keyed.get? s.outbox.rows id with
    | none =>
      refine ⟨ht', ?_⟩
      rintro a ⟨⟩
    | some email =>
      have hcurrent : s.current (.email id) = some (.email (.detail email.responseCache)) :=
        congrArg (Option.map _) hr
      refine ⟨ht'.write (hs _ _ hcurrent) (App.current_fits hcurrent) false, ?_⟩
      rintro a ⟨⟩
      exact Redis.recent_of_was (hs _ _ hcurrent)

end Readers

/-! ### Operations -/

/-- What a reader of users answers with an entry; the schemas of the teachers have no group. -/
def Request.shows : Request → CacheValue → Option Response
  | getTeacherByIdAdmin _, value =>
    value.admin?.map fun detail => .admin { detail with group := none }
  | getStudentByIdAdmin _, value => value.admin?.map .admin
  | getTeacherByIdDirector _, value =>
    value.staff?.map fun detail => .staff { detail with group := none }
  | getStudentByIdDirector _, value => value.staff?.map .staff
  | getMyProfile _, value => value.self?.map fun detail => .self { detail with group := none }
  | getMyStudentProfile _, value => value.self?.map .self
  | _, _ => none

/-- The key an operation looks up. -/
def Operation.reads : Operation → Option RedisKey
  | user r => r.reader?.map fun reader => .user reader.key
  | group (.getGroupByIdAdmin id) => some (.group (.groupDetailKeyAdmin id))
  | group (.getGroupByIdDirector id) => some (.group (.groupDetailKeyStaff id))
  | subject (.getSubjectByIdAdmin id) => some (.subject (.subjectDetailKeyAdmin id))
  | subject (.getSubjectByIdDirector id) => some (.subject (.subjectDetailKeyStaff id))
  | getEmailById id => some (.email id)
  | _ => none

/-- What it answers with an entry. -/
def Operation.shows : Operation → RedisValue → Option HttpContent
  | user r, .user value => (r.shows value).map .user
  | group (.getGroupByIdAdmin _), .group value => value.admin?.map fun d => .group (.admin d)
  | group (.getGroupByIdDirector _), .group value => value.staff?.map fun d => .group (.staff d)
  | subject (.getSubjectByIdAdmin _), .subject value =>
    value.admin?.map fun d => .subject (.admin d)
  | subject (.getSubjectByIdDirector _), .subject value =>
    value.staff?.map fun d => .subject (.staff d)
  | getEmailById _, .email value => value.detail?.map .email
  | _, _ => none

section Operations

variable {P : Platform} {c : Connection} {was : Chronicle} {d : Deployment}

/-- What is made of a value that an entry shows. -/
theorem ends_map_shown {S W E α β V : Type} {Reply : S → Type} {exec : (s : S) → W → Reply s × W}
    {p : Prog S Reply E α} {T : W → Prop} {R : V → Prop} {validate : V → Option α} {w : W}
    {f : α → β} {shown : V → Option β} (hshown : ∀ v, (validate v).map f = shown v)
    (h : Ends exec p (fun out w => T w ∧ ∀ a, out = .ok a → ∃ v, R v ∧ validate v = some a) w) :
    Ends exec (f <$> p)
      (fun out w => T w ∧ ∀ b, out = .ok b → ∃ v, R v ∧ shown v = some b) w := by
  refine (ends_map _ _ _).mpr (h.mono ?_)
  rintro out w ⟨ht, hout⟩
  refine ⟨ht, ?_⟩
  intro b hb
  cases out with
  | error e => cases hb
  | ok a =>
    cases hb
    obtain ⟨v, hv, hvalidate⟩ := hout a rfl
    refine ⟨v, hv, ?_⟩
    rw [← hshown, hvalidate, Option.map_some]

/-- The six readers of users. -/
theorem Request.reader_recent (env : Env) {s : App} {redis : Redis} (hs : s.Recorded was)
    (ht : Redis.Traced c was redis.store) {r : Request} {reader : Reader}
    (hr : r.reader? = some reader) :
    Ends (Stmt.execRedis c env) (r.service env)
      (fun out w => Redis.Traced c was w.2.store ∧ ∀ response, out = .ok response →
        ∃ value, Redis.Recent was s.now (.user reader.key) (.user value) ∧
          r.shows value = some response)
      (s.world, redis) := by
  have hcurrent : ∀ l, s.world.db.selectUserById reader.userId reader.query = some l →
      s.current (.user reader.key) = some (.user (reader.project l)) := by
    intro l hl
    exact congrArg (Option.map _) (World.current_of_reader hr hl)
  cases r with
  | getStudentByIdAdmin id | getStudentByIdDirector id | getMyStudentProfile id =>
    cases hr
    refine ends_map_shown ?_ (cachedDetail_recent env hs ht fun l hl => ⟨hcurrent l hl, by rfl⟩)
    intro value
    rfl
  | getTeacherByIdAdmin id | getTeacherByIdDirector id | getMyProfile id =>
    cases hr
    refine ends_map_shown ?_ (cachedDetail_recent env hs ht fun l hl => ⟨hcurrent l hl, ?_⟩)
    · intro value
      exact Option.map_map _ _ _
    · -- Without a group in the query there is none in the row.
      obtain ⟨u, -, rfl⟩ := Option.map_eq_some_iff.mp hl
      rfl
  | _ => cases hr

/-- The two readers of groups. -/
theorem GroupRequest.reader_recent {s : App} {redis : Redis} (hs : s.Recorded was)
    (ht : Redis.Traced c was redis.store) {r : GroupRequest} {key : RedisKey}
    (hr : (Operation.group r).reads = some key) :
    Ends (GroupStmt.execRedis c) r.service
      (fun out w => Redis.Traced c was w.2.store ∧ ∀ response, out = .ok response →
        ∃ value, Redis.Recent was s.now key value ∧
          (Operation.group r).shows value = some (.group response))
      (s.backend.school.store, redis) := by
  cases r with
  | getGroupByIdAdmin id | getGroupByIdDirector id =>
    cases hr
    refine Ends.mono (ends_map_shown (fun _ => rfl) (cachedGroup_recent hs ht ?_)) ?_
    · intro row hrow
      exact ⟨congrArg (Option.map _) hrow, rfl⟩
    rintro out w ⟨htraced, hout⟩
    refine ⟨htraced, ?_⟩
    intro response hresponse
    obtain ⟨value, hrecent, hshown⟩ := hout response hresponse
    refine ⟨.group value, hrecent, ?_⟩
    have hcontent := congrArg (Option.map HttpContent.group) hshown
    rwa [Option.map_map] at hcontent
  | _ => cases hr

/-- The two readers of subjects. -/
theorem SubjectRequest.reader_recent {s : App} {redis : Redis} (hs : s.Recorded was)
    (ht : Redis.Traced c was redis.store) {r : SubjectRequest} {key : RedisKey}
    (hr : (Operation.subject r).reads = some key) :
    Ends (SubjectStmt.execRedis c) r.service
      (fun out w => Redis.Traced c was w.2.store ∧ ∀ response, out = .ok response →
        ∃ value, Redis.Recent was s.now key value ∧
          (Operation.subject r).shows value = some (.subject response))
      ({ s.backend.subjects with clock := s.now }, redis) := by
  cases r with
  | getSubjectByIdAdmin id | getSubjectByIdDirector id =>
    cases hr
    refine Ends.mono (ends_map_shown (fun _ => rfl) (cachedSubject_recent hs ht ?_)) ?_
    · intro row hrow
      exact ⟨congrArg (Option.map _) hrow, rfl⟩
    rintro out w ⟨htraced, hout⟩
    refine ⟨htraced, ?_⟩
    intro response hresponse
    obtain ⟨value, hrecent, hshown⟩ := hout response hresponse
    refine ⟨.subject value, hrecent, ?_⟩
    have hcontent := congrArg (Option.map HttpContent.subject) hshown
    rwa [Option.map_map] at hcontent
  | _ => cases hr

/-- A mutator sets no entry. -/
theorem Stmt.Cacheless.traced {env : Env} {s : Stmt} (hs : s.Cacheless) {w : World × Redis}
    (ht : Redis.Traced c was w.2.store) : Redis.Traced c was (s.execRedis c env w).2.2.store := by
  obtain ⟨w, redis⟩ := w
  cases s with
  | getCache key => exact hs.elim
  | setCache key value => exact hs.elim
  | deleteCache keys => exact ht.forget _
  | _ => exact ht

theorem GroupStmt.Cacheless.traced {s : GroupStmt} (hs : s.Cacheless) {w : GroupStore × Redis}
    (ht : Redis.Traced c was w.2.store) : Redis.Traced c was (s.execRedis c w).2.2.store := by
  obtain ⟨store, redis⟩ := w
  cases s with
  | getCache key => exact hs.elim
  | setCache key value => exact hs.elim
  | deleteCache keys => exact ht.forget _
  | _ => exact ht

theorem SubjectStmt.Cacheless.traced {s : SubjectStmt} (hs : s.Cacheless) {w : SubjectStore × Redis}
    (ht : Redis.Traced c was w.2.store) : Redis.Traced c was (s.execRedis c w).2.2.store := by
  obtain ⟨store, redis⟩ := w
  cases s with
  | getCache key => exact hs.elim
  | setCache key value => exact hs.elim
  | deleteCache keys => exact ht.forget _
  | _ => exact ht

theorem OutboxStmt.Cacheless.traced {provider : Provider} {s : OutboxStmt} (hs : s.Cacheless)
    {w : Outbox × Redis} (ht : Redis.Traced c was w.2.store) :
    Redis.Traced c was (s.execRedis c provider w).2.2.store := by
  obtain ⟨o, redis⟩ := w
  cases s with
  | getCache emailId => exact hs.elim
  | setCache emailId value => exact hs.elim
  | _ => exact ht

/-- What comes of an answer: an error, or what the program returns. -/
theorem HttpAnswer.of_cases {α : Type} (code : ℕ) (content : α → HttpContent)
    (out : Except Exn α) :
    400 ≤ (HttpAnswer.of code content out).statusCode ∨
      ∃ a, out = .ok a ∧ HttpAnswer.of code content out = ⟨code, content a⟩ := by
  cases out with
  | error e => exact Or.inl (App.le_statusCode_raised e)
  | ok a => exact Or.inr ⟨a, rfl, rfl⟩

/-- An operation that reads a key answers with an error, or with what the key was recently. -/
def Operation.AnswersRecent (was : Chronicle) (now : Time) (code : ℕ) (operation : Operation)
    (answer : HttpAnswer) : Prop :=
  ∀ key, operation.reads = some key → 400 ≤ answer.statusCode ∨
    ∃ value content, Redis.Recent was now key value ∧ operation.shows value = some content ∧
      answer = ⟨code, content⟩

/-- What a reader of one key answers. -/
theorem Operation.answersRecent_of {α : Type} {code : ℕ} {operation : Operation} {now : Time}
    {content : α → HttpContent} {out : Except Exn α} {read : RedisKey}
    (hread : operation.reads = some read)
    (h : ∀ a, out = .ok a → ∃ value, Redis.Recent was now read value ∧
      operation.shows value = some (content a)) :
    operation.AnswersRecent was now code (HttpAnswer.of code content out) := by
  intro key hkey
  obtain rfl := Option.some.inj (hread.symm.trans hkey)
  rcases HttpAnswer.of_cases code content out with herror | ⟨a, hout, hanswer⟩
  · exact Or.inl herror
  · obtain ⟨value, hrecent, hshows⟩ := h a hout
    exact Or.inr ⟨value, content a, hrecent, hshows, hanswer⟩

/-- An operation that reads no key. -/
theorem Operation.answersRecent_of_none {code : ℕ} {operation : Operation} {now : Time}
    (h : operation.reads = none) (answer : HttpAnswer) :
    operation.AnswersRecent was now code answer := by
  intro key hkey
  rw [h] at hkey
  cases hkey

/-- **An operation keeps the entries traced, and a reader answers with what is recent.** -/
theorem Deployment.perform_recent (P : Platform) (hs : d.app.Recorded was)
    (ht : Redis.Traced c was d.redis.store) (code : ℕ) (operation : Operation) :
    Redis.Traced c was (d.perform P c code operation).2.redis.store ∧
      operation.AnswersRecent was d.app.now code (d.perform P c code operation).1 := by
  cases operation with
  | user r =>
    cases hr : r.reader? with
    | some reader =>
      obtain ⟨htraced, hanswer⟩ := Request.reader_recent P.env hs ht hr
      have hreads : (Operation.user r).reads = some (.user reader.key) :=
        congrArg (Option.map _) hr
      refine ⟨htraced, Operation.answersRecent_of hreads ?_⟩
      intro response hresponse
      obtain ⟨value, hrecent, hshows⟩ := hanswer response hresponse
      exact ⟨.user value, hrecent, congrArg (Option.map _) hshows⟩
    | none =>
      have hreads : (Operation.user r).reads = none := by
        change Option.map _ r.reader? = none
        rw [hr, Option.map_none]
      refine ⟨?_, Operation.answersRecent_of_none hreads _⟩
      cases hreader : r.isReader with
      | false =>
        have hissues : OnlyIssues Stmt.Cacheless (r.service P.env) := Request.cacheless hreader
        exact hissues.run_keeps
          (I := fun w : World × Redis => Redis.Traced c was w.2.store)
          (fun _ _ hs ht => hs.traced ht) ht
      | true =>
        cases r with
        | getCurrentUser token =>
          exact ((ends_map _ _ _).mpr ((getCurrentUser_recent P.env hs ht token).mono
            fun _ _ h => h.1) : Ends _ _ (fun _ w => Redis.Traced c was w.2.store) _)
        | getTeacherByIdAdmin | getStudentByIdAdmin | getTeacherByIdDirector
        | getStudentByIdDirector | getMyProfile | getMyStudentProfile => cases hr
        | _ => cases hreader
  | group r =>
    cases hreads : (Operation.group r).reads with
    | some key =>
      obtain ⟨htraced, hanswer⟩ := GroupRequest.reader_recent hs ht hreads
      exact ⟨htraced, Operation.answersRecent_of hreads hanswer⟩
    | none =>
      have hreader : r.isReader = false := by
        cases r with
        | getGroupByIdAdmin | getGroupByIdDirector => cases hreads
        | _ => rfl
      refine ⟨?_, Operation.answersRecent_of_none hreads _⟩
      exact (GroupRequest.cacheless hreader).run_keeps
        (I := fun w : GroupStore × Redis => Redis.Traced c was w.2.store)
        (fun _ _ hs ht => hs.traced ht) ht
  | subject r =>
    cases hreads : (Operation.subject r).reads with
    | some key =>
      obtain ⟨htraced, hanswer⟩ := SubjectRequest.reader_recent hs ht hreads
      exact ⟨htraced, Operation.answersRecent_of hreads hanswer⟩
    | none =>
      have hreader : r.isReader = false := by
        cases r with
        | getSubjectByIdAdmin | getSubjectByIdDirector => cases hreads
        | _ => rfl
      refine ⟨?_, Operation.answersRecent_of_none hreads _⟩
      exact (SubjectRequest.cacheless hreader).run_keeps
        (I := fun w : SubjectStore × Redis => Redis.Traced c was w.2.store)
        (fun _ _ hs ht => hs.traced ht) ht
  | getEmailById emailId =>
    obtain ⟨htraced, hanswer⟩ := getEmailById_recent P.provider hs ht emailId
    refine ⟨htraced, Operation.answersRecent_of rfl ?_⟩
    intro detail hdetail
    exact ⟨.email (.detail detail), hanswer detail hdetail, rfl⟩
  | retryFailedEmail emailId =>
    refine ⟨?_, Operation.answersRecent_of_none rfl _⟩
    exact (still_retryFailedEmail emailId).run_keeps
      (I := fun w : Outbox × Redis => Redis.Traced c was w.2.store)
      (fun _ _ hs ht => hs.2.traced ht) ht
  | _ => exact ⟨ht, Operation.answersRecent_of_none rfl _⟩

end Operations

end SmsLite
