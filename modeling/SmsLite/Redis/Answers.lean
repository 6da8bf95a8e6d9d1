import SmsLite.Http.Access
import SmsLite.Lifecycle
import SmsLite.Redis.Refinement
import SmsLite.Redis.Staleness

/-!
# Runs of requests over a failing Redis

The laws of a cache that may lose its deletes, for whole runs of HTTP requests: what a cached
route answers is what the row was a quarter of an hour ago at most, and a token that has been
revoked is of no use five minutes later, whichever commands have failed.

## Main definitions

* `Deployment.Performs` — a request gets as far as the call of a service.
* `Deployment.Was` — what the keys were in a run.
* `DeploymentEvent.Revokes` — a request revokes the access tokens of a user.

## Main results

* `Deployment.traced_run` — **every entry of every run is traced**.
* `answers_recent` — **no cached answer is older than its entry may be**.
* `revoked_refused` — **a revoked token is refused five minutes later, whatever is lost**.
-/

namespace SmsLite

open Interleave
open Interleave.Prog (Ends)

variable {P : Platform} {c : Connection} {d : Deployment} {req : HttpRequest}

/-! ### What a request does -/

namespace Deployment

/-- The state in which a service is called: the guard and the limiter have been asked. -/
def admitted (P : Platform) (c : Connection) (d : Deployment) (req : HttpRequest) (h : Handler) :
    Deployment :=
  ((d.solve P c req h.dependency).2.hit P req h).2

/-- The request gets as far as the call of a service. -/
structure Performs (P : Platform) (c : Connection) (d : Deployment) (req : HttpRequest)
    (h : Handler) (operation : Operation) : Prop where
  wellFormed : App.malformed P req h = false
  routed : ∃ parameters provided,
    Router.dispatch routes req.method req.path = .found h parameters ∧
      (d.solve P c req h.dependency).1 = .ok provided ∧
        h.operation P (d.solve P c req h.dependency).2.app.now req parameters provided =
          .ok operation
  unlimited : ((d.solve P c req h.dependency).2.hit P req h).1 = true

/-- Such a request is answered by its service. -/
theorem Performs.handle {h : Handler} {operation : Operation}
    (hp : d.Performs P c req h operation) :
    d.handle P c req = (d.admitted P c req h).perform P c h.statusCode operation := by
  obtain ⟨parameters, provided, hrouted, hsolved, hoperation⟩ := hp.routed
  have hwell := hp.wellFormed
  have hunlimited := hp.unlimited
  unfold admitted Deployment.handle serve
  simp only [hrouted, hwell, Bool.false_eq_true, if_false]
  generalize d.solve P c req h.dependency = result at hsolved hoperation hunlimited
  obtain ⟨outcome, state⟩ := result
  dsimp only at hsolved
  subst hsolved
  dsimp only at hoperation hunlimited ⊢
  unfold enter
  simp only [hoperation, hunlimited, if_true]

/-- The same rows, and the same time. -/
structure Beside (d d' : Deployment) : Prop where
  backend : d'.app.backend = d.app.backend
  rows : d'.app.outbox.rows = d.app.outbox.rows

theorem Beside.refl (d : Deployment) : d.Beside d := ⟨rfl, rfl⟩

theorem Beside.now {d' : Deployment} (h : d.Beside d') : d'.app.now = d.app.now :=
  congrArg (fun backend : Backend => backend.school.world.clock) h.backend

theorem Beside.current {d' : Deployment} (h : d.Beside d') : d'.app.current = d.app.current :=
  App.current_congr (congrArg (fun backend : Backend => backend.school.world.db) h.backend)
    (congrArg (fun backend : Backend => backend.subjects.rows) h.backend) h.rows

/-- A reader of the user services leaves the rows. -/
theorem beside_callUsers {α : Type} {p : Service α} (hp : OnlyIssues Stmt.ReadsOnly p) :
    d.Beside (d.callUsers P c p).2 := by
  unfold callUsers
  dsimp only
  rw [run_execRedis_readsOnly P.env hp]
  refine ⟨rfl, ?_⟩
  change _ ++ List.drop _ _ = _
  rw [List.drop_length, List.append_nil]

theorem beside_solve (req : HttpRequest) (dependency : Dependency) :
    d.Beside (d.solve P c req dependency).2 := by
  have huser : d.Beside (d.currentUser P c req).2 := by
    unfold currentUser
    cases P.bearer.token req with
    | none => exact .refl d
    | some token => exact beside_callUsers (readsOnly_getCurrentUser token)
  cases dependency with
  | nobody => exact .refl d
  | currentUser => exact huser
  | requireRoles roles => exact huser

theorem beside_admitted (req : HttpRequest) (h : Handler) :
    d.Beside (d.admitted P c req h) := by
  obtain ⟨hbackend, hrows⟩ := beside_solve (P := P) (c := c) (d := d) req h.dependency
  obtain ⟨hbackend', houtbox⟩ := (d.solve P c req h.dependency).2.app.hit_backend P req h
  exact ⟨hbackend'.trans hbackend, (congrArg Outbox.rows houtbox).trans hrows⟩

/-- A refused dependency is answered with an error. -/
theorem le_statusCode_solve {dependency : Dependency} {answer : HttpAnswer}
    (h : (d.solve P c req dependency).1 = .error answer) : 400 ≤ answer.statusCode := by
  have huser : ∀ answer, (d.currentUser P c req).1 = .error answer → 400 ≤ answer.statusCode := by
    intro answer h
    unfold currentUser at h
    cases htoken : P.bearer.token req with
    | none =>
      rw [htoken] at h
      cases h
      decide
    | some token =>
      rw [htoken] at h
      dsimp only at h
      cases hout : (d.callUsers P c (getCurrentUser P.env token)).1 with
      | ok user =>
        rw [hout] at h
        cases h
      | error e =>
        rw [hout] at h
        cases h
        exact App.le_statusCode_raised e
  cases dependency with
  | nobody => cases h
  | currentUser => exact huser answer h
  | requireRoles roles =>
    change (d.currentUser P c req).1.bind _ = .error answer at h
    cases hresult : (d.currentUser P c req).1 with
    | error answer' =>
      rw [hresult] at h
      cases h
      exact huser _ hresult
    | ok user =>
      rw [hresult] at h
      change (if user.role ∈ roles then Except.ok user else .error HttpAnswer.accessDenied) = _ at h
      split at h
      · cases h
      · cases h
        decide

/-- A request that does not get so far ends with an error, and leaves the rows. -/
theorem handle_refused (hno : ∀ h operation, ¬ d.Performs P c req h operation) :
    400 ≤ (d.handle P c req).1.statusCode ∧ d.Beside (d.handle P c req).2 ∧
      ∃ dependency, (d.handle P c req).2.redis = (d.solve P c req dependency).2.redis := by
  unfold Deployment.handle
  cases hrouted : Router.dispatch routes req.method req.path with
  | notFound => exact ⟨(by decide : 400 ≤ 404), .refl d, .nobody, rfl⟩
  | methodNotAllowed => exact ⟨(by decide : 400 ≤ 405), .refl d, .nobody, rfl⟩
  | found h parameters =>
    dsimp only
    unfold serve
    cases hwell : App.malformed P req h with
    | true => exact ⟨(by decide : 400 ≤ 422), .refl d, .nobody, rfl⟩
    | false =>
      rw [if_neg Bool.false_ne_true]
      have hsolve := beside_solve (P := P) (c := c) (d := d) req h.dependency
      have hadmitted := beside_admitted (P := P) (c := c) (d := d) req h
      have herror := @le_statusCode_solve P c d req h.dependency
      have hnever := hno h
      unfold admitted at hadmitted
      cases hresult : d.solve P c req h.dependency with
      | mk outcome state =>
        have hredis : state.redis = (d.solve P c req h.dependency).2.redis := by rw [hresult]
        rw [hresult] at hsolve hadmitted herror
        cases outcome with
        | error answer => exact ⟨herror rfl, hsolve, _, hredis⟩
        | ok provided =>
          dsimp only at hsolve hadmitted ⊢
          unfold enter
          cases hoperation : h.operation P state.app.now req parameters provided with
          | errors es => exact ⟨(by decide : 400 ≤ 422), hsolve, _, hredis⟩
          | ok operation =>
            dsimp only
            cases hunlimited : (state.hit P req h).1 with
            | false => exact ⟨(by decide : 400 ≤ 429), hadmitted, _, hredis⟩
            | true =>
              refine absurd ?_ (hnever operation)
              refine ⟨hwell, ⟨parameters, provided, hrouted, ?_, ?_⟩, ?_⟩
              · rw [hresult]
              · rw [hresult]
                exact hoperation
              · rw [hresult]
                exact hunlimited

/-! ### Entries and their past -/

/-- What the keys were in a run. -/
def Was (P : Platform) (c : Connection) (d : Deployment) (events : List DeploymentEvent) :
    Chronicle := fun key value t =>
  ∃ pre post, events = pre ++ post ∧ (d.run P c pre).app.now = t ∧
    (d.run P c pre).app.current key = some value

theorem Beside.recorded {d' : Deployment} (h : d.Beside d') {was : Chronicle}
    (hs : d.app.Recorded was) : d'.app.Recorded was := by
  intro key value hvalue
  rw [h.current] at hvalue
  rw [h.now]
  exact hs key value hvalue

/-- The guard keeps the entries traced. -/
theorem traced_solve {was : Chronicle} (hs : d.app.Recorded was)
    (ht : Redis.Traced c was d.redis.store) (req : HttpRequest) (dependency : Dependency) :
    Redis.Traced c was (d.solve P c req dependency).2.redis.store := by
  have huser : Redis.Traced c was (d.currentUser P c req).2.redis.store := by
    unfold currentUser
    cases P.bearer.token req with
    | none => exact ht
    | some token => exact (getCurrentUser_recent P.env hs ht token).1
  cases dependency with
  | nobody => exact ht
  | currentUser => exact huser
  | requireRoles roles => exact huser

/-- **An event keeps the entries traced.** -/
theorem traced_after {was : Chronicle} (hs : d.app.Recorded was)
    (ht : Redis.Traced c was d.redis.store) (e : DeploymentEvent) :
    Redis.Traced c was (d.after P c e).redis.store := by
  cases e with
  | http req =>
    change Redis.Traced c was (d.handle P c req).2.redis.store
    by_cases hp : ∃ h operation, d.Performs P c req h operation
    · obtain ⟨h, operation, hp⟩ := hp
      rw [hp.handle]
      exact (perform_recent P ((beside_admitted req h).recorded hs)
        (traced_solve hs ht req h.dependency) h.statusCode operation).1
    · obtain ⟨-, -, dependency, hredis⟩ := handle_refused fun h operation hperforms =>
        hp ⟨h, operation, hperforms⟩
      rw [hredis]
      exact traced_solve hs ht req dependency
  | tick elapsed => exact ht
  | evict key => exact ht.delete [key]
  | processBatch =>
    exact cacheless_processBatch.run_keeps
      (I := fun w : Outbox × Redis => Redis.Traced c was w.2.store)
      (fun _ _ hs ht => hs.traced ht) ht

/-- The last state of a run is one of its states. -/
theorem recorded_run (P : Platform) (c : Connection) (d : Deployment)
    (events : List DeploymentEvent) :
    (d.run P c events).app.Recorded (d.Was P c events) := by
  intro key value hvalue
  exact ⟨events, [], by rw [List.append_nil], rfl, hvalue⟩

/-- **Every entry of every run is traced.** -/
theorem traced_run (hempty : d.redis.store = Ttl.Store.empty) (events : List DeploymentEvent) :
    Redis.Traced c (d.Was P c events) (d.run P c events).redis.store := by
  induction events using List.reverseRecOn with
  | nil =>
    change Redis.Traced c _ d.redis.store
    rw [hempty]
    exact Redis.traced_empty
  | append_singleton events e ih =>
    have hmono : ∀ key value t, d.Was P c events key value t →
        d.Was P c (events ++ [e]) key value t := by
      rintro key value t ⟨pre, post, hsplit, hrest⟩
      exact ⟨pre, post ++ [e], by rw [hsplit, List.append_assoc], hrest⟩
    have hs : (d.run P c events).app.Recorded (d.Was P c (events ++ [e])) := by
      intro key value hvalue
      exact hmono key value _ (recorded_run P c d events key value hvalue)
    have hafter : d.run P c (events ++ [e]) = (d.run P c events).after P c e :=
      Run.run_concat d events e
    rw [hafter]
    exact traced_after hs (ih.mono hmono) e

end Deployment

/-- **No cached answer is older than its entry may be**: from an empty Redis, whichever commands
fail, a request to a route that answers from a cache gets an error, or what the row was in a state
of the run that is less than the time of the entry ago. -/
theorem answers_recent (P : Platform) (c : Connection) (d : Deployment)
    (hempty : d.redis.store = Ttl.Store.empty) (events : List DeploymentEvent) (req : HttpRequest) :
    400 ≤ ((d.run P c events).handle P c req).1.statusCode ∨
      ∃ h operation, (d.run P c events).Performs P c req h operation ∧
        ∀ key, operation.reads = some key → ∃ pre post value content,
          events = pre ++ post ∧
            (d.run P c events).app.now < (d.run P c pre).app.now + key.ttl ∧
            (d.run P c pre).app.current key = some value ∧ operation.shows value = some content ∧
            ((d.run P c events).handle P c req).1 = ⟨h.statusCode, content⟩ := by
  by_cases herror : 400 ≤ ((d.run P c events).handle P c req).1.statusCode
  · exact Or.inl herror
  by_cases hp : ∃ h operation, (d.run P c events).Performs P c req h operation
  · obtain ⟨h, operation, hp⟩ := hp
    refine Or.inr ⟨h, operation, hp, ?_⟩
    intro key hkey
    have ht := Deployment.traced_run (P := P) (c := c) hempty events
    have hs := Deployment.recorded_run P c d events
    have hbeside := Deployment.beside_admitted (P := P) (c := c) (d := d.run P c events) req h
    have hanswer := (Deployment.perform_recent P (hbeside.recorded hs)
      (Deployment.traced_solve hs ht req h.dependency) h.statusCode operation).2
    rw [← hp.handle] at hanswer
    rcases hanswer key hkey with hcode | ⟨value, content, hrecent, hshows, hcontent⟩
    · exact absurd hcode herror
    · obtain ⟨_, ⟨pre, post, hsplit, rfl, hvalue⟩, hlate⟩ := hrecent
      rw [hbeside.now] at hlate
      exact ⟨pre, post, value, content, hsplit, hlate, hvalue, hshows, hcontent⟩
  · exact absurd (Deployment.handle_refused fun h operation hperforms =>
      hp ⟨h, operation, hperforms⟩).1 herror

/-- A connection that loses one command. -/
def Connection.losing (k : ℕ) : Connection where
  iso := Connection.concrete.iso
  foreign := Connection.concrete.foreign
  fate := fun n => if n = k then .lost else .answered

/-- The principal asks for a group. -/
def readGroupPrincipal : HttpRequest where
  method := .get
  path := ["groups", "1"]
  query := ""
  authorization := some ("Bearer " ++ tokensPrincipal.accessToken)
  refreshToken := none
  refreshTokenFamily := none
  body := ""
  remoteAddress := "10.0.0.1"

/-- She archives it. -/
def archiveGroupPrincipal : HttpRequest :=
  { readGroupPrincipal with method := .patch, path := ["groups", "1", "archive"] }

/-- The group is archived, and the delete of its entry is lost: she gets an older state of the
group, but not for long. -/
theorem answers_recent_lost :
    ∃ h operation, (Deployment.concrete.run .concrete (.losing 5)
        [.http loginPrincipal, .http readGroupPrincipal, .http archiveGroupPrincipal]).Performs
          .concrete (.losing 5) readGroupPrincipal h operation ∧
      ∀ key, operation.reads = some key → ∃ pre post value content,
        [.http loginPrincipal, .http readGroupPrincipal, .http archiveGroupPrincipal] =
            pre ++ post ∧
          (Deployment.concrete.run .concrete (.losing 5)
            [.http loginPrincipal, .http readGroupPrincipal,
              .http archiveGroupPrincipal]).app.now <
            (Deployment.concrete.run .concrete (.losing 5) pre).app.now + key.ttl ∧
          (Deployment.concrete.run .concrete (.losing 5) pre).app.current key = some value ∧
          operation.shows value = some content ∧
          ((Deployment.concrete.run .concrete (.losing 5)
            [.http loginPrincipal, .http readGroupPrincipal, .http archiveGroupPrincipal]).handle
              .concrete (.losing 5) readGroupPrincipal).1 = ⟨h.statusCode, content⟩ := by
  refine (answers_recent .concrete (.losing 5) .concrete rfl
    [.http loginPrincipal, .http readGroupPrincipal, .http archiveGroupPrincipal]
    readGroupPrincipal).resolve_left ?_
  decide +kernel

/-! ### The users below Redis -/

/-- A mutator over Redis does to the users what it does when nothing is cached. -/
theorem run_execRedis_uncached (env : Env) {α : Type} {p : Service α}
    (hp : OnlyIssues Stmt.Cacheless p) {w : World} (hcache : w.cache = fun _ => none)
    (redis : Redis) :
    (p.run (Stmt.execRedis c env) (w, redis)).2.1 = (p.run (exec env) w).2 ∧
      (p.run (exec env) w).2.cache = fun _ => none := by
  have hstep : ∀ (s : Stmt) (v : World × Redis) (w : World), s.Cacheless →
      (v.1 = w ∧ w.cache = fun _ => none) →
      (s.execRedis c env v).1 = (exec env s w).1 ∧
        (s.execRedis c env v).2.1 = (exec env s w).2 ∧
          (exec env s w).2.cache = fun _ => none := by
    rintro s ⟨w, redis⟩ _ hs ⟨rfl, hcache⟩
    dsimp only at hcache ⊢
    by_cases hdelete : ∃ keys, s = .deleteCache keys
    · obtain ⟨keys, rfl⟩ := hdelete
      have hsame : (fun key => if key ∈ keys then none else w.cache key) = w.cache := by
        funext key
        rw [hcache]
        exact ite_self none
      have hexec : (exec env (.deleteCache keys) w).2 = w :=
        congrArg (fun cache => { w with cache := cache }) hsame
      rw [hexec]
      exact ⟨rfl, rfl, hcache⟩
    · have hcold := (exec_withCache env hs (fun keys h => hdelete ⟨keys, h⟩) w fun _ => none).1
      rw [← hcache] at hcold
      have hnone : (exec env s w).2.cache = fun _ => none := by
        have hcaches := congrArg (fun result => result.2.cache) hcold
        exact hcaches.trans hcache
      refine ⟨?_, ?_, hnone⟩
      · cases s with
        | getCache key => exact hs.elim
        | setCache key value => exact hs.elim
        | deleteCache keys => exact absurd ⟨keys, rfl⟩ hdelete
        | _ => rfl
      · cases s with
        | getCache key => exact hs.elim
        | setCache key value => exact hs.elim
        | deleteCache keys => exact absurd ⟨keys, rfl⟩ hdelete
        | _ => rfl
  exact (hp.run_related hstep ⟨rfl, hcache⟩).2

/-- What a step does to the users. -/
inductive World.Moves (env : Env) (w : World) : World → Prop
  | groups (groups : List Group) : Moves env w { w with db := { w.db with groups } }
  | event (e : Event) : Moves env w (w.after env e)

/-- What holds of the users throughout: they are sound, and their own caches are not used. -/
structure World.Uncached (w : World) : Prop where
  sound : w.Sound
  cache : w.cache = fun _ => none

theorem World.Seeded.uncached {w : World} (h : w.Seeded) : w.Uncached := ⟨h.sound, h.cache⟩

section Moves

variable {env : Env} {w w' : World} {u : UserId}

theorem World.Moves.sound (h : w.Moves env w') (hs : w.Sound) : w'.Sound := by
  cases h with
  | groups groups =>
    exact ⟨⟨⟨hs.db.nodup, hs.db.sessions, hs.db.activations, hs.db.loginLockouts, hs.db.fresh⟩,
      hs.orphans⟩, hs.accounts⟩
  | event e => exact hs.after env e

/-- Time does not run backwards. -/
theorem World.Moves.clock_le (h : w.Moves env w') (hs : w.Sound) : w.clock ≤ w'.clock := by
  cases h with
  | groups groups => exact le_rfl
  | event e => exact hs.clock_le_after env e

/-- The version of the access tokens of a user. -/
def World.tokenVersion (u : UserId) (w : World) : ℕ :=
  ((w.account u).map (·.session.accessTokenVersion)).getD 0

theorem World.tokenVersion_eq {acc : Account} (hacc : w.account u = some acc) :
    w.tokenVersion u = acc.session.accessTokenVersion := by
  unfold tokenVersion
  rw [hacc]
  rfl

/-- The version never goes down, and an account stays. -/
theorem World.Moves.account (h : w.Moves env w') (hs : w.Sound) {acc : Account}
    (hacc : w.account u = some acc) :
    ∃ acc', w'.account u = some acc' ∧
      acc.session.accessTokenVersion ≤ acc'.session.accessTokenVersion := by
  cases h with
  | groups groups => exact ⟨acc, hacc, le_rfl⟩
  | event e =>
    obtain ⟨acc', hacc', hevolves⟩ := hs.evolves env hacc e
    refine ⟨acc', hacc', ?_⟩
    rcases hevolves.accessTokenVersion hacc with ⟨-, hversion⟩ | ⟨-, hversion, -⟩
    · omega
    · omega

/-- What is live is the version of the account. -/
theorem World.Sound.tokenVersion_of_live (hs : w.Sound) {version : ℕ}
    (h : w.liveVersion u = some version) : w.tokenVersion u = version := by
  unfold liveVersion at h
  obtain ⟨user, huser, hlive⟩ := Option.bind_eq_some_iff.mp h
  split at hlive
  · obtain ⟨session, hsession, rfl⟩ := Option.map_eq_some_iff.mp hlive
    obtain ⟨acc, hacc, -⟩ := hs.account_of_user (Keyed.mem_of_get? huser)
    rw [show user.id = u from Keyed.key_of_get? huser] at hacc
    obtain ⟨-, hget, -⟩ := World.account_eq_some_iff.mp hacc
    rw [World.tokenVersion_eq hacc, Option.some.inj (hget.symm.trans hsession)]
  · cases hlive

end Moves

namespace Deployment

/-- **What an operation over Redis does to the users.** -/
theorem perform_moves (hw : d.app.world.Uncached) (code : ℕ) (operation : Operation) :
    d.app.world.Moves P.env (d.perform P c code operation).2.app.world ∧
      (d.perform P c code operation).2.app.world.cache = fun _ => none := by
  cases operation with
  | user r =>
    cases hr : r.isReader with
    | false =>
      obtain ⟨hworld, hcache⟩ := run_execRedis_uncached (c := c) P.env
        (Request.cacheless hr) hw.cache d.redis
      have hafter : (d.perform P c code (.user r)).2.app.world =
          d.app.world.after P.env (.request r) := hworld
      rw [hafter]
      exact ⟨.event _, hcache⟩
    | true =>
      have hsame : (d.perform P c code (.user r)).2.app.world = d.app.world :=
        run_execRedis_readsOnly P.env (Request.readsOnly hr) _ _
      rw [hsame]
      exact ⟨.groups d.app.world.db.groups, hw.cache⟩
  | group r => exact ⟨.groups _, hw.cache⟩
  | subject r => exact ⟨.groups d.app.world.db.groups, hw.cache⟩
  | getEmailById emailId | retryFailedEmail emailId =>
    exact ⟨.event (.outside (.tick _)), hw.cache⟩
  | listUsers r => exact ⟨.groups _, hw.cache⟩
  | _ => exact ⟨.groups d.app.world.db.groups, hw.cache⟩

/-- What an event over Redis does to the users. -/
theorem after_moves (hw : d.app.world.Uncached) (e : DeploymentEvent) :
    d.app.world.Moves P.env (d.after P c e).app.world ∧
      (d.after P c e).app.world.cache = fun _ => none := by
  cases e with
  | http req =>
    change d.app.world.Moves P.env (d.handle P c req).2.app.world ∧
      (d.handle P c req).2.app.world.cache = fun _ => none
    by_cases hp : ∃ h operation, d.Performs P c req h operation
    · obtain ⟨h, operation, hp⟩ := hp
      have hworld : (d.admitted P c req h).app.world = d.app.world :=
        congrArg (fun backend : Backend => backend.school.world) (beside_admitted req h).backend
      rw [hp.handle, ← hworld]
      exact perform_moves (hworld ▸ hw) h.statusCode operation
    · obtain ⟨-, hbeside, -⟩ := handle_refused fun h operation hperforms =>
        hp ⟨h, operation, hperforms⟩
      have hworld : (d.handle P c req).2.app.world = d.app.world :=
        congrArg (fun backend : Backend => backend.school.world) hbeside.backend
      rw [hworld]
      exact ⟨.groups d.app.world.db.groups, hw.cache⟩
  | tick elapsed => exact ⟨.event (.outside (.tick elapsed)), hw.cache⟩
  | evict key => exact ⟨.groups d.app.world.db.groups, hw.cache⟩
  | processBatch => exact ⟨.event (.outside (.tick _)), hw.cache⟩

theorem uncached_after (hw : d.app.world.Uncached) (e : DeploymentEvent) :
    (d.after P c e).app.world.Uncached := by
  obtain ⟨hmoves, hcache⟩ := after_moves (P := P) (c := c) hw e
  exact ⟨hmoves.sound hw.sound, hcache⟩

theorem uncached_run (hw : d.app.world.Uncached) (events : List DeploymentEvent) :
    (d.run P c events).app.world.Uncached :=
  Run.invariant' (I := fun d : Deployment => d.app.world.Uncached)
    (fun _ e hw => uncached_after hw e) hw events

theorem now_le_run (hw : d.app.world.Uncached) (events : List DeploymentEvent) :
    d.app.now ≤ (d.run P c events).app.now :=
  Run.generation_le (I := fun d : Deployment => d.app.world.Uncached)
    (fun _ e hw => uncached_after hw e) (fun _ e hw => (after_moves hw e).1.clock_le hw.sound)
    hw events

theorem tokenVersion_le_run (hw : d.app.world.Uncached) {u : UserId} {acc : Account}
    (hacc : d.app.world.account u = some acc) (events : List DeploymentEvent) :
    d.app.world.tokenVersion u ≤ (d.run P c events).app.world.tokenVersion u := by
  have hkept : ∀ (d : Deployment) e,
      (d.app.world.Uncached ∧ ∃ acc, d.app.world.account u = some acc) →
      (d.after P c e).app.world.Uncached ∧
        ∃ acc, (d.after P c e).app.world.account u = some acc := by
    rintro d e ⟨hw, acc, hacc⟩
    obtain ⟨acc', hacc', -⟩ := (after_moves (P := P) (c := c) hw e).1.account hw.sound hacc
    exact ⟨uncached_after hw e, acc', hacc'⟩
  have hstep : ∀ (d : Deployment) e,
      (d.app.world.Uncached ∧ ∃ acc, d.app.world.account u = some acc) →
      d.app.world.tokenVersion u ≤ (d.after P c e).app.world.tokenVersion u := by
    rintro d e ⟨hw, acc, hacc⟩
    obtain ⟨acc', hacc', hle⟩ := (after_moves (P := P) (c := c) hw e).1.account hw.sound hacc
    rw [World.tokenVersion_eq hacc, World.tokenVersion_eq hacc']
    exact hle
  exact Run.generation_le hkept hstep ⟨hw, acc, hacc⟩ events

end Deployment

/-! ### Revoked tokens -/

/-- A request that revokes the access tokens of the user. -/
def DeploymentEvent.Revokes (P : Platform) (c : Connection) (d : Deployment) (u : UserId) :
    DeploymentEvent → Prop
  | .http req => ∃ h r, d.Performs P c req h (.user r) ∧
      (Event.request r).Revokes P.env d.app.world u
  | _ => False

/-- A reader revokes nothing. -/
theorem not_isReader_of_revokes {env : Env} {w : World} {r : Request} {u : UserId}
    (h : (Event.request r).Revokes env w u) : r.isReader = false := by
  obtain ⟨-, acc, -, hrevoking⟩ := h
  cases r with
  | getCurrentUser | getTeacherByIdAdmin | getStudentByIdAdmin | getTeacherByIdDirector
  | getStudentByIdDirector | getMyProfile | getMyStudentProfile => exact hrevoking.elim
  | _ => rfl

namespace Deployment

/-- A revocation moves the version on. -/
theorem tokenVersion_of_revokes (hw : d.app.world.Uncached) {u : UserId} {e : DeploymentEvent}
    (h : e.Revokes P c d u) :
    ∃ acc, (d.after P c e).app.world.account u = some acc ∧
      (d.after P c e).app.world.tokenVersion u = d.app.world.tokenVersion u + 1 := by
  cases e with
  | http req =>
    obtain ⟨handler, r, hp, hrevokes⟩ := h
    have hworld : (d.admitted P c req handler).app.world = d.app.world :=
      congrArg (fun backend : Backend => backend.school.world)
        (beside_admitted req handler).backend
    have hafter : (d.after P c (.http req)).app.world = d.app.world.after P.env (.request r) := by
      change (d.handle P c req).2.app.world = _
      rw [hp.handle, ← hworld]
      exact (run_execRedis_uncached P.env
        (Request.cacheless (not_isReader_of_revokes hrevokes))
        (hworld ▸ hw.cache) (d.admitted P c req handler).redis).1
    obtain ⟨acc, hacc⟩ : ∃ acc, d.app.world.account u = some acc := by
      obtain ⟨-, acc, hacc, -⟩ := hrevokes
      exact ⟨acc, hacc⟩
    obtain ⟨acc', hacc', hevolves⟩ := hw.sound.evolves P.env hacc (.request r)
    rw [hafter]
    refine ⟨acc', hacc', ?_⟩
    rw [World.tokenVersion_eq hacc, World.tokenVersion_eq hacc']
    rcases hevolves.accessTokenVersion hacc with ⟨-, hversion⟩ | ⟨hno, -⟩
    · exact hversion
    · exact absurd hrevokes hno
  | _ => exact h.elim

/-- Who is let in bears what was the live version of an active account a short while ago. -/
theorem currentUser_recent {was : Chronicle} (hs : d.app.Recorded was)
    (ht : Redis.Traced c was d.redis.store) {user : CurrentUser}
    (h : (d.currentUser P c req).1 = .ok user) :
    ∃ token version, P.bearer.token req = some token ∧
      accessTokenSubject P.env d.app.now token = .ok (user.id, version, some user.role) ∧
      Redis.Recent was d.app.now (.user (.accessTokenVersionKey user.id))
        (.user (.version version)) := by
  unfold currentUser at h
  cases htoken : P.bearer.token req with
  | none =>
    rw [htoken] at h
    cases h
  | some token =>
    rw [htoken] at h
    dsimp only at h
    cases hout : (d.callUsers P c (getCurrentUser P.env token)).1 with
    | error e =>
      rw [hout] at h
      cases h
    | ok user' =>
      rw [hout] at h
      obtain rfl := Except.ok.inj h
      obtain ⟨version, hsubject, hrecent⟩ :=
        (getCurrentUser_recent P.env hs ht token).2 user' hout
      exact ⟨token, version, rfl, hsubject, hrecent⟩

/-- A guarded operation lets in only whom `get_current_user` returns. -/
theorem currentUser_of_performs {h : Handler} {operation : Operation}
    (hp : d.Performs P c req h operation) (hguarded : h.dependency ≠ .nobody) :
    ∃ user, (d.currentUser P c req).1 = .ok user := by
  obtain ⟨-, provided, -, hsolved, -⟩ := hp.routed
  generalize h.dependency = dependency at provided hsolved hguarded
  cases dependency with
  | nobody => exact absurd rfl hguarded
  | currentUser => exact ⟨provided, hsolved⟩
  | requireRoles roles =>
    change (d.currentUser P c req).1.bind _ = .ok provided at hsolved
    cases hresult : (d.currentUser P c req).1 with
    | error answer =>
      rw [hresult] at hsolved
      cases hsolved
    | ok user => exact ⟨user, rfl⟩

end Deployment

/-- **A revoked access token is refused five minutes later**: from an empty Redis and a seeded
database, whichever commands fail (the deletes of the revocation among them), when a request
revokes the tokens of a user, a later request to a guarded operation with a token of that user of
that time or before gets an error and changes no row, as soon as five minutes have passed. -/
theorem revoked_refused (P : Platform) (c : Connection) (d : Deployment)
    (hempty : d.redis.store = Ttl.Store.empty) (hseeded : d.app.world.Seeded)
    (pre post : List DeploymentEvent) (e : DeploymentEvent) (u : UserId)
    (hrevokes : e.Revokes P c (d.run P c pre) u) (req : HttpRequest) (token : String)
    (htoken : P.bearer.token req = some token) (version : ℕ) (role : Option UserRole)
    (hsubject : accessTokenSubject P.env (d.run P c (pre ++ e :: post)).app.now token =
      .ok (u, version, role))
    (hversion : version ≤ (d.run P c pre).app.world.tokenVersion u)
    (hlate : (d.run P c pre).app.now + (RedisKey.user (.accessTokenVersionKey u)).ttl ≤
      (d.run P c (pre ++ e :: post)).app.now)
    (h : Handler) (parameters : List String)
    (hrouted : Router.dispatch routes req.method req.path = .found h parameters)
    (hguarded : h.dependency ≠ .nobody) :
    400 ≤ ((d.run P c (pre ++ e :: post)).handle P c req).1.statusCode ∧
      (d.run P c (pre ++ e :: post)).Beside
        ((d.run P c (pre ++ e :: post)).handle P c req).2 := by
  suffices hno : ∀ h operation, ¬ (d.run P c (pre ++ e :: post)).Performs P c req h operation by
    obtain ⟨hcode, hbeside, -⟩ := Deployment.handle_refused hno
    exact ⟨hcode, hbeside⟩
  intro h' operation hp
  have hguarded' : h'.dependency ≠ .nobody := by
    obtain ⟨parameters', -, hrouted', -⟩ := hp.routed
    rw [hrouted] at hrouted'
    cases hrouted'
    exact hguarded
  obtain ⟨user, huser⟩ := Deployment.currentUser_of_performs hp hguarded'
  obtain ⟨token', version', htoken', hsubject', _, ⟨pre', post', hsplit, rfl, hvalue⟩, hexpires⟩ :=
    Deployment.currentUser_recent (Deployment.recorded_run P c d _)
      (Deployment.traced_run hempty _) huser
  cases htoken.symm.trans htoken'
  cases hsubject.symm.trans hsubject'
  have huncached : d.app.world.Uncached := hseeded.uncached
  -- The entry was set before the revocation, and has expired; or after it, with a newer version.
  have hbefore : ∀ rest, pre ≠ pre' ++ rest := by
    intro rest hpre
    have hle := Deployment.now_le_run (P := P) (c := c)
      (Deployment.uncached_run (P := P) (c := c) huncached pre') rest
    unfold Deployment.run at hle hlate hexpires
    rw [← Run.run_append, ← hpre] at hle
    exact absurd (Nat.lt_of_lt_of_le hexpires (Nat.add_le_add_right hle _)) (Nat.not_lt.mpr hlate)
  rcases List.append_eq_append_iff.mp hsplit with ⟨rest, hpre', hrest⟩ | ⟨rest, hpre, -⟩
  · cases rest with
    | nil =>
      rw [List.append_nil] at hpre'
      exact hbefore [] (by rw [List.append_nil, hpre'])
    | cons e' rest =>
      obtain ⟨rfl, -⟩ := List.cons.inj hrest
      obtain ⟨version', hlive, hsame⟩ := Option.map_eq_some_iff.mp hvalue
      obtain ⟨version'', hlive', rfl⟩ := Option.map_eq_some_iff.mp hlive
      cases hsame
      have hd₁ := Deployment.uncached_run (P := P) (c := c) huncached pre
      have hrun : d.run P c pre' = ((d.run P c pre).after P c e).run P c rest := by
        rw [hpre']
        exact Run.run_append _ _ _
      obtain ⟨acc, hacc, hmoved⟩ := Deployment.tokenVersion_of_revokes hd₁ hrevokes
      have hle := Deployment.tokenVersion_le_run (P := P) (c := c)
        (Deployment.uncached_after hd₁ e) hacc rest
      have hcurrentVersion := (Deployment.uncached_run (P := P) (c := c) huncached
        pre').sound.tokenVersion_of_live hlive'
      rw [← hrun, hmoved, hcurrentVersion] at hle
      omega
  · exact hbefore rest hpre

/-- The principal logs out. -/
def logoutPrincipal : HttpRequest where
  method := .post
  path := ["auth", "logout"]
  query := ""
  authorization := some ("Bearer " ++ tokensPrincipal.accessToken)
  refreshToken := none
  refreshTokenFamily := none
  body := ""
  remoteAddress := "10.0.0.1"

/-- The state in which she logs out: she has logged in and created a group. -/
def Deployment.beforeLogout : Deployment :=
  Deployment.concrete.run .concrete (.losing 3) [.http loginPrincipal, .http createGroupPrincipal]

/-- Her logout reaches the service, and revokes her tokens. -/
theorem logoutPrincipal_revokes :
    (DeploymentEvent.http logoutPrincipal).Revokes .concrete (.losing 3) .beforeLogout 1 := by
  refine ⟨.logout, .logout 1, ⟨by decide +kernel, ?_, by decide +kernel⟩, rfl, ?_⟩
  · have hsolved : (Deployment.beforeLogout.currentUser .concrete (.losing 3)
        logoutPrincipal).1.toOption = some ⟨1, .systemAdmin⟩ := by decide +kernel
    refine ⟨[], (⟨1, .systemAdmin⟩ : CurrentUser), by decide +kernel, ?_, rfl⟩
    change (Deployment.beforeLogout.currentUser .concrete (.losing 3) logoutPrincipal).1 = _
    generalize (Deployment.beforeLogout.currentUser .concrete (.losing 3) logoutPrincipal).1 = out
      at hsolved ⊢
    cases out with
    | error answer => cases hsolved
    | ok user =>
      cases hsolved
      rfl
  · have hthere : (Deployment.beforeLogout.app.world.account 1).isSome = true := by decide +kernel
    obtain ⟨acc, hacc⟩ := Option.isSome_iff_exists.mp hthere
    refine ⟨acc, hacc, ?_⟩
    have hout : Deployment.beforeLogout.app.world.respond Platform.concrete.env (.logout 1) =
        .ok .none := by decide +kernel
    rw [hout]
    trivial

/-- Redis loses the delete of her logout; five minutes later her token is refused. -/
theorem revoked_refused_concrete :
    400 ≤ ((Deployment.concrete.run .concrete (.losing 3)
      [.http loginPrincipal, .http createGroupPrincipal, .http logoutPrincipal,
        .tick (Time.minutes 5)]).handle .concrete (.losing 3) createGroupPrincipal).1.statusCode :=
  (revoked_refused .concrete (.losing 3) .concrete rfl School.concrete_seeded.world
    [.http loginPrincipal, .http createGroupPrincipal] [.tick (Time.minutes 5)]
    (.http logoutPrincipal) 1 logoutPrincipal_revokes createGroupPrincipal
    tokensPrincipal.accessToken token_createGroupPrincipal 1 (some .systemAdmin)
    (by decide +kernel) (by decide +kernel) (by decide +kernel) .createGroup []
    (by decide +kernel) (by decide)).1

end SmsLite
