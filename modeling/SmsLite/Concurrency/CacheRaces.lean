import SmsLite.Concurrency.Pools
import SmsLite.Concrete
import Mathlib.Data.Fintype.Basic

/-!
# Races for a cached version

`get_current_user` asks the cache for the version of a user, and on a miss reads the row
and fills the cache with what it has read.  A revocation raises the version in the row and
deletes the cached one.  Neither waits for the other, so the fill may come after the
deletion and put an old version back, and of two revocations that read the same row the
slower one may write a version below the stored one.  This module says when a revoked
access token is refused from the moment the revocation has returned.

## Main definitions

* `VersionsAscend` — no fill and no commit takes a version back.
* `Versions` — what every revocation knows of the row and of the cache.
* `Informed` — what a request that starts after a revocation knows.

## Main results

* `Db.commit_version` — what a commit makes of the stored version.
* `accessToken_revoked_serveAll` — **under `VersionsAscend` a token is refused once its
  revocation has returned**, and `accessToken_cached_stale`: without it, it is accepted.
-/

namespace SmsLite

open Interleave

variable {ι : Type} {env : Env} {w : World}

/-! ### Versions that do not go back -/

/-- The version a statement puts into the cache. -/
def Stmt.fill? : Stmt → Option (UserId × ℕ)
  | .setCache (.accessTokenVersionKey id) (.version v) => some (id, v)
  | _ => none

/-- The version a statement commits. -/
def Stmt.raise? : Stmt → Option (UserId × ℕ)
  | .commit work => work.raised?
  | _ => none

/-- The cache is not filled with a version below one whose revocation has deleted the cached
one, and no version is committed below the stored one. -/
def VersionsAscend (p : Pool Stmt Stmt.Reply Exn Response World ι AdvisoryLock) (c : ι → Tx) :
    Label ι Outside → Prop
  | .run i =>
    (∀ fill ∈ (p.prog i).head?.bind Stmt.fill?, ∀ j, ∀ raised ∈ (c j).raised?,
      raised.1 = fill.1 → (c j).dropped = true → raised.2 ≤ fill.2) ∧
    ∀ raise ∈ (p.prog i).head?.bind Stmt.raise?,
      ∀ s ∈ Keyed.get? p.world.db.sessions raise.1, s.accessTokenVersion ≤ raise.2
  | .env _ => True

instance [Fintype ι] (p : Pool Stmt Stmt.Reply Exn Response World ι AdvisoryLock)
    (c : ι → Tx) : (l : Label ι Outside) → Decidable (VersionsAscend p c l)
  | .run i =>
    inferInstanceAs (Decidable
      ((∀ fill ∈ (p.prog i).head?.bind Stmt.fill?, ∀ j, ∀ raised ∈ (c j).raised?, _) ∧
        ∀ raise ∈ (p.prog i).head?.bind Stmt.raise?,
          ∀ s ∈ Keyed.get? p.world.db.sessions raise.1, _))
  | .env _ => isTrue trivial

/-- **What a commit makes of the stored version**: the one it raises it to, or the same. -/
theorem Db.commit_version {c : Tx} {db db' : Db} {now : Time} {work : UnitOfWork}
    (hmay : c.MayCommit env work) (h : db.commit now work = .ok db') {u : UserId}
    {s : UserSession} (hs : Keyed.get? db.sessions u = some s) :
    ∃ s', Keyed.get? db'.sessions u = some s' ∧
      (work.raised? = some (u, s'.accessTokenVersion) ∨
        (∀ v, work.raised? ≠ some (u, v)) ∧ s'.accessTokenVersion = s.accessTokenVersion) := by
  by_cases hraised : ∃ v, work.raised? = some (u, v)
  · obtain ⟨v, hv⟩ := hraised
    obtain ⟨l, d, mails, s₀, s₁, rfl, rfl, hs₀, hs₁, hne, rfl⟩ := UnitOfWork.raised?_eq_some.mp hv
    have hrow := Db.commit_own_session h hs₀ hs₁
    rw [hs, Option.map_some] at hrow
    have hversion : (UserSession.write s₀ s₁ s).accessTokenVersion = s₁.accessTokenVersion :=
      written_of_ne _ hne
    exact ⟨_, hrow, Or.inl (by rw [hversion, hv])⟩
  · have hnone : ∀ v, work.raised? ≠ some (u, v) := fun v hv => hraised ⟨v, hv⟩
    rcases Db.commit_session hmay h u with
      hsame | ⟨l, d, mails, s₀, s₁, rfl, rfl, hs₀, hs₁, -, hwrite⟩ | ⟨hno, -⟩
    · exact ⟨s, hsame.trans hs, Or.inr ⟨hnone, rfl⟩⟩
    · have hkept : s₁.accessTokenVersion = s₀.accessTokenVersion := by
        by_contra hne
        exact hraised ⟨_, UnitOfWork.raised?_eq_some.mpr
          ⟨l, d, mails, s₀, s₁, rfl, rfl, hs₀, hs₁, hne, rfl⟩⟩
      rw [hs, Option.map_some] at hwrite
      refine ⟨_, hwrite, Or.inr ⟨hnone, ?_⟩⟩
      simp [UserSession.write, hkept]
    · rw [hs] at hno
      cases hno

section

variable [DecidableEq ι]

/-! ### What a revocation knows -/

/-- What every revocation knows: the row has not gone back below its version, and neither has
the cache since it deleted the entry. -/
structure Versions (w : World) (_owner : AdvisoryLock → Option ι) (c : ι → Tx) : Prop where
  stored : ∀ j u v, (c j).raised? = some (u, v) →
    ∃ s, Keyed.get? w.db.sessions u = some s ∧ v ≤ s.accessTokenVersion
  cached : ∀ j u v, (c j).raised? = some (u, v) → (c j).dropped = true →
    ∀ v', w.cache (.accessTokenVersionKey u) = some (.version v') → v ≤ v'

/-- A step that raises no version, deletes none and fills none. -/
theorem Versions.idles {w' : World} {owner owner' : AdvisoryLock → Option ι} {c : ι → Tx} {i : ι}
    {c' : Tx} (h : Versions w owner c) (hraised : c'.raised? = (c i).raised?)
    (hdropped : c'.dropped = (c i).dropped) (hsessions : w'.db.sessions = w.db.sessions)
    (hcache : w'.cache = w.cache) : Versions w' owner' (Function.update c i c') := by
  have hkeep : ∀ j, (Function.update c i c' j).raised? = (c j).raised? ∧
      (Function.update c i c' j).dropped = (c j).dropped := by
    intro j
    by_cases hji : j = i
    · subst hji
      rw [Function.update_self]
      exact ⟨hraised, hdropped⟩
    · rw [Function.update_of_ne hji]
      exact ⟨rfl, rfl⟩
  refine ⟨fun j u v hj => ?_, fun j u v hj hdrop => ?_⟩
  · rw [(hkeep j).1] at hj
    rw [hsessions]
    exact h.stored j u v hj
  · rw [(hkeep j).1] at hj
    rw [(hkeep j).2] at hdrop
    rw [hcache]
    exact h.cached j u v hj hdrop

/-- A commit raises the stored version or leaves it. -/
theorem Versions.commits {d₀ : ℕ} {owner owner' : AdvisoryLock → Option ι} {c : ι → Tx} {i : ι}
    {work : UnitOfWork} {db' : Db} (h : Versions w owner c) (htracked : (c i).Tracked env d₀ w)
    (hpending : (c i).Pending) (hmay : (c i).MayCommit env work)
    (hcommit : w.db.commit w.clock work = .ok db')
    (hascends : ∀ raise ∈ work.raised?, ∀ s ∈ Keyed.get? w.db.sessions raise.1,
      s.accessTokenVersion ≤ raise.2) :
    Versions { w with db := db' } owner' (Function.update c i ((c i).commit work)) := by
  refine ⟨fun j u v hj => ?_, fun j u v hj hdropped => ?_⟩
  · by_cases hji : j = i
    · subst hji
      rw [Function.update_self] at hj
      have hraised : work.raised? = some (u, v) := hj
      -- A commit that raises a version writes the session it has loaded.
      obtain ⟨l, d, mails, s, s', rfl, rfl, hs, -⟩ := UnitOfWork.raised?_eq_some.mp hraised
      obtain ⟨r, hr⟩ := htracked.loadedSession l s hmay.1 hs
      obtain ⟨r', hr', hversion | ⟨hno, -⟩⟩ := Db.commit_version hmay hcommit hr
      · rw [hraised] at hversion
        cases hversion
        exact ⟨r', hr', le_rfl⟩
      · exact absurd hraised (hno v)
    · rw [Function.update_of_ne hji] at hj
      -- Another commit has raised the version before: by assumption this one does not take it back.
      obtain ⟨r, hr, hle⟩ := h.stored j u v hj
      obtain ⟨r', hr', hversion | ⟨-, hkept⟩⟩ := Db.commit_version hmay hcommit hr
      · exact ⟨r', hr', le_trans hle (hascends _ hversion r hr)⟩
      · exact ⟨r', hr', hkept ▸ hle⟩
  · by_cases hji : j = i
    · -- It has not deleted anything before its commit.
      subst hji
      rw [Function.update_self] at hdropped
      have hdropped : (c j).dropped = true := hdropped
      rw [htracked.dropped hpending.1] at hdropped
      cases hdropped
    · rw [Function.update_of_ne hji] at hj hdropped
      exact h.cached j u v hj hdropped

omit [DecidableEq ι] in
/-- A fill that does not go back. -/
theorem Versions.fills {owner : AdvisoryLock → Option ι} {c : ι → Tx} {key : CacheKey}
    {value : CacheValue} (h : Versions w owner c)
    (hascends : ∀ fill ∈ (Stmt.setCache key value).fill?, ∀ j, ∀ raised ∈ (c j).raised?,
      raised.1 = fill.1 → (c j).dropped = true → raised.2 ≤ fill.2) :
    Versions { w with cache := Function.update w.cache key (some value) } owner c where
  stored := h.stored
  cached j u v hj hdropped v' hv' := by
    by_cases hkey : key = .accessTokenVersionKey u
    · subst hkey
      rw [show value = .version v' by simpa using hv'] at hascends
      exact hascends (u, v') rfl j (u, v) hj rfl hdropped
    · refine h.cached j u v hj hdropped v' ?_
      rw [← hv']
      exact (Function.update_of_ne (Ne.symm hkey) _ _).symm

/-- Deleting entries. -/
theorem Versions.drops {d₀ : ℕ} {owner : AdvisoryLock → Option ι} {c : ι → Tx} {i : ι}
    {keys : List CacheKey} (h : Versions w owner c) (htracked : (c i).Tracked env d₀ w) :
    Versions { w with cache := fun key => if key ∈ keys then none else w.cache key } owner
      (Function.update c i { c i with dropped := (c i).dropped || (c i).drops keys }) := by
  have hraised : ∀ j, (Function.update c i
      { c i with dropped := (c i).dropped || (c i).drops keys } j).raised? = (c j).raised? := by
    intro j
    by_cases hji : j = i
    · subst hji
      rw [Function.update_self]
      rfl
    · rw [Function.update_of_ne hji]
  refine ⟨fun j u v hj => h.stored j u v (hraised j ▸ hj), fun j u v hj hdropped v' hv' => ?_⟩
  rw [hraised] at hj
  simp only at hv'
  split at hv'
  · cases hv'
  · next hkey =>
    refine h.cached j u v hj ?_ v' hv'
    by_cases hji : j = i
    · subst hji
      rw [Function.update_self] at hdropped
      -- The entry was not among the deleted ones, so the deletion is not this one.
      have hnot : (c j).drops keys = false := by
        obtain ⟨work, hwork, hraise⟩ := Option.bind_eq_some_iff.mp hj
        obtain ⟨l, d, mails, s, s', rfl, rfl, -⟩ := UnitOfWork.raised?_eq_some.mp hraise
        have hloaded := htracked.committed l d mails hwork
        simp [Tx.drops, hloaded, hkey]
      simpa [hnot] using hdropped
    · rwa [Function.update_of_ne hji] at hdropped

/-- One step of the whole. -/
theorem Versions.moves {d₀ : ℕ} {p : Pool Stmt Stmt.Reply Exn Response World ι AdvisoryLock}
    {c : ι → Tx} {i : ι} {s : Stmt} {k : s.Reply → Service Response} {w' : World}
    {owner' : AdvisoryLock → Option ι} {c' : Tx} (h : Versions p.world p.owner c)
    (htracks : Tracks env d₀ p.world p.owner c) (hp : p.prog i = .stmt s k)
    (hallowed : (c i).allowed env s) (hok : VersionsAscend p c (.run i))
    (hm : Tx.Moves env i p.world p.owner (c i) s w' owner' c') :
    Versions w' owner' (Function.update c i c') := by
  have hhead : (p.prog i).head? = some s := by
    rw [hp]
    rfl
  simp only [VersionsAscend, hhead, Option.bind_some] at hok
  obtain ⟨hfill, hraise⟩ := hok
  cases hm with
  | commits work db' hcommit =>
    exact h.commits (htracks.each i) hallowed.1 hallowed.2 hcommit hraise
  | fills key value =>
    rw [Function.update_eq_self]
    exact h.fills hfill
  | drops keys => exact h.drops (htracks.each i)
  | rollsBack => exact h.idles rfl rfl rfl rfl
  | locks lock => exact h.idles rfl rfl rfl rfl
  | clears contact exclude => exact h.idles rfl rfl rfl rfl
  | reads _ l => exact h.idles rfl rfl rfl rfl
  | draws => exact h.idles rfl rfl rfl rfl
  | asks id => exact h.idles rfl rfl rfl rfl
  | idles _ _ _ hsessions hcache => exact h.idles rfl rfl hsessions hcache

omit [DecidableEq ι] in
/-- What is cached after an entry has expired was cached before. -/
theorem World.cache_expire {key key' : CacheKey} {value : CacheValue}
    (h : (outside (.expire key) w).cache key' = some value) : w.cache key' = some value := by
  by_cases hkey : key' = key
  · subst hkey
    simp [outside] at h
  · rw [← h]
    exact (Function.update_of_ne hkey _ _).symm

/-- **Versions ascend in every interleaving in which no step takes one back.** -/
theorem versions_inductive (env : Env) (d₀ : ℕ) :
    Pool.Inductive (machine env) (protocol env) (Tx.Post env) Tx.close VersionsAscend
      fun w owner c => Tracks (ι := ι) env d₀ w owner c ∧ Versions w owner c := by
  refine Tracks.conj ?_ ?_ ?_
  · intro p c i s k w' owner' c' htracks h hp hallowed _ hok hm
    exact h.moves htracks hp hallowed hok hm
  · exact fun w owner c i r _ h => h.idles rfl rfl rfl rfl
  · intro w owner c o h
    cases o with
    | tick d => exact ⟨h.stored, h.cached⟩
    | expire key =>
      exact ⟨h.stored, fun j u v hj hdropped v' hv' =>
        h.cached j u v hj hdropped v' (World.cache_expire hv')⟩

/-! ### Requests that start later -/

/-- What a request `i` that starts after the revocation `j` knows: no version below the one
the revocation has written. -/
structure Informed (env : Env) (j i : ι) (u : UserId) (v : ℕ) (_w : World)
    (_owner : AdvisoryLock → Option ι) (c : ι → Tx) : Prop where
  raised : (c j).raised? = some (u, v)
  dropped : (c j).dropped = true
  reader : (c i).request.userId? env = some u
  byId : (c i).request.byUsername = false
  cached : ∀ v', (c i).cached = some (.version v') → v ≤ v'
  loaded : ∀ l s, (c i).loaded = some l → l.session = some s → v ≤ s.accessTokenVersion

/-- What a request that starts later finds in the cache. -/
theorem Informed.asks {j i : ι} {u : UserId} {v : ℕ} {w' : World}
    {owner owner' : AdvisoryLock → Option ι} {c : ι → Tx} {s : Stmt} {c' : Tx}
    (h : Informed env j i u v w owner c) (hversions : Versions w owner c)
    (hallowed : (c i).allowed env s) (hm : Tx.Moves env i w owner (c i) s w' owner' c') {v' : ℕ}
    (hv' : c'.cached = some (.version v')) : v ≤ v' := by
  cases hm with
  | asks id =>
    obtain rfl : u = id := by
      have hid : (c i).request.userId? env = some id := hallowed
      rw [h.reader] at hid
      exact Option.some.inj hid
    exact hversions.cached j u v h.raised h.dropped v' hv'
  | _ => exact h.cached v' hv'

/-- What it finds in the row. -/
theorem Informed.reads {j i : ι} {u : UserId} {v : ℕ} {w' : World}
    {owner owner' : AdvisoryLock → Option ι} {c : ι → Tx} {s : Stmt} {c' : Tx}
    (h : Informed env j i u v w owner c) (hversions : Versions w owner c)
    (hallowed : (c i).allowed env s) (hm : Tx.Moves env i w owner (c i) s w' owner' c')
    {l : Loaded} {r : UserSession} (hl : c'.loaded = some l) (hr : l.session = some r) :
    v ≤ r.accessTokenVersion := by
  cases hm with
  | reads _ l' hquery hshows hid =>
    cases hl
    have hlu : l.user.id = u := by
      cases s with
      | selectUserById id q =>
        have hallowed : (c i).request.userId? env = some id := hallowed
        rw [h.reader] at hallowed
        rw [hid id q rfl]
        exact (Option.some.inj hallowed).symm
      | selectUserByUsername username q =>
        have hname : (c i).request.byUsername = true := hallowed
        rw [h.byId] at hname
        cases hname
      | _ => cases hquery
    obtain ⟨r', hr', hle⟩ := hversions.stored j u v h.raised
    have hrow := hshows.session hr
    rw [hlu, hr'] at hrow
    cases hrow
    exact hle
  | _ => exact h.loaded l r hl hr

/-- One step of the whole. -/
theorem Informed.moves {j i m : ι} {u : UserId} {v : ℕ} {w' : World}
    {owner owner' : AdvisoryLock → Option ι} {c : ι → Tx} {s : Stmt} {c' : Tx}
    (h : Informed env j i u v w owner c) (hversions : Versions w owner c)
    (hallowed : (c m).allowed env s) (hm : Tx.Moves env m w owner (c m) s w' owner' c') :
    Informed env j i u v w' owner' (Function.update c m c') := by
  have hraised : (Function.update c m c' j).raised? = some (u, v) ∧
      (Function.update c m c' j).dropped = true := by
    by_cases hj : j = m
    · subst hj
      rw [Function.update_self]
      rcases hm.commits_or hallowed with ⟨work, -, -, -, -, -, hpending, -⟩ | ⟨-, -, hlater⟩
      · -- It has committed before, and no request commits twice.
        have hno := Tx.raised?_of_not_committed hpending.1
        rw [h.raised] at hno
        cases hno
      · rw [Tx.raised?, hlater.committed]
        exact ⟨h.raised, hlater.dropped h.dropped⟩
    · rw [Function.update_of_ne hj]
      exact ⟨h.raised, h.dropped⟩
  by_cases hi : i = m
  · subst hi
    have hrequest : c'.request = (c i).request := by
      rcases hm.commits_or hallowed with ⟨_, _, -, -, -, rfl, -⟩ | ⟨-, -, hlater⟩
      · rfl
      · exact hlater.request
    refine ⟨hraised.1, hraised.2, ?_, ?_, ?_, ?_⟩
    · rw [Function.update_self, hrequest]
      exact h.reader
    · rw [Function.update_self, hrequest]
      exact h.byId
    · rw [Function.update_self]
      exact fun v' => h.asks hversions hallowed hm
    · rw [Function.update_self]
      exact fun l r => h.reads hversions hallowed hm
  · refine ⟨hraised.1, hraised.2, ?_, ?_, ?_, ?_⟩ <;> rw [Function.update_of_ne hi]
    · exact h.reader
    · exact h.byId
    · exact h.cached
    · exact h.loaded

/-- **A request that starts later stays informed.** -/
theorem informed_inductive (env : Env) (d₀ : ℕ) (j i : ι) (u : UserId) (v : ℕ) :
    Pool.Inductive (machine env) (protocol env) (Tx.Post env) Tx.close VersionsAscend
      fun w owner c => (Tracks env d₀ w owner c ∧ Versions w owner c) ∧
        Informed env j i u v w owner c := by
  refine (versions_inductive env d₀).conj (fun _ _ _ hok => hok) ?_ ?_ ?_
  · intro p c m s k hinv h _ hallowed _ _
    exact h.moves hinv.2 hallowed (Tx.moves env m p.world p.owner (c m) s)
  · intro w owner c m r _ h _
    -- Ending a request touches nothing that the invariant speaks of.
    have hkeep : ∀ k, ∃ c', Function.update c m ((c m).close r) k = c' ∧
        c'.raised? = (c k).raised? ∧ c'.dropped = (c k).dropped ∧
        c'.request = (c k).request ∧ c'.cached = (c k).cached ∧ c'.loaded = (c k).loaded := by
      intro k
      by_cases hk : k = m
      · subst hk
        exact ⟨_, Function.update_self _ _ _, rfl, rfl, rfl, rfl, rfl⟩
      · exact ⟨_, Function.update_of_ne hk _ _, rfl, rfl, rfl, rfl, rfl⟩
    obtain ⟨cj, hj, hraised, hdropped, -⟩ := hkeep j
    obtain ⟨ci, hi, -, -, hrequest, hcached, hloaded⟩ := hkeep i
    refine ⟨?_, ?_, ?_, ?_, ?_, ?_⟩
    · rw [hj, hraised]
      exact h.raised
    · rw [hj, hdropped]
      exact h.dropped
    · rw [hi, hrequest]
      exact h.reader
    · rw [hi, hrequest]
      exact h.byId
    · rw [hi, hcached]
      exact h.cached
    · rw [hi, hloaded]
      exact h.loaded
  · exact fun w owner c o h => ⟨h.raised, h.dropped, h.reader, h.byId, h.cached, h.loaded⟩

omit [DecidableEq ι] in
/-- Requests that have all just arrived have raised no version. -/
theorem Versions.start (env : Env) (w : World) (requests : ι → Request) :
    Versions w (fun _ => none) (Request.histories env requests) := by
  have hnone : ∀ j, (Request.histories env requests j).raised? = none :=
    fun j => Tx.raised?_of_not_committed (Request.histories_blank env requests j).committed
  constructor
  · intro j u v hraised
    rw [hnone] at hraised
    cases hraised
  · intro j u v hraised
    rw [hnone] at hraised
    cases hraised

/-- **A revoked access token is refused from the moment its revocation has returned**: in any
pool of requests, if `j` has returned and has raised the version of the user to `v`, and the
reader `i` has not made a step before that, then `i` does not accept a token with a version
below `v`, provided that no step takes a version back. -/
theorem accessToken_revoked_serveAll (env : Env) (w : World) (requests : ι → Request)
    (hids : (Keyed.keys w.db.users).Nodup) {j i : ι} (before after : Schedule ι)
    (hok : w.Always env requests VersionsAscend (before ++ after))
    {q p : Pool Stmt Stmt.Reply Exn Response World ι AdvisoryLock}
    (hq : w.serveAll env requests before = some q)
    (hp : w.serveAll env requests (before ++ after) = some p) {out : Outcome}
    (hreturned : (q.prog j).result? = some out) {u : UserId} {v : ℕ}
    (hraised : (w.histories env requests before j).raised? = some (u, v))
    (hstarts : Label.run i ∉ before) {token : String} {claims : Claims} {version : ℕ}
    (hi : requests i = .getCurrentUser token) (hdecode : env.jose.decode token = some claims)
    (hsub : claims.sub = some u) (hversion : claims.version = some version) (hold : version < v)
    (response : Response) : (p.prog i).result? ≠ some (.ok response) := by
  intro hresult
  obtain ⟨q', hq', hafter, hfinal⟩ := World.serveAll_append hp
  obtain rfl := Option.some.inj (hq.symm.trans hq')
  obtain ⟨hbefore, hlast⟩ := Pool.always_append hq hok
  -- When the revocation returns, the versions ascend and the reader knows nothing.
  obtain ⟨hinv, hconforms⟩ := World.serveAll_invariant (versions_inductive env w.draws)
    ⟨.start env requests hids, .start env w requests⟩ hbefore hq
  have hunread : w.histories env requests before i = Request.histories env requests i :=
    (Pool.exec_unscheduled hq hstarts).2
  have hinformed : Informed env j i u v q.world q.owner (w.histories env requests before) := by
    have hrequest : (w.histories env requests before i).request = .getCurrentUser token := by
      rw [World.histories_request, hi]
    have hblank := Request.histories_blank env requests i
    refine ⟨hraised, (hconforms.answered hreturned).1 (by simp [hraised]), ?_, ?_, ?_, ?_⟩
    · rw [hrequest]
      simp [Request.userId?, hdecode, hsub]
    · rw [hrequest]
      rfl
    · simp [hunread, hblank.cached]
    · simp [hunread, hblank.loaded]
  -- From then on it reads no version below.
  obtain ⟨⟨-, hinformed'⟩, hconforms'⟩ := Pool.exec_invariant
    (informed_inductive env w.draws j i u v) ⟨hinv, hinformed⟩ hconforms hlast hafter
  rw [← hfinal] at hinformed' hconforms'
  have hanswers := (Conforms.answered hconforms' hresult).2.2 response rfl
  rw [Tx.Answers, World.histories_request, hi] at hanswers
  obtain ⟨claims', version', hdecode', hversion', hread⟩ := hanswers
  rw [hdecode] at hdecode'
  cases hdecode'
  rw [hversion] at hversion'
  cases hversion'
  have hle : v ≤ version := by
    rcases hread with hcached | ⟨l, s, hl, hs, rfl⟩
    · exact hinformed'.cached version hcached
    · exact hinformed'.loaded l s hl hs
  omega

/-- Ada uses her access token, logs out, and uses it again. -/
def useLogoutUse : Fin 3 → Request
  | 0 => .getCurrentUser tokensAda.accessToken
  | 1 => .logout 2
  | 2 => .getCurrentUser tokensAda.accessToken

/-- The first use fills the cache before the logout deletes the entry: the second use is
refused. -/
theorem accessToken_revoked_concrete :
    ∃ p, (World.concrete.after Env.concrete loginAda).serveAll Env.concrete useLogoutUse
        ((List.replicate 4 (.run 0) ++ List.replicate 3 (.run 1)) ++
          List.replicate 3 (.run 2)) = some p ∧
      (p.prog 0).result? = some (.ok (.currentUser { id := 2, role := .student })) ∧
      (p.prog 1).result? = some (.ok .none) ∧
      ∀ response, (p.prog 2).result? ≠ some (.ok response) := by
  have hlogout : ((World.concrete.after Env.concrete loginAda).serveAll Env.concrete useLogoutUse
      (List.replicate 4 (.run 0) ++ List.replicate 3 (.run 1))).map
        (fun p => (p.prog 1).result?) = some (some (.ok .none)) := by decide +kernel
  have hsome : ((World.concrete.after Env.concrete loginAda).serveAll Env.concrete useLogoutUse
      ((List.replicate 4 (.run 0) ++ List.replicate 3 (.run 1)) ++
        List.replicate 3 (.run 2))).map (fun p => ((p.prog 0).result?, (p.prog 1).result?)) =
      some (some (.ok (.currentUser { id := 2, role := .student })), some (.ok .none)) := by
    decide +kernel
  obtain ⟨q, hq, hreturned⟩ := Option.map_eq_some_iff.mp hlogout
  obtain ⟨p, hp, hresults⟩ := Option.map_eq_some_iff.mp hsome
  obtain ⟨hfirst, hsecond⟩ := Prod.mk.inj hresults
  have hascend : (World.concrete.after Env.concrete loginAda).Always Env.concrete useLogoutUse
      VersionsAscend ((List.replicate 4 (.run 0) ++ List.replicate 3 (.run 1)) ++
        List.replicate 3 (.run 2)) := by
    unfold World.Always
    decide +kernel
  have hclaims : Env.concrete.jose.decode tokensAda.accessToken =
      some (accessClaims Env.concrete 0 2 .student 1) := by decide +kernel
  exact ⟨p, hp, hfirst, hsecond, accessToken_revoked_serveAll Env.concrete _ useLogoutUse
    (by decide +kernel) (List.replicate 4 (.run 0) ++ List.replicate 3 (.run 1))
    (List.replicate 3 (.run 2)) hascend hq hp hreturned (u := 2) (v := 2) (by decide +kernel)
    (by decide) rfl hclaims rfl rfl (by decide)⟩

/-- **Without it, a revoked access token is accepted**: the first use reads the row, the
logout runs from beginning to end, the first use fills the cache with the version it has
read, and the second use, which starts after all this, finds it there. -/
theorem accessToken_cached_stale :
    ∃ q p, (World.concrete.after Env.concrete loginAda).serveAll Env.concrete useLogoutUse
        (List.replicate 3 (.run 0) ++ List.replicate 3 (.run 1)) = some q ∧
      (World.concrete.after Env.concrete loginAda).serveAll Env.concrete useLogoutUse
        ((List.replicate 3 (.run 0) ++ List.replicate 3 (.run 1)) ++ [.run 0, .run 2, .run 2]) =
          some p ∧
      (q.prog 1).result? = some (.ok .none) ∧
      ((World.concrete.after Env.concrete loginAda).histories Env.concrete useLogoutUse
        (List.replicate 3 (.run 0) ++ List.replicate 3 (.run 1)) 1).raised? = some (2, 2) ∧
      Env.concrete.jose.decode tokensAda.accessToken =
        some (accessClaims Env.concrete 0 2 .student 1) ∧
      (p.prog 2).result? = some (.ok (.currentUser { id := 2, role := .student })) := by
  have hlogout : ((World.concrete.after Env.concrete loginAda).serveAll Env.concrete useLogoutUse
      (List.replicate 3 (.run 0) ++ List.replicate 3 (.run 1))).map
        (fun p => (p.prog 1).result?) = some (some (.ok .none)) := by decide +kernel
  have hsome : ((World.concrete.after Env.concrete loginAda).serveAll Env.concrete useLogoutUse
      ((List.replicate 3 (.run 0) ++ List.replicate 3 (.run 1)) ++
        [.run 0, .run 2, .run 2])).map (fun p => (p.prog 2).result?) =
      some (some (.ok (.currentUser { id := 2, role := .student }))) := by decide +kernel
  obtain ⟨q, hq, hreturned⟩ := Option.map_eq_some_iff.mp hlogout
  obtain ⟨p, hp, haccepted⟩ := Option.map_eq_some_iff.mp hsome
  exact ⟨q, p, hq, hp, hreturned, by decide +kernel, by decide +kernel, haccepted⟩

end

end SmsLite
