import SmsLite.Concurrency.Services
import SmsLite.Registry

/-!
# Pools of requests

Any number of requests run against one database and one cache, one statement at a time.
The history of every request is its typestate; what its next statement can do to the
shared state, to the locks and to that history is said once, in `Tx.moves`, and the
invariants of this development are case analyses over it.

## Main definitions

* `World.pool`, `World.histories` — a pool of requests, and their histories after a
  schedule.
* `Tx.Moves` — what one statement can do.
* `Tracks` — what ties the histories to the shared state.

## Main results

* `Tx.moves` — **every statement does one of ten things**.
* `tracks_inductive` — the histories stay tied to the shared state.
* `Db.commit_session` — what a commit makes of a session.
-/

namespace SmsLite

open Interleave
open Tx (MayWriteSession)

variable {ι : Type}

/-- Requests that have all just arrived. -/
def World.pool (env : Env) (w : World) (requests : ι → Request) :
    Pool Stmt Stmt.Reply Exn Response World ι AdvisoryLock where
  world := w
  prog := fun i => (requests i).service env
  owner := fun _ => none

/-- The histories of requests that have all just arrived. -/
def Request.histories (env : Env) (requests : ι → Request) : ι → Tx :=
  Pool.close Tx.close (fun i => (requests i).service env) fun i => Tx.start (requests i)

/-- A schedule of requests. -/
abbrev Schedule (ι : Type) := List (Label ι Outside)

section

variable [DecidableEq ι]

/-- The pool after a schedule, if the schedule can be taken. -/
def World.serveAll (env : Env) (w : World) (requests : ι → Request) (schedule : Schedule ι) :
    Option (Pool Stmt Stmt.Reply Exn Response World ι AdvisoryLock) :=
  (w.pool env requests).exec (machine env) schedule

/-- The histories after a schedule. -/
def World.histories (env : Env) (w : World) (requests : ι → Request) (schedule : Schedule ι) :
    ι → Tx :=
  (w.pool env requests).ghosts (machine env) (protocol env) Tx.close
    (Request.histories env requests) schedule

/-! ### What one statement does -/

/-- The statement queries a user. -/
def Stmt.queriesUser : Stmt → Bool
  | .selectUserById _ _ | .selectUserByUsername _ _ => true
  | _ => false

/-- The row is shown to a query: some row, with the companions the query joins. -/
def World.Shows (w : World) (l : Loaded) : Prop := ∃ u ∈ w.db.users, ∃ q, l = w.db.load q u

/-- What a statement of the request `i` in the history `c` can do to the shared state, to the
holders of the locks and to the history. -/
inductive Tx.Moves (env : Env) (i : ι) (w : World) (owner : AdvisoryLock → Option ι) (c : Tx) :
    Stmt → World → (AdvisoryLock → Option ι) → Tx → Prop
  /-- It commits. -/
  | commits (work : UnitOfWork) (db' : Db) (h : w.db.commit w.clock work = .ok db') :
      Moves env i w owner c (.commit work) { w with db := db' } (release i owner) (c.commit work)
  /-- It rolls back. -/
  | rollsBack : Moves env i w owner c .rollback w (release i owner) c.unlocked
  /-- It takes a lock. -/
  | locks (lock : AdvisoryLock) :
      Moves env i w owner c (.advisoryLock lock) w (acquire (some lock) i owner)
        { c with locks := lock :: c.locks }
  /-- It loads its first row. -/
  | reads (s : Stmt) (l : Loaded) (hs : s.queriesUser = true) (hl : w.Shows l)
      (hid : ∀ id q, s = .selectUserById id q → l.user.id = id) (hfirst : c.loaded = none) :
      Moves env i w owner c s w owner { c with loaded := some l }
  /-- It counts the students with a contact, and finds less than the limit. -/
  | clears (contact : Contact) (exclude : Option UserId) (hlock : contact.lock env ∈ c.locks)
      (hfree : w.db.countUsersWithContact (some .student) contact exclude <
        studentMaxSharedContact) :
      Moves env i w owner c (.countUsersWithContact (some .student) contact exclude) w owner
        { c with cleared := (contact, exclude) :: c.cleared }
  /-- It draws a random text. -/
  | draws : Moves env i w owner c .tokenUrlsafe { w with draws := w.draws + 1 } owner
      { c with drawn := env.tokenUrlsafe w.draws :: c.drawn }
  /-- It asks for a cached version. -/
  | asks (id : UserId) : Moves env i w owner c (.getCache (.accessTokenVersionKey id)) w owner
      { c with cached := w.cache (.accessTokenVersionKey id) }
  /-- It fills a cache entry. -/
  | fills (key : CacheKey) (value : CacheValue) :
      Moves env i w owner c (.setCache key value)
        { w with cache := Function.update w.cache key (some value) } owner c
  /-- It deletes cache entries. -/
  | drops (keys : List CacheKey) : Moves env i w owner c (.deleteCache keys)
      { w with cache := fun key => if key ∈ keys then none else w.cache key } owner
      { c with dropped := c.dropped || c.drops keys }
  /-- It does nothing that matters here. -/
  | idles (s : Stmt) (w' : World) (husers : w'.db.users = w.db.users)
      (hsessions : w'.db.sessions = w.db.sessions) (hcache : w'.cache = w.cache)
      (hdraws : w.draws ≤ w'.draws) : Moves env i w owner c s w' owner c

/-- A query shows a row, under the id it was asked for. -/
theorem Db.selectUserById_shows {w : World} {id : UserId} {q : UserQuery} {l : Loaded}
    (h : w.db.selectUserById id q = some l) : w.Shows l ∧ l.user.id = id := by
  obtain ⟨u, hu, rfl⟩ := Option.map_eq_some_iff.mp h
  obtain ⟨hget, -⟩ := Option.filter_eq_some_iff.mp hu
  exact ⟨⟨u, Keyed.mem_of_get? hget, q, rfl⟩, Keyed.key_of_get? hget⟩

theorem Db.selectUserByUsername_shows {w : World} {username : String} {q : UserQuery} {l : Loaded}
    (h : w.db.selectUserByUsername username q = some l) : w.Shows l := by
  obtain ⟨u, hu, rfl⟩ := Option.map_eq_some_iff.mp h
  exact ⟨u, List.mem_of_find?_eq_some hu, q, rfl⟩

/-- The session a query joins is the one in the table. -/
theorem World.Shows.session {w : World} {l : Loaded} {s : UserSession} (h : w.Shows l)
    (hs : l.session = some s) : Keyed.get? w.db.sessions l.user.id = some s := by
  obtain ⟨u, -, q, rfl⟩ := h
  simp only [Db.load] at hs
  split at hs
  · exact hs
  · cases hs

/-- Only the first row a request sees enters its history. -/
theorem Tx.loads (c : Tx) (reply : Option Loaded) :
    { c with loaded := c.loaded.or reply } = c ∨
      c.loaded = none ∧ ∃ l, reply = some l ∧
        { c with loaded := c.loaded.or reply } = { c with loaded := some l } := by
  cases hl : c.loaded with
  | some l₀ =>
    left
    rw [Option.some_or, ← hl]
  | none =>
    cases reply with
    | none =>
      left
      rw [Option.or_none, ← hl]
    | some l => exact Or.inr ⟨rfl, l, rfl, rfl⟩

/-- **Every statement does one of ten things.** -/
theorem Tx.moves (env : Env) (i : ι) (w : World) (owner : AdvisoryLock → Option ι) (c : Tx)
    (s : Stmt) :
    Tx.Moves env i w owner c s (exec env s w).2
      (if (machine env).frees s (exec env s w).1 then
        release i (acquire ((machine env).lock? s) i owner)
        else acquire ((machine env).lock? s) i owner)
      (c.next env s (exec env s w).1) := by
  cases s with
  | tokenUrlsafe => exact .draws
  | advisoryLock lock => exact .locks lock
  | rollback => exact .rollsBack
  | setCache key value => exact .fills key value
  | deleteCache keys => exact .drops keys
  | getCache key =>
    cases key with
    | accessTokenVersionKey id => exact .asks id
    | _ => exact .idles _ _ rfl rfl rfl le_rfl
  | commit work =>
    cases hcommit : w.db.commit w.clock work with
    | ok db' =>
      rw [exec_commit_ok hcommit]
      exact .commits work db' hcommit
    | error e =>
      rw [exec_commit_error hcommit]
      exact .idles _ _ rfl rfl rfl le_rfl
  | selectUserById id q =>
    change Tx.Moves env i w owner c _ w owner
      { c with loaded := c.loaded.or (w.db.selectUserById id q) }
    -- Only the first user it finds counts as the one it has loaded.
    rcases c.loads (w.db.selectUserById id q) with hsame | ⟨hfirst, l, hl, hnew⟩
    · rw [hsame]
      exact .idles _ _ rfl rfl rfl le_rfl
    · obtain ⟨hshows, hown⟩ := Db.selectUserById_shows hl
      rw [hnew]
      refine .reads _ l rfl hshows ?_ hfirst
      rintro _ _ ⟨⟩
      exact hown
  | selectUserByUsername username q =>
    change Tx.Moves env i w owner c _ w owner
      { c with loaded := c.loaded.or (w.db.selectUserByUsername username q) }
    rcases c.loads (w.db.selectUserByUsername username q) with hsame | ⟨hfirst, l, hl, hnew⟩
    · rw [hsame]
      exact .idles _ _ rfl rfl rfl le_rfl
    · rw [hnew]
      refine .reads _ l rfl (Db.selectUserByUsername_shows hl) ?_ hfirst
      rintro _ _ ⟨⟩
  | countUsersWithContact role contact exclude =>
    change Tx.Moves env i w owner c _ w owner
      (Tx.next env c (.countUsersWithContact role contact exclude)
        (w.db.countUsersWithContact role contact exclude))
    simp only [Tx.next]
    split
    · next h =>
      obtain ⟨rfl, hlock, hfree⟩ := h
      exact .clears contact exclude hlock hfree
    · exact .idles _ _ rfl rfl rfl le_rfl
  | flushUser user =>
    obtain ⟨reply, hexec, -⟩ := exec_flushUser env w user
    rw [hexec]
    exact .idles _ _ rfl rfl rfl le_rfl
  | randbelow => exact .idles _ _ rfl rfl rfl (Nat.le_succ _)
  | hashPassword password =>
    obtain ⟨reply, draws, hexec, hle⟩ := exec_hashPassword env w password
    rw [hexec]
    exact .idles _ _ rfl rfl rfl hle
  | _ => exact .idles _ _ rfl rfl rfl le_rfl

/-! ### What a commit makes of the rows -/

/-- The session a commit is about. -/
theorem Db.commit_own_session {db db' : Db} {now : Time} {l : Loaded} {d : Dirty}
    {mails : List NewPendingEmail} (h : db.commit now (.update l d mails) = .ok db')
    {s s' : UserSession} (hs : l.session = some s) (hs' : d.session = some s') :
    Keyed.get? db'.sessions l.user.id =
      (Keyed.get? db.sessions l.user.id).map (UserSession.write s s') := by
  obtain ⟨user, -, -, -, hsessions, -⟩ := Db.commit_update h
  rw [hsessions, hs, hs']
  exact Keyed.get?_modify_self _ _ (UserSession.key_write s s')

/-- **What a commit makes of a session**: nothing, or what it writes, or it adds a session
without a refresh token. -/
theorem Db.commit_session {env : Env} {c : Tx} {db db' : Db} {now : Time} {work : UnitOfWork}
    (hmay : c.MayCommit env work) (h : db.commit now work = .ok db') (u : UserId) :
    Keyed.get? db'.sessions u = Keyed.get? db.sessions u ∨
      (∃ l d mails s s', work = .update l d mails ∧ l.user.id = u ∧ l.session = some s ∧
        d.session = some s' ∧ MayWriteSession env c (some s) (some s') ∧
        Keyed.get? db'.sessions u = (Keyed.get? db.sessions u).map (UserSession.write s s')) ∨
      (Keyed.get? db.sessions u = none ∧
        ∀ s', Keyed.get? db'.sessions u = some s' → s'.refreshTokenHash = none) := by
  cases work with
  | update l d mails =>
    obtain ⟨user, -, -, -, hsessions, -⟩ := Db.commit_update h
    rw [hsessions]
    cases hl : l.session with
    | none => exact Or.inl rfl
    | some s =>
      cases hd : d.session with
      | none => exact Or.inl rfl
      | some s' =>
        by_cases hu : l.user.id = u
        · subst hu
          have hwrite : MayWriteSession env c (some s) (some s') := by
            rw [← hl, ← hd]
            exact hmay.2.2
          refine Or.inr (Or.inl ⟨l, d, mails, s, s', rfl, rfl, hl, hd, hwrite, ?_⟩)
          rw [← Db.commit_own_session h hl hd, hsessions, hl, hd]
        · exact Or.inl (Keyed.get?_modify_ne _ (Ne.symm hu) (UserSession.key_write s s'))
  | register user activation session loginLockout mail =>
    obtain ⟨-, -, hsessions, -⟩ := Db.commit_register h
    rw [hsessions]
    -- A session that was there is found before the new one.
    cases hget : Keyed.get? db.sessions u with
    | some s =>
      left
      rw [Keyed.get?, List.find?_append, ← Keyed.get?, hget]
      rfl
    | none =>
      refine Or.inr (Or.inr ⟨rfl, fun s' hs' => ?_⟩)
      rw [Keyed.get?, List.find?_append, ← Keyed.get?, hget, Option.none_or] at hs'
      have hmem := List.mem_of_find?_eq_some hs'
      rw [List.mem_singleton.mp hmem]
      exact hmay.2.1

/-- A commit removes no row, keeps every role, and keeps ids apart. -/
structure World.Grows (w w' : World) : Prop where
  ids : (Keyed.keys w.db.users).Nodup → (Keyed.keys w'.db.users).Nodup
  users : ∀ id u, Keyed.get? w.db.users id = some u →
    ∃ u', Keyed.get? w'.db.users id = some u' ∧ u'.role = u.role
  sessions : ∀ id s, Keyed.get? w.db.sessions id = some s →
    ∃ s', Keyed.get? w'.db.sessions id = some s'
  draws : w.draws ≤ w'.draws

theorem World.Grows.of_eq {w w' : World} (husers : w'.db.users = w.db.users)
    (hsessions : w'.db.sessions = w.db.sessions) (hdraws : w.draws ≤ w'.draws) : w.Grows w' where
  ids h := husers ▸ h
  users _ u hu := ⟨u, husers ▸ hu, rfl⟩
  sessions _ s hs := ⟨s, hsessions ▸ hs⟩
  draws := hdraws

theorem World.Grows.of_commit {env : Env} {c : Tx} {w : World} {work : UnitOfWork} {db' : Db}
    (hmay : c.MayCommit env work) (h : w.db.commit w.clock work = .ok db') :
    w.Grows { w with db := db' } where
  ids hids := by
    cases work with
    | update l d mails =>
      obtain ⟨user, -, -, husers, -⟩ := Db.commit_update h
      rw [husers, Keyed.keys_modify _ _ (User.key_write _ _)]
      exact hids
    | register user activation session loginLockout mail =>
      obtain ⟨hnew, husers, -⟩ := Db.commit_register h
      rw [husers, Keyed.keys_concat, ← List.concat_eq_append]
      exact hids.concat hnew
  users id u hu := by
    cases work with
    | update l d mails =>
      obtain ⟨user, hrow, -, husers, -⟩ := Db.commit_update h
      rw [husers]
      by_cases hid : id = l.user.id
      · subst hid
        rw [Keyed.get?_modify_self _ _ (User.key_write _ _), hu]
        refine ⟨_, rfl, ?_⟩
        have hrole : user.role = l.user.role := by
          rw [← hmay.2.1.role, ← UserDraft.draft_of_toRow hrow]
          rfl
        simp [User.write, hrole]
      · rw [Keyed.get?_modify_ne _ hid (User.key_write _ _)]
        exact ⟨u, hu, rfl⟩
    | register user activation session loginLockout mail =>
      obtain ⟨-, husers, -⟩ := Db.commit_register h
      refine ⟨u, ?_, rfl⟩
      rw [husers, Keyed.get?, List.find?_append, ← Keyed.get?, hu]
      rfl
  sessions id s hs := by
    rcases Db.commit_session hmay h id with hsame | ⟨_, _, _, _, _, _, _, _, _, _, hwrite⟩ |
      ⟨hnone, -⟩
    · exact ⟨s, hsame.trans hs⟩
    · exact ⟨_, hwrite.trans (congrArg _ hs)⟩
    · rw [hs] at hnone
      cases hnone
  draws := le_rfl

/-- No statement takes anything away. -/
theorem Tx.Moves.grows {env : Env} {i : ι} {w w' : World} {owner owner' : AdvisoryLock → Option ι}
    {c c' : Tx} {s : Stmt} (h : Tx.Moves env i w owner c s w' owner' c')
    (hallowed : c.allowed env s) : w.Grows w' := by
  cases h with
  | commits work db' hcommit => exact .of_commit hallowed.2 hcommit
  | idles _ _ husers hsessions _ hdraws => exact .of_eq husers hsessions hdraws
  | draws => exact .of_eq rfl rfl (Nat.le_succ _)
  | _ => exact .of_eq rfl rfl le_rfl

/-- What a step other than a commit leaves of a history. -/
structure Tx.Later (c c' : Tx) : Prop where
  request : c'.request = c.request
  committed : c'.committed = c.committed
  loaded : c.loaded ≠ none → c'.loaded = c.loaded
  drawn : c.committed ≠ none → c'.drawn = c.drawn
  dropped : c.dropped = true → c'.dropped = true

omit [DecidableEq ι] in
theorem Tx.Later.refl (c : Tx) : c.Later c :=
  ⟨rfl, rfl, fun _ => rfl, fun _ => rfl, fun hdropped => hdropped⟩

omit [DecidableEq ι] in
/-- Answering changes nothing of it. -/
theorem Tx.Later.close (c : Tx) (r : Outcome) : c.Later (c.close r) :=
  ⟨rfl, rfl, fun _ => rfl, fun _ => rfl, fun hdropped => hdropped⟩

/-- All the histories after a step of one. -/
theorem Tx.Later.update {c : ι → Tx} {i : ι} {c' : Tx} (h : (c i).Later c') (j : ι) :
    (c j).Later (Function.update c i c' j) := by
  by_cases hj : j = i
  · subst hj
    rw [Function.update_self]
    exact h
  · rw [Function.update_of_ne hj]
    exact .refl (c j)

/-- **A statement commits, or it leaves the tables and the rest of the history alone.** -/
theorem Tx.Moves.commits_or {env : Env} {i : ι} {w w' : World}
    {owner owner' : AdvisoryLock → Option ι} {c c' : Tx} {s : Stmt}
    (hm : Tx.Moves env i w owner c s w' owner' c') (hallowed : c.allowed env s) :
    (∃ work db', s = .commit work ∧ w.db.commit w.clock work = .ok db' ∧
      w' = { w with db := db' } ∧ c' = c.commit work ∧ c.Pending ∧ c.MayCommit env work) ∨
      (w'.db.users = w.db.users ∧ w'.db.sessions = w.db.sessions ∧ c.Later c') := by
  cases hm with
  | commits work db' h => exact Or.inl ⟨work, db', rfl, h, rfl, rfl, hallowed.1, hallowed.2⟩
  | idles _ _ husers hsessions =>
    exact Or.inr ⟨husers, hsessions, .refl c⟩
  | draws =>
    exact Or.inr ⟨rfl, rfl, rfl, rfl, fun _ => rfl,
      fun hcommitted => absurd hallowed hcommitted, fun hdropped => hdropped⟩
  | reads _ l _ _ _ hfirst =>
    exact Or.inr ⟨rfl, rfl, rfl, rfl, fun hloaded => absurd hfirst hloaded, fun _ => rfl,
      fun hdropped => hdropped⟩
  | drops keys =>
    exact Or.inr ⟨rfl, rfl, rfl, rfl, fun _ => rfl, fun _ => rfl,
      fun hdropped => by simp [hdropped]⟩
  | _ =>
    exact Or.inr ⟨rfl, rfl, rfl, rfl, fun _ => rfl, fun _ => rfl, fun hdropped => hdropped⟩

/-- A step other than a commit stores no token. -/
theorem Tx.Later.stored {env : Env} {c c' : Tx} (h : c.Later c') {t : String}
    (hstored : c'.Stored env t) : c.Stored env t := by
  obtain ⟨l, d, mails, s, hcommit, hs, hhash, now, jti, hjti, ht⟩ := hstored
  rw [h.committed] at hcommit
  rw [h.drawn (by simp [hcommit])] at hjti
  exact ⟨l, d, mails, s, hcommit, hs, hhash, now, jti, hjti, ht⟩

/-! ### The histories and the shared state -/

/-- What ties one history to the shared state. -/
structure Tx.Tracked (env : Env) (d₀ : ℕ) (w : World) (c : Tx) : Prop where
  /-- Its random texts come from the draws since the start. -/
  drawn : ∀ text ∈ c.drawn, ∃ k, d₀ ≤ k ∧ k < w.draws ∧ text = env.tokenUrlsafe k
  /-- The row it has loaded is the one it is about. -/
  loadedId : ∀ l, c.loaded = some l → c.request.byUsername = false →
    c.request.userId? env = some l.user.id
  /-- That row is still there, in the same role. -/
  loadedUser : ∀ l, c.loaded = some l →
    ∃ u, Keyed.get? w.db.users l.user.id = some u ∧ u.role = l.user.role
  /-- So is its session. -/
  loadedSession : ∀ l s, c.loaded = some l → l.session = some s →
    ∃ s', Keyed.get? w.db.sessions l.user.id = some s'
  /-- What it has committed is what it has loaded. -/
  committed : ∀ l d mails, c.committed = some (.update l d mails) → c.loaded = some l
  /-- A request that revokes a session has loaded it. -/
  revokes : c.request.revokesSession = true → c.committed ≠ none → c.loaded ≠ none
  /-- It deletes the cached version only after its commit. -/
  dropped : c.committed = none → c.dropped = false

/-- What ties all histories to the shared state. -/
structure Tracks (env : Env) (d₀ : ℕ) (w : World) (_owner : AdvisoryLock → Option ι)
    (c : ι → Tx) : Prop where
  ids : (Keyed.keys w.db.users).Nodup
  draws : d₀ ≤ w.draws
  each : ∀ i, (c i).Tracked env d₀ w
  /-- No two requests have drawn the same text. -/
  apart : Function.Injective env.tokenUrlsafe →
    ∀ i j, i ≠ j → ∀ text ∈ (c i).drawn, text ∉ (c j).drawn

theorem Tx.Tracked.grows {env : Env} {d₀ : ℕ} {w w' : World} {c : Tx} (h : c.Tracked env d₀ w)
    (hg : w.Grows w') : c.Tracked env d₀ w' where
  drawn text htext := by
    obtain ⟨k, hk, hlt, rfl⟩ := h.drawn text htext
    exact ⟨k, hk, lt_of_lt_of_le hlt hg.draws, rfl⟩
  loadedId := h.loadedId
  loadedUser l hl := by
    obtain ⟨u, hu, hrole⟩ := h.loadedUser l hl
    obtain ⟨u', hu', hrole'⟩ := hg.users _ u hu
    exact ⟨u', hu', hrole'.trans hrole⟩
  loadedSession l s hl hs := by
    obtain ⟨s', hs'⟩ := h.loadedSession l s hl hs
    exact hg.sessions _ s' hs'
  committed := h.committed
  revokes := h.revokes
  dropped := h.dropped

/-- What a history holds besides does not matter. -/
theorem Tx.Tracked.congr {env : Env} {d₀ : ℕ} {w : World} {c c' : Tx} (h : c.Tracked env d₀ w)
    (hrequest : c'.request = c.request) (hloaded : c'.loaded = c.loaded)
    (hdrawn : c'.drawn = c.drawn) (hcommitted : c'.committed = c.committed)
    (hdropped : c'.dropped = c.dropped) : c'.Tracked env d₀ w where
  drawn := hdrawn ▸ h.drawn
  loadedId := by
    rw [hrequest, hloaded]
    exact h.loadedId
  loadedUser := hloaded ▸ h.loadedUser
  loadedSession := hloaded ▸ h.loadedSession
  committed := by
    rw [hcommitted, hloaded]
    exact h.committed
  revokes := by
    rw [hrequest, hcommitted, hloaded]
    exact h.revokes
  dropped := by
    rw [hcommitted, hdropped]
    exact h.dropped

/-- A step of the request itself. -/
theorem Tx.Tracked.moves {env : Env} {i : ι} {d₀ : ℕ} {w w' : World}
    {owner owner' : AdvisoryLock → Option ι} {c c' : Tx} {s : Stmt} (h : c.Tracked env d₀ w)
    (hids : (Keyed.keys w.db.users).Nodup) (hd : d₀ ≤ w.draws) (hallowed : c.allowed env s)
    (hm : Tx.Moves env i w owner c s w' owner' c') : c'.Tracked env d₀ w' := by
  have hg := h.grows (hm.grows hallowed)
  cases hm with
  | commits work db' hcommit =>
    refine ⟨hg.drawn, hg.loadedId, hg.loadedUser, hg.loadedSession, ?_, fun hrevokes _ => ?_,
      fun hno => by cases hno⟩
    · rintro l d mails ⟨⟩
      exact hallowed.2.1
    · cases work with
      | update l d mails =>
        rw [show (c.commit (.update l d mails)).loaded = some l from hallowed.2.1]
        simp
      | register => exact absurd hrevokes (by simp [Tx.commit, Tx.unlocked, hallowed.2.1])
  | rollsBack => exact hg.congr rfl rfl rfl rfl rfl
  | locks lock => exact hg.congr rfl rfl rfl rfl rfl
  | clears contact exclude => exact hg.congr rfl rfl rfl rfl rfl
  | asks id => exact hg.congr rfl rfl rfl rfl rfl
  | fills key value => exact hg
  | idles _ _ => exact hg
  -- Deletions before the commit are not recorded.
  | drops keys =>
    refine ⟨hg.drawn, hg.loadedId, hg.loadedUser, hg.loadedSession, hg.committed, hg.revokes,
      fun hno => ?_⟩
    have hno : c.committed = none := hno
    simp [h.dropped hno, Tx.drops, hno]
  | draws =>
    refine ⟨?_, hg.loadedId, hg.loadedUser, hg.loadedSession, hg.committed, hg.revokes, hg.dropped⟩
    intro text htext
    rcases List.mem_cons.mp htext with rfl | htext
    · exact ⟨w.draws, hd, Nat.lt_succ_self _, rfl⟩
    · exact hg.drawn text htext
  | reads _ l hquery hl hown hfirst =>
    have hsession : ∀ s', l.session = some s' → Keyed.get? w.db.sessions l.user.id = some s' :=
      fun s' => hl.session
    obtain ⟨u, hu, q, rfl⟩ := hl
    -- The user was in the table when it was read, so it is there by its id.
    have hget := Keyed.get?_of_mem hids hu
    refine ⟨hg.drawn, ?_, ?_, ?_, ?_, by simp, hg.dropped⟩
    · rintro _ ⟨⟩ hname
      cases s with
      | selectUserById id q' =>
        rw [hown id q' rfl]
        exact hallowed
      | selectUserByUsername username q' =>
        rw [show c.request.byUsername = true from hallowed] at hname
        cases hname
      | _ => cases hquery
    · rintro _ ⟨⟩
      exact ⟨u, hget, rfl⟩
    · rintro _ s' ⟨⟩ hs'
      exact ⟨s', hsession s' hs'⟩
    · intro l d mails hcommitted
      -- It has not committed before: a commit presupposes a loaded user.
      have hloaded := h.committed l d mails hcommitted
      rw [hfirst] at hloaded
      cases hloaded

/-- What a request draws, no other request has drawn. -/
theorem Tracks.apart_moves {env : Env} {i : ι} {d₀ : ℕ} {w w' : World}
    {owner owner' : AdvisoryLock → Option ι} {c : ι → Tx} {c' : Tx} {s : Stmt}
    (h : Tracks env d₀ w owner c) (hm : Tx.Moves env i w owner (c i) s w' owner' c')
    (hinj : Function.Injective env.tokenUrlsafe) {j : ι} (hj : j ≠ i) :
    ∀ text ∈ c'.drawn, text ∉ (c j).drawn := by
  have hbefore : ∀ text ∈ (c i).drawn, text ∉ (c j).drawn := h.apart hinj i j (Ne.symm hj)
  cases hm with
  | draws =>
    intro text htext hmem
    rcases List.mem_cons.mp htext with rfl | htext
    · -- The draw of now comes after every draw another request can show.
      obtain ⟨k, -, hlt, heq⟩ := (h.each j).drawn _ hmem
      exact absurd (hinj heq) (Nat.ne_of_gt hlt)
    · exact hbefore text htext hmem
  | _ => exact hbefore

/-- One step of the whole. -/
theorem Tracks.moves {env : Env} {i : ι} {d₀ : ℕ} {w w' : World}
    {owner owner' : AdvisoryLock → Option ι} {c : ι → Tx} {c' : Tx} {s : Stmt}
    (h : Tracks env d₀ w owner c) (hallowed : (c i).allowed env s)
    (hm : Tx.Moves env i w owner (c i) s w' owner' c') :
    Tracks env d₀ w' owner' (Function.update c i c') where
  ids := (hm.grows hallowed).ids h.ids
  draws := le_trans h.draws (hm.grows hallowed).draws
  each := by
    refine (Function.forall_update_iff c fun _ c => c.Tracked env d₀ w').mpr ⟨?_, fun j _ => ?_⟩
    · exact (h.each i).moves h.ids h.draws hallowed hm
    · exact (h.each j).grows (hm.grows hallowed)
  apart hinj := by
    intro j k hjk text htext htext'
    by_cases hj : j = i
    · subst hj
      rw [Function.update_self] at htext
      rw [Function.update_of_ne (Ne.symm hjk)] at htext'
      exact h.apart_moves hm hinj (Ne.symm hjk) text htext htext'
    · rw [Function.update_of_ne hj] at htext
      by_cases hk : k = i
      · subst hk
        rw [Function.update_self] at htext'
        exact h.apart_moves hm hinj hj text htext' htext
      · rw [Function.update_of_ne hk] at htext'
        exact h.apart hinj j k hjk text htext htext'

omit [DecidableEq ι] in
/-- The replies a request relies on are the replies it gets. -/
theorem Tracks.replies {env : Env} {d₀ : ℕ} {w : World} {owner : AdvisoryLock → Option ι}
    {c : ι → Tx} (h : Tracks env d₀ w owner c) (i : ι) (s : Stmt) :
    (c i).replies s (exec env s w).1 := by
  cases s with
  | selectUserById id q => exact fun l hl => (Db.selectUserById_shows hl).2
  | refresh id =>
    rintro l hl rfl
    obtain ⟨u, hu, -⟩ := (h.each i).loadedUser l hl
    change Keyed.get? w.db.users l.user.id ≠ none
    rw [hu]
    simp
  | _ => trivial

section Rule

variable {env : Env} {d₀ : ℕ}
  {Ok : Pool Stmt Stmt.Reply Exn Response World ι AdvisoryLock → (ι → Tx) → Label ι Outside → Prop}
  {J : World → (AdvisoryLock → Option ι) → (ι → Tx) → Prop}

/-- The histories stay tied to the shared state. -/
theorem tracks_inductive (env : Env) (d₀ : ℕ) :
    Pool.Inductive (machine env) (protocol env) (Tx.Post env) Tx.close (fun _ _ _ => True)
      (Tracks (ι := ι) env d₀) where
  stmt p c i s _ hinv _ hallowed _ _ :=
    ⟨hinv.replies i s, hinv.moves hallowed (Tx.moves env i p.world p.owner (c i) s)⟩
  fin w owner c i r hinv _ := by
    refine ⟨hinv.ids, hinv.draws, ?_, fun hinj j k hjk text htext htext' => ?_⟩
    · refine (Function.forall_update_iff c fun _ c => c.Tracked env d₀ w).mpr
        ⟨(hinv.each i).congr rfl rfl rfl rfl rfl, fun j _ => hinv.each j⟩
    · have hdrawn : ∀ j, (Function.update c i ((c i).close r) j).drawn = (c j).drawn := by
        intro j
        by_cases hj : j = i
        · subst hj
          rw [Function.update_self]
          rfl
        · rw [Function.update_of_ne hj]
      rw [hdrawn] at htext htext'
      exact hinv.apart hinj j k hjk text htext htext'
  env w owner c a hinv := by
    cases a with
    | tick d =>
      exact ⟨hinv.ids, hinv.draws, fun i => (hinv.each i).grows (.of_eq rfl rfl le_rfl), hinv.apart⟩
    | expire key =>
      exact ⟨hinv.ids, hinv.draws, fun i => (hinv.each i).grows (.of_eq rfl rfl le_rfl), hinv.apart⟩

/-- An invariant beside `Tracks`: a case analysis over what one statement can do. -/
theorem Tracks.conj
    (hmoves : ∀ (p : Pool Stmt Stmt.Reply Exn Response World ι AdvisoryLock) (c : ι → Tx) (i : ι)
      (s : Stmt) (k : s.Reply → Service Response) (w' : World) (owner' : AdvisoryLock → Option ι)
      (c' : Tx), Tracks env d₀ p.world p.owner c → J p.world p.owner c → p.prog i = .stmt s k →
      (c i).allowed env s → blocked p.owner ((machine env).lock? s) i = false → Ok p c (.run i) →
      Tx.Moves env i p.world p.owner (c i) s w' owner' c' → J w' owner' (Function.update c i c'))
    (hclose : ∀ (w : World) (owner : AdvisoryLock → Option ι) (c : ι → Tx) (i : ι) (r : Outcome),
      Tracks env d₀ w owner c → J w owner c →
        J w (release i owner) (Function.update c i ((c i).close r)))
    (houtside : ∀ (w : World) (owner : AdvisoryLock → Option ι) (c : ι → Tx) (o : Outside),
      J w owner c → J (outside o w) owner c) :
    Pool.Inductive (machine env) (protocol env) (Tx.Post env) Tx.close Ok
      fun w owner c => Tracks env d₀ w owner c ∧ J w owner c :=
  (tracks_inductive env d₀).conj (fun _ _ _ _ => trivial)
    (fun p c i s k hinv hj hp hallowed hb hok =>
      hmoves p c i s k _ _ _ hinv hj hp hallowed hb hok (Tx.moves env i p.world p.owner (c i) s))
    (fun w owner c i r hinv hj _ => hclose w owner c i r hinv hj) houtside

end Rule

/-! ### Whole schedules -/

/-- A history without anything in it. -/
structure Tx.Blank (c : Tx) : Prop where
  loaded : c.loaded = none
  cached : c.cached = none
  locks : c.locks = []
  cleared : c.cleared = []
  drawn : c.drawn = []
  committed : c.committed = none
  dropped : c.dropped = false

omit [DecidableEq ι] in
theorem Request.histories_blank (env : Env) (requests : ι → Request) (i : ι) :
    (Request.histories env requests i).Blank := by
  unfold Request.histories Pool.close
  split <;> exact ⟨rfl, rfl, rfl, rfl, rfl, rfl, rfl⟩

omit [DecidableEq ι] in
/-- Requests that have all just arrived are tied to any state with distinct ids. -/
theorem Tracks.start (env : Env) {w : World} (requests : ι → Request)
    (hids : (Keyed.keys w.db.users).Nodup) :
    Tracks env w.draws w (fun _ => none) (Request.histories env requests) := by
  have hblank := Request.histories_blank env requests
  refine ⟨hids, le_rfl, fun i => ?_, fun _ i j _ text htext => ?_⟩
  · refine ⟨?_, ?_, ?_, ?_, ?_, ?_, fun _ => (hblank i).dropped⟩ <;>
      simp [(hblank i).drawn, (hblank i).loaded, (hblank i).committed]
  · rw [(hblank i).drawn] at htext
    cases htext

theorem Tx.next_request (env : Env) (c : Tx) (s : Stmt) (r : s.Reply) :
    (c.next env s r).request = c.request := by
  unfold Tx.next
  split
  case _ => rfl
  case _ => rfl
  case _ => rfl
  case _ =>
    split <;> rfl
  all_goals rfl

/-- A history is the history of its request. -/
theorem World.histories_request (env : Env) (w : World) (requests : ι → Request)
    (schedule : Schedule ι) (i : ι) :
    (w.histories env requests schedule i).request = requests i := by
  have hrun : ∀ (ls : Schedule ι) (p : Pool Stmt Stmt.Reply Exn Response World ι AdvisoryLock)
      (c : ι → Tx), (p.ghosts (machine env) (protocol env) Tx.close c ls i).request =
        (c i).request := by
    intro ls
    induction ls with
    | nil => exact fun p c => rfl
    | cons l ls ih =>
      intro p c
      simp only [Pool.ghosts]
      cases hstep : p.step (machine env) l with
      | none => rfl
      | some q =>
        simp only [ih]
        rcases Pool.step_cases hstep with ⟨j, s, k, rfl, hp, -, -⟩ | ⟨o, rfl, -⟩
        · simp only [Pool.ghost, hp]
          by_cases hj : i = j
          · subst hj
            rw [Function.update_self]
            split
            · exact Tx.next_request env (c i) s _
            · exact Tx.next_request env (c i) s _
          · rw [Function.update_of_ne hj]
        · rfl
  rw [World.histories, hrun]
  unfold Request.histories Pool.close
  split <;> rfl

/-- A schedule that meets the condition at every step. -/
def World.Always (env : Env) (w : World) (requests : ι → Request)
    (Ok : Pool Stmt Stmt.Reply Exn Response World ι AdvisoryLock → (ι → Tx) → Label ι Outside →
      Prop) (schedule : Schedule ι) : Prop :=
  (w.pool env requests).Always (machine env) (protocol env) Tx.close Ok
    (Request.histories env requests) schedule

/-- What every thread of a pool does: it follows the protocol, or has met its postcondition. -/
abbrev Conforms (env : Env) (p : Pool Stmt Stmt.Reply Exn Response World ι AdvisoryLock)
    (c : ι → Tx) : Prop := p.Conforms (protocol env) (Tx.Post env) Tx.close c

/-- **Invariants of whole schedules.** -/
theorem World.serveAll_invariant {env : Env} {w : World} {requests : ι → Request}
    {Ok : Pool Stmt Stmt.Reply Exn Response World ι AdvisoryLock → (ι → Tx) →
      Label ι Outside → Prop}
    {I : World → (AdvisoryLock → Option ι) → (ι → Tx) → Prop}
    (hI : Pool.Inductive (machine env) (protocol env) (Tx.Post env) Tx.close Ok I)
    (hstart : I w (fun _ => none) (Request.histories env requests)) {schedule : Schedule ι}
    (hok : w.Always env requests Ok schedule)
    {p : Pool Stmt Stmt.Reply Exn Response World ι AdvisoryLock}
    (h : w.serveAll env requests schedule = some p) :
    I p.world p.owner (w.histories env requests schedule) ∧
      Conforms env p (w.histories env requests schedule) :=
  Pool.exec_invariant hI hstart (.close fun i => (requests i).follows env) hok h

/-- A schedule in two parts. -/
theorem World.serveAll_append {env : Env} {w : World} {requests : ι → Request}
    {before after : Schedule ι} {p : Pool Stmt Stmt.Reply Exn Response World ι AdvisoryLock}
    (h : w.serveAll env requests (before ++ after) = some p) :
    ∃ q, w.serveAll env requests before = some q ∧ q.exec (machine env) after = some p ∧
      w.histories env requests (before ++ after) =
        q.ghosts (machine env) (protocol env) Tx.close (w.histories env requests before) after := by
  rw [World.serveAll, Pool.exec_append] at h
  obtain ⟨q, hq, hp⟩ := Option.bind_eq_some_iff.mp h
  exact ⟨q, hq, hp, Pool.ghosts_append hq after⟩

omit [DecidableEq ι] in
/-- What an answered request has done. -/
theorem Conforms.answered {env : Env}
    {p : Pool Stmt Stmt.Reply Exn Response World ι AdvisoryLock} {c : ι → Tx}
    (h : Conforms env p c) {i : ι} {out : Outcome} (hout : (p.prog i).result? = some out) :
    (c i).Settled ∧ (c i).ended = true ∧
      ∀ response, out = .ok response → (c i).Answers env response := by
  have hi := h i
  rw [hout] at hi
  obtain ⟨c₀, ⟨hsettled, hanswers⟩, hc⟩ := hi
  rw [hc]
  exact ⟨hsettled, rfl, hanswers⟩

end

end SmsLite
