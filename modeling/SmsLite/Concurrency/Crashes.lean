import SmsLite.Concurrency.Posting
import SmsLite.Concrete
import SmsLite.Outbox.Batches

/-!
# Secrets survive a crash

A mail that is a row of the outbox survives whatever happens to the process; a mail handed to
a background task does not.  A server here is a pool of requests with the worker of the
outbox beside it.  It may die between any two statements, and come back to other requests.

## Main definitions

* `Server`, `ServerMove`, `Server.after` — servers that crash and come back.
* `World.Outboxed` — every hash has its row in the outbox.
* `Server.Posts` — every hash a move stores got its row in the same move.
* `Server.Bypasses` — the move is one of the two commits that post nothing.

## Main results

* `Server.Sound.posts` — every other move posts what it stores.
* `secrets_outboxed` — **every secret has its row in the outbox in every reachable state**,
  unless one of the two has committed, and `resetToken_lost`: otherwise it is lost.
* `Outbox.eligible_after_retry` — a row of the outbox can always be delivered again.
-/

namespace SmsLite

open Interleave

variable {env : Env}

/-! ### Servers -/

/-- The requests a server is serving, and how far it is with each. -/
structure Server (ι : Type) where
  requests : ι → Request
  pool : Pool Stmt Stmt.Reply Exn Response World ι AdvisoryLock

/-- What a server shares with the database. -/
def Server.world {ι : Type} (s : Server ι) : World := s.pool.world

/-- A server that has just come up. -/
def World.server {ι : Type} (env : Env) (w : World) (requests : ι → Request) : Server ι where
  requests := requests
  pool := w.pool env requests

/-- What happens next. -/
inductive ServerMove (ι : Type)
  /-- A request executes its next statement, or time passes. -/
  | serves (l : Label ι Outside)
  /-- The worker, or a request about emails, executes a statement on the outbox. -/
  | works (provider : Provider) (o : Outbox) (s : OutboxStmt)
  /-- The process dies, and comes back to other requests. -/
  | crashes (requests : ι → Request)

/-- The table of the outbox, beside everything else the worker knows. -/
def World.outbox (w : World) (o : Outbox) : Outbox :=
  { o with rows := w.db.pendingEmails, idSeq := w.db.pendingEmailsIdSeq }

/-- The state with another table. -/
def World.withOutbox (w : World) (o : Outbox) : World :=
  { w with db := { w.db with pendingEmails := o.rows } }

section

variable {ι : Type} [DecidableEq ι]

/-- The server after a move; a request that has to wait stays where it is. -/
def Server.after (env : Env) (s : Server ι) : ServerMove ι → Server ι
  | .serves l => { s with pool := (s.pool.step (machine env) l).getD s.pool }
  | .works provider o stmt =>
    { s with
      pool :=
        { s.pool with world := s.world.withOutbox (stmt.exec provider (s.world.outbox o)).2 } }
  | .crashes requests => s.world.server env requests

/-- The server after a run. -/
def Server.run (env : Env) (s : Server ι) (moves : List (ServerMove ι)) : Server ι :=
  Run.run (Server.after env) s moves

/-! ### Where the secrets are -/

/-- Every secret that is outstanding is in a row of the outbox, addressed to its user. -/
def World.Outboxed (env : Env) (w : World) : Prop :=
  ∀ u kind hash, w.db.secretHash u kind = some hash →
    ∃ e ∈ w.db.pendingEmails, e.posted.Conveys env u kind hash

/-- Every secret the move stores is in a row that the same move inserts, ready to be sent. -/
def Server.Posts (env : Env) (s : Server ι) (m : ServerMove ι) : Prop :=
  ∀ u kind hash, (s.after env m).world.db.secretHash u kind = some hash →
    s.world.db.secretHash u kind ≠ some hash →
    ∃ e ∈ (s.after env m).world.db.pendingEmails.drop s.world.db.pendingEmails.length,
      e.eligible = true ∧ e.posted.Conveys env u kind hash

/-- The move is a commit, let through by the database, of a forgotten password or of a
requested email change. -/
def Server.Bypasses (s : Server ι) : ServerMove ι → Prop
  | .serves (.run i) =>
    ∃ work db', (s.pool.prog i).head? = some (.commit work) ∧ (s.requests i).Bypasses work ∧
      s.world.db.commit s.world.clock work = .ok db'
  | _ => False

/-- What is left of every request posts what it stores. -/
def Server.Sound (env : Env) (s : Server ι) : Prop :=
  ∀ i, (s.requests i).Outboxes env (s.pool.prog i)

omit [DecidableEq ι] in
theorem World.server_sound (env : Env) (w : World) (requests : ι → Request) :
    (w.server env requests).Sound env := fun i => (requests i).outboxes env

theorem Server.Sound.after {s : Server ι} (h : s.Sound env) (m : ServerMove ι) :
    (s.after env m).Sound env := by
  cases m with
  | serves l =>
    intro i
    cases hq : s.pool.step (machine env) l with
    | none =>
      simp only [Server.after, hq]
      exact h i
    | some q =>
      simp only [Server.after, hq]
      exact Pool.issues_step (exec_truthful env) hq h i
  | works provider o stmt => exact h
  | crashes requests => exact World.server_sound env _ requests

/-! ### One move -/

/-- Only a commit changes a table, the id sequence of the users aside. -/
theorem exec_db (env : Env) (s : Stmt) (w : World) :
    (∃ seq, (exec env s w).2.db = { w.db with usersIdSeq := seq }) ∨
      ∃ work db', s = .commit work ∧ w.db.commit w.clock work = .ok db' ∧
        (exec env s w).2.db = db' := by
  cases s with
  | commit work =>
    cases hcommit : w.db.commit w.clock work with
    | ok db' => exact Or.inr ⟨work, db', rfl, hcommit, by rw [exec_commit_ok hcommit]⟩
    | error e => exact Or.inl ⟨_, by rw [exec_commit_error hcommit]⟩
  | flushUser user =>
    obtain ⟨reply, hexec, -⟩ := exec_flushUser env w user
    exact Or.inl ⟨_, by rw [hexec]⟩
  | hashPassword password =>
    obtain ⟨reply, draws, hexec, -⟩ := exec_hashPassword env w password
    exact Or.inl ⟨w.db.usersIdSeq, by rw [hexec]⟩
  | _ => exact Or.inl ⟨_, rfl⟩

/-- No statement on the outbox touches what a row says, or adds or removes one. -/
theorem OutboxStmt.exec_posted (provider : Provider) (stmt : OutboxStmt) (o : Outbox) :
    (stmt.exec provider o).2.rows.map (·.posted) = o.rows.map (·.posted) := by
  cases stmt with
  | commit loaded current =>
    simp only [OutboxStmt.exec]
    cases provider.commit o with
    | some e => rfl
    | none =>
      -- It writes status, retry count, error and moment, which are not posted.
      simp only [Keyed.modify, List.map_map]
      refine List.map_congr_left fun r _ => ?_
      simp only [Function.comp_apply]
      split <;> rfl
  | _ => rfl

/-- **What a move does**: it leaves the hashes alone and the rows as they read, or it is a
commit. -/
theorem Server.after_cases (env : Env) (s : Server ι) (m : ServerMove ι) :
    ((∀ u kind, (s.after env m).world.db.secretHash u kind = s.world.db.secretHash u kind) ∧
      (s.after env m).world.db.pendingEmails.map (·.posted) =
        s.world.db.pendingEmails.map (·.posted)) ∨
    ∃ i work db', m = .serves (.run i) ∧ (s.pool.prog i).head? = some (.commit work) ∧
      s.world.db.commit s.world.clock work = .ok db' ∧ (s.after env m).world.db = db' := by
  cases m with
  | works provider o stmt =>
    exact Or.inl ⟨fun u kind => rfl, stmt.exec_posted provider (s.world.outbox o)⟩
  -- A crash loses the programs, not the tables.
  | crashes requests => exact Or.inl ⟨fun u kind => rfl, rfl⟩
  | serves l =>
    cases hq : s.pool.step (machine env) l with
    | none =>
      have hsame : s.after env (.serves l) = s := by simp only [Server.after, hq, Option.getD_none]
      rw [hsame]
      exact Or.inl ⟨fun u kind => rfl, rfl⟩
    | some q =>
      have hworld : (s.after env (.serves l)).world = q.world := by
        simp only [Server.after, hq, Option.getD_some, Server.world]
      rw [hworld]
      rcases Pool.step_cases hq with ⟨i, stmt, k, rfl, hp, -, rfl⟩ | ⟨a, rfl, rfl⟩
      · rcases exec_db env stmt s.world with ⟨seq, hdb⟩ | ⟨work, db', rfl, hcommit, hdb⟩
        · refine Or.inl ⟨fun u kind => ?_, ?_⟩
          · change (exec env stmt s.world).2.db.secretHash u kind = _
            rw [hdb]
            rfl
          · change (exec env stmt s.world).2.db.pendingEmails.map (·.posted) = _
            rw [hdb]
        · exact Or.inr ⟨i, work, db', rfl, by rw [hp]; rfl, hcommit, hdb⟩
      · refine Or.inl ⟨fun u kind => ?_, ?_⟩
        · cases a <;> rfl
        · cases a <;> rfl

/-- **Every other move posts what it stores.** -/
theorem Server.Sound.posts {s : Server ι} (h : s.Sound env) {m : ServerMove ι}
    (hok : ¬ s.Bypasses m) : s.Posts env m := by
  intro u kind hash hafter hbefore
  rcases s.after_cases env m with ⟨hsame, -⟩ | ⟨i, work, db', rfl, hhead, hcommit, hdb⟩
  · exact absurd ((hsame u kind).symm.trans hafter) hbefore
  · rw [hdb] at hafter ⊢
    -- The hash is new, so the commit has stored it.
    have hstores := (Db.commit_secretHash hcommit hafter).resolve_left hbefore
    -- A request that may issue this commit posts, unless it bypasses.
    have hmay : (s.requests i).MayIssue env (.commit work) := by
      have hprog := h i
      cases hp : s.pool.prog i with
      | pure a => simp [hp, Prog.head?] at hhead
      | raise e => simp [hp, Prog.head?] at hhead
      | stmt stmt k =>
        rw [hp] at hprog hhead
        cases hhead
        exact (Prog.issues_stmt.mp hprog).1
    have hposted := hmay.resolve_left fun hbypass => hok ⟨work, db', hhead, hbypass, hcommit⟩
    obtain ⟨mail, hmail, hconveys⟩ := hposted u kind hash hstores
    -- The commit appends the row of the mail, fresh and so eligible.
    obtain ⟨rows, hrows, hposts, hfresh⟩ := Db.commit_rows hcommit
    rw [← hposts] at hmail
    obtain ⟨e, he, rfl⟩ := List.mem_map.mp hmail
    refine ⟨e, ?_, ?_, hconveys⟩
    · rw [hrows, List.drop_left]
      exact he
    · obtain ⟨hstatus, hretry⟩ := hfresh e he
      simp [PendingEmail.eligible, hstatus, hretry]

/-- No move makes a row unreadable. -/
theorem Server.after_rows (env : Env) (s : Server ι) (m : ServerMove ι) {e : PendingEmail}
    (he : e ∈ s.world.db.pendingEmails) :
    ∃ e' ∈ (s.after env m).world.db.pendingEmails, e'.posted = e.posted := by
  rcases s.after_cases env m with ⟨-, hsame⟩ | ⟨i, work, db', -, -, hcommit, hdb⟩
  · have hmem := List.mem_map_of_mem (f := (·.posted)) he
    rw [← hsame] at hmem
    obtain ⟨e', he', hposted⟩ := List.mem_map.mp hmem
    exact ⟨e', he', hposted⟩
  · obtain ⟨rows, hrows, -⟩ := Db.commit_rows hcommit
    rw [hdb, hrows]
    exact ⟨e, List.mem_append_left _ he, rfl⟩

/-- A move that posts what it stores keeps every secret in the outbox. -/
theorem Server.Posts.outboxed {s : Server ι} {m : ServerMove ι} (h : s.Posts env m)
    (hout : s.world.Outboxed env) : (s.after env m).world.Outboxed env := by
  intro u kind hash hafter
  by_cases hbefore : s.world.db.secretHash u kind = some hash
  · obtain ⟨e, he, hconveys⟩ := hout u kind hash hbefore
    obtain ⟨e', he', hposted⟩ := s.after_rows env m he
    exact ⟨e', he', hposted ▸ hconveys⟩
  · obtain ⟨e, he, -, hconveys⟩ := h u kind hash hafter hbefore
    exact ⟨e, List.mem_of_mem_drop he, hconveys⟩

/-! ### Every run -/

/-- There are no secrets at the start. -/
theorem World.Seeded.outboxed {w : World} (hw : w.Seeded) : w.Outboxed env := by
  intro u kind hash h
  have hsession : ∀ s, Keyed.get? w.db.sessions u = some s → ∃ id, s = { userId := id } := by
    intro s hs
    have hmem := Keyed.mem_of_get? hs
    rw [hw.sessions] at hmem
    obtain ⟨v, -, rfl⟩ := List.mem_map.mp hmem
    exact ⟨v.id, rfl⟩
  have hactivation : ∀ a, Keyed.get? w.db.activations u = some a → ∃ id, a = { userId := id } := by
    intro a ha
    have hmem := Keyed.mem_of_get? ha
    rw [hw.activations] at hmem
    obtain ⟨v, -, rfl⟩ := List.mem_map.mp hmem
    exact ⟨v.id, rfl⟩
  cases kind with
  | invite =>
    obtain ⟨a, ha, hhash⟩ := Option.bind_eq_some_iff.mp h
    obtain ⟨id, rfl⟩ := hactivation a ha
    cases hhash
  | resetPassword =>
    obtain ⟨s, hs, hhash⟩ := Option.bind_eq_some_iff.mp h
    obtain ⟨id, rfl⟩ := hsession s hs
    cases hhash
  | emailChange =>
    obtain ⟨s, hs, hhash⟩ := Option.bind_eq_some_iff.mp h
    obtain ⟨id, rfl⟩ := hsession s hs
    cases hhash

/-- **Every secret has its row in the outbox in every reachable state**, whatever crashed on
the way, and got it from the transaction that stored it, as long as no commit bypasses the
outbox. -/
theorem secrets_outboxed (env : Env) (w : World) (hw : w.Seeded) (requests : ι → Request)
    (moves : List (ServerMove ι))
    (h : Run.Throughout (Server.after env) (fun s m => ¬ s.Bypasses m) (w.server env requests)
      moves) :
    ((w.server env requests).run env moves).world.Outboxed env ∧
      Run.Throughout (Server.after env) (Server.Posts env) (w.server env requests) moves := by
  have hrun : ∀ (moves : List (ServerMove ι)) (s : Server ι), s.Sound env →
      s.world.Outboxed env → Run.Throughout (Server.after env) (fun s m => ¬ s.Bypasses m) s moves →
      (s.run env moves).world.Outboxed env ∧
        Run.Throughout (Server.after env) (Server.Posts env) s moves := by
    intro moves
    induction moves with
    | nil => exact fun s _ hout _ => ⟨hout, trivial⟩
    | cons m moves ih =>
      intro s hs hout hok
      have hposts := hs.posts hok.1
      obtain ⟨hend, hrest⟩ := ih _ (hs.after m) (hposts.outboxed hout) hok.2
      exact ⟨hend, hposts, hrest⟩
  exact hrun moves _ (World.server_sound env w requests) hw.outboxed h

/-- A server that is asked for neither of the two never bypasses the outbox. -/
theorem Server.throughout_of_requests {s : Server ι} {moves : List (ServerMove ι)}
    (hs : ∀ i work, ¬ (s.requests i).Bypasses work)
    (hmoves : ∀ requests, ServerMove.crashes requests ∈ moves →
      ∀ i work, ¬ (requests i).Bypasses work) :
    Run.Throughout (Server.after env) (fun s m => ¬ s.Bypasses m) s moves := by
  induction moves generalizing s with
  | nil => trivial
  | cons m moves ih =>
    have hrest := fun requests hmem => hmoves requests (List.mem_cons_of_mem m hmem)
    cases m with
    | works provider o stmt => exact ⟨id, ih hs hrest⟩
    | crashes requests => exact ⟨id, ih (hmoves requests List.mem_cons_self) hrest⟩
    | serves l =>
      refine ⟨?_, ih hs hrest⟩
      cases l with
      | env a => exact id
      | run i => exact fun ⟨work, _, _, hbypass, _⟩ => hs i work hbypass

end

/-- A row of the outbox can always be delivered again: a retry makes it wait. -/
theorem Outbox.eligible_after_retry {provider : Provider} (hcommit : ∀ o, provider.commit o = none)
    {o : Outbox} (ht : o.Tables) {e : PendingEmail} (he : e ∈ o.rows) :
    ∃ e' ∈ (o.after provider (.retryFailedEmail e.id)).rows,
      e'.posted = e.posted ∧ e'.eligible = true := by
  have hget := Keyed.get?_of_mem ht.nodup he
  rcases o.after_retryFailedEmail hcommit ht e.id with ⟨-, hnone⟩ | ⟨record, hrecord, hafter⟩
  · exact absurd (hget.symm.trans hnone) (by simp)
  · obtain rfl := Keyed.get?_inj hget hrecord
    refine ⟨e.resetForRetry, ?_, rfl, rfl⟩
    rw [hafter]
    exact Keyed.mem_modify.mpr (Or.inl ⟨e, he, rfl, rfl⟩)

/-! ### A crash right after the commit -/

/-- The one request executes its first four statements, and the process dies. -/
def commitAndCrash : List (ServerMove Unit) :=
  List.replicate 4 (.serves (.run ())) ++ [.crashes fun _ => .logout 2]

/-- The reset token an administrator asks for is in the outbox. -/
theorem secrets_outboxed_concrete :
    ∃ e ∈ ((World.concrete.server .concrete fun _ : Unit => .createResetPasswordRequest 1 2).run
        .concrete commitAndCrash).world.db.pendingEmails,
      e.posted.Conveys .concrete 2 .resetPassword "1;" := by
  have hkept : Run.Throughout (Server.after .concrete) (fun s m => ¬ s.Bypasses m)
      (World.concrete.server .concrete fun _ : Unit => .createResetPasswordRequest 1 2)
      commitAndCrash := by
    refine Server.throughout_of_requests (fun _ _ => id) fun requests hmem i work => ?_
    obtain rfl : requests = fun _ => .logout 2 := by simpa [commitAndCrash] using hmem
    exact id
  have h := secrets_outboxed .concrete World.concrete World.concrete_seeded
    (fun _ : Unit => .createResetPasswordRequest 1 2) commitAndCrash hkept
  exact h.1 2 .resetPassword "1;" (by decide +kernel)

/-- **The reset token of a forgotten password is lost**: its hash is stored, and neither a row
of the outbox nor a mail has its text. -/
theorem resetToken_lost :
    ¬ ((World.concrete.server .concrete fun _ : Unit =>
        .createForgotPasswordRequest { username := "lovelace" }).run .concrete
          commitAndCrash).world.Outboxed .concrete ∧
      ((World.concrete.server .concrete fun _ : Unit =>
        .createForgotPasswordRequest { username := "lovelace" }).run .concrete
          commitAndCrash).world.mails = [] := by
  refine ⟨fun h => ?_, by decide +kernel⟩
  obtain ⟨e, he, -⟩ := h 2 .resetPassword "1;" (by decide +kernel)
  have hrows : ((World.concrete.server .concrete fun _ : Unit =>
      .createForgotPasswordRequest { username := "lovelace" }).run .concrete
        commitAndCrash).world.db.pendingEmails = [] := by decide +kernel
  rw [hrows] at he
  exact absurd he List.not_mem_nil

end SmsLite
