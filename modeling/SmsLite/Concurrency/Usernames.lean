import SmsLite.Concurrency.Pools
import SmsLite.Refinement.System

/-!
# Unique usernames

The unique index on `users.username` is checked row by row at every flush, for the columns
the flush sets.  A commit that follows the protocol sets the columns of the row it loaded, so
the check is enough, whatever runs in between; a request served alone is a special case.

## Main definitions

* `Db.UniqueUsernames` — no two users have one username.

## Main results

* `Db.commit_usernames` — a commit keeps the usernames apart.
* `usernames_serveAll` — **so does every schedule**.
* `World.serveAll_solo` — serving one request is a schedule.
* `World.Sound.usernames_after` — so does every event of a sequential run.
* `World.userNamed_of_account` — a username stands for its user.
-/

namespace SmsLite

open Interleave

variable {env : Env} {w : World}

/-- No two users have one username. -/
def Db.UniqueUsernames (db : Db) : Prop := (db.users.map (·.username)).Nodup

instance (db : Db) : Decidable db.UniqueUsernames :=
  inferInstanceAs (Decidable (db.users.map (·.username)).Nodup)

/-- A flush that sets the username has found no other user with it. -/
theorem Db.username_free {db : Db} {old : Option User} {new : User}
    (hcheck : db.checkUser old new = none) (hchanged : changed old new (·.username) = true)
    {v : User} (hv : v ∈ db.users) (hid : v.id ≠ new.id) : v.username ≠ new.username := by
  intro hsame
  have hany : (db.others new).any (fun v => v.username = new.username) = true :=
    List.any_eq_true.mpr ⟨v, List.mem_filter.mpr ⟨hv, by simpa using hid⟩, by simpa using hsame⟩
  simp only [Db.checkUser, hchanged, hany, Bool.and_self, if_true] at hcheck
  split at hcheck <;> cases hcheck

/-- **A commit keeps the usernames apart.** -/
theorem Db.commit_usernames {c : Tx} {db db' : Db} {now : Time} {work : UnitOfWork}
    (hids : (Keyed.keys db.users).Nodup) (hnames : db.UniqueUsernames)
    (hmay : c.MayCommit env work) (h : db.commit now work = .ok db') : db'.UniqueUsernames := by
  cases work with
  | update l d mails =>
    obtain ⟨user, hrow, hcheck, husers, -⟩ := Db.commit_update h
    have hid : user.id = l.user.id := by
      rw [← hmay.2.1.id, ← UserDraft.draft_of_toRow hrow]
      rfl
    rw [UniqueUsernames, husers]
    refine Keyed.nodup_modify _ hids hnames fun r _ _ => ?_
    by_cases hsame : user.username = l.user.username
    · exact Or.inl (if_pos hsame)
    · refine Or.inr fun v hv hne => ?_
      have hfree := Db.username_free hcheck (by simp [changed, Ne.symm hsame]) hv (hid ▸ hne)
      rwa [show (User.write l.user user r).username = user.username from written_of_ne _ hsame]
  | register user activation session loginLockout mail =>
    obtain ⟨hnew, husers, -⟩ := Db.commit_register h
    have hfree : ∀ v ∈ db.users, v.username ≠ user.username := by
      intro v hv
      have hne : v.id ≠ user.id := fun hid => hnew (hid ▸ List.mem_map_of_mem hv)
      simp only [Db.commit, if_neg hnew] at h
      split at h
      · cases h
      · next hcheck => exact Db.username_free hcheck rfl hv hne
    rw [UniqueUsernames, husers, List.map_append, List.map_singleton, ← List.concat_eq_append]
    refine List.Nodup.concat (fun hmem => ?_) hnames
    obtain ⟨v, hv, hsame⟩ := List.mem_map.mp hmem
    exact hfree v hv hsame

/-! ### Schedules -/

section Schedules

variable {ι : Type} [DecidableEq ι]

/-- Every statement keeps the usernames apart. -/
theorem usernames_inductive (env : Env) (d₀ : ℕ) :
    Pool.Inductive (machine env) (protocol env) (Tx.Post env) Tx.close (fun _ _ _ => True)
      fun w owner c => Tracks (ι := ι) env d₀ w owner c ∧ w.db.UniqueUsernames := by
  refine Tracks.conj ?_ ?_ ?_
  · intro p c i s k w' owner' c' htracks hnames _ hallowed _ _ hm
    cases hm with
    | commits work db' hcommit =>
      exact Db.commit_usernames htracks.ids hnames hallowed.2 hcommit
    | idles _ _ husers =>
      rw [Db.UniqueUsernames, husers]
      exact hnames
    | _ => exact hnames
  · exact fun w owner c i r _ h => h
  · intro w owner c o h
    cases o <;> exact h

/-- **Every schedule keeps the usernames apart.** -/
theorem usernames_serveAll (env : Env) (w : World) (requests : ι → Request)
    (hids : (Keyed.keys w.db.users).Nodup) (hnames : w.db.UniqueUsernames) (schedule : Schedule ι)
    (p : Pool Stmt Stmt.Reply Exn Response World ι AdvisoryLock)
    (h : w.serveAll env requests schedule = some p) : p.world.db.UniqueUsernames :=
  (World.serveAll_invariant (usernames_inductive env w.draws) ⟨.start env requests hids, hnames⟩
    (Pool.always_true _ _ _) h).1.2

end Schedules

/-! ### Sequential runs -/

/-- **Serving one request is a schedule**, in which it runs alone. -/
theorem World.serveAll_solo (env : Env) (w : World) (r : Request) :
    ∃ schedule p, w.serveAll env (fun _ : Unit => r) schedule = some p ∧
      p.world = w.after env (.request r) ∧ (p.prog ()).result? = some (w.respond env r) := by
  obtain ⟨n, p, hexec, hworld, hresult, -⟩ := Pool.exec_solo (M := machine env) () (r.service env)
    (w.pool env fun _ : Unit => r) rfl (by intro _ _ h; cases h)
  exact ⟨_, p, hexec, hworld, hresult⟩

/-- **Every event keeps the usernames apart.** -/
theorem World.Sound.usernames_after (hs : w.Sound) (hnames : w.db.UniqueUsernames) (env : Env)
    (e : Event) : (w.after env e).db.UniqueUsernames := by
  cases e with
  | request r =>
    obtain ⟨schedule, p, h, hworld, -⟩ := w.serveAll_solo env r
    rw [← hworld]
    exact usernames_serveAll env w _ hs.db.nodup hnames schedule p h
  | outside o => cases o <;> exact hnames

theorem World.Sound.usernames_run (hs : w.Sound) (hnames : w.db.UniqueUsernames) (env : Env)
    (events : List Event) : (w.run env events).db.UniqueUsernames :=
  (Run.invariant' (I := fun w : World => w.Sound ∧ w.db.UniqueUsernames)
    (fun _ e h => ⟨h.1.after env e, h.1.usernames_after h.2 env e⟩) ⟨hs, hnames⟩ events).2

/-- A username stands for its user. -/
theorem World.userNamed_of_account (hnames : w.db.UniqueUsernames) {u : UserId} {acc : Account}
    (hacc : w.account u = some acc) : w.db.userNamed acc.user.username = some u := by
  have hmem := Keyed.mem_of_get? (World.account_user hacc)
  obtain ⟨v, hv⟩ : ∃ v, w.db.users.find? (fun v => v.username = acc.user.username) = some v := by
    rw [← Option.isSome_iff_exists, List.find?_isSome]
    exact ⟨_, hmem, by simp⟩
  have hsame : v.username = acc.user.username := by simpa using List.find?_some hv
  obtain rfl : v = acc.user :=
    List.inj_on_of_nodup_map hnames (List.mem_of_find?_eq_some hv) hmem hsame
  rw [Db.userNamed, hv, Option.map_some, World.account_id hacc]

end SmsLite
