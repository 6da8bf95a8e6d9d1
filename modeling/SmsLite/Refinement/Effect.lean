import SmsLite.Refinement.Footprint
import SmsLite.Sequential

/-!
# What a request does to the accounts

A request served from beginning to end leaves all accounts alone, or takes one account
through one `Account.Step`, or registers one.

## Main definitions

* `Effect`, `Acts` — what serving a request does to the accounts.
* `Served`, `Serves` — the same, with what it leaves besides them.
* `World.Sound` — coherent tables and sound accounts.

## Main results

* `Serves.failed`, `Serves.read`, `Serves.moved`, ... — the ways to serve a request.
-/

namespace SmsLite

open Interleave
open Interleave.Prog (Ends ends_bind)

/-! ### What a request does -/

/-- A reader. -/
def Request.isRead : Request → Bool
  | getCurrentUser _ | getTeacherByIdAdmin _ | getStudentByIdAdmin _ | getTeacherByIdDirector _
  | getStudentByIdDirector _ | getMyProfile _ | getMyStudentProfile _ => true
  | _ => false

/-- An outcome that says nothing was done. -/
inductive Quiet (env : Env) (w : World) (r : Request) : Outcome → Prop
  /-- A read. -/
  | read (response : Response) (hr : r.isRead = true) (htokens : ∀ t, response ≠ .tokens t) :
      Quiet env w r (.ok response)
  /-- An exception, outside the security-violation branch. -/
  | failed (e : Exn) (hrevoking : ∀ id acc, r.target? env w = some id → w.account id = some acc →
      ¬ acc.Revoking env w.clock r (.error e)) : Quiet env w r (.error e)
  /-- The account does not exist and the caller is not told. -/
  | absent (response : Response) (htokens : ∀ t, response ≠ .tokens t)
      (hnone : ∀ id, r.target? env w = some id → w.account id = none) : Quiet env w r (.ok response)

/-- What serving `r` in `w`, which ends with `out` in `w'`, does to the accounts. -/
inductive Effect (env : Env) (w : World) (r : Request) (out : Outcome) (w' : World) : Prop
  /-- Nothing. -/
  | quiet (haccounts : ∀ j, w'.account j = w.account j) (hcoherent : w'.Coherent)
      (hdraws : w.draws ≤ w'.draws) (hquiet : Quiet env w r out)
  /-- The account it is about takes a step. -/
  | moved (id : UserId) (acc acc' : Account) (htarget : r.target? env w = some id)
      (hacc : w.account id = some acc)
      (hstep : acc.Step env w.clock w.draws r out acc' w'.draws) (hmoved : Moved w w' id acc')
  /-- A new account. -/
  | registered (currentUserId : UserId) (createRequest : CreateUserRequest) (user : User)
      (hr : r = .registerUser currentUserId createRequest) (hout : out = .ok (.user user))
      (huser : user = { createRequest.newUser currentUserId user.id with createdAt := w.clock })
      (hnone : w.account user.id = none)
      (hmoved : Moved w w' user.id (Account.registered env w.clock w.draws user))
      (hdraws : w'.draws = w.draws + 1)

/-- Tokens are answered for a step of an account. -/
theorem Effect.step_of_tokens {env : Env} {w w' : World} {r : Request} {t : LoginResponse}
    (h : Effect env w r (.ok (.tokens t)) w') :
    ∃ id acc acc', r.target? env w = some id ∧ w.account id = some acc ∧
      acc.Step env w.clock w.draws r (.ok (.tokens t)) acc' w'.draws ∧ Moved w w' id acc' := by
  cases h with
  | quiet _ _ _ hquiet =>
    cases hquiet with
    | read _ _ htokens => exact absurd rfl (htokens t)
    | absent _ htokens => exact absurd rfl (htokens t)
  | registered _ _ _ _ hout => cases hout
  | moved id acc acc' htarget hacc hstep hmoved =>
    exact ⟨id, acc, acc', htarget, hacc, hstep, hmoved⟩

/-- The effect, with the clock standing still and nothing missing. -/
structure Acts (env : Env) (w : World) (r : Request) (out : Outcome) (w' : World) : Prop where
  effect : Effect env w r out w'
  clock : w'.clock = w.clock
  crashFree : ∀ e, out = .error e → e.isCrash = false

/-- What serving `r` in `w`, which ends with `out` in `w'`, does to the accounts and leaves
besides them. -/
inductive Served (env : Env) (w : World) (r : Request) (out : Outcome) (w' : World) : Prop
  /-- Nothing, but perhaps a cached detail. -/
  | quiet (haccounts : ∀ j, w'.account j = w.account j) (hcoherent : w'.Coherent)
      (hdraws : w.draws ≤ w'.draws) (hquiet : Quiet env w r out)
      (hleaves : w.Leaves w' [] [] (r.details w))
  /-- The account it is about takes a step. -/
  | moved (id : UserId) (acc acc' : Account) (htarget : r.target? env w = some id)
      (hacc : w.account id = some acc)
      (hstep : acc.Step env w.clock w.draws r out acc' w'.draws) (hmoved : Moved w w' id acc')
      (hleaves : w.Leaves w' (r.posts env w.draws acc acc') (r.sends env w.draws acc acc')
        (w.forgetting (r.forgets id)))
  /-- A new account. -/
  | registered (currentUserId : UserId) (createRequest : CreateUserRequest) (user : User)
      (hr : r = .registerUser currentUserId createRequest) (hout : out = .ok (.user user))
      (huser : user = { createRequest.newUser currentUserId user.id with createdAt := w.clock })
      (hnone : w.account user.id = none)
      (hmoved : Moved w w' user.id (Account.registered env w.clock w.draws user))
      (hdraws : w'.draws = w.draws + 1)
      (hleaves : w.Leaves w' [inviteMail (env.tokenUrlsafe w.draws) user.username user.email
        currentUserId user.id] [] w.cache)

/-- The accounts alone. -/
theorem Served.effect {env : Env} {w w' : World} {r : Request} {out : Outcome}
    (h : Served env w r out w') : Effect env w r out w' := by
  cases h with
  | quiet haccounts hcoherent hdraws hquiet _ => exact .quiet haccounts hcoherent hdraws hquiet
  | moved id acc acc' htarget hacc hstep hmoved _ =>
    exact .moved id acc acc' htarget hacc hstep hmoved
  | registered currentUserId createRequest user hr hout huser hnone hmoved hdraws _ =>
    exact .registered currentUserId createRequest user hr hout huser hnone hmoved hdraws

/-- What a request does to the account it is about. -/
theorem Served.of_target {env : Env} {w w' : World} {r : Request} {out : Outcome}
    (h : Served env w r out w') {id : UserId} {acc : Account} (htarget : r.target? env w = some id)
    (hacc : w.account id = some acc) :
    (Quiet env w r out ∧ w'.account id = some acc ∧ w.Leaves w' [] [] (r.details w)) ∨
      ∃ acc', acc.Step env w.clock w.draws r out acc' w'.draws ∧ w'.account id = some acc' ∧
        w.Leaves w' (r.posts env w.draws acc acc') (r.sends env w.draws acc acc')
          (w.forgetting (r.forgets id)) := by
  cases h with
  | quiet haccounts _ _ hquiet hleaves =>
    exact Or.inl ⟨hquiet, (haccounts id).trans hacc, hleaves⟩
  | moved id' acc₀ acc' htarget' hacc₀ hstep hmoved hleaves =>
    obtain rfl : id' = id := Option.some.inj (htarget'.symm.trans htarget)
    obtain rfl : acc₀ = acc := Option.some.inj (hacc₀.symm.trans hacc)
    exact Or.inr ⟨acc', hstep, hmoved.account, hleaves⟩
  | registered _ _ _ hr =>
    subst hr
    cases htarget

/-- The request is served, with the clock standing still and nothing missing. -/
structure Serves (env : Env) (w : World) (r : Request) (out : Outcome) (w' : World) : Prop where
  served : Served env w r out w'
  clock : w'.clock = w.clock
  crashFree : ∀ e, out = .error e → e.isCrash = false

theorem Serves.acts {env : Env} {w w' : World} {r : Request} {out : Outcome}
    (h : Serves env w r out w') : Acts env w r out w' := ⟨h.served.effect, h.clock, h.crashFree⟩

/-- Every account of the state is sound. -/
structure World.Sound (w : World) : Prop extends w.Coherent where
  accounts : ∀ id acc, w.account id = some acc → acc.Sound

section Serves

variable {env : Env} {w : World} {r : Request}

/-- The errors of a failed request other than `refresh_token`. -/
theorem not_revoking_error {now : Time} {acc : Account} {e : Exn}
    (hr : ∀ token family, r ≠ .refreshToken token family) :
    ¬ acc.Revoking env now r (.error e) := by
  cases r <;> simp_all [Account.Revoking]

/-- A failed request that drew some random values. -/
theorem Serves.failed (hc : w.Coherent) (e : Exn) (draws : ℕ) (hdraws : w.draws ≤ draws)
    (hcrash : e.isCrash = false) (hdetails : r.details w = w.cache)
    (hrevoking : ∀ id acc, r.target? env w = some id → w.account id = some acc →
      ¬ acc.Revoking env w.clock r (.error e)) :
    Serves env w r (.error e) { w with draws := draws } where
  served := .quiet (fun _ => rfl) ⟨hc.db, hc.orphans⟩ hdraws (.failed e hrevoking)
    ⟨rfl, rfl, rfl, (List.append_nil _).symm, fun key _ => by rw [hdetails]⟩
  clock := rfl
  crashFree := by
    rintro _ ⟨⟩
    exact hcrash

/-- A failed request other than `refresh_token` that drew nothing. -/
theorem Serves.refused (hc : w.Coherent) (e : Exn) (hcrash : e.isCrash = false)
    (hdetails : r.details w = w.cache) (hr : ∀ token family, r ≠ .refreshToken token family) :
    Serves env w r (.error e) w :=
  .failed hc e w.draws le_rfl hcrash hdetails fun _ _ _ _ => not_revoking_error hr

/-- A read that left the tables and the version keys alone. -/
theorem Serves.read (hc : w.Coherent) (hr : r.isRead = true) {response : Response}
    (htokens : ∀ t, response ≠ .tokens t) {cache : CacheKey → Option CacheValue}
    (hcache : ∀ j, cache (.accessTokenVersionKey j) = w.cache (.accessTokenVersionKey j))
    (hdetails : r.details w = cache) :
    Serves env w r (.ok response) { w with cache := cache } where
  served := .quiet (fun j => by simp only [World.account, hcache j])
    ⟨hc.db, fun j hj => (hcache j).trans (hc.orphans j hj)⟩ le_rfl (.read response hr htokens)
    ⟨rfl, rfl, rfl, (List.append_nil _).symm, fun key _ => by rw [hdetails]⟩
  clock := rfl
  crashFree := by intro _ h; cases h

/-- A request about an account that does not exist. -/
theorem Serves.absent (hc : w.Coherent) {response : Response} (htokens : ∀ t, response ≠ .tokens t)
    (draws : ℕ) (hdraws : w.draws ≤ draws) (hdetails : r.details w = w.cache)
    (hnone : ∀ id, r.target? env w = some id → w.account id = none) :
    Serves env w r (.ok response) { w with draws := draws } where
  served := .quiet (fun _ => rfl) ⟨hc.db, hc.orphans⟩ hdraws (.absent response htokens hnone)
    ⟨rfl, rfl, rfl, (List.append_nil _).symm, fun key _ => by rw [hdetails]⟩
  clock := rfl
  crashFree := by intro _ h; cases h

/-- A request that took an account through a step. -/
theorem Serves.step {id : UserId} {acc acc' : Account} {out : Outcome} {w' : World} {draws' : ℕ}
    (htarget : r.target? env w = some id) (hacc : w.account id = some acc)
    (hstep : acc.Step env w.clock w.draws r out acc' draws') (hmoved : Moved w w' id acc')
    (hleaves : w.Leaves w' (r.posts env w.draws acc acc') (r.sends env w.draws acc acc')
      (w.forgetting (r.forgets id)))
    (hclock : w'.clock = w.clock) (hdraws : w'.draws = draws')
    (hcrash : ∀ e, out = .error e → e.isCrash = false) : Serves env w r out w' where
  served := by
    subst hdraws
    exact .moved id acc acc' htarget hacc hstep hmoved hleaves
  clock := hclock
  crashFree := hcrash

/-- A request that took an account through a step and succeeded. -/
theorem Serves.moved {id : UserId} {acc acc' : Account} {response : Response} {w' : World}
    {draws' : ℕ} (htarget : r.target? env w = some id) (hacc : w.account id = some acc)
    (hstep : acc.Step env w.clock w.draws r (.ok response) acc' draws')
    (hmoved : Moved w w' id acc')
    (hleaves : w.Leaves w' (r.posts env w.draws acc acc') (r.sends env w.draws acc acc')
      (w.forgetting (r.forgets id)))
    (hclock : w'.clock = w.clock) (hdraws : w'.draws = draws') :
    Serves env w r (.ok response) w' :=
  .step htarget hacc hstep hmoved hleaves hclock hdraws (by intro _ h; cases h)

theorem DbError.exn_isCrash (e : DbError) : e.exn.isCrash = false := by
  cases e <;> rfl

/-- The user an account's loaded objects make, with its companions. -/
theorem Account.owns_dirty {acc : Account} (db : Db) (q : UserQuery) :
    acc.Owns (acc.loaded db q).dirty := by
  constructor <;> simp [Account.loaded, Loaded.dirty, User.draft]

end Serves

end SmsLite
