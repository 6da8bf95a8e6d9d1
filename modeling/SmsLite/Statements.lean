import SmsLite.System

/-!
# The statements of the helpers

Which statements the helpers of the services issue, for any condition `A` on statements: a
program that issues only statements with `A` issues them whatever the replies are.

## Main results

* `issues_checkContactLimit`, `issues_exceptIntegrityError`, ... — one rule for each helper.
-/

namespace SmsLite

open Interleave
open Interleave.Prog (Issues issues_call issues_ite)

section Rules

variable {A : Stmt → Prop} {α β : Type}

/-- The program issues only statements with `A`. -/
abbrev OnlyIssues (A : Stmt → Prop) (p : Service α) : Prop := Issues A (fun _ _ => True) p

theorem issues_raise (e : Exn) : OnlyIssues A (raise e : Service α) := trivial

theorem issues_pure (a : α) : OnlyIssues A (pure a : Service α) := trivial

theorem issues_ensureExists (obj : Option α) (e : Exn) : OnlyIssues A (ensureExists obj e) := by
  cases obj <;> trivial

theorem issues_deref (name : String) (obj : Option α) : OnlyIssues A (deref name obj) := by
  cases obj <;> trivial

theorem issues_ofExcept (x : Except Exn α) : OnlyIssues A (ofExcept x) := by
  cases x <;> trivial

theorem issues_hashPassword {password : String} (h : A (.hashPassword password)) :
    OnlyIssues A (hashPassword password) :=
  (issues_call h).bind fun _ => issues_ofExcept _

theorem issues_verifyPassword {plain : String} {hashed : Option String}
    (h : A (.verifyPassword plain hashed)) : OnlyIssues A (verifyPassword plain hashed) :=
  (issues_call h).bind fun _ => issues_ofExcept _

theorem issues_onlyIf {condition : Bool} {p : Service Unit} (h : OnlyIssues A p) :
    OnlyIssues A (onlyIf condition p) := by
  cases condition with
  | false => exact issues_pure _
  | true => exact h

theorem issues_refresh {id : UserId} (h : A (.refresh id)) : OnlyIssues A (refresh id) :=
  (issues_call h).bind fun _ => issues_ensureExists _ _

theorem issues_checkContact {role : Option UserRole} {exclude : Option UserId}
    (h : ∀ contact, A (.countUsersWithContact role contact exclude)) (contact : Option Contact)
    (maxAllowed : ℕ) (students teachers : Exn) :
    OnlyIssues A (checkContact role contact maxAllowed exclude students teachers) := by
  cases contact with
  | none => exact issues_pure _
  | some contact =>
    refine (issues_call (h contact)).bind fun (count : ℕ) => ?_
    exact issues_ite (fun _ => issues_raise _) fun _ => issues_pure _

theorem issues_checkContactLimit {role : Option UserRole} {exclude : Option UserId}
    (h : ∀ contact, A (.countUsersWithContact role contact exclude))
    (phoneNumber email : Option String) (maxAllowed : ℕ) :
    OnlyIssues A (checkContactLimit phoneNumber email role maxAllowed exclude) :=
  (issues_checkContact h _ _ _ _).bind fun _ => issues_checkContact h _ _ _ _

theorem issues_acquireLockFor {lock : String → AdvisoryLock}
    (h : ∀ text, A (.advisoryLock (lock text))) (text : Option String) :
    OnlyIssues A (acquireLockFor lock text) := by
  cases text with
  | none => exact issues_pure _
  | some text => exact issues_ite (fun _ => issues_pure _) fun _ => issues_call (h text)

theorem issues_checkStudentContact {env : Env} (hlock : ∀ lock, A (.advisoryLock lock))
    (hcount : ∀ role contact exclude, A (.countUsersWithContact role contact exclude))
    (applies : Bool) (phoneNumber email : Option String) (excludeUserId : UserId) :
    OnlyIssues A (checkStudentContact env applies phoneNumber email excludeUserId) :=
  issues_onlyIf
    (((issues_acquireLockFor (fun _ => hlock _) _).bind fun _ =>
      issues_acquireLockFor (fun _ => hlock _) _).bind fun _ =>
        issues_checkContactLimit (hcount _ · _) _ _ _)

theorem issues_exceptIntegrityError (h : A .rollback) (mapsUsername mapsContacts : Bool)
    (e : DbError) :
    OnlyIssues A (exceptIntegrityError mapsUsername mapsContacts e : Service α) := by
  cases e with
  | data orig => exact issues_raise _
  | integrity orig =>
    have husername : OnlyIssues A (handleUsernameIntegrityError orig) :=
      issues_ite (fun _ => issues_raise _) fun _ => issues_pure _
    have hcontact : OnlyIssues A (handleNonStudentUniqueContactError orig) :=
      issues_ite (fun _ => issues_raise _) fun _ =>
        issues_ite (fun _ => issues_raise _) fun _ => issues_pure _
    exact (issues_call h).bind fun _ => (issues_onlyIf husername).bind fun _ =>
      (issues_onlyIf hcontact).bind fun _ => issues_raise _

theorem issues_updateObject (instance_ assigned : UserDraft) :
    OnlyIssues A (updateObject instance_ assigned) :=
  issues_ite (fun _ => issues_raise _) fun _ => issues_pure _

theorem issues_reissueInvite {env : Env} (htoken : A .tokenUrlsafe) (hnow : A .now)
    (currentUserId : UserId) (targetUser : Loaded) (username email : Option String) :
    OnlyIssues A (reissueInvite env currentUserId targetUser username email) :=
  (issues_call htoken).bind fun _ => (issues_call hnow).bind fun _ =>
    (issues_deref _ _).bind fun _ => issues_pure _

end Rules

end SmsLite
