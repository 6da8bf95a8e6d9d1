import SmsLite.Columns.Catalogue
import SmsLite.Roles

/-!
# Which accepted bodies the tables take

Eight operations write what a schema has accepted.  An accepted body that a column does not take
ends in an error of the driver or the server that no service catches, and the client is told of
an internal error.

## Main definitions

* `WriteRequest` — the eight operations, with accepted bodies.
* `Backend.Constrained` — every stored row fits its columns.
* `WriteRequest.Answers`, `WriteRequest.Storable` — the request runs without a refused statement,
  and the condition for it.

## Main results

* `writeRequest_answers_iff` — **a request runs without a refused statement exactly if what it
  writes fits**.
* `nullFirstname_refused` — the schemas do not make sure of it.
-/

namespace SmsLite

open Interleave

/-! ### Requests -/

/-- A request of an operation that writes a payload: the body, and what its schema makes of it.
The schemas of groups change nothing. -/
inductive WriteRequest (V : Validation)
  | registerUser (currentUserId : UserId) (body : CreateUserRequest.Body)
      (createRequest : CreateUserRequest) (accepted : body.validate V = .ok createRequest)
  | updateUser (targetUserId : UserId) (body : UpdateUserRequest.Body)
      (updateRequest : UpdateUserRequest) (accepted : body.validate V = .ok updateRequest)
  | updateUserCredentials (currentUserId targetUserId : UserId)
      (body : UpdateUserCredentials.Body) (updateRequest : UpdateUserCredentials)
      (accepted : body.validate = .ok updateRequest)
  | updateMeCredentials (currentUserId : UserId) (body : UpdateUserCredentials.Body)
      (updateRequest : UpdateUserCredentials) (accepted : body.validate = .ok updateRequest)
  | createGroup (createRequest : CreateGroupAdmin)
  | updateGroup (groupId : ℕ) (updateRequest : UpdateGroupAdmin)
  | createSubject (body : CreateSubjectAdmin.Body) (createRequest : CreateSubjectAdmin)
      (accepted : body.validate V = .ok createRequest)
  | updateSubject (subjectId : ℕ) (body : UpdateSubjectAdmin.Body) (request : UpdateSubjectAdmin)
      (accepted : body.validate V = .ok request)

/-- Every stored row fits its columns. -/
structure Backend.Constrained (b : Backend) : Prop where
  users : b.world.db.Constrained
  groups : b.school.store.Constrained
  subjects : b.subjects.Constrained

namespace WriteRequest

variable {V : Validation}

/-- The user whose id the request writes or looks up as that of the caller. -/
def caller? : WriteRequest V → Option UserId
  | registerUser currentUserId _ _ _ | updateUserCredentials currentUserId _ _ _ _
  | updateMeCredentials currentUserId _ _ _ => some currentUserId
  | _ => none

/-- The request commits or ends with an `AppException`, and the database refuses none of its
values. -/
def Answers (env : Env) (b : Backend) : WriteRequest V → Prop
  | registerUser currentUserId _ r _ =>
    (SmsLite.registerUser env currentUserId r).Answers env b.world
  | updateUser id _ r _ => (SmsLite.updateUser env id r).Answers env b.world
  | updateUserCredentials currentUserId id _ r _ =>
    (SmsLite.updateUserCredentials env currentUserId id r).Answers env b.world
  | updateMeCredentials currentUserId _ r _ =>
    (SmsLite.updateMeCredentials env currentUserId r).Answers env b.world
  | createGroup r => (GroupServiceAdmin.createGroup r).Answers b.school.store
  | updateGroup id r => (GroupServiceAdmin.updateGroup id r).Answers b.school.store
  | createSubject _ r _ => (SubjectServiceAdmin.createSubject r).Answers b.subjects
  | updateSubject id _ r _ => (SubjectServiceAdmin.updateSubject id r).Answers b.subjects

/-- An id in a path fits, and if the request gets as far as its flush, then what it writes does,
and the rows it takes for granted are there. -/
def Storable (b : Backend) : WriteRequest V → Prop
  | registerUser currentUserId _ r _ =>
    b.world.db.HasRoom r.contactLimitRole r.maxAllowed
        (some r.base.phoneNumber.text) (some r.base.email.text) none →
      r.Insertable b.world.db currentUserId
  | updateUser id _ r _ =>
    FitsId id ∧ ∀ target, r.Flushes b.world.db id target → r.Fits
  | updateUserCredentials _ id _ r _ =>
    FitsId id ∧ ∀ target, r.Overrides b.world.db id target →
      r.Overridable b.world.db target
  | updateMeCredentials currentUserId _ r _ =>
    ∀ target, r.ChangesMe b.world.db currentUserId target →
      r.Changeable b.world target
  | createGroup r => r.Insertable b.school.store
  | updateGroup id r =>
    FitsId id ∧ ∀ target, Keyed.get? b.school.store.rows id = some target →
      r.assign target.draft ≠ target.draft → r.Fits
  | createSubject _ r _ => r.Insertable b.subjects
  | updateSubject id _ r _ =>
    FitsId id ∧ ∀ target, Keyed.get? b.subjects.rows id = some target →
      r.assign target.draft ≠ target.draft → r.Fits

end WriteRequest

/-- **A request runs without a refused statement exactly if what it writes fits**, in every
state whose rows do. -/
theorem writeRequest_answers_iff (env : Env) {V : Validation} {b : Backend} (hb : b.Constrained)
    (r : WriteRequest V)
    (hcaller : ∀ id, r.caller? = some id → id ∈ Keyed.keys b.world.db.users) :
    r.Answers env b ↔ r.Storable b := by
  cases r with
  | registerUser currentUserId _ r haccepted =>
    exact registerUser_answers_iff hb.users (hcaller _ rfl) haccepted
  | updateUser id _ r haccepted => exact updateUser_answers_iff hb.users haccepted id
  | updateUserCredentials currentUserId id _ r haccepted =>
    exact updateUserCredentials_answers_iff hb.users (hcaller _ rfl) haccepted id
  | updateMeCredentials currentUserId _ r haccepted =>
    exact updateMeCredentials_answers_iff hb.users (hcaller _ rfl) haccepted
  | createGroup r => exact createGroup_answers_iff r
  | updateGroup id r => exact updateGroup_answers_iff hb.groups id r
  | createSubject _ r _ => exact createSubject_answers_iff r
  | updateSubject id _ r _ => exact updateSubject_answers_iff hb.subjects id r

/-! ### A refused body -/

theorem Backend.concrete_constrained : Backend.concrete.Constrained where
  users := ⟨by decide +kernel, by decide +kernel⟩
  groups := ⟨by decide +kernel⟩
  subjects := ⟨by decide +kernel⟩

/-- `{"type": "student", "firstname": "augusta"}`. -/
def renameBody : UpdateUserRequest.Body :=
  .student { firstname := .set "augusta", lastname := .unset, middlename := .unset
             phoneNumber := .unset } .unset .unset

/-- An administrator gives the student another name. -/
def renameAda : WriteRequest .concrete :=
  .updateUser 2 renameBody
    (.student { firstname := .set "Augusta", lastname := .unset, middlename := .unset
                phoneNumber := .unset } .unset .unset) (by decide +kernel)

theorem writeRequest_answers_concrete : renameAda.Answers .concrete Backend.concrete := by
  refine (writeRequest_answers_iff .concrete Backend.concrete_constrained renameAda
    (by intro _ h; cases h)).mpr ⟨by decide, fun target _ => ?_⟩
  exact ⟨(by decide : FitsText 50 "Augusta"), trivial, trivial, (by decide), trivial⟩

/-- `{"type": "student", "firstname": null}`, which is a payload as it stands. -/
def nullFirstname : UpdateUserRequest :=
  .student { firstname := .null, lastname := .unset, middlename := .unset
             phoneNumber := .unset } .unset .unset

/-- **The schemas do not make sure of it**: a first name may be set to null, and the client is
told of an internal error. -/
theorem nullFirstname_refused :
    (∃ orig, ((updateUser .concrete 2 nullFirstname).run (exec .concrete)
        Backend.concrete.world).1 = .error (.integrityError orig)) ∧
      ¬ ∀ (V : Validation) (r : WriteRequest V),
        (∀ id, r.caller? = some id → id ∈ Keyed.keys Backend.concrete.world.db.users) →
          Backend.concrete.Constrained → r.Answers .concrete Backend.concrete := by
  refine ⟨⟨_, rfl⟩, fun h => ?_⟩
  have haccepted : UpdateUserRequest.Body.validate .concrete
      (.student { firstname := .null, lastname := .unset, middlename := .unset
                  phoneNumber := .unset } .unset .unset) = .ok nullFirstname := rfl
  have hanswers : (updateUser .concrete 2 nullFirstname).Answers .concrete
      Backend.concrete.world :=
    h _ (.updateUser 2 _ nullFirstname haccepted) (by intro _ h; cases h)
      Backend.concrete_constrained
  obtain ⟨-, hfits⟩ :=
    (updateUser_answers_iff Backend.concrete_constrained.users haccepted 2).mp hanswers
  exact (hfits _ ⟨rfl, rfl, fun h => absurd h (by decide), by decide +kernel⟩).firstname

end SmsLite
