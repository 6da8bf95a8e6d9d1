import SmsLite.GroupService
import SmsLite.Lib.Json
import SmsLite.Lib.Ttl
import SmsLite.Outbox
import SmsLite.SubjectService

/-!
# What Redis holds

All caches are kept in one Redis database, under texts and as JSON.  This module gives the texts
of the keys, the dump of each cache schema and its validation, and shows that neither two keys
nor two values are ever mixed up.

## Main definitions

* `RedisKey`, `RedisValue` — the keys and the values of all caches.
* `RedisKey.text` — the text of a key.
* `IsoFormat` — the texts of dates and moments.
* `RedisValue.dump`, `RedisKey.load` — `model_dump(mode="json")` and `model_validate`.

## Main results

* `RedisKey.text_injective` — **no two keys have one text**.
* `RedisKey.load_dump` — **a value is read back from its dump** under a key of its kind.
-/

namespace SmsLite

/-! ### Keys -/

/-- The keys of all caches. -/
inductive RedisKey
  | user (key : CacheKey)
  | group (key : GroupCacheKey)
  | subject (key : SubjectCacheKey)
  /-- `email_detail_key`. -/
  | email (emailId : ℕ)
  deriving DecidableEq, Repr

/-- The id in a key. -/
def RedisKey.id : RedisKey → ℕ
  | user (.accessTokenVersionKey id) | user (.userDetailKeyAdmin id)
  | user (.userDetailKeyStaff id) | user (.userDetailKeySelf id) | email id
  | subject (.subjectDetailKeyAdmin id) | subject (.subjectDetailKeyStaff id)
  | group (.groupDetailKeyAdmin id) | group (.groupDetailKeyStaff id) => id

/-- What stands before and after the id. -/
def RedisKey.around : RedisKey → String × String
  | user (.accessTokenVersionKey _) => ("user:token_version:", "")
  | user (.userDetailKeyAdmin _) => ("users:detail:", ":admin")
  | user (.userDetailKeyStaff _) => ("users:detail:", ":staff")
  | user (.userDetailKeySelf _) => ("users:detail:", ":self")
  | email _ => ("emails:", ":admin")
  | subject (.subjectDetailKeyAdmin _) => ("subjects:", ":admin")
  | subject (.subjectDetailKeyStaff _) => ("subjects:", ":staff")
  | group (.groupDetailKeyAdmin _) => ("groups:", ":admin")
  | group (.groupDetailKeyStaff _) => ("groups:", ":staff")

/-- The text of a key. -/
def RedisKey.text (key : RedisKey) : String :=
  key.around.1 ++ toString key.id ++ key.around.2

example : (RedisKey.user (.userDetailKeyAdmin 12)).text = "users:detail:12:admin" := by
  decide +kernel

/-- The key of an id between two texts. -/
def RedisKey.ofAround (id : ℕ) : String × String → Option RedisKey
  | ("user:token_version:", "") => some (user (.accessTokenVersionKey id))
  | ("users:detail:", ":admin") => some (user (.userDetailKeyAdmin id))
  | ("users:detail:", ":staff") => some (user (.userDetailKeyStaff id))
  | ("users:detail:", ":self") => some (user (.userDetailKeySelf id))
  | ("emails:", ":admin") => some (email id)
  | ("subjects:", ":admin") => some (subject (.subjectDetailKeyAdmin id))
  | ("subjects:", ":staff") => some (subject (.subjectDetailKeyStaff id))
  | ("groups:", ":admin") => some (group (.groupDetailKeyAdmin id))
  | ("groups:", ":staff") => some (group (.groupDetailKeyStaff id))
  | _ => none

theorem RedisKey.ofAround_around (key : RedisKey) : ofAround key.id key.around = some key := by
  cases key with
  | user key => cases key <;> rfl
  | group key => cases key <;> rfl
  | subject key => cases key <;> rfl
  | email emailId => rfl

/-- The texts around an id have no digits. -/
theorem RedisKey.around_plain (key : RedisKey) :
    (∀ c ∈ key.around.1.toList, c.isDigit = false) ∧
      ∀ c ∈ key.around.2.toList, c.isDigit = false := by
  have hplain : ["", "user:token_version:", "users:detail:", "emails:", "subjects:", "groups:",
      ":admin", ":staff", ":self"].all (fun text => text.toList.all fun c => !c.isDigit) =
        true := by
    decide +kernel
  have htext : ∀ text ∈ ["", "user:token_version:", "users:detail:", "emails:", "subjects:",
      "groups:", ":admin", ":staff", ":self"], ∀ c ∈ text.toList, c.isDigit = false := by
    intro text htext c hc
    simpa using List.all_eq_true.mp (List.all_eq_true.mp hplain text htext) c hc
  constructor
  · apply htext
    cases key with
    | user key => cases key <;> simp [around]
    | group key => cases key <;> simp [around]
    | subject key => cases key <;> simp [around]
    | email emailId => simp [around]
  · apply htext
    cases key with
    | user key => cases key <;> simp [around]
    | group key => cases key <;> simp [around]
    | subject key => cases key <;> simp [around]
    | email emailId => simp [around]

/-- A number between texts without digits shows where it begins and where it ends. -/
theorem framed_inj {before before' after after' : List Char} {n n' : ℕ}
    (hbefore : ∀ c ∈ before, c.isDigit = false) (hbefore' : ∀ c ∈ before', c.isDigit = false)
    (hafter : ∀ c ∈ after, c.isDigit = false) (hafter' : ∀ c ∈ after', c.isDigit = false)
    (h : before ++ (Nat.toDigits 10 n ++ after) = before' ++ (Nat.toDigits 10 n' ++ after')) :
    before = before' ∧ n = n' ∧ after = after' := by
  have hdigits : ∀ n, ∀ c ∈ Nat.toDigits 10 n, c.isDigit = true := fun n c hc =>
    Nat.isDigit_of_mem_toDigits (by omega) (by omega) hc
  have hspan : ∀ (n : ℕ) (after : List Char), (∀ c ∈ after, c.isDigit = false) →
      (Nat.toDigits 10 n ++ after).takeWhile Char.isDigit = Nat.toDigits 10 n ∧
        (Nat.toDigits 10 n ++ after).dropWhile Char.isDigit = after := by
    intro n after hafter
    rw [List.takeWhile_append_of_pos (hdigits n), List.dropWhile_append_of_pos (hdigits n)]
    cases after with
    | nil => exact ⟨List.append_nil _, rfl⟩
    | cons c cs =>
      have hc := hafter c List.mem_cons_self
      simp [hc]
  have hfront : ∀ (before after : List Char) (n : ℕ), (∀ c ∈ before, c.isDigit = false) →
      (before ++ (Nat.toDigits 10 n ++ after)).takeWhile (fun c => !c.isDigit) = before ∧
        (before ++ (Nat.toDigits 10 n ++ after)).dropWhile (fun c => !c.isDigit) =
          Nat.toDigits 10 n ++ after := by
    intro before after n hbefore
    have hall : ∀ c ∈ before, (!c.isDigit) = true := by
      intro c hc
      rw [hbefore c hc]
      rfl
    rw [List.takeWhile_append_of_pos hall, List.dropWhile_append_of_pos hall]
    cases hn : Nat.toDigits 10 n with
    | nil => exact absurd hn Nat.toDigits_ne_nil
    | cons d ds =>
      have hd := hdigits n d (hn ▸ List.mem_cons_self)
      simp [hd]
  have hsame : before = before' := by
    rw [← (hfront before after n hbefore).1, h, (hfront before' after' n' hbefore').1]
  subst hsame
  have hrest := List.append_cancel_left h
  have hnumber : Nat.toDigits 10 n = Nat.toDigits 10 n' := by
    rw [← (hspan n after hafter).1, hrest, (hspan n' after' hafter').1]
  refine ⟨rfl, ?_, ?_⟩
  · rw [← Nat.ofDigitChars_ten_toDigits (n := n), hnumber, Nat.ofDigitChars_ten_toDigits]
  · rw [← (hspan n after hafter).2, hrest, (hspan n' after' hafter').2]

/-- **No two keys have one text.** -/
theorem RedisKey.text_injective : Function.Injective RedisKey.text := by
  intro key key' h
  have hlist : ∀ key : RedisKey, key.text.toList =
      key.around.1.toList ++ (Nat.toDigits 10 key.id ++ key.around.2.toList) := by
    intro key
    simp [RedisKey.text]
  have heq := congrArg String.toList h
  rw [hlist, hlist] at heq
  obtain ⟨hbefore, hid, hafter⟩ := framed_inj key.around_plain.1 key'.around_plain.1
    key.around_plain.2 key'.around_plain.2 heq
  have haround : key.around = key'.around :=
    Prod.ext (String.toList_inj.mp hbefore) (String.toList_inj.mp hafter)
  have hkey := key.ofAround_around
  rw [hid, haround, key'.ofAround_around] at hkey
  exact (Option.some.inj hkey).symm

/-! ### Values -/

/-- The values of all caches. -/
inductive RedisValue
  | user (value : CacheValue)
  | group (value : GroupCacheValue)
  | subject (value : SubjectCacheValue)
  | email (value : EmailCacheValue)
  deriving DecidableEq, Repr

/-- The texts of dates and moments in ISO format. -/
structure IsoFormat where
  date : Codec Date
  datetime : Codec Time

/-- The text of a role. -/
def UserRole.value : UserRole → String
  | systemAdmin => "system_admin"
  | director => "director"
  | teacher => "teacher"
  | student => "student"

/-- The role with a text. -/
def UserRole.ofValue (text : String) : Option UserRole :=
  [systemAdmin, director, teacher, student].find? fun role => role.value == text

theorem UserRole.ofValue_value (role : UserRole) : ofValue role.value = some role := by
  cases role <;> decide

/-- The text of a status. -/
def UserStatus.value : UserStatus → String
  | active => "active"
  | deactivated => "deactivated"
  | pendingActivation => "pending_activation"
  | graduated => "graduated"
  | expelled => "expelled"
  | withdrawn => "withdrawn"

/-- The status with a text. -/
def UserStatus.ofValue (text : String) : Option UserStatus :=
  [active, deactivated, pendingActivation, graduated, expelled, withdrawn].find? fun status =>
    status.value == text

theorem UserStatus.ofValue_value (status : UserStatus) : ofValue status.value = some status := by
  cases status <;> decide

/-- The text of an email type. -/
def EmailType.value : EmailType → String
  | invite => "invite"
  | updatingAccount => "updating_account"
  | adminCredentialsOverride => "admin_credentials_override"
  | accountDeactivation => "account_deactivation"
  | accountActivation => "account_activation"
  | passwordResetAdmin => "password_reset_admin"
  | emailChangeCode => "email_change_code"
  | emailChanged => "email_changed"
  | passwordChanged => "password_changed"
  | activationWithToken => "activation_with_token"
  | forgotPassword => "forgot_password"

/-- The email type with a text. -/
def EmailType.ofValue (text : String) : Option EmailType :=
  [invite, updatingAccount, adminCredentialsOverride, accountDeactivation, accountActivation,
    passwordResetAdmin, emailChangeCode, emailChanged, passwordChanged, activationWithToken,
    forgotPassword].find? fun emailType => emailType.value == text

theorem EmailType.ofValue_value (emailType : EmailType) :
    ofValue emailType.value = some emailType := by
  cases emailType <;> decide

/-- The text of a sending status. -/
def EmailSendingStatus.value : EmailSendingStatus → String
  | pending => "pending"
  | sent => "sent"
  | failed => "failed"

/-- The sending status with a text. -/
def EmailSendingStatus.ofValue (text : String) : Option EmailSendingStatus :=
  [pending, sent, failed].find? fun status => status.value == text

theorem EmailSendingStatus.ofValue_value (status : EmailSendingStatus) :
    ofValue status.value = some status := by
  cases status <;> decide

open Json (Coder)

/-- A role in a dump. -/
def UserRole.field : Coder UserRole := .named value ofValue ofValue_value

/-- A status in a dump. -/
def UserStatus.field : Coder UserStatus := .named value ofValue ofValue_value

/-- An email type in a dump. -/
def EmailType.field : Coder EmailType := .named value ofValue ofValue_value

/-- A sending status in a dump. -/
def EmailSendingStatus.field : Coder EmailSendingStatus := .named value ofValue ofValue_value

/-- A moment in a dump. -/
def IsoFormat.time (iso : IsoFormat) : Coder Time := .coded iso.datetime

/-- A date in a dump. -/
def IsoFormat.day (iso : IsoFormat) : Coder Date := .coded iso.date

/-! ### Dumps -/

section Dumps

variable (iso : IsoFormat)

/-- The members of `GroupResponseBase`. -/
def GroupResponseBase.members (g : GroupResponseBase) : List (String × Json) :=
  [("name", Coder.text.dump g.name), ("academic_year", Coder.int.dump g.academicYear),
    ("grade_level", Coder.int.dumpOption g.gradeLevel),
    ("capacity", Coder.int.dumpOption g.capacity)]

/-- `GroupResponseBase.model_validate`. -/
def GroupResponseBase.load (j : Json) : Option GroupResponseBase := do
  let name ← Coder.text.member "name" j
  let academicYear ← Coder.int.member "academic_year" j
  let gradeLevel ← Coder.int.memberOption "grade_level" j
  let capacity ← Coder.int.memberOption "capacity" j
  some { name, academicYear, gradeLevel, capacity }

theorem GroupResponseBase.load_members (g : GroupResponseBase) :
    load (.obj g.members) = some g := by
  simp [load, members, Json.get?, Coder.member, Coder.memberOption]

/-- The group in the details of a student. -/
def GroupResponseBase.field : Coder GroupResponseBase where
  dump g := .obj g.members
  load := load
  load_dump := load_members
  dump_ne_null g := by intro h; cases h

/-- The schemas of the students have a group, those of the others none. -/
def groupMember (student : Bool) (group : Option GroupResponseBase) : List (String × Json) :=
  if student || group.isSome then [("group", GroupResponseBase.field.dumpOption group)] else []

/-- `UserResponseAdminCache.model_dump` and `StudentResponseAdminCache.model_dump`. -/
def UserResponseAdminCache.dump (student : Bool) (d : UserResponseAdminCache) : Json :=
  .obj ([("firstname", Coder.text.dump d.firstname), ("lastname", Coder.text.dump d.lastname),
    ("middlename", Coder.text.dumpOption d.middlename), ("id", Coder.nat.dump d.id),
    ("username", Coder.text.dump d.username), ("phone_number", Coder.text.dump d.phoneNumber),
    ("email", Coder.text.dump d.email), ("date_of_birth", iso.day.dumpOption d.dateOfBirth),
    ("address", Coder.text.dumpOption d.address), ("role", UserRole.field.dump d.role),
    ("status", UserStatus.field.dump d.status), ("is_active", Coder.bool.dump d.isActive),
    ("created_by", Coder.nat.dumpOption d.createdBy),
    ("created_at", iso.time.dump d.createdAt)] ++ groupMember student d.group)

/-- `UserResponseAdminCache.model_validate` and `StudentResponseAdminCache.model_validate`. -/
def UserResponseAdminCache.load (j : Json) : Option UserResponseAdminCache := do
  let firstname ← Coder.text.member "firstname" j
  let lastname ← Coder.text.member "lastname" j
  let middlename ← Coder.text.memberOption "middlename" j
  let id ← Coder.nat.member "id" j
  let username ← Coder.text.member "username" j
  let phoneNumber ← Coder.text.member "phone_number" j
  let email ← Coder.text.member "email" j
  let dateOfBirth ← iso.day.memberOption "date_of_birth" j
  let address ← Coder.text.memberOption "address" j
  let role ← UserRole.field.member "role" j
  let status ← UserStatus.field.member "status" j
  let isActive ← Coder.bool.member "is_active" j
  let createdBy ← Coder.nat.memberOption "created_by" j
  let createdAt ← iso.time.member "created_at" j
  let group ← GroupResponseBase.field.memberDefault "group" j
  some { id, username, firstname, lastname, middlename, phoneNumber, email, dateOfBirth, address,
         role, status, isActive, createdBy, createdAt, group }

/-- A group that is not dumped was none. -/
theorem group_eq_none {student : Bool} {group : Option GroupResponseBase}
    (h : ¬ (student || group.isSome) = true) : group = none := by
  cases group with
  | none => rfl
  | some group => simp at h

theorem UserResponseAdminCache.load_dump (student : Bool) (d : UserResponseAdminCache) :
    load iso (d.dump iso student) = some d := by
  unfold load dump groupMember
  split
  · simp [Json.get?, Coder.member, Coder.memberOption, Coder.memberDefault]
  · next h =>
    simp [Json.get?, Coder.member, Coder.memberOption, Coder.memberDefault, ← group_eq_none h]

/-- `UserResponseDirectorCache.model_dump` and `StudentResponseDirectorCache.model_dump`. -/
def UserResponseDirectorCache.dump (student : Bool) (d : UserResponseDirectorCache) : Json :=
  .obj ([("firstname", Coder.text.dump d.firstname), ("lastname", Coder.text.dump d.lastname),
    ("middlename", Coder.text.dumpOption d.middlename), ("id", Coder.nat.dump d.id),
    ("phone_number", Coder.text.dump d.phoneNumber),
    ("date_of_birth", iso.day.dumpOption d.dateOfBirth),
    ("address", Coder.text.dumpOption d.address), ("role", UserRole.field.dump d.role),
    ("status", UserStatus.field.dump d.status),
    ("created_at", iso.time.dump d.createdAt)] ++ groupMember student d.group)

/-- `UserResponseDirectorCache.model_validate` and
`StudentResponseDirectorCache.model_validate`. -/
def UserResponseDirectorCache.load (j : Json) : Option UserResponseDirectorCache := do
  let firstname ← Coder.text.member "firstname" j
  let lastname ← Coder.text.member "lastname" j
  let middlename ← Coder.text.memberOption "middlename" j
  let id ← Coder.nat.member "id" j
  let phoneNumber ← Coder.text.member "phone_number" j
  let dateOfBirth ← iso.day.memberOption "date_of_birth" j
  let address ← Coder.text.memberOption "address" j
  let role ← UserRole.field.member "role" j
  let status ← UserStatus.field.member "status" j
  let createdAt ← iso.time.member "created_at" j
  let group ← GroupResponseBase.field.memberDefault "group" j
  some { id, firstname, lastname, middlename, phoneNumber, dateOfBirth, address, role, status,
         createdAt, group }

theorem UserResponseDirectorCache.load_dump (student : Bool) (d : UserResponseDirectorCache) :
    load iso (d.dump iso student) = some d := by
  unfold load dump groupMember
  split
  · simp [Json.get?, Coder.member, Coder.memberOption, Coder.memberDefault]
  · next h =>
    simp [Json.get?, Coder.member, Coder.memberOption, Coder.memberDefault, ← group_eq_none h]

/-- `UserResponseSelfCache.model_dump` and `StudentResponseSelfCache.model_dump`. -/
def UserResponseSelfCache.dump (student : Bool) (d : UserResponseSelfCache) : Json :=
  .obj ([("id", Coder.nat.dump d.id), ("username", Coder.text.dump d.username),
    ("firstname", Coder.text.dump d.firstname), ("lastname", Coder.text.dump d.lastname),
    ("middlename", Coder.text.dumpOption d.middlename),
    ("phone_number", Coder.text.dump d.phoneNumber), ("email", Coder.text.dump d.email),
    ("date_of_birth", iso.day.dumpOption d.dateOfBirth),
    ("address", Coder.text.dumpOption d.address),
    ("created_at", iso.time.dump d.createdAt)] ++ groupMember student d.group)

/-- `UserResponseSelfCache.model_validate` and `StudentResponseSelfCache.model_validate`. -/
def UserResponseSelfCache.load (j : Json) : Option UserResponseSelfCache := do
  let id ← Coder.nat.member "id" j
  let username ← Coder.text.member "username" j
  let firstname ← Coder.text.member "firstname" j
  let lastname ← Coder.text.member "lastname" j
  let middlename ← Coder.text.memberOption "middlename" j
  let phoneNumber ← Coder.text.member "phone_number" j
  let email ← Coder.text.member "email" j
  let dateOfBirth ← iso.day.memberOption "date_of_birth" j
  let address ← Coder.text.memberOption "address" j
  let createdAt ← iso.time.member "created_at" j
  let group ← GroupResponseBase.field.memberDefault "group" j
  some { id, username, firstname, lastname, middlename, phoneNumber, email, dateOfBirth, address,
         createdAt, group }

theorem UserResponseSelfCache.load_dump (student : Bool) (d : UserResponseSelfCache) :
    load iso (d.dump iso student) = some d := by
  unfold load dump groupMember
  split
  · simp [Json.get?, Coder.member, Coder.memberOption, Coder.memberDefault]
  · next h =>
    simp [Json.get?, Coder.member, Coder.memberOption, Coder.memberDefault, ← group_eq_none h]

/-- `GroupResponseAdminCache.model_dump`. -/
def GroupResponseAdminCache.dump (d : GroupResponseAdminCache) : Json :=
  .obj (d.toGroupResponseBase.members ++ [("id", Coder.nat.dump d.id),
    ("is_archived", Coder.bool.dump d.isArchived),
    ("archived_at", iso.time.dumpOption d.archivedAt), ("created_at", iso.time.dump d.createdAt)])

/-- `GroupResponseAdminCache.model_validate`. -/
def GroupResponseAdminCache.load (j : Json) : Option GroupResponseAdminCache := do
  let base ← GroupResponseBase.load j
  let id ← Coder.nat.member "id" j
  let isArchived ← Coder.bool.member "is_archived" j
  let archivedAt ← iso.time.memberOption "archived_at" j
  let createdAt ← iso.time.member "created_at" j
  some { base with id, isArchived, archivedAt, createdAt }

theorem GroupResponseAdminCache.load_dump (d : GroupResponseAdminCache) :
    load iso (d.dump iso) = some d := by
  simp [load, dump, GroupResponseBase.load, GroupResponseBase.members, Json.get?, Coder.member,
    Coder.memberOption]

/-- `GroupResponseDirectorCache.model_dump`. -/
def GroupResponseDirectorCache.dump (d : GroupResponseDirectorCache) : Json :=
  .obj (d.toGroupResponseBase.members ++ [("id", Coder.nat.dump d.id),
    ("is_archived", Coder.bool.dump d.isArchived), ("created_at", iso.time.dump d.createdAt)])

/-- `GroupResponseDirectorCache.model_validate`. -/
def GroupResponseDirectorCache.load (j : Json) : Option GroupResponseDirectorCache := do
  let base ← GroupResponseBase.load j
  let id ← Coder.nat.member "id" j
  let isArchived ← Coder.bool.member "is_archived" j
  let createdAt ← iso.time.member "created_at" j
  some { base with id, isArchived, createdAt }

theorem GroupResponseDirectorCache.load_dump (d : GroupResponseDirectorCache) :
    load iso (d.dump iso) = some d := by
  simp [load, dump, GroupResponseBase.load, GroupResponseBase.members, Json.get?, Coder.member,
    Coder.memberOption]

/-- The members of `SubjectResponseBase`. -/
def SubjectResponseBase.members (s : SubjectResponseBase) : List (String × Json) :=
  [("name", Coder.text.dump s.name), ("code", Coder.text.dump s.code),
    ("description", Coder.text.dumpOption s.description)]

/-- `SubjectResponseBase.model_validate`. -/
def SubjectResponseBase.load (j : Json) : Option SubjectResponseBase := do
  let name ← Coder.text.member "name" j
  let code ← Coder.text.member "code" j
  let description ← Coder.text.memberOption "description" j
  some { name, code, description }

/-- `SubjectResponseAdminCache.model_dump`. -/
def SubjectResponseAdminCache.dump (d : SubjectResponseAdminCache) : Json :=
  .obj (d.toSubjectResponseBase.members ++ [("id", Coder.nat.dump d.id),
    ("is_archived", Coder.bool.dump d.isArchived),
    ("archived_at", iso.time.dumpOption d.archivedAt), ("created_at", iso.time.dump d.createdAt)])

/-- `SubjectResponseAdminCache.model_validate`. -/
def SubjectResponseAdminCache.load (j : Json) : Option SubjectResponseAdminCache := do
  let base ← SubjectResponseBase.load j
  let id ← Coder.nat.member "id" j
  let isArchived ← Coder.bool.member "is_archived" j
  let archivedAt ← iso.time.memberOption "archived_at" j
  let createdAt ← iso.time.member "created_at" j
  some { base with id, isArchived, archivedAt, createdAt }

theorem SubjectResponseAdminCache.load_dump (d : SubjectResponseAdminCache) :
    load iso (d.dump iso) = some d := by
  simp [load, dump, SubjectResponseBase.load, SubjectResponseBase.members, Json.get?,
    Coder.member, Coder.memberOption]

/-- `SubjectResponseDirectorCache.model_dump`. -/
def SubjectResponseDirectorCache.dump (d : SubjectResponseDirectorCache) : Json :=
  .obj (d.toSubjectResponseBase.members ++ [("id", Coder.nat.dump d.id),
    ("is_archived", Coder.bool.dump d.isArchived), ("created_at", iso.time.dump d.createdAt)])

/-- `SubjectResponseDirectorCache.model_validate`. -/
def SubjectResponseDirectorCache.load (j : Json) : Option SubjectResponseDirectorCache := do
  let base ← SubjectResponseBase.load j
  let id ← Coder.nat.member "id" j
  let isArchived ← Coder.bool.member "is_archived" j
  let createdAt ← iso.time.member "created_at" j
  some { base with id, isArchived, createdAt }

theorem SubjectResponseDirectorCache.load_dump (d : SubjectResponseDirectorCache) :
    load iso (d.dump iso) = some d := by
  simp [load, dump, SubjectResponseBase.load, SubjectResponseBase.members, Json.get?,
    Coder.member, Coder.memberOption]

/-- `PendingEmailResponseCache.model_dump`. -/
def PendingEmailResponseCache.dump (d : PendingEmailResponseCache) : Json :=
  .obj [("recipient", Coder.text.dump d.recipient), ("subject", Coder.text.dump d.subject),
    ("email_type", EmailType.field.dump d.emailType),
    ("status", EmailSendingStatus.field.dump d.status),
    ("triggered_by", Coder.nat.dumpOption d.triggeredBy),
    ("recipient_user_id", Coder.nat.dumpOption d.recipientUserId), ("id", Coder.nat.dump d.id),
    ("retry_count", Coder.nat.dump d.retryCount),
    ("last_error", Coder.text.dumpOption d.lastError), ("sent_at", iso.time.dumpOption d.sentAt),
    ("created_at", iso.time.dump d.createdAt)]

/-- `PendingEmailResponseCache.model_validate`. -/
def PendingEmailResponseCache.load (j : Json) : Option PendingEmailResponseCache := do
  let recipient ← Coder.text.member "recipient" j
  let subject ← Coder.text.member "subject" j
  let emailType ← EmailType.field.member "email_type" j
  let status ← EmailSendingStatus.field.member "status" j
  let triggeredBy ← Coder.nat.memberOption "triggered_by" j
  let recipientUserId ← Coder.nat.memberOption "recipient_user_id" j
  let id ← Coder.nat.member "id" j
  let retryCount ← Coder.nat.member "retry_count" j
  let lastError ← Coder.text.memberOption "last_error" j
  let sentAt ← iso.time.memberOption "sent_at" j
  let createdAt ← iso.time.member "created_at" j
  some { id, recipient, subject, emailType, status, triggeredBy, recipientUserId, retryCount,
         lastError, sentAt, createdAt }

theorem PendingEmailResponseCache.load_dump (d : PendingEmailResponseCache) :
    load iso (d.dump iso) = some d := by
  simp [load, dump, Json.get?, Coder.member, Coder.memberOption]

/-- What `set_cache` is given; only values that a schema takes are written. -/
def RedisValue.dump (student : Bool) : RedisValue → Json
  | user (.version accessTokenVersion) => Coder.nat.dump accessTokenVersion
  | user (.admin detail) => detail.dump iso student
  | user (.staff detail) => detail.dump iso student
  | user (.self detail) => detail.dump iso student
  | group (.admin detail) => detail.dump iso
  | group (.staff detail) => detail.dump iso
  | subject (.admin detail) => detail.dump iso
  | subject (.staff detail) => detail.dump iso
  | email (.detail detail) => detail.dump iso
  | user .invalid | group .invalid | subject .invalid | email .invalid => .null

/-- What the schema of a key makes of a JSON value that is a dump. -/
def RedisKey.load (j : Json) : RedisKey → Option RedisValue
  | user (.accessTokenVersionKey _) => (Coder.nat.load j).map (.user ∘ .version)
  | user (.userDetailKeyAdmin _) => (UserResponseAdminCache.load iso j).map (.user ∘ .admin)
  | user (.userDetailKeyStaff _) => (UserResponseDirectorCache.load iso j).map (.user ∘ .staff)
  | user (.userDetailKeySelf _) => (UserResponseSelfCache.load iso j).map (.user ∘ .self)
  | group (.groupDetailKeyAdmin _) => (GroupResponseAdminCache.load iso j).map (.group ∘ .admin)
  | group (.groupDetailKeyStaff _) => (GroupResponseDirectorCache.load iso j).map (.group ∘ .staff)
  | subject (.subjectDetailKeyAdmin _) =>
    (SubjectResponseAdminCache.load iso j).map (.subject ∘ .admin)
  | subject (.subjectDetailKeyStaff _) =>
    (SubjectResponseDirectorCache.load iso j).map (.subject ∘ .staff)
  | email _ => (PendingEmailResponseCache.load iso j).map (.email ∘ .detail)

/-- What the schema of a key does not take. -/
def RedisKey.invalid : RedisKey → RedisValue
  | user _ => .user .invalid
  | group _ => .group .invalid
  | subject _ => .subject .invalid
  | email _ => .email .invalid

/-- The value is of the kind of the key. -/
def RedisKey.Fits : RedisKey → RedisValue → Prop
  | user (.accessTokenVersionKey _), .user (.version _)
  | user (.userDetailKeyAdmin _), .user (.admin _)
  | user (.userDetailKeyStaff _), .user (.staff _)
  | user (.userDetailKeySelf _), .user (.self _)
  | group (.groupDetailKeyAdmin _), .group (.admin _)
  | group (.groupDetailKeyStaff _), .group (.staff _)
  | subject (.subjectDetailKeyAdmin _), .subject (.admin _)
  | subject (.subjectDetailKeyStaff _), .subject (.staff _)
  | email _, .email (.detail _) => True
  | _, _ => False

/-- **A value is read back from its dump** under a key of its kind. -/
theorem RedisKey.load_dump (student : Bool) {key : RedisKey} {value : RedisValue}
    (h : key.Fits value) : key.load iso (value.dump iso student) = some value := by
  unfold RedisKey.Fits at h
  split at h
  · exact congrArg (Option.map _) (Coder.nat.load_dump _)
  · exact congrArg (Option.map _) (UserResponseAdminCache.load_dump iso student _)
  · exact congrArg (Option.map _) (UserResponseDirectorCache.load_dump iso student _)
  · exact congrArg (Option.map _) (UserResponseSelfCache.load_dump iso student _)
  · exact congrArg (Option.map _) (GroupResponseAdminCache.load_dump iso _)
  · exact congrArg (Option.map _) (GroupResponseDirectorCache.load_dump iso _)
  · exact congrArg (Option.map _) (SubjectResponseAdminCache.load_dump iso _)
  · exact congrArg (Option.map _) (SubjectResponseDirectorCache.load_dump iso _)
  · exact congrArg (Option.map _) (PendingEmailResponseCache.load_dump iso _)
  · exact h.elim

end Dumps

end SmsLite
