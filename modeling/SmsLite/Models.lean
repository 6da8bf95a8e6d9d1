import SmsLite.Lib.Keyed
import SmsLite.Validators

/-!
# Rows, cache entries and mails

The tables behind the services, the entries of the Redis cache and the mails that
are sent directly, outside the outbox.

A column is typed by what the database lets it hold: a `NOT NULL` column of a row
is not an `Option`.  Between a load and a commit the attributes of a mapped object
are not checked, so the in-memory user is the same record with its `NOT NULL` text
columns optional (`UserDraft`), and only a draft without nulls becomes a row.

## Main definitions

* `User`, `UserSession`, `UserActivation`, `UserLoginLockout`, `PendingEmail`,
  `Group` — the rows.
* `UserDraft` — the in-memory user.
* `Db` — the tables and their id sequences.
* `CacheValue` — what a cache key holds.
* `Mail` — a mail handed to `asyncio.create_task(send_safe(...))`.
-/

namespace SmsLite

/-- A calendar date. -/
structure Date where
  year : ℕ
  month : ℕ
  day : ℕ
  deriving DecidableEq, Repr

/-- The columns of the `users` table; `Text` is the type of the `NOT NULL` text
columns a request may set. -/
structure UserColumns (Text : Type) where
  id : UserId
  username : Text
  firstname : Text
  lastname : Text
  middlename : Option String
  dateOfBirth : Option Date
  address : Option String
  phoneNumber : Text
  email : Text
  passwordHash : Option String
  role : UserRole
  status : UserStatus
  isActive : Bool
  createdBy : Option UserId
  groupId : Option ℕ
  createdAt : Time
  deriving DecidableEq, Repr

/-- A row of `users`. -/
abbrev User := UserColumns String

/-- A mapped `User` object before it is flushed. -/
abbrev UserDraft := UserColumns (Option String)

/-- The object a load makes from a row. -/
def User.draft (u : User) : UserDraft :=
  { u with
    username := some u.username, firstname := some u.firstname, lastname := some u.lastname
    phoneNumber := some u.phoneNumber, email := some u.email }

theorem User.draft_injective : Function.Injective User.draft := by
  rintro ⟨⟩ ⟨⟩ h
  simpa [User.draft] using h

/-- A row of `users_sessions`. -/
structure UserSession where
  userId : UserId
  accessTokenVersion : ℕ := 1
  refreshTokenHash : Option String := none
  refreshTokenExpiresAt : Option Time := none
  refreshTokenFamily : Option String := none
  resetPasswordTokenHash : Option String := none
  resetPasswordTokenExpiresAt : Option Time := none
  pendingNewEmail : Option EmailAddress := none
  emailChangeCodeHash : Option String := none
  emailChangeCodeExpiresAt : Option Time := none
  deriving DecidableEq, Repr

/-- A row of `users_activations`. -/
structure UserActivation where
  userId : UserId
  inviteTokenHash : Option String := none
  inviteTokenExpiresAt : Option Time := none
  deriving DecidableEq, Repr

/-- A row of `users_login_lockout`. -/
structure UserLoginLockout where
  userId : UserId
  failedLoginAttempts : ℕ := 0
  lockedUntil : Option Time := none
  deriving DecidableEq, Repr

/-- A row of `groups`. -/
structure Group where
  id : ℕ
  name : String
  academicYear : ℤ
  gradeLevel : Option ℤ
  capacity : Option ℤ
  isArchived : Bool
  archivedAt : Option Time
  createdAt : Time
  deriving DecidableEq, Repr

/-- What a builder of `src/utils/email.py` renders into subject, HTML and text. -/
inductive EmailContent
  /-- `build_invite_email`. -/
  | inviteEmail (inviteToken username : String)
  /-- `build_admin_credentials_override_notification_email`. -/
  | adminCredentialsOverrideNotificationEmail
      (oldUsername newUsername oldEmail newEmail : Option String)
  /-- `build_reset_password_email`. -/
  | resetPasswordEmail (resetPasswordToken : String)
  deriving DecidableEq, Repr

/-- A row of `pending_emails`. -/
structure PendingEmail where
  id : ℕ
  recipient : String
  content : EmailContent
  emailType : EmailType
  status : EmailSendingStatus := .pending
  retryCount : ℕ := 0
  lastError : Option String := none
  sentAt : Option Time := none
  triggeredBy : Option UserId
  recipientUserId : Option UserId
  createdAt : Time
  deriving DecidableEq, Repr

instance {Text : Type} : Keyed (UserColumns Text) UserId := ⟨UserColumns.id⟩
instance : Keyed UserSession UserId := ⟨UserSession.userId⟩
instance : Keyed UserActivation UserId := ⟨UserActivation.userId⟩
instance : Keyed UserLoginLockout UserId := ⟨UserLoginLockout.userId⟩
instance : Keyed Group ℕ := ⟨Group.id⟩

@[simp] theorem key_user (u : User) : Keyed.key u = u.id := rfl
@[simp] theorem key_userSession (s : UserSession) : Keyed.key s = s.userId := rfl
@[simp] theorem key_userActivation (a : UserActivation) : Keyed.key a = a.userId := rfl
@[simp] theorem key_userLoginLockout (l : UserLoginLockout) : Keyed.key l = l.userId := rfl

/-- The tables, each in the order of its insertions. -/
structure Db where
  users : List User
  sessions : List UserSession
  activations : List UserActivation
  loginLockouts : List UserLoginLockout
  pendingEmails : List PendingEmail
  groups : List Group
  /-- The next value of the `users` id sequence; a rollback does not give one back. -/
  usersIdSeq : UserId
  /-- The next value of the `pending_emails` id sequence. -/
  pendingEmailsIdSeq : ℕ
  deriving Repr

/-- The objects one query loads: a user and the companions it joins. -/
structure Loaded where
  user : User
  session : Option UserSession
  activation : Option UserActivation
  loginLockout : Option UserLoginLockout
  group : Option Group
  deriving DecidableEq, Repr

/-- The same objects as the request has modified them. -/
structure Dirty where
  user : UserDraft
  session : Option UserSession
  activation : Option UserActivation
  loginLockout : Option UserLoginLockout
  deriving DecidableEq, Repr

/-- The state of the objects right after the load. -/
def Loaded.dirty (l : Loaded) : Dirty where
  user := User.draft l.user
  session := l.session
  activation := l.activation
  loginLockout := l.loginLockout

/-- A `PendingEmail` object that is not in the table yet. -/
structure NewPendingEmail where
  recipient : String
  content : EmailContent
  emailType : EmailType
  triggeredBy : Option UserId
  recipientUserId : Option UserId
  deriving DecidableEq, Repr

/-! ### Cache entries -/

/-- `GroupResponseBase`. -/
structure GroupResponseBase where
  name : String
  academicYear : ℤ
  gradeLevel : Option ℤ
  capacity : Option ℤ
  deriving DecidableEq, Repr

/-- `UserResponseAdminCache` and `StudentResponseAdminCache`, which adds the group;
a dump without that key reads back as a null group. -/
structure UserResponseAdminCache where
  id : UserId
  username : String
  firstname : String
  lastname : String
  middlename : Option String
  phoneNumber : String
  email : String
  dateOfBirth : Option Date
  address : Option String
  role : UserRole
  status : UserStatus
  isActive : Bool
  createdBy : Option UserId
  createdAt : Time
  group : Option GroupResponseBase
  deriving DecidableEq, Repr

/-- `UserResponseDirectorCache` and `StudentResponseDirectorCache`. -/
structure UserResponseDirectorCache where
  id : UserId
  firstname : String
  lastname : String
  middlename : Option String
  phoneNumber : String
  dateOfBirth : Option Date
  address : Option String
  role : UserRole
  status : UserStatus
  createdAt : Time
  group : Option GroupResponseBase
  deriving DecidableEq, Repr

/-- `UserResponseSelfCache` and `StudentResponseSelfCache`. -/
structure UserResponseSelfCache where
  id : UserId
  username : String
  firstname : String
  lastname : String
  middlename : Option String
  phoneNumber : String
  email : String
  dateOfBirth : Option Date
  address : Option String
  createdAt : Time
  group : Option GroupResponseBase
  deriving DecidableEq, Repr

/-- The JSON value under a cache key. -/
inductive CacheValue
  | version (accessTokenVersion : ℕ)
  | admin (detail : UserResponseAdminCache)
  | staff (detail : UserResponseDirectorCache)
  | self (detail : UserResponseSelfCache)
  /-- What no schema takes. -/
  | invalid
  deriving DecidableEq, Repr

/-! ### Direct mails -/

/-- The body of a mail sent without the outbox. -/
inductive MailContent
  /-- `send_account_info_updated_email`. -/
  | accountInfoUpdated
  /-- `send_account_deactivation_email`. -/
  | accountDeactivation
  /-- `send_account_activation_email`. -/
  | accountActivation
  /-- `send_email_change_verification`. -/
  | emailChangeVerification (code : String)
  /-- `send_email_changed_notification`. -/
  | emailChangedNotification (oldEmail newEmail : String)
  /-- `send_password_changed_notification`. -/
  | passwordChangedNotification
  /-- `send_forgot_password_email`. -/
  | forgotPassword (rawResetToken : String)
  deriving DecidableEq, Repr

/-- A mail given to a background task: the worker of the outbox never sees it. -/
structure Mail where
  recipient : String
  emailType : EmailType
  content : MailContent
  deriving DecidableEq, Repr

end SmsLite
