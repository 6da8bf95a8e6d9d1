import SmsLite.Lib.Pool
import SmsLite.Lib.Deadlock
import SmsLite.Lib.Keyed
import SmsLite.Lib.Codec
import SmsLite.Validators
import SmsLite.Security
import SmsLite.Models
import SmsLite.Database
import SmsLite.Repository
import SmsLite.AuthService
import SmsLite.UserServiceAdmin
import SmsLite.UserServiceSelf
import SmsLite.System
import SmsLite.Statements
import SmsLite.GroupService
import SmsLite.Concrete
import SmsLite.Account
import SmsLite.Registry
import SmsLite.Sequential
import SmsLite.Refinement.Footprint
import SmsLite.Refinement.Effect
import SmsLite.Refinement.AuthService
import SmsLite.Refinement.UserService
import SmsLite.Refinement.System
import SmsLite.Refinement.GroupService
import SmsLite.AccessTokens
import SmsLite.RefreshTokens
import SmsLite.Lifecycle
import SmsLite.Lockout
import SmsLite.Outbox.Delivery
import SmsLite.Secrets.Letters
import SmsLite.Secrets.SingleUse
import SmsLite.Secrets.Address
import SmsLite.Concurrency.Usernames
import SmsLite.Secrets.Invites
import SmsLite.Details.Readers
import SmsLite.Details.Currency
import SmsLite.Contacts
import SmsLite.Lists.Users
import SmsLite.Roles
import SmsLite.Concurrency.ContactLimit
import SmsLite.Concurrency.SessionRaces
import SmsLite.Concurrency.CacheRaces
import SmsLite.Concurrency.LoginRaces
import SmsLite.Concurrency.OutboxRaces
import SmsLite.Concurrency.Posting
import SmsLite.Concurrency.Crashes
import SmsLite.Concurrency.Deadlocks
import SmsLite.Failures.RefreshToken
import SmsLite.Failures.Enumeration
import SmsLite.Failures.Atomicity
import SmsLite.Refinement.SubjectService
import SmsLite.Details.Catalogue
import SmsLite.Outbox.Currency
import SmsLite.Lib.CacheAside
import SmsLite.Lib.Atomic
import SmsLite.Lib.Select
import SmsLite.Lib.Checked
import SmsLite.Lib.Validated
import SmsLite.Schemas
import SmsLite.Columns.Users
import SmsLite.Columns.UserService
import SmsLite.Columns.Catalogue
import SmsLite.Columns.Requests
import SmsLite.Rows.Passwords
import SmsLite.Rows.RoleShape
import SmsLite.Secrets.Notices
import SmsLite.Schemas.Passwords
import SmsLite.Lib.Paging
import SmsLite.Lists.Catalogue
import SmsLite.Lists.Pages
import SmsLite.Lib.Like
import SmsLite.Lists.Search
import SmsLite.Outbox.Sessions
import SmsLite.Failures.Violations
import SmsLite.Lib.Trim
import SmsLite.Subjects.Submissions
import SmsLite.Subjects.Codes
import SmsLite.Lib.Segments
import SmsLite.Schemas.Usernames
import SmsLite.Lib.Router
import SmsLite.Http.Routes
import SmsLite.Lib.FixedWindow
import SmsLite.Http.Requests
import SmsLite.Http.App
import SmsLite.Http.Access
import SmsLite.Http.Mediation
import SmsLite.Lib.Json
import SmsLite.Lib.Ttl
import SmsLite.Redis.Entries
import SmsLite.Redis.Deployment
import SmsLite.Redis.Usage
import SmsLite.Redis.Refinement
import SmsLite.Redis.Independence
import SmsLite.Redis.Staleness
import SmsLite.Redis.Answers
import SmsLite.Redis.Races
import SmsLite.Http.Limits
