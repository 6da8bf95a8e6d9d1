import Mathlib.Algebra.Group.Int.Defs
import Mathlib.Algebra.GroupWithZero.Nat
import SmsLite.Utils

/-!
# Tokens, digests and settings

`src/core/security.py` and the part of `src/core/config.py` it reads.  What the
program takes from elsewhere — the JWT library, SHA-256, bcrypt and the source of
random secrets — is an environment `Env` the model is parametrised by.

A random value is the next one of a stream that the environment fixes in
advance, so a statement about every environment is a statement about every
sequence of draws.

## Main definitions

* `Claims`, `Jose` — the payload of a token and the library that signs it.
* `Settings` — the validated part of the configuration.
* `Secret` — a password that passlib takes.
* `Env` — everything outside the program.
* `Env.hashPassword`, `Env.verifyPassword` — passlib, with the exceptions it raises.
* `decodeAccessToken`, `decodeRefreshToken` — the two decoders, with the
  exceptions they raise.
* `verifyDigest`, `compareDigest` — the comparisons of secrets.
-/

namespace SmsLite

/-- The payload of a JSON Web Token.  `sub` is the user id behind `str` and `int`;
a key that the payload does not have is `none`. -/
structure Claims where
  sub : Option UserId
  role : Option UserRole
  version : Option ℕ
  type : String
  jti : Option String
  /-- Expiry in seconds. -/
  exp : ℕ
  deriving DecidableEq, Repr

/-- `jose.jwt` under the server's key. -/
structure Jose where
  /-- `jwt.encode`. -/
  encode : Claims → String
  /-- The payload of a text whose signature verifies. -/
  decode : String → Option Claims
  /-- A token it signed verifies and carries its payload. -/
  decode_encode : ∀ claims, decode (encode claims) = some claims

theorem Jose.encode_injective (jose : Jose) : Function.Injective jose.encode := by
  intro a b h
  have ha := jose.decode_encode a
  rw [h, jose.decode_encode b] at ha
  exact (Option.some.inj ha).symm

/-- The classes `jwt.decode` raises. -/
inductive JwtError
  | expiredSignatureError
  | jwtError
  deriving DecidableEq, Repr

/-- `jwt.decode`: the signature first, then the `exp` claim, which is still good in
the second it names. -/
def Jose.verify (jose : Jose) (now : Time) (token : String) : Except JwtError Claims :=
  match jose.decode token with
  | none => .error .jwtError
  | some claims =>
    if claims.exp < now.timegm then .error .expiredSignatureError else .ok claims

/-- The settings the services read, with the ranges their validators enforce. -/
structure Settings where
  accessTokenExpiresMinutes : ℕ
  refreshTokenExpiresDays : ℕ
  inviteTokenExpiresHours : ℕ
  resetPasswordExpiresMinutes : ℕ
  emailChangeCodeExpiresMinutes : ℕ
  /-- `validate_access_token_expiry`. -/
  access_range : 1 ≤ accessTokenExpiresMinutes ∧ accessTokenExpiresMinutes ≤ 15
  /-- `validate_refresh_token_expiry`. -/
  refresh_range : 1 ≤ refreshTokenExpiresDays ∧ refreshTokenExpiresDays ≤ 90

/-- The defaults pass their validators. -/
def Settings.default : Settings where
  accessTokenExpiresMinutes := 15
  refreshTokenExpiresDays := 7
  inviteTokenExpiresHours := 48
  resetPasswordExpiresMinutes := 15
  emailChangeCodeExpiresMinutes := 15
  access_range := by decide
  refresh_range := by decide

/-! ### Passwords -/

/-- `PASSLIB_MAX_PASSWORD_SIZE`. -/
def maxPasswordSize : ℕ := 4096

/-- A password that passlib's bcrypt takes.  Its size is counted twice, in characters and
then in the bytes of UTF-8, of which there are at least as many. -/
structure Secret where
  text : String
  size : text.utf8ByteSize ≤ maxPasswordSize
  nul_notMem : nul ∉ text.toList
  deriving DecidableEq

/-- The checks of a password before it is hashed or verified: `PasswordSizeError` and
`NullPasswordError`, both of them subclasses of `ValueError`. -/
def Secret.check (password : String) : Except Exn Secret :=
  if size : password.utf8ByteSize ≤ maxPasswordSize then
    if nul_notMem : nul ∉ password.toList then .ok ⟨password, size, nul_notMem⟩
    else .error (.valueError "bcrypt does not allow NULL bytes in password")
  else .error (.valueError "password exceeds maximum allowed size")

/-- A text that passlib takes for a password. -/
def Secret.Valid (password : String) : Prop :=
  password.utf8ByteSize ≤ maxPasswordSize ∧ nul ∉ password.toList

instance (password : String) : Decidable (Secret.Valid password) :=
  inferInstanceAs (Decidable (_ ∧ _))

theorem Secret.check_eq_ok_iff {password : String} :
    (∃ secret, Secret.check password = .ok secret) ↔ Secret.Valid password := by
  unfold Secret.check
  constructor
  · intro h
    split at h
    · next size =>
      split at h
      · next nul_notMem => exact ⟨size, nul_notMem⟩
      · simp at h
    · simp at h
  · intro h
    rw [dif_pos h.1, dif_pos h.2]
    exact ⟨_, rfl⟩

/-! ### The environment -/

/-- What the program is given from outside. -/
structure Env where
  settings : Settings
  jose : Jose
  /-- `hashlib.sha256(text.encode()).hexdigest()`. -/
  sha256 : String → String
  /-- A hexadecimal text is ASCII. -/
  sha256_isAscii : ∀ text, isAscii (sha256 text) = true
  /-- The first four bytes of the same digest, as a big-endian number. -/
  sha256Prefix : String → Fin (2 ^ 32)
  /-- The hash of a password, with the salt of the given draw. -/
  bcryptHash : ℕ → Secret → String
  /-- The text of the `ValueError` for a stored text that is no hash. -/
  bcryptMalformed : String → Option String
  /-- Whether a password belongs to a hash. -/
  bcryptVerify : Secret → String → Bool
  /-- The values of `secrets.token_urlsafe`, by draw. -/
  tokenUrlsafe : ℕ → String
  /-- The values of `secrets.randbelow(900_000)`, by draw. -/
  randbelow : ℕ → Fin 900000

/-- The assumptions on the libraries: SHA-256 has no collisions, no random value comes
twice, and random values are url-safe. -/
structure Env.Ideal (env : Env) : Prop where
  sha256 : Function.Injective env.sha256
  tokenUrlsafe : Function.Injective env.tokenUrlsafe
  tokenUrlsafe_isAscii : ∀ draw, isAscii (env.tokenUrlsafe draw) = true

/-- `bcrypt_context.hash`, with the salt of the given draw. -/
def Env.hashPassword (env : Env) (draw : ℕ) (password : String) : Except Exn String :=
  (Secret.check password).map (env.bcryptHash draw)

/-- `bcrypt_context.verify`: a missing hash is answered before the password is looked at. -/
def Env.verifyPassword (env : Env) (plainPassword : String) (hashedPassword : Option String) :
    Except Exn Bool :=
  match hashedPassword with
  | none => .ok false
  | some hashed =>
    match env.bcryptMalformed hashed with
    | some message => .error (.valueError message)
    | none => (Secret.check plainPassword).map (env.bcryptVerify · hashed)

/-- The payload of `create_access_token`. -/
def accessClaims (env : Env) (now : Time) (userId : UserId) (role : UserRole)
    (accessTokenVersion : ℕ) : Claims where
  sub := some userId
  role := some role
  version := some accessTokenVersion
  type := "access"
  jti := none
  exp := (now + Time.minutes env.settings.accessTokenExpiresMinutes).timegm

/-- `create_access_token`. -/
def createAccessToken (env : Env) (now : Time) (userId : UserId) (role : UserRole)
    (accessTokenVersion : ℕ) : String :=
  env.jose.encode (accessClaims env now userId role accessTokenVersion)

/-- The payload of `create_refresh_token`. -/
def refreshClaims (env : Env) (now : Time) (userId : UserId) (jti : String) : Claims where
  sub := some userId
  role := none
  version := none
  type := "refresh"
  jti := some jti
  exp := (now + Time.days env.settings.refreshTokenExpiresDays).timegm

/-- The raw token of `create_refresh_token`; the hash it returns beside it is
`env.sha256` of this. -/
def createRefreshToken (env : Env) (now : Time) (userId : UserId) (jti : String) : String :=
  env.jose.encode (refreshClaims env now userId jti)

/-- `decode_access_token`: every failure is a `ValueError`. -/
def decodeAccessToken (env : Env) (now : Time) (accessToken : String) : Except Exn Claims :=
  match env.jose.verify now accessToken with
  | .error .expiredSignatureError => .error (.valueError HTTP401.expiredAccessToken)
  | .error .jwtError => .error (.valueError HTTP401.invalidAccessToken)
  | .ok payload =>
    if payload.type ≠ "access" then .error (.valueError HTTP401.invalidTokenType)
    else .ok payload

/-- `decode_refresh_token`.  Its two exception classes are the ones of
`utils.exceptions`. -/
def decodeRefreshToken (env : Env) (now : Time) (refreshToken : String) : Except Exn Claims :=
  match env.jose.verify now refreshToken with
  | .error .expiredSignatureError =>
    .error (.utilsApp .expiredRefreshTokenError HTTP401.expiredRefreshToken)
  | .error .jwtError =>
    .error (.utilsApp .invalidRefreshTokenError HTTP401.invalidRefreshToken)
  | .ok payload =>
    if payload.type ≠ "refresh" then .error (.valueError HTTP401.invalidTokenType)
    else .ok payload

/-- `hmac.compare_digest` on two `str` arguments. -/
def compareDigest (a b : String) : Except Exn Bool :=
  if isAscii a && isAscii b then .ok (a == b) else .error (.typeError .compareDigestNonAscii)

theorem compareDigest_of_ascii {a b : String} (ha : isAscii a = true) (hb : isAscii b = true) :
    compareDigest a b = .ok (a == b) := by
  simp [compareDigest, ha, hb]

theorem compareDigest_of_not_ascii {a b : String} (h : ¬ (isAscii a = true ∧ isAscii b = true)) :
    compareDigest a b = .error (.typeError .compareDigestNonAscii) := by
  unfold compareDigest
  rw [if_neg (by simpa using h)]

/-- A comparison that raises nothing compares. -/
theorem compareDigest_eq_ok {a b : String} {v : Bool} (h : compareDigest a b = .ok v) :
    v = (a == b) := by
  by_cases hascii : isAscii a = true ∧ isAscii b = true
  · rw [compareDigest_of_ascii hascii.1 hascii.2] at h
    exact (Except.ok.inj h).symm
  · rw [compareDigest_of_not_ascii hascii] at h
    cases h

/-- `verify_refresh_token`, `verify_invite_token`, `verify_reset_password_token` and
`verify_email_change_code`: the digest of the raw secret against the stored one. -/
def verifyDigest (env : Env) (raw : String) (hashed : Option String) : Except Exn Bool :=
  match hashed with
  | none => .error (.typeError .compareDigestNone)
  | some hashed => compareDigest (env.sha256 raw) hashed

/-- Against a digest that the program has stored, the comparison raises nothing. -/
theorem verifyDigest_of_ascii {env : Env} (raw : String) {hashed : String}
    (h : isAscii hashed = true) :
    verifyDigest env raw (some hashed) = .ok (env.sha256 raw == hashed) :=
  compareDigest_of_ascii (env.sha256_isAscii raw) h

/-- The secret behind the stored digest passes. -/
theorem verifyDigest_sha256 {env : Env} (raw : String) :
    verifyDigest env raw (some (env.sha256 raw)) = .ok true := by
  rw [verifyDigest_of_ascii raw (env.sha256_isAscii raw), beq_self_eq_true]

/-- The raw code of `generate_email_change_code`. -/
def emailChangeCode (r : Fin 900000) : String := toString (r.val + 100000)

/-- `_compute_lock_key`: the digest prefix as a signed 32-bit number. -/
def computeLockKey (env : Env) (value : String) : ℤ :=
  let unsigned : ℤ := (env.sha256Prefix value).val
  if 2 ^ 31 ≤ unsigned then unsigned - 2 ^ 32 else unsigned

/-! ### What passlib takes -/

/-- The checks are all that raises, and what they raise is a `ValueError`. -/
theorem Secret.map_check_eq_error {α : Type} {f : Secret → α} {password : String} {e : Exn}
    (h : (Secret.check password).map f = .error e) : ∃ message, e = .valueError message := by
  unfold Secret.check at h
  split at h
  · split at h
    · cases h
    · exact ⟨_, (Except.error.inj h).symm⟩
  · exact ⟨_, (Except.error.inj h).symm⟩

/-- Exactly the passwords that passlib takes have a hash. -/
theorem Env.hashPassword_eq_ok_iff {env : Env} {draw : ℕ} {password : String} :
    (∃ hash, env.hashPassword draw password = .ok hash) ↔ Secret.Valid password := by
  rw [← Secret.check_eq_ok_iff, Env.hashPassword]
  constructor
  · rintro ⟨hash, h⟩
    cases hsecret : Secret.check password with
    | error e =>
      rw [hsecret] at h
      cases h
    | ok secret => exact ⟨secret, rfl⟩
  · rintro ⟨secret, hsecret⟩
    rw [hsecret]
    exact ⟨_, rfl⟩

theorem Env.valid_of_hashPassword {env : Env} {draw : ℕ} {password hash : String}
    (h : env.hashPassword draw password = .ok hash) : Secret.Valid password :=
  hashPassword_eq_ok_iff.mp ⟨hash, h⟩

theorem Env.not_valid_of_hashPassword {env : Env} {draw : ℕ} {password : String} {e : Exn}
    (h : env.hashPassword draw password = .error e) : ¬ Secret.Valid password := by
  intro hvalid
  obtain ⟨hash, hhash⟩ := hashPassword_eq_ok_iff.mpr hvalid
  cases hhash.symm.trans h

theorem Env.hashPassword_eq_error {env : Env} {draw : ℕ} {password : String} {e : Exn}
    (h : env.hashPassword draw password = .error e) : ∃ message, e = .valueError message :=
  Secret.map_check_eq_error h

theorem Env.verifyPassword_eq_error {env : Env} {plain : String} {hashed : Option String} {e : Exn}
    (h : env.verifyPassword plain hashed = .error e) : ∃ message, e = .valueError message := by
  unfold Env.verifyPassword at h
  split at h
  · cases h
  · next hashed =>
    split at h
    · exact ⟨_, (Except.error.inj h).symm⟩
    · exact Secret.map_check_eq_error h

/-- Nothing was missing: a refused password is no crash. -/
theorem Env.hashPassword_isCrash {env : Env} {draw : ℕ} {password : String} {e : Exn}
    (h : env.hashPassword draw password = .error e) : e.isCrash = false := by
  obtain ⟨message, rfl⟩ := Env.hashPassword_eq_error h
  rfl

theorem Env.verifyPassword_isCrash {env : Env} {plain : String} {hashed : Option String} {e : Exn}
    (h : env.verifyPassword plain hashed = .error e) : e.isCrash = false := by
  obtain ⟨message, rfl⟩ := Env.verifyPassword_eq_error h
  rfl

/-- A password that is right belongs to a hash. -/
theorem Env.some_of_verifyPassword {env : Env} {plain : String} {hashed : Option String}
    (h : env.verifyPassword plain hashed = .ok true) : ∃ hash, hashed = some hash := by
  cases hashed with
  | none => cases h
  | some hash => exact ⟨hash, rfl⟩

/-! ### What the decoders accept -/

theorem Jose.verify_eq_ok {jose : Jose} {now : Time} {token : String} {claims : Claims} :
    jose.verify now token = .ok claims ↔
      jose.decode token = some claims ∧ now.timegm ≤ claims.exp := by
  unfold Jose.verify
  cases jose.decode token with
  | none => simp
  | some c =>
    by_cases h : c.exp < now.timegm
    · simp only [h, if_true, reduceCtorEq, Option.some.injEq, false_iff, not_and]
      rintro rfl
      omega
    · simp only [h, if_false, Except.ok.injEq, Option.some.injEq, iff_self_and]
      rintro rfl
      omega

theorem decodeAccessToken_eq_ok {env : Env} {now : Time} {token : String} {claims : Claims} :
    decodeAccessToken env now token = .ok claims ↔
      env.jose.decode token = some claims ∧ now.timegm ≤ claims.exp ∧ claims.type = "access" := by
  unfold decodeAccessToken
  cases hv : env.jose.verify now token with
  | error e =>
    have hne : ¬ (env.jose.decode token = some claims ∧ now.timegm ≤ claims.exp) := by
      rw [← Jose.verify_eq_ok, hv]
      simp
    cases e <;> simp only [reduceCtorEq, false_iff] <;> exact fun h => hne ⟨h.1, h.2.1⟩
  | ok c =>
    obtain ⟨hc, hexp⟩ := Jose.verify_eq_ok.mp hv
    by_cases ht : c.type = "access"
    · simp only [ht, ne_eq, not_true_eq_false, if_false, Except.ok.injEq, hc, Option.some.injEq]
      constructor
      · rintro rfl
        exact ⟨rfl, hexp, ht⟩
      · exact fun h => h.1
    · simp only [ht, ne_eq, not_false_eq_true, if_true, reduceCtorEq, hc, Option.some.injEq,
        false_iff, not_and]
      rintro rfl -
      exact ht

/-- A refresh token carries its owner and its `jti`: tokens of two draws differ. -/
theorem createRefreshToken_injective (env : Env) {now now' : Time} {u u' : UserId}
    {jti jti' : String}
    (h : createRefreshToken env now u jti = createRefreshToken env now' u' jti') :
    u = u' ∧ jti = jti' := by
  have := env.jose.encode_injective h
  simp only [refreshClaims, Claims.mk.injEq, Option.some.injEq] at this
  exact ⟨this.1, this.2.2.2.2.1⟩

end SmsLite
