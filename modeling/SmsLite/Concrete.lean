import SmsLite.Lib.Codec
import SmsLite.System

/-!
# A concrete environment

The results of this development hold of every environment, some of them of every ideal
one.  Here is one, made of codecs: signed tokens are written out in full, a digest is the
text itself as long as that is ASCII, and a bcrypt hash is the password under its salt.

## Main definitions

* `Claims.codec` — the payload of a token.
* `Codec.escaped`, `digestText` — a text in ASCII.
* `Env.concrete` — the environment.
* `World.concrete` — a seeded state with an administrator and a student.
* `loginAda`, `tokensAda`, `registerHopper` — the student's first login, and another student.

## Main results

* `Env.concrete_ideal` — the assumptions on the libraries can be met.
* `World.concrete_seeded` — the state is one a run may start from.
-/

namespace SmsLite

/-- The number of a role. -/
def UserRole.toNat : UserRole → ℕ
  | systemAdmin => 0
  | director => 1
  | teacher => 2
  | student => 3

/-- The role of a number. -/
def UserRole.ofNat? : ℕ → Option UserRole
  | 0 => some systemAdmin
  | 1 => some director
  | 2 => some teacher
  | 3 => some student
  | _ => none

/-- Texts. -/
def Codec.string : Codec String :=
  Codec.text.retract String.toList (fun cs => some (String.ofList cs)) fun s => by simp

/-- Roles. -/
def UserRole.codec : Codec UserRole :=
  Codec.nat.retract toNat ofNat? fun role => by cases role <;> rfl

/-- Payloads. -/
def Claims.codec : Codec Claims :=
  (Codec.nat.option.pair <| UserRole.codec.option.pair <| Codec.nat.option.pair <|
      Codec.string.pair <| Codec.string.option.pair Codec.nat).retract
    (fun c => (c.sub, c.role, c.version, c.type, c.jti, c.exp))
    (fun (sub, role, version, type, jti, exp) => some { sub, role, version, type, jti, exp })
    fun _ => rfl

/-- A salted password, as it is stored. -/
def saltedPassword (salt : ℕ) (password : String) : String :=
  (Codec.nat.pair Codec.string).encode (salt, password)

/-- A character in ASCII: itself, or its number after a tilde. -/
def Codec.escaped : Codec Char where
  emit c := if c.toNat < 126 then [c] else '~' :: Codec.nat.emit c.toNat
  parse
    | '~' :: rest => (Codec.nat.parse rest).map fun r => (Char.ofNat r.1, r.2)
    | c :: rest => some (c, rest)
    | [] => none
  parse_emit c rest := by
    by_cases hc : c.toNat < 126
    · have hne : c ≠ '~' := by
        rintro rfl
        exact absurd hc (by decide)
      simp [hc]
    · simp [hc, Char.ofNat_toNat]

/-- A text in ASCII, from which it can be read off. -/
def digestText (text : String) : String :=
  String.ofList (text.toList.flatMap Codec.escaped.emit)

theorem digestText_injective : Function.Injective digestText := by
  intro a b h
  have hemit : ∀ c, Codec.escaped.emit c ≠ [] := by
    intro c
    simp only [Codec.escaped]
    split <;> simp
  exact String.toList_inj.mp
    (Codec.escaped.flatMap_emit_injective hemit (String.ofList_injective h))

/-- The digits of a number are ASCII. -/
theorem isAscii_digits (fuel n : ℕ) :
    ((Codec.digits fuel n).all fun c => decide (c.toNat < 128)) = true := by
  induction fuel generalizing n with
  | zero => rfl
  | succ fuel ih =>
    unfold Codec.digits
    by_cases hn : n = 0
    · rw [if_pos hn]
      rfl
    · rw [if_neg hn, List.all_cons, ih, Bool.and_true]
      split <;> rfl

theorem digestText_isAscii (text : String) : isAscii (digestText text) = true := by
  simp only [isAscii, digestText, String.toList_ofList, List.all_flatMap]
  refine List.all_eq_true.mpr fun c _ => ?_
  simp only [Codec.escaped]
  split
  · next hc =>
    simp only [List.all_cons, List.all_nil, Bool.and_true, decide_eq_true_eq]
    omega
  · exact isAscii_digits c.toNat c.toNat

/-- The environment. -/
def Env.concrete : Env where
  settings := .default
  jose :=
    { encode := Claims.codec.encode
      decode := Claims.codec.decode
      decode_encode := Claims.codec.decode_encode }
  sha256 := digestText
  sha256_isAscii := digestText_isAscii
  sha256Prefix text := Fin.ofNat _ text.length
  bcryptHash salt secret := saltedPassword salt secret.text
  bcryptMalformed hashed :=
    if ((Codec.nat.pair Codec.string).decode hashed).isSome then none
    else some "hash could not be identified"
  bcryptVerify secret hashed :=
    ((Codec.nat.pair Codec.string).decode hashed).any fun r => r.2 == secret.text
  tokenUrlsafe := Codec.nat.encode
  randbelow draw := Fin.ofNat _ draw

/-- **The assumptions on the libraries can be met.** -/
theorem Env.concrete_ideal : Env.concrete.Ideal where
  sha256 := digestText_injective
  tokenUrlsafe := Codec.nat.encode_injective
  tokenUrlsafe_isAscii draw := by
    simp only [Env.concrete, isAscii, Codec.encode, String.toList_ofList]
    exact isAscii_digits draw draw

/-- A seeded user. -/
def seededUser (id : UserId) (username : String) (role : UserRole) (phoneNumber email : String) :
    User where
  id := id
  username := username
  firstname := "Ada"
  lastname := "Lovelace"
  middlename := none
  dateOfBirth := none
  address := none
  phoneNumber := phoneNumber
  email := email
  passwordHash := some (saltedPassword 0 "pw")
  role := role
  status := .active
  isActive := true
  createdBy := none
  groupId := none
  createdAt := 0

/-- The student. -/
def seededAda : User :=
  seededUser 2 "lovelace" .student "+992917000002" "ada@school.org"

/-- An administrator and a student. -/
def World.concrete : World where
  db :=
    { users := [seededUser 1 "principal" .systemAdmin "+992917000001" "root@school.org",
        seededAda]
      sessions := [{ userId := 1 }, { userId := 2 }]
      activations := [{ userId := 1 }, { userId := 2 }]
      loginLockouts := [{ userId := 1 }, { userId := 2 }]
      pendingEmails := []
      groups := []
      usersIdSeq := 3
      pendingEmailsIdSeq := 1 }
  cache := fun _ => none
  clock := 0
  draws := 1
  mails := []

/-- **The state is one a run may start from.** -/
theorem World.concrete_seeded : World.concrete.Seeded where
  ids := by decide
  usersIdSeq := by decide
  users := by
    intro u hu
    simp only [World.concrete, List.mem_cons, List.not_mem_nil, or_false] at hu
    rcases hu with rfl | rfl <;> exact ⟨rfl, rfl, by simp [seededAda, seededUser]⟩
  sessions := rfl
  activations := rfl
  loginLockouts := rfl
  cache := rfl

theorem isE164_grace : isE164 "+992917000003" = true := by decide

theorem emailPattern_grace : emailPattern "grace@school.org" = true := by decide

theorem emailPattern_lovelace : emailPattern "lovelace@school.org" = true := by decide

/-- The student logs in. -/
def loginAda : Event := .request (.login { username := some "lovelace", password := some "pw" })

/-- The administrator registers a second student; her id is three. -/
def registerHopper : Event :=
  .request (.registerUser 1 (.student
    { username := "hopper", firstname := "Grace", lastname := "Hopper", middlename := none
      phoneNumber := ⟨"+992917000003", isE164_grace⟩
      email := ⟨"grace@school.org", emailPattern_grace⟩ }
    { year := 2010, month := 12, day := 9 } none))

/-- What the student gets when she logs in at the start. -/
def tokensAda : LoginResponse where
  accessToken := "101;111;11;011;access00010000111;"
  refreshTokenCookie := "101;00111;refresh111;01;00000001010111001001;"
  refreshTokenFamilyCookie := "1;"

end SmsLite
