import SmsLite.GroupService
import SmsLite.Lib.Validated
import SmsLite.SubjectService

/-!
# The schemas of the request bodies

`src/utils/validators.py`, and the schemas of `src/users/schemas/system_admin.py`,
`src/users/utils/shared_schemas.py` and `src/subjects/schemas.py` that write to the tables.  A
body is what the client sent, a payload what its schema makes of it: the validators of names,
phone numbers and subject codes change the text they accept.

## Main definitions

* `Unicode`, `Phonenumbers` — what the validators leave to libraries.
* `FieldError` — what a schema objects to.
* `validateUsername`, `validateName`, `validateEmail`, ... — the validators.
* `CreateUserBody`, `UpdateUserBody`, ... and `validate` — bodies and what the schemas make
  of them.

## Main results

* `lengthBetween_ok`, `check_bind_ok`, ... — what an accepted text is like.
* `EmailAddress.mem_text`, `PhoneNumber.mem_text` — the characters of contact texts.
-/

namespace SmsLite

/-! ### Libraries -/

/-- The methods of `str` that go by the tables of Unicode. -/
structure Unicode where
  /-- `str.isalpha`, of one character. -/
  isAlpha : Char → Bool
  /-- `str.isspace`, of one character. -/
  isSpace : Char → Bool
  /-- The full upper case of a character, which may be several. -/
  upper : Char → List Char
  /-- `str.capitalize`. -/
  capitalize : String → String

/-- `str.isalpha`. -/
def Unicode.isAlphaText (u : Unicode) (text : String) : Bool :=
  text ≠ "" && text.toList.all u.isAlpha

/-- `str.strip`. -/
def Unicode.strip (u : Unicode) (text : String) : String :=
  let stripped := text.toList.dropWhile u.isSpace
  String.ofList (stripped.reverse.dropWhile u.isSpace).reverse

/-- `str.upper`. -/
def Unicode.upperText (u : Unicode) (text : String) : String :=
  String.ofList (text.toList.flatMap u.upper)

/-- What `phonenumbers` finds out about a text. -/
inductive ParsedNumber
  /-- `parse` raises. -/
  | unparsable
  /-- `is_valid_number` is false. -/
  | invalid
  /-- `number_type` is neither of the mobile ones. -/
  | notMobile
  /-- `format_number`, in E.164. -/
  | mobile (number : PhoneNumber)
  deriving DecidableEq, Repr

/-- The package `phonenumbers`: a country code has at most 3 digits, and a national number
at most 17. -/
structure Phonenumbers where
  parse : String → ParsedNumber
  length_le : ∀ text number, parse text = .mobile number → number.text.length ≤ 21

/-- What a schema goes by besides the body. -/
structure Validation where
  unicode : Unicode
  phonenumbers : Phonenumbers
  /-- `date.today()`. -/
  today : Date

/-- Libraries that go by ASCII, and numbers that are in E.164 already. -/
def Validation.concrete : Validation where
  unicode :=
    { isAlpha := Char.isAlpha
      isSpace := Char.isWhitespace
      upper := fun c => [c.toUpper]
      capitalize := fun text => String.ofList (match text.toList with
        | [] => []
        | c :: rest => c.toUpper :: rest.map Char.toLower) }
  phonenumbers :=
    { parse := fun text =>
        if h : isE164 text = true ∧ text.length ≤ 21 then .mobile ⟨text, h.1⟩ else .unparsable
      length_le := by
        intro text number h
        split at h
        · next hfits =>
          cases h
          exact hfits.2
        · cases h }
  today := ⟨2026, 1, 1⟩

/-! ### Errors -/

/-- What a schema objects to in a field. -/
inductive FieldError
  | stringTooShort (minLength : ℕ)
  | stringTooLong (maxLength : ℕ)
  /-- `PydanticCustomError`. -/
  | custom (type message : String)
  /-- A `ValueError`. -/
  | valueError (message : String)
  deriving DecidableEq, Repr

/-- The check of one value. -/
abbrev FieldCheck (α β : Type) := α → Except FieldError β

/-- A text within bounds. -/
abbrev BoundedText (minLength maxLength : ℕ) :=
  { text : String // minLength ≤ text.length ∧ text.length ≤ maxLength }

/-- `Field(min_length=..., max_length=...)`. -/
def boundedText (minLength maxLength : ℕ) : FieldCheck String (BoundedText minLength maxLength) :=
  fun text =>
    if hmin : text.length < minLength then .error (.stringTooShort minLength)
    else if hmax : maxLength < text.length then .error (.stringTooLong maxLength)
    else .ok ⟨text, not_lt.mp hmin, not_lt.mp hmax⟩

/-- The same, as a text. -/
def lengthBetween (minLength maxLength : ℕ) : FieldCheck String String := fun text =>
  Subtype.val <$> boundedText minLength maxLength text

/-- An optional value is checked if it is there. -/
def checkOption {α β : Type} (check : FieldCheck α β) : FieldCheck (Option α) (Option β)
  | none => .ok none
  | some a => some <$> check a

/-- A field of a `PATCH` is checked if it is sent and is not null. -/
def Patch.check {α β : Type} (check : FieldCheck α β) : FieldCheck (Patch α) (Patch β)
  | .unset => .ok .unset
  | .null => .ok .null
  | .set a => .set <$> check a

/-! ### Validators -/

/-- `[a-z0-9._]`. -/
def isUsernameChar (c : Char) : Bool :=
  ('a' ≤ c && c ≤ 'z') || isAsciiDigit c || c == '.' || c == '_'

/-- `re.search(r"[._]{2}", username)`. -/
def hasConsecutive : List Char → Bool
  | c :: d :: rest =>
    ((c == '.' || c == '_') && (d == '.' || d == '_')) || hasConsecutive (d :: rest)
  | _ => false

/-- `validate_username`. -/
def validateUsername : FieldCheck String String := fun username =>
  if username = "" || !username.toList.all isUsernameChar then
    .error (.custom "invalid_username_characters"
      "Username can only contain lowercase letters, numbers, (.) and (_)")
  else if !(username.toList.head?.any isAsciiLetter) then
    .error (.custom "invalid_username_start" "Username must start with a letter")
  else if username.toList.getLast?.any fun c => c == '.' || c == '_' then
    .error (.custom "invalid_username_end" "Username cannot end with (.) or (_)")
  else if hasConsecutive username.toList then
    .error (.custom "invalid_username_consecutive"
      "Username cannot contain consecutive (.) or (_) characters")
  else .ok username

/-- `validate_firstname`, `validate_lastname` and `validate_middlename`, with the type and the
message of the error. -/
def validateName (u : Unicode) (type message : String) : FieldCheck String String := fun name =>
  if u.isAlphaText name then .ok (u.capitalize name) else .error (.custom type message)

/-- `validate_firstname`. -/
def validateFirstname (u : Unicode) : FieldCheck String String :=
  validateName u "invalid_firstname_characters" "First name can only contain letters"

/-- `validate_lastname`. -/
def validateLastname (u : Unicode) : FieldCheck String String :=
  validateName u "invalid_lastname_characters" "Last name can only contain letters"

/-- `validate_middlename`. -/
def validateMiddlename (u : Unicode) : FieldCheck String String :=
  validateName u "invalid_middlename_characters" "Middle name can only contain letters"

/-- The order of dates. -/
def Date.before (d e : Date) : Bool :=
  decide (d.year < e.year) || (d.year == e.year &&
    (decide (d.month < e.month) || (d.month == e.month && decide (d.day < e.day))))

/-- The age in full years. -/
def Date.age (today birthDate : Date) : ℤ :=
  let birthday : Date := { birthDate with year := today.year }
  today.year - birthDate.year - if today.before birthday then 1 else 0

/-- `validate_date_of_birth`. -/
def validateDateOfBirth (today : Date) : FieldCheck Date Date := fun birthDate =>
  if !birthDate.before today then
    .error (.custom "date_of_birth_not_in_past" "Date of birth must be in the past")
  else if Date.age today birthDate < 6 then
    .error (.custom "date_of_birth_too_young" "User must be at least 6 years old")
  else if 21 < Date.age today birthDate then
    .error (.custom "date_of_birth_invalid" "Please enter a valid date of birth")
  else .ok birthDate

/-- `parse_and_validate_mobile_number`. -/
def parseAndValidateMobileNumber (V : Validation) : FieldCheck String PhoneNumber := fun text =>
  match V.phonenumbers.parse (V.unicode.strip text) with
  | .unparsable =>
    .error (.custom "phone_number_invalid_format"
      "Phone number must be in international format, e.g. +14155552671")
  | .invalid =>
    .error (.custom "phone_number_invalid" "Phone number is not a valid number for its country")
  | .notMobile => .error (.custom "phone_number_not_mobile" "Phone number must be a mobile number")
  | .mobile number => .ok number

/-- `validate_email`. -/
def validateEmail : FieldCheck String EmailAddress := fun email =>
  if h : emailPattern email = true then .ok ⟨email, h⟩
  else .error (.valueError "Invalid email address")

/-- `normalize_subject_code`. -/
def normalizeSubjectCode (u : Unicode) (value : String) : String := u.upperText (u.strip value)

/-! ### Bodies -/

/-- A body of `CreateUserRequest`. -/
structure CreateUserBase.Body where
  username : String
  firstname : String
  lastname : String
  middlename : Option String
  phoneNumber : String
  email : String
  deriving DecidableEq, Repr

/-- The fields of `CreateUserBase`. -/
def CreateUserBase.Body.validate (V : Validation) (b : CreateUserBase.Body) :
    Validated (String × FieldError) CreateUserBase :=
  CreateUserBase.mk
    <$> .field "username" (lengthBetween 6 20 b.username >>= validateUsername)
    <*> .field "firstname" (lengthBetween 3 50 b.firstname >>= validateFirstname V.unicode)
    <*> .field "lastname" (lengthBetween 3 50 b.lastname >>= validateLastname V.unicode)
    <*> .field "middlename"
      (checkOption (fun text => lengthBetween 3 50 text >>= validateMiddlename V.unicode)
        b.middlename)
    <*> .field "phone_number" (parseAndValidateMobileNumber V b.phoneNumber)
    <*> .field "email" (validateEmail b.email)

/-- A body of `register_user`. -/
inductive CreateUserRequest.Body
  | teacher (base : CreateUserBase.Body)
  | student (base : CreateUserBase.Body) (dateOfBirth : Date) (address : Option String)
  deriving DecidableEq, Repr

/-- `CreateTeacherAdmin` and `CreateStudentAdmin`. -/
def CreateUserRequest.Body.validate (V : Validation) :
    CreateUserRequest.Body → Validated (String × FieldError) CreateUserRequest
  | teacher base => CreateUserRequest.teacher <$> base.validate V
  | student base dateOfBirth address =>
    CreateUserRequest.student
      <$> base.validate V
      <*> .field "date_of_birth" (validateDateOfBirth V.today dateOfBirth)
      <*> .field "address" (checkOption (lengthBetween 15 100) address)

/-- The fields of `UpdateUserBase`. -/
structure UpdateUserBase.Body where
  firstname : Patch String
  lastname : Patch String
  middlename : Patch String
  phoneNumber : Patch String
  deriving DecidableEq, Repr

/-- `UpdateUserBase`. -/
def UpdateUserBase.Body.validate (V : Validation) (b : UpdateUserBase.Body) :
    Validated (String × FieldError) UpdateUserBase :=
  UpdateUserBase.mk
    <$> .field "firstname"
      (Patch.check (fun text => lengthBetween 3 50 text >>= validateFirstname V.unicode)
        b.firstname)
    <*> .field "lastname"
      (Patch.check (fun text => lengthBetween 3 50 text >>= validateLastname V.unicode) b.lastname)
    <*> .field "middlename"
      (Patch.check (fun text => lengthBetween 3 50 text >>= validateMiddlename V.unicode)
        b.middlename)
    <*> .field "phone_number" (Patch.check (parseAndValidateMobileNumber V) b.phoneNumber)

/-- A body of `update_user`. -/
inductive UpdateUserRequest.Body
  | teacher (base : UpdateUserBase.Body)
  | student (base : UpdateUserBase.Body) (dateOfBirth : Patch Date) (address : Patch String)
  deriving DecidableEq, Repr

/-- `UpdateTeacherAdmin` and `UpdateStudentAdmin`. -/
def UpdateUserRequest.Body.validate (V : Validation) :
    UpdateUserRequest.Body → Validated (String × FieldError) UpdateUserRequest
  | teacher base => UpdateUserRequest.teacher <$> base.validate V
  | student base dateOfBirth address =>
    UpdateUserRequest.student
      <$> base.validate V
      <*> .field "date_of_birth" (Patch.check (validateDateOfBirth V.today) dateOfBirth)
      <*> .field "address" (Patch.check (lengthBetween 15 100) address)

/-- A body of `update_user_credentials` and `update_me_credentials`. -/
structure UpdateUserCredentials.Body where
  username : Patch String
  email : Patch String
  deriving DecidableEq, Repr

/-- `UpdateUserCredentials`. -/
def UpdateUserCredentials.Body.validate (b : UpdateUserCredentials.Body) :
    Validated (String × FieldError) UpdateUserCredentials :=
  UpdateUserCredentials.mk
    <$> .field "username"
      (Patch.check (fun text => lengthBetween 6 20 text >>= validateUsername) b.username)
    <*> .field "email" (Patch.check validateEmail b.email)

/-- A body of `create_subject`. -/
structure CreateSubjectAdmin.Body where
  name : String
  code : String
  description : Option String
  deriving DecidableEq, Repr

/-- `CreateSubjectAdmin`. -/
def CreateSubjectAdmin.Body.validate (V : Validation) (b : CreateSubjectAdmin.Body) :
    Validated (String × FieldError) CreateSubjectAdmin :=
  (fun name code description =>
      { name := name.val
        code := code
        description := description.map Subtype.val
        name_valid := name.property
        description_valid := by
          intro text htext
          obtain ⟨bounded, -, rfl⟩ := Option.map_eq_some_iff.mp htext
          exact bounded.property.2 })
    <$> .field "name" (boundedText 5 100 b.name)
    <*> .field "code" (normalizeSubjectCode V.unicode <$> lengthBetween 3 20 b.code)
    <*> .field "description" (checkOption (boundedText 0 255) b.description)

/-- What is sent has been checked. -/
theorem Patch.property_of_map {α : Type} {P : α → Prop} {p : Patch { a : α // P a }} {a : α}
    (h : p.map Subtype.val = .set a) : P a := by
  cases p with
  | unset => cases h
  | null => cases h
  | set sent =>
    cases h
    exact sent.property

/-- A body of `update_subject`. -/
structure UpdateSubjectAdmin.Body where
  name : Patch String
  code : Patch String
  description : Patch String
  deriving DecidableEq, Repr

/-- `UpdateSubjectAdmin`. -/
def UpdateSubjectAdmin.Body.validate (V : Validation) (b : UpdateSubjectAdmin.Body) :
    Validated (String × FieldError) UpdateSubjectAdmin :=
  (fun name code description =>
      { name := name.map Subtype.val
        code := code
        description := description.map Subtype.val
        name_valid := fun _ => Patch.property_of_map
        description_valid := fun _ h => (Patch.property_of_map h).2 })
    <$> .field "name" (Patch.check (boundedText 5 100) b.name)
    <*> .field "code"
      (Patch.check (fun code => normalizeSubjectCode V.unicode <$> lengthBetween 3 20 code) b.code)
    <*> .field "description" (Patch.check (boundedText 0 255) b.description)

/-! ### What the schemas accept -/

theorem boundedText_ok {minLength maxLength : ℕ} {text : String}
    {bounded : BoundedText minLength maxLength}
    (h : boundedText minLength maxLength text = .ok bounded) : bounded.val = text := by
  unfold boundedText at h
  split at h
  · cases h
  · split at h
    · cases h
    · cases h
      rfl

/-- A text within bounds is kept as it is. -/
theorem lengthBetween_ok {minLength maxLength : ℕ} {text text' : String}
    (h : lengthBetween minLength maxLength text = .ok text') :
    text' = text ∧ minLength ≤ text.length ∧ text.length ≤ maxLength := by
  unfold lengthBetween at h
  cases hbounded : boundedText minLength maxLength text with
  | error e =>
    rw [hbounded] at h
    cases h
  | ok bounded =>
    rw [hbounded] at h
    cases h
    obtain rfl := boundedText_ok hbounded
    exact ⟨rfl, bounded.property⟩

/-- A check after a check. -/
theorem check_bind_ok {α β γ : Type} {first : FieldCheck α β} {second : FieldCheck β γ} {a : α}
    {c : γ} (h : (first a >>= second) = .ok c) : ∃ b, first a = .ok b ∧ second b = .ok c := by
  cases hfirst : first a with
  | error e =>
    rw [hfirst] at h
    cases h
  | ok b =>
    rw [hfirst] at h
    exact ⟨b, rfl, h⟩

/-- A text within bounds passes. -/
theorem lengthBetween_of_le {minLength maxLength : ℕ} {text : String}
    (hmin : minLength ≤ text.length) (hmax : text.length ≤ maxLength) :
    lengthBetween minLength maxLength text = .ok text := by
  unfold lengthBetween boundedText
  rw [dif_neg (not_lt.mpr hmin), dif_neg (not_lt.mpr hmax)]
  rfl

/-- The length is checked before the characters. -/
theorem lengthBetween_bind_ok_iff {α : Type} {minLength maxLength : ℕ}
    {check : FieldCheck String α} {text : String} {a : α} :
    (lengthBetween minLength maxLength text >>= check) = .ok a ↔
      (minLength ≤ text.length ∧ text.length ≤ maxLength) ∧ check text = .ok a := by
  constructor
  · intro h
    obtain ⟨text', hbounded, hcheck⟩ := check_bind_ok h
    obtain ⟨rfl, hbounds⟩ := lengthBetween_ok hbounded
    exact ⟨hbounds, hcheck⟩
  · rintro ⟨⟨hmin, hmax⟩, hcheck⟩
    rw [lengthBetween_of_le hmin hmax]
    exact hcheck

theorem checkOption_ok {α β : Type} {check : FieldCheck α β} {a : Option α} {b : β}
    (h : checkOption check a = .ok (some b)) : ∃ a', check a' = .ok b := by
  cases a with
  | none => cases h
  | some a =>
    cases hcheck : check a with
    | error e =>
      rw [checkOption, hcheck] at h
      cases h
    | ok b' =>
      rw [checkOption, hcheck] at h
      cases h
      exact ⟨a, hcheck⟩

/-- A value that is sent is checked. -/
theorem Patch.check_set_ok_iff {α β : Type} {check : FieldCheck α β} {a : α} {q : Patch β} :
    Patch.check check (.set a) = .ok q ↔ ∃ b, check a = .ok b ∧ q = .set b := by
  rw [Patch.check]
  cases hcheck : check a with
  | error e => exact iff_of_false (by intro h; cases h) (by rintro ⟨_, ⟨⟩, _⟩)
  | ok b =>
    constructor
    · intro h
      exact ⟨b, rfl, (Except.ok.inj h).symm⟩
    · rintro ⟨b', hb, rfl⟩
      cases hb
      rfl

theorem Patch.check_ok {α β : Type} {check : FieldCheck α β} {p : Patch α} {b : β}
    (h : p.check check = .ok (.set b)) : ∃ a, check a = .ok b := by
  cases p with
  | unset => cases h
  | null => cases h
  | set a =>
    obtain ⟨b', hcheck, hset⟩ := Patch.check_set_ok_iff.mp h
    cases hset
    exact ⟨a, hcheck⟩

/-- A check that keeps what it accepts keeps what is sent. -/
theorem Patch.check_eq {α : Type} {check : FieldCheck α α} (hkeeps : ∀ a b, check a = .ok b → b = a)
    {p q : Patch α} (h : p.check check = .ok q) : q = p := by
  cases p with
  | unset | null =>
    cases h
    rfl
  | set a =>
    obtain ⟨b, hb, rfl⟩ := Patch.check_set_ok_iff.mp h
    rw [hkeeps a b hb]

/-- The phone number of an accepted body. -/
theorem parseAndValidateMobileNumber_ok {V : Validation} {text : String} {number : PhoneNumber}
    (h : parseAndValidateMobileNumber V text = .ok number) : number.text.length ≤ 21 := by
  unfold parseAndValidateMobileNumber at h
  cases hparse : V.phonenumbers.parse (V.unicode.strip text) with
  | mobile number' =>
    rw [hparse] at h
    cases h
    exact V.phonenumbers.length_le _ _ hparse
  | unparsable | invalid | notMobile =>
    rw [hparse] at h
    cases h

/-! ### The characters of contact texts -/

/-- What is joined with a separator consists of it and of the parts. -/
theorem mem_intercalate {α : Type} {sep : α} {parts : List (List α)} {a : α}
    (h : a ∈ [sep].intercalate parts) : a = sep ∨ ∃ part ∈ parts, a ∈ part := by
  induction parts with
  | nil => simp at h
  | cons part parts ih =>
    cases parts with
    | nil =>
      simp only [List.intercalate_singleton] at h
      exact Or.inr ⟨part, List.mem_singleton_self _, h⟩
    | cons part' parts =>
      simp only [List.intercalate_cons_cons, List.mem_append, List.mem_singleton] at h
      rcases h with (h | h) | h
      · exact Or.inr ⟨part, .head _, h⟩
      · exact Or.inl h
      · rcases ih h with h | ⟨other, hother, hmem⟩
        · exact Or.inl h
        · exact Or.inr ⟨other, .tail _ hother, hmem⟩

theorem mem_of_splitOn (sep : Char) {c : Char} {text : List Char} (h : c ∈ text) :
    c = sep ∨ ∃ part ∈ text.splitOn sep, c ∈ part := by
  have hjoin : [sep].intercalate (text.splitOn sep) = text := List.intercalate_splitOn sep
  rw [← hjoin] at h
  exact mem_intercalate h

theorem mem_dotted {p : Char → Bool} {n : ℕ} {text : List Char} {c : Char}
    (h : dotted p n text = true) (hc : c ∈ text) : c = '.' ∨ p c = true := by
  obtain ⟨-, hparts⟩ := Bool.and_eq_true_iff.mp h
  rcases mem_of_splitOn '.' hc with hdot | ⟨part, hpart, hmem⟩
  · exact Or.inl hdot
  · have hpart' := List.all_eq_true.mp hparts part hpart
    obtain ⟨-, hall⟩ := Bool.and_eq_true_iff.mp hpart'
    exact Or.inr (List.all_eq_true.mp hall c hmem)

/-- An address consists of word characters, dots and the at sign. -/
theorem EmailAddress.mem_text (e : EmailAddress) {c : Char} (hc : c ∈ e.text.toList) :
    c = '@' ∨ c = '.' ∨ isWordChar c = true := by
  have hvalid := e.valid
  unfold emailPattern at hvalid
  split at hvalid
  · next localPart domain hsplit =>
    obtain ⟨hlocal, hdomain⟩ := Bool.and_eq_true_iff.mp hvalid
    rcases mem_of_splitOn '@' hc with hat | ⟨part, hpart, hmem⟩
    · exact Or.inl hat
    · rw [hsplit] at hpart
      simp only [List.mem_cons, List.not_mem_nil, or_false] at hpart
      rcases hpart with rfl | rfl
      · exact Or.inr (mem_dotted hlocal hmem)
      · rcases mem_dotted hdomain hmem with hdot | hletter
        · exact Or.inr (Or.inl hdot)
        · refine Or.inr (Or.inr ?_)
          simp [isWordChar, hletter]
  · cases hvalid

/-- A number consists of the plus sign and digits. -/
theorem PhoneNumber.mem_text (number : PhoneNumber) {c : Char} (hc : c ∈ number.text.toList) :
    c = '+' ∨ isAsciiDigit c = true := by
  have hvalid := number.valid
  unfold isE164 at hvalid
  split at hvalid
  · next digits htext =>
    rw [htext] at hc
    rcases List.mem_cons.mp hc with hplus | hdigit
    · exact Or.inl hplus
    · exact Or.inr (List.all_eq_true.mp (Bool.and_eq_true_iff.mp hvalid).2 c hdigit)
  · cases hvalid

end SmsLite
