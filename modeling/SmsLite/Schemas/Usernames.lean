import SmsLite.Lib.Segments
import SmsLite.Schemas

/-!
# The grammar of usernames

`validate_username` looks at the characters, at the first one, at the last one and at neighbours.
What it accepts is a regular language: words of lower case letters and digits, with a dot or an
underscore between any two of them, that begin with a letter.

## Main definitions

* `usernamePattern` — `[a-z][a-z0-9]*([._][a-z0-9]+)*`.
* `IsUsername` — a text of the language, of 6 to 20 characters.

## Main results

* `hasConsecutive_eq_false_iff` — what the search for two separators finds.
* `validateUsername_ok_iff` — **what the validator accepts is the language**, and it returns it
  unchanged.
* `username_accepted_iff` — **both schemas accept exactly the usernames**, and keep them.
-/

namespace SmsLite

open Segments

/-! ### The language -/

/-- `[a-z]`. -/
def lowerCaseLetters : List Char := charRange 'a' 'z'

/-- `[a-z0-9]`. -/
def segmentChars : List Char := charRange 'a' 'z' ++ charRange '0' '9'

/-- `[._]`. -/
def separatorChars : List Char := ['.', '_']

/-- `[a-z][a-z0-9]*([._][a-z0-9]+)*`. -/
def usernamePattern : RegularExpression Char :=
  oneOf lowerCaseLetters * .star (oneOf segmentChars) *
    .star (oneOf separatorChars * many1 (oneOf segmentChars))

/-- A text of the language, of 6 to 20 characters. -/
structure IsUsername (text : String) : Prop where
  min : 6 ≤ text.length
  max : text.length ≤ 20
  pattern : text.toList ∈ usernamePattern.matches'

/-! ### Characters -/

variable {c : Char} {w : List Char} {username text : String}

theorem mem_segmentChars : c ∈ segmentChars ↔ 'a' ≤ c ∧ c ≤ 'z' ∨ '0' ≤ c ∧ c ≤ '9' := by
  unfold segmentChars
  rw [List.mem_append, mem_charRange, mem_charRange]

theorem mem_separatorChars : c ∈ separatorChars ↔ c = '.' ∨ c = '_' := by
  simp [separatorChars]

theorem isUsernameChar_iff : isUsernameChar c = true ↔ c ∈ segmentChars ∨ c ∈ separatorChars := by
  rw [mem_segmentChars, mem_separatorChars]
  simp [isUsernameChar, isAsciiDigit, or_assoc]

theorem isSeparator_iff : (c == '.' || c == '_') = true ↔ c ∈ separatorChars := by
  simp [mem_separatorChars]

theorem disjoint_segmentChars : segmentChars.Disjoint separatorChars := by
  intro c hsegment hsep
  rcases mem_separatorChars.mp hsep with rfl | rfl
  · exact absurd (mem_segmentChars.mp hsegment) (by decide)
  · exact absurd (mem_segmentChars.mp hsegment) (by decide)

/-- The only letters among the characters of a username are the lower case ones. -/
theorem isAsciiLetter_iff (hc : isUsernameChar c = true) :
    isAsciiLetter c = true ↔ c ∈ lowerCaseLetters := by
  have hlower : isAsciiLetter c = true ↔ 'a' ≤ c ∧ c ≤ 'z' ∨ 'A' ≤ c ∧ c ≤ 'Z' := by
    simp [isAsciiLetter]
  have hupper : ¬ ('A' ≤ c ∧ c ≤ 'Z') := by
    rintro ⟨hA, hZ⟩
    have hA : 65 ≤ c.toNat := hA
    have hZ : c.toNat ≤ 90 := hZ
    rcases isUsernameChar_iff.mp hc with hsegment | hsep
    · rcases mem_segmentChars.mp hsegment with ⟨ha, -⟩ | ⟨-, h9⟩
      · have ha : 97 ≤ c.toNat := ha
        omega
      · have h9 : c.toNat ≤ 57 := h9
        omega
    · rcases mem_separatorChars.mp hsep with rfl | rfl
      · exact absurd hA (by decide)
      · exact absurd hZ (by decide)
  rw [hlower, or_iff_left hupper]
  exact mem_charRange.symm

/-! ### Neighbours -/

/-- What the search for two separators finds. -/
theorem hasConsecutive_eq_false_iff (w : List Char) :
    hasConsecutive w = false ↔ w.IsChain fun c d => c ∈ separatorChars → d ∉ separatorChars := by
  induction w with
  | nil => exact iff_of_true rfl List.isChain_nil
  | cons c w ih =>
    cases w with
    | nil => exact iff_of_true rfl (List.isChain_singleton c)
    | cons d w =>
      rw [hasConsecutive, Bool.or_eq_false_iff, ih, List.isChain_cons_cons]
      refine and_congr_left fun _ => ?_
      rw [← isSeparator_iff, ← isSeparator_iff, ← Bool.not_eq_true, Bool.and_eq_true]
      exact not_and

/-- The first character, where all of them may stand in a username. -/
theorem startsWithLetter_iff (hchars : ∀ c ∈ w, isUsernameChar c = true) :
    w.head?.any isAsciiLetter = true ↔ ∃ c ∈ w.head?, c ∈ lowerCaseLetters := by
  rw [Option.any_eq_true]
  constructor
  · rintro ⟨c, hc, hletter⟩
    exact ⟨c, hc, (isAsciiLetter_iff (hchars c (List.mem_of_mem_head? hc))).mp hletter⟩
  · rintro ⟨c, hc, hlower⟩
    exact ⟨c, hc, (isAsciiLetter_iff (hchars c (List.mem_of_mem_head? hc))).mpr hlower⟩

/-- The last character. -/
theorem endsWithSeparator_eq_false_iff :
    (w.getLast?.any fun c => c == '.' || c == '_') = false ↔
      ∀ c ∈ w.getLast?, c ∉ separatorChars := by
  rw [Option.any_eq_false]
  refine forall₂_congr fun c _ => ?_
  rw [← isSeparator_iff, Bool.not_eq_true]

/-! ### The validator -/

/-- The four tests of the validator. -/
structure PassesTests (w : List Char) : Prop where
  chars : w.all isUsernameChar = true
  start : w.head?.any isAsciiLetter = true
  finish : (w.getLast?.any fun c => c == '.' || c == '_') = false
  consecutive : hasConsecutive w = false

theorem passesTests_iff : PassesTests w ↔ w ∈ usernamePattern.matches' := by
  have hpattern : w ∈ usernamePattern.matches' ↔
      (∃ c ∈ w.head?, c ∈ lowerCaseLetters) ∧ Spaced segmentChars separatorChars w :=
    mem_segmented_iff disjoint_segmentChars (List.subset_append_left _ _)
  rw [hpattern]
  constructor
  · intro h
    have hchars : ∀ c ∈ w, isUsernameChar c = true := List.all_eq_true.mp h.chars
    refine ⟨(startsWithLetter_iff hchars).mp h.start, ?_, ?_, ?_⟩
    · exact fun c hc => isUsernameChar_iff.mp (hchars c hc)
    · exact endsWithSeparator_eq_false_iff.mp h.finish
    · exact (hasConsecutive_eq_false_iff w).mp h.consecutive
  · rintro ⟨hstart, hspaced⟩
    have hchars : ∀ c ∈ w, isUsernameChar c = true :=
      fun c hc => isUsernameChar_iff.mpr (hspaced.known c hc)
    exact
      { chars := List.all_eq_true.mpr hchars
        start := (startsWithLetter_iff hchars).mpr hstart
        finish := endsWithSeparator_eq_false_iff.mpr hspaced.last
        consecutive := (hasConsecutive_eq_false_iff w).mpr hspaced.apart }

/-- **What the validator accepts is the language**, and it returns it unchanged. -/
theorem validateUsername_ok_iff :
    validateUsername username = .ok text ↔
      text = username ∧ username.toList ∈ usernamePattern.matches' := by
  rw [← passesTests_iff]
  unfold validateUsername
  split
  · next hchars =>
    refine iff_of_false (by intro h; cases h) ?_
    rintro ⟨-, h⟩
    have hne : username ≠ "" := by
      rintro rfl
      cases h.start
    simp [hne, h.chars] at hchars
  · next hchars =>
    rw [Bool.or_eq_true] at hchars
    split
    · next hstart =>
      refine iff_of_false (by intro h; cases h) ?_
      rintro ⟨-, h⟩
      rw [h.start] at hstart
      cases hstart
    · next hstart =>
      split
      · next hfinish =>
        refine iff_of_false (by intro h; cases h) ?_
        rintro ⟨-, h⟩
        rw [h.finish] at hfinish
        cases hfinish
      · next hfinish =>
        split
        · next hconsecutive =>
          refine iff_of_false (by intro h; cases h) ?_
          rintro ⟨-, h⟩
          rw [h.consecutive] at hconsecutive
          cases hconsecutive
        · next hconsecutive =>
          have hpasses : PassesTests username.toList :=
            { chars := by simpa using (not_or.mp hchars).2
              start := by simpa using hstart
              finish := by simpa using hfinish
              consecutive := by simpa using hconsecutive }
          constructor
          · intro h
            exact ⟨(Except.ok.inj h).symm, hpasses⟩
          · rintro ⟨rfl, -⟩
            rfl

/-- The field of both schemas. -/
theorem username_ok_iff :
    (lengthBetween 6 20 username >>= validateUsername) = .ok text ↔
      text = username ∧ IsUsername username := by
  rw [lengthBetween_bind_ok_iff, validateUsername_ok_iff]
  constructor
  · rintro ⟨⟨hmin, hmax⟩, htext, hpattern⟩
    exact ⟨htext, hmin, hmax, hpattern⟩
  · rintro ⟨htext, h⟩
    exact ⟨⟨h.min, h.max⟩, htext, h.pattern⟩

/-! ### The schemas -/

/-- The schema has nothing to say about the username exactly if it is one. -/
theorem CreateUserBase.Body.passes_username_iff {V : Validation} {b : CreateUserBase.Body} :
    (b.validate V).Passes "username" ↔ IsUsername b.username := by
  unfold CreateUserBase.Body.validate
  simp only [Validated.passes_seq, Validated.passes_map, Validated.passes_field, username_ok_iff,
    Validated.passes_field_of_ne, ne_eq, String.reduceEq, not_false_eq_true, and_true,
    exists_eq_left]

theorem CreateUserBase.Body.validate_username {V : Validation} {b : CreateUserBase.Body}
    {base : CreateUserBase} (h : b.validate V = .ok base) : base.username = b.username := by
  simp only [validate, Validated.seq_eq_ok, Validated.map_eq_ok, Validated.field_eq_ok] at h
  obtain ⟨_, _, ⟨_, _, ⟨_, _, ⟨_, _, ⟨_, _, ⟨username, husername, rfl⟩, -, rfl⟩, -, rfl⟩, -, rfl⟩,
    -, rfl⟩, -, rfl⟩ := h
  exact (username_ok_iff.mp husername).1

/-- The same of a username that is sent for an update. -/
theorem UpdateUserCredentials.Body.passes_username_iff {email : Patch String} :
    (UpdateUserCredentials.Body.validate ⟨.set username, email⟩).Passes "username" ↔
      IsUsername username := by
  unfold UpdateUserCredentials.Body.validate
  simp only [Validated.passes_seq, Validated.passes_map, Validated.passes_field,
    Validated.passes_field_of_ne, ne_eq, String.reduceEq, not_false_eq_true, and_true,
    Patch.check_set_ok_iff, username_ok_iff]
  constructor
  · rintro ⟨_, _, ⟨-, husername⟩, -⟩
    exact husername
  · intro husername
    exact ⟨_, username, ⟨rfl, husername⟩, rfl⟩

theorem UpdateUserCredentials.Body.validate_username {b : UpdateUserCredentials.Body}
    {r : UpdateUserCredentials} (h : b.validate = .ok r) : r.username = b.username := by
  simp only [validate, Validated.seq_eq_ok, Validated.map_eq_ok, Validated.field_eq_ok] at h
  obtain ⟨_, _, ⟨sent, husername, rfl⟩, -, rfl⟩ := h
  exact Patch.check_eq (fun _ _ h => (username_ok_iff.mp h).1) husername

/-- **Both schemas accept exactly the usernames**, whatever the other fields are, and keep them
unchanged. -/
theorem username_accepted_iff (V : Validation) (s : String) :
    (∀ b : CreateUserBase.Body,
      ((({ b with username := s } : CreateUserBase.Body).validate V).Passes "username" ↔
          IsUsername s) ∧
        ∀ r, ({ b with username := s } : CreateUserBase.Body).validate V = .ok r →
          r.username = s) ∧
      ∀ b : UpdateUserCredentials.Body,
        (({ b with username := .set s } : UpdateUserCredentials.Body).validate.Passes
            "username" ↔ IsUsername s) ∧
          ∀ r, ({ b with username := .set s } : UpdateUserCredentials.Body).validate = .ok r →
            r.username = .set s := by
  refine ⟨fun b => ⟨?_, fun r h => ?_⟩, fun b => ⟨?_, fun r h => ?_⟩⟩
  · exact CreateUserBase.Body.passes_username_iff
  · exact CreateUserBase.Body.validate_username h
  · exact UpdateUserCredentials.Body.passes_username_iff
  · exact UpdateUserCredentials.Body.validate_username h

/-- A body with a username of two segments. -/
def hopperBody : CreateUserBase.Body where
  username := "grace_hopper"
  firstname := "grace"
  lastname := "hopper"
  middlename := none
  phoneNumber := "+12025550143"
  email := "grace@navy.mil"

/-- What the schema makes of it. -/
def hopper : CreateUserBase where
  username := "grace_hopper"
  firstname := "Grace"
  lastname := "Hopper"
  middlename := none
  phoneNumber := ⟨"+12025550143", by decide +kernel⟩
  email := ⟨"grace@navy.mil", by decide +kernel⟩

/-- The body is accepted, so its username is one and is kept. -/
theorem username_accepted_hopper :
    hopperBody.validate .concrete = .ok hopper ∧ IsUsername "grace_hopper" ∧
      hopper.username = "grace_hopper" := by
  have hok : hopperBody.validate .concrete = .ok hopper := by decide +kernel
  obtain ⟨haccepted, hkept⟩ := (username_accepted_iff .concrete "grace_hopper").1 hopperBody
  refine ⟨hok, haccepted.mp ?_, hkept hopper hok⟩
  show (hopperBody.validate .concrete).Passes "username"
  rw [hok]
  intro e he
  cases he

end SmsLite
