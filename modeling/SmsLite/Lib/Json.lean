import Mathlib.Algebra.Group.Int.Defs
import Mathlib.Tactic.Common
import SmsLite.Lib.Codec

/-!
# JSON texts

JSON values without arrays and fractions, the text `json.dumps` writes for one, and a reader
for such texts.  The writer keeps to ASCII: a character outside it becomes the escape of its
UTF-16 units, a surrogate pair where it needs two.

## Main definitions

* `Json` — the values, `Json.get?` — a member of an object.
* `Json.dumps` — the writer.
* `Json.loads` — the reader, over any white space between the tokens.
* `Json.Coder` — how the values of a type are kept in a member of an object.

## Main results

* `Json.unescape_escape` — a character is read back from its escape, **beyond the basic plane
  too**.
* `Json.loads_dumps` — **the round trip**.
-/

/-- The values of a JSON text. -/
inductive Json
  | null
  | bool (b : Bool)
  | int (n : ℤ)
  | str (text : String)
  | obj (fields : List (String × Json))

namespace Json

/-- A member of an object; of two under one name the later one counts. -/
def get? (name : String) : Json → Option Json
  | .obj fields => fields.foldl (fun found field => if field.1 = name then some field.2 else found)
      none
  | _ => none

/-! ### Writing -/

/-- A hexadecimal digit. -/
def hexDigit (n : ℕ) : Char := Nat.digitChar (n % 16)

/-- The escape of a UTF-16 unit. -/
def escapeUnit (n : ℕ) : List Char :=
  ['\\', 'u', hexDigit (n / 4096), hexDigit (n / 256), hexDigit (n / 16), hexDigit n]

/-- The characters that have an escape of their own, and its letter. -/
def shortEscapes : List (Char × Char) :=
  [('"', '"'), ('\\', '\\'), ('\n', 'n'), ('\r', 'r'), ('\t', 't'), ('\x08', 'b'), ('\x0c', 'f')]

/-- A character inside a string. -/
def escape (c : Char) : List Char :=
  match shortEscapes.lookup c with
  | some letter => ['\\', letter]
  | none =>
    if 0x20 ≤ c.toNat ∧ c.toNat < 0x7f then [c]
    else if c.toNat < 0x10000 then escapeUnit c.toNat
    else escapeUnit (0xd800 + (c.toNat - 0x10000) / 0x400) ++
      escapeUnit (0xdc00 + (c.toNat - 0x10000) % 0x400)

/-- A string. -/
def quote (cs : List Char) : List Char := '"' :: (cs.flatMap escape ++ ['"'])

/-- A number. -/
def emitInt : ℤ → List Char
  | .ofNat n => Nat.toDigits 10 n
  | .negSucc n => '-' :: Nat.toDigits 10 (n + 1)

mutual

/-- A value. -/
def emit : Json → List Char
  | .null => ['n', 'u', 'l', 'l']
  | .bool true => ['t', 'r', 'u', 'e']
  | .bool false => ['f', 'a', 'l', 's', 'e']
  | .int n => emitInt n
  | .str text => quote text.toList
  | .obj [] => ['\x7b', '\x7d']
  | .obj ((name, v) :: fields) =>
    '\x7b' :: (quote name.toList ++ ':' :: ' ' :: (emit v ++ emitMore fields))

/-- The other members of an object, and its end. -/
def emitMore : List (String × Json) → List Char
  | [] => ['\x7d']
  | (name, v) :: fields =>
    ',' :: ' ' :: (quote name.toList ++ ':' :: ' ' :: (emit v ++ emitMore fields))

end

/-- `json.dumps`. -/
def dumps (v : Json) : String := String.ofList (emit v)

/-! ### Reading -/

/-- White space between tokens. -/
def skip (input : List Char) : List Char :=
  input.dropWhile fun c => c == ' ' || c == '\n' || c == '\r' || c == '\t'

/-- The value of a hexadecimal digit. -/
def hexValue? (c : Char) : Option ℕ :=
  if '0' ≤ c ∧ c ≤ '9' then some (c.toNat - 48)
  else if 'a' ≤ c ∧ c ≤ 'f' then some (c.toNat - 87)
  else if 'A' ≤ c ∧ c ≤ 'F' then some (c.toNat - 55)
  else none

/-- The four digits of a UTF-16 unit. -/
def unit? : List Char → Option (ℕ × List Char)
  | a :: b :: c :: d :: rest => do
    let a ← hexValue? a
    let b ← hexValue? b
    let c ← hexValue? c
    let d ← hexValue? d
    some (((a * 16 + b) * 16 + c) * 16 + d, rest)
  | _ => none

/-- The second unit of a surrogate pair. -/
def lowUnit? : List Char → Option (ℕ × List Char)
  | '\\' :: 'u' :: rest => (unit? rest).filter fun unit => 0xdc00 ≤ unit.1 && unit.1 < 0xe000
  | _ => none

/-- A character inside a string.  A surrogate that has no partner is no character. -/
def unescape : List Char → Option (Char × List Char)
  | '\\' :: 'u' :: rest => do
    let (n, rest) ← unit? rest
    if 0xd800 ≤ n ∧ n < 0xdc00 then
      let (low, rest) ← lowUnit? rest
      some (Char.ofNat (0x10000 + (n - 0xd800) * 0x400 + (low - 0xdc00)), rest)
    else if 0xdc00 ≤ n ∧ n < 0xe000 then none
    else some (Char.ofNat n, rest)
  | '\\' :: letter :: rest =>
    (shortEscapes.find? fun pair => pair.2 == letter).map fun pair => (pair.1, rest)
  | c :: rest => if 0x20 ≤ c.toNat ∧ c ≠ '\\' then some (c, rest) else none
  | [] => none

/-- A string after its opening quote; the fuel bounds its characters. -/
def readString : ℕ → List Char → Option (List Char × List Char)
  | 0, _ => none
  | fuel + 1, input =>
    match input with
    | '"' :: rest => some ([], rest)
    | _ => do
      let (c, rest) ← unescape input
      let (cs, rest) ← readString fuel rest
      some (c :: cs, rest)

/-- A number that is followed by neither a fraction nor an exponent. -/
def readNat (input : List Char) : Option (ℕ × List Char) :=
  let digits := input.takeWhile Char.isDigit
  let rest := input.dropWhile Char.isDigit
  if digits = [] ∨ (digits.head? = some '0' ∧ digits ≠ ['0']) then none
  else if rest.head? ∈ [some '.', some 'e', some 'E'] then none
  else some (Nat.ofDigitChars 10 digits 0, rest)

mutual

/-- A value; the fuel bounds the length of its text. -/
def read : ℕ → List Char → Option (Json × List Char)
  | 0, _ => none
  | fuel + 1, input =>
    match skip input with
    | 'n' :: 'u' :: 'l' :: 'l' :: rest => some (.null, rest)
    | 't' :: 'r' :: 'u' :: 'e' :: rest => some (.bool true, rest)
    | 'f' :: 'a' :: 'l' :: 's' :: 'e' :: rest => some (.bool false, rest)
    | '"' :: rest => (readString fuel rest).map fun (cs, rest) => (.str (String.ofList cs), rest)
    | '-' :: rest => (readNat rest).map fun (n, rest) => (.int (-(n : ℤ)), rest)
    | '\x7b' :: rest =>
      match skip rest with
      | '\x7d' :: rest => some (.obj [], rest)
      | rest => (readFields fuel rest).map fun (fields, rest) => (.obj fields, rest)
    | rest => (readNat rest).map fun (n, rest) => (.int n, rest)

/-- The members of an object, and its end. -/
def readFields : ℕ → List Char → Option (List (String × Json) × List Char)
  | 0, _ => none
  | fuel + 1, input =>
    match skip input with
    | '"' :: rest => do
      let (name, rest) ← readString fuel rest
      match skip rest with
      | ':' :: rest =>
        let (v, rest) ← read fuel rest
        match skip rest with
        | '\x7d' :: rest => some ([(String.ofList name, v)], rest)
        | ',' :: rest =>
          let (fields, rest) ← readFields fuel rest
          some ((String.ofList name, v) :: fields, rest)
        | _ => none
      | _ => none
    | _ => none

end

/-- `json.loads`. -/
def loads (text : String) : Option Json :=
  match read text.toList.length text.toList with
  | some (v, rest) => if skip rest = [] then some v else none
  | none => none

/-! ### Characters -/

theorem hexValue?_hexDigit (n : ℕ) : hexValue? (hexDigit n) = some (n % 16) := by
  have hdigits : ∀ d < 16, hexValue? (Nat.digitChar d) = some d := by decide
  exact hdigits _ (Nat.mod_lt n (by omega))

/-- A unit is read back from its four digits. -/
theorem unit?_hexDigits {n : ℕ} (h : n < 0x10000) (rest : List Char) :
    unit? (hexDigit (n / 4096) :: hexDigit (n / 256) :: hexDigit (n / 16) :: hexDigit n :: rest) =
      some (n, rest) := by
  simp only [unit?, hexValue?_hexDigit, Option.bind_eq_bind, Option.bind_some]
  congr 2
  omega

/-- A surrogate pair is read back. -/
theorem unescape_pair {n : ℕ} (h : n < 0x100000) (rest : List Char) :
    unescape (escapeUnit (0xd800 + n / 0x400) ++ (escapeUnit (0xdc00 + n % 0x400) ++ rest)) =
      some (Char.ofNat (0x10000 + n), rest) := by
  have hlow : lowUnit? (escapeUnit (0xdc00 + n % 0x400) ++ rest) =
      some (0xdc00 + n % 0x400, rest) := by
    have hunit := unit?_hexDigits (n := 0xdc00 + n % 0x400) (by omega) rest
    simp only [escapeUnit, List.cons_append, List.nil_append, lowUnit?, hunit]
    apply Option.filter_eq_some_iff.mpr
    refine ⟨rfl, ?_⟩
    simp only [Bool.and_eq_true, decide_eq_true_eq]
    omega
  have hunit := unit?_hexDigits (n := 0xd800 + n / 0x400) (by omega)
    (escapeUnit (0xdc00 + n % 0x400) ++ rest)
  have hhigh : 0xd800 ≤ 0xd800 + n / 0x400 ∧ 0xd800 + n / 0x400 < 0xdc00 := by omega
  rw [escapeUnit, List.cons_append, List.cons_append, unescape]
  have hsum : 0x10000 + (0xd800 + n / 0x400 - 0xd800) * 0x400 + (0xdc00 + n % 0x400 - 0xdc00) =
      0x10000 + n := by omega
  simp only [List.cons_append, List.nil_append, hunit, Option.bind_eq_bind, Option.bind_some,
    if_pos hhigh, hlow, hsum]

/-- A character of the basic plane is read back from its unit. -/
theorem unescape_unit {c : Char} (h : c.toNat < 0x10000) (rest : List Char) :
    unescape (escapeUnit c.toNat ++ rest) = some (c, rest) := by
  have hunit := unit?_hexDigits h rest
  have hvalid : c.toNat < 0xd800 ∨ 0xdfff < c.toNat := by
    rcases c.valid with hlow | ⟨hhigh, -⟩
    · exact Or.inl hlow
    · exact Or.inr hhigh
  have hhigh : ¬ (0xd800 ≤ c.toNat ∧ c.toNat < 0xdc00) := by omega
  have hlow : ¬ (0xdc00 ≤ c.toNat ∧ c.toNat < 0xe000) := by omega
  rw [escapeUnit, List.cons_append, List.cons_append, unescape]
  simp only [List.cons_append, List.nil_append, hunit, Option.bind_eq_bind, Option.bind_some,
    if_neg hhigh, if_neg hlow, Char.ofNat_toNat]

/-- A character that stands for itself. -/
theorem unescape_cons {c : Char} (hne : c ≠ '\\') (hspace : 0x20 ≤ c.toNat) (rest : List Char) :
    unescape (c :: rest) = some (c, rest) := by
  unfold unescape
  split
  · next heq => exact absurd (List.cons.inj heq).1 hne
  · next heq => exact absurd (List.cons.inj heq).1 hne
  · next heq =>
    obtain ⟨rfl, rfl⟩ := List.cons.inj heq
    exact if_pos ⟨hspace, hne⟩
  · next heq => cases heq

/-- **A character is read back from its escape.** -/
theorem unescape_escape (c : Char) (rest : List Char) :
    unescape (escape c ++ rest) = some (c, rest) := by
  have hshort : ∀ pair ∈ shortEscapes, pair.2 ≠ 'u' ∧
      shortEscapes.find? (fun other => other.2 == pair.2) = some pair := by decide
  unfold escape
  cases hlookup : shortEscapes.lookup c with
  | some letter =>
    obtain ⟨l₁, l₂, hsplit, -⟩ := List.lookup_eq_some_iff.mp hlookup
    have hmem : (c, letter) ∈ shortEscapes := by
      rw [hsplit]
      exact List.mem_append_right l₁ List.mem_cons_self
    obtain ⟨hne, hfind⟩ := hshort _ hmem
    simp only [List.cons_append, List.nil_append]
    rw [unescape]
    · rw [hfind]
      rfl
    · exact hne
  | none =>
    have hne : c ≠ '\\' := by
      intro h
      rw [h] at hlookup
      cases hlookup
    dsimp only
    split
    · next hascii => exact unescape_cons hne hascii.1 rest
    · split
      · next hbasic => exact unescape_unit hbasic rest
      · next hbasic =>
        have hmax : c.toNat < 0x110000 := by
          rcases c.valid with hlow | ⟨-, hhigh⟩
          · exact absurd (Nat.lt_trans hlow (by decide)) hbasic
          · exact hhigh
        have hpair := unescape_pair (n := c.toNat - 0x10000) (by omega) rest
        rw [List.append_assoc, hpair, Nat.add_sub_cancel' (by omega), Char.ofNat_toNat]

/-! ### Strings and numbers -/

/-- No escape is empty or begins like the end of the string. -/
theorem escape_cons (c : Char) : ∃ d cs, escape c = d :: cs ∧ d ≠ '"' := by
  unfold escape
  cases hlookup : shortEscapes.lookup c with
  | some letter => exact ⟨_, _, rfl, by decide⟩
  | none =>
    have hne : c ≠ '"' := by
      intro h
      rw [h] at hlookup
      cases hlookup
    dsimp only
    split
    · exact ⟨_, _, rfl, hne⟩
    · split
      · exact ⟨_, _, rfl, by decide⟩
      · exact ⟨_, _, rfl, by decide⟩

/-- A string is read back. -/
theorem readString_escape (cs rest : List Char) {fuel : ℕ}
    (h : (cs.flatMap escape).length < fuel) :
    readString fuel (cs.flatMap escape ++ '"' :: rest) = some (cs, rest) := by
  induction cs generalizing fuel with
  | nil =>
    cases fuel with
    | zero => omega
    | succ fuel => rfl
  | cons c cs ih =>
    obtain ⟨d, ds, hescape, hd⟩ := escape_cons c
    cases fuel with
    | zero => omega
    | succ fuel =>
      have hlength : (cs.flatMap escape).length < fuel := by
        rw [List.flatMap_cons, hescape] at h
        simp only [List.cons_append, List.length_cons, List.length_append] at h
        omega
      have hread := unescape_escape c (cs.flatMap escape ++ '"' :: rest)
      rw [hescape, List.cons_append] at hread
      rw [List.flatMap_cons, hescape, List.append_assoc, List.cons_append, readString]
      · rw [hread]
        simp only [Option.bind_eq_bind, Option.bind_some, ih hlength]
      · intro rest' heq
        exact hd (List.cons.inj heq).1

/-- A text that ends a number. -/
def Ends (rest : List Char) : Prop := ∀ c ∈ rest.head?, c = ',' ∨ c = '\x7d'

theorem Ends.not_digit {rest : List Char} (h : Ends rest) :
    rest.takeWhile Char.isDigit = [] ∧ rest.dropWhile Char.isDigit = rest := by
  cases rest with
  | nil => exact ⟨rfl, rfl⟩
  | cons c cs => rcases h c rfl with rfl | rfl <;> exact ⟨rfl, rfl⟩

theorem Ends.not_fraction {rest : List Char} (h : Ends rest) :
    rest.head? ∉ [some '.', some 'e', some 'E'] := by
  intro hmem
  simp only [List.mem_cons, List.not_mem_nil, or_false] at hmem
  rcases hmem with hc | hc | hc <;> exact absurd (h _ hc) (by decide)

/-- Only zero begins with a zero. -/
theorem toDigits_head? {n : ℕ} (h : 0 < n) : (Nat.toDigits 10 n).head? ≠ some '0' := by
  induction n using Nat.strongRecOn with
  | ind n ih =>
    rw [Nat.toDigits_eq_if (by omega)]
    split
    · next hlt =>
      have hdigits : ∀ d < 10, 0 < d → [Nat.digitChar d].head? ≠ some '0' := by decide
      exact hdigits n hlt h
    · next hge =>
      have hrest := ih (n / 10) (by omega) (by omega)
      intro hhead
      rw [List.head?_append] at hhead
      cases hdigits : (Nat.toDigits 10 (n / 10)).head? with
      | none => exact Nat.toDigits_ne_nil (List.head?_eq_none_iff.mp hdigits)
      | some d =>
        rw [hdigits] at hhead hrest
        exact hrest hhead

/-- A number is read back. -/
theorem readNat_toDigits (n : ℕ) {rest : List Char} (h : Ends rest) :
    readNat (Nat.toDigits 10 n ++ rest) = some (n, rest) := by
  have hdigits : ∀ c ∈ Nat.toDigits 10 n, c.isDigit = true := fun c hc =>
    Nat.isDigit_of_mem_toDigits (by omega) (by omega) hc
  have htake : (Nat.toDigits 10 n ++ rest).takeWhile Char.isDigit = Nat.toDigits 10 n := by
    rw [List.takeWhile_append_of_pos hdigits, h.not_digit.1, List.append_nil]
  have hdrop : (Nat.toDigits 10 n ++ rest).dropWhile Char.isDigit = rest := by
    rw [List.dropWhile_append_of_pos hdigits, h.not_digit.2]
  have hwell : ¬ (Nat.toDigits 10 n = [] ∨
      ((Nat.toDigits 10 n).head? = some '0' ∧ Nat.toDigits 10 n ≠ ['0'])) := by
    rintro (hnil | ⟨hzero, hmore⟩)
    · exact Nat.toDigits_ne_nil hnil
    · rcases Nat.eq_zero_or_pos n with rfl | hpos
      · exact hmore (Nat.toDigits_zero 10)
      · exact toDigits_head? hpos hzero
  unfold readNat
  simp only [htake, hdrop, if_neg hwell, if_neg h.not_fraction, Nat.ofDigitChars_ten_toDigits]

/-! ### Values -/

theorem read_quote (fuel : ℕ) (rest : List Char) :
    read (fuel + 1) ('"' :: rest) =
      (readString fuel rest).map fun result => (.str (String.ofList result.1), result.2) := rfl

theorem read_minus (fuel : ℕ) (rest : List Char) :
    read (fuel + 1) ('-' :: rest) =
      (readNat rest).map fun result => (.int (-(result.1 : ℤ)), result.2) := rfl

/-- A text that begins with a digit is read as a number. -/
theorem read_digit {d : Char} (h : d.isDigit = true) (fuel : ℕ) (rest : List Char) :
    read (fuel + 1) (d :: rest) =
      (readNat (d :: rest)).map fun result => (.int result.1, result.2) := by
  have hskip : skip (d :: rest) = d :: rest := by
    have hspace : (d == ' ' || d == '\n' || d == '\r' || d == '\t') = false := by
      simp only [Bool.or_eq_false_iff, beq_eq_false_iff_ne]
      refine ⟨⟨⟨?_, ?_⟩, ?_⟩, ?_⟩ <;> (intro hd; rw [hd] at h; cases h)
    unfold skip
    rw [List.dropWhile_cons, hspace]
    rfl
  have hne : ∀ c : Char, c.isDigit = false → ∀ cs, d :: rest ≠ c :: cs := by
    intro c hc cs heq
    rw [(List.cons.inj heq).1, hc] at h
    cases h
  rw [read, hskip]
  split
  · next heq => exact absurd heq (hne _ rfl _)
  · next heq => exact absurd heq (hne _ rfl _)
  · next heq => exact absurd heq (hne _ rfl _)
  · next heq => exact absurd heq (hne _ rfl _)
  · next heq => exact absurd heq (hne _ rfl _)
  · next heq => exact absurd heq (hne _ rfl _)
  · rfl

/-- A number is read back. -/
theorem read_emitInt (n : ℤ) {rest : List Char} (h : Ends rest) (fuel : ℕ) :
    read (fuel + 1) (emitInt n ++ rest) = some (.int n, rest) := by
  cases n with
  | ofNat n =>
    have hread := readNat_toDigits n h
    rw [emitInt]
    cases hdigits : Nat.toDigits 10 n with
    | nil => exact absurd hdigits Nat.toDigits_ne_nil
    | cons d ds =>
      have hd : d.isDigit = true := Nat.isDigit_of_mem_toDigits (by omega) (by omega)
        (hdigits ▸ List.mem_cons_self)
      rw [hdigits, List.cons_append] at hread
      rw [List.cons_append, read_digit hd, hread]
      rfl
  | negSucc n =>
    have hread := readNat_toDigits (n + 1) h
    rw [emitInt, List.cons_append, read_minus, hread]
    rfl

theorem emit_ne_nil (v : Json) : emit v ≠ [] := by
  cases v with
  | null => simp [emit]
  | bool b => cases b <;> simp [emit]
  | int n =>
    cases n with
    | ofNat n => simp [emit, emitInt]
    | negSucc n => simp [emit, emitInt]
  | str text => simp [emit, quote]
  | obj fields => cases fields <;> simp [emit]

/-- The rest of an object ends the value before it. -/
theorem ends_emitMore (fields : List (String × Json)) (rest : List Char) :
    Ends (emitMore fields ++ rest) := by
  intro c hc
  cases fields with
  | nil =>
    cases hc
    exact Or.inr rfl
  | cons field fields =>
    cases hc
    exact Or.inl rfl

/-- White space before a value is skipped. -/
theorem read_space (fuel : ℕ) (input : List Char) :
    read fuel (' ' :: input) = read fuel input := by
  cases fuel with
  | zero => rfl
  | succ fuel => rfl

/-- White space before the members is skipped. -/
theorem readFields_space (fuel : ℕ) (input : List Char) :
    readFields fuel (' ' :: input) = readFields fuel input := by
  cases fuel with
  | zero => rfl
  | succ fuel => rfl

/-- The text of an object from its first member on. -/
def emitFields (name : String) (v : Json) (fields : List (String × Json)) : List Char :=
  quote name.toList ++ ':' :: ' ' :: (emit v ++ emitMore fields)

/-- A reader of members reads the first one, and then goes by what follows. -/
theorem readFields_member {fuel : ℕ} {name : String} {v : Json} {tail : List Char}
    (hname : (name.toList.flatMap escape).length < fuel)
    (hread : read fuel (emit v ++ tail) = some (v, tail)) :
    readFields (fuel + 1) (quote name.toList ++ ':' :: ' ' :: (emit v ++ tail)) =
      match skip tail with
      | '\x7d' :: rest => some ([(name, v)], rest)
      | ',' :: rest => (readFields fuel rest).map fun result => ((name, v) :: result.1, result.2)
      | _ => none := by
  have hstring := readString_escape name.toList (':' :: ' ' :: (emit v ++ tail)) hname
  have hquote : quote name.toList ++ ':' :: ' ' :: (emit v ++ tail) =
      '"' :: (name.toList.flatMap escape ++ '"' :: ':' :: ' ' :: (emit v ++ tail)) := by
    rw [quote, List.cons_append, List.append_assoc, List.cons_append, List.nil_append]
  have hspace : read fuel (' ' :: (emit v ++ tail)) = some (v, tail) := (read_space _ _).trans hread
  have hcolon : skip (':' :: ' ' :: (emit v ++ tail)) = ':' :: ' ' :: (emit v ++ tail) := rfl
  have hstart : ∀ rest, skip ('"' :: rest) = '"' :: rest := fun _ => rfl
  rw [hquote, readFields]
  simp only [hstart, hstring, hcolon, hspace, Option.bind_eq_bind, Option.bind_some,
    String.ofList_toList]
  split
  · rfl
  · exact Option.map_eq_bind.symm
  · rfl

/-- Both readers at once, by the fuel. -/
theorem read_emit_aux (fuel : ℕ) :
    (∀ v rest, (emit v).length ≤ fuel → Ends rest →
      read fuel (emit v ++ rest) = some (v, rest)) ∧
    ∀ name v fields rest, (emitFields name v fields).length ≤ fuel →
      readFields fuel (emitFields name v fields ++ rest) = some ((name, v) :: fields, rest) := by
  induction fuel with
  | zero =>
    constructor
    · intro v rest hlength
      exact absurd (List.eq_nil_of_length_eq_zero (Nat.le_zero.mp hlength)) (emit_ne_nil v)
    · intro name v fields rest hlength
      exact absurd hlength (by simp [emitFields, quote])
  | succ fuel ih =>
    obtain ⟨ihValue, ihFields⟩ := ih
    constructor
    · intro v rest hlength hends
      cases v with
      | null => rfl
      | bool b => cases b <;> rfl
      | int n => exact read_emitInt n hends fuel
      | str text =>
        have hfuel : (text.toList.flatMap escape).length < fuel := by
          simp only [emit, quote, List.length_cons, List.length_append, List.length_nil] at hlength
          omega
        rw [emit, quote, List.cons_append, List.append_assoc, List.cons_append, List.nil_append,
          read_quote, readString_escape _ _ hfuel, Option.map_some, String.ofList_toList]
      | obj fields =>
        cases fields with
        | nil => rfl
        | cons field fields =>
          obtain ⟨name, v⟩ := field
          have hfuel : (emitFields name v fields).length ≤ fuel := by
            rw [emit, List.length_cons] at hlength
            exact Nat.le_of_succ_le_succ hlength
          have hfields := ihFields name v fields rest hfuel
          have hopen : read (fuel + 1) ('\x7b' :: (emitFields name v fields ++ rest)) =
              (readFields fuel (emitFields name v fields ++ rest)).map
                fun result => (.obj result.1, result.2) := rfl
          exact hopen.trans (by rw [hfields, Option.map_some])
    · intro name v fields rest hlength
      simp only [emitFields, quote, List.length_cons, List.length_append, List.length_nil]
        at hlength
      have hread := ihValue v (emitMore fields ++ rest) (by omega) (ends_emitMore fields rest)
      rw [emitFields, List.append_assoc, List.cons_append, List.cons_append, List.append_assoc,
        readFields_member (by omega) hread]
      cases fields with
      | nil => rfl
      | cons field fields =>
        obtain ⟨name', v'⟩ := field
        have hmore : (emitFields name' v' fields).length ≤ fuel := by
          simp only [emitMore, quote, List.length_cons, List.length_append, List.length_nil]
            at hlength
          simp only [emitFields, quote, List.length_cons, List.length_append, List.length_nil]
          omega
        have hfields := ihFields name' v' fields rest hmore
        change (readFields fuel (' ' :: (emitFields name' v' fields ++ rest))).map _ = _
        rw [readFields_space, hfields, Option.map_some]

/-- **The round trip.** -/
@[simp] theorem loads_dumps (v : Json) : loads (dumps v) = some v := by
  have hread := (read_emit_aux (emit v).length).1 v [] (Nat.le_refl _) (by intro c hc; cases hc)
  rw [List.append_nil] at hread
  unfold loads dumps
  rw [String.toList_ofList, hread]
  rfl

example : dumps (.obj [("id", .int 7), ("name", .str "Zoë \"𝄞\""), ("group", .null)]) =
    "\x7b\"id\": 7, \"name\": \"Zo\\u00eb \\\"\\ud834\\udd1e\\\"\", \"group\": null\x7d" := by
  decide +kernel

/-! ### Members of objects -/

/-- How the values of a type are kept: a dump that is never null, and reads back. -/
structure Coder (α : Type) where
  dump : α → Json
  load : Json → Option α
  load_dump : ∀ a, load (dump a) = some a
  dump_ne_null : ∀ a, dump a ≠ .null

namespace Coder

variable {α : Type}

attribute [simp] load_dump

/-- A number that is not negative. -/
def nat : Coder ℕ where
  dump n := .int n
  load
    | .int n => if 0 ≤ n then some n.toNat else none
    | _ => none
  load_dump n := by simp
  dump_ne_null n := by intro h; cases h

/-- A number. -/
def int : Coder ℤ where
  dump n := .int n
  load
    | .int n => some n
    | _ => none
  load_dump _ := rfl
  dump_ne_null n := by intro h; cases h

/-- A truth value. -/
def bool : Coder Bool where
  dump b := .bool b
  load
    | .bool b => some b
    | _ => none
  load_dump _ := rfl
  dump_ne_null b := by intro h; cases h

/-- A value as a text. -/
def named (name : α → String) (ofName : String → Option α)
    (h : ∀ a, ofName (name a) = some a) : Coder α where
  dump a := .str (name a)
  load
    | .str text => ofName text
    | _ => none
  load_dump a := h a
  dump_ne_null a := by intro h; cases h

/-- A text. -/
def text : Coder String := named id some fun _ => rfl

/-- A value as the text of a codec. -/
def coded (c : Codec α) : Coder α := named c.encode c.decode c.decode_encode

/-- A value that may be null. -/
def dumpOption (f : Coder α) : Option α → Json
  | none => .null
  | some a => f.dump a

/-- The same read back. -/
def loadOption (f : Coder α) : Json → Option (Option α)
  | .null => some none
  | j => (f.load j).map some

@[simp] theorem loadOption_dumpOption (f : Coder α) (o : Option α) :
    f.loadOption (f.dumpOption o) = some o := by
  cases o with
  | none => rfl
  | some a =>
    have hload := f.load_dump a
    have hne := f.dump_ne_null a
    change f.loadOption (f.dump a) = _
    generalize f.dump a = j at hload hne
    cases j with
    | null => exact absurd rfl hne
    | _ => exact congrArg (Option.map some) hload

/-- A member that has to be there. -/
def member (f : Coder α) (name : String) (j : Json) : Option α := (j.get? name).bind f.load

/-- A member that has to be there, and may be null. -/
def memberOption (f : Coder α) (name : String) (j : Json) : Option (Option α) :=
  (j.get? name).bind f.loadOption

/-- A member that may be missing, which is as good as null. -/
def memberDefault (f : Coder α) (name : String) (j : Json) : Option (Option α) :=
  match j.get? name with
  | none => some none
  | some j => f.loadOption j

end Coder

end Json
