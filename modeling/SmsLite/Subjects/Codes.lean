import Mathlib
import SmsLite.Columns.Requests
import SmsLite.Lib.Trim
import SmsLite.Subjects.Submissions

/-!
# Subject codes

The schemas bring a code into its normal form, without surrounding white space and in upper case,
and the table has a unique index on what is stored.  Both together keep codes apart that differ in
case and white space only.  The bounds of the length are checked before the code is normalised.

## Main definitions

* `Unicode.Lawful` — what the tables of Unicode guarantee.
* `SameCode` — equal up to case and surrounding white space.
* `SubjectStore.Sound` — the invariant of the table.
* `SubjectRequest.Takes` — a request for a code that another subject has.
* `Unicode.width` — the length of a text in upper case, between its white space.

## Main results

* `normalizeSubjectCode_idem` — a normal form is its own.
* `SubjectStore.Sound.runSent` — the invariant holds in every state.
* `subjectCodes_iff` — **codes are in normal form and differ in more than case and white space, and
  a code that is taken is refused exactly if the request sends no NUL and there is an id left**.
* `subjectCode_resubmittable` — **what is stored is accepted as it is exactly if it has the right
  length in upper case and without the white space around it**.
-/

namespace SmsLite

open Interleave

/-! ### The normal form -/

/-- What the tables of Unicode guarantee: the upper case of a character is not empty and in upper
case already, and it is white space exactly if the character is. -/
structure Unicode.Lawful (u : Unicode) : Prop where
  upper_ne_nil : ∀ c, u.upper c ≠ []
  upper_upper : ∀ c, ∀ d ∈ u.upper c, u.upper d = [d]
  isSpace_upper : ∀ c, ∀ d ∈ u.upper c, u.isSpace d = u.isSpace c

/-- Equal up to case and surrounding white space. -/
def SameCode (u : Unicode) (a b : String) : Prop :=
  u.upperText (u.strip a) = u.upperText (u.strip b)

/-- How many characters the upper case of a text has between the white space around it. -/
def Unicode.width (u : Unicode) (text : String) : ℕ :=
  ((Trim.trim u.isSpace text.toList).map fun c => (u.upper c).length).sum

section Unicode

variable {u : Unicode}

theorem Unicode.Lawful.rewriting (h : u.Lawful) : Trim.Rewriting u.isSpace u.upper where
  ne_nil := h.upper_ne_nil
  kept := h.upper_upper
  congr := h.isSpace_upper

theorem normalizeSubjectCode_toList (u : Unicode) (value : String) :
    (normalizeSubjectCode u value).toList = Trim.normal u.isSpace u.upper value.toList := by
  unfold normalizeSubjectCode Unicode.upperText Unicode.strip Trim.normal Trim.trim List.rdropWhile
  simp only [String.toList_ofList]

/-- A normal form is its own. -/
theorem normalizeSubjectCode_idem (h : u.Lawful) (value : String) :
    normalizeSubjectCode u (normalizeSubjectCode u value) = normalizeSubjectCode u value := by
  apply String.toList_injective
  simp only [normalizeSubjectCode_toList]
  exact h.rewriting.normal_normal value.toList

theorem length_normalizeSubjectCode (u : Unicode) (value : String) :
    (normalizeSubjectCode u value).length = u.width value := by
  rw [← String.length_toList, normalizeSubjectCode_toList, Trim.length_normal]
  rfl

end Unicode

/-! ### Accepted codes -/

/-- The field `code` of both schemas. -/
def checkCode (V : Validation) : FieldCheck String String := fun code =>
  normalizeSubjectCode V.unicode <$> lengthBetween 3 20 code

/-- The code that is sent. -/
def SubjectSubmission.code? : SubjectSubmission → Option String
  | createSubject body => some body.code
  | updateSubject _ body => body.code.value?
  | _ => none

/-- The code that a request sets. -/
def SubjectRequest.code? : SubjectRequest → Option String
  | createSubject r => some r.code
  | updateSubject _ r => r.code.value?
  | _ => none

section Accepted

variable {V : Validation}

theorem checkCode_ok_iff {text code : String} :
    checkCode V text = .ok code ↔
      code = normalizeSubjectCode V.unicode text ∧ 3 ≤ text.length ∧ text.length ≤ 20 := by
  unfold checkCode
  constructor
  · intro h
    cases hlength : lengthBetween 3 20 text with
    | error e =>
      rw [hlength] at h
      cases h
    | ok text' =>
      obtain ⟨rfl, hbounds⟩ := lengthBetween_ok hlength
      rw [hlength] at h
      exact ⟨(Except.ok.inj h).symm, hbounds⟩
  · rintro ⟨rfl, hmin, hmax⟩
    rw [lengthBetween_of_le hmin hmax]
    rfl

/-- What is sent is set, and nothing else. -/
theorem Patch.value?_of_check {α β : Type} {check : FieldCheck α β} {p : Patch α} {q : Patch β}
    (h : p.check check = .ok q) :
    (p.value? = none ∧ q.value? = none) ∨
      ∃ a b, p.value? = some a ∧ q.value? = some b ∧ check a = .ok b := by
  cases p with
  | unset | null =>
    cases h
    exact Or.inl ⟨rfl, rfl⟩
  | set a =>
    cases hcheck : check a with
    | error e =>
      rw [Patch.check, hcheck] at h
      cases h
    | ok b =>
      rw [Patch.check, hcheck] at h
      cases h
      exact Or.inr ⟨a, b, rfl, rfl, hcheck⟩

/-- A request sets what the schema makes of the code that is sent. -/
theorem SubjectSubmission.accepted_code {submission : SubjectSubmission} {r : SubjectRequest}
    (h : submission.request? V = some r) :
    (submission.code? = none ∧ r.code? = none) ∨
      ∃ text code, submission.code? = some text ∧ r.code? = some code ∧
        checkCode V text = .ok code := by
  cases submission with
  | createSubject body =>
    unfold SubjectSubmission.request? at h
    dsimp only at h
    split at h
    · next payload hvalid =>
      cases h
      simp only [CreateSubjectAdmin.Body.validate, Validated.seq_eq_ok, Validated.map_eq_ok,
        Validated.field_eq_ok] at hvalid
      obtain ⟨_, description, ⟨_, code, ⟨name, -, rfl⟩, hcode, rfl⟩, -, rfl⟩ := hvalid
      exact Or.inr ⟨body.code, code, rfl, rfl, hcode⟩
    · cases h
  | updateSubject id body =>
    unfold SubjectSubmission.request? at h
    dsimp only at h
    split at h
    · next payload hvalid =>
      cases h
      simp only [UpdateSubjectAdmin.Body.validate, Validated.seq_eq_ok, Validated.map_eq_ok,
        Validated.field_eq_ok] at hvalid
      obtain ⟨_, description, ⟨_, code, ⟨name, -, rfl⟩, hcode, rfl⟩, -, rfl⟩ := hvalid
      exact Patch.value?_of_check hcode
    · cases h
  | _ =>
    cases h
    exact Or.inl ⟨rfl, rfl⟩

end Accepted

/-- An update without a NUL fits, if its code is not too long. -/
theorem UpdateSubjectAdmin.fits_of_texts {r : UpdateSubjectAdmin} (hname : r.name ≠ .null)
    (hcode : r.code ≠ .null) (hlength : ∀ text, r.code = .set text → text.length ≤ 20)
    (hnul : ∀ text ∈ r.texts, nul ∉ text.toList) : r.Fits := by
  constructor
  · cases hsent : r.name with
    | unset => trivial
    | null => exact absurd hsent hname
    | set text => exact hnul text (by simp [texts, hsent, Patch.value?])
  · cases hsent : r.code with
    | unset => trivial
    | null => exact absurd hsent hcode
    | set text =>
      exact ⟨hlength text hsent, hnul text (by simp [texts, hsent, Patch.value?])⟩
  · cases hsent : r.description with
    | unset => trivial
    | null => trivial
    | set text => exact hnul text (by simp [texts, hsent, Patch.value?])

/-! ### The invariant -/

/-- Distinct ids below the sequence, rows that fit, and distinct codes, all of them with `P`. -/
structure SubjectStore.Sound (P : String → Prop) (s : SubjectStore) : Prop where
  ids : (Keyed.keys s.rows).Nodup
  fresh : ∀ g ∈ s.rows, g.id < s.idSeq
  fitsId : ∀ g ∈ s.rows, FitsId g.id
  fits : ∀ g ∈ s.rows, g.draft.Fits
  codes : (s.rows.map (·.code)).Nodup
  code : ∀ g ∈ s.rows, P g.code

namespace SubjectStore.Sound

variable {P : String → Prop} {s : SubjectStore}

theorem of_empty (h : s.rows = []) : s.Sound P := by
  constructor <;> simp [h, Keyed.keys]

/-- A row with a new code. -/
theorem insert (hs : s.Sound P) {r : CreateSubjectAdmin} (hcode : P r.code)
    (hlength : r.code.length ≤ 20) (hfree : s.taken s.idSeq r.code = false)
    (hnul : ∀ text ∈ r.texts, nul ∉ text.toList) (hid : FitsId s.idSeq) :
    SubjectStore.Sound P
      { s with rows := s.rows ++ [r.row s.idSeq s.clock], idSeq := s.idSeq + 1 } := by
  have hother : ∀ g ∈ s.rows, g.code ≠ r.code := by
    intro g hg hsame
    have htaken : s.taken s.idSeq r.code = true := by
      have hne : g.id ≠ s.idSeq := Nat.ne_of_lt (hs.fresh g hg)
      refine List.any_eq_true.mpr ⟨g, hg, ?_⟩
      simp [hne, hsame]
    rw [hfree] at htaken
    cases htaken
  have hrow : (r.row s.idSeq s.clock).draft.Fits := by
    refine (r.row_fits _ _).mpr ⟨hnul _ List.mem_cons_self, ⟨hlength, ?_⟩, fun text htext => ?_⟩
    · exact hnul _ (List.mem_cons_of_mem _ List.mem_cons_self)
    · apply hnul
      simp [CreateSubjectAdmin.texts, htext]
  have hmem : ∀ g ∈ s.rows ++ [r.row s.idSeq s.clock],
      g ∈ s.rows ∨ g = r.row s.idSeq s.clock := by
    intro g hg
    simpa using hg
  refine ⟨?_, fun g hg => ?_, fun g hg => ?_, fun g hg => ?_, ?_, fun g hg => ?_⟩
  · rw [Keyed.keys_concat]
    refine List.nodup_append.mpr ⟨hs.ids, List.nodup_singleton _, fun id hid id' hid' => ?_⟩
    obtain ⟨g, hg, rfl⟩ := List.mem_map.mp hid
    obtain rfl := List.mem_singleton.mp hid'
    exact Nat.ne_of_lt (hs.fresh g hg)
  · rcases hmem g hg with hg | rfl
    · exact Nat.lt_succ_of_lt (hs.fresh g hg)
    · exact Nat.lt_succ_self _
  · rcases hmem g hg with hg | rfl
    · exact hs.fitsId g hg
    · exact hid
  · rcases hmem g hg with hg | rfl
    · exact hs.fits g hg
    · exact hrow
  · rw [List.map_append]
    refine List.nodup_append.mpr
      ⟨hs.codes, List.nodup_singleton _, fun code hcode code' hcode' => ?_⟩
    obtain ⟨g, hg, rfl⟩ := List.mem_map.mp hcode
    obtain rfl := List.mem_singleton.mp hcode'
    exact hother g hg
  · rcases hmem g hg with hg | rfl
    · exact hs.code g hg
    · exact hcode

/-- A rewritten row that keeps its code or takes a new one. -/
theorem modify (hs : s.Sound P) {id : ℕ} {g : Subject} (hget : Keyed.get? s.rows id = some g)
    {write : Subject → Subject} (hid : ∀ stored, (write stored).id = stored.id)
    (hfits : (write g).draft.Fits) (hcode : P (write g).code)
    (hunique : (write g).code = g.code ∨
      ∀ v ∈ s.rows, v.id ≠ id → v.code ≠ (write g).code)
    (cache : SubjectCacheKey → Option SubjectCacheValue) :
    SubjectStore.Sound P { s with rows := Keyed.modify s.rows id write, cache := cache } := by
  have hself : ∀ v ∈ s.rows, Keyed.key v = id → v = g := by
    intro v hv hvid
    have hgetv := Keyed.get?_of_mem hs.ids hv
    rw [hvid, hget] at hgetv
    exact (Option.some.inj hgetv).symm
  have hg : g ∈ s.rows := Keyed.mem_of_get? hget
  have hmem : ∀ v ∈ Keyed.modify s.rows id write, v = write g ∨ v ∈ s.rows := by
    intro v hv
    rcases Keyed.mem_modify.mp hv with ⟨v₀, hv₀, hvid, rfl⟩ | ⟨hv, -⟩
    · exact Or.inl (congrArg write (hself v₀ hv₀ hvid))
    · exact Or.inr hv
  refine ⟨?_, fun v hv => ?_, fun v hv => ?_, fun v hv => ?_, ?_, fun v hv => ?_⟩
  · change (Keyed.keys (Keyed.modify s.rows id write)).Nodup
    rw [Keyed.keys_modify _ _ hid]
    exact hs.ids
  · rcases hmem v hv with rfl | hv
    · rw [hid]
      exact hs.fresh g hg
    · exact hs.fresh v hv
  · rcases hmem v hv with rfl | hv
    · rw [hid]
      exact hs.fitsId g hg
    · exact hs.fitsId v hv
  · rcases hmem v hv with rfl | hv
    · exact hfits
    · exact hs.fits v hv
  · refine Keyed.nodup_modify (·.code) hs.ids hs.codes fun v hv hvid => ?_
    obtain rfl := hself v hv hvid
    exact hunique
  · rcases hmem v hv with rfl | hv
    · exact hcode
    · exact hs.code v hv

/-- Archiving and restoring leave the code alone. -/
theorem archiving (hs : s.Sound P) {id : ℕ} {g : Subject} (hget : Keyed.get? s.rows id = some g)
    {isArchived : Bool} {archivedAt : Option Time} {write : Subject → Subject}
    (hwrite : s.flush g { g.draft with isArchived := isArchived, archivedAt := archivedAt } =
      .ok write) (cache : SubjectCacheKey → Option SubjectCacheValue) :
    SubjectStore.Sound P { s with rows := Keyed.modify s.rows id write, cache := cache } := by
  obtain ⟨hid, name, code, hname, hcode, -, hg⟩ := SubjectStore.flush_ok hwrite
  obtain rfl := Option.some.inj hname
  obtain rfl := Option.some.inj hcode
  have hstored := Keyed.mem_of_get? hget
  have hfits := hs.fits g hstored
  refine hs.modify hget hid ?_ ?_ (Or.inl ?_) cache
  · rw [hg]
    exact ⟨hfits.name, hfits.code, hfits.description⟩
  · rw [hg]
    exact hs.code g hstored
  · rw [hg]

/-- No other row has a code that is not taken. -/
theorem ne_of_not_taken {id : ℕ} {code : String} (h : s.taken id code = false) :
    ∀ v ∈ s.rows, v.id ≠ id → v.code ≠ code := by
  intro v hv hvid hsame
  have htaken : s.taken id code = true := by
    refine List.any_eq_true.mpr ⟨v, hv, ?_⟩
    simp [hvid, hsame]
  rw [h] at htaken
  cases htaken

/-- A row as an update leaves it. -/
theorem updating (hs : s.Sound P) {id : ℕ} {g : Subject} (hget : Keyed.get? s.rows id = some g)
    {r : UpdateSubjectAdmin} (hcode : ∀ code, r.code.value? = some code → P code)
    (hnul : ∀ text ∈ r.texts, nul ∉ text.toList) {write : Subject → Subject}
    (hwrite : s.flush g (r.assign g.draft) = .ok write)
    (cache : SubjectCacheKey → Option SubjectCacheValue) :
    SubjectStore.Sound P { s with rows := Keyed.modify s.rows id write, cache := cache } := by
  obtain ⟨hid, name, code, hnameOf, hcodeOf, hnew, hg⟩ := SubjectStore.flush_ok hwrite
  have hstored := Keyed.mem_of_get? hget
  have hgid : g.id = id := Keyed.key_of_get? hget
  have hfits := hs.fits g hstored
  have hlength : code.length ≤ 20 := by
    by_cases hsame : code = g.code
    · rw [hsame]
      exact (notNull_some.mp hfits.code).length_le
    · exact (hnew hsame).2
  have hsent : r.Fits := by
    refine UpdateSubjectAdmin.fits_of_texts (fun hnull => ?_) (fun hnull => ?_)
      (fun text htext => ?_) hnul
    · simp only [UpdateSubjectAdmin.assign, hnull, Patch.assign, reduceCtorEq] at hnameOf
    · simp only [UpdateSubjectAdmin.assign, hnull, Patch.assign, reduceCtorEq] at hcodeOf
    · simp only [UpdateSubjectAdmin.assign, htext, Patch.assign, Option.some.injEq] at hcodeOf
      rw [hcodeOf]
      exact hlength
  have hassigned : (r.assign g.draft).Fits := (r.assign_fits hfits).mpr hsent
  refine hs.modify hget hid ?_ ?_ ?_ cache
  · have hname : NotNull (FitsText 100) (some name) := hnameOf ▸ hassigned.name
    have hcode : NotNull (FitsText 20) (some code) := hcodeOf ▸ hassigned.code
    rw [hg]
    exact ⟨hname, hcode, hassigned.description⟩
  · rw [hg]
    cases hcodeSent : r.code with
    | unset =>
      simp only [UpdateSubjectAdmin.assign, hcodeSent, Patch.assign, Subject.draft,
        Option.some.injEq] at hcodeOf
      exact hcodeOf ▸ hs.code g hstored
    | null =>
      simp only [UpdateSubjectAdmin.assign, hcodeSent, Patch.assign, reduceCtorEq] at hcodeOf
    | set text =>
      simp only [UpdateSubjectAdmin.assign, hcodeSent, Patch.assign, Option.some.injEq] at hcodeOf
      exact hcode code (by rw [hcodeSent, Patch.value?, hcodeOf])
  · rw [hg]
    by_cases hsame : code = g.code
    · exact Or.inl hsame
    · exact Or.inr (hgid ▸ ne_of_not_taken (hnew hsame).1)

/-- **Every operation keeps the invariant.** -/
theorem serve (hs : s.Sound P) {r : SubjectRequest} (hcode : ∀ code, r.code? = some code → P code)
    (hrefusal : r.refusal? s = none) : (s.serve r).2.Sound P := by
  have hserves := s.serves r
  generalize s.serve r = served at hserves
  cases hserves with
  | created r g hlength hfree hget =>
    rw [SubjectRequest.refusal?, insert_refusal_iff] at hrefusal
    exact hs.insert (hcode r.code rfl) hlength hfree hrefusal.1 hrefusal.2
  | notCreated r e he =>
    exact { hs with fresh := fun g hg => Nat.lt_succ_of_lt (hs.fresh g hg) }
  | updated id r g write hget hne hwrite =>
    rw [SubjectRequest.refusal?, hget, Option.or_eq_none_iff, Option.bind_some,
      commit_refusal_iff s (hs.fits g (Keyed.mem_of_get? hget))] at hrefusal
    exact hs.updating hget hcode hrefusal.2 hwrite _
  | archived id g write hget hopen hnone hwrite => exact hs.archiving hget hwrite _
  | restored id g write hget harchived hsome hwrite => exact hs.archiving hget hwrite _
  | missAdmin id g hcold hget => exact { hs with }
  | missStaff id g hcold hget => exact { hs with }
  | _ => exact hs

/-- **The invariant holds in every state**, if what the schemas make of the codes has `P`. -/
theorem runSent {V : Validation} (hs : s.Sound P) (events : List SubjectEvent)
    (hevents : ∀ submission, .sent submission ∈ events → ∀ text,
      submission.code? = some text → ∀ code, checkCode V text = .ok code → P code) :
    (s.runSent V events).Sound P := by
  refine SubjectStore.invariant_runSent V (I := SubjectStore.Sound P) ?_ ?_ ?_ hs events hevents
  · intro s submission r hsubmission hs hrequest hrefusal
    refine hs.serve (fun code hcode => ?_) hrefusal
    rcases SubjectSubmission.accepted_code hrequest with
      ⟨-, hnone⟩ | ⟨text, code', htext, hset, hcheck⟩
    · cases hnone.symm.trans hcode
    · obtain rfl : code' = code := Option.some.inj (hset.symm.trans hcode)
      exact hsubmission text htext code' hcheck
  · exact fun s clock hs => { hs with }
  · exact fun s cache hs => { hs with }

end SubjectStore.Sound

/-! ### Codes that are taken -/

/-- A new subject, or an update of another one that leaves the name set, with a code that a subject
has. -/
def SubjectRequest.Takes (s : SubjectStore) : SubjectRequest → Prop
  | .createSubject r => ∃ v ∈ s.rows, v.code = r.code
  | .updateSubject subjectId r =>
    subjectId ∈ Keyed.keys s.rows ∧ r.name ≠ .null ∧
      ∃ v ∈ s.rows, v.id ≠ subjectId ∧ r.code = .set v.code
  | _ => False

/-- `SubjectCodeAlreadyExistsError`, and nothing has changed. -/
structure SubjectStore.Declines (s : SubjectStore) (r : SubjectRequest) : Prop where
  raised : (s.submit r).1 = .error (.app .subjectCodeAlreadyExistsError HTTP409.subjectCode)
  rows : (s.submit r).2.rows = s.rows
  cache : (s.submit r).2.cache = s.cache

/-- The request sends no NUL, and there is an id for a new subject. -/
def SubjectRequest.Sendable (s : SubjectStore) : SubjectRequest → Prop
  | .createSubject r => (∀ text ∈ r.texts, nul ∉ text.toList) ∧ FitsId s.idSeq
  | r => ∀ text ∈ r.texts, nul ∉ text.toList

section Taken

variable {P : String → Prop} {s : SubjectStore} {r : SubjectRequest}

/-- Every refusal is an error that no service catches. -/
theorem SubjectStmt.refusal?_eq_some {stmt : SubjectStmt} {e : Exn}
    (h : stmt.refusal? s = some e) : ∃ orig, e = .dbapiError orig := by
  cases stmt <;> unfold SubjectStmt.refusal? at h <;> dsimp only at h <;>
    repeat' split at h
  all_goals cases h
  all_goals exact ⟨_, rfl⟩

/-- A refused statement is not taken for a code that exists. -/
theorem SubjectStore.not_declines_of_refusal {stmt : SubjectStmt} {e : Exn}
    (h : stmt.refusal? s = some e) (hr : (s.submit r).1 = .error e) : ¬ s.Declines r := by
  intro hdeclines
  obtain ⟨orig, rfl⟩ := SubjectStmt.refusal?_eq_some h
  cases hr.symm.trans hdeclines.raised

/-- The driver's message for two codes is mapped. -/
theorem subjectExn_duplicate (code : String) :
    DbError.subjectExn (.integrity (duplicateSubject code)) =
      .app .subjectCodeAlreadyExistsError HTTP409.subjectCode :=
  if_pos (pyIn_duplicateKey _ _ _)

theorem createSubject_declines (hs : s.Sound P) {q : CreateSubjectAdmin}
    (htakes : (SubjectRequest.createSubject q).Takes s) :
    s.Declines (.createSubject q) ↔ (SubjectRequest.createSubject q).Sendable s := by
  obtain ⟨v, hv, hcode⟩ := htakes
  have hlength : ¬ 20 < q.code.length := by
    rw [← hcode]
    exact not_lt.mpr (notNull_some.mp (hs.fits v hv).code).length_le
  have htaken : s.taken s.idSeq q.code = true := by
    have hne : v.id ≠ s.idSeq := Nat.ne_of_lt (hs.fresh v hv)
    refine List.any_eq_true.mpr ⟨v, hv, ?_⟩
    simp [hne, hcode]
  have hiff : (SubjectStmt.insert q).refusal? s = none ↔
      (SubjectRequest.createSubject q).Sendable s := insert_refusal_iff s q
  have hsubmit := s.submit_eq (.createSubject q)
  rw [SubjectRequest.refusal?] at hsubmit
  rw [← hiff]
  cases hrefusal : (SubjectStmt.insert q).refusal? s with
  | some e =>
    rw [hrefusal, Option.elim_some] at hsubmit
    refine iff_of_false (SubjectStore.not_declines_of_refusal hrefusal ?_) (by intro h; cases h)
    rw [hsubmit]
  | none =>
    rw [hrefusal, Option.elim_none] at hsubmit
    refine iff_of_true ?_ rfl
    have hserves := s.serves (.createSubject q)
    rw [← hsubmit] at hserves
    generalize hended : s.submit (.createSubject q) = ended at hserves
    cases hserves with
    | created _ g _ hfree _ =>
      rw [htaken] at hfree
      cases hfree
    | missing _ id hr _ => cases hr
    | notCreated _ e he =>
      rcases he with ⟨-, hlong⟩ | ⟨rfl, -⟩
      · exact absurd hlong hlength
      · constructor <;> rw [hended]
        exact congrArg Except.error (subjectExn_duplicate q.code)

/-- Two rows of one code are one row. -/
theorem SubjectStore.Sound.eq_of_code (hs : s.Sound P) {v g : Subject} (hv : v ∈ s.rows)
    (hg : g ∈ s.rows) (hcode : v.code = g.code) : v = g :=
  List.inj_on_of_nodup_map hs.codes hv hg hcode

theorem updateSubject_declines (hs : s.Sound P) {id : ℕ} {q : UpdateSubjectAdmin}
    (htakes : (SubjectRequest.updateSubject id q).Takes s) :
    s.Declines (.updateSubject id q) ↔ (SubjectRequest.updateSubject id q).Sendable s := by
  obtain ⟨hmem, hname, v, hv, hvid, hcode⟩ := htakes
  obtain ⟨g, hget⟩ := Option.isSome_iff_exists.mp ((Keyed.get?_isSome_iff _ _).mpr hmem)
  have hstored := Keyed.mem_of_get? hget
  have hgid : g.id = id := Keyed.key_of_get? hget
  have hne : v.code ≠ g.code := by
    intro hsame
    obtain rfl := hs.eq_of_code hv hstored hsame
    exact hvid hgid
  have hassigned : (q.assign g.draft).code = some v.code := by
    simp only [UpdateSubjectAdmin.assign, hcode, Patch.assign]
  have hiff : (SubjectStmt.commit g (q.assign g.draft)).refusal? s = none ↔
      (SubjectRequest.updateSubject id q).Sendable s := commit_refusal_iff s (hs.fits g hstored) q
  have hid : (SubjectStmt.getSubjectById id).refusal? s = none :=
    (SubjectStmt.refusal?_id (hgid ▸ hs.fitsId g hstored)).1
  have hsubmit := s.submit_eq (.updateSubject id q)
  rw [SubjectRequest.refusal?, hid, Option.none_or, hget, Option.bind_some] at hsubmit
  rw [← hiff]
  cases hrefusal : (SubjectStmt.commit g (q.assign g.draft)).refusal? s with
  | some e =>
    rw [hrefusal, Option.elim_some] at hsubmit
    refine iff_of_false (SubjectStore.not_declines_of_refusal hrefusal ?_) (by intro h; cases h)
    rw [hsubmit]
  | none =>
    rw [hrefusal, Option.elim_none] at hsubmit
    refine iff_of_true ?_ rfl
    have hnul := hiff.mp hrefusal
    have hserves := s.serves (.updateSubject id q)
    rw [← hsubmit] at hserves
    generalize hended : s.submit (.updateSubject id q) = ended at hserves
    cases hserves with
    | missing _ id' hr hmissing =>
      cases hr
      cases hget.symm.trans hmissing
    | unchanged _ _ g' hget' hsame =>
      obtain rfl := Keyed.get?_inj hget hget'
      rw [hsame] at hassigned
      exact absurd (Option.some.inj hassigned).symm hne
    | updated _ _ g' write hget' _ hwrite =>
      obtain rfl := Keyed.get?_inj hget hget'
      obtain ⟨-, _, code, -, hcodeOf, hnew, -⟩ := SubjectStore.flush_ok hwrite
      obtain rfl : v.code = code := Option.some.inj (hassigned.symm.trans hcodeOf)
      have hfree := (hnew hne).1
      exact absurd rfl (SubjectStore.Sound.ne_of_not_taken hfree v hv (hgid ▸ hvid))
    | notUpdated _ _ g' e hget' he =>
      obtain rfl := Keyed.get?_inj hget hget'
      have hsent : q.Fits := by
        refine UpdateSubjectAdmin.fits_of_texts hname (fun hnull => ?_) (fun text htext => ?_) hnul
        · cases hcode.symm.trans hnull
        · obtain rfl : v.code = text := Patch.set.inj (hcode.symm.trans htext)
          exact (notNull_some.mp (hs.fits v hv).code).length_le
      obtain ⟨code, rfl⟩ :=
        SubjectStore.flush_refused ((q.assign_fits (hs.fits g hstored)).mpr hsent) he
      constructor <;> rw [hended]
      exact congrArg Except.error (subjectExn_duplicate code)

/-- **A code that is taken is refused exactly if the request can be sent.** -/
theorem SubjectStore.Sound.declines_iff (hs : s.Sound P) (htakes : r.Takes s) :
    s.Declines r ↔ r.Sendable s := by
  cases r with
  | createSubject q => exact createSubject_declines hs htakes
  | updateSubject id q => exact updateSubject_declines hs htakes
  | _ => exact absurd htakes not_false

/-- Codes in normal form that differ, differ in more than case and white space. -/
theorem SubjectStore.Sound.distinct {u : Unicode}
    (hs : s.Sound fun code => normalizeSubjectCode u code = code) :
    s.rows.Pairwise fun a b => ¬ SameCode u a.code b.code := by
  have hcodes : s.rows.Pairwise fun a b => a.code ≠ b.code := List.pairwise_map.mp hs.codes
  refine hcodes.imp_of_mem fun ha hb hne hsame => hne ?_
  calc
    _ = normalizeSubjectCode u _ := (hs.code _ ha).symm
    _ = normalizeSubjectCode u _ := hsame
    _ = _ := hs.code _ hb

end Taken

/-- **Codes are in normal form and differ in more than case and white space, and a code that is
taken is refused exactly if the request can be sent.** -/
theorem subjectCodes_iff {V : Validation} (hV : V.unicode.Lawful) {s₀ : SubjectStore}
    (h₀ : s₀.rows = []) (events : List SubjectEvent) :
    (∀ g ∈ (s₀.runSent V events).rows, normalizeSubjectCode V.unicode g.code = g.code) ∧
      ((s₀.runSent V events).rows.Pairwise fun a b => ¬ SameCode V.unicode a.code b.code) ∧
      ∀ submission r, SubjectSubmission.request? V submission = some r →
        r.Takes (s₀.runSent V events) →
          ((s₀.runSent V events).Declines r ↔ r.Sendable (s₀.runSent V events)) := by
  have hsound : (s₀.runSent V events).Sound fun code =>
      normalizeSubjectCode V.unicode code = code := by
    refine (SubjectStore.Sound.of_empty h₀).runSent events fun submission _ text _ code hcheck => ?_
    obtain ⟨rfl, -⟩ := checkCode_ok_iff.mp hcheck
    exact normalizeSubjectCode_idem hV text
  exact ⟨hsound.code, hsound.distinct, fun _ _ _ htakes => hsound.declines_iff htakes⟩

/-! ### Codes that are stored -/

/-- The code has the right length, and the schemas accept it as it is. -/
structure Resubmittable (V : Validation) (code : String) : Prop where
  min : 3 ≤ code.length
  max : code.length ≤ 20
  accepted : checkCode V code = .ok code

/-- The request goes through and leaves a row with the code. -/
def SubjectStore.Stores (s : SubjectStore) (r : SubjectRequest) (code : String) : Prop :=
  (∃ answer, (s.submit r).1 = .ok answer) ∧
    ∃ g, Keyed.get? (s.submit r).2.rows (r.subjectId?.getD s.idSeq) = some g ∧ g.code = code

section Stored

variable {P : String → Prop} {s : SubjectStore} {r : SubjectRequest}

/-- A request that goes through stores the code it sets, and the column takes it. -/
theorem SubjectStore.Sound.stores_code (hs : s.Sound P) {code stored : String}
    (hcode : r.code? = some code) (h : s.Stores r stored) :
    stored = code ∧ code.length ≤ 20 := by
  obtain ⟨⟨answer, hanswer⟩, g, hrow, rfl⟩ := h
  have hsubmit := s.submit_eq r
  cases hrefusal : r.refusal? s with
  | some e =>
    rw [hrefusal, Option.elim_some] at hsubmit
    rw [hsubmit] at hanswer
    cases hanswer
  | none =>
    rw [hrefusal, Option.elim_none] at hsubmit
    have hserves := s.serves r
    rw [← hsubmit] at hserves
    generalize s.submit r = ended at hserves hanswer hrow
    cases hserves with
    | created r g' hlength hfree hget =>
      obtain rfl : r.code = code := Option.some.inj hcode
      have hfresh : s.idSeq ∉ Keyed.keys s.rows := by
        intro hmem
        obtain ⟨v, hv, hvid⟩ := List.mem_map.mp hmem
        exact absurd hvid (Nat.ne_of_lt (hs.fresh v hv))
      have hnew : Keyed.get? (s.rows ++ [r.row s.idSeq s.clock]) s.idSeq =
          some (r.row s.idSeq s.clock) := by
        rw [Keyed.get?_concat _ _ _ hfresh]
        exact if_pos rfl
      obtain rfl := Keyed.get?_inj hnew hrow
      exact ⟨rfl, hlength⟩
    | updated id q g' write hget hne hwrite =>
      obtain ⟨hid, name, code', -, hcodeOf, hchanged, hg⟩ := SubjectStore.flush_ok hwrite
      have hset : q.code = .set code := by
        cases hq : q.code with
        | unset | null =>
          rw [SubjectRequest.code?, hq] at hcode
          cases hcode
        | set text =>
          rw [SubjectRequest.code?, hq] at hcode
          exact congrArg Patch.set (Option.some.inj hcode)
      obtain rfl : code = code' := by
        simpa only [UpdateSubjectAdmin.assign, hset, Patch.assign, Option.some.injEq] using hcodeOf
      have hnew : Keyed.get? (Keyed.modify s.rows id write) id = some (write g') := by
        rw [Keyed.get?_modify_self _ _ hid, hget]
        rfl
      obtain rfl := Keyed.get?_inj hnew hrow
      rw [hg]
      refine ⟨rfl, ?_⟩
      by_cases hsame : code = g'.code
      · rw [hsame]
        exact (notNull_some.mp (hs.fits g' (Keyed.mem_of_get? hget)).code).length_le
      · exact (hchanged hsame).2
    | archived | restored => cases hcode
    | hitAdmin | hitStaff | missAdmin | missStaff => cases hcode
    | _ => cases hanswer

/-- A normal form of the right length is accepted as it is. -/
theorem resubmittable_of_normal {V : Validation} {code : String}
    (hnormal : normalizeSubjectCode V.unicode code = code) (hmin : 3 ≤ code.length)
    (hmax : code.length ≤ 20) : Resubmittable V code :=
  ⟨hmin, hmax, checkCode_ok_iff.mpr ⟨hnormal.symm, hmin, hmax⟩⟩

end Stored

/-- **What is stored is accepted as it is exactly if its upper case has at least three characters
between the white space around it**, and in a run whose codes do, so does every stored code. -/
theorem subjectCode_resubmittable {V : Validation} (hV : V.unicode.Lawful) {s₀ : SubjectStore}
    (h₀ : s₀.rows = []) (events : List SubjectEvent) :
    (∀ submission r text code, SubjectSubmission.request? V submission = some r →
        submission.code? = some text → (s₀.runSent V events).Stores r code →
          (Resubmittable V code ↔ 3 ≤ V.unicode.width text)) ∧
      ((∀ submission, .sent submission ∈ events → ∀ text, submission.code? = some text →
          ∀ code, checkCode V text = .ok code → 3 ≤ V.unicode.width text) →
        ∀ g ∈ (s₀.runSent V events).rows, Resubmittable V g.code) := by
  constructor
  · intro submission r text code hrequest htext hstores
    have hsound : (s₀.runSent V events).Sound fun _ => True :=
      (SubjectStore.Sound.of_empty h₀).runSent events fun _ _ _ _ _ _ => trivial
    rcases SubjectSubmission.accepted_code hrequest with
      ⟨hnone, -⟩ | ⟨text', code', htext', hset, hcheck⟩
    · cases hnone.symm.trans htext
    · obtain rfl : text' = text := Option.some.inj (htext'.symm.trans htext)
      obtain ⟨rfl, hmax⟩ := hsound.stores_code hset hstores
      obtain ⟨rfl, -⟩ := checkCode_ok_iff.mp hcheck
      rw [← length_normalizeSubjectCode]
      exact ⟨Resubmittable.min, fun hmin =>
        resubmittable_of_normal (normalizeSubjectCode_idem hV text') hmin hmax⟩
  · intro hwide g hg
    have hsound : (s₀.runSent V events).Sound fun code =>
        normalizeSubjectCode V.unicode code = code ∧ 3 ≤ code.length := by
      refine (SubjectStore.Sound.of_empty h₀).runSent events
        fun submission hsent text htext code hcheck => ?_
      obtain rfl := (checkCode_ok_iff.mp hcheck).1
      rw [length_normalizeSubjectCode]
      exact ⟨normalizeSubjectCode_idem hV text, hwide submission hsent text htext _ hcheck⟩
    obtain ⟨hnormal, hmin⟩ := hsound.code g hg
    exact resubmittable_of_normal hnormal hmin (notNull_some.mp (hsound.fits g hg).code).length_le

/-! ### A few codes -/

theorem Char.isWhitespace_of_isAlpha {c : Char} (h : c.isAlpha = true) :
    c.isWhitespace = false := by
  by_contra hspace
  rw [Bool.not_eq_false] at hspace
  simp only [Char.isWhitespace, Bool.or_eq_true, decide_eq_true_eq] at hspace
  rcases hspace with ((rfl | rfl) | rfl) | rfl <;> exact absurd h (by decide)

/-- The upper case of ASCII. -/
theorem Validation.concrete_lawful : Validation.concrete.unicode.Lawful where
  upper_ne_nil _ := List.cons_ne_nil _ _
  upper_upper c d hd := by
    obtain rfl := List.mem_singleton.mp hd
    exact congrArg (fun d => [d]) (Char.toUpper_toUpper_eq_toUpper c)
  isSpace_upper c d hd := by
    obtain rfl := List.mem_singleton.mp hd
    change c.toUpper.isWhitespace = c.isWhitespace
    by_cases hlower : c.isLower = true
    · have halpha : c.isAlpha = true := by simp [Char.isAlpha, hlower]
      have hupper : c.toUpper.isAlpha = true := by
        simp [Char.isAlpha, Char.isUpper_toUpper_eq_isAlpha, hlower]
      rw [Char.isWhitespace_of_isAlpha halpha, Char.isWhitespace_of_isAlpha hupper]
    · rw [Char.toUpper_eq_of_not_isLower hlower]

/-- No subjects yet. -/
def SubjectStore.empty : SubjectStore where
  rows := []
  idSeq := 1
  clock := 0
  cache := fun _ => none

/-- A new subject without a description is sent. -/
def sendSubject (name code : String) : SubjectSubmission :=
  .createSubject { name := name, code := code, description := none }

/-- The state after a subject of the code has been created. -/
def SubjectStore.withCode (code : String) : SubjectStore :=
  SubjectStore.empty.runSent .concrete [.sent (sendSubject "Algebra" code)]

/-- A new subject as the schema leaves it. -/
def newSubject (name code : String) (h : 5 ≤ name.length ∧ name.length ≤ 100) :
    CreateSubjectAdmin where
  name := name
  code := code
  description := none
  name_valid := h
  description_valid := fun _ h => nomatch h

/-- The subject that has been created. -/
def algebra (code : String) : Subject :=
  (newSubject "Algebra" code (by decide)).row 1 0

/-- A second subject of a code, up to its case. -/
theorem subjectCodes_algebra :
    (SubjectStore.withCode "alg").Declines
      (.createSubject (newSubject "Algebra II" "ALG" (by decide))) := by
  have hempty : SubjectStore.empty.rows = [] := rfl
  have hstored : algebra "ALG" ∈ (SubjectStore.withCode "alg").rows := by decide +kernel
  have hdeclines := (subjectCodes_iff Validation.concrete_lawful hempty
    [.sent (sendSubject "Algebra" "alg")]).2.2 (sendSubject "Algebra II" " Alg ")
      (.createSubject (newSubject "Algebra II" "ALG" (by decide))) (by rfl) ⟨_, hstored, rfl⟩
  exact hdeclines.mpr ⟨by decide +kernel, by decide +kernel⟩

/-- The server refuses a NUL before it looks at the index. -/
theorem subjectCode_nulName :
    ∃ r, SubjectSubmission.request? .concrete (sendSubject "\x00\x00\x00\x00\x00" "alg") = some r ∧
      r.Takes (SubjectStore.withCode "alg") ∧ ¬ (SubjectStore.withCode "alg").Declines r := by
  refine ⟨.createSubject (newSubject "\x00\x00\x00\x00\x00" "ALG" (by decide)), by rfl,
    ⟨algebra "ALG", by decide +kernel, rfl⟩, fun h => ?_⟩
  have hraised := h.raised
  have hrefused : ((SubjectStore.withCode "alg").submit (.createSubject
      (newSubject "\x00\x00\x00\x00\x00" "ALG" (by decide)))).1 = .error invalidByteSequence := by
    decide +kernel
  rw [hrefused] at hraised
  cases hraised

/-- A code of three characters between white space, which is accepted. -/
theorem subjectCode_resubmittable_algebra :
    Resubmittable .concrete "ALG" ∧
      ∀ g ∈ (SubjectStore.withCode "alg").rows, Resubmittable .concrete g.code := by
  have hempty : SubjectStore.empty.rows = [] := rfl
  constructor
  · have hstores : SubjectStore.empty.Stores
        (.createSubject (newSubject "Algebra" "ALG" (by decide))) "ALG" :=
      ⟨⟨_, rfl⟩, algebra "ALG", by decide +kernel, rfl⟩
    exact ((subjectCode_resubmittable Validation.concrete_lawful hempty []).1
      (sendSubject "Algebra" " alg ") _ " alg " "ALG" (by rfl) rfl hstores).mpr (by decide +kernel)
  · refine (subjectCode_resubmittable Validation.concrete_lawful hempty
      [.sent (sendSubject "Algebra" "alg")]).2 fun submission hsent text htext code _ => ?_
    obtain rfl := SubjectEvent.sent.inj (List.mem_singleton.mp hsent)
    obtain rfl := Option.some.inj htext
    decide +kernel

/-- A code of three characters, two of them white space, is stored as one that the schemas do not
accept. -/
theorem subjectCode_shortened :
    (∃ r, SubjectSubmission.request? .concrete (sendSubject "Algebra" "  a") = some r ∧
        SubjectStore.empty.Stores r "A") ∧
      algebra "A" ∈ (SubjectStore.withCode "  a").rows ∧
        ¬ Resubmittable .concrete (algebra "A").code := by
  refine ⟨⟨.createSubject (newSubject "Algebra" "A" (by decide)), by rfl, ⟨_, rfl⟩, algebra "A",
    ?_, rfl⟩, by decide +kernel, fun h => absurd h.min (by decide +kernel)⟩
  decide +kernel

end SmsLite
