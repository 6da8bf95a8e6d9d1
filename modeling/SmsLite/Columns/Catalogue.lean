import SmsLite.Columns.UserService

/-!
# What the columns of groups and subjects take

The same for the two other tables.  Their schemas bound the length of a text, but take a NUL in
it; an integer has no upper bound, and the code of a subject is put into upper case after its
length has been checked.

## Main definitions

* `GroupDraft.Fits`, `SubjectDraft.Fits` — the rows.
* `GroupStmt.Fits`, `SubjectStmt.Fits` — the statements.
* `GroupStore.Constrained`, `SubjectStore.Constrained` — every stored row fits.
* `CreateGroupAdmin.Insertable`, `UpdateGroupAdmin.Fits`, `CreateSubjectAdmin.Insertable`,
  `UpdateSubjectAdmin.Fits` — what the schemas should have made sure of.

## Main results

* `createGroup_answers_iff`, `updateGroup_answers_iff`, `createSubject_answers_iff`,
  `updateSubject_answers_iff` — **when an operation runs without a refused statement**.
-/

namespace SmsLite

open Interleave
open Interleave.Prog (Passes passes_bind passes_stmt passes_stmt_eq passes_call_of passes_raise)

/-- A text that is short enough for its column fits unless it contains a NUL. -/
theorem Patch.notNull_fitsText {limit : ℕ} {p : Patch String}
    (h : ∀ text, p = .set text → text.length ≤ limit) :
    p.NotNull (FitsText limit) ↔ p.NotNull fun text => nul ∉ text.toList := by
  cases p with
  | set text => exact FitsText.of_le (h text rfl)
  | unset | null => exact Iff.rfl

theorem Patch.nullable_fitsText {limit : ℕ} {p : Patch String}
    (h : ∀ text, p = .set text → text.length ≤ limit) :
    p.Nullable (FitsText limit) ↔ p.Nullable fun text => nul ∉ text.toList := by
  cases p with
  | set text => exact FitsText.of_le (h text rfl)
  | unset | null => exact Iff.rfl

/-! ### Groups -/

section Groups

/-- The columns of `groups`. -/
@[mk_iff]
structure GroupDraft.Fits (d : GroupDraft) : Prop where
  name : NotNull (FitsText 50) d.name
  academicYear : FitsInteger d.academicYear
  gradeLevel : Nullable FitsInteger d.gradeLevel
  capacity : Nullable FitsInteger d.capacity

instance (d : GroupDraft) : Decidable d.Fits := decidable_of_iff _ (GroupDraft.fits_iff d).symm

/-- Every stored group fits. -/
structure GroupStore.Constrained (s : GroupStore) : Prop where
  rows : ∀ g ∈ s.rows, g.draft.Fits

/-- The values of a statement fit the columns they are written to or compared with. -/
def GroupStmt.Fits : GroupStmt → GroupStore → Prop
  | .getGroupById groupId, _ => FitsId groupId
  | .refresh groupId, _ => FitsId groupId
  | .insert group, s =>
    s.idSeq ∉ Keyed.keys s.rows ∧ FitsId s.idSeq ∧ (group.row s.idSeq s.clock).draft.Fits
  | .commit _ current, _ => current.Fits
  | _, _ => True

/-- Every statement of the run fits, and only an `AppException` comes out of it. -/
def GroupProg.Answers {α : Type} (p : GroupProg α) (s : GroupStore) : Prop :=
  Passes GroupStmt.Fits GroupStmt.exec p (fun out _ => Answered out) s

/-- What `create_group` takes for granted. -/
@[mk_iff]
structure CreateGroupAdmin.Insertable (r : CreateGroupAdmin) (s : GroupStore) : Prop where
  fresh : s.idSeq ∉ Keyed.keys s.rows
  id : FitsId s.idSeq
  name : nul ∉ r.name.toList
  gradeLevel : Nullable FitsInteger r.gradeLevel
  capacity : Nullable FitsInteger r.capacity

/-- What `update_group` takes for granted. -/
@[mk_iff]
structure UpdateGroupAdmin.Fits (r : UpdateGroupAdmin) : Prop where
  name : r.name.NotNull fun text => nul ∉ text.toList
  gradeLevel : r.gradeLevel.Nullable FitsInteger
  capacity : r.capacity.Nullable FitsInteger

variable {s : GroupStore}

theorem outOfRange_eq_false {value : Option ℤ} (h : Nullable FitsInteger value) :
    outOfRange value = false := by
  cases value with
  | none => rfl
  | some n =>
    obtain ⟨hlow, hhigh⟩ := h n rfl
    show (decide (n < -2 ^ 31) || decide (2 ^ 31 ≤ n)) = false
    rw [Bool.or_eq_false_iff, decide_eq_false_iff_not, decide_eq_false_iff_not]
    omega

/-- The row of a new group. -/
theorem CreateGroupAdmin.row_fits (r : CreateGroupAdmin) (id : ℕ) (createdAt : Time) :
    (r.row id createdAt).draft.Fits ↔
      nul ∉ r.name.toList ∧ Nullable FitsInteger r.gradeLevel ∧
        Nullable FitsInteger r.capacity := by
  have hyear : FitsInteger r.academicYear := by
    obtain ⟨hlow, hhigh⟩ := r.academicYear_range
    unfold FitsInteger
    omega
  have hname : r.name.length ≤ 50 := r.name_valid.2.trans (by decide)
  rw [GroupDraft.fits_iff]
  refine (and_congr notNull_some (and_iff_right hyear)).trans ?_
  exact and_congr_left fun _ => FitsText.of_le hname

/-- The row of an updated group. -/
theorem UpdateGroupAdmin.assign_fits (r : UpdateGroupAdmin) {g : GroupDraft} (hg : g.Fits) :
    (r.assign g).Fits ↔ r.Fits := by
  have hname : ∀ text, r.name = .set text → text.length ≤ 50 :=
    fun text htext => (r.name_valid text htext).2.trans (by decide)
  rw [GroupDraft.fits_iff, UpdateGroupAdmin.fits_iff]
  refine and_congr ?_ ((and_iff_right hg.academicYear).trans (and_congr ?_ ?_))
  · exact (notNull_assign _ hg.name).trans (Patch.notNull_fitsText hname)
  · exact nullable_assign _ hg.gradeLevel
  · exact nullable_assign _ hg.capacity

/-- **A group that fits is refused for its name and year only.** -/
theorem GroupStore.flush_refused {loaded : Group} {current : GroupDraft} {e : DbError}
    (hfits : current.Fits) (h : s.flush loaded current = .error e) :
    ∃ name academicYear, e = .integrity (duplicateGroup name academicYear) := by
  obtain ⟨name, hname, -⟩ := hfits.name
  unfold GroupStore.flush at h
  rw [outOfRange_eq_false hfits.gradeLevel, outOfRange_eq_false hfits.capacity, Bool.and_false,
    Bool.and_false, Bool.or_false, if_neg (by decide), hname] at h
  dsimp only at h
  split at h
  · cases h
    exact ⟨_, _, rfl⟩
  · cases h

/-- A flush keeps the id. -/
theorem GroupStore.flush_key {loaded : Group} {current : GroupDraft} {write : Group → Group}
    (h : s.flush loaded current = .ok write) (g : Group) : Keyed.key (write g) = Keyed.key g := by
  obtain ⟨write', hflush, hid, -⟩ := (GroupStore.takes_of_flush h).flush
  cases h.symm.trans hflush
  exact hid g

/-- Two groups of one name and year are a matter of an `AppException`. -/
theorem GroupProg.passes_duplicate {α : Type} (name : String) (academicYear : ℤ) :
    GroupProg.Answers
      (GroupProg.exceptIntegrityError (.integrity (duplicateGroup name academicYear)) :
        GroupProg α) s := by
  unfold GroupProg.exceptIntegrityError
  refine (passes_call_of GroupStmt.rollback _ trivial).mpr ?_
  have hin : pyIn "uix_group_name_academic_year" (duplicateGroup name academicYear) = true :=
    pyIn_duplicateKey _ _ _
  rw [if_pos hin, passes_raise]
  exact answered_app _ _

/-- A row that has just been written is there. -/
theorem GroupProg.passes_refresh' {Q : Except Exn Group → GroupStore → Prop} {id : ℕ}
    (hid : FitsId id) (hmem : id ∈ Keyed.keys s.rows) (hQ : ∀ g, Q (.ok g) s) :
    Passes GroupStmt.Fits GroupStmt.exec (GroupProg.refresh id) Q s := by
  obtain ⟨g, hg⟩ := Option.isSome_iff_exists.mp ((Keyed.get?_isSome_iff _ _).mpr hmem)
  have hexec : GroupStmt.exec (.refresh id) s = (some g, s) := congrArg (·, s) hg
  exact (passes_stmt_eq hexec).mpr ⟨hid, trivial, hQ g⟩

/-- **When `create_group` runs without a refused statement.** -/
theorem createGroup_answers_iff (r : CreateGroupAdmin) :
    (GroupServiceAdmin.createGroup r).Answers s ↔ r.Insertable s := by
  refine Iff.trans (b := (GroupStmt.insert r).Fits s) ?_ ?_
  · refine (passes_stmt (GroupStmt.insert r) _ s).trans (and_iff_left_of_imp fun hfits => ?_)
    obtain ⟨-, hid, hrow⟩ := hfits
    have hrange : (outOfRange r.gradeLevel || outOfRange r.capacity) = false := by
      have hgrade : outOfRange r.gradeLevel = false := outOfRange_eq_false hrow.gradeLevel
      have hcapacity : outOfRange r.capacity = false := outOfRange_eq_false hrow.capacity
      rw [hgrade, hcapacity]
      rfl
    cases htaken : s.taken s.idSeq r.name r.academicYear with
    | true =>
      have hexec : GroupStmt.exec (.insert r) s =
          (.error (.integrity (duplicateGroup r.name r.academicYear)),
            { s with idSeq := s.idSeq + 1 }) := by
        simp [GroupStmt.exec, hrange, htaken]
      rw [hexec]
      exact GroupProg.passes_duplicate _ _
    | false =>
      have hexec : GroupStmt.exec (.insert r) s =
          (.ok s.idSeq,
            { s with rows := s.rows ++ [r.row s.idSeq s.clock], idSeq := s.idSeq + 1 }) := by
        simp [GroupStmt.exec, hrange, htaken]
      rw [hexec]
      refine GroupProg.passes_refresh' hid ?_ fun _ => answered_ok _
      rw [Keyed.keys_concat]
      exact List.mem_append_right _ (List.mem_singleton_self _)
  · rw [CreateGroupAdmin.insertable_iff]
    exact and_congr_right fun _ => and_congr_right fun _ => r.row_fits _ _

/-- A request about a group goes on with the group, if there is one. -/
theorem GroupProg.passes_getGroupById {α : Type} {Q : Except Exn α → GroupStore → Prop} {id : ℕ}
    {f : Group → GroupProg α} (hmissing : Q (.error (.app .groupNotFoundError HTTP404.group)) s) :
    Passes GroupStmt.Fits GroupStmt.exec (GroupProg.getGroupById id >>= f) Q s ↔
      FitsId id ∧ ∀ target, Keyed.get? s.rows id = some target →
        Passes GroupStmt.Fits GroupStmt.exec (f target) Q s := by
  cases hget : Keyed.get? s.rows id with
  | none =>
    have hexec : GroupStmt.exec (.getGroupById id) s = (none, s) := congrArg (·, s) hget
    refine (passes_stmt_eq hexec).trans (and_congr_right fun _ => ?_)
    exact iff_of_true ⟨trivial, hmissing⟩ (by intro _ h; cases h)
  | some target =>
    have hexec : GroupStmt.exec (.getGroupById id) s = (some target, s) :=
      congrArg (·, s) hget
    refine (passes_stmt_eq hexec).trans (and_congr_right fun _ => ?_)
    exact ⟨fun h _ htarget => Option.some.inj htarget ▸ h, fun h => h target rfl⟩

/-- **When `update_group` runs without a refused statement.** -/
theorem updateGroup_answers_iff (hs : s.Constrained) (id : ℕ) (r : UpdateGroupAdmin) :
    (GroupServiceAdmin.updateGroup id r).Answers s ↔
      FitsId id ∧ ∀ target, Keyed.get? s.rows id = some target →
        r.assign target.draft ≠ target.draft → r.Fits := by
  unfold GroupServiceAdmin.updateGroup GroupProg.Answers
  rw [GroupProg.passes_getGroupById (answered_app _ _)]
  refine and_congr_right fun hid => forall_congr' fun target => imp_congr_right fun hget => ?_
  have hstored := hs.rows _ (Keyed.mem_of_get? hget)
  dsimp only
  by_cases hsame : r.assign target.draft = target.draft
  · rw [if_pos hsame]
    exact iff_of_true ⟨trivial, answered_app _ _⟩ fun h => absurd hsame h
  · rw [if_neg hsame, imp_iff_right hsame, ← r.assign_fits hstored]
    refine (passes_stmt (GroupStmt.commit target (r.assign target.draft)) _ s).trans
      (and_iff_left_of_imp fun hfits => ?_)
    cases hflush : s.flush target (r.assign target.draft) with
    | error e =>
      have hexec : GroupStmt.exec (.commit target (r.assign target.draft)) s = (.error e, s) := by
        simp [GroupStmt.exec, hflush]
      obtain ⟨name, academicYear, rfl⟩ := GroupStore.flush_refused hfits hflush
      rw [hexec]
      exact GroupProg.passes_duplicate _ _
    | ok write =>
      have hexec : GroupStmt.exec (.commit target (r.assign target.draft)) s =
          (.ok (), { s with rows := Keyed.modify s.rows target.id write }) := by
        simp [GroupStmt.exec, hflush]
      have hmem : id ∈ Keyed.keys (Keyed.modify s.rows target.id write) := by
        rw [Keyed.keys_modify _ _ (GroupStore.flush_key hflush)]
        exact (Keyed.get?_isSome_iff _ _).mp (by rw [hget]; rfl)
      rw [hexec]
      refine (passes_bind (GroupProg.refresh id) _ _).mpr
        (GroupProg.passes_refresh' hid hmem fun _ => ?_)
      exact ⟨⟨trivial, trivial⟩, answered_ok _⟩

end Groups

/-! ### Subjects -/

section Subjects

/-- The columns of `subjects`. -/
@[mk_iff]
structure SubjectDraft.Fits (d : SubjectDraft) : Prop where
  name : NotNull (FitsText 100) d.name
  code : NotNull (FitsText 20) d.code
  description : Nullable (FitsText 255) d.description

instance (d : SubjectDraft) : Decidable d.Fits :=
  decidable_of_iff _ (SubjectDraft.fits_iff d).symm

/-- Every stored subject fits. -/
structure SubjectStore.Constrained (s : SubjectStore) : Prop where
  rows : ∀ subject ∈ s.rows, subject.draft.Fits

/-- The values of a statement fit the columns they are written to or compared with. -/
def SubjectStmt.Fits : SubjectStmt → SubjectStore → Prop
  | .getSubjectById subjectId, _ => FitsId subjectId
  | .refresh subjectId, _ => FitsId subjectId
  | .insert subject, s =>
    s.idSeq ∉ Keyed.keys s.rows ∧ FitsId s.idSeq ∧ (subject.row s.idSeq s.clock).draft.Fits
  | .commit _ current, _ => current.Fits
  | _, _ => True

/-- Every statement of the run fits, and only an `AppException` comes out of it. -/
def SubjectProg.Answers {α : Type} (p : SubjectProg α) (s : SubjectStore) : Prop :=
  Passes SubjectStmt.Fits SubjectStmt.exec p (fun out _ => Answered out) s

/-- What `create_subject` takes for granted. -/
@[mk_iff]
structure CreateSubjectAdmin.Insertable (r : CreateSubjectAdmin) (s : SubjectStore) : Prop where
  fresh : s.idSeq ∉ Keyed.keys s.rows
  id : FitsId s.idSeq
  name : nul ∉ r.name.toList
  code : FitsText 20 r.code
  description : Nullable (fun text => nul ∉ text.toList) r.description

/-- What `update_subject` takes for granted. -/
@[mk_iff]
structure UpdateSubjectAdmin.Fits (r : UpdateSubjectAdmin) : Prop where
  name : r.name.NotNull fun text => nul ∉ text.toList
  code : r.code.NotNull (FitsText 20)
  description : r.description.Nullable fun text => nul ∉ text.toList

variable {s : SubjectStore}

/-- The row of a new subject. -/
theorem CreateSubjectAdmin.row_fits (r : CreateSubjectAdmin) (id : ℕ) (createdAt : Time) :
    (r.row id createdAt).draft.Fits ↔
      nul ∉ r.name.toList ∧ FitsText 20 r.code ∧
        Nullable (fun text => nul ∉ text.toList) r.description := by
  rw [SubjectDraft.fits_iff]
  refine and_congr ?_ (and_congr notNull_some ?_)
  · exact notNull_some.trans (FitsText.of_le r.name_valid.2)
  · exact forall_congr' fun text => imp_congr_right fun htext =>
      FitsText.of_le (r.description_valid text htext)

/-- The row of an updated subject. -/
theorem UpdateSubjectAdmin.assign_fits (r : UpdateSubjectAdmin) {d : SubjectDraft}
    (hd : d.Fits) : (r.assign d).Fits ↔ r.Fits := by
  rw [SubjectDraft.fits_iff, UpdateSubjectAdmin.fits_iff]
  refine and_congr ?_ (and_congr ?_ ?_)
  · exact (notNull_assign _ hd.name).trans
      (Patch.notNull_fitsText fun text htext => (r.name_valid text htext).2)
  · exact notNull_assign _ hd.code
  · exact (nullable_assign _ hd.description).trans (Patch.nullable_fitsText r.description_valid)

/-- **A subject that fits is refused for its code only.** -/
theorem SubjectStore.flush_refused {loaded : Subject} {current : SubjectDraft} {e : DbError}
    (hfits : current.Fits) (h : s.flush loaded current = .error e) :
    ∃ code, e = .integrity (duplicateSubject code) := by
  obtain ⟨name, hname, -⟩ := hfits.name
  obtain ⟨code, hcode, hlength⟩ := hfits.code
  have hshort : (current.code.any fun text => decide (20 < text.length)) = false := by
    rw [hcode]
    exact decide_eq_false (not_lt.mpr hlength.length_le)
  unfold SubjectStore.flush at h
  rw [hshort, Bool.and_false, if_neg (by decide), hname, hcode] at h
  dsimp only at h
  split at h
  · cases h
    exact ⟨_, rfl⟩
  · cases h

/-- Two subjects of one code are a matter of an `AppException`. -/
theorem SubjectProg.passes_duplicate {α : Type} (code : String) :
    SubjectProg.Answers
      (SubjectProg.exceptIntegrityError (.integrity (duplicateSubject code)) :
        SubjectProg α) s := by
  unfold SubjectProg.exceptIntegrityError
  refine (passes_call_of SubjectStmt.rollback _ trivial).mpr ?_
  have hin : pyIn "ix_subjects_code" (duplicateSubject code) = true := pyIn_duplicateKey _ _ _
  rw [if_pos hin, passes_raise]
  exact answered_app _ _

/-- A row that has just been written is there. -/
theorem SubjectProg.passes_refresh' {Q : Except Exn Subject → SubjectStore → Prop} {id : ℕ}
    (hid : FitsId id) (hmem : id ∈ Keyed.keys s.rows) (hQ : ∀ subject, Q (.ok subject) s) :
    Passes SubjectStmt.Fits SubjectStmt.exec (SubjectProg.refresh id) Q s := by
  obtain ⟨subject, hget⟩ :=
    Option.isSome_iff_exists.mp ((Keyed.get?_isSome_iff _ _).mpr hmem)
  have hexec : SubjectStmt.exec (.refresh id) s = (some subject, s) := congrArg (·, s) hget
  exact (passes_stmt_eq hexec).mpr ⟨hid, trivial, hQ subject⟩

/-- A request about a subject goes on with the subject, if there is one. -/
theorem SubjectProg.passes_getSubjectById {α : Type} {Q : Except Exn α → SubjectStore → Prop}
    {id : ℕ} {f : Subject → SubjectProg α}
    (hmissing : Q (.error (.app .subjectNotFoundError HTTP404.subject)) s) :
    Passes SubjectStmt.Fits SubjectStmt.exec (SubjectProg.getSubjectById id >>= f) Q s ↔
      FitsId id ∧ ∀ target, Keyed.get? s.rows id = some target →
        Passes SubjectStmt.Fits SubjectStmt.exec (f target) Q s := by
  cases hget : Keyed.get? s.rows id with
  | none =>
    have hexec : SubjectStmt.exec (.getSubjectById id) s = (none, s) := congrArg (·, s) hget
    refine (passes_stmt_eq hexec).trans (and_congr_right fun _ => ?_)
    exact iff_of_true ⟨trivial, hmissing⟩ (by intro _ h; cases h)
  | some target =>
    have hexec : SubjectStmt.exec (.getSubjectById id) s = (some target, s) :=
      congrArg (·, s) hget
    refine (passes_stmt_eq hexec).trans (and_congr_right fun _ => ?_)
    exact ⟨fun h _ htarget => Option.some.inj htarget ▸ h, fun h => h target rfl⟩

/-- **When `create_subject` runs without a refused statement.** -/
theorem createSubject_answers_iff (r : CreateSubjectAdmin) :
    (SubjectServiceAdmin.createSubject r).Answers s ↔ r.Insertable s := by
  refine Iff.trans (b := (SubjectStmt.insert r).Fits s) ?_ ?_
  · refine (passes_stmt (SubjectStmt.insert r) _ s).trans (and_iff_left_of_imp fun hfits => ?_)
    obtain ⟨-, hid, hrow⟩ := hfits
    have hcode : ¬ 20 < r.code.length := not_lt.mpr (notNull_some.mp hrow.code).length_le
    cases htaken : s.taken s.idSeq r.code with
    | true =>
      have hexec : SubjectStmt.exec (.insert r) s =
          (.error (.integrity (duplicateSubject r.code)), { s with idSeq := s.idSeq + 1 }) := by
        simp [SubjectStmt.exec, hcode, htaken]
      rw [hexec]
      exact SubjectProg.passes_duplicate _
    | false =>
      have hexec : SubjectStmt.exec (.insert r) s =
          (.ok s.idSeq,
            { s with rows := s.rows ++ [r.row s.idSeq s.clock], idSeq := s.idSeq + 1 }) := by
        simp [SubjectStmt.exec, hcode, htaken]
      rw [hexec]
      refine SubjectProg.passes_refresh' hid ?_ fun _ => answered_ok _
      rw [Keyed.keys_concat]
      exact List.mem_append_right _ (List.mem_singleton_self _)
  · rw [CreateSubjectAdmin.insertable_iff]
    exact and_congr_right fun _ => and_congr_right fun _ => r.row_fits _ _

/-- **When `update_subject` runs without a refused statement.** -/
theorem updateSubject_answers_iff (hs : s.Constrained) (id : ℕ) (r : UpdateSubjectAdmin) :
    (SubjectServiceAdmin.updateSubject id r).Answers s ↔
      FitsId id ∧ ∀ target, Keyed.get? s.rows id = some target →
        r.assign target.draft ≠ target.draft → r.Fits := by
  unfold SubjectServiceAdmin.updateSubject SubjectProg.Answers
  rw [SubjectProg.passes_getSubjectById (answered_app _ _)]
  refine and_congr_right fun hid => forall_congr' fun target => imp_congr_right fun hget => ?_
  have hstored := hs.rows _ (Keyed.mem_of_get? hget)
  dsimp only
  by_cases hsame : r.assign target.draft = target.draft
  · rw [if_pos hsame]
    exact iff_of_true ⟨trivial, answered_app _ _⟩ fun h => absurd hsame h
  · rw [if_neg hsame, imp_iff_right hsame, ← r.assign_fits hstored]
    refine (passes_stmt (SubjectStmt.commit target (r.assign target.draft)) _ s).trans
      (and_iff_left_of_imp fun hfits => ?_)
    cases hflush : s.flush target (r.assign target.draft) with
    | error e =>
      have hexec : SubjectStmt.exec (.commit target (r.assign target.draft)) s =
          (.error e, s) := by
        simp [SubjectStmt.exec, hflush]
      obtain ⟨code, rfl⟩ := SubjectStore.flush_refused hfits hflush
      rw [hexec]
      exact SubjectProg.passes_duplicate _
    | ok write =>
      have hexec : SubjectStmt.exec (.commit target (r.assign target.draft)) s =
          (.ok (), { s with rows := Keyed.modify s.rows target.id write }) := by
        simp [SubjectStmt.exec, hflush]
      have hmem : id ∈ Keyed.keys (Keyed.modify s.rows target.id write) := by
        rw [Keyed.keys_modify _ _ (SubjectStore.flush_ok hflush).1]
        exact (Keyed.get?_isSome_iff _ _).mp (by rw [hget]; rfl)
      rw [hexec]
      refine (passes_bind (SubjectProg.refresh id) _ _).mpr
        (SubjectProg.passes_refresh' hid hmem fun _ => ?_)
      exact ⟨⟨trivial, trivial⟩, answered_ok _⟩

end Subjects

end SmsLite
