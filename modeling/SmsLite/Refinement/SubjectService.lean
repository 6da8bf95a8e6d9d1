import SmsLite.Refinement.GroupService
import SmsLite.SubjectService

/-!
# What the subject operations do

Every operation on the subjects, served from beginning to end, in closed form: how it ends, and
what it leaves in the table and in the cache.

## Main definitions

* `SubjectStore.forgetting` — the cache without some keys.
* `DbError.subjectExn` — what a failed commit ends in.
* `SubjectRequest.subjectId?` — the subject an operation is about.
* `SubjectStore.Serves` — the ways an operation ends, with the store it leaves.

## Main results

* `SubjectStore.flush_ok` — what a flush writes.
* `SubjectStore.serves` — **how an operation ends**.
-/

namespace SmsLite

open Interleave

variable {s : SubjectStore}

/-- The cache without the keys. -/
def SubjectStore.forgetting (s : SubjectStore) (keys : List SubjectCacheKey) :
    SubjectCacheKey → Option SubjectCacheValue :=
  fun key => if key ∈ keys then none else s.cache key

/-- The exception of a failed commit inside a `try`. -/
def DbError.subjectExn : DbError → Exn
  | .data orig => .dbapiError orig
  | .integrity orig =>
    if pyIn "ix_subjects_code" orig then
      .app .subjectCodeAlreadyExistsError HTTP409.subjectCode
    else .integrityError orig

namespace SubjectProg

variable {α β : Type}

theorem run_getSubjectById_some {subjectId : ℕ} {g : Subject}
    (h : Keyed.get? s.rows subjectId = some g) (f : Subject → SubjectProg β) :
    (getSubjectById subjectId >>= f).run SubjectStmt.exec s =
      (f g).run SubjectStmt.exec s := by
  simp only [getSubjectById, Prog.call, Prog.stmt_bind, Prog.run_stmt, SubjectStmt.exec, h]
  rfl

theorem run_getSubjectById_none {subjectId : ℕ} (h : Keyed.get? s.rows subjectId = none)
    (f : Subject → SubjectProg β) :
    (getSubjectById subjectId >>= f).run SubjectStmt.exec s =
      (.error (.app .subjectNotFoundError HTTP404.subject), s) := by
  simp only [getSubjectById, Prog.call, Prog.stmt_bind, Prog.run_stmt, SubjectStmt.exec, h]
  rfl

theorem run_now (f : Time → SubjectProg β) :
    (now >>= f).run SubjectStmt.exec s = (f s.clock).run SubjectStmt.exec s := rfl

theorem run_refresh {subjectId : ℕ} {g : Subject} (h : Keyed.get? s.rows subjectId = some g) :
    (refresh subjectId).run SubjectStmt.exec s = (.ok g, s) := by
  simp only [refresh, Prog.call, Prog.stmt_bind, Prog.run_stmt, SubjectStmt.exec, h]
  rfl

/-- The handler of an error leaves the store alone. -/
theorem run_exceptIntegrityError (e : DbError) :
    (exceptIntegrityError e : SubjectProg α).run SubjectStmt.exec s = (.error e.subjectExn, s) := by
  cases e with
  | data orig => rfl
  | integrity orig =>
    change (if pyIn "ix_subjects_code" orig then
        Prog.raise (.app .subjectCodeAlreadyExistsError HTTP409.subjectCode)
      else Prog.raise (.integrityError orig) : SubjectProg α).run SubjectStmt.exec s = _
    simp only [DbError.subjectExn]
    split <;> rfl

end SubjectProg

/-! ### Flushes -/

/-- What a flush writes: the new values to the loaded row, and no row changes its id. -/
theorem SubjectStore.flush_ok {g : Subject} {d : SubjectDraft} {write : Subject → Subject}
    (h : s.flush g d = .ok write) :
    (∀ stored, (write stored).id = stored.id) ∧
      ∃ name code, d.name = some name ∧ d.code = some code ∧
        (code ≠ g.code → s.taken g.id code = false ∧ code.length ≤ 20) ∧
        write g = { g with
          name := name, code := code, description := d.description
          isArchived := d.isArchived, archivedAt := d.archivedAt } := by
  unfold SubjectStore.flush at h
  split at h
  · cases h
  · next hlength =>
    split at h
    · cases h
    · cases h
    · next name code hname hcode =>
      split at h
      · cases h
      · next hfree =>
        cases h
        refine ⟨fun _ => rfl, name, code, hname, hcode, fun hne => ⟨?_, ?_⟩, ?_⟩
        · simpa [hne] using hfree
        · simpa [hcode, hne] using hlength
        · simp only [written_loaded]

/-- A flush that leaves the texts alone goes through. -/
theorem SubjectStore.flush_archived (s : SubjectStore) (g : Subject) (isArchived : Bool)
    (archivedAt : Option Time) :
    ∃ write, s.flush g { g.draft with isArchived := isArchived, archivedAt := archivedAt } =
      .ok write := by
  unfold SubjectStore.flush
  rw [if_neg (by simp [Subject.draft])]
  dsimp only [Subject.draft]
  rw [if_neg (by simp)]
  exact ⟨_, rfl⟩

/-! ### How the operations end -/

/-- The subject an operation is about. -/
def SubjectRequest.subjectId? : SubjectRequest → Option ℕ
  | createSubject _ => none
  | updateSubject subjectId _ | archiveSubject subjectId | restoreSubject subjectId
  | getSubjectByIdAdmin subjectId | getSubjectByIdDirector subjectId => some subjectId

/-- How an operation ends: its answer, and the store it leaves. -/
inductive SubjectStore.Serves (s : SubjectStore) :
    SubjectRequest → Except Exn SubjectResponse × SubjectStore → Prop
  /-- A new subject, which is then read back. -/
  | created (r : CreateSubjectAdmin) (g : Subject) (hlength : r.code.length ≤ 20)
      (hfree : s.taken s.idSeq r.code = false)
      (hget : Keyed.get? (s.rows ++ [r.row s.idSeq s.clock]) s.idSeq = some g) :
      s.Serves (.createSubject r)
        (.ok (.subject g),
          { s with rows := s.rows ++ [r.row s.idSeq s.clock], idSeq := s.idSeq + 1 })
  /-- A new code that is too long or taken. -/
  | notCreated (r : CreateSubjectAdmin) (e : DbError)
      (he : e = .data (tooLongText 20) ∧ 20 < r.code.length ∨
        e = .integrity (duplicateSubject r.code) ∧ s.taken s.idSeq r.code = true) :
      s.Serves (.createSubject r) (.error e.subjectExn, { s with idSeq := s.idSeq + 1 })
  /-- A subject that does not exist. -/
  | missing (r : SubjectRequest) (subjectId : ℕ) (hr : r.subjectId? = some subjectId)
      (hget : Keyed.get? s.rows subjectId = none) :
      s.Serves r (.error (.app .subjectNotFoundError HTTP404.subject), s)
  /-- An update that changes nothing. -/
  | unchanged (subjectId : ℕ) (q : UpdateSubjectAdmin) (g : Subject)
      (hget : Keyed.get? s.rows subjectId = some g) (hsame : q.assign g.draft = g.draft) :
      s.Serves (.updateSubject subjectId q)
        (.error (.app .noChangesDetectedError HTTP400.noChangesDetected), s)
  /-- An update the database refuses. -/
  | notUpdated (subjectId : ℕ) (q : UpdateSubjectAdmin) (g : Subject) (e : DbError)
      (hget : Keyed.get? s.rows subjectId = some g) (he : s.flush g (q.assign g.draft) = .error e) :
      s.Serves (.updateSubject subjectId q) (.error e.subjectExn, s)
  /-- An update. -/
  | updated (subjectId : ℕ) (q : UpdateSubjectAdmin) (g : Subject) (write : Subject → Subject)
      (hget : Keyed.get? s.rows subjectId = some g) (hne : q.assign g.draft ≠ g.draft)
      (hwrite : s.flush g (q.assign g.draft) = .ok write) :
      s.Serves (.updateSubject subjectId q)
        (.ok .none,
          { s with
            rows := Keyed.modify s.rows subjectId write
            cache := s.forgetting
              [.subjectDetailKeyAdmin subjectId, .subjectDetailKeyStaff subjectId] })
  /-- A subject that is archived already. -/
  | notArchived (subjectId : ℕ) (g : Subject) (hget : Keyed.get? s.rows subjectId = some g)
      (harchived : g.isArchived = true ∨ g.archivedAt ≠ none) :
      s.Serves (.archiveSubject subjectId)
        (.error (.app .subjectAlreadyArchivedError "Subject is already archived"), s)
  /-- Archiving. -/
  | archived (subjectId : ℕ) (g : Subject) (write : Subject → Subject)
      (hget : Keyed.get? s.rows subjectId = some g) (hopen : g.isArchived = false)
      (hnone : g.archivedAt = none)
      (hwrite : s.flush g { g.draft with isArchived := true, archivedAt := some s.clock } =
        .ok write) :
      s.Serves (.archiveSubject subjectId)
        (.ok .none,
          { s with
            rows := Keyed.modify s.rows subjectId write
            cache := s.forgetting [.subjectDetailKeyAdmin subjectId] })
  /-- A subject that is restored already. -/
  | notRestored (subjectId : ℕ) (g : Subject) (hget : Keyed.get? s.rows subjectId = some g)
      (hopen : g.isArchived = false ∨ g.archivedAt = none) :
      s.Serves (.restoreSubject subjectId)
        (.error (.app .subjectNotArchivedError
          "Subject is already restored or has not been archived"), s)
  /-- Restoring. -/
  | restored (subjectId : ℕ) (g : Subject) (write : Subject → Subject)
      (hget : Keyed.get? s.rows subjectId = some g) (harchived : g.isArchived = true)
      (hsome : g.archivedAt ≠ none)
      (hwrite : s.flush g { g.draft with isArchived := false, archivedAt := none } = .ok write) :
      s.Serves (.restoreSubject subjectId)
        (.ok .none,
          { s with
            rows := Keyed.modify s.rows subjectId write
            cache := s.forgetting [.subjectDetailKeyAdmin subjectId] })
  /-- A read of the administrator that finds an entry. -/
  | hitAdmin (subjectId : ℕ) (value : SubjectCacheValue)
      (hhit : s.cache (.subjectDetailKeyAdmin subjectId) = some value) :
      s.Serves (.getSubjectByIdAdmin subjectId)
        ((ensureValid value.admin?).map .admin, s)
  /-- A read of the director that finds an entry. -/
  | hitStaff (subjectId : ℕ) (value : SubjectCacheValue)
      (hhit : s.cache (.subjectDetailKeyStaff subjectId) = some value) :
      s.Serves (.getSubjectByIdDirector subjectId)
        ((ensureValid value.staff?).map .staff, s)
  /-- A read of the administrator that fills the entry. -/
  | missAdmin (subjectId : ℕ) (g : Subject)
      (hcold : s.cache (.subjectDetailKeyAdmin subjectId) = none)
      (hget : Keyed.get? s.rows subjectId = some g) :
      s.Serves (.getSubjectByIdAdmin subjectId)
        (.ok (.admin g.adminCache),
          { s with
            cache := Function.update s.cache (.subjectDetailKeyAdmin subjectId)
              (some (.admin g.adminCache)) })
  /-- A read of the director that fills the entry. -/
  | missStaff (subjectId : ℕ) (g : Subject)
      (hcold : s.cache (.subjectDetailKeyStaff subjectId) = none)
      (hget : Keyed.get? s.rows subjectId = some g) :
      s.Serves (.getSubjectByIdDirector subjectId)
        (.ok (.staff g.directorCache),
          { s with
            cache := Function.update s.cache (.subjectDetailKeyStaff subjectId)
              (some (.staff g.directorCache)) })

/-- A created subject is read back. -/
theorem SubjectStore.get?_created (s : SubjectStore) (r : CreateSubjectAdmin) :
    ∃ g, Keyed.get? (s.rows ++ [r.row s.idSeq s.clock]) s.idSeq = some g := by
  rw [← Option.isSome_iff_exists, Keyed.get?_isSome_iff, Keyed.keys_concat]
  exact List.mem_append_right _ (List.mem_singleton_self _)

theorem SubjectStore.serves_createSubject (s : SubjectStore) (r : CreateSubjectAdmin) :
    s.Serves (.createSubject r) (s.serve (.createSubject r)) := by
  simp only [SubjectStore.serve, SubjectRequest.service, Prog.run_map,
    SubjectServiceAdmin.createSubject]
  rw [Prog.run_call]
  by_cases hlength : 20 < r.code.length
  · have hexec : (SubjectStmt.insert r).exec s =
        (.error (.data (tooLongText 20)), { s with idSeq := s.idSeq + 1 }) := by
      simp only [SubjectStmt.exec, hlength, if_true]
    rw [hexec]
    dsimp only
    rw [SubjectProg.run_exceptIntegrityError]
    exact .notCreated r _ (Or.inl ⟨rfl, hlength⟩)
  · by_cases htaken : s.taken s.idSeq r.code = true
    · have hexec : (SubjectStmt.insert r).exec s =
          (.error (.integrity (duplicateSubject r.code)), { s with idSeq := s.idSeq + 1 }) := by
        simp only [SubjectStmt.exec, hlength, htaken, if_true, if_false]
      rw [hexec]
      dsimp only
      rw [SubjectProg.run_exceptIntegrityError]
      exact .notCreated r _ (Or.inr ⟨rfl, htaken⟩)
    · have hexec : (SubjectStmt.insert r).exec s =
          (.ok s.idSeq,
            { s with rows := s.rows ++ [r.row s.idSeq s.clock], idSeq := s.idSeq + 1 }) := by
        simp only [SubjectStmt.exec, hlength, htaken, if_false]
        rfl
      rw [hexec]
      dsimp only
      obtain ⟨g, hg⟩ := s.get?_created r
      rw [SubjectProg.run_refresh hg]
      exact .created r g (not_lt.mp hlength) (by simpa using htaken) hg

theorem SubjectStore.serves_updateSubject (s : SubjectStore) (subjectId : ℕ)
    (r : UpdateSubjectAdmin) :
    s.Serves (.updateSubject subjectId r) (s.serve (.updateSubject subjectId r)) := by
  simp only [SubjectStore.serve, SubjectRequest.service, Prog.run_map,
    SubjectServiceAdmin.updateSubject]
  cases hget : Keyed.get? s.rows subjectId with
  | none =>
    rw [SubjectProg.run_getSubjectById_none hget]
    exact .missing _ subjectId rfl hget
  | some g =>
    have hid : g.id = subjectId := Keyed.key_of_get? hget
    rw [SubjectProg.run_getSubjectById_some hget]
    by_cases hsame : r.assign g.draft = g.draft
    · rw [if_pos hsame]
      exact .unchanged subjectId r g hget hsame
    · rw [if_neg hsame, Prog.run_call]
      cases hflush : s.flush g (r.assign g.draft) with
      | error e =>
        simp only [SubjectStmt.exec, hflush]
        rw [SubjectProg.run_exceptIntegrityError]
        exact .notUpdated subjectId r g e hget hflush
      | ok write =>
        simp only [SubjectStmt.exec, hflush]
        -- The row that is refreshed after the commit is there.
        have hnew : Keyed.get? (Keyed.modify s.rows g.id write) subjectId = some (write g) := by
          rw [hid, Keyed.get?_modify_self _ _ (SubjectStore.flush_ok hflush).1, hget]
          rfl
        rw [Prog.run_bind, SubjectProg.run_refresh hnew, hid]
        exact .updated subjectId r g write hget hsame hflush

/-- The commit of the two archiving operations, and the deletion of the key of the
administrator. -/
theorem SubjectProg.run_archiving {g : Subject} {d : SubjectDraft} {write : Subject → Subject}
    (hflush : s.flush g d = .ok write) :
    (do
      SubjectProg.commitOrRaise g d
      SubjectProg.deleteCache [.subjectDetailKeyAdmin g.id] : SubjectProg Unit).run
        SubjectStmt.exec s =
      (.ok (), { s with
        rows := Keyed.modify s.rows g.id write
        cache := s.forgetting [.subjectDetailKeyAdmin g.id] }) := by
  simp only [SubjectProg.commitOrRaise, Prog.call, Prog.stmt_bind, Prog.pure_bind, Prog.run_stmt,
    SubjectStmt.exec, hflush]
  rfl

theorem SubjectStore.serves_archiveSubject (s : SubjectStore) (subjectId : ℕ) :
    s.Serves (.archiveSubject subjectId) (s.serve (.archiveSubject subjectId)) := by
  simp only [SubjectStore.serve, SubjectRequest.service, Prog.run_map,
    SubjectServiceAdmin.archiveSubject]
  cases hget : Keyed.get? s.rows subjectId with
  | none =>
    rw [SubjectProg.run_getSubjectById_none hget]
    exact .missing _ subjectId rfl hget
  | some g =>
    obtain rfl : g.id = subjectId := Keyed.key_of_get? hget
    rw [SubjectProg.run_getSubjectById_some hget]
    by_cases hguard : (g.isArchived || g.archivedAt.isSome) = true
    · rw [if_pos hguard]
      simp only [Bool.or_eq_true, Option.isSome_iff_ne_none] at hguard
      exact .notArchived g.id g hget hguard
    · rw [if_neg hguard]
      simp only [Bool.or_eq_true, not_or, Bool.not_eq_true, Option.isSome_eq_false_iff,
        Option.isNone_iff_eq_none] at hguard
      obtain ⟨write, hflush⟩ := s.flush_archived g true (some s.clock)
      rw [SubjectProg.run_now, SubjectProg.run_archiving hflush]
      exact .archived g.id g write hget hguard.1 hguard.2 hflush

theorem SubjectStore.serves_restoreSubject (s : SubjectStore) (subjectId : ℕ) :
    s.Serves (.restoreSubject subjectId) (s.serve (.restoreSubject subjectId)) := by
  simp only [SubjectStore.serve, SubjectRequest.service, Prog.run_map,
    SubjectServiceAdmin.restoreSubject]
  cases hget : Keyed.get? s.rows subjectId with
  | none =>
    rw [SubjectProg.run_getSubjectById_none hget]
    exact .missing _ subjectId rfl hget
  | some g =>
    obtain rfl : g.id = subjectId := Keyed.key_of_get? hget
    rw [SubjectProg.run_getSubjectById_some hget]
    by_cases hguard : (!g.isArchived || g.archivedAt.isNone) = true
    · rw [if_pos hguard]
      simp only [Bool.or_eq_true, Bool.not_eq_true', Option.isNone_iff_eq_none] at hguard
      exact .notRestored g.id g hget hguard
    · rw [if_neg hguard]
      simp only [Bool.or_eq_true, not_or, Bool.not_eq_true, Bool.not_eq_false',
        Option.isNone_eq_false_iff, Option.isSome_iff_ne_none] at hguard
      obtain ⟨write, hflush⟩ := s.flush_archived g false none
      rw [SubjectProg.run_archiving hflush]
      exact .restored g.id g write hget hguard.1 hguard.2 hflush

/-- A reader, in closed form. -/
theorem SubjectProg.run_cachedSubject {α : Type} (s : SubjectStore) (key : SubjectCacheKey)
    (subjectId : ℕ) (validate : SubjectCacheValue → Option α)
    (project : Subject → SubjectCacheValue) (respond : Subject → α) :
    (cachedSubject key subjectId validate project respond).run SubjectStmt.exec s =
      match s.cache key, Keyed.get? s.rows subjectId with
      | some value, _ => (ensureValid (validate value), s)
      | none, none => (.error (.app .subjectNotFoundError HTTP404.subject), s)
      | none, some g =>
        (.ok (respond g), { s with cache := Function.update s.cache key (some (project g)) }) := by
  unfold cachedSubject
  rw [Prog.run_call]
  simp only [SubjectStmt.exec]
  cases s.cache key with
  | some value =>
    dsimp only
    cases validate value <;> rfl
  | none =>
    dsimp only
    cases hget : Keyed.get? s.rows subjectId with
    | none =>
      rw [SubjectProg.run_getSubjectById_none hget]
    | some g =>
      rw [SubjectProg.run_getSubjectById_some hget]
      rfl

theorem SubjectStore.serves_getSubjectByIdAdmin (s : SubjectStore) (subjectId : ℕ) :
    s.Serves (.getSubjectByIdAdmin subjectId) (s.serve (.getSubjectByIdAdmin subjectId)) := by
  simp only [SubjectStore.serve, SubjectRequest.service, Prog.run_map,
    SubjectServiceAdmin.getSubjectById, SubjectProg.run_cachedSubject]
  cases hcache : s.cache (.subjectDetailKeyAdmin subjectId) with
  | some value => exact .hitAdmin subjectId value hcache
  | none =>
    cases hget : Keyed.get? s.rows subjectId with
    | none =>
      exact .missing _ subjectId rfl hget
    | some g => exact .missAdmin subjectId g hcache hget

theorem SubjectStore.serves_getSubjectByIdDirector (s : SubjectStore) (subjectId : ℕ) :
    s.Serves (.getSubjectByIdDirector subjectId) (s.serve (.getSubjectByIdDirector subjectId)) := by
  simp only [SubjectStore.serve, SubjectRequest.service, Prog.run_map,
    SubjectServiceDirector.getSubjectById, SubjectProg.run_cachedSubject]
  cases hcache : s.cache (.subjectDetailKeyStaff subjectId) with
  | some value => exact .hitStaff subjectId value hcache
  | none =>
    cases hget : Keyed.get? s.rows subjectId with
    | none =>
      exact .missing _ subjectId rfl hget
    | some g => exact .missStaff subjectId g hcache hget

/-- **How an operation ends.** -/
theorem SubjectStore.serves (s : SubjectStore) (r : SubjectRequest) : s.Serves r (s.serve r) := by
  cases r with
  | createSubject r => exact s.serves_createSubject r
  | updateSubject subjectId r => exact s.serves_updateSubject subjectId r
  | archiveSubject subjectId => exact s.serves_archiveSubject subjectId
  | restoreSubject subjectId => exact s.serves_restoreSubject subjectId
  | getSubjectByIdAdmin subjectId => exact s.serves_getSubjectByIdAdmin subjectId
  | getSubjectByIdDirector subjectId => exact s.serves_getSubjectByIdDirector subjectId

end SmsLite
