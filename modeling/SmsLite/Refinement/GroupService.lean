import SmsLite.GroupService

/-!
# What the group operations do

Every operation on the groups, served from beginning to end, in closed form: how it ends,
and what it leaves in the table and in the cache.

## Main definitions

* `GroupStore.forgetting` — the cache without some keys.
* `DbError.groupExn` — what a failed commit ends in.
* `GroupStore.Takes`, `GroupStore.Updates` — when the database takes new values, and an update
  goes through.
* `GroupRequest.groupId?` — the group an operation is about.
* `GroupStore.Serves` — the ways an operation ends, with the store it leaves.
* `GroupStore.Change` — what may become of the table.

## Main results

* `GroupStore.serves` — **how an operation ends**.
* `GroupStore.after_updateGroup` — the store after an update.
* `GroupStore.change` — **what an operation does to the table**.
-/

namespace SmsLite

open Interleave

/-- The cache without the keys. -/
def GroupStore.forgetting (s : GroupStore) (keys : List GroupCacheKey) :
    GroupCacheKey → Option GroupCacheValue :=
  fun key => if key ∈ keys then none else s.cache key

variable {s : GroupStore}

/-- What a reader makes of a dump. -/
def ensureValid {α : Type} : Option α → Except Exn α
  | some response => .ok response
  | none => .error (.valueError "validation error")

/-- The exception of a failed commit inside a `try`. -/
def DbError.groupExn : DbError → Exn
  | .data orig => .dbapiError orig
  | .integrity orig =>
    if pyIn "uix_group_name_academic_year" orig then
      .app .groupNameYearAlreadyExistsError HTTP409.groupName
    else .integrityError orig

namespace GroupProg

variable {α β : Type}

theorem run_getGroupById_some {groupId : ℕ} {g : Group} (h : Keyed.get? s.rows groupId = some g)
    (f : Group → GroupProg β) :
    (getGroupById groupId >>= f).run GroupStmt.exec s = (f g).run GroupStmt.exec s := by
  simp only [getGroupById, Prog.call, Prog.stmt_bind, Prog.run_stmt, GroupStmt.exec, h]
  rfl

theorem run_getGroupById_none {groupId : ℕ} (h : Keyed.get? s.rows groupId = none)
    (f : Group → GroupProg β) :
    (getGroupById groupId >>= f).run GroupStmt.exec s =
      (.error (.app .groupNotFoundError HTTP404.group), s) := by
  simp only [getGroupById, Prog.call, Prog.stmt_bind, Prog.run_stmt, GroupStmt.exec, h]
  rfl

theorem run_now (f : Time → GroupProg β) :
    (now >>= f).run GroupStmt.exec s = (f s.clock).run GroupStmt.exec s := rfl

theorem run_refresh {groupId : ℕ} {g : Group} (h : Keyed.get? s.rows groupId = some g) :
    (refresh groupId).run GroupStmt.exec s = (.ok g, s) := by
  simp only [refresh, Prog.call, Prog.stmt_bind, Prog.run_stmt, GroupStmt.exec, h]
  rfl

/-- The handler of an error leaves the store alone. -/
theorem run_exceptIntegrityError (e : DbError) :
    (exceptIntegrityError e : GroupProg α).run GroupStmt.exec s = (.error e.groupExn, s) := by
  cases e with
  | data orig => rfl
  | integrity orig =>
    change (if pyIn "uix_group_name_academic_year" orig then
        Prog.raise (.app .groupNameYearAlreadyExistsError HTTP409.groupName)
      else Prog.raise (.integrityError orig) : GroupProg α).run GroupStmt.exec s = _
    simp only [DbError.groupExn]
    split <;> rfl

/-- The commit of the two archiving operations, and the deletion of the key of the
administrator. -/
theorem run_archiving {g : Group} {d : GroupDraft} {write : Group → Group}
    (hflush : s.flush g d = .ok write) :
    (do
      commitOrRaise g d
      deleteCache [.groupDetailKeyAdmin g.id] : GroupProg Unit).run GroupStmt.exec s =
      (.ok (), { s with
        rows := Keyed.modify s.rows g.id write
        cache := s.forgetting [.groupDetailKeyAdmin g.id] }) := by
  simp only [commitOrRaise, Prog.call, Prog.stmt_bind, Prog.pure_bind, Prog.run_stmt,
    GroupStmt.exec, hflush]
  rfl

/-- A reader, in closed form. -/
theorem run_cachedGroup (s : GroupStore) (key : GroupCacheKey) (groupId : ℕ)
    (validate : GroupCacheValue → Option α) (project : Group → GroupCacheValue)
    (respond : Group → α) :
    (cachedGroup key groupId validate project respond).run GroupStmt.exec s =
      match s.cache key, Keyed.get? s.rows groupId with
      | some value, _ => (ensureValid (validate value), s)
      | none, none => (.error (.app .groupNotFoundError HTTP404.group), s)
      | none, some g =>
        (.ok (respond g), { s with cache := Function.update s.cache key (some (project g)) }) := by
  unfold cachedGroup
  rw [Prog.run_call]
  simp only [GroupStmt.exec]
  cases s.cache key with
  | some value =>
    dsimp only
    cases validate value <;> rfl
  | none =>
    dsimp only
    cases hget : Keyed.get? s.rows groupId with
    | none => rw [run_getGroupById_none hget]
    | some g =>
      rw [run_getGroupById_some hget]
      rfl

end GroupProg

/-! ### Updates -/

/-- The database takes the new values of a loaded group: the changed numbers are in range,
and there is a name, which is free if it is new. -/
def GroupStore.Takes (s : GroupStore) (loaded : Group) (current : GroupDraft) : Prop :=
  (current.gradeLevel ≠ loaded.gradeLevel → outOfRange current.gradeLevel = false) ∧
    (current.capacity ≠ loaded.capacity → outOfRange current.capacity = false) ∧
    ∃ name, current.name = some name ∧
      (name ≠ loaded.name → s.taken loaded.id name current.academicYear = false)

/-- An update of the group goes through: the group exists, something changes, and the database
takes it. -/
structure GroupStore.Updates (s : GroupStore) (groupId : ℕ) (r : UpdateGroupAdmin) (g : Group) :
    Prop where
  found : Keyed.get? s.rows groupId = some g
  changed : r.assign g.draft ≠ g.draft
  taken : s.Takes g (r.assign g.draft)

/-- A flush fails if the database does not take the values. -/
theorem GroupStore.takes_of_flush {g : Group} {d : GroupDraft} {write : Group → Group}
    (h : s.flush g d = .ok write) : s.Takes g d := by
  unfold flush at h
  split at h
  · cases h
  · next hrange =>
    simp only [Bool.or_eq_true, Bool.and_eq_true, decide_eq_true_eq, not_or, not_and,
      Bool.not_eq_true] at hrange
    split at h
    · cases h
    · next name hname =>
      split at h
      · cases h
      · next hfree =>
        simp only [Bool.and_eq_true, decide_eq_true_eq, not_and, Bool.not_eq_true] at hfree
        exact ⟨hrange.1, hrange.2, name, hname, hfree⟩

/-- A flush of values the database takes leaves the id alone, and sets what it is given. -/
theorem GroupStore.Takes.flush {g : Group} {d : GroupDraft} (h : s.Takes g d) :
    ∃ write, s.flush g d = .ok write ∧ (∀ stored, (write stored).id = stored.id) ∧
      ∃ name, d.name = some name ∧
        write g = { g with
          name := name, gradeLevel := d.gradeLevel, capacity := d.capacity
          isArchived := d.isArchived, archivedAt := d.archivedAt } := by
  obtain ⟨hgrade, hcapacity, name, hname, hfree⟩ := h
  unfold GroupStore.flush
  rw [if_neg (by simpa using ⟨hgrade, hcapacity⟩), hname]
  dsimp only
  rw [if_neg (by simpa using hfree)]
  exact ⟨_, rfl, fun _ => rfl, name, rfl, by simp only [written_loaded]⟩

/-- An update that goes through changes what others see of the group. -/
theorem GroupStore.Updates.response_ne {groupId : ℕ} {r : UpdateGroupAdmin} {g : Group}
    (h : s.Updates groupId r g) {write : Group → Group} {name : String}
    (hname : (r.assign g.draft).name = some name)
    (hwrite : write g = { g with
      name := name, gradeLevel := (r.assign g.draft).gradeLevel
      capacity := (r.assign g.draft).capacity
      isArchived := (r.assign g.draft).isArchived
      archivedAt := (r.assign g.draft).archivedAt }) :
    (write g).response ≠ g.response := by
  rw [hwrite]
  intro hsame
  simp only [Group.response, GroupResponseBase.mk.injEq] at hsame
  obtain ⟨rfl, -, hgrade, hcapacity⟩ := hsame
  refine h.changed ?_
  -- An update assigns no other column, so values that read the same are the same draft.
  calc r.assign g.draft
      = { g.draft with
          name := (r.assign g.draft).name, gradeLevel := (r.assign g.draft).gradeLevel
          capacity := (r.assign g.draft).capacity } := rfl
    _ = g.draft := by
      rw [hname, hgrade, hcapacity]
      rfl

/-- A commit that changes neither the name nor a number goes through. -/
theorem GroupStore.takes_archived (s : GroupStore) (g : Group) (isArchived : Bool)
    (archivedAt : Option Time) :
    s.Takes g { g.draft with isArchived := isArchived, archivedAt := archivedAt } :=
  ⟨fun h => absurd rfl h, fun h => absurd rfl h, g.name, rfl, fun h => absurd rfl h⟩

/-! ### How the operations end -/

/-- The group an operation is about. -/
def GroupRequest.groupId? : GroupRequest → Option ℕ
  | createGroup _ => none
  | updateGroup groupId _ | archiveGroup groupId | restoreGroup groupId
  | getGroupByIdAdmin groupId | getGroupByIdDirector groupId => some groupId

/-- How an operation ends: its answer, and the store it leaves. -/
inductive GroupStore.Serves (s : GroupStore) :
    GroupRequest → Except Exn GroupResponse × GroupStore → Prop
  /-- A new group, which is then read back. -/
  | created (r : CreateGroupAdmin) (g : Group)
      (hrange : outOfRange r.gradeLevel = false ∧ outOfRange r.capacity = false)
      (hfree : s.taken s.idSeq r.name r.academicYear = false)
      (hget : Keyed.get? (s.rows ++ [r.row s.idSeq s.clock]) s.idSeq = some g) :
      s.Serves (.createGroup r)
        (.ok (.group g),
          { s with rows := s.rows ++ [r.row s.idSeq s.clock], idSeq := s.idSeq + 1 })
  /-- A number out of range, which fails before an id is drawn. -/
  | outOfRange (r : CreateGroupAdmin)
      (hrange : outOfRange r.gradeLevel = true ∨ outOfRange r.capacity = true) :
      s.Serves (.createGroup r) (.error (.dbapiError "value out of int32 range"), s)
  /-- A name that is taken. -/
  | duplicate (r : CreateGroupAdmin) (htaken : s.taken s.idSeq r.name r.academicYear = true) :
      s.Serves (.createGroup r)
        (.error (DbError.integrity (duplicateGroup r.name r.academicYear)).groupExn,
          { s with idSeq := s.idSeq + 1 })
  /-- A group that does not exist. -/
  | missing (r : GroupRequest) (groupId : ℕ) (hr : r.groupId? = some groupId)
      (hget : Keyed.get? s.rows groupId = none) :
      s.Serves r (.error (.app .groupNotFoundError HTTP404.group), s)
  /-- An update that changes nothing. -/
  | unchanged (groupId : ℕ) (q : UpdateGroupAdmin) (g : Group)
      (hget : Keyed.get? s.rows groupId = some g) (hsame : q.assign g.draft = g.draft) :
      s.Serves (.updateGroup groupId q)
        (.error (.app .noChangesDetectedError HTTP400.noChangesDetected), s)
  /-- An update the database refuses. -/
  | notUpdated (groupId : ℕ) (q : UpdateGroupAdmin) (g : Group) (e : DbError)
      (hget : Keyed.get? s.rows groupId = some g) (he : s.flush g (q.assign g.draft) = .error e) :
      s.Serves (.updateGroup groupId q) (.error e.groupExn, s)
  /-- An update. -/
  | updated (groupId : ℕ) (q : UpdateGroupAdmin) (g : Group) (write : Group → Group)
      (hupdates : s.Updates groupId q g) (hwrite : s.flush g (q.assign g.draft) = .ok write) :
      s.Serves (.updateGroup groupId q)
        (.ok .none,
          { s with
            rows := Keyed.modify s.rows groupId write
            cache := s.forgetting [.groupDetailKeyAdmin groupId, .groupDetailKeyStaff groupId] })
  /-- A group that is archived already. -/
  | notArchived (groupId : ℕ) (g : Group) (hget : Keyed.get? s.rows groupId = some g)
      (harchived : g.isArchived = true) :
      s.Serves (.archiveGroup groupId)
        (.error (.app .groupAlreadyArchivedError "Group is already archived"), s)
  /-- Archiving. -/
  | archived (groupId : ℕ) (g : Group) (write : Group → Group)
      (hget : Keyed.get? s.rows groupId = some g)
      (hwrite : s.flush g { g.draft with isArchived := true, archivedAt := some s.clock } =
        .ok write) :
      s.Serves (.archiveGroup groupId)
        (.ok .none,
          { s with
            rows := Keyed.modify s.rows groupId write
            cache := s.forgetting [.groupDetailKeyAdmin groupId] })
  /-- A group that is restored already. -/
  | notRestored (groupId : ℕ) (g : Group) (hget : Keyed.get? s.rows groupId = some g)
      (hopen : g.isArchived = false) :
      s.Serves (.restoreGroup groupId)
        (.error (.app .groupIsNotArchivedError
          "Group is already restored or has not been archived"), s)
  /-- Restoring. -/
  | restored (groupId : ℕ) (g : Group) (write : Group → Group)
      (hget : Keyed.get? s.rows groupId = some g)
      (hwrite : s.flush g { g.draft with isArchived := false, archivedAt := none } = .ok write) :
      s.Serves (.restoreGroup groupId)
        (.ok .none,
          { s with
            rows := Keyed.modify s.rows groupId write
            cache := s.forgetting [.groupDetailKeyAdmin groupId] })
  /-- An administrator's read that finds an entry. -/
  | hitAdmin (groupId : ℕ) (value : GroupCacheValue)
      (hhit : s.cache (.groupDetailKeyAdmin groupId) = some value) :
      s.Serves (.getGroupByIdAdmin groupId) ((ensureValid value.admin?).map .admin, s)
  /-- A director's read that finds an entry. -/
  | hitStaff (groupId : ℕ) (value : GroupCacheValue)
      (hhit : s.cache (.groupDetailKeyStaff groupId) = some value) :
      s.Serves (.getGroupByIdDirector groupId) ((ensureValid value.staff?).map .staff, s)
  /-- An administrator's read that fills the entry. -/
  | missAdmin (groupId : ℕ) (g : Group) (hget : Keyed.get? s.rows groupId = some g) :
      s.Serves (.getGroupByIdAdmin groupId)
        (.ok (.admin g.adminCache),
          { s with
            cache := Function.update s.cache (.groupDetailKeyAdmin groupId)
              (some (.admin g.adminCache)) })
  /-- A director's read that fills the entry. -/
  | missStaff (groupId : ℕ) (g : Group) (hget : Keyed.get? s.rows groupId = some g) :
      s.Serves (.getGroupByIdDirector groupId)
        (.ok (.staff g.directorCache),
          { s with
            cache := Function.update s.cache (.groupDetailKeyStaff groupId)
              (some (.staff g.directorCache)) })

theorem GroupStore.serves_createGroup (s : GroupStore) (r : CreateGroupAdmin) :
    s.Serves (.createGroup r) (s.serve (.createGroup r)) := by
  simp only [GroupStore.serve, GroupRequest.service, Prog.run_map, GroupServiceAdmin.createGroup]
  rw [Prog.run_call]
  -- Numbers out of range fail before an id is drawn, a taken name after.
  by_cases hrange : (outOfRange r.gradeLevel || outOfRange r.capacity) = true
  · have hexec : (GroupStmt.insert r).exec s =
        (.error (.data "value out of int32 range"), s) := by
      simp only [GroupStmt.exec, hrange, if_true]
    rw [hexec]
    exact .outOfRange r (by simpa using hrange)
  · by_cases htaken : s.taken s.idSeq r.name r.academicYear = true
    · have hexec : (GroupStmt.insert r).exec s =
          (.error (.integrity (duplicateGroup r.name r.academicYear)),
            { s with idSeq := s.idSeq + 1 }) := by
        simp only [GroupStmt.exec, hrange, htaken, if_true]
        rfl
      rw [hexec]
      dsimp only
      rw [GroupProg.run_exceptIntegrityError]
      exact .duplicate r htaken
    · have hexec : (GroupStmt.insert r).exec s =
          (.ok s.idSeq,
            { s with rows := s.rows ++ [r.row s.idSeq s.clock], idSeq := s.idSeq + 1 }) := by
        simp only [GroupStmt.exec, hrange, htaken]
        rfl
      rw [hexec]
      dsimp only
      have hnew : ∃ g, Keyed.get? (s.rows ++ [r.row s.idSeq s.clock]) s.idSeq = some g := by
        rw [← Option.isSome_iff_exists, Keyed.get?_isSome_iff, Keyed.keys_concat]
        exact List.mem_append_right _ (List.mem_singleton_self _)
      obtain ⟨g, hg⟩ := hnew
      rw [GroupProg.run_refresh hg]
      exact .created r g (by simpa using hrange) (by simpa using htaken) hg

theorem GroupStore.serves_updateGroup (s : GroupStore) (groupId : ℕ) (r : UpdateGroupAdmin) :
    s.Serves (.updateGroup groupId r) (s.serve (.updateGroup groupId r)) := by
  simp only [GroupStore.serve, GroupRequest.service, Prog.run_map, GroupServiceAdmin.updateGroup]
  cases hget : Keyed.get? s.rows groupId with
  | none =>
    rw [GroupProg.run_getGroupById_none hget]
    exact .missing _ groupId rfl hget
  | some g =>
    have hid : g.id = groupId := Keyed.key_of_get? hget
    rw [GroupProg.run_getGroupById_some hget]
    by_cases hsame : r.assign g.draft = g.draft
    · rw [if_pos hsame]
      exact .unchanged groupId r g hget hsame
    · rw [if_neg hsame, Prog.run_call]
      cases hflush : s.flush g (r.assign g.draft) with
      | error e =>
        simp only [GroupStmt.exec, hflush]
        rw [GroupProg.run_exceptIntegrityError]
        exact .notUpdated groupId r g e hget hflush
      | ok write =>
        have htakes : s.Takes g (r.assign g.draft) := GroupStore.takes_of_flush hflush
        obtain ⟨write', hflush', hwrite, -⟩ := htakes.flush
        obtain rfl : write = write' := Except.ok.inj (hflush.symm.trans hflush')
        simp only [GroupStmt.exec, hflush]
        -- The row that is refreshed after the commit is there.
        have hnew : Keyed.get? (Keyed.modify s.rows g.id write) groupId = some (write g) := by
          rw [hid, Keyed.get?_modify_self _ _ hwrite, hget]
          rfl
        rw [Prog.run_bind, GroupProg.run_refresh hnew, hid]
        exact .updated groupId r g write ⟨hget, hsame, htakes⟩ hflush

theorem GroupStore.serves_archiveGroup (s : GroupStore) (groupId : ℕ) :
    s.Serves (.archiveGroup groupId) (s.serve (.archiveGroup groupId)) := by
  simp only [GroupStore.serve, GroupRequest.service, Prog.run_map, GroupServiceAdmin.archiveGroup]
  cases hget : Keyed.get? s.rows groupId with
  | none =>
    rw [GroupProg.run_getGroupById_none hget]
    exact .missing _ groupId rfl hget
  | some g =>
    obtain rfl : g.id = groupId := Keyed.key_of_get? hget
    rw [GroupProg.run_getGroupById_some hget]
    by_cases hguard : (g.isArchived && g.archivedAt.isSome) = true
    · rw [if_pos hguard]
      rw [Bool.and_eq_true] at hguard
      exact .notArchived g.id g hget hguard.1
    · obtain ⟨write, hflush, -⟩ := (s.takes_archived g true (some s.clock)).flush
      rw [if_neg hguard, GroupProg.run_now, GroupProg.run_archiving hflush]
      exact .archived g.id g write hget hflush

theorem GroupStore.serves_restoreGroup (s : GroupStore) (groupId : ℕ) :
    s.Serves (.restoreGroup groupId) (s.serve (.restoreGroup groupId)) := by
  simp only [GroupStore.serve, GroupRequest.service, Prog.run_map, GroupServiceAdmin.restoreGroup]
  cases hget : Keyed.get? s.rows groupId with
  | none =>
    rw [GroupProg.run_getGroupById_none hget]
    exact .missing _ groupId rfl hget
  | some g =>
    obtain rfl : g.id = groupId := Keyed.key_of_get? hget
    rw [GroupProg.run_getGroupById_some hget]
    by_cases hguard : (!g.isArchived && g.archivedAt.isNone) = true
    · rw [if_pos hguard]
      rw [Bool.and_eq_true, Bool.not_eq_true'] at hguard
      exact .notRestored g.id g hget hguard.1
    · obtain ⟨write, hflush, -⟩ := (s.takes_archived g false none).flush
      rw [if_neg hguard, GroupProg.run_archiving hflush]
      exact .restored g.id g write hget hflush

theorem GroupStore.serves_getGroupByIdAdmin (s : GroupStore) (groupId : ℕ) :
    s.Serves (.getGroupByIdAdmin groupId) (s.serve (.getGroupByIdAdmin groupId)) := by
  simp only [GroupStore.serve, GroupRequest.service, Prog.run_map,
    GroupServiceAdmin.getGroupById, GroupProg.run_cachedGroup]
  cases hcache : s.cache (.groupDetailKeyAdmin groupId) with
  | some value => exact .hitAdmin groupId value hcache
  | none =>
    cases hget : Keyed.get? s.rows groupId with
    | none => exact .missing _ groupId rfl hget
    | some g => exact .missAdmin groupId g hget

theorem GroupStore.serves_getGroupByIdDirector (s : GroupStore) (groupId : ℕ) :
    s.Serves (.getGroupByIdDirector groupId) (s.serve (.getGroupByIdDirector groupId)) := by
  simp only [GroupStore.serve, GroupRequest.service, Prog.run_map,
    GroupServiceDirector.getGroupById, GroupProg.run_cachedGroup]
  cases hcache : s.cache (.groupDetailKeyStaff groupId) with
  | some value => exact .hitStaff groupId value hcache
  | none =>
    cases hget : Keyed.get? s.rows groupId with
    | none => exact .missing _ groupId rfl hget
    | some g => exact .missStaff groupId g hget

/-- **How an operation ends.** -/
theorem GroupStore.serves (s : GroupStore) (r : GroupRequest) : s.Serves r (s.serve r) := by
  cases r with
  | createGroup r => exact s.serves_createGroup r
  | updateGroup groupId r => exact s.serves_updateGroup groupId r
  | archiveGroup groupId => exact s.serves_archiveGroup groupId
  | restoreGroup groupId => exact s.serves_restoreGroup groupId
  | getGroupByIdAdmin groupId => exact s.serves_getGroupByIdAdmin groupId
  | getGroupByIdDirector groupId => exact s.serves_getGroupByIdDirector groupId

/-! ### What becomes of the table -/

/-- An update changes what others see of the group, or leaves the store alone. -/
theorem GroupStore.after_updateGroup (s : GroupStore) (groupId : ℕ) (r : UpdateGroupAdmin) :
    (∃ g write, s.Updates groupId r g ∧ (∀ stored, (write stored).id = stored.id) ∧
      (write g).response ≠ g.response ∧
      s.after (.updateGroup groupId r) =
        { s with
          rows := Keyed.modify s.rows groupId write
          cache := s.forgetting [.groupDetailKeyAdmin groupId, .groupDetailKeyStaff groupId] }) ∨
    ((∀ g, ¬ s.Updates groupId r g) ∧ s.after (.updateGroup groupId r) = s) := by
  have hserves := s.serves (.updateGroup groupId r)
  unfold GroupStore.after
  generalize s.serve (.updateGroup groupId r) = served at hserves
  cases hserves with
  | missing _ groupId' hr hget =>
    cases hr
    refine Or.inr ⟨fun g hupdates => ?_, rfl⟩
    cases hget.symm.trans hupdates.found
  | unchanged groupId q g hget hsame =>
    refine Or.inr ⟨fun g' hupdates => ?_, rfl⟩
    obtain rfl := Keyed.get?_inj hget hupdates.found
    exact hupdates.changed hsame
  | notUpdated groupId q g e hget he =>
    refine Or.inr ⟨fun g' hupdates => ?_, rfl⟩
    obtain rfl := Keyed.get?_inj hget hupdates.found
    obtain ⟨write, hflush, -⟩ := hupdates.taken.flush
    cases he.symm.trans hflush
  | updated groupId q g write hupdates hwrite =>
    obtain ⟨write', hflush, hid, name, hname, hg⟩ := hupdates.taken.flush
    obtain rfl : write = write' := Except.ok.inj (hwrite.symm.trans hflush)
    exact Or.inl ⟨g, write, hupdates, hid, hupdates.response_ne hname hg, rfl⟩

/-- What a flush of the two archiving operations writes. -/
theorem GroupStore.flush_archived {g : Group} {isArchived : Bool} {archivedAt : Option Time}
    {write : Group → Group}
    (h : s.flush g { g.draft with isArchived := isArchived, archivedAt := archivedAt } =
      .ok write) :
    (∀ stored, (write stored).id = stored.id) ∧
      write g = { g with isArchived := isArchived, archivedAt := archivedAt } := by
  obtain ⟨write', hflush, hid, name, hname, hwrite⟩ :=
    (s.takes_archived g isArchived archivedAt).flush
  obtain rfl : write = write' := Except.ok.inj (h.symm.trans hflush)
  cases hname
  exact ⟨hid, hwrite⟩

/-- What an operation may do to the table. -/
inductive GroupStore.Change (s s' : GroupStore) (r : GroupRequest) : Prop
  /-- Nothing. -/
  | none (hrows : s'.rows = s.rows) (hseq : s.idSeq ≤ s'.idSeq)
  /-- A group under a new id. -/
  | added (g : Group) (hid : g.id = s.idSeq) (hrows : s'.rows = s.rows ++ [g])
      (hseq : s'.idSeq = s.idSeq + 1)
  /-- A group is rewritten; others see it only after an update that goes through. -/
  | rewritten (groupId : ℕ) (g : Group) (write : Group → Group)
      (hget : Keyed.get? s.rows groupId = some g) (hid : ∀ stored, (write stored).id = stored.id)
      (hrows : s'.rows = Keyed.modify s.rows groupId write) (hseq : s'.idSeq = s.idSeq)
      (hseen : (write g).response = g.response ∨
        ∃ q, r = .updateGroup groupId q ∧ s.Updates groupId q g)

/-- **What an operation does to the table.** -/
theorem GroupStore.change (s : GroupStore) (r : GroupRequest) : s.Change (s.after r) r := by
  have hserves := s.serves r
  unfold GroupStore.after
  generalize s.serve r = served at hserves
  cases hserves with
  | created r g hrange hfree hget => exact .added (r.row s.idSeq s.clock) rfl rfl rfl
  | outOfRange | missing | unchanged | notUpdated | notArchived | notRestored | hitAdmin | hitStaff
  | missAdmin | missStaff => exact .none rfl le_rfl
  | duplicate r htaken => exact .none rfl (Nat.le_succ _)
  | updated groupId q g write hupdates hwrite =>
    obtain ⟨write', hflush, hid, -⟩ := hupdates.taken.flush
    obtain rfl : write = write' := Except.ok.inj (hwrite.symm.trans hflush)
    exact .rewritten groupId g write hupdates.found hid rfl rfl (Or.inr ⟨q, rfl, hupdates⟩)
  | archived groupId g write hget hwrite =>
    obtain ⟨hid, hg⟩ := GroupStore.flush_archived hwrite
    exact .rewritten groupId g write hget hid rfl rfl (Or.inl (by rw [hg]; rfl))
  | restored groupId g write hget hwrite =>
    obtain ⟨hid, hg⟩ := GroupStore.flush_archived hwrite
    exact .rewritten groupId g write hget hid rfl rfl (Or.inl (by rw [hg]; rfl))

end SmsLite
