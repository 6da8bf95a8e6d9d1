import SmsLite.Lib.CacheAside
import SmsLite.Lib.Run
import SmsLite.Refinement.SubjectService

/-!
# Are the cached groups and subjects current?

A group, and likewise a subject, has one entry for administrators and one for directors.  An
update deletes both; archiving and restoring delete the administrators' only, although the
directors' shows `is_archived` too.  This module proves that nothing else makes an entry stale.

## Main definitions

* `GroupStore.view`, `SubjectStore.view` — what each key should show.
* `GroupStore.Faithful`, `SubjectStore.Faithful` — entries and readers show the rows.
* `Catalogue`, `CatalogueEvent` — both services, with the expiry of entries.
* `Catalogue.Stales` — an event after which an entry is stale.

## Main results

* `GroupStore.Current.after_iff`, `SubjectStore.Current.after_iff` — an operation keeps the
  entries current exactly if it is no archiving under a cached entry of the directors.
* `catalogue_faithful_iff` — **the entries and the readers show the rows throughout a run exactly
  if no event of it is a `Catalogue.Stales`**.
-/

namespace SmsLite

open CacheAside (View)

/-! ### Groups -/

/-- What each key of a group should show. -/
def GroupStore.view : View ℕ Group GroupCacheKey GroupCacheValue where
  owner
    | .groupDetailKeyAdmin groupId => groupId
    | .groupDetailKeyStaff groupId => groupId
  project
    | .groupDetailKeyAdmin _ => fun g => .admin g.adminCache
    | .groupDetailKeyStaff _ => fun g => .staff g.directorCache

/-- Every entry that is present shows its row. -/
def GroupStore.Current (s : GroupStore) : Prop :=
  GroupStore.view.Current (Keyed.get? s.rows) s.cache

/-- The entries are current, and both readers show the row. -/
structure GroupStore.Faithful (s : GroupStore) : Prop where
  current : s.Current
  admin : ∀ groupId g, Keyed.get? s.rows groupId = some g →
    (s.serve (.getGroupByIdAdmin groupId)).1 = .ok (.admin g.adminCache)
  director : ∀ groupId g, Keyed.get? s.rows groupId = some g →
    (s.serve (.getGroupByIdDirector groupId)).1 = .ok (.staff g.directorCache)

/-- The operation archives a group that is not archived, or restores one that is, and the entry
for directors is cached. -/
def GroupStore.Stales (s : GroupStore) (r : GroupRequest) : Prop :=
  ∃ groupId g, Keyed.get? s.rows groupId = some g ∧
    s.cache (.groupDetailKeyStaff groupId) ≠ none ∧
    (r = .archiveGroup groupId ∧ g.isArchived = false ∨
      r = .restoreGroup groupId ∧ g.isArchived = true)

section Groups

variable {s : GroupStore}

/-- A key is one of the two of its group. -/
theorem GroupStore.mem_keys (key : GroupCacheKey) :
    key ∈ [GroupCacheKey.groupDetailKeyAdmin (GroupStore.view.owner key),
      .groupDetailKeyStaff (GroupStore.view.owner key)] := by
  cases key
  · exact .head _
  · exact .tail _ (.head _)

/-- Current entries make faithful readers. -/
theorem GroupStore.Current.faithful (h : s.Current) : s.Faithful := by
  refine ⟨h, fun groupId g hget => ?_, fun groupId g hget => ?_⟩
  · have hserves := s.serves (.getGroupByIdAdmin groupId)
    generalize s.serve (.getGroupByIdAdmin groupId) = served at hserves
    cases hserves with
    | missing _ groupId' hr hmissing =>
      cases hr
      cases hmissing.symm.trans hget
    | hitAdmin _ value hhit =>
      obtain ⟨g', hg', rfl⟩ := View.Current.hit h hhit
      obtain rfl := Keyed.get?_inj hget hg'
      rfl
    | missAdmin _ g' hget' =>
      obtain rfl := Keyed.get?_inj hget hget'
      rfl
  · have hserves := s.serves (.getGroupByIdDirector groupId)
    generalize s.serve (.getGroupByIdDirector groupId) = served at hserves
    cases hserves with
    | missing _ groupId' hr hmissing =>
      cases hr
      cases hmissing.symm.trans hget
    | hitStaff _ value hhit =>
      obtain ⟨g', hg', rfl⟩ := View.Current.hit h hhit
      obtain rfl := Keyed.get?_inj hget hg'
      rfl
    | missStaff _ g' hget' =>
      obtain rfl := Keyed.get?_inj hget hget'
      rfl

/-- The two archiving operations leave the entry of the directors as it was. -/
theorem GroupStore.Current.archiving_iff (h : s.Current) {groupId : ℕ} {g : Group}
    {isArchived : Bool} {archivedAt : Option Time} {write : Group → Group}
    (hget : Keyed.get? s.rows groupId = some g)
    (hwrite : s.flush g { g.draft with isArchived := isArchived, archivedAt := archivedAt } =
      .ok write) :
    GroupStore.Current
        { s with
          rows := Keyed.modify s.rows groupId write
          cache := s.forgetting [.groupDetailKeyAdmin groupId] } ↔
      (s.cache (.groupDetailKeyStaff groupId) ≠ none → g.isArchived = isArchived) := by
  obtain ⟨hid, hg⟩ := GroupStore.flush_archived hwrite
  have hiff : GroupStore.view.Current (Keyed.get? (Keyed.modify s.rows groupId write))
      (s.forgetting [.groupDetailKeyAdmin groupId]) ↔ _ :=
    View.current_modify_iff h hget hid [.groupDetailKeyAdmin groupId]
  refine hiff.trans ⟨fun hsame hcached => ?_, fun himp e howner hstays hcached => ?_⟩
  · have hshown := hsame (.groupDetailKeyStaff groupId) rfl (by simp) hcached
    rw [hg] at hshown
    exact (congrArg GroupResponseDirectorCache.isArchived
      (GroupCacheValue.staff.inj hshown)).symm
  · cases e with
    | groupDetailKeyAdmin groupId' =>
      obtain rfl : groupId' = groupId := howner
      exact absurd (List.mem_singleton_self _) hstays
    | groupDetailKeyStaff groupId' =>
      obtain rfl : groupId' = groupId := howner
      have hsame : g.isArchived = isArchived := himp hcached
      rw [hg, ← hsame]
      rfl

/-- Only the two archiving operations make an entry stale. -/
theorem GroupStore.not_stales {r : GroupRequest} (harchive : ∀ groupId, r ≠ .archiveGroup groupId)
    (hrestore : ∀ groupId, r ≠ .restoreGroup groupId) : ¬ s.Stales r := by
  rintro ⟨groupId, _, -, -, ⟨hr, -⟩ | ⟨hr, -⟩⟩
  · exact harchive groupId hr
  · exact hrestore groupId hr

theorem GroupStore.stales_archiveGroup_iff {groupId : ℕ} {g : Group}
    (hget : Keyed.get? s.rows groupId = some g) :
    s.Stales (.archiveGroup groupId) ↔
      s.cache (.groupDetailKeyStaff groupId) ≠ none ∧ g.isArchived = false := by
  constructor
  · rintro ⟨groupId', g', hget', hcached, ⟨hr, hopen⟩ | ⟨hr, -⟩⟩
    · cases hr
      obtain rfl := Keyed.get?_inj hget hget'
      exact ⟨hcached, hopen⟩
    · cases hr
  · rintro ⟨hcached, hopen⟩
    exact ⟨groupId, g, hget, hcached, Or.inl ⟨rfl, hopen⟩⟩

theorem GroupStore.stales_restoreGroup_iff {groupId : ℕ} {g : Group}
    (hget : Keyed.get? s.rows groupId = some g) :
    s.Stales (.restoreGroup groupId) ↔
      s.cache (.groupDetailKeyStaff groupId) ≠ none ∧ g.isArchived = true := by
  constructor
  · rintro ⟨groupId', g', hget', hcached, ⟨hr, -⟩ | ⟨hr, harchived⟩⟩
    · cases hr
    · cases hr
      obtain rfl := Keyed.get?_inj hget hget'
      exact ⟨hcached, harchived⟩
  · rintro ⟨hcached, harchived⟩
    exact ⟨groupId, g, hget, hcached, Or.inr ⟨rfl, harchived⟩⟩

/-- **An operation keeps the entries current exactly if it is no archiving under a cached entry
of the directors.** -/
theorem GroupStore.Current.after_iff (h : s.Current) (r : GroupRequest) :
    (s.after r).Current ↔ ¬ s.Stales r := by
  have hserves := s.serves r
  unfold GroupStore.after
  generalize s.serve r = served at hserves
  cases hserves with
  | created r g hrange hfree hget =>
    refine iff_of_true (h.insert fun k g' hk => ?_) (not_stales (by simp) (by simp))
    rw [Keyed.get?, List.find?_append]
    exact Option.or_eq_some_iff.mpr (Or.inl hk)
  | outOfRange | unchanged | duplicate | notUpdated | hitAdmin | hitStaff =>
    exact iff_of_true h (not_stales (by simp) (by simp))
  | missing r groupId hr hmissing =>
    refine iff_of_true h ?_
    rintro ⟨groupId', g, hget, -, ⟨rfl, -⟩ | ⟨rfl, -⟩⟩ <;> cases hr <;>
      cases hmissing.symm.trans hget
  | updated groupId q g write hupdates hwrite =>
    obtain ⟨write', hflush, hid, -⟩ := hupdates.taken.flush
    obtain rfl : write = write' := Except.ok.inj (hwrite.symm.trans hflush)
    have hiff : GroupStore.view.Current (Keyed.get? (Keyed.modify s.rows groupId write))
        (s.forgetting [.groupDetailKeyAdmin groupId, .groupDetailKeyStaff groupId]) ↔ _ :=
      View.current_modify_iff h hupdates.found hid _
    refine iff_of_true (hiff.mpr fun e howner hstays => ?_) (not_stales (by simp) (by simp))
    -- Both entries of the group are deleted.
    subst howner
    exact absurd (GroupStore.mem_keys e) hstays
  | notArchived groupId g hget harchived =>
    rw [stales_archiveGroup_iff hget, harchived]
    refine iff_of_true h ?_
    rintro ⟨-, hopen⟩
    cases hopen
  | archived groupId g write hget hwrite =>
    rw [stales_archiveGroup_iff hget, not_and, ← Bool.not_eq_true, not_not]
    exact h.archiving_iff hget hwrite
  | notRestored groupId g hget hopen =>
    rw [stales_restoreGroup_iff hget, hopen]
    refine iff_of_true h ?_
    rintro ⟨-, harchived⟩
    cases harchived
  | restored groupId g write hget hwrite =>
    rw [stales_restoreGroup_iff hget, not_and, ← Bool.not_eq_false, not_not]
    exact h.archiving_iff hget hwrite
  | missAdmin groupId g hget =>
    exact iff_of_true (View.Current.fill (e := .groupDetailKeyAdmin groupId) h hget)
      (not_stales (by simp) (by simp))
  | missStaff groupId g hget =>
    exact iff_of_true (View.Current.fill (e := .groupDetailKeyStaff groupId) h hget)
      (not_stales (by simp) (by simp))

end Groups

/-! ### Subjects -/

/-- What each key of a subject should show. -/
def SubjectStore.view : View ℕ Subject SubjectCacheKey SubjectCacheValue where
  owner
    | .subjectDetailKeyAdmin subjectId => subjectId
    | .subjectDetailKeyStaff subjectId => subjectId
  project
    | .subjectDetailKeyAdmin _ => fun g => .admin g.adminCache
    | .subjectDetailKeyStaff _ => fun g => .staff g.directorCache

/-- Every entry that is present shows its row. -/
def SubjectStore.Current (s : SubjectStore) : Prop :=
  SubjectStore.view.Current (Keyed.get? s.rows) s.cache

/-- The entries are current, and both readers show the row. -/
structure SubjectStore.Faithful (s : SubjectStore) : Prop where
  current : s.Current
  admin : ∀ subjectId g, Keyed.get? s.rows subjectId = some g →
    (s.serve (.getSubjectByIdAdmin subjectId)).1 = .ok (.admin g.adminCache)
  director : ∀ subjectId g, Keyed.get? s.rows subjectId = some g →
    (s.serve (.getSubjectByIdDirector subjectId)).1 = .ok (.staff g.directorCache)

/-- The operation archives a subject that is not archived, or restores one that is, and the entry
for directors is cached. -/
def SubjectStore.Stales (s : SubjectStore) (r : SubjectRequest) : Prop :=
  ∃ subjectId g, Keyed.get? s.rows subjectId = some g ∧
    s.cache (.subjectDetailKeyStaff subjectId) ≠ none ∧
    (r = .archiveSubject subjectId ∧ g.isArchived = false ∧ g.archivedAt = none ∨
      r = .restoreSubject subjectId ∧ g.isArchived = true ∧ g.archivedAt ≠ none)

section Subjects

variable {s : SubjectStore}

/-- A key is one of the two of its subject. -/
theorem SubjectStore.mem_keys (key : SubjectCacheKey) :
    key ∈ [SubjectCacheKey.subjectDetailKeyAdmin (SubjectStore.view.owner key),
      .subjectDetailKeyStaff (SubjectStore.view.owner key)] := by
  cases key
  · exact .head _
  · exact .tail _ (.head _)

/-- Current entries make faithful readers. -/
theorem SubjectStore.Current.faithful (h : s.Current) : s.Faithful := by
  refine ⟨h, fun subjectId g hget => ?_, fun subjectId g hget => ?_⟩
  · have hserves := s.serves (.getSubjectByIdAdmin subjectId)
    generalize s.serve (.getSubjectByIdAdmin subjectId) = served at hserves
    cases hserves with
    | missing _ subjectId' hr hmissing =>
      cases hr
      cases hmissing.symm.trans hget
    | hitAdmin _ value hhit =>
      obtain ⟨g', hg', rfl⟩ := View.Current.hit h hhit
      obtain rfl := Keyed.get?_inj hget hg'
      rfl
    | missAdmin _ g' hcold hget' =>
      obtain rfl := Keyed.get?_inj hget hget'
      rfl
  · have hserves := s.serves (.getSubjectByIdDirector subjectId)
    generalize s.serve (.getSubjectByIdDirector subjectId) = served at hserves
    cases hserves with
    | missing _ subjectId' hr hmissing =>
      cases hr
      cases hmissing.symm.trans hget
    | hitStaff _ value hhit =>
      obtain ⟨g', hg', rfl⟩ := View.Current.hit h hhit
      obtain rfl := Keyed.get?_inj hget hg'
      rfl
    | missStaff _ g' hcold hget' =>
      obtain rfl := Keyed.get?_inj hget hget'
      rfl

/-- The two archiving operations leave the entry of the directors as it was. -/
theorem SubjectStore.Current.archiving_iff (h : s.Current) {subjectId : ℕ} {g : Subject}
    {isArchived : Bool} {archivedAt : Option Time} {write : Subject → Subject}
    (hget : Keyed.get? s.rows subjectId = some g)
    (hwrite : s.flush g { g.draft with isArchived := isArchived, archivedAt := archivedAt } =
      .ok write) :
    SubjectStore.Current
        { s with
          rows := Keyed.modify s.rows subjectId write
          cache := s.forgetting [.subjectDetailKeyAdmin subjectId] } ↔
      (s.cache (.subjectDetailKeyStaff subjectId) ≠ none → g.isArchived = isArchived) := by
  obtain ⟨hid, name, code, hname, hcode, -, hg⟩ := SubjectStore.flush_ok hwrite
  cases hname
  cases hcode
  have hiff : SubjectStore.view.Current (Keyed.get? (Keyed.modify s.rows subjectId write))
      (s.forgetting [.subjectDetailKeyAdmin subjectId]) ↔ _ :=
    View.current_modify_iff h hget hid [.subjectDetailKeyAdmin subjectId]
  refine hiff.trans ⟨fun hsame hcached => ?_, fun himp e howner hstays hcached => ?_⟩
  · have hshown := hsame (.subjectDetailKeyStaff subjectId) rfl (by simp) hcached
    rw [hg] at hshown
    exact (congrArg SubjectResponseDirectorCache.isArchived
      (SubjectCacheValue.staff.inj hshown)).symm
  · cases e with
    | subjectDetailKeyAdmin subjectId' =>
      obtain rfl : subjectId' = subjectId := howner
      exact absurd (List.mem_singleton_self _) hstays
    | subjectDetailKeyStaff subjectId' =>
      obtain rfl : subjectId' = subjectId := howner
      have hsame : g.isArchived = isArchived := himp hcached
      rw [hg, ← hsame]
      rfl

/-- Only the two archiving operations make an entry stale. -/
theorem SubjectStore.not_stales {r : SubjectRequest}
    (harchive : ∀ subjectId, r ≠ .archiveSubject subjectId)
    (hrestore : ∀ subjectId, r ≠ .restoreSubject subjectId) : ¬ s.Stales r := by
  rintro ⟨subjectId, _, -, -, ⟨hr, -⟩ | ⟨hr, -⟩⟩
  · exact harchive subjectId hr
  · exact hrestore subjectId hr

theorem SubjectStore.stales_archiveSubject_iff {subjectId : ℕ} {g : Subject}
    (hget : Keyed.get? s.rows subjectId = some g) :
    s.Stales (.archiveSubject subjectId) ↔
      s.cache (.subjectDetailKeyStaff subjectId) ≠ none ∧
        g.isArchived = false ∧ g.archivedAt = none := by
  constructor
  · rintro ⟨subjectId', g', hget', hcached, ⟨hr, hopen⟩ | ⟨hr, -⟩⟩
    · cases hr
      obtain rfl := Keyed.get?_inj hget hget'
      exact ⟨hcached, hopen⟩
    · cases hr
  · rintro ⟨hcached, hopen⟩
    exact ⟨subjectId, g, hget, hcached, Or.inl ⟨rfl, hopen⟩⟩

theorem SubjectStore.stales_restoreSubject_iff {subjectId : ℕ} {g : Subject}
    (hget : Keyed.get? s.rows subjectId = some g) :
    s.Stales (.restoreSubject subjectId) ↔
      s.cache (.subjectDetailKeyStaff subjectId) ≠ none ∧
        g.isArchived = true ∧ g.archivedAt ≠ none := by
  constructor
  · rintro ⟨subjectId', g', hget', hcached, ⟨hr, -⟩ | ⟨hr, harchived⟩⟩
    · cases hr
    · cases hr
      obtain rfl := Keyed.get?_inj hget hget'
      exact ⟨hcached, harchived⟩
  · rintro ⟨hcached, harchived⟩
    exact ⟨subjectId, g, hget, hcached, Or.inr ⟨rfl, harchived⟩⟩

/-- **An operation keeps the entries current exactly if it is no archiving under a cached entry
of the directors.** -/
theorem SubjectStore.Current.after_iff (h : s.Current) (r : SubjectRequest) :
    (s.after r).Current ↔ ¬ s.Stales r := by
  have hserves := s.serves r
  unfold SubjectStore.after
  generalize s.serve r = served at hserves
  cases hserves with
  | created r g hlength hfree hget =>
    refine iff_of_true (h.insert fun k g' hk => ?_) (not_stales (by simp) (by simp))
    rw [Keyed.get?, List.find?_append]
    exact Option.or_eq_some_iff.mpr (Or.inl hk)
  | unchanged | notCreated | notUpdated | hitAdmin | hitStaff =>
    exact iff_of_true h (not_stales (by simp) (by simp))
  | missing r subjectId hr hmissing =>
    refine iff_of_true h ?_
    rintro ⟨subjectId', g, hget, -, ⟨rfl, -⟩ | ⟨rfl, -⟩⟩ <;> cases hr <;>
      cases hmissing.symm.trans hget
  | updated subjectId q g write hget hne hwrite =>
    have hid : ∀ stored, (write stored).id = stored.id := (SubjectStore.flush_ok hwrite).1
    have hiff : SubjectStore.view.Current (Keyed.get? (Keyed.modify s.rows subjectId write))
        (s.forgetting [.subjectDetailKeyAdmin subjectId, .subjectDetailKeyStaff subjectId]) ↔ _ :=
      View.current_modify_iff h hget hid _
    refine iff_of_true (hiff.mpr fun e howner hstays => ?_) (not_stales (by simp) (by simp))
    -- Both entries of the subject are deleted.
    subst howner
    exact absurd (SubjectStore.mem_keys e) hstays
  | notArchived subjectId g hget harchived =>
    rw [stales_archiveSubject_iff hget]
    refine iff_of_true h ?_
    rintro ⟨-, hopen, hnone⟩
    rcases harchived with harchived | hsome
    · cases harchived.symm.trans hopen
    · exact hsome hnone
  | archived subjectId g write hget hopen hnone hwrite =>
    rw [stales_archiveSubject_iff hget, not_and]
    refine (h.archiving_iff hget hwrite).trans (forall_congr' fun _ => ?_)
    exact iff_of_false (by simp [hopen]) (not_not.mpr ⟨hopen, hnone⟩)
  | notRestored subjectId g hget hopen =>
    rw [stales_restoreSubject_iff hget]
    refine iff_of_true h ?_
    rintro ⟨-, harchived, hsome⟩
    rcases hopen with hopen | hnone
    · cases hopen.symm.trans harchived
    · exact hsome hnone
  | restored subjectId g write hget harchived hsome hwrite =>
    rw [stales_restoreSubject_iff hget, not_and]
    refine (h.archiving_iff hget hwrite).trans (forall_congr' fun _ => ?_)
    exact iff_of_false (by simp [harchived]) (not_not.mpr ⟨harchived, hsome⟩)
  | missAdmin subjectId g hcold hget =>
    exact iff_of_true (View.Current.fill (e := .subjectDetailKeyAdmin subjectId) h hget)
      (not_stales (by simp) (by simp))
  | missStaff subjectId g hcold hget =>
    exact iff_of_true (View.Current.fill (e := .subjectDetailKeyStaff subjectId) h hget)
      (not_stales (by simp) (by simp))

end Subjects

/-! ### Runs of both services -/

/-- The group and the subject services, on one clock. -/
structure Catalogue where
  groups : GroupStore
  subjects : SubjectStore

/-- A step of a sequential run. -/
inductive CatalogueEvent
  | group (r : GroupRequest)
  | subject (r : SubjectRequest)
  /-- The time to live of an entry is over. -/
  | expireGroup (key : GroupCacheKey)
  | expireSubject (key : SubjectCacheKey)
  | tick (d : ℕ)

/-- The state after an event. -/
def Catalogue.after (c : Catalogue) : CatalogueEvent → Catalogue
  | .group r => { c with groups := c.groups.after r }
  | .subject r => { c with subjects := c.subjects.after r }
  | .expireGroup key => { c with groups := { c.groups with cache := c.groups.forgetting [key] } }
  | .expireSubject key =>
    { c with subjects := { c.subjects with cache := c.subjects.forgetting [key] } }
  | .tick d =>
    { groups := { c.groups with clock := c.groups.clock + d }
      subjects := { c.subjects with clock := c.subjects.clock + d } }

/-- The state after a sequential run. -/
def Catalogue.run (c : Catalogue) (events : List CatalogueEvent) : Catalogue :=
  Run.run Catalogue.after c events

/-- Every entry that is present shows its row. -/
structure Catalogue.Current (c : Catalogue) : Prop where
  groups : c.groups.Current
  subjects : c.subjects.Current

/-- The entries are current, and every reader shows the row. -/
structure Catalogue.Faithful (c : Catalogue) : Prop where
  groups : c.groups.Faithful
  subjects : c.subjects.Faithful

/-- The event archives or restores a group or a subject while the entry for directors is
cached. -/
def Catalogue.Stales (c : Catalogue) : CatalogueEvent → Prop
  | .group r => c.groups.Stales r
  | .subject r => c.subjects.Stales r
  | _ => False

theorem Catalogue.faithful_iff {c : Catalogue} : c.Faithful ↔ c.Current :=
  ⟨fun h => ⟨h.groups.current, h.subjects.current⟩,
    fun h => ⟨h.groups.faithful, h.subjects.faithful⟩⟩

/-- An event keeps the entries current exactly if it is no `Catalogue.Stales`. -/
theorem Catalogue.Current.after_iff {c : Catalogue} (h : c.Current) (e : CatalogueEvent) :
    (c.after e).Current ↔ ¬ c.Stales e := by
  cases e with
  | group r =>
    have hiff := h.groups.after_iff r
    exact ⟨fun h' => hiff.mp h'.groups, fun hstales => ⟨hiff.mpr hstales, h.subjects⟩⟩
  | subject r =>
    have hiff := h.subjects.after_iff r
    exact ⟨fun h' => hiff.mp h'.subjects, fun hstales => ⟨h.groups, hiff.mpr hstales⟩⟩
  | expireGroup key =>
    refine iff_of_true ⟨View.Current.forget h.groups fun e v he => ?_, h.subjects⟩ not_false
    exact (Option.ite_none_left_eq_some.mp he).2
  | expireSubject key =>
    refine iff_of_true ⟨h.groups, View.Current.forget h.subjects fun e v he => ?_⟩ not_false
    exact (Option.ite_none_left_eq_some.mp he).2
  | tick d => exact iff_of_true ⟨h.groups, h.subjects⟩ not_false

/-- **The entries and the readers show the rows throughout a run exactly if nothing in it stales
an entry**: from a state whose entries are current, administrators and directors see every group
and every subject as the database has it, in every state on the way, if and only if none is
archived or restored while its entry for directors is cached. -/
theorem catalogue_faithful_iff {c : Catalogue} (h : c.Current) (events : List CatalogueEvent) :
    (∀ before after, events = before ++ after → (c.run before).Faithful) ↔
      Run.Throughout Catalogue.after (fun c e => ¬ c.Stales e) c events := by
  simp only [Catalogue.faithful_iff]
  exact Run.invariant_iff (I := Catalogue.Current) (J := fun _ => True) (fun _ _ _ => trivial)
    (fun c e _ hcurrent => hcurrent.after_iff e) trivial h events

/-- A group and a subject, and an empty cache. -/
def Catalogue.concrete : Catalogue where
  groups :=
    { rows := [{ id := 1, name := "5-A", academicYear := 2025, gradeLevel := some 5
                 capacity := none, isArchived := false, archivedAt := none, createdAt := 0 }]
      idSeq := 2
      clock := 0
      cache := fun _ => none }
  subjects :=
    { rows := [{ id := 1, name := "Algebra", code := "ALG", description := none
                 isArchived := false, archivedAt := none, createdAt := 0 }]
      idSeq := 2
      clock := 0
      cache := fun _ => none }

theorem Catalogue.concrete_current : Catalogue.concrete.Current where
  groups := View.current_of_cold fun _ => rfl
  subjects := View.current_of_cold fun _ => rfl

/-- The condition can be met: the director reads a subject after it was archived. -/
theorem catalogue_faithful_archived_first :
    (Catalogue.concrete.run
      [.subject (.archiveSubject 1), .subject (.getSubjectByIdDirector 1)]).Faithful := by
  refine (catalogue_faithful_iff Catalogue.concrete_current
    [.subject (.archiveSubject 1), .subject (.getSubjectByIdDirector 1)]).mpr ⟨?_, ?_, trivial⟩
    [.subject (.archiveSubject 1), .subject (.getSubjectByIdDirector 1)] [] rfl
  · rintro ⟨subjectId, g, -, hcached, -⟩
    exact hcached rfl
  · rintro ⟨subjectId, g, -, -, ⟨hr, -⟩ | ⟨hr, -⟩⟩ <;> cases hr

/-- A director has read a group, which is then archived: the director still sees it open, and
the administrator sees it archived. -/
theorem staffEntry_stale :
    ¬ (Catalogue.concrete.run
        [.group (.getGroupByIdDirector 1), .group (.archiveGroup 1)]).Faithful ∧
      ((Catalogue.concrete.run
        [.group (.getGroupByIdDirector 1), .group (.archiveGroup 1)]).groups.serve
          (.getGroupByIdDirector 1)).1 =
        .ok (.staff
          { name := "5-A", academicYear := 2025, gradeLevel := some 5, capacity := none
            id := 1, isArchived := false, createdAt := 0 }) ∧
      ((Catalogue.concrete.run
        [.group (.getGroupByIdDirector 1), .group (.archiveGroup 1)]).groups.serve
          (.getGroupByIdAdmin 1)).1 =
        .ok (.admin
          { name := "5-A", academicYear := 2025, gradeLevel := some 5, capacity := none
            id := 1, isArchived := true, archivedAt := some 0, createdAt := 0 }) := by
  refine ⟨fun h => ?_, by decide +kernel, by decide +kernel⟩
  have hseen := h.groups.director 1
    { id := 1, name := "5-A", academicYear := 2025, gradeLevel := some 5, capacity := none
      isArchived := true, archivedAt := some 0, createdAt := 0 } (by decide +kernel)
  revert hseen
  decide +kernel

end SmsLite
