import SmsLite.Columns.Catalogue
import SmsLite.Lib.Run

/-!
# What is sent to the subject service

A body becomes a request if its schema accepts it, and a request is served until the driver or
the server refuses a statement for a value that it cannot send or store.  No service catches such a
refusal.

## Main definitions

* `SubjectStmt.refusal?` — the refusals that no constraint is behind.
* `SubjectStore.submit` — a request is served, or refused.
* `SubjectRequest.refusal?` — why a request is refused.
* `SubjectSubmission` — what is sent.
* `SubjectEvent`, `SubjectStore.runSent` — the runs of the service.

## Main results

* `SubjectStore.submit_eq` — **a request that is not refused is served to its end**, and one that
  is changes nothing.
* `commit_refusal_iff` — an update is refused for a NUL that it sends.
-/

namespace SmsLite

open Interleave
open Interleave.Prog (Checked checked_call checked_call_eq checked_stmt_eq runUnless
  runUnless_stmt_some runUnless_stmt_eq runUnless_map runUnless_eq_run)

/-! ### Refused statements -/

/-- The text contains a NUL. -/
def hasNul (text : String) : Bool := decide (nul ∈ text.toList)

/-- The refusal of a NUL. -/
def invalidByteSequence : Exn := .dbapiError "invalid byte sequence for encoding \"UTF8\": 0x00"

/-- The texts of a new subject. -/
def CreateSubjectAdmin.texts (r : CreateSubjectAdmin) : List String :=
  r.name :: r.code :: r.description.toList

/-- The texts that an update sends. -/
def UpdateSubjectAdmin.texts (r : UpdateSubjectAdmin) : List String :=
  r.name.value?.toList ++ r.code.value?.toList ++ r.description.value?.toList

/-- The text of a column, if the flush sets it. -/
def setText (old new : Option String) : List String := if new = old then [] else new.toList

/-- The texts of the columns that the flush of a subject sets. -/
def Subject.sets (loaded : Subject) (current : SubjectDraft) : List String :=
  setText (some loaded.name) current.name ++ setText (some loaded.code) current.code ++
    setText loaded.description current.description

/-- The driver does not send a number beyond `INTEGER`, the server does not take a text with a
NUL, and the id sequence ends. -/
def SubjectStmt.refusal? : SubjectStmt → SubjectStore → Option Exn
  | .getSubjectById subjectId, _ | .refresh subjectId, _ =>
    if FitsId subjectId then none else some (.dbapiError "value out of int32 range")
  | .insert subject, s =>
    if subject.texts.any hasNul then some invalidByteSequence
    else if FitsId s.idSeq then none
    else some (.dbapiError
      "nextval: reached maximum value of sequence \"subjects_id_seq\" (2147483647)")
  | .commit loaded current, _ =>
    if (loaded.sets current).any hasNul then some invalidByteSequence else none
  | _, _ => none

/-- Serve a request; a refused statement ends it, and no service catches the exception. -/
def SubjectStore.submit (s : SubjectStore) (r : SubjectRequest) :
    Except Exn SubjectResponse × SubjectStore :=
  r.service.runUnless SubjectStmt.refusal? SubjectStmt.exec s

/-- The statement of the request that may be refused, in the order of the service. -/
def SubjectRequest.refusal? (s : SubjectStore) : SubjectRequest → Option Exn
  | .createSubject r => (SubjectStmt.insert r).refusal? s
  | .updateSubject subjectId r =>
    ((SubjectStmt.getSubjectById subjectId).refusal? s).or
      ((Keyed.get? s.rows subjectId).bind fun g =>
        (SubjectStmt.commit g (r.assign g.draft)).refusal? s)
  | .archiveSubject subjectId | .restoreSubject subjectId =>
    (SubjectStmt.getSubjectById subjectId).refusal? s
  | .getSubjectByIdAdmin subjectId =>
    if (s.cache (.subjectDetailKeyAdmin subjectId)).isSome then none
    else (SubjectStmt.getSubjectById subjectId).refusal? s
  | .getSubjectByIdDirector subjectId =>
    if (s.cache (.subjectDetailKeyStaff subjectId)).isSome then none
    else (SubjectStmt.getSubjectById subjectId).refusal? s

/-! ### Served or refused -/

section Submit

variable {s : SubjectStore} {α : Type}

/-- No statement of the run is refused. -/
abbrev SubjectProg.Unrefused (p : SubjectProg α) (s : SubjectStore) : Prop :=
  Checked (fun stmt s => stmt.refusal? s = none) SubjectStmt.exec p s

theorem SubjectProg.unrefused_exceptIntegrityError (e : DbError) :
    SubjectProg.Unrefused (SubjectProg.exceptIntegrityError e : SubjectProg α) s := by
  cases e with
  | data orig => trivial
  | integrity orig =>
    refine checked_call (s := SubjectStmt.rollback) rfl ?_
    split <;> trivial

/-- An id in range may be looked up. -/
theorem SubjectStmt.refusal?_id {id : ℕ} (h : FitsId id) :
    (SubjectStmt.getSubjectById id).refusal? s = none ∧
      (SubjectStmt.refresh id).refusal? s = none := by
  simp only [SubjectStmt.refusal?, h, if_true, and_self]

theorem SubjectStmt.fitsId_of_refusal? {id : ℕ}
    (h : (SubjectStmt.getSubjectById id).refusal? s = none) : FitsId id := by
  by_contra hid
  simp only [SubjectStmt.refusal?, hid, if_false, reduceCtorEq] at h

theorem SubjectProg.unrefused_refresh {id : ℕ} (h : FitsId id) :
    SubjectProg.Unrefused (SubjectProg.refresh id) s := by
  refine checked_call (s := SubjectStmt.refresh id) (SubjectStmt.refusal?_id h).2 ?_
  cases (SubjectStmt.exec (.refresh id) s).1 <;> trivial

/-- A run whose first statement is refused. -/
theorem SubjectStore.submit_of_refused {r : SubjectRequest} {β : Type} {f : β → SubjectResponse}
    {p : SubjectProg β} (hr : r.service = f <$> p) {e : Exn}
    (h : p.runUnless SubjectStmt.refusal? SubjectStmt.exec s = (.error e, s)) :
    s.submit r = (.error e, s) := by
  unfold SubjectStore.submit
  rw [hr, runUnless_map, h]
  rfl

/-- A run without a refused statement. -/
theorem SubjectStore.submit_of_unrefused {r : SubjectRequest} {β : Type}
    {f : β → SubjectResponse} {p : SubjectProg β} (hr : r.service = f <$> p)
    (h : p.Unrefused s) : s.submit r = s.serve r := by
  unfold SubjectStore.submit SubjectStore.serve
  rw [hr, runUnless_map, runUnless_eq_run h, Prog.run_map]

theorem SubjectStore.submit_createSubject (s : SubjectStore) (r : CreateSubjectAdmin) :
    s.submit (.createSubject r) =
      ((SubjectRequest.createSubject r).refusal? s).elim (s.serve (.createSubject r))
        fun e => (.error e, s) := by
  rw [SubjectRequest.refusal?]
  cases hrefusal : (SubjectStmt.insert r).refusal? s with
  | some e =>
    exact SubjectStore.submit_of_refused rfl (runUnless_stmt_some hrefusal)
  | none =>
    refine SubjectStore.submit_of_unrefused rfl (checked_call hrefusal ?_)
    have hid : FitsId s.idSeq := by
      by_contra hid
      simp only [SubjectStmt.refusal?, hid, if_false] at hrefusal
      split at hrefusal <;> cases hrefusal
    cases hreply : (SubjectStmt.exec (.insert r) s).1 with
    | error e => exact SubjectProg.unrefused_exceptIntegrityError e
    | ok id =>
      have hidSeq : id = s.idSeq := by
        simp only [SubjectStmt.exec] at hreply
        split at hreply
        · cases hreply
        · split at hreply
          · cases hreply
          · exact (Except.ok.inj hreply).symm
      exact SubjectProg.unrefused_refresh (hidSeq ▸ hid)

/-- A request about a subject goes on with the subject, if there is one. -/
theorem SubjectProg.unrefused_getSubjectById {id : ℕ} {f : Subject → SubjectProg α}
    (h : FitsId id) (hf : ∀ g, Keyed.get? s.rows id = some g → (f g).Unrefused s) :
    (SubjectProg.getSubjectById id >>= f).Unrefused s := by
  have hid := (SubjectStmt.refusal?_id (s := s) h).1
  cases hget : Keyed.get? s.rows id with
  | none =>
    have hexec : SubjectStmt.exec (.getSubjectById id) s = (none, s) := congrArg (·, s) hget
    exact checked_stmt_eq hexec hid trivial
  | some g =>
    have hexec : SubjectStmt.exec (.getSubjectById id) s = (some g, s) := congrArg (·, s) hget
    exact checked_stmt_eq hexec hid (hf g hget)

theorem SubjectProg.runUnless_getSubjectById {id : ℕ} {g : Subject} {f : Subject → SubjectProg α}
    (hid : (SubjectStmt.getSubjectById id).refusal? s = none)
    (hget : Keyed.get? s.rows id = some g) :
    (SubjectProg.getSubjectById id >>= f).runUnless SubjectStmt.refusal? SubjectStmt.exec s =
      (f g).runUnless SubjectStmt.refusal? SubjectStmt.exec s := by
  have hexec : SubjectStmt.exec (.getSubjectById id) s = (some g, s) := congrArg (·, s) hget
  exact runUnless_stmt_eq hexec hid

/-- A commit that sends no NUL, outside a `try`. -/
theorem SubjectProg.unrefused_archiving {g : Subject} {isArchived : Bool}
    {archivedAt : Option Time} {keys : List SubjectCacheKey} :
    (SubjectProg.commitOrRaise g
        { g.draft with isArchived := isArchived, archivedAt := archivedAt } >>= fun _ =>
      SubjectProg.deleteCache keys).Unrefused s := by
  have hsets : g.sets { g.draft with isArchived := isArchived, archivedAt := archivedAt } = [] := by
    simp [Subject.sets, setText, Subject.draft]
  have hcommit : (SubjectStmt.commit g
      { g.draft with isArchived := isArchived, archivedAt := archivedAt }).refusal? s = none := by
    simp only [SubjectStmt.refusal?, hsets, List.any_nil, Bool.false_eq_true, if_false]
  obtain ⟨write, hflush⟩ := s.flush_archived g isArchived archivedAt
  have hexec : SubjectStmt.exec (.commit g
      { g.draft with isArchived := isArchived, archivedAt := archivedAt }) s =
        (.ok (), { s with rows := Keyed.modify s.rows g.id write }) := by
    simp only [SubjectStmt.exec, hflush]
  exact checked_stmt_eq hexec hcommit ⟨rfl, trivial⟩

/-- A request that begins with a look-up and sends no text. -/
theorem SubjectStore.submit_lookup {r : SubjectRequest} (id : ℕ) {β : Type}
    {f : β → SubjectResponse} {k : Subject → SubjectProg β}
    (hr : r.service = f <$> (SubjectProg.getSubjectById id >>= k))
    (hrefusal : r.refusal? s = (SubjectStmt.getSubjectById id).refusal? s)
    (hk : ∀ g, (k g).Unrefused s) :
    s.submit r = (r.refusal? s).elim (s.serve r) fun e => (.error e, s) := by
  rw [hrefusal]
  cases hid : (SubjectStmt.getSubjectById id).refusal? s with
  | some e => exact SubjectStore.submit_of_refused hr (runUnless_stmt_some hid)
  | none =>
    exact SubjectStore.submit_of_unrefused hr
      (SubjectProg.unrefused_getSubjectById (SubjectStmt.fitsId_of_refusal? hid) fun g _ => hk g)

/-- A read. -/
theorem SubjectStore.submit_cachedSubject {r : SubjectRequest} {key : SubjectCacheKey} {id : ℕ}
    {β : Type} {f : β → SubjectResponse} {validate : SubjectCacheValue → Option β}
    {project : Subject → SubjectCacheValue} {respond : Subject → β}
    (hr : r.service = f <$> cachedSubject key id validate project respond)
    (hrefusal : r.refusal? s =
      if (s.cache key).isSome then none else (SubjectStmt.getSubjectById id).refusal? s) :
    s.submit r = (r.refusal? s).elim (s.serve r) fun e => (.error e, s) := by
  rw [hrefusal]
  cases hcache : s.cache key with
  | some value =>
    have hexec : SubjectStmt.exec (.getCache key) s = (some value, s) := congrArg (·, s) hcache
    refine SubjectStore.submit_of_unrefused hr (checked_call_eq hexec rfl ?_)
    dsimp only
    split <;> trivial
  | none =>
    have hexec : SubjectStmt.exec (.getCache key) s = (none, s) := congrArg (·, s) hcache
    rw [Option.isSome_none, if_neg Bool.false_ne_true]
    cases hid : (SubjectStmt.getSubjectById id).refusal? s with
    | some e =>
      refine SubjectStore.submit_of_refused hr ((runUnless_stmt_eq hexec rfl).trans ?_)
      exact runUnless_stmt_some hid
    | none =>
      refine SubjectStore.submit_of_unrefused hr (checked_stmt_eq hexec rfl ?_)
      exact SubjectProg.unrefused_getSubjectById (SubjectStmt.fitsId_of_refusal? hid)
        fun g _ => ⟨rfl, trivial⟩

/-- An update that changes nothing sends nothing. -/
theorem Subject.sets_draft (g : Subject) : g.sets g.draft = [] := by
  simp [Subject.sets, setText, Subject.draft]

theorem SubjectStore.submit_updateSubject (s : SubjectStore) (id : ℕ) (r : UpdateSubjectAdmin) :
    s.submit (.updateSubject id r) =
      ((SubjectRequest.updateSubject id r).refusal? s).elim (s.serve (.updateSubject id r))
        fun e => (.error e, s) := by
  have hrefusal : (SubjectRequest.updateSubject id r).refusal? s =
      ((SubjectStmt.getSubjectById id).refusal? s).or ((Keyed.get? s.rows id).bind fun g =>
        (SubjectStmt.commit g (r.assign g.draft)).refusal? s) := by
    rw [SubjectRequest.refusal?]
  rw [hrefusal]
  cases hid : (SubjectStmt.getSubjectById id).refusal? s with
  | some e => exact SubjectStore.submit_of_refused rfl (runUnless_stmt_some hid)
  | none =>
    have hfits := SubjectStmt.fitsId_of_refusal? hid
    rw [Option.none_or]
    cases hget : Keyed.get? s.rows id with
    | none =>
      refine SubjectStore.submit_of_unrefused rfl
        (SubjectProg.unrefused_getSubjectById hfits fun g hg => ?_)
      cases hget.symm.trans hg
    | some g =>
      rw [Option.bind_some]
      cases hcommit : (SubjectStmt.commit g (r.assign g.draft)).refusal? s with
      | some e =>
        have hne : r.assign g.draft ≠ g.draft := by
          intro hsame
          rw [hsame, SubjectStmt.refusal?, Subject.sets_draft] at hcommit
          cases hcommit
        refine SubjectStore.submit_of_refused rfl
          ((SubjectProg.runUnless_getSubjectById hid hget).trans ?_)
        dsimp only
        rw [if_neg hne]
        exact runUnless_stmt_some hcommit
      | none =>
        refine SubjectStore.submit_of_unrefused rfl
          (SubjectProg.unrefused_getSubjectById hfits fun g' hg' => ?_)
        obtain rfl := Keyed.get?_inj hget hg'
        dsimp only
        split
        · trivial
        · refine checked_call hcommit ?_
          cases (SubjectStmt.exec (.commit g (r.assign g.draft)) s).1 with
          | error e => exact SubjectProg.unrefused_exceptIntegrityError e
          | ok _ =>
            refine checked_call (s := SubjectStmt.refresh id) (SubjectStmt.refusal?_id hfits).2 ?_
            generalize (SubjectStmt.exec (.refresh id) _).1 = refreshed
            cases refreshed with
            | none => trivial
            | some subject => exact ⟨rfl, trivial⟩

/-- **A request that is not refused is served to its end**, and one that is changes nothing. -/
theorem SubjectStore.submit_eq (s : SubjectStore) (r : SubjectRequest) :
    s.submit r = (r.refusal? s).elim (s.serve r) fun e => (.error e, s) := by
  cases r with
  | createSubject r => exact s.submit_createSubject r
  | updateSubject id r => exact s.submit_updateSubject id r
  | archiveSubject id =>
    refine SubjectStore.submit_lookup id rfl (by rw [SubjectRequest.refusal?]) fun g => ?_
    dsimp only
    split
    · trivial
    · exact ⟨rfl, SubjectProg.unrefused_archiving⟩
  | restoreSubject id =>
    refine SubjectStore.submit_lookup id rfl (by rw [SubjectRequest.refusal?]) fun g => ?_
    dsimp only
    split
    · trivial
    · exact SubjectProg.unrefused_archiving
  | getSubjectByIdAdmin id =>
    exact SubjectStore.submit_cachedSubject rfl (by rw [SubjectRequest.refusal?])
  | getSubjectByIdDirector id =>
    exact SubjectStore.submit_cachedSubject rfl (by rw [SubjectRequest.refusal?])

end Submit

/-! ### Refused texts -/

theorem any_hasNul_eq_false_iff {texts : List String} :
    texts.any hasNul = false ↔ ∀ text ∈ texts, nul ∉ text.toList := by
  rw [List.any_eq_false]
  refine forall₂_congr fun text _ => ?_
  rw [hasNul, decide_eq_true_iff]

/-- The texts of the request. -/
def SubjectRequest.texts : SubjectRequest → List String
  | .createSubject r => r.texts
  | .updateSubject _ r => r.texts
  | _ => []

/-- A new subject is refused for a NUL, and when no id is left. -/
theorem insert_refusal_iff (s : SubjectStore) (r : CreateSubjectAdmin) :
    (SubjectStmt.insert r).refusal? s = none ↔
      (∀ text ∈ r.texts, nul ∉ text.toList) ∧ FitsId s.idSeq := by
  rw [SubjectStmt.refusal?, ← any_hasNul_eq_false_iff]
  cases r.texts.any hasNul with
  | true => simp
  | false =>
    rw [if_neg Bool.false_ne_true]
    by_cases hid : FitsId s.idSeq
    · rw [if_pos hid]
      exact iff_of_true rfl ⟨rfl, hid⟩
    · rw [if_neg hid]
      exact iff_of_false (by intro h; cases h) fun h => hid h.2

/-- What an update leaves in a column is sent if it is new. -/
theorem setText_assign {p : Patch String} {old : Option String}
    (hold : ∀ text, old = some text → nul ∉ text.toList) :
    (∀ text ∈ setText old (p.assign old), nul ∉ text.toList) ↔
      ∀ text ∈ p.value?.toList, nul ∉ text.toList := by
  unfold setText
  cases p with
  | unset => simp [Patch.assign, Patch.value?]
  | null =>
    cases old with
    | none => simp [Patch.assign, Patch.value?]
    | some text => simp [Patch.assign, Patch.value?]
  | set new =>
    by_cases hsame : some new = old
    · have hnew : nul ∉ new.toList := hold new hsame.symm
      rw [Patch.assign, if_pos hsame]
      simpa [Patch.value?] using hnew
    · rw [Patch.assign, if_neg hsame]
      exact Iff.rfl

/-- **An update is refused for a NUL that it sends.** -/
theorem commit_refusal_iff (s : SubjectStore) {g : Subject} (hg : g.draft.Fits)
    (r : UpdateSubjectAdmin) :
    (SubjectStmt.commit g (r.assign g.draft)).refusal? s = none ↔
      ∀ text ∈ r.texts, nul ∉ text.toList := by
  have hname : ∀ text, some g.name = some text → nul ∉ text.toList := by
    rintro text ⟨⟩
    exact (notNull_some.mp hg.name).nul_notMem
  have hcode : ∀ text, some g.code = some text → nul ∉ text.toList := by
    rintro text ⟨⟩
    exact (notNull_some.mp hg.code).nul_notMem
  have hdescription : ∀ text, g.description = some text → nul ∉ text.toList :=
    fun text htext => (hg.description text htext).nul_notMem
  have hsets : (∀ text ∈ g.sets (r.assign g.draft), nul ∉ text.toList) ↔
      ∀ text ∈ r.texts, nul ∉ text.toList := by
    unfold Subject.sets UpdateSubjectAdmin.texts
    simp only [List.forall_mem_append]
    exact and_congr (and_congr (setText_assign hname) (setText_assign hcode))
      (setText_assign hdescription)
  rw [SubjectStmt.refusal?, ← hsets, ← any_hasNul_eq_false_iff]
  cases (g.sets (r.assign g.draft)).any hasNul <;> simp

/-! ### Runs -/

/-- What is sent: a body, or an id in a path. -/
inductive SubjectSubmission
  | createSubject (body : CreateSubjectAdmin.Body)
  | updateSubject (subjectId : ℕ) (body : UpdateSubjectAdmin.Body)
  | archiveSubject (subjectId : ℕ)
  | restoreSubject (subjectId : ℕ)
  | getSubjectByIdAdmin (subjectId : ℕ)
  | getSubjectByIdDirector (subjectId : ℕ)
  deriving DecidableEq, Repr

/-- The request that the schemas make of it, if they accept it. -/
def SubjectSubmission.request? (V : Validation) : SubjectSubmission → Option SubjectRequest
  | createSubject body =>
    match body.validate V with
    | .ok r => some (.createSubject r)
    | .errors _ => none
  | updateSubject subjectId body =>
    match body.validate V with
    | .ok r => some (.updateSubject subjectId r)
    | .errors _ => none
  | archiveSubject subjectId => some (.archiveSubject subjectId)
  | restoreSubject subjectId => some (.restoreSubject subjectId)
  | getSubjectByIdAdmin subjectId => some (.getSubjectByIdAdmin subjectId)
  | getSubjectByIdDirector subjectId => some (.getSubjectByIdDirector subjectId)

/-- A step of a run. -/
inductive SubjectEvent
  | sent (submission : SubjectSubmission)
  /-- Time passes. -/
  | tick (d : ℕ)
  /-- Redis evicts a key. -/
  | expire (key : SubjectCacheKey)
  deriving DecidableEq, Repr

/-- The store after an event; what the schemas do not accept leaves it alone. -/
def SubjectStore.afterEvent (V : Validation) (s : SubjectStore) : SubjectEvent → SubjectStore
  | .sent submission => (submission.request? V).elim s fun r => (s.submit r).2
  | .tick d => { s with clock := s.clock + d }
  | .expire key => { s with cache := Function.update s.cache key none }

/-- The store after a run. -/
def SubjectStore.runSent (V : Validation) (s : SubjectStore) (events : List SubjectEvent) :
    SubjectStore := Run.run (SubjectStore.afterEvent V) s events

/-- **What every request leaves true, a run leaves true**, as long as it is not about the clock
or the cache; `E` is what is known of what is sent. -/
theorem SubjectStore.invariant_runSent (V : Validation) {I : SubjectStore → Prop}
    {E : SubjectSubmission → Prop}
    (hstep : ∀ s submission r, E submission → I s →
      SubjectSubmission.request? V submission = some r → r.refusal? s = none → I (s.serve r).2)
    (hclock : ∀ s clock, I s → I { s with clock := clock })
    (hcache : ∀ s cache, I s → I { s with cache := cache }) {s : SubjectStore} (hs : I s)
    (events : List SubjectEvent)
    (hevents : ∀ submission, .sent submission ∈ events → E submission) :
    I (s.runSent V events) := by
  refine Run.invariant (P := fun _ event => ∀ submission, event = .sent submission → E submission)
    (fun s event hs hevent => ?_) hs ((Run.throughout_iff s events).mpr ?_)
  · cases event with
    | tick d => exact hclock s _ hs
    | expire key => exact hcache s _ hs
    | sent submission =>
      change I ((submission.request? V).elim s fun r => (s.submit r).2)
      cases hrequest : submission.request? V with
      | none => exact hs
      | some r =>
        rw [Option.elim_some, SubjectStore.submit_eq]
        cases hrefusal : r.refusal? s with
        | some e => exact hs
        | none => exact hstep s submission r (hevent submission rfl) hs hrequest hrefusal
  · rintro before event after rfl submission rfl
    exact hevents submission (by simp)

end SmsLite
