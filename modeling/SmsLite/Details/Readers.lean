import SmsLite.Concrete
import SmsLite.Refinement.System

/-!
# Readers and their cache

Six readers answer with the details of one user, two of them under each of three cache keys.
What is not cached they fetch by a query that filters by role; what is cached they return as
it is.

## Main definitions

* `Reader`, `Request.reader?` — what a reader looks for, and what it caches.
* `World.Typed` — every key holds a dump of its own kind.
* `Request.AnswersByRole` — a reader gives the answer of the database, and only for a user of
  its role.
* `Request.MeetsOther` — it finds the details of a user whose role it is not for.

## Main results

* `World.Sound.cache_after` — **what an event does to a cached detail**: nothing, or it
  deletes it, or it is a reader that fills it.
* `Request.accepted_iff` — when a reader succeeds.
* `readers_byRole_iff` — **the readers answer by role exactly when they do not find the details
  of a user of another role**, and `teacherReader_accepts_student`: otherwise they do not.
-/

namespace SmsLite

open Interleave
open Interleave.Prog (Ends ends_map)

variable {env : Env} {w : World}

/-! ### The six readers -/

/-- What a reader looks for, and what it caches. -/
structure Reader where
  key : CacheKey
  userId : UserId
  query : UserQuery
  project : Loaded → CacheValue

namespace Request

/-- The reader a request calls. -/
def reader? : Request → Option Reader
  | getTeacherByIdAdmin id =>
    some
      { key := .userDetailKeyAdmin id, userId := id, query := { allowedRoles := teacherRole }
        project := fun user => .admin user.adminCache }
  | getStudentByIdAdmin id =>
    some
      { key := .userDetailKeyAdmin id, userId := id
        query := { allowedRoles := studentRole, loadGroup := true }
        project := fun user => .admin user.adminCache }
  | getTeacherByIdDirector id =>
    some
      { key := .userDetailKeyStaff id, userId := id, query := { allowedRoles := teacherRole }
        project := fun user => .staff user.directorCache }
  | getStudentByIdDirector id =>
    some
      { key := .userDetailKeyStaff id, userId := id
        query := { allowedRoles := studentRole, loadGroup := true }
        project := fun user => .staff user.directorCache }
  | getMyProfile id =>
    some
      { key := .userDetailKeySelf id, userId := id, query := { excludedRoles := studentRole }
        project := fun user => .self user.selfCache }
  | getMyStudentProfile id =>
    some
      { key := .userDetailKeySelf id, userId := id
        query := { allowedRoles := studentRole, loadGroup := true }
        project := fun user => .self user.selfCache }
  | _ => none

/-- The roles a reader is for. -/
def admits : Request → UserRole → Bool
  | getTeacherByIdAdmin _, role | getTeacherByIdDirector _, role => decide (role = .teacher)
  | getStudentByIdAdmin _, role | getStudentByIdDirector _, role | getMyStudentProfile _, role =>
    decide (role = .student)
  | getMyProfile _, role => decide (role ≠ .student)
  | _, _ => false

/-- They are the roles its query lets through. -/
theorem admits_query {r : Request} {rd : Reader} (h : r.reader? = some rd) (u : User) :
    rd.query.admits u = r.admits u.role := by
  cases r with
  | getTeacherByIdAdmin | getTeacherByIdDirector | getStudentByIdAdmin | getStudentByIdDirector
  | getMyProfile | getMyStudentProfile =>
    cases h
    simp [UserQuery.admits, admits, teacherRole, studentRole]
  | _ => cases h

theorem details_eq (r : Request) (w : World) :
    r.details w =
      r.reader?.elim w.cache fun rd => w.filled rd.key rd.userId rd.query rd.project := by
  cases r <;> rfl

end Request

/-! ### What the keys hold -/

/-- The value is a dump of the kind the key is for. -/
def CacheKey.Holds : CacheKey → CacheValue → Prop
  | .userDetailKeyAdmin _, .admin _ | .userDetailKeyStaff _, .staff _
  | .userDetailKeySelf _, .self _ | .accessTokenVersionKey _, _ => True
  | _, _ => False

/-- Every key holds a dump of its own kind. -/
def World.Typed (w : World) : Prop := ∀ key value, w.cache key = some value → key.Holds value

theorem World.Seeded.typed (hw : w.Seeded) : w.Typed := by
  intro key value h
  rw [hw.cache] at h
  cases h

/-- A reader caches what its key is for. -/
theorem Request.reader_holds {r : Request} {rd : Reader} (h : r.reader? = some rd) (l : Loaded) :
    rd.key.Holds (rd.project l) := by
  cases r with
  | getTeacherByIdAdmin | getTeacherByIdDirector | getStudentByIdAdmin | getStudentByIdDirector
  | getMyProfile | getMyStudentProfile =>
    cases h
    trivial
  | _ => cases h

/-- A reader that fills its key, or leaves the cache alone. -/
theorem World.filled_cases (w : World) (rd : Reader) (key : CacheKey) :
    w.filled rd.key rd.userId rd.query rd.project key = w.cache key ∨
      ∃ l, rd.key = key ∧ w.db.selectUserById rd.userId rd.query = some l ∧
        w.filled rd.key rd.userId rd.query rd.project key = some (rd.project l) := by
  unfold filled
  cases hcache : w.cache rd.key with
  | some value => exact Or.inl rfl
  | none =>
    cases hl : w.db.selectUserById rd.userId rd.query with
    | none => exact Or.inl rfl
    | some l =>
      by_cases hkey : rd.key = key
      · subst hkey
        exact Or.inr ⟨l, rfl, rfl, Function.update_self _ _ _⟩
      · exact Or.inl (Function.update_of_ne (Ne.symm hkey) _ _)

/-- **What an event does to a cached detail**: nothing, or it deletes it, or it is a reader
that fills it with the row. -/
theorem World.Sound.cache_after (hs : w.Sound) (env : Env) (e : Event) {key : CacheKey}
    (hkey : ∀ id, key ≠ .accessTokenVersionKey id) :
    (w.after env e).cache key = w.cache key ∨ (w.after env e).cache key = none ∨
      ∃ r rd l, e = .request r ∧ r.reader? = some rd ∧ rd.key = key ∧
        w.db.selectUserById rd.userId rd.query = some l ∧
        (w.after env e).cache key = some (rd.project l) := by
  cases e with
  | outside o =>
    cases o with
    | tick d => exact Or.inl rfl
    | expire key' =>
      by_cases hsame : key = key'
      · subst hsame
        exact Or.inr (Or.inl (Function.update_self _ _ _))
      · exact Or.inl (Function.update_of_ne hsame _ _)
  | request r =>
    cases (hs.serves env r).served with
    | quiet _ _ _ _ hleaves =>
      -- A request that moves no account may still be a reader that fills its key.
      rw [hleaves.details key hkey, r.details_eq]
      cases hr : r.reader? with
      | none => exact Or.inl rfl
      | some rd =>
        rcases w.filled_cases rd key with hsame | ⟨l, hrd, hl, hfilled⟩
        · exact Or.inl hsame
        · exact Or.inr (Or.inr ⟨r, rd, l, rfl, hr, hrd, hl, hfilled⟩)
    | moved id acc acc' _ _ _ _ hleaves =>
      rw [hleaves.details key hkey]
      by_cases hmem : key ∈ r.forgets id
      · exact Or.inr (Or.inl (if_pos hmem))
      · exact Or.inl (if_neg hmem)
    | registered _ _ _ _ _ _ _ _ _ hleaves => exact Or.inl (hleaves.details key hkey)

/-- Every key keeps to its kind. -/
theorem World.Typed.after (ht : w.Typed) (hs : w.Sound) (env : Env) (e : Event) :
    (w.after env e).Typed := by
  intro key value h
  by_cases hkey : ∃ id, key = .accessTokenVersionKey id
  · obtain ⟨id, rfl⟩ := hkey
    trivial
  · rcases hs.cache_after env e fun id heq => hkey ⟨id, heq⟩ with
      hsame | hnone | ⟨r, rd, l, -, hr, rfl, -, hfilled⟩
    · exact ht key value (hsame.symm.trans h)
    · exact absurd (hnone.symm.trans h) (by simp)
    · obtain rfl := Option.some.inj (hfilled.symm.trans h)
      exact Request.reader_holds hr l

theorem World.Typed.run (ht : w.Typed) (hs : w.Sound) (env : Env) (events : List Event) :
    (w.run env events).Typed :=
  (Run.invariant' (I := fun w : World => w.Sound ∧ w.Typed)
    (fun _ e h => ⟨h.1.after env e, h.2.after h.1 env e⟩) ⟨hs, ht⟩ events).2

/-! ### When a reader succeeds -/

/-- The request succeeds. -/
def Request.Accepted (env : Env) (w : World) (r : Request) : Prop :=
  ∃ response, w.respond env r = .ok response

/-- A cached reader succeeds with whatever it finds, else if its query does. -/
theorem cachedDetail_ok_iff {α β : Type} {key : CacheKey} {id : UserId} {q : UserQuery}
    {validate : CacheValue → Option α} {project : Loaded → CacheValue} {respond : Loaded → α}
    (f : α → β) (hvalid : ∀ value, w.cache key = some value → (validate value).isSome) :
    (∃ b, ((f <$> cachedDetail key id q validate project respond).run (exec env) w).1 = .ok b) ↔
      w.cache key ≠ none ∨ (w.db.selectUserById id q).isSome := by
  change Ends (exec env) (f <$> cachedDetail key id q validate project respond)
    (fun out _ => (∃ b, out = .ok b) ↔ w.cache key ≠ none ∨ (w.db.selectUserById id q).isSome) w
  rw [ends_map]
  unfold cachedDetail
  rw [ends_getCache]
  cases hcache : w.cache key with
  | some value =>
    obtain ⟨a, ha⟩ := Option.isSome_iff_exists.mp (hvalid value hcache)
    simp only [ha]
    exact ⟨fun _ => Or.inl (by simp), fun _ => ⟨f a, rfl⟩⟩
  | none =>
    dsimp only
    rw [ends_getUserById]
    cases w.db.selectUserById id q with
    | none =>
      rw [ensureExists_none]
      constructor
      · rintro ⟨_, h⟩
        cases h
      · intro h
        simp at h
    | some l =>
      rw [ensureExists_some, ends_setCache]
      exact ⟨fun _ => Or.inr rfl, fun _ => ⟨f (respond l), rfl⟩⟩

/-- The query of a reader finds the user if it is of its role. -/
theorem selectUserById_isSome_iff {r : Request} {rd : Reader} (hr : r.reader? = some rd) :
    (w.db.selectUserById rd.userId rd.query).isSome ↔
      ∃ u, Keyed.get? w.db.users rd.userId = some u ∧ r.admits u.role = true := by
  simp only [Db.selectUserById, Option.isSome_map, Option.isSome_iff_exists,
    Option.filter_eq_some_iff, Request.admits_query hr]

/-- **When a reader succeeds**: it finds an entry, or the user is of its role. -/
theorem Request.accepted_iff (ht : w.Typed) {r : Request} {rd : Reader}
    (hr : r.reader? = some rd) :
    r.Accepted env w ↔
      w.cache rd.key ≠ none ∨
        ∃ u, Keyed.get? w.db.users rd.userId = some u ∧ r.admits u.role = true := by
  rw [← selectUserById_isSome_iff hr]
  have hholds := ht rd.key
  cases r with
  | getTeacherByIdAdmin | getTeacherByIdDirector | getStudentByIdAdmin | getStudentByIdDirector
  | getMyProfile | getMyStudentProfile =>
    cases hr
    refine cachedDetail_ok_iff _ fun value h => ?_
    -- The value is of the kind of the key, which is the kind the reader reads back.
    have hkind := hholds value h
    cases value <;> first | rfl | cases hkind
  | _ => cases hr

/-! ### Answers by role -/

/-- The reader gives the answer it would give without its entry, and succeeds only for a user
of its role. -/
def Request.AnswersByRole (env : Env) (w : World) (r : Request) : Prop :=
  ∀ rd, r.reader? = some rd →
    (r.Accepted env w ↔ r.Accepted env (outside (.expire rd.key) w)) ∧
      (r.Accepted env w →
        ∃ u, Keyed.get? w.db.users rd.userId = some u ∧ r.admits u.role = true)

/-- The reader finds the details of a user whose role it is not for. -/
def Request.MeetsOther (w : World) (r : Request) : Prop :=
  ∃ rd, r.reader? = some rd ∧ w.cache rd.key ≠ none ∧
    ∀ u, Keyed.get? w.db.users rd.userId = some u → r.admits u.role = false

/-- Evicting a key leaves the others of their kind. -/
theorem World.Typed.expire (ht : w.Typed) (key : CacheKey) : (outside (.expire key) w).Typed := by
  intro key' value h
  by_cases hkey : key' = key
  · subst hkey
    exact absurd ((Function.update_self _ _ _).symm.trans h) (by simp)
  · exact ht key' value ((Function.update_of_ne hkey _ _).symm.trans h)

/-- In one state. -/
theorem Request.answersByRole_iff (ht : w.Typed) (r : Request) :
    r.AnswersByRole env w ↔ ¬ r.MeetsOther w := by
  unfold AnswersByRole MeetsOther
  cases hr : r.reader? with
  | none => simp
  | some rd =>
    -- Without its entry a reader goes by the row.
    have hwithout : r.Accepted env (outside (.expire rd.key) w) ↔
        ∃ u, Keyed.get? w.db.users rd.userId = some u ∧ r.admits u.role = true := by
      rw [Request.accepted_iff (ht.expire rd.key) hr]
      simp [outside]
    simp only [Option.some.injEq, forall_eq', exists_eq_left', hwithout,
      Request.accepted_iff ht hr]
    constructor
    · rintro ⟨hsame, -⟩ ⟨hcached, hother⟩
      obtain ⟨u, hu, hrole⟩ := hsame.mp (Or.inl hcached)
      simp [hother u hu] at hrole
    · intro hmeets
      have hrole : w.cache rd.key ≠ none →
          ∃ u, Keyed.get? w.db.users rd.userId = some u ∧ r.admits u.role = true := by
        intro hcached
        by_contra hnone
        refine hmeets ⟨hcached, fun u hu => ?_⟩
        rw [← Bool.not_eq_true]
        exact fun hadmits => hnone ⟨u, hu, hadmits⟩
      exact ⟨⟨fun h => h.elim hrole id, Or.inr⟩, fun h => h.elim hrole id⟩

/-- **The readers answer by role**, in every state a run reaches, exactly when they do not
find the details of a user whose role they are not for. -/
theorem readers_byRole_iff (env : Env) (w : World) (hw : w.Seeded) (events : List Event)
    (r : Request) :
    r.AnswersByRole env (w.run env events) ↔ ¬ r.MeetsOther (w.run env events) :=
  Request.answersByRole_iff (hw.typed.run hw.sound env events) r

/-- The administrator looks at the student. -/
def viewAda : Event := .request (.getStudentByIdAdmin 2)

/-- The student, looked at again. -/
theorem readers_byRole_concrete :
    (Request.getStudentByIdAdmin 2).AnswersByRole .concrete
      (World.concrete.run .concrete [viewAda]) := by
  refine (readers_byRole_iff .concrete World.concrete World.concrete_seeded [viewAda] _).mpr ?_
  rintro ⟨_, ⟨⟩, -, hother⟩
  exact absurd (hother _ rfl) (by decide)

/-- **The reader of teachers accepts a student** whose details are cached, and would not
otherwise; nor do the profiles keep the two apart. -/
theorem teacherReader_accepts_student :
    ¬ (Request.getTeacherByIdAdmin 2).AnswersByRole .concrete
        (World.concrete.run .concrete [viewAda]) ∧
      ¬ (Request.getMyProfile 2).AnswersByRole .concrete
        (World.concrete.run .concrete [.request (.getMyStudentProfile 2)]) := by
  refine ⟨fun h => ?_, fun h => ?_⟩
  · obtain ⟨u, hu, hrole⟩ := (h _ rfl).2 ⟨_, rfl⟩
    cases hu
    exact absurd hrole (by decide)
  · obtain ⟨u, hu, hrole⟩ := (h _ rfl).2 ⟨_, rfl⟩
    cases hu
    exact absurd hrole (by decide)

end SmsLite
