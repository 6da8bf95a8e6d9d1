import SmsLite.Concurrency.Pools
import SmsLite.Concrete

/-!
# The contact limit under concurrency

No more than three students may share a phone number or an email address.  The database
has no constraint that says so: `check_contact_limit` counts, and the count stays true
until the commit because whoever raises it must hold the same advisory lock.

## Main definitions

* `Db.RespectsLimit` — at most three students share a contact.
* `Guarded` — locks are held, and a contact that has been cleared still has room.

## Main results

* `Db.commit_count` — a commit raises the count of a contact only if it has cleared it.
* `guarded_inductive` — clearing is stable under every interleaving.
* `contactLimit_serveAll` — **no schedule of requests breaks the limit**.
-/

namespace SmsLite

open Interleave

variable {ι : Type} {env : Env} {w : World}

/-- At most three students share a phone number, and at most three an email address. -/
structure Db.RespectsLimit (db : Db) : Prop where
  phoneNumber : ∀ text,
    db.users.countP (fun u => decide (u.role = .student) && decide (u.phoneNumber = text)) ≤ 3
  email : ∀ text,
    db.users.countP (fun u => decide (u.role = .student) && decide (u.email = text)) ≤ 3

/-- The limit in the words of `count_users_with_contact`. -/
theorem Db.respectsLimit_iff (db : Db) :
    db.RespectsLimit ↔ ∀ contact,
      db.countUsersWithContact (some .student) contact none ≤ studentMaxSharedContact := by
  constructor
  · intro h contact
    cases contact with
    | phoneNumber number =>
      simpa [Db.countUsersWithContact, Contact.matches, studentMaxSharedContact] using
        h.phoneNumber number
    | email address =>
      simpa [Db.countUsersWithContact, Contact.matches, studentMaxSharedContact] using
        h.email address
  · intro h
    constructor
    · intro text
      simpa [Db.countUsersWithContact, Contact.matches, studentMaxSharedContact] using
        h (.phoneNumber text)
    · intro text
      simpa [Db.countUsersWithContact, Contact.matches, studentMaxSharedContact] using
        h (.email text)

/-! ### Counting through a commit -/

/-- What `count_users_with_contact` counts for students. -/
def Contact.counts (contact : Contact) (exclude : Option UserId) (u : User) : Bool :=
  decide (u.role = .student) && contact.matches u && exclude.all fun x => u.id ≠ x

theorem Db.countUsersWithContact_student (db : Db) (contact : Contact) (exclude : Option UserId) :
    db.countUsersWithContact (some .student) contact exclude =
      db.users.countP (contact.counts exclude) := rfl

/-- Leaving out one user lowers a count by at most one. -/
theorem Db.count_le_exclude {db : Db} (hids : (Keyed.keys db.users).Nodup) (contact : Contact)
    (id : UserId) :
    db.countUsersWithContact (some .student) contact none ≤
      db.countUsersWithContact (some .student) contact (some id) + 1 := by
  have h := Keyed.countP_le_succ hids id (contact.counts none)
  have hsame : (fun u : User => contact.counts none u && decide (Keyed.key u ≠ id)) =
      contact.counts (some id) := by
    funext u
    simp [Contact.counts]
  rw [hsame] at h
  exact h

/-- A column after a flush, if the object did not change it. -/
theorem written_eq {α : Type} [DecidableEq α] {loaded current stored new : α}
    (h : written loaded current stored = new) :
    stored = new ∨ (current = new ∧ current ≠ loaded) := by
  unfold written at h
  split at h
  · exact Or.inl h
  · next hne => exact Or.inr ⟨h, hne⟩

/-- A row that comes to match a contact belongs to a user for whom it was cleared. -/
theorem Tx.MayWriteUser.gains {c : Tx} {l r user : User} {d : UserDraft} {contact : Contact}
    (hmay : c.MayWriteUser l d) (hrow : d.toRow = .ok user) (hrole : r.role = l.role)
    (hstudent : r.role = .student) (hmatches : contact.matches (User.write l user r) = true)
    (hbefore : contact.matches r = false) : (contact, some l.id) ∈ c.cleared := by
  have hdraft := UserDraft.draft_of_toRow hrow
  have hphone : d.phoneNumber = some user.phoneNumber := by
    rw [← hdraft]
    rfl
  have hemail : d.email = some user.email := by
    rw [← hdraft]
    rfl
  cases contact with
  | phoneNumber number =>
    simp only [Contact.matches, decide_eq_true_eq, decide_eq_false_iff_not] at hmatches hbefore
    rcases written_eq hmatches with hstored | ⟨rfl, hne⟩
    · exact absurd hstored hbefore
    · exact hmay.phoneNumber (hrole ▸ hstudent) _ hphone hne
  | email address =>
    simp only [Contact.matches, decide_eq_true_eq, decide_eq_false_iff_not] at hmatches hbefore
    rcases written_eq hmatches with hstored | ⟨rfl, hne⟩
    · exact absurd hstored hbefore
    · exact hmay.email (hrole ▸ hstudent) _ hemail hne

/-- A commit of a loaded user changes the row of that user only. -/
theorem Db.commit_update_count {c : Tx} {d₀ : ℕ} {l : Loaded} {d : Dirty}
    {mails : List NewPendingEmail} {db' : Db} (hids : (Keyed.keys w.db.users).Nodup)
    (htracked : c.Tracked env d₀ w) (hmay : c.MayCommit env (.update l d mails))
    (h : w.db.commit w.clock (.update l d mails) = .ok db') (contact : Contact) :
    (∀ exclude, db'.users.countP (contact.counts exclude) ≤
        w.db.users.countP (contact.counts exclude)) ∨
      (contact, some l.user.id) ∈ c.cleared ∧ db'.users.countP (contact.counts none) ≤
        w.db.users.countP (contact.counts (some l.user.id)) + 1 := by
  obtain ⟨hloaded, huser, -⟩ := hmay
  obtain ⟨user, hrow, -, husers, -⟩ := Db.commit_update h
  by_cases hcleared : (contact, some l.user.id) ∈ c.cleared
  · -- Only the row of the loaded user changes, and the count left it out.
    refine Or.inr ⟨hcleared, ?_⟩
    have hids' : (Keyed.keys db'.users).Nodup := by
      rw [husers, Keyed.keys_modify _ _ (User.key_write _ _)]
      exact hids
    have hrest : db'.users.countP (contact.counts (some l.user.id)) =
        w.db.users.countP (contact.counts (some l.user.id)) := by
      have hcounts : contact.counts (some l.user.id) =
          fun u => contact.counts none u && decide (Keyed.key u ≠ l.user.id) := by
        funext u
        simp [Contact.counts]
      rw [husers, hcounts]
      exact Keyed.countP_modify_ne _ _ (User.key_write _ _) _
    rw [← hrest]
    exact Db.count_le_exclude hids' contact l.user.id
  · -- No row comes to match the contact.
    refine Or.inl fun exclude => ?_
    rw [husers]
    refine Keyed.countP_modify_le _ _ _ _ fun r hr hkey hcounts => ?_
    obtain ⟨u, hu, hrole⟩ := htracked.loadedUser l hloaded
    have hru : r = u := by
      have hget := Keyed.get?_of_mem hids hr
      rw [hkey, hu] at hget
      exact (Option.some.inj hget).symm
    subst hru
    have hkept : (User.write l.user user r).role = r.role := by
      have huserRole : user.role = l.user.role := by
        rw [← huser.role, ← UserDraft.draft_of_toRow hrow]
        rfl
      simp [User.write, huserRole]
    simp only [Contact.counts, Bool.and_eq_true, decide_eq_true_eq, hkept] at hcounts ⊢
    obtain ⟨⟨hstudent, hmatches⟩, hother⟩ := hcounts
    refine ⟨⟨hstudent, ?_⟩, hother⟩
    by_contra hbefore
    exact hcleared (huser.gains hrow hrole hstudent hmatches (by simpa using hbefore))

/-- A registration adds one row. -/
theorem Db.commit_register_count {c : Tx} {user : User} {activation : UserActivation}
    {session : UserSession} {loginLockout : UserLoginLockout} {mail : NewPendingEmail} {db' : Db}
    (hmay : c.MayCommit env (.register user activation session loginLockout mail))
    (h : w.db.commit w.clock (.register user activation session loginLockout mail) = .ok db')
    (contact : Contact) :
    (∀ exclude, db'.users.countP (contact.counts exclude) ≤
        w.db.users.countP (contact.counts exclude)) ∨
      (contact, none) ∈ c.cleared ∧ db'.users.countP (contact.counts none) ≤
        w.db.users.countP (contact.counts none) + 1 := by
  obtain ⟨-, -, hcleared⟩ := hmay
  obtain ⟨-, husers, -⟩ := Db.commit_register h
  by_cases hnew : user.role = .student ∧ contact.matches user = true
  · -- A new student: both contacts were cleared.
    obtain ⟨hstudent, hmatches⟩ := hnew
    obtain ⟨hphone, hemail⟩ := hcleared hstudent
    refine Or.inr ⟨?_, ?_⟩
    · cases contact with
      | phoneNumber number =>
        rw [show number = user.phoneNumber by simpa [Contact.matches, eq_comm] using hmatches]
        exact hphone
      | email address =>
        rw [show address = user.email by simpa [Contact.matches, eq_comm] using hmatches]
        exact hemail
    · rw [husers, List.countP_append]
      exact Nat.add_le_add_left (List.countP_le_length) _
  · refine Or.inl fun exclude => ?_
    have hmiss : contact.counts exclude { user with createdAt := w.clock } = false := by
      have hsame : contact.matches { user with createdAt := w.clock } = contact.matches user := by
        cases contact <;> rfl
      by_contra hcounts
      simp only [Contact.counts, hsame, Bool.not_eq_false, Bool.and_eq_true,
        decide_eq_true_eq] at hcounts
      exact hnew ⟨hcounts.1.1, hcounts.1.2⟩
    rw [husers, List.countP_append, List.countP_singleton, hmiss]
    simp

/-- **A commit raises the count of a contact only if it has cleared it**, and then by one
over the count it cleared it with. -/
theorem Db.commit_count {c : Tx} {d₀ : ℕ} {work : UnitOfWork} {db' : Db}
    (hids : (Keyed.keys w.db.users).Nodup) (htracked : c.Tracked env d₀ w)
    (hmay : c.MayCommit env work) (h : w.db.commit w.clock work = .ok db') (contact : Contact) :
    (∀ exclude, db'.countUsersWithContact (some .student) contact exclude ≤
        w.db.countUsersWithContact (some .student) contact exclude) ∨
      ∃ exclude, (contact, exclude) ∈ c.cleared ∧
        db'.countUsersWithContact (some .student) contact none ≤
          w.db.countUsersWithContact (some .student) contact exclude + 1 := by
  simp only [Db.countUsersWithContact_student]
  cases work with
  | update l d mails =>
    exact (Db.commit_update_count hids htracked hmay h contact).imp_right fun h => ⟨_, h⟩
  | register user activation session loginLockout mail =>
    exact (Db.commit_register_count hmay h contact).imp_right fun h => ⟨_, h⟩

/-! ### The invariant -/

section

variable [DecidableEq ι]

/-- Locks are in the hands of those who say they hold them, and a cleared contact has room
for one more as long as its lock is held. -/
structure Guarded (env : Env) (w : World) (owner : AdvisoryLock → Option ι) (c : ι → Tx) :
    Prop where
  limit : ∀ contact,
    w.db.countUsersWithContact (some .student) contact none ≤ studentMaxSharedContact
  locks : ∀ i, ∀ lock ∈ (c i).locks, owner lock = some i
  cleared : ∀ i, ∀ k ∈ (c i).cleared, k.1.lock env ∈ (c i).locks ∧
    w.db.countUsersWithContact (some .student) k.1 k.2 < studentMaxSharedContact

/-- A step that leaves the users, and the locks a request holds, alone. -/
theorem Guarded.congr {w' : World} {owner owner' : AdvisoryLock → Option ι} {c : ι → Tx} {i : ι}
    {c' : Tx} (h : Guarded env w owner c) (husers : w'.db.users = w.db.users)
    (hlocks : c'.locks ⊆ (c i).locks) (hcleared : c'.cleared ⊆ (c i).cleared)
    (hkeep : ∀ k ∈ c'.cleared, k.1.lock env ∈ c'.locks)
    (howner : ∀ j, ∀ lock ∈ (Function.update c i c' j).locks,
      owner lock = some j → owner' lock = some j) :
    Guarded env w' owner' (Function.update c i c') := by
  have hcount : ∀ contact exclude, w'.db.countUsersWithContact (some .student) contact exclude =
      w.db.countUsersWithContact (some .student) contact exclude := by
    intro contact exclude
    simp only [Db.countUsersWithContact, husers]
  refine ⟨fun contact => ?_, fun j lock hlock => ?_, fun j k hk => ?_⟩
  · rw [hcount]
    exact h.limit contact
  · refine howner j lock hlock ?_
    by_cases hj : j = i
    · subst hj
      rw [Function.update_self] at hlock
      exact h.locks j lock (hlocks hlock)
    · rw [Function.update_of_ne hj] at hlock
      exact h.locks j lock hlock
  · rw [hcount]
    by_cases hj : j = i
    · subst hj
      rw [Function.update_self] at hk ⊢
      exact ⟨hkeep k hk, (h.cleared j k (hcleared hk)).2⟩
    · rw [Function.update_of_ne hj] at hk ⊢
      exact h.cleared j k hk

/-- A request that holds nothing any more: nobody else loses a lock. -/
theorem Guarded.releases {w' : World} {owner : AdvisoryLock → Option ι} {c : ι → Tx} {i : ι}
    {c' : Tx} (h : Guarded env w owner c) (husers : w'.db.users = w.db.users)
    (hlocks : c'.locks = []) (hcleared : c'.cleared = []) :
    Guarded env w' (release i owner) (Function.update c i c') := by
  refine h.congr husers (by simp [hlocks]) (by simp [hcleared]) (by simp [hcleared]) ?_
  intro j lock hlock howner
  by_cases hj : j = i
  · subst hj
    rw [Function.update_self, hlocks] at hlock
    cases hlock
  · exact release_of_ne howner hj

/-- **A commit keeps the limit**, and every contact that another request has cleared. -/
theorem Guarded.commits {d₀ : ℕ} {owner : AdvisoryLock → Option ι} {c : ι → Tx} {i : ι}
    {work : UnitOfWork} {db' : Db} (htracks : Tracks env d₀ w owner c) (h : Guarded env w owner c)
    (hmay : (c i).MayCommit env work) (hcommit : w.db.commit w.clock work = .ok db') :
    Guarded env { w with db := db' } (release i owner)
      (Function.update c i ((c i).commit work)) := by
  have hcount := Db.commit_count htracks.ids (htracks.each i) hmay hcommit
  refine ⟨fun contact => ?_, fun j lock hlock => ?_, fun j k hk => ?_⟩
  · rcases hcount contact with hle | ⟨exclude, hk, hle⟩
    · exact le_trans (hle none) (h.limit contact)
    · exact le_trans hle (h.cleared i _ hk).2
  · by_cases hj : j = i
    · subst hj
      rw [Function.update_self] at hlock
      cases hlock
    · rw [Function.update_of_ne hj] at hlock
      exact release_of_ne (h.locks j lock hlock) hj
  · by_cases hj : j = i
    · subst hj
      rw [Function.update_self] at hk
      cases hk
    · rw [Function.update_of_ne hj] at hk ⊢
      obtain ⟨hlock, hroom⟩ := h.cleared j k hk
      refine ⟨hlock, ?_⟩
      rcases hcount k.1 with hle | ⟨exclude, hmine, -⟩
      · exact lt_of_le_of_lt (hle k.2) hroom
      · -- Both would hold the lock of the contact.
        have howner := h.locks i _ (h.cleared i _ hmine).1
        rw [h.locks j _ hlock] at howner
        exact absurd (Option.some.inj howner) hj

/-- Taking a lock that is free, or already held. -/
theorem Guarded.acquires {owner : AdvisoryLock → Option ι} {c : ι → Tx} {i : ι}
    {lock : AdvisoryLock} (h : Guarded env w owner c)
    (hfree : blocked owner (some lock) i = false) :
    Guarded env w (acquire (some lock) i owner)
      (Function.update c i { c i with locks := lock :: (c i).locks }) := by
  have hmine : ∀ j lock', owner lock' = some j → acquire (some lock) i owner lock' = some j := by
    intro j lock' howner
    by_cases heq : lock' = lock
    · subst heq
      rcases owner_of_not_blocked hfree with hnone | hi
      · rw [hnone] at howner
        cases howner
      · rw [howner] at hi
        simp only [acquire, Function.update_self]
        exact hi.symm
    · simp only [acquire, Function.update_of_ne heq]
      exact howner
  refine ⟨h.limit, fun j lock' hlock' => ?_, fun j k hk => ?_⟩
  · by_cases hj : j = i
    · subst hj
      rw [Function.update_self] at hlock'
      rcases List.mem_cons.mp hlock' with rfl | hlock'
      · simp [acquire]
      · exact hmine j lock' (h.locks j lock' hlock')
    · rw [Function.update_of_ne hj] at hlock'
      exact hmine j lock' (h.locks j lock' hlock')
  · by_cases hj : j = i
    · subst hj
      rw [Function.update_self] at hk ⊢
      obtain ⟨hlock, hroom⟩ := h.cleared j k hk
      exact ⟨List.mem_cons_of_mem _ hlock, hroom⟩
    · rw [Function.update_of_ne hj] at hk ⊢
      exact h.cleared j k hk

/-- Counting clears a contact whose lock is held. -/
theorem Guarded.clears {owner : AdvisoryLock → Option ι} {c : ι → Tx} {i : ι} {contact : Contact}
    {exclude : Option UserId} (h : Guarded env w owner c)
    (hlock : contact.lock env ∈ (c i).locks)
    (hroom : w.db.countUsersWithContact (some .student) contact exclude <
      studentMaxSharedContact) :
    Guarded env w owner
      (Function.update c i { c i with cleared := (contact, exclude) :: (c i).cleared }) := by
  refine ⟨h.limit, fun j lock hlock => ?_, fun j k hk => ?_⟩
  · by_cases hj : j = i
    · subst hj
      rw [Function.update_self] at hlock
      exact h.locks j lock hlock
    · rw [Function.update_of_ne hj] at hlock
      exact h.locks j lock hlock
  · by_cases hj : j = i
    · subst hj
      rw [Function.update_self] at hk ⊢
      rcases List.mem_cons.mp hk with rfl | hk
      · exact ⟨hlock, hroom⟩
      · exact h.cleared j k hk
    · rw [Function.update_of_ne hj] at hk ⊢
      exact h.cleared j k hk

/-- **Clearing is stable under every interleaving.** -/
theorem guarded_inductive (env : Env) (d₀ : ℕ) :
    Pool.Inductive (machine env) (protocol env) (Tx.Post env) Tx.close (fun _ _ _ => True)
      fun w owner c => Tracks (ι := ι) env d₀ w owner c ∧ Guarded env w owner c := by
  refine Tracks.conj ?_ ?_ ?_
  · intro p c i s k w' owner' c' htracks h _ hallowed hfree _ hm
    have hkeep : ∀ k ∈ (c i).cleared, k.1.lock env ∈ (c i).locks :=
      fun k hk => (h.cleared i k hk).1
    -- Everything but the lock steps and the commit leaves users and locks alone.
    have hidle : ∀ w' : World, ∀ c' : Tx, w'.db.users = p.world.db.users →
        c'.locks = (c i).locks → c'.cleared = (c i).cleared →
        Guarded env w' p.owner (Function.update c i c') := by
      intro w' c' husers hlocks hcleared
      refine h.congr husers (by simp [hlocks]) (by simp [hcleared]) ?_ fun _ _ _ howner => howner
      rw [hlocks, hcleared]
      exact hkeep
    cases hm with
    | commits work db' hcommit => exact h.commits htracks hallowed.2 hcommit
    | rollsBack => exact h.releases rfl rfl rfl
    | locks lock => exact h.acquires hfree
    | clears contact exclude hlock hroom => exact h.clears hlock hroom
    | reads _ l => exact hidle _ _ rfl rfl rfl
    | draws => exact hidle _ _ rfl rfl rfl
    | asks id => exact hidle _ _ rfl rfl rfl
    | fills key value => exact hidle _ _ rfl rfl rfl
    | drops keys => exact hidle _ _ rfl rfl rfl
    | idles _ _ husers => exact hidle _ _ husers rfl rfl
  · exact fun w owner c i r _ h => h.releases rfl rfl rfl
  · intro w owner c o h
    cases o with
    | tick d => exact ⟨h.limit, h.locks, h.cleared⟩
    | expire key => exact ⟨h.limit, h.locks, h.cleared⟩

/-- **No schedule of requests breaks the limit**: from a database that respects it, with
distinct ids, every state that any number of requests reach, in any interleaving of their
statements, respects it too. -/
theorem contactLimit_serveAll (env : Env) (w : World) (requests : ι → Request)
    (hids : (Keyed.keys w.db.users).Nodup) (hlimit : w.db.RespectsLimit) (schedule : Schedule ι)
    (p : Pool Stmt Stmt.Reply Exn Response World ι AdvisoryLock)
    (h : w.serveAll env requests schedule = some p) : p.world.db.RespectsLimit := by
  have hstart : Guarded env w (fun _ => none) (Request.histories env requests) := by
    have hblank := Request.histories_blank env requests
    refine ⟨(Db.respectsLimit_iff _).mp hlimit, fun i lock hlock => ?_, fun i k hk => ?_⟩
    · rw [(hblank i).locks] at hlock
      cases hlock
    · rw [(hblank i).cleared] at hk
      cases hk
  obtain ⟨⟨-, hguarded⟩, -⟩ := World.serveAll_invariant (guarded_inductive env w.draws)
    ⟨.start env requests hids, hstart⟩ (Pool.always_true _ _ _) h
  exact (Db.respectsLimit_iff _).mpr hguarded.limit

/-- Ada's phone number, for one more student. -/
def registerSibling (username email : String) (hemail : emailPattern email = true) : Request :=
  .registerUser 1 (.student
    { username := username, firstname := "Grace", lastname := "Lovelace", middlename := none
      phoneNumber := ⟨"+992917000002", by decide⟩, email := ⟨email, hemail⟩ }
    { year := 2010, month := 12, day := 9 } none)

/-- Three siblings of Ada are registered at once. -/
def registerSiblings : Fin 3 → Request
  | 0 => registerSibling "hopper" "grace@school.org" emailPattern_grace
  | 1 => registerSibling "joanna" "joan@school.org" (by decide)
  | 2 => registerSibling "marian" "mary@school.org" (by decide)

/-- The first registration holds the lock of the number until its commit, the second until
its own, and the third finds three students. -/
theorem contactLimit_siblings :
    ∃ p, World.concrete.serveAll Env.concrete registerSiblings
        (List.replicate 8 (.run 0) ++ [.run 1, .run 0] ++ List.replicate 7 (.run 1) ++
          [.env (.tick 1), .run 2, .run 2, .run 2]) = some p ∧
      (p.prog 2).result? = some (.error (.app .maxStudentsPerPhoneNumberError
        "Maximum number of students with this phone number reached")) ∧
      p.world.db.RespectsLimit := by
  have hsome : (World.concrete.serveAll Env.concrete registerSiblings
      (List.replicate 8 (.run 0) ++ [.run 1, .run 0] ++ List.replicate 7 (.run 1) ++
        [.env (.tick 1), .run 2, .run 2, .run 2])).map (fun p => (p.prog 2).result?) =
      some (some (.error (.app .maxStudentsPerPhoneNumberError
        "Maximum number of students with this phone number reached"))) := by decide +kernel
  obtain ⟨p, hp, hresult⟩ := Option.map_eq_some_iff.mp hsome
  refine ⟨p, hp, hresult, contactLimit_serveAll _ _ _ (by decide) ?_ _ p hp⟩
  constructor <;> exact fun text => le_trans List.countP_le_length (by decide)

end

end SmsLite
