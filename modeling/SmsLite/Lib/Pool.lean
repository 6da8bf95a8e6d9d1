import SmsLite.Lib.Prog
import Mathlib.Logic.Function.Basic

/-!
# Interleavings of programs

A pool runs any number of programs against one shared state, one statement of
one program at a time, in any order.  A statement may wait for a lock; a lock
taken is kept until a statement that frees it, or until the program ends.

## Main definitions

* `Machine` — what a statement does to the shared state, which lock it waits
  for, and what the environment may do between statements.
* `Pool`, `Pool.step`, `Pool.exec` — pools, one scheduling step, a schedule.
* `Pool.ghosts` — the typestate a protocol gives every thread after a schedule.
* `Pool.Always` — every step of a schedule meets a condition on the pool and the
  typestates it is taken in.
* `Pool.Conforms` — every program of the pool follows the protocol from its
  ghost typestate.

## Main results

* `Pool.exec_invariant` — **the proof rule**: an invariant over the shared
  state, the locks and the typestates that every allowed statement preserves
  holds after every schedule.
* `Pool.always_of_not` — a condition on every step, read off the end of a schedule.
* `Pool.issues_step` — the rule without typestates, for programs that issue only certain
  statements.
* `Pool.exec_solo` — scheduling one program alone is running it sequentially.
-/

namespace Interleave

/-- The system a pool of programs runs against. -/
structure Machine (S : Type) (R : S → Type) (W L A : Type) where
  /-- The reply to a statement and the state after it. -/
  exec : (s : S) → W → R s × W
  /-- The lock a statement waits for. -/
  lock? : S → Option L
  /-- Whether the program holds no locks after this reply. -/
  frees : (s : S) → R s → Bool
  /-- What the environment does between two statements. -/
  env : A → W → W

/-- A shared state, a program for each thread and the holder of each lock. -/
structure Pool (S : Type) (R : S → Type) (E α W ι L : Type) where
  /-- The shared state. -/
  world : W
  /-- What is left of each program. -/
  prog : ι → Prog S R E α
  /-- The thread that holds a lock. -/
  owner : L → Option ι

/-- A scheduling decision: one statement of a thread, or a move of the environment. -/
inductive Label (ι A : Type)
  /-- Thread `i` executes its next statement. -/
  | run (i : ι)
  /-- The environment moves. -/
  | env (a : A)
  deriving DecidableEq, Repr

variable {S : Type} {R : S → Type} {E α W ι L A σ : Type}

/-- `i` takes the lock, if there is one to take. -/
def acquire [DecidableEq L] (l : Option L) (i : ι) (owner : L → Option ι) : L → Option ι :=
  match l with
  | none => owner
  | some l => Function.update owner l (some i)

section Locks

variable [DecidableEq ι]

/-- `i` gives back all its locks. -/
def release (i : ι) (owner : L → Option ι) : L → Option ι :=
  fun l => if owner l = some i then none else owner l

/-- The lock is in another thread's hands. -/
def blocked (owner : L → Option ι) (l : Option L) (i : ι) : Bool :=
  match l with
  | none => false
  | some l => (owner l).any (· ≠ i)

theorem release_eq_some {i j : ι} {owner : L → Option ι} {l : L}
    (h : release i owner l = some j) : owner l = some j ∧ j ≠ i := by
  unfold release at h
  split at h
  · simp at h
  · next hne => exact ⟨h, fun hji => hne (hji ▸ h)⟩

theorem release_of_ne {i j : ι} {owner : L → Option ι} {l : L}
    (h : owner l = some j) (hne : j ≠ i) : release i owner l = some j := by
  unfold release
  rw [h, if_neg (by simpa using hne)]

/-- A lock that is not blocked is free or already held. -/
theorem owner_of_not_blocked {owner : L → Option ι} {l : L} {i : ι}
    (h : blocked owner (some l) i = false) : owner l = none ∨ owner l = some i := by
  cases ho : owner l with
  | none => exact Or.inl rfl
  | some j =>
    simp only [blocked, ho, Option.any_some, decide_eq_false_iff_not, not_not] at h
    exact Or.inr (by rw [h])

theorem release_release (i : ι) (owner : L → Option ι) :
    release i (release i owner) = release i owner := by
  funext l
  unfold release
  split <;> simp_all

end Locks

variable [DecidableEq ι] [DecidableEq L]

namespace Pool

variable (M : Machine S R W L A)

/-- One scheduling step; `none` when the thread has ended or waits for a lock. -/
def step (p : Pool S R E α W ι L) : Label ι A → Option (Pool S R E α W ι L)
  | .run i =>
    match p.prog i with
    | .stmt s k =>
      if blocked p.owner (M.lock? s) i then none
      else
        let r := M.exec s p.world
        let owner := acquire (M.lock? s) i p.owner
        some
          { world := r.2
            prog := Function.update p.prog i (k r.1)
            owner := if M.frees s r.1 || (k r.1).ended then release i owner else owner }
    | _ => none
  | .env a => some { p with world := M.env a p.world }

/-- A whole schedule; `none` when some step of it cannot be taken. -/
def exec (p : Pool S R E α W ι L) : List (Label ι A) → Option (Pool S R E α W ι L)
  | [] => some p
  | l :: ls => (p.step M l).bind fun q => exec q ls

variable {M}

@[simp] theorem exec_nil (p : Pool S R E α W ι L) : p.exec M [] = some p := rfl

theorem exec_cons (p : Pool S R E α W ι L) (l : Label ι A) (ls : List (Label ι A)) :
    p.exec M (l :: ls) = (p.step M l).bind fun q => q.exec M ls := rfl

/-- A schedule that runs makes its first step. -/
theorem exec_cons_eq_some {p p' : Pool S R E α W ι L} {l : Label ι A} {ls : List (Label ι A)} :
    p.exec M (l :: ls) = some p' ↔ ∃ q, p.step M l = some q ∧ q.exec M ls = some p' := by
  rw [exec_cons]
  exact Option.bind_eq_some_iff

theorem exec_append (p : Pool S R E α W ι L) (ls ls' : List (Label ι A)) :
    p.exec M (ls ++ ls') = (p.exec M ls).bind fun q => q.exec M ls' := by
  induction ls generalizing p with
  | nil => rfl
  | cons l ls ih =>
    rw [List.cons_append, exec_cons, exec_cons]
    cases p.step M l with
    | none => rfl
    | some q => exact ih q

/-- **What one scheduling step can do**: run one statement of one thread that is
not blocked, or let the environment move. -/
theorem step_cases {p q : Pool S R E α W ι L} {l : Label ι A} (h : p.step M l = some q) :
    (∃ i s k, l = .run i ∧ p.prog i = .stmt s k ∧ blocked p.owner (M.lock? s) i = false ∧
      q = { world := (M.exec s p.world).2
            prog := Function.update p.prog i (k (M.exec s p.world).1)
            owner := if M.frees s (M.exec s p.world).1 || (k (M.exec s p.world).1).ended
              then release i (acquire (M.lock? s) i p.owner)
              else acquire (M.lock? s) i p.owner }) ∨
    (∃ a, l = .env a ∧ q = { p with world := M.env a p.world }) := by
  cases l with
  | env a => exact Or.inr ⟨a, rfl, by simpa [step] using h.symm⟩
  | run i =>
    refine Or.inl ?_
    simp only [step] at h
    split at h
    · next s k hp =>
      split at h
      · simp at h
      · next hb => exact ⟨i, s, k, rfl, hp, by simpa using hb, by simpa using h.symm⟩
    · simp at h

/-- A thread that is not blocked runs its next statement. -/
theorem step_stmt {p : Pool S R E α W ι L} {i : ι} {s : S} {k : R s → Prog S R E α}
    (hp : p.prog i = .stmt s k) (hb : blocked p.owner (M.lock? s) i = false) :
    p.step M (.run i) = some
      { world := (M.exec s p.world).2
        prog := Function.update p.prog i (k (M.exec s p.world).1)
        owner := if M.frees s (M.exec s p.world).1 || (k (M.exec s p.world).1).ended
          then release i (acquire (M.lock? s) i p.owner)
          else acquire (M.lock? s) i p.owner } := by
  simp [step, hp, hb]

/-! ### Ghost typestates -/

section Ghost

variable (M) (P : Protocol S R σ) (fin : σ → Except E α → σ)

/-- The typestates after one scheduling step: the protocol advances the thread that moves,
and `fin` closes it when its program ends with this statement. -/
def ghost (p : Pool S R E α W ι L) (c : ι → σ) : Label ι A → ι → σ
  | .run i =>
    match p.prog i with
    | .stmt s k =>
      let r := (M.exec s p.world).1
      Function.update c i
        (match (k r).result? with
          | none => P.next (c i) s r
          | some res => fin (P.next (c i) s r) res)
    | _ => c
  | .env _ => c

/-- The typestates after a schedule. -/
def ghosts : Pool S R E α W ι L → (ι → σ) → List (Label ι A) → ι → σ
  | _, c, [] => c
  | p, c, l :: ls =>
    match p.step M l with
    | none => c
    | some q => ghosts q (p.ghost M P fin c l) ls

/-- Every step of the schedule meets the condition, which may speak of the typestates. -/
def Always (Ok : Pool S R E α W ι L → (ι → σ) → Label ι A → Prop) :
    Pool S R E α W ι L → (ι → σ) → List (Label ι A) → Prop
  | _, _, [] => True
  | p, c, l :: ls => Ok p c l ∧ ∀ q, p.step M l = some q → Always Ok q (p.ghost M P fin c l) ls

variable {M P fin}

@[simp] theorem ghosts_nil (p : Pool S R E α W ι L) (c : ι → σ) :
    p.ghosts M P fin c [] = c := rfl

theorem ghosts_append {p q : Pool S R E α W ι L} {ls : List (Label ι A)} {c : ι → σ}
    (h : p.exec M ls = some q) (ls' : List (Label ι A)) :
    p.ghosts M P fin c (ls ++ ls') = q.ghosts M P fin (p.ghosts M P fin c ls) ls' := by
  induction ls generalizing p c with
  | nil =>
    cases h
    rfl
  | cons l ls ih =>
    obtain ⟨q', hq, h⟩ := exec_cons_eq_some.mp h
    simp only [List.cons_append, ghosts, hq]
    exact ih h

theorem always_append {Ok : Pool S R E α W ι L → (ι → σ) → Label ι A → Prop}
    {p q : Pool S R E α W ι L} {ls ls' : List (Label ι A)} {c : ι → σ}
    (h : p.exec M ls = some q) (hok : p.Always M P fin Ok c (ls ++ ls')) :
    p.Always M P fin Ok c ls ∧ q.Always M P fin Ok (p.ghosts M P fin c ls) ls' := by
  induction ls generalizing p c with
  | nil =>
    cases h
    exact ⟨trivial, hok⟩
  | cons l ls ih =>
    obtain ⟨q', hq, h⟩ := exec_cons_eq_some.mp h
    obtain ⟨hfirst, hlast⟩ := ih h (hok.2 q' hq)
    refine ⟨⟨hok.1, fun q'' hq'' => ?_⟩, ?_⟩
    · rw [hq] at hq''
      cases hq''
      exact hfirst
    · simp only [ghosts, hq]
      exact hlast

/-- A condition that can be decided at every step can be decided of a schedule. -/
instance decidableAlways (Ok : Pool S R E α W ι L → (ι → σ) → Label ι A → Prop)
    [∀ p c l, Decidable (Ok p c l)] :
    (ls : List (Label ι A)) → (p : Pool S R E α W ι L) → (c : ι → σ) →
      Decidable (p.Always M P fin Ok c ls)
  | [], _, _ => isTrue trivial
  | l :: ls, p, c =>
    match h : p.step M l with
    | none => decidable_of_iff (Ok p c l) ⟨fun hok => ⟨hok, by simp [h]⟩, And.left⟩
    | some q =>
      have := decidableAlways Ok ls q (p.ghost M P fin c l)
      decidable_of_iff (Ok p c l ∧ q.Always M P fin Ok (p.ghost M P fin c l) ls)
        ⟨fun hok => ⟨hok.1, fun q' hq' => by rw [h] at hq'; cases hq'; exact hok.2⟩,
          fun hok => ⟨hok.1, hok.2 q h⟩⟩

/-- No condition on the schedule. -/
theorem always_true (p : Pool S R E α W ι L) (c : ι → σ) (ls : List (Label ι A)) :
    p.Always M P fin (fun _ _ _ => True) c ls := by
  induction ls generalizing p c with
  | nil => trivial
  | cons l ls ih => exact ⟨trivial, fun q _ => ih q _⟩

end Ghost

/-! ### The proof rule -/

/-- A thread still running follows the protocol from its typestate; one that has ended met
its postcondition, and its typestate is what `fin` makes of the last one. -/
def Conforms (P : Protocol S R σ) (post : σ → Except E α → Prop)
    (fin : σ → Except E α → σ) (p : Pool S R E α W ι L) (c : ι → σ) : Prop :=
  ∀ i, match (p.prog i).result? with
    | none => Prog.Follows P post (c i) (p.prog i)
    | some r => ∃ c₀, post c₀ r ∧ c i = fin c₀ r

/-- The typestates at the start, where a program may have ended without a statement. -/
def close (fin : σ → Except E α → σ) (prog : ι → Prog S R E α) (c : ι → σ) : ι → σ := fun i =>
  match (prog i).result? with
  | none => c i
  | some r => fin (c i) r

/-- What has to be shown of an invariant over the shared state, the locks and
the typestates.  `Ok` is a condition every step of the schedule is known to
meet. -/
structure Inductive (M : Machine S R W L A) (P : Protocol S R σ)
    (post : σ → Except E α → Prop) (fin : σ → Except E α → σ)
    (Ok : Pool S R E α W ι L → (ι → σ) → Label ι A → Prop)
    (I : W → (L → Option ι) → (ι → σ) → Prop) : Prop where
  /-- An allowed statement gets a reply the program relies on and keeps the invariant. -/
  stmt : ∀ (p : Pool S R E α W ι L) (c : ι → σ) (i : ι) (s : S) (k : R s → Prog S R E α),
    I p.world p.owner c → p.prog i = .stmt s k → P.allowed (c i) s →
    blocked p.owner (M.lock? s) i = false → Ok p c (.run i) →
    P.replies (c i) s (M.exec s p.world).1 ∧
      I (M.exec s p.world).2
        (if M.frees s (M.exec s p.world).1 then release i (acquire (M.lock? s) i p.owner)
          else acquire (M.lock? s) i p.owner)
        (Function.update c i (P.next (c i) s (M.exec s p.world).1))
  /-- So does the end of a program, which gives its locks back. -/
  fin : ∀ (w : W) (owner : L → Option ι) (c : ι → σ) (i : ι) (r : Except E α),
    I w owner c → post (c i) r → I w (release i owner) (Function.update c i (fin (c i) r))
  /-- So does the environment. -/
  env : ∀ (w : W) (owner : L → Option ι) (c : ι → σ) (a : A),
    I w owner c → I (M.env a w) owner c

omit [DecidableEq ι] [DecidableEq L] in
theorem follows_iff_post {P : Protocol S R σ} {post : σ → Except E α → Prop} {c : σ}
    {p : Prog S R E α} {r : Except E α} (h : p.result? = some r) :
    Prog.Follows P post c p ↔ post c r := by
  cases p with
  | pure a => cases h; exact Iff.rfl
  | raise e => cases h; exact Iff.rfl
  | stmt s k => simp [Prog.result?] at h

omit [DecidableEq ι] [DecidableEq L] in
/-- Programs that follow the protocol conform to it. -/
theorem Conforms.close {P : Protocol S R σ} {post : σ → Except E α → Prop}
    {fin : σ → Except E α → σ} {p : Pool S R E α W ι L} {c : ι → σ}
    (h : ∀ i, Prog.Follows P post (c i) (p.prog i)) :
    p.Conforms P post fin (Pool.close fin p.prog c) := by
  intro i
  cases hr : (p.prog i).result? with
  | none =>
    simp only [Pool.close, hr]
    exact h i
  | some r =>
    simp only [Pool.close, hr]
    exact ⟨c i, (follows_iff_post hr).mp (h i), rfl⟩

section Rule

variable {P : Protocol S R σ} {post : σ → Except E α → Prop} {fin : σ → Except E α → σ}
  {Ok : Pool S R E α W ι L → (ι → σ) → Label ι A → Prop} {I : W → (L → Option ι) → (ι → σ) → Prop}

/-- One step of the rule. -/
theorem Inductive.step (hI : Inductive M P post fin Ok I) {p q : Pool S R E α W ι L}
    {l : Label ι A} {c : ι → σ} (hinv : I p.world p.owner c) (hc : p.Conforms P post fin c)
    (hok : Ok p c l) (h : p.step M l = some q) :
    I q.world q.owner (p.ghost M P fin c l) ∧ q.Conforms P post fin (p.ghost M P fin c l) := by
  rcases step_cases h with ⟨i, s, k, rfl, hp, hb, rfl⟩ | ⟨a, rfl, rfl⟩
  · have hi := hc i
    simp only [hp, Prog.result?] at hi
    obtain ⟨hr, hinv'⟩ := hI.stmt p c i s k hinv hp hi.1 hb hok
    have hfol := hi.2 _ hr
    simp only [ghost, hp]
    generalize M.exec s p.world = r at *
    -- The program goes on, or this was its last statement and its locks are freed.
    cases hend : (k r.1).result? with
    | none =>
      have hne : (k r.1).ended = false := by
        cases hk : k r.1 <;> simp_all [Prog.result?, Prog.ended]
      refine ⟨by simpa [hne] using hinv', fun j => ?_⟩
      by_cases hj : j = i
      · subst hj
        simpa [hend] using hfol
      · simpa [hj] using hc j
    | some res =>
      have hne : (k r.1).ended = true := by
        cases hk : k r.1 <;> simp_all [Prog.result?, Prog.ended]
      have hpost := (follows_iff_post hend).mp hfol
      have hfin := hI.fin _ _ _ i res hinv' (by simpa using hpost)
      refine ⟨?_, fun j => ?_⟩
      · simp only [Function.update_self, Function.update_idem] at hfin
        simp only [hne, Bool.or_true, if_true]
        split at hfin
        · rw [release_release] at hfin
          exact hfin
        · exact hfin
      · by_cases hj : j = i
        · subst hj
          simp only [Function.update_self, hend]
          exact ⟨_, hpost, rfl⟩
        · simpa [hj] using hc j
  · exact ⟨hI.env _ _ _ a hinv, hc⟩

/-- **The proof rule.**  An inductive invariant that holds at the start, with
every program following the protocol, holds after every schedule whose steps
meet the condition. -/
theorem exec_invariant (hI : Inductive M P post fin Ok I) {p p' : Pool S R E α W ι L}
    {ls : List (Label ι A)} {c : ι → σ} (hinv : I p.world p.owner c)
    (hc : p.Conforms P post fin c) (hok : p.Always M P fin Ok c ls) (h : p.exec M ls = some p') :
    I p'.world p'.owner (p.ghosts M P fin c ls) ∧
      p'.Conforms P post fin (p.ghosts M P fin c ls) := by
  induction ls generalizing p c with
  | nil =>
    cases h
    exact ⟨hinv, hc⟩
  | cons l ls ih =>
    obtain ⟨q, hq, h⟩ := exec_cons_eq_some.mp h
    obtain ⟨hinv', hc'⟩ := hI.step hinv hc hok.1 hq
    simp only [ghosts, hq]
    exact ih hinv' hc' (hok.2 q hq) h

/-- **A condition read off the end**: when every step that breaks it leads to `J`, and `J`
lasts, a schedule that ends outside `J` has met the condition at every step. -/
theorem always_of_not {J : W → (L → Option ι) → (ι → σ) → Prop}
    (hI : Inductive M P post fin (fun _ _ _ => True) I)
    (hJ : Inductive M P post fin (fun _ _ _ => True) fun w owner c => I w owner c ∧ J w owner c)
    (hbreak : ∀ (p q : Pool S R E α W ι L) (c : ι → σ) (l : Label ι A),
      I p.world p.owner c → p.Conforms P post fin c → p.step M l = some q → ¬ Ok p c l →
        J q.world q.owner (p.ghost M P fin c l))
    {p p' : Pool S R E α W ι L} {ls : List (Label ι A)} {c : ι → σ}
    (hinv : I p.world p.owner c) (hc : p.Conforms P post fin c) (h : p.exec M ls = some p')
    (hend : ¬ J p'.world p'.owner (p.ghosts M P fin c ls)) : p.Always M P fin Ok c ls := by
  induction ls generalizing p c with
  | nil => trivial
  | cons l ls ih =>
    obtain ⟨q, hq, h⟩ := exec_cons_eq_some.mp h
    simp only [ghosts, hq] at hend
    obtain ⟨hinv', hc'⟩ := hI.step hinv hc trivial hq
    refine ⟨?_, fun q' hq' => ?_⟩
    · -- A step that breaks it now would still show at the end.
      by_contra hbroken
      have hlast := hbreak p q c l hinv hc hq hbroken
      exact hend (exec_invariant hJ ⟨hinv', hlast⟩ hc' (always_true _ _ _) h).1.2
    · rw [hq] at hq'
      cases hq'
      exact ih hinv' hc' h hend

/-- Two invariants at once: the second may lean on the first, and on a condition on the
schedule. -/
theorem Inductive.conj {Ok' : Pool S R E α W ι L → (ι → σ) → Label ι A → Prop}
    {J : W → (L → Option ι) → (ι → σ) → Prop} (hI : Inductive M P post fin Ok I)
    (hok : ∀ p c l, Ok' p c l → Ok p c l)
    (hstmt : ∀ (p : Pool S R E α W ι L) (c : ι → σ) (i : ι) (s : S) (k : R s → Prog S R E α),
      I p.world p.owner c → J p.world p.owner c → p.prog i = .stmt s k → P.allowed (c i) s →
      blocked p.owner (M.lock? s) i = false → Ok' p c (.run i) →
      J (M.exec s p.world).2
        (if M.frees s (M.exec s p.world).1 then release i (acquire (M.lock? s) i p.owner)
          else acquire (M.lock? s) i p.owner)
        (Function.update c i (P.next (c i) s (M.exec s p.world).1)))
    (hfin : ∀ (w : W) (owner : L → Option ι) (c : ι → σ) (i : ι) (r : Except E α),
      I w owner c → J w owner c → post (c i) r →
        J w (release i owner) (Function.update c i (fin (c i) r)))
    (henv : ∀ (w : W) (owner : L → Option ι) (c : ι → σ) (a : A),
      J w owner c → J (M.env a w) owner c) :
    Inductive M P post fin Ok' fun w owner c => I w owner c ∧ J w owner c where
  stmt p c i s k hinv hp hallowed hb hrun := by
    obtain ⟨hr, hnext⟩ := hI.stmt p c i s k hinv.1 hp hallowed hb (hok _ _ _ hrun)
    exact ⟨hr, hnext, hstmt p c i s k hinv.1 hinv.2 hp hallowed hb hrun⟩
  fin w owner c i r hinv hpost :=
    ⟨hI.fin w owner c i r hinv.1 hpost, hfin w owner c i r hinv.1 hinv.2 hpost⟩
  env w owner c a hinv := ⟨hI.env w owner c a hinv.1, henv w owner c a hinv.2⟩

end Rule

/-! ### Programs that issue only certain statements -/

/-- Whatever is left of such a program after a step is such a program. -/
theorem issues_step {B : (s : S) → R s → Prop} (hB : ∀ s w, B s (M.exec s w).1)
    {C : ι → S → Prop} {p q : Pool S R E α W ι L} {l : Label ι A} (hq : p.step M l = some q)
    (h : ∀ i, Prog.Issues (C i) B (p.prog i)) (i : ι) : Prog.Issues (C i) B (q.prog i) := by
  rcases step_cases hq with ⟨j, s, k, rfl, hp, -, rfl⟩ | ⟨a, rfl, rfl⟩
  · by_cases hi : i = j
    · subst hi
      have hprog := h i
      rw [hp] at hprog
      simpa using (Prog.issues_stmt.mp hprog).2 _ (hB s p.world)
    · simpa [hi] using h i
  · exact h i

/-! ### Threads that are not scheduled -/

/-- A thread without a step in the schedule stays where it is. -/
theorem exec_unscheduled {P : Protocol S R σ} {fin : σ → Except E α → σ}
    {p p' : Pool S R E α W ι L} {ls : List (Label ι A)} {c : ι → σ} (h : p.exec M ls = some p')
    {i : ι} (hi : Label.run i ∉ ls) :
    p'.prog i = p.prog i ∧ p.ghosts M P fin c ls i = c i := by
  induction ls generalizing p c with
  | nil =>
    cases h
    exact ⟨rfl, rfl⟩
  | cons l ls ih =>
    obtain ⟨q, hq, h⟩ := exec_cons_eq_some.mp h
    rw [List.mem_cons, not_or] at hi
    obtain ⟨hprog, hghost⟩ := ih (c := p.ghost M P fin c l) h hi.2
    simp only [ghosts, hq]
    rw [hprog, hghost]
    rcases step_cases hq with ⟨j, s, k, rfl, hp, -, rfl⟩ | ⟨a, rfl, rfl⟩
    · have hne : i ≠ j := fun hij => hi.1 (hij ▸ rfl)
      simp only [ghost, hp]
      exact ⟨Function.update_of_ne hne _ _, Function.update_of_ne hne _ _⟩
    · exact ⟨rfl, rfl⟩

/-! ### A program alone -/

omit [DecidableEq L] in
/-- Nobody is blocked who holds all the locks that are held. -/
theorem not_blocked_of_sole {owner : L → Option ι} {i : ι} (h : ∀ l j, owner l = some j → j = i)
    (lock? : Option L) : blocked owner lock? i = false := by
  cases lock? with
  | none => rfl
  | some l =>
    cases ho : owner l with
    | none => simp [blocked, ho]
    | some j => simp [blocked, ho, h l j ho]

omit [DecidableEq ι] in
/-- One more lock stays in the same hands. -/
theorem sole_acquire {owner : L → Option ι} {i : ι} (h : ∀ l j, owner l = some j → j = i)
    {lock? : Option L} {l : L} {j : ι} (hl : acquire lock? i owner l = some j) : j = i := by
  cases lock? with
  | none => exact h l j hl
  | some l' =>
    simp only [acquire, Function.update_apply] at hl
    split at hl
    · exact (Option.some.inj hl).symm
    · exact h l j hl

/-- **Scheduling one program alone is running it sequentially**: when no other
thread holds a lock, some number of its own steps takes it to its end, with the
result and the state of `Prog.run`. -/
theorem exec_solo (i : ι) (prog : Prog S R E α) :
    ∀ p : Pool S R E α W ι L, p.prog i = prog → (∀ l j, p.owner l = some j → j = i) →
      ∃ n q, p.exec M (List.replicate n (.run i)) = some q ∧
        q.world = (Prog.run M.exec prog p.world).2 ∧
        (q.prog i).result? = some (Prog.run M.exec prog p.world).1 ∧
        ∀ j, j ≠ i → q.prog j = p.prog j := by
  induction prog with
  | pure a => exact fun p hp _ => ⟨0, p, rfl, rfl, by simp [hp, Prog.result?], fun _ _ => rfl⟩
  | raise e => exact fun p hp _ => ⟨0, p, rfl, rfl, by simp [hp, Prog.result?], fun _ _ => rfl⟩
  | stmt s k ih =>
    intro p hp hfree
    have hb := not_blocked_of_sole hfree (M.lock? s)
    let r := M.exec s p.world
    let q : Pool S R E α W ι L :=
      { world := r.2
        prog := Function.update p.prog i (k r.1)
        owner := if M.frees s r.1 || (k r.1).ended
          then release i (acquire (M.lock? s) i p.owner) else acquire (M.lock? s) i p.owner }
    have hq : p.step M (.run i) = some q := step_stmt hp hb
    have hfree' : ∀ l j, q.owner l = some j → j = i := by
      intro l j h
      simp only [q] at h
      split at h
      · exact sole_acquire hfree (release_eq_some h).1
      · exact sole_acquire hfree h
    -- The rest of the program runs alone as well, from the state after the statement.
    obtain ⟨n, q', hexec, hw, hres, hoth⟩ := ih r.1 q (by simp [q]) hfree'
    refine ⟨n + 1, q', ?_, hw, hres, fun j hj => ?_⟩
    · rw [List.replicate_succ, exec_cons, hq]
      exact hexec
    · rw [hoth j hj]
      simp [q, hj]

end Pool

end Interleave
