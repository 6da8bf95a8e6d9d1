import Mathlib.Logic.Relation
import SmsLite.Lib.Pool

/-!
# Deadlock freedom by lock order

A thread of a pool waits for another one when its next statement asks for a lock that the
other one holds.  If every thread asks for its locks in ascending rank, the ranks ascend
along a chain of waiting threads, so the chain never closes to a cycle.

## Main definitions

* `Pool.Waits`, `Pool.WaitCycle` — the wait-for graph and its cycles.
* `Ascending` — a protocol that makes a program ask for its locks in ascending rank.

## Main results

* `Pool.not_waitCycle_of_rank` — held locks below the requested one leave no cycle.
* `Pool.not_waitCycle` — **programs that follow an ascending protocol never deadlock**.
-/

namespace Interleave

variable {S : Type} {R : S → Type} {E α W ι L A σ : Type} [DecidableEq ι] [DecidableEq L]

namespace Pool

/-- `i` waits for `j`: its next statement asks for a lock that `j` holds. -/
def Waits (M : Machine S R W L A) (p : Pool S R E α W ι L) (i j : ι) : Prop :=
  ∃ s l, (p.prog i).head? = some s ∧ M.lock? s = some l ∧ p.owner l = some j ∧ j ≠ i

/-- Some thread waits, over other threads, for itself. -/
def WaitCycle (M : Machine S R W L A) (p : Pool S R E α W ι L) : Prop :=
  ∃ i, Relation.TransGen (Waits M p) i i

variable {M : Machine S R W L A} {p : Pool S R E α W ι L}

omit [DecidableEq ι] [DecidableEq L] in
/-- Who is waited for along a chain holds a lock no lower than the one asked for at its
start. -/
theorem rank_le_of_transGen {rank : L → ℕ}
    (h : ∀ i s l l', (p.prog i).head? = some s → M.lock? s = some l → p.owner l' = some i →
      rank l' < rank l) {i j : ι} (hij : Relation.TransGen (Waits M p) i j) :
    ∃ s l l', (p.prog i).head? = some s ∧ M.lock? s = some l ∧ p.owner l' = some j ∧
      rank l ≤ rank l' := by
  induction hij with
  | single hwaits =>
    obtain ⟨s, l, hs, hl, howner, -⟩ := hwaits
    exact ⟨s, l, l, hs, hl, howner, Nat.le_refl _⟩
  | tail _ hwaits ih =>
    obtain ⟨s, l, l', hs, hl, howner, hle⟩ := ih
    obtain ⟨s', l'', hs', hl'', howner', -⟩ := hwaits
    -- The last but one holds `l'` and asks for `l''`, which is higher.
    have hlt := h _ s' l'' l' hs' hl'' howner
    exact ⟨s, l, l'', hs, hl, howner', Nat.le_trans hle (Nat.le_of_lt hlt)⟩

omit [DecidableEq ι] [DecidableEq L] in
/-- If every thread holds only locks below the one it asks for, nobody waits for itself. -/
theorem not_waitCycle_of_rank (rank : L → ℕ)
    (h : ∀ i s l l', (p.prog i).head? = some s → M.lock? s = some l → p.owner l' = some i →
      rank l' < rank l) : ¬ p.WaitCycle M := by
  rintro ⟨i, hcycle⟩
  obtain ⟨s, l, l', hs, hl, howner, hle⟩ := rank_le_of_transGen h hcycle
  have hlt := h i s l l' hs hl howner
  omega

end Pool

/-- The protocol makes a program ask for its locks in ascending rank: `level c` bounds the
ranks of the locks asked for so far. -/
structure Ascending (M : Machine S R W L A) (P : Protocol S R σ) (rank : L → ℕ)
    (level : σ → ℕ) : Prop where
  /-- A lock asked for is above those before it. -/
  asks : ∀ c s l, P.allowed c s → M.lock? s = some l → level c < rank l
  /-- It counts from then on. -/
  takes : ∀ c s r l, P.allowed c s → M.lock? s = some l → rank l ≤ level (P.next c s r)
  /-- The level never falls. -/
  rises : ∀ c s r, P.allowed c s → level c ≤ level (P.next c s r)
  /-- The program relies on no reply that the machine does not give. -/
  replies : ∀ c s w, P.replies c s (M.exec s w).1

namespace Pool

variable {M : Machine S R W L A} {P : Protocol S R σ} {rank : L → ℕ} {level : σ → ℕ}

/-- A thread holds only locks it has asked for. -/
theorem Inductive.ascending (h : Ascending M P rank level) :
    Inductive (E := E) (α := α) (ι := ι) M P (fun _ _ => True) (fun c _ => c) (fun _ _ _ => True)
      fun _ owner c => ∀ l i, owner l = some i → rank l ≤ level (c i) where
  stmt p c i s k hinv _ hallowed hfree _ := by
    refine ⟨h.replies _ _ _, ?_⟩
    intro l j howner
    have hacquired : acquire (M.lock? s) i p.owner l = some j := by
      split at howner
      · exact (release_eq_some howner).1
      · exact howner
    by_cases hj : j = i
    · subst hj
      rw [Function.update_self]
      cases hlock : M.lock? s with
      | none =>
        rw [hlock] at hacquired
        exact Nat.le_trans (hinv l j hacquired) (h.rises _ _ _ hallowed)
      | some l' =>
        rw [hlock] at hacquired
        by_cases hl : l = l'
        · subst hl
          exact h.takes _ _ _ _ hallowed hlock
        · have hbefore : p.owner l = some j := by
            simpa only [acquire, Function.update_of_ne hl] using hacquired
          exact Nat.le_trans (hinv l j hbefore) (h.rises _ _ _ hallowed)
    · rw [Function.update_of_ne hj]
      refine hinv l j ?_
      -- What another thread holds it has held before.
      cases hlock : M.lock? s with
      | none =>
        rw [hlock] at hacquired
        exact hacquired
      | some l' =>
        rw [hlock] at hacquired
        by_cases hl : l = l'
        · subst hl
          simp only [acquire, Function.update_self, Option.some.injEq] at hacquired
          exact absurd hacquired.symm hj
        · simpa only [acquire, Function.update_of_ne hl] using hacquired
  fin w owner c i r hinv _ := by
    intro l j howner
    have hbefore := hinv l j (release_eq_some howner).1
    rwa [Function.update_eq_self]
  env _ _ _ _ hinv := hinv

/-- **Programs that follow an ascending protocol never deadlock**: no schedule leads to a
cycle of threads that wait for one another. -/
theorem not_waitCycle (h : Ascending M P rank level) {p p' : Pool S R E α W ι L}
    {ls : List (Label ι A)} (c : ι → σ) (howner : ∀ l, p.owner l = none)
    (hfollows : ∀ i, Prog.Follows P (fun _ _ => True) (c i) (p.prog i))
    (hexec : p.exec M ls = some p') : ¬ p'.WaitCycle M := by
  have hconforms : p.Conforms P (fun _ _ => True) (fun c _ => c) (close (fun c _ => c) p.prog c) :=
    Conforms.close hfollows
  have hnone : ∀ l i, p.owner l = some i →
      rank l ≤ level (close (fun c _ => c) p.prog c i) := by
    intro l i hl
    rw [howner l] at hl
    cases hl
  obtain ⟨hinv, hconforms'⟩ :=
    exec_invariant (Inductive.ascending h) hnone hconforms (always_true _ _ _) hexec
  refine not_waitCycle_of_rank rank fun i s l l' hs hl hheld => ?_
  -- The thread is running, so it is allowed to ask for the lock.
  have hi := hconforms' i
  cases hprog : p'.prog i with
  | pure a =>
    rw [hprog] at hs
    cases hs
  | raise e =>
    rw [hprog] at hs
    cases hs
  | stmt s' k =>
    rw [hprog] at hs hi
    cases hs
    have hallowed := hi.1
    have hbelow := hinv l' i hheld
    have habove := h.asks _ _ _ hallowed hl
    omega

end Pool

end Interleave
