import SmsLite.Lib.Prog

/-!
# Programs that fail without a trace

Some replies commit what a program has done so far.  A program is atomic with respect to a
class of exceptions if it never raises one of them once it has committed, so that a run that
ends in such an exception has committed nothing.

## Main definitions

* `Prog.commitProtocol` — the typestate that remembers whether the program has committed.
* `Prog.Atomic` — no exception of the class after a commit.

## Main results

* `Prog.Atomic.quiet_bind`, `Prog.Atomic.call_bind` — the rules of sequencing.
* `Prog.Atomic.run_view` — **a run of an atomic program that ends in an exception of the class
  leaves everything as it was that only commits change**.
-/

namespace Interleave

namespace Prog

variable {S : Type} {R : S → Type} {E α β W V : Type}

/-- A protocol that allows everything and remembers whether a reply has committed. -/
def commitProtocol (commits : (s : S) → R s → Bool) : Protocol S R Bool where
  allowed _ _ := True
  replies _ _ _ := True
  next c s r := c || commits s r

/-- The program, which has committed before if `c` says so, raises no `bad` exception once it
has committed. -/
def Atomic (commits : (s : S) → R s → Bool) (bad : E → Prop) (c : Bool) (p : Prog S R E α) :
    Prop :=
  Follows (commitProtocol commits) (fun c r => c = true → ∀ e, r = .error e → ¬ bad e) c p

variable {commits : (s : S) → R s → Bool} {bad : E → Prop} {c : Bool}

/-! ### Rules -/

theorem atomic_pure (a : α) : Atomic commits bad c (.pure a : Prog S R E α) := by
  intro _ e h
  cases h

/-- Before a commit any exception may be raised. -/
theorem atomic_raise (e : E) : Atomic commits bad false (.raise e : Prog S R E α) := by
  intro h
  cases h

/-- After one, only those outside the class. -/
theorem atomic_raise_of_not {e : E} (h : ¬ bad e) :
    Atomic commits bad c (.raise e : Prog S R E α) := by
  intro _ e' he
  cases he
  exact h

/-- The rule of one statement. -/
theorem Atomic.call_bind {s : S} {f : R s → Prog S R E α}
    (h : ∀ r, Atomic commits bad (c || commits s r) (f r)) :
    Atomic commits bad c (call s >>= f) := ⟨trivial, fun r _ => h r⟩

/-- A program that commits nothing may come first. -/
theorem Atomic.quiet_bind {p : Prog S R E α} {f : α → Prog S R E β}
    (hp : Issues (fun s => ∀ r, commits s r = false) (fun _ _ => True) p)
    (hf : ∀ a, Atomic commits bad false (f a)) : Atomic commits bad false (p >>= f) := by
  induction p with
  | pure a => exact hf a
  | raise e => exact atomic_raise e
  | stmt s k ih =>
    obtain ⟨hs, hk⟩ := issues_stmt.mp hp
    refine ⟨trivial, fun r _ => ?_⟩
    have hnext : (commitProtocol commits).next false s r = false := hs r
    rw [hnext]
    exact ih r (hk r trivial)

/-- Such a program is atomic itself. -/
theorem Atomic.of_quiet {p : Prog S R E α}
    (hp : Issues (fun s => ∀ r, commits s r = false) (fun _ _ => True) p) :
    Atomic commits bad false p := by
  induction p with
  | pure a => exact atomic_pure a
  | raise e => exact atomic_raise e
  | stmt s k ih =>
    obtain ⟨hs, hk⟩ := issues_stmt.mp hp
    refine ⟨trivial, fun r _ => ?_⟩
    have hnext : (commitProtocol commits).next false s r = false := hs r
    rw [hnext]
    exact ih r (hk r trivial)

/-- After a commit, what raises nothing of the class may come first. -/
theorem Atomic.bind {p : Prog S R E α} {f : α → Prog S R E β} (hp : Atomic commits bad true p)
    (hf : ∀ a, Atomic commits bad true (f a)) : Atomic commits bad true (p >>= f) := by
  induction p with
  | pure a => exact hf a
  | raise e => exact atomic_raise_of_not (hp rfl e rfl)
  | stmt s k ih => exact ⟨trivial, fun r _ => ih r (hp.2 r trivial)⟩

/-- A function applied to the value. -/
theorem Atomic.map {p : Prog S R E α} (hp : Atomic commits bad c p) (f : α → β) :
    Atomic commits bad c (f <$> p) := by
  refine (follows_map f p).mpr (hp.mono fun c r hr hc e he => ?_)
  cases r with
  | ok a => cases he
  | error e' =>
    cases he
    exact hr hc e rfl

/-! ### Runs -/

variable {exec : (s : S) → W → R s × W}

/-- After a commit the program does not end in an exception of the class. -/
theorem Atomic.not_bad {p : Prog S R E α} (h : Atomic commits bad true p) {w : W} {e : E}
    (he : (run exec p w).1 = .error e) : ¬ bad e := by
  induction p generalizing w with
  | pure a => cases he
  | raise e' =>
    cases he
    exact h rfl e rfl
  | stmt s k ih => exact ih (exec s w).1 (h.2 _ trivial) he

/-- **A run that ends in an exception of the class leaves no trace.** -/
theorem Atomic.run_view {view : W → V}
    (hview : ∀ s w, commits s (exec s w).1 = false → view (exec s w).2 = view w)
    {p : Prog S R E α} (h : Atomic commits bad false p) {w : W} {e : E}
    (he : (run exec p w).1 = .error e) (hbad : bad e) : view (run exec p w).2 = view w := by
  induction p generalizing w with
  | pure a => rfl
  | raise e' => rfl
  | stmt s k ih =>
    have hrest : Atomic commits bad (commits s (exec s w).1) (k (exec s w).1) := h.2 _ trivial
    cases hcommits : commits s (exec s w).1 with
    | true =>
      rw [hcommits] at hrest
      exact absurd hbad (hrest.not_bad he)
    | false =>
      rw [hcommits] at hrest
      exact (ih _ hrest he).trans (hview s w hcommits)

/-- The same as a postcondition. -/
theorem Atomic.ends {view : W → V}
    (hview : ∀ s w, commits s (exec s w).1 = false → view (exec s w).2 = view w)
    {p : Prog S R E α} (h : Atomic commits bad false p) (w : W) :
    Ends exec p (fun r w' => ∀ e, r = .error e → bad e → view w' = view w) w :=
  fun _ he hbad => h.run_view hview he hbad

end Prog

end Interleave
