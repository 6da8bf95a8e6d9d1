import SmsLite.Lib.Prog

/-!
# Runs whose statements are checked

A server may refuse a statement for what it is sent, whatever the program makes of the refusal.
A run passes if every statement it issues fits the state it is issued in, and it ends as it
should.

## Main definitions

* `Prog.Checked` — every statement of the run fits.
* `Prog.Passes` — it does, and the run ends with a postcondition.
* `Prog.runUnless` — the run that a refused statement ends.

## Main results

* `Prog.passes_bind`, `Prog.passes_call` — the rules of sequencing and of one statement.
* `Prog.runUnless_eq_run` — a run without a refused statement is the sequential one.
-/

namespace Interleave

namespace Prog

variable {S : Type} {R : S → Type} {E α β W : Type}

/-- Every statement that the run of the program issues fits the state it is issued in. -/
def Checked (fits : S → W → Prop) (exec : (s : S) → W → R s × W) : Prog S R E α → W → Prop
  | .stmt s k, w => fits s w ∧ Checked fits exec (k (exec s w).1) (exec s w).2
  | _, _ => True

/-- The rule of one statement. -/
theorem checked_call {fits : S → W → Prop} {exec : (s : S) → W → R s × W} {s : S}
    {f : R s → Prog S R E α} {w : W} (hs : fits s w)
    (h : Checked fits exec (f (exec s w).1) (exec s w).2) : Checked fits exec (call s >>= f) w :=
  ⟨hs, h⟩

/-- The same, if the reply is known. -/
theorem checked_stmt_eq {fits : S → W → Prop} {exec : (s : S) → W → R s × W} {s : S}
    {k : R s → Prog S R E α} {w w' : W} {r : R s} (hr : exec s w = (r, w')) (hs : fits s w)
    (h : Checked fits exec (k r) w') : Checked fits exec (.stmt s k) w := by
  refine ⟨hs, ?_⟩
  rw [hr]
  exact h

theorem checked_call_eq {fits : S → W → Prop} {exec : (s : S) → W → R s × W} {s : S}
    {f : R s → Prog S R E α} {w w' : W} {r : R s} (hr : exec s w = (r, w')) (hs : fits s w)
    (h : Checked fits exec (f r) w') : Checked fits exec (call s >>= f) w :=
  checked_stmt_eq hr hs h

/-- Every statement fits, and the run ends with a result and in a state that meet `Q`. -/
def Passes (fits : S → W → Prop) (exec : (s : S) → W → R s × W) (p : Prog S R E α)
    (Q : Except E α → W → Prop) (w : W) : Prop :=
  Checked fits exec p w ∧ Ends exec p Q w

variable {fits : S → W → Prop} {exec : (s : S) → W → R s × W} {Q : Except E α → W → Prop}

@[simp] theorem passes_pure (a : α) (w : W) :
    Passes fits exec (Prog.pure a : Prog S R E α) Q w ↔ Q (.ok a) w :=
  and_iff_right trivial

@[simp] theorem passes_raise (e : E) (w : W) :
    Passes fits exec (Prog.raise e : Prog S R E α) Q w ↔ Q (.error e) w :=
  and_iff_right trivial

/-- The rule of one statement. -/
theorem passes_stmt (s : S) (k : R s → Prog S R E α) (w : W) :
    Passes fits exec (.stmt s k) Q w ↔
      fits s w ∧ Passes fits exec (k (exec s w).1) Q (exec s w).2 := and_assoc

/-- The same, if the reply is known. -/
theorem passes_stmt_eq {s : S} {k : R s → Prog S R E α} {w w' : W} {r : R s}
    (h : exec s w = (r, w')) :
    Passes fits exec (.stmt s k) Q w ↔ fits s w ∧ Passes fits exec (k r) Q w' := by
  rw [passes_stmt, h]

theorem passes_call (s : S) (f : R s → Prog S R E α) (w : W) :
    Passes fits exec (call s >>= f) Q w ↔
      fits s w ∧ Passes fits exec (f (exec s w).1) Q (exec s w).2 := passes_stmt s f w

/-- The rule of a statement that is never refused. -/
theorem passes_call_of (s : S) (f : R s → Prog S R E α) {w : W} (h : fits s w) :
    Passes fits exec (call s >>= f) Q w ↔ Passes fits exec (f (exec s w).1) Q (exec s w).2 :=
  (passes_call s f w).trans (and_iff_right h)

/-- The rule of sequencing. -/
theorem passes_bind {Q : Except E β → W → Prop} (p : Prog S R E α) (f : α → Prog S R E β) (w : W) :
    Passes fits exec (p >>= f) Q w ↔
      Passes fits exec p (fun r w' => match r with
        | .ok a => Passes fits exec (f a) Q w'
        | .error e => Q (.error e) w') w := by
  induction p generalizing w with
  | pure a => rw [pure_bind, passes_pure]
  | raise e => rw [raise_bind, passes_raise, passes_raise]
  | stmt s k ih =>
    rw [stmt_bind, passes_stmt, passes_stmt]
    exact and_congr_right fun _ => ih (exec s w).1 (exec s w).2

/-! ### Refusals that end the run -/

/-- Execute a program to its end; a refused statement ends it with an exception, and leaves the
state alone. -/
def runUnless (refusal? : S → W → Option E) (exec : (s : S) → W → R s × W) :
    Prog S R E α → W → Except E α × W
  | .pure a, w => (.ok a, w)
  | .raise e, w => (.error e, w)
  | .stmt s k, w =>
    match refusal? s w with
    | some e => (.error e, w)
    | none => runUnless refusal? exec (k (exec s w).1) (exec s w).2

variable {refusal? : S → W → Option E}

theorem runUnless_stmt_some {s : S} {k : R s → Prog S R E α} {w : W} {e : E}
    (h : refusal? s w = some e) :
    runUnless refusal? exec (.stmt s k) w = (.error e, w) := by
  rw [runUnless, h]

theorem runUnless_stmt_none {s : S} {k : R s → Prog S R E α} {w : W}
    (h : refusal? s w = none) :
    runUnless refusal? exec (.stmt s k) w =
      runUnless refusal? exec (k (exec s w).1) (exec s w).2 := by
  rw [runUnless, h]

/-- The same, if the reply is known. -/
theorem runUnless_stmt_eq {s : S} {k : R s → Prog S R E α} {w w' : W} {r : R s}
    (hr : exec s w = (r, w')) (h : refusal? s w = none) :
    runUnless refusal? exec (.stmt s k) w = runUnless refusal? exec (k r) w' := by
  rw [runUnless_stmt_none h, hr]

theorem runUnless_map (f : α → β) (p : Prog S R E α) (w : W) :
    runUnless refusal? exec (f <$> p) w =
      ((runUnless refusal? exec p w).1.map f, (runUnless refusal? exec p w).2) := by
  rw [show f <$> p = p >>= fun a => Prog.pure (f a) from rfl]
  induction p generalizing w with
  | pure a => rfl
  | raise e => rfl
  | stmt s k ih =>
    rw [stmt_bind]
    cases h : refusal? s w with
    | some e =>
      rw [runUnless_stmt_some h, runUnless_stmt_some h]
      rfl
    | none =>
      rw [runUnless_stmt_none h, runUnless_stmt_none h]
      exact ih _ _

/-- **A run without a refused statement is the sequential one.** -/
theorem runUnless_eq_run {p : Prog S R E α} {w : W}
    (h : Checked (fun s w => refusal? s w = none) exec p w) :
    runUnless refusal? exec p w = run exec p w := by
  induction p generalizing w with
  | pure a => rfl
  | raise e => rfl
  | stmt s k ih =>
    obtain ⟨hnone, hrest⟩ := h
    rw [runUnless_stmt_none hnone]
    exact ih _ hrest

end Prog

end Interleave
