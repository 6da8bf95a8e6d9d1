import Mathlib.Tactic.Common

/-!
# Programs over a statement interface

A program issues statements to a system it does not see inside of: it is a
value, an exception, or one statement together with what to do with the reply.
The same program then has two readings.  `Prog.run` executes it to its end with
nothing in between, which is the sequential meaning; a pool of programs
(`SmsLite.Lib.Pool`) executes one statement of some program at a time, which is
the concurrent one.

## Main definitions

* `Prog` — programs, a monad whose `do` blocks read like the code they model.
* `Prog.run` — the sequential meaning.
* `Prog.among` — execution while others change the state between the statements.
* `Prog.Ends` — postconditions of sequential runs.
* `Prog.trace` — the statements of a sequential run, with their replies.
* `Prog.steps`, `Prog.Meets` — the statements with their states, and what they say of the result.
* `Protocol`, `Prog.Follows` — typestate: which statements a program may issue
  next, given the replies it has had so far, and what holds when it ends.
* `Prog.Issues` — which statements a program may issue, as long as it can rely on the replies.

## Main results

* `Prog.run_bind` — the sequential meaning is compositional.
* `Prog.ends_bind`, `Prog.Ends.mono` — the rules of sequencing and of consequence.
* `Prog.follows_bind` — so is following a protocol.
-/

namespace Interleave

/-- A program over the statements `S`, where `R s` is the type of the replies to
`s`, `E` are the exceptions and `α` the values it may end with. -/
inductive Prog (S : Type) (R : S → Type) (E α : Type) : Type
  /-- The program has ended with a value. -/
  | pure (a : α) : Prog S R E α
  /-- The program has ended with an exception. -/
  | raise (e : E) : Prog S R E α
  /-- The program issues `s` and goes on with its reply. -/
  | stmt (s : S) (k : R s → Prog S R E α) : Prog S R E α

namespace Prog

variable {S : Type} {R : S → Type} {E α β W σ : Type}

/-- Sequencing: an exception skips what follows. -/
def bind : Prog S R E α → (α → Prog S R E β) → Prog S R E β
  | .pure a, f => f a
  | .raise e, _ => .raise e
  | .stmt s k, f => .stmt s fun r => bind (k r) f

instance : Monad (Prog S R E) where
  pure := .pure
  bind := .bind

/-- Issue one statement and return its reply. -/
def call (s : S) : Prog S R E (R s) := .stmt s .pure

/-- `try: ... except Exception`: a program that reports how `p` ended. -/
def attempt : Prog S R E α → Prog S R E (Except E α)
  | .pure a => .pure (.ok a)
  | .raise e => .pure (.error e)
  | .stmt s k => .stmt s fun r => attempt (k r)

@[simp] theorem pure_bind (a : α) (f : α → Prog S R E β) :
    (Prog.pure a : Prog S R E α) >>= f = f a := rfl

@[simp] theorem raise_bind (e : E) (f : α → Prog S R E β) :
    (Prog.raise e : Prog S R E α) >>= f = Prog.raise e := rfl

@[simp] theorem stmt_bind (s : S) (k : R s → Prog S R E α) (f : α → Prog S R E β) :
    Prog.stmt s k >>= f = Prog.stmt s fun r => k r >>= f := rfl

/-- The program has ended. -/
def ended : Prog S R E α → Bool
  | .stmt _ _ => false
  | _ => true

/-- The value or exception a program has ended with. -/
def result? : Prog S R E α → Option (Except E α)
  | .pure a => some (.ok a)
  | .raise e => some (.error e)
  | .stmt _ _ => none

/-- The statement a program issues next. -/
def head? : Prog S R E α → Option S
  | .stmt s _ => some s
  | _ => none

/-! ### The sequential meaning -/

/-- Execute a program to its end: `exec s w` is the reply of the system in the
state `w` to `s`, and the state it leaves. -/
def run (exec : (s : S) → W → R s × W) : Prog S R E α → W → Except E α × W
  | .pure a, w => (.ok a, w)
  | .raise e, w => (.error e, w)
  | .stmt s k, w => run exec (k (exec s w).1) (exec s w).2

variable (exec : (s : S) → W → R s × W)

@[simp] theorem run_pure (a : α) (w : W) :
    run exec (Prog.pure a : Prog S R E α) w = (.ok a, w) := rfl

@[simp] theorem run_raise (e : E) (w : W) :
    run exec (Prog.raise e : Prog S R E α) w = (.error e, w) := rfl

@[simp] theorem run_stmt (s : S) (k : R s → Prog S R E α) (w : W) :
    run exec (Prog.stmt s k) w = run exec (k (exec s w).1) (exec s w).2 := rfl

/-- **The sequential meaning is compositional.** -/
theorem run_bind (p : Prog S R E α) (f : α → Prog S R E β) (w : W) :
    run exec (p >>= f) w =
      match run exec p w with
      | (.ok a, w') => run exec (f a) w'
      | (.error e, w') => (.error e, w') := by
  induction p generalizing w with
  | pure a => rfl
  | raise e => rfl
  | stmt s k ih => exact ih (exec s w).1 (exec s w).2

/-- A statement, and then the rest. -/
theorem run_call (s : S) (f : R s → Prog S R E β) (w : W) :
    run exec (call s >>= f) w = run exec (f (exec s w).1) (exec s w).2 := rfl

/-- A `try` goes on with the way its program has ended. -/
theorem run_attempt_bind (p : Prog S R E α) (f : Except E α → Prog S R E β) (w : W) :
    run exec (attempt p >>= f) w = run exec (f (run exec p w).1) (run exec p w).2 := by
  induction p generalizing w with
  | pure a => rfl
  | raise e => rfl
  | stmt s k ih => exact ih (exec s w).1 (exec s w).2

/-- A function applied to the value leaves the same state. -/
theorem run_map (f : α → β) (p : Prog S R E α) (w : W) :
    run exec (f <$> p) w = ((run exec p w).1.map f, (run exec p w).2) := by
  rw [show f <$> p = p >>= fun a => Prog.pure (f a) from rfl, run_bind]
  rcases run exec p w with ⟨_ | _, w'⟩ <;> rfl

/-- Execution among others: after the `n`-th statement they change the state by `others n`. -/
def among (exec : (s : S) → W → R s × W) (others : ℕ → W → W) (s : S) (w : W × ℕ) :
    R s × (W × ℕ) :=
  ((exec s w.1).1, others w.2 (exec s w.1).2, w.2 + 1)

/-- If nobody else does anything, the run is the sequential one. -/
theorem run_among_id (p : Prog S R E α) (w : W × ℕ) :
    (run (among exec fun _ => id) p w).1 = (run exec p w.1).1 := by
  induction p generalizing w with
  | pure a => rfl
  | raise e => rfl
  | stmt s k ih => exact ih (exec s w.1).1 _

/-- `Ends exec p Q w`: the sequential run of `p` from `w` ends with a result and in a
state that meet `Q`. -/
def Ends (p : Prog S R E α) (Q : Except E α → W → Prop) (w : W) : Prop :=
  Q (run exec p w).1 (run exec p w).2

variable {exec} {Q Q' : Except E α → W → Prop}

@[simp] theorem ends_pure (a : α) (w : W) :
    Ends exec (Prog.pure a : Prog S R E α) Q w ↔ Q (.ok a) w := Iff.rfl

@[simp] theorem ends_raise (e : E) (w : W) :
    Ends exec (Prog.raise e : Prog S R E α) Q w ↔ Q (.error e) w := Iff.rfl

/-- The rule of one statement. -/
theorem ends_call {s : S} {f : R s → Prog S R E α} {w : W} :
    Ends exec (call s >>= f) Q w ↔ Ends exec (f (exec s w).1) Q (exec s w).2 := Iff.rfl

/-- The rule of sequencing. -/
theorem ends_bind {Q : Except E β → W → Prop} (p : Prog S R E α) (f : α → Prog S R E β) (w : W) :
    Ends exec (p >>= f) Q w ↔
      Ends exec p (fun r w' => match r with
        | .ok a => Ends exec (f a) Q w'
        | .error e => Q (.error e) w') w := by
  unfold Ends
  rw [run_bind]
  rcases run exec p w with ⟨_ | _, w'⟩ <;> rfl

/-- The rule of a function applied to the value. -/
theorem ends_map {Q : Except E β → W → Prop} (f : α → β) (p : Prog S R E α) (w : W) :
    Ends exec (f <$> p) Q w ↔ Ends exec p (fun r w' => Q (r.map f) w') w := by
  rw [show f <$> p = p >>= fun a => Prog.pure (f a) from rfl, ends_bind]
  unfold Ends
  rcases run exec p w with ⟨_ | _, w'⟩ <;> rfl

/-- What holds of every outcome holds of this one. -/
theorem Ends.of_forall {p : Prog S R E α} {w : W} (h : ∀ r w', Q r w') : Ends exec p Q w := h _ _

/-- The rule of consequence. -/
theorem Ends.mono {p : Prog S R E α} {w : W} (h : Ends exec p Q w)
    (himp : ∀ r w', Q r w' → Q' r w') : Ends exec p Q' w := himp _ _ h

/-! ### Traces -/

/-- The statements a sequential run issues, each with its reply. -/
def trace (exec : (s : S) → W → R s × W) : Prog S R E α → W → List ((s : S) × R s)
  | .stmt s k, w => ⟨s, (exec s w).1⟩ :: trace exec (k (exec s w).1) (exec s w).2
  | _, _ => []

@[simp] theorem trace_pure (a : α) (w : W) :
    trace exec (Prog.pure a : Prog S R E α) w = [] := rfl

@[simp] theorem trace_raise (e : E) (w : W) :
    trace exec (Prog.raise e : Prog S R E α) w = [] := rfl

/-- A program and what follows it. -/
theorem trace_bind (p : Prog S R E α) (f : α → Prog S R E β) (w : W) :
    trace exec (p >>= f) w =
      trace exec p w ++
        match run exec p w with
        | (.ok a, w') => trace exec (f a) w'
        | (.error _, _) => [] := by
  induction p generalizing w with
  | pure a => rfl
  | raise e => rfl
  | stmt s k ih =>
    simp only [stmt_bind, trace, run_stmt, List.cons_append]
    rw [ih]

/-- A function applied to the value issues nothing. -/
theorem trace_map (f : α → β) (p : Prog S R E α) (w : W) :
    trace exec (f <$> p) w = trace exec p w := by
  rw [show f <$> p = p >>= fun a => Prog.pure (f a) from rfl, trace_bind]
  rcases run exec p w with ⟨_ | _, w'⟩ <;> simp

/-! ### What a run meets -/

/-- The statements a sequential run issues, each with the state it is executed in. -/
def steps (exec : (s : S) → W → R s × W) : Prog S R E α → W → List (S × W)
  | .stmt s k, w => (s, w) :: steps exec (k (exec s w).1) (exec s w).2
  | _, _ => []

/-- `Meets exec p Q w`: whatever statement the sequential run of `p` from `w` executes, in
whatever state, the run ends with a result that meets `Q`. -/
def Meets (exec : (s : S) → W → R s × W) (p : Prog S R E α)
    (Q : S → W → Except E α → Prop) (w : W) : Prop :=
  ∀ s w', (s, w') ∈ steps exec p w → Q s w' (run exec p w).1

section Meets

variable {exec : (s : S) → W → R s × W} {Q : S → W → Except E α → Prop} {w : W}

theorem meets_pure (a : α) : Meets exec (.pure a) Q w := fun _ _ h => absurd h List.not_mem_nil

theorem meets_raise (e : E) : Meets exec (.raise e) Q w := fun _ _ h => absurd h List.not_mem_nil

theorem meets_stmt {s : S} {k : R s → Prog S R E α} :
    Meets exec (.stmt s k) Q w ↔
      Q s w (run exec (k (exec s w).1) (exec s w).2).1 ∧
        Meets exec (k (exec s w).1) Q (exec s w).2 := by
  constructor
  · intro h
    exact ⟨h s w List.mem_cons_self, fun s' w' hmem => h s' w' (List.mem_cons_of_mem _ hmem)⟩
  · rintro ⟨hhead, htail⟩ s' w' hmem
    rcases List.mem_cons.mp hmem with heq | hmem
    · obtain ⟨rfl, rfl⟩ := Prod.mk.inj heq
      exact hhead
    · exact htail s' w' hmem

/-- The rule of one statement. -/
theorem meets_call {s : S} {f : R s → Prog S R E α} :
    Meets exec (call s >>= f) Q w ↔
      Q s w (run exec (f (exec s w).1) (exec s w).2).1 ∧
        Meets exec (f (exec s w).1) Q (exec s w).2 := meets_stmt

theorem Meets.mono {Q' : S → W → Except E α → Prop} {p : Prog S R E α} (h : Meets exec p Q w)
    (himp : ∀ s w' r, Q s w' r → Q' s w' r) : Meets exec p Q' w :=
  fun s w' hmem => himp s w' _ (h s w' hmem)

/-- The steps of a program, and then those of what follows it. -/
theorem steps_bind (p : Prog S R E α) (f : α → Prog S R E β) (w : W) :
    steps exec (p >>= f) w =
      steps exec p w ++
        match run exec p w with
        | (.ok a, w') => steps exec (f a) w'
        | (.error _, _) => [] := by
  induction p generalizing w with
  | pure a => rfl
  | raise e => rfl
  | stmt s k ih =>
    simp only [stmt_bind, steps, run_stmt, List.cons_append]
    rw [ih]

/-- The rule of a function applied to the value. -/
theorem meets_map {Q : S → W → Except E β → Prop} (f : α → β) (p : Prog S R E α) :
    Meets exec (f <$> p) Q w ↔ Meets exec p (fun s w' r => Q s w' (r.map f)) w := by
  unfold Meets
  rw [run_map, show f <$> p = p >>= fun a => Prog.pure (f a) from rfl, steps_bind]
  rcases run exec p w with ⟨_ | _, w'⟩ <;> simp [steps]

end Meets

end Prog

/-! ### Typestate -/

/-- What a program may do, as a state machine over its own history.  `allowed c s`
says that a program in state `c` may issue `s`, `replies c s r` that the system
may answer `r`, and `next c s r` is the state the answer leads to. -/
structure Protocol (S : Type) (R : S → Type) (σ : Type) where
  /-- The statements a program may issue. -/
  allowed : σ → S → Prop
  /-- The replies it may rely on. -/
  replies : σ → (s : S) → R s → Prop
  /-- The state after a reply. -/
  next : σ → (s : S) → R s → σ

namespace Prog

variable {S : Type} {R : S → Type} {E α β W σ : Type} (P : Protocol S R σ)

/-- `Follows P post c p`: from the state `c` the program `p` issues only allowed
statements, whatever replies it gets, and ends with `post`. -/
def Follows (post : σ → Except E α → Prop) : σ → Prog S R E α → Prop
  | c, .pure a => post c (.ok a)
  | c, .raise e => post c (.error e)
  | c, .stmt s k => P.allowed c s ∧ ∀ r, P.replies c s r → Follows post (P.next c s r) (k r)

variable {P} {post post' : σ → Except E α → Prop}

@[simp] theorem follows_pure (c : σ) (a : α) :
    Follows P post c (.pure a) ↔ post c (.ok a) := Iff.rfl

@[simp] theorem follows_pure' (c : σ) (a : α) :
    Follows P post c (Pure.pure a : Prog S R E α) ↔ post c (.ok a) := Iff.rfl

@[simp] theorem follows_raise (c : σ) (e : E) :
    Follows P post c (.raise e) ↔ post c (.error e) := Iff.rfl

theorem follows_stmt (c : σ) (s : S) (k : R s → Prog S R E α) :
    Follows P post c (.stmt s k) ↔
      P.allowed c s ∧ ∀ r, P.replies c s r → Follows P post (P.next c s r) (k r) := Iff.rfl

/-- The rule of one statement. -/
theorem follows_call {c : σ} {s : S} {f : R s → Prog S R E α} (hs : P.allowed c s)
    (h : ∀ r, P.replies c s r → Follows P post (P.next c s r) (f r)) :
    Follows P post c (call s >>= f) := ⟨hs, h⟩

theorem Follows.mono {c : σ} {p : Prog S R E α} (h : Follows P post c p)
    (himp : ∀ c r, post c r → post' c r) : Follows P post' c p := by
  induction p generalizing c with
  | pure a => exact himp _ _ h
  | raise e => exact himp _ _ h
  | stmt s k ih => exact ⟨h.1, fun r hr => ih r (h.2 r hr)⟩

/-- **Following a protocol is compositional**: the second program starts in
whichever state the first one ends in. -/
theorem follows_bind {post : σ → Except E β → Prop} {c : σ} (p : Prog S R E α)
    (f : α → Prog S R E β) :
    Follows P post c (p >>= f) ↔
      Follows P (fun c r => match r with
        | .ok a => Follows P post c (f a)
        | .error e => post c (.error e)) c p := by
  induction p generalizing c with
  | pure a => exact Iff.rfl
  | raise e => exact Iff.rfl
  | stmt s k ih =>
    simp only [stmt_bind, follows_stmt]
    exact and_congr_right fun _ => forall_congr' fun r => imp_congr_right fun _ => ih r

/-- The rule of `try`. -/
theorem follows_attempt {post : σ → Except E (Except E α) → Prop} {c : σ} (p : Prog S R E α) :
    Follows P post c (attempt p) ↔ Follows P (fun c r => post c (.ok r)) c p := by
  induction p generalizing c with
  | pure a => exact Iff.rfl
  | raise e => exact Iff.rfl
  | stmt s k ih =>
    simp only [attempt, follows_stmt]
    exact and_congr_right fun _ => forall_congr' fun r => imp_congr_right fun _ => ih r

/-- A function applied to the value. -/
theorem follows_map {post : σ → Except E β → Prop} {c : σ} (f : α → β) (p : Prog S R E α) :
    Follows P post c (f <$> p) ↔ Follows P (fun c r => post c (r.map f)) c p := by
  rw [show f <$> p = p >>= fun a => Prog.pure (f a) from rfl, follows_bind]
  constructor
  · refine fun h => h.mono fun c r hr => ?_
    cases r with
    | ok a => exact hr
    | error e => exact hr
  · refine fun h => h.mono fun c r hr => ?_
    cases r with
    | ok a => exact hr
    | error e => exact hr

/-! ### Statements a program may issue -/

/-- As long as the replies have `B`, the program issues only statements with `A`. -/
def Issues (A : S → Prop) (B : (s : S) → R s → Prop) : Prog S R E α → Prop :=
  Follows ⟨fun (_ : Unit) s => A s, fun _ => B, fun _ _ _ => ()⟩ (fun _ _ => True) ()

variable {A : S → Prop} {B : (s : S) → R s → Prop}

@[simp] theorem issues_pure (a : α) : Issues A B (.pure a : Prog S R E α) := trivial

@[simp] theorem issues_raise (e : E) : Issues A B (.raise e : Prog S R E α) := trivial

theorem issues_stmt {s : S} {k : R s → Prog S R E α} :
    Issues A B (.stmt s k) ↔ A s ∧ ∀ r, B s r → Issues A B (k r) := Iff.rfl

theorem issues_call {s : S} (hs : A s) : Issues A B (call s : Prog S R E (R s)) :=
  issues_stmt.mpr ⟨hs, fun _ _ => trivial⟩

/-- The rule of sequencing. -/
theorem Issues.bind {p : Prog S R E α} {f : α → Prog S R E β} (hp : Issues A B p)
    (hf : ∀ a, Issues A B (f a)) : Issues A B (p >>= f) := by
  refine (follows_bind p f).mpr (hp.mono fun c r _ => ?_)
  cases r with
  | ok a => exact hf a
  | error e => trivial

/-- The rule of a function applied to the value. -/
theorem Issues.map {p : Prog S R E α} (hp : Issues A B p) (f : α → β) : Issues A B (f <$> p) :=
  hp.bind fun _ => trivial

/-- The rule of consequence. -/
theorem Issues.mono {A' : S → Prop} {p : Prog S R E α} (hp : Issues A B p)
    (h : ∀ s, A s → A' s) : Issues A' B p := by
  induction p with
  | pure a => trivial
  | raise e => trivial
  | stmt s k ih =>
    obtain ⟨hs, hk⟩ := issues_stmt.mp hp
    exact issues_stmt.mpr ⟨h s hs, fun r hr => ih r (hk r hr)⟩

/-- A program whose statements `Q` says nothing about may come first. -/
theorem Meets.issues_bind {exec : (s : S) → W → R s × W} {p : Prog S R E α}
    {f : α → Prog S R E β} {Q : S → W → Except E β → Prop} {w : W}
    (hp : Issues A (fun _ _ => True) p) (hQ : ∀ s, A s → ∀ w' r, Q s w' r)
    (hf : ∀ a w', run exec p w = (.ok a, w') → Meets exec (f a) Q w') :
    Meets exec (p >>= f) Q w := by
  induction p generalizing w with
  | pure a => exact hf a w rfl
  | raise e => exact meets_raise e
  | stmt s k ih =>
    obtain ⟨hs, hk⟩ := issues_stmt.mp hp
    exact meets_stmt.mpr ⟨hQ s hs _ _, ih _ (hk _ trivial) hf⟩

/-- A program that issues nothing else meets `Q` anyway. -/
theorem Issues.meets {exec : (s : S) → W → R s × W} {p : Prog S R E α}
    {Q : S → W → Except E α → Prop} (hp : Issues A (fun _ _ => True) p)
    (hQ : ∀ s, A s → ∀ w' r, Q s w' r) (w : W) : Meets exec p Q w := by
  induction p generalizing w with
  | pure a => exact meets_pure a
  | raise e => exact meets_raise e
  | stmt s k ih =>
    obtain ⟨hs, hk⟩ := issues_stmt.mp hp
    exact meets_stmt.mpr ⟨hQ s hs _ _, ih _ (hk _ trivial) _⟩

/-- **Two systems that answer each statement alike**, and stay in a relation, end a program
alike. -/
theorem Issues.run_related {W' : Type} {exec : (s : S) → W → R s × W}
    {exec' : (s : S) → W' → R s × W'} {Rel : W → W' → Prop} {p : Prog S R E α}
    (hp : Issues A (fun _ _ => True) p)
    (hstep : ∀ s w w', A s → Rel w w' →
      (exec s w).1 = (exec' s w').1 ∧ Rel (exec s w).2 (exec' s w').2)
    {w : W} {w' : W'} (hw : Rel w w') :
    (run exec p w).1 = (run exec' p w').1 ∧ Rel (run exec p w).2 (run exec' p w').2 := by
  induction p generalizing w w' with
  | pure a => exact ⟨rfl, hw⟩
  | raise e => exact ⟨rfl, hw⟩
  | stmt s k ih =>
    obtain ⟨hs, hk⟩ := issues_stmt.mp hp
    obtain ⟨hreply, hnext⟩ := hstep s w w' hs hw
    rw [run_stmt, run_stmt, hreply]
    exact ih (exec' s w').1 (hk _ trivial) hnext

/-- The same where the one state is a view of the other. -/
theorem Issues.run_simulates {W' : Type} {exec : (s : S) → W → R s × W}
    {exec' : (s : S) → W' → R s × W'} {view : W' → W} {I : W' → Prop} {p : Prog S R E α}
    (hp : Issues A (fun _ _ => True) p)
    (hstep : ∀ s w, A s → I w →
      exec s (view w) = ((exec' s w).1, view (exec' s w).2) ∧ I (exec' s w).2)
    {w : W'} (hw : I w) :
    run exec p (view w) = ((run exec' p w).1, view (run exec' p w).2) ∧ I (run exec' p w).2 := by
  have hrelated : ∀ s v w, A s → v = view w ∧ I w → (exec s v).1 = (exec' s w).1 ∧
      (exec s v).2 = view (exec' s w).2 ∧ I (exec' s w).2 := by
    rintro s _ w hs ⟨rfl, hw⟩
    obtain ⟨hsame, hnext⟩ := hstep s w hs hw
    rw [hsame]
    exact ⟨rfl, rfl, hnext⟩
  obtain ⟨hout, hview, hlast⟩ := hp.run_related hrelated ⟨rfl, hw⟩
  exact ⟨Prod.ext hout hview, hlast⟩

/-- What every statement keeps, a program keeps. -/
theorem Issues.run_keeps {exec : (s : S) → W → R s × W} {I : W → Prop} {p : Prog S R E α}
    (hp : Issues A (fun _ _ => True) p) (hstep : ∀ s w, A s → I w → I (exec s w).2) {w : W}
    (hw : I w) : I (run exec p w).2 := by
  induction p generalizing w with
  | pure a => exact hw
  | raise e => exact hw
  | stmt s k ih =>
    obtain ⟨hs, hk⟩ := issues_stmt.mp hp
    have hnext := hstep s w hs hw
    exact ih (exec s w).1 (hk _ trivial) hnext

/-- The rule of a case split. -/
theorem issues_ite {b : Prop} [Decidable b] {p q : Prog S R E α} (hthen : b → Issues A B p)
    (helse : ¬ b → Issues A B q) : Issues A B (if b then p else q) := by
  split
  · next h => exact hthen h
  · next h => exact helse h

end Prog

end Interleave
