import SmsLite.Lib.Pool

/-!
# What a program has seen

A program that writes what it has read before may write something old, but nothing that never
was.  Every program of a pool keeps a log of the states in which its statements were executed;
what a program may write, and what it returns, is stated of this log, and what the shared state
holds is stated of the states the pool has been in.

## Main definitions

* `Prog.Logged` — every statement of a program is justified by its log, and so is its result.
* `Pool.log`, `Pool.logs` — the logs after a step and after a schedule.
* `Pool.AlwaysLogged` — every step of a schedule meets a condition on the pool and its logs.
* `Pool.Visits` — the states of a schedule.
* `Pool.Recorded`, `Pool.Durable` — a pool with its logs and the states before it, and what has to
  be shown of an invariant.

## Main results

* `Prog.Issues.logged` — a program that writes nothing needs no justification.
* `Pool.logged_invariant` — **the proof rule**: an invariant of a state and the states before it
  that every justified statement keeps holds in every state of every schedule.
-/

namespace Interleave

variable {S : Type} {R : S → Type} {E α β W ι L A : Type}

namespace Prog

section

variable (exec : (s : S) → W → R s × W) (Ok : List W → S → Prop)
  (Post : List W → Except E α → Prop)

/-- The states in which the statements so far were executed, the last one first, justify every
statement and the result. -/
def Logged : List W → Prog S R E α → Prop
  | log, .pure a => Post log (.ok a)
  | log, .raise e => Post log (.error e)
  | log, .stmt s k => Ok log s ∧ ∀ w, Logged (w :: log) (k (exec s w).1)

end

variable {exec : (s : S) → W → R s × W} {Ok : List W → S → Prop}
  {Post : List W → Except E α → Prop} {log : List W}

@[simp] theorem logged_pure (a : α) :
    Logged exec Ok Post log (Prog.pure a : Prog S R E α) ↔ Post log (.ok a) := Iff.rfl

@[simp] theorem logged_raise (e : E) :
    Logged exec Ok Post log (Prog.raise e : Prog S R E α) ↔ Post log (.error e) := Iff.rfl

theorem logged_stmt {s : S} {k : R s → Prog S R E α} :
    Logged exec Ok Post log (.stmt s k) ↔
      Ok log s ∧ ∀ w, Logged exec Ok Post (w :: log) (k (exec s w).1) := Iff.rfl

/-- The rule of a statement at the beginning. -/
theorem logged_call {s : S} {f : R s → Prog S R E α} :
    Logged exec Ok Post log (Prog.call s >>= f) ↔
      Ok log s ∧ ∀ w, Logged exec Ok Post (w :: log) (f (exec s w).1) := Iff.rfl

/-- The rule of a result. -/
theorem logged_result {p : Prog S R E α} {r : Except E α} (h : p.result? = some r) :
    Logged exec Ok Post log p ↔ Post log r := by
  cases p with
  | pure a => cases h; exact Iff.rfl
  | raise e => cases h; exact Iff.rfl
  | stmt s k => cases h

/-- The rule of consequence. -/
theorem Logged.mono {Post' : List W → Except E α → Prop} {p : Prog S R E α}
    (hp : Logged exec Ok Post log p) (h : ∀ log r, Post log r → Post' log r) :
    Logged exec Ok Post' log p := by
  induction p generalizing log with
  | pure a => exact h _ _ hp
  | raise e => exact h _ _ hp
  | stmt s k ih =>
    obtain ⟨hs, hk⟩ := logged_stmt.mp hp
    exact logged_stmt.mpr ⟨hs, fun w => ih _ (hk w)⟩

/-- The rule of a function applied to the value. -/
theorem logged_map {Post : List W → Except E β → Prop} (f : α → β) (p : Prog S R E α) :
    Logged exec Ok Post log (f <$> p) ↔
      Logged exec Ok (fun log r => Post log (r.map f)) log p := by
  induction p generalizing log with
  | pure a => exact Iff.rfl
  | raise e => exact Iff.rfl
  | stmt s k ih =>
    constructor
    · rintro ⟨hs, hk⟩
      exact ⟨hs, fun w => (ih _).mp (hk w)⟩
    · rintro ⟨hs, hk⟩
      exact ⟨hs, fun w => (ih _).mpr (hk w)⟩

/-- **A program that issues only statements which need no justification.** -/
theorem Issues.logged {C : S → Prop} {p : Prog S R E α} (hp : Issues C (fun _ _ => True) p)
    (hOk : ∀ s log, C s → Ok log s) (hPost : ∀ log r, Post log r) :
    Logged exec Ok Post log p := by
  induction p generalizing log with
  | pure a => exact hPost _ _
  | raise e => exact hPost _ _
  | stmt s k ih =>
    obtain ⟨hs, hk⟩ := issues_stmt.mp hp
    exact logged_stmt.mpr ⟨hOk s log hs, fun w => ih _ (hk _ trivial)⟩

end Prog

/-! ### Pools -/

namespace Pool

variable [DecidableEq ι] [DecidableEq L] (M : Machine S R W L A)

/-- The logs after a step. -/
def log (p : Pool S R E α W ι L) (logs : ι → List W) : Label ι A → ι → List W
  | .run i => Function.update logs i (p.world :: logs i)
  | .env _ => logs

/-- The logs after a schedule. -/
def logs : Pool S R E α W ι L → (ι → List W) → List (Label ι A) → ι → List W
  | _, log, [] => log
  | p, log, l :: ls =>
    match p.step M l with
    | none => log
    | some q => logs q (p.log log l) ls

/-- Every step of a schedule is taken in a state and with logs that meet `Timely`. -/
def AlwaysLogged (Timely : Pool S R E α W ι L → (ι → List W) → Label ι A → Prop) :
    Pool S R E α W ι L → (ι → List W) → List (Label ι A) → Prop
  | _, _, [] => True
  | p, log, l :: ls =>
    Timely p log l ∧ ∀ q, p.step M l = some q → AlwaysLogged Timely q (p.log log l) ls

/-- The states a pool has been in after a schedule. -/
def Visits (p : Pool S R E α W ι L) (ls : List (Label ι A)) (w : W) : Prop :=
  ∃ pre post q, ls = pre ++ post ∧ p.exec M pre = some q ∧ q.world = w

variable {M}

theorem visits_start (p : Pool S R E α W ι L) (ls : List (Label ι A)) : p.Visits M ls p.world :=
  ⟨[], ls, p, rfl, rfl, rfl⟩

/-- The first state, and the states after the first step. -/
theorem visits_cons {p q : Pool S R E α W ι L} {l : Label ι A} (hq : p.step M l = some q)
    (ls : List (Label ι A)) (w : W) :
    p.Visits M (l :: ls) w ↔ w = p.world ∨ q.Visits M ls w := by
  constructor
  · rintro ⟨pre, post, q', hsplit, hexec, rfl⟩
    cases pre with
    | nil =>
      cases hexec
      exact Or.inl rfl
    | cons l' pre =>
      obtain ⟨rfl, rfl⟩ := List.cons.inj hsplit
      rw [exec_cons, hq, Option.bind_some] at hexec
      exact Or.inr ⟨pre, post, q', rfl, hexec, rfl⟩
  · rintro (rfl | ⟨pre, post, q', rfl, hexec, hw⟩)
    · exact visits_start p _
    · refine ⟨l :: pre, post, q', rfl, ?_, hw⟩
      rw [exec_cons, hq, Option.bind_some, hexec]

theorem visits_nil (p : Pool S R E α W ι L) (w : W) : p.Visits M [] w ↔ w = p.world := by
  constructor
  · rintro ⟨pre, post, q, hsplit, hexec, rfl⟩
    obtain ⟨rfl, -⟩ := List.append_eq_nil_iff.mp hsplit.symm
    cases hexec
    rfl
  · rintro rfl
    exact visits_start p []

section Rule

variable {Ok : ι → List W → S → Prop} {Post : ι → List W → Except E α → Prop}
  {Timely : Pool S R E α W ι L → (ι → List W) → Label ι A → Prop} {J : (W → Prop) → W → Prop}

/-- What holds of a pool, its logs and the states before it. -/
structure Recorded (M : Machine S R W L A) (Ok : ι → List W → S → Prop)
    (Post : ι → List W → Except E α → Prop) (J : (W → Prop) → W → Prop) (past : W → Prop)
    (p : Pool S R E α W ι L) (log : ι → List W) : Prop where
  world : past p.world
  seen : ∀ i, ∀ w ∈ log i, past w
  progs : ∀ i, Prog.Logged M.exec (Ok i) (Post i) (log i) (p.prog i)
  kept : ∀ w, past w → J past w

/-- What has to be shown of an invariant of a state and the states before it. -/
structure Durable (M : Machine S R W L A) (Ok : ι → List W → S → Prop)
    (Post : ι → List W → Except E α → Prop)
    (Timely : Pool S R E α W ι L → (ι → List W) → Label ι A → Prop)
    (J : (W → Prop) → W → Prop) : Prop where
  /-- More states before it do no harm. -/
  mono : ∀ past past' w, (∀ v, past v → past' v) → J past w → J past' w
  /-- A justified statement that is in time keeps it. -/
  stmt : ∀ (past : W → Prop) (p : Pool S R E α W ι L) (log : ι → List W) (i : ι) (s : S)
    (k : R s → Prog S R E α), Recorded M Ok Post J past p log → p.prog i = .stmt s k →
      Ok i (log i) s → Timely p log (.run i) → J past (M.exec s p.world).2
  /-- So does the environment. -/
  env : ∀ past w a, J past w → J past (M.env a w)

/-- One step. -/
theorem Recorded.step (hJ : Durable M Ok Post Timely J) {past : W → Prop}
    {p q : Pool S R E α W ι L} {log : ι → List W} {l : Label ι A}
    (h : Recorded M Ok Post J past p log) (htimely : Timely p log l) (hq : p.step M l = some q) :
    Recorded M Ok Post J (fun w => past w ∨ w = q.world) q (p.log log l) := by
  have hbefore : ∀ w, past w → past w ∨ w = q.world := fun w => Or.inl
  have hnext : J past q.world := by
    rcases step_cases hq with ⟨i, s, k, rfl, hp, -, rfl⟩ | ⟨a, rfl, rfl⟩
    · have hprog := h.progs i
      rw [hp] at hprog
      exact hJ.stmt past p log i s k h hp hprog.1 htimely
    · exact hJ.env past p.world a (h.kept p.world h.world)
  refine ⟨Or.inr rfl, ?_, ?_, ?_⟩
  · intro i w hw
    rcases step_cases hq with ⟨j, s, k, rfl, -, -, -⟩ | ⟨a, rfl, -⟩
    · by_cases hi : i = j
      · subst hi
        rw [Pool.log, Function.update_self] at hw
        rcases List.mem_cons.mp hw with rfl | hw
        · exact Or.inl h.world
        · exact Or.inl (h.seen i w hw)
      · rw [Pool.log, Function.update_of_ne hi] at hw
        exact Or.inl (h.seen i w hw)
    · exact Or.inl (h.seen i w hw)
  · intro i
    rcases step_cases hq with ⟨j, s, k, rfl, hp, -, rfl⟩ | ⟨a, rfl, rfl⟩
    · by_cases hi : i = j
      · subst hi
        have hprog := h.progs i
        rw [hp] at hprog
        rw [Pool.log, Function.update_self]
        change Prog.Logged M.exec (Ok i) (Post i) _ (Function.update p.prog i _ i)
        rw [Function.update_self]
        exact hprog.2 p.world
      · rw [Pool.log, Function.update_of_ne hi]
        change Prog.Logged M.exec (Ok i) (Post i) _ (Function.update p.prog j _ i)
        rw [Function.update_of_ne hi]
        exact h.progs i
    · exact h.progs i
  · intro w hw
    rcases hw with hw | rfl
    · exact hJ.mono _ _ _ hbefore (h.kept w hw)
    · exact hJ.mono _ _ _ hbefore hnext

/-- A schedule. -/
theorem Recorded.exec (hJ : Durable M Ok Post Timely J) {past : W → Prop}
    {p p' : Pool S R E α W ι L} {log : ι → List W} {ls : List (Label ι A)}
    (hr : Recorded M Ok Post J past p log) (htimely : p.AlwaysLogged M Timely log ls)
    (h : p.exec M ls = some p') :
    Recorded M Ok Post J (fun w => past w ∨ p.Visits M ls w) p' (p.logs M log ls) := by
  induction ls generalizing past p log with
  | nil =>
    have hpast : (fun w => past w ∨ p.Visits M [] w) = past := by
      funext w
      refine propext ⟨?_, Or.inl⟩
      rintro (hw | hw)
      · exact hw
      · rw [(visits_nil p w).mp hw]
        exact hr.world
    rw [hpast]
    cases h
    exact hr
  | cons l ls ih =>
    obtain ⟨q, hq, hexec⟩ := exec_cons_eq_some.mp h
    have hlogs : p.logs M log (l :: ls) = q.logs M (p.log log l) ls := by
      rw [logs, hq]
    have hpast : (fun w => past w ∨ p.Visits M (l :: ls) w) =
        fun w => (past w ∨ w = q.world) ∨ q.Visits M ls w := by
      funext w
      rw [visits_cons hq ls w]
      refine propext ⟨?_, ?_⟩
      · rintro (hw | rfl | hw)
        · exact Or.inl (Or.inl hw)
        · exact Or.inl (Or.inl hr.world)
        · exact Or.inr hw
      · rintro ((hw | rfl) | hw)
        · exact Or.inl hw
        · exact Or.inr (Or.inr (visits_start q ls))
        · exact Or.inr (Or.inr hw)
    rw [hlogs, hpast]
    exact ih (hr.step hJ htimely.1 hq) (htimely.2 q hq) hexec

/-- **The proof rule**: an invariant of a state and the states before it that every justified
statement and the environment keep holds in every state of a schedule, and every program has come
to what its log justifies. -/
theorem logged_invariant (hJ : Durable M Ok Post Timely J) {p p' : Pool S R E α W ι L}
    {ls : List (Label ι A)} (hprogs : ∀ i, Prog.Logged M.exec (Ok i) (Post i) [] (p.prog i))
    (hstart : J (fun w => w = p.world) p.world)
    (htimely : p.AlwaysLogged M Timely (fun _ => []) ls) (h : p.exec M ls = some p') :
    Recorded M Ok Post J (p.Visits M ls) p' (p.logs M (fun _ => []) ls) := by
  have hstarted : Recorded M Ok Post J (fun w => w = p.world) p fun _ => [] := by
    refine ⟨rfl, ?_, hprogs, ?_⟩
    · intro i w hw
      cases hw
    · rintro w rfl
      exact hstart
  have hpast : p.Visits M ls = fun w => w = p.world ∨ p.Visits M ls w := by
    funext w
    refine propext ⟨Or.inr, ?_⟩
    rintro (rfl | hw)
    · exact visits_start p ls
    · exact hw
  rw [hpast]
  exact hstarted.exec hJ htimely h

end Rule

end Pool

end Interleave
