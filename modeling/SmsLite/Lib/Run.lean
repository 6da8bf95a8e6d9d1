import Mathlib.Data.List.Induction

/-!
# Runs of a deterministic system

A system that answers every action has one run for each list of actions.  A
statement about a history is a condition on the steps of such a run, each step
being an action together with the state it is taken in.

## Main definitions

* `Run.run` — the state after a list of actions.
* `Run.Throughout` — every step of a run meets a condition.
* `Run.observe` — what the steps of a run show.

## Main results

* `Run.throughout_iff` — a condition on every step, spelled out over the prefixes.
* `Run.invariant` — what every step preserves, a run preserves.
* `Run.invariant_iff` — what a step preserves exactly under a condition.
* `Run.last_write` — a reading is what the last step that wrote it left.
* `Run.split_cases` — of two steps of one run, one comes first, or they are the same.
* `Run.generation_iff` — a counter that every ending raises tells whether one has happened.
* `Run.observe_sorted` — what a run shows at the times of its steps is in order.
* `Run.refines` — what every step refines, up to silent steps, a run refines.
-/

namespace Run

variable {W A : Type} (next : W → A → W)

/-- The state after the actions. -/
def run (w : W) (as : List A) : W := as.foldl next w

/-- Every step of the run meets the condition. -/
def Throughout (P : W → A → Prop) : W → List A → Prop
  | _, [] => True
  | w, a :: as => P w a ∧ Throughout P (next w a) as

variable {next} {P Q : W → A → Prop}

@[simp] theorem run_nil (w : W) : run next w [] = w := rfl

@[simp] theorem run_cons (w : W) (a : A) (as : List A) :
    run next w (a :: as) = run next (next w a) as := rfl

theorem run_append (w : W) (as bs : List A) :
    run next w (as ++ bs) = run next (run next w as) bs := List.foldl_append

theorem run_concat (w : W) (as : List A) (a : A) :
    run next w (as ++ [a]) = next (run next w as) a := run_append w as [a]

@[simp] theorem throughout_nil (w : W) : Throughout next P w [] := trivial

@[simp] theorem throughout_cons (w : W) (a : A) (as : List A) :
    Throughout next P w (a :: as) ↔ P w a ∧ Throughout next P (next w a) as := Iff.rfl

theorem throughout_append (w : W) (as bs : List A) :
    Throughout next P w (as ++ bs) ↔
      Throughout next P w as ∧ Throughout next P (run next w as) bs := by
  induction as generalizing w with
  | nil => simp
  | cons a as ih => simp [ih, and_assoc]

/-- A condition on every step is a condition on every action in the state that the
actions before it lead to. -/
theorem throughout_iff (w : W) (as : List A) :
    Throughout next P w as ↔
      ∀ pre a post, as = pre ++ a :: post → P (run next w pre) a := by
  induction as generalizing w with
  | nil => simp
  | cons b as ih =>
    rw [throughout_cons, ih]
    constructor
    · rintro ⟨hb, has⟩ pre a post h
      cases pre with
      | nil =>
        cases h
        exact hb
      | cons c pre =>
        cases h
        exact has pre a post rfl
    · exact fun h => ⟨h [] b as rfl, fun pre a post has => h (b :: pre) a post (by rw [has]; rfl)⟩

/-- A condition that always holds. -/
theorem throughout_of_forall (h : ∀ w a, P w a) (w : W) (as : List A) :
    Throughout next P w as := by
  induction as generalizing w with
  | nil => trivial
  | cons a as ih => exact ⟨h w a, ih _⟩

/-- **What every step preserves, a run preserves.** -/
theorem invariant {I : W → Prop} (hstep : ∀ w a, I w → P w a → I (next w a)) {w : W}
    {as : List A} (hw : I w) (h : Throughout next P w as) : I (run next w as) := by
  induction as generalizing w with
  | nil => exact hw
  | cons a as ih => exact ih (hstep w a hw h.1) h.2

/-- The same with no condition on the steps. -/
theorem invariant' {I : W → Prop} (hstep : ∀ w a, I w → I (next w a)) {w : W}
    (hw : I w) (as : List A) : I (run next w as) :=
  invariant (P := fun _ _ => True) (fun w a hw _ => hstep w a hw) hw
    (throughout_of_forall (fun _ _ => trivial) w as)

/-- **Where a step preserves the property exactly under a condition**, the property holds all
along a run exactly if every step of it meets the condition.  What is exact may rest on an
invariant `J` of all runs. -/
theorem invariant_iff {I J : W → Prop} (hJ : ∀ w a, J w → J (next w a))
    (hstep : ∀ w a, J w → I w → (I (next w a) ↔ P w a)) {w : W} (hw : J w) (hI : I w)
    (as : List A) :
    (∀ pre post, as = pre ++ post → I (run next w pre)) ↔ Throughout next P w as := by
  constructor
  · intro h
    refine (throughout_iff w as).mpr fun pre a post has => ?_
    have hbefore : I (run next w pre) := h pre (a :: post) has
    have hafter : I (run next w (pre ++ [a])) := h (pre ++ [a]) post (by simp [has])
    rw [run_concat] at hafter
    exact (hstep _ a (invariant' hJ hw pre) hbefore).mp hafter
  · rintro h pre post rfl
    have hpre : Throughout next P w pre := ((throughout_append w pre post).mp h).1
    have hboth : J (run next w pre) ∧ I (run next w pre) :=
      invariant (I := fun w => J w ∧ I w)
        (fun w a hw hP => ⟨hJ w a hw.1, (hstep w a hw.1 hw.2).mpr hP⟩) ⟨hw, hI⟩ hpre
    exact hboth.2

/-- Of two steps of one run, one comes first, or they are the same. -/
theorem split_cases {pre pre' post post' : List A} {a a' : A}
    (h : pre ++ a :: post = pre' ++ a' :: post') :
    (∃ mid, pre' = pre ++ a :: mid ∧ post = mid ++ a' :: post') ∨
      (pre = pre' ∧ a = a' ∧ post = post') ∨
      ∃ mid, pre = pre' ++ a' :: mid ∧ post' = mid ++ a :: post := by
  rcases List.append_eq_append_iff.mp h with ⟨xs, hpre, hrest⟩ | ⟨xs, hpre, hrest⟩
  · cases xs with
    | nil =>
      cases hrest
      exact Or.inr (Or.inl ⟨by simp [hpre], rfl, rfl⟩)
    | cons x xs =>
      cases hrest
      exact Or.inl ⟨xs, hpre, rfl⟩
  · cases xs with
    | nil =>
      cases hrest
      exact Or.inr (Or.inl ⟨by simp [hpre], rfl, rfl⟩)
    | cons x xs =>
      cases hrest
      exact Or.inr (Or.inr ⟨xs, hpre, rfl⟩)

/-- **The last write.** A reading that every step writes or keeps is, at the end of a run,
what the last write left, or what it was at the start. -/
theorem last_write {V : Type} {I : W → Prop} (read : W → V) (Writes Keeps : W → A → Prop)
    (hI : ∀ w a, I w → I (next w a))
    (hstep : ∀ w a, I w → Writes w a ∨ Keeps w a ∧ read (next w a) = read w) {w : W} (hw : I w)
    (as : List A) :
    (Throughout next Keeps w as ∧ read (run next w as) = read w) ∨
      ∃ pre a post, as = pre ++ a :: post ∧ Writes (run next w pre) a ∧
        Throughout next Keeps (next (run next w pre) a) post ∧
        read (run next w as) = read (next (run next w pre) a) := by
  induction as using List.reverseRecOn with
  | nil => exact Or.inl ⟨trivial, rfl⟩
  | append_singleton as a ih =>
    have ha := invariant' hI hw as
    rw [run_concat]
    rcases hstep _ a ha with hwrites | ⟨hkeeps, hsame⟩
    · exact Or.inr ⟨as, a, [], rfl, hwrites, trivial, rfl⟩
    · rcases ih with ⟨hall, hread⟩ | ⟨pre, b, post, rfl, hwrites, hall, hread⟩
      · exact Or.inl ⟨(throughout_append _ _ _).mpr ⟨hall, hkeeps, trivial⟩, hsame.trans hread⟩
      · refine Or.inr ⟨pre, b, post ++ [a], by simp, hwrites, ?_, hsame.trans hread⟩
        rw [run_append] at hkeeps
        exact (throughout_append _ _ _).mpr ⟨hall, hkeeps, trivial⟩

/-- A counter that some steps raise and the others keep never goes down. -/
theorem generation_le {I : W → Prop} {gen : W → ℕ} (hI : ∀ w a, I w → I (next w a))
    (hstep : ∀ w a, I w → gen w ≤ gen (next w a)) {w : W} (hw : I w) (as : List A) :
    gen w ≤ gen (run next w as) := by
  induction as generalizing w with
  | nil => exact Nat.le_refl _
  | cons a as ih =>
    have hfirst := hstep w a hw
    have hrest := ih (hI w a hw)
    exact Nat.le_trans hfirst hrest

/-- **A counter that every ending raises tells whether one has happened**: it stands still, and
what the other steps keep is kept, exactly if no step of the run is an ending. -/
theorem generation_iff {I ok : W → Prop} {Ends : W → A → Prop} {gen : W → ℕ}
    (hI : ∀ w a, I w → I (next w a))
    (hstep : ∀ w a, I w → (Ends w a ∧ gen w < gen (next w a)) ∨
      (¬ Ends w a ∧ gen (next w a) = gen w ∧ (ok w → ok (next w a))))
    {w : W} (hw : I w) (hok : ok w) (as : List A) :
    (gen (run next w as) = gen w ∧ ok (run next w as)) ↔
      Throughout next (fun w a => ¬ Ends w a) w as := by
  have hle : ∀ w a, I w → gen w ≤ gen (next w a) := by
    intro w a hw
    rcases hstep w a hw with ⟨-, hlt⟩ | ⟨-, heq, -⟩
    · omega
    · omega
  induction as generalizing w with
  | nil => exact iff_of_true ⟨rfl, hok⟩ trivial
  | cons a as ih =>
    rw [throughout_cons, run_cons]
    rcases hstep w a hw with ⟨hends, hlt⟩ | ⟨hno, heq, hkeeps⟩
    · refine iff_of_false ?_ fun h => h.1 hends
      rintro ⟨hsame, -⟩
      have hrest := generation_le hI hle (hI w a hw) as
      rw [hsame] at hrest
      omega
    · have hrest := ih (hI w a hw) (hkeeps hok)
      rw [heq] at hrest
      exact hrest.trans (and_iff_right hno).symm

/-! ### Refinement -/

section Refinement

variable {W' A' O : Type}

/-- What the steps of a run show. -/
def observe (next : W → A → W) (obs : W → A → Option O) : W → List A → List O
  | _, [] => []
  | w, a :: as => (obs w a).toList ++ observe next obs (next w a) as

theorem observe_append (obs : W → A → Option O) (w : W) (as bs : List A) :
    observe next obs w (as ++ bs) =
      observe next obs w as ++ observe next obs (run next w as) bs := by
  induction as generalizing w with
  | nil => rfl
  | cons a as ih =>
    rw [List.cons_append, observe, observe, ih, List.append_assoc]
    rfl

/-- What a run shows has been shown by one of its steps. -/
theorem mem_observe {obs : W → A → Option O} {w : W} {as : List A} {o : O}
    (h : o ∈ observe next obs w as) :
    ∃ pre a post, as = pre ++ a :: post ∧ obs (run next w pre) a = some o := by
  induction as generalizing w with
  | nil => cases h
  | cons a as ih =>
    rcases List.mem_append.mp h with hfirst | hrest
    · exact ⟨[], a, as, rfl, Option.mem_toList.mp hfirst⟩
    · obtain ⟨pre, b, post, rfl, hobs⟩ := ih hrest
      exact ⟨a :: pre, b, post, rfl, hobs⟩

/-- **What a run shows at the times of its steps is in order**, between the time of the start and
that of the end. -/
theorem observe_sorted {I : W → Prop} {time : W → ℕ} {obs : W → A → Option ℕ}
    (hI : ∀ w a, I w → I (next w a)) (hle : ∀ w a, I w → time w ≤ time (next w a))
    (hobs : ∀ w a t, obs w a = some t → t = time w) {w : W} (hw : I w) (as : List A) :
    (time w :: observe next obs w as).Pairwise (· ≤ ·) ∧
      ∀ t ∈ observe next obs w as, t ≤ time (run next w as) := by
  induction as generalizing w with
  | nil => exact ⟨List.pairwise_singleton _ _, by intro t ht; cases ht⟩
  | cons a as ih =>
    obtain ⟨hsorted, hend⟩ := ih (hI w a hw)
    have hrest := List.pairwise_cons.mp hsorted
    have hnow : time w ≤ time (next w a) := hle w a hw
    have hlate : ∀ t ∈ observe next obs (next w a) as, time w ≤ t := by
      intro t ht
      exact Nat.le_trans hnow (hrest.1 t ht)
    rw [observe]
    cases hshown : obs w a with
    | none => exact ⟨List.pairwise_cons.mpr ⟨hlate, hrest.2⟩, hend⟩
    | some t =>
      obtain rfl := hobs w a t hshown
      have hfinal : time w ≤ time (run next (next w a) as) :=
        Nat.le_trans hnow (generation_le hI hle (hI w a hw) as)
      constructor
      · refine List.pairwise_cons.mpr ⟨?_, List.pairwise_cons.mpr ⟨hlate, hrest.2⟩⟩
        intro t ht
        rcases List.mem_cons.mp ht with rfl | ht
        · exact Nat.le_refl _
        · exact hlate t ht
      · intro t ht
        rcases List.mem_cons.mp ht with rfl | ht
        · exact hfinal
        · exact hend t ht

variable {next' : W' → A' → W'} {obs : W → A → Option O} {obs' : W' → A' → Option O}

/-- **What every step refines, a run refines.**  A step of the concrete system is the step `tr`
makes of it, if any, among silent steps of the abstract one. -/
theorem refines {abs : W' → W} {tr : A' → Option A} {visible : A → Bool} {I : W' → Prop}
    (hstep : ∀ w a, I w → I (next' w a) ∧ ∃ as, as.filter visible = (tr a).toList ∧
      run next (abs w) as = abs (next' w a) ∧ observe next obs (abs w) as = (obs' w a).toList)
    {w : W'} (hw : I w) (as' : List A') :
    ∃ as, as.filter visible = as'.filterMap tr ∧ run next (abs w) as = abs (run next' w as') ∧
      observe next obs (abs w) as = observe next' obs' w as' := by
  induction as' generalizing w with
  | nil => exact ⟨[], rfl, rfl, rfl⟩
  | cons a as' ih =>
    obtain ⟨hnext, first, hfirst, hrun, hobs⟩ := hstep w a hw
    obtain ⟨rest, hrest, hrun', hobs'⟩ := ih hnext
    refine ⟨first ++ rest, ?_, ?_, ?_⟩
    · rw [List.filter_append, hfirst, hrest]
      cases htr : tr a with
      | none => simp [htr]
      | some b => simp [htr]
    · rw [run_append, hrun, hrun']
      rfl
    · rw [observe_append, hrun, hobs, hobs']
      rfl

end Refinement

end Run
