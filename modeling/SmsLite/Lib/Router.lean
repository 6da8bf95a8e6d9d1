import Mathlib.Data.List.Sublists

/-!
# First-match routing

A router tries its routes in order, and the first whose method and template take the request
serves it.  Two routes are rivals if some address of the one is taken by the other too; the order
of a table matters for rivals and for nobody else.

## Main definitions

* `Router.Template`, `Template.capture?`, `Template.fill` — templates, the parameters of a path and
  the path of some parameters.
* `Router.dispatch` — the first route that takes a request.
* `Router.Template.overlaps` — some address of the one template is taken by the other.
* `Router.Serves` — a table leads every address of a route to its handler.

## Main results

* `Router.Template.capture?_eq_some_iff` — capturing undoes filling.
* `Router.Template.overlaps_iff` — the check of two templates is exact.
* `Router.serves_iff` — **a table leads every address of a route to its handler exactly if the
  route comes before all its rivals**.
-/

namespace Router

/-! ### Templates -/

/-- A segment of a path template. -/
inductive Segment
  | literal (text : String)
  | parameter
  deriving DecidableEq, Repr

/-- A path template. -/
abbrev Template := List Segment

/-- The parameters of a path, if it is of the template; no parameter is empty. -/
def Template.capture? : Template → List String → Option (List String)
  | [], [] => some []
  | .literal text :: t, segment :: path => if segment = text then capture? t path else none
  | .parameter :: t, segment :: path =>
    if segment = "" then none else (capture? t path).map (segment :: ·)
  | [], _ :: _ => none
  | _ :: _, [] => none

/-- The path with the parameters in their places. -/
def Template.fill : Template → List String → Option (List String)
  | [], [] => some []
  | .literal text :: t, parameters => (fill t parameters).map (text :: ·)
  | .parameter :: t, p :: parameters =>
    if p = "" then none else (fill t parameters).map (p :: ·)
  | .parameter :: _, [] => none
  | [], _ :: _ => none

/-- **Capturing undoes filling.** -/
theorem Template.capture?_eq_some_iff {t : Template} {path parameters : List String} :
    t.capture? path = some parameters ↔ t.fill parameters = some path := by
  induction t generalizing path parameters with
  | nil => cases path <;> cases parameters <;> simp [capture?, fill]
  | cons s t ih =>
    cases s with
    | literal text =>
      cases path with
      | nil => simp [capture?, fill]
      | cons segment path =>
        by_cases hsegment : segment = text
        · simp [capture?, fill, hsegment, ih]
        · simp [capture?, fill, hsegment, Ne.symm hsegment]
    | parameter =>
      cases path with
      | nil => cases parameters <;> simp [capture?, fill]
      | cons segment path =>
        cases parameters with
        | nil => by_cases hsegment : segment = "" <;> simp [capture?, fill, hsegment]
        | cons p parameters =>
          by_cases hsegment : segment = ""
          · by_cases hp : p = ""
            · simp [capture?, fill, hsegment, hp]
            · simp only [capture?, fill, hsegment, hp, if_true, if_false, reduceCtorEq, false_iff]
              intro h
              obtain ⟨path', -, heq⟩ := Option.map_eq_some_iff.mp h
              exact hp (List.cons.inj heq).1
          · by_cases hp : p = ""
            · simp only [capture?, fill, hsegment, hp, if_true, if_false, reduceCtorEq, iff_false]
              intro h
              obtain ⟨parameters', -, heq⟩ := Option.map_eq_some_iff.mp h
              exact hsegment (List.cons.inj heq).1
            · simp only [capture?, fill, hsegment, hp, if_false, Option.map_eq_some_iff,
                List.cons.injEq]
              constructor
              · rintro ⟨parameters', hcapture, rfl, rfl⟩
                exact ⟨path, ih.mp hcapture, rfl, rfl⟩
              · rintro ⟨path', hfill, rfl, rfl⟩
                exact ⟨parameters, ih.mpr hfill, rfl, rfl⟩

/-! ### Routes -/

/-- A route. -/
structure Route (M H : Type) where
  method : M
  template : Template
  handler : H
  deriving DecidableEq, Repr

/-- Where a request goes. -/
inductive Dispatch (H : Type)
  | found (handler : H) (parameters : List String)
  /-- Only routes of other methods have the path. -/
  | methodNotAllowed
  | notFound
  deriving DecidableEq, Repr

variable {M H : Type} [DecidableEq M]

/-- The parameters of a request that the route takes. -/
def Route.accepts? (r : Route M H) (method : M) (path : List String) : Option (List String) :=
  if r.method = method then r.template.capture? path else none

/-- The first route that takes the request. -/
def first? (table : List (Route M H)) (method : M) (path : List String) :
    Option (H × List String) :=
  table.findSome? fun r => (r.accepts? method path).map fun parameters => (r.handler, parameters)

/-- The routing of a request. -/
def dispatch (table : List (Route M H)) (method : M) (path : List String) : Dispatch H :=
  match first? table method path with
  | some (handler, parameters) => .found handler parameters
  | none =>
    if table.any fun r => (r.template.capture? path).isSome then .methodNotAllowed else .notFound

theorem dispatch_eq_found_iff {table : List (Route M H)} {method : M} {path : List String}
    {handler : H} {parameters : List String} :
    dispatch table method path = .found handler parameters ↔
      first? table method path = some (handler, parameters) := by
  cases hfirst : first? table method path with
  | none =>
    simp only [dispatch, hfirst, reduceCtorEq, iff_false]
    split <;> simp
  | some found =>
    obtain ⟨handler', parameters'⟩ := found
    simp [dispatch, hfirst]

/-- What is found is a route of the table that takes the request. -/
theorem exists_of_dispatch {table : List (Route M H)} {method : M} {path : List String}
    {handler : H} {parameters : List String}
    (h : dispatch table method path = .found handler parameters) :
    ∃ r ∈ table, r.handler = handler ∧ r.method = method ∧
      r.template.fill parameters = some path := by
  obtain ⟨r, hr, hfound⟩ := List.exists_of_findSome?_eq_some (dispatch_eq_found_iff.mp h)
  obtain ⟨parameters', haccepts, heq⟩ := Option.map_eq_some_iff.mp hfound
  obtain ⟨rfl, rfl⟩ := Prod.mk.inj heq
  unfold Route.accepts? at haccepts
  split at haccepts
  · next hmethod => exact ⟨r, hr, rfl, hmethod, Template.capture?_eq_some_iff.mp haccepts⟩
  · cases haccepts

/-! ### Order -/

/-- An element of a list without repetitions comes after another one of its tail only. -/
theorem sublist_pair_cons_iff {α : Type} {a b c : α} {l : List α} (hac : a ≠ c) :
    [a, b].Sublist (c :: l) ↔ [a, b].Sublist l := by
  constructor
  · intro h
    cases h with
    | cons _ h => exact h
    | cons_cons => exact absurd rfl hac
  · exact fun h => h.cons c

/-- **A request goes to a route that takes it exactly if the route comes before all others that
take it.** -/
theorem first?_eq_iff {table : List (Route M H)} (hnodup : (table.map (·.handler)).Nodup)
    {r : Route M H} (hr : r ∈ table) {method : M} {path parameters : List String}
    (haccepts : r.accepts? method path = some parameters) :
    first? table method path = some (r.handler, parameters) ↔
      ∀ r' ∈ table, r'.accepts? method path ≠ none → r' = r ∨ [r, r'].Sublist table := by
  induction table with
  | nil => cases hr
  | cons r₀ rest ih =>
    obtain ⟨hfresh, hrest⟩ := List.nodup_cons.mp hnodup
    have hnotMem : r₀ ∉ rest := fun h => hfresh (List.mem_map_of_mem h)
    by_cases heq : r = r₀
    · -- The first route takes the request.
      subst heq
      have hfirst : first? (r :: rest) method path = some (r.handler, parameters) := by
        simp [first?, haccepts]
      refine iff_of_true hfirst fun r' hr' _ => ?_
      rcases List.mem_cons.mp hr' with rfl | hmem
      · exact Or.inl rfl
      · exact Or.inr (List.cons_sublist_cons.mpr (List.singleton_sublist.mpr hmem))
    · have hmem : r ∈ rest := (List.mem_cons.mp hr).resolve_left heq
      cases haccepts₀ : r₀.accepts? method path with
      | some parameters₀ =>
        -- It takes the request too, and comes first.
        have hfirst : first? (r₀ :: rest) method path = some (r₀.handler, parameters₀) := by
          simp [first?, haccepts₀]
        refine iff_of_false ?_ ?_
        · rw [hfirst]
          intro h
          have hsame : r₀.handler = r.handler := congrArg Prod.fst (Option.some.inj h)
          exact hfresh (List.mem_map.mpr ⟨r, hmem, hsame.symm⟩)
        · intro h
          rcases h r₀ List.mem_cons_self (by simp [haccepts₀]) with hsame | hsub
          · exact heq hsame.symm
          · rw [sublist_pair_cons_iff heq] at hsub
            exact hnotMem (hsub.subset (by simp))
      | none =>
        have hfirst : first? (r₀ :: rest) method path = first? rest method path := by
          simp [first?, haccepts₀]
        rw [hfirst, ih hrest hmem]
        constructor
        · intro h r' hr' hne
          rcases List.mem_cons.mp hr' with rfl | hmem'
          · exact absurd haccepts₀ hne
          · exact (h r' hmem' hne).imp_right fun hsub => hsub.cons r₀
        · intro h r' hr' hne
          exact (h r' (List.mem_cons_of_mem _ hr') hne).imp_right
            (sublist_pair_cons_iff heq).mp

/-! ### Rivals -/

section Rivals

variable (P : String → Bool)

/-- Some path of the first template, with parameters that meet `P`, is one of the second. -/
def Template.overlaps : Template → Template → Bool
  | [], [] => true
  | .literal a :: t, .literal b :: u => decide (a = b) && overlaps t u
  | .literal a :: t, .parameter :: u => decide (a ≠ "") && overlaps t u
  | .parameter :: t, .literal b :: u => P b && decide (b ≠ "") && overlaps t u
  | .parameter :: t, .parameter :: u => overlaps t u
  | [], _ :: _ => false
  | _ :: _, [] => false

variable {P}

/-- **The check of two templates is exact**, if there is a parameter at all. -/
theorem Template.overlaps_iff {p₀ : String} (hsome : P p₀ = true) (hne : p₀ ≠ "")
    {t u : Template} :
    overlaps P t u = true ↔
      ∃ parameters path, (∀ p ∈ parameters, P p = true) ∧ t.fill parameters = some path ∧
        (u.capture? path).isSome = true := by
  induction t generalizing u with
  | nil =>
    cases u with
    | nil => exact iff_of_true rfl ⟨[], [], by simp, rfl, rfl⟩
    | cons s u =>
      refine iff_of_false (by simp [overlaps]) ?_
      rintro ⟨parameters, path, -, hfill, hcapture⟩
      cases parameters with
      | nil =>
        cases hfill
        cases s <;> simp [capture?] at hcapture
      | cons p parameters => cases hfill
  | cons s t ih =>
    cases u with
    | nil =>
      refine iff_of_false (by cases s <;> simp [overlaps]) ?_
      rintro ⟨parameters, path, -, hfill, hcapture⟩
      cases path with
      | nil =>
        have := capture?_eq_some_iff.mpr hfill
        cases s <;> simp [capture?] at this
      | cons segment path => simp [capture?] at hcapture
    | cons s' u =>
      have hstep : ∀ parameters path, (∀ p ∈ parameters, P p = true) →
          fill t parameters = some path → (capture? u path).isSome = true →
          overlaps P t u = true := fun parameters path hall hfill hcapture =>
        ih.mpr ⟨parameters, path, hall, hfill, hcapture⟩
      cases s with
      | literal a =>
        simp only [fill, Option.map_eq_some_iff]
        constructor
        · intro h
          cases s' with
          | literal b =>
            simp only [overlaps, Bool.and_eq_true, decide_eq_true_eq] at h
            obtain ⟨parameters, path, hall, hfill, hcapture⟩ := ih.mp h.2
            exact ⟨parameters, a :: path, hall, ⟨path, hfill, rfl⟩, by simpa [capture?, h.1]⟩
          | parameter =>
            simp only [overlaps, Bool.and_eq_true, decide_eq_true_eq] at h
            obtain ⟨parameters, path, hall, hfill, hcapture⟩ := ih.mp h.2
            exact ⟨parameters, a :: path, hall, ⟨path, hfill, rfl⟩,
              by simpa [capture?, h.1] using hcapture⟩
        · rintro ⟨parameters, _, hall, ⟨path, hfill, rfl⟩, hcapture⟩
          cases s' with
          | literal b =>
            by_cases hab : a = b
            · simp only [capture?, hab, if_true] at hcapture
              simp [overlaps, hab, hstep parameters path hall hfill hcapture]
            · simp [capture?, hab] at hcapture
          | parameter =>
            by_cases ha : a = ""
            · simp [capture?, ha] at hcapture
            · simp only [capture?, ha, if_false, Option.isSome_map] at hcapture
              simp [overlaps, ha, hstep parameters path hall hfill hcapture]
      | parameter =>
        constructor
        · intro h
          cases s' with
          | literal b =>
            simp only [overlaps, Bool.and_eq_true, decide_eq_true_eq] at h
            obtain ⟨parameters, path, hall, hfill, hcapture⟩ := ih.mp h.2
            exact ⟨b :: parameters, b :: path, List.forall_mem_cons.mpr ⟨h.1.1, hall⟩,
              by simp [fill, h.1.2, hfill], by simpa [capture?]⟩
          | parameter =>
            obtain ⟨parameters, path, hall, hfill, hcapture⟩ := ih.mp h
            exact ⟨p₀ :: parameters, p₀ :: path, List.forall_mem_cons.mpr ⟨hsome, hall⟩,
              by simp [fill, hne, hfill], by simpa [capture?, hne] using hcapture⟩
        · rintro ⟨parameters, path, hall, hfill, hcapture⟩
          cases parameters with
          | nil => cases hfill
          | cons p parameters =>
            obtain ⟨hp, hall⟩ := List.forall_mem_cons.mp hall
            by_cases hempty : p = ""
            · simp [fill, hempty] at hfill
            · simp only [fill, hempty, if_false, Option.map_eq_some_iff] at hfill
              obtain ⟨path, hfill, rfl⟩ := hfill
              cases s' with
              | literal b =>
                by_cases hpb : p = b
                · subst hpb
                  simp only [capture?, if_true] at hcapture
                  simp [overlaps, hp, hempty, hstep parameters path hall hfill hcapture]
                · simp [capture?, hpb] at hcapture
              | parameter =>
                simp only [capture?, hempty, if_false, Option.isSome_map] at hcapture
                exact hstep parameters path hall hfill hcapture

variable (P)

/-- Some address of the first route is taken by the second. -/
def Route.rivals (r r' : Route M H) : Bool :=
  decide (r'.method = r.method) && r.template.overlaps P r'.template

/-- The table leads every address of the route to its handler. -/
def Serves (table : List (Route M H)) (r : Route M H) : Prop :=
  ∀ parameters path, (∀ p ∈ parameters, P p = true) → r.template.fill parameters = some path →
    dispatch table r.method path = .found r.handler parameters

variable {P}

/-- **A table leads every address of a route to its handler exactly if the route comes before all
its rivals.** -/
theorem serves_iff {p₀ : String} (hsome : P p₀ = true) (hne : p₀ ≠ "")
    {table : List (Route M H)} (hnodup : (table.map (·.handler)).Nodup) {r : Route M H}
    (hr : r ∈ table) :
    Serves P table r ↔
      ∀ r' ∈ table, r.rivals P r' = true → r' = r ∨ [r, r'].Sublist table := by
  have haccepts : ∀ {parameters path}, r.template.fill parameters = some path →
      r.accepts? r.method path = some parameters := fun hfill => by
    rw [Route.accepts?, if_pos rfl, Template.capture?_eq_some_iff]
    exact hfill
  constructor
  · intro h r' hr' hrivals
    simp only [Route.rivals, Bool.and_eq_true, decide_eq_true_eq] at hrivals
    obtain ⟨hmethod, hoverlaps⟩ := hrivals
    obtain ⟨parameters, path, hall, hfill, hcapture⟩ :=
      (Template.overlaps_iff hsome hne).mp hoverlaps
    have hfirst := dispatch_eq_found_iff.mp (h parameters path hall hfill)
    refine (first?_eq_iff hnodup hr (haccepts hfill)).mp hfirst r' hr' fun hnone => ?_
    rw [Route.accepts?, if_pos hmethod] at hnone
    simp [hnone] at hcapture
  · intro h parameters path hall hfill
    refine dispatch_eq_found_iff.mpr
      ((first?_eq_iff hnodup hr (haccepts hfill)).mpr fun r' hr' hne' => h r' hr' ?_)
    rw [Route.accepts?] at hne'
    split at hne'
    · next hmethod =>
      have hcapture : (r'.template.capture? path).isSome = true :=
        Option.isSome_iff_ne_none.mpr hne'
      simp only [Route.rivals, hmethod, decide_true, Bool.true_and]
      exact (Template.overlaps_iff hsome hne).mpr ⟨parameters, path, hall, hfill, hcapture⟩
    · exact absurd rfl hne'

end Rivals

end Router
