import Mathlib.Data.List.Basic
import Mathlib.Data.List.Pairwise
import Mathlib.Tactic.Common
import Mathlib.Algebra.Order.Ring.Nat

/-!
# Limits by fixed windows

A counter that is forgotten a fixed time after the first hit it counts.  A hit is admitted while
the counter has not passed the amount.

## Main definitions

* `FixedWindow.hit` — one hit.
* `FixedWindow.after`, `FixedWindow.admitted` — a sequence of hits, and how many are admitted.

## Main results

* `FixedWindow.admitted_le` — **in `k` windows' time no more than `k + 1` amounts are admitted**,
  and no more than `k` if no counter is running.
* `FixedWindow.countP_le_mul` — what several counters bound together.
-/

namespace FixedWindow

/-- A counter, and when it is forgotten. -/
structure Window where
  count : ℕ
  expiresAt : ℕ
  deriving DecidableEq, Repr

/-- Count one more hit; a counter that is gone is started again. -/
def hit (amount duration now : ℕ) : Option Window → Bool × Window
  | none => (decide (1 ≤ amount), ⟨1, now + duration⟩)
  | some w =>
    if now < w.expiresAt then (decide (w.count + 1 ≤ amount), { w with count := w.count + 1 })
    else (decide (1 ≤ amount), ⟨1, now + duration⟩)

variable (amount duration : ℕ)

/-- The counter after hits at these times. -/
def after : Option Window → List ℕ → Option Window
  | w, [] => w
  | w, now :: times => after (some (hit amount duration now w).2) times

/-- How many of the hits are admitted. -/
def admitted : Option Window → List ℕ → ℕ
  | _, [] => 0
  | w, now :: times =>
    (hit amount duration now w).1.toNat + admitted (some (hit amount duration now w).2) times

/-- What a running counter still admits. -/
def left : Option Window → ℕ
  | none => 0
  | some w => amount - w.count

/-- When the next counter starts at the earliest, from the given time on. -/
def free (now : ℕ) : Option Window → ℕ
  | none => now
  | some w => max now w.expiresAt

variable {amount duration}

@[simp] theorem after_nil (w : Option Window) : after amount duration w [] = w := rfl

@[simp] theorem after_cons (w : Option Window) (now : ℕ) (times : List ℕ) :
    after amount duration w (now :: times) =
      after amount duration (some (hit amount duration now w).2) times := rfl

@[simp] theorem admitted_nil (w : Option Window) : admitted amount duration w [] = 0 := rfl

theorem admitted_cons (w : Option Window) (now : ℕ) (times : List ℕ) :
    admitted amount duration w (now :: times) =
      (hit amount duration now w).1.toNat +
        admitted amount duration (some (hit amount duration now w).2) times := rfl

theorem admitted_append (w : Option Window) (times times' : List ℕ) :
    admitted amount duration w (times ++ times') =
      admitted amount duration w times +
        admitted amount duration (after amount duration w times) times' := by
  induction times generalizing w with
  | nil => simp
  | cons now times ih => rw [List.cons_append, admitted_cons, admitted_cons, ih, after_cons,
      Nat.add_assoc]

/-- A hit either uses up what the running counter has left, or starts a counter. -/
theorem hit_cases (amount duration now : ℕ) (w : Option Window) :
    ((hit amount duration now w).1.toNat + left amount (some (hit amount duration now w).2) ≤
        left amount w ∧ now < free now w ∧
        ∀ later, free later (some (hit amount duration now w).2) = free later w) ∨
      ((hit amount duration now w).1.toNat + left amount (some (hit amount duration now w).2) ≤
          amount ∧ free now w = now ∧
        (hit amount duration now w).2.expiresAt = now + duration) := by
  cases w with
  | none =>
    right
    refine ⟨?_, rfl, rfl⟩
    by_cases h : 1 ≤ amount
    · simp only [hit, left, h, decide_true, Bool.toNat_true]
      omega
    · simp only [hit, left, h, decide_false, Bool.toNat_false]
      omega
  | some w =>
    by_cases hrunning : now < w.expiresAt
    · left
      rw [hit, if_pos hrunning]
      refine ⟨?_, ?_, fun later => rfl⟩
      · by_cases h : w.count + 1 ≤ amount
        · simp only [left, h, decide_true, Bool.toNat_true]
          omega
        · simp only [left, h, decide_false, Bool.toNat_false]
          omega
      · simp only [free]
        omega
    · right
      rw [hit, if_neg hrunning]
      refine ⟨?_, ?_, rfl⟩
      · by_cases h : 1 ≤ amount
        · simp only [left, h, decide_true, Bool.toNat_true]
          omega
        · simp only [left, h, decide_false, Bool.toNat_false]
          omega
      · simp only [free]
        omega

/-- **What is admitted until a deadline**: what the running counter has left, and one amount for
each window that starts before it. -/
theorem admitted_le_of_free {w : Option Window} {since deadline k : ℕ} {times : List ℕ}
    (hsorted : (since :: times).Pairwise (· ≤ ·)) (hbefore : ∀ now ∈ times, now < deadline)
    (hk : deadline ≤ free since w + k * duration) :
    admitted amount duration w times ≤ left amount w + amount * k := by
  induction times generalizing w since k with
  | nil => exact Nat.zero_le _
  | cons now times ih =>
    have hsince : since ≤ now := (List.pairwise_cons.mp hsorted).1 now List.mem_cons_self
    have htail : (now :: times).Pairwise (· ≤ ·) := (List.pairwise_cons.mp hsorted).2
    have hnow : now < deadline := hbefore now List.mem_cons_self
    have hrest : ∀ t ∈ times, t < deadline := fun t ht => hbefore t (List.mem_cons_of_mem _ ht)
    rw [admitted_cons]
    rcases hit_cases amount duration now w with ⟨hleft, hrunning, hfree⟩ | ⟨hleft, hfree, hexpires⟩
    · -- The counter runs on.
      have hsame : free now w = free since w := by
        cases w with
        | none => exact absurd hrunning (lt_irrefl now)
        | some w =>
          simp only [free] at hrunning ⊢
          omega
      have hle := ih htail hrest (w := some (hit amount duration now w).2) (k := k)
        (by rw [hfree now, hsame]; exact hk)
      omega
    · -- A new counter: one of the windows is used up.
      have hle : free since w ≤ now := by
        cases w with
        | none => exact hsince
        | some w =>
          simp only [free] at hfree ⊢
          omega
      cases k with
      | zero =>
        rw [Nat.zero_mul] at hk
        omega
      | succ k =>
        have hmul : (k + 1) * duration = k * duration + duration := Nat.succ_mul k duration
        have hle' := ih htail hrest (w := some (hit amount duration now w).2) (k := k)
          (by simp only [free, hexpires]; omega)
        have hmul' : amount * (k + 1) = amount * k + amount := Nat.mul_succ amount k
        omega

/-- **In `k` windows' time no more than `k + 1` amounts are admitted**, and no more than `k` if
no counter is running. -/
theorem admitted_le {w : Option Window} {since k : ℕ} {times : List ℕ}
    (hsorted : (since :: times).Pairwise (· ≤ ·))
    (hbefore : ∀ now ∈ times, now < since + k * duration) :
    admitted amount duration w times ≤ amount * (k + 1) ∧
      (w = none → admitted amount duration w times ≤ amount * k) := by
  have hfree : since ≤ free since w := by
    cases w with
    | none => exact le_rfl
    | some w => exact le_max_left _ _
  have hk : since + k * duration ≤ free since w + k * duration := by omega
  have hle : admitted amount duration w times ≤ left amount w + amount * k :=
    admitted_le_of_free hsorted hbefore hk
  have hleft : left amount w ≤ amount := by
    cases w with
    | none => exact Nat.zero_le _
    | some w => exact Nat.sub_le _ _
  have hmul : amount * (k + 1) = amount * k + amount := Nat.mul_succ amount k
  constructor
  · omega
  · intro hnone
    subst hnone
    have hzero : left amount none = 0 := rfl
    omega

/-! ### Several counters -/

section Counters

variable {α K : Type} [DecidableEq K] {key : α → Option K} {l : List α} {p : α → Bool}

theorem countP_le_add (l : List α) (p q : α → Bool) :
    l.countP p ≤ l.countP q + l.countP fun a => p a && !q a := by
  induction l with
  | nil => exact le_rfl
  | cons a l ih =>
    rw [List.countP_cons, List.countP_cons, List.countP_cons]
    cases p a <;> cases q a <;> simp <;> omega

/-- **What several counters bound**: if everything of a kind is counted under one of some keys,
and nothing is counted more than `n` times under each of them. -/
theorem countP_le_mul {keys : List K} {n : ℕ}
    (hkeys : ∀ a ∈ l, p a = true → ∃ k ∈ keys, key a = some k)
    (hn : ∀ k ∈ keys, l.countP (fun a => decide (key a = some k)) ≤ n) :
    l.countP p ≤ n * keys.length := by
  induction keys generalizing p with
  | nil =>
    have hnone : l.countP p = 0 := by
      refine List.countP_eq_zero.mpr ?_
      intro a ha hp
      obtain ⟨k, hk, -⟩ := hkeys a ha hp
      cases hk
    rw [hnone]
    exact Nat.zero_le _
  | cons k keys ih =>
    have hfirst : l.countP (fun a => decide (key a = some k)) ≤ n := hn k List.mem_cons_self
    have hrest : l.countP (fun a => p a && !decide (key a = some k)) ≤ n * keys.length := by
      apply ih
      · intro a ha hp
        obtain ⟨hpa, hne⟩ := Bool.and_eq_true_iff.mp hp
        obtain ⟨k', hk', hkey⟩ := hkeys a ha hpa
        rcases List.mem_cons.mp hk' with rfl | hk'
        · simp [hkey] at hne
        · exact ⟨k', hk', hkey⟩
      · intro k' hk'
        exact hn k' (List.mem_cons_of_mem _ hk')
    have hle := countP_le_add l p fun a => decide (key a = some k)
    rw [List.length_cons, Nat.mul_succ]
    omega

end Counters

end FixedWindow
