import SmsLite.Concrete
import SmsLite.Refinement.System

/-!
# The lockout bounds the guesses

Each wrong password from the fifth on locks the account for a quarter of an hour from
that moment, and a locked account verifies nothing.  So from the fifth on the wrong
passwords are spaced, and spaced moments are few.

## Main definitions

* `Spaced` — from some wrong attempt on, nothing follows a wrong attempt too soon.
* `Event.verification?` — the password verification of an event, read off the statements
  that `login` issues.
* `World.verifications` — the verifications of a run, with their moments.
* `Event.Unlocks` — the requests that reset the lockout.

## Main results

* `Spaced.countP_le` — spaced wrong attempts are few in any period.
* `login_verified`, `login_wrong` — when `login` verifies a password, and what a wrong one
  does.
* `lockout_spaced` — **a run verifies spaced attempts only**.
-/

namespace SmsLite

open Interleave
open Interleave.Prog (Ends ends_bind)

/-! ### Spaced attempts -/

/-- After the first `n` wrong attempts, nothing comes less than `d` after a wrong one. -/
def Spaced (d n : ℕ) (attempts : List (ℕ × Bool)) : Prop :=
  ∀ before t after, attempts = before ++ (t, false) :: after →
    n ≤ before.countP (fun x => !x.2) → ∀ x ∈ after, t + d ≤ x.1

theorem Spaced.tail {d n : ℕ} {x : ℕ × Bool} {attempts : List (ℕ × Bool)}
    (h : Spaced d n (x :: attempts)) : Spaced d (n - if x.2 then 0 else 1) attempts := by
  rintro before t after rfl hn
  refine h (x :: before) t after rfl ?_
  rw [List.countP_cons]
  obtain ⟨t', ok⟩ := x
  cases ok <;> simp_all

/-- **Spaced wrong attempts are few**: beyond the first `n + 1` of them, one for each `d`
that has passed since `t₀`. -/
theorem Spaced.countP_le {d : ℕ} (hd : 0 < d) {n : ℕ} {attempts : List (ℕ × Bool)}
    (h : Spaced d n attempts) {t₀ : ℕ} (h₀ : ∀ x ∈ attempts, t₀ ≤ x.1) (D : ℕ) :
    attempts.countP (fun x => !x.2 && decide (x.1 ≤ t₀ + D)) ≤ n + 1 + D / d := by
  induction attempts generalizing n t₀ D with
  | nil => simp
  | cons x attempts ih =>
    have hrest : ∀ y ∈ attempts, t₀ ≤ y.1 := fun y hy => h₀ y (List.mem_cons_of_mem _ hy)
    have htail := h.tail
    obtain ⟨t, ok⟩ := x
    have ht := h₀ (t, ok) List.mem_cons_self
    rw [List.countP_cons]
    cases ok with
    | true => simpa using ih htail hrest D
    | false =>
      have hcount : (if (!(t, false).2 && decide ((t, false).1 ≤ t₀ + D)) = true then 1 else 0) ≤
          1 := by
        split <;> omega
      cases n with
      -- Not yet spaced: one of the first `n + 1` is used up.
      | succ n =>
        have := ih (n := n) htail hrest D
        omega
      | zero =>
        -- The spacing has begun: what follows starts anew at `t₀ + d`.
        have hlater : ∀ y ∈ attempts, t₀ + d ≤ y.1 := fun y hy =>
          (Nat.add_le_add_right ht d).trans (h [] t attempts rfl (Nat.zero_le _) y hy)
        by_cases hD : D < d
        -- The next one comes too late to be in the window.
        · have hnone : attempts.countP (fun x => !x.2 && decide (x.1 ≤ t₀ + D)) = 0 := by
            refine List.countP_eq_zero.mpr fun y hy => ?_
            have := hlater y hy
            simp only [Bool.and_eq_true, decide_eq_true_eq, not_and, not_le]
            omega
          rw [hnone]
          exact (Nat.add_le_add_left hcount 0).trans (Nat.le_add_right _ _)
        -- A window shorter by `d` is left for the rest.
        · have hnext := ih htail hlater (D - d)
          rw [show t₀ + d + (D - d) = t₀ + D by omega] at hnext
          have hdiv : D / d = (D - d) / d + 1 := by
            rw [← Nat.add_div_right _ hd, Nat.sub_add_cancel (not_lt.mp hD)]
          simp only [Bool.false_eq_true, if_false] at hnext
          omega

/-! ### Verifications -/

/-- The answer of the first password verification among the statements that does not raise. -/
def verified? : List ((s : Stmt) × s.Reply) → Option Bool
  | ⟨.verifyPassword _ _, .ok valid⟩ :: _ => some valid
  | _ :: rest => verified? rest
  | [] => none

/-- The password verification of `u` that an event reaches, if it is a `login` that does. -/
def Event.verification? (env : Env) (w : World) (u : UserId) : Event → Option Bool
  | .request (.login formData) =>
    if (Request.login formData).target? env w = some u then
      verified? (((Request.login formData).service env).trace (exec env) w)
    else none
  | _ => none

/-- The verifications of a run: when each took place and whether the password was right. -/
def World.verifications (env : Env) (u : UserId) : World → List Event → List (Time × Bool)
  | _, [] => []
  | w, e :: events =>
    ((e.verification? env w u).map fun ok => (w.clock, ok)).toList ++
      World.verifications env u (w.after env e) events

section Login

variable {env : Env} {w : World} {u : UserId} {acc : Account}

theorem verified?_getUserByUsername {β : Type} (username : String) (q : UserQuery)
    (f : Option Loaded → Service β) :
    verified? ((getUserByUsername username q >>= f).trace (exec env) w) =
      verified? ((f (w.db.selectUserByUsername username q)).trace (exec env) w) := rfl

theorem verified?_datetimeNow {β : Type} (f : Time → Service β) :
    verified? ((datetimeNow >>= f).trace (exec env) w) =
      verified? ((f w.clock).trace (exec env) w) := rfl

theorem verified?_verifyPassword {β : Type} (plain : String) (hashed : Option String)
    (f : Bool → Service β) :
    verified? ((verifyPassword plain hashed >>= f).trace (exec env) w) =
      (env.verifyPassword plain hashed).toOption := by
  change verified? (⟨.verifyPassword plain hashed, env.verifyPassword plain hashed⟩ ::
    (ofExcept (env.verifyPassword plain hashed) >>= f).trace (exec env) w) = _
  cases env.verifyPassword plain hashed with
  | error e => rfl
  | ok valid => rfl

/-- `login` verifies a password only if the account is not locked, and the result is that
of the stored hash. -/
theorem login_verified (hs : w.Sound) (hacc : w.account u = some acc) {formData : LoginForm}
    (htarget : (Request.login formData).target? env w = some u) {ok : Bool}
    (h : verified? ((login env formData).trace (exec env) w) = some ok) :
    ∃ username password hash, formData.username = some username ∧
      formData.password = some password ∧ ¬ acc.Locked w.clock ∧
      acc.user.passwordHash = some hash ∧ acc.user.status ≠ .pendingActivation ∧
      env.verifyPassword password (some hash) = .ok ok := by
  obtain ⟨username, huser, hid⟩ : ∃ username, formData.username = some username ∧
      w.db.userNamed username = some u := Option.bind_eq_some_iff.mp htarget
  unfold login at h
  rw [huser] at h
  cases hpass : formData.password with
  | none =>
    rw [hpass] at h
    cases h
  | some password =>
    rw [hpass] at h
    dsimp only at h
    rw [verified?_getUserByUsername,
      World.selectUserByUsername_of_account hacc hs.toCoherent hid] at h
    simp only [Account.loaded_user, Account.loaded_loginLockout, if_true, deref_some,
      verified?_datetimeNow] at h
    -- Whatever is refused before the verification leaves none in the trace.
    split at h
    · cases h
    · next hunlocked =>
      have hunlocked : ¬ acc.Locked w.clock := by
        rintro ⟨t, ht, hlt⟩
        simp [Option.filter, Option.mem_def.mp ht, hlt] at hunlocked
      by_cases hhash : acc.user.passwordHash = none
      · simp only [hhash, if_true] at h
        cases h
      · simp only [hhash, if_false] at h
        obtain ⟨hash, hhash⟩ := Option.ne_none_iff_exists'.mp hhash
        by_cases hpending : acc.user.status = .pendingActivation
        · simp only [hpending, if_true] at h
          cases h
        · simp only [hpending, if_false, verified?_verifyPassword, hhash] at h
          refine ⟨username, password, hash, huser, rfl, hunlocked, hhash, hpending, ?_⟩
          -- A password that passlib refuses has not been verified.
          cases hverify : env.verifyPassword password (some hash) with
          | error e =>
            rw [hverify] at h
            cases h
          | ok valid =>
            rw [hverify] at h
            exact congrArg _ (Option.some.inj h)

/-- **A wrong password always counts.** -/
theorem login_wrong (hs : w.Sound) (hacc : w.account u = some acc) {formData : LoginForm}
    (htarget : (Request.login formData).target? env w = some u)
    (h : verified? ((login env formData).trace (exec env) w) = some false) :
    Ends (exec env) (login env formData)
      (fun _ w' => w'.account u = some (acc.failedLogin w.clock)) w := by
  obtain ⟨username, password, hash, huser, hpass, hunlocked, hhash, hpending, hbad⟩ :=
    login_verified hs hacc htarget h
  have hid : w.db.userNamed username = some u := by
    simpa [Request.target?, huser] using htarget
  have hfilter : acc.loginLockout.lockedUntil.filter (w.clock < ·) = none := by
    rw [Option.filter_eq_none_iff]
    intro t ht hlt
    exact hunlocked ⟨t, ht, by simpa using hlt⟩
  unfold login
  rw [huser, hpass]
  dsimp only
  rw [ends_getUserByUsername, World.selectUserByUsername_of_account hacc hs.toCoherent hid]
  simp only [Account.loaded_user, Account.loaded_loginLockout, if_true, deref_some,
    ends_datetimeNow, hfilter, hhash, reduceCtorEq, if_false, hpending]
  refine ends_verifyPassword (fun valid hvalid => ?_) fun e he => by cases hbad.symm.trans he
  obtain rfl : false = valid := Except.ok.inj (hbad.symm.trans hvalid)
  simp only [Bool.not_false, if_true, ends_datetimeNow]
  -- The flush writes the user back unchanged, so no constraint can make this commit fail.
  refine ends_commitOrRaise (fun db' hcommit => ?_) fun e hcommit => absurd hcommit
    (w.db.commit_update_ne_error w.clock acc.user rfl
      (w.db.checkUser_eq_none rfl rfl rfl rfl rfl rfl rfl) (by simp))
  obtain ⟨user, hdraft, -, hmoved⟩ := hs.toCoherent.commit_update hacc
    ⟨rfl, rfl, by simp, by simp, by simp⟩ hcommit
  obtain rfl : user = acc.user := User.draft_injective hdraft
  exact hmoved.account

/-- A verification, on the level of events. -/
theorem World.Sound.verification (hs : w.Sound) (hacc : w.account u = some acc) {e : Event}
    {ok : Bool} (h : e.verification? env w u = some ok) :
    ¬ acc.Locked w.clock ∧
      (ok = false → (w.after env e).account u = some (acc.failedLogin w.clock)) := by
  cases e with
  | outside o => cases h
  | request r =>
    cases r with
    | login formData =>
      simp only [Event.verification?, Option.ite_none_right_eq_some] at h
      obtain ⟨htarget, h⟩ := h
      rw [show (Request.login formData).service env = Response.tokens <$> login env formData from
        rfl, Prog.trace_map] at h
      obtain ⟨-, -, -, -, -, hunlocked, -⟩ := login_verified hs hacc htarget h
      refine ⟨hunlocked, ?_⟩
      rintro rfl
      have hends : Ends (exec env) (Response.tokens <$> login env formData)
          (fun _ w' => w'.account u = some (acc.failedLogin w.clock)) w :=
        (Prog.ends_map _ _ _).mpr (login_wrong hs hacc htarget h)
      exact hends
    | _ => cases h

end Login

/-! ### The lock -/

/-- The request resets the lockout row if it succeeds. -/
def Request.unlocks : Request → Bool
  | login _ | resetPassword _ | activateUser _ => true
  | _ => false

/-- A successful `login`, `reset_password` or `activate_user` of the account. -/
def Event.Unlocks (env : Env) (w : World) (u : UserId) : Event → Prop
  | .request r =>
    r.unlocks = true ∧ r.target? env w = some u ∧ ∃ response, w.respond env r = .ok response
  | .outside _ => False

/-- What a step leaves in the lockout row. -/
theorem Account.Step.loginLockout {env : Env} {now : Time} {draws draws' : ℕ} {r : Request}
    {out : Outcome} {acc acc' : Account} (h : acc.Step env now draws r out acc' draws') :
    acc'.loginLockout = acc.loginLockout ∨ (¬ acc.Locked now ∧ acc' = acc.failedLogin now) ∨
      (r.unlocks = true ∧ ∃ response, out = .ok response) := by
  cases h with
  | loginFailed _ _ _ _ _ _ _ hunlocked => exact Or.inr (Or.inl ⟨hunlocked, rfl⟩)
  | login | resetPassword | activateUser => exact Or.inr (Or.inr ⟨rfl, _, rfl⟩)
  | _ => exact Or.inl rfl

/-- The account is locked until `t` at least. -/
def Account.LockedUntil (acc : Account) (t : Time) : Prop :=
  ∃ l ∈ acc.loginLockout.lockedUntil, t ≤ l

/-- What an event leaves in the lockout row, unless it resets it. -/
theorem Evolves.loginLockout {env : Env} {w : World} {u : UserId} {acc acc' : Account} {e : Event}
    (h : Evolves env w u acc e acc') (he : ¬ e.Unlocks env w u) :
    acc'.loginLockout = acc.loginLockout ∨
      (¬ acc.Locked w.clock ∧ acc' = acc.failedLogin w.clock) := by
  cases h with
  | stays => exact Or.inl rfl
  | evicted => exact Or.inl rfl
  | steps r acc' htarget hstep =>
    rcases hstep.loginLockout with h | h | ⟨hunlocks, hout⟩
    · exact Or.inl h
    · exact Or.inr h
    · exact absurd ⟨hunlocks, htarget, hout⟩ he

/-- A lock is only ever extended. -/
theorem Evolves.lockedUntil {env : Env} {w : World} {u : UserId} {acc acc' : Account} {e : Event}
    (h : Evolves env w u acc e acc') (he : ¬ e.Unlocks env w u) {t : Time}
    (ht : acc.LockedUntil t) : acc'.LockedUntil t := by
  obtain ⟨l, hl, htl⟩ := ht
  rcases h.loginLockout he with hkeep | ⟨hunlocked, rfl⟩
  · exact ⟨l, hkeep ▸ hl, htl⟩
  -- A wrong password is counted on an unlocked account only: the old lock has run out.
  · have hpast : l ≤ w.clock := not_lt.mp fun hlt => hunlocked ⟨l, hl, hlt⟩
    by_cases hfifth : maxFailedAttempts ≤ acc.loginLockout.failedLoginAttempts + 1
    · refine ⟨w.clock + Time.minutes lockoutMinutes, ?_, ?_⟩
      · simp [Account.failedLogin, hfifth]
      · exact htl.trans (hpast.trans (Nat.le_add_right _ _))
    · refine ⟨l, ?_, htl⟩
      simpa [Account.failedLogin, hfifth] using hl

/-- Attempts are only ever added. -/
theorem Evolves.failedLoginAttempts {env : Env} {w : World} {u : UserId} {acc acc' : Account}
    {e : Event} (h : Evolves env w u acc e acc') (he : ¬ e.Unlocks env w u) :
    acc.loginLockout.failedLoginAttempts ≤ acc'.loginLockout.failedLoginAttempts := by
  rcases h.loginLockout he with hkeep | ⟨-, rfl⟩
  · exact hkeep ▸ le_rfl
  · exact Nat.le_succ _

section Run

variable {env : Env} {w : World} {u : UserId} {acc : Account} {events : List Event}

/-- A locked account verifies nothing before its lock has run out. -/
theorem verifications_of_lockedUntil (hs : w.Sound) (hacc : w.account u = some acc)
    (h : Run.Throughout (World.after env) (fun w e => ¬ e.Unlocks env w u) w events) {t : Time}
    (ht : acc.LockedUntil t) : ∀ x ∈ w.verifications env u events, t ≤ x.1 := by
  induction events generalizing w acc with
  | nil => simp [World.verifications]
  | cons e events ih =>
    obtain ⟨acc', hacc', hevolves⟩ := hs.evolves env hacc e
    have hrest := ih (hs.after env e) hacc' h.2 (hevolves.lockedUntil h.1 ht)
    intro x hx
    rcases List.mem_append.mp hx with hx | hx
    · obtain ⟨ok, hok, rfl⟩ : ∃ ok, e.verification? env w u = some ok ∧ (w.clock, ok) = x := by
        simpa using hx
      -- Whoever reached a verification was not locked, so the clock has passed the lock.
      obtain ⟨hunlocked, -⟩ := hs.verification hacc hok
      obtain ⟨l, hl, htl⟩ := ht
      exact htl.trans (not_lt.mp fun hlt => hunlocked ⟨l, hl, hlt⟩)
    · exact hrest x hx

/-- From `n` attempts on, the spacing begins after the ones missing to the fifth. -/
theorem spaced_verifications (hs : w.Sound) (hacc : w.account u = some acc)
    (h : Run.Throughout (World.after env) (fun w e => ¬ e.Unlocks env w u) w events) :
    Spaced (Time.minutes lockoutMinutes)
      (maxFailedAttempts - 1 - acc.loginLockout.failedLoginAttempts)
      (w.verifications env u events) := by
  induction events generalizing w acc with
  | nil =>
    rintro before t after heq
    simp [World.verifications] at heq
  | cons e events ih =>
    obtain ⟨acc', hacc', hevolves⟩ := hs.evolves env hacc e
    have hs' := hs.after env e
    have hrest := ih hs' hacc' h.2
    have hgrows := hevolves.failedLoginAttempts h.1
    cases hver : e.verification? env w u with
    -- No verification: the attempts may only have grown, which makes the bound weaker.
    | none =>
      simp only [World.verifications, hver, Option.map_none, Option.toList_none, List.nil_append]
      exact fun before t after heq hn => hrest before t after heq (by omega)
    | some ok =>
      simp only [World.verifications, hver, Option.map_some, Option.toList_some,
        List.singleton_append]
      obtain ⟨hunlocked, hwrong⟩ := hs.verification hacc hver
      rintro (_ | ⟨x, before⟩) t after heq hn
      · -- The verification itself: a fifth wrong password locks the account.
        obtain ⟨⟨rfl, rfl⟩, rfl⟩ : (w.clock = t ∧ ok = false) ∧
            (w.after env e).verifications env u events = after := by simpa using heq
        have hlocked : (acc.failedLogin w.clock).LockedUntil
            (w.clock + Time.minutes lockoutMinutes) := by
          refine ⟨_, ?_, le_rfl⟩
          have hfifth : maxFailedAttempts ≤ acc.loginLockout.failedLoginAttempts + 1 := by
            simp only [List.countP_nil, maxFailedAttempts] at hn ⊢
            omega
          simp [Account.failedLogin, hfifth]
        exact verifications_of_lockedUntil hs' (hwrong rfl) h.2 hlocked
      -- A later verification: each wrong one before it is one less that is missing to the fifth.
      · obtain ⟨rfl, hlater⟩ := List.cons.inj heq
        refine hrest before t after hlater ?_
        rw [List.countP_cons] at hn
        cases ok with
        | true =>
          simp only [Bool.not_true, Bool.false_eq_true, if_false] at hn
          omega
        | false =>
          rw [hwrong rfl, Option.some.injEq] at hacc'
          subst hacc'
          simp only [Account.failedLogin, Bool.not_false, if_true] at hn ⊢
          omega

/-- Nothing is verified before the run. -/
theorem clock_le_verifications (hs : w.Sound) :
    ∀ x ∈ w.verifications env u events, w.clock ≤ x.1 := by
  induction events generalizing w with
  | nil => simp [World.verifications]
  | cons e events ih =>
    intro x hx
    rcases List.mem_append.mp hx with hx | hx
    · obtain ⟨ok, -, rfl⟩ : ∃ ok, e.verification? env w u = some ok ∧ (w.clock, ok) = x := by
        simpa using hx
      exact le_rfl
    · exact (hs.clock_le_after env e).trans (ih (hs.after env e) x hx)

/-- The verifications come in the order of their moments. -/
theorem sorted_verifications (hs : w.Sound) :
    (w.verifications env u events).Pairwise fun x y => x.1 ≤ y.1 := by
  induction events generalizing w with
  | nil => exact List.Pairwise.nil
  | cons e events ih =>
    refine List.pairwise_append.mpr ⟨?_, ih (hs.after env e), fun x hx y hy => ?_⟩
    · cases e.verification? env w u with
      | none => exact List.Pairwise.nil
      | some ok => exact List.pairwise_singleton _ _
    · obtain ⟨ok, -, rfl⟩ : ∃ ok, e.verification? env w u = some ok ∧ (w.clock, ok) = x := by
        simpa using hx
      exact (hs.clock_le_after env e).trans (clock_le_verifications (hs.after env e) y hy)

end Run

/-- **A run without a reset verifies spaced attempts only**: from the fifth wrong password
on, no verification comes less than fifteen minutes after a wrong one, so in the time `d`
from the first verification on at most `5 + ⌊d / 15 min⌋` wrong passwords are checked. -/
theorem lockout_spaced (env : Env) (w : World) (hs : w.Sound) (u : UserId) (acc : Account)
    (hacc : w.account u = some acc) (hzero : acc.loginLockout.failedLoginAttempts = 0)
    (events : List Event)
    (h : Run.Throughout (World.after env) (fun w e => ¬ e.Unlocks env w u) w events) :
    (∀ before t after, w.verifications env u events = before ++ (t, false) :: after →
      4 ≤ before.countP (fun x => !x.2) → ∀ x ∈ after, t + Time.minutes 15 ≤ x.1) ∧
    ∀ first after, w.verifications env u events = first :: after →
      ∀ d : Time, (w.verifications env u events).countP
        (fun x => !x.2 && decide (x.1 ≤ first.1 + d)) ≤ 5 + d / Time.minutes 15 := by
  have hspaced := spaced_verifications hs hacc h
  rw [hzero] at hspaced
  refine ⟨hspaced, fun first after hfirst d => ?_⟩
  refine hspaced.countP_le (by decide) (fun x hx => ?_) d
  have hsorted : (w.verifications env u events).Pairwise fun x y => x.1 ≤ y.1 :=
    sorted_verifications hs
  rw [hfirst] at hsorted hx
  rcases List.mem_cons.mp hx with rfl | hx
  · exact le_rfl
  · exact (List.pairwise_cons.mp hsorted).1 x hx

/-- A wrong password for the student. -/
def guessAda : Event := .request (.login { username := some "lovelace", password := some "guess" })

/-- Five guesses at once, one that the lock turns away, and one at the moment it runs out. -/
def guessesAda : List Event :=
  [guessAda, guessAda, guessAda, guessAda, guessAda, guessAda,
    .outside (.tick (Time.minutes 15)), guessAda]

/-- The bound is met: six wrong passwords in fifteen minutes. -/
theorem lockout_spaced_concrete :
    World.concrete.verifications .concrete 2 guessesAda =
        [(0, false), (0, false), (0, false), (0, false), (0, false), (Time.minutes 15, false)] ∧
      (World.concrete.verifications .concrete 2 guessesAda).countP
        (fun x => !x.2 && decide (x.1 ≤ 0 + Time.minutes 15)) ≤
          5 + Time.minutes 15 / Time.minutes 15 := by
  have hguesses : World.concrete.verifications .concrete 2 guessesAda =
      [(0, false), (0, false), (0, false), (0, false), (0, false), (Time.minutes 15, false)] := by
    decide +kernel
  have hno : Run.Throughout (World.after .concrete) (fun w e => ¬ e.Unlocks .concrete w 2)
      World.concrete guessesAda := by
    refine ⟨?_, ?_, ?_, ?_, ?_, ?_, ?_, ?_, trivial⟩ <;> first
      | exact id
      | rintro ⟨-, -, response, h⟩
        cases h
  exact ⟨hguesses, (lockout_spaced .concrete World.concrete World.concrete_seeded.sound 2 _ rfl rfl
    guessesAda hno).2 _ _ hguesses (Time.minutes 15)⟩

end SmsLite
