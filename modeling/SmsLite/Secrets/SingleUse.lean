import SmsLite.Secrets.Letters
import SmsLite.Concrete

/-!
# Each secret once

A secret succeeds only as the one last mailed for its purpose, in its time, and not again:
between the mail and the success nothing else of its kind was mailed or redeemed.

## Main definitions

* `Redeemed` — a success and the mail it goes back to.

## Main results

* `World.Seeded.renewed` — columns that are not empty go back to a mail.
* `secrets_redeemedOnce` — **every success goes back to the latest mail, and no secret
  succeeds twice unless it is mailed twice**.
-/

namespace SmsLite

variable {env : Env} {w₀ : World}

/-! ### The mail behind the columns -/

/-- At the start no secret is outstanding. -/
theorem World.Seeded.secret (h₀ : w₀.Seeded) (u : UserId) (kind : SecretKind) :
    w₀.secret u kind = {} := by
  cases hacc : w₀.account u with
  | none => rw [World.secret, hacc, Option.elim_none]
  | some acc =>
    rw [World.secret_of_account hacc]
    cases kind <;> simp [Account.secret, h₀.session hacc, h₀.activation hacc]

/-- **Columns that are not empty go back to a mail**, and nothing has happened to the secret
since. -/
theorem World.Seeded.renewed (h₀ : w₀.Seeded) (env : Env) (events : List Event) {u : UserId}
    {kind : SecretKind} (hne : (w₀.run env events).secret u kind ≠ {}) :
    ∃ before mint after secret address expiresAt, events = before ++ mint :: after ∧
      mint.Renews env (w₀.run env before) u kind secret address expiresAt ∧
      Run.Throughout (World.after env) (fun w e => e.Spares env w u kind)
        (w₀.run env (before ++ [mint])) after ∧
      (w₀.run env events).secret u kind = .issued env kind secret address expiresAt := by
  -- The last event that has written the columns, if there is one.
  have hlast := Run.last_write (I := World.Sound) (fun w => w.secret u kind)
    (fun w e => (w.after env e).secret u kind = {} ∨
      ∃ secret address expiresAt, e.Renews env w u kind secret address expiresAt)
    (fun w e => e.Spares env w u kind) (fun w e hs => hs.after env e)
    (fun w e hs => by
      cases hs.secret_after env e u kind with
      | renews secret address expiresAt h => exact Or.inl (Or.inr ⟨_, _, _, h⟩)
      | spends hempty _ => exact Or.inl (Or.inl hempty)
      | spares h hsame => exact Or.inr ⟨h, hsame⟩) h₀.sound events
  rcases hlast with ⟨-, hread⟩ | ⟨before, mint, after, hevents, hwrites, hspares, hread⟩
  · exact absurd (hread.trans (h₀.secret u kind)) hne
  · rcases hwrites with hempty | ⟨secret, address, expiresAt, hrenews⟩
    · exact absurd (hread.trans hempty) hne
    · refine ⟨before, mint, after, secret, address, expiresAt, hevents, hrenews, ?_,
        hread.trans hrenews.columns⟩
      rw [World.run_concat]
      exact hspares

/-! ### Successes -/

/-- The secret was mailed to the address in one step of the run, nothing has happened to it
since, and its time is not over. -/
def Redeemed (env : Env) (w₀ : World) (events : List Event) (u : UserId) (kind : SecretKind)
    (secret address : String) : Prop :=
  ∃ before mint after expiresAt, events = before ++ mint :: after ∧
    mint.Mails env (w₀.run env before) u kind secret address ∧
    Run.Throughout (World.after env) (fun w e => e.Spares env w u kind)
      (w₀.run env (before ++ [mint])) after ∧
    ((w₀.run env (before ++ [mint])).secret u kind).expiresAt = some expiresAt ∧
    (w₀.run env events).clock ≤ expiresAt

/-- The mail a success goes back to. -/
theorem World.Seeded.renewed_of_redeems (h₀ : w₀.Seeded) (hl : env.Ideal) {events : List Event}
    {u : UserId} {kind : SecretKind} {secret : String} {e : Event}
    (h : e.Redeems env (w₀.run env events) u kind secret) :
    ∃ before mint after address expiresAt, events = before ++ mint :: after ∧
      mint.Renews env (w₀.run env before) u kind secret address expiresAt ∧
      Run.Throughout (World.after env) (fun w e => e.Spares env w u kind)
        (w₀.run env (before ++ [mint])) after ∧
      (w₀.run env events).clock ≤ expiresAt ∧
      (kind = .emailChange →
        ∃ acc, (w₀.run env (events ++ [e])).account u = some acc ∧ acc.user.email = address) := by
  obtain ⟨r, response, acc, acc', rfl, hr, -, hacc, hacc', hstep⟩ :=
    h.step (h₀.sound.run env events)
  obtain ⟨expiresAt, hhash, hexpires, hnow, hnewEmail⟩ := hstep.redeems hr
  rw [← World.secret_of_account hacc] at hhash hexpires hnewEmail
  -- The columns held a hash, so they were not empty and go back to a mail.
  have hne : (w₀.run env events).secret u kind ≠ {} := by
    intro hempty
    rw [hempty] at hhash
    cases hhash
  obtain ⟨before, mint, after, secret', address, expiresAt', hevents, hrenews, hspares, hcolumns⟩ :=
    h₀.renewed env events hne
  rw [hcolumns] at hhash hexpires hnewEmail
  -- Equal hashes are hashes of equal secrets.
  obtain rfl : secret' = secret := hl.sha256 (Option.some.inj hhash)
  obtain rfl : expiresAt' = expiresAt := Option.some.inj hexpires
  refine ⟨before, mint, after, address, expiresAt', hevents, hrenews, hspares, hnow,
    fun hkind => ?_⟩
  rw [World.run_concat]
  refine ⟨acc', hacc', ?_⟩
  have haddress := hnewEmail hkind
  rw [SecretColumns.issued, if_pos hkind] at haddress
  exact (Option.some.inj haddress).symm

/-- A token is drawn once, so it is mailed once. -/
theorem Event.Renews.draw_unique (h₀ : w₀.Sound) (hl : env.Ideal) {before mid : List Event}
    {mint mint' : Event} {u : UserId} {kind : SecretKind} {secret address address' : String}
    {x x' : Time} (hkind : kind ≠ .emailChange)
    (h : mint.Renews env (w₀.run env before) u kind secret address x) :
    ¬ mint'.Renews env (w₀.run env (before ++ mint :: mid)) u kind secret address' x' := by
  intro h'
  have hdraw := hl.tokenUrlsafe ((h.token hkind).1.symm.trans (h'.token hkind).1)
  -- The counter of draws only grows, and the first mail has moved it on.
  have hle := ((h₀.run env before).after env mint).draws_le_run env mid
  rw [World.run_around] at hdraw
  rw [h.drawn] at hle
  omega

/-- **Every success goes back to the latest mail, and no secret succeeds twice.**

* Whenever `activate_account`, `reset_password` or `confirm_email_change` succeeds for a user,
  the secret presented is the one most recently mailed for that purpose to that user, before
  the expiry recorded with it.  Since that mail nothing of the kind has succeeded and, if it
  is the code of an email change, no `update_user_credentials` has.
* `confirm_email_change` leaves the address that its code was mailed to.
* Of two successes with one text, the later one goes back to a mail after the earlier one;
  for the tokens, which are drawn once, there are no two. -/
theorem secrets_redeemedOnce (env : Env) (hl : env.Ideal) (w₀ : World) (h₀ : w₀.Seeded)
    (events : List Event) (e : Event) (u : UserId) (kind : SecretKind) (secret : String)
    (h : e.Redeems env (w₀.run env events) u kind secret) :
    (∃ address, Redeemed env w₀ events u kind secret address ∧
      (kind = .emailChange →
        ∃ acc, (w₀.run env (events ++ [e])).account u = some acc ∧ acc.user.email = address)) ∧
    ∀ earlier e' later, events = earlier ++ e' :: later →
      e'.Redeems env (w₀.run env earlier) u kind secret →
      kind = .emailChange ∧ ∃ mid mint rest address, later = mid ++ mint :: rest ∧
        mint.Mails env (w₀.run env (earlier ++ e' :: mid)) u kind secret address := by
  obtain ⟨before, mint, after, address, expiresAt, hevents, hrenews, hspares, hnow, hemail⟩ :=
    h₀.renewed_of_redeems hl h
  constructor
  · refine ⟨address, ⟨before, mint, after, expiresAt, hevents, hrenews.mails, hspares, ?_, hnow⟩,
      hemail⟩
    rw [World.run_concat, hrenews.columns]
    rfl
  · intro earlier e' later hsplit h'
    -- Where the earlier success lies with respect to the latest mail.
    rcases Run.split_cases (hevents.symm.trans hsplit) with
      ⟨mid, rfl, hafter⟩ | ⟨rfl, rfl, -⟩ | ⟨mid, rfl, hlater⟩
    · -- the earlier success would lie after the latest mail
      have hspare := (Run.throughout_iff _ _).mp hspares mid e' later hafter
      refine absurd h' (?_ : ¬ _)
      rw [World.run_around]
      rw [World.run_concat] at hspare
      exact hspare.redeems secret
    · exact absurd h' (hrenews.redeems secret)
    · refine ⟨?_, mid, mint, after, address, hlater, hrenews.mails⟩
      -- Both successes go back to mails of one token, which was drawn only once.
      by_contra hkind
      obtain ⟨before', mint', after', address', expiresAt', rfl, hrenews', -⟩ :=
        h₀.renewed_of_redeems hl h'
      rw [List.append_assoc, List.cons_append] at hrenews
      exact hrenews'.draw_unique h₀.sound hl hkind hrenews

/-- A student is registered, and activates her account with her invite. -/
theorem secrets_redeemedOnce_concrete :
    let activate := Event.request (.activateAccount
      { username := "hopper", inviteToken := "1;", newPassword := "Pa55word!" })
    activate.Redeems .concrete (World.concrete.run .concrete [registerHopper]) 3 .invite "1;" ∧
      ∃ address, Redeemed .concrete World.concrete [registerHopper] 3 .invite "1;" address := by
  intro activate
  have h : activate.Redeems .concrete (World.concrete.run .concrete [registerHopper]) 3 .invite
      "1;" :=
    ⟨_, .none, _, rfl, rfl, by decide +kernel, rfl, by decide +kernel⟩
  obtain ⟨⟨address, hredeemed, -⟩, -⟩ := secrets_redeemedOnce .concrete Env.concrete_ideal
    World.concrete World.concrete_seeded [registerHopper] activate 3 .invite "1;" h
  exact ⟨h, address, hredeemed⟩

end SmsLite
