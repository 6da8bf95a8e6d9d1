import SmsLite.Rows.RoleShape

/-!
# Notices of a changed email

Who takes over an account changes its email; the warning has to reach the address the account had
before.  `update_user_credentials` posts it there through the outbox, `confirm_email_change` hands
it to a background task after the row was refreshed.

## Main definitions

* `EmailContent.announces` — a mail of the outbox that reports a change of the email.
* `World.Notifies` — a request has addressed a notice of the change to an address.

## Main results

* `updateUserCredentials_notifies`, `confirmEmailChange_notifies` — **the old address is told of
  an override, the new one of a confirmed change**.
* `emailChange_notified_iff` — **the old address is told exactly if the change is an override**.
-/

namespace SmsLite

variable {env : Env} {w : World}

/-- The mail reports the change of the email from `oldEmail` to `newEmail`. -/
def EmailContent.announces (oldEmail newEmail : String) : EmailContent → Prop
  | adminCredentialsOverrideNotificationEmail _ _ old new =>
    old = some oldEmail ∧ new = some newEmail
  | _ => False

/-- What happened between the states addressed a notice of the change to the address: a row of
the outbox, or a mail of its own. -/
def World.Notifies (w w' : World) (address oldEmail newEmail : String) : Prop :=
  (∃ rows, w'.db.pendingEmails = w.db.pendingEmails ++ rows ∧
    ∃ r ∈ rows, r.recipient = address ∧ r.content.announces oldEmail newEmail) ∨
  ∃ mails, w'.mails = w.mails ++ mails ∧
    ∃ m ∈ mails, m.recipient = address ∧ m.content = .emailChangedNotification oldEmail newEmail

/-- The posts and the mails of a request are all it addresses. -/
theorem World.Leaves.notifies_iff {w' : World} {posts : List NewPendingEmail} {sends : List Mail}
    {cache : CacheKey → Option CacheValue} (h : w.Leaves w' posts sends cache)
    {address oldEmail newEmail : String} :
    w.Notifies w' address oldEmail newEmail ↔
      (∃ e ∈ posts, e.recipient = address ∧ e.content.announces oldEmail newEmail) ∨
      ∃ m ∈ sends, m.recipient = address ∧
        m.content = .emailChangedNotification oldEmail newEmail := by
  obtain ⟨rows, hrows, hposted⟩ := h.rows
  unfold World.Notifies
  constructor
  · rintro (⟨rows', hrows', r, hr, htold⟩ | ⟨mails, hmails, m, hm, htold⟩)
    · obtain rfl : rows = rows' := List.append_cancel_left (hrows.symm.trans hrows')
      left
      refine ⟨r.posted, ?_, htold⟩
      rw [← hposted]
      exact List.mem_map_of_mem hr
    · obtain rfl : sends = mails := List.append_cancel_left (h.mails.symm.trans hmails)
      exact Or.inr ⟨m, hm, htold⟩
  · rintro (⟨e, he, htold⟩ | ⟨m, hm, htold⟩)
    · rw [← hposted] at he
      obtain ⟨r, hr, rfl⟩ := List.mem_map.mp he
      exact Or.inl ⟨rows, hrows, r, hr, htold⟩
    · exact Or.inr ⟨sends, h.mails, m, hm, htold⟩

/-- **An override is announced at the old address.** -/
theorem updateUserCredentials_notifies {w' : World} {acc acc' : Account} {u currentUserId : UserId}
    {q : UpdateUserCredentials} {sends : List Mail} {cache : CacheKey → Option CacheValue}
    (h : w.Leaves w' ((Request.updateUserCredentials currentUserId u q).posts env w.draws acc acc')
      sends cache)
    (hstatus : acc.user.status ≠ .pendingActivation) (hchanged : acc'.user.email ≠ acc.user.email) :
    w.Notifies w' acc.user.email acc.user.email acc'.user.email := by
  rw [Request.posts_override fun hkeep => hstatus hkeep.2] at h
  rw [h.notifies_iff]
  left
  refine ⟨_, List.mem_singleton_self _, rfl, ?_⟩
  have hne : some acc.user.email ≠ acc'.user.draft.email := by
    intro heq
    exact hchanged (Option.some.inj heq).symm
  exact ⟨if_pos hne, if_pos hne⟩

/-- **A confirmed change is announced at the new address**, and nowhere else. -/
theorem confirmEmailChange_notifies {w' : World} {acc acc' : Account} {u : UserId}
    {q : ConfirmEmailChange} {cache : CacheKey → Option CacheValue}
    (h : w.Leaves w' ((Request.confirmEmailChange u q).posts env w.draws acc acc')
      ((Request.confirmEmailChange u q).sends env w.draws acc acc') cache) (address : String) :
    w.Notifies w' address acc.user.email acc'.user.email ↔ address = acc'.user.email := by
  rw [h.notifies_iff]
  constructor
  · rintro (⟨e, he, -⟩ | ⟨m, hm, hrecipient, -⟩)
    · exact absurd he List.not_mem_nil
    · rw [List.mem_singleton.mp hm] at hrecipient
      exact hrecipient.symm
  · rintro rfl
    exact Or.inr ⟨_, List.mem_singleton_self _, rfl, rfl⟩

/-- **The old address is told exactly if the change is an override.**  In every reachable state,
whatever request changes the email of an account that does not wait for its activation. -/
theorem emailChange_notified_iff (env : Env) (w₀ : World) (h₀ : w₀.Seeded) (events : List Event)
    (r : Request) (u u' : User) (hu : u ∈ (w₀.run env events).db.users)
    (hu' : u' ∈ ((w₀.run env events).after env (.request r)).db.users) (hid : u'.id = u.id)
    (hstatus : u.status ≠ .pendingActivation) (hchanged : u'.email ≠ u.email) :
    (w₀.run env events).Notifies ((w₀.run env events).after env (.request r)) u.email u.email
        u'.email ↔
      ∃ currentUserId q, r = .updateUserCredentials currentUserId u.id q := by
  have hs : (w₀.run env events).Sound := h₀.sound.run env events
  obtain ⟨acc, hacc, rfl⟩ := hs.account_of_user hu
  obtain ⟨acc', hacc', rfl⟩ := (hs.after env (.request r)).account_of_user hu'
  rw [hid] at hacc'
  cases (hs.serves env r).served with
  | quiet haccounts =>
    have hsame := (haccounts acc.user.id).trans hacc
    obtain rfl : acc = acc' := Option.some.inj (hsame.symm.trans hacc')
    exact absurd rfl hchanged
  | moved id acc₀ acc₁ htarget hacc₀ hstep hmoved hleaves =>
    by_cases hother : acc.user.id = id
    · subst hother
      obtain rfl : acc₀ = acc := Option.some.inj (hacc₀.symm.trans hacc)
      obtain rfl : acc₁ = acc' := Option.some.inj (hmoved.account.symm.trans hacc')
      rcases hstep.email with hkept | ⟨currentUserId, q, rfl, -⟩ | ⟨q, newEmail, rfl, -⟩
      · exact absurd hkept hchanged
      · exact iff_of_true (updateUserCredentials_notifies hleaves hstatus hchanged) ⟨_, q, rfl⟩
      · rw [confirmEmailChange_notifies hleaves]
        refine iff_of_false (fun heq => hchanged heq.symm) ?_
        rintro ⟨currentUserId, q', hr⟩
        cases hr
    · have hsame := (hmoved.others acc.user.id hother).trans hacc
      obtain rfl : acc = acc' := Option.some.inj (hsame.symm.trans hacc')
      exact absurd rfl hchanged
  | registered currentUserId q user _ _ _ hnone hmoved =>
    have hother : acc.user.id ≠ user.id := by
      intro heq
      rw [← heq, hacc] at hnone
      cases hnone
    have hsame := (hmoved.others acc.user.id hother).trans hacc
    obtain rfl : acc = acc' := Option.some.inj (hsame.symm.trans hacc')
    exact absurd rfl hchanged

/-- An administrator gives Ada another username and another email. -/
def overrideAda : Request :=
  .updateUserCredentials 1 2
    { username := .set "augusta", email := .set ⟨"lovelace@school.org", emailPattern_lovelace⟩ }

/-- Her old address is told. -/
theorem emailChange_notified_concrete :
    World.concrete.Notifies (World.concrete.after .concrete (.request overrideAda))
      "ada@school.org" "ada@school.org" "lovelace@school.org" := by
  have hafter : { seededAda with username := "augusta", email := "lovelace@school.org" } ∈
        (World.concrete.after .concrete (.request overrideAda)).db.users := by decide +kernel
  exact (emailChange_notified_iff .concrete World.concrete World.concrete_seeded [] overrideAda
    seededAda _ (.tail _ (.head _)) hafter rfl (by decide) (by decide)).mpr ⟨1, _, rfl⟩

/-- Ada asks for another email herself. -/
def requestEmailAda : Event :=
  .request (.updateMeCredentials 2
    { username := .unset, email := .set ⟨"lovelace@school.org", emailPattern_lovelace⟩ })

/-- She sends the code back. -/
def confirmEmailAda : Request :=
  .confirmEmailChange 2 { code := emailChangeCode (Env.concrete.randbelow 1) }

/-- **Her old address is not told of the change that she confirms.** -/
theorem emailChange_unnoticed :
    ¬ ∀ u ∈ (World.concrete.run .concrete [requestEmailAda]).db.users,
      ∀ u' ∈ (World.concrete.run .concrete [requestEmailAda, .request confirmEmailAda]).db.users,
        u'.id = u.id → u.status ≠ .pendingActivation → u'.email ≠ u.email →
        (World.concrete.run .concrete [requestEmailAda]).Notifies
          (World.concrete.run .concrete [requestEmailAda, .request confirmEmailAda])
          u.email u.email u'.email := by
  intro h
  have hbefore : seededAda ∈
      (World.concrete.run .concrete [requestEmailAda]).db.users := by decide +kernel
  have hafter : { seededAda with email := "lovelace@school.org" } ∈
      (World.concrete.run .concrete [requestEmailAda, .request confirmEmailAda]).db.users := by
    decide +kernel
  have hposts : (World.concrete.run .concrete
      [requestEmailAda, .request confirmEmailAda]).db.pendingEmails = [] := by decide +kernel
  have hmails : (World.concrete.run .concrete
      [requestEmailAda, .request confirmEmailAda]).mails.all
        (fun m => m.recipient ≠ "ada@school.org") = true := by decide +kernel
  rcases h _ hbefore _ hafter rfl (by decide) (by decide) with
    ⟨rows, hrows, r, hr, -⟩ | ⟨mails, hsent, m, hm, hrecipient, -⟩
  · rw [hposts] at hrows
    have hnil := (List.append_eq_nil_iff.mp hrows.symm).2
    rw [hnil] at hr
    exact absurd hr List.not_mem_nil
  · have hmem : m ∈ (World.concrete.run .concrete
        [requestEmailAda, .request confirmEmailAda]).mails := by
      rw [hsent]
      exact List.mem_append_right _ hm
    have hother := List.all_eq_true.mp hmails m hmem
    exact absurd hrecipient (of_decide_eq_true hother)

end SmsLite
