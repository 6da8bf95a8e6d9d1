import SmsLite.Concurrency.Usernames
import SmsLite.Concrete
import SmsLite.Schemas.Passwords

/-!
# The invite behind the hash

The raw text of an invite exists only in its row of the outbox, and `activate_account` knows
only the hash.  Three requests write both; this module proves that the newest row of a user
and the stored hash never come apart, so that the latest link works in its time.  Whether the
account is activated then depends on the new password alone: the schema takes passwords that
passlib does not.

## Main definitions

* `Db.newestInvite` — the newest `INVITE` row of a user.
* `World.InvitesPosted` — the newest row of each user holds the text behind the stored hash.

## Main results

* `Account.Step.invite` — what each step leaves in the invitation and posts.
* `World.InvitesPosted.after` — every event keeps row and hash together.
* `newestInvite_activates` — **in every reachable state the newest link activates the
  account with exactly the passwords that passlib takes**.
-/

namespace SmsLite

open Interleave
open Interleave.Prog (Ends ends_map)

variable {env : Env} {w : World}

/-! ### The newest row -/

/-- The row invites the user. -/
def PendingEmail.invites (u : UserId) (e : PendingEmail) : Bool :=
  decide (e.emailType = .invite) && decide (e.recipientUserId = some u)

/-- The newest `INVITE` row of a user. -/
def Db.newestInvite (db : Db) (u : UserId) : Option PendingEmail :=
  (db.pendingEmails.filter (·.invites u)).getLast?

section Leaves

variable {w' : World} {posts : List NewPendingEmail} {sends : List Mail}
  {cache : CacheKey → Option CacheValue}

/-- Other rows leave the newest invite alone. -/
theorem World.Leaves.newestInvite (h : w.Leaves w' posts sends cache) {u : UserId}
    (hposts : ∀ e ∈ posts, e.emailType = .invite → e.recipientUserId ≠ some u) :
    w'.db.newestInvite u = w.db.newestInvite u := by
  obtain ⟨rows, hrows, rfl⟩ := h.rows
  have hnone : rows.filter (·.invites u) = [] := by
    refine List.filter_eq_nil_iff.mpr fun e he hinvites => ?_
    obtain ⟨htype, hrecipient⟩ := Bool.and_eq_true_iff.mp hinvites
    exact hposts e.posted (List.mem_map_of_mem he) (of_decide_eq_true htype)
      (of_decide_eq_true hrecipient)
  rw [Db.newestInvite, hrows, List.filter_append, hnone, List.append_nil]
  rfl

/-- A new invite is the newest. -/
theorem World.Leaves.newestInvite_self {rawInviteToken username recipient : String}
    {currentUserId u : UserId}
    (h : w.Leaves w' [inviteMail rawInviteToken username recipient currentUserId u] sends cache) :
    ∃ row, w'.db.newestInvite u = some row ∧
      row.content = .inviteEmail rawInviteToken username := by
  obtain ⟨rows, hrows, hposted⟩ := h.rows
  obtain ⟨row, rfl, hrow⟩ := List.map_eq_singleton_iff.mp hposted
  have hinvites : row.invites u = true := by
    have htype : row.emailType = .invite := congrArg NewPendingEmail.emailType hrow
    have hrecipient : row.recipientUserId = some u := congrArg NewPendingEmail.recipientUserId hrow
    simp [PendingEmail.invites, htype, hrecipient]
  refine ⟨row, ?_, congrArg NewPendingEmail.content hrow⟩
  rw [Db.newestInvite, hrows, List.filter_append, List.filter_singleton, hinvites]
  exact List.getLast?_concat

end Leaves

/-! ### Steps -/

section Step

variable {now : Time} {draws draws' : ℕ} {r : Request} {out : Outcome} {acc acc' : Account}

/-- Every row that a request posts is the user's. -/
theorem Request.posts_recipient (env : Env) (draws : ℕ) (acc acc' : Account) (r : Request) :
    ∀ e ∈ r.posts env draws acc acc', e.recipientUserId = some acc.user.id := by
  intro e he
  cases r with
  | updateUserCredentials =>
    simp only [Request.posts] at he
    split at he <;> rw [List.mem_singleton.mp he] <;> rfl
  | createResetPasswordRequest | resendActivationInvite =>
    rw [List.mem_singleton.mp he]
    rfl
  | _ => cases he

/-- **What each step leaves in the invitation and posts**: a new invite and its row, or no
row and the invite there was, or none. -/
theorem Account.Step.invite (h : acc.Step env now draws r out acc' draws') :
    (acc'.activation = (acc.invited env now draws).activation ∧
      ∃ username recipient currentUserId, r.posts env draws acc acc' =
        [inviteMail (env.tokenUrlsafe draws) username recipient currentUserId acc.user.id]) ∨
      (∀ e ∈ r.posts env draws acc acc', e.emailType ≠ .invite) ∧
        (acc'.activation = acc.activation ∨ acc'.activation.inviteTokenHash = none) := by
  cases h with
  | updatePendingCredentials _ _ _ _ _ _ _ hemail hpending =>
    exact Or.inl ⟨rfl, _, _, _, Request.posts_reissue hemail hpending⟩
  | resendActivationInvite => exact Or.inl ⟨rfl, _, _, _, rfl⟩
  | updateUserCredentials _ _ _ _ _ _ _ hkeep =>
    refine Or.inr ⟨fun e he => ?_, Or.inl rfl⟩
    rw [Request.posts_override hkeep] at he
    rw [List.mem_singleton.mp he]
    simp [credentialsOverrideMail]
  | createResetPasswordRequest =>
    refine Or.inr ⟨fun e he => ?_, Or.inl rfl⟩
    rw [List.mem_singleton.mp he]
    simp [resetPasswordMail]
  | activateAccount => exact Or.inr ⟨fun e he => absurd he List.not_mem_nil, Or.inr rfl⟩
  | _ => exact Or.inr ⟨fun e he => absurd he List.not_mem_nil, Or.inl rfl⟩

end Step

/-! ### Row and hash -/

/-- The newest row of each user holds the text behind the stored hash. -/
def World.InvitesPosted (env : Env) (w : World) : Prop :=
  ∀ u acc hash, w.account u = some acc → acc.activation.inviteTokenHash = some hash →
    ∃ row rawInviteToken username, w.db.newestInvite u = some row ∧
      row.content = .inviteEmail rawInviteToken username ∧ env.sha256 rawInviteToken = hash

/-- The invite is the newest, and its hash is stored. -/
theorem World.Leaves.invitePosted {w' : World} {sends : List Mail}
    {cache : CacheKey → Option CacheValue} {draw : ℕ} {username recipient : String}
    {currentUserId u : UserId} {hash : String}
    (h : w.Leaves w' [inviteMail (env.tokenUrlsafe draw) username recipient currentUserId u] sends
      cache) (hhash : some (env.sha256 (env.tokenUrlsafe draw)) = some hash) :
    ∃ row rawInviteToken username, w'.db.newestInvite u = some row ∧
      row.content = .inviteEmail rawInviteToken username ∧ env.sha256 rawInviteToken = hash := by
  obtain ⟨row, hnewest, hcontent⟩ := h.newestInvite_self
  exact ⟨row, _, username, hnewest, hcontent, Option.some.inj hhash⟩

/-- **Every event keeps row and hash together.** -/
theorem World.InvitesPosted.after (hs : w.Sound) (h : w.InvitesPosted env) (e : Event) :
    (w.after env e).InvitesPosted env := by
  intro u acc' hash hacc' hhash
  cases e with
  | outside o =>
    obtain ⟨acc, hacc, hcases⟩ := hs.toCoherent.account_of_outside hacc'
    have hactivation : acc'.activation = acc.activation := by
      rcases hcases with rfl | rfl
      · rfl
      · rfl
    change ∃ row rawInviteToken username, (SmsLite.outside o w).db.newestInvite u = some row ∧ _
    rw [w.outside_db o]
    exact h u acc hash hacc (hactivation ▸ hhash)
  | request r =>
    cases (hs.serves env r).served with
    | quiet haccounts _ _ _ hleaves =>
      rw [hleaves.newestInvite (by intro e h; cases h)]
      exact h u acc' hash ((haccounts u).symm.trans hacc') hhash
    | moved id acc acc₁ htarget hacc hstep hmoved hleaves =>
      obtain rfl := World.account_id hacc
      by_cases hu : u = acc.user.id
      · subst hu
        obtain rfl : acc₁ = acc' := Option.some.inj (hmoved.account.symm.trans hacc')
        -- A step mails a new invite, or its rows are none and the hash stays or goes.
        rcases hstep.invite with ⟨hnew, username, recipient, currentUserId, hposts⟩ |
          ⟨hposts, hsame | hnone⟩
        · rw [hposts] at hleaves
          exact hleaves.invitePosted ((congrArg (·.inviteTokenHash) hnew).symm.trans hhash)
        · rw [hleaves.newestInvite fun e he htype => absurd htype (hposts e he)]
          exact h _ acc hash hacc (hsame ▸ hhash)
        · rw [hnone] at hhash
          cases hhash
      -- The rows of a step are for the account it is about.
      · rw [hleaves.newestInvite fun e he _ => ?_]
        · exact h u acc' hash ((hmoved.others u hu).symm.trans hacc') hhash
        · rw [Request.posts_recipient env w.draws acc acc₁ r e he]
          exact fun h => hu (Option.some.inj h).symm
    | registered by_ q user hr hout huser hnone hmoved hdraws hleaves =>
      by_cases hu : u = user.id
      · subst hu
        obtain rfl := Option.some.inj (hmoved.account.symm.trans hacc')
        exact hleaves.invitePosted hhash
      · rw [hleaves.newestInvite fun e he _ => ?_]
        · exact h u acc' hash ((hmoved.others u hu).symm.trans hacc') hhash
        · rw [List.mem_singleton.mp he]
          exact fun h => hu (Option.some.inj h).symm

/-- At the start no invite is outstanding. -/
theorem World.Seeded.invitesPosted (h₀ : w.Seeded) (env : Env) : w.InvitesPosted env := by
  intro u acc hash hacc hhash
  rw [h₀.activation hacc] at hhash
  cases hhash

/-! ### The latest link -/

/-- An accepted invite activates the account if passlib takes the password. -/
theorem Account.AcceptsInvite.respond (hs : w.Sound) {u : UserId} {acc : Account}
    (hacc : w.account u = some acc) {request : ActivateAccountWithToken}
    (hname : w.db.userNamed request.username = some u)
    (h : acc.AcceptsInvite env w.clock request.inviteToken) :
    w.respond env (.activateAccount request) = .ok .none ↔ Secret.Valid request.newPassword := by
  obtain rfl := World.account_id hacc
  change Ends (exec env) ((fun _ => Response.none) <$> activateAccount env request)
    (fun out _ => out = .ok .none ↔ Secret.Valid request.newPassword) w
  rw [ends_map]
  refine activateAccount_accepts hs request hacc hname h (fun hash hhash _ _ _ _ _ => ?_)
    fun e he => ?_
  · exact iff_of_true rfl (Env.valid_of_hashPassword hhash)
  -- What passlib raises ends the request.
  · exact iff_of_false (by rintro ⟨⟩) (Env.not_valid_of_hashPassword he)

/-- **In every reachable state the newest link activates the account with exactly the passwords
that passlib takes**: for every user with a stored invite hash, the newest `INVITE` row of the
user holds a raw token with that hash, and until the stored expiry `activate_account` with this
token and the user's current username succeeds if and only if the new password is one of them. -/
theorem newestInvite_activates (env : Env) (w₀ : World) (h₀ : w₀.Seeded)
    (hnames : w₀.db.UniqueUsernames) (events : List Event) (u : UserId) (acc : Account)
    (hacc : (w₀.run env events).account u = some acc) (hash : String)
    (hhash : acc.activation.inviteTokenHash = some hash) :
    ∃ row rawInviteToken username expiresAt,
      (w₀.run env events).db.newestInvite u = some row ∧
      row.content = .inviteEmail rawInviteToken username ∧ env.sha256 rawInviteToken = hash ∧
      acc.activation.inviteTokenExpiresAt = some expiresAt ∧
      ((w₀.run env events).clock ≤ expiresAt → ∀ newPassword,
        (w₀.run env events).respond env (.activateAccount
          { username := acc.user.username, inviteToken := rawInviteToken, newPassword }) =
            .ok .none ↔ Secret.Valid newPassword) := by
  have hs := h₀.sound.run env events
  have hposted : (w₀.run env events).InvitesPosted env :=
    (Run.invariant' (I := fun w : World => w.Sound ∧ w.InvitesPosted env)
      (fun w e h => ⟨h.1.after env e, h.2.after h.1 e⟩) ⟨h₀.sound, h₀.invitesPosted env⟩ events).2
  obtain ⟨row, rawInviteToken, username, hnewest, hcontent, rfl⟩ := hposted u acc hash hacc hhash
  -- The hash and its expiry are set and cleared together.
  obtain ⟨expiresAt, hexpires⟩ : ∃ x, acc.activation.inviteTokenExpiresAt = some x := by
    rw [← Option.ne_none_iff_exists']
    intro hnone
    rw [(hs.accounts u acc hacc).inviteGroup.mpr hnone] at hhash
    cases hhash
  refine ⟨row, rawInviteToken, username, expiresAt, hnewest, hcontent, rfl, hexpires,
    fun hnow newPassword => ?_⟩
  have hname := World.userNamed_of_account (h₀.sound.usernames_run hnames env events) hacc
  exact Account.AcceptsInvite.respond hs hacc hname ⟨expiresAt, hhash, hexpires, hnow⟩

/-- A student is registered: her link works. -/
theorem newestInvite_activates_concrete :
    (World.concrete.run .concrete [registerHopper]).respond .concrete (.activateAccount
      { username := "hopper", inviteToken := "1;", newPassword := "Pa55word!" }) = .ok .none := by
  obtain ⟨row, rawInviteToken, username, expiresAt, -, -, hhash, hexpires, hok⟩ :=
    newestInvite_activates .concrete World.concrete World.concrete_seeded (by decide +kernel)
      [registerHopper] 3 _ rfl "1;" (by decide +kernel)
  obtain rfl : rawInviteToken = "1;" :=
    digestText_injective (hhash.trans (show "1;" = digestText "1;" by decide +kernel))
  cases hexpires
  exact (hok (by decide +kernel) "Pa55word!").mpr (by decide +kernel)

/-- The same password with a NUL at its end. -/
def nulPassword : String := String.ofList ("Pa55word!".toList ++ [nul])

/-- **A password that the schema takes and passlib does not**: her link is the newest, and in its
time, but it does not activate the account. -/
theorem newestInvite_nulPassword :
    ActivateAccountWithToken.validate .ascii ⟨"hopper", "1;", nulPassword⟩ =
        .ok ⟨"hopper", "1;", nulPassword⟩ ∧
      ((World.concrete.run .concrete [registerHopper]).db.newestInvite 3).map (·.content) =
        some (.inviteEmail "1;" "hopper") ∧
      ((World.concrete.run .concrete [registerHopper]).account 3).map
          (fun acc => (acc.user.username, acc.activation.inviteTokenHash)) =
        some ("hopper", some (Env.concrete.sha256 "1;")) ∧
      (World.concrete.run .concrete [registerHopper]).respond .concrete (.activateAccount
        ⟨"hopper", "1;", nulPassword⟩) =
          .error (.valueError "bcrypt does not allow NULL bytes in password") := by
  refine ⟨?_, ?_, ?_, ?_⟩
  · decide +kernel
  · decide +kernel
  · decide +kernel
  · decide +kernel

end SmsLite
