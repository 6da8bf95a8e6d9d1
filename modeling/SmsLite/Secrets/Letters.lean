import SmsLite.Refinement.System

/-!
# One-time secrets and the letters they go out in

An invite token, a token that resets a password and the code of an email change are kept as a
hash with an expiry; the text itself exists only in the mail it is sent in.  What was issued,
to whom and to which address, is therefore read off the mails: the rows of the outbox and
the direct mails.

## Main definitions

* `SecretKind`, `Account.secret`, `World.secret` — the kinds, and the columns of each.
* `Letter`, `World.letters`, `Event.letters` — the mails that carry a secret.
* `Event.Mails`, `Event.Redeems`, `Event.Overrides` — an event that mails a secret of a user,
  one that succeeds with it, and a successful `update_user_credentials`.

## Main results

* `Account.Step.secret` — **what each step leaves in the columns of a secret**: the hash of
  the one it mails, nothing, or what was there.
* `World.Sound.secret_after` — the same of every event.
-/

namespace SmsLite

variable {env : Env} {w : World}

/-! ### Secrets and letters -/

/-- The kinds of one-time secrets. -/
inductive SecretKind
  | invite
  | resetPassword
  | emailChange
  deriving DecidableEq, Repr

/-- The columns of a secret: its hash, its expiry and, for the code of an email change, the
address it is to confirm. -/
structure SecretColumns where
  hash : Option String := none
  expiresAt : Option Time := none
  newEmail : Option String := none
  deriving DecidableEq, Repr

/-- The columns of the secret of a kind. -/
def Account.secret (acc : Account) : SecretKind → SecretColumns
  | .invite =>
    { hash := acc.activation.inviteTokenHash, expiresAt := acc.activation.inviteTokenExpiresAt }
  | .resetPassword =>
    { hash := acc.session.resetPasswordTokenHash
      expiresAt := acc.session.resetPasswordTokenExpiresAt }
  | .emailChange =>
    { hash := acc.session.emailChangeCodeHash, expiresAt := acc.session.emailChangeCodeExpiresAt
      newEmail := acc.session.pendingNewEmail.map (·.text) }

/-- The columns of a user, empty if there is no such user. -/
def World.secret (w : World) (u : UserId) (kind : SecretKind) : SecretColumns :=
  (w.account u).elim {} (·.secret kind)

theorem World.secret_of_account {u : UserId} {acc : Account} (h : w.account u = some acc)
    (kind : SecretKind) : w.secret u kind = acc.secret kind := by
  rw [secret, h, Option.elim_some]

/-- A mail that carries a secret. -/
structure Letter where
  kind : SecretKind
  secret : String
  address : String
  deriving DecidableEq, Repr

/-- The secret in the body of an outbox row. -/
def EmailContent.secret? : EmailContent → Option (SecretKind × String)
  | inviteEmail inviteToken _ => some (.invite, inviteToken)
  | resetPasswordEmail resetPasswordToken => some (.resetPassword, resetPasswordToken)
  | adminCredentialsOverrideNotificationEmail _ _ _ _ => none

/-- The secret in the body of a direct mail. -/
def MailContent.secret? : MailContent → Option (SecretKind × String)
  | forgotPassword rawResetToken => some (.resetPassword, rawResetToken)
  | emailChangeVerification code => some (.emailChange, code)
  | _ => none

/-- The letter with a body at an address. -/
def Letter.of? (address : String) (secret : Option (SecretKind × String)) : Option Letter :=
  secret.map fun s => { kind := s.1, secret := s.2, address := address }

/-- The letter of a row. -/
def PendingEmail.letter? (e : PendingEmail) : Option Letter :=
  Letter.of? e.recipient e.content.secret?

/-- The letter of a row that is not in the table yet. -/
def NewPendingEmail.letter? (e : NewPendingEmail) : Option Letter :=
  Letter.of? e.recipient e.content.secret?

/-- The letter of a direct mail. -/
def Mail.letter? (m : Mail) : Option Letter := Letter.of? m.recipient m.content.secret?

/-- Everything mailed so far that carries a secret. -/
def World.letters (w : World) : List Letter :=
  w.db.pendingEmails.filterMap (·.letter?) ++ w.mails.filterMap (·.letter?)

/-- What an event mails. -/
def Event.letters (env : Env) (w : World) (e : Event) : List Letter :=
  ((w.after env e).db.pendingEmails.drop w.db.pendingEmails.length).filterMap (·.letter?) ++
    ((w.after env e).mails.drop w.mails.length).filterMap (·.letter?)

/-- What a request mails when it takes the account from `acc` to `acc'`. -/
def Request.letters (env : Env) (draws : ℕ) (acc acc' : Account) (r : Request) : List Letter :=
  (r.posts env draws acc acc').filterMap (·.letter?) ++
    (r.sends env draws acc acc').filterMap (·.letter?)

/-! ### Events of a secret -/

/-- The secret a request presents. -/
def Request.redeems? : Request → Option (SecretKind × String)
  | activateAccount r => some (.invite, r.inviteToken)
  | resetPassword r => some (.resetPassword, r.resetToken)
  | confirmEmailChange _ r => some (.emailChange, r.code)
  | _ => none

/-- The event mails the secret for the user, who may be new, to the address. -/
def Event.Mails (env : Env) (w : World) (u : UserId) (kind : SecretKind) (secret address : String)
    (e : Event) : Prop :=
  (∃ r, e = .request r ∧ (r.target? env w = some u ∨
    ∃ by_ q user, r = .registerUser by_ q ∧ w.respond env r = .ok (.user user) ∧ user.id = u)) ∧
  { kind, secret, address } ∈ e.letters env w

/-- The event succeeds with the secret of the user. -/
def Event.Redeems (env : Env) (w : World) (u : UserId) (kind : SecretKind) (secret : String)
    (e : Event) : Prop :=
  ∃ r response acc, e = .request r ∧ r.redeems? = some (kind, secret) ∧
    r.target? env w = some u ∧ w.account u = some acc ∧ w.respond env r = .ok response

/-- The event is a successful `update_user_credentials` of the user. -/
def Event.Overrides (env : Env) (w : World) (u : UserId) (e : Event) : Prop :=
  ∃ by_ q response acc, e = .request (.updateUserCredentials by_ u q) ∧ w.account u = some acc ∧
    w.respond env (.updateUserCredentials by_ u q) = .ok response

/-- The event has nothing to do with the secret of the user. -/
structure Event.Spares (env : Env) (w : World) (u : UserId) (kind : SecretKind) (e : Event) :
    Prop where
  mails : ∀ secret address, ¬ e.Mails env w u kind secret address
  redeems : ∀ secret, ¬ e.Redeems env w u kind secret
  overrides : kind = .emailChange → ¬ e.Overrides env w u

/-! ### Rows and letters -/

/-- Rows and what was inserted as them carry the same letters. -/
theorem letters_posted (rows : List PendingEmail) :
    (rows.map (·.posted)).filterMap (·.letter?) = rows.filterMap (·.letter?) := List.filterMap_map

section Leaves

variable {w' : World} {posts : List NewPendingEmail} {sends : List Mail}
  {cache : CacheKey → Option CacheValue}

/-- The letters a request leaves. -/
theorem World.Leaves.letters (h : w.Leaves w' posts sends cache) :
    (w'.db.pendingEmails.drop w.db.pendingEmails.length).filterMap (·.letter?) ++
        (w'.mails.drop w.mails.length).filterMap (·.letter?) =
      posts.filterMap (·.letter?) ++ sends.filterMap (·.letter?) := by
  obtain ⟨rows, hrows, rfl⟩ := h.rows
  rw [hrows, h.mails, List.drop_left, List.drop_left, letters_posted]

/-- What a request has mailed is among everything mailed. -/
theorem World.Leaves.mem_letters (h : w.Leaves w' posts sends cache) {l : Letter} :
    l ∈ w'.letters ↔
      l ∈ w.letters ∨ l ∈ posts.filterMap (·.letter?) ++ sends.filterMap (·.letter?) := by
  obtain ⟨rows, hrows, rfl⟩ := h.rows
  simp only [World.letters, hrows, h.mails, List.filterMap_append, letters_posted, List.mem_append]
  tauto

end Leaves

/-! ### Steps -/

/-- The request spends a secret of the kind if it succeeds. -/
def Request.Spends (kind : SecretKind) : Request → Prop
  | activateAccount _ => kind = .invite
  | resetPassword _ => kind = .resetPassword
  | confirmEmailChange _ _ | updateUserCredentials _ _ _ => kind = .emailChange
  | _ => False

/-- The columns of a secret that goes out to an address. -/
def SecretColumns.issued (env : Env) (kind : SecretKind) (secret address : String)
    (expiresAt : Time) : SecretColumns where
  hash := some (env.sha256 secret)
  expiresAt := some expiresAt
  newEmail := if kind = .emailChange then some address else none

section Step

variable {now : Time} {draws draws' : ℕ} {r : Request} {out : Outcome} {acc acc' : Account}

/-- A step mails no letter of the kind. -/
def Request.Silent (env : Env) (draws : ℕ) (acc acc' : Account) (kind : SecretKind) (r : Request) :
    Prop := ∀ l ∈ r.letters env draws acc acc', l.kind ≠ kind

/-- A step mails one letter, and its hash is what is left in the columns. -/
structure Account.Issues (env : Env) (draws draws' : ℕ) (acc acc' : Account) (kind : SecretKind)
    (secret address : String) (expiresAt : Time) (r : Request) : Prop where
  letters : r.letters env draws acc acc' = [{ kind, secret, address }]
  columns : acc'.secret kind = .issued env kind secret address expiresAt
  drawn : draws' = draws + 1
  token : kind ≠ .emailChange → secret = env.tokenUrlsafe draws ∧ address = acc'.user.email

theorem Request.silent_of_nil {kind : SecretKind} (h : r.letters env draws acc acc' = []) :
    r.Silent env draws acc acc' kind := by
  intro l hl
  rw [h] at hl
  cases hl

theorem Request.silent_of_letter {kind : SecretKind} {letter : Letter}
    (h : r.letters env draws acc acc' = [letter]) (hkind : letter.kind ≠ kind) :
    r.Silent env draws acc acc' kind := by
  intro l hl
  rw [h, List.mem_singleton] at hl
  exact hl ▸ hkind

/-- The letters of `update_user_credentials`. -/
theorem Request.letters_override {currentUserId targetUserId : UserId} {q : UpdateUserCredentials}
    (hkeep : ¬ ((q.newEmail acc.user).isSome ∧ acc.user.status = .pendingActivation)) :
    (updateUserCredentials currentUserId targetUserId q).letters env draws acc acc' = [] := by
  rw [Request.letters, posts_override hkeep]
  rfl

theorem Request.letters_reissue {currentUserId targetUserId : UserId} {q : UpdateUserCredentials}
    (hemail : (q.newEmail acc.user).isSome = true)
    (hpending : acc.user.status = .pendingActivation) :
    (updateUserCredentials currentUserId targetUserId q).letters env draws acc acc' =
      [{ kind := .invite, secret := env.tokenUrlsafe draws, address := acc'.user.email }] := by
  rw [Request.letters, posts_reissue hemail hpending]
  rfl

/-- The letters of `update_me_credentials`. -/
theorem Request.letters_updateMe {currentUserId : UserId} {q : UpdateUserCredentials}
    {newEmail : EmailAddress} (hemail : q.newEmail acc.user = some newEmail) :
    (updateMeCredentials currentUserId q).letters env draws acc acc' =
      [{ kind := .emailChange, secret := emailChangeCode (env.randbelow draws)
         address := newEmail.text }] := by
  change List.filterMap _ ((q.newEmail acc.user).toList.map _) = _
  rw [hemail]
  rfl

theorem Request.letters_renameMe {currentUserId : UserId} {q : UpdateUserCredentials}
    (hemail : q.newEmail acc.user = none) :
    (updateMeCredentials currentUserId q).letters env draws acc acc' = [] := by
  change List.filterMap _ ((q.newEmail acc.user).toList.map _) = _
  rw [hemail]
  rfl

/-- **What each step leaves in the columns of a secret**: the hash of the one it mails,
nothing if it spends one, or what was there. -/
theorem Account.Step.secret (h : acc.Step env now draws r out acc' draws') (kind : SecretKind) :
    (¬ r.Spends kind ∧ ∃ secret address expiresAt,
        acc.Issues env draws draws' acc' kind secret address expiresAt r) ∨
      (r.Silent env draws acc acc' kind ∧ r.Spends kind ∧ (∃ response, out = .ok response) ∧
        acc'.secret kind = {}) ∨
      (r.Silent env draws acc acc' kind ∧ ¬ r.Spends kind ∧
        acc'.secret kind = acc.secret kind) := by
  cases h with
  -- Requests that mail a new token for one purpose and leave the other columns alone.
  | forgotPassword | createResetPasswordRequest =>
    cases kind with
    | resetPassword => exact Or.inl ⟨id, _, _, _, rfl, rfl, rfl, fun _ => ⟨rfl, rfl⟩⟩
    | invite | emailChange =>
      exact Or.inr (Or.inr ⟨Request.silent_of_letter rfl (by simp), id, rfl⟩)
  | resendActivationInvite =>
    cases kind with
    | invite => exact Or.inl ⟨id, _, _, _, rfl, rfl, rfl, fun _ => ⟨rfl, rfl⟩⟩
    | resetPassword | emailChange =>
      exact Or.inr (Or.inr ⟨Request.silent_of_letter rfl (by simp), id, rfl⟩)
  -- An override by an admin cancels a pending change of email; to a pending account it also
  -- sends a new invite.
  | updatePendingCredentials _ _ _ _ _ _ _ hemail hpending =>
    cases kind with
    | invite =>
      exact Or.inl ⟨by simp [Request.Spends], _, _, _, Request.letters_reissue hemail hpending, rfl,
        rfl, fun _ => ⟨rfl, rfl⟩⟩
    | resetPassword =>
      exact Or.inr (Or.inr ⟨Request.silent_of_letter (Request.letters_reissue hemail hpending)
        (by simp), by simp [Request.Spends], rfl⟩)
    | emailChange =>
      exact Or.inr (Or.inl ⟨Request.silent_of_letter (Request.letters_reissue hemail hpending)
        (by simp), rfl, ⟨_, rfl⟩, rfl⟩)
  | updateUserCredentials _ _ _ _ _ _ _ hkeep =>
    cases kind with
    | emailChange =>
      exact Or.inr (Or.inl ⟨Request.silent_of_nil (Request.letters_override hkeep), rfl, ⟨_, rfl⟩,
        rfl⟩)
    | invite | resetPassword =>
      exact Or.inr (Or.inr ⟨Request.silent_of_nil (Request.letters_override hkeep),
        by simp [Request.Spends], rfl⟩)
  | requestEmailChange _ _ newEmail _ hemail
  | renameMeAndRequestEmailChange _ _ _ newEmail _ hemail =>
    cases kind with
    | emailChange =>
      exact Or.inl ⟨id, _, newEmail.text, _, Request.letters_updateMe hemail, rfl, rfl,
        fun h => absurd rfl h⟩
    | invite | resetPassword =>
      exact Or.inr (Or.inr ⟨Request.silent_of_letter (Request.letters_updateMe hemail)
        (by simp), id,
        rfl⟩)
  | renameMe _ _ _ _ hemail =>
    exact Or.inr (Or.inr ⟨Request.silent_of_nil (Request.letters_renameMe hemail), id,
      by cases kind <;> rfl⟩)
  -- Requests that present a secret empty its columns.
  | activateAccount =>
    cases kind with
    | invite => exact Or.inr (Or.inl ⟨Request.silent_of_nil rfl, rfl, ⟨_, rfl⟩, rfl⟩)
    | resetPassword | emailChange =>
      exact Or.inr (Or.inr ⟨Request.silent_of_nil rfl, by simp [Request.Spends], rfl⟩)
  | resetPassword =>
    cases kind with
    | resetPassword => exact Or.inr (Or.inl ⟨Request.silent_of_nil rfl, rfl, ⟨_, rfl⟩, rfl⟩)
    | invite | emailChange =>
      exact Or.inr (Or.inr ⟨Request.silent_of_nil rfl, by simp [Request.Spends], rfl⟩)
  | confirmEmailChange =>
    cases kind with
    | emailChange => exact Or.inr (Or.inl ⟨Request.silent_of_nil rfl, rfl, ⟨_, rfl⟩, rfl⟩)
    | invite | resetPassword =>
      exact Or.inr (Or.inr ⟨Request.silent_of_nil rfl, by simp [Request.Spends], rfl⟩)
  | _ => exact Or.inr (Or.inr ⟨Request.silent_of_nil rfl, id, by cases kind <;> rfl⟩)

/-- The secret a successful request presents is the one in the columns, in time; the code of
an email change sets the email it was kept with. -/
theorem Account.Step.redeems {response : Response} {kind : SecretKind} {secret : String}
    (h : acc.Step env now draws r (.ok response) acc' draws')
    (hr : r.redeems? = some (kind, secret)) :
    ∃ expiresAt, (acc.secret kind).hash = some (env.sha256 secret) ∧
      (acc.secret kind).expiresAt = some expiresAt ∧ now ≤ expiresAt ∧
      (kind = .emailChange → (acc.secret kind).newEmail = some acc'.user.email) := by
  cases h with
  | activateAccount _ request hname haccepts =>
    cases hr
    obtain ⟨expiresAt, hhash, hexpires, hnow⟩ := haccepts
    exact ⟨expiresAt, hhash, hexpires, hnow, by intro h; cases h⟩
  | resetPassword _ request expiresAt hname hhash hexpires hnow =>
    cases hr
    exact ⟨expiresAt, hhash, hexpires, hnow, by intro h; cases h⟩
  | confirmEmailChange _ request newEmail expiresAt hnew hhash hexpires hnow =>
    cases hr
    exact ⟨expiresAt, hhash, hexpires, hnow, fun _ => congrArg (Option.map _) hnew⟩
  | _ => cases hr

theorem Request.spends_of_redeems {kind : SecretKind} {secret : String}
    (hr : r.redeems? = some (kind, secret)) : r.Spends kind := by
  cases r <;> cases hr <;> rfl

theorem Request.not_isRead_of_spends {kind : SecretKind} (hr : r.Spends kind) :
    r.isRead = false := by
  cases r <;> first | rfl | exact hr.elim

end Step

/-! ### Events -/

/-- A successful request that spends a secret takes the account through a step. -/
theorem World.Sound.step_of_spends (hs : w.Sound) {u : UserId} {acc : Account} {r : Request}
    {response : Response} {kind : SecretKind} (hr : r.Spends kind)
    (htarget : r.target? env w = some u) (hacc : w.account u = some acc)
    (hout : w.respond env r = .ok response) :
    ∃ acc', acc.Step env w.clock w.draws r (.ok response) acc' (w.after env (.request r)).draws ∧
      (w.after env (.request r)).account u = some acc' := by
  obtain ⟨acc', hstep, hacc', -⟩ :=
    hs.step_of_ok (Request.not_isRead_of_spends hr) htarget hacc hout
  exact ⟨acc', hstep, hacc'⟩

/-- A redeemed secret, in terms of the account. -/
theorem Event.Redeems.step (hs : w.Sound) {u : UserId} {kind : SecretKind} {secret : String}
    {e : Event} (h : e.Redeems env w u kind secret) :
    ∃ r response acc acc', e = .request r ∧ r.redeems? = some (kind, secret) ∧
      r.target? env w = some u ∧ w.account u = some acc ∧ (w.after env e).account u = some acc' ∧
      acc.Step env w.clock w.draws r (.ok response) acc' (w.after env e).draws := by
  obtain ⟨r, response, acc, rfl, hr, htarget, hacc, hout⟩ := h
  obtain ⟨acc', hstep, hacc'⟩ :=
    hs.step_of_spends (Request.spends_of_redeems hr) htarget hacc hout
  exact ⟨r, response, acc, acc', rfl, hr, htarget, hacc, hacc', hstep⟩

/-- The letters of a request that takes an account through a step. -/
theorem Event.letters_request {r : Request} {posts : List NewPendingEmail} {sends : List Mail}
    {cache : CacheKey → Option CacheValue}
    (h : w.Leaves (w.after env (.request r)) posts sends cache) :
    (Event.request r).letters env w =
      posts.filterMap (·.letter?) ++ sends.filterMap (·.letter?) := h.letters

/-- An event that mails nothing to the user and does not move it. -/
theorem Event.Spares.of_letters {u : UserId} {kind : SecretKind} {r : Request}
    (hletters : ∀ l ∈ (Event.request r).letters env w, l.kind ≠ kind)
    (hspends : ∀ acc response, w.account u = some acc → r.target? env w = some u →
      w.respond env r = .ok response → ¬ r.Spends kind) :
    (Event.request r).Spares env w u kind where
  mails secret address h := hletters _ h.2 rfl
  redeems secret h := by
    obtain ⟨_, response, acc, ⟨⟩, hr, htarget, hacc, hout⟩ := h
    exact hspends acc response hacc htarget hout (Request.spends_of_redeems hr)
  overrides hkind h := by
    obtain ⟨by_, q, response, acc, ⟨⟩, hacc, hout⟩ := h
    exact hspends acc response hacc rfl hout hkind

/-- An event about another account. -/
theorem Event.Spares.of_ne {u : UserId} {kind : SecretKind} {r : Request}
    (htarget : r.target? env w ≠ some u)
    (hnew : ∀ user, w.respond env r = .ok (.user user) → user.id ≠ u) :
    (Event.request r).Spares env w u kind where
  mails secret address h := by
    obtain ⟨⟨_, ⟨⟩, h | ⟨_, _, user, -, hout, hid⟩⟩, -⟩ := h
    · exact htarget h
    · exact hnew user hout hid
  redeems secret h := by
    obtain ⟨_, response, acc, ⟨⟩, -, h, -⟩ := h
    exact htarget h
  overrides _ h := by
    obtain ⟨by_, q, response, acc, ⟨⟩, -⟩ := h
    exact htarget rfl

/-- The event mails a new secret to the user and keeps its hash. -/
structure Event.Renews (env : Env) (w : World) (u : UserId) (kind : SecretKind)
    (secret address : String) (expiresAt : Time) (e : Event) : Prop where
  mails : e.Mails env w u kind secret address
  columns : (w.after env e).secret u kind = .issued env kind secret address expiresAt
  redeems : ∀ secret, ¬ e.Redeems env w u kind secret
  drawn : (w.after env e).draws = w.draws + 1
  token : kind ≠ .emailChange → secret = env.tokenUrlsafe w.draws ∧
    ∃ acc, (w.after env e).account u = some acc ∧ address = acc.user.email

/-- What an event does to a secret of a user. -/
inductive SecretStep (env : Env) (w : World) (u : UserId) (kind : SecretKind) (e : Event) : Prop
  /-- It mails a new one. -/
  | renews (secret address : String) (expiresAt : Time)
      (h : e.Renews env w u kind secret address expiresAt)
  /-- It spends the one there was. -/
  | spends (hempty : (w.after env e).secret u kind = {})
      (hmails : ∀ secret address, ¬ e.Mails env w u kind secret address)
  /-- Nothing. -/
  | spares (h : e.Spares env w u kind) (hsame : (w.after env e).secret u kind = w.secret u kind)

/-- What happens outside has nothing to do with secrets. -/
theorem World.secret_outside (w : World) (o : Outside) (u : UserId) (kind : SecretKind) :
    (outside o w).secret u kind = w.secret u kind := by
  cases hacc : w.account u with
  | none =>
    rw [World.secret, World.secret, World.account_eq_none_of_db (w.outside_db o) hacc, hacc]
  | some acc =>
    rw [World.secret_of_account hacc]
    rcases w.outside_account o hacc with h | h
    · exact World.secret_of_account h kind
    · rw [World.secret_of_account h]
      cases kind <;> rfl

/-- A step of the account of the user. -/
theorem SecretStep.of_step {u : UserId} {kind : SecretKind} {r : Request} {acc acc' : Account}
    (htarget : r.target? env w = some u) (hacc : w.account u = some acc)
    (hacc' : (w.after env (.request r)).account u = some acc')
    (hstep : acc.Step env w.clock w.draws r (w.respond env r) acc'
      (w.after env (.request r)).draws)
    (hleaves : w.Leaves (w.after env (.request r)) (r.posts env w.draws acc acc')
      (r.sends env w.draws acc acc') (w.forgetting (r.forgets u))) :
    SecretStep env w u kind (.request r) := by
  have hletters : (Event.request r).letters env w = r.letters env w.draws acc acc' :=
    Event.letters_request hleaves
  have hcolumns := World.secret_of_account hacc' kind
  rcases hstep.secret kind with ⟨hspends, secret, address, expiresAt, hissues⟩ |
    ⟨hsilent, -, -, hempty⟩ | ⟨hsilent, hspends, hsame⟩
  · refine .renews secret address expiresAt ⟨⟨⟨r, rfl, Or.inl htarget⟩, ?_⟩,
      hcolumns.trans hissues.columns, ?_, hissues.drawn, fun hkind => ?_⟩
    · rw [hletters, hissues.letters]
      exact List.mem_singleton_self _
    · rintro s ⟨_, response, _, ⟨⟩, hr, -⟩
      exact hspends (Request.spends_of_redeems hr)
    · exact ⟨(hissues.token hkind).1, acc', hacc', (hissues.token hkind).2⟩
  · exact .spends (hcolumns.trans hempty) fun secret address h => hsilent _ (hletters ▸ h.2) rfl
  · refine .spares (.of_letters (hletters ▸ hsilent) fun _ _ _ _ _ => hspends) ?_
    rw [hcolumns, hsame, World.secret_of_account hacc]

/-- A new account starts with an invite and with no other secret. -/
theorem SecretStep.of_registered {r : Request} {by_ : UserId} {q : CreateUserRequest} {user : User}
    {kind : SecretKind} (hr : r = .registerUser by_ q)
    (hout : (w.respond env r) = .ok (.user user)) (hnone : w.account user.id = none)
    (haccount : (w.after env (.request r)).account user.id =
      some (Account.registered env w.clock w.draws user))
    (hdraws : (w.after env (.request r)).draws = w.draws + 1)
    (hletters : (Event.request r).letters env w =
      [{ kind := .invite, secret := env.tokenUrlsafe w.draws, address := user.email }]) :
    SecretStep env w user.id kind (.request r) := by
  have hcolumns := World.secret_of_account haccount kind
  cases kind with
  | invite =>
    refine .renews _ user.email _ ⟨⟨⟨r, rfl, Or.inr ⟨by_, q, user, hr, hout, rfl⟩⟩, ?_⟩,
      hcolumns, ?_, hdraws, fun _ => ⟨rfl, _, haccount, rfl⟩⟩
    · rw [hletters]
      exact List.mem_singleton_self _
    · rintro s ⟨_, response, _, ⟨⟩, hredeems, -⟩
      subst hr
      cases hredeems
  | resetPassword | emailChange =>
    refine .spares (.of_letters ?_ ?_) ?_
    · rw [hletters]
      simp
    · rintro acc _ hacc
      rw [hnone] at hacc
      cases hacc
    · rw [hcolumns, World.secret, hnone]
      rfl

/-- **What an event does to a secret of a user.** -/
theorem World.Sound.secret_after (hs : w.Sound) (env : Env) (e : Event) (u : UserId)
    (kind : SecretKind) : SecretStep env w u kind e := by
  cases e with
  | outside o =>
    -- What happens outside the service is no request, so it neither mails nor presents.
    refine .spares ⟨?_, ?_, ?_⟩ (w.secret_outside o u kind)
    · rintro _ _ ⟨⟨_, ⟨⟩, -⟩, -⟩
    · rintro _ ⟨_, _, _, ⟨⟩, -⟩
    · rintro _ ⟨_, _, _, _, ⟨⟩, -⟩
  | request r =>
    cases (hs.serves env r).served with
    | quiet haccounts hcoherent hdraws hquiet hleaves =>
      refine .spares (.of_letters ?_ fun acc response hacc htarget hout hspends => ?_) ?_
      · intro l hl
        rw [Event.letters_request hleaves] at hl
        cases hl
      · -- a read spends nothing, and an account that is missing is not this one
        rw [hout] at hquiet
        cases hquiet with
        | read _ hread => simp [Request.not_isRead_of_spends hspends] at hread
        | absent _ _ hnone => simp [hnone u htarget] at hacc
      · rw [World.secret, World.secret, haccounts u]
    | moved id acc acc' htarget hacc hstep hmoved hleaves =>
      by_cases hu : u = id
      · subst hu
        exact .of_step htarget hacc hmoved.account hstep hleaves
      -- The account of somebody else.
      · refine .spares (.of_ne ?_ ?_) ?_
        · rw [htarget]
          exact fun h => hu (Option.some.inj h).symm
        · rintro user hout
          rw [hout] at hstep
          generalize (w.after env (.request r)).draws = draws' at hstep
          cases hstep
        · rw [World.secret, World.secret, hmoved.others u hu]
    | registered by_ q user hr hout huser hnone hmoved hdraws hleaves =>
      have hletters : (Event.request r).letters env w =
          [{ kind := .invite, secret := env.tokenUrlsafe w.draws, address := user.email }] :=
        Event.letters_request hleaves
      by_cases hu : u = user.id
      · subst hu
        exact .of_registered hr hout hnone hmoved.account hdraws hletters
      · refine .spares (.of_ne ?_ ?_) ?_
        · subst hr
          intro h
          cases h
        · rintro user' hout'
          rw [hout] at hout'
          cases hout'
          exact Ne.symm hu
        · rw [World.secret, World.secret, hmoved.others u hu]

end SmsLite
