import SmsLite.Concurrency.Pools
import SmsLite.Concrete
import SmsLite.Sequential
import Mathlib.Data.Fintype.Basic

/-!
# Races for a session

`refresh_token` and `login` read a session, decide, and write it back some statements
later, without a lock on the row.  Two of them can therefore decide on the same row, and
a revocation can fall between the read and the write of one.  This module says when that
does no harm.

## Main definitions

* `World.HoldsPair`, `World.Spent` — what a session row says of a refresh token.
* `ReadsAlone` — no request reads a pair that another one is about to use up.
* `RevokesLast` — a request that opens a session does not commit after the revocation, and
  the revocation that commits after it had read a session to clear.

## Main results

* `Db.commit_hash` — where the digest in a row comes from.
* `refreshToken_once` — **under `ReadsAlone` a pair is exchanged at most once**, and
  `refreshToken_twice`: without it, twice.
* `session_revoked_serveAll` — **under `RevokesLast` a session opened before a revocation
  does not outlive it**, and `session_outlives_logout`: without it, it does.
-/

namespace SmsLite

open Interleave
open Interleave.Prog (Ends ends_bind)
open Tx (MayWriteSession)

variable {ι : Type} {env : Env} {w : World}

/-! ### What a row says of a refresh token -/

/-- The row of the user holds the pair. -/
def World.HoldsPair (env : Env) (w : World) (u : UserId) (token family : String) : Prop :=
  ∃ s ∈ Keyed.get? w.db.sessions u, s.refreshTokenHash = some (env.sha256 token) ∧
    s.refreshTokenFamily = some family

instance (env : Env) (w : World) (u : UserId) (token family : String) :
    Decidable (w.HoldsPair env u token family) :=
  inferInstanceAs (Decidable (∃ s ∈ Keyed.get? w.db.sessions u, _))

/-- The row of the user does not hold the token. -/
def World.Spent (env : Env) (w : World) (u : UserId) (token : String) : Prop :=
  ∀ s, Keyed.get? w.db.sessions u = some s → s.refreshTokenHash ≠ some (env.sha256 token)

/-- The token is none of those that are still to be made. -/
def World.Predates (env : Env) (w : World) (token : String) : Prop :=
  ∀ draw, w.draws ≤ draw → ∀ now u, token ≠ createRefreshToken env now u (env.tokenUrlsafe draw)

/-- **Where the digest in a row comes from**: it was there, or there is none, or the commit
put the digest of a token there that it has just made. -/
theorem Db.commit_hash {c : Tx} {db db' : Db} {now : Time} {work : UnitOfWork}
    (hmay : c.MayCommit env work) (h : db.commit now work = .ok db') {u : UserId}
    {s' : UserSession} (hs' : Keyed.get? db'.sessions u = some s') :
    (∃ s, Keyed.get? db.sessions u = some s ∧ s'.refreshTokenHash = s.refreshTokenHash) ∨
      s'.refreshTokenHash = none ∨
      ∃ now id, ∃ jti ∈ c.drawn,
        s'.refreshTokenHash = some (env.sha256 (createRefreshToken env now id jti)) := by
  rcases Db.commit_session hmay h u with hsame | ⟨l, d, mails, s₀, s₁, -, -, -, -, hmay', hwrite⟩ |
    ⟨-, hnew⟩
  · exact Or.inl ⟨s', hsame ▸ hs', rfl⟩
  · rw [hwrite] at hs'
    obtain ⟨s, hs, rfl⟩ := Option.map_eq_some_iff.mp hs'
    by_cases hchanged : s₁.refreshTokenHash = s₀.refreshTokenHash
    · exact Or.inl ⟨s, hs, by simp [UserSession.write, hchanged]⟩
    · have hhash : (UserSession.write s₀ s₁ s).refreshTokenHash = s₁.refreshTokenHash :=
        written_of_ne _ hchanged
      rw [hhash]
      cases hmay' with
      | keeps _ hkept => exact absurd (congrArg Prod.snd (Option.some.inj hkept)) hchanged
      | opens _ hjti _ hhash => exact Or.inr (Or.inr ⟨_, _, _, hjti, hhash⟩)
      | revokes _ hhash => exact Or.inr (Or.inl hhash)
      | renames _ _ hkept => exact absurd hkept hchanged
  · exact Or.inr (Or.inl (hnew s' hs'))

/-- A spent token stays spent, whatever a request commits that cannot make it again. -/
theorem World.Spent.commits (hideal : env.Ideal) {c : Tx} {work : UnitOfWork} {db' : Db}
    {u : UserId} {token : String} (hspent : w.Spent env u token) (hmay : c.MayCommit env work)
    (h : w.db.commit w.clock work = .ok db')
    (hother : ∀ now id, ∀ jti ∈ c.drawn, createRefreshToken env now id jti ≠ token) :
    ({ w with db := db' } : World).Spent env u token := by
  intro s' hs'
  rcases Db.commit_hash hmay h hs' with ⟨s, hs, hkept⟩ | hnone | ⟨now, id, jti, hjti, hmade⟩
  · rw [hkept]
    exact hspent s hs
  · rw [hnone]
    simp
  · rw [hmade]
    intro heq
    exact hother now id jti hjti (hideal.sha256 (Option.some.inj heq))

/-- What is drawn from now on makes no token of before. -/
theorem World.Predates.drawn_ne {d₀ : ℕ} {w₀ : World} {c : Tx} {token : String}
    (hpredates : w₀.Predates env token) (hd : w₀.draws = d₀) (htracked : c.Tracked env d₀ w) :
    ∀ now id, ∀ jti ∈ c.drawn, createRefreshToken env now id jti ≠ token := by
  intro now id jti hjti heq
  obtain ⟨k, hk, -, rfl⟩ := htracked.drawn jti hjti
  exact hpredates k (hd ▸ hk) now id heq.symm

/-! ### Exchanging one pair -/

/-- The pair is on its way to be exchanged, or it has been: the request has read it from the
row, and is still to commit or has stored a new token. -/
def Tx.Exchanges (env : Env) (c : Tx) (token family : String) : Prop :=
  c.request = .refreshToken token family ∧ c.ReadPair env token family ∧
    (c.Pending ∨ ∃ t, c.Stored env t)

/-- The id a query looks for. -/
def Stmt.queriedId? : Stmt → Option UserId
  | .selectUserById id _ => some id
  | _ => none

/-- A request reads the row with the pair in it only when no other request that has read the
pair from it is still to commit. -/
def ReadsAlone (env : Env) (token family : String)
    (p : Pool Stmt Stmt.Reply Exn Response World ι AdvisoryLock) (c : ι → Tx) :
    Label ι Outside → Prop
  | .run i =>
    ∀ id ∈ (p.prog i).head?.bind Stmt.queriedId?,
      (c i).request = .refreshToken token family → p.world.HoldsPair env id token family →
        ∀ j, j ≠ i → (c j).request = .refreshToken token family →
          ¬ ((c j).ReadPair env token family ∧ (c j).Pending)
  | .env _ => True

instance [Fintype ι] [DecidableEq ι] (env : Env) (token family : String)
    (p : Pool Stmt Stmt.Reply Exn Response World ι AdvisoryLock) (c : ι → Tx) :
    (l : Label ι Outside) → Decidable (ReadsAlone env token family p c l)
  | .run i => inferInstanceAs (Decidable (∀ id ∈ (p.prog i).head?.bind Stmt.queriedId?, _))
  | .env _ => isTrue trivial

section

variable [DecidableEq ι]

/-- At most one request exchanges the pair, and once it has, the row is without it. -/
structure Exclusive (env : Env) (u : UserId) (token family : String) (w : World)
    (_owner : AdvisoryLock → Option ι) (c : ι → Tx) : Prop where
  sole : ∀ i j, (c i).Exchanges env token family → (c j).Exchanges env token family → i = j
  spent : ∀ i, (c i).request = .refreshToken token family → (c i).ReadPair env token family →
    (∃ t, (c i).Stored env t) → w.Spent env u token

/-- A step in which no request comes to exchange the pair. -/
theorem Exclusive.congr {u : UserId} {token family : String} {w' : World}
    {owner owner' : AdvisoryLock → Option ι} {c : ι → Tx} {i : ι} {c' : Tx}
    (h : Exclusive env u token family w owner c)
    (hexchanges : c'.Exchanges env token family → (c i).Exchanges env token family)
    (hstable : w.Spent env u token → w'.Spent env u token)
    (hspent : c'.request = .refreshToken token family → c'.ReadPair env token family →
      (∃ t, c'.Stored env t) → w'.Spent env u token) :
    Exclusive env u token family w' owner' (Function.update c i c') := by
  have hback : ∀ j, (Function.update c i c' j).Exchanges env token family →
      (c j).Exchanges env token family := by
    intro j hj
    by_cases hji : j = i
    · subst hji
      rw [Function.update_self] at hj
      exact hexchanges hj
    · rw [Function.update_of_ne hji] at hj
      exact hj
  refine ⟨fun j k hj hk => h.sole j k (hback j hj) (hback k hk), fun j hreq hread hstored => ?_⟩
  by_cases hji : j = i
  · subst hji
    rw [Function.update_self] at hreq hread hstored
    exact hspent hreq hread hstored
  · rw [Function.update_of_ne hji] at hreq hread hstored
    exact hstable (h.spent j hreq hread hstored)

/-- A step that leaves the row, and what the history knows of it, alone. -/
theorem Exclusive.idles {u : UserId} {token family : String} {w' : World}
    {owner owner' : AdvisoryLock → Option ι} {c : ι → Tx} {i : ι} {c' : Tx}
    (h : Exclusive env u token family w owner c) (hsessions : w'.db.sessions = w.db.sessions)
    (hexchanges : c'.Exchanges env token family → (c i).Exchanges env token family)
    (hstored : (∃ t, c'.Stored env t) → ∃ t, (c i).Stored env t)
    (hrequest : c'.request = (c i).request) (hloaded : c'.loaded = (c i).loaded) :
    Exclusive env u token family w' owner' (Function.update c i c') := by
  have hstable : w.Spent env u token → w'.Spent env u token := by
    intro hspent s hs
    rw [hsessions] at hs
    exact hspent s hs
  refine h.congr hexchanges hstable fun hreq hread hstored' => hstable ?_
  rw [hrequest] at hreq
  rw [Tx.ReadPair, hloaded] at hread
  exact h.spent i hreq hread (hstored hstored')

/-- A draw: a request that still draws has not stored a token. -/
theorem Exclusive.draws {u : UserId} {token family : String} {w' : World}
    {owner owner' : AdvisoryLock → Option ι} {c : ι → Tx} {i : ι}
    (h : Exclusive env u token family w owner c) (hsessions : w'.db.sessions = w.db.sessions)
    (hpending : (c i).committed = none) (text : String) :
    Exclusive env u token family w' owner'
      (Function.update c i { c i with drawn := text :: (c i).drawn }) := by
  have hnot : ¬ ∃ t, ({ c i with drawn := text :: (c i).drawn } : Tx).Stored env t := by
    rintro ⟨t, l, d, mails, s, hcommit, -⟩
    rw [show (c i).committed = some (.update l d mails) from hcommit] at hpending
    cases hpending
  refine h.idles hsessions ?_ (fun hstored => absurd hstored hnot) rfl rfl
  rintro ⟨hreq, hread, hpending' | hstored⟩
  · exact ⟨hreq, hread, Or.inl hpending'⟩
  · exact absurd hstored hnot

/-- The first row a request loads: if it holds the pair, no one else exchanges it. -/
theorem Exclusive.reads {u : UserId} {token family : String}
    {owner : AdvisoryLock → Option ι} {c : ι → Tx} {i : ι} {l : Loaded}
    (h : Exclusive env u token family w owner c) (hshows : w.Shows l)
    (howner : (c i).request = .refreshToken token family → l.user.id = u)
    (hcommitted : ∀ l d mails, (c i).committed ≠ some (.update l d mails))
    (halone : (c i).request = .refreshToken token family → w.HoldsPair env u token family →
      ∀ j, j ≠ i → (c j).request = .refreshToken token family →
        ¬ ((c j).ReadPair env token family ∧ (c j).Pending)) :
    Exclusive env u token family w owner (Function.update c i { c i with loaded := some l }) := by
  have hnotStored : ¬ ∃ t, ({ c i with loaded := some l } : Tx).Stored env t := by
    rintro ⟨t, l', d, mails, s, hcommit, -⟩
    exact hcommitted l' d mails hcommit
  -- A row with the pair in it leaves no other exchange.
  have hothers : ({ c i with loaded := some l } : Tx).Exchanges env token family →
      ∀ j, j ≠ i → ¬ (c j).Exchanges env token family := by
    rintro ⟨hreq, ⟨_, ⟨⟩, s, hs, hhash, hfamily⟩, -⟩ j hj ⟨hreqj, hreadj, hj'⟩
    have hrow : Keyed.get? w.db.sessions u = some s := by
      rw [← howner hreq]
      exact hshows.session hs
    rcases hj' with hpending | hstored
    · exact halone hreq ⟨s, hrow, hhash, hfamily⟩ j hj hreqj ⟨hreadj, hpending⟩
    · exact h.spent j hreqj hreadj hstored s hrow hhash
  refine ⟨fun j k hj hk => ?_, fun j hreq hread hstored => ?_⟩
  · by_cases hji : j = i
    · subst hji
      by_cases hki : k = j
      · exact hki.symm
      · rw [Function.update_self] at hj
        rw [Function.update_of_ne hki] at hk
        exact absurd hk (hothers hj k hki)
    · rw [Function.update_of_ne hji] at hj
      by_cases hki : k = i
      · subst hki
        rw [Function.update_self] at hk
        exact absurd hj (hothers hk j hji)
      · rw [Function.update_of_ne hki] at hk
        exact h.sole j k hj hk
  · by_cases hji : j = i
    · subst hji
      rw [Function.update_self] at hstored
      exact absurd hstored hnotStored
    · rw [Function.update_of_ne hji] at hreq hread hstored
      exact h.spent j hreq hread hstored

/-- A request that has read the pair and stores a new token uses the pair up. -/
theorem World.spent_of_stored (hideal : env.Ideal) {c : Tx} {work : UnitOfWork} {db' : Db}
    {u : UserId} {token family : String} (h : w.db.commit w.clock work = .ok db')
    (howner : ∀ l, c.loaded = some l → l.user.id = u)
    (hmay : c.MayCommit env work)
    (hother : ∀ now id, ∀ jti ∈ c.drawn, createRefreshToken env now id jti ≠ token)
    (hread : (c.commit work).ReadPair env token family)
    (hstored : ∃ t, (c.commit work).Stored env t) :
    ({ w with db := db' } : World).Spent env u token := by
  obtain ⟨t, l, d, mails, s', hcommit, hs', hhash, now, jti, hjti, rfl⟩ := hstored
  cases hcommit
  obtain ⟨l', hl', s, hs, hpair, -⟩ := hread
  have hloaded' : c.loaded = some l := hmay.1
  rw [show c.loaded = some l' from hl'] at hloaded'
  cases hloaded'
  have hown : l.user.id = u := howner l hl'
  intro r hr
  have hrow := Db.commit_own_session h hs hs'
  rw [hown] at hrow
  rw [show Keyed.get? db'.sessions u = some r from hr] at hrow
  obtain ⟨r₀, -, rfl⟩ := Option.map_eq_some_iff.mp hrow.symm
  have hne : env.sha256 (createRefreshToken env now l.user.id jti) ≠ env.sha256 token :=
    fun heq => hother now l.user.id jti hjti (hideal.sha256 heq)
  have hwritten : (UserSession.write s s' r₀).refreshTokenHash = s'.refreshTokenHash := by
    refine written_of_ne _ ?_
    rw [hhash, hpair]
    exact fun heq => hne (Option.some.inj heq)
  rw [hwritten, hhash]
  exact fun heq => hne (Option.some.inj heq)

/-- **Exclusive use is stable under every interleaving of lone reads.** -/
theorem exclusive_inductive (hideal : env.Ideal) {w₀ : World} {u : UserId} {token family : String}
    (hpredates : w₀.Predates env token)
    (hu : (Request.refreshToken token family).userId? env = some u) :
    Pool.Inductive (machine env) (protocol env) (Tx.Post env) Tx.close
      (ReadsAlone (ι := ι) env token family)
      fun w owner c => Tracks env w₀.draws w owner c ∧
        Exclusive env u token family w owner c := by
  refine Tracks.conj ?_ ?_ ?_
  · intro p c i s k w' owner' c' htracks h hp hallowed _ hok hm
    have htracked := htracks.each i
    have hown : (c i).request = .refreshToken token family → ∀ l, (c i).loaded = some l →
        l.user.id = u := by
      intro hreq l hl
      have hid := htracked.loadedId l hl (by rw [hreq]; rfl)
      rw [hreq, hu] at hid
      exact (Option.some.inj hid).symm
    cases hm with
    | commits work db' hcommit =>
      have hother := hpredates.drawn_ne rfl htracked
      refine h.congr ?_ (fun hspent => hspent.commits hideal hallowed.2 hcommit hother) ?_
      · -- It was pending until now.
        rintro ⟨hreq, hread, -⟩
        exact ⟨hreq, hread, Or.inl hallowed.1⟩
      · intro hreq hread hstored
        exact World.spent_of_stored hideal hcommit (hown hreq) hallowed.2 hother hread hstored
    | reads _ l hquery hshows hid hfirst =>
      have hcommitted : ∀ l d mails, (c i).committed ≠ some (.update l d mails) := by
        intro l d mails hcommit
        have hloaded := htracked.committed l d mails hcommit
        rw [hfirst] at hloaded
        cases hloaded
      cases s with
      | selectUserById id q =>
        have hlu : (c i).request = .refreshToken token family → id = u := by
          intro hreq
          have hallowed : (c i).request.userId? env = some id := hallowed
          rw [hreq, hu] at hallowed
          exact (Option.some.inj hallowed).symm
        refine h.reads hshows (fun hreq => (hid id q rfl).trans (hlu hreq)) hcommitted ?_
        intro hreq hholds
        rw [← hlu hreq] at hholds
        exact hok id (by simp [hp, Prog.head?, Stmt.queriedId?]) hreq hholds
      | selectUserByUsername username q =>
        -- No exchange looks its user up by name.
        have hname : (c i).request.byUsername = true := hallowed
        have hno : (c i).request ≠ .refreshToken token family := by
          intro hreq
          rw [hreq] at hname
          cases hname
        exact h.reads hshows (fun hreq => absurd hreq hno) hcommitted fun hreq => absurd hreq hno
      | _ => cases hquery
    | draws =>
      refine h.draws ?_ hallowed _
      rfl
    | rollsBack => exact h.idles rfl (fun h => h) (fun h => h) rfl rfl
    | locks lock => exact h.idles rfl (fun h => h) (fun h => h) rfl rfl
    | clears contact exclude => exact h.idles rfl (fun h => h) (fun h => h) rfl rfl
    | asks id => exact h.idles rfl (fun h => h) (fun h => h) rfl rfl
    | fills key value => exact h.idles rfl (fun h => h) (fun h => h) rfl rfl
    | drops keys => exact h.idles rfl (fun h => h) (fun h => h) rfl rfl
    | idles _ _ _ hsessions => exact h.idles hsessions (fun h => h) (fun h => h) rfl rfl
  · intro w owner c i r _ h
    refine h.congr ?_ (fun hspent => hspent) fun hreq hread hstored => h.spent i hreq hread hstored
    rintro ⟨hreq, hread, ⟨-, hended⟩ | hstored⟩
    · cases hended
    · exact ⟨hreq, hread, Or.inr hstored⟩
  · intro w owner c o h
    cases o with
    | tick d => exact ⟨h.sole, h.spent⟩
    | expire key => exact ⟨h.sole, h.spent⟩

/-- **A pair is exchanged at most once**: in any pool of requests, if no request reads the row
with the pair in it while another request that has read the pair from it is still to
commit, then at most one request that presents the pair returns new tokens. -/
theorem refreshToken_once (hideal : env.Ideal) (w : World) (requests : ι → Request)
    (hids : (Keyed.keys w.db.users).Nodup) {token family : String}
    (hpredates : w.Predates env token) (schedule : Schedule ι)
    (hok : w.Always env requests (ReadsAlone env token family) schedule)
    {p : Pool Stmt Stmt.Reply Exn Response World ι AdvisoryLock}
    (h : w.serveAll env requests schedule = some p) {i j : ι} {t : LoginResponse}
    (hi : requests i = .refreshToken token family) (hj : requests j = .refreshToken token family)
    (hne : j ≠ i) (ht : (p.prog i).result? = some (.ok (.tokens t))) (t' : LoginResponse) :
    (p.prog j).result? ≠ some (.ok (.tokens t')) := by
  intro ht'
  have hreq : ∀ k, requests k = .refreshToken token family →
      (w.histories env requests schedule k).request = .refreshToken token family := by
    intro k hk
    rw [World.histories_request, hk]
  obtain ⟨htracks, hconforms⟩ := World.serveAll_invariant (tracks_inductive env w.draws)
    (.start env requests hids) (Pool.always_true _ _ _) h
  -- Whoever returns tokens has read the pair and stored a new token.
  have hexchanges : ∀ k, requests k = .refreshToken token family → ∀ t,
      (p.prog k).result? = some (.ok (.tokens t)) →
      (w.histories env requests schedule k).Exchanges env token family := by
    intro k hk t ht
    have hanswers := (hconforms.answered ht).2.2 _ rfl
    simp only [Tx.Answers, hreq k hk] at hanswers
    exact ⟨hreq k hk, hanswers.1, Or.inr ⟨_, hanswers.2 t rfl⟩⟩
  obtain ⟨l, hl, -⟩ := (hexchanges i hi t ht).2.1
  have hu := (htracks.each i).loadedId l hl (by rw [hreq i hi]; rfl)
  rw [hreq i hi] at hu
  have hstart : Exclusive env l.user.id token family w (fun _ => none)
      (Request.histories env requests) := by
    have hunread : ∀ k, ¬ (Request.histories env requests k).ReadPair env token family := by
      rintro k ⟨l, hl, -⟩
      rw [(Request.histories_blank env requests k).loaded] at hl
      cases hl
    exact ⟨fun j k hj _ => absurd hj.2.1 (hunread j), fun j _ hread _ => absurd hread (hunread j)⟩
  obtain ⟨⟨-, hexclusive⟩, -⟩ := World.serveAll_invariant
    (exclusive_inductive hideal hpredates hu) ⟨.start env requests hids, hstart⟩ hok h
  exact hne (hexclusive.sole j i (hexchanges j hj t' ht') (hexchanges i hi t ht))

omit [DecidableEq ι] in
/-- A token made of a draw of before predates the rest. -/
theorem World.predates_of_drawn (hideal : env.Ideal) (w : World) (now : Time) (u : UserId)
    {draw : ℕ} (h : draw < w.draws) :
    w.Predates env (createRefreshToken env now u (env.tokenUrlsafe draw)) := by
  intro k hk now' u' heq
  have hdraw := hideal.tokenUrlsafe (createRefreshToken_injective env heq).2
  exact absurd hk (by rw [← hdraw]; exact Nat.not_le_of_lt h)

/-- Two requests with the pair of Ada's first login. -/
def refreshAda : Fin 2 → Request :=
  fun _ => .refreshToken tokensAda.refreshTokenCookie tokensAda.refreshTokenFamilyCookie

/-- The second request arrives when the first is through: it is taken for a thief. -/
theorem refreshToken_once_concrete :
    ∃ p t, (World.concrete.after Env.concrete loginAda).serveAll Env.concrete refreshAda
        (List.replicate 10 (.run 0) ++ List.replicate 6 (.run 1)) = some p ∧
      (p.prog 0).result? = some (.ok (.tokens t)) ∧
      (p.prog 1).result? =
        some (.error (.app .invalidRefreshTokenError HTTP401.invalidRefreshToken)) ∧
      (p.prog 1).result? ≠ some (.ok (.tokens t)) := by
  have hsome : ((World.concrete.after Env.concrete loginAda).serveAll Env.concrete refreshAda
      (List.replicate 10 (.run 0) ++ List.replicate 6 (.run 1))).map
        (fun p => ((p.prog 0).result?, (p.prog 1).result?)) =
      some (some (.ok (.tokens
          { accessToken := "101;111;11;011;access00010000111;"
            refreshTokenCookie := "101;00111;refresh1001;001;00000001010111001001;"
            refreshTokenFamilyCookie := "11;" })),
        some (.error (.app .invalidRefreshTokenError HTTP401.invalidRefreshToken))) := by
    decide +kernel
  obtain ⟨p, hp, hresults⟩ := Option.map_eq_some_iff.mp hsome
  obtain ⟨hfirst, hsecond⟩ := Prod.mk.inj hresults
  have hcookie : tokensAda.refreshTokenCookie =
      createRefreshToken Env.concrete 0 2 (Env.concrete.tokenUrlsafe 2) := by decide +kernel
  have hpredates : (World.concrete.after Env.concrete loginAda).Predates Env.concrete
      tokensAda.refreshTokenCookie := by
    rw [hcookie]
    exact World.predates_of_drawn Env.concrete_ideal _ 0 2 (by decide +kernel)
  have halone : (World.concrete.after Env.concrete loginAda).Always Env.concrete refreshAda
      (ReadsAlone Env.concrete tokensAda.refreshTokenCookie tokensAda.refreshTokenFamilyCookie)
      (List.replicate 10 (.run 0) ++ List.replicate 6 (.run 1)) := by
    unfold World.Always
    decide +kernel
  exact ⟨p, _, hp, hfirst, hsecond, refreshToken_once Env.concrete_ideal _ refreshAda
    (by decide +kernel) hpredates _ halone hp rfl rfl (by decide) hfirst _⟩

/-- **Without it, a pair is exchanged twice**: both requests read the row before either
commits, and both return tokens. -/
theorem refreshToken_twice :
    ∃ p t t', (World.concrete.after Env.concrete loginAda).serveAll Env.concrete refreshAda
        ([.run 0, .run 0, .run 1, .run 1] ++ List.replicate 8 (.run 0) ++
          List.replicate 8 (.run 1)) = some p ∧
      (p.prog 0).result? = some (.ok (.tokens t)) ∧
      (p.prog 1).result? = some (.ok (.tokens t')) := by
  have hsome : ((World.concrete.after Env.concrete loginAda).serveAll Env.concrete refreshAda
      ([.run 0, .run 0, .run 1, .run 1] ++ List.replicate 8 (.run 0) ++
        List.replicate 8 (.run 1))).map (fun p => ((p.prog 0).result?, (p.prog 1).result?)) =
      some (some (.ok (.tokens
          { accessToken := "101;111;11;011;access00010000111;"
            refreshTokenCookie := "101;00111;refresh1001;001;00000001010111001001;"
            refreshTokenFamilyCookie := "11;" })),
        some (.ok (.tokens
          { accessToken := "101;111;11;011;access00010000111;"
            refreshTokenCookie := "101;00111;refresh1001;011;00000001010111001001;"
            refreshTokenFamilyCookie := "101;" }))) := by decide +kernel
  obtain ⟨p, hp, hresults⟩ := Option.map_eq_some_iff.mp hsome
  obtain ⟨hfirst, hsecond⟩ := Prod.mk.inj hresults
  exact ⟨p, _, _, hp, hfirst, hsecond⟩

/-! ### Revoking a session that is being opened -/

/-- The statement commits. -/
def Stmt.isCommit : Stmt → Bool
  | .commit _ => true
  | _ => false

/-- The row the request read had a refresh token to clear. -/
def Tx.ReadSession (c : Tx) : Prop :=
  ∃ l ∈ c.loaded, ∃ s ∈ l.session, s.refreshTokenHash ≠ none

instance (c : Tx) : Decidable c.ReadSession :=
  inferInstanceAs (Decidable (∃ l ∈ c.loaded, ∃ s ∈ l.session, _))

/-- `L` does not commit after `R`; and if `R` commits after `L`, the row it read had a refresh
token to clear. -/
def RevokesLast (L R : ι) (p : Pool Stmt Stmt.Reply Exn Response World ι AdvisoryLock)
    (c : ι → Tx) : Label ι Outside → Prop
  | .run i =>
    (p.prog i).head?.any Stmt.isCommit = true →
      (i = L → (c R).committed = none) ∧ (i = R → (c L).committed ≠ none → (c R).ReadSession)
  | .env _ => True

instance (L R : ι)
    (p : Pool Stmt Stmt.Reply Exn Response World ι AdvisoryLock) (c : ι → Tx) :
    (l : Label ι Outside) → Decidable (RevokesLast L R p c l)
  | .run i => inferInstanceAs (Decidable ((p.prog i).head?.any Stmt.isCommit = true → _))
  | .env _ => isTrue trivial

/-- What `RevokesLast` keeps: `L` has read the row of the user, and once `R` has committed a
change of the same row, what `L` has stored there is spent. -/
structure Superseded (env : Env) (L R : ι) (u : UserId) (w : World)
    (_owner : AdvisoryLock → Option ι) (c : ι → Tx) : Prop where
  read : ∃ l, (c L).loaded = some l ∧ l.user.id = u
  revoker : (c R).request.revokesSession = true
  settled : (c R).committed ≠ none → (∃ l, (c R).loaded = some l ∧ l.user.id = u) →
    ∀ t, (c L).Stored env t → w.Spent env u t

omit [DecidableEq ι] in
/-- A request that opens a session does not revoke it. -/
theorem Request.revokesSession_of_opens {r : Request} (h : r.opensSession = true) :
    r.revokesSession = false := by
  cases r with
  | login | refreshToken => rfl
  | _ => cases h

omit [DecidableEq ι] in
/-- A revocation that has read a refresh token clears the row. -/
theorem Tx.ReadSession.revokes {c : Tx} {work : UnitOfWork} {db' : Db} {u : UserId}
    (hread : c.ReadSession) (hrevokes : c.request.revokesSession = true)
    (hmay : c.MayCommit env work) (h : w.db.commit w.clock work = .ok db')
    (hown : ∃ l, c.loaded = some l ∧ l.user.id = u) (t : String) :
    ({ w with db := db' } : World).Spent env u t := by
  obtain ⟨l, hl, rfl⟩ := hown
  obtain ⟨l', hl', s, hs, hhash⟩ := hread
  rw [show c.loaded = some l' from hl'] at hl
  cases hl
  cases work with
  | register => exact absurd hrevokes (by simp [hmay.1])
  | update l₁ d mails =>
    have hl₁ : c.loaded = some l₁ := hmay.1
    rw [show c.loaded = some l from hl'] at hl₁
    cases hl₁
    have hwrite : MayWriteSession env c l.session d.session := hmay.2.2
    rw [show l.session = some s from hs] at hwrite
    generalize hs' : d.session = o' at hwrite
    cases hwrite with
    | keeps hreq => exact absurd hrevokes (by simp [hreq])
    | opens hreq => exact absurd hrevokes (by simp [Request.revokesSession_of_opens hreq])
    | renames hreq => exact absurd hrevokes (by simp [hreq])
    | @revokes _ s' _ hnone =>
      intro r hr
      have hrow := Db.commit_own_session h hs hs'
      rw [show Keyed.get? db'.sessions l.user.id = some r from hr] at hrow
      obtain ⟨r₀, -, rfl⟩ := Option.map_eq_some_iff.mp hrow.symm
      have hwritten : (UserSession.write s s' r₀).refreshTokenHash = s'.refreshTokenHash := by
        refine written_of_ne _ ?_
        rw [hnone]
        exact fun heq => hhash heq.symm
      rw [hwritten, hnone]
      simp

omit [DecidableEq ι] in
/-- A step without a commit. -/
theorem Superseded.later {L R : ι} {u : UserId} {w' : World}
    {owner owner' : AdvisoryLock → Option ι} {c c' : ι → Tx}
    (h : Superseded env L R u w owner c) (hlater : ∀ j, (c j).Later (c' j))
    (hloaded : (c R).committed ≠ none → (c R).loaded ≠ none)
    (hsessions : w'.db.sessions = w.db.sessions) : Superseded env L R u w' owner' c' := by
  obtain ⟨l, hl, hlu⟩ := h.read
  refine ⟨⟨l, ?_, hlu⟩, ?_, fun hcommitted hown t hstored s hs => ?_⟩
  · rw [(hlater L).loaded (by simp [hl]), hl]
  · rw [(hlater R).request]
    exact h.revoker
  · rw [(hlater R).committed] at hcommitted
    rw [(hlater R).loaded (hloaded hcommitted)] at hown
    rw [hsessions] at hs
    exact h.settled hcommitted hown t ((hlater L).stored hstored) s hs

/-- A commit: of the revocation, of the request it overtakes, or of another one. -/
theorem Superseded.commits (hideal : env.Ideal) {L R i : ι} {d₀ : ℕ} {u : UserId}
    {owner owner' : AdvisoryLock → Option ι} {c : ι → Tx} {work : UnitOfWork} {db' : Db}
    (h : Superseded env L R u w owner c) (htracks : Tracks env d₀ w owner c) (hLR : L ≠ R)
    (hmay : (c i).MayCommit env work) (hcommit : w.db.commit w.clock work = .ok db')
    (hfirst : i = L → (c R).committed = none)
    (hlast : i = R → (c L).committed ≠ none → (c R).ReadSession) :
    Superseded env L R u { w with db := db' } owner'
      (Function.update c i ((c i).commit work)) := by
  have hkeep : ∀ j, (Function.update c i ((c i).commit work) j).request = (c j).request ∧
      (Function.update c i ((c i).commit work) j).loaded = (c j).loaded := by
    intro j
    by_cases hj : j = i
    · subst hj
      rw [Function.update_self]
      exact ⟨rfl, rfl⟩
    · rw [Function.update_of_ne hj]
      exact ⟨rfl, rfl⟩
  refine ⟨?_, ?_, fun hcommitted hown t hstored => ?_⟩
  · rw [(hkeep L).2]
    exact h.read
  · rw [(hkeep R).1]
    exact h.revoker
  · rw [(hkeep R).2] at hown
    by_cases hiR : i = R
    · -- The revocation commits: what it has read decides.
      subst hiR
      rw [Function.update_of_ne hLR] at hstored
      have hcommitted' : (c L).committed ≠ none := by
        obtain ⟨l, d, mails, s, hcommit', -⟩ := hstored
        simp [hcommit']
      exact (hlast rfl hcommitted').revokes h.revoker hmay hcommit hown t
    · rw [Function.update_of_ne (Ne.symm hiR)] at hcommitted
      by_cases hiL : i = L
      · exact absurd (hfirst hiL) hcommitted
      · rw [Function.update_of_ne (Ne.symm hiL)] at hstored
        refine (h.settled hcommitted hown t hstored).commits hideal hmay hcommit ?_
        -- No other request has drawn the text the token is made of.
        obtain ⟨_, _, _, _, -, -, -, now, jti, hjti, rfl⟩ := hstored
        intro now' id jti' hjti' heq
        obtain rfl := (createRefreshToken_injective env heq).2
        exact htracks.apart hideal.tokenUrlsafe i L hiL _ hjti' hjti

/-- **What a revocation that comes last supersedes stays superseded.** -/
theorem superseded_inductive (hideal : env.Ideal) (d₀ : ℕ) {L R : ι} (hLR : L ≠ R) (u : UserId) :
    Pool.Inductive (machine env) (protocol env) (Tx.Post env) Tx.close (RevokesLast L R)
      fun w owner c => Tracks env d₀ w owner c ∧ Superseded env L R u w owner c := by
  refine Tracks.conj ?_ ?_ ?_
  · intro p c i s k w' owner' c' htracks h hp hallowed _ hok hm
    have hloaded : (c R).committed ≠ none → (c R).loaded ≠ none :=
      (htracks.each R).revokes h.revoker
    rcases hm.commits_or hallowed with ⟨work, db', rfl, hcommit, rfl, rfl, -, hmay⟩ |
      ⟨-, hsessions, hlater⟩
    · obtain ⟨hfirst, hlast⟩ := hok (by simp [hp, Prog.head?, Stmt.isCommit])
      exact h.commits hideal htracks hLR hmay hcommit hfirst hlast
    · exact h.later hlater.update hloaded hsessions
  · intro w owner c i r htracks h
    exact h.later (Tx.Later.close (c i) r).update ((htracks.each R).revokes h.revoker) rfl
  · intro w owner c o h
    cases o with
    | tick d => exact ⟨h.read, h.revoker, h.settled⟩
    | expire key => exact ⟨h.read, h.revoker, h.settled⟩

omit [DecidableEq ι] in
/-- A refresh that returns has found the pair in the row. -/
theorem refreshToken_holdsPair (env : Env) (w : World) (token family : String) :
    Ends (exec env) (refreshToken env token family)
      (fun out _ => ∀ t, out = .ok t →
        ∃ u, refreshTokenSubject env w.clock token = .ok u ∧ w.HoldsPair env u token family) w := by
  unfold refreshToken
  rw [ends_datetimeNow]
  cases hsub : refreshTokenSubject env w.clock token with
  | error e => rintro _ ⟨⟩
  | ok u =>
    rw [ofExcept_ok, ends_getUserById]
    cases hload : w.db.selectUserById u { loadSession := true } with
    | none => rintro _ ⟨⟩
    | some l =>
      obtain ⟨hshows, rfl⟩ := Db.selectUserById_shows hload
      cases hs : l.session with
      | none =>
        simp only [hs]
        rintro _ ⟨⟩
      | some s =>
        simp only [hs, deref_some]
        split
        · next hash family' expiresAt hhash hfamily _ =>
          rw [ends_datetimeNow]
          refine ends_ite (fun _ => by intro _ h; cases h) fun _ => ?_
          refine ends_compareDigest (fun _ => ?_) fun _ => by rintro _ ⟨⟩
          refine ends_verifyDigest (fun _ => ?_) fun _ => by rintro _ ⟨⟩
          refine ends_ite (fun _ => ?_) fun hgood => ?_
          · -- The violation raises, whatever its revocation does.
            rw [ends_bind]
            refine Ends.of_forall fun r w' => ?_
            cases r with
            | ok _ => rintro _ ⟨⟩
            | error _ => rintro _ ⟨⟩
          · obtain ⟨rfl, rfl⟩ : family = family' ∧ env.sha256 token = hash := by simpa using hgood
            exact fun _ _ => ⟨_, rfl, s, hshows.session hs, hhash, hfamily⟩
        · rintro _ ⟨⟩

omit [DecidableEq ι] in
/-- A spent token is refused, with whatever family it is presented. -/
theorem World.Spent.refused {now : Time} {u : UserId} {jti : String}
    (hspent : w.Spent env u (createRefreshToken env now u jti)) (family : String)
    (response : Response) :
    w.respond env (.refreshToken (createRefreshToken env now u jti) family) ≠ .ok response := by
  have hends : Ends (exec env)
      ((Request.refreshToken (createRefreshToken env now u jti) family).service env)
      (fun out _ => ∀ response, out = .ok response → False) w := by
    unfold Request.service
    rw [Interleave.Prog.ends_map]
    refine (refreshToken_holdsPair env w _ family).mono fun r w' hr => ?_
    cases r with
    | error e => rintro _ ⟨⟩
    | ok t =>
      intro _ _
      obtain ⟨u', hsubject, s, hs, hhash, -⟩ := hr t rfl
      obtain ⟨claims, hdecode, -, -, hsub⟩ := refreshTokenSubject_eq_ok.mp hsubject
      have hclaims : claims = refreshClaims env now u jti := by
        rw [createRefreshToken, env.jose.decode_encode] at hdecode
        exact (Option.some.inj hdecode).symm
      obtain rfl : u = u' := by
        rw [hclaims] at hsub
        exact Option.some.inj hsub
      exact hspent s hs hhash
  exact hends response

/-- The tokens that a request answers with are those of the session it has stored. -/
theorem Tx.stored_of_answers {c : Tx} {t : LoginResponse} (hopens : c.request.opensSession = true)
    (h : c.Answers env (.tokens t)) : c.Stored env t.refreshTokenCookie := by
  unfold Tx.Answers at h
  cases hrequest : c.request with
  | login formData =>
    rw [hrequest] at h
    exact h t rfl
  | refreshToken token family =>
    rw [hrequest] at h
    exact h.2 t rfl
  | _ =>
    rw [hrequest] at hopens
    cases hopens

/-- **A session opened before a revocation does not outlive it**: in any pool of requests, if
`L` opens a session, `R` revokes the sessions of the same user, and `L` has read the row
before `R` commits, then the token `L` returns is refused once both are through, provided
that `L` does not commit after `R`, and that `R`, committing after `L`, had read a session to
clear. -/
theorem session_revoked_serveAll (hideal : env.Ideal) (w : World) (requests : ι → Request)
    (hids : (Keyed.keys w.db.users).Nodup) {L R : ι} (hL : (requests L).opensSession = true)
    (hR : (requests R).revokesSession = true) (before after : Schedule ι)
    (hok : w.Always env requests (RevokesLast L R) (before ++ after))
    (hread : (w.histories env requests before L).loaded ≠ none)
    (hpending : (w.histories env requests before R).committed = none)
    {p : Pool Stmt Stmt.Reply Exn Response World ι AdvisoryLock}
    (h : w.serveAll env requests (before ++ after) = some p)
    (hcommitted : (w.histories env requests (before ++ after) R).committed ≠ none)
    (hsame : ∀ l ∈ (w.histories env requests (before ++ after) L).loaded,
      ∀ l' ∈ (w.histories env requests (before ++ after) R).loaded, l'.user.id = l.user.id)
    {t : LoginResponse} (ht : (p.prog L).result? = some (.ok (.tokens t))) (family : String)
    (response : Response) :
    p.world.respond env (.refreshToken t.refreshTokenCookie family) ≠ .ok response := by
  have hLR : L ≠ R := by
    rintro rfl
    rw [Request.revokesSession_of_opens hL] at hR
    cases hR
  -- The first part of the schedule ties the histories to the state.
  obtain ⟨q, hq, hp, hfinal⟩ := World.serveAll_append h
  obtain ⟨htracks, hconforms⟩ := World.serveAll_invariant (tracks_inductive env w.draws)
    (.start env requests hids) (Pool.always_true _ _ _) hq
  obtain ⟨l, hl⟩ := Option.ne_none_iff_exists'.mp hread
  have hstart : Superseded env L R l.user.id q.world q.owner (w.histories env requests before) := by
    refine ⟨⟨l, hl, rfl⟩, ?_, fun hno => absurd hpending hno⟩
    rw [World.histories_request]
    exact hR
  -- The second part keeps what the revocation supersedes.
  obtain ⟨⟨htracks', hsuperseded⟩, hconforms'⟩ := Pool.exec_invariant
    (superseded_inductive hideal w.draws hLR l.user.id) ⟨htracks, hstart⟩ hconforms
    (Pool.always_append hq hok).2 hp
  rw [← hfinal] at htracks' hsuperseded hconforms'
  obtain ⟨l₁, hl₁, hu⟩ := hsuperseded.read
  obtain ⟨l₂, hl₂⟩ := Option.ne_none_iff_exists'.mp
    ((htracks'.each R).revokes hsuperseded.revoker hcommitted)
  have hspent := hsuperseded.settled hcommitted ⟨l₂, hl₂, (hsame l₁ hl₁ l₂ hl₂).trans hu⟩
  have hstored :
      (w.histories env requests (before ++ after) L).Stored env t.refreshTokenCookie := by
    refine Tx.stored_of_answers ?_ ((Conforms.answered hconforms' ht).2.2 _ rfl)
    rw [World.histories_request]
    exact hL
  have hspent' := hspent _ hstored
  obtain ⟨l₃, d, mails, s, hcommit, -, -, now, jti, -, hcookie⟩ := hstored
  have hl₃ := (htracks'.each L).committed l₃ d mails hcommit
  rw [hl₁] at hl₃
  cases hl₃
  rw [hcookie, hu] at hspent' ⊢
  exact hspent'.refused family response

/-- Ada logs in again while she logs out. -/
def loginLogout : Fin 2 → Request
  | 0 => .login { username := some "lovelace", password := some "pw" }
  | 1 => .logout 2

/-- The logout has read Ada's session, the login goes through, and the logout commits: the
new session is gone. -/
theorem session_revoked_concrete :
    ∃ p t, (World.concrete.after Env.concrete loginAda).serveAll Env.concrete loginLogout
        (.env (.tick 1) :: .run 1 :: List.replicate 10 (.run 0) ++ [.run 1, .run 1]) = some p ∧
      (p.prog 0).result? = some (.ok (.tokens t)) ∧ (p.prog 1).result? = some (.ok .none) ∧
      ∀ family response, p.world.respond Env.concrete
        (.refreshToken t.refreshTokenCookie family) ≠ .ok response := by
  have hsome : ((World.concrete.after Env.concrete loginAda).serveAll Env.concrete loginLogout
      (.env (.tick 1) :: .run 1 :: List.replicate 10 (.run 0) ++ [.run 1, .run 1])).map
        (fun p => ((p.prog 0).result?, (p.prog 1).result?)) =
      some (some (.ok (.tokens
          { accessToken := "101;111;11;011;access00010000111;"
            refreshTokenCookie := "101;00111;refresh1001;001;00000001010111001001;"
            refreshTokenFamilyCookie := "11;" })), some (.ok .none)) := by
    decide +kernel
  obtain ⟨p, hp, hresults⟩ := Option.map_eq_some_iff.mp hsome
  obtain ⟨hlogin, hlogout⟩ := Prod.mk.inj hresults
  have hlast : (World.concrete.after Env.concrete loginAda).Always Env.concrete loginLogout
      (RevokesLast 0 1)
      (.env (.tick 1) :: .run 1 :: List.replicate 10 (.run 0) ++ [.run 1, .run 1]) := by
    unfold World.Always
    decide +kernel
  exact ⟨p, _, hp, hlogin, hlogout, session_revoked_serveAll Env.concrete_ideal _ loginLogout
    (by decide +kernel) rfl rfl (.env (.tick 1) :: .run 1 :: List.replicate 10 (.run 0)) _
    hlast (by decide +kernel) (by decide +kernel) hp (by decide +kernel) (by decide +kernel)
    hlogin⟩

/-- **Without it, a session outlives a logout**: the login has read the row, the logout runs
from beginning to end, the login commits, and its refresh token is good. -/
theorem session_outlives_logout :
    ∃ p t response,
      (World.concrete.after Env.concrete loginAda).serveAll Env.concrete loginLogout
        (.env (.tick 1) :: .run 0 :: List.replicate 3 (.run 1) ++ List.replicate 9 (.run 0)) =
          some p ∧
      (p.prog 0).result? = some (.ok (.tokens t)) ∧ (p.prog 1).result? = some (.ok .none) ∧
      p.world.respond Env.concrete
        (.refreshToken t.refreshTokenCookie t.refreshTokenFamilyCookie) = .ok response := by
  have hsome : ((World.concrete.after Env.concrete loginAda).serveAll Env.concrete loginLogout
      (.env (.tick 1) :: .run 0 :: List.replicate 3 (.run 1) ++ List.replicate 9 (.run 0))).map
        (fun p => ((p.prog 0).result?, (p.prog 1).result?,
          p.world.respond Env.concrete
            (.refreshToken "101;00111;refresh1001;001;00000001010111001001;" "11;"))) =
      some (some (.ok (.tokens
          { accessToken := "101;111;11;011;access00010000111;"
            refreshTokenCookie := "101;00111;refresh1001;001;00000001010111001001;"
            refreshTokenFamilyCookie := "11;" })), some (.ok .none),
        .ok (.tokens
          { accessToken := "101;111;101;011;access00010000111;"
            refreshTokenCookie := "101;00111;refresh1001;011;00000001010111001001;"
            refreshTokenFamilyCookie := "101;" })) := by
    decide +kernel
  obtain ⟨p, hp, hresults⟩ := Option.map_eq_some_iff.mp hsome
  obtain ⟨hlogin, hresults⟩ := Prod.mk.inj hresults
  obtain ⟨hlogout, haccepted⟩ := Prod.mk.inj hresults
  exact ⟨p, _, _, hp, hlogin, hlogout, haccepted⟩

end

end SmsLite
