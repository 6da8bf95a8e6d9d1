import SmsLite.Http.Mediation

/-!
# What the limiters promise

A limited operation is counted before its service is called, under a key of whom it comes from,
its path and its amount.  The counters are windows of a minute; so what is let through in a run
is bounded by its length, for each key, and what is let through for a user by the keys she can be
counted under.

## Main definitions

* `App.reached?`, `App.limitKey?` — the operation a request gets to, and the key of its counter.
* `App.served` — the service calls of a run, with the keys they have been counted under.
* `Operation.guesses` — an attempt at the code of an email change.

## Main results

* `App.served?_eq_some_iff` — the service calls of a run are those of `App.Performs`.
* `App.countP_served` — **what is let through under a key is what its windows admit**.
* `served_le` — **no key is let through more often than its amount in each minute, and once more
  for the window that is open at the start**.
* `guesses_le` — **the attempts at the code of a user** are bounded by the length of the run and
  the addresses that send them in a header the limiter does not read as the guard does.
-/

namespace SmsLite

variable {P : Platform} {s s' : App} {req : HttpRequest} {h : Handler} {operation : Operation}
  {key : LimitKey}

/-! ### How far a request gets -/

namespace App

/-- The operation a request gets to, its caller let in and its parameters read. -/
def reached? (P : Platform) (s : App) (req : HttpRequest) : Option (Handler × Operation) :=
  match Router.dispatch routes req.method req.path with
  | .found h parameters =>
    if malformed P req h then none
    else
      match s.solve P req h.dependency with
      | (.error _, _) => none
      | (.ok provided, s') =>
        match h.operation P s'.now req parameters provided with
        | .errors _ => none
        | .ok operation => some (h, operation)
  | _ => none

/-- The key an operation is counted under, if it is limited. -/
def limitKey? (P : Platform) (s : App) (req : HttpRequest) (h : Handler) : Option LimitKey :=
  h.limit.map fun limit => limit.1.key P.env s.now req limit.2

/-- The service call of an event, with the key it has been counted under. -/
def served? (P : Platform) (s : App) : AppEvent → Option (Option LimitKey × Operation)
  | .http req =>
    (s.reached? P req).bind fun r =>
      if ((s.solve P req r.1.dependency).2.hit P req r.1).1 then
        some ((s.solve P req r.1.dependency).2.limitKey? P req r.1, r.2)
      else none
  | _ => none

/-- The service calls of a run. -/
def served (P : Platform) (s : App) (events : List AppEvent) : List (Option LimitKey × Operation) :=
  Run.observe (App.after P) (served? P) s events

/-- When an event is counted under the key. -/
def hit? (P : Platform) (key : LimitKey) (s : App) : AppEvent → Option Time
  | .http req =>
    if ((s.reached? P req).bind fun r =>
        (s.solve P req r.1.dependency).2.limitKey? P req r.1) = some key then some s.now
    else none
  | _ => none

/-- When a run is counted under the key. -/
def hits (P : Platform) (key : LimitKey) (s : App) (events : List AppEvent) : List Time :=
  Run.observe (App.after P) (hit? P key) s events

/-- A request that is answered by its service has got to its operation. -/
theorem Performs.reached {provided : h.dependency.Provides}
    (hp : s.Performs P req h provided operation s') : s.reached? P req = some (h, operation) := by
  obtain ⟨parameters, hrouted, hoperation⟩ := hp.routed
  have hsolved := hp.solved
  unfold reached?
  rw [hrouted]
  dsimp only
  rw [hp.wellFormed, if_neg Bool.false_ne_true]
  generalize s.solve P req h.dependency = result at hsolved hoperation
  obtain ⟨outcome, state⟩ := result
  dsimp only at hsolved hoperation ⊢
  rw [hsolved]
  dsimp only
  rw [hoperation]

theorem windows_perform (P : Platform) (s : App) (code : ℕ) (operation : Operation) :
    (s.perform P code operation).2.windows = s.windows := by
  cases operation <;> rfl

/-- **How far a request gets**: to its operation, where it is counted, or no further than its
guard. -/
theorem reached_cases (P : Platform) (s : App) (req : HttpRequest) :
    (∃ (h : Handler) (parameters : List String) (provided : h.dependency.Provides)
        (operation : Operation), s.reached? P req = some (h, operation) ∧
        malformed P req h = false ∧
        Router.dispatch routes req.method req.path = .found h parameters ∧
        (s.solve P req h.dependency).1 = .ok provided ∧
        h.operation P (s.solve P req h.dependency).2.now req parameters provided =
          .ok operation ∧
        (s.handle P req).2.windows = ((s.solve P req h.dependency).2.hit P req h).2.windows) ∨
      s.reached? P req = none ∧
        ((s.handle P req).2 = s ∨ ∃ d, (s.handle P req).2 = (s.solve P req d).2) := by
  unfold App.handle reached?
  cases hrouted : Router.dispatch routes req.method req.path with
  | notFound => exact Or.inr ⟨rfl, Or.inl rfl⟩
  | methodNotAllowed => exact Or.inr ⟨rfl, Or.inl rfl⟩
  | found h parameters =>
    dsimp only
    unfold App.serve
    cases hwell : malformed P req h with
    | true => exact Or.inr ⟨rfl, Or.inl rfl⟩
    | false =>
      rw [if_neg Bool.false_ne_true, if_neg Bool.false_ne_true]
      cases hresult : s.solve P req h.dependency with
      | mk outcome state =>
        cases outcome with
        | error answer => exact Or.inr ⟨rfl, Or.inr ⟨h.dependency, by rw [hresult]⟩⟩
        | ok provided =>
          dsimp only
          unfold App.enter
          cases hoperation : h.operation P state.now req parameters provided with
          | errors es => exact Or.inr ⟨rfl, Or.inr ⟨h.dependency, by rw [hresult]⟩⟩
          | ok operation =>
            refine Or.inl ⟨h, parameters, provided, operation, rfl, hwell, rfl, ?_⟩
            rw [hresult]
            refine ⟨rfl, hoperation, ?_⟩
            dsimp only
            split
            · exact windows_perform P _ _ _
            · rfl

/-- A request that gets to its operation and is not over the limit is answered by its service. -/
theorem performs_of_reached (hreached : s.reached? P req = some (h, operation))
    (hunlimited : ((s.solve P req h.dependency).2.hit P req h).1 = true) :
    ∃ provided, s.Performs P req h provided operation
      ((s.solve P req h.dependency).2.hit P req h).2 := by
  rcases s.reached_cases P req with
    ⟨h', parameters, provided, operation', hsome, hwell, hrouted, hsolved, hop, -⟩ | ⟨hnone, -⟩
  · cases hreached.symm.trans hsome
    exact ⟨provided, hwell, ⟨parameters, hrouted, hop⟩, hsolved, hunlimited, rfl⟩
  · cases hreached.symm.trans hnone

/-- **The service calls of a run are those of the requests that perform an operation.** -/
theorem served?_eq_some_iff {key? : Option LimitKey} :
    s.served? P (.http req) = some (key?, operation) ↔
      ∃ (h : Handler) (provided : h.dependency.Provides) (s' : App),
        s.Performs P req h provided operation s' ∧
          (s.solve P req h.dependency).2.limitKey? P req h = key? := by
  constructor
  · intro hserved
    obtain ⟨⟨h, operation'⟩, hreached, hrest⟩ := Option.bind_eq_some_iff.mp hserved
    dsimp only at hrest
    split at hrest
    · next hunlimited =>
      cases hrest
      obtain ⟨provided, hp⟩ := performs_of_reached hreached hunlimited
      exact ⟨h, provided, _, hp, rfl⟩
    · cases hrest
  · intro hex
    obtain ⟨h, provided, s', hp, hkey⟩ := hex
    refine Option.bind_eq_some_iff.mpr ⟨(h, operation), hp.reached, ?_⟩
    dsimp only
    rw [if_pos hp.unlimited, hkey]

end App

/-! ### Time -/

/-- Time does not run backwards. -/
theorem Backend.Sound.clock_le_after {b : Backend} (hb : b.Sound) (env : Env) (c : Call) :
    b.world.clock ≤ (b.after env c).world.clock := by
  rcases b.world_after env c with ⟨groups, hworld⟩ | ⟨e, -, hworld⟩
  · rw [hworld]
  · rw [hworld]
    exact hb.school.world.clock_le_after env e

theorem Backend.Sound.clock_le_run {b : Backend} (hb : b.Sound) (env : Env) (calls : List Call) :
    b.world.clock ≤ (b.run env calls).world.clock :=
  Run.generation_le (fun _ c hb => hb.after env c) (fun _ c hb => hb.clock_le_after env c) hb calls

namespace App

theorem now_le_after (hs : s.backend.Sound) (P : Platform) (e : AppEvent) :
    s.now ≤ (s.after P e).now := by
  obtain ⟨calls, hcalls⟩ := s.after_calls P e
  change s.backend.world.clock ≤ (s.after P e).backend.world.clock
  rw [hcalls]
  exact hs.clock_le_run P.env calls

/-- The authentication takes no time, and counts nothing. -/
theorem solve_quiet (hs : s.backend.Sound) (P : Platform) (req : HttpRequest) (d : Dependency) :
    (s.solve P req d).2.now = s.now ∧ (s.solve P req d).2.windows = s.windows := by
  rcases s.solve_state P req d with h | ⟨token, -, h⟩
  · rw [h]
    exact ⟨rfl, rfl⟩
  · rw [h]
    exact ⟨(hs.school.world.acts P.env (.getCurrentUser token)).clock, rfl⟩

/-- **A run is counted at the times of its steps**, one after the other. -/
theorem hits_sorted (hs : s.backend.Sound) (P : Platform) (key : LimitKey)
    (events : List AppEvent) :
    (s.now :: s.hits P key events).Pairwise (· ≤ ·) ∧
      ∀ t ∈ s.hits P key events, t ≤ (s.run P events).now := by
  refine Run.observe_sorted (I := fun s : App => s.backend.Sound)
    (fun _ e hs => sound_after hs P e) (fun _ e hs => now_le_after hs P e) ?_ hs events
  intro s e t ht
  cases e with
  | http req =>
    dsimp only [hit?] at ht
    split at ht
    · exact (Option.some.inj ht).symm
    · cases ht
  | _ => cases ht

/-! ### Windows -/

/-- A request counts when it has got to its operation, and only then. -/
theorem windows_handle (hs : s.backend.Sound) (P : Platform) (req : HttpRequest) :
    (s.handle P req).2.windows =
      ((s.reached? P req).map fun r =>
        ((s.solve P req r.1.dependency).2.hit P req r.1).2.windows).getD s.windows := by
  rcases s.reached_cases P req with
    ⟨h, parameters, provided, operation, hsome, -, -, -, -, hwindows⟩ |
      ⟨hnone, hsame | ⟨d, hsolve⟩⟩
  · rw [hsome, hwindows]
    rfl
  · rw [hnone, hsame]
    rfl
  · rw [hnone, hsolve]
    exact (solve_quiet hs P req d).2

end App

/-- A key has the amount it is asked about. -/
theorem Limiter.key_amount (env : Env) (now : Time) (req : HttpRequest) (amount : ℕ)
    (limiter : Limiter) : (limiter.key env now req amount).amount = amount := by
  cases limiter <;> rfl

namespace App

/-- An operation is not limited, or its key is counted once more. -/
theorem hit_cases (P : Platform) (s : App) (req : HttpRequest) (h : Handler) :
    (s.limitKey? P req h = none ∧ s.hit P req h = (true, s)) ∨
      ∃ key, s.limitKey? P req h = some key ∧
        (s.hit P req h).1 =
          (FixedWindow.hit key.amount limitDuration s.now (s.windows key)).1 ∧
        (s.hit P req h).2.windows = Function.update s.windows key
          (some (FixedWindow.hit key.amount limitDuration s.now (s.windows key)).2) := by
  unfold hit limitKey?
  cases h.limit with
  | none => exact Or.inl ⟨rfl, rfl⟩
  | some limit =>
    refine Or.inr ⟨limit.1.key P.env s.now req limit.2, rfl, ?_⟩
    rw [Limiter.key_amount]
    exact ⟨rfl, rfl⟩

/-- **One step of a run**: what is let through under a key, and what becomes of its window. -/
theorem step_served (hs : s.backend.Sound) (P : Platform) (key : LimitKey) (e : AppEvent) :
    (s.served? P e).toList.countP (fun call => decide (call.1 = some key)) =
        FixedWindow.admitted key.amount limitDuration (s.windows key) (s.hit? P key e).toList ∧
      (s.after P e).windows key =
        FixedWindow.after key.amount limitDuration (s.windows key) (s.hit? P key e).toList := by
  cases e with
  | http req =>
    have hafter : (s.after P (.http req)).windows = (s.handle P req).2.windows := rfl
    rw [hafter, windows_handle hs]
    dsimp only [served?, hit?]
    cases s.reached? P req with
    | none => exact ⟨rfl, rfl⟩
    | some r =>
      obtain ⟨hnow, hwindows⟩ := solve_quiet hs P req r.1.dependency
      dsimp only [Option.bind_some, Option.map_some, Option.getD_some]
      rcases hit_cases P (s.solve P req r.1.dependency).2 req r.1 with
        ⟨hnone, hhit⟩ | ⟨key', hkey', hadmitted, hwindow⟩
      · simp only [hnone, hhit, hwindows]
        exact ⟨rfl, rfl⟩
      · simp only [hkey', hadmitted, hwindow, hnow, hwindows]
        by_cases hkey : key' = key
        · subst hkey
          rw [if_pos rfl]
          simp only [Function.update_self, Option.toList_some, FixedWindow.after_cons,
            FixedWindow.after_nil, FixedWindow.admitted_cons, FixedWindow.admitted_nil,
            Nat.add_zero, and_true]
          cases (FixedWindow.hit key'.amount limitDuration s.now (s.windows key')).1 with
          | true => simp
          | false => simp
        · have hne : ¬ some key' = some key := by
            intro h
            exact hkey (Option.some.inj h)
          rw [if_neg hne, Function.update_of_ne (Ne.symm hkey)]
          refine ⟨?_, rfl⟩
          split
          · simp [hkey]
          · rfl
  | _ => exact ⟨rfl, rfl⟩

/-- **What a run lets through under a key is what its window admits.** -/
theorem countP_served (hs : s.backend.Sound) (P : Platform) (key : LimitKey)
    (events : List AppEvent) :
    (s.served P events).countP (fun call => decide (call.1 = some key)) =
      FixedWindow.admitted key.amount limitDuration (s.windows key) (s.hits P key events) := by
  induction events generalizing s with
  | nil => rfl
  | cons e events ih =>
    obtain ⟨hcount, hwindow⟩ := step_served hs P key e
    change ((s.served? P e).toList ++ (s.after P e).served P events).countP _ =
      FixedWindow.admitted _ _ _ ((s.hit? P key e).toList ++ (s.after P e).hits P key events)
    rw [List.countP_append, FixedWindow.admitted_append, hcount, ih (sound_after hs P e), hwindow]

/-- What a window admits in a run of less than `k` minutes. -/
theorem admitted_hits_le (hs : s.backend.Sound) (key : LimitKey) {events : List AppEvent} {k : ℕ}
    (hend : (s.run P events).now < s.now + k * limitDuration) :
    FixedWindow.admitted key.amount limitDuration (s.windows key) (s.hits P key events) ≤
        key.amount * (k + 1) ∧
      (s.windows key = none →
        FixedWindow.admitted key.amount limitDuration (s.windows key) (s.hits P key events) ≤
          key.amount * k) := by
  obtain ⟨hsorted, hlast⟩ := hits_sorted hs P key events
  apply FixedWindow.admitted_le hsorted
  intro t ht
  exact lt_of_le_of_lt (hlast t ht) hend

end App

/-- **No key is let through more often than its amount in each minute**, and once more for the
window that is open at the start: in a run of less than `k` minutes from any sound state, the
calls of limited operations under one key are `k + 1` amounts at most, and `k` if its window is
not open. -/
theorem served_le (P : Platform) (s : App) (hs : s.backend.Sound) (key : LimitKey)
    (events : List AppEvent) (k : ℕ) (hend : (s.run P events).now < s.now + k * limitDuration) :
    (s.served P events).countP (fun call => decide (call.1 = some key)) ≤ key.amount * (k + 1) ∧
      (s.windows key = none →
        (s.served P events).countP (fun call => decide (call.1 = some key)) ≤ key.amount * k) := by
  rw [App.countP_served hs P key events]
  exact App.admitted_hits_le hs key hend

/-- Six logins from one address: the sixth is not let through. -/
theorem served_logins :
    (App.concrete.served .concrete (List.replicate 6 (.http loginPrincipal))).length = 5 ∧
      (App.concrete.served .concrete (List.replicate 6 (.http loginPrincipal))).countP
        (fun call => decide (call.1 = some ⟨"10.0.0.1", ["auth", "login"], 5⟩)) ≤ 5 * 1 :=
  ⟨by decide +kernel,
    (served_le .concrete .concrete
      ⟨App.concrete_seeded.sound, App.concrete_seeded.world.detailsByRole⟩
      ⟨"10.0.0.1", ["auth", "login"], 5⟩ (List.replicate 6 (.http loginPrincipal)) 1
      (by decide +kernel)).2 rfl⟩

/-! ### Attempts at a code -/

/-- The call is an attempt at the code of an email change of the user. -/
def Operation.guesses (u : UserId) : Operation → Bool
  | .user (.confirmEmailChange id _) => decide (id = u)
  | _ => false

/-- The key such attempts are counted under. -/
def guessKey (identifier : String) : LimitKey :=
  ⟨identifier, ["users", "me", "credentials", "confirm-email"], 5⟩

/-- Only `confirm_email_change` tries a code. -/
theorem Handler.eq_confirmEmailChange {now : Time} {parameters : List String}
    {provided : h.dependency.Provides} {u : UserId}
    (hop : h.operation P now req parameters provided = .ok operation)
    (hguesses : operation.guesses u = true) : h = .confirmEmailChange := by
  cases h with
  | confirmEmailChange => rfl
  | liveness | readiness | logout | getMyProfile | getMyStudentProfile =>
    cases hop
    cases hguesses
  | refreshToken =>
    unfold Handler.operation at hop
    dsimp only at hop
    split at hop
    · cases hop
      cases hguesses
    · cases hop
      cases hguesses
  | updateUserCredentials | updateUser | getStudentsAdmin | getStudentsDirector | updateSubject
  | updateGroup =>
    obtain ⟨_, _, hfirst, -, rfl⟩ := Validated.seq_eq_ok.mp hop
    obtain ⟨_, -, rfl⟩ := Validated.map_eq_ok.mp hfirst
    cases hguesses
  | _ =>
    obtain ⟨_, -, rfl⟩ := Validated.map_eq_ok.mp hop
    cases hguesses

/-- The one path of `confirm_email_change`. -/
theorem path_of_confirmEmailChange {method : Method} {path parameters : List String}
    (hrouted : Router.dispatch routes method path = .found .confirmEmailChange parameters) :
    path = ["users", "me", "credentials", "confirm-email"] := by
  obtain ⟨r, hr, hhandler, -, hfill⟩ := Router.exists_of_dispatch hrouted
  have htemplate : ∀ r ∈ routes, r.handler = .confirmEmailChange →
      r.template = [.literal "users", .literal "me", .literal "credentials",
        .literal "confirm-email"] := by decide +kernel
  rw [htemplate r hr hhandler] at hfill
  cases parameters with
  | nil => exact (Option.some.inj hfill).symm
  | cons p parameters => cases hfill

/-- A token that is accepted identifies its user to the limiter, if the limiter sees it. -/
theorem getUserIdentifier_of_bearer {env : Env} {now : Time} {token : String} {u : UserId}
    {version : ℕ} {role : Option UserRole} (hbearer : bearerOf req.authorization = some token)
    (hsubject : accessTokenSubject env now token = .ok (u, version, role)) :
    getUserIdentifier env now req = "user:" ++ toString u := by
  obtain ⟨claims, hdecode, hexp, htype, hsub, -, -⟩ := accessTokenSubject_eq_ok.mp hsubject
  have hok : decodeAccessToken env now token = .ok claims :=
    decodeAccessToken_eq_ok.mpr ⟨hdecode, hexp, htype⟩
  unfold getUserIdentifier
  simp only [hbearer, hok, hsub]

/-- In the usual spelling, with one blank after `Bearer`, the limiter reads the guard's token. -/
theorem bearerOf_of_header {bearer : BearerScheme} {token : String}
    (htoken : ∀ c ∈ token.toList, isWordChar c = true ∨ c = '-' ∨ c = '.')
    (hheader : req.authorization = some ("Bearer " ++ token)) :
    bearer.token req = some token ∧ bearerOf req.authorization = some token := by
  have hlist : ("Bearer " ++ token).toList = "Bearer ".toList ++ token.toList :=
    String.toList_append
  constructor
  · have hblank : ∀ c ∈ "Bearer".toList, c ≠ ' ' := by
      rintro c hc rfl
      exact absurd hc (by decide)
    have hsplit : bearer.split ("Bearer " ++ token) = ("Bearer", token) :=
      bearer.split_token "Bearer" token hblank htoken
    have hne : "Bearer " ++ token ≠ "" := by
      intro h
      have := congrArg String.toList h
      rw [hlist] at this
      cases this
    have hlower : "Bearer".toLower = "bearer" := by decide +kernel
    rw [BearerScheme.token, hheader, Option.bind_some, if_neg hne, hsplit]
    exact if_pos hlower
  · have hdrop : ("Bearer ".toList ++ token.toList).drop 7 = token.toList := rfl
    rw [bearerOf, hheader, Option.bind_some, hlist, hdrop, String.ofList_toList]
    rfl

/-- A text that is no token identifies nobody to the limiter. -/
theorem getUserIdentifier_of_unread {env : Env} {now : Time}
    (h : ∀ text, bearerOf req.authorization = some text → env.jose.decode text = none) :
    getUserIdentifier env now req = req.remoteAddress := by
  unfold getUserIdentifier
  cases hbearer : bearerOf req.authorization with
  | none => rfl
  | some text =>
    dsimp only
    cases hdecode : decodeAccessToken env now text with
    | error e => rfl
    | ok claims =>
      obtain ⟨hclaims, -⟩ := decodeAccessToken_eq_ok.mp hdecode
      cases hclaims.symm.trans (h text hbearer)

/-- An attempt is counted for its user if the limiter reads the guard's token, and for the address
it comes from if what the limiter reads is no token. -/
theorem App.Performs.guessKey (hs : s.backend.Sound) {provided : h.dependency.Provides}
    {u : UserId} (hp : s.Performs P req h provided operation s')
    (hguesses : operation.guesses u = true) :
    ∃ identifier, (s.solve P req h.dependency).2.limitKey? P req h = some (guessKey identifier) ∧
      ((∀ token, P.bearer.token req = some token → bearerOf req.authorization = some token) →
        identifier = "user:" ++ toString u) ∧
      ((∀ text, bearerOf req.authorization = some text → P.env.jose.decode text = none) →
        identifier = req.remoteAddress) := by
  have hcaller : operation.caller? = some u := by
    cases operation with
    | user r =>
      cases r with
      | confirmEmailChange id r => exact congrArg some (of_decide_eq_true hguesses)
      | _ => cases hguesses
    | _ => cases hguesses
  obtain ⟨user, huser, hid⟩ := hp.caller hcaller
  obtain ⟨token, acc, htoken, hsubject, -, -⟩ := (App.currentUser_ok_iff hs).mp huser
  obtain ⟨parameters, hrouted, hop⟩ := hp.routed
  have hnow : (s.solve P req h.dependency).2.now = s.now :=
    (App.solve_quiet hs P req h.dependency).1
  obtain rfl := Handler.eq_confirmEmailChange hop hguesses
  refine ⟨getUserIdentifier P.env s.now req, ?_, ?_, ?_⟩
  · have hpath := path_of_confirmEmailChange hrouted
    change some (Limiter.key P.env (s.solve P req Handler.confirmEmailChange.dependency).2.now
      req 5 .user) = _
    rw [hnow]
    unfold Limiter.key SmsLite.guessKey
    dsimp only
    rw [hpath]
  · intro hspelled
    rw [getUserIdentifier_of_bearer (hspelled token htoken) hsubject, hid]
  · exact getUserIdentifier_of_unread

/-- **The attempts at the code of a user.**  In the header of each request the limiter reads the
guard's token, or it reads nothing that decodes and counts the request for its address; then no
more than five attempts a minute are made for the user, and five more for each address of the
second kind. -/
theorem guesses_le (P : Platform) (s : App) (hs : s.backend.Sound) (u : UserId)
    (addresses : List String) (events : List AppEvent) (k : ℕ)
    (hend : (s.run P events).now < s.now + k * limitDuration)
    (hspelled : ∀ req, AppEvent.http req ∈ events →
      (∀ token, P.bearer.token req = some token → bearerOf req.authorization = some token) ∨
        (∀ text, bearerOf req.authorization = some text → P.env.jose.decode text = none) ∧
          req.remoteAddress ∈ addresses) :
    (s.served P events).countP (fun call => call.2.guesses u) ≤
      5 * (k + 1) * (addresses.length + 1) := by
  have hlength : (guessKey ("user:" ++ toString u) :: addresses.map guessKey).length =
      addresses.length + 1 := by simp
  rw [← hlength]
  apply FixedWindow.countP_le_mul
  · intro call hcall hguesses
    obtain ⟨pre, e, post, rfl, hserved⟩ := Run.mem_observe hcall
    cases e with
    | http req =>
      have hsound : (s.run P pre).backend.Sound := App.sound_run hs P pre
      obtain ⟨h, provided, s', hp, hkey⟩ := App.served?_eq_some_iff.mp hserved
      obtain ⟨identifier, hkey', huser, haddress⟩ := hp.guessKey hsound hguesses
      refine ⟨guessKey identifier, ?_, hkey.symm.trans hkey'⟩
      rcases hspelled req (by simp) with hsame | ⟨hnone, hmem⟩
      · rw [huser hsame]
        exact List.mem_cons_self
      · rw [haddress hnone]
        exact List.mem_cons_of_mem _ (List.mem_map_of_mem hmem)
    | _ => cases hserved
  · intro key hkey
    have hamount : key.amount = 5 := by
      rcases List.mem_cons.mp hkey with rfl | hkey
      · rfl
      · obtain ⟨address, -, rfl⟩ := List.mem_map.mp hkey
        rfl
    have hle := (App.admitted_hits_le hs key hend).1
    rw [← App.countP_served hs P key events, hamount] at hle
    exact hle

/-- A platform that reads the body of an attempt as its code. -/
def guessPlatform : Platform :=
  { Platform.concrete with
    isJson := fun _ => true
    confirmEmailChange := fun body => .ok { code := body } }

/-- The principal tries a code; the scheme of her header is spelled as given. -/
def guessPrincipal (scheme : String) : HttpRequest where
  method := .post
  path := ["users", "me", "credentials", "confirm-email"]
  query := ""
  authorization := some (scheme ++ " " ++ tokensPrincipal.accessToken)
  refreshToken := none
  refreshTokenFamily := none
  body := "123456"
  remoteAddress := "10.0.0.1"

/-- Six attempts for the user and six for her address: three under another spelling of the scheme,
and three with a second blank before the token. -/
def guessesPrincipal : List AppEvent :=
  .http loginPrincipal :: List.replicate 6 (.http (guessPrincipal "Bearer")) ++
    (List.replicate 3 (.http (guessPrincipal "bearer")) ++
      List.replicate 3 (.http (guessPrincipal "Bearer ")))

/-- Ten of the twelve are made, five under each key. -/
theorem guesses_principal :
    (App.concrete.served guessPlatform guessesPrincipal).countP
        (fun call => call.2.guesses 1) = 10 ∧
      (App.concrete.served guessPlatform guessesPrincipal).countP (fun call => call.2.guesses 1) ≤
        5 * (1 + 1) * (["10.0.0.1"].length + 1) := by
  refine ⟨by decide +kernel, guesses_le guessPlatform App.concrete
    ⟨App.concrete_seeded.sound, App.concrete_seeded.world.detailsByRole⟩ 1 ["10.0.0.1"]
    guessesPrincipal 1 (by decide +kernel) ?_⟩
  intro req hreq
  rcases List.mem_append.mp hreq with hreq | hreq
  · left
    rcases List.mem_cons.mp hreq with heq | hreq
    · cases heq
      intro token htoken
      have hnone : guessPlatform.bearer.token loginPrincipal = none := by decide +kernel
      rw [hnone] at htoken
      cases htoken
    · cases List.eq_of_mem_replicate hreq
      intro token htoken
      rw [← htoken]
      decide +kernel
  · right
    have hunread : ∀ scheme ∈ ["bearer", "Bearer "], ∀ text,
        bearerOf (guessPrincipal scheme).authorization = some text →
          guessPlatform.env.jose.decode text = none := by
      intro scheme hscheme text htext
      have hread : (bearerOf (guessPrincipal scheme).authorization).all
          (fun text => (guessPlatform.env.jose.decode text).isNone) = true := by
        rcases List.mem_pair.mp hscheme with rfl | rfl
        · decide +kernel
        · decide +kernel
      rw [htext] at hread
      exact Option.isNone_iff_eq_none.mp hread
    rcases List.mem_append.mp hreq with hreq | hreq
    · cases List.eq_of_mem_replicate hreq
      exact ⟨hunread _ (by simp), List.mem_cons_self⟩
    · cases List.eq_of_mem_replicate hreq
      exact ⟨hunread _ (by simp), List.mem_cons_self⟩

end SmsLite
