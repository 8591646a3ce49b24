import Holabrain.Cloud.Auth

/-!
# Calls whose logins succeed

Every login is answered by a token and no credentials are refused; other clients and other
requests may do anything to the session meanwhile.  A call then fails with an unnamed
authentication error exactly if the cloud refused its retry that way.
-/

namespace Holabrain

/-- A send has failed. -/
def AuthEvent.IsFailure : AuthEvent → Prop
  | .failed .. => True
  | _ => False

namespace Auth

/-- A reply that `async_login` takes a token from. -/
def LogsIn (safe : String) (reply : HttpReply) : Prop :=
  ∃ data, Transport.send safe reply = .ok data ∧
    ((dataObject data).get "accessToken").truthy = true

/-- What runs meanwhile has its own credentials in mind and its own history. -/
structure Meanwhile (s s' : AuthState) : Prop where
  config : s'.config = s.config
  log : s'.log = s.log

/-- Logins succeed, credentials are not refused, and nothing else is promised. -/
def willing : Environment AuthState AuthOp AuthAnswer
  | s, .post _ path _ _, reply, s' => Meanwhile s s' ∧
      (path = epLogin → LogsIn (s.config.redactPath path) reply) ∧
      ∀ m, Transport.send (s.config.redactPath path) reply ≠
        .error (.dollin (.credentialsRejectedError m))
  | s, _, _, s' => Meanwhile s s'

/-- The path of the call was refused on the retry for a reason that has no name. -/
def RetryRefused (paths : String → Prop) (log : List AuthEvent) : Prop :=
  ∃ path m, paths path ∧ .failed .retry path (.dollin (.authError m)) ∈ log

/-! ## Tokens -/

/-- The session may be another one; no send of a request has failed. -/
structure Renewed (s s' : AuthState) : Prop where
  config : s'.config = s.config
  log : ∃ new, s'.log = s.log ++ new ∧ ∀ event ∈ new, ¬ event.IsFailure

section Tokens

variable {s s' s'' : AuthState}

theorem Renewed.refl (s : AuthState) : Renewed s s := ⟨rfl, [], by simp, by simp⟩

theorem Renewed.trans (h : Renewed s s') (h' : Renewed s' s'') : Renewed s s'' := by
  obtain ⟨new, hlog, hnew⟩ := h.log
  obtain ⟨new', hlog', hnew'⟩ := h'.log
  refine ⟨h'.config.trans h.config, new ++ new', by rw [hlog', hlog, List.append_assoc], ?_⟩
  intro event hmem
  exact (List.mem_append.mp hmem).elim (hnew event) (hnew' event)

theorem Renewed.of_eq (hconfig : s'.config = s.config) (hlog : s'.log = s.log) : Renewed s s' :=
  ⟨hconfig, [], by simp [hlog], by simp⟩

theorem Meanwhile.renewed (h : Meanwhile s s') : Renewed s s' := .of_eq h.config h.log

theorem Renewed.note (s : AuthState) (event : AuthEvent) (hevent : ¬ event.IsFailure) :
    Renewed s (s.note event) := ⟨rfl, [event], rfl, by simpa using hevent⟩

theorem Renewed.hasCredentials (h : Renewed s s') (hcred : s.HasCredentials) :
    s'.HasCredentials := by
  rwa [AuthState.HasCredentials, h.config]

/-- A login succeeds. -/
theorem wp_asyncLogin_willing {s₀ : AuthState} (hcred : s.HasCredentials) (hs : Renewed s₀ s) :
    Coro.wp willing asyncLogin
      (fun result s' => (∃ token, result = .ok token) ∧ Renewed s₀ s') s := by
  simp only [asyncLogin, Coro.wp_bind, Coro.wp_gets, Coro.wp_ite, Coro.wp_throw, Coro.wp_modify,
    Coro.wp_ofExcept, transportPost, storeSave, Coro.wp_perform]
  rw [if_neg fun h => h.elim hcred.1 hcred.2]
  intro reply s₁ hanswer
  obtain ⟨hsent, hlogin, _⟩ := hanswer
  obtain ⟨data, hdata, htoken⟩ := hlogin rfl
  have hsend : Transport.send (s.config.redactPath epLogin) reply = .ok data := hdata
  rw [hsend]
  dsimp only
  rw [htoken, if_neg (by decide)]
  intro _ s₂ hsaved
  refine ⟨⟨_, rfl⟩, hs.trans ((Renewed.note s (.login s.clock) id).trans
    (hsent.renewed.trans (Renewed.trans ?_ hsaved.renewed)))⟩
  apply Renewed.trans _ (.note _ _ id)
  exact .of_eq rfl rfl

theorem wp_asyncGetToken_willing (hcred : s.HasCredentials) :
    Coro.wp willing asyncGetToken
      (fun result s' => (∃ token, result = .ok token) ∧ Renewed s s') s := by
  simp only [asyncGetToken, Coro.wp_bind, Coro.wp_gets, Coro.wp_ite, Coro.wp_modify, Coro.wp_pure,
    storeLoad, Coro.wp_perform]
  split
  · exact ⟨⟨_, rfl⟩, .refl s⟩
  intro session s₁ hloaded
  have hs₁ : Renewed s s₁ := Meanwhile.renewed hloaded
  split
  · exact ⟨⟨_, rfl⟩, hs₁.trans (.of_eq rfl rfl)⟩
  · exact wp_asyncLogin_willing (hs₁.hasCredentials hcred)
      (hs₁.trans (.note s₁ (.noToken s₁.clock) id))

theorem wp_asyncRelogin_willing {s₀ : AuthState} (hcred : s.HasCredentials) (hs : Renewed s₀ s) :
    Coro.wp willing asyncRelogin
      (fun result s' => (∃ token, result = .ok token) ∧ Renewed s₀ s') s := by
  simp only [asyncRelogin, Coro.wp_bind, Coro.wp_modify, storeClear, Coro.wp_perform]
  intro _ s₁ hcleared
  have hdropped : Renewed s (s.setToken none) := .of_eq rfl rfl
  have hs₁ : Renewed s s₁ := hdropped.trans (Meanwhile.renewed hcleared)
  exact wp_asyncLogin_willing (hs₁.hasCredentials hcred) (hs.trans hs₁)

/-- A recovery succeeds or waits for the cool-down. -/
theorem wp_asyncRecover_willing {s₀ : AuthState} (hcred : s.HasCredentials) (hs : Renewed s₀ s) :
    Coro.wp willing asyncRecover (fun result s' => Renewed s₀ s' ∧
      ∀ exn, result = .error exn → ∃ cooldown waited,
        exn = .dollin (.sessionTakeoverError cooldown waited)) s := by
  simp only [asyncRecover, Coro.wp_bind, Coro.wp_modify, Coro.wp_modifyGet, storeClear,
    Coro.wp_perform, Coro.wp_gets, id_eq]
  intro _ s₁ hcleared
  have hdropped : Renewed s (s.noteEviction.2.setToken none) :=
    ⟨rfl, [.eviction s.clock], rfl, by simp [AuthEvent.IsFailure]⟩
  have hs₁ : Renewed s s₁ := hdropped.trans (Meanwhile.renewed hcleared)
  have hlogin : Coro.wp willing asyncLogin (fun result s' => Renewed s₀ s' ∧
      ∀ exn, result = .error exn → ∃ cooldown waited,
        exn = .dollin (.sessionTakeoverError cooldown waited)) s₁ := by
    apply Coro.wp_mono _ (wp_asyncLogin_willing (hs₁.hasCredentials hcred) (hs.trans hs₁))
    intro _ s₂ hloggedIn
    obtain ⟨⟨token, rfl⟩, hs₂⟩ := hloggedIn
    exact ⟨hs₂, by simp⟩
  cases s₁.lastLogin with
  | none => exact hlogin
  | some lastLogin =>
      simp only [Coro.wp_ite, Coro.wp_bind, Coro.wp_modify, Coro.wp_throw]
      split
      · refine ⟨(hs.trans hs₁).trans (.note s₁ _ id), ?_⟩
        intro _ hthrown
        cases hthrown
        exact ⟨_, _, rfl⟩
      · exact hlogin

end Tokens

/-! ## Calls -/

/-- What a send raises here: neither a takeover nor refused credentials, and nothing of Home
Assistant's. -/
def OfTransport : Exn → Prop
  | .dollin err => err.isSessionTakeover = false ∧ err.isCredentialsRejected = false
  | .builtin _ => True
  | _ => False

/-- What a call raises here: a takeover as well. -/
def OfCall : Exn → Prop
  | .dollin err => err.isCredentialsRejected = false
  | .builtin _ => True
  | _ => False

theorem OfTransport.ofCall {exn : Exn} (h : OfTransport exn) : OfCall exn := by
  cases exn with
  | dollin err => exact h.2
  | _ => exact h

theorem ofTransport_of_send {safe : String} {reply : HttpReply} {exn : Exn}
    (hsend : Transport.send safe reply = .error exn)
    (hcred : ∀ m, exn ≠ .dollin (.credentialsRejectedError m)) : OfTransport exn := by
  obtain ⟨err, rfl⟩ | ⟨name, rfl⟩ := Transport.send_error hsend
  · cases err with
    | credentialsRejectedError m => exact absurd rfl (hcred m)
    | sessionTakeoverError cooldown waited =>
        exact absurd hsend (Transport.send_ne_sessionTakeover safe reply cooldown waited)
    | _ => exact ⟨rfl, rfl⟩
  · trivial

/-- One send leaves a trace exactly if it fails. -/
theorem wp_request_willing (attempt : Attempt) (scheme : Scheme) (path : String)
    (payload : Json) (token : Option String) (s : AuthState) :
    Coro.wp willing (request attempt scheme path payload token)
      (fun result s' => s'.config = s.config ∧ match result with
        | .ok _ => s'.log = s.log
        | .error exn => s'.log = s.log ++ [.failed attempt path exn] ∧ OfTransport exn) s := by
  simp only [request, answered, transportPost, Coro.wp_bind, Coro.wp_perform, Coro.wp_gets]
  intro reply s₁ hanswer
  obtain ⟨hsent, _, hcred⟩ := hanswer
  rw [hsent.config]
  cases hsend : Transport.send (s.config.redactPath path) reply with
  | ok data => exact ⟨hsent.config, hsent.log⟩
  | error exn =>
      have hexn : OfTransport exn := by
        apply ofTransport_of_send hsend
        intro m hrejected
        apply hcred m
        rw [hsend, hrejected]
      exact ⟨hsent.config, by rw [AuthState.note_log, hsent.log], hexn⟩

/-- What a whole call leaves behind. -/
structure CallOutcome (path : String) (s : AuthState) (result : Except Exn Members)
    (s' : AuthState) : Prop where
  config : s'.config = s.config
  log : ∃ new, s'.log = s.log ++ new ∧
    (∀ attempt other exn, .failed attempt other exn ∈ new → other = path) ∧
    ((∃ m, result = .error (.dollin (.authError m))) ↔ RetryRefused (· = path) new)
  raised : ∀ exn, result = .error exn → OfCall exn

/-- What happened before, short of a retry, does not change the outcome. -/
theorem CallOutcome.after {path : String} {s s₁ s' : AuthState} {result : Except Exn Members}
    {before : List AuthEvent} (h : CallOutcome path s₁ result s')
    (hconfig : s₁.config = s.config) (hlog : s₁.log = s.log ++ before)
    (hbefore : ∀ attempt other exn, .failed attempt other exn ∈ before →
      attempt = .first ∧ other = path) :
    CallOutcome path s result s' := by
  obtain ⟨new, hnew, hpath, hiff⟩ := h.log
  refine ⟨h.config.trans hconfig, ⟨before ++ new, ?_, ?_, ?_⟩, h.raised⟩
  · rw [hnew, hlog, List.append_assoc]
  · intro attempt other exn hmem
    apply (List.mem_append.mp hmem).elim
    · exact fun hold => (hbefore attempt other exn hold).2
    · exact hpath attempt other exn
  · rw [hiff]
    constructor
    · intro hrefused
      obtain ⟨other, m, hother, hmem⟩ := hrefused
      exact ⟨other, m, hother, List.mem_append_right _ hmem⟩
    · intro hrefused
      obtain ⟨other, m, hother, hmem⟩ := hrefused
      apply (List.mem_append.mp hmem).elim
      · intro hold
        exact absurd (hbefore _ _ _ hold).1 (by decide)
      · exact fun hlate => ⟨other, m, hother, hlate⟩

theorem CallOutcome.after_renewed {path : String} {s s₁ s' : AuthState}
    {result : Except Exn Members} (h : CallOutcome path s₁ result s') (hs : Renewed s s₁) :
    CallOutcome path s result s' := by
  obtain ⟨before, hlog, hbefore⟩ := hs.log
  exact h.after hs.config hlog fun _ _ _ hmem => absurd trivial (hbefore _ hmem)

/-- A call that ends without a trace. -/
theorem CallOutcome.of_eq {path : String} {s s' : AuthState} {result : Except Exn Members}
    (hconfig : s'.config = s.config) (hlog : s'.log = s.log)
    (hnamed : ∀ m, result ≠ .error (.dollin (.authError m)))
    (hraised : ∀ exn, result = .error exn → OfCall exn) : CallOutcome path s result s' := by
  refine ⟨hconfig, ⟨[], by simp [hlog], by simp, ?_⟩, hraised⟩
  simp [RetryRefused, hnamed]

section Calls

variable {scheme : Scheme} {path : String} {payload : Json} {s : AuthState}

/-- A retry after a recovery. -/
theorem wp_retry_willing {p : AuthM (Option String)}
    (hp : Coro.wp willing p (fun result s' => Renewed s s' ∧ ∀ exn, result = .error exn →
      ∃ cooldown waited, exn = .dollin (.sessionTakeoverError cooldown waited)) s) :
    Coro.wp willing (do
      let token ← p
      request .retry scheme path payload token) (CallOutcome path s) s := by
  rw [Coro.wp_bind]
  apply Coro.wp_mono _ hp
  intro result s₁ hrecovered
  obtain ⟨hs₁, htakeover⟩ := hrecovered
  cases result with
  | error exn =>
      obtain ⟨cooldown, waited, rfl⟩ := htakeover exn rfl
      apply CallOutcome.after_renewed _ hs₁
      apply CallOutcome.of_eq rfl rfl
      · intro m herror
        cases herror
      · intro exn herror
        cases herror
        rfl
  | ok token =>
      apply Coro.wp_mono _ (wp_request_willing .retry scheme path payload token s₁)
      intro result s₂ hsent
      obtain ⟨hconfig, hresult⟩ := hsent
      apply CallOutcome.after_renewed _ hs₁
      cases result with
      | ok data =>
          apply CallOutcome.of_eq hconfig hresult
          · intro m herror
            cases herror
          · intro exn herror
            cases herror
      | error exn =>
          refine ⟨hconfig, ⟨_, hresult.1, ?_, ?_⟩, ?_⟩
          · intro attempt other exn' hmem
            cases List.mem_singleton.mp hmem
            rfl
          · constructor
            · intro hnamed
              obtain ⟨m, herror⟩ := hnamed
              cases herror
              exact ⟨path, m, rfl, List.mem_singleton_self _⟩
            · intro hrefused
              obtain ⟨other, m, hother, hmem⟩ := hrefused
              cases List.mem_singleton.mp hmem
              exact ⟨m, rfl⟩
          · intro exn' herror
            cases herror
            exact hresult.2.ofCall

theorem wp_recoverAndRetry_willing (hcred : s.HasCredentials) {exn : Exn}
    (hexn : OfTransport exn) :
    Coro.wp willing (recoverAndRetry scheme path payload exn) (CallOutcome path s) s := by
  have hrecover : ∀ {s₁}, Renewed s s₁ → Coro.wp willing asyncRecover (fun result s' =>
      Renewed s₁ s' ∧ ∀ exn, result = .error exn →
        ∃ cooldown waited, exn = .dollin (.sessionTakeoverError cooldown waited)) s₁ :=
    fun hs₁ => wp_asyncRecover_willing (hs₁.hasCredentials hcred) (.refl _)
  have hrelogin : ∀ {s₁}, Renewed s s₁ → Coro.wp willing asyncRelogin (fun result s' =>
      Renewed s₁ s' ∧ ∀ exn, result = .error exn →
        ∃ cooldown waited, exn = .dollin (.sessionTakeoverError cooldown waited)) s₁ := by
    intro s₁ hs₁
    apply Coro.wp_mono _ (wp_asyncRelogin_willing (hs₁.hasCredentials hcred) (.refl s₁))
    intro result s₂ hlogin
    obtain ⟨⟨token, rfl⟩, hs₂⟩ := hlogin
    refine ⟨hs₂, fun exn herror => ?_⟩
    cases herror
  cases exn with
  | dollin err =>
      simp only [recoverAndRetry, hexn.2, Bool.false_eq_true, if_false]
      rw [Coro.wp_ite]
      split
      · have hnoted : Renewed s s.expiryWithinBudget.2 :=
          ⟨rfl, [.expiry s.clock], rfl, by simp [AuthEvent.IsFailure]⟩
        rw [Coro.wp_bind, Coro.wp_modifyGet]
        apply Coro.wp_mono (fun _ _ hend => CallOutcome.after_renewed hend hnoted)
        split
        · exact wp_retry_willing (hrelogin hnoted)
        · exact wp_retry_willing (hrecover hnoted)
      · rw [Coro.wp_ite]
        split
        · exact wp_retry_willing (hrecover (.refl s))
        next hauth =>
          apply CallOutcome.of_eq rfl rfl
          · intro m herror
            cases herror
            exact hauth rfl
          · intro exn herror
            cases herror
            exact hexn.2
  | builtin name =>
      apply CallOutcome.of_eq rfl rfl
      · intro m herror
        cases herror
      · intro exn herror
        cases herror
        trivial
  | _ => exact hexn.elim

/-- A call fails with an unnamed authentication error exactly if its retry was refused. -/
theorem wp_authenticated_willing (hcred : s.HasCredentials) :
    Coro.wp willing (authenticated scheme path payload) (CallOutcome path s) s := by
  simp only [authenticated, authenticatedWith, Coro.wp_bind, Coro.wp_tryCatch]
  apply Coro.wp_mono _ (wp_asyncGetToken_willing hcred)
  intro result s₁ hfound
  obtain ⟨⟨token, rfl⟩, hs₁⟩ := hfound
  apply Coro.wp_mono _ (wp_request_willing .first scheme path payload token s₁)
  intro result s₂ hsent
  obtain ⟨hconfig, hresult⟩ := hsent
  cases result with
  | ok data =>
      apply CallOutcome.after_renewed _ hs₁
      apply CallOutcome.of_eq hconfig hresult
      · intro m herror
        cases herror
      · intro exn herror
        cases herror
  | error exn =>
      have hcred₂ : s₂.HasCredentials := by
        rw [AuthState.HasCredentials, hconfig]
        exact hs₁.hasCredentials hcred
      apply Coro.wp_mono _ (wp_recoverAndRetry_willing hcred₂ hresult.2)
      intro result s₃ hend
      apply CallOutcome.after_renewed _ hs₁
      apply hend.after hconfig hresult.1
      intro attempt other exn' hmem
      cases List.mem_singleton.mp hmem
      exact ⟨rfl, rfl⟩

end Calls

/-! ## What a sequence of calls leaves behind -/

/-- The password is asked for exactly if one of these paths was refused on its retry. -/
structure RefusedIff (asked : Prop) (paths : String → Prop) (s s' : AuthState) : Prop where
  config : s'.config = s.config
  log : ∃ new, s'.log = s.log ++ new ∧ (asked ↔ RetryRefused paths new)

section RefusedIff

variable {asked asked' : Prop} {paths : String → Prop} {s s' s'' : AuthState}

theorem retryRefused_append {log log' : List AuthEvent} :
    RetryRefused paths (log ++ log') ↔ RetryRefused paths log ∨ RetryRefused paths log' := by
  simp only [RetryRefused, List.mem_append, and_or_left, exists_or]

theorem RefusedIff.hasCredentials (h : RefusedIff asked paths s s') (hcred : s.HasCredentials) :
    s'.HasCredentials := by
  rwa [AuthState.HasCredentials, h.config]

theorem RefusedIff.trans (h : RefusedIff False paths s s') (h' : RefusedIff asked paths s' s'') :
    RefusedIff asked paths s s'' := by
  obtain ⟨new, hlog, hnew⟩ := h.log
  obtain ⟨new', hlog', hnew'⟩ := h'.log
  refine ⟨h'.config.trans h.config, new ++ new', by rw [hlog', hlog, List.append_assoc], ?_⟩
  rw [retryRefused_append, ← hnew, false_or]
  exact hnew'

theorem RefusedIff.congr (h : RefusedIff asked paths s s') (hasked : asked' ↔ asked) :
    RefusedIff asked' paths s s' := by
  obtain ⟨new, hlog, hnew⟩ := h.log
  exact ⟨h.config, new, hlog, hasked.trans hnew⟩

theorem RefusedIff.since (h : RefusedIff asked paths s s') :
    asked ↔ RetryRefused paths (s'.log.drop s.log.length) := by
  obtain ⟨new, hlog, hnew⟩ := h.log
  rw [hlog, List.drop_left]
  exact hnew

/-- Failures on other paths do not count. -/
theorem RefusedIff.of_disjoint {failing : String → Prop} (hconfig : s'.config = s.config)
    {new : List AuthEvent} (hlog : s'.log = s.log ++ new)
    (hnew : ∀ attempt path exn, .failed attempt path exn ∈ new → failing path)
    (hdisjoint : ∀ path, failing path → ¬ paths path) : RefusedIff False paths s s' := by
  refine ⟨hconfig, new, hlog, iff_of_false id ?_⟩
  intro hrefused
  obtain ⟨path, m, hpath, hmem⟩ := hrefused
  exact hdisjoint path (hnew _ _ _ hmem) hpath

theorem Renewed.refusedIff (h : Renewed s s') : RefusedIff False paths s s' := by
  obtain ⟨new, hlog, hnew⟩ := h.log
  refine ⟨h.config, new, hlog, iff_of_false id ?_⟩
  intro hrefused
  obtain ⟨path, m, _, hmem⟩ := hrefused
  exact hnew _ hmem trivial

theorem Meanwhile.refusedIff (h : Meanwhile s s') : RefusedIff False paths s s' :=
  h.renewed.refusedIff

variable {path : String} {result : Except Exn Members}

theorem CallOutcome.refusedIff (h : CallOutcome path s result s') (hpath : paths path) :
    RefusedIff (∃ m, result = .error (.dollin (.authError m))) paths s s' := by
  obtain ⟨new, hlog, honly, hiff⟩ := h.log
  refine ⟨h.config, new, hlog, hiff.trans ?_⟩
  constructor
  · intro hrefused
    obtain ⟨other, m, hother, hmem⟩ := hrefused
    exact ⟨other, m, hother ▸ hpath, hmem⟩
  · intro hrefused
    obtain ⟨other, m, _, hmem⟩ := hrefused
    exact ⟨other, m, honly _ _ _ hmem, hmem⟩

theorem CallOutcome.unrefused (h : CallOutcome path s result s') (hpath : ¬ paths path) :
    RefusedIff False paths s s' := by
  obtain ⟨new, hlog, honly, _⟩ := h.log
  apply RefusedIff.of_disjoint h.config hlog honly
  intro other hother
  rwa [hother]

/-- The extension of a token is refused on its own path only. -/
theorem wp_asyncExtendToken_willing (hcred : s.HasCredentials) (hpaths : ¬ paths epTokenExtend) :
    Coro.wp willing asyncExtendToken (fun result s' => RefusedIff False paths s s' ∧
      ∀ exn, result = .error exn → OfCall exn) s := by
  rw [asyncExtendToken, Coro.wp_bind, oem]
  apply Coro.wp_mono _ (wp_authenticated_willing hcred)
  intro result s₁ houtcome
  have hs₁ : RefusedIff False paths s s₁ := houtcome.unrefused hpaths
  cases result with
  | error exn =>
      refine ⟨hs₁, fun exn' herror => ?_⟩
      cases herror
      exact houtcome.raised exn rfl
  | ok data =>
      simp only [Coro.wp_ite, Coro.wp_bind, Coro.wp_modify, Coro.wp_gets, storeLoad, storeSave,
        Coro.wp_perform, id_eq]
      split
      · apply Coro.wp_mono _ (wp_asyncRelogin_willing (hs₁.hasCredentials hcred) (.refl s₁))
        intro result s₂ hlogin
        obtain ⟨⟨token, rfl⟩, hs₂⟩ := hlogin
        refine ⟨hs₁.trans hs₂.refusedIff, fun exn herror => ?_⟩
        cases herror
      · intro session s₂ hloaded _ s₃ hsaved
        have hset : Renewed s₁ (s₁.setToken (some ((dataObject data).get "accessToken").pyStr)) :=
          .of_eq rfl rfl
        have hs₃ := hset.trans ((Meanwhile.renewed hloaded).trans (Meanwhile.renewed hsaved))
        refine ⟨hs₁.trans hs₃.refusedIff, fun exn herror => ?_⟩
        cases herror

end RefusedIff

end Auth

end Holabrain
