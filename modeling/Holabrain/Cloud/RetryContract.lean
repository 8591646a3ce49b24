import Holabrain.Cloud.RefusedTokens

/-!
# The retry contract of one call

An authenticated call looks a token up, sends its request, and where the token is refused
recovers once and sends the request once more.  The look-up and the recovery may each log in,
neither of them more than once, and nothing that fails after the recovery is handled.
-/

namespace Holabrain.Auth

/-! ## What a call sends -/

/-- A login: the one request that carries no token. -/
def isLogin : Exchange AuthOp AuthAnswer → Bool
  | ⟨.post scheme path _ token, _⟩ => decide (scheme = .oem ∧ path = epLogin ∧ token = some "")
  | _ => false

/-- Every other POST is the request the call is made for. -/
def isRequest : Exchange AuthOp AuthAnswer → Bool
  | ⟨.post scheme path payload token, reply⟩ => !isLogin ⟨.post scheme path payload token, reply⟩
  | _ => false

def requestsOf (trace : List (Exchange AuthOp AuthAnswer)) : List (Exchange AuthOp AuthAnswer) :=
  trace.filter isRequest

def loginsOf (trace : List (Exchange AuthOp AuthAnswer)) : List (Exchange AuthOp AuthAnswer) :=
  trace.filter isLogin

/-- A token that `async_get_token` hands out. -/
def Usable (token : Option String) : Prop := token ≠ none ∧ token ≠ some ""

/-- A token is cached or stored. -/
def HasToken (s : AuthState) : Prop :=
  Usable s.token ∨ Usable (s.store.map Session.accessToken)

/-- The cached token, the stored session and all counters are the same. -/
structure SameSession (s s' : AuthState) : Prop where
  config : s'.config = s.config
  token : s'.token = s.token
  store : s'.store = s.store
  lastLogin : s'.lastLogin = s.lastLogin
  lastEviction : s'.lastEviction = s.lastEviction
  evictions : s'.evictions = s.evictions
  expiryWindowStart : s'.expiryWindowStart = s.expiryWindowStart
  expiriesInWindow : s'.expiriesInWindow = s.expiriesInWindow

/-- One of the two ways to replace a refused token. -/
def RecoveredBy (s : AuthState) (trace : List (Exchange AuthOp AuthAnswer))
    (result : Except Exn (Option String)) (s' : AuthState) : Prop :=
  Coro.Traced cloud asyncRelogin s trace result s' ∨
    Coro.Traced cloud asyncRecover s trace result s'

/-- How often a call may have sent anything. -/
structure SendBounds (s : AuthState) (trace : List (Exchange AuthOp AuthAnswer)) : Prop where
  requests : (requestsOf trace).length ≤ 2
  logins : (loginsOf trace).length ≤ 2
  loginsWithToken : HasToken s → (loginsOf trace).length ≤ 1

/-- How a call ends. -/
structure RetryContract (scheme : Scheme) (path : String) (payload : Json) (s : AuthState)
    (trace : List (Exchange AuthOp AuthAnswer)) (result : Except Exn Members)
    (s' : AuthState) : Prop where
  /-- A second request is the last thing sent: it carries the token the recovery returned, and
  what it raises is what the call raises. -/
  retry : ∀ before x between y after, trace = before ++ x :: (between ++ y :: after) →
    isRequest x = true → isRequest y = true →
    after = [] ∧ ∃ t u token reply, RecoveredBy t between (.ok token) u ∧
      y = exchangeOf scheme path payload token reply ∧
      result = Transport.send (s.config.redactPath path) reply
  /-- Where there is none although the token was refused, the call raises what the recovery
  raised. -/
  unrecovered : ∀ before token reply recovery exn,
    trace = before ++ exchangeOf scheme path payload token reply :: recovery →
    requestsOf before = [] → isRequest (exchangeOf scheme path payload token reply) = true →
    Transport.send (s.config.redactPath path) reply = .error exn → refusesToken exn = true →
    requestsOf recovery = [] →
    ∃ t u exn', RecoveredBy t recovery (.error exn') u ∧ result = .error exn'
  /-- Credentials refused on the first request end the call there and then. -/
  credentials : ∀ before token reply after message,
    trace = before ++ exchangeOf scheme path payload token reply :: after →
    requestsOf before = [] → isRequest (exchangeOf scheme path payload token reply) = true →
    Transport.send (s.config.redactPath path) reply =
      .error (.dollin (.credentialsRejectedError message)) →
    after = [] ∧ result = .error (.dollin (.credentialsRejectedError message)) ∧
      ∃ t, Coro.Traced cloud asyncGetToken s before (.ok token) t ∧ SameSession t s'

/-! ## Logins and recoveries -/

section Sends

variable {trace trace' : List (Exchange AuthOp AuthAnswer)}

@[simp]
theorem loginsOf_nil : loginsOf [] = [] := rfl

@[simp]
theorem requestsOf_append : requestsOf (trace ++ trace') = requestsOf trace ++ requestsOf trace' :=
  List.filter_append _ _

@[simp]
theorem loginsOf_append : loginsOf (trace ++ trace') = loginsOf trace ++ loginsOf trace' :=
  List.filter_append _ _

theorem requestsOf_cons {x : Exchange AuthOp AuthAnswer} (hx : isRequest x = true) :
    requestsOf (x :: trace) = x :: requestsOf trace :=
  List.filter_cons_of_pos hx

/-- A record of two requests at most has no other than the two. -/
theorem no_further_requests {before between after : List (Exchange AuthOp AuthAnswer)}
    {x y : Exchange AuthOp AuthAnswer} (hx : isRequest x = true) (hy : isRequest y = true)
    (hle : (requestsOf (before ++ x :: (between ++ y :: after))).length ≤ 2) :
    requestsOf before = [] ∧ requestsOf between = [] := by
  rw [requestsOf_append, requestsOf_cons hx, requestsOf_append, requestsOf_cons hy] at hle
  simp only [List.length_append, List.length_cons] at hle
  exact ⟨List.length_eq_zero_iff.mp (by omega), List.length_eq_zero_iff.mp (by omega)⟩

@[simp]
theorem isLogin_login (payload : Json) (reply : HttpReply) :
    isLogin ⟨.post .oem epLogin payload (some ""), reply⟩ = true := by
  simp [isLogin]

theorem isLogin_of_usable {scheme : Scheme} {path : String} {payload : Json}
    {token : Option String} {reply : HttpReply} (htoken : Usable token) :
    isLogin (exchangeOf scheme path payload token reply) = false := by
  simp [exchangeOf, isLogin, htoken.2]

theorem isRequest_of_usable {scheme : Scheme} {path : String} {payload : Json}
    {token : Option String} {reply : HttpReply} (htoken : Usable token) :
    isRequest (exchangeOf scheme path payload token reply) = true := by
  rw [exchangeOf, isRequest, ← exchangeOf, isLogin_of_usable htoken, Bool.not_false]

end Sends

/-- What a way to a token adds to the record, and what it hands out. -/
structure Renews (n : ℕ) (new : List (Exchange AuthOp AuthAnswer))
    (result : Except Exn (Option String)) : Prop where
  requests : requestsOf new = []
  logins : (loginsOf new).length ≤ n
  usable : ∀ token, result = .ok token → Usable token

section Methods

variable {s s' : AuthState} {h trace : List (Exchange AuthOp AuthAnswer)}
  {result : Except Exn (Option String)}

theorem wpt_asyncLogin_renews (hconfig : s'.config = s.config) :
    Coro.wpt cloud asyncLogin (fun result h' t => ∃ new, h' = h ++ new ∧ Renews 1 new result ∧
      t.config = s.config) h s' := by
  apply wpt_asyncLogin
  · exact fun _ _ => ⟨[], by simp, ⟨rfl, by simp [loginsOf], by simp⟩, hconfig⟩
  · intro _ reply time exn _
    exact ⟨_, rfl, ⟨by simp [requestsOf, isRequest], by simp [loginsOf], by simp⟩, hconfig⟩
  · intro _ reply time session time' _ hnonempty _
    refine ⟨_, List.append_assoc _ _ _, ⟨by simp [requestsOf, isRequest],
      by simp [loginsOf, isLogin], fun token htoken => ?_⟩, hconfig⟩
    cases htoken
    exact ⟨by simp, fun hempty => hnonempty (Option.some.inj hempty)⟩

/-- A login once the store has been cleared. -/
theorem wpt_login_cleared (hconfig : s'.config = s.config) :
    Coro.wpt cloud asyncLogin (fun result trace t => Renews 1 trace result ∧
      t.config = s.config) [⟨.clear, ()⟩] s' := by
  apply Coro.wpt_mono _ (wpt_asyncLogin_renews hconfig)
  rintro result _ t ⟨new, rfl, hnew, hconfig⟩
  exact ⟨⟨by simpa [requestsOf, isRequest] using hnew.requests,
    by simpa [loginsOf, isLogin] using hnew.logins, hnew.usable⟩, hconfig⟩

theorem wpt_asyncRelogin_renews :
    Coro.wpt cloud asyncRelogin (fun result trace t => Renews 1 trace result ∧
      t.config = s.config) [] s := by
  simp only [asyncRelogin, Coro.wpt_bind, Coro.wpt_modify, wpt_clear]
  exact fun time _ => wpt_login_cleared rfl

theorem wpt_asyncRecover_renews :
    Coro.wpt cloud asyncRecover (fun result trace t => Renews 1 trace result ∧
      t.config = s.config) [] s := by
  apply wpt_asyncRecover
  · intro _ time deadline exn _
    exact ⟨⟨by simp [requestsOf, isRequest], by simp [loginsOf, isLogin], by simp⟩, rfl⟩
  · exact fun time _ => wpt_login_cleared rfl

theorem RecoveredBy.renews (h : RecoveredBy s trace result s') :
    Renews 1 trace result ∧ s'.config = s.config := by
  rcases h with hrelogin | hrecover
  · exact hrelogin.post wpt_asyncRelogin_renews
  · exact hrecover.post wpt_asyncRecover_renews

/-- A look-up that finds a token does not log in. -/
theorem wpt_asyncGetToken_renews :
    Coro.wpt cloud asyncGetToken (fun result trace t => Renews 1 trace result ∧
      (HasToken s → loginsOf trace = []) ∧ t.config = s.config) [] s := by
  apply wpt_asyncGetToken
  · intro hcached
    refine ⟨⟨rfl, Nat.zero_le _, fun token htoken => ?_⟩, fun _ => rfl, rfl⟩
    cases htoken
    exact hcached
  · intro _ time _ hstored
    refine ⟨⟨by simp [requestsOf, isRequest], by simp [loginsOf, isLogin], ?_⟩,
      by simp [loginsOf, isLogin], rfl⟩
    intro token htoken
    cases htoken
    exact hstored
  · intro hcached time _ hstored
    apply Coro.wpt_mono _ (wpt_asyncLogin_renews (s := s) (by rfl))
    rintro result _ t ⟨new, rfl, hnew, hconfig⟩
    refine ⟨⟨by simpa [requestsOf, isRequest] using hnew.requests,
      by simpa [loginsOf, isLogin] using hnew.logins, hnew.usable⟩, fun htoken => ?_, hconfig⟩
    exact absurd htoken (not_or.mpr ⟨hcached, hstored⟩)

/-- What a look-up that has ended has done. -/
theorem renews_of_lookup {t : AuthState}
    (hlookup : Coro.Traced cloud asyncGetToken s trace result t) :
    Renews 1 trace result ∧ (HasToken s → loginsOf trace = []) ∧ t.config = s.config := by
  have hend := hlookup.post wpt_asyncGetToken_renews
  rwa [List.nil_append] at hend

/-- Renewing the token sends no request. -/
theorem Renews.not_request {n : ℕ} {before after : List (Exchange AuthOp AuthAnswer)}
    {x : Exchange AuthOp AuthAnswer} (h : Renews n (before ++ x :: after) result) :
    ¬ isRequest x = true := by
  intro hx
  have hnone := h.requests
  rw [requestsOf_append, requestsOf_cons hx] at hnone
  exact absurd hnone (by simp)

/-! ## The shape of a call -/

/-- One send awaits once, and what it raises is what the answer says. -/
theorem traced_request {attempt : Attempt} {scheme : Scheme} {path : String} {payload : Json}
    {token : Option String} {result : Except Exn Members}
    (h : Coro.Traced cloud (request attempt scheme path payload token) s trace result s') :
    ∃ reply, trace = [exchangeOf scheme path payload token reply] ∧
      result = Transport.send (s.config.redactPath path) reply ∧ SameSession s s' := by
  have hsend : Coro.wpt cloud (request attempt scheme path payload token)
      (fun result trace s' => ∃ reply, trace = [exchangeOf scheme path payload token reply] ∧
        result = Transport.send (s.config.redactPath path) reply ∧ SameSession s s') [] s := by
    refine wpt_request fun reply time _ => ?_
    cases hsend : Transport.send (s.config.redactPath path) reply with
    | ok data => exact ⟨reply, rfl, hsend.symm, by constructor <;> rfl⟩
    | error exn => exact ⟨reply, rfl, hsend.symm, by constructor <;> rfl⟩
  exact h.post hsend

/-- A failure that refuses no token is raised again; any other leads through a recovery. -/
inductive RetryShape (scheme : Scheme) (path : String) (payload : Json) (exn : Exn)
    (s : AuthState) : List (Exchange AuthOp AuthAnswer) → Except Exn Members → AuthState → Prop
  | raised (hexn : refusesToken exn = false) :
      RetryShape scheme path payload exn s [] (.error exn) s
  | unrecovered {t u : AuthState} {recovery : List (Exchange AuthOp AuthAnswer)} {exn' : Exn}
      (hexn : refusesToken exn = true) (hrecovery : RecoveredBy t recovery (.error exn') u) :
      RetryShape scheme path payload exn s recovery (.error exn') u
  | retried {t u s' : AuthState} {recovery : List (Exchange AuthOp AuthAnswer)}
      {token : Option String} {reply : HttpReply} (hexn : refusesToken exn = true)
      (hconfig : t.config = s.config) (hrecovery : RecoveredBy t recovery (.ok token) u) :
      RetryShape scheme path payload exn s
        (recovery ++ [exchangeOf scheme path payload token reply])
        (Transport.send (s.config.redactPath path) reply) s'

theorem retryShape_of_recovery {scheme : Scheme} {path : String} {payload : Json} {exn : Exn}
    {p : AuthM (Option String)} {t : AuthState} {result : Except Exn Members}
    (hexn : refusesToken exn = true) (hconfig : t.config = s.config)
    (hp : ∀ recovery mid u, Coro.Traced cloud p t recovery mid u → RecoveredBy t recovery mid u)
    (h : Coro.Traced cloud (p >>= fun token => request .retry scheme path payload token) t trace
      result s') : RetryShape scheme path payload exn s trace result s' := by
  obtain ⟨recovery, rest, mid, u, rfl, hrecovery, hrest⟩ := h.bind_inv
  have hrecovers := hp _ _ _ hrecovery
  cases mid with
  | error exn' =>
      obtain ⟨rfl, rfl, rfl⟩ := hrest
      rw [List.append_nil]
      exact .unrecovered hexn hrecovers
  | ok token =>
      obtain ⟨reply, rfl, rfl, _⟩ := traced_request hrest
      have hconfig' : u.config = s.config := hrecovers.renews.2.trans hconfig
      rw [hconfig']
      exact .retried hexn hconfig hrecovers

theorem retryShape {scheme : Scheme} {path : String} {payload : Json} {exn : Exn}
    {result : Except Exn Members}
    (h : Coro.Traced cloud (recoverAndRetry scheme path payload exn) s trace result s') :
    RetryShape scheme path payload exn s trace result s' := by
  cases exn with
  | dollin err =>
      simp only [recoverAndRetry] at h
      split at h
      next hcredentials =>
        cases h
        exact .raised (by simp [refusesToken, hcredentials])
      next hcredentials =>
        have hexn : err.isAuthError = true → refusesToken (.dollin err) = true := by
          intro hauth
          simp [refusesToken, hauth, hcredentials]
        split at h
        next hexpired =>
          have hauth : err.isAuthError = true := by
            cases err <;> first | rfl | cases hexpired
          have hcounted := h.modifyGet_inv
          split at hcounted
          · exact retryShape_of_recovery (hexn hauth) (by rfl) (fun _ _ _ => .inl) hcounted
          · exact retryShape_of_recovery (hexn hauth) (by rfl) (fun _ _ _ => .inr) hcounted
        next =>
          split at h
          next hauth => exact retryShape_of_recovery (hexn hauth) rfl (fun _ _ _ => .inr) h
          next hauth =>
            cases h
            exact .raised (by simp [refusesToken, hauth])
  | _ =>
      cases h
      exact .raised rfl

/-- A call ends with its look-up, with its first request, with its recovery or with the
retry. -/
inductive CallShape (scheme : Scheme) (path : String) (payload : Json) (s : AuthState) :
    List (Exchange AuthOp AuthAnswer) → Except Exn Members → AuthState → Prop
  | unsent {lookup : List (Exchange AuthOp AuthAnswer)} {t : AuthState} {exn : Exn}
      (hlookup : Coro.Traced cloud asyncGetToken s lookup (.error exn) t) :
      CallShape scheme path payload s lookup (.error exn) t
  | answered {lookup : List (Exchange AuthOp AuthAnswer)} {t s' : AuthState}
      {token : Option String} {reply : HttpReply} {data : Members}
      (hlookup : Coro.Traced cloud asyncGetToken s lookup (.ok token) t)
      (hsend : Transport.send (s.config.redactPath path) reply = .ok data) :
      CallShape scheme path payload s (lookup ++ [exchangeOf scheme path payload token reply])
        (.ok data) s'
  | failed {lookup retry : List (Exchange AuthOp AuthAnswer)} {t u s' : AuthState}
      {token : Option String} {reply : HttpReply} {exn : Exn} {result : Except Exn Members}
      (hlookup : Coro.Traced cloud asyncGetToken s lookup (.ok token) t)
      (hsend : Transport.send (s.config.redactPath path) reply = .error exn)
      (hsame : SameSession t u) (hretry : RetryShape scheme path payload exn u retry result s') :
      CallShape scheme path payload s
        (lookup ++ exchangeOf scheme path payload token reply :: retry) result s'

theorem callShape {scheme : Scheme} {path : String} {payload : Json}
    {result : Except Exn Members}
    (h : Coro.Traced cloud (authenticated scheme path payload) s trace result s') :
    CallShape scheme path payload s trace result s' := by
  obtain ⟨lookup, rest, mid, t, rfl, hlookup, hrest⟩ := h.bind_inv
  cases mid with
  | error exn =>
      obtain ⟨rfl, rfl, rfl⟩ := hrest
      rw [List.append_nil]
      exact .unsent hlookup
  | ok token =>
      have hconfig : t.config = s.config := (renews_of_lookup hlookup).2.2
      obtain ⟨first, retry, mid, u, rfl, hfirst, hretry⟩ := Coro.Traced.tryCatch_inv hrest
      obtain ⟨reply, rfl, rfl, hsame⟩ := traced_request hfirst
      rw [hconfig] at hretry
      cases hsend : Transport.send (s.config.redactPath path) reply with
      | ok data =>
          rw [hsend] at hretry
          obtain ⟨rfl, rfl, rfl⟩ := hretry
          exact .answered hlookup hsend
      | error exn =>
          rw [hsend] at hretry
          exact .failed hlookup hsend hsame (retryShape hretry)

/-! ## The contract -/

/-- Two splits of a record at its first request are the same. -/
theorem split_unique {l l' r r' : List (Exchange AuthOp AuthAnswer)}
    {x x' : Exchange AuthOp AuthAnswer} (hl : requestsOf l = []) (hl' : requestsOf l' = [])
    (hx : isRequest x = true) (hx' : isRequest x' = true) (heq : l ++ x :: r = l' ++ x' :: r') :
    l = l' ∧ x = x' ∧ r = r' := by
  induction l generalizing l' with
  | nil =>
      cases l' with
      | nil => exact ⟨rfl, List.cons.inj heq⟩
      | cons y l' =>
          obtain ⟨rfl, _⟩ := List.cons.inj heq
          rw [requestsOf_cons hx] at hl'
          cases hl'
  | cons z l ih =>
      cases l' with
      | nil =>
          obtain ⟨rfl, _⟩ := List.cons.inj heq
          rw [requestsOf_cons hx'] at hl
          cases hl
      | cons y l' =>
          obtain ⟨rfl, htail⟩ := List.cons.inj heq
          rw [requestsOf, List.filter_eq_nil_iff] at hl hl'
          obtain ⟨rfl, hrest⟩ := ih
            (List.filter_eq_nil_iff.mpr fun x hx => hl x (List.mem_cons_of_mem _ hx))
            (List.filter_eq_nil_iff.mpr fun x hx => hl' x (List.mem_cons_of_mem _ hx)) htail
          exact ⟨rfl, hrest⟩

theorem requestsOf_exchangeOf {scheme : Scheme} {path : String} {payload : Json}
    {token : Option String} {reply : HttpReply} (htoken : Usable token) :
    requestsOf (exchangeOf scheme path payload token reply :: trace) =
      exchangeOf scheme path payload token reply :: requestsOf trace :=
  requestsOf_cons (isRequest_of_usable htoken)

theorem loginsOf_exchangeOf {scheme : Scheme} {path : String} {payload : Json}
    {token : Option String} {reply : HttpReply} (htoken : Usable token) :
    loginsOf (exchangeOf scheme path payload token reply :: trace) = loginsOf trace := by
  refine List.filter_cons_of_neg ?_
  rw [isLogin_of_usable htoken]
  exact Bool.false_ne_true

section Shapes

variable {scheme : Scheme} {path : String} {payload : Json} {exn : Exn}
  {result : Except Exn Members}

theorem RetryShape.bounds (h : RetryShape scheme path payload exn s trace result s') :
    (requestsOf trace).length ≤ 1 ∧ (loginsOf trace).length ≤ 1 := by
  cases h with
  | raised => exact ⟨Nat.zero_le _, Nat.zero_le _⟩
  | unrecovered _ hrecovery =>
      have hrenews := hrecovery.renews.1
      rw [hrenews.requests]
      exact ⟨Nat.zero_le _, hrenews.logins⟩
  | retried _ _ hrecovery =>
      have hrenews := hrecovery.renews.1
      have htoken := hrenews.usable _ rfl
      rw [requestsOf_append, hrenews.requests, requestsOf_exchangeOf htoken, loginsOf_append,
        loginsOf_exchangeOf htoken, loginsOf_nil, List.append_nil]
      exact ⟨le_rfl, hrenews.logins⟩

theorem CallShape.bounds (h : CallShape scheme path payload s trace result s') :
    SendBounds s trace := by
  cases h with
  | unsent hlookup =>
      obtain ⟨hrenews, hnone, _⟩ := renews_of_lookup hlookup
      refine ⟨?_, hrenews.logins.trans one_le_two, fun htoken => ?_⟩
      · rw [hrenews.requests]
        exact Nat.zero_le _
      · rw [hnone htoken]
        exact Nat.zero_le _
  | answered hlookup hsend =>
      obtain ⟨hrenews, hnone, _⟩ := renews_of_lookup hlookup
      have htoken := hrenews.usable _ rfl
      refine ⟨?_, ?_, fun hhas => ?_⟩ <;>
        simp only [requestsOf_append, loginsOf_append, requestsOf_exchangeOf htoken,
          loginsOf_exchangeOf htoken, hrenews.requests, List.length_append]
      · exact Nat.le_succ 1
      · exact hrenews.logins.trans one_le_two
      · exact hrenews.logins
  | failed hlookup _ _ hretry =>
      obtain ⟨hrenews, hnone, _⟩ := renews_of_lookup hlookup
      have htoken := hrenews.usable _ rfl
      obtain ⟨hrequests, hlogins⟩ := hretry.bounds
      refine ⟨?_, ?_, fun hhas => ?_⟩
      · rw [requestsOf_append, hrenews.requests, requestsOf_exchangeOf htoken, List.nil_append,
          List.length_cons]
        exact Nat.succ_le_succ hrequests
      · rw [loginsOf_append, loginsOf_exchangeOf htoken, List.length_append]
        exact Nat.add_le_add hrenews.logins hlogins
      · rw [loginsOf_append, loginsOf_exchangeOf htoken, hnone hhas]
        exact hlogins

/-- A recorded second request is the retry. -/
theorem CallShape.retry (h : CallShape scheme path payload s trace result s')
    {before between after : List (Exchange AuthOp AuthAnswer)}
    {x y : Exchange AuthOp AuthAnswer} (htrace : trace = before ++ x :: (between ++ y :: after))
    (hx : isRequest x = true) (hy : isRequest y = true) :
    after = [] ∧ ∃ t u token reply, RecoveredBy t between (.ok token) u ∧
      y = exchangeOf scheme path payload token reply ∧
      result = Transport.send (s.config.redactPath path) reply := by
  obtain ⟨hbefore, hbetween⟩ := no_further_requests hx hy (htrace ▸ h.bounds.requests)
  cases h with
  | unsent hlookup =>
      rw [htrace] at hlookup
      exact absurd hx (renews_of_lookup hlookup).1.not_request
  | answered hlookup hsend =>
      have hrenews := (renews_of_lookup hlookup).1
      obtain ⟨_, _, hrest⟩ := split_unique hrenews.requests hbefore
        (isRequest_of_usable (hrenews.usable _ rfl)) hx htrace
      exact absurd hrest.symm (by simp)
  | failed hlookup hsend hsame hretry =>
      obtain ⟨hrenews, _, hconfig⟩ := renews_of_lookup hlookup
      obtain ⟨rfl, rfl, hrest⟩ := split_unique hrenews.requests hbefore
        (isRequest_of_usable (hrenews.usable _ rfl)) hx htrace
      cases hretry with
      | raised => exact absurd hrest.symm (by simp)
      | unrecovered _ hrecovery =>
          rw [hrest] at hrecovery
          exact absurd hy hrecovery.renews.1.not_request
      | retried _ _ hrecovery =>
          have hrenews' := hrecovery.renews.1
          obtain ⟨rfl, rfl, rfl⟩ := split_unique hrenews'.requests hbetween
            (isRequest_of_usable (hrenews'.usable _ rfl)) hy hrest
          rw [hsame.config, hconfig]
          exact ⟨rfl, _, _, _, _, hrecovery, rfl, rfl⟩

/-- A first request that failed was sent with the token that had been looked up; what follows
it is the handling of that failure. -/
theorem CallShape.first_failed (h : CallShape scheme path payload s trace result s')
    {before after : List (Exchange AuthOp AuthAnswer)} {token : Option String}
    {reply : HttpReply}
    (htrace : trace = before ++ exchangeOf scheme path payload token reply :: after)
    (hbefore : requestsOf before = [])
    (hx : isRequest (exchangeOf scheme path payload token reply) = true)
    (hfailed : Transport.send (s.config.redactPath path) reply = .error exn) :
    ∃ t u, Coro.Traced cloud asyncGetToken s before (.ok token) t ∧ SameSession t u ∧
      RetryShape scheme path payload exn u after result s' := by
  cases h with
  | unsent hlookup =>
      rw [htrace] at hlookup
      exact absurd hx (renews_of_lookup hlookup).1.not_request
  | answered hlookup hsend =>
      have hrenews := (renews_of_lookup hlookup).1
      obtain ⟨_, hfirst, _⟩ := split_unique hrenews.requests hbefore
        (isRequest_of_usable (hrenews.usable _ rfl)) hx htrace
      cases hfirst
      cases hsend.symm.trans hfailed
  | failed hlookup hsend hsame hretry =>
      have hrenews := (renews_of_lookup hlookup).1
      obtain ⟨rfl, hfirst, rfl⟩ := split_unique hrenews.requests hbefore
        (isRequest_of_usable (hrenews.usable _ rfl)) hx htrace
      cases hfirst
      cases hsend.symm.trans hfailed
      exact ⟨_, _, hlookup, hsame, hretry⟩

/-- Credentials refused are raised, and nothing else happens. -/
theorem RetryShape.credentials {message : String}
    (h : RetryShape scheme path payload (.dollin (.credentialsRejectedError message)) s trace
      result s') :
    trace = [] ∧ result = .error (.dollin (.credentialsRejectedError message)) ∧ s' = s := by
  cases h with
  | raised => exact ⟨rfl, rfl, rfl⟩
  | unrecovered hexn => cases hexn
  | retried hexn => cases hexn

/-- A refused token that was not replaced. -/
theorem RetryShape.raises_of_no_request (h : RetryShape scheme path payload exn s trace result s')
    (hexn : refusesToken exn = true) (hnone : requestsOf trace = []) :
    ∃ t u exn', RecoveredBy t trace (.error exn') u ∧ result = .error exn' := by
  cases h with
  | raised hraised => cases hexn.symm.trans hraised
  | unrecovered _ hrecovery => exact ⟨_, _, _, hrecovery, rfl⟩
  | retried _ _ hrecovery =>
      rw [requestsOf_append, requestsOf_exchangeOf (hrecovery.renews.1.usable _ rfl)] at hnone
      exact absurd hnone (by simp)

end Shapes

end Methods

theorem cloud_serial (s : AuthState) (op : AuthOp) : ∃ answer s', cloud s op answer s' := by
  cases op with
  | post => exact ⟨.failed "", _, s.clock, le_rfl, rfl⟩
  | load => exact ⟨s.store, _, s.clock, le_rfl, rfl, rfl⟩
  | save => exact ⟨(), _, s.clock, le_rfl, rfl⟩
  | clear => exact ⟨(), _, s.clock, le_rfl, rfl⟩

/-- Wherever a call is cut off it has sent at most two requests and two logins, one login if it
began with a token; and if it is not, it ends as the contract says. -/
theorem authenticated_retries_once (scheme : Scheme) (path : String) (payload : Json)
    (s : AuthState) :
    (∀ trace t, Coro.Begun cloud (authenticated scheme path payload) s trace t →
      SendBounds s trace) ∧
    ∀ trace result s', Coro.Traced cloud (authenticated scheme path payload) s trace result s' →
      RetryContract scheme path payload s trace result s' := by
  constructor
  · intro trace t hbegun
    obtain ⟨rest, result, s', htraced⟩ := hbegun.traced cloud_serial
    have hbounds := (callShape htraced).bounds
    have hrequests : (requestsOf trace).length ≤ (requestsOf (trace ++ rest)).length := by
      rw [requestsOf_append, List.length_append]
      exact Nat.le_add_right _ _
    have hlogins : (loginsOf trace).length ≤ (loginsOf (trace ++ rest)).length := by
      rw [loginsOf_append, List.length_append]
      exact Nat.le_add_right _ _
    exact ⟨hrequests.trans hbounds.requests, hlogins.trans hbounds.logins,
      fun htoken => hlogins.trans (hbounds.loginsWithToken htoken)⟩
  · intro trace result s' htraced
    have hshape := callShape htraced
    refine ⟨fun _ _ _ _ _ => hshape.retry, ?_, ?_⟩
    · intro before token reply recovery exn htrace hbefore hx hfailed hexn hnone
      obtain ⟨t, u, _, _, hretry⟩ := hshape.first_failed htrace hbefore hx hfailed
      exact hretry.raises_of_no_request hexn hnone
    · intro before token reply after message htrace hbefore hx hrejected
      obtain ⟨t, u, hlookup, hsame, hretry⟩ := hshape.first_failed htrace hbefore hx hrejected
      obtain ⟨hafter, hresult, rfl⟩ := hretry.credentials
      exact ⟨hafter, hresult, t, hlookup, hsame⟩

/-- The call whose every token is refused: two requests, one login, and the second refusal is
what it raises. -/
theorem authenticated_retries_once_refused :
    SendBounds freshManager (oneListing refusingCloud).1 ∧
      RetryContract .oem epHomeIndex (.obj []) freshManager (oneListing refusingCloud).1
        ((oem epHomeIndex (.obj [])).play refusingCloud 0 freshManager).1
        (oneListing refusingCloud).2 := by
  have htraced := Coro.traced_play refusingCloud cloud_refusingCloud
    (oem epHomeIndex (.obj [])) 0 freshManager
  have hcontract := authenticated_retries_once .oem epHomeIndex (.obj []) freshManager
  exact ⟨hcontract.1 _ _ htraced.begun, hcontract.2 _ _ _ htraced⟩

end Holabrain.Auth
