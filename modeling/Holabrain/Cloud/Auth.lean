import Holabrain.Core.Trace
import Holabrain.Cloud.Transport

/-!
# The authentication manager

`AuthManager` owns the account's one session: the cached token, the token store and the
counters that decide how a refused token is replaced.  Its methods are coroutines over
`AuthState`; they suspend at every POST and at every operation of the token store.

The state also carries a history variable, `log`.  Only `AuthState.note` writes it and no
method reads it: it is what the properties of whole runs are stated about.
-/

namespace Holabrain

structure Session where
  accessToken : String
  account : String := ""
  region : String := "eu"
  uid : String := ""
  deriving DecidableEq

/-- What is fixed when the manager is built, with the two helpers it is given: the password
cipher of the login body and the redaction of the paths its messages quote. -/
structure AuthConfig where
  account : String
  password : String
  country : String
  region : String
  encryptPassword : String → String
  redactPath : String → String

/-- Which of the two signatures a request carries. -/
inductive Scheme
  | oem
  | tob
  deriving DecidableEq

/-- Which of the two sends of one authenticated call a request is. -/
inductive Attempt
  | first
  | retry
  deriving DecidableEq

/-- The entries of the history. -/
inductive AuthEvent
  /-- A look-up found neither a cached nor a stored token. -/
  | noToken (time : ℚ)
  /-- A login request was sent. -/
  | login (time : ℚ)
  /-- A login was answered by this token. -/
  | issued (token : String)
  | expiry (time : ℚ)
  | eviction (time : ℚ)
  /-- A call gave up until the cool-down ends. -/
  | takeover (deadline : ℚ)
  | failed (attempt : Attempt) (path : String) (exn : Exn)
  deriving DecidableEq

structure AuthState where
  config : AuthConfig
  token : Option String := none
  lastLogin : Option ℚ := none
  lastEviction : Option ℚ := none
  evictions : ℕ := 0
  expiryWindowStart : Option ℚ := none
  expiriesInWindow : ℕ := 0
  store : Option Session := none
  clock : ℚ
  log : List AuthEvent := []

/-- What the manager suspends for. -/
inductive AuthOp
  | post (scheme : Scheme) (path : String) (payload : Json) (token : Option String)
  | load
  | save (session : Session)
  | clear

abbrev AuthAnswer : AuthOp → Type
  | .post .. => HttpReply
  | .load => Option Session
  | .save _ => Unit
  | .clear => Unit

abbrev AuthM := Coro AuthState AuthOp AuthAnswer Exn

namespace Auth

def loginBackoffSeconds : List ℚ := [0, 60, 300, 900]

def evictionForgetSeconds : ℚ := 1800

def expiryReloginLimit : ℕ := 5

def epLogin : String := "/v1/user/login/new"

def epTokenExtend : String := "/v1/user/token/extend"

def epHomeIndex : String := "/v1/appliance/user/home/index?order=1"

end Auth

open Auth

namespace AuthState

@[simps]
def note (s : AuthState) (event : AuthEvent) : AuthState := { s with log := s.log ++ [event] }

@[simps]
def advance (s : AuthState) (time : ℚ) : AuthState := { s with clock := time }

@[simps]
def setToken (s : AuthState) (token : Option String) : AuthState := { s with token := token }

@[simps]
def setStore (s : AuthState) (store : Option Session) : AuthState := { s with store := store }

/-- The token a login returned, and the moment it did. -/
@[simps]
def logIn (s : AuthState) (token : String) : AuthState :=
  { s with token := some token, lastLogin := some s.clock }

def cooldown (s : AuthState) : ℚ :=
  loginBackoffSeconds.getD (min s.evictions (loginBackoffSeconds.length - 1)) 0

/-- `_expiry_within_budget`. -/
def expiryWithinBudget (s : AuthState) : Bool × AuthState :=
  let now := s.clock
  let restart := match s.expiryWindowStart with
    | none => true
    | some start => decide (now - start > evictionForgetSeconds)
  let expiries := (if restart then 0 else s.expiriesInWindow) + 1
  (decide (expiries ≤ expiryReloginLimit),
    { s with
      expiryWindowStart := if restart then some now else s.expiryWindowStart
      expiriesInWindow := expiries }.note (.expiry now))

/-- `_note_eviction`. -/
def noteEviction (s : AuthState) : ℚ × AuthState :=
  let now := s.clock
  let forget := match s.lastEviction with
    | none => false
    | some last => decide (now - last > evictionForgetSeconds)
  let s := { s with evictions := if forget then 0 else s.evictions, lastEviction := some now }
  (s.cooldown, { s with evictions := s.evictions + 1 }.note (.eviction now))

/-- Credentials are there to log in with. -/
def HasCredentials (s : AuthState) : Prop := s.config.account ≠ "" ∧ s.config.password ≠ ""

instance (s : AuthState) : Decidable s.HasCredentials :=
  inferInstanceAs (Decidable (_ ∧ _))

end AuthState

namespace Auth

/-- `data["data"]` if it is a dictionary, else an empty one. -/
def dataObject (data : Members) : Members := ((data.get "data").asObj).getD []

def loginBody (config : AuthConfig) : Json :=
  .obj [("loginAccount", .str config.account),
    ("password", .str (config.encryptPassword config.password)),
    ("pushToken", .str ""), ("countryCode", .str config.country),
    ("isRedirectLogin", .bool false)]

def transportPost (scheme : Scheme) (path : String) (payload : Json) (token : Option String) :
    AuthM HttpReply :=
  Coro.perform (AuthOp.post scheme path payload token)

def storeLoad : AuthM (Option Session) := Coro.perform AuthOp.load

def storeSave (session : Session) : AuthM Unit := Coro.perform (AuthOp.save session)

def storeClear : AuthM Unit := Coro.perform AuthOp.clear

/-- `async_login`. -/
def asyncLogin : AuthM (Option String) := do
  let config ← Coro.gets AuthState.config
  if config.account = "" ∨ config.password = "" then
    throw (.dollin (.authError "no credentials available to authenticate"))
  Coro.modify fun s => s.note (.login s.clock)
  let reply ← transportPost .oem epLogin (loginBody config) (some "")
  let data ← Coro.ofExcept (Transport.send (config.redactPath epLogin) reply)
  let info := dataObject data
  let token := info.get "accessToken"
  if token.truthy = false then
    throw (.dollin (.authError "login succeeded but returned no access token"))
  Coro.modify fun s => (s.logIn token.pyStr).note (.issued token.pyStr)
  storeSave
    { accessToken := token.pyStr, account := config.account, region := config.region,
      uid := (info.getD "uid" (.str "")).pyStr }
  Coro.gets AuthState.token

/-- `async_get_token`. -/
def asyncGetToken : AuthM (Option String) := do
  let token ← Coro.gets AuthState.token
  if token ≠ none ∧ token ≠ some "" then
    return token
  let session ← storeLoad
  let stored := session.map Session.accessToken
  if stored ≠ none ∧ stored ≠ some "" then
    Coro.modify fun s => s.setToken stored
    return stored
  Coro.modify fun s => s.note (.noToken s.clock)
  asyncLogin

/-- `_async_relogin`: the session is dropped before the login, not after it. -/
def asyncRelogin : AuthM (Option String) := do
  Coro.modify fun s => s.setToken none
  storeClear
  asyncLogin

/-- `_async_recover`. -/
def asyncRecover : AuthM (Option String) := do
  let cooldown ← Coro.modifyGet AuthState.noteEviction
  Coro.modify fun s => s.setToken none
  storeClear
  let s ← Coro.gets id
  match s.lastLogin with
  | none => asyncLogin
  | some lastLogin =>
      let waited := s.clock - lastLogin
      if cooldown ≠ 0 ∧ waited < cooldown then
        Coro.modify fun s => s.note (.takeover (lastLogin + cooldown))
        throw (.dollin (.sessionTakeoverError cooldown waited))
      else asyncLogin

/-- The answer to one send of an authenticated request. -/
def answered (attempt : Attempt) (path : String) (reply : HttpReply) : AuthM Members := do
  let config ← Coro.gets AuthState.config
  match Transport.send (config.redactPath path) reply with
  | .ok data => return data
  | .error exn =>
      Coro.modify fun s => s.note (.failed attempt path exn)
      throw exn

/-- One send of an authenticated request under the given token. -/
def request (attempt : Attempt) (scheme : Scheme) (path : String) (payload : Json)
    (token : Option String) : AuthM Members := do
  let reply ← transportPost scheme path payload token
  answered attempt path reply

/-- The `except` clauses of `_async_authenticated`. -/
def recoverAndRetry (scheme : Scheme) (path : String) (payload : Json) (exn : Exn) :
    AuthM Members :=
  match exn with
  | .dollin err =>
      if err.isCredentialsRejected then throw exn
      else if err.isTokenExpired then do
        let withinBudget ← Coro.modifyGet AuthState.expiryWithinBudget
        let token ← if withinBudget then asyncRelogin else asyncRecover
        request .retry scheme path payload token
      else if err.isAuthError then do
        let token ← asyncRecover
        request .retry scheme path payload token
      else throw exn
  | exn => throw exn

/-- `_async_authenticated` from the moment its token is known. -/
def authenticatedWith (scheme : Scheme) (path : String) (payload : Json)
    (token : Option String) : AuthM Members :=
  tryCatch (request .first scheme path payload token) (recoverAndRetry scheme path payload)

/-- `_async_authenticated`. -/
def authenticated (scheme : Scheme) (path : String) (payload : Json) : AuthM Members := do
  let token ← asyncGetToken
  authenticatedWith scheme path payload token

def oem (path : String) (payload : Json) : AuthM Members := authenticated .oem path payload

def tob (path : String) (payload : Json) : AuthM Members := authenticated .tob path payload

/-- `async_refresh_token`. -/
def asyncRefreshToken : AuthM (Option String) := do
  Coro.modify fun s =>
    { s with evictions := 0, lastEviction := none, expiryWindowStart := none,
             expiriesInWindow := 0 }
  asyncRelogin

/-- `async_extend_token`. -/
def asyncExtendToken : AuthM (Option String) := do
  let data ← oem epTokenExtend (.obj [])
  let token := (dataObject data).get "accessToken"
  if token.truthy = false then asyncRelogin
  else do
    Coro.modify fun s => s.setToken (some token.pyStr)
    let session ← storeLoad
    let s ← Coro.gets id
    storeSave
      { accessToken := s.token.getD "", account := s.config.account, region := s.config.region,
        uid := (session.map Session.uid).getD "" }
    Coro.gets AuthState.token

/-! ## The world the manager runs in -/

/-- Time passes at every suspension; the store does what it is asked; a request is answered
by anything at all. -/
def cloud : Environment AuthState AuthOp AuthAnswer := fun s op answer s' =>
  ∃ time, s.clock ≤ time ∧ match op, answer with
    | .post .., _ => s' = s.advance time
    | .load, session => session = s.store ∧ s' = s.advance time
    | .save session, _ => s' = (s.setStore (some session)).advance time
    | .clear, _ => s' = (s.setStore none).advance time

/-- The states a fresh manager reaches by calls of `oem` and `tob`, one after the other, with
any time between them. -/
inductive Reachable : AuthState → Prop
  | init (config : AuthConfig) (store : Option Session) (clock : ℚ) :
      Reachable { config := config, store := store, clock := clock }
  | call {s s' : AuthState} (scheme : Scheme) (path : String) (payload : Json)
      {result : Except Exn Members} (time : ℚ) (hreach : Reachable s) (htime : s.clock ≤ time)
      (hexec : Coro.Exec cloud (authenticated scheme path payload) (s.advance time) result s') :
      Reachable s'

/-! ### What each method may come to -/

section Specs

variable {s : AuthState} {h : List (Exchange AuthOp AuthAnswer)}

@[simp]
theorem wpt_post {scheme : Scheme} {path : String} {payload : Json} {token : Option String}
    {post : Except Exn HttpReply → List (Exchange AuthOp AuthAnswer) → AuthState → Prop} :
    Coro.wpt cloud (transportPost scheme path payload token) post h s ↔
      ∀ reply time, s.clock ≤ time →
        post (.ok reply) (h ++ [⟨.post scheme path payload token, reply⟩]) (s.advance time) := by
  simp only [transportPost, Coro.wpt_perform, cloud]
  constructor
  · intro hpost reply time htime
    exact hpost reply _ ⟨time, htime, rfl⟩
  · intro hpost reply s' hanswer
    obtain ⟨time, htime, rfl⟩ := hanswer
    exact hpost reply time htime

@[simp]
theorem wpt_load
    {post : Except Exn (Option Session) → List (Exchange AuthOp AuthAnswer) → AuthState → Prop} :
    Coro.wpt cloud storeLoad post h s ↔ ∀ time, s.clock ≤ time →
      post (.ok s.store) (h ++ [⟨.load, s.store⟩]) (s.advance time) := by
  simp only [storeLoad, Coro.wpt_perform, cloud]
  constructor
  · intro hpost time htime
    exact hpost s.store _ ⟨time, htime, rfl, rfl⟩
  · intro hpost session s' hanswer
    obtain ⟨time, htime, rfl, rfl⟩ := hanswer
    exact hpost time htime

@[simp]
theorem wpt_save {session : Session}
    {post : Except Exn Unit → List (Exchange AuthOp AuthAnswer) → AuthState → Prop} :
    Coro.wpt cloud (storeSave session) post h s ↔ ∀ time, s.clock ≤ time →
      post (.ok ()) (h ++ [⟨.save session, ()⟩]) ((s.setStore (some session)).advance time) := by
  simp only [storeSave, Coro.wpt_perform, cloud]
  constructor
  · intro hpost time htime
    exact hpost () _ ⟨time, htime, rfl⟩
  · intro hpost _ s' hanswer
    obtain ⟨time, htime, rfl⟩ := hanswer
    exact hpost time htime

@[simp]
theorem wpt_clear
    {post : Except Exn Unit → List (Exchange AuthOp AuthAnswer) → AuthState → Prop} :
    Coro.wpt cloud storeClear post h s ↔ ∀ time, s.clock ≤ time →
      post (.ok ()) (h ++ [⟨.clear, ()⟩]) ((s.setStore none).advance time) := by
  simp only [storeClear, Coro.wpt_perform, cloud]
  constructor
  · intro hpost time htime
    exact hpost () _ ⟨time, htime, rfl⟩
  · intro hpost _ s' hanswer
    obtain ⟨time, htime, rfl⟩ := hanswer
    exact hpost time htime

/-- What a login may come to: it is not sent for want of credentials, it is answered with no
token, or it hands out the token of a session it has stored. -/
theorem wpt_asyncLogin
    {post : Except Exn (Option String) → List (Exchange AuthOp AuthAnswer) → AuthState → Prop}
    (hmissing : ¬ s.HasCredentials → ∀ exn, post (.error exn) h s)
    (hfailed : s.HasCredentials → ∀ reply time exn, s.clock ≤ time →
      post (.error exn) (h ++ [⟨.post .oem epLogin (loginBody s.config) (some ""), reply⟩])
        ((s.note (.login s.clock)).advance time))
    (hissued : s.HasCredentials → ∀ reply time session time', s.clock ≤ time →
      session.accessToken ≠ "" → time ≤ time' →
      post (.ok (some session.accessToken))
        (h ++ [⟨.post .oem epLogin (loginBody s.config) (some ""), reply⟩] ++
          [⟨.save session, ()⟩])
        ((((((s.note (.login s.clock)).advance time).logIn session.accessToken).note
          (.issued session.accessToken)).setStore (some session)).advance time')) :
    Coro.wpt cloud asyncLogin post h s := by
  simp only [asyncLogin, Coro.wpt_bind, Coro.wpt_gets, Coro.wpt_ite, Coro.wpt_throw,
    Coro.wpt_modify, wpt_post, Coro.wpt_ofExcept, wpt_save]
  by_cases hcredentials : s.HasCredentials
  · rw [if_neg (by simpa [AuthState.HasCredentials] using hcredentials)]
    intro reply time htime
    cases Transport.send (s.config.redactPath epLogin) reply with
    | error exn => exact hfailed hcredentials reply time exn htime
    | ok data =>
        dsimp only
        split
        · exact hfailed hcredentials reply time _ htime
        next htruthy =>
          intro time' htime'
          exact hissued hcredentials reply time
            { accessToken := ((dataObject data).get "accessToken").pyStr,
              account := s.config.account, region := s.config.region,
              uid := ((dataObject data).getD "uid" (.str "")).pyStr } time' htime
            (Json.pyStr_ne_empty (by simpa using htruthy)) htime'
  · rw [if_pos (by simpa [AuthState.HasCredentials, Classical.or_iff_not_imp_left]
      using hcredentials)]
    exact hmissing hcredentials _

/-- What a look-up may come to: the cached token, the one of the stored session, or a login. -/
theorem wpt_asyncGetToken
    {post : Except Exn (Option String) → List (Exchange AuthOp AuthAnswer) → AuthState → Prop}
    (hcached : s.token ≠ none ∧ s.token ≠ some "" → post (.ok s.token) h s)
    (hstored : ¬ (s.token ≠ none ∧ s.token ≠ some "") → ∀ time, s.clock ≤ time →
      s.store.map Session.accessToken ≠ none ∧ s.store.map Session.accessToken ≠ some "" →
      post (.ok (s.store.map Session.accessToken)) (h ++ [⟨.load, s.store⟩])
        ((s.advance time).setToken (s.store.map Session.accessToken)))
    (hlogin : ¬ (s.token ≠ none ∧ s.token ≠ some "") → ∀ time, s.clock ≤ time →
      ¬ (s.store.map Session.accessToken ≠ none ∧ s.store.map Session.accessToken ≠ some "") →
      Coro.wpt cloud asyncLogin post (h ++ [⟨.load, s.store⟩])
        ((s.advance time).note (.noToken time))) :
    Coro.wpt cloud asyncGetToken post h s := by
  simp only [asyncGetToken, Coro.wpt_bind, Coro.wpt_gets, Coro.wpt_ite, Coro.wpt_pure,
    Coro.wpt_modify, wpt_load]
  split
  next htoken => exact hcached htoken
  next htoken =>
    intro time htime
    split
    next hsession => exact hstored htoken time htime hsession
    next hsession => exact hlogin htoken time htime hsession

/-- What a recovery may come to: the session is dropped, and the call gives up while the
cool-down of a takeover is running, or it logs in. -/
theorem wpt_asyncRecover
    {post : Except Exn (Option String) → List (Exchange AuthOp AuthAnswer) → AuthState → Prop}
    (htakeover : s.lastLogin ≠ none → ∀ time deadline exn, s.clock ≤ time →
      post (.error exn) (h ++ [⟨.clear, ()⟩])
        ((((s.noteEviction.2.setToken none).setStore none).advance time).note
          (.takeover deadline)))
    (hlogin : ∀ time, s.clock ≤ time → Coro.wpt cloud asyncLogin post (h ++ [⟨.clear, ()⟩])
      (((s.noteEviction.2.setToken none).setStore none).advance time)) :
    Coro.wpt cloud asyncRecover post h s := by
  simp only [asyncRecover, Coro.wpt_bind, Coro.wpt_modifyGet, Coro.wpt_modify, wpt_clear,
    Coro.wpt_gets, id_eq]
  intro time htime
  cases hlast : (((s.noteEviction.2.setToken none).setStore none).advance time).lastLogin with
  | none => exact hlogin time htime
  | some lastLogin =>
      have hsome : s.lastLogin ≠ none := fun hnone => Option.some_ne_none _ (hlast.symm.trans hnone)
      simp only [Coro.wpt_ite, Coro.wpt_bind, Coro.wpt_modify, Coro.wpt_throw]
      split
      · exact htakeover hsome time _ _ htime
      · exact hlogin time htime

/-! ### The same where nothing is asked about the record -/

@[simp]
theorem wp_post {scheme : Scheme} {path : String} {payload : Json} {token : Option String}
    {post : Except Exn HttpReply → AuthState → Prop} :
    Coro.wp cloud (transportPost scheme path payload token) post s ↔
      ∀ reply time, s.clock ≤ time → post (.ok reply) (s.advance time) :=
  (Coro.wp_iff_wpt []).trans wpt_post

@[simp]
theorem wp_clear {post : Except Exn Unit → AuthState → Prop} :
    Coro.wp cloud storeClear post s ↔
      ∀ time, s.clock ≤ time → post (.ok ()) ((s.setStore none).advance time) :=
  (Coro.wp_iff_wpt []).trans wpt_clear

theorem wp_asyncLogin {post : Except Exn (Option String) → AuthState → Prop}
    (hmissing : ¬ s.HasCredentials → ∀ exn, post (.error exn) s)
    (hfailed : s.HasCredentials → ∀ time exn, s.clock ≤ time →
      post (.error exn) ((s.note (.login s.clock)).advance time))
    (hissued : s.HasCredentials → ∀ time session time', s.clock ≤ time → time ≤ time' →
      post (.ok (some session.accessToken))
        ((((((s.note (.login s.clock)).advance time).logIn session.accessToken).note
          (.issued session.accessToken)).setStore (some session)).advance time')) :
    Coro.wp cloud asyncLogin post s := by
  rw [Coro.wp_iff_wpt []]
  apply wpt_asyncLogin hmissing
  · exact fun hcredentials _ time exn htime => hfailed hcredentials time exn htime
  · exact fun hcredentials _ time session time' htime _ htime' =>
      hissued hcredentials time session time' htime htime'

theorem wp_asyncGetToken {post : Except Exn (Option String) → AuthState → Prop}
    (hcached : s.token ≠ none ∧ s.token ≠ some "" → post (.ok s.token) s)
    (hstored : ∀ time, s.clock ≤ time →
      s.store.map Session.accessToken ≠ none ∧ s.store.map Session.accessToken ≠ some "" →
      post (.ok (s.store.map Session.accessToken))
        ((s.advance time).setToken (s.store.map Session.accessToken)))
    (hlogin : ∀ time, s.clock ≤ time →
      Coro.wp cloud asyncLogin post ((s.advance time).note (.noToken time))) :
    Coro.wp cloud asyncGetToken post s := by
  rw [Coro.wp_iff_wpt []]
  apply wpt_asyncGetToken hcached
  · exact fun _ time htime hsession => hstored time htime hsession
  · exact fun _ time htime _ => (Coro.wp_iff_wpt _).mp (hlogin time htime)

theorem wp_asyncRecover {post : Except Exn (Option String) → AuthState → Prop}
    (htakeover : s.lastLogin ≠ none → ∀ time deadline exn, s.clock ≤ time →
      post (.error exn) ((((s.noteEviction.2.setToken none).setStore none).advance time).note
        (.takeover deadline)))
    (hlogin : ∀ time, s.clock ≤ time → Coro.wp cloud asyncLogin post
      (((s.noteEviction.2.setToken none).setStore none).advance time)) :
    Coro.wp cloud asyncRecover post s := by
  rw [Coro.wp_iff_wpt []]
  apply wpt_asyncRecover htakeover
  exact fun time htime => (Coro.wp_iff_wpt _).mp (hlogin time htime)

/-- One send: a failure is written down and raised. -/
theorem wp_request {attempt : Attempt} {scheme : Scheme} {path : String} {payload : Json}
    {token : Option String} {post : Except Exn Members → AuthState → Prop}
    (hok : ∀ time data, s.clock ≤ time → post (.ok data) (s.advance time))
    (hfailed : ∀ time exn, s.clock ≤ time →
      post (.error exn) ((s.advance time).note (.failed attempt path exn))) :
    Coro.wp cloud (request attempt scheme path payload token) post s := by
  simp only [request, answered, Coro.wp_bind, wp_post, Coro.wp_gets]
  intro reply time htime
  cases Transport.send ((s.advance time).config.redactPath path) reply with
  | ok data => exact hok time data htime
  | error exn => exact hfailed time exn htime

end Specs

end Auth

end Holabrain
