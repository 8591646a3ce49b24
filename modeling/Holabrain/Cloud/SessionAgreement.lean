import Holabrain.Cloud.StoredManager

/-!
# Memory and entry agree

Calls of the client overlap: while one awaits its answer, others drop the session, log in and
store what they got, and the integration may be restarted at any moment.  What the manager
holds in memory is still, at every suspension, what the entry holds; and nothing is sent
without a token but a login, made where there is no session to use.
-/

namespace Holabrain.StoredManager

open Auth ConfigEntryTokenStore

/-- The manager has no token in memory, or the one of the session in the entry. -/
def Agrees (t : EntryState) : Prop :=
  t.manager.token = none ∨ t.manager.token = (load t.data).map Session.accessToken

/-- There is no session, neither in memory nor in the entry. -/
def SignedOut (t : EntryState) : Prop := t.manager.token = none ∧ load t.data = none

/-- The request carries a token, or it is a login made where there is no session. -/
def Due (t : EntryState) (posting : Posting) : Prop :=
  (∃ token, posting.token = some token ∧ token ≠ "") ∨
    posting.path = epLogin ∧ posting.token = some "" ∧ SignedOut t

theorem SignedOut.agrees {t : EntryState} (h : SignedOut t) : Agrees t := .inl h.1

/-! ## The methods, one by one -/

section Methods

/-- The method keeps the agreement at every suspension, makes only requests that are due, and
ends as said. -/
def Keeps {α : Type} (p : AuthM α) (post : Except Exn α → EntryState → Prop) (t : EntryState) :
    Prop :=
  Coro.audit (fun _ _ _ t => Agrees t) (fun _ _ => True) (fun t i => Agrees t ∧ Due t i)
    (stored p) post t

/-- What a method that hands out a token may come to. -/
def HandsOut (result : Except Exn (Option String)) (t : EntryState) : Prop :=
  Agrees t ∧ ∀ token, result = .ok token → ∃ text, token = some text ∧ text ≠ ""

variable {α β : Type} {t : EntryState}

theorem Keeps.mono {p : AuthM α} {post post' : Except Exn α → EntryState → Prop}
    (hpost : ∀ result t, post result t → post' result t) (h : Keeps p post t) :
    Keeps p post' t :=
  Coro.audit_mono hpost h

theorem Keeps.bind {p : AuthM α} {f : α → AuthM β} {mid : Except Exn α → EntryState → Prop}
    {post : Except Exn β → EntryState → Prop} (hp : Keeps p mid t)
    (hok : ∀ a t', mid (.ok a) t' → Keeps (f a) post t')
    (herror : ∀ e t', mid (.error e) t' → post (.error e) t') : Keeps (p >>= f) post t := by
  rw [Keeps, stored, Coro.layered_bind, Coro.audit_bind]
  apply Coro.audit_mono _ hp
  intro result t' hmid
  cases result with
  | ok a => exact hok a t' hmid
  | error e => exact herror e t' hmid

theorem serve_returns (op : AuthOp) : (serve op).Returns := by
  cases op with
  | post scheme path payload token => exact fun reply => ⟨reply, rfl⟩
  | load => exact fun t => ⟨_, rfl⟩
  | save session => exact fun t => ⟨(), rfl⟩
  | clear => exact fun t => ⟨(), rfl⟩

theorem Keeps.tryCatch {p : AuthM α} {f : Exn → AuthM α}
    {mid post : Except Exn α → EntryState → Prop}
    (hp : Keeps p mid t) (hok : ∀ a t', mid (.ok a) t' → post (.ok a) t')
    (herror : ∀ e t', mid (.error e) t' → Keeps (f e) post t') :
    Keeps (tryCatch p f) post t := by
  rw [Keeps, stored, Coro.layered_tryCatch serve_returns, Coro.audit_tryCatch]
  apply Coro.audit_mono _ hp
  intro result t' hmid
  cases result with
  | ok a => exact hok a t' hmid
  | error e => exact herror e t' hmid

theorem Keeps.post {scheme : Scheme} {path : String} {payload : Json} {token : Option String}
    {post : Except Exn HttpReply → EntryState → Prop} (hagrees : Agrees t)
    (hdue : Due t ⟨scheme, path, payload, token⟩)
    (hpost : ∀ reply t', Agrees t' → post (.ok reply) t') :
    Keeps (transportPost scheme path payload token) post t :=
  ⟨⟨hagrees, hdue⟩, hpost⟩

theorem keeps_asyncLogin (h : SignedOut t) : Keeps asyncLogin HandsOut t := by
  rw [Keeps, stored]
  simp only [asyncLogin, Coro.layered_bind, Coro.layered_gets, Coro.layered_ite, Coro.layered_throw,
    Coro.layered_ofExcept, transportPost, storeSave, Coro.layered_perform, Coro.audit_bind,
    Coro.audit_gets, Coro.audit_ite, Coro.audit_throw, Coro.audit_layered_modify,
    Coro.audit_ofExcept, serve, Coro.audit_perform, Coro.audit_modify]
  split
  · exact ⟨h.agrees, fun _ hresult => by cases hresult⟩
  refine ⟨trivial, ⟨h.agrees, .inr ⟨rfl, rfl, h⟩⟩, fun reply t' hagrees => ?_⟩
  cases Transport.send _ reply with
  | error exn => exact ⟨hagrees, fun _ hresult => by cases hresult⟩
  | ok data =>
      dsimp only
      split
      · exact ⟨hagrees, fun _ hresult => by cases hresult⟩
      next htruthy =>
        have htoken : ((dataObject data).get "accessToken").pyStr ≠ "" :=
          Json.pyStr_ne_empty (by simpa using htruthy)
        refine ⟨trivial, trivial, .inr ?_, fun token hresult => ⟨_, ?_, htoken⟩⟩
        · rw [load_save htoken]
          rfl
        · cases hresult
          rfl

theorem keeps_asyncGetToken (h : Agrees t) : Keeps asyncGetToken HandsOut t := by
  rw [Keeps, stored]
  simp only [asyncGetToken, Coro.layered_bind, Coro.layered_gets, Coro.layered_ite,
    Coro.layered_pure, storeLoad, Coro.layered_perform, Coro.audit_bind, Coro.audit_gets,
    Coro.audit_ite, Coro.audit_pure, Coro.audit_layered_modify, serve]
  split
  next hcached =>
    have htoken : t.manager.token ≠ none ∧ t.manager.token ≠ some "" := hcached
    refine ⟨h, fun token hresult => ?_⟩
    cases hresult
    obtain ⟨text, htext⟩ := Option.ne_none_iff_exists'.mp htoken.1
    refine ⟨text, htext, fun hempty => htoken.2 ?_⟩
    rw [htext, hempty]
  next hcached =>
    have hmissing : t.manager.token = none ∨ t.manager.token = some "" := by
      by_contra hnone
      exact hcached ⟨fun hnull => hnone (.inl hnull), fun hempty => hnone (.inr hempty)⟩
    split
    next hstored =>
      refine ⟨trivial, .inr rfl, fun token hresult => ?_⟩
      cases hresult
      obtain ⟨text, htext⟩ := Option.ne_none_iff_exists'.mp hstored.1
      refine ⟨text, htext, fun hempty => hstored.2 ?_⟩
      rw [htext, hempty]
    next hstored =>
      have hload : load t.data = none := by
        cases hsession : load t.data with
        | none => rfl
        | some session =>
            rw [hsession] at hstored
            have haccess := load_accessToken_ne hsession
            exact absurd ⟨Option.some_ne_none _, fun heq => haccess (Option.some.inj heq)⟩ hstored
      refine ⟨trivial, keeps_asyncLogin ⟨?_, hload⟩⟩
      rcases hmissing with hnone | hempty
      · exact hnone
      · rcases h with hnone | hsame
        · exact hnone
        · rw [hload, hempty] at hsame
          cases hsame

theorem keeps_asyncRelogin : Keeps asyncRelogin HandsOut t := by
  rw [Keeps, stored]
  simp only [asyncRelogin, Coro.layered_bind, storeClear, Coro.layered_perform, Coro.audit_bind,
    Coro.audit_layered_modify, serve, Coro.audit_modify]
  exact ⟨trivial, trivial, keeps_asyncLogin ⟨rfl, load_clear⟩⟩

theorem keeps_asyncRecover : Keeps asyncRecover HandsOut t := by
  rw [Keeps, stored]
  simp only [asyncRecover, Coro.layered_bind, storeClear, Coro.layered_perform, Coro.layered_gets,
    Coro.audit_bind, Coro.audit_layered_modify, Coro.audit_layered_modifyGet, Coro.audit_gets,
    serve, Coro.audit_modify]
  refine ⟨trivial, trivial, trivial, ?_⟩
  split
  · exact keeps_asyncLogin ⟨rfl, load_clear⟩
  · simp only [Coro.layered_ite, Coro.layered_bind, Coro.layered_throw, Coro.audit_ite,
      Coro.audit_bind, Coro.audit_layered_modify, Coro.audit_throw]
    split
    · exact ⟨trivial, .inl rfl, fun _ hresult => by cases hresult⟩
    · exact keeps_asyncLogin ⟨rfl, load_clear⟩

theorem keeps_request {attempt : Attempt} {scheme : Scheme} {path : String} {payload : Json}
    {token : Option String} (h : Agrees t) (htoken : ∃ text, token = some text ∧ text ≠ "") :
    Keeps (request attempt scheme path payload token) (fun _ => Agrees) t := by
  have hpost : Keeps (transportPost scheme path payload token) (fun _ => Agrees) t :=
    Keeps.post h (.inl htoken) fun _ _ hagrees => hagrees
  apply hpost.bind
  · intro reply t' hagrees
    rw [Keeps, stored]
    simp only [answered, Coro.layered_bind, Coro.layered_gets, Coro.audit_bind, Coro.audit_gets]
    cases Transport.send _ reply with
    | ok data => exact hagrees
    | error exn => exact ⟨trivial, hagrees⟩
  · exact fun _ _ hagrees => hagrees

/-- A token is handed out, and the request is sent again under it. -/
theorem keeps_retry {p : AuthM (Option String)} {scheme : Scheme} {path : String}
    {payload : Json} (hp : Keeps p HandsOut t) :
    Keeps (p >>= request .retry scheme path payload) (fun _ => Agrees) t := by
  apply Keeps.bind hp
  · exact fun token t' hmid => keeps_request hmid.1 (hmid.2 token rfl)
  · exact fun _ _ hmid => hmid.1

theorem keeps_recoverAndRetry {scheme : Scheme} {path : String} {payload : Json} {exn : Exn}
    (h : Agrees t) : Keeps (recoverAndRetry scheme path payload exn) (fun _ => Agrees) t := by
  cases exn with
  | dollin err =>
      rw [recoverAndRetry]
      split
      · exact h
      split
      · have hbudget : Keeps (Coro.modifyGet AuthState.expiryWithinBudget)
            (fun result _ => result.isOk = true) t := ⟨trivial, rfl⟩
        apply hbudget.bind
        · intro withinBudget t' _
          cases withinBudget with
          | true => exact keeps_retry keeps_asyncRelogin
          | false => exact keeps_retry keeps_asyncRecover
        · exact fun _ _ hmid => absurd hmid Bool.false_ne_true
      split
      · exact keeps_retry keeps_asyncRecover
      · exact h
  | _ => exact h

theorem keeps_authenticated {scheme : Scheme} {path : String} {payload : Json} (h : Agrees t) :
    Keeps (authenticated scheme path payload) (fun _ => Agrees) t := by
  apply Keeps.bind (keeps_asyncGetToken h)
  · intro token t' hmid
    apply Keeps.tryCatch (keeps_request hmid.1 (hmid.2 token rfl))
    · exact fun _ _ hagrees => hagrees
    · exact fun _ _ hagrees => keeps_recoverAndRetry hagrees
  · exact fun _ _ hmid => hmid.1

theorem keeps_asyncExtendToken (h : Agrees t) :
    Keeps asyncExtendToken (fun _ => Agrees) t := by
  apply Keeps.bind (keeps_authenticated h)
  · intro data t' hagrees
    dsimp only
    split
    · exact keeps_asyncRelogin.mono fun _ _ hmid => hmid.1
    next htruthy =>
      have htoken : ((dataObject data).get "accessToken").pyStr ≠ "" :=
        Json.pyStr_ne_empty (by simpa using htruthy)
      rw [Keeps, stored]
      simp only [storeLoad, storeSave, Coro.layered_bind, Coro.layered_gets, Coro.layered_perform,
        Coro.audit_bind, Coro.audit_layered_modify, Coro.audit_gets, Coro.audit_modify, serve]
      refine ⟨trivial, trivial, .inr ?_⟩
      rw [load_save htoken]
      rfl
  · exact fun _ _ hagrees => hagrees

end Methods

/-! ## The life of an account -/

/-- What is asked of the client, and writes to another key of the entry.  The flows that sign in
outright do so with a client of their own, which stores nothing in the entry. -/
inductive Admits (t : EntryState) : EntryM Unit → Prop
  | call (method : Method) (hmethod : method ≠ .login) :
      Admits t (stored (do let _ ← method.run))
  | elsewhere (f : Dict String Json → Dict String Json)
      (hf : ∀ data, (f data).get? storageKey = data.get? storageKey) :
      Admits t (Coro.modify fun t => { t with data := f t.data })

/-- A manager that has just been built on an entry. -/
def boot (config : AuthConfig) (clock : ℚ) (data : Dict String Json) : EntryState where
  manager := { config := config, clock := clock }
  data := data

/-- Every order of calls, answers and other writes, with restarts at any moment. -/
inductive Lifetime : Pool EntryState Posting PostingAnswer Exn Unit → Prop
  | boot (config : AuthConfig) (clock : ℚ) (data : Dict String Json) :
      Lifetime { shared := StoredManager.boot config clock data, threads := [] }
  | step {pool pool' : Pool EntryState Posting PostingAnswer Exn Unit} (hlife : Lifetime pool)
      (hstep : Pool.Step network Admits pool pool') : Lifetime pool'
  | restart {pool : Pool EntryState Posting PostingAnswer Exn Unit} (hlife : Lifetime pool)
      (config : AuthConfig) (clock : ℚ) :
      Lifetime { shared := StoredManager.boot config clock pool.shared.data, threads := [] }

section Lifetime

variable {t t' : EntryState} {pool pool' : Pool EntryState Posting PostingAnswer Exn Unit}

theorem Agrees.network {posting : Posting} {reply : HttpReply} (h : Agrees t)
    (hanswer : network t posting reply t') : Agrees t' := by
  obtain ⟨time, _, rfl⟩ := hanswer
  exact h

theorem Admits.upholds {p : EntryM Unit} (hadmits : Admits t p) (h : Agrees t) :
    p.Upholds Agrees Due t := by
  cases hadmits with
  | call method hmethod =>
      have hrun : Keeps (do let _ ← method.run) (fun _ => Agrees) t := by
        cases method with
        | authenticated scheme path payload =>
            exact (keeps_authenticated h).bind (fun _ _ hagrees => hagrees)
              fun _ _ hagrees => hagrees
        | getToken =>
            exact (keeps_asyncGetToken h).bind (fun _ _ hmid => hmid.1) fun _ _ hmid => hmid.1
        | login => exact absurd rfl hmethod
        | extendToken =>
            exact (keeps_asyncExtendToken h).bind (fun _ _ hagrees => hagrees)
              fun _ _ hagrees => hagrees
        | refreshToken =>
            have hreset : Keeps asyncRefreshToken HandsOut t :=
              ⟨trivial, keeps_asyncRelogin⟩
            exact hreset.bind (fun _ _ hmid => hmid.1) fun _ _ hmid => hmid.1
      exact hrun
  | elsewhere f hf =>
      refine ⟨trivial, h.imp id fun hsame => ?_⟩
      exact hsame.trans (congrArg (Option.map Session.accessToken) (load_congr (hf _)).symm)

theorem step_steady (hpool : pool.Steady Agrees Due)
    (hstep : Pool.Step network Admits pool pool') :
    pool'.Steady Agrees Due ∧ ∀ (k : ℕ) posting (next : HttpReply → EntryM Unit),
      pool'.threads[k]? = some (.await posting next) →
        pool.threads[k]? = some (.await posting next) ∨ Due pool'.shared posting := by
  apply hstep.steady _ _ hpool
  · exact fun _ _ _ _ hagrees hanswer => Agrees.network hagrees hanswer
  · exact fun _ _ hagrees hadmits => Admits.upholds hadmits hagrees

theorem Lifetime.steady (hlife : Lifetime pool) : pool.Steady Agrees Due := by
  induction hlife with
  | boot => exact ⟨.inl rfl, fun p hp => absurd hp List.not_mem_nil⟩
  | step _ hstep ih => exact (step_steady ih hstep).1
  | restart => exact ⟨.inl rfl, fun p hp => absurd hp List.not_mem_nil⟩

/-- A call has been made under the stored token, and awaits its answer. -/
def asking : Pool EntryState Posting PostingAnswer Exn Unit :=
  Pool.launch (stored (do let _ ← (Method.authenticated .oem epHomeIndex .null).run))
    { shared := boot freshManager.config 0 signedIn, threads := [] }

theorem lifetime_asking : Lifetime asking :=
  (Lifetime.boot _ _ _).step (.launch _ (.call _ Method.noConfusion))

/-- What the call goes on with. -/
def answering : HttpReply → EntryM Unit :=
  match asking.threads with
  | [.await _ next] => next
  | _ => fun _ => pure ()

/-- Nothing is sent without a token but a login, made where there is no session to use. -/
theorem lifetime_requests_due (hlife : Lifetime pool)
    (hstep : Pool.Step network Admits pool pool') (k : ℕ) (posting : Posting)
    (next : HttpReply → EntryM Unit) (hawaits : pool'.threads[k]? = some (.await posting next)) :
    pool.threads[k]? = some (.await posting next) ∨ Due pool'.shared posting :=
  (step_steady hlife.steady hstep).2 k posting next hawaits

theorem asking_due :
    ([] : List (EntryM Unit))[0]? =
        some (.await ⟨.oem, epHomeIndex, .null, some "T"⟩ answering) ∨
      Due asking.shared ⟨.oem, epHomeIndex, .null, some "T"⟩ :=
  lifetime_requests_due (.boot freshManager.config 0 signedIn)
    (.launch _ (.call _ Method.noConfusion)) 0 _ answering rfl

/-- A restart at any moment goes on with the token the manager held, and asks for nothing. -/
theorem restart_keeps_token (hlife : Lifetime pool) {token : String}
    (htoken : pool.shared.manager.token = some token) (config : AuthConfig) (clock : ℚ)
    {trace : List (Exchange Posting PostingAnswer)} {result : Except Exn (Option String)}
    (hrun : Coro.Traced network (stored asyncGetToken) (boot config clock pool.shared.data) trace
      result t') :
    trace = [] ∧ result = .ok (some token) ∧ t'.manager.token = some token ∧
      t'.data = pool.shared.data := by
  have hload : (load pool.shared.data).map Session.accessToken = some token := by
    rcases hlife.steady.shared with hnone | hsame
    · rw [htoken] at hnone
      cases hnone
    · rw [← hsame, htoken]
  have hne : token ≠ "" := by
    obtain ⟨session, hsession, rfl⟩ := Option.map_eq_some_iff.mp hload
    exact load_accessToken_ne hsession
  have hwpt : Coro.wpt network (stored asyncGetToken)
      (fun result trace t' => trace = [] ∧ result = .ok (some token) ∧
        t'.manager.token = some token ∧ t'.data = pool.shared.data) []
      (boot config clock pool.shared.data) := by
    simp only [stored, asyncGetToken, Coro.layered_bind, Coro.layered_gets, Coro.layered_ite,
      Coro.layered_pure, storeLoad, Coro.layered_perform, Coro.wpt_bind, Coro.wpt_gets,
      Coro.wpt_ite, Coro.wpt_pure, Coro.wpt_layered_modify, serve]
    rw [if_neg (fun hcached => hcached.1 rfl)]
    split
    next => exact ⟨trivial, congrArg Except.ok hload, hload, rfl⟩
    next habsent =>
      have hfound : (load pool.shared.data).map Session.accessToken ≠ none ∧
          (load pool.shared.data).map Session.accessToken ≠ some "" := by
        rw [hload]
        exact ⟨Option.some_ne_none _, fun heq => hne (Option.some.inj heq)⟩
      exact absurd hfound habsent
  exact hrun.post hwpt

/-- No answer is awaited by a look-up that finds the stored session. -/
def silent (_ : ℕ) (t : EntryState) (_ : Posting) : HttpReply × EntryState :=
  (.failed "", t)

theorem asking_restarted :
    (stored asyncGetToken).record silent 0 (boot freshManager.config 5 asking.shared.data) = [] ∧
      ((stored asyncGetToken).play silent 0
        (boot freshManager.config 5 asking.shared.data)).1 = .ok (some "T") ∧
      ((stored asyncGetToken).play silent 0
        (boot freshManager.config 5 asking.shared.data)).2.manager.token = some "T" ∧
      ((stored asyncGetToken).play silent 0
        (boot freshManager.config 5 asking.shared.data)).2.data = asking.shared.data :=
  restart_keeps_token lifetime_asking rfl _ _
    (Coro.traced_play silent (fun _ t _ => ⟨t.manager.clock, le_rfl, rfl⟩) _ 0 _)

end Lifetime

end Holabrain.StoredManager
