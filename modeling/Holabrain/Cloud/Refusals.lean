import Mathlib.Data.List.Count
import Holabrain.Core.Interference
import Holabrain.Cloud.Auth

/-!
# Concurrent refusals of one token

Requests that carry the same token are in flight together, and each of them handles a
refusal on its own: `_async_authenticated` never asks whether the token that was refused is
still the one the manager holds.  One refusal of it is harmless; a second one that arrives
after the first has been acted upon is counted again and throws the new session away.
-/

namespace Holabrain

namespace AuthEvent

def isLogin : AuthEvent → Bool
  | .login _ => true
  | _ => false

def isExpiry : AuthEvent → Bool
  | .expiry _ => true
  | _ => false

def isEviction : AuthEvent → Bool
  | .eviction _ => true
  | _ => false

end AuthEvent

namespace Auth

/-- The requests in flight: each took `token` from the manager when it was sent. -/
def Carries (token : String) (s : AuthState) (p : AuthM Members) : Prop :=
  s.token = some token ∧
    ∃ scheme path payload, p = authenticatedWith scheme path payload (some token)

/-- The answer refuses the token, not the credentials. -/
def Refuses (path : String) (reply : HttpReply) : Prop :=
  ∃ err : DollinError, Transport.send path reply = .error (.dollin err) ∧
    err.isAuthError = true ∧ err.isCredentialsRejected = false

/-- A cloud that refuses `token` only while the manager still holds it, and whose logins mint
a new one. -/
def prompt (token : String) : Environment AuthState AuthOp AuthAnswer := fun s op answer s' =>
  cloud s op answer s' ∧ match op, answer with
    | .post _ path _ carried, reply =>
        (carried = some token → Refuses (s.config.redactPath path) reply →
          s.token = some token) ∧
        (path = epLogin → ∀ data, Transport.send (s.config.redactPath path) reply = .ok data →
          ((dataObject data).get "accessToken").pyStr ≠ token)
    | _, _ => True

/-- What the loss of one token may cost. -/
structure LostAtMostOnce (log : List AuthEvent) : Prop where
  evictions : log.countP AuthEvent.isEviction ≤ 1
  expiries : log.countP AuthEvent.isExpiry ≤ 1
  logins : log.countP AuthEvent.isLogin ≤ 1

/-- A newer token, cached or stored, stays. -/
structure KeepsNewer (token : String) (s s' : AuthState) : Prop where
  cached : ∀ newer, newer ≠ token → s.token = some newer → s'.token = some newer
  stored : ∀ session, session.accessToken ≠ token → s.store = some session →
    s'.store = some session

/-- The manager holds the token and has lost none. -/
structure Held (token : String) (s : AuthState) : Prop where
  cached : s.token = some token
  stored : ∀ session, s.store = some session → session.accessToken = token
  evictions : s.log.countP AuthEvent.isEviction = 0
  expiries : s.log.countP AuthEvent.isExpiry = 0
  logins : s.log.countP AuthEvent.isLogin = 0

/-- The token is lost and counted, a new one is not there yet. -/
structure Dropping (token : String) (s : AuthState) : Prop where
  cached : s.token = none
  stored : ∀ session, s.store = some session → session.accessToken = token
  evictions : s.log.countP AuthEvent.isEviction ≤ 1
  expiries : s.log.countP AuthEvent.isExpiry ≤ 1
  logins : s.log.countP AuthEvent.isLogin = 0

/-- The token is lost, and the loss is counted once. -/
structure Dropped (token : String) (s : AuthState) : Prop where
  cached : s.token ≠ some token
  once : LostAtMostOnce s.log

/-- Nothing that matters here has changed. -/
structure Same (s s' : AuthState) : Prop where
  config : s'.config = s.config
  token : s'.token = s.token
  store : s'.store = s.store
  evictions : s'.log.countP AuthEvent.isEviction = s.log.countP AuthEvent.isEviction
  expiries : s'.log.countP AuthEvent.isExpiry = s.log.countP AuthEvent.isExpiry
  logins : s'.log.countP AuthEvent.isLogin = s.log.countP AuthEvent.isLogin

variable {token : String} {s s' s'' : AuthState}

namespace KeepsNewer

theorem refl (s : AuthState) : KeepsNewer token s s := ⟨fun _ _ h => h, fun _ _ h => h⟩

theorem trans (h : KeepsNewer token s s') (h' : KeepsNewer token s' s'') :
    KeepsNewer token s s'' :=
  ⟨fun newer hne hs => h'.cached newer hne (h.cached newer hne hs),
    fun session hne hs => h'.stored session hne (h.stored session hne hs)⟩

/-- There is nothing newer to keep. -/
theorem of_old (hcached : s.token = none ∨ s.token = some token)
    (hstored : ∀ session, s.store = some session → session.accessToken = token)
    (s' : AuthState) : KeepsNewer token s s' := by
  refine ⟨fun newer hne hs => ?_, fun session hne hs => absurd (hstored session hs) hne⟩
  rcases hcached with hnone | hsome
  · rw [hnone] at hs
    cases hs
  · rw [hsome] at hs
    exact absurd (Option.some.inj hs).symm hne

end KeepsNewer

namespace Same

theorem refl (s : AuthState) : Same s s := ⟨rfl, rfl, rfl, rfl, rfl, rfl⟩

theorem trans (h : Same s s') (h' : Same s' s'') : Same s s'' :=
  ⟨h'.config.trans h.config, h'.token.trans h.token, h'.store.trans h.store,
    h'.evictions.trans h.evictions, h'.expiries.trans h.expiries, h'.logins.trans h.logins⟩

theorem advance (s : AuthState) (time : ℚ) : Same s (s.advance time) :=
  ⟨rfl, rfl, rfl, rfl, rfl, rfl⟩

theorem note_failed (s : AuthState) (attempt : Attempt) (path : String) (exn : Exn) :
    Same s (s.note (.failed attempt path exn)) := by
  refine ⟨rfl, rfl, rfl, ?_, ?_, ?_⟩ <;>
    simp [AuthEvent.isEviction, AuthEvent.isExpiry, AuthEvent.isLogin]

theorem keepsNewer (h : Same s s') : KeepsNewer token s s' :=
  ⟨fun _ _ hs => h.token.trans hs, fun _ _ hs => h.store.trans hs⟩

theorem held (h : Same s s') (hs : Held token s) : Held token s' where
  cached := h.token.trans hs.cached
  stored := by
    rw [h.store]
    exact hs.stored
  evictions := h.evictions.trans hs.evictions
  expiries := h.expiries.trans hs.expiries
  logins := h.logins.trans hs.logins

theorem dropping (h : Same s s') (hs : Dropping token s) : Dropping token s' where
  cached := h.token.trans hs.cached
  stored := by
    rw [h.store]
    exact hs.stored
  evictions := h.evictions.trans_le hs.evictions
  expiries := h.expiries.trans_le hs.expiries
  logins := h.logins.trans hs.logins

theorem dropped (h : Same s s') (hs : Dropped token s) : Dropped token s' where
  cached := by
    rw [h.token]
    exact hs.cached
  once := ⟨h.evictions.trans_le hs.once.evictions, h.expiries.trans_le hs.once.expiries,
    h.logins.trans_le hs.once.logins⟩

end Same

theorem Held.once (h : Held token s) : LostAtMostOnce s.log :=
  ⟨h.evictions.trans_le zero_le_one, h.expiries.trans_le zero_le_one,
    h.logins.trans_le zero_le_one⟩

theorem Held.keepsNewer (h : Held token s) (s' : AuthState) : KeepsNewer token s s' :=
  .of_old (.inr h.cached) h.stored s'

theorem Dropping.keepsNewer (h : Dropping token s) (s' : AuthState) : KeepsNewer token s s' :=
  .of_old (.inl h.cached) h.stored s'

theorem Dropping.dropped (h : Dropping token s) : Dropped token s :=
  ⟨by simp [h.cached], h.evictions, h.expiries, h.logins.trans_le zero_le_one⟩

theorem Held.not_dropped (h : Held token s) : ¬ Dropped token s := fun hs => hs.cached h.cached

/-- What the others do while a request waits: anything that leaves the token held, and
nothing that matters once it is lost. -/
def Others (token : String) (s u : AuthState) : Prop := (Held token s ∧ Held token u) ∨ Same s u

/-- What a request does in one block once it has seen its token refused. -/
def Recovers (token : String) (s s' : AuthState) : Prop :=
  KeepsNewer token s s' ∧ Dropped token s'

/-- What a request has done where it ends. -/
def Ends (token : String) (s s' : AuthState) : Prop :=
  KeepsNewer token s s' ∧ (Held token s' ∨ Dropped token s')

theorem Recovers.ends (h : Recovers token s s') : Ends token s s' := ⟨h.1, .inr h.2⟩

theorem Same.recovers (h : Same s s') (hs : Dropped token s) : Recovers token s s' :=
  ⟨h.keepsNewer, h.dropped hs⟩

theorem Others.held (h : Others token s s') (hs : Held token s) : Held token s' :=
  h.elim And.right fun hsame => hsame.held hs

theorem Others.same (h : Others token s s') (hs : ¬ Held token s) : Same s s' :=
  h.elim (fun hheld => absurd hheld.1 hs) id

/-! ## Waiting for an answer -/

section Operations

variable {rely guar : AuthState → AuthState → Prop} {s₀ : AuthState}

theorem under_post {scheme : Scheme} {path : String} {payload : Json}
    {carried : Option String} {post : Except Exn HttpReply → AuthState → AuthState → Prop}
    (hguar : guar s₀ s)
    (h : ∀ u, rely s u → ∀ reply time, u.clock ≤ time →
      (carried = some token → Refuses (u.config.redactPath path) reply →
        u.token = some token) →
      (path = epLogin → ∀ data, Transport.send (u.config.redactPath path) reply = .ok data →
        ((dataObject data).get "accessToken").pyStr ≠ token) →
      post (.ok reply) u (u.advance time)) :
    Coro.under (prompt token) rely guar (transportPost scheme path payload carried) post s₀ s := by
  refine ⟨hguar, ?_⟩
  intro u hu reply s' hanswer
  obtain ⟨⟨time, htime, rfl⟩, hrefused, hminted⟩ := hanswer
  exact h u hu reply time htime hrefused hminted

theorem under_save {session : Session} {post : Except Exn Unit → AuthState → AuthState → Prop}
    (hguar : guar s₀ s)
    (h : ∀ u, rely s u → ∀ time, u.clock ≤ time →
      post (.ok ()) u ((u.setStore (some session)).advance time)) :
    Coro.under (prompt token) rely guar (storeSave session) post s₀ s := by
  refine ⟨hguar, ?_⟩
  intro u hu _ s' hanswer
  obtain ⟨⟨time, htime, rfl⟩, -⟩ := hanswer
  exact h u hu time htime

theorem under_clear {post : Except Exn Unit → AuthState → AuthState → Prop}
    (hguar : guar s₀ s)
    (h : ∀ u, rely s u → ∀ time, u.clock ≤ time →
      post (.ok ()) u ((u.setStore none).advance time)) :
    Coro.under (prompt token) rely guar storeClear post s₀ s := by
  refine ⟨hguar, ?_⟩
  intro u hu _ s' hanswer
  obtain ⟨⟨time, htime, rfl⟩, -⟩ := hanswer
  exact h u hu time htime

end Operations

/-! ## The methods of the manager -/

section Methods

variable {s₀ : AuthState}

theorem Dropping.note_login (h : Dropping token s) (time : ℚ) :
    Dropped token (s.note (.login time)) where
  cached := by simp [h.cached]
  once := by
    refine ⟨?_, ?_, ?_⟩
    · simpa [AuthEvent.isEviction] using h.evictions
    · simpa [AuthEvent.isExpiry] using h.expiries
    · simp [AuthEvent.isLogin, h.logins]

theorem Dropped.issued (h : Dropped token s) {minted : String} (hminted : minted ≠ token)
    (time : ℚ) : Dropped token (((s.advance time).logIn minted).note (.issued minted)) where
  cached := by simpa using hminted
  once := by
    refine ⟨?_, ?_, ?_⟩
    · simpa [AuthEvent.isEviction] using h.once.evictions
    · simpa [AuthEvent.isExpiry] using h.once.expiries
    · simpa [AuthEvent.isLogin] using h.once.logins

theorem under_asyncLogin (hold : ∀ s', KeepsNewer token s₀ s') (hs : Dropping token s) :
    Coro.under (prompt token) (Others token) (Recovers token) asyncLogin
      (fun _ => Recovers token) s₀ s := by
  simp only [asyncLogin, Coro.under_bind, Coro.under_gets, Coro.under_ite, Coro.under_throw,
    Coro.under_modify, Coro.under_ofExcept]
  split
  · exact ⟨hold _, hs.dropped⟩
  have hsent := hs.note_login s.clock
  apply under_post ⟨hold _, hsent⟩
  intro u hu reply time _ _ hminted
  have hsame : Same (s.note (.login s.clock)) u := hu.same fun hheld => hheld.not_dropped hsent
  have hdropped : Dropped token u := hsame.dropped hsent
  have hstore : ∀ session, u.store = some session → session.accessToken = token := by
    rw [hsame.store]
    exact hs.stored
  have hnew : ∀ s', KeepsNewer token u s' :=
    KeepsNewer.of_old (.inl (hsame.token.trans hs.cached)) hstore
  rw [hsame.config, show (s.note (.login s.clock)).config = s.config from rfl] at hminted
  dsimp only
  cases hdata : Transport.send (s.config.redactPath epLogin) reply with
  | error exn => exact (Same.advance u time).recovers hdropped
  | ok data =>
      dsimp only
      split
      · exact (Same.advance u time).recovers hdropped
      have hissued := hdropped.issued (hminted rfl data hdata) time
      apply under_save ⟨hnew _, hissued⟩
      intro v hv time' _
      have hsaved := hv.same fun hheld => hheld.not_dropped hissued
      have hdone := hsaved.dropped hissued
      refine ⟨⟨fun _ _ h => h, fun session hne hstored => ?_⟩, hdone.cached, hdone.once⟩
      rw [hsaved.store] at hstored
      exact absurd (hstore session hstored) hne

theorem Dropping.setStore_none (h : Dropping token s) (time : ℚ) :
    Dropping token ((s.setStore none).advance time) :=
  ⟨h.cached, by simp, h.evictions, h.expiries, h.logins⟩

theorem under_asyncRelogin (hold : ∀ s', KeepsNewer token s₀ s')
    (hs : Dropping token (s.setToken none)) :
    Coro.under (prompt token) (Others token) (Recovers token) asyncRelogin
      (fun _ => Recovers token) s₀ s := by
  simp only [asyncRelogin, Coro.under_bind, Coro.under_modify]
  apply under_clear ⟨hold _, hs.dropped⟩
  intro u hu time _
  have hcleared := (hu.same fun hheld => hheld.not_dropped hs.dropped).dropping hs
  exact under_asyncLogin hcleared.keepsNewer (hcleared.setStore_none time)

theorem Dropping.note_takeover (h : Dropping token s) (deadline : ℚ) :
    Dropped token (s.note (.takeover deadline)) where
  cached := by simp [h.cached]
  once := by
    refine ⟨?_, ?_, ?_⟩
    · simpa [AuthEvent.isEviction] using h.evictions
    · simpa [AuthEvent.isExpiry] using h.expiries
    · simp [AuthEvent.isLogin, h.logins]

theorem under_asyncRecover (hold : ∀ s', KeepsNewer token s₀ s')
    (hs : Dropping token (s.noteEviction.2.setToken none)) :
    Coro.under (prompt token) (Others token) (Recovers token) asyncRecover
      (fun _ => Recovers token) s₀ s := by
  simp only [asyncRecover, Coro.under_bind, Coro.under_modifyGet, Coro.under_modify,
    Coro.under_gets, id_eq]
  apply under_clear ⟨hold _, hs.dropped⟩
  intro u hu time _
  have hdropping := (hu.same fun hheld => hheld.not_dropped hs.dropped).dropping hs
  have hcleared := hdropping.setStore_none time
  dsimp only
  cases ((u.setStore none).advance time).lastLogin with
  | none => exact under_asyncLogin hdropping.keepsNewer hcleared
  | some lastLogin =>
      simp only [Coro.under_ite, Coro.under_bind, Coro.under_modify, Coro.under_throw]
      split
      · exact ⟨hdropping.keepsNewer _, hcleared.note_takeover _⟩
      · exact under_asyncLogin hdropping.keepsNewer hcleared

theorem under_answered {attempt : Attempt} {path : String} {reply : HttpReply}
    {rely guar : AuthState → AuthState → Prop}
    {post : Except Exn Members → AuthState → AuthState → Prop}
    (hok : ∀ data, Transport.send (s.config.redactPath path) reply = .ok data →
      post (.ok data) s₀ s)
    (herror : ∀ exn, Transport.send (s.config.redactPath path) reply = .error exn →
      post (.error exn) s₀ (s.note (.failed attempt path exn))) :
    Coro.under (prompt token) rely guar (answered attempt path reply) post s₀ s := by
  simp only [answered, Coro.under_bind, Coro.under_gets]
  cases hsend : Transport.send (s.config.redactPath path) reply with
  | ok data => exact hok data hsend
  | error exn => exact herror exn hsend

/-- The retry changes nothing that matters. -/
theorem under_retry {scheme : Scheme} {path : String} {payload : Json}
    {carried : Option String} (hs : Recovers token s₀ s) :
    Coro.under (prompt token) (Others token) (Recovers token)
      (request .retry scheme path payload carried) (fun _ => Recovers token) s₀ s := by
  rw [request, Coro.under_bind]
  apply under_post hs
  intro u hu reply time _ _ _
  have hdropped := (hu.same fun hheld => hheld.not_dropped hs.2).dropped hs.2
  apply under_answered
  · exact fun data _ => (Same.advance u time).recovers hdropped
  · exact fun exn _ => ((Same.advance u time).trans (Same.note_failed _ _ _ _)).recovers hdropped

theorem Held.noteEviction (h : Held token s) :
    Dropping token (s.noteEviction.2.setToken none) where
  cached := rfl
  stored := h.stored
  evictions := by simp [AuthState.noteEviction, AuthEvent.isEviction, h.evictions]
  expiries := by simp [AuthState.noteEviction, AuthEvent.isExpiry, h.expiries]
  logins := by simp [AuthState.noteEviction, AuthEvent.isLogin, h.logins]

theorem Held.expiryWithinBudget (h : Held token s) :
    Dropping token (s.expiryWithinBudget.2.setToken none) where
  cached := rfl
  stored := h.stored
  evictions := by simp [AuthState.expiryWithinBudget, AuthEvent.isEviction, h.evictions]
  expiries := by simp [AuthState.expiryWithinBudget, AuthEvent.isExpiry, h.expiries]
  logins := by simp [AuthState.expiryWithinBudget, AuthEvent.isLogin, h.logins]

/-- Past the budget a loss is counted once as an expiry and once as an eviction. -/
theorem Dropping.noteEviction {t : AuthState} (h : Dropping token (t.setToken none))
    (hnone : t.log.countP AuthEvent.isEviction = 0) :
    Dropping token (t.noteEviction.2.setToken none) where
  cached := rfl
  stored := h.stored
  evictions := by simp [AuthState.noteEviction, AuthEvent.isEviction, hnone]
  expiries := by simpa [AuthState.noteEviction, AuthEvent.isExpiry] using h.expiries
  logins := by simpa [AuthState.noteEviction, AuthEvent.isLogin] using h.logins

theorem under_recoverAndRetry {scheme : Scheme} {path : String} {payload : Json} {exn : Exn}
    (hold : ∀ s', KeepsNewer token s₀ s') (hs : Held token s) :
    Coro.under (prompt token) (Others token) (Recovers token)
      (recoverAndRetry scheme path payload exn) (fun _ => Ends token) s₀ s := by
  have hstop : Ends token s₀ s := ⟨hold s, .inl hs⟩
  have hretry : ∀ (p : AuthM (Option String)) (t : AuthState),
      Coro.under (prompt token) (Others token) (Recovers token) p (fun _ => Recovers token)
        s₀ t →
      Coro.under (prompt token) (Others token) (Recovers token)
        (p >>= fun carried => request .retry scheme path payload carried)
        (fun _ => Ends token) s₀ t := by
    intro p t hp
    rw [Coro.under_bind]
    apply Coro.under_mono _ hp
    intro result t₀ t' ht
    cases result with
    | error exn => exact ht.ends
    | ok carried => exact Coro.under_mono (fun _ _ _ h => h.ends) (under_retry ht)
  cases exn with
  | dollin err =>
      simp only [recoverAndRetry]
      split
      · exact hstop
      split
      · have hexpired := hs.expiryWithinBudget
        rw [Coro.under_bind, Coro.under_modifyGet]
        dsimp only
        cases s.expiryWithinBudget.1 with
        | true => exact hretry _ _ (under_asyncRelogin hold hexpired)
        | false =>
            refine hretry _ _ (under_asyncRecover hold (hexpired.noteEviction ?_))
            simp [AuthState.expiryWithinBudget, AuthEvent.isEviction, hs.evictions]
      split
      · exact hretry _ _ (under_asyncRecover hold hs.noteEviction)
      · exact hstop
  | _ => exact hstop

end Methods

/-! ## Requests in flight -/

/-- A request that is still waiting for the answer to its first send, or has ended. -/
structure Waiting (token : String) (p : AuthM Members) : Prop where
  held : ∀ s, Held token s → Coro.Parked (prompt token) (Others token) (Recovers token)
    (fun _ => Ends token) s p
  late : ∀ s, Coro.Parked (prompt token) (fun _ u => Dropped token u) (fun _ _ => False)
    (fun _ => Same) s p

theorem Waiting.authenticatedWith (scheme : Scheme) (path : String) (payload : Json)
    (s : AuthState) :
    Waiting token ((authenticatedWith scheme path payload (some token)).settle s).1 := by
  refine ⟨?_, ?_⟩
  · intro s hs u hu reply t hanswer
    obtain ⟨⟨time, -, rfl⟩, -, -⟩ := hanswer
    change Coro.under _ _ _ (tryCatch (answered .first path reply) _) _ _ _
    have hheld : Held token (u.advance time) := (Same.advance u time).held (hu.held hs)
    have hold : ∀ s', KeepsNewer token u s' := (hu.held hs).keepsNewer
    rw [Coro.under_tryCatch]
    apply under_answered
    · exact fun data _ => ⟨hold _, .inl hheld⟩
    · exact fun exn _ => under_recoverAndRetry hold ((Same.note_failed _ _ _ _).held hheld)
  · intro s u hu reply t hanswer
    obtain ⟨⟨time, -, rfl⟩, hrefused, -⟩ := hanswer
    change Coro.under _ _ _ (tryCatch (answered .first path reply) _) _ _ _
    rw [Coro.under_tryCatch]
    apply under_answered
    · exact fun data _ => Same.advance u time
    · intro exn hexn
      have hsame : Same u ((u.advance time).note (.failed .first path exn)) :=
        (Same.advance u time).trans (Same.note_failed _ _ _ _)
      cases exn with
      | dollin err =>
          have hkept : ¬ (err.isAuthError = true ∧ err.isCredentialsRejected = false) :=
            fun herr => hu.cached (hrefused rfl ⟨err, hexn, herr⟩)
          cases err with
          | authError message => exact absurd ⟨rfl, rfl⟩ hkept
          | sessionTakeoverError cooldown waited => exact absurd ⟨rfl, rfl⟩ hkept
          | tokenExpiredError message => exact absurd ⟨rfl, rfl⟩ hkept
          | credentialsRejectedError message => exact hsame
          | networkError message => exact hsame
          | apiError message code => exact hsame
          | rateLimitError message code => exact hsame
      | _ => exact hsame

theorem Waiting.done (result : Except Exn Members) : Waiting token (.done result) :=
  ⟨fun _ _ => trivial, fun _ => trivial⟩

/-- At most one request has seen the token refused, and everything it has yet to do is
harmless. -/
inductive OneRecovery (token : String) :
    Pool AuthState AuthOp AuthAnswer Exn Members → Prop
  | held {pool} (hheld : Held token pool.shared)
      (hwaiting : ∀ (j : ℕ) p, pool.threads[j]? = some p → Waiting token p) :
      OneRecovery token pool
  | dropped {pool} (k : ℕ) (hdropped : Dropped token pool.shared)
      (howner : ∀ p, pool.threads[k]? = some p →
        Coro.Parked (prompt token) (Others token) (Recovers token) (fun _ => Ends token)
          pool.shared p)
      (hwaiting : ∀ (j : ℕ) p, j ≠ k → pool.threads[j]? = some p → Waiting token p) :
      OneRecovery token pool

theorem getElem?_set_of_ne {α : Type} {l : List α} {j k : ℕ} {a b : α} (hne : j ≠ k)
    (h : (l.set k b)[j]? = some a) : l[j]? = some a := by
  rwa [List.getElem?_set_ne hne.symm] at h

theorem eq_of_getElem?_set {α : Type} {l : List α} {k : ℕ} {a b : α}
    (h : (l.set k b)[k]? = some a) : a = b := by
  rw [List.getElem?_set_self'] at h
  cases hk : l[k]? with
  | none => simp [hk] at h
  | some c => simpa [hk] using h.symm

/-- One block of the request that deals with the refusal, or of any while the token is
held. -/
theorem OneRecovery.resume {pool : Pool AuthState AuthOp AuthAnswer Exn Members} {k : ℕ}
    {t : AuthState} {p : AuthM Members}
    (hwaiting : ∀ j q, j ≠ k → pool.threads[j]? = some q → Waiting token q)
    (hblock : Coro.under (prompt token) (Others token) (Recovers token) p
      (fun _ => Ends token) pool.shared t) :
    OneRecovery token ⟨(p.settle t).2, pool.threads.set k (p.settle t).1⟩ ∧
      KeepsNewer token pool.shared (p.settle t).2 := by
  have hothers : ∀ j q, j ≠ k → (pool.threads.set k (p.settle t).1)[j]? = some q →
      Waiting token q := fun j q hne hq => hwaiting j q hne (getElem?_set_of_ne hne hq)
  rcases Coro.under_settle hblock with ⟨hrecovers, hparked⟩ | ⟨result, hdone, hends⟩
  · refine ⟨.dropped k hrecovers.2 ?_ hothers, hrecovers.1⟩
    intro q hq
    rw [eq_of_getElem?_set hq]
    exact hparked
  · refine ⟨?_, hends.1⟩
    rcases hends.2 with hheld | hdropped
    · refine .held hheld fun j q hq => ?_
      by_cases hj : j = k
      · subst hj
        rw [eq_of_getElem?_set hq, hdone]
        exact .done result
      · exact hothers j q hj hq
    · refine .dropped k hdropped ?_ hothers
      intro q hq
      rw [eq_of_getElem?_set hq, hdone]
      trivial

theorem OneRecovery.step {pool pool' : Pool AuthState AuthOp AuthAnswer Exn Members}
    (hinv : OneRecovery token pool)
    (hstep : Pool.Step (prompt token) (Carries token) pool pool') :
    OneRecovery token pool' ∧ KeepsNewer token pool.shared pool'.shared := by
  cases hstep with
  | resume k hthread hanswer =>
      cases hinv with
      | held hheld hwaiting =>
          apply OneRecovery.resume (fun j q _ hq => hwaiting j q hq)
          exact (hwaiting k _ hthread).held _ hheld _ (.inr (.refl _)) _ _ hanswer
      | dropped owner hdropped howner hwaiting =>
          by_cases hk : k = owner
          · subst hk
            apply OneRecovery.resume hwaiting
            exact howner _ hthread _ (.inr (.refl _)) _ _ hanswer
          · have hlate := (hwaiting k _ hk hthread).late pool.shared _ hdropped _ _ hanswer
            rcases Coro.under_settle hlate with ⟨hfalse, -⟩ | ⟨result, hdone, hsame⟩
            · exact hfalse.elim
            refine ⟨.dropped owner (hsame.dropped hdropped) ?_ ?_, hsame.keepsNewer⟩
            · intro q hq
              rw [List.getElem?_set_ne hk] at hq
              refine (howner q hq).mono fun v hv => ?_
              exact .inr (hsame.trans (hv.same fun hheld =>
                hheld.not_dropped (hsame.dropped hdropped)))
            · intro j q hj hq
              by_cases hjk : j = k
              · subst hjk
                rw [eq_of_getElem?_set hq, hdone]
                exact .done result
              · exact hwaiting j q hj (getElem?_set_of_ne hjk hq)
  | launch p hadmits =>
      obtain ⟨htoken, scheme, path, payload, rfl⟩ := hadmits
      cases hinv with
      | held hheld hwaiting =>
          refine ⟨.held hheld fun j q hq => ?_, .refl _⟩
          rcases List.mem_append.mp (List.mem_of_getElem? hq) with hmem | hmem
          · obtain ⟨j', hj'⟩ := List.mem_iff_getElem?.mp hmem
            exact hwaiting j' q hj'
          · rw [List.mem_singleton.mp hmem]
            exact .authenticatedWith scheme path payload _
      | dropped owner hdropped => exact absurd htoken hdropped.cached

/-- Requests that carry one token lose it at most once, and never the one that replaces it,
as long as no refusal of it arrives after the manager has let go of it. -/
theorem lostAtMostOnce_of_prompt {pool pool' : Pool AuthState AuthOp AuthAnswer Exn Members}
    (hheld : Held token s)
    (hrun : Pool.Run (prompt token) (Carries token) { shared := s, threads := [] } pool)
    (hlater : Pool.Run (prompt token) (Carries token) pool pool') :
    LostAtMostOnce pool'.shared.log ∧ KeepsNewer token pool.shared pool'.shared := by
  have hinit : OneRecovery token { shared := s, threads := [] } := .held hheld (by simp)
  have hfirst := hrun.relates _ KeepsNewer.refl (fun h h' => h.trans h')
    (fun p q hp hstep => hp.step hstep) hinit
  have hsecond := hlater.relates _ KeepsNewer.refl (fun h h' => h.trans h')
    (fun p q hp hstep => hp.step hstep) hfirst.1
  refine ⟨?_, hsecond.2⟩
  cases hsecond.1 with
  | held hheld => exact hheld.once
  | dropped k hdropped => exact hdropped.once

/-- What the handler of a refusal does before it awaits anything: it drops the cached token,
whichever that is by then. -/
theorem settle_recoverAndRetry {err : DollinError} (hauth : err.isAuthError = true)
    (hcredentials : err.isCredentialsRejected = false) (scheme : Scheme) (path : String)
    (payload : Json) :
    ((recoverAndRetry scheme path payload (.dollin err)).settle s).2.token = none ∧
      ((recoverAndRetry scheme path payload (.dollin err)).settle s).2.store = s.store := by
  have hcounted : ∀ (withinBudget : Bool) (t : AuthState), t.store = s.store →
      ((if withinBudget then
          asyncRelogin >>= fun carried => request .retry scheme path payload carried
        else asyncRecover >>= fun carried => request .retry scheme path payload carried).settle
          t).2.token = none ∧
      ((if withinBudget then
          asyncRelogin >>= fun carried => request .retry scheme path payload carried
        else asyncRecover >>= fun carried => request .retry scheme path payload carried).settle
          t).2.store = s.store := by
    intro withinBudget t hstore
    cases withinBudget with
    | true => exact ⟨rfl, hstore⟩
    | false => exact ⟨rfl, hstore⟩
  cases err with
  | tokenExpiredError message => exact hcounted s.expiryWithinBudget.1 s.expiryWithinBudget.2 rfl
  | authError message => exact ⟨rfl, rfl⟩
  | sessionTakeoverError cooldown waited => exact ⟨rfl, rfl⟩
  | credentialsRejectedError message => cases hcredentials
  | _ => cases hauth

/-- In its first block the handler of a refusal keeps what is newer exactly if nothing newer is
cached. -/
theorem keepsNewer_refusal_iff {err : DollinError} (hauth : err.isAuthError = true)
    (hcredentials : err.isCredentialsRejected = false) (scheme : Scheme) (path : String)
    (payload : Json) :
    KeepsNewer token s ((recoverAndRetry scheme path payload (.dollin err)).settle s).2 ↔
      ∀ newer, s.token = some newer → newer = token := by
  obtain ⟨hnone, hstore⟩ := settle_recoverAndRetry hauth hcredentials scheme path payload
  constructor
  · intro hkeeps newer hnewer
    by_contra hne
    have hkept := hkeeps.cached newer hne hnewer
    rw [hnone] at hkept
    cases hkept
  · intro hold
    constructor
    · intro newer hne hnewer
      exact absurd (hold newer hnewer) hne
    · intro session _ hstored
      rw [hstore, hstored]

/-! ## Two requests that are refused -/

/-- A cloud in which `t0` has expired and every login mints a new token.  It refuses a
request that carries `t0` late as well if `stale`, and only while `t0` is cached if not. -/
def expiredCloud (stale : Bool) (s : AuthState) : (op : AuthOp) → AuthAnswer op × AuthState
  | .post _ path _ carried =>
      (.response 200 (some (.obj
        (if carried = some "t0" ∧ (stale ∨ s.token = some "t0") then
          [("code", .int 12001), ("msg", .str "token expired")]
        else if path = epLogin then
          [("code", .int 0), ("data", .obj [("accessToken",
            .str (if s.log.countP AuthEvent.isLogin ≤ 1 then "t1" else "t2"))])]
        else [("code", .int 0), ("data", .arr [])]))), s)
  | .load => (s.store, s)
  | .save session => ((), s.setStore (some session))
  | .clear => ((), s.setStore none)

theorem cloud_expiredCloud (stale : Bool) (s : AuthState) (op : AuthOp) :
    cloud s op (expiredCloud stale s op).1 (expiredCloud stale s op).2 := by
  refine ⟨s.clock, le_rfl, ?_⟩
  cases op with
  | post scheme path payload token => rfl
  | load => exact ⟨rfl, rfl⟩
  | save session => rfl
  | clear => rfl

theorem send_of_code_zero (safe : String) {data : Members} (hcode : data.get "code" = .int 0) :
    Transport.send safe (.response 200 (some (.obj data))) = .ok data := by
  simp [Transport.send, Transport.sendObject, hcode, Json.eqInt]

theorem send_expired (safe : String) :
    Transport.send safe (.response 200 (some (.obj
      [("code", .int 12001), ("msg", .str "token expired")]))) =
      .error (.dollin (.tokenExpiredError "token expired")) := by
  rfl

/-- In the prompt cloud a late request is answered, and `t0` is never minted again. -/
theorem prompt_expiredCloud (s : AuthState) (op : AuthOp) :
    prompt "t0" s op (expiredCloud false s op).1 (expiredCloud false s op).2 := by
  refine ⟨cloud_expiredCloud false s op, ?_⟩
  cases op with
  | post scheme path payload carried =>
      refine ⟨?_, ?_⟩
      · intro hcarried hrefused
        obtain ⟨err, herr, -⟩ := hrefused
        subst hcarried
        by_contra hgone
        simp only [expiredCloud] at herr
        rw [if_neg (by simpa using hgone)] at herr
        split at herr
        · rw [send_of_code_zero _ (by rfl)] at herr
          cases herr
        · rw [send_of_code_zero _ (by rfl)] at herr
          cases herr
      · intro hlogin data hdata
        subst hlogin
        simp only [expiredCloud, if_true] at hdata
        split at hdata
        · rw [send_expired] at hdata
          cases hdata
        · rw [send_of_code_zero _ (by rfl), Except.ok.injEq] at hdata
          subst hdata
          split <;> decide
  | _ => trivial

/-- The cloud refuses whatever carries the token, early or late. -/
def refusing (token : String) : Environment AuthState AuthOp AuthAnswer := fun s op answer s' =>
  cloud s op answer s' ∧ match op, answer with
    | .post _ path _ carried, reply =>
        carried = some token → Refuses (s.config.redactPath path) reply
    | _, _ => True

theorem refusing_expiredCloud (s : AuthState) (op : AuthOp) :
    refusing "t0" s op (expiredCloud true s op).1 (expiredCloud true s op).2 := by
  refine ⟨cloud_expiredCloud true s op, ?_⟩
  cases op with
  | post scheme path payload carried =>
      intro hcarried
      subst hcarried
      exact ⟨.tokenExpiredError "token expired", send_expired _, rfl, rfl⟩
  | _ => trivial

def heldManager : AuthState where
  config :=
    { account := "user", password := "secret", country := "RU", region := "eu",
      encryptPassword := id, redactPath := id }
  token := some "t0"
  store := some { accessToken := "t0" }
  clock := 0

theorem held_heldManager : Held "t0" heldManager :=
  ⟨rfl, by simp [heldManager], rfl, rfl, rfl⟩

/-- A request for the inventory that carries the first token. -/
def listing : AuthM Members := authenticatedWith .oem epHomeIndex (.obj []) (some "t0")

/-- Two of them in flight. -/
def bothInFlight : Pool AuthState AuthOp AuthAnswer Exn Members :=
  (Pool.launch listing { shared := heldManager, threads := [] }).launch listing

/-- The first is refused, recovers and ends. -/
def oneRecovered (stale : Bool) : Pool AuthState AuthOp AuthAnswer Exn Members :=
  (Pool.resume (expiredCloud stale) 0)^[5] bothInFlight

/-- So does the second. -/
def bothRecovered (stale : Bool) : Pool AuthState AuthOp AuthAnswer Exn Members :=
  (Pool.resume (expiredCloud stale) 1)^[5] (oneRecovered stale)

theorem run_bothInFlight {env : Environment AuthState AuthOp AuthAnswer} :
    Pool.Run env (Carries "t0") { shared := heldManager, threads := [] } bothInFlight := by
  refine ((Pool.Run.launch .refl listing ?_).launch listing ?_)
  · exact ⟨rfl, _, _, _, rfl⟩
  · exact ⟨rfl, _, _, _, rfl⟩

theorem lostAtMostOnce_bothRecovered :
    LostAtMostOnce (bothRecovered false).shared.log ∧
      KeepsNewer "t0" (oneRecovered false).shared (bothRecovered false).shared :=
  lostAtMostOnce_of_prompt held_heldManager
    (run_bothInFlight.resumes prompt_expiredCloud 0 5)
    (Pool.Run.resumes .refl prompt_expiredCloud 1 5)

/-- If the second is refused as well, it throws the new token away and logs in again. -/
theorem not_lostAtMostOnce_bothRecovered :
    Held "t0" heldManager ∧
      Pool.Run (refusing "t0") (Carries "t0") { shared := heldManager, threads := [] }
        (oneRecovered true) ∧
      Pool.Run (refusing "t0") (Carries "t0") (oneRecovered true) (bothRecovered true) ∧
      ¬ LostAtMostOnce (bothRecovered true).shared.log ∧
      ¬ KeepsNewer "t0" (oneRecovered true).shared (bothRecovered true).shared := by
  refine ⟨held_heldManager, run_bothInFlight.resumes refusing_expiredCloud 0 5,
    Pool.Run.resumes .refl refusing_expiredCloud 1 5, ?_, ?_⟩
  · intro honce
    have hexpiries : (bothRecovered true).shared.log.countP AuthEvent.isExpiry = 2 := by
      decide +kernel
    have honly := honce.expiries
    omega
  · intro hkeeps
    have hfirst : (oneRecovered true).shared.token = some "t1" := by decide +kernel
    have hsecond : (bothRecovered true).shared.token = some "t2" := by decide +kernel
    have hkept := hkeeps.cached "t1" (by decide) hfirst
    rw [hsecond] at hkept
    exact absurd hkept (by decide)

end Auth

end Holabrain
