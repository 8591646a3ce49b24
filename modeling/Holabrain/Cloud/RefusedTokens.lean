import Holabrain.Cloud.Cooldown

/-!
# Refused tokens

Once the cloud has refused a token, no later request should carry it.  The handler of a first
refusal drops the token from the manager and from the store before it logs in again.  The
retry sits outside that handler: a token that is refused there, the first time it is used,
stays where it is, and the next call sends it again.
-/

namespace Holabrain.Auth

/-! ## Requests and refusals -/

/-- The error refuses a token: not the credentials, and no other failure. -/
def refusesToken : Exn → Bool
  | .dollin err => err.isAuthError && !err.isCredentialsRejected
  | _ => false

/-- The request carries this token.  A login carries none. -/
def Bears (token : String) : Exchange AuthOp AuthAnswer → Prop
  | ⟨.post _ _ _ carried, _⟩ => carried = some token ∧ token ≠ ""
  | _ => False

/-- The request carried this token, and was refused for it. -/
def RefusedFor (token : String) : Exchange AuthOp AuthAnswer → Prop
  | ⟨.post _ path _ carried, reply⟩ => (carried = some token ∧ token ≠ "") ∧
      ∃ exn, Transport.send path reply = .error exn ∧ refusesToken exn = true
  | _ => False

/-- The manager or the store holds the token. -/
def Holds (s : AuthState) (token : String) : Prop :=
  s.token = some token ∨ s.store.map Session.accessToken = some token

/-- A refused token is neither sent again nor kept. -/
structure Retired (trace : List (Exchange AuthOp AuthAnswer)) (s : AuthState) : Prop where
  unsent : trace.Pairwise fun x y => ∀ token, RefusedFor token x → ¬ Bears token y
  unheld : ∀ x ∈ trace, ∀ token, RefusedFor token x → ¬ Holds s token

/-- The retry of some call was refused for its token. -/
def SecondRefusal (log : List AuthEvent) : Prop :=
  ∃ path exn, .failed .retry path exn ∈ log ∧ refusesToken exn = true

def issuedTokens (log : List AuthEvent) : List String :=
  log.filterMap fun event => match event with
    | .issued token => some token
    | _ => none

/-- Every login minted a token that was never issued before. -/
def FreshLogins (initial : Option String) (log : List AuthEvent) : Prop :=
  (issuedTokens log).Nodup ∧ ∀ token ∈ issuedTokens log, initial ≠ some token

/-- The sequential runs of a fresh manager, with everything it asked for: `initial` is the
token that was stored when it was built. -/
inductive Served (initial : Option String) : List (Exchange AuthOp AuthAnswer) → AuthState → Prop
  | init (config : AuthConfig) (store : Option Session) (clock : ℚ)
      (hstored : store.map Session.accessToken = initial) :
      Served initial [] { config := config, store := store, clock := clock }
  | call {trace trace' : List (Exchange AuthOp AuthAnswer)} {s s' : AuthState} (scheme : Scheme)
      (path : String) (payload : Json) {result : Except Exn Members} (time : ℚ)
      (hserved : Served initial trace s) (htime : s.clock ≤ time)
      (htraced : Coro.Traced cloud (authenticated scheme path payload) (s.advance time) trace'
        result s') :
      Served initial (trace ++ trace') s'

/-- Whether an answer refuses the token does not depend on how its path is quoted. -/
theorem refuses_send (safe safe' : String) (reply : HttpReply) :
    (∃ exn, Transport.send safe reply = .error exn ∧ refusesToken exn = true) →
      ∃ exn, Transport.send safe' reply = .error exn ∧ refusesToken exn = true := by
  intro hrefused
  obtain ⟨exn, hsend, hrefuses⟩ := hrefused
  cases reply with
  | failed detail =>
      cases hsend
      cases hrefuses
  | response status body =>
      simp only [Transport.send] at hsend ⊢
      split at hsend
      · exact ⟨_, if_pos ‹_›, rfl⟩
      next hstatus =>
        rw [if_neg hstatus]
        split at hsend
        · cases hsend
          cases hrefuses
        next hlimited =>
          rw [if_neg hlimited]
          cases body with
          | none =>
              cases hsend
              cases hrefuses
          | some data =>
              cases data with
              | obj data =>
                  simp only [Transport.sendObject] at hsend ⊢
                  split at hsend
                  · cases hsend
                    cases hrefuses
                  next hcode =>
                    rw [if_neg hcode]
                    exact ⟨exn, hsend, hrefuses⟩
              | _ =>
                  cases hsend
                  cases hrefuses

/-! ## What holds throughout a run -/

/-- The token was in the store from the start, or a login minted it. -/
def Known (initial : Option String) (s : AuthState) (token : String) : Prop :=
  initial = some token ∨ token ∈ issuedTokens s.log

/-- Nothing but known tokens is kept or sent, and none is sent after its refusal as long as
no retry was refused. -/
structure Ledger (initial : Option String) (trace : List (Exchange AuthOp AuthAnswer))
    (s : AuthState) : Prop where
  held : ∀ token, Holds s token → Known initial s token
  borne : ∀ x ∈ trace, ∀ token, Bears token x → Known initial s token
  unsent : FreshLogins initial s.log → ¬ SecondRefusal s.log →
    trace.Pairwise fun x y => ∀ token, RefusedFor token x → ¬ Bears token y

/-- None of the refused tokens is kept. -/
def Unheld (trace : List (Exchange AuthOp AuthAnswer)) (s : AuthState) : Prop :=
  ∀ x ∈ trace, ∀ token, RefusedFor token x → ¬ Holds s token

/-- A token that was refused on a retry has been sent again. -/
def Resent (trace : List (Exchange AuthOp AuthAnswer)) (s : AuthState) : Prop :=
  SecondRefusal s.log →
    ¬ trace.Pairwise fun x y => ∀ token, RefusedFor token x → ¬ Bears token y

/-- Inside a call, while the refused tokens are gone. -/
structure Settled (initial : Option String) (trace : List (Exchange AuthOp AuthAnswer))
    (s : AuthState) : Prop extends Ledger initial trace s where
  unheld : FreshLogins initial s.log → ¬ SecondRefusal s.log → Unheld trace s
  resent : Resent trace s

/-- Between two calls: a token that was refused on a retry has been sent again, or it is the
one that the manager will send next. -/
structure AtRest (initial : Option String) (trace : List (Exchange AuthOp AuthAnswer))
    (s : AuthState) : Prop extends Ledger initial trace s where
  unheld : FreshLogins initial s.log → ¬ SecondRefusal s.log → Unheld trace s
  stuck : Resent trace s ∨
    ∃ token, s.token = some token ∧ ∃ x ∈ trace, RefusedFor token x

section Ledger

variable {initial : Option String} {trace : List (Exchange AuthOp AuthAnswer)}
  {x : Exchange AuthOp AuthAnswer} {s s' : AuthState}

theorem RefusedFor.bears {token : String} (h : RefusedFor token x) : Bears token x := by
  obtain ⟨op, answer⟩ := x
  cases op with
  | post scheme path payload carried => exact h.1
  | _ => exact h.elim

theorem issuedTokens_note {event : AuthEvent} (hevent : ∀ token, event ≠ .issued token) :
    issuedTokens (s.note event).log = issuedTokens s.log := by
  rw [issuedTokens, issuedTokens, AuthState.note_log, List.filterMap_append]
  cases event with
  | issued token => exact absurd rfl (hevent token)
  | _ => simp

theorem secondRefusal_note {event : AuthEvent}
    (hevent : ∀ path exn, event = .failed .retry path exn → refusesToken exn = false) :
    SecondRefusal (s.note event).log ↔ SecondRefusal s.log := by
  constructor
  · intro h
    obtain ⟨path, exn, hmem, hrefuses⟩ := h
    rw [AuthState.note_log, List.mem_append, List.mem_singleton] at hmem
    rcases hmem with hmem | heq
    · exact ⟨path, exn, hmem, hrefuses⟩
    · rw [hevent path exn heq.symm] at hrefuses
      cases hrefuses
  · intro h
    obtain ⟨path, exn, hmem, hrefuses⟩ := h
    exact ⟨path, exn, List.mem_append_left _ hmem, hrefuses⟩

/-- What a step leaves alone: it keeps no further token and the record of logins and refused
retries stays as it is. -/
structure Quiet (s s' : AuthState) : Prop where
  held : ∀ token, Holds s' token → Holds s token
  issued : issuedTokens s'.log = issuedTokens s.log
  second : SecondRefusal s'.log ↔ SecondRefusal s.log

namespace Quiet

theorem refl (s : AuthState) : Quiet s s := ⟨fun _ h => h, rfl, Iff.rfl⟩

theorem trans {s'' : AuthState} (h : Quiet s s') (h' : Quiet s' s'') : Quiet s s'' :=
  ⟨fun token ht => h.held token (h'.held token ht), h'.issued.trans h.issued,
    h'.second.trans h.second⟩

theorem advance (s : AuthState) (time : ℚ) : Quiet s (s.advance time) :=
  ⟨fun _ h => h, rfl, Iff.rfl⟩

theorem note {event : AuthEvent} (hissued : ∀ token, event ≠ .issued token)
    (hsecond : ∀ path exn, event = .failed .retry path exn → refusesToken exn = false) :
    Quiet s (s.note event) :=
  ⟨fun _ h => h, issuedTokens_note hissued, secondRefusal_note hsecond⟩

theorem setToken_none (s : AuthState) : Quiet s (s.setToken none) := by
  refine ⟨fun token hheld => ?_, rfl, Iff.rfl⟩
  rcases hheld with hcached | hstored
  · cases hcached
  · exact .inr hstored

theorem setStore_none (s : AuthState) : Quiet s (s.setStore none) := by
  refine ⟨fun token hheld => ?_, rfl, Iff.rfl⟩
  rcases hheld with hcached | hstored
  · exact .inl hcached
  · cases hstored

/-- The counters say nothing of tokens. -/
theorem of_counted {event : AuthEvent} (htoken : s'.token = s.token) (hstore : s'.store = s.store)
    (hlog : s'.log = (s.note event).log) (hissued : ∀ token, event ≠ .issued token)
    (hsecond : ∀ path exn, event = .failed .retry path exn → refusesToken exn = false) :
    Quiet s s' := by
  refine ⟨fun token hheld => ?_, ?_, ?_⟩
  · rwa [Holds, htoken, hstore] at hheld
  · rw [hlog]
    exact issuedTokens_note hissued
  · rw [hlog]
    exact secondRefusal_note hsecond

theorem noteEviction (s : AuthState) : Quiet s s.noteEviction.2 :=
  .of_counted rfl rfl rfl (by simp) (by simp)

theorem expiryWithinBudget (s : AuthState) : Quiet s s.expiryWithinBudget.2 :=
  .of_counted rfl rfl rfl (by simp) (by simp)

theorem fresh (h : Quiet s s') : FreshLogins initial s'.log ↔ FreshLogins initial s.log := by
  rw [FreshLogins, FreshLogins, h.issued]

theorem known (h : Quiet s s') {token : String} :
    Known initial s' token ↔ Known initial s token := by
  rw [Known, Known, h.issued]

end Quiet

/-- A quiet step, with or without a request that carries no token. -/
theorem Ledger.frame (h : Ledger initial trace s) (hquiet : Quiet s s')
    {new : List (Exchange AuthOp AuthAnswer)}
    (hnew : ∀ x ∈ new, ∀ token, ¬ Bears token x) : Ledger initial (trace ++ new) s' where
  held token hheld := hquiet.known.mpr (h.held token (hquiet.held token hheld))
  borne x hx token hbears := by
    rcases List.mem_append.mp hx with hx | hx
    · exact hquiet.known.mpr (h.borne x hx token hbears)
    · exact absurd hbears (hnew x hx token)
  unsent hfresh hsecond := by
    rw [hquiet.fresh] at hfresh
    rw [hquiet.second] at hsecond
    refine List.pairwise_append.mpr ⟨h.unsent hfresh hsecond, ?_, ?_⟩
    · exact List.pairwise_iff_getElem.mpr fun i j hi hj _ token _ =>
        hnew _ (List.getElem_mem hj) token
    · exact fun x _ y hy token _ => hnew y hy token

theorem Unheld.frame (h : Unheld trace s) (hquiet : Quiet s s')
    {new : List (Exchange AuthOp AuthAnswer)}
    (hnew : ∀ x ∈ new, ∀ token, ¬ RefusedFor token x) : Unheld (trace ++ new) s' := by
  intro x hx token hrefused hheld
  rcases List.mem_append.mp hx with hx | hx
  · exact h x hx token hrefused (hquiet.held token hheld)
  · exact hnew x hx token hrefused

theorem Resent.frame (h : Resent trace s) (hquiet : Quiet s s')
    (new : List (Exchange AuthOp AuthAnswer)) : Resent (trace ++ new) s' := by
  intro hsecond hpairwise
  exact h (hquiet.second.mp hsecond) (List.pairwise_append.mp hpairwise).1

theorem Settled.frame (h : Settled initial trace s) (hquiet : Quiet s s')
    {new : List (Exchange AuthOp AuthAnswer)}
    (hnew : ∀ x ∈ new, ∀ token, ¬ Bears token x) : Settled initial (trace ++ new) s' where
  toLedger := h.toLedger.frame hquiet hnew
  unheld hfresh hsecond :=
    (h.unheld (hquiet.fresh.mp hfresh) (mt hquiet.second.mpr hsecond)).frame hquiet
      fun x hx token hrefused => hnew x hx token hrefused.bears
  resent := h.resent.frame hquiet new

theorem not_bears_nil : ∀ x ∈ ([] : List (Exchange AuthOp AuthAnswer)),
    ∀ token, ¬ Bears token x := by
  simp

theorem Ledger.quiet (h : Ledger initial trace s) (hquiet : Quiet s s') :
    Ledger initial trace s' := by
  simpa using h.frame hquiet not_bears_nil

theorem Settled.quiet (h : Settled initial trace s) (hquiet : Quiet s s') :
    Settled initial trace s' := by
  simpa using h.frame hquiet not_bears_nil

theorem Resent.quiet (h : Resent trace s) (hquiet : Quiet s s') : Resent trace s' := by
  simpa using h.frame hquiet []

theorem Settled.atRest (h : Settled initial trace s) : AtRest initial trace s where
  toLedger := h.toLedger
  unheld := h.unheld
  stuck := .inl h.resent

theorem AtRest.advance (h : AtRest initial trace s) (time : ℚ) :
    AtRest initial trace (s.advance time) :=
  ⟨⟨h.held, h.borne, h.unsent⟩, h.unheld, h.stuck⟩

end Ledger

/-! ## The methods of the manager -/

section Methods

variable {initial : Option String} {trace : List (Exchange AuthOp AuthAnswer)} {s : AuthState}

/-- Requests that carry no token. -/
theorem not_bears_load (stored : Option Session) :
    ∀ x ∈ [(⟨.load, stored⟩ : Exchange AuthOp AuthAnswer)], ∀ token, ¬ Bears token x := by
  simp [Bears]

theorem not_bears_clear :
    ∀ x ∈ [(⟨.clear, ()⟩ : Exchange AuthOp AuthAnswer)], ∀ token, ¬ Bears token x := by
  simp [Bears]

theorem not_bears_login (payload : Json) (reply : HttpReply) :
    ∀ x ∈ [(⟨.post .oem epLogin payload (some ""), reply⟩ : Exchange AuthOp AuthAnswer)],
      ∀ token, ¬ Bears token x := by
  intro x hx token hbears
  rw [List.mem_singleton.mp hx] at hbears
  obtain ⟨hcarried, hne⟩ := hbears
  exact hne (Option.some.inj hcarried).symm

theorem freshLogins_issued {token : String} :
    FreshLogins initial ((s.logIn token).note (.issued token)).log ↔
      FreshLogins initial s.log ∧ ¬ Known initial s token := by
  have hlog : issuedTokens ((s.logIn token).note (.issued token)).log =
      issuedTokens s.log ++ [token] := by
    rw [issuedTokens, AuthState.note_log, List.filterMap_append]
    rfl
  rw [FreshLogins, FreshLogins, Known, hlog, List.nodup_append_comm, List.singleton_append,
    List.nodup_cons]
  simp only [List.mem_append, List.mem_singleton]
  constructor
  · intro h
    obtain ⟨⟨hnew, hnodup⟩, hinitial⟩ := h
    refine ⟨⟨hnodup, fun t ht => hinitial t (.inl ht)⟩, fun hknown => ?_⟩
    exact hknown.elim (hinitial token (.inr rfl)) hnew
  · intro h
    obtain ⟨⟨hnodup, hinitial⟩, hnew⟩ := h
    rw [not_or] at hnew
    refine ⟨⟨hnew.2, hnodup⟩, fun t ht => ?_⟩
    rcases ht with ht | rfl
    · exact hinitial t ht
    · exact hnew.1

/-- A new token that replaces whatever was kept. -/
theorem Settled.issued (h : Settled initial trace s) {session : Session} (time : ℚ) :
    Settled initial (trace ++ [⟨.save session, ()⟩])
      (((((s.logIn session.accessToken).note (.issued session.accessToken))).setStore
        (some session)).advance time) := by
  have hheld : ∀ token, Holds (((((s.logIn session.accessToken).note
      (.issued session.accessToken))).setStore (some session)).advance time) token →
      token = session.accessToken := by
    intro token hheld
    rcases hheld with hcached | hstored
    · exact (Option.some.inj hcached).symm
    · exact (Option.some.inj hstored).symm
  have hissued : issuedTokens (((((s.logIn session.accessToken).note
      (.issued session.accessToken))).setStore (some session)).advance time).log =
      issuedTokens s.log ++ [session.accessToken] := by
    rw [issuedTokens]
    exact List.filterMap_append
  have hsecond : SecondRefusal (((((s.logIn session.accessToken).note
      (.issued session.accessToken))).setStore (some session)).advance time).log ↔
      SecondRefusal s.log :=
    secondRefusal_note (s := s.logIn session.accessToken) (by simp)
  have hfresh : FreshLogins initial (((((s.logIn session.accessToken).note
      (.issued session.accessToken))).setStore (some session)).advance time).log ↔
      FreshLogins initial s.log ∧ ¬ Known initial s session.accessToken :=
    freshLogins_issued
  have hsave : ∀ x ∈ [(⟨.save session, ()⟩ : Exchange AuthOp AuthAnswer)],
      ∀ token, ¬ Bears token x := by simp [Bears]
  refine ⟨⟨?_, ?_, ?_⟩, ?_, ?_⟩
  · intro token htoken
    rw [Known, hissued, hheld token htoken]
    exact .inr (List.mem_append_right _ (.head _))
  · intro x hx token hbears
    rcases List.mem_append.mp hx with hx | hx
    · rw [Known, hissued]
      exact (h.borne x hx token hbears).imp_right (List.mem_append_left _)
    · exact absurd hbears (hsave x hx token)
  · intro hfresh' hsecond'
    refine List.pairwise_append.mpr ⟨h.unsent (hfresh.mp hfresh').1 (mt hsecond.mpr hsecond'),
      List.pairwise_singleton _ _, ?_⟩
    exact fun x _ y hy token _ => hsave y hy token
  · intro hfresh' _ x hx token hrefused htoken
    rcases List.mem_append.mp hx with hx | hx
    · have hknown := h.borne x hx token hrefused.bears
      rw [hheld token htoken] at hknown
      exact (hfresh.mp hfresh').2 hknown
    · exact hsave x hx token hrefused.bears
  · intro hsecond' hpairwise
    exact h.resent (hsecond.mp hsecond') (List.pairwise_append.mp hpairwise).1

/-- What a login hands out is what the manager then keeps. -/
def Handed (result : Except Exn (Option String)) (s : AuthState) : Prop :=
  ∀ carried, result = .ok carried → ∃ token, carried = some token ∧ token ≠ "" ∧
    s.token = some token

/-- A look-up that finds a token that is not empty. -/
theorem handed_of_token (hcached : s.token ≠ none ∧ s.token ≠ some "") :
    Handed (.ok s.token) s := by
  intro carried hcarried
  cases hcarried
  obtain ⟨token, hsome⟩ := Option.ne_none_iff_exists'.mp hcached.1
  exact ⟨token, hsome, fun hempty => hcached.2 (by rw [hsome, hempty]), hsome⟩

theorem wpt_asyncLogin_settled (h : Settled initial trace s) :
    Coro.wpt cloud asyncLogin (fun result trace' s' => Settled initial trace' s' ∧
      Handed result s') trace s := by
  have hfailed : ∀ {exn : Exn} {s' : AuthState}, Handed (.error exn) s' := by
    intro exn s' carried hok
    cases hok
  have hsent : ∀ reply time, Settled initial
      (trace ++ [⟨.post .oem epLogin (loginBody s.config) (some ""), reply⟩])
      ((s.note (.login s.clock)).advance time) := by
    intro reply time
    apply h.frame _ (not_bears_login _ _)
    exact (Quiet.note (by simp) (by simp)).trans (.advance _ _)
  apply wpt_asyncLogin
  · exact fun _ _ => ⟨h, hfailed⟩
  · exact fun _ reply time _ _ => ⟨hsent reply time, hfailed⟩
  · intro _ reply time session time' _ htoken _
    refine ⟨(hsent reply time).issued time', fun carried hcarried => ?_⟩
    cases hcarried
    exact ⟨_, rfl, htoken, rfl⟩

/-- Dropping the token and clearing the store leaves nothing that was refused. -/
theorem Ledger.cleared (h : Ledger initial trace s) (hresent : Resent trace s) (time : ℚ) :
    Settled initial (trace ++ [⟨.clear, ()⟩])
      (((s.setToken none).setStore none).advance time) := by
  have hquiet : Quiet s (((s.setToken none).setStore none).advance time) :=
    ((Quiet.setToken_none s).trans (.setStore_none _)).trans (.advance _ _)
  refine ⟨h.frame hquiet not_bears_clear, fun _ _ x _ token _ hheld => ?_,
    hresent.frame hquiet _⟩
  rcases hheld with hcached | hstored
  · cases hcached
  · cases hstored

theorem wpt_asyncRelogin_settled (h : Ledger initial trace s) (hresent : Resent trace s) :
    Coro.wpt cloud asyncRelogin (fun result trace' s' => Settled initial trace' s' ∧
      Handed result s') trace s := by
  simp only [asyncRelogin, Coro.wpt_bind, Coro.wpt_modify, wpt_clear]
  exact fun time _ => wpt_asyncLogin_settled (h.cleared hresent time)

theorem wpt_asyncRecover_settled (h : Ledger initial trace s) (hresent : Resent trace s) :
    Coro.wpt cloud asyncRecover (fun result trace' s' => Settled initial trace' s' ∧
      Handed result s') trace s := by
  have hnoted := Quiet.noteEviction s
  have hcleared := (h.quiet hnoted).cleared (hresent.quiet hnoted)
  apply wpt_asyncRecover
  · intro _ time deadline exn _
    refine ⟨(hcleared time).quiet (.note (by simp) (by simp)), fun carried hok => ?_⟩
    cases hok
  · exact fun time _ => wpt_asyncLogin_settled (hcleared time)

/-- A manager that keeps no token has none that is stuck. -/
theorem AtRest.settled (h : AtRest initial trace s)
    (hnone : ¬ (s.token ≠ none ∧ s.token ≠ some "")) : Settled initial trace s := by
  refine ⟨h.toLedger, h.unheld, ?_⟩
  rcases h.stuck with hresent | ⟨token, htoken, x, _, hrefused⟩
  · exact hresent
  · have hne : token ≠ "" := by
      obtain ⟨op, answer⟩ := x
      cases op with
      | post scheme path payload carried => exact hrefused.1.2
      | _ => exact hrefused.elim
    rw [not_and_or, not_not, not_not, htoken] at hnone
    rcases hnone with hnone | hempty
    · cases hnone
    · exact absurd (Option.some.inj hempty) hne

/-- A call's first look-up hands out what the manager then keeps. -/
theorem wpt_asyncGetToken_atRest (h : AtRest initial trace s) :
    Coro.wpt cloud asyncGetToken (fun result trace' s' => AtRest initial trace' s' ∧
      Handed result s') trace s := by
  apply wpt_asyncGetToken
  · exact fun htoken => ⟨h, handed_of_token htoken⟩
  · intro hnone time htime hstored
    have hquiet : Quiet s ((s.advance time).setToken (s.store.map Session.accessToken)) := by
      refine ⟨fun token hheld => ?_, rfl, Iff.rfl⟩
      exact .inr (hheld.elim id id)
    exact ⟨((h.settled hnone).frame hquiet (not_bears_load _)).atRest,
      handed_of_token (s := (s.advance time).setToken (s.store.map Session.accessToken)) hstored⟩
  · intro hnone time htime _
    have hquiet : Quiet s ((s.advance time).note (.noToken time)) :=
      (Quiet.advance s time).trans (.note (by simp) (by simp))
    apply Coro.wpt_mono _ (wpt_asyncLogin_settled
      ((h.settled hnone).frame hquiet (not_bears_load _)))
    intro result trace' s' hs'
    exact ⟨hs'.1.atRest, hs'.2⟩

/-! ### Sending a token -/

/-- One answered request under the token `carried`. -/
def exchangeOf (scheme : Scheme) (path : String) (payload : Json) (carried : Option String)
    (reply : HttpReply) : Exchange AuthOp AuthAnswer :=
  ⟨.post scheme path payload carried, reply⟩

section Sending

variable {token : String} {scheme : Scheme} {path : String} {payload : Json} {reply : HttpReply}

theorem bears_exchangeOf {t : String} :
    Bears t (exchangeOf scheme path payload (some token) reply) → t = token := by
  intro hbears
  exact (Option.some.inj hbears.1).symm

/-- A token that is kept, and was not refused before, is sent. -/
theorem Ledger.sent (h : Ledger initial trace s)
    (hunheld : FreshLogins initial s.log → ¬ SecondRefusal s.log → Unheld trace s)
    (htoken : s.token = some token) (time : ℚ) :
    Ledger initial (trace ++ [exchangeOf scheme path payload (some token) reply])
      (s.advance time) where
  held := h.held
  borne x hx t hbears := by
    rcases List.mem_append.mp hx with hx | hx
    · exact h.borne x hx t hbears
    · rw [List.mem_singleton.mp hx] at hbears
      rw [bears_exchangeOf hbears]
      exact h.held token (.inl htoken)
  unsent hfresh hsecond := by
    refine List.pairwise_append.mpr ⟨h.unsent hfresh hsecond, List.pairwise_singleton _ _, ?_⟩
    intro x hx y hy t hrefused hbears
    rw [List.mem_singleton.mp hy] at hbears
    rw [bears_exchangeOf hbears] at hrefused
    exact hunheld hfresh hsecond x hx token hrefused (.inl htoken)

/-- A refused token that is sent again has been sent again. -/
theorem AtRest.resent (h : AtRest initial trace s) (htoken : s.token = some token)
    (hne : token ≠ "") (time : ℚ) :
    Resent (trace ++ [exchangeOf scheme path payload (some token) reply]) (s.advance time) := by
  intro hsecond hpairwise
  obtain ⟨hbefore, _, hacross⟩ := List.pairwise_append.mp hpairwise
  rcases h.stuck with hresent | ⟨t, ht, x, hx, hrefused⟩
  · exact hresent hsecond hbefore
  · rw [htoken] at ht
    cases ht
    exact hacross x hx _ (.head _) token hrefused ⟨rfl, hne⟩

/-- An answer that does not refuse the token leaves it where it is. -/
theorem Unheld.sent (h : Unheld trace s) (time : ℚ)
    (haccepted : ∀ t, ¬ RefusedFor t (exchangeOf scheme path payload (some token) reply)) :
    Unheld (trace ++ [exchangeOf scheme path payload (some token) reply]) (s.advance time) := by
  apply h.frame (.advance s time)
  intro x hx t
  rw [List.mem_singleton.mp hx]
  exact haccepted t

/-- Nor does it unsettle a manager that keeps no refused token. -/
theorem Ledger.accepted (h : Ledger initial trace s)
    (hunheld : FreshLogins initial s.log → ¬ SecondRefusal s.log → Unheld trace s)
    (htoken : s.token = some token) {time : ℚ}
    (hresent : Resent (trace ++ [exchangeOf scheme path payload (some token) reply])
      (s.advance time))
    (haccepted : ∀ t, ¬ RefusedFor t (exchangeOf scheme path payload (some token) reply)) :
    Settled initial (trace ++ [exchangeOf scheme path payload (some token) reply])
      (s.advance time) where
  toLedger := h.sent hunheld htoken time
  unheld hfresh hsecond := (hunheld hfresh hsecond).sent time haccepted
  resent := hresent

/-- One send awaits once; a failure is written down and raised. -/
theorem wpt_request {attempt : Attempt} {carried : Option String}
    {post : Except Exn Members → List (Exchange AuthOp AuthAnswer) → AuthState → Prop}
    (h : ∀ reply time, s.clock ≤ time →
      match Transport.send (s.config.redactPath path) reply with
      | .ok data => post (.ok data) (trace ++ [exchangeOf scheme path payload carried reply])
          (s.advance time)
      | .error exn => post (.error exn)
          (trace ++ [exchangeOf scheme path payload carried reply])
          ((s.advance time).note (.failed attempt path exn))) :
    Coro.wpt cloud (request attempt scheme path payload carried) post trace s := by
  simp only [request, answered, Coro.wpt_bind, wpt_post, Coro.wpt_gets]
  intro reply time htime
  have hreply := h reply time htime
  rw [AuthState.advance_config]
  revert hreply
  cases Transport.send (s.config.redactPath path) reply with
  | ok data => exact id
  | error exn => exact id

/-- An answer that raises nothing, or another failure, refuses no token. -/
theorem not_refusedFor_exchangeOf {safe : String} {result : Except Exn Members}
    (hsend : Transport.send safe reply = result)
    (hresult : ∀ exn, result = .error exn → refusesToken exn = false) (t : String) :
    ¬ RefusedFor t (exchangeOf scheme path payload (some token) reply) := by
  intro hrefused
  obtain ⟨exn, herror, hrefuses⟩ := refuses_send path safe reply hrefused.2
  rw [hresult exn (hsend.symm.trans herror)] at hrefuses
  cases hrefuses

/-- Whatever the retry is answered, the call leaves the manager at rest. -/
theorem wpt_retry_atRest (h : Settled initial trace s) (htoken : s.token = some token)
    (hne : token ≠ "") :
    Coro.wpt cloud (request .retry scheme path payload (some token))
      (fun _ trace' s' => AtRest initial trace' s') trace s := by
  apply wpt_request
  intro reply time _
  have hsent : Ledger initial (trace ++ [exchangeOf scheme path payload (some token) reply])
      (s.advance time) := h.toLedger.sent h.unheld htoken time
  have hresent := h.resent.frame (.advance s time)
    [exchangeOf scheme path payload (some token) reply]
  have haccepted := h.toLedger.accepted h.unheld htoken hresent
  cases hsend : Transport.send (s.config.redactPath path) reply with
  | ok data =>
      exact (haccepted (not_refusedFor_exchangeOf hsend (by simp))).atRest
  | error exn =>
      dsimp only
      cases hrefuses : refusesToken exn with
      | false =>
          have hnot := haccepted (not_refusedFor_exchangeOf hsend (by simpa using hrefuses))
          exact (hnot.quiet (.note (by simp) (by simpa using hrefuses))).atRest
      | true =>
          -- the token stays cached: it is the one that the next call will send
          have hissued : issuedTokens ((s.advance time).note (.failed .retry path exn)).log =
              issuedTokens s.log := issuedTokens_note (by simp)
          have hsecond : SecondRefusal ((s.advance time).note (.failed .retry path exn)).log :=
            ⟨path, exn, List.mem_append_right _ (.head _), hrefuses⟩
          have hrefused : RefusedFor token
              (exchangeOf scheme path payload (some token) reply) :=
            ⟨⟨rfl, hne⟩, refuses_send _ _ reply ⟨exn, hsend, hrefuses⟩⟩
          refine ⟨⟨?_, ?_, fun _ hnot => absurd hsecond hnot⟩,
            fun _ hnot => absurd hsecond hnot, .inr ⟨token, htoken, _, ?_, hrefused⟩⟩
          · intro t ht
            rw [Known, hissued]
            exact hsent.held t ht
          · intro x hx t hbears
            rw [Known, hissued]
            exact hsent.borne x hx t hbears
          · exact List.mem_append_right _ (.head _)

/-- A first refusal hands over to the recovery, anything else ends the call. -/
theorem wpt_recoverAndRetry_atRest {exn : Exn} (h : Ledger initial trace s)
    (hresent : Resent trace s) (hrest : refusesToken exn = false → AtRest initial trace s) :
    Coro.wpt cloud (recoverAndRetry scheme path payload exn)
      (fun _ trace' s' => AtRest initial trace' s') trace s := by
  have hretry : ∀ (p : AuthM (Option String)) (t : AuthState),
      Coro.wpt cloud p (fun result trace' s' => Settled initial trace' s' ∧ Handed result s')
        trace t →
      Coro.wpt cloud (p >>= fun token => request .retry scheme path payload token)
        (fun _ trace' s' => AtRest initial trace' s') trace t := by
    intro p t hp
    rw [Coro.wpt_bind]
    apply Coro.wpt_mono _ hp
    intro result trace' s' hs'
    cases result with
    | error exn => exact hs'.1.atRest
    | ok carried =>
        obtain ⟨token, rfl, hne, htoken⟩ := hs'.2 carried rfl
        exact wpt_retry_atRest hs'.1 htoken hne
  cases exn with
  | dollin err =>
      simp only [recoverAndRetry]
      split
      next hcredentials => exact hrest (by simp [refusesToken, hcredentials])
      split
      · rw [Coro.wpt_bind, Coro.wpt_modifyGet]
        have hnoted := Quiet.expiryWithinBudget s
        dsimp only
        cases s.expiryWithinBudget.1 with
        | false =>
            exact hretry _ _ (wpt_asyncRecover_settled (h.quiet hnoted) (hresent.quiet hnoted))
        | true =>
            exact hretry _ _ (wpt_asyncRelogin_settled (h.quiet hnoted) (hresent.quiet hnoted))
      split
      · exact hretry _ _ (wpt_asyncRecover_settled h hresent)
      next hauth => exact hrest (by simp [refusesToken, hauth])
  | _ => exact hrest rfl

end Sending

theorem wpt_authenticated_atRest {scheme : Scheme} {path : String} {payload : Json}
    (h : AtRest initial trace s) :
    Coro.wpt cloud (authenticated scheme path payload)
      (fun _ trace' s' => AtRest initial trace' s') trace s := by
  rw [authenticated, Coro.wpt_bind]
  apply Coro.wpt_mono _ (wpt_asyncGetToken_atRest h)
  intro result trace' t ht
  cases result with
  | error exn => exact ht.1
  | ok carried =>
      obtain ⟨hrest, hhanded⟩ := ht
      obtain ⟨token, rfl, hne, htoken⟩ := hhanded carried rfl
      change Coro.wpt cloud (tryCatch _ _) _ _ _
      rw [Coro.wpt_tryCatch]
      apply wpt_request
      intro reply time _
      have hsent : Ledger initial
          (trace' ++ [exchangeOf scheme path payload (some token) reply]) (t.advance time) :=
        hrest.toLedger.sent hrest.unheld htoken time
      have hresent : Resent (trace' ++ [exchangeOf scheme path payload (some token) reply])
          (t.advance time) := hrest.resent htoken hne time
      have haccepted := hrest.toLedger.accepted hrest.unheld htoken hresent
      cases hsend : Transport.send (t.config.redactPath path) reply with
      | ok data =>
          exact (haccepted (not_refusedFor_exchangeOf hsend (by simp))).atRest
      | error exn =>
          have hnoted : Quiet (t.advance time)
              ((t.advance time).note (.failed .first path exn)) := .note (by simp) (by simp)
          apply wpt_recoverAndRetry_atRest (hsent.quiet hnoted) (hresent.quiet hnoted)
          intro hrefuses
          have hnot := haccepted (not_refusedFor_exchangeOf hsend (by simpa using hrefuses))
          exact (hnot.quiet hnoted).atRest

end Methods

/-! ## Runs -/

theorem Served.atRest {initial : Option String} {trace : List (Exchange AuthOp AuthAnswer)}
    {s : AuthState} (hserved : Served initial trace s) : AtRest initial trace s := by
  induction hserved with
  | init config store clock hstored =>
      refine ⟨⟨fun token hheld => ?_, by simp, by simp⟩, by simp [Unheld], .inl ?_⟩
      · rcases hheld with hcached | hkept
        · cases hcached
        · exact .inl (hstored.symm.trans hkept)
      · intro hsecond
        obtain ⟨path, exn, hmem, _⟩ := hsecond
        cases hmem
  | call scheme path payload time hserved htime htraced ih =>
      exact htraced.post (wpt_authenticated_atRest (ih.advance time))

/-- In a run whose logins mint new tokens, refused tokens are neither sent again nor kept
exactly if no retry was refused. -/
theorem retired_iff {initial : Option String} {trace : List (Exchange AuthOp AuthAnswer)}
    {s : AuthState} (hserved : Served initial trace s) (hfresh : FreshLogins initial s.log) :
    Retired trace s ↔ ¬ SecondRefusal s.log := by
  have hrest := hserved.atRest
  constructor
  · intro hretired hsecond
    rcases hrest.stuck with hresent | ⟨token, htoken, x, hx, hrefused⟩
    · exact hresent hsecond hretired.unsent
    · exact hretired.unheld x hx token hrefused (.inl htoken)
  · intro hsecond
    exact ⟨hrest.unsent hfresh hsecond, hrest.unheld hfresh hsecond⟩

/-! ## One call -/

/-- What one request for the inventory asks of a computed cloud, and the manager after it. -/
def oneListing (answer : ℕ → AuthState → (op : AuthOp) → AuthAnswer op × AuthState) :
    List (Exchange AuthOp AuthAnswer) × AuthState :=
  ((oem epHomeIndex (.obj [])).record answer 0 freshManager,
    ((oem epHomeIndex (.obj [])).play answer 0 freshManager).2)

theorem served_oneListing {answer : ℕ → AuthState → (op : AuthOp) → AuthAnswer op × AuthState}
    (hanswer : ∀ n s op, cloud s op (answer n s op).1 (answer n s op).2) :
    Served (some "t0") (oneListing answer).1 (oneListing answer).2 := by
  have hinit : Served (some "t0") [] freshManager := .init _ _ _ rfl
  exact hinit.call .oem epHomeIndex (.obj []) 0 le_rfl (Coro.traced_play answer hanswer _ 0 _)

/-- The stored token is refused, the one that replaces it is not. -/
theorem retired_oneListing : Retired (oneListing busyCloud).1 (oneListing busyCloud).2 := by
  have hlog : (oneListing busyCloud).2.log =
      [.failed .first epHomeIndex (.dollin (.authError "logged in elsewhere")), .eviction 0,
        .login 0, .issued "t1"] := by
    decide +kernel
  have hissued : issuedTokens (oneListing busyCloud).2.log = ["t1"] := by
    rw [hlog]
    rfl
  apply (retired_iff (served_oneListing cloud_busyCloud) _).mpr
  · intro hsecond
    obtain ⟨path, exn, hmem, _⟩ := hsecond
    rw [hlog] at hmem
    simp at hmem
  · rw [FreshLogins, hissued]
    simp

/-- A cloud that grants every login and refuses every token. -/
def refusingCloud (_ : ℕ) (s : AuthState) : (op : AuthOp) → AuthAnswer op × AuthState
  | .post _ path _ _ =>
      (.response 200 (some (.obj
        (if path = epLogin then
          [("code", .int 0), ("data", .obj [("accessToken", .str "t1")])]
        else [("code", .int 12001), ("msg", .str "token expired")]))), s)
  | .load => (s.store, s)
  | .save session => ((), s.setStore (some session))
  | .clear => ((), s.setStore none)

theorem cloud_refusingCloud (n : ℕ) (s : AuthState) (op : AuthOp) :
    cloud s op (refusingCloud n s op).1 (refusingCloud n s op).2 := by
  refine ⟨s.clock, le_rfl, ?_⟩
  cases op with
  | post scheme path payload token => rfl
  | load => exact ⟨rfl, rfl⟩
  | save session => rfl
  | clear => rfl

/-- The new token is refused on the retry, and stays cached and stored. -/
theorem not_retired_oneListing :
    Served (some "t0") (oneListing refusingCloud).1 (oneListing refusingCloud).2 ∧
      FreshLogins (some "t0") (oneListing refusingCloud).2.log ∧
      ¬ Retired (oneListing refusingCloud).1 (oneListing refusingCloud).2 := by
  have hserved := served_oneListing cloud_refusingCloud
  have hlog : (oneListing refusingCloud).2.log =
      [.failed .first epHomeIndex (.dollin (.tokenExpiredError "token expired")), .expiry 0,
        .login 0, .issued "t1",
        .failed .retry epHomeIndex (.dollin (.tokenExpiredError "token expired"))] := by
    decide +kernel
  have hissued : issuedTokens (oneListing refusingCloud).2.log = ["t1"] := by
    rw [hlog]
    rfl
  have hfresh : FreshLogins (some "t0") (oneListing refusingCloud).2.log := by
    rw [FreshLogins, hissued]
    simp
  refine ⟨hserved, hfresh, fun hretired => ?_⟩
  have hstored : Holds (oneListing refusingCloud).2 "t1" := by
    left
    decide +kernel
  have hasked : ∃ x ∈ (oneListing refusingCloud).1, RefusedFor "t1" x := by
    refine ⟨exchangeOf .oem epHomeIndex (.obj []) (some "t1") (.response 200 (some (.obj
      [("code", .int 12001), ("msg", .str "token expired")]))), ?_, ⟨rfl, by decide⟩, ?_⟩
    · exact List.mem_of_getElem? (show (oneListing refusingCloud).1[5]? = _ from rfl)
    · exact ⟨.dollin (.tokenExpiredError "token expired"), by decide +kernel, rfl⟩
  obtain ⟨x, hx, hrefused⟩ := hasked
  exact hretired.unheld x hx "t1" hrefused hstored

end Holabrain.Auth
