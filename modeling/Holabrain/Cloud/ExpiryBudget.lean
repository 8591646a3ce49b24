import Mathlib.Algebra.Order.Ring.Rat
import Holabrain.Core.FixedWindow
import Holabrain.Cloud.RefusedTokens

/-!
# The expiry budget over whole runs

`_expiry_within_budget` is a fixed-window budget: five expiries of a window are answered by
logging in at once, and every further one goes through the cool-down of a takeover.  Calls
between two expiries, takeovers and failed logins leave the budget alone.
-/

namespace Holabrain

/-- The budget the manager keeps for expiries. -/
def AuthState.expiryBudget (s : AuthState) : Budget ℚ where
  start := s.expiryWindowStart
  spent := s.expiriesInWindow

/-- The entries that the two counters of the manager make. -/
def AuthEvent.isCounted : AuthEvent → Bool
  | .expiry _ => true
  | .eviction _ => true
  | _ => false

namespace Auth

/-- The moments at which an expiry was counted. -/
def expiryTimes (events : List AuthEvent) : List ℚ :=
  events.filterMap fun event => match event with
    | .expiry time => some time
    | _ => none

/-- The manager has gone through `_async_recover`. -/
def Recovered (events : List AuthEvent) : Prop := ∃ time, .eviction time ∈ events

instance (events : List AuthEvent) : Decidable (Recovered events) :=
  decidable_of_iff (events.any fun event => match event with
    | .eviction _ => true
    | _ => false) (by
      rw [List.any_eq_true]
      constructor
      · rintro ⟨event, hevent, heviction⟩
        cases event with
        | eviction time => exact ⟨time, hevent⟩
        | _ => cases heviction
      · rintro ⟨time, htime⟩
        exact ⟨_, htime, rfl⟩)

/-- The manager's budget is the fixed-window budget of its two constants. -/
theorem expiryBudget_count (s : AuthState) :
    s.expiryWithinBudget.2.expiryBudget = s.expiryBudget.count evictionForgetSeconds s.clock := by
  rw [AuthState.expiryWithinBudget, AuthState.expiryBudget, AuthState.expiryBudget, Budget.count,
    Budget.restarts]
  cases hstart : s.expiryWindowStart <;> simp [AuthState.note]

theorem expiryBudget_granted (s : AuthState) :
    s.expiryWithinBudget.1 =
      (s.expiryBudget.take expiryReloginLimit evictionForgetSeconds s.clock).granted := by
  rw [Budget.take, ← expiryBudget_count]
  rfl

/-! ## Steps that count nothing -/

/-- Both counters are as they were, and the history says nothing of them. -/
structure CountersKept (s s' : AuthState) : Prop where
  log : ∃ new, s'.log = s.log ++ new ∧ ∀ event ∈ new, event.isCounted = false
  clock : s.clock ≤ s'.clock
  budget : s'.expiryBudget = s.expiryBudget
  evictions : s'.evictions = s.evictions
  lastEviction : s'.lastEviction = s.lastEviction

namespace CountersKept

variable {s s' s'' : AuthState}

theorem refl (s : AuthState) : CountersKept s s := ⟨⟨[], by simp, by simp⟩, le_rfl, rfl, rfl, rfl⟩

theorem trans (h : CountersKept s s') (h' : CountersKept s' s'') : CountersKept s s'' := by
  obtain ⟨new, hlog, hnew⟩ := h.log
  obtain ⟨new', hlog', hnew'⟩ := h'.log
  refine ⟨⟨new ++ new', by rw [hlog', hlog, List.append_assoc], fun event hevent => ?_⟩,
    h.clock.trans h'.clock, h'.budget.trans h.budget, h'.evictions.trans h.evictions,
    h'.lastEviction.trans h.lastEviction⟩
  exact (List.mem_append.mp hevent).elim (hnew event) (hnew' event)

theorem of_eq (hlog : s'.log = s.log) (hclock : s.clock ≤ s'.clock)
    (hbudget : s'.expiryBudget = s.expiryBudget) (hevictions : s'.evictions = s.evictions)
    (hlast : s'.lastEviction = s.lastEviction) : CountersKept s s' :=
  ⟨⟨[], by simp [hlog], by simp⟩, hclock, hbudget, hevictions, hlast⟩

theorem note (s : AuthState) {event : AuthEvent} (hevent : event.isCounted = false) :
    CountersKept s (s.note event) :=
  ⟨⟨[event], rfl, by simpa using hevent⟩, le_rfl, rfl, rfl, rfl⟩

theorem issued (s : AuthState) (token : String) :
    CountersKept s ((s.logIn token).note (.issued token)) :=
  ⟨⟨[.issued token], rfl, by simp [AuthEvent.isCounted]⟩, le_rfl, rfl, rfl, rfl⟩

end CountersKept

section Methods

variable {s₀ s : AuthState}

theorem wp_asyncLogin_kept (h : CountersKept s₀ s) :
    Coro.wp cloud asyncLogin (fun _ s' => CountersKept s₀ s') s := by
  have hsent : ∀ time, s.clock ≤ time →
      CountersKept s₀ ((s.note (.login s.clock)).advance time) := fun time htime =>
    h.trans ((CountersKept.note s rfl).trans (.of_eq rfl htime rfl rfl rfl))
  apply wp_asyncLogin
  · exact fun _ _ => h
  · exact fun _ time _ htime => hsent time htime
  · intro _ time session time' htime htime'
    exact (hsent time htime).trans
      ((CountersKept.issued _ _).trans (.of_eq rfl htime' rfl rfl rfl))

theorem wp_asyncGetToken_kept (h : CountersKept s₀ s) :
    Coro.wp cloud asyncGetToken (fun _ s' => CountersKept s₀ s') s := by
  apply wp_asyncGetToken
  · exact fun _ => h
  · exact fun time htime _ => h.trans (.of_eq rfl htime rfl rfl rfl)
  · intro time htime
    have hloaded : CountersKept s₀ (s.advance time) := h.trans (.of_eq rfl htime rfl rfl rfl)
    exact wp_asyncLogin_kept (hloaded.trans (.note _ rfl))

theorem wp_asyncRelogin_kept (h : CountersKept s₀ s) :
    Coro.wp cloud asyncRelogin (fun _ s' => CountersKept s₀ s') s := by
  simp only [asyncRelogin, Coro.wp_bind, Coro.wp_modify, wp_clear]
  intro time htime
  exact wp_asyncLogin_kept (h.trans (.of_eq rfl htime rfl rfl rfl))

theorem wp_request_kept (attempt : Attempt) (scheme : Scheme) (path : String) (payload : Json)
    (token : Option String) (h : CountersKept s₀ s) :
    Coro.wp cloud (request attempt scheme path payload token)
      (fun _ s' => CountersKept s₀ s') s := by
  have hsent : ∀ time, s.clock ≤ time → CountersKept s₀ (s.advance time) :=
    fun time htime => h.trans (.of_eq rfl htime rfl rfl rfl)
  apply wp_request
  · exact fun time _ htime => hsent time htime
  · exact fun time _ htime => (hsent time htime).trans (.note _ rfl)

/-- A recovery counts its eviction at once, and nothing after it. -/
theorem wp_asyncRecover_kept :
    Coro.wp cloud asyncRecover (fun _ s' => CountersKept s.noteEviction.2 s') s := by
  have hcleared : ∀ time, s.clock ≤ time → CountersKept s.noteEviction.2
      (((s.noteEviction.2.setToken none).setStore none).advance time) :=
    fun time htime => .of_eq rfl htime rfl rfl rfl
  apply wp_asyncRecover
  · exact fun _ time _ _ htime => (hcleared time htime).trans (.note _ rfl)
  · exact fun time htime => wp_asyncLogin_kept (hcleared time htime)

/-- What a retry adds to its recovery counts nothing. -/
theorem wp_retry_kept {p : AuthM (Option String)} (scheme : Scheme) (path : String)
    (payload : Json) (hp : Coro.wp cloud p (fun _ s' => CountersKept s₀ s') s) :
    Coro.wp cloud (p >>= fun token => request .retry scheme path payload token)
      (fun _ s' => CountersKept s₀ s') s := by
  rw [Coro.wp_bind]
  apply Coro.wp_mono _ hp
  intro result s' hs'
  cases result with
  | error exn => exact hs'
  | ok token => exact wp_request_kept .retry scheme path payload token hs'

end Methods

/-! ## One call -/

theorem expiryTimes_append (events events' : List AuthEvent) :
    expiryTimes (events ++ events') = expiryTimes events ++ expiryTimes events' :=
  List.filterMap_append

theorem recovered_append {events events' : List AuthEvent} :
    Recovered (events ++ events') ↔ Recovered events ∨ Recovered events' := by
  simp only [Recovered, List.mem_append, exists_or]

theorem expiryTimes_eq_nil {events : List AuthEvent}
    (hevents : ∀ event ∈ events, event.isCounted = false) : expiryTimes events = [] := by
  rw [expiryTimes, List.filterMap_eq_nil_iff]
  intro event hevent
  cases event with
  | expiry time => cases hevents _ hevent
  | _ => rfl

theorem not_recovered {events : List AuthEvent}
    (hevents : ∀ event ∈ events, event.isCounted = false) : ¬ Recovered events := by
  intro ⟨time, htime⟩
  cases hevents _ htime

/-- A call counts one expiry or none.  One that is granted leaves the evictions alone. -/
inductive CallCount (s s' : AuthState) : Prop
  | uncounted {new : List AuthEvent} (hlog : s'.log = s.log ++ new)
      (hnone : expiryTimes new = []) (hclock : s.clock ≤ s'.clock)
      (hbudget : s'.expiryBudget = s.expiryBudget)
  | counted {new : List AuthEvent} (time : ℚ) (hlog : s'.log = s.log ++ new)
      (hone : expiryTimes new = [time]) (hfrom : s.clock ≤ time) (hto : time ≤ s'.clock)
      (hbudget : s'.expiryBudget = s.expiryBudget.count evictionForgetSeconds time)
      (hrecovered : Recovered new ↔ (s.expiryBudget.take expiryReloginLimit
        evictionForgetSeconds time).granted = false)
      (hfast : ¬ Recovered new →
        s'.evictions = s.evictions ∧ s'.lastEviction = s.lastEviction)

section Calls

variable {s u s' : AuthState}

theorem CountersKept.callCount (h : CountersKept s s') : CallCount s s' := by
  obtain ⟨new, hlog, hnew⟩ := h.log
  exact .uncounted hlog (expiryTimes_eq_nil hnew) h.clock h.budget

/-- A takeover of the session. -/
theorem callCount_recovered (h : CountersKept s u) (h' : CountersKept u.noteEviction.2 s') :
    CallCount s s' := by
  obtain ⟨before, hlog, hbefore⟩ := h.log
  obtain ⟨after, hlog', hafter⟩ := h'.log
  have hnoted : u.noteEviction.2.log = u.log ++ [.eviction u.clock] := rfl
  have hnew : s'.log = s.log ++ (before ++ ([.eviction u.clock] ++ after)) := by
    rw [hlog', hnoted, hlog, List.append_assoc, List.append_assoc]
  refine .uncounted hnew ?_ (h.clock.trans h'.clock) (h'.budget.trans h.budget)
  rw [expiryTimes_append, expiryTimes_append, expiryTimes_eq_nil hbefore,
    expiryTimes_eq_nil hafter]
  rfl

/-- An expiry that is answered by a login at once. -/
theorem callCount_fast (h : CountersKept s u) (h' : CountersKept u.expiryWithinBudget.2 s')
    (hgranted : u.expiryWithinBudget.1 = true) : CallCount s s' := by
  obtain ⟨before, hlog, hbefore⟩ := h.log
  obtain ⟨after, hlog', hafter⟩ := h'.log
  have hnoted : u.expiryWithinBudget.2.log = u.log ++ [.expiry u.clock] := rfl
  have hnew : s'.log = s.log ++ (before ++ ([.expiry u.clock] ++ after)) := by
    rw [hlog', hnoted, hlog, List.append_assoc, List.append_assoc]
  have hfast : ¬ Recovered (before ++ ([.expiry u.clock] ++ after)) := by
    rw [recovered_append, recovered_append, not_or, not_or]
    exact ⟨not_recovered hbefore, by simp [Recovered], not_recovered hafter⟩
  rw [expiryBudget_granted, h.budget] at hgranted
  refine .counted u.clock hnew ?_ h.clock h'.clock ?_
    (iff_of_false hfast (by simp [hgranted])) fun _ => ?_
  · rw [expiryTimes_append, expiryTimes_append, expiryTimes_eq_nil hbefore,
      expiryTimes_eq_nil hafter]
    rfl
  · rw [h'.budget, expiryBudget_count, h.budget]
  · exact ⟨h'.evictions.trans h.evictions, h'.lastEviction.trans h.lastEviction⟩

/-- An expiry that goes through the cool-down. -/
theorem callCount_slow (h : CountersKept s u)
    (h' : CountersKept u.expiryWithinBudget.2.noteEviction.2 s')
    (hgranted : u.expiryWithinBudget.1 = false) : CallCount s s' := by
  obtain ⟨before, hlog, hbefore⟩ := h.log
  obtain ⟨after, hlog', hafter⟩ := h'.log
  have hnoted : u.expiryWithinBudget.2.noteEviction.2.log =
      u.log ++ ([.expiry u.clock] ++ [.eviction u.clock]) := List.append_assoc _ _ _
  have hnew : s'.log =
      s.log ++ (before ++ ([.expiry u.clock] ++ ([.eviction u.clock] ++ after))) := by
    rw [hlog', hnoted, hlog]
    simp only [List.append_assoc]
  have hslow : Recovered (before ++ ([.expiry u.clock] ++ ([.eviction u.clock] ++ after))) :=
    ⟨u.clock, by simp⟩
  have hbudget : u.expiryWithinBudget.2.noteEviction.2.expiryBudget =
      u.expiryWithinBudget.2.expiryBudget := rfl
  rw [expiryBudget_granted, h.budget] at hgranted
  refine .counted u.clock hnew ?_ h.clock h'.clock ?_ (iff_of_true hslow hgranted)
    fun hfast => absurd hslow hfast
  · rw [expiryTimes_append, expiryTimes_append, expiryTimes_append, expiryTimes_eq_nil hbefore,
      expiryTimes_eq_nil hafter]
    rfl
  · rw [h'.budget, hbudget, expiryBudget_count, h.budget]

theorem wp_recoverAndRetry_count (scheme : Scheme) (path : String) (payload : Json) (exn : Exn)
    (h : CountersKept s u) :
    Coro.wp cloud (recoverAndRetry scheme path payload exn) (fun _ s' => CallCount s s') u := by
  have hrecover : ∀ v, (∀ s', CountersKept v.noteEviction.2 s' → CallCount s s') →
      Coro.wp cloud (asyncRecover >>= fun token => request .retry scheme path payload token)
        (fun _ s' => CallCount s s') v := by
    intro v hv
    exact Coro.wp_mono (fun _ s' => hv s')
      (wp_retry_kept scheme path payload wp_asyncRecover_kept)
  cases exn with
  | dollin err =>
      simp only [recoverAndRetry]
      split
      · exact h.callCount
      split
      · rw [Coro.wp_bind, Coro.wp_modifyGet]
        dsimp only
        split
        next hgranted =>
          exact Coro.wp_mono (fun _ s' hs' => callCount_fast h hs' hgranted)
            (wp_retry_kept scheme path payload (wp_asyncRelogin_kept (.refl _)))
        next hgranted =>
          exact hrecover _ fun s' hs' => callCount_slow h hs' (by simpa using hgranted)
      split
      · exact hrecover u fun s' hs' => callCount_recovered h hs'
      · exact h.callCount
  | _ => exact h.callCount

theorem wp_authenticated_count (scheme : Scheme) (path : String) (payload : Json)
    (s : AuthState) :
    Coro.wp cloud (authenticated scheme path payload) (fun _ s' => CallCount s s') s := by
  rw [authenticated, Coro.wp_bind]
  apply Coro.wp_mono _ (wp_asyncGetToken_kept (.refl s))
  intro result t ht
  cases result with
  | error exn => exact ht.callCount
  | ok token =>
      change Coro.wp cloud (tryCatch _ _) _ _
      rw [Coro.wp_tryCatch]
      apply Coro.wp_mono _ (wp_request_kept .first scheme path payload token ht)
      intro result u hu
      cases result with
      | ok data => exact hu.callCount
      | error exn => exact wp_recoverAndRetry_count scheme path payload exn hu

end Calls

/-! ## Runs of calls -/

/-- A counted expiry: when it was counted, and the manager before and after the call. -/
structure Expiry where
  time : ℚ
  before : AuthState
  after : AuthState

/-- What a call wrote into the history. -/
def newEvents (s s' : AuthState) : List AuthEvent := s'.log.drop s.log.length

namespace Expiry

/-- The start of the window that the expiry was counted in. -/
def window (e : Expiry) : ℚ := e.after.expiryWindowStart.getD e.time

/-- The expiry was answered by `_async_relogin`: its call did not go through
`_async_recover`. -/
def fast (e : Expiry) : Bool := !decide (Recovered (newEvents e.before e.after))

/-- The request to the budget that the expiry is. -/
def grant (e : Expiry) : Grant ℚ where
  time := e.time
  window := e.window
  granted := e.fast

end Expiry

/-- The expiries that were counted in a call. -/
def expiriesOf (s s' : AuthState) : List Expiry :=
  (expiryTimes (newEvents s s')).map fun time => ⟨time, s, s'⟩

/-- The calls of `oem` and `tob` from `s₀` on, one after the other, with any time between them,
and the expiries counted so far. -/
inductive ExpiryRun (s₀ : AuthState) : List Expiry → AuthState → Prop
  | start : ExpiryRun s₀ [] s₀
  | call {expiries : List Expiry} {s s' : AuthState} (scheme : Scheme) (path : String)
      (payload : Json) {result : Except Exn Members} (time : ℚ) (hrun : ExpiryRun s₀ expiries s)
      (htime : s.clock ≤ time)
      (hexec : Coro.Exec cloud (authenticated scheme path payload) (s.advance time) result s') :
      ExpiryRun s₀ (expiries ++ expiriesOf (s.advance time) s') s'

/-- What the budget keeps of the expiries of a run. -/
structure BudgetKept (expiries : List Expiry) : Prop where
  /-- An expiry is counted within `EVICTION_FORGET_SECONDS` of its window's start. -/
  placed : ∀ e ∈ expiries, e.window ≤ e.time ∧ e.time ≤ e.window + evictionForgetSeconds
  perWindow : ∀ w, (expiries.filter fun e => e.fast && decide (e.window = w)).length ≤
    expiryReloginLimit
  perInterval : ∀ a, (expiries.filter fun e => e.fast &&
    decide (a ≤ e.time ∧ e.time ≤ a + evictionForgetSeconds)).length ≤ 2 * expiryReloginLimit
  /-- An expiry goes through the cool-down exactly if its window has seen the limit. -/
  beyond : ∀ earlier e, earlier ++ [e] <+: expiries →
    (Recovered (newEvents e.before e.after) ↔ expiryReloginLimit ≤
      (earlier.filter fun e' => decide (e'.window = e.window)).length)
  undisturbed : ∀ e ∈ expiries, e.fast = true →
    e.after.evictions = e.before.evictions ∧ e.after.lastEviction = e.before.lastEviction

theorem newEvents_eq {s s' : AuthState} {new : List AuthEvent} (hlog : s'.log = s.log ++ new) :
    newEvents s s' = new := by
  rw [newEvents, hlog, List.drop_left]

/-- An expiry that a call counts is a request to the budget it found. -/
theorem grant_of_counted {s s' : AuthState} {moment : ℚ}
    (hbudget : s'.expiryBudget = s.expiryBudget.count evictionForgetSeconds moment)
    (hrecovered : Recovered (newEvents s s') ↔ (s.expiryBudget.take expiryReloginLimit
      evictionForgetSeconds moment).granted = false) :
    (⟨moment, s, s'⟩ : Expiry).grant =
      s.expiryBudget.take expiryReloginLimit evictionForgetSeconds moment := by
  have hwindow : s'.expiryWindowStart.getD moment =
      (s.expiryBudget.take expiryReloginLimit evictionForgetSeconds moment).window := by
    rw [Budget.take, ← hbudget]
    rfl
  have hgranted : (!decide (Recovered (newEvents s s'))) =
      (s.expiryBudget.take expiryReloginLimit evictionForgetSeconds moment).granted := by
    cases hanswer : (s.expiryBudget.take expiryReloginLimit evictionForgetSeconds
        moment).granted with
    | true => rw [decide_eq_false (by simp [hrecovered, hanswer]), Bool.not_false]
    | false => rw [decide_eq_true (hrecovered.mpr hanswer), Bool.not_true]
  exact congrArg₂ (Grant.mk moment) hwindow hgranted

/-- The expiries of a run are what its budget was asked. -/
theorem ExpiryRun.spends {s₀ s : AuthState} {expiries : List Expiry}
    (hrun : ExpiryRun s₀ expiries s) :
    s₀.expiryBudget.Spends expiryReloginLimit evictionForgetSeconds (expiries.map Expiry.grant)
        s.expiryBudget ∧
      (∀ e ∈ expiries, e.time ≤ s.clock) ∧
      ∀ e ∈ expiries, e.fast = true →
        e.after.evictions = e.before.evictions ∧ e.after.lastEviction = e.before.lastEviction := by
  induction hrun with
  | start => exact ⟨.start, by simp, by simp⟩
  | @call expiries s s' scheme path payload result time hrun htime hexec ih =>
      obtain ⟨hspends, hlater, hundisturbed⟩ := ih
      cases hexec.post (wp_authenticated_count scheme path payload (s.advance time)) with
      | uncounted hlog hnone hclock hbudget =>
          rw [expiriesOf, newEvents_eq hlog, hnone, List.map_nil, List.append_nil, hbudget]
          exact ⟨hspends, fun e he => (hlater e he).trans (htime.trans hclock), hundisturbed⟩
      | counted moment hlog hone hfrom hto hbudget hrecovered hfast =>
          rw [← newEvents_eq hlog] at hone hrecovered hfast
          have hmoment : s.clock ≤ moment := htime.trans hfrom
          rw [expiriesOf, hone, List.map_singleton, List.map_append, List.map_singleton, hbudget,
            grant_of_counted hbudget hrecovered]
          refine ⟨hspends.take moment fun g hg => ?_, fun e he => ?_, fun e he hfast' => ?_⟩
          · obtain ⟨e, he, rfl⟩ := List.mem_map.mp hg
            exact (hlater e he).trans hmoment
          · rcases List.mem_append.mp he with hold | hlast
            · exact (hlater e hold).trans (hmoment.trans hto)
            · rw [List.mem_singleton.mp hlast]
              exact hto
          · rcases List.mem_append.mp he with hold | hlast
            · exact hundisturbed e hold hfast'
            · rw [List.mem_singleton.mp hlast] at hfast' ⊢
              exact hfast (by simpa [Expiry.fast] using hfast')

/-- In every run of calls from a manager that has no window open, the expiry budget is kept. -/
theorem expiryBudget_kept {s₀ s : AuthState} {expiries : List Expiry}
    (hfresh : s₀.expiryWindowStart = none) (hrun : ExpiryRun s₀ expiries s) :
    BudgetKept expiries := by
  obtain ⟨hspends, _, hundisturbed⟩ := hrun.spends
  have hkept := hspends.kept hfresh (by decide)
  have hmem : ∀ e ∈ expiries, e.grant ∈ expiries.map Expiry.grant :=
    fun e he => List.mem_map_of_mem he
  refine ⟨fun e he => hkept.placed _ (hmem e he), fun w => ?_, fun a => ?_, ?_, hundisturbed⟩
  · have hgranted := hkept.grantedIn_le w
    rw [Budget.grantedIn, List.countP_map] at hgranted
    rw [← List.countP_eq_length_filter]
    exact hgranted
  · have hgranted := hkept.countP_interval_le a
    rw [List.countP_map] at hgranted
    rw [← List.countP_eq_length_filter]
    exact hgranted
  · intro earlier e hearlier
    have hprefix : earlier.map Expiry.grant ++ [e.grant] <+: expiries.map Expiry.grant := by
      simpa using hearlier.map Expiry.grant
    have hanswer := hkept.answered _ _ hprefix
    rw [Budget.inWindow, List.countP_map, ← not_iff_not, not_lt] at hanswer
    rw [← List.countP_eq_length_filter]
    refine Iff.trans ?_ hanswer
    simp [Expiry.grant, Expiry.fast]

/-- One call whose tokens are all reported as expired. -/
def expiredListing : List Expiry :=
  expiriesOf (freshManager.advance 0) (oneListing refusingCloud).2

/-- Its first expiry is answered at once, and leaves the budget kept. -/
theorem expiryBudget_kept_listing :
    expiredListing.map Expiry.time = [0] ∧ expiredListing.map Expiry.fast = [true] ∧
      BudgetKept expiredListing := by
  refine ⟨by decide +kernel, by decide +kernel, ?_⟩
  have hexec : Coro.Exec cloud (authenticated .oem epHomeIndex (.obj []))
      (freshManager.advance 0) _ (oneListing refusingCloud).2 :=
    Coro.exec_play refusingCloud cloud_refusingCloud _ 0 freshManager
  have hrun : ExpiryRun freshManager ([] ++ expiredListing) (oneListing refusingCloud).2 :=
    .call .oem epHomeIndex (.obj []) 0 .start le_rfl hexec
  exact expiryBudget_kept rfl hrun

end Auth

end Holabrain
