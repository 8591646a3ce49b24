import Mathlib.Tactic.NormNum
import Holabrain.Cloud.Auth

/-!
# The cool-down over whole runs

`_async_recover` gives up while the cool-down of a takeover is running, but it leaves the
manager without a token, and `async_get_token` logs in whenever it finds none.  The cool-down
is therefore kept over a run exactly if no look-up comes back empty before the deadline.
-/

namespace Holabrain.Auth

/-- Whatever follows a takeover in the history and is of the given kind, happens at its
deadline or later. -/
def Waits (kind : ℚ → AuthEvent) (log : List AuthEvent) : Prop :=
  log.Pairwise fun earlier later => ∀ deadline time,
    earlier = .takeover deadline → later = kind time → deadline ≤ time

/-- No login is sent before the deadline of an earlier takeover. -/
def CoolDownKept (log : List AuthEvent) : Prop := Waits .login log

/-- No call is left without a token before the deadline of an earlier takeover. -/
def LookupsWait (log : List AuthEvent) : Prop := Waits .noToken log

theorem waits_append_iff (kind : ℚ → AuthEvent) (log : List AuthEvent) (event : AuthEvent) :
    Waits kind (log ++ [event]) ↔
      Waits kind log ∧ ∀ deadline time, .takeover deadline ∈ log → event = kind time →
        deadline ≤ time := by
  rw [Waits, Waits, List.pairwise_append]
  constructor
  · intro hwaits
    obtain ⟨hlog, -, hlast⟩ := hwaits
    refine ⟨hlog, fun deadline time hmem hevent => ?_⟩
    exact hlast _ hmem event (List.mem_singleton_self event) deadline time rfl hevent
  · intro hwaits
    obtain ⟨hlog, hlast⟩ := hwaits
    refine ⟨hlog, List.pairwise_singleton _ _, ?_⟩
    intro earlier hmem later hlater deadline time hearlier hevent
    subst hearlier
    rw [List.mem_singleton] at hlater
    subst hlater
    exact hlast deadline time hmem hevent

theorem waits_of_no_takeover (kind : ℚ → AuthEvent) {log : List AuthEvent}
    (hnone : ∀ deadline, .takeover deadline ∉ log) : Waits kind log := by
  refine List.pairwise_of_forall_mem_list fun earlier hearlier _ _ deadline _ htakeover => ?_
  exact absurd (htakeover ▸ hearlier) (hnone deadline)

/-- An event that is neither of the given kind nor a takeover changes nothing. -/
theorem waits_append_of_ne (kind : ℚ → AuthEvent) (log : List AuthEvent) {event : AuthEvent}
    (hkind : ∀ time, event ≠ kind time) : Waits kind (log ++ [event]) ↔ Waits kind log := by
  rw [waits_append_iff]
  exact and_iff_left fun _ time _ hevent => absurd hevent (hkind time)

/-- What a run keeps about the cool-down.  `quiet` is the way out of the deadlines that are
still ahead: none while a call works, the lack of any token between two calls. -/
structure CoolDownInv (quiet : Prop) (s : AuthState) : Prop where
  agree : CoolDownKept s.log ↔ LookupsWait s.log
  past : LookupsWait s.log →
    (∀ deadline, .takeover deadline ∈ s.log → deadline ≤ s.clock) ∨ quiet
  loggedIn : s.lastLogin ≠ none → s.HasCredentials
  credentials : ∀ deadline, .takeover deadline ∈ s.log → s.HasCredentials

/-- Between two calls the manager may be left with no token at all. -/
def NoToken (s : AuthState) : Prop := s.token = none ∧ s.store = none

namespace CoolDownInv

variable {quiet quiet' : Prop} {s s' : AuthState}

theorem mono (h : CoolDownInv quiet s) (hquiet : quiet → quiet') : CoolDownInv quiet' s :=
  { h with past := fun hwait => (h.past hwait).imp_right hquiet }

/-- A step that writes no history keeps it. -/
theorem frame (h : CoolDownInv quiet s) (hlog : s'.log = s.log) (hclock : s.clock ≤ s'.clock)
    (hconfig : s'.config = s.config)
    (hlogin : s'.lastLogin ≠ none → s.lastLogin ≠ none ∨ s.HasCredentials) :
    CoolDownInv quiet s' := by
  have hcredentials : s.HasCredentials → s'.HasCredentials := by
    intro hc
    rwa [AuthState.HasCredentials, hconfig]
  refine ⟨?_, ?_, ?_, ?_⟩
  · rw [hlog]
    exact h.agree
  · rw [hlog]
    intro hwait
    refine (h.past hwait).imp_left fun hpast deadline hmem => ?_
    exact (hpast deadline hmem).trans hclock
  · intro hsome
    exact hcredentials ((hlogin hsome).elim h.loggedIn id)
  · rw [hlog]
    exact fun deadline hmem => hcredentials (h.credentials deadline hmem)

theorem advance (h : CoolDownInv quiet s) {time : ℚ} (htime : s.clock ≤ time) :
    CoolDownInv quiet (s.advance time) :=
  h.frame rfl htime rfl .inl

theorem setToken (h : CoolDownInv quiet s) (token : Option String) :
    CoolDownInv quiet (s.setToken token) :=
  h.frame rfl le_rfl rfl .inl

theorem setStore (h : CoolDownInv quiet s) (store : Option Session) :
    CoolDownInv quiet (s.setStore store) :=
  h.frame rfl le_rfl rfl .inl

theorem logIn (h : CoolDownInv quiet s) (hcredentials : s.HasCredentials) (token : String) :
    CoolDownInv quiet (s.logIn token) :=
  h.frame rfl le_rfl rfl fun _ => .inr hcredentials

/-- So does one that notes an event of no interest here. -/
theorem note_neutral (h : CoolDownInv quiet s) (event : AuthEvent)
    (hlogin : ∀ time, event ≠ .login time) (hnoToken : ∀ time, event ≠ .noToken time)
    (htakeover : ∀ deadline, event ≠ .takeover deadline) :
    CoolDownInv quiet (s.note event) := by
  have hmem : ∀ deadline, .takeover deadline ∈ s.log ++ [event] → .takeover deadline ∈ s.log := by
    intro deadline hmem
    rcases List.mem_append.mp hmem with hmem | hmem
    · exact hmem
    · exact absurd (List.mem_singleton.mp hmem).symm (htakeover deadline)
  refine ⟨?_, ?_, h.loggedIn, fun deadline hd => h.credentials deadline (hmem deadline hd)⟩
  · rw [CoolDownKept, LookupsWait, AuthState.note_log, waits_append_of_ne _ _ hlogin,
      waits_append_of_ne _ _ hnoToken]
    exact h.agree
  · rw [LookupsWait, AuthState.note_log, waits_append_of_ne _ _ hnoToken]
    exact fun hwait => (h.past hwait).imp_left fun hpast deadline hd =>
      hpast deadline (hmem deadline hd)

theorem takeover_mem_note {event : AuthEvent} (htakeover : ∀ deadline, event ≠ .takeover deadline)
    {deadline : ℚ} : .takeover deadline ∈ (s.note event).log ↔ .takeover deadline ∈ s.log := by
  rw [AuthState.note_log, List.mem_append, List.mem_singleton]
  exact or_iff_left (htakeover deadline).symm

/-- A login sent while every deadline is past. -/
theorem note_login (h : CoolDownInv False s) : CoolDownInv False (s.note (.login s.clock)) := by
  have hmem : ∀ deadline, .takeover deadline ∈ (s.note (.login s.clock)).log ↔
      .takeover deadline ∈ s.log := fun _ => takeover_mem_note (by simp)
  refine ⟨?_, ?_, h.loggedIn, fun deadline hd => h.credentials deadline ((hmem deadline).mp hd)⟩
  · rw [CoolDownKept, LookupsWait, AuthState.note_log, waits_append_iff,
      waits_append_of_ne _ _ (by simp)]
    constructor
    · intro hkeeps
      obtain ⟨hkept, -⟩ := hkeeps
      exact h.agree.mp hkept
    · intro hwait
      refine ⟨h.agree.mpr hwait, fun deadline time hd htime => ?_⟩
      cases htime
      exact (h.past hwait).elim (fun hpast => hpast deadline hd) False.elim
  · rw [LookupsWait, AuthState.note_log, waits_append_of_ne _ _ (by simp)]
    exact fun hwait => (h.past hwait).imp_left fun hpast deadline hd =>
      hpast deadline ((hmem deadline).mp hd)

/-- A look-up that comes back empty and is followed by the login it falls through to: the
two conditions on them are the same one. -/
theorem note_noToken_login (h : CoolDownInv quiet s) :
    CoolDownInv False ((s.note (.noToken s.clock)).note (.login s.clock)) := by
  have hmem : ∀ deadline,
      .takeover deadline ∈ ((s.note (.noToken s.clock)).note (.login s.clock)).log ↔
        .takeover deadline ∈ s.log := fun _ =>
    (takeover_mem_note (by simp)).trans (takeover_mem_note (by simp))
  have hkept : CoolDownKept ((s.note (.noToken s.clock)).note (.login s.clock)).log ↔
      CoolDownKept s.log ∧ ∀ deadline, .takeover deadline ∈ s.log → deadline ≤ s.clock := by
    rw [CoolDownKept, CoolDownKept, AuthState.note_log, AuthState.note_log, waits_append_iff,
      waits_append_of_ne _ _ (by simp)]
    simp
  have hwait : LookupsWait ((s.note (.noToken s.clock)).note (.login s.clock)).log ↔
      LookupsWait s.log ∧ ∀ deadline, .takeover deadline ∈ s.log → deadline ≤ s.clock := by
    rw [LookupsWait, LookupsWait, AuthState.note_log, AuthState.note_log,
      waits_append_of_ne _ _ (by simp), waits_append_iff]
    simp
  refine ⟨?_, ?_, h.loggedIn, fun deadline hd => h.credentials deadline ((hmem deadline).mp hd)⟩
  · rw [hkept, hwait, h.agree]
  · rw [hwait]
    exact fun ⟨_, hpast⟩ => .inl fun deadline hd => hpast deadline ((hmem deadline).mp hd)

/-- Without credentials no call was ever told to wait. -/
theorem note_noToken_of_not (h : CoolDownInv quiet s) (hmissing : ¬ s.HasCredentials) :
    CoolDownInv False (s.note (.noToken s.clock)) := by
  have hnone : ∀ deadline, .takeover deadline ∉ (s.note (.noToken s.clock)).log := by
    intro deadline hd
    rw [takeover_mem_note (by simp)] at hd
    exact hmissing (h.credentials deadline hd)
  refine ⟨?_, ?_, h.loggedIn, fun deadline hd => absurd hd (hnone deadline)⟩
  · exact iff_of_true (waits_of_no_takeover _ hnone) (waits_of_no_takeover _ hnone)
  · exact fun _ => .inl fun deadline hd => absurd hd (hnone deadline)

/-- A call that gives up has thrown every token away. -/
theorem note_takeover (h : CoolDownInv quiet s) (hcredentials : s.HasCredentials)
    (deadline : ℚ) (hquiet : quiet') : CoolDownInv quiet' (s.note (.takeover deadline)) := by
  refine ⟨?_, fun _ => .inr hquiet, h.loggedIn, fun _ _ => hcredentials⟩
  rw [CoolDownKept, LookupsWait, AuthState.note_log, waits_append_of_ne _ _ (by simp),
    waits_append_of_ne _ _ (by simp)]
  exact h.agree

end CoolDownInv

/-! ## The methods of the manager -/

section Methods

variable {s : AuthState}

theorem wp_asyncLogin_cooldown
    (hlogin : s.HasCredentials → CoolDownInv False (s.note (.login s.clock)))
    (hmissing : ¬ s.HasCredentials → CoolDownInv False s) :
    Coro.wp cloud asyncLogin (fun _ s' => CoolDownInv False s') s := by
  apply wp_asyncLogin
  · exact fun hcredentials _ => hmissing hcredentials
  · exact fun hcredentials _ _ htime => (hlogin hcredentials).advance htime
  · intro hcredentials time session time' htime htime'
    have hsent := (hlogin hcredentials).advance htime
    have hissued := (hsent.logIn hcredentials session.accessToken).note_neutral
      (.issued session.accessToken) (by simp) (by simp) (by simp)
    exact (hissued.setStore _).advance htime'

theorem wp_asyncGetToken_cooldown (h : CoolDownInv (NoToken s) s) :
    Coro.wp cloud asyncGetToken (fun _ s' => CoolDownInv False s') s := by
  apply wp_asyncGetToken
  · exact fun htoken => h.mono fun hnone => htoken.1 hnone.1
  · intro time htime hstored
    refine CoolDownInv.setToken ((h.mono fun hnone => ?_).advance htime) _
    exact hstored.1 (by simp [hnone.2])
  · intro time htime
    apply wp_asyncLogin_cooldown
    · exact fun _ => (h.advance htime).note_noToken_login
    · exact fun hmissing => (h.advance htime).note_noToken_of_not hmissing

theorem wp_asyncRelogin_cooldown (h : CoolDownInv False s) :
    Coro.wp cloud asyncRelogin (fun _ s' => CoolDownInv False s') s := by
  simp only [asyncRelogin, Coro.wp_bind, Coro.wp_modify, wp_clear]
  intro time htime
  have hcleared := ((h.setToken none).setStore none).advance htime
  exact wp_asyncLogin_cooldown (fun _ => hcleared.note_login) fun _ => hcleared

theorem CoolDownInv.noteEviction {quiet : Prop} (h : CoolDownInv quiet s) :
    CoolDownInv quiet s.noteEviction.2 := by
  apply CoolDownInv.note_neutral
  · exact h.frame rfl le_rfl rfl .inl
  all_goals simp

theorem CoolDownInv.expiryWithinBudget {quiet : Prop} (h : CoolDownInv quiet s) :
    CoolDownInv quiet s.expiryWithinBudget.2 := by
  apply CoolDownInv.note_neutral
  · exact h.frame rfl le_rfl rfl .inl
  all_goals simp

/-- A call that recovers either goes on, or gives up with no token left. -/
theorem wp_asyncRecover_cooldown (h : CoolDownInv False s) :
    Coro.wp cloud asyncRecover (fun result s' => match result with
      | .ok _ => CoolDownInv False s'
      | .error _ => CoolDownInv (NoToken s') s') s := by
  have hcleared : ∀ time, s.clock ≤ time → CoolDownInv False
      (((s.noteEviction.2.setToken none).setStore none).advance time) := fun time htime =>
    ((h.noteEviction.setToken none).setStore none).advance htime
  apply wp_asyncRecover
  · intro hlast time deadline exn htime
    have hcredentials := (hcleared time htime).loggedIn hlast
    exact (hcleared time htime).note_takeover hcredentials deadline ⟨rfl, rfl⟩
  · intro time htime
    apply Coro.wp_mono _ (wp_asyncLogin_cooldown (fun _ => (hcleared time htime).note_login)
      fun _ => hcleared time htime)
    intro result s' hs'
    cases result with
    | error exn => exact hs'.mono False.elim
    | ok token => exact hs'

theorem wp_request_cooldown {attempt : Attempt} {scheme : Scheme} {path : String}
    {payload : Json} {token : Option String} (h : CoolDownInv False s) :
    Coro.wp cloud (request attempt scheme path payload token)
      (fun _ s' => CoolDownInv False s') s := by
  apply wp_request
  · exact fun time _ htime => h.advance htime
  · intro time exn htime
    exact (h.advance htime).note_neutral (.failed attempt path exn) (by simp) (by simp) (by simp)

theorem wp_recoverAndRetry_cooldown {scheme : Scheme} {path : String} {payload : Json}
    {exn : Exn} (h : CoolDownInv False s) :
    Coro.wp cloud (recoverAndRetry scheme path payload exn)
      (fun _ s' => CoolDownInv (NoToken s') s') s := by
  have hstop : CoolDownInv (NoToken s) s := h.mono False.elim
  have hretry : ∀ (token : Option String) (t : AuthState), CoolDownInv False t →
      Coro.wp cloud (request .retry scheme path payload token)
        (fun _ s' => CoolDownInv (NoToken s') s') t := by
    intro token t ht
    exact Coro.wp_mono (fun _ _ hs' => hs'.mono False.elim) (wp_request_cooldown ht)
  have hrecover : ∀ t : AuthState, CoolDownInv False t → Coro.wp cloud
      (asyncRecover >>= fun token => request .retry scheme path payload token)
      (fun _ s' => CoolDownInv (NoToken s') s') t := by
    intro t ht
    rw [Coro.wp_bind]
    apply Coro.wp_mono _ (wp_asyncRecover_cooldown ht)
    intro result s' hs'
    cases result with
    | error exn => exact hs'
    | ok token => exact hretry token s' hs'
  cases exn with
  | dollin err =>
      simp only [recoverAndRetry]
      split
      · exact hstop
      split
      · rw [Coro.wp_bind, Coro.wp_modifyGet]
        have hnoted := h.expiryWithinBudget
        dsimp only
        cases s.expiryWithinBudget.1 with
        | false => exact hrecover _ hnoted
        | true =>
            simp only [if_true, Coro.wp_bind]
            apply Coro.wp_mono _ (wp_asyncRelogin_cooldown hnoted)
            intro result s' hs'
            cases result with
            | error exn => exact hs'.mono False.elim
            | ok token => exact hretry token s' hs'
      split
      · exact hrecover s h
      · exact hstop
  | _ => exact hstop

theorem wp_authenticated_cooldown {scheme : Scheme} {path : String} {payload : Json}
    (h : CoolDownInv (NoToken s) s) :
    Coro.wp cloud (authenticated scheme path payload)
      (fun _ s' => CoolDownInv (NoToken s') s') s := by
  rw [authenticated, Coro.wp_bind]
  apply Coro.wp_mono _ (wp_asyncGetToken_cooldown h)
  intro result s' hs'
  cases result with
  | error exn => exact hs'.mono False.elim
  | ok token =>
      change Coro.wp cloud (tryCatch _ _) _ _
      rw [Coro.wp_tryCatch]
      apply Coro.wp_mono _ (wp_request_cooldown hs')
      intro answer t ht
      cases answer with
      | error exn => exact wp_recoverAndRetry_cooldown ht
      | ok data => exact ht.mono False.elim

end Methods

/-! ## Runs -/

theorem Reachable.coolDownInv {s : AuthState} (hreach : Reachable s) :
    CoolDownInv (NoToken s) s := by
  induction hreach with
  | init config store clock =>
      have hnone : ∀ deadline, AuthEvent.takeover deadline ∉ ([] : List AuthEvent) := by simp
      refine ⟨iff_of_true ?_ ?_, fun _ => .inl ?_, fun h => absurd rfl h, ?_⟩
      · exact waits_of_no_takeover _ hnone
      · exact waits_of_no_takeover _ hnone
      · simp
      · simp
  | call scheme path payload time hreach htime hexec ih =>
      exact hexec.post (wp_authenticated_cooldown (ih.advance htime))

/-- A run keeps the cool-down exactly if none of its calls is left without a token, cached
or stored, before the deadline of an earlier takeover. -/
theorem coolDownKept_iff_lookupsWait {s : AuthState} (hreach : Reachable s) :
    CoolDownKept s.log ↔ LookupsWait s.log :=
  hreach.coolDownInv.agree

/-! ## A run that races the other client -/

/-- A cloud that refuses the first send of a call and grants every login. -/
def busyCloud (n : ℕ) (s : AuthState) : (op : AuthOp) → AuthAnswer op × AuthState
  | .post _ path _ _ =>
      (.response 200 (some (.obj
        (if path = epLogin then
          [("code", .int 0), ("data", .obj [("accessToken", .str "t1"), ("uid", .str "u")])]
        else if n ≤ 1 then [("code", .int 14005), ("msg", .str "logged in elsewhere")]
        else [("code", .int 0), ("data", .arr [])]))), s)
  | .load => (s.store, s)
  | .save session => ((), s.setStore (some session))
  | .clear => ((), s.setStore none)

theorem cloud_busyCloud (n : ℕ) (s : AuthState) (op : AuthOp) :
    cloud s op (busyCloud n s op).1 (busyCloud n s op).2 := by
  refine ⟨s.clock, le_rfl, ?_⟩
  cases op with
  | post scheme path payload token => rfl
  | load => exact ⟨rfl, rfl⟩
  | save session => rfl
  | clear => rfl

/-- One request for the inventory, made at the given time. -/
def listedAt (time : ℚ) (s : AuthState) : AuthState :=
  ((oem epHomeIndex (.obj [])).play busyCloud 0 (s.advance time)).2

theorem Reachable.listedAt {s : AuthState} (hreach : Reachable s) {time : ℚ}
    (htime : s.clock ≤ time) : Reachable (listedAt time s) :=
  .call .oem epHomeIndex (.obj []) time hreach htime
    (Coro.exec_play busyCloud cloud_busyCloud _ 0 _)

def freshManager : AuthState where
  config :=
    { account := "user", password := "secret", country := "RU", region := "eu",
      encryptPassword := id, redactPath := id }
  store := some { accessToken := "t0" }
  clock := 0

/-- The refused token is reclaimed at once, the second refusal ten seconds later is told to
wait until the sixtieth second. -/
def evictedManager : AuthState := listedAt 10 (listedAt 0 freshManager)

theorem evictedManager_log : evictedManager.log =
    [.failed .first epHomeIndex (.dollin (.authError "logged in elsewhere")), .eviction 0,
      .login 0, .issued "t1",
      .failed .first epHomeIndex (.dollin (.authError "logged in elsewhere")), .eviction 10,
      .takeover 60] := by
  decide +kernel

theorem reachable_evictedManager : Reachable evictedManager :=
  ((Reachable.init _ _ _).listedAt (by decide +kernel)).listedAt (by decide +kernel)

theorem coolDownKept_evictedManager : CoolDownKept evictedManager.log := by
  apply (coolDownKept_iff_lookupsWait reachable_evictedManager).mpr
  rw [evictedManager_log]
  simp [LookupsWait, Waits]

/-- The next request, at the twentieth second, finds no token and logs in. -/
theorem not_coolDownKept_after_takeover :
    Reachable (listedAt 20 evictedManager) ∧
      ¬ CoolDownKept (listedAt 20 evictedManager).log := by
  refine ⟨reachable_evictedManager.listedAt (by decide +kernel), ?_⟩
  have hlog : (listedAt 20 evictedManager).log =
      evictedManager.log ++ [.noToken 20, .login 20, .issued "t1"] := by
    decide +kernel
  rw [hlog, evictedManager_log]
  simp [CoolDownKept, Waits]
  norm_num

end Holabrain.Auth
