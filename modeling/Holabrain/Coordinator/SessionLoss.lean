import Holabrain.Cloud.RefusedRetry
import Holabrain.Coordinator.Update

/-!
# Losing the session

Every login with the stored credentials succeeds, and the cloud may refuse the token of any
request.  The coordinator asks for the password exactly if such a refusal meets the retry of
an inventory or status request and has no name: a takeover and an expired token are told
apart from it, an error that only says that the token was refused is not.
-/

namespace Holabrain

namespace Coordinator

open Auth

/-- The user is asked to sign in again. -/
def AsksPassword {α : Type} (result : Except Exn α) : Prop :=
  ∃ m, result = .error (.configEntryAuthFailed m)

/-- Requests go through the session of the account; whatever else the world does meanwhile,
only the coordinator speaks Home Assistant's errors. -/
def sessionAtRisk : Environment World ClientOp ClientAnswer
  | w, .call scheme path payload, answer, w' =>
      Coro.Exec willing (authenticated scheme path payload) w.auth answer w'.auth
  | w, .extendToken, answer, w' => Coro.Exec willing asyncExtendToken w.auth answer w'.auth
  | w, op, answer, w' => Meanwhile w.auth w'.auth ∧
      ∀ exn, ClientAnswer.raised op answer = some exn → ∀ m, exn ≠ .configEntryAuthFailed m

def IsInventoryPath (path : String) : Prop := path = epHomeIndex

/-- A status request in either dialect. -/
def IsStatusPath (path : String) : Prop :=
  ∃ thingCode, path = Client.epApplianceQuery thingCode ∨
    path = Client.epApplianceQueryAlt thingCode

/-- The history of the session since `w`. -/
def sessionSince (w w' : World) : List AuthEvent := w'.auth.log.drop w.auth.log.length

section Paths

theorem not_isInventoryPath_epCertCreate : ¬ IsInventoryPath Client.epCertCreate := by
  rw [IsInventoryPath]
  decide +kernel

/-- A path with this prefix is not the one of the extension. -/
theorem append_ne_epTokenExtend {pre : String} (hpre : ¬ pre.toList <+: epTokenExtend.toList)
    (thingCode : String) : epTokenExtend ≠ pre ++ thingCode := by
  intro heq
  apply hpre
  rw [heq, String.toList_append]
  exact List.prefix_append _ _

theorem not_isStatusPath_epTokenExtend : ¬ IsStatusPath epTokenExtend := by
  intro hstatus
  obtain ⟨thingCode, hpath⟩ := hstatus
  apply hpath.elim
  · exact append_ne_epTokenExtend (by decide +kernel) thingCode
  · exact append_ne_epTokenExtend (by decide +kernel) thingCode

end Paths

/-! ## Requests -/

section Requests

variable {w w' : World}

/-- A call of the coordinator, with what its failure says about the retry. -/
theorem wp_call_atRisk {scheme : Scheme} {path : String} {payload : Json}
    (hcred : w.auth.HasCredentials) :
    Coro.wp sessionAtRisk (Client.call scheme path payload)
      (fun result w' => CallOutcome path w.auth result w'.auth) w := by
  rw [Client.wp_call]
  intro answer w' hexec
  exact Coro.Exec.post hexec (wp_authenticated_willing hcred)

theorem asInt_error {value : Json} {default : ℤ} {exn : Exn}
    (h : asInt value default = .error exn) : ∃ name, exn = .builtin name := by
  simp only [asInt] at h
  split at h <;> cases h
  exact ⟨_, rfl⟩

theorem fromDict_error {data : Members} {exn : Exn} (h : Device.fromDict data = .error exn) :
    ∃ name, exn = .builtin name := by
  simp only [Device.fromDict, bind, Except.bind, pure, Except.pure] at h
  split at h
  next hread =>
    cases h
    exact asInt_error hread
  split at h
  next hread =>
    cases h
    exact asInt_error hread
  · cases h

/-- Reading the inventory raises none of the account's errors. -/
theorem readInventory_error {items : List Json} {exn : Exn}
    (h : Client.readInventory items = .error exn) : ∃ name, exn = .builtin name := by
  rw [Client.readInventory] at h
  generalize items.filterMap Json.asObj = records at h
  induction records generalizing exn with
  | nil => cases h
  | cons record rest ih =>
      rw [List.mapM_cons] at h
      cases hrecord : Device.fromDict record with
      | error exn' =>
          rw [hrecord] at h
          cases h
          exact fromDict_error hrecord
      | ok device =>
          rw [hrecord] at h
          cases hrest : rest.mapM Device.fromDict with
          | error exn' =>
              rw [hrest] at h
              cases h
              exact ih hrest
          | ok devices =>
              rw [hrest] at h
              cases h

/-- The retry of the inventory request was refused, or its error says otherwise. -/
theorem wp_asyncList_atRisk (hcred : w.auth.HasCredentials) :
    Coro.wp sessionAtRisk Client.asyncList (fun result w' =>
      RefusedIff (∃ m, result = .error (.dollin (.authError m))) IsInventoryPath w.auth w'.auth ∧
        ∀ exn, result = .error exn → OfCall exn) w := by
  rw [Client.asyncList, Coro.wp_bind]
  apply Coro.wp_mono _ (wp_call_atRisk hcred)
  intro result w' houtcome
  have hrefused : RefusedIff _ IsInventoryPath w.auth w'.auth := houtcome.refusedIff rfl
  cases result with
  | error exn =>
      refine ⟨hrefused.congr ?_, fun exn' herror => ?_⟩
      · simp
      · cases herror
        exact houtcome.raised exn rfl
  | ok data =>
      have hspared : RefusedIff False IsInventoryPath w.auth w'.auth := hrefused.congr (by simp)
      dsimp only
      split
      · rw [Coro.wp_bind, Coro.wp_ofExcept]
        split
        next devices _ =>
          rw [Coro.wp_bind, Coro.wp_modify]
          exact ⟨hspared.congr (by simp), by simp⟩
        next exn hread =>
          obtain ⟨name, rfl⟩ := readInventory_error hread
          refine ⟨hspared.congr (by simp), fun exn' herror => ?_⟩
          cases herror
          trivial
      · exact ⟨hspared.congr (by simp), by simp⟩

/-! ## Setup -/

/-- The error of an exception that does not ask for the password. -/
theorem not_asksPassword {α : Type} {result : Except Exn α}
    (h : ∀ exn, result = .error exn → ∀ m, exn ≠ .configEntryAuthFailed m) :
    ¬ AsksPassword result := by
  intro hasks
  obtain ⟨m, herror⟩ := hasks
  exact h _ herror m rfl

theorem OfCall.ne_configEntryAuthFailed {exn : Exn} (h : OfCall exn) (m : String) :
    exn ≠ .configEntryAuthFailed m := by
  intro hreauth
  rw [hreauth] at h
  exact h

/-- Everything that happens to the session leaves the inventory request out. -/
def SparesInventory (w w' : World) : Prop := RefusedIff False IsInventoryPath w.auth w'.auth

theorem keeps_sparesInventory :
    Keeps sessionAtRisk SparesInventory fun exn => ∀ m, exn ≠ .configEntryAuthFailed m where
  refl w := (Renewed.refl w.auth).refusedIff
  trans h h' := RefusedIff.trans h h'
  await {_ op _ _} hop hanswer := by
    cases op with
    | call => cases hop
    | extendToken => cases hop
    | _ => exact Meanwhile.refusedIff hanswer.1
  profiles {w w'} h := by
    obtain ⟨_, _, _, rfl⟩ := h
    exact (Renewed.refl w.auth).refusedIff
  raises {_ op _ _} hop hanswer := by
    cases op with
    | call => cases hop
    | extendToken => cases hop
    | _ => exact hanswer.2
  dollin err m h := by cases h

theorem certificateKept_sparesInventory (hcred : w.auth.HasCredentials) :
    CertificateKept sessionAtRisk SparesInventory (fun exn => ∀ m, exn ≠ .configEntryAuthFailed m)
      w := by
  intro w₁ answer w₂ hw₁ hexec
  have houtcome := Coro.Exec.post hexec (wp_authenticated_willing (hw₁.hasCredentials hcred))
  exact ⟨houtcome.unrefused not_isInventoryPath_epCertCreate,
    fun exn herror => OfCall.ne_configEntryAuthFailed (houtcome.raised exn herror)⟩

/-- The clauses of the setup ask for the password exactly on the unnamed error. -/
theorem setupError_eq_iff {err : DollinError} (hcred : err.isCredentialsRejected = false) :
    (∃ m, setupError err = .configEntryAuthFailed m) ↔ ∃ m, err = .authError m := by
  cases err with
  | credentialsRejectedError m => cases hcred
  | _ => simp [setupError, DollinError.isSessionTakeover, DollinError.isTokenExpired,
      DollinError.isAuthError]

theorem wp_asyncSetup_atRisk (hcred : w.auth.HasCredentials) :
    Coro.wp sessionAtRisk asyncSetup (fun result w' =>
      RefusedIff (AsksPassword result) IsInventoryPath w.auth w'.auth) w := by
  simp only [asyncSetup, Coro.wp_bind, Coro.wp_attempt]
  apply Coro.wp_mono _ (wp_asyncList_atRisk hcred)
  intro result w₁ hlisted
  obtain ⟨hrefused, hraised⟩ := hlisted
  cases result with
  | error exn =>
      have hexn := hraised exn rfl
      cases exn with
      | dollin err =>
          apply hrefused.congr
          simpa [AsksPassword] using setupError_eq_iff hexn
      | builtin name => exact hrefused.congr (by simp [AsksPassword])
      | _ => exact hexn.elim
  | ok devices =>
      have hw₁ : SparesInventory w w₁ := hrefused.congr (by simp)
      have hlist : ∀ (u : World) devices, SparesInventory u
          (reportUnsupported (pruneRegistry (u.setDevices devices))) := by
        intro u devices
        obtain ⟨_, _, hforgotten⟩ := forgetDevices_eq (staleDevices (u.setDevices devices))
          (u.setDevices devices)
        have hauth : (reportUnsupported (pruneRegistry (u.setDevices devices))).auth = u.auth := by
          change (pruneRegistry (u.setDevices devices)).auth = u.auth
          rw [pruneRegistry, hforgotten, World.setDevices]
        exact (Renewed.of_eq (congrArg _ hauth) (congrArg _ hauth)).refusedIff
      simp only [Coro.wp_bind, Coro.wp_modify]
      apply Coro.wp_mono _ (keeps_sparesInventory.wp_asyncLoadCapabilities
        (RefusedIff.trans hw₁ (hlist w₁ _)))
      intro result w₂ hw₂
      cases result with
      | error exn => exact RefusedIff.congr hw₂.1 (iff_false_intro (not_asksPassword hw₂.2))
      | ok loaded =>
          apply Coro.wp_mono _ (keeps_sparesInventory.wp_asyncStartPush
            (certificateKept_sparesInventory hcred)
            (fun u _ => (Renewed.refl u.auth).refusedIff) hw₂.1)
          intro result w₃ hw₃
          cases result with
          | error exn => exact RefusedIff.congr hw₃.1 (iff_false_intro (not_asksPassword hw₃.2))
          | ok started => exact RefusedIff.congr hw₃.1 (by simp [AsksPassword])

/-! ## Updates -/

theorem wp_asyncGetState_atRisk (hcred : w.auth.HasCredentials) (thingCode : String) :
    Coro.wp sessionAtRisk (Client.asyncGetState thingCode) (fun result w' =>
      RefusedIff (∃ m, result = .error (.dollin (.authError m))) IsStatusPath w.auth w'.auth ∧
        ∀ exn, result = .error exn → OfCall exn) w := by
  have hquery : Coro.wp sessionAtRisk
      (Client.queryCall thingCode (Client.isDirect w thingCode)) (fun result w' =>
        RefusedIff (∃ m, result = .error (.dollin (.authError m))) IsStatusPath w.auth w'.auth ∧
          ∀ exn, result = .error exn → OfCall exn) w := by
    simp only [Client.queryCall, Coro.wp_ite]
    split
    · apply Coro.wp_mono _ (wp_call_atRisk hcred)
      exact fun _ _ houtcome => ⟨houtcome.refusedIff ⟨thingCode, .inl rfl⟩, houtcome.raised⟩
    · apply Coro.wp_mono _ (wp_call_atRisk hcred)
      exact fun _ _ houtcome => ⟨houtcome.refusedIff ⟨thingCode, .inr rfl⟩, houtcome.raised⟩
  simp only [Client.asyncGetState, Coro.wp_bind, Coro.wp_gets, Coro.wp_ofExcept, id_eq]
  apply Coro.wp_mono _ hquery
  intro result w' hanswered
  obtain ⟨hrefused, hraised⟩ := hanswered
  cases result with
  | error exn =>
      refine ⟨hrefused.congr (by simp), fun exn' herror => ?_⟩
      cases herror
      exact hraised exn rfl
  | ok data =>
      have hspared : RefusedIff False IsStatusPath w.auth w'.auth := hrefused.congr (by simp)
      dsimp only [Client.readState]
      split
      · exact ⟨hspared.congr (by simp), by simp⟩
      · refine ⟨hspared.congr (by simp), fun exn herror => ?_⟩
        cases herror
        rfl

theorem wp_queryState_atRisk (hcred : w.auth.HasCredentials) (thingCode : String) :
    Coro.wp sessionAtRisk (queryState thingCode) (fun result w' => ∃ answer, result = .ok answer ∧
      RefusedIff (∃ m, answer = .error (.dollin (.authError m))) IsStatusPath w.auth w'.auth ∧
        ∀ exn, answer = .error exn → OfCall exn) w := by
  simp only [queryState, Coro.wp_bind, Coro.wp_modify, Coro.wp_attempt, Coro.wp_pure]
  have hcred' : (w.note (.querySent thingCode)).auth.HasCredentials := hcred
  apply Coro.wp_mono _ (wp_asyncGetState_atRisk hcred' thingCode)
  exact fun answer w' hanswered => ⟨answer, rfl, hanswered⟩

/-- The loop asks for the password as soon as a retry is refused, and only then. -/
theorem wp_pollLoop_atRisk (hcred : w.auth.HasCredentials) (codes : List String)
    (states : Dict String DeviceState) (errors : ℕ) :
    Coro.wp sessionAtRisk (pollLoop codes states errors) (fun result w' =>
      RefusedIff (AsksPassword result) IsStatusPath w.auth w'.auth) w := by
  induction codes generalizing states errors w with
  | nil => exact (Renewed.refl w.auth).refusedIff.congr (by simp [AsksPassword])
  | cons thingCode rest ih =>
      rw [pollLoop, Coro.wp_bind]
      apply Coro.wp_mono _ (wp_queryState_atRisk hcred thingCode)
      intro result w₁ hqueried
      obtain ⟨answer, rfl, hrefused, hraised⟩ := hqueried
      have hgoes : RefusedIff False IsStatusPath w.auth w₁.auth → ∀ states errors,
          Coro.wp sessionAtRisk (pollLoop rest states errors) (fun result w' =>
            RefusedIff (AsksPassword result) IsStatusPath w.auth w'.auth) w₁ := by
        intro hw₁ states errors
        apply Coro.wp_mono _ (ih (hw₁.hasCredentials hcred) states errors)
        exact fun _ _ hrest => hw₁.trans hrest
      cases answer with
      | ok state => exact hgoes (hrefused.congr (by simp)) _ _
      | error exn =>
          have hexn := hraised exn rfl
          cases exn with
          | dollin err =>
              simp only [Coro.wp_ite, Coro.wp_bind, Coro.wp_gets, Coro.wp_pure, Coro.wp_throw]
              cases err with
              | authError m => exact hrefused.congr (by simp [AsksPassword])
              | credentialsRejectedError m => cases hexn
              | networkError m => exact hgoes (hrefused.congr (by simp)) _ _
              | apiError m code => exact hgoes (hrefused.congr (by simp)) _ _
              | _ => exact hrefused.congr (by simp [AsksPassword])
          | builtin name => exact hrefused.congr (by simp [AsksPassword])
          | _ => exact hexn.elim

theorem wp_finishPoll_atRisk (states : Dict String DeviceState) (errors : ℕ) :
    Coro.wp sessionAtRisk (finishPoll states errors) (fun result w' =>
      ¬ AsksPassword result ∧ w'.auth = w.auth) w := by
  have habsorbed : ∀ u : World, (absorbStatusFields states.items u).auth = u.auth := by
    intro u
    obtain ⟨_, _, _, habsorbed⟩ := onlyProfiles_absorb states.items u
    rw [habsorbed]
  have hfetched : ∀ u : World, (fetchConsumptionOnce u).auth = u.auth := by
    intro u
    rw [fetchConsumptionOnce]
    split <;> rfl
  simp only [finishPoll, Coro.wp_bind, Coro.wp_gets, Coro.wp_ite, Coro.wp_modify, Coro.wp_throw,
    Coro.wp_pure, id_eq]
  split
  · split
    · exact ⟨by simp [AsksPassword, updateFailed], trivial⟩
    · exact ⟨by simp [AsksPassword], habsorbed _⟩
  · exact ⟨by simp [AsksPassword], (habsorbed _).trans (hfetched _)⟩

theorem wp_asyncMaybeExtendToken_atRisk (hcred : w.auth.HasCredentials) (explicit : Bool) :
    Coro.wp sessionAtRisk (asyncMaybeExtendToken explicit) (fun result w' =>
      RefusedIff False IsStatusPath w.auth w'.auth ∧ ¬ AsksPassword result) w := by
  have hspared : RefusedIff False IsStatusPath w.auth w.auth := (Renewed.refl w.auth).refusedIff
  simp only [asyncMaybeExtendToken, Coro.wp_bind, Coro.wp_gets, Coro.wp_ite, Coro.wp_pure,
    Coro.wp_modify, Coro.wp_attempt, Client.wp_extendToken]
  split
  · exact ⟨hspared, by simp [AsksPassword]⟩
  split
  · exact ⟨hspared, by simp [AsksPassword]⟩
  intro answer w' hexec
  obtain ⟨hextended, hraised⟩ := Coro.Exec.post hexec
    (wp_asyncExtendToken_willing hcred not_isStatusPath_epTokenExtend)
  cases answer with
  | ok token => exact ⟨hextended, by simp [AsksPassword]⟩
  | error exn =>
      cases exn with
      | dollin err => exact ⟨hextended, by simp [AsksPassword]⟩
      | _ => exact ⟨hextended, not_asksPassword fun exn herror => by
          cases herror
          exact OfCall.ne_configEntryAuthFailed (hraised _ rfl)⟩

theorem wp_asyncUpdateData_atRisk (hcred : w.auth.HasCredentials) :
    Coro.wp sessionAtRisk asyncUpdateData (fun result w' =>
      RefusedIff (AsksPassword result) IsStatusPath w.auth w'.auth) w := by
  simp only [asyncUpdateData, Coro.wp_bind, Coro.wp_gets, Coro.wp_modify, Coro.wp_ite,
    Coro.wp_pure]
  split
  · exact (Renewed.refl w.auth).refusedIff.congr (by simp [AsksPassword])
  simp only [pollDevices, Coro.wp_bind, Coro.wp_gets, Coro.wp_modify]
  have hcred' : ({ beginUpdate w with snapshotDue := false } : World).auth.HasCredentials := hcred
  apply Coro.wp_mono _ (wp_asyncMaybeExtendToken_atRisk hcred' _)
  intro result w₁ hextended
  obtain ⟨hw₁, hquiet⟩ := hextended
  cases result with
  | error exn => exact hw₁.congr (iff_false_intro (by simpa [AsksPassword] using hquiet))
  | ok extended =>
      have hcred₁ : (w₁.note (.pollStarted w₁.devices.keys (pollStart w₁))).auth.HasCredentials :=
        hw₁.hasCredentials hcred
      apply Coro.wp_mono _ (wp_pollLoop_atRisk hcred₁ _ _ _)
      intro result w₂ hpolled
      have hw₂ := hw₁.trans hpolled
      cases result with
      | error exn => exact hw₂.congr (by simp [AsksPassword])
      | ok gathered =>
          apply Coro.wp_mono _ (wp_finishPoll_atRisk gathered.1 gathered.2)
          intro result w₃ hfinished
          obtain ⟨hdone, hauth⟩ := hfinished
          rw [hauth]
          exact hw₂.congr (by simpa [AsksPassword] using hdone)

end Requests

/-! ## The password -/

/-- Setup and update ask for the password exactly if the cloud refused the retry of their own
request for a reason without a name. -/
theorem asksPassword_iff_retryRefused {w : World} (hcred : w.auth.HasCredentials) :
    (∀ result w', Coro.Exec sessionAtRisk asyncSetup w result w' →
      (AsksPassword result ↔ RetryRefused IsInventoryPath (sessionSince w w'))) ∧
    ∀ result w', Coro.Exec sessionAtRisk asyncUpdateData w result w' →
      (AsksPassword result ↔ RetryRefused IsStatusPath (sessionSince w w')) := by
  constructor
  · intro result w' hexec
    exact (hexec.post (wp_asyncSetup_atRisk hcred)).since
  · intro result w' hexec
    exact (hexec.post (wp_asyncUpdateData_atRisk hcred)).since

/-! ## A token refused twice -/

/-- A cloud that logs everyone in: it refuses the stored token as expired and the renewed one
with this code. -/
def refuseTokens (code : ℤ) : ℕ → AuthState → (op : AuthOp) → AuthAnswer op × AuthState
  | _, s, .post _ path _ token =>
      if path = epLogin then
        (.response 200 (some (.obj [("data", .obj [("accessToken", .str "renewed")])])), s)
      else if token = some "stored" then (.response 200 (some (.obj [("code", .int 12001)])), s)
      else (.response 200 (some (.obj [("code", .int code)])), s)
  | _, s, .load => (s.store, s)
  | _, s, .save session => ((), s.setStore (some session))
  | _, s, .clear => ((), s.setStore none)

theorem willing_refuseTokens {code : ℤ} (hcode : code ∈ [5, 14005, 12001]) (n : ℕ)
    (s : AuthState) (op : AuthOp) :
    willing s op (refuseTokens code n s op).1 (refuseTokens code n s op).2 := by
  cases op with
  | post scheme path payload token =>
      simp only [refuseTokens, willing]
      split
      · refine ⟨⟨rfl, rfl⟩, fun _ => ⟨_, rfl, rfl⟩, fun m hsent => ?_⟩
        cases hsent
      next hpath =>
        refine ⟨?_, fun hlogin => absurd hlogin hpath, fun m => ?_⟩
        · split <;> exact ⟨rfl, rfl⟩
        · split
          · intro hsent
            cases hsent
          · simp only [List.mem_cons, List.not_mem_nil, or_false] at hcode
            intro hsent
            obtain rfl | rfl | rfl := hcode
            all_goals cases hsent
  | load => exact ⟨rfl, rfl⟩
  | save session => exact ⟨rfl, rfl⟩
  | clear => exact ⟨rfl, rfl⟩

/-- The requests of the coordinator go to that cloud, and nothing else answers. -/
def throughSession (code : ℤ) : ℕ → World → (op : ClientOp) → ClientAnswer op × World
  | _, w, .call scheme path payload =>
      let run := (authenticated scheme path payload).play (refuseTokens code) 0 w.auth
      (run.1, { w with auth := run.2 })
  | _, w, .extendToken =>
      let run := asyncExtendToken.play (refuseTokens code) 0 w.auth
      (run.1, { w with auth := run.2 })
  | n, w, op => Client.scripted (fun _ => .ok []) (fun _ _ => .ok none) (fun _ w => w) n w op

theorem sessionAtRisk_throughSession {code : ℤ} (hcode : code ∈ [5, 14005, 12001]) (n : ℕ)
    (w : World) (op : ClientOp) :
    sessionAtRisk w op (throughSession code n w op).1 (throughSession code n w op).2 := by
  cases op with
  | call scheme path payload => exact Coro.exec_play _ (willing_refuseTokens hcode) _ 0 w.auth
  | extendToken => exact Coro.exec_play _ (willing_refuseTokens hcode) _ 0 w.auth
  | _ =>
      refine ⟨⟨rfl, rfl⟩, fun exn hraised => ?_⟩
      cases hraised

/-- One appliance, nothing published, and a stored session. -/
def signedIn : World :=
  { World.fresh with
    devices := Client.byThingCode
      [{ thingCode := "A", name := "oven", deviceType := "0xB1", model := "", online := true }]
    auth := { World.fresh.auth with store := some { accessToken := "stored" } } }

/-- Its setup and its update against that cloud. -/
def setupRefused (code : ℤ) : Except Exn Unit × World :=
  asyncSetup.play (throughSession code) 0 signedIn

def updateRefused (code : ℤ) : Except Exn (Dict String DeviceState) × World :=
  asyncUpdateData.play (throughSession code) 0 signedIn

theorem exec_setupRefused {code : ℤ} (hcode : code ∈ [5, 14005, 12001]) :
    Coro.Exec sessionAtRisk asyncSetup signedIn (setupRefused code).1 (setupRefused code).2 :=
  Coro.exec_play _ (sessionAtRisk_throughSession hcode) _ 0 signedIn

theorem exec_updateRefused {code : ℤ} (hcode : code ∈ [5, 14005, 12001]) :
    Coro.Exec sessionAtRisk asyncUpdateData signedIn (updateRefused code).1
      (updateRefused code).2 :=
  Coro.exec_play _ (sessionAtRisk_throughSession hcode) _ 0 signedIn

/-- A renewed token that is refused as expired once more is not held against the password. -/
theorem not_retryRefused_expired :
    ¬ RetryRefused IsInventoryPath (sessionSince signedIn (setupRefused 12001).2) ∧
      ¬ RetryRefused IsStatusPath (sessionSince signedIn (updateRefused 12001).2) := by
  have hcred : signedIn.auth.HasCredentials := by decide
  constructor
  · intro hrefused
    have hasks := ((asksPassword_iff_retryRefused hcred).1 _ _
      (exec_setupRefused (by decide))).mpr hrefused
    obtain ⟨m, herror⟩ := hasks
    have hresult : (setupRefused 12001).1 = .error (.configEntryNotReady "code 12001") := by
      decide +kernel
    rw [hresult] at herror
    cases herror
  · intro hrefused
    have hasks := ((asksPassword_iff_retryRefused hcred).2 _ _
      (exec_updateRefused (by decide))).mpr hrefused
    obtain ⟨m, herror⟩ := hasks
    have hresult : (updateRefused 12001).1 = .error (updateFailed 1) := by
      decide +kernel
    rw [hresult] at herror
    cases herror

/-- One that is refused without a reason is: logins succeed, and the password is asked for. -/
theorem asksPassword_of_unnamed_refusal :
    signedIn.auth.HasCredentials ∧ Reachable signedIn.auth ∧
      (∃ result w', Coro.Exec sessionAtRisk asyncSetup signedIn result w' ∧
        AsksPassword result) ∧
      ∃ result w', Coro.Exec sessionAtRisk asyncUpdateData signedIn result w' ∧
        AsksPassword result := by
  have hsetup : (setupRefused 14005).1 = .error (.configEntryAuthFailed "code 14005") := by
    decide +kernel
  have hupdate : (updateRefused 14005).1 = .error (.configEntryAuthFailed "code 14005") := by
    decide +kernel
  refine ⟨by decide, .init _ _ _, ?_, ?_⟩
  · exact ⟨_, _, exec_setupRefused (by decide), _, hsetup⟩
  · exact ⟨_, _, exec_updateRefused (by decide), _, hupdate⟩

end Coordinator

end Holabrain
