import Holabrain.Coordinator.Refresh

/-!
# Refreshes without the dictionary

A refresh replaces a cached profile by what the chain merged, and carries over only its
reported fields.  With the dictionary out of reach the chain raises if no other resolver
produced anything, and the cached profile stays; otherwise the features that only the
dictionary had advertised are gone.
-/

namespace Holabrain

namespace CapabilityProfile

variable {profile other : CapabilityProfile} {feature : String}

theorem supports_merge :
    (profile.merge other).supports feature ↔
      profile.supports feature ∨ other.supports feature := by
  simp only [supports, merge, Finset.mem_union]
  tauto

theorem supports_withFields (keys : Finset String) :
    (profile.withFields keys).supports feature ↔ profile.supports feature ∨ feature ∈ keys := by
  simp only [supports, withFields_features, withFields_presentFields, Finset.mem_union]
  tauto

end CapabilityProfile

theorem not_supports_emptyProfile (model deviceType : String) (fetchedAt : ℚ)
    (feature : String) : ¬ (emptyProfile model deviceType fetchedAt).supports feature := by
  simp [emptyProfile, CapabilityProfile.supports]

namespace Coordinator

/-- Some resolver of the chain produces a profile. -/
def Produced (answers : Answers) (ctx : ResolutionContext) (chain : List Resolver) : Prop :=
  ∃ resolver ∈ chain, ∃ profile, answers resolver ctx = .ok (some profile)

/-- Some resolver of the chain produces a profile with the feature. -/
def Contributed (answers : Answers) (ctx : ResolutionContext) (chain : List Resolver)
    (feature : String) : Prop :=
  ∃ resolver ∈ chain, ∃ profile,
    answers resolver ctx = .ok (some profile) ∧ profile.supports feature

/-- A required resolver of the chain fails. -/
def RequiredFails (answers : Answers) (ctx : ResolutionContext) (chain : List Resolver) : Prop :=
  ∃ resolver ∈ chain, resolver.required = true ∧
    ∃ err, answers resolver ctx = .error (.dollin err)

/-! ## The chain -/

section Chain

variable {answers : Answers} {ctx : ResolutionContext} {resolver : Resolver}
  {chain : List Resolver} {feature : String}

theorem produced_cons : Produced answers ctx (resolver :: chain) ↔
    (∃ profile, answers resolver ctx = .ok (some profile)) ∨ Produced answers ctx chain := by
  simp only [Produced, List.mem_cons, exists_eq_or_imp]

theorem contributed_cons : Contributed answers ctx (resolver :: chain) feature ↔
    (∃ profile, answers resolver ctx = .ok (some profile) ∧ profile.supports feature) ∨
      Contributed answers ctx chain feature := by
  simp only [Contributed, List.mem_cons, exists_eq_or_imp]

theorem requiredFails_cons : RequiredFails answers ctx (resolver :: chain) ↔
    (resolver.required = true ∧ ∃ err, answers resolver ctx = .error (.dollin err)) ∨
      RequiredFails answers ctx chain := by
  simp only [RequiredFails, List.mem_cons, exists_eq_or_imp]

section Step

variable (ctx : ResolutionContext) (now : ℚ) (state : ChainState) (resolver : Resolver)
  (outcome : Except DollinError (Option CapabilityProfile))

theorem supports_step (feature : String) :
    (state.step ctx now resolver outcome).profile.supports feature ↔
      state.profile.supports feature ∨
        ∃ profile, outcome = .ok (some profile) ∧ profile.supports feature := by
  rcases outcome with err | (_ | profile)
  · by_cases hrequired : resolver.required = true <;> simp [ChainState.step, hrequired]
  · simp [ChainState.step]
  · have hcontribution : (contribution ctx now resolver profile).supports feature ↔
        profile.supports feature := Iff.rfl
    simp [ChainState.step, CapabilityProfile.supports_merge, hcontribution]

theorem produced_step :
    (state.step ctx now resolver outcome).produced = true ↔
      state.produced = true ∨ ∃ profile, outcome = .ok (some profile) := by
  rcases outcome with err | (_ | profile)
  · by_cases hrequired : resolver.required = true <;> simp [ChainState.step, hrequired]
  · simp [ChainState.step]
  · simp [ChainState.step]

theorem requiredError_step
    (hfails : state.requiredError.isSome ∨
      resolver.required = true ∧ ∃ err, outcome = .error err) :
    (state.step ctx now resolver outcome).requiredError.isSome := by
  rcases outcome with err | (_ | profile)
  · by_cases hrequired : resolver.required = true
    · simp [ChainState.step, hrequired]
    · simpa [ChainState.step, hrequired] using hfails
  · simpa [ChainState.step] using hfails
  · simpa [ChainState.step] using hfails

end Step

/-- What a chain adds to the state it starts from. -/
structure ChainOutcome (answers : Answers) (ctx : ResolutionContext) (chain : List Resolver)
    (state state' : ChainState) : Prop where
  supports : ∀ feature, state'.profile.supports feature ↔
    state.profile.supports feature ∨ Contributed answers ctx chain feature
  produced : state'.produced = true ↔ state.produced = true ∨ Produced answers ctx chain
  failed : state.requiredError.isSome ∨ RequiredFails answers ctx chain →
    state'.requiredError.isSome

theorem ChainOutcome.nil (state : ChainState) : ChainOutcome answers ctx [] state state where
  supports := by simp [Contributed]
  produced := by simp [Produced]
  failed := by simp [RequiredFails]

theorem ChainOutcome.cons {now : ℚ} {state state' : ChainState}
    {outcome : Except DollinError (Option CapabilityProfile)}
    (hanswer : answers resolver ctx = outcome.mapError .dollin)
    (h : ChainOutcome answers ctx chain (state.step ctx now resolver outcome) state') :
    ChainOutcome answers ctx (resolver :: chain) state state' := by
  have hok : ∀ profile, answers resolver ctx = .ok profile ↔ outcome = .ok profile := by
    intro profile
    rw [hanswer]
    cases outcome <;> simp [Except.mapError]
  have herror : ∀ err, answers resolver ctx = .error (.dollin err) ↔ outcome = .error err := by
    intro err
    rw [hanswer]
    cases outcome <;> simp [Except.mapError]
  constructor
  · intro feature
    rw [h.supports, supports_step, contributed_cons]
    simp only [hok, or_assoc]
  · rw [h.produced, produced_step, produced_cons]
    simp only [hok, or_assoc]
  · rw [requiredFails_cons, ← or_assoc]
    simp only [herror]
    exact fun hfails =>
      h.failed (hfails.imp_left (requiredError_step ctx now state resolver outcome))

/-- A chain adds what its resolvers answer. -/
theorem chainOutcome_of_chainFold {now : ℚ} {state state' : ChainState}
    (h : chainFold answers ctx now chain state = .ok state') :
    ChainOutcome answers ctx chain state state' := by
  induction chain generalizing state with
  | nil =>
      cases h
      exact .nil _
  | cons resolver rest ih =>
      rw [chainFold] at h
      split at h
      next partialProfile hanswer =>
        have houtcome : answers resolver ctx = Except.mapError Exn.dollin (.ok partialProfile) :=
          hanswer
        exact (ih h).cons houtcome
      next err hanswer =>
        have houtcome : answers resolver ctx = Except.mapError Exn.dollin (.error err) := hanswer
        exact (ih h).cons houtcome
      next => cases h

/-- The only error of the dictionary's kind that a chain raises is that of a required resolver,
with nothing produced. -/
theorem chainFold_ne_dollin {now : ℚ} {state : ChainState} (err : DollinError) :
    chainFold answers ctx now chain state ≠ .error (.dollin err) := by
  induction chain generalizing state with
  | nil => exact nofun
  | cons resolver rest ih =>
      rw [chainFold]
      split
      · exact ih
      · exact ih
      next exn hne _ =>
        intro heq
        exact hne err (Except.error.inj heq)

/-- With a required resolver failing, the chain succeeds exactly if something was produced. -/
theorem resolved_of_requiredFails (hfails : RequiredFails answers ctx (chainFor ctx.deviceType))
    {now : ℚ} {outcome : Except DollinError CapabilityProfile}
    (h : resolved answers ctx now = outcome.mapError .dollin) :
    match outcome with
    | .ok profile => Produced answers ctx (chainFor ctx.deviceType) ∧ ∀ feature,
        profile.supports feature ↔ Contributed answers ctx (chainFor ctx.deviceType) feature
    | .error _ => ¬ Produced answers ctx (chainFor ctx.deviceType) := by
  rw [resolved] at h
  cases hfold : chainFold answers ctx now (chainFor ctx.deviceType)
      { profile := emptyProfile ctx.model ctx.deviceType now } with
  | error exn =>
      rw [hfold] at h
      cases outcome with
      | ok profile => cases h
      | error err =>
          cases h
          exact absurd hfold (chainFold_ne_dollin err)
  | ok state =>
      have houtcome := chainOutcome_of_chainFold hfold
      have hproduced := houtcome.produced
      rw [or_iff_right Bool.false_ne_true] at hproduced
      obtain ⟨err, herr⟩ := Option.isSome_iff_exists.mp (houtcome.failed (.inr hfails))
      rw [hfold] at h
      simp only [bind, Except.bind, herr] at h
      cases hstate : state.produced with
      | false =>
          rw [hstate] at h
          cases outcome with
          | ok profile => cases h
          | error err =>
              intro hproduces
              rw [hproduced.mpr hproduces] at hstate
              cases hstate
      | true =>
          rw [hstate] at h
          cases outcome with
          | error err => cases h
          | ok profile =>
              cases h
              refine ⟨hproduced.mp hstate, fun feature => ?_⟩
              rw [houtcome.supports, or_iff_right (not_supports_emptyProfile _ _ _ feature)]

end Chain

/-- What is stored under a key once its chain has run without the dictionary. -/
structure StoredWithout (answers : Answers) (ctx : ResolutionContext)
    (cached : CapabilityProfile) (stored : Option CapabilityProfile) : Prop where
  kept : ¬ Produced answers ctx (chainFor ctx.deviceType) → stored = some cached
  replaced : Produced answers ctx (chainFor ctx.deviceType) →
    ∃ profile, stored = some profile ∧ ∀ feature, profile.supports feature ↔
      Contributed answers ctx (chainFor ctx.deviceType) feature ∨ feature ∈ cached.presentFields

theorem Refreshed.storedWithout {answers : Answers} {ctx : ResolutionContext} {now : ℚ}
    {cached : CapabilityProfile} {stored : Option CapabilityProfile}
    (h : Refreshed answers ctx now (some cached) stored)
    (hfails : RequiredFails answers ctx (chainFor ctx.deviceType)) :
    StoredWithout answers ctx cached stored := by
  obtain ⟨outcome, houtcome, rfl⟩ := h
  have hresolved := resolved_of_requiredFails hfails houtcome
  cases outcome with
  | error err => exact ⟨fun _ => rfl, fun hproduced => absurd hproduced hresolved⟩
  | ok profile =>
      refine ⟨fun hnone => absurd hresolved.1 hnone, fun _ => ⟨_, rfl, fun feature => ?_⟩⟩
      rw [carryOver, CapabilityProfile.supports_withFields]
      exact or_congr_left (hresolved.2 feature)

/-! ## What an outage takes away -/

/-- A refresh without the dictionary keeps every supported feature exactly if no other
resolver of the chain produced anything, or each feature the cached profile advertises is
also reported or contributed by another resolver. -/
theorem keepsFeatures_iff {answers : Answers} {force changed : Bool} {w w' : World}
    {thingCode : String} {device : Device} {cached : CapabilityProfile} {err : DollinError}
    (hexec : Coro.Exec (answering answers) (asyncResolveDevices force) w (.ok changed) w')
    (hfirst : FirstOfModel w thingCode device)
    (hcached : w.capabilities.get? (World.profileKey device) = some cached)
    (hdue : force = true ∨ cached.isStale w.now capabilityTtl = true)
    (hdict : Resolver.dict ∈ chainFor device.deviceType)
    (hfails : answers .dict (resolutionContext w thingCode device) = .error (.dollin err)) :
    (∀ feature, cached.supports feature → ∃ profile,
        w'.capabilities.get? (World.profileKey device) = some profile ∧
          profile.supports feature) ↔
      ¬ Produced answers (resolutionContext w thingCode device) (chainFor device.deviceType) ∨
        ∀ feature ∈ cached.features, feature ∈ cached.presentFields ∨
          Contributed answers (resolutionContext w thingCode device)
            (chainFor device.deviceType) feature := by
  have hfresh : isFresh force w.now (some cached) = false := isFresh_eq_false hdue
  have hstored := (hexec.post (wp_asyncResolveDevices_first hfirst hcached hfresh) changed
    rfl).storedWithout ⟨.dict, hdict, rfl, err, hfails⟩
  by_cases hproduced : Produced answers (resolutionContext w thingCode device)
      (chainFor device.deviceType)
  · obtain ⟨profile, hprofile, hsupports⟩ := hstored.replaced hproduced
    rw [hprofile, or_iff_right (not_not_intro hproduced)]
    constructor
    · intro hkept feature hfeature
      obtain ⟨_, ⟨⟩, hsupported⟩ := hkept feature (.inl hfeature)
      exact ((hsupports feature).mp hsupported).symm
    · intro hcovered feature hsupported
      cases hsupported with
      | inl hfeature =>
          exact ⟨profile, rfl, (hsupports feature).mpr (hcovered feature hfeature).symm⟩
      | inr hreported => exact ⟨profile, rfl, (hsupports feature).mpr (.inr hreported)⟩
  · rw [hstored.kept hproduced]
    exact ⟨fun _ => .inl hproduced, fun _ feature hfeature => ⟨cached, rfl, hfeature⟩⟩

/-! ## A dishwasher that was seen -/

/-- The dictionary is out of reach; the presence resolver reports the status keys it is given,
if there are any. -/
def unreachable : Answers := fun resolver ctx =>
  if resolver = .dict then .error (.dollin (.networkError "cloud down"))
  else if ctx.status.isEmpty then .ok none
  else .ok (some
    { model := ctx.model
      features := ∅
      deviceType := ctx.deviceType
      presentFields := ctx.status.keys.toFinset
      sources := ["presence"] })

def playAnswers (answers : Answers) : ℕ → World → (op : ClientOp) → ClientAnswer op × World :=
  Client.scripted (fun _ => .ok []) answers fun _ w => w

theorem answering_playAnswers (answers : Answers) (n : ℕ) (w : World) (op : ClientOp) :
    answering answers w op (playAnswers answers n w op).1 (playAnswers answers n w op).2 := by
  cases op with
  | resolve resolver ctx => exact ⟨rfl, rfl⟩
  | _ => rfl

def dishwasher : Device where
  thingCode := "D"
  name := "dishwasher"
  deviceType := "0xE1"
  model := "760EY179"
  online := true
  metadata := Dict.empty

def rinseAidProfile : CapabilityProfile where
  model := "760EY179"
  features := {"rinse_aid"}
  deviceType := "0xE1"

/-- One dishwasher with a cached profile, and the status it has reported so far. -/
def oneDishwasher (data : Option (Dict String DeviceState)) : World :=
  { World.fresh with
    devices := Dict.ofList [("D", dishwasher)]
    capabilities := Dict.ofList [("760EY179", rinseAidProfile)]
    data := data }

def standby : Dict String DeviceState :=
  Dict.ofList [("D",
    { thingCode := "D", attributes := Dict.ofList [("work_status", .str "standby")] })]

/-- A forced refresh without the dictionary. -/
def refreshed (data : Option (Dict String DeviceState)) : Except Exn Bool × World :=
  (asyncResolveDevices true).play (playAnswers unreachable) 0 (oneDishwasher data)

theorem exec_refreshed {data : Option (Dict String DeviceState)} {changed : Bool}
    (hchanged : (refreshed data).1 = .ok changed) :
    Coro.Exec (answering unreachable) (asyncResolveDevices true) (oneDishwasher data)
      (.ok changed) (refreshed data).2 := by
  rw [← hchanged]
  exact Coro.exec_play _ (answering_playAnswers unreachable) _ 0 _

/-- Before any status is known, the cached profile stays. -/
theorem keepsFeatures_refreshed : ∃ profile,
    (refreshed none).2.capabilities.get? "760EY179" = some profile ∧
      profile.supports "rinse_aid" := by
  have hunchanged : (refreshed none).1 = .ok false := by decide +kernel
  have hfirst : FirstOfModel (oneDishwasher none) "D" dishwasher := ⟨[], [], rfl, by simp⟩
  have hcached : (oneDishwasher none).capabilities.get? (World.profileKey dishwasher) =
      some rinseAidProfile := rfl
  apply (keepsFeatures_iff (exec_refreshed hunchanged) hfirst hcached (.inl rfl)
    (by decide +kernel) rfl).mpr (.inl ?_) "rinse_aid" (.inl (by decide +kernel))
  intro hproduces
  obtain ⟨resolver, hresolver, profile, hproduced⟩ := hproduces
  have hchain : chainFor dishwasher.deviceType = [.dict, .presence] := by decide +kernel
  rw [hchain, List.mem_pair] at hresolver
  have hdict : unreachable .dict (resolutionContext (oneDishwasher none) "D" dishwasher) =
      .error (.dollin (.networkError "cloud down")) := rfl
  have hpresence : unreachable .presence (resolutionContext (oneDishwasher none) "D" dishwasher) =
      .ok none := rfl
  rcases hresolver with rfl | rfl
  · rw [hdict] at hproduced
    cases hproduced
  · rw [hpresence] at hproduced
    cases hproduced

/-- Once it has reported a status, the refresh drops what only the dictionary had
advertised. -/
theorem not_keepsFeatures_refreshed :
    Coro.Exec (answering unreachable) (asyncResolveDevices true) (oneDishwasher standby)
        (.ok true) (refreshed standby).2 ∧
      rinseAidProfile.supports "rinse_aid" ∧
      ∀ profile, (refreshed standby).2.capabilities.get? "760EY179" = some profile →
        ¬ profile.supports "rinse_aid" := by
  refine ⟨exec_refreshed (by decide +kernel), by decide +kernel, fun profile hprofile => ?_⟩
  have hstored : ((refreshed standby).2.capabilities.get? "760EY179").map
      (fun profile => decide (profile.supports "rinse_aid")) = some false := by decide +kernel
  rw [hprofile] at hstored
  simpa using hstored

end Coordinator

end Holabrain
