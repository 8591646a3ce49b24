import Holabrain.Cloud.Presence
import Holabrain.Coordinator.DictionaryOutage

/-!
# Where a cached profile comes from

A stored profile has come about by resolutions, each of which carries the reported fields of
its predecessor over, and by absorptions of reported keys.  Only the last resolution decides
what it advertises.
-/

namespace Holabrain

/-! ## What the presence resolver says -/

/-- A rule of the table derives the flag from these keys. -/
def Derived (rules : List PresenceRule) (reported : Finset String) (flag : String) : Prop :=
  ∃ rule ∈ rules, rule.flag = flag ∧ rule.matchesKeys reported = true

theorem Derived.mono {rules : List PresenceRule} {reported more : Finset String} {flag : String}
    (h : Derived rules reported flag) (hsubset : reported ⊆ more) : Derived rules more flag := by
  obtain ⟨rule, hrule, hflag, hmatches⟩ := h
  exact ⟨rule, hrule, hflag, PresenceRule.matchesKeys_mono hsubset hmatches⟩

/-- Every rule of the tables needs a key. -/
theorem not_derived_empty (deviceType flag : String) :
    ¬ Derived (presenceRules deviceType) ∅ flag := by
  have hany : ∀ rule ∈ presenceRules deviceType, rule.requireAll = false := by
    unfold presenceRules
    split <;> decide
  intro hderived
  obtain ⟨rule, hrule, -, hmatches⟩ := hderived
  rw [PresenceRule.matchesKeys, hany rule hrule, if_neg Bool.false_ne_true,
    List.any_eq_true] at hmatches
  obtain ⟨key, -, hkey⟩ := hmatches
  exact absurd (of_decide_eq_true hkey) (Finset.notMem_empty key)

theorem keys_eq_empty_iff {status : Dict String Json} :
    status.keys.toFinset = ∅ ↔ status.isEmpty = true := by
  rw [List.toFinset_eq_empty_iff, Dict.isEmpty_iff_keys]

section Presence

variable {deviceType : String} {provided : Except Exn (Dict String Json)}
  {ctx : ResolutionContext} {feature : String}

theorem mem_features_presenceResolve :
    (∃ profile, presenceResolve (presenceRules deviceType) provided ctx = .ok (some profile) ∧
      feature ∈ profile.features) ↔
    Derived (presenceRules deviceType) (seenKeys provided ctx) feature := by
  rw [presenceResolve, seenKeys]
  cases presenceStatus provided ctx with
  | error exn => simp [Except.map, not_derived_empty]
  | ok status =>
      by_cases hempty : status.isEmpty = true
      · simp [Except.map, hempty, keys_eq_empty_iff.mpr hempty, not_derived_empty]
      · simp [Except.map, hempty, presenceProfile, Derived, and_comm, and_left_comm]

theorem mem_presentFields_presenceResolve :
    (∃ profile, presenceResolve (presenceRules deviceType) provided ctx = .ok (some profile) ∧
      feature ∈ profile.presentFields) ↔ feature ∈ seenKeys provided ctx := by
  rw [presenceResolve, seenKeys]
  cases presenceStatus provided ctx with
  | error exn => simp [Except.map]
  | ok status =>
      by_cases hempty : status.isEmpty = true
      · simp [Except.map, hempty, keys_eq_empty_iff.mpr hempty]
      · simp [Except.map, hempty, presenceProfile]

end Presence

namespace Coordinator

/-! ## What a chain adds -/

section Chain

variable {answers : Answers} {ctx : ResolutionContext} {now : ℚ}

/-- What the profiles of a chain add to one of its parts. -/
theorem mem_chainFold (part : CapabilityProfile → Finset String)
    (hmerge : ∀ a b : CapabilityProfile, part (a.merge b) = part a ∪ part b)
    (hcontribution : ∀ (resolver : Resolver) (p : CapabilityProfile),
      part (contribution ctx now resolver p) = part p) {chain : List Resolver}
    {state state' : ChainState} (h : chainFold answers ctx now chain state = .ok state')
    (feature : String) : feature ∈ part state'.profile ↔ feature ∈ part state.profile ∨
      ∃ resolver ∈ chain, ∃ p, answers resolver ctx = .ok (some p) ∧ feature ∈ part p := by
  induction chain generalizing state with
  | nil =>
      cases h
      simp
  | cons resolver rest ih =>
      rw [chainFold] at h
      simp only [List.mem_cons, exists_eq_or_imp]
      split at h
      next partialProfile hanswer =>
        rw [ih h, hanswer]
        cases partialProfile with
        | none => simp [ChainState.step]
        | some p => simp [ChainState.step, hmerge, hcontribution, or_assoc]
      next err hanswer =>
        rw [ih h, hanswer]
        by_cases hrequired : resolver.required = true <;> simp [ChainState.step, hrequired]
      next => cases h

/-- A chain that ends with a required error had it before, or a required resolver fails. -/
theorem requiredFails_of_chainFold {chain : List Resolver} {state state' : ChainState}
    (h : chainFold answers ctx now chain state = .ok state')
    (hsome : state'.requiredError.isSome) :
    state.requiredError.isSome ∨ RequiredFails answers ctx chain := by
  induction chain generalizing state with
  | nil =>
      cases h
      exact .inl hsome
  | cons resolver rest ih =>
      rw [chainFold] at h
      rw [requiredFails_cons]
      split at h
      next partialProfile hanswer =>
        obtain hbefore | hlater := ih h
        · cases partialProfile <;> exact .inl hbefore
        · exact .inr (.inr hlater)
      next err hanswer =>
        obtain hbefore | hlater := ih h
        · by_cases hneeded : resolver.required = true
          · exact .inr (.inl ⟨hneeded, err, hanswer⟩)
          · rw [ChainState.step, if_neg hneeded] at hbefore
            exact .inl hbefore
        · exact .inr (.inr hlater)
      next => cases h

/-- A chain that raises had a required resolver fail, and nothing produced. -/
theorem requiredFails_of_resolved_error {err : DollinError}
    (h : resolved answers ctx now = .error (.dollin err)) :
    RequiredFails answers ctx (chainFor ctx.deviceType) ∧
      ¬ Produced answers ctx (chainFor ctx.deviceType) := by
  rw [resolved] at h
  cases hfold : chainFold answers ctx now (chainFor ctx.deviceType)
      { profile := emptyProfile ctx.model ctx.deviceType now } with
  | error exn =>
      rw [hfold] at h
      cases h
      exact absurd hfold (chainFold_ne_dollin err)
  | ok state =>
      rw [hfold] at h
      have hproduced := (chainOutcome_of_chainFold hfold).produced
      rw [or_iff_right Bool.false_ne_true] at hproduced
      simp only [bind, Except.bind] at h
      split at h
      next herror hnothing =>
        have hfails := requiredFails_of_chainFold hfold (Option.isSome_of_mem herror)
        refine ⟨hfails.resolve_left Bool.false_ne_true, fun hproduces => ?_⟩
        rw [hproduced.mpr hproduces] at hnothing
        cases hnothing
      next => cases h

end Chain

theorem presence_mem_chainFor (deviceType : String) :
    Resolver.presence ∈ chainFor deviceType := by
  have hall : ∀ chain ∈ defaultChains.values, Resolver.presence ∈ chain := by decide +kernel
  rw [chainFor]
  cases hchain : defaultChains.get? deviceType with
  | none => exact List.mem_singleton_self _
  | some chain => exact hall chain (Dict.mem_values_of_get? hchain)

/-! ## How a profile comes about -/

/-- One run of a chain: what the resolvers answer, the presence resolver what it derives. -/
structure Resolution where
  answers : Answers
  ctx : ResolutionContext
  provided : Except Exn (Dict String Json)
  presence : answers .presence ctx =
    presenceResolve (presenceRules ctx.deviceType) provided ctx

namespace Resolution

/-- What the chain returns. -/
def result (r : Resolution) (now : ℚ) : Except Exn CapabilityProfile :=
  resolved r.answers r.ctx now

/-- The status keys it saw. -/
def seen (r : Resolution) : Finset String := seenKeys r.provided r.ctx

/-- A resolver other than the presence resolver advertises the feature. -/
def Advertises (r : Resolution) (feature : String) : Prop :=
  ∃ resolver ∈ chainFor r.ctx.deviceType, resolver ≠ .presence ∧ ∃ profile,
    r.answers resolver r.ctx = .ok (some profile) ∧ feature ∈ profile.features

/-- A resolver other than the presence resolver publishes the field. -/
def Publishes (r : Resolution) (feature : String) : Prop :=
  ∃ resolver ∈ chainFor r.ctx.deviceType, resolver ≠ .presence ∧ ∃ profile,
    r.answers resolver r.ctx = .ok (some profile) ∧ feature ∈ profile.presentFields

section Result

variable {r : Resolution} {now : ℚ} {profile : CapabilityProfile}

theorem exists_resolver_iff (part : CapabilityProfile → Finset String) (feature : String) :
    (∃ resolver ∈ chainFor r.ctx.deviceType, ∃ p, r.answers resolver r.ctx = .ok (some p) ∧
      feature ∈ part p) ↔
    (∃ resolver ∈ chainFor r.ctx.deviceType, resolver ≠ .presence ∧ ∃ p,
      r.answers resolver r.ctx = .ok (some p) ∧ feature ∈ part p) ∨
    ∃ p, r.answers .presence r.ctx = .ok (some p) ∧ feature ∈ part p := by
  constructor
  · intro h
    obtain ⟨resolver, hmem, hanswer⟩ := h
    by_cases hpresence : resolver = .presence
    · subst hpresence
      exact .inr hanswer
    · exact .inl ⟨resolver, hmem, hpresence, hanswer⟩
  · intro h
    obtain ⟨resolver, hmem, -, hanswer⟩ | hanswer := h
    · exact ⟨resolver, hmem, hanswer⟩
    · exact ⟨.presence, presence_mem_chainFor _, hanswer⟩

theorem mem_result (part : CapabilityProfile → Finset String)
    (hmerge : ∀ a b : CapabilityProfile, part (a.merge b) = part a ∪ part b)
    (hcontribution : ∀ (resolver : Resolver) (p : CapabilityProfile),
      part (contribution r.ctx now resolver p) = part p)
    (hempty : part (emptyProfile r.ctx.model r.ctx.deviceType now) = ∅)
    (h : r.result now = .ok profile) (feature : String) : feature ∈ part profile ↔
      ∃ resolver ∈ chainFor r.ctx.deviceType, ∃ p, r.answers resolver r.ctx = .ok (some p) ∧
        feature ∈ part p := by
  rw [result, resolved] at h
  cases hfold : chainFold r.answers r.ctx now (chainFor r.ctx.deviceType)
      { profile := emptyProfile r.ctx.model r.ctx.deviceType now } with
  | error exn =>
      rw [hfold] at h
      cases h
  | ok state =>
      rw [hfold] at h
      have hprofile : state.profile = profile := by
        simp only [bind, Except.bind] at h
        split at h
        · cases h
        · exact Except.ok.inj h
      rw [← hprofile, mem_chainFold part hmerge hcontribution hfold, hempty]
      exact or_iff_right (Finset.notMem_empty feature)

/-- The features of a resolved profile. -/
theorem mem_features_result (h : r.result now = .ok profile) (feature : String) :
    feature ∈ profile.features ↔
      r.Advertises feature ∨ Derived (presenceRules r.ctx.deviceType) r.seen feature := by
  rw [mem_result CapabilityProfile.features (fun _ _ => rfl) (fun _ _ => rfl) rfl h,
    exists_resolver_iff, r.presence, mem_features_presenceResolve]
  rfl

/-- The fields of a resolved profile. -/
theorem mem_presentFields_result (h : r.result now = .ok profile) (feature : String) :
    feature ∈ profile.presentFields ↔ r.Publishes feature ∨ feature ∈ r.seen := by
  rw [mem_result CapabilityProfile.presentFields (fun _ _ => rfl) (fun _ _ => rfl) rfl h,
    exists_resolver_iff, r.presence, mem_presentFields_presenceResolve]
  rfl

end Result

end Resolution

/-- The chain is the same, and its resolvers other than the presence resolver answer alike. -/
structure Resolution.SameOthers (r r' : Resolution) : Prop where
  deviceType : r'.ctx.deviceType = r.ctx.deviceType
  answers : ∀ resolver ∈ chainFor r.ctx.deviceType, resolver ≠ .presence →
    r'.answers resolver r'.ctx = r.answers resolver r.ctx

namespace Resolution.SameOthers

variable {r r' : Resolution}

theorem exists_iff (h : r.SameOthers r') (part : CapabilityProfile → Finset String)
    (feature : String) :
    (∃ resolver ∈ chainFor r'.ctx.deviceType, resolver ≠ .presence ∧ ∃ p,
      r'.answers resolver r'.ctx = .ok (some p) ∧ feature ∈ part p) ↔
    ∃ resolver ∈ chainFor r.ctx.deviceType, resolver ≠ .presence ∧ ∃ p,
      r.answers resolver r.ctx = .ok (some p) ∧ feature ∈ part p := by
  rw [h.deviceType]
  constructor
  · intro hsome
    obtain ⟨resolver, hmem, hother, hanswer⟩ := hsome
    rw [h.answers resolver hmem hother] at hanswer
    exact ⟨resolver, hmem, hother, hanswer⟩
  · intro hsome
    obtain ⟨resolver, hmem, hother, hanswer⟩ := hsome
    rw [← h.answers resolver hmem hother] at hanswer
    exact ⟨resolver, hmem, hother, hanswer⟩

theorem advertises_iff (h : r.SameOthers r') (feature : String) :
    r'.Advertises feature ↔ r.Advertises feature :=
  h.exists_iff CapabilityProfile.features feature

end Resolution.SameOthers

/-- The profile has come about by resolutions and absorptions, `r` being the last resolution. -/
inductive Obtained : Resolution → CapabilityProfile → Prop
  | first {r : Resolution} {now now' : ℚ} {profile : CapabilityProfile}
      (hresult : r.result now = .ok profile) : Obtained r (carryOver now' none profile)
  | again {r r₀ : Resolution} {now now' : ℚ} {cached profile : CapabilityProfile}
      (hcached : Obtained r₀ cached) (hresult : r.result now = .ok profile) :
      Obtained r (carryOver now' (some cached) profile)
  | absorbed {r : Resolution} {profile : CapabilityProfile} (h : Obtained r profile)
      (keys : Finset String) : Obtained r (profile.withFields keys)

theorem features_carryOver (now : ℚ) (cached : Option CapabilityProfile)
    (profile : CapabilityProfile) : (carryOver now cached profile).features = profile.features := by
  cases cached with
  | none => rfl
  | some cached => rw [carryOver, CapabilityProfile.withFields_features]

theorem subset_presentFields_carryOver (now : ℚ) (cached : Option CapabilityProfile)
    (profile : CapabilityProfile) :
    profile.presentFields ⊆ (carryOver now cached profile).presentFields := by
  cases cached with
  | none => exact fun _ hfield => hfield
  | some cached =>
      rw [carryOver, CapabilityProfile.withFields_presentFields]
      exact Finset.subset_union_left

namespace Obtained

variable {r : Resolution} {profile : CapabilityProfile}

/-- Only the last resolution decides on the features. -/
theorem mem_features (h : Obtained r profile) (feature : String) : feature ∈ profile.features ↔
    r.Advertises feature ∨ Derived (presenceRules r.ctx.deviceType) r.seen feature := by
  induction h with
  | first hresult => rw [features_carryOver, Resolution.mem_features_result hresult]
  | again hcached hresult => rw [features_carryOver, Resolution.mem_features_result hresult]
  | absorbed _ keys ih => rw [CapabilityProfile.withFields_features, ih]

/-- The fields that the last resolution saw are still there. -/
theorem mem_presentFields (h : Obtained r profile) {feature : String}
    (hfield : r.Publishes feature ∨ feature ∈ r.seen) : feature ∈ profile.presentFields := by
  induction h with
  | first hresult =>
      exact subset_presentFields_carryOver _ _ _
        ((Resolution.mem_presentFields_result hresult feature).mpr hfield)
  | again hcached hresult =>
      exact subset_presentFields_carryOver _ _ _
        ((Resolution.mem_presentFields_result hresult feature).mpr hfield)
  | absorbed _ keys ih =>
      rw [CapabilityProfile.withFields_presentFields]
      exact Finset.mem_union_left keys (ih hfield)

/-- What an obtained profile supports. -/
theorem supports_iff (h : Obtained r profile) (feature : String) : profile.supports feature ↔
    r.Advertises feature ∨ Derived (presenceRules r.ctx.deviceType) r.seen feature ∨
      feature ∈ profile.presentFields := by
  rw [CapabilityProfile.supports, h.mem_features, or_assoc]

end Obtained

/-! ## What absorbing adds to a profile -/

/-- The keys that these states report for a model. -/
def reportedKeys (devices : Dict String Device) (key : String) :
    List (String × DeviceState) → Finset String
  | [] => ∅
  | (thingCode, state) :: rest =>
      (if (devices.get? thingCode).map World.profileKey = some key then
          state.attributes.keys.toFinset
        else ∅) ∪ reportedKeys devices key rest

section Absorb

variable {key : String}

theorem get?_absorbOne (acc : World × Bool × Bool) (entry : String × DeviceState) :
    (absorbOne acc entry).1.capabilities.get? key =
      (acc.1.capabilities.get? key).map
        (·.withFields (reportedKeys acc.1.devices key [entry])) := by
  have hunreported : (acc.1.devices.get? entry.1).map World.profileKey ≠ some key →
      (acc.1.capabilities.get? key).map
        (·.withFields (reportedKeys acc.1.devices key [entry])) =
      acc.1.capabilities.get? key := by
    intro hother
    simp [reportedKeys, hother]
  rw [absorbOne]
  split
  next hdevice =>
    rw [hunreported]
    rw [hdevice]
    intro hsome
    cases hsome
  next device hdevice =>
    dsimp only
    by_cases hkey : World.profileKey device = key
    · subst hkey
      have hreported : reportedKeys acc.1.devices (World.profileKey device) [entry] =
          entry.2.attributes.keys.toFinset := by
        simp [reportedKeys, hdevice]
      rw [hreported]
      split
      next hnone => rw [hnone, Option.map_none]
      next profile hprofile =>
        rw [hprofile, Option.map_some]
        split
        next hsame => rw [hprofile, CapabilityProfile.withFields, hsame, Option.getD_none]
        next updated hupdated =>
          rw [Dict.get?_setItem_self, CapabilityProfile.withFields, hupdated, Option.getD_some]
    · rw [hunreported]
      · split
        · rfl
        split
        · rfl
        · exact Dict.get?_setItem_of_ne _ _ (Ne.symm hkey)
      · rw [hdevice, Option.map_some]
        exact fun hsome => hkey (Option.some.inj hsome)

theorem devices_absorbOne (acc : World × Bool × Bool) (entry : String × DeviceState) :
    (absorbOne acc entry).1.devices = acc.1.devices := by
  obtain ⟨_, _, _, hw⟩ := onlyProfiles_absorbOne acc entry
  rw [hw]

theorem get?_absorbStatusFields (states : List (String × DeviceState)) (w : World) :
    (absorbStatusFields states w).capabilities.get? key =
      (w.capabilities.get? key).map (·.withFields (reportedKeys w.devices key states)) := by
  have hfold : ∀ (states : List (String × DeviceState)) (acc : World × Bool × Bool),
      (states.foldl absorbOne acc).1.capabilities.get? key =
        (acc.1.capabilities.get? key).map
          (·.withFields (reportedKeys acc.1.devices key states)) := by
    intro states
    induction states with
    | nil =>
        intro acc
        simp [reportedKeys]
    | cons entry rest ih =>
        intro acc
        rw [List.foldl_cons]
        calc (rest.foldl absorbOne (absorbOne acc entry)).1.capabilities.get? key
            = ((acc.1.capabilities.get? key).map
                (·.withFields (reportedKeys acc.1.devices key [entry]))).map
                  (·.withFields (reportedKeys acc.1.devices key rest)) := by
              rw [ih, get?_absorbOne, devices_absorbOne]
          _ = (acc.1.capabilities.get? key).map
                (·.withFields (reportedKeys acc.1.devices key (entry :: rest))) := by
              rw [Option.map_map]
              simp only [reportedKeys, Finset.union_empty, Function.comp_def,
                CapabilityProfile.withFields_withFields]
  rw [← hfold states (w, false, false), absorbStatusFields]
  dsimp only
  split <;> split <;> rfl

end Absorb

/-! ## Every stored profile has come about in this way -/

def AllObtained (w : World) : Prop :=
  ∀ key profile, w.capabilities.get? key = some profile → ∃ r, Obtained r profile

theorem AllObtained.setItem {w : World} (h : AllObtained w) {r : Resolution}
    {profile : CapabilityProfile} (hprofile : Obtained r profile) (key : String) :
    AllObtained { w with capabilities := w.capabilities.setItem key profile } :=
  Dict.forall_setItem h ⟨r, hprofile⟩

/-- Absorbing reported keys keeps it so. -/
theorem AllObtained.absorb {w : World} (h : AllObtained w)
    (states : List (String × DeviceState)) : AllObtained (absorbStatusFields states w) := by
  intro key profile hstored
  rw [get?_absorbStatusFields, Option.map_eq_some_iff] at hstored
  obtain ⟨cached, hcached, rfl⟩ := hstored
  obtain ⟨r, hr⟩ := h key cached hcached
  exact ⟨r, hr.absorbed _⟩

/-- So does a refresh, whatever the other resolvers answer. -/
theorem wp_allObtained {answers : Answers} (hpresence : ∀ ctx : ResolutionContext, ∃ provided,
      answers .presence ctx = presenceResolve (presenceRules ctx.deviceType) provided ctx)
    (force : Bool) {w : World} (hw : AllObtained w) :
    Coro.wp (answering answers) (asyncResolveDevices force) (fun _ w' => AllObtained w') w := by
  have hloop : ∀ (now : ℚ) (entries : List (String × Device)) (seen : List String)
      (changed : Bool) (w : World), AllObtained w →
      Coro.wp (answering answers) (resolveLoop force now entries seen changed)
        (fun _ w' => AllObtained w') w := by
    intro now entries
    induction entries with
    | nil => exact fun _ _ _ hw => hw
    | cons entry rest ih =>
        intro seen changed w hw
        simp only [resolveLoop, Coro.wp_ite, Coro.wp_bind, Coro.wp_gets, Coro.wp_attempt]
        split
        · exact ih _ _ _ hw
        split
        · exact ih _ _ _ hw
        apply Coro.wp_mono _ (wp_asyncResolve _ w)
        intro result w' hresolved
        obtain ⟨rfl, hresult⟩ := hresolved
        cases result with
        | error exn =>
            cases exn with
            | dollin err => exact ih _ _ _ hw
            | _ => exact hw
        | ok profile =>
            obtain ⟨provided, hprovided⟩ := hpresence (resolutionContext w' entry.1 entry.2)
            let r : Resolution :=
              ⟨answers, resolutionContext w' entry.1 entry.2, provided, hprovided⟩
            have hr : r.result w'.now = .ok profile := hresult.symm
            have hobtained : Obtained r (carryOver now
                (w'.capabilities.get? (World.profileKey entry.2)) profile) := by
              cases hcached : w'.capabilities.get? (World.profileKey entry.2) with
              | none => exact .first hr
              | some cached =>
                  obtain ⟨r₀, hr₀⟩ := hw _ cached hcached
                  exact .again hr₀ hr
            exact ih _ _ _ (hw.setItem hobtained _)
  simp only [asyncResolveDevices, Coro.wp_bind, Coro.wp_gets]
  apply Coro.wp_mono _ (hloop _ _ _ _ w hw)
  intro result w' hw'
  cases result with
  | error exn => exact hw'
  | ok changed =>
      simp only [Coro.wp_ite, Coro.wp_bind, Client.wp_saveCache, Coro.wp_pure]
      split
      · exact hw'
      · intro saved w'' hunchanged
        rw [show w'' = w' from hunchanged]
        cases saved with
        | error exn => exact hw'
        | ok _ => exact hw'

/-! ## A dishwasher without a dictionary entry -/

/-- The dictionary knows no features of the model; no other resolver is asked. -/
def emptyDictionary : Answers := fun resolver ctx =>
  if resolver = .presence then
    presenceResolve (presenceRules ctx.deviceType) (.ok Dict.empty) ctx
  else .ok (some { model := ctx.model, features := ∅, deviceType := ctx.deviceType })

def undocumented (ctx : ResolutionContext) : Resolution where
  answers := emptyDictionary
  ctx := ctx
  provided := .ok Dict.empty
  presence := rfl

/-- A dishwasher in standby that has a door to open. -/
def autoOpening : Dict String DeviceState :=
  Dict.ofList [("D",
    { thingCode := "D"
      attributes := Dict.ofList [("work_status", .str "standby"), ("autoDoorOpen", .str "1")] })]

def dishwasherResolution (data : Dict String DeviceState) : Resolution :=
  undocumented (resolutionContext (oneDishwasher data) "D" dishwasher)

/-- The profile of the dishwasher when its status is first known. -/
def dishwasherProfile (data : Dict String DeviceState) : CapabilityProfile :=
  carryOver 0 none
    (((dishwasherResolution data).result 0).toOption.getD (emptyProfile "760EY179" "0xE1" 0))

theorem obtained_dishwasherProfile {data : Dict String DeviceState}
    (hok : ((dishwasherResolution data).result 0).toOption.isSome = true) :
    Obtained (dishwasherResolution data) (dishwasherProfile data) := by
  rw [dishwasherProfile]
  cases hresult : (dishwasherResolution data).result 0 with
  | error exn =>
      rw [hresult] at hok
      cases hok
  | ok profile => exact .first hresult

end Coordinator

end Holabrain
