import Holabrain.Coordinator.Provenance

/-!
# Refreshes on a truncated status

The flags that the presence rules derive belong to the advertised features, and a refresh
carries over only the reported fields of the cached profile.  A flag whose keys the current
status lacks is gone, unless something else speaks for it.
-/

namespace Holabrain

namespace Coordinator

/-! ## What a truncated status takes away -/

/-- Something other than the rules speaks for the flag after the second resolution. -/
def SpokenFor (r r' : Resolution) (cached : CapabilityProfile) (flag : String) : Prop :=
  r.Advertises flag ∨ flag ∈ cached.presentFields ∨ flag ∈ r'.seen

section Stored

variable {r r' : Resolution} {now : ℚ} {cached : CapabilityProfile}
  {stored : Option CapabilityProfile}

/-- What a refreshed profile supports, compared with the one that was cached. -/
theorem supports_carryOver (hcached : Obtained r cached) (hsame : r.SameOthers r')
    {profile : CapabilityProfile} (hresult : r'.result now = .ok profile) (feature : String) :
    (carryOver now (some cached) profile).supports feature ↔
      SpokenFor r r' cached feature ∨
        Derived (presenceRules r.ctx.deviceType) r'.seen feature := by
  have hpublished : r'.Publishes feature → feature ∈ cached.presentFields := by
    intro hpublishes
    exact hcached.mem_presentFields
      (.inl ((hsame.exists_iff CapabilityProfile.presentFields feature).mp hpublishes))
  rw [carryOver, CapabilityProfile.supports_withFields, CapabilityProfile.supports,
    Resolution.mem_features_result hresult, Resolution.mem_presentFields_result hresult,
    hsame.advertises_iff, hsame.deviceType, SpokenFor]
  tauto

/-- The refreshed profile supports what the cached one did exactly if the chain raised, or
every flag that the rules had derived is still derived or spoken for. -/
theorem keepsSupported_iff (hcached : Obtained r cached) (hsame : r.SameOthers r')
    (hstored : Refreshed r'.answers r'.ctx now (some cached) stored) :
    (∀ feature, cached.supports feature →
        ∃ profile, stored = some profile ∧ profile.supports feature) ↔
      (RequiredFails r'.answers r'.ctx (chainFor r'.ctx.deviceType) ∧
        ¬ Produced r'.answers r'.ctx (chainFor r'.ctx.deviceType)) ∨
      ∀ flag, Derived (presenceRules r.ctx.deviceType) r.seen flag →
        SpokenFor r r' cached flag ∨
          Derived (presenceRules r.ctx.deviceType) r'.seen flag := by
  obtain ⟨outcome, houtcome, rfl⟩ := hstored
  cases outcome with
  | error err =>
      have hraised := requiredFails_of_resolved_error houtcome
      exact ⟨fun _ => .inl hraised, fun _ feature hsupported => ⟨cached, rfl, hsupported⟩⟩
  | ok profile =>
      have hresult : r'.result now = .ok profile := houtcome
      have hsupports := supports_carryOver hcached hsame hresult
      have hreturned : ¬ (RequiredFails r'.answers r'.ctx (chainFor r'.ctx.deviceType) ∧
          ¬ Produced r'.answers r'.ctx (chainFor r'.ctx.deviceType)) := by
        intro hraised
        exact hraised.2 (resolved_of_requiredFails hraised.1 houtcome).1
      rw [or_iff_right hreturned]
      constructor
      · intro hkept flag hderived
        obtain ⟨_, ⟨⟩, hsupported⟩ :=
          hkept flag ((hcached.supports_iff flag).mpr (.inr (.inl hderived)))
        exact (hsupports flag).mp hsupported
      · intro hspoken feature hsupported
        refine ⟨_, rfl, (hsupports feature).mpr ?_⟩
        obtain hadvertised | hderived | hfield := (hcached.supports_iff feature).mp hsupported
        · exact .inl (.inl hadvertised)
        · exact hspoken feature hderived
        · exact .inl (.inr (.inl hfield))

end Stored

/-- A refresh whose other resolvers answer as before keeps every supported feature exactly if
its chain raises, or each flag that the rules derived from the earlier status is advertised or
reported by itself, or derived from the current status as well. -/
theorem keepsFlags_iff {r r' : Resolution} {force changed : Bool} {w w' : World}
    {thingCode : String} {device : Device} {cached : CapabilityProfile}
    (hobtained : Obtained r cached) (hsame : r.SameOthers r')
    (hexec : Coro.Exec (answering r'.answers) (asyncResolveDevices force) w (.ok changed) w')
    (hctx : r'.ctx = resolutionContext w thingCode device)
    (hfirst : FirstOfModel w thingCode device)
    (hcached : w.capabilities.get? (World.profileKey device) = some cached)
    (hdue : force = true ∨ cached.isStale w.now capabilityTtl = true) :
    (∀ feature, cached.supports feature → ∃ profile,
        w'.capabilities.get? (World.profileKey device) = some profile ∧
          profile.supports feature) ↔
      (RequiredFails r'.answers r'.ctx (chainFor device.deviceType) ∧
        ¬ Produced r'.answers r'.ctx (chainFor device.deviceType)) ∨
      ∀ flag, Derived (presenceRules device.deviceType) r.seen flag →
        SpokenFor r r' cached flag ∨ Derived (presenceRules device.deviceType) r'.seen flag := by
  have hfresh : isFresh force w.now (some cached) = false := isFresh_eq_false hdue
  have hstored := hexec.post (wp_asyncResolveDevices_first hfirst hcached hfresh) changed rfl
  rw [← hctx] at hstored
  have htype : device.deviceType = r'.ctx.deviceType := by rw [hctx]; rfl
  have hkeeps := keepsSupported_iff hobtained hsame hstored
  rwa [← hsame.deviceType, ← htype] at hkeeps

/-! ## A dishwasher that opens its door -/

/-- The dishwasher with that profile, and the status it reports now. -/
def autoOpenDishwasher (data : Option (Dict String DeviceState)) : World :=
  { oneDishwasher data with
    capabilities := Dict.ofList [("760EY179", dishwasherProfile autoOpening)] }

def seenAgain (data : Option (Dict String DeviceState)) : Except Exn Bool × World :=
  (asyncResolveDevices true).play (playAnswers emptyDictionary) 0 (autoOpenDishwasher data)

theorem exec_seenAgain {data : Option (Dict String DeviceState)} {changed : Bool}
    (hchanged : (seenAgain data).1 = .ok changed) :
    Coro.Exec (answering emptyDictionary) (asyncResolveDevices true) (autoOpenDishwasher data)
      (.ok changed) (seenAgain data).2 := by
  rw [← hchanged]
  exact Coro.exec_play _ (answering_playAnswers emptyDictionary) _ 0 _

/-- What it resolves to now. -/
def againResolution (data : Dict String DeviceState) : Resolution :=
  undocumented (resolutionContext (autoOpenDishwasher data) "D" dishwasher)

theorem sameOthers_again (data : Dict String DeviceState) :
    (dishwasherResolution autoOpening).SameOthers (againResolution data) where
  deviceType := rfl
  answers := by
    intro resolver _ hother
    have hanswer : ∀ ctx : ResolutionContext, emptyDictionary resolver ctx =
        .ok (some { model := ctx.model, features := ∅, deviceType := ctx.deviceType }) :=
      fun ctx => if_neg hother
    exact (hanswer (againResolution data).ctx).trans
      (hanswer (dishwasherResolution autoOpening).ctx).symm

/-- As long as the key is reported, the refresh keeps the flag. -/
theorem keepsFlags_seenAgain : ∃ profile,
    (seenAgain autoOpening).2.capabilities.get? "760EY179" = some profile ∧
      profile.supports "auto_open" := by
  have hok : ((dishwasherResolution autoOpening).result 0).toOption.isSome = true := by
    decide +kernel
  have hunchanged : (seenAgain autoOpening).1 = .ok false := by decide +kernel
  have hsupported : (dishwasherProfile autoOpening).supports "auto_open" := by decide +kernel
  refine (keepsFlags_iff (obtained_dishwasherProfile hok) (sameOthers_again _)
    (exec_seenAgain hunchanged) rfl ⟨[], [], rfl, by simp⟩ rfl (.inl rfl)).mpr ?_ "auto_open"
    hsupported
  right
  intro flag hderived
  exact .inr hderived

/-- Once the status is truncated, the refresh drops it. -/
theorem not_keepsFlags_seenAgain :
    Obtained (dishwasherResolution autoOpening) (dishwasherProfile autoOpening) ∧
      (dishwasherResolution autoOpening).SameOthers (againResolution standby) ∧
      (againResolution standby).seen ⊆ (dishwasherResolution autoOpening).seen ∧
      Coro.Exec (answering emptyDictionary) (asyncResolveDevices true) (autoOpenDishwasher standby)
        (.ok true) (seenAgain standby).2 ∧
      (autoOpenDishwasher standby).capabilities.get? "760EY179" =
        some (dishwasherProfile autoOpening) ∧
      (dishwasherProfile autoOpening).supports "auto_open" ∧
      ∀ profile, (seenAgain standby).2.capabilities.get? "760EY179" = some profile →
        ¬ profile.supports "auto_open" := by
  have hok : ((dishwasherResolution autoOpening).result 0).toOption.isSome = true := by
    decide +kernel
  refine ⟨obtained_dishwasherProfile hok, sameOthers_again _, by decide +kernel,
    exec_seenAgain (by decide +kernel), rfl, by decide +kernel, fun profile hprofile => ?_⟩
  have hstored : ((seenAgain standby).2.capabilities.get? "760EY179").map
      (fun profile => decide (profile.supports "auto_open")) = some false := by decide +kernel
  rw [hprofile] at hstored
  simpa using hstored

end Coordinator

end Holabrain
