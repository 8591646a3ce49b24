import Holabrain.Cloud.Resolvers
import Holabrain.Entity.Discovery

/-!
# When the entities stay as they are

A reload is spared where a profile has gained no gating token, and these are harvested from
the descriptor tables.  The composers of the oven and the dishwasher test further tokens,
which the harvest leaves out: a profile that gains one of them calls for an entity that no
reload brings.
-/

namespace Holabrain

namespace Coordinator

/-! ## Profiles that follow one another -/

/-- The profile after reported keys were absorbed, or after it was resolved again with the same
fingerprint. -/
inductive Follows (before : CapabilityProfile) : CapabilityProfile → Prop
  | absorbed (keys : Finset String) : Follows before (before.withFields keys)
  | resolved (now : ℚ) (profile : CapabilityProfile)
      (hsame : (carryOver now (some before) profile).fingerprint = before.fingerprint) :
      Follows before (carryOver now (some before) profile)

/-- What is supported stays so. -/
theorem Follows.supports {before after : CapabilityProfile} (h : Follows before after)
    {token : String} (htoken : before.supports token) : after.supports token := by
  cases h with
  | absorbed keys =>
      rw [CapabilityProfile.supports, CapabilityProfile.withFields_features,
        CapabilityProfile.withFields_presentFields]
      exact htoken.imp_right (Finset.mem_union_left _)
  | resolved now profile hsame =>
      have hfeatures : (carryOver now (some before) profile).features = before.features :=
        congrArg Fingerprint.features hsame
      rw [CapabilityProfile.supports, hfeatures]
      refine htoken.imp_right fun hpresent => ?_
      rw [carryOver, CapabilityProfile.withFields_presentFields]
      exact Finset.mem_union_right _ hpresent

/-- Unless the gating differs, no gating token is gained or lost. -/
theorem supports_iff_of_gating {before after : CapabilityProfile}
    (h : gatingDiffers before after = false) {token : String} (htoken : token ∈ gatingTokens) :
    after.supports token ↔ before.supports token := by
  rw [gatingDiffers, decide_eq_false_iff_not, not_not] at h
  have hboth := congrArg (token ∈ ·) h
  simpa [htoken, CapabilityProfile.supports] using hboth.symm

/-! ## The harvest -/

theorem mem_categories_of_getCategory {deviceType : String} {category : CategorySpec}
    (h : getCategory deviceType = some category) : category ∈ categories :=
  List.mem_of_find?_eq_some h

/-- Every capability of a descriptor of this kind is harvested. -/
def Harvested (specs : CategorySpec → List Descriptor) : Prop :=
  ∀ category ∈ categories, ∀ descriptor ∈ specs category, ∀ token,
    descriptor.capability = some token → token ∈ gatingTokens

theorem harvested_map {α : Type} (specs : CategorySpec → List α) (uid : α → String)
    (capability : α → Option String)
    (hcollected : ∀ category ∈ categories, ∀ token ∈ (specs category).filterMap capability,
      token ∈ gatingTokens) :
    Harvested fun category => (specs category).map fun spec => ⟨uid spec, capability spec⟩ := by
  intro category hcategory descriptor hdescriptor token htoken
  obtain ⟨spec, hspec, rfl⟩ := List.mem_map.mp hdescriptor
  exact hcollected category hcategory token (List.mem_filterMap.mpr ⟨spec, hspec, htoken⟩)

theorem mem_gatingTokens {token : String} : token ∈ gatingTokens ↔ ∃ category ∈ categories,
    token ∈ category.sensors.filterMap SensorSpec.capability ∨
    token ∈ category.binarySensors.filterMap BinarySensorSpec.capability ∨
    token ∈ category.switches.filterMap SwitchSpec.capability ∨
    token ∈ category.selects.filterMap SelectSpec.capability ∨
    token ∈ category.selects.filterMap SelectSpec.optionsFromCapability ∨
    token ∈ category.numbers.filterMap NumberSpec.capability ∨
    token ∈ category.buttons.filterMap ButtonSpec.capability := by
  simp only [gatingTokens, List.mem_toFinset, List.mem_flatMap, List.mem_append, or_assoc]

theorem harvested_sensors : Harvested sensorDescriptors :=
  harvested_map _ _ _ fun category hcategory _ htoken =>
    mem_gatingTokens.mpr ⟨category, hcategory, .inl htoken⟩

theorem harvested_binarySensors : Harvested binarySensorDescriptors :=
  harvested_map _ _ _ fun category hcategory _ htoken =>
    mem_gatingTokens.mpr ⟨category, hcategory, .inr (.inl htoken)⟩

theorem harvested_switches : Harvested switchDescriptors :=
  harvested_map _ _ _ fun category hcategory _ htoken =>
    mem_gatingTokens.mpr ⟨category, hcategory, .inr (.inr (.inl htoken))⟩

theorem harvested_selects : Harvested selectDescriptors :=
  harvested_map _ _ _ fun category hcategory _ htoken =>
    mem_gatingTokens.mpr ⟨category, hcategory, .inr (.inr (.inr (.inl htoken)))⟩

theorem harvested_numbers : Harvested numberDescriptors :=
  harvested_map _ _ _ fun category hcategory _ htoken =>
    mem_gatingTokens.mpr ⟨category, hcategory, .inr (.inr (.inr (.inr (.inr (.inl htoken)))))⟩

theorem harvested_buttons : Harvested buttonDescriptors :=
  harvested_map _ _ _ fun category hcategory _ htoken =>
    mem_gatingTokens.mpr ⟨category, hcategory, .inr (.inr (.inr (.inr (.inr (.inr htoken)))))⟩

/-! ## The tokens of the composers -/

/-- What the composers of a category test, one group for each entity that is left out where
none of its tokens is supported. -/
def composerTokens (category : CategorySpec) : List (List String) :=
  (match category.oven with
    | none => []
    | some _ => [[capPreheat], [capFoodProbe]]) ++
  match category.dishwasher with
    | none => []
    | some cfg => [cfg.extras.map fun e => e.2.2, [cfg.zoneCapability]]

/-- Some token of the group is supported. -/
def SupportsSome (profile : CapabilityProfile) (group : List String) : Prop :=
  ∃ token ∈ group, profile.supports token

/-- The second profile lets no composer of the category make an entity that the first one did
not. -/
def NothingComposed (category : CategorySpec) (before after : CapabilityProfile) : Prop :=
  ∀ group ∈ composerTokens category, SupportsSome after group → SupportsSome before group

/-! ## One appliance under two profiles -/

/-- The world with another profile for the model of the appliance. -/
def reprofiled (w : World) (device : Device) (profile : CapabilityProfile) : World :=
  { w with capabilities := w.capabilities.setItem (World.profileKey device) profile }

/-- What the platforms build for an appliance, by the ends of the unique ids. -/
def uidsFor (platform : EntityPlatform) : Uids := fun w thingCode device =>
  (builders platform).flatMap fun uids => uids w thingCode device

section Appliance

variable {w w' : World} {thingCode : String} {device : Device} {before after : CapabilityProfile}

theorem calledFor_eq (platform : EntityPlatform)
    (hdevice : w.devices.get? thingCode = some device) :
    calledFor platform w thingCode =
      (uidsFor platform w thingCode device).map (EntityRef.mk thingCode) := by
  rw [calledFor, hdevice, uidsFor, List.map_flatMap]

theorem supports_eq (hdevice : w.devices.get? thingCode = some device)
    (hprofile : w.capabilities.get? (World.profileKey device) = some before) (token : String) :
    supports w thingCode token = decide (before.supports token) := by
  rw [supports, World.capabilityFor, hdevice, Option.bind_some, hprofile]
  rfl

theorem supports_reprofiled (hdevice : w.devices.get? thingCode = some device)
    (token : String) :
    supports (reprofiled w device after) thingCode token = decide (after.supports token) :=
  supports_eq (w := reprofiled w device after) hdevice (Dict.get?_setItem_self _ _ _) token

/-- Descriptors are gated alike where the harvested tokens are supported alike. -/
theorem specUids_congr {specs : CategorySpec → List Descriptor} (hspecs : Harvested specs)
    (hsupports : ∀ token ∈ gatingTokens, supports w' thingCode token = supports w thingCode token) :
    specUids specs w' thingCode device = specUids specs w thingCode device := by
  rw [specUids, specUids]
  split
  · rfl
  next category hcategory =>
    congr 1
    apply List.filter_congr
    intro descriptor hdescriptor
    rw [isGatedOut, isGatedOut]
    cases htoken : descriptor.capability with
    | none => rfl
    | some token =>
        have hmem := hspecs category (mem_categories_of_getCategory hcategory) descriptor
          hdescriptor token htoken
        rw [Option.any_some, Option.any_some, hsupports token hmem]

/-- No extra option is there exactly where none is supported. -/
theorem isEmpty_availableExtras (cfg : DishwasherConfig) :
    (cfg.availableExtras thingCode w).isEmpty = true ↔
      ∀ token ∈ cfg.extras.map (fun e => e.2.2), supports w thingCode token = false := by
  rw [DishwasherConfig.availableExtras, Dict.isEmpty_ofList_iff, List.map_eq_nil_iff,
    List.filter_eq_nil_iff, List.forall_mem_map]
  simp only [Bool.not_eq_true]

end Appliance

/-! ## What the composers build -/

section Composed

variable {w w' : World} {thingCode : String} {device : Device}

/-- The composers find the same of what they test. -/
def SameComposed (w w' : World) (thingCode : String) (device : Device) : Prop :=
  (∀ cfg, (getCategory device.deviceType).bind CategorySpec.oven = some cfg →
    supports w' thingCode capPreheat = supports w thingCode capPreheat ∧
    supports w' thingCode capFoodProbe = supports w thingCode capFoodProbe) ∧
  ∀ cfg, (getCategory device.deviceType).bind CategorySpec.dishwasher = some cfg →
    (cfg.availableExtras thingCode w').isEmpty = (cfg.availableExtras thingCode w).isEmpty ∧
    supports w' thingCode cfg.zoneCapability = supports w thingCode cfg.zoneCapability

theorem ovenUids_congr {made : World → String → List String}
    (hmade : ∀ cfg, (getCategory device.deviceType).bind CategorySpec.oven = some cfg →
      made w' thingCode = made w thingCode) :
    ovenUids made w' thingCode device = ovenUids made w thingCode device := by
  rw [ovenUids, ovenUids]
  split
  · rfl
  next cfg hcfg => exact hmade cfg hcfg

theorem dishwasherUids_congr {made : DishwasherConfig → World → String → List String}
    (hmade : ∀ cfg, (getCategory device.deviceType).bind CategorySpec.dishwasher = some cfg →
      made cfg w' thingCode = made cfg w thingCode) :
    dishwasherUids made w' thingCode device = dishwasherUids made w thingCode device := by
  rw [dishwasherUids, dishwasherUids]
  split
  · rfl
  next cfg hcfg => exact hmade cfg hcfg

/-- Every builder makes the same. -/
theorem SameComposed.uids_eq (h : SameComposed w w' thingCode device)
    (hstates : w'.states = w.states)
    (hsupports : ∀ token ∈ gatingTokens, supports w' thingCode token = supports w thingCode token)
    (platform : EntityPlatform) :
    ∀ uids ∈ builders platform, uids w' thingCode device = uids w thingCode device := by
  cases platform with
  | sensor =>
      simp only [builders, List.mem_cons, List.not_mem_nil, or_false]
      rintro uids (rfl | rfl | rfl | rfl)
      · exact specUids_congr harvested_sensors hsupports
      · rfl
      · rw [genericUids, genericUids, hstates]
      · rw [unmappedUids, unmappedUids, hstates]
  | binarySensor =>
      simp only [builders, List.mem_singleton]
      rintro uids rfl
      exact specUids_congr harvested_binarySensors hsupports
  | switch =>
      simp only [builders, List.mem_cons, List.not_mem_nil, or_false]
      rintro uids (rfl | rfl)
      · exact specUids_congr harvested_switches hsupports
      · exact ovenUids_congr fun cfg hcfg => by rw [(h.1 cfg hcfg).1]
  | select =>
      simp only [builders, List.mem_cons, List.not_mem_nil, or_false]
      rintro uids (rfl | rfl | rfl)
      · exact specUids_congr harvested_selects hsupports
      · rfl
      · exact dishwasherUids_congr fun cfg hcfg => by rw [(h.2 cfg hcfg).1, (h.2 cfg hcfg).2]
  | number =>
      simp only [builders, List.mem_cons, List.not_mem_nil, or_false]
      rintro uids (rfl | rfl)
      · exact specUids_congr harvested_numbers hsupports
      · exact ovenUids_congr fun cfg hcfg => by rw [(h.1 cfg hcfg).2]
  | button =>
      simp only [builders, List.mem_cons, List.not_mem_nil, or_false]
      rintro uids (rfl | rfl | rfl)
      · exact specUids_congr harvested_buttons hsupports
      · rfl
      · rfl
  | light | climate | waterHeater =>
      simp only [builders, List.mem_singleton]
      rintro uids rfl
      rfl

/-- What the platforms build says what the composers have found. -/
theorem uidsFor_congr_iff (hstates : w'.states = w.states)
    (hsupports : ∀ token ∈ gatingTokens, supports w' thingCode token = supports w thingCode token) :
    (∀ platform, uidsFor platform w' thingCode device = uidsFor platform w thingCode device) ↔
      SameComposed w w' thingCode device := by
  constructor
  · intro hsame
    have hswitch := hsame .switch
    have hselect := hsame .select
    have hnumber := hsame .number
    simp only [uidsFor, builders, List.flatMap_cons, List.flatMap_nil, List.append_nil,
      specUids_congr harvested_switches hsupports, specUids_congr harvested_selects hsupports,
      specUids_congr harvested_numbers hsupports] at hswitch hselect hnumber
    constructor
    · intro cfg hcfg
      have hpreheat := List.append_cancel_left hswitch
      have hprobe := List.append_cancel_left hnumber
      simp only [ovenUids, hcfg] at hpreheat hprobe
      constructor
      · revert hpreheat
        cases supports w' thingCode capPreheat <;> cases supports w thingCode capPreheat <;> simp
      · revert hprobe
        cases supports w' thingCode capFoodProbe <;> cases supports w thingCode capFoodProbe <;>
          simp
    · intro cfg hcfg
      have hcomposed := List.append_cancel_left (List.append_cancel_left hselect)
      simp only [dishwasherUids, hcfg] at hcomposed
      revert hcomposed
      cases (cfg.availableExtras thingCode w').isEmpty <;>
        cases (cfg.availableExtras thingCode w).isEmpty <;>
        cases supports w' thingCode cfg.zoneCapability <;>
        cases supports w thingCode cfg.zoneCapability <;> simp
  · intro hcomposed platform
    exact List.flatMap_congr (hcomposed.uids_eq hstates hsupports platform)

variable {before after : CapabilityProfile}

theorem supportsSome_singleton {profile : CapabilityProfile} {token : String} :
    SupportsSome profile [token] ↔ profile.supports token := by
  simp [SupportsSome]

theorem supports_reprofiled_eq_iff (hdevice : w.devices.get? thingCode = some device)
    (hprofile : w.capabilities.get? (World.profileKey device) = some before)
    (hmono : ∀ token, before.supports token → after.supports token) (token : String) :
    supports (reprofiled w device after) thingCode token = supports w thingCode token ↔
      (after.supports token → before.supports token) := by
  rw [supports_reprofiled hdevice, supports_eq hdevice hprofile, decide_eq_decide]
  exact ⟨Iff.mp, fun hlost => ⟨hlost, hmono token⟩⟩

/-- The extra option comes or goes with the whole group of its tokens. -/
theorem isEmpty_extras_reprofiled_iff (cfg : DishwasherConfig)
    (hdevice : w.devices.get? thingCode = some device)
    (hprofile : w.capabilities.get? (World.profileKey device) = some before)
    (hmono : ∀ token, before.supports token → after.supports token) :
    (cfg.availableExtras thingCode (reprofiled w device after)).isEmpty =
        (cfg.availableExtras thingCode w).isEmpty ↔
      (SupportsSome after (cfg.extras.map fun e => e.2.2) →
        SupportsSome before (cfg.extras.map fun e => e.2.2)) := by
  rw [Bool.eq_iff_iff, isEmpty_availableExtras, isEmpty_availableExtras]
  simp only [supports_reprofiled hdevice, supports_eq hdevice hprofile, decide_eq_false_iff_not]
  constructor
  · rintro hiff ⟨token, hgroup, htoken⟩
    by_contra hnone
    exact hiff.mpr (fun other hother hbefore => hnone ⟨other, hother, hbefore⟩) token hgroup htoken
  · intro hgained
    constructor
    · exact fun hnone token hgroup htoken => hnone token hgroup (hmono token htoken)
    · intro hnone token hgroup htoken
      obtain ⟨other, hother, hbefore⟩ := hgained ⟨token, hgroup, htoken⟩
      exact hnone other hother hbefore

theorem sameComposed_reprofiled_iff (hdevice : w.devices.get? thingCode = some device)
    (hprofile : w.capabilities.get? (World.profileKey device) = some before)
    (hmono : ∀ token, before.supports token → after.supports token) :
    SameComposed w (reprofiled w device after) thingCode device ↔
      ∀ category, getCategory device.deviceType = some category →
        NothingComposed category before after := by
  have hsupports := supports_reprofiled_eq_iff hdevice hprofile hmono
  rw [SameComposed]
  cases getCategory device.deviceType with
  | none => simp
  | some category =>
      simp only [Option.bind_some, hsupports,
        fun cfg => isEmpty_extras_reprofiled_iff cfg hdevice hprofile hmono, Option.some.injEq,
        forall_eq', NothingComposed, composerTokens]
      cases category.oven <;> cases category.dishwasher <;>
        simp [supportsSome_singleton, and_assoc]

end Composed

/-! ## Sparing a reload -/

/-- While no gating token is gained or lost, the entities of an appliance are the same under
the profile that follows exactly if no composer of its category finds a token it tests for the
first time. -/
theorem calledFor_unchanged_iff {w : World} {thingCode : String} {device : Device}
    {before after : CapabilityProfile} (hdevice : w.devices.get? thingCode = some device)
    (hprofile : w.capabilities.get? (World.profileKey device) = some before)
    (hafter : Follows before after) (hgating : gatingDiffers before after = false) :
    (∀ platform, calledFor platform (reprofiled w device after) thingCode =
      calledFor platform w thingCode) ↔
    ∀ category, getCategory device.deviceType = some category →
      NothingComposed category before after := by
  have hdevice' : (reprofiled w device after).devices.get? thingCode = some device := hdevice
  have hstates : (reprofiled w device after).states = w.states := rfl
  have hgated : ∀ token ∈ gatingTokens,
      supports (reprofiled w device after) thingCode token = supports w thingCode token := by
    intro token htoken
    rw [supports_reprofiled_eq_iff hdevice hprofile fun _ => hafter.supports]
    exact (supports_iff_of_gating hgating htoken).mp
  rw [← sameComposed_reprofiled_iff hdevice hprofile fun _ => hafter.supports,
    ← uidsFor_congr_iff hstates hgated]
  apply forall_congr'
  intro platform
  rw [calledFor_eq platform hdevice', calledFor_eq platform hdevice,
    (List.map_injective_iff.mpr fun _ _ heq => (EntityRef.mk.inj heq).2).eq_iff]

/-! ## An oven that reports its probe -/

/-- What the table of the ovens and one status make of a profile. -/
def plainOven : CapabilityProfile where
  model := ""
  features := ovenStatic.base.features
  params := ovenStatic.base.params
  deviceType := "0xB1"
  presentFields := {"work_switch"}
  sources := ["static", "presence"]

/-- The oven under that profile, its entry set up. -/
def ovenSetUp : World :=
  { ovenAtSetup with
    capabilities := Dict.ofList [("A", plainOven)]
    setupDone := true }

/-- The frame that mentions a food probe for the first time. -/
def probeReported : World := handlePush "eu/eu_A/dev" [("food_probe", .str "1")] ovenSetUp

/-- No gating token is gained and no reload scheduled, and yet the oven calls for the target of
the probe from then on. -/
theorem probe_without_reload :
    Follows plainOven (plainOven.withFields {"food_probe"}) ∧
    gatingDiffers plainOven (plainOven.withFields {"food_probe"}) = false ∧
    (⟨"A", "oven_probe"⟩ : EntityRef) ∉ calledFor .number ovenSetUp "A" ∧
    (⟨"A", "oven_probe"⟩ : EntityRef) ∈ calledFor .number
      (reprofiled ovenSetUp (oven "A") (plainOven.withFields {"food_probe"})) "A" ∧
    (⟨"A", "oven_probe"⟩ : EntityRef) ∈ calledFor .number probeReported "A" ∧
    probeReported.reloads = ovenSetUp.reloads :=
  ⟨.absorbed _, by decide +kernel, by decide +kernel, by decide +kernel, by decide +kernel,
    by decide +kernel⟩

/-- Any other key leaves the entities of the oven as they are. -/
theorem calledFor_unchanged_iff_oven :
    (∀ platform, calledFor platform
        (reprofiled ovenSetUp (oven "A") (plainOven.withFields {"cookTime"})) "A" =
      calledFor platform ovenSetUp "A") ↔
    ∀ category, getCategory "0xB1" = some category →
      NothingComposed category plainOven (plainOven.withFields {"cookTime"}) :=
  calledFor_unchanged_iff (show ovenSetUp.devices.get? "A" = some (oven "A") from rfl) rfl
    (.absorbed _) (by decide +kernel)

end Coordinator

end Holabrain
