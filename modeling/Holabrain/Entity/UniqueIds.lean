import Holabrain.Core.FirstSeen
import Holabrain.Core.JoinedNames
import Holabrain.Entity.UnmappedKeys

/-!
# Unique ids

Home Assistant drops an entity whose unique id is taken.  The id joins the code of the appliance
to a name that a builder chose on its own: the key of a descriptor, a consumption figure, a
composer, or a key as the cloud reported it.  Ids are distinct on every platform but the one of
the sensors; there they are as long as no raw key is the name of a consumption figure and no code
takes up the front of a name.
-/

namespace Holabrain

namespace Coordinator

/-- `_attr_unique_id`. -/
def EntityRef.uniqueId (entity : EntityRef) : String := entity.thingCode ++ "_" ++ entity.uid

/-- What the builders of a platform make of one appliance. -/
def uidsOf (platform : EntityPlatform) (w : World) (thingCode : String) (device : Device) :
    List String :=
  (builders platform).flatMap fun uids => uids w thingCode device

/-! ## By appliance -/

section Appliances

variable {platform : EntityPlatform} {w : World}

/-- Builder by builder or appliance by appliance: the same entities. -/
theorem perm_build : (build platform ∅ w).Perm (w.devices.items.flatMap fun entry =>
    (uidsOf platform w entry.1 entry.2).map (EntityRef.mk entry.1)) := by
  have hbuilt : build platform ∅ w = (builders platform).flatMap fun uids =>
      w.devices.items.flatMap fun entry =>
        (uids w entry.1 entry.2).map (EntityRef.mk entry.1) := by
    simp only [build, forUnseen, Finset.notMem_empty, if_false]
  have hmade : (fun entry : String × Device =>
      (uidsOf platform w entry.1 entry.2).map (EntityRef.mk entry.1)) = fun entry =>
        (builders platform).flatMap fun uids =>
          (uids w entry.1 entry.2).map (EntityRef.mk entry.1) := by
    funext entry
    rw [uidsOf, List.map_flatMap]
  rw [hbuilt, hmade]
  exact perm_flatMap_comm _ _ _

/-- Ids are distinct exactly if the names of each appliance are, and no code takes up the front
of a name. -/
theorem nodup_uniqueId_iff : ((build platform ∅ w).map EntityRef.uniqueId).Nodup ↔
    (∀ entry ∈ w.devices.items, (uidsOf platform w entry.1 entry.2).Nodup) ∧
      ∀ entry ∈ w.devices.items, ∀ entry' ∈ w.devices.items, ∀ middle : String,
        entry'.1 = entry.1 ++ "_" ++ middle → ∀ uid ∈ uidsOf platform w entry'.1 entry'.2,
          middle ++ "_" ++ uid ∉ uidsOf platform w entry.1 entry.2 := by
  have hinjective : Function.Injective String.toList := fun _ _ heq => String.toList_inj.mp heq
  have hjoined : ∀ middle uid : String, (middle ++ "_" ++ uid).toList =
      middle.toList ++ '_' :: uid.toList := by
    intro middle uid
    simp [String.toList_append]
  have hspelled : ((w.devices.items.flatMap fun entry =>
      (uidsOf platform w entry.1 entry.2).map (EntityRef.mk entry.1)).map
        EntityRef.uniqueId).map String.toList = w.devices.items.flatMap fun entry =>
          ((uidsOf platform w entry.1 entry.2).map String.toList).map fun name =>
            entry.1.toList ++ '_' :: name := by
    rw [List.map_flatMap, List.map_flatMap]
    apply List.flatMap_congr
    intro entry _
    rw [List.map_map, List.map_map, List.map_map]
    apply List.map_congr_left
    intro uid _
    exact hjoined entry.1 uid
  have hcodes : w.devices.items.Pairwise fun entry entry' =>
      entry.1.toList ≠ entry'.1.toList := by
    have hkeys : (w.devices.items.map Prod.fst).Nodup := by
      rw [Dict.map_fst_items]
      exact AList.keys_nodup w.devices
    apply (List.pairwise_map.mp hkeys).imp
    exact fun hne heq => hne (hinjective heq)
  rw [(perm_build.map _).nodup_iff, ← List.nodup_map_iff hinjective, hspelled,
    nodup_joined_iff hcodes]
  apply and_congr
  · exact forall₂_congr fun entry _ => List.nodup_map_iff hinjective
  · refine forall₄_congr fun entry hentry entry' hentry' => ?_
    constructor
    · intro hapart middle hcode uid huid hmember
      apply hapart middle.toList _ uid.toList (List.mem_map_of_mem huid)
      · rw [← hjoined]
        exact List.mem_map_of_mem hmember
      · rw [hcode, hjoined]
    · intro hapart middle hcode name hname hmember
      obtain ⟨uid, huid, rfl⟩ := List.mem_map.mp hname
      obtain ⟨uid', huid', heq⟩ := List.mem_map.mp hmember
      apply hapart (String.ofList middle) _ uid huid
      · have hname' : uid' = String.ofList middle ++ "_" ++ uid := by
          apply hinjective
          rw [heq, hjoined, String.toList_ofList]
        rw [← hname']
        exact huid'
      · apply hinjective
        rw [hcode, hjoined, String.toList_ofList]

end Appliances

/-! ## Names that are fixed -/

def consumptionKeys : List String :=
  reportPeriods.flatMap fun period => ["energy_" ++ period.name, "water_" ++ period.name]

/-- The names that a platform has for an appliance of a category, its profile aside. -/
def fixedUids (category : CategorySpec) : EntityPlatform → List String
  | .sensor => (sensorDescriptors category).map Descriptor.uid ++
      if category.category ∈ Registry.meteredCategories then consumptionKeys else []
  | .binarySensor => (binarySensorDescriptors category).map Descriptor.uid
  | .switch => (switchDescriptors category).map Descriptor.uid ++
      if category.oven.isSome then ["oven_preheat"] else []
  | .select => (selectDescriptors category).map Descriptor.uid ++
      ((if category.oven.isSome then ["oven_mode"] else []) ++
        if category.dishwasher.isSome then ["program_select", "extra_option", "wash_zone"]
        else [])
  | .number => (numberDescriptors category).map Descriptor.uid ++
      if category.oven.isSome then ["oven_temperature", "oven_duration", "oven_probe"] else []
  | .button => (buttonDescriptors category).map Descriptor.uid ++
      ((if category.oven.isSome then ["oven_start"] else []) ++
        if category.dishwasher.isSome then ["start_cycle"] else [])
  | .light => if category.light.isSome then ["light"] else []
  | .climate => if category.climate.isSome then ["climate"] else []
  | .waterHeater => if category.waterHeater.isSome then ["water_heater"] else []

theorem nodup_fixedUids (platform : EntityPlatform) :
    ∀ category ∈ categories, (fixedUids category platform).Nodup := by
  cases platform <;> decide

/-- No fixed name ends in another behind an underscore. -/
theorem fixedUids_apart (platform : EntityPlatform) : ∀ category ∈ categories,
    ∀ category' ∈ categories, ∀ uid ∈ fixedUids category platform,
      ∀ uid' ∈ fixedUids category' platform, ¬ '_' :: uid'.toList <:+ uid.toList := by
  cases platform <;> decide +kernel

section Modelled

variable {w : World} {thingCode : String} {device : Device} {category : CategorySpec}
  (hcategory : getCategory device.deviceType = some category)

include hcategory

theorem specUids_sublist (specs : CategorySpec → List Descriptor) :
    (specUids specs w thingCode device).Sublist ((specs category).map Descriptor.uid) := by
  rw [specUids, hcategory]
  exact List.filter_sublist.map _

theorem consumptionUids_eq : consumptionUids w thingCode device =
    if category.category ∈ Registry.meteredCategories then consumptionKeys else [] := by
  rw [consumptionUids, hcategory]
  rfl

theorem ovenUids_sublist {made : World → String → List String} {all : List String}
    (hmade : (made w thingCode).Sublist all) : (ovenUids made w thingCode device).Sublist
      (if category.oven.isSome then all else []) := by
  rw [ovenUids, hcategory, Option.bind_some]
  cases category.oven with
  | none => exact List.Sublist.refl []
  | some cfg => exact hmade

theorem dishwasherUids_sublist {made : DishwasherConfig → World → String → List String}
    {all : List String} (hmade : ∀ cfg, (made cfg w thingCode).Sublist all) :
    (dishwasherUids made w thingCode device).Sublist
      (if category.dishwasher.isSome then all else []) := by
  rw [dishwasherUids, hcategory, Option.bind_some]
  cases category.dishwasher with
  | none => exact List.Sublist.refl []
  | some cfg => exact hmade cfg

theorem nativeUids_sublist (platform : Platform) (defines : CategorySpec → Bool) (uid : String) :
    (nativeUids platform defines uid w thingCode device).Sublist
      (if defines category then [uid] else []) := by
  rw [nativeUids, hcategory]
  dsimp only
  split
  next hboth => rw [if_pos hboth.2]
  next => exact List.nil_sublist _

/-- What is built of an appliance are some of the fixed names, but for the sensors. -/
theorem uidsOf_sublist {platform : EntityPlatform} (hplatform : platform ≠ .sensor) :
    (uidsOf platform w thingCode device).Sublist (fixedUids category platform) := by
  cases platform with
  | sensor => exact absurd rfl hplatform
  | binarySensor =>
      simp only [uidsOf, builders, List.flatMap_cons, List.flatMap_nil, List.append_nil]
      exact specUids_sublist hcategory _
  | switch =>
      simp only [uidsOf, builders, List.flatMap_cons, List.flatMap_nil, List.append_nil]
      apply (specUids_sublist hcategory _).append (ovenUids_sublist hcategory _)
      split
      · exact List.Sublist.refl _
      · exact List.nil_sublist _
  | select =>
      simp only [uidsOf, builders, List.flatMap_cons, List.flatMap_nil, List.append_nil]
      apply (specUids_sublist hcategory _).append
      apply (ovenUids_sublist hcategory (List.Sublist.refl _)).append
      apply dishwasherUids_sublist hcategory
      intro cfg
      split <;> split <;> decide
  | number =>
      simp only [uidsOf, builders, List.flatMap_cons, List.flatMap_nil, List.append_nil]
      apply (specUids_sublist hcategory _).append (ovenUids_sublist hcategory _)
      split <;> decide
  | button =>
      simp only [uidsOf, builders, List.flatMap_cons, List.flatMap_nil, List.append_nil]
      apply (specUids_sublist hcategory _).append
      apply (ovenUids_sublist hcategory (List.Sublist.refl _)).append
      exact dishwasherUids_sublist hcategory fun _ => List.Sublist.refl _
  | light =>
      simp only [uidsOf, builders, List.flatMap_cons, List.flatMap_nil, List.append_nil]
      exact nativeUids_sublist hcategory _ _ _
  | climate =>
      simp only [uidsOf, builders, List.flatMap_cons, List.flatMap_nil, List.append_nil]
      exact nativeUids_sublist hcategory _ _ _
  | waterHeater =>
      simp only [uidsOf, builders, List.flatMap_cons, List.flatMap_nil, List.append_nil]
      exact nativeUids_sublist hcategory _ _ _

end Modelled

/-- Only raw sensors are built of an appliance without a category. -/
theorem uidsOf_unmodelled {platform : EntityPlatform} (hplatform : platform ≠ .sensor) {w : World}
    {thingCode : String} {device : Device} (hcategory : getCategory device.deviceType = none) :
    uidsOf platform w thingCode device = [] := by
  cases platform <;> simp [uidsOf, builders, specUids, ovenUids, dishwasherUids, nativeUids,
    hcategory] at hplatform ⊢

/-! ## Sensors -/

theorem sensor_key_mem_referencedKeys {category : CategorySpec} (hcategory : category ∈ categories)
    {spec : SensorSpec} (hspec : spec ∈ category.sensors) :
    spec.key ∈ category.referencedKeys := by
  have hall : ∀ category ∈ categories, ∀ key ∈ category.sensors.map SensorSpec.key,
      key ∈ category.referencedKeys := by
    decide +kernel
  exact hall category hcategory _ (List.mem_map_of_mem hspec)

section Sensors

variable (w : World) (thingCode : String) (device : Device)

/-- A descriptor that the profile does not gate out, or a consumption figure. -/
def IsFixedSensor (uid : String) : Prop :=
  ∃ category, getCategory device.deviceType = some category ∧
    ((∃ spec ∈ category.sensors, spec.key = uid ∧
      ∀ feature ∈ spec.capability, supports w thingCode feature = true) ∨
        category.category ∈ Registry.meteredCategories ∧ uid ∈ consumptionKeys)

/-- A reported key that nothing models, with few enough keys before it. -/
def IsRawSensor (uid : String) : Prop :=
  ∃ state, w.states.get? thingCode = some state ∧ uid ∈ state.attributes.keys ∧
    uid ∉ envelope ∧
      (state.attributes.keys.filter (· ∉ envelope)).countP (· < uid) < maxGenericSensors ∧
        ∀ category, getCategory device.deviceType = some category →
          uid ∉ category.referencedKeys ∧ uid ∉ hiddenLifetimeCounters

def IsSensor (uid : String) : Prop :=
  IsFixedSensor w thingCode device uid ∨ IsRawSensor w thingCode device uid

variable {w thingCode device}

theorem uidsOf_sensor : uidsOf .sensor w thingCode device =
    (specUids sensorDescriptors w thingCode device ++ consumptionUids w thingCode device) ++
      (genericUids w thingCode device ++ unmappedUids w thingCode device) := by
  simp only [uidsOf, builders, List.flatMap_cons, List.flatMap_nil, List.append_nil,
    List.append_assoc]

theorem not_isGatedOut_iff (descriptor : Descriptor) :
    (!isGatedOut w thingCode descriptor) = true ↔
      ∀ feature ∈ descriptor.capability, supports w thingCode feature = true := by
  rw [isGatedOut]
  cases descriptor.capability <;> simp

theorem mem_fixed_iff (uid : String) : uid ∈ specUids sensorDescriptors w thingCode device ++
    consumptionUids w thingCode device ↔ IsFixedSensor w thingCode device uid := by
  rw [List.mem_append, IsFixedSensor]
  cases hcategory : getCategory device.deviceType with
  | none => simp [specUids, consumptionUids, hcategory]
  | some category =>
      rw [consumptionUids_eq hcategory, specUids, hcategory]
      simp only [Option.some.injEq, exists_eq_left']
      apply or_congr
      · constructor
        · intro hmade
          obtain ⟨descriptor, hdescriptor, rfl⟩ := List.mem_map.mp hmade
          obtain ⟨hlisted, hsupported⟩ := List.mem_filter.mp hdescriptor
          obtain ⟨spec, hspec, rfl⟩ := List.mem_map.mp hlisted
          exact ⟨spec, hspec, rfl, (not_isGatedOut_iff _).mp hsupported⟩
        · rintro ⟨spec, hspec, rfl, hsupported⟩
          refine List.mem_map.mpr ⟨⟨spec.key, spec.capability⟩, List.mem_filter.mpr ⟨?_, ?_⟩, rfl⟩
          · exact List.mem_map_of_mem hspec
          · exact (not_isGatedOut_iff _).mpr hsupported
      · split <;> simp [*]

/-- Raw sensors come from one of the two builders, as the appliance has a category or not. -/
theorem raw_eq : genericUids w thingCode device ++ unmappedUids w thingCode device =
    if (getCategory device.deviceType).isSome then unmappedUids w thingCode device
    else genericUids w thingCode device := by
  cases hcategory : getCategory device.deviceType with
  | none => simp [unmappedUids, hcategory]
  | some category => simp [genericUids, hcategory]

theorem mem_raw_iff (uid : String) : uid ∈ genericUids w thingCode device ++
    unmappedUids w thingCode device ↔ IsRawSensor w thingCode device uid := by
  rw [raw_eq, IsRawSensor]
  cases hstate : w.states.get? thingCode with
  | none => cases hcategory : getCategory device.deviceType <;>
      simp [genericUids, unmappedUids, hstate, hcategory]
  | some state =>
      have hnodup : state.attributes.keys.Nodup := AList.keys_nodup _
      simp only [Option.some.injEq, exists_eq_left']
      cases hcategory : getCategory device.deviceType with
      | none =>
          have hgeneric : genericUids w thingCode device =
              genericStatusKeys state.attributes.keys := by
            rw [genericUids, hcategory, hstate]
          rw [Option.isSome_none, if_neg Bool.false_ne_true, hgeneric,
            mem_genericStatusKeys_iff hnodup]
          simp
      | some category =>
          rw [Option.isSome_some, if_pos rfl, mem_unmappedUids_iff hcategory hstate, IsUnmapped]
          simp only [Option.some.injEq, forall_eq']
          constructor
          · rintro ⟨hkey, ⟨hmapped, henvelope, hhidden⟩, hfew⟩
            exact ⟨hkey, henvelope, hfew, hmapped, hhidden⟩
          · rintro ⟨hkey, henvelope, hfew, hmapped, hhidden⟩
            exact ⟨hkey, ⟨hmapped, henvelope, hhidden⟩, hfew⟩

theorem nodup_raw :
    (genericUids w thingCode device ++ unmappedUids w thingCode device).Nodup := by
  rw [raw_eq]
  cases hstate : w.states.get? thingCode with
  | none => cases hcategory : getCategory device.deviceType <;>
      simp [genericUids, unmappedUids, hstate, hcategory]
  | some state =>
      cases hcategory : getCategory device.deviceType with
      | none =>
          have hnodup : state.attributes.keys.Nodup := AList.keys_nodup _
          rw [Option.isSome_none, if_neg Bool.false_ne_true, genericUids, hcategory, hstate]
          exact nodup_genericStatusKeys hnodup
      | some category =>
          rw [Option.isSome_some, if_pos rfl]
          exact nodup_unmappedUids hcategory hstate

theorem mem_uidsOf_sensor_iff (uid : String) :
    uid ∈ uidsOf .sensor w thingCode device ↔ IsSensor w thingCode device uid := by
  rw [uidsOf_sensor, List.mem_append, mem_fixed_iff, mem_raw_iff, IsSensor]

theorem nodup_fixed : (specUids sensorDescriptors w thingCode device ++
    consumptionUids w thingCode device).Nodup := by
  cases hcategory : getCategory device.deviceType with
  | none => simp [specUids, consumptionUids, hcategory]
  | some category =>
      apply List.Nodup.sublist _
        (nodup_fixedUids .sensor category (mem_categories_of_getCategory hcategory))
      rw [consumptionUids_eq hcategory, fixedUids]
      exact (specUids_sublist hcategory _).append (List.Sublist.refl _)

/-- The key of a descriptor is no raw key, so the names of an appliance are distinct exactly if
no raw key is a consumption figure of a metered one. -/
theorem nodup_uidsOf_sensor_iff : (uidsOf .sensor w thingCode device).Nodup ↔
    ∀ category, getCategory device.deviceType = some category →
      category.category ∈ Registry.meteredCategories →
        ∀ uid ∈ consumptionKeys, ¬ IsRawSensor w thingCode device uid := by
  rw [uidsOf_sensor, List.nodup_append]
  simp only [nodup_fixed, nodup_raw, true_and, mem_fixed_iff, mem_raw_iff]
  constructor
  · intro hapart category hcategory hmetered uid huid hraw
    exact hapart uid ⟨category, hcategory, .inr ⟨hmetered, huid⟩⟩ uid hraw rfl
  · rintro hapart uid ⟨category, hcategory, hfixed⟩ uid' hraw rfl
    obtain ⟨spec, hspec, rfl, -⟩ | ⟨hmetered, huid⟩ := hfixed
    · obtain ⟨state, -, -, -, -, hunmapped⟩ := hraw
      apply (hunmapped category hcategory).1
      exact sensor_key_mem_referencedKeys (mem_categories_of_getCategory hcategory) hspec
    · exact hapart category hcategory hmetered uid huid hraw

end Sensors

/-! ## Distinct ids -/

/-- No metered appliance is offered a consumption figure as a raw key, and no code takes up the
front of a name. -/
structure Separate (w : World) : Prop where
  figures : ∀ entry ∈ w.devices.items, ∀ category,
    getCategory entry.2.deviceType = some category →
      category.category ∈ Registry.meteredCategories →
        ∀ uid ∈ consumptionKeys, ¬ IsRawSensor w entry.1 entry.2 uid
  codes : ∀ entry ∈ w.devices.items, ∀ entry' ∈ w.devices.items, ∀ middle : String,
    entry'.1 = entry.1 ++ "_" ++ middle → ∀ uid, IsSensor w entry'.1 entry'.2 uid →
      ¬ IsSensor w entry.1 entry.2 (middle ++ "_" ++ uid)

/-- Fixed names take no id from each other, whatever the codes. -/
theorem nodup_uniqueId_of_fixed {platform : EntityPlatform} (hplatform : platform ≠ .sensor)
    (w : World) : ((build platform ∅ w).map EntityRef.uniqueId).Nodup := by
  rw [nodup_uniqueId_iff]
  constructor
  · intro entry _
    cases hcategory : getCategory entry.2.deviceType with
    | none =>
        rw [uidsOf_unmodelled hplatform hcategory]
        exact List.nodup_nil
    | some category =>
        exact List.Nodup.sublist (uidsOf_sublist hcategory hplatform)
          (nodup_fixedUids platform category (mem_categories_of_getCategory hcategory))
  · intro entry _ entry' _ middle _ uid huid hmember
    cases hcategory : getCategory entry.2.deviceType with
    | none =>
        rw [uidsOf_unmodelled hplatform hcategory] at hmember
        cases hmember
    | some category =>
        cases hcategory' : getCategory entry'.2.deviceType with
        | none =>
            rw [uidsOf_unmodelled hplatform hcategory'] at huid
            cases huid
        | some category' =>
            apply fixedUids_apart platform category (mem_categories_of_getCategory hcategory)
              category' (mem_categories_of_getCategory hcategory') _
                ((uidsOf_sublist hcategory hplatform).subset hmember) uid
                  ((uidsOf_sublist hcategory' hplatform).subset huid)
            rw [String.toList_append, String.toList_append, List.append_assoc]
            exact List.suffix_append _ _

/-- On every platform but the one of the sensors the unique ids are distinct, and there exactly
if the names of the sensors are kept apart. -/
theorem nodup_uniqueId_iff_separate (platform : EntityPlatform) (w : World) :
    ((build platform ∅ w).map EntityRef.uniqueId).Nodup ↔
      (platform = .sensor → Separate w) := by
  by_cases hplatform : platform = .sensor
  · subst hplatform
    rw [nodup_uniqueId_iff]
    simp only [nodup_uidsOf_sensor_iff, mem_uidsOf_sensor_iff, true_implies]
    exact ⟨fun ⟨hfigures, hcodes⟩ => ⟨hfigures, hcodes⟩,
      fun hseparate => ⟨hseparate.figures, hseparate.codes⟩⟩
  · exact iff_of_true (nodup_uniqueId_of_fixed hplatform w) fun hsensor => absurd hsensor hplatform

/-- A dishwasher that reports a key of its own, and its consumption. -/
def meteredDishwasher (key : String) : World :=
  { World.fresh with
    devices := Dict.ofList [("D",
      { thingCode := "D", name := "Dishwasher", deviceType := "0xE1", model := "D1",
        online := true })]
    data := some (Dict.ofList [("D",
      { thingCode := "D", attributes := Dict.ofList [(key, .str "1")] })]) }

/-- A consumption figure and a raw sensor of it have one id. -/
theorem energy_month_taken_twice :
    ¬ ((build .sensor ∅ (meteredDishwasher "energy_month")).map EntityRef.uniqueId).Nodup := by
  decide +kernel

-- a key of any other name is kept apart
example : ((build .sensor ∅ (meteredDishwasher "energyMonth")).map EntityRef.uniqueId).Nodup := by
  decide +kernel

end Coordinator

end Holabrain
