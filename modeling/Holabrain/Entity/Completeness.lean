import Holabrain.Entity.Footprint

/-!
# The referenced keys are complete

No modelled entity reads a status key that `referenced_keys` leaves out.  What an appliance
says beside the referenced keys changes neither what its entities show nor what its controls
do.
-/

namespace Holabrain

open Coordinator

/-! ## Everything that is read -/

/-- The status keys that the entities of a category read. -/
def CategorySpec.readKeys (spec : CategorySpec) : List String :=
  spec.states.flatMap (fun rule => rule.when.keys) ++
    spec.guard.flatMap (fun block => statusKeys block.when.keys) ++
    spec.sensors.flatMap SensorSpec.reads ++
    spec.binarySensors.flatMap BinarySensorSpec.reads ++
    spec.switches.flatMap SwitchSpec.reads ++
    spec.numbers.map NumberSpec.key ++
    spec.selects.map SelectSpec.key ++
    spec.light.toList.flatMap LightConfig.reads ++
    spec.climate.toList.flatMap ClimateConfig.reads ++
    spec.waterHeater.toList.flatMap WaterHeaterConfig.reads ++
    spec.oven.toList.flatMap OvenConfig.reads ++
    spec.dishwasher.toList.flatMap DishwasherConfig.reads

/-- Every table reads referenced keys only. -/
theorem mem_referencedKeys_of_mem_readKeys {category : CategorySpec}
    (hcategory : category ∈ categories) {key : String} (hkey : key ∈ category.readKeys) :
    key ∈ category.referencedKeys := by
  have hall : ∀ category ∈ categories, ∀ key ∈ category.readKeys,
      key ∈ category.referencedKeys := by
    decide +kernel
  exact hall category hcategory key hkey

theorem ne_empty_of_mem_referencedKeys {category : CategorySpec}
    (hcategory : category ∈ categories) : ∀ key ∈ category.referencedKeys, key ≠ "" := by
  have hall : ∀ category ∈ categories, "" ∉ category.referencedKeys := by
    decide +kernel
  intro key hkey hempty
  rw [hempty] at hkey
  exact hall category hcategory hkey

/-- The status keys of one entity. -/
def ModelledEntity.reads : ModelledEntity → List String
  | sensor spec => spec.reads
  | binarySensor spec => spec.reads
  | switch spec => spec.reads
  | number spec => [spec.key]
  | select spec _ => [spec.key]
  | button _ => []
  | light cfg => cfg.reads
  | climate cfg => cfg.reads
  | waterHeater cfg => cfg.reads
  | ovenMode cfg | ovenTemperature cfg | ovenDuration cfg | ovenProbe cfg | ovenPreheat cfg
  | ovenStart cfg => cfg.reads
  | dishwasherProgram cfg | dishwasherExtra cfg | dishwasherZone cfg
  | dishwasherStart cfg => cfg.reads

theorem ModelledEntity.mem_readKeys {category : CategorySpec} {entity : ModelledEntity}
    (h : entity.Of category) {key : String} (hkey : key ∈ entity.reads) :
    key ∈ category.readKeys := by
  have hlist : ∀ {α : Type} {specs : List α} {spec : α} (reads : α → List String), spec ∈ specs →
      key ∈ reads spec → key ∈ specs.flatMap reads := fun _ hmem hread =>
    List.mem_flatMap.mpr ⟨_, hmem, hread⟩
  have hconfig : ∀ {α : Type} {config : Option α} {cfg : α} (reads : α → List String),
      config = some cfg → key ∈ reads cfg → key ∈ config.toList.flatMap reads :=
    fun reads hmem hread => hlist reads (Option.mem_toList.mpr hmem) hread
  simp only [CategorySpec.readKeys, List.mem_append]
  cases entity with
  | sensor spec => simp only [hlist SensorSpec.reads h hkey, true_or, or_true]
  | binarySensor spec => simp only [hlist BinarySensorSpec.reads h hkey, true_or, or_true]
  | switch spec => simp only [hlist SwitchSpec.reads h hkey, true_or, or_true]
  | number spec =>
      rw [List.mem_singleton.mp hkey]
      simp only [List.mem_map_of_mem (f := NumberSpec.key) h, true_or, or_true]
  | select spec labelToCode =>
      rw [List.mem_singleton.mp hkey]
      simp only [List.mem_map_of_mem (f := SelectSpec.key) h, true_or, or_true]
  | button spec => exact absurd hkey List.not_mem_nil
  | light cfg => simp only [hconfig LightConfig.reads h hkey, true_or, or_true]
  | climate cfg => simp only [hconfig ClimateConfig.reads h hkey, true_or, or_true]
  | waterHeater cfg => simp only [hconfig WaterHeaterConfig.reads h hkey, true_or, or_true]
  | ovenMode cfg | ovenTemperature cfg | ovenDuration cfg | ovenProbe cfg | ovenPreheat cfg
  | ovenStart cfg => simp only [hconfig OvenConfig.reads h hkey, true_or, or_true]
  | dishwasherProgram cfg | dishwasherExtra cfg | dishwasherZone cfg
  | dishwasherStart cfg => simp only [hconfig DishwasherConfig.reads h hkey, or_true]

/-- No entity of a category reads a key that is not referenced. -/
theorem ModelledEntity.Of.reads_subset {category : CategorySpec} {entity : ModelledEntity}
    (h : entity.Of category) (hcategory : category ∈ categories) :
    ∀ key ∈ entity.reads, key ∈ category.referencedKeys := fun _ hkey =>
  mem_referencedKeys_of_mem_readKeys hcategory (ModelledEntity.mem_readKeys h hkey)

/-! ## What is shown -/

section Shown

variable {category : CategorySpec} (hcategory : category ∈ categories) {thingCode : String}
  {device : Device} {u v : World} (h : SeenAlike thingCode category.referencedKeys u v)
  (hdevice : u.devices.get? thingCode = some device)
  (htype : device.deviceType = category.deviceType)

include hcategory h hdevice htype

theorem SeenAlike.state_eq : machineState u thingCode = machineState v thingCode := by
  have hknown : getCategory device.deviceType = some category := by
    rw [htype, getCategory_deviceType hcategory]
  apply h.machineState_eq hdevice hknown
  intro key hkey
  apply mem_referencedKeys_of_mem_readKeys hcategory
  simp only [CategorySpec.readKeys, List.mem_append]
  simp only [hkey, true_or]

/-- The properties of an entity. -/
theorem SeenAlike.properties_eq {entity : ModelledEntity} (hentity : entity.Of category) :
    ∀ property ∈ entity.properties thingCode, property.read u = property.read v := by
  have hstate := h.state_eq hcategory hdevice htype
  have hreads := ModelledEntity.Of.reads_subset hentity hcategory
  cases entity with
  | sensor spec =>
      simp only [ModelledEntity.properties, List.forall_mem_cons, List.not_mem_nil, false_implies,
        implies_true, and_true]
      exact ⟨h.available_eq rfl, h.sensor_eq hstate hreads⟩
  | binarySensor spec =>
      simp only [ModelledEntity.properties, List.forall_mem_cons, List.not_mem_nil, false_implies,
        implies_true, and_true]
      exact ⟨h.available_eq rfl, h.binarySensor_eq hstate hreads⟩
  | switch spec =>
      simp only [ModelledEntity.properties, List.forall_mem_cons, List.not_mem_nil, false_implies,
        implies_true, and_true]
      exact ⟨h.available_eq rfl, h.switch_eq hstate hreads⟩
  | number spec =>
      simp only [ModelledEntity.properties, List.forall_mem_cons, List.not_mem_nil, false_implies,
        implies_true, and_true]
      exact ⟨h.available_eq rfl, h.number_eq (hreads _ List.mem_cons_self), h.resolveMax_eq spec⟩
  | select spec labelToCode =>
      simp only [ModelledEntity.properties, List.forall_mem_cons, List.not_mem_nil, false_implies,
        implies_true, and_true]
      exact ⟨h.available_eq rfl, h.select_eq (hreads _ List.mem_cons_self) labelToCode⟩
  | ovenMode cfg =>
      simp only [ModelledEntity.properties, List.forall_mem_cons, List.not_mem_nil, false_implies,
        implies_true, and_true]
      exact ⟨h.available_eq rfl, h.label_eq rfl hreads⟩
  | button spec | ovenStart cfg | dishwasherStart cfg =>
      simp only [ModelledEntity.properties, List.forall_mem_cons, List.not_mem_nil, false_implies,
        implies_true, and_true]
      exact h.available_eq rfl
  | light cfg => exact h.light_eq hreads
  | climate cfg => exact h.climate_eq hreads
  | waterHeater cfg => exact (h.waterHeater_eq hreads).1
  | ovenTemperature cfg => exact h.ovenTemperature_eq hreads
  | ovenDuration cfg => exact h.ovenDuration_eq hreads
  | ovenProbe cfg => exact h.ovenProbe_eq hreads
  | ovenPreheat cfg => exact h.ovenPreheat_eq hreads
  | dishwasherProgram cfg => exact h.dishwasherProgram_eq hreads
  | dishwasherExtra cfg => exact h.dishwasherExtra_eq hreads
  | dishwasherZone cfg => exact h.dishwasherZone_eq hreads

/-- Whether a write is refused, and why. -/
theorem SeenAlike.entityRefusal_eq {entity : ModelledEntity} (hentity : entity.Of category) :
    (entity.base thingCode).refusal u = (entity.base thingCode).refusal v := by
  have hstate := h.state_eq hcategory hdevice htype
  apply h.refusal_eq (entity.thingCode_base thingCode) hstate
  intro device' hdevice' block hblock key hkey
  obtain rfl := Option.some.inj (hdevice.symm.trans hdevice')
  apply mem_referencedKeys_of_mem_readKeys hcategory
  rw [HolabrainEntity.blocks, htype, getCategory_deviceType hcategory, List.mem_append] at hblock
  obtain hguard | hown := hblock
  · simp only [CategorySpec.readKeys, List.mem_append]
    have hmem : key ∈ category.guard.flatMap fun block => statusKeys block.when.keys :=
      List.mem_flatMap.mpr ⟨block, hguard, hkey⟩
    simp only [hmem, true_or, or_true]
  · apply ModelledEntity.mem_readKeys hentity
    have hgates : key ∈ statusKeys (entity.base thingCode).gates.keys := by
      rw [statusKeys, List.mem_filter] at hkey ⊢
      refine ⟨?_, hkey.2⟩
      rw [Gates.keys]
      exact List.mem_append_right _ (List.mem_flatMap.mpr ⟨block, hown, hkey.1⟩)
    cases entity with
    | sensor spec => exact List.mem_append_left _ hgates
    | binarySensor spec => exact List.mem_append_left _ hgates
    | switch spec => exact List.mem_append_left _ hgates
    | _ => exact absurd hown List.not_mem_nil

end Shown

/-! ## What is done -/

/-- Either world lets the control suspend for the same request, with the same to follow, or
end alike, and has it stage the same. -/
def UsedAlike (p : CoordM Unit) (u v : World) : Prop :=
  (p.settle u).1 = (p.settle v).1 ∧ (p.settle u).2.drafts = (p.settle v).2.drafts

section Used

variable {thingCode : String} {keys : Finset String} {u v : World}
  (h : SeenAlike thingCode keys u v)

include h

theorem SeenAlike.used_done (result : Except Exn Unit) : UsedAlike (.done result) u v :=
  ⟨rfl, h.drafts⟩

theorem SeenAlike.used_send_bind (entity : HolabrainEntity) (instruction : Members)
    (next : Unit → CoordM Unit) : UsedAlike (entity.asyncSend instruction >>= next) u v := by
  have hdirect : Client.isDirect u entity.thingCode = Client.isDirect v entity.thingCode := by
    rw [Client.isDirect, Client.isDirect, h.protocols]
  rw [UsedAlike, asyncSend_bind, Coro.settle, Coro.settle, hdirect]
  split
  · exact ⟨rfl, h.drafts⟩
  · exact ⟨rfl, h.drafts⟩

theorem SeenAlike.used_send (entity : HolabrainEntity) (instruction : Members) :
    UsedAlike (entity.asyncSend instruction) u v := by
  rw [← Coro.bind_pure (entity.asyncSend instruction)]
  exact h.used_send_bind entity instruction _

omit h in
theorem UsedAlike.gets_bind {α : Type} {f : World → α} {next : α → CoordM Unit}
    (hf : f u = f v) (hnext : UsedAlike (next (f v)) u v) :
    UsedAlike (Coro.gets f >>= next) u v := by
  rw [UsedAlike, Coro.gets_bind, Coro.settle, Coro.settle, hf]
  exact hnext

theorem SeenAlike.used_ofExcept_bind {α : Type} (result : Except Exn α) {next : α → CoordM Unit}
    (hnext : ∀ a, UsedAlike (next a) u v) : UsedAlike (Coro.ofExcept result >>= next) u v := by
  cases result with
  | error exn => exact h.used_done (.error exn)
  | ok a => exact hnext a

theorem SeenAlike.used_checkWritable_bind {entity : HolabrainEntity}
    (hrefusal : entity.refusal u = entity.refusal v) {next : Unit → CoordM Unit}
    (hnext : UsedAlike (next ()) u v) : UsedAlike (entity.checkWritable >>= next) u v := by
  have hread : UsedAlike (Coro.gets entity.refusal >>= fun refusal =>
      Coro.ofExcept refusal >>= next) u v :=
    UsedAlike.gets_bind hrefusal (h.used_ofExcept_bind _ fun _ => hnext)
  exact hread

theorem SeenAlike.used_composedPress {entity : HolabrainEntity}
    {compose : World → Except Exn Members} (hcompose : compose u = compose v) :
    UsedAlike (composedPress entity compose) u v := by
  have hread : UsedAlike (Coro.gets compose >>= fun composed => Coro.ofExcept composed >>=
      fun instruction => entity.asyncSend instruction >>= fun _ =>
        handOver entity.thingCode) u v :=
    UsedAlike.gets_bind hcompose (h.used_ofExcept_bind _ fun _ => h.used_send_bind _ _ _)
  exact hread

theorem SeenAlike.used_stageWith {values : World → Except Exn World}
    (hvalues : (values u).map World.drafts = (values v).map World.drafts) :
    UsedAlike (stageWith values) u v := by
  rw [UsedAlike, stageWith, Coro.gets_bind, Coro.settle, Coro.settle, id_eq, id_eq]
  cases hu : values u with
  | error exn =>
      cases hv : values v with
      | error exn' =>
          rw [hu, hv] at hvalues
          cases hvalues
          exact ⟨rfl, h.drafts⟩
      | ok staged =>
          rw [hu, hv] at hvalues
          cases hvalues
  | ok staged =>
      cases hv : values v with
      | error exn =>
          rw [hu, hv] at hvalues
          cases hvalues
      | ok staged' =>
          rw [hu, hv] at hvalues
          exact ⟨rfl, Except.ok.inj hvalues⟩

/-- A control that always stages. -/
theorem SeenAlike.used_staged {values : World → World}
    (hvalues : (values u).drafts = (values v).drafts) :
    UsedAlike (stageWith fun w => .ok (values w)) u v :=
  h.used_stageWith (congrArg Except.ok hvalues)

theorem SeenAlike.drafts_stage (values : List (String × String)) :
    (stage thingCode values u).drafts = (stage thingCode values v).drafts := by
  rw [stage, stage, h.draft_eq]
  exact congrArg (Dict.setItem · thingCode _) h.drafts

end Used

section Controls

variable {category : CategorySpec} (hcategory : category ∈ categories) {thingCode : String}
  {device : Device} {u v : World} (h : SeenAlike thingCode category.referencedKeys u v)
  (hdevice : u.devices.get? thingCode = some device)
  (htype : device.deviceType = category.deviceType)

include hcategory h hdevice htype

/-- A use of a control that is there to send an instruction. -/
theorem SeenAlike.declared_eq {control : Control}
    (hcontrol : (ModelledControl.declared control).Of category) :
    UsedAlike (control.use thingCode) u v := by
  cases control with
  | turnOn spec | turnOff spec =>
      have hswitch : (ModelledEntity.switch spec).Of category := hcontrol
      have hrefusal : (spec.entity thingCode).refusal u = (spec.entity thingCode).refusal v :=
        h.entityRefusal_eq hcategory hdevice htype hswitch
      exact h.used_checkWritable_bind hrefusal (h.used_send _ _)
  | setNumber spec value => exact h.used_ofExcept_bind _ fun _ => h.used_send _ _
  | selectOption spec labelToCode option =>
      rw [Control.use, SelectSpec.asyncSelectOption]
      split
      · exact h.used_done _
      · exact h.used_done _
      · exact h.used_send _ _
  | press spec => exact h.used_send _ _
  | ovenStart cfg =>
      have hstart : (ModelledEntity.ovenStart cfg).Of category := hcontrol
      have hreads := hstart.reads_subset hcategory
      rw [Control.use, OvenConfig.asyncPress_eq]
      exact h.used_composedPress (h.ovenCompose_eq hreads)
  | dishwasherStart cfg =>
      have hstart : (ModelledEntity.dishwasherStart cfg).Of category := hcontrol
      have hreads := hstart.reads_subset hcategory
      rw [Control.use, DishwasherConfig.asyncPress_eq]
      exact h.used_composedPress (h.dishwasherCompose_eq hreads)

/-- A use of any control. -/
theorem SeenAlike.used_eq {control : ModelledControl} (hcontrol : control.Of category) :
    UsedAlike (control.use thingCode) u v := by
  cases control with
  | declared control => exact h.declared_eq hcategory hdevice htype hcontrol
  | lightOn cfg request => exact h.used_ofExcept_bind _ fun _ => h.used_send _ _
  | lightOff cfg => exact h.used_send _ _
  | climateMode cfg hvacMode =>
      rw [ModelledControl.use, ClimateConfig.asyncSetHvacMode]
      split
      · exact h.used_send _ _
      · split
        · exact h.used_done _
        · exact h.used_send _ _
  | climateTemperature cfg temperature =>
      cases temperature with
      | none => exact h.used_done _
      | some temperature => exact h.used_ofExcept_bind _ fun _ => h.used_send _ _
  | climateFan cfg fanMode =>
      rw [ModelledControl.use, ClimateConfig.asyncSetFanMode]
      split
      · exact h.used_done _
      · exact h.used_send _ _
  | climateOn cfg => exact h.used_send _ _
  | climateOff cfg => exact h.used_send _ _
  | heaterTemperature cfg temperature =>
      cases temperature with
      | none => exact h.used_done _
      | some temperature =>
          have hheater : (ModelledEntity.waterHeater cfg).Of category := hcontrol
          have hreads := hheater.reads_subset hcategory
          apply UsedAlike.gets_bind (h.waterHeater_eq hreads).2
          split
          · exact h.used_done _
          · exact h.used_ofExcept_bind _ fun _ => h.used_send _ _
  | heaterOperation cfg operationMode =>
      rw [ModelledControl.use, WaterHeaterConfig.asyncSetOperationMode]
      split
      · exact h.used_done _
      · exact h.used_done _
      · exact h.used_send _ _
  | heaterOn cfg => exact h.used_send _ _
  | heaterOff cfg => exact h.used_send _ _
  | stageMode cfg option =>
      apply h.used_staged
      rw [OvenConfig.selectMode, OvenConfig.selectMode]
      split
      · exact h.drafts
      · exact h.drafts_stage _
  | stageTemperature cfg value | stageDuration cfg value | stageProbe cfg value =>
      apply h.used_stageWith
      rw [OvenConfig.setNumber, OvenConfig.setNumber]
      cases value.toInt with
      | error exn => rfl
      | ok n => exact congrArg Except.ok (h.drafts_stage _)
  | stagePreheat cfg on =>
      exact h.used_staged (h.drafts_stage _)
  | stageProgram cfg option =>
      apply h.used_staged
      rw [DishwasherConfig.selectProgram, DishwasherConfig.selectProgram, h.modelPrograms_eq]
      split
      · exact h.drafts
      · exact h.drafts_stage _
  | stageExtra cfg option =>
      apply h.used_staged
      rw [DishwasherConfig.selectExtra, DishwasherConfig.selectExtra, h.choices_eq]
      split
      · exact h.drafts
      · exact h.drafts_stage _
  | stageZone cfg option =>
      apply h.used_staged
      rw [DishwasherConfig.selectZone, DishwasherConfig.selectZone]
      split
      · exact h.drafts
      · exact h.drafts_stage _

end Controls

/-! ## Completeness -/

/-- Two snapshots of an appliance that agree on the keys its category refers to cannot be told
apart: not by the state machine, not by what any entity shows or refuses, and not by what any
control sends. -/
theorem referencedKeys_complete {category : CategorySpec} (hcategory : category ∈ categories)
    {w : World} {thingCode : String} {device : Device}
    (hdevice : w.devices.get? thingCode = some device)
    (htype : device.deviceType = category.deviceType) {s t : DeviceState}
    (hagree : AgreeOn category.referencedKeys s t) :
    machineState (w.withSnapshot thingCode s) thingCode =
      machineState (w.withSnapshot thingCode t) thingCode ∧
    (∀ entity : ModelledEntity, entity.Of category →
      (∀ property ∈ entity.properties thingCode,
        property.read (w.withSnapshot thingCode s) = property.read (w.withSnapshot thingCode t)) ∧
      (entity.base thingCode).refusal (w.withSnapshot thingCode s) =
        (entity.base thingCode).refusal (w.withSnapshot thingCode t)) ∧
    ∀ control : ModelledControl, control.Of category →
      UsedAlike (control.use thingCode) (w.withSnapshot thingCode s)
        (w.withSnapshot thingCode t) := by
  have halike := hagree.seenAlike (ne_empty_of_mem_referencedKeys hcategory) w thingCode
  refine ⟨halike.state_eq hcategory hdevice htype, ?_, ?_⟩
  · intro entity hentity
    exact ⟨halike.properties_eq hcategory hdevice htype hentity,
      halike.entityRefusal_eq hcategory hdevice htype hentity⟩
  · intro control hcontrol
    exact halike.used_eq hcategory hdevice htype hcontrol

/-- A dishwasher that is ready to wash, with a lifetime counter that nothing refers to. -/
def readyDishwasher (totalWater : String) : DeviceState where
  thingCode := "D"
  attributes := Dict.ofList
    [("power", .str "1"), ("modeEU", .str "4"), ("doorstatus", .str "1"),
      ("totalWater", .str totalWater)]

/-- The counter decides nothing about the start. -/
theorem referencedKeys_complete_counter :
    UsedAlike (startCycle.asyncPress "D") (switchedOff.withSnapshot "D" (readyDishwasher "17"))
      (switchedOff.withSnapshot "D" (readyDishwasher "18")) := by
  have hagree : AgreeOn Registry.dishwasher.referencedKeys (readyDishwasher "17")
      (readyDishwasher "18") := ⟨rfl, by decide +kernel⟩
  have hdevice : switchedOff.devices.get? "D" = some (appliance "D" "0xE1") := by decide +kernel
  have hcomplete := referencedKeys_complete List.mem_cons_self hdevice rfl hagree
  exact hcomplete.2.2 (.declared (.dishwasherStart startCycle)) rfl

end Holabrain
