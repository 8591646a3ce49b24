import Holabrain.Entity.Composer
import Holabrain.Entity.Modelled
import Holabrain.Registry.ReferencedKeys

/-!
# What the entities read of a snapshot

Two snapshots that agree on the status keys a category refers to look the same to every one
of its entities: they are in the same state of the machine, show the same values, refuse the
same writes, and send the same instructions.
-/

namespace Holabrain

open Coordinator

/-- The two snapshots say the same about these keys, and about being online. -/
structure AgreeOn (keys : Finset String) (s t : DeviceState) : Prop where
  online : s.online = t.online
  get : ∀ key ∈ keys, s.get key = t.get key

/-- Two worlds that differ for an appliance in what its other status keys say, at most. -/
structure SeenAlike (thingCode : String) (keys : Finset String) (u v : World) : Prop where
  snapshot : ∃ s t, u.states.get? thingCode = some s ∧ v.states.get? thingCode = some t ∧
    AgreeOn keys s t
  named : ∀ key ∈ keys, key ≠ ""
  devices : u.devices = v.devices
  capabilities : u.capabilities = v.capabilities
  drafts : u.drafts = v.drafts
  protocols : u.protocols = v.protocols

theorem AgreeOn.seenAlike {keys : Finset String} {s t : DeviceState} (h : AgreeOn keys s t)
    (hnamed : ∀ key ∈ keys, key ≠ "") (w : World) (thingCode : String) :
    SeenAlike thingCode keys (w.withSnapshot thingCode s) (w.withSnapshot thingCode t) where
  snapshot := ⟨s, t, w.get?_states_withSnapshot _ _, w.get?_states_withSnapshot _ _, h⟩
  named := hnamed
  devices := rfl
  capabilities := rfl
  drafts := rfl
  protocols := rfl

/-- The keys of a condition that stand for a status key. -/
def statusKeys (keys : List String) : List String :=
  keys.filter fun key => decide (key ≠ keyState) && (HolabrainEntity.stagedName key).isNone

/-! ## Values -/

section Values

variable {thingCode : String} {keys : Finset String} {u v : World} {entity : HolabrainEntity}

theorem SeenAlike.value_eq (h : SeenAlike thingCode keys u v)
    (hcode : entity.thingCode = thingCode) {key : String} (hkey : key ∈ keys) :
    entity.value u key = entity.value v key := by
  obtain ⟨s, t, hs, ht, hagree⟩ := h.snapshot
  rw [HolabrainEntity.value, HolabrainEntity.value, hcode, hs, ht]
  dsimp only
  rw [if_neg (h.named key hkey), hagree.get key hkey]

/-- The empty key stands for the entity's own. -/
theorem SeenAlike.ownValue_eq (h : SeenAlike thingCode keys u v)
    (hcode : entity.thingCode = thingCode) (hkey : entity.key ∈ keys) :
    entity.value u "" = entity.value v "" := by
  obtain ⟨s, t, hs, ht, hagree⟩ := h.snapshot
  rw [HolabrainEntity.value, HolabrainEntity.value, hcode, hs, ht]
  exact hagree.get entity.key hkey

theorem SeenAlike.draft_eq (h : SeenAlike thingCode keys u v) (other : String) :
    u.draft other = v.draft other := by
  rw [World.draft, World.draft, h.drafts]

theorem SeenAlike.capabilityFor_eq (h : SeenAlike thingCode keys u v) (other : String) :
    u.capabilityFor other = v.capabilityFor other := by
  rw [World.capabilityFor, World.capabilityFor, h.devices, h.capabilities]

theorem SeenAlike.stagedValue_eq (h : SeenAlike thingCode keys u v)
    (hcode : entity.thingCode = thingCode) {key : String} (hkey : key ∈ keys) :
    entity.stagedValue u key = entity.stagedValue v key := by
  rw [HolabrainEntity.stagedValue, HolabrainEntity.stagedValue, h.draft_eq,
    h.value_eq hcode hkey]

theorem SeenAlike.available_eq (h : SeenAlike thingCode keys u v)
    (hcode : entity.thingCode = thingCode) : entity.available u = entity.available v := by
  obtain ⟨s, t, hs, ht, hagree⟩ := h.snapshot
  rw [HolabrainEntity.available, HolabrainEntity.available, hcode, hs, ht]
  exact hagree.online

end Values

/-! ## Gates -/

section Gates

variable {thingCode : String} {keys : Finset String} {u v : World} {entity : HolabrainEntity}
  {device : Device} {category : CategorySpec}

/-- The state of the machine. -/
theorem SeenAlike.machineState_eq (h : SeenAlike thingCode keys u v)
    (hdevice : u.devices.get? thingCode = some device)
    (hcategory : getCategory device.deviceType = some category)
    (hstates : ∀ key ∈ category.states.flatMap fun rule => rule.when.keys, key ∈ keys) :
    machineState u thingCode = machineState v thingCode := by
  obtain ⟨s, t, hs, ht, hagree⟩ := h.snapshot
  rw [machineState, machineState, hs, ht, ← h.devices, hdevice]
  dsimp only
  rw [resolveMachineState, resolveMachineState, hcategory]
  apply resolveState_congr
  · rfl
  · intro key hkey
    exact congrArg textOf (hagree.get key (hstates key hkey))

/-- What a condition over these keys says. -/
theorem SeenAlike.holds_eq (h : SeenAlike thingCode keys u v)
    (hcode : entity.thingCode = thingCode) (hstate : machineState u thingCode =
      machineState v thingCode) {condition : Cond}
    (hkeys : ∀ key ∈ statusKeys condition.keys, key ∈ keys) :
    condition.holds (entity.gateContext u) = condition.holds (entity.gateContext v) := by
  apply Cond.holds_congr
  · rfl
  · intro key hkey
    simp only [HolabrainEntity.gateContext]
    by_cases hvirtual : key = keyState
    · rw [if_pos hvirtual, if_pos hvirtual, hcode, hstate]
    · rw [if_neg hvirtual, if_neg hvirtual]
      cases hstaged : HolabrainEntity.stagedName key with
      | some name => rw [h.draft_eq]
      | none =>
          have hstatus : key ∈ statusKeys condition.keys := by
            rw [statusKeys, List.mem_filter, hstaged]
            exact ⟨hkey, by simp [hvirtual]⟩
          dsimp only
          rw [h.value_eq hcode (hkeys key hstatus)]

/-- Whether the reading means anything. -/
theorem SeenAlike.isMeaningful_eq (h : SeenAlike thingCode keys u v)
    (hcode : entity.thingCode = thingCode) (hstate : machineState u thingCode =
      machineState v thingCode) (hkeys : ∀ key ∈ statusKeys entity.gates.keys, key ∈ keys) :
    entity.isMeaningful u = entity.isMeaningful v := by
  rw [HolabrainEntity.isMeaningful, HolabrainEntity.isMeaningful]
  cases hgate : entity.gates.meaningfulWhen with
  | none => rfl
  | some condition =>
      have hcondition : ∀ key ∈ statusKeys condition.keys, key ∈ keys := by
        intro key hkey
        apply hkeys
        rw [statusKeys, List.mem_filter] at hkey ⊢
        refine ⟨?_, hkey.2⟩
        rw [Gates.keys, hgate]
        simp [hkey.1]
      simp only [holdsOr, h.holds_eq hcode hstate hcondition]

/-- Which block refuses a write, if any does. -/
theorem SeenAlike.refusal_eq (h : SeenAlike thingCode keys u v)
    (hcode : entity.thingCode = thingCode) (hstate : machineState u thingCode =
      machineState v thingCode)
    (hguard : ∀ device, u.devices.get? thingCode = some device →
      ∀ block ∈ entity.blocks device, ∀ key ∈ statusKeys block.when.keys, key ∈ keys) :
    entity.refusal u = entity.refusal v := by
  rw [HolabrainEntity.refusal, HolabrainEntity.refusal, hcode, ← h.devices]
  cases hdevice : u.devices.get? thingCode with
  | none => rfl
  | some device =>
      have hfound : (entity.blocks device).find? (entity.refuses u) =
          (entity.blocks device).find? (entity.refuses v) := by
        apply List.find?_congr
        intro block hblock
        rw [HolabrainEntity.refuses, HolabrainEntity.refuses, holdsOr, holdsOr,
          h.holds_eq hcode hstate (hguard device hdevice block hblock)]
      dsimp only
      rw [hfound]

end Gates

/-! ## Table-driven entities -/

/-- The status keys a sensor reads. -/
def SensorSpec.reads (spec : SensorSpec) : List String :=
  statusKeys spec.gates.keys ++ match spec.transform with
    | some "remain_minutes" => ["remainTimeL", "remainTimeH"]
    | some "oven_status" => [spec.key, "preheatState"]
    | _ => [spec.key]

/-- The status keys a binary sensor reads. -/
def BinarySensorSpec.reads (spec : BinarySensorSpec) : List String :=
  statusKeys spec.gates.keys ++ spec.key :: spec.summaryKey.toList

/-- The status keys a switch reads. -/
def SwitchSpec.reads (spec : SwitchSpec) : List String := statusKeys spec.gates.keys ++ [spec.key]

/-- What a sensor shows of a snapshot. -/
theorem AgreeOn.shown_eq {keys : Finset String} {s t : DeviceState} (h : AgreeOn keys s t)
    {spec : SensorSpec} (hreads : ∀ key ∈ spec.reads, key ∈ keys) :
    spec.shown s = spec.shown t := by
  have hget : ∀ key ∈ spec.reads, s.get key = t.get key := fun key hkey =>
    h.get key (hreads key hkey)
  rw [SensorSpec.reads] at hget
  rw [SensorSpec.shown, SensorSpec.shown]
  split at hget
  next htransform =>
    rw [htransform, SensorSpec.transforms_remainMinutes]
    dsimp only
    rw [SensorSpec.remainMinutes, SensorSpec.remainMinutes, hget "remainTimeL" (by simp),
      hget "remainTimeH" (by simp)]
  next htransform =>
    rw [htransform, SensorSpec.transforms_ovenStatus]
    dsimp only
    rw [SensorSpec.ovenStatus, SensorSpec.ovenStatus, h.online, hget spec.key (by simp),
      hget "preheatState" (by simp)]
  next hremain hoven =>
    have hkey := hget spec.key (by simp)
    cases htransform : SensorSpec.transforms spec.transform with
    | none =>
        dsimp only
        rw [hkey]
    | some transform =>
        unfold SensorSpec.transforms at htransform
        split at htransform
        next heq => exact (hremain heq).elim
        next =>
          cases htransform
          dsimp only
          rw [SensorSpec.secondsMinutes, SensorSpec.secondsMinutes, hkey]
        next heq => exact (hoven heq).elim
        next => cases htransform

section TableDriven

variable {thingCode : String} {keys : Finset String} {u v : World}

theorem SeenAlike.sensor_eq (h : SeenAlike thingCode keys u v) (hstate : machineState u thingCode =
    machineState v thingCode) {spec : SensorSpec} (hreads : ∀ key ∈ spec.reads, key ∈ keys) :
    spec.nativeValue thingCode u = spec.nativeValue thingCode v := by
  have hmeaning : (spec.entity thingCode).isMeaningful u = (spec.entity thingCode).isMeaningful v :=
    h.isMeaningful_eq rfl hstate fun key hkey => hreads key (List.mem_append_left _ hkey)
  obtain ⟨s, t, hs, ht, hagree⟩ := h.snapshot
  rw [SensorSpec.nativeValue, SensorSpec.nativeValue, hmeaning, hs, ht]
  dsimp only
  rw [hagree.shown_eq hreads]

theorem SeenAlike.binarySensor_eq (h : SeenAlike thingCode keys u v)
    (hstate : machineState u thingCode = machineState v thingCode) {spec : BinarySensorSpec}
    (hreads : ∀ key ∈ spec.reads, key ∈ keys) :
    spec.isOn thingCode u = spec.isOn thingCode v := by
  have hmeaning : (spec.entity thingCode).isMeaningful u = (spec.entity thingCode).isMeaningful v :=
    h.isMeaningful_eq rfl hstate fun key hkey => hreads key (List.mem_append_left _ hkey)
  have hkey : spec.key ∈ keys := hreads spec.key (by simp [BinarySensorSpec.reads])
  have hown : (spec.entity thingCode).value u "" = (spec.entity thingCode).value v "" :=
    h.ownValue_eq rfl hkey
  have hsummary : spec.fromSummary thingCode u = spec.fromSummary thingCode v := by
    rw [BinarySensorSpec.fromSummary, BinarySensorSpec.fromSummary]
    split
    next key bit hsummaryKey _ =>
      have hmem : key ∈ keys := hreads key (by simp [BinarySensorSpec.reads, hsummaryKey])
      rw [h.value_eq rfl hmem]
    next => rfl
  rw [BinarySensorSpec.isOn, BinarySensorSpec.isOn, hmeaning, hown, hsummary]

theorem SeenAlike.switch_eq (h : SeenAlike thingCode keys u v) (hstate : machineState u thingCode =
    machineState v thingCode) {spec : SwitchSpec} (hreads : ∀ key ∈ spec.reads, key ∈ keys) :
    spec.isOn thingCode u = spec.isOn thingCode v := by
  have hmeaning : (spec.entity thingCode).isMeaningful u = (spec.entity thingCode).isMeaningful v :=
    h.isMeaningful_eq rfl hstate fun key hkey => hreads key (List.mem_append_left _ hkey)
  have hkey : spec.key ∈ keys := hreads spec.key (by simp [SwitchSpec.reads])
  have hown : (spec.entity thingCode).value u "" = (spec.entity thingCode).value v "" :=
    h.ownValue_eq rfl hkey
  rw [SwitchSpec.isOn, SwitchSpec.isOn, hown, hmeaning]

theorem SeenAlike.number_eq (h : SeenAlike thingCode keys u v) {spec : NumberSpec}
    (hkey : spec.key ∈ keys) : spec.nativeValue thingCode u = spec.nativeValue thingCode v := by
  have hown : (spec.entity thingCode).value u "" = (spec.entity thingCode).value v "" :=
    h.ownValue_eq rfl hkey
  rw [NumberSpec.nativeValue, NumberSpec.nativeValue, hown]

theorem SeenAlike.resolveMax_eq (h : SeenAlike thingCode keys u v) (spec : NumberSpec) :
    spec.resolveMax thingCode u = spec.resolveMax thingCode v := by
  rw [NumberSpec.resolveMax, NumberSpec.resolveMax, h.capabilityFor_eq]

theorem SeenAlike.select_eq (h : SeenAlike thingCode keys u v) {spec : SelectSpec}
    (hkey : spec.key ∈ keys) (labelToCode : Dict String Json) :
    spec.currentOption thingCode labelToCode u = spec.currentOption thingCode labelToCode v := by
  have hown : (spec.entity thingCode).value u "" = (spec.entity thingCode).value v "" :=
    h.ownValue_eq rfl hkey
  rw [SelectSpec.currentOption, SelectSpec.currentOption, hown]

end TableDriven

/-! ## Native entities -/

/-- The status keys of a lamp. -/
def LightConfig.reads (cfg : LightConfig) : List String :=
  cfg.powerKey :: cfg.effectKey.getD "" :: (configured cfg.brightnessKey).toList ++
    (configured cfg.colorTempKey).toList

/-- The status keys of an air conditioner. -/
def ClimateConfig.reads (cfg : ClimateConfig) : List String :=
  cfg.powerKey :: cfg.modeKey :: cfg.targetTempKey :: cfg.fanKey ::
    (configured cfg.currentTempKey).toList

/-- The status keys of a water heater. -/
def WaterHeaterConfig.reads (cfg : WaterHeaterConfig) : List String :=
  cfg.targetTempKey :: cfg.currentTempKeys ++ cfg.operationFlags.map Prod.fst ++
    cfg.tempLockedWhen.toList.map Prod.fst

section Native

variable {thingCode : String} {keys : Finset String} {u v : World}

/-- Every property of a lamp. -/
theorem SeenAlike.light_eq (h : SeenAlike thingCode keys u v) {cfg : LightConfig}
    (hreads : ∀ key ∈ cfg.reads, key ∈ keys) :
    ∀ property ∈ (ModelledEntity.light cfg).properties thingCode,
      property.read u = property.read v := by
  have hvalue : ∀ key ∈ cfg.reads,
      (cfg.entity thingCode).value u key = (cfg.entity thingCode).value v key :=
    fun key hkey => h.value_eq rfl (hreads key hkey)
  have hpower := hvalue cfg.powerKey (by simp [LightConfig.reads])
  have heffect := hvalue (cfg.effectKey.getD "") (by simp [LightConfig.reads])
  simp only [ModelledEntity.properties, List.forall_mem_cons, List.not_mem_nil, false_implies,
    implies_true, and_true]
  refine ⟨h.available_eq rfl, ?_, ?_, ?_, ?_⟩
  · rw [LightConfig.isOn, LightConfig.isOn, hpower]
  · rw [LightConfig.brightness, LightConfig.brightness]
    split
    next => rfl
    next key hkey => rw [hvalue key (by simp [LightConfig.reads, hkey])]
  · rw [LightConfig.colorTempKelvin, LightConfig.colorTempKelvin]
    split
    next => rfl
    next key hkey => rw [hvalue key (by simp [LightConfig.reads, hkey])]
  · rw [LightConfig.effect, LightConfig.effect, heffect]

/-- Every property of an air conditioner. -/
theorem SeenAlike.climate_eq (h : SeenAlike thingCode keys u v) {cfg : ClimateConfig}
    (hreads : ∀ key ∈ cfg.reads, key ∈ keys) :
    ∀ property ∈ (ModelledEntity.climate cfg).properties thingCode,
      property.read u = property.read v := by
  have hvalue : ∀ key ∈ cfg.reads,
      (cfg.entity thingCode).value u key = (cfg.entity thingCode).value v key :=
    fun key hkey => h.value_eq rfl (hreads key hkey)
  have hpower := hvalue cfg.powerKey (by simp [ClimateConfig.reads])
  have hmode := hvalue cfg.modeKey (by simp [ClimateConfig.reads])
  have htarget := hvalue cfg.targetTempKey (by simp [ClimateConfig.reads])
  have hfan := hvalue cfg.fanKey (by simp [ClimateConfig.reads])
  simp only [ModelledEntity.properties, List.forall_mem_cons, List.not_mem_nil, false_implies,
    implies_true, and_true]
  refine ⟨h.available_eq rfl, ?_, ?_, ?_, ?_⟩
  · rw [ClimateConfig.hvacMode, ClimateConfig.hvacMode, hpower, hmode]
  · rw [ClimateConfig.currentTemperature, ClimateConfig.currentTemperature]
    split
    next => rfl
    next key hkey => rw [hvalue key (by simp [ClimateConfig.reads, hkey])]
  · rw [ClimateConfig.targetTemperature, ClimateConfig.targetTemperature, htarget]
  · rw [ClimateConfig.fanMode, ClimateConfig.fanMode, hfan]

/-- Every property of a water heater, and the lock on its temperature. -/
theorem SeenAlike.waterHeater_eq (h : SeenAlike thingCode keys u v) {cfg : WaterHeaterConfig}
    (hreads : ∀ key ∈ cfg.reads, key ∈ keys) :
    (∀ property ∈ (ModelledEntity.waterHeater cfg).properties thingCode,
      property.read u = property.read v) ∧
    cfg.tempLocked thingCode u = cfg.tempLocked thingCode v := by
  have hvalue : ∀ key ∈ cfg.reads,
      (cfg.entity thingCode).value u key = (cfg.entity thingCode).value v key :=
    fun key hkey => h.value_eq rfl (hreads key hkey)
  have htarget := hvalue cfg.targetTempKey (by simp [WaterHeaterConfig.reads])
  have hcurrent : cfg.currentTempKeys.map ((cfg.entity thingCode).value u) =
      cfg.currentTempKeys.map ((cfg.entity thingCode).value v) := by
    apply List.map_congr_left
    intro key hkey
    exact hvalue key (by simp [WaterHeaterConfig.reads, hkey])
  have hflag : ∀ flag ∈ cfg.operationFlags,
      (cfg.entity thingCode).value u flag.1 = (cfg.entity thingCode).value v flag.1 := by
    intro flag hflag
    apply hvalue
    simp only [WaterHeaterConfig.reads, List.cons_append, List.mem_cons, List.mem_append]
    exact .inr (.inl (.inr (List.mem_map_of_mem hflag)))
  constructor
  · simp only [ModelledEntity.properties, List.forall_mem_cons, List.not_mem_nil, false_implies,
      implies_true, and_true]
    refine ⟨h.available_eq rfl, ?_, ?_, ?_⟩
    · rw [WaterHeaterConfig.currentTemperature, WaterHeaterConfig.currentTemperature, hcurrent]
    · rw [WaterHeaterConfig.targetTemperature, WaterHeaterConfig.targetTemperature, htarget]
    · have hreported : cfg.operationFlags.filter (fun flag =>
          decide ((cfg.entity thingCode).value u flag.1 ≠ .null)) =
          cfg.operationFlags.filter fun flag =>
            decide ((cfg.entity thingCode).value v flag.1 ≠ .null) := by
        apply List.filter_congr
        intro flag hmem
        rw [hflag flag hmem]
      have hfound : (cfg.operationFlags.filter fun flag =>
          decide ((cfg.entity thingCode).value v flag.1 ≠ .null)).find? (fun flag =>
            decide (((cfg.entity thingCode).value u flag.1).pyStr = flag.2.1)) =
          (cfg.operationFlags.filter fun flag =>
            decide ((cfg.entity thingCode).value v flag.1 ≠ .null)).find? fun flag =>
              decide (((cfg.entity thingCode).value v flag.1).pyStr = flag.2.1) := by
        apply List.find?_congr
        intro flag hmem
        rw [hflag flag (List.mem_of_mem_filter hmem)]
      rw [WaterHeaterConfig.currentOperation, WaterHeaterConfig.currentOperation, hreported, hfound]
  · rw [WaterHeaterConfig.tempLocked, WaterHeaterConfig.tempLocked]
    split
    next => rfl
    next key lockedValue hlocked => rw [hvalue key (by simp [WaterHeaterConfig.reads, hlocked])]

end Native

/-! ## The oven -/

/-- The status keys of the oven's composer. -/
def OvenConfig.reads (cfg : OvenConfig) : List String :=
  [cfg.modeKey, cfg.tempKey, cfg.timeKey, cfg.probeKey, cfg.preheatKey]

section Oven

variable {thingCode : String} {keys : Finset String} {u v : World} {oven : HolabrainEntity}
  {cfg : OvenConfig} (h : SeenAlike thingCode keys u v) (hcode : oven.thingCode = thingCode)
  (hreads : ∀ key ∈ cfg.reads, key ∈ keys)

include h hcode hreads

theorem SeenAlike.label_eq : cfg.label oven u = cfg.label oven v := by
  rw [OvenConfig.label, OvenConfig.label,
    h.stagedValue_eq hcode (hreads cfg.modeKey (by simp [OvenConfig.reads]))]

theorem SeenAlike.program_eq : cfg.program oven u = cfg.program oven v := by
  rw [OvenConfig.program, OvenConfig.program, h.label_eq hcode hreads]

theorem SeenAlike.modeAllows_eq (param : String) (fallback : Bool) :
    cfg.modeAllows oven u param fallback = cfg.modeAllows oven v param fallback := by
  rw [OvenConfig.modeAllows, OvenConfig.modeAllows, h.label_eq hcode hreads, h.capabilityFor_eq]

theorem SeenAlike.tempAllowed_eq : cfg.tempAllowed oven u = cfg.tempAllowed oven v := by
  rw [OvenConfig.tempAllowed, OvenConfig.tempAllowed, h.program_eq hcode hreads]
  simp only [h.modeAllows_eq hcode hreads]

theorem SeenAlike.preheatAllowed_eq : cfg.preheatAllowed oven u = cfg.preheatAllowed oven v := by
  rw [OvenConfig.preheatAllowed, OvenConfig.preheatAllowed, h.program_eq hcode hreads]
  simp only [h.modeAllows_eq hcode hreads]

theorem SeenAlike.stagedInt_eq {key : String} (hkey : key ∈ cfg.reads) :
    OvenConfig.stagedInt oven u key = OvenConfig.stagedInt oven v key := by
  rw [OvenConfig.stagedInt, OvenConfig.stagedInt, h.stagedValue_eq hcode (hreads key hkey)]

theorem SeenAlike.minutes_eq : cfg.minutes oven u = cfg.minutes oven v := by
  rw [OvenConfig.minutes, OvenConfig.minutes, h.draft_eq,
    h.value_eq hcode (hreads cfg.timeKey (by simp [OvenConfig.reads]))]

theorem SeenAlike.preheat_eq : oven.stagedValue u cfg.preheatKey =
    oven.stagedValue v cfg.preheatKey :=
  h.stagedValue_eq hcode (hreads cfg.preheatKey (by simp [OvenConfig.reads]))

theorem SeenAlike.cookInstruction_eq (program : OvenProgram) :
    cfg.cookInstruction oven u program = cfg.cookInstruction oven v program := by
  have htemp : cfg.tempKey ∈ cfg.reads := by simp [OvenConfig.reads]
  have hprobe : cfg.probeKey ∈ cfg.reads := by simp [OvenConfig.reads]
  rw [OvenConfig.cookInstruction, OvenConfig.cookInstruction, OvenConfig.preheatOn,
    OvenConfig.preheatOn, h.preheat_eq hcode hreads, h.tempAllowed_eq hcode hreads,
    h.preheatAllowed_eq hcode hreads, h.minutes_eq hcode hreads,
    h.stagedInt_eq hcode hreads htemp, h.stagedInt_eq hcode hreads hprobe]

end Oven

section OvenEntities

variable {thingCode : String} {keys : Finset String} {u v : World} {cfg : OvenConfig}
  (h : SeenAlike thingCode keys u v) (hreads : ∀ key ∈ cfg.reads, key ∈ keys)

include h hreads

/-- What the start of an oven submits. -/
theorem SeenAlike.ovenCompose_eq : cfg.compose thingCode u = cfg.compose thingCode v := by
  have hcode : (cfg.entity thingCode cfg.modeKey).thingCode = thingCode := rfl
  rw [OvenConfig.compose, OvenConfig.compose, h.program_eq hcode hreads]
  simp only [h.cookInstruction_eq hcode hreads]

theorem SeenAlike.ovenTemperature_eq :
    ∀ property ∈ (ModelledEntity.ovenTemperature cfg).properties thingCode,
      property.read u = property.read v := by
  simp only [ModelledEntity.properties, List.forall_mem_cons, List.not_mem_nil, false_implies,
    implies_true, and_true]
  refine ⟨?_, ?_, ?_, ?_⟩
  · rw [h.available_eq rfl, h.tempAllowed_eq rfl hreads]
  · rw [OvenConfig.temperatureRange, OvenConfig.temperatureRange, h.program_eq rfl hreads]
  · rw [OvenConfig.temperatureStep, OvenConfig.temperatureStep, h.program_eq rfl hreads]
  · rw [OvenConfig.temperatureValue, OvenConfig.temperatureValue, h.program_eq rfl hreads,
      h.stagedInt_eq rfl hreads (by simp [OvenConfig.reads])]

theorem SeenAlike.ovenDuration_eq :
    ∀ property ∈ (ModelledEntity.ovenDuration cfg).properties thingCode,
      property.read u = property.read v := by
  simp only [ModelledEntity.properties, List.forall_mem_cons, List.not_mem_nil, false_implies,
    implies_true, and_true]
  refine ⟨h.available_eq rfl, ?_, h.minutes_eq rfl hreads⟩
  rw [OvenConfig.maxMinutes, OvenConfig.maxMinutes, h.program_eq rfl hreads]

theorem SeenAlike.ovenProbe_eq :
    ∀ property ∈ (ModelledEntity.ovenProbe cfg).properties thingCode,
      property.read u = property.read v := by
  simp only [ModelledEntity.properties, List.forall_mem_cons, List.not_mem_nil, false_implies,
    implies_true, and_true]
  refine ⟨?_, ?_⟩
  · rw [h.available_eq rfl, h.tempAllowed_eq rfl hreads]
  · rw [OvenConfig.probeValue, OvenConfig.probeValue,
      h.stagedInt_eq rfl hreads (by simp [OvenConfig.reads])]

theorem SeenAlike.ovenPreheat_eq :
    ∀ property ∈ (ModelledEntity.ovenPreheat cfg).properties thingCode,
      property.read u = property.read v := by
  simp only [ModelledEntity.properties, List.forall_mem_cons, List.not_mem_nil, false_implies,
    implies_true, and_true]
  refine ⟨?_, ?_⟩
  · rw [h.available_eq rfl, h.preheatAllowed_eq rfl hreads]
  · rw [OvenConfig.preheatIsOn, OvenConfig.preheatIsOn, h.preheat_eq rfl hreads]

end OvenEntities

/-! ## The dishwasher -/

/-- The status keys of the dishwasher's composer. -/
def DishwasherConfig.reads (cfg : DishwasherConfig) : List String :=
  [cfg.modeKey, cfg.extraKey, cfg.zoneKey, DishwasherConfig.doorKey]

section Dishwasher

variable {thingCode : String} {keys : Finset String} {u v : World} {dishwasher : HolabrainEntity}
  {cfg : DishwasherConfig} (h : SeenAlike thingCode keys u v)

include h

theorem SeenAlike.stagedOrReported_eq (hcode : dishwasher.thingCode = thingCode) {key : String}
    (hkey : key ∈ keys) : DishwasherConfig.stagedOrReported dishwasher u key =
      DishwasherConfig.stagedOrReported dishwasher v key := by
  rw [DishwasherConfig.stagedOrReported, DishwasherConfig.stagedOrReported,
    h.stagedValue_eq hcode hkey]

theorem SeenAlike.modelPrograms_eq : cfg.modelPrograms thingCode u =
    cfg.modelPrograms thingCode v := by
  rw [DishwasherConfig.modelPrograms, DishwasherConfig.modelPrograms, h.capabilityFor_eq]

theorem SeenAlike.choices_eq : cfg.choices thingCode u = cfg.choices thingCode v := by
  rw [DishwasherConfig.choices, DishwasherConfig.choices, DishwasherConfig.availableExtras,
    DishwasherConfig.availableExtras]
  simp only [supports, h.capabilityFor_eq]

theorem SeenAlike.zoneCode_eq (hcode : dishwasher.thingCode = thingCode)
    (hreads : ∀ key ∈ cfg.reads, key ∈ keys) :
    cfg.zoneCode dishwasher u = cfg.zoneCode dishwasher v := by
  rw [DishwasherConfig.zoneCode, DishwasherConfig.zoneCode, h.capabilityFor_eq,
    h.stagedOrReported_eq hcode (hreads cfg.zoneKey (by simp [DishwasherConfig.reads]))]

/-- What the start of a dishwasher submits. -/
theorem SeenAlike.dishwasherCompose_eq (hreads : ∀ key ∈ cfg.reads, key ∈ keys) :
    cfg.compose thingCode u = cfg.compose thingCode v := by
  rw [DishwasherConfig.compose, DishwasherConfig.compose, h.zoneCode_eq rfl hreads,
    h.stagedOrReported_eq rfl (hreads cfg.modeKey (by simp [DishwasherConfig.reads])),
    h.stagedOrReported_eq rfl (hreads cfg.extraKey (by simp [DishwasherConfig.reads])),
    h.value_eq rfl (hreads DishwasherConfig.doorKey (by simp [DishwasherConfig.reads]))]

theorem SeenAlike.dishwasherProgram_eq (hreads : ∀ key ∈ cfg.reads, key ∈ keys) :
    ∀ property ∈ (ModelledEntity.dishwasherProgram cfg).properties thingCode,
      property.read u = property.read v := by
  simp only [ModelledEntity.properties, List.forall_mem_cons, List.not_mem_nil, false_implies,
    implies_true, and_true]
  refine ⟨h.available_eq rfl, h.modelPrograms_eq, ?_⟩
  rw [DishwasherConfig.currentProgram, DishwasherConfig.currentProgram,
    h.stagedOrReported_eq rfl (hreads cfg.modeKey (by simp [DishwasherConfig.reads]))]
  simp only [ModelledEntity.thingCode_base, h.modelPrograms_eq]

theorem SeenAlike.dishwasherExtra_eq (hreads : ∀ key ∈ cfg.reads, key ∈ keys) :
    ∀ property ∈ (ModelledEntity.dishwasherExtra cfg).properties thingCode,
      property.read u = property.read v := by
  simp only [ModelledEntity.properties, List.forall_mem_cons, List.not_mem_nil, false_implies,
    implies_true, and_true]
  refine ⟨h.available_eq rfl, h.choices_eq, ?_⟩
  rw [DishwasherConfig.currentExtra, DishwasherConfig.currentExtra,
    h.stagedOrReported_eq rfl (hreads cfg.extraKey (by simp [DishwasherConfig.reads]))]
  simp only [ModelledEntity.thingCode_base, h.choices_eq]

theorem SeenAlike.dishwasherZone_eq (hreads : ∀ key ∈ cfg.reads, key ∈ keys) :
    ∀ property ∈ (ModelledEntity.dishwasherZone cfg).properties thingCode,
      property.read u = property.read v := by
  simp only [ModelledEntity.properties, List.forall_mem_cons, List.not_mem_nil, false_implies,
    implies_true, and_true]
  refine ⟨h.available_eq rfl, ?_⟩
  rw [DishwasherConfig.currentZone, DishwasherConfig.currentZone,
    h.stagedOrReported_eq rfl (hreads cfg.zoneKey (by simp [DishwasherConfig.reads]))]

end Dishwasher

end Holabrain
