import Holabrain.Entity.Native
import Holabrain.Entity.WriteGuard

/-!
# Everything that is modelled

The entities and controls of all platforms in one type each, with the descriptor or the
configuration of a category that they belong to.
-/

namespace Holabrain

open Coordinator

/-- The published data with another snapshot of one appliance. -/
def World.withSnapshot (w : World) (thingCode : String) (state : DeviceState) : World :=
  w.setData (w.states.setItem thingCode state)

theorem World.get?_states_withSnapshot (w : World) (thingCode : String) (state : DeviceState) :
    (w.withSnapshot thingCode state).states.get? thingCode = some state :=
  Dict.get?_setItem_self _ _ _

/-! ## Entities -/

/-- A property that Home Assistant reads off an entity. -/
structure Property where
  Value : Type
  read : World → Value

inductive ModelledEntity
  | sensor (spec : SensorSpec)
  | binarySensor (spec : BinarySensorSpec)
  | switch (spec : SwitchSpec)
  | number (spec : NumberSpec)
  | select (spec : SelectSpec) (labelToCode : Dict String Json)
  | button (spec : ButtonSpec)
  | light (cfg : LightConfig)
  | climate (cfg : ClimateConfig)
  | waterHeater (cfg : WaterHeaterConfig)
  | ovenMode (cfg : OvenConfig)
  | ovenTemperature (cfg : OvenConfig)
  | ovenDuration (cfg : OvenConfig)
  | ovenProbe (cfg : OvenConfig)
  | ovenPreheat (cfg : OvenConfig)
  | ovenStart (cfg : OvenConfig)
  | dishwasherProgram (cfg : DishwasherConfig)
  | dishwasherExtra (cfg : DishwasherConfig)
  | dishwasherZone (cfg : DishwasherConfig)
  | dishwasherStart (cfg : DishwasherConfig)

namespace ModelledEntity

/-- It belongs to a descriptor or a configuration of the category. -/
def Of (category : CategorySpec) : ModelledEntity → Prop
  | sensor spec => spec ∈ category.sensors
  | binarySensor spec => spec ∈ category.binarySensors
  | switch spec => spec ∈ category.switches
  | number spec => spec ∈ category.numbers
  | select spec _ => spec ∈ category.selects
  | button spec => spec ∈ category.buttons
  | light cfg => category.light = some cfg
  | climate cfg => category.climate = some cfg
  | waterHeater cfg => category.waterHeater = some cfg
  | ovenMode cfg | ovenTemperature cfg | ovenDuration cfg | ovenProbe cfg | ovenPreheat cfg
  | ovenStart cfg => category.oven = some cfg
  | dishwasherProgram cfg | dishwasherExtra cfg | dishwasherZone cfg
  | dishwasherStart cfg => category.dishwasher = some cfg

/-- What it has of the base class. -/
def base (thingCode : String) : ModelledEntity → HolabrainEntity
  | sensor spec => spec.entity thingCode
  | binarySensor spec => spec.entity thingCode
  | switch spec => spec.entity thingCode
  | number spec => spec.entity thingCode
  | select spec _ => spec.entity thingCode
  | button spec => spec.entity thingCode
  | light cfg => cfg.entity thingCode
  | climate cfg => cfg.entity thingCode
  | waterHeater cfg => cfg.entity thingCode
  | ovenMode cfg => cfg.entity thingCode cfg.modeKey
  | ovenTemperature cfg => cfg.entity thingCode cfg.tempKey
  | ovenDuration cfg => cfg.entity thingCode cfg.timeKey
  | ovenProbe cfg => cfg.entity thingCode cfg.probeKey
  | ovenPreheat cfg => cfg.entity thingCode cfg.preheatKey
  | ovenStart cfg => cfg.entity thingCode cfg.modeKey
  | dishwasherProgram cfg => cfg.entity thingCode cfg.modeKey
  | dishwasherExtra cfg => cfg.entity thingCode cfg.extraKey
  | dishwasherZone cfg => cfg.entity thingCode cfg.zoneKey
  | dishwasherStart cfg => cfg.entity thingCode cfg.modeKey

theorem thingCode_base (thingCode : String) (entity : ModelledEntity) :
    (entity.base thingCode).thingCode = thingCode := by
  cases entity <;> rfl

/-- Its properties that depend on the world. -/
def properties (thingCode : String) (entity : ModelledEntity) : List Property :=
  let base := entity.base thingCode
  let availableIf (extra : World → Bool) : Property := ⟨Bool, fun w => base.available w && extra w⟩
  match entity with
  | sensor spec => [⟨_, base.available⟩, ⟨_, spec.nativeValue thingCode⟩]
  | binarySensor spec => [⟨_, base.available⟩, ⟨_, spec.isOn thingCode⟩]
  | switch spec => [⟨_, base.available⟩, ⟨_, spec.isOn thingCode⟩]
  | number spec => [⟨_, base.available⟩, ⟨_, spec.nativeValue thingCode⟩,
      ⟨_, spec.resolveMax thingCode⟩]
  | select spec labelToCode => [⟨_, base.available⟩, ⟨_, spec.currentOption thingCode labelToCode⟩]
  | button _ => [⟨_, base.available⟩]
  | light cfg => [⟨_, base.available⟩, ⟨_, cfg.isOn thingCode⟩, ⟨_, cfg.brightness thingCode⟩,
      ⟨_, cfg.colorTempKelvin thingCode⟩, ⟨_, cfg.effect thingCode⟩]
  | climate cfg => [⟨_, base.available⟩, ⟨_, cfg.hvacMode thingCode⟩,
      ⟨_, cfg.currentTemperature thingCode⟩, ⟨_, cfg.targetTemperature thingCode⟩,
      ⟨_, cfg.fanMode thingCode⟩]
  | waterHeater cfg => [⟨_, base.available⟩, ⟨_, cfg.currentTemperature thingCode⟩,
      ⟨_, cfg.targetTemperature thingCode⟩, ⟨_, cfg.currentOperation thingCode⟩]
  | ovenMode cfg => [⟨_, base.available⟩, ⟨_, cfg.label base⟩]
  | ovenTemperature cfg => [availableIf (cfg.tempAllowed base), ⟨_, cfg.temperatureRange base⟩,
      ⟨_, cfg.temperatureStep base⟩, ⟨_, cfg.temperatureValue base⟩]
  | ovenDuration cfg => [⟨_, base.available⟩, ⟨_, cfg.maxMinutes base⟩, ⟨_, cfg.minutes base⟩]
  | ovenProbe cfg => [availableIf (cfg.tempAllowed base), ⟨_, cfg.probeValue base⟩]
  | ovenPreheat cfg => [availableIf (cfg.preheatAllowed base), ⟨_, cfg.preheatIsOn base⟩]
  | ovenStart _ => [⟨_, base.available⟩]
  | dishwasherProgram cfg => [⟨_, base.available⟩, ⟨_, cfg.modelPrograms thingCode⟩,
      ⟨_, cfg.currentProgram base⟩]
  | dishwasherExtra cfg => [⟨_, base.available⟩, ⟨_, cfg.choices thingCode⟩,
      ⟨_, cfg.currentExtra base⟩]
  | dishwasherZone cfg => [⟨_, base.available⟩, ⟨_, cfg.currentZone base⟩]
  | dishwasherStart _ => [⟨_, base.available⟩]

end ModelledEntity

/-! ## Controls -/

/-- A use of any control: one that a descriptor or a composer declares, one of a native
entity, or one that only stages its value. -/
inductive ModelledControl
  | declared (control : Control)
  | lightOn (cfg : LightConfig) (request : LightRequest)
  | lightOff (cfg : LightConfig)
  | climateMode (cfg : ClimateConfig) (hvacMode : String)
  | climateTemperature (cfg : ClimateConfig) (temperature : Option Double)
  | climateFan (cfg : ClimateConfig) (fanMode : String)
  | climateOn (cfg : ClimateConfig)
  | climateOff (cfg : ClimateConfig)
  | heaterTemperature (cfg : WaterHeaterConfig) (temperature : Option Double)
  | heaterOperation (cfg : WaterHeaterConfig) (operationMode : String)
  | heaterOn (cfg : WaterHeaterConfig)
  | heaterOff (cfg : WaterHeaterConfig)
  | stageMode (cfg : OvenConfig) (option : String)
  | stageTemperature (cfg : OvenConfig) (value : Double)
  | stageDuration (cfg : OvenConfig) (value : Double)
  | stageProbe (cfg : OvenConfig) (value : Double)
  | stagePreheat (cfg : OvenConfig) (on : Bool)
  | stageProgram (cfg : DishwasherConfig) (option : String)
  | stageExtra (cfg : DishwasherConfig) (option : String)
  | stageZone (cfg : DishwasherConfig) (option : String)

/-- Stage a value, unless there is none to stage. -/
def stageWith (values : World → Except Exn World) : CoordM Unit := do
  let w ← Coro.gets id
  let staged ← Coro.ofExcept (values w)
  Coro.modify fun _ => staged

namespace ModelledControl

/-- The category declares it. -/
def Of (category : CategorySpec) : ModelledControl → Prop
  | declared (.turnOn spec) | declared (.turnOff spec) => spec ∈ category.switches
  | declared (.setNumber spec _) => spec ∈ category.numbers
  | declared (.selectOption spec _ _) => spec ∈ category.selects
  | declared (.press spec) => spec ∈ category.buttons
  | declared (.ovenStart cfg) => category.oven = some cfg
  | declared (.dishwasherStart cfg) => category.dishwasher = some cfg
  | lightOn cfg _ | lightOff cfg => category.light = some cfg
  | climateMode cfg _ | climateTemperature cfg _ | climateFan cfg _ | climateOn cfg
  | climateOff cfg => category.climate = some cfg
  | heaterTemperature cfg _ | heaterOperation cfg _ | heaterOn cfg
  | heaterOff cfg => category.waterHeater = some cfg
  | stageMode cfg _ | stageTemperature cfg _ | stageDuration cfg _ | stageProbe cfg _
  | stagePreheat cfg _ => category.oven = some cfg
  | stageProgram cfg _ | stageExtra cfg _ | stageZone cfg _ => category.dishwasher = some cfg

/-- What using it runs. -/
def use (thingCode : String) : ModelledControl → CoordM Unit
  | declared control => control.use thingCode
  | lightOn cfg request => cfg.asyncTurnOn thingCode request
  | lightOff cfg => cfg.asyncTurnOff thingCode
  | climateMode cfg hvacMode => cfg.asyncSetHvacMode thingCode hvacMode
  | climateTemperature cfg temperature => cfg.asyncSetTemperature thingCode temperature
  | climateFan cfg fanMode => cfg.asyncSetFanMode thingCode fanMode
  | climateOn cfg => cfg.asyncTurnOn thingCode
  | climateOff cfg => cfg.asyncTurnOff thingCode
  | heaterTemperature cfg temperature => cfg.asyncSetTemperature thingCode temperature
  | heaterOperation cfg operationMode => cfg.asyncSetOperationMode thingCode operationMode
  | heaterOn cfg => cfg.asyncTurnOn thingCode
  | heaterOff cfg => cfg.asyncTurnOff thingCode
  | stageMode cfg option => stageWith fun w => .ok (cfg.selectMode thingCode option w)
  | stageTemperature cfg value => stageWith (OvenConfig.setNumber thingCode cfg.tempKey value)
  | stageDuration cfg value => stageWith (OvenConfig.setNumber thingCode cfg.timeKey value)
  | stageProbe cfg value => stageWith (OvenConfig.setNumber thingCode cfg.probeKey value)
  | stagePreheat cfg on => stageWith fun w => .ok (cfg.setPreheat thingCode on w)
  | stageProgram cfg option => stageWith fun w => .ok (cfg.selectProgram thingCode option w)
  | stageExtra cfg option => stageWith fun w => .ok (cfg.selectExtra thingCode option w)
  | stageZone cfg option => stageWith fun w => .ok (cfg.selectZone thingCode option w)

end ModelledControl

end Holabrain
