import Holabrain.Entity.Readings

/-!
# The native platforms

Lamps, air conditioners and water heaters have a platform of their own in Home Assistant.
Each is one entity that binds the status keys of its configuration.
-/

namespace Holabrain

open Coordinator

/-- A configured key, `None` and the empty one left out. -/
def configured (key : Option String) : Option String := key.filter (· ≠ "")

/-! ## Lamps -/

/-- What `async_turn_on` of a light is asked for. -/
structure LightRequest where
  brightness : Option ℤ := none
  colorTempKelvin : Option ℤ := none
  effect : Option String := none

namespace LightConfig

/-- `_DEVICE_SCALE`. -/
def deviceScale : ℤ := 255

/-- `HolabrainLight`. -/
def entity (_ : LightConfig) (thingCode : String) : HolabrainEntity where
  thingCode := thingCode
  key := "light"

def span (cfg : LightConfig) : ℤ := cfg.coolKelvin - cfg.warmKelvin

section Properties

variable (cfg : LightConfig) (thingCode : String) (w : World)

/-- `is_on`. -/
def isOn : Option Bool :=
  match (cfg.entity thingCode).value w cfg.powerKey with
  | .null => none
  | raw => some (decide (raw.pyStr = cfg.powerOn))

/-- `brightness`. -/
def brightness : Except Exn (Option ℤ) :=
  match configured cfg.brightnessKey with
  | none => .ok none
  | some key => pyIntOrNone ((cfg.entity thingCode).value w key)

/-- `color_temp_kelvin`: the device scale laid over the span of the lamp. -/
def colorTempKelvin : Except Exn (Option ℤ) := do
  match configured cfg.colorTempKey with
  | none => return none
  | some key =>
      let device ← pyIntOrNone ((cfg.entity thingCode).value w key)
      match device with
      | none => return none
      | some device =>
          let share ← pyDivide device deviceScale
          let kelvin ← ((Double.ofRat (share * cfg.span)).map fun q => cfg.warmKelvin + q).round
          return some kelvin

/-- `effect`. -/
def effect : Option String :=
  if cfg.effects.isEmpty then none
  else (textOf ((cfg.entity thingCode).value w (cfg.effectKey.getD ""))).bind
    (codeToLabel cfg.effects).get?

end Properties

/-- `_kelvin_to_device`. -/
def kelvinToDevice (cfg : LightConfig) (kelvin : ℤ) : Except Exn ℤ := do
  let clamped := min (max kelvin cfg.warmKelvin) cfg.coolKelvin
  let share ← pyDivide (clamped - cfg.warmKelvin) cfg.span
  (Double.ofRat (share * deviceScale)).round

/-- The instruction of `async_turn_on`; power is folded into every one. -/
def turnOnInstruction (cfg : LightConfig) (request : LightRequest) : Except Exn Members := do
  let bright : Members := match request.brightness, configured cfg.brightnessKey with
    | some level, some key => [(key, .str (toString level))]
    | _, _ => []
  let colour : Members ← match request.colorTempKelvin, configured cfg.colorTempKey with
    | some kelvin, some key =>
        (cfg.kelvinToDevice kelvin).map fun device => [(key, Json.str (toString device))]
    | _, _ => .ok []
  let scene : Members :=
    match request.effect.bind (Dict.ofList cfg.effects).get?, cfg.effectKey with
    | some code, some key => [(key, .str code)]
    | _, _ => []
  return (Dict.ofList ((cfg.powerKey, .str cfg.powerOn) :: bright ++ colour ++ scene)).items

/-- `async_turn_on`. -/
def asyncTurnOn (cfg : LightConfig) (thingCode : String) (request : LightRequest) :
    CoordM Unit := do
  let instruction ← Coro.ofExcept (cfg.turnOnInstruction request)
  (cfg.entity thingCode).asyncSend instruction

/-- `async_turn_off`. -/
def asyncTurnOff (cfg : LightConfig) (thingCode : String) : CoordM Unit :=
  (cfg.entity thingCode).asyncSend [(cfg.powerKey, .str cfg.powerOff)]

end LightConfig

/-! ## Air conditioners -/

namespace ClimateConfig

/-- `HolabrainClimate`. -/
def entity (_ : ClimateConfig) (thingCode : String) : HolabrainEntity where
  thingCode := thingCode
  key := "climate"

/-- `HVACMode.OFF`. -/
def hvacOff : String := "off"

section Properties

variable (cfg : ClimateConfig) (thingCode : String) (w : World)

/-- `hvac_mode`. -/
def hvacMode : Option String :=
  if ((cfg.entity thingCode).value w cfg.powerKey).pyStr = "0" then some hvacOff
  else (Dict.ofList cfg.hvacModeCodes).get? ((cfg.entity thingCode).value w cfg.modeKey).pyStr

/-- `current_temperature`. -/
def currentTemperature : Except Exn (Option Double) :=
  match configured cfg.currentTempKey with
  | none => .ok none
  | some key => toFloatOrNone ((cfg.entity thingCode).value w key)

/-- `target_temperature`. -/
def targetTemperature : Except Exn (Option Double) :=
  toFloatOrNone ((cfg.entity thingCode).value w cfg.targetTempKey)

/-- `fan_mode`. -/
def fanMode : Option String :=
  (textOf ((cfg.entity thingCode).value w cfg.fanKey)).bind
    (codeToLabel cfg.fanModes).get?

end Properties

/-- `async_set_hvac_mode`. -/
def asyncSetHvacMode (cfg : ClimateConfig) (thingCode hvacMode : String) : CoordM Unit :=
  if hvacMode = hvacOff then (cfg.entity thingCode).asyncSend [(cfg.powerKey, .str "0")]
  else match (codeToLabel (Dict.ofList cfg.hvacModeCodes).items).get? hvacMode with
    | none => return ()
    | some code =>
        (cfg.entity thingCode).asyncSend [(cfg.powerKey, .str "1"), (cfg.modeKey, .str code)]

/-- `async_set_temperature`. -/
def asyncSetTemperature (cfg : ClimateConfig) (thingCode : String)
    (temperature : Option Double) : CoordM Unit :=
  match temperature with
  | none => return ()
  | some temperature => do
      let n ← Coro.ofExcept temperature.toInt
      (cfg.entity thingCode).asyncSend [(cfg.targetTempKey, .str (toString n))]

/-- `async_set_fan_mode`. -/
def asyncSetFanMode (cfg : ClimateConfig) (thingCode fanMode : String) : CoordM Unit :=
  match (Dict.ofList cfg.fanModes).get? fanMode with
  | none => return ()
  | some code => (cfg.entity thingCode).asyncSend [(cfg.fanKey, .str code)]

/-- `async_turn_on`. -/
def asyncTurnOn (cfg : ClimateConfig) (thingCode : String) : CoordM Unit :=
  (cfg.entity thingCode).asyncSend [(cfg.powerKey, .str "1")]

/-- `async_turn_off`. -/
def asyncTurnOff (cfg : ClimateConfig) (thingCode : String) : CoordM Unit :=
  (cfg.entity thingCode).asyncSend [(cfg.powerKey, .str "0")]

end ClimateConfig

/-! ## Water heaters -/

namespace WaterHeaterConfig

/-- `HolabrainWaterHeater`. -/
def entity (_ : WaterHeaterConfig) (thingCode : String) : HolabrainEntity where
  thingCode := thingCode
  key := "water_heater"

section Properties

variable (cfg : WaterHeaterConfig) (thingCode : String) (w : World)

/-- `current_temperature`: the first of the keys that carries anything. -/
def currentTemperature : Except Exn (Option Double) :=
  match (cfg.currentTempKeys.map ((cfg.entity thingCode).value w)).find? fun value =>
      decide (value ≠ .null ∧ value ≠ .str "") with
  | none => .ok none
  | some value => toFloatOrNone value

/-- `target_temperature`. -/
def targetTemperature : Except Exn (Option Double) :=
  toFloatOrNone ((cfg.entity thingCode).value w cfg.targetTempKey)

/-- `current_operation`: the first flag that is reported as expected; the default only names
a combination of reported flags that no triple does. -/
def currentOperation : Option String :=
  let reported := cfg.operationFlags.filter fun flag =>
    decide ((cfg.entity thingCode).value w flag.1 ≠ .null)
  match reported.find? fun flag =>
      decide (((cfg.entity thingCode).value w flag.1).pyStr = flag.2.1) with
  | some flag => some flag.2.2
  | none => if reported.isEmpty then none else some cfg.defaultOperation

/-- The temperature is locked in the reported mode. -/
def tempLocked : Bool :=
  match cfg.tempLockedWhen with
  | none => false
  | some (key, lockedValue) =>
      decide (((cfg.entity thingCode).value w key).pyStr = lockedValue)

end Properties

/-- `async_set_temperature`. -/
def asyncSetTemperature (cfg : WaterHeaterConfig) (thingCode : String)
    (temperature : Option Double) : CoordM Unit :=
  match temperature with
  | none => return ()
  | some temperature => do
      let locked ← Coro.gets (cfg.tempLocked thingCode)
      if locked then throw (.serviceValidation "smart_mode_locked")
      else
        let n ← Coro.ofExcept temperature.toInt
        (cfg.entity thingCode).asyncSend [(cfg.targetTempKey, .str (toString n))]

/-- `async_set_operation_mode`. -/
def asyncSetOperationMode (cfg : WaterHeaterConfig) (thingCode operationMode : String) :
    CoordM Unit :=
  match (Dict.ofList cfg.operations).get? operationMode with
  | none => return ()
  | some [] => return ()
  | some command => (cfg.entity thingCode).asyncSend (Command.members command)

/-- `async_turn_on`. -/
def asyncTurnOn (cfg : WaterHeaterConfig) (thingCode : String) : CoordM Unit :=
  (cfg.entity thingCode).asyncSend [(cfg.powerKey, .str "1")]

/-- `async_turn_off`. -/
def asyncTurnOff (cfg : WaterHeaterConfig) (thingCode : String) : CoordM Unit :=
  (cfg.entity thingCode).asyncSend [(cfg.powerKey, .str "0")]

end WaterHeaterConfig

end Holabrain
