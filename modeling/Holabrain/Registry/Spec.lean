import Holabrain.Registry.Conditions

/-!
# Entity descriptors

The descriptors a category is made of, with the fields that decide which entities exist,
what they read and what they send.  How Home Assistant presents a reading (its device class,
unit, entity category and default visibility) is left out.
-/

namespace Holabrain

/-- A fixed instruction: status keys and the values to write. -/
abbrev Command := List (String × String)

structure SensorSpec where
  key : String
  translationKey : String
  valueMap : Option (List (String × String)) := none
  transform : Option String := none
  options : Option (List String) := none
  capability : Option String := none
  gates : Gates := {}

structure BinarySensorSpec where
  key : String
  translationKey : String
  onValues : List String := ["1"]
  invert : Bool := false
  capability : Option String := none
  summaryKey : Option String := none
  summaryBit : Option ℕ := none
  uid : Option String := none
  gates : Gates := {}

structure SwitchSpec where
  key : String
  translationKey : String
  onCommand : Command := []
  offCommand : Command := []
  onValues : List String := ["1"]
  capability : Option String := none
  gates : Gates := {}

structure SelectSpec where
  key : String
  translationKey : String
  commandKey : String
  options : List (String × String) := []
  optionsFromCapability : Option String := none
  extraCommand : Command := []
  capability : Option String := none
  gates : Gates := {}

structure NumberSpec where
  key : String
  translationKey : String
  commandKey : String
  nativeMin : ℤ := 0
  nativeMax : ℤ := 100
  step : ℤ := 1
  maxFromGear : Option String := none
  capability : Option String := none
  gates : Gates := {}

structure ButtonSpec where
  key : String
  translationKey : String
  command : Command := []
  capability : Option String := none
  gates : Gates := {}

structure LightConfig where
  powerKey : String := "power"
  powerOn : String := "1"
  powerOff : String := "0"
  brightnessKey : Option String := some "bright"
  colorTempKey : Option String := some "colorTemp"
  warmKelvin : ℤ := 2700
  coolKelvin : ℤ := 6500
  effectKey : Option String := some "mode"
  effects : List (String × String) := []

structure WaterHeaterConfig where
  powerKey : String := "power"
  currentTempKeys : List String := ["cur_temperature", "temp"]
  targetTempKey : String := "temp"
  minTemp : ℤ := 35
  maxTemp : ℤ := 75
  operations : List (String × Command) := []
  operationFlags : List (String × String × String) := []
  defaultOperation : String := "normal"
  tempLockedWhen : Option (String × String) := none

structure ClimateConfig where
  powerKey : String := "power"
  modeKey : String := "mode"
  hvacModeCodes : List (String × String) := []
  targetTempKey : String := "temp"
  currentTempKey : Option String := some "indoorTemp"
  minTemp : ℤ := 16
  maxTemp : ℤ := 30
  fanKey : String := "windSpeed"
  fanModes : List (String × String) := []

/-- One cooking programme with the limits the appliance enforces for it. -/
structure OvenProgram where
  code : String
  minTemp : ℤ := 50
  maxTemp : ℤ := 250
  tempStep : ℤ := 5
  defaultTemp : ℤ := 180
  supportsTemp : Bool := true
  supportsPreheat : Bool := true
  maxMinutes : ℤ := 300

structure OvenConfig where
  programs : List (String × OvenProgram)
  modeKey : String := "cookMode"
  tempKey : String := "upperTemp"
  lowerTempKey : String := "lowerTemp"
  timeKey : String := "cookTime"
  probeKey : String := "probeTemp"
  preheatKey : String := "preHeat"
  defaultMinutes : ℤ := 30
  probeMinTemp : ℤ := 30
  probeMaxTemp : ℤ := 100
  probeDefaultTemp : ℤ := 75
  fire : String := "255"
  size : String := "1"
  nextAction : String := "1"

structure DishwasherConfig where
  programs : List (String × String)
  extras : List (String × String × String)
  zones : List (String × String)
  modeKey : String := "modeEU"
  extraKey : String := "addFuncEU"
  zoneKey : String := "washArea"
  powerKey : String := "power"
  startValue : String := "3"
  zoneCapability : String := "alternate_wash"
  defaultZone : String := "3"
  noExtraCode : String := "0"

structure SnapshotTrigger where
  key : String
  settledValues : List String

/-- The key has just come to rest. -/
def SnapshotTrigger.fires (trigger : SnapshotTrigger) (before after : Json) : Bool :=
  match before, after with
  | .null, _ => false
  | _, .null => false
  | before, after =>
      decide (after.pyStr ∈ trigger.settledValues) &&
        !decide (before.pyStr ∈ trigger.settledValues)

inductive Platform
  | light
  | waterHeater
  | climate
  deriving DecidableEq

structure CategorySpec where
  deviceType : String
  category : String
  primaryPlatform : Option Platform := none
  light : Option LightConfig := none
  waterHeater : Option WaterHeaterConfig := none
  climate : Option ClimateConfig := none
  oven : Option OvenConfig := none
  dishwasher : Option DishwasherConfig := none
  sensors : List SensorSpec := []
  binarySensors : List BinarySensorSpec := []
  switches : List SwitchSpec := []
  selects : List SelectSpec := []
  numbers : List NumberSpec := []
  buttons : List ButtonSpec := []
  snapshotAfter : Option SnapshotTrigger := none
  states : List StateRule := []
  guard : List Block := []

/-- `_faulted`: the key reports one of the known fault codes. -/
def faulted (key : String) (codes : List (String × String)) : Cond :=
  .is key ((codes.map Prod.fst).filter (· ≠ "0"))

end Holabrain
