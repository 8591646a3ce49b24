import Holabrain.Entity.Controls
import Holabrain.Entity.Dishwasher
import Holabrain.Entity.Oven

/-!
# The write guard

The guard of a category says when the appliance refuses every command.  Only the switches ask
it: any other control sends its instruction whatever the guard says, as long as it has one to
send.
-/

namespace Holabrain

open Coordinator

/-! ## Controls -/

/-- A use of one control that is there to send an instruction. -/
inductive Control
  | turnOn (spec : SwitchSpec)
  | turnOff (spec : SwitchSpec)
  | setNumber (spec : NumberSpec) (value : Double)
  | selectOption (spec : SelectSpec) (labelToCode : Dict String Json) (option : String)
  | press (spec : ButtonSpec)
  | ovenStart (cfg : OvenConfig)
  | dishwasherStart (cfg : DishwasherConfig)

namespace Control

/-- The gates its descriptor declares. -/
def gates : Control → Gates
  | turnOn spec => spec.gates
  | turnOff spec => spec.gates
  | setNumber spec _ => spec.gates
  | selectOption spec _ _ => spec.gates
  | press spec => spec.gates
  | ovenStart _ => {}
  | dishwasherStart _ => {}

/-- The entity it belongs to. -/
def entity (thingCode : String) : Control → HolabrainEntity
  | turnOn spec => spec.entity thingCode
  | turnOff spec => spec.entity thingCode
  | setNumber spec _ => spec.entity thingCode
  | selectOption spec _ _ => spec.entity thingCode
  | press spec => spec.entity thingCode
  | ovenStart cfg => cfg.entity thingCode cfg.modeKey
  | dishwasherStart cfg => cfg.entity thingCode cfg.modeKey

/-- What using it runs. -/
def use (thingCode : String) : Control → CoordM Unit
  | turnOn spec => spec.asyncTurnOn thingCode
  | turnOff spec => spec.asyncTurnOff thingCode
  | setNumber spec value => spec.asyncSetNativeValue thingCode value
  | selectOption spec labelToCode option => spec.asyncSelectOption thingCode labelToCode option
  | press spec => spec.asyncPress thingCode
  | ovenStart cfg => cfg.asyncPress thingCode
  | dishwasherStart cfg => cfg.asyncPress thingCode

end Control

/-! ## Instructions -/

section Sends

variable {thingCode : String} {w : World}

end Sends

/-! ## The guard -/

section Guard

variable {thingCode : String} {w : World} {device : Device} {category : CategorySpec}

end Guard

/-! ## Switched-off appliances -/

def appliance (thingCode deviceType : String) : Device where
  thingCode := thingCode
  name := thingCode
  deviceType := deviceType
  model := ""
  online := true

/-- A dishwasher and a washer that are switched off; the dishwasher still reports a
programme. -/
def switchedOff : World :=
  { World.fresh with
    devices := Dict.ofList [("D", appliance "D" "0xE1"), ("W", appliance "W" "0xDB")]
    data := some (Dict.ofList
      [("D", { thingCode := "D"
               attributes := Dict.ofList [("power", .str "0"), ("modeEU", .str "1")] }),
        ("W", { thingCode := "W", attributes := Dict.ofList [("power", .str "0")] })]) }

/-- The composed start of the dishwasher, as its category configures it. -/
def startCycle : DishwasherConfig where
  programs := Registry.dishwasherPrograms
  extras := Registry.dishwasherExtras
  zones := Registry.dishwasherZones

/-- The dishwasher's run switch. -/
def runSwitch : SwitchSpec where
  key := "runState"
  translationKey := "running"
  onCommand := [("runState", "1")]
  offCommand := [("runState", "2")]
  gates := { meaningfulWhen := some Registry.dishwasherRunning }

end Holabrain
