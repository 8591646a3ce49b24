import Holabrain.Entity.Gate

/-!
# The table-driven controls

Switches, numbers, selects and buttons are built from the descriptors of a category and send
one instruction each.
-/

namespace Holabrain

/-- The instruction a descriptor fixes. -/
def Command.members (command : Command) : Members := command.map fun e => (e.1, .str e.2)

/-! ## Switches -/

namespace SwitchSpec

/-- `HolabrainSwitch`, the one platform that takes over the gates of its descriptor. -/
def entity (spec : SwitchSpec) (thingCode : String) : HolabrainEntity where
  thingCode := thingCode
  key := spec.key
  gates := spec.gates

/-- `async_turn_on`. -/
def asyncTurnOn (spec : SwitchSpec) (thingCode : String) : CoordM Unit := do
  (spec.entity thingCode).checkWritable
  (spec.entity thingCode).asyncSend (Command.members spec.onCommand)

/-- `async_turn_off`. -/
def asyncTurnOff (spec : SwitchSpec) (thingCode : String) : CoordM Unit := do
  (spec.entity thingCode).checkWritable
  (spec.entity thingCode).asyncSend (Command.members spec.offCommand)

end SwitchSpec

/-! ## Numbers -/

namespace NumberSpec

/-- `HolabrainNumber`. -/
def entity (spec : NumberSpec) (thingCode : String) : HolabrainEntity where
  thingCode := thingCode
  key := spec.key

/-- `async_set_native_value`. -/
def asyncSetNativeValue (spec : NumberSpec) (thingCode : String) (value : Double) :
    CoordM Unit := do
  let n ← Coro.ofExcept value.toInt
  (spec.entity thingCode).asyncSend [(spec.commandKey, .str (toString n))]

end NumberSpec

/-! ## Selects -/

namespace SelectSpec

/-- `HolabrainSelect`. -/
def entity (spec : SelectSpec) (thingCode : String) : HolabrainEntity where
  thingCode := thingCode
  key := spec.key

/-- The instruction for one option. -/
def instruction (spec : SelectSpec) (code : Json) : Members :=
  (Dict.ofList ((spec.commandKey, code) :: Command.members spec.extraCommand)).items

/-- `async_select_option`. -/
def asyncSelectOption (spec : SelectSpec) (thingCode : String) (labelToCode : Dict String Json)
    (option : String) : CoordM Unit :=
  match labelToCode.get? option with
  | none => return ()
  | some .null => return ()
  | some code => (spec.entity thingCode).asyncSend (spec.instruction code)

end SelectSpec

/-! ## Buttons -/

namespace ButtonSpec

/-- `HolabrainButton`. -/
def entity (spec : ButtonSpec) (thingCode : String) : HolabrainEntity where
  thingCode := thingCode
  key := spec.key

/-- `async_press`. -/
def asyncPress (spec : ButtonSpec) (thingCode : String) : CoordM Unit :=
  (spec.entity thingCode).asyncSend (Command.members spec.command)

end ButtonSpec

end Holabrain
