import Holabrain.Entity.Controls

/-!
# What the table-driven entities show

Sensors, binary sensors, switches, numbers and selects are built from the descriptors of a
category and show what the snapshot says, as far as it means anything.
-/

namespace Holabrain

open Coordinator

namespace HolabrainEntity

/-- `_is_meaningful`: whether the reading means anything in the appliance's current state. -/
def isMeaningful (entity : HolabrainEntity) (w : World) : Bool :=
  holdsOr entity.gates.meaningfulWhen (entity.gateContext w) true

/-- `available`, as far as the snapshot decides it. -/
def available (entity : HolabrainEntity) (w : World) : Bool :=
  match w.states.get? entity.thingCode with
  | none => false
  | some state => state.online

/-- A reading is blanked while its condition definitely fails. -/
theorem isMeaningful_eq_false_iff {entity : HolabrainEntity} {w : World} :
    entity.isMeaningful w = false ↔ ∃ condition, entity.gates.meaningfulWhen = some condition ∧
      condition.holds (entity.gateContext w) = some false := by
  rw [isMeaningful]
  cases entity.gates.meaningfulWhen with
  | none => simp [holdsOr]
  | some condition =>
      rw [holdsOr]
      cases hverdict : condition.holds (entity.gateContext w) with
      | none => simp [hverdict]
      | some verdict => simp [hverdict]

end HolabrainEntity

/-- The labels of a table of codes, read the other way round. -/
def codeToLabel (labels : List (String × String)) : Dict String String :=
  Dict.ofList (labels.map fun e => (e.2, e.1))

/-! ## Sensors -/

namespace SensorSpec

/-- `HolabrainSensor`. -/
def entity (spec : SensorSpec) (thingCode : String) : HolabrainEntity where
  thingCode := thingCode
  key := spec.key
  gates := spec.gates

/-- An optional integer as Home Assistant is shown it. -/
def ofInt (n : Option ℤ) : Json := (n.map Json.int).getD .null

def ofLabel (label : Option String) : Json := (label.map Json.str).getD .null

/-- `_remain_minutes`: high byte and low byte. -/
def remainMinutes (state : DeviceState) : Except Exn (Option ℤ) := do
  let low ← toIntOrNone (state.get "remainTimeL")
  match low with
  | none => return none
  | some low =>
      let high ← toIntOrNone (state.get "remainTimeH")
      return some (high.getD 0 * 256 + low)

/-- `_seconds_minutes`: rounded up, so a running countdown never reaches zero early. -/
def secondsMinutes (spec : SensorSpec) (state : DeviceState) : Except Exn (Option ℤ) := do
  let seconds ← toIntOrNone (state.get spec.key)
  return seconds.map fun seconds => -(-max seconds 0 / 60)

/-- `_OVEN_RUN_STATE`. -/
def ovenRunState : List (String × String) :=
  [("1", "off"), ("2", "standby"), ("3", "cooking"), ("4", "cook_complete"), ("5", "delay"),
    ("6", "pause")]

/-- `_oven_status`: the pre-heat phase folded over the run state. -/
def ovenStatus (spec : SensorSpec) (state : DeviceState) : Option String :=
  if !state.online then some "offline"
  else
    let runState := (Dict.ofList ovenRunState).get? (state.get spec.key).pyStr
    if runState ≠ some "cooking" then runState
    else
      let preheat := ((state.get "preheatState").or (.str "0")).pyStr
      if preheat = "1" then some "preheating"
      else if preheat = "2" ∨ preheat = "3" then some "preheat_finish"
      else some "cooking"

/-- `_TRANSFORMS.get(spec.transform or "")`. -/
def transforms : Option String → Option (SensorSpec → DeviceState → Except Exn Json)
  | some "remain_minutes" => some fun _ state => (remainMinutes state).map ofInt
  | some "seconds_minutes" => some fun spec state => (spec.secondsMinutes state).map ofInt
  | some "oven_status" => some fun spec state => .ok (ofLabel (spec.ovenStatus state))
  | _ => none

theorem transforms_remainMinutes : transforms (some "remain_minutes") =
    some fun _ state => (remainMinutes state).map ofInt := rfl

theorem transforms_ovenStatus : transforms (some "oven_status") =
    some fun spec state => .ok (ofLabel (spec.ovenStatus state)) := rfl

/-- What a sensor shows of a snapshot once it means something. -/
def shown (spec : SensorSpec) (state : DeviceState) : Except Exn Json :=
  match transforms spec.transform with
  | some transform => transform spec state
  | none => match spec.valueMap, state.get spec.key with
      | _, .null => .ok .null
      | none, raw => .ok raw
      | some valueMap, raw => .ok (ofLabel ((Dict.ofList valueMap).get? raw.pyStr))

/-- `native_value`. -/
def nativeValue (spec : SensorSpec) (thingCode : String) (w : World) : Except Exn Json :=
  if !(spec.entity thingCode).isMeaningful w then .ok .null
  else match w.states.get? thingCode with
    | none => .ok .null
    | some state => spec.shown state

end SensorSpec

/-! ## Binary sensors -/

namespace BinarySensorSpec

/-- `HolabrainBinarySensor`. -/
def entity (spec : BinarySensorSpec) (thingCode : String) : HolabrainEntity where
  thingCode := thingCode
  key := spec.key
  gates := spec.gates

/-- `_from_summary`: the flag in the packed status integer. -/
def fromSummary (spec : BinarySensorSpec) (thingCode : String) (w : World) :
    Except Exn (Option Bool) :=
  match spec.summaryKey, spec.summaryBit with
  | some key, some bit => (pyIntOrNone ((spec.entity thingCode).value w key)).map fun summary =>
      summary.map fun (n : ℤ) => decide ((n >>> bit) % 2 = 1)
  | _, _ => .ok none

/-- `is_on`. -/
def isOn (spec : BinarySensorSpec) (thingCode : String) (w : World) : Except Exn (Option Bool) :=
  if !(spec.entity thingCode).isMeaningful w then .ok none
  else match (spec.entity thingCode).value w "" with
    | .null => spec.fromSummary thingCode w
    | raw => .ok (some (decide (raw.pyStr ∈ spec.onValues) ^^ spec.invert))

end BinarySensorSpec

/-! ## Switches, numbers and selects -/

/-- `is_on`. -/
def SwitchSpec.isOn (spec : SwitchSpec) (thingCode : String) (w : World) : Option Bool :=
  match (spec.entity thingCode).value w "" with
  | .null => none
  | raw => if !(spec.entity thingCode).isMeaningful w then none
      else some (decide (raw.pyStr ∈ spec.onValues))

/-- `native_value`. -/
def NumberSpec.nativeValue (spec : NumberSpec) (thingCode : String) (w : World) :
    Except Exn (Option Double) :=
  toFloatOrNone ((spec.entity thingCode).value w "")

/-- `_resolve_max`. -/
def NumberSpec.resolveMax (spec : NumberSpec) (thingCode : String) (w : World) : ℤ :=
  match spec.maxFromGear, w.capabilityFor thingCode with
  | none, _ => spec.nativeMax
  | some "", _ => spec.nativeMax
  | some _, none => spec.nativeMax
  | some feature, some profile => match profile.gearMax feature with
      | none => spec.nativeMax
      | some gear => if gear = 0 then spec.nativeMax else gear

/-- `_code_to_label`.  A code that is no string equals no text. -/
def SelectSpec.codeToLabel (labelToCode : Dict String Json) : Dict String String :=
  Dict.ofList (labelToCode.items.filterMap fun e => match e.2 with
    | .str code => some (code, e.1)
    | _ => none)

/-- `current_option`. -/
def SelectSpec.currentOption (spec : SelectSpec) (thingCode : String)
    (labelToCode : Dict String Json) (w : World) : Option String :=
  (textOf ((spec.entity thingCode).value w "")).bind (SelectSpec.codeToLabel labelToCode).get?

/-! ## Blanked readings -/

section Blanked

variable {thingCode : String} {w : World}

/-- A reading that means nothing is not shown. -/
theorem BinarySensorSpec.isOn_of_not_meaningful {spec : BinarySensorSpec}
    (h : (spec.entity thingCode).isMeaningful w = false) :
    spec.isOn thingCode w = .ok none := by
  rw [isOn, h]
  rfl

theorem SwitchSpec.isOn_of_not_meaningful {spec : SwitchSpec}
    (h : (spec.entity thingCode).isMeaningful w = false) : spec.isOn thingCode w = none := by
  rw [isOn, h]
  split <;> rfl

end Blanked

end Holabrain
