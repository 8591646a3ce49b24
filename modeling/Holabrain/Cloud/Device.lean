import Holabrain.Cloud.Number

/-!
# Appliances and their live state

`Device` is one record of the account's inventory, `DeviceState` the flat attribute map of
one appliance.  A state is built from a full snapshot and then folded with push frames; both
constructions read whatever JSON the cloud sends.
-/

namespace Holabrain

/-! ## `Device` -/

structure Device where
  thingCode : String
  name : String
  deviceType : String
  model : String
  online : Bool
  firmwareVersion : String := ""
  pluginType : ℤ := 0
  thingProtocol : ℤ := 1
  dynamicAttr : String := ""
  metadata : Dict String Json := Dict.empty
  deriving DecidableEq

/-- `_as_int`.  An infinite double is the one value it neither reads nor replaces by the
default: `int` raises an `OverflowError` there, which is not caught. -/
def asInt (value : Json) (default : ℤ) : Except Exn ℤ :=
  match value with
  | .null => .ok default
  | .bool b => .ok (if b then 1 else 0)
  | .int n => .ok n
  | .float (.finite x) => .ok (truncate x.double)
  | .float (.infinite _) => .error (.builtin "OverflowError")
  | .float .nan => .ok default
  | .str s => .ok ((parseInt s).getD default)
  | .arr _ => .ok default
  | .obj _ => .ok default

/-- 1e23 is read as the double nearest to it, and `int` gives the integer that double is. -/
example : asInt (.float (.finite ⟨false, 1, 23⟩)) 0 = .ok 99999999999999991611392 := by
  decide +kernel

/-- `_normalize_type`. -/
def normalizeType (value : Json) : String :=
  let text := stripList (value.or (.str "")).pyStr.toList
  match text with
  | '0' :: 'x' :: rest | '0' :: 'X' :: rest =>
      String.ofList ('0' :: 'x' :: upperText rest)
  | text => String.ofList text

namespace Device

/-- The identifier of a record of the inventory. -/
def thingCodeOf (data : Members) : String :=
  (((data.get "thingCode").or (data.get "applianceCode")).or (.str "")).pyStr

def fromDict (data : Members) : Except Exn Device := do
  let pluginType ← asInt (data.get "pluginType") 0
  let thingProtocol ← asInt (data.get "thingProtocol") 1
  return {
    thingCode := thingCodeOf data
    name := (((data.get "thingName").or (data.get "name")).or (.str "")).pyStr
    deviceType := normalizeType (data.get "deviceType")
    model :=
      ((((data.get "sn8").or (data.get "deviceSn8")).or (data.get "model")).or (.str "")).pyStr
    online := (data.get "online").truthy
    firmwareVersion := ((data.get "firmwareVersion").or (.str "")).pyStr
    pluginType := pluginType
    thingProtocol := thingProtocol
    dynamicAttr :=
      (((data.get "dynamicAttr").or (data.get "manualDynamicAttr")).or (.str "")).pyStr
    metadata := data.toDict }

theorem thingCode_of_fromDict {data : Members} {device : Device}
    (h : fromDict data = .ok device) : device.thingCode = thingCodeOf data := by
  simp only [fromDict, bind, Except.bind, pure, Except.pure] at h
  split at h
  · cases h
  split at h
  · cases h
  · cases h
    rfl

end Device

/-! ## `DeviceState` -/

structure DeviceState where
  thingCode : String
  attributes : Dict String Json
  online : Bool := true
  deriving DecidableEq

/-- `_coerce_online`. -/
def coerceOnline (value : Json) (default : Bool) : Bool :=
  match value with
  | .null => default
  | .str s => s ≠ "0" && s ≠ "" && s ≠ "false" && s ≠ "False"
  | value => value.truthy

namespace DeviceState

def get (state : DeviceState) (key : String) : Json := (state.attributes.get? key).getD .null

/-- `dict.setdefault` for every item. -/
def setDefaults (attributes : Dict String Json) (items : List (String × Json)) :
    Dict String Json :=
  items.foldl (fun acc e => if (acc.get? e.1).isSome then acc else acc.setItem e.1 e.2) attributes

def fromQuery (thingCode : String) (data : Members) : DeviceState :=
  let attrs := ((data.get "query").asObj.getD data).toDict
  let merged := match (data.get "fault").asObj with
    | some fault => setDefaults attrs fault.toDict.items
    | none => attrs
  { thingCode := thingCode
    attributes := merged
    online := coerceOnline ((merged.get? "online").getD .null) true }

/-- One group of a frame, folded into the flat content and the online flag. -/
def foldGroup (acc : Dict String Json × Bool) (entry : String × Json) :
    Dict String Json × Bool :=
  match entry with
  | ("onlineChange", .obj group) => (acc.1, coerceOnline (Members.get group "online") acc.2)
  | (_, .obj group) => (acc.1.update (Members.toDict group).items, acc.2)
  | (key, value) => (acc.1.setItem key value, acc.2)

/-- `apply_push`; `none` where the source returns the same object. -/
def applyPush? (state : DeviceState) (payload : Members) : Option DeviceState :=
  let (flat, online) := payload.toDict.items.foldl foldGroup (Dict.empty, state.online)
  if flat.isEmpty ∧ online = state.online then none
  else some
    { state with
      attributes := state.attributes.update flat.items
      online := match flat.get? "online" with
        | some value => coerceOnline value online
        | none => online }

def applyPush (state : DeviceState) (payload : Members) : DeviceState :=
  (state.applyPush? payload).getD state

end DeviceState

end Holabrain
