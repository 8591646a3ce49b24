import Holabrain.Coordinator.Push

/-!
# Entities and their gates

`HolabrainEntity` is what every platform shares: the reading of a status key, the context its
conditions are evaluated in, and the guard in front of a write.
-/

namespace Holabrain

namespace Coordinator

/-- A reported value as conditions see it. -/
def textOf : Json → Option String
  | .null => none
  | raw => some raw.pyStr

/-- `_SnapshotContext`: only what the appliance reported. -/
def snapshotContext (state : DeviceState) : GateContext where
  value key := textOf (state.get key)
  programAllows _ _ := true

/-- `resolve_machine_state`. -/
def resolveMachineState (deviceType : String) (state : DeviceState) : Option String :=
  match getCategory deviceType with
  | none => none
  | some category => resolveState category.states (snapshotContext state)

/-- `machine_state` but for its cache, as the state is resolved for a new snapshot. -/
def machineState (w : World) (thingCode : String) : Option String :=
  match w.states.get? thingCode, w.devices.get? thingCode with
  | some state, some device => resolveMachineState device.deviceType state
  | _, _ => none

/-- `supports`. -/
def supports (w : World) (thingCode feature : String) : Bool :=
  (w.capabilityFor thingCode).any fun profile => profile.supports feature

/-- `async_stage`, up to the listeners it calls. -/
def stage (thingCode : String) (values : List (String × String)) (w : World) : World :=
  { w with drafts := w.drafts.setItem thingCode ((w.draft thingCode).update values) }

/-- `async_clear_draft`. -/
def clearDraft (thingCode : String) (w : World) : World :=
  { w with drafts := w.drafts.erase thingCode }

theorem draft_stage (thingCode : String) (values : List (String × String)) (w : World)
    (other : String) :
    (stage thingCode values w).draft other =
      if other = thingCode then (w.draft thingCode).update values else w.draft other := by
  rw [World.draft, stage, Dict.get?_setItem]
  split <;> rfl

theorem get?_draft_stage (thingCode key value : String) (w : World) (other : String) :
    ((stage thingCode [(key, value)] w).draft thingCode).get? other =
      if other = key then some value else (w.draft thingCode).get? other := by
  rw [draft_stage, if_pos rfl, Dict.get?_update, Dict.written_cons, Dict.written_nil,
    Option.none_or]
  split
  · rfl
  · rfl

theorem draft_clearDraft (thingCode : String) (w : World) (other : String) :
    (clearDraft thingCode w).draft other =
      if other = thingCode then Dict.empty else w.draft other := by
  rw [World.draft, clearDraft, Dict.get?_erase]
  split <;> rfl

end Coordinator

/-- What the base class keeps of one entity. -/
structure HolabrainEntity where
  thingCode : String
  key : String
  gates : Gates := {}

namespace HolabrainEntity

open Coordinator

/-- `_value`; the empty key stands for the entity's own. -/
def value (entity : HolabrainEntity) (w : World) (key : String) : Json :=
  match w.states.get? entity.thingCode with
  | none => .null
  | some state => state.get (if key = "" then entity.key else key)

/-- `staged.get(key, self._value(key))`. -/
def stagedValue (entity : HolabrainEntity) (w : World) (key : String) : Json :=
  match (w.draft entity.thingCode).get? key with
  | some staged => .str staged
  | none => entity.value w key

/-- Staging overrides what its own keys read, and nothing else. -/
theorem stagedValue_stage (entity : HolabrainEntity) (values : List (String × String))
    (w : World) (key : String) :
    entity.stagedValue (stage entity.thingCode values w) key =
      match Dict.written values key with
      | some staged => .str staged
      | none => entity.stagedValue w key := by
  rw [stagedValue, draft_stage, if_pos rfl, Dict.get?_update]
  cases Dict.written values key with
  | none => rfl
  | some staged => rfl

/-- The staged key a virtual key names. -/
def stagedName (key : String) : Option String :=
  if keyStaged.toList <+: key.toList then
    some (String.ofList (key.toList.drop keyStaged.length))
  else none

/-- `_EntityGateContext`.  No composer overrides `_program_allows`. -/
def gateContext (entity : HolabrainEntity) (w : World) : GateContext where
  value key :=
    if key = keyState then machineState w entity.thingCode
    else match stagedName key with
      | some name => (w.draft entity.thingCode).get? name
      | none => textOf (entity.value w key)
  programAllows _ _ := true

/-- A block refuses a write of this entity. -/
def refuses (entity : HolabrainEntity) (w : World) (block : Block) : Bool :=
  !decide (block.reason ∈ entity.gates.exempt) &&
    holdsOr (some block.when) (entity.gateContext w) false

/-- The blocks in front of a write of an appliance: the guard of its category, then the
entity's own. -/
def blocks (entity : HolabrainEntity) (device : Device) : List Block :=
  ((getCategory device.deviceType).map CategorySpec.guard).getD [] ++ entity.gates.blocks

/-- What `_check_writable` raises. -/
def refusal (entity : HolabrainEntity) (w : World) : Except Exn Unit :=
  match w.devices.get? entity.thingCode with
  | none => .error (.builtin "KeyError")
  | some device => match (entity.blocks device).find? (entity.refuses w) with
      | some block => .error (.serviceValidation block.reason)
      | none => .ok ()

/-- `_check_writable`. -/
def checkWritable (entity : HolabrainEntity) : CoordM Unit := do
  let w ← Coro.gets id
  Coro.ofExcept (entity.refusal w)

/-- `_async_send`. -/
def asyncSend (entity : HolabrainEntity) (instruction : Members) : CoordM Unit :=
  asyncSendInstruction entity.thingCode instruction

theorem refuses_iff {entity : HolabrainEntity} {w : World} {block : Block} :
    entity.refuses w block = true ↔
      block.reason ∉ entity.gates.exempt ∧ block.when.holds (entity.gateContext w) = some true := by
  rw [refuses, Bool.and_eq_true, holdsOr_some_false, Bool.not_eq_true', decide_eq_false_iff_not]

end HolabrainEntity

end Holabrain
