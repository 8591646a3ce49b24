import Holabrain.Coordinator.Update

/-!
# Push frames and commands

A frame on the push channel and the optimistic patch after a command both fold a payload
into the published state of one appliance, at once and without suspending.
-/

namespace Holabrain

namespace Coordinator

/-- `_thing_code_from_topic`. -/
def thingCodeFromTopic (topic : String) : Option String :=
  match topic.toList.splitOn '/' with
  | _ :: middle :: _ =>
      let thingCode := String.ofList ((middle.dropWhile (· != '_')).drop 1)
      if thingCode = "" then none else some thingCode
  | _ => none

/-- `_note_snapshot_trigger`. -/
def noteSnapshotTrigger (thingCode : String) (before after : DeviceState) (w : World) : World :=
  match ((w.devices.get? thingCode).bind fun device =>
      getCategory device.deviceType).bind CategorySpec.snapshotAfter with
  | none => w
  | some trigger =>
      if trigger.fires (before.get trigger.key) (after.get trigger.key) then
        let w := { w with snapshotDue := true }.schedule .requestRefresh
        if w.mode = .exclusive then (w.schedule .fetchConsumption).note .fetchStarted else w
      else w

/-- A payload folded into the published data. -/
def foldInto (thingCode : String) (payload : Members) (updated : DeviceState) (w : World) : World :=
  (w.setData (w.states.setItem thingCode updated)).note (.folded thingCode payload)

/-- The part of `_handle_push` that needs a published state of the appliance. -/
def applyFrame (thingCode : String) (payload : Members) (current : DeviceState) (w : World) :
    World :=
  let w := match current.applyPush? payload with
    | none => w
    | some updated => noteSnapshotTrigger thingCode current updated
        (foldInto thingCode payload updated (absorbStatusFields [(thingCode, updated)] w))
  fetchConsumptionOnce w

/-- `_handle_push`. -/
def handlePush (topic : String) (payload : Members) (w : World) : World :=
  let w := { w with lastPush := some w.now }
  match thingCodeFromTopic topic with
  | none => w
  | some thingCode => match w.states.get? thingCode with
      | none => w
      | some current => applyFrame thingCode payload current w

/-- The optimistic patch of `async_send_instruction`, once the cloud took the instruction. -/
def patchState (thingCode : String) (instruction : Members) (w : World) : World :=
  match w.states.get? thingCode with
  | none => w
  | some current =>
      if instruction.toDict.values.all fun value => match value with
        | .str _ => true
        | _ => false then
        foldInto thingCode instruction (current.applyPush instruction) w
      else w

theorem patchState_drafts (thingCode : String) (instruction : Members) (w : World) :
    (patchState thingCode instruction w).drafts = w.drafts := by
  rw [patchState]
  split
  · rfl
  · split <;> rfl

/-- `async_send_instruction`. -/
def asyncSendInstruction (thingCode : String) (instruction : Members) : CoordM Unit := do
  Client.asyncSendInstruction thingCode instruction
  Coro.modify (patchState thingCode instruction)

end Coordinator

end Holabrain
