import Holabrain.Entity.Modelled
import Holabrain.Registry.Steadiness

/-!
# Gating fails open

What an appliance has not reported can only open its gates.  A snapshot that says more than
another one blanks every reading that the other one blanks, and refuses every write that the
other one refuses.
-/

namespace Holabrain

open Coordinator

/-! ## Snapshots that say more -/

/-- Whatever `s` reports, `t` reports with the same value. -/
def ReportsMore (s t : DeviceState) : Prop :=
  ∀ key value, s.attributes.get? key = some value → t.attributes.get? key = some value

theorem ReportsMore.get {s t : DeviceState} (h : ReportsMore s t) {key text : String}
    (htext : textOf (s.get key) = some text) : textOf (t.get key) = some text := by
  rw [DeviceState.get] at htext ⊢
  cases hvalue : s.attributes.get? key with
  | none =>
      rw [hvalue] at htext
      cases htext
  | some value =>
      rw [hvalue] at htext
      rwa [h key value hvalue]

theorem ReportsMore.learnsMore_snapshot {s t : DeviceState} (h : ReportsMore s t) :
    LearnsMore [] (snapshotContext s) (snapshotContext t) where
  value _ _ _ htext := h.get htext
  state _ _ _ hstate hset := ⟨_, h.get hstate, hset⟩
  program := rfl

/-! ## Entities under two snapshots -/

section Contexts

variable {w : World} {thingCode : String} {device : Device} {category : CategorySpec}
  {entity : HolabrainEntity} {s t : DeviceState}

theorem machineState_withSnapshot (hdevice : w.devices.get? thingCode = some device)
    (hcategory : getCategory device.deviceType = some category) (state : DeviceState) :
    machineState (w.withSnapshot thingCode state) thingCode =
      resolveState category.states (snapshotContext state) := by
  have hdevices : (w.withSnapshot thingCode state).devices = w.devices := rfl
  rw [machineState, World.get?_states_withSnapshot, hdevices, hdevice]
  dsimp only
  rw [resolveMachineState, hcategory]

theorem HolabrainEntity.value_withSnapshot (hcode : entity.thingCode = thingCode)
    (state : DeviceState) (key : String) :
    entity.value (w.withSnapshot thingCode state) key =
      state.get (if key = "" then entity.key else key) := by
  rw [HolabrainEntity.value, hcode, World.get?_states_withSnapshot]

/-- A gate's context learns from a snapshot that says more. -/
theorem ReportsMore.learnsMore_gate (h : ReportsMore s t) (hcode : entity.thingCode = thingCode)
    (hdevice : w.devices.get? thingCode = some device)
    (hcategory : getCategory device.deviceType = some category)
    (hrules : ∀ rule ∈ category.states, rule.when.steady [] true = true) :
    LearnsMore category.states (entity.gateContext (w.withSnapshot thingCode s))
      (entity.gateContext (w.withSnapshot thingCode t)) where
  value key text hkey htext := by
    simp only [HolabrainEntity.gateContext, if_neg hkey] at htext ⊢
    cases hstaged : HolabrainEntity.stagedName key with
    | some name =>
        rw [hstaged] at htext
        exact htext
    | none =>
        rw [hstaged] at htext
        dsimp only at htext ⊢
        rw [HolabrainEntity.value_withSnapshot hcode] at htext ⊢
        exact h.get htext
  state set hclosed a ha hset := by
    simp only [HolabrainEntity.gateContext, if_pos, hcode] at ha ⊢
    rw [machineState_withSnapshot hdevice hcategory] at ha ⊢
    exact resolveState_of_closed h.learnsMore_snapshot hrules hclosed ha hset
  program := rfl

end Contexts

/-- A write is refused, for whatever reason. -/
def HolabrainEntity.Refused (entity : HolabrainEntity) (w : World) : Prop :=
  ∃ reason, entity.refusal w = .error (.serviceValidation reason)

theorem HolabrainEntity.refused_iff {entity : HolabrainEntity} {w : World} {device : Device}
    (hdevice : w.devices.get? entity.thingCode = some device) :
    entity.Refused w ↔ ∃ block ∈ entity.blocks device, entity.refuses w block = true := by
  rw [Refused, refusal, hdevice]
  dsimp only
  cases hfound : (entity.blocks device).find? (entity.refuses w) with
  | none =>
      apply iff_of_false
      · intro hrefused
        obtain ⟨_, hreason⟩ := hrefused
        cases hreason
      · intro hblock
        obtain ⟨block, hmem, hrefuses⟩ := hblock
        exact List.find?_eq_none.mp hfound block hmem hrefuses
  | some block =>
      apply iff_of_true
      · exact ⟨block.reason, rfl⟩
      · exact ⟨block, List.mem_of_find?_eq_some hfound, List.find?_some hfound⟩

/-! ## The tables -/

/-- The blocks in front of a write that the gates are not exempt from. -/
def CategorySpec.blocksOf (category : CategorySpec) (gates : Gates) : List Block :=
  (category.guard ++ gates.blocks).filter fun block => decide (block.reason ∉ gates.exempt)

/-- The gates that the entities of the category take over. -/
def CategorySpec.entityGates (category : CategorySpec) : List Gates :=
  {} :: category.sensors.map SensorSpec.gates ++
    category.binarySensors.map BinarySensorSpec.gates ++ category.switches.map SwitchSpec.gates

/-- No verdict that closes one of these gates can be lost by learning more. -/
def Gates.failOpen (gates : Gates) (category : CategorySpec) : Bool :=
  (gates.meaningfulWhen.all fun condition => condition.steady category.states false) &&
    blocksSteady category.states (category.blocksOf gates)

def CategorySpec.failsOpen (category : CategorySpec) : Bool :=
  (category.states.all fun rule => rule.when.steady [] true) &&
    category.entityGates.all fun gates => gates.failOpen category

/-- Every table passes: a state that blanks a reading or refuses a write only gives way to
another one that does, or excludes what could come before it. -/
theorem failsOpen_of_mem {category : CategorySpec} (h : category ∈ categories) :
    category.failsOpen = true := by
  have hall : ∀ category ∈ categories, category.failsOpen = true := by decide +kernel
  exact hall category h

theorem ModelledEntity.gates_mem {category : CategorySpec} {entity : ModelledEntity}
    (h : entity.Of category) (thingCode : String) :
    (entity.base thingCode).gates ∈ category.entityGates := by
  rw [CategorySpec.entityGates, List.cons_append, List.cons_append, List.mem_cons, List.mem_append,
    List.mem_append]
  cases entity with
  | sensor spec => exact .inr (.inl (.inl (List.mem_map_of_mem h)))
  | binarySensor spec => exact .inr (.inl (.inr (List.mem_map_of_mem h)))
  | switch spec => exact .inr (.inr (List.mem_map_of_mem h))
  | _ => exact .inl rfl

/-! ## Monotonicity -/

/-- Learning more about an appliance blanks no less and refuses no less. -/
theorem gating_of_reportsMore {category : CategorySpec} (hcategory : category ∈ categories)
    {entity : ModelledEntity} (hentity : entity.Of category) {w : World} {thingCode : String}
    {device : Device} (hdevice : w.devices.get? thingCode = some device)
    (htype : device.deviceType = category.deviceType) {s t : DeviceState}
    (hmore : ReportsMore s t) :
    ((entity.base thingCode).isMeaningful (w.withSnapshot thingCode s) = false →
      (entity.base thingCode).isMeaningful (w.withSnapshot thingCode t) = false) ∧
    ((entity.base thingCode).Refused (w.withSnapshot thingCode s) →
      (entity.base thingCode).Refused (w.withSnapshot thingCode t)) := by
  have hknown : getCategory device.deviceType = some category := by
    rw [htype, getCategory_deviceType hcategory]
  have hopen := failsOpen_of_mem hcategory
  rw [CategorySpec.failsOpen, Bool.and_eq_true, List.all_eq_true, List.all_eq_true] at hopen
  have hgates := hopen.2 _ (entity.gates_mem hentity thingCode)
  rw [Gates.failOpen, Bool.and_eq_true] at hgates
  have hlearns := hmore.learnsMore_gate (entity.thingCode_base thingCode) hdevice hknown hopen.1
  constructor
  · intro hblank
    rw [HolabrainEntity.isMeaningful_eq_false_iff] at hblank ⊢
    obtain ⟨condition, hcondition, hfails⟩ := hblank
    have hsteady := hgates.1
    rw [hcondition, Option.all_some] at hsteady
    exact ⟨condition, hcondition, Cond.holds_of_steady hlearns condition false hsteady hfails⟩
  · intro hrefused
    have hcode := entity.thingCode_base thingCode
    rw [HolabrainEntity.refused_iff (by rw [hcode]; exact hdevice)] at hrefused ⊢
    have hblocks : ∀ u, (∃ block ∈ (entity.base thingCode).blocks device,
        (entity.base thingCode).refuses u block = true) ↔
        ∃ block ∈ category.blocksOf (entity.base thingCode).gates,
          block.when.holds ((entity.base thingCode).gateContext u) = some true := by
      intro u
      apply exists_congr
      intro block
      rw [HolabrainEntity.refuses_iff, HolabrainEntity.blocks, hknown, CategorySpec.blocksOf,
        List.mem_filter, decide_eq_true_iff, and_assoc]
      rfl
    rw [hblocks] at hrefused ⊢
    exact exists_block_of_blocksSteady hlearns hgates.2 hrefused

/-- All a dishwasher says is that it is switched off. -/
def onlyPower : DeviceState where
  thingCode := "D"
  attributes := Dict.ofList [("power", .str "0")]

/-- It also reports the rest of its last cycle, and an open door. -/
def leftovers : DeviceState where
  thingCode := "D"
  attributes := Dict.ofList
    [("power", .str "0"), ("runState", .str "1"), ("washingState", .str "2"),
      ("doorstatus", .str "0")]

/-- The run switch shows nothing and refuses its writes, however much is reported beside. -/
theorem gating_leftovers :
    ((ModelledEntity.switch runSwitch).base "D").isMeaningful
      (switchedOff.withSnapshot "D" leftovers) = false ∧
    ((ModelledEntity.switch runSwitch).base "D").Refused
      (switchedOff.withSnapshot "D" leftovers) := by
  have hmore : ReportsMore onlyPower leftovers := by
    intro key value hvalue
    rw [onlyPower, Dict.get?_ofList, Dict.written_cons, Dict.written_nil, Option.none_or] at hvalue
    split at hvalue
    next hkey =>
      rw [hkey, ← hvalue]
      decide +kernel
    next => cases hvalue
  have hswitch : (ModelledEntity.switch runSwitch).Of Registry.dishwasher :=
    List.mem_cons_of_mem _ List.mem_cons_self
  have hdevice : switchedOff.devices.get? "D" = some (appliance "D" "0xE1") := by decide +kernel
  have hgating := gating_of_reportsMore List.mem_cons_self hswitch hdevice rfl hmore
  exact ⟨hgating.1 (by decide +kernel), hgating.2 ⟨"appliance_off", by decide +kernel⟩⟩

end Holabrain
