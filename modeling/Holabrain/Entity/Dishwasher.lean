import Holabrain.Entity.Gate

/-!
# The dishwasher's composed start

Programme, extra option, wash zone and the run command go out as one instruction, from the
staged values or from what the appliance reports.
-/

namespace Holabrain

open Coordinator

namespace DishwasherConfig

def doorKey : String := "doorstatus"

def doorOpen : String := "0"

/-- `build_start_instruction`. -/
def buildStartInstruction (cfg : DishwasherConfig) (programCode extraCode : String)
    (zoneCode : Option String) : Members :=
  let zone : Members := match zoneCode with
    | some code => [(cfg.zoneKey, .str code)]
    | none => []
  (Dict.ofList ([(cfg.modeKey, Json.str programCode), (cfg.extraKey, .str extraCode),
    (cfg.powerKey, .str cfg.startValue)] ++ zone)).items

section Instruction

variable (programs zones : List (String × String)) (extras : List (String × String × String))
  (programCode extraCode : String) (zoneCode : Option String)

/-- Programme, extra and the run command are always there, the zone where there is one. -/
theorem get_buildStartInstruction (key : String) :
    (buildStartInstruction { programs := programs, extras := extras, zones := zones } programCode
      extraCode zoneCode).get key =
        if key = "modeEU" then .str programCode
        else if key = "addFuncEU" then .str extraCode
        else if key = "power" then .str "3"
        else if key = "washArea" then (zoneCode.map Json.str).getD .null
        else .null := by
  simp only [buildStartInstruction, Members.get_ofList_items]
  rw [Members.get_eq_written]
  cases zoneCode with
  | none =>
      simp only [List.append_nil, Dict.written_cons, Dict.written_nil]
      split_ifs <;> simp_all
  | some code =>
      simp only [List.cons_append, List.nil_append, Dict.written_cons, Dict.written_nil]
      split_ifs <;> simp_all

/-- The zone key is there on models that have zones. -/
theorem zoneKey_mem_buildStartInstruction :
    "washArea" ∈ (buildStartInstruction
      { programs := programs, extras := extras, zones := zones } programCode extraCode
      zoneCode).map Prod.fst ↔ zoneCode.isSome := by
  simp only [buildStartInstruction, Dict.mem_map_fst_items, Dict.mem_ofList]
  cases zoneCode with
  | none => simp
  | some code => simp

end Instruction

/-- An entity of the composer. -/
def entity (_ : DishwasherConfig) (thingCode key : String) : HolabrainEntity where
  thingCode := thingCode
  key := key

/-- `_staged_or_reported`. -/
def stagedOrReported (dishwasher : HolabrainEntity) (w : World) (key : String) : Option String :=
  textOf (dishwasher.stagedValue w key)

theorem stagedOrReported_of_staged {dishwasher : HolabrainEntity} {w : World}
    {thingCode key value : String} (hcode : dishwasher.thingCode = thingCode)
    (hstaged : (w.draft thingCode).get? key = some value) :
    stagedOrReported dishwasher w key = some value := by
  rw [stagedOrReported, HolabrainEntity.stagedValue, hcode, hstaged]
  rfl

/-- `value or default`. -/
def orDefault (value : Option String) (default : String) : String :=
  match value with
  | none => default
  | some s => if s = "" then default else s

theorem orDefault_mem_iff {codes : List String} {value : Option String} {default : String}
    (hdefault : default ∈ codes) :
    orDefault value default ∈ codes ↔ ∀ code, value = some code → code = "" ∨ code ∈ codes := by
  cases value with
  | none => simp [orDefault, hdefault]
  | some code =>
      by_cases hcode : code = ""
      · simp [orDefault, hcode, hdefault]
      · simp [orDefault, hcode]

/-! ### What is offered -/

/-- `_programs`: the model's own table, as far as the category knows it, or the category's. -/
def modelPrograms (cfg : DishwasherConfig) (thingCode : String) (w : World) : Dict String Json :=
  let codes := match w.capabilityFor thingCode with
    | none => Dict.empty
    | some profile => profile.modeCodes
  let available := codes.filterKeys fun label => decide (label ∈ cfg.programs.map Prod.fst)
  if available.isEmpty then Dict.ofList (cfg.programs.map fun e => (e.1, Json.str e.2))
  else available

/-- `_available_extras`. -/
def availableExtras (cfg : DishwasherConfig) (thingCode : String) (w : World) :
    Dict String String :=
  Dict.ofList ((cfg.extras.filter fun e => supports w thingCode e.2.2).map fun e => (e.1, e.2.1))

/-- `_choices` of the extra option. -/
def choices (cfg : DishwasherConfig) (thingCode : String) (w : World) : Dict String String :=
  Dict.update (Dict.ofList [("none", cfg.noExtraCode)]) (cfg.availableExtras thingCode w).items

/-! ### The selects -/

/-- `async_select_option` of `HolabrainDishwasherProgram`. -/
def selectProgram (cfg : DishwasherConfig) (thingCode option : String) (w : World) : World :=
  match ((cfg.modelPrograms thingCode w).get? option).bind textOf with
  | none => w
  | some code => stage thingCode [(cfg.modeKey, code)] w

/-- `async_select_option` of `HolabrainDishwasherExtra`. -/
def selectExtra (cfg : DishwasherConfig) (thingCode option : String) (w : World) : World :=
  match (cfg.choices thingCode w).get? option with
  | none => w
  | some code => stage thingCode [(cfg.extraKey, code)] w

/-- `async_select_option` of `HolabrainDishwasherZone`. -/
def selectZone (cfg : DishwasherConfig) (thingCode option : String) (w : World) : World :=
  match (Dict.ofList cfg.zones).get? option with
  | none => w
  | some code => stage thingCode [(cfg.zoneKey, code)] w

section Shown

variable (cfg : DishwasherConfig) (dishwasher : HolabrainEntity) (w : World)

/-- `current_option` of the programme: the first one of the staged or reported code. -/
def currentProgram : Option String :=
  (stagedOrReported dishwasher w cfg.modeKey).bind fun code =>
    ((cfg.modelPrograms dishwasher.thingCode w).items.find? fun e =>
      decide (e.2 = .str code)).map Prod.fst

/-- `current_option` of the extra option. -/
def currentExtra : Option String :=
  (stagedOrReported dishwasher w cfg.extraKey).bind fun code =>
    ((cfg.choices dishwasher.thingCode w).items.find? fun e => decide (e.2 = code)).map Prod.fst

/-- `current_option` of the wash zone. -/
def currentZone : Option String :=
  (stagedOrReported dishwasher w cfg.zoneKey).bind fun code =>
    ((Dict.ofList cfg.zones).items.find? fun e => decide (e.2 = code)).map Prod.fst

end Shown

/-! ### The start -/

/-- The zone of the instruction, on models that have one. -/
def zoneCode (cfg : DishwasherConfig) (dishwasher : HolabrainEntity) (w : World) :
    Option String :=
  match w.capabilityFor dishwasher.thingCode with
  | none => none
  | some profile =>
      if profile.supports cfg.zoneCapability then
        some (orDefault (stagedOrReported dishwasher w cfg.zoneKey) cfg.defaultZone)
      else none

/-- `async_press` of `HolabrainDishwasherStart`. -/
def asyncPress (cfg : DishwasherConfig) (thingCode : String) : CoordM Unit := do
  let dishwasher := cfg.entity thingCode cfg.modeKey
  let w ← Coro.gets id
  match stagedOrReported dishwasher w cfg.modeKey with
  | none => throw (.serviceValidation "no_program")
  | some programCode =>
      if (dishwasher.value w doorKey).pyStr = doorOpen then
        throw (.serviceValidation "door_open")
      else
        dishwasher.asyncSend (cfg.buildStartInstruction programCode
          (orDefault (stagedOrReported dishwasher w cfg.extraKey) cfg.noExtraCode)
          (cfg.zoneCode dishwasher w))
        Coro.modify (clearDraft thingCode)
        Coro.modify fun w => w.schedule .requestRefresh

end DishwasherConfig

end Holabrain
