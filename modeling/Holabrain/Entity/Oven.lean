import Holabrain.Entity.Gate

/-!
# The oven's composed start

The oven's controls stage their values; the start button submits them as one cook
instruction, with what the appliance reports wherever nothing is staged.
-/

namespace Holabrain

open Coordinator

namespace OvenConfig

def paramNonDegree : String := "non_degree_modes"

def paramNonPreheat : String := "non_preheat_modes"

/-- The keys of the step of a cook instruction as they are written, before they become a
dictionary. -/
def stepMembers (cfg : OvenConfig) (program : OvenProgram) (temperature minutes : ℤ)
    (probe : Option ℤ) (preheat withTemperature withPreheat : Bool) : Members :=
  [(cfg.preheatKey, .str (if preheat && withPreheat then "1" else "0")),
    (cfg.modeKey, .str program.code),
    (cfg.timeKey, .str (toString (max minutes 0 * 60))),
    ("fire", .str cfg.fire), ("size", .str cfg.size), ("nextAction", .str cfg.nextAction)] ++
  if withTemperature then
    [(cfg.tempKey, .str (toString temperature)), (cfg.lowerTempKey, .str (toString temperature)),
      (cfg.probeKey, .str (toString (probe.getD temperature)))]
  else []

/-- `build_cook_instruction`. -/
def buildCookInstruction (cfg : OvenConfig) (program : OvenProgram) (temperature minutes : ℤ)
    (probe : Option ℤ) (preheat withTemperature withPreheat : Bool) : Members :=
  let step := cfg.stepMembers program temperature minutes probe preheat withTemperature withPreheat
  [("currentCook", .str "1"), ("totalCook", .str "1"),
    ("menu", .arr [.obj (Dict.ofList step).items])]

/-- The single step of a cook instruction. -/
def cookStep (instruction : Members) : Members :=
  match instruction.get "menu" with
  | .arr [.obj step] => step
  | _ => []

theorem get_cookStep (cfg : OvenConfig) (program : OvenProgram) (temperature minutes : ℤ)
    (probe : Option ℤ) (preheat withTemperature withPreheat : Bool) (key : String) :
    (cookStep (cfg.buildCookInstruction program temperature minutes probe preheat
      withTemperature withPreheat)).get key =
    (cfg.stepMembers program temperature minutes probe preheat withTemperature
      withPreheat).get key := by
  rw [← Members.get_ofList_items (cfg.stepMembers ..)]
  apply congrArg fun step => Members.get step key
  simp [cookStep, buildCookInstruction, Members.get]

section Step

variable (programs : List (String × OvenProgram)) (program : OvenProgram)
  (temperature minutes : ℤ) (probe : Option ℤ) (preheat withTemperature withPreheat : Bool)

theorem get_modeKey :
    (stepMembers { programs := programs } program temperature minutes probe preheat
      withTemperature withPreheat).get "cookMode" = .str program.code := by
  cases withTemperature <;> simp [stepMembers, Members.get]

theorem get_preheatKey :
    (stepMembers { programs := programs } program temperature minutes probe preheat
      withTemperature withPreheat).get "preHeat" =
        .str (if preheat && withPreheat then "1" else "0") := by
  cases withTemperature <;> simp [stepMembers, Members.get]

theorem get_timeKey :
    (stepMembers { programs := programs } program temperature minutes probe preheat
      withTemperature withPreheat).get "cookTime" = .str (toString (max minutes 0 * 60)) := by
  cases withTemperature <;> simp [stepMembers, Members.get]

/-- The temperature keys are there together, or none of them is. -/
theorem get_tempKeys {key : String} (hkey : key = "upperTemp" ∨ key = "lowerTemp") :
    (stepMembers { programs := programs } program temperature minutes probe preheat
      withTemperature withPreheat).get key =
        if withTemperature then .str (toString temperature) else .null := by
  obtain rfl | rfl := hkey <;> cases withTemperature <;> simp [stepMembers, Members.get]

theorem get_probeKey :
    (stepMembers { programs := programs } program temperature minutes probe preheat
      withTemperature withPreheat).get "probeTemp" =
        if withTemperature then .str (toString (probe.getD temperature)) else .null := by
  cases withTemperature <;> simp [stepMembers, Members.get]

theorem stepMembers_ne_null (cfg : OvenConfig) :
    ∀ e ∈ cfg.stepMembers program temperature minutes probe preheat withTemperature withPreheat,
      e.2 ≠ .null := by
  cases withTemperature <;> simp [stepMembers]

end Step

/-- An entity of the composer. -/
def entity (_ : OvenConfig) (thingCode key : String) : HolabrainEntity where
  thingCode := thingCode
  key := key

section Lookups

variable (cfg : OvenConfig) (oven : HolabrainEntity) (w : World)

/-- `_by_code`. -/
def byCode : Dict String String := Dict.ofList (cfg.programs.map fun e => (e.2.code, e.1))

/-- `_label`: the programme being composed, staged if chosen, else the appliance's. -/
def label : Option String := cfg.byCode.get? (oven.stagedValue w cfg.modeKey).pyStr

/-- `_program`. -/
def program : Option OvenProgram :=
  match cfg.label oven w with
  | none => none
  | some label => if label = "" then none else (Dict.ofList cfg.programs).get? label

/-- Where no label stands twice, the programme is one of the table, and its code is the one
that is staged or reported. -/
theorem mem_of_program_eq_some {cfg : OvenConfig} {oven : HolabrainEntity} {w : World}
    {program : OvenProgram} (hlabels : (cfg.programs.map Prod.fst).Nodup)
    (h : cfg.program oven w = some program) :
    (∃ label, cfg.label oven w = some label ∧ (label, program) ∈ cfg.programs) ∧
      program.code = (oven.stagedValue w cfg.modeKey).pyStr := by
  rw [OvenConfig.program] at h
  cases hlabel : cfg.label oven w with
  | none =>
      rw [hlabel] at h
      cases h
  | some label =>
      rw [hlabel] at h
      dsimp only at h
      split at h
      · cases h
      · rw [Dict.get?_ofList] at h
        have hprogram := Dict.mem_of_written h
        rw [OvenConfig.label, OvenConfig.byCode, Dict.get?_ofList] at hlabel
        obtain ⟨e, he, heq⟩ := List.mem_map.mp (Dict.mem_of_written hlabel)
        obtain ⟨hcode, hname⟩ := Prod.mk.inj heq
        have hentry : e = (label, program) :=
          List.inj_on_of_nodup_map hlabels he hprogram hname
        rw [hentry] at hcode
        exact ⟨⟨label, rfl, hprogram⟩, hcode⟩

/-- `_mode_allows`: the model's own exclusion list wins where the profile carries one. -/
def modeAllows (param : String) (fallback : Bool) : Bool :=
  match (w.capabilityFor oven.thingCode).bind fun profile => profile.param param,
    cfg.label oven w with
  | some (.arr excluded), some label => !decide (Json.str label ∈ excluded)
  | _, _ => fallback

/-- `_temp_allowed`. -/
def tempAllowed : Bool :=
  match cfg.program oven w with
  | none => false
  | some program => cfg.modeAllows oven w paramNonDegree program.supportsTemp

/-- `_preheat_allowed`. -/
def preheatAllowed : Bool :=
  match cfg.program oven w with
  | none => false
  | some program => cfg.modeAllows oven w paramNonPreheat program.supportsPreheat

/-- `_staged_int`. -/
def stagedInt (key : String) : Except Exn (Option ℤ) := toIntOrNone (oven.stagedValue w key)

/-- `_minutes`: staged in minutes, reported in seconds. -/
def minutes : Except Exn ℤ :=
  match (w.draft oven.thingCode).get? cfg.timeKey with
  | some staged => (toIntOrNone (.str staged)).map fun n => n.getD 0
  | none => (toIntOrNone (oven.value w cfg.timeKey)).map fun seconds => match seconds with
      | none => cfg.defaultMinutes
      | some seconds => seconds / 60

/-- `bool(_preheat_on)`. -/
def preheatOn : Bool :=
  match oven.stagedValue w cfg.preheatKey with
  | .null => false
  | raw => decide (raw.pyStr = "1")

/-- `staged or default` for an optional integer. -/
def orDefault (staged : Option ℤ) (default : ℤ) : ℤ :=
  match staged with
  | none => default
  | some n => if n = 0 then default else n

/-- The instruction that a press submits for a programme. -/
def cookInstruction (program : OvenProgram) : Except Exn Members := do
  let temperature ← stagedInt oven w cfg.tempKey
  let minutes ← cfg.minutes oven w
  let probe ← stagedInt oven w cfg.probeKey
  return cfg.buildCookInstruction program (orDefault temperature program.defaultTemp) minutes probe
    (cfg.preheatOn oven w) (cfg.tempAllowed oven w) (cfg.preheatAllowed oven w)

end Lookups

/-! ### The controls -/

/-- `async_select_option` of `HolabrainOvenMode`: a mode comes with its default setpoint. -/
def selectMode (cfg : OvenConfig) (thingCode option : String) (w : World) : World :=
  match (Dict.ofList cfg.programs).get? option with
  | none => w
  | some program => stage thingCode ((cfg.modeKey, program.code) ::
      if program.supportsTemp then [(cfg.tempKey, toString program.defaultTemp)] else []) w

/-- `async_set_native_value` of the temperature, the duration and the food probe. -/
def setNumber (thingCode key : String) (value : Double) (w : World) : Except Exn World :=
  value.toInt.map fun n => stage thingCode [(key, toString n)] w

/-- `async_turn_on` and `async_turn_off` of `HolabrainOvenPreheat`. -/
def setPreheat (cfg : OvenConfig) (thingCode : String) (on : Bool) (w : World) : World :=
  stage thingCode [(cfg.preheatKey, if on then "1" else "0")] w

section Ranges

variable (cfg : OvenConfig) (oven : HolabrainEntity) (w : World)

/-- `native_min_value` and `native_max_value` of the temperature. -/
def temperatureRange : ℤ × ℤ :=
  match cfg.program oven w with
  | none => (30, 250)
  | some program => (program.minTemp, program.maxTemp)

/-- `native_max_value` of the duration; its minimum is zero. -/
def maxMinutes : ℤ :=
  match cfg.program oven w with
  | none => 300
  | some program => program.maxMinutes

/-- `native_step` of the temperature. -/
def temperatureStep : ℤ :=
  match cfg.program oven w with
  | none => 5
  | some program => program.tempStep

/-- `native_value` of the temperature. -/
def temperatureValue : Except Exn (Option ℤ) :=
  (stagedInt oven w cfg.tempKey).map fun staged => match staged with
    | some n => some n
    | none => (cfg.program oven w).map OvenProgram.defaultTemp

/-- `native_value` of the food probe. -/
def probeValue : Except Exn ℤ :=
  (stagedInt oven w cfg.probeKey).map fun staged => staged.getD cfg.probeDefaultTemp

/-- `_preheat_on`. -/
def preheatIsOn : Option Bool :=
  (textOf (oven.stagedValue w cfg.preheatKey)).map fun raw => decide (raw = "1")

end Ranges

/-- `async_press` of `HolabrainOvenStart`. -/
def asyncPress (cfg : OvenConfig) (thingCode : String) : CoordM Unit := do
  let oven := cfg.entity thingCode cfg.modeKey
  let w ← Coro.gets id
  match cfg.program oven w with
  | none => throw (.serviceValidation "no_cook_mode")
  | some program =>
      let instruction ← Coro.ofExcept (cfg.cookInstruction oven w program)
      oven.asyncSend instruction
      Coro.modify (clearDraft thingCode)
      Coro.modify fun w => w.schedule .requestRefresh

end OvenConfig

end Holabrain
