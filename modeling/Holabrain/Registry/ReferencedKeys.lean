import Mathlib.Data.List.Find
import Holabrain.Registry.Tables

/-!
# The status keys a category uses

`referenced_keys` gathers every status key that a category names anywhere.  The diagnostic
fallback offers a sensor for each reported key that is not among them.
-/

namespace Holabrain

/-! ## Keys of conditions -/

mutual

/-- `Cond.keys`. -/
def Cond.keys : Cond → List String
  | .is key _ => [key]
  | .between key _ _ => [key]
  | .missing key => [key]
  | .programAllows _ _ => []
  | .not inner => Cond.keys inner
  | .allOf parts => Cond.allKeys parts
  | .anyOf parts => Cond.allKeys parts

def Cond.allKeys : List Cond → List String
  | [] => []
  | part :: rest => Cond.keys part ++ Cond.allKeys rest

end

/-- `Gates.keys`. -/
def Gates.keys (gates : Gates) : List String :=
  gates.meaningfulWhen.toList.flatMap Cond.keys ++
    gates.blocks.flatMap fun block => block.when.keys

section Congruence

variable {ctx ctx' : GateContext}

mutual

/-- A condition asks for its keys, and for nothing else of the snapshot. -/
theorem Cond.holds_congr (hprogram : ctx.programAllows = ctx'.programAllows) :
    ∀ condition : Cond, (∀ key ∈ condition.keys, ctx.value key = ctx'.value key) →
      condition.holds ctx = condition.holds ctx'
  | .is key values, h => by rw [Cond.holds, Cond.holds, h key List.mem_cons_self]
  | .between key low high, h => by rw [Cond.holds, Cond.holds, h key List.mem_cons_self]
  | .missing key, h => by rw [Cond.holds, Cond.holds, h key List.mem_cons_self]
  | .programAllows flag param, _ => by rw [Cond.holds, Cond.holds, hprogram]
  | .not inner, h => by rw [Cond.holds, Cond.holds, Cond.holds_congr hprogram inner h]
  | .allOf parts, h => by rw [Cond.holds, Cond.holds, Cond.verdicts_congr hprogram parts h]
  | .anyOf parts, h => by rw [Cond.holds, Cond.holds, Cond.verdicts_congr hprogram parts h]

theorem Cond.verdicts_congr (hprogram : ctx.programAllows = ctx'.programAllows) :
    ∀ parts : List Cond, (∀ key ∈ Cond.allKeys parts, ctx.value key = ctx'.value key) →
      Cond.verdicts ctx parts = Cond.verdicts ctx' parts
  | [], _ => rfl
  | part :: rest, h => by
      rw [Cond.verdicts, Cond.verdicts,
        Cond.holds_congr hprogram part fun key hkey => h key (List.mem_append_left _ hkey),
        Cond.verdicts_congr hprogram rest fun key hkey => h key (List.mem_append_right _ hkey)]

end

/-- The state depends on the keys of the rules. -/
theorem resolveState_congr (hprogram : ctx.programAllows = ctx'.programAllows)
    {rules : List StateRule}
    (h : ∀ key ∈ rules.flatMap fun rule => rule.when.keys, ctx.value key = ctx'.value key) :
    resolveState rules ctx = resolveState rules ctx' := by
  rw [resolveState, resolveState]
  apply congrArg (Option.map StateRule.name)
  apply List.find?_congr
  intro rule hrule
  rw [Cond.holds_congr hprogram rule.when]
  intro key hkey
  exact h key (List.mem_flatMap.mpr ⟨rule, hrule, hkey⟩)

/-- The verdicts attached to an entity depend on the keys of its gates. -/
theorem Gates.verdicts_congr (hprogram : ctx.programAllows = ctx'.programAllows)
    (gates : Gates) (h : ∀ key ∈ gates.keys, ctx.value key = ctx'.value key) :
    (∀ default, holdsOr gates.meaningfulWhen ctx default =
      holdsOr gates.meaningfulWhen ctx' default) ∧
      ∀ block ∈ gates.blocks, block.when.holds ctx = block.when.holds ctx' := by
  constructor
  · intro default
    cases hgate : gates.meaningfulWhen with
    | none => rfl
    | some condition =>
        have hkeys : ∀ key ∈ condition.keys, ctx.value key = ctx'.value key := by
          intro key hkey
          apply h
          rw [Gates.keys, hgate]
          exact List.mem_append_left _ (by simpa using hkey)
        rw [holdsOr, holdsOr, Cond.holds_congr hprogram condition hkeys]
  · intro block hblock
    apply Cond.holds_congr hprogram
    intro key hkey
    apply h
    rw [Gates.keys]
    exact List.mem_append_right _ (List.mem_flatMap.mpr ⟨block, hblock, hkey⟩)

end Congruence

/-- `keys` tells the truth: two contexts that answer alike on the keys of a condition, of a
rule list or of an entity's gates, and on the programme, give it the same verdicts. -/
theorem keys_determine_verdicts (ctx ctx' : GateContext)
    (hprogram : ctx.programAllows = ctx'.programAllows) :
    (∀ condition : Cond, (∀ key ∈ condition.keys, ctx.value key = ctx'.value key) →
      condition.holds ctx = condition.holds ctx') ∧
    (∀ rules : List StateRule,
      (∀ key ∈ rules.flatMap fun rule => rule.when.keys, ctx.value key = ctx'.value key) →
      resolveState rules ctx = resolveState rules ctx') ∧
    ∀ gates : Gates, (∀ key ∈ gates.keys, ctx.value key = ctx'.value key) →
      (∀ default, holdsOr gates.meaningfulWhen ctx default =
        holdsOr gates.meaningfulWhen ctx' default) ∧
      ∀ block ∈ gates.blocks, block.when.holds ctx = block.when.holds ctx' :=
  ⟨Cond.holds_congr hprogram, fun _ => resolveState_congr hprogram,
    Gates.verdicts_congr hprogram⟩

/-- An oven that reports its door open, with and without the temperature it is set to. -/
theorem keys_determine_verdicts_door :
    (Cond.is "doorStatus" ["1"]).holds
        ⟨fun key => if key = "doorStatus" then some "1" else none, fun _ _ => true⟩ =
      (Cond.is "doorStatus" ["1"]).holds
        ⟨fun key => if key = "doorStatus" then some "1" else some "180", fun _ _ => true⟩ := by
  refine (keys_determine_verdicts _ _ (by rfl)).1 _ ?_
  intro key hkey
  rw [Cond.keys, List.mem_singleton] at hkey
  simp [hkey]

/-! ## Keys of configurations -/

section ConfigKeys

/-- `_config_keys` of each configuration: the fields named `…_key` and `…_keys`, and the keys
inside the two tuples that have no such name. -/
def LightConfig.configKeys (cfg : LightConfig) : List String :=
  cfg.powerKey :: cfg.brightnessKey.toList ++ cfg.colorTempKey.toList ++ cfg.effectKey.toList

def WaterHeaterConfig.configKeys (cfg : WaterHeaterConfig) : List String :=
  cfg.powerKey :: cfg.currentTempKeys ++ [cfg.targetTempKey] ++
    cfg.operationFlags.map Prod.fst ++ cfg.tempLockedWhen.toList.map Prod.fst

def ClimateConfig.configKeys (cfg : ClimateConfig) : List String :=
  [cfg.powerKey, cfg.modeKey, cfg.targetTempKey] ++ cfg.currentTempKey.toList ++ [cfg.fanKey]

def OvenConfig.configKeys (cfg : OvenConfig) : List String :=
  [cfg.modeKey, cfg.tempKey, cfg.lowerTempKey, cfg.timeKey, cfg.probeKey, cfg.preheatKey]

def DishwasherConfig.configKeys (cfg : DishwasherConfig) : List String :=
  [cfg.modeKey, cfg.extraKey, cfg.zoneKey, cfg.powerKey]

end ConfigKeys

/-- `_TRANSFORM_COMPANION_KEYS`. -/
def companionKeys : Option String → List String
  | some "remain_minutes" => ["remainTimeH"]
  | _ => []

/-! ## `referenced_keys` -/

namespace CategorySpec

/-- Every key, the virtual ones included. -/
def namedKeys (spec : CategorySpec) : List String :=
  spec.sensors.flatMap (fun d => d.key :: d.gates.keys ++ companionKeys d.transform) ++
    spec.binarySensors.flatMap (fun d => d.key :: d.gates.keys ++ d.summaryKey.toList) ++
    spec.switches.flatMap (fun d => d.key :: d.gates.keys) ++
    spec.selects.flatMap (fun d => d.key :: d.gates.keys ++ [d.commandKey]) ++
    spec.numbers.flatMap (fun d => d.key :: d.gates.keys ++ [d.commandKey]) ++
    spec.buttons.flatMap (fun d => d.key :: d.gates.keys) ++
    spec.light.toList.flatMap LightConfig.configKeys ++
    spec.waterHeater.toList.flatMap WaterHeaterConfig.configKeys ++
    spec.climate.toList.flatMap ClimateConfig.configKeys ++
    spec.oven.toList.flatMap OvenConfig.configKeys ++
    spec.dishwasher.toList.flatMap DishwasherConfig.configKeys ++
    spec.states.flatMap (fun rule => rule.when.keys) ++
    spec.guard.flatMap (fun block => block.when.keys) ++
    spec.snapshotAfter.toList.map SnapshotTrigger.key

/-- `referenced_keys`. -/
def referencedKeys (spec : CategorySpec) : Finset String :=
  (spec.namedKeys.filter fun key => !decide ("@".toList <+: key.toList)).toFinset

end CategorySpec

end Holabrain
