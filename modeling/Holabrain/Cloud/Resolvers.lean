import Mathlib.Data.List.MinMax
import Holabrain.Cloud.Bitfield
import Holabrain.Cloud.Presence

/-!
# The resolvers of the default chains

Beside the presence resolver there are three more: the per-model dictionary of the cloud, the
packed descriptor in the metadata of an air conditioner, and the tables that are fixed per
family and model.
-/

namespace Holabrain

/-! ## The capability dictionary -/

/-- `async_resolve` of `DictGetResolver`, with the features and parameters that are read out of
the cloud's answer for a model left open. -/
def dictResolve (dictionary : String → Except Exn (Finset String × Dict String Json))
    (ctx : ResolutionContext) : Except Exn (Option CapabilityProfile) :=
  if ctx.model = "" then .ok none
  else (dictionary ctx.model).map fun parsed => some
    { model := ctx.model, features := parsed.1, params := parsed.2, deviceType := ctx.deviceType }

/-! ## The packed descriptor -/

def acFlagAliases : Dict String String :=
  Dict.ofList
    [("isEcoFunc", "eco"), ("is8DegreeHeatFunc", "heat_8c"), ("isStrong", "boost"),
      ("iselectricityStauts", "power_meter"), ("isColdandWarm", "heat"),
      ("isSmoothWind", "stepless_fan"), ("isDecimalTemp", "decimal_temp"),
      ("isSwingWind", "swing"), ("isSelfCleaning", "self_clean"), ("isSmartEye", "smart_eye"),
      ("isWindNOTBreezed", "wind_not_breezed"), ("isWindBreezed", "wind_breezed"),
      ("isLightControl", "led_display"), ("isfourLouver", "four_louver"),
      ("isWaterTankControl", "water_tank"), ("iswindSoftCtrl", "wind_soft"),
      ("isWetted", "evaporator_dry"), ("isAnion", "anion"), ("isTwinsDevice", "twin_unit"),
      ("iswindNoneCtrl", "no_wind_sense"), ("notWindStatus", "up_direct_blow"),
      ("isRoundWindStatus", "round_wind"), ("isUnDirectBlow", "prevent_straight_wind"),
      ("isFilterScreen", "filter_screen"), ("isFahrenheit", "fahrenheit"),
      ("isBuzzer", "buzzer")]

/-- `_first_str`. -/
def firstStr (source : Dict String Json) (keys : List String) : Option String :=
  keys.findSome? fun key => match source.get? key with
    | some (.str s) => if pyStrip s = "" then none else some s
    | _ => none

/-- `_sane_temp`. -/
def saneTemp (value : Option ℕ) (fallback : ℤ) : ℤ :=
  match value with
  | some n => if 5 ≤ n ∧ n ≤ 40 then n else fallback
  | none => fallback

/-- The flags of a decoded record: every field that is set and not reserved, under its own
name and its alias. -/
def decodedFeatures (decoded : Dict String ℕ) : Finset String :=
  (decoded.items.flatMap fun field =>
    if "isReserve".toList.isPrefixOf field.1.toList ∨ field.2 = 0 then []
    else field.1 :: (acFlagAliases.get? field.1).toList).toFinset

/-- `async_resolve` of `BitfieldResolver`, as it is built by default. -/
def bitfieldResolve (ctx : ResolutionContext) : Except Exn (Option CapabilityProfile) :=
  match firstStr ctx.metadata ["dynamicAttr", "manualDynamicAttr"] with
  | none => .ok (some
      { model := ctx.model
        features := ∅
        params := Dict.ofList [("temp_min", .int 17), ("temp_max", .int 30)]
        deviceType := ctx.deviceType
        sources := [Resolver.bitfield.name] })
  | some blob => match decodeBitfield (.text blob) with
      | .error err => .error (.dollin err)
      | .ok decoded =>
          let features := decodedFeatures decoded
          let step : Json :=
            if "decimal_temp" ∈ features then .float (.finite ⟨false, 5, -1⟩) else .int 1
          .ok (some
            { model := ctx.model
              features := features
              params := Dict.ofList
                [("temp_min", .int (saneTemp (decoded.get? "tempMinimum") 17)),
                  ("temp_max", .int (saneTemp (decoded.get? "tempMaximum") 30)),
                  ("temp_step", step)]
              deviceType := ctx.deviceType
              sources := [Resolver.bitfield.name] })

/-! ## The static tables -/

/-- Capabilities that are constant for a model or a group of models. -/
structure StaticVariant where
  features : Finset String := ∅
  params : Dict String Json := Dict.empty

/-- What holds for a family, and what a model adds to it. -/
structure StaticTable where
  base : StaticVariant := {}
  variants : Dict String StaticVariant := Dict.empty

/-- `variant_for`: the model's own entry, else the one under its longest listed beginning. -/
def StaticTable.variantFor (table : StaticTable) (model : String) : Option StaticVariant :=
  if model = "" then none
  else match table.variants.get? model with
    | some exact => some exact
    | none =>
        ((table.variants.keys.filter fun key => key.toList.isPrefixOf model.toList).argmax
          String.length).bind table.variants.get?

/-- A list of texts as a parameter. -/
def texts (items : List String) : Json := .arr (items.map .str)

def lampStatic : StaticTable where
  base :=
    { features := {"brightness", "color_temp", "scene_modes"}
      params := Dict.ofList
        [("scene_modes", texts ["manual", "life", "read", "soft", "cinema", "night"]),
          ("kelvin_min", .int 2700), ("kelvin_max", .int 6500)] }
  variants := Dict.ofList [("79010863", { features := {"fan_light", "thermostat"} })]

def ovenStatic : StaticTable where
  base :=
    { features := {"menu_cook", "preheat", "degree", "child_lock"}
      params := Dict.ofList
        [("non_degree_modes", texts ["defrost"]),
          ("non_preheat_modes", texts ["eco", "defrost", "fermentation", "keep_warm"])] }

def washerStatic : StaticTable where
  base :=
    { features := {"program", "temperature", "spin", "extra_rinse", "child_lock"}
      params := Dict.ofList
        [("temp_non_show", texts ["dry", "rinse_spin", "spin_only"]),
          ("dry_level_non_show", texts ["quick", "wool", "rinse_spin", "spin_only", "drum_clean"]),
          ("speed_wash_show", texts ["steam_wash", "synthetic", "mix", "cotton", "my_cycle"]),
          ("auto_dose_non_show", texts ["dry", "spin_only", "drum_clean"]),
          ("extra_rinse_non_show", texts ["dry", "spin_only", "drum_clean"])] }
  variants := Dict.ofList
    [("38127413", { params := Dict.ofList [("capacity_kg", .int 12)] }),
      ("38127414", { params := Dict.ofList [("capacity_kg", .int 10)] })]

/-- The temperature window of a water heater. -/
def waterHeaterRange (low high : ℤ) : Dict String Json :=
  Dict.ofList [("temp_min", .int low), ("temp_max", .int high)]

def waterHeaterStatic : StaticTable where
  base :=
    { features := {"power", "target_temp", "mode_smart_eco"}, params := waterHeaterRange 30 80 }
  variants := Dict.ofList
    [("51020ED1",
        { features := {"timing", "disinfect", "dual_tank", "high_temp"}
          params := waterHeaterRange 35 75 }),
      ("510214FN",
        { features := {"heat_half", "eplus", "efficient", "night", "sterilization"}
          params := waterHeaterRange 30 75 }),
      ("510214HB",
        { features := {"heat_half", "eplus", "efficient", "night", "sterilization", "protect",
            "smart_sterilize", "frequency_hot"}
          params := waterHeaterRange 30 75 }),
      ("5102152H",
        { features := {"heat_half", "eplus", "efficient", "night", "sterilization", "protect",
            "smart_sterilize", "frequency_hot"}
          params := waterHeaterRange 30 75 }),
      ("51001938", { params := waterHeaterRange 30 75 })]

/-- The table of the static resolver in the chain of a device type. -/
def staticTable (deviceType : String) : StaticTable :=
  match deviceType with
  | "0x13" => lampStatic
  | "0xB1" => ovenStatic
  | "0xDB" => washerStatic
  | "0xE2" => waterHeaterStatic
  | _ => {}

/-- `async_resolve` of `StaticResolver`. -/
def staticResolve (table : StaticTable) (ctx : ResolutionContext) :
    Except Exn (Option CapabilityProfile) :=
  let variant := (table.variantFor ctx.model).getD {}
  let features := table.base.features ∪ variant.features
  let params := table.base.params.update variant.params.items
  if features = ∅ ∧ params.isEmpty then .ok none
  else .ok (some
    { model := ctx.model
      features := features
      params := params
      deviceType := ctx.deviceType
      sources := [Resolver.static.name] })

/-! ## All of them -/

/-- What the resolvers of the default chains answer: the dictionary as the cloud has it, and the
status provider as the appliance is asked. -/
def clientAnswers (dictionary : String → Except Exn (Finset String × Dict String Json))
    (provided : String → Except Exn (Dict String Json)) (resolver : Resolver)
    (ctx : ResolutionContext) : Except Exn (Option CapabilityProfile) :=
  if resolver = .dict then dictResolve dictionary ctx
  else if resolver = .bitfield then bitfieldResolve ctx
  else if resolver = .static then staticResolve (staticTable ctx.deviceType) ctx
  else presenceResolve (presenceRules ctx.deviceType) (provided ctx.thingCode) ctx

/-- The profile is about the model and the device type that were asked for. -/
def NamesAsked (ctx : ResolutionContext) (profile : CapabilityProfile) : Prop :=
  profile.model = ctx.model ∧ profile.deviceType = ctx.deviceType

/-- No resolver speaks about another model. -/
theorem namesAsked_clientAnswers
    {dictionary : String → Except Exn (Finset String × Dict String Json)}
    {provided : String → Except Exn (Dict String Json)} {resolver : Resolver}
    {ctx : ResolutionContext} {profile : CapabilityProfile}
    (h : clientAnswers dictionary provided resolver ctx = .ok (some profile)) :
    NamesAsked ctx profile := by
  rw [clientAnswers] at h
  split at h
  · rw [dictResolve] at h
    split at h
    · cases h
    · cases hread : dictionary ctx.model with
      | error exn =>
          rw [hread] at h
          cases h
      | ok parsed =>
          rw [hread] at h
          cases h
          exact ⟨rfl, rfl⟩
  split at h
  · rw [bitfieldResolve] at h
    split at h
    · cases h
      exact ⟨rfl, rfl⟩
    split at h
    · cases h
    · cases h
      exact ⟨rfl, rfl⟩
  split at h
  · simp only [staticResolve] at h
    split at h
    · cases h
    · cases h
      exact ⟨rfl, rfl⟩
  · rw [presenceResolve] at h
    cases hread : presenceStatus (provided ctx.thingCode) ctx with
    | error exn =>
        rw [hread] at h
        cases h
    | ok status =>
        rw [hread] at h
        simp only [Except.map, Except.ok.injEq] at h
        split at h
        · cases h
        · cases h
          exact ⟨rfl, rfl⟩

end Holabrain
