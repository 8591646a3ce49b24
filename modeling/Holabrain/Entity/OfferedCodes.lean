import Holabrain.Entity.Composer

/-!
# Offered codes

What the dishwasher's selects stage is always something they offer.  Where nothing is staged
the start falls back to the reported status, whatever code that holds: the selects hide a code
they do not list, and the start submits it.
-/

namespace Holabrain

open Coordinator

namespace DishwasherConfig

section Codes

variable (cfg : DishwasherConfig) (thingCode : String) (w : World)

/-- The values of `_programs()`, as texts. -/
def programCodes : List String := (cfg.modelPrograms thingCode w).values.filterMap textOf

/-- The values of `_choices()`. -/
def extraCodes : List String := (cfg.choices thingCode w).values

def zoneCodes : List String := cfg.zones.map Prod.snd

end Codes

/-! ## Composing a cycle -/

/-- What was offered for the appliance still is. -/
structure OffersKept (cfg : DishwasherConfig) (thingCode : String) (w w' : World) : Prop where
  programs : cfg.programCodes thingCode w ⊆ cfg.programCodes thingCode w'
  extras : cfg.extraCodes thingCode w ⊆ cfg.extraCodes thingCode w'

/-- The states in which a cycle can be while it is composed: the selects stage, and anything
but the draft may change as long as the offers are kept. -/
inductive Composing (cfg : DishwasherConfig) (thingCode : String) : World → Prop
  | nothing {w} : w.draft thingCode = Dict.empty → Composing cfg thingCode w
  | program {w} (option : String) : Composing cfg thingCode w →
      Composing cfg thingCode (cfg.selectProgram thingCode option w)
  | extra {w} (option : String) : Composing cfg thingCode w →
      Composing cfg thingCode (cfg.selectExtra thingCode option w)
  | zone {w} (option : String) : Composing cfg thingCode w →
      Composing cfg thingCode (cfg.selectZone thingCode option w)
  | status {w w'} : Composing cfg thingCode w → w'.draft thingCode = w.draft thingCode →
      OffersKept cfg thingCode w w' → Composing cfg thingCode w'

/-- An unchanged profile keeps its offers, whatever is reported. -/
theorem offersKept_of_capabilityFor_eq {cfg : DishwasherConfig} {thingCode : String}
    {w w' : World} (h : w'.capabilityFor thingCode = w.capabilityFor thingCode) :
    OffersKept cfg thingCode w w' := by
  constructor
  · rw [programCodes, programCodes, modelPrograms, modelPrograms, h]
    exact List.Subset.refl _
  · rw [extraCodes, extraCodes, choices, choices, availableExtras, availableExtras]
    simp only [supports, h]
    exact List.Subset.refl _

/-- Every staged value is one that its select offers. -/
structure DraftOffered (cfg : DishwasherConfig) (thingCode : String) (w : World) : Prop where
  program : ∀ code, (w.draft thingCode).get? cfg.modeKey = some code →
    code ∈ cfg.programCodes thingCode w
  extra : ∀ code, (w.draft thingCode).get? cfg.extraKey = some code →
    code ∈ cfg.extraCodes thingCode w
  zone : ∀ code, (w.draft thingCode).get? cfg.zoneKey = some code → code ∈ cfg.zoneCodes

/-- The three keys a cycle is staged under are different ones. -/
def DistinctKeys (cfg : DishwasherConfig) : Prop :=
  [cfg.modeKey, cfg.extraKey, cfg.zoneKey].Nodup

section Draft

variable {cfg : DishwasherConfig} {thingCode : String} {w : World}

/-- Staging an offered value keeps the draft offered. -/
theorem DraftOffered.stage (h : DraftOffered cfg thingCode w) (key value : String)
    (hprogram : key = cfg.modeKey → value ∈ cfg.programCodes thingCode w)
    (hextra : key = cfg.extraKey → value ∈ cfg.extraCodes thingCode w)
    (hzone : key = cfg.zoneKey → value ∈ cfg.zoneCodes) :
    DraftOffered cfg thingCode (stage thingCode [(key, value)] w) := by
  refine ⟨fun code hcode => ?_, fun code hcode => ?_, fun code hcode => ?_⟩
  · rw [get?_draft_stage] at hcode
    split at hcode
    next heq =>
      rw [← Option.some.inj hcode]
      exact hprogram heq.symm
    next => exact h.program code hcode
  · rw [get?_draft_stage] at hcode
    split at hcode
    next heq =>
      rw [← Option.some.inj hcode]
      exact hextra heq.symm
    next => exact h.extra code hcode
  · rw [get?_draft_stage] at hcode
    split at hcode
    next heq =>
      rw [← Option.some.inj hcode]
      exact hzone heq.symm
    next => exact h.zone code hcode

/-- Whatever is staged in the course of composing was offered. -/
theorem Composing.draftOffered (hkeys : cfg.DistinctKeys) (h : Composing cfg thingCode w) :
    DraftOffered cfg thingCode w := by
  obtain ⟨⟨hextra, hzone⟩, hextrazone⟩ : (cfg.modeKey ≠ cfg.extraKey ∧
      cfg.modeKey ≠ cfg.zoneKey) ∧ cfg.extraKey ≠ cfg.zoneKey := by
    simpa [DistinctKeys] using hkeys
  induction h with
  | nothing hempty => constructor <;> simp [hempty]
  | program option _ ih =>
      rw [selectProgram]
      split
      next => exact ih
      next code hcode =>
        obtain ⟨value, hvalue, htext⟩ := Option.bind_eq_some_iff.mp hcode
        exact ih.stage _ _
          (fun _ => List.mem_filterMap.mpr ⟨value, Dict.mem_values_of_get? hvalue, htext⟩)
          (fun heq => absurd heq hextra) (fun heq => absurd heq hzone)
  | extra option _ ih =>
      rw [selectExtra]
      split
      next => exact ih
      next code hcode =>
        exact ih.stage _ _ (fun heq => absurd heq.symm hextra)
          (fun _ => Dict.mem_values_of_get? hcode) (fun heq => absurd heq hextrazone)
  | zone option _ ih =>
      rw [selectZone]
      split
      next => exact ih
      next code hcode =>
        rw [Dict.get?_ofList] at hcode
        exact ih.stage _ _ (fun heq => absurd heq.symm hzone)
          (fun heq => absurd heq.symm hextrazone)
          (fun _ => List.mem_map.mpr ⟨_, Dict.mem_of_written hcode, rfl⟩)
  | status _ hdraft hoffers ih =>
      refine ⟨fun code hcode => ?_, fun code hcode => ?_, fun code hcode => ?_⟩
      · rw [hdraft] at hcode
        exact hoffers.programs (ih.program code hcode)
      · rw [hdraft] at hcode
        exact hoffers.extras (ih.extra code hcode)
      · rw [hdraft] at hcode
        exact ih.zone code hcode

end Draft

/-! ## What is submitted -/

/-- A start instruction that holds offered codes only. -/
structure StartOffered (cfg : DishwasherConfig) (thingCode : String) (w : World)
    (instruction : Members) : Prop where
  program : ∃ code ∈ cfg.programCodes thingCode w, instruction.get cfg.modeKey = .str code
  extra : ∃ code ∈ cfg.extraCodes thingCode w, instruction.get cfg.extraKey = .str code
  zonePresent : cfg.zoneKey ∈ instruction.map Prod.fst ↔ supports w thingCode cfg.zoneCapability
  zone : supports w thingCode cfg.zoneCapability →
    ∃ code ∈ cfg.zoneCodes, instruction.get cfg.zoneKey = .str code

/-- A press submits offered codes, or is refused on the spot. -/
structure OffersStart (cfg : DishwasherConfig) (thingCode : String) (w : World) : Prop where
  submitted : ∀ instruction, SubmitsInstruction (cfg.asyncPress thingCode) thingCode instruction w →
    cfg.StartOffered thingCode w instruction
  refused : (∀ instruction,
      ¬ SubmitsInstruction (cfg.asyncPress thingCode) thingCode instruction w) →
    ∃ reason, (cfg.asyncPress thingCode).settle w =
      (.done (.error (.serviceValidation reason)), w)

/-- The reported code of a key. -/
def reported (cfg : DishwasherConfig) (thingCode : String) (w : World) (key : String) :
    Option String :=
  textOf ((cfg.entity thingCode cfg.modeKey).value w key)

/-- A programme is staged or reported, and the door is not open. -/
def Startable (cfg : DishwasherConfig) (thingCode : String) (w : World) : Prop :=
  (((w.draft thingCode).get? cfg.modeKey).or (cfg.reported thingCode w cfg.modeKey)).isSome ∧
    cfg.reported thingCode w doorKey ≠ some doorOpen

/-- Where nothing is staged, an offered code is reported; for the extra option and the zone
also nothing at all. -/
structure ReportsOffered (cfg : DishwasherConfig) (thingCode : String) (w : World) : Prop where
  program : (w.draft thingCode).get? cfg.modeKey = none →
    ∀ code, cfg.reported thingCode w cfg.modeKey = some code →
      code ∈ cfg.programCodes thingCode w
  extra : (w.draft thingCode).get? cfg.extraKey = none →
    ∀ code, cfg.reported thingCode w cfg.extraKey = some code →
      code = "" ∨ code ∈ cfg.extraCodes thingCode w
  zone : supports w thingCode cfg.zoneCapability → (w.draft thingCode).get? cfg.zoneKey = none →
    ∀ code, cfg.reported thingCode w cfg.zoneKey = some code →
      code = "" ∨ code ∈ cfg.zoneCodes

section Start

variable {cfg : DishwasherConfig} {thingCode : String} {w : World}

theorem submits_asyncPress_iff {instruction : Members} :
    SubmitsInstruction (cfg.asyncPress thingCode) thingCode instruction w ↔
      cfg.compose thingCode w = .ok instruction := by
  rw [asyncPress_eq]
  exact submits_composedPress_iff

theorem stagedOrReported_eq (key : String) :
    stagedOrReported (cfg.entity thingCode cfg.modeKey) w key =
      ((w.draft thingCode).get? key).or (cfg.reported thingCode w key) := by
  have hcode : (cfg.entity thingCode cfg.modeKey).thingCode = thingCode := rfl
  rw [stagedOrReported, HolabrainEntity.stagedValue, hcode, reported]
  cases (w.draft thingCode).get? key with
  | none => rfl
  | some staged => rfl

/-- What holds of everything staged has to be asked of a report only where nothing is. -/
theorem forall_or_eq_some_iff {staged report : Option String} {P : String → Prop}
    (hstaged : ∀ code, staged = some code → P code) :
    (∀ code, staged.or report = some code → P code) ↔
      (staged = none → ∀ code, report = some code → P code) := by
  cases staged with
  | none => simp
  | some code =>
      apply iff_of_true
      · intro _ heq
        exact hstaged _ heq
      · intro hnone
        cases hnone

theorem zoneCode_eq :
    cfg.zoneCode (cfg.entity thingCode cfg.modeKey) w =
      if supports w thingCode cfg.zoneCapability then
        some (orDefault (((w.draft thingCode).get? cfg.zoneKey).or
          (cfg.reported thingCode w cfg.zoneKey)) cfg.defaultZone)
      else none := by
  have hcode : (cfg.entity thingCode cfg.modeKey).thingCode = thingCode := rfl
  rw [zoneCode, hcode, stagedOrReported_eq, supports]
  cases w.capabilityFor thingCode with
  | none => rfl
  | some profile => simp

/-- There is an instruction exactly if a start is possible. -/
theorem exists_compose_iff :
    (∃ instruction, cfg.compose thingCode w = .ok instruction) ↔ cfg.Startable thingCode w := by
  have hdoor : ((cfg.entity thingCode cfg.modeKey).value w doorKey).pyStr ≠ doorOpen ↔
      cfg.reported thingCode w doorKey ≠ some doorOpen := by
    rw [reported]
    cases (cfg.entity thingCode cfg.modeKey).value w doorKey with
    | null => simp [textOf, Json.pyStr, Json.repr, doorOpen]
    | _ => simp [textOf]
  rw [Startable, ← hdoor, ← stagedOrReported_eq, Option.isSome_iff_exists]
  constructor
  · intro h
    obtain ⟨instruction, hcompose⟩ := h
    obtain ⟨programCode, hprogram, hclosed, -⟩ := compose_eq_ok_iff.mp hcompose
    exact ⟨⟨programCode, hprogram⟩, hclosed⟩
  · intro h
    obtain ⟨⟨programCode, hprogram⟩, hclosed⟩ := h
    exact ⟨_, compose_eq_ok_iff.mpr ⟨programCode, hprogram, hclosed, rfl⟩⟩

theorem compose_error {exn : Exn} (h : cfg.compose thingCode w = .error exn) :
    ∃ reason, exn = .serviceValidation reason := by
  rw [compose] at h
  split at h
  · cases h
    exact ⟨_, rfl⟩
  · split at h
    · cases h
      exact ⟨_, rfl⟩
    · cases h

variable {category : CategorySpec}

/-- No extra at all can always be chosen. -/
theorem noExtraCode_mem (hlabels : ∀ e ∈ cfg.extras, e.1 ≠ "none") :
    cfg.noExtraCode ∈ cfg.extraCodes thingCode w := by
  apply Dict.mem_values_of_get? (k := "none")
  have havailable : Dict.written (cfg.availableExtras thingCode w).items "none" = none := by
    rw [Dict.written_items, availableExtras, Dict.get?_ofList, Dict.written_eq_none_iff]
    intro e he
    obtain ⟨extra, hextra, rfl⟩ := List.mem_map.mp he
    exact hlabels extra (List.mem_filter.mp hextra).1
  rw [choices, Dict.get?_update, havailable, Dict.get?_ofList]
  rfl

section Fallbacks

variable (hdraft : cfg.DraftOffered thingCode w)

include hdraft

theorem DraftOffered.programCode_mem_iff {programCode : String}
    (hprogram : ((w.draft thingCode).get? cfg.modeKey).or (cfg.reported thingCode w cfg.modeKey) =
      some programCode) :
    programCode ∈ cfg.programCodes thingCode w ↔
      ((w.draft thingCode).get? cfg.modeKey = none → ∀ code,
        cfg.reported thingCode w cfg.modeKey = some code →
          code ∈ cfg.programCodes thingCode w) := by
  rw [← forall_or_eq_some_iff hdraft.program, hprogram]
  simp

theorem DraftOffered.extraCode_mem_iff
    (hnone : cfg.noExtraCode ∈ cfg.extraCodes thingCode w) :
    orDefault (stagedOrReported (cfg.entity thingCode cfg.modeKey) w cfg.extraKey)
        cfg.noExtraCode ∈ cfg.extraCodes thingCode w ↔
      ((w.draft thingCode).get? cfg.extraKey = none → ∀ code,
        cfg.reported thingCode w cfg.extraKey = some code →
          code = "" ∨ code ∈ cfg.extraCodes thingCode w) := by
  rw [orDefault_mem_iff hnone, stagedOrReported_eq]
  exact forall_or_eq_some_iff fun code hcode => .inr (hdraft.extra code hcode)

theorem DraftOffered.zoneCode_mem_iff (hdefault : cfg.defaultZone ∈ cfg.zoneCodes) :
    orDefault (((w.draft thingCode).get? cfg.zoneKey).or
        (cfg.reported thingCode w cfg.zoneKey)) cfg.defaultZone ∈ cfg.zoneCodes ↔
      ((w.draft thingCode).get? cfg.zoneKey = none → ∀ code,
        cfg.reported thingCode w cfg.zoneKey = some code →
          code = "" ∨ code ∈ cfg.zoneCodes) := by
  rw [orDefault_mem_iff hdefault]
  exact forall_or_eq_some_iff fun code hcode => .inr (hdraft.zone code hcode)

end Fallbacks

/-- A start instruction holds offered codes exactly if no report it falls back to holds another
one. -/
theorem startOffered_iff (hcategory : category ∈ categories)
    (hcfg : category.dishwasher = some cfg) (hdraft : cfg.DraftOffered thingCode w)
    {instruction : Members} (hcompose : cfg.compose thingCode w = .ok instruction) :
    cfg.StartOffered thingCode w instruction ↔ cfg.ReportsOffered thingCode w := by
  have htable := eq_of_dishwasher_eq_some hcategory hcfg
  subst htable
  obtain ⟨programCode, hprogram, -, rfl⟩ := compose_eq_ok_iff.mp hcompose
  rw [stagedOrReported_eq] at hprogram
  have hcodes : ∀ (codes : List String) (code : String),
      (∃ code' ∈ codes, Json.str code = .str code') ↔ code ∈ codes := by
    simp
  have hprograms := hdraft.programCode_mem_iff hprogram
  have hextra := hdraft.extraCode_mem_iff (noExtraCode_mem (by decide))
  have hzone := hdraft.zoneCode_mem_iff (by decide)
  constructor
  · intro hoffered
    refine ⟨hprograms.mp ?_, hextra.mp ?_, fun hzones => hzone.mp ?_⟩
    · have hmem := hoffered.program
      rwa [get_buildStartInstruction, if_pos rfl, hcodes] at hmem
    · have hmem := hoffered.extra
      rwa [get_buildStartInstruction, if_neg (by decide), if_pos rfl, hcodes] at hmem
    · have hmem := hoffered.zone hzones
      rwa [get_buildStartInstruction, if_neg (by decide), if_neg (by decide),
        if_neg (by decide), if_pos rfl, zoneCode_eq, if_pos hzones, Option.map_some,
        Option.getD_some, hcodes] at hmem
  · intro hreports
    refine ⟨?_, ?_, ?_, fun hzones => ?_⟩
    · rw [get_buildStartInstruction, if_pos rfl, hcodes]
      exact hprograms.mpr hreports.program
    · rw [get_buildStartInstruction, if_neg (by decide), if_pos rfl, hcodes]
      exact hextra.mpr hreports.extra
    · rw [zoneKey_mem_buildStartInstruction, zoneCode_eq]
      split
      next hzones => exact iff_of_true rfl hzones
      next hzones => exact iff_of_false (fun h => by cases h) hzones
    · rw [get_buildStartInstruction, if_neg (by decide), if_neg (by decide),
        if_neg (by decide), if_pos rfl, zoneCode_eq, if_pos hzones, Option.map_some,
        Option.getD_some, hcodes]
      exact hzone.mpr (hreports.zone hzones)

/-- A cycle composed with the selects is started with offered codes, or not at all, exactly if
no report that the start falls back to holds a code that is not offered. -/
theorem offersStart_iff (hcategory : category ∈ categories)
    (hcfg : category.dishwasher = some cfg) (hcomposing : cfg.Composing thingCode w) :
    cfg.OffersStart thingCode w ↔
      (cfg.Startable thingCode w → cfg.ReportsOffered thingCode w) := by
  have hkeys : cfg.DistinctKeys := by
    rw [eq_of_dishwasher_eq_some hcategory hcfg, DistinctKeys]
    decide
  have hdraft := hcomposing.draftOffered hkeys
  rw [← exists_compose_iff]
  constructor
  · intro hoffers hstartable
    obtain ⟨instruction, hcompose⟩ := hstartable
    exact (startOffered_iff hcategory hcfg hdraft hcompose).mp
      (hoffers.submitted instruction (submits_asyncPress_iff.mpr hcompose))
  · intro hreports
    refine ⟨fun instruction hsubmits => ?_, fun hnothing => ?_⟩
    · have hcompose := submits_asyncPress_iff.mp hsubmits
      exact (startOffered_iff hcategory hcfg hdraft hcompose).mpr
        (hreports ⟨instruction, hcompose⟩)
    · cases hcompose : cfg.compose thingCode w with
      | ok instruction => exact absurd (submits_asyncPress_iff.mpr hcompose) (hnothing _)
      | error exn =>
          obtain ⟨reason, rfl⟩ := compose_error hcompose
          rw [asyncPress_eq]
          exact ⟨reason, settle_composedPress_error hcompose⟩

end Start

/-! ## A programme that is not listed -/

def cycleConfig : DishwasherConfig where
  programs := Registry.dishwasherPrograms
  extras := Registry.dishwasherExtras
  zones := Registry.dishwasherZones

/-- A dishwasher in standby that reports a programme, with nothing staged. -/
def reporting (programCode : String) : World :=
  { World.fresh with
    devices := Dict.ofList [("D",
      { thingCode := "D", name := "D", deviceType := "0xE1", model := "", online := true })]
    data := some (Dict.ofList
      [("D", { thingCode := "D"
               attributes := Dict.ofList
                 [("power", .str "1"), ("doorstatus", .str "1"),
                   ("modeEU", .str programCode)] })]) }

/-- A programme that is chosen is offered, whatever is reported. -/
theorem offersStart_chosen :
    cycleConfig.OffersStart "D" (cycleConfig.selectProgram "D" "eco" (reporting "9")) := by
  have hcategory : Registry.dishwasher ∈ categories := List.mem_cons_self
  apply (offersStart_iff hcategory rfl (.program "eco" (.nothing rfl))).mpr
  intro _
  refine ⟨fun hnone => ?_, fun _ code hcode => ?_, fun hzones => ?_⟩
  · revert hnone
    decide +kernel
  · have hnothing : cycleConfig.reported "D"
        (cycleConfig.selectProgram "D" "eco" (reporting "9")) cycleConfig.extraKey = none := by
      decide +kernel
    cases hnothing.symm.trans hcode
  · revert hzones
    decide +kernel

/-- A start with nothing staged submits the reported programme, listed or not. -/
theorem not_offersStart_reporting :
    cycleConfig.Composing "D" (reporting "9") ∧ ¬ cycleConfig.OffersStart "D" (reporting "9") := by
  refine ⟨.nothing rfl, fun hoffers => ?_⟩
  have hcompose : cycleConfig.compose "D" (reporting "9") = .ok
      [("modeEU", .str "9"), ("addFuncEU", .str "0"), ("power", .str "3")] := by
    decide +kernel
  obtain ⟨code, hmem, hcode⟩ :=
    (hoffers.submitted _ (submits_asyncPress_iff.mpr hcompose)).program
  have hnine : code = "9" := by
    have hget : Members.get [("modeEU", .str "9"), ("addFuncEU", .str "0"),
        ("power", .str "3")] cycleConfig.modeKey = .str "9" := by
      decide +kernel
    rw [hget] at hcode
    exact (Json.str.inj hcode).symm
  rw [hnine] at hmem
  revert hmem
  decide +kernel

end DishwasherConfig

end Holabrain
