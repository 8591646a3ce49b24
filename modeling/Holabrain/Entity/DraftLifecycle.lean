import Holabrain.Core.Interference
import Holabrain.Entity.Composer

/-!
# The life of a draft

A start press composes its instruction at once and then awaits the send, and the controls go
on staging meanwhile.  A send that fails leaves the draft to them.  One that succeeds drops
the whole draft: with what was submitted goes what was staged in between, and what the
instruction never carried.
-/

namespace Holabrain

open Coordinator

/-! ## Stagings -/

/-- One call of `async_stage`. -/
structure Staging where
  thingCode : String
  values : List (String × String)

def Staging.apply (staging : Staging) : World → World :=
  stage staging.thingCode staging.values

/-- What the stagings write for one appliance. -/
def stagedFor (thingCode : String) (stagings : List Staging) : List (String × String) :=
  (stagings.filter fun staging => staging.thingCode = thingCode).flatMap Staging.values

theorem draft_stagings (thingCode : String) (stagings : List Staging) (w : World) :
    (stagings.foldl (fun u staging => staging.apply u) w).draft thingCode =
      (w.draft thingCode).update (stagedFor thingCode stagings) := by
  induction stagings generalizing w with
  | nil => rfl
  | cons staging rest ih =>
      rw [List.foldl_cons, ih, Staging.apply, draft_stage]
      by_cases hcode : staging.thingCode = thingCode
      · have hstaged : stagedFor thingCode (staging :: rest) =
            staging.values ++ stagedFor thingCode rest := by
          simp [stagedFor, hcode]
        rw [if_pos hcode.symm, hstaged, Dict.update_append, hcode]
      · have hstaged : stagedFor thingCode (staging :: rest) = stagedFor thingCode rest := by
          simp [stagedFor, hcode]
        rw [if_neg (Ne.symm hcode), hstaged]

theorem draft_congr {u w : World} (h : u.drafts = w.drafts) (thingCode : String) :
    u.draft thingCode = w.draft thingCode := by
  rw [World.draft, World.draft, h]

/-! ## What an instruction carries -/

/-- The two appliances with a composed start. -/
inductive Composer
  | oven (cfg : OvenConfig)
  | dishwasher (cfg : DishwasherConfig)

namespace Composer

/-- Some category configures it. -/
def Configured : Composer → Prop
  | oven cfg => ∃ category ∈ categories, category.oven = some cfg
  | dishwasher cfg => ∃ category ∈ categories, category.dishwasher = some cfg

/-- `async_press`. -/
def asyncPress (thingCode : String) : Composer → CoordM Unit
  | oven cfg => cfg.asyncPress thingCode
  | dishwasher cfg => cfg.asyncPress thingCode

def compose (thingCode : String) (w : World) : Composer → Except Exn Members
  | oven cfg => cfg.compose thingCode w
  | dishwasher cfg => cfg.compose thingCode w

/-- The instruction carries a staged value: a number under its key in the unit of the wire, a
code or a flag as it stands. -/
def carries (instruction : Members) (key value : String) : Composer → Bool
  | oven cfg =>
      let step := OvenConfig.cookStep instruction
      if key = cfg.modeKey ∨ key = cfg.preheatKey then decide (step.get key = .str value)
      else decide (step.get key ≠ .null)
  | dishwasher _ => decide (instruction.get key = .str value)

/-- The press has a use for a staged value: it is one of the cook or of the cycle, and the
programme or the model takes it. -/
def takes (thingCode : String) (w : World) (key value : String) : Composer → Bool
  | oven cfg =>
      let oven := cfg.entity thingCode cfg.modeKey
      decide (key ∈ [cfg.modeKey, cfg.timeKey, "fire", "size", "nextAction"]) ||
        decide (key = cfg.preheatKey) &&
          (decide (value = "0") || decide (value = "1") && cfg.preheatAllowed oven w) ||
        decide (key ∈ [cfg.tempKey, cfg.lowerTempKey, cfg.probeKey]) && cfg.tempAllowed oven w
  | dishwasher cfg =>
      decide (key = cfg.modeKey) || decide (key = cfg.extraKey) && decide (value ≠ "") ||
        decide (key = cfg.powerKey) && decide (value = cfg.startValue) ||
        decide (key = cfg.zoneKey) && decide (value ≠ "") &&
          ((w.capabilityFor thingCode).any fun profile => profile.supports cfg.zoneCapability)

end Composer

/-! ## A press among stagings -/

section Press

variable {env : Environment World ClientOp ClientAnswer} {entity : HolabrainEntity}
  {stagings : List Staging} {w w' : World} {result : Except Exn Unit}

/-- The answer to a command leaves the drafts alone. -/
def DraftsKept (env : Environment World ClientOp ClientAnswer) : Prop :=
  ∀ u op answer t, env u op answer t → t.drafts = u.drafts

/-- What comes between a command and the end of its press. -/
theorem interleaved_sendVia (henv : DraftsKept env) {scheme : Scheme} {path thingCode : String}
    {instruction : Members}
    (h : Coro.Interleaved Staging.apply env
      (sendVia scheme path thingCode instruction (handOver thingCode)) w stagings result w') :
    ∃ u, u.drafts = (stagings.foldl (fun u staging => staging.apply u) w).drafts ∧
      ((∃ exn, result = .error exn ∧ w'.drafts = u.drafts) ∨
        (result = .ok () ∧ w'.drafts = (clearDraft thingCode u).drafts)) := by
  rw [sendVia, Coro.interleaved_await_iff] at h
  obtain ⟨meanwhile, later, answer, t, rfl, hanswer, hafter⟩ := h
  have ht := henv _ _ _ _ hanswer
  cases answer with
  | error exn =>
      obtain ⟨rfl, rfl, rfl⟩ := Coro.interleaved_done_iff.mp hafter
      rw [List.append_nil]
      exact ⟨w', ht, .inl ⟨exn, rfl, rfl⟩⟩
  | ok members =>
      rw [afterSend, handOver_eq] at hafter
      simp only [Coro.interleaved_read_iff, Coro.interleaved_write_iff,
        Coro.interleaved_done_iff] at hafter
      obtain ⟨rfl, rfl, rfl⟩ := hafter
      rw [List.append_nil]
      exact ⟨_, (patchState_drafts thingCode instruction t).trans ht, .inr ⟨rfl, rfl⟩⟩

/-- A composed press either fails and leaves the draft to what was staged, or drops it. -/
theorem interleaved_composedPress (henv : DraftsKept env)
    {compose : World → Except Exn Members}
    (h : Coro.Interleaved Staging.apply env (composedPress entity compose) w stagings result
      w') :
    ∃ u, u.drafts = (stagings.foldl (fun u staging => staging.apply u) w).drafts ∧
      ((∃ exn, result = .error exn ∧ w'.drafts = u.drafts) ∨
        ((∃ instruction, compose w = .ok instruction) ∧ result = .ok () ∧
          w'.drafts = (clearDraft entity.thingCode u).drafts)) := by
  rw [composedPress, Coro.gets_bind, Coro.interleaved_read_iff, id_eq] at h
  cases hcompose : compose w with
  | error exn =>
      rw [hcompose, Coro.ofExcept_error_bind] at h
      obtain ⟨rfl, rfl, rfl⟩ := Coro.interleaved_done_iff.mp h
      exact ⟨w', rfl, .inl ⟨exn, rfl, rfl⟩⟩
  | ok instruction =>
      rw [hcompose, Coro.ofExcept_ok_bind, asyncSend_bind, Coro.interleaved_read_iff] at h
      split at h
      · obtain ⟨u, hu, hend⟩ := interleaved_sendVia henv h
        exact ⟨u, hu, hend.imp id fun hok => ⟨⟨_, rfl⟩, hok⟩⟩
      · obtain ⟨u, hu, hend⟩ := interleaved_sendVia henv h
        exact ⟨u, hu, hend.imp id fun hok => ⟨⟨_, rfl⟩, hok⟩⟩

end Press

/-! ## The law of the draft -/

/-- What becomes of the drafts over one press. -/
structure DraftKept (composer : Composer) (thingCode : String) (w : World)
    (stagings : List Staging) (result : Except Exn Unit) (w' : World) : Prop where
  /-- The other appliances keep what they had and get what was staged for them. -/
  others : ∀ other ≠ thingCode,
    w'.draft other = (w.draft other).update (stagedFor other stagings)
  /-- So does the appliance itself, if the send fails. -/
  failed : ∀ exn, result = .error exn →
    w'.draft thingCode = (w.draft thingCode).update (stagedFor thingCode stagings)
  /-- If it succeeds, what the instruction carried is dropped, unless it was staged anew. -/
  sent : result = .ok () → ∀ instruction, composer.compose thingCode w = .ok instruction →
    ∀ key, (w'.draft thingCode).get? key =
      (Dict.written (stagedFor thingCode stagings) key).or
        (((w.draft thingCode).get? key).filter fun value =>
          !composer.carries instruction key value)

section Law

variable {env : Environment World ClientOp ClientAnswer} {composer : Composer}
  {thingCode : String} {stagings : List Staging} {w w' : World} {result : Except Exn Unit}

/-- An oven's instruction carries what the press has a use for. -/
theorem carries_oven_iff {cfg : OvenConfig} {instruction : Members} {key value : String}
    (hcfg : (Composer.oven cfg).Configured)
    (hcompose : cfg.compose thingCode w = .ok instruction)
    (hstaged : (w.draft thingCode).get? key = some value) :
    (Composer.oven cfg).carries instruction key value =
      (Composer.oven cfg).takes thingCode w key value := by
  obtain ⟨category, hcategory, hoven⟩ := hcfg
  have htable := eq_of_oven_eq_some hcategory hoven
  subst htable
  obtain ⟨program, temperature, minutes, probe, hprogram, -, -, -, rfl⟩ :=
    OvenConfig.compose_eq_ok hcompose
  simp only [Composer.carries, OvenConfig.get_cookStep]
  by_cases hmode : key = "cookMode"
  · subst hmode
    have hcode := (OvenConfig.mem_of_program_eq_some (by decide) hprogram).2
    rw [HolabrainEntity.stagedValue] at hcode
    simp only [OvenConfig.entity, hstaged, Json.pyStr] at hcode
    rw [if_pos (.inl rfl), OvenConfig.get_modeKey, hcode]
    simp [Composer.takes]
  by_cases hpreheat : key = "preHeat"
  · subst hpreheat
    have hon : OvenConfig.preheatOn { programs := Registry.ovenPrograms }
        (OvenConfig.entity { programs := Registry.ovenPrograms } thingCode "cookMode") w =
        decide (value = "1") := by
      rw [OvenConfig.preheatOn, HolabrainEntity.stagedValue]
      simp only [OvenConfig.entity, hstaged]
      exact decide_eq_decide.mpr Iff.rfl
    rw [if_pos (.inr rfl), OvenConfig.get_preheatKey, hon]
    by_cases hvalue : value = "1"
    · subst hvalue
      simp [Composer.takes]
    · simp [Composer.takes, hvalue, eq_comm]
  · rw [if_neg (not_or.mpr ⟨hmode, hpreheat⟩), Bool.eq_iff_iff, decide_eq_true_iff,
      Members.get_ne_null_iff (OvenConfig.stepMembers_ne_null _ _ _ _ _ _ _ _)]
    cases htemp : OvenConfig.tempAllowed { programs := Registry.ovenPrograms }
      (OvenConfig.entity { programs := Registry.ovenPrograms } thingCode "cookMode") w with
    | true =>
        simp only [OvenConfig.stepMembers, htemp, Composer.takes]
        simp [hmode, hpreheat, or_assoc]
    | false =>
        simp only [OvenConfig.stepMembers, htemp, Composer.takes]
        simp [hmode, hpreheat]

theorem carries_dishwasher_iff {cfg : DishwasherConfig} {instruction : Members}
    {key value : String} (hcfg : (Composer.dishwasher cfg).Configured)
    (hcompose : cfg.compose thingCode w = .ok instruction)
    (hstaged : (w.draft thingCode).get? key = some value) :
    (Composer.dishwasher cfg).carries instruction key value =
      (Composer.dishwasher cfg).takes thingCode w key value := by
  obtain ⟨category, hcategory, hdishwasher⟩ := hcfg
  have htable := eq_of_dishwasher_eq_some hcategory hdishwasher
  subst htable
  obtain ⟨programCode, hprogram, -, rfl⟩ := DishwasherConfig.compose_eq_ok_iff.mp hcompose
  simp only [Composer.carries, DishwasherConfig.get_buildStartInstruction]
  by_cases hmode : key = "modeEU"
  · subst hmode
    have hcode : programCode = value := Option.some.inj
      (hprogram.symm.trans (DishwasherConfig.stagedOrReported_of_staged rfl hstaged))
    simp [Composer.takes, hcode]
  by_cases hextra : key = "addFuncEU"
  · subst hextra
    rw [DishwasherConfig.stagedOrReported_of_staged rfl hstaged]
    by_cases hvalue : value = ""
    · simp [Composer.takes, DishwasherConfig.orDefault, hvalue]
    · simp [Composer.takes, DishwasherConfig.orDefault, hvalue]
  by_cases hpower : key = "power"
  · subst hpower
    simp [Composer.takes, eq_comm]
  by_cases hzone : key = "washArea"
  · subst hzone
    simp only [hmode, hextra, hpower, if_false, if_true]
    rw [DishwasherConfig.zoneCode, DishwasherConfig.stagedOrReported_of_staged rfl hstaged]
    simp only [DishwasherConfig.entity]
    cases hprofile : w.capabilityFor thingCode with
    | none => simp [Composer.takes, hprofile]
    | some profile =>
        by_cases hzones : profile.supports "alternate_wash"
        · by_cases hvalue : value = ""
          · simp [Composer.takes, hprofile, hzones, DishwasherConfig.orDefault, hvalue]
          · simp [Composer.takes, hprofile, hzones, DishwasherConfig.orDefault, hvalue]
        · simp [Composer.takes, hprofile, hzones]
  · simp [Composer.takes, hmode, hextra, hpower, hzone]

theorem carries_eq_takes {instruction : Members} {key value : String}
    (hcfg : composer.Configured) (hcompose : composer.compose thingCode w = .ok instruction)
    (hstaged : (w.draft thingCode).get? key = some value) :
    composer.carries instruction key value = composer.takes thingCode w key value := by
  cases composer with
  | oven cfg => exact carries_oven_iff hcfg hcompose hstaged
  | dishwasher cfg => exact carries_dishwasher_iff hcfg hcompose hstaged

/-- How a press of either composer ends. -/
theorem interleaved_asyncPress (henv : DraftsKept env)
    (h : Coro.Interleaved Staging.apply env (composer.asyncPress thingCode) w stagings result
      w') :
    ∃ u, u.drafts = (stagings.foldl (fun u staging => staging.apply u) w).drafts ∧
      ((∃ exn, result = .error exn ∧ w'.drafts = u.drafts) ∨
        ((∃ instruction, composer.compose thingCode w = .ok instruction) ∧ result = .ok () ∧
          w'.drafts = (clearDraft thingCode u).drafts)) := by
  cases composer with
  | oven cfg =>
      rw [Composer.asyncPress, OvenConfig.asyncPress_eq] at h
      exact interleaved_composedPress henv h
  | dishwasher cfg =>
      rw [Composer.asyncPress, DishwasherConfig.asyncPress_eq] at h
      exact interleaved_composedPress henv h

/-- The draft is kept as it should be unless the send succeeds and, by then, something has been
staged in between, or something was staged that the press had no use for. -/
theorem draftKept_iff (hcfg : composer.Configured) (henv : DraftsKept env)
    (hrun : Coro.Interleaved Staging.apply env (composer.asyncPress thingCode) w stagings result
      w') :
    DraftKept composer thingCode w stagings result w' ↔
      (result = .ok () → stagedFor thingCode stagings = [] ∧
        ∀ key value, (w.draft thingCode).get? key = some value →
          composer.takes thingCode w key value) := by
  obtain ⟨u, hu, hend⟩ := interleaved_asyncPress henv hrun
  have hdraft : ∀ code, u.draft code = (w.draft code).update (stagedFor code stagings) := by
    intro code
    rw [draft_congr hu, draft_stagings]
  obtain ⟨exn, rfl, hw'⟩ | ⟨⟨instruction, hcompose⟩, rfl, hw'⟩ := hend
  · apply iff_of_true
    · refine ⟨fun other _ => ?_, fun _ _ => ?_, fun hok => ?_⟩
      · rw [draft_congr hw', hdraft]
      · rw [draft_congr hw', hdraft]
      · cases hok
    · intro hok
      cases hok
  · have hcleared : ∀ key, (w'.draft thingCode).get? key = none := by
      intro key
      rw [draft_congr hw', draft_clearDraft, if_pos rfl, Dict.get?_empty]
    constructor
    · intro hkept _
      have hsent := hkept.sent rfl instruction hcompose
      have hunwritten : ∀ key, Dict.written (stagedFor thingCode stagings) key = none := by
        intro key
        have hkey := hsent key
        rw [hcleared] at hkey
        exact (Option.or_eq_none_iff.mp hkey.symm).1
      constructor
      · apply List.eq_nil_iff_forall_not_mem.mpr
        intro e he
        exact Dict.written_eq_none_iff.mp (hunwritten e.1) e he rfl
      · intro key value hstaged
        have hkey := hsent key
        rw [hcleared, hunwritten, hstaged, Option.none_or] at hkey
        rw [← carries_eq_takes hcfg hcompose hstaged]
        simpa using hkey.symm
    · intro hcondition
      obtain ⟨hnothing, htakes⟩ := hcondition rfl
      refine ⟨fun other hother => ?_, fun exn hexn => ?_, fun _ composed hcomposed key => ?_⟩
      · rw [draft_congr hw', draft_clearDraft, if_neg hother, hdraft]
      · cases hexn
      · rw [hcleared, hnothing]
        cases hstaged : (w.draft thingCode).get? key with
        | none => rfl
        | some value =>
            have hcarries : composer.carries composed key value = true := by
              rw [carries_eq_takes hcfg hcomposed hstaged]
              exact htakes key value hstaged
            rw [Option.filter_some, hcarries]
            rfl

end Law

/-! ## A cycle that is edited while it is sent -/

/-- A dishwasher in standby with a programme staged. -/
def chosenCycle : World :=
  { World.fresh with
    devices := Dict.ofList [("D",
      { thingCode := "D", name := "D", deviceType := "0xE1", model := "", online := true })]
    data := some (Dict.ofList
      [("D", { thingCode := "D", attributes := Dict.ofList [("power", .str "1")] })])
    drafts := Dict.ofList [("D", Dict.ofList [("modeEU", "4")])] }

def dishwasherComposer : Composer :=
  .dishwasher
    { programs := Registry.dishwasherPrograms, extras := Registry.dishwasherExtras
      zones := Registry.dishwasherZones }

/-- A cloud that takes every command. -/
def takingCloud : World → (op : ClientOp) → ClientAnswer op × World :=
  Client.scripted (fun _ => .ok []) (fun _ _ => .ok none) (fun _ w => w) 0

/-- The start of the chosen cycle, with what is staged while it is sent. -/
def pressed (stagings : List Staging) : Except Exn Unit × World :=
  (dishwasherComposer.asyncPress "D").playAfter Staging.apply takingCloud stagings chosenCycle

theorem draftsKept_takingCloud :
    DraftsKept fun u op answer t => takingCloud u op = (answer, t) := by
  intro u op answer t h
  cases op <;> cases h <;> rfl

theorem interleaved_pressed (stagings : List Staging) :
    Coro.Interleaved Staging.apply (fun u op answer t => takingCloud u op = (answer, t))
      (dishwasherComposer.asyncPress "D") chosenCycle stagings (pressed stagings).1
      (pressed stagings).2 :=
  Coro.interleaved_playAfter (fun _ _ => rfl) rfl

theorem configured_dishwasherComposer : dishwasherComposer.Configured :=
  ⟨Registry.dishwasher, List.mem_cons_self, rfl⟩

/-- What is staged for another appliance in between is kept. -/
theorem draftKept_pressed :
    DraftKept dishwasherComposer "D" chosenCycle [⟨"E", [("addFuncEU", "1")]⟩]
        (pressed [⟨"E", [("addFuncEU", "1")]⟩]).1 (pressed [⟨"E", [("addFuncEU", "1")]⟩]).2 ∧
      (pressed [⟨"E", [("addFuncEU", "1")]⟩]).1.isOk = true ∧
      ((pressed [⟨"E", [("addFuncEU", "1")]⟩]).2.draft "E").get? "addFuncEU" = some "1" := by
  refine ⟨?_, by decide +kernel, by decide +kernel⟩
  apply (draftKept_iff configured_dishwasherComposer draftsKept_takingCloud
    (interleaved_pressed [⟨"E", [("addFuncEU", "1")]⟩])).mpr
  intro _
  refine ⟨by decide, fun key value hstaged => ?_⟩
  have hdraft : chosenCycle.draft "D" = Dict.ofList [("modeEU", "4")] := by decide +kernel
  rw [hdraft, Dict.get?_ofList, Dict.written_cons, Dict.written_nil, Option.none_or] at hstaged
  split at hstaged
  next hkey => simp [dishwasherComposer, Composer.takes, hkey]
  next => cases hstaged

/-- The extra that is chosen while the start is on its way is gone when it has arrived. -/
theorem not_draftKept_pressed :
    ¬ DraftKept dishwasherComposer "D" chosenCycle [⟨"D", [("addFuncEU", "1")]⟩]
      (pressed [⟨"D", [("addFuncEU", "1")]⟩]).1 (pressed [⟨"D", [("addFuncEU", "1")]⟩]).2 := by
  intro hkept
  have hcompose : dishwasherComposer.compose "D" chosenCycle = .ok
      [("modeEU", .str "4"), ("addFuncEU", .str "0"), ("power", .str "3")] := by
    decide +kernel
  have hkey := hkept.sent (by rfl) _ hcompose "addFuncEU"
  have hgone : ((pressed [⟨"D", [("addFuncEU", "1")]⟩]).2.draft "D").get? "addFuncEU" =
      none := by
    decide +kernel
  have hstaged : Dict.written (stagedFor "D" [⟨"D", [("addFuncEU", "1")]⟩]) "addFuncEU" =
      some "1" := by
    decide +kernel
  rw [hgone, hstaged] at hkey
  cases hkey

end Holabrain
