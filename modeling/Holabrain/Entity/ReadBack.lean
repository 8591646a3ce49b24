import Holabrain.Cloud.Printed
import Holabrain.Cloud.PushFold
import Holabrain.Coordinator.MachineState
import Holabrain.Entity.Native

/-!
# Native controls read back what they wrote

Once the cloud has taken a command, the texts of the instruction are folded into whatever the
appliance had reported by then.  The entity then reads the setting that was asked for: the codes
that are written decode to it, and no flag left over from before stands in front of them.
-/

namespace Holabrain

open Coordinator
open Objects (allTexts get?_patchState)

/-! ## The patch -/

/-- All values of the instruction are texts. -/
def Texts (instruction : Members) : Prop := ∀ e ∈ instruction, ∃ text, e.2 = .str text

namespace Texts

variable {instruction rest : Members}

theorem single (key text : String) : Texts [(key, .str text)] := by
  intro e he
  rw [List.mem_singleton.mp he]
  exact ⟨text, rfl⟩

theorem cons (key text : String) (h : Texts rest) : Texts ((key, .str text) :: rest) := by
  intro e he
  obtain rfl | hmem := List.mem_cons.mp he
  · exact ⟨text, rfl⟩
  · exact h e hmem

theorem of_items (h : Texts instruction) : Texts (Dict.ofList instruction).items := by
  intro e he
  have hget := Dict.mem_items.mp he
  rw [Dict.get?_ofList] at hget
  exact h (e.1, e.2) (Dict.mem_of_written hget)

theorem allTexts_eq (h : Texts instruction) : allTexts instruction = true := by
  rw [allTexts, List.all_eq_true]
  intro value hvalue
  obtain ⟨entry, hentry, rfl⟩ := List.mem_map.mp hvalue
  obtain ⟨text, htext⟩ := h.of_items (entry.1, entry.2) (List.mem_map.mpr ⟨entry, hentry, rfl⟩)
  simp only at htext
  rw [htext]

/-- An instruction of texts is folded as it stands. -/
theorem flattened_eq (h : Texts instruction) :
    DeviceState.flattened instruction = (Dict.ofList instruction).items := by
  have hsingle : ∀ e ∈ (Dict.ofList instruction).items, DeviceState.memberWrites e = [e] := by
    rintro ⟨key, value⟩ he
    obtain ⟨text, htext⟩ := h.of_items _ he
    simp only at htext
    rw [htext]
    unfold DeviceState.memberWrites
    split
    next heq => cases heq
    next heq => cases heq
    next => rfl
  rw [DeviceState.flattened, Members.toDict, List.flatMap_congr hsingle]
  exact List.flatMap_singleton' _

end Texts

namespace HolabrainEntity

variable (entity : HolabrainEntity) {instruction : Members} {w : World}

/-- After the patch the keys of the instruction read as its values, the others as before. -/
theorem value_patchState (htexts : Texts instruction)
    (hstate : entity.thingCode ∈ (patchState entity.thingCode instruction w).states)
    {key : String} (hkey : key ≠ "") :
    entity.value (patchState entity.thingCode instruction w) key =
      (Dict.written instruction key).getD (entity.value w key) := by
  have hpatched := get?_patchState entity.thingCode instruction w entity.thingCode
  rw [if_pos ⟨htexts.allTexts_eq, rfl⟩] at hpatched
  rw [value, value, hpatched]
  cases hcurrent : w.states.get? entity.thingCode with
  | none =>
      rw [hcurrent, Option.map_none] at hpatched
      have hsome := Dict.get?_isSome_iff.mpr hstate
      rw [hpatched] at hsome
      cases hsome
  | some current =>
      simp only [Option.map_some, if_neg hkey, DeviceState.get, DeviceState.get?_applyPush,
        htexts.flattened_eq, Dict.written_items, Dict.get?_ofList]
      cases Dict.written instruction key <;> rfl

/-- A send either fails or patches the state that it finds after the answer. -/
theorem wp_asyncSend {env : Environment World ClientOp ClientAnswer}
    {post : Except Exn Unit → World → Prop}
    (hpatch : ∀ w', post (.ok ()) (patchState entity.thingCode instruction w'))
    (herror : ∀ exn w', post (.error exn) w') :
    Coro.wp env (entity.asyncSend instruction) post w := by
  rw [asyncSend, asyncSendInstruction, Client.asyncSendInstruction, Coro.wp_bind, Coro.wp_bind,
    Coro.wp_gets]
  dsimp only [id_eq]
  split
  · intro answer w' _
    cases answer with
    | ok reply => exact hpatch w'
    | error exn => exact herror exn w'
  · intro answer w' _
    cases answer with
    | ok reply => exact hpatch w'
    | error exn => exact herror exn w'

/-- Where any answer may come, a send may succeed. -/
theorem exists_of_wp_asyncSend {entity : HolabrainEntity}
    {post : Except Exn Unit → World → Prop}
    (h : Coro.wp (fun _ _ _ _ => True) (entity.asyncSend instruction) post w) :
    ∃ w', post (.ok ()) w' := by
  rw [asyncSend, asyncSendInstruction, Client.asyncSendInstruction, Coro.wp_bind, Coro.wp_bind,
    Coro.wp_gets] at h
  dsimp only [id_eq] at h
  split at h
  · exact ⟨_, h (.ok []) w trivial⟩
  · exact ⟨_, h (.ok []) w trivial⟩

end HolabrainEntity

/-- Whatever happens while the command is on its way, and whatever state it finds afterwards: if
it succeeds, the reading is what was set. -/
def ReadsBack {α : Type} (press : CoordM Unit) (thingCode : String) (reading : World → α)
    (setting : α) : Prop :=
  ∀ env w, Coro.wp env press
    (fun result w' => result = .ok () → thingCode ∈ w'.states → reading w' = setting) w

section ReadsBack

variable {α : Type} (entity : HolabrainEntity) {instruction : Members} {reading : World → α}
  {setting : α}

theorem readsBack_asyncSend
    (h : ∀ w, entity.thingCode ∈ (patchState entity.thingCode instruction w).states →
      reading (patchState entity.thingCode instruction w) = setting) :
    ReadsBack (entity.asyncSend instruction) entity.thingCode reading setting := by
  intro env w
  apply HolabrainEntity.wp_asyncSend
  · intro w' _ hstate
    exact h w' hstate
  · intro exn w' hok
    cases hok

/-- One text under one key. -/
theorem readsBack_single {key text : String} (hkey : key ≠ "")
    (h : ∀ w, entity.value w key = .str text → reading w = setting) :
    ReadsBack (entity.asyncSend [(key, .str text)]) entity.thingCode reading setting := by
  apply readsBack_asyncSend
  intro w hstate
  apply h
  rw [entity.value_patchState (.single key text) hstate hkey, Dict.written_cons, if_pos rfl]
  rfl

end ReadsBack

/-! ## Target temperatures -/

theorem toFloatOrNone_str_toString {q : ℚ} (h : Double.ofRat q = .finite q) :
    toFloatOrNone (.str (toString (truncate q))) = .ok (some (.finite (truncate q))) := by
  rw [toFloatOrNone, pyFloat, parseFloat_toString, Double.ofRat_truncate h]

/-! ## Water heaters -/

namespace WaterHeaterConfig

/-- The command settles the mode: in front of the flag that names it, every flag is written to
something else. -/
def decides (command : Command) (mode : String) : List (String × String × String) → Bool
  | [] => false
  | (key, expected, named) :: rest =>
      match Dict.written command key with
      | none => false
      | some value => if value = expected then named = mode else decides command mode rest

/-- Every mode is read from the flags that its command writes. -/
structure Decodes (cfg : WaterHeaterConfig) : Prop where
  target : cfg.targetTempKey ≠ ""
  keys : ∀ flag ∈ cfg.operationFlags, flag.1 ≠ ""
  commands : ∀ mode ∈ cfg.operations.map Prod.fst, ∃ command,
    (Dict.ofList cfg.operations).get? mode = some command ∧ command ≠ [] ∧
      decides command mode cfg.operationFlags = true

variable {cfg : WaterHeaterConfig} {thingCode : String}

theorem texts_members (command : Command) : Texts (Command.members command) := by
  intro e he
  obtain ⟨entry, -, rfl⟩ := List.mem_map.mp he
  exact ⟨entry.2, rfl⟩

theorem written_members (command : Command) (key : String) :
    Dict.written (Command.members command) key = (Dict.written command key).map Json.str := by
  induction command with
  | nil => rfl
  | cons e rest ih =>
      have hcons : Command.members (e :: rest) = (e.1, .str e.2) :: Command.members rest := rfl
      rw [hcons, Dict.written_cons, Dict.written_cons, ih]
      cases Dict.written rest key with
      | some value => rfl
      | none => by_cases hkey : key = e.1 <;> simp [hkey]

/-- The flag that decides is found, whatever stands behind it. -/
theorem find?_of_decides {command : Command} {mode : String} {read : String → Json}
    {flags : List (String × String × String)}
    (hread : ∀ flag ∈ flags, ∀ value, Dict.written command flag.1 = some value →
      read flag.1 = .str value) (h : decides command mode flags = true) :
    ∃ flag, ((flags.filter fun flag => decide (read flag.1 ≠ .null)).find? fun flag =>
      decide ((read flag.1).pyStr = flag.2.1)) = some flag ∧ flag.2.2 = mode := by
  induction flags with
  | nil => cases h
  | cons flag rest ih =>
      obtain ⟨key, expected, named⟩ := flag
      rw [decides] at h
      cases hvalue : Dict.written command key with
      | none => rw [hvalue] at h; cases h
      | some value =>
          rw [hvalue] at h
          have hkey := hread _ List.mem_cons_self value hvalue
          have hreported : decide (read key ≠ .null) = true := by
            rw [hkey]
            rfl
          have htext : (read key).pyStr = value := by
            rw [hkey]
            rfl
          have hfilter : ((key, expected, named) :: rest).filter
              (fun flag => decide (read flag.1 ≠ .null)) = (key, expected, named) ::
                rest.filter fun flag => decide (read flag.1 ≠ .null) :=
            List.filter_cons_of_pos hreported
          rw [hfilter]
          dsimp only at h
          split at h
          next hsame =>
            refine ⟨(key, expected, named), ?_, of_decide_eq_true h⟩
            rw [List.find?_cons_of_pos]
            exact decide_eq_true (htext.trans hsame)
          next hdiffers =>
            rw [List.find?_cons_of_neg]
            · exact ih (fun flag hflag => hread flag (List.mem_cons_of_mem _ hflag)) h
            · rw [htext]
              simpa using hdiffers

/-- Operation modes read back. -/
theorem readsBack_operationMode (h : Decodes cfg) {mode : String}
    (hmode : mode ∈ cfg.operations.map Prod.fst) :
    ReadsBack (cfg.asyncSetOperationMode thingCode mode) thingCode
      (cfg.currentOperation thingCode) (some mode) := by
  obtain ⟨command, hcommand, hne, hdecides⟩ := h.commands mode hmode
  have hsend : cfg.asyncSetOperationMode thingCode mode =
      (cfg.entity thingCode).asyncSend (Command.members command) := by
    rw [asyncSetOperationMode, hcommand]
    cases command with
    | nil => exact absurd rfl hne
    | cons e rest => rfl
  rw [hsend]
  apply readsBack_asyncSend
  intro w hstate
  have hread : ∀ flag ∈ cfg.operationFlags, ∀ value, Dict.written command flag.1 = some value →
      (cfg.entity thingCode).value (patchState thingCode (Command.members command) w) flag.1 =
        .str value := by
    intro flag hflag value hvalue
    have hpatched := (cfg.entity thingCode).value_patchState
      (texts_members command) hstate (h.keys flag hflag)
    rw [written_members, hvalue] at hpatched
    exact hpatched
  obtain ⟨flag, hfound, hnamed⟩ := find?_of_decides hread hdecides
  have hreading : cfg.currentOperation thingCode
      (patchState thingCode (Command.members command) w) = some flag.2.2 := by
    rw [currentOperation]
    simp only [hfound]
  exact hreading.trans (congrArg some hnamed)

theorem readsBack_targetTemperature (h : Decodes cfg) {q : ℚ} (hq : Double.ofRat q = .finite q) :
    ReadsBack (cfg.asyncSetTemperature thingCode (some (.finite q))) thingCode
      (cfg.targetTemperature thingCode) (.ok (some (.finite (truncate q)))) := by
  have hsend : ReadsBack ((cfg.entity thingCode).asyncSend
      [(cfg.targetTempKey, .str (toString (truncate q)))]) thingCode
        (cfg.targetTemperature thingCode) (.ok (some (.finite (truncate q)))) := by
    apply readsBack_single (cfg.entity thingCode) h.target
    intro w hvalue
    rw [targetTemperature, hvalue, toFloatOrNone_str_toString hq]
  intro env w
  rw [asyncSetTemperature, Coro.wp_bind, Coro.wp_gets]
  dsimp only
  split
  · intro hok
    cases hok
  · exact hsend env w

/-- The write is refused, with nothing sent and nothing changed. -/
def Refused (press : CoordM Unit) (w : World) : Prop :=
  ∀ env, Coro.wp env press
    (fun result w' => result = .error (.serviceValidation "smart_mode_locked") ∧ w' = w) w

/-- What is refused does not depend on the answers, and a send does. -/
theorem refused_asyncSetTemperature_iff (temperature : Double) (w : World) :
    Refused (cfg.asyncSetTemperature thingCode (some temperature)) w ↔
      cfg.tempLocked thingCode w = true := by
  constructor
  · intro hrefused
    by_contra hunlocked
    have hany := hrefused fun _ _ _ _ => True
    rw [asyncSetTemperature, Coro.wp_bind, Coro.wp_gets] at hany
    dsimp only at hany
    rw [if_neg hunlocked, Coro.wp_bind, Coro.wp_ofExcept] at hany
    cases temperature with
    | finite q =>
        obtain ⟨w', hresult, -⟩ := HolabrainEntity.exists_of_wp_asyncSend hany
        cases hresult
    | infinite negative =>
        obtain ⟨hresult, -⟩ := hany
        cases hresult
    | nan =>
        obtain ⟨hresult, -⟩ := hany
        cases hresult
  · intro hlocked env
    rw [asyncSetTemperature, Coro.wp_bind, Coro.wp_gets]
    dsimp only
    rw [hlocked, if_pos rfl]
    exact ⟨rfl, rfl⟩

/-- The first flag both locks the temperature and names the smart mode, and nothing else names
it. -/
structure LocksSmart (cfg : WaterHeaterConfig) (key value : String)
    (rest : List (String × String × String)) : Prop where
  locked : cfg.tempLockedWhen = some (key, value)
  flags : cfg.operationFlags = (key, value, "smart") :: rest
  others : ∀ flag ∈ rest, flag.2.2 ≠ "smart"
  fallback : cfg.defaultOperation ≠ "smart"
  -- what an absent key is compared as
  absent : value ≠ "None"

theorem currentOperation_eq_smart_iff {key value : String}
    {rest : List (String × String × String)} (h : LocksSmart cfg key value rest) (w : World) :
    cfg.tempLocked thingCode w = true ↔ cfg.currentOperation thingCode w = some "smart" := by
  have hrest : ∀ flag, (rest.filter fun flag =>
      decide ((cfg.entity thingCode).value w flag.1 ≠ .null)).find? (fun flag =>
        decide (((cfg.entity thingCode).value w flag.1).pyStr = flag.2.1)) = some flag →
      flag.2.2 ≠ "smart" := fun flag hfound =>
    h.others flag (List.mem_of_mem_filter (List.mem_of_find?_eq_some hfound))
  have hother : ∀ b : Bool, (if b then none else some cfg.defaultOperation) ≠ some "smart" := by
    intro b
    cases b with
    | true => exact (Option.some_ne_none _).symm
    | false => exact fun heq => h.fallback (Option.some.inj heq)
  simp only [tempLocked, currentOperation, h.locked, h.flags, List.filter_cons]
  by_cases hnull : (cfg.entity thingCode).value w key = .null
  · have hunlocked : ¬ ((cfg.entity thingCode).value w key).pyStr = value := by
      rw [hnull]
      exact fun heq => h.absent heq.symm
    rw [decide_eq_false hunlocked, if_neg (by simp [hnull])]
    apply iff_of_false Bool.false_ne_true
    split
    next flag hfound => exact fun heq => hrest flag hfound (Option.some.inj heq)
    next => exact hother _
  · rw [if_pos (decide_eq_true hnull), List.find?_cons]
    dsimp only
    by_cases hlocked : ((cfg.entity thingCode).value w key).pyStr = value
    · rw [decide_eq_true hlocked]
      exact iff_of_true rfl rfl
    · rw [decide_eq_false hlocked]
      apply iff_of_false Bool.false_ne_true
      split
      next flag hfound => exact fun heq => hrest flag hfound (Option.some.inj heq)
      next => exact hother _

end WaterHeaterConfig

/-! ## Air conditioners -/

namespace ClimateConfig

/-- The tables of codes are inverse to each other on what an air conditioner supports. -/
structure Decodes (cfg : ClimateConfig) : Prop where
  keys : cfg.powerKey ≠ "" ∧ cfg.modeKey ≠ "" ∧ cfg.fanKey ≠ "" ∧ cfg.targetTempKey ≠ ""
  distinct : cfg.powerKey ≠ cfg.modeKey
  modes : ∀ mode ∈ cfg.hvacModeCodes.map Prod.snd, mode ≠ hvacOff ∧
    ((codeToLabel (Dict.ofList cfg.hvacModeCodes).items).get? mode).bind
      (Dict.ofList cfg.hvacModeCodes).get? = some mode
  fans : ∀ fan ∈ cfg.fanModes.map Prod.fst,
    ((Dict.ofList cfg.fanModes).get? fan).bind (codeToLabel cfg.fanModes).get? = some fan

variable {cfg : ClimateConfig} {thingCode : String}

theorem readsBack_off (h : Decodes cfg) :
    ReadsBack (cfg.asyncSetHvacMode thingCode hvacOff) thingCode (cfg.hvacMode thingCode)
      (some hvacOff) := by
  rw [asyncSetHvacMode, if_pos rfl]
  apply readsBack_single (cfg.entity thingCode) h.keys.1
  intro w hvalue
  rw [hvacMode, hvalue]
  exact if_pos rfl

theorem readsBack_hvacMode (h : Decodes cfg) {mode : String}
    (hmode : mode ∈ cfg.hvacModeCodes.map Prod.snd) :
    ReadsBack (cfg.asyncSetHvacMode thingCode mode) thingCode (cfg.hvacMode thingCode)
      (some mode) := by
  obtain ⟨hon, hinverse⟩ := h.modes mode hmode
  obtain ⟨code, hcode, hback⟩ := Option.bind_eq_some_iff.mp hinverse
  have htexts : Texts [(cfg.powerKey, .str "1"), (cfg.modeKey, .str code)] :=
    .cons _ _ (.single _ _)
  rw [asyncSetHvacMode, if_neg hon, hcode]
  apply readsBack_asyncSend (cfg.entity thingCode)
  intro w hstate
  have hpower := (cfg.entity thingCode).value_patchState htexts hstate h.keys.1
  have hvalue := (cfg.entity thingCode).value_patchState htexts hstate h.keys.2.1
  rw [Dict.written_cons, Dict.written_cons, Dict.written_nil, if_neg h.distinct, if_pos rfl,
    Option.or_none, Option.none_or, Option.getD_some] at hpower
  rw [Dict.written_cons, Dict.written_cons, Dict.written_nil, if_pos rfl, Option.none_or,
    Option.some_or, Option.getD_some] at hvalue
  have hone : ¬ (Json.str "1").pyStr = "0" := by decide
  rw [hvacMode, hpower, hvalue]
  exact (if_neg hone).trans hback

theorem readsBack_fanMode (h : Decodes cfg) {fan : String}
    (hfan : fan ∈ cfg.fanModes.map Prod.fst) :
    ReadsBack (cfg.asyncSetFanMode thingCode fan) thingCode (cfg.fanMode thingCode)
      (some fan) := by
  obtain ⟨code, hcode, hback⟩ := Option.bind_eq_some_iff.mp (h.fans fan hfan)
  rw [asyncSetFanMode, hcode]
  apply readsBack_single (cfg.entity thingCode) h.keys.2.2.1
  intro w hvalue
  rw [fanMode, hvalue]
  exact hback

theorem readsBack_targetTemperature (h : Decodes cfg) {q : ℚ} (hq : Double.ofRat q = .finite q) :
    ReadsBack (cfg.asyncSetTemperature thingCode (some (.finite q))) thingCode
      (cfg.targetTemperature thingCode) (.ok (some (.finite (truncate q)))) := by
  apply readsBack_single (cfg.entity thingCode) h.keys.2.2.2
  intro w hvalue
  rw [targetTemperature, hvalue, toFloatOrNone_str_toString hq]

end ClimateConfig

/-! ## Lamps -/

namespace LightConfig

/-- The keys of a lamp are told apart, its power is, and its effects have codes of their own. -/
structure Decodes (cfg : LightConfig) : Prop where
  keys : (cfg.powerKey :: cfg.brightnessKey.toList ++ cfg.colorTempKey.toList ++
    cfg.effectKey.toList).Nodup ∧ cfg.powerKey ≠ "" ∧ ∀ key ∈ cfg.effectKey, key ≠ ""
  power : cfg.powerOff ≠ cfg.powerOn
  bright : (configured cfg.brightnessKey).isSome
  effects : cfg.effectKey.isSome ∧ ∀ effect ∈ cfg.effects.map Prod.fst,
    ((Dict.ofList cfg.effects).get? effect).bind (codeToLabel cfg.effects).get? = some effect

variable {cfg : LightConfig} {thingCode : String}

theorem readsBack_off (h : Decodes cfg) :
    ReadsBack (cfg.asyncTurnOff thingCode) thingCode (cfg.isOn thingCode) (some false) := by
  apply readsBack_single (cfg.entity thingCode) h.keys.2.1
  intro w hvalue
  rw [isOn, hvalue]
  exact congrArg some (decide_eq_false h.power)

/-- The part of an instruction that sets the brightness. -/
def brightPart (cfg : LightConfig) (request : LightRequest) : Members :=
  match request.brightness, configured cfg.brightnessKey with
  | some level, some key => [(key, .str (toString level))]
  | _, _ => []

/-- The part that sets the effect. -/
def scenePart (cfg : LightConfig) (request : LightRequest) : Members :=
  match request.effect.bind (Dict.ofList cfg.effects).get?, cfg.effectKey with
  | some code, some key => [(key, .str code)]
  | _, _ => []

/-- Every part of an instruction writes a text under its own key. -/
def IsPart (key : Option String) (part : Members) : Prop :=
  part = [] ∨ ∃ name text, key = some name ∧ part = [(name, .str text)]

theorem isPart_bright (request : LightRequest) :
    IsPart cfg.brightnessKey (cfg.brightPart request) := by
  rw [brightPart]
  split
  next level key hlevel hkey =>
    exact .inr ⟨key, toString level, (Option.filter_eq_some_iff.mp hkey).1, rfl⟩
  next => exact .inl rfl

theorem isPart_scene (request : LightRequest) : IsPart cfg.effectKey (cfg.scenePart request) := by
  rw [scenePart]
  split
  next code key hcode hkey => exact .inr ⟨key, code, hkey, rfl⟩
  next => exact .inl rfl

theorem turnOnInstruction_eq {request : LightRequest} {instruction : Members}
    (h : cfg.turnOnInstruction request = .ok instruction) :
    ∃ colour, IsPart cfg.colorTempKey colour ∧ instruction =
      (Dict.ofList ((cfg.powerKey, .str cfg.powerOn) :: cfg.brightPart request ++ colour ++
        cfg.scenePart request)).items := by
  rw [turnOnInstruction] at h
  cases hkelvin : request.colorTempKelvin with
  | none =>
      rw [hkelvin] at h
      exact ⟨[], .inl rfl, (Except.ok.inj h).symm⟩
  | some kelvin =>
      cases hkey : configured cfg.colorTempKey with
      | none =>
          rw [hkelvin, hkey] at h
          exact ⟨[], .inl rfl, (Except.ok.inj h).symm⟩
      | some key =>
          rw [hkelvin, hkey] at h
          cases hdevice : cfg.kelvinToDevice kelvin with
          | error exn =>
              simp only [hdevice] at h
              cases h
          | ok device =>
              simp only [hdevice] at h
              exact ⟨[(key, .str (toString device))],
                .inr ⟨key, _, (Option.filter_eq_some_iff.mp hkey).1, rfl⟩,
                (Except.ok.inj h).symm⟩

theorem IsPart.texts {key : Option String} {part : Members} (h : IsPart key part) :
    Texts part := by
  obtain rfl | ⟨name, text, -, rfl⟩ := h
  · exact fun e he => absurd he List.not_mem_nil
  · exact .single name text

theorem IsPart.written_eq_none {key : Option String} {part : Members} (h : IsPart key part)
    {other : String} (hother : other ∉ key.toList) : Dict.written part other = none := by
  rw [Dict.written_eq_none_iff]
  obtain rfl | ⟨name, text, rfl, rfl⟩ := h
  · exact fun e he => absurd he List.not_mem_nil
  · intro e he heq
    rw [List.mem_singleton.mp he] at heq
    exact hother (List.mem_singleton.mpr heq.symm)

/-- What an instruction writes is what the lamp reads. -/
theorem readsBack_turnOn {α : Type} {request : LightRequest} {reading : World → α} {setting : α}
    (h : ∀ colour, IsPart cfg.colorTempKey colour → ∀ w, (∀ key value, key ≠ "" →
      Dict.written ((cfg.powerKey, .str cfg.powerOn) :: cfg.brightPart request ++ colour ++
        cfg.scenePart request) key = some value → (cfg.entity thingCode).value w key = value) →
      reading w = setting) :
    ReadsBack (cfg.asyncTurnOn thingCode request) thingCode reading setting := by
  intro env w
  rw [asyncTurnOn, Coro.wp_bind, Coro.wp_ofExcept]
  cases hinstruction : cfg.turnOnInstruction request with
  | error exn =>
      intro hok
      cases hok
  | ok instruction =>
      obtain ⟨colour, hcolour, rfl⟩ := turnOnInstruction_eq hinstruction
      have htexts : Texts ((cfg.powerKey, .str cfg.powerOn) :: cfg.brightPart request ++ colour ++
          cfg.scenePart request) := by
        intro e he
        simp only [List.cons_append, List.mem_cons, List.mem_append] at he
        obtain rfl | (hbright | hcolour') | hscene := he
        · exact ⟨cfg.powerOn, rfl⟩
        · exact (isPart_bright request).texts e hbright
        · exact hcolour.texts e hcolour'
        · exact (isPart_scene request).texts e hscene
      revert env w
      apply readsBack_asyncSend (cfg.entity thingCode)
      intro w hstate
      apply h colour hcolour
      intro key value hkey hvalue
      have hpatched := (cfg.entity thingCode).value_patchState
        htexts.of_items hstate hkey
      rw [Dict.written_items, Dict.get?_ofList, hvalue] at hpatched
      exact hpatched

/-- No two parts have a key in common. -/
theorem Decodes.disjoint (h : Decodes cfg) :
    (∀ key ∈ cfg.brightnessKey, key ≠ cfg.powerKey ∧ key ∉ cfg.colorTempKey.toList ∧
      key ∉ cfg.effectKey.toList) ∧
    (∀ key ∈ cfg.effectKey, key ≠ cfg.powerKey) ∧ cfg.powerKey ∉ cfg.brightnessKey.toList ∧
      cfg.powerKey ∉ cfg.colorTempKey.toList ∧ cfg.powerKey ∉ cfg.effectKey.toList := by
  have hnodup := h.keys.1
  simp only [List.cons_append, List.nodup_cons, List.mem_append, not_or, List.nodup_append]
    at hnodup
  obtain ⟨⟨⟨hbright, hcolour⟩, hscene⟩, ⟨-, -, hcross⟩, -, happart⟩ := hnodup
  refine ⟨fun key hkey => ⟨?_, ?_, ?_⟩, ?_, hbright, hcolour, hscene⟩
  · rintro rfl
    exact hbright (Option.mem_toList.mpr hkey)
  · intro hother
    exact hcross key (Option.mem_toList.mpr hkey) key hother rfl
  · intro hother
    exact happart key (.inl (Option.mem_toList.mpr hkey)) key hother rfl
  · rintro key hkey rfl
    exact hscene (Option.mem_toList.mpr hkey)

theorem readsBack_on (h : Decodes cfg) (request : LightRequest) :
    ReadsBack (cfg.asyncTurnOn thingCode request) thingCode (cfg.isOn thingCode) (some true) := by
  apply readsBack_turnOn
  intro colour hcolour w hread
  obtain ⟨-, -, hbright, hcolour', hscene⟩ := h.disjoint
  have hwritten : Dict.written ((cfg.powerKey, .str cfg.powerOn) :: cfg.brightPart request ++
      colour ++ cfg.scenePart request) cfg.powerKey = some (.str cfg.powerOn) := by
    rw [Dict.written_append, Dict.written_append, Dict.written_cons,
      (isPart_scene request).written_eq_none hscene, hcolour.written_eq_none hcolour',
      (isPart_bright request).written_eq_none hbright]
    simp
  rw [isOn, hread _ _ h.keys.2.1 hwritten]
  exact congrArg some (decide_eq_true rfl)

theorem readsBack_brightness (h : Decodes cfg) {request : LightRequest} {level : ℤ} {key : String}
    (hlevel : request.brightness = some level) (hkey : configured cfg.brightnessKey = some key)
    (hdigits : level.natAbs < 10 ^ intMaxStrDigits) :
    ReadsBack (cfg.asyncTurnOn thingCode request) thingCode (cfg.brightness thingCode)
      (.ok (some level)) := by
  apply readsBack_turnOn
  intro colour hcolour w hread
  obtain ⟨hconfigured, hname⟩ := Option.filter_eq_some_iff.mp hkey
  obtain ⟨hpower, hcolour', hscene⟩ := h.disjoint.1 key hconfigured
  have hbright : cfg.brightPart request = [(key, .str (toString level))] := by
    rw [brightPart, hlevel, hkey]
  have hwritten : Dict.written ((cfg.powerKey, .str cfg.powerOn) :: cfg.brightPart request ++
      colour ++ cfg.scenePart request) key = some (.str (toString level)) := by
    rw [Dict.written_append, Dict.written_append, Dict.written_cons,
      (isPart_scene request).written_eq_none hscene, hcolour.written_eq_none hcolour', hbright]
    simp [Dict.written_cons, Dict.written_nil]
  rw [brightness, hkey]
  dsimp only
  rw [hread _ _ (of_decide_eq_true hname) hwritten, pyIntOrNone, parseInt_toString hdigits]

theorem readsBack_effect (h : Decodes cfg) {request : LightRequest} {effect : String}
    (hasked : request.effect = some effect) (heffect : effect ∈ cfg.effects.map Prod.fst) :
    ReadsBack (cfg.asyncTurnOn thingCode request) thingCode (cfg.effect thingCode)
      (some effect) := by
  apply readsBack_turnOn
  intro colour hcolour w hread
  obtain ⟨key, hkey⟩ := Option.isSome_iff_exists.mp h.effects.1
  obtain ⟨code, hcode, hback⟩ := Option.bind_eq_some_iff.mp (h.effects.2 effect heffect)
  have hscene : cfg.scenePart request = [(key, .str code)] := by
    rw [scenePart, hasked, Option.bind_some, hcode, hkey]
  have hwritten : Dict.written ((cfg.powerKey, .str cfg.powerOn) :: cfg.brightPart request ++
      colour ++ cfg.scenePart request) key = some (.str code) := by
    rw [Dict.written_append, hscene]
    simp [Dict.written_cons, Dict.written_nil]
  have hsome : cfg.effects.isEmpty = false := by
    rw [List.isEmpty_eq_false_iff]
    rintro hnil
    rw [hnil] at heffect
    cases heffect
  rw [LightConfig.effect, hsome, if_neg Bool.false_ne_true, hkey, Option.getD_some,
    hread _ _ (h.keys.2.2 key hkey) hwritten]
  exact hback

end LightConfig

/-! ## What the registry holds -/

section Registered

variable {category : CategorySpec}

theorem WaterHeaterConfig.decodes_of_registered {cfg : WaterHeaterConfig}
    (hcategory : category ∈ categories) (hcfg : category.waterHeater = some cfg) :
    Decodes cfg ∧ LocksSmart cfg "cloudSmart" "1"
      [("bodyNum", "1", "single"), ("bodyNum", "2", "double")] := by
  simp only [categories, List.mem_cons, List.not_mem_nil, or_false] at hcategory
  obtain rfl | rfl | rfl | rfl | rfl | rfl := hcategory <;> cases hcfg
  refine ⟨⟨by decide, by decide, ?_⟩, ⟨rfl, rfl, by decide, by decide, by decide⟩⟩
  intro mode hmode
  simp only [List.map_cons, List.map_nil, List.mem_cons, List.not_mem_nil, or_false] at hmode
  obtain rfl | rfl | rfl := hmode
  · exact ⟨_, rfl, by decide, by decide⟩
  · exact ⟨_, rfl, by decide, by decide⟩
  · exact ⟨_, rfl, by decide, by decide⟩

theorem ClimateConfig.decodes_of_registered {cfg : ClimateConfig}
    (hcategory : category ∈ categories) (hcfg : category.climate = some cfg) : Decodes cfg := by
  simp only [categories, List.mem_cons, List.not_mem_nil, or_false] at hcategory
  obtain rfl | rfl | rfl | rfl | rfl | rfl := hcategory <;> cases hcfg
  exact ⟨by decide, by decide, by decide, by decide⟩

theorem LightConfig.decodes_of_registered {cfg : LightConfig}
    (hcategory : category ∈ categories) (hcfg : category.light = some cfg) : Decodes cfg := by
  simp only [categories, List.mem_cons, List.not_mem_nil, or_false] at hcategory
  obtain rfl | rfl | rfl | rfl | rfl | rfl := hcategory <;> cases hcfg
  exact ⟨by decide, by decide, by decide, by decide⟩

/-- What a water heater is set to reads back, and the smart mode refuses a temperature. -/
structure WaterHeaterConfig.Settles (cfg : WaterHeaterConfig) (thingCode : String) : Prop where
  operation : ∀ mode ∈ cfg.operations.map Prod.fst,
    ReadsBack (cfg.asyncSetOperationMode thingCode mode) thingCode
      (cfg.currentOperation thingCode) (some mode)
  target : ∀ q, Double.ofRat q = .finite q →
    ReadsBack (cfg.asyncSetTemperature thingCode (some (.finite q))) thingCode
      (cfg.targetTemperature thingCode) (.ok (some (.finite (truncate q))))
  refusal : ∀ temperature w, Refused (cfg.asyncSetTemperature thingCode (some temperature)) w ↔
    cfg.currentOperation thingCode w = some "smart"

structure ClimateConfig.Settles (cfg : ClimateConfig) (thingCode : String) : Prop where
  off : ReadsBack (cfg.asyncSetHvacMode thingCode hvacOff) thingCode (cfg.hvacMode thingCode)
    (some hvacOff)
  hvac : ∀ mode ∈ cfg.hvacModeCodes.map Prod.snd,
    ReadsBack (cfg.asyncSetHvacMode thingCode mode) thingCode (cfg.hvacMode thingCode) (some mode)
  fan : ∀ fan ∈ cfg.fanModes.map Prod.fst,
    ReadsBack (cfg.asyncSetFanMode thingCode fan) thingCode (cfg.fanMode thingCode) (some fan)
  target : ∀ q, Double.ofRat q = .finite q →
    ReadsBack (cfg.asyncSetTemperature thingCode (some (.finite q))) thingCode
      (cfg.targetTemperature thingCode) (.ok (some (.finite (truncate q))))

/-- A lamp is set by requests of any make: whatever else one asks for, its part reads back. -/
structure LightConfig.Settles (cfg : LightConfig) (thingCode : String) : Prop where
  off : ReadsBack (cfg.asyncTurnOff thingCode) thingCode (cfg.isOn thingCode) (some false)
  on : ∀ request,
    ReadsBack (cfg.asyncTurnOn thingCode request) thingCode (cfg.isOn thingCode) (some true)
  level : (configured cfg.brightnessKey).isSome ∧
    ∀ request, ∀ level ∈ request.brightness, level.natAbs < 10 ^ intMaxStrDigits →
      ReadsBack (cfg.asyncTurnOn thingCode request) thingCode (cfg.brightness thingCode)
        (.ok (some level))
  scene : ∀ request, ∀ effect ∈ request.effect, effect ∈ cfg.effects.map Prod.fst →
    ReadsBack (cfg.asyncTurnOn thingCode request) thingCode (cfg.effect thingCode) (some effect)

/-- Native controls read back what they wrote, over whatever the appliance had reported. -/
theorem native_controls_read_back (hcategory : category ∈ categories) (thingCode : String) :
    (∀ cfg ∈ category.waterHeater, cfg.Settles thingCode) ∧
      (∀ cfg ∈ category.climate, cfg.Settles thingCode) ∧
        ∀ cfg ∈ category.light, cfg.Settles thingCode := by
  refine ⟨fun cfg hcfg => ?_, fun cfg hcfg => ?_, fun cfg hcfg => ?_⟩
  · obtain ⟨hdecodes, hlocks⟩ := WaterHeaterConfig.decodes_of_registered hcategory hcfg
    exact
      { operation := fun mode hmode => WaterHeaterConfig.readsBack_operationMode hdecodes hmode
        target := fun q hq => WaterHeaterConfig.readsBack_targetTemperature hdecodes hq
        refusal := fun temperature w =>
          (WaterHeaterConfig.refused_asyncSetTemperature_iff temperature w).trans
            (WaterHeaterConfig.currentOperation_eq_smart_iff hlocks w) }
  · have hdecodes := ClimateConfig.decodes_of_registered hcategory hcfg
    exact
      { off := ClimateConfig.readsBack_off hdecodes
        hvac := fun mode hmode => ClimateConfig.readsBack_hvacMode hdecodes hmode
        fan := fun fan hfan => ClimateConfig.readsBack_fanMode hdecodes hfan
        target := fun q hq => ClimateConfig.readsBack_targetTemperature hdecodes hq }
  · have hdecodes := LightConfig.decodes_of_registered hcategory hcfg
    have hbright := hdecodes.bright
    obtain ⟨key, hkey⟩ := Option.isSome_iff_exists.mp hbright
    exact
      { off := LightConfig.readsBack_off hdecodes
        on := LightConfig.readsBack_on hdecodes
        level := ⟨hbright, fun request level hlevel hdigits =>
          LightConfig.readsBack_brightness hdecodes hlevel hkey hdigits⟩
        scene := fun request effect hasked heffect =>
          LightConfig.readsBack_effect hdecodes hasked heffect }

theorem native_controls_read_back_water_heater :
    Registry.waterHeater ∈ categories ∧
      ∀ cfg ∈ Registry.waterHeater.waterHeater, cfg.Settles "heater" := by
  have hregistered : Registry.waterHeater ∈ categories := by simp [categories]
  exact ⟨hregistered, (native_controls_read_back hregistered "heater").1⟩

end Registered

end Holabrain
