import Holabrain.Core.FirstWins
import Holabrain.Cloud.Number
import Holabrain.Cloud.Resolvers

/-!
# The capability dictionary

The cloud's dictionary for a model is a list of feature tokens and parameter objects, bare, inside
an object, or as JSON text of either.  `readDictionary` takes it apart as the source does; what
comes out is described by `Parsed`, over the members of the list in reading order.
-/

namespace Holabrain

namespace DictGetResolver

def epFunctionDict : String := "/v1/product/function/dict/get"

/-! ## `_split_dict_payload` -/

/-- `json.loads`, which raises a built-in exception of the given class, with only its
`JSONDecodeError` reported as an error of the client. -/
def decodeText (loads : String → Except String Json) (model text : String) : Except Exn Json :=
  match loads text with
  | .ok value => .ok value
  | .error "JSONDecodeError" => .error (.dollin (.apiError
      ("capability dict for " ++ model ++ " was not valid JSON") none))
  | .error name => .error (.builtin name)

/-- The body, decoded where it is a text. -/
def decodeBody (loads : String → Except String Json) (model : String) : Json → Except Exn Json
  | .str text => decodeText loads model text
  | raw => .ok raw

/-- The program list a model is narrowed to. -/
def modeSubset (config : Members) : Dict String Json :=
  match (config.get "moduleParams").asObj.bind fun params => (params.get "mode").asArr with
  | some modes => Dict.empty.setItem "mode_subset" (.arr (modes.map fun m => .str m.pyStr))
  | none => Dict.empty

/-- The program list and the door-opening map of an object. -/
def extraParams (body : Members) : Dict String Json :=
  match (body.get "sn8Config").asObj with
  | none => Dict.empty
  | some config =>
      if config.get "openType" = .null then modeSubset config
      else (modeSubset config).setItem "open_type" (.str (config.get "openType").pyStr)

/-- The feature list of an object. -/
def moduleItems (body : Members) : List Json := (body.get "module").asArr.getD []

def splitDecoded (model : String) : Json → Except Exn (List Json × Dict String Json)
  | .arr items => .ok (items, Dict.empty)
  | .obj body =>
      if moduleItems body = [] ∧ (extraParams body).isEmpty then .error (.dollin (.apiError
        ("capability dict for " ++ model ++ " carried no feature list") none))
      else .ok (moduleItems body, extraParams body)
  | _ => .error (.dollin (.apiError ("capability dict for " ++ model ++ " had unexpected type")
      none))

/-- `_split_dict_payload`. -/
def splitDictPayload (loads : String → Except String Json) (raw : Json) (model : String) :
    Except Exn (List Json × Dict String Json) := do
  let raw ← decodeBody loads model raw
  splitDecoded model raw

/-! ## `parse_capability` -/

/-- The features and parameters gathered so far. -/
abbrev Gathered := Finset String × Dict String Json

def addMember (acc : Gathered) (member : String × Json) : Gathered :=
  (insert member.1 acc.1, acc.2.setItem member.1 member.2)

def addItem (acc : Gathered) : Json → Gathered
  | .str token => (insert token acc.1, acc.2)
  | .obj entry => (Members.toDict entry).items.foldl addMember acc
  | _ => acc

def addCodes (codes : Dict String Json) : Json → Dict String Json
  | .obj entry =>
      codes.update ((Members.toDict entry).items.map fun e => (e.1, .str e.2.pyStr))
  | _ => codes

/-- The parallel mode and value arrays as one map. -/
def withModeCodes (params : Dict String Json) : Dict String Json :=
  match params.get? "modelValue" with
  | some (.arr values) =>
      params.setItem "mode_codes" (.obj (values.foldl addCodes Dict.empty).items)
  | _ => params

/-- `key.endswith("_gear")`. -/
def isGearKey (key : String) : Bool := "_gear".toList.isSuffixOf key.toList

/-- One gear maximum, made numeric. -/
def coerceGear (params : Dict String Json) (entry : String × Json) :
    Except Exn (Dict String Json) :=
  match entry.2 with
  | .str text =>
      if isGearKey entry.1 = true ∧ isDigitText text = true then
        match parseInt text with
        | some n => .ok (params.setItem entry.1 (.int n))
        | none => .error (.builtin "ValueError")
      else .ok params
  | _ => .ok params

def coerceGears (params : Dict String Json) : Except Exn (Dict String Json) :=
  params.items.foldlM coerceGear params

/-- `parse_capability`. -/
def parseCapability (items : List Json) (model deviceType : String)
    (extra : Dict String Json) : Except Exn CapabilityProfile := do
  let gathered := items.foldl addItem (∅, Dict.empty)
  let params ← coerceGears (withModeCodes gathered.2)
  return {
    model := model
    features := gathered.1
    params := params.update extra.items
    deviceType := deviceType }

/-- `async_get_profile` once the cloud has answered. -/
def readDictionary (loads : String → Except String Json) (raw : Json) (model deviceType : String) :
    Except Exn CapabilityProfile := do
  let payload ← splitDictPayload loads raw model
  parseCapability payload.1 model deviceType payload.2

/-- A dictionary that is read like this is what the resolver makes of it. -/
theorem dictResolve_eq (loads : String → Except String Json) (raw : Json) (ctx : ResolutionContext)
    (hmodel : ctx.model ≠ "") :
    dictResolve (fun model => (readDictionary loads raw model ctx.deviceType).map fun profile =>
        (profile.features, profile.params)) ctx =
      (readDictionary loads raw ctx.model ctx.deviceType).map some := by
  rw [dictResolve, if_neg hmodel, readDictionary]
  cases splitDictPayload loads raw ctx.model with
  | error exn => rfl
  | ok payload =>
      simp only [bind, Except.bind, parseCapability]
      cases coerceGears (withModeCodes (payload.1.foldl addItem (∅, Dict.empty)).2) <;> rfl

/-! ## What is gathered -/

/-- The members of an entry; none for one that is no object. -/
def membersOf (item : Json) : List (String × Json) :=
  match item with
  | .obj entry => (Members.toDict entry).items
  | _ => []

/-- The parameters before any of them is changed. -/
def rawParams (items : List Json) : Dict String Json := Dict.ofList (items.flatMap membersOf)

theorem foldl_addMember (acc : Gathered) (entries : List (String × Json)) :
    entries.foldl addMember acc =
      (acc.1 ∪ (entries.map Prod.fst).toFinset, acc.2.update entries) := by
  induction entries generalizing acc with
  | nil =>
      ext1
      · simp
      · rfl
  | cons e rest ih =>
      rw [List.foldl_cons, ih, addMember, List.map_cons, List.toFinset_cons,
        Finset.insert_union, Finset.union_insert]
      rfl

theorem params_foldl_addItem (items : List Json) (acc : Gathered) :
    (items.foldl addItem acc).2 = acc.2.update (items.flatMap membersOf) := by
  induction items generalizing acc with
  | nil => rfl
  | cons item rest ih =>
      rw [List.foldl_cons, ih, List.flatMap_cons, Dict.update_append]
      congr 1
      cases item with
      | obj entry => rw [addItem, foldl_addMember]; rfl
      | _ => rfl

/-- A feature is a bare token or the key of an entry. -/
def Advertises (items : List Json) (feature : String) : Prop :=
  .str feature ∈ items ∨ ∃ entry, .obj entry ∈ items ∧ feature ∈ entry.map Prod.fst

theorem mem_addItem (acc : Gathered) (item : Json) (feature : String) :
    feature ∈ (addItem acc item).1 ↔ feature ∈ acc.1 ∨ Advertises [item] feature := by
  cases item with
  | str token => simp [addItem, Advertises, or_comm, eq_comm]
  | obj entry =>
      rw [addItem, foldl_addMember, Finset.mem_union, List.mem_toFinset, Dict.mem_map_fst_items,
        Members.toDict, Dict.mem_ofList]
      simp [Advertises]
  | _ => simp [addItem, Advertises]

theorem mem_features_foldl_addItem (items : List Json) (feature : String) :
    feature ∈ (items.foldl addItem (∅, Dict.empty)).1 ↔ Advertises items feature := by
  rw [foldl_established (fun acc : Gathered => feature ∈ acc.1) fun acc item =>
    mem_addItem acc item feature]
  simp only [Finset.notMem_empty, false_or, Advertises, List.mem_singleton]
  constructor
  · rintro ⟨item, hmem, heq | ⟨entry, heq, hkey⟩⟩
    · exact .inl (heq ▸ hmem)
    · exact .inr ⟨entry, heq ▸ hmem, hkey⟩
  · rintro (hmem | ⟨entry, hmem, hkey⟩)
    · exact ⟨_, hmem, .inl rfl⟩
    · exact ⟨_, hmem, .inr ⟨entry, rfl, hkey⟩⟩

theorem rawParams_eq (items : List Json) :
    (items.foldl addItem (∅, Dict.empty)).2 = rawParams items :=
  params_foldl_addItem items (∅, Dict.empty)

/-! ## The map of modes -/

/-- The members of the value objects, every value as a text. -/
def codeEntries (values : List Json) : List (String × Json) :=
  (values.flatMap membersOf).map fun e => (e.1, .str e.2.pyStr)

/-- The map of modes is the members of the value objects, written one after the other. -/
theorem foldl_addCodes (values : List Json) :
    values.foldl addCodes Dict.empty = Dict.ofList (codeEntries values) := by
  have hfold : ∀ codes : Dict String Json,
      values.foldl addCodes codes = codes.update (codeEntries values) := by
    induction values with
    | nil => exact fun _ => rfl
    | cons value rest ih =>
        intro codes
        rw [List.foldl_cons, ih, codeEntries, codeEntries, List.flatMap_cons, List.map_append,
          Dict.update_append]
        congr 1
        cases value <;> rfl
  exact hfold Dict.empty

theorem get?_withModeCodes_of_ne (params : Dict String Json) {key : String}
    (h : key ≠ "mode_codes") : (withModeCodes params).get? key = params.get? key := by
  rw [withModeCodes]
  split
  · exact Dict.get?_setItem_of_ne _ _ h
  · rfl

theorem get?_withModeCodes {params : Dict String Json} {values : List Json}
    (h : params.get? "modelValue" = some (.arr values)) :
    (withModeCodes params).get? "mode_codes" =
      some (.obj (Dict.ofList (codeEntries values)).items) := by
  simp only [withModeCodes, h]
  rw [Dict.get?_setItem_self, foldl_addCodes]

/-! ## Gears -/

/-- A gear maximum `isdigit` accepts and `int` refuses. -/
def UnreadableGear (key : String) (value : Json) : Prop :=
  ∃ text, value = .str text ∧ isGearKey key = true ∧ isDigitText text = true ∧
    parseInt text = none

/-- The value a parameter has after the coercion. -/
def coerced (key : String) (value : Json) : Json :=
  match value with
  | .str text => if isGearKey key = true ∧ isDigitText text = true then
      ((parseInt text).map Json.int).getD value else value
  | _ => value

/-- One step either fails on an unreadable gear or leaves the coerced value. -/
theorem coerceGear_cases (params : Dict String Json) {key : String} {value : Json}
    (h : params.get? key = some value) :
    UnreadableGear key value ∧ coerceGear params (key, value) = .error (.builtin "ValueError") ∨
      ¬ UnreadableGear key value ∧ ∃ params', coerceGear params (key, value) = .ok params' ∧
        ∀ other, params'.get? other =
          if other = key then some (coerced key value) else params.get? other := by
  have hsame : coerced key value = value → ∀ other, params.get? other =
      if other = key then some (coerced key value) else params.get? other := by
    intro heq other
    by_cases hother : other = key
    · rw [if_pos hother, heq, hother, h]
    · rw [if_neg hother]
  cases value with
  | str text =>
      by_cases hdigits : isGearKey key = true ∧ isDigitText text = true
      · cases hread : parseInt text with
        | none =>
            refine .inl ⟨⟨text, rfl, hdigits.1, hdigits.2, hread⟩, ?_⟩
            simp only [coerceGear, if_pos hdigits, hread]
        | some n =>
            refine .inr ⟨?_, params.setItem key (.int n), ?_, fun other => ?_⟩
            · rintro ⟨text', heq, -, -, hnone⟩
              cases heq
              rw [hread] at hnone
              cases hnone
            · simp only [coerceGear, if_pos hdigits, hread]
            · simp only [Dict.get?_setItem, coerced, if_pos hdigits, hread]
              rfl
      · refine .inr ⟨?_, params, ?_, hsame ?_⟩
        · rintro ⟨text', heq, hkey, hdigit, -⟩
          cases heq
          exact hdigits ⟨hkey, hdigit⟩
        · simp only [coerceGear, if_neg hdigits]
        · simp only [coerced, if_neg hdigits]
  | _ =>
      refine .inr ⟨?_, params, rfl, hsame rfl⟩
      rintro ⟨text, heq, -⟩
      cases heq

/-- The loop over entries that all stand in the parameters, each under its own key. -/
theorem foldlM_coerceGear (entries : List (String × Json))
    (hnodup : (entries.map Prod.fst).Nodup) (params : Dict String Json)
    (hparams : ∀ e ∈ entries, params.get? e.1 = some e.2) :
    (∃ e ∈ entries, UnreadableGear e.1 e.2) ∧
        entries.foldlM coerceGear params = .error (.builtin "ValueError") ∨
      (∀ e ∈ entries, ¬ UnreadableGear e.1 e.2) ∧
        ∃ params', entries.foldlM coerceGear params = .ok params' ∧
          ∀ key, params'.get? key = if key ∈ entries.map Prod.fst then
            (params.get? key).map (coerced key) else params.get? key := by
  induction entries generalizing params with
  | nil => exact .inr ⟨nofun, params, rfl, fun _ => rfl⟩
  | cons e rest ih =>
      obtain ⟨key, value⟩ := e
      rw [List.map_cons, List.nodup_cons] at hnodup
      have hvalue := hparams (key, value) List.mem_cons_self
      rw [List.foldlM_cons]
      obtain ⟨hunreadable, herror⟩ | ⟨hreadable, params', hok, hafter⟩ :=
        coerceGear_cases params hvalue
      · exact .inl ⟨⟨_, List.mem_cons_self, hunreadable⟩, by rw [herror]; rfl⟩
      · have hrest : ∀ e ∈ rest, params'.get? e.1 = some e.2 := by
          intro e he
          have hne : e.1 ≠ key := fun heq =>
            hnodup.1 (List.mem_map.mpr ⟨e, he, heq⟩)
          rw [hafter, if_neg hne, hparams e (List.mem_cons_of_mem _ he)]
        rw [hok]
        obtain ⟨⟨e, he, hunreadable⟩, herror⟩ | ⟨hall, params'', hok', hafter'⟩ :=
          ih hnodup.2 params' hrest
        · exact .inl ⟨⟨e, List.mem_cons_of_mem _ he, hunreadable⟩, herror⟩
        · refine .inr ⟨List.forall_mem_cons.mpr ⟨hreadable, hall⟩, params'', hok', fun other => ?_⟩
          rw [hafter', hafter]
          by_cases hother : other = key
          · subst hother
            have hmem : other ∈ ((other, value) :: rest).map Prod.fst := List.mem_cons_self
            rw [if_neg hnodup.1, if_pos rfl, if_pos hmem, hvalue, Option.map_some]
          · simp only [hother, if_false, List.map_cons, List.mem_cons, false_or]

/-- All gears are made numeric, unless one cannot be read. -/
theorem coerceGears_cases (params : Dict String Json) :
    (∃ key value, params.get? key = some value ∧ UnreadableGear key value) ∧
        coerceGears params = .error (.builtin "ValueError") ∨
      (∀ key value, params.get? key = some value → ¬ UnreadableGear key value) ∧
        ∃ params', coerceGears params = .ok params' ∧
          ∀ key, params'.get? key = (params.get? key).map (coerced key) := by
  have hnodup : (params.items.map Prod.fst).Nodup := by
    rw [Dict.items, List.map_map]
    exact params.nodupKeys
  obtain ⟨⟨e, he, hunreadable⟩, herror⟩ | ⟨hall, params', hok, hafter⟩ :=
    foldlM_coerceGear params.items hnodup params fun e he => Dict.mem_items.mp he
  · exact .inl ⟨⟨e.1, e.2, Dict.mem_items.mp he, hunreadable⟩, herror⟩
  · refine .inr ⟨fun key value hvalue => hall (key, value) (Dict.mem_items.mpr hvalue),
      params', hok, fun key => ?_⟩
    rw [hafter]
    split_ifs with hmem
    · rfl
    · rw [Dict.mem_map_fst_items, ← Dict.get?_isSome_iff, Option.not_isSome_iff_eq_none] at hmem
      rw [hmem, Option.map_none]

/-! ## What a dictionary comes to -/

/-- The feature list of a decoded body. -/
def itemsOf : Json → Option (List Json)
  | .arr items => some items
  | .obj body => some (moduleItems body)
  | _ => none

/-- The feature list under `data`, if there is one. -/
def featureList (loads : String → Except String Json) : Json → Option (List Json)
  | .str text => (loads text).toOption.bind itemsOf
  | raw => itemsOf raw

/-- The last value the entries give a parameter. -/
def lastParam (items : List Json) (key : String) : Option Json :=
  Dict.written (items.flatMap membersOf) key

/-- The profile says what the feature list says. -/
structure Parsed (items : List Json) (profile : CapabilityProfile) : Prop where
  features : ∀ feature, feature ∈ profile.features ↔ Advertises items feature
  modeCodes : ∀ values, lastParam items "modelValue" = some (.arr values) →
    profile.param "mode_codes" = some (.obj (Dict.ofList (codeEntries values)).items)
  gears : ∀ key text n, isGearKey key = true → lastParam items key = some (.str text) →
    NamesInteger text n → profile.param key = some (.int n)

/-- The outcome is an error the chain skips, or a profile of the feature list. -/
def Answers (loads : String → Except String Json) (raw : Json)
    (result : Except Exn CapabilityProfile) : Prop :=
  (∃ message code, result = .error (.dollin (.apiError message code))) ∨
    ∃ items profile, featureList loads raw = some items ∧ result = .ok profile ∧
      Parsed items profile

/-- The text decodes, or fails as text that is no JSON does; and no gear maximum is a text that
`isdigit` accepts and `int` refuses. -/
structure Readable (loads : String → Except String Json) (raw : Json) : Prop where
  decoded : ∀ text name, raw = .str text → loads text = .error name → name = "JSONDecodeError"
  gears : ∀ items, featureList loads raw = some items → ∀ key value,
    lastParam items key = some value → ¬ UnreadableGear key value

theorem get?_rawParams (items : List Json) (key : String) :
    (rawParams items).get? key = lastParam items key :=
  Dict.get?_ofList _ key

/-- Nothing but a mode subset and a door-opening map. -/
def OnlyExtra (extra : Dict String Json) : Prop :=
  ∀ key value, extra.get? key = some value → key = "mode_subset" ∨ key = "open_type"

theorem onlyExtra_empty : OnlyExtra Dict.empty := nofun

theorem onlyExtra_modeSubset (config : Members) : OnlyExtra (modeSubset config) := by
  rw [modeSubset]
  split
  · exact Dict.forall_setItem onlyExtra_empty (.inl rfl)
  · exact onlyExtra_empty

/-- The extra parameters are no gears and no mode codes. -/
theorem onlyExtra_extraParams (body : Members) : OnlyExtra (extraParams body) := by
  rw [extraParams]
  split
  · exact onlyExtra_empty
  next config _ =>
    split_ifs
    · exact onlyExtra_modeSubset config
    · exact Dict.forall_setItem (onlyExtra_modeSubset config) (.inr rfl)

/-- The payload is a feature list with its extra parameters. -/
def Split (outcome : Except Exn (List Json × Dict String Json)) (found : Option (List Json)) :
    Prop :=
  ∃ items extra, outcome = .ok (items, extra) ∧ found = some items ∧ OnlyExtra extra

/-- An error of the client, which leaves no feature to be read. -/
def Refused (outcome : Except Exn (List Json × Dict String Json)) (found : Option (List Json)) :
    Prop :=
  (∃ message code, outcome = .error (.dollin (.apiError message code))) ∧
    ∀ items, found = some items → items = []

theorem splitDecoded_cases (model : String) (raw : Json) :
    Split (splitDecoded model raw) (itemsOf raw) ∨
      Refused (splitDecoded model raw) (itemsOf raw) := by
  cases raw with
  | arr items => exact .inl ⟨items, Dict.empty, rfl, rfl, onlyExtra_empty⟩
  | obj body =>
      by_cases hempty : moduleItems body = [] ∧ (extraParams body).isEmpty = true
      · refine .inr ⟨⟨_, _, if_pos hempty⟩, fun items heq => ?_⟩
        rw [← Option.some.inj heq]
        exact hempty.1
      · exact .inl ⟨_, _, if_neg hempty, rfl, onlyExtra_extraParams body⟩
  | _ => exact .inr ⟨⟨_, _, rfl⟩, nofun⟩

/-- Only `JSONDecodeError` is turned into an error of the client. -/
theorem decodeText_error {loads : String → Except String Json} (model : String) {text : String}
    {name : String} (h : loads text = .error name) :
    name = "JSONDecodeError" ∧
        (∃ message, decodeText loads model text = .error (.dollin (.apiError message none))) ∨
      name ≠ "JSONDecodeError" ∧ decodeText loads model text = .error (.builtin name) := by
  rw [decodeText, h]
  by_cases hname : name = "JSONDecodeError"
  · subst hname
    exact .inl ⟨rfl, _, rfl⟩
  · refine .inr ⟨hname, ?_⟩
    split
    next heq => cases heq
    next heq =>
      cases heq
      exact absurd rfl hname
    next heq =>
      cases heq
      rfl

/-- The payload, or an error of the client, or what the decoder raised. -/
theorem splitDictPayload_cases (loads : String → Except String Json) (raw : Json)
    (model : String) :
    Split (splitDictPayload loads raw model) (featureList loads raw) ∨
      Refused (splitDictPayload loads raw model) (featureList loads raw) ∨
      ∃ text name, raw = .str text ∧ loads text = .error name ∧
        name ≠ "JSONDecodeError" ∧ splitDictPayload loads raw model = .error (.builtin name) := by
  by_cases htext : ∃ text, raw = .str text
  · obtain ⟨text, rfl⟩ := htext
    rw [splitDictPayload, decodeBody, featureList]
    cases hloads : loads text with
    | ok value =>
        have hdecoded : decodeText loads model text = .ok value := by rw [decodeText, hloads]
        rw [hdecoded]
        exact (splitDecoded_cases model value).imp_right .inl
    | error name =>
        obtain ⟨-, message, hdecoded⟩ | ⟨hne, hdecoded⟩ := decodeText_error model hloads
        · rw [hdecoded]
          exact .inr (.inl ⟨⟨message, none, rfl⟩, nofun⟩)
        · rw [hdecoded]
          exact .inr (.inr ⟨text, name, rfl, hloads, hne, rfl⟩)
  · have hbody : splitDictPayload loads raw model = splitDecoded model raw ∧
        featureList loads raw = itemsOf raw := by
      cases raw with
      | str text => exact absurd ⟨text, rfl⟩ htext
      | _ => exact ⟨rfl, rfl⟩
    rw [hbody.1, hbody.2]
    exact (splitDecoded_cases model raw).imp_right .inl

/-- What the decoder raises beside its own error gets out. -/
theorem splitDictPayload_of_raised {loads : String → Except String Json} {text name : String}
    (model : String) (h : loads text = .error name) (hne : name ≠ "JSONDecodeError") :
    splitDictPayload loads (.str text) model = .error (.builtin name) := by
  obtain ⟨heq, -⟩ | ⟨-, hdecoded⟩ := decodeText_error model h
  · exact absurd heq hne
  · rw [splitDictPayload, decodeBody, hdecoded]
    rfl

/-! ## The profile -/

theorem isGearKey_of_unreadableGear {key : String} {value : Json} (h : UnreadableGear key value) :
    isGearKey key = true := by
  obtain ⟨text, -, hkey, -⟩ := h
  exact hkey

theorem ne_of_isGearKey {key other : String} (h : isGearKey key = true)
    (hother : isGearKey other = false) : key ≠ other := by
  rintro rfl
  rw [hother] at h
  cases h

/-- A gear maximum is among the parameters as the entries give it. -/
theorem get?_withModeCodes_of_isGearKey (items : List Json) {key : String}
    (h : isGearKey key = true) :
    (withModeCodes (rawParams items)).get? key = lastParam items key := by
  rw [get?_withModeCodes_of_ne _ (ne_of_isGearKey h (by decide)), get?_rawParams]

/-- The extra parameters leave all others alone. -/
theorem get?_update_onlyExtra {params extra : Dict String Json} (hextra : OnlyExtra extra)
    {key : String} (hsubset : key ≠ "mode_subset") (htype : key ≠ "open_type") :
    (params.update extra.items).get? key = params.get? key := by
  have hnone : extra.get? key = none := by
    cases hfound : extra.get? key with
    | none => rfl
    | some value => exact absurd (hextra key value hfound) (not_or.mpr ⟨hsubset, htype⟩)
  rw [Dict.get?_update, Dict.written_items, hnone, Option.none_or]

/-- A text that names an integer is coerced to it, where it can be read at all. -/
theorem coerced_of_namesInteger {key text : String} {n : ℕ} (hkey : isGearKey key = true)
    (hnames : NamesInteger text n) (hreadable : ¬ UnreadableGear key (.str text)) :
    coerced key (.str text) = .int n := by
  have hdigits := isDigitText_of_namesInteger hnames
  cases hread : parseInt text with
  | none => exact absurd ⟨text, rfl, hkey, hdigits, hread⟩ hreadable
  | some m =>
      rw [coerced, if_pos ⟨hkey, hdigits⟩, hread, parseInt_of_namesInteger hnames hread]
      rfl

/-- A feature list is parsed into a profile of it, unless a gear cannot be read. -/
theorem parseCapability_cases (items : List Json) (model deviceType : String)
    {extra : Dict String Json} (hextra : OnlyExtra extra) :
    (∃ key value, lastParam items key = some value ∧ UnreadableGear key value) ∧
        parseCapability items model deviceType extra = .error (.builtin "ValueError") ∨
      (∀ key value, lastParam items key = some value → ¬ UnreadableGear key value) ∧
        ∃ profile, parseCapability items model deviceType extra = .ok profile ∧
          Parsed items profile := by
  rw [parseCapability, rawParams_eq]
  obtain ⟨⟨key, value, hvalue, hunreadable⟩, herror⟩ | ⟨hall, params, hok, hafter⟩ :=
    coerceGears_cases (withModeCodes (rawParams items))
  · rw [get?_withModeCodes_of_isGearKey items (isGearKey_of_unreadableGear hunreadable)] at hvalue
    exact .inl ⟨⟨key, value, hvalue, hunreadable⟩, by rw [herror]; rfl⟩
  · have hreadable : ∀ key value, lastParam items key = some value →
        ¬ UnreadableGear key value := by
      intro key value hvalue hunreadable
      have hkey := isGearKey_of_unreadableGear hunreadable
      exact hall key value (by rw [get?_withModeCodes_of_isGearKey items hkey, hvalue]) hunreadable
    refine .inr ⟨hreadable, _, by rw [hok]; rfl, ?_, ?_, ?_⟩
    · exact mem_features_foldl_addItem items
    · intro values hvalues
      rw [← get?_rawParams] at hvalues
      rw [CapabilityProfile.param, get?_update_onlyExtra hextra (by decide) (by decide), hafter,
        get?_withModeCodes hvalues]
      rfl
    · intro key text n hkey hvalue hnames
      rw [CapabilityProfile.param, get?_update_onlyExtra hextra
        (ne_of_isGearKey hkey (by decide)) (ne_of_isGearKey hkey (by decide)), hafter,
        get?_withModeCodes_of_isGearKey items hkey, hvalue, Option.map_some,
        coerced_of_namesInteger hkey hnames (hreadable key _ hvalue)]

/-- The dictionary is answered with a profile of its feature list, or an error the chain skips,
exactly if it can be read. -/
theorem answers_readDictionary_iff (loads : String → Except String Json) (raw : Json)
    (model deviceType : String) :
    Answers loads raw (readDictionary loads raw model deviceType) ↔ Readable loads raw := by
  rw [readDictionary]
  obtain ⟨items, extra, hok, hitems, hextra⟩ | ⟨⟨message, code, herror⟩, hnone⟩ |
    ⟨text, name, rfl, hloads, hne, herror⟩ := splitDictPayload_cases loads raw model
  · rw [hok]
    obtain ⟨⟨key, value, hvalue, hunreadable⟩, herror⟩ | ⟨hreadable, profile, hprofile, hparsed⟩ :=
      parseCapability_cases items model deviceType hextra
    · refine iff_of_false ?_ fun hread => hread.gears items hitems key value hvalue hunreadable
      simp only [bind, Except.bind, herror]
      rintro (⟨message, code, heq⟩ | ⟨_, profile, -, heq, -⟩) <;> cases heq
    · refine iff_of_true (.inr ⟨items, profile, hitems, hprofile, hparsed⟩) ⟨?_, ?_⟩
      · rintro text name rfl hloads
        rw [featureList, hloads] at hitems
        cases hitems
      · intro items' hitems'
        rw [← Option.some.inj (hitems.symm.trans hitems')]
        exact hreadable
  · rw [herror]
    refine iff_of_true (.inl ⟨message, code, rfl⟩) ⟨?_, ?_⟩
    · rintro text name rfl hloads
      by_contra hne
      rw [splitDictPayload_of_raised model hloads hne] at herror
      cases herror
    · intro items hitems key value hvalue
      rw [hnone items hitems] at hvalue
      cases hvalue
  · rw [herror]
    refine iff_of_false ?_ fun hread => hne (hread.decoded text name rfl hloads)
    rintro (⟨message, code, heq⟩ | ⟨_, profile, -, heq, -⟩) <;> cases heq

end DictGetResolver

end Holabrain
