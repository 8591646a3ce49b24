import Holabrain.Core.Trace
import Holabrain.Cloud.Dictionary
import Holabrain.Coordinator.World

/-!
# Asking the cloud for the dictionary

`async_get_profile` awaits one call and then reads the answer without suspending, so what a run
comes to is what `readDictionary` makes of the body under `data`.
-/

namespace Holabrain

namespace DictGetResolver

/-- `async_get_profile`. -/
def asyncGetProfile (loads : String → Except String Json) (model deviceType : String) :
    CoordM CapabilityProfile := do
  let data ← Client.call .oem epFunctionDict (.obj [("model", .str model)])
  Coro.ofExcept (readDictionary loads (data.get "data") model deviceType)

section

variable {env : Environment World ClientOp ClientAnswer} {w w' : World}
  {loads : String → Except String Json} {model deviceType : String} {reply : Members}
  {result : Except Exn CapabilityProfile}

/-- A run reads the reply it gets. -/
theorem asyncGetProfile_result
    (hrun : Coro.Traced env (asyncGetProfile loads model deviceType) w
      [⟨.call .oem epFunctionDict (.obj [("model", .str model)]), .ok reply⟩] result w') :
    result = readDictionary loads (reply.get "data") model deviceType := by
  have hread : Coro.wpt env (asyncGetProfile loads model deviceType) (fun result h _ =>
      ∀ data, h = [⟨.call .oem epFunctionDict (.obj [("model", .str model)]), .ok data⟩] →
        result = readDictionary loads (data.get "data") model deviceType) [] w := by
    simp only [asyncGetProfile, Client.call, Coro.wpt_bind, Coro.wpt_perform, Coro.wpt_ofExcept]
    intro answer t _
    cases answer with
    | error exn =>
        intro data htrace
        cases htrace
    | ok data =>
        intro data' htrace
        cases htrace
        rfl
  exact hrun.post hread reply rfl

/-- A run answers with a profile of the feature list or an error the chain skips exactly if the
dictionary can be read. -/
theorem asyncGetProfile_answers_iff
    (hrun : Coro.Traced env (asyncGetProfile loads model deviceType) w
      [⟨.call .oem epFunctionDict (.obj [("model", .str model)]), .ok reply⟩] result w') :
    Answers loads (reply.get "data") result ↔ Readable loads (reply.get "data") := by
  rw [asyncGetProfile_result hrun]
  exact answers_readDictionary_iff loads (reply.get "data") model deviceType

end

/-! ## Two gears -/

/-- A cloud that answers with this feature list. -/
def dictionaryReply (items : List Json) : Members := [("code", .int 0), ("data", .arr items)]

/-- Nothing is decoded where the body is a list. -/
def noText (_ : String) : Except String Json := .error "JSONDecodeError"

theorem traced_dictionaryReply (items : List Json) :
    Coro.Traced (fun _ _ _ _ => True) (asyncGetProfile noText "760EY179" "0xE1") World.fresh
      [⟨.call .oem epFunctionDict (.obj [("model", .str "760EY179")]),
        .ok (dictionaryReply items)⟩]
      (readDictionary noText (.arr items) "760EY179" "0xE1") World.fresh :=
  .await trivial .done

/-- A rinse-aid gear in Arabic digits. -/
def arabicGear : List Json :=
  [.str "rinse_aid", .obj [("rinse_aid_gear", .str "\u0665"), ("salt_gear", .str "high")]]

theorem asyncGetProfile_answers_arabicGear :
    Answers noText (.arr arabicGear)
      (readDictionary noText (.arr arabicGear) "760EY179" "0xE1") := by
  refine (asyncGetProfile_answers_iff (traced_dictionaryReply arabicGear)).mpr ⟨nofun, ?_⟩
  rintro items hitems key value hvalue ⟨text, rfl, -, hdigits, hread⟩
  cases hitems
  have hmembers : arabicGear.flatMap membersOf =
      [("rinse_aid_gear", .str "\u0665"), ("salt_gear", .str "high")] := by decide +kernel
  have hmem := Dict.mem_of_written hvalue
  rw [hmembers] at hmem
  simp only [List.mem_cons, Prod.mk.injEq, Json.str.injEq, List.not_mem_nil, or_false] at hmem
  obtain ⟨-, rfl⟩ | ⟨-, rfl⟩ := hmem
  · exact absurd hread (by decide +kernel)
  · exact absurd hdigits (by decide +kernel)

/-- A rinse-aid gear that is a superscript two. -/
def superscriptGear : List Json := [.str "rinse_aid", .obj [("rinse_aid_gear", .str "\u00b2")]]

/-- The superscript is a digit to `isdigit`, and no number to `int`. -/
theorem asyncGetProfile_superscriptGear :
    readDictionary noText (.arr superscriptGear) "760EY179" "0xE1" =
        .error (.builtin "ValueError") ∧
      ¬ ∀ (env : Environment World ClientOp ClientAnswer) (w w' : World)
        (loads : String → Except String Json) (model deviceType : String) (reply : Members)
        (result : Except Exn CapabilityProfile),
        Coro.Traced env (asyncGetProfile loads model deviceType) w
          [⟨.call .oem epFunctionDict (.obj [("model", .str model)]), .ok reply⟩] result w' →
        Answers loads (reply.get "data") result := by
  have hraised : readDictionary noText (.arr superscriptGear) "760EY179" "0xE1" =
      .error (.builtin "ValueError") := by
    have hgears : coerceGears (withModeCodes (superscriptGear.foldl addItem (∅, Dict.empty)).2) =
        .error (.builtin "ValueError") := by decide +kernel
    change parseCapability superscriptGear "760EY179" "0xE1" Dict.empty = _
    rw [parseCapability, hgears]
    rfl
  refine ⟨hraised, fun hall => ?_⟩
  have hanswers := hall _ _ _ _ _ _ _ _ (traced_dictionaryReply superscriptGear)
  rw [hraised] at hanswers
  obtain ⟨message, code, heq⟩ | ⟨_, profile, -, heq, -⟩ := hanswers <;> cases heq

end DictGetResolver

end Holabrain
