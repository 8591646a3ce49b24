import Holabrain.Core.Related
import Holabrain.Core.Utf8
import Holabrain.Cloud.JsonText
import Holabrain.Cloud.PushFold
import Holabrain.Entity.Footprint
import Holabrain.Coordinator.MachineState

/-!
# Push frames as bytes

The push client decodes what arrives on a topic and hands on a dictionary: the members of an
object, any other JSON value under `_value`, and what is no JSON at all under `_raw`.  No entity
refers to either key.  So over any run of frames, commands, scans and polls the appliances are
seen as if the frames that are no objects had never come.
-/

namespace Holabrain

/-- `bytes.hex()`. -/
def hexText (bytes : List UInt8) : String :=
  String.ofList (bytes.flatMap fun byte =>
    [Nat.digitChar (byte.toNat / 16), Nat.digitChar (byte.toNat % 16)])

namespace MqttClient

/-- What `json.loads(payload.decode("utf-8"))` comes to. -/
inductive Decoding
  | value (decoded : Json)
  | valueError
  | recursionError

section Decoding

/- `half` is what a lone surrogate is read as, `deep` tells the texts that are nested deeper than
the stack of the interpreter. -/
variable (half : ℕ → Char) (deep : String → Bool)

def decodeMessage (payload : List UInt8) : Decoding :=
  match decodeUtf8 payload with
  | none => .valueError
  | some text =>
      if deep text then .recursionError
      else match loads half text with
        | .ok decoded => .value decoded
        | .error _ => .valueError

/-- `_handle_message`, up to the callback.  It catches the `ValueError`; with any other exception
nothing is handed on. -/
def handleMessage (payload : List UInt8) : Option Members :=
  match decodeMessage half deep payload with
  | .recursionError => none
  | .valueError => some [("_raw", .str (hexText (payload.take 256)))]
  | .value (.obj members) => some members
  | .value value => some [("_value", value)]

/-- The status a message carries, if it is an object. -/
def statusOf (payload : List UInt8) : Option Members :=
  match decodeMessage half deep payload with
  | .value decoded => decoded.asObj
  | _ => none

end Decoding

/-- The keys that anything but an object is handed on under. -/
def wrappers : Finset String := {"_raw", "_value"}

variable {half : ℕ → Char} {deep : String → Bool} {payload : List UInt8}

theorem handleMessage_of_status {members : Members}
    (h : statusOf half deep payload = some members) :
    handleMessage half deep payload = some members := by
  rw [statusOf] at h
  rw [handleMessage]
  cases hdecoded : decodeMessage half deep payload with
  | valueError =>
      rw [hdecoded] at h
      cases h
  | recursionError =>
      rw [hdecoded] at h
      cases h
  | value decoded =>
      rw [hdecoded] at h
      cases decoded <;> first | exact h | cases h

theorem handleMessage_of_noise {members : Members} (h : statusOf half deep payload = none)
    (hhanded : handleMessage half deep payload = some members) :
    ∃ key value, members = [(key, value)] ∧ key ∈ wrappers ∧ value.asObj = none := by
  rw [statusOf] at h
  rw [handleMessage] at hhanded
  cases hdecoded : decodeMessage half deep payload with
  | recursionError =>
      rw [hdecoded] at hhanded
      cases hhanded
  | valueError =>
      rw [hdecoded] at hhanded
      cases hhanded
      exact ⟨_, _, rfl, by decide, rfl⟩
  | value decoded =>
      rw [hdecoded] at h hhanded
      cases decoded with
      | obj found => cases h
      | _ =>
          cases hhanded
          exact ⟨_, _, rfl, by decide, rfl⟩

end MqttClient

open MqttClient

/-! ## Reports that say the same -/

/-- The two snapshots say the same, but for what is handed on under the wrapping keys. -/
structure SameReport (s t : DeviceState) : Prop where
  online : s.online = t.online
  get? : ∀ key, key ∉ wrappers → s.attributes.get? key = t.attributes.get? key

/-- No category names a wrapping key. -/
theorem not_mem_wrappers {category : CategorySpec} (hcategory : category ∈ categories)
    {key : String} (hkey : key ∈ category.namedKeys) : key ∉ wrappers := by
  have hall : ∀ category ∈ categories, ∀ key ∈ category.namedKeys, key ∉ wrappers := by decide
  exact hall category hcategory key hkey

namespace SameReport

variable {s t : DeviceState}

theorem refl (s : DeviceState) : SameReport s s := ⟨rfl, fun _ _ => rfl⟩

theorem applyPush (h : SameReport s t) (payload : Members) :
    SameReport (s.applyPush payload) (t.applyPush payload) where
  online := by rw [DeviceState.applyPush_online, DeviceState.applyPush_online, h.online]
  get? key hkey := by
    rw [DeviceState.get?_applyPush, DeviceState.get?_applyPush, h.get? key hkey]

/-- A wrapped value says nothing. -/
theorem applyPush_wrapped (h : SameReport s t) {key : String} {value : Json}
    (hkey : key ∈ wrappers) (hvalue : value.asObj = none) :
    SameReport (s.applyPush [(key, value)]) t := by
  have hflat : DeviceState.flattened [(key, value)] = [(key, value)] := by
    have hwrites : DeviceState.memberWrites (key, value) = [(key, value)] := by
      unfold DeviceState.memberWrites
      split
      next heq =>
        rw [(Prod.mk.inj heq).2] at hvalue
        cases hvalue
      next heq =>
        rw [(Prod.mk.inj heq).2] at hvalue
        cases hvalue
      next => rfl
    have hitems : (Members.toDict [(key, value)]).items = [(key, value)] := rfl
    rw [DeviceState.flattened, hitems, List.flatMap_singleton, hwrites]
  have hother : ∀ other, other ∉ wrappers → Dict.written [(key, value)] other = none := by
    intro other hother
    rw [Dict.written_eq_none_iff]
    rintro e he rfl
    rw [List.mem_singleton.mp he] at hother
    exact hother hkey
  constructor
  · rw [DeviceState.applyPush_online, DeviceState.onlineAfter, hflat,
      hother "online" (by decide), Members.get_eq_written, hother "onlineChange" (by decide)]
    exact h.online
  · intro other hne
    rw [DeviceState.get?_applyPush, hflat, hother other hne, Option.none_or]
    exact h.get? other hne

theorem agreeOn (h : SameReport s t) {category : CategorySpec} (hcategory : category ∈ categories) :
    AgreeOn category.referencedKeys s t where
  online := h.online
  get key hkey := by
    rw [CategorySpec.referencedKeys, List.mem_toFinset, List.mem_filter] at hkey
    rw [DeviceState.get, DeviceState.get, h.get? key (not_mem_wrappers hcategory hkey.1)]

end SameReport

/-! ## Runs -/

namespace Coordinator

/-- The states of the polls in flight. -/
abbrev Polls := Dict ℕ (Dict String DeviceState)

/-- The two coordinators list the same appliances, and what they publish and what their polls
have gathered says the same. -/
structure SeenTheSame (v v' : World × Polls) : Prop where
  devices : v.1.devices = v'.1.devices
  states : Dict.Related SameReport v.1.states v'.1.states
  polls : Dict.Related (Dict.Related SameReport) v.2 v'.2

def acted (v : World × Polls) (action : Objects.Action) : World × Polls :=
  Objects.worldStep v.1 v.2 action

namespace SeenTheSame

variable {v v' : World × Polls}

theorem refl (v : World × Polls) : SeenTheSame v v where
  devices := rfl
  states := .refl SameReport.refl _
  polls := .refl (.refl SameReport.refl) _

theorem acted (h : SeenTheSame v v') (action : Objects.Action) :
    SeenTheSame (acted v action) (acted v' action) := by
  obtain ⟨w, polls⟩ := v
  obtain ⟨w', polls'⟩ := v'
  obtain ⟨hdevices, hstates, hpolls⟩ := h
  cases action with
  | scanned latest => exact ⟨rfl, hstates, hpolls⟩
  | frame topic payload =>
      have hdevices' := (unpolled_handlePush topic payload w).devices.trans
        (hdevices.trans (unpolled_handlePush topic payload w').devices.symm)
      have hstates' : Dict.Related SameReport (handlePush topic payload w).states
          (handlePush topic payload w').states := by
        intro code
        rw [get?_handlePush, get?_handlePush]
        split
        · exact rel_map (fun _ _ hsame => SameReport.applyPush hsame payload) (hstates code)
        · exact hstates code
      exact ⟨hdevices', hstates', hpolls⟩
  | patched thingCode instruction =>
      have hdevices' := (unpolled_patchState thingCode instruction w).devices.trans
        (hdevices.trans (unpolled_patchState thingCode instruction w').devices.symm)
      have hstates' : Dict.Related SameReport (patchState thingCode instruction w).states
          (patchState thingCode instruction w').states := by
        intro code
        rw [Objects.get?_patchState, Objects.get?_patchState]
        split
        · exact rel_map (fun _ _ hsame => SameReport.applyPush hsame instruction) (hstates code)
        · exact hstates code
      exact ⟨hdevices', hstates', hpolls⟩
  | skipped => exact ⟨hdevices, hstates, hpolls⟩
  | pollStarted poll =>
      have hstart : Dict.Related SameReport (pollStart w) (pollStart w') := by
        rw [pollStart, pollStart, hdevices]
        exact hstates.filterKeys _
      exact ⟨hdevices, hstates, hpolls.setItem poll hstart⟩
  | pollAnswered poll thingCode state =>
      rw [Coordinator.acted, Coordinator.acted, Objects.worldStep, Objects.worldStep]
      obtain ⟨hnone, hnone'⟩ | ⟨states, states', hsome, hsome', hsame⟩ := hpolls.cases poll
      · rw [hnone, hnone']
        exact ⟨hdevices, hstates, hpolls⟩
      · rw [hsome, hsome']
        exact ⟨hdevices, hstates, hpolls.setItem poll (hsame.setItem thingCode (.refl state))⟩
  | pollFinished poll =>
      rw [Coordinator.acted, Coordinator.acted, Objects.worldStep, Objects.worldStep]
      obtain ⟨hnone, hnone'⟩ | ⟨states, states', hsome, hsome', hsame⟩ := hpolls.cases poll
      · rw [hnone, hnone']
        exact ⟨hdevices, hstates, hpolls⟩
      · rw [hsome, hsome']
        exact ⟨hdevices, hsame, hpolls.erase poll⟩
  | pollFailed poll => exact ⟨hdevices, hstates, hpolls.erase poll⟩
  | asked thingCode => exact ⟨hdevices, hstates, hpolls⟩

/-- A frame that is no object says nothing. -/
theorem noise (h : SeenTheSame v v') (topic : String) {half : ℕ → Char} {deep : String → Bool}
    {payload : List UInt8} {members : Members} (hnoise : statusOf half deep payload = none)
    (hhanded : handleMessage half deep payload = some members) :
    SeenTheSame (Coordinator.acted v (.frame topic members)) v' := by
  obtain ⟨key, value, rfl, hkey, hvalue⟩ := handleMessage_of_noise hnoise hhanded
  have hdevices := (unpolled_handlePush topic [(key, value)] v.1).devices.trans h.devices
  have hstates : Dict.Related SameReport (handlePush topic [(key, value)] v.1).states
      v'.1.states := by
    intro code
    rw [get?_handlePush]
    split
    · obtain ⟨hnone, hnone'⟩ | ⟨s, t, hsome, hsome', hsame⟩ := h.states.cases code
      · rw [hnone, hnone']
        exact .none
      · rw [hsome, hsome']
        exact .some (hsame.applyPush_wrapped hkey hvalue)
    · exact h.states code
  exact ⟨hdevices, hstates, h.polls⟩

/-- The state of the machine is resolved to the same, under whatever type. -/
theorem resolved_eq (h : SeenTheSame v v') (thingCode deviceType : String) :
    (v.1.states.get? thingCode).bind (resolveMachineState deviceType) =
      (v'.1.states.get? thingCode).bind (resolveMachineState deviceType) := by
  obtain ⟨hnone, hnone'⟩ | ⟨s, t, hsome, hsome', hsame⟩ := h.states.cases thingCode
  · rw [hnone, hnone']
  · rw [hsome, hsome', Option.bind_some, Option.bind_some]
    simp only [resolveMachineState]
    cases hfound : getCategory deviceType with
    | none => rfl
    | some category =>
        have hcategory : category ∈ categories := List.mem_of_find?_eq_some hfound
        apply resolveState_congr
        · rfl
        · intro key hkey
          have hnamed : key ∈ category.namedKeys := by
            rw [CategorySpec.namedKeys]
            simp only [List.mem_append]
            exact .inl (.inl (.inr hkey))
          have hget : s.get key = t.get key := by
            rw [DeviceState.get, DeviceState.get,
              hsame.get? key (not_mem_wrappers hcategory hnamed)]
          exact congrArg textOf hget

end SeenTheSame

/-- What reaches the coordinator: bytes on a topic of the push channel, or anything else. -/
inductive Incoming
  | message (topic : String) (payload : List UInt8)
  | action (other : Objects.Action)

section Noise

variable (half : ℕ → Char) (deep : String → Bool)

/-- What the push client and the coordinator make of it. -/
def Incoming.made : Incoming → Option Objects.Action
  | .message topic payload => (handleMessage half deep payload).map (.frame topic)
  | .action other => some other

/-- What it says: a frame that is no object says nothing. -/
def Incoming.said : Incoming → Option Objects.Action
  | .message topic payload => (statusOf half deep payload).map (.frame topic)
  | .action other => some other

/-- What is said is made of it. -/
theorem Incoming.made_of_said {incoming : Incoming} {action : Objects.Action}
    (h : incoming.said half deep = some action) : incoming.made half deep = some action := by
  cases incoming with
  | message topic payload =>
      obtain ⟨members, hstatus, rfl⟩ := Option.map_eq_some_iff.mp h
      rw [Incoming.made, handleMessage_of_status hstatus]
      rfl
  | action other => exact h

/-- What else is made of it says nothing. -/
theorem SeenTheSame.unsaid {v v' : World × Polls} {incoming : Incoming} {action : Objects.Action}
    (h : SeenTheSame v v') (hsaid : incoming.said half deep = none)
    (hmade : incoming.made half deep = some action) :
    SeenTheSame (Coordinator.acted v action) v' := by
  cases incoming with
  | message topic payload =>
      obtain ⟨members, hhanded, rfl⟩ := Option.map_eq_some_iff.mp hmade
      exact h.noise topic (Option.map_eq_none_iff.mp hsaid) hhanded
  | action other => cases hsaid

theorem seenTheSame_run (run : List Incoming) {v v' : World × Polls} (h : SeenTheSame v v') :
    SeenTheSame ((run.filterMap (Incoming.made half deep)).foldl acted v)
      ((run.filterMap (Incoming.said half deep)).foldl acted v') := by
  induction run generalizing v v' with
  | nil => exact h
  | cons incoming run ih =>
      cases hsaid : incoming.said half deep with
      | some said =>
          have hmade := Incoming.made_of_said half deep hsaid
          rw [List.filterMap_cons_some hsaid, List.filterMap_cons_some hmade, List.foldl_cons,
            List.foldl_cons]
          exact ih (h.acted said)
      | none =>
          rw [List.filterMap_cons_none hsaid]
          cases hmade : incoming.made half deep with
          | none =>
              rw [List.filterMap_cons_none hmade]
              exact ih h
          | some action =>
              rw [List.filterMap_cons_some hmade, List.foldl_cons]
              exact ih (h.unsaid half deep hsaid hmade)

/-- Whatever else comes over the push channel between scans, polls, commands and status frames,
every appliance is published with the same reports under all keys that a category refers to, and
its machine's state is resolved to the same, as if only the status frames had come. -/
theorem seen_without_noise (run : List Incoming) (w : World) (polls : Polls)
    (thingCode : String) :
    let heard := ((run.filterMap (Incoming.made half deep)).foldl acted (w, polls)).1
    let said := ((run.filterMap (Incoming.said half deep)).foldl acted (w, polls)).1
    (∀ category ∈ categories, Option.Rel (AgreeOn category.referencedKeys)
      (heard.states.get? thingCode) (said.states.get? thingCode)) ∧
    ∀ deviceType, (heard.states.get? thingCode).bind (resolveMachineState deviceType) =
      (said.states.get? thingCode).bind (resolveMachineState deviceType) := by
  have hsame := seenTheSame_run half deep run (SeenTheSame.refl (w, polls))
  constructor
  · intro category hcategory
    obtain ⟨hnone, hnone'⟩ | ⟨s, t, hsome, hsome', hreport⟩ := hsame.states.cases thingCode
    · rw [hnone, hnone']
      exact .none
    · rw [hsome, hsome']
      exact .some (hreport.agreeOn hcategory)
  · exact hsame.resolved_eq thingCode

end Noise

end Coordinator

end Holabrain
