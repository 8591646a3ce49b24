import Holabrain.Cloud.Device

/-!
# Push frames as a last-writer fold

A frame is a list of writes: its scalars, and the members of its groups one level down, the
`onlineChange` group apart.  Folding frames into a state leaves every attribute at its last
write; the online flag follows the last non-null mention.
-/

namespace Holabrain

namespace DeviceState

/-! ## A frame as a list of writes -/

/-- The writes of one member of a frame. -/
def memberWrites : String × Json → List (String × Json)
  | ("onlineChange", .obj _) => []
  | (_, .obj group) => (Members.toDict group).items
  | entry => [entry]

/-- The flattened content of a frame outside its `onlineChange` group. -/
def flattened (payload : Members) : List (String × Json) :=
  payload.toDict.items.flatMap memberWrites

/-- The flag an `onlineChange` group carries. -/
def onlineOfGroup : Json → Json
  | .obj group => Members.get group "online"
  | _ => .null

/-- A reported flag that says something. -/
def flag? : Json → Option Bool
  | .null => none
  | value => some (coerceOnline value false)

/-- The online flag after a frame. -/
def onlineAfter (payload : Members) (previous : Bool) : Bool :=
  (((Dict.written (flattened payload) "online").bind flag?).or
    (flag? (onlineOfGroup (payload.get "onlineChange")))).getD previous

theorem coerceOnline_eq (value : Json) (default : Bool) :
    coerceOnline value default = (flag? value).getD default := by
  cases value <;> rfl

/-! ## The loop over the groups -/

theorem foldGroup_fst (acc : Dict String Json × Bool) (entry : String × Json) :
    (foldGroup acc entry).1 = acc.1.update (memberWrites entry) := by
  obtain ⟨key, value⟩ := entry
  by_cases hkey : key = "onlineChange"
  · subst hkey
    cases value <;> rfl
  · cases value <;> simp [foldGroup, memberWrites, Dict.update]

theorem foldGroup_snd (acc : Dict String Json × Bool) (entry : String × Json) :
    (foldGroup acc entry).2 =
      if entry.1 = "onlineChange" then coerceOnline (onlineOfGroup entry.2) acc.2 else acc.2 := by
  obtain ⟨key, value⟩ := entry
  by_cases hkey : key = "onlineChange"
  · subst hkey
    cases value <;> rfl
  · rw [if_neg hkey]
    cases value <;> simp [foldGroup]

theorem foldl_foldGroup_fst (entries : List (String × Json)) (acc : Dict String Json × Bool) :
    (entries.foldl foldGroup acc).1 = acc.1.update (entries.flatMap memberWrites) := by
  induction entries generalizing acc with
  | nil => rfl
  | cons entry entries ih =>
      rw [List.foldl_cons, ih, foldGroup_fst, List.flatMap_cons, Dict.update_append]

/-- No key stands twice in a frame, so at most one group speaks about the flag. -/
theorem foldl_foldGroup_snd {entries : List (String × Json)}
    (hnodup : (entries.map Prod.fst).Nodup) (acc : Dict String Json × Bool) :
    (entries.foldl foldGroup acc).2 =
      coerceOnline (onlineOfGroup ((Dict.written entries "onlineChange").getD .null)) acc.2 := by
  induction entries generalizing acc with
  | nil => rfl
  | cons entry entries ih =>
      rw [List.map_cons, List.nodup_cons] at hnodup
      rw [List.foldl_cons, ih hnodup.2, foldGroup_snd, Dict.written_cons]
      by_cases hkey : entry.1 = "onlineChange"
      · have hnone : Dict.written entries "onlineChange" = none := by
          rw [Dict.written_eq_none_iff]
          intro e he heq
          exact hnodup.1 (List.mem_map.mpr ⟨e, he, heq.trans hkey.symm⟩)
        rw [hnone, if_pos hkey, if_pos hkey.symm]
        rfl
      · rw [if_neg hkey, if_neg (Ne.symm hkey), Option.or_none]

/-- What the loop over a frame computes. -/
theorem foldl_frame (payload : Members) (online : Bool) :
    payload.toDict.items.foldl foldGroup (Dict.empty, online) =
      (Dict.ofList (flattened payload),
        coerceOnline (onlineOfGroup (payload.get "onlineChange")) online) := by
  have hnodup : (payload.toDict.items.map Prod.fst).Nodup := by
    rw [Dict.items, List.map_map]
    exact payload.toDict.nodupKeys
  apply Prod.ext
  · exact foldl_foldGroup_fst _ _
  · rw [foldl_foldGroup_snd hnodup, Dict.written_items, Members.toDict, Dict.get?_ofList,
      ← Members.get_eq_written]

/-! ## One frame -/

/-- A frame without a write leaves the flag to its group. -/
theorem onlineAfter_of_flattened_nil {payload : Members} (h : flattened payload = [])
    (previous : Bool) :
    onlineAfter payload previous =
      coerceOnline (onlineOfGroup (payload.get "onlineChange")) previous := by
  rw [onlineAfter, h, coerceOnline_eq]
  rfl

/-- The same object comes back exactly where nothing is written and the flag stays. -/
theorem applyPush?_eq_none_iff (state : DeviceState) (payload : Members) :
    state.applyPush? payload = none ↔
      flattened payload = [] ∧ onlineAfter payload state.online = state.online := by
  simp only [applyPush?, foldl_frame, Dict.isEmpty_ofList_iff]
  constructor
  · intro hnone
    split at hnone
    next hsame => exact ⟨hsame.1, (onlineAfter_of_flattened_nil hsame.1 _).trans hsame.2⟩
    next => cases hnone
  · rintro ⟨hnil, hsame⟩
    rw [onlineAfter_of_flattened_nil hnil] at hsame
    rw [if_pos ⟨hnil, hsame⟩]

theorem applyPush_online (state : DeviceState) (payload : Members) :
    (state.applyPush payload).online = onlineAfter payload state.online := by
  simp only [applyPush, applyPush?, foldl_frame, Dict.isEmpty_ofList_iff]
  split
  next hsame => rw [Option.getD_none, onlineAfter_of_flattened_nil hsame.1, hsame.2]
  next =>
    simp only [Option.getD_some, Dict.get?_ofList, onlineAfter]
    cases Dict.written (flattened payload) "online" with
    | none => exact coerceOnline_eq _ _
    | some value =>
        simp only [coerceOnline_eq, Option.bind_some]
        cases flag? value <;> rfl

theorem get?_applyPush (state : DeviceState) (payload : Members) (key : String) :
    (state.applyPush payload).attributes.get? key =
      (Dict.written (flattened payload) key).or (state.attributes.get? key) := by
  simp only [applyPush, applyPush?, foldl_frame, Dict.isEmpty_ofList_iff]
  split
  next hsame => rw [hsame.1, Option.getD_none, Dict.written_nil, Option.none_or]
  next => rw [Option.getD_some, Dict.get?_update, Dict.written_items, Dict.get?_ofList]

/-! ## Sequences of frames -/

/-- Frames folded in the order they arrive in. -/
def applyFrames (state : DeviceState) (frames : List Members) : DeviceState :=
  frames.foldl applyPush state

theorem get?_applyFrames (state : DeviceState) (frames : List Members) (key : String) :
    (state.applyFrames frames).attributes.get? key =
      (Dict.written (frames.flatMap flattened) key).or (state.attributes.get? key) := by
  induction frames generalizing state with
  | nil => rfl
  | cons payload frames ih =>
      have hstep : state.applyFrames (payload :: frames) =
          (state.applyPush payload).applyFrames frames := rfl
      rw [hstep, ih, get?_applyPush, List.flatMap_cons, Dict.written_append, Option.or_assoc]

theorem applyFrames_keys (state : DeviceState) (frames : List Members) :
    state.attributes.keys ⊆ (state.applyFrames frames).attributes.keys := by
  intro key hkey
  have hmem : key ∈ state.attributes := hkey
  obtain ⟨value, hvalue⟩ := Option.isSome_iff_exists.mp (Dict.get?_isSome_iff.mpr hmem)
  have hafter : ((state.applyFrames frames).attributes.get? key).isSome = true := by
    rw [get?_applyFrames, hvalue]
    cases Dict.written (frames.flatMap flattened) key <;> rfl
  exact Dict.get?_isSome_iff.mp hafter

/-- After any frames each attribute stands at its last write and none is lost; the next frame
moves the flag as its own mentions say, and comes back as the same object exactly where it
writes nothing and moves no flag. -/
theorem applyFrames_last_writer (state : DeviceState) (frames : List Members)
    (payload : Members) :
    (∀ key, (state.applyFrames frames).attributes.get? key =
      (Dict.written (frames.flatMap flattened) key).or (state.attributes.get? key)) ∧
    state.attributes.keys ⊆ (state.applyFrames frames).attributes.keys ∧
    (state.applyFrames (frames ++ [payload])).online =
      onlineAfter payload (state.applyFrames frames).online ∧
    ((state.applyFrames frames).applyPush? payload = none ↔
      flattened payload = [] ∧ onlineAfter payload (state.applyFrames frames).online =
        (state.applyFrames frames).online) := by
  have hlast : state.applyFrames (frames ++ [payload]) =
      (state.applyFrames frames).applyPush payload := by
    rw [applyFrames, List.foldl_append]
    rfl
  refine ⟨get?_applyFrames state frames, applyFrames_keys state frames, ?_,
    applyPush?_eq_none_iff _ _⟩
  rw [hlast, applyPush_online]

end DeviceState

end Holabrain
