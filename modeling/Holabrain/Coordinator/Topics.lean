import Holabrain.Coordinator.Interleaving

/-!
# Topics of the push channel

The client subscribes to `<region>/<region>_<thing code>/<channel>` and the coordinator reads
the thing code back out of the topic a frame arrives on.  A thing code may hold underscores
but no slash, and a region holds neither, so the reading inverts the formatting and a frame
reaches the one appliance it is for.
-/

namespace Holabrain

/-- `REGION_HOSTS`. -/
def Client.regionHosts : Dict String String :=
  Dict.ofList [("eu", "https://eu.dollin.net"), ("us", "https://us.dollin.net")]

namespace Coordinator

/-! ## Reading a topic back -/

theorem mem_regionHosts {region : String} :
    region ∈ Client.regionHosts ↔ region = "eu" ∨ region = "us" := by
  rw [Client.regionHosts, Dict.mem_ofList]
  simp

/-- No region holds a character the topic is split at. -/
theorem separators_notMem_region {region : String} (h : region ∈ Client.regionHosts) :
    '/' ∉ region.toList ∧ '_' ∉ region.toList := by
  rcases mem_regionHosts.mp h with rfl | rfl <;> decide

theorem partition_underscore {region : List Char} (h : '_' ∉ region) (thingCode : List Char) :
    ((region ++ '_' :: thingCode).dropWhile (· != '_')).drop 1 = thingCode := by
  have hdrop : region.dropWhile (· != '_') = [] := by
    rw [List.dropWhile_eq_nil_iff]
    intro c hc
    rw [bne_iff_ne]
    exact fun heq => h (heq ▸ hc)
  rw [List.dropWhile_append, hdrop]
  rfl

theorem thingCodeFromTopic_pushTopics {region thingCode topic : String}
    (hregion : region ∈ Client.regionHosts) (hcode : thingCode ≠ "")
    (hslash : '/' ∉ thingCode.toList) (htopic : topic ∈ Client.pushTopics region thingCode) :
    thingCodeFromTopic topic = some thingCode := by
  obtain ⟨channel, -, rfl⟩ := List.mem_map.mp htopic
  obtain ⟨hfirst, hunderscore⟩ := separators_notMem_region hregion
  have hmiddle : '/' ∉ region.toList ++ '_' :: thingCode.toList := by
    rw [List.mem_append, List.mem_cons, not_or, not_or]
    exact ⟨hfirst, by decide, hslash⟩
  have htext : (region ++ "/" ++ region ++ "_" ++ thingCode ++ "/" ++ channel).toList =
      region.toList ++ '/' :: ((region.toList ++ '_' :: thingCode.toList) ++
        '/' :: channel.toList) := by
    simp [String.toList_append]
  rw [thingCodeFromTopic, htext, List.splitOn_append_cons_self_of_not_mem hfirst,
    List.splitOn_append_cons_self_of_not_mem hmiddle]
  simp only [partition_underscore hunderscore, String.ofList_toList, if_neg hcode]

/-! ## What a frame does to the published data -/

theorem states_absorb (states : List (String × DeviceState)) (w : World) :
    (absorbStatusFields states w).states = w.states := by
  obtain ⟨_, _, _, habsorbed⟩ := onlyProfiles_absorb states w
  rw [habsorbed]
  rfl

theorem OnlyQueued.states {w w' : World} (h : OnlyQueued w w') : w'.states = w.states := by
  obtain ⟨_, _, _, _, rfl, _⟩ := h
  rfl

theorem get?_applyFrame {thingCode : String} {payload : Members} {current : DeviceState}
    {w : World} (hcurrent : w.states.get? thingCode = some current) (code : String) :
    (applyFrame thingCode payload current w).states.get? code =
      if code = thingCode then some (current.applyPush payload) else w.states.get? code := by
  rw [applyFrame, (onlyQueued_fetchConsumptionOnce _).states, DeviceState.applyPush]
  split
  next hsame =>
    rw [hsame, Option.getD_none]
    split
    next hcode => rw [hcode, hcurrent]
    next => rfl
  next updated hupdated =>
    rw [(onlyQueued_noteSnapshotTrigger _ _ _ _).states, hupdated, Option.getD_some]
    have hfolded : (foldInto thingCode payload updated
        (absorbStatusFields [(thingCode, updated)] w)).states =
          w.states.setItem thingCode updated := by
      rw [← states_absorb [(thingCode, updated)] w]
      rfl
    rw [hfolded, Dict.get?_setItem]

/-- A frame folds into the state of the appliance its topic names and into no other. -/
theorem get?_handlePush (topic : String) (payload : Members) (w : World) (code : String) :
    (handlePush topic payload w).states.get? code =
      if thingCodeFromTopic topic = some code then
        (w.states.get? code).map (DeviceState.applyPush · payload)
      else w.states.get? code := by
  rw [handlePush]
  split
  next hnone => rw [hnone, if_neg (by simp)]; rfl
  next thingCode hsome =>
    rw [hsome]
    split
    next hnone =>
      have hunpublished : w.states.get? thingCode = none := hnone
      split
      next hcode =>
        rw [← Option.some.inj hcode, hunpublished, Option.map_none]
        exact hunpublished
      next => rfl
    next current hsome =>
      have hcurrent : w.states.get? thingCode = some current := hsome
      rw [get?_applyFrame hsome]
      by_cases hcode : code = thingCode
      · rw [if_pos hcode, if_pos (congrArg some hcode.symm), hcode, hcurrent, Option.map_some]
      · rw [if_neg hcode, if_neg fun heq => hcode (Option.some.inj heq).symm]
        rfl

/-! ## A frame reaches its appliance -/

/-- A topic the client subscribes to for an appliance is read as that appliance's and is
subscribed to for no other; a frame on it changes no other state and adds no appliance. -/
theorem pushTopics_reach_one (region thingCode topic : String)
    (hregion : region ∈ Client.regionHosts) (hcode : thingCode ≠ "")
    (hslash : '/' ∉ thingCode.toList) (htopic : topic ∈ Client.pushTopics region thingCode) :
    thingCodeFromTopic topic = some thingCode ∧
    (∀ region' other, region' ∈ Client.regionHosts → other ≠ "" → '/' ∉ other.toList →
      topic ∈ Client.pushTopics region' other → other = thingCode) ∧
    ∀ payload w,
      (∀ other, other ≠ thingCode →
        (handlePush topic payload w).states.get? other = w.states.get? other) ∧
      ∀ code, code ∈ (handlePush topic payload w).states ↔ code ∈ w.states := by
  have hread := thingCodeFromTopic_pushTopics hregion hcode hslash htopic
  refine ⟨hread, ?_, ?_⟩
  · intro region' other hregion' hother hslash' hshared
    have hread' := thingCodeFromTopic_pushTopics hregion' hother hslash' hshared
    exact Option.some.inj (hread'.symm.trans hread)
  · intro payload w
    refine ⟨fun other hother => ?_, (unpolled_handlePush topic payload w).published⟩
    rw [get?_handlePush, hread, if_neg fun heq => hother (Option.some.inj heq).symm]

/-- An identifier with underscores of its own, on the channel of heartbeats. -/
theorem pushTopics_reach_one_underscores :
    thingCodeFromTopic "us/us_17_0_42/hbt" = some "17_0_42" ∧
    (∀ region' other, region' ∈ Client.regionHosts → other ≠ "" → '/' ∉ other.toList →
      "us/us_17_0_42/hbt" ∈ Client.pushTopics region' other → other = "17_0_42") ∧
    ∀ payload w,
      (∀ other, other ≠ "17_0_42" →
        (handlePush "us/us_17_0_42/hbt" payload w).states.get? other = w.states.get? other) ∧
      ∀ code, code ∈ (handlePush "us/us_17_0_42/hbt" payload w).states ↔ code ∈ w.states :=
  pushTopics_reach_one "us" "17_0_42" "us/us_17_0_42/hbt"
    (mem_regionHosts.mpr (.inr rfl)) (by decide) (by decide) (by decide)

end Coordinator

end Holabrain
