import Holabrain.Cloud.Device

/-!
# The two shapes of a status answer

A status body arrives nested under `query` or flat, with the fault object as its sibling or as
one of its members.  Both are merged the same way, but in the flat shape the fault object is part
of the body as well: it stays in the map as an attribute of its own, where the nested shape holds
only what the object carries.  `fromQuery_nested` and `fromQuery_flat` read the two maps key by
key.
-/

namespace Holabrain

/-- A member of an object is smaller than the object. -/
theorem Members.ne_obj_of_written {members : Members} {key : String} {value : Json}
    (h : Dict.written members key = some value) : value ≠ .obj members := by
  intro heq
  have hmem : sizeOf (key, value) < sizeOf members :=
    List.sizeOf_lt_of_mem (Dict.mem_of_written h)
  rw [heq, Prod.mk.sizeOf_spec, Json.obj.sizeOf_spec] at hmem
  omega

namespace DeviceState

/-- Defaults fill the keys that have no value; among them the first one counts. -/
theorem get?_setDefaults (attributes : Dict String Json) (items : List (String × Json))
    (key : String) :
    (setDefaults attributes items).get? key =
      (attributes.get? key).or (Dict.written items.reverse key) := by
  induction items generalizing attributes with
  | nil => rw [List.reverse_nil, Dict.written_nil, Option.or_none]; rfl
  | cons e rest ih =>
      have hstep : setDefaults attributes (e :: rest) = setDefaults
          (if (attributes.get? e.1).isSome then attributes else attributes.setItem e.1 e.2) rest :=
        rfl
      have hsingle : Dict.written [e] key = if key = e.1 then some e.2 else none := by
        rw [Dict.written_cons, Dict.written_nil, Option.none_or]
      rw [hstep, ih, List.reverse_cons, Dict.written_append, hsingle]
      by_cases hset : (attributes.get? e.1).isSome = true
      · rw [if_pos hset]
        by_cases hkey : key = e.1
        · subst hkey
          obtain ⟨value, hvalue⟩ := Option.isSome_iff_exists.mp hset
          rw [hvalue, Option.some_or, Option.some_or]
        · rw [if_neg hkey, Option.none_or]
      · rw [if_neg hset, Dict.get?_setItem]
        by_cases hkey : key = e.1
        · subst hkey
          rw [if_pos rfl, if_pos rfl, Option.not_isSome_iff_eq_none.mp hset, Option.none_or,
            Option.some_or]
        · rw [if_neg hkey, if_neg hkey, Option.none_or]

/-- The items of a dictionary name every key once, so their order says nothing. -/
theorem written_reverse_items (d : Dict String Json) (key : String) :
    Dict.written d.items.reverse key = d.get? key := by
  have hnodup : (d.items.map Prod.fst).Nodup := by
    rw [Dict.items, List.map_map]
    exact d.nodupKeys
  have hreverse : (d.items.reverse.map Prod.fst).Nodup := by
    rw [List.map_reverse]
    exact List.nodup_reverse.mpr hnodup
  apply Option.ext
  intro value
  rw [← Dict.mem_items, ← List.mem_reverse]
  exact ⟨Dict.mem_of_written, fun hmem => Dict.written_of_mem hreverse hmem⟩

/-- Faults fill the keys the status leaves open. -/
theorem get?_setDefaults_toDict (attributes : Dict String Json) (fault : Members) (key : String) :
    (setDefaults attributes fault.toDict.items).get? key =
      (attributes.get? key).or (Dict.written fault key) := by
  rw [get?_setDefaults, written_reverse_items, Members.toDict, Dict.get?_ofList]

/-- The status body and its faults, side by side. -/
def nestedShape (status fault : Members) : Members :=
  [("query", .obj status), ("fault", .obj fault)]

/-- The faults as a member of the status body. -/
def flatShape (status fault : Members) : Members := status ++ [("fault", .obj fault)]

theorem get_flatShape (status fault : Members) (key : String) :
    (flatShape status fault).get key = if key = "fault" then .obj fault else status.get key := by
  rw [Members.get_eq_written, Members.get_eq_written, flatShape, Dict.written_append,
    Dict.written_cons, Dict.written_nil, Option.none_or]
  split_ifs <;> rfl

theorem fromQuery_nested (thingCode : String) (status fault : Members) (key : String) :
    (fromQuery thingCode (nestedShape status fault)).attributes.get? key =
      (Dict.written status key).or (Dict.written fault key) := by
  rw [← Dict.get?_ofList status]
  exact get?_setDefaults_toDict status.toDict fault key

/-- In the flat shape the fault object is the attribute `fault`. -/
theorem fromQuery_flat (thingCode : String) {status fault : Members}
    (hquery : Dict.written status "query" = none) (key : String) :
    (fromQuery thingCode (flatShape status fault)).attributes.get? key =
      if key = "fault" then some (.obj fault)
      else (Dict.written status key).or (Dict.written fault key) := by
  have hbody : (((flatShape status fault).get "query").asObj.getD (flatShape status fault)) =
      flatShape status fault := by
    rw [get_flatShape, if_neg (by decide), Members.get_eq_written, hquery]
    rfl
  have hfault : ((flatShape status fault).get "fault").asObj = some fault := by
    rw [get_flatShape, if_pos rfl]
    rfl
  simp only [fromQuery, hbody, hfault]
  rw [get?_setDefaults_toDict, Members.toDict, Dict.get?_ofList, flatShape, Dict.written_append,
    Dict.written_cons, Dict.written_nil, Option.none_or]
  by_cases hkey : key = "fault"
  · rw [if_pos hkey, if_pos hkey, Option.some_or, Option.some_or]
  · rw [if_neg hkey, if_neg hkey, Option.none_or]

/-- The online flag is read from the merged map. -/
theorem online_fromQuery (thingCode : String) (data : Members) :
    (fromQuery thingCode data).online =
      coerceOnline (((fromQuery thingCode data).attributes.get? "online").getD .null) true := rfl

/-- The two shapes give the same attributes, the status winning, and the same online flag. -/
structure ShapesAgree (thingCode : String) (status fault : Members) : Prop where
  attributes : ∀ key,
    (fromQuery thingCode (nestedShape status fault)).attributes.get? key =
      (fromQuery thingCode (flatShape status fault)).attributes.get? key
  online : (fromQuery thingCode (nestedShape status fault)).online =
    (fromQuery thingCode (flatShape status fault)).online
  statusWins : ∀ key value, Dict.written status key = some value →
    (fromQuery thingCode (nestedShape status fault)).attributes.get? key = some value

/-- The two shapes never agree: the flat one keeps the fault object among the attributes.  All
other attributes are the same in both, the status winning over the faults, and so is the online
flag. -/
theorem shapes_differ_at_fault (thingCode : String) (status fault : Members)
    (hquery : Dict.written status "query" = none) (hfault : Dict.written status "fault" = none) :
    ¬ ShapesAgree thingCode status fault ∧
      ((fromQuery thingCode (flatShape status fault)).attributes.get? "fault" =
          some (.obj fault) ∧
        (fromQuery thingCode (nestedShape status fault)).attributes.get? "fault" =
          Dict.written fault "fault") ∧
      (∀ key, key ≠ "fault" →
        (fromQuery thingCode (nestedShape status fault)).attributes.get? key =
            (Dict.written status key).or (Dict.written fault key) ∧
          (fromQuery thingCode (flatShape status fault)).attributes.get? key =
            (Dict.written status key).or (Dict.written fault key)) ∧
      (fromQuery thingCode (nestedShape status fault)).online =
        (fromQuery thingCode (flatShape status fault)).online := by
  have hflat : (fromQuery thingCode (flatShape status fault)).attributes.get? "fault" =
      some (.obj fault) := by
    rw [fromQuery_flat thingCode hquery, if_pos rfl]
  have hnested : (fromQuery thingCode (nestedShape status fault)).attributes.get? "fault" =
      Dict.written fault "fault" := by
    rw [fromQuery_nested, hfault, Option.none_or]
  have helse : ∀ key, key ≠ "fault" →
      (fromQuery thingCode (nestedShape status fault)).attributes.get? key =
          (Dict.written status key).or (Dict.written fault key) ∧
        (fromQuery thingCode (flatShape status fault)).attributes.get? key =
          (Dict.written status key).or (Dict.written fault key) := fun key hkey =>
    ⟨fromQuery_nested thingCode status fault key, by
      rw [fromQuery_flat thingCode hquery, if_neg hkey]⟩
  refine ⟨fun hagree => ?_, ⟨hflat, hnested⟩, helse, ?_⟩
  · have heq := hagree.attributes "fault"
    rw [hflat, hnested] at heq
    exact Members.ne_obj_of_written heq rfl
  · obtain ⟨hleft, hright⟩ := helse "online" (by decide)
    rw [online_fromQuery, online_fromQuery, hleft, hright]

/-- A washer that reports a fault code. -/
theorem shapes_differ_at_fault_washer :
    ¬ ShapesAgree "1" [("power", .str "1"), ("error", .str "0")] [("error", .str "E3")] :=
  (shapes_differ_at_fault "1" [("power", .str "1"), ("error", .str "0")] [("error", .str "E3")]
    rfl rfl).1

/-- The flat shape holds an object where the nested one holds nothing. -/
theorem shapesAgree_counterexample :
    (fromQuery "1" (flatShape [("power", .str "1")] [("error", .str "E3")])).attributes.get?
        "fault" = some (.obj [("error", .str "E3")]) ∧
      (fromQuery "1" (nestedShape [("power", .str "1")] [("error", .str "E3")])).attributes.get?
        "fault" = none ∧
      ¬ ∀ thingCode status fault, Dict.written status "query" = none →
        Dict.written status "fault" = none → ShapesAgree thingCode status fault := by
  have hflat : (fromQuery "1" (flatShape [("power", .str "1")]
      [("error", .str "E3")])).attributes.get? "fault" =
        some (.obj [("error", .str "E3")]) := by decide +kernel
  have hnested : (fromQuery "1" (nestedShape [("power", .str "1")]
      [("error", .str "E3")])).attributes.get? "fault" = none := by decide +kernel
  refine ⟨hflat, hnested, fun hall => ?_⟩
  have heq := (hall "1" [("power", .str "1")] [("error", .str "E3")] rfl rfl).attributes "fault"
  rw [hflat, hnested] at heq
  cases heq

end DeviceState

end Holabrain
