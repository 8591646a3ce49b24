import Holabrain.Core.Trace
import Holabrain.Cloud.Overflow
import Holabrain.Coordinator.UnknownInventory

/-!
# The inventory, record by record

Each object of the account's list stands for one appliance, and each field of the appliance for
what its record says: a value that cannot be read as the field's type leaves the default.
`Device.ofRecord` states that reading.  The code meets it but for one value, an infinite double
where an integer is expected: `int` raises there an exception nobody catches, and the whole list
is lost.
-/

namespace Holabrain

open Coordinator

/-! ## One record -/

/-- `_as_int` reads the integer or takes the default, and fails on an infinite double. -/
theorem asInt_eq (value : Json) (default : ℤ) :
    asInt value default = if isInfinite value = true then .error (.builtin "OverflowError")
      else .ok ((integerOf value).getD default) := by
  cases value with
  | float x => cases x <;> rfl
  | _ => rfl

/-- The appliance a record describes. -/
def Device.ofRecord (record : Members) : Device where
  thingCode := Device.thingCodeOf record
  name := (((record.get "thingName").or (record.get "name")).or (.str "")).pyStr
  deviceType := normalizeType (record.get "deviceType")
  model :=
    ((((record.get "sn8").or (record.get "deviceSn8")).or (record.get "model")).or (.str "")).pyStr
  online := (record.get "online").truthy
  firmwareVersion := ((record.get "firmwareVersion").or (.str "")).pyStr
  pluginType := (integerOf (record.get "pluginType")).getD 0
  thingProtocol := (integerOf (record.get "thingProtocol")).getD 1
  dynamicAttr :=
    (((record.get "dynamicAttr").or (record.get "manualDynamicAttr")).or (.str "")).pyStr
  metadata := record.toDict

/-- One of the numbers of the record is infinite. -/
def HasInfiniteNumber (record : Members) : Prop :=
  isInfinite (record.get "pluginType") = true ∨ isInfinite (record.get "thingProtocol") = true

instance (record : Members) : Decidable (HasInfiniteNumber record) :=
  inferInstanceAs (Decidable (_ ∨ _))

/-- A record is read as it stands or, with an infinite number, not at all. -/
theorem Device.fromDict_eq (record : Members) :
    Device.fromDict record = if HasInfiniteNumber record then .error (.builtin "OverflowError")
      else .ok (Device.ofRecord record) := by
  rw [Device.fromDict, asInt_eq, asInt_eq]
  by_cases hplugin : isInfinite (record.get "pluginType") = true
  · have hinfinite : HasInfiniteNumber record := .inl hplugin
    rw [if_pos hplugin, if_pos hinfinite]
    rfl
  by_cases hprotocol : isInfinite (record.get "thingProtocol") = true
  · have hinfinite : HasInfiniteNumber record := .inr hprotocol
    rw [if_neg hplugin, if_pos hprotocol, if_pos hinfinite]
    rfl
  · have hfinite : ¬ HasInfiniteNumber record := fun h => h.elim hplugin hprotocol
    rw [if_neg hplugin, if_neg hprotocol, if_neg hfinite]
    rfl

/-! ## The list -/

/-- The records of a list: its objects, in order. -/
def recordsOf (items : List Json) : List Members := items.filterMap Json.asObj

/-- The first record that cannot be read loses all of them. -/
theorem Client.readInventory_eq (items : List Json) :
    Client.readInventory items = if ∃ record ∈ recordsOf items, HasInfiniteNumber record then
      .error (.builtin "OverflowError") else .ok ((recordsOf items).map Device.ofRecord) := by
  rw [Client.readInventory, ← recordsOf]
  induction recordsOf items with
  | nil => rfl
  | cons record rest ih =>
      rw [List.mapM_cons, ih, Device.fromDict_eq]
      by_cases hrecord : HasInfiniteNumber record
      · have hinfinite : ∃ other ∈ record :: rest, HasInfiniteNumber other :=
          ⟨record, List.mem_cons_self, hrecord⟩
        rw [if_pos hrecord, if_pos hinfinite]
        rfl
      by_cases hrest : ∃ other ∈ rest, HasInfiniteNumber other
      · have hinfinite : ∃ other ∈ record :: rest, HasInfiniteNumber other := by
          obtain ⟨other, hmem, hother⟩ := hrest
          exact ⟨other, List.mem_cons_of_mem _ hmem, hother⟩
        rw [if_neg hrecord, if_pos hrest, if_pos hinfinite]
        rfl
      · have hfinite : ¬ ∃ other ∈ record :: rest, HasInfiniteNumber other := by
          rintro ⟨other, hmem, hother⟩
          obtain rfl | hmem := List.mem_cons.mp hmem
          · exact hrecord hother
          · exact hrest ⟨other, hmem, hother⟩
        rw [if_neg hrecord, if_neg hrest, if_neg hfinite]
        rfl

section

variable {env : Environment World ClientOp ClientAnswer} {w w' : World} {reply : Members}
  {items : List Json} {result : Except Exn (List Device)}

/-- The reading of the list is all that a run makes of the reply. -/
theorem Client.asyncList_result (hitems : reply.get "data" = .arr items)
    (hrun : Coro.Traced env Client.asyncList w [⟨.call .oem Auth.epHomeIndex .null, .ok reply⟩]
      result w') : result = Client.readInventory items := by
  have hread : Coro.wpt env Client.asyncList (fun result h _ => ∀ data listed,
      h = [⟨.call .oem Auth.epHomeIndex .null, .ok data⟩] → data.get "data" = .arr listed →
        result = Client.readInventory listed) [] w := by
    simp only [Client.asyncList, Client.call, Coro.wpt_bind, Coro.wpt_perform,
      Coro.wpt_ofExcept]
    intro answer t _
    cases answer with
    | error exn =>
        intro data listed htrace
        cases htrace
    | ok data =>
        dsimp only
        split
        next listed hdata =>
          simp only [Coro.wpt_bind, Coro.wpt_ofExcept]
          cases hread : Client.readInventory listed with
          | error exn =>
              intro data' listed' htrace hdata'
              cases htrace
              cases hdata.symm.trans hdata'
              exact hread.symm
          | ok devices =>
              intro data' listed' htrace hdata'
              cases htrace
              cases hdata.symm.trans hdata'
              exact hread.symm
        next hdata =>
          intro data' listed' htrace hdata'
          cases htrace
          exact absurd hdata' (hdata listed')
  exact hrun.post hread reply items rfl hitems

/-- A list yields one appliance for each of its records, in order, exactly if no record carries
an infinite number. -/
theorem asyncList_one_per_record_iff (hitems : reply.get "data" = .arr items)
    (hrun : Coro.Traced env Client.asyncList w [⟨.call .oem Auth.epHomeIndex .null, .ok reply⟩]
      result w') :
    result = .ok ((recordsOf items).map Device.ofRecord) ↔
      ∀ record ∈ recordsOf items, ¬ HasInfiniteNumber record := by
  rw [Client.asyncList_result hitems hrun, Client.readInventory_eq]
  split_ifs with hinfinite
  · obtain ⟨record, hmem, hrecord⟩ := hinfinite
    exact iff_of_false nofun fun hall => hall record hmem hrecord
  · exact iff_of_true rfl fun record hmem hrecord => hinfinite ⟨record, hmem, hrecord⟩

end

/-! ## Two lists -/

/-- A reply with these entries. -/
def inventoryReply (items : List Json) : Members := [("code", .int 0), ("data", .arr items)]

/-- Any list can be the answer, and its reading is then the result. -/
theorem exists_traced_asyncList (items : List Json) :
    ∃ w', Coro.Traced (listing (inventoryReply items)) Client.asyncList World.fresh
      [⟨.call .oem Auth.epHomeIndex .null, .ok (inventoryReply items)⟩]
      (Client.readInventory items) w' := by
  have hdata : (inventoryReply items).get "data" = .arr items := rfl
  have hplay := Coro.traced_play (answerListing (inventoryReply items))
    (listing_answerListing (inventoryReply items)) Client.asyncList 0 World.fresh
  have htrace : Coro.wpt (listing (inventoryReply items)) Client.asyncList (fun _ h _ =>
      h = [⟨.call .oem Auth.epHomeIndex .null, .ok (inventoryReply items)⟩]) [] World.fresh := by
    simp only [Client.asyncList, Client.call, Coro.wpt_bind, Coro.wpt_perform, Coro.wpt_ofExcept]
    intro answer t hanswer
    rw [hanswer.2 rfl]
    simp only [hdata, Coro.wpt_bind, Coro.wpt_ofExcept]
    cases Client.readInventory items with
    | error exn => rfl
    | ok devices => rfl
  have hrecord := hplay.post htrace
  rw [List.nil_append] at hrecord
  rw [hrecord] at hplay
  rw [← Client.asyncList_result hdata hplay]
  exact ⟨_, hplay⟩

/-- A dishwasher whose numbers are words, and an entry that is no object. -/
def junkNumbers : List Json :=
  [.obj [("thingCode", .str "1"), ("pluginType", .str ""), ("thingProtocol", .str "a number")],
    .int 7, .obj [("applianceCode", .int 2), ("thingProtocol", .float .nan)]]

theorem asyncList_one_per_record_junkNumbers :
    Client.readInventory junkNumbers = .ok ((recordsOf junkNumbers).map Device.ofRecord) := by
  obtain ⟨w', hrun⟩ := exists_traced_asyncList junkNumbers
  exact (asyncList_one_per_record_iff rfl hrun).mpr (by decide +kernel)

/-- A dishwasher, and an appliance whose plugin type is `Infinity`. -/
def infinitePlugin : List Json :=
  [.obj [("thingCode", .str "1")],
    .obj [("thingCode", .str "2"), ("pluginType", .float (.infinite false))]]

/-- The infinite number of the second record loses the first one as well. -/
theorem asyncList_infinitePlugin :
    Client.readInventory infinitePlugin = .error (.builtin "OverflowError") ∧
      ¬ ∀ (env : Environment World ClientOp ClientAnswer) (w w' : World) (reply : Members)
        (items : List Json) (result : Except Exn (List Device)), reply.get "data" = .arr items →
        Coro.Traced env Client.asyncList w [⟨.call .oem Auth.epHomeIndex .null, .ok reply⟩]
          result w' →
        result = .ok ((recordsOf items).map Device.ofRecord) := by
  have hraised : Client.readInventory infinitePlugin = .error (.builtin "OverflowError") := by
    decide +kernel
  refine ⟨hraised, fun hall => ?_⟩
  obtain ⟨w', hrun⟩ := exists_traced_asyncList infinitePlugin
  have hok := hall _ _ _ _ _ _ rfl hrun
  rw [hraised] at hok
  cases hok

end Holabrain
