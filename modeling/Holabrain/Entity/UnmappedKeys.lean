import Mathlib.Data.String.Basic
import Holabrain.Core.SortedPrefix
import Holabrain.Entity.GatingTokens

/-!
# Every reported key has a place

A key that a modelled appliance reports is used by its category, describes the message, counts a
lifetime, or is offered as a diagnostic sensor.  The reported keys are sorted and cut off before
those with another place are taken out, so keys that are mapped take the places of keys that are
not.
-/

namespace Holabrain

namespace Coordinator

/-- Which of the four places a key has. -/
def placesOf (category : CategorySpec) (offered : List String) (key : String) : List Bool :=
  [decide (key ∈ category.referencedKeys), decide (key ∈ envelope),
    decide (key ∈ hiddenLifetimeCounters), decide (key ∈ offered)]

/-- Nothing models the key. -/
def IsUnmapped (category : CategorySpec) (key : String) : Prop :=
  key ∉ category.referencedKeys ∧ key ∉ envelope ∧ key ∉ hiddenLifetimeCounters

/-- Every reported key has one place, and the unmapped ones are offered once. -/
structure IsPartition (category : CategorySpec) (keys offered : List String) : Prop where
  one : ∀ key ∈ keys, (placesOf category offered key).count true = 1
  once : ∀ key ∈ keys, IsUnmapped category key → offered.count key = 1

/-- Few enough keys stand before each unmapped one, mapped keys included. -/
def ReachesUnmapped (category : CategorySpec) (keys : List String) : Prop :=
  ∀ key ∈ keys, IsUnmapped category key →
    (keys.filter (· ∉ envelope)).countP (· < key) < maxGenericSensors

/-- No category uses a field of the envelope or a lifetime counter. -/
theorem notMem_referencedKeys {category : CategorySpec} (h : category ∈ categories) :
    ∀ key ∈ envelope ++ hiddenLifetimeCounters, key ∉ category.referencedKeys := by
  revert category
  decide +kernel

theorem notMem_hiddenLifetimeCounters : ∀ key ∈ envelope, key ∉ hiddenLifetimeCounters := by
  decide

/-- If exactly the unmapped keys are offered, a key has one place. -/
theorem count_placesOf {category : CategorySpec} {offered : List String} {key : String}
    (hcategory : category ∈ categories) (hoffered : key ∈ offered ↔ IsUnmapped category key) :
    (placesOf category offered key).count true = 1 := by
  have hmapped := notMem_referencedKeys hcategory key
  have henvelope := notMem_hiddenLifetimeCounters key
  rw [IsUnmapped] at hoffered
  rw [List.mem_append] at hmapped
  simp only [placesOf, hoffered]
  by_cases hmem : key ∈ category.referencedKeys
  · have hother : key ∉ envelope ∧ key ∉ hiddenLifetimeCounters := by
      rw [← not_or]
      exact fun hplace => hmapped hplace hmem
    simp [hmem, hother]
  by_cases hmem' : key ∈ envelope
  · simp [hmem, hmem', henvelope hmem']
  by_cases hmem'' : key ∈ hiddenLifetimeCounters
  · simp [hmem, hmem', hmem'']
  · simp [hmem, hmem', hmem'']

section Offered

variable {keys : List String} (hnodup : keys.Nodup)

include hnodup

/-- What is offered of the reported keys are those with few enough keys before them. -/
theorem mem_genericStatusKeys_iff (key : String) : key ∈ genericStatusKeys keys ↔
    key ∈ keys ∧ key ∉ envelope ∧
      (keys.filter (· ∉ envelope)).countP (· < key) < maxGenericSensors := by
  rw [genericStatusKeys, mem_take_insertionSort (hnodup.filter _), List.mem_filter,
    decide_eq_true_iff, and_assoc]

theorem nodup_genericStatusKeys : (genericStatusKeys keys).Nodup := by
  rw [genericStatusKeys]
  exact ((List.perm_insertionSort _ _).nodup_iff.mpr (hnodup.filter _)).sublist
    (List.take_sublist _ _)

end Offered

section Unmapped

variable {w : World} {thingCode : String} {device : Device} {category : CategorySpec}
  {state : DeviceState} (hcategory : getCategory device.deviceType = some category)
  (hstate : w.states.get? thingCode = some state)

include hcategory hstate

/-- What is offered are the unmapped keys with few enough keys before them. -/
theorem mem_unmappedUids_iff (key : String) : key ∈ unmappedUids w thingCode device ↔
    key ∈ state.attributes.keys ∧ IsUnmapped category key ∧
      (state.attributes.keys.filter (· ∉ envelope)).countP (· < key) < maxGenericSensors := by
  have hnodup : state.attributes.keys.Nodup := AList.keys_nodup _
  rw [unmappedUids, hcategory, hstate]
  dsimp only
  rw [List.mem_filter, mem_genericStatusKeys_iff hnodup, Bool.and_eq_true,
    decide_eq_true_iff, decide_eq_true_iff, IsUnmapped]
  constructor
  · rintro ⟨⟨hkey, henvelope, hfew⟩, hmapped, hhidden⟩
    exact ⟨hkey, ⟨hmapped, henvelope, hhidden⟩, hfew⟩
  · rintro ⟨hkey, ⟨hmapped, henvelope, hhidden⟩, hfew⟩
    exact ⟨⟨hkey, henvelope, hfew⟩, hmapped, hhidden⟩

theorem nodup_unmappedUids : (unmappedUids w thingCode device).Nodup := by
  rw [unmappedUids, hcategory, hstate]
  exact (nodup_genericStatusKeys (AList.keys_nodup _)).filter _

/-- Every reported key has its place exactly if no unmapped one is cut off. -/
theorem unmapped_partition_iff :
    IsPartition category state.attributes.keys (unmappedUids w thingCode device) ↔
      ReachesUnmapped category state.attributes.keys := by
  have hmem := mem_unmappedUids_iff hcategory hstate
  constructor
  · intro h key hkey hunmapped
    have honce := h.once key hkey hunmapped
    have hoffered : key ∈ unmappedUids w thingCode device := by
      rw [← List.count_pos_iff, honce]
      exact Nat.one_pos
    exact ((hmem key).mp hoffered).2.2
  · intro h
    have hoffered : ∀ key ∈ state.attributes.keys,
        key ∈ unmappedUids w thingCode device ↔ IsUnmapped category key := by
      intro key hkey
      rw [hmem]
      exact ⟨fun hall => hall.2.1, fun hunmapped => ⟨hkey, hunmapped, h key hkey hunmapped⟩⟩
    constructor
    · intro key hkey
      exact count_placesOf (mem_categories_of_getCategory hcategory) (hoffered key hkey)
    · intro key hkey hunmapped
      exact List.count_eq_one_of_mem (nodup_unmappedUids hcategory hstate)
        ((hoffered key hkey).mpr hunmapped)

end Unmapped

/-- One known key and as many unknown ones as there may be sensors. -/
def crowdedKeys : List String := "power" :: (List.range 120).map fun n => "raw" ++ toString n

/-- Numbers are printed differently. -/
theorem nodup_crowdedKeys : crowdedKeys.Nodup := by
  have hinjective : Function.Injective fun n : ℕ => "raw" ++ toString n := by
    intro n m heq
    have hdigits : Nat.toDigits 10 n = Nat.toDigits 10 m :=
      String.ofList_inj.mp ((String.append_right_inj "raw").mp heq)
    rw [← Nat.ofDigitChars_ten_toDigits (n := n), hdigits, Nat.ofDigitChars_ten_toDigits]
  exact List.nodup_cons.mpr ⟨by decide +kernel, List.nodup_range.map hinjective⟩

def crowdedLamp : DeviceState where
  thingCode := "L"
  attributes :=
    { entries := crowdedKeys.map fun key => ⟨key, .str "1"⟩
      nodupKeys := by
        rw [List.NodupKeys, List.keys, List.map_map]
        exact (List.map_id crowdedKeys).symm ▸ nodup_crowdedKeys }

/-- A lamp with this status. -/
def withLamp (state : DeviceState) : World :=
  { World.fresh with data := some (Dict.ofList [("L", state)]) }

def lampDevice : Device where
  thingCode := "L"
  name := "Lamp"
  deviceType := "0x13"
  model := "L1"
  online := true

/-- The known key is sorted before all others and takes the place of the last. -/
theorem crowded_lamp_loses_key :
    (crowdedLamp.attributes.keys.filter fun key =>
      decide (key ∉ Registry.lamp.referencedKeys) && decide (key ∉ envelope) &&
        decide (key ∉ hiddenLifetimeCounters)).length ≤ maxGenericSensors ∧
    ¬ IsPartition Registry.lamp crowdedLamp.attributes.keys
      (unmappedUids (withLamp crowdedLamp) "L" lampDevice) := by
  have hcategory : getCategory lampDevice.deviceType = some Registry.lamp := by rfl
  have hstate : (withLamp crowdedLamp).states.get? "L" = some crowdedLamp := by rfl
  have hunmapped : IsUnmapped Registry.lamp "raw99" := by
    rw [IsUnmapped]
    decide +kernel
  have hkey : "raw99" ∈ crowdedLamp.attributes.keys := by decide +kernel
  have hbefore : (crowdedLamp.attributes.keys.filter (· ∉ envelope)).countP (· < "raw99") =
      maxGenericSensors := by
    decide +kernel
  constructor
  · decide +kernel
  · intro hpartition
    have honce := hpartition.once "raw99" hkey hunmapped
    have hoffered := List.count_pos_iff.mp (honce ▸ Nat.one_pos)
    have hfew := ((mem_unmappedUids_iff hcategory hstate "raw99").mp hoffered).2.2
    rw [hbefore] at hfew
    exact lt_irrefl _ hfew

def plainLamp : DeviceState where
  thingCode := "L"
  attributes := Dict.ofList [("power", .str "1"), ("online", .str "1"), ("raw0", .str "1")]

/-- A lamp that reports one unknown key. -/
theorem unmapped_partition_plain_lamp : IsPartition Registry.lamp plainLamp.attributes.keys
    (unmappedUids (withLamp plainLamp) "L" lampDevice) := by
  refine (unmapped_partition_iff (by rfl) (by rfl)).mpr ?_
  intro key _ _
  refine lt_of_le_of_lt List.countP_le_length ?_
  decide +kernel

end Coordinator

end Holabrain
