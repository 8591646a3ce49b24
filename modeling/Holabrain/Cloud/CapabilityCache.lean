import Mathlib.Data.Finset.Sort
import Mathlib.Data.String.Basic
import Holabrain.Cloud.Capability
import Holabrain.Cloud.Number

/-!
# The capability cache

A profile is persisted as a record of plain JSON types and rebuilt from it under the model it
was stored for.  Older records lack most entries; a missing or empty entry reads as the empty
value of its type.
-/

namespace Holabrain

/-! ## More queries of a profile -/

/-- A number as Python compares it, before any rounding. -/
def Json.number? : Json → Option Double
  | .int n => some (.finite n)
  | .bool b => some (.finite (if b then 1 else 0))
  | .float (.finite x) => some (Double.ofRat x.value)
  | .float (.infinite negative) => some (.infinite negative)
  | .float .nan => some .nan
  | .null | .str _ | .arr _ | .obj _ => none

/-- `a < b`; no comparison with `nan` holds. -/
def Double.lt : Double → Double → Bool
  | .finite a, .finite b => decide (a < b)
  | .finite _, .infinite negative => !negative
  | .infinite negative, .finite _ => negative
  | .infinite a, .infinite b => a && !b
  | _, _ => false

namespace CapabilityProfile

/-- `has_field`. -/
def hasField (profile : CapabilityProfile) (key : String) : Bool :=
  decide (key ∈ profile.presentFields)

/-- `mode_subset`. -/
def modeSubset (profile : CapabilityProfile) : List String :=
  match profile.params.get? "mode_subset" with
  | some (.arr items) => items.map Json.pyStr
  | _ => []

/-- `temperature_range`. -/
def temperatureRange (profile : CapabilityProfile) (default : Double × Double) :
    Except Exn (Double × Double) :=
  let low := (profile.params.get? "temp_min").getD .null
  let high := (profile.params.get? "temp_max").getD .null
  match low.number?, high.number? with
  | some a, some b =>
      if a.lt b then do
        let low ← pyFloat low
        let high ← pyFloat high
        return (low, high)
      else .ok default
  | _, _ => .ok default

end CapabilityProfile

/-! ## `_jsonable` -/

mutual

/-- `_jsonable` of a decoded value, which holds no set and no tuple. -/
def Json.jsonable : Json → Json
  | .arr items => .arr (Json.jsonableItems items)
  | .obj members => .obj (Json.jsonableMembers members)
  | value => value

def Json.jsonableItems : List Json → List Json
  | [] => []
  | item :: rest => item.jsonable :: Json.jsonableItems rest

def Json.jsonableMembers : List (String × Json) → List (String × Json)
  | [] => []
  | (key, item) :: rest => (key, item.jsonable) :: Json.jsonableMembers rest

end

mutual

theorem Json.jsonable_eq : (value : Json) → value.jsonable = value
  | .arr items => congrArg Json.arr (Json.jsonableItems_eq items)
  | .obj members => congrArg Json.obj (Json.jsonableMembers_eq members)
  | .null | .bool _ | .int _ | .float _ | .str _ => rfl

theorem Json.jsonableItems_eq : (items : List Json) → Json.jsonableItems items = items
  | [] => rfl
  | item :: rest => congrArg₂ List.cons item.jsonable_eq (Json.jsonableItems_eq rest)

theorem Json.jsonableMembers_eq :
    (members : List (String × Json)) → Json.jsonableMembers members = members
  | [] => rfl
  | (key, item) :: rest =>
      congrArg₂ List.cons (congrArg (Prod.mk key) item.jsonable_eq)
        (Json.jsonableMembers_eq rest)

end

/-! ## The record -/

/-- A persisted profile, as far as the reader looks at it.  Records of older versions hold
features and parameters only. -/
structure CacheRecord where
  features : Option (List String) := none
  params : Option (Dict String Json) := none
  deviceType : Option String := none
  presentFields : Option (List String) := none
  sources : Option (List String) := none
  fetchedAt : Option ℚ := none
  schemaVersion : Option ℤ := none

namespace CapabilityProfile

/-- `to_cache`. -/
def toCache (profile : CapabilityProfile) : CacheRecord where
  features := some (profile.features.sort (· ≤ ·))
  params := some (profile.params.mapValues fun _ => Json.jsonable)
  deviceType := some profile.deviceType
  presentFields := some (profile.presentFields.sort (· ≤ ·))
  sources := some profile.sources
  fetchedAt := some profile.fetchedAt
  schemaVersion := some profile.schemaVersion

/-- `from_cache`.  `data.get(key) or default` is the entry itself wherever there is one: the
one false value of each of these types is its default. -/
def fromCache (model : String) (record : CacheRecord) : CapabilityProfile where
  model := model
  features := (record.features.getD []).toFinset
  params := record.params.getD Dict.empty
  deviceType := record.deviceType.getD ""
  presentFields := (record.presentFields.getD []).toFinset
  sources := record.sources.getD []
  fetchedAt := record.fetchedAt.getD 0
  schemaVersion := record.schemaVersion.getD 0

theorem mapValues_jsonable (params : Dict String Json) :
    (params.mapValues fun _ => Json.jsonable) = params := by
  apply AList.ext
  change params.entries.map (fun e => (⟨e.1, e.2.jsonable⟩ : Sigma fun _ : String => Json)) = _
  simp only [Json.jsonable_eq]
  exact List.map_id _

/-- Reading a record back under another key changes the model and nothing else. -/
theorem fromCache_toCache (model : String) (profile : CapabilityProfile) :
    fromCache model profile.toCache = { profile with model := model } := by
  simp only [fromCache, toCache, Option.getD_some, Finset.sort_toFinset, mapValues_jsonable]

/-! ## The round trip -/

/-- A profile stored under its own model and read back. -/
def reloaded (profile : CapabilityProfile) : CapabilityProfile :=
  fromCache profile.model profile.toCache

/-- Nothing is lost on the way through the store: every part of the profile, its fingerprint
and every answer it gives are the same. -/
theorem reloaded_faithful (profile : CapabilityProfile) :
    profile.reloaded = profile ∧
    profile.reloaded.fingerprint = profile.fingerprint ∧
    (∀ feature, profile.reloaded.supports feature ↔ profile.supports feature) ∧
    (∀ key, profile.reloaded.hasField key = profile.hasField key) ∧
    (∀ feature, profile.reloaded.gearMax feature = profile.gearMax feature) ∧
    profile.reloaded.modeCodes = profile.modeCodes ∧
    (∀ feature, profile.reloaded.optionValues feature = profile.optionValues feature) ∧
    profile.reloaded.modeSubset = profile.modeSubset ∧
    (∀ default, profile.reloaded.temperatureRange default = profile.temperatureRange default) ∧
    ∀ now ttl, profile.reloaded.isStale now ttl = profile.isStale now ttl := by
  have hsame : profile.reloaded = profile := fromCache_toCache profile.model profile
  rw [hsame]
  exact ⟨rfl, rfl, fun _ => Iff.rfl, fun _ => rfl, fun _ => rfl, rfl, fun _ => rfl, rfl,
    fun _ => rfl, fun _ _ => rfl⟩

end CapabilityProfile

end Holabrain
