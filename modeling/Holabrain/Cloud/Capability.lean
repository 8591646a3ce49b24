import Mathlib.Data.Finset.Lattice.Lemmas
import Mathlib.Algebra.Order.Field.Rat
import Holabrain.Cloud.Json

/-!
# Capability profiles and the resolver chains

A `CapabilityProfile` says what one model can do.  It is put together by a chain of
resolvers, each of which may produce a partial profile; the chain of a device type is fixed
by `chainFor`.  What a single resolver answers is left open here: the properties that use
the chains hold whatever it is.
-/

namespace Holabrain

/-! ## Canonical JSON -/

mutual

/-- The value with the members of every object in key order. -/
def Json.canonical : Json → Json
  | .arr items => .arr (Json.canonicalItems items)
  | .obj members => .obj ((Members.toDict (Json.canonicalMembers members)).items.mergeSort
      fun a b => decide (a.1 ≤ b.1))
  | value => value

def Json.canonicalItems : List Json → List Json
  | [] => []
  | item :: rest => item.canonical :: Json.canonicalItems rest

def Json.canonicalMembers : List (String × Json) → List (String × Json)
  | [] => []
  | (key, item) :: rest => (key, item.canonical) :: Json.canonicalMembers rest

end

/-! ## Profiles -/

def capabilitySchemaVersion : ℤ := 2

structure CapabilityProfile where
  model : String
  features : Finset String
  params : Dict String Json := Dict.empty
  deviceType : String := ""
  presentFields : Finset String := ∅
  sources : List String := []
  fetchedAt : ℚ := 0
  schemaVersion : ℤ := capabilitySchemaVersion

/-- What `fingerprint` digests. -/
structure Fingerprint where
  deviceType : String
  model : String
  features : Finset String
  params : Json
  deriving DecidableEq

namespace CapabilityProfile

/-- Advertised, or reported as a status field. -/
def supports (profile : CapabilityProfile) (feature : String) : Prop :=
  feature ∈ profile.features ∨ feature ∈ profile.presentFields

instance (profile : CapabilityProfile) (feature : String) :
    Decidable (profile.supports feature) :=
  inferInstanceAs (Decidable (_ ∨ _))

def param (profile : CapabilityProfile) (key : String) : Option Json := profile.params.get? key

/-- `gear_max`. -/
def gearMax (profile : CapabilityProfile) (feature : String) : Option ℤ :=
  match profile.params.get? (feature ++ "_gear") with
  | some (.int n) => some n
  | some (.bool b) => some (if b then 1 else 0)
  | _ => none

/-- `mode_codes`. -/
def modeCodes (profile : CapabilityProfile) : Dict String Json :=
  match profile.params.get? "mode_codes" with
  | some (.obj codes) => Members.toDict codes
  | _ => Dict.empty

/-- `option_values`. -/
def optionValues (profile : CapabilityProfile) (feature : String) : List Json :=
  match profile.params.get? feature with
  | some (.arr values) => values
  | _ => []

def isStale (profile : CapabilityProfile) (now ttl : ℚ) : Bool :=
  profile.schemaVersion < capabilitySchemaVersion ||
    (profile.fetchedAt == 0 || decide (ttl ≤ now - profile.fetchedAt))

/-- The digest is identified with the text it digests. -/
def fingerprint (profile : CapabilityProfile) : Fingerprint where
  deviceType := profile.deviceType
  model := profile.model
  features := profile.features
  params := (Json.obj profile.params.items).canonical

/-- `other` wins where both have a value. -/
def merge (profile other : CapabilityProfile) : CapabilityProfile where
  model := if other.model = "" then profile.model else other.model
  features := profile.features ∪ other.features
  params := profile.params.update other.params.items
  deviceType := if other.deviceType = "" then profile.deviceType else other.deviceType
  presentFields := profile.presentFields ∪ other.presentFields
  sources := (profile.sources ++ other.sources).reverse.dedup.reverse
  fetchedAt := max profile.fetchedAt other.fetchedAt
  schemaVersion := capabilitySchemaVersion

/-- `with_fields`; `none` where the source returns the same object. -/
def withFields? (profile : CapabilityProfile) (keys : Finset String) :
    Option CapabilityProfile :=
  let merged := profile.presentFields ∪ keys
  if merged = profile.presentFields then none
  else some { profile with presentFields := merged }

def withFields (profile : CapabilityProfile) (keys : Finset String) : CapabilityProfile :=
  (profile.withFields? keys).getD profile

@[simp]
theorem withFields_presentFields (profile : CapabilityProfile) (keys : Finset String) :
    (profile.withFields keys).presentFields = profile.presentFields ∪ keys := by
  simp only [withFields, withFields?]
  split
  next h => exact h.symm
  next => rfl

@[simp]
theorem withFields_features (profile : CapabilityProfile) (keys : Finset String) :
    (profile.withFields keys).features = profile.features := by
  simp only [withFields, withFields?]
  split <;> rfl

theorem withFields_eq (profile : CapabilityProfile) (keys : Finset String) :
    profile.withFields keys =
      { profile with presentFields := profile.presentFields ∪ keys } := by
  simp only [withFields, withFields?]
  split
  next hsame => rw [hsame, Option.getD_none]
  next => rfl

@[simp]
theorem withFields_empty (profile : CapabilityProfile) : profile.withFields ∅ = profile := by
  rw [withFields_eq, Finset.union_empty]

@[simp]
theorem withFields_withFields (profile : CapabilityProfile) (keys more : Finset String) :
    (profile.withFields keys).withFields more = profile.withFields (keys ∪ more) := by
  simp only [withFields_eq, Finset.union_assoc]

end CapabilityProfile

/-- `empty_profile`. -/
def emptyProfile (model deviceType : String) (fetchedAt : ℚ) : CapabilityProfile where
  model := model
  features := ∅
  deviceType := deviceType
  fetchedAt := fetchedAt

/-! ## Resolver chains -/

/-- Everything a resolver may look at. -/
structure ResolutionContext where
  deviceType : String
  model : String
  thingCode : String
  metadata : Dict String Json
  status : Dict String Json

/-- One capability source of a chain. -/
structure Resolver where
  name : String
  required : Bool
  deriving DecidableEq

namespace Resolver

def dict : Resolver := ⟨"dict", true⟩

def bitfield : Resolver := ⟨"bitfield", false⟩

def static : Resolver := ⟨"static", false⟩

def presence : Resolver := ⟨"presence", false⟩

end Resolver

/-- `build_default_chains`, as the client builds them. -/
def defaultChains : Dict String (List Resolver) :=
  Dict.ofList
    [("0xE1", [.dict, .presence]), ("0xAC", [.bitfield, .presence]),
      ("0x13", [.static, .presence]), ("0xB1", [.static, .presence]),
      ("0xDB", [.static, .presence]), ("0xE2", [.static, .presence])]

/-- `chain_for`; a family that is not modelled is read off its status. -/
def chainFor (deviceType : String) : List Resolver :=
  (defaultChains.get? deviceType).getD [.presence]

end Holabrain
