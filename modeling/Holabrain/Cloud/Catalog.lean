import Holabrain.Cloud.Json

/-!
# The appliance-type catalogue

The cloud's category tree, flattened into one description per appliance type.
-/

namespace Holabrain

structure CatalogType where
  deviceType : String
  name : String
  models : List String := []
  deriving DecidableEq

structure DeviceCatalog where
  types : Dict String CatalogType := Dict.empty
  deriving DecidableEq

namespace DeviceCatalog

/-- `_get`. -/
def get (source : Json) (key : String) : Json :=
  match source with
  | .obj members => Members.get members key
  | _ => .null

/-- `_as_list`. -/
def asList (value : Json) : List Json := value.asArr.getD []

/-- The names and the model lists gathered so far. -/
structure Tree where
  names : Dict String String := Dict.empty
  models : Dict String (List String) := Dict.empty

def Tree.setName (tree : Tree) (code label : String) : Tree :=
  if label ≠ "" ∧ tree.names.get? code = none then
    { tree with names := tree.names.setItem code label }
  else tree

/-- One model listed under a type. -/
def Tree.addModel (code : String) (tree : Tree) (entry : Json) : Tree :=
  let model := get entry "model"
  let bucket := (tree.models.get? code).getD []
  let tree := if model.truthy ∧ model.pyStr ∉ bucket then
    { tree with models := tree.models.setItem code (bucket ++ [model.pyStr]) } else tree
  let modelName := get entry "modelName"
  if modelName.truthy ∧ tree.names.get? code = none then
    { tree with names := tree.names.setItem code modelName.pyStr }
  else tree

/-- One type code of a sub-category. -/
def Tree.addCode (label : String) (models : List Json) (tree : Tree) (code : String) : Tree :=
  let tree := tree.setName code label
  let tree := { tree with
    models := tree.models.setItem code ((tree.models.get? code).getD []) }
  models.foldl (Tree.addModel code) tree

def Tree.addSub (tree : Tree) (sub : Json) : Tree :=
  let codes := ((asList (get sub "deviceTypes")).filter Json.truthy).map Json.pyStr
  let label := ((get sub "name").or (.str "")).pyStr
  codes.foldl (Tree.addCode label (asList (get sub "models"))) tree

/-- `from_tree`. -/
def fromTree (payload : Json) : DeviceCatalog :=
  let subs := (asList (get payload "categorys")).flatMap fun category =>
    asList (get category "subCategorys")
  let tree := subs.foldl Tree.addSub {}
  { types := tree.models.mapValues fun code models =>
      { deviceType := code, name := (tree.names.get? code).getD "", models := models } }

/-- `describe` of a type code alone. -/
def describe (catalog : DeviceCatalog) (deviceType : String) : String :=
  match catalog.types.get? deviceType with
  | some entry =>
      if entry.name = "" then deviceType else entry.name ++ " (" ++ deviceType ++ ")"
  | none => deviceType

end DeviceCatalog

end Holabrain
