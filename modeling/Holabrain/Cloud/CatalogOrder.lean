import Mathlib.Data.List.Perm.Basic
import Holabrain.Core.FirstWins
import Holabrain.Cloud.Catalog

/-!
# The catalogue and the order of the tree

What the catalogue holds is read off the sub-categories that list a type code: it is there if
one does, its models are all of theirs, and its name is the first one any of them offers.  The
models are a set, so the order of the tree cannot be seen in them; it can in the name, exactly
where two sub-categories of one code offer different ones.
-/

namespace Holabrain

namespace DeviceCatalog

/-! ## The sub-categories -/

/-- The sub-categories in reading order. -/
def subs (payload : Json) : List Json :=
  (asList (get payload "categorys")).flatMap fun category =>
    asList (get category "subCategorys")

/-- The type codes of a sub-category. -/
def codesOf (sub : Json) : List String :=
  ((asList (get sub "deviceTypes")).filter Json.truthy).map Json.pyStr

def entriesOf (sub : Json) : List Json := asList (get sub "models")

def labelOf (sub : Json) : String := ((get sub "name").or (.str "")).pyStr

/-- The name one model would give its type. -/
def modelOffer (entry : Json) : Option String :=
  if (get entry "modelName").truthy then some (get entry "modelName").pyStr else none

/-- The name a sub-category would give its types: its own, or that of its first named model. -/
def offer (label : String) (entries : List Json) : Option String :=
  if label ≠ "" then some label else entries.findSome? modelOffer

def offerOf (sub : Json) : Option String := offer (labelOf sub) (entriesOf sub)

/-- The model is among the entries. -/
def Listed (model : String) (entries : List Json) : Prop :=
  ∃ entry ∈ entries, (get entry "model").truthy = true ∧ (get entry "model").pyStr = model

/-- The sub-categories of one code. -/
def subsOf (payload : Json) (code : String) : List Json :=
  (subs payload).filter fun sub => decide (code ∈ codesOf sub)

theorem mem_subsOf {payload : Json} {code : String} {sub : Json} :
    sub ∈ subsOf payload code ↔ sub ∈ subs payload ∧ code ∈ codesOf sub := by
  rw [subsOf, List.mem_filter, decide_eq_true_iff]

/-! ## Names -/

/-- A name that is only written where there is none yet. -/
theorem get?_setIfNew (names : Dict String String) (code name c : String) (p : Prop)
    [Decidable p] :
    (if p ∧ names.get? code = none then names.setItem code name else names).get? c =
      (names.get? c).or (if c = code ∧ p then some name else none) := by
  by_cases hc : c = code
  · subst hc
    cases hname : names.get? c with
    | none => by_cases hp : p <;> simp [hp, hname]
    | some old => simp [hname]
  · rw [if_neg fun h : c = code ∧ p => hc h.1, Option.or_none]
    split_ifs with hset
    · exact Dict.get?_setItem_of_ne _ _ hc
    · rfl

theorem Tree.names_setName (tree : Tree) (code label c : String) :
    (tree.setName code label).names.get? c =
      (tree.names.get? c).or (if c = code ∧ label ≠ "" then some label else none) := by
  rw [← get?_setIfNew tree.names code label c (label ≠ ""), Tree.setName]
  split_ifs <;> rfl

theorem Tree.names_addModel (code : String) (tree : Tree) (entry : Json) (c : String) :
    (Tree.addModel code tree entry).names.get? c =
      (tree.names.get? c).or (if c = code then modelOffer entry else none) := by
  have hoffer : (if c = code then modelOffer entry else none) =
      if c = code ∧ (get entry "modelName").truthy = true then
        some (get entry "modelName").pyStr else none := by
    rw [modelOffer, ite_and]
  rw [hoffer, ← get?_setIfNew, Tree.addModel]
  split_ifs <;> simp_all

theorem Tree.names_addCode (label : String) (entries : List Json) (tree : Tree)
    (code c : String) :
    (Tree.addCode label entries tree code).names.get? c =
      (tree.names.get? c).or (if c = code then offer label entries else none) := by
  rw [Tree.addCode, foldl_firstWins (fun t : Tree => t.names.get? c)
    (fun t entry => Tree.names_addModel code t entry c), Tree.names_setName, Option.or_assoc]
  congr 1
  by_cases hc : c = code
  · simp only [hc, true_and, if_true, offer]
    split_ifs with hlabel
    · rfl
    · rw [Option.none_or]
  · simp only [hc, false_and, if_false, Option.none_or]
    rw [List.findSome?_eq_none_iff]
    exact fun _ _ => rfl

theorem Tree.addSub_eq (tree : Tree) (sub : Json) :
    tree.addSub sub = (codesOf sub).foldl (Tree.addCode (labelOf sub) (entriesOf sub)) tree :=
  rfl

theorem Tree.names_addSub (tree : Tree) (sub : Json) (c : String) :
    (tree.addSub sub).names.get? c =
      (tree.names.get? c).or (if c ∈ codesOf sub then offerOf sub else none) := by
  rw [Tree.addSub_eq, foldl_firstWins (fun t : Tree => t.names.get? c) fun t code =>
    Tree.names_addCode (labelOf sub) (entriesOf sub) t code c]
  congr 1
  split_ifs with hc
  · -- every occurrence of the code makes the same offer
    cases hoffer : offerOf sub with
    | none =>
        rw [List.findSome?_eq_none_iff]
        intro code _
        split_ifs
        · exact hoffer
        · rfl
    | some name =>
        rw [findSome?_eq_some_iff_of_agree]
        · exact ⟨c, hc, by rw [if_pos rfl]; exact hoffer⟩
        · intro code _ code' _ b b' hb hb'
          dsimp only at hb hb'
          split_ifs at hb hb'
          exact Option.some.inj (hb.symm.trans hb')
  · rw [List.findSome?_eq_none_iff]
    intro code hcode
    rw [if_neg]
    rintro rfl
    exact hc hcode

/-- The tree after all sub-categories. -/
def treeOf (payload : Json) : Tree := (subs payload).foldl Tree.addSub {}

/-- A code is named by the first of its sub-categories that offers a name. -/
theorem names_treeOf (payload : Json) (code : String) :
    (treeOf payload).names.get? code = (subsOf payload code).findSome? offerOf := by
  rw [treeOf, foldl_firstWins (fun t : Tree => t.names.get? code) fun t sub =>
    Tree.names_addSub t sub code, subsOf, findSome?_filter_eq]
  simp only [decide_eq_true_eq]
  exact Option.none_or

/-! ## Models -/

/-- The models gathered for a code. -/
def Tree.bucket (tree : Tree) (code : String) : List String :=
  (tree.models.get? code).getD []

/-- The entry names a model that is not in the bucket yet. -/
def Tree.IsNew (code : String) (tree : Tree) (entry : Json) : Prop :=
  (get entry "model").truthy = true ∧ (get entry "model").pyStr ∉ tree.bucket code

instance (code : String) (tree : Tree) (entry : Json) : Decidable (Tree.IsNew code tree entry) :=
  inferInstanceAs (Decidable (_ ∧ _))

theorem Tree.models_addModel (code : String) (tree : Tree) (entry : Json) :
    (Tree.addModel code tree entry).models =
      if Tree.IsNew code tree entry then
        tree.models.setItem code (tree.bucket code ++ [(get entry "model").pyStr])
      else tree.models := by
  rw [Tree.addModel]
  split_ifs <;> simp_all [Tree.IsNew, Tree.bucket]

theorem Tree.bucket_addModel (code : String) (tree : Tree) (entry : Json) (c : String) :
    (Tree.addModel code tree entry).bucket c =
      if c = code ∧ Tree.IsNew code tree entry then
        tree.bucket c ++ [(get entry "model").pyStr]
      else tree.bucket c := by
  rw [Tree.bucket, Tree.models_addModel]
  by_cases hnew : Tree.IsNew code tree entry
  · rw [if_pos hnew, Dict.get?_setItem]
    by_cases hc : c = code
    · subst hc
      rw [if_pos rfl, if_pos ⟨rfl, hnew⟩]
      rfl
    · rw [if_neg hc, if_neg fun h => hc h.1]
      rfl
  · rw [if_neg hnew, if_neg fun h => hnew h.2]
    rfl

theorem Tree.mem_bucket_addModel (code : String) (tree : Tree) (entry : Json)
    (c model : String) :
    model ∈ (Tree.addModel code tree entry).bucket c ↔
      model ∈ tree.bucket c ∨
        c = code ∧ (get entry "model").truthy = true ∧ (get entry "model").pyStr = model := by
  rw [Tree.bucket_addModel]
  split_ifs with h
  · obtain ⟨hc, htrue, -⟩ := h
    rw [List.mem_append, List.mem_singleton]
    simp only [hc, htrue, true_and, eq_comm]
  · constructor
    · exact .inl
    · rintro (hmem | ⟨hc, htrue, heq⟩)
      · exact hmem
      · -- a model that was not appended was in the bucket
        have hold : ¬ Tree.IsNew code tree entry := fun hnew => h ⟨hc, hnew⟩
        rw [hc, ← heq]
        exact Decidable.of_not_not fun hnot => hold ⟨htrue, hnot⟩

theorem Tree.nodup_bucket_addModel {code : String} {tree : Tree} {entry : Json} {c : String}
    (h : (tree.bucket c).Nodup) : ((Tree.addModel code tree entry).bucket c).Nodup := by
  rw [Tree.bucket_addModel]
  split_ifs with hadded
  · obtain ⟨rfl, -, hnew⟩ := hadded
    rw [← List.concat_eq_append]
    exact h.concat hnew
  · exact h

theorem Tree.mem_models_addModel {code : String} {tree : Tree} {entry : Json}
    (h : code ∈ tree.models) (c : String) :
    c ∈ (Tree.addModel code tree entry).models ↔ c ∈ tree.models := by
  rw [Tree.models_addModel]
  split_ifs
  · rw [Dict.mem_setItem]
    constructor
    · rintro (rfl | hmem)
      · exact h
      · exact hmem
    · exact .inr
  · exact Iff.rfl

/-- `setdefault` alone: the code is there afterwards, and no bucket has changed. -/
def Tree.opened (tree : Tree) (label code : String) : Tree :=
  { tree.setName code label with
    models := (tree.setName code label).models.setItem code
      (((tree.setName code label).models.get? code).getD []) }

theorem Tree.addCode_eq (label : String) (entries : List Json) (tree : Tree) (code : String) :
    Tree.addCode label entries tree code =
      entries.foldl (Tree.addModel code) (tree.opened label code) :=
  rfl

theorem Tree.models_setName (tree : Tree) (code label : String) :
    (tree.setName code label).models = tree.models := by
  rw [Tree.setName]
  split_ifs <;> rfl

theorem Tree.mem_models_opened (tree : Tree) (label code c : String) :
    c ∈ (tree.opened label code).models ↔ c ∈ tree.models ∨ c = code := by
  rw [Tree.opened, Tree.models_setName, Dict.mem_setItem, or_comm]

theorem Tree.bucket_opened (tree : Tree) (label code c : String) :
    (tree.opened label code).bucket c = tree.bucket c := by
  rw [Tree.bucket, Tree.opened, Tree.models_setName, Dict.get?_setItem]
  split_ifs with hc
  · subst hc
    rfl
  · rfl

theorem Tree.mem_models_addCode (label : String) (entries : List Json) (tree : Tree)
    (code c : String) :
    c ∈ (Tree.addCode label entries tree code).models ↔ c ∈ tree.models ∨ c = code := by
  rw [Tree.addCode_eq, ← Tree.mem_models_opened tree label code c]
  have hopen : code ∈ (tree.opened label code).models :=
    (Tree.mem_models_opened tree label code code).mpr (.inr rfl)
  generalize tree.opened label code = opened at hopen ⊢
  induction entries generalizing opened with
  | nil => exact Iff.rfl
  | cons entry rest ih =>
      rw [List.foldl_cons]
      have hstill : code ∈ (Tree.addModel code opened entry).models :=
        (Tree.mem_models_addModel hopen code).mpr hopen
      exact (ih _ hstill).trans (Tree.mem_models_addModel hopen c)

theorem Tree.mem_bucket_addCode (label : String) (entries : List Json) (tree : Tree)
    (code c model : String) :
    model ∈ (Tree.addCode label entries tree code).bucket c ↔
      model ∈ tree.bucket c ∨ c = code ∧ Listed model entries := by
  rw [Tree.addCode_eq, foldl_established (fun t : Tree => model ∈ t.bucket c) fun t entry =>
    Tree.mem_bucket_addModel code t entry c model, Tree.bucket_opened]
  simp only [Listed, ← exists_and_left, and_left_comm]

theorem Tree.mem_models_addSub (tree : Tree) (sub : Json) (c : String) :
    c ∈ (tree.addSub sub).models ↔ c ∈ tree.models ∨ c ∈ codesOf sub := by
  rw [Tree.addSub_eq, foldl_established (fun t : Tree => c ∈ t.models) fun t code =>
    Tree.mem_models_addCode (labelOf sub) (entriesOf sub) t code c]
  simp only [exists_eq_right']

theorem Tree.mem_bucket_addSub (tree : Tree) (sub : Json) (c model : String) :
    model ∈ (tree.addSub sub).bucket c ↔
      model ∈ tree.bucket c ∨ c ∈ codesOf sub ∧ Listed model (entriesOf sub) := by
  rw [Tree.addSub_eq, foldl_established (fun t : Tree => model ∈ t.bucket c) fun t code =>
    Tree.mem_bucket_addCode (labelOf sub) (entriesOf sub) t code c model]
  constructor
  · rintro (hold | ⟨code, hcode, rfl, hlisted⟩)
    · exact .inl hold
    · exact .inr ⟨hcode, hlisted⟩
  · rintro (hold | ⟨hcode, hlisted⟩)
    · exact .inl hold
    · exact .inr ⟨c, hcode, rfl, hlisted⟩

theorem Tree.nodup_bucket_addCode {label : String} {entries : List Json} {tree : Tree}
    {code c : String} (h : (tree.bucket c).Nodup) :
    ((Tree.addCode label entries tree code).bucket c).Nodup := by
  rw [Tree.addCode_eq]
  refine List.foldlRecOn entries (Tree.addModel code)
    (motive := fun t : Tree => (t.bucket c).Nodup) ?_ fun t ht entry _ =>
      Tree.nodup_bucket_addModel ht
  rw [Tree.bucket_opened]
  exact h

theorem Tree.nodup_bucket_addSub {tree : Tree} {sub : Json} {c : String}
    (h : (tree.bucket c).Nodup) : ((tree.addSub sub).bucket c).Nodup := by
  rw [Tree.addSub_eq]
  exact List.foldlRecOn (codesOf sub) (Tree.addCode (labelOf sub) (entriesOf sub))
    (motive := fun t : Tree => (t.bucket c).Nodup) h fun t ht code _ =>
      Tree.nodup_bucket_addCode ht

/-- No bucket of the tree holds a model twice. -/
theorem nodup_bucket_treeOf (payload : Json) (c : String) :
    ((treeOf payload).bucket c).Nodup :=
  List.foldlRecOn (subs payload) Tree.addSub
    (motive := fun t : Tree => (t.bucket c).Nodup) List.nodup_nil fun _ ht _ _ =>
      Tree.nodup_bucket_addSub ht

theorem mem_models_treeOf (payload : Json) (code : String) :
    code ∈ (treeOf payload).models ↔ ∃ sub, sub ∈ subsOf payload code := by
  rw [treeOf, foldl_established (fun t : Tree => code ∈ t.models) fun t sub =>
    Tree.mem_models_addSub t sub code]
  simp only [mem_subsOf]
  exact or_iff_right (AList.notMem_empty code)

theorem mem_bucket_treeOf (payload : Json) (code model : String) :
    model ∈ (treeOf payload).bucket code ↔
      ∃ sub ∈ subsOf payload code, Listed model (entriesOf sub) := by
  rw [treeOf, foldl_established (fun t : Tree => model ∈ t.bucket code) fun t sub =>
    Tree.mem_bucket_addSub t sub code model]
  simp only [mem_subsOf, and_assoc]
  exact or_iff_right List.not_mem_nil

/-! ## The catalogue -/

/-- `name_for`. -/
def nameFor (catalog : DeviceCatalog) (code : String) : Option String :=
  (catalog.types.get? code).map CatalogType.name

/-- The models of a type, none for one that is not there. -/
def modelsFor (catalog : DeviceCatalog) (code : String) : List String :=
  ((catalog.types.get? code).map CatalogType.models).getD []

theorem fromTree_eq (payload : Json) :
    fromTree payload = { types := (treeOf payload).models.mapValues fun code models =>
      { deviceType := code, name := ((treeOf payload).names.get? code).getD ""
        models := models } } :=
  rfl

theorem mem_types_fromTree (payload : Json) (code : String) :
    code ∈ (fromTree payload).types ↔ ∃ sub, sub ∈ subsOf payload code := by
  rw [← mem_models_treeOf, ← Dict.get?_isSome_iff, ← Dict.get?_isSome_iff, fromTree_eq,
    Dict.get?_mapValues, Option.isSome_map]

theorem modelsFor_fromTree (payload : Json) (code : String) :
    (fromTree payload).modelsFor code = (treeOf payload).bucket code := by
  rw [modelsFor, fromTree_eq, Dict.get?_mapValues, Option.map_map, Tree.bucket]
  cases (treeOf payload).models.get? code <;> rfl

/-- A code that is there carries the first offer, or the empty name. -/
theorem nameFor_of_mem {payload : Json} {code : String} (h : code ∈ (fromTree payload).types) :
    (fromTree payload).nameFor code =
      some (((subsOf payload code).findSome? offerOf).getD "") := by
  obtain ⟨entry, hentry⟩ := Option.isSome_iff_exists.mp (Dict.get?_isSome_iff.mpr h)
  rw [nameFor, hentry, Option.map_some, ← names_treeOf]
  rw [fromTree_eq, Dict.get?_mapValues] at hentry
  obtain ⟨models, -, rfl⟩ := Option.map_eq_some_iff.mp hentry
  rfl

theorem nameFor_of_notMem {payload : Json} {code : String}
    (h : code ∉ (fromTree payload).types) : (fromTree payload).nameFor code = none := by
  rw [← Dict.get?_isSome_iff, Option.not_isSome_iff_eq_none] at h
  rw [nameFor, h, Option.map_none]

/-! ## Reordering -/

/-- The second value is the first one with the list under `key` replaced by a related list. -/
inductive Relisted (key : String) (related : List Json → List Json → Prop) : Json → Json → Prop
  | same (value : Json) : Relisted key related value value
  | list {members members' : Members} {items items' : List Json}
      (hitems : Members.get members key = .arr items)
      (hitems' : Members.get members' key = .arr items')
      (hothers : ∀ other, other ≠ key →
        Dict.written members' other = Dict.written members other)
      (hrelated : related items items') :
      Relisted key related (.obj members) (.obj members')

/-- The sub-categories of a category in another order. -/
def CategoryReordered : Json → Json → Prop := Relisted "subCategorys" List.Perm

/-- The categories in another order, and the sub-categories inside each of them as well. -/
def TreeReordered : Json → Json → Prop :=
  Relisted "categorys" fun categories categories' =>
    ∃ middle, categories.Perm middle ∧ List.Forall₂ CategoryReordered middle categories'

/-- The list under a key, replaced. -/
def relist (key : String) (members : Members) (items : List Json) : Json :=
  .obj (members ++ [(key, .arr items)])

theorem relisted_relist {key : String} {related : List Json → List Json → Prop}
    {members : Members} {items items' : List Json} (hitems : Members.get members key = .arr items)
    (h : related items items') :
    Relisted key related (.obj members) (relist key members items') := by
  refine .list hitems ?_ (fun other hother => ?_) h
  · rw [Members.get_eq_written, Dict.written_append, Dict.written_cons, if_pos rfl]
    rfl
  · rw [Dict.written_append, Dict.written_cons, if_neg hother]
    rfl

theorem asList_get_relist (key : String) (members : Members) (items : List Json) :
    asList (get (relist key members items) key) = items := by
  have hget : get (relist key members items) key = .arr items := by
    rw [relist, get, Members.get_eq_written, Dict.written_append, Dict.written_cons, if_pos rfl]
    rfl
  rw [hget]
  rfl

/-- A list that is read and not empty stands in an object. -/
theorem exists_members_of_mem_asList {value item : Json} {key : String}
    (h : item ∈ asList (get value key)) :
    ∃ members, value = .obj members ∧ Members.get members key = .arr (asList (get value key)) := by
  cases value with
  | obj members =>
      refine ⟨members, rfl, ?_⟩
      cases hget : get (.obj members) key with
      | arr items => exact hget
      | _ =>
          rw [hget] at h
          cases h
  | _ => cases h

theorem CategoryReordered.perm {category category' : Json}
    (h : CategoryReordered category category') :
    (asList (get category "subCategorys")).Perm (asList (get category' "subCategorys")) := by
  cases h with
  | same => exact .refl _
  | list hitems hitems' _ hrelated =>
      rw [get, hitems, get, hitems']
      exact hrelated

/-- Reordering the tree permutes its sub-categories. -/
theorem TreeReordered.perm_subs {payload payload' : Json} (h : TreeReordered payload payload') :
    (subs payload).Perm (subs payload') := by
  cases h with
  | same => exact .refl _
  | list hitems hitems' _ hrelated =>
      obtain ⟨middle, hperm, hinside⟩ := hrelated
      rw [subs, subs, get, hitems, get, hitems']
      refine (hperm.flatMap_right _).trans ?_
      clear hitems hitems' hperm
      induction hinside with
      | nil => exact .refl _
      | cons hcategory _ ih =>
          rw [List.flatMap_cons]
          exact hcategory.perm.append ih

theorem TreeReordered.mem_subsOf_iff {payload payload' : Json}
    (h : TreeReordered payload payload') (code : String) (sub : Json) :
    sub ∈ subsOf payload code ↔ sub ∈ subsOf payload' code := by
  rw [mem_subsOf, mem_subsOf, h.perm_subs.mem_iff]

/-- Any sub-category can be read first. -/
theorem exists_reordered_first {payload sub : Json} (h : sub ∈ subs payload) :
    ∃ payload' rest, TreeReordered payload payload' ∧ subs payload' = sub :: rest := by
  obtain ⟨category, hcategory, hsub⟩ := List.mem_flatMap.mp h
  obtain ⟨members, rfl, hitems⟩ := exists_members_of_mem_asList hcategory
  obtain ⟨inner, rfl, hinner⟩ := exists_members_of_mem_asList hsub
  obtain ⟨before, after, hsplit⟩ := List.append_of_mem hcategory
  obtain ⟨before', after', hsplit'⟩ := List.append_of_mem hsub
  -- its category first, and it first inside the category
  have hinside : CategoryReordered (.obj inner)
      (relist "subCategorys" inner (sub :: (before' ++ after'))) := by
    apply relisted_relist hinner
    rw [hsplit']
    exact List.perm_middle
  have htree : TreeReordered (.obj members) (relist "categorys" members
      (relist "subCategorys" inner (sub :: (before' ++ after')) :: (before ++ after))) := by
    apply relisted_relist hitems
    refine ⟨.obj inner :: (before ++ after), ?_, .cons hinside ?_⟩
    · rw [hsplit]
      exact List.perm_middle
    · exact List.forall₂_same.mpr fun category _ => .same category
  refine ⟨_, before' ++ after' ++ (before ++ after).flatMap fun category =>
    asList (get category "subCategorys"), htree, ?_⟩
  rw [subs, asList_get_relist, List.flatMap_cons, asList_get_relist, List.cons_append]

/-- The name of a code whose first sub-category offers one. -/
theorem nameFor_of_first {payload sub : Json} {rest : List Json} {code name : String}
    (hsubs : subs payload = sub :: rest) (hcode : code ∈ codesOf sub)
    (hoffer : offerOf sub = some name) : (fromTree payload).nameFor code = some name := by
  have hof : subsOf payload code =
      sub :: rest.filter fun other => decide (code ∈ codesOf other) := by
    rw [subsOf, hsubs]
    exact List.filter_cons_of_pos (decide_eq_true hcode)
  have hmem : code ∈ (fromTree payload).types :=
    (mem_types_fromTree payload code).mpr ⟨sub, by rw [hof]; exact List.mem_cons_self⟩
  rw [nameFor_of_mem hmem, hof, List.findSome?_cons, hoffer]
  rfl

/-- The catalogue holds what the tree says of each code, in whatever order it is read. -/
structure OrderFree (payload : Json) : Prop where
  names : ∀ payload', TreeReordered payload payload' → ∀ code,
    (fromTree payload').nameFor code = (fromTree payload).nameFor code
  models : ∀ payload', TreeReordered payload payload' → ∀ code model,
    model ∈ (fromTree payload').modelsFor code ↔ model ∈ (fromTree payload).modelsFor code
  present : ∀ code, code ∈ (fromTree payload).types ↔
    ∃ sub ∈ subs payload, code ∈ codesOf sub
  once : ∀ code, ∀ sub ∈ subs payload, code ∈ codesOf sub → ∀ model,
    Listed model (entriesOf sub) → ((fromTree payload).modelsFor code).count model = 1

/-- What two orders agree on whatever the tree says: which codes are there, and their models. -/
theorem TreeReordered.mem_types_iff {payload payload' : Json}
    (h : TreeReordered payload payload') (code : String) :
    code ∈ (fromTree payload').types ↔ code ∈ (fromTree payload).types := by
  rw [mem_types_fromTree, mem_types_fromTree]
  exact exists_congr fun sub => (h.mem_subsOf_iff code sub).symm

theorem TreeReordered.mem_modelsFor_iff {payload payload' : Json}
    (h : TreeReordered payload payload') (code model : String) :
    model ∈ (fromTree payload').modelsFor code ↔ model ∈ (fromTree payload).modelsFor code := by
  rw [modelsFor_fromTree, modelsFor_fromTree, mem_bucket_treeOf, mem_bucket_treeOf]
  simp only [h.mem_subsOf_iff code]

/-- Where there is one name to choose, each order chooses it. -/
theorem TreeReordered.nameFor_eq {payload payload' : Json} (h : TreeReordered payload payload')
    {code : String} (hagree : OffersAgree offerOf (subsOf payload code)) :
    (fromTree payload').nameFor code = (fromTree payload).nameFor code := by
  have hmem := h.mem_types_iff code
  by_cases hthere : code ∈ (fromTree payload).types
  · rw [nameFor_of_mem hthere, nameFor_of_mem (hmem.mpr hthere),
      findSome?_congr_of_agree hagree (h.mem_subsOf_iff code)]
  · rw [nameFor_of_notMem hthere, nameFor_of_notMem fun hmem' => hthere (hmem.mp hmem')]

theorem count_modelsFor_eq_one {payload sub : Json} {code model : String}
    (hsub : sub ∈ subs payload) (hcode : code ∈ codesOf sub)
    (hlisted : Listed model (entriesOf sub)) :
    ((fromTree payload).modelsFor code).count model = 1 := by
  rw [modelsFor_fromTree]
  apply List.count_eq_one_of_mem (nodup_bucket_treeOf payload code)
  rw [mem_bucket_treeOf]
  exact ⟨sub, mem_subsOf.mpr ⟨hsub, hcode⟩, hlisted⟩

/-- Each of two different offers wins where its sub-category is read first. -/
theorem offersAgree_of_nameFor {payload : Json} {code : String}
    (hnames : ∀ payload', TreeReordered payload payload' →
      (fromTree payload').nameFor code = (fromTree payload).nameFor code) :
    OffersAgree offerOf (subsOf payload code) := by
  intro sub hsub sub' hsub' name name' hoffer hoffer'
  rw [mem_subsOf] at hsub hsub'
  obtain ⟨payload₁, rest₁, hreordered₁, hfirst₁⟩ := exists_reordered_first hsub.1
  obtain ⟨payload₂, rest₂, hreordered₂, hfirst₂⟩ := exists_reordered_first hsub'.1
  have hname₁ := nameFor_of_first hfirst₁ hsub.2 hoffer
  have hname₂ := nameFor_of_first hfirst₂ hsub'.2 hoffer'
  rw [hnames payload₁ hreordered₁] at hname₁
  rw [hnames payload₂ hreordered₂] at hname₂
  exact Option.some.inj (hname₁.symm.trans hname₂)

/-- The catalogue is free of the reading order exactly if the sub-categories of each code that
offer it a name all offer the same one. -/
theorem orderFree_iff_offersAgree (payload : Json) :
    OrderFree payload ↔ ∀ code, OffersAgree offerOf (subsOf payload code) := by
  constructor
  · intro hfree code
    exact offersAgree_of_nameFor fun payload' h => hfree.names payload' h code
  · intro hagree
    refine ⟨fun payload' h code => h.nameFor_eq (hagree code),
      fun payload' h => h.mem_modelsFor_iff, fun code => ?_, ?_⟩
    · rw [mem_types_fromTree]
      simp only [mem_subsOf]
    · exact fun code sub hsub hcode model hlisted => count_modelsFor_eq_one hsub hcode hlisted

/-- A form factor of the air conditioner. -/
def formFactor (name : String) : Json :=
  .obj [("name", .str name), ("deviceTypes", .arr [.str "0xAC"]),
    ("models", .arr [.obj [("model", .str "20020AC1"), ("modelName", .str "Air Conditioner")]])]

/-- One category with these sub-categories. -/
def oneCategory (subCategorys : List Json) : Json :=
  .obj [("categorys", .arr [.obj [("name", .str "Air"), ("subCategorys", .arr subCategorys)]])]

/-- The air conditioner is called after the form factor that is read first. -/
theorem orderFree_counterexample :
    (fromTree (oneCategory [formFactor "Cassette", formFactor "Split"])).nameFor "0xAC" =
        some "Cassette" ∧
      (fromTree (oneCategory [formFactor "Split", formFactor "Cassette"])).nameFor "0xAC" =
        some "Split" ∧
      ¬ ∀ payload, OrderFree payload := by
  have hcassette : (fromTree (oneCategory [formFactor "Cassette", formFactor "Split"])).nameFor
      "0xAC" = some "Cassette" := by decide +kernel
  have hsplit : (fromTree (oneCategory [formFactor "Split", formFactor "Cassette"])).nameFor
      "0xAC" = some "Split" := by decide +kernel
  refine ⟨hcassette, hsplit, fun hall => ?_⟩
  have hreordered : TreeReordered (oneCategory [formFactor "Cassette", formFactor "Split"])
      (oneCategory [formFactor "Split", formFactor "Cassette"]) := by
    refine .list rfl rfl (fun other hother => ?_) ⟨_, .refl _, .cons ?_ .nil⟩
    · simp [Dict.written_cons, hother]
    · refine .list rfl rfl (fun other hother => ?_) (.swap _ _ [])
      simp [Dict.written_cons, hother]
  have hsame := (hall _).names _ hreordered "0xAC"
  rw [hcassette, hsplit] at hsame
  exact absurd hsame (by decide)

end DeviceCatalog

end Holabrain
