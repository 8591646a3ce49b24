import Mathlib.Data.List.AList

/-!
# Insertion-ordered dictionaries

A dictionary that remembers the order in which its keys were first written.  Writing an
existing key keeps its place, writing a new one appends it, and no key occurs twice.  The
carrier is Mathlib's `AList`, whose `nodupKeys` field is the invariant; what is added here
is the ordered write and the filter on keys.
-/

namespace Holabrain

/-- A dictionary from `κ` to `α`, with its keys in insertion order. -/
abbrev Dict (κ α : Type) := AList fun _ : κ => α

namespace Dict

variable {κ α β : Type}

def empty : Dict κ α := ∅

instance [DecidableEq κ] [DecidableEq α] : DecidableEq (Dict κ α) := fun d d' =>
  decidable_of_iff (d.entries = d'.entries) AList.ext_iff.symm

/-- The keys, first written first. -/
def keys (d : Dict κ α) : List κ := AList.keys d

/-- The items in order, as key and value. -/
def items (d : Dict κ α) : List (κ × α) := d.entries.map fun e => (e.1, e.2)

def values (d : Dict κ α) : List α := d.entries.map fun e => e.2

def isEmpty (d : Dict κ α) : Bool := d.entries.isEmpty

/-- Rebuild every value from its key and its old value; no key moves. -/
def mapValues (f : κ → α → β) (d : Dict κ α) : Dict κ β where
  entries := d.entries.map fun e => ⟨e.1, f e.1 e.2⟩
  nodupKeys := by
    have hkeys : (d.entries.map fun e => (⟨e.1, f e.1 e.2⟩ : Sigma fun _ : κ => β)).keys =
        d.entries.keys := by
      simp [List.keys, Function.comp_def]
    rw [List.NodupKeys, hkeys]
    exact d.nodupKeys

/-- Keep the entries whose key passes the test. -/
def filterKeys (p : κ → Bool) (d : Dict κ α) : Dict κ α where
  entries := d.entries.filter fun e => p e.1
  nodupKeys := d.nodupKeys.sublist List.filter_sublist

theorem isEmpty_of_mem {d : Dict κ α} {k : κ} (h : k ∈ d) : d.isEmpty = false := by
  have hkeys : k ∈ d.entries.keys := h
  rw [isEmpty, List.isEmpty_eq_false_iff]
  intro hnil
  rw [hnil] at hkeys
  exact absurd hkeys List.not_mem_nil

theorem isEmpty_iff_keys {d : Dict κ α} : d.isEmpty = true ↔ d.keys = [] := by
  rw [isEmpty, List.isEmpty_iff, keys, AList.keys, List.keys, List.map_eq_nil_iff]

theorem isEmpty_filterKeys (p : κ → Bool) {d : Dict κ α} (h : d.isEmpty = true) :
    (d.filterKeys p).isEmpty = true := by
  rw [isEmpty, List.isEmpty_iff] at h ⊢
  simp only [filterKeys, h, List.filter_nil]

theorem mem_map_fst_items {d : Dict κ α} {k : κ} : k ∈ d.items.map Prod.fst ↔ k ∈ d := by
  rw [items, List.map_map]
  exact AList.mem_keys.symm

variable [DecidableEq κ]

def get? (d : Dict κ α) (k : κ) : Option α := AList.lookup k d

theorem get?_isSome_iff {d : Dict κ α} {k : κ} : (d.get? k).isSome ↔ k ∈ d :=
  AList.lookup_isSome

theorem mem_of_get?_eq_some {d : Dict κ α} {k : κ} {v : α} (h : d.get? k = some v) :
    k ∈ d := by
  rw [← get?_isSome_iff, h]
  rfl

/-- Write one entry: in place if the key is there, at the end if it is new. -/
def setItem (d : Dict κ α) (k : κ) (v : α) : Dict κ α :=
  if h : k ∈ d then d.mapValues fun k' v' => if k' = k then v else v'
  else
    { entries := d.entries ++ [⟨k, v⟩]
      nodupKeys := by
        have hkeys : k ∉ d.entries.keys := h
        have hnodup : d.entries.keys.Nodup := d.nodupKeys
        simp only [List.NodupKeys, List.keys, List.map_append, List.map_cons, List.map_nil]
        exact List.Nodup.append hnodup (List.nodup_singleton k) (by simpa [List.keys] using hkeys) }

def erase (d : Dict κ α) (k : κ) : Dict κ α := AList.erase k d

/-- Write a list of entries one after the other. -/
def update (d : Dict κ α) (items : List (κ × α)) : Dict κ α :=
  items.foldl (fun acc e => acc.setItem e.1 e.2) d

def ofList (items : List (κ × α)) : Dict κ α := empty.update items

theorem mem_values_of_get? {d : Dict κ α} {k : κ} {v : α} (h : d.get? k = some v) :
    v ∈ d.values :=
  List.mem_map.mpr ⟨_, AList.mem_lookup_iff.mp h, rfl⟩

@[simp]
theorem get?_mapValues (f : κ → α → β) (d : Dict κ α) (k : κ) :
    (d.mapValues f).get? k = (d.get? k).map (f k) :=
  List.dlookup_map₂ k

theorem get?_filterKeys (p : κ → Bool) (d : Dict κ α) (k : κ) :
    (d.filterKeys p).get? k = if p k then d.get? k else none := by
  obtain ⟨entries, hnodup⟩ := d
  simp only [filterKeys, get?, AList.lookup]
  clear hnodup
  induction entries with
  | nil => simp
  | cons e entries ih =>
      obtain ⟨key, value⟩ := e
      by_cases hkey : k = key
      · subst hkey
        by_cases hp : p k
        · simp [hp]
        · simpa [hp] using ih
      · have hcons : ∀ rest : List (Sigma fun _ : κ => α),
            List.dlookup k (⟨key, value⟩ :: rest) = List.dlookup k rest :=
          fun rest => List.dlookup_cons_ne rest ⟨key, value⟩ hkey
        by_cases hp : p key
        · simpa [hp, hcons] using ih
        · simpa [hp, hcons] using ih

theorem get?_setItem (d : Dict κ α) (k : κ) (v : α) (k' : κ) :
    (d.setItem k v).get? k' = if k' = k then some v else d.get? k' := by
  by_cases hmem : k ∈ d
  · simp only [setItem, dif_pos hmem, get?_mapValues]
    by_cases hkey : k' = k
    · subst hkey
      obtain ⟨old, hold⟩ := Option.isSome_iff_exists.mp (get?_isSome_iff.mpr hmem)
      simp [hold]
    · simp [hkey]
  · simp only [setItem, dif_neg hmem, get?, AList.lookup, List.dlookup_append]
    by_cases hkey : k' = k
    · subst hkey
      have hnone : List.dlookup k' d.entries = none := List.dlookup_eq_none.mpr hmem
      simp [hnone]
    · have hlast : List.dlookup k' [(⟨k, v⟩ : Sigma fun _ : κ => α)] = none :=
        List.dlookup_cons_ne _ _ hkey
      simp [hkey, hlast]

@[simp]
theorem get?_setItem_self (d : Dict κ α) (k : κ) (v : α) :
    (d.setItem k v).get? k = some v := by
  simp [get?_setItem]

theorem get?_setItem_of_ne (d : Dict κ α) {k k' : κ} (v : α) (h : k' ≠ k) :
    (d.setItem k v).get? k' = d.get? k' := by
  simp [get?_setItem, h]

@[simp]
theorem get?_empty (k : κ) : (empty : Dict κ α).get? k = none := rfl

theorem get?_erase (d : Dict κ α) (k k' : κ) :
    (d.erase k).get? k' = if k' = k then none else d.get? k' := by
  by_cases hkey : k' = k
  · subst hkey
    simp [get?, erase]
  · simp [get?, erase, hkey]

section Entries

variable {P : κ → α → Prop} {d : Dict κ α}

/-- What holds of every entry, and of the one that is written, holds of every entry after. -/
theorem forall_setItem (h : ∀ k v, d.get? k = some v → P k v) {k : κ} {v : α} (hnew : P k v) :
    ∀ k' v', (d.setItem k v).get? k' = some v' → P k' v' := by
  intro k' v' hfound
  rw [get?_setItem] at hfound
  split at hfound
  next hkey =>
    cases hfound
    rw [hkey]
    exact hnew
  next => exact h k' v' hfound

theorem forall_filterKeys (h : ∀ k v, d.get? k = some v → P k v) (p : κ → Bool) :
    ∀ k v, (d.filterKeys p).get? k = some v → P k v := by
  intro k v hfound
  rw [get?_filterKeys] at hfound
  split at hfound
  · exact h k v hfound
  · cases hfound

theorem forall_erase (h : ∀ k v, d.get? k = some v → P k v) (k : κ) :
    ∀ k' v', (d.erase k).get? k' = some v' → P k' v' := by
  intro k' v' hfound
  rw [get?_erase] at hfound
  split at hfound
  · cases hfound
  · exact h k' v' hfound

end Entries

/-- The value that a list of entries leaves at a key. -/
def written (items : List (κ × α)) (k : κ) : Option α :=
  (items.reverse.find? fun e => e.1 = k).map Prod.snd

@[simp]
theorem written_nil (k : κ) : written ([] : List (κ × α)) k = none := rfl

theorem mem_of_written {items : List (κ × α)} {k : κ} {v : α} (h : written items k = some v) :
    (k, v) ∈ items := by
  obtain ⟨e, hfound, hvalue⟩ := Option.map_eq_some_iff.mp h
  have hkey : e.1 = k := by simpa using List.find?_some hfound
  rw [← hkey, ← hvalue]
  exact List.mem_reverse.mp (List.mem_of_find?_eq_some hfound)

theorem written_cons (e : κ × α) (rest : List (κ × α)) (k : κ) :
    written (e :: rest) k = (written rest k).or (if k = e.1 then some e.2 else none) := by
  rw [written, List.reverse_cons, List.find?_append, Option.map_or, written]
  congr 1
  by_cases hkey : k = e.1
  · simp [hkey]
  · simp [hkey, Ne.symm hkey]

theorem written_append (items items' : List (κ × α)) (k : κ) :
    written (items ++ items') k = (written items' k).or (written items k) := by
  rw [written, List.reverse_append, List.find?_append, Option.map_or, written, written]

theorem written_eq_none_iff {items : List (κ × α)} {k : κ} :
    written items k = none ↔ ∀ e ∈ items, e.1 ≠ k := by
  simp [written]

/-- Where no key is written twice, every entry is left. -/
theorem written_of_mem {items : List (κ × α)} (hnodup : (items.map Prod.fst).Nodup)
    {e : κ × α} (h : e ∈ items) : written items e.1 = some e.2 := by
  cases hwritten : written items e.1 with
  | none => exact absurd rfl (written_eq_none_iff.mp hwritten e h)
  | some v =>
      have heq := List.inj_on_of_nodup_map hnodup (mem_of_written hwritten) h rfl
      rw [← heq]

theorem get?_update (d : Dict κ α) (items : List (κ × α)) (k : κ) :
    (d.update items).get? k = (written items k).or (d.get? k) := by
  induction items generalizing d with
  | nil => rfl
  | cons e rest ih =>
      have hstep : d.update (e :: rest) = (d.setItem e.1 e.2).update rest := rfl
      rw [hstep, ih, get?_setItem, written_cons, Option.or_assoc]
      congr 1
      by_cases hkey : k = e.1 <;> simp [hkey]

theorem get?_ofList (items : List (κ × α)) (k : κ) :
    (ofList items).get? k = written items k := by
  rw [ofList, get?_update, get?_empty, Option.or_none]

theorem update_append (d : Dict κ α) (items items' : List (κ × α)) :
    d.update (items ++ items') = (d.update items).update items' :=
  List.foldl_append

/-- A key stands in the items once, with its value. -/
theorem written_items (d : Dict κ α) (k : κ) : written d.items k = d.get? k := by
  obtain ⟨entries, hnodup⟩ := d
  simp only [written, items, get?, AList.lookup]
  induction entries with
  | nil => rfl
  | cons e rest ih =>
      obtain ⟨key, value⟩ := e
      rw [List.nodupKeys_cons] at hnodup
      rw [List.map_cons, List.reverse_cons, List.find?_append, Option.map_or, ih hnodup.2]
      by_cases hkey : k = key
      · subst hkey
        rw [List.dlookup_eq_none.mpr hnodup.1]
        simp
      · rw [List.dlookup_cons_ne rest ⟨key, value⟩ hkey]
        simp [Ne.symm hkey]

theorem mem_items {d : Dict κ α} {k : κ} {v : α} : (k, v) ∈ d.items ↔ d.get? k = some v := by
  have hnodup : (d.items.map Prod.fst).Nodup := by
    rw [items, List.map_map]
    exact d.nodupKeys
  rw [← written_items]
  exact ⟨written_of_mem hnodup, mem_of_written⟩

theorem mem_setItem (d : Dict κ α) (k : κ) (v : α) (k' : κ) :
    k' ∈ d.setItem k v ↔ k' = k ∨ k' ∈ d := by
  rw [← get?_isSome_iff, ← get?_isSome_iff, get?_setItem]
  by_cases hkey : k' = k <;> simp [hkey]

theorem mem_erase (d : Dict κ α) (k k' : κ) : k' ∈ d.erase k ↔ k' ≠ k ∧ k' ∈ d := by
  rw [← get?_isSome_iff, ← get?_isSome_iff, get?_erase]
  by_cases hkey : k' = k <;> simp [hkey]

section Loops

variable {β : Type} (key : β → κ) (l : List β) (d : Dict κ α) (k : κ)

theorem mem_foldl_setItem (value : β → α) :
    k ∈ l.foldl (fun d b => d.setItem (key b) (value b)) d ↔ k ∈ d ∨ ∃ b ∈ l, k = key b := by
  induction l generalizing d with
  | nil => simp
  | cons b rest ih =>
      rw [List.foldl_cons, ih, mem_setItem, List.exists_mem_cons_iff, or_comm (a := k = key b),
        or_assoc]

theorem mem_foldl_erase :
    k ∈ l.foldl (fun d b => d.erase (key b)) d ↔ k ∈ d ∧ ∀ b ∈ l, k ≠ key b := by
  induction l generalizing d with
  | nil => simp
  | cons b rest ih =>
      rw [List.foldl_cons, ih, mem_erase, List.forall_mem_cons, and_comm (a := k ≠ key b),
        and_assoc]

end Loops

theorem mem_update (d : Dict κ α) (items : List (κ × α)) (k : κ) :
    k ∈ d.update items ↔ k ∈ d ∨ k ∈ items.map Prod.fst := by
  induction items generalizing d with
  | nil => simp [update]
  | cons e rest ih =>
      have hstep : d.update (e :: rest) = (d.setItem e.1 e.2).update rest := rfl
      rw [hstep, ih, mem_setItem, List.map_cons, List.mem_cons]
      tauto

theorem mem_ofList (items : List (κ × α)) (k : κ) :
    k ∈ ofList items ↔ k ∈ items.map Prod.fst := by
  rw [ofList, mem_update]
  exact or_iff_right (AList.notMem_empty k)

theorem isEmpty_ofList_iff {items : List (κ × α)} :
    (ofList items).isEmpty = true ↔ items = [] := by
  cases items with
  | nil => exact iff_of_true rfl rfl
  | cons e items =>
      have hmem : e.1 ∈ ofList (e :: items) := (mem_ofList _ _).mpr List.mem_cons_self
      rw [isEmpty_of_mem hmem]
      exact iff_of_false Bool.false_ne_true (List.cons_ne_nil _ _)

theorem mem_filterKeys (p : κ → Bool) (d : Dict κ α) (k : κ) :
    k ∈ d.filterKeys p ↔ p k ∧ k ∈ d := by
  rw [← get?_isSome_iff, ← get?_isSome_iff, get?_filterKeys]
  by_cases hp : p k <;> simp [hp]

end Dict

end Holabrain
