import Holabrain.Core.Suspensions
import Holabrain.Cloud.RefusedTokens

/-!
# The session in the config entry

`ConfigEntryTokenStore` keeps the account's one session as a record under one key of the
config entry's data, so that a restart finds it again.  To the authentication manager it is a
cell for one session: what it does to the entry is what `cloud` lets the store do, and every
other key of the entry stays as it is.  Its methods are `async` but never suspend, so that with
this store a manager suspends at its requests only.
-/

namespace Holabrain

namespace ConfigEntryTokenStore

/-- `STORAGE_KEY`. -/
def storageKey : String := "session"

/-- The record a session is stored as. -/
def record (session : Session) : Members :=
  [("access_token", .str session.accessToken), ("account", .str session.account),
    ("region", .str session.region), ("uid", .str session.uid)]

/-- `value == record`, for a record of texts: a text is equal to nothing but itself. -/
def equals (value : Json) (record : Members) : Bool :=
  match value.asObj with
  | some members =>
      decide (members.toDict.keys.length = record.length) &&
        record.all fun e => decide (members.get e.1 = e.2)
  | none => false

/-- `load`. -/
def load (data : Dict String Json) : Option Session :=
  match (data.get? storageKey).bind Json.asObj with
  | some raw =>
      if (raw.get "access_token").truthy then
        some
          { accessToken := (raw.get "access_token").pyStr
            account := (raw.getD "account" (.str "")).pyStr
            region := (raw.getD "region" (.str "eu")).pyStr
            uid := (raw.getD "uid" (.str "")).pyStr }
      else none
  | none => none

/-- `save`. -/
def save (session : Session) (data : Dict String Json) : Dict String Json :=
  if equals ((data.get? storageKey).getD .null) (record session) then data
  else data.setItem storageKey (.obj (record session))

/-- `clear`. -/
def clear (data : Dict String Json) : Dict String Json :=
  if storageKey ∉ data then data else data.erase storageKey

section Specs

variable {session : Session} {data : Dict String Json}

/-- What reads as a record of texts is loaded as the session it was stored for. -/
theorem load_of_get? {raw : Members} (hraw : (data.get? storageKey).bind Json.asObj = some raw)
    (hread : ∀ e ∈ record session, raw.get e.1 = e.2) (htoken : session.accessToken ≠ "") :
    load data = some session := by
  have hgetD : ∀ key text default, raw.get key = .str text →
      raw.getD key default = .str text := by
    intro key text default hget
    rw [Members.get] at hget
    rw [Members.getD]
    cases hfound : (raw.reverse.find? fun m => m.1 == key).map Prod.snd with
    | none =>
        rw [hfound] at hget
        cases hget
    | some value =>
        rw [hfound] at hget
        exact hget
  have hread' : raw.get "access_token" = .str session.accessToken ∧
      raw.get "account" = .str session.account ∧ raw.get "region" = .str session.region ∧
      raw.get "uid" = .str session.uid := by
    simpa only [record, List.forall_mem_cons, List.not_mem_nil, false_imp_iff, implies_true,
      and_true] using hread
  obtain ⟨haccess, haccount, hregion, huid⟩ := hread'
  simp only [load, hraw, haccess, hgetD _ _ _ haccount, hgetD _ _ _ hregion, hgetD _ _ _ huid,
    Json.truthy, Json.pyStr, decide_eq_true_eq]
  rw [if_pos htoken]

/-- A session that carries a token is loaded as it was saved. -/
theorem load_save (htoken : session.accessToken ≠ "") :
    load (save session data) = some session := by
  rw [save]
  split
  next hequal =>
    -- the record is not written again, but what is there reads as it
    cases hvalue : data.get? storageKey with
    | none =>
        rw [hvalue] at hequal
        cases hequal
    | some value =>
        rw [hvalue, Option.getD_some, equals] at hequal
        cases hraw : value.asObj with
        | none =>
            rw [hraw] at hequal
            cases hequal
        | some raw =>
            simp only [hraw, Bool.and_eq_true, List.all_eq_true, decide_eq_true_eq] at hequal
            apply load_of_get? _ hequal.2 htoken
            rw [hvalue, Option.bind_some, hraw]
  next =>
    have hraw : ((data.setItem storageKey (.obj (record session))).get? storageKey).bind
        Json.asObj = some (record session) := by
      rw [Dict.get?_setItem_self]
      rfl
    apply load_of_get? hraw _ htoken
    intro e he
    simp only [record, List.mem_cons, List.not_mem_nil, or_false] at he
    rcases he with rfl | rfl | rfl | rfl <;> rfl

@[simp]
theorem load_clear : load (clear data) = none := by
  have hgone : (clear data).get? storageKey = none := by
    rw [clear]
    split
    next habsent =>
      rw [← Option.not_isSome_iff_eq_none, Dict.get?_isSome_iff]
      exact habsent
    next => rw [Dict.get?_erase, if_pos rfl]
  rw [load, hgone]
  rfl

/-- A loaded session carries a token. -/
theorem load_accessToken_ne {session : Session} (h : load data = some session) :
    session.accessToken ≠ "" := by
  rw [load] at h
  split at h
  · split at h
    next htruthy =>
      cases h
      exact Json.pyStr_ne_empty htruthy
    next => cases h
  · cases h

theorem load_congr {data' : Dict String Json} (h : data'.get? storageKey = data.get? storageKey) :
    load data' = load data := by
  rw [load, load, h]

theorem get?_save {key : String} (hkey : key ≠ storageKey) :
    (save session data).get? key = data.get? key := by
  rw [save]
  split
  · rfl
  · exact Dict.get?_setItem_of_ne _ _ hkey

theorem get?_clear {key : String} (hkey : key ≠ storageKey) :
    (clear data).get? key = data.get? key := by
  rw [clear]
  split
  · rfl
  · rw [Dict.get?_erase, if_neg hkey]

end Specs

end ConfigEntryTokenStore

end Holabrain
