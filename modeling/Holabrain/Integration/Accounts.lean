import Holabrain.Cloud.StoredManager
import Holabrain.Core.Obligations

/-!
# The entries of the accounts

A config entry is written by many: the flow that creates it, the flows that renew its password
or change its settings, the setup, the manager that keeps its session there, a claim and the
coordinator.  Each writes the entry's data as a whole, from what it has just read, except the
renewal of a password: it writes back what the data was when the password was submitted, before
the sign-in that tries it.  Whatever runs meanwhile, an entry stays one account's and its
installation keeps its device id.
-/

namespace Holabrain

/-- The entries of the integration, by their number, and the managers that run over them. -/
structure Accounts where
  uniqueIds : List String := []
  data : ℕ → Dict String Json
  managers : ℕ → AuthState

/-- What `_async_validate` signs in with. -/
structure Credentials where
  region : Json
  account : Json
  password : Json
  country : Json

inductive FlowOp
  /-- A request of the manager of an entry. -/
  | post (posting : Posting)
  /-- `client.async_login()`, of a client of its own. -/
  | login (credentials : Credentials)

abbrev FlowAnswer : FlowOp → Type
  | .post _ => HttpReply
  | .login _ => Except Exn Unit

abbrev FlowM := Coro Accounts FlowOp FlowAnswer Exn

/-- What the schema of the first form lets through. -/
structure UserInput where
  account : String
  password : String
  region : String
  country : String
  region_in : region ∈ ["eu", "us"]

/-- `ConfigFlowResult`, with the keys of its texts. -/
inductive FlowResult
  | form (error : String)
  | abort (reason : String)
  | createEntry
  | updateReloadAndAbort
  deriving DecidableEq

def UserInput.items (input : UserInput) : List (String × Json) :=
  [("account", .str input.account), ("password", .str input.password),
    ("region", .str input.region), ("country", .str input.country)]

namespace Accounts

open ConfigEntryTokenStore (storageKey)

def setData (n : ℕ) (data : Dict String Json) (t : Accounts) : Accounts :=
  { t with data := Function.update t.data n data }

/-- `async_add` of a new entry. -/
def add (uniqueId : String) (data : Dict String Json) (t : Accounts) : Accounts :=
  { t.setData t.uniqueIds.length data with uniqueIds := t.uniqueIds ++ [uniqueId] }

/-! ## The config flow -/

/-- `data[key]`. -/
def item (data : Dict String Json) (key : String) : Except Exn Json :=
  match data.get? key with
  | some value => .ok value
  | none => .error (.builtin "KeyError")

/-- `DollinClient.create`, as far as it reads the input. -/
def credentials (input : Dict String Json) : Except Exn Credentials := do
  let region ← item input "region"
  let account ← item input "account"
  let password ← item input "password"
  let country ← item input "country"
  return { region, account, password, country }

/-- `_async_validate`. -/
def asyncValidate (input : Dict String Json) : FlowM (Option String) := do
  let credentials ← Coro.ofExcept (credentials input)
  let answer ← Coro.perform (ο := FlowAnswer) (.login credentials)
  match answer with
  | .ok () => return none
  | .error (.dollin err) =>
      return some (if err.isAuthError then "invalid_auth" else "cannot_connect")
  | .error exn => throw exn

/-- `async_step_user`.  `lower` is `str.lower`. -/
def asyncStepUser (lower : String → String) (input : UserInput) : FlowM FlowResult := do
  let errors ← asyncValidate (Dict.ofList input.items)
  match errors with
  | some error => return .form error
  | none => Coro.modifyGet fun t =>
      if lower input.account ∈ t.uniqueIds then (.abort "already_configured", t)
      else (.createEntry, t.add (lower input.account) (Dict.ofList input.items))

/-- `async_step_reconfigure`. -/
def asyncStepReconfigure (lower : String → String) (n : ℕ) (input : UserInput) :
    FlowM FlowResult := do
  let errors ← asyncValidate (Dict.ofList input.items)
  match errors with
  | some error => return .form error
  | none => Coro.modifyGet fun t =>
      if t.uniqueIds[n]? ≠ some (lower input.account) then (.abort "account_mismatch", t)
      else (.updateReloadAndAbort,
        t.setData n (((t.data n).update input.items).erase storageKey))

/-- `async_step_reauth_confirm`.  What it writes is from before the sign-in. -/
def asyncStepReauthConfirm (n : ℕ) (password : String) : FlowM FlowResult := do
  let data ← Coro.gets fun t => t.data n
  let candidate := data.setItem "password" (.str password)
  let errors ← asyncValidate candidate
  match errors with
  | some error => return .form error
  | none => do
      Coro.modify fun t => t.setData n (candidate.erase storageKey)
      return .updateReloadAndAbort

/-! ## The other writers -/

/-- The device id of an entry, if it has one. -/
def deviceId (t : Accounts) (n : ℕ) : Option Json :=
  ((t.data n).get? "device_id").filter Json.truthy

/-- The first part of `async_setup_entry`, with what `generate_device_id` returns. -/
def storeDeviceId (n : ℕ) (generated : String) (t : Accounts) : Accounts :=
  match t.deviceId n with
  | some _ => t
  | none => t.setData n ((t.data n).setItem "device_id" (.str generated))

/-- What `_async_claim` remembers. -/
def rememberNetwork (n : ℕ) (bssid password : String) (t : Accounts) : Accounts :=
  if bssid = "" then t
  else t.setData n
    (((t.data n).setItem "bssid" (.str bssid)).setItem "wifi_password" (.str password))

/-- `_LEGACY_CAPABILITY_CACHE` leaves the entry. -/
def dropLegacyCache (n : ℕ) (t : Accounts) : Accounts :=
  t.setData n ((t.data n).erase "capability_cache")

/-- The manager of an entry, and the data it keeps its session in. -/
def entryView (n : ℕ) : View Accounts EntryState where
  get t := { manager := t.managers n, data := t.data n }
  set t s := { t.setData n s.data with managers := Function.update t.managers n s.manager }

/-- A method of the manager of an entry. -/
def managed {α : Type} (n : ℕ) (p : AuthM α) : FlowM α :=
  (StoredManager.stored p).within (entryView n) FlowOp.post fun _ reply => reply

/-! ## One account each, and one device id -/

/-- The data of an entry that was created for this account. -/
structure Fits (lower : String → String) (uniqueId : String) (data : Dict String Json) : Prop where
  account : ∃ account, data.get? "account" = some (.str account) ∧ lower account = uniqueId
  region : ∃ region ∈ ["eu", "us"], data.get? "region" = some (.str region)

/-- No two entries are for one account, and each is for the account it was created for. -/
structure Valid (lower : String → String) (t : Accounts) : Prop where
  nodup : t.uniqueIds.Nodup
  fits : ∀ n uniqueId, t.uniqueIds[n]? = some uniqueId → Fits lower uniqueId (t.data n)

/-- The entries that were there keep what they are, and their device ids. -/
structure SameIdentity (lower : String → String) (t t' : Accounts) : Prop where
  uniqueIds : t.uniqueIds <+: t'.uniqueIds
  valid : t.Valid lower → t'.Valid lower
  deviceId : ∀ n < t.uniqueIds.length, ∀ id, t.deviceId n = some id → t'.deviceId n = some id

/-- Requests are answered by anything. -/
def answered : Environment Accounts FlowOp FlowAnswer := fun t _ _ t' => t' = t

/-- All that writes the entries.  A password is only asked for again once the entry has been
set up; the managers run as they like, each over its own entry. -/
inductive Activity (lower : String → String) : Accounts → FlowM Unit → Prop
  | user {t : Accounts} (input : UserInput) :
      Activity lower t (asyncStepUser lower input >>= fun _ => pure ())
  | reconfigure {t : Accounts} (n : ℕ) (input : UserInput) :
      Activity lower t (asyncStepReconfigure lower n input >>= fun _ => pure ())
  | reauth {t : Accounts} {n : ℕ} (hentry : n < t.uniqueIds.length) {id : Json}
      (hid : t.deviceId n = some id) (password : String) :
      Activity lower t (asyncStepReauthConfirm n password >>= fun _ => pure ())
  | setup {t : Accounts} (n : ℕ) (generated : String) :
      Activity lower t (Coro.modify (storeDeviceId n generated))
  | claim {t : Accounts} (n : ℕ) (bssid password : String) :
      Activity lower t (Coro.modify (rememberNetwork n bssid password))
  | migrate {t : Accounts} (n : ℕ) : Activity lower t (Coro.modify (dropLegacyCache n))
  | manage {t : Accounts} (n : ℕ) (p : AuthM Unit) : Activity lower t (managed n p)
  | renew {t : Accounts} (managers : ℕ → AuthState) :
      Activity lower t (Coro.modify fun t => { t with managers := managers })

section SameIdentity

variable {lower : String → String} {t t' t'' : Accounts} {n : ℕ} {data : Dict String Json}

theorem SameIdentity.refl (t : Accounts) : SameIdentity lower t t :=
  ⟨List.prefix_refl _, id, fun _ _ _ => id⟩

theorem SameIdentity.trans (h : SameIdentity lower t t') (h' : SameIdentity lower t' t'') :
    SameIdentity lower t t'' := by
  refine ⟨h.uniqueIds.trans h'.uniqueIds, h'.valid ∘ h.valid, fun n hn id hid => ?_⟩
  exact h'.deviceId n (hn.trans_le h.uniqueIds.length_le) id (h.deviceId n hn id hid)

theorem deviceId_setData (k : ℕ) : (t.setData n data).deviceId k =
    if k = n then (data.get? "device_id").filter Json.truthy else t.deviceId k := by
  dsimp only [deviceId, setData]
  rw [Function.update_apply]
  split <;> rfl

/-- New data of an entry that fit it, with its device id. -/
theorem sameIdentity_setData
    (hfits : ∀ uniqueId, t.uniqueIds[n]? = some uniqueId → Fits lower uniqueId (t.data n) →
      Fits lower uniqueId data)
    (hdevice : ∀ id, t.deviceId n = some id →
      (data.get? "device_id").filter Json.truthy = some id) :
    SameIdentity lower t (t.setData n data) := by
  refine ⟨List.prefix_refl _, fun hvalid => ⟨hvalid.nodup, fun k uniqueId hk => ?_⟩,
    fun k hk id hid => ?_⟩
  · change Fits lower uniqueId (Function.update t.data n data k)
    by_cases hkn : k = n
    · subst hkn
      rw [Function.update_self]
      exact hfits uniqueId hk (hvalid.fits k uniqueId hk)
    · rw [Function.update_of_ne hkn]
      exact hvalid.fits k uniqueId hk
  · rw [deviceId_setData]
    split
    next hkn =>
      subst hkn
      exact hdevice id hid
    next => exact hid

/-- Data that reads the same where it matters. -/
theorem sameIdentity_of_get? (haccount : data.get? "account" = (t.data n).get? "account")
    (hregion : data.get? "region" = (t.data n).get? "region")
    (hdevice : ∀ id, t.deviceId n = some id →
      (data.get? "device_id").filter Json.truthy = some id) :
    SameIdentity lower t (t.setData n data) := by
  apply sameIdentity_setData _ hdevice
  intro uniqueId _ hfits
  refine ⟨?_, ?_⟩
  · rw [haccount]
    exact hfits.account
  · rw [hregion]
    exact hfits.region

theorem sameIdentity_add {uniqueId : String} (hnew : uniqueId ∉ t.uniqueIds)
    (hfits : Fits lower uniqueId data) : SameIdentity lower t (t.add uniqueId data) := by
  have hold : ∀ k < t.uniqueIds.length, (t.add uniqueId data).data k = t.data k :=
    fun k hk => Function.update_of_ne (Nat.ne_of_lt hk) _ _
  refine ⟨List.prefix_append _ _, fun hvalid => ⟨?_, fun k id hk => ?_⟩, fun k hk id hid => ?_⟩
  · refine List.nodup_append'.mpr ⟨hvalid.nodup, List.nodup_singleton _, ?_⟩
    exact List.disjoint_singleton.mpr hnew
  · change (t.uniqueIds ++ [uniqueId])[k]? = some id at hk
    rcases Nat.lt_or_ge k t.uniqueIds.length with hlt | hge
    · rw [List.getElem?_append_left hlt] at hk
      rw [hold k hlt]
      exact hvalid.fits k id hk
    · obtain rfl : k = t.uniqueIds.length := by
        have hlength := (List.getElem?_eq_some_iff.mp hk).1
        rw [List.length_append, List.length_singleton] at hlength
        omega
      rw [List.getElem?_concat_length] at hk
      cases hk
      change Fits lower uniqueId (Function.update t.data _ data _)
      rw [Function.update_self]
      exact hfits
  · rw [deviceId, hold k hk]
    exact hid

theorem sameIdentity_managers (managers : ℕ → AuthState) :
    SameIdentity lower t { t with managers := managers } :=
  ⟨List.prefix_refl _, fun hvalid => ⟨hvalid.nodup, hvalid.fits⟩, fun _ _ _ => id⟩

theorem sameIdentity_storeDeviceId (generated : String) :
    SameIdentity lower t (storeDeviceId n generated t) := by
  rw [storeDeviceId]
  split
  · exact .refl t
  next hnone =>
    apply sameIdentity_of_get?
    · exact Dict.get?_setItem_of_ne _ _ (by decide)
    · exact Dict.get?_setItem_of_ne _ _ (by decide)
    · intro id hid
      rw [hnone] at hid
      cases hid

theorem sameIdentity_rememberNetwork (bssid password : String) :
    SameIdentity lower t (rememberNetwork n bssid password t) := by
  have hother : ∀ key, key ≠ "bssid" → key ≠ "wifi_password" →
      (((t.data n).setItem "bssid" (.str bssid)).setItem "wifi_password" (.str password)).get?
        key = (t.data n).get? key := by
    intro key hbssid hpassword
    rw [Dict.get?_setItem_of_ne _ _ hpassword, Dict.get?_setItem_of_ne _ _ hbssid]
  rw [rememberNetwork]
  split
  · exact .refl t
  · apply sameIdentity_of_get? (hother _ (by decide) (by decide)) (hother _ (by decide) (by decide))
    intro id hid
    rw [hother _ (by decide) (by decide)]
    exact hid

theorem sameIdentity_dropLegacyCache : SameIdentity lower t (dropLegacyCache n t) := by
  have hother : ∀ key, key ≠ "capability_cache" →
      ((t.data n).erase "capability_cache").get? key = (t.data n).get? key := by
    intro key hkey
    rw [Dict.get?_erase, if_neg hkey]
  apply sameIdentity_of_get? (hother _ (by decide)) (hother _ (by decide))
  intro id hid
  rw [hother _ (by decide)]
  exact hid

end SameIdentity

/-! ## The flows -/

section Flows

variable {lower : String → String} {t : Accounts} {n : ℕ}

/-- Nothing is ever due: what counts is what every block keeps. -/
def NothingDue (_ : Accounts) (_ : Empty) : Prop := False

theorem balanced_nothing {owed owed' : Set Empty} (t t' : Accounts) :
    Balanced NothingDue owed owed' t t' := fun _ hdue => hdue.elim

/-- Whatever the others do, every block of this coroutine keeps the identities. -/
abbrev Respects (lower : String → String) {α : Type} (p : FlowM α) (t : Accounts) : Prop :=
  p.Meets answered (SameIdentity lower) NothingDue t

theorem respects_modify {f : Accounts → Accounts} (hf : SameIdentity lower t (f t)) :
    Respects lower (Coro.modify f) t := ⟨hf, balanced_nothing _ _⟩

/-- A flow that tries the input first and then answers or writes at once. -/
theorem respects_validated {α : Type} {input : Dict String Json} {f : Option String → FlowM α}
    (hf : ∀ u, SameIdentity lower t u → ∀ errors,
      (f errors).owes answered (SameIdentity lower) NothingDue
        (Coro.Settled (SameIdentity lower) NothingDue) ∅ u u) :
    Respects lower (asyncValidate input >>= f) t := by
  have hstay : ∀ u, SameIdentity lower u u ∧ Balanced NothingDue ∅ ∅ u u :=
    fun u => ⟨.refl u, balanced_nothing u u⟩
  rw [Respects, Coro.Meets, asyncValidate]
  simp only [Coro.owes_bind]
  cases credentials input with
  | error exn => exact hstay t
  | ok creds =>
      refine ⟨∅, .refl t, balanced_nothing t t, fun u hu answer u' hanswer => ?_⟩
      obtain rfl : u' = u := hanswer
      cases answer with
      | ok signedIn => exact hf u' hu none
      | error exn =>
          cases exn with
          | dollin err => exact hf u' hu _
          | _ => exact hstay u'

theorem fits_items (input : UserInput) {data : Dict String Json} :
    Fits lower (lower input.account) (data.update input.items) := by
  refine ⟨⟨input.account, ?_, rfl⟩, input.region, input.region_in, ?_⟩
  · rw [Dict.get?_update]
    rfl
  · rw [Dict.get?_update]
    rfl

theorem respects_asyncStepUser (input : UserInput) :
    Respects lower (asyncStepUser lower input) t := by
  apply respects_validated
  intro u hu errors
  cases errors with
  | some error => exact ⟨.refl u, balanced_nothing u u⟩
  | none =>
      refine ⟨?_, balanced_nothing _ _⟩
      dsimp only
      split
      next => exact .refl u
      next hnew => exact sameIdentity_add hnew (fits_items input)

theorem respects_asyncStepReconfigure (input : UserInput) :
    Respects lower (asyncStepReconfigure lower n input) t := by
  apply respects_validated
  intro u hu errors
  cases errors with
  | some error => exact ⟨.refl u, balanced_nothing u u⟩
  | none =>
      refine ⟨?_, balanced_nothing _ _⟩
      dsimp only
      split
      next => exact .refl u
      next hmatch =>
        have hother : ∀ key, key ≠ storageKey →
            (((u.data n).update input.items).erase storageKey).get? key =
              ((u.data n).update input.items).get? key := by
          intro key hkey
          rw [Dict.get?_erase, if_neg hkey]
        apply sameIdentity_setData
        · intro uniqueId hid _
          obtain rfl : uniqueId = lower input.account := by
            rw [not_not.mp hmatch] at hid
            exact (Option.some.inj hid).symm
          have hfits : Fits lower (lower input.account) ((u.data n).update input.items) :=
            fits_items input
          obtain ⟨haccount, hregion⟩ := hfits
          refine ⟨?_, ?_⟩
          · rw [hother _ (by decide)]
            exact haccount
          · rw [hother _ (by decide)]
            exact hregion
        · intro id hid
          rw [hother _ (by decide), Dict.get?_update]
          exact hid

/-- What is written back is from before the sign-in, and yet nothing is lost of these. -/
theorem respects_asyncStepReauthConfirm (hvalid : t.Valid lower) (hentry : n < t.uniqueIds.length)
    {id : Json} (hid : t.deviceId n = some id) (password : String) :
    Respects lower (asyncStepReauthConfirm n password) t := by
  have hother : ∀ key, key ≠ storageKey → key ≠ "password" →
      (((t.data n).setItem "password" (.str password)).erase storageKey).get? key =
        (t.data n).get? key := by
    intro key hkey hpassword
    rw [Dict.get?_erase, if_neg hkey, Dict.get?_setItem_of_ne _ _ hpassword]
  apply respects_validated
  intro u hu errors
  dsimp only
  cases errors with
  | some error => exact ⟨.refl u, balanced_nothing u u⟩
  | none =>
      refine ⟨?_, balanced_nothing _ _⟩
      apply sameIdentity_setData
      · intro uniqueId huid _
        have hname : t.uniqueIds[n]? = some uniqueId := by
          obtain ⟨later, hlater⟩ := hu.uniqueIds
          rw [← hlater, List.getElem?_append_left hentry] at huid
          exact huid
        obtain ⟨haccount, hregion⟩ := hvalid.fits n uniqueId hname
        refine ⟨?_, ?_⟩
        · rw [hother _ (by decide) (by decide)]
          exact haccount
        · rw [hother _ (by decide) (by decide)]
          exact hregion
      · intro id' hid'
        rw [hu.deviceId n hentry id hid] at hid'
        rw [hother _ (by decide) (by decide), ← hid']
        exact hid

end Flows

/-! ## The managers -/

section Managers

variable {lower : String → String} {n : ℕ}

/-- The store writes the session and nothing else. -/
def OthersKept (s s' : EntryState) : Prop :=
  ∀ key, key ≠ storageKey → s'.data.get? key = s.data.get? key

theorem OthersKept.trans {s s' s'' : EntryState} (h : OthersKept s s') (h' : OthersKept s' s'') :
    OthersKept s s'' := fun key hkey => (h' key hkey).trans (h key hkey)

/-- An answer that leaves the entry and its manager alone. -/
def prompt : Environment EntryState Posting PostingAnswer := fun s _ _ s' => s' = s

/-- Whatever the manager does, every block of it leaves the other keys of its entry alone. -/
theorem blocks_stored {α : Type} (p : AuthM α) :
    Coro.Blocks prompt OthersKept (StoredManager.stored p) := by
  apply Coro.Blocks.layered
  · exact OthersKept.trans
  · exact fun _ _ _ _ => rfl
  · intro op
    cases op with
    | post scheme path payload token =>
        apply Coro.Blocks.perform
        rintro s reply s' rfl key -
        rfl
    | load => exact .gets _
    | save session =>
        apply Coro.Blocks.modify
        · exact OthersKept.trans
        · exact fun s key hkey => ConfigEntryTokenStore.get?_save hkey
    | clear =>
        apply Coro.Blocks.modify
        · exact OthersKept.trans
        · exact fun s key hkey => ConfigEntryTokenStore.get?_clear hkey

theorem lawful_entryView (n : ℕ) : (entryView n).Lawful where
  get_set t s := by
    simp only [entryView, setData, Function.update_self]
  set_set t s s' := by
    simp only [entryView, setData, Function.update_idem]
  set_get t := by
    simp only [entryView, setData, Function.update_eq_self]

theorem respects_managed {α : Type} (p : AuthM α) (t : Accounts) :
    Respects lower (managed n p) t := by
  have hput : ∀ t s, OthersKept ((entryView n).get t) s →
      SameIdentity lower t ((entryView n).set t s) := by
    intro t s hkept
    have hdata : SameIdentity lower t (t.setData n s.data) := by
      apply sameIdentity_of_get? (hkept _ (by decide)) (hkept _ (by decide))
      intro id hid
      rw [hkept _ (by decide)]
      exact hid
    exact hdata.trans (sameIdentity_managers _)
  have hobeys : (managed n p).Obeys answered (SameIdentity lower) t
      ((entryView n).set t ((entryView n).get t)) := by
    have hasks : (StoredManager.stored p).Asks fun _ => True := .of_forall (fun _ => trivial) _
    apply Coro.Obeys.layered (lawful_entryView n) _ hput hasks
    · exact blocks_stored p _ _ fun _ _ => rfl
    · refine fun posting _ => ⟨.post posting, id, rfl, ?_⟩
      rintro u reply t' rfl
      exact ⟨rfl, ((lawful_entryView n).set_get _).symm⟩
  rw [(lawful_entryView n).set_get] at hobeys
  exact hobeys.meets .refl .trans fun h => ⟨h, fun _ => False.elim⟩

end Managers

/-! ## All of them together -/

/-- However sign-ups, settings, renewed passwords, setups, claims and the managers of all
entries interleave: at any time no two entries are for one account, and from any moment to any
later one every entry is for the account it was created for and keeps its device id. -/
theorem identity_is_kept {lower : String → String} {managers : ℕ → AuthState}
    {pool pool' : Pool Accounts FlowOp FlowAnswer Exn Unit}
    (hrun : Pool.Run answered (Activity lower)
      { shared := { data := fun _ => Dict.empty, managers := managers }, threads := [] } pool)
    (hlater : Pool.Run answered (Activity lower) pool pool') :
    pool.shared.Valid lower ∧ SameIdentity lower pool.shared pool'.shared := by
  have hmeets : ∀ t : Accounts, t.Valid lower → ∀ p, Activity lower t p → Respects lower p t := by
    intro t hvalid p hactivity
    cases hactivity with
    | user input => exact (respects_asyncStepUser input).bind_pure ()
    | reconfigure n input => exact (respects_asyncStepReconfigure input).bind_pure ()
    | reauth hentry hid password =>
        exact (respects_asyncStepReauthConfirm hvalid hentry hid password).bind_pure ()
    | setup n generated => exact respects_modify (sameIdentity_storeDeviceId generated)
    | claim n bssid password => exact respects_modify (sameIdentity_rememberNetwork bssid password)
    | migrate n => exact respects_modify sameIdentity_dropLegacyCache
    | manage n p => exact respects_managed p t
    | renew managers => exact respects_modify (sameIdentity_managers managers)
  have hempty : Valid lower { data := fun _ => Dict.empty, managers := managers } :=
    ⟨List.nodup_nil, fun n uniqueId hn => by cases hn⟩
  obtain ⟨hstart, debts, hcovered⟩ := hrun.covered .refl .trans
    (fun t p ht hp => hmeets t (ht.valid hempty) p hp)
    (Pool.covered_of_nil rfl fun _ => id)
  have hvalid := hstart.valid hempty
  obtain ⟨hkept, -⟩ := hlater.covered .refl .trans
    (fun t p ht hp => hmeets t (ht.valid hvalid) p hp) hcovered
  exact ⟨hvalid, hkept⟩

/-! ### A password renewed while the manager works -/

/-- Every sign-in succeeds. -/
def agreeing : Accounts → (op : FlowOp) → FlowAnswer op × Accounts
  | t, .post _ => (.failed "timed out", t)
  | t, .login _ => (.ok (), t)

theorem answered_agreeing (t : Accounts) (op : FlowOp) :
    answered t op (agreeing t op).1 (agreeing t op).2 := by
  cases op <;> rfl

def firstInput : UserInput where
  account := "User"
  password := "secret"
  region := "eu"
  country := "RU"
  region_in := by decide

def idleManager : AuthState where
  config :=
    { account := "User", password := "secret", country := "RU", region := "eu",
      encryptPassword := id, redactPath := id }
  clock := 0

def noEntries : Pool Accounts FlowOp FlowAnswer Exn Unit :=
  { shared := { data := fun _ => Dict.empty, managers := fun _ => idleManager }, threads := [] }

/-- One account, signed up and set up. -/
def signedUp : Pool Accounts FlowOp FlowAnswer Exn Unit :=
  Pool.launch (Coro.modify (storeDeviceId 0 "hb0")) (Pool.resume agreeing 0
    (Pool.launch (asyncStepUser String.toLower firstInput >>= fun _ => pure ()) noEntries))

/-- While a new password is tried, the manager saves a session and a claim its network. -/
def renewed : Pool Accounts FlowOp FlowAnswer Exn Unit :=
  Pool.resume agreeing 2 (Pool.launch (Coro.modify (rememberNetwork 0 "aa:bb" "wifi"))
    (Pool.launch (managed 0 (Auth.storeSave { accessToken := "T" }))
      (Pool.launch (asyncStepReauthConfirm 0 "new" >>= fun _ => pure ()) signedUp)))

theorem run_signedUp : Pool.Run answered (Activity String.toLower) noEntries signedUp := by
  have hflow : Pool.Run answered (Activity String.toLower) noEntries
      (Pool.launch (asyncStepUser String.toLower firstInput >>= fun _ => pure ()) noEntries) :=
    Pool.Run.launch .refl _ (.user firstInput)
  exact (hflow.resume answered_agreeing 0).launch _ (.setup 0 "hb0")

theorem run_renewed : Pool.Run answered (Activity String.toLower) signedUp renewed := by
  have hid : signedUp.shared.deviceId 0 = some (.str "hb0") := by decide +kernel
  have hreauth : Pool.Run answered (Activity String.toLower) signedUp
      (Pool.launch (asyncStepReauthConfirm 0 "new" >>= fun _ => pure ()) signedUp) :=
    Pool.Run.launch .refl _ (.reauth (by decide +kernel) hid "new")
  have hmanaged := hreauth.launch (managed 0 (Auth.storeSave { accessToken := "T" })) (.manage 0 _)
  exact (hmanaged.launch _ (.claim 0 "aa:bb" "wifi")).resume answered_agreeing 2

/-- The network is forgotten again, but account and device id are as they were. -/
theorem identity_is_kept_renewed :
    (renewed.shared.data 0).get? "bssid" = none ∧
      signedUp.shared.Valid String.toLower ∧
        SameIdentity String.toLower signedUp.shared renewed.shared :=
  ⟨by decide +kernel, identity_is_kept run_signedUp run_renewed⟩

end Accounts

end Holabrain
