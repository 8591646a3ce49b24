import Holabrain.Cloud.Errors
import Holabrain.Core.Obligations

/-!
# The sidebar panel

The panel belongs to the installation and is asked for by the entries: it is to be shown while
one that is loaded asks for it.  Entries are set up, unloaded and given new options side by
side, each suspended at its own requests, and whoever changes the answer also brings the panel
up to date: at once, or as the last thing it does.  So once all is quiet the panel is right.
-/

namespace Holabrain

/-- Where a config entry is in its life, as Home Assistant keeps it. -/
inductive ConfigEntryState
  | notLoaded
  | loaded
  | unloadInProgress
  deriving DecidableEq

/-- One config entry, as far as the panel goes. -/
structure PanelEntry where
  state : ConfigEntryState := .notLoaded
  /-- `options.get(CONF_PANEL)`. -/
  panel : Option Bool := none
  deriving DecidableEq

/-- The frontend of an installation, with the markers in `hass.data`. -/
structure Frontend where
  /-- The HTTP component is there. -/
  http : Bool
  /-- `_STATIC_MARKER`. -/
  staticMarker : Bool := false
  /-- `_PANEL_MARKER`. -/
  panelMarker : Bool := false
  /-- The frontend has a panel under `PANEL_URL_PATH`. -/
  shown : Bool := false
  entries : List PanelEntry

/-- What a setup or an unload suspends for. -/
inductive EntryOp
  | firstRefresh
  | forwardSetups
  | registerStaticPaths
  | unloadPlatforms
  | shutdown
  | aclose

abbrev EntryAnswer : EntryOp → Type
  | .unloadPlatforms => Except Exn Bool
  | _ => Except Exn Unit

abbrev FrontendM := Coro Frontend EntryOp EntryAnswer Exn

/-- `DEFAULT_PANEL`. -/
def defaultPanel : Bool := false

namespace PanelEntry

def asks (entry : PanelEntry) : Bool := entry.panel.getD defaultPanel

/-- `_async_options_updated` is registered: from the end of a setup to the end of an unload. -/
def listens (entry : PanelEntry) : Bool := decide (entry.state ≠ .notLoaded)

theorem listens_iff {entry : PanelEntry} : entry.listens = true ↔ entry.state ≠ .notLoaded :=
  decide_eq_true_iff

end PanelEntry

namespace Frontend

/-! ## The source -/

/-- `async_register_static_path`: is there anything to serve the panel from? -/
def asyncRegisterStaticPath : FrontendM Bool := do
  let s ← Coro.gets id
  if s.http = false then return false
  else if s.staticMarker then return true
  else do
    let answer ← Coro.perform (ο := EntryAnswer) .registerStaticPaths
    Coro.ofExcept answer
    Coro.modify fun s => { s with staticMarker := true }
    return true

/-- `async_register_built_in_panel`, which overwrites nothing. -/
def registerBuiltInPanel : FrontendM Unit := do
  let s ← Coro.gets id
  if s.shown then throw (.builtin "ValueError")
  else Coro.modify fun s => { s with shown := true }

/-- `async_register_panel`. -/
def asyncRegisterPanel : FrontendM Unit := do
  let served ← asyncRegisterStaticPath
  let s ← Coro.gets id
  if served = false ∨ s.panelMarker = true then return ()
  else do
    registerBuiltInPanel
    Coro.modify fun s => { s with panelMarker := true }

/-- `async_unregister_panel`. -/
def asyncUnregisterPanel (s : Frontend) : Frontend :=
  if s.panelMarker then { s with panelMarker := false, shown := false } else s

/-- One of the loaded entries, or the extra one, asks for the panel. -/
def asked (extra : Option ℕ) (s : Frontend) : Bool :=
  s.entries.zipIdx.any fun e =>
    (decide (e.1.state = .loaded) || decide (extra = some e.2)) && e.1.asks

/-- `_async_sync_panel`. -/
def asyncSyncPanel (extra : Option ℕ) : FrontendM Unit := do
  let s ← Coro.gets id
  if asked extra s then asyncRegisterPanel
  else Coro.modify asyncUnregisterPanel

def setState (n : ℕ) (state : ConfigEntryState) (s : Frontend) : Frontend :=
  { s with entries := s.entries.modify n fun entry => { entry with state := state } }

/-- `async_setup_entry`, after which the entry is loaded. -/
def asyncSetupEntry (n : ℕ) : FrontendM Unit := do
  let answer ← Coro.perform (ο := EntryAnswer) .firstRefresh
  match answer with
  | .error exn => do
      let answer ← Coro.perform (ο := EntryAnswer) .shutdown
      Coro.ofExcept answer
      let answer ← Coro.perform (ο := EntryAnswer) .aclose
      Coro.ofExcept answer
      throw exn
  | .ok () => do
      let answer ← Coro.perform (ο := EntryAnswer) .forwardSetups
      Coro.ofExcept answer
      let _ ← asyncRegisterStaticPath
      asyncSyncPanel (some n)
      Coro.modify (setState n .loaded)

/-- `async_unload_entry`.  Meanwhile, and afterwards, the entry does not count as loaded. -/
def asyncUnloadEntry (n : ℕ) : FrontendM Unit := do
  Coro.modify (setState n .unloadInProgress)
  let answer ← Coro.perform (ο := EntryAnswer) .unloadPlatforms
  let unloaded ← Coro.ofExcept answer
  if unloaded then do
    let answer ← Coro.perform (ο := EntryAnswer) .shutdown
    Coro.ofExcept answer
    let answer ← Coro.perform (ο := EntryAnswer) .aclose
    Coro.ofExcept answer
    -- The state changes after the last line, but nothing is awaited from here on, and an entry
    -- that is being unloaded counts no more than one that is not loaded.
    Coro.modify (setState n .notLoaded)
    asyncSyncPanel none
  else return ()

def setPanel (n : ℕ) (panel : Bool) (s : Frontend) : Frontend :=
  { s with entries := s.entries.modify n fun entry => { entry with panel := some panel } }

/-- New options, with `_async_options_updated` where it listens. -/
def asyncUpdateOptions (n : ℕ) (panel : Bool) : FrontendM Unit := do
  let s ← Coro.gets id
  Coro.modify (setPanel n panel)
  if (s.entries[n]?.map PanelEntry.listens).getD false then asyncSyncPanel (some n)
  else return ()

/-! ## What it is for -/

/-- The panel is there for a loaded entry that asks for it. -/
def wanted (s : Frontend) : Bool := s.http && s.asked none

/-- The entry is being unloaded. -/
def Unloading (s : Frontend) (n : ℕ) : Prop :=
  ∃ entry, s.entries[n]? = some entry ∧ entry.state = .unloadInProgress

/-- What has to be put right: an unload that is under way, or the panel where there is none. -/
def Astray (s : Frontend) : Option ℕ → Prop
  | some n => s.Unloading n
  | none => s.shown ≠ s.wanted ∧ ∀ n, ¬ s.Unloading n

/-- The marker says whether the panel is there, and what is shown or loaded can be served. -/
structure Sound (s : Frontend) : Prop where
  marker : s.panelMarker = s.shown
  served : s.shown = true → s.http = true
  mounted : s.http = true → (∃ entry ∈ s.entries, entry.listens = true) → s.staticMarker = true

/-- After a start nothing is loaded, and nothing registered. -/
def boot (http : Bool) (panels : List (Option Bool)) : Frontend where
  http := http
  entries := panels.map fun panel => { panel := panel }

/-- What every block of these coroutines keeps. -/
structure Advances (s s' : Frontend) : Prop where
  http : s'.http = s.http
  mounted : s.staticMarker = true → s'.staticMarker = true
  sound : s.Sound → s'.Sound

/-- Setting up may fail anywhere, but no platform refuses to be unloaded, and the coordinator
and the connection are closed without an error. -/
def obliging : Environment Frontend EntryOp EntryAnswer
  | s, .unloadPlatforms, answer, s' => s' = s ∧ answer = .ok true
  | s, .shutdown, answer, s' => s' = s ∧ answer = .ok ()
  | s, .aclose, answer, s' => s' = s ∧ answer = .ok ()
  | s, _, _, s' => s' = s

/-- An entry is set up where it is not loaded and unloaded where it is. -/
inductive Activity : Frontend → FrontendM Unit → Prop
  | setup {s : Frontend} (n : ℕ) : Activity s (asyncSetupEntry n)
  | unload {s : Frontend} {n : ℕ} {entry : PanelEntry} (hentry : s.entries[n]? = some entry)
      (hloaded : entry.state = .loaded) : Activity s (asyncUnloadEntry n)
  | options {s : Frontend} (n : ℕ) (panel : Bool) : Activity s (asyncUpdateOptions n panel)

section Advances

variable {s s' s'' : Frontend}

theorem Advances.refl (s : Frontend) : Advances s s := ⟨rfl, id, id⟩

theorem Advances.trans (h : Advances s s') (h' : Advances s' s'') : Advances s s'' :=
  ⟨h'.http.trans h.http, h'.mounted ∘ h.mounted, h'.sound ∘ h.sound⟩

end Advances

/-! ## Who asks -/

section Asked

variable {s : Frontend} {extra : Option ℕ} {n : ℕ}

theorem asked_iff : s.asked extra = true ↔ ∃ k entry, s.entries[k]? = some entry ∧
    (entry.state = .loaded ∨ extra = some k) ∧ entry.asks = true := by
  simp only [asked, List.any_eq_true, Bool.and_eq_true, Bool.or_eq_true, decide_eq_true_eq,
    Prod.exists, List.mem_zipIdx_iff_getElem?]
  exact exists_comm

theorem getElem?_setState (state : ConfigEntryState) (k : ℕ) : (s.setState n state).entries[k]? =
    s.entries[k]?.map fun entry => if n = k then { entry with state := state } else entry :=
  List.getElem?_modify ..

/-- The entry that is set up counts before it is loaded. -/
theorem asked_setState_loaded : (s.setState n .loaded).asked none = s.asked (some n) := by
  apply Bool.eq_iff_iff.mpr
  simp only [asked_iff, getElem?_setState, Option.map_eq_some_iff]
  constructor
  · rintro ⟨k, _, ⟨entry, hentry, rfl⟩, hcounts, hasks⟩
    by_cases hk : n = k
    · subst hk
      rw [if_pos rfl] at hasks
      exact ⟨n, entry, hentry, .inr rfl, hasks⟩
    · rw [if_neg hk] at hcounts hasks
      exact ⟨k, entry, hentry, .inl (hcounts.resolve_right nofun), hasks⟩
  · rintro ⟨k, entry, hentry, hcounts, hasks⟩
    refine ⟨k, _, ⟨entry, hentry, rfl⟩, .inl ?_, ?_⟩
    · by_cases hk : n = k
      · rw [if_pos hk]
      · rw [if_neg hk]
        exact hcounts.resolve_right fun hsome => hk (Option.some.inj hsome)
    · by_cases hk : n = k
      · rw [if_pos hk]
        exact hasks
      · rw [if_neg hk]
        exact hasks

/-- An entry that is loaded counts anyway. -/
theorem asked_of_loaded {entry : PanelEntry} (hentry : s.entries[n]? = some entry)
    (hloaded : entry.state = .loaded) : s.asked (some n) = s.asked none := by
  apply Bool.eq_iff_iff.mpr
  simp only [asked_iff]
  constructor
  · rintro ⟨k, other, hother, hcounts, hasks⟩
    refine ⟨k, other, hother, .inl ?_, hasks⟩
    rcases hcounts with hold | hsome
    · exact hold
    · cases hsome
      rw [hentry] at hother
      cases hother
      exact hloaded
  · rintro ⟨k, other, hother, hcounts, hasks⟩
    exact ⟨k, other, hother, hcounts.imp_right nofun, hasks⟩

/-- Whatever else becomes of an entry, no other is being unloaded for it. -/
theorem unloading_of_setState {state : ConfigEntryState} {k : ℕ} (hk : n ≠ k)
    (h : (s.setState n state).Unloading k) : s.Unloading k := by
  obtain ⟨_, hentry, hstate⟩ := h
  rw [getElem?_setState] at hentry
  obtain ⟨entry, hold, rfl⟩ := Option.map_eq_some_iff.mp hentry
  rw [if_neg hk] at hstate
  exact ⟨entry, hold, hstate⟩

theorem ne_of_unloading_setState {state : ConfigEntryState} {k : ℕ}
    (hstate : state ≠ .unloadInProgress) (h : (s.setState n state).Unloading k) : n ≠ k := by
  obtain ⟨_, hentry, hunloading⟩ := h
  rw [getElem?_setState] at hentry
  obtain ⟨entry, _, rfl⟩ := Option.map_eq_some_iff.mp hentry
  intro hk
  rw [if_pos hk] at hunloading
  exact hstate hunloading

theorem unloading_setState {entry : PanelEntry} (hentry : s.entries[n]? = some entry) :
    (s.setState n .unloadInProgress).Unloading n := by
  refine ⟨{ entry with state := .unloadInProgress }, ?_, rfl⟩
  rw [getElem?_setState, hentry, Option.map_some, if_pos rfl]

end Asked

/-! ## Bringing the panel up to date -/

/-- The panel as it has to be, counting the extra entry. -/
def synced (extra : Option ℕ) (s : Frontend) : Frontend :=
  { s with panelMarker := s.http && s.asked extra, shown := s.http && s.asked extra }

section Sync

variable {s s' s₀ : Frontend} {owed owed' : Set (Option ℕ)} {extra : Option ℕ}
  {post : Except Exn Unit → Set (Option ℕ) → Frontend → Frontend → Prop}

theorem synced_eq_self (hsound : s.Sound) (hshown : s.shown = (s.http && s.asked extra)) :
    s.synced extra = s := by
  rw [synced, ← hshown]
  nth_rewrite 1 [← hsound.marker]
  rfl

/-- Where the assets are mounted, the panel is brought up to date at once, and nothing is
registered twice. -/
theorem owes_asyncSyncPanel (hsound : s.Sound) (hmounted : s.http = true → s.staticMarker = true)
    (h : post (.ok ()) owed s₀ (s.synced extra)) :
    (asyncSyncPanel extra).owes obliging Advances Astray post owed s₀ s := by
  simp only [asyncSyncPanel, asyncRegisterPanel, asyncRegisterStaticPath, registerBuiltInPanel,
    Coro.owes_bind, Coro.owes_gets, Coro.owes_ite, Coro.owes_modify, Coro.owes_pure, id_eq]
  rcases Bool.eq_false_or_eq_true (s.asked extra) with hasked | hasked
  · rw [if_pos hasked]
    rcases Bool.eq_false_or_eq_true s.http with hhttp | hhttp
    · have hsynced : s.synced extra = { s with panelMarker := true, shown := true } := by
        rw [synced, hasked, hhttp]
        rfl
      rw [if_neg (ne_true_of_eq_false · hhttp), if_pos (hmounted hhttp)]
      rw [hsynced] at h
      rcases Bool.eq_false_or_eq_true s.panelMarker with hmarker | hmarker
      · have hsame : s.synced extra = s := by
          apply synced_eq_self hsound
          rw [← hsound.marker, hmarker, hhttp, hasked]
          rfl
        rw [hsynced] at hsame
        rw [if_pos (.inr hmarker)]
        rwa [hsame] at h
      · have hshown : ¬ s.shown = true := by
          rw [← hsound.marker]
          exact ne_true_of_eq_false hmarker
        rw [if_neg fun hor => hor.elim Bool.noConfusion (ne_true_of_eq_false hmarker),
          if_neg hshown]
        exact h
    · have hnone : s.shown = false := by
        rw [← Bool.not_eq_true]
        exact fun hshown => ne_true_of_eq_false hhttp (hsound.served hshown)
      have hsame : s.synced extra = s := by
        rw [synced_eq_self hsound]
        rw [hnone, hhttp, Bool.false_and]
      rw [if_pos hhttp, if_pos (.inl trivial)]
      rwa [hsame] at h
  · have hnone : (s.http && s.asked extra) = false := by
      rw [hasked, Bool.and_false]
    rw [if_neg (ne_true_of_eq_false hasked), asyncUnregisterPanel]
    rw [synced, hnone] at h
    split
    next => exact h
    next hmarker =>
      have hshown : s.shown = false := by
        rw [← hsound.marker]
        exact eq_false_of_ne_true hmarker
      have hsame : s.synced extra = s := synced_eq_self hsound (hshown.trans hnone.symm)
      rw [synced, hnone] at hsame
      rwa [hsame] at h

theorem advances_synced (hmounted : s.http = true → s.staticMarker = true) :
    Advances s (s.synced extra) where
  http := rfl
  mounted := id
  sound _ :=
    { marker := rfl
      served := fun hshown => ((Bool.and_eq_true _ _).mp hshown).1
      mounted := fun hhttp _ => hmounted hhttp }

/-- With the panel as it should be, only an unload can be left. -/
theorem balanced_of_right (hshown : s'.shown = s'.wanted)
    (hunloads : ∀ k, s'.Unloading k → some k ∈ owed' ∨ (s.Unloading k ∧ some k ∉ owed)) :
    Balanced Astray owed owed' s s' := by
  intro d hastray
  cases d with
  | none => exact absurd hshown hastray.1
  | some k => exact hunloads k hastray

theorem advances_setState {n : ℕ} (state : ConfigEntryState)
    (hmounted : s.http = true → s.staticMarker = true) : Advances s (s.setState n state) :=
  ⟨rfl, id, fun hsound => ⟨hsound.marker, hsound.served, fun hhttp _ => hmounted hhttp⟩⟩

theorem advances_mounted (s : Frontend) : Advances s { s with staticMarker := true } :=
  ⟨rfl, fun _ => rfl, fun hsound => ⟨hsound.marker, hsound.served, fun _ _ => rfl⟩⟩

/-- Afterwards the assets are mounted, unless that failed, and all else is as it was. -/
theorem owes_asyncRegisterStaticPath
    {post : Except Exn Bool → Set (Option ℕ) → Frontend → Frontend → Prop}
    (hrel : Advances s₀ s) (hbalanced : Balanced Astray ∅ ∅ s₀ s)
    (hpost : ∀ result t₀ t, Advances s t → Advances t₀ t → Balanced Astray ∅ ∅ t₀ t →
      (∀ served, result = .ok served → t.http = true → t.staticMarker = true) →
      post result ∅ t₀ t) :
    asyncRegisterStaticPath.owes obliging Advances Astray post ∅ s₀ s := by
  simp only [asyncRegisterStaticPath, Coro.owes_bind, Coro.owes_gets, Coro.owes_ite,
    Coro.owes_modify, Coro.owes_pure, id_eq]
  split
  next hhttp =>
    exact hpost _ _ _ (.refl s) hrel hbalanced fun _ _ hserved =>
      absurd hserved (ne_true_of_eq_false hhttp)
  next =>
    split
    next hmounted => exact hpost _ _ _ (.refl s) hrel hbalanced fun _ _ _ => hmounted
    next =>
      refine ⟨∅, hrel, hbalanced, fun u hu answer t hanswer => ?_⟩
      obtain rfl : t = u := hanswer
      cases answer with
      | error exn =>
          apply hpost _ _ _ hu (.refl t) (.refl ∅ t)
          intro served hserved
          cases hserved
      | ok registered =>
          have hmount := advances_mounted t
          have hastray : Balanced Astray ∅ ∅ t { t with staticMarker := true } := by
            refine fun d hd => .inr ⟨?_, Set.notMem_empty d⟩
            cases d with
            | none => exact hd
            | some k => exact hd
          exact hpost _ _ _ (hu.trans hmount) hmount hastray fun _ _ _ => rfl

end Sync

/-! ## Each of the coroutines -/

section Activity

variable {s : Frontend} {n : ℕ}

/-- Nothing has changed yet. -/
theorem settled_refl {α : Type} (result : Except Exn α) (s : Frontend) :
    Coro.Settled Advances Astray result ∅ s s := ⟨.refl s, .refl ∅ s⟩

/-- The last block of a setup. -/
theorem owes_sync_setState {s₀ : Frontend} (hsound : s.Sound) (hrel : Advances s₀ s)
    (hbalanced : Balanced Astray ∅ ∅ s₀ s) (hmounted : s.http = true → s.staticMarker = true) :
    Coro.owes obliging Advances Astray (asyncSyncPanel (some n) >>= fun _ =>
      Coro.modify (setState n .loaded)) (Coro.Settled Advances Astray) ∅ s₀ s := by
  have hrel' : Advances s₀ (s.synced (some n)) := hrel.trans (advances_synced hmounted)
  rw [Coro.owes_bind]
  apply owes_asyncSyncPanel hsound hmounted
  refine ⟨hrel'.trans (advances_setState .loaded hmounted), balanced_of_right ?_ ?_⟩
  · rw [wanted, asked_setState_loaded]
    rfl
  · intro k hunloading
    have hk : n ≠ k := ne_of_unloading_setState ConfigEntryState.noConfusion hunloading
    have hold : s.Unloading k := unloading_of_setState hk hunloading
    exact .inr ⟨((hbalanced (some k) hold).resolve_left (Set.notMem_empty _)).1,
      Set.notMem_empty _⟩

theorem meets_asyncSetupEntry (hsound : s.Sound) :
    (asyncSetupEntry n).Meets obliging Advances Astray s := by
  rw [Coro.Meets, asyncSetupEntry, Coro.owes_bind]
  refine ⟨∅, .refl s, .refl ∅ s, fun u hu answer t hanswer => ?_⟩
  obtain rfl : t = u := hanswer
  cases answer with
  | error exn =>
      refine ⟨∅, .refl t, .refl ∅ t, fun u _ _ t hanswer => ?_⟩
      obtain ⟨rfl, rfl⟩ := hanswer
      refine ⟨∅, .refl t, .refl ∅ t, fun u _ _ t hanswer => ?_⟩
      obtain ⟨rfl, rfl⟩ := hanswer
      exact settled_refl _ t
  | ok refreshed =>
      refine ⟨∅, .refl t, .refl ∅ t, fun u hu' answer t hanswer => ?_⟩
      obtain rfl : t = u := hanswer
      cases answer with
      | error exn => exact settled_refl _ t
      | ok forwarded =>
          change Coro.owes obliging Advances Astray (asyncRegisterStaticPath >>= fun _ =>
            asyncSyncPanel (some n) >>= fun _ => Coro.modify (setState n .loaded)) _ ∅ t t
          rw [Coro.owes_bind]
          apply owes_asyncRegisterStaticPath (.refl t) (.refl ∅ t)
          intro result t₀ t' hadvances hrel hbalanced hmounted
          cases result with
          | error exn => exact ⟨hrel, hbalanced⟩
          | ok served =>
              exact owes_sync_setState (hadvances.sound (hu'.sound (hu.sound hsound))) hrel
                hbalanced (hmounted served rfl)

theorem meets_asyncUnloadEntry (hsound : s.Sound) {entry : PanelEntry}
    (hentry : s.entries[n]? = some entry) (hloaded : entry.state = .loaded) :
    (asyncUnloadEntry n).Meets obliging Advances Astray s := by
  have hmounted : s.http = true → s.staticMarker = true := fun hhttp =>
    hsound.mounted hhttp ⟨entry, List.mem_of_getElem? hentry, 
      PanelEntry.listens_iff.mpr (by simp [hloaded])⟩
  rw [Coro.Meets, asyncUnloadEntry, Coro.owes_bind]
  -- From here on the unload is under way, and this coroutine owes its end.
  have hincurs : Balanced Astray ∅ {some n} s (s.setState n .unloadInProgress) := by
    intro d hastray
    cases d with
    | none => exact absurd (unloading_setState hentry) (hastray.2 n)
    | some k =>
        by_cases hk : n = k
        · exact .inl (congrArg some hk.symm)
        · exact .inr ⟨unloading_of_setState hk hastray, Set.notMem_empty _⟩
  refine ⟨{some n}, advances_setState _ hmounted, hincurs, fun u hu answer t hanswer => ?_⟩
  obtain ⟨rfl, rfl⟩ : t = u ∧ answer = .ok true := hanswer
  refine ⟨{some n}, .refl t, .refl _ t, fun u hu' answer t hanswer => ?_⟩
  obtain ⟨rfl, rfl⟩ : t = u ∧ answer = .ok () := hanswer
  refine ⟨{some n}, .refl t, .refl _ t, fun u hu'' answer t hanswer => ?_⟩
  obtain ⟨rfl, rfl⟩ : t = u ∧ answer = .ok () := hanswer
  have hrel : Advances s t := (advances_setState _ hmounted).trans (hu.trans (hu'.trans hu''))
  have hmounted' : t.http = true → t.staticMarker = true :=
    fun hhttp => hrel.mounted (hmounted (hrel.http ▸ hhttp))
  have hset : Advances t (t.setState n .notLoaded) := advances_setState _ hmounted'
  apply owes_asyncSyncPanel (hset.sound (hrel.sound hsound)) hmounted'
  refine ⟨hset.trans (advances_synced hmounted'), balanced_of_right rfl fun k hunloading => ?_⟩
  have hk : n ≠ k := ne_of_unloading_setState ConfigEntryState.noConfusion hunloading
  exact .inr ⟨unloading_of_setState hk hunloading, fun hmem => hk (Option.some.inj hmem).symm⟩

theorem getElem?_setPanel (panel : Bool) (k : ℕ) : (s.setPanel n panel).entries[k]? =
    s.entries[k]?.map fun entry => if n = k then { entry with panel := some panel } else entry :=
  List.getElem?_modify ..

/-- New options leave every entry in its state. -/
theorem exists_of_setPanel {panel : Bool} {k : ℕ} {entry : PanelEntry}
    (hentry : (s.setPanel n panel).entries[k]? = some entry) :
    ∃ old, s.entries[k]? = some old ∧ old.state = entry.state := by
  rw [getElem?_setPanel] at hentry
  obtain ⟨old, hold, rfl⟩ := Option.map_eq_some_iff.mp hentry
  refine ⟨old, hold, ?_⟩
  split <;> rfl

theorem unloading_of_setPanel {panel : Bool} {k : ℕ} (h : (s.setPanel n panel).Unloading k) :
    s.Unloading k := by
  obtain ⟨entry, hentry, hstate⟩ := h
  obtain ⟨old, hold, hsame⟩ := exists_of_setPanel hentry
  exact ⟨old, hold, hsame.trans hstate⟩

/-- The options of an entry that is not loaded change nothing. -/
theorem asked_setPanel {panel : Bool} (hloaded : ∀ entry, s.entries[n]? = some entry →
    entry.state ≠ .loaded) : (s.setPanel n panel).asked none = s.asked none := by
  apply Bool.eq_iff_iff.mpr
  simp only [asked_iff, getElem?_setPanel, Option.map_eq_some_iff]
  have hother : ∀ k entry, s.entries[k]? = some entry → entry.state = .loaded → n ≠ k := by
    rintro k entry hentry htrue rfl
    exact hloaded entry hentry htrue
  constructor
  · rintro ⟨k, _, ⟨entry, hentry, rfl⟩, hcounts, hasks⟩
    have hloaded' : entry.state = .loaded := by
      have hcounts' := hcounts.resolve_right nofun
      split at hcounts' <;> exact hcounts'
    rw [if_neg (hother k entry hentry hloaded')] at hasks
    exact ⟨k, entry, hentry, .inl hloaded', hasks⟩
  · rintro ⟨k, entry, hentry, hcounts, hasks⟩
    have hk := hother k entry hentry (hcounts.resolve_right nofun)
    refine ⟨k, _, ⟨entry, hentry, rfl⟩, ?_⟩
    rw [if_neg hk]
    exact ⟨hcounts, hasks⟩

theorem advances_setPanel (s : Frontend) (n : ℕ) (panel : Bool) :
    Advances s (s.setPanel n panel) := by
  refine ⟨rfl, id, fun hsound => ⟨hsound.marker, hsound.served, ?_⟩⟩
  rintro hhttp ⟨entry, hmem, hlistens⟩
  obtain ⟨k, hk⟩ := List.getElem?_of_mem hmem
  obtain ⟨old, hold, hsame⟩ := exists_of_setPanel hk
  refine hsound.mounted hhttp ⟨old, List.mem_of_getElem? hold, ?_⟩
  rwa [PanelEntry.listens_iff, hsame, ← PanelEntry.listens_iff]

/-- New options of an entry that listens: the panel is right, or an unload is under way. -/
theorem balanced_synced_setPanel {entry : PanelEntry} (hentry : s.entries[n]? = some entry)
    (hlistens : entry.listens = true) (panel : Bool) :
    Balanced Astray ∅ ∅ s ((s.setPanel n panel).synced (some n)) := by
  have hentry' : (s.setPanel n panel).entries[n]? = some { entry with panel := some panel } := by
    rw [getElem?_setPanel, hentry, Option.map_some, if_pos rfl]
  intro d hastray
  cases d with
  | some k => exact .inr ⟨unloading_of_setPanel hastray, Set.notMem_empty _⟩
  | none =>
      cases hstate : entry.state with
      | notLoaded => exact absurd hstate (PanelEntry.listens_iff.mp hlistens)
      | loaded =>
          refine absurd ?_ hastray.1
          exact congrArg (s.http && ·) (asked_of_loaded hentry' hstate)
      -- Then the unload brings the panel up to date once more.
      | unloadInProgress => exact absurd ⟨_, hentry', hstate⟩ (hastray.2 n)

/-- New options of an entry that does not listen change nothing that counts. -/
theorem still_setPanel (hstates : ∀ entry, s.entries[n]? = some entry → entry.listens = false)
    (panel : Bool) : Still Astray s (s.setPanel n panel) := by
  have hnot : ∀ entry, s.entries[n]? = some entry → entry.state ≠ .loaded := by
    intro entry hentry hloaded
    apply ne_true_of_eq_false (hstates entry hentry)
    exact PanelEntry.listens_iff.mpr (by simp [hloaded])
  intro d hastray
  cases d with
  | some k => exact unloading_of_setPanel hastray
  | none =>
      obtain ⟨hshown, hnone⟩ := hastray
      rw [wanted, asked_setPanel hnot] at hshown
      refine ⟨hshown, fun k hunloading => hnone k ?_⟩
      obtain ⟨entry, hentry, hstate⟩ := hunloading
      refine ⟨_, (getElem?_setPanel panel k).trans (congrArg _ hentry), ?_⟩
      split <;> exact hstate

theorem listening_iff : (s.entries[n]?.map PanelEntry.listens).getD false = true ↔
    ∃ entry, s.entries[n]? = some entry ∧ entry.listens = true := by
  cases s.entries[n]? <;> simp

theorem meets_asyncUpdateOptions (hsound : s.Sound) (panel : Bool) :
    (asyncUpdateOptions n panel).Meets obliging Advances Astray s := by
  have hset : Advances s (s.setPanel n panel) := advances_setPanel s n panel
  rw [Coro.Meets, asyncUpdateOptions]
  simp only [Coro.owes_bind, Coro.owes_gets, Coro.owes_modify, Coro.owes_ite, Coro.owes_pure, id_eq]
  split
  next hlistening =>
    obtain ⟨entry, hentry, hlistens⟩ := listening_iff.mp hlistening
    have hmounted : s.http = true → s.staticMarker = true :=
      fun hhttp => hsound.mounted hhttp ⟨entry, List.mem_of_getElem? hentry, hlistens⟩
    apply owes_asyncSyncPanel (hset.sound hsound) hmounted
    exact ⟨hset.trans (advances_synced hmounted), balanced_synced_setPanel hentry hlistens panel⟩
  next hsilent =>
    have hstates : ∀ entry, s.entries[n]? = some entry → entry.listens = false := by
      intro entry hentry
      apply eq_false_of_ne_true
      exact fun hlistens => hsilent (listening_iff.mpr ⟨entry, hentry, hlistens⟩)
    exact ⟨hset, (Balanced.refl ∅ s).still (still_setPanel hstates panel)⟩

end Activity

/-! ## All of them together -/

section Boot

variable {http : Bool} {panels : List (Option Bool)}

theorem state_of_mem_boot {entry : PanelEntry} (hentry : entry ∈ (boot http panels).entries) :
    entry.state = .notLoaded := by
  obtain ⟨panel, _, rfl⟩ := List.mem_map.mp hentry
  rfl

theorem sound_boot : (boot http panels).Sound where
  marker := rfl
  served := Bool.noConfusion
  mounted := by
    rintro - ⟨entry, hentry, hlistens⟩
    exact absurd (state_of_mem_boot hentry) (PanelEntry.listens_iff.mp hlistens)

/-- After a start nothing is to be put right. -/
theorem not_astray_boot (d : Option ℕ) : ¬ Astray (boot http panels) d := by
  intro hastray
  cases d with
  | none =>
      have hasked : ¬ (boot http panels).asked none = true := by
        rw [asked_iff]
        rintro ⟨k, entry, hentry, hcounts, -⟩
        have hloaded := hcounts.resolve_right nofun
        rw [state_of_mem_boot (List.mem_of_getElem? hentry)] at hloaded
        cases hloaded
      apply hastray.1
      rw [wanted, eq_false_of_ne_true hasked, Bool.and_false]
      rfl
  | some k =>
      obtain ⟨entry, hentry, hstate⟩ := hastray
      rw [state_of_mem_boot (List.mem_of_getElem? hentry)] at hstate
      cases hstate

end Boot

/-- However setups, unloads and new options of several entries overlap: the marker says at any
time whether the panel is there, and once nothing is under way it is there exactly if it can be
served and a loaded entry asks for it. -/
theorem panel_follows_entries {http : Bool} {panels : List (Option Bool)}
    {pool : Pool Frontend EntryOp EntryAnswer Exn Unit}
    (hrun : Pool.Run obliging Activity { shared := boot http panels, threads := [] } pool) :
    pool.shared.panelMarker = pool.shared.shown ∧
      ((∀ p ∈ pool.threads, p.hasEnded = true) → pool.shared.shown = pool.shared.wanted) := by
  have hmeets : ∀ s p, Advances (boot http panels) s → Activity s p →
      p.Meets obliging Advances Astray s := by
    intro s p hs hactivity
    cases hactivity with
    | setup n => exact meets_asyncSetupEntry (hs.sound sound_boot)
    | unload hentry hloaded => exact meets_asyncUnloadEntry (hs.sound sound_boot) hentry hloaded
    | options n panel => exact meets_asyncUpdateOptions (hs.sound sound_boot) panel
  obtain ⟨hrel, hsettled⟩ := hrun.settled .refl .trans hmeets rfl not_astray_boot
  refine ⟨(hrel.sound sound_boot).marker, fun hended => ?_⟩
  by_contra hshown
  exact hsettled hended none ⟨hshown, fun k hunloading => hsettled hended (some k) hunloading⟩

/-! ### Two accounts -/

/-- Every first refresh succeeds, and every platform is unloaded. -/
def accepting : Frontend → (op : EntryOp) → EntryAnswer op × Frontend
  | s, .firstRefresh => (.ok (), s)
  | s, .unloadPlatforms => (.ok true, s)
  | s, .forwardSetups => (.ok (), s)
  | s, .registerStaticPaths => (.ok (), s)
  | s, .shutdown => (.ok (), s)
  | s, .aclose => (.ok (), s)

theorem obliging_accepting (s : Frontend) (op : EntryOp) :
    obliging s op (accepting s op).1 (accepting s op).2 := by
  cases op with
  | firstRefresh => rfl
  | forwardSetups => rfl
  | registerStaticPaths => rfl
  | unloadPlatforms => exact ⟨rfl, rfl⟩
  | shutdown => exact ⟨rfl, rfl⟩
  | aclose => exact ⟨rfl, rfl⟩

/-- The first account asks for the panel; both are set up at once. -/
def bothLoaded : Pool Frontend EntryOp EntryAnswer Exn Unit :=
  (Pool.resume accepting 0)^[3] ((Pool.resume accepting 1)^[3]
    (Pool.launch (asyncSetupEntry 1) (Pool.launch (asyncSetupEntry 0)
      { shared := boot true [some true, none], threads := [] })))

/-- While the first is being unloaded the second begins to ask. -/
def handedOver : Pool Frontend EntryOp EntryAnswer Exn Unit :=
  (Pool.resume accepting 2)^[3] (Pool.launch (asyncUpdateOptions 1 true)
    (Pool.launch (asyncUnloadEntry 0) bothLoaded))

theorem run_handedOver :
    Pool.Run obliging Activity { shared := boot true [some true, none], threads := [] }
      handedOver := by
  have hsetups : Pool.Run obliging Activity
      { shared := boot true [some true, none], threads := [] } bothLoaded :=
    (((Pool.Run.launch .refl _ (.setup 0)).launch _ (.setup 1)).resumes
      obliging_accepting 1 3).resumes obliging_accepting 0 3
  have hloaded : bothLoaded.shared.entries[0]? = some { state := .loaded, panel := some true } := by
    decide +kernel
  exact ((hsetups.launch _ (.unload hloaded rfl)).launch _ (.options 1 true)).resumes
    obliging_accepting 2 3

/-- The panel has stayed for the second. -/
theorem panel_follows_entries_handedOver :
    handedOver.shared.wanted = true ∧ handedOver.shared.shown = handedOver.shared.wanted :=
  ⟨by decide +kernel, (panel_follows_entries run_handedOver).2 (by decide +kernel)⟩

end Frontend

end Holabrain
