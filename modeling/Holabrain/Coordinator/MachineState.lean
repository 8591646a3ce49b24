import Holabrain.Core.Memo
import Holabrain.Entity.Gate
import Holabrain.Coordinator.Topics

/-!
# The cached machine state

`machine_state` resolves the state machine once for a state object and keeps the name as long as
the appliance has that very object.  Identity is what the cache is about, so the coordinator's
state is modelled here with its state objects on a heap: what is published, what polls in flight
hold and what the cache remembers are addresses.  `Represents` connects it with the worlds of the
other modules, which hold the states themselves.
-/

namespace Holabrain

open Coordinator

/-- The part of the coordinator that `machine_state` depends on. -/
structure Objects where
  /-- The state objects made so far; an object is its position. -/
  heap : List DeviceState := []
  devices : Dict String Device := Dict.empty
  data : Option (Dict String ℕ) := none
  /-- `_machine_states`. -/
  machineStates : Memo String (Option String) ℕ (Option String) := Dict.empty
  /-- The states the polls in flight have gathered, by poll. -/
  polls : Dict ℕ (Dict String ℕ) := Dict.empty

namespace Objects

/-- `self.data or {}`. -/
def published (o : Objects) : Dict String ℕ := o.data.getD Dict.empty

def stateOf (o : Objects) (thingCode : String) : Option DeviceState :=
  (o.published.get? thingCode).bind (o.heap[·]?)

/-- The type the inventory lists an appliance under. -/
def typeOf (devices : Dict String Device) (thingCode : String) : Option String :=
  (devices.get? thingCode).map Device.deviceType

/-- What is resolved for an object, under a type or under none. -/
def resolveAt (heap : List DeviceState) (deviceType : Option String) (address : ℕ) :
    Option String :=
  deviceType.bind fun deviceType => heap[address]?.bind (resolveMachineState deviceType)

/-- `machine_state`. -/
def machineState (thingCode : String) (o : Objects) : Option String × Objects :=
  match o.published.get? thingCode with
  | none => (none, o)
  | some address =>
      let answer := o.machineStates.ask (resolveAt o.heap) thingCode
        (typeOf o.devices thingCode) address
      (answer.1, { o with machineStates := answer.2 })

/-- A payload folded into the published state of an appliance; a payload that changes nothing
leaves the object in place. -/
def fold (thingCode : String) (payload : Members) (o : Objects) : Objects :=
  match (o.stateOf thingCode).bind (DeviceState.applyPush? · payload) with
  | none => o
  | some updated =>
      { o with
        heap := o.heap ++ [updated]
        data := some (o.published.setItem thingCode o.heap.length) }

/-- `all(isinstance(v, str) for v in instruction.values())`. -/
def allTexts (instruction : Members) : Bool :=
  instruction.toDict.values.all fun value => match value with
    | .str _ => true
    | _ => false

/-- What happens to the coordinator, one block at a time. -/
inductive Action
  /-- The inventory a setup or a scan has read takes the place of the last one. -/
  | scanned (latest : Dict String Device)
  | frame (topic : String) (payload : Members)
  | patched (thingCode : String) (instruction : Members)
  /-- A scheduled update that returns what is there. -/
  | skipped
  | pollStarted (poll : ℕ)
  | pollAnswered (poll : ℕ) (thingCode : String) (state : DeviceState)
  | pollFinished (poll : ℕ)
  | pollFailed (poll : ℕ)
  /-- `machine_state` is called. -/
  | asked (thingCode : String)

def step (o : Objects) : Action → Objects
  | .scanned latest => { o with devices := latest }
  | .frame topic payload => match thingCodeFromTopic topic with
      | none => o
      | some thingCode => o.fold thingCode payload
  | .patched thingCode instruction =>
      if allTexts instruction then o.fold thingCode instruction else o
  | .skipped => { o with data := some o.published }
  | .pollStarted poll =>
      let states := o.published.filterKeys fun code => decide (code ∈ o.devices)
      { o with polls := o.polls.setItem poll states }
  | .pollAnswered poll thingCode state => match o.polls.get? poll with
      | none => o
      | some states =>
          { o with
            heap := o.heap ++ [state]
            polls := o.polls.setItem poll (states.setItem thingCode o.heap.length) }
  | .pollFinished poll => match o.polls.get? poll with
      | none => o
      | some states => { o with data := some states, polls := o.polls.erase poll }
  | .pollFailed poll => { o with polls := o.polls.erase poll }
  | .asked thingCode => (o.machineState thingCode).2

/-- The states of the coordinator over a run, the one it starts in included. -/
def reached : List Action → Objects → List Objects
  | [], o => [o]
  | action :: rest, o => o :: reached rest (o.step action)

/-! ## Transparency -/

/-- The types the inventory lists appliances under, each as what a verdict is asked under. -/
def listedAs (devices : Dict String Device) (thingCode : String) : Option (Option String) :=
  (devices.get? thingCode).map fun device => some device.deviceType

/-- The cache cannot be told from resolving anew, for any appliance of the inventory. -/
def Transparent (o : Objects) : Prop :=
  ∀ thingCode device, o.devices.get? thingCode = some device →
    (o.machineState thingCode).1 =
      (o.stateOf thingCode).bind (resolveMachineState device.deviceType)

/-- No listed appliance has the state object it was last asked about under a type that resolves
that state to another name than the type it was listed under then. -/
def Agrees (o : Objects) (devices : Dict String Device) (published : Dict String ℕ) : Prop :=
  o.machineStates.Agrees (resolveAt o.heap) (listedAs devices) published.get?

/-- What a step has to meet: the inventory a scan puts in place agrees with what is published,
and the states a poll publishes agree with the inventory. -/
def Keeps (o : Objects) : Action → Prop
  | .scanned latest => o.Agrees latest o.published
  | .pollFinished poll => ∀ states, o.polls.get? poll = some states → o.Agrees o.devices states
  | _ => True

/-- Every step of a run meets its condition. -/
def Kept : List Action → Objects → Prop
  | [], _ => True
  | action :: rest, o => o.Keeps action ∧ Kept rest (o.step action)

/-- Every address of the dictionary is one of an object. -/
def Valid (heap : List DeviceState) (addresses : Dict String ℕ) : Prop :=
  ∀ thingCode address, addresses.get? thingCode = some address → address < heap.length

/-- Addresses are those of objects, and verdicts are what was resolved for them. -/
structure WellFormed (o : Objects) : Prop where
  published : Valid o.heap o.published
  polls : ∀ poll states, o.polls.get? poll = some states → Valid o.heap states
  cached : ∀ thingCode entry, o.machineStates.get? thingCode = some entry →
    entry.object < o.heap.length
  sound : o.machineStates.Sound (resolveAt o.heap)

theorem wellFormed_start : WellFormed {} where
  published _ _ h := nomatch h
  polls _ _ h := nomatch h
  cached _ _ h := nomatch h
  sound _ _ h := nomatch h

/-- An object that is made later changes nothing that is resolved for an earlier one. -/
theorem resolveAt_append {heap : List DeviceState} {address : ℕ} (h : address < heap.length)
    (made : List DeviceState) (deviceType : Option String) :
    resolveAt (heap ++ made) deviceType address = resolveAt heap deviceType address := by
  rw [resolveAt, resolveAt, List.getElem?_append_left h]

variable {o : Objects}

/-- Transparency is agreement with what is published. -/
theorem transparent_iff (h : o.WellFormed) :
    o.Transparent ↔ o.Agrees o.devices o.published := by
  rw [Agrees, ← Memo.transparent_iff_agrees h.sound]
  constructor
  · intro htransparent thingCode context address hcontext haddress
    obtain ⟨device, hdevice, rfl⟩ := Option.map_eq_some_iff.mp hcontext
    have hanswer := htransparent thingCode device hdevice
    rw [machineState, haddress, stateOf, haddress, typeOf, hdevice] at hanswer
    exact hanswer
  · intro hagrees thingCode device hdevice
    rw [machineState, stateOf]
    cases haddress : o.published.get? thingCode with
    | none => rfl
    | some address =>
        have hcontext : listedAs o.devices thingCode = some (some device.deviceType) := by
          rw [listedAs, hdevice, Option.map_some]
        rw [typeOf, hdevice]
        exact hagrees thingCode (some device.deviceType) address hcontext haddress

/-! ## One step -/

namespace Valid

variable {heap : List DeviceState} {addresses : Dict String ℕ}

theorem append (h : Valid heap addresses) (made : List DeviceState) :
    Valid (heap ++ made) addresses := by
  intro thingCode address haddress
  rw [List.length_append]
  exact Nat.lt_add_right _ (h thingCode address haddress)

/-- The object made last is one of the heap. -/
theorem setItem (h : Valid heap addresses) (thingCode : String) (state : DeviceState) :
    Valid (heap ++ [state]) (addresses.setItem thingCode heap.length) := by
  have hlast : heap.length < (heap ++ [state]).length := by
    rw [List.length_append]
    exact Nat.lt_succ_self _
  exact Dict.forall_setItem (h.append [state]) hlast

theorem filterKeys (h : Valid heap addresses) (p : String → Bool) :
    Valid heap (addresses.filterKeys p) :=
  Dict.forall_filterKeys h p

end Valid

/-- New objects, published or not, with the same inventory and the same cache. -/
structure Makes (o o' : Objects) : Prop where
  heap : ∃ made, o'.heap = o.heap ++ made
  devices : o'.devices = o.devices
  machineStates : o'.machineStates = o.machineStates
  /-- What is published now is an object that was published, or a new one. -/
  published : ∀ thingCode address, o'.published.get? thingCode = some address →
    o.published.get? thingCode = some address ∨ o.heap.length ≤ address

namespace Makes

variable {o' : Objects}

theorem resolveAt (h : Makes o o') (hwf : o.WellFormed) :
    ∀ thingCode entry, o.machineStates.get? thingCode = some entry → ∀ deviceType,
      Objects.resolveAt o'.heap deviceType entry.object =
        Objects.resolveAt o.heap deviceType entry.object := by
  intro thingCode entry hentry deviceType
  obtain ⟨made, hmade⟩ := h.heap
  rw [hmade]
  exact resolveAt_append (hwf.cached thingCode entry hentry) made deviceType

theorem wellFormed (h : Makes o o') (hwf : o.WellFormed) (hpublished : Valid o'.heap o'.published)
    (hpolls : ∀ poll states, o'.polls.get? poll = some states → Valid o'.heap states) :
    o'.WellFormed where
  published := hpublished
  polls := hpolls
  cached thingCode entry hentry := by
    obtain ⟨made, hmade⟩ := h.heap
    rw [h.machineStates] at hentry
    rw [hmade, List.length_append]
    exact Nat.lt_add_right _ (hwf.cached thingCode entry hentry)
  sound := by
    rw [h.machineStates]
    exact hwf.sound.congr (h.resolveAt hwf)

/-- No verdict is cached for an object that is made now. -/
theorem transparent (h : Makes o o') (hwf : o.WellFormed) (hwf' : o'.WellFormed)
    (htransparent : o.Transparent) : o'.Transparent := by
  have hagrees := (transparent_iff hwf).mp htransparent
  rw [transparent_iff hwf', Agrees, h.machineStates, h.devices]
  refine Memo.Agrees.congr ?_ (h.resolveAt hwf)
  intro thingCode entry context hentry hcontext hobject
  obtain hold | hnew := h.published thingCode entry.object hobject
  · exact hagrees thingCode entry context hentry hcontext hold
  · exact absurd (hwf.cached thingCode entry hentry) (Nat.not_lt.mpr hnew)

theorem refl (o : Objects) : Makes o o where
  heap := ⟨[], (List.append_nil _).symm⟩
  devices := rfl
  machineStates := rfl
  published _ _ h := .inl h

/-- The polls hold other addresses. -/
theorem polls (o : Objects) (polls : Dict ℕ (Dict String ℕ)) :
    Makes o { o with polls := polls } where
  heap := ⟨[], (List.append_nil _).symm⟩
  devices := rfl
  machineStates := rfl
  published _ _ h := .inl h

theorem fold (thingCode : String) (payload : Members) (o : Objects) :
    Makes o (o.fold thingCode payload) := by
  rw [Objects.fold]
  split
  · exact refl o
  next updated _ =>
    exact ⟨⟨[updated], rfl⟩, rfl, rfl, Dict.forall_setItem (fun _ _ h => .inl h) (.inr le_rfl)⟩

/-- The steps that have no condition to meet, but for the calls, only make objects. -/
theorem step (o : Objects) (action : Action) (hscanned : ∀ latest, action ≠ .scanned latest)
    (hfinished : ∀ poll, action ≠ .pollFinished poll) (hasked : ∀ code, action ≠ .asked code) :
    Makes o (o.step action) := by
  cases action with
  | scanned latest => exact absurd rfl (hscanned latest)
  | frame topic payload =>
      rw [Objects.step]
      split
      · exact refl o
      · exact fold _ payload o
  | patched thingCode instruction =>
      rw [Objects.step]
      split
      · exact fold thingCode instruction o
      · exact refl o
  | skipped => exact ⟨⟨[], (List.append_nil _).symm⟩, rfl, rfl, fun _ _ h => .inl h⟩
  | pollStarted poll => exact polls o _
  | pollAnswered poll thingCode state =>
      rw [Objects.step]
      split
      · exact refl o
      · exact ⟨⟨[state], rfl⟩, rfl, rfl, fun _ _ h => .inl h⟩
  | pollFinished poll => exact absurd rfl (hfinished poll)
  | pollFailed poll => exact polls o _
  | asked thingCode => exact absurd rfl (hasked thingCode)

end Makes

/-- The polls in flight do not see the objects made meanwhile. -/
theorem WellFormed.polls_append (hwf : o.WellFormed) (made : List DeviceState) :
    ∀ poll states, o.polls.get? poll = some states → Valid (o.heap ++ made) states := by
  intro poll states hstates
  exact (hwf.polls poll states hstates).append made

/-- A call resolves nothing but a verdict of its own. -/
theorem wellFormed_asked (hwf : o.WellFormed) (thingCode : String) :
    (o.step (.asked thingCode)).WellFormed := by
  rw [step, machineState]
  split
  · exact hwf
  next address haddress =>
    refine ⟨hwf.published, hwf.polls, ?_, Memo.sound_ask hwf.sound thingCode _ address⟩
    obtain ⟨_, -, -, hask⟩ | hask := Memo.ask_cases (resolveAt o.heap) o.machineStates thingCode
      (typeOf o.devices thingCode) address
    · rw [hask]
      exact hwf.cached
    · rw [hask]
      exact Dict.forall_setItem hwf.cached (hwf.published thingCode address haddress)

theorem wellFormed_fold (hwf : o.WellFormed) (thingCode : String) (payload : Members) :
    (o.fold thingCode payload).WellFormed := by
  have hmakes := Makes.fold thingCode payload o
  rw [fold] at hmakes ⊢
  split at hmakes
  · exact hwf
  next updated _ =>
    exact hmakes.wellFormed hwf (hwf.published.setItem thingCode updated)
      (hwf.polls_append [updated])

theorem wellFormed_step (hwf : o.WellFormed) (action : Action) : (o.step action).WellFormed := by
  cases action with
  | scanned latest => exact ⟨hwf.published, hwf.polls, hwf.cached, hwf.sound⟩
  | frame topic payload =>
      rw [step]
      split
      · exact hwf
      · exact wellFormed_fold hwf _ payload
  | patched thingCode instruction =>
      rw [step]
      split
      · exact wellFormed_fold hwf thingCode instruction
      · exact hwf
  | skipped => exact ⟨hwf.published, hwf.polls, hwf.cached, hwf.sound⟩
  | pollStarted poll =>
      have hgathered := hwf.published.filterKeys fun code => decide (code ∈ o.devices)
      exact ⟨hwf.published, Dict.forall_setItem hwf.polls hgathered, hwf.cached, hwf.sound⟩
  | pollAnswered poll thingCode state =>
      rw [step]
      split
      · exact hwf
      next gathered hgathered =>
        have hanswered := (hwf.polls poll gathered hgathered).setItem thingCode state
        exact Makes.wellFormed ⟨⟨[state], rfl⟩, rfl, rfl, fun _ _ h => .inl h⟩ hwf
          (hwf.published.append [state]) (Dict.forall_setItem (hwf.polls_append [state]) hanswered)
  | pollFinished poll =>
      rw [step]
      split
      · exact hwf
      next states hstates =>
        have hpublished := hwf.polls poll states hstates
        exact ⟨hpublished, Dict.forall_erase hwf.polls poll, hwf.cached, hwf.sound⟩
  | pollFailed poll =>
      exact ⟨hwf.published, Dict.forall_erase hwf.polls poll, hwf.cached, hwf.sound⟩
  | asked thingCode => exact wellFormed_asked hwf thingCode

/-- A call leaves the cache as transparent as it was. -/
theorem transparent_asked (hwf : o.WellFormed) (htransparent : o.Transparent)
    (thingCode : String) : (o.step (.asked thingCode)).Transparent := by
  have hagrees := (transparent_iff hwf).mp htransparent
  rw [transparent_iff (wellFormed_step hwf _), step, machineState]
  split
  · exact hagrees
  next address _ =>
    refine Memo.agrees_ask hagrees ?_ address
    intro context hcontext
    obtain ⟨device, hdevice, rfl⟩ := Option.map_eq_some_iff.mp hcontext
    rw [typeOf, hdevice, Option.map_some]

/-- From a transparent cache a step leads to a transparent one exactly if it meets its
condition. -/
theorem transparent_step (hwf : o.WellFormed) (htransparent : o.Transparent) (action : Action) :
    (o.step action).Transparent ↔ o.Keeps action := by
  cases action with
  | scanned latest => exact transparent_iff (wellFormed_step hwf _)
  | pollFinished poll =>
      have hstep := transparent_iff (wellFormed_step hwf (.pollFinished poll))
      rw [Keeps]
      cases hstates : o.polls.get? poll with
      | none =>
          have hsame : o.step (.pollFinished poll) = o := by rw [step, hstates]
          simp [hsame, htransparent]
      | some states =>
          have hpublished : o.step (.pollFinished poll) =
              { o with data := some states, polls := o.polls.erase poll } := by
            rw [step, hstates]
          rw [hstep, hpublished]
          simp only [Option.some.injEq, forall_eq']
          exact Iff.rfl
  | asked thingCode => exact iff_of_true (transparent_asked hwf htransparent thingCode) trivial
  | _ =>
      refine iff_of_true ?_ trivial
      exact (Makes.step o _ (by simp) (by simp) (by simp)).transparent hwf
        (wellFormed_step hwf _) htransparent

/-! ## Whole runs -/

/-- The cache is transparent in every state of a run exactly if every step of it meets its
condition. -/
theorem transparent_iff_kept (hwf : o.WellFormed) (htransparent : o.Transparent)
    (actions : List Action) :
    (∀ o' ∈ reached actions o, o'.Transparent) ↔ o.Kept actions := by
  induction actions generalizing o with
  | nil => simpa [reached, Kept] using htransparent
  | cons action rest ih =>
      rw [reached, List.forall_mem_cons, Kept, ← transparent_step hwf htransparent action]
      constructor
      · rintro ⟨-, hrest⟩
        have hnext : (o.step action).Transparent := by
          apply hrest
          cases rest <;> simp [reached]
        exact ⟨hnext, (ih (wellFormed_step hwf action) hnext).mp hrest⟩
      · rintro ⟨hnext, hrest⟩
        exact ⟨htransparent, (ih (wellFormed_step hwf action) hnext).mpr hrest⟩

theorem transparent_start : Transparent {} := fun _ _ h => nomatch h

/-- In every run of a coordinator. -/
theorem machineState_transparent_iff (actions : List Action) :
    (∀ o ∈ reached actions {}, o.Transparent) ↔ Kept actions {} :=
  transparent_iff_kept wellFormed_start transparent_start actions

/-- A run reaches where it ends. -/
theorem foldl_mem_reached (actions : List Action) (o : Objects) :
    actions.foldl step o ∈ reached actions o := by
  induction actions generalizing o with
  | nil => exact List.mem_singleton_self o
  | cons action rest ih => exact List.mem_cons_of_mem o (ih (o.step action))

def cabinet : Device where
  thingCode := "D"
  name := "dishwasher"
  deviceType := "0xE1"
  model := "760EY179"
  online := true

def switchedOff : DeviceState where
  thingCode := "D"
  attributes := Dict.ofList [("power", .str "0")]

/-- An appliance is polled, leaves, is asked about by an entity that is still there, and comes
back while its state is still published. -/
def relisted : List Action :=
  [.scanned (Dict.ofList [("D", cabinet)]), .pollStarted 0, .pollAnswered 0 "D" switchedOff,
    .pollFinished 0, .scanned Dict.empty, .asked "D", .scanned (Dict.ofList [("D", cabinet)])]

/-- The call answers that nothing is known, where the state says the appliance is off. -/
theorem not_transparent_relisted :
    ((relisted.foldl step {}).machineState "D").1 = none ∧
      ((relisted.foldl step {}).stateOf "D").bind (resolveMachineState "0xE1") =
        some "power_off" ∧
      ¬ ∀ o ∈ reached relisted {}, o.Transparent := by
  have hanswer : ((relisted.foldl step {}).machineState "D").1 = none := by decide +kernel
  have hresolved : ((relisted.foldl step {}).stateOf "D").bind (resolveMachineState "0xE1") =
      some "power_off" := by decide +kernel
  have hlisted : (relisted.foldl step {}).devices.get? "D" = some cabinet := by decide +kernel
  refine ⟨hanswer, hresolved, fun hall => ?_⟩
  have hequal := hall _ (foldl_mem_reached relisted {}) "D" cabinet hlisted
  rw [hanswer] at hequal
  exact absurd (hequal.trans hresolved) nofun

/-! ## Against the worlds -/

/-- The states that a dictionary of addresses stands for. -/
def Holds (heap : List DeviceState) (addresses : Dict String ℕ) (states : Dict String DeviceState) :
    Prop :=
  ∀ thingCode, states.get? thingCode = (addresses.get? thingCode).bind (heap[·]?)

namespace Holds

variable {heap : List DeviceState} {addresses : Dict String ℕ} {states : Dict String DeviceState}

/-- Objects made later change nothing a dictionary of older ones stands for. -/
theorem append (h : Holds heap addresses states) (hvalid : Valid heap addresses)
    (made : List DeviceState) : Holds (heap ++ made) addresses states := by
  intro thingCode
  rw [h thingCode]
  cases haddress : addresses.get? thingCode with
  | none => rfl
  | some address =>
      have hold : (heap ++ made)[address]? = heap[address]? :=
        List.getElem?_append_left (hvalid thingCode address haddress)
      rw [Option.bind_some, Option.bind_some, hold]

/-- Making an object and putting it in place is putting its state in place. -/
theorem setItem (h : Holds heap addresses states) (hvalid : Valid heap addresses)
    (thingCode : String) (state : DeviceState) :
    Holds (heap ++ [state]) (addresses.setItem thingCode heap.length)
      (states.setItem thingCode state) := by
  intro other
  rw [Dict.get?_setItem, Dict.get?_setItem]
  split
  · rw [Option.bind_some, List.getElem?_concat_length]
  · exact h.append hvalid [state] other

theorem filterKeys (h : Holds heap addresses states) (p : String → Bool) :
    Holds heap (addresses.filterKeys p) (states.filterKeys p) := by
  intro thingCode
  rw [Dict.get?_filterKeys, Dict.get?_filterKeys]
  split
  · exact h thingCode
  · rfl

end Holds

/-- The same poll by poll. -/
def AllHold (heap : List DeviceState) (polls : Dict ℕ (Dict String ℕ))
    (polls' : Dict ℕ (Dict String DeviceState)) : Prop :=
  ∀ poll, Option.Rel (Holds heap) (polls.get? poll) (polls'.get? poll)

namespace AllHold

variable {heap : List DeviceState} {polls : Dict ℕ (Dict String ℕ)}
  {polls' : Dict ℕ (Dict String DeviceState)}

/-- A poll is in flight on both sides or on neither. -/
theorem get?_cases (h : AllHold heap polls polls') (poll : ℕ) :
    polls.get? poll = none ∧ polls'.get? poll = none ∨
      ∃ addresses states, polls.get? poll = some addresses ∧ polls'.get? poll = some states ∧
        Holds heap addresses states := by
  have hpoll := h poll
  cases haddresses : polls.get? poll with
  | none =>
      rw [haddresses] at hpoll
      cases hstates : polls'.get? poll with
      | none => exact .inl ⟨rfl, rfl⟩
      | some states =>
          rw [hstates] at hpoll
          cases hpoll
  | some addresses =>
      rw [haddresses] at hpoll
      cases hstates : polls'.get? poll with
      | none =>
          rw [hstates] at hpoll
          cases hpoll
      | some states =>
          rw [hstates] at hpoll
          cases hpoll with
          | some hholds => exact .inr ⟨addresses, states, rfl, rfl, hholds⟩

theorem append (h : AllHold heap polls polls')
    (hvalid : ∀ poll states, polls.get? poll = some states → Valid heap states)
    (made : List DeviceState) : AllHold (heap ++ made) polls polls' := by
  intro poll
  obtain ⟨haddresses, hstates⟩ | ⟨addresses, states, haddresses, hstates, hholds⟩ :=
    h.get?_cases poll
  · rw [haddresses, hstates]
    exact .none
  · rw [haddresses, hstates]
    exact .some (hholds.append (hvalid poll addresses haddresses) made)

theorem setItem (h : AllHold heap polls polls') {addresses : Dict String ℕ}
    {states : Dict String DeviceState} (hholds : Holds heap addresses states) (poll : ℕ) :
    AllHold heap (polls.setItem poll addresses) (polls'.setItem poll states) := by
  intro other
  rw [Dict.get?_setItem, Dict.get?_setItem]
  split
  · exact .some hholds
  · exact h other

theorem erase (h : AllHold heap polls polls') (poll : ℕ) :
    AllHold heap (polls.erase poll) (polls'.erase poll) := by
  intro other
  rw [Dict.get?_erase, Dict.get?_erase]
  split
  · exact .none
  · exact h other

end AllHold

/-- The world, and the states the polls in flight have gathered, that the objects stand for. -/
structure Represents (o : Objects) (w : World) (polls : Dict ℕ (Dict String DeviceState)) :
    Prop where
  devices : w.devices = o.devices
  states : Holds o.heap o.published w.states
  polls : AllHold o.heap o.polls polls

/-- The same step on a world. -/
def worldStep (w : World) (polls : Dict ℕ (Dict String DeviceState)) :
    Action → World × Dict ℕ (Dict String DeviceState)
  | .scanned latest => (w.setDevices latest, polls)
  | .frame topic payload => (handlePush topic payload w, polls)
  | .patched thingCode instruction => (patchState thingCode instruction w, polls)
  | .skipped => (w.setData w.states, polls)
  | .pollStarted poll => (w, polls.setItem poll (pollStart w))
  | .pollAnswered poll thingCode state => match polls.get? poll with
      | none => (w, polls)
      | some states => (w, polls.setItem poll (states.setItem thingCode state))
  | .pollFinished poll => match polls.get? poll with
      | none => (w, polls)
      | some states => (w.setData states, polls.erase poll)
  | .pollFailed poll => (w, polls.erase poll)
  | .asked _ => (w, polls)

theorem patchState_eq (thingCode : String) (instruction : Members) (w : World) :
    patchState thingCode instruction w = match w.states.get? thingCode with
      | none => w
      | some current =>
          if allTexts instruction then
            foldInto thingCode instruction (current.applyPush instruction) w
          else w := rfl

/-- The patch folds texts only, and into one appliance. -/
theorem get?_patchState (thingCode : String) (instruction : Members) (w : World)
    (other : String) :
    (patchState thingCode instruction w).states.get? other =
      if allTexts instruction ∧ other = thingCode then
        (w.states.get? other).map (DeviceState.applyPush · instruction)
      else w.states.get? other := by
  rw [patchState_eq]
  cases hcurrent : w.states.get? thingCode with
  | none =>
      dsimp only
      split
      next hboth => rw [hboth.2, hcurrent, Option.map_none]
      next => rfl
  | some current =>
      by_cases htexts : allTexts instruction
      · have hfolded : (foldInto thingCode instruction (current.applyPush instruction) w).states =
            w.states.setItem thingCode (current.applyPush instruction) := rfl
        simp only [htexts, if_true, true_and, hfolded, Dict.get?_setItem]
        split
        next heq => rw [heq, hcurrent, Option.map_some]
        next => rfl
      · simp [htexts]

variable {w : World} {polls : Dict ℕ (Dict String DeviceState)}

/-- Folding a payload is what it is on the states. -/
theorem Represents.fold (h : o.Represents w polls) (hwf : o.WellFormed) {w' : World}
    {thingCode : String} {payload : Members} (hdevices : w'.devices = w.devices)
    (hstates : ∀ other, w'.states.get? other =
      if other = thingCode then (w.states.get? other).map (DeviceState.applyPush · payload)
      else w.states.get? other) :
    (o.fold thingCode payload).Represents w' polls := by
  have hstate : w.states.get? thingCode = o.stateOf thingCode := h.states thingCode
  rw [Objects.fold]
  split
  next hsame =>
    refine ⟨hdevices.trans h.devices, fun other => ?_, h.polls⟩
    rw [hstates other, ← h.states other]
    split
    next heq =>
      rw [heq, hstate]
      cases hcurrent : o.stateOf thingCode with
      | none => rfl
      | some current =>
          rw [hcurrent, Option.bind_some] at hsame
          rw [Option.map_some, DeviceState.applyPush, hsame, Option.getD_none]
    next => rfl
  next updated hupdated =>
    obtain ⟨current, hcurrent, happlied⟩ := Option.bind_eq_some_iff.mp hupdated
    refine ⟨hdevices.trans h.devices, fun other => ?_, h.polls.append hwf.polls [updated]⟩
    have hplaced := h.states.setItem hwf.published thingCode updated other
    rw [hstates other]
    refine Eq.trans ?_ hplaced
    rw [Dict.get?_setItem]
    split
    next heq =>
      rw [heq, hstate, hcurrent, Option.map_some, DeviceState.applyPush, happlied,
        Option.getD_some]
    next => rfl

/-- Each step does to the objects what it does to the worlds they stand for. -/
theorem represents_step (h : o.Represents w polls) (hwf : o.WellFormed) (action : Action) :
    (o.step action).Represents (worldStep w polls action).1 (worldStep w polls action).2 := by
  cases action with
  | scanned latest => exact ⟨rfl, h.states, h.polls⟩
  | frame topic payload =>
      have hdevices := (unpolled_handlePush topic payload w).devices
      rw [step, worldStep]
      cases htopic : thingCodeFromTopic topic with
      | none =>
          refine ⟨hdevices.trans h.devices, fun other => ?_, h.polls⟩
          rw [get?_handlePush, htopic, if_neg (by simp)]
          exact h.states other
      | some thingCode =>
          refine h.fold hwf hdevices fun other => ?_
          rw [get?_handlePush, htopic]
          simp only [Option.some.injEq, eq_comm]
  | patched thingCode instruction =>
      have hdevices := (unpolled_patchState thingCode instruction w).devices
      rw [step, worldStep]
      by_cases htexts : allTexts instruction
      · rw [if_pos htexts]
        refine h.fold hwf hdevices fun other => ?_
        rw [get?_patchState]
        simp only [htexts, true_and]
      · rw [if_neg htexts]
        refine ⟨hdevices.trans h.devices, fun other => ?_, h.polls⟩
        rw [get?_patchState, if_neg fun hboth => htexts hboth.1]
        exact h.states other
  | skipped => exact ⟨h.devices, h.states, h.polls⟩
  | pollStarted poll =>
      refine ⟨h.devices, h.states, h.polls.setItem ?_ poll⟩
      rw [pollStart, h.devices]
      exact h.states.filterKeys _
  | pollAnswered poll thingCode state =>
      rw [step, worldStep]
      obtain ⟨haddresses, hstates⟩ | ⟨addresses, states, haddresses, hstates, hholds⟩ :=
        h.polls.get?_cases poll
      · rw [haddresses, hstates]
        exact h
      · rw [haddresses, hstates]
        have hvalid := hwf.polls poll addresses haddresses
        exact ⟨h.devices, h.states.append hwf.published [state],
          (h.polls.append hwf.polls [state]).setItem (hholds.setItem hvalid thingCode state) poll⟩
  | pollFinished poll =>
      rw [step, worldStep]
      obtain ⟨haddresses, hstates⟩ | ⟨addresses, states, haddresses, hstates, hholds⟩ :=
        h.polls.get?_cases poll
      · rw [haddresses, hstates]
        exact h
      · rw [haddresses, hstates]
        exact ⟨h.devices, hholds, h.polls.erase poll⟩
  | pollFailed poll => exact ⟨h.devices, h.states, h.polls.erase poll⟩
  | asked thingCode =>
      rw [step, machineState]
      split <;> exact ⟨h.devices, h.states, h.polls⟩

/-- Whole runs. -/
theorem represents_run (h : o.Represents w polls) (hwf : o.WellFormed) (actions : List Action) :
    let reachedWorld := actions.foldl (fun v action => worldStep v.1 v.2 action) (w, polls)
    (actions.foldl step o).Represents reachedWorld.1 reachedWorld.2 := by
  induction actions generalizing o w polls with
  | nil => exact h
  | cons action rest ih => exact ih (represents_step h hwf action) (wellFormed_step hwf action)

/-- In a transparent state a call answers what the world resolves. -/
theorem machineState_eq (h : o.Represents w polls) (htransparent : o.Transparent)
    {thingCode : String} {device : Device} (hdevice : o.devices.get? thingCode = some device) :
    (o.machineState thingCode).1 = Coordinator.machineState w thingCode := by
  have hstate : o.stateOf thingCode = w.states.get? thingCode := (h.states thingCode).symm
  rw [htransparent thingCode device hdevice, hstate, Coordinator.machineState, h.devices, hdevice]
  cases w.states.get? thingCode <;> rfl

end Objects

end Holabrain
