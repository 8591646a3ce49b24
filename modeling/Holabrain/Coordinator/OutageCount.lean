import Holabrain.Core.Trace
import Holabrain.Coordinator.Coverage

/-!
# Counting outages

A poll that stops at an error of the whole account counts every appliance as failed, those it
has already read among them.  Such a cycle counts as one without the cloud, and after a few of
them what was read is not even published.
-/

namespace Holabrain

/-- An error that says nothing about one appliance: the poll stops at it. -/
def DollinError.stopsPoll (err : DollinError) : Bool :=
  err.isSessionTakeover || err.isTokenExpired || err.isRateLimit

/-- The credentials are no longer taken; a session that is gone does not tell. -/
def DollinError.refusesLogin (err : DollinError) : Bool :=
  err.isAuthError && !(err.isSessionTakeover || err.isTokenExpired)

/-- What a status request has read. -/
def Event.reading : Event → Option (String × DeviceState)
  | .querySettled thingCode (some state) => some (thingCode, state)
  | _ => none

/-- The appliances that a poll goes through. -/
def Event.listed : Event → List String
  | .pollStarted listed _ => listed
  | _ => []

namespace Coordinator

def readings (log : List Event) : List (String × DeviceState) := log.filterMap Event.reading

def listedIn (log : List Event) : List String := log.flatMap Event.listed

/-- The exchange ends the poll of the remaining appliances. -/
def stops : Exchange ClientOp ClientAnswer → Bool
  | ⟨.call .., .error (.dollin err)⟩ => err.stopsPoll
  | _ => false

def Stopped (trace : List (Exchange ClientOp ClientAnswer)) : Prop :=
  ∃ exchange ∈ trace, stops exchange = true

/-- The exchange makes the poll ask for new credentials. -/
def refuses : Exchange ClientOp ClientAnswer → Bool
  | ⟨.call .., .error (.dollin err)⟩ => err.refusesLogin
  | _ => false

def Refused (trace : List (Exchange ClientOp ClientAnswer)) : Prop :=
  ∃ exchange ∈ trace, refuses exchange = true

/-- Anything but an update; only updates count failed polls. -/
structure Uncounted (w w' : World) : Prop extends Between w w' where
  failedPolls : w'.failedPolls = w.failedPolls

/-- Requests are answered, or fail with an error of the client, and anything but an update
comes in between. -/
def uncounted : Environment World ClientOp ClientAnswer := fun w op answer w' =>
  Uncounted w w' ∧ ∀ exn, ClientAnswer.raised op answer = some exn → ∃ err, exn = .dollin err

/-! ## What is read and what is listed -/

section Log

variable {log new : List Event}

theorem readings_append : readings (log ++ new) = readings log ++ readings new :=
  List.filterMap_append

theorem listedIn_append : listedIn (log ++ new) = listedIn log ++ listedIn new :=
  List.flatMap_append

theorem readings_of_unread (hnew : ∀ event ∈ new, event.isReading = false) : readings new = [] := by
  rw [readings, List.filterMap_eq_nil_iff]
  intro event hevent
  have hunread := hnew event hevent
  cases event with
  | querySettled thingCode answer =>
      cases answer with
      | none => rfl
      | some state => cases hunread
  | _ => rfl

theorem listedIn_of_unread (hnew : ∀ event ∈ new, event.isReading = false) : listedIn new = [] := by
  rw [listedIn, List.flatMap_eq_nil_iff]
  intro event hevent
  have hunread := hnew event hevent
  cases event with
  | pollStarted listed copy => cases hunread
  | _ => rfl

theorem stopped_append {trace : List (Exchange ClientOp ClientAnswer)}
    {exchange : Exchange ClientOp ClientAnswer} :
    Stopped (trace ++ [exchange]) ↔ Stopped trace ∨ stops exchange = true := by
  simp only [Stopped, List.mem_append, List.mem_singleton, or_and_right, exists_or,
    exists_eq_left]

theorem refused_append {trace : List (Exchange ClientOp ClientAnswer)}
    {exchange : Exchange ClientOp ClientAnswer} :
    Refused (trace ++ [exchange]) ↔ Refused trace ∨ refuses exchange = true := by
  simp only [Refused, List.mem_append, List.mem_singleton, or_and_right, exists_or,
    exists_eq_left]

end Log

namespace Uncounted

variable {w w' w'' : World}

theorem refl (w : World) : Uncounted w w := ⟨.refl w, rfl⟩

theorem trans (h : Uncounted w w') (h' : Uncounted w' w'') : Uncounted w w'' :=
  ⟨h.toBetween.trans h'.toBetween, h'.failedPolls.trans h.failedPolls⟩

end Uncounted

theorem Uncounted.note (w : World) {event : Event} (hevent : event.isReading = false) :
    Uncounted w (w.note event) := ⟨.note w hevent, rfl⟩

theorem failedPolls_absorb (states : List (String × DeviceState)) (w : World) :
    (absorbStatusFields states w).failedPolls = w.failedPolls := by
  obtain ⟨_, _, _, habsorbed⟩ := onlyProfiles_absorb states w
  rw [habsorbed]

theorem OnlyQueued.failedPolls {w w' : World} (h : OnlyQueued w w') :
    w'.failedPolls = w.failedPolls := by
  obtain ⟨_, _, _, _, rfl, _⟩ := h
  rfl

theorem failedPolls_handlePush (topic : String) (payload : Members) (w : World) :
    (handlePush topic payload w).failedPolls = w.failedPolls := by
  rw [handlePush]
  split
  · rfl
  split
  · rfl
  rw [applyFrame, (onlyQueued_fetchConsumptionOnce _).failedPolls]
  split
  · rfl
  · rw [(onlyQueued_noteSnapshotTrigger _ _ _ _).failedPolls]
    exact failedPolls_absorb _ _

/-- Frames, patches and moments are among what may come in between. -/
theorem LiveStep.uncounted {w w' : World} (h : LiveStep w w') : Uncounted w w' := by
  refine ⟨h.between, ?_⟩
  cases h with
  | frame topic payload => exact failedPolls_handlePush topic payload w
  | patch thingCode instruction =>
      rw [patchState]
      split
      · rfl
      · split <;> rfl
  | time now => rfl

/-! ## The loop -/

/-- How a status request ends, and the exchange it was answered by. -/
inductive Settles : Except Exn DeviceState → Exchange ClientOp ClientAnswer → Prop
  | read {state : DeviceState} {exchange : Exchange ClientOp ClientAnswer}
      (hgoes : stops exchange = false) (haccepted : refuses exchange = false) :
      Settles (.ok state) exchange
  | failed {err : DollinError} {exchange : Exchange ClientOp ClientAnswer}
      (hstops : stops exchange = err.stopsPoll) (hrefuses : refuses exchange = err.refusesLogin) :
      Settles (.error (.dollin err)) exchange

section Loop

variable {w w₀ : World} {trace : List (Exchange ClientOp ClientAnswer)} {listed rest : List String}
  {copy states : Dict String DeviceState} {errors : ℕ} {thingCode : String}

theorem wpt_asyncGetState
    {post : Except Exn DeviceState → List (Exchange ClientOp ClientAnswer) → World → Prop}
    (h : ∀ answer exchange w', Uncounted w w' → Settles answer exchange →
      post answer (trace ++ [exchange]) w') :
    Coro.wpt uncounted (Client.asyncGetState thingCode) post trace w := by
  have hcall : ∀ scheme path payload, Coro.wpt uncounted (Client.call scheme path payload)
      (fun result trace' w' => post (result.bind (Client.readState w.wiring thingCode)) trace' w')
      trace w := by
    intro scheme path payload answer w' hanswered
    obtain ⟨hmeanwhile, hraised⟩ := hanswered
    apply h _ _ _ hmeanwhile
    cases answer with
    | error exn =>
        obtain ⟨err, rfl⟩ := hraised exn rfl
        exact .failed rfl rfl
    | ok data =>
        simp only [Except.bind, Client.readState]
        split
        · exact .read rfl rfl
        · exact .failed rfl rfl
  simp only [Client.asyncGetState, Client.queryCall, Coro.wpt_bind, Coro.wpt_gets, Coro.wpt_ite,
    Coro.wpt_ofExcept, id_eq]
  split
  · apply Coro.wpt_mono _ (hcall _ _ _)
    intro result trace' w' hpost
    cases result <;> exact hpost
  · apply Coro.wpt_mono _ (hcall _ _ _)
    intro result trace' w' hpost
    cases result <;> exact hpost

theorem wpt_queryState
    {post : Except Exn (Except Exn DeviceState) → List (Exchange ClientOp ClientAnswer) →
      World → Prop}
    (h : ∀ answer exchange w', Uncounted (w.note (.querySent thingCode)) w' →
      Settles answer exchange →
        post (.ok answer) (trace ++ [exchange])
          (w'.note (.querySettled thingCode answer.toOption))) :
    Coro.wpt uncounted (queryState thingCode) post trace w := by
  simp only [queryState, Coro.wpt_bind, Coro.wpt_modify, Coro.wpt_attempt, Coro.wpt_pure]
  exact wpt_asyncGetState h

/-- A poll that began in `w₀` has gathered what it has read, and every other request that is
settled has failed. -/
structure Counting (w₀ : World) (listed : List String) (copy : Dict String DeviceState)
    (rest : List String) (states : Dict String DeviceState) (errors : ℕ)
    (trace : List (Exchange ClientOp ClientAnswer)) (w : World) : Prop where
  failedPolls : w.failedPolls = w₀.failedPolls
  published : ∀ code, code ∈ w.states ↔ code ∈ w₀.states
  log : ∃ new, w.log = w₀.log ++ new ∧ listedIn new = listed ∧
    states = copy.update (readings new) ∧
    errors + (readings new).length + rest.length = listed.length ∧
    ((readings new).map Prod.fst ++ rest).Nodup
  unstopped : ¬ Stopped trace
  unrefused : ¬ Refused trace

/-- How the loop ends: it goes through, it stops, or the credentials are refused. -/
inductive LoopEnd (w₀ : World) (listed : List String) (copy : Dict String DeviceState) :
    Except Exn (Dict String DeviceState × ℕ) → List (Exchange ClientOp ClientAnswer) → World → Prop
  | through {states : Dict String DeviceState} {errors : ℕ}
      {trace : List (Exchange ClientOp ClientAnswer)} {w : World}
      (h : Counting w₀ listed copy [] states errors trace w) :
      LoopEnd w₀ listed copy (.ok (states, errors)) trace w
  | stopped {rest : List String} {states : Dict String DeviceState} {errors : ℕ}
      {trace trace' : List (Exchange ClientOp ClientAnswer)} {w : World}
      (h : Counting w₀ listed copy rest states errors trace w) (hstopped : Stopped trace')
      (hunrefused : ¬ Refused trace') :
      LoopEnd w₀ listed copy (.ok (states, w.devices.keys.length)) trace' w
  | refused {message : String} {trace : List (Exchange ClientOp ClientAnswer)} {w : World}
      (hcount : w.failedPolls = w₀.failedPolls) (hrefused : Refused trace) :
      LoopEnd w₀ listed copy (.error (.configEntryAuthFailed message)) trace w

/-- A request is sent, and something comes in between before its answer does. -/
theorem Counting.uncounted {w' : World} (h : Counting w₀ listed copy rest states errors trace w)
    (hw : Uncounted w w') : Counting w₀ listed copy rest states errors trace w' := by
  obtain ⟨new, hlog, hlisted, hstates, hcount, hnodup⟩ := h.log
  obtain ⟨unread, hlog', hunread⟩ := hw.log
  refine ⟨hw.failedPolls.trans h.failedPolls,
    fun code => (hw.published code).trans (h.published code), ⟨new ++ unread, ?_, ?_⟩,
    h.unstopped, h.unrefused⟩
  · rw [hlog', hlog, List.append_assoc]
  · rw [listedIn_append, listedIn_of_unread hunread, List.append_nil, readings_append,
      readings_of_unread hunread, List.append_nil]
    exact ⟨hlisted, hstates, hcount, hnodup⟩

theorem Counting.unrefused_append {exchange : Exchange ClientOp ClientAnswer}
    (h : Counting w₀ listed copy rest states errors trace w)
    (haccepted : refuses exchange = false) : ¬ Refused (trace ++ [exchange]) := by
  rw [refused_append, haccepted]
  exact fun hrefused => hrefused.elim h.unrefused Bool.false_ne_true

/-- The request of an appliance is answered with a state. -/
theorem Counting.read {state : DeviceState} {exchange : Exchange ClientOp ClientAnswer}
    (h : Counting w₀ listed copy (thingCode :: rest) states errors trace w)
    (hgoes : stops exchange = false) (haccepted : refuses exchange = false) :
    Counting w₀ listed copy rest (states.setItem thingCode state) errors (trace ++ [exchange])
      (w.note (.querySettled thingCode (some state))) := by
  obtain ⟨new, hlog, hlisted, hstates, hcount, hnodup⟩ := h.log
  have hreading : readings [.querySettled thingCode (some state)] = [(thingCode, state)] := rfl
  refine ⟨h.failedPolls, h.published, ⟨new ++ [.querySettled thingCode (some state)], ?_⟩, ?_,
    h.unrefused_append haccepted⟩
  · rw [World.note_log, hlog, List.append_assoc, listedIn_append, readings_append, hreading]
    refine ⟨rfl, ?_, ?_, ?_, ?_⟩
    · rw [hlisted]
      exact List.append_nil listed
    · rw [hstates, Dict.update_append]
      rfl
    · rw [← hcount, List.length_append, List.length_singleton, List.length_cons]
      omega
    · rw [List.map_append, List.append_assoc]
      exact hnodup
  · rw [stopped_append, hgoes]
    exact fun hstopped => hstopped.elim h.unstopped Bool.false_ne_true

/-- The request of an appliance fails, and the loop goes on. -/
theorem Counting.failed {exchange : Exchange ClientOp ClientAnswer}
    (h : Counting w₀ listed copy (thingCode :: rest) states errors trace w)
    (hgoes : stops exchange = false) (haccepted : refuses exchange = false) :
    Counting w₀ listed copy rest states (errors + 1) (trace ++ [exchange]) w := by
  obtain ⟨new, hlog, hlisted, hstates, hcount, hnodup⟩ := h.log
  refine ⟨h.failedPolls, h.published, ⟨new, hlog, hlisted, hstates, ?_, ?_⟩, ?_,
    h.unrefused_append haccepted⟩
  · rw [← hcount, List.length_cons]
    omega
  · exact hnodup.sublist ((List.sublist_cons_self thingCode rest).append_left _)
  · rw [stopped_append, hgoes]
    exact fun hstopped => hstopped.elim h.unstopped Bool.false_ne_true

/-- One status request after the other, to the end of the loop. -/
theorem wpt_pollLoop (h : Counting w₀ listed copy rest states errors trace w) :
    Coro.wpt uncounted (pollLoop rest states errors) (LoopEnd w₀ listed copy) trace w := by
  induction rest generalizing states errors trace w with
  | nil => exact .through h
  | cons thingCode rest ih =>
      rw [pollLoop, Coro.wpt_bind]
      apply wpt_queryState
      intro answer exchange w' hmeanwhile hsettles
      have hsent := (h.uncounted (.note w rfl)).uncounted hmeanwhile
      cases hsettles with
      | read hgoes haccepted => exact ih (hsent.read hgoes haccepted)
      | @failed err _ hstops hrefuses =>
          have hnoted : Uncounted w' (w'.note (.querySettled thingCode none)) := .note w' rfl
          have hsettled := hsent.uncounted hnoted
          have hends : err.stopsPoll = true → err.refusesLogin = false → LoopEnd w₀ listed copy
              (.ok (states, w'.devices.keys.length)) (trace ++ [exchange])
              (w'.note (.querySettled thingCode none)) := fun hstop haccepted =>
            .stopped hsettled (stopped_append.mpr (.inr (hstops.trans hstop)))
              (hsettled.unrefused_append (hrefuses.trans haccepted))
          simp only [Coro.wpt_ite, Coro.wpt_bind, Coro.wpt_gets, Coro.wpt_pure, Coro.wpt_throw]
          split
          next hsession =>
            exact hends (by simp [DollinError.stopsPoll, hsession])
              (by simpa [DollinError.refusesLogin, or_iff_not_imp_left] using fun _ => hsession)
          split
          next hsession hauth =>
            refine .refused hsettled.failedPolls ⟨exchange, List.mem_concat_self, ?_⟩
            rw [hrefuses, DollinError.refusesLogin]
            simpa [hauth] using hsession
          split
          next hauth hrate =>
            exact hends (by simp [DollinError.stopsPoll, hrate])
              (by simp [DollinError.refusesLogin, hauth])
          next hsession hauth hrate =>
            apply ih
            apply hsettled.failed
            · rw [hstops, DollinError.stopsPoll]
              simpa [not_or] using And.intro hsession hrate
            · rw [hrefuses, DollinError.refusesLogin, eq_false_of_ne_true hauth, Bool.false_and]

end Loop

/-! ## The cycle -/

/-- What a poll makes of its count: the result, and the failed polls afterwards. -/
inductive Finished (failedPolls : ℕ) (states : Dict String DeviceState) (errors size : ℕ) :
    Except Exn (Dict String DeviceState) → ℕ → Prop
  | raised (hfails : errors ≠ 0 ∧ size ≤ errors)
      (hraises : pollFailureGrace < failedPolls + 1 ∨ states.isEmpty = true) :
      Finished failedPolls states errors size (.error (updateFailed (failedPolls + 1)))
        (failedPolls + 1)
  | tolerated (hfails : errors ≠ 0 ∧ size ≤ errors) :
      Finished failedPolls states errors size (.ok states) (failedPolls + 1)
  | reset (hreads : ¬ (errors ≠ 0 ∧ size ≤ errors)) :
      Finished failedPolls states errors size (.ok states) 0

/-- The counter is reset exactly by a poll that does not count as failed. -/
theorem Finished.eq_zero_iff {failedPolls errors size count : ℕ}
    {states : Dict String DeviceState} {result : Except Exn (Dict String DeviceState)}
    (h : Finished failedPolls states errors size result count) :
    count = 0 ↔ ¬ (errors ≠ 0 ∧ size ≤ errors) := by
  cases h with
  | raised hfails _ => exact iff_of_false (Nat.succ_ne_zero _) (not_not_intro hfails)
  | tolerated hfails => exact iff_of_false (Nat.succ_ne_zero _) (not_not_intro hfails)
  | reset hreads => exact iff_of_true rfl hreads

/-- How a polled cycle ends. -/
inductive CycleEnd (w : World) : Except Exn (Dict String DeviceState) →
    List (Exchange ClientOp ClientAnswer) → World → Prop
  | refused {message : String} {trace : List (Exchange ClientOp ClientAnswer)} {w' : World}
      (hcount : w'.failedPolls = w.failedPolls) (hrefused : Refused trace) :
      CycleEnd w (.error (.configEntryAuthFailed message)) trace w'
  | finished {copy : Dict String DeviceState} {errors : ℕ}
      {result : Except Exn (Dict String DeviceState)}
      {trace : List (Exchange ClientOp ClientAnswer)} {w' : World}
      (haccepted : ¬ Refused trace)
      (hpublished : ∀ code, code ∈ w'.states ↔ code ∈ w.states)
      (hcopy : ∀ code, code ∈ copy ↔ code ∈ w.states ∧ code ∈ listedIn (since w w'))
      (honce : ((readings (since w w')).map Prod.fst).Nodup)
      (hthrough : ¬ Stopped trace →
        errors + (readings (since w w')).length = (listedIn (since w w')).length)
      (hstopped : Stopped trace → errors = w'.devices.keys.length)
      (hfinished : Finished w.failedPolls (copy.update (readings (since w w'))) errors
        w'.devices.keys.length result w'.failedPolls) :
      CycleEnd w result trace w'

section Cycle

variable {w : World} {trace : List (Exchange ClientOp ClientAnswer)}

theorem wpt_finishPoll (states : Dict String DeviceState) (errors : ℕ) :
    Coro.wpt uncounted (finishPoll states errors) (fun result trace' w' =>
      trace' = trace ∧ Unpolled w w' ∧
        Finished w.failedPolls states errors w'.devices.keys.length result w'.failedPolls)
      trace w := by
  have hcounted : ∀ failedPolls, Unpolled w { w with failedPolls := failedPolls } :=
    fun _ => .of_eq rfl rfl rfl
  have habsorbed : ∀ w', Unpolled w' (absorbStatusFields states.items w') :=
    fun w' => (onlyProfiles_absorb states.items w').unpolled
  simp only [finishPoll, Coro.wpt_bind, Coro.wpt_gets, Coro.wpt_ite, Coro.wpt_modify,
    Coro.wpt_throw, Coro.wpt_pure, id_eq]
  split
  next hfails =>
    split
    next hraises => exact ⟨trivial, hcounted _, .raised hfails hraises⟩
    next =>
      have hkept := (hcounted (w.failedPolls + 1)).trans (habsorbed _)
      refine ⟨trivial, hkept, ?_⟩
      rw [failedPolls_absorb, hkept.devices]
      exact .tolerated hfails
  next hreads =>
    have hreset := (hcounted 0).trans ((unpolled_fetchConsumptionOnce _).trans (habsorbed _))
    refine ⟨trivial, hreset, ?_⟩
    rw [failedPolls_absorb, (onlyQueued_fetchConsumptionOnce _).failedPolls, hreset.devices]
    exact .reset hreads

theorem wpt_asyncMaybeExtendToken (explicit : Bool) (hunstopped : ¬ Stopped trace)
    (hunrefused : ¬ Refused trace) :
    Coro.wpt uncounted (asyncMaybeExtendToken explicit) (fun result trace' w' =>
      result = .ok () ∧ (¬ Stopped trace' ∧ ¬ Refused trace') ∧ Uncounted w w') trace w := by
  simp only [asyncMaybeExtendToken, Client.extendToken, Coro.wpt_bind, Coro.wpt_gets,
    Coro.wpt_ite, Coro.wpt_pure, Coro.wpt_modify, Coro.wpt_attempt, Coro.wpt_perform,
    Coro.wpt_ofExcept]
  split
  · exact ⟨trivial, ⟨hunstopped, hunrefused⟩, .refl w⟩
  split
  · exact ⟨trivial, ⟨hunstopped, hunrefused⟩, .refl w⟩
  intro answer w' hanswered
  obtain ⟨hmeanwhile, hraised⟩ := hanswered
  have hgone : ¬ Stopped (trace ++ [⟨.extendToken, answer⟩]) ∧
      ¬ Refused (trace ++ [⟨.extendToken, answer⟩]) := by
    rw [stopped_append, refused_append]
    exact ⟨fun hstopped => hstopped.elim hunstopped Bool.false_ne_true,
      fun hrefused => hrefused.elim hunrefused Bool.false_ne_true⟩
  have hextended : Uncounted w w' := Uncounted.trans (.note w rfl) hmeanwhile
  cases answer with
  | ok token => exact ⟨rfl, hgone, hextended⟩
  | error exn =>
      obtain ⟨err, rfl⟩ := hraised exn rfl
      exact ⟨rfl, hgone, hextended⟩

/-- Where the poll copies the published data. -/
theorem Uncounted.counting {w₁ : World} (h : Uncounted w w₁)
    (hgone : ¬ Stopped trace ∧ ¬ Refused trace) :
    Counting w w₁.devices.keys (pollStart w₁) w₁.devices.keys (pollStart w₁) 0 trace
      (w₁.note (.pollStarted w₁.devices.keys (pollStart w₁))) := by
  obtain ⟨unread, hlog, hunread⟩ := h.log
  refine ⟨h.failedPolls, h.published,
    ⟨unread ++ [.pollStarted w₁.devices.keys (pollStart w₁)], ?_⟩, hgone.1, hgone.2⟩
  have hreadings : readings (unread ++ [.pollStarted w₁.devices.keys (pollStart w₁)]) = [] := by
    rw [readings_append, readings_of_unread hunread]
    rfl
  rw [World.note_log, hlog, List.append_assoc, hreadings, listedIn_append,
    listedIn_of_unread hunread]
  refine ⟨rfl, ?_, rfl, ?_, w₁.devices.nodupKeys⟩
  · exact List.append_nil _
  · rw [List.length_nil, Nat.zero_add]

/-- What follows the loop keeps what it has counted. -/
theorem Counting.finished {w₂ w' : World} {listed rest : List String}
    {copy states : Dict String DeviceState} {gone errors : ℕ}
    {trace' : List (Exchange ClientOp ClientAnswer)}
    {result : Except Exn (Dict String DeviceState)}
    (h : Counting w listed copy rest states gone trace w₂)
    (hcopy : ∀ code, code ∈ copy ↔ code ∈ w.states ∧ code ∈ listed)
    (haccepted : ¬ Refused trace') (hthrough : ¬ Stopped trace' → rest = [] ∧ errors = gone)
    (hstopped : Stopped trace' → errors = w₂.devices.keys.length)
    (hfinish : Unpolled w₂ w')
    (hfinished : Finished w₂.failedPolls states errors w'.devices.keys.length result
      w'.failedPolls) : CycleEnd w result trace' w' := by
  obtain ⟨new, hlog, hlisted, hstates, hcount, hnodup⟩ := h.log
  obtain ⟨unread, hlog', hunread⟩ := hfinish.between.log
  have hsince : since w w' = new ++ unread := by
    rw [since, hlog', hlog, List.append_assoc, List.drop_left]
  have hreadings : readings (since w w') = readings new :=
    calc readings (since w w')
        = readings new ++ readings unread := by rw [hsince, readings_append]
      _ = readings new := by rw [readings_of_unread hunread, List.append_nil]
  have hlistedIn : listedIn (since w w') = listed :=
    calc listedIn (since w w')
        = listedIn new ++ listedIn unread := by rw [hsince, listedIn_append]
      _ = listed := by rw [listedIn_of_unread hunread, List.append_nil, hlisted]
  rw [h.failedPolls, hstates, ← hreadings] at hfinished
  rw [← hlistedIn] at hcopy
  have honce : ((readings (since w w')).map Prod.fst).Nodup := by
    rw [hreadings]
    exact hnodup.of_append_left
  have hcounted : ¬ Stopped trace' →
      errors + (readings (since w w')).length = (listedIn (since w w')).length := by
    intro hunstopped
    obtain ⟨rfl, rfl⟩ := hthrough hunstopped
    rw [hreadings, hlistedIn]
    exact hcount
  rw [← hfinish.devices] at hstopped
  have hpublished : ∀ code, code ∈ w'.states ↔ code ∈ w.states :=
    fun code => (hfinish.published code).trans (h.published code)
  exact .finished haccepted hpublished hcopy honce hcounted hstopped hfinished

/-- A polled cycle, whatever its requests are answered. -/
theorem wpt_asyncUpdateData (hpolls : ¬ Skips w) :
    Coro.wpt uncounted asyncUpdateData (CycleEnd w) [] w := by
  simp only [asyncUpdateData, Coro.wpt_bind, Coro.wpt_gets, Coro.wpt_modify, Coro.wpt_ite,
    if_neg fun hskipped => hpolls (skips_iff.mp hskipped), pollDevices]
  apply Coro.wpt_mono _ (wpt_asyncMaybeExtendToken _ (by simp [Stopped]) (by simp [Refused]))
  intro result trace₁ w₁ hextended
  obtain ⟨rfl, hgone, hcopying⟩ := hextended
  have hreset : Uncounted w { beginUpdate w with snapshotDue := false } := ⟨.of_eq rfl rfl, rfl⟩
  have hbegun := hreset.trans hcopying
  have hcopy : ∀ code, code ∈ pollStart w₁ ↔ code ∈ w.states ∧ code ∈ w₁.devices.keys := by
    intro code
    rw [mem_pollStart, hbegun.published]
  simp only [id_eq]
  apply Coro.wpt_mono _ (wpt_pollLoop (hbegun.counting hgone))
  intro result trace₂ w₂ hlooped
  cases hlooped with
  | refused hcount hrefused => exact .refused hcount hrefused
  | @through states errors _ _ hcounting =>
      apply Coro.wpt_mono _ (wpt_finishPoll states errors)
      intro result trace₃ w₃ hfinish
      obtain ⟨rfl, hunpolled, hfinished⟩ := hfinish
      exact hcounting.finished hcopy hcounting.unrefused (fun _ => ⟨rfl, rfl⟩)
        (fun hstopped => absurd hstopped hcounting.unstopped) hunpolled hfinished
  | @stopped rest states errors _ _ _ hcounting hstopped haccepted =>
      apply Coro.wpt_mono _ (wpt_finishPoll states _)
      intro result trace₃ w₃ hfinish
      obtain ⟨rfl, hunpolled, hfinished⟩ := hfinish
      exact hcounting.finished hcopy haccepted (fun hunstopped => absurd hstopped hunstopped)
        (fun _ => rfl) hunpolled hfinished

end Cycle

/-! ## Runs of cycles -/

/-- An update that polls, with what it asked for and was answered. -/
structure PolledCycle where
  start : World
  result : Except Exn (Dict String DeviceState)
  trace : List (Exchange ClientOp ClientAnswer)
  finish : World
  polls : ¬ Skips start
  traced : Coro.Traced uncounted asyncUpdateData start trace result finish

namespace PolledCycle

/-- The appliances it goes through. -/
def listed (cycle : PolledCycle) : List String := listedIn (since cycle.start cycle.finish)

/-- What it has read. -/
def readings (cycle : PolledCycle) : List (String × DeviceState) :=
  Coordinator.readings (since cycle.start cycle.finish)

/-- It raises `ConfigEntryAuthFailed`. -/
def refused (cycle : PolledCycle) : Bool :=
  match cycle.result with
  | .error (.configEntryAuthFailed _) => true
  | _ => false

/-- The world once its result is published. -/
def published (cycle : PolledCycle) : World :=
  match cycle.result with
  | .ok states => cycle.finish.setData states
  | .error _ => cycle.finish

theorem published_failedPolls (cycle : PolledCycle) :
    cycle.published.failedPolls = cycle.finish.failedPolls := by
  rw [published]
  split <;> rfl

/-- It does so exactly if one of its answers says that the credentials are no longer taken. -/
theorem refused_iff (cycle : PolledCycle) : cycle.refused = true ↔ Refused cycle.trace := by
  obtain ⟨start, result, trace, finish, polls, traced⟩ := cycle
  have hend := traced.post (wpt_asyncUpdateData polls)
  cases hend with
  | refused _ hrefused => exact iff_of_true rfl hrefused
  | finished haccepted _ _ _ _ _ hfinished =>
      generalize finish.failedPolls = count at hfinished
      cases hfinished with
      | raised _ _ => exact iff_of_false Bool.false_ne_true haccepted
      | tolerated _ => exact iff_of_false Bool.false_ne_true haccepted
      | reset _ => exact iff_of_false Bool.false_ne_true haccepted

/-- There are appliances, their number does not change meanwhile, no error of the whole account
stops a poll that has read one of them, and the credentials are not refused. -/
structure Regular (cycle : PolledCycle) : Prop where
  accepted : ¬ Refused cycle.trace
  inventory : cycle.listed ≠ []
  steady : cycle.finish.devices.keys.length = cycle.listed.length
  unstopped : cycle.readings ≠ [] → ¬ Stopped cycle.trace

/-- A cycle counts as failed exactly if nothing was read or the poll was stopped, as long as
there are appliances and their number does not change. -/
theorem fails_iff {cycle : PolledCycle} {errors : ℕ} (hinventory : cycle.listed ≠ [])
    (hsteady : cycle.finish.devices.keys.length = cycle.listed.length)
    (hthrough : ¬ Stopped cycle.trace → errors + cycle.readings.length = cycle.listed.length)
    (hstopped : Stopped cycle.trace → errors = cycle.finish.devices.keys.length) :
    errors ≠ 0 ∧ cycle.finish.devices.keys.length ≤ errors ↔
      cycle.readings = [] ∨ Stopped cycle.trace := by
  have hpos : 0 < cycle.listed.length := List.length_pos_of_ne_nil hinventory
  by_cases hstop : Stopped cycle.trace
  · rw [hstopped hstop, hsteady]
    exact iff_of_true ⟨hpos.ne', le_refl _⟩ (.inr hstop)
  · have hcount := hthrough hstop
    rw [or_iff_left hstop, hsteady, ← List.length_eq_zero_iff]
    omega

/-- So a cycle that has read something counts as read exactly if its poll was not stopped. -/
theorem countsRead_iff {cycle : PolledCycle} (hinventory : cycle.listed ≠ [])
    (hsteady : cycle.finish.devices.keys.length = cycle.listed.length)
    (haccepted : ¬ Refused cycle.trace) :
    (cycle.readings ≠ [] → cycle.finish.failedPolls = 0) ↔
      (cycle.readings ≠ [] → ¬ Stopped cycle.trace) := by
  obtain ⟨start, result, trace, finish, polls, traced⟩ := cycle
  have hend := traced.post (wpt_asyncUpdateData polls)
  cases hend with
  | refused _ hrefused => exact absurd hrefused haccepted
  | finished _ hpublished hcopy honce hthrough hstopped hfinished =>
      have hfails := fails_iff hinventory hsteady hthrough hstopped
      constructor
      · intro hzero hsome hstop
        exact hfinished.eq_zero_iff.mp (hzero hsome) (hfails.mpr (.inr hstop))
      · intro hgoes hsome
        apply hfinished.eq_zero_iff.mpr
        intro hfailed
        exact (hfails.mp hfailed).elim hsome (hgoes hsome)

/-- What a regular cycle comes to. -/
inductive Accounted (cycle : PolledCycle) : Prop
  | unread (hnone : cycle.readings = [])
      (hcount : cycle.finish.failedPolls = cycle.start.failedPolls + 1)
      (hraises : ∀ message, cycle.result = .error (.updateFailed message) →
        pollFailureGrace < cycle.finish.failedPolls ∨
          ∀ code ∈ cycle.listed, code ∉ cycle.finish.states)
  | read (hsome : cycle.readings ≠ [])
      (hcount : cycle.finish.failedPolls = 0) {states : Dict String DeviceState}
      (hresult : cycle.result = .ok states)
      (hpublished : ∀ reading ∈ cycle.readings, states.get? reading.1 = some reading.2)

theorem Regular.accounted {cycle : PolledCycle} (h : cycle.Regular) : cycle.Accounted := by
  obtain ⟨start, result, trace, finish, polls, traced⟩ := cycle
  have hend := traced.post (wpt_asyncUpdateData polls)
  cases hend with
  | refused _ hrefused => exact absurd hrefused h.accepted
  | @finished copy errors _ _ _ _ hpublished hcopy honce hthrough hstopped hfinished =>
      have hunread : Coordinator.readings (since start finish) = [] ∨ Stopped trace ↔
          Coordinator.readings (since start finish) = [] :=
        or_iff_left_of_imp fun hstop => not_not.mp fun hsome => h.unstopped hsome hstop
      have hfails := (fails_iff h.inventory h.steady hthrough hstopped).trans hunread
      generalize hcount : finish.failedPolls = count at hfinished
      cases hfinished with
      | raised hfailed hraises =>
          have hnone := hfails.mp hfailed
          refine .unread hnone hcount fun message _ => ?_
          change _ < finish.failedPolls ∨ _
          rw [hcount]
          refine hraises.imp_right fun hempty code hlisted hknown => ?_
          have hcopied : code ∈ copy := (hcopy code).mpr ⟨(hpublished code).mp hknown, hlisted⟩
          rw [hnone] at hempty
          exact Bool.false_ne_true ((Dict.isEmpty_of_mem hcopied).symm.trans hempty)
      | tolerated hfailed =>
          refine .unread (hfails.mp hfailed) hcount fun message hraised => ?_
          cases hraised
      | reset hreads =>
          refine .read (fun hnone => hreads (hfails.mpr hnone)) hcount rfl ?_
          intro reading hreading
          rw [Dict.get?_update, Dict.written_of_mem honce hreading]
          rfl

end PolledCycle

/-- The runs of a coordinator, with the polled cycles so far, the latest first. -/
inductive PollRun : World → List PolledCycle → Prop
  | start {w : World} (hw : w.failedPolls = 0) : PollRun w []
  | cycle {cycles : List PolledCycle} (cycle : PolledCycle) (hrun : PollRun cycle.start cycles) :
      PollRun cycle.published (cycle :: cycles)
  /-- Anything but a polled cycle: scans, frames, commands, updates that skip polling. -/
  | meanwhile {w w' : World} {cycles : List PolledCycle} (hrun : PollRun w cycles)
      (hkept : w'.failedPolls = w.failedPolls) : PollRun w' cycles

/-- The number of consecutive latest cycles in which not a single appliance was read. -/
def outages (cycles : List PolledCycle) : ℕ :=
  (cycles.takeWhile fun cycle => cycle.readings.isEmpty).length

section Outages

variable {cycle : PolledCycle} {cycles : List PolledCycle}

theorem outages_read (hread : cycle.readings ≠ []) : outages (cycle :: cycles) = 0 := by
  simp [outages, hread]

theorem outages_unread (hread : cycle.readings = []) :
    outages (cycle :: cycles) = outages cycles + 1 := by
  simp [outages, hread]

/-- The counter follows the outages through a regular cycle. -/
theorem PolledCycle.Accounted.failedPolls (h : cycle.Accounted)
    (hstart : cycle.start.failedPolls = outages cycles) :
    cycle.finish.failedPolls = outages (cycle :: cycles) := by
  cases h with
  | unread hnone hcount _ => rw [hcount, hstart, outages_unread hnone]
  | read hsome hcount _ _ => rw [hcount, outages_read hsome]

end Outages

/-- In a run of regular cycles the counter is the number of outages. -/
theorem failedPolls_eq_outages {w : World} {cycles : List PolledCycle} (hrun : PollRun w cycles)
    (hregular : ∀ cycle ∈ cycles, cycle.Regular) : w.failedPolls = outages cycles := by
  induction hrun with
  | start hw => exact hw
  | cycle cycle _ ih =>
      rw [cycle.published_failedPolls]
      apply (hregular cycle List.mem_cons_self).accounted.failedPolls
      exact ih fun earlier hearlier => hregular earlier (List.mem_cons_of_mem cycle hearlier)
  | meanwhile _ hkept ih => rw [hkept, ih hregular]

/-- After a regular cycle at the end of a run of regular cycles the counter is the number of
outages; the cycle has failed only after too many of them, or if nothing is known; and what it
has read is published. -/
theorem outagesCounted {cycle : PolledCycle} {cycles : List PolledCycle}
    (hrun : PollRun cycle.start cycles) (hregular : ∀ other ∈ cycle :: cycles, other.Regular) :
    cycle.finish.failedPolls = outages (cycle :: cycles) ∧
      (∀ message, cycle.result = .error (.updateFailed message) →
        pollFailureGrace < outages (cycle :: cycles) ∨
          ∀ code ∈ cycle.listed, code ∉ cycle.finish.states) ∧
      (cycle.readings ≠ [] → ∃ states, cycle.result = .ok states ∧
        ∀ reading ∈ cycle.readings, states.get? reading.1 = some reading.2) := by
  have haccounted := (hregular cycle List.mem_cons_self).accounted
  have hcount := haccounted.failedPolls
    (failedPolls_eq_outages hrun fun other hother => hregular other (.tail cycle hother))
  refine ⟨hcount, ?_⟩
  rw [← hcount]
  cases haccounted with
  | unread hnone _ hraises => exact ⟨hraises, fun hsome => absurd hnone hsome⟩
  | read _ _ hresult hpublished =>
      refine ⟨fun message hraised => ?_, fun _ => ⟨_, hresult, hpublished⟩⟩
      rw [hresult] at hraised
      cases hraised

/-! ## Two ovens and one session -/

/-- "A" is answered, "B" fails with this error. -/
def failsForB (err : DollinError) : ℕ → World → (op : ClientOp) → ClientAnswer op × World :=
  Client.scripted
    (fun path =>
      if path = Client.epApplianceQuery "A" then
        .ok [("data", .obj [("work_switch", .str "standby")])]
      else .error (.dollin err))
    (fun _ _ => .ok none) fun _ w => w

theorem uncounted_failsForB (err : DollinError) (n : ℕ) (w : World) (op : ClientOp) :
    uncounted w op (failsForB err n w op).1 (failsForB err n w op).2 := by
  cases op with
  | call scheme path payload =>
      refine ⟨.refl w, fun exn hraised => ?_⟩
      simp only [failsForB, Client.scripted] at hraised
      split at hraised
      · cases hraised
      · cases hraised
        exact ⟨err, rfl⟩
  | _ =>
      refine ⟨.refl w, fun exn hraised => ?_⟩
      cases hraised

/-- One polled cycle in which that happens. -/
def failingForB (err : DollinError) (w : World) (hpolls : skipsPoll w = false) : PolledCycle where
  start := w
  result := (asyncUpdateData.play (failsForB err) 0 w).1
  trace := asyncUpdateData.record (failsForB err) 0 w
  finish := (asyncUpdateData.play (failsForB err) 0 w).2
  polls := by
    intro hskips
    rw [hskips.2] at hpolls
    cases hpolls
  traced := Coro.traced_play _ (uncounted_failsForB err) _ 0 w

/-- An ordinary error: the cycle counts as read, and the reading is published. -/
def resetByPeer : PolledCycle :=
  failingForB (.networkError "reset by peer") twoOvens (by decide +kernel)

theorem outagesCounted_resetByPeer :
    resetByPeer.finish.failedPolls = 0 ∧ ∃ states, resetByPeer.result = .ok states ∧
      states.get? "A" = some (ovenState "A" "standby") := by
  have hregular : resetByPeer.Regular := by
    refine ⟨fun hrefused => ?_, by decide +kernel, by decide +kernel, fun _ hstopped => ?_⟩
    · have hnone : resetByPeer.trace.any refuses = false := by decide +kernel
      exact ne_true_of_eq_false hnone (List.any_eq_true.mpr hrefused)
    · have hnone : resetByPeer.trace.any stops = false := by decide +kernel
      exact ne_true_of_eq_false hnone (List.any_eq_true.mpr hstopped)
  have hread : ("A", ovenState "A" "standby") ∈ resetByPeer.readings := by decide +kernel
  have hrun : PollRun resetByPeer.start [] := .start rfl
  obtain ⟨hcount, -, hpublished⟩ := outagesCounted hrun
    (List.forall_mem_singleton.mpr hregular)
  obtain ⟨states, hresult, hstates⟩ := hpublished (List.ne_nil_of_mem hread)
  have hzero : outages [resetByPeer] = 0 := by decide +kernel
  exact ⟨hcount.trans hzero, states, hresult, hstates _ hread⟩

/-- The session is taken over after "A" was read. -/
def takenOver (w : World) (hpolls : skipsPoll w = false) : PolledCycle :=
  failingForB (.sessionTakeoverError 600 0) w hpolls

def firstTaken : PolledCycle := takenOver twoOvens (by decide +kernel)

def secondTaken : PolledCycle := takenOver firstTaken.published (by decide +kernel)

def thirdTaken : PolledCycle := takenOver secondTaken.published (by decide +kernel)

/-- Each of three cycles reads "A"; the third raises `UpdateFailed` and publishes nothing. -/
theorem not_outagesCounted_thirdTaken :
    PollRun thirdTaken.start [secondTaken, firstTaken] ∧ thirdTaken.refused = false ∧
      (∀ cycle ∈ [thirdTaken, secondTaken, firstTaken],
        ("A", ovenState "A" "standby") ∈ cycle.readings) ∧
      outages [thirdTaken, secondTaken, firstTaken] = 0 ∧
      thirdTaken.finish.failedPolls = 3 ∧
      thirdTaken.result = .error (updateFailed 3) := by
  refine ⟨.cycle secondTaken (.cycle firstTaken (.start rfl)), by decide +kernel,
    by decide +kernel, by decide +kernel, by decide +kernel, by decide +kernel⟩

end Coordinator

end Holabrain
