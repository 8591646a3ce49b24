import Mathlib.Data.List.Nodup

/-!
# The push client

`MqttClient` is used by two threads.  The event loop subscribes topics, each remembered first
and then sent; paho's network thread goes through the remembered topics whenever the broker
has answered a connection attempt, and sends them again.  The session is a clean one, so the
broker forgets everything with the connection, and what is sent while there is none is lost.
The threads may be switched between any two of their steps, and the connection may drop at
any of them.
-/

namespace Holabrain

/-- The client, how far each of its two threads has come, and what the broker holds of it. -/
structure PushClient where
  /-- `_subscriptions`. -/
  subscriptions : List String := []
  /-- The topics a `subscribe` on the event loop has not come to yet. -/
  pending : List String := []
  /-- The topic it has remembered and is about to send. -/
  sending : Option String := none
  /-- The place of the network thread in the remembered topics, while it sends them again. -/
  restoring : Option ℕ := none
  connected : Bool := false
  /-- The topics the broker forwards. -/
  broker : List String := []

namespace PushClient

/-- A topic is sent: it reaches the broker, or is lost. -/
def send (topic : String) (s : PushClient) : PushClient :=
  if s.connected then { s with broker := topic :: s.broker } else s

/-- What one of the two threads does next. -/
inductive Turn : PushClient → PushClient → Prop
  | remember {s : PushClient} {topic : String} {rest : List String}
      (hnext : s.pending = topic :: rest) (hsent : s.sending = none) :
      Turn s { s with
        subscriptions := if topic ∈ s.subscriptions then s.subscriptions
          else s.subscriptions ++ [topic]
        pending := rest
        sending := some topic }
  | send {s : PushClient} {topic : String} (hsending : s.sending = some topic) :
      Turn s { s.send topic with sending := none }
  /-- `_handle_connect` sends the next topic. -/
  | restore {s : PushClient} {n : ℕ} {topic : String} (hplace : s.restoring = some n)
      (htopic : s.subscriptions[n]? = some topic) :
      Turn s { s.send topic with restoring := some (n + 1) }
  /-- It has come to the end of the list. -/
  | restored {s : PushClient} {n : ℕ} (hplace : s.restoring = some n)
      (hend : s.subscriptions[n]? = none) : Turn s { s with restoring := none }

/-- What can happen next, with the topics that are asked for by it. -/
inductive Step : PushClient → List String → PushClient → Prop
  | turn {s s' : PushClient} (hturn : Turn s s') : Step s [] s'
  /-- The event loop calls `subscribe`. -/
  | subscribe {s : PushClient} (topics : List String) (hidle : s.pending = [])
      (hsent : s.sending = none) : Step s topics { s with pending := topics }
  /-- The broker accepts a connection, or refuses it; either way `_handle_connect` is called. -/
  | answer {s : PushClient} (accepted : Bool) (hdown : s.connected = false)
      (hfree : s.restoring = none) :
      Step s [] { s with connected := accepted, broker := [], restoring := some 0 }
  | drop {s : PushClient} : Step s [] { s with connected := false, broker := [] }

/-- All that a client comes to, with the topics it has been asked for. -/
inductive Run : List String → PushClient → Prop
  | start : Run [] {}
  | step {asked topics : List String} {s s' : PushClient} (hrun : Run asked s)
      (hstep : Step s topics s') : Run (asked ++ topics) s'

/-- Neither thread is at work. -/
def Quiet (s : PushClient) : Prop := s.pending = [] ∧ s.sending = none ∧ s.restoring = none

/-! ## No topic is lost -/

/-- The topic will be sent in this connection: it is about to be, or the network thread has
not come to it yet. -/
def Due (s : PushClient) (topic : String) : Prop :=
  s.sending = some topic ∨ ∃ n, s.restoring = some n ∧ topic ∈ s.subscriptions.drop n

structure Inv (s : PushClient) : Prop where
  nodup : s.subscriptions.Nodup
  sent : ∀ topic, s.sending = some topic → topic ∈ s.subscriptions
  known : ∀ topic ∈ s.broker, topic ∈ s.subscriptions
  covered : s.connected = true → ∀ topic ∈ s.subscriptions, topic ∈ s.broker ∨ s.Due topic

section Invariant

variable {s s' : PushClient} {topic : String}

@[simp]
theorem send_subscriptions : (s.send topic).subscriptions = s.subscriptions := by
  rw [send]
  split <;> rfl

@[simp]
theorem send_pending : (s.send topic).pending = s.pending := by
  rw [send]
  split <;> rfl

@[simp]
theorem send_connected : (s.send topic).connected = s.connected := by
  rw [send]
  split <;> rfl

@[simp]
theorem send_sending : (s.send topic).sending = s.sending := by
  rw [send]
  split <;> rfl

@[simp]
theorem send_restoring : (s.send topic).restoring = s.restoring := by
  rw [send]
  split <;> rfl

theorem mem_send_broker {other : String} (h : other ∈ (s.send topic).broker) :
    other = topic ∨ other ∈ s.broker := by
  rw [send] at h
  split at h
  · exact List.mem_cons.mp h
  · exact .inr h

theorem mem_send_of_mem {other : String} (h : other ∈ s.broker) :
    other ∈ (s.send topic).broker := by
  rw [send]
  split
  · exact List.mem_cons_of_mem _ h
  · exact h

theorem mem_send_self (hconnected : s.connected = true) : topic ∈ (s.send topic).broker := by
  rw [send, if_pos hconnected]
  exact List.mem_cons_self

theorem Inv.remember {rest : List String} (h : s.Inv) (hsent : s.sending = none) :
    Inv { s with
      subscriptions := if topic ∈ s.subscriptions then s.subscriptions
        else s.subscriptions ++ [topic]
      pending := rest
      sending := some topic } := by
  have hkept : ∀ other, other ∈ s.subscriptions → other ∈
      if topic ∈ s.subscriptions then s.subscriptions else s.subscriptions ++ [topic] := by
    intro other hother
    split
    · exact hother
    · exact List.mem_append_left _ hother
  constructor
  · dsimp only
    split
    next => exact h.nodup
    next hnew =>
      rw [List.nodup_append]
      refine ⟨h.nodup, List.nodup_singleton _, fun other hother new hlast => ?_⟩
      rw [List.mem_singleton.mp hlast]
      exact fun heq => hnew (heq ▸ hother)
  · intro other hother
    cases hother
    dsimp only
    split
    next hold => exact hold
    next => exact List.mem_append_right _ (List.mem_singleton_self _)
  · exact fun other hother => hkept other (h.known other hother)
  · intro hconnected other hother
    by_cases hsame : other = topic
    · exact .inr (.inl (congrArg some hsame.symm))
    have hold : other ∈ s.subscriptions := by
      dsimp only at hother
      split at hother
      · exact hother
      · exact (List.mem_append.mp hother).resolve_right fun hlast =>
          hsame (List.mem_singleton.mp hlast)
    rcases h.covered hconnected other hold with hbroker | hnow | ⟨n, hplace, hlater⟩
    · exact .inl hbroker
    · rw [hsent] at hnow
      cases hnow
    · refine .inr (.inr ⟨n, hplace, ?_⟩)
      dsimp only
      split
      · exact hlater
      · rw [List.drop_append]
        exact List.mem_append_left _ hlater

theorem Inv.turn (h : s.Inv) (hturn : Turn s s') : s'.Inv := by
  cases hturn with
  | remember hnext hsent => exact h.remember hsent
  | @send topic hsending =>
      constructor
      · exact (congrArg List.Nodup send_subscriptions).mpr h.nodup
      · exact fun other hother => by cases hother
      · intro other hother
        change other ∈ (s.send topic).subscriptions
        rw [send_subscriptions]
        rcases mem_send_broker hother with rfl | hold
        · exact h.sent _ hsending
        · exact h.known other hold
      · intro hconnected other hother
        rw [send_connected] at hconnected
        rw [send_subscriptions] at hother
        rcases h.covered hconnected other hother with hbroker | hnow | ⟨n, hplace, hlater⟩
        · exact .inl (mem_send_of_mem hbroker)
        · rw [hsending] at hnow
          cases hnow
          exact .inl (mem_send_self hconnected)
        · refine .inr (.inr ⟨n, ?_, ?_⟩)
          · exact send_restoring.trans hplace
          · rw [send_subscriptions]
            exact hlater
  | @restore n topic hplace htopic =>
      have hmem : topic ∈ s.subscriptions := List.mem_of_getElem? htopic
      constructor
      · exact (congrArg List.Nodup send_subscriptions).mpr h.nodup
      · intro other hother
        rw [send_subscriptions]
        exact h.sent other (send_sending.symm.trans hother)
      · intro other hother
        change other ∈ (s.send topic).subscriptions
        rw [send_subscriptions]
        rcases mem_send_broker hother with rfl | hold
        · exact hmem
        · exact h.known other hold
      · intro hconnected other hother
        rw [send_connected] at hconnected
        rw [send_subscriptions] at hother
        rcases h.covered hconnected other hother with hbroker | hnow | ⟨m, hplace', hlater⟩
        · exact .inl (mem_send_of_mem hbroker)
        · exact .inr (.inl (send_sending.trans hnow))
        · rw [hplace] at hplace'
          cases hplace'
          rw [List.drop_eq_getElem?_toList_append, htopic] at hlater
          rcases List.mem_cons.mp hlater with rfl | hrest
          · exact .inl (mem_send_self hconnected)
          · refine .inr (.inr ⟨n + 1, rfl, ?_⟩)
            rw [send_subscriptions]
            exact hrest
  | @restored n hplace hend =>
      refine ⟨h.nodup, h.sent, h.known, fun hconnected other hother => ?_⟩
      rcases h.covered hconnected other hother with hbroker | hnow | ⟨m, hplace', hlater⟩
      · exact .inl hbroker
      · exact .inr (.inl hnow)
      · rw [hplace] at hplace'
        cases hplace'
        rw [List.drop_eq_nil_of_le (List.getElem?_eq_none_iff.mp hend)] at hlater
        exact absurd hlater List.not_mem_nil

theorem Inv.step {topics : List String} (h : s.Inv) (hstep : Step s topics s') : s'.Inv := by
  cases hstep with
  | turn hturn => exact h.turn hturn
  | subscribe topics hidle hsent => exact ⟨h.nodup, h.sent, h.known, h.covered⟩
  | answer accepted hdown hfree =>
      refine ⟨h.nodup, h.sent, fun _ hmem => absurd hmem List.not_mem_nil, ?_⟩
      exact fun _ other hother => .inr (.inr ⟨0, rfl, hother⟩)
  | drop =>
      refine ⟨h.nodup, h.sent, fun _ hmem => absurd hmem List.not_mem_nil, ?_⟩
      exact fun hconnected => absurd hconnected Bool.false_ne_true

theorem Run.inv {asked : List String} (hrun : Run asked s) : s.Inv := by
  induction hrun with
  | start =>
      constructor
      · exact List.nodup_nil
      · exact fun _ hsending => absurd hsending (Option.some_ne_none _).symm
      · exact fun _ hmem => absurd hmem List.not_mem_nil
      · exact fun hconnected => absurd hconnected Bool.false_ne_true
  | step _ hstep ih => exact ih.step hstep

end Invariant

/-! ## What has been asked for -/

section Asked

variable {s s' : PushClient} {asked : List String} {topic : String}

/-- The topics that are remembered, or will be. -/
def Wants (s : PushClient) (topic : String) : Prop :=
  topic ∈ s.subscriptions ∨ topic ∈ s.pending

theorem Turn.wants_iff (hturn : Turn s s') : s'.Wants topic ↔ s.Wants topic := by
  cases hturn with
  | @remember next rest hnext hsent =>
      rw [Wants, Wants, hnext, List.mem_cons]
      dsimp only
      split
      next hold =>
        constructor
        · exact Or.imp_right .inr
        · rintro (hmem | rfl | hrest)
          · exact .inl hmem
          · exact .inl hold
          · exact .inr hrest
      next =>
        rw [List.mem_append, List.mem_singleton, or_assoc]
  | @send next hsending =>
      rw [Wants, Wants]
      dsimp only
      rw [send_subscriptions, send_pending]
  | @restore n next hplace htopic =>
      rw [Wants, Wants]
      dsimp only
      rw [send_subscriptions, send_pending]
  | restored hplace hend => rfl

theorem Run.wants_iff (hrun : Run asked s) : s.Wants topic ↔ topic ∈ asked := by
  induction hrun with
  | start => exact or_self_iff
  | step _ hstep ih =>
      rw [List.mem_append, ← ih]
      cases hstep with
      | turn hturn => rw [hturn.wants_iff, or_iff_left List.not_mem_nil]
      | subscribe _ hidle hsent =>
          rw [Wants, Wants, hidle, or_iff_left List.not_mem_nil]
      | answer accepted hdown hfree => exact (or_iff_left List.not_mem_nil).symm
      | drop => exact (or_iff_left List.not_mem_nil).symm

end Asked

/-! ## The threads come to rest -/

section Rest

variable {s s' : PushClient}

/-- A bound on the turns that are left: a pending topic costs one to remember, one to send and
one for the network thread to pass it. -/
def turnsLeft (s : PushClient) : ℕ :=
  3 * s.pending.length + (if s.sending = none then 0 else 1) +
    match s.restoring with
    | none => 0
    | some n => s.subscriptions.length - n + 1

theorem Turn.turnsLeft_lt (hturn : Turn s s') : s'.turnsLeft < s.turnsLeft := by
  cases hturn with
  | @remember topic rest hnext hsent =>
      have hlength : (if topic ∈ s.subscriptions then s.subscriptions
          else s.subscriptions ++ [topic]).length ≤ s.subscriptions.length + 1 := by
        split
        · exact Nat.le_succ _
        · exact Nat.le_of_eq List.length_append
      simp only [turnsLeft, hnext, hsent, List.length_cons, if_pos, reduceCtorEq, if_false]
      cases s.restoring with
      | none => dsimp only; omega
      | some n => dsimp only; omega
  | @send topic hsending =>
      simp only [turnsLeft, send_pending, send_restoring, send_subscriptions, hsending, if_pos,
        reduceCtorEq, if_false]
      omega
  | @restore n topic hplace htopic =>
      have hlt : n < s.subscriptions.length := (List.getElem?_eq_some_iff.mp htopic).1
      simp only [turnsLeft, send_pending, send_sending, send_subscriptions, hplace]
      omega
  | restored hplace hend =>
      simp only [turnsLeft, hplace]
      omega

/-- Whichever thread has work left can go on. -/
theorem exists_turn_of_not_quiet (h : ¬ s.Quiet) : ∃ s', Turn s s' := by
  cases hplace : s.restoring with
  | some n =>
      cases htopic : s.subscriptions[n]? with
      | some topic => exact ⟨_, .restore hplace htopic⟩
      | none => exact ⟨_, .restored hplace htopic⟩
  | none =>
      cases hsending : s.sending with
      | some topic => exact ⟨_, .send hsending⟩
      | none =>
          cases hnext : s.pending with
          | cons topic rest => exact ⟨_, .remember hnext hsending⟩
          | nil => exact absurd ⟨hnext, hsending, hplace⟩ h

/-- `n` turns of the two threads in any order, while the connection holds. -/
inductive Turns : ℕ → PushClient → PushClient → Prop
  | none {s : PushClient} : Turns 0 s s
  | turn {n : ℕ} {s s' s'' : PushClient} (hturns : Turns n s s') (hturn : Turn s' s'') :
      Turns (n + 1) s s''

/-- One of the threads can go on. -/
def CanTurn (s : PushClient) : Prop := ∃ s', Turn s s'

/-- The broker forwards what has been asked for, and the client remembers each topic once. -/
structure Forwards (s : PushClient) (asked : List String) : Prop where
  nodup : s.subscriptions.Nodup
  forwards : ∀ topic, topic ∈ s.broker ↔ topic ∈ asked

variable {asked : List String} {n : ℕ}

theorem Turns.bounded (hturns : Turns n s s') : n + s'.turnsLeft ≤ s.turnsLeft := by
  induction hturns with
  | none => exact Nat.le_of_eq (Nat.zero_add _)
  | turn _ hturn ih =>
      have hlt := hturn.turnsLeft_lt
      omega

theorem Turn.connected (hturn : Turn s s') : s'.connected = s.connected := by
  cases hturn with
  | remember hnext hsent => rfl
  | send hsending => exact send_connected
  | restore hplace htopic => exact send_connected
  | restored hplace hend => rfl

theorem Turns.run (hturns : Turns n s s') (hrun : Run asked s) :
    Run asked s' ∧ s'.connected = s.connected := by
  induction hturns with
  | none => exact ⟨hrun, rfl⟩
  | turn _ hturn ih =>
      obtain ⟨hrun', hconnected⟩ := ih hrun
      refine ⟨?_, hturn.connected.trans hconnected⟩
      rw [← List.append_nil asked]
      exact hrun'.step (.turn hturn)

/-- At rest in a connection, the broker forwards what was asked for. -/
theorem Run.forwards (hrun : Run asked s) (hconnected : s.connected = true) (hquiet : s.Quiet) :
    s.Forwards asked := by
  obtain ⟨hpending, hsent, hfree⟩ := hquiet
  refine ⟨hrun.inv.nodup, fun topic => ?_⟩
  rw [← hrun.wants_iff, Wants, hpending, or_iff_left List.not_mem_nil]
  constructor
  · exact hrun.inv.known topic
  · intro hmem
    rcases hrun.inv.covered hconnected topic hmem with hbroker | hnow | ⟨n, hplace, _⟩
    · exact hbroker
    · rw [hsent] at hnow
      cases hnow
    · rw [hfree] at hplace
      cases hplace

/-- After any number of drops and reconnections, however the threads are switched: while a
connection holds they come to rest, and then the broker forwards every topic that has ever been
asked for and no other. -/
theorem connection_restores_topics (hrun : Run asked s) (hconnected : s.connected = true)
    (hturns : Turns n s s') : n ≤ s.turnsLeft ∧ (s'.CanTurn ∨ s'.Forwards asked) := by
  refine ⟨Nat.le_trans (Nat.le_add_right _ _) hturns.bounded, ?_⟩
  by_cases hquiet : s'.Quiet
  · obtain ⟨hrun', hconnected'⟩ := hturns.run hrun
    exact .inr (hrun'.forwards (hconnected'.trans hconnected) hquiet)
  · exact .inl (exists_turn_of_not_quiet hquiet)

/-- While a connection holds, the threads come to rest. -/
theorem Run.rests (hrun : Run asked s) (hconnected : s.connected = true) :
    ∃ s', Run asked s' ∧ s'.connected = true ∧ s'.Quiet := by
  induction hleft : s.turnsLeft using Nat.strongRecOn generalizing s with
  | ind n ih =>
      by_cases hquiet : s.Quiet
      · exact ⟨s, hrun, hconnected, hquiet⟩
      · obtain ⟨s', hturn⟩ := exists_turn_of_not_quiet hquiet
        obtain ⟨hrun', hconnected'⟩ := (Turns.none.turn hturn).run hrun
        exact ih s'.turnsLeft (hleft ▸ hturn.turnsLeft_lt) hrun'
          (hconnected'.trans hconnected) rfl

end Rest

/-! ### A connection that is lost while a topic is on its way -/

/-- A topic was sent into a connection that had dropped; the broker has just accepted the next
one. -/
def reconnected : PushClient where
  subscriptions := ["eu/eu_1/dev"]
  restoring := some 0
  connected := true

theorem run_reconnected : Run ["eu/eu_1/dev"] reconnected := by
  have hasked : Run ["eu/eu_1/dev"] { pending := ["eu/eu_1/dev"] } :=
    Run.start.step (.subscribe _ rfl rfl)
  have hremembered : Run ["eu/eu_1/dev"]
      { subscriptions := ["eu/eu_1/dev"], sending := some "eu/eu_1/dev" } :=
    hasked.step (.turn (.remember rfl rfl))
  have hlost : Run ["eu/eu_1/dev"] { subscriptions := ["eu/eu_1/dev"] } :=
    hremembered.step (.turn (.send rfl))
  exact hlost.step (.answer true rfl rfl)

theorem reconnected_restores_topics :
    2 ≤ reconnected.turnsLeft ∧
      (CanTurn { reconnected with restoring := none, broker := ["eu/eu_1/dev"] } ∨
        Forwards { reconnected with restoring := none, broker := ["eu/eu_1/dev"] }
          ["eu/eu_1/dev"]) :=
  connection_restores_topics run_reconnected rfl
    ((Turns.none.turn (.restore rfl rfl)).turn (.restored rfl rfl))

end PushClient

end Holabrain
