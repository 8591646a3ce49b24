import Holabrain.Registry.Conditions

/-!
# Verdicts that more knowledge keeps

A condition is evaluated on what an appliance has reported so far.  A definite verdict on a
status key stays when more keys are reported; one on the state machine may not, since a rule
that was undecided can come before the one that held.  `Cond.steady` decides, for a table of
rules, which verdicts stay nonetheless.
-/

namespace Holabrain

/-! ## The state machine -/

/-- The two conditions ask the same key for different values. -/
def Cond.excludes : Cond → Cond → Bool
  | .is key values, .is key' values' => decide (key = key') && !values.any (· ∈ values')
  | _, _ => false

/-- A state of the set can only turn into another one of the set: whatever rule comes before
one of its rules belongs to the set as well, or excludes it. -/
def ClosedUnderLearning (rules : List StateRule) (set : String → Bool) : Prop :=
  rules.Pairwise fun earlier later =>
    set later.name → set earlier.name ∨ earlier.when.excludes later.when

instance (rules : List StateRule) (set : String → Bool) :
    Decidable (ClosedUnderLearning rules set) :=
  inferInstanceAs (Decidable (rules.Pairwise _))

/-- What a context that knows more may still say: what it was told before, and a state that no
set closed under learning has left. -/
structure LearnsMore (rules : List StateRule) (ctx ctx' : GateContext) : Prop where
  value : ∀ key v, key ≠ keyState → ctx.value key = some v → ctx'.value key = some v
  state : ∀ set, ClosedUnderLearning rules set → ∀ a, ctx.value keyState = some a → set a →
    ∃ b, ctx'.value keyState = some b ∧ set b
  program : ctx'.programAllows = ctx.programAllows

/-! ## Steady conditions -/

mutual

/-- The verdict `b` of the condition stays. -/
def Cond.steady (rules : List StateRule) : Cond → Bool → Bool
  | .is key values, b =>
      decide (key ≠ keyState) ||
        decide (ClosedUnderLearning rules fun name => decide (name ∈ values) == b)
  | .between key _ _, _ => decide (key ≠ keyState)
  | .missing _, b => !b
  | .programAllows _ _, _ => true
  | .not inner, b => Cond.steady rules inner !b
  | .allOf parts, b => Cond.allSteady rules parts b
  | .anyOf parts, b => Cond.allSteady rules parts b

def Cond.allSteady (rules : List StateRule) : List Cond → Bool → Bool
  | [], _ => true
  | part :: rest, b => Cond.steady rules part b && Cond.allSteady rules rest b

end

theorem forall_eq_some_iff {verdicts : List (Option Bool)} {b : Bool} :
    (∀ verdict ∈ verdicts, verdict = some b) ↔ some (!b) ∉ verdicts ∧ none ∉ verdicts := by
  constructor
  · intro hall
    refine ⟨fun hmem => ?_, fun hmem => ?_⟩
    · have heq := Option.some.inj (hall _ hmem)
      cases b <;> cases heq
    · cases hall _ hmem
  · intro h verdict hmem
    cases verdict with
    | none => exact absurd hmem h.2
    | some other =>
        by_cases hother : other = b
        · rw [hother]
        · rw [Bool.eq_not_of_ne hother] at hmem
          exact absurd hmem h.1

theorem kleeneAll_eq_true_iff {verdicts : List (Option Bool)} :
    kleeneAll verdicts = some true ↔ ∀ verdict ∈ verdicts, verdict = some true := by
  rw [forall_eq_some_iff, kleeneAll]
  split_ifs <;> simp_all

theorem kleeneAll_eq_false_iff {verdicts : List (Option Bool)} :
    kleeneAll verdicts = some false ↔ some false ∈ verdicts := by
  rw [kleeneAll]
  split_ifs <;> simp_all

theorem kleeneAny_eq_true_iff {verdicts : List (Option Bool)} :
    kleeneAny verdicts = some true ↔ some true ∈ verdicts := by
  rw [kleeneAny]
  split_ifs <;> simp_all

theorem kleeneAny_eq_false_iff {verdicts : List (Option Bool)} :
    kleeneAny verdicts = some false ↔ ∀ verdict ∈ verdicts, verdict = some false := by
  rw [forall_eq_some_iff, kleeneAny]
  split_ifs <;> simp_all

section Steady

variable {rules : List StateRule} {ctx ctx' : GateContext}

/-- The parts of a condition, before and after. -/
def StaysEach (b : Bool) (before after : List (Option Bool)) : Prop :=
  List.Forall₂ (fun verdict verdict' => verdict = some b → verdict' = some b) before after

theorem StaysEach.forall_eq {b : Bool} {before after : List (Option Bool)}
    (h : StaysEach b before after) (hall : ∀ verdict ∈ before, verdict = some b) :
    ∀ verdict ∈ after, verdict = some b := by
  induction h with
  | nil => exact hall
  | cons hstays _ ih =>
      rw [List.forall_mem_cons] at hall ⊢
      exact ⟨hstays hall.1, ih hall.2⟩

theorem StaysEach.mem {b : Bool} {before after : List (Option Bool)}
    (h : StaysEach b before after) (hmem : some b ∈ before) : some b ∈ after := by
  induction h with
  | nil => exact hmem
  | cons hstays _ ih =>
      rw [List.mem_cons] at hmem ⊢
      obtain heq | hrest := hmem
      · exact .inl (hstays heq.symm).symm
      · exact .inr (ih hrest)

theorem LearnsMore.value_or_state (h : LearnsMore rules ctx ctx') {key v : String}
    (hvalue : ctx.value key = some v) : ∃ v', ctx'.value key = some v' := by
  by_cases hkey : key = keyState
  · subst hkey
    have hclosed : ClosedUnderLearning rules fun _ => true := by
      apply List.pairwise_of_forall
      intro earlier later _
      exact .inl rfl
    obtain ⟨v', hv', -⟩ := h.state _ hclosed v hvalue rfl
    exact ⟨v', hv'⟩
  · exact ⟨v, h.value key v hkey hvalue⟩

/-- The verdict on one key. -/
theorem LearnsMore.holds_is (h : LearnsMore rules ctx ctx') {key : String}
    {values : List String} {b : Bool} (hsteady : (Cond.is key values).steady rules b = true)
    (hholds : (Cond.is key values).holds ctx = some b) :
    (Cond.is key values).holds ctx' = some b := by
  rw [Cond.holds] at hholds ⊢
  obtain ⟨v, hv, hverdict⟩ := Option.map_eq_some_iff.mp hholds
  rw [Cond.steady, Bool.or_eq_true, decide_eq_true_iff, decide_eq_true_iff] at hsteady
  by_cases hkey : key = keyState
  · subst hkey
    obtain ⟨v', hv', hset⟩ := h.state _ (hsteady.resolve_left fun hne => hne rfl) v hv
      (by rw [hverdict, beq_self_eq_true])
    rw [hv', Option.map_some]
    exact congrArg some (eq_of_beq hset)
  · rw [h.value key v hkey hv, Option.map_some]
    exact congrArg some hverdict

mutual

/-- A steady verdict survives what is learned. -/
theorem Cond.holds_of_steady (h : LearnsMore rules ctx ctx') :
    ∀ (condition : Cond) (b : Bool), condition.steady rules b = true →
      condition.holds ctx = some b → condition.holds ctx' = some b
  | .is _ _, _, hsteady, hholds => h.holds_is hsteady hholds
  | .between key low high, b, hsteady, hholds => by
      rw [Cond.holds] at hholds ⊢
      obtain ⟨v, hv, hverdict⟩ := Option.map_eq_some_iff.mp hholds
      rw [h.value key v (by simpa [Cond.steady] using hsteady) hv, Option.map_some, hverdict]
  | .missing key, b, hsteady, hholds => by
      rw [Cond.holds] at hholds ⊢
      cases b with
      | true => cases hsteady
      | false =>
          cases hvalue : ctx.value key with
          | none =>
              rw [hvalue] at hholds
              cases hholds
          | some v =>
              obtain ⟨v', hv'⟩ := h.value_or_state hvalue
              rw [hv']
              rfl
  | .programAllows flag param, b, _, hholds => by
      rw [Cond.holds] at hholds ⊢
      rwa [h.program]
  | .not inner, b, hsteady, hholds => by
      rw [Cond.holds] at hholds ⊢
      obtain ⟨verdict, hinner, hverdict⟩ := Option.map_eq_some_iff.mp hholds
      have hflip : verdict = !b := by
        rw [← hverdict]
        exact (Bool.not_not verdict).symm
      rw [hflip] at hinner
      rw [Cond.holds_of_steady h inner (!b) hsteady hinner, Option.map_some, ← hflip, hverdict]
  | .allOf parts, b, hsteady, hholds => by
      have hparts := Cond.verdicts_of_allSteady h parts b hsteady
      rw [Cond.holds] at hholds ⊢
      cases b with
      | true =>
          rw [kleeneAll_eq_true_iff] at hholds ⊢
          exact hparts.forall_eq hholds
      | false =>
          rw [kleeneAll_eq_false_iff] at hholds ⊢
          exact hparts.mem hholds
  | .anyOf parts, b, hsteady, hholds => by
      have hparts := Cond.verdicts_of_allSteady h parts b hsteady
      rw [Cond.holds] at hholds ⊢
      cases b with
      | true =>
          rw [kleeneAny_eq_true_iff] at hholds ⊢
          exact hparts.mem hholds
      | false =>
          rw [kleeneAny_eq_false_iff] at hholds ⊢
          exact hparts.forall_eq hholds

/-- Each part of a steady condition keeps its verdict. -/
theorem Cond.verdicts_of_allSteady (h : LearnsMore rules ctx ctx') :
    ∀ (parts : List Cond) (b : Bool), Cond.allSteady rules parts b = true →
      StaysEach b (Cond.verdicts ctx parts) (Cond.verdicts ctx' parts)
  | [], _, _ => .nil
  | part :: rest, b, hsteady => by
      rw [Cond.allSteady, Bool.and_eq_true] at hsteady
      rw [Cond.verdicts, Cond.verdicts]
      exact .cons (Cond.holds_of_steady h part b hsteady.1)
        (Cond.verdicts_of_allSteady h rest b hsteady.2)

end

/-- Two conditions that exclude each other never hold together. -/
theorem Cond.not_holds_of_excludes {a b : Cond} (h : a.excludes b = true)
    (ha : a.holds ctx = some true) : b.holds ctx ≠ some true := by
  intro hb
  cases a with
  | is key values =>
      cases b with
      | is key' values' =>
          rw [Cond.excludes, Bool.and_eq_true, decide_eq_true_iff, Bool.not_eq_true',
            List.any_eq_false] at h
          obtain ⟨rfl, hdisjoint⟩ := h
          rw [Cond.holds] at ha hb
          obtain ⟨v, hv, hmem⟩ := Option.map_eq_some_iff.mp ha
          obtain ⟨v', hv', hmem'⟩ := Option.map_eq_some_iff.mp hb
          obtain rfl := Option.some.inj (hv.symm.trans hv')
          exact hdisjoint v (of_decide_eq_true hmem) hmem'
      | _ => cases h
  | _ => cases h

/-- The state of a table whose rules are steady stays in every closed set. -/
theorem resolveState_of_closed (h : LearnsMore [] ctx ctx')
    (hrules : ∀ rule ∈ rules, rule.when.steady [] true = true) {set : String → Bool}
    (hclosed : ClosedUnderLearning rules set) {a : String}
    (hstate : resolveState rules ctx = some a) (ha : set a) :
    ∃ b, resolveState rules ctx' = some b ∧ set b := by
  obtain ⟨rule, hfound, rfl⟩ := Option.map_eq_some_iff.mp hstate
  obtain ⟨hholds, before, after, rfl, -⟩ := List.find?_eq_some_iff_append.mp hfound
  have hsteady : ∀ r ∈ before ++ rule :: after, r.when.holds ctx = some true →
      r.when.holds ctx' = some true := fun r hr =>
    Cond.holds_of_steady h r.when true (hrules r hr)
  have hstill : rule.when.holds ctx' = some true :=
    hsteady rule (by simp) (of_decide_eq_true hholds)
  -- The rule still holds, so the first one that does is it or stands before it.
  have hpair := (List.pairwise_append.mp hclosed).2.2
  rw [resolveState, List.find?_append]
  cases hearlier : before.find? fun r => r.when.holds ctx' = some true with
  | none =>
      have hself : (rule :: after).find? (fun r => r.when.holds ctx' = some true) = some rule := by
        rw [List.find?_cons_of_pos]
        exact decide_eq_true hstill
      rw [hself]
      exact ⟨rule.name, rfl, ha⟩
  | some earlier =>
      refine ⟨earlier.name, rfl, ?_⟩
      have hmem := List.mem_of_find?_eq_some hearlier
      have hfirst : earlier.when.holds ctx' = some true := by
        simpa using List.find?_some hearlier
      obtain hset | hexcludes := hpair earlier hmem rule List.mem_cons_self ha
      · exact hset
      · exact absurd hstill (Cond.not_holds_of_excludes hexcludes hfirst)

/-! ## Blocks -/

/-- The condition asks for the state, and for nothing else. -/
def Cond.asksState : Cond → Bool
  | .is key _ => decide (key = keyState)
  | _ => false

/-- One of the blocks refuses in this state. -/
def refusedStates (blocks : List Block) (name : String) : Bool :=
  blocks.any fun block => match block.when with
    | .is key values => decide (key = keyState) && decide (name ∈ values)
    | _ => false

/-- What the blocks refuse between them stays refused: the states they name are closed under
learning, and any other block is steady. -/
def blocksSteady (rules : List StateRule) (blocks : List Block) : Bool :=
  decide (ClosedUnderLearning rules (refusedStates blocks)) &&
    blocks.all fun block => block.when.asksState || block.when.steady rules true

theorem Cond.asksState_iff {condition : Cond} :
    condition.asksState = true ↔ ∃ values, condition = .is keyState values := by
  cases condition with
  | is key values =>
      rw [Cond.asksState, decide_eq_true_iff]
      constructor
      · rintro rfl
        exact ⟨values, rfl⟩
      · rintro ⟨_, heq⟩
        exact (Cond.is.inj heq).1
  | _ => simp [Cond.asksState]

theorem refusedStates_iff {blocks : List Block} {name : String} :
    refusedStates blocks name = true ↔
      ∃ block ∈ blocks, ∃ values, block.when = .is keyState values ∧ name ∈ values := by
  rw [refusedStates, List.any_eq_true]
  apply exists_congr
  intro block
  apply and_congr_right
  intro _
  cases block.when with
  | is key values =>
      rw [Bool.and_eq_true, decide_eq_true_iff, decide_eq_true_iff]
      constructor
      · rintro ⟨rfl, hmem⟩
        exact ⟨values, rfl, hmem⟩
      · rintro ⟨_, heq, hmem⟩
        obtain ⟨rfl, rfl⟩ := Cond.is.inj heq
        exact ⟨rfl, hmem⟩
  | _ => simp

theorem Cond.holds_is_true_iff {key : String} {values : List String} :
    (Cond.is key values).holds ctx = some true ↔ ∃ v, ctx.value key = some v ∧ v ∈ values := by
  rw [Cond.holds, Option.map_eq_some_iff]
  simp

/-- A refusal survives what is learned, if not always for the same reason. -/
theorem exists_block_of_blocksSteady (h : LearnsMore rules ctx ctx') {blocks : List Block}
    (hsteady : blocksSteady rules blocks = true)
    (hrefused : ∃ block ∈ blocks, block.when.holds ctx = some true) :
    ∃ block ∈ blocks, block.when.holds ctx' = some true := by
  rw [blocksSteady, Bool.and_eq_true, decide_eq_true_iff, List.all_eq_true] at hsteady
  obtain ⟨block, hmem, hholds⟩ := hrefused
  obtain hstate | hother := Bool.or_eq_true_iff.mp (hsteady.2 block hmem)
  · obtain ⟨values, hwhen⟩ := Cond.asksState_iff.mp hstate
    rw [hwhen, Cond.holds_is_true_iff] at hholds
    obtain ⟨a, ha, hvalues⟩ := hholds
    obtain ⟨b, hb, hnamed⟩ := h.state _ hsteady.1 a ha
      (refusedStates_iff.mpr ⟨block, hmem, values, hwhen, hvalues⟩)
    obtain ⟨other, hother, values', hwhen', hvalues'⟩ := refusedStates_iff.mp hnamed
    refine ⟨other, hother, ?_⟩
    rw [hwhen', Cond.holds_is_true_iff]
    exact ⟨b, hb, hvalues'⟩
  · exact ⟨block, hmem, Cond.holds_of_steady h block.when true hother hholds⟩

end Steady

end Holabrain
