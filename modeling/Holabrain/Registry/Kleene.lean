import Holabrain.Registry.Steadiness

/-!
# Laws of the condition language

The connectives are those of Kleene's strong three-valued logic: a definite verdict is kept by
whoever knows more, the parts of a conjunction form a set, and negation exchanges the two
connectives.  All of it is proved of the connectives first and of conditions of any depth after
that.  Only `Missing` asks for ignorance, so only it is left out of the first law.
-/

namespace Holabrain

/-! ## The connectives -/

/-- The second verdict says whatever the first one says. -/
def Sharpens (verdict verdict' : Option Bool) : Prop :=
  ∀ b, verdict = some b → verdict' = some b

theorem Sharpens.refl (verdict : Option Bool) : Sharpens verdict verdict := fun _ h => h

/-- The negated verdict; an unknown one stays unknown. -/
def kleeneNot (verdict : Option Bool) : Option Bool := verdict.map Bool.not

@[simp] theorem kleeneNot_eq_some_iff {verdict : Option Bool} {b : Bool} :
    kleeneNot verdict = some b ↔ verdict = some !b := by
  cases verdict with
  | none => simp [kleeneNot]
  | some value => cases value <;> cases b <;> simp [kleeneNot]

theorem Sharpens.kleeneNot {verdict verdict' : Option Bool} (h : Sharpens verdict verdict') :
    Sharpens (kleeneNot verdict) (kleeneNot verdict') := by
  intro b hb
  rw [kleeneNot_eq_some_iff] at hb ⊢
  exact h _ hb

/-- Two verdicts that are definite on the same answers are equal. -/
theorem eq_of_eq_some_iff {verdict verdict' : Option Bool}
    (h : ∀ b, verdict = some b ↔ verdict' = some b) : verdict = verdict' :=
  Option.ext h

section Connectives

variable {before after : List (Option Bool)}

theorem staysEach_of_sharpens (h : List.Forall₂ Sharpens before after) (b : Bool) :
    StaysEach b before after :=
  h.imp fun _ _ hsharpens => hsharpens b

theorem Sharpens.kleeneAll (h : List.Forall₂ Sharpens before after) :
    Sharpens (kleeneAll before) (kleeneAll after) := by
  intro b hb
  cases b with
  | true =>
      rw [kleeneAll_eq_true_iff] at hb ⊢
      exact (staysEach_of_sharpens h true).forall_eq hb
  | false =>
      rw [kleeneAll_eq_false_iff] at hb ⊢
      exact (staysEach_of_sharpens h false).mem hb

theorem Sharpens.kleeneAny (h : List.Forall₂ Sharpens before after) :
    Sharpens (kleeneAny before) (kleeneAny after) := by
  intro b hb
  cases b with
  | true =>
      rw [kleeneAny_eq_true_iff] at hb ⊢
      exact (staysEach_of_sharpens h true).mem hb
  | false =>
      rw [kleeneAny_eq_false_iff] at hb ⊢
      exact (staysEach_of_sharpens h false).forall_eq hb

/-- A conjunction is decided by the set of its verdicts. -/
theorem kleeneAll_congr (h : ∀ verdict, verdict ∈ before ↔ verdict ∈ after) :
    kleeneAll before = kleeneAll after := by
  simp only [kleeneAll, h]

theorem kleeneAny_congr (h : ∀ verdict, verdict ∈ before ↔ verdict ∈ after) :
    kleeneAny before = kleeneAny after := by
  simp only [kleeneAny, h]

theorem mem_map_kleeneNot {verdict : Option Bool} :
    verdict ∈ before.map kleeneNot ↔ kleeneNot verdict ∈ before := by
  have hinvol : ∀ v, kleeneNot (kleeneNot v) = v := by
    intro v
    apply eq_of_eq_some_iff
    simp
  constructor
  · intro hmem
    obtain ⟨inner, hinner, rfl⟩ := List.mem_map.mp hmem
    rwa [hinvol]
  · intro hmem
    exact List.mem_map.mpr ⟨kleeneNot verdict, hmem, hinvol verdict⟩

/-- Negation exchanges the connectives. -/
theorem kleeneAny_map_kleeneNot (verdicts : List (Option Bool)) :
    kleeneAny (verdicts.map kleeneNot) = kleeneNot (kleeneAll verdicts) := by
  apply eq_of_eq_some_iff
  intro b
  rw [kleeneNot_eq_some_iff]
  cases b with
  | true =>
      rw [kleeneAny_eq_true_iff, mem_map_kleeneNot, Bool.not_true, kleeneAll_eq_false_iff]
      rfl
  | false =>
      rw [kleeneAny_eq_false_iff, List.forall_mem_map, Bool.not_false, kleeneAll_eq_true_iff]
      simp

theorem kleeneAll_map_kleeneNot (verdicts : List (Option Bool)) :
    kleeneAll (verdicts.map kleeneNot) = kleeneNot (kleeneAny verdicts) := by
  apply eq_of_eq_some_iff
  intro b
  rw [kleeneNot_eq_some_iff]
  cases b with
  | false =>
      rw [kleeneAll_eq_false_iff, mem_map_kleeneNot, Bool.not_false, kleeneAny_eq_true_iff]
      rfl
  | true =>
      rw [kleeneAll_eq_true_iff, List.forall_mem_map, Bool.not_true, kleeneAny_eq_false_iff]
      simp

end Connectives

/-! ## Conditions -/

mutual

/-- No part of the condition asks whether a key is missing. -/
def Cond.withoutMissing : Cond → Bool
  | .is _ _ => true
  | .between _ _ _ => true
  | .missing _ => false
  | .programAllows _ _ => true
  | .not inner => Cond.withoutMissing inner
  | .allOf parts => Cond.eachWithoutMissing parts
  | .anyOf parts => Cond.eachWithoutMissing parts

def Cond.eachWithoutMissing : List Cond → Bool
  | [] => true
  | part :: rest => Cond.withoutMissing part && Cond.eachWithoutMissing rest

end

/-- What a context gives, the other one gives as well. -/
structure GateContext.Extends (ctx ctx' : GateContext) : Prop where
  value : ∀ key v, ctx.value key = some v → ctx'.value key = some v
  program : ctx'.programAllows = ctx.programAllows

/-- A verdict on one value survives. -/
theorem GateContext.Extends.map {ctx ctx' : GateContext} (h : ctx.Extends ctx') (key : String)
    (verdict : String → Bool) :
    Sharpens ((ctx.value key).map verdict) ((ctx'.value key).map verdict) := by
  intro b hb
  obtain ⟨v, hv, hverdict⟩ := Option.map_eq_some_iff.mp hb
  rw [h.value key v hv, Option.map_some, hverdict]

mutual

theorem Cond.sharpens {ctx ctx' : GateContext} (h : ctx.Extends ctx') :
    ∀ condition : Cond, condition.withoutMissing = true →
      Sharpens (condition.holds ctx) (condition.holds ctx')
  | .is key values, _ => by
      rw [Cond.holds, Cond.holds]
      exact h.map key _
  | .between key low high, _ => by
      rw [Cond.holds, Cond.holds]
      exact h.map key _
  | .missing _, hwithout => by cases hwithout
  | .programAllows flag exclusionParam, _ => by
      rw [Cond.holds, Cond.holds, h.program]
      exact .refl _
  | .not inner, hwithout => by
      rw [Cond.holds, Cond.holds]
      exact (Cond.sharpens h inner hwithout).kleeneNot
  | .allOf parts, hwithout => by
      rw [Cond.holds, Cond.holds]
      exact Sharpens.kleeneAll (Cond.forall₂_sharpens h parts hwithout)
  | .anyOf parts, hwithout => by
      rw [Cond.holds, Cond.holds]
      exact Sharpens.kleeneAny (Cond.forall₂_sharpens h parts hwithout)

theorem Cond.forall₂_sharpens {ctx ctx' : GateContext} (h : ctx.Extends ctx') :
    ∀ parts : List Cond, Cond.eachWithoutMissing parts = true →
      List.Forall₂ Sharpens (Cond.verdicts ctx parts) (Cond.verdicts ctx' parts)
  | [], _ => .nil
  | part :: rest, hwithout => by
      rw [Cond.eachWithoutMissing, Bool.and_eq_true] at hwithout
      rw [Cond.verdicts, Cond.verdicts]
      exact .cons (Cond.sharpens h part hwithout.1) (Cond.forall₂_sharpens h rest hwithout.2)

end

theorem Cond.verdicts_eq_map (ctx : GateContext) (parts : List Cond) :
    Cond.verdicts ctx parts = parts.map (Cond.holds ctx) := by
  induction parts with
  | nil => rw [Cond.verdicts, List.map_nil]
  | cons part rest ih => rw [Cond.verdicts, List.map_cons, ih]

theorem Cond.mem_verdicts_congr (ctx : GateContext) {parts parts' : List Cond}
    (h : ∀ part, part ∈ parts ↔ part ∈ parts') (verdict : Option Bool) :
    verdict ∈ Cond.verdicts ctx parts ↔ verdict ∈ Cond.verdicts ctx parts' := by
  rw [Cond.verdicts_eq_map, Cond.verdicts_eq_map, List.mem_map, List.mem_map]
  simp only [h]

theorem Cond.verdicts_map_not (ctx : GateContext) (parts : List Cond) :
    Cond.verdicts ctx (parts.map .not) = (Cond.verdicts ctx parts).map kleeneNot := by
  rw [Cond.verdicts_eq_map, Cond.verdicts_eq_map, List.map_map, List.map_map]
  apply List.map_congr_left
  intro part _
  rw [Function.comp_apply, Function.comp_apply, Cond.holds]
  rfl

theorem Cond.holds_not_allOf (ctx : GateContext) (parts : List Cond) :
    (Cond.not (.allOf parts)).holds ctx = (Cond.anyOf (parts.map .not)).holds ctx := by
  rw [Cond.holds, Cond.holds, Cond.holds, Cond.verdicts_map_not, kleeneAny_map_kleeneNot]
  rfl

theorem Cond.holds_not_anyOf (ctx : GateContext) (parts : List Cond) :
    (Cond.not (.anyOf parts)).holds ctx = (Cond.allOf (parts.map .not)).holds ctx := by
  rw [Cond.holds, Cond.holds, Cond.holds, Cond.verdicts_map_not, kleeneAll_map_kleeneNot]
  rfl

/-- The laws of the condition language: definite verdicts are kept by a context that gives
more, the order and repetition of parts say nothing, and negation exchanges the connectives. -/
theorem Cond.kleene_laws :
    (∀ (condition : Cond) (ctx ctx' : GateContext), condition.withoutMissing = true →
      ctx.Extends ctx' → ∀ b, condition.holds ctx = some b → condition.holds ctx' = some b) ∧
    (∀ (ctx : GateContext) (parts parts' : List Cond), (∀ part, part ∈ parts ↔ part ∈ parts') →
      (Cond.allOf parts).holds ctx = (Cond.allOf parts').holds ctx ∧
      (Cond.anyOf parts).holds ctx = (Cond.anyOf parts').holds ctx) ∧
    ∀ (ctx : GateContext) (parts : List Cond),
      (Cond.not (.allOf parts)).holds ctx = (Cond.anyOf (parts.map .not)).holds ctx ∧
      (Cond.not (.anyOf parts)).holds ctx = (Cond.allOf (parts.map .not)).holds ctx := by
  refine ⟨fun condition ctx ctx' hwithout hextends => ?_, fun ctx parts parts' h => ?_, ?_⟩
  · exact condition.sharpens hextends hwithout
  · have hmem := Cond.mem_verdicts_congr ctx h
    simp only [Cond.holds]
    exact ⟨kleeneAll_congr hmem, kleeneAny_congr hmem⟩
  · exact fun ctx parts => ⟨Cond.holds_not_allOf ctx parts, Cond.holds_not_anyOf ctx parts⟩

/-- A block on the state and a missing probe, before and after the probe reports. -/
theorem Cond.kleene_laws_probe :
    (∀ b, (Cond.allOf [.is "work_status" ["work"], .not (.is "probe" ["1"])]).holds
        ⟨fun key => if key = "work_status" then some "pause" else none, fun _ _ => true⟩
          = some b →
      (Cond.allOf [.is "work_status" ["work"], .not (.is "probe" ["1"])]).holds
        ⟨fun key => if key = "work_status" then some "pause"
          else if key = "probe" then some "0" else none, fun _ _ => true⟩ = some b) ∧
    (∀ ctx : GateContext,
      (Cond.allOf [.missing "a", .missing "b", .missing "a"]).holds ctx =
        (Cond.allOf [.missing "b", .missing "a"]).holds ctx) := by
  constructor
  · apply Cond.kleene_laws.1 _ _ _ (by decide)
    refine ⟨fun key v hv => ?_, rfl⟩
    dsimp only at hv ⊢
    split_ifs at hv ⊢ with hstate
    exact hv
  · intro ctx
    refine (Cond.kleene_laws.2.1 ctx _ _ fun part => ?_).1
    simp only [List.mem_cons, List.not_mem_nil, or_false]
    grind

end Holabrain
