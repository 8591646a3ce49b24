import Mathlib.Data.Finset.Basic
import Holabrain.Cloud.Number

/-!
# The condition language

A condition is a three-valued predicate over one device snapshot: it holds, it does not, or
the snapshot lacks a key it asks about.  Gates and guards are made of conditions, and every
caller resolves an unknown verdict to "go on": a partial frame blanks nothing and refuses
nothing.
-/

namespace Holabrain

def keyState : String := "@state"

def keyStaged : String := "@staged:"

/-- What a condition may ask about the device it is evaluated against. -/
structure GateContext where
  value : String → Option String
  programAllows : String → Option String → Bool

inductive Cond
  | is (key : String) (values : List String)
  | between (key : String) (low high : Double)
  | missing (key : String)
  | programAllows (flag : String) (exclusionParam : Option String)
  | not (inner : Cond)
  | allOf (parts : List Cond)
  | anyOf (parts : List Cond)

/-- `float(raw)` lies in the window; a value that is no number does not. -/
def withinWindow (raw : String) (low high : Double) : Bool :=
  match parseFloat raw with
  | some x => low.le x && x.le high
  | none => false

/-- Kleene conjunction: one definite `false` decides. -/
def kleeneAll (verdicts : List (Option Bool)) : Option Bool :=
  if some false ∈ verdicts then some false
  else if none ∈ verdicts then none else some true

/-- Kleene disjunction: one definite `true` decides. -/
def kleeneAny (verdicts : List (Option Bool)) : Option Bool :=
  if some true ∈ verdicts then some true
  else if none ∈ verdicts then none else some false

mutual

def Cond.holds (ctx : GateContext) : Cond → Option Bool
  | .is key values => (ctx.value key).map fun current => decide (current ∈ values)
  | .between key low high => (ctx.value key).map fun raw => withinWindow raw low high
  | .missing key => some (ctx.value key).isNone
  | .programAllows flag exclusionParam => some (ctx.programAllows flag exclusionParam)
  | .not inner => (Cond.holds ctx inner).map Bool.not
  | .allOf parts => kleeneAll (Cond.verdicts ctx parts)
  | .anyOf parts => kleeneAny (Cond.verdicts ctx parts)

def Cond.verdicts (ctx : GateContext) : List Cond → List (Option Bool)
  | [] => []
  | part :: rest => Cond.holds ctx part :: Cond.verdicts ctx rest

end

namespace Cond

/-- The category's state machine is in one of the named states. -/
def stateIs (names : List String) : Cond := .is keyState names

def and (a b : Cond) : Cond := .allOf [a, b]

def or (a b : Cond) : Cond := .anyOf [a, b]

end Cond

/-- `holds_or`. -/
def holdsOr (condition : Option Cond) (ctx : GateContext) (default : Bool) : Bool :=
  match condition with
  | none => default
  | some condition => (condition.holds ctx).getD default

theorem holdsOr_some_false (condition : Cond) (ctx : GateContext) :
    holdsOr (some condition) ctx false = true ↔ condition.holds ctx = some true := by
  simp only [holdsOr]
  cases condition.holds ctx with
  | none => simp
  | some verdict => cases verdict <;> simp

/-- While `when` holds a write is refused, citing `reason`. -/
structure Block where
  when : Cond
  reason : String

/-- Where conditions attach to one entity. -/
structure Gates where
  meaningfulWhen : Option Cond := none
  blocks : List Block := []
  exempt : Finset String := ∅

/-- One arm of a state machine. -/
structure StateRule where
  name : String
  when : Cond

/-- `resolve_state`: the first rule that definitely holds. -/
def resolveState (rules : List StateRule) (ctx : GateContext) : Option String :=
  (rules.find? fun rule => rule.when.holds ctx = some true).map StateRule.name

end Holabrain
