import Holabrain.Core.Numerals
import Holabrain.Core.Runs

/-!
# Making identifiers safe to print

A path that is logged carries the id of an appliance as a long run of digits.  The runs are
replaced by pseudonyms, which hold too few digits to be taken for an id themselves.
-/

namespace Holabrain

namespace Redact

/-- `\d`. -/
def isDecimal (c : Char) : Bool := (decimalDigit c).isSome

/-- The fewest digits of `_IDENTIFIER`. -/
def identifierDigits : ℕ := 12

variable (hexdigest : String → String)

/-- `pseudonym`; `hexdigest` is the SHA-256 digest of the encoded id, in hexadecimal. -/
def pseudonym (thingCode : String) : String :=
  "appliance-" ++ String.ofList ((hexdigest thingCode).toList.take 8)

/-- What one match of `_IDENTIFIER` is replaced by. -/
def replacement (run : List Char) : List Char := (pseudonym hexdigest (String.ofList run)).toList

/-- `redact_path`. -/
def redactPath (path : String) : String :=
  String.ofList (subRuns isDecimal identifierDigits (replacement hexdigest) path.toList)

variable {hexdigest}

theorem toList_redactPath (path : String) : (redactPath hexdigest path).toList =
    subRuns isDecimal identifierDigits (replacement hexdigest) path.toList := by
  rw [redactPath, String.toList_ofList]

/-- The prefix has no digit at all, and what follows it is too short for an id. -/
theorem noRun_replacement (run : List Char) :
    NoRun isDecimal identifierDigits (replacement hexdigest run) := by
  have hdigits : identifierDigits = 12 := rfl
  have hfew : (String.ofList ((hexdigest (String.ofList run)).toList.take 8)).toList.length <
      identifierDigits := by
    rw [String.toList_ofList, List.length_take, hdigits]
    omega
  have hletters : "appliance-".toList.all (fun c => !isDecimal c) = true := by decide
  have hoff : ∀ c ∈ "appliance-".toList, isDecimal c = false := fun c hc =>
    (Bool.not_eq_true' _).mp (List.all_eq_true.mp hletters c hc)
  rw [replacement, pseudonym, String.toList_append]
  exact (noRun_append_outside (by decide) hoff).mpr (noRun_of_length_lt hfew)

end Redact

open Redact in
/-- `redact_path` hides every id and nothing else. -/
theorem redactPath_hides_ids (hexdigest : String → String) (path : String) :
    -- no run of digits of the length of an id is left
    (∀ run, run <:+: (redactPath hexdigest path).toList → (∀ c ∈ run, isDecimal c = true) →
      run.length < 12) ∧
    -- of the maximal runs of the path those of that length are replaced, each by the pseudonym of
    -- the id it spells, and the others are kept in order
    (∃ runs, IsRuns isDecimal path.toList runs) ∧
    (∀ runs, IsRuns isDecimal path.toList runs →
      (redactPath hexdigest path).toList = runs.flatMap fun run =>
        if run.all isDecimal && decide (12 ≤ run.length) then
          (pseudonym hexdigest (String.ofList run)).toList
        else run) ∧
    redactPath hexdigest (redactPath hexdigest path) = redactPath hexdigest path := by
  have hpos : 0 < identifierDigits := by decide
  have hclean : NoRun isDecimal identifierDigits (subRuns isDecimal identifierDigits
      (replacement hexdigest) path.toList) := noRun_subRuns hpos noRun_replacement path.toList
  refine ⟨?_, exists_isRuns isDecimal path.toList, ?_, ?_⟩
  · rw [toList_redactPath]
    exact (noRun_iff hpos).mp hclean
  · intro runs hruns
    rw [toList_redactPath]
    exact hruns.subRuns_eq hpos
  · rw [redactPath, toList_redactPath, subRuns_subRuns hpos noRun_replacement, redactPath]

end Holabrain
