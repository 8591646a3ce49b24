import Mathlib.Data.Nat.Notation
import Mathlib.Data.List.Basic

/-!
# The digits of Unicode

`str.isdigit` accepts more characters than `int` can read: beside the decimal digits of every
script it takes superscripts, circled numbers and the like.  Both classes are given as ranges.
-/

namespace Holabrain

/-- The zeros of the scripts; the digits up to nine follow each. -/
def decimalZeros : List ℕ :=
  [48, 1632, 1776, 1984, 2406, 2534, 2662, 2790, 2918, 3046, 3174, 3302, 3430, 3558, 3664, 3792,
    3872, 4160, 4240, 6112, 6160, 6470, 6608, 6784, 6800, 6992, 7088, 7232, 7248, 42528, 43216,
    43264, 43472, 43504, 43600, 44016, 65296, 66720, 68912, 69734, 69872, 69942, 70096, 70384,
    70736, 70864, 71248, 71360, 71472, 71904, 72016, 72784, 73040, 73120, 73552, 92768, 92864,
    93008, 120782, 120792, 120802, 120812, 120822, 123200, 123632, 124144, 125264, 130032]

/-- The digits that are no decimal digits, first and last of each range. -/
def otherDigits : List (ℕ × ℕ) :=
  [(178, 179), (185, 185), (4969, 4977), (6618, 6618), (8304, 8304), (8308, 8313), (8320, 8329),
    (9312, 9320), (9332, 9340), (9352, 9360), (9450, 9450), (9461, 9469), (9471, 9471),
    (10102, 10110), (10112, 10120), (10122, 10130), (68160, 68163), (69216, 69224),
    (69714, 69722), (127232, 127242)]

/-- The value of a decimal digit. -/
def decimalDigit (c : Char) : Option ℕ :=
  (decimalZeros.find? fun first => first ≤ c.toNat && c.toNat < first + 10).map fun first =>
    c.toNat - first

/-- One character `str.isdigit` accepts. -/
def isDigitChar (c : Char) : Bool :=
  (decimalDigit c).isSome || otherDigits.any fun range => range.1 ≤ c.toNat && c.toNat ≤ range.2

/-- `str.isdigit`. -/
def isDigitText (s : String) : Bool := !s.toList.isEmpty && s.toList.all isDigitChar

/-- The number a run of decimal digits spells, on top of those already read. -/
def decimalValue (acc : ℕ) : List Char → Option ℕ
  | [] => some acc
  | c :: rest => (decimalDigit c).bind fun digit => decimalValue (10 * acc + digit) rest

/-- The text names a decimal integer. -/
def NamesInteger (s : String) (n : ℕ) : Prop := s.toList ≠ [] ∧ decimalValue 0 s.toList = some n

/-- A digit stands behind the zero of its script. -/
theorem exists_of_decimalDigit {c : Char} {digit : ℕ} (h : decimalDigit c = some digit) :
    ∃ first ∈ decimalZeros, c.toNat = first + digit ∧ digit < 10 := by
  obtain ⟨first, hfound, rfl⟩ := Option.map_eq_some_iff.mp h
  have hrange := List.find?_some hfound
  rw [Bool.and_eq_true, decide_eq_true_iff, decide_eq_true_iff] at hrange
  exact ⟨first, List.mem_of_find?_eq_some hfound, by omega⟩

theorem isSome_decimalDigit_of_decimalValue {acc n : ℕ} {text : List Char}
    (h : decimalValue acc text = some n) : ∀ c ∈ text, (decimalDigit c).isSome = true := by
  induction text generalizing acc with
  | nil => exact fun c hc => absurd hc List.not_mem_nil
  | cons first rest ih =>
      obtain ⟨digit, hdigit, hrest⟩ := Option.bind_eq_some_iff.mp h
      intro c hc
      obtain rfl | hc := List.mem_cons.mp hc
      · rw [hdigit]
        rfl
      · exact ih hrest c hc

theorem isDigitText_of_namesInteger {s : String} {n : ℕ} (h : NamesInteger s n) :
    isDigitText s = true := by
  rw [isDigitText, Bool.and_eq_true, List.all_eq_true, Bool.not_eq_true',
    List.isEmpty_eq_false_iff]
  refine ⟨h.1, fun c hc => ?_⟩
  rw [isDigitChar, isSome_decimalDigit_of_decimalValue h.2 c hc, Bool.true_or]

end Holabrain
