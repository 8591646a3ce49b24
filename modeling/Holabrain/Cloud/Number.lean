import Mathlib.Data.Int.Log
import Mathlib.Data.List.TakeWhile
import Mathlib.Data.Rat.Floor
import Holabrain.Cloud.Errors

/-!
# Python's `float` and `int(float(…))`

The controls and the plausibility conditions read a reported value through `float`.  A
double is kept as the rational it stands for; reading a text rounds to the nearest one, ties
to even, and overflows to an infinity.
-/

namespace Holabrain

/-- An IEEE double. -/
inductive Double
  | finite (value : ℚ)
  | infinite (negative : Bool)
  | nan
  deriving DecidableEq

/-- `a <= b`; a NaN compares with nothing. -/
def Double.le : Double → Double → Bool
  | .nan, _ | _, .nan => false
  | .infinite true, _ | _, .infinite false => true
  | .finite a, .finite b => decide (a ≤ b)
  | _, _ => false

/-- Round to an integer, ties to even. -/
def roundHalfEven (q : ℚ) : ℤ :=
  let floor := ⌊q⌋
  let rest := q - floor
  if rest < 1 / 2 then floor
  else if 1 / 2 < rest then floor + 1
  else if floor % 2 = 0 then floor else floor + 1

/-- The double nearest to a rational. -/
def Double.ofRat (q : ℚ) : Double :=
  if q = 0 then .finite 0
  else
    let unit : ℚ := (2 : ℚ) ^ max (Int.log 2 |q| - 52) (-1074)
    let rounded := (roundHalfEven (|q| / unit) : ℚ) * unit
    if (2 : ℚ) ^ (1024 : ℕ) ≤ rounded then .infinite (decide (q < 0))
    else .finite (if q < 0 then -rounded else rounded)

/-- The double that is held as the decimal; none is held as a decimal beyond their range. -/
def Decimal.double (x : Decimal) : ℚ :=
  match Double.ofRat x.value with
  | .finite q => q
  | _ => x.value

/-- Every underscore stands between two digits. -/
def underscoresOk : Option Char → List Char → Bool
  | _, [] => true
  | before, '_' :: rest =>
      (before.any Char.isDigit) && (rest.head?.any Char.isDigit) && underscoresOk (some '_') rest
  | _, c :: rest => underscoresOk (some c) rest

def digitsValue (digits : List Char) : ℕ :=
  digits.foldl (fun acc c => 10 * acc + (c.toNat - 48)) 0

/-- An exponent, sign included. -/
def parseExponent : List Char → Option ℤ
  | [] => none
  | '-' :: rest =>
      if rest ≠ [] ∧ rest.all Char.isDigit then some (-(digitsValue rest : ℤ)) else none
  | '+' :: rest => if rest ≠ [] ∧ rest.all Char.isDigit then some (digitsValue rest) else none
  | rest => if rest.all Char.isDigit then some (digitsValue rest) else none

/-- An unsigned decimal literal. -/
def parseDecimal (text : List Char) : Option ℚ :=
  let mantissa := text.takeWhile fun c => c != 'e' && c != 'E'
  let exponent := text.drop mantissa.length
  let whole := mantissa.takeWhile Char.isDigit
  let fraction := match mantissa.drop whole.length with
    | [] => some []
    | '.' :: rest => if rest.all Char.isDigit then some rest else none
    | _ => none
  let power := match exponent with
    | [] => some 0
    | _ :: rest => parseExponent rest
  match fraction, power with
  | some fraction, some power =>
      if whole = [] ∧ fraction = [] then none
      else some (digitsValue (whole ++ fraction) * (10 : ℚ) ^ (power - fraction.length))
  | _, _ => none

/-- `float(text)`; `none` where it raises `ValueError`. -/
def parseFloat (s : String) : Option Double :=
  let text := numeral s
  let negative := text.head? == some '-'
  let body := match text with
    | '-' :: rest | '+' :: rest => rest
    | rest => rest
  let word := body.map Char.toLower
  if word = "inf".toList ∨ word = "infinity".toList then some (.infinite negative)
  else if word = "nan".toList then some .nan
  else if underscoresOk none body then
    (parseDecimal (body.filter (· != '_'))).map fun q =>
      Double.ofRat (if negative then -q else q)
  else none

/-- `float(value)`. -/
def pyFloat : Json → Except Exn Double
  | .bool b => .ok (.finite (if b then 1 else 0))
  | .int n => match Double.ofRat n with
      | .infinite _ => .error (.builtin "OverflowError")
      | x => .ok x
  | .float (.finite x) => .ok (Double.ofRat x.value)
  | .float (.infinite negative) => .ok (.infinite negative)
  | .float .nan => .ok .nan
  | .str s => match parseFloat s with
      | some x => .ok x
      | none => .error (.builtin "ValueError")
  | .null | .arr _ | .obj _ => .error (.builtin "TypeError")

/-- `int` of a double. -/
def Double.toInt : Double → Except Exn ℤ
  | .finite q => .ok (truncate q)
  | .infinite _ => .error (.builtin "OverflowError")
  | .nan => .error (.builtin "ValueError")

/-- `int(float(value))` with `TypeError` and `ValueError` read as nothing; an overflow is
not caught. -/
def toIntOrNone (value : Json) : Except Exn (Option ℤ) :=
  match pyFloat value with
  | .ok x => match x.toInt with
      | .ok n => .ok (some n)
      | .error (.builtin "OverflowError") => .error (.builtin "OverflowError")
      | .error _ => .ok none
  | .error (.builtin "OverflowError") => .error (.builtin "OverflowError")
  | .error _ => .ok none

example : toIntOrNone (.str " 1_80.9e0 ") = .ok (some 180) := by decide +kernel

/-- `float(value)`, caught in the same way. -/
def toFloatOrNone (value : Json) : Except Exn (Option Double) :=
  match pyFloat value with
  | .ok x => .ok (some x)
  | .error (.builtin "OverflowError") => .error (.builtin "OverflowError")
  | .error _ => .ok none

/-- `int(value)`, caught in the same way. -/
def pyIntOrNone (value : Json) : Except Exn (Option ℤ) :=
  match value with
  | .bool b => .ok (some (if b then 1 else 0))
  | .int n => .ok (some n)
  | .float (.finite x) => .ok (some (truncate x.double))
  | .float (.infinite _) => .error (.builtin "OverflowError")
  | .float .nan => .ok none
  | .str s => .ok (parseInt s)
  | .null | .arr _ | .obj _ => .ok none

/-- `a / b` of two integers, rounded once. -/
def pyDivide (a b : ℤ) : Except Exn ℚ :=
  if b = 0 then .error (.builtin "ZeroDivisionError")
  else match Double.ofRat (a / b) with
    | .finite q => .ok q
    | _ => .error (.builtin "OverflowError")

/-- `round` of a double. -/
def Double.round : Double → Except Exn ℤ
  | .finite q => .ok (roundHalfEven q)
  | .infinite _ => .error (.builtin "OverflowError")
  | .nan => .error (.builtin "ValueError")

/-- One more exact operation on a double, rounded. -/
def Double.map (f : ℚ → ℚ) : Double → Double
  | .finite q => Double.ofRat (f q)
  | x => x

/-- Dropping the fraction does not leave a range of integers. -/
theorem truncate_mem_Icc {low high : ℤ} {q : ℚ} (hpos : 0 ≤ low) (hlow : low ≤ q)
    (hhigh : q ≤ high) : low ≤ truncate q ∧ truncate q ≤ high := by
  have hq : 0 ≤ q := le_trans (by exact_mod_cast hpos) hlow
  have hfloor : truncate q = ⌊q⌋ := by
    rw [truncate, Rat.floor_def', Int.tdiv_eq_ediv_of_nonneg (Rat.num_nonneg.mpr hq)]
  rw [hfloor]
  exact ⟨Int.le_floor.mpr hlow, Int.floor_le_iff.mpr (lt_of_le_of_lt hhigh (by simp))⟩

/-! ## Numbers as texts -/

/-- An integer rounds to itself. -/
theorem roundHalfEven_intCast (n : ℤ) : roundHalfEven n = n := by
  simp [roundHalfEven]

/-- A natural number below the precision of a double is one. -/
theorem Double.ofRat_natCast {n : ℕ} (h : n < 2 ^ 53) : Double.ofRat n = .finite n := by
  by_cases hn : n = 0
  · subst hn
    rfl
  have hpos : (0 : ℚ) < n := by exact_mod_cast Nat.pos_of_ne_zero hn
  have hlog : Nat.log 2 n < 53 := Nat.log_lt_of_lt_pow hn h
  have hunit : max (Int.log 2 |(n : ℚ)| - 52) (-1074) = -((52 - Nat.log 2 n : ℕ) : ℤ) := by
    rw [abs_of_pos hpos, Int.log_natCast]
    omega
  have hscaled : (n : ℚ) / (2 : ℚ) ^ (-((52 - Nat.log 2 n : ℕ) : ℤ)) =
      ((n * 2 ^ (52 - Nat.log 2 n) : ℕ) : ℤ) := by
    rw [zpow_neg, div_inv_eq_mul, zpow_natCast]
    push_cast
    rfl
  have hround : (roundHalfEven ((n : ℚ) / (2 : ℚ) ^ (-((52 - Nat.log 2 n : ℕ) : ℤ))) : ℚ) *
      (2 : ℚ) ^ (-((52 - Nat.log 2 n : ℕ) : ℤ)) = n := by
    rw [hscaled, roundHalfEven_intCast, ← hscaled, div_mul_cancel₀]
    exact zpow_ne_zero _ two_ne_zero
  have hsmall : ¬ (2 : ℚ) ^ (1024 : ℕ) ≤ n := by
    rw [not_le]
    calc (n : ℚ) < 2 ^ 53 := by exact_mod_cast h
      _ ≤ 2 ^ (1024 : ℕ) := by gcongr <;> norm_num
  simp only [Double.ofRat, Nat.cast_eq_zero, hn, if_false, hunit]
  rw [abs_of_pos hpos, hround, if_neg hsmall, if_neg (not_lt.mpr hpos.le)]

theorem ne_of_isDigit {c d : Char} (hc : c.isDigit = true) (hd : d.isDigit = false) : c ≠ d := by
  intro heq
  rw [heq, hd] at hc
  cases hc

/-- A run of digits has no sign, exponent or fraction. -/
theorem parseDecimal_digits {digits : List Char} (h : ∀ c ∈ digits, c.isDigit = true)
    (hne : digits ≠ []) : parseDecimal digits = some (digitsValue digits : ℚ) := by
  have hmantissa : digits.takeWhile (fun c => c != 'e' && c != 'E') = digits := by
    rw [List.takeWhile_eq_self_iff]
    intro c hc
    have hdigit := h c hc
    rw [Bool.and_eq_true, bne_iff_ne, bne_iff_ne]
    constructor <;> exact ne_of_isDigit hdigit (by decide)
  have hwhole : digits.takeWhile Char.isDigit = digits := by
    exact List.takeWhile_eq_self_iff.mpr h
  simp [parseDecimal, hmantissa, hwhole, hne]

/-- Where no character is a blank, nothing is stripped. -/
theorem dropWhile_isAsciiSpace {text : List Char} (h : ∀ c ∈ text, c.isDigit = true) :
    text.dropWhile isAsciiSpace = text := by
  cases text with
  | nil => rfl
  | cons c rest =>
      have hrange : 48 ≤ c.toNat ∧ c.toNat ≤ 57 := by
        simpa [Char.isDigit, UInt32.le_iff_toNat_le] using h c List.mem_cons_self
      apply List.dropWhile_cons_of_neg
      simp [isAsciiSpace]
      omega

/-- A text whose characters read as digits is the number it spells. -/
theorem numeral_of_toAscii {s : String} (h : ∀ c ∈ s.toList, (toAscii c).isDigit = true) :
    numeral s = s.toList.map toAscii := by
  have hdigits : ∀ c ∈ s.toList.map toAscii, c.isDigit = true := by
    intro c hc
    obtain ⟨d, hd, rfl⟩ := List.mem_map.mp hc
    exact h d hd
  rw [numeral, dropWhile_isAsciiSpace hdigits, dropWhile_isAsciiSpace, List.reverse_reverse]
  intro c hc
  exact hdigits c (List.mem_reverse.mp hc)

theorem toAscii_of_isDigit {c : Char} (h : c.isDigit = true) : toAscii c = c := by
  have hrange := Char.isDigit_iff_toNat.mp h
  have hnine : '9'.toNat = 57 := rfl
  exact if_pos (by omega)

/-- Digits are no blanks, so nothing is stripped off a number. -/
theorem numeral_digits {s : String} (h : ∀ c ∈ s.toList, c.isDigit = true) :
    numeral s = s.toList := by
  have hsame : s.toList.map toAscii = s.toList := by
    rw [List.map_congr_left fun c hc => toAscii_of_isDigit (h c hc), List.map_id']
  rw [numeral_of_toAscii, hsame]
  intro c hc
  rw [toAscii_of_isDigit (h c hc)]
  exact h c hc

/-- A decimal digit of any script reads as the ASCII digit of the same value. -/
theorem toAscii_of_decimalDigit {c : Char} {digit : ℕ} (h : decimalDigit c = some digit) :
    (toAscii c).isDigit = true ∧ (toAscii c).toNat - 48 = digit := by
  obtain ⟨first, hmem, hc, hlt⟩ := exists_of_decimalDigit h
  have hascii : ∀ first ∈ decimalZeros, first < 127 → first = 48 := by decide
  have hchars : ∀ d < 10, (Nat.digitChar d).isDigit = true ∧
      (Nat.digitChar d).toNat - 48 = d := by decide
  by_cases hsmall : c.toNat < 127
  · have hfirst := hascii first hmem (by omega)
    rw [toAscii, if_pos hsmall]
    refine ⟨Char.isDigit_iff_toNat.mpr ?_, by omega⟩
    have hzero : '0'.toNat = 48 := rfl
    have hnine : '9'.toNat = 57 := rfl
    omega
  · simp only [toAscii, if_neg hsmall, h]
    exact hchars digit hlt

/-- A run of digits is read digit by digit. -/
theorem parseDigits_go_digits {text : List Char} (h : ∀ c ∈ text, c.isDigit = true) (acc : ℕ) :
    parseDigits.go acc text = some (text.foldl (fun acc c => 10 * acc + (c.toNat - 48)) acc) := by
  induction text generalizing acc with
  | nil => rfl
  | cons c rest ih =>
      have hc := h c List.mem_cons_self
      have hrest := ih fun d hd => h d (List.mem_cons_of_mem c hd)
      have hne : c ≠ '_' := ne_of_isDigit hc (by decide)
      rw [List.foldl_cons, ← hrest, parseDigits.go, if_pos hc]
      exact fun _ _ heq _ => hne heq

theorem parseDigits_digits {text : List Char} (h : ∀ c ∈ text, c.isDigit = true)
    (hne : text ≠ []) : parseDigits text = some (digitsValue text) := by
  cases text with
  | nil => exact absurd rfl hne
  | cons c rest =>
      rw [parseDigits, if_pos (h c List.mem_cons_self),
        parseDigits_go_digits fun d hd => h d (List.mem_cons_of_mem c hd), digitsValue,
        List.foldl_cons, Nat.mul_zero, Nat.zero_add]

/-- What a run of decimal digits spells is what its ASCII form is read as. -/
theorem foldl_toAscii {text : List Char} {acc n : ℕ} (h : decimalValue acc text = some n) :
    (text.map toAscii).foldl (fun acc c => 10 * acc + (c.toNat - 48)) acc = n := by
  induction text generalizing acc with
  | nil => exact Option.some.inj h
  | cons c rest ih =>
      obtain ⟨digit, hdigit, hrest⟩ := Option.bind_eq_some_iff.mp h
      rw [List.map_cons, List.foldl_cons, (toAscii_of_decimalDigit hdigit).2]
      exact ih hrest

/-- Where `int` reads a decimal integer, it reads the integer the text names. -/
theorem parseInt_of_namesInteger {s : String} {n : ℕ} {m : ℤ} (h : NamesInteger s n)
    (hread : parseInt s = some m) : m = n := by
  have hdecimal := isSome_decimalDigit_of_decimalValue h.2
  have hascii : ∀ c ∈ s.toList, (toAscii c).isDigit = true := by
    intro c hc
    obtain ⟨digit, hdigit⟩ := Option.isSome_iff_exists.mp (hdecimal c hc)
    exact (toAscii_of_decimalDigit hdigit).1
  have hdigits : ∀ c ∈ s.toList.map toAscii, c.isDigit = true := by
    intro c hc
    obtain ⟨d, hd, rfl⟩ := List.mem_map.mp hc
    exact hascii d hd
  have hne : s.toList.map toAscii ≠ [] := by
    rw [ne_eq, List.map_eq_nil_iff]
    exact h.1
  have hvalue : parseDigits (s.toList.map toAscii) = some n := by
    rw [parseDigits_digits hdigits hne, digitsValue, foldl_toAscii h.2]
  simp only [parseInt, numeral_of_toAscii hascii] at hread
  split_ifs at hread
  split at hread
  next heq =>
    have hminus := hdigits '-' (by rw [heq]; exact List.mem_cons_self)
    exact absurd hminus (by decide)
  next heq =>
    have hplus := hdigits '+' (by rw [heq]; exact List.mem_cons_self)
    exact absurd hplus (by decide)
  next =>
    rw [hvalue] at hread
    exact (Option.some.inj hread).symm

theorem underscoresOk_digits {digits : List Char} (before : Option Char)
    (h : ∀ c ∈ digits, c.isDigit = true) : underscoresOk before digits = true := by
  induction digits generalizing before with
  | nil => rfl
  | cons c rest ih =>
      have hne : c ≠ '_' := ne_of_isDigit (h c List.mem_cons_self) (by decide)
      have hrest := ih (some c) fun d hd => h d (List.mem_cons_of_mem c hd)
      unfold underscoresOk
      split
      · contradiction
      · rename_i heq; cases heq; exact absurd rfl hne
      · rename_i heq; cases heq; exact hrest

/-- `float` of a run of digits, while a double holds its value. -/
theorem parseFloat_digits {s : String} (h : ∀ c ∈ s.toList, c.isDigit = true)
    (hne : s.toList ≠ []) (hsmall : digitsValue s.toList < 2 ^ 53) :
    parseFloat s = some (.finite (digitsValue s.toList)) := by
  obtain ⟨c, rest, htext⟩ := List.exists_cons_of_ne_nil hne
  have hc : c.isDigit = true := h c (by rw [htext]; exact List.mem_cons_self)
  have hminus : c ≠ '-' := ne_of_isDigit hc (by decide)
  have hplus : c ≠ '+' := ne_of_isDigit hc (by decide)
  have hlower : c.toLower = c := by
    have hrange := Char.isDigit_iff_toNat.mp hc
    have hnine : '9'.toNat = 57 := rfl
    have hupper : 'A'.val.toNat = 65 := rfl
    have hval : c.val.toNat = c.toNat := rfl
    have hlow : ¬ (c.val ≥ 'A'.val ∧ c.val ≤ 'Z'.val) := by
      simp only [UInt32.le_iff_toNat_le]
      omega
    exact dif_neg hlow
  have hword : ∀ d : Char, d.isDigit = false → ∀ tail : List Char,
      s.toList.map Char.toLower ≠ d :: tail := by
    intro d hd tail heq
    rw [htext, List.map_cons, hlower] at heq
    exact ne_of_isDigit hc hd (List.cons.inj heq).1
  have hfilter : s.toList.filter (· != '_') = s.toList := by
    rw [List.filter_eq_self]
    intro d hd
    rw [bne_iff_ne]
    exact ne_of_isDigit (h d hd) (by decide)
  have hsign : (s.toList.head? == some '-') = false := by
    rw [htext]
    simpa using hminus
  simp only [parseFloat, numeral_digits h, hsign]
  split
  next heq => exact absurd (List.cons.inj (htext.symm.trans heq)).1 hminus
  next heq => exact absurd (List.cons.inj (htext.symm.trans heq)).1 hplus
  next =>
    rw [if_neg, if_neg, if_pos (underscoresOk_digits none h), hfilter, parseDecimal_digits h hne]
    · simp [Double.ofRat_natCast hsmall]
    · exact hword 'n' (by decide) _
    · exact not_or.mpr ⟨hword 'i' (by decide) _, hword 'i' (by decide) _⟩

/-- `int(float(str(n)))` is `n` again. -/
theorem toIntOrNone_toString {n : ℕ} (h : n < 2 ^ 53) :
    toIntOrNone (.str (toString n)) = .ok (some n) := by
  have hdigits : ∀ c ∈ n.repr.toList, c.isDigit = true := by
    intro c hc
    rw [Nat.toList_repr] at hc
    exact Nat.isDigit_of_mem_toDigits (by decide) (by decide) hc
  have hvalue : digitsValue n.repr.toList = n := by
    rw [Nat.toList_repr]
    exact Nat.ofDigitChars_ten_toDigits
  have hfloat : parseFloat (toString n) = some (.finite n) := by
    rw [Nat.toString_eq_repr, parseFloat_digits hdigits _ _, hvalue]
    · rw [Nat.toList_repr]
      exact Nat.toDigits_ne_nil
    · rwa [hvalue]
  simp only [toIntOrNone, pyFloat, hfloat, Double.toInt, truncate]
  simp

end Holabrain
