import Mathlib.Data.Nat.Prime.Basic
import Mathlib.Data.Rat.Lemmas
import Holabrain.Cloud.Printed

/-!
# Number literals of JSON

A JSON text spells an integer as Python does, and a double as the shortest decimal that reads
back as it.  Here a literal is read: as an integer where it has neither fraction nor exponent,
and otherwise as the double that is nearest to it, held again as its shortest decimal.  So a
number that is written is read back as itself.
-/

namespace Holabrain

/-! ## The shortest decimal -/

/-- The decimal with `n` digits that reads back as the double `q > 0` and lies closest to it. -/
def Decimal.candidate (q : ℚ) (n : ℕ) : Option (ℕ × ℤ) :=
  let exponent := Int.log 10 q + 1 - n
  let scaled := q / 10 ^ exponent
  let low := ⌊scaled⌋.toNat
  let readsBack := fun digits : ℕ => decide (Double.ofRat (digits * 10 ^ exponent) = .finite q)
  match readsBack low, readsBack (low + 1) with
  | true, true => some (if scaled - low ≤ low + 1 - scaled then low else low + 1, exponent)
  | true, false => some (low, exponent)
  | false, true => some (low + 1, exponent)
  | false, false => none

/-- A zero at the end of the digits is one in the exponent. -/
def Decimal.trim : ℕ → ℕ × ℤ → ℕ × ℤ
  | 0, decimal => decimal
  | fuel + 1, (digits, exponent) =>
      if digits % 10 = 0 then Decimal.trim fuel (digits / 10, exponent + 1)
      else (digits, exponent)

/-- All digits of a double, which is a whole number of some power of a half. -/
def Decimal.exact (q : ℚ) : ℕ × ℤ :=
  (q.num.natAbs * 5 ^ Nat.log 2 q.den, -(Nat.log 2 q.den : ℤ))

/-- The shortest decimal of a double `q ≥ 0`; 17 digits are enough for any. -/
def Decimal.shortest (negative : Bool) (q : ℚ) : Decimal :=
  let found := (List.range 17).findSome? fun n => Decimal.candidate q (n + 1)
  let trimmed := if q = 0 then (0, 0) else Decimal.trim 17 (found.getD (Decimal.exact q))
  { negative := negative, digits := trimmed.1, exponent := trimmed.2 }

/-- The double nearest to a number without its sign. -/
def PyFloat.nearest (negative : Bool) (q : ℚ) : PyFloat :=
  match Double.ofRat q with
  | .finite d => .finite (Decimal.shortest negative d)
  | .infinite _ => .infinite negative
  | .nan => .nan

/-- The decimal is the one that its double is held as. -/
def Decimal.IsShortest (x : Decimal) : Prop :=
  PyFloat.nearest x.negative (x.digits * 10 ^ x.exponent) = .finite x

instance (x : Decimal) : Decidable x.IsShortest :=
  inferInstanceAs (Decidable (_ = _))

example : PyFloat.nearest false (1 / 3) = .finite ⟨false, 3333333333333333, -16⟩ := by
  decide +kernel

/-! ## Literals -/

/-- The fraction at the front of a text, with its point. -/
def takeFraction : List Char → List Char
  | '.' :: rest =>
      if rest.takeWhile Char.isDigit = [] then [] else '.' :: rest.takeWhile Char.isDigit
  | _ => []

/-- The exponent at the front of a text. -/
def takeExponent : List Char → List Char
  | e :: rest =>
      if e = 'e' ∨ e = 'E' then
        let sign := (rest.take 1).filter fun c => c == '-' || c == '+'
        let digits := (rest.drop sign.length).takeWhile Char.isDigit
        if digits = [] then [] else e :: (sign ++ digits)
      else []
  | [] => []

/-- The sign as it is written. -/
def signOf (negative : Bool) : List Char := if negative then ['-'] else []

/-- `int` or `float` of the parts of a number. -/
def numberOf (negative : Bool) (whole fraction exponent : List Char) : Option Json :=
  if fraction = [] ∧ exponent = [] then
    (parseInt (String.ofList (signOf negative ++ whole))).map .int
  else (parseDecimal (whole ++ (fraction ++ exponent))).map fun q =>
    .float (PyFloat.nearest negative q)

/-- `NUMBER_RE` at the front of a text and the number it matches; a text that goes on is none.
The error is the class of the exception. -/
def literal (text : List Char) : Except String Json :=
  let negative := text.head? == some '-'
  let body := if negative then text.tail else text
  let whole := if body.head? = some '0' then ['0'] else body.takeWhile Char.isDigit
  let fraction := takeFraction (body.drop whole.length)
  let exponent := takeExponent (body.drop (whole ++ fraction).length)
  if whole = [] then .error "JSONDecodeError"
  else match numberOf negative whole fraction exponent with
    | none => .error "ValueError"
    | some value =>
        if body.drop (whole ++ (fraction ++ exponent)).length = [] then .ok value
        else .error "JSONDecodeError"

/-! ## Reading what is written -/

theorem digitsValue_append (digits more : List Char) :
    digitsValue (digits ++ more) = 10 ^ more.length * digitsValue digits + digitsValue more := by
  have hfold : ∀ digits, digitsValue digits = Nat.ofDigitChars 10 digits 0 := fun _ => rfl
  rw [hfold, hfold, hfold, Nat.ofDigitChars_append, Nat.ofDigitChars_eq_ofDigitChars_zero]

theorem digitsValue_replicate_zero (n : ℕ) : digitsValue (List.replicate n '0') = 0 := by
  have hzero : Nat.ofDigitChars 10 (List.replicate n '0') 0 = 10 ^ n * 0 :=
    Nat.ofDigitChars_replicate_zero
  exact hzero.trans (mul_zero _)

/-- Only the zero starts with one. -/
theorem head_toDigits {n : ℕ} (h : (Nat.toDigits 10 n).head? = some '0') : n = 0 := by
  induction n using Nat.strong_induction_on with
  | _ n ih =>
      rcases Nat.lt_or_ge n 10 with hsmall | hlarge
      · rw [Nat.toDigits_of_lt_base hsmall] at h
        exact Nat.digitChar_eq_zero.mp (Option.some.inj h)
      · rw [Nat.toDigits_of_base_le (by decide) hlarge,
          List.head?_append_of_ne_nil _ Nat.toDigits_ne_nil] at h
        have hquotient := ih (n / 10) (by omega) h
        omega

/-- Digits that are the whole part of a number: no zero before others. -/
structure IsWhole (text : List Char) : Prop where
  isDigit : ∀ c ∈ text, c.isDigit = true
  ne_nil : text ≠ []
  head : text.head? = some '0' → text.length = 1

theorem isWhole_toDigits (n : ℕ) : IsWhole (Nat.toDigits 10 n) where
  isDigit := isDigit_toDigits n
  ne_nil := Nat.toDigits_ne_nil
  head h := by
    rw [head_toDigits h]
    rfl

/-- What follows a number does not start with a digit. -/
def EndsDigits (rest : List Char) : Prop := ∀ c ∈ rest.head?, c.isDigit = false

theorem takeWhile_isDigit_append {digits rest : List Char}
    (h : ∀ c ∈ digits, c.isDigit = true) (hrest : EndsDigits rest) :
    (digits ++ rest).takeWhile Char.isDigit = digits ∧
      (digits ++ rest).dropWhile Char.isDigit = rest := by
  have hstop : rest.takeWhile Char.isDigit = [] ∧ rest.dropWhile Char.isDigit = rest := by
    cases rest with
    | nil => exact ⟨rfl, rfl⟩
    | cons c rest =>
        have hc : ¬ c.isDigit = true := by
          rw [hrest c rfl]
          exact Bool.false_ne_true
        exact ⟨List.takeWhile_cons_of_neg hc, List.dropWhile_cons_of_neg hc⟩
  rw [List.takeWhile_append_of_pos h, List.dropWhile_append_of_pos h, hstop.1, hstop.2,
    List.append_nil]
  exact ⟨rfl, rfl⟩

/-- The fraction of a number, with its point. -/
def fractionText : List Char → List Char
  | [] => []
  | digits => '.' :: digits

theorem fractionText_cons (c : Char) (digits : List Char) :
    fractionText (c :: digits) = '.' :: c :: digits := rfl

/-- The text of a power of ten, or none at all. -/
inductive IsPower : List Char → ℤ → Prop
  | none : IsPower [] 0
  | written {digits : List Char} {power : ℤ} (isDigit : ∀ c ∈ digits, c.isDigit = true)
      (ne_nil : digits ≠ []) (value : digitsValue digits = power.natAbs) :
      IsPower ('e' :: (if power < 0 then '-' else '+') :: digits) power

section Parts

variable {whole fraction text : List Char} {power : ℤ}

theorem endsDigits_power (h : IsPower text power) : EndsDigits text := by
  cases h with
  | none =>
      rintro c ⟨⟩
  | written _ _ _ =>
      rintro c ⟨⟩
      decide

theorem endsDigits_fraction (h : IsPower text power) :
    EndsDigits (fractionText fraction ++ text) := by
  cases fraction with
  | nil => exact endsDigits_power h
  | cons c fraction =>
      rintro d ⟨⟩
      decide

theorem takeFraction_written (hfraction : ∀ c ∈ fraction, c.isDigit = true)
    (h : IsPower text power) : takeFraction (fractionText fraction ++ text) =
      fractionText fraction := by
  cases fraction with
  | nil =>
      cases h with
      | none => rfl
      | written _ _ _ => rfl
  | cons c fraction =>
      have htake := (takeWhile_isDigit_append hfraction (endsDigits_power h)).1
      rw [fractionText_cons, List.cons_append, takeFraction, htake, if_neg (List.cons_ne_nil _ _)]

theorem takeExponent_written (h : IsPower text power) : takeExponent text = text := by
  cases h with
  | none => rfl
  | @written digits power hdigit hne _ =>
      have hall : digits.takeWhile Char.isDigit = digits := List.takeWhile_eq_self_iff.mpr hdigit
      have hsign : ((if power < 0 then '-' else '+') == '-' ||
          (if power < 0 then '-' else '+') == '+') = true := by
        split <;> rfl
      simp [takeExponent, hsign, hall, hne]

theorem parseExponent_written {digits : List Char} (hdigit : ∀ c ∈ digits, c.isDigit = true)
    (hne : digits ≠ []) (hvalue : digitsValue digits = power.natAbs) :
    parseExponent ((if power < 0 then '-' else '+') :: digits) = some power := by
  have hall : digits.all Char.isDigit = true := List.all_eq_true.mpr hdigit
  by_cases hneg : power < 0
  · rw [if_pos hneg, parseExponent, if_pos ⟨hne, hall⟩, hvalue]
    exact congrArg some (by omega)
  · rw [if_neg hneg, parseExponent, if_pos ⟨hne, hall⟩, hvalue]
    exact congrArg some (by omega)

/-- Neither digits nor a point start an exponent. -/
theorem takeWhile_mantissa {mantissa : List Char}
    (hmantissa : ∀ c ∈ mantissa, (c != 'e' && c != 'E') = true) (h : IsPower text power) :
    (mantissa ++ text).takeWhile (fun c => c != 'e' && c != 'E') = mantissa := by
  have hstop : text.takeWhile (fun c => c != 'e' && c != 'E') = [] := by
    cases h with
    | none => rfl
    | written _ _ _ => rfl
  rw [List.takeWhile_append_of_pos hmantissa, hstop, List.append_nil]

/-- The number that its parts spell. -/
theorem parseDecimal_written (hwhole : IsWhole whole)
    (hfraction : ∀ c ∈ fraction, c.isDigit = true) (h : IsPower text power) :
    parseDecimal (whole ++ (fractionText fraction ++ text)) =
      some (digitsValue (whole ++ fraction) * (10 : ℚ) ^ (power - fraction.length)) := by
  have hdigit : ∀ c : Char, c.isDigit = true → (c != 'e' && c != 'E') = true := by
    intro c hc
    rw [Bool.and_eq_true, bne_iff_ne, bne_iff_ne]
    exact ⟨ne_of_isDigit hc (by decide), ne_of_isDigit hc (by decide)⟩
  have hmantissa : ∀ c ∈ whole ++ fractionText fraction, (c != 'e' && c != 'E') = true := by
    intro c hc
    rw [List.mem_append] at hc
    cases fraction with
    | nil => exact hdigit c (hwhole.isDigit c (hc.resolve_right List.not_mem_nil))
    | cons d fraction =>
        rw [fractionText_cons, List.mem_cons] at hc
        obtain hc | rfl | hc := hc
        · exact hdigit c (hwhole.isDigit c hc)
        · rfl
        · exact hdigit c (hfraction c hc)
  have htake := takeWhile_mantissa hmantissa h
  rw [List.append_assoc] at htake
  have hdrop : (whole ++ (fractionText fraction ++ text)).drop
      (whole ++ fractionText fraction).length = text := by
    rw [← List.append_assoc, List.drop_left]
  have hpoint : EndsDigits (fractionText fraction) := by
    simpa using endsDigits_fraction IsPower.none
  have hnot : ¬ (whole = [] ∧ fraction = []) := fun hnil => hwhole.ne_nil hnil.1
  rw [parseDecimal]
  simp only [htake, hdrop, (takeWhile_isDigit_append hwhole.isDigit hpoint).1, List.drop_left]
  cases fraction with
  | nil =>
      cases h with
      | none => exact if_neg hnot
      | written hdigits hne hvalue =>
          simp only [parseExponent_written hdigits hne hvalue]
          exact if_neg hnot
  | cons d fraction =>
      have hall : (d :: fraction).all Char.isDigit = true := List.all_eq_true.mpr hfraction
      cases h with
      | none =>
          simp only [fractionText_cons, hall, if_true]
          exact if_neg hnot
      | written hdigits hne hvalue =>
          simp only [fractionText_cons, hall, if_true, parseExponent_written hdigits hne hvalue]
          exact if_neg hnot

/-- A literal falls into its parts. -/
theorem literal_append (negative : Bool) (hwhole : IsWhole whole)
    (hfraction : ∀ c ∈ fraction, c.isDigit = true) (h : IsPower text power) :
    literal (signOf negative ++ (whole ++ (fractionText fraction ++ text))) =
      match numberOf negative whole (fractionText fraction) text with
      | none => .error "ValueError"
      | some value => .ok value := by
  have hhead : (whole ++ (fractionText fraction ++ text)).head? = whole.head? :=
    List.head?_append_of_ne_nil _ hwhole.ne_nil
  have hsign : ((signOf negative ++ (whole ++ (fractionText fraction ++ text))).head? ==
      some '-') = negative := by
    cases negative with
    | true => rfl
    | false =>
        obtain ⟨c, more, rfl⟩ := List.exists_cons_of_ne_nil hwhole.ne_nil
        have hc := ne_of_isDigit (hwhole.isDigit c List.mem_cons_self)
          (by decide : '-'.isDigit = false)
        simpa [signOf] using hc
  have hbody : (if negative = true then
      (signOf negative ++ (whole ++ (fractionText fraction ++ text))).tail
      else signOf negative ++ (whole ++ (fractionText fraction ++ text))) =
        whole ++ (fractionText fraction ++ text) := by
    cases negative <;> rfl
  have hdigits : (if (whole ++ (fractionText fraction ++ text)).head? = some '0' then ['0']
      else (whole ++ (fractionText fraction ++ text)).takeWhile Char.isDigit) = whole := by
    rw [hhead, (takeWhile_isDigit_append hwhole.isDigit (endsDigits_fraction h)).1]
    split
    next hzero =>
      obtain ⟨c, more, rfl⟩ := List.exists_cons_of_ne_nil hwhole.ne_nil
      have hmore : more = [] := by simpa using hwhole.head hzero
      rw [hmore, Option.some.inj hzero]
    next => rfl
  have hrest : (whole ++ (fractionText fraction ++ text)).drop
      (whole ++ fractionText fraction).length = text := by
    rw [← List.append_assoc, List.drop_left]
  rw [literal]
  simp only [hsign, hbody, hdigits, List.drop_left, takeFraction_written hfraction h, hrest,
    takeExponent_written h, if_neg hwhole.ne_nil, List.drop_length, if_true]

end Parts

theorem toList_int (n : ℤ) :
    (toString n).toList = signOf (decide (n < 0)) ++ Nat.toDigits 10 n.natAbs := by
  simp only [toList_toString, signOf, decide_eq_true_eq]

/-- An integer within Python's limit on its digits is read as it was written. -/
theorem literal_int {n : ℤ} (h : n.natAbs < 10 ^ intMaxStrDigits) :
    literal (toString n).toList = .ok (.int n) := by
  have hnone : ∀ c ∈ ([] : List Char), c.isDigit = true := fun _ hc => absurd hc List.not_mem_nil
  have hread := literal_append (decide (n < 0)) (isWhole_toDigits n.natAbs) hnone .none
  have hnil : fractionText [] ++ [] = [] := rfl
  have hnumber : numberOf (decide (n < 0)) (Nat.toDigits 10 n.natAbs) (fractionText []) [] =
      some (.int n) := by
    rw [numberOf, if_pos ⟨rfl, rfl⟩, ← toList_int, String.ofList_toList, parseInt_toString h]
    rfl
  rw [hnil, List.append_nil, ← toList_int, hnumber] at hread
  exact hread

/-- A double that is written with a fraction, an exponent, or both. -/
theorem literal_written (negative : Bool) {whole fraction text : List Char} {power : ℤ}
    (hwhole : IsWhole whole) (hfraction : ∀ c ∈ fraction, c.isDigit = true)
    (h : IsPower text power) (hne : fractionText fraction ++ text ≠ []) :
    literal (signOf negative ++ (whole ++ (fractionText fraction ++ text))) =
      .ok (.float (PyFloat.nearest negative
        (digitsValue (whole ++ fraction) * (10 : ℚ) ^ (power - fraction.length)))) := by
  rw [literal_append negative hwhole hfraction h, numberOf,
    if_neg fun hnil => hne (List.append_eq_nil_iff.mpr hnil),
    parseDecimal_written hwhole hfraction h]
  rfl

/-! ## Doubles -/

/-- The parts of a double's text, and the number they spell. -/
structure Spells (x : Decimal) (whole fraction text : List Char) (power : ℤ) : Prop where
  isWhole : IsWhole whole
  isDigit : ∀ c ∈ fraction, c.isDigit = true
  isPower : IsPower text power
  ne_nil : fractionText fraction ++ text ≠ []
  repr : x.repr.toList = signOf x.negative ++ (whole ++ (fractionText fraction ++ text))
  value : digitsValue (whole ++ fraction) * (10 : ℚ) ^ (power - fraction.length) =
    x.digits * (10 : ℚ) ^ x.exponent

theorem isWhole_of_head {text : List Char} (h : ∀ c ∈ text, c.isDigit = true) (hne : text ≠ [])
    (hhead : text.head? ≠ some '0') : IsWhole text where
  isDigit := h
  ne_nil := hne
  head hzero := absurd hzero hhead

theorem toList_sign (negative : Bool) :
    (if negative then "-" else "").toList = signOf negative := by
  cases negative <;> rfl

section Parts

variable {x : Decimal}

theorem spells_zero (h : x.digits = 0) : Spells x ['0'] ['0'] [] 0 where
  isWhole := isWhole_toDigits 0
  isDigit := isDigit_toDigits 0
  isPower := IsPower.none
  ne_nil := List.cons_ne_nil _ _
  repr := by
    simp only [Decimal.repr, h, if_true, String.toList_append, toList_sign]
    rfl
  value := by
    rw [h]
    simp [digitsValue]

/-- The digits of a number that is not zero. -/
theorem digits_head (h : x.digits ≠ 0) : (Nat.toDigits 10 x.digits).head? ≠ some '0' :=
  fun hzero => h (head_toDigits hzero)

theorem length_toString (n : ℕ) : (toString n).length = (Nat.toDigits 10 n).length := by
  rw [← String.length_toList, Nat.toString_eq_repr, Nat.toList_repr]

theorem toList_natString (n : ℕ) : (toString n).toList = Nat.toDigits 10 n := by
  rw [Nat.toString_eq_repr, Nat.toList_repr]

/-- The exponent has two digits at least. -/
theorem isPower_padded (power : ℤ) : IsPower ('e' :: (if power < 0 then '-' else '+') ::
    ((if (toString power.natAbs).length = 1 then "0" else "") ++ toString power.natAbs).toList)
      power := by
  apply IsPower.written
  · intro c hc
    rw [String.toList_append, List.mem_append, toList_natString] at hc
    obtain hc | hc := hc
    · split at hc
      · exact isDigit_toDigits 0 c hc
      · cases hc
    · exact isDigit_toDigits _ c hc
  · rw [String.toList_append, toList_natString]
    exact List.append_ne_nil_of_right_ne_nil _ Nat.toDigits_ne_nil
  · rw [String.toList_append, toList_natString, digitsValue_append, digitsValue_toDigits]
    split
    · exact (congrArg (· + power.natAbs) (mul_zero _)).trans (zero_add _)
    · exact (congrArg (· + power.natAbs) (mul_zero _)).trans (zero_add _)

/-- One digit, the others as its fraction, and the exponent. -/
theorem spells_scientific {point : ℤ} (h : x.digits ≠ 0)
    (hpoint : point = (Nat.toDigits 10 x.digits).length + x.exponent)
    (hfar : point ≤ -4 ∨ 16 < point) :
    Spells x ((Nat.toDigits 10 x.digits).take 1) ((Nat.toDigits 10 x.digits).drop 1)
      ('e' :: (if point - 1 < 0 then '-' else '+') ::
        ((if (toString (point - 1).natAbs).length = 1 then "0" else "") ++
          toString (point - 1).natAbs).toList) (point - 1) where
  isWhole := by
    obtain ⟨c, rest, htext⟩ := List.exists_cons_of_ne_nil
      (Nat.toDigits_ne_nil : Nat.toDigits 10 x.digits ≠ [])
    have hc := isDigit_toDigits x.digits c (by rw [htext]; exact List.mem_cons_self)
    rw [htext, List.take_succ_cons, List.take_zero]
    exact { isDigit := by simpa using hc, ne_nil := List.cons_ne_nil _ _, head := fun _ => rfl }
  isDigit c hc := isDigit_toDigits _ c (List.mem_of_mem_drop hc)
  isPower := isPower_padded _
  ne_nil := List.append_ne_nil_of_right_ne_nil _ (List.cons_ne_nil _ _)
  repr := by
    have hmantissa : (if (toString x.digits).length = 1 then toString x.digits
        else String.ofList ((toString x.digits).toList.take 1) ++ "." ++
          String.ofList ((toString x.digits).toList.drop 1)).toList =
        (Nat.toDigits 10 x.digits).take 1 ++ fractionText ((Nat.toDigits 10 x.digits).drop 1) := by
      obtain ⟨c, rest, htext⟩ := List.exists_cons_of_ne_nil
        (Nat.toDigits_ne_nil : Nat.toDigits 10 x.digits ≠ [])
      rw [length_toString, toList_natString, htext]
      cases rest with
      | nil =>
          rw [if_pos List.length_singleton, toList_natString, htext]
          rfl
      | cons d rest =>
          simp only [if_neg (by simp : ¬ (c :: d :: rest).length = 1), String.toList_append,
            String.toList_ofList]
          rfl
    have hpoint' : ((toString x.digits).length : ℤ) + x.exponent = point := by
      rw [length_toString, hpoint]
    have hsign : (if point - 1 < 0 then "-" else "+").toList =
        [if point - 1 < 0 then '-' else '+'] := by
      split <;> rfl
    simp only [Decimal.repr, if_neg h, hpoint', if_pos hfar, String.toList_append, toList_sign,
      hsign] at hmantissa ⊢
    rw [hmantissa]
    simp only [List.append_assoc]
    rfl
  value := by
    have hlength := List.length_pos_iff.mpr
      (Nat.toDigits_ne_nil : Nat.toDigits 10 x.digits ≠ [])
    rw [List.take_append_drop, digitsValue_toDigits, List.length_drop, hpoint]
    congr 2
    omega

/-- Zeros before the digits. -/
theorem spells_small {point : ℤ} (h : x.digits ≠ 0)
    (hpoint : point = (Nat.toDigits 10 x.digits).length + x.exponent)
    (hnear : ¬ (point ≤ -4 ∨ 16 < point)) (hsmall : point ≤ 0) :
    Spells x ['0'] (List.replicate point.natAbs '0' ++ Nat.toDigits 10 x.digits) [] 0 where
  isWhole := isWhole_toDigits 0
  isDigit c hc := by
    rw [List.mem_append] at hc
    obtain hc | hc := hc
    · rw [List.eq_of_mem_replicate hc]
      rfl
    · exact isDigit_toDigits _ c hc
  isPower := IsPower.none
  ne_nil := by
    rw [List.append_nil]
    cases hfraction : List.replicate point.natAbs '0' ++ Nat.toDigits 10 x.digits with
    | nil => exact absurd (List.append_eq_nil_iff.mp hfraction).2 Nat.toDigits_ne_nil
    | cons c fraction => exact List.cons_ne_nil _ _
  repr := by
    have hpoint' : ((toString x.digits).length : ℤ) + x.exponent = point := by
      rw [length_toString, hpoint]
    have hfraction : fractionText (List.replicate point.natAbs '0' ++ Nat.toDigits 10 x.digits) =
        '.' :: (List.replicate point.natAbs '0' ++ Nat.toDigits 10 x.digits) := by
      cases hfraction : List.replicate point.natAbs '0' ++ Nat.toDigits 10 x.digits with
      | nil => exact absurd (List.append_eq_nil_iff.mp hfraction).2 Nat.toDigits_ne_nil
      | cons c fraction => rfl
    simp only [Decimal.repr, if_neg h, hpoint', if_neg hnear, if_pos hsmall, String.toList_append,
      toList_sign, String.toList_ofList, toList_natString, hfraction, List.append_nil]
    simp
  value := by
    have hzeros : digitsValue (['0'] ++ (List.replicate point.natAbs '0' ++
        Nat.toDigits 10 x.digits)) = x.digits := by
      rw [digitsValue_append, digitsValue_append, digitsValue_replicate_zero, digitsValue_toDigits]
      simp [digitsValue]
    rw [hzeros, List.length_append, List.length_replicate]
    congr 2
    omega

/-- Zeros after the digits. -/
theorem spells_large {point : ℤ} (h : x.digits ≠ 0)
    (hpoint : point = (Nat.toDigits 10 x.digits).length + x.exponent)
    (hnear : ¬ (point ≤ -4 ∨ 16 < point)) (hpos : ¬ point ≤ 0)
    (hlarge : ((Nat.toDigits 10 x.digits).length : ℤ) ≤ point) :
    Spells x (Nat.toDigits 10 x.digits ++
      List.replicate (point - (Nat.toDigits 10 x.digits).length).natAbs '0') ['0'] [] 0 where
  isWhole := by
    apply isWhole_of_head
    · intro c hc
      rw [List.mem_append] at hc
      obtain hc | hc := hc
      · exact isDigit_toDigits _ c hc
      · rw [List.eq_of_mem_replicate hc]
        rfl
    · exact List.append_ne_nil_of_left_ne_nil Nat.toDigits_ne_nil _
    · rw [List.head?_append_of_ne_nil _ Nat.toDigits_ne_nil]
      exact digits_head h
  isDigit := isDigit_toDigits 0
  isPower := IsPower.none
  ne_nil := List.cons_ne_nil _ _
  repr := by
    have hpoint' : ((toString x.digits).length : ℤ) + x.exponent = point := by
      rw [length_toString, hpoint]
    have hlarge' : ((toString x.digits).length : ℤ) ≤ point := by rwa [length_toString]
    simp only [Decimal.repr, if_neg h, hpoint', if_neg hnear, if_neg hpos, if_pos hlarge',
      String.toList_append, toList_sign, String.toList_ofList, toList_natString]
    rw [length_toString]
    simp [fractionText]
  value := by
    have hpower : x.exponent = (point - (Nat.toDigits 10 x.digits).length).natAbs := by omega
    rw [digitsValue_append, digitsValue_append, digitsValue_replicate_zero, digitsValue_toDigits,
      hpower, zpow_natCast]
    simp [digitsValue]
    ring

/-- The point among the digits. -/
theorem spells_within {point : ℤ} (h : x.digits ≠ 0)
    (hpoint : point = (Nat.toDigits 10 x.digits).length + x.exponent)
    (hnear : ¬ (point ≤ -4 ∨ 16 < point)) (hpos : ¬ point ≤ 0)
    (hwithin : ¬ ((Nat.toDigits 10 x.digits).length : ℤ) ≤ point) :
    Spells x ((Nat.toDigits 10 x.digits).take point.natAbs)
      ((Nat.toDigits 10 x.digits).drop point.natAbs) [] 0 where
  isWhole := by
    apply isWhole_of_head
    · exact fun c hc => isDigit_toDigits _ c (List.mem_of_mem_take hc)
    · rw [ne_eq, List.take_eq_nil_iff, not_or]
      exact ⟨by omega, Nat.toDigits_ne_nil⟩
    · rw [List.head?_take, if_neg (by omega)]
      exact digits_head h
  isDigit c hc := isDigit_toDigits _ c (List.mem_of_mem_drop hc)
  isPower := IsPower.none
  ne_nil := by
    rw [List.append_nil]
    cases hfraction : (Nat.toDigits 10 x.digits).drop point.natAbs with
    | nil =>
        have hlength := List.drop_eq_nil_iff.mp hfraction
        omega
    | cons c fraction => exact List.cons_ne_nil _ _
  repr := by
    have hpoint' : ((toString x.digits).length : ℤ) + x.exponent = point := by
      rw [length_toString, hpoint]
    have hwithin' : ¬ ((toString x.digits).length : ℤ) ≤ point := by rwa [length_toString]
    have hfraction : fractionText ((Nat.toDigits 10 x.digits).drop point.natAbs) =
        '.' :: (Nat.toDigits 10 x.digits).drop point.natAbs := by
      cases hfraction : (Nat.toDigits 10 x.digits).drop point.natAbs with
      | nil =>
          have hlength := List.drop_eq_nil_iff.mp hfraction
          omega
      | cons c fraction => rfl
    simp only [Decimal.repr, if_neg h, hpoint', if_neg hnear, if_neg hpos, if_neg hwithin',
      String.toList_append, toList_sign, String.toList_ofList, toList_natString, hfraction]
    simp
  value := by
    rw [List.take_append_drop, digitsValue_toDigits, List.length_drop]
    congr 2
    omega

end Parts

/-- Every double's text falls into its parts. -/
theorem exists_spells (x : Decimal) :
    ∃ whole fraction text power, Spells x whole fraction text power := by
  obtain ⟨point, hpoint⟩ : ∃ point : ℤ,
      point = (Nat.toDigits 10 x.digits).length + x.exponent := ⟨_, rfl⟩
  by_cases h : x.digits = 0
  · exact ⟨_, _, _, _, spells_zero h⟩
  by_cases hfar : point ≤ -4 ∨ 16 < point
  · exact ⟨_, _, _, _, spells_scientific h hpoint hfar⟩
  by_cases hsmall : point ≤ 0
  · exact ⟨_, _, _, _, spells_small h hpoint hfar hsmall⟩
  by_cases hlarge : ((Nat.toDigits 10 x.digits).length : ℤ) ≤ point
  · exact ⟨_, _, _, _, spells_large h hpoint hfar hsmall hlarge⟩
  · exact ⟨_, _, _, _, spells_within h hpoint hfar hsmall hlarge⟩

/-- A double is read as it was written. -/
theorem literal_repr {x : Decimal} (h : x.IsShortest) :
    literal x.repr.toList = .ok (.float (.finite x)) := by
  obtain ⟨whole, fraction, text, power, hx⟩ := exists_spells x
  rw [hx.repr, literal_written x.negative hx.isWhole hx.isDigit hx.isPower hx.ne_nil, hx.value, h]

/-! ## What is read can be written -/

theorem lt_of_parseDigits_go {text : List Char} {acc n : ℕ}
    (h : parseDigits.go acc text = some n) :
    n < (acc + 1) * 10 ^ (text.filter Char.isDigit).length := by
  have hdigit : ∀ (c : Char) (acc count : ℕ), c.isDigit = true →
      (10 * acc + (c.toNat - 48) + 1) * 10 ^ count ≤ (acc + 1) * 10 ^ (count + 1) := by
    intro c acc count hc
    have hrange := Char.isDigit_iff_toNat.mp hc
    have hnine : '9'.toNat = 57 := rfl
    have hle : 10 * acc + (c.toNat - 48) + 1 ≤ (acc + 1) * 10 := by omega
    calc (10 * acc + (c.toNat - 48) + 1) * 10 ^ count
        ≤ (acc + 1) * 10 * 10 ^ count := Nat.mul_le_mul_right _ hle
      _ = (acc + 1) * 10 ^ (count + 1) := by ring
  fun_induction parseDigits.go acc text with
  | case1 acc =>
      rw [Option.some.inj h]
      simp
  | case2 acc c rest hc ih =>
      rw [List.filter_cons_of_neg (by decide), List.filter_cons_of_pos hc, List.length_cons]
      exact lt_of_lt_of_le (ih h) (hdigit c acc _ hc)
  | case3 => cases h
  | case4 acc c rest _ hc ih =>
      rw [List.filter_cons_of_pos hc, List.length_cons]
      exact lt_of_lt_of_le (ih h) (hdigit c acc _ hc)
  | case5 => cases h

theorem lt_of_parseDigits {text : List Char} {n : ℕ} (h : parseDigits text = some n) :
    n < 10 ^ (text.filter Char.isDigit).length := by
  cases text with
  | nil => cases h
  | cons c rest =>
      rw [parseDigits] at h
      split at h
      next hc =>
        have hrange := Char.isDigit_iff_toNat.mp hc
        have hnine : '9'.toNat = 57 := rfl
        have hle : c.toNat - 48 + 1 ≤ 10 := by omega
        rw [List.filter_cons_of_pos hc, List.length_cons]
        calc n < (c.toNat - 48 + 1) * 10 ^ (rest.filter Char.isDigit).length :=
              lt_of_parseDigits_go h
          _ ≤ 10 * 10 ^ (rest.filter Char.isDigit).length := Nat.mul_le_mul_right _ hle
          _ = 10 ^ ((rest.filter Char.isDigit).length + 1) := by ring
      next => cases h

/-- `int` reads no number that it could not read again. -/
theorem natAbs_lt_of_parseInt {s : String} {n : ℤ} (h : parseInt s = some n) :
    n.natAbs < 10 ^ intMaxStrDigits := by
  simp only [parseInt] at h
  split at h
  next => cases h
  next hfew =>
    have hbound : ∀ text : List Char, (text.filter Char.isDigit).length ≤ intMaxStrDigits →
        ∀ k : ℤ, (parseDigits text >>= fun n => pure (n : ℤ)) = some k →
          k.natAbs < 10 ^ intMaxStrDigits := by
      intro text hle k hk
      obtain ⟨n, hn, heq⟩ := Option.bind_eq_some_iff.mp hk
      rw [← Option.some.inj heq, Int.natAbs_natCast]
      exact lt_of_lt_of_le (lt_of_parseDigits hn) (Nat.pow_le_pow_right (by decide) hle)
    rw [not_lt] at hfew
    split at h
    next rest heq =>
      obtain ⟨k, hk, rfl⟩ := Option.map_eq_some_iff.mp h
      rw [heq, List.filter_cons_of_neg (by decide)] at hfew
      rw [Int.natAbs_neg]
      exact hbound rest hfew k hk
    next rest heq =>
      obtain ⟨k, hk, rfl⟩ := Option.map_eq_some_iff.mp h
      rw [heq, List.filter_cons_of_neg (by decide)] at hfew
      exact hbound rest hfew k hk
    next =>
      obtain ⟨k, hk, rfl⟩ := Option.map_eq_some_iff.mp h
      exact hbound _ hfew k hk

/-- A rounded number is a whole number of the unit in which it would be rounded again. -/
theorem exists_unit {m : ℕ} {e : ℤ} (hm : m ≤ 2 ^ 53) (he : -1074 ≤ e) (hpos : 0 < m) :
    ∃ k : ℤ, (m : ℚ) * 2 ^ e / 2 ^ max (Int.log 2 ((m : ℚ) * 2 ^ e) - 52) (-1074) = k := by
  have hpower : (0 : ℚ) < 2 ^ e := zpow_pos two_pos e
  have hvalue : (0 : ℚ) < m * 2 ^ e := mul_pos (by exact_mod_cast hpos) hpower
  obtain ⟨unit, hunit⟩ : ∃ unit, unit = max (Int.log 2 ((m : ℚ) * 2 ^ e) - 52) (-1074) :=
    ⟨_, rfl⟩
  rw [← hunit]
  by_cases hle : unit ≤ e
  · obtain ⟨more, hmore⟩ : ∃ more : ℕ, e = unit + more := ⟨(e - unit).toNat, by omega⟩
    refine ⟨m * 2 ^ more, ?_⟩
    rw [hmore, zpow_add₀ two_ne_zero, zpow_natCast]
    push_cast
    field_simp
  · have hlog : e + 53 ≤ Int.log 2 ((m : ℚ) * 2 ^ e) := by omega
    have hlarge := (Int.zpow_le_iff_le_log (by norm_num) hvalue).mpr hlog
    rw [Nat.cast_ofNat, zpow_add₀ two_ne_zero, mul_comm] at hlarge
    have hge : (2 : ℚ) ^ (53 : ℤ) ≤ m := le_of_mul_le_mul_right hlarge hpower
    have hge' : 2 ^ 53 ≤ m := by exact_mod_cast hge
    have hm : m = 2 ^ 53 := le_antisymm hm hge'
    have heq : (m : ℚ) * 2 ^ e = 2 ^ (e + 53) := by
      rw [hm, zpow_add₀ two_ne_zero, mul_comm]
      norm_cast
    have hlog' : Int.log 2 ((m : ℚ) * 2 ^ e) = e + 53 := by
      rw [heq]
      exact_mod_cast Int.log_zpow (R := ℚ) (b := 2) (by norm_num) (e + 53)
    have hnext : unit = e + 1 := by omega
    refine ⟨2 ^ 52, ?_⟩
    rw [heq, hnext, ← zpow_sub₀ two_ne_zero]
    norm_num

theorem roundHalfEven_mem (q : ℚ) : roundHalfEven q = ⌊q⌋ ∨ roundHalfEven q = ⌊q⌋ + 1 := by
  rw [roundHalfEven]
  split_ifs <;> simp

/-- Rounding twice is rounding once. -/
theorem Double.ofRat_ofRat {q d : ℚ} (hq : 0 ≤ q) (h : Double.ofRat q = .finite d) :
    (∃ (m : ℕ) (e : ℤ), d = m * 2 ^ e) ∧ Double.ofRat d = .finite d := by
  obtain rfl | hpos := hq.eq_or_lt
  · cases h
    exact ⟨⟨0, 0, by simp⟩, rfl⟩
  obtain ⟨unit, hunit⟩ : ∃ unit, unit = max (Int.log 2 q - 52) (-1074) := ⟨_, rfl⟩
  have hpower : (0 : ℚ) < 2 ^ unit := zpow_pos two_pos unit
  have hscaled : q / 2 ^ unit < 2 ^ (53 : ℤ) := by
    rw [div_lt_iff₀ hpower, ← zpow_add₀ two_ne_zero]
    calc q < 2 ^ (Int.log 2 q + 1) := by
          exact_mod_cast Int.lt_zpow_succ_log_self (b := 2) (by norm_num) q
      _ ≤ 2 ^ (53 + unit) := zpow_le_zpow_right₀ (by norm_num) (by omega)
  have hfloor : 0 ≤ ⌊q / 2 ^ unit⌋ := Int.floor_nonneg.mpr (div_nonneg hq hpower.le)
  have hfloor' : ⌊q / 2 ^ unit⌋ < 2 ^ 53 := by
    rw [Int.floor_lt]
    exact_mod_cast hscaled
  obtain ⟨m, hm⟩ : ∃ m : ℕ, roundHalfEven (q / 2 ^ unit) = m := by
    apply Int.eq_ofNat_of_zero_le
    obtain heq | heq := roundHalfEven_mem (q / 2 ^ unit) <;> omega
  have hle : m ≤ 2 ^ 53 := by
    obtain heq | heq := roundHalfEven_mem (q / 2 ^ unit) <;> omega
  simp only [Double.ofRat, if_neg hpos.ne', abs_of_pos hpos, ← hunit, hm, Int.cast_natCast,
    if_neg hpos.not_gt] at h
  split at h
  next => cases h
  next hfinite =>
    injection h with hd
    refine ⟨⟨m, unit, hd.symm⟩, ?_⟩
    obtain rfl | hmpos := Nat.eq_zero_or_pos m
    · rw [← hd]
      simp [Double.ofRat]
    · have hlow : -1074 ≤ unit := by omega
      obtain ⟨k, hk⟩ := exists_unit hle hlow hmpos
      have hdpos : 0 < d := by
        rw [← hd]
        exact mul_pos (by exact_mod_cast hmpos) hpower
      rw [hd] at hk hfinite
      have hround : (roundHalfEven (d / 2 ^ max (Int.log 2 d - 52) (-1074)) : ℚ) *
          2 ^ max (Int.log 2 d - 52) (-1074) = d := by
        rw [hk, roundHalfEven_intCast, ← hk, div_mul_cancel₀]
        exact zpow_ne_zero _ two_ne_zero
      simp only [Double.ofRat, if_neg hdpos.ne', abs_of_pos hdpos, hround, if_neg hfinite,
        if_neg hdpos.not_gt]

theorem Decimal.ofRat_candidate {q : ℚ} {n : ℕ} {decimal : ℕ × ℤ}
    (h : Decimal.candidate q n = some decimal) :
    Double.ofRat (decimal.1 * 10 ^ decimal.2) = .finite q := by
  simp only [Decimal.candidate] at h
  split at h
  next hlow hhigh =>
    cases h
    split
    · exact of_decide_eq_true hlow
    · exact of_decide_eq_true hhigh
  next hlow _ =>
    cases h
    exact of_decide_eq_true hlow
  next _ hhigh =>
    cases h
    exact of_decide_eq_true hhigh
  next => cases h

theorem Decimal.value_trim (fuel digits : ℕ) (exponent : ℤ) :
    ((Decimal.trim fuel (digits, exponent)).1 : ℚ) *
      10 ^ (Decimal.trim fuel (digits, exponent)).2 = digits * 10 ^ exponent := by
  induction fuel generalizing digits exponent with
  | zero => rfl
  | succ fuel ih =>
      rw [Decimal.trim]
      split
      next hzero =>
        obtain ⟨less, rfl⟩ := Nat.dvd_of_mod_eq_zero hzero
        rw [ih, Nat.mul_div_cancel_left less (by decide), zpow_add_one₀ (by norm_num)]
        push_cast
        ring
      next => rfl

theorem Decimal.value_exact {q : ℚ} (hq : 0 ≤ q) {m : ℕ} {e : ℤ} (h : q = m * 2 ^ e) :
    ((Decimal.exact q).1 : ℚ) * 10 ^ (Decimal.exact q).2 = q := by
  obtain ⟨k, hden⟩ : ∃ k, q.den = 2 ^ k := by
    obtain ⟨power, rfl | rfl⟩ := Int.eq_nat_or_neg e
    · have hint : q = ((m * 2 ^ power : ℕ) : ℚ) := by
        rw [h, zpow_natCast]
        push_cast
        rfl
      exact ⟨0, by rw [hint, Rat.den_natCast, pow_zero]⟩
    · have hratio : q = Rat.divInt m ((2 ^ power : ℕ) : ℤ) := by
        rw [h, Rat.divInt_eq_div, zpow_neg, zpow_natCast, div_eq_mul_inv]
        push_cast
        rfl
      have hdvd : q.den ∣ 2 ^ power := by
        rw [hratio]
        exact Int.natCast_dvd_natCast.mp (Rat.den_dvd _ _)
      obtain ⟨k, -, hk⟩ := (Nat.dvd_prime_pow Nat.prime_two).mp hdvd
      exact ⟨k, hk⟩
  have hnum : ((q.num.natAbs : ℕ) : ℚ) = q.num := by
    rw [← Int.cast_natCast, Int.natAbs_of_nonneg (Rat.num_nonneg.mpr hq)]
  have hlog : Nat.log 2 q.den = k := by rw [hden, Nat.log_pow (by norm_num)]
  have hten : (10 : ℚ) ^ k = 5 ^ k * 2 ^ k := by
    rw [← mul_pow]
    norm_num
  have hratio : q * 2 ^ k = q.num := by
    have hcast : ((q.den : ℕ) : ℚ) = 2 ^ k := by
      rw [hden]
      push_cast
      rfl
    rw [← hcast, Rat.mul_den_eq_num]
  rw [Decimal.exact, hlog, zpow_neg, zpow_natCast, hten]
  push_cast
  rw [hnum, ← hratio]
  field_simp

/-- The shortest decimal of a double reads back as it. -/
theorem Decimal.ofRat_shortest {q d : ℚ} (hq : 0 ≤ q) (h : Double.ofRat q = .finite d)
    (negative : Bool) : Double.ofRat ((Decimal.shortest negative d).digits *
      10 ^ (Decimal.shortest negative d).exponent) = .finite d := by
  obtain ⟨⟨m, e, hd⟩, hagain⟩ := Double.ofRat_ofRat hq h
  have hdpos : 0 ≤ d := by
    rw [hd]
    exact mul_nonneg (Nat.cast_nonneg m) (zpow_pos two_pos e).le
  by_cases hzero : d = 0
  · simp [Decimal.shortest, hzero, Double.ofRat]
  · have hfound : ∀ found : Option (ℕ × ℤ),
        (∀ decimal, found = some decimal →
          Double.ofRat (decimal.1 * 10 ^ decimal.2) = .finite d) →
        Double.ofRat ((found.getD (Decimal.exact d)).1 *
          10 ^ (found.getD (Decimal.exact d)).2) = .finite d := by
      intro found hread
      cases found with
      | none => rwa [Option.getD_none, Decimal.value_exact hdpos hd]
      | some decimal => exact hread decimal rfl
    simp only [Decimal.shortest, if_neg hzero]
    rw [Decimal.value_trim]
    apply hfound
    intro decimal hdecimal
    obtain ⟨n, -, hn⟩ := List.exists_of_findSome?_eq_some hdecimal
    exact Decimal.ofRat_candidate hn

/-- What a double is held as is its shortest decimal. -/
theorem isShortest_nearest {negative : Bool} {q : ℚ} {x : Decimal} (hq : 0 ≤ q)
    (h : PyFloat.nearest negative q = .finite x) : x.IsShortest := by
  rw [PyFloat.nearest] at h
  split at h
  next d hd =>
    injection h with hx
    have hnegative : x.negative = negative := by
      rw [← hx]
      rfl
    rw [Decimal.IsShortest, PyFloat.nearest, ← hx, Decimal.ofRat_shortest hq hd]
    rfl
  next => cases h
  next => cases h

/-- A number that can be written: an integer of at most the digits Python reads, or a double held
as its shortest decimal. -/
def Json.WritableNumber : Json → Prop
  | .int n => n.natAbs < 10 ^ intMaxStrDigits
  | .float (.finite x) => x.IsShortest
  | .float _ => True
  | _ => False

theorem parseDecimal_nonneg {text : List Char} {q : ℚ} (h : parseDecimal text = some q) :
    0 ≤ q := by
  simp only [parseDecimal] at h
  split at h
  next =>
    split at h
    next => cases h
    next =>
      rw [← Option.some.inj h]
      exact mul_nonneg (Nat.cast_nonneg _) (zpow_pos (by norm_num) _).le
  next => cases h

theorem writable_of_numberOf {negative : Bool} {whole fraction exponent : List Char} {value : Json}
    (h : numberOf negative whole fraction exponent = some value) : value.WritableNumber := by
  rw [numberOf] at h
  split at h
  next =>
    obtain ⟨n, hn, rfl⟩ := Option.map_eq_some_iff.mp h
    exact natAbs_lt_of_parseInt hn
  next =>
    obtain ⟨q, hq, rfl⟩ := Option.map_eq_some_iff.mp h
    cases hx : PyFloat.nearest negative q with
    | finite x => exact isShortest_nearest (parseDecimal_nonneg hq) hx
    | infinite negative => trivial
    | nan => trivial

/-- Every number that is read can be written. -/
theorem writable_of_literal {text : List Char} {value : Json} (h : literal text = .ok value) :
    value.WritableNumber := by
  have hread : ∀ (whole rest : List Char) (number : Option Json),
      (if whole = [] then .error "JSONDecodeError"
        else match number with
          | none => .error "ValueError"
          | some value => if rest = [] then .ok value else .error "JSONDecodeError") =
        (.ok value : Except String Json) → number = some value := by
    intro whole rest number hnumber
    split at hnumber
    next => cases hnumber
    next =>
      cases number with
      | none => cases hnumber
      | some found =>
          simp only at hnumber
          split at hnumber
          · exact congrArg some (Except.ok.inj hnumber)
          · cases hnumber
  exact writable_of_numberOf (hread _ _ _ h)

end Holabrain
