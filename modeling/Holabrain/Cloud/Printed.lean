import Mathlib.Data.Nat.Cast.Order.Field
import Holabrain.Cloud.Number

/-!
# Integers written and read back

A control sends the integer part of a number as a text, and its entity reads the text as a number
again.  `int` and `float` read from the text of an integer what was written, up to Python's limit
on the digits of an `int` and up to the rounding of a `float`.
-/

namespace Holabrain

/-! ## The text of an integer -/

theorem toList_toString (n : ℤ) : (toString n).toList =
    (if n < 0 then ['-'] else []) ++ Nat.toDigits 10 n.natAbs := by
  cases n with
  | ofNat n =>
      have hnonneg : ¬ Int.ofNat n < 0 := by
        rw [Int.ofNat_eq_natCast]
        omega
      rw [if_neg hnonneg, List.nil_append, Int.toString_eq_repr]
      exact Nat.toList_repr
  | negSucc n =>
      have htext : toString (Int.negSucc n) = "-" ++ (n + 1).repr := rfl
      rw [if_pos (Int.negSucc_lt_zero n), htext, String.toList_append, Nat.toList_repr]
      rfl

theorem isDigit_toDigits (n : ℕ) : ∀ c ∈ Nat.toDigits 10 n, c.isDigit = true :=
  fun _ hc => Nat.isDigit_of_mem_toDigits (by decide) (by decide) hc

theorem digitsValue_toDigits (n : ℕ) : digitsValue (Nat.toDigits 10 n) = n :=
  Nat.ofDigitChars_ten_toDigits

/-- A text without blanks that is all ASCII is read as it stands. -/
theorem numeral_of_ascii {s : String}
    (h : ∀ c ∈ s.toList, c.toNat < 127 ∧ isAsciiSpace c = false) : numeral s = s.toList := by
  have hsame : s.toList.map toAscii = s.toList := by
    have hchar : ∀ c ∈ s.toList, toAscii c = id c := fun c hc => if_pos (h c hc).1
    rw [List.map_congr_left hchar, List.map_id]
  have hstrip : ∀ text : List Char, (∀ c ∈ text, isAsciiSpace c = false) →
      text.dropWhile isAsciiSpace = text := by
    intro text hall
    cases text with
    | nil => rfl
    | cons c rest =>
        apply List.dropWhile_cons_of_neg
        rw [hall c List.mem_cons_self]
        exact Bool.false_ne_true
  have hblank : ∀ c ∈ s.toList, isAsciiSpace c = false := fun c hc => (h c hc).2
  have hblank' : ∀ c ∈ s.toList.reverse, isAsciiSpace c = false :=
    fun c hc => hblank c (List.mem_reverse.mp hc)
  rw [numeral, hsame, hstrip _ hblank, hstrip _ hblank', List.reverse_reverse]

theorem numeral_toString (n : ℤ) : numeral (toString n) =
    (if n < 0 then ['-'] else []) ++ Nat.toDigits 10 n.natAbs := by
  rw [numeral_of_ascii, toList_toString]
  intro c hc
  rw [toList_toString, List.mem_append] at hc
  obtain hsign | hdigit := hc
  · have hminus : c = '-' := by
      split at hsign
      · exact List.mem_singleton.mp hsign
      · cases hsign
    rw [hminus]
    decide
  · have hrange := Char.isDigit_iff_toNat.mp (isDigit_toDigits n.natAbs c hdigit)
    have hzero : '0'.toNat = 48 := rfl
    have hnine : '9'.toNat = 57 := rfl
    constructor
    · omega
    · simp [isAsciiSpace]
      omega

/-! ## `int` -/

/-- `sys.get_int_max_str_digits()`. -/
def intMaxStrDigits : ℕ := 4300

/-- `int(str(n))`, where `int` reads that many digits. -/
theorem parseInt_toString {n : ℤ} (h : n.natAbs < 10 ^ intMaxStrDigits) :
    parseInt (toString n) = some n := by
  have hdigits := isDigit_toDigits n.natAbs
  have hne : Nat.toDigits 10 n.natAbs ≠ [] := Nat.toDigits_ne_nil
  have hlength : (Nat.toDigits 10 n.natAbs).length ≤ intMaxStrDigits :=
    (Nat.length_toDigits_le_iff (by decide) (by decide)).mpr h
  have hread : parseDigits (Nat.toDigits 10 n.natAbs) = some n.natAbs := by
    rw [parseDigits_digits hdigits hne, digitsValue_toDigits]
  have hfilter : (Nat.toDigits 10 n.natAbs).filter Char.isDigit = Nat.toDigits 10 n.natAbs :=
    List.filter_eq_self.mpr hdigits
  rw [parseInt, numeral_toString]
  by_cases hneg : n < 0
  · have hfew : ¬ 4300 < (('-' :: Nat.toDigits 10 n.natAbs).filter Char.isDigit).length := by
      rw [List.filter_cons_of_neg (by decide), hfilter]
      exact not_lt.mpr hlength
    have hvalue : -((n.natAbs : ℕ) : ℤ) = n := by omega
    simp only [if_pos hneg, List.singleton_append, if_neg hfew, hread]
    exact congrArg some hvalue
  · have hfew : ¬ 4300 < ((Nat.toDigits 10 n.natAbs).filter Char.isDigit).length := by
      rw [hfilter]
      exact not_lt.mpr hlength
    have hvalue : ((n.natAbs : ℕ) : ℤ) = n := by omega
    obtain ⟨c, rest, htext⟩ := List.exists_cons_of_ne_nil hne
    have hc : c.isDigit = true := hdigits c (by rw [htext]; exact List.mem_cons_self)
    simp only [if_neg hneg, List.nil_append, if_neg hfew]
    split
    next heq => exact absurd (List.cons.inj (htext.symm.trans heq)).1 (ne_of_isDigit hc (by decide))
    next heq => exact absurd (List.cons.inj (htext.symm.trans heq)).1 (ne_of_isDigit hc (by decide))
    next =>
      rw [hread]
      exact congrArg some hvalue

/-! ## `float` -/

/-- A run of digits is no word. -/
theorem ne_word_of_digits {digits : List Char} (h : ∀ c ∈ digits, c.isDigit = true)
    (hne : digits ≠ []) {word : List Char} (hword : ∀ c ∈ word, c.isDigit = false) :
    digits.map Char.toLower ≠ word := by
  obtain ⟨c, rest, rfl⟩ := List.exists_cons_of_ne_nil hne
  have hc := h c List.mem_cons_self
  have hlower : c.toLower = c := by
    have hrange := Char.isDigit_iff_toNat.mp hc
    have hnine : '9'.toNat = 57 := rfl
    have hupper : 'A'.val.toNat = 65 := rfl
    have hval : c.val.toNat = c.toNat := rfl
    have hlow : ¬ (c.val ≥ 'A'.val ∧ c.val ≤ 'Z'.val) := by
      simp only [UInt32.le_iff_toNat_le]
      omega
    exact dif_neg hlow
  intro heq
  have hmem : c ∈ word := by
    rw [← heq, List.map_cons, hlower]
    exact List.mem_cons_self
  rw [hword c hmem] at hc
  cases hc

/-- `float(str(n))` is the double nearest to `n`. -/
theorem parseFloat_toString (n : ℤ) : parseFloat (toString n) = some (Double.ofRat n) := by
  have hdigits := isDigit_toDigits n.natAbs
  have hne : Nat.toDigits 10 n.natAbs ≠ [] := Nat.toDigits_ne_nil
  have hinf : ∀ word ∈ ["inf".toList, "infinity".toList, "nan".toList],
      (Nat.toDigits 10 n.natAbs).map Char.toLower ≠ word := by
    intro word hword
    apply ne_word_of_digits hdigits hne
    have hletters : ["inf".toList, "infinity".toList, "nan".toList].all
        (fun word => word.all fun c => !c.isDigit) = true := by decide
    intro c hc
    exact (Bool.not_eq_true' _).mp
      (List.all_eq_true.mp (List.all_eq_true.mp hletters word hword) c hc)
  have hfilter : (Nat.toDigits 10 n.natAbs).filter (· != '_') = Nat.toDigits 10 n.natAbs := by
    rw [List.filter_eq_self]
    intro d hd
    rw [bne_iff_ne]
    exact ne_of_isDigit (hdigits d hd) (by decide)
  have hdecimal := parseDecimal_digits hdigits hne
  rw [digitsValue_toDigits] at hdecimal
  have hunderscores : underscoresOk none (Nat.toDigits 10 n.natAbs) = true :=
    underscoresOk_digits none hdigits
  have hword : ¬ ((Nat.toDigits 10 n.natAbs).map Char.toLower = "inf".toList ∨
      (Nat.toDigits 10 n.natAbs).map Char.toLower = "infinity".toList) :=
    not_or.mpr ⟨hinf _ (by simp), hinf _ (by simp)⟩
  have hnan : ¬ (Nat.toDigits 10 n.natAbs).map Char.toLower = "nan".toList := hinf _ (by simp)
  simp only [parseFloat, numeral_toString]
  by_cases hneg : n < 0
  · have hvalue : -((n.natAbs : ℕ) : ℚ) = n := by
      have hint : -((n.natAbs : ℕ) : ℤ) = n := by omega
      exact_mod_cast hint
    simp only [if_pos hneg, List.singleton_append, if_neg hword, if_neg hnan, hunderscores,
      if_true, hfilter, hdecimal, Option.map_some, List.head?_cons, beq_self_eq_true, hvalue]
  · have hvalue : ((n.natAbs : ℕ) : ℚ) = n := by
      have hint : ((n.natAbs : ℕ) : ℤ) = n := by omega
      rw [← Int.cast_natCast, hint]
    obtain ⟨c, rest, htext⟩ := List.exists_cons_of_ne_nil hne
    have hc : c.isDigit = true := hdigits c (by rw [htext]; exact List.mem_cons_self)
    have hsign : ((Nat.toDigits 10 n.natAbs).head? == some '-') = false := by
      rw [htext]
      simpa using ne_of_isDigit hc (by decide : '-'.isDigit = false)
    simp only [if_neg hneg, List.nil_append, hsign]
    split
    next heq => exact absurd (List.cons.inj (htext.symm.trans heq)).1 (ne_of_isDigit hc (by decide))
    next heq => exact absurd (List.cons.inj (htext.symm.trans heq)).1 (ne_of_isDigit hc (by decide))
    next =>
      simp only [if_neg hword, if_neg hnan, hunderscores, if_true, hfilter, hdecimal,
        Option.map_some, hvalue]
      simp

/-! ## The integer part of a double -/

theorem Double.ofRat_neg {q p : ℚ} (h : Double.ofRat q = .finite p) :
    Double.ofRat (-q) = .finite (-p) := by
  by_cases hzero : q = 0
  · rw [hzero] at h ⊢
    have hp : (0 : ℚ) = p := by simpa [Double.ofRat] using h
    rw [← hp, neg_zero]
    rfl
  · simp only [Double.ofRat, if_neg hzero, neg_eq_zero, abs_neg] at h ⊢
    generalize (roundHalfEven (|q| / 2 ^ max (Int.log 2 |q| - 52) (-1074)) : ℚ) *
      2 ^ max (Int.log 2 |q| - 52) (-1074) = rounded at h ⊢
    split at h
    next => cases h
    next hfinite =>
      rw [if_neg hfinite]
      injection h with hp
      rw [← hp]
      obtain hneg | hpos := lt_or_gt_of_ne hzero
      · rw [if_pos hneg, if_neg (neg_pos.mpr hneg).not_gt, neg_neg]
      · rw [if_pos (neg_lt_zero.mpr hpos), if_neg hpos.not_gt]

/-- An integer below the precision of a double is one. -/
theorem Double.ofRat_intCast {n : ℤ} (h : n.natAbs < 2 ^ 53) : Double.ofRat n = .finite n := by
  have habs := Double.ofRat_natCast h
  obtain hsign | hsign := le_total 0 n
  · have hcast : ((n.natAbs : ℕ) : ℚ) = n := by
      have hint : ((n.natAbs : ℕ) : ℤ) = n := by omega
      rw [← Int.cast_natCast, hint]
    rwa [hcast] at habs
  · have hcast : -((n.natAbs : ℕ) : ℚ) = n := by
      have hint : -((n.natAbs : ℕ) : ℤ) = n := by omega
      exact_mod_cast hint
    have hneg := Double.ofRat_neg habs
    rwa [hcast] at hneg

/-- A double beyond the precision has no fraction. -/
theorem exists_intCast_of_large {q : ℚ} (h : Double.ofRat q = .finite q) (hlarge : 2 ^ 53 ≤ |q|) :
    ∃ n : ℤ, q = n := by
  have hpos : 0 < |q| := lt_of_lt_of_le (by norm_num) hlarge
  have hlog : (53 : ℤ) ≤ Int.log 2 |q| := by
    rw [← Int.zpow_le_iff_le_log (by norm_num) hpos]
    norm_num at hlarge ⊢
    exact hlarge
  obtain ⟨power, hpower⟩ : ∃ power : ℕ, max (Int.log 2 |q| - 52) (-1074) = power :=
    ⟨(Int.log 2 |q| - 52).toNat, by omega⟩
  simp only [Double.ofRat, if_neg (abs_pos.mp hpos), hpower, zpow_natCast] at h
  split at h
  · cases h
  injection h with hq
  rw [← hq]
  split
  · exact ⟨-(roundHalfEven (|q| / 2 ^ power) * 2 ^ power), by push_cast; rfl⟩
  · exact ⟨roundHalfEven (|q| / 2 ^ power) * 2 ^ power, by push_cast; rfl⟩

theorem truncate_intCast (n : ℤ) : truncate n = n := by
  simp [truncate]

theorem natAbs_truncate_le (q : ℚ) : ((truncate q).natAbs : ℚ) ≤ |q| := by
  have hden : (0 : ℚ) < q.den := by exact_mod_cast q.den_pos
  have habs : |q| = (q.num.natAbs : ℚ) / q.den := by
    rw [← Rat.num_div_den q, abs_div, abs_of_pos hden, Rat.num_div_den q, Nat.cast_natAbs,
      Int.cast_abs]
  have hnat : (truncate q).natAbs = q.num.natAbs / q.den := by
    rw [truncate, Int.natAbs_tdiv, Int.natAbs_natCast]
    rfl
  rw [habs, hnat]
  exact Nat.cast_div_le

/-- The integer part of a double is a double. -/
theorem Double.ofRat_truncate {q : ℚ} (h : Double.ofRat q = .finite q) :
    Double.ofRat (truncate q) = .finite (truncate q) := by
  obtain hsmall | hlarge := lt_or_ge |q| (2 ^ 53)
  · apply Double.ofRat_intCast
    have hcast : ((truncate q).natAbs : ℚ) < ((2 ^ 53 : ℕ) : ℚ) := by
      refine lt_of_le_of_lt (natAbs_truncate_le q) ?_
      push_cast
      exact hsmall
    exact_mod_cast hcast
  · obtain ⟨n, rfl⟩ := exists_intCast_of_large h hlarge
    rw [truncate_intCast, h]

end Holabrain
