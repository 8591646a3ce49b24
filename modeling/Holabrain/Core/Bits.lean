import Mathlib.Data.Nat.Digits.Lemmas
import Mathlib.Data.List.GetD
import Mathlib.Data.List.TakeDrop

/-!
# Bit strings

A number is written as the list of its binary digits, least significant first, and a bit
string is packed into bytes eight digits at a time, either way round.  The last byte is filled
up with zeros.
-/

namespace Holabrain.Bits

/-! ## Lists that are filled up -/

section Filled

variable {α : Type} {a : α}

theorem takeD_add (m n : ℕ) (l : List α) :
    l.takeD (m + n) a = l.takeD m a ++ (l.drop m).takeD n a := by
  induction m generalizing l with
  | zero => rw [Nat.zero_add, List.takeD_zero, List.drop_zero, List.nil_append]
  | succ m ih =>
      rw [Nat.succ_add, List.takeD_succ, List.takeD_succ, ih, List.cons_append, List.drop_tail]

theorem takeD_append {l l' : List α} {n : ℕ} (h : l.length ≤ n) :
    (l ++ l').takeD n a = l ++ l'.takeD (n - l.length) a := by
  obtain ⟨k, rfl⟩ := Nat.exists_eq_add_of_le h
  rw [takeD_add, List.takeD_left, List.drop_left, Nat.add_sub_cancel_left]

theorem mem_takeD {l : List α} {n : ℕ} {x : α} (h : x ∈ l.takeD n a) : x ∈ l ∨ x = a := by
  induction n generalizing l with
  | zero => cases h
  | succ n ih =>
      cases l with
      | nil =>
          rw [List.takeD_nil] at h
          exact .inr (List.eq_of_mem_replicate h)
      | cons y l =>
          rcases List.mem_cons.mp h with rfl | htail
          · exact .inl (.head _)
          · exact (ih htail).imp_left (.tail _)

end Filled

/-! ## Digits -/

theorem bit_ofDigits {bits : List ℕ} (hbits : ∀ bit ∈ bits, bit < 2) (i : ℕ) :
    (Nat.ofDigits 2 bits >>> i) &&& 1 = bits.getD i 0 := by
  rw [Nat.and_one_is_mod, Nat.shiftRight_eq_div_pow,
    Nat.ofDigits_div_pow_eq_ofDigits_drop i Nat.two_pos bits hbits, Nat.ofDigits_mod_eq_head!]
  rcases Nat.lt_or_ge i bits.length with hi | hi
  · rw [List.drop_eq_getElem_cons hi, List.getD_eq_getElem _ _ hi]
    exact Nat.mod_eq_of_lt (hbits _ (List.getElem_mem hi))
  · rw [List.drop_eq_nil_of_le hi, List.getD_eq_default _ _ hi]
    rfl

/-- Setting the next higher bit. -/
theorem ofDigits_or_shiftLeft {bits : List ℕ} (hbits : ∀ bit ∈ bits, bit < 2) (bit : ℕ) :
    Nat.ofDigits 2 bits ||| (bit <<< bits.length) = Nat.ofDigits 2 (bits ++ [bit]) := by
  have hlt : Nat.ofDigits 2 bits < 2 ^ bits.length :=
    Nat.ofDigits_lt_base_pow_length Nat.one_lt_two hbits
  rw [Nat.or_comm, ← Nat.shiftLeft_add_eq_or_of_lt hlt, Nat.shiftLeft_eq, Nat.ofDigits_append,
    Nat.ofDigits_singleton, Nat.add_comm, Nat.mul_comm]

theorem ofDigits_digitsAppend {width value : ℕ} :
    Nat.ofDigits 2 (Nat.digitsAppend 2 width value) = value := by
  rw [Nat.digitsAppend, Nat.ofDigits_append_replicate_zero, Nat.ofDigits_digits]

/-! ## Bytes -/

/-- Up to eight bits in one byte; the first is the lowest or the highest. -/
def packByte (lsbFirst : Bool) (bits : List ℕ) : UInt8 :=
  let filled := bits.takeD 8 0
  UInt8.ofNat (Nat.ofDigits 2 (if lsbFirst then filled else filled.reverse))

/-- The first bits of a string in so many bytes. -/
def packBytes (lsbFirst : Bool) : ℕ → List ℕ → List UInt8
  | 0, _ => []
  | n + 1, bits => packByte lsbFirst bits :: packBytes lsbFirst n (bits.drop 8)

/-- A bit string in as many bytes as it takes. -/
def pack (lsbFirst : Bool) (bits : List ℕ) : List UInt8 :=
  packBytes lsbFirst ((bits.length + 7) / 8) bits

theorem length_packBytes (lsbFirst : Bool) (n : ℕ) (bits : List ℕ) :
    (packBytes lsbFirst n bits).length = n := by
  induction n generalizing bits with
  | zero => rfl
  | succ n ih => rw [packBytes, List.length_cons, ih]

theorem take_packBytes (lsbFirst : Bool) {k n : ℕ} (h : k ≤ n) (bits : List ℕ) :
    (packBytes lsbFirst n bits).take k = packBytes lsbFirst k bits := by
  induction k generalizing n bits with
  | zero => rw [List.take_zero, packBytes]
  | succ k ih =>
      obtain ⟨n, rfl⟩ := Nat.exists_eq_add_of_le' (Nat.lt_of_lt_of_le k.succ_pos h)
      rw [packBytes, packBytes, List.take_succ_cons, ih (Nat.le_of_succ_le_succ h)]

/-- A prefix of the packed bytes packs a prefix of the bits. -/
theorem eq_packBytes_of_prefix {lsbFirst : Bool} {bits : List ℕ} {data : List UInt8}
    (h : data <+: pack lsbFirst bits) : data = packBytes lsbFirst data.length bits := by
  have hlength := h.length_le
  rw [pack, length_packBytes] at hlength
  rw [← take_packBytes lsbFirst hlength bits]
  exact List.prefix_iff_eq_take.mp h

theorem toNat_packByte {lsbFirst : Bool} {bits : List ℕ} (hbits : ∀ bit ∈ bits, bit < 2) :
    (packByte lsbFirst bits).toNat =
      Nat.ofDigits 2 (if lsbFirst then bits.takeD 8 0 else (bits.takeD 8 0).reverse) := by
  have hlt : Nat.ofDigits 2 (if lsbFirst then bits.takeD 8 0 else (bits.takeD 8 0).reverse) <
      2 ^ (if lsbFirst then bits.takeD 8 0 else (bits.takeD 8 0).reverse).length := by
    apply Nat.ofDigits_lt_base_pow_length Nat.one_lt_two
    intro bit hbit
    have hmem : bit ∈ bits.takeD 8 0 := by
      split at hbit
      · exact hbit
      · exact List.mem_reverse.mp hbit
    rcases mem_takeD hmem with hmem | rfl
    · exact hbits bit hmem
    · exact Nat.two_pos
  have hlength : (if lsbFirst then bits.takeD 8 0 else (bits.takeD 8 0).reverse).length = 8 := by
    split
    · exact List.takeD_length _ _ _
    · rw [List.length_reverse, List.takeD_length]
  rw [hlength] at hlt
  rw [packByte, UInt8.toNat_ofNat']
  exact Nat.mod_eq_of_lt hlt

/-- Reading a packed byte bit by bit, in the order it was packed in. -/
theorem bits_packByte {lsbFirst : Bool} {bits : List ℕ} (hbits : ∀ bit ∈ bits, bit < 2) :
    (List.range 8).map (fun index =>
      ((packByte lsbFirst bits).toNat >>> (if lsbFirst then index else 7 - index)) &&& 1) =
      bits.takeD 8 0 := by
  have hfilled : ∀ bit ∈ bits.takeD 8 0, bit < 2 := by
    intro bit hbit
    rcases mem_takeD hbit with hmem | rfl
    · exact hbits bit hmem
    · exact Nat.two_pos
  have hlength : (bits.takeD 8 0).length = 8 := List.takeD_length _ _ _
  apply List.ext_getElem
  · rw [List.length_map, List.length_range, hlength]
  intro i hi hi'
  have hi8 : i < 8 := hlength ▸ hi'
  rw [List.getElem_map, List.getElem_range, toNat_packByte hbits]
  cases lsbFirst with
  | true =>
      rw [if_pos rfl, if_pos rfl, bit_ofDigits hfilled, List.getD_eq_getElem _ _ hi']
  | false =>
      rw [if_neg Bool.false_ne_true, if_neg Bool.false_ne_true, bit_ofDigits]
      · have h7 : 7 - i < (bits.takeD 8 0).reverse.length := by
          rw [List.length_reverse, hlength]
          omega
        rw [List.getD_eq_getElem _ _ h7, List.getElem_reverse]
        congr 1
        omega
      · exact fun bit hbit => hfilled bit (List.mem_reverse.mp hbit)

end Holabrain.Bits
