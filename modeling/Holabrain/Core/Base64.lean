import Mathlib.Data.Nat.Notation
import Mathlib.Data.List.Defs
import Mathlib.Tactic.IntervalCases

/-!
# Base64

`decode` follows the lenient decoder of Python's `binascii`: characters outside the alphabet are
passed over, and what stands behind a complete padding is not read.  A text in the alphabet for
URLs is translated first.  Out of its encoding in that alphabet, padded to a multiple of four,
every list of bytes is recovered.
-/

namespace Holabrain.Base64

/-- The six bits a character stands for. -/
def sextet (c : Char) : Option ℕ :=
  if 65 ≤ c.toNat ∧ c.toNat ≤ 90 then some (c.toNat - 65)
  else if 97 ≤ c.toNat ∧ c.toNat ≤ 122 then some (c.toNat - 71)
  else if 48 ≤ c.toNat ∧ c.toNat ≤ 57 then some (c.toNat + 4)
  else if c = '+' then some 62
  else if c = '/' then some 63
  else none

/-- The decoder at a place in a group of four letters, with the bits left over from the last
letter and the padding seen since; `none` where it raises. -/
def decodeFrom : List Char → ℕ → ℕ → ℕ → Option (List UInt8)
  | [], quad, _, _ => if quad = 0 then some [] else none
  | c :: rest, quad, left, pads =>
      if c = '=' then
        if 2 ≤ quad ∧ 4 ≤ quad + (pads + 1) then some []
        else decodeFrom rest quad left (if 2 ≤ quad then pads + 1 else pads)
      else
        match sextet c, quad with
        | none, _ => decodeFrom rest quad left pads
        | some bits, 0 => decodeFrom rest 1 bits 0
        | some bits, 1 =>
            (decodeFrom rest 2 (bits % 16) 0).map (UInt8.ofNat (left * 4 + bits / 16) :: ·)
        | some bits, 2 =>
            (decodeFrom rest 3 (bits % 4) 0).map (UInt8.ofNat (left * 16 + bits / 4) :: ·)
        | some bits, _ => (decodeFrom rest 0 0 0).map (UInt8.ofNat (left * 64 + bits) :: ·)

def decode (text : List Char) : Option (List UInt8) := decodeFrom text 0 0 0

/-- A letter of the alphabet for URLs in the standard one. -/
def standard (c : Char) : Char :=
  if c = '-' then '+' else if c = '_' then '/' else c

def urlsafeDecode (text : List Char) : Option (List UInt8) := decode (text.map standard)

/-- What a text is padded with. -/
def padding (text : List Char) : List Char := List.replicate ((4 - text.length % 4) % 4) '='

/-- The letter of six bits in the alphabet for URLs. -/
def letter (bits : ℕ) : Char :=
  if bits < 26 then Char.ofNat (bits + 65)
  else if bits < 52 then Char.ofNat (bits + 71)
  else if bits < 62 then Char.ofNat (bits - 4)
  else if bits = 62 then '-' else '_'

/-- Three bytes are four letters; no padding is written. -/
def encode : List UInt8 → List Char
  | [] => []
  | [a] => [letter (a.toNat / 4), letter (a.toNat % 4 * 16)]
  | [a, b] =>
      [letter (a.toNat / 4), letter (a.toNat % 4 * 16 + b.toNat / 16),
        letter (b.toNat % 16 * 4)]
  | a :: b :: c :: rest =>
      letter (a.toNat / 4) :: letter (a.toNat % 4 * 16 + b.toNat / 16) ::
        letter (b.toNat % 16 * 4 + c.toNat / 64) :: letter (c.toNat % 64) :: encode rest

/-! ## Letters -/

section Letters

variable {bits : ℕ} (hbits : bits < 64)

include hbits

theorem standard_letter_ne_pad : standard (letter bits) ≠ '=' := by
  interval_cases bits <;> decide

theorem letter_ne_dot : letter bits ≠ '.' := by
  interval_cases bits <;> decide

theorem sextet_standard_letter : sextet (standard (letter bits)) = some bits := by
  interval_cases bits <;> decide

/-- Every letter is of ASCII. -/
theorem letter_ascii : (letter bits).toNat < 128 := by
  interval_cases bits <;> decide

variable (rest : List Char) (left pads : ℕ)

theorem decodeFrom_zero :
    decodeFrom (standard (letter bits) :: rest) 0 left pads = decodeFrom rest 1 bits 0 := by
  simp only [decodeFrom, if_neg (standard_letter_ne_pad hbits), sextet_standard_letter hbits]

theorem decodeFrom_one : decodeFrom (standard (letter bits) :: rest) 1 left pads =
    (decodeFrom rest 2 (bits % 16) 0).map (UInt8.ofNat (left * 4 + bits / 16) :: ·) := by
  simp only [decodeFrom, if_neg (standard_letter_ne_pad hbits), sextet_standard_letter hbits]

theorem decodeFrom_two : decodeFrom (standard (letter bits) :: rest) 2 left pads =
    (decodeFrom rest 3 (bits % 4) 0).map (UInt8.ofNat (left * 16 + bits / 4) :: ·) := by
  simp only [decodeFrom, if_neg (standard_letter_ne_pad hbits), sextet_standard_letter hbits]

theorem decodeFrom_three : decodeFrom (standard (letter bits) :: rest) 3 left pads =
    (decodeFrom rest 0 0 0).map (UInt8.ofNat (left * 64 + bits) :: ·) := by
  simp only [decodeFrom, if_neg (standard_letter_ne_pad hbits), sextet_standard_letter hbits]

end Letters

/-! ## The round trip -/

theorem ofNat_eq {value : ℕ} {byte : UInt8} (h : value = byte.toNat) :
    UInt8.ofNat value = byte := by
  rw [h, UInt8.ofNat_toNat]

/-- The first byte of a group. -/
theorem decodeFrom_first (a : UInt8) {bits : ℕ} (hbits : bits < 16) (rest : List Char) :
    decodeFrom (standard (letter (a.toNat / 4)) ::
        standard (letter (a.toNat % 4 * 16 + bits)) :: rest) 0 0 0 =
      (decodeFrom rest 2 bits 0).map (a :: ·) := by
  have ha := a.toNat_lt
  have hfirst : UInt8.ofNat (a.toNat / 4 * 4 + (a.toNat % 4 * 16 + bits) / 16) = a :=
    ofNat_eq (by omega)
  have hleft : (a.toNat % 4 * 16 + bits) % 16 = bits := by omega
  rw [decodeFrom_zero (by omega), decodeFrom_one (by omega), hfirst, hleft]

theorem decodeFrom_second (b : UInt8) {bits : ℕ} (hbits : bits < 4) (rest : List Char) :
    decodeFrom (standard (letter (b.toNat % 16 * 4 + bits)) :: rest) 2 (b.toNat / 16) 0 =
      (decodeFrom rest 3 bits 0).map (b :: ·) := by
  have hb := b.toNat_lt
  have hsecond : UInt8.ofNat (b.toNat / 16 * 16 + (b.toNat % 16 * 4 + bits) / 4) = b :=
    ofNat_eq (by omega)
  have hleft : (b.toNat % 16 * 4 + bits) % 4 = bits := by omega
  rw [decodeFrom_two (by omega), hsecond, hleft]

theorem decodeFrom_third (c : UInt8) (rest : List Char) :
    decodeFrom (standard (letter (c.toNat % 64)) :: rest) 3 (c.toNat / 64) 0 =
      (decodeFrom rest 0 0 0).map (c :: ·) := by
  have hthird : UInt8.ofNat (c.toNat / 64 * 64 + c.toNat % 64) = c := ofNat_eq (by omega)
  rw [decodeFrom_three (by omega), hthird]

theorem padding_cons₄ (p q r s : Char) (text : List Char) :
    padding (p :: q :: r :: s :: text) = padding text := by
  have hlength : (p :: q :: r :: s :: text).length % 4 = text.length % 4 := by
    simp only [List.length_cons]
    omega
  rw [padding, padding, hlength]

/-- Bytes read back out of their encoding. -/
theorem urlsafeDecode_encode (bytes : List UInt8) :
    urlsafeDecode (encode bytes ++ padding (encode bytes)) = some bytes := by
  rw [urlsafeDecode, decode]
  induction bytes using encode.induct with
  | case1 => rfl
  | case2 a =>
      have hfirst := decodeFrom_first a (by omega : 0 < 16) ['=', '=']
      rw [Nat.add_zero] at hfirst
      exact hfirst
  | case3 a b =>
      have hb := b.toNat_lt
      have hsecond := decodeFrom_second b (by omega : 0 < 4) ['=']
      rw [Nat.add_zero] at hsecond
      have hfirst := decodeFrom_first a (by omega : b.toNat / 16 < 16)
        [standard (letter (b.toNat % 16 * 4)), '=']
      rw [hsecond] at hfirst
      exact hfirst
  | case4 a b c rest ih =>
      have hb := b.toNat_lt
      have hc := c.toNat_lt
      simp only [encode, List.cons_append, padding_cons₄, List.map_cons]
      rw [decodeFrom_first a (by omega), decodeFrom_second b (by omega), decodeFrom_third, ih]
      rfl

-- a line break is passed over; without its padding the group is incomplete
example : urlsafeDecode "TWFu\n-_8=".toList = some [77, 97, 110, 251, 255] ∧
    decode "TWFu-_8".toList = none := by decide

/-- An encoding is written in letters. -/
theorem exists_letter_of_mem_encode (bytes : List UInt8) :
    ∀ c ∈ encode bytes, ∃ bits, bits < 64 ∧ c = letter bits := by
  induction bytes using encode.induct with
  | case1 => simp [encode]
  | case2 a =>
      have ha := a.toNat_lt
      simp only [encode, List.forall_mem_cons]
      exact ⟨⟨_, by omega, rfl⟩, ⟨_, by omega, rfl⟩, by simp⟩
  | case3 a b =>
      have ha := a.toNat_lt
      have hb := b.toNat_lt
      simp only [encode, List.forall_mem_cons]
      exact ⟨⟨_, by omega, rfl⟩, ⟨_, by omega, rfl⟩, ⟨_, by omega, rfl⟩, by simp⟩
  | case4 a b c rest ih =>
      have ha := a.toNat_lt
      have hb := b.toNat_lt
      have hc := c.toNat_lt
      simp only [encode, List.forall_mem_cons]
      exact ⟨⟨_, by omega, rfl⟩, ⟨_, by omega, rfl⟩, ⟨_, by omega, rfl⟩, ⟨_, by omega, rfl⟩, ih⟩

theorem ascii_of_mem_padded {bytes : List UInt8} {c : Char}
    (hc : c ∈ encode bytes ++ padding (encode bytes)) : c.toNat < 128 := by
  obtain hletter | hpad := List.mem_append.mp hc
  · obtain ⟨bits, hbits, rfl⟩ := exists_letter_of_mem_encode bytes c hletter
    exact letter_ascii hbits
  · rw [List.eq_of_mem_replicate hpad]
    decide

theorem dot_not_mem_encode (bytes : List UInt8) : '.' ∉ encode bytes := by
  intro hdot
  obtain ⟨bits, hbits, heq⟩ := exists_letter_of_mem_encode bytes '.' hdot
  exact letter_ne_dot hbits heq.symm

end Holabrain.Base64
