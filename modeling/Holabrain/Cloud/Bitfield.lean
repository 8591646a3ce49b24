import Holabrain.Cloud.Errors
import Holabrain.Core.Base64
import Holabrain.Core.Bits

/-!
# Bit-packed capability descriptors

Air conditioners carry their features as a packed record: fields of fixed width in a fixed
order, followed by 32-bit values.  The decoder takes the fields off a stream of bits, one after
the other, and stops at the first one that the record does not cover.
-/

namespace Holabrain

/-! ## Layouts -/

/-- One named field of a packed record. -/
structure BitField where
  name : String
  width : ℕ
  deriving DecidableEq

/-- The fields in order, and the names of the 32-bit values behind them. -/
structure BitfieldLayout where
  fields : List BitField
  trailingU32 : List String := []

def acDynamicAttrLayout : BitfieldLayout where
  fields :=
    [⟨"isEcoFunc", 2⟩, ⟨"is8DegreeHeatFunc", 2⟩, ⟨"isStrong", 2⟩, ⟨"iselectricityStauts", 2⟩,
      ⟨"isColdandWarm", 3⟩, ⟨"isSmoothWind", 3⟩, ⟨"isDecimalTemp", 2⟩, ⟨"isSwingWind", 4⟩,
      ⟨"isSelfCleaning", 2⟩, ⟨"isSmartEye", 2⟩, ⟨"isWindNOTBreezed", 2⟩, ⟨"isWindBreezed", 2⟩,
      ⟨"isLightControl", 2⟩, ⟨"isfourLouver", 2⟩, ⟨"isWaterTankControl", 3⟩,
      ⟨"iswindSoftCtrl", 3⟩, ⟨"isWetted", 2⟩, ⟨"isAnion", 2⟩, ⟨"isTwinsDevice", 2⟩,
      ⟨"iswindNoneCtrl", 4⟩, ⟨"notWindStatus", 4⟩, ⟨"isRoundWindStatus", 2⟩,
      ⟨"isUnDirectBlow", 2⟩, ⟨"isFilterScreen", 3⟩, ⟨"isFahrenheit", 2⟩, ⟨"isBuzzer", 2⟩,
      ⟨"isReserve1", 1⟩, ⟨"isReserve2", 8⟩, ⟨"isReserve3", 8⟩, ⟨"isReserve4", 8⟩,
      ⟨"isReserve5", 8⟩]
  trailingU32 := ["tempMinimum", "tempMaximum"]

/-! ## The payload -/

/-- What the decoder is given: the record itself, or its base64 text. -/
inductive Payload
  | bytes (data : List UInt8)
  | text (s : String)

/-- `_to_bytes`.  A text that is not ASCII is no base64 either. -/
def toBytes : Payload → Except DollinError (List UInt8)
  | .bytes data => .ok data
  | .text payload =>
      let text := stripList payload.toList
      if text = [] then .ok []
      else
        let padded := text ++ Base64.padding text
        let decoded := if padded.all fun c => c.toNat < 128 then Base64.decode padded else none
        match decoded with
        | some data => .ok data
        | none => .error (.apiError "capability descriptor was not valid base64" none)

/-! ## The bit stream -/

/-- `_iter_bits`. -/
def iterBits (lsbFirst : Bool) (data : List UInt8) : List ℕ :=
  data.flatMap fun byte => (List.range 8).map fun index =>
    (byte.toNat >>> (if lsbFirst then index else 7 - index)) &&& 1

/-- The loop of `_take`, with so many bits still to come. -/
def takeFrom (value index : ℕ) : ℕ → List ℕ → Option (ℕ × List ℕ)
  | 0, bits => some (value, bits)
  | _ + 1, [] => none
  | remaining + 1, bit :: bits => takeFrom (value ||| (bit <<< index)) (index + 1) remaining bits

/-- `_take`, with what it leaves of the stream; `none` if the stream runs out. -/
def take (bits : List ℕ) (width : ℕ) : Option (ℕ × List ℕ) := takeFrom 0 0 width bits

/-- A loop of `decode_bitfield`: the result so far, and the stream if the loop came to its
end. -/
def decodeFields (result : Dict String ℕ) (bits : List ℕ) :
    List BitField → Dict String ℕ × Option (List ℕ)
  | [] => (result, some bits)
  | field :: rest => match take bits field.width with
      | none => (result, none)
      | some (value, bits) => decodeFields (result.setItem field.name value) bits rest

/-- A name behind the fields, as the field it is read as. -/
def u32Field (name : String) : BitField := ⟨name, 32⟩

def decodeBitfield (payload : Payload) (layout : BitfieldLayout := acDynamicAttrLayout)
    (lsbFirst : Bool := true) : Except DollinError (Dict String ℕ) := do
  let data ← toBytes payload
  match decodeFields Dict.empty (iterBits lsbFirst data) layout.fields with
  | (result, none) => return result
  | (result, some bits) => return (decodeFields result bits (layout.trailingU32.map u32Field)).1

example : ((decodeBitfield (.text " BQ ")).toOption.map Dict.items) =
    some [("isEcoFunc", 1), ("is8DegreeHeatFunc", 1), ("isStrong", 0),
      ("iselectricityStauts", 0)] := by decide +kernel

/-! ## Packed records -/

namespace BitfieldLayout

/-- All fields, the 32-bit values included. -/
def columns (layout : BitfieldLayout) : List BitField :=
  layout.fields ++ layout.trailingU32.map u32Field

end BitfieldLayout

/-- The bits of an assignment, field by field and the lowest first. -/
def bitString (values : String → ℕ) (columns : List BitField) : List ℕ :=
  columns.flatMap fun field => Nat.digitsAppend 2 field.width (values field.name)

/-- The record of an assignment. -/
def packed (layout : BitfieldLayout) (lsbFirst : Bool) (values : String → ℕ) : List UInt8 :=
  Bits.pack lsbFirst (bitString values layout.columns)

/-- The leading fields that so many bits cover whole. -/
def covered : ℕ → List BitField → List BitField
  | _, [] => []
  | n, field :: rest =>
      if field.width ≤ n then field :: covered (n - field.width) rest else []

/-- The values of some fields, by name. -/
def restricted (values : String → ℕ) (columns : List BitField) : List (String × ℕ) :=
  columns.map fun field => (field.name, values field.name)

theorem covered_of_le {n : ℕ} {columns : List BitField}
    (h : (columns.map BitField.width).sum ≤ n) : covered n columns = columns := by
  induction columns generalizing n with
  | nil => rfl
  | cons field rest ih =>
      rw [List.map_cons, List.sum_cons] at h
      rw [covered, if_pos (Nat.le_of_add_right_le h), ih (by omega)]

section Packed

variable {values : String → ℕ}

theorem length_bitString {columns : List BitField}
    (hbound : ∀ field ∈ columns, values field.name < 2 ^ field.width) :
    (bitString values columns).length = (columns.map BitField.width).sum := by
  rw [bitString, List.length_flatMap]
  congr 1
  apply List.map_congr_left
  exact fun field hfield => Nat.length_digitsAppend Nat.one_lt_two _ (hbound field hfield)

theorem bit_of_mem_bitString (values : String → ℕ) (columns : List BitField) :
    ∀ bit ∈ bitString values columns, bit < 2 := by
  intro bit hbit
  obtain ⟨field, -, hdigit⟩ := List.mem_flatMap.mp hbit
  exact Nat.lt_of_mem_digitsAppend Nat.one_lt_two _ _ hdigit

/-! ## The stream of a record -/

theorem iterBits_packBytes (lsbFirst : Bool) (n : ℕ) {bits : List ℕ}
    (hbits : ∀ bit ∈ bits, bit < 2) :
    iterBits lsbFirst (Bits.packBytes lsbFirst n bits) = bits.takeD (8 * n) 0 := by
  induction n generalizing bits with
  | zero => rfl
  | succ n ih =>
      have hrest : ∀ bit ∈ bits.drop 8, bit < 2 :=
        fun bit hbit => hbits bit (List.mem_of_mem_drop hbit)
      have htail := ih hrest
      rw [iterBits] at htail
      rw [Nat.mul_succ, Nat.add_comm (8 * n), Bits.takeD_add, Bits.packBytes, iterBits,
        List.flatMap_cons, htail, Bits.bits_packByte hbits]

/-- The bits that a prefix of a record holds: those of the assignment, then zeros. -/
theorem iterBits_of_prefix {layout : BitfieldLayout} {lsbFirst : Bool} {data : List UInt8}
    (h : data <+: packed layout lsbFirst values) :
    iterBits lsbFirst data = (bitString values layout.columns).takeD (8 * data.length) 0 := by
  have hstream := iterBits_packBytes lsbFirst data.length
    (bit_of_mem_bitString values layout.columns)
  rwa [← Bits.eq_packBytes_of_prefix h] at hstream

/-! ## Taking a field -/

/-- The loop has read some bits of the number and reads the others. -/
theorem takeFrom_append {read bits : List ℕ} (hread : ∀ bit ∈ read, bit < 2)
    (hbits : ∀ bit ∈ bits, bit < 2) (rest : List ℕ) :
    takeFrom (Nat.ofDigits 2 read) read.length bits.length (bits ++ rest) =
      some (Nat.ofDigits 2 (read ++ bits), rest) := by
  induction bits generalizing read with
  | nil => rw [List.append_nil, List.length_nil, List.nil_append, takeFrom]
  | cons bit bits ih =>
      have hread' : ∀ b ∈ read ++ [bit], b < 2 := by
        intro b hb
        rcases List.mem_append.mp hb with hb | hb
        · exact hread b hb
        · exact List.eq_of_mem_singleton hb ▸ hbits bit List.mem_cons_self
      have hnext := ih hread' fun b hb => hbits b (List.mem_cons_of_mem bit hb)
      rw [List.length_append, List.length_singleton, List.append_assoc] at hnext
      rw [List.length_cons, List.cons_append, takeFrom, Bits.ofDigits_or_shiftLeft hread]
      exact hnext

theorem takeFrom_eq_none {value index width : ℕ} {bits : List ℕ} (h : bits.length < width) :
    takeFrom value index width bits = none := by
  induction width generalizing value index bits with
  | zero => cases h
  | succ width ih =>
      cases bits with
      | nil => rfl
      | cons bit bits => exact ih (Nat.lt_of_succ_lt_succ h)

theorem take_append {bits : List ℕ} (hbits : ∀ bit ∈ bits, bit < 2) (rest : List ℕ) :
    take (bits ++ rest) bits.length = some (Nat.ofDigits 2 bits, rest) :=
  takeFrom_append (fun _ hbit => absurd hbit List.not_mem_nil) hbits rest

/-! ## The loop over the fields -/

theorem decodeFields_append (result : Dict String ℕ) (bits : List ℕ)
    (fields fields' : List BitField) :
    (decodeFields result bits (fields ++ fields')).1 =
      match decodeFields result bits fields with
      | (result, none) => result
      | (result, some bits) => (decodeFields result bits fields').1 := by
  induction fields generalizing result bits with
  | nil => rfl
  | cons field fields ih =>
      rw [List.cons_append, decodeFields, decodeFields]
      cases take bits field.width with
      | none => rfl
      | some taken => exact ih _ _

/-- The two loops are one over all columns. -/
theorem decodeBitfield_bytes (data : List UInt8) (layout : BitfieldLayout) (lsbFirst : Bool) :
    decodeBitfield (.bytes data) layout lsbFirst =
      .ok (decodeFields Dict.empty (iterBits lsbFirst data) layout.columns).1 := by
  rw [BitfieldLayout.columns, decodeFields_append, decodeBitfield, toBytes]
  simp only [bind, Except.bind, pure, Except.pure]
  split <;> rfl

/-- The loop over a stream cut off anywhere, inside a field or between two. -/
theorem decodeFields_takeD (result : Dict String ℕ) (n : ℕ) {columns : List BitField}
    (hbound : ∀ field ∈ columns, values field.name < 2 ^ field.width) :
    (decodeFields result ((bitString values columns).takeD n 0) columns).1 =
      result.update (restricted values (covered n columns)) := by
  induction columns generalizing result n with
  | nil => rfl
  | cons field rest ih =>
      have hlength : (Nat.digitsAppend 2 field.width (values field.name)).length = field.width :=
        Nat.length_digitsAppend Nat.one_lt_two _ (hbound field List.mem_cons_self)
      rw [decodeFields, covered]
      by_cases hcovered : field.width ≤ n
      · have htake : take ((bitString values (field :: rest)).takeD n 0) field.width =
            some (values field.name, (bitString values rest).takeD (n - field.width) 0) := by
          have hbits : ∀ bit ∈ Nat.digitsAppend 2 field.width (values field.name), bit < 2 :=
            fun _ => Nat.lt_of_mem_digitsAppend Nat.one_lt_two field.width _
          have hdigits := take_append hbits ((bitString values rest).takeD (n - field.width) 0)
          rw [Bits.ofDigits_digitsAppend, hlength] at hdigits
          rw [bitString, List.flatMap_cons, Bits.takeD_append (by rw [hlength]; exact hcovered),
            hlength]
          exact hdigits
        rw [htake, if_pos hcovered]
        exact ih _ _ fun f hf => hbound f (List.mem_cons_of_mem field hf)
      · have htake : take ((bitString values (field :: rest)).takeD n 0) field.width = none := by
          apply takeFrom_eq_none
          rw [List.takeD_length]
          exact Nat.lt_of_not_le hcovered
        rw [htake, if_neg hcovered]
        rfl

end Packed

/-! ## Decoding inverts packing -/

/-- Every prefix of a record yields the leading fields it covers, with the values that were
packed, and the whole record all of them. -/
theorem decodeBitfield_packed (layout : BitfieldLayout) (lsbFirst : Bool) (values : String → ℕ)
    (hbound : ∀ field ∈ layout.columns, values field.name < 2 ^ field.width) :
    (∀ data, data <+: packed layout lsbFirst values →
      decodeBitfield (.bytes data) layout lsbFirst =
        .ok (Dict.ofList (restricted values (covered (8 * data.length) layout.columns)))) ∧
    decodeBitfield (.bytes (packed layout lsbFirst values)) layout lsbFirst =
      .ok (Dict.ofList (restricted values layout.columns)) := by
  have hcut : ∀ data, data <+: packed layout lsbFirst values →
      decodeBitfield (.bytes data) layout lsbFirst =
        .ok (Dict.ofList (restricted values (covered (8 * data.length) layout.columns))) := by
    intro data hdata
    rw [decodeBitfield_bytes, iterBits_of_prefix hdata, decodeFields_takeD _ _ hbound]
    rfl
  refine ⟨hcut, ?_⟩
  have hall : (layout.columns.map BitField.width).sum ≤
      8 * (packed layout lsbFirst values).length := by
    rw [packed, Bits.pack, Bits.length_packBytes, length_bitString hbound]
    omega
  rw [hcut _ List.prefix_rfl, covered_of_le hall]

/-- A record whose fields lie across the bytes, cut off inside the last of them. -/
theorem decodeBitfield_packed_across :
    (∀ data, data <+: packed ⟨[⟨"mode", 3⟩, ⟨"steps", 10⟩], ["limit"]⟩ false
        (fun name => if name = "steps" then 612 else 5) →
      decodeBitfield (.bytes data) ⟨[⟨"mode", 3⟩, ⟨"steps", 10⟩], ["limit"]⟩ false =
        .ok (Dict.ofList (restricted (fun name => if name = "steps" then 612 else 5)
          (covered (8 * data.length) [⟨"mode", 3⟩, ⟨"steps", 10⟩, ⟨"limit", 32⟩])))) ∧
    decodeBitfield (.bytes (packed ⟨[⟨"mode", 3⟩, ⟨"steps", 10⟩], ["limit"]⟩ false
        (fun name => if name = "steps" then 612 else 5)))
      ⟨[⟨"mode", 3⟩, ⟨"steps", 10⟩], ["limit"]⟩ false =
      .ok (Dict.ofList [("mode", 5), ("steps", 612), ("limit", 5)]) :=
  decodeBitfield_packed ⟨[⟨"mode", 3⟩, ⟨"steps", 10⟩], ["limit"]⟩ false
    (fun name => if name = "steps" then 612 else 5) (by decide)

end Holabrain
