import Mathlib.Data.List.Infix

/-!
# UTF-8 read out of a byte string

A byte string is a list of bytes here, and the encoding is that of the core library.  Decoding is
a partial inverse of encoding, so what is known of one is known of the other.  The main fact is
that text cut out of a text is a part of it: a cut inside a character starts with a continuation
byte, and no text does.
-/

namespace Holabrain

/-- The bytes of a list of characters. -/
def utf8Bytes (text : List Char) : List UInt8 := text.flatMap String.utf8EncodeChar

/-- `bytes.decode("utf-8")`; `none` where Python raises `UnicodeDecodeError`. -/
def decodeUtf8 (bytes : List UInt8) : Option String := String.fromUTF8? bytes.toByteArray

theorem utf8Bytes_cons (c : Char) (text : List Char) :
    utf8Bytes (c :: text) = String.utf8EncodeChar c ++ utf8Bytes text :=
  List.flatMap_cons

theorem toByteArray_utf8Bytes (text : List Char) :
    (utf8Bytes text).toByteArray = text.utf8Encode := rfl

/-- Bytes decode to the text they are the encoding of. -/
theorem utf8Bytes_of_decodeUtf8 {bytes : List UInt8} {text : String}
    (h : decodeUtf8 bytes = some text) : utf8Bytes text.toList = bytes := by
  rw [decodeUtf8, String.fromUTF8?] at h
  split_ifs at h with hvalid
  cases h
  rw [← List.toByteArray_inj, toByteArray_utf8Bytes, ← String.toByteArray_ofList,
    String.ofList_toList]
  rfl

theorem decodeUtf8_utf8Bytes (text : String) : decodeUtf8 (utf8Bytes text.toList) = some text := by
  have hbytes : (utf8Bytes text.toList).toByteArray = text.toByteArray := by
    rw [toByteArray_utf8Bytes, ← String.toByteArray_ofList, String.ofList_toList]
  rw [decodeUtf8, hbytes, String.fromUTF8?, dif_pos text.isValidUTF8]
  rfl

theorem prefix_of_utf8Bytes {part text : List Char} {rest : List UInt8}
    (h : utf8Bytes part ++ rest = utf8Bytes text) : part <+: text := by
  apply List.isPrefix_of_utf8Encode_append_eq_utf8Encode rest.toByteArray
  rw [← toByteArray_utf8Bytes, ← toByteArray_utf8Bytes, ← List.toByteArray_append, h]

/-- Only the first byte of a character can start a text. -/
theorem isFirstByte_iff {c : Char} {before after : List UInt8} {byte : UInt8}
    (h : String.utf8EncodeChar c = before ++ byte :: after) :
    byte.IsUTF8FirstByte ↔ before = [] := by
  have hlength : before.length < (String.utf8EncodeChar c).length := by
    rw [h, List.length_append, List.length_cons]
    omega
  have hbyte : (String.utf8EncodeChar c)[before.length] = byte := by
    simp only [h, List.getElem_append_right le_rfl, Nat.sub_self, List.getElem_cons_zero]
  rw [← hbyte, UInt8.isUTF8FirstByte_getElem_utf8EncodeChar, List.length_eq_zero_iff]

theorem isFirstByte_of_utf8Bytes {c : Char} {text : List Char} {rest tail : List UInt8}
    {byte : UInt8} (h : utf8Bytes (c :: text) ++ rest = byte :: tail) : byte.IsUTF8FirstByte := by
  cases hchar : String.utf8EncodeChar c with
  | nil => exact absurd hchar String.utf8EncodeChar_ne_nil
  | cons first after =>
      rw [utf8Bytes_cons, hchar, List.cons_append, List.cons_append] at h
      have hfirst : first = byte := (List.cons.inj h).1
      rw [← hfirst]
      exact (@isFirstByte_iff c [] after first hchar).mpr rfl

/-- A text cut out of the bytes of another one is a part of it. -/
theorem infix_of_utf8Bytes {part text : List Char} {before rest : List UInt8}
    (h : before ++ (utf8Bytes part ++ rest) = utf8Bytes text) : part <:+: text := by
  cases part with
  | nil => exact List.nil_infix
  | cons d part =>
      induction text generalizing before with
      | nil =>
          have hnil := (List.append_eq_nil_iff.mp (List.append_eq_nil_iff.mp h).2).1
          rw [utf8Bytes_cons, List.append_eq_nil_iff] at hnil
          exact absurd hnil.1 String.utf8EncodeChar_ne_nil
      | cons c text ih =>
          by_cases hbefore : before = []
          · rw [hbefore, List.nil_append] at h
            exact (prefix_of_utf8Bytes h).isInfix
          · rw [utf8Bytes_cons c] at h
            obtain ⟨inside, hchar, hpart⟩ | ⟨skipped, -, htext⟩ := List.append_eq_append_iff.mp h
            · cases inside with
              | nil => exact (@ih [] hpart).trans (List.suffix_cons c text).isInfix
              | cons byte inside =>
                  -- the cut is inside a character
                  have hfirst := isFirstByte_of_utf8Bytes hpart
                  exact absurd ((isFirstByte_iff hchar).mp hfirst) hbefore
            · exact (ih htext.symm).trans (List.suffix_cons c text).isInfix

end Holabrain
