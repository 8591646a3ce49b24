import Holabrain.Core.Scanning
import Holabrain.Cloud.Literals

/-!
# JSON texts

A request is signed over the text it is sent as, and frames, bodies and dictionaries come in as
texts.  `dumps` writes a value as Python does with compact separators; the decoder goes through a
text character by character, with the arrays and objects that are still open on a stack.  It reads
every text `dumps` writes as what was written, and what it reads from any text can be written.
-/

namespace Holabrain

/-! ## Writing -/

/-- `ESCAPE_DCT`, and the code of any other control character. -/
def escapeChar (c : Char) : List Char :=
  if c = '"' ∨ c = '\\' then ['\\', c]
  else if c = '\n' then ['\\', 'n']
  else if c = '\r' then ['\\', 'r']
  else if c = '\t' then ['\\', 't']
  else if c = '\x0c' then ['\\', 'f']
  else if c = '\x08' then ['\\', 'b']
  else if c.toNat < 32 then
    ['\\', 'u', '0', '0', Nat.digitChar (c.toNat / 16), Nat.digitChar (c.toNat % 16)]
  else [c]

/-- `encode_basestring`. -/
def quoted (s : String) : List Char := '"' :: (s.toList.flatMap escapeChar ++ ['"'])

/-- `floatstr`. -/
def floatText : PyFloat → List Char
  | .finite x => x.repr.toList
  | .infinite negative => if negative then "-Infinity".toList else "Infinity".toList
  | .nan => "NaN".toList

mutual

/-- `JSONEncoder.encode` with compact separators, where text is not escaped to ASCII. -/
def Json.write : Json → List Char
  | .null => "null".toList
  | .bool b => if b then "true".toList else "false".toList
  | .int n => (toString n).toList
  | .float x => floatText x
  | .str s => quoted s
  | .arr [] => ['[', ']']
  | .arr (item :: items) => '[' :: (item.write ++ Json.writeItems items)
  | .obj [] => ['\x7b', '\x7d']
  | .obj ((key, item) :: members) =>
      '\x7b' :: (quoted key ++ ':' :: (item.write ++ Json.writeMembers members))

/-- What follows an item of an array. -/
def Json.writeItems : List Json → List Char
  | [] => [']']
  | item :: items => ',' :: (item.write ++ Json.writeItems items)

/-- What follows a member of an object. -/
def Json.writeMembers : List (String × Json) → List Char
  | [] => ['\x7d']
  | (key, item) :: members =>
      ',' :: (quoted key ++ ':' :: (item.write ++ Json.writeMembers members))

end

/-- What a payload is signed and sent as; none at all is an empty object. -/
def compact (payload : Json) : String :=
  if payload = .null then "\x7b\x7d" else String.ofList payload.write

mutual

/-- An integer of the payload has more digits than Python converts. -/
def Json.tooLong : Json → Bool
  | .int n => decide (10 ^ intMaxStrDigits ≤ n.natAbs)
  | .arr items => Json.tooLongItems items
  | .obj members => Json.tooLongMembers members
  | _ => false

def Json.tooLongItems : List Json → Bool
  | [] => false
  | item :: items => item.tooLong || Json.tooLongItems items

def Json.tooLongMembers : List (String × Json) → Bool
  | [] => false
  | (_, item) :: members => item.tooLong || Json.tooLongMembers members

end

/-- `_dumps`, with the class of the exception. -/
def dumps (payload : Json) : Except String String :=
  if payload.tooLong then .error "ValueError" else .ok (compact payload)

/-! ## Reading -/

/-- An array or an object that is not closed yet, with what it holds so far, last first. -/
inductive Open
  | items (done : List Json)
  | member (done : Members) (key : String)

/-- What the decoder is at. -/
inductive Place
  /-- Before a value, which need not come where an array has just been opened. -/
  | value (fresh : Bool)
  | word (rest : List Char) (value : Json)
  | number (text : List Char)
  /-- Inside a text: a key of the object with these members, or else a value. -/
  | text (owner : Option Members) (units : List ℕ)
  | escape (owner : Option Members) (units : List ℕ)
  | hex (owner : Option Members) (units : List ℕ) (count unit : ℕ)
  /-- Before a key, which need not come where an object has just been opened. -/
  | key (fresh : Bool) (done : Members)
  | colon (done : Members) (key : String)
  | after (value : Json)

structure Decoder where
  place : Place
  stack : List Open

/-- `WHITESPACE_STR`. -/
def isBlank (c : Char) : Bool := c == ' ' || c == '\t' || c == '\n' || c == '\r'

def isNumberChar (c : Char) : Bool :=
  c.isDigit || c == '-' || c == '+' || c == '.' || c == 'e' || c == 'E'

def hexDigit (c : Char) : Option ℕ :=
  if c.isDigit then some (c.toNat - 48)
  else if 97 ≤ c.toNat ∧ c.toNat ≤ 102 then some (c.toNat - 87)
  else if 65 ≤ c.toNat ∧ c.toNat ≤ 70 then some (c.toNat - 55)
  else none

/-- `BACKSLASH`, as code points. -/
def backslash (c : Char) : Option ℕ :=
  if c = '"' ∨ c = '\\' ∨ c = '/' then some c.toNat
  else if c = 'b' then some 8
  else if c = 'f' then some 12
  else if c = 'n' then some 10
  else if c = 'r' then some 13
  else if c = 't' then some 9
  else none

namespace Decoder

/-- `JSONDecodeError`. -/
def fail {α : Type} : Except String α := .error "JSONDecodeError"

section Texts

-- the character that stands for half of a surrogate pair, which a Python string can hold
variable (half : ℕ → Char)

def charOf (unit : ℕ) : Char :=
  if 0xD800 ≤ unit ∧ unit < 0xE000 then half unit else Char.ofNat unit

/-- Two escapes that are the halves of a surrogate pair are one character. -/
def textOf : List ℕ → List Char
  | [] => []
  | [unit] => [charOf half unit]
  | high :: low :: rest =>
      if (0xD800 ≤ high ∧ high < 0xDC00) ∧ (0xDC00 ≤ low ∧ low < 0xE000) then
        Char.ofNat (0x10000 + (high - 0xD800) * 0x400 + (low - 0xDC00)) :: textOf rest
      else charOf half high :: textOf (low :: rest)

/-- A text is closed. -/
def close (owner : Option Members) (text : String) : Place :=
  match owner with
  | none => .after (.str text)
  | some done => .colon done text

/-- A character after a value. -/
def afterValue (value : Json) (stack : List Open) (c : Char) : Except String Decoder :=
  if isBlank c then .ok ⟨.after value, stack⟩
  else match stack with
    | [] => fail
    | .items done :: stack =>
        if c = ',' then .ok ⟨.value false, .items (value :: done) :: stack⟩
        else if c = ']' then .ok ⟨.after (.arr (value :: done).reverse), stack⟩
        else fail
    | .member done key :: stack =>
        if c = ',' then .ok ⟨.key false ((key, value) :: done), stack⟩
        else if c = '\x7d' then .ok ⟨.after (.obj ((key, value) :: done).reverse), stack⟩
        else fail

/-- A character where a value starts, `scan_once`. -/
def startValue (fresh : Bool) (stack : List Open) (c : Char) : Except String Decoder :=
  if isBlank c then .ok ⟨.value fresh, stack⟩
  else if c = '"' then .ok ⟨.text none [], stack⟩
  else if c = '[' then .ok ⟨.value true, .items [] :: stack⟩
  else if c = '\x7b' then .ok ⟨.key true [], stack⟩
  else if c = 'n' then .ok ⟨.word "ull".toList .null, stack⟩
  else if c = 't' then .ok ⟨.word "rue".toList (.bool true), stack⟩
  else if c = 'f' then .ok ⟨.word "alse".toList (.bool false), stack⟩
  else if c = 'N' then .ok ⟨.word "aN".toList (.float .nan), stack⟩
  else if c = 'I' then .ok ⟨.word "nfinity".toList (.float (.infinite false)), stack⟩
  else if c = '-' ∨ c.isDigit then .ok ⟨.number [c], stack⟩
  else match fresh, stack with
    | true, .items _ :: stack => if c = ']' then .ok ⟨.after (.arr []), stack⟩ else fail
    | _, _ => fail

def step (decoder : Decoder) (c : Char) : Except String Decoder :=
  match decoder.place with
  | .value fresh => startValue fresh decoder.stack c
  | .word rest value =>
      match rest with
      | [] => afterValue value decoder.stack c
      | d :: rest => if c = d then .ok ⟨.word rest value, decoder.stack⟩ else fail
  | .number text =>
      if isNumberChar c then .ok ⟨.number (text ++ [c]), decoder.stack⟩
      else if text = ['-'] ∧ c = 'I' then
        .ok ⟨.word "nfinity".toList (.float (.infinite true)), decoder.stack⟩
      else do
        let value ← literal text
        afterValue value decoder.stack c
  | .text owner units =>
      if c = '"' then
        .ok ⟨close owner (String.ofList (textOf half units.reverse)), decoder.stack⟩
      else if c = '\\' then .ok ⟨.escape owner units, decoder.stack⟩
      else if c.toNat < 32 then fail
      else .ok ⟨.text owner (c.toNat :: units), decoder.stack⟩
  | .escape owner units =>
      if c = 'u' then .ok ⟨.hex owner units 0 0, decoder.stack⟩
      else match backslash c with
        | some unit => .ok ⟨.text owner (unit :: units), decoder.stack⟩
        | none => fail
  | .hex owner units count unit =>
      match hexDigit c with
      | none => fail
      | some digit =>
          if count = 3 then .ok ⟨.text owner ((16 * unit + digit) :: units), decoder.stack⟩
          else .ok ⟨.hex owner units (count + 1) (16 * unit + digit), decoder.stack⟩
  | .key fresh done =>
      if isBlank c then .ok decoder
      else if c = '"' then .ok ⟨.text (some done) [], decoder.stack⟩
      else if fresh ∧ c = '\x7d' then .ok ⟨.after (.obj []), decoder.stack⟩
      else fail
  | .colon done key =>
      if isBlank c then .ok decoder
      else if c = ':' then .ok ⟨.value false, .member done key :: decoder.stack⟩
      else fail
  | .after value => afterValue value decoder.stack c

/-- The value that the end of the text leaves. -/
def ended : Place → Except String Json
  | .after value | .word [] value => .ok value
  | .number text => literal text
  | _ => fail

def finish (decoder : Decoder) : Except String Json := do
  let value ← ended decoder.place
  if decoder.stack.isEmpty then .ok value else fail

end Texts

end Decoder

/-- `json.loads` of a text, with the class of the exception. -/
def loads (half : ℕ → Char) (text : String) : Except String Json :=
  if text.toList.head? = some '\ufeff' then Decoder.fail
  else do
    let decoder ← text.toList.foldlM (Decoder.step half) ⟨.value false, []⟩
    decoder.finish

/-! ## Characters -/

namespace Decoder

open Scanning

variable {half : ℕ → Char}

theorem hexDigit_digitChar {n : ℕ} (h : n < 16) : hexDigit (Nat.digitChar n) = some n := by
  have hall : ∀ n < 16, hexDigit (Nat.digitChar n) = some n := by decide
  exact hall n h

/-- A character is no half of a surrogate pair. -/
theorem toNat_surrogate (c : Char) : ¬ (0xD800 ≤ c.toNat ∧ c.toNat < 0xE000) := by
  have hvalid : c.toNat < 0xD800 ∨ 0xDFFF < c.toNat ∧ c.toNat < 0x110000 := c.valid
  omega

theorem charOf_toNat (c : Char) : charOf half c.toNat = c := by
  rw [charOf, if_neg (toNat_surrogate c), Char.ofNat_toNat]

theorem textOf_cons {unit : ℕ} (h : ¬ (0xD800 ≤ unit ∧ unit < 0xE000)) (rest : List ℕ) :
    textOf half (unit :: rest) = charOf half unit :: textOf half rest := by
  cases rest with
  | nil => rfl
  | cons low rest =>
      have hnot : ¬ ((0xD800 ≤ unit ∧ unit < 0xDC00) ∧ (0xDC00 ≤ low ∧ low < 0xE000)) := by omega
      rw [textOf, if_neg hnot]

/-- The code points of a text are read as it. -/
theorem textOf_toNat (text : List Char) : textOf half (text.map Char.toNat) = text := by
  induction text with
  | nil => rfl
  | cons c rest ih =>
      rw [List.map_cons, textOf_cons (toNat_surrogate c), charOf_toNat, ih]

/-! ## Reading a text from a state on -/

variable {stack : List Open}

/-- A constant is read to its end. -/
theorem reads_word (text : List Char) (value : Json) :
    Scans (step half) ⟨.word text value, stack⟩ text ⟨.word [] value, stack⟩ := by
  induction text with
  | nil => exact scans_nil _
  | cons c rest ih =>
      apply Scans.cons _ ih
      simp [step]

/-! ## Texts -/

theorem step_hex (owner : Option Members) (units : List ℕ) {count n : ℕ} (unit : ℕ) (h : n < 16) :
    step half ⟨.hex owner units count unit, stack⟩ (Nat.digitChar n) =
      if count = 3 then .ok ⟨.text owner ((16 * unit + n) :: units), stack⟩
      else .ok ⟨.hex owner units (count + 1) (16 * unit + n), stack⟩ := by
  simp only [step, hexDigit_digitChar h]

/-- Every character comes back from its escape. -/
theorem reads_escapeChar (owner : Option Members) (units : List ℕ) (c : Char) :
    Scans (step half) ⟨.text owner units, stack⟩ (escapeChar c)
      ⟨.text owner (c.toNat :: units), stack⟩ := by
  have hescape : ∀ e : Char, e ≠ 'u' → backslash e = some c.toNat →
      Scans (step half) ⟨.text owner units, stack⟩ ['\\', e]
        ⟨.text owner (c.toNat :: units), stack⟩ := by
    intro e hu he
    have hstart : step half ⟨.text owner units, stack⟩ '\\' = .ok ⟨.escape owner units, stack⟩ :=
      rfl
    have hclose : step half ⟨.escape owner units, stack⟩ e =
        .ok ⟨.text owner (c.toNat :: units), stack⟩ := by
      simp only [step, if_neg hu, he]
    exact .cons hstart (.single hclose)
  rw [escapeChar]
  split
  next h =>
    obtain rfl | rfl := h
    · exact hescape _ (by decide) rfl
    · exact hescape _ (by decide) rfl
  next hplain =>
  split
  next h =>
    subst h
    exact hescape _ (by decide) rfl
  split
  next h =>
    subst h
    exact hescape _ (by decide) rfl
  split
  next h =>
    subst h
    exact hescape _ (by decide) rfl
  split
  next h =>
    subst h
    exact hescape _ (by decide) rfl
  split
  next h =>
    subst h
    exact hescape _ (by decide) rfl
  split
  next hcontrol =>
    have hhigh : step half ⟨.hex owner units 2 0, stack⟩ (Nat.digitChar (c.toNat / 16)) =
        .ok ⟨.hex owner units 3 (c.toNat / 16), stack⟩ := by
      rw [step_hex owner units 0 (by omega), if_neg (by decide), Nat.mul_zero, Nat.zero_add]
    have hlow : step half ⟨.hex owner units 3 (c.toNat / 16), stack⟩
        (Nat.digitChar (c.toNat % 16)) = .ok ⟨.text owner (c.toNat :: units), stack⟩ := by
      rw [step_hex owner units _ (by omega), if_pos rfl, Nat.div_add_mod]
    have hstart : Scans (step half) ⟨.text owner units, stack⟩ ['\\', 'u', '0', '0']
        ⟨.hex owner units 2 0, stack⟩ := rfl
    exact hstart.append (.cons hhigh (.single hlow))
  next hprintable =>
    rw [not_or] at hplain
    apply Scans.single
    simp only [step, if_neg hplain.1, if_neg hplain.2, if_neg hprintable]

theorem reads_escaped (owner : Option Members) (units : List ℕ) (text : List Char) :
    Scans (step half) ⟨.text owner units, stack⟩ (text.flatMap escapeChar)
      ⟨.text owner ((text.map Char.toNat).reverse ++ units), stack⟩ := by
  induction text generalizing units with
  | nil => exact scans_nil _
  | cons c rest ih =>
      have hrest := (reads_escapeChar owner units c).append (ih (c.toNat :: units))
      rw [List.map_cons, List.reverse_cons, List.append_assoc]
      exact hrest

/-- A text is read up to its closing quote. -/
theorem reads_closed (owner : Option Members) (s : String) :
    Scans (step half) ⟨.text owner [], stack⟩ (s.toList.flatMap escapeChar ++ ['"'])
      ⟨close owner s, stack⟩ := by
  have hclose : step half ⟨.text owner ((s.toList.map Char.toNat).reverse ++ []), stack⟩ '"' =
      .ok ⟨close owner s, stack⟩ := by
    simp only [step, if_true, List.append_nil, List.reverse_reverse, textOf_toNat,
      String.ofList_toList]
  exact (reads_escaped owner [] s.toList).append (.single hclose)

/-! ## Numbers -/

/-- A text of a number. -/
structure IsNumber (text : List Char) (value : Json) : Prop where
  literal : literal text = .ok value
  isNumberChar : ∀ c ∈ text, isNumberChar c = true
  head : ∃ c rest, text = c :: rest ∧ (c = '-' ∨ c.isDigit = true)

theorem startValue_number (fresh : Bool) {c : Char} (h : c = '-' ∨ c.isDigit = true) :
    startValue fresh stack c = .ok ⟨.number [c], stack⟩ := by
  obtain rfl | hc := h
  · rfl
  · have hne : ∀ d : Char, d.isDigit = false → c ≠ d := fun d hd => ne_of_isDigit hc hd
    simp [startValue, isBlank, hc, hne ' ' (by decide), hne '\t' (by decide),
      hne '\n' (by decide), hne '\r' (by decide), hne '"' (by decide), hne '[' (by decide),
      hne '\x7b' (by decide), hne 'n' (by decide), hne 't' (by decide), hne 'f' (by decide),
      hne 'N' (by decide), hne 'I' (by decide)]

theorem reads_number (text : List Char) {more : List Char}
    (h : ∀ c ∈ more, isNumberChar c = true) :
    Scans (step half) ⟨.number text, stack⟩ more ⟨.number (text ++ more), stack⟩ := by
  induction more generalizing text with
  | nil =>
      rw [List.append_nil]
      exact scans_nil _
  | cons c rest ih =>
      have hrest := ih (text ++ [c]) fun d hd => h d (List.mem_cons_of_mem c hd)
      rw [List.append_assoc] at hrest
      apply Scans.cons _ hrest
      simp only [step, h c List.mem_cons_self, if_true]

/-- A value has been read, up to the character that shows that it is over. -/
inductive Arrives (value : Json) (stack : List Open) : Decoder → Prop
  | after : Arrives value stack ⟨.after value, stack⟩
  | word : Arrives value stack ⟨.word [] value, stack⟩
  | number {text : List Char} (h : IsNumber text value) : Arrives value stack ⟨.number text, stack⟩

variable {value : Json} {decoder : Decoder}

theorem IsNumber.ne_minus {text : List Char} (h : IsNumber text value) : text ≠ ['-'] := by
  rintro rfl
  have hread := h.literal
  cases hread

/-- What comes next is read as after the value. -/
theorem Arrives.step (h : Arrives value stack decoder) {c : Char}
    (hc : Holabrain.isNumberChar c = false) :
    step half decoder c = afterValue value stack c := by
  cases h with
  | after => rfl
  | word => rfl
  | number hnumber =>
      have hsign : ¬ (_ = ['-'] ∧ c = 'I') := fun hminus => hnumber.ne_minus hminus.1
      simp only [Decoder.step, hc, Bool.false_eq_true, if_false, if_neg hsign, hnumber.literal]
      rfl

theorem Arrives.finish (h : Arrives value [] decoder) : decoder.finish = .ok value := by
  cases h with
  | after => rfl
  | word => rfl
  | number hnumber =>
      rw [Decoder.finish, ended, hnumber.literal]
      rfl

theorem reads_isNumber (fresh : Bool) {text : List Char} (h : IsNumber text value) :
    Scans (step half) ⟨.value fresh, stack⟩ text ⟨.number text, stack⟩ := by
  obtain ⟨c, rest, rfl, hc⟩ := h.head
  have hstart : Decoder.step half ⟨.value fresh, stack⟩ c = .ok ⟨.number [c], stack⟩ :=
    startValue_number fresh hc
  exact .cons hstart (reads_number [c] fun d hd => h.isNumberChar d (List.mem_cons_of_mem c hd))

/-- The text of a number that its parts make up. -/
theorem isNumber_written (negative : Bool) {whole fraction text : List Char} {power : ℤ}
    (hwhole : IsWhole whole) (hfraction : ∀ c ∈ fraction, c.isDigit = true)
    (h : IsPower text power)
    (hread : Holabrain.literal (signOf negative ++ (whole ++ (fractionText fraction ++ text))) =
      .ok value) :
    IsNumber (signOf negative ++ (whole ++ (fractionText fraction ++ text))) value where
  literal := hread
  isNumberChar := by
    have hdigit : ∀ c : Char, c.isDigit = true → Holabrain.isNumberChar c = true := by
      intro c hc
      simp [Holabrain.isNumberChar, hc]
    have hpoint : ∀ c ∈ fractionText fraction, Holabrain.isNumberChar c = true := by
      cases fraction with
      | nil => exact fun c hc => absurd hc List.not_mem_nil
      | cons d rest =>
          intro c hc
          obtain rfl | hc := List.mem_cons.mp hc
          · rfl
          · exact hdigit c (hfraction c hc)
    have hpower : ∀ c ∈ text, Holabrain.isNumberChar c = true := by
      cases h with
      | none => exact fun c hc => absurd hc List.not_mem_nil
      | written hdigits _ _ =>
          intro c hc
          obtain rfl | hc := List.mem_cons.mp hc
          · rfl
          obtain rfl | hc := List.mem_cons.mp hc
          · split <;> rfl
          · exact hdigit c (hdigits c hc)
    have hsign : ∀ c ∈ signOf negative, Holabrain.isNumberChar c = true := by
      cases negative with
      | true => exact List.forall_mem_singleton.mpr rfl
      | false => exact fun c hc => absurd hc List.not_mem_nil
    intro c hc
    simp only [List.mem_append] at hc
    obtain hc | hc | hc | hc := hc
    · exact hsign c hc
    · exact hdigit c (hwhole.isDigit c hc)
    · exact hpoint c hc
    · exact hpower c hc
  head := by
    obtain ⟨c, rest, rfl⟩ := List.exists_cons_of_ne_nil hwhole.ne_nil
    cases negative with
    | true => exact ⟨'-', _, rfl, .inl rfl⟩
    | false => exact ⟨c, _, rfl, .inr (hwhole.isDigit c List.mem_cons_self)⟩

theorem isNumber_int {n : ℤ} (h : (Json.int n).WritableNumber) :
    IsNumber (toString n).toList (.int n) := by
  have htext : (toString n).toList =
      signOf (decide (n < 0)) ++ (Nat.toDigits 10 n.natAbs ++ (fractionText [] ++ [])) := by
    rw [toList_int]
    exact congrArg _ (List.append_nil _).symm
  have hread := literal_int h
  rw [htext] at hread ⊢
  exact isNumber_written _ (isWhole_toDigits _) (fun _ hc => absurd hc List.not_mem_nil) .none
    hread

theorem isNumber_float {x : Decimal} (h : x.IsShortest) :
    IsNumber x.repr.toList (.float (.finite x)) := by
  obtain ⟨whole, fraction, text, power, hx⟩ := exists_spells x
  have hread := literal_repr h
  rw [hx.repr] at hread ⊢
  exact isNumber_written _ hx.isWhole hx.isDigit hx.isPower hread

end Decoder

/-! ## Reading what is written -/

mutual

/-- Its integers and doubles can be written; Python's can, but for integers too long to read. -/
def Json.Writable : Json → Prop
  | .null | .bool _ | .str _ => True
  | .int n => (Json.int n).WritableNumber
  | .float x => (Json.float x).WritableNumber
  | .arr items => Json.WritableItems items
  | .obj members => Json.WritableMembers members

def Json.WritableItems : List Json → Prop
  | [] => True
  | item :: items => item.Writable ∧ Json.WritableItems items

def Json.WritableMembers : List (String × Json) → Prop
  | [] => True
  | (_, item) :: members => item.Writable ∧ Json.WritableMembers members

end

namespace Decoder

open Scanning

variable {half : ℕ → Char}

mutual

/-- A value that is written is read, whatever is open around it. -/
theorem reads_write : (value : Json) → value.Writable → (fresh : Bool) → (stack : List Open) →
    ∃ decoder, Scans (step half) ⟨.value fresh, stack⟩ value.write decoder ∧
      Arrives value stack decoder
  | .null, _, fresh, stack => by
      have hstart : step half ⟨.value fresh, stack⟩ 'n' = .ok ⟨.word "ull".toList .null, stack⟩ :=
        rfl
      exact ⟨_, .cons hstart (reads_word _ _), .word⟩
  | .bool true, _, fresh, stack => by
      have hstart : step half ⟨.value fresh, stack⟩ 't' =
          .ok ⟨.word "rue".toList (.bool true), stack⟩ := rfl
      exact ⟨_, .cons hstart (reads_word _ _), .word⟩
  | .bool false, _, fresh, stack => by
      have hstart : step half ⟨.value fresh, stack⟩ 'f' =
          .ok ⟨.word "alse".toList (.bool false), stack⟩ := rfl
      exact ⟨_, .cons hstart (reads_word _ _), .word⟩
  | .int n, h, fresh, stack => by
      have hnumber := isNumber_int (n := n) h
      exact ⟨_, reads_isNumber fresh hnumber, .number hnumber⟩
  | .float (.finite x), h, fresh, stack => by
      have hnumber := isNumber_float (x := x) h
      exact ⟨_, reads_isNumber fresh hnumber, .number hnumber⟩
  | .float (.infinite true), _, fresh, stack => by
      have hstart : Scans (step half) ⟨.value fresh, stack⟩ ['-', 'I']
          ⟨.word "nfinity".toList (.float (.infinite true)), stack⟩ := rfl
      exact ⟨_, hstart.append (reads_word _ _), .word⟩
  | .float (.infinite false), _, fresh, stack => by
      have hstart : step half ⟨.value fresh, stack⟩ 'I' =
          .ok ⟨.word "nfinity".toList (.float (.infinite false)), stack⟩ := rfl
      exact ⟨_, .cons hstart (reads_word _ _), .word⟩
  | .float .nan, _, fresh, stack => by
      have hstart : step half ⟨.value fresh, stack⟩ 'N' =
          .ok ⟨.word "aN".toList (.float .nan), stack⟩ := rfl
      exact ⟨_, .cons hstart (reads_word _ _), .word⟩
  | .str s, _, fresh, stack => by
      have hstart : step half ⟨.value fresh, stack⟩ '"' = .ok ⟨.text none [], stack⟩ := rfl
      exact ⟨_, .cons hstart (reads_closed none s), .after⟩
  | .arr [], _, fresh, stack => by
      have hread : Scans (step half) ⟨.value fresh, stack⟩ ['[', ']']
          ⟨.after (.arr []), stack⟩ := rfl
      exact ⟨_, hread, .after⟩
  | .arr (item :: items), h, fresh, stack => by
      rw [Json.Writable, Json.WritableItems] at h
      have hstart : step half ⟨.value fresh, stack⟩ '[' = .ok ⟨.value true, .items [] :: stack⟩ :=
        rfl
      obtain ⟨decoder, hitem, harrives⟩ := reads_write item h.1 true (.items [] :: stack)
      have hitems := reads_writeItems items h.2 item [] stack decoder harrives
      rw [Json.write]
      exact ⟨_, .cons hstart (hitem.append hitems), .after⟩
  | .obj [], _, fresh, stack => by
      have hread : Scans (step half) ⟨.value fresh, stack⟩ ['\x7b', '\x7d']
          ⟨.after (.obj []), stack⟩ := rfl
      exact ⟨_, hread, .after⟩
  | .obj ((key, item) :: members), h, fresh, stack => by
      rw [Json.Writable, Json.WritableMembers] at h
      have hstart : Scans (step half) ⟨.value fresh, stack⟩ ['\x7b', '"']
          ⟨.text (some []) [], stack⟩ := rfl
      have hcolon : step half ⟨.colon [] key, stack⟩ ':' =
          .ok ⟨.value false, .member [] key :: stack⟩ := rfl
      obtain ⟨decoder, hitem, harrives⟩ := reads_write item h.1 false (.member [] key :: stack)
      have hmembers := reads_writeMembers members h.2 key item [] stack decoder harrives
      have hkey := hstart.append (reads_closed (some []) key)
      have hread := hkey.append (.cons hcolon (hitem.append hmembers))
      rw [Json.write, quoted]
      refine ⟨_, ?_, .after⟩
      simpa using hread

theorem reads_writeItems : (items : List Json) → Json.WritableItems items → (value : Json) →
    (done : List Json) → (stack : List Open) → (decoder : Decoder) →
    Arrives value (.items done :: stack) decoder →
      Scans (step half) decoder (Json.writeItems items)
        ⟨.after (.arr ((value :: done).reverse ++ items)), stack⟩
  | [], _, value, done, stack, decoder, harrives => by
      rw [Json.writeItems, List.append_nil]
      exact .single (harrives.step rfl)
  | item :: items, h, value, done, stack, decoder, harrives => by
      rw [Json.WritableItems] at h
      obtain ⟨next, hitem, hnext⟩ := reads_write item h.1 false (.items (value :: done) :: stack)
      have hitems := reads_writeItems items h.2 item (value :: done) stack next hnext
      rw [List.reverse_cons, List.append_assoc, List.singleton_append] at hitems
      rw [Json.writeItems]
      exact .cons (harrives.step rfl) (hitem.append hitems)

theorem reads_writeMembers : (members : List (String × Json)) → Json.WritableMembers members →
    (key : String) → (value : Json) → (done : Members) → (stack : List Open) →
    (decoder : Decoder) → Arrives value (.member done key :: stack) decoder →
      Scans (step half) decoder (Json.writeMembers members)
        ⟨.after (.obj (((key, value) :: done).reverse ++ members)), stack⟩
  | [], _, key, value, done, stack, decoder, harrives => by
      rw [Json.writeMembers, List.append_nil]
      exact .single (harrives.step rfl)
  | (name, item) :: members, h, key, value, done, stack, decoder, harrives => by
      rw [Json.WritableMembers] at h
      have hcolon : step half ⟨.colon ((key, value) :: done) name, stack⟩ ':' =
          .ok ⟨.value false, .member ((key, value) :: done) name :: stack⟩ := rfl
      have hquote : step half ⟨.key false ((key, value) :: done), stack⟩ '"' =
          .ok ⟨.text (some ((key, value) :: done)) [], stack⟩ := rfl
      obtain ⟨next, hitem, hnext⟩ :=
        reads_write item h.1 false (.member ((key, value) :: done) name :: stack)
      have hmembers :=
        reads_writeMembers members h.2 name item ((key, value) :: done) stack next hnext
      rw [List.reverse_cons, List.append_assoc, List.singleton_append] at hmembers
      have hkey : Scans (step half) ⟨.key false ((key, value) :: done), stack⟩ (quoted name)
          ⟨.colon ((key, value) :: done) name, stack⟩ :=
        .cons hquote (reads_closed (some ((key, value) :: done)) name)
      rw [Json.writeMembers]
      exact .cons (harrives.step rfl) (hkey.append (.cons hcolon (hitem.append hmembers)))

end

end Decoder

/-- What a payload is read as; none at all is an empty object. -/
def bodyOf (payload : Json) : Json := if payload = .null then .obj [] else payload

/-- A value that is written is read as itself. -/
theorem loads_write (half : ℕ → Char) {value : Json} (h : value.Writable) :
    loads half (String.ofList value.write) = .ok value := by
  obtain ⟨decoder, hread, harrives⟩ := @Decoder.reads_write half value h false []
  have hmark : value.write.head? ≠ some '\ufeff' := by
    intro hmark
    cases htext : value.write with
    | nil =>
        rw [htext] at hmark
        cases hmark
    | cons c rest =>
        rw [htext] at hmark hread
        rw [Option.some.inj hmark] at hread
        cases hread
  rw [loads, String.toList_ofList, if_neg hmark, hread]
  exact harrives.finish

theorem loads_compact (half : ℕ → Char) {payload : Json} (h : payload.Writable) :
    loads half (compact payload) = .ok (bodyOf payload) := by
  rw [compact, bodyOf]
  split
  · rfl
  · exact loads_write half h

mutual

/-- What can be written is not too long. -/
theorem tooLong_of_writable : (value : Json) → value.Writable → value.tooLong = false
  | .null, _ => rfl
  | .bool _, _ => rfl
  | .str _, _ => rfl
  | .float _, _ => rfl
  | .int _, h => by
      rw [Json.Writable, Json.WritableNumber] at h
      rw [Json.tooLong, decide_eq_false_iff_not]
      exact Nat.not_le.mpr h
  | .arr items, h => tooLongItems_of_writable items h
  | .obj members, h => tooLongMembers_of_writable members h

theorem tooLongItems_of_writable : (items : List Json) → Json.WritableItems items →
    Json.tooLongItems items = false
  | [], _ => rfl
  | item :: items, h => by
      rw [Json.WritableItems] at h
      rw [Json.tooLongItems, tooLong_of_writable item h.1, tooLongItems_of_writable items h.2]
      rfl

theorem tooLongMembers_of_writable : (members : List (String × Json)) →
    Json.WritableMembers members → Json.tooLongMembers members = false
  | [], _ => rfl
  | (_, item) :: members, h => by
      rw [Json.WritableMembers] at h
      rw [Json.tooLongMembers, tooLong_of_writable item h.1,
        tooLongMembers_of_writable members h.2]
      rfl

end

/-! ## What is read can be written -/

theorem writableItems_iff (items : List Json) :
    Json.WritableItems items ↔ ∀ item ∈ items, item.Writable := by
  induction items with
  | nil => simp [Json.WritableItems]
  | cons item items ih => rw [Json.WritableItems, ih, List.forall_mem_cons]

theorem writableMembers_iff (members : Members) :
    Json.WritableMembers members ↔ ∀ member ∈ members, member.2.Writable := by
  induction members with
  | nil => simp [Json.WritableMembers]
  | cons member members ih =>
      obtain ⟨key, item⟩ := member
      rw [Json.WritableMembers, ih, List.forall_mem_cons]

theorem Json.WritableNumber.writable {value : Json} (h : value.WritableNumber) :
    value.Writable := by
  cases value with
  | int n => exact h
  | float x => exact h
  | null => exact h.elim
  | bool b => exact h.elim
  | str s => exact h.elim
  | arr items => exact h.elim
  | obj members => exact h.elim

namespace Decoder

/-- What an open array or object holds can be written. -/
def SoundOpen : Open → Prop
  | .items done => ∀ item ∈ done, item.Writable
  | .member done _ => ∀ member ∈ done, member.2.Writable

/-- What has been read so far can be written. -/
def SoundPlace : Place → Prop
  | .value _ | .number _ => True
  | .word _ value | .after value => value.Writable
  | .text owner _ | .escape owner _ | .hex owner _ _ _ =>
      ∀ done ∈ owner, ∀ member ∈ done, member.2.Writable
  | .key _ done | .colon done _ => ∀ member ∈ done, member.2.Writable

structure Sound (decoder : Decoder) : Prop where
  place : SoundPlace decoder.place
  stack : ∀ outer ∈ decoder.stack, SoundOpen outer

open Scanning

variable {half : ℕ → Char} {stack : List Open} {decoder next : Decoder} {value : Json} {c : Char}

theorem sound_afterValue (h : value.Writable) (hstack : ∀ outer ∈ stack, SoundOpen outer)
    (hstep : afterValue value stack c = .ok next) : Sound next := by
  unfold afterValue at hstep
  split at hstep
  · cases hstep
    exact ⟨h, hstack⟩
  cases stack with
  | nil => cases hstep
  | cons outer stack =>
      have houter := (List.forall_mem_cons.mp hstack).1
      have hrest := (List.forall_mem_cons.mp hstack).2
      cases outer with
      | items done =>
          have hdone : ∀ item ∈ value :: done, item.Writable := List.forall_mem_cons.mpr ⟨h, houter⟩
          simp only at hstep
          split at hstep
          · cases hstep
            exact ⟨trivial, List.forall_mem_cons.mpr ⟨hdone, hrest⟩⟩
          split at hstep
          · cases hstep
            have hall : Json.WritableItems (value :: done).reverse :=
              (writableItems_iff _).mpr fun item hitem => hdone item (List.mem_reverse.mp hitem)
            exact ⟨hall, hrest⟩
          · cases hstep
      | member done key =>
          have hdone : ∀ member ∈ (key, value) :: done, member.2.Writable :=
            List.forall_mem_cons.mpr ⟨h, houter⟩
          simp only at hstep
          split at hstep
          · cases hstep
            exact ⟨hdone, hrest⟩
          split at hstep
          · cases hstep
            have hall : Json.WritableMembers ((key, value) :: done).reverse :=
              (writableMembers_iff _).mpr fun member hmember =>
                hdone member (List.mem_reverse.mp hmember)
            exact ⟨hall, hrest⟩
          · cases hstep

theorem sound_startValue {fresh : Bool} (hstack : ∀ outer ∈ stack, SoundOpen outer)
    (hstep : startValue fresh stack c = .ok next) : Sound next := by
  have hnothing : ∀ member ∈ ([] : Members), member.2.Writable :=
    fun _ hmember => absurd hmember List.not_mem_nil
  have hempty : SoundOpen (.items []) := fun _ hitem => absurd hitem List.not_mem_nil
  unfold startValue at hstep
  split at hstep
  · cases hstep
    exact ⟨trivial, hstack⟩
  split at hstep
  · cases hstep
    exact ⟨fun _ hdone => absurd hdone (Option.not_mem_none _), hstack⟩
  split at hstep
  · cases hstep
    exact ⟨trivial, List.forall_mem_cons.mpr ⟨hempty, hstack⟩⟩
  split at hstep
  · cases hstep
    exact ⟨hnothing, hstack⟩
  split at hstep
  · cases hstep
    exact ⟨trivial, hstack⟩
  split at hstep
  · cases hstep
    exact ⟨trivial, hstack⟩
  split at hstep
  · cases hstep
    exact ⟨trivial, hstack⟩
  split at hstep
  · cases hstep
    exact ⟨trivial, hstack⟩
  split at hstep
  · cases hstep
    exact ⟨trivial, hstack⟩
  split at hstep
  · cases hstep
    exact ⟨trivial, hstack⟩
  split at hstep
  next outer =>
    split at hstep
    · cases hstep
      exact ⟨trivial, (List.forall_mem_cons.mp hstack).2⟩
    · cases hstep
  next => cases hstep

/-- Every character leaves what is held so far writable. -/
theorem Sound.step (h : Sound decoder) (hstep : step half decoder c = .ok next) : Sound next := by
  obtain ⟨place, stack⟩ := decoder
  obtain ⟨hplace, hstack⟩ := h
  cases place with
  | value fresh => exact sound_startValue hstack hstep
  | word rest value =>
      cases rest with
      | nil => exact sound_afterValue hplace hstack hstep
      | cons d rest =>
          simp only [Decoder.step] at hstep
          split at hstep
          · cases hstep
            exact ⟨hplace, hstack⟩
          · cases hstep
  | number text =>
      simp only [Decoder.step] at hstep
      split at hstep
      · cases hstep
        exact ⟨trivial, hstack⟩
      split at hstep
      · cases hstep
        exact ⟨trivial, hstack⟩
      · obtain ⟨value, hvalue, hafter⟩ := exists_of_bind_eq_ok hstep
        exact sound_afterValue (writable_of_literal hvalue).writable hstack hafter
  | text owner units =>
      simp only [Decoder.step] at hstep
      split at hstep
      · cases hstep
        cases owner with
        | none => exact ⟨trivial, hstack⟩
        | some done => exact ⟨hplace done rfl, hstack⟩
      split at hstep
      · cases hstep
        exact ⟨hplace, hstack⟩
      split at hstep
      · cases hstep
      · cases hstep
        exact ⟨hplace, hstack⟩
  | escape owner units =>
      simp only [Decoder.step] at hstep
      split at hstep
      · cases hstep
        exact ⟨hplace, hstack⟩
      split at hstep
      · cases hstep
        exact ⟨hplace, hstack⟩
      · cases hstep
  | hex owner units count unit =>
      simp only [Decoder.step] at hstep
      split at hstep
      · cases hstep
      split at hstep
      · cases hstep
        exact ⟨hplace, hstack⟩
      · cases hstep
        exact ⟨hplace, hstack⟩
  | key fresh done =>
      simp only [Decoder.step] at hstep
      split at hstep
      · cases hstep
        exact ⟨hplace, hstack⟩
      split at hstep
      · cases hstep
        refine ⟨?_, hstack⟩
        rintro _ ⟨⟩
        exact hplace
      split at hstep
      · cases hstep
        exact ⟨trivial, hstack⟩
      · cases hstep
  | colon done key =>
      simp only [Decoder.step] at hstep
      split at hstep
      · cases hstep
        exact ⟨hplace, hstack⟩
      split at hstep
      · cases hstep
        exact ⟨trivial, List.forall_mem_cons.mpr ⟨hplace, hstack⟩⟩
      · cases hstep
  | after value => exact sound_afterValue hplace hstack hstep

theorem writable_of_finish (h : Sound decoder) (hfinish : decoder.finish = .ok value) :
    value.Writable := by
  obtain ⟨found, hfound, hend⟩ := exists_of_bind_eq_ok hfinish
  have hvalue : found = value := by
    split at hend
    · exact Except.ok.inj hend
    · cases hend
  rw [← hvalue]
  obtain ⟨place, stack⟩ := decoder
  unfold ended at hfound
  split at hfound
  next heq =>
    cases hfound
    have hplace := h.place
    rw [heq] at hplace
    exact hplace
  next heq =>
    cases hfound
    have hplace := h.place
    rw [heq] at hplace
    exact hplace
  next => exact (writable_of_literal hfound).writable
  next => cases hfound

end Decoder

/-- Whatever is read can be written. -/
theorem writable_of_loads {half : ℕ → Char} {text : String} {value : Json}
    (h : loads half text = .ok value) : value.Writable := by
  rw [loads] at h
  split at h
  · cases h
  · obtain ⟨decoder, hrun, hfinish⟩ := Scanning.exists_of_bind_eq_ok h
    have hstart : Decoder.Sound ⟨.value false, []⟩ :=
      ⟨trivial, fun _ houter => absurd houter List.not_mem_nil⟩
    have hend := Scanning.Scans.invariant (fun _ _ _ => Decoder.Sound.step) hrun hstart
    exact Decoder.writable_of_finish hend hfinish

/-- A payload is read back from the text it is signed and sent as exactly if its integers are not
too long to convert and its doubles are held as their shortest decimals; and so is all that is
read from any text. -/
theorem loads_dumps_iff (half : ℕ → Char) (payload : Json) :
    ((dumps payload).bind (loads half) = .ok (bodyOf payload) ↔ payload.Writable) ∧
      ∀ text value, loads half text = .ok value → value.Writable := by
  refine ⟨⟨fun h => ?_, fun h => ?_⟩, fun _ _ => writable_of_loads⟩
  · obtain ⟨text, -, hread⟩ := Scanning.exists_of_bind_eq_ok h
    have hbody := writable_of_loads hread
    rw [bodyOf] at hbody
    split at hbody
    next hnull =>
      rw [hnull]
      trivial
    next => exact hbody
  · rw [dumps, tooLong_of_writable payload h]
    exact loads_compact half h

end Holabrain
