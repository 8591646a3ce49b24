import Mathlib.Algebra.Order.Field.Rat
import Holabrain.Core.Dict
import Holabrain.Core.Letters
import Holabrain.Core.Numerals

/-!
# JSON values as Python reads them

The cloud's replies and the push frames reach the integration as the values Python's JSON
decoder builds: `None`, booleans, unbounded integers, doubles, strings, lists and
dictionaries.  This module fixes those values and the parts of the language the client
applies to them: truth, `==` against an integer, `str` and `int`.
-/

namespace Holabrain

/-- A finite double, held as the shortest decimal that reads back as it. -/
structure Decimal where
  negative : Bool
  digits : ℕ
  exponent : ℤ
  deriving DecidableEq

/-- A Python `float`. -/
inductive PyFloat
  | finite (value : Decimal)
  | infinite (negative : Bool)
  | nan
  deriving DecidableEq

/-- A decoded JSON value.  An object keeps its members as they stand in the text. -/
inductive Json
  | null
  | bool (b : Bool)
  | int (n : ℤ)
  | float (x : PyFloat)
  | str (s : String)
  | arr (items : List Json)
  | obj (members : List (String × Json))

/-- The members of a JSON object, in text order. -/
abbrev Members := List (String × Json)

/-! ## Decidable equality -/

mutual

def Json.decEq : (a b : Json) → Decidable (a = b)
  | .null, .null => isTrue rfl
  | .bool a, .bool b => decidable_of_iff (a = b) (by simp)
  | .int a, .int b => decidable_of_iff (a = b) (by simp)
  | .float a, .float b => decidable_of_iff (a = b) (by simp)
  | .str a, .str b => decidable_of_iff (a = b) (by simp)
  | .arr a, .arr b => @decidable_of_iff _ (a = b) (by simp) (Json.decEqItems a b)
  | .obj a, .obj b => @decidable_of_iff _ (a = b) (by simp) (Json.decEqMembers a b)
  | .null, .bool _ | .null, .int _ | .null, .float _ | .null, .str _ | .null, .arr _
  | .null, .obj _ | .bool _, .null | .bool _, .int _ | .bool _, .float _ | .bool _, .str _
  | .bool _, .arr _ | .bool _, .obj _ | .int _, .null | .int _, .bool _ | .int _, .float _
  | .int _, .str _ | .int _, .arr _ | .int _, .obj _ | .float _, .null | .float _, .bool _
  | .float _, .int _ | .float _, .str _ | .float _, .arr _ | .float _, .obj _ | .str _, .null
  | .str _, .bool _ | .str _, .int _ | .str _, .float _ | .str _, .arr _ | .str _, .obj _
  | .arr _, .null | .arr _, .bool _ | .arr _, .int _ | .arr _, .float _ | .arr _, .str _
  | .arr _, .obj _ | .obj _, .null | .obj _, .bool _ | .obj _, .int _ | .obj _, .float _
  | .obj _, .str _ | .obj _, .arr _ => isFalse (by simp)

def Json.decEqItems : (a b : List Json) → Decidable (a = b)
  | [], [] => isTrue rfl
  | [], _ :: _ => isFalse (by simp)
  | _ :: _, [] => isFalse (by simp)
  | a :: as, b :: bs =>
      have := Json.decEq a b
      have := Json.decEqItems as bs
      decidable_of_iff (a = b ∧ as = bs) (by simp)

def Json.decEqMembers : (a b : List (String × Json)) → Decidable (a = b)
  | [], [] => isTrue rfl
  | [], _ :: _ => isFalse (by simp)
  | _ :: _, [] => isFalse (by simp)
  | (k, a) :: as, (l, b) :: bs =>
      have := Json.decEq a b
      have := Json.decEqMembers as bs
      decidable_of_iff ((k = l ∧ a = b) ∧ as = bs) (by simp)

end

instance : DecidableEq Json := Json.decEq

/-! ## Reading an object -/

/-- `data.get(key)`: the last member of that name, `None` if there is none. -/
def Members.get (members : Members) (key : String) : Json :=
  ((members.reverse.find? fun m => m.1 == key).map Prod.snd).getD .null

/-- `data.get(key, default)`. -/
def Members.getD (members : Members) (key : String) (default : Json) : Json :=
  ((members.reverse.find? fun m => m.1 == key).map Prod.snd).getD default

/-- The dictionary Python builds from the members: first place, last value. -/
def Members.toDict (members : Members) : Dict String Json := Dict.ofList members

theorem Members.get_eq_written (members : Members) (key : String) :
    members.get key = (Dict.written members key).getD .null := rfl

/-- Where every member has a value, a key reads as one exactly if it is there. -/
theorem Members.get_ne_null_iff {members : Members} (h : ∀ e ∈ members, e.2 ≠ .null)
    (key : String) : members.get key ≠ .null ↔ key ∈ members.map Prod.fst := by
  rw [Members.get]
  cases hfound : members.reverse.find? fun e => e.1 == key with
  | none =>
      rw [List.find?_eq_none] at hfound
      apply iff_of_false
      · exact fun hne => hne rfl
      · intro hmem
        obtain ⟨e, he, heq⟩ := List.mem_map.mp hmem
        exact hfound e (List.mem_reverse.mpr he) (by simpa using heq)
  | some e =>
      have hmem := List.mem_reverse.mp (List.mem_of_find?_eq_some hfound)
      have hkey : e.1 = key := by simpa using List.find?_some hfound
      exact iff_of_true (h e hmem) (List.mem_map.mpr ⟨e, hmem, hkey⟩)

/-- Building the dictionary changes no reading. -/
theorem Members.get_ofList_items (members : Members) (key : String) :
    Members.get (Dict.ofList members).items key = members.get key := by
  rw [Members.get_eq_written, Dict.written_items, Dict.get?_ofList, ← Members.get_eq_written]

namespace Json

/-- The members of a dictionary, nothing for any other value. -/
def asObj : Json → Option Members
  | .obj members => some members
  | _ => none

def asArr : Json → Option (List Json)
  | .arr items => some items
  | _ => none

/-! ## Truth and comparison -/

/-- Python's truth value. -/
def truthy : Json → Bool
  | .null => false
  | .bool b => b
  | .int n => n ≠ 0
  | .float (.finite x) => x.digits ≠ 0
  | .float _ => true
  | .str s => s ≠ ""
  | .arr items => !items.isEmpty
  | .obj members => !members.isEmpty

/-- `a or b`. -/
def or (a b : Json) : Json := if a.truthy then a else b

end Json

/-- The number a decimal stands for. -/
def Decimal.value (x : Decimal) : ℚ :=
  (if x.negative then -1 else 1) * x.digits * (10 : ℚ) ^ x.exponent

namespace Json

/-- `value == n`, for an `n` small enough for a double: booleans and doubles compare as the numbers
they are. -/
def eqInt (n : ℤ) : Json → Bool
  | .int m => m = n
  | .bool b => (if b then 1 else 0) = n
  | .float (.finite x) => x.value = n
  | _ => false

/-! ## `str` -/

end Json

/-- `repr` of a finite double: positional from `1e-4` up to `1e16`, scientific outside. -/
def Decimal.repr (x : Decimal) : String :=
  let sign := if x.negative then "-" else ""
  let digits := toString x.digits
  let point := (digits.length : ℤ) + x.exponent
  if x.digits = 0 then sign ++ "0.0"
  else if point ≤ -4 ∨ 16 < point then
    let mantissa := if digits.length = 1 then digits
      else String.ofList (digits.toList.take 1) ++ "." ++ String.ofList (digits.toList.drop 1)
    let power := toString (point - 1).natAbs
    sign ++ mantissa ++ "e" ++ (if point - 1 < 0 then "-" else "+") ++
      (if power.length = 1 then "0" else "") ++ power
  else if point ≤ 0 then
    sign ++ "0." ++ String.ofList (List.replicate point.natAbs '0') ++ digits
  else if (digits.length : ℤ) ≤ point then
    sign ++ digits ++ String.ofList (List.replicate (point - digits.length).natAbs '0') ++ ".0"
  else
    sign ++ String.ofList (digits.toList.take point.natAbs) ++ "." ++
      String.ofList (digits.toList.drop point.natAbs)

def PyFloat.repr : PyFloat → String
  | .finite x => x.repr
  | .infinite negative => if negative then "-inf" else "inf"
  | .nan => "nan"

/-- One character inside a quoted string. -/
def reprChar (quote c : Char) : String :=
  let hex (width : ℕ) := String.ofList ((List.range width).reverse.map fun place =>
    Nat.digitChar (c.toNat / 16 ^ place % 16))
  if c = quote ∨ c = '\\' then String.ofList ['\\', c]
  else if c = '\n' then "\\n"
  else if c = '\r' then "\\r"
  else if c = '\t' then "\\t"
  else if isPrintable c then String.ofList [c]
  else if c.toNat < 2 ^ 8 then "\\x" ++ hex 2
  else if c.toNat < 2 ^ 16 then "\\u" ++ hex 4
  else "\\U" ++ hex 8

/-- `repr` of a string: single quotes unless only double quotes avoid an escape. -/
def reprStr (s : String) : String :=
  let quote := if s.toList.contains '\'' && !s.toList.contains '"' then '"' else '\''
  String.ofList [quote] ++ String.join (s.toList.map (reprChar quote)) ++ String.ofList [quote]

mutual

def Json.repr : Json → String
  | .null => "None"
  | .bool b => if b then "True" else "False"
  | .int n => toString n
  | .float x => x.repr
  | .str s => reprStr s
  | .arr items => "[" ++ Json.reprItems items ++ "]"
  | .obj members => "\x7b" ++ ", ".intercalate ((Dict.ofList (Json.reprMembers members)).items.map
      fun member => reprStr member.1 ++ ": " ++ member.2) ++ "\x7d"

def Json.reprItems : List Json → String
  | [] => ""
  | [item] => item.repr
  | item :: rest => item.repr ++ ", " ++ Json.reprItems rest

/-- The members as the dictionary built from them writes their values. -/
def Json.reprMembers : List (String × Json) → List (String × String)
  | [] => []
  | (key, item) :: rest => (key, item.repr) :: Json.reprMembers rest

end

/-- `str(value)`. -/
def Json.pyStr : Json → String
  | .str s => s
  | value => value.repr

theorem Decimal.repr_ne_empty (x : Decimal) : x.repr ≠ "" := by
  simp only [Decimal.repr]
  split
  · simp
  split
  · simp
  split
  · simp
  split <;> simp

/-- A true value has a text. -/
theorem Json.pyStr_ne_empty {value : Json} (h : value.truthy = true) : value.pyStr ≠ "" := by
  cases value with
  | null => cases h
  | bool b => cases b <;> simp [Json.pyStr, Json.repr]
  | int n => cases n <;> simp [Json.pyStr, Json.repr, toString, Int.repr]
  | float x =>
      cases x with
      | finite x => exact x.repr_ne_empty
      | infinite negative => cases negative <;> simp [Json.pyStr, Json.repr, PyFloat.repr]
      | nan => simp [Json.pyStr, Json.repr, PyFloat.repr]
  | str s => simpa [Json.truthy, Json.pyStr] using h
  | arr items => simp [Json.pyStr, Json.repr]
  | obj members => simp [Json.pyStr, Json.repr]

/-! ## `int` and `strip` -/

/-- The characters `str.strip` removes. -/
def isPySpace (c : Char) : Bool :=
  let n := c.toNat
  (9 ≤ n && n ≤ 13) || (28 ≤ n && n ≤ 32) || n == 133 || n == 160 || n == 5760 ||
    (8192 ≤ n && n ≤ 8202) || n == 8232 || n == 8233 || n == 8239 || n == 8287 || n == 12288

def stripList (s : List Char) : List Char :=
  ((s.dropWhile isPySpace).reverse.dropWhile isPySpace).reverse

def pyStrip (s : String) : String := String.ofList (stripList s.toList)

/-- The ASCII character `int` and `float` read in the place of another one. -/
def toAscii (c : Char) : Char :=
  if c.toNat < 127 then c
  else match decimalDigit c with
    | some digit => Nat.digitChar digit
    | none => if isPySpace c then ' ' else '?'

def isAsciiSpace (c : Char) : Bool := (9 ≤ c.toNat && c.toNat ≤ 13) || c.toNat == 32

/-- The text `int` and `float` read: in ASCII, and without the blanks around it. -/
def numeral (s : String) : List Char :=
  ((((s.toList.map toAscii).dropWhile isAsciiSpace).reverse).dropWhile isAsciiSpace).reverse

/-- Decimal digits with single underscores between them, most significant first. -/
def parseDigits : List Char → Option ℕ
  | [] => none
  | c :: rest => if c.isDigit then go (c.toNat - 48) rest else none
where
  go (acc : ℕ) : List Char → Option ℕ
    | [] => some acc
    | '_' :: c :: rest => if c.isDigit then go (10 * acc + (c.toNat - 48)) rest else none
    | c :: rest => if c.isDigit then go (10 * acc + (c.toNat - 48)) rest else none

/-- `int(text)`; `none` where Python raises `ValueError`, so also past its limit of 4300
digits. -/
def parseInt (s : String) : Option ℤ :=
  let text := numeral s
  if 4300 < (text.filter Char.isDigit).length then none
  else match text with
    | '-' :: rest => (parseDigits rest).map fun n => -(n : ℤ)
    | '+' :: rest => (parseDigits rest).map fun n => (n : ℤ)
    | rest => (parseDigits rest).map fun n => (n : ℤ)

/-- Drop the fraction, towards zero. -/
def truncate (q : ℚ) : ℤ := q.num.tdiv q.den

end Holabrain
