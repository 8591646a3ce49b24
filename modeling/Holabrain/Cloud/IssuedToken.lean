import Holabrain.Core.Utf8
import Holabrain.Cloud.JsonText
import Holabrain.Cloud.TokenExpiry

/-!
# Tokens as they are issued

The cloud writes the claims of a session as JSON, encodes the text and puts it between a head and
a signature.  Read back from there, the claims are the ones that were written, so the expiry the
client goes by is the one that was declared.
-/

namespace Holabrain

namespace Jwt

/-- `json.detect_encoding`. -/
def detectEncoding (bytes : List UInt8) : String :=
  if [0, 0, 0xFE, 0xFF] <+: bytes ∨ [0xFF, 0xFE, 0, 0] <+: bytes then "utf-32"
  else if [0xFE, 0xFF] <+: bytes ∨ [0xFF, 0xFE] <+: bytes then "utf-16"
  else if [0xEF, 0xBB, 0xBF] <+: bytes then "utf-8-sig"
  else match bytes with
    | a :: b :: c :: d :: _ =>
        if a = 0 then (if b = 0 then "utf-32-be" else "utf-16-be")
        else if b = 0 then (if c = 0 ∧ d = 0 then "utf-32-le" else "utf-16-le")
        else "utf-8"
    | [a, b] => if a = 0 then "utf-16-be" else if b = 0 then "utf-16-le" else "utf-8"
    | _ => "utf-8"

section Issued

-- `bytes.decode(encoding, "surrogatepass")`, and what stands for half of a surrogate pair
variable (decodeAs : String → List UInt8 → Option String) (half : ℕ → Char)

/-- `json.loads` of bytes. -/
def loadsBytes (bytes : List UInt8) : Except String Json :=
  match decodeAs (detectEncoding bytes) bytes with
  | none => .error "UnicodeDecodeError"
  | some text => loads half text

/-- A token: its head, its claims and its signature. -/
def issue (head : List Char) (claims : Members) (signature : List Char) : String :=
  String.ofList (head ++ '.' ::
    (Base64.encode (utf8Bytes (compact (.obj claims)).toList) ++ '.' :: signature))

/-- The text of an object is taken for UTF-8. -/
theorem detectEncoding_compact (claims : Members) :
    detectEncoding (utf8Bytes (compact (.obj claims)).toList) = "utf-8" := by
  obtain ⟨b, rest, hbytes, hb⟩ : ∃ b rest,
      utf8Bytes (compact (.obj claims)).toList = 0x7B :: b :: rest ∧ b ≠ 0 := by
    have htext : (compact (.obj claims)).toList = (Json.obj claims).write := by
      rw [compact, if_neg (by simp), String.toList_ofList]
    rw [htext]
    cases claims with
    | nil => exact ⟨0x7D, [], rfl, by decide⟩
    | cons member members => exact ⟨0x22, _, rfl, by decide⟩
  have hmark : ∀ first mark, first ≠ 0x7B → ¬ first :: mark <+: 0x7B :: b :: rest := by
    intro first mark hne hprefix
    exact hne (List.cons_prefix_cons.mp hprefix).1
  have h32 := not_or.mpr ⟨hmark 0 [0, 0xFE, 0xFF] (by decide),
    hmark 0xFF [0xFE, 0, 0] (by decide)⟩
  have h16 := not_or.mpr ⟨hmark 0xFE [0xFF] (by decide), hmark 0xFF [0xFE] (by decide)⟩
  rw [hbytes]
  unfold detectEncoding
  rw [if_neg h32, if_neg h16, if_neg (hmark 0xEF [0xBB, 0xBF] (by decide))]
  obtain - | ⟨c, - | ⟨d, rest⟩⟩ := rest
  · simp [hb]
  · rfl
  · simp [hb]

/-- The claims of a token are the bytes between its dots. -/
theorem payloadBytes_issue {head : List Char} (hhead : '.' ∉ head) (claims : Members)
    (signature : List Char) : payloadBytes (some (issue head claims signature)) =
      some (utf8Bytes (compact (.obj claims)).toList) := by
  obtain ⟨bytes, hbytes⟩ : ∃ bytes, bytes = utf8Bytes (compact (.obj claims)).toList := ⟨_, rfl⟩
  obtain ⟨rest, hrest⟩ : ∃ rest, signature.splitOn '.' = rest := ⟨_, rfl⟩
  have hparts : (head ++ '.' :: (Base64.encode bytes ++ '.' :: signature)).splitOn '.' =
      head :: Base64.encode bytes :: rest := by
    rw [List.splitOn_append_cons_self_of_not_mem hhead,
      List.splitOn_append_cons_self_of_not_mem (Base64.dot_not_mem_encode bytes), hrest]
  have hnamed : issue head claims signature ≠ "" := by
    intro heq
    have hlist := congrArg String.toList heq
    simp [issue] at hlist
  have hascii : (Base64.encode bytes ++ Base64.padding (Base64.encode bytes)).all
      (fun c => decide (c.toNat < 128)) = true := by
    rw [List.all_eq_true]
    exact fun c hc => decide_eq_true (Base64.ascii_of_mem_padded hc)
  have hkept : (some (issue head claims signature)).filter (fun token => decide (token ≠ "")) =
      some (issue head claims signature) := Option.filter_some_pos (decide_eq_true hnamed)
  rw [payloadBytes, hkept, Option.bind_some, payloadOf, issue, String.toList_ofList, ← hbytes,
    hparts, Option.bind_some, urlsafeB64decode, if_pos hascii, Base64.urlsafeDecode_encode]
  rfl

variable {decodeAs}

/-- A token is read with the expiry its claims declare. -/
theorem jwtExpiry_issue
    (hutf8 : ∀ text : String, decodeAs "utf-8" (utf8Bytes text.toList) = some text)
    {head signature : List Char} (hhead : '.' ∉ head) {claims : Members}
    (h : (Json.obj claims).Writable) :
    jwtExpiry (loadsBytes decodeAs half) (some (issue head claims signature)) =
      expiryOf (claims.get "exp") := by
  have hclaims : loadsBytes decodeAs half (utf8Bytes (compact (.obj claims)).toList) =
      .ok (.obj claims) := by
    have hbody : bodyOf (.obj claims) = .obj claims := if_neg (by simp)
    rw [loadsBytes, detectEncoding_compact, hutf8]
    exact (loads_compact half h).trans (congrArg Except.ok hbody)
  have hread := (jwtExpiry_of_bytes (loadsBytes decodeAs half)
    (payloadBytes_issue hhead claims signature)).1 _ hclaims
  exact hread

end Issued

/-- The claims of a session that ends at a given second. -/
def sessionClaims : Members := [("sub", .str "u1"), ("exp", .int 1700000000)]

/-- Bytes that are taken for UTF-8. -/
def asUtf8 (encoding : String) (bytes : List UInt8) : Option String :=
  if encoding = "utf-8" then decodeUtf8 bytes else none

/-- Its expiry is read from the token. -/
theorem jwtExpiry_issue_session :
    jwtExpiry (loadsBytes asUtf8 fun _ => '?')
      (some (issue "eu_A_e30".toList sessionClaims "c2ln".toList)) =
        .ok (some (.finite 1700000000)) := by
  have hutf8 : ∀ text : String, asUtf8 "utf-8" (utf8Bytes text.toList) = some text :=
    decodeUtf8_utf8Bytes
  have hexp : (Json.int 1700000000).WritableNumber := by
    calc (1700000000 : ℤ).natAbs < 10 ^ 10 := by decide
      _ ≤ 10 ^ intMaxStrDigits := Nat.pow_le_pow_right (by decide) (by decide)
  have hwritable : (Json.obj sessionClaims).Writable := ⟨trivial, hexp, trivial⟩
  have hread : jwtExpiry (loadsBytes asUtf8 fun _ => '?')
      (some (issue "eu_A_e30".toList sessionClaims "c2ln".toList)) =
        expiryOf (sessionClaims.get "exp") :=
    jwtExpiry_issue _ hutf8 (by decide) hwritable
  rw [hread]
  decide +kernel

end Jwt

end Holabrain
