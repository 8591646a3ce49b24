import Mathlib.Data.Nat.Digits.Lemmas
import Holabrain.Core.Utf8
import Holabrain.Cloud.Errors

/-!
# The announcement of an appliance

An appliance answers a broadcast on the local network with its identity.  A datagram is
whatever arrives on the port, so `parseReply` reads arbitrary bytes: it takes the frame off,
decrypts the body and cuts the fields out of it, and skips everything it cannot read.  The
cipher and `str.upper` are parameters; nothing but their being functions is used.
-/

namespace Holabrain

namespace Discovery

/-- An appliance that answered. -/
structure DiscoveredAppliance where
  deviceId : String
  serial : String
  model : String
  deviceType : String
  host : String
  port : ℕ
  deriving DecidableEq

def minReply : ℕ := 104

def headerV2 : List UInt8 := [0x5a, 0x5a]

def headerV3 : List UInt8 := [0x83, 0x70]

/-- `data[start:stop]`. -/
def slice (start stop : ℕ) (data : List UInt8) : List UInt8 := (data.take stop).drop start

/-- `data[start:-stop]`. -/
def sliceToEnd (start stop : ℕ) (data : List UInt8) : List UInt8 :=
  slice start (data.length - stop) data

/-- `int.from_bytes(data, "little")`. -/
def fromBytes (data : List UInt8) : ℕ := Nat.ofDigits 256 (data.map UInt8.toNat)

/-- `data[index]`. -/
def byteAt (data : List UInt8) (index : ℕ) : Except Exn ℕ :=
  match data[index]? with
  | some byte => .ok byte.toNat
  | none => .error (.builtin "IndexError")

/-- `bytes.decode("utf-8")`. -/
def decode (data : List UInt8) : Except Exn String :=
  match decodeUtf8 data with
  | some text => .ok text
  | none => .error (.builtin "UnicodeDecodeError")

section

variable (aesEcb : List UInt8 → List UInt8) (upper : String → String)

/-- `_decrypt`.  The cipher refuses a body that is no multiple of its block. -/
def decrypt (payload : List UInt8) : Except Exn (List UInt8) :=
  if payload.length % 16 ≠ 0 then .error (.builtin "ValueError")
  else
    let plain := aesEcb payload
    let padding := (plain.getLast?.map UInt8.toNat).getD 0
    .ok (if 0 < padding ∧ padding ≤ 16 then plain.take (plain.length - padding) else plain)

/-- `ssid.split("_")[1]`. -/
def typeField (ssid : String) : Except Exn String :=
  match ssid.toList.splitOn '_' with
  | _ :: field :: _ => .ok (String.ofList field)
  | _ => .error (.builtin "IndexError")

/-- The length byte and the fields behind it. -/
def readReply (deviceId : ℕ) (reply : List UInt8) (host : String) :
    Except Exn (Option DiscoveredAppliance) :=
  if reply.length < 41 then .ok none
  else do
    let port := fromBytes (slice 4 8 reply)
    let serial ← decode (slice 8 40 reply)
    let model ← decode (slice 17 25 reply)
    let length ← byteAt reply 40
    let ssid ← decode (slice 41 (41 + length) reply)
    let deviceType ← typeField ssid
    return some {
      deviceId := toString deviceId
      serial := serial
      model := model
      deviceType := "0x" ++ upper deviceType
      host := host
      port := port }

/-- The body of an unframed announcement. -/
def readBody (body : List UInt8) (host : String) : Except Exn (Option DiscoveredAppliance) := do
  let reply ← decrypt aesEcb (sliceToEnd 40 16 body)
  readReply upper (fromBytes (slice 20 26 body)) reply host

/-- `except (IndexError, UnicodeDecodeError, ValueError)`. -/
def skipsUnreadable : Except Exn (Option DiscoveredAppliance) →
    Except Exn (Option DiscoveredAppliance)
  | .error (.builtin name) =>
      if name = "IndexError" ∨ name = "UnicodeDecodeError" ∨ name = "ValueError" then .ok none
      else .error (.builtin name)
  | outcome => outcome

/-- `parse_reply`. -/
def parseReply (data : List UInt8) (host : String) : Except Exn (Option DiscoveredAppliance) :=
  if data.length < minReply then .ok none
  else if slice 0 2 data = headerV3 ∧ slice 8 10 data = headerV2 then
    skipsUnreadable (readBody aesEcb upper (sliceToEnd 8 16 data) host)
  else if slice 0 2 data ≠ headerV2 then .ok none
  else skipsUnreadable (readBody aesEcb upper data host)

end

/-! ## What is skipped -/

/-- An exception the announcement is skipped for. -/
def Unreadable (exn : Exn) : Prop :=
  ∃ name, exn = .builtin name ∧
    (name = "IndexError" ∨ name = "UnicodeDecodeError" ∨ name = "ValueError")

/-- The computation raises nothing else. -/
def RaisesUnreadable {α : Type} (x : Except Exn α) : Prop := ∀ exn, x = .error exn → Unreadable exn

theorem RaisesUnreadable.ok {α : Type} (a : α) : RaisesUnreadable (.ok a) := nofun

theorem RaisesUnreadable.bind {α β : Type} {x : Except Exn α} {f : α → Except Exn β}
    (hx : RaisesUnreadable x) (hf : ∀ a, RaisesUnreadable (f a)) : RaisesUnreadable (x >>= f) := by
  intro exn h
  cases x with
  | error exn' =>
      cases h
      exact hx _ rfl
  | ok a => exact hf a exn h

theorem raisesUnreadable_byteAt (data : List UInt8) (index : ℕ) :
    RaisesUnreadable (byteAt data index) := by
  intro exn h
  rw [byteAt] at h
  split at h
  · cases h
  · cases h
    exact ⟨_, rfl, .inl rfl⟩

theorem raisesUnreadable_decode (data : List UInt8) : RaisesUnreadable (decode data) := by
  intro exn h
  rw [decode] at h
  split at h
  · cases h
  · cases h
    exact ⟨_, rfl, .inr (.inl rfl)⟩

theorem raisesUnreadable_typeField (ssid : String) : RaisesUnreadable (typeField ssid) := by
  intro exn h
  rw [typeField] at h
  split at h
  · cases h
  · cases h
    exact ⟨_, rfl, .inl rfl⟩

section

variable {aesEcb : List UInt8 → List UInt8} {upper : String → String}

theorem raisesUnreadable_decrypt (payload : List UInt8) :
    RaisesUnreadable (decrypt aesEcb payload) := by
  intro exn h
  rw [decrypt] at h
  split at h
  · cases h
    exact ⟨_, rfl, .inr (.inr rfl)⟩
  · cases h

theorem raisesUnreadable_readReply (deviceId : ℕ) (reply : List UInt8) (host : String) :
    RaisesUnreadable (readReply upper deviceId reply host) := by
  rw [readReply]
  split
  · exact .ok _
  · refine (raisesUnreadable_decode _).bind fun serial => ?_
    refine (raisesUnreadable_decode _).bind fun model => ?_
    refine (raisesUnreadable_byteAt _ _).bind fun length => ?_
    refine (raisesUnreadable_decode _).bind fun ssid => ?_
    exact (raisesUnreadable_typeField _).bind fun deviceType => .ok _

theorem raisesUnreadable_readBody (body : List UInt8) (host : String) :
    RaisesUnreadable (readBody aesEcb upper body host) :=
  (raisesUnreadable_decrypt _).bind fun reply => raisesUnreadable_readReply _ reply host

/-- What is skipped is an answer like any other. -/
theorem skipsUnreadable_total {outcome : Except Exn (Option DiscoveredAppliance)}
    (h : RaisesUnreadable outcome) : ∃ answer, skipsUnreadable outcome = .ok answer := by
  cases outcome with
  | ok answer => exact ⟨answer, rfl⟩
  | error exn =>
      obtain ⟨name, rfl, hname⟩ := h exn rfl
      exact ⟨none, if_pos hname⟩

theorem parseReply_total (data : List UInt8) (host : String) :
    ∃ answer, parseReply aesEcb upper data host = .ok answer := by
  rw [parseReply]
  split_ifs
  · exact ⟨none, rfl⟩
  · exact skipsUnreadable_total (raisesUnreadable_readBody _ host)
  · exact ⟨none, rfl⟩
  · exact skipsUnreadable_total (raisesUnreadable_readBody _ host)

/-! ## The two frames -/

theorem slice_append_left {start stop : ℕ} {left right : List UInt8} (h : stop ≤ left.length) :
    slice start stop (left ++ right) = slice start stop left := by
  rw [slice, slice, List.take_append_of_le_length h]

theorem slice_append_right (left right : List UInt8) (start stop : ℕ) :
    slice (left.length + start) (left.length + stop) (left ++ right) =
      slice start stop right := by
  rw [slice, slice, List.take_length_add_append, List.drop_length_add_append]

/-- The frame of the third version only wraps the announcement. -/
theorem parseReply_framed {lead body trailer : List UInt8} {host : String}
    (hlead : lead.length = 8) (hheader : slice 0 2 lead = headerV3)
    (hbody : minReply ≤ body.length) (hv2 : slice 0 2 body = headerV2)
    (htrailer : trailer.length = 16) :
    parseReply aesEcb upper (lead ++ body ++ trailer) host =
      parseReply aesEcb upper body host := by
  have hlength : (lead ++ body ++ trailer).length = body.length + 24 := by
    rw [List.length_append, List.length_append, hlead, htrailer]
    omega
  have hfirst : slice 0 2 (lead ++ body ++ trailer) = headerV3 := by
    rw [List.append_assoc, slice_append_left (by omega), hheader]
  have hsecond : slice 8 10 (lead ++ body ++ trailer) = headerV2 := by
    have hskip := slice_append_right lead (body ++ trailer) 0 2
    rw [hlead] at hskip
    rw [List.append_assoc, hskip, slice_append_left (by rw [minReply] at hbody; omega), hv2]
  have hinner : sliceToEnd 8 16 (lead ++ body ++ trailer) = body := by
    rw [sliceToEnd, slice, hlength, List.take_append_of_le_length, List.take_of_length_le,
      ← hlead, List.drop_left]
    all_goals
      rw [List.length_append]
      omega
  rw [parseReply, parseReply, if_neg, if_pos ⟨hfirst, hsecond⟩, hinner, if_neg (by omega),
    if_neg, if_neg (by simpa using hv2)]
  · rw [hv2]
    exact fun h => absurd h.1 (by decide)
  · rw [hlength]
    omega

/-! ## What an appliance is read from -/

theorem bind_eq_ok {α β : Type} {x : Except Exn α} {f : α → Except Exn β} {b : β}
    (h : (x >>= f) = .ok b) : ∃ a, x = .ok a ∧ f a = .ok b := by
  cases x with
  | error exn => cases h
  | ok a => exact ⟨a, rfl, h⟩

theorem utf8Bytes_of_decode {data : List UInt8} {text : String} (h : decode data = .ok text) :
    utf8Bytes text.toList = data := by
  rw [decode] at h
  split at h
  case h_1 decoded hdecoded =>
    cases h
    exact utf8Bytes_of_decodeUtf8 hdecoded
  case h_2 => cases h

/-- The fields of an appliance, and where they stand in the reply. -/
theorem readReply_some {deviceId : ℕ} {reply : List UInt8} {host : String}
    {appliance : DiscoveredAppliance}
    (h : readReply upper deviceId reply host = .ok (some appliance)) :
    appliance.deviceId = toString deviceId ∧
      decode (slice 8 40 reply) = .ok appliance.serial ∧
      decode (slice 17 25 reply) = .ok appliance.model := by
  rw [readReply] at h
  split at h
  · cases h
  · obtain ⟨serial, hserial, h⟩ := bind_eq_ok h
    obtain ⟨model, hmodel, h⟩ := bind_eq_ok h
    obtain ⟨length, -, h⟩ := bind_eq_ok h
    obtain ⟨ssid, -, h⟩ := bind_eq_ok h
    obtain ⟨deviceType, -, h⟩ := bind_eq_ok h
    cases h
    exact ⟨rfl, hserial, hmodel⟩

theorem readBody_some {body : List UInt8} {host : String} {appliance : DiscoveredAppliance}
    (h : readBody aesEcb upper body host = .ok (some appliance)) :
    ∃ reply, readReply upper (fromBytes (slice 20 26 body)) reply host = .ok (some appliance) := by
  obtain ⟨reply, -, h⟩ := bind_eq_ok h
  exact ⟨reply, h⟩

theorem skipsUnreadable_some {outcome : Except Exn (Option DiscoveredAppliance)}
    {appliance : DiscoveredAppliance} (h : skipsUnreadable outcome = .ok (some appliance)) :
    outcome = .ok (some appliance) := by
  cases outcome with
  | ok answer => exact h
  | error exn =>
      cases exn with
      | builtin name =>
          rw [skipsUnreadable] at h
          split_ifs at h
          cases h
      | _ => cases h

/-- Every appliance comes out of some body. -/
theorem parseReply_some {data : List UInt8} {host : String} {appliance : DiscoveredAppliance}
    (h : parseReply aesEcb upper data host = .ok (some appliance)) :
    ∃ body, readBody aesEcb upper body host = .ok (some appliance) := by
  rw [parseReply] at h
  split_ifs at h
  · cases h
  · exact ⟨_, skipsUnreadable_some h⟩
  · cases h
  · exact ⟨_, skipsUnreadable_some h⟩

/-- The model stands inside the serial. -/
theorem slice_model (reply : List UInt8) :
    slice 8 17 reply ++ (slice 17 25 reply ++ slice 25 40 reply) = slice 8 40 reply := by
  simp only [slice]
  have hcut : ∀ start stop : ℕ, start ≤ stop → ∀ rest : ℕ, stop ≤ rest →
      (reply.take stop).drop start ++ (reply.take rest).drop stop =
        (reply.take rest).drop start := by
    intro start stop hstart rest hstop
    have hsplit := List.take_append_drop (stop - start) ((reply.take rest).drop start)
    rw [List.drop_drop, Nat.add_sub_cancel' hstart, List.take_drop, List.take_take,
      Nat.add_sub_cancel' hstart, Nat.min_eq_left hstop] at hsplit
    exact hsplit
  rw [hcut 17 25 (by omega) 40 (by omega), hcut 8 17 (by omega) 40 (by omega)]

theorem fromBytes_lt {data : List UInt8} {count : ℕ} (h : data.length ≤ count) :
    fromBytes data < 256 ^ count := by
  have hlt : fromBytes data < 256 ^ (data.map UInt8.toNat).length := by
    apply Nat.ofDigits_lt_base_pow_length (by decide)
    intro digit hdigit
    obtain ⟨byte, -, rfl⟩ := List.mem_map.mp hdigit
    exact byte.toNat_lt
  rw [List.length_map] at hlt
  exact hlt.trans_le (Nat.pow_le_pow_right (by decide) h)

theorem length_slice_le (start stop : ℕ) (data : List UInt8) :
    (slice start stop data).length ≤ stop - start := by
  rw [slice, List.length_drop, List.length_take]
  omega

end

/-- A framed announcement reads like the unframed one, every datagram is answered, and what is
read of an appliance hangs together. -/
theorem parseReply_announcement (aesEcb : List UInt8 → List UInt8) (upper : String → String)
    (host : String) :
    (∀ lead body trailer : List UInt8, lead.length = 8 → slice 0 2 lead = headerV3 →
      minReply ≤ body.length → slice 0 2 body = headerV2 → trailer.length = 16 →
      parseReply aesEcb upper (lead ++ body ++ trailer) host =
        parseReply aesEcb upper body host) ∧
    (∀ data, ∃ answer, parseReply aesEcb upper data host = .ok answer) ∧
    ∀ data appliance, parseReply aesEcb upper data host = .ok (some appliance) →
      appliance.model.toList <:+: appliance.serial.toList ∧
        ∃ id, appliance.deviceId = toString id ∧ id < 2 ^ 48 := by
  refine ⟨fun lead body trailer hlead hheader hbody hv2 htrailer => ?_, fun data => ?_,
    fun data appliance h => ?_⟩
  · exact parseReply_framed hlead hheader hbody hv2 htrailer
  · exact parseReply_total data host
  · obtain ⟨body, hbody⟩ := parseReply_some h
    obtain ⟨reply, hreply⟩ := readBody_some hbody
    obtain ⟨hid, hserial, hmodel⟩ := readReply_some hreply
    constructor
    · apply infix_of_utf8Bytes
      rw [utf8Bytes_of_decode hserial, utf8Bytes_of_decode hmodel]
      exact slice_model reply
    · exact ⟨_, hid, (fromBytes_lt (length_slice_le 20 26 body)).trans_eq (by decide)⟩

/-- A captured announcement. -/
def capturedReply : List UInt8 :=
  [0x83, 0x70, 0x00, 0xc8, 0x20, 0x0f, 0x00, 0x00, 0x5a, 0x5a, 0x01, 0x11, 0xb8, 0x00, 0x7a,
   0x80, 0x00, 0x00, 0x00, 0x00, 0xd5, 0xae, 0x1e, 0x10, 0x1a, 0x07, 0x1a, 0x14, 0x01, 0x40,
   0x7a, 0x10, 0xf3, 0x5a, 0x00, 0x00, 0x00, 0x00, 0x00, 0x00, 0x00, 0x00, 0x01, 0x80, 0x00,
   0x00, 0x00, 0x00, 0xe3, 0x97, 0x48, 0x7f, 0x12, 0x7b, 0x66, 0xb9, 0xfa, 0x00, 0x6c, 0xd2,
   0xa4, 0x5f, 0x02, 0xfa, 0x84, 0x6a, 0xfd, 0xda, 0xaa, 0x95, 0x94, 0x09, 0xf4, 0xf8, 0x9d,
   0x2f, 0xcb, 0x92, 0xd1, 0x5c, 0xe6, 0xa3, 0x83, 0x1d, 0xf7, 0x8c, 0xb0, 0x40, 0x3e, 0x9b,
   0xde, 0xde, 0x71, 0x37, 0x37, 0x66, 0x90, 0xfe, 0xb4, 0x56, 0x7b, 0x8b, 0x3f, 0x7b, 0x46,
   0x76, 0xd7, 0xa3, 0x15, 0x27, 0xbc, 0xcb, 0x7e, 0x1b, 0x71, 0x46, 0x47, 0x84, 0xdb, 0x32,
   0x4e, 0x0d, 0x82, 0x4f, 0x79, 0xe7, 0x20, 0x1f, 0xdd, 0xb3, 0xa7, 0x78, 0x49, 0x49, 0x68,
   0x81, 0xde, 0x23, 0xad, 0x7c, 0xff, 0x60, 0xe3, 0x17, 0x4b, 0xdf, 0xb3, 0xe1, 0x6e, 0x33,
   0xd8, 0x87, 0x68, 0xcc, 0x4c, 0x3d, 0x06, 0x58, 0x93, 0x7d, 0x0b, 0xb1, 0x93, 0x69, 0xbf,
   0x03, 0x17, 0xb2, 0x4d, 0x3a, 0x4d, 0xe9, 0xe6, 0xa1, 0x31, 0x06, 0x3b, 0xb8, 0x34, 0x36,
   0x9b, 0xee, 0xbc, 0x7f, 0x85, 0x21, 0xde, 0x93, 0x7e, 0xd8, 0x05, 0x29, 0xa3, 0xac, 0x87,
   0x42, 0x2b, 0x1e, 0xe6, 0x56, 0x8e, 0xdb, 0x55, 0x81, 0x7c, 0x97, 0x82, 0x0e]

/-- Its body, decrypted. -/
def capturedPlain : List UInt8 :=
  [0x3f, 0x01, 0xa8, 0xc0, 0x2c, 0x19, 0x00, 0x00, 0x30, 0x30, 0x30, 0x30, 0x45, 0x31, 0x35,
   0x34, 0x30, 0x37, 0x36, 0x30, 0x45, 0x59, 0x31, 0x37, 0x39, 0x30, 0x30, 0x30, 0x30, 0x30,
   0x30, 0x30, 0x30, 0x30, 0x30, 0x45, 0x58, 0x41, 0x4d, 0x50, 0x0b, 0x6e, 0x65, 0x74, 0x5f,
   0x65, 0x31, 0x5f, 0x30, 0x30, 0x36, 0x39, 0x00, 0x00, 0xbf, 0x05, 0x02, 0x00, 0x00, 0x00,
   0x00, 0x00, 0x00, 0x00, 0x00, 0x00, 0xe1, 0x00, 0x03, 0x00, 0x00, 0x00, 0x00, 0x00, 0xb0,
   0x78, 0x39, 0xa8, 0x6b, 0xc4, 0x05, 0x90, 0x06, 0x09, 0x23, 0x06, 0x01, 0x03, 0x00, 0x00,
   0x00, 0x00, 0x00, 0x00, 0x00, 0x00, 0x00, 0x00, 0x00, 0x00, 0x00, 0x00, 0x00, 0x00, 0x00,
   0x00, 0x00, 0x00, 0x00, 0x00, 0x00, 0x00, 0x00, 0x00, 0x00, 0x00, 0x00, 0x00, 0x00, 0x00,
   0x00, 0x00, 0x06, 0x06, 0x06, 0x06, 0x06, 0x06]

theorem parseReply_capturedReply :
    parseReply (fun _ => capturedPlain) String.toUpper capturedReply "192.0.2.63" =
      .ok (some {
        deviceId := "100000000000001"
        serial := "0000E1540760EY1790000000000EXAMP"
        model := "760EY179"
        deviceType := "0xE1"
        host := "192.0.2.63"
        port := 6444 }) := by
  decide +kernel

/-- The captured announcement, framed and not. -/
theorem parseReply_announcement_captured :
    parseReply (fun _ => capturedPlain) String.toUpper capturedReply "192.0.2.63" =
        parseReply (fun _ => capturedPlain) String.toUpper (slice 8 192 capturedReply)
          "192.0.2.63" ∧
      "760EY179".toList <:+: "0000E1540760EY1790000000000EXAMP".toList ∧
        ∃ id, "100000000000001" = toString id ∧ id < 2 ^ 48 := by
  have hall := parseReply_announcement (fun _ => capturedPlain) String.toUpper "192.0.2.63"
  have hsplit : slice 0 8 capturedReply ++ slice 8 192 capturedReply ++
      slice 192 208 capturedReply = capturedReply := by decide +kernel
  constructor
  · have hframed := hall.1 (slice 0 8 capturedReply) (slice 8 192 capturedReply)
      (slice 192 208 capturedReply) (by decide +kernel) (by decide +kernel) (by decide +kernel)
      (by decide +kernel) (by decide +kernel)
    rwa [hsplit] at hframed
  · exact hall.2.2 capturedReply _ parseReply_capturedReply

end Discovery

end Holabrain
