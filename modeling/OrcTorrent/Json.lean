import OrcTorrent.State

/-! The engine's replies as `serde_json::Value`s, and the best-effort field readers of
the core (`pick_u64`, `pick_f32`, `pick_str`, `pick_bool`, `peer_entries_from_snapshot`).
An object keeps its keys in iteration order; `get` takes the first match. -/

namespace OrcTorrent

/-- A `serde_json::Number`: an unsigned or a negative integer, or an `f64`. -/
inductive JsonNumber
  | posInt (n : Nat)
  | negInt (n : Int)
  | float (f : Float)

inductive JsonValue
  | null
  | bool (b : Bool)
  | number (n : JsonNumber)
  | string (s : String)
  | array (xs : List JsonValue)
  | object (kvs : List (String × JsonValue))

/-- `char::is_whitespace`: the Unicode `White_Space` property. -/
def rustIsWhitespace (c : Char) : Bool :=
  let n := c.toNat
  (0x09 ≤ n && n ≤ 0x0D) || n = 0x20 || n = 0x85 || n = 0xA0 || n = 0x1680 ||
    (0x2000 ≤ n && n ≤ 0x200A) || n = 0x2028 || n = 0x2029 || n = 0x202F ||
    n = 0x205F || n = 0x3000

/-- `s.trim().is_empty()`. -/
def trimIsEmpty (s : String) : Bool := s.data.all rustIsWhitespace

/-- The external library functions the core calls: base64, lossy UTF-8, SHA-1 with hex
encoding, Unicode character classes, socket-address parsing, the GeoIP lookup, and the
two `f32` operations of the availability estimate. -/
structure Platform where
  decodeBase64 : String → Option (List UInt8)
  fromUtf8Lossy : List UInt8 → String
  sha1Hex : List UInt8 → String
  /-- `char::is_alphanumeric` -/
  isAlphanumeric : Char → Bool
  /-- `addr.parse::<SocketAddr>()`, as `(ip.to_string(), port)` -/
  parseSocketAddr : String → Option (String × Nat)
  /-- `lookup_country` through the state's GeoIP reader, when there is one -/
  lookupCountry : String → Option String
  /-- `str::to_lowercase` -/
  toLowercase : String → String
  /-- `n as f32` for an `f64` -/
  f64ToF32 : Float → F32
  /-- `(p * n as f32).ceil() as usize` -/
  f32CeilMul : F32 → Nat → Nat

/-- A platform whose library functions return fixed values, to run the model on
concrete inputs. -/
def Platform.constant : Platform :=
  ⟨fun _ => none, fun _ => "", fun _ => "", fun _ => false, fun _ => none, fun _ => none,
    fun s => s, fun _ => 0, fun _ _ => 0⟩

/-! ## Lossy UTF-8 decoding -/

/-- U+FFFD, which lossy decoding puts in place of an ill-formed subsequence. -/
def replacementChar : Char := Char.ofNat 0xFFFD

/-- A multi-byte sequence begun and not finished: the code point's bits so far, the
continuation bytes still owed, and the range the next one must fall in. -/
structure Utf8Pending where
  bits : Nat
  owed : Nat
  lo : Nat
  hi : Nat

/-- A byte between characters, after the well-formed byte sequences of Unicode Table 3-7:
an ASCII byte is a character, a lead byte begins a sequence (`E0`, `ED`, `F0` and `F4`
narrow the range of the byte after them), and any other byte is ill-formed. -/
def utf8Begin (b : Nat) : List Char × Option Utf8Pending :=
  if b < 0x80 then ([Char.ofNat b], none)
  else if 0xC2 ≤ b ∧ b ≤ 0xDF then ([], some ⟨b - 0xC0, 1, 0x80, 0xBF⟩)
  else if 0xE0 ≤ b ∧ b ≤ 0xEF then
    ([], some ⟨b - 0xE0, 2, if b = 0xE0 then 0xA0 else 0x80, if b = 0xED then 0x9F else 0xBF⟩)
  else if 0xF0 ≤ b ∧ b ≤ 0xF4 then
    ([], some ⟨b - 0xF0, 3, if b = 0xF0 then 0x90 else 0x80, if b = 0xF4 then 0x8F else 0xBF⟩)
  else ([replacementChar], none)

/-- `String::from_utf8_lossy`, byte by byte after the sequence `pending` begun: a maximal
ill-formed subsequence becomes one U+FFFD, and the byte that ends it is read anew. -/
def utf8DecodeFrom : Option Utf8Pending → List UInt8 → List Char
  | none, [] => []
  | some _, [] => [replacementChar]
  | none, b :: bs => (utf8Begin b.toNat).1 ++ utf8DecodeFrom (utf8Begin b.toNat).2 bs
  | some q, b :: bs =>
    if q.lo ≤ b.toNat ∧ b.toNat ≤ q.hi then
      let bits := q.bits * 64 + (b.toNat - 0x80)
      if q.owed = 1 then Char.ofNat bits :: utf8DecodeFrom none bs
      else utf8DecodeFrom (some ⟨bits, q.owed - 1, 0x80, 0xBF⟩) bs
    else replacementChar :: ((utf8Begin b.toNat).1 ++ utf8DecodeFrom (utf8Begin b.toNat).2 bs)

def utf8DecodeLossy (bytes : List UInt8) : String := ⟨utf8DecodeFrom none bytes⟩

example : utf8DecodeLossy [0x61, 0xC3, 0xA9, 0xE2, 0x82, 0xAC] = "aé€" := by decide
example : utf8DecodeLossy [0xE2, 0x82, 0x61, 0xFF] = ⟨[replacementChar, 'a', replacementChar]⟩ := by
  decide

/-- A platform that decodes UTF-8 as the Rust library does and whose character classes and
case mapping are ASCII's, where they agree with Rust's Unicode ones on ASCII text; the other
library functions return fixed values. -/
def Platform.ascii : Platform :=
  { Platform.constant with
    fromUtf8Lossy := utf8DecodeLossy
    isAlphanumeric := Char.isAlphanum
    toLowercase := fun s => ⟨s.data.map Char.toLower⟩ }

namespace JsonValue

def get (v : JsonValue) (k : String) : Option JsonValue :=
  match v with
  | .object kvs => kvs.lookup k
  | _ => none

def asU64 : JsonValue → Option Nat
  | .number (.posInt n) => some n
  | _ => none

def asI64 : JsonValue → Option Int
  | .number (.posInt n) => if n < 2 ^ 63 then some n else none
  | .number (.negInt n) => some n
  | _ => none

def asF64 : JsonValue → Option Float
  | .number (.posInt n) => some (Float.ofNat n)
  | .number (.negInt n) => some (Float.ofInt n)
  | .number (.float f) => some f
  | _ => none

def asBool : JsonValue → Option Bool
  | .bool b => some b
  | _ => none

def asStr : JsonValue → Option String
  | .string s => some s
  | _ => none

def asArray : JsonValue → Option (List JsonValue)
  | .array xs => some xs
  | _ => none

def asObject : JsonValue → Option (List (String × JsonValue))
  | .object kvs => some kvs
  | _ => none

def isObject (v : JsonValue) : Bool := v.asObject.isSome

end JsonValue

/-- The first alias of `keys` present in `v` whose value `read` accepts. -/
def pickWith {β : Type} (read : JsonValue → Option β) (v : JsonValue) (keys : List String) :
    Option β := do
  let obj ← v.asObject
  keys.findSome? fun k => (obj.lookup k).bind read

def pickU64 : JsonValue → List String → Option Nat :=
  pickWith fun x => x.asU64 <|> x.asI64.map fun n => n.toNat

def pickF32 (p : Platform) : JsonValue → List String → Option F32 :=
  pickWith fun x => x.asF64.map p.f64ToF32

def pickStr : JsonValue → List String → Option String :=
  pickWith fun x => x.asStr.bind fun s => if trimIsEmpty s then none else some s

def pickBool : JsonValue → List String → Option Bool :=
  pickWith fun x => x.asBool <|> (x.asI64.map (· != 0)) <|> (x.asU64.map (· != 0))

/-- `peer_entries_from_snapshot`: the peers of a snapshot, keyed by address. -/
def peerEntriesFromSnapshot (v : JsonValue) : List (String × JsonValue) :=
  match v.asObject with
  | none => []
  | some obj =>
    let sub := ["peers", "per_peer", "per_peer_stats", "peer_stats",
      "per_peer_stats_snapshot"].findSome? fun key =>
        (obj.lookup key).bind fun s =>
          match s.asObject, s.asArray with
          | some map, _ => some map
          | none, some arr => some (arr.enum.map fun (i, p) =>
              ((pickStr p ["addr", "peer_addr", "peer", "socket"]).getD
                ("peer-" ++ toString i), p))
          | none, none => none
    match sub with
    | some entries => entries
    | none => if obj.all (fun e => e.2.isObject) then obj else []

end OrcTorrent
