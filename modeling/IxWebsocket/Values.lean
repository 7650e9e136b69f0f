import Mathlib

/-!
# The data the plugin passes around

Text is a list of UTF-8 bytes or of UTF-16 units. `int` is an unbounded integer: ids, windows and
processes stay far from its ends. What the plugin calls and does not define, the conversions of
the platform, the JSON writer and the defaults of IXWebSocket, is a `Host`.
-/

namespace IxWebsocket

/-! ## Text and numbers -/

/-- The bytes of a `std::string`. -/
abbrev Bytes := List UInt8

abbrev CUTF16String := List UInt16

/-- The bytes of an ASCII literal. -/
def ascii (s : String) : Bytes := s.toList.map fun c => c.toNat.toUInt8

/-- What is left of a string passed on by its `c_str()`: everything before the first NUL. -/
def cstr {α : Type*} [DecidableEq α] [Zero α] (s : List α) : List α := s.takeWhile (· ≠ 0)

theorem cstr_eq {α : Type*} [DecidableEq α] [Zero α] {l : List α} (h : 0 ∉ l) : cstr l = l := by
  refine List.takeWhile_eq_self_iff.2 fun a ha => ?_
  simp only [ne_eq, decide_eq_true_eq]
  exact fun h0 => h (h0 ▸ ha)

theorem cstr_concat_zero {α : Type*} [DecidableEq α] [Zero α] :
    ∀ l : List α, cstr (l ++ [0]) = cstr l
  | [] => by simp [cstr]
  | a :: l => by
    have ih := cstr_concat_zero l
    unfold cstr at ih ⊢
    rw [List.cons_append, List.takeWhile_cons, List.takeWhile_cons, ih]

/-- A `double`. -/
inductive Double
  | finite (q : ℚ)
  | infinite (negative : Bool)
  | nan
  deriving DecidableEq

instance : Coe ℤ Double := ⟨fun i => .finite i⟩

instance : Inhabited Double := ⟨(0 : ℤ)⟩

/-- `(double)n`: of the 53 bits that fit, and of two as near the even one. -/
def Double.ofSize (n : UInt64) : Double :=
  let e := n.toNat.log2 - 52
  let q := n.toNat / 2 ^ e
  let r := n.toNat % 2 ^ e
  let up := 2 ^ e < 2 * r ∨ (2 * r = 2 ^ e ∧ q % 2 = 1)
  (((if up then q + 1 else q) * 2 ^ e : ℕ) : ℤ)

/-- `(int)n`: the low 32 bits, signed. -/
def lowInt (n : UInt64) : ℤ := (BitVec.ofNat 32 n.toNat).toInt

/-! ## JSON -/

inductive JsonValue
  | int (i : ℤ)
  | uint (n : ℕ)
  | real (x : Double)
  | bool (b : Bool)
  | string (s : Bytes)
  deriving DecidableEq

/-- A `Json::Value` object: a map from names to values. -/
abbrev JsonObject := Std.TreeMap Bytes JsonValue

/-! ## Objects of the 4D host -/

/-- A host variable. The host reads every number of an object or a collection back as a real. -/
inductive PAVariable
  | null
  | boolean (b : Bool)
  | real (x : Double)
  | unistring (s : CUTF16String)
  | object (o : List (String × PAVariable))
  | collection (c : List PAVariable)
  | other
  deriving Inhabited

abbrev PAObject := List (String × PAVariable)

abbrev PACollection := List PAVariable

namespace PAObject

/-- `PA_GetObjectProperty`, `none` where `PA_HasObjectProperty` is false. -/
def get? : PAObject → String → Option PAVariable
  | [], _ => none
  | (k, v) :: o, key => if k = key then some v else get? o key

/-- `PA_SetObjectProperty` -/
def set : PAObject → String → PAVariable → PAObject
  | [], key, v => [(key, v)]
  | (k, w) :: o, key, v => if k = key then (k, v) :: o else (k, w) :: set o key v

@[simp] theorem get?_set_self : ∀ (o : PAObject) (key : String) (v : PAVariable),
    (o.set key v).get? key = some v
  | [], key, v => by simp [set, get?]
  | (k, w) :: o, key, v => by
    by_cases h : k = key
    · simp [set, get?, h]
    · simpa [set, get?, h] using get?_set_self o key v

theorem get?_set_of_ne : ∀ (o : PAObject) {key key' : String} (v : PAVariable), key' ≠ key →
    (o.set key v).get? key' = o.get? key'
  | [], key, key', v, h => by simp [set, get?, Ne.symm h]
  | (k, w) :: o, key, key', v, h => by
    by_cases hk : k = key
    · subst hk
      simp [set, get?, Ne.symm h]
    · have ih := get?_set_of_ne o v h
      simp only [set, get?, if_neg hk]
      rw [ih]

end PAObject

/-! ## IXWebSocket -/

/-- `ix::WebSocketPerMessageDeflateOptions`, the fields in the order of its constructor. -/
structure DeflateOptions where
  enabled : Bool
  clientNoContextTakeover : Bool
  serverNoContextTakeover : Bool
  clientMaxWindowBits : UInt8
  serverMaxWindowBits : UInt8
  deriving DecidableEq

/-- The settings of an `ix::WebSocket` the plugin sets and reads. -/
structure WebSocket where
  url : Bytes
  pingInterval : ℤ
  automaticReconnection : Bool
  pong : Bool
  perMessageDeflateOptions : DeflateOptions
  deriving DecidableEq

/-- A connection of a server: the address its `std::shared_ptr<ix::WebSocket>` points to. -/
abbrev Conn := ℕ

/-- An `ix::WebSocketServer`: what it was built with, and the connections it holds now. -/
structure WebSocketServer where
  port : ℤ
  host : Bytes
  backlog : ℤ
  maxConnections : UInt64
  clients : Std.TreeSet Conn := ∅

/-- `ix::WebSocketSendInfo` -/
structure SendInfo where
  success : Bool
  compressionError : Bool
  payloadSize : UInt64
  wireSize : UInt64
  deriving DecidableEq

/-- What the plugin calls and does not define. -/
structure Host where
  /-- UTF-8 to UTF-16; `none` where the platform refuses the text. -/
  fromUtf8 : Bytes → Option CUTF16String
  /-- UTF-16 to UTF-8. -/
  toUtf8 : CUTF16String → Option Bytes
  /-- `Json::writeString` with the default builder. -/
  writeString : JsonObject → Bytes
  /-- What a `double` is cast to that is infinite, undefined or no `size_t`. -/
  castSpecial : Double → ℤ
  /-- A `new ix::WebSocket()`. -/
  webSocket : WebSocket
  /-- The options `disablePerMessageDeflate` stores. -/
  deflateDisabled : DeflateOptions
  /-- `kDefaultClientMaxWindowBits` -/
  defaultClientMaxWindowBits : UInt8
  /-- `kDefaultServerMaxWindowBits` -/
  defaultServerMaxWindowBits : UInt8
  /-- `kDefaultPort`, `kDefaultHost`, `kDefaultTcpBacklog`, `kDefaultMaxConnections` -/
  serverDefaults : WebSocketServer
  /-- ASCII text converts unit by unit on every platform. -/
  fromUtf8_ascii : ∀ s : Bytes, (∀ b ∈ s, b < 128) → fromUtf8 s = some (s.map UInt8.toUInt16)

namespace Host

/-- `(int)x`: the fraction is cut off. -/
def toInt (H : Host) : Double → ℤ
  | .finite q => q.num.tdiv q.den
  | x => H.castSpecial x

@[simp] theorem toInt_intCast (H : Host) (i : ℤ) : H.toInt (i : Double) = i := by
  simp [toInt]

/-- `(size_t)x` -/
def toSize (H : Host) (x : Double) : UInt64 :=
  let n := H.toInt x
  if 0 ≤ n ∧ n < 2 ^ 64 then UInt64.ofNat n.toNat
  else UInt64.ofNat (H.castSpecial x % 2 ^ 64).toNat

/-- `(uint8_t)x` -/
def toUInt8 (H : Host) (x : Double) : UInt8 := UInt8.ofNat (H.toInt x % 256).toNat

/-- `ix::WebSocketPerMessageDeflateOptions options;` -/
def deflateDefaults (H : Host) : DeflateOptions :=
  ⟨false, false, false, H.defaultClientMaxWindowBits, H.defaultServerMaxWindowBits⟩

section Plain

def quote (s : Bytes) : Bytes :=
  [34] ++ s.flatMap (fun b => if b = 34 ∨ b = 92 then [92, b] else [b]) ++ [34]

def writeValue : JsonValue → Bytes
  | .int i => ascii (toString i)
  | .uint n => ascii (toString n)
  | .real (.finite q) => ascii (toString (q.num.tdiv q.den)) ++ ascii ".0"
  | .real _ => ascii "null"
  | .bool b => ascii (if b then "true" else "false")
  | .string s => quote s

/-- One member a line, as the default builder of jsoncpp lays an object out. -/
def writeObject (info : JsonObject) : Bytes :=
  [123] ++ (ascii ",").intercalate
    (info.toList.map fun e => [10, 9] ++ quote e.1 ++ ascii " : " ++ writeValue e.2) ++ [10, 125]

/-- A host that converts ASCII text only, with the defaults of IXWebSocket. -/
def plain : Host where
  fromUtf8 s := if ∀ b ∈ s, b < 128 then some (s.map UInt8.toUInt16) else none
  toUtf8 s := if ∀ b ∈ s, b < 128 then some (s.map UInt16.toUInt8) else none
  writeString := writeObject
  castSpecial _ := 0
  webSocket := ⟨[], -1, true, true, ⟨false, false, false, 15, 15⟩⟩
  deflateDisabled := ⟨false, false, false, 15, 15⟩
  defaultClientMaxWindowBits := 15
  defaultServerMaxWindowBits := 15
  serverDefaults := ⟨8080, ascii "127.0.0.1", 5, 32, ∅⟩
  fromUtf8_ascii _ h := if_pos h

end Plain

end Host

/-- `websocket_event_queue::convert` into an empty string: a text the platform refuses leaves it
empty. -/
def convert (H : Host) (s : Bytes) : CUTF16String := ((H.fromUtf8 (cstr s)).map cstr).getD []

end IxWebsocket
