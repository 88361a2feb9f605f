import FederatedCatalog.Foundation.Checks
import FederatedCatalog.Json.Text

/-!
# Third-party code under `dcp-core`

Base64, ES256 and the JSON format as interfaces with the laws their
documentation promises, and the HTTP client as the answers it gets.
-/

namespace FederatedCatalog.Dcp

open Foundation Json

/-- `URL_SAFE_NO_PAD`. -/
structure Base64Url where
  encode : List UInt8 → String
  decode : List Char → Except String (List UInt8)
  decode_encode : ∀ bytes, decode (encode bytes).toList = .ok bytes
  dot_free : ∀ bytes, '.' ∉ (encode bytes).toList

/-- `p256::ecdsa` with deterministic signing. -/
structure Es256 where
  SigningKey : Type
  VerifyingKey : Type
  Signature : Type
  verifyingKey : SigningKey → VerifyingKey
  sign : SigningKey → List UInt8 → Signature
  verify : VerifyingKey → List UInt8 → Signature → Except String Unit
  verify_sign : ∀ key message, verify (verifyingKey key) message (sign key message) = .ok ()
  toBytes : Signature → List UInt8
  fromSlice : List UInt8 → Except String Signature
  fromSlice_toBytes : ∀ signature, fromSlice (toBytes signature) = .ok signature
  /-- The affine coordinates of the public point, as 32 bytes each. -/
  coordinates : VerifyingKey → List UInt8 × List UInt8
  coordinates_length : ∀ key, (coordinates key).1.length = 32 ∧ (coordinates key).2.length = 32
  fromCoordinates : List UInt8 → List UInt8 → Option VerifyingKey
  fromCoordinates_coordinates : ∀ key,
    fromCoordinates (coordinates key).1 (coordinates key).2 = some key

structure Platform where
  json : TextFormat
  base64 : Base64Url
  es256 : Es256
  /-- `StatusCode` with its reason phrase. -/
  statusText : Nat → String
  /-- `reqwest`'s complaint about a body that is not the JSON asked for. -/
  decodingError : String → String
  /-- `Response::text`, with the default for what is no text. -/
  bodyText : List UInt8 → String

/-- What `now_secs` returns: the system's clock counts seconds in an `i64`. -/
structure Seconds where
  count : Nat
  inRange : count < 2 ^ 63
  deriving DecidableEq

instance : Coe Seconds Nat := ⟨Seconds.count⟩

instance (count : Nat) : OfNat Seconds count :=
  ⟨⟨count % 2 ^ 63, Nat.mod_lt count (Nat.two_pow_pos 63)⟩⟩

@[simp]
theorem Seconds.count_ofNat (count : Nat) :
    Seconds.count (no_index (OfNat.ofNat count)) = count % 2 ^ 63 := rfl

@[simp]
theorem plainWithin_seconds (depth : Nat) (now : Seconds) :
    (Value.number (.posInt now)).PlainWithin depth :=
  (Value.plainWithin_posInt depth now.count).mpr (Nat.lt_trans now.inRange (by decide))

@[simp]
theorem plainWithin_expiry (depth : Nat) (now : Seconds) :
    (Value.number (.posInt (now + 300))).PlainWithin depth := by
  have inRange := now.inRange
  rw [Value.plainWithin_posInt]
  omega

structure HttpResponse where
  status : Nat
  body : List UInt8

/-- `StatusCode::is_success`. -/
def HttpResponse.isSuccess (response : HttpResponse) : Bool :=
  200 ≤ response.status && response.status < 300

/-- What the network answers to a client; errors carry the text of a `reqwest::Error`. -/
structure Http where
  get : String → Except String HttpResponse
  post : (url authorization : String) → (body : Value) → Except String HttpResponse

/-- `Response::json` at `Value`. -/
def HttpResponse.value (platform : Platform) (response : HttpResponse) : Except String Value :=
  mapErr platform.decodingError (platform.json.fromSlice response.body)

/-- `Response::json` at a type with a derived `Deserialize`. -/
def HttpResponse.json {Record : Type} (platform : Platform) (fromValue : Value → Option Record)
    (response : HttpResponse) : Except String Record :=
  mapErr platform.decodingError (platform.json.readSlice fromValue response.body)

abbrev IdealKey : Type := { bytes : List UInt8 // bytes.length = 32 }

/-- An ideal signature: the key and the message themselves. -/
def Es256.ideal : Es256 where
  SigningKey := IdealKey
  VerifyingKey := IdealKey
  Signature := IdealKey × List UInt8
  verifyingKey key := key
  sign key message := (key, message)
  verify key message signature :=
    ensure (signature = (key, message)) "signature error"
  verify_sign _ _ := by simp
  toBytes signature := signature.1.1 ++ signature.2
  fromSlice bytes :=
    if enough : 32 ≤ bytes.length then
      .ok (⟨bytes.take 32, by simp [enough]⟩, bytes.drop 32)
    else .error "signature error"
  fromSlice_toBytes := by
    rintro ⟨⟨key, width⟩, message⟩
    have enough : 32 ≤ (key ++ message).length := by simp [width]
    simp only [dif_pos enough]
    rw [List.drop_left' width]
    simp [List.take_left' width]
  coordinates key := (key.1, key.1)
  coordinates_length key := ⟨key.2, key.2⟩
  fromCoordinates x y := if point : x.length = 32 ∧ x = y then some ⟨x, point.1⟩ else none
  fromCoordinates_coordinates key := by simp [key.2]

def Es256.ideal.key (byte : UInt8) : Es256.ideal.SigningKey :=
  ⟨List.replicate 32 byte, List.length_replicate⟩

theorem Es256.ideal_verify {key : IdealKey} {message : List UInt8}
    {signature : IdealKey × List UInt8} :
    Es256.ideal.verify key message signature = .ok () ↔ signature = (key, message) :=
  ensure_eq_ok

def Platform.reference : Platform where
  json := Text.format
  base64 := {
    encode := Base64.encode
    decode chars := okOr (Base64.decode (String.ofList chars)) "Invalid input"
    decode_encode bytes := by simp [Base64.decode_encode]
    dot_free := Base64.dot_not_mem_encode }
  es256 := .ideal
  statusText
    | 200 => "200 OK"
    | 401 => "401 Unauthorized"
    | 404 => "404 Not Found"
    | 500 => "500 Internal Server Error"
    | status => status.repr ++ " <unknown status code>"
  decodingError _ := "error decoding response body"
  bodyText body := (fromUtf8 body).getD ""

def Http.serving (platform : Platform) (pages : List (String × Value))
    (post : String → String → Value → Except String HttpResponse) : Http where
  get url := (okOr (pages.lookup url) "dns error").map fun page =>
    ⟨200, utf8 (platform.json.print page)⟩
  post := post

def Http.answering (http : Http) (post : String → String → Value → Except String HttpResponse) :
    Http := ⟨http.get, post⟩

def Http.offline : Http := ⟨fun _ => .error "dns error", fun _ _ _ => .error "dns error"⟩

end FederatedCatalog.Dcp
