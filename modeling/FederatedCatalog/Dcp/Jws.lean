import FederatedCatalog.Dcp.Platform
import FederatedCatalog.Foundation.Text

/-!
# Compact JWS

`dcp-core`'s hand-rolled compact JWS: three base64url segments, of which the
first two are signed.
-/

namespace FederatedCatalog.Dcp

open Foundation Json

variable (platform : Platform)

def b64Encode (bytes : List UInt8) : String := platform.base64.encode bytes

def b64Decode (segment : String) : Except String (List UInt8) :=
  mapErr ("invalid base64url: " ++ ·) (platform.base64.decode segment.toList)

structure JwsParts where
  header : String
  payload : String
  signature : String
  more : List String

def jwsParts (token : String) : Except String JwsParts :=
  match split '.' token with
  | [] => .error "missing JWS header"
  | [_] => .error "missing JWS payload"
  | [_, _] => .error "missing JWS signature"
  | header :: payload :: signature :: more => .ok ⟨header, payload, signature, more⟩

def JwsParts.signingInput (parts : JwsParts) : String :=
  String.ofList (parts.header.toList ++ '.' :: parts.payload.toList)

def decodeSegment (segment : String) : Except String Value := do
  let bytes ← b64Decode platform segment
  platform.json.fromSlice bytes

structure DecodedJws where
  signingInput : String
  header : Value
  payload : Value

def decodeJwsUnverified (token : String) : Except String DecodedJws := do
  let parts ← jwsParts token
  ensure (parts.more = []) "JWS has more than 3 segments"
  let header ← decodeSegment platform parts.header
  let payload ← decodeSegment platform parts.payload
  return ⟨parts.signingInput, header, payload⟩

def verifyJwsSignature (token : String) (verifyingKey : platform.es256.VerifyingKey) :
    Except String Unit := do
  let parts ← jwsParts token
  let signatureBytes ← b64Decode platform parts.signature
  let signature ← mapErr ("malformed signature: " ++ ·) (platform.es256.fromSlice signatureBytes)
  mapErr ("signature verification failed: " ++ ·)
    (platform.es256.verify verifyingKey (utf8 parts.signingInput) signature)

/-- `json!` keeps the members of an object in the order of their keys. -/
def jwsHeader (kid : String) : Value := .object [("alg", .string "ES256"), ("kid", .string kid)]

def signingInputOf (payload : Value) (kid : String) : String :=
  String.ofList
    ((b64Encode platform (utf8 (platform.json.print (jwsHeader kid)))).toList ++
      '.' :: (b64Encode platform (utf8 (platform.json.print payload))).toList)

def signJws (payload : Value) (signingKey : platform.es256.SigningKey) (kid : String) : String :=
  let headerB64 := b64Encode platform (utf8 (platform.json.print (jwsHeader kid)))
  let payloadB64 := b64Encode platform (utf8 (platform.json.print payload))
  let signature := platform.es256.sign signingKey (utf8 (signingInputOf platform payload kid))
  let signatureB64 := b64Encode platform (platform.es256.toBytes signature)
  String.ofList (headerB64.toList ++ '.' :: (payloadB64.toList ++ '.' :: signatureB64.toList))

theorem dot_free (bytes : List UInt8) : '.' ∉ (b64Encode platform bytes).toList :=
  platform.base64.dot_free bytes

@[simp]
theorem b64Decode_b64Encode (bytes : List UInt8) :
    b64Decode platform (b64Encode platform bytes) = .ok bytes := by
  simp [b64Decode, b64Encode, platform.base64.decode_encode]

theorem decodeSegment_readsBack {value : Value} (kept : platform.json.ReadsBack value) :
    decodeSegment platform (b64Encode platform (utf8 (platform.json.print value))) =
      .ok value := by
  simp only [decodeSegment, b64Decode_b64Encode]
  exact kept

@[simp]
theorem decodeSegment_print {value : Value} (plain : value.PlainWithin 127) :
    decodeSegment platform (b64Encode platform (utf8 (platform.json.print value))) =
      .ok value :=
  decodeSegment_readsBack platform (platform.json.fromSlice_print value plain)

theorem plainWithin_jwsHeader (kid : String) : (jwsHeader kid).PlainWithin 127 := by
  simp [jwsHeader]

theorem jwsParts_signJws (payload : Value) (signingKey : platform.es256.SigningKey)
    (kid : String) :
    jwsParts (signJws platform payload signingKey kid) =
      .ok ⟨b64Encode platform (utf8 (platform.json.print (jwsHeader kid))),
        b64Encode platform (utf8 (platform.json.print payload)),
        b64Encode platform (platform.es256.toBytes
          (platform.es256.sign signingKey (utf8 (signingInputOf platform payload kid)))), []⟩ := by
  simp only [jwsParts, signJws]
  rw [split_three (dot_free platform _) (dot_free platform _) (dot_free platform _)]

theorem decodeJwsUnverified_minted {payload : Value} (kept : platform.json.ReadsBack payload)
    (signingKey : platform.es256.SigningKey) (kid : String) :
    decodeJwsUnverified platform (signJws platform payload signingKey kid) =
      .ok ⟨signingInputOf platform payload kid, jwsHeader kid, payload⟩ := by
  unfold decodeJwsUnverified
  simp only [jwsParts_signJws, ok_bind, ensure,
    decodeSegment_print platform (plainWithin_jwsHeader kid), decodeSegment_readsBack platform kept]
  rfl

theorem decodeJwsUnverified_signJws {payload : Value} (plain : payload.PlainWithin 127)
    (signingKey : platform.es256.SigningKey) (kid : String) :
    decodeJwsUnverified platform (signJws platform payload signingKey kid) =
      .ok ⟨signingInputOf platform payload kid, jwsHeader kid, payload⟩ :=
  decodeJwsUnverified_minted platform (platform.json.fromSlice_print payload plain) signingKey kid

theorem verifyJwsSignature_minted (payload : Value) (signingKey : platform.es256.SigningKey)
    (kid : String) (verifyingKey : platform.es256.VerifyingKey) :
    verifyJwsSignature platform (signJws platform payload signingKey kid) verifyingKey =
      mapErr ("signature verification failed: " ++ ·)
        (platform.es256.verify verifyingKey (utf8 (signingInputOf platform payload kid))
          (platform.es256.sign signingKey (utf8 (signingInputOf platform payload kid)))) := by
  unfold verifyJwsSignature
  simp only [jwsParts_signJws, ok_bind, b64Decode_b64Encode, platform.es256.fromSlice_toBytes,
    mapErr, JwsParts.signingInput]
  rfl

theorem verifyJwsSignature_signJws (payload : Value) (signingKey : platform.es256.SigningKey)
    (kid : String) :
    verifyJwsSignature platform (signJws platform payload signingKey kid)
      (platform.es256.verifyingKey signingKey) = .ok () := by
  rw [verifyJwsSignature_minted, platform.es256.verify_sign]
  rfl

theorem segments_of_jwsParts {token : String} {parts : JwsParts} (cut : jwsParts token = .ok parts) :
    split '.' token = parts.header :: parts.payload :: parts.signature :: parts.more := by
  unfold jwsParts at cut
  split at cut
  case h_4 pieces =>
    cases cut
    exact pieces
  all_goals cases cut

theorem jwsParts_free {token : String} {parts : JwsParts} (cut : jwsParts token = .ok parts) :
    '.' ∉ parts.header.toList ∧ '.' ∉ parts.payload.toList := by
  have free := split_free '.' token
  rw [segments_of_jwsParts cut] at free
  exact ⟨free parts.header (by simp), free parts.payload (by simp)⟩

theorem decodeJwsUnverified_eq_ok {token : String} {decoded : DecodedJws} :
    decodeJwsUnverified platform token = .ok decoded ↔
      ∃ parts, jwsParts token = .ok parts ∧ parts.more = [] ∧
        decodeSegment platform parts.header = .ok decoded.header ∧
        decodeSegment platform parts.payload = .ok decoded.payload ∧
        decoded.signingInput = parts.signingInput := by
  simp only [decodeJwsUnverified, bind_eq_ok, ensure_eq_ok, pure_eq_ok]
  constructor
  · rintro ⟨parts, cut, _, more, header, headerRead, payload, payloadRead, rfl⟩
    exact ⟨parts, cut, more, headerRead, payloadRead, rfl⟩
  · rintro ⟨parts, cut, more, headerRead, payloadRead, input⟩
    exact ⟨parts, cut, (), more, decoded.header, headerRead, decoded.payload, payloadRead,
      by rw [← input]⟩

theorem three_segments {token : String} {decoded : DecodedJws}
    (read : decodeJwsUnverified platform token = .ok decoded) : (split '.' token).length = 3 := by
  obtain ⟨parts, cut, complete, _⟩ := (decodeJwsUnverified_eq_ok platform).mp read
  rw [segments_of_jwsParts cut, complete]
  rfl

theorem payload_of_signingInput {token : String} {decoded : DecodedJws}
    (read : decodeJwsUnverified platform token = .ok decoded) {payload : Value} {kid : String}
    (plain : payload.PlainWithin 127)
    (same : decoded.signingInput = signingInputOf platform payload kid) :
    decoded.payload = payload ∧ decoded.header = jwsHeader kid := by
  obtain ⟨parts, cut, _, header, body, input⟩ := (decodeJwsUnverified_eq_ok platform).mp read
  have free := jwsParts_free cut
  rw [input] at same
  have lists := congrArg String.toList same
  simp only [JwsParts.signingInput, signingInputOf, String.toList_ofList] at lists
  obtain ⟨sameHeader, samePayload⟩ := append_separator_inj free.1 (dot_free platform _) lists
  rw [String.toList_inj.mp sameHeader,
    decodeSegment_print platform (plainWithin_jwsHeader kid)] at header
  rw [String.toList_inj.mp samePayload, decodeSegment_print platform plain] at body
  exact ⟨(Except.ok.inj body).symm, (Except.ok.inj header).symm⟩

/-- ES256 over a message, with the signature in base64url. -/
def checkSignature (verifyingKey : platform.es256.VerifyingKey) (message signatureB64 : String) :
    Except String Unit := do
  let signatureBytes ← b64Decode platform signatureB64
  let signature ← mapErr ("malformed signature: " ++ ·) (platform.es256.fromSlice signatureBytes)
  mapErr ("signature verification failed: " ++ ·)
    (platform.es256.verify verifyingKey (utf8 message) signature)

/-- The decoded claims are those under the signature that is checked. -/
structure Vouched (token : String) (decoded : DecodedJws)
    (verifyingKey : platform.es256.VerifyingKey) (header payload signature : String) : Prop where
  segments : split '.' token = [header, payload, signature]
  input : split '.' decoded.signingInput = [header, payload]
  header_decoded : decodeSegment platform header = .ok decoded.header
  payload_decoded : decodeSegment platform payload = .ok decoded.payload
  checked : verifyJwsSignature platform token verifyingKey =
    checkSignature platform verifyingKey decoded.signingInput signature

/-- Peeking and verifying cut a token at the same places. -/
theorem decoded_vouched {token : String} {decoded : DecodedJws}
    (read : decodeJwsUnverified platform token = .ok decoded)
    (verifyingKey : platform.es256.VerifyingKey) :
    ∃ header payload signature,
      Vouched platform token decoded verifyingKey header payload signature := by
  obtain ⟨parts, cut, complete, headerRead, payloadRead, input⟩ :=
    (decodeJwsUnverified_eq_ok platform).mp read
  obtain ⟨headerFree, payloadFree⟩ := jwsParts_free cut
  refine ⟨parts.header, parts.payload, parts.signature, ?_, ?_, headerRead, payloadRead, ?_⟩
  · rw [segments_of_jwsParts cut, complete]
  · rw [input, JwsParts.signingInput, split_append _ headerFree, split_of_not_mem payloadFree]
  · rw [input]
    unfold verifyJwsSignature
    simp only [cut, ok_bind]
    rfl

structure ReadAsSigned (payload : Value) (signingKey : platform.es256.SigningKey)
    (kid : String) : Prop where
  decoded : ∃ signingInput header,
    decodeJwsUnverified platform (signJws platform payload signingKey kid) =
      .ok ⟨signingInput, header, payload⟩ ∧ (header.get "kid").bind Value.asStr = some kid
  accepted : verifyJwsSignature platform (signJws platform payload signingKey kid)
    (platform.es256.verifyingKey signingKey) = .ok ()

/-- Signing, peeking and verifying agree. -/
theorem signing_peeking_verifying_agree (platform : Platform) :
    (∀ (payload : Value) (signingKey : platform.es256.SigningKey) (kid : String),
      platform.json.ReadsBack payload → ReadAsSigned platform payload signingKey kid) ∧
    ∀ (token : String) (decoded : DecodedJws) (verifyingKey : platform.es256.VerifyingKey),
      decodeJwsUnverified platform token = .ok decoded →
      ∃ header payload signature,
        Vouched platform token decoded verifyingKey header payload signature := by
  constructor
  · intro payload signingKey kid kept
    refine ⟨⟨_, _, decodeJwsUnverified_minted platform kept signingKey kid, ?_⟩,
      verifyJwsSignature_signJws platform payload signingKey kid⟩
    simp [jwsHeader, List.lookup_cons]
  · intro token decoded verifyingKey read
    exact decoded_vouched platform read verifyingKey

theorem sample_claim_agrees :
    ReadAsSigned .reference (.object [("iss", .string "did:web:alice.example")]) (Es256.ideal.key 1)
      "did:web:alice.example#dsp-key" :=
  (signing_peeking_verifying_agree .reference).1 _ _ _
    (Platform.reference.json.fromSlice_print _ (by simp))

end FederatedCatalog.Dcp
