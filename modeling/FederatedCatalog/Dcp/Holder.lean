import FederatedCatalog.Dcp.Issuer

/-!
# The holder of a credential

A P-256 key pair with its `did:web` identity, and the party that presents its
own credential: it mints T1 with the nested access token T2, and answers the
relying party that comes back with a token of its own (T3).
-/

namespace FederatedCatalog.Dcp

open Foundation Json

def presentationContext : String := "https://www.w3.org/2018/credentials/v1"

structure DcpKeyPair (platform : Platform) where
  ownDid : String
  ownKeyId : String
  signingKey : platform.es256.SigningKey
  /-- The public point, kept so that `did_document` need not derive it again. -/
  publicKeyXy : List UInt8 × List UInt8
  matching : publicKeyXy = platform.es256.coordinates (platform.es256.verifyingKey signingKey)

namespace DcpKeyPair

variable {platform : Platform}

/-- `random` is the freshly drawn key. -/
def generate (ownDid : String) (random : platform.es256.SigningKey) : DcpKeyPair platform where
  ownDid := ownDid
  ownKeyId := ownDid ++ "#dsp-key"
  signingKey := random
  publicKeyXy := platform.es256.coordinates (platform.es256.verifyingKey random)
  matching := rfl

def verifyingKey (keyPair : DcpKeyPair platform) : platform.es256.VerifyingKey :=
  platform.es256.verifyingKey keyPair.signingKey

def publicKeyJwk (keyPair : DcpKeyPair platform) : Value :=
  .object [
    ("crv", .string "P-256"),
    ("kty", .string "EC"),
    ("x", .string (b64Encode platform keyPair.publicKeyXy.1)),
    ("y", .string (b64Encode platform keyPair.publicKeyXy.2))]

def ownMethod (keyPair : DcpKeyPair platform) : Value :=
  .object [
    ("controller", .string keyPair.ownDid),
    ("id", .string keyPair.ownKeyId),
    ("publicKeyJwk", keyPair.publicKeyJwk),
    ("type", .string "JsonWebKey2020")]

def advertised (service : String × String) : Value :=
  .object [("serviceEndpoint", .string service.2), ("type", .string service.1)]

def didDocument (keyPair : DcpKeyPair platform) (services : List (String × String)) : Value :=
  .object [
    ("@context", .array [.string "https://www.w3.org/ns/did/v1"]),
    ("id", .string keyPair.ownDid),
    ("service", .array (services.map advertised)),
    ("verificationMethod", .array [keyPair.ownMethod])]

def sign (keyPair : DcpKeyPair platform) (payload : Value) : String :=
  signJws platform payload keyPair.signingKey keyPair.ownKeyId

def publishedDocument (keyPair : DcpKeyPair platform) (services : List (String × String)) :
    DidDocument where
  verificationMethod := [⟨keyPair.ownKeyId, some
    ⟨b64Encode platform keyPair.publicKeyXy.1, b64Encode platform keyPair.publicKeyXy.2⟩⟩]
  service := services.map fun service => ⟨service.1, service.2⟩

theorem fromValue_advertised (service : String × String) :
    DidService.fromValue (advertised service) = some ⟨service.1, service.2⟩ := by
  have fields : (advertised service).fields ["type", "serviceEndpoint"] = some ⟨true, _⟩ :=
    Value.fields_object (by simp)
  simp [DidService.fromValue, fields, Fields.required, Fields.get, List.lookup_cons]

theorem fromValue_publicKeyJwk (keyPair : DcpKeyPair platform) :
    Jwk.fromValue keyPair.publicKeyJwk = some
      ⟨b64Encode platform keyPair.publicKeyXy.1, b64Encode platform keyPair.publicKeyXy.2⟩ := by
  have fields : keyPair.publicKeyJwk.fields ["x", "y"] = some ⟨true, _⟩ :=
    Value.fields_object (by simp)
  simp [Jwk.fromValue, fields, Fields.required, Fields.get, List.lookup_cons]

theorem fromValue_ownMethod (keyPair : DcpKeyPair platform) :
    VerificationMethod.fromValue keyPair.ownMethod = some ⟨keyPair.ownKeyId, some
      ⟨b64Encode platform keyPair.publicKeyXy.1, b64Encode platform keyPair.publicKeyXy.2⟩⟩ := by
  have fields : keyPair.ownMethod.fields ["id", "publicKeyJwk"] = some ⟨true, _⟩ :=
    Value.fields_object (by simp)
  have jwk : Value.readOptional Jwk.fromValue keyPair.publicKeyJwk = some (some _) :=
    congrArg (Option.map some) keyPair.fromValue_publicKeyJwk
  simp [VerificationMethod.fromValue, fields, Fields.required, Fields.optional, Fields.get,
    List.lookup_cons, jwk]

theorem fromValue_didDocument (keyPair : DcpKeyPair platform)
    (services : List (String × String)) :
    DidDocument.fromValue (keyPair.didDocument services) =
      some (keyPair.publishedDocument services) := by
  have fields : (keyPair.didDocument services).fields ["verificationMethod", "service"] =
      some ⟨true, _⟩ := Value.fields_object (by simp)
  have read := Value.readArray_of DidService.fromValue
    (fun service => advertised (service.type, service.serviceEndpoint))
    (keyPair.publishedDocument services).service fun _ _ => fromValue_advertised _
  have listed : (keyPair.publishedDocument services).service.map
      (fun service => advertised (service.type, service.serviceEndpoint)) =
        services.map advertised := by
    simp [publishedDocument, Function.comp_def]
  rw [listed] at read
  have methods : Value.readArray VerificationMethod.fromValue (.array [keyPair.ownMethod]) =
      some (keyPair.publishedDocument services).verificationMethod := by
    simp [Value.readArray, keyPair.fromValue_ownMethod, publishedDocument]
  simp [DidDocument.fromValue, fields, Fields.defaulted, Fields.get, List.lookup_cons, methods,
    read]

theorem plainWithin_didDocument (keyPair : DcpKeyPair platform)
    (services : List (String × String)) : (keyPair.didDocument services).PlainWithin 127 := by
  have listed : ∀ item ∈ services.map advertised, item.PlainWithin 125 := by
    intro item membership
    obtain ⟨service, _, rfl⟩ := List.mem_map.mp membership
    simp [advertised]
  simpa [didDocument, ownMethod, publicKeyJwk] using listed

theorem findVerifyingKey_published (keyPair : DcpKeyPair platform)
    (services : List (String × String)) (kid : String)
    (key : platform.es256.VerifyingKey) :
    findVerifyingKey platform (keyPair.publishedDocument services) kid = .ok key ↔
      kid = keyPair.ownKeyId ∧ key = keyPair.verifyingKey := by
  have widths := platform.es256.coordinates_length keyPair.verifyingKey
  have point := platform.es256.fromCoordinates_coordinates keyPair.verifyingKey
  by_cases named : keyPair.ownKeyId = kid
  · have found : findVerifyingKey platform (keyPair.publishedDocument services) kid =
        .ok keyPair.verifyingKey := by
      simp only [findVerifyingKey, publishedDocument, named, List.find?_cons, decide_true, okOr,
        ok_bind, jwkToVerifyingKey, b64Decode_b64Encode, keyPair.matching]
      rw [← verifyingKey, ensure, if_pos widths, point]
      rfl
    rw [found]
    constructor
    · intro same
      exact ⟨named.symm, (Except.ok.inj same).symm⟩
    · rintro ⟨_, rfl⟩
      rfl
  · constructor
    · intro found
      simp [findVerifyingKey, publishedDocument, named, bind_eq_ok] at found
    · rintro ⟨rfl, _⟩
      exact absurd rfl named

def signed (keyPair : DcpKeyPair platform) (payload : Value) : DecodedJws :=
  ⟨signingInputOf platform payload keyPair.ownKeyId, jwsHeader keyPair.ownKeyId, payload⟩

theorem signedUnder_own (keyPair : DcpKeyPair platform)
    (services : List (String × String)) {payload : Value} (plain : payload.PlainWithin 127) :
    SignedUnder platform (keyPair.publishedDocument services) (keyPair.sign payload)
      (keyPair.signed payload) where
  decoded_eq := decodeJwsUnverified_signJws platform plain keyPair.signingKey keyPair.ownKeyId
  verified := ⟨keyPair.ownKeyId, keyPair.verifyingKey, rfl,
    (keyPair.findVerifyingKey_published services _ _).mpr ⟨rfl, rfl⟩,
    verifyJwsSignature_signJws platform payload keyPair.signingKey keyPair.ownKeyId⟩

theorem issued_own (keyPair : DcpKeyPair platform) {services : List (String × String)}
    {http : Http} {insecureHttp : Bool} {payload : Value} (plain : payload.PlainWithin 127)
    (iss : (payload.get "iss").bind Value.asStr = some keyPair.ownDid)
    (resolved : resolveDid platform http keyPair.ownDid insecureHttp =
      .ok (keyPair.publishedDocument services)) :
    Issued platform http insecureHttp (keyPair.sign payload)
      ⟨keyPair.signed payload, keyPair.ownDid, keyPair.publishedDocument services⟩ where
  iss := iss
  resolved := resolved
  signed := keyPair.signedUnder_own services plain

/-- Whatever document a reader finds, it reads the payload that was signed. -/
theorem read_of_signed (keyPair : DcpKeyPair platform) {payload : Value}
    (plain : payload.PlainWithin 127) {http : Http} {insecureHttp : Bool} {issued : IssuedToken}
    (read : Issued platform http insecureHttp (keyPair.sign payload) issued) :
    issued.decoded = keyPair.signed payload := by
  have minted := decodeJwsUnverified_signJws platform plain keyPair.signingKey keyPair.ownKeyId
  exact Except.ok.inj (read.signed.decoded_eq.symm.trans minted)

end DcpKeyPair

structure PresentationResponseMessage where
  presentation : List String
  deriving DecidableEq

structure HolderIdentity (platform : Platform) where
  keyPair : DcpKeyPair platform
  ownDidHost : String
  derived : keyPair.ownDid = "did:web:" ++ replace ":" "%3A" ownDidHost ++ ":dsp:holder"
  insecureHttp : Bool
  credentialJws : String
  requiredScope : String

namespace HolderIdentity

variable {platform : Platform}

def new (ownDidHost : String) (insecureHttp : Bool) (credentialJws requiredScope : String)
    (random : platform.es256.SigningKey) : HolderIdentity platform where
  keyPair := .generate ("did:web:" ++ replace ":" "%3A" ownDidHost ++ ":dsp:holder") random
  ownDidHost := ownDidHost
  derived := rfl
  insecureHttp := insecureHttp
  credentialJws := credentialJws
  requiredScope := requiredScope

def ownDid (holder : HolderIdentity platform) : String := holder.keyPair.ownDid

def ownDidDocument (holder : HolderIdentity platform) : Value :=
  let scheme := if holder.insecureHttp then "http" else "https"
  let endpoint := scheme ++ "://" ++ holder.ownDidHost ++ "/dsp/holder"
  holder.keyPair.didDocument [("CredentialService", endpoint)]

/-- The claims of T2, the presentation-access token. -/
def accessTokenPayload (holder : HolderIdentity platform) (now : Seconds) (jti : String) : Value :=
  .object [
    ("aud", .string holder.ownDid),
    ("exp", .number (.posInt (now + 300))),
    ("iat", .number (.posInt now)),
    ("iss", .string holder.ownDid),
    ("jti", .string jti),
    ("nbf", .number (.posInt now)),
    ("sub", .string holder.ownDid)]

theorem plainWithin_accessTokenPayload (holder : HolderIdentity platform) (now : Seconds)
    (jti : String) : (holder.accessTokenPayload now jti).PlainWithin 127 := by
  simp [accessTokenPayload]

def accessToken (holder : HolderIdentity platform) (now : Seconds) (jti : String) : String :=
  holder.keyPair.sign (holder.accessTokenPayload now jti)

/-- The claims of T1. -/
def t1Payload (holder : HolderIdentity platform) (targetProviderDid accessToken : String)
    (now : Seconds) (jti : String) : Value :=
  .object [
    ("aud", .string targetProviderDid),
    ("exp", .number (.posInt (now + 300))),
    ("iat", .number (.posInt now)),
    ("iss", .string holder.ownDid),
    ("jti", .string jti),
    ("nbf", .number (.posInt now)),
    ("sub", .string holder.ownDid),
    ("token", .string accessToken)]

theorem plainWithin_t1Payload (holder : HolderIdentity platform)
    (targetProviderDid accessToken : String) (now : Seconds) (jti : String) :
    (holder.t1Payload targetProviderDid accessToken now jti).PlainWithin 127 := by
  simp [t1Payload]

/-- `now` is the clock, the two `jti` are the uuids drawn for T2 and for T1. -/
def mintSelfIssuedToken (holder : HolderIdentity platform) (targetProviderDid : String)
    (now : Seconds) (accessJti jti : String) : String :=
  let accessToken := holder.accessToken now accessJti
  holder.keyPair.sign (holder.t1Payload targetProviderDid accessToken now jti)

/-- The claims of the presentation. -/
def vpPayload (holder : HolderIdentity platform) (now : Seconds) (jti : String) : Value :=
  .object [
    ("exp", .number (.posInt (now + 300))),
    ("iat", .number (.posInt now)),
    ("iss", .string holder.ownDid),
    ("jti", .string jti),
    ("sub", .string holder.ownDid),
    ("vp", .object [
      ("@context", .array [.string presentationContext]),
      ("type", .array [.string "VerifiablePresentation"]),
      ("verifiableCredential", .array [.string holder.credentialJws])])]

theorem plainWithin_vpPayload (holder : HolderIdentity platform) (now : Seconds)
    (jti : String) : (holder.vpPayload now jti).PlainWithin 127 := by
  simp [vpPayload]

/-- `checkedAt` and `now` are the two clock readings, `jti` the uuid drawn. -/
def answerPresentationQuery (holder : HolderIdentity platform) (incomingBearerToken : String)
    (http : Http) (checkedAt now : Seconds) (jti : String) :
    Except String PresentationResponseMessage := do
  let _ ← authenticate platform http holder.insecureHttp "this holder's" holder.ownDid
    incomingBearerToken checkedAt
  return ⟨[holder.keyPair.sign (holder.vpPayload now jti)]⟩

end HolderIdentity

end FederatedCatalog.Dcp
