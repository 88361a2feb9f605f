import FederatedCatalog.Dcp.Jws

/-!
# Resolving `did:web`

From a DID to the URL of its document, from the document to a verifying key or
a service endpoint.
-/

namespace FederatedCatalog.Dcp

open Foundation Json

def urlencodingDecode (segment : String) : String :=
  replace "%3a" ":" (replace "%3A" ":" segment)

def joinWith (separator : String) : List String → String
  | [] => ""
  | [last] => last
  | first :: rest => first ++ separator ++ joinWith separator rest

def didWebToUrl (did : String) (insecureHttp : Bool) : Except String String := do
  let rest ← okOr (stripPrefix "did:web:" did) "not a did:web DID"
  match split ':' rest with
  | [] => throw "did:web has no host segment"
  | host :: segments =>
      let host := urlencodingDecode host
      let pathSegments := segments.map urlencodingDecode
      let scheme := if insecureHttp then "http" else "https"
      if pathSegments = [] then
        return scheme ++ "://" ++ host ++ "/.well-known/did.json"
      else
        return scheme ++ "://" ++ host ++ "/" ++ joinWith "/" pathSegments ++ "/did.json"

/-- The host contains no escaped colon. -/
structure Unescaped (host : String) : Prop where
  noUpper : ¬"%3A".toList <:+: host.toList
  noLower : ¬"%3a".toList <:+: host.toList

/-- A host without an escape of its own survives the escaping of its colons. -/
theorem urlencodingDecode_escaped {host : String} (unescaped : Unescaped host) :
    urlencodingDecode (replace ":" "%3A" host) = host := by
  have begins : "%3A".toList = ['%', '3', 'A'] := rfl
  have restored : replace "%3A" ":" (replace ":" "%3A" host) = host :=
    replace_replace rfl begins (by decide) unescaped.noUpper
  rw [urlencodingDecode, restored, replace_of_not_infix ":" unescaped.noLower]

theorem didWebToUrl_escaped {host path : String} {segments : List String}
    (unescaped : Unescaped host) (cut : (split ':' path).map urlencodingDecode = segments)
    (below : segments ≠ []) (insecureHttp : Bool) :
    didWebToUrl ("did:web:" ++ (replace ":" "%3A" host ++ (":" ++ path))) insecureHttp =
      .ok ((if insecureHttp then "http" else "https") ++ "://" ++ host ++ "/" ++
        joinWith "/" segments ++ "/did.json") := by
  have free : ':' ∉ (replace ":" "%3A" host).toList :=
    mark_not_mem_replace rfl (by decide) host
  have decoded := urlencodingDecode_escaped unescaped
  generalize replace ":" "%3A" host = escaped at free decoded
  have joined : escaped ++ (":" ++ path) = String.ofList (escaped.toList ++ ':' :: path.toList) := by
    apply String.toList_inj.mp
    simp [String.toList_append]
  have pieces : split ':' (escaped ++ (":" ++ path)) = escaped :: split ':' path := by
    rw [joined, split_append path free]
  unfold didWebToUrl
  simp only [stripPrefix_append, okOr, ok_bind, pieces, decoded, cut, if_neg below]
  rfl

structure Jwk where
  x : String
  y : String
  deriving DecidableEq

structure VerificationMethod where
  id : String
  publicKeyJwk : Option Jwk
  deriving DecidableEq

structure DidService where
  type : String
  serviceEndpoint : String
  deriving DecidableEq

structure DidDocument where
  verificationMethod : List VerificationMethod
  service : List DidService
  deriving DecidableEq

def Jwk.fromValue (value : Value) : Option Jwk := do
  let fields ← value.fields ["x", "y"]
  let x ← fields.required "x" Value.asStr
  let y ← fields.required "y" Value.asStr
  return { x, y }

def VerificationMethod.fromValue (value : Value) : Option VerificationMethod := do
  let fields ← value.fields ["id", "publicKeyJwk"]
  let id ← fields.required "id" Value.asStr
  let publicKeyJwk ← fields.optional "publicKeyJwk" Jwk.fromValue
  return { id, publicKeyJwk }

def DidService.fromValue (value : Value) : Option DidService := do
  let fields ← value.fields ["type", "serviceEndpoint"]
  let type ← fields.required "type" Value.asStr
  let serviceEndpoint ← fields.required "serviceEndpoint" Value.asStr
  return { type, serviceEndpoint }

def DidDocument.fromValue (value : Value) : Option DidDocument := do
  let fields ← value.fields ["verificationMethod", "service"]
  let verificationMethod ←
    fields.defaulted "verificationMethod" [] (Value.readArray VerificationMethod.fromValue)
  let service ← fields.defaulted "service" [] (Value.readArray DidService.fromValue)
  return { verificationMethod, service }

variable (platform : Platform)

def resolveDid (http : Http) (did : String) (insecureHttp : Bool) : Except String DidDocument := do
  let url ← didWebToUrl did insecureHttp
  let response ← mapErr (fun error => "failed to resolve DID " ++ did ++ " at " ++ url ++ ": " ++ error)
    (http.get url)
  ensure (response.isSuccess = true)
    ("DID resolution for " ++ did ++ " returned HTTP " ++ platform.statusText response.status)
  mapErr (fun error => "DID document for " ++ did ++ " was not valid: " ++ error)
    (response.json platform DidDocument.fromValue)

def jwkToVerifyingKey (jwk : Jwk) : Except String platform.es256.VerifyingKey := do
  let x ← b64Decode platform jwk.x
  let y ← b64Decode platform jwk.y
  ensure (x.length = 32 ∧ y.length = 32) "EC JWK x/y must be 32 bytes for P-256"
  okOr (platform.es256.fromCoordinates x y) "invalid EC point in JWK"

def findVerifyingKey (doc : DidDocument) (kid : String) :
    Except String platform.es256.VerifyingKey := do
  let method ← okOr (doc.verificationMethod.find? fun method => method.id = kid)
    ("no verification method '" ++ kid ++ "' in DID document")
  let jwk ← okOr method.publicKeyJwk ("verification method '" ++ kid ++ "' has no publicKeyJwk")
  jwkToVerifyingKey platform jwk

def serviceEndpointUrl (doc : DidDocument) (serviceType : String) : Except String String :=
  okOr ((doc.service.find? fun service => service.type = serviceType).map
    DidService.serviceEndpoint) ("DID document has no " ++ serviceType ++ " entry")

theorem resolveDid_answering (http : Http)
    (post : String → String → Value → Except String HttpResponse) (did : String)
    (insecureHttp : Bool) :
    resolveDid platform (http.answering post) did insecureHttp =
      resolveDid platform http did insecureHttp := rfl

def ServesDocument (http : Http) (did : String) (insecureHttp : Bool) (document : Value) : Prop :=
  ∃ url, didWebToUrl did insecureHttp = .ok url ∧
    http.get url = .ok ⟨200, utf8 (platform.json.print document)⟩

variable {platform} in
theorem ServesDocument.resolved {http : Http} {did : String} {insecureHttp : Bool} {page : Value}
    {document : DidDocument} (serves : ServesDocument platform http did insecureHttp page)
    (plain : page.PlainWithin 127) (read : DidDocument.fromValue page = some document) :
    resolveDid platform http did insecureHttp = .ok document := by
  obtain ⟨url, location, answered⟩ := serves
  unfold resolveDid
  simp only [location, ok_bind, answered, mapErr, HttpResponse.isSuccess, HttpResponse.json,
    TextFormat.readSlice_print platform.json DidDocument.fromValue plain read]
  rfl

variable {platform} in
theorem ServesDocument.answering {http : Http} {did : String} {insecureHttp : Bool} {page : Value}
    (serves : ServesDocument platform http did insecureHttp page)
    (post : String → String → Value → Except String HttpResponse) :
    ServesDocument platform (http.answering post) did insecureHttp page := serves

theorem servesDocument_serving {pages : List (String × Value)}
    {post : String → String → Value → Except String HttpResponse} {did url : String}
    {insecureHttp : Bool} {page : Value} (location : didWebToUrl did insecureHttp = .ok url)
    (served : pages.lookup url = some page) :
    ServesDocument platform (Http.serving platform pages post) did insecureHttp page :=
  ⟨url, location, by simp [Http.serving, served, okOr, Except.map]⟩

end FederatedCatalog.Dcp
