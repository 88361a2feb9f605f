import FederatedCatalog.Dcp.Holder
import Mathlib.Data.Finset.Basic
import Mathlib.Data.Finset.Dedup

/-!
# Verifying a caller

`verify_dcp_bearer_token`: authenticate T1, query the holder's Presentation API
with T3, verify the presentation that comes back, and collect what its
credentials grant.
-/

namespace FederatedCatalog.Dcp

open Foundation Json

def presentationQueryContext : String := "https://w3id.org/dspace-dcp/v1.0/dcp.jsonld"

def expectedCredentialType : String := "FederatedCatalogAccessCredential"

structure DcpConfig (platform : Platform) where
  keyPair : DcpKeyPair platform
  insecureHttp : Bool
  requiredScope : String

namespace DcpConfig

variable {platform : Platform}

def generate (ownDid : String) (insecureHttp : Bool) (requiredScope : String)
    (random : platform.es256.SigningKey) : DcpConfig platform where
  keyPair := .generate ownDid random
  insecureHttp := insecureHttp
  requiredScope := requiredScope

def ownDid (config : DcpConfig platform) : String := config.keyPair.ownDid

def ownDidDocument (config : DcpConfig platform) : Value := config.keyPair.didDocument []

end DcpConfig

structure VerifiedCaller where
  holderDid : String
  catalogAccess : Finset String
  deriving DecidableEq

def PresentationResponseMessage.toValue (message : PresentationResponseMessage) : Value :=
  .object [("presentation", .array (message.presentation.map Value.string))]

def PresentationResponseMessage.fromValue (value : Value) : Option PresentationResponseMessage := do
  let fields ← value.fields ["presentation"]
  let presentation ← fields.required "presentation" (Value.readArray Value.asStr)
  return { presentation }

@[simp]
theorem PresentationResponseMessage.fromValue_toValue (message : PresentationResponseMessage) :
    fromValue message.toValue = some message := by
  have read : Value.readArray Value.asStr (.array (message.presentation.map Value.string)) =
      some message.presentation :=
    Value.readArray_of Value.asStr Value.string message.presentation fun _ _ => rfl
  simp [fromValue, toValue, Value.fields, Fields.required, Fields.get, read]

theorem PresentationResponseMessage.plainWithin_toValue (message : PresentationResponseMessage) :
    message.toValue.PlainWithin 127 := by
  simp [toValue]

variable {platform : Platform} (config : DcpConfig platform)

/-- The claims of T3. -/
def repackagedPayload (holderDid nestedToken : String) (now : Seconds) (jti : String) : Value :=
  .object [
    ("aud", .string holderDid),
    ("exp", .number (.posInt (now + 300))),
    ("iat", .number (.posInt now)),
    ("iss", .string config.ownDid),
    ("jti", .string jti),
    ("nbf", .number (.posInt now)),
    ("sub", .string config.ownDid),
    ("token", .string nestedToken)]

theorem plainWithin_repackagedPayload (holderDid nestedToken : String) (now : Seconds)
    (jti : String) : (repackagedPayload config holderDid nestedToken now jti).PlainWithin 127 := by
  simp [repackagedPayload]

def repackagedToken (holderDid nestedToken : String) (now : Seconds) (jti : String) : String :=
  config.keyPair.sign (repackagedPayload config holderDid nestedToken now jti)

def queryBody : Value :=
  .object [
    ("@context", .string presentationQueryContext),
    ("@type", .string "PresentationQueryMessage"),
    ("scope", .array [.string config.requiredScope])]

/-- Step 4: ask the holder's Presentation API for its first presentation. -/
def queryPresentation (holder : IssuedToken) (http : Http) (now : Seconds) (jti : String) :
    Except String String := do
  let nestedToken ← okOr ((holder.decoded.payload.get "token").bind Value.asStr)
    "token has no nested presentation-access-token claim"
  let credentialService ← serviceEndpointUrl holder.document "CredentialService"
  let queryUrl := credentialService ++ "/presentations/query"
  let response ← mapErr (fun error => "presentation query to " ++ queryUrl ++ " failed: " ++ error)
    (http.post queryUrl ("Bearer " ++ repackagedToken config holder.issuer nestedToken now jti)
      (queryBody config))
  ensure (response.isSuccess = true) ("presentation query returned HTTP " ++
    platform.statusText response.status ++ ": " ++ platform.bodyText response.body)
  let presentationResponse ← mapErr ("malformed presentation response: " ++ ·)
    (response.json platform PresentationResponseMessage.fromValue)
  okOr presentationResponse.presentation.head? "presentation response had no presentation"

def embeddedCredentials (vpPayload : Value) : List Value :=
  (((vpPayload.get "vp").bind (·.get "verifiableCredential")).bind Value.asArray).getD []

/-- Step 5, first half: verify the presentation itself. -/
def verifyPresentation (platform : Platform) (holder : IssuedToken) (vpJws : String) :
    Except String (List Value) := do
  let vp ← decodeJwsUnverified platform vpJws
  let vpKid ← okOr ((vp.header.get "kid").bind Value.asStr) "VP has no kid"
  let vpKey ← findVerifyingKey platform holder.document vpKid
  verifyJwsSignature platform vpJws vpKey
  let credentials := embeddedCredentials vp.payload
  ensure (credentials ≠ []) "VerifiablePresentation contained no credentials"
  return credentials

structure Granted where
  catalogAccess : Finset String
  hadExpiredCredential : Bool

def hasExpectedType (vcPayload : Value) : Bool :=
  let vcBody := (vcPayload.get "vc").getD .null
  (((vcBody.get "type").bind Value.asArray).getD []).any fun type =>
    type.asStr = some expectedCredentialType

def catalogAccessEntries (vcPayload : Value) : List String :=
  let vcBody := (vcPayload.get "vc").getD .null
  ((((vcBody.get "credentialSubject").bind (·.get "catalogAccess")).bind
    Value.asArray).getD []).filterMap Value.asStr

def Granted.note (now : Seconds) (granted : Granted) (vc : IssuedToken) : Granted :=
  if expiry vc.decoded.payload ≤ now then { granted with hadExpiredCredential := true }
  else if hasExpectedType vc.decoded.payload then { granted with
    catalogAccess := granted.catalogAccess ∪ (catalogAccessEntries vc.decoded.payload).toFinset }
  else granted

/-- Step 5, second half: one round of the loop. -/
def collectCredential (http : Http) (now : Seconds) (granted : Granted) (vcValue : Value) :
    Except String Granted := do
  let vcJws ← okOr vcValue.asStr "verifiableCredential entry was not a string"
  let vc ← readIssued platform http config.insecureHttp "VC" vcJws
  return granted.note now vc

/-- `now` is what the clock shows during the call, `jti` the uuid drawn for T3. -/
def verifyDcpBearerToken (token : String) (http : Http) (now : Seconds) (jti : String) :
    Except String VerifiedCaller := do
  let holder ← authenticate platform http config.insecureHttp "this connector's" config.ownDid
    token now
  let vpJws ← queryPresentation config holder http now jti
  let credentials ← verifyPresentation platform holder vpJws
  let granted ← credentials.foldlM (collectCredential config http now) ⟨∅, false⟩
  ensure (¬(granted.catalogAccess = ∅ ∧ granted.hadExpiredCredential = true))
    "all presented credentials are expired"
  return ⟨holder.issuer, granted.catalogAccess⟩

/-- The clock's readings during one call: at the check of T1, at the minting of T3, and at
the check of each credential. -/
structure VerifierClock where
  t1 : Seconds
  t3 : Seconds
  credential : Nat → Seconds

def VerifierClock.still (now : Seconds) : VerifierClock := ⟨now, now, fun _ => now⟩

/-- `verify_dcp_bearer_token` with every reading of the clock on its own. -/
def verifyDcpBearerTokenAt (clock : VerifierClock) (token : String) (http : Http) (jti : String) :
    Except String VerifiedCaller := do
  let holder ← authenticate platform http config.insecureHttp "this connector's" config.ownDid
    token clock.t1
  let vpJws ← queryPresentation config holder http clock.t3 jti
  let credentials ← verifyPresentation platform holder vpJws
  let granted ← credentials.zipIdx.foldlM (fun granted entry =>
    collectCredential config http (clock.credential entry.2) granted entry.1) ⟨∅, false⟩
  ensure (¬(granted.catalogAccess = ∅ ∧ granted.hadExpiredCredential = true))
    "all presented credentials are expired"
  return ⟨holder.issuer, granted.catalogAccess⟩

theorem verifyDcpBearerTokenAt_still (token : String) (http : Http) (now : Seconds) (jti : String) :
    verifyDcpBearerTokenAt config (.still now) token http jti =
      verifyDcpBearerToken config token http now jti := by
  have loop : ∀ credentials : List Value,
      credentials.zipIdx.foldlM (fun granted entry =>
        collectCredential config http now granted entry.1) ⟨∅, false⟩ =
      credentials.foldlM (collectCredential config http now) ⟨∅, false⟩ := by
    intro credentials
    conv_rhs => rw [← List.zipIdx_map_fst 0 credentials, List.foldlM_map]
  simp only [verifyDcpBearerTokenAt, verifyDcpBearerToken, VerifierClock.still, loop]

end FederatedCatalog.Dcp
