import FederatedCatalog.Dcp.HonestRun
import FederatedCatalog.Http.Authorize

/-!
# Where a server's identities are found

A server derives two `did:web` identities from its host, one of a verifier and
one of a holder, and serves their documents.  The DIDs lead back to the routes.
-/

namespace FederatedCatalog.Http

open Foundation Json Dcp

variable {platform : Platform}

/-- The process environment; `debug` is the `Debug` form of a text. -/
structure Environment where
  var : String → Option String
  debug : String → String

def defaultDcpScope : String :=
  "org.eclipse.dspace.dcp.vc.type:FederatedCatalogAccessCredential:read"

/-- `str::eq_ignore_ascii_case`. -/
def eqIgnoreAsciiCase (first second : String) : Bool :=
  first.toList.map Char.toLower = second.toList.map Char.toLower

def loadMode (env : Environment) : Except String DspAuthMode :=
  match env.var "DSP_AUTH_MODE" with
  | none => .ok .disabled
  | some value =>
      if eqIgnoreAsciiCase value "bearer" then .ok .bearer
      else if eqIgnoreAsciiCase value "dcp" then .ok .dcp
      else if eqIgnoreAsciiCase value "none" || value = "" then .ok .disabled
      else .error ("DSP_AUTH_MODE=" ++ env.debug value ++
        " is not recognized - expected \"none\", \"bearer\", or \"dcp\"")

/-- A `HashMap` of `HashSet`s: the last of the members of one name counts. -/
def catalogAccessFromValue : Value → Option (String → Option (Finset String))
  | .object members => do
      let entries ← members.mapM fun member => do
        let ids ← Value.readArray Value.asStr member.2
        return (member.1, ids.toFinset)
      return fun token => entries.reverse.lookup token
  | _ => none

def loadCatalogAccess (platform : Platform) (env : Environment) :
    Except String (String → Option (Finset String)) :=
  match env.var "DSP_CATALOG_ACCESS" with
  | none => .ok fun _ => none
  | some raw => mapErr ("DSP_CATALOG_ACCESS is not valid JSON: " ++ ·)
      (platform.json.readSlice catalogAccessFromValue (utf8 raw))

/-- `random` is the freshly drawn key; an error is the message of a panic. -/
def loadDspAuth (platform : Platform) (env : Environment) (random : platform.es256.SigningKey) :
    Except String (DspAuthConfig platform) := do
  let mode ← loadMode env
  let catalogAccess ← loadCatalogAccess platform env
  if dcpMode : mode = .dcp then
    let ownDidHost ← okOr (env.var "DSP_DCP_OWN_DID_HOST")
      "DSP_AUTH_MODE=dcp requires DSP_DCP_OWN_DID_HOST (e.g. localhost:18080)"
    let ownDid := "did:web:" ++ replace ":" "%3A" ownDidHost ++ ":dsp"
    let insecureHttp := ((env.var "DSP_DCP_INSECURE_HTTP").map
      fun value => eqIgnoreAsciiCase value "true").getD false
    let requiredScope := (env.var "DSP_DCP_REQUIRED_SCOPE").getD defaultDcpScope
    return {
      mode
      catalogAccess
      dcp := some (.generate ownDid insecureHttp requiredScope random)
      consistent := fun _ => rfl }
  else
    return { mode, catalogAccess, dcp := none, consistent := fun same => absurd same dcpMode }

theorem loadDspAuth_dcp {env : Environment} (random : platform.es256.SigningKey)
    {catalogAccess : String → Option (Finset String)} {ownDidHost : String}
    (mode : loadMode env = .ok .dcp) (access : loadCatalogAccess platform env = .ok catalogAccess)
    (given : env.var "DSP_DCP_OWN_DID_HOST" = some ownDidHost) :
    ∃ auth config, loadDspAuth platform env random = .ok auth ∧ auth.dcp = some config ∧
      config.ownDid = "did:web:" ++ replace ":" "%3A" ownDidHost ++ ":dsp" := by
  let config : DcpConfig platform := .generate ("did:web:" ++ replace ":" "%3A" ownDidHost ++ ":dsp")
    (((env.var "DSP_DCP_INSECURE_HTTP").map fun value => eqIgnoreAsciiCase value "true").getD false)
    ((env.var "DSP_DCP_REQUIRED_SCOPE").getD defaultDcpScope) random
  have loaded : loadDspAuth platform env random =
      .ok ⟨.dcp, catalogAccess, some config, fun _ => rfl⟩ := by
    simp only [loadDspAuth, mode, access, given, ok_bind, okOr]
    rfl
  exact ⟨_, config, loaded, rfl, rfl⟩

inductive Method where
  | get
  | post
  deriving DecidableEq

inductive Handler where
  | health
  | getCatalog
  | dspaceVersion
  | catalogRequest
  | getDspDataset
  | ownDidDocumentRoute
  | holderDidDocumentRoute
  | holderPresentationQueryRoute
  deriving DecidableEq

structure Route where
  path : String
  method : Method
  handler : Handler
  deriving DecidableEq

def buildRouter : List Route := [
  ⟨"/health", .get, .health⟩,
  ⟨"/catalog", .get, .getCatalog⟩,
  ⟨"/.well-known/dspace-version", .get, .dspaceVersion⟩,
  ⟨"/dsp/catalog/request", .post, .catalogRequest⟩,
  ⟨"/dsp/catalog/datasets/{id}", .get, .getDspDataset⟩,
  ⟨"/dsp/did.json", .get, .ownDidDocumentRoute⟩,
  ⟨"/dsp/holder/did.json", .get, .holderDidDocumentRoute⟩,
  ⟨"/dsp/holder/presentations/query", .post, .holderPresentationQueryRoute⟩]

def routesAt (path : String) : List Route := buildRouter.filter fun route => route.path = path

def ownDidDocumentRoute (auth : DspAuthConfig platform) : HttpResponse :=
  match auth.dcp with
  | some config => ⟨200, utf8 (platform.json.print config.ownDidDocument)⟩
  | none => ⟨404, []⟩

def holderDidDocumentRoute (holder : Option (HolderIdentity platform)) : HttpResponse :=
  match holder with
  | some holder => ⟨200, utf8 (platform.json.print holder.ownDidDocument)⟩
  | none => ⟨404, []⟩

def baseUrl (insecureHttp : Bool) (host : String) : String :=
  (if insecureHttp then "http" else "https") ++ "://" ++ host

variable {host : String}

theorem didWebToUrl_holder (unescaped : Unescaped host) (insecureHttp : Bool) :
    didWebToUrl ("did:web:" ++ replace ":" "%3A" host ++ ":dsp:holder") insecureHttp =
      .ok (baseUrl insecureHttp host ++ "/dsp/holder/did.json") := by
  have cut : (split ':' "dsp:holder").map urlencodingDecode = ["dsp", "holder"] := by
    decide +kernel
  have path : ":dsp:holder" = ":" ++ "dsp:holder" := rfl
  have found := didWebToUrl_escaped unescaped cut (by simp) insecureHttp
  rw [path, String.append_assoc, found]
  simp [baseUrl, joinWith, String.append_assoc]

theorem didWebToUrl_verifier (unescaped : Unescaped host) (insecureHttp : Bool) :
    didWebToUrl ("did:web:" ++ replace ":" "%3A" host ++ ":dsp") insecureHttp =
      .ok (baseUrl insecureHttp host ++ "/dsp/did.json") := by
  have cut : (split ':' "dsp").map urlencodingDecode = ["dsp"] := by
    decide +kernel
  have path : ":dsp" = ":" ++ "dsp" := rfl
  have found := didWebToUrl_escaped unescaped cut (by simp) insecureHttp
  rw [path, String.append_assoc, found]
  simp [baseUrl, joinWith, String.append_assoc]

/-- What a server derives from its host leads to the routes that it registers. -/
structure IdentitiesRouted (platform : Platform) (host : String) (insecureHttp : Bool) :
    Prop where
  holder : ∀ credentialJws requiredScope (random : platform.es256.SigningKey),
    let holder := HolderIdentity.new host insecureHttp credentialJws requiredScope random
    didWebToUrl holder.ownDid insecureHttp =
      .ok (baseUrl insecureHttp host ++ "/dsp/holder/did.json")
  verifier : ∀ (env : Environment) (random : platform.es256.SigningKey) catalogAccess,
    env.var "DSP_DCP_OWN_DID_HOST" = some host → loadMode env = .ok .dcp →
    loadCatalogAccess platform env = .ok catalogAccess →
    ∃ auth config, loadDspAuth platform env random = .ok auth ∧ auth.dcp = some config ∧
      didWebToUrl config.ownDid insecureHttp = .ok (baseUrl insecureHttp host ++ "/dsp/did.json")
  credentialService : ∀ credentialJws requiredScope (random : platform.es256.SigningKey),
    let holder := HolderIdentity.new host insecureHttp credentialJws requiredScope random
    ∃ document endpoint, DidDocument.fromValue holder.ownDidDocument = some document ∧
      serviceEndpointUrl document "CredentialService" = .ok endpoint ∧
      endpoint ++ "/presentations/query" =
        baseUrl insecureHttp host ++ "/dsp/holder/presentations/query"
  holderRoute : routesAt "/dsp/holder/did.json" =
    [⟨"/dsp/holder/did.json", .get, .holderDidDocumentRoute⟩]
  verifierRoute : routesAt "/dsp/did.json" = [⟨"/dsp/did.json", .get, .ownDidDocumentRoute⟩]
  queryRoute : routesAt "/dsp/holder/presentations/query" =
    [⟨"/dsp/holder/presentations/query", .post, .holderPresentationQueryRoute⟩]

theorem minted_dids_are_routed (platform : Platform) {host : String} (unescaped : Unescaped host)
    (insecureHttp : Bool) : IdentitiesRouted platform host insecureHttp where
  holder _ _ _ := didWebToUrl_holder unescaped insecureHttp
  verifier := by
    intro env random catalogAccess given mode access
    obtain ⟨auth, config, loaded, configured, did⟩ := loadDspAuth_dcp random mode access given
    refine ⟨auth, config, loaded, configured, ?_⟩
    rw [did]
    exact didWebToUrl_verifier unescaped insecureHttp
  credentialService := by
    intro credentialJws requiredScope random
    refine ⟨_, _, DcpKeyPair.fromValue_didDocument _ _, rfl, ?_⟩
    simp [HolderIdentity.new, baseUrl, String.append_assoc]
  holderRoute := by decide
  verifierRoute := by decide
  queryRoute := by decide

theorem localhost_is_routed : IdentitiesRouted .reference "[::1]:18080" true :=
  minted_dids_are_routed .reference ⟨by decide, by decide⟩ true

structure Reaches (http : Dcp.Http) (insecureHttp : Bool) (host : String)
    (auth : DspAuthConfig platform) (holder : Option (HolderIdentity platform)) : Prop where
  verifierDocument : ∀ route ∈ buildRouter, route.handler = .ownDidDocumentRoute →
    http.get (baseUrl insecureHttp host ++ route.path) = .ok (ownDidDocumentRoute auth)
  holderDocument : ∀ route ∈ buildRouter, route.handler = .holderDidDocumentRoute →
    http.get (baseUrl insecureHttp host ++ route.path) = .ok (holderDidDocumentRoute holder)

theorem Reaches.servesHolder {http : Dcp.Http} {auth : DspAuthConfig platform}
    {holder : HolderIdentity platform}
    (reaches : Reaches http holder.insecureHttp holder.ownDidHost auth (some holder))
    (unescaped : Unescaped holder.ownDidHost) :
    ServesDocument platform http holder.ownDid holder.insecureHttp holder.ownDidDocument := by
  refine ⟨_, ?_, reaches.holderDocument ⟨"/dsp/holder/did.json", .get, .holderDidDocumentRoute⟩
    (by decide) rfl⟩
  rw [HolderIdentity.ownDid, holder.derived]
  exact didWebToUrl_holder unescaped holder.insecureHttp

theorem Reaches.servesVerifier {http : Dcp.Http} {insecureHttp : Bool} {host : String}
    {auth : DspAuthConfig platform} {holder : Option (HolderIdentity platform)}
    {config : DcpConfig platform} (reaches : Reaches http insecureHttp host auth holder)
    (unescaped : Unescaped host) (configured : auth.dcp = some config)
    (derived : config.ownDid = "did:web:" ++ replace ":" "%3A" host ++ ":dsp") :
    ServesDocument platform http config.ownDid insecureHttp config.ownDidDocument := by
  have answered := reaches.verifierDocument ⟨"/dsp/did.json", .get, .ownDidDocumentRoute⟩
    (by decide) rfl
  rw [ownDidDocumentRoute, configured] at answered
  refine ⟨_, ?_, answered⟩
  rw [derived]
  exact didWebToUrl_verifier unescaped insecureHttp

/-- Two servers that reach each other's documents are the parties of an honest network. -/
theorem honestNetwork_reached {http : Dcp.Http} {holder : HolderIdentity platform}
    {config : DcpConfig platform} {issuer : DcpKeyPair platform} {draws : ExchangeDraws}
    {verifierHost : String} {auth holderAuth : DspAuthConfig platform}
    {verifierHolder : Option (HolderIdentity platform)}
    (holderReached : Reaches http holder.insecureHttp holder.ownDidHost holderAuth (some holder))
    (verifierReached : Reaches http config.insecureHttp verifierHost auth verifierHolder)
    (unescapedHolder : Unescaped holder.ownDidHost) (unescapedVerifier : Unescaped verifierHost)
    (configured : auth.dcp = some config)
    (derived : config.ownDid = "did:web:" ++ replace ":" "%3A" verifierHost ++ ":dsp")
    (sameScheme : config.insecureHttp = holder.insecureHttp)
    (issuerDocument : ∃ services, ServesDocument platform http issuer.ownDid config.insecureHttp
      (issuer.didDocument services))
    (presentationApi : http.post
        (baseUrl holder.insecureHttp holder.ownDidHost ++ "/dsp/holder/presentations/query")
        ("Bearer " ++ draws.t3 holder config) (queryBody config) =
      .ok (holder.presentationQueryRoute http draws.checkedAt draws.presentedAt draws.vpJti
        (draws.t3 holder config))) :
    HonestNetwork holder config issuer draws http where
  sameScheme := sameScheme
  holderDocument := holderReached.servesHolder unescapedHolder
  verifierDocument := verifierReached.servesVerifier unescapedVerifier configured derived
  issuerDocument := issuerDocument
  presentationApi := by
    have address : holder.endpoint ++ "/presentations/query" =
        baseUrl holder.insecureHttp holder.ownDidHost ++ "/dsp/holder/presentations/query" := by
      simp [HolderIdentity.endpoint, baseUrl, String.append_assoc]
    rw [address]
    exact presentationApi

end FederatedCatalog.Http
