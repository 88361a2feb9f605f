import FederatedCatalog.Dcp.Expiry

/-!
# A run between honest parties

A verifier, a holder and the issuer of the holder's credential publish their
documents, and the holder's Presentation API can be reached.  Then the holder
accepts the verifier's query, and the verifier grants what the credential
lists, within five minutes of the first token.
-/

namespace FederatedCatalog.Dcp

open Foundation Json

variable {platform : Platform}

structure DcpKeyPair.HasSigned (issuer : DcpKeyPair platform) (jws : String) (decoded : DecodedJws) :
    Prop where
  decoded_eq : decodeJwsUnverified platform jws = .ok decoded
  kid : (decoded.header.get "kid").bind Value.asStr = some issuer.ownKeyId
  iss : (decoded.payload.get "iss").bind Value.asStr = some issuer.ownDid
  verified : verifyJwsSignature platform jws issuer.verifyingKey = .ok ()

theorem DcpKeyPair.hasSigned_sign (issuer : DcpKeyPair platform) {payload : Value}
    (plain : payload.PlainWithin 127)
    (iss : (payload.get "iss").bind Value.asStr = some issuer.ownDid) :
    issuer.HasSigned (issuer.sign payload) (issuer.signed payload) where
  decoded_eq := decodeJwsUnverified_signJws platform plain issuer.signingKey issuer.ownKeyId
  kid := rfl
  iss := iss
  verified := verifyJwsSignature_signJws platform payload issuer.signingKey issuer.ownKeyId

theorem DcpKeyPair.HasSigned.issued {issuer : DcpKeyPair platform} {jws : String}
    {decoded : DecodedJws} (signed : issuer.HasSigned jws decoded) {http : Http}
    {insecureHttp : Bool} {services : List (String × String)}
    (resolved : resolveDid platform http issuer.ownDid insecureHttp =
      .ok (issuer.publishedDocument services)) :
    Issued platform http insecureHttp jws
      ⟨decoded, issuer.ownDid, issuer.publishedDocument services⟩ where
  iss := signed.iss
  resolved := resolved
  signed := {
    decoded_eq := signed.decoded_eq
    verified := ⟨issuer.ownKeyId, issuer.verifyingKey, signed.kid,
      (issuer.findVerifyingKey_published services _ _).mpr ⟨rfl, rfl⟩, signed.verified⟩ }

namespace HolderIdentity

variable (holder : HolderIdentity platform)

def endpoint : String :=
  (if holder.insecureHttp then "http" else "https") ++ "://" ++ holder.ownDidHost ++ "/dsp/holder"

/-- What `holder_presentation_query_route` answers to a bearer token. -/
def presentationQueryRoute (http : Http) (checkedAt now : Seconds) (jti token : String) :
    HttpResponse :=
  match holder.answerPresentationQuery token http checkedAt now jti with
  | .ok message => ⟨200, utf8 (platform.json.print message.toValue)⟩
  | .error _ => ⟨401, []⟩

end HolderIdentity

/-- The times and uuids of an exchange: when T1 is minted, the verifier's clock, and when the
holder checks T3 and signs its presentation. -/
structure ExchangeDraws where
  mintedAt : Seconds
  accessJti : String
  t1Jti : String
  clock : VerifierClock
  t3Jti : String
  checkedAt : Seconds
  presentedAt : Seconds
  vpJti : String

/-- The clock moves forward, by less than 300 seconds in all. -/
structure ExchangeDraws.Quick (draws : ExchangeDraws) : Prop where
  minted : (draws.mintedAt : Nat) ≤ draws.clock.t1
  authenticated : (draws.clock.t1 : Nat) ≤ draws.clock.t3
  asked : (draws.clock.t3 : Nat) ≤ draws.checkedAt
  answered : (draws.checkedAt : Nat) ≤ draws.presentedAt
  presented : (draws.presentedAt : Nat) ≤ draws.clock.credential 0
  soon : (draws.clock.credential 0 : Nat) < draws.mintedAt + 300

variable (holder : HolderIdentity platform) (config : DcpConfig platform)
  (issuer : DcpKeyPair platform)

namespace ExchangeDraws

variable (draws : ExchangeDraws)

def t1 : String :=
  holder.mintSelfIssuedToken config.ownDid draws.mintedAt draws.accessJti draws.t1Jti

def caller : IssuedToken :=
  ⟨holder.keyPair.signed (holder.t1Payload config.ownDid
      (holder.accessToken draws.mintedAt draws.accessJti) draws.mintedAt draws.t1Jti),
    holder.ownDid, holder.keyPair.publishedDocument [("CredentialService", holder.endpoint)]⟩

def t3 : String :=
  repackagedToken config holder.ownDid (holder.accessToken draws.mintedAt draws.accessJti)
    draws.clock.t3 draws.t3Jti

def vpJws : String := holder.keyPair.sign (holder.vpPayload draws.presentedAt draws.vpJti)

end ExchangeDraws

/-- Every party's document is where its DID says, and T3 gets to the holder's Presentation API
below its advertised endpoint. -/
structure HonestNetwork (draws : ExchangeDraws) (http : Http) : Prop where
  sameScheme : config.insecureHttp = holder.insecureHttp
  holderDocument : ServesDocument platform http holder.ownDid holder.insecureHttp
    holder.ownDidDocument
  verifierDocument : ServesDocument platform http config.ownDid config.insecureHttp
    config.ownDidDocument
  issuerDocument : ∃ services, ServesDocument platform http issuer.ownDid config.insecureHttp
    (issuer.didDocument services)
  presentationApi : http.post (holder.endpoint ++ "/presentations/query")
      ("Bearer " ++ draws.t3 holder config) (queryBody config) =
    .ok (holder.presentationQueryRoute http draws.checkedAt draws.presentedAt draws.vpJti
      (draws.t3 holder config))

structure Completes (draws : ExchangeDraws) (http : Http) (vc : DecodedJws) : Prop where
  asked : http.post (holder.endpoint ++ "/presentations/query")
      ("Bearer " ++ draws.t3 holder config) (queryBody config) =
        .ok ⟨200, utf8 (platform.json.print
          (PresentationResponseMessage.toValue ⟨[draws.vpJws holder]⟩))⟩ ∧
    FirstPresentation config (draws.caller holder config) http draws.clock.t3 draws.t3Jti
      (draws.vpJws holder)
  accepted : holder.answerPresentationQuery (draws.t3 holder config) http draws.checkedAt
    draws.presentedAt draws.vpJti = .ok ⟨[draws.vpJws holder]⟩
  verified : verifyDcpBearerTokenAt config draws.clock (draws.t1 holder config) http draws.t3Jti =
    .ok ⟨holder.ownDid, (catalogAccessEntries vc.payload).toFinset⟩

variable {holder config issuer} {draws : ExchangeDraws} {http : Http}

namespace HonestNetwork

theorem holder_resolved (network : HonestNetwork holder config issuer draws http) :
    resolveDid platform http holder.ownDid config.insecureHttp =
      .ok (holder.keyPair.publishedDocument [("CredentialService", holder.endpoint)]) := by
  rw [network.sameScheme]
  exact network.holderDocument.resolved (holder.keyPair.plainWithin_didDocument _)
    (holder.keyPair.fromValue_didDocument _)

theorem verifier_resolved (network : HonestNetwork holder config issuer draws http) :
    resolveDid platform http config.ownDid holder.insecureHttp =
      .ok (config.keyPair.publishedDocument []) := by
  rw [← network.sameScheme]
  exact network.verifierDocument.resolved (config.keyPair.plainWithin_didDocument _)
    (config.keyPair.fromValue_didDocument _)

theorem accepted (network : HonestNetwork holder config issuer draws http)
    (inTime : (draws.checkedAt : Nat) < draws.clock.t3 + 300) :
    holder.answerPresentationQuery (draws.t3 holder config) http draws.checkedAt
      draws.presentedAt draws.vpJti = .ok ⟨[draws.vpJws holder]⟩ := by
  have recognised : SelfIssued platform http holder.insecureHttp holder.ownDid
      (draws.t3 holder config) draws.checkedAt
      ⟨config.keyPair.signed (repackagedPayload config holder.ownDid
          (holder.accessToken draws.mintedAt draws.accessJti) draws.clock.t3 draws.t3Jti),
        config.ownDid, config.keyPair.publishedDocument []⟩ := {
    toIssued := config.keyPair.issued_own (plainWithin_repackagedPayload _ _ _ _ _) rfl
      network.verifier_resolved
    aud := rfl
    unexpired := by
      simpa [DcpKeyPair.signed, expiry, repackagedPayload, List.lookup_cons] using inTime }
  rw [HolderIdentity.answerPresentationQuery, authenticate_eq_ok.mpr recognised, ok_bind]
  rfl

end HonestNetwork

theorem verdict_singleton (holderDid : String) {vc : IssuedToken} {now : Seconds}
    (valid : now < expiry vc.decoded.payload)
    (expected : hasExpectedType vc.decoded.payload = true) :
    verdict holderDid [(vc, now)] =
      .ok ⟨holderDid, (catalogAccessEntries vc.decoded.payload).toFinset⟩ := by
  have noted : (⟨∅, false⟩ : Granted).noteAll [(vc, now)] =
      ⟨(catalogAccessEntries vc.decoded.payload).toFinset, false⟩ := by
    simp [Granted.noteAll, Granted.note, Nat.not_le.mpr valid, expected]
  simp [verdict, noted]

theorem honest_exchange_completes (network : HonestNetwork holder config issuer draws http)
    (quick : draws.Quick) {vc : DecodedJws} (signed : issuer.HasSigned holder.credentialJws vc)
    (expected : hasExpectedType vc.payload = true)
    (valid : draws.clock.credential 0 < expiry vc.payload) :
    Completes holder config draws http vc := by
  obtain ⟨minted, authenticated, asked, answered, presented, soon⟩ := quick
  obtain ⟨services, issuerDocument⟩ := network.issuerDocument
  have accepted := network.accepted (by omega)
  have replied : http.post (holder.endpoint ++ "/presentations/query")
      ("Bearer " ++ draws.t3 holder config) (queryBody config) =
        .ok ⟨200, utf8 (platform.json.print
          (PresentationResponseMessage.toValue ⟨[draws.vpJws holder]⟩))⟩ := by
    rw [network.presentationApi, HolderIdentity.presentationQueryRoute, accepted]
  have first : FirstPresentation config (draws.caller holder config) http draws.clock.t3
      draws.t3Jti (draws.vpJws holder) := holder.firstPresentation replied
  have issued := signed.issued (issuerDocument.resolved (issuer.plainWithin_didDocument _)
    (issuer.fromValue_didDocument _))
  have presents : Exchange.Presents config
      ⟨draws.caller holder config, draws.vpJws holder,
        holder.keyPair.signed (holder.vpPayload draws.presentedAt draws.vpJti),
        [⟨vc, issuer.ownDid, issuer.publishedDocument services⟩]⟩
      draws.clock (draws.t1 holder config) http draws.t3Jti := {
    self_issued := holder.selfIssued_minted network.holder_resolved (by omega)
    presented := first
    vp_signed := holder.keyPair.signedUnder_own _ (HolderIdentity.plainWithin_vpPayload _ _ _)
    embedded := .cons ⟨holder.credentialJws, rfl, issued⟩ .nil
    nonempty := List.cons_ne_nil _ [] }
  refine ⟨⟨replied, first⟩, accepted, ?_⟩
  rw [presents.verified]
  exact verdict_singleton holder.ownDid valid expected

def sampleDraws : ExchangeDraws where
  mintedAt := 1000
  accessJti := "a"
  t1Jti := "b"
  clock := ⟨1001, 1002, fun _ => 1010⟩
  t3Jti := "c"
  checkedAt := 1004
  presentedAt := 1005
  vpJti := "vp"

def honestHttp (credentialJws : String) : Http :=
  (sampleHttp credentialJws).answering fun _ authorization _ =>
    .ok ((sampleHolder credentialJws).presentationQueryRoute (sampleHttp credentialJws) 1004 1005
      "vp" ((stripPrefix "Bearer " authorization).getD ""))

theorem honestHttp_post (credentialJws token url : String) (body : Value) :
    (honestHttp credentialJws).post url ("Bearer " ++ token) body =
      .ok ((sampleHolder credentialJws).presentationQueryRoute (honestHttp credentialJws) 1004 1005
        "vp" token) := by
  simp only [honestHttp, Http.answering, stripPrefix_append, Option.getD_some]
  rfl

theorem honestHttp_network (credentialJws : String) :
    HonestNetwork (sampleHolder credentialJws) sampleConfig sampleIssuer sampleDraws
      (honestHttp credentialJws) where
  sameScheme := rfl
  holderDocument := (sampleHolder_serves credentialJws).answering _
  verifierDocument := (sampleConfig_serves credentialJws).answering _
  issuerDocument := ⟨[], (sampleIssuer_serves credentialJws).answering _⟩
  presentationApi := honestHttp_post credentialJws _ _ _

theorem own_credential_completes :
    Completes (sampleHolder (sampleCredential "did:web:holder.example:dsp:holder")) sampleConfig
      sampleDraws (honestHttp (sampleCredential "did:web:holder.example:dsp:holder"))
      (sampleIssuer.signed (credentialPayload "did:web:holder.example:dsp:holder")) := by
  have plain : (credentialPayload "did:web:holder.example:dsp:holder").PlainWithin 127 := by
    simp [credentialPayload, Value.plainWithin_posInt]
  exact honest_exchange_completes (honestHttp_network _) (by constructor <;> decide)
    (sampleIssuer.hasSigned_sign plain rfl) rfl (by decide)

end FederatedCatalog.Dcp
