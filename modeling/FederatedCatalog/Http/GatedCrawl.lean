import FederatedCatalog.Crawler.Config
import FederatedCatalog.Http.Federation
import FederatedCatalog.Dcp.HonestRun

/-!
# Crawling a gated provider

A crawler with a credential of its own visits a provider that asks for one.
The provider asks the crawler's Presentation API back, and the crawler ends up
with what its credential lists.  Without a token it gets nothing.
-/

namespace FederatedCatalog.Http

open Foundation Json FederatedCatalog.Core Dcp Store Crawler

variable {platform : Platform}

/-- `URL_SAFE_NO_PAD` writes letters, digits, `-` and `_`. -/
def UrlSafe (base64 : Base64Url) : Prop :=
  ∀ bytes, ∀ char ∈ (base64.encode bytes).toList, char ∈ Base64.alphabet

theorem reference_urlSafe : UrlSafe Platform.reference.base64 := Base64.encode_chars

theorem printable_signJws (safe : UrlSafe platform.base64) (payload : Value)
    (signingKey : platform.es256.SigningKey) (kid : String) :
    Printable (signJws platform payload signingKey kid) where
  nonempty := by
    intro empty
    have lists := congrArg String.toList empty
    simp [signJws] at lists
  visible := by
    have checked : Base64.alphabet.all (fun char => 33 ≤ char.toNat ∧ char.toNat < 127) := by
      decide +kernel
    have letters : ∀ char ∈ Base64.alphabet, 33 ≤ char.toNat ∧ char.toNat < 127 := by
      simpa using checked
    have segment : ∀ bytes, ∀ char ∈ (b64Encode platform bytes).toList,
        33 ≤ char.toNat ∧ char.toNat < 127 :=
      fun bytes char listed => letters char (safe bytes char listed)
    have dot : 33 ≤ '.'.toNat ∧ '.'.toNat < 127 := by decide
    intro char listed
    simp only [signJws, String.toList_ofList, List.mem_append, List.mem_cons] at listed
    rcases listed with header | rfl | payload | rfl | signature
    · exact segment _ char header
    · exact dot
    · exact segment _ char payload
    · exact dot
    · exact segment _ char signature

structure Provider (platform : Platform) where
  state : AppState platform
  config : DcpConfig platform
  gated : state.dspAuth.mode = .dcp
  configured : state.dspAuth.dcp = some config

/-- The provider's side of a visit: its network, its clock and uuids, and when the Presentation
API that it asks checks and answers. -/
structure ProviderDraws where
  http : Dcp.Http
  now : Seconds
  t3Jti : String
  checkedAt : Seconds
  presentedAt : Seconds
  vpJti : String
  uuids : Nat → String

def ProviderDraws.exchange (draws : ProviderDraws) (world : CrawlWorld) : ExchangeDraws where
  mintedAt := world.now
  accessJti := world.accessJti
  t1Jti := world.jti
  clock := .still draws.now
  t3Jti := draws.t3Jti
  checkedAt := draws.checkedAt
  presentedAt := draws.presentedAt
  vpJti := draws.vpJti

def serverAnswer (state : AppState platform) (draws : ProviderDraws) (header : String) :
    HttpResponse :=
  Response.encode platform ((catalogRequest state ⟨some (utf8 header)⟩ draws.http draws.now
    draws.t3Jti).value draws.uuids)

/-- The server answers the request with the header that the crawler sends. -/
def Visited (crawler : Option (HolderIdentity platform)) (state : AppState platform)
    (participant : ParticipantEntry) (world : CrawlWorld) (draws : ProviderDraws) : Prop :=
  ∀ header, authorization world participant crawler = .ok header →
    world.http.post participant.catalogRequestUrl header requestBody =
      .ok (serverAnswer state draws header)

/-- The visit of a holder to the provider it has a credential for, within five minutes. -/
structure GatedVisit (holder : HolderIdentity platform) (provider : Provider platform)
    (issuer : DcpKeyPair platform) (vc : DecodedJws) (participant : ParticipantEntry)
    (world : CrawlWorld) (draws : ProviderDraws) : Prop where
  requires : participant.requiresDcp = true
  addressed : participant.providerDid = some provider.config.ownDid
  visited : Visited (some holder) provider.state participant world draws
  network : HonestNetwork holder provider.config issuer (draws.exchange world) draws.http
  soon : (draws.now : Nat) < world.now + 300
  answered : (draws.checkedAt : Nat) < draws.now + 300
  signed : issuer.HasSigned holder.credentialJws vc
  expected : hasExpectedType vc.payload = true
  valid : draws.now < expiry vc.payload

variable {holder : HolderIdentity platform} {provider : Provider platform}
  {issuer : DcpKeyPair platform} {vc : DecodedJws} {participant : ParticipantEntry}
  {world : CrawlWorld} {draws : ProviderDraws}

namespace GatedVisit

theorem verified (visit : GatedVisit holder provider issuer vc participant world draws) :
    verifyDcpBearerToken provider.config (holder.mintSelfIssuedToken provider.config.ownDid
        world.now world.accessJti world.jti) draws.http draws.now draws.t3Jti =
      .ok ⟨holder.ownDid, (catalogAccessEntries vc.payload).toFinset⟩ := by
  have network := visit.network
  obtain ⟨services, issuerDocument⟩ := network.issuerDocument
  have accepted := network.accepted visit.answered
  have replied : draws.http.post (holder.endpoint ++ "/presentations/query")
      ("Bearer " ++ (draws.exchange world).t3 holder provider.config)
      (queryBody provider.config) = .ok ⟨200, utf8 (platform.json.print
        (PresentationResponseMessage.toValue ⟨[(draws.exchange world).vpJws holder]⟩))⟩ := by
    rw [network.presentationApi, HolderIdentity.presentationQueryRoute, accepted]
  have issued := visit.signed.issued (issuerDocument.resolved (issuer.plainWithin_didDocument _)
    (issuer.fromValue_didDocument _))
  apply verifyDcpBearerToken_eq_ok.mpr
  refine ⟨⟨(draws.exchange world).caller holder provider.config,
    (draws.exchange world).vpJws holder, holder.keyPair.signed (holder.vpPayload draws.presentedAt
      draws.vpJti), [⟨vc, issuer.ownDid, issuer.publishedDocument services⟩]⟩, ?_⟩
  exact {
    self_issued := holder.selfIssued_minted network.holder_resolved visit.soon
    holderDid := rfl
    presented := holder.firstPresentation replied
    vp_signed := holder.keyPair.signedUnder_own _ (HolderIdentity.plainWithin_vpPayload _ _ _)
    embedded := .cons ⟨holder.credentialJws, rfl, issued⟩ .nil
    nonempty := List.cons_ne_nil _ []
    access := by
      intro id
      simp [Grants, visit.valid, visit.expected]
    current := by
      intro _ other listed
      rw [List.mem_singleton.mp listed]
      exact visit.valid }

theorem entitled (visit : GatedVisit holder provider issuer vc participant world draws)
    (safe : UrlSafe platform.base64) :
    Entitled provider.state.dspAuth ⟨some (utf8 ("Bearer " ++ holder.mintSelfIssuedToken
        provider.config.ownDid world.now world.accessJti world.jti))⟩ draws.http draws.now
      draws.t3Jti (some (catalogAccessEntries vc.payload).toFinset) :=
  .dcp provider.gated provider.configured
    (bearerToken_printable (printable_signJws safe _ _ _)) visit.verified

theorem fetched (visit : GatedVisit holder provider issuer vc participant world draws)
    (safe : UrlSafe platform.base64) {catalogs : List Catalog}
    (found : provider.state.cache.query .all = .ok catalogs) :
    ∃ catalog, crawlOne world participant (some holder) = .ok catalog ∧
      catalog.datasets =
        (grantedDatasets (some (catalogAccessEntries vc.payload).toFinset) catalogs).map bare := by
  obtain ⟨document, same, serves⟩ := catalogRequest_served provider.state _ draws.http draws.now
    draws.t3Jti (visit.entitled safe) found draws.uuids
  have header : authorization world participant (some holder) = .ok ("Bearer " ++
      holder.mintSelfIssuedToken provider.config.ownDid world.now world.accessJti world.jti) := by
    simp [authorization, visit.requires, visit.addressed, okOr]
  have answer := visit.visited _ header
  rw [serverAnswer, same] at answer
  have read : (Response.encode platform ⟨200, .catalog document⟩).value platform =
      .ok document.toValue := by
    simp only [HttpResponse.value, Response.encode, Body.toValue,
      serves.fromSlice, mapErr]
  refine ⟨parseCatalogResponse document.toValue participant world.freshId, ?_,
    serves.read participant world.freshId⟩
  simp only [crawlOne, header, answer, read, ok_bind, mapErr]
  rfl

end GatedVisit

inductive Brings (granted : List Dataset) (participant : ParticipantEntry) (before after : CatalogMap) :
    Except String Catalog → Prop where
  | cached {catalog : Catalog} (datasets : catalog.datasets = granted.map bare)
      (stored : after ⟨participant.id⟩ = some catalog) :
      Brings granted participant before after (.ok catalog)
  | uncached {refused : StoreError} (kept : after ⟨participant.id⟩ = before ⟨participant.id⟩) :
      Brings granted participant before after
        (.error ("failed to cache crawl result: " ++ refused.display))

variable {cache : AtomicCache} {participants : List ParticipantEntry}
  {encounters : Nat → Encounter cache} {initial : cache.State} {index : Nat}

/-- A crawler with a credential caches what its credential lists, and nothing else. -/
theorem gated_crawl_brings_granted (unshared : Unshared participants participant.id)
    (listed : participants[index]? = some participant)
    (gated : GatedVisit holder provider issuer vc participant (encounters index).world draws)
    (safe : UrlSafe platform.base64) {catalogs : List Catalog}
    (found : provider.state.cache.query .all = .ok catalogs) :
    ∃ visit, (visits (some holder) participants encounters initial)[index]? = some visit ∧
      visit.participant = participant ∧
      Brings (grantedDatasets (some (catalogAccessEntries vc.payload).toFinset) catalogs)
        participant (cache.content initial)
        (cache.content (crawlOnce (some holder) participants encounters initial).2)
        visit.result := by
  obtain ⟨visit, made, rfl, encounter, faithful⟩ :=
    visit_at (some holder) encounters initial listed
  rw [← encounter] at gated
  obtain ⟨fetched, crawled, datasets⟩ := gated.fetched safe found
  have membership := List.mem_of_getElem? made
  refine ⟨visit, made, rfl, ?_⟩
  cases result : visit.result with
  | ok catalog =>
      obtain ⟨header, response, body, authorized, answered, success, parsed, same⟩ :=
        faithful.read catalog result
      have again : crawlOne visit.encounter.world visit.participant (some holder) = .ok catalog := by
        simp only [crawlOne, authorized, answered, success, parsed, same, ok_bind, mapErr]
        rfl
      cases crawled.symm.trans again
      exact .cached datasets (cached_of_unshared unshared membership result)
  | error error =>
      rcases faithful.uncached error result with failed | ⟨refused, rfl⟩
      · cases crawled.symm.trans failed
      · have unsuccessful : visit.succeeded = false := by
          simp [Visit.succeeded, result, Except.toOption]
        exact .uncached (kept_of_unshared unshared membership unsuccessful)

def ownCredential : String := sampleCredential "did:web:holder.example:dsp:holder"

def ownVc : DecodedJws :=
  sampleIssuer.signed (credentialPayload "did:web:holder.example:dsp:holder")

/-- The sample verifier, with a dataset that the sample credential lists and one that it does not. -/
def sampleProvider : Provider .reference where
  state := {
    cache := .holding [offering "north" "dataset", offering "south" "sand"]
    dspAuth := {
      mode := .dcp
      catalogAccess := fun _ => none
      dcp := some sampleConfig
      consistent := fun _ => rfl } }
  config := sampleConfig
  gated := rfl
  configured := rfl

def sampleProviderDraws : ProviderDraws where
  http := honestHttp ownCredential
  now := 1002
  t3Jti := "c"
  checkedAt := 1004
  presentedAt := 1005
  vpJti := "vp"
  uuids := Nat.repr

def gatedWorld : CrawlWorld where
  http := {
    get := fun _ => .error "dns error"
    post := fun _ header _ => .ok (serverAnswer sampleProvider.state sampleProviderDraws header) }
  now := 1000
  accessJti := "a"
  jti := "b"
  freshId := ""

def gatedParticipant : ParticipantEntry :=
  { participantAt "provider" with requiresDcp := true, providerDid := some sampleConfig.ownDid }

theorem sampleVisit : GatedVisit (sampleHolder ownCredential) sampleProvider sampleIssuer ownVc
    gatedParticipant gatedWorld sampleProviderDraws where
  requires := rfl
  addressed := rfl
  visited _ _ := rfl
  network := {
    sameScheme := (honestHttp_network ownCredential).sameScheme
    holderDocument := (honestHttp_network ownCredential).holderDocument
    verifierDocument := (honestHttp_network ownCredential).verifierDocument
    issuerDocument := (honestHttp_network ownCredential).issuerDocument
    presentationApi := (honestHttp_network ownCredential).presentationApi }
  soon := by decide
  answered := by decide
  signed := sampleIssuer.hasSigned_sign (by simp [credentialPayload, Value.plainWithin_posInt]) rfl
  expected := rfl
  valid := by decide

theorem credential_brings_its_dataset :
    ∃ visit, (visits (some (sampleHolder ownCredential)) [gatedParticipant]
        (fun _ => gatedWorld.inMemory) (AtomicCache.memory.holding []))[0]? = some visit ∧
      visit.participant = gatedParticipant ∧
      Brings (grantedDatasets (some (catalogAccessEntries ownVc.payload).toFinset)
          [offering "north" "dataset", offering "south" "sand"]) gatedParticipant
        (AtomicCache.memory.content (AtomicCache.memory.holding []))
        (AtomicCache.memory.content (crawlOnce (some (sampleHolder ownCredential))
          [gatedParticipant] (fun _ => gatedWorld.inMemory) (AtomicCache.memory.holding [])).2)
        visit.result := by
  have found : sampleProvider.state.cache.query .all =
      .ok [offering "north" "dataset", offering "south" "sand"] := by
    decide +kernel
  have unshared : Unshared [gatedParticipant] gatedParticipant.id :=
    unshared_of_distinct (by simp) _
  have listed : [gatedParticipant][0]? = some gatedParticipant := rfl
  exact gated_crawl_brings_granted unshared listed sampleVisit reference_urlSafe found

/-! ## A crawler without a valid token -/

/-- Why the provider does not accept what the crawler sends: it sends the placeholder, or it is
a holder whose token is for somebody else or too old. -/
inductive Uninvited (holder : Option (HolderIdentity platform)) (provider : Provider platform)
    (participant : ParticipantEntry) (world : CrawlWorld) (draws : ProviderDraws) : Prop where
  | anonymous (opened : participant.requiresDcp = false)
  | misaddressed {identity : HolderIdentity platform} (identified : holder = some identity)
      {target : String} (requires : participant.requiresDcp = true)
      (addressed : participant.providerDid = some target) (other : target ≠ provider.config.ownDid)
  | late {identity : HolderIdentity platform} (identified : holder = some identity)
      {target : String} (requires : participant.requiresDcp = true)
      (addressed : participant.providerDid = some target)
      (expired : (world.now : Nat) + 300 ≤ draws.now)

theorem bearerToken_placeholder :
    bearerToken ⟨some (utf8 openParticipantPlaceholderAuth)⟩ = none := by
  decide +kernel

theorem Provider.not_entitled (provider : Provider platform) {headers : Headers}
    {http : Dcp.Http} {now : Seconds} {t3Jti : String}
    (unverified : ∀ token, bearerToken headers = some token → ∀ caller,
      verifyDcpBearerToken provider.config token http now t3Jti ≠ .ok caller)
    (allowed : Option (Finset String)) :
    ¬Entitled provider.state.dspAuth headers http now t3Jti allowed := by
  intro entitled
  cases entitled with
  | disabled mode => cases provider.gated.symm.trans mode
  | bearer mode _ => cases provider.gated.symm.trans mode
  | dcp _ configured presented verified =>
      cases provider.configured.symm.trans configured
      exact unverified _ presented _ verified

/-- Only the DID that a T1 is minted for verifies it, for less than 300 seconds. -/
theorem minted_refused {config : DcpConfig platform} {target accessJti jti t3Jti : String}
    {mintedAt now : Seconds} {http : Dcp.Http} (safe : UrlSafe platform.base64)
    (invalid : target ≠ config.ownDid ∨ (mintedAt : Nat) + 300 ≤ now) (token : String)
    (presented : bearerToken ⟨some (utf8 ("Bearer " ++
      holder.mintSelfIssuedToken target mintedAt accessJti jti))⟩ = some token)
    (caller : VerifiedCaller) : verifyDcpBearerToken config token http now t3Jti ≠ .ok caller := by
  intro verified
  have carried := bearerToken_printable (printable_signJws safe (holder.t1Payload target
    (holder.accessToken mintedAt accessJti) mintedAt jti) holder.keyPair.signingKey
    holder.keyPair.ownKeyId)
  cases carried.symm.trans presented
  obtain ⟨exchange, establishes⟩ := verifyDcpBearerToken_eq_ok.mp verified
  have ⟨addressed, inTime⟩ := holder.recognised_minted establishes.self_issued
  rcases invalid with other | late
  · exact other addressed
  · omega

variable {crawler : Option (HolderIdentity platform)}

theorem Uninvited.refused (uninvited : Uninvited crawler provider participant world draws)
    (safe : UrlSafe platform.base64) :
    ∃ header, authorization world participant crawler = .ok header ∧
      ∀ allowed, ¬Entitled provider.state.dspAuth ⟨some (utf8 header)⟩ draws.http draws.now
        draws.t3Jti allowed := by
  cases uninvited with
  | anonymous opened =>
      refine ⟨openParticipantPlaceholderAuth, by simp [authorization, opened], ?_⟩
      apply provider.not_entitled
      intro token presented
      cases bearerToken_placeholder.symm.trans presented
  | misaddressed identified requires addressed other =>
      refine ⟨_, by simp [authorization, requires, identified, addressed, okOr]; rfl, ?_⟩
      exact provider.not_entitled (minted_refused safe (.inl other))
  | late identified requires addressed expired =>
      refine ⟨_, by simp [authorization, requires, identified, addressed, okOr]; rfl, ?_⟩
      exact provider.not_entitled (minted_refused safe (.inr expired))

theorem Uninvited.unfetched (uninvited : Uninvited crawler provider participant world draws)
    (safe : UrlSafe platform.base64)
    (visited : Visited crawler provider.state participant world draws) :
    crawlOne world participant crawler = .error (participant.catalogRequestUrl ++
      " returned HTTP " ++ platform.statusText 401) := by
  obtain ⟨header, authorized, refused⟩ := uninvited.refused safe
  have refusal := catalogRequest_refused provider.state ⟨some (utf8 header)⟩ draws.http draws.now
    draws.t3Jti refused draws.uuids
  obtain ⟨id, same⟩ := refusal
  have answered := visited header authorized
  rw [serverAnswer, same] at answered
  simp only [crawlOne, authorized, answered, ok_bind, mapErr]
  rfl

/-- What a participant's visits leave behind when each of them fails with one error. -/
structure Spurned (holder : Option (HolderIdentity platform))
    (participants : List ParticipantEntry) (encounters : Nat → Nat → Encounter cache)
    (initial : cache.State) (participant : ParticipantEntry) (error : String) (cycle : Nat) :
    Prop where
  reported : (participant.id, error) ∈ (crawlOnce holder participants (encounters cycle)
    (afterCycles holder participants encounters initial cycle)).1.failures
  unchanged : Unshared participants participant.id →
    cache.content (afterCycles holder participants encounters initial cycle) ⟨participant.id⟩ =
      cache.content initial ⟨participant.id⟩

/-- However often it comes by, a crawler without a valid token learns nothing from a gated
provider, and every cycle reports the refusal. -/
theorem uninvited_crawls_are_spurned {encounters : Nat → Nat → Encounter cache}
    (safe : UrlSafe platform.base64) (listed : participants[index]? = some participant)
    (uninvited : ∀ cycle, ∃ (provider : Provider platform) (draws : ProviderDraws),
      Uninvited crawler provider participant (encounters cycle index).world draws ∧
      Visited crawler provider.state participant (encounters cycle index).world draws)
    (cycle : Nat) :
    Spurned crawler participants encounters initial participant
      (participant.catalogRequestUrl ++ " returned HTTP " ++ platform.statusText 401) cycle := by
  have failing : ∀ earlier state, ∃ visit ∈ visits crawler participants
      (encounters earlier) state, visit.participant = participant ∧
      visit.result = .error (participant.catalogRequestUrl ++ " returned HTTP " ++
        platform.statusText 401) := by
    intro earlier state
    obtain ⟨visit, made, rfl, encounter, faithful⟩ :=
      visit_at crawler (encounters earlier) state listed
    obtain ⟨provider, draws, refused, visited⟩ := uninvited earlier
    rw [← encounter] at refused visited
    exact ⟨visit, List.mem_of_getElem? made, rfl, faithful.unread _ (refused.unfetched safe visited)⟩
  constructor
  · obtain ⟨visit, made, rfl, result⟩ := failing cycle
      (afterCycles crawler participants encounters initial cycle)
    rw [crawlOnce, summary_crawlFrom, (CrawlSummary.summarizes _).failures]
    apply List.mem_filterMap.mpr
    exact ⟨visit, made, by simp [Visit.failure, result]⟩
  · intro unshared
    induction cycle with
    | zero => rfl
    | succ cycle inductionHypothesis =>
        obtain ⟨visit, made, rfl, result⟩ := failing cycle
          (afterCycles crawler participants encounters initial cycle)
        have unsuccessful : visit.succeeded = false := by
          simp [Visit.succeeded, result, Except.toOption]
        rw [afterCycles, kept_of_unshared unshared made unsuccessful, inductionHypothesis]

theorem anonymous_crawls_are_spurned :
    Unshared [participantAt "north", participantAt "provider"] "provider" ∧
      Spurned (none : Option (HolderIdentity .reference))
        [participantAt "north", participantAt "provider"] (fun _ _ => gatedWorld.inMemory)
        (AtomicCache.memory.holding [offering "provider" "dataset"]) (participantAt "provider")
        ("https://provider.example/dsp/catalog/request returned HTTP 401 Unauthorized") 2 := by
  constructor
  · unfold Unshared
    decide
  · have listed : [participantAt "north", participantAt "provider"][1]? =
        some (participantAt "provider") := rfl
    apply uninvited_crawls_are_spurned reference_urlSafe listed
    intro _
    exact ⟨sampleProvider, sampleProviderDraws, .anonymous rfl, fun _ _ => rfl⟩

end FederatedCatalog.Http
