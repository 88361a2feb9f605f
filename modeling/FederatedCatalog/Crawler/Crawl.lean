import FederatedCatalog.Crawler.Parse
import FederatedCatalog.Dcp.Holder
import FederatedCatalog.Store.Refinement

/-!
# Crawl cycles

`crawl_once` visits every participant in turn and upserts what it could fetch
and parse.  The network, the clock, the uuids and the cache's environment may
be different at every visit.
-/

namespace FederatedCatalog.Crawler

open Foundation Json FederatedCatalog.Core Dcp Store

def dspContextUrl : String := "https://w3id.org/dspace/2025/1/context.jsonld"

def openParticipantPlaceholderAuth : String := "federated-catalog-rs-crawler-anonymous"

structure CrawlSummary where
  attempted : Nat
  succeeded : Nat
  failed : Nat
  /-- `(participant_id, error message)` of every failure, in participant order. -/
  failures : List (String × String)
  deriving DecidableEq

def CrawlSummary.default : CrawlSummary := ⟨0, 0, 0, []⟩

def requestBody : Value :=
  .object [
    ("@context", .array [.string dspContextUrl]),
    ("@type", .string "CatalogRequestMessage")]

/-- What one visit finds: the answers of the network, the clock, and the uuids drawn. -/
structure CrawlWorld where
  http : Http
  now : Seconds
  accessJti : String
  jti : String
  freshId : String

variable {platform : Platform}

def authorization (world : CrawlWorld) (participant : ParticipantEntry)
    (holder : Option (HolderIdentity platform)) : Except String String :=
  if participant.requiresDcp then do
    let holder ← okOr holder ("participant '" ++ participant.id ++
      "' requires_dcp but no holder identity is configured")
    let providerDid ← okOr participant.providerDid ("participant '" ++ participant.id ++
      "' requires_dcp but has no provider_did")
    return "Bearer " ++
      holder.mintSelfIssuedToken providerDid world.now world.accessJti world.jti
  else
    return openParticipantPlaceholderAuth

def crawlOne (world : CrawlWorld) (participant : ParticipantEntry)
    (holder : Option (HolderIdentity platform)) : Except String Catalog := do
  let url := participant.catalogRequestUrl
  let header ← authorization world participant holder
  let response ← mapErr (fun error => "request to " ++ url ++ " failed: " ++ error)
    (world.http.post url header requestBody)
  ensure (response.isSuccess = true)
    (url ++ " returned HTTP " ++ platform.statusText response.status)
  let body ← mapErr (fun error => "malformed JSON response from " ++ url ++ ": " ++ error)
    (response.value platform)
  return parseCatalogResponse body participant world.freshId

theorem crawlOne_open {world : CrawlWorld} {participant : ParticipantEntry}
    (holder : Option (HolderIdentity platform)) (opened : participant.requiresDcp = false)
    {value : Value} (plain : value.PlainWithin 127)
    (answered : world.http.post participant.catalogRequestUrl openParticipantPlaceholderAuth
      requestBody = .ok ⟨200, utf8 (platform.json.print value)⟩) :
    crawlOne world participant holder =
      .ok (parseCatalogResponse value participant world.freshId) := by
  have read : (⟨200, utf8 (platform.json.print value)⟩ : HttpResponse).value platform =
      .ok value := by
    simp [HttpResponse.value, platform.json.fromSlice_print value plain, mapErr]
  have header : authorization world participant holder = .ok openParticipantPlaceholderAuth := by
    simp [authorization, opened]
  simp only [crawlOne, header, answered, read, ok_bind, mapErr]
  rfl

def CrawlWorld.answering (platform : Platform) (document : String → Value) : CrawlWorld where
  http := {
    get := fun _ => .error "dns error"
    post := fun url _ _ => .ok ⟨200, utf8 (platform.json.print (document url))⟩ }
  now := 0
  accessJti := ""
  jti := ""
  freshId := ""

theorem crawlOne_answering {document : String → Value} {participant : ParticipantEntry}
    (holder : Option (HolderIdentity platform)) (opened : participant.requiresDcp = false)
    (plain : (document participant.catalogRequestUrl).PlainWithin 127) :
    crawlOne (.answering platform document) participant holder =
      .ok (parseCatalogResponse (document participant.catalogRequestUrl) participant "") :=
  crawlOne_open holder opened plain rfl

def participantAt (name : String) : ParticipantEntry :=
  ⟨name, name, "https://" ++ name ++ ".example/dsp/catalog/request", false, none⟩

/-- A catalog is only ever fetched for the participant's own node. -/
theorem crawlOne_originNode {world : CrawlWorld} {participant : ParticipantEntry}
    {holder : Option (HolderIdentity platform)} {catalog : Catalog}
    (fetched : crawlOne world participant holder = .ok catalog) :
    catalog.originNode = ⟨participant.id⟩ := by
  simp only [crawlOne, bind_eq_ok, pure_eq_ok] at fetched
  obtain ⟨_, _, _, _, _, _, body, _, rfl⟩ := fetched
  exact parseCatalogResponse_originNode body participant world.freshId

/-- A cache whose failed upsert leaves it unchanged. -/
structure AtomicCache where
  State : Type
  Choice : Type
  upsert : Choice → State → Catalog → StoreResult Unit × State
  content : State → CatalogMap
  upsert_ok : ∀ choice state catalog, (upsert choice state catalog).1 = .ok () →
    content (upsert choice state catalog).2 =
      (content state).store Catalog.originNode catalog
  upsert_error : ∀ choice state catalog error, (upsert choice state catalog).1 = .error error →
    content (upsert choice state catalog).2 = content state

def AtomicCache.memory : AtomicCache where
  State := InMemoryCatalogCache
  Choice := Unit
  upsert _ cache catalog := cache.upsert catalog
  content := InMemoryCatalogCache.content
  upsert_ok _ cache catalog _ :=
    cache.content_perform .entries (.upsert catalog)
  upsert_error _ _ _ _ failed := by cases failed

/-- The Oxigraph backend while its store calls succeed, with the map its store represents. -/
def AtomicCache.oxigraph (support : OxigraphSupport) : AtomicCache where
  State := { held : CatalogMap × GraphStore // Represents support held.1 held.2 }
  Choice := Nat → StoreOrder
  upsert orders held catalog :=
    let ran := (OxigraphCatalogCache.upsert support catalog).run StoreCall.perform
      (steady orders) held.1.2
    (ran.1, ⟨(held.1.1.store Catalog.originNode catalog, ran.2),
      (OxigraphCatalogCache.upsert_run held.2 orders catalog).2⟩)
  content held := held.1.1
  upsert_ok _ _ _ _ := rfl
  upsert_error orders held catalog error failed := by
    have succeeded := (OxigraphCatalogCache.upsert_run held.2 orders catalog).1
    cases succeeded.symm.trans failed

variable (cache : AtomicCache)

structure Encounter where
  world : CrawlWorld
  choice : cache.Choice

variable {cache}

def CrawlWorld.inMemory (world : CrawlWorld) : Encounter .memory := ⟨world, ()⟩

def AtomicCache.memory.holding (catalogs : List Catalog) : AtomicCache.memory.State :=
  InMemoryCatalogCache.holding catalogs

/-- The loop of `crawl_once`; `encounters` are the visits to come. -/
def crawlFrom (holder : Option (HolderIdentity platform)) :
    List ParticipantEntry → (Nat → Encounter cache) → CrawlSummary → cache.State →
      CrawlSummary × cache.State
  | [], _, summary, state => (summary, state)
  | participant :: rest, encounters, summary, state =>
      let encounter := encounters 0
      let later := fun index => encounters (index + 1)
      let summary := { summary with attempted := summary.attempted + 1 }
      match crawlOne encounter.world participant holder with
      | .ok catalog =>
          let upserted := cache.upsert encounter.choice state catalog
          match upserted.1 with
          | .ok () =>
              crawlFrom holder rest later { summary with succeeded := summary.succeeded + 1 }
                upserted.2
          | .error error =>
              crawlFrom holder rest later { summary with
                failed := summary.failed + 1
                failures := summary.failures ++
                  [(participant.id, "failed to cache crawl result: " ++ error.display)] }
                upserted.2
      | .error error =>
          crawlFrom holder rest later { summary with
            failed := summary.failed + 1
            failures := summary.failures ++ [(participant.id, error)] } state

def crawlOnce (holder : Option (HolderIdentity platform)) (participants : List ParticipantEntry)
    (encounters : Nat → Encounter cache) (state : cache.State) : CrawlSummary × cache.State :=
  crawlFrom holder participants encounters .default state

def afterCycles (holder : Option (HolderIdentity platform)) (participants : List ParticipantEntry)
    (encounters : Nat → Nat → Encounter cache) (initial : cache.State) : Nat → cache.State
  | 0 => initial
  | cycle + 1 =>
      (crawlOnce holder participants (encounters cycle)
        (afterCycles holder participants encounters initial cycle)).2

end FederatedCatalog.Crawler
