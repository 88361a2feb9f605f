import FederatedCatalog.Crawler.LastKnownGood
import FederatedCatalog.Foundation.Grouping
import FederatedCatalog.Http.RoundTrip

/-!
# Whom nested entries are attributed to

A nested entry carries the `participantId` that its node's response claimed,
or the node's own id.  Grouping the served datasets by it gives the visible
datasets of all nodes with that label, which are a single node's exactly when
no two visible nodes share a label.
-/

namespace FederatedCatalog.Http

open Foundation Json FederatedCatalog.Core Dcp Store Crawler

def servedDatasets (allowed : Option (Finset String)) (catalog : Catalog) : List Dataset :=
  (visibleDatasets allowed catalog.datasets).map bare

def datasetsUnder (document : DspCatalog) (participantId : String) : List Dataset :=
  gather DspCatalog.participantId (fun entry => entry.dataset.map DspDataset.read)
    document.catalog participantId

def visibleNodes (allowed : Option (Finset String)) (catalogs : List Catalog) : List Catalog :=
  catalogs.filter fun catalog => Visible allowed catalog

def DistinctLabels (allowed : Option (Finset String)) (catalogs : List Catalog) : Prop :=
  ((visibleNodes allowed catalogs).map participantIdOf).Nodup

structure Attributes (allowed : Option (Finset String)) (catalogs : List Catalog)
    (document : DspCatalog) : Prop where
  labels : document.catalog.map DspCatalog.participantId =
    (visibleNodes allowed catalogs).map participantIdOf
  under : ∀ name, datasetsUnder document name =
    gather participantIdOf (servedDatasets allowed) (visibleNodes allowed catalogs) name
  distinct : (document.catalog.map DspCatalog.participantId).Nodup ↔
    DistinctLabels allowed catalogs
  recovers : (∀ catalog ∈ visibleNodes allowed catalogs,
    datasetsUnder document (participantIdOf catalog) = servedDatasets allowed catalog) ↔
      DistinctLabels allowed catalogs

theorem entries_labels {allowed : Option (Finset String)} {catalogs : List Catalog}
    {entries : List DspCatalog} (carried : List.Forall₂ (CarriesEntry allowed) catalogs entries) :
    entries.map DspCatalog.participantId = catalogs.map participantIdOf :=
  map_eq_of_forall₂ DspCatalog.participantId participantIdOf
    (fun _ _ carries => carries.participantId) carried

theorem entries_gather {allowed : Option (Finset String)} {catalogs : List Catalog}
    {entries : List DspCatalog} (carried : List.Forall₂ (CarriesEntry allowed) catalogs entries)
    (name : String) :
    gather DspCatalog.participantId (fun entry => entry.dataset.map DspDataset.read) entries name =
      gather participantIdOf (servedDatasets allowed) catalogs name := by
  induction carried with
  | nil => rfl
  | cons carries _ inductionHypothesis =>
      rw [gather_cons, gather_cons, inductionHypothesis, carries.participantId, carries.read_eq]
      rfl

theorem Serves.attributes {allowed : Option (Finset String)} {catalogs : List Catalog}
    {document : DspCatalog} (serves : Serves allowed catalogs document)
    (many : 2 ≤ catalogs.length) (distinct : catalogs.Nodup) :
    Attributes allowed catalogs document := by
  cases serves with
  | flat few _ => omega
  | federation _ _ _ _ _ _ entries =>
      have under : ∀ name, datasetsUnder document name =
          gather participantIdOf (servedDatasets allowed) (visibleNodes allowed catalogs) name :=
        entries_gather entries
      have filled : ∀ catalog ∈ visibleNodes allowed catalogs,
          servedDatasets allowed catalog ≠ [] := by
        intro catalog membership empty
        have visible : Visible allowed catalog :=
          of_decide_eq_true (List.mem_filter.mp membership).2
        exact visible (List.map_eq_nil_iff.mp empty)
      have labels : document.catalog.map DspCatalog.participantId =
          (visibleNodes allowed catalogs).map participantIdOf := entries_labels entries
      refine ⟨labels, under, ?_, ?_⟩
      · rw [labels]
        rfl
      · simp only [under]
        exact gather_each_iff (distinct.filter _) filled

/-- A federation attributes datasets to the names its nodes go by. -/
theorem catalog_request_attributes {platform : Platform} (state : AppState platform)
    (headers : Headers) (http : Dcp.Http) (now : Seconds) (jti : String)
    {allowed : Option (Finset String)}
    (entitled : Entitled state.dspAuth headers http now jti allowed) {catalogs : List Catalog}
    (found : state.cache.query .all = .ok catalogs) (many : 2 ≤ catalogs.length) :
    Supply.Gives (catalogRequest state headers http now jti)
      (Answered (Attributes allowed catalogs)) := by
  refine (catalogRequest_served state headers http now jti entitled found).mono ?_
  rintro response ⟨document, rfl, serves⟩
  exact ⟨document, rfl, serves.attributes many (state.cache.listing found).1.nodup⟩

theorem distinctLabels_of_unclaimed {content : CatalogMap} {catalogs : List Catalog}
    (listed : Enumerates Catalog.originNode content catalogs)
    (unclaimed : ∀ catalog ∈ catalogs, catalog.participantId = none)
    (allowed : Option (Finset String)) : DistinctLabels allowed catalogs := by
  have labels : (visibleNodes allowed catalogs).map participantIdOf =
      ((visibleNodes allowed catalogs).map Catalog.originNode).map NodeId.value := by
    rw [List.map_map]
    apply List.map_congr_left
    intro catalog membership
    rw [participantIdOf, unclaimed catalog (List.mem_filter.mp membership).1]
    rfl
  have nodes : ((visibleNodes allowed catalogs).map Catalog.originNode).Nodup :=
    listed.distinct.sublist (List.filter_sublist.map Catalog.originNode)
  unfold DistinctLabels
  rw [labels]
  apply nodes.map
  rintro ⟨first⟩ ⟨second⟩ same
  cases same
  rfl

/-- What a broker of this product serves while its only node offers one dataset. -/
def brokerDocument (id dataset : String) : DspCatalog where
  context := [dspContextUrl]
  id := id
  ldType := "Catalog"
  participantId := connectorParticipantId
  dataset := [DspDataset.withOffer ⟨dataset, SortedMap.empty, []⟩ (.placeholder "urn:uuid:offer")]
  service := []
  catalog := []

theorem brokerDocument_plain (id dataset : String) :
    (brokerDocument id dataset).toValue.PlainWithin 127 := by
  have carries : Carries connectorParticipantId [⟨dataset, SortedMap.empty, []⟩] []
      (brokerDocument id dataset) :=
    ⟨rfl, rfl, rfl, .cons ⟨_, rfl⟩ .nil, rfl, rfl⟩
  exact carries.plainWithin 120

def brokersAsked : CrawlWorld := .answering .reference fun url =>
  if url = (participantAt "north").catalogRequestUrl then
    (brokerDocument "urn:uuid:1" "ice").toValue
  else (brokerDocument "urn:uuid:2" "sand").toValue

def northBroker : Catalog :=
  parseCatalogResponse (brokerDocument "urn:uuid:1" "ice").toValue (participantAt "north") ""

def southBroker : Catalog :=
  parseCatalogResponse (brokerDocument "urn:uuid:2" "sand").toValue (participantAt "south") ""

theorem brokers_crawled (holder : Option (HolderIdentity .reference)) :
    crawlOnce holder [participantAt "north", participantAt "south"]
        (fun _ => brokersAsked.inMemory) (AtomicCache.memory.holding []) =
      (⟨2, 2, 0, []⟩, AtomicCache.memory.holding [northBroker, southBroker]) := by
  have north : crawlOne brokersAsked (participantAt "north") holder = .ok northBroker := by
    unfold brokersAsked
    rw [crawlOne_answering holder rfl]
    · rw [if_pos rfl]
      rfl
    · rw [if_pos rfl]
      exact brokerDocument_plain "urn:uuid:1" "ice"
  have elsewhere : (participantAt "south").catalogRequestUrl ≠
      (participantAt "north").catalogRequestUrl := by
    decide
  have south : crawlOne brokersAsked (participantAt "south") holder = .ok southBroker := by
    unfold brokersAsked
    rw [crawlOne_answering holder rfl]
    · rw [if_neg elsewhere]
      rfl
    · rw [if_neg elsewhere]
      exact brokerDocument_plain "urn:uuid:2" "sand"
  rw [crawlOnce, crawlFrom_cons, Visit.make_inMemory _ _ north, crawlFrom_cons,
    Visit.make_inMemory _ _ south]
  rfl

/-- Two brokers of this product answer to one name, which tells their datasets apart no more. -/
theorem brokers_share_one_label :
    (crawlOnce (none : Option (HolderIdentity .reference))
        [participantAt "north", participantAt "south"]
        (fun _ => brokersAsked.inMemory) (AtomicCache.memory.holding [])).2 =
      AtomicCache.memory.holding [northBroker, southBroker] ∧
    Supply.Gives
      (catalogRequest (AppState.withoutAuth .reference (.holding [northBroker, southBroker]))
        ⟨none⟩ .offline 0 "t3")
      (Answered fun document =>
        document.catalog.map DspCatalog.participantId =
            [connectorParticipantId, connectorParticipantId] ∧
          (datasetsUnder document connectorParticipantId).map Dataset.id = ["ice", "sand"]) := by
  refine ⟨congrArg Prod.snd (brokers_crawled none), ?_⟩
  have found : (CacheView.holding [northBroker, southBroker]).query .all =
      .ok [northBroker, southBroker] := by
    decide +kernel
  refine (catalogRequest_served (AppState.withoutAuth .reference _) ⟨none⟩ .offline 0 "t3"
    (.disabled rfl) found).mono ?_
  rintro response ⟨document, rfl, serves⟩
  refine ⟨document, rfl, ?_⟩
  have attributes := serves.attributes (by decide) (by decide +kernel)
  dsimp only
  rw [attributes.labels, attributes.under]
  decide +kernel

theorem two_nodes_are_told_apart :
    Supply.Gives
      (catalogRequest (AppState.withoutAuth .reference
        (.holding [offering "north" "ice", offering "south" "sand"])) ⟨none⟩ .offline 0 "t3")
      (Answered (Attributes none [offering "north" "ice", offering "south" "sand"])) :=
  catalog_request_attributes _ ⟨none⟩ .offline 0 "t3" (.disabled rfl) (by decide +kernel)
    (by decide)

end FederatedCatalog.Http
