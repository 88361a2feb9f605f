import FederatedCatalog.Http.RoundTrip
import Mathlib.Data.List.Flatten

/-!
# The services a crawler reads from a broker

The crawler keeps the first service of each id, so with distinct ids it takes
every served service.  Served are those of a lone node, and in a federation
those of the nodes that advertise a dataset.
-/

namespace FederatedCatalog.Http

open Foundation Json FederatedCatalog.Core Dcp Store Crawler

def DspDataService.read (service : DspDataService) : DataService :=
  ⟨service.id, service.endpointUrl, none⟩

/-- The ids of the services read so far and of those still to come are distinct. -/
def FreshServices (catalog : Catalog) (services : List DspDataService) : Prop :=
  (catalog.dataServices.map DataService.id ++ services.map DspDataService.id).Nodup

theorem itemsOf_service (document : DspCatalog) :
    itemsOf document.toValue "service" = document.service.map DspDataService.toValue := by
  rcases document with ⟨context, id, ldType, participantId, dataset, service, catalog⟩
  simp [DspCatalog.toValue, itemsOf, contextMember, List.lookup_cons]

theorem parseDataService_toValue (service : DspDataService) :
    parseDataService service.toValue = some service.read := by
  simp [parseDataService, idOf, textOf, DspDataService.toValue, List.lookup_cons,
    DspDataService.read]

theorem nestedService_toValue (distribution : DspDistribution) :
    nestedService distribution.toValue = none := by
  simp [nestedService, DspDistribution.toValue, List.lookup_cons]

theorem serviceEntries_toValue (document : DspCatalog) :
    serviceEntries document.toValue = document.service.map DspDataService.toValue := by
  have named : (keptDistributions document.toValue).filterMap nestedService = [] := by
    rw [List.filterMap_eq_nil_iff]
    intro distribution membership
    obtain ⟨entry, listed, _, occurs⟩ := mem_keptDistributions.mp membership
    rw [itemsOf_dataset] at listed
    obtain ⟨dataset, _, rfl⟩ := List.mem_map.mp listed
    rw [itemsOf_distribution] at occurs
    obtain ⟨own, _, rfl⟩ := List.mem_map.mp occurs
    exact nestedService_toValue own
  rw [serviceEntries, named, itemsOf_service, List.append_nil]

theorem collect_services {document : DspCatalog}
    (flat : ∀ entry ∈ document.catalog, entry.catalog = []) {catalog : Catalog}
    (fresh : FreshServices catalog ((document :: document.catalog).flatMap DspCatalog.service)) :
    (collectDatasetsAndServices document.toValue catalog).dataServices =
      catalog.dataServices ++
        ((document :: document.catalog).flatMap DspCatalog.service).map DspDataService.read := by
  have described : (describedServices document.toValue).filterMap parseDataService =
      ((document :: document.catalog).flatMap DspCatalog.service).map DspDataService.read := by
    rw [describedServices, levels_toValue flat, List.flatMap_map]
    simp only [serviceEntries_toValue]
    rw [← List.map_flatMap, List.filterMap_map]
    simp [parseDataService_toValue]
  rw [collectDatasetsAndServices_withEntries, withEntries, described]
  apply foldl_addNew_of_nodup
  unfold FreshServices at fresh
  simpa [Function.comp_def, DspDataService.read] using fresh

/-- The nodes whose services a broker serves to a caller who sees everything. -/
def advertisers (catalogs : List Catalog) : List Catalog :=
  if catalogs.length ≤ 1 then catalogs else catalogs.filter fun catalog => catalog.datasets ≠ []

theorem advertisers_sublist (catalogs : List Catalog) :
    ((advertisers catalogs).flatMap Catalog.dataServices).Sublist
      (catalogs.flatMap Catalog.dataServices) := by
  unfold advertisers
  split
  · exact .refl _
  · exact List.filter_sublist.flatMap Catalog.dataServices

theorem entries_services {allowed : Option (Finset String)} {catalogs : List Catalog}
    {entries : List DspCatalog} (carried : List.Forall₂ (CarriesEntry allowed) catalogs entries) :
    entries.flatMap DspCatalog.service =
      (catalogs.flatMap Catalog.dataServices).map DspDataService.ofDataService := by
  induction carried with
  | nil => rfl
  | cons carries _ inductionHypothesis =>
      rw [List.flatMap_cons, List.flatMap_cons, List.map_append, carries.service,
        inductionHypothesis]

theorem fresh_new {services : List DataService}
    (distinct : (services.map DataService.id).Nodup) (participant : ParticipantEntry)
    (id : String) (participantId : Option String) :
    FreshServices { Catalog.new id ⟨participant.id⟩ with participantId := participantId }
      (services.map DspDataService.ofDataService) := by
  unfold FreshServices
  simpa [Catalog.new, Function.comp_def, DspDataService.ofDataService] using distinct

theorem Serves.readServices {catalogs : List Catalog} {document : DspCatalog}
    (serves : Serves none catalogs document)
    (distinct : ((catalogs.flatMap Catalog.dataServices).map DataService.id).Nodup)
    (participant : ParticipantEntry) (freshId : String) :
    (parseCatalogResponse document.toValue participant freshId).dataServices =
      ((advertisers catalogs).flatMap Catalog.dataServices).map fun service =>
        (DspDataService.ofDataService service).read := by
  have served := distinct.sublist ((advertisers_sublist catalogs).map DataService.id)
  have fresh := fresh_new served participant ((textOf document.toValue "@id").getD
    ("urn:uuid:" ++ freshId)) (textOf document.toValue "participantId")
  unfold parseCatalogResponse
  cases serves with
  | flat few carries =>
      have services : (document :: document.catalog).flatMap DspCatalog.service =
          (catalogs.flatMap Catalog.dataServices).map DspDataService.ofDataService := by
        rw [carries.catalog, List.flatMap_singleton, carries.service]
      rw [advertisers, if_pos few] at fresh ⊢
      rw [collect_services (by simp [carries.catalog]) (services ▸ fresh), services, List.map_map]
      rfl
  | federation many _ _ _ _ service entries =>
      have all : advertisers catalogs =
          catalogs.filter fun catalog => Visible none catalog := by
        rw [advertisers, if_neg (by omega)]
        rfl
      have services : (document :: document.catalog).flatMap DspCatalog.service =
          ((advertisers catalogs).flatMap Catalog.dataServices).map
            DspDataService.ofDataService := by
        rw [List.flatMap_cons, service, List.nil_append, entries_services entries, all]
      rw [collect_services (read_entries entries).2 (services ▸ fresh), services, List.map_map]
      rfl

variable {platform : Platform} (state : AppState platform) (headers : Headers)
  (http : Dcp.Http) (now : Seconds) (jti : String)

/-- Crawling an open broker finds the services of its advertisers, ids and endpoints unchanged. -/
theorem crawled_broker_keeps_advertised_services (opened : state.dspAuth.mode = .disabled)
    {catalogs : List Catalog} (found : state.cache.query .all = .ok catalogs)
    (distinct : ((catalogs.flatMap Catalog.dataServices).map DataService.id).Nodup) :
    Supply.Gives (catalogRequest state headers http now jti) (Answered fun document =>
      ∀ participant freshId,
        (parseCatalogResponse document.toValue participant freshId).dataServices.map
            lookOfService =
          ((advertisers catalogs).flatMap Catalog.dataServices).map lookOfService) := by
  refine (catalogRequest_served state headers http now jti (.disabled opened) found).mono ?_
  rintro response ⟨document, rfl, serves⟩
  refine ⟨document, rfl, ?_⟩
  intro participant freshId
  rw [serves.readServices distinct, List.map_map]
  rfl

/-- A node with a described service of its own, whether or not it offers a dataset. -/
def serving (catalog : Catalog) : Catalog :=
  { catalog with
    dataServices := [⟨"service-of-" ++ catalog.originNode.value,
      "https://" ++ catalog.originNode.value ++ ".example/dsp", some "dspace:connector"⟩] }

def northServing : Catalog := serving (offering "north" "ice")

/-- This node has nothing to offer at the moment. -/
def idleSouth : Catalog := serving (Catalog.new "catalog-of-south" ⟨"south"⟩)

def southServing : Catalog := serving (offering "south" "sand")

theorem north_and_south_keep_their_services :
    Supply.Gives
      (catalogRequest (AppState.withoutAuth .reference (.holding [southServing, northServing]))
        ⟨none⟩ .offline 0 "t3")
      (Answered fun document => ∀ participant freshId,
        (parseCatalogResponse document.toValue participant freshId).dataServices.map
            lookOfService =
          [("service-of-north", "https://north.example/dsp"),
            ("service-of-south", "https://south.example/dsp")]) := by
  have found : (CacheView.holding [southServing, northServing]).query .all =
      .ok [northServing, southServing] := by
    decide +kernel
  have distinct : (([northServing, southServing].flatMap Catalog.dataServices).map
      DataService.id).Nodup := by
    decide
  exact crawled_broker_keeps_advertised_services _ ⟨none⟩ .offline 0 "t3" rfl found distinct

/-- Next to another node, an idle node's service is not served, and what is served has lost its
description. -/
theorem idle_service_is_lost :
    ((CacheView.holding [northServing, idleSouth]).query .all = .ok [northServing, idleSouth] ∧
      (([northServing, idleSouth].flatMap Catalog.dataServices).map DataService.id).Nodup) ∧
    Supply.Gives
      (catalogRequest (AppState.withoutAuth .reference (.holding [northServing, idleSouth]))
        ⟨none⟩ .offline 0 "t3")
      (Answered fun document => ∀ participant freshId,
        (parseCatalogResponse document.toValue participant freshId).dataServices =
            [⟨"service-of-north", "https://north.example/dsp", none⟩] ∧
          (parseCatalogResponse document.toValue participant freshId).dataServices ≠
            [northServing, idleSouth].flatMap Catalog.dataServices) := by
  have found : (CacheView.holding [northServing, idleSouth]).query .all =
      .ok [northServing, idleSouth] := by
    decide +kernel
  have distinct :
      (([northServing, idleSouth].flatMap Catalog.dataServices).map DataService.id).Nodup := by
    decide
  refine ⟨⟨found, distinct⟩, ?_⟩
  refine (catalogRequest_served (AppState.withoutAuth .reference _) ⟨none⟩ .offline 0 "t3"
    (.disabled rfl) found).mono ?_
  rintro response ⟨document, rfl, serves⟩
  refine ⟨document, rfl, ?_⟩
  intro participant freshId
  rw [serves.readServices distinct]
  decide +kernel

end FederatedCatalog.Http
