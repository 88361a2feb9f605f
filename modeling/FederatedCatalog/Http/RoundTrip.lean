import FederatedCatalog.Crawler.Inventory
import FederatedCatalog.Http.Served
import FederatedCatalog.Store.Refinement

/-!
# A crawler reads what a broker serves

The crawler's reader takes exactly the granted datasets from either shape of
the served document, so crawling a broker that cached the result finds them
again.
-/

namespace FederatedCatalog.Http

open Foundation Json FederatedCatalog.Core Dcp Store Crawler

def DspDistribution.read (distribution : DspDistribution) : Distribution :=
  ⟨distribution.format, distribution.accessService⟩

def DspDataset.read (dataset : DspDataset) : Dataset where
  id := dataset.id
  properties := SortedMap.empty
  distributions := dataset.distribution.map DspDistribution.read

/-- A dataset as far as it is served. -/
def bare (dataset : Dataset) : Dataset := { dataset with properties := SortedMap.empty }

def lookOfService (service : DataService) : String × String := (service.id, service.endpointUrl)

theorem Renders.read_eq {dataset : Dataset} {document : DspDataset}
    (renders : Renders dataset document) : document.read = bare dataset := by
  obtain ⟨id, rfl⟩ := renders
  simp [DspDataset.read, DspDataset.withOffer, bare, Function.comp_def, DspDistribution.read,
    DspDistribution.ofDistribution]

theorem distributionOf_toValue (distribution : DspDistribution) :
    distributionOf distribution.toValue = distribution.read := by
  simp [distributionOf, accessServiceOf, DspDistribution.toValue, textOf, List.lookup_cons,
    DspDistribution.read]

theorem itemsOf_distribution (dataset : DspDataset) :
    itemsOf dataset.toValue "distribution" = dataset.distribution.map DspDistribution.toValue := by
  cases context : dataset.context <;>
    simp [itemsOf, DspDataset.toValue, context, contextMember, List.lookup_cons]

theorem datasetOf_toValue (dataset : DspDataset) :
    datasetOf dataset.toValue = some dataset.read := by
  have id : idOf dataset.toValue = some dataset.id := by
    cases context : dataset.context <;>
      simp [idOf, DspDataset.toValue, context, contextMember, List.lookup_cons]
  refine datasetOf_eq_some.mpr ⟨dataset.id, id, ?_⟩
  rw [itemsOf_distribution, List.map_map]
  simp [DspDataset.read, Function.comp_def, distributionOf_toValue]

theorem itemsOf_dataset (document : DspCatalog) :
    itemsOf document.toValue "dataset" = document.dataset.map DspDataset.toValue := by
  rcases document with ⟨context, id, ldType, participantId, dataset, service, catalog⟩
  simp [DspCatalog.toValue, itemsOf, contextMember, List.lookup_cons]

theorem itemsOf_catalog (document : DspCatalog) :
    itemsOf document.toValue "catalog" = document.catalog.map DspCatalog.toValue := by
  rw [itemsOf, get_catalog_toValue]
  split
  · next none => simp [none]
  · rfl

theorem listedDatasets_toValue (document : DspCatalog) :
    listedDatasets document.toValue = document.dataset.map DspDataset.read := by
  rw [listedDatasets, itemsOf_dataset, List.filterMap_map]
  simp [datasetOf_toValue]

theorem levels_toValue {document : DspCatalog}
    (flat : ∀ entry ∈ document.catalog, entry.catalog = []) :
    levels document.toValue = (document :: document.catalog).map DspCatalog.toValue := by
  have single : ∀ entry ∈ document.catalog, levels entry.toValue = [entry.toValue] := by
    intro entry membership
    rw [levels_eq, itemsOf_catalog, flat entry membership]
    rfl
  rw [levels_eq, itemsOf_catalog, List.flatMap_map, List.flatMap_congr single, List.map_cons,
    List.map_eq_flatMap]

theorem read_datasets {document : DspCatalog}
    (flat : ∀ entry ∈ document.catalog, entry.catalog = []) (participant : ParticipantEntry)
    (freshId : String) :
    (parseCatalogResponse document.toValue participant freshId).datasets =
      (document :: document.catalog).flatMap fun level => level.dataset.map DspDataset.read := by
  rw [parseCatalogResponse_datasets, levels_toValue flat, List.flatMap_map]
  simp only [listedDatasets_toValue]

/-- The datasets that a caller is served, in the order of the catalogs. -/
def grantedDatasets (allowed : Option (Finset String)) (catalogs : List Catalog) : List Dataset :=
  catalogs.flatMap fun catalog => visibleDatasets allowed catalog.datasets

theorem Carries.read_eq {participantId : String} {datasets : List Dataset}
    {services : List DataService} {document : DspCatalog}
    (carries : Carries participantId datasets services document) :
    document.dataset.map DspDataset.read = datasets.map bare :=
  map_eq_of_forall₂ DspDataset.read bare (fun _ _ => Renders.read_eq) carries.dataset

theorem read_entries {allowed : Option (Finset String)} {catalogs : List Catalog}
    {entries : List DspCatalog} (carried : List.Forall₂ (CarriesEntry allowed) catalogs entries) :
    (entries.flatMap fun entry => entry.dataset.map DspDataset.read) =
        (grantedDatasets allowed catalogs).map bare ∧
      ∀ entry ∈ entries, entry.catalog = [] := by
  unfold grantedDatasets
  induction carried with
  | nil => exact ⟨rfl, by simp⟩
  | cons carries _ inductionHypothesis =>
      constructor
      · rw [List.flatMap_cons, List.flatMap_cons, List.map_append, carries.read_eq,
          inductionHypothesis.1]
      · intro entry membership
        rcases List.mem_cons.mp membership with rfl | later
        · exact carries.catalog
        · exact inductionHypothesis.2 entry later

theorem grantedDatasets_filter (allowed : Option (Finset String)) (catalogs : List Catalog) :
    grantedDatasets allowed (catalogs.filter fun catalog => Visible allowed catalog) =
      grantedDatasets allowed catalogs := by
  unfold grantedDatasets
  induction catalogs with
  | nil => rfl
  | cons catalog rest inductionHypothesis =>
      by_cases visible : Visible allowed catalog
      · rw [List.filter_cons_of_pos (by simpa using visible), List.flatMap_cons, List.flatMap_cons,
          inductionHypothesis]
      · rw [List.filter_cons_of_neg (by simpa using visible), List.flatMap_cons,
          inductionHypothesis]
        have hidden : visibleDatasets allowed catalog.datasets = [] := by
          simpa [Visible] using visible
        rw [hidden, List.nil_append]

theorem Serves.read {allowed : Option (Finset String)} {catalogs : List Catalog}
    {document : DspCatalog} (serves : Serves allowed catalogs document)
    (participant : ParticipantEntry) (freshId : String) :
    (parseCatalogResponse document.toValue participant freshId).datasets =
      (grantedDatasets allowed catalogs).map bare := by
  cases serves with
  | flat _ carries =>
      rw [read_datasets (by simp [carries.catalog]), carries.catalog, List.flatMap_singleton,
        carries.read_eq]
      rfl
  | federation _ _ _ _ dataset _ entries =>
      obtain ⟨read, flat⟩ := read_entries entries
      rw [read_datasets flat, List.flatMap_cons, dataset, read, grantedDatasets_filter]
      rfl

theorem DspDataset.plainWithin_toValue {dataset : Dataset} {document : DspDataset}
    (renders : Renders dataset document) (depth : Nat) :
    document.toValue.PlainWithin (depth + 5) := by
  obtain ⟨id, rfl⟩ := renders
  simp [DspDataset.toValue, DspDataset.withOffer, DspOffer.toValue, DspOffer.placeholder,
    DspPermission.toValue, DspDistribution.toValue]

theorem plainWithin_renderings {datasets : List Dataset} {documents : List DspDataset}
    (rendered : List.Forall₂ Renders datasets documents) (depth : Nat) :
    ∀ document ∈ documents, document.toValue.PlainWithin (depth + 5) := by
  induction rendered with
  | nil => simp
  | cons renders _ inductionHypothesis =>
      intro document membership
      rcases List.mem_cons.mp membership with rfl | later
      · exact DspDataset.plainWithin_toValue renders depth
      · exact inductionHypothesis document later

theorem DspDataService.plainWithin_toValue (service : DspDataService) (depth : Nat) :
    service.toValue.PlainWithin (depth + 1) := by
  simp [DspDataService.toValue]

/-- A document nests two levels deeper than its datasets and its nested entries. -/
theorem DspCatalog.plainWithin_toValue (document : DspCatalog) (depth : Nat)
    (datasets : ∀ dataset ∈ document.dataset, dataset.toValue.PlainWithin (depth + 1))
    (entries : ∀ entry ∈ document.catalog, entry.toValue.PlainWithin (depth + 1)) :
    document.toValue.PlainWithin (depth + 3) := by
  rcases document with ⟨context, id, ldType, participantId, dataset, service, catalog⟩
  simp only at datasets entries
  have contextValues : (Value.array (context.map Value.string)).PlainWithin (depth + 2) := by
    intro value membership
    rcases List.mem_map.mp membership with ⟨text, _, rfl⟩
    exact Value.plainWithin_string _ text
  have datasetValues : (Value.array (dataset.map DspDataset.toValue)).PlainWithin (depth + 2) := by
    intro value membership
    rcases List.mem_map.mp membership with ⟨dataset, listed, rfl⟩
    exact datasets dataset listed
  have serviceValues :
      (Value.array (service.map DspDataService.toValue)).PlainWithin (depth + 2) := by
    intro value membership
    rcases List.mem_map.mp membership with ⟨service, _, rfl⟩
    exact service.plainWithin_toValue depth
  have entryValues : (Value.array (catalog.map DspCatalog.toValue)).PlainWithin (depth + 2) := by
    intro value membership
    rcases List.mem_map.mp membership with ⟨entry, listed, rfl⟩
    exact entries entry listed
  rw [DspCatalog.toValue, Value.plainWithin_object, DspCatalog.toValues_eq]
  constructor
  · cases catalog <;> simp [contextMember]
  · intro member membership
    rcases List.mem_append.mp membership with own | nested
    · simp only [List.mem_cons, List.not_mem_nil, or_false] at own
      rcases own with rfl | rfl | rfl | rfl | rfl | rfl
      · exact contextValues
      · exact Value.plainWithin_string _ id
      · exact Value.plainWithin_string _ ldType
      · exact Value.plainWithin_string _ participantId
      · exact datasetValues
      · exact serviceValues
    · split at nested
      · cases nested
      · rcases List.mem_singleton.mp nested with rfl
        exact entryValues

theorem Carries.plainWithin {participantId : String} {datasets : List Dataset}
    {services : List DataService} {document : DspCatalog}
    (carries : Carries participantId datasets services document) (depth : Nat) :
    document.toValue.PlainWithin (depth + 7) := by
  apply document.plainWithin_toValue (depth + 4) (plainWithin_renderings carries.dataset depth)
  intro entry nested
  rw [carries.catalog] at nested
  cases nested

theorem plainWithin_entries {allowed : Option (Finset String)} {catalogs : List Catalog}
    {entries : List DspCatalog} (carried : List.Forall₂ (CarriesEntry allowed) catalogs entries)
    (depth : Nat) : ∀ entry ∈ entries, entry.toValue.PlainWithin (depth + 7) := by
  induction carried with
  | nil => simp
  | cons carries _ inductionHypothesis =>
      intro entry membership
      rcases List.mem_cons.mp membership with rfl | later
      · exact carries.plainWithin depth
      · exact inductionHypothesis entry later

theorem Serves.plainWithin {allowed : Option (Finset String)} {catalogs : List Catalog}
    {document : DspCatalog} (serves : Serves allowed catalogs document) :
    document.toValue.PlainWithin 127 := by
  cases serves with
  | flat _ carries => exact carries.plainWithin 120
  | federation _ _ _ _ dataset _ entries =>
      refine document.plainWithin_toValue 124 ?_ (plainWithin_entries entries 118)
      intro other listed
      rw [dataset] at listed
      cases listed

theorem Serves.fromSlice {allowed : Option (Finset String)} {catalogs : List Catalog}
    {document : DspCatalog} (serves : Serves allowed catalogs document) (format : TextFormat) :
    format.fromSlice (utf8 (format.print document.toValue)) = .ok document.toValue :=
  format.fromSlice_print _ serves.plainWithin

/-- What a crawler makes of a document, and what is made of that again. -/
structure ReadsGranted (platform : Platform) (allowed : Option (Finset String))
    (catalogs : List Catalog) (document : DspCatalog) : Prop where
  sent : platform.json.fromSlice (utf8 (platform.json.print document.toValue)) =
    .ok document.toValue
  datasets : ∀ participant freshId,
    (parseCatalogResponse document.toValue participant freshId).datasets =
      (grantedDatasets allowed catalogs).map bare
  /-- A broker with the result as its only node serves the same datasets on, as far as its
  own callers may see them. -/
  onwards : ∀ participant freshId (broker : AppState platform),
    broker.cache.content = KeyedMap.store Catalog.originNode (fun _ => none)
      (parseCatalogResponse document.toValue participant freshId) →
    ∀ headers http now jti further listed,
      Entitled broker.dspAuth headers http now jti further →
      broker.cache.query .all = .ok listed →
      Supply.Gives (catalogRequest broker headers http now jti) (Answered fun served =>
        ∀ crawled drawn, (parseCatalogResponse served.toValue crawled drawn).datasets =
          visibleDatasets further ((grantedDatasets allowed catalogs).map bare))

theorem visibleDatasets_map_bare (allowed : Option (Finset String)) (datasets : List Dataset) :
    visibleDatasets allowed (datasets.map bare) = (visibleDatasets allowed datasets).map bare := by
  simp only [visibleDatasets_eq_filter]
  exact List.filter_map

theorem Serves.readsGranted {platform : Platform} {allowed : Option (Finset String)}
    {catalogs : List Catalog} {document : DspCatalog} (serves : Serves allowed catalogs document) :
    ReadsGranted platform allowed catalogs document where
  sent := serves.fromSlice platform.json
  datasets := serves.read
  onwards := by
    intro participant freshId broker only headers http now jti further listed entitled found
    have enumerates := (broker.cache.listing found).1
    rw [only] at enumerates
    rw [enumerates.eq_singleton] at found
    refine (catalogRequest_served broker headers http now jti entitled found).mono ?_
    rintro response ⟨served, rfl, servesAgain⟩
    refine ⟨served, rfl, ?_⟩
    intro crawled drawn
    rw [servesAgain.read, grantedDatasets, List.flatMap_singleton, serves.read,
      visibleDatasets_map_bare, List.map_map]
    rfl

/-- Crawling a broker loses, adds and changes no granted dataset. -/
theorem crawled_broker_keeps_granted_datasets {platform : Platform} (state : AppState platform)
    (headers : Headers) (http : Dcp.Http) (now : Seconds) (jti : String)
    {allowed : Option (Finset String)} {catalogs : List Catalog}
    (entitled : Entitled state.dspAuth headers http now jti allowed)
    (found : state.cache.query .all = .ok catalogs) :
    Supply.Gives (catalogRequest state headers http now jti)
      (Answered (ReadsGranted platform allowed catalogs)) := by
  refine (catalogRequest_served state headers http now jti entitled found).mono ?_
  rintro response ⟨document, rfl, serves⟩
  exact ⟨document, rfl, serves.readsGranted⟩

def offering (node dataset : String) : Catalog :=
  { Catalog.new ("catalog-of-" ++ node) ⟨node⟩ with
    datasets := [⟨dataset, SortedMap.empty, [⟨"HttpData-PULL", "service-of-" ++ node⟩]⟩] }

theorem crawled_federation_keeps_both_datasets :
    Supply.Gives
      (catalogRequest (AppState.withoutAuth .reference
        (.holding [offering "north" "ice", offering "south" "sand"])) ⟨none⟩ .offline 0 "t3")
      (Answered (ReadsGranted .reference none
        [offering "north" "ice", offering "south" "sand"])) :=
  crawled_broker_keeps_granted_datasets _ ⟨none⟩ .offline 0 "t3" (.disabled rfl)
    (by decide +kernel)

end FederatedCatalog.Http
