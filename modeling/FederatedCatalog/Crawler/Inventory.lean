import FederatedCatalog.Crawler.Parse

/-!
# What a response describes

A response and the catalogs nested in it are levels, read one after the other.
Each level describes datasets and services, and the parsed catalog is the list
of all its levels' datasets next to the first service of every id.
-/

namespace FederatedCatalog.Crawler

open Foundation Json FederatedCatalog.Core

/-- The catalogs of a response, each before those nested in it. -/
def levels (value : Value) : List Value := catalogTree.preOrder value

theorem levels_eq (value : Value) :
    levels value = value :: (itemsOf value "catalog").flatMap levels :=
  catalogTree.preOrder_eq value

def accessServiceOf (distribution : Value) : String :=
  match distribution.get "accessService" with
  | some (.string id) => id
  | some (.object members) => (idOf (.object members)).getD ""
  | _ => ""

def distributionOf (value : Value) : Distribution where
  format := (textOf value "format").getD ""
  accessService := accessServiceOf value

/-- A dataset entry, if its id is usable. -/
def datasetOf (value : Value) : Option Dataset := do
  let id ← idOf value
  return {
    id
    properties := SortedMap.empty
    distributions := (itemsOf value "distribution").map distributionOf }

theorem datasetOf_eq_some {value : Value} {dataset : Dataset} :
    datasetOf value = some dataset ↔ ∃ id, idOf value = some id ∧
      ⟨id, SortedMap.empty, (itemsOf value "distribution").map distributionOf⟩ = dataset := by
  unfold datasetOf
  cases idOf value <;> simp

def listedDatasets (level : Value) : List Dataset := (itemsOf level "dataset").filterMap datasetOf

def nestedService (distribution : Value) : Option Value :=
  match distribution.get "accessService" with
  | some (.object members) => some (.object members)
  | _ => none

def keptDistributions (level : Value) : List Value :=
  ((itemsOf level "dataset").filter fun dataset => (idOf dataset).isSome).flatMap fun dataset =>
    itemsOf dataset "distribution"

def serviceEntries (level : Value) : List Value :=
  itemsOf level "service" ++ (keptDistributions level).filterMap nestedService

/-- The descriptions of services in a response, in reading order. -/
def describedServices (value : Value) : List Value := (levels value).flatMap serviceEntries

/-- A catalog with more datasets, and the services of `entries` whose ids are new. -/
def withEntries (catalog : Catalog) (datasets : List Dataset) (entries : List Value) : Catalog :=
  { catalog with
    datasets := catalog.datasets ++ datasets
    dataServices := (entries.filterMap parseDataService).foldl (addNew DataService.id)
      catalog.dataServices }

@[simp]
theorem withEntries_nil (catalog : Catalog) : withEntries catalog [] [] = catalog := by
  simp [withEntries]

theorem withEntries_withEntries (catalog : Catalog) (datasets others : List Dataset)
    (entries further : List Value) :
    withEntries (withEntries catalog datasets entries) others further =
      withEntries catalog (datasets ++ others) (entries ++ further) := by
  simp [withEntries, List.foldl_append]

theorem foldl_withEntries {step : Catalog → Value → Catalog} {datasets : Value → List Dataset}
    {entries : Value → List Value}
    (takes : ∀ catalog value, step catalog value =
      withEntries catalog (datasets value) (entries value))
    (items : List Value) (catalog : Catalog) :
    items.foldl step catalog =
      withEntries catalog (items.flatMap datasets) (items.flatMap entries) := by
  induction items generalizing catalog with
  | nil => simp
  | cons item rest inductionHypothesis =>
      rw [List.foldl_cons, inductionHypothesis, takes, withEntries_withEntries]
      rfl

theorem collectService_eq (catalog : Catalog) (value : Value) :
    collectService catalog value = withEntries catalog [] [value] := by
  unfold collectService withEntries
  cases described : parseDataService value with
  | none => simp [described]
  | some service =>
      simp only [List.filterMap_cons, described, List.filterMap_nil, List.foldl_cons,
        List.foldl_nil, List.append_nil, addNew]
      split <;> rfl

theorem collectDistribution_eq (catalog : Catalog) (distributions : List Distribution)
    (value : Value) :
    collectDistribution (catalog, distributions) value =
      (withEntries catalog [] (nestedService value).toList,
        distributions ++ [distributionOf value]) := by
  unfold collectDistribution nestedService distributionOf accessServiceOf
  cases value.get "accessService" with
  | none => simp
  | some service => cases service <;> simp [collectService_eq]

theorem collectDistributions_eq (values : List Value) (catalog : Catalog)
    (distributions : List Distribution) :
    values.foldl collectDistribution (catalog, distributions) =
      (withEntries catalog [] (values.filterMap nestedService),
        distributions ++ values.map distributionOf) := by
  induction values generalizing catalog distributions with
  | nil => simp
  | cons value rest inductionHypothesis =>
      rw [List.foldl_cons, collectDistribution_eq, inductionHypothesis, withEntries_withEntries]
      cases nested : nestedService value <;> simp [nested]

def datasetServices (value : Value) : List Value :=
  if (idOf value).isSome then (itemsOf value "distribution").filterMap nestedService else []

theorem collectDataset_eq (catalog : Catalog) (value : Value) :
    collectDataset catalog value =
      withEntries catalog (datasetOf value).toList (datasetServices value) := by
  unfold collectDataset datasetOf datasetServices
  cases usable : idOf value with
  | none => simp
  | some id =>
      simp only [collectDistributions_eq]
      simp [withEntries]

theorem flatMap_datasetServices (datasets : List Value) :
    datasets.flatMap datasetServices =
      ((datasets.filter fun dataset => (idOf dataset).isSome).flatMap fun dataset =>
        itemsOf dataset "distribution").filterMap nestedService := by
  induction datasets with
  | nil => rfl
  | cons dataset rest inductionHypothesis =>
      rw [List.flatMap_cons, inductionHypothesis, datasetServices]
      by_cases usable : (idOf dataset).isSome
      · rw [if_pos usable, List.filter_cons, if_pos usable, List.flatMap_cons,
          List.filterMap_append]
      · rw [if_neg usable, List.filter_cons, if_neg usable, List.nil_append]

theorem collectOwn_eq (catalog : Catalog) (level : Value) :
    collectOwn catalog level =
      withEntries catalog (listedDatasets level) (serviceEntries level) := by
  have services : (itemsOf level "service").flatMap (fun _ => ([] : List Dataset)) = [] :=
    List.flatMap_eq_nil_iff.mpr fun _ _ => rfl
  unfold collectOwn
  rw [foldl_withEntries collectService_eq, foldl_withEntries collectDataset_eq,
    withEntries_withEntries, flatMap_datasetServices, services, List.nil_append,
    List.flatMap_singleton', ← List.filterMap_eq_flatMap_toList]
  rfl

theorem collectDatasetsAndServices_withEntries (value : Value) (catalog : Catalog) :
    collectDatasetsAndServices value catalog =
      withEntries catalog ((levels value).flatMap listedDatasets) (describedServices value) := by
  rw [catalogTree.visit_eq_foldl collectDatasetsAndServices_eq]
  exact foldl_withEntries collectOwn_eq (levels value) catalog

theorem parseCatalogResponse_datasets (value : Value) (participant : ParticipantEntry)
    (freshId : String) :
    (parseCatalogResponse value participant freshId).datasets =
      (levels value).flatMap listedDatasets := by
  unfold parseCatalogResponse
  rw [collectDatasetsAndServices_withEntries]
  exact List.nil_append _

/-- Of the services that share an id, the one described first is kept. -/
theorem parseCatalogResponse_dataServices (value : Value) (participant : ParticipantEntry)
    (freshId : String) :
    (parseCatalogResponse value participant freshId).dataServices =
      firsts DataService.id ((describedServices value).filterMap parseDataService) := by
  unfold parseCatalogResponse
  rw [collectDatasetsAndServices_withEntries]
  rfl

theorem parsed_datasets_are_listed (value : Value) (participant : ParticipantEntry)
    (freshId : String) :
    (parseCatalogResponse value participant freshId).datasets =
        (levels value).flatMap listedDatasets ∧
      (parseCatalogResponse value participant freshId).originNode = ⟨participant.id⟩ :=
  ⟨parseCatalogResponse_datasets value participant freshId,
    parseCatalogResponse_originNode value participant freshId⟩

/-! ## Every reference resolves -/

theorem parseDataService_id (entry : Value) :
    (parseDataService entry).map DataService.id = idOf entry := by
  unfold parseDataService
  cases idOf entry <;> rfl

theorem mem_service_ids {entries : List Value} {id : String} :
    id ∈ (entries.filterMap parseDataService).map DataService.id ↔
      ∃ entry ∈ entries, idOf entry = some id := by
  rw [List.map_filterMap, List.mem_filterMap]
  simp only [parseDataService_id]

/-- The distribution describes its service in place, or names one that the
response describes somewhere. -/
def RefersTo (value distribution : Value) (id : String) : Prop :=
  (∃ members, distribution.get "accessService" = some (.object members) ∧
      idOf (.object members) = some id) ∨
    (distribution.get "accessService" = some (.string id) ∧
      ∃ entry ∈ describedServices value, idOf entry = some id)

theorem RefersTo.accessService {value distribution : Value} {id : String}
    (refers : RefersTo value distribution id) :
    (distributionOf distribution).accessService = id := by
  unfold distributionOf accessServiceOf
  rcases refers with ⟨members, nested, usable⟩ | ⟨named, _⟩
  · simp [nested, usable]
  · simp [named]

theorem mem_keptDistributions {level distribution : Value} :
    distribution ∈ keptDistributions level ↔
      ∃ entry ∈ itemsOf level "dataset", (idOf entry).isSome ∧
        distribution ∈ itemsOf entry "distribution" := by
  simp [keptDistributions, and_assoc]

theorem described_iff {value : Value} {id : String} :
    (∃ entry ∈ describedServices value, idOf entry = some id) ↔
      ∃ level ∈ levels value, ∃ entry ∈ serviceEntries level, idOf entry = some id := by
  constructor
  · intro ⟨entry, membership, usable⟩
    obtain ⟨level, known, listed⟩ := List.mem_flatMap.mp membership
    exact ⟨level, known, entry, listed, usable⟩
  · intro ⟨level, known, entry, listed, usable⟩
    exact ⟨entry, List.mem_flatMap.mpr ⟨level, known, listed⟩, usable⟩

theorem RefersTo.described {value level distribution : Value} {id : String}
    (known : level ∈ levels value) (kept : distribution ∈ keptDistributions level)
    (refers : RefersTo value distribution id) :
    ∃ entry ∈ describedServices value, idOf entry = some id := by
  rcases refers with ⟨members, nested, usable⟩ | ⟨_, described⟩
  · apply described_iff.mpr
    refine ⟨level, known, .object members, ?_, usable⟩
    apply List.mem_append_right
    refine List.mem_filterMap.mpr ⟨distribution, kept, ?_⟩
    simp [nestedService, nested]
  · exact described

structure ServicesResolve (value : Value) (catalog : Catalog) : Prop where
  distinct : (catalog.dataServices.map DataService.id).Nodup
  complete : ∀ id, id ∈ catalog.dataServices.map DataService.id ↔
    ∃ level ∈ levels value, ∃ entry ∈ serviceEntries level, idOf entry = some id
  resolves : ∀ level ∈ levels value, ∀ entry ∈ itemsOf level "dataset", ∀ dataset,
    datasetOf entry = some dataset → dataset ∈ catalog.datasets ∧
      List.Forall₂ (fun source distribution => ∀ id, RefersTo value source id →
          distribution.accessService = id ∧
            catalog.dataServices.countP (fun service => service.id = id) = 1)
        (itemsOf entry "distribution") dataset.distributions

theorem parsed_services_resolve (value : Value) (participant : ParticipantEntry)
    (freshId : String) :
    ServicesResolve value (parseCatalogResponse value participant freshId) := by
  refine ⟨?distinct, ?complete, ?resolves⟩
  case distinct =>
    rw [parseCatalogResponse_dataServices]
    apply firsts_nodup
  case complete =>
    intro id
    rw [parseCatalogResponse_dataServices, mem_firsts_keys, mem_service_ids, described_iff]
  case resolves =>
    intro level known entry listed dataset read
    constructor
    · rw [parseCatalogResponse_datasets]
      exact List.mem_flatMap.mpr ⟨level, known, List.mem_filterMap.mpr ⟨entry, listed, read⟩⟩
    · obtain ⟨name, usable, rfl⟩ := datasetOf_eq_some.mp read
      refine List.forall₂_map_right_iff.mpr (List.forall₂_same.mpr ?_)
      intro distribution occurs id refers
      have kept : distribution ∈ keptDistributions level :=
        mem_keptDistributions.mpr ⟨entry, listed, Option.isSome_of_eq_some usable, occurs⟩
      have described := mem_service_ids.mpr (refers.described known kept)
      refine ⟨refers.accessService, ?_⟩
      rw [parseCatalogResponse_dataServices]
      exact countP_firsts described

def firstDescription (value : Value) (id : String) : Option Value :=
  (describedServices value).find? fun entry => idOf entry = some id

theorem find?_parsed_services (value : Value) (participant : ParticipantEntry)
    (freshId id : String) :
    (parseCatalogResponse value participant freshId).dataServices.find?
        (fun service => service.id = id) =
      (firstDescription value id).bind parseDataService := by
  have named : (fun entry => (parseDataService entry).any fun service => service.id = id) =
      fun entry => decide (idOf entry = some id) := by
    funext entry
    rw [← parseDataService_id]
    cases parseDataService entry <;> simp
  rw [parseCatalogResponse_dataServices, find?_firsts, List.find?_filterMap, named]
  rfl

/-- A distribution of a kept dataset describes its service in place, with an endpoint. -/
def Advertises (value : Value) (id url : String) : Prop :=
  ∃ level ∈ levels value, ∃ distribution ∈ keptDistributions level, ∃ members,
    distribution.get "accessService" = some (.object members) ∧
      idOf (.object members) = some id ∧ textOf (.object members) "endpointURL" = some url

theorem Advertises.described {value : Value} {id url : String}
    (advertises : Advertises value id url) : ∃ first, firstDescription value id = some first := by
  obtain ⟨level, known, distribution, kept, members, nested, usable, _⟩ := advertises
  have refers : RefersTo value distribution id := .inl ⟨members, nested, usable⟩
  obtain ⟨entry, membership, named⟩ := refers.described known kept
  apply Option.isSome_iff_exists.mp
  exact List.find?_isSome.mpr ⟨entry, membership, decide_eq_true named⟩

/-- An advertised service is kept as the response first describes it. -/
theorem advertised_service_is_first (value : Value) (participant : ParticipantEntry)
    (freshId : String) {id url : String} (advertises : Advertises value id url) :
    ∃ first service, firstDescription value id = some first ∧
      (parseCatalogResponse value participant freshId).dataServices.find?
        (fun service => service.id = id) = some service ∧
      service.endpointUrl = (textOf first "endpointURL").getD "" ∧
      ((∀ entry ∈ describedServices value, idOf entry = some id →
        textOf entry "endpointURL" = some url) → service.endpointUrl = url) := by
  obtain ⟨first, read⟩ := advertises.described
  have found : (describedServices value).find? (fun entry => idOf entry = some id) =
    some first := read
  have named : idOf first = some id := by
    have holds := List.find?_some found
    exact of_decide_eq_true holds
  refine ⟨first, ⟨id, (textOf first "endpointURL").getD "", textOf first "endpointDescription"⟩,
    read, ?_, rfl, ?_⟩
  · rw [find?_parsed_services, read, Option.bind_some, parseDataService, named]
    rfl
  · intro agree
    dsimp only
    rw [agree first (List.mem_of_find?_eq_some found) named, Option.getD_some]

def apiDataset (id url : String) : Value :=
  .object [
    ("@id", .string id),
    ("distribution", .array [.object [
      ("accessService", .object [("@id", .string "api"), ("endpointURL", .string url)])]])]

/-- A federation's response: two participants use one service id. -/
def sharedApi : Value :=
  .object [("catalog", .array [
    .object [("dataset", .array [apiDataset "sand" "https://north/dsp"])],
    .object [("dataset", .array [apiDataset "silt" "https://south/dsp"])]])]

theorem sharedApi_advertises {id url : String}
    (nested : .object [("dataset", .array [apiDataset id url])] ∈ itemsOf sharedApi "catalog") :
    Advertises sharedApi "api" url := by
  refine ⟨.object [("dataset", .array [apiDataset id url])], ?_,
    .object [("accessService", .object [("@id", .string "api"), ("endpointURL", .string url)])],
    ?_, _, rfl, rfl, rfl⟩
  · rw [levels_eq]
    apply List.mem_cons_of_mem
    refine List.mem_flatMap.mpr ⟨_, nested, ?_⟩
    rw [levels_eq]
    exact List.mem_cons_self
  · exact mem_keptDistributions.mpr ⟨apiDataset id url, List.mem_singleton_self _, rfl,
      List.mem_singleton_self _⟩

theorem north_endpoint_is_kept :
    ∃ first service, firstDescription sharedApi "api" = some first ∧
      (parseCatalogResponse sharedApi ⟨"hub", "", "", false, none⟩ "").dataServices.find?
        (fun service => service.id = "api") = some service ∧
      service.endpointUrl = (textOf first "endpointURL").getD "" ∧
      ((∀ entry ∈ describedServices sharedApi, idOf entry = some "api" →
        textOf entry "endpointURL" = some "https://north/dsp") →
          service.endpointUrl = "https://north/dsp") :=
  advertised_service_is_first sharedApi ⟨"hub", "", "", false, none⟩ ""
    (sharedApi_advertises List.mem_cons_self)

theorem south_endpoint_is_lost :
    ¬ ∀ (value : Value) (participant : ParticipantEntry) (freshId id url : String),
      Advertises value id url →
        ((parseCatalogResponse value participant freshId).dataServices.find?
          fun service => service.id = id).map DataService.endpointUrl = some url := by
  intro keeps
  have lost : ((parseCatalogResponse sharedApi ⟨"hub", "", "", false, none⟩ "").dataServices.find?
      fun service => service.id = "api").map DataService.endpointUrl =
        some "https://north/dsp" := by
    decide +kernel
  have south : .object [("dataset", .array [apiDataset "silt" "https://south/dsp"])] ∈
      itemsOf sharedApi "catalog" := List.mem_cons_of_mem _ List.mem_cons_self
  rw [keeps sharedApi _ _ "api" "https://south/dsp" (sharedApi_advertises south)] at lost
  exact absurd lost (by decide)

end FederatedCatalog.Crawler
