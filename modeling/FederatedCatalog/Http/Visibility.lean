import FederatedCatalog.Http.RoundTrip

/-!
# What the catalog document shows of participants the caller cannot see

Two caches that agree on what a caller may see should be served alike, up to
the ids minted for each response.  The number of cached nodes, hidden ones
included, decides the shape of the document, and the flat shape lists the
services of a hidden node, so the exact condition is a relation of the two
listings.
-/

namespace FederatedCatalog.Http

open Foundation Json FederatedCatalog.Core Dcp Store

def DspOffer.withoutFreshIds (offer : DspOffer) : DspOffer := { offer with id := "" }

def DspDataset.withoutFreshIds (dataset : DspDataset) : DspDataset :=
  { dataset with hasPolicy := dataset.hasPolicy.map DspOffer.withoutFreshIds }

mutual

def DspCatalog.withoutFreshIds : DspCatalog → DspCatalog
  | ⟨context, _, ldType, participantId, dataset, service, catalog⟩ =>
      ⟨context, "", ldType, participantId, dataset.map DspDataset.withoutFreshIds, service,
        DspCatalog.withoutFreshIdsAll catalog⟩

def DspCatalog.withoutFreshIdsAll : List DspCatalog → List DspCatalog
  | [] => []
  | nested :: rest => nested.withoutFreshIds :: DspCatalog.withoutFreshIdsAll rest

end

def Body.withoutFreshIds : Body → Body
  | .catalog document => .catalog document.withoutFreshIds
  | .dataset document => .dataset document.withoutFreshIds
  | .catalogError problem => .catalogError { problem with id := "" }
  | .error message => .error message

def Response.withoutFreshIds (response : Response) : Response :=
  { response with body := response.body.withoutFreshIds }

theorem DspCatalog.withoutFreshIdsAll_eq (catalogs : List DspCatalog) :
    DspCatalog.withoutFreshIdsAll catalogs = catalogs.map DspCatalog.withoutFreshIds := by
  induction catalogs with
  | nil => rfl
  | cons nested rest inductionHypothesis =>
      rw [withoutFreshIdsAll, inductionHypothesis, List.map_cons]

def shownDataset (dataset : Dataset) : DspDataset :=
  DspDataset.withOffer dataset (.placeholder "")

def shownFlat (participantId : String) (datasets : List Dataset) (services : List DataService) :
    DspCatalog where
  context := [dspContextUrl]
  id := ""
  ldType := "Catalog"
  participantId := participantId
  dataset := datasets.map shownDataset
  service := services.map DspDataService.ofDataService
  catalog := []

def shownEntry (allowed : Option (Finset String)) (catalog : Catalog) : DspCatalog :=
  shownFlat (participantIdOf catalog) (visibleDatasets allowed catalog.datasets)
    catalog.dataServices

def shownDocument (allowed : Option (Finset String)) (catalogs : List Catalog) : DspCatalog :=
  if catalogs.length ≤ 1 then
    shownFlat connectorParticipantId
      (catalogs.flatMap fun catalog => visibleDatasets allowed catalog.datasets)
      (catalogs.flatMap Catalog.dataServices)
  else {
    context := [dspContextUrl]
    id := ""
    ldType := "Catalog"
    participantId := connectorParticipantId
    dataset := []
    service := []
    catalog := (catalogs.filter fun catalog => Visible allowed catalog).map (shownEntry allowed) }

theorem Renders.withoutFreshIds {dataset : Dataset} {document : DspDataset}
    (renders : Renders dataset document) : document.withoutFreshIds = shownDataset dataset := by
  obtain ⟨id, rfl⟩ := renders
  rfl

theorem Carries.withoutFreshIds {participantId : String} {datasets : List Dataset}
    {services : List DataService} {document : DspCatalog}
    (carries : Carries participantId datasets services document) :
    document.withoutFreshIds = shownFlat participantId datasets services := by
  obtain ⟨context, ldType, label, dataset, service, catalog⟩ := carries
  rcases document with ⟨_, id, _, _, datasetDocuments, _, _⟩
  simp only at context ldType label dataset service catalog
  subst context ldType label service catalog
  rw [DspCatalog.withoutFreshIds,
    map_eq_of_forall₂ DspDataset.withoutFreshIds shownDataset (fun _ _ => Renders.withoutFreshIds) dataset]
  rfl

theorem Serves.withoutFreshIds {allowed : Option (Finset String)} {catalogs : List Catalog}
    {document : DspCatalog} (serves : Serves allowed catalogs document) :
    document.withoutFreshIds = shownDocument allowed catalogs := by
  cases serves with
  | flat few carries =>
      rw [carries.withoutFreshIds, shownDocument, if_pos few]
  | federation many context ldType label dataset service entries =>
      rcases document with ⟨_, id, _, _, _, _, catalog⟩
      simp only at context ldType label dataset service entries
      subst context ldType label dataset service
      rw [shownDocument, if_neg (by omega), DspCatalog.withoutFreshIds,
        DspCatalog.withoutFreshIdsAll_eq,
        map_eq_of_forall₂ DspCatalog.withoutFreshIds (shownEntry allowed) (fun _ _ => Carries.withoutFreshIds) entries]
      rfl

/-- What a caller may see of a node's catalog. -/
structure VisiblePart where
  id : String
  participantId : Option String
  dataServices : List DataService
  datasets : List Dataset
  deriving DecidableEq

def visiblePart (allowedIds : Finset String) (catalog : Catalog) : Option VisiblePart :=
  if Visible (some allowedIds) catalog then
    some ⟨catalog.id, catalog.participantId, catalog.dataServices,
      visibleDatasets (some allowedIds) catalog.datasets⟩
  else none

/-- The same nodes are visible in both contents, and look the same. -/
def Agree (allowedIds : Finset String) (first second : CatalogMap) : Prop :=
  ∀ node, (first node).bind (visiblePart allowedIds) = (second node).bind (visiblePart allowedIds)

variable {allowedIds : Finset String}

theorem visiblePart_eq_some {catalog : Catalog} {part : VisiblePart} :
    visiblePart allowedIds catalog = some part ↔
      Visible (some allowedIds) catalog ∧
        part = ⟨catalog.id, catalog.participantId, catalog.dataServices,
          visibleDatasets (some allowedIds) catalog.datasets⟩ := by
  unfold visiblePart
  split
  · next visible =>
    constructor
    · intro same
      exact ⟨visible, (Option.some.inj same).symm⟩
    · rintro ⟨_, rfl⟩
      rfl
  · next hidden =>
    constructor
    · intro same
      cases same
    · rintro ⟨visible, _⟩
      exact absurd visible hidden

theorem shownEntry_congr {catalog other : Catalog} (node : catalog.originNode = other.originNode)
    (visible : Visible (some allowedIds) catalog)
    (part : visiblePart allowedIds catalog = visiblePart allowedIds other) :
    Visible (some allowedIds) other ∧
      visibleDatasets (some allowedIds) catalog.datasets =
        visibleDatasets (some allowedIds) other.datasets ∧
      catalog.dataServices = other.dataServices ∧
      shownEntry (some allowedIds) catalog = shownEntry (some allowedIds) other := by
  obtain ⟨otherVisible, same⟩ :=
    visiblePart_eq_some.mp (part.symm.trans (visiblePart_eq_some.mpr ⟨visible, rfl⟩))
  simp only [VisiblePart.mk.injEq] at same
  obtain ⟨_, participantId, dataServices, datasets⟩ := same
  refine ⟨otherVisible, datasets, dataServices, ?_⟩
  unfold shownEntry participantIdOf
  rw [participantId, dataServices, datasets, node]

theorem agree_of_hidden {first second : CatalogMap} (changed : NodeId)
    (same : ∀ node, node ≠ changed → first node = second node)
    (hiddenBefore : (first changed).bind (visiblePart allowedIds) = none)
    (hiddenAfter : (second changed).bind (visiblePart allowedIds) = none) :
    Agree allowedIds first second := by
  intro node
  by_cases here : node = changed
  · rw [here, hiddenBefore, hiddenAfter]
  · rw [same node here]

theorem Agree.symm {first second : CatalogMap} (agree : Agree allowedIds first second) :
    Agree allowedIds second first :=
  fun node => (agree node).symm

section Listings

variable {first second : CatalogMap} {catalogs others : List Catalog}

theorem Agree.counterpart (agree : Agree allowedIds first second)
    (listed : Enumerates Catalog.originNode first catalogs)
    (otherListed : Enumerates Catalog.originNode second others) {catalog : Catalog}
    (membership : catalog ∈ catalogs) (visible : Visible (some allowedIds) catalog) :
    ∃ other ∈ others, catalog.originNode = other.originNode ∧
      visiblePart allowedIds catalog = visiblePart allowedIds other := by
  have part := visiblePart_eq_some.mpr ⟨visible, rfl⟩
  have agreed := agree catalog.originNode
  rw [listed.stored catalog membership, Option.bind_some, part] at agreed
  cases stored : second catalog.originNode with
  | none =>
      rw [stored] at agreed
      cases agreed
  | some other =>
      rw [stored, Option.bind_some] at agreed
      obtain ⟨inOthers, node⟩ := otherListed.complete _ other stored
      exact ⟨other, inOthers, node.symm, part.trans agreed⟩

def NothingVisible (allowed : Option (Finset String)) (catalogs : List Catalog) : Prop :=
  ∀ catalog ∈ catalogs, ¬Visible allowed catalog

theorem Agree.nothingVisible (agree : Agree allowedIds first second)
    (listed : Enumerates Catalog.originNode first catalogs)
    (otherListed : Enumerates Catalog.originNode second others)
    (nothing : NothingVisible (some allowedIds) others) :
    NothingVisible (some allowedIds) catalogs := by
  intro catalog membership visible
  obtain ⟨other, inOthers, node, part⟩ :=
    agree.counterpart listed otherListed membership visible
  exact nothing other inOthers (shownEntry_congr node visible part).1

end Listings

/-! ## When two listings are served alike -/

/-- How a visible node looks: whom it is attributed to, its visible datasets
and its services, as far as documents tell. -/
structure Sight where
  participantId : String
  datasets : List (String × List Distribution)
  services : List (String × String)
  deriving DecidableEq

def lookOfDataset (dataset : Dataset) : String × List Distribution :=
  (dataset.id, dataset.distributions)

def sight (allowed : Option (Finset String)) (catalog : Catalog) : Sight where
  participantId := participantIdOf catalog
  datasets := (visibleDatasets allowed catalog.datasets).map lookOfDataset
  services := catalog.dataServices.map lookOfService

def sights (allowed : Option (Finset String)) (catalogs : List Catalog) : List Sight :=
  (catalogs.filter fun catalog => Visible allowed catalog).map (sight allowed)

def loneServices (catalogs : List Catalog) : List (String × String) :=
  if catalogs.length ≤ 1 then (catalogs.flatMap Catalog.dataServices).map lookOfService else []

/-- A caller who sees nothing is shown the same services of lone hidden nodes,
any other caller finds both listings on the same side of two nodes, and the
visible nodes look alike, in the same order. -/
structure LookAlike (allowed : Option (Finset String)) (catalogs others : List Catalog) :
    Prop where
  blind : NothingVisible allowed catalogs → loneServices catalogs = loneServices others
  sighted : ¬NothingVisible allowed catalogs → (catalogs.length ≤ 1 ↔ others.length ≤ 1)
  ordered : sights allowed catalogs = sights allowed others

theorem map_eq_map_iff {Item Look Shown : Type} {shown : Item → Shown} {look : Item → Look}
    (same : ∀ item other, shown item = shown other ↔ look item = look other)
    (items others : List Item) :
    items.map shown = others.map shown ↔ items.map look = others.map look := by
  induction items generalizing others with
  | nil => cases others <;> simp
  | cons item rest inductionHypothesis =>
      cases others with
      | nil => simp
      | cons other rest => simp [same, inductionHypothesis]

theorem shownDataset_eq_iff (dataset other : Dataset) :
    shownDataset dataset = shownDataset other ↔ lookOfDataset dataset = lookOfDataset other := by
  have injective : Function.Injective DspDistribution.ofDistribution := by
    rintro ⟨format, service⟩ ⟨otherFormat, otherService⟩ same
    simpa [DspDistribution.ofDistribution] using same
  simp [shownDataset, DspDataset.withOffer, lookOfDataset,
    (List.map_injective_iff.mpr injective).eq_iff]

theorem ofDataService_eq_iff (service other : DataService) :
    DspDataService.ofDataService service = DspDataService.ofDataService other ↔
      lookOfService service = lookOfService other := by
  simp [DspDataService.ofDataService, lookOfService]

theorem shownFlat_eq_iff {participantId otherId : String} {datasets others : List Dataset}
    {services otherServices : List DataService} :
    shownFlat participantId datasets services = shownFlat otherId others otherServices ↔
      participantId = otherId ∧ datasets.map lookOfDataset = others.map lookOfDataset ∧
        services.map lookOfService = otherServices.map lookOfService := by
  simp [shownFlat, map_eq_map_iff shownDataset_eq_iff, map_eq_map_iff ofDataService_eq_iff]

theorem shownEntry_eq_iff (allowed : Option (Finset String)) (catalog other : Catalog) :
    shownEntry allowed catalog = shownEntry allowed other ↔
      sight allowed catalog = sight allowed other := by
  simp [shownEntry, shownFlat_eq_iff, sight]

theorem shownEntries_eq_iff (allowed : Option (Finset String)) (catalogs others : List Catalog) :
    (catalogs.filter fun catalog => Visible allowed catalog).map (shownEntry allowed) =
        (others.filter fun catalog => Visible allowed catalog).map (shownEntry allowed) ↔
      sights allowed catalogs = sights allowed others :=
  map_eq_map_iff (shownEntry_eq_iff allowed) _ _

theorem nothingVisible_iff {allowed : Option (Finset String)} {catalogs : List Catalog} :
    NothingVisible allowed catalogs ↔ sights allowed catalogs = [] := by
  simp [NothingVisible, sights]

theorem nothingVisible_iff_granted {allowed : Option (Finset String)} {catalogs : List Catalog} :
    NothingVisible allowed catalogs ↔
      (catalogs.flatMap fun catalog => visibleDatasets allowed catalog.datasets) = [] := by
  simp [NothingVisible, Visible]

theorem eq_singleton_of_mem {Item : Type} {items : List Item} {item : Item}
    (membership : item ∈ items) (few : items.length ≤ 1) : items = [item] := by
  cases items with
  | nil => cases membership
  | cons first rest =>
      obtain rfl : rest = [] := by simpa using few
      rw [List.mem_singleton.mp membership]

section Listings

variable {first second : CatalogMap} {catalogs others : List Catalog}

theorem LookAlike.symm (agree : Agree allowedIds first second)
    (listed : Enumerates Catalog.originNode first catalogs)
    (otherListed : Enumerates Catalog.originNode second others)
    (alike : LookAlike (some allowedIds) catalogs others) :
    LookAlike (some allowedIds) others catalogs where
  blind nothing := (alike.blind (agree.nothingVisible listed otherListed nothing)).symm
  sighted something :=
    (alike.sighted fun nothing =>
      something (agree.symm.nothingVisible otherListed listed nothing)).symm
  ordered := alike.ordered.symm

theorem shown_few_few (agree : Agree allowedIds first second)
    (listed : Enumerates Catalog.originNode first catalogs)
    (otherListed : Enumerates Catalog.originNode second others)
    (few : catalogs.length ≤ 1) (otherFew : others.length ≤ 1) :
    shownDocument (some allowedIds) catalogs = shownDocument (some allowedIds) others ↔
      LookAlike (some allowedIds) catalogs others := by
  rw [shownDocument, if_pos few, shownDocument, if_pos otherFew, shownFlat_eq_iff]
  by_cases nothing : NothingVisible (some allowedIds) catalogs
  · have nothingElse := agree.symm.nothingVisible otherListed listed nothing
    rw [nothingVisible_iff_granted.mp nothing, nothingVisible_iff_granted.mp nothingElse]
    have services : loneServices catalogs = loneServices others ↔
        (catalogs.flatMap Catalog.dataServices).map lookOfService =
          (others.flatMap Catalog.dataServices).map lookOfService := by
      rw [loneServices, if_pos few, loneServices, if_pos otherFew]
    rw [← services]
    constructor
    · rintro ⟨_, _, same⟩
      refine ⟨fun _ => same, fun something => absurd nothing something, ?_⟩
      rw [nothingVisible_iff.mp nothing, nothingVisible_iff.mp nothingElse]
    · intro alike
      exact ⟨rfl, rfl, alike.blind nothing⟩
  · -- the visible node is alone in both caches
    obtain ⟨catalog, membership, visible⟩ : ∃ catalog ∈ catalogs,
        Visible (some allowedIds) catalog := by
      simpa [NothingVisible] using nothing
    obtain ⟨other, otherMembership, node, part⟩ :=
      agree.counterpart listed otherListed membership visible
    obtain ⟨otherVisible, datasets, services, entry⟩ := shownEntry_congr node visible part
    obtain rfl : catalogs = [catalog] :=
      eq_singleton_of_mem membership few
    obtain rfl : others = [other] :=
      eq_singleton_of_mem otherMembership otherFew
    constructor
    · intro _
      refine ⟨fun blind => absurd blind nothing, fun _ => by simp, ?_⟩
      have look := (shownEntry_eq_iff _ _ _).mp entry
      simp [sights, visible, otherVisible, look]
    · intro _
      simp [datasets, services]

theorem shown_many_many (many : 1 < catalogs.length) (otherMany : 1 < others.length) :
    shownDocument (some allowedIds) catalogs = shownDocument (some allowedIds) others ↔
      LookAlike (some allowedIds) catalogs others := by
  have federation : ¬catalogs.length ≤ 1 := by omega
  have otherFederation : ¬others.length ≤ 1 := by omega
  rw [shownDocument, if_neg federation, shownDocument, if_neg otherFederation]
  simp only [DspCatalog.mk.injEq, true_and, shownEntries_eq_iff]
  constructor
  · intro same
    refine ⟨fun _ => ?_, fun _ => by simp [federation, otherFederation], same⟩
    rw [loneServices, if_neg federation, loneServices, if_neg otherFederation]
  · intro alike
    exact alike.ordered

theorem shown_few_many (agree : Agree allowedIds first second)
    (listed : Enumerates Catalog.originNode first catalogs)
    (otherListed : Enumerates Catalog.originNode second others)
    (few : catalogs.length ≤ 1) (otherMany : 1 < others.length) :
    shownDocument (some allowedIds) catalogs = shownDocument (some allowedIds) others ↔
      LookAlike (some allowedIds) catalogs others := by
  have otherFederation : ¬others.length ≤ 1 := by omega
  rw [shownDocument, if_pos few, shownDocument, if_neg otherFederation]
  constructor
  · intro same
    simp only [shownFlat, DspCatalog.mk.injEq, true_and, List.map_eq_nil_iff] at same
    obtain ⟨datasets, services, _⟩ := same
    have nothing := nothingVisible_iff_granted.mpr datasets
    have nothingElse := agree.symm.nothingVisible otherListed listed nothing
    refine ⟨fun _ => ?_, fun something => absurd nothing something, ?_⟩
    · rw [loneServices, if_pos few, loneServices, if_neg otherFederation, services, List.map_nil]
    · rw [nothingVisible_iff.mp nothing, nothingVisible_iff.mp nothingElse]
  · intro alike
    have nothing : NothingVisible (some allowedIds) catalogs := by
      by_contra something
      exact otherFederation ((alike.sighted something).mp few)
    have services := alike.blind nothing
    rw [loneServices, if_pos few, loneServices, if_neg otherFederation,
      List.map_eq_nil_iff] at services
    have entries := (shownEntries_eq_iff _ _ _).mpr alike.ordered
    have blind := nothingVisible_iff_granted.mp nothing
    have none : (catalogs.filter fun catalog => Visible (some allowedIds) catalog) = [] := by
      simpa [NothingVisible] using nothing
    rw [none, List.map_nil] at entries
    rw [blind, services, ← entries]
    rfl

/-- Agreeing caches are served alike exactly when their listings look alike. -/
theorem shownDocument_eq_iff (agree : Agree allowedIds first second)
    (listed : Enumerates Catalog.originNode first catalogs)
    (otherListed : Enumerates Catalog.originNode second others) :
    shownDocument (some allowedIds) catalogs = shownDocument (some allowedIds) others ↔
      LookAlike (some allowedIds) catalogs others := by
  by_cases few : catalogs.length ≤ 1
  · by_cases otherFew : others.length ≤ 1
    · exact shown_few_few agree listed otherListed few otherFew
    · exact shown_few_many agree listed otherListed few (by omega)
  · by_cases otherFew : others.length ≤ 1
    · rw [eq_comm, shown_few_many agree.symm otherListed listed otherFew (by omega)]
      exact ⟨.symm agree.symm otherListed listed, .symm agree listed otherListed⟩
    · exact shown_many_many (by omega) (by omega)

end Listings

variable {platform : Platform} (auth : DspAuthConfig platform) (headers : Headers)
  (http : Dcp.Http) (now : Seconds) (jti : String)

theorem catalogRequest_withoutFreshIds {allowed : Option (Finset String)}
    (entitled : Entitled auth headers http now jti allowed) {cache : CacheView}
    {catalogs : List Catalog} (found : cache.query .all = .ok catalogs) (names : Nat → String) :
    ((catalogRequest ⟨cache, auth⟩ headers http now jti).value names).withoutFreshIds =
      ⟨200, .catalog (shownDocument allowed catalogs)⟩ := by
  obtain ⟨document, served, serves⟩ :=
    catalogRequest_served ⟨cache, auth⟩ headers http now jti entitled found names
  rw [served, Response.withoutFreshIds, Body.withoutFreshIds, serves.withoutFreshIds]

/-- Two brokers with the same callers and agreeing caches answer a caller with the same
response, minted ids apart, exactly when the listings of their caches look alike. -/
theorem catalog_request_hides_iff {allowedIds : Finset String}
    (entitled : Entitled auth headers http now jti (some allowedIds))
    {first second : CacheView} (agree : Agree allowedIds first.content second.content)
    {catalogs others : List Catalog} (found : first.query .all = .ok catalogs)
    (otherFound : second.query .all = .ok others) (names otherNames : Nat → String) :
    ((catalogRequest ⟨first, auth⟩ headers http now jti).value names).withoutFreshIds =
        ((catalogRequest ⟨second, auth⟩ headers http now jti).value otherNames).withoutFreshIds ↔
      LookAlike (some allowedIds) catalogs others := by
  rw [catalogRequest_withoutFreshIds auth headers http now jti entitled found names,
    catalogRequest_withoutFreshIds auth headers http now jti entitled otherFound otherNames,
    ← shownDocument_eq_iff agree (first.listing found).1 (second.listing otherFound).1]
  simp only [Response.mk.injEq, Body.catalog.injEq, true_and]

/-! ## Hidden nodes that show, and one that does not -/

def oneGrant (token dataset : String) : DspAuthConfig .reference where
  mode := .bearer
  catalogAccess name := if name = token then some {dataset} else none
  dcp := none
  consistent := fun dcp => nomatch dcp

def bearerHeaders (token : String) : Headers := ⟨some (utf8 ("Bearer " ++ token))⟩

theorem entitled_alice :
    Entitled (oneGrant "alice" "ice") (bearerHeaders "alice") http now jti (some {"ice"}) := by
  have presented : bearerToken (bearerHeaders "alice") = some "alice" := by decide +kernel
  exact .bearer rfl presented

def north : CacheView := .holding [offering "north" "ice"]

def northSouth : CacheView := .holding [offering "north" "ice", offering "south" "sand"]

def eastNorthSouth : CacheView :=
  .holding [offering "north" "ice", offering "south" "sand", offering "east" "salt"]

theorem found_north : north.query .all = .ok [offering "north" "ice"] := by decide +kernel

theorem found_northSouth :
    northSouth.query .all = .ok [offering "north" "ice", offering "south" "sand"] := by
  decide +kernel

theorem found_eastNorthSouth :
    eastNorthSouth.query .all =
      .ok [offering "east" "salt", offering "north" "ice", offering "south" "sand"] := by
  decide +kernel

theorem agree_append {catalogs : List Catalog} {hidden : Catalog}
    (before : (InMemoryCatalogCache.holding catalogs).content hidden.originNode = none)
    (invisible : visiblePart allowedIds hidden = none) :
    Agree allowedIds (CacheView.holding catalogs).content
      (CacheView.holding (catalogs ++ [hidden])).content := by
  have content : (CacheView.holding (catalogs ++ [hidden])).content =
      (CacheView.holding catalogs).content.store Catalog.originNode hidden :=
    InMemoryCatalogCache.content_holding_append catalogs hidden
  rw [content]
  refine agree_of_hidden hidden.originNode ?_ ?_ ?_
  · intro node different
    rw [KeyedMap.store_apply, if_neg different]
  · exact Option.bind_eq_none_iff.mpr fun _ stored => nomatch before.symm.trans stored
  · rw [KeyedMap.store_same, Option.bind_some, invisible]

theorem agree_north : Agree {"ice"} north.content northSouth.content :=
  agree_append (by decide +kernel) (by decide +kernel)

theorem agree_northSouth : Agree {"ice"} northSouth.content eastNorthSouth.content :=
  agree_append (by decide +kernel) (by decide +kernel)

theorem hidden_third_node_goes_unnoticed :
    ((catalogRequest ⟨northSouth, oneGrant "alice" "ice"⟩ (bearerHeaders "alice") .offline 0
        "t3").value Nat.repr).withoutFreshIds =
      ((catalogRequest ⟨eastNorthSouth, oneGrant "alice" "ice"⟩ (bearerHeaders "alice") .offline 0
        "t3").value Nat.repr).withoutFreshIds := by
  have alike : LookAlike (some {"ice"}) [offering "north" "ice", offering "south" "sand"]
      [offering "east" "salt", offering "north" "ice", offering "south" "sand"] := by
    refine ⟨fun _ => rfl, ?_, by decide +kernel⟩
    intro _
    decide
  exact (catalog_request_hides_iff _ _ .offline 0 "t3" (entitled_alice .offline 0 "t3")
    agree_northSouth found_northSouth found_eastNorthSouth Nat.repr Nat.repr).mpr alike

/-- Caching `south`, of which the caller sees nothing, turns the flat document into a federation. -/
theorem hidden_node_changes_the_document :
    Agree {"ice"} north.content northSouth.content ∧
      ∀ http now jti names otherNames,
        ((catalogRequest ⟨north, oneGrant "alice" "ice"⟩ (bearerHeaders "alice") http now
          jti).value names).withoutFreshIds ≠
        ((catalogRequest ⟨northSouth, oneGrant "alice" "ice"⟩ (bearerHeaders "alice") http now
          jti).value otherNames).withoutFreshIds := by
  refine ⟨agree_north, ?_⟩
  intro http now jti names otherNames same
  rw [catalogRequest_withoutFreshIds _ _ _ _ _ (entitled_alice http now jti) found_north,
    catalogRequest_withoutFreshIds _ _ _ _ _ (entitled_alice http now jti) found_northSouth] at same
  simp only [Response.mk.injEq, Body.catalog.injEq, true_and] at same
  have flat : (shownDocument (some {"ice"}) [offering "north" "ice"]).catalog.length = 0 := rfl
  have nested : (shownDocument (some {"ice"})
      [offering "north" "ice", offering "south" "sand"]).catalog.length = 1 := by decide +kernel
  rw [same, nested] at flat
  cases flat

end FederatedCatalog.Http
