import FederatedCatalog.Http.Authorize
import FederatedCatalog.Store.Cache
import Mathlib.Data.List.Induction
import Mathlib.Data.List.ReduceOption

/-!
# `POST /dsp/catalog/request`

The document a caller is served: flat while at most one node is cached, and a
federation of nested catalogs from two nodes on.
-/

namespace FederatedCatalog.Http

open Foundation Json FederatedCatalog.Core Dcp Store

/-- The part of `AppState` the endpoint uses, besides the HTTP client. -/
structure AppState (platform : Platform) where
  cache : CacheView
  dspAuth : DspAuthConfig platform

def AppState.withoutAuth (platform : Platform) (cache : CacheView) : AppState platform where
  cache := cache
  dspAuth := {
    mode := .disabled
    catalogAccess := fun _ => none
    dcp := none
    consistent := fun dcp => nomatch dcp }

def visibleDatasets (allowed : Option (Finset String)) (datasets : List Dataset) :
    List Dataset :=
  match allowed with
  | none => datasets
  | some allowedIds => datasets.filter fun dataset => dataset.id ∈ allowedIds

/-- A filter on ids; without authorization it lets everything pass. -/
theorem visibleDatasets_eq_filter (allowed : Option (Finset String)) (datasets : List Dataset) :
    visibleDatasets allowed datasets =
      datasets.filter fun dataset => ∀ allowedIds ∈ allowed, dataset.id ∈ allowedIds := by
  cases allowed with
  | none => simp [visibleDatasets]
  | some allowedIds => simp [visibleDatasets]

def flattenCatalogs (catalogs : List Catalog) : List Dataset × List DataService :=
  catalogs.foldl (fun collected catalog =>
    (collected.1 ++ catalog.datasets, collected.2 ++ catalog.dataServices)) ([], [])

def participantIdOf (catalog : Catalog) : String :=
  catalog.participantId.getD catalog.originNode.value

def flatCatalog (participantId : String) (datasets : List Dataset)
    (services : List DataService) : Supply String DspCatalog := do
  let id ← newUrnUuid
  let dataset ← datasets.mapM DspDataset.ofDataset
  return {
    context := [dspContextUrl]
    id
    ldType := "Catalog"
    participantId
    dataset
    service := services.map DspDataService.ofDataService
    catalog := [] }

/-- One node's nested entry, none if the caller sees none of its datasets. -/
def nestedCatalog (allowed : Option (Finset String)) (catalog : Catalog) :
    Supply String (Option DspCatalog) :=
  let datasets := visibleDatasets allowed catalog.datasets
  if datasets = [] then return none
  else return some (← flatCatalog (participantIdOf catalog) datasets catalog.dataServices)

def catalogDocument (allowed : Option (Finset String)) (catalogs : List Catalog) :
    Supply String DspCatalog :=
  if catalogs.length ≤ 1 then
    let flattened := flattenCatalogs catalogs
    flatCatalog connectorParticipantId (visibleDatasets allowed flattened.1) flattened.2
  else do
    let nested ← catalogs.mapM (nestedCatalog allowed)
    let id ← newUrnUuid
    return {
      context := [dspContextUrl]
      id
      ldType := "Catalog"
      participantId := connectorParticipantId
      dataset := []
      service := []
      catalog := nested.reduceOption }

variable {platform : Platform}

def catalogRequest (state : AppState platform) (headers : Headers) (http : Dcp.Http) (now : Seconds)
    (jti : String) : Supply String Response := do
  match ← authorize state.dspAuth headers http now jti with
  | .error response => return response
  | .ok allowed =>
      match state.cache.query .all with
      | .error error => return ⟨500, .error error.display⟩
      | .ok catalogs => return ⟨200, .catalog (← catalogDocument allowed catalogs)⟩

/-- A dataset's document: its id and distributions, and an offer with a minted id. -/
def Renders (dataset : Dataset) (document : DspDataset) : Prop :=
  ∃ id, document = DspDataset.withOffer dataset (.placeholder id)

structure Carries (participantId : String) (datasets : List Dataset)
    (services : List DataService) (document : DspCatalog) : Prop where
  context : document.context = [dspContextUrl]
  ldType : document.ldType = "Catalog"
  participantId : document.participantId = participantId
  dataset : List.Forall₂ Renders datasets document.dataset
  service : document.service = services.map DspDataService.ofDataService
  catalog : document.catalog = []

/-- The caller sees at least one of the catalog's datasets. -/
def Visible (allowed : Option (Finset String)) (catalog : Catalog) : Prop :=
  visibleDatasets allowed catalog.datasets ≠ []

instance (allowed : Option (Finset String)) (catalog : Catalog) :
    Decidable (Visible allowed catalog) :=
  inferInstanceAs (Decidable (_ ≠ _))

def CarriesEntry (allowed : Option (Finset String)) (catalog : Catalog) (entry : DspCatalog) :
    Prop :=
  Carries (participantIdOf catalog) (visibleDatasets allowed catalog.datasets)
    catalog.dataServices entry

inductive Serves (allowed : Option (Finset String)) (catalogs : List Catalog)
    (document : DspCatalog) : Prop where
  | flat (few : catalogs.length ≤ 1)
      (carries : Carries connectorParticipantId
        (catalogs.flatMap fun catalog => visibleDatasets allowed catalog.datasets)
        (catalogs.flatMap Catalog.dataServices) document)
  | federation (many : 2 ≤ catalogs.length)
      (context : document.context = [dspContextUrl])
      (ldType : document.ldType = "Catalog")
      (participantId : document.participantId = connectorParticipantId)
      (dataset : document.dataset = [])
      (service : document.service = [])
      (entries : List.Forall₂ (CarriesEntry allowed)
        (catalogs.filter fun catalog => Visible allowed catalog) document.catalog)

theorem flattenCatalogs_eq (catalogs : List Catalog) :
    flattenCatalogs catalogs =
      (catalogs.flatMap Catalog.datasets, catalogs.flatMap Catalog.dataServices) := by
  induction catalogs using List.reverseRecOn with
  | nil => rfl
  | append_singleton catalogs catalog inductionHypothesis =>
      rw [flattenCatalogs] at inductionHypothesis ⊢
      rw [List.foldl_append, inductionHypothesis]
      simp

theorem visibleDatasets_flatMap (allowed : Option (Finset String)) (catalogs : List Catalog) :
    visibleDatasets allowed (catalogs.flatMap Catalog.datasets) =
      catalogs.flatMap fun catalog => visibleDatasets allowed catalog.datasets := by
  simp only [visibleDatasets_eq_filter]
  exact List.filter_flatMap

theorem ofDataset_gives (dataset : Dataset) :
    Supply.Gives (DspDataset.ofDataset dataset) (Renders dataset) :=
  fun names => ⟨"urn:uuid:" ++ names 0, rfl⟩

theorem flatCatalog_gives (participantId : String) (datasets : List Dataset)
    (services : List DataService) :
    Supply.Gives (flatCatalog participantId datasets services)
      (Carries participantId datasets services) := by
  unfold flatCatalog
  have anyId : Supply.Gives newUrnUuid fun _ => True := fun _ => trivial
  refine anyId.bind ?_
  intro id _
  refine (Supply.gives_mapM ofDataset_gives datasets).bind ?_
  intro dataset rendered
  exact Supply.gives_pure ⟨rfl, rfl, rfl, rendered, rfl, rfl⟩

inductive Adds (allowed : Option (Finset String)) (catalog : Catalog) :
    Option DspCatalog → Prop where
  | nothing (hidden : ¬Visible allowed catalog) : Adds allowed catalog none
  | entry (visible : Visible allowed catalog) {entry : DspCatalog}
      (carries : CarriesEntry allowed catalog entry) : Adds allowed catalog (some entry)

theorem nestedCatalog_gives (allowed : Option (Finset String)) (catalog : Catalog) :
    Supply.Gives (nestedCatalog allowed catalog) (Adds allowed catalog) := by
  unfold nestedCatalog
  by_cases hidden : visibleDatasets allowed catalog.datasets = []
  · dsimp only
    rw [if_pos hidden]
    exact Supply.gives_pure (.nothing fun visible => visible hidden)
  · dsimp only
    rw [if_neg hidden]
    refine (flatCatalog_gives _ _ _).bind ?_
    intro entry carries
    exact Supply.gives_pure (.entry hidden carries)

theorem entries_of_adds {allowed : Option (Finset String)} {catalogs : List Catalog}
    {nested : List (Option DspCatalog)} (adds : List.Forall₂ (Adds allowed) catalogs nested) :
    List.Forall₂ (CarriesEntry allowed)
      (catalogs.filter fun catalog => Visible allowed catalog) nested.reduceOption := by
  induction adds with
  | nil => exact .nil
  | cons adds _ inductionHypothesis =>
      cases adds with
      | nothing hidden =>
          rw [List.filter_cons_of_neg (by simpa using hidden), List.reduceOption_cons_of_none]
          exact inductionHypothesis
      | entry visible carries =>
          rw [List.filter_cons_of_pos (by simpa using visible), List.reduceOption_cons_of_some]
          exact .cons carries inductionHypothesis

theorem catalogDocument_gives (allowed : Option (Finset String)) (catalogs : List Catalog) :
    Supply.Gives (catalogDocument allowed catalogs) (Serves allowed catalogs) := by
  unfold catalogDocument
  by_cases few : catalogs.length ≤ 1
  · rw [if_pos few]
    dsimp only
    rw [flattenCatalogs_eq, visibleDatasets_flatMap]
    exact (flatCatalog_gives _ _ _).mono fun document carries => .flat few carries
  · rw [if_neg few]
    refine (Supply.gives_mapM (nestedCatalog_gives allowed) catalogs).bind ?_
    intro nested adds
    have anyId : Supply.Gives newUrnUuid fun _ => True := fun _ => trivial
    refine anyId.bind ?_
    intro id _
    exact Supply.gives_pure
      (.federation (by omega) rfl rfl rfl rfl rfl (entries_of_adds adds))

end FederatedCatalog.Http
