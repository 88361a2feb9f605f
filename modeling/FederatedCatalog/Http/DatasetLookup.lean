import FederatedCatalog.Http.RoundTrip

/-!
# `GET /dsp/catalog/datasets/{id}`

The lookup of one dataset goes through the flattened cache, and finds what the
catalog document lists for the same caller.
-/

namespace FederatedCatalog.Http

open Foundation Json FederatedCatalog.Core Dcp Store

def flattenCache (cache : CacheView) : StoreResult (List Dataset × List DataService) :=
  (cache.query .all).map flattenCatalogs

variable {platform : Platform}

def getDspDataset (state : AppState platform) (headers : Headers) (http : Dcp.Http) (now : Seconds)
    (jti id : String) : Supply String Response := do
  match ← authorize state.dspAuth headers http now jti with
  | .error response => return response
  | .ok allowed =>
      match flattenCache state.cache with
      | .error error => return ⟨500, .error error.display⟩
      | .ok flattened =>
          match (visibleDatasets allowed flattened.1).find? fun dataset => dataset.id = id with
          | some dataset =>
              let body ← DspDataset.ofDataset dataset
              return ⟨200, .dataset { body with context := some [dspContextUrl] }⟩
          | none => return ⟨404, .catalogError (← DspCatalogError.notFound)⟩

/-- The same 404 for an id that is not cached and one that is not granted. -/
def NotFound (response : Response) : Prop :=
  ∃ id, response = ⟨404, .catalogError ⟨[dspContextUrl], id, "CatalogError", "NOT_FOUND"⟩⟩

def FoundDataset (dataset : Dataset) (response : Response) : Prop :=
  ∃ document, response = ⟨200, .dataset document⟩ ∧ document.context = some [dspContextUrl] ∧
    document.id = dataset.id ∧
    document.distribution = dataset.distributions.map DspDistribution.ofDistribution

section Endpoint

variable (state : AppState platform) (headers : Headers) (http : Dcp.Http) (now : Seconds)
  (jti id : String)

theorem getDspDataset_refused
    (refused : ∀ allowed, ¬Entitled state.dspAuth headers http now jti allowed) :
    Supply.Gives (getDspDataset state headers http now jti id) Refusal := by
  unfold getDspDataset
  rw [authorize_refused refused, bind_assoc]
  refine unauthorizedResponse_gives.bind ?_
  intro response refusal
  exact Supply.gives_pure refusal

/-- The granted dataset with the id that comes first in the listing, or a 404. -/
theorem getDspDataset_entitled {allowed : Option (Finset String)} {catalogs : List Catalog}
    (entitled : Entitled state.dspAuth headers http now jti allowed)
    (found : state.cache.query .all = .ok catalogs) :
    Supply.Gives (getDspDataset state headers http now jti id) fun response =>
      match (grantedDatasets allowed catalogs).find? fun dataset => dataset.id = id with
      | some dataset => FoundDataset dataset response
      | none => NotFound response := by
  unfold getDspDataset
  rw [entitled.authorize_eq, pure_bind]
  simp only [flattenCache, found, Except.map, flattenCatalogs_eq, visibleDatasets_flatMap]
  unfold grantedDatasets
  cases (catalogs.flatMap fun catalog =>
      visibleDatasets allowed catalog.datasets).find? fun dataset => dataset.id = id with
  | some dataset =>
      refine (ofDataset_gives dataset).bind ?_
      rintro document ⟨offerId, rfl⟩
      exact Supply.gives_pure ⟨_, rfl, rfl, rfl, rfl⟩
  | none =>
      have missing : Supply.Gives DspCatalogError.notFound fun problem =>
          ∃ id, problem = ⟨[dspContextUrl], id, "CatalogError", "NOT_FOUND"⟩ :=
        fun names => ⟨"urn:uuid:" ++ names 0, rfl⟩
      refine missing.bind ?_
      rintro problem ⟨id, rfl⟩
      exact Supply.gives_pure ⟨id, rfl⟩

end Endpoint

mutual

/-- All datasets of a document in document order, those of nested entries included. -/
def DspCatalog.listedDatasets : DspCatalog → List DspDataset
  | ⟨_, _, _, _, dataset, _, catalog⟩ => dataset ++ DspCatalog.listedDatasetsAll catalog

def DspCatalog.listedDatasetsAll : List DspCatalog → List DspDataset
  | [] => []
  | nested :: rest => nested.listedDatasets ++ DspCatalog.listedDatasetsAll rest

end

theorem DspCatalog.listedDatasets_eq (document : DspCatalog) :
    document.listedDatasets = document.dataset ++ document.catalog.flatMap listedDatasets := by
  have all : ∀ catalogs : List DspCatalog,
      listedDatasetsAll catalogs = catalogs.flatMap listedDatasets := by
    intro catalogs
    induction catalogs with
    | nil => rfl
    | cons nested rest inductionHypothesis =>
        rw [listedDatasetsAll, inductionHypothesis, List.flatMap_cons]
  rcases document with ⟨context, id, ldType, participantId, dataset, service, catalog⟩
  rw [listedDatasets, all]

theorem Carries.listed {participantId : String} {datasets : List Dataset}
    {services : List DataService} {document : DspCatalog}
    (carries : Carries participantId datasets services document) :
    List.Forall₂ Renders datasets document.listedDatasets := by
  rw [DspCatalog.listedDatasets_eq, carries.catalog, List.flatMap_nil, List.append_nil]
  exact carries.dataset

theorem listed_entries {allowed : Option (Finset String)} {catalogs : List Catalog}
    {entries : List DspCatalog} (carried : List.Forall₂ (CarriesEntry allowed) catalogs entries) :
    List.Forall₂ Renders (grantedDatasets allowed catalogs)
      (entries.flatMap DspCatalog.listedDatasets) := by
  unfold grantedDatasets
  induction carried with
  | nil => exact .nil
  | cons carries _ inductionHypothesis =>
      rw [List.flatMap_cons, List.flatMap_cons]
      exact List.rel_append carries.listed inductionHypothesis

theorem Serves.listed {allowed : Option (Finset String)} {catalogs : List Catalog}
    {document : DspCatalog} (serves : Serves allowed catalogs document) :
    List.Forall₂ Renders (grantedDatasets allowed catalogs) document.listedDatasets := by
  cases serves with
  | flat _ carries => exact carries.listed
  | federation _ _ _ _ dataset _ entries =>
      have listed := listed_entries entries
      rw [grantedDatasets_filter] at listed
      rw [DspCatalog.listedDatasets_eq, dataset, List.nil_append]
      exact listed

structure Call where
  headers : Headers
  http : Dcp.Http
  now : Seconds
  jti : String

def Call.Entitled (call : Call) (auth : DspAuthConfig platform) :
    Option (Finset String) → Prop :=
  Http.Entitled auth call.headers call.http call.now call.jti

/-- The answer to a lookup of `id`, given the document listed for the same caller. -/
structure LookupAgrees (document : DspCatalog) (id : String) (response : Response) : Prop where
  answers : response.status = 200 ↔ ∃ entry ∈ document.listedDatasets, entry.id = id
  first : ∀ entry, (document.listedDatasets.find? fun entry => entry.id = id) = some entry →
    ∃ body, response = ⟨200, .dataset body⟩ ∧ body.id = id ∧
      body.distribution = entry.distribution
  missing : response.status ≠ 200 → NotFound response

theorem find?_rendered {datasets : List Dataset} {documents : List DspDataset}
    (rendered : List.Forall₂ Renders datasets documents) (id : String) :
    Option.Rel Renders (datasets.find? fun dataset => dataset.id = id)
      (documents.find? fun document => document.id = id) := by
  induction rendered with
  | nil => exact .none
  | @cons dataset document _ _ renders _ inductionHypothesis =>
      have sameId : document.id = dataset.id := by
        obtain ⟨_, rfl⟩ := renders
        rfl
      by_cases this : dataset.id = id
      · rw [List.find?_cons_of_pos (by simpa using this),
          List.find?_cons_of_pos (by simpa [sameId] using this)]
        exact .some renders
      · rw [List.find?_cons_of_neg (by simpa using this),
          List.find?_cons_of_neg (by simpa [sameId] using this)]
        exact inductionHypothesis

theorem Serves.lookupAgrees {allowed : Option (Finset String)} {catalogs : List Catalog}
    {document : DspCatalog} (serves : Serves allowed catalogs document) {id : String}
    {response : Response}
    (looked : match (grantedDatasets allowed catalogs).find? fun dataset => dataset.id = id with
      | some dataset => FoundDataset dataset response
      | none => NotFound response) :
    LookupAgrees document id response := by
  have related := find?_rendered serves.listed id
  cases granted : (grantedDatasets allowed catalogs).find? fun dataset => dataset.id = id with
  | none =>
      rw [granted] at related looked
      cases listed : document.listedDatasets.find? fun entry => entry.id = id with
      | some entry =>
          rw [listed] at related
          cases related
      | none =>
          have absent := List.find?_eq_none.mp listed
          obtain ⟨problem, rfl⟩ := looked
          refine ⟨⟨?_, ?_⟩, ?_, fun _ => ⟨problem, rfl⟩⟩
          · intro success
            cases success
          · rintro ⟨entry, membership, same⟩
            exact absurd (decide_eq_true same) (absent entry membership)
          · intro entry first
            cases listed.symm.trans first
  | some dataset =>
      rw [granted] at related looked
      obtain ⟨body, rfl, _, sameId, distribution⟩ := looked
      have bodyId : body.id = id := by
        rw [sameId]
        simpa using List.find?_some granted
      cases listed : document.listedDatasets.find? fun entry => entry.id = id with
      | none =>
          rw [listed] at related
          cases related
      | some entry =>
          rw [listed] at related
          cases related with
          | some renders =>
              have named : entry.id = id := by simpa using List.find?_some listed
              have listedEntry := List.mem_of_find?_eq_some listed
              refine ⟨?_, ?_, fun failed => absurd rfl failed⟩
              · exact ⟨fun _ => ⟨entry, listedEntry, named⟩, fun _ => rfl⟩
              · intro first found
                cases listed.symm.trans found
                refine ⟨body, rfl, bodyId, ?_⟩
                obtain ⟨_, rfl⟩ := renders
                exact distribution

/-- A caller finds by id exactly what the catalog document lists for that caller, and both
endpoints refuse the same requests. -/
theorem dataset_lookup_agrees_with_listing (auth : DspAuthConfig platform)
    {first second : CacheView} (same : first.content = second.content)
    (distinct : DistinctIds first.content) {catalogs others : List Catalog}
    (found : first.query .all = .ok catalogs) (otherFound : second.query .all = .ok others)
    (post get : Call) (outcome : ∀ allowed, post.Entitled auth allowed ↔ get.Entitled auth allowed)
    (id : String) :
    ((∀ allowed, ¬post.Entitled auth allowed) →
      Supply.Gives (catalogRequest ⟨first, auth⟩ post.headers post.http post.now post.jti) Refusal ∧
      Supply.Gives (getDspDataset ⟨second, auth⟩ get.headers get.http get.now get.jti id)
        Refusal) ∧
    (∀ allowed, post.Entitled auth allowed →
      Supply.Gives (catalogRequest ⟨first, auth⟩ post.headers post.http post.now post.jti)
        (Answered fun document =>
          Supply.Gives (getDspDataset ⟨second, auth⟩ get.headers get.http get.now get.jti id)
            (LookupAgrees document id))) := by
  constructor
  · intro refused
    have alsoRefused : ∀ allowed, ¬get.Entitled auth allowed := by
      intro allowed
      rw [← outcome]
      exact refused allowed
    exact ⟨catalogRequest_refused _ _ _ _ _ refused, getDspDataset_refused _ _ _ _ _ _ alsoRefused⟩
  · intro allowed entitled
    have looked := getDspDataset_entitled ⟨second, auth⟩ get.headers get.http get.now get.jti id
      ((outcome allowed).mp entitled) otherFound
    rw [← CacheView.listing_unique same distinct found otherFound] at looked
    refine (catalogRequest_served ⟨first, auth⟩ _ _ _ _ entitled found).mono ?_
    rintro response ⟨document, rfl, serves⟩
    exact ⟨document, rfl, looked.mono fun answer => serves.lookupAgrees⟩

theorem sand_is_listed_and_found :
    Supply.Gives
      (catalogRequest (AppState.withoutAuth .reference
        (.holding [offering "north" "ice", offering "south" "sand"])) ⟨none⟩ .offline 0 "t3")
      (Answered fun document =>
        Supply.Gives
          (getDspDataset (AppState.withoutAuth .reference
            (.holding [offering "north" "ice", offering "south" "sand"])) ⟨none⟩ .offline 0 "t3"
              "sand")
          (LookupAgrees document "sand")) := by
  have found : (CacheView.holding [offering "north" "ice", offering "south" "sand"]).query .all =
      .ok [offering "north" "ice", offering "south" "sand"] := by
    decide +kernel
  have distinct := DistinctIds.of_nodup (CacheView.listing _ found).1 (by decide)
  exact (dataset_lookup_agrees_with_listing
    (AppState.withoutAuth .reference (.holding [])).dspAuth rfl distinct found found
    ⟨⟨none⟩, .offline, 0, "t3"⟩ ⟨⟨none⟩, .offline, 0, "t3"⟩ (fun _ => Iff.rfl) "sand").2
    none (.disabled rfl)

end FederatedCatalog.Http
