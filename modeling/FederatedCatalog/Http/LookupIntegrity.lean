import FederatedCatalog.Foundation.FirstMatch
import FederatedCatalog.Http.DatasetLookup

/-!
# What another participant can do to a lookup

A lookup is answered from the first catalog, in the order of catalog ids, that
lists the dataset.  A participant chooses the id of its own catalog, and with
it whether its entry comes before another participant's.
-/

namespace FederatedCatalog.Http

open Foundation Json FederatedCatalog.Core Dcp Store Crawler

variable {platform : Platform}

/-- A catalog's first dataset with the id, as far as the caller may see it. -/
def entryFor (allowed : Option (Finset String)) (id : String) (catalog : Catalog) :
    Option Dataset :=
  (visibleDatasets allowed catalog.datasets).find? fun dataset => dataset.id = id

def ShowsDistributions (id : String) (distributions : List Distribution) (response : Response) :
    Prop :=
  ∃ document, response = ⟨200, .dataset document⟩ ∧ document.id = id ∧
    document.distribution = distributions.map DspDistribution.ofDistribution

theorem ofDistribution_injective : Function.Injective DspDistribution.ofDistribution := by
  rintro ⟨format, accessService⟩ ⟨otherFormat, otherAccessService⟩ same
  cases same
  rfl

theorem getDspDataset_shows_iff (auth : DspAuthConfig platform) {view : CacheView}
    {catalogs : List Catalog} (found : view.query .all = .ok catalogs)
    {allowed : Option (Finset String)} {call : Call} (entitled : call.Entitled auth allowed)
    (id : String) (distributions : List Distribution) :
    Supply.Gives (getDspDataset ⟨view, auth⟩ call.headers call.http call.now call.jti id)
        (ShowsDistributions id distributions) ↔
      ∃ dataset, catalogs.findSome? (entryFor allowed id) = some dataset ∧
        dataset.distributions = distributions := by
  have looked := getDspDataset_entitled ⟨view, auth⟩ call.headers call.http call.now call.jti id
    entitled found
  have granted : (grantedDatasets allowed catalogs).find? (fun dataset => dataset.id = id) =
      catalogs.findSome? (entryFor allowed id) := List.find?_flatMap
  rw [granted] at looked
  cases first : catalogs.findSome? (entryFor allowed id) with
  | none =>
      rw [first] at looked
      constructor
      · intro shows
        obtain ⟨document, success, _⟩ := shows fun _ => ""
        obtain ⟨problem, failure⟩ := looked fun _ => ""
        cases success.symm.trans failure
      · rintro ⟨_, absent, _⟩
        cases absent
  | some dataset =>
      rw [first] at looked
      constructor
      · intro shows
        obtain ⟨document, shown, _, distribution⟩ := shows fun _ => ""
        obtain ⟨answered, same, _, _, own⟩ := looked fun _ => ""
        cases shown.symm.trans same
        refine ⟨dataset, rfl, ?_⟩
        exact ofDistribution_injective.list_map (own.symm.trans distribution)
      · rintro ⟨_, same, rfl⟩
        cases same
        refine looked.mono ?_
        rintro response ⟨document, rfl, _, sameId, distribution⟩
        obtain ⟨catalog, _, listed⟩ := List.exists_of_findSome?_eq_some first
        have named := List.find?_some listed
        exact ⟨document, rfl, sameId.trans (of_decide_eq_true named), distribution⟩

/-- The catalog lists the dataset, under an id that comes first. -/
def Overtakes (allowed : Option (Finset String)) (id : String) (serving reported : Catalog) :
    Prop :=
  reported.id < serving.id ∧ (entryFor allowed id reported).isSome

/-- A lookup that shows `dataset` of the catalog `serving` shows the same distributions after
`reported` is stored. -/
structure Undisturbed (content : CatalogMap) (allowed : Option (Finset String)) (id : String)
    (serving : Catalog) (dataset : Dataset) (reported : Catalog) : Prop where
  overtaken : Overtakes allowed id serving reported → ∀ entry,
    entryFor allowed id reported = some entry → entry.distributions = dataset.distributions
  /-- Which of the catalogs with one id comes first is up to the store. -/
  kept : ¬Overtakes allowed id serving reported → ∀ node catalog entry,
    content.store Catalog.originNode reported node = some catalog → catalog.id = serving.id →
    entryFor allowed id catalog = some entry → entry.distributions = dataset.distributions

/-- Whatever order the store has, a lookup shows these distributions after `reported` is stored. -/
def LookupKept (auth : DspAuthConfig platform) (content : CatalogMap)
    (allowed : Option (Finset String)) (id : String) (distributions : List Distribution)
    (reported : Catalog) : Prop :=
  ∀ (after : CacheView) (catalogs : List Catalog) (call : Call),
    after.content = content.store Catalog.originNode reported →
    after.query .all = .ok catalogs → call.Entitled auth allowed →
    Supply.Gives (getDspDataset ⟨after, auth⟩ call.headers call.http call.now call.jti id)
      (ShowsDistributions id distributions)

abbrev Answering (allowed : Option (Finset String)) (id : String) :
    CatalogMap → Catalog → Dataset → Prop :=
  LeastMatch Catalog.originNode Catalog.id (entryFor allowed id)

variable {auth : DspAuthConfig platform} {allowed : Option (Finset String)} {id : String}

/-- The lookup shows what any catalog that may answer it lists. -/
theorem lookupKept_iff_answering {content : CatalogMap} {listed : List Catalog}
    (enumerates : Enumerates Catalog.originNode content listed) {serving reported : Catalog}
    {dataset : Dataset} (answering : Answering allowed id content serving dataset)
    (other : reported.originNode ≠ serving.originNode) {call : Call}
    (entitled : call.Entitled auth allowed) (distributions : List Distribution) :
    LookupKept auth content allowed id distributions reported ↔
      ∀ catalog entry, Answering allowed id (content.store Catalog.originNode reported) catalog
        entry → entry.distributions = distributions := by
  constructor
  · intro kept catalog entry answers
    obtain ⟨records, again, first⟩ := answers.found_first (enumerates.store reported)
    have found : (CacheView.enumerating again).query .all = .ok (sortBy Catalog.id records) := rfl
    obtain ⟨shown, same, equal⟩ := (getDspDataset_shows_iff auth found entitled id distributions).mp
      (kept (.enumerating again) _ call rfl found entitled)
    rw [first] at same
    cases same
    exact equal
  · intro agree after catalogs again content found stillEntitled
    obtain ⟨listing, ordered⟩ := after.listing found
    rw [content] at listing
    have stored := answering.still_stored other
    have membership := (listing.complete _ serving stored).1
    cases first : catalogs.findSome? (entryFor allowed id) with
    | none =>
        have silent := List.findSome?_eq_none_iff.mp first serving membership
        rw [answering.matched] at silent
        cases silent
    | some entry =>
        obtain ⟨catalog, firstMatch⟩ := findSome?_eq_some.mp first
        have answers := firstMatch.leastMatch listing ordered
        apply (getDspDataset_shows_iff auth found stillEntitled id distributions).mpr
        exact ⟨entry, first, agree catalog entry answers⟩

theorem Overtakes.lookupKept {content : CatalogMap} {listed : List Catalog}
    (enumerates : Enumerates Catalog.originNode content listed) {serving reported : Catalog}
    {dataset : Dataset} (answering : Answering allowed id content serving dataset)
    (other : reported.originNode ≠ serving.originNode) {call : Call}
    (entitled : call.Entitled auth allowed) (overtakes : Overtakes allowed id serving reported)
    {entry : Dataset} (lists : entryFor allowed id reported = some entry) :
    LookupKept auth content allowed id entry.distributions reported := by
  apply (lookupKept_iff_answering enumerates answering other entitled _).mpr
  intro catalog shown answers
  obtain ⟨rfl, listed⟩ := (answering.store_smaller overtakes.1 overtakes.2).mp answers
  cases listed.symm.trans lists
  rfl

/-- A lookup is answered by `serving` now.  After a catalog of another node is stored it shows that
catalog's distributions if it overtakes.  The distributions are the same as before exactly when
that catalog does not overtake with other ones, and no other catalog shares the id of `serving` and
lists other ones. -/
theorem lookup_survives_iff {before : CacheView} {catalogs : List Catalog}
    (found : before.query .all = .ok catalogs) {serving : Catalog} {dataset : Dataset}
    (first : FirstMatch (entryFor allowed id) catalogs serving dataset) {call : Call}
    (entitled : call.Entitled auth allowed) {reported : Catalog}
    (other : reported.originNode ≠ serving.originNode) :
    Supply.Gives (getDspDataset ⟨before, auth⟩ call.headers call.http call.now call.jti id)
        (ShowsDistributions id dataset.distributions) ∧
      (Overtakes allowed id serving reported → ∀ entry, entryFor allowed id reported = some entry →
        LookupKept auth before.content allowed id entry.distributions reported) ∧
      (LookupKept auth before.content allowed id dataset.distributions reported ↔
        Undisturbed before.content allowed id serving dataset reported) := by
  obtain ⟨enumerates, ordered⟩ := before.listing found
  have answering : Answering allowed id before.content serving dataset :=
    first.leastMatch enumerates ordered
  refine ⟨?_, ?_, ?_⟩
  · apply (getDspDataset_shows_iff auth found entitled id dataset.distributions).mpr
    exact ⟨dataset, findSome?_eq_some.mpr ⟨serving, first⟩, rfl⟩
  · intro overtakes entry lists
    exact overtakes.lookupKept enumerates answering other entitled lists
  · rw [lookupKept_iff_answering enumerates answering other entitled]
    by_cases overtakes : Overtakes allowed id serving reported
    · simp only [answering.store_smaller overtakes.1 overtakes.2]
      constructor
      · intro agree
        exact ⟨fun _ entry listed => agree reported entry ⟨rfl, listed⟩,
          fun not => absurd overtakes not⟩
      · rintro undisturbed catalog entry ⟨rfl, listed⟩
        exact undisturbed.overtaken overtakes entry listed
    · simp only [answering.store_else other overtakes]
      constructor
      · intro agree
        refine ⟨fun does => absurd does overtakes, ?_⟩
        intro _ node catalog entry stored sameId listed
        have keyed := (enumerates.store reported).key_of_stored stored
        rw [← keyed] at stored
        exact agree catalog entry ⟨stored, sameId, listed⟩
      · rintro undisturbed catalog entry ⟨stored, sameId, listed⟩
        exact undisturbed.kept overtakes _ catalog entry stored sameId listed

def northIce : Dataset :=
  ⟨"ice", SortedMap.empty, [⟨"HttpData-PULL", "service-of-north"⟩]⟩

theorem north_answers :
    FirstMatch (entryFor none "ice") [offering "north" "ice"] (offering "north" "ice") northIce :=
  ⟨⟨[], [], rfl, by simp⟩, by decide +kernel⟩

theorem north_found : (CacheView.holding [offering "north" "ice"]).query .all =
    .ok [offering "north" "ice"] := by decide +kernel

def anyAuth : DspAuthConfig .reference := (AppState.withoutAuth .reference (.holding [])).dspAuth

def anyCall : Call := ⟨⟨none⟩, .offline, 0, "t3"⟩

theorem anyCall_entitled : anyCall.Entitled anyAuth none := .disabled rfl

/-- What south answers to a crawl: the same dataset id, and a catalog id that comes early. -/
def southBody : Value :=
  .object [
    ("@id", .string "a-catalog"),
    ("dataset", .array [.object [
      ("@id", .string "ice"),
      ("distribution", .array [.object [
        ("format", .string "HttpData-PULL"),
        ("accessService", .string "service-of-south")]])]])]

def southReport : Catalog := parseCatalogResponse southBody ⟨"south", "", "", false, none⟩ ""

theorem report_decides_lookup :
    Overtakes none "ice" (offering "north" "ice") southReport ∧
      Supply.Gives (getDspDataset ⟨.holding [offering "north" "ice"], anyAuth⟩ anyCall.headers
        anyCall.http anyCall.now anyCall.jti "ice") (ShowsDistributions "ice" northIce.distributions) ∧
      (Overtakes none "ice" (offering "north" "ice") southReport → ∀ entry,
        entryFor none "ice" southReport = some entry →
          LookupKept anyAuth (CacheView.holding [offering "north" "ice"]).content none "ice"
            entry.distributions southReport) ∧
      (LookupKept anyAuth (CacheView.holding [offering "north" "ice"]).content none "ice"
          northIce.distributions southReport ↔
        Undisturbed (CacheView.holding [offering "north" "ice"]).content none "ice"
          (offering "north" "ice") northIce southReport) :=
  have overtakes : Overtakes none "ice" (offering "north" "ice") southReport := by
    unfold Overtakes
    decide +kernel
  ⟨overtakes, lookup_survives_iff north_found north_answers anyCall_entitled (by decide +kernel)⟩

/-- South's report takes the lookup over. -/
theorem south_takes_over_ice :
    southReport.originNode ≠ (offering "north" "ice").originNode ∧
      Supply.Gives (getDspDataset ⟨.holding [offering "north" "ice"], anyAuth⟩ anyCall.headers
        anyCall.http anyCall.now anyCall.jti "ice") (ShowsDistributions "ice" northIce.distributions) ∧
      ¬LookupKept anyAuth (CacheView.holding [offering "north" "ice"]).content none "ice"
        northIce.distributions southReport := by
  refine ⟨by decide +kernel, ?_, ?_⟩
  · apply (getDspDataset_shows_iff anyAuth north_found anyCall_entitled "ice" _).mpr
    exact ⟨northIce, findSome?_eq_some.mpr ⟨_, north_answers⟩, rfl⟩
  · intro kept
    have content := InMemoryCatalogCache.content_holding_append [offering "north" "ice"] southReport
    have found : (CacheView.holding [offering "north" "ice", southReport]).query .all =
        .ok [southReport, offering "north" "ice"] := by
      decide +kernel
    have shows := kept (.holding [offering "north" "ice", southReport]) _ anyCall content found
      anyCall_entitled
    obtain ⟨dataset, first, same⟩ := (getDspDataset_shows_iff anyAuth found anyCall_entitled
      "ice" _).mp shows
    have south : ([southReport, offering "north" "ice"].findSome? (entryFor none "ice")).map
        Dataset.distributions = some [⟨"HttpData-PULL", "service-of-south"⟩] := by
      decide +kernel
    rw [first, Option.map_some, same] at south
    exact absurd south (by decide)

end FederatedCatalog.Http
