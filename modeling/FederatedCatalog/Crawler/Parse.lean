import FederatedCatalog.Core.Catalog
import FederatedCatalog.Foundation.Traversal

/-!
# Reading a catalog response

The crawler's tolerant reader: it takes what it recognises from a response
body, descends into nested catalogs, and skips the rest.
-/

namespace FederatedCatalog.Crawler

open Foundation Json FederatedCatalog.Core

structure ParticipantEntry where
  id : String
  name : String
  catalogRequestUrl : String
  requiresDcp : Bool
  providerDid : Option String
  deriving DecidableEq

def textOf (value : Value) (key : String) : Option String := (value.get key).bind Value.asStr

def itemsOf (value : Value) (key : String) : List Value :=
  ((value.get key).bind Value.asArray).getD []

/-- `@id`, or `id` where there is no `@id`. -/
def idOf (value : Value) : Option String :=
  ((value.get "@id").or (value.get "id")).bind Value.asStr

def parseDataService (value : Value) : Option DataService := do
  let id ← idOf value
  return {
    id
    endpointUrl := (textOf value "endpointURL").getD ""
    endpointDescription := textOf value "endpointDescription" }

/-- Keep a service unless one with its id is listed already. -/
def collectService (catalog : Catalog) (value : Value) : Catalog :=
  match parseDataService value with
  | none => catalog
  | some service =>
      if catalog.dataServices.any fun listed => listed.id = service.id then catalog
      else { catalog with dataServices := catalog.dataServices ++ [service] }

/-- The access service of a distribution: a compact id or a nested service. -/
def collectDistribution (collected : Catalog × List Distribution) (value : Value) :
    Catalog × List Distribution :=
  let format := (textOf value "format").getD ""
  match value.get "accessService" with
  | some (.string id) => (collected.1, collected.2 ++ [⟨format, id⟩])
  | some (.object members) =>
      let id := (idOf (.object members)).getD ""
      (collectService collected.1 (.object members), collected.2 ++ [⟨format, id⟩])
  | _ => (collected.1, collected.2 ++ [⟨format, ""⟩])

def collectDataset (catalog : Catalog) (value : Value) : Catalog :=
  match idOf value with
  | none => catalog
  | some id =>
      let (catalog, distributions) :=
        (itemsOf value "distribution").foldl collectDistribution (catalog, [])
      { catalog with
        datasets := catalog.datasets ++ [{ id, properties := SortedMap.empty, distributions }] }

def collectOwn (catalog : Catalog) (value : Value) : Catalog :=
  (itemsOf value "dataset").foldl collectDataset
    ((itemsOf value "service").foldl collectService catalog)

mutual

/-- A value's own entries, then those of its nested catalogs. -/
def collectDatasetsAndServices : Value → Catalog → Catalog
  | .object members, catalog => collectNested members (collectOwn catalog (.object members))
  | value, catalog => collectOwn catalog value

def collectNested : List (String × Value) → Catalog → Catalog
  | [], catalog => catalog
  | member :: rest, catalog =>
      if member.1 = "catalog" then collectMember member catalog else collectNested rest catalog

def collectMember : String × Value → Catalog → Catalog
  | (_, value), catalog => collectEntries value catalog

def collectEntries : Value → Catalog → Catalog
  | .array items, catalog => collectAll items catalog
  | _, catalog => catalog

def collectAll : List Value → Catalog → Catalog
  | [], catalog => catalog
  | value :: rest, catalog => collectAll rest (collectDatasetsAndServices value catalog)

end

/-- `freshId` is the uuid drawn for a response without an `@id`. -/
def parseCatalogResponse (value : Value) (participant : ParticipantEntry) (freshId : String) :
    Catalog :=
  let id := (textOf value "@id").getD ("urn:uuid:" ++ freshId)
  let catalog := Catalog.new id ⟨participant.id⟩
  collectDatasetsAndServices value
    { catalog with participantId := textOf value "participantId" }

theorem collectDatasetsAndServices_eq (value : Value) (catalog : Catalog) :
    collectDatasetsAndServices value catalog =
      (itemsOf value "catalog").foldl (fun catalog nested =>
        collectDatasetsAndServices nested catalog) (collectOwn catalog value) := by
  have all : ∀ items catalog, collectAll items catalog =
      items.foldl (fun catalog nested => collectDatasetsAndServices nested catalog) catalog := by
    intro items
    induction items with
    | nil => intro catalog; rfl
    | cons item rest inductionHypothesis =>
        intro catalog
        rw [collectAll, inductionHypothesis]
        rfl
  cases value with
  | object members =>
      rw [collectDatasetsAndServices]
      generalize collectOwn catalog (.object members) = own
      simp only [itemsOf, Value.get_object]
      induction members with
      | nil => rfl
      | cons member rest inductionHypothesis =>
          rcases member with ⟨key, value⟩
          rw [collectNested]
          by_cases named : key = "catalog"
          · rw [if_pos named, collectMember, List.lookup_cons, named]
            cases value with
            | array items => simpa [collectEntries, Value.asArray] using all items own
            | _ => simp [collectEntries, Value.asArray]
          · rw [if_neg named, inductionHypothesis, List.lookup_cons]
            have other : ("catalog" == key) = false := by simpa using Ne.symm named
            rw [other]
  | _ => rfl

theorem sizeOf_lt_of_mem_itemsOf {value item : Value} {key : String}
    (membership : item ∈ itemsOf value key) : sizeOf item < sizeOf value := by
  unfold itemsOf at membership
  cases value with
  | object members =>
      rw [Value.get_object] at membership
      induction members with
      | nil => simp at membership
      | cons member rest inductionHypothesis =>
          rcases member with ⟨name, value⟩
          rw [List.lookup_cons] at membership
          by_cases named : (key == name) = true
          · rw [named] at membership
            cases value with
            | array items =>
                have smaller : sizeOf item < sizeOf items := List.sizeOf_lt_of_mem membership
                simp only [Value.object.sizeOf_spec, Value.array.sizeOf_spec,
                  List.cons.sizeOf_spec, Prod.mk.sizeOf_spec] at smaller ⊢
                omega
            | _ => simp [Value.asArray] at membership
          · rw [Bool.eq_false_iff.mpr named] at membership
            have smaller := inductionHypothesis membership
            simp only [Value.object.sizeOf_spec, List.cons.sizeOf_spec] at smaller ⊢
            omega
  | _ => simp [Value.get] at membership

def catalogTree : Descent Value where
  children value := itemsOf value "catalog"
  wellFounded :=
    Subrelation.wf (fun membership => sizeOf_lt_of_mem_itemsOf membership) (measure sizeOf).wf

theorem foldl_relates {State Item : Type} {related : State → State → Prop}
    {step : State → Item → State} {items : List Item}
    (keeps : ∀ item ∈ items, ∀ first second, related first second →
      related (step first item) (step second item))
    {first second : State} (holds : related first second) :
    related (items.foldl step first) (items.foldl step second) := by
  induction items generalizing first second with
  | nil => exact holds
  | cons item rest inductionHypothesis =>
      apply inductionHypothesis
      · intro other membership
        exact keeps other (List.mem_cons_of_mem item membership)
      · exact keeps item List.mem_cons_self first second holds

abbrev OwnRelates (related : Catalog → Catalog → Prop) : Prop :=
  ∀ first second value, related first second →
    related (collectOwn first value) (collectOwn second value)

/-- What every value's own entries keep related stays related through the whole descent. -/
theorem collect_relates {related : Catalog → Catalog → Prop} (own : OwnRelates related)
    (value : Value) (first second : Catalog) (holds : related first second) :
    related (collectDatasetsAndServices value first) (collectDatasetsAndServices value second) := by
  induction value using catalogTree.induction generalizing first second with
  | inherits value inductionHypothesis =>
      rw [collectDatasetsAndServices_eq, collectDatasetsAndServices_eq]
      exact foldl_relates inductionHypothesis (own first second value holds)

theorem collectService_originNode (catalog : Catalog) (value : Value) :
    (collectService catalog value).originNode = catalog.originNode := by
  unfold collectService
  split
  · rfl
  · split <;> rfl

theorem collectDistribution_originNode (collected : Catalog × List Distribution) (value : Value) :
    (collectDistribution collected value).1.originNode = collected.1.originNode := by
  unfold collectDistribution
  split
  · rfl
  · exact collectService_originNode collected.1 _
  · rfl

theorem foldl_keeps {State Item Measure : Type} (measure : State → Measure)
    {step : State → Item → State} (keeps : ∀ state item, measure (step state item) = measure state)
    (items : List Item) (state : State) : measure (items.foldl step state) = measure state := by
  induction items generalizing state with
  | nil => rfl
  | cons item rest inductionHypothesis => rw [List.foldl_cons, inductionHypothesis, keeps]

theorem collectDataset_originNode (catalog : Catalog) (value : Value) :
    (collectDataset catalog value).originNode = catalog.originNode := by
  unfold collectDataset
  split
  · rfl
  · exact foldl_keeps (fun collected : Catalog × List Distribution => collected.1.originNode)
      collectDistribution_originNode _ _

theorem collectOwn_originNode (catalog : Catalog) (value : Value) :
    (collectOwn catalog value).originNode = catalog.originNode := by
  unfold collectOwn
  rw [foldl_keeps Catalog.originNode collectDataset_originNode,
    foldl_keeps Catalog.originNode collectService_originNode]

/-- Whatever a body claims, it is read as the catalog of the node it was fetched for. -/
theorem parseCatalogResponse_originNode (value : Value) (participant : ParticipantEntry)
    (freshId : String) :
    (parseCatalogResponse value participant freshId).originNode = ⟨participant.id⟩ := by
  have own : OwnRelates fun catalog _ => catalog.originNode = ⟨participant.id⟩ := by
    intro catalog _ value holds
    rw [collectOwn_originNode, holds]
  exact collect_relates own value _ (Catalog.new "" ⟨""⟩) rfl

def SameEntries (first second : Catalog) : Prop :=
  first.datasets = second.datasets ∧ first.dataServices = second.dataServices

theorem collectService_congr (first second : Catalog) (value : Value)
    (same : SameEntries first second) :
    SameEntries (collectService first value) (collectService second value) := by
  unfold collectService
  rw [same.2]
  split
  · exact same
  · split
    · exact same
    · exact ⟨same.1, rfl⟩

def SameCollected (first second : Catalog × List Distribution) : Prop :=
  SameEntries first.1 second.1 ∧ first.2 = second.2

theorem collectDistribution_congr (first second : Catalog × List Distribution) (value : Value)
    (same : SameCollected first second) :
    SameCollected (collectDistribution first value) (collectDistribution second value) := by
  unfold collectDistribution
  rw [same.2]
  split
  · exact ⟨same.1, rfl⟩
  · exact ⟨collectService_congr _ _ _ same.1, rfl⟩
  · exact ⟨same.1, rfl⟩

theorem collectDataset_congr (first second : Catalog) (value : Value)
    (same : SameEntries first second) :
    SameEntries (collectDataset first value) (collectDataset second value) := by
  unfold collectDataset
  split
  · exact same
  · have start : SameCollected (first, []) (second, []) := ⟨same, rfl⟩
    have folded : SameCollected
        ((itemsOf value "distribution").foldl collectDistribution (first, []))
        ((itemsOf value "distribution").foldl collectDistribution (second, [])) :=
      foldl_relates (fun item _ first second => collectDistribution_congr first second item) start
    obtain ⟨⟨datasets, services⟩, distributions⟩ := folded
    dsimp only
    rw [distributions]
    exact ⟨congrArg (· ++ _) datasets, services⟩

theorem collectOwn_congr : OwnRelates SameEntries := by
  intro first second value same
  have services : SameEntries ((itemsOf value "service").foldl collectService first)
      ((itemsOf value "service").foldl collectService second) :=
    foldl_relates (fun item _ first second => collectService_congr first second item) same
  exact foldl_relates (fun item _ first second => collectDataset_congr first second item) services

theorem parseCatalogResponse_congr (value : Value) (first second : ParticipantEntry)
    (firstId secondId : String) :
    SameEntries (parseCatalogResponse value first firstId)
      (parseCatalogResponse value second secondId) :=
  collect_relates collectOwn_congr value _ _ ⟨rfl, rfl⟩

end FederatedCatalog.Crawler
