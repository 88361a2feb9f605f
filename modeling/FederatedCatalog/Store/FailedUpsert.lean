import FederatedCatalog.Store.Stages

/-!
# Upserts that fail

The Oxigraph backend replaces a catalog in two steps, each of which may fail.
From any store that calls leave behind, interleaved and failing as they may, a
failed upsert changes what later calls answer exactly when its first step has
taken the old entry away.
-/

namespace FederatedCatalog.Store

open Foundation FederatedCatalog.Core Json

variable (support : OxigraphSupport)

abbrev faultyStep : CachePool → PoolEvent StoreChoice Nat Operation → Option CachePool :=
  Pool.step StoreCall.perform (OxigraphCatalogCache.program support)

/-- Any calls under way, interleaved at store calls each of which may fail. -/
abbrev FaultyExecution := Execution (faultyStep support)

/-- One trait call, with what the environment decides during it. -/
structure FaultyTurn where
  operation : Operation
  choices : Nat → StoreChoice

def outcomes (store : GraphStore) : List FaultyTurn → List Outcome
  | [] => []
  | turn :: later =>
      let performed := OxigraphCatalogCache.perform support turn.choices store turn.operation
      performed.1 :: outcomes performed.2 later

/-- Whatever is called later, the answers are the same. -/
def Alike (first second : GraphStore) : Prop :=
  ∀ later : List FaultyTurn, outcomes support first later = outcomes support second later

def Vacant (store : GraphStore) (node : NodeId) : Prop :=
  ∀ quad ∈ store.quads, quad.subject ≠ iriOf support node

/-- What the first step of an upsert leaves. -/
def GraphStore.clear (store : GraphStore) (node : NodeId) : GraphStore :=
  store.removeSubject (iriOf support node) (iriOf support node)

def OnlyCatalogs (store : GraphStore) : Prop :=
  ∀ quad ∈ store.quads, ∃ catalog, quad = catalogQuad support catalog

inductive CacheCall : StoreCall → Prop
  | remove (subject graph : NamedNode) : CacheCall (.removeSubjectFromNamedGraph subject graph)
  | insert (catalog : Catalog) :
      CacheCall (.insertInNamedGraph (catalogQuad support catalog).subject
        (catalogQuad support catalog).predicate (catalogQuad support catalog).object
        (catalogQuad support catalog).graph)
  | find (subject predicate graph : Option NamedNode) :
      CacheCall (.firstQuadForPattern subject predicate graph)
  | list : CacheCall .namedGraphs

variable {support}

theorem CacheCall.onlyCatalogs {request : StoreCall} (made : CacheCall support request)
    (choice : StoreChoice) {store : GraphStore} (only : OnlyCatalogs support store) :
    OnlyCatalogs support (StoreCall.perform choice store request).2 := by
  unfold StoreCall.perform
  cases choice.fault with
  | some message => exact only
  | none =>
      cases made with
      | find subject predicate graph => exact only
      | list => exact only
      | remove subject graph =>
          intro quad kept
          exact only quad ((GraphStore.mem_removeSubject store subject graph quad).mp kept).1
      | insert catalog =>
          intro quad stored
          rcases (GraphStore.mem_insert store (catalogQuad support catalog) quad).mp stored with
            rfl | before
          · exact ⟨catalog, rfl⟩
          · exact only quad before

namespace OxigraphCatalogCache

theorem calls_orFail {Item Result : Type} {allowed : StoreCall → Prop}
    (reply : Except String Item) {next : Item → StoreProgram (StoreResult Result)}
    (later : ∀ item, (next item).Calls allowed) : (orFail reply next).Calls allowed := by
  cases reply with
  | error message => exact .done _
  | ok item => exact later item

theorem calls_loadGraph {allowed : StoreCall → Prop} {graphIri : NamedNode}
    (find : allowed
      (.firstQuadForPattern (some graphIri) (some catalogJsonPredicate) (some graphIri))) :
    (loadGraph support graphIri).Calls allowed := by
  apply Program.Calls.call
  · exact find
  · intro reply
    cases reply with
    | none => exact .done _
    | some found => exact calls_orFail found fun _ => .done _

theorem calls_loadGraphs {allowed : StoreCall → Prop}
    (find : ∀ graphIri, allowed
      (.firstQuadForPattern (some graphIri) (some catalogJsonPredicate) (some graphIri)))
    (names : List NamedOrBlankNode) (results : List Catalog) :
    (loadGraphs support names results).Calls allowed := by
  induction names generalizing results with
  | nil => exact .done _
  | cons name rest inductionHypothesis =>
      cases name with
      | blankNode id => exact inductionHypothesis results
      | namedNode graphIri =>
          apply (calls_loadGraph (find graphIri)).bind
          intro loaded
          rcases loaded with error | _ | catalog
          · exact .done _
          · exact inductionHypothesis results
          · exact inductionHypothesis (results ++ [catalog])

inductive Makes (support : OxigraphSupport) : Operation → StoreCall → Prop
  | replace (catalog : Catalog) : Makes support (.upsert catalog) (.removeSubjectFromNamedGraph
      (iriOf support catalog.originNode) (iriOf support catalog.originNode))
  | insert (catalog : Catalog) : Makes support (.upsert catalog) (.insertInNamedGraph
      (catalogQuad support catalog).subject (catalogQuad support catalog).predicate
      (catalogQuad support catalog).object (catalogQuad support catalog).graph)
  | look (node : NodeId) : Makes support (.delete node)
      (.firstQuadForPattern (some (iriOf support node)) none (some (iriOf support node)))
  | remove (node : NodeId) : Makes support (.delete node)
      (.removeSubjectFromNamedGraph (iriOf support node) (iriOf support node))
  | read (node : NodeId) (offset : Nat) (limit : Option Nat) :
      Makes support (.query ⟨some node, offset, limit⟩) (.firstQuadForPattern
        (some (iriOf support node)) (some catalogJsonPredicate) (some (iriOf support node)))
  | list (offset : Nat) (limit : Option Nat) :
      Makes support (.query ⟨none, offset, limit⟩) .namedGraphs
  | load (graphIri : NamedNode) (offset : Nat) (limit : Option Nat) :
      Makes support (.query ⟨none, offset, limit⟩)
        (.firstQuadForPattern (some graphIri) (some catalogJsonPredicate) (some graphIri))

theorem makes_query (asked : CatalogQuery) :
    (query support asked).Calls (Makes support (.query asked)) := by
  apply Program.Calls.bind _ fun _ => .done _
  rcases asked with ⟨originNode, offset, limit⟩
  cases originNode with
  | some node =>
      rw [collect]
      dsimp only
      rw [nodeIri_eq]
      exact (calls_loadGraph (.read node offset limit)).bind fun _ => .done _
  | none =>
      apply Program.Calls.call
      · exact .list offset limit
      · intro reply
        exact calls_orFail reply fun names =>
          calls_loadGraphs (fun graphIri => .load graphIri offset limit) names []

theorem makes_upsert (catalog : Catalog) :
    (upsert support catalog).Calls (Makes support (.upsert catalog)) := by
  unfold upsert
  rw [nodeIri_eq]
  apply Program.Calls.call
  · exact .replace catalog
  · intro removed
    apply calls_orFail
    intro _
    apply Program.Calls.call
    · exact .insert catalog
    · intro inserted
      exact calls_orFail inserted fun _ => .done _

theorem makes_delete (node : NodeId) :
    (delete support node).Calls (Makes support (.delete node)) := by
  unfold delete
  rw [nodeIri_eq]
  apply Program.Calls.bind
  · apply Program.Calls.call
    · exact .look node
    · intro reply
      cases reply with
      | none => exact .done _
      | some found => exact calls_orFail found fun _ => .done _
  · intro found
    rcases found with error | _ | _
    · exact .done _
    · exact .done _
    · exact .call _ _ (.remove node) fun removed => calls_orFail removed fun _ => .done _

theorem makes_program (operation : Operation) :
    (program support operation).Calls (Makes support operation) := by
  cases operation with
  | upsert catalog => exact (makes_upsert catalog).bind fun _ => .done _
  | query asked => exact (makes_query asked).bind fun _ => .done _
  | delete node => exact (makes_delete node).bind fun _ => .done _

theorem Makes.cacheCall {operation : Operation} {request : StoreCall}
    (makes : Makes support operation request) : CacheCall support request := by
  cases makes with
  | replace catalog => exact .remove _ _
  | insert catalog => exact .insert catalog
  | look node => exact .find _ _ _
  | remove node => exact .remove _ _
  | read node offset limit => exact .find _ _ _
  | list offset limit => exact .list
  | load graphIri offset limit => exact .find _ _ _

theorem calls_program (operation : Operation) :
    (program support operation).Calls (CacheCall support) :=
  (makes_program operation).mono fun _ => Makes.cacheCall

theorem perform_forNode {store : GraphStore} (only : OnlyCatalogs support store)
    (order : StoreOrder) (node : NodeId) :
    ∃ found : Option Catalog, (found = none ↔ Vacant support store node) ∧
      perform support (fun _ => order.choice) store (.query (.forNode node)) =
        (.found (.ok found.toList), store) := by
  cases search : (order.quads store.quads).find? (Quad.matches (some (iriOf support node))
      (some catalogJsonPredicate) (some (iriOf support node))) with
  | none =>
      refine ⟨none, ⟨fun _ => ?_, fun _ => rfl⟩, ?_⟩
      · intro quad stored own
        obtain ⟨catalog, rfl⟩ := only quad stored
        have rejected := List.find?_eq_none.mp search _ ((order.quads_perm _).mem_iff.mpr stored)
        have sameNode : catalog.originNode = node := iriOf_injective support own
        simp [Quad.matches, catalogQuad, sameNode] at rejected
      · simp [perform, program, query, collect, CatalogQuery.forNode, loadGraph, StoreCall.answer,
          search]
        rfl
  | some quad =>
      have stored := (order.quads_perm _).mem_iff.mp (List.mem_of_find?_eq_some search)
      have matched := List.find?_some search
      obtain ⟨catalog, rfl⟩ := only quad stored
      refine ⟨some catalog, ⟨fun vacant => (by cases vacant), fun vacant => ?_⟩, ?_⟩
      · simp only [Quad.matches, Option.all_some, Bool.and_eq_true, decide_eq_true_eq] at matched
        exact absurd matched.1.1 (vacant _ stored)
      · simp [perform, program, query, collect, CatalogQuery.forNode, loadGraph, StoreCall.answer,
          search, orFail, Except.map]
        rfl

/-- An upsert fails before its first effect, between its two effects, or not at all. -/
theorem upsert_cases (catalog : Catalog) (choices : Nat → StoreChoice) (store : GraphStore) :
    (∃ message, (choices 0).fault = some message ∧
      (upsert support catalog).run StoreCall.perform choices store =
        (.error (.backend message), store)) ∨
    (∃ message, (choices 0).fault = none ∧ (choices 1).fault = some message ∧
      (upsert support catalog).run StoreCall.perform choices store =
        (.error (.backend message), store.clear support catalog.originNode)) ∨
    ((choices 0).fault = none ∧ (choices 1).fault = none ∧
      (upsert support catalog).run StoreCall.perform choices store =
        (.ok (), (store.clear support catalog.originNode).insert
          (catalogQuad support catalog))) := by
  cases first : (choices 0).fault with
  | some message =>
      left
      exact ⟨message, rfl, by simp [upsert, StoreCall.perform, StoreCall.failed, first, orFail]⟩
  | none =>
      right
      cases second : (choices 1).fault with
      | some message =>
          left
          refine ⟨message, rfl, rfl, ?_⟩
          simp [upsert, StoreCall.perform, StoreCall.failed, StoreCall.answer, first, second,
            orFail, GraphStore.clear]
      | none =>
          right
          refine ⟨rfl, rfl, ?_⟩
          simp [upsert, StoreCall.perform, StoreCall.answer, first, second, orFail,
            GraphStore.clear, catalogQuad]

end OxigraphCatalogCache

theorem FaultyExecution.onlyCatalogs (execution : FaultyExecution support)
    (starts : execution.state 0 = .idle .empty) {index : Nat}
    (bounded : index ≤ execution.events.length) :
    OnlyCatalogs support (execution.state index).shared := by
  apply Pool.shared_invariant OxigraphCatalogCache.calls_program
    (fun choice _ _ made only => made.onlyCatalogs choice only) execution
  · rw [starts]
    exact fun _ => rfl
  · rw [starts]
    intro quad stored
    cases stored
  · exact bounded

theorem clear_vacant {store : GraphStore} {node : NodeId} (vacant : Vacant support store node) :
    store.clear support node = store := by
  have kept : store.quads.filter (fun quad =>
      ¬(quad.subject = iriOf support node ∧ quad.graph = iriOf support node)) = store.quads := by
    apply List.filter_eq_self.mpr
    intro quad stored
    simp [vacant quad stored]
  simp only [GraphStore.clear, GraphStore.removeSubject, kept]

theorem OnlyCatalogs.clear {store : GraphStore} (only : OnlyCatalogs support store)
    (node : NodeId) :
    OnlyCatalogs support (store.clear support node) ∧
      Vacant support (store.clear support node) node := by
  constructor
  · exact (CacheCall.remove _ _).onlyCatalogs StoreOrder.plain.choice only
  · intro quad kept own
    obtain ⟨stored, different⟩ := (GraphStore.mem_removeSubject _ _ _ _).mp kept
    obtain ⟨catalog, rfl⟩ := only quad stored
    exact different ⟨own, own⟩

theorem not_alike_clear {store : GraphStore} (only : OnlyCatalogs support store)
    {node : NodeId} (held : ¬Vacant support store node) :
    ¬Alike support store (store.clear support node) := by
  intro alike
  obtain ⟨onlyLeft, vacant⟩ := only.clear node
  obtain ⟨found, foundIff, before⟩ := OxigraphCatalogCache.perform_forNode only .plain node
  obtain ⟨left, leftIff, after⟩ := OxigraphCatalogCache.perform_forNode onlyLeft .plain node
  have asked := alike [⟨.query (.forNode node), fun _ => StoreOrder.plain.choice⟩]
  have same := List.head_eq_of_cons_eq asked
  dsimp only at same
  rw [before, after, leftIff.mpr vacant] at same
  cases found with
  | none => exact held (foundIff.mp rfl)
  | some catalog => cases same

/-- If the upsert fails, nobody can tell afterwards that it was tried. -/
def LosesNothing (support : OxigraphSupport) (store : GraphStore) (catalog : Catalog)
    (choices : Nat → StoreChoice) : Prop :=
  ∀ error, ((OxigraphCatalogCache.upsert support catalog).run StoreCall.perform choices
    store).1 = .error error →
      Alike support store ((OxigraphCatalogCache.upsert support catalog).run StoreCall.perform
        choices store).2

/-- A failed upsert loses nothing exactly when its second step does not fail after its first
has removed something. -/
theorem failed_upsert_loses_nothing_iff (execution : FaultyExecution support)
    (starts : execution.state 0 = .idle .empty) {index : Nat}
    (bounded : index ≤ execution.events.length) (catalog : Catalog)
    (choices : Nat → StoreChoice) :
    LosesNothing support (execution.state index).shared catalog choices ↔
      ((choices 0).fault = none → (choices 1).fault ≠ none →
        Vacant support (execution.state index).shared catalog.originNode) := by
  have only := execution.onlyCatalogs starts bounded
  rcases OxigraphCatalogCache.upsert_cases catalog choices (execution.state index).shared with
    ⟨message, first, ran⟩ | ⟨message, first, second, ran⟩ | ⟨first, second, ran⟩
  · rw [LosesNothing, ran]
    constructor
    · intro _ unfailing
      cases first.symm.trans unfailing
    · intro _ error _ later
      rfl
  · rw [LosesNothing, ran]
    constructor
    · intro alike _ _
      by_contra held
      exact not_alike_clear only held (alike _ rfl)
    · intro vacant error _ later
      rw [clear_vacant (vacant first (by simp [second]))]
  · rw [LosesNothing, ran]
    constructor
    · intro _ _ failing
      exact absurd second failing
    · intro _ error failed
      cases failed

/-! ## A full disk -/

def diskFills : Nat → StoreChoice
  | 0 => StoreOrder.plain.choice
  | _ + 1 => ⟨.plain, some "disk full"⟩

def oneUpsert : FaultyExecution .standard :=
  .ofEvents (.idle .empty) [.start 0 (.upsert (.new "old" ⟨"north"⟩)),
    .advance 0 StoreOrder.plain.choice, .advance 0 StoreOrder.plain.choice] (by decide +kernel)

def failedUpsert : StoreResult Unit × GraphStore :=
  (OxigraphCatalogCache.upsert .standard (.new "new" ⟨"north"⟩)).run StoreCall.perform diskFills
    (oneUpsert.state 3).shared

def northEntry (store : GraphStore) : StoreResult (List Catalog) :=
  ((OxigraphCatalogCache.query .standard (.forNode ⟨"north"⟩)).run StoreCall.perform
    (fun _ => StoreOrder.plain.choice) store).1

theorem failed_insert_loses_the_old_catalog :
    failedUpsert.1 = .error (.backend "disk full") ∧
    northEntry (oneUpsert.state 3).shared = .ok [.new "old" ⟨"north"⟩] ∧
    northEntry failedUpsert.2 = .ok [] ∧
    ¬LosesNothing .standard (oneUpsert.state 3).shared (.new "new" ⟨"north"⟩) diskFills := by
  have failed : failedUpsert.1 = .error (.backend "disk full") := by decide +kernel
  have found : northEntry (oneUpsert.state 3).shared = .ok [.new "old" ⟨"north"⟩] := by
    decide +kernel
  have lost : northEntry failedUpsert.2 = .ok [] := by decide +kernel
  refine ⟨failed, found, lost, ?_⟩
  intro losesNothing
  have asked := losesNothing _ failed
    [⟨.query (.forNode ⟨"north"⟩), fun _ => StoreOrder.plain.choice⟩]
  have same := List.head_eq_of_cons_eq asked
  unfold OxigraphCatalogCache.perform OxigraphCatalogCache.program at same
  rw [Program.run_bind_done, Program.run_bind_done] at same
  have entries : northEntry (oneUpsert.state 3).shared = northEntry failedUpsert.2 :=
    Outcome.found.inj same
  rw [found, lost] at entries
  cases entries

theorem failed_removal_loses_nothing :
    LosesNothing .standard (oneUpsert.state 3).shared (.new "new" ⟨"north"⟩)
      (fun _ => ⟨.plain, some "disk full"⟩) :=
  (failed_upsert_loses_nothing_iff oneUpsert rfl (by decide) _ _).mpr (fun unfailing => by
    cases unfailing)

end FederatedCatalog.Store
