import FederatedCatalog.Store.FailedUpsert

/-!
# Stores with a past

The Oxigraph backend may find anything in its store: quads of somebody else,
a graph with two catalogs, a catalog that it cannot read.  A node that is
written again is as good as new, whatever its graph held; the other nodes keep
what they had; and a graph that cannot be read breaks listings until its node
is written.
-/

namespace FederatedCatalog.Store

open Foundation FederatedCatalog.Core Json

variable (support : OxigraphSupport)

/-- A quad about the graph that it is in; the cache looks at no other. -/
def Quad.Own (quad : Quad) : Prop := quad.subject = quad.graph

/-- The same about some graphs. -/
def SameOn (keep : NamedNode → Prop) (store other : GraphStore) : Prop :=
  ∀ quad : Quad, quad.Own → keep quad.graph → (quad ∈ store.quads ↔ quad ∈ other.quads)

inductive Within (keep : NamedNode → Prop) : StoreCall → Prop
  | find {graph : NamedNode} (kept : keep graph) (predicate : Option NamedNode) :
      Within keep (.firstQuadForPattern (some graph) predicate (some graph))
  | remove {graph : NamedNode} (kept : keep graph) :
      Within keep (.removeSubjectFromNamedGraph graph graph)
  | insert {graph : NamedNode} (kept : keep graph) (predicate : NamedNode) (object : Term) :
      Within keep (.insertInNamedGraph graph predicate object graph)

variable {support} {keep : NamedNode → Prop} {store other : GraphStore}

theorem SameOn.symm (same : SameOn keep store other) : SameOn keep other store :=
  fun quad own kept => (same quad own kept).symm

theorem SameOn.removeSubject (same : SameOn keep store other) (graph : NamedNode) :
    SameOn keep (store.removeSubject graph graph) (other.removeSubject graph graph) := by
  intro quad own kept
  simp only [GraphStore.mem_removeSubject, same quad own kept]

theorem SameOn.insert (same : SameOn keep store other) (added : Quad) :
    SameOn keep (store.insert added) (other.insert added) := by
  intro quad own kept
  simp only [GraphStore.mem_insert, same quad own kept]

theorem Quad.own_of_matches {graph : NamedNode} {predicate : Option NamedNode} {quad : Quad}
    (matched : Quad.matches (some graph) predicate (some graph) quad = true) :
    quad.Own ∧ quad.graph = graph := by
  simp only [Quad.matches, Option.all_some, Bool.and_eq_true, decide_eq_true_eq] at matched
  exact ⟨matched.1.1.trans matched.2.symm, matched.2⟩

def StoreOrder.startingWith (quad : Quad) : StoreOrder where
  quads stored := if quad ∈ stored then quad :: stored.erase quad else stored
  quads_perm stored := by
    split
    · next present => exact (List.perm_cons_erase present).symm
    · exact .refl _
  graphs := StoreOrder.plain.graphs
  graphs_nodup := StoreOrder.plain.graphs_nodup
  graphs_complete := StoreOrder.plain.graphs_complete

theorem find?_startingWith {quad : Quad} (present : quad ∈ store.quads) {accepts : Quad → Bool}
    (accepted : accepts quad = true) :
    ((StoreOrder.startingWith quad).quads store.quads).find? accepts = some quad := by
  simp [StoreOrder.startingWith, present, accepted]

theorem SameOn.find (same : SameOn keep store other) {graph : NamedNode} (kept : keep graph)
    (predicate : Option NamedNode) (order : StoreOrder) :
    ∃ otherOrder : StoreOrder,
      (otherOrder.quads other.quads).find? (Quad.matches (some graph) predicate (some graph)) =
        (order.quads store.quads).find? (Quad.matches (some graph) predicate (some graph)) := by
  cases search : (order.quads store.quads).find?
      (Quad.matches (some graph) predicate (some graph)) with
  | some quad =>
      have matched := List.find?_some search
      have ⟨own, inGraph⟩ := Quad.own_of_matches matched
      have stored := (order.quads_perm _).mem_iff.mp (List.mem_of_find?_eq_some search)
      have otherStored := (same quad own (inGraph ▸ kept)).mp stored
      exact ⟨.startingWith quad, find?_startingWith otherStored matched⟩
  | none =>
      refine ⟨.plain, List.find?_eq_none.mpr ?_⟩
      intro quad otherStored matched
      have ⟨own, inGraph⟩ := Quad.own_of_matches matched
      have stored := (same quad own (inGraph ▸ kept)).mpr otherStored
      exact List.find?_eq_none.mp search quad ((order.quads_perm _).mem_iff.mpr stored) matched

def StoreChoice.Usual (choice : StoreChoice) : Prop := choice.fault = none

theorem SameOn.step (same : SameOn keep store other) {request : StoreCall}
    (within : Within keep request) {choice : StoreChoice} (usual : choice.Usual) :
    ∃ otherChoice : StoreChoice, otherChoice.Usual ∧
      (StoreCall.perform choice store request).1 =
        (StoreCall.perform otherChoice other request).1 ∧
      SameOn keep (StoreCall.perform choice store request).2
        (StoreCall.perform otherChoice other request).2 := by
  obtain ⟨order, fault⟩ := choice
  obtain rfl : fault = none := usual
  cases within with
  | find kept predicate =>
      obtain ⟨otherOrder, found⟩ := same.find kept predicate order
      refine ⟨otherOrder.choice, rfl, ?_, same⟩
      simp only [StoreCall.perform, StoreOrder.choice, StoreCall.answer, found]
      rfl
  | remove _ => exact ⟨⟨order, none⟩, rfl, rfl, same.removeSubject _⟩
  | insert _ predicate object => exact ⟨⟨order, none⟩, rfl, rfl, same.insert _⟩

theorem SameOn.trans {last : GraphStore} (first : SameOn keep store other)
    (second : SameOn keep other last) : SameOn keep store last :=
  fun quad own kept => (first quad own kept).trans (second quad own kept)

theorem SameOn.mono {fewer : NamedNode → Prop} (same : SameOn keep store other)
    (includes : ∀ graph, fewer graph → keep graph) : SameOn fewer store other :=
  fun quad own kept => same quad own (includes _ kept)

def Operation.writes : Operation → Option NodeId
  | .upsert catalog => some catalog.originNode
  | .query _ => none
  | .delete node => some node

variable (support) in
def Operation.effect (store : GraphStore) : Operation → GraphStore
  | .upsert catalog =>
      (store.clear support catalog.originNode).insert (catalogQuad support catalog)
  | .query _ => store
  | .delete node => store.clear support node

theorem reads_unchanged {asked : CatalogQuery} {request : StoreCall}
    (makes : OxigraphCatalogCache.Makes support (.query asked) request) (choice : StoreChoice) (store : GraphStore) :
    (StoreCall.perform choice store request).2 = store := by
  unfold StoreCall.perform
  cases choice.fault with
  | some message => rfl
  | none => cases makes <;> rfl

theorem sameOn_clear {node : NodeId}
    (nothing : ∀ quad ∈ store.quads, quad.Own → quad.graph ≠ iriOf support node) :
    SameOn keep store (store.clear support node) := by
  intro quad own _
  rw [GraphStore.clear, GraphStore.mem_removeSubject]
  constructor
  · intro stored
    exact ⟨stored, fun removed => nothing quad stored own removed.2⟩
  · intro cleared
    exact cleared.1

theorem perform_effect (orders : Nat → StoreOrder) (store : GraphStore) (operation : Operation) :
    SameOn (fun _ => True)
      (OxigraphCatalogCache.perform support (steady orders) store operation).2
      (operation.effect support store) := by
  cases operation with
  | upsert catalog =>
      intro quad own _
      simp [OxigraphCatalogCache.perform, OxigraphCatalogCache.program,
        OxigraphCatalogCache.upsert, orFail, StoreCall.answer, Operation.effect, GraphStore.clear,
        catalogQuad]
  | query asked =>
      have calls := @OxigraphCatalogCache.makes_program support (.query asked)
      rw [OxigraphCatalogCache.perform, calls.unchanged _ (fun _ => reads_unchanged)]
      exact fun _ _ _ => .rfl
  | delete node =>
      cases search : ((orders 0).quads store.quads).find?
          (Quad.matches (some (iriOf support node)) none (some (iriOf support node))) with
      | none =>
          have vacant : ∀ quad ∈ store.quads, quad.Own → quad.graph ≠ iriOf support node := by
            intro quad stored own inGraph
            have listed := ((orders 0).quads_perm _).mem_iff.mpr stored
            apply List.find?_eq_none.mp search quad listed
            have subject : quad.subject = iriOf support node := own.trans inGraph
            simp [Quad.matches, inGraph, subject]
          have unchanged : (OxigraphCatalogCache.perform support (steady orders) store
              (.delete node)).2 = store := by
            simp [OxigraphCatalogCache.perform, OxigraphCatalogCache.program,
              OxigraphCatalogCache.delete, OxigraphCatalogCache.hasSubject, StoreCall.answer, search]
          rw [unchanged]
          exact sameOn_clear vacant
      | some quad =>
          intro quad own _
          simp [OxigraphCatalogCache.perform, OxigraphCatalogCache.program,
            OxigraphCatalogCache.delete, OxigraphCatalogCache.hasSubject, StoreCall.answer, search,
            orFail, Operation.effect, GraphStore.clear]

theorem effect_written {operation : Operation} {node : NodeId}
    (writes : operation.writes = some node) (store other : GraphStore) :
    SameOn (· = iriOf support node) (operation.effect support store)
      (operation.effect support other) := by
  have cleared : SameOn (· = iriOf support node) (store.clear support node)
      (other.clear support node) := by
    intro quad own inGraph
    have subject : quad.subject = iriOf support node := own.trans inGraph
    simp [GraphStore.clear, subject, inGraph]
  cases operation with
  | upsert catalog =>
      obtain rfl := Option.some.inj writes
      exact cleared.insert _
  | query _ => cases writes
  | delete removed =>
      obtain rfl := Option.some.inj writes
      exact cleared

theorem effect_elsewhere {operation : Operation} {graph : NamedNode}
    (elsewhere : ∀ node, operation.writes = some node → graph ≠ iriOf support node)
    (store : GraphStore) : SameOn (· = graph) (operation.effect support store) store := by
  intro quad _ inGraph
  cases operation with
  | upsert catalog =>
      have other := elsewhere _ rfl
      have different : quad ≠ catalogQuad support catalog := by
        rintro rfl
        exact other inGraph.symm
      simp [Operation.effect, GraphStore.clear, different, inGraph, other]
  | query _ => rfl
  | delete node =>
      have other := elsewhere _ rfl
      simp [Operation.effect, GraphStore.clear, inGraph, other]

variable (support) in
def oxigraphFrom (initial : GraphStore) (turns : List Turn) : GraphStore :=
  turns.foldl (fun store turn =>
    (OxigraphCatalogCache.perform support (steady turn.storeOrders) store turn.operation).2) initial

/-- A node that some call has replaced or removed. -/
def Written (turns : List Turn) (node : NodeId) : Prop :=
  ∃ turn ∈ turns, turn.operation.writes = some node

variable (support) in
theorem oxigraphFrom_append (initial : GraphStore) (turns : List Turn) (turn : Turn) :
    SameOn (fun _ => True) (oxigraphFrom support initial (turns ++ [turn]))
      (turn.operation.effect support (oxigraphFrom support initial turns)) := by
  rw [oxigraphFrom, List.foldl_append]
  exact perform_effect turn.storeOrders _ turn.operation

theorem sameOn_unwritten {turns : List Turn} {graph : NamedNode}
    (elsewhere : ∀ node, Written turns node → graph ≠ iriOf support node) (initial : GraphStore) :
    SameOn (· = graph) (oxigraphFrom support initial turns) initial := by
  induction turns using List.reverseRecOn with
  | nil => exact fun _ _ _ => .rfl
  | append_singleton turns turn inductionHypothesis =>
      have before := inductionHypothesis fun node ⟨other, listed, writes⟩ =>
        elsewhere node ⟨other, List.mem_append_left _ listed, writes⟩
      have last := effect_elsewhere (fun node writes => elsewhere node
        ⟨turn, by simp, writes⟩) (oxigraphFrom support initial turns)
      have after : SameOn (· = graph) _ _ :=
        (oxigraphFrom_append support initial turns turn).mono fun _ _ => trivial
      exact (after.trans last).trans before

theorem sameOn_written {turns : List Turn} {node : NodeId} (written : Written turns node)
    (initial other : GraphStore) :
    SameOn (· = iriOf support node) (oxigraphFrom support initial turns)
      (oxigraphFrom support other turns) := by
  induction turns using List.reverseRecOn with
  | nil =>
      obtain ⟨_, none, _⟩ := written
      cases none
  | append_singleton turns turn inductionHypothesis =>
      have after : ∀ start, SameOn (· = iriOf support node) _ _ := fun start =>
        (oxigraphFrom_append support start turns turn).mono fun _ _ => trivial
      by_cases last : turn.operation.writes = some node
      · exact ((after initial).trans (effect_written last _ _)).trans (after other).symm
      · have earlier : Written turns node := by
          obtain ⟨one, listed, writes⟩ := written
          rcases List.mem_append.mp listed with before | now
          · exact ⟨one, before, writes⟩
          · rw [List.mem_singleton.mp now] at writes
            exact absurd writes last
        have kept : ∀ store, SameOn (· = iriOf support node)
            (turn.operation.effect support store) store := by
          apply effect_elsewhere
          intro wrote writes same
          rw [iriOf_injective support same] at last
          exact last writes
        exact (((after initial).trans (kept _)).trans (inductionHypothesis earlier)).trans
          (((after other).trans (kept _)).symm)

open OxigraphCatalogCache in
theorem within_of_makes {node : NodeId} {offset : Nat} {limit : Option Nat} {request : StoreCall}
    (makes : Makes support (.query ⟨some node, offset, limit⟩) request) :
    Within (· = iriOf support node) request := by
  cases makes with
  | read =>
      apply Within.find
      rfl

theorem StoreChoice.Usual.eq_choice {choice : StoreChoice} (usual : choice.Usual) :
    choice = choice.order.choice := by
  obtain ⟨order, fault⟩ := choice
  obtain rfl : fault = none := usual
  rfl

theorem steady_of_usual {choices : Nat → StoreChoice} (usual : ∀ index, (choices index).Usual) :
    choices = steady fun index => (choices index).order :=
  funext fun index => (usual index).eq_choice

theorem query_node_same {node : NodeId} (same : SameOn (· = iriOf support node) store other)
    (orders : Nat → StoreOrder) (offset : Nat) (limit : Option Nat) :
    ∃ otherOrders : Nat → StoreOrder,
      (OxigraphCatalogCache.perform support (steady orders) store
        (.query ⟨some node, offset, limit⟩)).1 =
      (OxigraphCatalogCache.perform support (steady otherOrders) other
        (.query ⟨some node, offset, limit⟩)).1 := by
  have calls := (@OxigraphCatalogCache.makes_program support
    (.query ⟨some node, offset, limit⟩)).mono fun _ => within_of_makes
  obtain ⟨choices, usual, answered, _⟩ := calls.simulates StoreCall.perform
    (fun _ within _ _ _ usual same => same.step within usual) (steady orders) (fun _ => rfl) same
  rw [steady_of_usual usual] at answered
  exact ⟨_, answered⟩

/-- A store with the quads of another one, as far as the cache can see it, and no others. -/
structure Purified (store pure : GraphStore) : Prop where
  same : SameOn (fun _ => True) store pure
  own : ∀ quad ∈ pure.quads, quad.Own

open OxigraphCatalogCache in
theorem makes_cases {operation : Operation} {request : StoreCall}
    (makes : Makes support operation request) :
    request = .namedGraphs ∨ Within (fun _ => True) request := by
  cases makes with
  | replace _ => exact .inr (.remove trivial)
  | insert _ => exact .inr (.insert trivial _ _)
  | look _ => exact .inr (.find trivial _)
  | remove _ => exact .inr (.remove trivial)
  | read _ _ _ => exact .inr (.find trivial _)
  | list _ _ => exact .inl rfl
  | load _ _ _ => exact .inr (.find trivial _)

theorem own_perform {request : StoreCall} (within : Within keep request) (choice : StoreChoice)
    (own : ∀ quad ∈ store.quads, quad.Own) :
    ∀ quad ∈ (StoreCall.perform choice store request).2.quads, quad.Own := by
  unfold StoreCall.perform
  cases choice.fault with
  | some message => exact own
  | none =>
      cases within with
      | find _ _ => exact own
      | remove _ =>
          intro quad kept
          exact own quad ((GraphStore.mem_removeSubject store _ _ quad).mp kept).1
      | insert _ _ _ =>
          intro quad stored
          rcases (GraphStore.mem_insert store _ quad).mp stored with rfl | before
          · exact rfl
          · exact own quad before

def StoreOrder.listingAs (order : StoreOrder) {store pure : GraphStore}
    (includes : ∀ quad ∈ pure.quads, quad ∈ store.quads) : StoreOrder where
  quads stored := stored
  quads_perm _ := .refl _
  graphs stored :=
    if stored = pure.quads then order.graphs store.quads else StoreOrder.plain.graphs stored
  graphs_nodup stored := by
    split
    · exact order.graphs_nodup _
    · exact StoreOrder.plain.graphs_nodup stored
  graphs_complete stored quad membership := by
    split
    · next same => exact order.graphs_complete _ quad (includes quad (same ▸ membership))
    · exact StoreOrder.plain.graphs_complete stored quad membership

theorem Purified.step {pure : GraphStore} (purified : Purified store pure) {request : StoreCall}
    (makes : request = .namedGraphs ∨ Within (fun _ => True) request) {choice : StoreChoice}
    (usual : choice.Usual) :
    ∃ otherChoice : StoreChoice, otherChoice.Usual ∧
      (StoreCall.perform choice store request).1 =
        (StoreCall.perform otherChoice pure request).1 ∧
      Purified (StoreCall.perform choice store request).2
        (StoreCall.perform otherChoice pure request).2 := by
  rcases makes with rfl | within
  · have includes : ∀ quad ∈ pure.quads, quad ∈ store.quads := fun quad stored =>
      (purified.same quad (purified.own quad stored) trivial).mpr stored
    have listed : (choice.order.listingAs includes).graphs pure.quads =
        choice.order.graphs store.quads := if_pos rfl
    rw [usual.eq_choice]
    refine ⟨(choice.order.listingAs includes).choice, rfl, ?_, purified⟩
    rw [StoreCall.perform_choice, StoreCall.perform_choice]
    simp only [StoreCall.answer, listed]
    rfl
  · obtain ⟨otherChoice, otherUsual, replied, same⟩ := purified.same.step within usual
    exact ⟨otherChoice, otherUsual, replied, same, own_perform within otherChoice purified.own⟩

/-- What the cache cannot see changes no answer. -/
theorem perform_purified {pure : GraphStore} (purified : Purified store pure)
    (orders : Nat → StoreOrder) (operation : Operation) :
    ∃ otherOrders : Nat → StoreOrder,
      (OxigraphCatalogCache.perform support (steady orders) store operation).1 =
      (OxigraphCatalogCache.perform support (steady otherOrders) pure operation).1 := by
  have calls := (@OxigraphCatalogCache.makes_program support operation).mono fun _ => makes_cases
  obtain ⟨choices, usual, answered, _⟩ := calls.simulates StoreCall.perform
    (fun _ makes _ _ _ usual purified => purified.step makes usual) (steady orders) (fun _ => rfl)
    purified
  rw [steady_of_usual usual] at answered
  exact ⟨_, answered⟩

/-! ## Graphs that cannot be read -/

variable (support) in
def loadedFrom : Option Quad → StoreResult (Option Catalog)
  | none => .ok none
  | some quad => (OxigraphCatalogCache.readObject support quad.object).map some

/-- A quad in which `load_graph` finds no catalog. -/
structure Poisons (support : OxigraphSupport) (store : GraphStore) (quad : Quad) : Prop where
  stored : quad ∈ store.quads
  own : quad.Own
  predicate : quad.predicate = catalogJsonPredicate
  unreadable : ∃ error, OxigraphCatalogCache.readObject support quad.object = .error error

namespace OxigraphCatalogCache

theorem loadGraph_any (orders : Nat → StoreOrder) (store : GraphStore) (graph : NamedNode)
    {Result : Type} (next : StoreResult (Option Catalog) → StoreProgram Result) :
    ((loadGraph support graph).bind next).run StoreCall.perform (steady orders) store =
      (next (loadedFrom support (((orders 0).quads store.quads).find?
        (Quad.matches (some graph) (some catalogJsonPredicate) (some graph))))).run
          StoreCall.perform (steady fun index => orders (index + 1)) store := by
  cases search : ((orders 0).quads store.quads).find?
      (Quad.matches (some graph) (some catalogJsonPredicate) (some graph)) with
  | none =>
      simp [loadGraph, StoreCall.answer, search, loadedFrom]
      rfl
  | some quad =>
      simp [loadGraph, StoreCall.answer, search, orFail, loadedFrom]
      rfl

theorem loadGraphs_clean (clean : ∀ quad, ¬Poisons support store quad) (orders : Nat → StoreOrder)
    (names : List NamedOrBlankNode) (results : List Catalog) :
    ∃ catalogs, ((loadGraphs support names results).run StoreCall.perform (steady orders) store).1 =
      .ok catalogs := by
  induction names generalizing orders results with
  | nil => exact ⟨results, rfl⟩
  | cons name rest inductionHypothesis =>
      cases name with
      | blankNode id => exact inductionHypothesis orders results
      | namedNode graph =>
          rw [loadGraphs, loadGraph_any]
          cases search : ((orders 0).quads store.quads).find?
              (Quad.matches (some graph) (some catalogJsonPredicate) (some graph)) with
          | none => exact inductionHypothesis _ results
          | some quad =>
              have matched := List.find?_some search
              have own := (Quad.own_of_matches matched).1
              have stored := ((orders 0).quads_perm _).mem_iff.mp (List.mem_of_find?_eq_some search)
              simp only [Quad.matches, Option.all_some, Bool.and_eq_true, decide_eq_true_eq]
                at matched
              cases read : readObject support quad.object with
              | error error =>
                  exact absurd ⟨stored, own, matched.1.2, error, read⟩ (clean quad)
              | ok catalog =>
                  simp only [loadedFrom, read, Except.map]
                  exact inductionHypothesis _ (results ++ [catalog])

theorem loadGraphs_poisoned {quad : Quad} (poisons : Poisons support store quad)
    {names : List NamedOrBlankNode} (listed : .namedNode quad.graph ∈ names)
    (results : List Catalog) :
    ∃ error, ((loadGraphs support names results).run StoreCall.perform
      (steady fun _ => .startingWith quad) store).1 = .error error := by
  obtain ⟨error, read⟩ := poisons.unreadable
  induction names generalizing results with
  | nil => cases listed
  | cons name rest inductionHypothesis =>
      cases name with
      | blankNode id =>
          have later := (List.mem_cons.mp listed).resolve_left nofun
          exact inductionHypothesis later results
      | namedNode graph =>
          rw [loadGraphs, loadGraph_any]
          by_cases here : graph = quad.graph
          · have matched : Quad.matches (some graph) (some catalogJsonPredicate) (some graph) quad =
                true := by
              have subject : quad.subject = quad.graph := poisons.own
              simp [Quad.matches, here, subject, poisons.predicate]
            rw [find?_startingWith poisons.stored matched]
            simp only [loadedFrom, read, Except.map]
            exact ⟨error, rfl⟩
          · have later : .namedNode quad.graph ∈ rest :=
              (List.mem_cons.mp listed).resolve_left fun same =>
                here (NamedOrBlankNode.namedNode.inj same).symm
            rcases loadedFrom support (((StoreOrder.startingWith quad).quads store.quads).find?
              (Quad.matches (some graph) (some catalogJsonPredicate) (some graph))) with
              failed | _ | catalog
            · exact ⟨failed, rfl⟩
            · exact inductionHypothesis later results
            · exact inductionHypothesis later (results ++ [catalog])

/-- A query for everything can fail exactly when some graph is poisoned. -/
theorem listing_fails_iff (store : GraphStore) (offset : Nat) (limit : Option Nat) :
    (∃ orders error, (perform support (steady orders) store (.query ⟨none, offset, limit⟩)).1 =
      .found (.error error)) ↔ ∃ quad, Poisons support store quad := by
  have answered : ∀ orders : Nat → StoreOrder,
      (perform support (steady orders) store (.query ⟨none, offset, limit⟩)).1 =
        .found (((loadGraphs support ((orders 0).graphs store.quads) []).run StoreCall.perform
          (steady fun index => orders (index + 1)) store).1.map
            (CatalogQuery.mk none offset limit).paginate) := by
    intro orders
    rw [perform, program, Program.run_bind_done, query, Program.run_bind_done]
    rfl
  constructor
  · rintro ⟨orders, error, failed⟩
    by_contra clean
    obtain ⟨catalogs, found⟩ := loadGraphs_clean (not_exists.mp clean)
      (fun index => orders (index + 1)) ((orders 0).graphs store.quads) []
    rw [answered, found] at failed
    cases failed
  · rintro ⟨quad, poisons⟩
    have listed := (StoreOrder.startingWith quad).graphs_complete store.quads quad poisons.stored
    obtain ⟨error, failed⟩ := loadGraphs_poisoned poisons listed []
    refine ⟨fun _ => .startingWith quad, error, ?_⟩
    rw [answered, failed]
    rfl

end OxigraphCatalogCache

/-! ## Healing -/

def MayAnswer (support : OxigraphSupport) (store : GraphStore) (operation : Operation)
    (outcome : Outcome) : Prop :=
  ∃ orders, (OxigraphCatalogCache.perform support (steady orders) store operation).1 = outcome

/-- How a store with a past behaves after some calls. -/
structure Heals (support : OxigraphSupport) (initial : GraphStore) (turns : List Turn) : Prop where
  /-- What was written is found as if there had been nothing else. -/
  written : ∀ node, Written turns node → ∀ offset limit outcome,
    MayAnswer support (oxigraphFrom support initial turns) (.query ⟨some node, offset, limit⟩)
      outcome →
    Answers (contentAfter (turns.map Turn.operation)) (.query ⟨some node, offset, limit⟩) outcome
  unwritten : ∀ node, ¬Written turns node → ∀ offset limit outcome,
    MayAnswer support (oxigraphFrom support initial turns) (.query ⟨some node, offset, limit⟩)
      outcome ↔
    MayAnswer support initial (.query ⟨some node, offset, limit⟩) outcome
  /-- Listings can fail as long as an unreadable graph has not been written. -/
  listing : ∀ offset limit,
    (∃ error, MayAnswer support (oxigraphFrom support initial turns) (.query ⟨none, offset, limit⟩)
      (.found (.error error))) ↔
    ∃ quad, Poisons support initial quad ∧
      ∀ node, Written turns node → quad.graph ≠ iriOf support node
  /-- Once every used graph has been written, the past has no influence at all. -/
  cured : (∀ quad ∈ initial.quads, quad.Own →
      ∃ node, Written turns node ∧ quad.graph = iriOf support node) →
    ∀ operation outcome, MayAnswer support (oxigraphFrom support initial turns) operation outcome →
      Answers (contentAfter (turns.map Turn.operation)) operation outcome

theorem mayAnswer_oxigraphAfter {turns : List Turn} {operation : Operation} {outcome : Outcome}
    (may : MayAnswer support (oxigraphAfter support turns) operation outcome) :
    Answers (contentAfter (turns.map Turn.operation)) operation outcome := by
  obtain ⟨orders, rfl⟩ := may
  exact (OxigraphCatalogCache.perform_refines (represents_oxigraphAfter support turns) orders
    operation).1

theorem SameOn.mayAnswer {node : NodeId} (same : SameOn (· = iriOf support node) store other)
    {offset : Nat} {limit : Option Nat} {outcome : Outcome}
    (may : MayAnswer support store (.query ⟨some node, offset, limit⟩) outcome) :
    MayAnswer support other (.query ⟨some node, offset, limit⟩) outcome := by
  obtain ⟨orders, rfl⟩ := may
  obtain ⟨otherOrders, answered⟩ := query_node_same same orders offset limit
  exact ⟨otherOrders, answered.symm⟩

theorem oxigraphAfter_own (turns : List Turn) :
    ∀ quad ∈ (oxigraphAfter support turns).quads, quad.Own := by
  intro quad stored
  obtain ⟨catalog, _, rfl⟩ := ((represents_oxigraphAfter support turns).quads quad).mp stored
  rfl

theorem purified_oxigraphFrom {initial : GraphStore} {turns : List Turn}
    (covered : ∀ quad ∈ initial.quads, quad.Own →
      ∃ node, Written turns node ∧ quad.graph = iriOf support node) :
    Purified (oxigraphFrom support initial turns) (oxigraphAfter support turns) where
  own := oxigraphAfter_own turns
  same := by
    intro quad own _
    by_cases written : ∃ node, Written turns node ∧ quad.graph = iriOf support node
    · obtain ⟨node, wrote, inGraph⟩ := written
      exact sameOn_written wrote initial .empty quad own inGraph
    · have elsewhere : ∀ node, Written turns node → quad.graph ≠ iriOf support node :=
        fun node wrote inGraph => written ⟨node, wrote, inGraph⟩
      have fromInitial := sameOn_unwritten elsewhere initial quad own rfl
      have fromEmpty := sameOn_unwritten elsewhere .empty quad own rfl
      have absent : quad ∉ initial.quads := fun stored => written (covered quad stored own)
      exact iff_of_false (absent ∘ fromInitial.mp) (List.not_mem_nil ∘ fromEmpty.mp)

theorem poisons_oxigraphFrom {initial : GraphStore} {turns : List Turn} {quad : Quad} :
    Poisons support (oxigraphFrom support initial turns) quad ↔
      Poisons support initial quad ∧
        ∀ node, Written turns node → quad.graph ≠ iriOf support node := by
  constructor
  · rintro ⟨stored, own, predicate, error, unreadable⟩
    have elsewhere : ∀ node, Written turns node → quad.graph ≠ iriOf support node := by
      intro node wrote inGraph
      have fresh := (sameOn_written wrote initial .empty quad own inGraph).mp stored
      obtain ⟨catalog, _, rfl⟩ := ((represents_oxigraphAfter support turns).quads quad).mp fresh
      rw [readObject_catalogQuad] at unreadable
      cases unreadable
    have before := (sameOn_unwritten elsewhere initial quad own rfl).mp stored
    exact ⟨⟨before, own, predicate, error, unreadable⟩, elsewhere⟩
  · rintro ⟨⟨stored, own, predicate, unreadable⟩, elsewhere⟩
    exact ⟨(sameOn_unwritten elsewhere initial quad own rfl).mpr stored, own, predicate, unreadable⟩

/-- From any store, calls that succeed heal what they write and leave the rest alone. -/
theorem any_store_heals (support : OxigraphSupport) (initial : GraphStore) (turns : List Turn) :
    Heals support initial turns where
  written := by
    intro node wrote offset limit outcome may
    exact mayAnswer_oxigraphAfter ((sameOn_written wrote initial .empty).mayAnswer may)
  unwritten := by
    intro node untouched offset limit outcome
    have elsewhere : ∀ other, Written turns other → iriOf support node ≠ iriOf support other := by
      intro other wrote same
      rw [iriOf_injective support same] at untouched
      exact untouched wrote
    have same := sameOn_unwritten elsewhere initial
    exact ⟨same.mayAnswer, same.symm.mayAnswer⟩
  listing := by
    intro offset limit
    have fails := @OxigraphCatalogCache.listing_fails_iff support
      (oxigraphFrom support initial turns) offset limit
    simp only [poisons_oxigraphFrom] at fails
    rw [← fails, exists_comm]
    rfl
  cured := by
    intro covered operation outcome ⟨orders, answered⟩
    obtain ⟨otherOrders, same⟩ := perform_purified (purified_oxigraphFrom covered) orders operation
    exact mayAnswer_oxigraphAfter ⟨otherOrders, same.symm.trans answered⟩

end FederatedCatalog.Store
