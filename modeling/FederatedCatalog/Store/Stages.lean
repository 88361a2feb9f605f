import FederatedCatalog.Foundation.Interleaving
import FederatedCatalog.Store.Refinement

/-!
# The atomic steps of the Oxigraph operations

Any number of calls under way on one `OxigraphCatalogCache`, interleaved at
the graph store's atomic calls.  A call in progress is always at one of a few
stages, and `Move` lists what its next atomic step does from each of them.
-/

namespace FederatedCatalog.Store

open Foundation FederatedCatalog.Core

abbrev CacheTask := Task StoreCall StoreCall.Reply Operation Outcome

abbrev CachePool := Pool GraphStore StoreCall StoreCall.Reply Nat Operation Outcome

abbrev CacheEvent := PoolEvent StoreOrder Nat Operation

variable (support : OxigraphSupport)

abbrev cacheStep : CachePool → CacheEvent → Option CachePool :=
  Pool.step StoreCall.answer (OxigraphCatalogCache.program support)

abbrev CacheExecution := Execution (cacheStep support)

/-- The local variables of `query`'s loop: the graphs still to read, and `results`. -/
structure ReaderView where
  todo : List NamedNode
  results : List Catalog

def NamedOrBlankNode.asNamed : NamedOrBlankNode → Option NamedNode
  | .namedNode graphIri => some graphIri
  | .blankNode _ => none

def loaded (reply : Option (Except String Quad)) : Option Catalog :=
  match reply with
  | some (.ok quad) => (OxigraphCatalogCache.readObject support quad.object).toOption
  | _ => none

def ReaderView.after (view : ReaderView) :
    (Σ request : StoreCall, request.Reply) → ReaderView
  | ⟨.namedGraphs, .ok graphNames⟩ => ⟨graphNames.filterMap NamedOrBlankNode.asNamed, []⟩
  | ⟨.firstQuadForPattern _ _ _, reply⟩ =>
      ⟨view.todo.tail, view.results ++ (loaded support reply).toList⟩
  | _ => view

def viewOf (transcript : List (Σ request : StoreCall, request.Reply)) : ReaderView :=
  transcript.foldl (ReaderView.after support) ⟨[], []⟩

theorem viewOf_append (transcript : List (Σ request : StoreCall, request.Reply))
    (answered : Σ request : StoreCall, request.Reply) :
    viewOf support (transcript ++ [answered]) =
      (viewOf support transcript).after support answered := by
  simp [viewOf]

@[simp]
theorem loaded_catalogQuad (found : Option Catalog) :
    loaded support ((found.map (catalogQuad support)).map .ok) = found := by
  cases found <;> simp [loaded, Except.toOption]

/-! ## Stages -/

/-- An upsert between its remove and its insert. -/
def inserting (catalog : Catalog) : StoreProgram Outcome :=
  .call (.insertInNamedGraph (iriOf support catalog.originNode) catalogJsonPredicate
      (.literal (support.json.print catalog.toValue)) (iriOf support catalog.originNode))
    fun inserted => (orFail inserted fun _ => .done (.ok ())).bind fun result =>
      .done (.upserted result)

def removing (node : NodeId) : StoreProgram Outcome :=
  .call (.removeSubjectFromNamedGraph (iriOf support node) (iriOf support node))
    fun removed => (orFail removed fun _ => .done (.ok true)).bind fun result =>
      .done (.deleted result)

def reading (query : CatalogQuery) (view : ReaderView) : StoreProgram Outcome :=
  ((OxigraphCatalogCache.loadGraphs support (view.todo.map .namedNode) view.results).bind
    fun results => .done (results.map query.paginate)).bind fun result => .done (.found result)

theorem loadGraphs_named (graphNames : List NamedOrBlankNode) (results : List Catalog) :
    OxigraphCatalogCache.loadGraphs support graphNames results =
      OxigraphCatalogCache.loadGraphs support
        ((graphNames.filterMap NamedOrBlankNode.asNamed).map .namedNode) results := by
  induction graphNames generalizing results with
  | nil => rfl
  | cons name rest inductionHypothesis =>
      cases name with
      | blankNode id => exact inductionHypothesis results
      | namedNode graphIri =>
          simp only [List.filterMap_cons, NamedOrBlankNode.asNamed, List.map_cons,
            OxigraphCatalogCache.loadGraphs]
          congr 1
          funext entry
          rcases entry with error | _ | catalog
          · rfl
          · exact inductionHypothesis results
          · exact inductionHypothesis (results ++ [catalog])

@[simp]
theorem reading_nil (query : CatalogQuery) (results : List Catalog) :
    reading support query ⟨[], results⟩ = .done (.found (.ok (query.paginate results))) := rfl

theorem reading_eq_done {query : CatalogQuery} {view : ReaderView} {outcome : Outcome}
    (returned : reading support query view = .done outcome) :
    view.todo = [] ∧ outcome = .found (.ok (query.paginate view.results)) := by
  rcases view with ⟨todo, results⟩
  cases todo with
  | nil =>
      rw [reading_nil] at returned
      cases returned
      exact ⟨rfl, rfl⟩
  | cons graph rest =>
      simp [reading, OxigraphCatalogCache.loadGraphs, OxigraphCatalogCache.loadGraph] at returned

inductive Stage (task : CacheTask) : Prop
  | fresh (untouched : task.transcript = [])
      (program_eq : task.program = OxigraphCatalogCache.program support task.job)
  | inserting (catalog : Catalog) (job_eq : task.job = .upsert catalog)
      (program_eq : task.program = inserting support catalog)
  | removing (node : NodeId) (job_eq : task.job = .delete node)
      (program_eq : task.program = removing support node)
  | reading (query : CatalogQuery) (job_eq : task.job = .query query)
      (unfiltered : query.originNode = none)
      (program_eq : task.program = reading support query (viewOf support task.transcript))
  | finished (outcome : Outcome) (program_eq : task.program = .done outcome)

/-- The next atomic step of `task`, from what the store holds to what is left
to do and what the store holds then. -/
inductive Move (order : StoreOrder) (store : GraphStore) (task : CacheTask)
    (request : StoreCall) (left : StoreProgram Outcome) (after : GraphStore) : Prop
  | clear (catalog : Catalog) (job_eq : task.job = .upsert catalog)
      (untouched : task.transcript = [])
      (program_eq : task.program = OxigraphCatalogCache.program support (.upsert catalog))
      (left_eq : left = inserting support catalog)
      (after_eq : after = store.removeSubject (iriOf support catalog.originNode)
        (iriOf support catalog.originNode))
  | insert (catalog : Catalog) (job_eq : task.job = .upsert catalog)
      (program_eq : task.program = inserting support catalog)
      (left_eq : left = .done (.upserted (.ok ())))
      (after_eq : after = store.insert (catalogQuad support catalog))
  | absent (node : NodeId) (job_eq : task.job = .delete node)
      (left_eq : left = .done (.deleted (.ok false))) (after_eq : after = store)
  | present (node : NodeId) (job_eq : task.job = .delete node)
      (left_eq : left = removing support node) (after_eq : after = store)
  | remove (node : NodeId) (job_eq : task.job = .delete node)
      (program_eq : task.program = removing support node)
      (left_eq : left = .done (.deleted (.ok true)))
      (after_eq : after = store.removeSubject (iriOf support node) (iriOf support node))
  | look (query : CatalogQuery) (node : NodeId) (job_eq : task.job = .query query)
      (filtered : query.originNode = some node)
      (request_eq : request = .firstQuadForPattern (some (iriOf support node))
        (some catalogJsonPredicate) (some (iriOf support node)))
      (returns : ∃ outcome, left = .done outcome)
      (left_eq : ∀ found : Option Catalog,
        (order.quads store.quads).find? (Quad.matches (some (iriOf support node))
          (some catalogJsonPredicate) (some (iriOf support node))) =
            found.map (catalogQuad support) →
        left = .done (.found (.ok (query.paginate found.toList))))
      (after_eq : after = store)
  | list (query : CatalogQuery) (job_eq : task.job = .query query)
      (unfiltered : query.originNode = none) (untouched : task.transcript = [])
      (request_eq : request = .namedGraphs)
      (left_eq : left = reading support query
        ⟨(order.graphs store.quads).filterMap NamedOrBlankNode.asNamed, []⟩)
      (after_eq : after = store)
  | read (query : CatalogQuery) (graph : NamedNode) (rest : List NamedNode)
      (job_eq : task.job = .query query) (unfiltered : query.originNode = none)
      (todo_eq : (viewOf support task.transcript).todo = graph :: rest)
      (request_eq : request = .firstQuadForPattern (some graph) (some catalogJsonPredicate)
        (some graph))
      (continues : (∃ outcome, left = .done outcome) ∨
        left = reading support query ⟨rest, (viewOf support task.transcript).results ++
          (loaded support (((order.quads store.quads).find? (Quad.matches (some graph)
            (some catalogJsonPredicate) (some graph))).map .ok)).toList⟩)
      (left_eq : ∀ found : Option Catalog,
        (order.quads store.quads).find? (Quad.matches (some graph) (some catalogJsonPredicate)
          (some graph)) = found.map (catalogQuad support) →
        left = reading support query
          ⟨rest, (viewOf support task.transcript).results ++ found.toList⟩)
      (after_eq : after = store)

theorem program_upsert (catalog : Catalog) :
    OxigraphCatalogCache.program support (.upsert catalog) =
      .call (.removeSubjectFromNamedGraph (iriOf support catalog.originNode)
          (iriOf support catalog.originNode))
        fun removed => ((orFail removed fun _ =>
          .call (.insertInNamedGraph (iriOf support catalog.originNode) catalogJsonPredicate
              (.literal (support.json.print catalog.toValue)) (iriOf support catalog.originNode))
            fun inserted => orFail inserted fun _ => .done (.ok ())).bind fun result =>
              .done (.upserted result)) := by
  simp only [OxigraphCatalogCache.program, OxigraphCatalogCache.upsert, nodeIri_eq,
    Program.bind_call]

theorem program_delete (node : NodeId) :
    OxigraphCatalogCache.program support (.delete node) =
      ((OxigraphCatalogCache.hasSubject (iriOf support node)).bind fun
        | .error error => .done (.error error)
        | .ok false => .done (.ok false)
        | .ok true =>
            .call (.removeSubjectFromNamedGraph (iriOf support node) (iriOf support node))
              fun removed => orFail removed fun _ => .done (.ok true)).bind fun result =>
                .done (.deleted result) := by
  dsimp only [OxigraphCatalogCache.program, OxigraphCatalogCache.delete]
  rewrite [nodeIri_eq]
  rfl

theorem program_query_node (query : CatalogQuery) (node : NodeId)
    (filtered : query.originNode = some node) :
    OxigraphCatalogCache.program support (.query query) =
      (((OxigraphCatalogCache.loadGraph support (iriOf support node)).bind fun entry =>
        .done (entry.map Option.toList)).bind fun results =>
          .done (results.map query.paginate)).bind fun result => .done (.found result) := by
  simp only [OxigraphCatalogCache.program, OxigraphCatalogCache.query,
    OxigraphCatalogCache.collect, filtered, nodeIri_eq]

theorem program_query_all (query : CatalogQuery) (unfiltered : query.originNode = none) :
    OxigraphCatalogCache.program support (.query query) =
      .call .namedGraphs fun graphNames =>
        ((orFail graphNames (OxigraphCatalogCache.loadGraphs support · [])).bind fun results =>
          .done (results.map query.paginate)).bind fun result => .done (.found result) := by
  simp only [OxigraphCatalogCache.program, OxigraphCatalogCache.query,
    OxigraphCatalogCache.collect, unfiltered, Program.bind_call]

variable {support}

section Moves

variable {transcript : List (Σ request : StoreCall, request.Reply)} {request : StoreCall}
  {next : request.Reply → StoreProgram Outcome}

theorem upsert_move {catalog : Catalog} (untouched : transcript = [])
    (program_eq : .call request next = OxigraphCatalogCache.program support (.upsert catalog))
    (order : StoreOrder) (store : GraphStore) :
    Move support order store ⟨.upsert catalog, transcript, .call request next⟩ request
      (next (StoreCall.answer order store request).1)
      (StoreCall.answer order store request).2 := by
  have whole := program_eq
  rw [program_upsert] at program_eq
  cases program_eq
  exact .clear catalog rfl untouched whole rfl rfl

theorem delete_move {node : NodeId}
    (program_eq : .call request next = OxigraphCatalogCache.program support (.delete node))
    (order : StoreOrder) (store : GraphStore) :
    Move support order store ⟨.delete node, transcript, .call request next⟩ request
      (next (StoreCall.answer order store request).1)
      (StoreCall.answer order store request).2 := by
  rw [program_delete] at program_eq
  cases program_eq
  cases search : (order.quads store.quads).find?
      (Quad.matches (some (iriOf support node)) none (some (iriOf support node))) with
  | none => exact .absent node rfl (by simp [StoreCall.answer, search]) rfl
  | some quad =>
      refine .present node rfl ?_ rfl
      simp only [StoreCall.answer, search, orFail, Option.map_some, Program.bind_done]
      rfl

theorem query_move {query : CatalogQuery} (untouched : transcript = [])
    (program_eq : .call request next = OxigraphCatalogCache.program support (.query query))
    (order : StoreOrder) (store : GraphStore) :
    Move support order store ⟨.query query, transcript, .call request next⟩ request
      (next (StoreCall.answer order store request).1)
      (StoreCall.answer order store request).2 := by
  cases filter : query.originNode with
  | some node =>
      rw [program_query_node support query node filter] at program_eq
      cases program_eq
      refine .look query node rfl filter rfl ?_ ?_ rfl
      · cases search : (order.quads store.quads).find?
            (Quad.matches (some (iriOf support node)) (some catalogJsonPredicate)
              (some (iriOf support node))) <;>
          simp [StoreCall.answer, search, orFail]
      · intro found search
        simp only [StoreCall.answer, search]
        cases found with
        | none => rfl
        | some catalog => simp [orFail, Except.map]
  | none =>
      rw [program_query_all support query filter] at program_eq
      cases program_eq
      refine .list query rfl filter untouched rfl ?_ rfl
      simp only [StoreCall.answer, orFail, Store.reading]
      rw [loadGraphs_named]

theorem reading_move {job : Operation} {query : CatalogQuery} (job_eq : job = .query query)
    (unfiltered : query.originNode = none)
    (program_eq : .call request next = reading support query (viewOf support transcript))
    (order : StoreOrder) (store : GraphStore) :
    Move support order store ⟨job, transcript, .call request next⟩ request
      (next (StoreCall.answer order store request).1)
      (StoreCall.answer order store request).2 := by
  cases todo : (viewOf support transcript).todo with
  | nil => simp [Store.reading, todo, OxigraphCatalogCache.loadGraphs] at program_eq
  | cons graph rest =>
      simp only [Store.reading, todo, List.map_cons, OxigraphCatalogCache.loadGraphs,
        OxigraphCatalogCache.loadGraph, Program.bind_call] at program_eq
      cases program_eq
      refine .read query graph rest job_eq unfiltered todo rfl ?_ ?_ rfl
      · cases search : (order.quads store.quads).find? (Quad.matches (some graph)
            (some catalogJsonPredicate) (some graph)) with
        | none =>
            right
            simp [StoreCall.answer, search, loaded, Store.reading]
        | some quad =>
            cases read : OxigraphCatalogCache.readObject support quad.object with
            | error message =>
                left
                simp [StoreCall.answer, search, orFail, read, Except.map]
            | ok catalog =>
                right
                simp [StoreCall.answer, search, orFail, read, loaded, Store.reading,
                  Except.map, Except.toOption]
      · intro found search
        simp only [StoreCall.answer, search]
        cases found with
        | none => simp [Store.reading]
        | some catalog => simp [orFail, Store.reading, Except.map]

theorem Stage.move {job : Operation}
    (stage : Stage support ⟨job, transcript, .call request next⟩) (order : StoreOrder)
    (store : GraphStore) :
    Move support order store ⟨job, transcript, .call request next⟩ request
      (next (StoreCall.answer order store request).1)
      (StoreCall.answer order store request).2 := by
  cases stage with
  | fresh untouched program_eq =>
      cases job with
      | upsert catalog => exact upsert_move untouched program_eq order store
      | delete node => exact delete_move program_eq order store
      | query query => exact query_move untouched program_eq order store
  | inserting catalog job_eq program_eq =>
      have whole := program_eq
      cases program_eq
      exact .insert catalog job_eq whole rfl rfl
  | removing node job_eq program_eq =>
      have whole := program_eq
      cases program_eq
      exact .remove node job_eq whole rfl rfl
  | reading query job_eq unfiltered program_eq =>
      exact reading_move job_eq unfiltered program_eq order store
  | finished outcome program_eq => cases program_eq

end Moves

theorem Move.stage {order : StoreOrder} {store after : GraphStore} {task : CacheTask}
    {request : StoreCall} {left : StoreProgram Outcome}
    (move : Move support order store task request left after) :
    Stage support ⟨task.job,
      task.transcript ++ [⟨request, (StoreCall.answer order store request).1⟩], left⟩ := by
  cases move with
  | clear catalog job_eq _ _ left_eq _ => exact .inserting catalog job_eq left_eq
  | insert _ _ _ left_eq _ => exact .finished _ left_eq
  | absent _ _ left_eq _ => exact .finished _ left_eq
  | present node job_eq left_eq _ => exact .removing node job_eq left_eq
  | remove _ _ _ left_eq _ => exact .finished _ left_eq
  | look _ _ _ _ _ returns _ _ =>
      obtain ⟨outcome, left_eq⟩ := returns
      exact .finished outcome left_eq
  | list query job_eq unfiltered untouched request_eq left_eq _ =>
      subst request_eq
      refine .reading query job_eq unfiltered ?_
      rw [left_eq, untouched]
      rfl
  | read query graph rest job_eq unfiltered todo_eq request_eq continues _ _ =>
      subst request_eq
      rcases continues with ⟨outcome, left_eq⟩ | left_eq
      · exact .finished _ left_eq
      · refine .reading query job_eq unfiltered ?_
        simp only [viewOf_append, ReaderView.after, todo_eq, List.tail_cons]
        exact left_eq

/-- Every call under way is at one of the stages, in every state of a run. -/
theorem CacheExecution.stages (execution : CacheExecution support)
    (idle : ∀ thread, (execution.state 0).threads thread = none) (index : Nat)
    (bounded : index ≤ execution.events.length) (thread : Nat) (task : CacheTask)
    (running : (execution.state index).threads thread = some task) : Stage support task := by
  refine execution.invariant
    (fun _ pool => ∀ thread task, pool.threads thread = some task → Stage support task)
    ?_ ?_ index bounded thread task running
  · intro thread task running
    rw [idle] at running
    cases running
  · intro index event _ stepped inductionHypothesis other found running
    generalize execution.state index = pool at stepped inductionHypothesis
    generalize execution.state (index + 1) = later at stepped running
    cases (Pool.step_iff _ _ _ _ _).mp stepped with
    | start fresh =>
        rcases Pool.assign_cases _ _ _ _ running with ⟨_, rfl⟩ | ⟨_, before⟩
        · exact .fresh rfl rfl
        · exact inductionHypothesis other found before
    | advance waiting =>
        rcases Pool.assign_cases _ _ _ _ running with ⟨_, rfl⟩ | ⟨_, before⟩
        · exact ((inductionHypothesis _ _ waiting).move _ _).stage
        · exact inductionHypothesis other found before

end FederatedCatalog.Store
