import FederatedCatalog.Store.Writers

/-!
# Readers beside one crawl scheduler

One scheduler's upserts run beside any number of queries.  The content of the
map changes when an upsert's insert lands; until then the node it is about is
hidden, because its graph was emptied first.  A query that never looks into
that gap, and is not overtaken while it goes through the graphs, answers with
the content at one instant.
-/

namespace FederatedCatalog.Store

open Foundation FederatedCatalog.Core

variable (support : OxigraphSupport)

/-- Upserts of one scheduler and queries of any number of handlers, from a
store that holds some catalogs. -/
structure SchedulerRun where
  execution : CacheExecution support
  initial : CatalogMap
  represents : Represents support initial (execution.state 0).shared
  idle : ∀ thread, (execution.state 0).threads thread = none
  no_deletes : ∀ (index thread : Nat) (node : NodeId),
    execution.events[index]? ≠ some (.start thread (.delete node))
  /-- The scheduler starts an upsert when the one before has returned. -/
  one_scheduler : ∀ (index thread : Nat) (catalog : Catalog),
    execution.events[index]? = some (.start thread (.upsert catalog)) →
    ∀ other task stored, (execution.state index).threads other = some task →
      task.job = .upsert stored → ∃ outcome, task.program = .done outcome

variable {support}

def landed (contents : CatalogMap) : Option (Nat × Catalog) → CatalogMap
  | none => contents
  | some (_, catalog) => contents.store Catalog.originNode catalog

/-- A history of the map in which every upsert replaces its node's entry at one
instant while it runs; `landing index` is the upsert that takes effect at event
`index`. -/
structure Timeline (execution : CacheExecution support) (initial : CatalogMap)
    (landing : Nat → Option (Nat × Catalog)) (contents : Nat → CatalogMap) : Prop where
  starts : contents 0 = initial
  changes : ∀ index, index < execution.events.length →
    contents (index + 1) = landed (contents index) (landing index)
  running : ∀ index thread catalog, index < execution.events.length →
    landing index = some (thread, catalog) →
    ∃ transcript request next, (execution.state index).threads thread =
      some ⟨.upsert catalog, transcript, .call request next⟩
  once : ∀ index later thread catalog other, index < later → later < execution.events.length →
    landing index = some (thread, catalog) → landing later ≠ some (thread, other)
  effective : ∀ index thread catalog transcript outcome, index ≤ execution.events.length →
    (execution.state index).threads thread =
      some ⟨.upsert catalog, transcript, .done outcome⟩ →
    ∃ earlier, earlier < index ∧ landing earlier = some (thread, catalog)

/-- Every query that returns gives the content of the map at one instant
between its start and its end. -/
def ReadersSeeOneInstant (run : SchedulerRun support) : Prop :=
  ∃ landing contents, Timeline run.execution run.initial landing contents ∧
    ∀ (started finished thread : Nat) (query : CatalogQuery) transcript outcome,
      run.execution.events[started]? = some (.start thread (.query query)) →
      finished ≤ run.execution.events.length →
      (run.execution.state finished).threads thread =
        some ⟨.query query, transcript, .done outcome⟩ →
      ∃ instant, started < instant ∧ instant ≤ finished ∧
        Answers (contents instant) (.query query) outcome

def landingAt (pool : CachePool) : Option CacheEvent → Option (Nat × Catalog)
  | some (.advance thread _) =>
      ((pool.threads thread).bind pendingInsert).map fun catalog => (thread, catalog)
  | _ => none

namespace SchedulerRun

def landing (run : SchedulerRun support) (index : Nat) : Option (Nat × Catalog) :=
  landingAt (run.execution.state index) run.execution.events[index]?

/-- The map when each upsert takes effect with its insert. -/
def contents (run : SchedulerRun support) : Nat → CatalogMap
  | 0 => run.initial
  | index + 1 => landed (run.contents index) (run.landing index)

end SchedulerRun

/-- An upsert has emptied the node's graph and not filled it again yet. -/
def Hidden (pool : CachePool) (node : NodeId) : Prop :=
  ∃ thread task catalog, pool.threads thread = some task ∧
    pendingInsert task = some catalog ∧ catalog.originNode = node

variable (support) in
/-- What a reader has seen is still what the map holds, apart from the graphs
it has yet to read. -/
structure Current (contents : CatalogMap) (view : ReaderView) : Prop where
  results : ∀ catalog ∈ view.results, contents catalog.originNode = some catalog
  passed : ∀ node catalog, contents node = some catalog →
    catalog ∈ view.results ∨ iriOf support node ∈ view.todo

variable (support) in
/-- A step that neither looks into an upsert's gap nor overtakes a reader. -/
structure CalmStep (contents : CatalogMap) (pool : CachePool) (event : CacheEvent) : Prop where
  /-- No query reads the emptied graph of a node that had an entry. -/
  reads : ∀ thread order query transcript subject predicate graph next node,
    event = PoolEvent.advance thread order →
    pool.threads thread =
      some ⟨.query query, transcript, .call (.firstQuadForPattern subject predicate graph) next⟩ →
    graph = some (iriOf support node) → Hidden pool node → contents node = none
  /-- No query lists the graphs without the emptied one of a node that had an entry. -/
  lists : ∀ thread order query transcript next node,
    event = PoolEvent.advance thread order →
    pool.threads thread = some ⟨.query query, transcript, .call .namedGraphs next⟩ →
    Hidden pool node → contents node ≠ none →
    .namedNode (iriOf support node) ∈ order.graphs pool.shared.quads
  /-- No insert changes a node that a query has yet to read when what the query
  has read so far is out of date. -/
  overtakes : ∀ thread order task catalog reader query transcript program,
    event = PoolEvent.advance thread order →
    pool.threads thread = some task → pendingInsert task = some catalog →
    contents catalog.originNode ≠ some catalog →
    pool.threads reader = some ⟨.query query, transcript, program⟩ →
    query.originNode = none →
    iriOf support catalog.originNode ∈ (viewOf support transcript).todo →
    Current support contents (viewOf support transcript)

def Calm (run : SchedulerRun support) : Prop :=
  ∀ index event, run.execution.events[index]? = some event →
    CalmStep support (run.contents index) (run.execution.state index) event

variable (support) in
/-- What a reader has seen is the map as it was at one instant, apart from the
graphs it has yet to read, where the map has not changed since. -/
structure View (instant now : CatalogMap) (view : ReaderView) : Prop where
  nodup : view.todo.Nodup
  distinct : (view.results.map Catalog.originNode).Nodup
  apart : ∀ catalog ∈ view.results, iriOf support catalog.originNode ∉ view.todo
  current : Current support instant view
  unread : ∀ node, iriOf support node ∈ view.todo → instant node = now node

namespace View

variable {instant now : CatalogMap} {view : ReaderView}

theorem list {order : StoreOrder} {quads : List Quad}
    (complete : ∀ node, now node ≠ none →
      .namedNode (iriOf support node) ∈ order.graphs quads) :
    View support now now ⟨(order.graphs quads).filterMap NamedOrBlankNode.asNamed, []⟩ where
  nodup := by
    apply (order.graphs_nodup quads).filterMap
    intro first second name inFirst inSecond
    cases first <;> cases second <;> simp_all [NamedOrBlankNode.asNamed]
  distinct := List.nodup_nil
  apart := by simp
  current := by
    refine ⟨by simp, ?_⟩
    intro node catalog stored
    right
    have listed := complete node (by simp [stored])
    exact List.mem_filterMap.mpr ⟨_, listed, rfl⟩
  unread := fun _ _ => rfl

theorem read {graph : NamedNode} {rest : List NamedNode} (seen : View support instant now view)
    (keyed : Keyed now) (todo : view.todo = graph :: rest) {found : Option Catalog}
    (characterized : ∀ catalog, found = some catalog ↔
      now catalog.originNode = some catalog ∧ iriOf support catalog.originNode = graph) :
    View support instant now ⟨rest, view.results ++ found.toList⟩ where
  nodup := by
    have nodup := seen.nodup
    rw [todo] at nodup
    exact (List.nodup_cons.mp nodup).2
  distinct := by
    cases found with
    | none => simpa using seen.distinct
    | some catalog =>
        have own := (characterized catalog).mp rfl
        simp only [Option.toList_some, List.map_append, List.map_cons, List.map_nil]
        refine List.nodup_append.mpr ⟨seen.distinct, List.nodup_singleton _, ?_⟩
        intro node membership other isOwn same
        obtain ⟨earlier, inResults, rfl⟩ := List.mem_map.mp membership
        rw [List.mem_singleton] at isOwn
        apply seen.apart earlier inResults
        rw [todo, same, isOwn, own.2]
        exact List.mem_cons_self
  apart := by
    intro catalog membership inRest
    rcases List.mem_append.mp membership with inResults | isFound
    · apply seen.apart catalog inResults
      rw [todo]
      exact List.mem_cons_of_mem graph inRest
    · have own := (characterized catalog).mp (Option.mem_toList.mp isFound)
      have nodup := seen.nodup
      rw [todo, ← own.2] at nodup
      exact (List.nodup_cons.mp nodup).1 inRest
  current := by
    constructor
    · intro catalog membership
      rcases List.mem_append.mp membership with inResults | isFound
      · exact seen.current.results catalog inResults
      · have own := (characterized catalog).mp (Option.mem_toList.mp isFound)
        rw [seen.unread catalog.originNode (by rw [todo, own.2]; exact List.mem_cons_self)]
        exact own.1
    · intro node catalog stored
      rcases seen.current.passed node catalog stored with inResults | inTodo
      · exact .inl (List.mem_append_left _ inResults)
      · rw [todo] at inTodo
        rcases List.mem_cons.mp inTodo with isGraph | inRest
        · rw [seen.unread node (by rw [todo]; exact List.mem_cons.mpr (.inl isGraph))] at stored
          have own := keyed node catalog stored
          have isFound := (characterized catalog).mpr ⟨own ▸ stored, own ▸ isGraph⟩
          exact .inl (List.mem_append_right _ (Option.mem_toList.mpr isFound))
        · exact .inr inRest
  unread := by
    intro node inRest
    apply seen.unread
    rw [todo]
    exact List.mem_cons_of_mem graph inRest

/-- An insert landing while the reader is on its way: the reader's instant
stays, or moves to the moment after the landing. -/
theorem land (seen : View support instant now view) (catalog : Catalog)
    (calm : now catalog.originNode ≠ some catalog →
      iriOf support catalog.originNode ∈ view.todo → Current support now view) :
    View support instant (now.store Catalog.originNode catalog) view ∨
      View support (now.store Catalog.originNode catalog)
        (now.store Catalog.originNode catalog) view := by
  by_cases same : now catalog.originNode = some catalog
  · left
    have unchanged : now.store Catalog.originNode catalog = now := by
      funext node
      rw [KeyedMap.store_apply]
      split
      · next isOwn => rw [isOwn, same]
      · rfl
    rw [unchanged]
    exact seen
  · by_cases ahead : iriOf support catalog.originNode ∈ view.todo
    · right
      have current := calm same ahead
      refine ⟨seen.nodup, seen.distinct, seen.apart, ⟨?_, ?_⟩, fun _ _ => rfl⟩
      · intro other membership
        have different : other.originNode ≠ catalog.originNode := by
          intro sameNode
          exact seen.apart other membership (sameNode ▸ ahead)
        rw [KeyedMap.store_apply, if_neg different]
        exact current.results other membership
      · intro node other stored
        rw [KeyedMap.store_apply] at stored
        split at stored
        · next isOwn => exact .inr (isOwn ▸ ahead)
        · exact current.passed node other stored
    · left
      refine ⟨seen.nodup, seen.distinct, seen.apart, seen.current, ?_⟩
      intro node inTodo
      have different : node ≠ catalog.originNode := by
        rintro rfl
        exact ahead inTodo
      rw [KeyedMap.store_apply, if_neg different]
      exact seen.unread node inTodo

theorem answers (seen : View support instant now view) (keyed : Keyed instant)
    (finished : view.todo = []) (query : CatalogQuery) (unfiltered : query.originNode = none) :
    Answers instant (.query query) (.found (.ok (query.paginate view.results))) := by
  rcases query with ⟨originNode, offset, limit⟩
  cases unfiltered
  refine answers_query_all ⟨seen.distinct, seen.current.results, ?_⟩ offset limit
  intro node catalog stored
  refine ⟨?_, keyed node catalog stored⟩
  rcases seen.current.passed node catalog stored with inResults | inTodo
  · exact inResults
  · rw [finished] at inTodo
    cases inTodo

end View

end FederatedCatalog.Store
