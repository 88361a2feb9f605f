import FederatedCatalog.Foundation.RwLock
import FederatedCatalog.Store.Memory

/-!
# The in-memory backend under its lock

`InMemoryCatalogCache` takes a read lock for a query and a write lock for the
rest.  A query looks at the map entry by entry while other calls are waiting
or reading as well.  The calls are linearizable: each answers as the map of
catalogs does at one instant between its start and its end.
-/

namespace FederatedCatalog.Store

open Foundation FederatedCatalog.Core

/-- One access to the `HashMap` behind the lock. -/
inductive MapCall where
  | insert (node : NodeId) (catalog : Catalog)
  | remove (node : NodeId)
  | count
  | value (position : Nat)

def MapCall.Reply : MapCall → Type
  | .insert _ _ => Unit
  | .remove _ => Option Catalog
  | .count => Nat
  | .value _ => Option Catalog

/-- The map's iteration order is the same for every access. -/
def MapCall.perform (order : MapOrder) (_ : Unit) (cache : InMemoryCatalogCache) :
    (request : MapCall) → request.Reply × InMemoryCatalogCache
  | .insert node catalog => ((), ⟨cache.graphs.insert node catalog⟩)
  | .remove node => (cache.graphs.lookup node, ⟨cache.graphs.erase node⟩)
  | .count => ((order.values cache.graphs).length, cache)
  | .value position => ((order.values cache.graphs)[position]?, cache)

/-- Accesses that leave the map as it is. -/
inductive MapCall.Reads : MapCall → Prop
  | count : Reads .count
  | value (position : Nat) : Reads (.value position)

abbrev MapProgram := Program MapCall MapCall.Reply

def CatalogQuery.selects (query : CatalogQuery) (catalog : Catalog) : Bool :=
  match query.originNode with
  | some node => decide (catalog.originNode = node)
  | none => true

def collectValues (query : CatalogQuery) :
    (remaining position : Nat) → List Catalog → MapProgram Outcome
  | 0, _, results => .done (.found (.ok (query.paginate results)))
  | remaining + 1, position, results =>
      .call (.value position) fun
        | none => .done (.found (.ok (query.paginate results)))
        | some catalog => collectValues query remaining (position + 1)
            (if query.selects catalog then results ++ [catalog] else results)

namespace InMemoryCatalogCache

/-- What a call does while it holds the lock. -/
def lockedBody : Operation → MapProgram Outcome
  | .upsert catalog =>
      .call (.insert catalog.originNode catalog) fun _ => .done (.upserted (.ok ()))
  | .query query => .call .count fun count => collectValues query count 0 []
  | .delete node => .call (.remove node) fun removed => .done (.deleted (.ok removed.isSome))

def lockMode : Operation → LockMode
  | .query _ => .shared
  | _ => .exclusive

theorem collectValues_run (order : MapOrder) (cache : InMemoryCatalogCache) (query : CatalogQuery)
    (choices : Nat → Unit) (remaining position : Nat) (results : List Catalog)
    (all : position + remaining = (order.values cache.graphs).length) :
    (collectValues query remaining position results).run (MapCall.perform order) choices cache =
      (.found (.ok (query.paginate
        (results ++ ((order.values cache.graphs).drop position).filter query.selects))), cache) := by
  induction remaining generalizing choices position results with
  | zero =>
      rw [List.drop_eq_nil_of_le (by omega)]
      simp [collectValues]
  | succ remaining inductionHypothesis =>
      have inside : position < (order.values cache.graphs).length := by omega
      have split := List.drop_eq_getElem_cons inside
      simp only [collectValues, Program.run_call, MapCall.perform,
        List.getElem?_eq_getElem inside]
      rw [inductionHypothesis _ _ _ (by omega), split, List.filter_cons]
      split <;> simp [*]

theorem lockedBody_run (order : MapOrder) (cache : InMemoryCatalogCache) (operation : Operation)
    (choices : Nat → Unit) :
    (lockedBody operation).run (MapCall.perform order) choices cache =
      cache.perform order operation := by
  cases operation with
  | upsert catalog => rfl
  | delete node => rfl
  | query query =>
      have ran := collectValues_run order cache query (fun index => choices (index + 1))
        (order.values cache.graphs).length 0 [] (Nat.zero_add _)
      exact ran

theorem collectValues_reads (query : CatalogQuery) (remaining position : Nat)
    (results : List Catalog) :
    (collectValues query remaining position results).Calls MapCall.Reads := by
  induction remaining generalizing position results with
  | zero => exact .done _
  | succ remaining inductionHypothesis =>
      apply Program.Calls.call
      · exact .value position
      · intro reply
        cases reply with
        | none => exact .done _
        | some catalog => exact inductionHypothesis _ _

theorem lockedBody_reads (operation : Operation) (shared : lockMode operation = .shared) :
    (lockedBody operation).Calls MapCall.Reads := by
  cases operation with
  | upsert _ => cases shared
  | delete _ => cases shared
  | query query => exact .call _ _ .count fun count => collectValues_reads query count 0 []

theorem reads_unchanged {order : MapOrder} (request : MapCall) (reads : request.Reads) (choice : Unit)
    (cache : InMemoryCatalogCache) : (MapCall.perform order choice cache request).2 = cache := by
  cases reads <;> rfl

abbrev LockedPool := Locked InMemoryCatalogCache MapCall MapCall.Reply Nat Operation Outcome

abbrev Returned := Nat × Operation × Outcome

def Returned.operation (returned : Returned) : Operation := returned.2.1

abbrev lockedStep (order : MapOrder) : LockedPool → LockEvent Unit Nat Operation → Option LockedPool :=
  fun pool => pool.step (MapCall.perform order) lockMode lockedBody

/-- Any calls on a new cache, interleaved at single accesses to the map. -/
structure LockedExecution (order : MapOrder) where
  execution : Execution (lockedStep order)
  started : execution.state 0 = .idle .new

theorem serial_answers {order : MapOrder} {log : List Returned} {cache : InMemoryCatalogCache}
    (serial : Locked.Serial (MapCall.perform order) lockedBody .new log cache) :
    cache.content = contentAfter (log.map Returned.operation) ∧
      ∀ index thread operation outcome, log[index]? = some (thread, operation, outcome) →
        Answers (contentAfter ((log.take index).map Returned.operation)) operation outcome := by
  induction serial with
  | nil => exact ⟨rfl, fun _ _ _ _ found => by cases found⟩
  | @snoc log before after serial thread operation outcome choices ran inductionHypothesis =>
      obtain ⟨content, answers⟩ := inductionHypothesis
      have performed := (lockedBody_run order before operation choices).symm.trans ran
      have keyed : before.WellKeyed := by
        rw [WellKeyed, content]
        exact keyed_contentAfter _
      constructor
      · have next := before.content_perform order operation
        rw [performed] at next
        rw [next, content, List.map_append, contentAfter, contentAfter, List.foldl_append]
        rfl
      · intro index other otherOperation otherOutcome found
        by_cases last : index < log.length
        · rw [List.getElem?_append_left last] at found
          rw [List.take_append_of_le_length last.le]
          exact answers index other otherOperation otherOutcome found
        · have bounded := (List.getElem?_eq_some_iff.mp found).1
          rw [List.length_append, List.length_singleton] at bounded
          obtain rfl : index = log.length := by omega
          rw [List.getElem?_concat_length] at found
          cases found
          rw [List.take_left', ← content]
          · have answered := perform_answers order keyed operation
            rwa [performed] at answered
          · rfl

/-- The calls that have returned did so as if each had run at once, in the order of the log. -/
structure Linearized {order : MapOrder} (run : LockedExecution order) (index : Nat) : Prop where
  returned : ∀ thread operation outcome,
    (thread, operation, outcome) ∈ (run.execution.state index).log ↔
      (run.execution.state index).threads thread = some (.returned operation outcome)
  once : ((run.execution.state index).log.map Prod.fst).Nodup
  answers : ∀ position thread operation outcome,
    (run.execution.state index).log[position]? = some (thread, operation, outcome) →
      Answers (contentAfter (((run.execution.state index).log.take position).map
        Returned.operation)) operation outcome
  content : (run.execution.state index).writer = none →
    (run.execution.state index).object.content =
      contentAfter ((run.execution.state index).log.map Returned.operation)
  /-- What returned earlier comes first, so that the order is one of real time. -/
  grows : ∀ earlier, earlier ≤ index →
    (run.execution.state earlier).log <+: (run.execution.state index).log

/-- Under its lock the in-memory backend is linearizable. -/
theorem locked_calls_linearize {order : MapOrder} (run : LockedExecution order) :
    ∀ index, index ≤ run.execution.events.length → Linearized run index := by
  intro index bounded
  have logged := Locked.logged_throughout run.execution run.started index bounded
  have sound := Locked.sound_throughout lockedBody_reads reads_unchanged run.execution run.started
    index bounded
  refine ⟨logged.returned, logged.once, ?_, fun free => (serial_answers (sound.settled free)).1,
    fun earlier before => Locked.log_grows run.execution run.started earlier index before bounded⟩
  cases writing : (run.execution.state index).writer with
  | none => exact (serial_answers (sound.settled writing)).2
  | some writer =>
      obtain ⟨_, _, _, _, _, serial, _⟩ := sound.written writer writing
      exact (serial_answers serial).2

/-- Two queries wait for an upsert and then read the map in turns. -/
def overlappingEvents : List (LockEvent Unit Nat Operation) := [
  .call 0 (.upsert (Catalog.new "1" ⟨"north"⟩)), .call 1 (.query .all), .acquire 0,
  .call 2 (.query .all), .advance 0 (), .release 0, .acquire 1, .acquire 2, .advance 1 (),
  .advance 2 (), .advance 2 (), .advance 1 (), .release 2, .release 1]

def overlappingQueries : LockedExecution .entries where
  execution := .ofEvents (.idle .new) overlappingEvents (by decide +kernel)
  started := rfl

theorem overlapping_queries_linearize : Linearized overlappingQueries 14 :=
  locked_calls_linearize overlappingQueries 14 (by decide)

end InMemoryCatalogCache

end FederatedCatalog.Store
