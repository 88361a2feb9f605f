import FederatedCatalog.Store.Stages

/-!
# Concurrent writers

`upsert` removes and then inserts, `delete` looks and then removes, and nothing
locks the two halves together.  As long as every second half still finds what
its first half left, each node's graph holds at most one triple, and a delete
that returns `true` has removed a catalog.
-/

namespace FederatedCatalog.Store

open Foundation FederatedCatalog.Core

variable (support : OxigraphSupport)

def graphQuads (store : GraphStore) (node : NodeId) : List Quad :=
  store.quads.filter fun quad => quad.graph = iriOf support node

def pendingInsert (task : CacheTask) : Option Catalog :=
  match task.job, task.program with
  | .upsert catalog, .call (.insertInNamedGraph _ _ _ _) _ => some catalog
  | _, _ => none

def pendingRemove (task : CacheTask) : Option NodeId :=
  match task.job, task.program with
  | .delete node, .call (.removeSubjectFromNamedGraph _ _) _ => some node
  | _, _ => none

@[simp]
theorem pendingInsert_inserting (catalog : Catalog)
    (transcript : List (Σ request : StoreCall, request.Reply)) :
    pendingInsert ⟨.upsert catalog, transcript, inserting support catalog⟩ = some catalog := rfl

def AllReturned (pool : CachePool) : Prop :=
  ∀ thread task, pool.threads thread = some task → ∃ outcome, task.program = .done outcome

theorem allReturned_of_check {support : OxigraphSupport} (execution : CacheExecution support)
    (idle : ∀ thread, (execution.state 0).threads thread = none) (index : Nat)
    (bounded : index ≤ execution.events.length)
    (check : ((execution.events.filterMap PoolEvent.started).all fun thread =>
      ((execution.state index).threads thread).all fun task => task.program.returned) = true) :
    AllReturned (execution.state index) := by
  intro thread task running
  obtain ⟨started, _, starts⟩ :=
    Pool.started_of_running execution idle index bounded thread task running
  have listed : thread ∈ execution.events.filterMap PoolEvent.started :=
    List.mem_filterMap.mpr ⟨_, List.mem_of_getElem? starts, rfl⟩
  have returned := List.all_eq_true.mp check thread listed
  rw [running] at returned
  exact (Program.returned_iff task.program).mp returned

/-- Some upsert of `catalog` has returned. -/
def Completed (pool : CachePool) (catalog : Catalog) : Prop :=
  ∃ thread transcript,
    pool.threads thread = some ⟨.upsert catalog, transcript, .done (.upserted (.ok ()))⟩

/-- A node's graph is empty or holds one triple, of a completed upsert for the node. -/
def OneTriple (pool : CachePool) : Prop :=
  ∀ node, graphQuads support pool.shared node = [] ∨
    ∃ catalog, catalog.originNode = node ∧ Completed pool catalog ∧
      graphQuads support pool.shared node = [catalogQuad support catalog]

variable {support}

/-- Event `index` lets a `delete` of `node` return `true`. -/
def deleteReturnsTrue (execution : CacheExecution support) (node : NodeId) (index : Nat) : Bool :=
  match execution.events[index]? with
  | some (.advance thread _) =>
      match (execution.state (index + 1)).threads thread with
      | some ⟨.delete deleted, _, .done (.deleted (.ok true))⟩ => deleted = node
      | _ => false
  | _ => false

def catalogRemoved (execution : CacheExecution support) (node : NodeId) (index : Nat) : Bool :=
  graphQuads support (execution.state index).shared node ≠ [] ∧
    graphQuads support (execution.state (index + 1)).shared node = []

/-- What concurrent writers should leave behind. -/
structure WritersKeepOneTriple (execution : CacheExecution support) : Prop where
  one_triple : ∀ index, index ≤ execution.events.length →
    AllReturned (execution.state index) → OneTriple support (execution.state index)
  deletes : ∀ index, index ≤ execution.events.length → ∀ node,
    (List.range index).countP (deleteReturnsTrue execution node) ≤
      (List.range index).countP (catalogRemoved execution node)

variable (support) in
/-- The second half of a write still finds what its first half left: an insert
finds the graph empty, or holding the same triple; a delete's remove finds a triple. -/
def SecondHalfUndisturbed (pool : CachePool) : CacheEvent → Prop
  | .start _ _ => True
  | .advance thread _ =>
      (∀ catalog ∈ (pool.threads thread).bind pendingInsert,
        ∀ quad ∈ graphQuads support pool.shared catalog.originNode,
          quad = catalogQuad support catalog) ∧
      (∀ node ∈ (pool.threads thread).bind pendingRemove,
        graphQuads support pool.shared node ≠ [])

instance (pool : CachePool) (event : CacheEvent) :
    Decidable (SecondHalfUndisturbed support pool event) :=
  match event with
  | .start _ _ => .isTrue trivial
  | .advance _ _ => inferInstanceAs (Decidable (_ ∧ _))

theorem Completed.step {pool next : CachePool} {event : CacheEvent}
    (stepped : cacheStep support pool event = some next) {catalog : Catalog}
    (completed : Completed pool catalog) : Completed next catalog := by
  obtain ⟨thread, transcript, returned⟩ := completed
  exact ⟨thread, transcript, ((Pool.step_iff _ _ _ _ _).mp stepped).keeps_done returned⟩

/-- The store holds only triples of completed upserts, one for each graph. -/
structure Tidy (support : OxigraphSupport) (pool : CachePool) : Prop where
  completed : ∀ quad ∈ pool.shared.quads,
    ∃ catalog, Completed pool catalog ∧ quad = catalogQuad support catalog
  single : ∀ quad ∈ pool.shared.quads, ∀ other ∈ pool.shared.quads,
    quad.graph = other.graph → quad = other

theorem Tidy.shrink {pool next : CachePool} {event : CacheEvent} (tidy : Tidy support pool)
    (stepped : cacheStep support pool event = some next)
    (fewer : ∀ quad ∈ next.shared.quads, quad ∈ pool.shared.quads) : Tidy support next where
  completed := by
    intro quad membership
    obtain ⟨catalog, completed, quad_eq⟩ := tidy.completed quad (fewer quad membership)
    exact ⟨catalog, completed.step stepped, quad_eq⟩
  single := fun quad membership other otherMembership =>
    tidy.single quad (fewer quad membership) other (fewer other otherMembership)

theorem Tidy.grow {pool next : CachePool} {event : CacheEvent} (tidy : Tidy support pool)
    (stepped : cacheStep support pool event = some next) {catalog : Catalog}
    (completed : Completed next catalog)
    (alone : ∀ quad ∈ pool.shared.quads, quad.graph = iriOf support catalog.originNode →
      quad = catalogQuad support catalog)
    (grown : next.shared = pool.shared.insert (catalogQuad support catalog)) :
    Tidy support next where
  completed := by
    intro quad membership
    rw [grown, GraphStore.mem_insert] at membership
    rcases membership with rfl | membership
    · exact ⟨catalog, completed, rfl⟩
    · obtain ⟨stored, before, quad_eq⟩ := tidy.completed quad membership
      exact ⟨stored, before.step stepped, quad_eq⟩
  single := by
    intro quad membership other otherMembership sameGraph
    rw [grown, GraphStore.mem_insert] at membership otherMembership
    rcases membership with rfl | membership
    · rcases otherMembership with rfl | otherMembership
      · rfl
      · exact (alone other otherMembership sameGraph.symm).symm
    · rcases otherMembership with rfl | otherMembership
      · exact alone quad membership sameGraph
      · exact tidy.single quad membership other otherMembership sameGraph

theorem Tidy.step {pool next : CachePool} {event : CacheEvent} (tidy : Tidy support pool)
    (stages : ∀ thread task, pool.threads thread = some task → Stage support task)
    (undisturbed : SecondHalfUndisturbed support pool event)
    (stepped : cacheStep support pool event = some next) : Tidy support next := by
  cases (Pool.step_iff _ _ _ _ _).mp stepped with
  | start fresh => exact tidy.shrink stepped fun quad membership => membership
  | @advance thread order job transcript request answer waiting =>
      have move := (stages _ _ waiting).move order pool.shared
      cases move with
      | clear catalog _ _ _ _ after_eq =>
          refine tidy.shrink stepped fun quad membership => ?_
          rw [Pool.assign_shared, after_eq, GraphStore.mem_removeSubject] at membership
          exact membership.1
      | insert catalog job_eq program_eq left_eq after_eq =>
          simp only at job_eq program_eq
          subst job_eq
          have pending := undisturbed.1 catalog (by rw [waiting, program_eq]; rfl)
          have completed : Completed (pool.assign (StoreCall.answer order pool.shared request).2
              thread ⟨.upsert catalog,
                transcript ++ [⟨request, (StoreCall.answer order pool.shared request).1⟩],
                answer (StoreCall.answer order pool.shared request).1⟩) catalog :=
            ⟨thread, _, by rw [Pool.assign_same, left_eq]⟩
          refine tidy.grow stepped completed ?_ after_eq
          intro quad membership inGraph
          exact pending quad (List.mem_filter.mpr ⟨membership, by simpa using inGraph⟩)
      | remove node _ _ _ after_eq =>
          refine tidy.shrink stepped fun quad membership => ?_
          rw [Pool.assign_shared, after_eq, GraphStore.mem_removeSubject] at membership
          exact membership.1
      | absent _ _ _ after_eq | present _ _ _ after_eq | look _ _ _ _ _ _ _ after_eq
      | list _ _ _ _ _ _ after_eq | read _ _ _ _ _ _ _ _ _ after_eq =>
          refine tidy.shrink stepped fun quad membership => ?_
          rw [Pool.assign_shared, after_eq] at membership
          exact membership

theorem Tidy.oneTriple {pool : CachePool} (tidy : Tidy support pool) : OneTriple support pool := by
  intro node
  cases held : graphQuads support pool.shared node with
  | nil => exact .inl rfl
  | cons quad rest =>
      right
      have members : ∀ other ∈ quad :: rest,
          other ∈ pool.shared.quads ∧ other.graph = iriOf support node := by
        intro other membership
        rw [← held] at membership
        simpa [graphQuads] using membership
      have own := members quad List.mem_cons_self
      obtain ⟨catalog, completed, quad_eq⟩ := tidy.completed quad own.1
      have sameNode : catalog.originNode = node := by
        apply iriOf_injective support
        rw [← own.2, quad_eq]
        rfl
      have distinct : (quad :: rest).Nodup := held ▸ pool.shared.nodup.filter _
      have empty : rest = [] := by
        apply List.eq_nil_iff_forall_not_mem.mpr
        intro other membership
        have listed := members other (List.mem_cons_of_mem quad membership)
        have same := tidy.single other listed.1 quad own.1 (listed.2.trans own.2.symm)
        exact (List.nodup_cons.mp distinct).1 (same ▸ membership)
      exact ⟨catalog, sameNode, completed, by rw [empty, quad_eq]⟩

theorem Tidy.graphQuads_removeSubject {pool : CachePool} (tidy : Tidy support pool)
    (node : NodeId) :
    graphQuads support (pool.shared.removeSubject (iriOf support node) (iriOf support node))
      node = [] := by
  unfold graphQuads
  apply List.filter_eq_nil_iff.mpr
  intro quad membership inGraph
  rw [GraphStore.mem_removeSubject] at membership
  obtain ⟨catalog, _, rfl⟩ := tidy.completed quad membership.1
  have sameGraph : iriOf support catalog.originNode = iriOf support node := by
    simpa [catalogQuad] using inGraph
  exact membership.2 ⟨sameGraph, sameGraph⟩

theorem tidy_of_undisturbed (execution : CacheExecution support)
    (starts : execution.state 0 = Pool.idle GraphStore.empty)
    (undisturbed : ∀ index event, execution.events[index]? = some event →
      SecondHalfUndisturbed support (execution.state index) event) :
    ∀ index, index ≤ execution.events.length → Tidy support (execution.state index) := by
  apply execution.invariant fun _ => Tidy support
  · rw [starts]
    exact ⟨by simp [Pool.idle, GraphStore.empty], by simp [Pool.idle, GraphStore.empty]⟩
  · intro index event occurs stepped tidy
    obtain ⟨bounded, _⟩ := List.getElem?_eq_some_iff.mp occurs
    have stages := execution.stages (by simp [starts, Pool.idle]) index (by omega)
    exact tidy.step stages (undisturbed index event occurs) stepped

/-- The step at which a delete returns `true` takes a catalog out. -/
theorem catalogRemoved_of_deleteReturnsTrue (execution : CacheExecution support)
    (starts : execution.state 0 = Pool.idle GraphStore.empty)
    (undisturbed : ∀ index event, execution.events[index]? = some event →
      SecondHalfUndisturbed support (execution.state index) event)
    (node : NodeId) (index : Nat) (returns : deleteReturnsTrue execution node index = true) :
    catalogRemoved execution node index = true := by
  unfold deleteReturnsTrue at returns
  split at returns
  case h_2 => cases returns
  case h_1 advanced order occurs =>
    obtain ⟨bounded, _⟩ := List.getElem?_eq_some_iff.mp occurs
    have stages := execution.stages (by simp [starts, Pool.idle]) index (by omega)
    have tidy := tidy_of_undisturbed execution starts undisturbed index (by omega)
    have calm := undisturbed index _ occurs
    have stepped := (Pool.step_iff _ _ _ _ _).mp (execution.steps index _ occurs)
    unfold catalogRemoved
    generalize execution.state index = pool at stages tidy calm stepped ⊢
    generalize execution.state (index + 1) = later at returns stepped ⊢
    cases stepped with
    | @advance _ _ job transcript request answer waiting =>
        rw [Pool.assign_same] at returns
        have move := (stages _ _ waiting).move order pool.shared
        cases move with
        | remove removed job_eq program_eq left_eq after_eq =>
            simp only at job_eq program_eq
            subst job_eq
            have same : removed = node := by simpa [left_eq] using returns
            have held := calm.2 removed (by rw [waiting, program_eq]; rfl)
            rw [same] at held after_eq
            simp only [Pool.assign_shared, after_eq, decide_eq_true_eq]
            exact ⟨held, tidy.graphQuads_removeSubject node⟩
        | clear _ job_eq | insert _ job_eq | look _ _ job_eq | list _ job_eq
        | read _ _ _ job_eq =>
            simp only at job_eq
            subst job_eq
            simp at returns
        | absent _ job_eq left_eq | present _ job_eq left_eq =>
            simp only at job_eq
            subst job_eq
            simp [left_eq, removing] at returns

theorem writers_keep_one_triple (execution : CacheExecution support)
    (starts : execution.state 0 = Pool.idle GraphStore.empty)
    (undisturbed : ∀ index event, execution.events[index]? = some event →
      SecondHalfUndisturbed support (execution.state index) event) :
    WritersKeepOneTriple execution where
  one_triple := fun index bounded _ =>
    (tidy_of_undisturbed execution starts undisturbed index bounded).oneTriple
  deletes := fun _ _ node => List.countP_mono_left fun reached _ =>
    catalogRemoved_of_deleteReturnsTrue execution starts undisturbed node reached

/-- Both remove before either inserts. -/
def racingEvents : List CacheEvent :=
  [.start 0 (.upsert (.new "first" ⟨"n"⟩)), .start 1 (.upsert (.new "second" ⟨"n"⟩)),
    .advance 0 .plain, .advance 1 .plain, .advance 0 .plain, .advance 1 .plain]

def racingUpserts : CacheExecution .standard :=
  .ofEvents (.idle .empty) racingEvents (by decide +kernel)

theorem racing_upserts_leave_two_triples : ¬WritersKeepOneTriple racingUpserts := by
  intro kept
  have two : (graphQuads .standard (racingUpserts.state 6).shared ⟨"n"⟩).length = 2 := by
    decide +kernel
  have returned : AllReturned (racingUpserts.state 6) :=
    allReturned_of_check racingUpserts (fun _ => rfl) 6 (by decide) (by decide +kernel)
  rcases kept.one_triple 6 (by decide) returned ⟨"n"⟩ with none | ⟨catalog, _, _, one⟩
  · rw [none] at two
    cases two
  · rw [one] at two
    cases two

/-- The calls overlap: each one removes or inserts while another one is halfway. -/
def calmEvents : List CacheEvent :=
  [.start 0 (.upsert (.new "first" ⟨"n"⟩)), .start 1 (.upsert (.new "second" ⟨"m"⟩)),
    .advance 0 .plain, .advance 1 .plain, .advance 0 .plain, .start 2 (.delete ⟨"n"⟩),
    .advance 2 .plain, .advance 1 .plain, .advance 2 .plain]

def calmWriters : CacheExecution .standard :=
  .ofEvents (.idle .empty) calmEvents (by decide +kernel)

theorem calm_writers_keep_one_triple : WritersKeepOneTriple calmWriters := by
  apply writers_keep_one_triple calmWriters rfl
  intro index event occurs
  obtain ⟨bounded, _⟩ := List.getElem?_eq_some_iff.mp occurs
  have checked : ∀ index < 9, ∀ event ∈ calmWriters.events[index]?,
      SecondHalfUndisturbed .standard (calmWriters.state index) event := by
    decide +kernel
  exact checked index bounded event occurs

end FederatedCatalog.Store
