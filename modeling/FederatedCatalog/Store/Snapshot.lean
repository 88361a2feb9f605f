import FederatedCatalog.Store.Readers
import Mathlib.Tactic.IntervalCases

/-!
# Calm runs show readers one instant

Two invariants hold in every state of a calm run.  The store agrees with the
map on every node that no upsert has emptied, and every query under way has
seen the map as it was at one instant.
-/

namespace FederatedCatalog.Store

open Foundation FederatedCatalog.Core

variable {support : OxigraphSupport}

/-! ## What one event does to the store -/

theorem pendingInsert_eq_some {task : CacheTask} {catalog : Catalog}
    (pending : pendingInsert task = some catalog) :
    ∃ transcript request next, task = ⟨.upsert catalog, transcript, .call request next⟩ := by
  rcases task with ⟨job, transcript, program⟩
  unfold pendingInsert at pending
  split at pending
  · next job_eq program_eq =>
    cases pending
    simp only at job_eq program_eq
    exact ⟨transcript, _, _, by rw [job_eq, program_eq]⟩
  · cases pending

theorem pendingInsert_program (job : Operation) :
    pendingInsert ⟨job, [], OxigraphCatalogCache.program support job⟩ = none := by
  cases job with
  | upsert catalog =>
      rw [program_upsert]
      rfl
  | delete node => rfl
  | query query => rfl

def Writing (pool : CachePool) (thread : Nat) : Prop :=
  ∃ catalog transcript request next,
    pool.threads thread = some ⟨.upsert catalog, transcript, .call request next⟩

variable (support) in
/-- The store holds the entries of all nodes that are not hidden. -/
structure Coherent (contents : CatalogMap) (pool : CachePool) : Prop where
  stages : ∀ thread task, pool.threads thread = some task → Stage support task
  no_deletes : ∀ thread task, pool.threads thread = some task → ∀ node, task.job ≠ .delete node
  one_writer : ∀ thread other, Writing pool thread → Writing pool other → thread = other
  keyed : Keyed contents
  shown : ∃ shown, Represents support shown pool.shared ∧ ∀ node,
    (Hidden pool node → shown node = none) ∧ (¬Hidden pool node → shown node = contents node)

theorem hidden_assign {pool : CachePool} {shared : GraphStore} {thread : Nat} {task : CacheTask}
    (before : ∀ found, pool.threads thread = some found → pendingInsert found = none)
    (after : pendingInsert task = none) (node : NodeId) :
    Hidden (pool.assign shared thread task) node ↔ Hidden pool node := by
  constructor
  · rintro ⟨other, found, catalog, running, pending, own⟩
    rcases Pool.assign_cases _ _ _ _ running with ⟨_, rfl⟩ | ⟨_, running⟩
    · rw [after] at pending
      cases pending
    · exact ⟨other, found, catalog, running, pending, own⟩
  · rintro ⟨other, found, catalog, running, pending, own⟩
    have different : other ≠ thread := by
      rintro rfl
      rw [before found running] at pending
      cases pending
    exact ⟨other, found, catalog, by rw [Pool.assign_other _ _ _ _ different, running],
      pending, own⟩

theorem hidden_clear {pool : CachePool} {shared : GraphStore} {thread : Nat} {task : CacheTask}
    {catalog : Catalog} (before : ∀ found, pool.threads thread = some found →
      pendingInsert found = none)
    (after : pendingInsert task = some catalog) (node : NodeId) :
    Hidden (pool.assign shared thread task) node ↔
      node = catalog.originNode ∨ Hidden pool node := by
  constructor
  · rintro ⟨other, found, stored, running, pending, own⟩
    rcases Pool.assign_cases _ _ _ _ running with ⟨_, rfl⟩ | ⟨_, running⟩
    · rw [after] at pending
      cases pending
      exact .inl own.symm
    · exact .inr ⟨other, found, stored, running, pending, own⟩
  · rintro (rfl | ⟨other, found, stored, running, pending, own⟩)
    · exact ⟨thread, task, catalog, Pool.assign_same _ _ _ _, after, rfl⟩
    · have different : other ≠ thread := by
        rintro rfl
        rw [before found running] at pending
        cases pending
      exact ⟨other, found, stored, by rw [Pool.assign_other _ _ _ _ different, running],
        pending, own⟩

/-- With one upsert at a time, only the node of the pending insert is hidden. -/
theorem hidden_iff_pending {pool : CachePool} {thread : Nat} {task : CacheTask}
    {catalog : Catalog}
    (one_writer : ∀ thread other, Writing pool thread → Writing pool other → thread = other)
    (running : pool.threads thread = some task) (pending : pendingInsert task = some catalog)
    (node : NodeId) : Hidden pool node ↔ node = catalog.originNode := by
  constructor
  · rintro ⟨other, found, stored, otherRunning, otherPending, own⟩
    obtain ⟨transcript, request, next, rfl⟩ := pendingInsert_eq_some pending
    obtain ⟨otherTranscript, otherRequest, otherNext, rfl⟩ := pendingInsert_eq_some otherPending
    have same := one_writer thread other ⟨_, _, _, _, running⟩ ⟨_, _, _, _, otherRunning⟩
    subst same
    rw [running] at otherRunning
    cases otherRunning
    exact own.symm
  · rintro rfl
    exact ⟨thread, task, catalog, running, pending, rfl⟩

theorem not_hidden_insert {pool : CachePool} {shared : GraphStore} {thread : Nat}
    {task after : CacheTask} {catalog : Catalog}
    (one_writer : ∀ thread other, Writing pool thread → Writing pool other → thread = other)
    (running : pool.threads thread = some task) (pending : pendingInsert task = some catalog)
    (returned : pendingInsert after = none) (node : NodeId) :
    ¬Hidden (pool.assign shared thread after) node := by
  rintro ⟨other, found, stored, otherRunning, otherPending, _⟩
  rcases Pool.assign_cases _ _ _ _ otherRunning with ⟨_, rfl⟩ | ⟨different, otherRunning⟩
  · rw [returned] at otherPending
    cases otherPending
  · obtain ⟨transcript, request, next, rfl⟩ := pendingInsert_eq_some pending
    obtain ⟨otherTranscript, otherRequest, otherNext, rfl⟩ := pendingInsert_eq_some otherPending
    exact different (one_writer other thread ⟨_, _, _, _, otherRunning⟩ ⟨_, _, _, _, running⟩)

theorem Coherent.start {contents : CatalogMap} {pool : CachePool}
    (coherent : Coherent support contents pool) {thread : Nat} {job : Operation}
    (fresh : pool.threads thread = none) (no_delete : ∀ node, job ≠ .delete node)
    (one_scheduler : ∀ catalog, job = .upsert catalog → ∀ other, ¬Writing pool other) :
    Coherent support contents (pool.assign pool.shared thread
      ⟨job, [], OxigraphCatalogCache.program support job⟩) where
  stages := by
    intro other task running
    rcases Pool.assign_cases _ _ _ _ running with ⟨_, rfl⟩ | ⟨_, running⟩
    · exact .fresh rfl rfl
    · exact coherent.stages other task running
  no_deletes := by
    intro other task running
    rcases Pool.assign_cases _ _ _ _ running with ⟨_, rfl⟩ | ⟨_, running⟩
    · exact no_delete
    · exact coherent.no_deletes other task running
  one_writer := by
    intro first second firstWrites secondWrites
    have located : ∀ other, Writing (pool.assign pool.shared thread
        ⟨job, [], OxigraphCatalogCache.program support job⟩) other →
        (other = thread ∧ ∃ catalog, job = .upsert catalog) ∨ Writing pool other := by
      rintro other ⟨catalog, transcript, request, next, running⟩
      rcases Pool.assign_cases _ _ _ _ running with ⟨isThread, same⟩ | ⟨_, running⟩
      · exact .inl ⟨isThread, catalog, (congrArg Task.job same).symm⟩
      · exact .inr ⟨catalog, transcript, request, next, running⟩
    rcases located first firstWrites with ⟨isFirst, catalog, isUpsert⟩ | firstBefore
    · rcases located second secondWrites with ⟨isSecond, _⟩ | secondBefore
      · rw [isFirst, isSecond]
      · exact absurd secondBefore (one_scheduler catalog isUpsert second)
    · rcases located second secondWrites with ⟨isSecond, catalog, isUpsert⟩ | secondBefore
      · exact absurd firstBefore (one_scheduler catalog isUpsert first)
      · exact coherent.one_writer first second firstBefore secondBefore
  keyed := coherent.keyed
  shown := by
    obtain ⟨shown, represents, values⟩ := coherent.shown
    refine ⟨shown, represents, ?_⟩
    intro node
    have before : ∀ found, pool.threads thread = some found → pendingInsert found = none := by
      intro found running
      rw [fresh] at running
      cases running
    rw [hidden_assign before (pendingInsert_program job) node]
    exact values node

theorem writing_of_advance {pool : CachePool} {shared : GraphStore} {thread other : Nat}
    {job : Operation} {transcript later : List (Σ request : StoreCall, request.Reply)}
    {request : StoreCall} {next : request.Reply → StoreProgram Outcome}
    {left : StoreProgram Outcome}
    (waiting : pool.threads thread = some ⟨job, transcript, .call request next⟩)
    (writing : Writing (pool.assign shared thread ⟨job, later, left⟩) other) :
    Writing pool other := by
  obtain ⟨catalog, _, _, _, running⟩ := writing
  rcases Pool.assign_cases _ _ _ _ running with ⟨rfl, same⟩ | ⟨_, running⟩
  · have isUpsert : job = .upsert catalog := (congrArg Task.job same).symm
    exact ⟨catalog, transcript, request, next, isUpsert ▸ waiting⟩
  · exact ⟨catalog, _, _, _, running⟩

variable (support) in
def Shows (contents : CatalogMap) (pool : CachePool) : Prop :=
  ∃ shown, Represents support shown pool.shared ∧ ∀ node,
    (Hidden pool node → shown node = none) ∧ (¬Hidden pool node → shown node = contents node)

section Shows

variable {contents : CatalogMap} {pool : CachePool} {thread : Nat} {order : StoreOrder}
  {task : CacheTask}

theorem pending_of_running (running : pool.threads thread = some task)
    (settled : pendingInsert task = none) :
    ∀ found, pool.threads thread = some found → pendingInsert found = none := by
  intro found isFound
  rw [running] at isFound
  cases isFound
  exact settled

theorem landed_settled (running : pool.threads thread = some task)
    (settled : pendingInsert task = none) :
    landed contents (landingAt pool (some (.advance thread order))) = contents := by
  simp [landingAt, running, settled, landed]

theorem Coherent.shows_unchanged (coherent : Coherent support contents pool)
    (running : pool.threads thread = some task) (settled : pendingInsert task = none)
    {later : CacheTask} (stillSettled : pendingInsert later = none) :
    Shows support (landed contents (landingAt pool (some (.advance thread order))))
      (pool.assign pool.shared thread later) := by
  obtain ⟨shown, represents, values⟩ := coherent.shown
  refine ⟨shown, represents, ?_⟩
  intro node
  rw [hidden_assign (pending_of_running running settled) stillSettled node,
    landed_settled running settled]
  exact values node

theorem Coherent.shows_clear (coherent : Coherent support contents pool)
    (running : pool.threads thread = some task) (settled : pendingInsert task = none)
    {later : CacheTask} {catalog : Catalog} (pending : pendingInsert later = some catalog) :
    Shows support (landed contents (landingAt pool (some (.advance thread order))))
      (pool.assign (pool.shared.removeSubject (iriOf support catalog.originNode)
        (iriOf support catalog.originNode)) thread later) := by
  obtain ⟨shown, represents, values⟩ := coherent.shown
  refine ⟨_, represents.removeSubject catalog.originNode, ?_⟩
  intro node
  rw [hidden_clear (pending_of_running running settled) pending, not_or,
    landed_settled running settled, KeyedMap.remove_apply]
  by_cases own : node = catalog.originNode
  · simp [own]
  · simpa [own] using values node

theorem Coherent.shows_insert (coherent : Coherent support contents pool)
    (running : pool.threads thread = some task) {catalog : Catalog}
    (pending : pendingInsert task = some catalog) {later : CacheTask}
    (settled : pendingInsert later = none) :
    Shows support (landed contents (landingAt pool (some (.advance thread order))))
      (pool.assign (pool.shared.insert (catalogQuad support catalog)) thread later) := by
  obtain ⟨shown, represents, values⟩ := coherent.shown
  have hidden := hidden_iff_pending coherent.one_writer running pending
  have vacant := (values catalog.originNode).1 ((hidden _).mpr rfl)
  refine ⟨_, represents.insert catalog vacant, ?_⟩
  intro node
  have visible : ¬Hidden (pool.assign (pool.shared.insert (catalogQuad support catalog)) thread
      later) node :=
    not_hidden_insert coherent.one_writer running pending settled node
  refine ⟨fun isHidden => absurd isHidden visible, fun _ => ?_⟩
  simp only [landingAt, running, Option.bind_some, pending, Option.map_some, landed,
    KeyedMap.store_apply]
  by_cases own : node = catalog.originNode
  · simp [own]
  · have shownBefore := (values node).2 (by rw [hidden]; exact own)
    simp [own, shownBefore]

end Shows

/-- What a move shows of the map: the upsert's node is hidden from its remove
to its insert. -/
theorem Coherent.shows_after {contents : CatalogMap} {pool : CachePool}
    (coherent : Coherent support contents pool) {thread : Nat} {order : StoreOrder}
    {job : Operation} {transcript later : List (Σ request : StoreCall, request.Reply)}
    {request : StoreCall} {next : request.Reply → StoreProgram Outcome}
    {left : StoreProgram Outcome} {after : GraphStore}
    (waiting : pool.threads thread = some ⟨job, transcript, .call request next⟩)
    (move : Move support order pool.shared ⟨job, transcript, .call request next⟩ request left
      after) :
    Shows support (landed contents (landingAt pool (some (.advance thread order))))
      (pool.assign after thread ⟨job, later, left⟩) := by
  cases move with
  | clear catalog job_eq untouched program_eq left_eq after_eq =>
      simp only at job_eq program_eq
      subst job_eq left_eq after_eq
      have settled : pendingInsert ⟨.upsert catalog, transcript, .call request next⟩ = none := by
        rw [program_eq, program_upsert]
        rfl
      exact coherent.shows_clear waiting settled (pendingInsert_inserting support catalog later)
  | insert catalog job_eq program_eq left_eq after_eq =>
      simp only at job_eq program_eq
      subst job_eq left_eq after_eq
      have pending : pendingInsert ⟨.upsert catalog, transcript, .call request next⟩ =
          some catalog := by
        rw [program_eq]
        rfl
      exact coherent.shows_insert waiting pending rfl
  | absent node job_eq | present node job_eq | remove node job_eq =>
      exact absurd job_eq (coherent.no_deletes thread _ waiting node)
  | look query node job_eq _ _ _ _ after_eq | list query job_eq _ _ _ _ after_eq
  | read query _ _ job_eq _ _ _ _ _ after_eq =>
      simp only at job_eq
      subst job_eq after_eq
      exact coherent.shows_unchanged waiting rfl rfl

theorem landed_keyed {contents : CatalogMap} (keyed : Keyed contents)
    (landing : Option (Nat × Catalog)) : Keyed (landed contents landing) := by
  rcases landing with _ | ⟨thread, catalog⟩
  · exact keyed
  · exact keyed.apply (.upsert catalog)

theorem Coherent.advance {contents : CatalogMap} {pool : CachePool}
    (coherent : Coherent support contents pool) {thread : Nat} (order : StoreOrder)
    {job : Operation} {transcript : List (Σ request : StoreCall, request.Reply)}
    {request : StoreCall} {next : request.Reply → StoreProgram Outcome}
    (waiting : pool.threads thread = some ⟨job, transcript, .call request next⟩) :
    Coherent support (landed contents (landingAt pool (some (.advance thread order))))
      (pool.assign (StoreCall.answer order pool.shared request).2 thread
        ⟨job, transcript ++ [⟨request, (StoreCall.answer order pool.shared request).1⟩],
          next (StoreCall.answer order pool.shared request).1⟩) where
  stages := by
    intro other task running
    rcases Pool.assign_cases _ _ _ _ running with ⟨_, rfl⟩ | ⟨_, running⟩
    · exact ((coherent.stages _ _ waiting).move order pool.shared).stage
    · exact coherent.stages other task running
  no_deletes := by
    intro other task running
    rcases Pool.assign_cases _ _ _ _ running with ⟨_, rfl⟩ | ⟨_, running⟩
    · intro node
      exact coherent.no_deletes thread ⟨job, transcript, .call request next⟩ waiting node
    · exact coherent.no_deletes other task running
  one_writer := fun first second firstWrites secondWrites =>
    coherent.one_writer first second (writing_of_advance waiting firstWrites)
      (writing_of_advance waiting secondWrites)
  keyed := landed_keyed coherent.keyed _
  shown := coherent.shows_after waiting ((coherent.stages _ _ waiting).move order pool.shared)

theorem Coherent.find {contents : CatalogMap} {pool : CachePool}
    (coherent : Coherent support contents pool) (order : StoreOrder) (graph : NamedNode)
    (calm : ∀ node, graph = iriOf support node → Hidden pool node → contents node = none) :
    ∃ found : Option Catalog,
      (order.quads pool.shared.quads).find? (Quad.matches (some graph)
        (some catalogJsonPredicate) (some graph)) = found.map (catalogQuad support) ∧
      ∀ catalog, found = some catalog ↔
        contents catalog.originNode = some catalog ∧ iriOf support catalog.originNode = graph := by
  obtain ⟨shown, represents, values⟩ := coherent.shown
  obtain ⟨found, search, characterized⟩ := represents.find order (.inr rfl) graph
  refine ⟨found, search, ?_⟩
  intro catalog
  rw [characterized]
  apply and_congr_left
  intro inGraph
  by_cases hidden : Hidden pool catalog.originNode
  · rw [(values _).1 hidden, calm _ inGraph.symm hidden]
  · rw [(values _).2 hidden]

theorem Coherent.listed {contents : CatalogMap} {pool : CachePool}
    (coherent : Coherent support contents pool) (order : StoreOrder)
    (calm : ∀ node, Hidden pool node → contents node ≠ none →
      .namedNode (iriOf support node) ∈ order.graphs pool.shared.quads)
    (node : NodeId) (stored : contents node ≠ none) :
    .namedNode (iriOf support node) ∈ order.graphs pool.shared.quads := by
  by_cases hidden : Hidden pool node
  · exact calm node hidden stored
  · obtain ⟨shown, represents, values⟩ := coherent.shown
    obtain ⟨catalog, entry⟩ := Option.ne_none_iff_exists'.mp stored
    have own := coherent.keyed node catalog entry
    have inStore := (represents.quads (catalogQuad support catalog)).mpr
      ⟨catalog, by rw [own, (values node).2 hidden, entry], rfl⟩
    have named := order.graphs_complete pool.shared.quads _ inStore
    simpa [catalogQuad, own] using named

/-! ## What queries have seen, along a run -/

/-- The instant comes after every start of the thread so far. -/
def StartedBefore (run : SchedulerRun support) (thread index instant : Nat) : Prop :=
  ∀ started job, started < index →
    run.execution.events[started]? = some (.start thread job) → started < instant

/-- A query that got this far has seen the map as it was at one instant. -/
structure ThreadSees (run : SchedulerRun support) (index thread : Nat) (query : CatalogQuery)
    (transcript : List (Σ request : StoreCall, request.Reply))
    (program : StoreProgram Outcome) : Prop where
  seen : query.originNode = none → transcript ≠ [] →
    ∃ instant, StartedBefore run thread index instant ∧ instant ≤ index ∧
      View support (run.contents instant) (run.contents index) (viewOf support transcript)
  answered : ∀ outcome, program = .done outcome →
    ∃ instant, StartedBefore run thread index instant ∧ instant ≤ index ∧
      Answers (run.contents instant) (.query query) outcome

theorem program_query_ne_done (query : CatalogQuery) (outcome : Outcome) :
    OxigraphCatalogCache.program support (.query query) ≠ .done outcome := by
  cases filter : query.originNode with
  | none =>
      simp [program_query_all support query filter]
  | some node =>
      simp [program_query_node support query node filter, OxigraphCatalogCache.loadGraph]

theorem StartedBefore.next {run : SchedulerRun support} {thread index instant : Nat}
    (before : StartedBefore run thread index instant) {task : CacheTask}
    (running : (run.execution.state index).threads thread = some task) :
    StartedBefore run thread (index + 1) instant := by
  intro started job earlier occurs
  by_cases now : started = index
  · subst now
    have stepped := (Pool.step_iff _ _ _ _ _).mp (run.execution.steps started _ occurs)
    generalize run.execution.state (started + 1) = later at stepped
    cases stepped with
    | start fresh =>
        rw [running] at fresh
        cases fresh
  · exact before started job (by omega) occurs

theorem contents_succ (run : SchedulerRun support) {index : Nat} {event : CacheEvent}
    (occurs : run.execution.events[index]? = some event) :
    run.contents (index + 1) =
      landed (run.contents index) (landingAt (run.execution.state index) (some event)) := by
  rw [SchedulerRun.contents, SchedulerRun.landing, occurs]

theorem contents_keyed (run : SchedulerRun support) (index : Nat) :
    Keyed (run.contents index) := by
  induction index with
  | zero => exact run.represents.keyed
  | succ index inductionHypothesis => exact landed_keyed inductionHypothesis _

theorem View.event {run : SchedulerRun support} (calm : Calm run) {index instant : Nat}
    {event : CacheEvent} (occurs : run.execution.events[index]? = some event)
    {reader : Nat} {query : CatalogQuery}
    {transcript : List (Σ request : StoreCall, request.Reply)} {program : StoreProgram Outcome}
    (running : (run.execution.state index).threads reader =
      some ⟨.query query, transcript, program⟩)
    (unfiltered : query.originNode = none)
    (seen : View support (run.contents instant) (run.contents index)
      (viewOf support transcript)) :
    View support (run.contents instant) (run.contents (index + 1)) (viewOf support transcript) ∨
      View support (run.contents (index + 1)) (run.contents (index + 1))
        (viewOf support transcript) := by
  rw [contents_succ run occurs]
  cases landing : landingAt (run.execution.state index) (some event) with
  | none => exact .inl seen
  | some landed =>
      obtain ⟨writer, catalog⟩ := landed
      apply seen.land catalog
      intro changes ahead
      cases event with
      | start thread job => simp [landingAt] at landing
      | advance thread order =>
          simp only [landingAt, Option.map_eq_some_iff, Option.bind_eq_some_iff,
            Prod.mk.injEq] at landing
          obtain ⟨_, ⟨task, isTask, pending⟩, rfl, rfl⟩ := landing
          exact (calm index _ occurs).overtakes thread order task _ reader query transcript
            program rfl isTask pending changes running unfiltered ahead

theorem ThreadSees.unmoved {run : SchedulerRun support} (calm : Calm run) {index : Nat}
    {event : CacheEvent} (occurs : run.execution.events[index]? = some event) {thread : Nat}
    {query : CatalogQuery} {transcript : List (Σ request : StoreCall, request.Reply)}
    {program : StoreProgram Outcome}
    (running : (run.execution.state index).threads thread =
      some ⟨.query query, transcript, program⟩)
    (sees : ThreadSees run index thread query transcript program) :
    ThreadSees run (index + 1) thread query transcript program where
  seen := by
    intro unfiltered listed
    obtain ⟨instant, before, past, view⟩ := sees.seen unfiltered listed
    rcases view.event calm occurs running unfiltered with view | view
    · exact ⟨instant, before.next running, by omega, view⟩
    · exact ⟨index + 1, fun started _ earlier _ => earlier, le_refl _, view⟩
  answered := by
    intro outcome returned
    obtain ⟨instant, before, past, answers⟩ := sees.answered outcome returned
    exact ⟨instant, before.next running, by omega, answers⟩

section Moved

variable {run : SchedulerRun support} {index thread : Nat} {order : StoreOrder}
  {query : CatalogQuery} {transcript : List (Σ request : StoreCall, request.Reply)}
  {request : StoreCall} {next : request.Reply → StoreProgram Outcome}

theorem contents_unchanged (occurs : run.execution.events[index]? = some (.advance thread order))
    {program : StoreProgram Outcome}
    (running : (run.execution.state index).threads thread =
      some ⟨.query query, transcript, program⟩) :
    run.contents (index + 1) = run.contents index := by
  rw [contents_succ run occurs]
  simp [landingAt, running, pendingInsert, landed]

theorem startedBefore_now : StartedBefore run thread (index + 1) (index + 1) :=
  fun _ _ earlier _ => earlier

/-- A query that has read all it listed answers with the instant it has seen. -/
theorem View.answered {instant : Nat} {view : ReaderView} (unfiltered : query.originNode = none)
    (seen : View support (run.contents instant) (run.contents index) view)
    {outcome : Outcome} (returned : reading support query view = .done outcome) :
    Answers (run.contents instant) (.query query) outcome := by
  obtain ⟨todo, rfl⟩ := reading_eq_done support returned
  exact seen.answers (contents_keyed run instant) todo query unfiltered

theorem ThreadSees.look (calm : Calm run)
    (coherent : Coherent support (run.contents index) (run.execution.state index))
    (occurs : run.execution.events[index]? = some (.advance thread order))
    (waiting : (run.execution.state index).threads thread =
      some ⟨.query query, transcript, .call request next⟩)
    {node : NodeId} (filtered : query.originNode = some node)
    (request_eq : request = .firstQuadForPattern (some (iriOf support node))
      (some catalogJsonPredicate) (some (iriOf support node)))
    {later : List (Σ request : StoreCall, request.Reply)} {left : StoreProgram Outcome}
    (left_eq : ∀ found : Option Catalog,
      (order.quads (run.execution.state index).shared.quads).find?
        (Quad.matches (some (iriOf support node)) (some catalogJsonPredicate)
          (some (iriOf support node))) = found.map (catalogQuad support) →
      left = .done (.found (.ok (query.paginate found.toList)))) :
    ThreadSees run (index + 1) thread query later left := by
  subst request_eq
  refine ⟨fun unfiltered _ => absurd (filtered.symm.trans unfiltered) (by simp), ?_⟩
  intro outcome returned
  obtain ⟨found, search, characterized⟩ := coherent.find order (iriOf support node)
    fun other isGraph => (calm index _ occurs).reads thread order query transcript _ _ _ next other
      rfl waiting (congrArg some isGraph)
  rw [left_eq found search] at returned
  cases returned
  refine ⟨index + 1, startedBefore_now, le_refl _, ?_⟩
  rw [contents_unchanged occurs waiting, ← coherent.keyed.entry_eq node characterized]
  rcases query with ⟨originNode, offset, limit⟩
  cases filtered
  exact answers_query_node (run.contents index) node offset limit

theorem ThreadSees.list (calm : Calm run)
    (coherent : Coherent support (run.contents index) (run.execution.state index))
    (occurs : run.execution.events[index]? = some (.advance thread order))
    (waiting : (run.execution.state index).threads thread =
      some ⟨.query query, [], .call request next⟩)
    (unfiltered : query.originNode = none) (request_eq : request = .namedGraphs)
    {later : List (Σ request : StoreCall, request.Reply)} {left : StoreProgram Outcome}
    (viewed : viewOf support later =
      ⟨(order.graphs (run.execution.state index).shared.quads).filterMap
        NamedOrBlankNode.asNamed, []⟩)
    (left_eq : left = reading support query (viewOf support later)) :
    ThreadSees run (index + 1) thread query later left := by
  subst request_eq
  have view : View support (run.contents index) (run.contents index) (viewOf support later) := by
    rw [viewed]
    exact View.list (coherent.listed order fun node hidden stored =>
      (calm index _ occurs).lists thread order query [] next node rfl waiting hidden stored)
  rw [← contents_unchanged occurs waiting] at view
  refine ⟨fun _ _ => ⟨index + 1, startedBefore_now, le_refl _, view⟩, ?_⟩
  intro outcome returned
  exact ⟨index + 1, startedBefore_now, le_refl _,
    view.answered unfiltered (left_eq ▸ returned)⟩

theorem ThreadSees.read (calm : Calm run)
    (coherent : Coherent support (run.contents index) (run.execution.state index))
    (occurs : run.execution.events[index]? = some (.advance thread order))
    (waiting : (run.execution.state index).threads thread =
      some ⟨.query query, transcript, .call request next⟩)
    (sees : ThreadSees run index thread query transcript (.call request next))
    (unfiltered : query.originNode = none) {graph : NamedNode} {rest : List NamedNode}
    (todo_eq : (viewOf support transcript).todo = graph :: rest)
    (request_eq : request = .firstQuadForPattern (some graph) (some catalogJsonPredicate)
      (some graph))
    {later : List (Σ request : StoreCall, request.Reply)} {left : StoreProgram Outcome}
    (viewed : ∀ found : Option Catalog,
      (order.quads (run.execution.state index).shared.quads).find? (Quad.matches (some graph)
        (some catalogJsonPredicate) (some graph)) = found.map (catalogQuad support) →
      viewOf support later = ⟨rest, (viewOf support transcript).results ++ found.toList⟩ ∧
        left = reading support query (viewOf support later)) :
    ThreadSees run (index + 1) thread query later left := by
  subst request_eq
  have listed : transcript ≠ [] := by
    rintro rfl
    cases todo_eq
  obtain ⟨instant, before, earlier, view⟩ := sees.seen unfiltered listed
  obtain ⟨found, search, characterized⟩ := coherent.find order graph
    fun node isGraph => (calm index _ occurs).reads thread order query transcript _ _ _ next node
      rfl waiting (congrArg some isGraph)
  obtain ⟨viewed, left_eq⟩ := viewed found search
  have moved := view.read coherent.keyed todo_eq characterized
  rw [← viewed, ← contents_unchanged occurs waiting] at moved
  refine ⟨fun _ _ => ⟨instant, before.next waiting, by omega, moved⟩, ?_⟩
  intro outcome returned
  exact ⟨instant, before.next waiting, by omega, moved.answered unfiltered (left_eq ▸ returned)⟩

/-- A query that takes its next step outside every upsert's gap has seen one instant. -/
theorem ThreadSees.moved (calm : Calm run)
    (coherent : Coherent support (run.contents index) (run.execution.state index))
    (occurs : run.execution.events[index]? = some (.advance thread order))
    (waiting : (run.execution.state index).threads thread =
      some ⟨.query query, transcript, .call request next⟩)
    (sees : ThreadSees run index thread query transcript (.call request next)) :
    ThreadSees run (index + 1) thread query (transcript ++
        [⟨request, (StoreCall.answer order (run.execution.state index).shared request).1⟩])
      (next (StoreCall.answer order (run.execution.state index).shared request).1) := by
  cases (coherent.stages _ _ waiting).move order (run.execution.state index).shared with
  | clear _ job_eq | insert _ job_eq | absent _ job_eq | present _ job_eq | remove _ job_eq =>
      cases job_eq
  | look query node job_eq filtered request_eq _ left_eq _ =>
      cases job_eq
      exact .look calm coherent occurs waiting filtered request_eq left_eq
  | list query job_eq unfiltered untouched request_eq left_eq _ =>
      cases job_eq
      simp only at untouched
      subst untouched request_eq
      exact .list calm coherent occurs waiting unfiltered rfl rfl left_eq
  | read query graph rest job_eq unfiltered todo_eq request_eq _ left_eq _ =>
      cases job_eq
      refine .read calm coherent occurs waiting sees unfiltered todo_eq request_eq ?_
      intro found search
      subst request_eq
      have viewed : viewOf support (transcript ++ [⟨.firstQuadForPattern (some graph)
          (some catalogJsonPredicate) (some graph), (StoreCall.answer order
            (run.execution.state index).shared (.firstQuadForPattern (some graph)
              (some catalogJsonPredicate) (some graph))).1⟩]) =
          ⟨rest, (viewOf support transcript).results ++ found.toList⟩ := by
        rw [viewOf_append]
        simp only [ReaderView.after, StoreCall.answer, search, todo_eq, List.tail_cons,
          loaded_catalogQuad]
      exact ⟨viewed, viewed ▸ left_eq found search⟩

end Moved

theorem Coherent.idle {contents : CatalogMap} {pool : CachePool}
    (represents : Represents support contents pool.shared)
    (idle : ∀ thread, pool.threads thread = none) : Coherent support contents pool := by
  have running : ∀ thread task, pool.threads thread ≠ some task := by
    intro thread task running
    rw [idle] at running
    cases running
  refine ⟨?_, ?_, ?_, represents.keyed, contents, represents, ?_⟩
  · exact fun thread task isRunning => absurd isRunning (running thread task)
  · exact fun thread task isRunning => absurd isRunning (running thread task)
  · rintro thread other ⟨_, _, _, _, isRunning⟩
    exact absurd isRunning (running thread _)
  · refine fun node => ⟨?_, fun _ => rfl⟩
    rintro ⟨thread, task, _, isRunning, _⟩
    exact absurd isRunning (running thread task)

theorem ThreadSees.fresh (run : SchedulerRun support) (index thread : Nat)
    (query : CatalogQuery) :
    ThreadSees run index thread query [] (OxigraphCatalogCache.program support (.query query)) where
  seen := fun _ listed => absurd rfl listed
  answered := fun outcome returned => absurd returned (program_query_ne_done query outcome)

/-- In every state of a calm run the store and the queries agree with the map. -/
theorem calm_invariant (run : SchedulerRun support) (calm : Calm run) :
    ∀ index, index ≤ run.execution.events.length →
      Coherent support (run.contents index) (run.execution.state index) ∧
        ∀ thread query transcript program,
          (run.execution.state index).threads thread =
            some ⟨.query query, transcript, program⟩ →
          ThreadSees run index thread query transcript program := by
  apply run.execution.invariant fun index pool =>
    Coherent support (run.contents index) pool ∧
      ∀ thread query transcript program,
        pool.threads thread = some ⟨.query query, transcript, program⟩ →
        ThreadSees run index thread query transcript program
  · refine ⟨.idle run.represents run.idle, ?_⟩
    intro thread query transcript program running
    rw [run.idle] at running
    cases running
  · intro index event occurs stepped inductionHypothesis
    obtain ⟨coherent, sees⟩ := inductionHypothesis
    have possible := (Pool.step_iff _ _ _ _ _).mp stepped
    rw [contents_succ run occurs]
    generalize run.execution.state (index + 1) = later at possible
    cases possible with
    | @start thread job fresh =>
        refine ⟨coherent.start fresh ?_ ?_, ?_⟩
        · rintro node rfl
          exact run.no_deletes index thread node occurs
        · rintro catalog rfl other ⟨stored, transcript, request, next, running⟩
          obtain ⟨outcome, returned⟩ := run.one_scheduler index thread catalog occurs other _
            stored running rfl
          cases returned
        · intro other query transcript program running
          rcases Pool.assign_cases _ _ _ _ running with ⟨_, same⟩ | ⟨_, running⟩
          · cases same
            exact .fresh run (index + 1) other query
          · exact (sees other query transcript program running).unmoved calm occurs running
    | @advance thread order job transcript request next waiting =>
        refine ⟨coherent.advance order waiting, ?_⟩
        intro other query transcript program running
        rcases Pool.assign_cases _ _ _ _ running with ⟨isThread, same⟩ | ⟨_, running⟩
        · cases same
          subst isThread
          exact (sees _ query _ _ waiting).moved calm coherent occurs waiting
        · exact (sees other query transcript program running).unmoved calm occurs running

/-! ## Upserts take effect once -/

section Landing

variable (run : SchedulerRun support)

theorem SchedulerRun.stages (index : Nat) (bounded : index ≤ run.execution.events.length) :
    ∀ thread task, (run.execution.state index).threads thread = some task →
      Stage support task :=
  run.execution.stages run.idle index bounded

theorem landing_eq_some {index thread : Nat} {catalog : Catalog}
    (lands : run.landing index = some (thread, catalog)) :
    ∃ order transcript request next,
      run.execution.events[index]? = some (.advance thread order) ∧
      (run.execution.state index).threads thread =
        some ⟨.upsert catalog, transcript, .call request next⟩ ∧
      pendingInsert ⟨.upsert catalog, transcript, .call request next⟩ = some catalog := by
  unfold SchedulerRun.landing landingAt at lands
  split at lands
  case h_2 => cases lands
  case h_1 advanced order occurs =>
    simp only [Option.map_eq_some_iff, Option.bind_eq_some_iff, Prod.mk.injEq] at lands
    obtain ⟨stored, ⟨task, running, pending⟩, rfl, rfl⟩ := lands
    obtain ⟨transcript, request, next, rfl⟩ := pendingInsert_eq_some pending
    exact ⟨order, transcript, request, next, occurs, running, pending⟩

theorem returned_of_landing {index thread : Nat} {catalog : Catalog}
    (lands : run.landing index = some (thread, catalog)) :
    ∃ transcript outcome, (run.execution.state (index + 1)).threads thread =
      some ⟨.upsert catalog, transcript, .done outcome⟩ := by
  obtain ⟨order, transcript, request, next, occurs, waiting, pending⟩ := landing_eq_some run lands
  obtain ⟨bounded, _⟩ := List.getElem?_eq_some_iff.mp occurs
  have stage := run.stages index (by omega) _ _ waiting
  have stepped := (Pool.step_iff _ _ _ _ _).mp (run.execution.steps index _ occurs)
  generalize run.execution.state (index + 1) = later at stepped
  generalize run.execution.state index = pool at stepped waiting
  cases stepped with
  | advance running =>
      rw [waiting] at running
      cases running
      cases stage.move order pool.shared with
      | clear stored _ _ program_eq =>
          simp only [program_upsert] at program_eq
          rw [program_eq] at pending
          cases pending
      | insert stored job_eq _ left_eq =>
          exact ⟨_, _, by rw [Pool.assign_same, left_eq]⟩
      | absent _ job_eq | present _ job_eq | remove _ job_eq | look _ _ job_eq | list _ job_eq
      | read _ _ _ job_eq => cases job_eq

theorem landingAt_of_returns {pool : CachePool} {thread : Nat} {order : StoreOrder}
    {catalog : Catalog} {transcript : List (Σ request : StoreCall, request.Reply)}
    {request : StoreCall} {next : request.Reply → StoreProgram Outcome} {outcome : Outcome}
    (stage : Stage support ⟨.upsert catalog, transcript, .call request next⟩)
    (waiting : pool.threads thread = some ⟨.upsert catalog, transcript, .call request next⟩)
    (returns : .done outcome = next (StoreCall.answer order pool.shared request).1) :
    landingAt pool (some (.advance thread order)) = some (thread, catalog) := by
  cases stage.move order pool.shared with
  | clear stored _ _ _ left_eq =>
      rw [left_eq] at returns
      cases returns
  | insert stored job_eq program_eq _ =>
      cases job_eq
      simp only at program_eq
      rw [landingAt, waiting, program_eq]
      rfl
  | absent _ job_eq | present _ job_eq | remove _ job_eq | look _ _ job_eq
  | list _ job_eq | read _ _ _ job_eq => cases job_eq

theorem landing_of_returned :
    ∀ index, index ≤ run.execution.events.length →
      ∀ thread catalog transcript outcome, (run.execution.state index).threads thread =
        some ⟨.upsert catalog, transcript, .done outcome⟩ →
      ∃ earlier, earlier < index ∧ run.landing earlier = some (thread, catalog) := by
  apply run.execution.invariant fun index pool =>
    ∀ thread catalog transcript outcome,
      pool.threads thread = some ⟨.upsert catalog, transcript, .done outcome⟩ →
      ∃ earlier, earlier < index ∧ run.landing earlier = some (thread, catalog)
  · intro thread catalog transcript outcome returned
    rw [run.idle] at returned
    cases returned
  · intro index event occurs stepped inductionHypothesis thread catalog transcript outcome returned
    obtain ⟨bounded, _⟩ := List.getElem?_eq_some_iff.mp occurs
    have lands : run.landing index = landingAt (run.execution.state index) (some event) := by
      rw [SchedulerRun.landing, occurs]
    have stages := run.stages index (by omega)
    have possible := (Pool.step_iff _ _ _ _ _).mp stepped
    generalize run.execution.state (index + 1) = later at possible returned
    generalize run.execution.state index = pool at possible lands stages inductionHypothesis
    cases possible with
    | @start started job fresh =>
        rcases Pool.assign_cases _ _ _ _ returned with ⟨_, same⟩ | ⟨_, before⟩
        · have isUpsert : Operation.upsert catalog = job := congrArg Task.job same
          have unstarted : .done outcome = OxigraphCatalogCache.program support job :=
            congrArg Task.program same
          rw [← isUpsert, program_upsert] at unstarted
          cases unstarted
        · obtain ⟨earlier, past, landed⟩ := inductionHypothesis _ _ _ _ before
          exact ⟨earlier, by omega, landed⟩
    | @advance advanced order job before request next waiting =>
        rcases Pool.assign_cases _ _ _ _ returned with ⟨isThread, same⟩ | ⟨_, before⟩
        · subst isThread
          have isUpsert : Operation.upsert catalog = job := congrArg Task.job same
          have returns : .done outcome = next (StoreCall.answer order pool.shared request).1 :=
            congrArg Task.program same
          subst isUpsert
          exact ⟨index, by omega,
            lands.trans (landingAt_of_returns (stages _ _ waiting) waiting returns)⟩
        · obtain ⟨earlier, past, landed⟩ := inductionHypothesis _ _ _ _ before
          exact ⟨earlier, by omega, landed⟩

theorem timeline : Timeline run.execution run.initial run.landing run.contents where
  starts := rfl
  changes := fun _ _ => rfl
  running := by
    intro index thread catalog _ lands
    obtain ⟨_, transcript, request, next, _, waiting, _⟩ := landing_eq_some run lands
    exact ⟨transcript, request, next, waiting⟩
  once := by
    intro index later thread catalog other past bounded lands landsAgain
    obtain ⟨transcript, outcome, returned⟩ := returned_of_landing run lands
    have still := Pool.returned_from run.execution returned later past (by omega)
    obtain ⟨_, _, _, _, _, waiting, _⟩ := landing_eq_some run landsAgain
    rw [still] at waiting
    cases waiting
  effective := fun index thread catalog transcript outcome bounded returned =>
    landing_of_returned run index bounded thread catalog transcript outcome returned

end Landing

/-- In a calm run every query answers with the map at one instant. -/
theorem readers_see_one_instant (run : SchedulerRun support) (calm : Calm run) :
    ReadersSeeOneInstant run := by
  refine ⟨run.landing, run.contents, timeline run, ?_⟩
  intro started finished thread query transcript outcome starts bounded returned
  obtain ⟨_, sees⟩ := calm_invariant run calm finished bounded
  obtain ⟨instant, before, past, answers⟩ :=
    (sees thread query transcript _ returned).answered outcome rfl
  have earlier : started < finished := by
    by_contra late
    obtain ⟨inside, _⟩ := List.getElem?_eq_some_iff.mp starts
    have still := Pool.returned_from run.execution returned started (by omega) (by omega)
    have stepped := (Pool.step_iff _ _ _ _ _).mp (run.execution.steps started _ starts)
    generalize run.execution.state (started + 1) = later at stepped
    cases stepped with
    | start fresh =>
        rw [still] at fresh
        cases fresh
  exact ⟨instant, before started _ earlier starts, past, answers⟩

/-! ## A query in the gap -/

theorem Timeline.entry_persists {execution : CacheExecution support} {initial : CatalogMap}
    {landing : Nat → Option (Nat × Catalog)} {contents : Nat → CatalogMap}
    (timeline : Timeline execution initial landing contents) {node : NodeId}
    (stored : initial node ≠ none) :
    ∀ index, index ≤ execution.events.length → contents index node ≠ none := by
  intro index
  induction index with
  | zero => exact fun _ => timeline.starts ▸ stored
  | succ index inductionHypothesis =>
      intro bounded
      rw [timeline.changes index (by omega)]
      rcases landing index with _ | ⟨thread, catalog⟩
      · exact inductionHypothesis (by omega)
      · simp only [landed, KeyedMap.store_apply]
        split
        · exact Option.some_ne_none catalog
        · exact inductionHypothesis (by omega)

def oneEntry (catalog : Catalog) : CatalogMap :=
  KeyedMap.store Catalog.originNode (fun _ => none) catalog

theorem represents_oneEntry (catalog : Catalog) :
    Represents support (oneEntry catalog) (GraphStore.empty.insert (catalogQuad support catalog)) :=
  Represents.empty.insert catalog rfl

/-- A query looks for a node that is only being crawled again, between the
remove and the insert of the upsert. -/
def gapEvents : List CacheEvent :=
  [.start 0 (.upsert (.new "second" ⟨"n"⟩)), .start 1 (.query (.forNode ⟨"n"⟩)),
    .advance 0 .plain, .advance 1 .plain, .advance 0 .plain]

def gapRun : SchedulerRun .standard where
  execution := .ofEvents
    (.idle (GraphStore.empty.insert (catalogQuad .standard (.new "first" ⟨"n"⟩)))) gapEvents
    (by decide +kernel)
  initial := oneEntry (.new "first" ⟨"n"⟩)
  represents := represents_oneEntry _
  idle := fun _ => rfl
  no_deletes := by
    intro index thread node starts
    have listed := List.mem_of_getElem? starts
    simp [Execution.ofEvents, gapEvents] at listed
  one_scheduler := by
    intro index thread catalog starts other task stored running
    have first : index = 0 := by
      obtain ⟨bounded, _⟩ := List.getElem?_eq_some_iff.mp starts
      change index < 5 at bounded
      interval_cases index <;> simp_all [Execution.ofEvents, gapEvents]
    subst first
    cases running

theorem gap_reader_misses_the_node : ¬ReadersSeeOneInstant gapRun := by
  rintro ⟨landing, contents, timeline, sees⟩
  have returned : ∃ transcript, (gapRun.execution.state 4).threads 1 =
      some ⟨.query (.forNode ⟨"n"⟩), transcript, .done (.found (.ok []))⟩ := by
    exact ⟨_, rfl⟩
  obtain ⟨transcript, returned⟩ := returned
  obtain ⟨instant, _, past, answers⟩ := sees 1 4 1 _ _ _ rfl (by decide) returned
  have present : gapRun.initial ⟨"n"⟩ ≠ none := by decide
  have stored := timeline.entry_persists present instant (le_trans past (by decide))
  cases entry : contents instant ⟨"n"⟩ with
  | none => exact stored entry
  | some catalog => simp [Answers, CatalogQuery.forNode, entry] at answers

/-- Nothing is hidden when no task is about to insert. -/
theorem not_hidden_of_check (run : SchedulerRun support) (index : Nat)
    (bounded : index ≤ run.execution.events.length)
    (check : ((run.execution.events.filterMap PoolEvent.started).all fun thread =>
      ((run.execution.state index).threads thread).all fun task =>
        (pendingInsert task).isNone) = true) (node : NodeId) :
    ¬Hidden (run.execution.state index) node := by
  rintro ⟨thread, task, catalog, running, pending, _⟩
  obtain ⟨started, _, starts⟩ :=
    Pool.started_of_running run.execution run.idle index bounded thread task running
  have listed : thread ∈ run.execution.events.filterMap PoolEvent.started :=
    List.mem_filterMap.mpr ⟨_, List.mem_of_getElem? starts, rfl⟩
  have settled := List.all_eq_true.mp check thread listed
  rw [running, Option.all_some, pending] at settled
  cases settled

theorem CalmStep.of_not_hidden {contents : CatalogMap} {pool : CachePool} {event : CacheEvent}
    (visible : ∀ node, ¬Hidden pool node) : CalmStep support contents pool event where
  reads := fun _ _ _ _ _ _ _ _ node _ _ _ hidden => absurd hidden (visible node)
  lists := fun _ _ _ _ _ node _ _ hidden => absurd hidden (visible node)
  overtakes := fun thread _ task catalog _ _ _ _ _ running pending =>
    absurd ⟨thread, task, catalog, running, pending, rfl⟩ (visible catalog.originNode)

/-- Everything is queried while a second node gets its first entry. -/
def quietEvents : List CacheEvent :=
  [.start 0 (.upsert (.new "second" ⟨"m"⟩)), .start 1 (.query .all), .advance 0 .plain,
    .advance 1 .plain, .advance 0 .plain, .advance 1 .plain]

def quietRun : SchedulerRun .standard where
  execution := .ofEvents
    (.idle (GraphStore.empty.insert (catalogQuad .standard (.new "first" ⟨"n"⟩)))) quietEvents
    (by decide +kernel)
  initial := oneEntry (.new "first" ⟨"n"⟩)
  represents := represents_oneEntry _
  idle := fun _ => rfl
  no_deletes := by
    intro index thread node starts
    have listed := List.mem_of_getElem? starts
    simp [Execution.ofEvents, quietEvents] at listed
  one_scheduler := by
    intro index thread catalog starts other task stored running
    have first : index = 0 := by
      obtain ⟨bounded, _⟩ := List.getElem?_eq_some_iff.mp starts
      change index < 6 at bounded
      interval_cases index <;> simp_all [Execution.ofEvents, quietEvents]
    subst first
    cases running

theorem quiet_threads {index thread : Nat} {task : CacheTask} (bounded : index ≤ 6)
    (running : (quietRun.execution.state index).threads thread = some task) :
    thread = 0 ∨ thread = 1 := by
  obtain ⟨started, _, starts⟩ :=
    Pool.started_of_running quietRun.execution quietRun.idle index bounded thread task running
  have listed := List.mem_of_getElem? starts
  simp only [quietRun, Execution.ofEvents, quietEvents, List.mem_cons, PoolEvent.start.injEq,
    reduceCtorEq, List.not_mem_nil, or_false] at listed
  rcases listed with ⟨first, _⟩ | ⟨second, _⟩
  · exact .inl first
  · exact .inr second

/-- The graphs are listed before the second node's entry is inserted. -/
theorem quiet_listing_calm :
    CalmStep .standard (quietRun.contents 3) (quietRun.execution.state 3) (.advance 1 .plain) where
  reads := by
    rintro _ _ query transcript subject predicate graph next node ⟨⟩ running
    cases running
  lists := by
    rintro _ _ query transcript next node ⟨⟩ _ ⟨thread, task, catalog, running, pending, rfl⟩ stored
    rcases quiet_threads (by decide) running with rfl | rfl
    · cases running
      cases pending
      exact absurd rfl stored
    · cases running
      cases pending
  overtakes := by
    rintro _ _ task catalog reader query transcript program ⟨⟩ running pending
    cases running
    cases pending

theorem quiet_insert_calm :
    CalmStep .standard (quietRun.contents 4) (quietRun.execution.state 4) (.advance 0 .plain) where
  reads := by
    rintro _ _ query transcript subject predicate graph next node ⟨⟩ running
    cases running
  lists := by
    rintro _ _ query transcript next node ⟨⟩ running
    cases running
  overtakes := by
    rintro _ _ task catalog reader query transcript program ⟨⟩ running pending _ reading _ unread
    cases running
    cases pending
    rcases quiet_threads (by decide) reading with rfl | rfl
    · cases reading
    · cases reading
      exact absurd unread (by decide +kernel)

theorem quiet_readers_see_one_instant : ReadersSeeOneInstant quietRun := by
  apply readers_see_one_instant quietRun
  intro index event occurs
  obtain ⟨bounded, _⟩ := List.getElem?_eq_some_iff.mp occurs
  change index < 6 at bounded
  by_cases lists : index = 3
  · subst lists
    cases occurs
    exact quiet_listing_calm
  by_cases inserts : index = 4
  · subst inserts
    cases occurs
    exact quiet_insert_calm
  apply CalmStep.of_not_hidden
  apply not_hidden_of_check quietRun index (Nat.le_of_lt bounded)
  interval_cases index
  case «3» => exact absurd rfl lists
  case «4» => exact absurd rfl inserts
  all_goals decide +kernel

end FederatedCatalog.Store
