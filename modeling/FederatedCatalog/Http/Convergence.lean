import FederatedCatalog.Foundation.Settling
import FederatedCatalog.Http.Federation
import Mathlib.Data.Multiset.Bind

/-!
# Federations settle

Answers may be late, lost or refused, and brokers visit in any order.  If every
party that can answer is reached again and again, the entries of a broker that
leads to no cycle of crawls settle: they hold the datasets of the leaves below.
-/

namespace FederatedCatalog.Http

open Foundation Json FederatedCatalog.Core Dcp Store Crawler Filter

variable {Broker : Type} {platform : Platform} {topology : Topology Broker}

def leafDatasets (platform : Platform) : Except String HttpResponse → Option (Multiset Dataset)
  | .error _ => none
  | .ok response =>
      if response.isSuccess then
        match response.value platform with
        | .error _ => none
        | .ok body => some (parseCatalogResponse body ⟨"", "", "", false, none⟩ "").datasets
      else none

/-- A leaf offers its response, and a broker what its participants offer. -/
inductive Offers (platform : Platform) (topology : Topology Broker) :
    Party Broker → Option (Multiset Dataset) → Prop where
  | leaf (answer : Except String HttpResponse) :
      Offers platform topology (.leaf answer) (leafDatasets platform answer)
  | broker (broker : Broker) (offered : ParticipantEntry → Option (Multiset Dataset))
      (each : ∀ participant ∈ topology.participants broker,
        Offers platform topology (topology.party participant.catalogRequestUrl)
          (offered participant)) :
      Offers platform topology (.broker broker)
        (some (((topology.participants broker : Multiset ParticipantEntry).bind
          fun participant => (offered participant).getD 0).map bare))

theorem Offers.unique {party : Party Broker} {offered other : Option (Multiset Dataset)}
    (offers : Offers platform topology party offered)
    (again : Offers platform topology party other) : offered = other := by
  induction offers generalizing other with
  | leaf answer =>
      cases again
      rfl
  | broker broker offered _ inductionHypothesis =>
      cases again with
      | broker _ others each =>
          congr 2
          apply Multiset.bind_congr
          intro participant configured
          rw [inductionHypothesis participant configured (each participant configured)]

def Feeds (topology : Topology Broker) (broker next : Broker) : Prop :=
  ∃ participant ∈ topology.participants broker,
    topology.party participant.catalogRequestUrl = .broker next

theorem offers_of_acc {broker : Broker}
    (ends : Acc (fun next broker => Feeds topology broker next) broker) :
    ∃ offered, Offers platform topology (.broker broker) offered := by
  induction ends with
  | intro broker _ inductionHypothesis =>
      have each : ∀ participant, participant ∈ topology.participants broker → ∃ offered,
          Offers platform topology (topology.party participant.catalogRequestUrl) offered := by
        intro participant configured
        cases found : topology.party participant.catalogRequestUrl with
        | leaf answer => exact ⟨_, .leaf answer⟩
        | broker next => exact inductionHypothesis next ⟨participant, configured, found⟩
      have chosen : ∀ participant, ∃ offered, participant ∈ topology.participants broker →
          Offers platform topology (topology.party participant.catalogRequestUrl) offered := by
        intro participant
        by_cases configured : participant ∈ topology.participants broker
        · obtain ⟨offered, offers⟩ := each participant configured
          exact ⟨offered, fun _ => offers⟩
        · exact ⟨none, fun does => absurd does configured⟩
      choose offered offers using chosen
      exact ⟨_, .broker broker offered offers⟩

/-! ## The entries of a run -/

def entryDatasets (entry : Option Catalog) : Option (Multiset Dataset) :=
  entry.map fun catalog => catalog.datasets

/-- No broker has two participants of one name. -/
def Topology.DistinctNames (topology : Topology Broker) : Prop :=
  ∀ broker, ((topology.participants broker).map ParticipantEntry.id).Nodup

def CanAnswer (platform : Platform) : Party Broker → Prop
  | .broker _ => True
  | .leaf answer => (leafDatasets platform answer).isSome

namespace FederationRun

variable [DecidableEq Broker] {run : FederationRun platform Broker}

/-- The visit of this turn goes to the participant, and its catalog is cached. -/
def Reaches (run : FederationRun platform Broker) (turn : Nat) (broker : Broker)
    (participant : ParticipantEntry) : Prop :=
  ∃ visit, run.turns turn = some visit ∧ visit.broker = broker ∧
    visit.participant = participant ∧ (Visit.make (run.holder visit.broker) visit.participant
      visit.encounter (run.state turn visit.broker)).1.succeeded = true

/-- Answers get through again and again, and old ones stop arriving. -/
structure Fair (run : FederationRun platform Broker) (topology : Topology Broker) : Prop where
  reached : ∀ broker, ∀ participant ∈ topology.participants broker,
    CanAnswer platform (topology.party participant.catalogRequestUrl) →
      ∃ᶠ turn in atTop, run.Reaches turn broker participant
  recent : ∀ start, ∀ᶠ turn in atTop, ∀ visit, run.turns turn = some visit →
    start ≤ visit.answeredAt

theorem entry_step (run : FederationRun platform Broker) (turn : Nat) (broker : Broker)
    (node : NodeId) :
    run.content (turn + 1) broker node = run.content turn broker node ∨
      ∃ visit catalog, run.Fetches turn visit catalog ∧ visit.broker = broker ∧
        visit.participant.id = node.value ∧ run.content (turn + 1) broker node = some catalog := by
  cases after : run.content (turn + 1) broker node with
  | none =>
      cases visited : run.turns turn with
      | none =>
          rw [content_idle visited] at after
          exact .inl after.symm
      | some visit =>
          by_cases own : broker = visit.broker
          · subst own
            rw [content_visited visited] at after
            rcases Visit.make_spec (run.holder visit.broker) visit.participant visit.encounter
              (run.state turn visit.broker) with ⟨fetched, _, _, same⟩ | ⟨_, _, same⟩
            · rw [same, KeyedMap.store_apply] at after
              split at after
              · cases after
              · exact .inl after.symm
            · rw [same] at after
              exact .inl after.symm
          · rw [content_elsewhere visited own] at after
            exact .inl after.symm
  | some catalog =>
      rcases kept_or_fetched after with before | ⟨visit, fetches, own, named⟩
      · exact .inl before.symm
      · exact .inr ⟨visit, catalog, fetches, own, named, rfl⟩

theorem Reaches.fetched {turn : Nat} {broker : Broker} {participant : ParticipantEntry}
    (reaches : run.Reaches turn broker participant) :
    ∃ visit catalog, run.Fetches turn visit catalog ∧ visit.broker = broker ∧
      visit.participant = participant ∧
      run.content (turn + 1) broker ⟨participant.id⟩ = some catalog := by
  obtain ⟨visit, visited, rfl, rfl, succeeded⟩ := reaches
  rcases Visit.make_spec (run.holder visit.broker) visit.participant visit.encounter
    (run.state turn visit.broker) with ⟨catalog, crawled, _, stored⟩ | ⟨error, failed, _⟩
  · refine ⟨visit, catalog, ⟨visited, crawled⟩, rfl, rfl, ?_⟩
    rw [content_visited visited, stored, ← crawlOne_originNode crawled, KeyedMap.store_same]
  · rw [Visit.succeeded, failed] at succeeded
    cases succeeded

theorem entry_originNode (follows : run.Follows topology) {turn : Nat} {broker : Broker}
    {node : NodeId} {catalog : Catalog} (stored : run.content turn broker node = some catalog) :
    catalog.originNode = node := by
  obtain ⟨_, visit, _, ⟨_, crawled⟩, _, named⟩ := run.entry_fetched follows turn stored
  rw [crawlOne_originNode crawled, named]

def entries (run : FederationRun platform Broker) (topology : Topology Broker) (turn : Nat)
    (broker : Broker) : List Catalog :=
  (topology.participants broker).filterMap fun participant =>
    run.content turn broker ⟨participant.id⟩

theorem entries_enumerate (follows : run.Follows topology) (distinct : topology.DistinctNames)
    (turn : Nat) (broker : Broker) :
    Enumerates Catalog.originNode (run.content turn broker) (run.entries topology turn broker) where
  distinct := by
    apply List.pairwise_map.mpr
    apply List.pairwise_filterMap.mpr
    apply (List.pairwise_map.mp (distinct broker)).imp
    intro first second apart catalog stored other otherStored same
    rw [entry_originNode follows stored, entry_originNode follows otherStored] at same
    exact apart (congrArg NodeId.value same)
  stored := by
    intro catalog listed
    obtain ⟨participant, _, stored⟩ := List.mem_filterMap.mp listed
    rw [entry_originNode follows stored]
    exact stored
  complete := by
    intro node catalog stored
    refine ⟨?_, entry_originNode follows stored⟩
    obtain ⟨earlier, visit, _, fetches, rfl, named⟩ := run.entry_fetched follows turn stored
    have configured := follows.configured earlier visit fetches.1
    refine List.mem_filterMap.mpr ⟨visit.participant, configured, ?_⟩
    rw [named]
    exact stored

omit [DecidableEq Broker] in
theorem coe_flatMap_filterMap (participants : List ParticipantEntry)
    (entry : ParticipantEntry → Option Catalog) :
    ((participants.filterMap entry).flatMap Catalog.datasets : Multiset Dataset) =
      (participants : Multiset ParticipantEntry).bind fun participant =>
        (entryDatasets (entry participant)).getD 0 := by
  induction participants with
  | nil => rfl
  | cons participant rest inductionHypothesis =>
      rw [← Multiset.cons_coe, Multiset.cons_bind, ← inductionHypothesis]
      cases found : entry participant with
      | none => simp [found, entryDatasets]
      | some catalog => simp [found, entryDatasets]

theorem datasets_of_entries (follows : run.Follows topology) (distinct : topology.DistinctNames)
    {turn : Nat} {broker : Broker} {catalogs : List Catalog}
    (enumerates : Enumerates Catalog.originNode (run.content turn broker) catalogs) :
    (catalogs.flatMap Catalog.datasets : Multiset Dataset) =
      (topology.participants broker : Multiset ParticipantEntry).bind fun participant =>
        (entryDatasets (run.content turn broker ⟨participant.id⟩)).getD 0 := by
  have reordered := enumerates.perm (entries_enumerate follows distinct turn broker)
  rw [Multiset.coe_eq_coe.mpr (reordered.flatMap_right Catalog.datasets)]
  exact coe_flatMap_filterMap _ _

end FederationRun

theorem leaf_datasets_fetched {world : CrawlWorld} {participant : ParticipantEntry}
    {holder : Option (HolderIdentity platform)} {catalog : Catalog}
    (fetched : crawlOne world participant holder = .ok catalog)
    {answer : Except String HttpResponse}
    (answers : ∀ authorization body,
      world.http.post participant.catalogRequestUrl authorization body = answer) :
    entryDatasets (some catalog) = leafDatasets platform answer := by
  obtain ⟨header, response, body, _, answered, success, parsed, rfl⟩ := crawlOne_from fetched
  rw [← answers header requestBody, answered]
  simp only [leafDatasets, success, parsed, if_true]
  rw [← (parseCatalogResponse_congr body participant ⟨"", "", "", false, none⟩ world.freshId "").1]
  rfl

/-! ## Settling -/

abbrev Topology.Cell (topology : Topology Broker) : Type :=
  { cell : Broker × ParticipantEntry // cell.2 ∈ topology.participants cell.1 }

/-- The party behind a cell, as far as it is a broker, reads all of its own cells. -/
def Topology.Reads (topology : Topology Broker) (cell other : topology.Cell) : Prop :=
  topology.party cell.1.2.catalogRequestUrl = .broker other.1.1

theorem finite_reads (cell : topology.Cell) : {other | topology.Reads cell other}.Finite := by
  cases found : topology.party cell.1.2.catalogRequestUrl with
  | leaf answer =>
      have none : {other | topology.Reads cell other} = ∅ := by
        apply Set.eq_empty_of_forall_notMem
        intro other reads
        cases found.symm.trans reads
      rw [none]
      exact Set.finite_empty
  | broker next =>
      have few := (topology.participants next).finite_toSet.image
        fun participant => (next, participant)
      apply Set.Finite.of_finite_image (few.subset ?_) Subtype.val_injective.injOn
      rintro _ ⟨⟨⟨broker, participant⟩, configured⟩, reads, rfl⟩
      cases found.symm.trans reads
      exact ⟨participant, configured, rfl⟩

theorem reads_acc {broker : Broker}
    (ends : Acc (fun next broker => Feeds topology broker next) broker) :
    ∀ participant (configured : participant ∈ topology.participants broker),
      Acc (fun other cell => topology.Reads cell other) ⟨(broker, participant), configured⟩ := by
  induction ends with
  | intro broker _ inductionHypothesis =>
      intro participant configured
      constructor
      rintro ⟨⟨next, other⟩, otherConfigured⟩ reads
      exact inductionHypothesis next ⟨participant, configured, reads⟩ other otherConfigured

namespace FederationRun

variable [DecidableEq Broker] {run : FederationRun platform Broker}

def Renews (run : FederationRun platform Broker) (turn : Nat) (cell : topology.Cell)
    (answeredAt : Nat) : Prop :=
  ∃ visit catalog, run.Fetches turn visit catalog ∧ visit.broker = cell.1.1 ∧
    visit.participant = cell.1.2 ∧ visit.answeredAt = answeredAt ∧
    run.content (turn + 1) cell.1.1 ⟨cell.1.2.id⟩ = some catalog

/-- What is fetched from a settled party is what the party offers. -/
theorem Renews.settled (follows : run.Follows topology) (distinct : topology.DistinctNames)
    {turn : Nat} {cell : topology.Cell} {answeredAt : Nat} (renews : run.Renews turn cell answeredAt)
    (settled : ∀ other, topology.Reads cell other →
      Offers platform topology (topology.party other.1.2.catalogRequestUrl)
        (entryDatasets (run.content answeredAt other.1.1 ⟨other.1.2.id⟩))) :
    Offers platform topology (topology.party cell.1.2.catalogRequestUrl)
      (entryDatasets (run.content (turn + 1) cell.1.1 ⟨cell.1.2.id⟩)) := by
  obtain ⟨⟨broker, participant⟩, configured⟩ := cell
  obtain ⟨visit, catalog, fetches, rfl, rfl, rfl, stored⟩ := renews
  rw [stored]
  rcases follows.answered turn visit fetches.1 with ⟨error, unreachable⟩ | answered
  · obtain ⟨header, response, body, _, posted, _⟩ := crawlOne_from fetches.2
    rw [unreachable] at posted
    cases posted
  · dsimp only at settled ⊢
    cases found : topology.party visit.participant.catalogRequestUrl with
    | leaf answer =>
        rw [found] at answered
        rw [leaf_datasets_fetched fetches.2 answered]
        exact .leaf answer
    | broker next =>
        rw [found] at answered
        obtain ⟨catalogs, enumerates, datasets⟩ := broker_fetched fetches.2 answered
        have all := datasets_of_entries follows distinct enumerates
        have offers := Offers.broker next
          (fun participant => entryDatasets (run.content visit.answeredAt next ⟨participant.id⟩))
          (fun participant listed => settled ⟨(next, participant), listed⟩ found)
        rw [← all, Multiset.map_coe, ← datasets] at offers
        exact offers

theorem renewed_or_kept (follows : run.Follows topology) (distinct : topology.DistinctNames)
    (turn : Nat) (cell : topology.Cell) :
    run.content (turn + 1) cell.1.1 ⟨cell.1.2.id⟩ = run.content turn cell.1.1 ⟨cell.1.2.id⟩ ∨
      ∃ answeredAt, run.Renews turn cell answeredAt := by
  obtain ⟨⟨broker, participant⟩, configured⟩ := cell
  rcases run.entry_step turn broker ⟨participant.id⟩ with
    same | ⟨visit, catalog, fetches, rfl, named, stored⟩
  · exact .inl same
  · right
    have visited := follows.configured turn visit fetches.1
    have own : visit.participant = participant :=
      List.inj_on_of_nodup_map (distinct visit.broker) visited configured named
    exact ⟨visit.answeredAt, visit, catalog, fetches, rfl, own, rfl, stored⟩

theorem unanswered_empty (follows : run.Follows topology) (distinct : topology.DistinctNames)
    (cell : topology.Cell) {answer : Except String HttpResponse}
    (found : topology.party cell.1.2.catalogRequestUrl = .leaf answer)
    (unreadable : leafDatasets platform answer = none) (turn : Nat) :
    run.content turn cell.1.1 ⟨cell.1.2.id⟩ = none := by
  induction turn with
  | zero => rw [follows.empty]
  | succ turn inductionHypothesis =>
      rcases renewed_or_kept follows distinct turn cell with same | ⟨answeredAt, renews⟩
      · rw [same]
        exact inductionHypothesis
      · have offers := renews.settled follows distinct (by
          intro other reads
          cases found.symm.trans reads)
        rw [found] at offers
        have nothing := offers.unique (.leaf answer)
        rw [unreadable] at nothing
        exact Option.map_eq_none_iff.mp nothing

theorem Fair.recomputing (follows : run.Follows topology) (distinct : topology.DistinctNames)
    (fair : run.Fair topology) :
    Recomputing topology.Reads
      (fun cell entry => Offers platform topology (topology.party cell.1.2.catalogRequestUrl)
        (entryDatasets entry))
      (fun turn cell => run.content turn cell.1.1 ⟨cell.1.2.id⟩) run.Renews where
  step := renewed_or_kept follows distinct
  correct := by
    intro turn cell answeredAt renews settled
    exact renews.settled follows distinct settled
  recent := by
    intro start
    apply (fair.recent start).mono
    rintro turn late cell _ ⟨visit, catalog, fetches, _, _, rfl, _⟩
    exact late visit fetches.1
  progress := by
    intro cell
    by_cases answers : CanAnswer platform (topology.party cell.1.2.catalogRequestUrl)
    · left
      apply (fair.reached cell.1.1 cell.1.2 cell.2 answers).mono
      intro turn reaches
      obtain ⟨visit, catalog, fetches, own, same, stored⟩ := reaches.fetched
      exact ⟨visit.answeredAt, visit, catalog, fetches, own, same, rfl, stored⟩
    · right
      intro turn
      cases found : topology.party cell.1.2.catalogRequestUrl with
      | broker next =>
          rw [found] at answers
          exact absurd trivial answers
      | leaf answer =>
          rw [found] at answers
          have unreadable : leafDatasets platform answer = none :=
            Option.not_isSome_iff_eq_none.mp answers
          have offers : Offers platform topology (.leaf answer) (leafDatasets platform answer) :=
            .leaf answer
          rw [unreadable] at offers
          rw [unanswered_empty follows distinct cell found unreadable]
          exact offers

end FederationRun

/-- The broker's entries have the datasets that its participants offer, and no others. -/
structure SettledAt (run : FederationRun platform Broker) [DecidableEq Broker]
    (topology : Topology Broker) (broker : Broker)
    (offered : ParticipantEntry → Option (Multiset Dataset)) (turn : Nat) : Prop where
  entry : ∀ participant ∈ topology.participants broker,
    entryDatasets (run.content turn broker ⟨participant.id⟩) = offered participant
  others : ∀ node : NodeId, (∀ participant ∈ topology.participants broker,
    participant.id ≠ node.value) → run.content turn broker node = none

/-- Without cycles, every fair run settles, and all of them in the same way. -/
theorem federation_settles [DecidableEq Broker] [Finite Broker]
    (distinct : topology.DistinctNames) {broker : Broker}
    (straight : ¬LeadsToCycle (Feeds topology) broker) :
    ∃ offered : ParticipantEntry → Option (Multiset Dataset),
      (∀ participant ∈ topology.participants broker, Offers platform topology
        (topology.party participant.catalogRequestUrl) (offered participant)) ∧
      ∀ run : FederationRun platform Broker, run.Follows topology → run.Fair topology →
        ∀ᶠ turn in atTop, SettledAt run topology broker offered turn := by
  have ends := acc_of_no_cycle straight
  obtain ⟨total, offers⟩ : ∃ total, Offers platform topology (.broker broker) total :=
    offers_of_acc ends
  cases offers with
  | broker _ offered each =>
      refine ⟨offered, each, ?_⟩
      intro run follows fair
      have entries : ∀ᶠ turn in atTop,
          ∀ participant ∈ {listed | listed ∈ topology.participants broker},
            entryDatasets (run.content turn broker ⟨participant.id⟩) = offered participant := by
        apply (eventually_all_finite (topology.participants broker).finite_toSet).mpr
        intro participant configured
        have settles := (fair.recomputing follows distinct).settles finite_reads
          (reads_acc ends participant configured)
        apply settles.mono
        intro turn settled
        exact settled.unique (each participant configured)
      apply entries.mono
      intro turn settled
      refine ⟨settled, ?_⟩
      intro node unknown
      cases stored : run.content turn broker node with
      | none => rfl
      | some catalog =>
          obtain ⟨earlier, visit, _, fetches, rfl, named⟩ := run.entry_fetched follows turn stored
          have configured := follows.configured earlier visit fetches.1
          exact absurd named (unknown visit.participant configured)

/-! ## A reader, a relay and a leaf -/

/-- What the relay has cached after a number of turns, with what it replaced. -/
def relayHeld : Nat → List Catalog
  | 0 => []
  | turn + 1 => if turn % 2 = 0 then relayHeld turn ++ [northEntry] else relayHeld turn

/-- In turn the relay visits the leaf, and the reader visits the relay. -/
def relayVisit (turn : Nat) : FederationTurn fun _ : Bool => AtomicCache.memory :=
  if turn % 2 = 0 then ⟨false, participantAt "north", (postsAnswered iceAnswer).inMemory, turn⟩
  else ⟨true, participantAt "relay", (postsAnswered (.ok (Response.encode .reference
    (mirrorResponse (relayHeld turn))))).inMemory, turn⟩

def relayRun : FederationRun .reference Bool where
  holder _ := none
  cache _ := .memory
  initial _ := AtomicCache.memory.holding []
  turns turn := some (relayVisit turn)

theorem relayRun_even {turn : Nat} (even : turn % 2 = 0) : relayRun.turns turn =
    some ⟨false, participantAt "north", (postsAnswered iceAnswer).inMemory, turn⟩ :=
  congrArg some (if_pos even)

theorem relayRun_odd {turn : Nat} (odd : turn % 2 ≠ 0) : relayRun.turns turn =
    some ⟨true, participantAt "relay", (postsAnswered (.ok (Response.encode .reference
      (mirrorResponse (relayHeld turn))))).inMemory, turn⟩ :=
  congrArg some (if_neg odd)

theorem relayRun_state (turn : Nat) :
    relayRun.state turn false = AtomicCache.memory.holding (relayHeld turn) := by
  induction turn with
  | zero => rfl
  | succ turn inductionHypothesis =>
      by_cases even : turn % 2 = 0
      · have after := FederationRun.state_visited (relayRun_even even)
        dsimp only at after
        rw [inductionHypothesis] at after
        have made := Visit.make_inMemory (none : Option (HolderIdentity .reference))
          (participantAt "north") north_fetched (relayHeld turn)
        rw [relayHeld, if_pos even]
        exact after.trans (congrArg Prod.snd made)
      · have after := FederationRun.state_elsewhere (relayRun_odd even) Bool.false_ne_true
        rw [relayHeld, if_neg even, after]
        exact inductionHypothesis

theorem relayRun_answered (turn : Nat) :
    PartyAnswers .reference relayTopology (relayRun.content turn)
      (relayVisit turn).participant.catalogRequestUrl (relayVisit turn).encounter.world.http := by
  right
  rw [relayVisit]
  by_cases even : turn % 2 = 0
  · rw [if_pos even]
    have found : relayTopology.party (participantAt "north").catalogRequestUrl =
        .leaf iceAnswer := iceLeaf_north false
    dsimp only
    rw [found]
    exact fun _ _ => rfl
  · rw [if_neg even]
    dsimp only
    rw [relay_found]
    have content := congrArg InMemoryCatalogCache.content (relayRun_state turn)
    exact ⟨.holding (relayHeld turn), ⟨none⟩, .offline, 0, "t3", anyUuids, content.symm,
      fun _ _ => rfl⟩

theorem relayRun_follows : relayRun.Follows relayTopology where
  empty _ := rfl
  configured := by
    intro turn visit visited
    cases visited
    rw [relayVisit]
    split
    · exact List.mem_singleton.mpr rfl
    · exact List.mem_singleton.mpr rfl
  earlier := by
    intro turn visit visited
    cases visited
    rw [relayVisit]
    split
    · exact le_rfl
    · exact le_rfl
  answered := by
    intro turn visit visited
    cases visited
    have now : (relayVisit turn).answeredAt = turn := by
      rw [relayVisit]
      split
      · rfl
      · rfl
    rw [now]
    exact relayRun_answered turn

theorem relay_reaches_leaf {turn : Nat} (even : turn % 2 = 0) :
    relayRun.Reaches turn false (participantAt "north") := by
  have made := Visit.make_cached (none : Option (HolderIdentity .reference))
    (participantAt "north") (postsAnswered iceAnswer).inMemory (relayRun.state turn false)
    north_fetched rfl
  refine ⟨_, relayRun_even even, rfl, rfl, ?_⟩
  exact (congrArg (fun visited => visited.1.succeeded) made).trans rfl

theorem reader_reaches_relay {turn : Nat} (odd : turn % 2 ≠ 0) :
    relayRun.Reaches turn true (participantAt "relay") := by
  have made := Visit.make_cached (none : Option (HolderIdentity .reference))
    (participantAt "relay") (postsAnswered (.ok (Response.encode .reference
      (mirrorResponse (relayHeld turn))))).inMemory (relayRun.state turn true)
    (broker_answer_fetched rfl (relayHeld turn)) rfl
  refine ⟨_, relayRun_odd odd, rfl, rfl, ?_⟩
  exact (congrArg (fun visited => visited.1.succeeded) made).trans rfl

theorem relayRun_fair : relayRun.Fair relayTopology where
  reached := by
    intro broker participant configured _
    apply frequently_atTop.mpr
    intro start
    cases broker with
    | false =>
        cases List.mem_singleton.mp configured
        exact ⟨2 * start, by omega, relay_reaches_leaf (by omega)⟩
    | true =>
        cases List.mem_singleton.mp configured
        exact ⟨2 * start + 1, by omega, reader_reaches_relay (by omega)⟩
  recent := by
    intro start
    apply (eventually_ge_atTop start).mono
    intro turn late visit visited
    cases visited
    rw [relayVisit]
    split
    · exact late
    · exact late

/-- Only the reader crawls a broker, and nobody crawls the reader. -/
theorem relay_feeds {broker next : Bool} (feeds : Feeds relayTopology broker next) :
    broker = true ∧ next = false := by
  obtain ⟨participant, configured, found⟩ := feeds
  cases broker with
  | false =>
      cases List.mem_singleton.mp configured
      cases (iceLeaf_north false).symm.trans found
  | true =>
      cases List.mem_singleton.mp configured
      cases relay_found.symm.trans found
      exact ⟨rfl, rfl⟩

theorem relay_straight : ¬LeadsToCycle (Feeds relayTopology) true := by
  rintro ⟨node, _, cycle⟩
  obtain ⟨_, first, _⟩ := Relation.TransGen.head'_iff.mp cycle
  obtain ⟨_, _, last⟩ := Relation.TransGen.tail'_iff.mp cycle
  cases (relay_feeds first).1.symm.trans (relay_feeds last).2

theorem reader_settles :
    ∃ offered : ParticipantEntry → Option (Multiset Dataset),
      (∀ participant ∈ relayTopology.participants true, Offers .reference relayTopology
        (relayTopology.party participant.catalogRequestUrl) (offered participant)) ∧
      ∀ᶠ turn in atTop, SettledAt relayRun relayTopology true offered turn := by
  have distinct : relayTopology.DistinctNames := by
    intro broker
    cases broker with
    | false => exact List.nodup_singleton _
    | true => exact List.nodup_singleton _
  obtain ⟨offered, offers, settles⟩ := federation_settles distinct relay_straight
  exact ⟨offered, offers, settles relayRun relayRun_follows relayRun_fair⟩

end FederatedCatalog.Http
