import FederatedCatalog.Crawler.LastKnownGood
import FederatedCatalog.Foundation.Acyclic
import FederatedCatalog.Http.RoundTrip
import Mathlib.Algebra.Order.BigOperators.Group.List

/-!
# Brokers that crawl brokers

Brokers that serve everything they have cached, and visit each other and leaf
participants with fixed responses, in any order.  A visit finds what its
participant served at some earlier time.  The entries of a broker that leads
to no cycle of crawls are bounded once and for all.
-/

namespace FederatedCatalog.Http

open Foundation Json FederatedCatalog.Core Dcp Store Crawler

inductive Party (Broker : Type) where
  | broker (broker : Broker)
  | leaf (answer : Except String HttpResponse)

/-- Whom every broker crawls, and who is found where. -/
structure Topology (Broker : Type) where
  participants : Broker → List ParticipantEntry
  party : String → Party Broker

variable {Broker : Type} {platform : Platform}

def Response.encode (platform : Platform) (response : Response) : HttpResponse :=
  ⟨response.status, utf8 (platform.json.print response.body.toValue)⟩

/-- Posts to `url` are answered by a broker that serves `content` to everybody. -/
def BrokerAnswers (platform : Platform) (content : CatalogMap) (url : String) (http : Dcp.Http) :
    Prop :=
  ∃ (view : CacheView) (headers : Headers) (client : Dcp.Http) (now : Seconds) (jti : String)
    (uuids : Nat → String), view.content = content ∧
    ∀ authorization body, http.post url authorization body =
      .ok (Response.encode platform ((catalogRequest (AppState.withoutAuth platform view) headers
        client now jti).value uuids))

/-- Posts to `url` fail, or are answered by the party there. -/
def PartyAnswers (platform : Platform) (topology : Topology Broker)
    (contents : Broker → CatalogMap) (url : String) (http : Dcp.Http) : Prop :=
  (∃ error, ∀ authorization body, http.post url authorization body = .error error) ∨
    match topology.party url with
    | .broker broker => BrokerAnswers platform (contents broker) url http
    | .leaf answer => ∀ authorization body, http.post url authorization body = answer

structure FederationTurn (cache : Broker → AtomicCache) where
  broker : Broker
  participant : ParticipantEntry
  encounter : Encounter (cache broker)
  /-- When the participant answered. -/
  answeredAt : Nat

/-- The brokers' visits, one after the other; between them nothing may happen for a while. -/
structure FederationRun (platform : Platform) (Broker : Type) where
  holder : Broker → Option (HolderIdentity platform)
  cache : Broker → AtomicCache
  initial : ∀ broker, (cache broker).State
  turns : Nat → Option (FederationTurn cache)

namespace FederationRun

variable [DecidableEq Broker] (run : FederationRun platform Broker)

def state : Nat → ∀ broker, (run.cache broker).State
  | 0 => run.initial
  | turn + 1 =>
      match run.turns turn with
      | none => state turn
      | some visit => Function.update (state turn) visit.broker
          (Visit.make (run.holder visit.broker) visit.participant visit.encounter
            (state turn visit.broker)).2

def content (turn : Nat) (broker : Broker) : CatalogMap :=
  (run.cache broker).content (run.state turn broker)

/-- The caches start empty, and every visit is to a configured participant, which answers from
what it has at that time or had before. -/
structure Follows (topology : Topology Broker) : Prop where
  empty : ∀ broker, run.content 0 broker = fun _ => none
  configured : ∀ turn visit, run.turns turn = some visit →
    visit.participant ∈ topology.participants visit.broker
  earlier : ∀ turn visit, run.turns turn = some visit → visit.answeredAt ≤ turn
  answered : ∀ turn visit, run.turns turn = some visit →
    PartyAnswers platform topology (run.content visit.answeredAt)
      visit.participant.catalogRequestUrl visit.encounter.world.http

def Fetches (turn : Nat) (visit : FederationTurn run.cache) (catalog : Catalog) : Prop :=
  run.turns turn = some visit ∧
    crawlOne visit.encounter.world visit.participant (run.holder visit.broker) = .ok catalog

end FederationRun

def leafSize (platform : Platform) : Except String HttpResponse → Nat
  | .error _ => 0
  | .ok response =>
      if response.isSuccess then
        match response.value platform with
        | .error _ => 0
        | .ok body => (parseCatalogResponse body ⟨"", "", "", false, none⟩ "").datasets.length
      else 0

theorem leaf_fetched {world : CrawlWorld} {participant : ParticipantEntry}
    {holder : Option (HolderIdentity platform)} {catalog : Catalog}
    (fetched : crawlOne world participant holder = .ok catalog)
    {answer : Except String HttpResponse}
    (answers : ∀ authorization body,
      world.http.post participant.catalogRequestUrl authorization body = answer) :
    catalog.datasets.length = leafSize platform answer := by
  obtain ⟨header, response, body, _, answered, success, parsed, rfl⟩ := crawlOne_from fetched
  rw [← answers header requestBody, answered]
  simp only [leafSize, success, parsed, if_true]
  rw [(parseCatalogResponse_congr body participant ⟨"", "", "", false, none⟩ world.freshId "").1]

theorem broker_fetched {world : CrawlWorld} {participant : ParticipantEntry}
    {holder : Option (HolderIdentity platform)} {catalog : Catalog}
    (fetched : crawlOne world participant holder = .ok catalog) {content : CatalogMap}
    (answers : BrokerAnswers platform content participant.catalogRequestUrl world.http) :
    ∃ catalogs, Enumerates Catalog.originNode content catalogs ∧
      catalog.datasets = (catalogs.flatMap Catalog.datasets).map bare := by
  obtain ⟨view, headers, client, now, jti, uuids, rfl, answered⟩ := answers
  obtain ⟨header, response, body, _, posted, success, parsed, rfl⟩ := crawlOne_from fetched
  rw [answered] at posted
  cases posted
  cases found : view.query .all with
  | error error =>
      rw [catalogRequest_unavailable (AppState.withoutAuth platform view) headers client now jti
        (.disabled rfl) found] at success
      cases success
  | ok catalogs =>
      have served := catalogRequest_served (AppState.withoutAuth platform view) headers client now
        jti (.disabled rfl) found uuids
      obtain ⟨document, same, serves⟩ := served
      rw [same] at parsed
      have read : body = document.toValue := by
        simp only [Response.encode, Body.toValue, HttpResponse.value,
          serves.fromSlice, mapErr_eq_ok] at parsed
        exact (Except.ok.inj parsed).symm
      refine ⟨catalogs, (view.listing found).1, ?_⟩
      rw [read, serves.read]
      rfl

/-! ## Where the entries come from -/

namespace FederationRun

variable [DecidableEq Broker] {run : FederationRun platform Broker} {topology : Topology Broker}

theorem content_idle {turn : Nat} (idle : run.turns turn = none) :
    run.content (turn + 1) = run.content turn := by
  funext broker
  rw [content, state, idle]
  rfl

theorem state_visited {turn : Nat} {visit : FederationTurn run.cache}
    (visited : run.turns turn = some visit) :
    run.state (turn + 1) visit.broker = (Visit.make (run.holder visit.broker) visit.participant
      visit.encounter (run.state turn visit.broker)).2 := by
  rw [state, visited]
  dsimp only
  rw [Function.update_self]

theorem content_visited {turn : Nat} {visit : FederationTurn run.cache}
    (visited : run.turns turn = some visit) :
    run.content (turn + 1) visit.broker = (run.cache visit.broker).content
      (Visit.make (run.holder visit.broker) visit.participant visit.encounter
        (run.state turn visit.broker)).2 :=
  congrArg (run.cache visit.broker).content (state_visited visited)

theorem state_elsewhere {turn : Nat} {visit : FederationTurn run.cache}
    (visited : run.turns turn = some visit) {broker : Broker} (other : broker ≠ visit.broker) :
    run.state (turn + 1) broker = run.state turn broker := by
  rw [state, visited]
  dsimp only
  rw [Function.update_of_ne other]

theorem content_elsewhere {turn : Nat} {visit : FederationTurn run.cache}
    (visited : run.turns turn = some visit) {broker : Broker} (other : broker ≠ visit.broker) :
    run.content (turn + 1) broker = run.content turn broker :=
  congrArg (run.cache broker).content (state_elsewhere visited other)

/-- A broker's crawl cycle is a stretch of turns. -/
theorem crawlFrom_is_turns {broker : Broker} (participants : List ParticipantEntry)
    (encounters : Nat → Encounter (run.cache broker)) (answeredAt : Nat → Nat)
    (summary : CrawlSummary) (start : Nat)
    (visited : ∀ index (inside : index < participants.length), run.turns (start + index) =
      some ⟨broker, participants[index], encounters index, answeredAt index⟩) :
    run.state (start + participants.length) broker = (crawlFrom (run.holder broker) participants
      encounters summary (run.state start broker)).2 := by
  induction participants generalizing encounters answeredAt summary start with
  | nil => rfl
  | cons participant rest inductionHypothesis =>
      have first := state_visited (visited 0 (Nat.succ_pos _))
      have later := inductionHypothesis (fun index => encounters (index + 1))
        (fun index => answeredAt (index + 1))
        (summary.note (Visit.make (run.holder broker) participant (encounters 0)
          (run.state start broker)).1) (start + 1) (by
            intro index inside
            rw [Nat.add_right_comm]
            exact visited (index + 1) (Nat.succ_lt_succ inside))
      rw [crawlFrom_cons, List.length_cons, Nat.add_comm rest.length, ← Nat.add_assoc, later]
      exact congrArg (fun state => (crawlFrom (run.holder broker) rest
        (fun index => encounters (index + 1)) _ state).2) first

theorem crawlOnce_is_turns {broker : Broker} (participants : List ParticipantEntry)
    (encounters : Nat → Encounter (run.cache broker)) (answeredAt : Nat → Nat) (start : Nat)
    (visited : ∀ index (inside : index < participants.length), run.turns (start + index) =
      some ⟨broker, participants[index], encounters index, answeredAt index⟩) :
    run.state (start + participants.length) broker = (crawlOnce (run.holder broker) participants
      encounters (run.state start broker)).2 :=
  crawlFrom_is_turns participants encounters answeredAt .default start visited

theorem kept_or_fetched {turn : Nat} {broker : Broker} {node : NodeId} {catalog : Catalog}
    (stored : run.content (turn + 1) broker node = some catalog) :
    run.content turn broker node = some catalog ∨
      ∃ visit, run.Fetches turn visit catalog ∧ visit.broker = broker ∧
        visit.participant.id = node.value := by
  cases visited : run.turns turn with
  | none =>
      rw [content_idle visited] at stored
      exact .inl stored
  | some visit =>
      by_cases own : broker = visit.broker
      · subst own
        rw [content_visited visited] at stored
        rcases Visit.make_spec (run.holder visit.broker) visit.participant visit.encounter
          (run.state turn visit.broker) with ⟨fetched, crawled, _, same⟩ | ⟨_, _, same⟩
        · rw [same, KeyedMap.store_apply] at stored
          split at stored
          · next named =>
            cases stored
            refine .inr ⟨visit, ⟨visited, crawled⟩, rfl, ?_⟩
            rw [named, crawlOne_originNode crawled]
          · exact .inl stored
        · rw [same] at stored
          exact .inl stored
      · rw [content_elsewhere visited own] at stored
        exact .inl stored

theorem entry_fetched (follows : run.Follows topology) (turn : Nat) {broker : Broker}
    {node : NodeId} {catalog : Catalog} (stored : run.content turn broker node = some catalog) :
    ∃ earlier visit, earlier < turn ∧ run.Fetches earlier visit catalog ∧
      visit.broker = broker ∧ visit.participant.id = node.value := by
  induction turn with
  | zero =>
      rw [follows.empty] at stored
      cases stored
  | succ turn inductionHypothesis =>
      rcases kept_or_fetched stored with before | ⟨visit, fetches, own, named⟩
      · obtain ⟨earlier, visit, past, rest⟩ := inductionHypothesis before
        exact ⟨earlier, visit, by omega, rest⟩
      · exact ⟨turn, visit, by omega, fetches, own, named⟩

/-- What is fetched comes from a leaf, or from the entries that a broker had. -/
theorem fetched_from (follows : run.Follows topology) {turn : Nat}
    {visit : FederationTurn run.cache} {catalog : Catalog}
    (fetches : run.Fetches turn visit catalog) :
    (∃ answer, topology.party visit.participant.catalogRequestUrl = .leaf answer ∧
      catalog.datasets.length = leafSize platform answer) ∨
    ∃ broker catalogs, topology.party visit.participant.catalogRequestUrl = .broker broker ∧
      visit.answeredAt ≤ turn ∧
      Enumerates Catalog.originNode (run.content visit.answeredAt broker) catalogs ∧
      catalog.datasets = (catalogs.flatMap Catalog.datasets).map bare := by
  obtain ⟨visited, crawled⟩ := fetches
  rcases follows.answered turn visit visited with ⟨error, unreachable⟩ | answered
  · obtain ⟨header, response, body, _, posted, _⟩ := crawlOne_from crawled
    rw [unreachable] at posted
    cases posted
  · cases found : topology.party visit.participant.catalogRequestUrl with
    | leaf answer =>
        rw [found] at answered
        exact .inl ⟨answer, rfl, leaf_fetched crawled answered⟩
    | broker broker =>
        rw [found] at answered
        obtain ⟨catalogs, enumerates, datasets⟩ := broker_fetched crawled answered
        exact .inr ⟨broker, catalogs, rfl, follows.earlier turn visit visited, enumerates, datasets⟩

end FederationRun

/-! ## Bounds -/

/-- A leaf with datasets is crawled, directly or through other brokers. -/
inductive Supplied (platform : Platform) (topology : Topology Broker) : Broker → Prop where
  | leaf {broker : Broker} {participant : ParticipantEntry} {answer : Except String HttpResponse}
      (configured : participant ∈ topology.participants broker)
      (found : topology.party participant.catalogRequestUrl = .leaf answer)
      (filled : leafSize platform answer ≠ 0) : Supplied platform topology broker
  | broker {broker next : Broker} {participant : ParticipantEntry}
      (configured : participant ∈ topology.participants broker)
      (found : topology.party participant.catalogRequestUrl = .broker next)
      (supplied : Supplied platform topology next) : Supplied platform topology broker

/-- One broker crawls another one that is supplied. -/
def Crawls (platform : Platform) (topology : Topology Broker) (broker next : Broker) : Prop :=
  Supplied platform topology next ∧ ∃ participant ∈ topology.participants broker,
    topology.party participant.catalogRequestUrl = .broker next

variable [DecidableEq Broker] (platform) (topology : Topology Broker)

def BrokerWithin (broker : Broker) (bound : Nat) : Prop :=
  ∀ run : FederationRun platform Broker, run.Follows topology → ∀ turn catalogs,
    Enumerates Catalog.originNode (run.content turn broker) catalogs →
    (catalogs.flatMap Catalog.datasets).length ≤ bound

def ParticipantWithin (participant : ParticipantEntry) (bound : Nat) : Prop :=
  ∀ run : FederationRun platform Broker, run.Follows topology → ∀ turn visit catalog,
    run.Fetches turn visit catalog → visit.participant = participant →
    catalog.datasets.length ≤ bound

variable {platform topology}

theorem unsupplied_empty {run : FederationRun platform Broker} (follows : run.Follows topology)
    (turn : Nat) {broker : Broker} (unsupplied : ¬Supplied platform topology broker)
    {node : NodeId} {catalog : Catalog} (stored : run.content turn broker node = some catalog) :
    catalog.datasets = [] := by
  induction turn using Nat.strong_induction_on generalizing broker node catalog with
  | h turn inductionHypothesis =>
      obtain ⟨earlier, visit, past, fetches, rfl, _⟩ := run.entry_fetched follows turn stored
      have configured := follows.configured earlier visit fetches.1
      rcases run.fetched_from follows fetches with
        ⟨answer, found, size⟩ | ⟨next, catalogs, found, before, enumerates, datasets⟩
      · by_contra filled
        refine unsupplied (.leaf configured found ?_)
        rw [← size]
        exact fun none => filled (List.length_eq_zero_iff.mp none)
      · have nothing : catalogs.flatMap Catalog.datasets = [] := by
          rw [List.flatMap_eq_nil_iff]
          intro entry listed
          exact inductionHypothesis visit.answeredAt (by omega)
            (fun supplied => unsupplied (.broker configured found supplied))
            (enumerates.stored entry listed)
        rw [datasets, nothing, List.map_nil]

theorem participant_within {participant : ParticipantEntry}
    (behind : ∀ next, topology.party participant.catalogRequestUrl = .broker next →
      ∃ bound, BrokerWithin platform topology next bound) :
    ∃ bound, ParticipantWithin platform topology participant bound := by
  cases party : topology.party participant.catalogRequestUrl with
  | leaf answer =>
      refine ⟨leafSize platform answer, ?_⟩
      rintro run follows turn visit catalog fetches rfl
      rcases run.fetched_from follows fetches with
        ⟨other, found, size⟩ | ⟨next, _, found, _⟩
      · rw [party] at found
        cases found
        exact size.le
      · rw [party] at found
        cases found
  | broker next =>
      obtain ⟨bound, within⟩ := behind next party
      refine ⟨bound, ?_⟩
      rintro run follows turn visit catalog fetches rfl
      rcases run.fetched_from follows fetches with
        ⟨_, found, _⟩ | ⟨other, catalogs, found, _, enumerates, datasets⟩
      · rw [party] at found
        cases found
      · rw [party] at found
        cases found
        rw [datasets, List.length_map]
        exact within run follows visit.answeredAt catalogs enumerates

theorem entry_within {broker : Broker} {node : NodeId} {bound : Nat}
    (participants : ∀ participant ∈ topology.participants broker, participant.id = node.value →
      ParticipantWithin platform topology participant bound)
    {run : FederationRun platform Broker} (follows : run.Follows topology) {turn : Nat}
    {catalog : Catalog} (stored : run.content turn broker node = some catalog) :
    catalog.datasets.length ≤ bound := by
  obtain ⟨earlier, visit, _, fetches, rfl, named⟩ := run.entry_fetched follows turn stored
  have configured := follows.configured earlier visit fetches.1
  exact participants visit.participant configured named run follows earlier visit catalog fetches
    rfl

theorem broker_within {broker : Broker} {bound : Nat}
    (participants : ∀ participant ∈ topology.participants broker,
      ParticipantWithin platform topology participant bound) :
    BrokerWithin platform topology broker ((topology.participants broker).length * bound) := by
  intro run follows turn catalogs enumerates
  have few : catalogs.length ≤ (topology.participants broker).length := by
    have nodes : catalogs.map Catalog.originNode ⊆
        (topology.participants broker).map fun participant => ⟨participant.id⟩ := by
      intro node listed
      obtain ⟨catalog, inCatalogs, rfl⟩ := List.mem_map.mp listed
      obtain ⟨earlier, visit, _, fetches, rfl, named⟩ :=
        run.entry_fetched follows turn (enumerates.stored catalog inCatalogs)
      exact List.mem_map.mpr ⟨visit.participant, follows.configured earlier visit fetches.1,
        congrArg NodeId.mk named⟩
    simpa using (enumerates.distinct.subperm nodes).length_le
  have short : ∀ size ∈ catalogs.map fun catalog => catalog.datasets.length, size ≤ bound := by
    intro size listed
    obtain ⟨catalog, inCatalogs, rfl⟩ := List.mem_map.mp listed
    exact entry_within (fun participant configured _ => participants participant configured)
      follows (enumerates.stored catalog inCatalogs)
  calc (catalogs.flatMap Catalog.datasets).length
      = (catalogs.map fun catalog => catalog.datasets.length).sum := List.length_flatMap
    _ ≤ catalogs.length * bound := by simpa using List.sum_le_card_nsmul _ bound short
    _ ≤ (topology.participants broker).length * bound := Nat.mul_le_mul_right bound few

theorem within_of_acc {broker : Broker}
    (accessible : Acc (fun next broker => Crawls platform topology broker next) broker) :
    ∃ bound, BrokerWithin platform topology broker bound := by
  induction accessible with
  | intro broker _ inductionHypothesis =>
      have each : ∀ participant ∈ topology.participants broker,
          ∃ bound, ParticipantWithin platform topology participant bound := by
        intro participant configured
        apply participant_within
        intro next found
        by_cases supplied : Supplied platform topology next
        · exact inductionHypothesis next ⟨supplied, participant, configured, found⟩
        · refine ⟨0, ?_⟩
          intro run follows turn catalogs enumerates
          rw [Nat.le_zero, List.length_eq_zero_iff, List.flatMap_eq_nil_iff]
          intro catalog listed
          exact unsupplied_empty follows turn supplied (enumerates.stored catalog listed)
      obtain ⟨bound, within⟩ := exists_common_bound
        (fun _ _ _ wider within run follows turn visit catalog fetches same =>
          (within run follows turn visit catalog fetches same).trans wider)
        (topology.participants broker) each
      exact ⟨_, broker_within within⟩

def EntryWithin (platform : Platform) (topology : Topology Broker) (broker : Broker)
    (node : NodeId) (bound : Nat) : Prop :=
  ∀ run : FederationRun platform Broker, run.Follows topology → ∀ turn catalog,
    run.content turn broker node = some catalog → catalog.datasets.length ≤ bound

/-- The broker crawls nobody of that name who leads to a cycle of supplied brokers. -/
def Straight (platform : Platform) (topology : Topology Broker) (broker : Broker)
    (node : NodeId) : Prop :=
  ∀ participant ∈ topology.participants broker, participant.id = node.value →
    ∀ next, topology.party participant.catalogRequestUrl = .broker next →
      ¬LeadsToCycle (Crawls platform topology) next

/-- Entries that no supplied cycle of crawls feeds do not grow without bound. -/
theorem straight_entries_are_bounded [Finite Broker] {broker : Broker} {node : NodeId}
    (straight : Straight platform topology broker node) :
    ∃ bound, EntryWithin platform topology broker node bound := by
  have each : ∀ participant ∈ topology.participants broker, ∃ bound,
      participant.id = node.value → ParticipantWithin platform topology participant bound := by
    intro participant configured
    by_cases named : participant.id = node.value
    · obtain ⟨bound, within⟩ := participant_within fun next found =>
        within_of_acc (acc_of_no_cycle (straight participant configured named next found))
      exact ⟨bound, fun _ => within⟩
    · exact ⟨0, fun same => absurd same named⟩
  obtain ⟨bound, within⟩ := exists_common_bound
    (fun _ _ _ wider within named run follows turn visit catalog fetches same =>
      (within named run follows turn visit catalog fetches same).trans wider)
    (topology.participants broker) each
  refine ⟨bound, ?_⟩
  intro run follows turn catalog stored
  exact entry_within within follows stored

def iceDocument : Value :=
  .object [("@id", .string "north-catalog"), ("dataset", .array [.object [("@id", .string "ice")]])]

def iceAnswer : Except String HttpResponse :=
  .ok ⟨200, utf8 (Platform.reference.json.print iceDocument)⟩

def iceLeaf (elsewhere : Broker) (url : String) : Party Broker :=
  if url = (participantAt "north").catalogRequestUrl then .leaf iceAnswer else .broker elsewhere

omit [DecidableEq Broker] in
theorem iceLeaf_north (elsewhere : Broker) :
    iceLeaf elsewhere (participantAt "north").catalogRequestUrl = .leaf iceAnswer :=
  if_pos rfl

omit [DecidableEq Broker] in
theorem iceLeaf_elsewhere (elsewhere : Broker) {url : String}
    (other : url ≠ (participantAt "north").catalogRequestUrl) :
    iceLeaf elsewhere url = .broker elsewhere :=
  if_neg other

/-- A reader, which crawls a relay, which crawls a leaf. -/
def relayTopology : Topology Bool where
  participants
    | true => [participantAt "relay"]
    | false => [participantAt "north"]
  party := iceLeaf false

theorem relay_found :
    relayTopology.party (participantAt "relay").catalogRequestUrl = .broker false := by
  have other : (participantAt "relay").catalogRequestUrl ≠
      (participantAt "north").catalogRequestUrl := by decide +kernel
  exact iceLeaf_elsewhere false other

theorem relay_crawls_nobody (next : Bool) : ¬Crawls .reference relayTopology false next := by
  rintro ⟨_, participant, configured, found⟩
  have north : participant = participantAt "north" := List.mem_singleton.mp configured
  have leaf := (iceLeaf_north false).symm.trans (north ▸ found)
  cases leaf

theorem reader_straight : Straight .reference relayTopology true ⟨"relay"⟩ := by
  rintro participant configured _ next found ⟨node, path, cycle⟩
  have relay : participant = participantAt "relay" := List.mem_singleton.mp configured
  cases relay_found.symm.trans (relay ▸ found)
  cases Relation.ReflTransGen.cases_head path with
  | inl same =>
      subst same
      obtain ⟨next, crawls, _⟩ := Relation.TransGen.head'_iff.mp cycle
      exact relay_crawls_nobody next crawls
  | inr further =>
      obtain ⟨next, crawls, _⟩ := further
      exact relay_crawls_nobody next crawls

theorem reader_entry_is_bounded :
    ∃ bound, EntryWithin .reference relayTopology true ⟨"relay"⟩ bound :=
  straight_entries_are_bounded reader_straight

/-! ## A broker that crawls itself -/

/-- One broker, which crawls a leaf with one dataset and itself. -/
def mirrorTopology : Topology Unit where
  participants _ := [participantAt "north", participantAt "mirror"]
  party := iceLeaf ()

def northEntry : Catalog := parseCatalogResponse iceDocument (participantAt "north") ""

def listedOf (held : List Catalog) : List Catalog :=
  sortBy Catalog.id ((MapOrder.entries.values (InMemoryCatalogCache.holding held).graphs).filter
    fun _ => true)

def anyUuids : Nat → String := fun _ => "uuid"

def servedOf (held : List Catalog) : DspCatalog :=
  (catalogDocument none (listedOf held)).value anyUuids

def mirrorEntry (held : List Catalog) : Catalog :=
  parseCatalogResponse (servedOf held).toValue (participantAt "mirror") ""

def mirrorResponse (held : List Catalog) : Response :=
  (catalogRequest (AppState.withoutAuth .reference (.holding held)) ⟨none⟩ .offline 0 "t3").value
    anyUuids

def postsAnswered (answer : Except String HttpResponse) : CrawlWorld where
  http := ⟨fun _ => .error "dns error", fun _ _ _ => answer⟩
  now := 0
  accessJti := ""
  jti := ""
  freshId := ""

theorem listedOf_found (held : List Catalog) :
    (CacheView.holding held).query .all = .ok (listedOf held) := rfl

theorem servedOf_serves (held : List Catalog) : Serves none (listedOf held) (servedOf held) :=
  catalogDocument_gives none (listedOf held) anyUuids

theorem mirrorResponse_eq (held : List Catalog) :
    mirrorResponse held = ⟨200, .catalog (servedOf held)⟩ := by
  unfold mirrorResponse
  rw [catalogRequest_entitled _ _ _ _ _ (.disabled rfl) (listedOf_found held)]
  rfl

theorem broker_answer_fetched {participant : ParticipantEntry}
    (opened : participant.requiresDcp = false) (held : List Catalog) :
    crawlOne (postsAnswered (.ok (Response.encode .reference (mirrorResponse held)))) participant
      (none : Option (HolderIdentity .reference)) =
        .ok (parseCatalogResponse (servedOf held).toValue participant "") := by
  apply crawlOne_open none opened (servedOf_serves held).plainWithin
  rw [mirrorResponse_eq]
  rfl

theorem mirror_fetched (held : List Catalog) :
    crawlOne (postsAnswered (.ok (Response.encode .reference (mirrorResponse held))))
      (participantAt "mirror") (none : Option (HolderIdentity .reference)) =
        .ok (mirrorEntry held) :=
  broker_answer_fetched rfl held

theorem north_fetched {holder : Option (HolderIdentity .reference)} :
    crawlOne (postsAnswered iceAnswer) (participantAt "north") holder = .ok northEntry :=
  crawlOne_open holder rfl (by simp [iceDocument]) rfl

/-- The catalogs cached after a number of turns, with those they replaced. -/
def mirrorHeld : Nat → List Catalog
  | 0 => []
  | turn + 1 => mirrorHeld turn ++
      [if turn % 2 = 0 then northEntry else mirrorEntry (mirrorHeld turn)]

/-- In every cycle first the leaf, then the broker itself. -/
def mirrorVisit (turn : Nat) : FederationTurn fun _ : Unit => AtomicCache.memory :=
  if turn % 2 = 0 then ⟨(), participantAt "north", (postsAnswered iceAnswer).inMemory, turn⟩
  else ⟨(), participantAt "mirror", (postsAnswered (.ok (Response.encode .reference
    (mirrorResponse (mirrorHeld turn))))).inMemory, turn⟩

def mirrorRun : FederationRun .reference Unit where
  holder _ := none
  cache _ := .memory
  initial _ := AtomicCache.memory.holding []
  turns turn := some (mirrorVisit turn)

theorem mirrorRun_state (turn : Nat) :
    mirrorRun.state turn () = AtomicCache.memory.holding (mirrorHeld turn) := by
  induction turn with
  | zero => rfl
  | succ turn inductionHypothesis =>
      have next : mirrorRun.state (turn + 1) () = (Visit.make
          (none : Option (HolderIdentity .reference)) (mirrorVisit turn).participant
          (mirrorVisit turn).encounter (mirrorRun.state turn ())).2 := rfl
      rw [next, inductionHypothesis, mirrorVisit, mirrorHeld]
      by_cases first : turn % 2 = 0
      · rw [if_pos first, if_pos first]
        have made := Visit.make_inMemory (none : Option (HolderIdentity .reference))
          (participantAt "north") north_fetched (mirrorHeld turn)
        exact congrArg Prod.snd made
      · rw [if_neg first, if_neg first]
        have made := Visit.make_inMemory (none : Option (HolderIdentity .reference))
          (participantAt "mirror") (mirror_fetched (mirrorHeld turn)) (mirrorHeld turn)
        exact congrArg Prod.snd made

theorem mirrorRun_content (turn : Nat) :
    mirrorRun.content turn () = (InMemoryCatalogCache.holding (mirrorHeld turn)).content := by
  have same := congrArg InMemoryCatalogCache.content (mirrorRun_state turn)
  exact same

theorem mirrorVisit_answered (turn : Nat) :
    PartyAnswers .reference mirrorTopology (mirrorRun.content turn)
      (mirrorVisit turn).participant.catalogRequestUrl (mirrorVisit turn).encounter.world.http := by
  right
  rw [mirrorVisit]
  by_cases first : turn % 2 = 0
  · rw [if_pos first]
    have found : mirrorTopology.party (participantAt "north").catalogRequestUrl =
        .leaf iceAnswer := iceLeaf_north ()
    dsimp only
    rw [found]
    exact fun _ _ => rfl
  · rw [if_neg first]
    have other : (participantAt "mirror").catalogRequestUrl ≠
        (participantAt "north").catalogRequestUrl := by decide +kernel
    have found : mirrorTopology.party (participantAt "mirror").catalogRequestUrl =
        .broker () := iceLeaf_elsewhere () other
    dsimp only
    rw [found]
    exact ⟨.holding (mirrorHeld turn), ⟨none⟩, .offline, 0, "t3", anyUuids,
      (mirrorRun_content turn).symm, fun _ _ => rfl⟩

theorem mirrorRun_follows : mirrorRun.Follows mirrorTopology where
  empty _ := rfl
  configured := by
    intro turn visit visited
    cases visited
    rw [mirrorVisit]
    split
    · exact List.mem_cons_self
    · exact List.mem_cons_of_mem _ List.mem_cons_self
  earlier := by
    intro turn visit visited
    cases visited
    rw [mirrorVisit]
    split
    · exact le_rfl
    · exact le_rfl
  answered := by
    intro turn visit visited
    cases visited
    have now : (mirrorVisit turn).answeredAt = turn := by
      rw [mirrorVisit]
      split
      · rfl
      · rfl
    rw [now]
    exact mirrorVisit_answered turn

theorem northEntry_originNode : northEntry.originNode = ⟨"north"⟩ :=
  parseCatalogResponse_originNode _ _ _

theorem mirrorEntry_originNode (held : List Catalog) :
    (mirrorEntry held).originNode = ⟨"mirror"⟩ :=
  parseCatalogResponse_originNode _ _ _

theorem northEntry_kept (turn : Nat) :
    mirrorRun.content (turn + 1) () ⟨"north"⟩ = some northEntry := by
  rw [mirrorRun_content]
  induction turn with
  | zero => rfl
  | succ turn inductionHypothesis =>
      rw [mirrorHeld, InMemoryCatalogCache.content_holding_append]
      split
      · rw [← northEntry_originNode, KeyedMap.store_same]
      · rw [KeyedMap.store_apply, mirrorEntry_originNode, if_neg (by decide), inductionHypothesis]

theorem mirrorEntry_cached (cycle : Nat) :
    mirrorRun.content (2 * cycle + 2) () ⟨"mirror"⟩ =
      some (mirrorEntry (mirrorHeld (2 * cycle + 1))) := by
  rw [mirrorRun_content, mirrorHeld, if_neg (by omega),
    InMemoryCatalogCache.content_holding_append,
    ← mirrorEntry_originNode (mirrorHeld (2 * cycle + 1)), KeyedMap.store_same]

theorem mirrorEntry_kept (cycle : Nat) :
    mirrorRun.content (2 * cycle + 3) () ⟨"mirror"⟩ =
      some (mirrorEntry (mirrorHeld (2 * cycle + 1))) := by
  rw [mirrorRun_content, mirrorHeld, if_pos (by omega),
    InMemoryCatalogCache.content_holding_append, KeyedMap.store_apply, northEntry_originNode,
    if_neg (by decide), ← mirrorRun_content, mirrorEntry_cached]

theorem datasets_of_two {catalogs : List Catalog} {first second : Catalog}
    (listed : first ∈ catalogs) (otherListed : second ∈ catalogs) (apart : second ≠ first) :
    first.datasets.length + second.datasets.length ≤
      (catalogs.flatMap Catalog.datasets).length := by
  have front : catalogs.Perm (first :: second :: (catalogs.erase first).erase second) := by
    refine (List.perm_cons_erase listed).trans (List.Perm.cons _ ?_)
    exact List.perm_cons_erase ((List.mem_erase_of_ne apart).mpr otherListed)
  rw [(front.flatMap_right Catalog.datasets).length_eq, List.flatMap_cons, List.flatMap_cons,
    List.length_append, List.length_append]
  omega

theorem mirrorEntry_length (held : List Catalog) :
    (mirrorEntry held).datasets.length = ((listedOf held).flatMap Catalog.datasets).length := by
  rw [mirrorEntry, (servedOf_serves held).read, List.length_map]
  rfl

theorem listedOf_enumerates (turn : Nat) :
    Enumerates Catalog.originNode (mirrorRun.content turn ()) (listedOf (mirrorHeld turn)) := by
  rw [mirrorRun_content]
  exact ((CacheView.holding (mirrorHeld turn)).listing (listedOf_found _)).1

/-- Every cycle adds the leaf's dataset once more. -/
theorem mirrorEntry_grows (cycle : Nat) :
    cycle + 1 ≤ (mirrorEntry (mirrorHeld (2 * cycle + 1))).datasets.length := by
  have ice : northEntry.datasets.length = 1 := by decide +kernel
  induction cycle with
  | zero => decide +kernel
  | succ cycle inductionHypothesis =>
      have listing := listedOf_enumerates (2 * cycle + 3)
      obtain ⟨northListed, _⟩ := listing.complete _ _ (northEntry_kept (2 * cycle + 2))
      obtain ⟨ownListed, _⟩ := listing.complete _ _ (mirrorEntry_kept cycle)
      have apart : mirrorEntry (mirrorHeld (2 * cycle + 1)) ≠ northEntry := by
        intro same
        have nodes := congrArg Catalog.originNode same
        rw [mirrorEntry_originNode, northEntry_originNode] at nodes
        exact absurd nodes (by decide)
      have both := datasets_of_two northListed ownListed apart
      rw [mirrorEntry_length]
      calc cycle + 1 + 1
          ≤ (mirrorEntry (mirrorHeld (2 * cycle + 1))).datasets.length + 1 :=
            Nat.add_le_add_right inductionHypothesis 1
        _ = northEntry.datasets.length +
              (mirrorEntry (mirrorHeld (2 * cycle + 1))).datasets.length := by
            rw [ice, Nat.add_comm]
        _ ≤ ((listedOf (mirrorHeld (2 * cycle + 3))).flatMap Catalog.datasets).length := both

theorem self_crawling_grows_without_bound :
    ¬∃ bound, EntryWithin .reference mirrorTopology () ⟨"mirror"⟩ bound := by
  rintro ⟨bound, within⟩
  have few := within mirrorRun mirrorRun_follows (2 * bound + 2) _ (mirrorEntry_cached bound)
  have many := mirrorEntry_grows bound
  omega

end FederatedCatalog.Http
