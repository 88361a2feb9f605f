import FederatedCatalog.Crawler.LastKnownGood

/-!
# The participant registry

What a configuration file has to satisfy, and what a cycle over an accepted
configuration leaves in the cache: the catalog of every participant that
succeeded, as long as no two of them have the same id.
-/

namespace FederatedCatalog.Crawler

open Foundation Json FederatedCatalog.Core Dcp Store

structure HolderConfig where
  ownDidHost : String
  insecureHttp : Bool
  credentialJws : String
  requiredScope : String
  deriving DecidableEq

structure ParticipantsConfig where
  intervalSecs : Nat
  participants : List ParticipantEntry
  holder : Option HolderConfig
  deriving DecidableEq

inductive ConfigError where
  | io (path source : String)
  | parse (path source : String)
  | missingProviderDid (id : String)
  | missingHolderSection (id : String)
  deriving DecidableEq

def ConfigError.display : ConfigError → String
  | .io path source => "failed to read crawler config file " ++ path ++ ": " ++ source
  | .parse path source => "failed to parse crawler config file " ++ path ++ ": " ++ source
  | .missingProviderDid id =>
      "participant '" ++ id ++ "' has requires_dcp = true but no provider_did is set"
  | .missingHolderSection id =>
      "participant '" ++ id ++
        "' has requires_dcp = true but this config file has no [holder] section"

namespace ParticipantsConfig

/-- The loop of `validate` over the participants. -/
def validateAll (holder : Option HolderConfig) : List ParticipantEntry → Except ConfigError Unit
  | [] => .ok ()
  | participant :: rest =>
      if participant.requiresDcp = false then validateAll holder rest
      else if participant.providerDid.isNone then .error (.missingProviderDid participant.id)
      else if holder.isNone then .error (.missingHolderSection participant.id)
      else validateAll holder rest

def validate (config : ParticipantsConfig) : Except ConfigError Unit :=
  validateAll config.holder config.participants

/-- `fromToml` is the derived TOML reader. -/
def parse (fromToml : String → Except String ParticipantsConfig) (raw pathForErrors : String) :
    Except ConfigError ParticipantsConfig :=
  match fromToml raw with
  | .error source => .error (.parse pathForErrors source)
  | .ok config =>
      match config.validate with
      | .error error => .error error
      | .ok () => .ok config

def DcpConsistent (config : ParticipantsConfig) : Prop :=
  ∀ participant ∈ config.participants, participant.requiresDcp = true →
    participant.providerDid.isSome = true ∧ config.holder.isSome = true

theorem validateAll_eq_ok (holder : Option HolderConfig) (participants : List ParticipantEntry) :
    validateAll holder participants = .ok () ↔
      ∀ participant ∈ participants, participant.requiresDcp = true →
        participant.providerDid.isSome = true ∧ holder.isSome = true := by
  induction participants with
  | nil => simp [validateAll]
  | cons participant rest inductionHypothesis =>
      rw [validateAll, List.forall_mem_cons]
      by_cases opened : participant.requiresDcp = false
      · rw [if_pos opened, inductionHypothesis]
        simp [opened]
      · rw [if_neg opened]
        have gated : participant.requiresDcp = true := by simpa using opened
        cases did : participant.providerDid with
        | none => simp [gated]
        | some providerDid =>
            cases holder with
            | none => simp [gated]
            | some section_ =>
                rw [if_neg (by simp), if_neg (by simp), inductionHypothesis]
                simp

theorem validate_eq_ok (config : ParticipantsConfig) :
    config.validate = .ok () ↔ config.DcpConsistent :=
  validateAll_eq_ok config.holder config.participants

theorem parse_eq_ok {fromToml : String → Except String ParticipantsConfig}
    {raw pathForErrors : String} {config : ParticipantsConfig} :
    parse fromToml raw pathForErrors = .ok config ↔
      fromToml raw = .ok config ∧ config.DcpConsistent := by
  unfold parse
  cases read : fromToml raw with
  | error source => simp
  | ok other =>
      rw [← validate_eq_ok]
      constructor
      · intro parsed
        dsimp only at parsed
        split at parsed
        · cases parsed
        · next valid =>
          cases parsed
          exact ⟨rfl, valid⟩
      · rintro ⟨same, valid⟩
        cases same
        dsimp only
        rw [valid]

abbrev Validated := { config : ParticipantsConfig // config.DcpConsistent }

/-- `readToString` reads a file. -/
def load (readToString : String → Except String String)
    (fromToml : String → Except String ParticipantsConfig) (path : String) :
    Except ConfigError Validated :=
  match readToString path with
  | .error source => .error (.io path source)
  | .ok raw =>
      match parsed : parse fromToml raw path with
      | .error error => .error error
      | .ok config => .ok ⟨config, (parse_eq_ok.mp parsed).2⟩

theorem load_eq_ok {readToString : String → Except String String}
    {fromToml : String → Except String ParticipantsConfig} {path : String} {config : Validated} :
    load readToString fromToml path = .ok config ↔
      ∃ raw, readToString path = .ok raw ∧ fromToml raw = .ok config.1 := by
  unfold load
  cases read : readToString path with
  | error source =>
      constructor
      · intro loaded
        cases loaded
      · rintro ⟨raw, other, _⟩
        cases other
  | ok raw =>
      dsimp only
      constructor
      · intro loaded
        split at loaded
        · cases loaded
        · next other parsed =>
          cases loaded
          exact ⟨raw, rfl, (parse_eq_ok.mp parsed).1⟩
      · rintro ⟨_, same, toml⟩
        cases same
        have parsed : parse fromToml raw path = .ok config.1 := parse_eq_ok.mpr ⟨toml, config.2⟩
        split
        · next refused => cases refused.symm.trans parsed
        · next other accepted =>
          cases accepted.symm.trans parsed
          rfl

end ParticipantsConfig

variable {platform : Platform} {cache : AtomicCache} (holder : Option (HolderIdentity platform))

theorem lastGood_of_last {before after : List (Visit cache)} {visit : Visit cache}
    {catalog : Catalog} (good : visit.result = .ok catalog)
    (last : ∀ other ∈ after, other.succeeded = true →
      other.participant.id ≠ visit.participant.id) :
    lastGood (before ++ visit :: after) ⟨visit.participant.id⟩ = some catalog := by
  have none : lastGood after ⟨visit.participant.id⟩ = none := by
    unfold lastGood
    rw [Option.bind_eq_none_iff]
    intro other found
    have listed := List.mem_reverse.mp (List.mem_of_find?_eq_some found)
    have named := List.find?_some found
    simp only [Bool.and_eq_true, decide_eq_true_eq] at named
    exact absurd named.2 (last other listed named.1)
  rw [← List.singleton_append, ← List.append_assoc, lastGood_append, lastGood_append, none,
    Option.none_or]
  simp [lastGood, Visit.succeeded, good, Except.toOption]

theorem good_of_lastGood {log : List (Visit cache)} {node : NodeId} {catalog : Catalog}
    (good : lastGood log node = some catalog) :
    ∃ visit ∈ log, visit.participant.id = node.value ∧ visit.result = .ok catalog := by
  obtain ⟨visit, found, result⟩ := Option.bind_eq_some_iff.mp good
  have named := List.find?_some found
  simp only [Bool.and_eq_true, decide_eq_true_eq] at named
  refine ⟨visit, List.mem_reverse.mp (List.mem_of_find?_eq_some found), named.2, ?_⟩
  cases outcome : visit.result with
  | error error =>
      rw [outcome] at result
      cases result
  | ok other =>
      rw [outcome] at result
      cases result
      rfl

theorem visited_of_lastGood {log : List (Visit cache)} {node : NodeId} {catalog : Catalog}
    (good : lastGood log node = some catalog) :
    ∃ visit ∈ log, visit.participant.id = node.value := by
  obtain ⟨visit, listed, named, _⟩ := good_of_lastGood good
  exact ⟨visit, listed, named⟩

structure CachesSuccesses (participants : List ParticipantEntry)
    (encounters : Nat → Encounter cache) (initial : cache.State) : Prop where
  counted : (visits holder participants encounters initial).map Visit.participant =
      participants ∧
    (crawlOnce holder participants encounters initial).1.succeeded =
      (visits holder participants encounters initial).countP Visit.succeeded
  cached : ∀ visit ∈ visits holder participants encounters initial, ∀ catalog,
    visit.result = .ok catalog → visit.Read holder catalog ∧
      cache.content (crawlOnce holder participants encounters initial).2
        ⟨visit.participant.id⟩ = some catalog
  /-- Without failures, an empty cache fills with one catalog for each participant. -/
  complete : (crawlOnce holder participants encounters initial).1.failed = 0 →
    cache.content initial = (fun _ => none) → ∀ listed,
      Enumerates Catalog.originNode
        (cache.content (crawlOnce holder participants encounters initial).2) listed →
      listed.length = participants.length

variable {holder} {participants : List ParticipantEntry} {encounters : Nat → Encounter cache}
  {initial : cache.State}

def Unshared (participants : List ParticipantEntry) (id : String) : Prop :=
  (participants.map ParticipantEntry.id).count id ≤ 1

theorem unshared_of_distinct (distinct : (participants.map ParticipantEntry.id).Nodup)
    (id : String) : Unshared participants id :=
  List.nodup_iff_count_le_one.mp distinct id

theorem Unshared.others {visit : Visit cache}
    (unshared : Unshared participants visit.participant.id) {before after : List (Visit cache)}
    (split : visits holder participants encounters initial = before ++ visit :: after) :
    ∀ other ∈ before ++ after, other.participant.id ≠ visit.participant.id := by
  intro other listed same
  have visited := visits_participants holder participants encounters initial
  unfold Unshared at unshared
  rw [← visited, split, List.map_map, List.map_append, List.map_cons, List.count_append,
    Function.comp_apply, List.count_cons_self, ← Nat.add_assoc, ← List.count_append,
    ← List.map_append] at unshared
  have again : 0 < ((before ++ after).map (ParticipantEntry.id ∘ Visit.participant)).count
      visit.participant.id := by
    rw [List.count_pos_iff, ← same]
    exact List.mem_map_of_mem listed
  omega

theorem cached_of_unshared {visit : Visit cache}
    (unshared : Unshared participants visit.participant.id)
    (made : visit ∈ visits holder participants encounters initial)
    {catalog : Catalog} (good : visit.result = .ok catalog) :
    cache.content (crawlOnce holder participants encounters initial).2
      ⟨visit.participant.id⟩ = some catalog := by
  obtain ⟨before, after, split⟩ := List.append_of_mem made
  have last : ∀ other ∈ after, other.succeeded = true →
      other.participant.id ≠ visit.participant.id := by
    intro other later _
    exact unshared.others split other (List.mem_append_right before later)
  rw [crawlOnce, content_crawlFrom, split, lastGood_of_last good last, Option.some_or]

theorem cached_of_distinct (distinct : (participants.map ParticipantEntry.id).Nodup)
    {visit : Visit cache} (made : visit ∈ visits holder participants encounters initial)
    {catalog : Catalog} (good : visit.result = .ok catalog) :
    cache.content (crawlOnce holder participants encounters initial).2
      ⟨visit.participant.id⟩ = some catalog :=
  cached_of_unshared (unshared_of_distinct distinct _) made good

theorem kept_of_unshared {visit : Visit cache}
    (unshared : Unshared participants visit.participant.id)
    (made : visit ∈ visits holder participants encounters initial)
    (failed : visit.succeeded = false) :
    cache.content (crawlOnce holder participants encounters initial).2
      ⟨visit.participant.id⟩ = cache.content initial ⟨visit.participant.id⟩ := by
  obtain ⟨before, after, split⟩ := List.append_of_mem made
  have none : lastGood (visits holder participants encounters initial)
      ⟨visit.participant.id⟩ = none := by
    rw [Option.eq_none_iff_forall_ne_some]
    intro catalog good
    obtain ⟨other, listed, named, result⟩ := good_of_lastGood good
    rw [split] at listed
    rcases List.mem_append.mp listed with earlier | later
    · exact unshared.others split other (List.mem_append_left after earlier) named
    · rcases List.mem_cons.mp later with rfl | later
      · simp [Visit.succeeded, result, Except.toOption] at failed
      · exact unshared.others split other (List.mem_append_right before later) named
  rw [crawlOnce, content_crawlFrom, none, Option.none_or]

theorem all_succeeded (unfailing : (crawlOnce holder participants encounters initial).1.failed = 0)
    {visit : Visit cache} (made : visit ∈ visits holder participants encounters initial) :
    visit.succeeded = true := by
  rw [crawlOnce, summary_crawlFrom] at unfailing
  have summary := CrawlSummary.summarizes (visits holder participants encounters initial)
  have all : (visits holder participants encounters initial).countP Visit.succeeded =
      (visits holder participants encounters initial).length := by
    have counted := summary.succeeded
    have balanced := summary.balanced
    have attempted := summary.attempted
    omega
  exact List.countP_eq_length.mp all visit made

theorem listed_nodes (distinct : (participants.map ParticipantEntry.id).Nodup)
    (unfailing : (crawlOnce holder participants encounters initial).1.failed = 0)
    (empty : cache.content initial = fun _ => none) {listed : List Catalog}
    (lists : Enumerates Catalog.originNode
      (cache.content (crawlOnce holder participants encounters initial).2) listed) :
    (listed.map Catalog.originNode).Perm
      (participants.map fun participant => ⟨participant.id⟩) := by
  have nodes : (participants.map fun participant => NodeId.mk participant.id).Nodup := by
    have injective : Function.Injective NodeId.mk := by
      intro first second same
      cases same
      rfl
    have mapped := distinct.map injective
    rwa [List.map_map] at mapped
  have visited := visits_participants holder participants encounters initial
  apply (List.perm_ext_iff_of_nodup lists.distinct nodes).mpr
  intro node
  constructor
  · intro membership
    obtain ⟨catalog, inListed, rfl⟩ := List.mem_map.mp membership
    have stored := lists.stored catalog inListed
    rw [crawlOnce, content_crawlFrom, empty, Option.or_none] at stored
    obtain ⟨visit, made, named⟩ := visited_of_lastGood stored
    have configured : visit.participant ∈ participants := by
      rw [← visited]
      exact List.mem_map_of_mem made
    exact List.mem_map.mpr ⟨visit.participant, configured, congrArg NodeId.mk named⟩
  · intro membership
    obtain ⟨participant, configured, rfl⟩ := List.mem_map.mp membership
    rw [← visited] at configured
    obtain ⟨visit, made, rfl⟩ := List.mem_map.mp configured
    have good := all_succeeded unfailing made
    cases result : visit.result with
    | error error => simp [Visit.succeeded, result, Except.toOption] at good
    | ok catalog =>
        obtain ⟨inListed, node⟩ := lists.complete _ catalog (cached_of_distinct distinct made result)
        exact List.mem_map.mpr ⟨catalog, inListed, node⟩

/-- With distinct ids, a cycle caches every success. -/
theorem cycle_caches_every_success (distinct : (participants.map ParticipantEntry.id).Nodup) :
    CachesSuccesses holder participants encounters initial where
  counted := by
    refine ⟨visits_participants holder participants encounters initial, ?_⟩
    rw [crawlOnce, summary_crawlFrom]
    exact (CrawlSummary.summarizes _).succeeded
  cached := by
    intro visit made catalog good
    obtain ⟨index, _, visited⟩ := List.mem_iff_getElem.mp made
    have faithful := (visits_get holder participants encounters initial
      (List.getElem?_eq_some_iff.mpr ⟨_, visited⟩)).2
    exact ⟨faithful.read catalog good, cached_of_distinct distinct made good⟩
  complete := by
    intro unfailing empty listed lists
    have nodes := (listed_nodes distinct unfailing empty lists).length_eq
    simpa using nodes

def emptyCatalogs : CrawlWorld :=
  .answering .reference fun url => .object [("@id", .string url)]

theorem emptyCatalogs_crawled (holder : Option (HolderIdentity .reference))
    {participant : ParticipantEntry} (opened : participant.requiresDcp = false) :
    crawlOne emptyCatalogs participant holder =
      .ok (Catalog.new participant.catalogRequestUrl ⟨participant.id⟩) := by
  unfold emptyCatalogs
  rw [crawlOne_answering holder opened (by simp)]
  rfl

/-- The second participant's id is the first one's. -/
def twoNorths : ParticipantsConfig where
  intervalSecs := 300
  participants := [participantAt "north", { participantAt "south" with id := "north" }]
  holder := none

def northCatalog : Catalog := Catalog.new (participantAt "north").catalogRequestUrl ⟨"north"⟩

def usurper : Catalog := Catalog.new (participantAt "south").catalogRequestUrl ⟨"north"⟩

/-- Both succeed, and only the second one's catalog is cached. -/
theorem shared_id_loses_a_success :
    twoNorths.validate = .ok () ∧
    (crawlOnce (none : Option (HolderIdentity .reference)) twoNorths.participants
      (fun _ => emptyCatalogs.inMemory) (AtomicCache.memory.holding [])).1 = ⟨2, 2, 0, []⟩ ∧
    AtomicCache.memory.content (crawlOnce (none : Option (HolderIdentity .reference))
      twoNorths.participants (fun _ => emptyCatalogs.inMemory)
      (AtomicCache.memory.holding [])).2 ⟨"north"⟩ = some usurper ∧
    crawlOne emptyCatalogs (participantAt "north") (none : Option (HolderIdentity .reference)) =
      .ok northCatalog ∧
    northCatalog ≠ usurper := by
  have north : crawlOne emptyCatalogs (participantAt "north")
      (none : Option (HolderIdentity .reference)) = .ok northCatalog :=
    emptyCatalogs_crawled none rfl
  have south : crawlOne emptyCatalogs { participantAt "south" with id := "north" }
      (none : Option (HolderIdentity .reference)) = .ok usurper :=
    emptyCatalogs_crawled none rfl
  have crawled : crawlOnce (none : Option (HolderIdentity .reference)) twoNorths.participants
      (fun _ => emptyCatalogs.inMemory) (AtomicCache.memory.holding []) =
        (⟨2, 2, 0, []⟩, AtomicCache.memory.holding [northCatalog, usurper]) := by
    rw [crawlOnce, twoNorths, crawlFrom_cons, Visit.make_inMemory _ _ north, crawlFrom_cons,
      Visit.make_inMemory _ _ south]
    rfl
  refine ⟨rfl, ?_⟩
  rw [crawled]
  exact ⟨rfl, by decide +kernel, north, by decide +kernel⟩

theorem north_and_south_are_cached :
    CachesSuccesses (none : Option (HolderIdentity .reference))
      [participantAt "north", participantAt "south"] (fun _ => emptyCatalogs.inMemory)
      (AtomicCache.memory.holding []) :=
  cycle_caches_every_success (by decide)

end FederatedCatalog.Crawler
