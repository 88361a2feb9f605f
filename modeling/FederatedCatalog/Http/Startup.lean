import FederatedCatalog.Crawler.Config
import FederatedCatalog.Http.Routes
import FederatedCatalog.Http.Service

/-!
# Starting the server

`main` reads the environment and the crawler's configuration file.  It stops
with a message, or starts a server: one that crawls what is configured, or one
that serves a sample.
-/

namespace FederatedCatalog.Http

open Foundation Json FederatedCatalog.Core Dcp Store Crawler

variable {platform : Platform}

/-- What `main` finds on its machine; `bind` is `TcpListener::bind`. -/
structure Machine extends Environment where
  readToString : String → Except String String
  fromToml : String → Except String ParticipantsConfig
  bind : String → Except String Unit

def defaultAddr : String := "127.0.0.1:8080"

def loadCrawlerConfig (machine : Machine) :
    Except String (Option ParticipantsConfig.Validated) :=
  match machine.var "CRAWLER_CONFIG_PATH" with
  | none => .ok none
  | some path =>
      match ParticipantsConfig.load machine.readToString machine.fromToml path with
      | .ok config => .ok (some config)
      | .error error => .error ("failed to load CRAWLER_CONFIG_PATH=" ++ machine.debug path ++
          ": " ++ error.display)

/-- `random` is the freshly drawn key. -/
def buildHolder (config : ParticipantsConfig) (random : platform.es256.SigningKey) :
    Option (HolderIdentity platform) :=
  config.holder.map fun section_ =>
    .new section_.ownDidHost section_.insecureHttp section_.credentialJws section_.requiredScope
      random

/-- The catalog of `seed_sample_catalog`. -/
def sampleCatalog : Catalog :=
  { Catalog.new "sample-catalog" ⟨"sample-participant"⟩ with
    participantId := some "did:example:sample-participant"
    datasets := ["CAT0101", "CAT0102"].map fun id => {
      id
      properties := SortedMap.empty
      distributions := [⟨"application/json", "sample-data-service"⟩] }
    dataServices := [⟨"sample-data-service", "https://sample.example.org/dsp",
      some "dataspace-protocol-http:1.0"⟩] }

/-- The arguments of `spawn_scheduler`. -/
structure ScheduledCrawler (platform : Platform) where
  config : ParticipantsConfig.Validated
  holder : Option (HolderIdentity platform)
  identified : holder.isSome = config.1.holder.isSome

structure Started (platform : Platform) where
  addr : String
  auth : DspAuthConfig platform
  crawler : Option (ScheduledCrawler platform)

def Started.holder (started : Started platform) : Option (HolderIdentity platform) :=
  started.crawler.bind ScheduledCrawler.holder

/-- The keys are the freshly drawn ones of the verifier and the holder. -/
def main (machine : Machine) (verifierKey holderKey : platform.es256.SigningKey) :
    Except String (Started platform) := do
  let addr := (machine.var "HTTP_API_ADDR").getD defaultAddr
  let auth ← loadDspAuth platform machine.toEnvironment verifierKey
  let config ← loadCrawlerConfig machine
  let crawler := config.map fun config => {
    config
    holder := buildHolder config.1 holderKey
    identified := Option.isSome_map }
  mapErr (fun error => "failed to bind " ++ addr ++ ": " ++ error) (machine.bind addr)
  return { addr, auth, crawler }

structure StartedFrom (machine : Machine) (verifierKey : platform.es256.SigningKey)
    (started : Started platform) : Prop where
  auth : loadDspAuth platform machine.toEnvironment verifierKey = .ok started.auth
  file : ∀ crawler, started.crawler = some crawler → ∃ path raw,
    machine.var "CRAWLER_CONFIG_PATH" = some path ∧ machine.readToString path = .ok raw ∧
      machine.fromToml raw = .ok crawler.config.1
  noFile : started.crawler = none → machine.var "CRAWLER_CONFIG_PATH" = none

theorem loadCrawlerConfig_eq_ok {machine : Machine} {config : Option ParticipantsConfig.Validated}
    (loaded : loadCrawlerConfig machine = .ok config) :
    (config = none ∧ machine.var "CRAWLER_CONFIG_PATH" = none) ∨
      ∃ valid path raw, config = some valid ∧ machine.var "CRAWLER_CONFIG_PATH" = some path ∧
        machine.readToString path = .ok raw ∧ machine.fromToml raw = .ok valid.1 := by
  unfold loadCrawlerConfig at loaded
  split at loaded
  · next unset =>
    cases loaded
    exact .inl ⟨rfl, unset⟩
  · next path given =>
    split at loaded
    · next valid read =>
      cases loaded
      obtain ⟨raw, file, toml⟩ := ParticipantsConfig.load_eq_ok.mp read
      exact .inr ⟨valid, path, raw, rfl, given, file, toml⟩
    · cases loaded

theorem main_eq_ok {machine : Machine} {verifierKey holderKey : platform.es256.SigningKey}
    {started : Started platform} (running : main machine verifierKey holderKey = .ok started) :
    StartedFrom machine verifierKey started := by
  simp only [main, bind_eq_ok, pure_eq_ok] at running
  obtain ⟨auth, loaded, config, read, _, _, rfl⟩ := running
  refine ⟨loaded, ?_, ?_⟩
  · intro crawler some_
    obtain ⟨valid, same, rfl⟩ := Option.map_eq_some_iff.mp some_
    rcases loadCrawlerConfig_eq_ok read with ⟨rfl, _⟩ | ⟨other, path, raw, rfl, file⟩
    · cases same
    · cases same
      exact ⟨path, raw, file⟩
  · intro none_
    rcases loadCrawlerConfig_eq_ok read with ⟨_, unset⟩ | ⟨other, path, raw, rfl, file⟩
    · exact unset
    · cases none_

/-! ## A started server runs -/

def Started.seed (started : Started platform) : List Catalog :=
  if started.crawler.isSome then [] else [sampleCatalog]

/-- The run is one of the server: its crawler visits what is configured. -/
structure Started.Runs (started : Started platform) (run : ServerRun platform) : Prop where
  auth : run.auth = started.auth
  holder : run.holder = started.holder
  seeded : run.cache.content run.initial = (InMemoryCatalogCache.holding started.seed).content
  scheduled : ∀ turn participant encounter, run.events turn = .visit participant encounter →
    ∃ crawler, started.crawler = some crawler ∧ participant ∈ crawler.config.1.participants
  current : run.Current

inductive Presents (holder : Option (HolderIdentity platform)) (world : CrawlWorld)
    (participant : ParticipantEntry) : String → Prop where
  | placeholder (opened : participant.requiresDcp = false) :
      Presents holder world participant openParticipantPlaceholderAuth
  | token (gated : participant.requiresDcp = true) {identity : HolderIdentity platform}
      (configured : holder = some identity) {providerDid : String}
      (named : participant.providerDid = some providerDid) :
      Presents holder world participant ("Bearer " ++
        identity.mintSelfIssuedToken providerDid world.now world.accessJti world.jti)

variable {cache : AtomicCache}

/-- What went wrong in a visit, with the text that is reported: the network, the
participant, or the cache. -/
inductive Setback (holder : Option (HolderIdentity platform)) (visit : Visit cache)
    (header : String) : String → Prop where
  | unanswered {error : String}
      (posted : visit.encounter.world.http.post visit.participant.catalogRequestUrl header
        requestBody = .error error) :
      Setback holder visit header
        ("request to " ++ visit.participant.catalogRequestUrl ++ " failed: " ++ error)
  | refused {response : HttpResponse}
      (posted : visit.encounter.world.http.post visit.participant.catalogRequestUrl header
        requestBody = .ok response)
      (status : response.isSuccess = false) :
      Setback holder visit header (visit.participant.catalogRequestUrl ++ " returned HTTP " ++
        platform.statusText response.status)
  | malformed {response : HttpResponse} {error : String}
      (posted : visit.encounter.world.http.post visit.participant.catalogRequestUrl header
        requestBody = .ok response)
      (status : response.isSuccess = true)
      (unread : response.value platform = .error error) :
      Setback holder visit header ("malformed JSON response from " ++
        visit.participant.catalogRequestUrl ++ ": " ++ error)
  | uncached {catalog : Catalog} (read : visit.Read holder catalog) {error : StoreError} :
      Setback holder visit header ("failed to cache crawl result: " ++ error.display)

theorem crawlOne_setback {holder : Option (HolderIdentity platform)} {visit : Visit cache}
    {header error : String}
    (asked : authorization visit.encounter.world visit.participant holder = .ok header)
    (failed : crawlOne visit.encounter.world visit.participant holder = .error error) :
    Setback holder visit header error := by
  simp only [crawlOne, asked, ok_bind] at failed
  rcases bind_eq_error.mp failed with unanswered | ⟨response, answered, failed⟩
  · obtain ⟨error, posted, rfl⟩ := mapErr_eq_error.mp unanswered
    exact .unanswered posted
  have posted := mapErr_eq_ok.mp answered
  rcases bind_eq_error.mp failed with refused | ⟨_, success, failed⟩
  · obtain ⟨status, rfl⟩ := ensure_eq_error.mp refused
    exact .refused posted (by simpa using status)
  have status := ensure_eq_ok.mp success
  rcases bind_eq_error.mp failed with malformed | ⟨body, _, parsed⟩
  · obtain ⟨error, unread, rfl⟩ := mapErr_eq_error.mp malformed
    exact .malformed posted status unread
  · cases parsed

theorem make_outcome {holder : Option (HolderIdentity platform)} {participant : ParticipantEntry}
    {encounter : Encounter cache} {header : String}
    (asked : authorization encounter.world participant holder = .ok header)
    (state : cache.State) :
    let visit := (Visit.make holder participant encounter state).1
    (∃ catalog, visit.result = .ok catalog ∧ visit.Read holder catalog) ∨
      ∃ error, visit.result = .error error ∧ Setback holder visit header error := by
  cases fetched : crawlOne encounter.world participant holder with
  | error error =>
      right
      rw [Visit.make_failed holder participant encounter state fetched]
      have setback : Setback holder (⟨participant, encounter, .error error⟩ : Visit cache) header
        error := crawlOne_setback asked fetched
      exact ⟨error, rfl, setback⟩
  | ok catalog =>
      cases upserted : (cache.upsert encounter.choice state catalog).1 with
      | ok _ =>
          left
          rw [Visit.make_cached holder participant encounter state fetched upserted]
          exact ⟨catalog, rfl, crawlOne_from fetched⟩
      | error refused =>
          right
          let failed : Visit cache := ⟨participant, encounter,
            .error ("failed to cache crawl result: " ++ refused.display)⟩
          have made : (Visit.make holder participant encounter state).1 = failed := by
            simp [Visit.make, fetched, upserted, failed]
          have read : failed.Read holder catalog := crawlOne_from fetched
          rw [made]
          exact ⟨_, rfl, .uncached read⟩

/-- With a validated configuration there always is a header to present. -/
theorem presents_of_scheduled (crawler : ScheduledCrawler platform) {participant : ParticipantEntry}
    (listed : participant ∈ crawler.config.1.participants) (world : CrawlWorld) :
    ∃ header, authorization world participant crawler.holder = .ok header ∧
      Presents crawler.holder world participant header := by
  cases gated : participant.requiresDcp with
  | false =>
      refine ⟨openParticipantPlaceholderAuth, ?_, .placeholder gated⟩
      simp [authorization, gated]
  | true =>
      obtain ⟨named, section_⟩ := crawler.config.2 participant listed gated
      obtain ⟨providerDid, did⟩ := Option.isSome_iff_exists.mp named
      obtain ⟨identity, configured⟩ := Option.isSome_iff_exists.mp (crawler.identified ▸ section_)
      refine ⟨_, ?_, .token gated configured did⟩
      simp only [authorization, gated, configured, did, okOr, ok_bind]
      rfl

structure Dependable (machine : Machine) (started : Started platform) (run : ServerRun platform) :
    Prop where
  polled : ∀ turn, ∀ visit ∈ run.log turn, ∃ path raw config,
    machine.var "CRAWLER_CONFIG_PATH" = some path ∧ machine.readToString path = .ok raw ∧
      machine.fromToml raw = .ok config ∧ visit.participant ∈ config.participants
  /-- Every participant is asked as it demands, and no failure is the configuration's. -/
  asked : ∀ turn, ∀ visit ∈ run.log turn, ∃ header,
    Presents started.holder visit.encounter.world visit.participant header ∧
      ((∃ catalog, visit.result = .ok catalog ∧ visit.Read started.holder catalog) ∨
        ∃ error, visit.result = .error error ∧ Setback started.holder visit header error)
  known : ∀ turn node catalog, machine.var "CRAWLER_CONFIG_PATH" ≠ none →
    run.known turn node = some catalog →
      ∃ visit ∈ run.log turn, visit.participant.id = node.value ∧
        visit.Read started.holder catalog
  /-- Without a file, the sample stays. -/
  sample : machine.var "CRAWLER_CONFIG_PATH" = none → ∀ turn,
    run.log turn = [] ∧ run.known turn = (InMemoryCatalogCache.holding [sampleCatalog]).content

namespace Started.Runs

variable {started : Started platform} {run : ServerRun platform}

theorem scheduled_of_log (runs : started.Runs run) {turn : Nat} {visit : Visit run.cache}
    (listed : visit ∈ run.log turn) :
    ∃ crawler, started.crawler = some crawler ∧
      visit.participant ∈ crawler.config.1.participants ∧
      ∃ header, Presents started.holder visit.encounter.world visit.participant header ∧
        ((∃ catalog, visit.result = .ok catalog ∧ visit.Read started.holder catalog) ∨
          ∃ error, visit.result = .error error ∧ Setback started.holder visit header error) := by
  obtain ⟨earlier, participant, encounter, event, rfl⟩ := ServerRun.made_of_log listed
  obtain ⟨crawler, scheduled, configured⟩ := runs.scheduled earlier participant encounter event
  have holder : started.holder = crawler.holder := by rw [Started.holder, scheduled]; rfl
  obtain ⟨header, asked, presents⟩ := presents_of_scheduled crawler configured encounter.world
  rw [← holder] at asked presents
  rw [runs.holder]
  refine ⟨crawler, scheduled, ?_, header, ?_, make_outcome asked _⟩
  · rw [Visit.make_participant]
    exact configured
  · rw [Visit.make_encounter, Visit.make_participant]
    exact presents

theorem known_sample (runs : started.Runs run) (idle : started.crawler = none) (turn : Nat) :
    run.log turn = [] ∧ run.known turn = (InMemoryCatalogCache.holding [sampleCatalog]).content := by
  have unvisited : run.log turn = [] := by
    rw [List.eq_nil_iff_forall_not_mem]
    intro visit listed
    obtain ⟨crawler, scheduled, _⟩ := runs.scheduled_of_log listed
    rw [idle] at scheduled
    cases scheduled
  refine ⟨unvisited, ?_⟩
  funext node
  rw [ServerRun.known, unvisited, runs.seeded, Started.seed, idle]
  rfl

end Started.Runs

theorem started_crawler_is_dependable {machine : Machine}
    {verifierKey holderKey : platform.es256.SigningKey} {started : Started platform}
    (running : main machine verifierKey holderKey = .ok started) {run : ServerRun platform}
    (runs : started.Runs run) : Dependable machine started run where
  polled := by
    intro turn visit listed
    obtain ⟨crawler, scheduled, configured, _⟩ := runs.scheduled_of_log listed
    obtain ⟨path, raw, given, read, toml⟩ := (main_eq_ok running).file crawler scheduled
    exact ⟨path, raw, crawler.config.1, given, read, toml, configured⟩
  asked := by
    intro turn visit listed
    obtain ⟨_, _, _, outcome⟩ := runs.scheduled_of_log listed
    exact outcome
  known := by
    intro turn node catalog given known
    have crawling : started.crawler.isSome = true := by
      cases crawler : started.crawler with
      | none => exact absurd ((main_eq_ok running).noFile crawler) given
      | some _ => rfl
    rcases ServerRun.known_origin known with initial | read
    · rw [runs.seeded, Started.seed, if_pos crawling] at initial
      cases initial
    · rw [runs.holder] at read
      exact read
  sample := by
    intro unset turn
    have idle : started.crawler = none := by
      rw [Option.eq_none_iff_forall_ne_some]
      intro crawler scheduled
      obtain ⟨path, raw, given, _⟩ := (main_eq_ok running).file crawler scheduled
      rw [unset] at given
      cases given
    exact runs.known_sample idle turn

/-! ## Grants from the environment -/

/-- A map from tokens to dataset ids, as it is written. -/
def accessValue (grants : List (String × List String)) : Value :=
  .object (grants.map fun grant => (grant.1, .array (grant.2.map .string)))

/-- What a token may see: what is written last for it, and nothing without a grant. -/
def granted (grants : List (String × List String)) (token : String) : Finset String :=
  ((grants.reverse.lookup token).getD []).toFinset

structure GrantsConfigured (platform : Platform) (env : Environment)
    (grants : List (String × List String)) : Prop where
  mode : ∃ value, env.var "DSP_AUTH_MODE" = some value ∧ eqIgnoreAsciiCase value "bearer" = true
  access : ∃ raw, env.var "DSP_CATALOG_ACCESS" = some raw ∧
    platform.json.tree (utf8 raw) = .ok (accessValue grants)

theorem catalogAccessFromValue_accessValue (grants : List (String × List String)) :
    catalogAccessFromValue (accessValue grants) = some fun token =>
      (grants.reverse.lookup token).map List.toFinset := by
  have entries : (grants.map fun grant => (grant.1, Value.array (grant.2.map .string))).mapM
      (fun member => do
        let ids ← Value.readArray Value.asStr member.2
        return (member.1, ids.toFinset)) =
      some (grants.map fun grant => (grant.1, grant.2.toFinset)) := by
    induction grants with
    | nil => rfl
    | cons grant rest inductionHypothesis =>
        have ids : Value.readArray Value.asStr (.array (grant.2.map .string)) = some grant.2 :=
          Value.readArray_of _ _ _ fun _ _ => rfl
        rw [List.map_cons, List.mapM_cons, inductionHypothesis, ids]
        rfl
  have reversed : ∀ token, (grants.map fun grant => (grant.1, grant.2.toFinset)).reverse.lookup
      token = (grants.reverse.lookup token).map List.toFinset := by
    intro token
    rw [← List.map_reverse, lookup_map_snd]
  rw [accessValue, catalogAccessFromValue, entries]
  exact congrArg some (funext reversed)

def DspAuthConfig.granting (platform : Platform) (grants : List (String × List String)) :
    DspAuthConfig platform where
  mode := .bearer
  catalogAccess token := (grants.reverse.lookup token).map List.toFinset
  dcp := none
  consistent := fun dcp => nomatch dcp

theorem GrantsConfigured.loadDspAuth_eq {env : Environment} {grants : List (String × List String)}
    (configured : GrantsConfigured platform env grants) (key : platform.es256.SigningKey) :
    loadDspAuth platform env key = .ok (.granting platform grants) := by
  obtain ⟨value, given, bearer⟩ := configured.mode
  have mode : loadMode env = .ok .bearer := by simp [loadMode, given, bearer]
  obtain ⟨raw, given, spelled⟩ := configured.access
  have access : loadCatalogAccess platform env =
      .ok fun token => (grants.reverse.lookup token).map List.toFinset := by
    simp only [loadCatalogAccess, given, TextFormat.readSlice, spelled,
      catalogAccessFromValue_accessValue, mapErr]
  simp only [loadDspAuth, mode, access, ok_bind]
  rfl

theorem GrantsConfigured.loaded {env : Environment} {grants : List (String × List String)}
    (configured : GrantsConfigured platform env grants) {key : platform.es256.SigningKey}
    {auth : DspAuthConfig platform} (loaded : loadDspAuth platform env key = .ok auth) :
    auth.mode = .bearer ∧
      ∀ token, (auth.catalogAccess token).getD ∅ = granted grants token := by
  cases (configured.loadDspAuth_eq key).symm.trans loaded
  refine ⟨rfl, ?_⟩
  intro token
  simp only [DspAuthConfig.granting, granted]
  cases grants.reverse.lookup token <;> rfl

structure EnforcesGrants (grants : List (String × List String)) (started : Started platform)
    (run : ServerRun platform) : Prop where
  /-- The datasets in the catalog are those granted to the token, in every listing. -/
  catalog : ∀ turn around token catalogs, Printable token →
    run.events turn = .answer (.catalogRequest (bearerHeaders token)) around →
    (run.view turn).query .all = .ok catalogs →
    ∃ document, Serves (some (granted grants token)) catalogs document ∧
      run.response turn = some (jsonResponse platform 200 document.toValue)
  dataset : ∀ turn around token id catalogs, Printable token →
    run.events turn = .answer (.getDspDataset (bearerHeaders token) id) around →
    (run.view turn).query .all = .ok catalogs →
    ∃ response, LookedUp (some (granted grants token)) catalogs id response ∧
      run.response turn = some (Response.encode platform response)
  anonymous : ∀ turn around headers, bearerToken headers = none →
    (run.events turn = .answer (.catalogRequest headers) around ∨
      ∃ id, run.events turn = .answer (.getDspDataset headers id) around) →
    ∃ response, Refusal response ∧ run.response turn = some (Response.encode platform response)
  /-- Without a crawler a token is shown its part of the sample. -/
  sample : started.crawler = none → ∀ turn token catalogs document,
    (run.view turn).query .all = .ok catalogs →
    Serves (some (granted grants token)) catalogs document →
    document.dataset.map DspDataset.id =
        ["CAT0101", "CAT0102"].filter (fun id => id ∈ granted grants token) ∧
      document.catalog = []

theorem GrantsConfigured.entitled {machine : Machine}
    {verifierKey holderKey : platform.es256.SigningKey} {started : Started platform}
    {grants : List (String × List String)}
    (configured : GrantsConfigured platform machine.toEnvironment grants)
    (running : main machine verifierKey holderKey = .ok started) {run : ServerRun platform}
    (runs : started.Runs run) {token : String} (printable : Printable token)
    (around : Surroundings) :
    Entitled run.auth (bearerHeaders token) around.http around.now around.jti
      (some (granted grants token)) := by
  obtain ⟨mode, access⟩ := configured.loaded (main_eq_ok running).auth
  rw [runs.auth, ← access token]
  apply Entitled.bearer mode
  exact bearerToken_printable printable

theorem map_id_visibleDatasets (allowed : Finset String) (datasets : List Dataset) :
    (visibleDatasets (some allowed) datasets).map Dataset.id =
      (datasets.map Dataset.id).filter fun id => id ∈ allowed := by
  simp only [visibleDatasets_eq_filter, Option.mem_some_iff, forall_eq', List.filter_map]
  rfl

theorem sample_served {allowed : Finset String} {document : DspCatalog}
    (serves : Serves (some allowed) [sampleCatalog] document) :
    document.dataset.map DspDataset.id =
        ["CAT0101", "CAT0102"].filter (fun id => id ∈ allowed) ∧
      document.catalog = [] := by
  cases serves with
  | federation many _ _ _ _ _ _ => simp at many
  | flat _ carries =>
      refine ⟨?_, carries.catalog⟩
      have rendered : document.dataset.map DspDataset.id =
          ([sampleCatalog].flatMap fun catalog =>
            visibleDatasets (some allowed) catalog.datasets).map Dataset.id := by
        refine map_eq_of_forall₂ DspDataset.id Dataset.id ?_ carries.dataset
        rintro dataset _ ⟨_, rfl⟩
        rfl
      rw [rendered, List.flatMap_singleton, map_id_visibleDatasets]
      rfl

/-- Whatever the server crawls, its callers see what `DSP_CATALOG_ACCESS` says. -/
theorem configured_grants_are_enforced {machine : Machine}
    {verifierKey holderKey : platform.es256.SigningKey} {started : Started platform}
    {grants : List (String × List String)}
    (configured : GrantsConfigured platform machine.toEnvironment grants)
    (running : main machine verifierKey holderKey = .ok started) {run : ServerRun platform}
    (runs : started.Runs run) : EnforcesGrants grants started run where
  catalog := by
    intro turn around token catalogs printable event found
    have entitled := configured.entitled running runs printable around
    exact ServerRun.served_catalog entitled found event
  dataset := by
    intro turn around token id catalogs printable event found
    have entitled := configured.entitled running runs printable around
    exact ServerRun.served_dataset entitled found event
  anonymous := by
    intro turn around headers blank asked
    obtain ⟨mode, _⟩ := configured.loaded (main_eq_ok running).auth
    refine ServerRun.served_refusal ?_ asked
    intro allowed entitled
    rw [runs.auth] at entitled
    cases entitled with
    | disabled disabled => cases mode.symm.trans disabled
    | bearer _ presented => cases blank.symm.trans presented
    | dcp dcp _ _ _ => cases mode.symm.trans dcp
  sample := by
    intro idle turn token catalogs document found serves
    obtain ⟨_, known⟩ := runs.known_sample idle turn
    have listed := runs.current.listing found
    rw [known] at listed
    have same : catalogs = [sampleCatalog] :=
      List.perm_singleton.mp (listed.perm (InMemoryCatalogCache.enumerates_holding sampleCatalog))
    rw [same] at serves
    exact sample_served serves

/-- Two entries for Alice, of which the second one counts. -/
def aliceGrants : List (String × List String) := [("alice", []), ("alice", ["CAT0101"])]

def aliceAccess : List Char :=
  [Text.openBrace, ' ', '"', 'a', 'l', 'i', 'c', 'e', '"', ':', ' ', '[', ']', ',', '\n', '"', 'a',
    'l', 'i', 'c', 'e', '"', ':', ' ', '[', ' ', '"', 'C', 'A', 'T', '0', '1', '0', '1', '"', ' ',
    ']', Text.closeBrace, '\n']

def aliceMachine : Machine where
  var name :=
    if name = "DSP_AUTH_MODE" then some "Bearer"
    else if name = "DSP_CATALOG_ACCESS" then some (String.ofList aliceAccess)
    else none
  debug text := "\"" ++ text ++ "\""
  readToString _ := .error "No such file or directory (os error 2)"
  fromToml _ := .error "missing field `interval_secs`"
  bind _ := .ok ()

theorem aliceAccess_tree :
    Platform.reference.json.tree (utf8 (String.ofList aliceAccess)) =
      .ok (accessValue aliceGrants) := by
  have read : Text.read aliceAccess.length aliceAccess =
      some (accessValue aliceGrants, ['\n']) := by
    simp [aliceAccess, accessValue, aliceGrants, Text.read, Text.readMembers, Text.readItems,
      Text.readKey, Text.readChars, Text.skipSpace, Text.isSpace, Text.openBrace, Text.closeBrace]
  have parsed : Platform.reference.json.tree = Text.parse := rfl
  have trailing : Text.skipSpace ['\n'] = [] := by decide
  rw [parsed, Text.parse, fromUtf8_utf8]
  simp only [String.length_ofList, String.toList_ofList, read, trailing, if_true]

theorem aliceMachine_configured :
    GrantsConfigured .reference aliceMachine.toEnvironment aliceGrants where
  mode := ⟨"Bearer", by simp [aliceMachine], by decide +kernel⟩
  access := ⟨String.ofList aliceAccess, by simp [aliceMachine], aliceAccess_tree⟩

def aliceStarted : Started .reference := ⟨defaultAddr, .granting .reference aliceGrants, none⟩

def aliceServer : ServerRun .reference where
  cache := .memory
  auth := .granting .reference aliceGrants
  holder := none
  initial := AtomicCache.memory.holding [sampleCatalog]
  events _ := .answer (.catalogRequest (bearerHeaders "alice"))
    ⟨.offline, 0, "t3", 0, "vp", Nat.repr⟩
  view _ := .holding [sampleCatalog]

theorem aliceServer_state (turn : Nat) :
    aliceServer.state turn = AtomicCache.memory.holding [sampleCatalog] := by
  induction turn with
  | zero => rfl
  | succ turn inductionHypothesis => exact inductionHypothesis

theorem aliceStarted_runs : aliceStarted.Runs aliceServer where
  auth := rfl
  holder := rfl
  seeded := rfl
  scheduled _ _ _ event := nomatch event
  current turn := by
    rw [aliceServer_state]
    rfl

theorem aliceMachine_runs (verifierKey holderKey : Platform.reference.es256.SigningKey) :
    main aliceMachine verifierKey holderKey = .ok aliceStarted := by
  have addr : aliceMachine.var "HTTP_API_ADDR" = none := by simp [aliceMachine]
  have noFile : loadCrawlerConfig aliceMachine = .ok none := by
    simp [loadCrawlerConfig, aliceMachine]
  have bound : aliceMachine.bind defaultAddr = .ok () := rfl
  simp only [main, addr, Option.getD_none, aliceMachine_configured.loadDspAuth_eq, noFile, bound,
    mapErr, ok_bind]
  rfl

theorem alice_sees_her_part : EnforcesGrants aliceGrants aliceStarted aliceServer :=
  configured_grants_are_enforced aliceMachine_configured
    (aliceMachine_runs (Es256.ideal.key 1) (Es256.ideal.key 2)) aliceStarted_runs

def northConfig : ParticipantsConfig where
  intervalSecs := 300
  participants := [participantAt "north", gatedSouth]
  holder := some ⟨"reader.example", false, "credential", "scope"⟩

theorem northConfig_consistent : northConfig.DcpConsistent := by
  rw [← ParticipantsConfig.validate_eq_ok]
  rfl

/-- The file that reads as `northConfig`. -/
def northToml : String :=
  "interval_secs = 300\n\n" ++
  "[[participants]]\n" ++
  "id = \"north\"\n" ++
  "name = \"north\"\n" ++
  "catalog_request_url = \"https://north.example/dsp/catalog/request\"\n\n" ++
  "[[participants]]\n" ++
  "id = \"south\"\n" ++
  "name = \"south\"\n" ++
  "catalog_request_url = \"https://south.example/dsp/catalog/request\"\n" ++
  "requires_dcp = true\n" ++
  "provider_did = \"did:web:south.example\"\n\n" ++
  "[holder]\n" ++
  "own_did_host = \"reader.example\"\n" ++
  "credential_jws = \"credential\"\n" ++
  "required_scope = \"scope\"\n"

/-- A machine with a configuration file, and nothing else set. -/
def northMachine : Machine where
  var name := if name = "CRAWLER_CONFIG_PATH" then some "north.toml" else none
  debug text := "\"" ++ text ++ "\""
  readToString path := if path = "north.toml" then .ok northToml
    else .error "No such file or directory (os error 2)"
  fromToml raw := if raw = northToml then .ok northConfig
    else .error "missing field `interval_secs`"
  bind _ := .ok ()

def northStarted : Started .reference where
  addr := defaultAddr
  auth := ⟨.disabled, fun _ => none, none, fun dcp => nomatch dcp⟩
  crawler := some ⟨⟨northConfig, northConfig_consistent⟩,
    buildHolder northConfig (Es256.ideal.key 2), rfl⟩

theorem northStarted_runs :
    northStarted.Runs (northServer northStarted.auth northStarted.holder) where
  auth := rfl
  holder := rfl
  seeded := rfl
  scheduled := by
    intro turn participant encounter event
    refine ⟨_, rfl, ?_⟩
    cases turn with
    | zero =>
        cases event
        exact List.mem_cons_self
    | succ turn =>
        cases turn with
        | zero =>
            cases event
            exact List.mem_cons_of_mem _ List.mem_cons_self
        | succ turn => cases event
  current := northServer_current _ _

theorem northMachine_loads :
    loadCrawlerConfig northMachine = .ok (some ⟨northConfig, northConfig_consistent⟩) := by
  have given : northMachine.var "CRAWLER_CONFIG_PATH" = some "north.toml" := by
    simp only [northMachine, if_true]
  have loaded : ParticipantsConfig.load northMachine.readToString northMachine.fromToml
      "north.toml" = .ok ⟨northConfig, northConfig_consistent⟩ := by
    apply ParticipantsConfig.load_eq_ok.mpr
    refine ⟨northToml, ?_, ?_⟩
    · simp only [northMachine, if_true]
    · simp only [northMachine, if_true]
  rw [loadCrawlerConfig, given]
  dsimp only
  rw [loaded]

theorem northMachine_starts :
    main northMachine (Es256.ideal.key 1) (Es256.ideal.key 2) = .ok northStarted := by
  have addr : northMachine.var "HTTP_API_ADDR" = none := by simp [northMachine]
  have mode : loadMode northMachine.toEnvironment = .ok .disabled := by
    simp [loadMode, northMachine]
  have access : loadCatalogAccess .reference northMachine.toEnvironment = .ok fun _ => none := by
    simp [loadCatalogAccess, northMachine]
  have auth : loadDspAuth .reference northMachine.toEnvironment (Es256.ideal.key 1) =
      .ok northStarted.auth := by
    simp only [loadDspAuth, mode, access, ok_bind]
    rfl
  have bound : northMachine.bind defaultAddr = .ok () := rfl
  simp only [main, addr, Option.getD_none, auth, northMachine_loads, bound, mapErr, ok_bind]
  rfl

theorem north_is_dependable :
    Dependable northMachine northStarted (northServer northStarted.auth northStarted.holder) :=
  started_crawler_is_dependable northMachine_starts northStarted_runs

end FederatedCatalog.Http
