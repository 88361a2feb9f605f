import FederatedCatalog.Crawler.Recrawl
import FederatedCatalog.Http.DatasetLookup
import FederatedCatalog.Http.Federation
import FederatedCatalog.Http.Routes
import FederatedCatalog.Http.Visibility

/-!
# The whole server

All endpoints of the router over one state, and runs of a server that answers
requests between the visits of its crawler.  Whatever is published at a time
was read from the last good response of a participant.  The DSP endpoints show
a caller its granted part; `GET /catalog` shows everybody everything.
-/

namespace FederatedCatalog.Http

open Foundation Json FederatedCatalog.Core Dcp Store Crawler

variable {platform : Platform}

structure ServerState (platform : Platform) extends AppState platform where
  holder : Option (HolderIdentity platform)

/-- The body of `GET /catalog`. -/
structure CatalogListResponse where
  catalogs : List Catalog

namespace CatalogListResponse

def toValue (response : CatalogListResponse) : Value :=
  .object [("catalogs", .array (response.catalogs.map Catalog.toValue))]

def fromValue (value : Value) : Option CatalogListResponse := do
  let fields ← value.fields ["catalogs"]
  let catalogs ← fields.required "catalogs" (Value.readArray Catalog.fromValue)
  return { catalogs }

theorem fromValue_toValue (response : CatalogListResponse) :
    fromValue response.toValue = some response := by
  have catalogs : Value.readArray Catalog.fromValue
      (.array (response.catalogs.map Catalog.toValue)) = some response.catalogs :=
    Value.readArray_of _ _ _ fun _ _ => Catalog.fromValue_toValue _
  simp [fromValue, toValue, Value.fields, Fields.required, Fields.get, catalogs]

theorem plainWithin_toValue (response : CatalogListResponse) (depth : Nat) :
    response.toValue.PlainWithin (depth + 7) := by
  simp [toValue, Catalog.plainWithin_toValue]

end CatalogListResponse

def jsonResponse (platform : Platform) (status : Nat) (body : Value) : HttpResponse :=
  ⟨status, utf8 (platform.json.print body)⟩

def health (platform : Platform) : HttpResponse :=
  jsonResponse platform 200 (.object [("status", .string "ok")])

def dspaceVersion (platform : Platform) : HttpResponse :=
  jsonResponse platform 200 (.object [("protocolVersions", .array [
    .object [
      ("version", .string "2025-1"),
      ("path", .string "/dsp"),
      ("binding", .string "HTTPS")]])])

/-- `CatalogParams`: the `node_id` of a query string selects one node. -/
def catalogParams : Option String → CatalogQuery
  | some nodeId => .forNode ⟨nodeId⟩
  | none => .all

def getCatalog (platform : Platform) (cache : CacheView) (nodeId : Option String) : HttpResponse :=
  match cache.query (catalogParams nodeId) with
  | .ok catalogs => jsonResponse platform 200 (CatalogListResponse.toValue ⟨catalogs⟩)
  | .error error => jsonResponse platform 500 (Body.error error.display).toValue

structure Surroundings where
  http : Dcp.Http
  now : Seconds
  jti : String
  presentedAt : Seconds
  vpJti : String
  uuids : Nat → String

def holderPresentationQueryRoute (holder : Option (HolderIdentity platform)) (headers : Headers)
    (around : Surroundings) : HttpResponse :=
  match holder with
  | none => ⟨404, []⟩
  | some holder =>
      match bearerToken headers with
      | none => ⟨401, []⟩
      | some token =>
          holder.presentationQueryRoute around.http around.now around.presentedAt around.vpJti token

/-- A request that the router passes on to a handler. -/
inductive Request where
  | health
  | getCatalog (nodeId : Option String)
  | dspaceVersion
  | catalogRequest (headers : Headers)
  | getDspDataset (headers : Headers) (id : String)
  | ownDidDocumentRoute
  | holderDidDocumentRoute
  | holderPresentationQueryRoute (headers : Headers)

def serve (server : ServerState platform) (around : Surroundings) : Request → HttpResponse
  | .health => health platform
  | .getCatalog nodeId => getCatalog platform server.cache nodeId
  | .dspaceVersion => dspaceVersion platform
  | .catalogRequest headers => Response.encode platform
      ((catalogRequest server.toAppState headers around.http around.now around.jti).value
        around.uuids)
  | .getDspDataset headers id => Response.encode platform
      ((getDspDataset server.toAppState headers around.http around.now around.jti id).value
        around.uuids)
  | .ownDidDocumentRoute => ownDidDocumentRoute server.dspAuth
  | .holderDidDocumentRoute => holderDidDocumentRoute server.holder
  | .holderPresentationQueryRoute headers => holderPresentationQueryRoute server.holder headers around

theorem getCatalog_json (cache : CacheView) (nodeId : Option String) {catalogs : List Catalog}
    (found : cache.query (catalogParams nodeId) = .ok catalogs) :
    (getCatalog platform cache nodeId).status = 200 ∧
      (getCatalog platform cache nodeId).json platform CatalogListResponse.fromValue =
        .ok ⟨catalogs⟩ := by
  rw [getCatalog, found]
  refine ⟨rfl, ?_⟩
  simp only [HttpResponse.json, jsonResponse, mapErr_eq_ok]
  exact platform.json.readSlice_print CatalogListResponse.fromValue
    (CatalogListResponse.plainWithin_toValue _ 120) (CatalogListResponse.fromValue_toValue _)

inductive LookedUp (allowed : Option (Finset String)) (catalogs : List Catalog) (id : String)
    (response : Response) : Prop where
  | found {dataset : Dataset}
      (first : (grantedDatasets allowed catalogs).find? (fun dataset => dataset.id = id) =
        some dataset)
      (document : FoundDataset dataset response)
  | missing
      (absent : (grantedDatasets allowed catalogs).find? (fun dataset => dataset.id = id) = none)
      (notFound : NotFound response)

theorem getDspDataset_lookedUp (state : AppState platform) (headers : Headers) (http : Dcp.Http)
    (now : Seconds) (jti id : String) {allowed : Option (Finset String)} {catalogs : List Catalog}
    (entitled : Entitled state.dspAuth headers http now jti allowed)
    (found : state.cache.query .all = .ok catalogs) :
    Supply.Gives (getDspDataset state headers http now jti id) (LookedUp allowed catalogs id) := by
  refine (getDspDataset_entitled state headers http now jti id entitled found).mono ?_
  intro response looked
  cases first : (grantedDatasets allowed catalogs).find? fun dataset => dataset.id = id with
  | some dataset =>
      rw [first] at looked
      exact .found first looked
  | none =>
      rw [first] at looked
      exact .missing first looked

/-! ## A server and its crawler -/

inductive ServerEvent (cache : AtomicCache) where
  | visit (participant : ParticipantEntry) (encounter : Encounter cache)
  | answer (request : Request) (around : Surroundings)

structure ServerRun (platform : Platform) where
  cache : AtomicCache
  auth : DspAuthConfig platform
  holder : Option (HolderIdentity platform)
  initial : cache.State
  events : Nat → ServerEvent cache
  /-- How the cache answers queries at a turn. -/
  view : Nat → CacheView

namespace ServerRun

variable (run : ServerRun platform)

def state : Nat → run.cache.State
  | 0 => run.initial
  | turn + 1 =>
      match run.events turn with
      | .visit participant encounter =>
          (Visit.make run.holder participant encounter (state turn)).2
      | .answer _ _ => state turn

def log : Nat → List (Visit run.cache)
  | 0 => []
  | turn + 1 =>
      match run.events turn with
      | .visit participant encounter =>
          log turn ++ [(Visit.make run.holder participant encounter (run.state turn)).1]
      | .answer _ _ => log turn

/-- The last good catalog of each node, from before the run if it has none in it. -/
def known (turn : Nat) : CatalogMap := fun node =>
  (lastGood (run.log turn) node).or (run.cache.content run.initial node)

def response (turn : Nat) : Option HttpResponse :=
  match run.events turn with
  | .visit _ _ => none
  | .answer request around =>
      some (serve ⟨⟨run.view turn, run.auth⟩, run.holder⟩ around request)

def Current : Prop := ∀ turn, (run.view turn).content = run.cache.content (run.state turn)

theorem content_state (turn : Nat) : run.cache.content (run.state turn) = run.known turn := by
  induction turn with
  | zero => rfl
  | succ turn inductionHypothesis =>
      funext node
      cases event : run.events turn with
      | answer request around =>
          simp only [state, known, log, event]
          exact congrFun inductionHypothesis node
      | visit participant encounter =>
          simp only [state, known, log, event]
          rw [content_make, inductionHypothesis, known, lastGood_append, Option.or_assoc]

structure Publishes : Prop where
  origin : ∀ turn node catalog, run.known turn node = some catalog →
    run.cache.content run.initial node = some catalog ∨
      ∃ visit ∈ run.log turn, visit.participant.id = node.value ∧ visit.Read run.holder catalog
  /-- `GET /catalog` gives everybody all known catalogs in full, whatever the auth mode. -/
  everything : ∀ turn around catalogs,
    run.events turn = .answer (.getCatalog none) around →
    (run.view turn).query .all = .ok catalogs →
    Enumerates Catalog.originNode (run.known turn) catalogs ∧
      ∃ response, run.response turn = some response ∧ response.status = 200 ∧
        response.json platform CatalogListResponse.fromValue = .ok ⟨catalogs⟩
  oneNode : ∀ turn around nodeId found,
    run.events turn = .answer (.getCatalog (some nodeId)) around →
    (run.view turn).query (.forNode ⟨nodeId⟩) = .ok found →
    ∃ response, run.response turn = some response ∧ response.status = 200 ∧
      response.json platform CatalogListResponse.fromValue =
        .ok ⟨(run.known turn ⟨nodeId⟩).toList⟩
  granted : ∀ turn around headers allowed catalogs,
    Entitled run.auth headers around.http around.now around.jti allowed →
    (run.view turn).query .all = .ok catalogs →
    Enumerates Catalog.originNode (run.known turn) catalogs ∧
    (run.events turn = .answer (.catalogRequest headers) around →
      ∃ document, Serves allowed catalogs document ∧
        run.response turn = some (jsonResponse platform 200 document.toValue)) ∧
    (∀ id, run.events turn = .answer (.getDspDataset headers id) around →
      ∃ response, LookedUp allowed catalogs id response ∧
        run.response turn = some (Response.encode platform response))
  refused : ∀ turn around headers,
    (∀ allowed, ¬Entitled run.auth headers around.http around.now around.jti allowed) →
    (run.events turn = .answer (.catalogRequest headers) around ∨
      ∃ id, run.events turn = .answer (.getDspDataset headers id) around) →
    ∃ response, Refusal response ∧ run.response turn = some (Response.encode platform response)

variable {run}

theorem made_of_log {turn : Nat} {visit : Visit run.cache} (listed : visit ∈ run.log turn) :
    ∃ earlier participant encounter, run.events earlier = .visit participant encounter ∧
      visit = (Visit.make run.holder participant encounter (run.state earlier)).1 := by
  induction turn with
  | zero => cases listed
  | succ turn inductionHypothesis =>
      cases event : run.events turn with
      | answer request around =>
          simp only [log, event] at listed
          exact inductionHypothesis listed
      | visit participant encounter =>
          simp only [log, event, List.mem_append, List.mem_singleton] at listed
          rcases listed with before | rfl
          · exact inductionHypothesis before
          · exact ⟨turn, participant, encounter, event, rfl⟩

theorem log_faithful {turn : Nat} {visit : Visit run.cache} (listed : visit ∈ run.log turn) :
    visit.Faithful run.holder := by
  obtain ⟨earlier, participant, encounter, _, rfl⟩ := made_of_log listed
  exact Visit.make_faithful run.holder participant encounter (run.state earlier)

theorem known_origin {turn : Nat} {node : NodeId} {catalog : Catalog}
    (known : run.known turn node = some catalog) :
    run.cache.content run.initial node = some catalog ∨
      ∃ visit ∈ run.log turn, visit.participant.id = node.value ∧
        visit.Read run.holder catalog := by
  unfold ServerRun.known at known
  cases good : lastGood (run.log turn) node with
  | none =>
      rw [good, Option.none_or] at known
      exact .inl known
  | some other =>
      rw [good, Option.some_or] at known
      cases known
      obtain ⟨visit, listed, named, result⟩ := good_of_lastGood good
      exact .inr ⟨visit, listed, named, (log_faithful listed).read catalog result⟩

theorem response_answer {turn : Nat} {request : Request} {around : Surroundings}
    (event : run.events turn = .answer request around) :
    run.response turn =
      some (serve ⟨⟨run.view turn, run.auth⟩, run.holder⟩ around request) := by
  rw [response, event]

theorem Current.listing (current : run.Current) {turn : Nat} {catalogs : List Catalog}
    (found : (run.view turn).query .all = .ok catalogs) :
    Enumerates Catalog.originNode (run.known turn) catalogs := by
  rw [← run.content_state, ← current turn]
  exact ((run.view turn).listing found).1

theorem Current.node (current : run.Current) {turn : Nat} {node : NodeId} {found : List Catalog}
    (answered : (run.view turn).query (.forNode node) = .ok found) :
    found = (run.known turn node).toList := by
  have answers := (run.view turn).answers (.forNode node) found answered
  rw [current turn, run.content_state] at answers
  exact Except.ok.inj (Outcome.found.inj answers)

section Callers

variable {turn : Nat} {around : Surroundings} {headers : Headers}

theorem served_catalog {allowed : Option (Finset String)} {catalogs : List Catalog}
    (entitled : Entitled run.auth headers around.http around.now around.jti allowed)
    (found : (run.view turn).query .all = .ok catalogs)
    (event : run.events turn = .answer (.catalogRequest headers) around) :
    ∃ document, Serves allowed catalogs document ∧
      run.response turn = some (jsonResponse platform 200 document.toValue) := by
  have served := catalogRequest_served ⟨run.view turn, run.auth⟩ headers around.http around.now
    around.jti entitled found around.uuids
  obtain ⟨document, same, serves⟩ := served
  refine ⟨document, serves, ?_⟩
  rw [response_answer event, serve, same]
  rfl

theorem served_dataset {allowed : Option (Finset String)} {catalogs : List Catalog} {id : String}
    (entitled : Entitled run.auth headers around.http around.now around.jti allowed)
    (found : (run.view turn).query .all = .ok catalogs)
    (event : run.events turn = .answer (.getDspDataset headers id) around) :
    ∃ response, LookedUp allowed catalogs id response ∧
      run.response turn = some (Response.encode platform response) := by
  have looked := getDspDataset_lookedUp ⟨run.view turn, run.auth⟩ headers around.http around.now
    around.jti id entitled found around.uuids
  exact ⟨_, looked, response_answer event⟩

theorem served_refusal
    (unknown : ∀ allowed, ¬Entitled run.auth headers around.http around.now around.jti allowed)
    (asked : run.events turn = .answer (.catalogRequest headers) around ∨
      ∃ id, run.events turn = .answer (.getDspDataset headers id) around) :
    ∃ response, Refusal response ∧
      run.response turn = some (Response.encode platform response) := by
  rcases asked with event | ⟨id, event⟩
  · have refusal := catalogRequest_refused ⟨run.view turn, run.auth⟩ headers around.http
      around.now around.jti unknown around.uuids
    exact ⟨_, refusal, response_answer event⟩
  · have refusal := getDspDataset_refused ⟨run.view turn, run.auth⟩ headers around.http
      around.now around.jti id unknown around.uuids
    exact ⟨_, refusal, response_answer event⟩

end Callers

/-- At every turn of every run, a server publishes the last good catalogs. -/
theorem server_publishes_last_good (current : run.Current) : run.Publishes where
  origin _ _ _ := known_origin
  everything := by
    intro turn around catalogs event found
    have ⟨status, read⟩ := @getCatalog_json platform (run.view turn) none catalogs found
    exact ⟨current.listing found, _, response_answer event, status, read⟩
  oneNode := by
    intro turn around nodeId found event answered
    have ⟨status, read⟩ := @getCatalog_json platform (run.view turn) (some nodeId) found
      answered
    rw [current.node answered] at read
    exact ⟨_, response_answer event, status, read⟩
  granted := by
    intro turn around headers allowed catalogs entitled found
    refine ⟨current.listing found, served_catalog entitled found, ?_⟩
    intro id event
    exact served_dataset entitled found event
  refused _ _ _ := served_refusal

end ServerRun

def gatedSouth : ParticipantEntry :=
  { participantAt "south" with requiresDcp := true, providerDid := some "did:web:south.example" }

def refusing : CrawlWorld := postsAnswered (.ok ⟨401, []⟩)

theorem refusing_crawled (participant : ParticipantEntry)
    (holder : Option (HolderIdentity .reference)) :
    ∃ error, crawlOne refusing participant holder = .error error := by
  apply error_of_never_ok
  intro catalog fetched
  obtain ⟨header, response, body, _, answered, success, _⟩ := crawlOne_from fetched
  cases answered
  cases success

/-- Everybody asks for the list, Alice for her part, and somebody for a dataset. -/
def requestAt : Nat → Request
  | 0 => .getCatalog none
  | 1 => .catalogRequest (bearerHeaders "alice")
  | _ + 2 => .getDspDataset ⟨none⟩ "ice"

/-- The visit to `north` succeeds, and the one to `south` is refused. -/
def northServer (auth : DspAuthConfig .reference) (holder : Option (HolderIdentity .reference)) :
    ServerRun .reference where
  cache := .memory
  auth := auth
  holder := holder
  initial := AtomicCache.memory.holding []
  events
    | 0 => .visit (participantAt "north") (postsAnswered iceAnswer).inMemory
    | 1 => .visit gatedSouth refusing.inMemory
    | turn + 2 => .answer (requestAt turn) ⟨.offline, 0, "t3", 0, "vp", Nat.repr⟩
  view
    | 0 => .holding []
    | _ + 1 => .holding [northEntry]

variable (auth : DspAuthConfig .reference) (holder : Option (HolderIdentity .reference))

theorem northServer_visited :
    (northServer auth holder).state 1 = AtomicCache.memory.holding [northEntry] := by
  have next : (northServer auth holder).state 1 = (Visit.make holder (participantAt "north")
    (postsAnswered iceAnswer).inMemory (AtomicCache.memory.holding [])).2 := rfl
  rw [next, Visit.make_inMemory holder (participantAt "north") north_fetched []]
  rfl

theorem northServer_state (turn : Nat) :
    (northServer auth holder).state (turn + 1) = AtomicCache.memory.holding [northEntry] := by
  induction turn with
  | zero => exact northServer_visited auth holder
  | succ turn inductionHypothesis =>
      cases turn with
      | zero =>
          obtain ⟨error, failed⟩ := refusing_crawled gatedSouth holder
          have next : (northServer auth holder).state 2 = (Visit.make holder gatedSouth
            refusing.inMemory ((northServer auth holder).state 1)).2 := rfl
          rw [next, northServer_visited,
            Visit.make_failed holder gatedSouth refusing.inMemory _ failed]
      | succ turn => exact inductionHypothesis

theorem northServer_current : (northServer auth holder).Current := by
  intro turn
  cases turn with
  | zero => rfl
  | succ turn =>
      rw [northServer_state]
      rfl

theorem north_is_published : (northServer (oneGrant "alice" "ice") none).Publishes :=
  ServerRun.server_publishes_last_good (northServer_current _ _)

end FederatedCatalog.Http
