import FederatedCatalog.Http.DatasetLookup
import FederatedCatalog.Http.Federation
import FederatedCatalog.Http.ServiceRoundTrip

/-!
# The documents as a format

The derived readers of the wire types give back what was written, however
deeply the catalogs are nested.  The crawler's tolerant reader takes the same
from every document that these strict readers accept.
-/

namespace FederatedCatalog.Http

open Foundation Json FederatedCatalog.Core Dcp Store Crawler

/-! ## The derived readers -/

def DspPermission.fromValue (value : Value) : Option DspPermission := do
  let fields ← value.fields ["@type", "action"]
  let ldType ← fields.required "@type" Value.asStr
  let action ← fields.required "action" Value.asStr
  return { ldType, action }

def DspOffer.fromValue (value : Value) : Option DspOffer := do
  let fields ← value.fields ["@id", "@type", "permission"]
  let id ← fields.required "@id" Value.asStr
  let ldType ← fields.required "@type" Value.asStr
  let permission ← fields.required "permission" (Value.readArray DspPermission.fromValue)
  return { id, ldType, permission }

def DspDistribution.fromValue (value : Value) : Option DspDistribution := do
  let fields ← value.fields ["@type", "format", "accessService"]
  let ldType ← fields.required "@type" Value.asStr
  let format ← fields.required "format" Value.asStr
  let accessService ← fields.required "accessService" Value.asStr
  return { ldType, format, accessService }

def readContext : Value → Option (List String) := Value.readArray Value.asStr

def DspDataset.fieldNames : List String :=
  ["@context", "@id", "@type", "hasPolicy", "distribution"]

def DspDataset.fromValue (value : Value) : Option DspDataset := do
  let fields ← value.fields DspDataset.fieldNames
  let context ← fields.optional "@context" readContext
  let id ← fields.required "@id" Value.asStr
  let ldType ← fields.required "@type" Value.asStr
  let hasPolicy ← fields.required "hasPolicy" (Value.readArray DspOffer.fromValue)
  let distribution ← fields.required "distribution" (Value.readArray DspDistribution.fromValue)
  return { context, id, ldType, hasPolicy, distribution }

def DspDataService.fromValue (value : Value) : Option DspDataService := do
  let fields ← value.fields ["@id", "@type", "endpointURL"]
  let id ← fields.required "@id" Value.asStr
  let ldType ← fields.required "@type" Value.asStr
  let endpointUrl ← fields.required "endpointURL" Value.asStr
  return { id, ldType, endpointUrl }

def DspCatalogError.fromValue (value : Value) : Option DspCatalogError := do
  let fields ← value.fields ["@context", "@id", "@type", "code"]
  let context ← fields.required "@context" readContext
  let id ← fields.required "@id" Value.asStr
  let ldType ← fields.required "@type" Value.asStr
  let code ← fields.required "code" Value.asStr
  return { context, id, ldType, code }

def DspCatalog.fieldNames : List String :=
  ["@context", "@id", "@type", "participantId", "dataset", "service", "catalog"]

/-- All fields but the nested catalogs. -/
def DspCatalog.ofFields (fields : Fields) (catalog : List DspCatalog) : Option DspCatalog := do
  let context ← fields.required "@context" readContext
  let id ← fields.required "@id" Value.asStr
  let ldType ← fields.required "@type" Value.asStr
  let participantId ← fields.required "participantId" Value.asStr
  let dataset ← fields.required "dataset" (Value.readArray DspDataset.fromValue)
  let service ← fields.required "service" (Value.readArray DspDataService.fromValue)
  return { context, id, ldType, participantId, dataset, service, catalog }

mutual

def DspCatalog.fromValue : Value → Option DspCatalog
  | .object members => do
      let fields ← (Value.object members).fields DspCatalog.fieldNames
      DspCatalog.ofFields fields (← DspCatalog.nestedIn members)
  | .array items => do
      let fields ← (Value.array items).fields DspCatalog.fieldNames
      DspCatalog.ofFields fields (← DspCatalog.nestedAt DspCatalog.fieldNames items)
  | _ => none

/-- The member named `catalog`, which may be absent. -/
def DspCatalog.nestedIn : List (String × Value) → Option (List DspCatalog)
  | [] => some []
  | member :: rest =>
      if member.1 = "catalog" then DspCatalog.nestedMember member else DspCatalog.nestedIn rest

def DspCatalog.nestedMember : String × Value → Option (List DspCatalog)
  | (_, value) => DspCatalog.fromArray value

/-- The item in the place of `catalog`, which may be absent. -/
def DspCatalog.nestedAt : List String → List Value → Option (List DspCatalog)
  | name :: names, value :: rest =>
      if name = "catalog" then DspCatalog.fromArray value else DspCatalog.nestedAt names rest
  | _, _ => some []

def DspCatalog.fromArray : Value → Option (List DspCatalog)
  | .array items => DspCatalog.fromValues items
  | _ => none

def DspCatalog.fromValues : List Value → Option (List DspCatalog)
  | [] => some []
  | value :: rest => do
      let nested ← DspCatalog.fromValue value
      let others ← DspCatalog.fromValues rest
      return nested :: others

end

namespace DspCatalog

theorem fromValues_eq (values : List Value) : fromValues values = values.mapM fromValue := by
  induction values with
  | nil => rfl
  | cons value rest inductionHypothesis =>
      rw [fromValues, inductionHypothesis, List.mapM_cons]

theorem fromArray_eq (value : Value) : fromArray value = Value.readArray fromValue value := by
  cases value with
  | array items => exact fromValues_eq items
  | _ => rfl

theorem defaulted_cons (named : Bool) (key : String) (value : Value)
    (rest : List (String × Value)) :
    (Fields.mk named ((key, value) :: rest)).defaulted "catalog" [] (Value.readArray fromValue) =
      if key = "catalog" then fromArray value
      else (Fields.mk named rest).defaulted "catalog" [] (Value.readArray fromValue) := by
  unfold Fields.defaulted Fields.get
  rw [List.lookup_cons]
  by_cases own : key = "catalog"
  · rw [if_pos own, own, beq_self_eq_true, fromArray_eq]
  · have other : ("catalog" == key) = false := by simpa using Ne.symm own
    rw [if_neg own, other]

theorem nestedIn_eq (members : List (String × Value)) :
    nestedIn members =
      (Fields.mk true members).defaulted "catalog" [] (Value.readArray fromValue) := by
  induction members with
  | nil => rfl
  | cons member rest inductionHypothesis =>
      rcases member with ⟨key, value⟩
      rw [nestedIn, nestedMember, inductionHypothesis, defaulted_cons]

theorem nestedAt_eq (names : List String) (items : List Value) :
    nestedAt names items =
      (Fields.mk false (names.zip items)).defaulted "catalog" [] (Value.readArray fromValue) := by
  induction names generalizing items with
  | nil => cases items <;> rfl
  | cons name names inductionHypothesis =>
      cases items with
      | nil => rfl
      | cons value rest =>
          rw [nestedAt, inductionHypothesis, List.zip_cons_cons, defaulted_cons]

theorem fromValue_eq (value : Value) :
    fromValue value = (value.fields fieldNames).bind fun fields =>
      (fields.defaulted "catalog" [] (Value.readArray fromValue)).bind (ofFields fields) := by
  cases value with
  | object members =>
      rw [fromValue, nestedIn_eq]
      cases split : (Value.object members).fields fieldNames with
      | none => rfl
      | some fields =>
          obtain rfl := Value.eq_of_fields_object split
          rfl
  | array items =>
      rw [fromValue, nestedAt_eq]
      cases split : (Value.array items).fields fieldNames with
      | none => rfl
      | some fields =>
          obtain rfl := Value.eq_of_fields_array split
          rfl
  | null | bool value | number numeral | string text => rfl

theorem fromValue_eq_some {value : Value} {document : DspCatalog} :
    fromValue value = some document ↔ ∃ fields, value.fields fieldNames = some fields ∧
      fields.required "@context" readContext = some document.context ∧
      fields.required "@id" Value.asStr = some document.id ∧
      fields.required "@type" Value.asStr = some document.ldType ∧
      fields.required "participantId" Value.asStr = some document.participantId ∧
      fields.required "dataset" (Value.readArray DspDataset.fromValue) = some document.dataset ∧
      fields.required "service" (Value.readArray DspDataService.fromValue) =
        some document.service ∧
      fields.defaulted "catalog" [] (Value.readArray fromValue) = some document.catalog := by
  rcases document with ⟨context, id, ldType, participantId, dataset, service, catalog⟩
  rw [fromValue_eq, Option.bind_eq_some_iff]
  apply exists_congr
  intro fields
  apply and_congr_right
  intro _
  simp only [ofFields, Option.bind_eq_bind, Option.bind_eq_some_iff, Option.pure_def,
    Option.some.injEq, DspCatalog.mk.injEq]
  constructor
  · rintro ⟨_, seventh, _, first, _, second, _, third, _, fourth, _, fifth, _, sixth, rfl, rfl,
      rfl, rfl, rfl, rfl, rfl⟩
    exact ⟨first, second, third, fourth, fifth, sixth, seventh⟩
  · rintro ⟨first, second, third, fourth, fifth, sixth, seventh⟩
    exact ⟨_, seventh, _, first, _, second, _, third, _, fourth, _, fifth, _, sixth, rfl, rfl,
      rfl, rfl, rfl, rfl, rfl⟩

end DspCatalog

/-! ## Reading what was written -/

@[simp]
theorem DspPermission.fromValue_toValue (permission : DspPermission) :
    DspPermission.fromValue permission.toValue = some permission := by
  have fields : permission.toValue.fields ["@type", "action"] = some ⟨true, _⟩ :=
    Value.fields_object (by simp)
  simp [fromValue, fields, Fields.required, Fields.get, List.lookup_cons]

@[simp]
theorem DspOffer.fromValue_toValue (offer : DspOffer) :
    DspOffer.fromValue offer.toValue = some offer := by
  have permissions : Value.readArray DspPermission.fromValue
      (.array (offer.permission.map DspPermission.toValue)) = some offer.permission :=
    Value.readArray_of _ _ _ fun permission _ => permission.fromValue_toValue
  have fields : offer.toValue.fields ["@id", "@type", "permission"] = some ⟨true, _⟩ :=
    Value.fields_object (by simp)
  simp [fromValue, fields, Fields.required, Fields.get, List.lookup_cons, permissions]

@[simp]
theorem DspDistribution.fromValue_toValue (distribution : DspDistribution) :
    DspDistribution.fromValue distribution.toValue = some distribution := by
  have fields : distribution.toValue.fields ["@type", "format", "accessService"] =
      some ⟨true, _⟩ := Value.fields_object (by simp)
  simp [fromValue, fields, Fields.required, Fields.get, List.lookup_cons]

theorem readContext_of (context : List String) :
    readContext (.array (context.map .string)) = some context :=
  Value.readArray_of _ _ _ fun _ _ => rfl

@[simp]
theorem DspDataset.fromValue_toValue (dataset : DspDataset) :
    DspDataset.fromValue dataset.toValue = some dataset := by
  rcases dataset with ⟨context, id, ldType, hasPolicy, distribution⟩
  have offers : Value.readArray DspOffer.fromValue (.array (hasPolicy.map DspOffer.toValue)) =
      some hasPolicy := Value.readArray_of _ _ _ fun offer _ => offer.fromValue_toValue
  have distributions : Value.readArray DspDistribution.fromValue
      (.array (distribution.map DspDistribution.toValue)) = some distribution :=
    Value.readArray_of _ _ _ fun distribution _ => distribution.fromValue_toValue
  cases context with
  | none =>
      have fields : (toValue ⟨none, id, ldType, hasPolicy, distribution⟩).fields fieldNames =
          some ⟨true, _⟩ := Value.fields_object (by simp)
      simp [fromValue, fields, Fields.required, Fields.optional, Fields.get, List.lookup_cons,
        offers, distributions]
  | some context =>
      have fields : (toValue ⟨some context, id, ldType, hasPolicy, distribution⟩).fields
          fieldNames = some ⟨true, _⟩ := Value.fields_object (by simp [contextMember])
      have read : Value.readOptional readContext (.array (context.map .string)) =
          some (some context) := by simp [Value.readOptional, readContext_of]
      simp [fromValue, fields, contextMember, Fields.required, Fields.optional, Fields.get,
        List.lookup_cons, offers, distributions, read]

@[simp]
theorem DspDataService.fromValue_toValue (service : DspDataService) :
    DspDataService.fromValue service.toValue = some service := by
  have fields : service.toValue.fields ["@id", "@type", "endpointURL"] = some ⟨true, _⟩ :=
    Value.fields_object (by simp)
  simp [fromValue, fields, Fields.required, Fields.get, List.lookup_cons]

@[simp]
theorem DspCatalogError.fromValue_toValue (error : DspCatalogError) :
    DspCatalogError.fromValue error.toValue = some error := by
  have fields : error.toValue.fields ["@context", "@id", "@type", "code"] = some ⟨true, _⟩ :=
    Value.fields_object (by simp [contextMember])
  simp [fromValue, fields, contextMember, Fields.required, Fields.get, List.lookup_cons,
    readContext_of]

namespace DspCatalog

mutual

def height : DspCatalog → Nat
  | ⟨_, _, _, _, _, _, catalog⟩ => heightAll catalog

def heightAll : List DspCatalog → Nat
  | [] => 0
  | nested :: rest => max (nested.height + 1) (heightAll rest)

end

theorem height_lt {document entry : DspCatalog} (nested : entry ∈ document.catalog) :
    entry.height < document.height := by
  have all : ∀ catalogs : List DspCatalog, entry ∈ catalogs → entry.height < heightAll catalogs := by
    intro catalogs
    induction catalogs with
    | nil => exact fun none => nomatch none
    | cons first rest inductionHypothesis =>
        intro listed
        rw [heightAll]
        rcases List.mem_cons.mp listed with rfl | later
        · omega
        · have below := inductionHypothesis later
          omega
  rcases document with ⟨context, id, ldType, participantId, dataset, service, catalog⟩
  exact all catalog nested

theorem nestedInduction {property : DspCatalog → Prop}
    (inherits : ∀ document : DspCatalog, (∀ entry ∈ document.catalog, property entry) →
      property document) (document : DspCatalog) : property document := by
  have bounded : ∀ bound, ∀ document : DspCatalog, document.height < bound → property document := by
    intro bound
    induction bound with
    | zero => exact fun _ below => absurd below (Nat.not_lt_zero _)
    | succ bound inductionHypothesis =>
        intro document below
        apply inherits
        intro entry nested
        exact inductionHypothesis entry (by have := height_lt nested; omega)
  exact bounded _ document (Nat.lt_succ_self _)

/-- However deeply nested, a document reads back. -/
theorem fromValue_toValue (document : DspCatalog) : fromValue document.toValue = some document := by
  induction document using nestedInduction with
  | inherits document inductionHypothesis =>
      rcases document with ⟨context, id, ldType, participantId, dataset, service, catalog⟩
      have datasets : Value.readArray DspDataset.fromValue
          (.array (dataset.map DspDataset.toValue)) = some dataset :=
        Value.readArray_of _ _ _ fun dataset _ => dataset.fromValue_toValue
      have services : Value.readArray DspDataService.fromValue
          (.array (service.map DspDataService.toValue)) = some service :=
        Value.readArray_of _ _ _ fun service _ => service.fromValue_toValue
      have entries : Value.readArray fromValue (.array (catalog.map toValue)) = some catalog :=
        Value.readArray_of _ _ _ inductionHypothesis
      rw [fromValue_eq_some]
      cases catalog with
      | nil =>
          refine ⟨⟨true, _⟩, Value.fields_object (by simp [contextMember]), ?_⟩
          simp [contextMember, Fields.required, Fields.defaulted, Fields.get, List.lookup_cons,
            readContext_of, datasets, services]
      | cons first rest =>
          rw [← toValues_eq] at entries
          refine ⟨⟨true, _⟩, Value.fields_object (by simp [contextMember]), ?_⟩
          simp [contextMember, Fields.required, Fields.defaulted, Fields.get, List.lookup_cons,
            readContext_of, datasets, services, entries]

end DspCatalog

theorem DspOffer.plainWithin_toValue (offer : DspOffer) (depth : Nat) :
    offer.toValue.PlainWithin (depth + 3) := by
  simp [toValue, DspPermission.toValue]

theorem DspDataset.plainWithin (dataset : DspDataset) (depth : Nat) :
    dataset.toValue.PlainWithin (depth + 5) := by
  rcases dataset with ⟨context, id, ldType, hasPolicy, distribution⟩
  cases context <;>
    simp [toValue, contextMember, DspOffer.plainWithin_toValue, DspDistribution.toValue]

theorem DspCatalog.plainWithin_height (document : DspCatalog) (spare : Nat) :
    document.toValue.PlainWithin (2 * document.height + 7 + spare) := by
  induction document using DspCatalog.nestedInduction generalizing spare with
  | inherits document inductionHypothesis =>
      have depth : 2 * document.height + 7 + spare = (2 * document.height + 4 + spare) + 3 := by
        omega
      rw [depth]
      apply document.plainWithin_toValue
      · intro dataset _
        have plain := dataset.plainWithin (2 * document.height + spare)
        rwa [show 2 * document.height + spare + 5 = 2 * document.height + 4 + spare + 1 by omega]
          at plain
      · intro entry nested
        have below := DspCatalog.height_lt nested
        have plain := inductionHypothesis entry nested
          (2 * (document.height - entry.height - 1) + spare)
        rwa [show 2 * entry.height + 7 + (2 * (document.height - entry.height - 1) + spare) =
          2 * document.height + 4 + spare + 1 by omega] at plain

def Body.height : Body → Nat
  | .catalog document => document.height
  | .dataset _ => 0
  | .catalogError _ => 0
  | .error _ => 0

def Body.ReadsBack (platform : Platform) (body : Body) : Prop :=
  let text := utf8 (platform.json.print body.toValue)
  match body with
  | .catalog document => platform.json.readSlice DspCatalog.fromValue text = .ok document
  | .dataset document => platform.json.readSlice DspDataset.fromValue text = .ok document
  | .catalogError problem => platform.json.readSlice DspCatalogError.fromValue text = .ok problem
  | .error message => platform.json.fromSlice text = .ok (.object [("error", .string message)])

theorem DspCatalogError.plainWithin_toValue (error : DspCatalogError) (depth : Nat) :
    error.toValue.PlainWithin (depth + 2) := by
  simp [toValue, contextMember]

/-- The reader's recursion limit leaves room for sixty levels of catalogs. -/
theorem Body.readsBack (platform : Platform) (body : Body) (shallow : body.height ≤ 60) :
    body.ReadsBack platform := by
  cases body with
  | catalog document =>
      have plain := document.plainWithin_height (120 - 2 * document.height)
      have limit : 2 * document.height + 7 + (120 - 2 * document.height) = 127 := by
        rw [Body.height] at shallow
        omega
      rw [limit] at plain
      exact platform.json.readSlice_print _ plain document.fromValue_toValue
  | dataset document =>
      exact platform.json.readSlice_print _ (document.plainWithin 122) document.fromValue_toValue
  | catalogError problem =>
      exact platform.json.readSlice_print _ (problem.plainWithin_toValue 125)
        problem.fromValue_toValue
  | error message =>
      exact platform.json.fromSlice_print _ (by simp [Body.toValue])

theorem Carries.height {participantId : String} {datasets : List Dataset}
    {services : List DataService} {document : DspCatalog}
    (carries : Carries participantId datasets services document) : document.height = 0 := by
  rcases document with ⟨context, id, ldType, attributed, dataset, service, catalog⟩
  have flat : catalog = [] := carries.catalog
  rw [flat]
  rfl

theorem Serves.height {allowed : Option (Finset String)} {catalogs : List Catalog}
    {document : DspCatalog} (serves : Serves allowed catalogs document) : document.height ≤ 1 := by
  cases serves with
  | flat _ carries => exact carries.height ▸ Nat.zero_le 1
  | federation _ _ _ _ _ _ entries =>
      have all : ∀ catalogs : List Catalog, ∀ nested : List DspCatalog,
          List.Forall₂ (CarriesEntry allowed) catalogs nested →
          DspCatalog.heightAll nested ≤ 1 := by
        intro catalogs nested carried
        induction carried with
        | nil => exact Nat.zero_le 1
        | cons carries _ inductionHypothesis =>
            rw [DspCatalog.heightAll, Carries.height carries]
            omega
      rcases document with ⟨context, id, ldType, participantId, dataset, service, catalog⟩
      exact all _ catalog entries

section Endpoints

variable {platform : Platform} (state : AppState platform) (headers : Headers) (http : Dcp.Http)
  (now : Seconds) (jti : String)

theorem catalogRequest_height :
    Supply.Gives (catalogRequest state headers http now jti) fun response =>
      response.body.height ≤ 1 := by
  rcases authorize_cases state.dspAuth headers http now jti with
    ⟨allowed, entitled, _⟩ | ⟨refused, _⟩
  · cases found : state.cache.query .all with
    | error error =>
        rw [catalogRequest_unavailable state headers http now jti entitled found]
        exact Supply.gives_pure (Nat.zero_le 1)
    | ok catalogs =>
        refine (catalogRequest_served state headers http now jti entitled found).mono ?_
        rintro response ⟨document, rfl, serves⟩
        exact serves.height
  · refine (catalogRequest_refused state headers http now jti refused).mono ?_
    rintro response ⟨id, rfl⟩
    exact Nat.zero_le 1

theorem getDspDataset_height (id : String) :
    Supply.Gives (getDspDataset state headers http now jti id) fun response =>
      response.body.height = 0 := by
  rcases authorize_cases state.dspAuth headers http now jti with
    ⟨allowed, entitled, _⟩ | ⟨refused, _⟩
  · cases found : state.cache.query .all with
    | error error =>
        have failed : getDspDataset state headers http now jti id =
            pure ⟨500, .error error.display⟩ := by
          unfold getDspDataset
          rw [entitled.authorize_eq, pure_bind]
          simp only [flattenCache, found, Except.map]
        rw [failed]
        exact Supply.gives_pure rfl
    | ok catalogs =>
        refine (getDspDataset_entitled state headers http now jti id entitled found).mono ?_
        intro response looked
        cases first : (grantedDatasets allowed catalogs).find? fun dataset => dataset.id = id with
        | some dataset =>
            rw [first] at looked
            obtain ⟨document, rfl, _⟩ := looked
            rfl
        | none =>
            rw [first] at looked
            obtain ⟨fresh, rfl⟩ := looked
            rfl
  · refine (getDspDataset_refused state headers http now jti id refused).mono ?_
    rintro response ⟨fresh, rfl⟩
    rfl

end Endpoints

structure DocumentsReadBack (platform : Platform) : Prop where
  values : ∀ document : DspCatalog, DspCatalog.fromValue document.toValue = some document
  texts : ∀ body : Body, body.height ≤ 60 → body.ReadsBack platform
  /-- Whatever the endpoints answer, in every state and to everybody. -/
  catalog : ∀ (state : AppState platform) headers http now jti,
    Supply.Gives (catalogRequest state headers http now jti) fun response =>
      response.body.height ≤ 1 ∧ response.body.ReadsBack platform
  dataset : ∀ (state : AppState platform) headers http now jti id,
    Supply.Gives (getDspDataset state headers http now jti id) fun response =>
      response.body.height = 0 ∧ response.body.ReadsBack platform

theorem documents_read_back (platform : Platform) : DocumentsReadBack platform where
  values := DspCatalog.fromValue_toValue
  texts := Body.readsBack platform
  catalog := by
    intro state headers http now jti
    refine (catalogRequest_height state headers http now jti).mono ?_
    intro response shallow
    exact ⟨shallow, response.body.readsBack platform (shallow.trans (by decide))⟩
  dataset := by
    intro state headers http now jti id
    refine (getDspDataset_height state headers http now jti id).mono ?_
    intro response shallow
    exact ⟨shallow, response.body.readsBack platform (shallow ▸ Nat.zero_le 60)⟩

/-! ## The tolerant reader on strict documents -/

mutual

/-- All services of a document in document order, those of nested entries included. -/
def DspCatalog.listedServices : DspCatalog → List DspDataService
  | ⟨_, _, _, _, _, service, catalog⟩ => service ++ DspCatalog.listedServicesAll catalog

def DspCatalog.listedServicesAll : List DspCatalog → List DspDataService
  | [] => []
  | nested :: rest => nested.listedServices ++ DspCatalog.listedServicesAll rest

end

theorem DspCatalog.listedServices_eq (document : DspCatalog) :
    document.listedServices = document.service ++ document.catalog.flatMap listedServices := by
  have all : ∀ catalogs : List DspCatalog,
      listedServicesAll catalogs = catalogs.flatMap listedServices := by
    intro catalogs
    induction catalogs with
    | nil => rfl
    | cons nested rest inductionHypothesis =>
        rw [listedServicesAll, inductionHypothesis, List.flatMap_cons]
  rcases document with ⟨context, id, ldType, participantId, dataset, service, catalog⟩
  rw [listedServices, all]

def IsObject (value : Value) : Prop := ∃ members, value = .object members

/-- A catalog, its datasets, their distributions and its services are objects. -/
structure SpelledOut (value : Value) : Prop where
  catalog : IsObject value
  datasets : ∀ dataset ∈ itemsOf value "dataset", IsObject dataset
  distributions : ∀ dataset ∈ itemsOf value "dataset",
    ∀ distribution ∈ itemsOf dataset "distribution", IsObject distribution
  services : ∀ service ∈ itemsOf value "service", IsObject service

section Spelled

variable {value : Value} {names : List String} {fields : Fields}

theorem get_of_object (object : IsObject value) (split : value.fields names = some fields)
    (key : String) : fields.get key = value.get key := by
  obtain ⟨members, rfl⟩ := object
  rw [Value.eq_of_fields_object split]
  rfl

theorem itemsOf_required {Item : Type} {key : String} {read : Value → Option Item}
    {items : List Item} (object : IsObject value) (split : value.fields names = some fields)
    (present : fields.required key (Value.readArray read) = some items) :
    ReadAs read (itemsOf value key) items := by
  obtain ⟨member, found, array⟩ := Option.bind_eq_some_iff.mp present
  obtain ⟨values, listed, all⟩ := Option.bind_eq_some_iff.mp array
  rw [get_of_object object split] at found
  rw [itemsOf, found, Option.bind_some, listed]
  exact readAs_of_mapM all

theorem itemsOf_defaulted {Item : Type} {key : String} {read : Value → Option Item}
    {items : List Item} (object : IsObject value) (split : value.fields names = some fields)
    (present : fields.defaulted key [] (Value.readArray read) = some items) :
    ReadAs read (itemsOf value key) items := by
  unfold Fields.defaulted at present
  cases found : fields.get key with
  | none =>
      rw [found] at present
      cases present
      rw [get_of_object object split] at found
      rw [itemsOf, found]
      exact .nil
  | some member =>
      rw [found] at present
      apply itemsOf_required object split
      rw [Fields.required, found]
      exact present

theorem textOf_required {key text : String} (object : IsObject value)
    (split : value.fields names = some fields)
    (present : fields.required key Value.asStr = some text) : textOf value key = some text := by
  rw [textOf, ← get_of_object object split]
  exact present

theorem idOf_required {id : String} (object : IsObject value)
    (split : value.fields names = some fields)
    (present : fields.required "@id" Value.asStr = some id) : idOf value = some id := by
  obtain ⟨member, found, text⟩ := Option.bind_eq_some_iff.mp present
  rw [get_of_object object split] at found
  rw [idOf, found, Option.some_or, Option.bind_some, text]

end Spelled

theorem distributionOf_strict {value : Value} {distribution : DspDistribution}
    (object : IsObject value) (accepted : DspDistribution.fromValue value = some distribution) :
    distributionOf value = distribution.read ∧ nestedService value = none := by
  simp only [DspDistribution.fromValue, Option.bind_eq_bind, Option.bind_eq_some_iff,
    Option.pure_def, Option.some.injEq] at accepted
  obtain ⟨fields, split, _, _, format, given, access, reference, rfl⟩ := accepted
  obtain ⟨member, found, text⟩ := Option.bind_eq_some_iff.mp reference
  rw [Value.asStr_eq_some text, get_of_object object split] at found
  simp [distributionOf, accessServiceOf, nestedService, found,
    textOf_required object split given, DspDistribution.read]

/-- The tolerant reader takes what the derived one takes, and sees no service in place. -/
theorem datasetOf_strict {value : Value} {dataset : DspDataset} (object : IsObject value)
    (spelled : ∀ distribution ∈ itemsOf value "distribution", IsObject distribution)
    (accepted : DspDataset.fromValue value = some dataset) :
    datasetOf value = some dataset.read ∧
      ∀ distribution ∈ itemsOf value "distribution", nestedService distribution = none := by
  simp only [DspDataset.fromValue, Option.bind_eq_bind, Option.bind_eq_some_iff,
    Option.pure_def, Option.some.injEq] at accepted
  obtain ⟨fields, split, _, _, id, named, _, _, _, _, distributions, listed, rfl⟩ := accepted
  have all := itemsOf_required object split listed
  constructor
  · have read : (itemsOf value "distribution").filterMap (fun entry => some (distributionOf entry)) =
        distributions.map DspDistribution.read :=
      all.filterMap_eq fun entry occurs _ accepted =>
        congrArg some (distributionOf_strict (spelled entry occurs) accepted).1
    rw [List.filterMap_eq_map'] at read
    refine datasetOf_eq_some.mpr ⟨id, idOf_required object split named, ?_⟩
    rw [read]
    rfl
  · intro distribution occurs
    obtain ⟨_, accepted⟩ := all.of_mem occurs
    exact (distributionOf_strict (spelled distribution occurs) accepted).2

def DspDataService.look (service : DspDataService) : String × String :=
  (service.id, service.endpointUrl)

theorem parseDataService_strict {value : Value} {service : DspDataService}
    (object : IsObject value) (accepted : DspDataService.fromValue value = some service) :
    (parseDataService value).map lookOfService = some service.look := by
  simp only [DspDataService.fromValue, Option.bind_eq_bind, Option.bind_eq_some_iff,
    Option.pure_def, Option.some.injEq] at accepted
  obtain ⟨fields, split, id, named, _, _, url, located, rfl⟩ := accepted
  simp [parseDataService, idOf_required object split named, textOf_required object split located,
    lookOfService, DspDataService.look]

theorem listedDatasets_strict {value : Value} {document : DspCatalog} (spelled : SpelledOut value)
    (accepted : DspCatalog.fromValue value = some document) :
    listedDatasets value = document.dataset.map DspDataset.read := by
  obtain ⟨fields, split, _, _, _, _, dataset, _⟩ := DspCatalog.fromValue_eq_some.mp accepted
  exact (itemsOf_required spelled.catalog split dataset).filterMap_eq fun entry listed _ accepted =>
    (datasetOf_strict (spelled.datasets entry listed) (spelled.distributions entry listed)
      accepted).1

theorem serviceEntries_strict {value : Value} {document : DspCatalog} (spelled : SpelledOut value)
    (accepted : DspCatalog.fromValue value = some document) :
    ((serviceEntries value).filterMap parseDataService).map lookOfService =
      document.service.map DspDataService.look := by
  obtain ⟨fields, split, _, _, _, _, dataset, service, _⟩ :=
    DspCatalog.fromValue_eq_some.mp accepted
  have inPlace : (keptDistributions value).filterMap nestedService = [] := by
    rw [List.filterMap_eq_nil_iff]
    intro distribution membership
    obtain ⟨entry, listed, _, occurs⟩ := mem_keptDistributions.mp membership
    obtain ⟨_, accepted⟩ := (itemsOf_required spelled.catalog split dataset).of_mem listed
    exact (datasetOf_strict (spelled.datasets entry listed) (spelled.distributions entry listed)
      accepted).2 distribution occurs
  rw [serviceEntries, inPlace, List.append_nil, List.map_filterMap]
  exact (itemsOf_required spelled.catalog split service).filterMap_eq fun entry listed _ accepted =>
    parseDataService_strict (spelled.services entry listed) accepted

theorem levels_strict {Other : Type} {own : Value → List Other} {look all : DspCatalog → List Other}
    (unfolds : ∀ document, all document = look document ++ document.catalog.flatMap all)
    (agrees : ∀ value document, SpelledOut value → DspCatalog.fromValue value = some document →
      own value = look document)
    (value : Value) {document : DspCatalog} (spelled : ∀ level ∈ levels value, SpelledOut level)
    (accepted : DspCatalog.fromValue value = some document) :
    (levels value).flatMap own = all document := by
  induction value using catalogTree.induction generalizing document with
  | inherits value inductionHypothesis =>
      rw [levels_eq] at spelled
      have outer := spelled value List.mem_cons_self
      have inner : ∀ child ∈ itemsOf value "catalog", ∀ level ∈ levels child, SpelledOut level := by
        intro child listed level below
        apply spelled level
        exact List.mem_cons_of_mem value (List.mem_flatMap.mpr ⟨child, listed, below⟩)
      obtain ⟨fields, split, _, _, _, _, _, _, nested⟩ := DspCatalog.fromValue_eq_some.mp accepted
      have below : (itemsOf value "catalog").flatMap (fun nested => (levels nested).flatMap own) =
          document.catalog.flatMap all :=
        (itemsOf_defaulted outer.catalog split nested).flatMap_eq fun child listed _ accepted =>
          inductionHypothesis child listed (inner child listed) accepted
      rw [levels_eq, List.flatMap_cons, List.flatMap_assoc, below,
        agrees value document outer accepted, unfolds]

structure ReadsLike (document : DspCatalog) (catalog : Catalog) : Prop where
  id : catalog.id = document.id
  participantId : catalog.participantId = some document.participantId
  datasets : catalog.datasets = document.listedDatasets.map DspDataset.read
  /-- Of the services with one id the first one is kept. -/
  services : catalog.dataServices.map lookOfService =
    firsts Prod.fst (document.listedServices.map DspDataService.look)

/-- The crawler takes everything from a document that the derived reader accepts, if its structs
are written as objects. -/
theorem strict_documents_are_read {value : Value} {document : DspCatalog}
    (accepted : DspCatalog.fromValue value = some document)
    (spelled : ∀ level ∈ levels value, SpelledOut level) (participant : ParticipantEntry)
    (freshId : String) : ReadsLike document (parseCatalogResponse value participant freshId) where
  id := by
    have outer := spelled value (by rw [levels_eq]; exact List.mem_cons_self)
    obtain ⟨fields, split, _, id, _⟩ := DspCatalog.fromValue_eq_some.mp accepted
    rw [parseCatalogResponse, collectDatasetsAndServices_withEntries,
      textOf_required outer.catalog split id]
    rfl
  participantId := by
    have outer := spelled value (by rw [levels_eq]; exact List.mem_cons_self)
    obtain ⟨fields, split, _, _, _, participantId, _⟩ := DspCatalog.fromValue_eq_some.mp accepted
    rw [parseCatalogResponse, collectDatasetsAndServices_withEntries,
      textOf_required outer.catalog split participantId]
    rfl
  datasets := by
    rw [parseCatalogResponse_datasets]
    refine @levels_strict Dataset listedDatasets
      (fun document => document.dataset.map DspDataset.read)
      (fun document => document.listedDatasets.map DspDataset.read) ?_ ?_ value document spelled
      accepted
    · intro document
      rw [document.listedDatasets_eq, List.map_append, List.map_flatMap]
    · intro value document spelled accepted
      exact listedDatasets_strict spelled accepted
  services := by
    have all : ((describedServices value).filterMap parseDataService).map lookOfService =
        document.listedServices.map DspDataService.look := by
      rw [describedServices, List.filterMap_flatMap, List.map_flatMap]
      refine @levels_strict (String × String) _
        (fun document => document.service.map DspDataService.look)
        (fun document => document.listedServices.map DspDataService.look) ?_ ?_ value document
        spelled accepted
      · intro document
        rw [document.listedServices_eq, List.map_append, List.map_flatMap]
      · intro value document spelled accepted
        exact serviceEntries_strict spelled accepted
    have kept : ∀ service : DataService, (lookOfService service).1 = service.id := fun _ => rfl
    rw [parseCatalogResponse_dataServices, map_firsts kept, all]

def innerValue : Value :=
  .object [
    ("@type", .string "Catalog"),
    ("@id", .string "urn:inner"),
    ("@context", .array []),
    ("participantId", .string "south"),
    ("service", .array []),
    ("dataset", .array [.object [
      ("@id", .string "sand"),
      ("@type", .string "Dataset"),
      ("hasPolicy", .array [.array [.string "urn:offer", .string "Offer", .array []]]),
      ("distribution", .array [.object [
        ("@type", .string "Distribution"),
        ("format", .string "csv"),
        ("accessService", .string "api")]])]])]

/-- A catalog with a nested one, and members that no type of the wire has. -/
def nestedValue : Value :=
  .object [
    ("extra", .null),
    ("catalog", .array [innerValue]),
    ("@context", .array [.string dspContextUrl]),
    ("@id", .string "urn:outer"),
    ("@type", .string "Catalog"),
    ("participantId", .string "north"),
    ("dataset", .array []),
    ("service", .array [.object [
      ("@id", .string "api"),
      ("@type", .string "DataService"),
      ("endpointURL", .string "https://north.example/api"),
      ("endpointDescription", .string "dsp")]])]

def nestedDocument : DspCatalog :=
  ⟨[dspContextUrl], "urn:outer", "Catalog", "north", [],
    [⟨"api", "DataService", "https://north.example/api"⟩],
    [⟨[], "urn:inner", "Catalog", "south",
      [⟨none, "sand", "Dataset", [⟨"urn:offer", "Offer", []⟩],
        [⟨"Distribution", "csv", "api"⟩]⟩], [], []⟩]⟩

theorem nestedValue_spelled : ∀ level ∈ levels nestedValue, SpelledOut level := by
  have nested : levels nestedValue = [nestedValue, innerValue] := by
    have outer : itemsOf nestedValue "catalog" = [innerValue] := rfl
    have inner : itemsOf innerValue "catalog" = [] := rfl
    rw [levels_eq, outer, List.flatMap_cons, levels_eq, inner]
    rfl
  intro level listed
  rw [nested] at listed
  rcases List.mem_cons.mp listed with rfl | listed
  · constructor
    · exact ⟨_, rfl⟩
    · intro dataset listed
      cases listed
    · intro dataset listed
      cases listed
    · intro service listed
      rw [List.mem_singleton.mp listed]
      exact ⟨_, rfl⟩
  · rw [List.mem_singleton.mp listed]
    constructor
    · exact ⟨_, rfl⟩
    · intro dataset listed
      rw [List.mem_singleton.mp listed]
      exact ⟨_, rfl⟩
    · intro dataset listed distribution occurs
      rw [List.mem_singleton.mp listed] at occurs
      rw [List.mem_singleton.mp occurs]
      exact ⟨_, rfl⟩
    · intro service listed
      cases listed

theorem nestedValue_is_read :
    ReadsLike nestedDocument (parseCatalogResponse nestedValue (participantAt "north") "") :=
  strict_documents_are_read rfl nestedValue_spelled (participantAt "north") ""

end FederatedCatalog.Http
