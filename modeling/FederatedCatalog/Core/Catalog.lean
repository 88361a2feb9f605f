import FederatedCatalog.Foundation.KeyedMap
import FederatedCatalog.Foundation.SortedMap
import FederatedCatalog.Json.Value
import Mathlib.Data.String.Basic

/-!
# Domain types of `catalog-core`

The crawled catalog and its parts, with the shapes that their derived
`Serialize` and `Deserialize` implementations give them.  Every catalog reads
back from its own JSON, which is what the graph store keeps of it.
-/

namespace FederatedCatalog.Core

open Foundation Json

/-- Identifier of a dataspace participant. -/
structure NodeId where
  value : String
  deriving DecidableEq, Repr

/-- `BTreeMap<String, String>`. -/
abbrev Properties := SortedMap String String

structure Distribution where
  format : String
  accessService : String
  deriving DecidableEq

structure DataService where
  id : String
  endpointUrl : String
  endpointDescription : Option String
  deriving DecidableEq

structure Dataset where
  id : String
  properties : Properties
  distributions : List Distribution
  deriving DecidableEq

/-- One participant's datasets and data services, as fetched by a single crawl
of `originNode`. -/
structure Catalog where
  id : String
  originNode : NodeId
  participantId : Option String
  datasets : List Dataset
  dataServices : List DataService
  properties : Properties
  deriving DecidableEq

def Catalog.new (id : String) (originNode : NodeId) : Catalog where
  id := id
  originNode := originNode
  participantId := none
  datasets := []
  dataServices := []
  properties := SortedMap.empty

/-- What a cache holds: at most one catalog per origin node. -/
abbrev CatalogMap := KeyedMap NodeId Catalog

namespace Properties

def toValue (properties : Properties) : Value :=
  .object (properties.entries.map fun entry => (entry.1, .string entry.2))

def readMember (member : String × Value) : Option (String × String) :=
  member.2.asStr.map fun text => (member.1, text)

def fromValue : Value → Option Properties
  | .object members => (members.mapM readMember).map SortedMap.ofEntries
  | _ => none

@[simp]
theorem fromValue_toValue (properties : Properties) :
    fromValue properties.toValue = some properties := by
  have read : (properties.entries.map fun entry => (entry.1, Value.string entry.2)).mapM
      readMember = some properties.entries := by
    rw [List.mapM_map]
    induction properties.entries with
    | nil => rfl
    | cons entry rest inductionHypothesis =>
        simp_all [List.mapM_cons, Function.comp_def, readMember]
  simp [fromValue, toValue, read]

theorem plainWithin_toValue (properties : Properties) (depth : Nat) :
    properties.toValue.PlainWithin (depth + 1) := by
  refine ⟨?_, ?_⟩
  · simpa [Function.comp_def] using properties.keys_nodup
  · intro member membership
    rcases List.mem_map.mp membership with ⟨entry, _, rfl⟩
    exact Value.plainWithin_string depth entry.2

end Properties

namespace Distribution

def toValue (distribution : Distribution) : Value :=
  .object [
    ("format", .string distribution.format),
    ("access_service", .string distribution.accessService)]

def fromValue (value : Value) : Option Distribution := do
  let fields ← value.fields ["format", "access_service"]
  let format ← fields.required "format" Value.asStr
  let accessService ← fields.required "access_service" Value.asStr
  return { format, accessService }

@[simp]
theorem fromValue_toValue (distribution : Distribution) :
    fromValue distribution.toValue = some distribution := by
  have fields : distribution.toValue.fields ["format", "access_service"] = some ⟨true, _⟩ :=
    Value.fields_object (by simp)
  simp [fromValue, fields, Fields.required, Fields.get, List.lookup_cons]

theorem plainWithin_toValue (distribution : Distribution) (depth : Nat) :
    distribution.toValue.PlainWithin (depth + 1) := by
  simp [toValue]

end Distribution

namespace DataService

def toValue (service : DataService) : Value :=
  .object [
    ("id", .string service.id),
    ("endpoint_url", .string service.endpointUrl),
    ("endpoint_description", Value.ofOptionalString service.endpointDescription)]

def fromValue (value : Value) : Option DataService := do
  let fields ← value.fields ["id", "endpoint_url", "endpoint_description"]
  let id ← fields.required "id" Value.asStr
  let endpointUrl ← fields.required "endpoint_url" Value.asStr
  let endpointDescription ←
    fields.defaulted "endpoint_description" none Value.readOptionalString
  return { id, endpointUrl, endpointDescription }

@[simp]
theorem fromValue_toValue (service : DataService) :
    fromValue service.toValue = some service := by
  have fields : service.toValue.fields ["id", "endpoint_url", "endpoint_description"] =
      some ⟨true, _⟩ := Value.fields_object (by simp)
  simp [fromValue, fields, Fields.required, Fields.defaulted, Fields.get, List.lookup_cons]

theorem plainWithin_toValue (service : DataService) (depth : Nat) :
    service.toValue.PlainWithin (depth + 1) := by
  simp [toValue]

end DataService

namespace Dataset

def toValue (dataset : Dataset) : Value :=
  .object [
    ("id", .string dataset.id),
    ("properties", dataset.properties.toValue),
    ("distributions", .array (dataset.distributions.map Distribution.toValue))]

def fromValue (value : Value) : Option Dataset := do
  let fields ← value.fields ["id", "properties", "distributions"]
  let id ← fields.required "id" Value.asStr
  let properties ← fields.defaulted "properties" SortedMap.empty Properties.fromValue
  let distributions ←
    fields.defaulted "distributions" [] (Value.readArray Distribution.fromValue)
  return { id, properties, distributions }

@[simp]
theorem fromValue_toValue (dataset : Dataset) :
    fromValue dataset.toValue = some dataset := by
  have distributions : Value.readArray Distribution.fromValue
      (.array (dataset.distributions.map Distribution.toValue)) = some dataset.distributions :=
    Value.readArray_of _ _ _ fun _ _ => Distribution.fromValue_toValue _
  have fields : dataset.toValue.fields ["id", "properties", "distributions"] =
      some ⟨true, _⟩ := Value.fields_object (by simp)
  simp [fromValue, fields, Fields.required, Fields.defaulted, Fields.get, List.lookup_cons,
    distributions]

theorem plainWithin_toValue (dataset : Dataset) (depth : Nat) :
    dataset.toValue.PlainWithin (depth + 3) := by
  simp [toValue, Properties.plainWithin_toValue, Distribution.plainWithin_toValue]

end Dataset

namespace Catalog

def toValue (catalog : Catalog) : Value :=
  .object [
    ("id", .string catalog.id),
    ("origin_node", .string catalog.originNode.value),
    ("participant_id", Value.ofOptionalString catalog.participantId),
    ("datasets", .array (catalog.datasets.map Dataset.toValue)),
    ("data_services", .array (catalog.dataServices.map DataService.toValue)),
    ("properties", catalog.properties.toValue)]

def fieldNames : List String :=
  ["id", "origin_node", "participant_id", "datasets", "data_services", "properties"]

def fromValue (value : Value) : Option Catalog := do
  let fields ← value.fields fieldNames
  let id ← fields.required "id" Value.asStr
  let originNode ← fields.required "origin_node" Value.asStr
  let participantId ← fields.defaulted "participant_id" none Value.readOptionalString
  let datasets ← fields.defaulted "datasets" [] (Value.readArray Dataset.fromValue)
  let dataServices ← fields.defaulted "data_services" [] (Value.readArray DataService.fromValue)
  let properties ← fields.defaulted "properties" SortedMap.empty Properties.fromValue
  return { id, originNode := ⟨originNode⟩, participantId, datasets, dataServices, properties }

@[simp]
theorem fromValue_toValue (catalog : Catalog) :
    fromValue catalog.toValue = some catalog := by
  have datasets : Value.readArray Dataset.fromValue
      (.array (catalog.datasets.map Dataset.toValue)) = some catalog.datasets :=
    Value.readArray_of _ _ _ fun _ _ => Dataset.fromValue_toValue _
  have dataServices : Value.readArray DataService.fromValue
      (.array (catalog.dataServices.map DataService.toValue)) = some catalog.dataServices :=
    Value.readArray_of _ _ _ fun _ _ => DataService.fromValue_toValue _
  have fields : catalog.toValue.fields fieldNames = some ⟨true, _⟩ :=
    Value.fields_object (by simp)
  simp [fromValue, fields, Fields.required, Fields.defaulted, Fields.get, List.lookup_cons,
    datasets, dataServices]

theorem plainWithin_toValue (catalog : Catalog) (depth : Nat) :
    catalog.toValue.PlainWithin (depth + 5) := by
  simp [toValue, Properties.plainWithin_toValue, DataService.plainWithin_toValue,
    Dataset.plainWithin_toValue]

@[simp]
theorem readSlice_print (format : TextFormat) (catalog : Catalog) :
    format.readSlice Catalog.fromValue (utf8 (format.print catalog.toValue)) = .ok catalog :=
  format.readSlice_print Catalog.fromValue (catalog.plainWithin_toValue 122)
    catalog.fromValue_toValue

end Catalog

end FederatedCatalog.Core
