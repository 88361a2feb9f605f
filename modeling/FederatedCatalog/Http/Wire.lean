import FederatedCatalog.Core.Catalog
import FederatedCatalog.Foundation.Supply

/-!
# DSP documents

The wire types of the DSP catalog endpoints, what they are made from, and the
JSON they serialize to.  The ids minted for a response come from a supply of
uuids.
-/

namespace FederatedCatalog.Http

open Foundation Json FederatedCatalog.Core

def dspContextUrl : String := "https://w3id.org/dspace/2025/1/context.jsonld"

def connectorParticipantId : String := "urn:connector:federated-catalog-rs"

def newUrnUuid : Supply String String := do
  return "urn:uuid:" ++ (← Supply.draw)

structure DspPermission where
  ldType : String
  action : String
  deriving DecidableEq

structure DspOffer where
  id : String
  ldType : String
  permission : List DspPermission
  deriving DecidableEq

structure DspDistribution where
  ldType : String
  format : String
  accessService : String
  deriving DecidableEq

structure DspDataset where
  context : Option (List String)
  id : String
  ldType : String
  hasPolicy : List DspOffer
  distribution : List DspDistribution
  deriving DecidableEq

structure DspDataService where
  id : String
  ldType : String
  endpointUrl : String
  deriving DecidableEq

structure DspCatalog where
  context : List String
  id : String
  ldType : String
  participantId : String
  dataset : List DspDataset
  service : List DspDataService
  /-- One nested catalog for each node of a federation. -/
  catalog : List DspCatalog

structure DspCatalogError where
  context : List String
  id : String
  ldType : String
  code : String
  deriving DecidableEq

def DspOffer.placeholder (id : String) : DspOffer where
  id := id
  ldType := "Offer"
  permission := [⟨"Permission", "http://www.w3.org/ns/odrl/2/use"⟩]

def placeholderOffer : Supply String DspOffer := do
  return DspOffer.placeholder (← newUrnUuid)

def DspDistribution.ofDistribution (distribution : Distribution) : DspDistribution where
  ldType := "Distribution"
  format := distribution.format
  accessService := distribution.accessService

def DspDataset.withOffer (dataset : Dataset) (offer : DspOffer) : DspDataset where
  context := none
  id := dataset.id
  ldType := "Dataset"
  hasPolicy := [offer]
  distribution := dataset.distributions.map DspDistribution.ofDistribution

def DspDataset.ofDataset (dataset : Dataset) : Supply String DspDataset := do
  return DspDataset.withOffer dataset (← placeholderOffer)

def DspDataService.ofDataService (service : DataService) : DspDataService where
  id := service.id
  ldType := "DataService"
  endpointUrl := service.endpointUrl

def DspCatalogError.notFound : Supply String DspCatalogError := do
  return ⟨[dspContextUrl], ← newUrnUuid, "CatalogError", "NOT_FOUND"⟩

def DspCatalogError.unauthorized : Supply String DspCatalogError := do
  return ⟨[dspContextUrl], ← newUrnUuid, "CatalogError", "UNAUTHORIZED"⟩

def DspPermission.toValue (permission : DspPermission) : Value :=
  .object [("@type", .string permission.ldType), ("action", .string permission.action)]

def DspOffer.toValue (offer : DspOffer) : Value :=
  .object [
    ("@id", .string offer.id),
    ("@type", .string offer.ldType),
    ("permission", .array (offer.permission.map DspPermission.toValue))]

def DspDistribution.toValue (distribution : DspDistribution) : Value :=
  .object [
    ("@type", .string distribution.ldType),
    ("format", .string distribution.format),
    ("accessService", .string distribution.accessService)]

def contextMember (context : List String) : String × Value :=
  ("@context", .array (context.map Value.string))

def DspDataset.toValue (dataset : DspDataset) : Value :=
  .object ((dataset.context.map contextMember).toList ++ [
    ("@id", .string dataset.id),
    ("@type", .string dataset.ldType),
    ("hasPolicy", .array (dataset.hasPolicy.map DspOffer.toValue)),
    ("distribution", .array (dataset.distribution.map DspDistribution.toValue))])

def DspDataService.toValue (service : DspDataService) : Value :=
  .object [
    ("@id", .string service.id),
    ("@type", .string service.ldType),
    ("endpointURL", .string service.endpointUrl)]

mutual

def DspCatalog.toValue : DspCatalog → Value
  | ⟨context, id, ldType, participantId, dataset, service, catalog⟩ =>
      .object ([
        contextMember context,
        ("@id", .string id),
        ("@type", .string ldType),
        ("participantId", .string participantId),
        ("dataset", .array (dataset.map DspDataset.toValue)),
        ("service", .array (service.map DspDataService.toValue))] ++
        if catalog.isEmpty then [] else [("catalog", .array (DspCatalog.toValues catalog))])

def DspCatalog.toValues : List DspCatalog → List Value
  | [] => []
  | nested :: rest => nested.toValue :: DspCatalog.toValues rest

end

def DspCatalogError.toValue (error : DspCatalogError) : Value :=
  .object [
    contextMember error.context,
    ("@id", .string error.id),
    ("@type", .string error.ldType),
    ("code", .string error.code)]

theorem DspCatalog.toValues_eq (catalogs : List DspCatalog) :
    DspCatalog.toValues catalogs = catalogs.map DspCatalog.toValue := by
  induction catalogs with
  | nil => rfl
  | cons nested rest inductionHypothesis => rw [toValues, inductionHypothesis, List.map_cons]

end FederatedCatalog.Http
