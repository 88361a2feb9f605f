import FederatedCatalog.Http.CatalogRequest

/-!
# What is served

A request is refused without catalog data, or answered with exactly the
granted datasets of the cache, each under its own node.
-/

namespace FederatedCatalog.Http

open Foundation Json FederatedCatalog.Core Dcp Store

variable {platform : Platform} (state : AppState platform) (headers : Headers)
  (http : Dcp.Http) (now : Seconds) (jti : String)

def Answered (property : DspCatalog → Prop) (response : Response) : Prop :=
  ∃ document, response = ⟨200, .catalog document⟩ ∧ property document

theorem catalogRequest_refused
    (refused : ∀ allowed, ¬Entitled state.dspAuth headers http now jti allowed) :
    Supply.Gives (catalogRequest state headers http now jti) Refusal := by
  unfold catalogRequest
  rw [authorize_refused refused, bind_assoc]
  refine unauthorizedResponse_gives.bind ?_
  intro response refusal
  exact Supply.gives_pure refusal

theorem catalogRequest_entitled {allowed : Option (Finset String)} {catalogs : List Catalog}
    (entitled : Entitled state.dspAuth headers http now jti allowed)
    (found : state.cache.query .all = .ok catalogs) :
    catalogRequest state headers http now jti =
      (do return ⟨200, .catalog (← catalogDocument allowed catalogs)⟩) := by
  unfold catalogRequest
  rw [entitled.authorize_eq, found]
  rfl

theorem catalogRequest_unavailable {allowed : Option (Finset String)} {error : StoreError}
    (entitled : Entitled state.dspAuth headers http now jti allowed)
    (failed : state.cache.query .all = .error error) :
    catalogRequest state headers http now jti = pure ⟨500, .error error.display⟩ := by
  unfold catalogRequest
  rw [entitled.authorize_eq, failed]
  rfl

theorem catalogRequest_served {allowed : Option (Finset String)} {catalogs : List Catalog}
    (entitled : Entitled state.dspAuth headers http now jti allowed)
    (found : state.cache.query .all = .ok catalogs) :
    Supply.Gives (catalogRequest state headers http now jti)
      (Answered (Serves allowed catalogs)) := by
  rw [catalogRequest_entitled state headers http now jti entitled found]
  refine (catalogDocument_gives allowed catalogs).bind ?_
  intro document serves
  exact Supply.gives_pure ⟨document, rfl, serves⟩

theorem get_catalog_toValue (document : DspCatalog) :
    document.toValue.get "catalog" =
      if document.catalog = [] then none
      else some (.array (document.catalog.map DspCatalog.toValue)) := by
  rcases document with ⟨context, id, ldType, participantId, dataset, service, catalog⟩
  rw [DspCatalog.toValue]
  cases catalog with
  | nil => simp [contextMember, List.lookup_cons]
  | cons nested rest => simp [contextMember, List.lookup_cons, DspCatalog.toValues_eq]

/-- The endpoint's contract: whom it refuses, and what it serves to the others. -/
structure ServesGranted : Prop where
  refuses : (∀ allowed, ¬Entitled state.dspAuth headers http now jti allowed) →
    Supply.Gives (catalogRequest state headers http now jti) Refusal
  serves : ∀ allowed catalogs, Entitled state.dspAuth headers http now jti allowed →
    state.cache.query .all = .ok catalogs →
    Supply.Gives (catalogRequest state headers http now jti) (Answered (Serves allowed catalogs))
  lists : ∀ catalogs, state.cache.query .all = .ok catalogs →
    Enumerates Catalog.originNode state.cache.content catalogs ∧
      catalogs.Pairwise fun first second => first.id ≤ second.id
  /-- With at most one node there is no nested list, not even an empty one. -/
  absent : ∀ allowed catalogs document, catalogs.length ≤ 1 → Serves allowed catalogs document →
    document.toValue.get "catalog" = none

theorem catalog_request_serves_granted : ServesGranted state headers http now jti where
  refuses := catalogRequest_refused state headers http now jti
  serves _ _ := catalogRequest_served state headers http now jti
  lists _ := state.cache.listing
  absent := by
    intro allowed catalogs document few serves
    rw [get_catalog_toValue]
    cases serves with
    | flat _ carries => rw [if_pos carries.catalog]
    | federation many _ _ _ _ _ _ => omega

end FederatedCatalog.Http
