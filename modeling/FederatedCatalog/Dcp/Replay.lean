import FederatedCatalog.Dcp.Expiry

/-!
# Replayed presentations

Access rests on a chain of three kinds of tokens, and each of them carries an
`exp`.  The verifier reads that of T1 and those of the credentials; the
presentation between them is accepted at any age.
-/

namespace FederatedCatalog.Dcp

open Foundation Json

variable {platform : Platform}

def Current (now : Seconds) (payload : Value) : Prop :=
  ∃ exp, (payload.get "exp").bind Value.asU64 = some exp ∧ now < exp

theorem current_iff {now : Seconds} {payload : Value} : Current now payload ↔ now < expiry payload := by
  unfold Current expiry
  cases (payload.get "exp").bind Value.asU64 <;> simp

def Contributes (now : Seconds) (vc : IssuedToken) (id : String) : Prop :=
  id ∈ ((⟨∅, false⟩ : Granted).note now vc).catalogAccess

theorem contributes_iff {now : Seconds} {vc : IssuedToken} {id : String} :
    Contributes now vc id ↔ Grants now vc id := by
  rw [Contributes, mem_note]
  simp

/-- No link that the access rests on has expired. -/
structure Exchange.Unexpired (exchange : Exchange) (now : Seconds) : Prop where
  token : Current now exchange.holder.decoded.payload
  presentation : Current now exchange.vp.payload
  credentials : ∀ vc ∈ exchange.credentials, ∀ id, Contributes now vc id →
    Current now vc.decoded.payload

def NoExpiredLink (config : DcpConfig platform) (token : String) (http : Http) (now : Seconds)
    (jti : String) : Prop :=
  ∀ caller, verifyDcpBearerToken config token http now jti = .ok caller →
    caller.catalogAccess.Nonempty →
    ∃ exchange : Exchange, exchange.Establishes config token http now jti caller ∧
      exchange.Unexpired now

variable {config : DcpConfig platform} {exchange : Exchange} {token : String} {http : Http}
  {now : Seconds} {jti : String}

theorem Exchange.Establishes.presents {caller : VerifiedCaller}
    (establishes : exchange.Establishes config token http now jti caller) :
    exchange.Presents config (.still now) token http jti where
  self_issued := establishes.self_issued
  presented := establishes.presented
  vp_signed := establishes.vp_signed
  embedded := establishes.embedded
  nonempty := establishes.nonempty

theorem Exchange.Presents.establishes
    (presents : exchange.Presents config (.still now) token http jti)
    (granting : ∃ vc ∈ exchange.credentials, ∃ id, Grants now vc id) :
    ∃ caller, exchange.Establishes config token http now jti caller ∧
      caller.catalogAccess.Nonempty := by
  have access : ∀ id, id ∈ (exchange.credentials.foldl (Granted.note now) ⟨∅, false⟩).catalogAccess ↔
      ∃ vc ∈ exchange.credentials, Grants now vc id := by
    intro id
    rw [mem_notes]
    simp
  obtain ⟨vc, listed, id, grants⟩ := granting
  have some := (access id).mpr ⟨vc, listed, grants⟩
  refine ⟨⟨exchange.holder.issuer, _⟩, ⟨presents.self_issued, rfl, presents.presented,
    presents.vp_signed, presents.embedded, presents.nonempty, access, ?_⟩, id, some⟩
  intro empty
  exact absurd empty (Finset.ne_empty_of_mem some)

/-- The presentation's own `exp` is the only one that goes unread. -/
theorem no_expired_link_iff (config : DcpConfig platform) (token : String) (http : Http)
    (now : Seconds) (jti : String) :
    NoExpiredLink config token http now jti ↔
      ∀ exchange : Exchange, exchange.Presents config (.still now) token http jti →
        (∃ vc ∈ exchange.credentials, ∃ id, Grants now vc id) →
        Current now exchange.vp.payload := by
  constructor
  · intro safe exchange presents granting
    obtain ⟨caller, establishes, some⟩ := presents.establishes granting
    have verified := verifyDcpBearerToken_eq_ok.mpr ⟨exchange, establishes⟩
    obtain ⟨other, again, unexpired⟩ := safe caller verified some
    rw [establishes.unique again]
    exact unexpired.presentation
  · intro fresh caller verified some
    obtain ⟨exchange, establishes⟩ := verifyDcpBearerToken_eq_ok.mp verified
    obtain ⟨id, granted⟩ := some
    obtain ⟨vc, listed, grants⟩ := (establishes.access id).mp granted
    refine ⟨exchange, establishes, ?token, ?presentation, ?credentials⟩
    case token => exact current_iff.mpr establishes.self_issued.unexpired
    case presentation => exact fresh exchange establishes.presents ⟨vc, listed, id, grants⟩
    case credentials =>
      intro other _ dataset contributes
      exact current_iff.mpr (contributes_iff.mp contributes).1

/-- T1 is fresh, and the holder's endpoint answers with the presentation it signed at 1000. -/
def replayToken : String :=
  (sampleHolder (sampleCredential "did:web:alice.example")).mintSelfIssuedToken
    sampleConfig.ownDid 2000 "a" "b"

def replayHttp : Http := sampleHttp (sampleCredential "did:web:alice.example")

def replayExchange : Exchange :=
  { sampleExchange "did:web:alice.example" with
    holder := (honestExchange (sampleHolder (sampleCredential "did:web:alice.example"))
      "https://holder.example/dsp/holder" sampleConfig.ownDid 2000 "a" "b" "vp"
      ⟨sampleIssuer.signed (credentialPayload "did:web:alice.example"), sampleIssuer.ownDid,
        sampleIssuer.publishedDocument []⟩).holder }

theorem replay_presents :
    replayExchange.Presents sampleConfig (.still 2000) replayToken replayHttp "c" where
  self_issued := (sampleHolder _).selfIssued_minted (sampleHolder_resolves _) (by decide)
  presented := (sampleHolder _).firstPresentation rfl
  vp_signed := (sampleExchange_establishes "did:web:alice.example").vp_signed
  embedded := (sampleExchange_establishes "did:web:alice.example").embedded
  nonempty := (sampleExchange_establishes "did:web:alice.example").nonempty

theorem replay_grants : ∃ vc ∈ replayExchange.credentials, ∃ id, Grants 2000 vc id := by
  refine ⟨_, List.mem_singleton_self _, "dataset", ?_, rfl, ?_⟩
  · simp [DcpKeyPair.signed, expiry, credentialPayload, List.lookup_cons]
  · simp [DcpKeyPair.signed, catalogAccessEntries, credentialPayload, List.lookup_cons]

theorem old_presentation_gives_access :
    ¬NoExpiredLink sampleConfig replayToken replayHttp 2000 "c" := by
  intro safe
  obtain ⟨caller, establishes, some⟩ := replay_presents.establishes replay_grants
  have verified := verifyDcpBearerToken_eq_ok.mpr ⟨replayExchange, establishes⟩
  obtain ⟨exchange, again, unexpired⟩ := safe caller verified some
  rw [← establishes.unique again] at unexpired
  have late := current_iff.mp unexpired.presentation
  revert late
  decide +kernel

end FederatedCatalog.Dcp
