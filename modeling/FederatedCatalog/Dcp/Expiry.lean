import FederatedCatalog.Dcp.Grants

/-!
# Expired credentials

What a presentation with several credentials leads to, each of them checked
when its turn comes: either the union of what the current ones grant, or the
complaint that all of them are expired.
-/

namespace FederatedCatalog.Dcp

open Foundation Json

variable {platform : Platform}

def VerifierClock.checks (clock : VerifierClock) (vcs : List IssuedToken) :
    List (IssuedToken × Seconds) :=
  vcs.zipIdx.map fun entry => (entry.1, clock.credential entry.2)

def Expired (check : IssuedToken × Seconds) : Prop := expiry check.1.decoded.payload ≤ check.2

/-- What is concluded from the checked credentials of a presentation. -/
def verdict (holderDid : String) (checks : List (IssuedToken × Seconds)) :
    Except String VerifiedCaller :=
  let granted := (⟨∅, false⟩ : Granted).noteAll checks
  if granted.catalogAccess = ∅ ∧ granted.hadExpiredCredential = true then
    .error "all presented credentials are expired"
  else .ok ⟨holderDid, granted.catalogAccess⟩

theorem Grants.unexpired {check : IssuedToken × Seconds} {id : String}
    (grants : Grants check.2 check.1 id) : ¬Expired check :=
  Nat.not_le.mpr grants.1

theorem verdict_eq_error {holderDid : String} {checks : List (IssuedToken × Seconds)} :
    verdict holderDid checks = .error "all presented credentials are expired" ↔
      (∀ check ∈ checks, ∀ id, ¬Grants check.2 check.1 id) ∧ ∃ check ∈ checks, Expired check := by
  have nothing : ((⟨∅, false⟩ : Granted).noteAll checks).catalogAccess = ∅ ↔
      ∀ check ∈ checks, ∀ id, ¬Grants check.2 check.1 id := by
    rw [Finset.eq_empty_iff_forall_notMem]
    simp only [mem_noteAll, Finset.notMem_empty, false_or, not_exists, not_and]
    exact ⟨fun none check listed id => none id check listed,
      fun none id check listed => none check listed id⟩
  have something : ((⟨∅, false⟩ : Granted).noteAll checks).hadExpiredCredential = true ↔
      ∃ check ∈ checks, Expired check := by
    simp [hadExpired_noteAll, Expired]
  rw [← nothing, ← something, verdict]
  split
  · next failed => simp [failed]
  · next passed => simp [passed]

theorem verdict_eq_ok {holderDid : String} {checks : List (IssuedToken × Seconds)}
    (passed : verdict holderDid checks ≠ .error "all presented credentials are expired") :
    ∃ caller, verdict holderDid checks = .ok caller ∧ caller.holderDid = holderDid ∧
      ∀ id, id ∈ caller.catalogAccess ↔ ∃ check ∈ checks, Grants check.2 check.1 id := by
  simp only [verdict] at passed ⊢
  split at passed
  · exact absurd rfl passed
  · next kept =>
    rw [if_neg kept]
    refine ⟨_, rfl, rfl, ?_⟩
    intro id
    simp [mem_noteAll]

theorem verdict_perm (holderDid : String) {checks others : List (IssuedToken × Seconds)}
    (same : checks.Perm others) : verdict holderDid checks = verdict holderDid others := by
  have access : ((⟨∅, false⟩ : Granted).noteAll checks).catalogAccess =
      ((⟨∅, false⟩ : Granted).noteAll others).catalogAccess := by
    ext id
    simp [mem_noteAll, same.mem_iff]
  have expired : ((⟨∅, false⟩ : Granted).noteAll checks).hadExpiredCredential =
      ((⟨∅, false⟩ : Granted).noteAll others).hadExpiredCredential := by
    rw [Bool.eq_iff_iff, hadExpired_noteAll, hadExpired_noteAll]
    simp [same.mem_iff]
  simp only [verdict, access, expired]

theorem verdict_cons_expired (holderDid : String) {expired check : IssuedToken × Seconds}
    {checks : List (IssuedToken × Seconds)} {id : String} (late : Expired expired)
    (listed : check ∈ checks) (grants : Grants check.2 check.1 id) :
    verdict holderDid (expired :: checks) = verdict holderDid checks := by
  have access : ((⟨∅, false⟩ : Granted).noteAll (expired :: checks)).catalogAccess =
      ((⟨∅, false⟩ : Granted).noteAll checks).catalogAccess := by
    ext other
    have inert : ¬Grants expired.2 expired.1 other := fun granted => granted.unexpired late
    simp [mem_noteAll, inert]
  have some : ((⟨∅, false⟩ : Granted).noteAll checks).catalogAccess ≠ ∅ :=
    Finset.ne_empty_of_mem (mem_noteAll.mpr (.inr ⟨check, listed, grants⟩))
  simp [verdict, access, some]

/-! ## The verdict of a run -/

variable (config : DcpConfig platform)

/-- The checks of T1, of the presentation and of every embedded credential's signature pass. -/
structure Exchange.Presents (exchange : Exchange) (clock : VerifierClock) (token : String)
    (http : Http) (jti : String) : Prop where
  self_issued : SelfIssued platform http config.insecureHttp config.ownDid token clock.t1
    exchange.holder
  presented : FirstPresentation config exchange.holder http clock.t3 jti exchange.vpJws
  vp_signed : SignedUnder platform exchange.holder.document exchange.vpJws exchange.vp
  embedded : List.Forall₂ (Embeds config http) (embeddedCredentials exchange.vp.payload)
    exchange.credentials
  nonempty : exchange.credentials ≠ []

theorem collectCredentials_embedded {http : Http} {values : List Value} {vcs : List IssuedToken}
    (embedded : List.Forall₂ (Embeds config http) values vcs) (readings : Nat → Seconds)
    (first : Nat) (granted : Granted) :
    (values.zipIdx first).foldlM (fun granted entry =>
        collectCredential config http (readings entry.2) granted entry.1) granted =
      .ok (granted.noteAll
        ((vcs.zipIdx first).map fun entry => (entry.1, readings entry.2))) := by
  induction embedded generalizing first granted with
  | nil => rfl
  | @cons value vc _ _ embeds _ inductionHypothesis =>
      have collected : collectCredential config http (readings first) granted value =
          .ok (granted.note (readings first) vc) :=
        (collectCredential_eq_ok config).mpr ⟨vc, embeds, rfl⟩
      rw [List.zipIdx_cons, List.zipIdx_cons, List.foldlM_cons, collected, ok_bind,
        inductionHypothesis]
      rfl

variable {config} {exchange : Exchange} {clock : VerifierClock} {token : String} {http : Http}
  {jti : String}

theorem Exchange.Presents.verified (presents : exchange.Presents config clock token http jti) :
    verifyDcpBearerTokenAt config clock token http jti =
      verdict exchange.holder.issuer (clock.checks exchange.credentials) := by
  have credentials : verifyPresentation platform exchange.holder exchange.vpJws =
      .ok (embeddedCredentials exchange.vp.payload) := by
    refine verifyPresentation_eq_ok.mpr ⟨exchange.vp, presents.vp_signed, rfl, ?_⟩
    intro empty
    have embedded := presents.embedded
    rw [empty] at embedded
    exact presents.nonempty (List.forall₂_nil_left_iff.mp embedded)
  simp only [verifyDcpBearerTokenAt, authenticate_eq_ok.mpr presents.self_issued,
    (queryPresentation_eq_ok config).mpr presents.presented, credentials, ok_bind,
    collectCredentials_embedded config presents.embedded]
  rw [verdict, VerifierClock.checks]
  unfold ensure
  by_cases failed : ((⟨∅, false⟩ : Granted).noteAll (exchange.credentials.zipIdx.map
      fun entry => (entry.1, clock.credential entry.2))).catalogAccess = ∅ ∧
    ((⟨∅, false⟩ : Granted).noteAll (exchange.credentials.zipIdx.map
      fun entry => (entry.1, clock.credential entry.2))).hadExpiredCredential = true
  · rw [if_pos failed, if_neg (not_not.mpr failed)]
    rfl
  · rw [if_neg failed, if_pos failed]
    rfl

/-- Expiry is the reason to fail exactly when every credential is expired, and otherwise the
current ones are honoured. -/
structure OnlyAllExpiredFails (config : DcpConfig platform) (exchange : Exchange)
    (clock : VerifierClock) (token : String) (http : Http) (jti : String) : Prop where
  fails_iff : verifyDcpBearerTokenAt config clock token http jti =
      .error "all presented credentials are expired" ↔
    ∀ check ∈ clock.checks exchange.credentials, Expired check
  honoured : (¬∀ check ∈ clock.checks exchange.credentials, Expired check) →
    ∃ caller, verifyDcpBearerTokenAt config clock token http jti = .ok caller ∧
      caller.holderDid = exchange.holder.issuer ∧
      ∀ id, id ∈ caller.catalogAccess ↔
        ∃ check ∈ clock.checks exchange.credentials, Grants check.2 check.1 id

/-- An unexpired credential beside an expired one has to be accompanied by one that grants
something. -/
theorem only_all_expired_fails_iff (presents : exchange.Presents config clock token http jti) :
    OnlyAllExpiredFails config exchange clock token http jti ↔
      ((∃ check ∈ clock.checks exchange.credentials, Expired check) →
        (∃ check ∈ clock.checks exchange.credentials, ¬Expired check) →
        ∃ check ∈ clock.checks exchange.credentials, ∃ id, Grants check.2 check.1 id) := by
  have verified := presents.verified
  have someCheck : ∃ check, check ∈ clock.checks exchange.credentials := by
    apply List.exists_mem_of_ne_nil
    simpa [VerifierClock.checks] using presents.nonempty
  constructor
  · intro inert expired unexpired
    by_contra nothing
    have failed : verifyDcpBearerTokenAt config clock token http jti =
        .error "all presented credentials are expired" := by
      rw [verified, verdict_eq_error]
      exact ⟨fun check listed id grants => nothing ⟨check, listed, id, grants⟩, expired⟩
    obtain ⟨check, listed, current⟩ := unexpired
    exact current (inert.fails_iff.mp failed check listed)
  · intro granting
    have fails : verifyDcpBearerTokenAt config clock token http jti =
        .error "all presented credentials are expired" ↔
          ∀ check ∈ clock.checks exchange.credentials, Expired check := by
      rw [verified, verdict_eq_error]
      constructor
      · rintro ⟨nothing, expired⟩
        by_contra mixed
        simp only [not_forall] at mixed
        obtain ⟨check, listed, current⟩ := mixed
        obtain ⟨other, otherListed, id, grants⟩ := granting expired ⟨check, listed, current⟩
        exact nothing other otherListed id grants
      · intro all
        obtain ⟨check, listed⟩ := someCheck
        exact ⟨fun other otherListed id grants => grants.unexpired (all other otherListed),
          check, listed, all check listed⟩
    refine ⟨fails, ?_⟩
    intro mixed
    rw [verified] at fails ⊢
    exact verdict_eq_ok fun failed => mixed (fails.mp failed)

theorem verified_perm (presents : exchange.Presents config clock token http jti)
    {other : Exchange} {otherClock : VerifierClock} {otherToken otherJti : String}
    {otherHttp : Http} (again : other.Presents config otherClock otherToken otherHttp otherJti)
    (sameHolder : other.holder.issuer = exchange.holder.issuer)
    (reordered : (otherClock.checks other.credentials).Perm (clock.checks exchange.credentials)) :
    verifyDcpBearerTokenAt config otherClock otherToken otherHttp otherJti =
      verifyDcpBearerTokenAt config clock token http jti := by
  rw [presents.verified, again.verified, sameHolder, verdict_perm _ reordered]

/-- An accepted presentation is accepted with one more expired credential exactly when it
grants something. -/
theorem verified_extended (presents : exchange.Presents config clock token http jti)
    {other : Exchange} {otherClock : VerifierClock} {otherToken otherJti : String}
    {otherHttp : Http} (again : other.Presents config otherClock otherToken otherHttp otherJti)
    (sameHolder : other.holder.issuer = exchange.holder.issuer)
    {expired : IssuedToken × Seconds} (late : Expired expired)
    (extended : (otherClock.checks other.credentials).Perm
      (expired :: clock.checks exchange.credentials)) {caller : VerifiedCaller}
    (accepted : verifyDcpBearerTokenAt config clock token http jti = .ok caller) :
    verifyDcpBearerTokenAt config otherClock otherToken otherHttp otherJti = .ok caller ↔
      ∃ check ∈ clock.checks exchange.credentials, ∃ id, Grants check.2 check.1 id := by
  rw [presents.verified] at accepted
  rw [again.verified, sameHolder, verdict_perm _ extended]
  constructor
  · intro kept
    by_contra nothing
    have failed : verdict exchange.holder.issuer (expired :: clock.checks exchange.credentials) =
        .error "all presented credentials are expired" := by
      refine verdict_eq_error.mpr ⟨?_, expired, List.mem_cons_self, late⟩
      intro check listed id grants
      rcases List.mem_cons.mp listed with rfl | before
      · exact grants.unexpired late
      · exact nothing ⟨check, before, id, grants⟩
    cases failed.symm.trans kept
  · rintro ⟨check, listed, id, grants⟩
    rw [verdict_cons_expired _ late listed grants, accepted]

/-- When expired credentials are inert: in the run itself, under reordering, and when one of
them is added. -/
theorem expired_credentials_are_inert_iff
    (presents : exchange.Presents config clock token http jti) :
    (OnlyAllExpiredFails config exchange clock token http jti ↔
      ((∃ check ∈ clock.checks exchange.credentials, Expired check) →
        (∃ check ∈ clock.checks exchange.credentials, ¬Expired check) →
        ∃ check ∈ clock.checks exchange.credentials, ∃ id, Grants check.2 check.1 id)) ∧
    ∀ (other : Exchange) (otherClock : VerifierClock) (otherToken otherJti : String)
      (otherHttp : Http), other.Presents config otherClock otherToken otherHttp otherJti →
      other.holder.issuer = exchange.holder.issuer →
      ((otherClock.checks other.credentials).Perm (clock.checks exchange.credentials) →
        verifyDcpBearerTokenAt config otherClock otherToken otherHttp otherJti =
          verifyDcpBearerTokenAt config clock token http jti) ∧
      ∀ expired caller, Expired expired →
        (otherClock.checks other.credentials).Perm
          (expired :: clock.checks exchange.credentials) →
        verifyDcpBearerTokenAt config clock token http jti = .ok caller →
        (verifyDcpBearerTokenAt config otherClock otherToken otherHttp otherJti = .ok caller ↔
          ∃ check ∈ clock.checks exchange.credentials, ∃ id, Grants check.2 check.1 id) := by
  refine ⟨only_all_expired_fails_iff presents, ?_⟩
  intro other otherClock otherToken otherJti otherHttp again sameHolder
  refine ⟨verified_perm presents again sameHolder, ?_⟩
  intro expired caller late extended accepted
  exact verified_extended presents again sameHolder late extended accepted

def offerPayload (offer : Seconds × List String) : Value :=
  .object [
    ("iss", .string sampleIssuer.ownDid),
    ("exp", .number (.posInt offer.1)),
    ("vc", .object [
      ("type", .array [.string expectedCredentialType]),
      ("credentialSubject", .object [("catalogAccess", .array (offer.2.map Value.string))])])]

def offersPayload (offers : List (Seconds × List String)) : Value :=
  .object [("vp", .object [("verifiableCredential",
    .array (offers.map fun offer => .string (sampleIssuer.sign (offerPayload offer))))])]

def offersJws (offers : List (Seconds × List String)) : String :=
  (sampleHolder "").keyPair.sign (offersPayload offers)

def offersHttp (offers : List (Seconds × List String)) : Http :=
  (sampleHttp "").answering fun _ _ _ => .ok ⟨200, utf8 (Platform.reference.json.print
    (PresentationResponseMessage.toValue ⟨[offersJws offers]⟩))⟩

def offersToken : String :=
  (sampleHolder "").mintSelfIssuedToken sampleConfig.ownDid 1000 "a" "b"

def offersExchange (offers : List (Seconds × List String)) : Exchange where
  holder := ⟨(sampleHolder "").keyPair.signed ((sampleHolder "").t1Payload sampleConfig.ownDid
      ((sampleHolder "").accessToken 1000 "a") 1000 "b"),
    (sampleHolder "").ownDid, (sampleHolder "").keyPair.publishedDocument
      [("CredentialService", "https://holder.example/dsp/holder")]⟩
  vpJws := offersJws offers
  vp := (sampleHolder "").keyPair.signed (offersPayload offers)
  credentials := offers.map fun offer => ⟨sampleIssuer.signed (offerPayload offer),
    sampleIssuer.ownDid, sampleIssuer.publishedDocument []⟩

theorem offersHttp_resolves (offers : List (Seconds × List String)) (did : String) :
    resolveDid .reference (offersHttp offers) did false =
      resolveDid .reference (sampleHttp "") did false := by
  rw [offersHttp, resolveDid_answering]

theorem offers_presented {offers : List (Seconds × List String)} (some : offers ≠ []) :
    (offersExchange offers).Presents sampleConfig (.still 1000) offersToken (offersHttp offers)
      "c" where
  self_issued := by
    apply (sampleHolder "").selfIssued_minted
    · exact (offersHttp_resolves offers _).trans (sampleHolder_resolves "")
    · decide
  presented := (sampleHolder "").firstPresentation rfl
  vp_signed := by
    apply (sampleHolder "").keyPair.signedUnder_own
    have entries : ∀ item ∈ offers.map (fun offer =>
        Value.string (sampleIssuer.sign (offerPayload offer))), item.PlainWithin 124 := by
      intro item listed
      obtain ⟨offer, _, rfl⟩ := List.mem_map.mp listed
      simp
    simpa [offersPayload] using entries
  embedded := by
    have listed : embeddedCredentials (offersExchange offers).vp.payload =
        offers.map fun offer => .string (sampleIssuer.sign (offerPayload offer)) := rfl
    rw [listed, offersExchange, List.forall₂_map_left_iff, List.forall₂_map_right_iff,
      List.forall₂_same]
    intro offer _
    have plain : (offerPayload offer).PlainWithin 127 := by simp [offerPayload]
    exact ⟨_, rfl, sampleIssuer.issued_own plain rfl
      ((offersHttp_resolves offers _).trans (sampleIssuer_resolves ""))⟩
  nonempty := by simpa [offersExchange] using some

/-- One credential has expired, and the other one lists nothing. -/
def mixedOffers : List (Seconds × List String) := [(500, ["dataset"]), (5000, [])]

theorem offers_checks (offers : List (Seconds × List String)) :
    (VerifierClock.still 1000).checks (offersExchange offers).credentials =
      offers.map fun offer => (⟨sampleIssuer.signed (offerPayload offer), sampleIssuer.ownDid,
        sampleIssuer.publishedDocument []⟩, 1000) := by
  have times : ∀ vcs : List IssuedToken, (VerifierClock.still 1000).checks vcs =
      vcs.map fun vc => (vc, 1000) := by
    intro vcs
    conv_rhs => rw [← List.zipIdx_map_fst 0 vcs, List.map_map]
    rfl
  rw [times, offersExchange, List.map_map]
  rfl

@[simp]
theorem offer_expiry (offer : Seconds × List String) : expiry (offerPayload offer) = offer.1 := rfl

theorem offer_grants {offer : Seconds × List String} {id : String} :
    Grants 1000 ⟨sampleIssuer.signed (offerPayload offer), sampleIssuer.ownDid,
        sampleIssuer.publishedDocument []⟩ id ↔ 1000 < offer.1.count ∧ id ∈ offer.2 := by
  have entries : catalogAccessEntries (offerPayload offer) = offer.2 := by
    have listed : catalogAccessEntries (offerPayload offer) =
        (offer.2.map Value.string).filterMap Value.asStr := rfl
    rw [listed, List.filterMap_map]
    exact List.filterMap_some
  have expected : hasExpectedType (offerPayload offer) = true := rfl
  simp [Grants, DcpKeyPair.signed, entries, expected]

/-- The current one is refused for the expired one beside it. -/
theorem current_credential_is_refused :
    verifyDcpBearerTokenAt sampleConfig (.still 1000) offersToken (offersHttp mixedOffers) "c" =
      .error "all presented credentials are expired" ∧
    ¬OnlyAllExpiredFails sampleConfig (offersExchange mixedOffers) (.still 1000) offersToken
      (offersHttp mixedOffers) "c" := by
  have presents : (offersExchange mixedOffers).Presents sampleConfig (.still 1000) offersToken
      (offersHttp mixedOffers) "c" := offers_presented (by simp [mixedOffers])
  have failed : verifyDcpBearerTokenAt sampleConfig (.still 1000) offersToken
      (offersHttp mixedOffers) "c" = .error "all presented credentials are expired" := by
    rw [presents.verified, verdict_eq_error, offers_checks]
    constructor
    · simp only [List.forall_mem_map, offer_grants]
      simp [mixedOffers]
    · refine ⟨_, List.mem_map_of_mem (List.mem_cons_self : (500, ["dataset"]) ∈ mixedOffers), ?_⟩
      simp [Expired, DcpKeyPair.signed]
  refine ⟨failed, ?_⟩
  intro inert
  have all := inert.fails_iff.mp failed
  rw [offers_checks] at all
  simp [mixedOffers, Expired, DcpKeyPair.signed] at all

theorem current_credential_is_honoured :
    OnlyAllExpiredFails sampleConfig (offersExchange [(500, ["dataset"]), (5000, ["dataset"])])
      (.still 1000) offersToken (offersHttp [(500, ["dataset"]), (5000, ["dataset"])]) "c" := by
  apply (expired_credentials_are_inert_iff (offers_presented (by simp))).1.mpr
  intro _ _
  rw [offers_checks]
  refine ⟨_, List.mem_map_of_mem (List.mem_cons_of_mem _ List.mem_cons_self), "dataset", ?_⟩
  exact offer_grants.mpr (by simp)

end FederatedCatalog.Dcp
