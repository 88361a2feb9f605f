import FederatedCatalog.Dcp.Verifier

/-!
# What a verified caller is granted

Each stage of `verify_dcp_bearer_token` has a specification, and the whole
accepts exactly the exchanges in which every signature checks out.  The grants
are the union of what the unexpired credentials of the expected type list.
-/

namespace FederatedCatalog.Dcp

open Foundation Json

variable {platform : Platform} (config : DcpConfig platform)

def FirstPresentation (holder : IssuedToken) (http : Http) (now : Seconds) (jti vpJws : String) :
    Prop :=
  ∃ nestedToken credentialService response message,
    (holder.decoded.payload.get "token").bind Value.asStr = some nestedToken ∧
    serviceEndpointUrl holder.document "CredentialService" = .ok credentialService ∧
    http.post (credentialService ++ "/presentations/query")
      ("Bearer " ++ repackagedToken config holder.issuer nestedToken now jti)
      (queryBody config) = .ok response ∧
    response.isSuccess = true ∧
    response.json platform PresentationResponseMessage.fromValue = .ok message ∧
    message.presentation.head? = some vpJws

theorem queryPresentation_eq_ok {holder : IssuedToken} {http : Http} {now : Seconds}
    {jti vpJws : String} :
    queryPresentation config holder http now jti = .ok vpJws ↔
      FirstPresentation config holder http now jti vpJws := by
  simp only [queryPresentation, bind_eq_ok, okOr_eq_ok, mapErr_eq_ok, ensure_eq_ok,
    FirstPresentation]
  constructor
  · rintro ⟨nestedToken, nested, credentialService, served, response, answered, _, success,
      message, read, first⟩
    exact ⟨nestedToken, credentialService, response, message, nested, served, answered, success,
      read, first⟩
  · rintro ⟨nestedToken, credentialService, response, message, nested, served, answered, success,
      read, first⟩
    exact ⟨nestedToken, nested, credentialService, served, response, answered, (), success,
      message, read, first⟩

theorem verifyPresentation_eq_ok {holder : IssuedToken} {vpJws : String}
    {credentials : List Value} :
    verifyPresentation platform holder vpJws = .ok credentials ↔
      ∃ vp, SignedUnder platform holder.document vpJws vp ∧
        embeddedCredentials vp.payload = credentials ∧ credentials ≠ [] := by
  simp only [verifyPresentation, bind_eq_ok, okOr_eq_ok, ensure_eq_ok, pure_eq_ok]
  constructor
  · rintro ⟨vp, read, kid, kidRead, key, found, _, verified, _, present, rfl⟩
    exact ⟨vp, ⟨read, kid, key, kidRead, found, verified⟩, rfl, present⟩
  · rintro ⟨vp, ⟨read, kid, key, kidRead, found, verified⟩, rfl, present⟩
    exact ⟨vp, read, kid, kidRead, key, found, (), verified, (), present, rfl⟩

def Embeds (http : Http) (value : Value) (vc : IssuedToken) : Prop :=
  ∃ vcJws, value = .string vcJws ∧ Issued platform http config.insecureHttp vcJws vc

def Grants (now : Seconds) (vc : IssuedToken) (id : String) : Prop :=
  now < expiry vc.decoded.payload ∧ hasExpectedType vc.decoded.payload = true ∧
    id ∈ catalogAccessEntries vc.decoded.payload

theorem collectCredential_eq_ok {http : Http} {now : Seconds} {granted next : Granted}
    {value : Value} :
    collectCredential config http now granted value = .ok next ↔
      ∃ vc, Embeds config http value vc ∧ granted.note now vc = next := by
  simp only [collectCredential, bind_eq_ok, okOr_eq_ok, readIssued_eq_ok, pure_eq_ok, Embeds]
  constructor
  · rintro ⟨vcJws, text, vc, issued, result⟩
    exact ⟨vc, ⟨vcJws, Value.asStr_eq_some text, issued⟩, result⟩
  · rintro ⟨vc, ⟨vcJws, rfl, issued⟩, result⟩
    exact ⟨vcJws, rfl, vc, issued, result⟩

/-- The loop lets a presentation pass if every credential in it is verified. -/
theorem collectCredentials_eq_ok {http : Http} {now : Seconds} {granted result : Granted}
    {values : List Value} :
    values.foldlM (collectCredential config http now) granted = .ok result ↔
      ∃ vcs, List.Forall₂ (Embeds config http) values vcs ∧
        vcs.foldl (Granted.note now) granted = result := by
  induction values generalizing granted with
  | nil => simp
  | cons value rest inductionHypothesis =>
      simp only [List.foldlM_cons, bind_eq_ok, collectCredential_eq_ok, inductionHypothesis]
      constructor
      · rintro ⟨_, ⟨vc, embeds, rfl⟩, vcs, others, folded⟩
        exact ⟨vc :: vcs, .cons embeds others, folded⟩
      · rintro ⟨vcs, embedded, folded⟩
        cases embedded with
        | cons embeds others => exact ⟨_, ⟨_, embeds, rfl⟩, _, others, folded⟩

theorem embeds_unique (http : Http) : Relator.RightUnique (Embeds config http) := by
  rintro value vc again ⟨vcJws, rfl, issued⟩ ⟨_, ⟨⟩, issuedAgain⟩
  exact issued.unique issuedAgain

theorem mem_embedded {http : Http} {values : List Value} {vcs : List IssuedToken}
    (embedded : List.Forall₂ (Embeds config http) values vcs) {vc : IssuedToken} :
    vc ∈ vcs ↔ ∃ value ∈ values, Embeds config http value vc := by
  induction embedded with
  | nil => simp
  | cons embeds _ inductionHypothesis =>
      rw [List.mem_cons, inductionHypothesis]
      constructor
      · rintro (rfl | ⟨value, listed, embedsLater⟩)
        · exact ⟨_, List.mem_cons_self, embeds⟩
        · exact ⟨value, List.mem_cons_of_mem _ listed, embedsLater⟩
      · rintro ⟨value, listed, embedsIt⟩
        rcases List.mem_cons.mp listed with rfl | later
        · exact .inl (embeds_unique config http embedsIt embeds)
        · exact .inr ⟨value, later, embedsIt⟩

theorem mem_note {now : Seconds} {granted : Granted} {vc : IssuedToken} {id : String} :
    id ∈ (granted.note now vc).catalogAccess ↔ id ∈ granted.catalogAccess ∨ Grants now vc id := by
  unfold Granted.note Grants
  by_cases expired : expiry vc.decoded.payload ≤ now
  · rw [if_pos expired]
    have late : ¬now < expiry vc.decoded.payload := by omega
    simp [late]
  · rw [if_neg expired]
    have valid : now < expiry vc.decoded.payload := by omega
    by_cases expected : hasExpectedType vc.decoded.payload = true
    · rw [if_pos expected]
      simp [valid, expected]
    · rw [if_neg expected]
      simp [expected]

theorem hadExpired_note {now : Seconds} {granted : Granted} {vc : IssuedToken} :
    (granted.note now vc).hadExpiredCredential = true ↔
      granted.hadExpiredCredential = true ∨ expiry vc.decoded.payload ≤ now := by
  unfold Granted.note
  by_cases expired : expiry vc.decoded.payload ≤ now
  · simp [expired]
  · rw [if_neg expired]
    split <;> simp [expired]

def Granted.noteAll (granted : Granted) (checks : List (IssuedToken × Seconds)) : Granted :=
  checks.foldl (fun granted check => granted.note check.2 check.1) granted

theorem mem_noteAll {granted : Granted} {checks : List (IssuedToken × Seconds)} {id : String} :
    id ∈ (granted.noteAll checks).catalogAccess ↔
      id ∈ granted.catalogAccess ∨ ∃ check ∈ checks, Grants check.2 check.1 id := by
  induction checks generalizing granted with
  | nil => simp [Granted.noteAll]
  | cons check rest inductionHypothesis =>
      rw [Granted.noteAll, List.foldl_cons, ← Granted.noteAll, inductionHypothesis, mem_note,
        or_assoc]
      simp

theorem hadExpired_noteAll {granted : Granted} {checks : List (IssuedToken × Seconds)} :
    (granted.noteAll checks).hadExpiredCredential = true ↔
      granted.hadExpiredCredential = true ∨
        ∃ check ∈ checks, expiry check.1.decoded.payload ≤ check.2 := by
  induction checks generalizing granted with
  | nil => simp [Granted.noteAll]
  | cons check rest inductionHypothesis =>
      rw [Granted.noteAll, List.foldl_cons, ← Granted.noteAll, inductionHypothesis,
        hadExpired_note, or_assoc]
      simp

theorem notes_eq_noteAll (now : Seconds) (granted : Granted) (vcs : List IssuedToken) :
    vcs.foldl (Granted.note now) granted = granted.noteAll (vcs.map fun vc => (vc, now)) := by
  rw [Granted.noteAll, List.foldl_map]

theorem mem_notes {now : Seconds} {granted : Granted} {vcs : List IssuedToken} {id : String} :
    id ∈ (vcs.foldl (Granted.note now) granted).catalogAccess ↔
      id ∈ granted.catalogAccess ∨ ∃ vc ∈ vcs, Grants now vc id := by
  rw [notes_eq_noteAll, mem_noteAll]
  simp

theorem hadExpired_notes {now : Seconds} {granted : Granted} {vcs : List IssuedToken} :
    (vcs.foldl (Granted.note now) granted).hadExpiredCredential = true ↔
      granted.hadExpiredCredential = true ∨ ∃ vc ∈ vcs, expiry vc.decoded.payload ≤ now := by
  rw [notes_eq_noteAll, hadExpired_noteAll]
  simp

/-! ## The whole exchange -/

/-- What was read on the way to a verified caller. -/
structure Exchange where
  holder : IssuedToken
  vpJws : String
  vp : DecodedJws
  credentials : List IssuedToken

structure Exchange.Establishes (exchange : Exchange) (token : String) (http : Http) (now : Seconds)
    (jti : String) (caller : VerifiedCaller) : Prop where
  self_issued : SelfIssued platform http config.insecureHttp config.ownDid token now exchange.holder
  holderDid : exchange.holder.issuer = caller.holderDid
  presented : FirstPresentation config exchange.holder http now jti exchange.vpJws
  vp_signed : SignedUnder platform exchange.holder.document exchange.vpJws exchange.vp
  embedded : List.Forall₂ (Embeds config http) (embeddedCredentials exchange.vp.payload)
    exchange.credentials
  nonempty : exchange.credentials ≠ []
  access : ∀ id, id ∈ caller.catalogAccess ↔ ∃ vc ∈ exchange.credentials, Grants now vc id
  current : caller.catalogAccess = ∅ → ∀ vc ∈ exchange.credentials, now < expiry vc.decoded.payload

variable {config} {token : String} {http : Http} {now : Seconds} {jti : String}
  {caller : VerifiedCaller}

theorem verifyDcpBearerToken_eq_ok :
    verifyDcpBearerToken config token http now jti = .ok caller ↔
      ∃ exchange : Exchange, exchange.Establishes config token http now jti caller := by
  simp only [verifyDcpBearerToken, bind_eq_ok, authenticate_eq_ok, queryPresentation_eq_ok,
    verifyPresentation_eq_ok, collectCredentials_eq_ok, ensure_eq_ok, pure_eq_ok]
  constructor
  · rintro ⟨holder, selfIssued, vpJws, presented, _, ⟨vp, signed, rfl, present⟩, granted,
      ⟨vcs, embedded, rfl⟩, _, current, rfl⟩
    refine ⟨⟨holder, vpJws, vp, vcs⟩, selfIssued, rfl, presented, signed, embedded, ?_, ?_, ?_⟩
    · rintro rfl
      exact present (List.forall₂_nil_right_iff.mp embedded)
    · intro id
      simp [mem_notes]
    · intro empty vc membership
      by_contra expired
      refine current ⟨empty, hadExpired_notes.mpr (.inr ⟨vc, membership, ?_⟩)⟩
      omega
  · rintro ⟨⟨holder, vpJws, vp, vcs⟩, selfIssued, holderDid, presented, signed, embedded, nonempty,
      access, current⟩
    have same : (vcs.foldl (Granted.note now) ⟨∅, false⟩).catalogAccess = caller.catalogAccess := by
      ext id
      simp [mem_notes, access]
    refine ⟨holder, selfIssued, vpJws, presented, _, ⟨vp, signed, rfl, ?_⟩, _,
      ⟨vcs, embedded, rfl⟩, (), ?_, ?_⟩
    · intro empty
      dsimp only at embedded
      rw [empty] at embedded
      exact nonempty (List.forall₂_nil_left_iff.mp embedded)
    · rintro ⟨empty, expired⟩
      obtain ⟨vc, membership, late⟩ := (hadExpired_notes.mp expired).resolve_left (by simp)
      have valid := current (same ▸ empty) vc membership
      omega
    · rw [same]
      cases caller
      exact congrArg₂ VerifiedCaller.mk holderDid rfl

theorem Exchange.Establishes.unique {exchange other : Exchange} {another : VerifiedCaller}
    (first : exchange.Establishes config token http now jti caller)
    (second : other.Establishes config token http now jti another) : exchange = other := by
  rcases exchange with ⟨holder, vpJws, vp, vcs⟩
  rcases other with ⟨otherHolder, otherVpJws, otherVp, otherVcs⟩
  have sameHolder : holder = otherHolder :=
    first.self_issued.toIssued.unique second.self_issued.toIssued
  subst sameHolder
  have sameVpJws : vpJws = otherVpJws :=
    Except.ok.inj (((queryPresentation_eq_ok config).mpr first.presented).symm.trans
      ((queryPresentation_eq_ok config).mpr second.presented))
  subst sameVpJws
  have sameVp : vp = otherVp :=
    Except.ok.inj (first.vp_signed.decoded_eq.symm.trans second.vp_signed.decoded_eq)
  subst sameVp
  have sameVcs : vcs = otherVcs :=
    List.right_unique_forall₂' (embeds_unique config http) first.embedded second.embedded
  subst sameVcs
  rfl

def honestExchange (holder : HolderIdentity platform) (endpoint providerDid : String) (now : Seconds)
    (accessJti t1Jti vpJti : String) (vc : IssuedToken) : Exchange where
  holder := ⟨holder.keyPair.signed
      (holder.t1Payload providerDid (holder.accessToken now accessJti) now t1Jti),
    holder.ownDid, holder.keyPair.publishedDocument [("CredentialService", endpoint)]⟩
  vpJws := holder.keyPair.sign (holder.vpPayload now vpJti)
  vp := holder.keyPair.signed (holder.vpPayload now vpJti)
  credentials := [vc]

theorem HolderIdentity.selfIssued_minted (holder : HolderIdentity platform) {endpoint : String}
    {insecureHttp : Bool} {providerDid accessJti t1Jti : String} {mintedAt checkedAt : Seconds}
    (resolved : resolveDid platform http holder.ownDid insecureHttp =
      .ok (holder.keyPair.publishedDocument [("CredentialService", endpoint)]))
    (inTime : (checkedAt : Nat) < mintedAt + 300) :
    SelfIssued platform http insecureHttp providerDid
      (holder.mintSelfIssuedToken providerDid mintedAt accessJti t1Jti) checkedAt
      ⟨holder.keyPair.signed
        (holder.t1Payload providerDid (holder.accessToken mintedAt accessJti) mintedAt t1Jti),
        holder.ownDid, holder.keyPair.publishedDocument [("CredentialService", endpoint)]⟩ where
  toIssued := holder.keyPair.issued_own (HolderIdentity.plainWithin_t1Payload _ _ _ _ _) rfl resolved
  aud := rfl
  unexpired := by
    simpa [DcpKeyPair.signed, expiry, HolderIdentity.t1Payload, List.lookup_cons] using inTime

/-- A T1 is recognised for less than 300 seconds, and only by the DID that it is minted for. -/
theorem HolderIdentity.recognised_minted (holder : HolderIdentity platform) {insecureHttp : Bool}
    {ownDid target accessJti t1Jti : String} {mintedAt checkedAt : Seconds} {issued : IssuedToken}
    (recognised : SelfIssued platform http insecureHttp ownDid
      (holder.mintSelfIssuedToken target mintedAt accessJti t1Jti) checkedAt issued) :
    target = ownDid ∧ (checkedAt : Nat) < mintedAt + 300 := by
  have read := holder.keyPair.read_of_signed (HolderIdentity.plainWithin_t1Payload _ _ _ _ _)
    recognised.toIssued
  have aud := recognised.aud
  have unexpired := recognised.unexpired
  rw [read] at aud unexpired
  refine ⟨aud, ?_⟩
  simpa [DcpKeyPair.signed, expiry, HolderIdentity.t1Payload, List.lookup_cons] using unexpired

theorem HolderIdentity.firstPresentation (holder : HolderIdentity platform) {endpoint : String}
    {providerDid accessJti t1Jti vpJws : String} {mintedAt : Seconds}
    (answered : http.post (endpoint ++ "/presentations/query")
      ("Bearer " ++ repackagedToken config holder.ownDid (holder.accessToken mintedAt accessJti) now
        jti)
      (queryBody config) = .ok ⟨200, utf8 (platform.json.print
        (PresentationResponseMessage.toValue ⟨[vpJws]⟩))⟩) :
    FirstPresentation config
      ⟨holder.keyPair.signed
        (holder.t1Payload providerDid (holder.accessToken mintedAt accessJti) mintedAt t1Jti),
        holder.ownDid, holder.keyPair.publishedDocument [("CredentialService", endpoint)]⟩
      http now jti vpJws := by
  refine ⟨holder.accessToken mintedAt accessJti, endpoint, _, ⟨[vpJws]⟩, rfl, rfl, answered, rfl,
    ?_, rfl⟩
  simp only [HttpResponse.json, mapErr_eq_ok]
  exact TextFormat.readSlice_print platform.json PresentationResponseMessage.fromValue
    (PresentationResponseMessage.plainWithin_toValue _)
    (PresentationResponseMessage.fromValue_toValue _)

/-- A holder whose document is published and whose endpoint answers is granted what its
credential lists, whoever the credential was issued to. -/
theorem honestExchange_establishes {holder : HolderIdentity platform} {endpoint : String}
    {accessJti t1Jti vpJti : String} {vc : IssuedToken}
    (resolved : resolveDid platform http holder.ownDid config.insecureHttp =
      .ok (holder.keyPair.publishedDocument [("CredentialService", endpoint)]))
    (answered : http.post (endpoint ++ "/presentations/query")
      ("Bearer " ++ repackagedToken config holder.ownDid (holder.accessToken now accessJti) now jti)
      (queryBody config) = .ok ⟨200, utf8 (platform.json.print
        (PresentationResponseMessage.toValue
          ⟨[holder.keyPair.sign (holder.vpPayload now vpJti)]⟩))⟩)
    (issued : Issued platform http config.insecureHttp holder.credentialJws vc)
    (valid : now < expiry vc.decoded.payload)
    (expected : hasExpectedType vc.decoded.payload = true) :
    (honestExchange holder endpoint config.ownDid now accessJti t1Jti vpJti vc).Establishes config
      (holder.mintSelfIssuedToken config.ownDid now accessJti t1Jti) http now jti
      ⟨holder.ownDid, (catalogAccessEntries vc.decoded.payload).toFinset⟩ where
  self_issued := holder.selfIssued_minted resolved (by omega)
  holderDid := rfl
  presented := holder.firstPresentation answered
  vp_signed := holder.keyPair.signedUnder_own _ (HolderIdentity.plainWithin_vpPayload _ _ _)
  embedded := .cons ⟨holder.credentialJws, rfl, issued⟩ .nil
  nonempty := List.cons_ne_nil vc []
  access := by
    intro id
    simp [honestExchange, Grants, valid, expected]
  current := by
    intro _ other membership
    rw [List.mem_singleton.mp membership]
    exact valid

/-- Accepted is what every signature in the exchange vouches for, and granted is
exactly what its current credentials list. -/
theorem verified_callers_are_granted_exactly (config : DcpConfig platform) (token : String)
    (http : Http) (now : Seconds) (jti : String) (caller : VerifiedCaller) :
    verifyDcpBearerToken config token http now jti = .ok caller ↔
      (split '.' token).length = 3 ∧
        ∃ exchange : Exchange, exchange.Establishes config token http now jti caller := by
  rw [verifyDcpBearerToken_eq_ok]
  constructor
  · rintro ⟨exchange, establishes⟩
    exact ⟨three_segments platform establishes.self_issued.signed.decoded_eq, exchange,
      establishes⟩
  · rintro ⟨_, establishes⟩
    exact establishes

def GrantedByPresentation (config : DcpConfig platform) (token : String) (http : Http) (now : Seconds)
    (caller : VerifiedCaller) : Prop :=
  ∃ (holder : IssuedToken) (vpJws : String) (vp : DecodedJws),
    SelfIssued platform http config.insecureHttp config.ownDid token now holder ∧
    holder.issuer = caller.holderDid ∧
    SignedUnder platform holder.document vpJws vp ∧
    ∀ id, id ∈ caller.catalogAccess ↔ ∃ (vcJws : String) (vc : IssuedToken),
      .string vcJws ∈ embeddedCredentials vp.payload ∧
      Issued platform http config.insecureHttp vcJws vc ∧ Grants now vc id

theorem grants_come_from_presented_credentials
    (verified : verifyDcpBearerToken config token http now jti = .ok caller) :
    GrantedByPresentation config token http now caller := by
  obtain ⟨exchange, establishes⟩ := verifyDcpBearerToken_eq_ok.mp verified
  refine ⟨exchange.holder, exchange.vpJws, exchange.vp, establishes.self_issued,
    establishes.holderDid, establishes.vp_signed, ?_⟩
  intro id
  rw [establishes.access]
  constructor
  · rintro ⟨vc, membership, grants⟩
    obtain ⟨_, listed, vcJws, rfl, issued⟩ :=
      (mem_embedded config establishes.embedded).mp membership
    exact ⟨vcJws, vc, listed, issued, grants⟩
  · rintro ⟨vcJws, vc, listed, issued, grants⟩
    exact ⟨vc, (mem_embedded config establishes.embedded).mpr ⟨_, listed, vcJws, rfl, issued⟩,
      grants⟩

/-! ## A credential issued to somebody else -/

def sampleIssuer : DcpKeyPair .reference := .generate "did:web:issuer.example" (Es256.ideal.key 3)

def credentialPayload (subject : String) : Value :=
  .object [
    ("iss", .string sampleIssuer.ownDid),
    ("sub", .string subject),
    ("exp", .number (.posInt 5000)),
    ("vc", .object [
      ("type", .array [.string "VerifiableCredential", .string expectedCredentialType]),
      ("credentialSubject", .object [
        ("id", .string subject),
        ("catalogAccess", .array [.string "dataset"])])])]

def sampleCredential (subject : String) : String := sampleIssuer.sign (credentialPayload subject)

def sampleConfig : DcpConfig .reference :=
  .generate "did:web:provider.example:dsp" false "scope" (Es256.ideal.key 2)

def sampleHolder (credentialJws : String) : HolderIdentity .reference :=
  .new "holder.example" false credentialJws "scope" (Es256.ideal.key 1)

def sampleHttp (credentialJws : String) : Http :=
  .serving .reference
    [("https://holder.example/dsp/holder/did.json", (sampleHolder credentialJws).ownDidDocument),
      ("https://provider.example/dsp/did.json", sampleConfig.ownDidDocument),
      ("https://issuer.example/.well-known/did.json", sampleIssuer.didDocument [])]
    fun _ _ _ => .ok ⟨200, utf8 (Platform.reference.json.print (PresentationResponseMessage.toValue
      ⟨[(sampleHolder credentialJws).keyPair.sign
        ((sampleHolder credentialJws).vpPayload 1000 "vp")]⟩))⟩

theorem sampleHolder_serves (credentialJws : String) :
    ServesDocument .reference (sampleHttp credentialJws) (sampleHolder credentialJws).ownDid false
      (sampleHolder credentialJws).ownDidDocument := by
  have location : didWebToUrl ("did:web:" ++ replace ":" "%3A" "holder.example" ++ ":dsp:holder")
      false = .ok "https://holder.example/dsp/holder/did.json" := by
    decide +kernel
  exact servesDocument_serving .reference location List.lookup_cons_self

theorem sampleIssuer_serves (credentialJws : String) :
    ServesDocument .reference (sampleHttp credentialJws) sampleIssuer.ownDid false
      (sampleIssuer.didDocument []) := by
  have location : didWebToUrl sampleIssuer.ownDid false =
      .ok "https://issuer.example/.well-known/did.json" := by
    decide +kernel
  apply servesDocument_serving .reference location
  simp [List.lookup_cons]

theorem sampleConfig_serves (credentialJws : String) :
    ServesDocument .reference (sampleHttp credentialJws) sampleConfig.ownDid false
      sampleConfig.ownDidDocument := by
  have location : didWebToUrl sampleConfig.ownDid false =
      .ok "https://provider.example/dsp/did.json" := by
    decide +kernel
  apply servesDocument_serving .reference location
  simp [List.lookup_cons]

theorem sampleHolder_resolves (credentialJws : String) :
    resolveDid .reference (sampleHttp credentialJws) (sampleHolder credentialJws).ownDid false =
      .ok ((sampleHolder credentialJws).keyPair.publishedDocument
        [("CredentialService", "https://holder.example/dsp/holder")]) :=
  (sampleHolder_serves credentialJws).resolved (DcpKeyPair.plainWithin_didDocument _ _)
    (DcpKeyPair.fromValue_didDocument _ _)

theorem sampleIssuer_resolves (credentialJws : String) :
    resolveDid .reference (sampleHttp credentialJws) sampleIssuer.ownDid false =
      .ok (sampleIssuer.publishedDocument []) :=
  (sampleIssuer_serves credentialJws).resolved (DcpKeyPair.plainWithin_didDocument _ _)
    (DcpKeyPair.fromValue_didDocument _ _)

theorem sampleConfig_resolves (credentialJws : String) :
    resolveDid .reference (sampleHttp credentialJws) sampleConfig.ownDid false =
      .ok (sampleConfig.keyPair.publishedDocument []) :=
  (sampleConfig_serves credentialJws).resolved (DcpKeyPair.plainWithin_didDocument _ _)
    (DcpKeyPair.fromValue_didDocument _ _)

/-- The holder presents a credential that was issued to `subject`. -/
def sampleToken (subject : String) : String :=
  (sampleHolder (sampleCredential subject)).mintSelfIssuedToken sampleConfig.ownDid 1000 "a" "b"

def sampleExchange (subject : String) : Exchange :=
  honestExchange (sampleHolder (sampleCredential subject)) "https://holder.example/dsp/holder"
    sampleConfig.ownDid 1000 "a" "b" "vp" ⟨sampleIssuer.signed (credentialPayload subject),
      sampleIssuer.ownDid, sampleIssuer.publishedDocument []⟩

def sampleCaller (subject : String) : VerifiedCaller :=
  ⟨(sampleHolder (sampleCredential subject)).ownDid,
    (catalogAccessEntries (credentialPayload subject)).toFinset⟩

theorem sampleExchange_establishes (subject : String) :
    (sampleExchange subject).Establishes sampleConfig (sampleToken subject)
      (sampleHttp (sampleCredential subject)) 1000 "c" (sampleCaller subject) := by
  have plain : (credentialPayload subject).PlainWithin 127 := by
    simp [credentialPayload, Value.plainWithin_posInt]
  have issued := sampleIssuer.issued_own plain rfl
    (sampleIssuer_resolves (sampleCredential subject))
  have valid : 1000 < expiry (credentialPayload subject) := by
    simp [expiry, credentialPayload, List.lookup_cons]
  exact honestExchange_establishes (sampleHolder_resolves (sampleCredential subject)) rfl issued
    valid rfl

theorem dataset_granted (subject : String) : "dataset" ∈ (sampleCaller subject).catalogAccess := by
  simp [sampleCaller, catalogAccessEntries, credentialPayload, List.lookup_cons]

def GrantedToSubjects (config : DcpConfig platform) (token : String) (http : Http) (now : Seconds)
    (jti : String) (caller : VerifiedCaller) : Prop :=
  ∀ id ∈ caller.catalogAccess, ∃ exchange : Exchange,
    exchange.Establishes config token http now jti caller ∧
    ∃ vc ∈ exchange.credentials, Grants now vc id ∧
      (vc.decoded.payload.get "sub").bind Value.asStr = some caller.holderDid

theorem anothers_credential_is_honoured :
    verifyDcpBearerToken sampleConfig (sampleToken "did:web:alice.example")
        (sampleHttp (sampleCredential "did:web:alice.example")) 1000 "c" =
      .ok (sampleCaller "did:web:alice.example") ∧
    ¬GrantedToSubjects sampleConfig (sampleToken "did:web:alice.example")
      (sampleHttp (sampleCredential "did:web:alice.example")) 1000 "c"
      (sampleCaller "did:web:alice.example") := by
  have establishes := sampleExchange_establishes "did:web:alice.example"
  refine ⟨verifyDcpBearerToken_eq_ok.mpr ⟨_, establishes⟩, ?_⟩
  intro bound
  obtain ⟨exchange, again, vc, membership, _, subject⟩ := bound "dataset" (dataset_granted _)
  rw [← establishes.unique again] at membership
  rw [List.mem_singleton.mp membership] at subject
  have same : "did:web:alice.example" =
      "did:web:" ++ replace ":" "%3A" "holder.example" ++ ":dsp:holder" := Option.some.inj subject
  revert same
  decide +kernel

theorem own_credential_is_honoured :
    GrantedByPresentation sampleConfig (sampleToken "did:web:holder.example:dsp:holder")
      (sampleHttp (sampleCredential "did:web:holder.example:dsp:holder")) 1000
      (sampleCaller "did:web:holder.example:dsp:holder") :=
  grants_come_from_presented_credentials
    (verifyDcpBearerToken_eq_ok.mpr ⟨_, sampleExchange_establishes _⟩)

end FederatedCatalog.Dcp
