import FederatedCatalog.Dcp.HonestRun

/-!
# A fresh key for every start

A holder draws a new signing key whenever its process starts, and publishes
whichever key it has.  An exchange completes exactly when the holder is not
restarted between the minting of T1 and the answer to the presentation query:
after a restart the tokens of the process before are worth nothing, and the
next exchange completes as the first one did.
-/

namespace FederatedCatalog.Dcp

open Foundation Json

variable {platform : Platform}

structure HolderLife (platform : Platform) where
  ownDidHost : String
  insecureHttp : Bool
  credentialJws : String
  requiredScope : String
  /-- The key that each start draws. -/
  keys : Nat → platform.es256.SigningKey
  restarts : Nat → Bool

namespace HolderLife

variable (life : HolderLife platform)

def starts : Nat → Nat
  | 0 => 0
  | turn + 1 => if life.restarts turn then starts turn + 1 else starts turn

def process (turn : Nat) : HolderIdentity platform :=
  .new life.ownDidHost life.insecureHttp life.credentialJws life.requiredScope
    (life.keys (life.starts turn))

def ownDid : String := (life.process 0).ownDid

def endpoint : String := (life.process 0).endpoint

def Uninterrupted (first last : Nat) : Prop :=
  ∀ turn, first ≤ turn → turn < last → life.restarts turn = false

/-- Up to a turn, no start's key verifies what another start's key has signed. -/
def KeysApart (last : Nat) : Prop :=
  ∀ first second message, first ≤ life.starts last → second ≤ life.starts last →
    first ≠ second →
    platform.es256.verify (platform.es256.verifyingKey (life.keys first)) message
      (platform.es256.sign (life.keys second) message) ≠ .ok ()

theorem process_ownDid (turn : Nat) : (life.process turn).ownDid = life.ownDid := rfl

variable {life} {first last : Nat}

theorem starts_mono (inOrder : first ≤ last) : life.starts first ≤ life.starts last := by
  induction inOrder with
  | refl => exact le_rfl
  | step _ inductionHypothesis =>
      rw [starts]
      split <;> omega

theorem starts_eq_iff (inOrder : first ≤ last) :
    life.starts first = life.starts last ↔ life.Uninterrupted first last := by
  induction inOrder with
  | refl =>
      constructor
      · intro _ turn from_ before
        omega
      · intro _
        rfl
  | @step last inOrder inductionHypothesis =>
      have grows : life.starts first ≤ life.starts last := starts_mono inOrder
      cases restarted : life.restarts last with
      | true =>
          rw [starts, if_pos restarted]
          constructor
          · intro same
            omega
          · intro uninterrupted
            have kept := uninterrupted last inOrder (Nat.lt_succ_self last)
            rw [restarted] at kept
            cases kept
      | false =>
          rw [starts, if_neg (by simp [restarted]), inductionHypothesis]
          constructor
          · intro uninterrupted turn after before
            rcases Nat.lt_succ_iff_lt_or_eq.mp before with earlier | rfl
            · exact uninterrupted turn after earlier
            · exact restarted
          · intro uninterrupted turn after before
            exact uninterrupted turn after (Nat.lt_succ_of_lt before)

theorem Uninterrupted.process_eq (uninterrupted : life.Uninterrupted first last)
    (inOrder : first ≤ last) : life.process first = life.process last := by
  rw [process, process, (starts_eq_iff inOrder).mpr uninterrupted]

/-- Only the running process's document vouches for what a process has signed. -/
theorem signed_by_running (apart : life.KeysApart last) {signer reader : Nat}
    (signedBefore : signer ≤ last) (readBefore : reader ≤ last)
    {services : List (String × String)} {payload : Value} {decoded : DecodedJws}
    (signed : SignedUnder platform ((life.process reader).keyPair.publishedDocument services)
      ((life.process signer).keyPair.sign payload) decoded) :
    life.starts signer = life.starts reader := by
  obtain ⟨kid, key, _, found, verified⟩ := signed.verified
  obtain ⟨_, rfl⟩ := (DcpKeyPair.findVerifyingKey_published _ _ _ _).mp found
  have minted := (verifyJwsSignature_minted platform _ _ _ _).symm.trans verified
  by_contra different
  exact apart _ _ _ (starts_mono readBefore) (starts_mono signedBefore) (Ne.symm different)
    (mapErr_eq_ok.mp minted)

end HolderLife

/-- A holder answers whoever asks with a token of its own that is addressed to it. -/
theorem HolderIdentity.answers_repackaged (holder : HolderIdentity platform)
    {config : DcpConfig platform} {http : Http}
    (resolved : resolveDid platform http config.ownDid holder.insecureHttp =
      .ok (config.keyPair.publishedDocument []))
    {checkedAt now : Seconds} (inTime : (checkedAt : Nat) < now + 300) (nestedToken jti vpJti : String)
    (presentedAt : Seconds) :
    holder.answerPresentationQuery (repackagedToken config holder.ownDid nestedToken now jti) http
      checkedAt presentedAt vpJti =
        .ok ⟨[holder.keyPair.sign (holder.vpPayload presentedAt vpJti)]⟩ := by
  have recognised : SelfIssued platform http holder.insecureHttp holder.ownDid
      (repackagedToken config holder.ownDid nestedToken now jti) checkedAt
      ⟨config.keyPair.signed (repackagedPayload config holder.ownDid nestedToken now jti),
        config.ownDid, config.keyPair.publishedDocument []⟩ := {
    toIssued := config.keyPair.issued_own (plainWithin_repackagedPayload _ _ _ _ _) rfl resolved
    aud := rfl
    unexpired := by
      simpa [DcpKeyPair.signed, expiry, repackagedPayload, List.lookup_cons] using inTime }
  rw [answerPresentationQuery, authenticate_eq_ok.mpr recognised, ok_bind]
  rfl

theorem ExchangeDraws.Quick.t1_current {draws : ExchangeDraws} (quick : draws.Quick) :
    (draws.clock.t1 : Nat) < draws.mintedAt + 300 := by
  obtain ⟨minted, authenticated, asked, answered, presented, soon⟩ := quick
  omega

theorem ExchangeDraws.Quick.t3_current {draws : ExchangeDraws} (quick : draws.Quick) :
    (draws.checkedAt : Nat) < draws.clock.t3 + 300 := by
  obtain ⟨minted, authenticated, asked, answered, presented, soon⟩ := quick
  omega

/-- The turns at which T1 is minted, the holder's document is fetched, and the query answered. -/
structure Moments where
  minted : Nat
  resolved : Nat
  answered : Nat
  mintedFirst : minted ≤ resolved
  answeredLast : resolved ≤ answered

structure RestartNetwork (life : HolderLife platform) (config : DcpConfig platform)
    (issuer : DcpKeyPair platform) (moments : Moments) (draws : ExchangeDraws) (http : Http) :
    Prop where
  sameScheme : config.insecureHttp = life.insecureHttp
  holderDocument : ServesDocument platform http life.ownDid life.insecureHttp
    (life.process moments.resolved).ownDidDocument
  verifierDocument : ServesDocument platform http config.ownDid config.insecureHttp
    config.ownDidDocument
  issuerDocument : ∃ services, ServesDocument platform http issuer.ownDid config.insecureHttp
    (issuer.didDocument services)
  presentationApi : http.post (life.endpoint ++ "/presentations/query")
      ("Bearer " ++ draws.t3 (life.process moments.minted) config) (queryBody config) =
    .ok ((life.process moments.answered).presentationQueryRoute http draws.checkedAt
      draws.presentedAt draws.vpJti (draws.t3 (life.process moments.minted) config))

namespace RestartNetwork

variable {life : HolderLife platform} {config : DcpConfig platform}
  {issuer : DcpKeyPair platform} {moments : Moments} {draws : ExchangeDraws} {http : Http}
  (network : RestartNetwork life config issuer moments draws http)

include network

theorem holder_resolved : resolveDid platform http life.ownDid config.insecureHttp =
    .ok ((life.process moments.resolved).keyPair.publishedDocument
      [("CredentialService", life.endpoint)]) := by
  rw [network.sameScheme]
  exact network.holderDocument.resolved (DcpKeyPair.plainWithin_didDocument _ _)
    (DcpKeyPair.fromValue_didDocument _ _)

theorem verifier_resolved : resolveDid platform http config.ownDid life.insecureHttp =
    .ok (config.keyPair.publishedDocument []) := by
  rw [← network.sameScheme]
  exact network.verifierDocument.resolved (DcpKeyPair.plainWithin_didDocument _ _)
    (DcpKeyPair.fromValue_didDocument _ _)

theorem replied (inTime : (draws.checkedAt : Nat) < draws.clock.t3 + 300) :
    http.post (life.endpoint ++ "/presentations/query")
      ("Bearer " ++ draws.t3 (life.process moments.minted) config) (queryBody config) =
        .ok ⟨200, utf8 (platform.json.print (PresentationResponseMessage.toValue
          ⟨[draws.vpJws (life.process moments.answered)]⟩))⟩ := by
  have answers := (life.process moments.answered).answers_repackaged network.verifier_resolved
    inTime ((life.process moments.minted).accessToken draws.mintedAt draws.accessJti) draws.t3Jti
    draws.vpJti draws.presentedAt
  rw [network.presentationApi, HolderIdentity.presentationQueryRoute]
  unfold ExchangeDraws.t3
  simp only [life.process_ownDid] at answers ⊢
  rw [answers]
  rfl

end RestartNetwork

theorem verifyDcpBearerTokenAt_ok {config : DcpConfig platform} {clock : VerifierClock}
    {token jti : String} {http : Http} {caller : VerifiedCaller}
    (verified : verifyDcpBearerTokenAt config clock token http jti = .ok caller) :
    ∃ issued vpJws vp,
      SelfIssued platform http config.insecureHttp config.ownDid token clock.t1 issued ∧
      FirstPresentation config issued http clock.t3 jti vpJws ∧
      SignedUnder platform issued.document vpJws vp := by
  simp only [verifyDcpBearerTokenAt, bind_eq_ok, authenticate_eq_ok, queryPresentation_eq_ok,
    verifyPresentation_eq_ok] at verified
  obtain ⟨issued, selfIssued, vpJws, presented, _, ⟨vp, signed, _⟩, _⟩ := verified
  exact ⟨issued, vpJws, vp, selfIssued, presented, signed⟩

section Outcome

variable (life : HolderLife platform) (config : DcpConfig platform) (moments : Moments)
  (draws : ExchangeDraws) (http : Http)

structure RestartOutcome (vc : DecodedJws) : Prop where
  completes : life.Uninterrupted moments.minted moments.answered →
    verifyDcpBearerTokenAt config draws.clock (draws.t1 (life.process moments.minted) config) http
      draws.t3Jti = .ok ⟨life.ownDid, (catalogAccessEntries vc.payload).toFinset⟩
  /-- A restart before the document is fetched: the holder is not even asked. -/
  unauthenticated : ¬life.Uninterrupted moments.minted moments.resolved →
    ∃ error, authenticate platform http config.insecureHttp "this connector's" config.ownDid
      (draws.t1 (life.process moments.minted) config) draws.clock.t1 = .error error
  /-- A restart after that: the holder answers, and its presentation is not believed. -/
  unbelieved : life.Uninterrupted moments.minted moments.resolved →
    ¬life.Uninterrupted moments.resolved moments.answered →
    queryPresentation config (draws.caller (life.process moments.minted) config) http
        draws.clock.t3 draws.t3Jti = .ok (draws.vpJws (life.process moments.answered)) ∧
      ∃ error, verifyPresentation platform (draws.caller (life.process moments.minted) config)
        (draws.vpJws (life.process moments.answered)) = .error error
  fails : ¬life.Uninterrupted moments.minted moments.answered →
    ∃ error, verifyDcpBearerTokenAt config draws.clock
      (draws.t1 (life.process moments.minted) config) http draws.t3Jti = .error error

end Outcome

namespace RestartNetwork

variable {life : HolderLife platform} {config : DcpConfig platform}
  {issuer : DcpKeyPair platform} {moments : Moments} {draws : ExchangeDraws} {http : Http}
  (network : RestartNetwork life config issuer moments draws http)

include network

theorem recognised_uninterrupted (apart : life.KeysApart moments.answered) {issued : IssuedToken}
    (selfIssued : SelfIssued platform http config.insecureHttp config.ownDid
      (draws.t1 (life.process moments.minted) config) draws.clock.t1 issued) :
    life.Uninterrupted moments.minted moments.resolved := by
  have read := (life.process moments.minted).keyPair.read_of_signed
    (HolderIdentity.plainWithin_t1Payload _ _ _ _ _) selfIssued.toIssued
  have iss := selfIssued.iss
  rw [read] at iss
  have issuer : issued.issuer = life.ownDid := (Option.some.inj iss).symm
  have resolved := selfIssued.resolved
  rw [issuer, network.holder_resolved] at resolved
  have signed := selfIssued.signed
  rw [← Except.ok.inj resolved] at signed
  have same := HolderLife.signed_by_running apart
    (moments.mintedFirst.trans moments.answeredLast) moments.answeredLast signed
  exact (HolderLife.starts_eq_iff moments.mintedFirst).mp same

theorem caller_recognised
    (uninterrupted : life.Uninterrupted moments.minted moments.resolved)
    (inTime : (draws.clock.t1 : Nat) < draws.mintedAt + 300) :
    SelfIssued platform http config.insecureHttp config.ownDid
      (draws.t1 (life.process moments.minted) config) draws.clock.t1
      (draws.caller (life.process moments.minted) config) := by
  have resolved := network.holder_resolved
  rw [← uninterrupted.process_eq moments.mintedFirst] at resolved
  exact (life.process moments.minted).selfIssued_minted resolved inTime

theorem presented (inTime : (draws.checkedAt : Nat) < draws.clock.t3 + 300) :
    FirstPresentation config (draws.caller (life.process moments.minted) config) http
      draws.clock.t3 draws.t3Jti (draws.vpJws (life.process moments.answered)) :=
  (life.process moments.minted).firstPresentation (network.replied inTime)

omit network in
/-- A presentation is only believed if its process is the one that minted T1. -/
theorem believed_uninterrupted (apart : life.KeysApart moments.answered) {vp : DecodedJws}
    (signed : SignedUnder platform (draws.caller (life.process moments.minted) config).document
      (draws.vpJws (life.process moments.answered)) vp) :
    life.Uninterrupted moments.minted moments.answered := by
  have inOrder := moments.mintedFirst.trans moments.answeredLast
  have same := HolderLife.signed_by_running apart le_rfl inOrder signed
  exact (HolderLife.starts_eq_iff inOrder).mp same.symm

theorem presents (uninterrupted : life.Uninterrupted moments.minted moments.answered)
    (quick : draws.Quick) {vc : IssuedToken}
    (issued : Issued platform http config.insecureHttp life.credentialJws vc) :
    Exchange.Presents config
      ⟨draws.caller (life.process moments.minted) config,
        draws.vpJws (life.process moments.answered),
        (life.process moments.answered).keyPair.signed
          ((life.process moments.answered).vpPayload draws.presentedAt draws.vpJti), [vc]⟩
      draws.clock (draws.t1 (life.process moments.minted) config) http draws.t3Jti where
  self_issued := by
    have half : life.Uninterrupted moments.minted moments.resolved := by
      intro turn after before
      exact uninterrupted turn after (before.trans_le moments.answeredLast)
    exact network.caller_recognised half quick.t1_current
  presented := network.presented quick.t3_current
  vp_signed := by
    have vouched : SignedUnder platform
        (draws.caller (life.process moments.answered) config).document
        (draws.vpJws (life.process moments.answered))
        ((life.process moments.answered).keyPair.signed
          ((life.process moments.answered).vpPayload draws.presentedAt draws.vpJti)) :=
      (life.process moments.answered).keyPair.signedUnder_own _
        (HolderIdentity.plainWithin_vpPayload _ _ _)
    rw [uninterrupted.process_eq (moments.mintedFirst.trans moments.answeredLast)]
    exact vouched
  embedded := .cons ⟨life.credentialJws, rfl, issued⟩ .nil
  nonempty := List.cons_ne_nil _ []

/-- A restart at any time during an exchange makes it fail, and a later exchange completes. -/
theorem exchange_completes_iff_uninterrupted (apart : life.KeysApart moments.answered)
    (quick : draws.Quick) {vc : DecodedJws} (signed : issuer.HasSigned life.credentialJws vc)
    (expected : hasExpectedType vc.payload = true)
    (valid : draws.clock.credential 0 < expiry vc.payload) :
    RestartOutcome life config moments draws http vc := by
  have query := network.presented quick.t3_current
  constructor
  · intro uninterrupted
    obtain ⟨services, issuerDocument⟩ := network.issuerDocument
    have issued := signed.issued (issuerDocument.resolved (issuer.plainWithin_didDocument _)
      (issuer.fromValue_didDocument _))
    rw [(network.presents uninterrupted quick issued).verified]
    exact verdict_singleton life.ownDid valid expected
  · intro interrupted
    apply error_of_never_ok
    intro issued recognised
    exact interrupted (network.recognised_uninterrupted apart (authenticate_eq_ok.mp recognised))
  · intro _ interrupted
    refine ⟨(queryPresentation_eq_ok config).mpr query, ?_⟩
    apply error_of_never_ok
    intro credentials believed
    obtain ⟨vp, vouched, _⟩ := verifyPresentation_eq_ok.mp believed
    have whole := believed_uninterrupted apart vouched
    apply interrupted
    intro turn after
    exact whole turn (moments.mintedFirst.trans after)
  · intro interrupted
    apply error_of_never_ok
    intro caller verified
    obtain ⟨issued, vpJws, vp, selfIssued, presentation, vouched⟩ :=
      verifyDcpBearerTokenAt_ok verified
    have half := network.recognised_uninterrupted apart selfIssued
    have recognised := network.caller_recognised half quick.t1_current
    obtain rfl := selfIssued.toIssued.unique recognised.toIssued
    have read := ((queryPresentation_eq_ok config).mpr presentation).symm.trans
      ((queryPresentation_eq_ok config).mpr query)
    obtain rfl := Except.ok.inj read
    exact interrupted (believed_uninterrupted apart vouched)

end RestartNetwork

/-! ## A token from before a restart -/

def restartedHolder (credentialJws : String) : HolderLife .reference where
  ownDidHost := "holder.example"
  insecureHttp := false
  credentialJws := credentialJws
  requiredScope := "scope"
  keys start := if start = 0 then Es256.ideal.key 9 else Es256.ideal.key 1
  restarts turn := turn = 0

/-- T1 is minted just before the restart. -/
def acrossRestart : Moments := ⟨0, 1, 1, Nat.zero_le 1, le_rfl⟩

theorem restartedHolder_apart (credentialJws : String) :
    (restartedHolder credentialJws).KeysApart 1 := by
  intro first second message firstBefore secondBefore different verified
  have signature := Es256.ideal_verify.mp verified
  have keys : (restartedHolder credentialJws).keys second =
      (restartedHolder credentialJws).keys first := congrArg Prod.fst signature
  have bytes := congrArg (fun key : IdealKey => key.1.head?) keys
  have started : (restartedHolder credentialJws).starts 1 = 1 := rfl
  rw [started] at firstBefore secondBefore
  have starts : (first = 0 ∧ second = 1) ∨ (first = 1 ∧ second = 0) := by omega
  rcases starts with ⟨rfl, rfl⟩ | ⟨rfl, rfl⟩
  · cases bytes
  · cases bytes

theorem restartedHolder_network (credentialJws : String) :
    RestartNetwork (restartedHolder credentialJws) sampleConfig sampleIssuer acrossRestart
      sampleDraws (honestHttp credentialJws) where
  sameScheme := rfl
  holderDocument := (sampleHolder_serves credentialJws).answering _
  verifierDocument := (sampleConfig_serves credentialJws).answering _
  issuerDocument := ⟨[], (sampleIssuer_serves credentialJws).answering _⟩
  presentationApi := honestHttp_post credentialJws _ _ _

theorem token_of_the_old_process_fails :
    RestartOutcome (restartedHolder (sampleCredential "did:web:holder.example:dsp:holder"))
      sampleConfig acrossRestart sampleDraws
      (honestHttp (sampleCredential "did:web:holder.example:dsp:holder"))
      (sampleIssuer.signed (credentialPayload "did:web:holder.example:dsp:holder")) := by
  have plain : (credentialPayload "did:web:holder.example:dsp:holder").PlainWithin 127 := by
    simp [credentialPayload, Value.plainWithin_posInt]
  exact (restartedHolder_network _).exchange_completes_iff_uninterrupted (restartedHolder_apart _)
    (by constructor <;> decide) (sampleIssuer.hasSigned_sign plain rfl) rfl (by decide)

end FederatedCatalog.Dcp
