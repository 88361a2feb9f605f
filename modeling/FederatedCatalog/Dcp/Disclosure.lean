import FederatedCatalog.Dcp.Grants
import FederatedCatalog.Foundation.Interleaving

/-!
# Disclosing the credential

A run of a holder: T1 tokens minted for providers, and presentation queries
with bearer tokens from anywhere.  The log of a run keeps which T2 was nested
in a T1 for whom, and every claim set the holder's key has signed.
-/

namespace FederatedCatalog.Dcp

open Foundation Json

variable {platform : Platform}

inductive HolderEvent where
  | mint (targetProviderDid : String) (now : Seconds) (accessJti jti : String)
  | answer (incomingBearerToken : String) (http : Http) (checkedAt now : Seconds) (jti : String)

/-- A T2, by what went into it, and the audience of the T1 around it. -/
structure Minted where
  targetProviderDid : String
  now : Seconds
  accessJti : String
  deriving DecidableEq

def Minted.expiresAt (minted : Minted) : Nat := minted.now + 300

structure HolderLog where
  minted : List Minted
  signed : List Value

def HolderLog.empty : HolderLog := ⟨[], []⟩

namespace HolderIdentity

variable (holder : HolderIdentity platform)

def after (log : HolderLog) : HolderEvent → HolderLog
  | .mint targetProviderDid now accessJti jti => {
      minted := log.minted ++ [⟨targetProviderDid, now, accessJti⟩]
      signed := log.signed ++ [holder.accessTokenPayload now accessJti,
        holder.t1Payload targetProviderDid (holder.accessToken now accessJti) now jti] }
  | .answer incomingBearerToken http checkedAt now jti =>
      match holder.answerPresentationQuery incomingBearerToken http checkedAt now jti with
      | .ok _ => { log with signed := log.signed ++ [holder.vpPayload now jti] }
      | .error _ => log

/-- Every event is possible at any time. -/
def step (log : HolderLog) (event : HolderEvent) : Option HolderLog := some (holder.after log event)

abbrev Run := Execution holder.step

def runOf (events : List HolderEvent) : holder.Run :=
  .ofEvents .empty events (by
    have all : events.foldlM holder.step HolderLog.empty =
        some (events.foldl holder.after HolderLog.empty) := List.foldlM_pure
    rw [all]
    rfl)

/-- The holder's key signs nothing but what the holder signs, and its DID
resolves to its own document where it resolves. -/
structure Ideal (run : holder.Run) : Prop where
  fresh : run.state 0 = .empty
  unforgeable : ∀ (index : Nat) token http checkedAt now jti decoded,
    run.events[index]? = some (HolderEvent.answer token http checkedAt now jti) →
    decodeJwsUnverified platform token = .ok decoded →
    verifyJwsSignature platform token holder.keyPair.verifyingKey = .ok () →
    ∃ payload ∈ (run.state index).signed,
      decoded.signingInput = signingInputOf platform payload holder.keyPair.ownKeyId
  ownDocument : ∀ (index : Nat) token http checkedAt now jti document,
    run.events[index]? = some (HolderEvent.answer token http checkedAt now jti) →
    resolveDid platform http holder.ownDid holder.insecureHttp = .ok document →
    DidDocument.fromValue holder.ownDidDocument = some document

abbrev SignedFor (http : Http) (checkedAt : Seconds) (token : String) (issued : IssuedToken) : Prop :=
  SelfIssued platform http holder.insecureHttp holder.ownDid token checkedAt issued

theorem answerPresentationQuery_isOk {token : String} {http : Http} {checkedAt now : Seconds}
    {jti : String} :
    (∃ response, holder.answerPresentationQuery token http checkedAt now jti = .ok response) ↔
      ∃ issued, holder.SignedFor http checkedAt token issued := by
  simp only [answerPresentationQuery, bind_eq_ok, authenticate_eq_ok]
  constructor
  · rintro ⟨response, issued, checked, _⟩
    exact ⟨issued, checked⟩
  · rintro ⟨issued, checked⟩
    exact ⟨_, issued, checked, rfl⟩

/-- Proof of original possession: the nested token is an unexpired T2 from a T1 for the issuer. -/
def Possesses (log : HolderLog) (checkedAt : Seconds) (issued : IssuedToken) : Prop :=
  ∃ minted ∈ log.minted, minted.targetProviderDid = issued.issuer ∧
    (issued.decoded.payload.get "token").bind Value.asStr =
      some (holder.accessToken minted.now minted.accessJti) ∧
    checkedAt < minted.expiresAt

/-- The credential is released only to those who possess a T2 minted for them. -/
def NeedsPossession (run : holder.Run) : Prop :=
  ∀ (index : Nat) token http checkedAt now jti response,
    run.events[index]? = some (HolderEvent.answer token http checkedAt now jti) →
    holder.answerPresentationQuery token http checkedAt now jti = .ok response →
    ∃ issued, holder.SignedFor http checkedAt token issued ∧
      holder.Possesses (run.state index) checkedAt issued

/-- The token's signed part is that of one of the holder's own T2. -/
def ForwardsAccessToken (log : HolderLog) (issued : IssuedToken) : Prop :=
  ∃ minted ∈ log.minted, issued.decoded.signingInput = signingInputOf platform
    (holder.accessTokenPayload minted.now minted.accessJti) holder.keyPair.ownKeyId

/-- No event presents a T2 bare, or another party's token without the T2 minted for it. -/
def Honest (log : HolderLog) : HolderEvent → Prop
  | .mint _ _ _ _ => True
  | .answer token http checkedAt _ _ =>
      ∀ issued, holder.SignedFor http checkedAt token issued →
        if issued.issuer = holder.ownDid then ¬holder.ForwardsAccessToken log issued
        else holder.Possesses log checkedAt issued

/-! ## What the key has signed -/

inductive Signs (log : HolderLog) : Value → Prop where
  | accessToken (minted : Minted) (logged : minted ∈ log.minted) :
      Signs log (holder.accessTokenPayload minted.now minted.accessJti)
  | selfIssued (minted : Minted) (logged : minted ∈ log.minted) (jti : String) :
      Signs log (holder.t1Payload minted.targetProviderDid
        (holder.accessToken minted.now minted.accessJti) minted.now jti)
  | presentation (now : Seconds) (jti : String) : Signs log (holder.vpPayload now jti)

variable {holder}

theorem Signs.mono {log later : HolderLog} (kept : ∀ minted ∈ log.minted, minted ∈ later.minted)
    {payload : Value} (signs : holder.Signs log payload) : holder.Signs later payload := by
  cases signs with
  | accessToken minted logged => exact .accessToken minted (kept minted logged)
  | selfIssued minted logged jti => exact .selfIssued minted (kept minted logged) jti
  | presentation now jti => exact .presentation now jti

theorem after_signs {log : HolderLog} (event : HolderEvent)
    (known : ∀ payload ∈ log.signed, holder.Signs log payload) :
    ∀ payload ∈ (holder.after log event).signed, holder.Signs (holder.after log event) payload := by
  intro payload membership
  cases event with
  | mint targetProviderDid now accessJti jti =>
      have logged : (⟨targetProviderDid, now, accessJti⟩ : Minted) ∈
          (holder.after log (.mint targetProviderDid now accessJti jti)).minted :=
        List.mem_append_right _ List.mem_cons_self
      rcases List.mem_append.mp membership with earlier | added
      · refine Signs.mono ?_ (known payload earlier)
        exact fun minted listed => List.mem_append_left _ listed
      · simp only [List.mem_cons, List.not_mem_nil, or_false] at added
        rcases added with rfl | rfl
        · exact .accessToken ⟨targetProviderDid, now, accessJti⟩ logged
        · exact .selfIssued ⟨targetProviderDid, now, accessJti⟩ logged jti
  | answer token http checkedAt now jti =>
      unfold after at membership ⊢
      dsimp only at membership ⊢
      split at membership
      · rcases List.mem_append.mp membership with earlier | added
        · refine Signs.mono ?_ (known payload earlier)
          exact fun _ logged => logged
        · rw [List.mem_singleton] at added
          subst added
          exact .presentation now jti
      · exact known payload membership

theorem signed_known (run : holder.Run) (fresh : run.state 0 = .empty) (index : Nat)
    (bounded : index ≤ run.events.length) :
    ∀ payload ∈ (run.state index).signed, holder.Signs (run.state index) payload := by
  apply run.invariant (fun _ log => ∀ payload ∈ log.signed, holder.Signs log payload) ?_ ?_
    index bounded
  · rw [fresh]
    intro payload membership
    cases membership
  · intro index event _ stepped known
    rw [← Option.some.inj stepped]
    exact after_signs event known

theorem Signs.plain {log : HolderLog} {payload : Value} (signs : holder.Signs log payload) :
    payload.PlainWithin 127 := by
  cases signs with
  | accessToken minted logged => exact holder.plainWithin_accessTokenPayload _ _
  | selfIssued minted logged jti => exact holder.plainWithin_t1Payload _ _ _ jti
  | presentation now jti => exact holder.plainWithin_vpPayload now jti

theorem own_signed {run : holder.Run} (ideal : holder.Ideal run) {index : Nat}
    {token : String} {http : Http} {checkedAt now : Seconds} {jti : String}
    (occurs : run.events[index]? = some (HolderEvent.answer token http checkedAt now jti))
    {issued : IssuedToken} (signedFor : holder.SignedFor http checkedAt token issued)
    (own : issued.issuer = holder.ownDid) :
    ∃ payload ∈ (run.state index).signed, issued.decoded.payload = payload ∧
      issued.decoded.signingInput =
        signingInputOf platform payload holder.keyPair.ownKeyId := by
  have resolved := signedFor.resolved
  rw [own] at resolved
  have published := ideal.ownDocument index token http checkedAt now jti _ occurs resolved
  rw [ownDidDocument, DcpKeyPair.fromValue_didDocument] at published
  obtain ⟨kid, key, _, found, verified⟩ := signedFor.signed.verified
  rw [← Option.some.inj published] at found
  obtain ⟨_, rfl⟩ := (DcpKeyPair.findVerifyingKey_published _ _ _ _).mp found
  obtain ⟨payload, membership, input⟩ := ideal.unforgeable index token http checkedAt now jti
    issued.decoded occurs signedFor.signed.decoded_eq verified
  obtain ⟨bounded, _⟩ := List.getElem?_eq_some_iff.mp occurs
  have known := signed_known run ideal.fresh index (by omega) payload membership
  exact ⟨payload, membership,
    (payload_of_signingInput platform signedFor.signed.decoded_eq known.plain input).1, input⟩

theorem ownDid_ne_empty (holder : HolderIdentity platform) : holder.ownDid ≠ "" := by
  intro empty
  rw [ownDid, holder.derived] at empty
  have lengths := congrArg String.length empty
  simp [String.length_append] at lengths

/-- Of the holder's own tokens only T2, and T1 addressed to itself, pass the checks. -/
theorem own_token_cases {run : holder.Run} (ideal : holder.Ideal run) {index : Nat}
    {token : String} {http : Http} {checkedAt now : Seconds} {jti : String}
    (occurs : run.events[index]? = some (HolderEvent.answer token http checkedAt now jti))
    {issued : IssuedToken} (signedFor : holder.SignedFor http checkedAt token issued)
    (own : issued.issuer = holder.ownDid) :
    holder.ForwardsAccessToken (run.state index) issued ∨
      holder.Possesses (run.state index) checkedAt issued := by
  obtain ⟨payload, membership, same, input⟩ := own_signed ideal occurs signedFor own
  obtain ⟨bounded, _⟩ := List.getElem?_eq_some_iff.mp occurs
  have aud := signedFor.aud
  have unexpired := signedFor.unexpired
  rw [same] at aud unexpired
  cases signed_known run ideal.fresh index (by omega) payload membership with
  | accessToken minted logged => exact .inl ⟨minted, logged, input⟩
  | selfIssued minted logged jti =>
      right
      refine ⟨minted, logged, ?_, ?_, ?_⟩
      · rw [own]
        simpa [t1Payload, List.lookup_cons] using aud
      · rw [same]
        simp [t1Payload, List.lookup_cons]
      · simpa [expiry, t1Payload, List.lookup_cons, Minted.expiresAt] using unexpired
  | presentation now jti =>
      -- the presentation has no `aud`
      have empty : "" = holder.ownDid := by simpa [vpPayload, List.lookup_cons] using aud
      exact absurd empty.symm holder.ownDid_ne_empty

theorem ForwardsAccessToken.not_possesses {log : HolderLog} {token : String} {http : Http}
    {checkedAt : Seconds} {issued : IssuedToken} (forwards : holder.ForwardsAccessToken log issued)
    (signedFor : holder.SignedFor http checkedAt token issued) :
    ¬holder.Possesses log checkedAt issued := by
  rintro ⟨_, _, _, nested, _⟩
  obtain ⟨minted, logged, input⟩ := forwards
  have signs : holder.Signs log _ := .accessToken minted logged
  have same :=
    (payload_of_signingInput platform signedFor.signed.decoded_eq signs.plain input).1
  rw [same] at nested
  simp [accessTokenPayload, List.lookup_cons] at nested

variable (holder)

def proofOf (config : DcpConfig platform) (minted : Minted) (now : Seconds) (jti : String) : String :=
  repackagedToken config holder.ownDid (holder.accessToken minted.now minted.accessJti) now jti

def readProof (config : DcpConfig platform) (minted : Minted) (now : Seconds) (jti : String) :
    IssuedToken where
  decoded := config.keyPair.signed (repackagedPayload config holder.ownDid
    (holder.accessToken minted.now minted.accessJti) now jti)
  issuer := config.ownDid
  document := config.keyPair.publishedDocument []

theorem readProof_signedFor {config : DcpConfig platform} {http : Http}
    (resolved : resolveDid platform http config.ownDid holder.insecureHttp =
      .ok (config.keyPair.publishedDocument []))
    (minted : Minted) {checkedAt now : Seconds} (jti : String) (recent : (checkedAt : Nat) < now + 300) :
    holder.SignedFor http checkedAt (holder.proofOf config minted now jti)
      (holder.readProof config minted now jti) where
  toIssued := config.keyPair.issued_own (plainWithin_repackagedPayload _ _ _ _ _) rfl resolved
  aud := rfl
  unexpired := by
    simpa [readProof, DcpKeyPair.signed, expiry, repackagedPayload, List.lookup_cons] using recent

/-- T3 from the provider that the T1 was minted for is proof of possession. -/
theorem readProof_possesses {config : DcpConfig platform} {log : HolderLog} {minted : Minted}
    (logged : minted ∈ log.minted) (addressed : minted.targetProviderDid = config.ownDid)
    {checkedAt : Seconds} (current : checkedAt < minted.expiresAt) (now : Seconds) (jti : String) :
    holder.Possesses log checkedAt (holder.readProof config minted now jti) :=
  ⟨minted, logged, addressed, rfl, current⟩

variable {holder}

theorem needs_possession_iff_honest (run : holder.Run) (ideal : holder.Ideal run) :
    holder.NeedsPossession run ↔
      ∀ index event, run.events[index]? = some event → holder.Honest (run.state index) event := by
  constructor
  · intro needs index event occurs
    cases event with
    | mint targetProviderDid now accessJti jti => trivial
    | answer token http checkedAt now jti =>
        intro issued signedFor
        have accepted : ∃ response,
            holder.answerPresentationQuery token http checkedAt now jti = .ok response :=
          holder.answerPresentationQuery_isOk.mpr ⟨issued, signedFor⟩
        obtain ⟨response, answered⟩ := accepted
        obtain ⟨other, again, possesses⟩ :=
          needs index token http checkedAt now jti response occurs answered
        rw [← signedFor.toIssued.unique again.toIssued] at possesses
        split
        · exact fun forwards => forwards.not_possesses signedFor possesses
        · exact possesses
  · intro honest index token http checkedAt now jti response occurs answered
    obtain ⟨issued, signedFor⟩ := holder.answerPresentationQuery_isOk.mp ⟨response, answered⟩
    have careful := honest index _ occurs issued signedFor
    refine ⟨issued, signedFor, ?_⟩
    split at careful
    · next own =>
        rcases own_token_cases ideal occurs signedFor own with forwards | possesses
        · exact absurd forwards careful
        · exact possesses
    · exact careful

def sampleRun (token : String) : (sampleHolder "credential").Run :=
  (sampleHolder "credential").runOf [.mint sampleConfig.ownDid 1000 "a" "b",
    .answer token (sampleHttp "credential") 1001 1001 "c"]

theorem sampleRun_answer {token presented : String} {http : Http} {index : Nat}
    {checkedAt now : Seconds} {jti : String} (occurs : (sampleRun token).events[index]? =
      some (HolderEvent.answer presented http checkedAt now jti)) :
    index = 1 ∧ presented = token ∧ http = sampleHttp "credential" ∧ checkedAt = 1001 := by
  match index with
  | 0 => cases occurs
  | 1 =>
      obtain ⟨rfl, rfl, rfl, _⟩ := HolderEvent.answer.inj (Option.some.inj occurs)
      exact ⟨rfl, rfl, rfl, rfl⟩
  | index + 2 => cases occurs

theorem sampleRun_ideal (token : String)
    (unforged : ∀ decoded, decodeJwsUnverified .reference token = .ok decoded →
      verifyJwsSignature .reference token (sampleHolder "credential").keyPair.verifyingKey =
        .ok () →
      ∃ payload ∈ ((sampleRun token).state 1).signed, decoded.signingInput =
        signingInputOf .reference payload (sampleHolder "credential").keyPair.ownKeyId) :
    (sampleHolder "credential").Ideal (sampleRun token) where
  fresh := rfl
  unforgeable := by
    intro index presented http checkedAt now jti decoded occurs
    obtain ⟨rfl, rfl, _, _⟩ := sampleRun_answer occurs
    exact unforged decoded
  ownDocument := by
    intro index presented http checkedAt now jti document occurs resolved
    obtain ⟨_, _, rfl, _⟩ := sampleRun_answer occurs
    rw [← Except.ok.inj ((sampleHolder_resolves "credential").symm.trans resolved)]
    exact DcpKeyPair.fromValue_didDocument _ _

def sampleAccessToken : String := (sampleHolder "credential").accessToken 1000 "a"

def sampleForward : IssuedToken where
  decoded := (sampleHolder "credential").keyPair.signed
    ((sampleHolder "credential").accessTokenPayload 1000 "a")
  issuer := (sampleHolder "credential").ownDid
  document := (sampleHolder "credential").keyPair.publishedDocument
    [("CredentialService", "https://holder.example/dsp/holder")]

theorem sampleForward_signedFor : (sampleHolder "credential").SignedFor (sampleHttp "credential")
    1001 sampleAccessToken sampleForward where
  toIssued := (sampleHolder "credential").keyPair.issued_own (plainWithin_accessTokenPayload _ _ _) rfl
    (sampleHolder_resolves "credential")
  aud := rfl
  unexpired := by
    simp [sampleForward, DcpKeyPair.signed, expiry, accessTokenPayload, List.lookup_cons]

theorem sampleForward_forwards : (sampleHolder "credential").ForwardsAccessToken
    ((sampleRun sampleAccessToken).state 1) sampleForward :=
  ⟨⟨sampleConfig.ownDid, 1000, "a"⟩, List.mem_cons_self, rfl⟩

theorem bare_forward_is_answered :
    (sampleHolder "credential").Ideal (sampleRun sampleAccessToken) ∧
      ¬(sampleHolder "credential").NeedsPossession (sampleRun sampleAccessToken) := by
  have signedFor := sampleForward_signedFor
  constructor
  · apply sampleRun_ideal
    intro decoded read _
    rw [Except.ok.inj (read.symm.trans signedFor.signed.decoded_eq)]
    exact ⟨(sampleHolder "credential").accessTokenPayload 1000 "a", List.mem_cons_self, rfl⟩
  · intro needs
    have accepted : ∃ response, (sampleHolder "credential").answerPresentationQuery
        sampleAccessToken (sampleHttp "credential") 1001 1001 "c" = .ok response :=
      (sampleHolder "credential").answerPresentationQuery_isOk.mpr ⟨sampleForward, signedFor⟩
    obtain ⟨response, answered⟩ := accepted
    obtain ⟨other, again, possesses⟩ := needs 1 _ _ _ _ _ response rfl answered
    rw [← signedFor.toIssued.unique again.toIssued] at possesses
    exact sampleForward_forwards.not_possesses signedFor possesses

def sampleMinted : Minted := ⟨sampleConfig.ownDid, 1000, "a"⟩

def sampleProof : String := (sampleHolder "credential").proofOf sampleConfig sampleMinted 1000 "d"

theorem sampleProof_foreign : ¬verifyJwsSignature .reference sampleProof
    (sampleHolder "credential").keyPair.verifyingKey = .ok () := by
  intro verified
  have minted := (verifyJwsSignature_minted .reference _ _ _ _).symm.trans verified
  have signature := Es256.ideal_verify.mp (mapErr_eq_ok.mp minted)
  have keys : Es256.ideal.key 2 = Es256.ideal.key 1 := congrArg Prod.fst signature
  have bytes := congrArg (fun key => key.1.head?) keys
  cases bytes

theorem sampleProof_signedFor : (sampleHolder "credential").SignedFor (sampleHttp "credential")
    1001 sampleProof
      ((sampleHolder "credential").readProof sampleConfig sampleMinted 1000 "d") := by
  have recent : ((1001 : Seconds) : Nat) < (1000 : Seconds) + 300 := by decide
  exact readProof_signedFor (sampleHolder "credential") (sampleConfig_resolves "credential")
    sampleMinted "d" recent

theorem repackaged_token_needs_possession :
    (sampleHolder "credential").NeedsPossession (sampleRun sampleProof) := by
  have ideal : (sampleHolder "credential").Ideal (sampleRun sampleProof) :=
    sampleRun_ideal sampleProof fun _ _ verified => absurd verified sampleProof_foreign
  apply (needs_possession_iff_honest (sampleRun sampleProof) ideal).mpr
  intro index event occurs
  cases event with
  | mint targetProviderDid now accessJti jti => trivial
  | answer presented http checkedAt now jti =>
      obtain ⟨rfl, rfl, rfl, rfl⟩ := sampleRun_answer occurs
      have logged : sampleMinted ∈ ((sampleRun sampleProof).state 1).minted :=
        List.mem_cons_self
      have current : ((1001 : Seconds) : Nat) < sampleMinted.expiresAt := by decide
      have other : ¬sampleConfig.ownDid = (sampleHolder "credential").ownDid := by decide +kernel
      intro issued again
      rw [again.toIssued.unique sampleProof_signedFor.toIssued]
      rw [if_neg (by exact other)]
      exact readProof_possesses (sampleHolder "credential") logged rfl current 1000 "d"

end HolderIdentity

end FederatedCatalog.Dcp
