import FederatedCatalog.Dcp.Did

/-!
# Tokens and their issuers

The check that both DCP roles begin with: a token has to verify under the key
that its own `iss` lists for its `kid`, and a self-issued one has to be
addressed to the reader and not expired.
-/

namespace FederatedCatalog.Dcp

open Foundation Json

variable (platform : Platform)

structure IssuedToken where
  decoded : DecodedJws
  issuer : String
  document : DidDocument

def readIssued (http : Http) (insecureHttp : Bool) (what token : String) :
    Except String IssuedToken := do
  let decoded ← decodeJwsUnverified platform token
  let issuer ← okOr ((decoded.payload.get "iss").bind Value.asStr) (what ++ " has no iss")
  let kid ← okOr ((decoded.header.get "kid").bind Value.asStr) (what ++ " has no kid")
  let document ← resolveDid platform http issuer insecureHttp
  let key ← findVerifyingKey platform document kid
  verifyJwsSignature platform token key
  return ⟨decoded, issuer, document⟩

/-- An absent `exp` is the epoch. -/
def expiry (payload : Value) : Nat := ((payload.get "exp").bind Value.asU64).getD 0

/-- The checks on a self-issued token; `whose` is how the reader names itself. -/
def authenticate (http : Http) (insecureHttp : Bool) (whose ownDid token : String) (now : Seconds) :
    Except String IssuedToken := do
  let issued ← readIssued platform http insecureHttp "token" token
  let aud := ((issued.decoded.payload.get "aud").bind Value.asStr).getD ""
  ensure (aud = ownDid) ("token audience '" ++ aud ++ "' does not match " ++ whose ++ " DID '" ++
    ownDid ++ "'")
  ensure (now < expiry issued.decoded.payload) "token has expired"
  return issued

/-- The token decodes, and verifies under the key that a document lists for its `kid`. -/
structure SignedUnder (document : DidDocument) (token : String) (decoded : DecodedJws) :
    Prop where
  decoded_eq : decodeJwsUnverified platform token = .ok decoded
  verified : ∃ kid key,
    (decoded.header.get "kid").bind Value.asStr = some kid ∧
    findVerifyingKey platform document kid = .ok key ∧
    verifyJwsSignature platform token key = .ok ()

structure Issued (http : Http) (insecureHttp : Bool) (token : String) (issued : IssuedToken) :
    Prop where
  iss : (issued.decoded.payload.get "iss").bind Value.asStr = some issued.issuer
  resolved : resolveDid platform http issued.issuer insecureHttp = .ok issued.document
  signed : SignedUnder platform issued.document token issued.decoded

structure SelfIssued (http : Http) (insecureHttp : Bool) (ownDid token : String) (now : Seconds)
    (issued : IssuedToken) : Prop extends Issued platform http insecureHttp token issued where
  aud : ((issued.decoded.payload.get "aud").bind Value.asStr).getD "" = ownDid
  unexpired : now < expiry issued.decoded.payload

variable {platform} {http : Http} {insecureHttp : Bool} {what whose ownDid token : String}
  {now : Seconds} {issued : IssuedToken}

theorem readIssued_eq_ok :
    readIssued platform http insecureHttp what token = .ok issued ↔
      Issued platform http insecureHttp token issued := by
  simp only [readIssued, bind_eq_ok, okOr_eq_ok, pure_eq_ok]
  constructor
  · rintro ⟨decoded, read, issuer, iss, kid, kidRead, document, resolved, key, found, _, verified,
      rfl⟩
    exact ⟨iss, resolved, read, kid, key, kidRead, found, verified⟩
  · rintro ⟨iss, resolved, read, kid, key, kidRead, found, verified⟩
    exact ⟨issued.decoded, read, issued.issuer, iss, kid, kidRead, issued.document, resolved, key,
      found, (), verified, rfl⟩

theorem authenticate_eq_ok :
    authenticate platform http insecureHttp whose ownDid token now = .ok issued ↔
      SelfIssued platform http insecureHttp ownDid token now issued := by
  simp only [authenticate, bind_eq_ok, readIssued_eq_ok, ensure_eq_ok, pure_eq_ok]
  constructor
  · rintro ⟨_, checked, _, aud, _, unexpired, rfl⟩
    exact ⟨checked, aud, unexpired⟩
  · rintro ⟨checked, aud, unexpired⟩
    exact ⟨issued, checked, (), aud, (), unexpired, rfl⟩

theorem Issued.unique {other : IssuedToken}
    (first : Issued platform http insecureHttp token issued)
    (second : Issued platform http insecureHttp token other) : issued = other := by
  have read : ∀ {issued}, Issued platform http insecureHttp token issued →
      readIssued platform http insecureHttp "" token = .ok issued := readIssued_eq_ok.mpr
  exact Except.ok.inj ((read first).symm.trans (read second))

end FederatedCatalog.Dcp
