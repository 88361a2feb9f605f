import FederatedCatalog.Dcp.Grants
import FederatedCatalog.Http.Wire

/-!
# Who may see what

`authorize` resolves a request's `Authorization` header to the dataset ids its
caller may see, or refuses it.
-/

namespace FederatedCatalog.Http

open Foundation Json Dcp

/-- What the endpoints read of a request: the bytes of its `Authorization` header. -/
structure Headers where
  authorization : Option (List UInt8)

/-- `HeaderValue::to_str`: visible ASCII only. -/
def headerText (bytes : List UInt8) : Option String :=
  if bytes.all fun byte => (32 ≤ byte && byte < 127) || byte = 9 then
    some (String.ofList (bytes.map fun byte => Char.ofNat byte.toNat))
  else none

/-- The token of a `Bearer` header, if there is one that is not blank. -/
def bearerToken (headers : Headers) : Option String := do
  let value ← headers.authorization
  let text ← headerText value
  let rest ← stripPrefix "Bearer " text
  let token := trim rest
  if token = "" then none else some token

inductive DspAuthMode where
  | disabled
  | bearer
  | dcp
  deriving DecidableEq

structure DspAuthConfig (platform : Platform) where
  mode : DspAuthMode
  catalogAccess : String → Option (Finset String)
  dcp : Option (DcpConfig platform)
  /-- What `load_dsp_auth` guarantees. -/
  consistent : mode = .dcp → dcp.isSome = true

inductive Body where
  | catalog (document : DspCatalog)
  | dataset (document : DspDataset)
  | catalogError (problem : DspCatalogError)
  | error (message : String)

def Body.toValue : Body → Value
  | .catalog document => document.toValue
  | .dataset document => document.toValue
  | .catalogError problem => problem.toValue
  | .error message => .object [("error", .string message)]

structure Response where
  status : Nat
  body : Body

def unauthorizedResponse : Supply String Response := do
  return ⟨401, .catalogError (← DspCatalogError.unauthorized)⟩

variable {platform : Platform}

/-- `none` is a caller who may see everything. -/
def authorize (auth : DspAuthConfig platform) (headers : Headers) (http : Dcp.Http) (now : Seconds)
    (jti : String) : Supply String (Except Response (Option (Finset String))) :=
  if auth.mode = .disabled then
    return .ok none
  else
    match bearerToken headers with
    | none => return .error (← unauthorizedResponse)
    | some token =>
        match mode : auth.mode with
        -- handled above
        | .disabled => return .ok none
        | .bearer => return .ok (some ((auth.catalogAccess token).getD ∅))
        | .dcp =>
            let config := auth.dcp.get (auth.consistent mode)
            match verifyDcpBearerToken config token http now jti with
            | .ok verified => return .ok (some verified.catalogAccess)
            | .error _ => return .error (← unauthorizedResponse)

/-- The caller of a request may see the datasets in a set of ids, or everything. -/
inductive Entitled (auth : DspAuthConfig platform) (headers : Headers) (http : Dcp.Http)
    (now : Seconds) (jti : String) : Option (Finset String) → Prop where
  | disabled (mode : auth.mode = .disabled) : Entitled auth headers http now jti none
  | bearer (mode : auth.mode = .bearer) {token : String}
      (presented : bearerToken headers = some token) :
      Entitled auth headers http now jti (some ((auth.catalogAccess token).getD ∅))
  | dcp (mode : auth.mode = .dcp) {config : DcpConfig platform}
      (configured : auth.dcp = some config) {token : String}
      (presented : bearerToken headers = some token) {caller : VerifiedCaller}
      (verified : verifyDcpBearerToken config token http now jti = .ok caller) :
      Entitled auth headers http now jti (some caller.catalogAccess)

variable (auth : DspAuthConfig platform) (headers : Headers) (http : Dcp.Http) (now : Seconds)
  (jti : String)

/-- A refusal: 401, and nothing about the catalog. -/
def Refusal (response : Response) : Prop :=
  ∃ id, response = ⟨401, .catalogError ⟨[dspContextUrl], id, "CatalogError", "UNAUTHORIZED"⟩⟩

theorem unauthorizedResponse_gives : Supply.Gives unauthorizedResponse Refusal :=
  fun names => ⟨"urn:uuid:" ++ names 0, rfl⟩

/-- Either the caller is entitled to something, or every request is refused. -/
theorem authorize_cases :
    (∃ allowed, Entitled auth headers http now jti allowed ∧
      authorize auth headers http now jti = pure (.ok allowed)) ∨
    ((∀ allowed, ¬Entitled auth headers http now jti allowed) ∧
      authorize auth headers http now jti = do return .error (← unauthorizedResponse)) := by
  unfold authorize
  by_cases disabled : auth.mode = .disabled
  · rw [if_pos disabled]
    exact .inl ⟨none, .disabled disabled, rfl⟩
  · rw [if_neg disabled]
    cases presented : bearerToken headers with
    | none =>
        right
        refine ⟨?_, rfl⟩
        rintro allowed (mode | ⟨_, token⟩ | ⟨_, _, token, _⟩)
        · exact disabled mode
        · rw [presented] at token
          cases token
        · rw [presented] at token
          cases token
    | some token =>
        dsimp only
        split
        · next mode => exact absurd mode disabled
        · next mode => exact .inl ⟨_, .bearer mode presented, rfl⟩
        · next mode =>
          have configured : auth.dcp = some (auth.dcp.get (auth.consistent mode)) :=
            (Option.some_get _).symm
          split
          · next caller verified =>
            exact .inl ⟨_, .dcp mode configured presented verified, rfl⟩
          · next message refused =>
            right
            refine ⟨?_, rfl⟩
            rintro allowed (disabledMode | ⟨bearerMode, _⟩ | ⟨_, other, again, verified⟩)
            · exact disabled disabledMode
            · rw [mode] at bearerMode
              cases bearerMode
            · rw [configured] at other
              cases other
              rw [presented] at again
              cases again
              rw [refused] at verified
              cases verified

theorem Entitled.unique {auth : DspAuthConfig platform} {headers : Headers} {http : Dcp.Http}
    {now : Seconds} {jti : String} {allowed other : Option (Finset String)}
    (first : Entitled auth headers http now jti allowed)
    (second : Entitled auth headers http now jti other) : allowed = other := by
  cases first with
  | disabled mode =>
      cases second with
      | disabled _ => rfl
      | bearer otherMode _ => cases mode.symm.trans otherMode
      | dcp otherMode _ _ _ => cases mode.symm.trans otherMode
  | bearer mode presented =>
      cases second with
      | disabled otherMode => cases mode.symm.trans otherMode
      | bearer _ again =>
          cases presented.symm.trans again
          rfl
      | dcp otherMode _ _ _ => cases mode.symm.trans otherMode
  | dcp mode configured presented verified =>
      cases second with
      | disabled otherMode => cases mode.symm.trans otherMode
      | bearer otherMode _ => cases mode.symm.trans otherMode
      | dcp _ configuredAgain again verifiedAgain =>
          cases configured.symm.trans configuredAgain
          cases presented.symm.trans again
          cases verified.symm.trans verifiedAgain
          rfl

variable {auth : DspAuthConfig platform} {headers : Headers} {http : Dcp.Http} {now : Seconds}
  {jti : String}

theorem Entitled.authorize_eq {allowed : Option (Finset String)}
    (entitled : Entitled auth headers http now jti allowed) :
    authorize auth headers http now jti = pure (.ok allowed) := by
  rcases authorize_cases auth headers http now jti with ⟨other, otherEntitled, same⟩ | ⟨refused, _⟩
  · rw [entitled.unique otherEntitled, same]
  · exact absurd entitled (refused allowed)

theorem authorize_refused
    (refused : ∀ allowed, ¬Entitled auth headers http now jti allowed) :
    authorize auth headers http now jti = do return .error (← unauthorizedResponse) := by
  rcases authorize_cases auth headers http now jti with ⟨_, entitled, _⟩ | ⟨_, same⟩
  · exact absurd entitled (refused _)
  · exact same

theorem dropWhile_isBlank {chars : List Char} (solid : ∀ char ∈ chars, isBlank char = false) :
    chars.dropWhile isBlank = chars := by
  cases chars with
  | nil => rfl
  | cons char rest => rw [List.dropWhile_cons_of_neg (by simp [solid char List.mem_cons_self])]

theorem trim_solid {text : String} (solid : ∀ char ∈ text.toList, isBlank char = false) :
    trim text = text := by
  have back : ∀ char ∈ text.toList.reverse, isBlank char = false :=
    fun char listed => solid char (List.mem_reverse.mp listed)
  rw [trim, dropWhile_isBlank solid, dropWhile_isBlank back, List.reverse_reverse,
    String.ofList_toList]

theorem headerText_utf8 {text : String}
    (visible : ∀ char ∈ text.toList, 32 ≤ char.toNat ∧ char.toNat < 127) :
    headerText (utf8 text) = some text := by
  have ascii : ∀ char ∈ text.toList, char.toNat < 128 := fun char listed =>
    (visible char listed).2.trans (by decide)
  have kept : ∀ char ∈ text.toList, char.toNat.toUInt8.toNat = char.toNat := by
    intro char listed
    exact UInt8.toNat_ofNat_of_lt' ((ascii char listed).trans (by decide))
  have bytes := utf8_ofList ascii
  rw [String.ofList_toList] at bytes
  have all : (utf8 text).all (fun byte => (32 ≤ byte && byte < 127) || byte = 9) = true := by
    rw [bytes, List.all_map, List.all_eq_true]
    intro char listed
    have ⟨low, high⟩ := visible char listed
    have same := kept char listed
    simp only [Function.comp_apply, Bool.or_eq_true, Bool.and_eq_true, decide_eq_true_eq]
    left
    rw [UInt8.le_iff_toNat_le, UInt8.lt_iff_toNat_lt, same]
    exact ⟨low, high⟩
  have chars : (utf8 text).map (fun byte => Char.ofNat byte.toNat) = text.toList := by
    rw [bytes, List.map_map]
    conv_rhs => rw [← List.map_id text.toList]
    apply List.map_congr_left
    intro char listed
    rw [Function.comp_apply, kept char listed, Char.ofNat_toNat]
    rfl
  rw [headerText, if_pos all, chars, String.ofList_toList]

structure Printable (text : String) : Prop where
  nonempty : text ≠ ""
  visible : ∀ char ∈ text.toList, 33 ≤ char.toNat ∧ char.toNat < 127

theorem bearerToken_printable {token : String} (printable : Printable token) :
    bearerToken ⟨some (utf8 ("Bearer " ++ token))⟩ = some token := by
  have read : headerText (utf8 ("Bearer " ++ token)) = some ("Bearer " ++ token) := by
    apply headerText_utf8
    intro char listed
    rw [String.toList_append, List.mem_append] at listed
    rcases listed with scheme | inToken
    · have checked : "Bearer ".toList.all (fun char => 32 ≤ char.toNat ∧ char.toNat < 127) := by
        decide +kernel
      have ⟨low, high⟩ : 32 ≤ char.toNat ∧ char.toNat < 127 := by
        simpa using List.all_eq_true.mp checked char scheme
      omega
    · have ⟨low, high⟩ := printable.visible char inToken
      omega
  have trimmed : trim token = token := by
    apply trim_solid
    intro char listed
    have ⟨low, _⟩ := printable.visible char listed
    unfold isBlank
    simp only [Bool.or_eq_false_iff, decide_eq_false_iff_not]
    constructor
    · rintro rfl
      revert low
      decide
    · rintro rfl
      revert low
      decide
  simp only [bearerToken, Option.bind_eq_bind, Option.bind_some, read, stripPrefix_append, trimmed,
    if_neg printable.nonempty]

end FederatedCatalog.Http
