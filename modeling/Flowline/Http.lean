import Flowline.Retry
import Flowline.World.Basic

/-!
The two requests that a flow can make, with retries.
-/

namespace Flowline

/-- How requests are sent: the seconds that each may take, and the agent that they name. -/
structure HttpClient where
  timeout : Quantity
  userAgent : String
  deriving DecidableEq

namespace HttpClient

def failure (text : String) : Failure := .operation .http text

/-- A failure to send a request as one of the client, unless it comes from elsewhere than the
session. -/
def onFailure {α : Type} (text : String → String) (f : Failure) : Action World α :=
  .fail (if f.kind.isTransportError then failure (text f.text) else f)

/-- Errors after which a request is sent again. -/
def isRetryable (kind : ErrorKind) : Bool := kind.isKindOf (.operation .http)

/-- One attempt to get the text at an address. -/
def getOnce (c : HttpClient) (url : String) : Action World String :=
  (World.request (.get url [("User-Agent", c.userAgent)] c.timeout)).fork
    (fun reply =>
      if reply.isSuccess then .succeed reply.text
      else .fail (failure s!"error code on GET to URL {url}: {reply.status}"))
    (onFailure fun reason => s!"couldn't get URL {url}: {reason}")

/-- The text at an address. -/
def getText (c : HttpClient) (url : String) (retries : Int) (interval : Quantity) :
    Action World String := do
  Action.log .debug .http ("GET " ++ url) [("retries", .int retries)]
  Retry.run isRetryable ("GET " ++ url) retries interval World.sleep (c.getOnce url)

/-- Headers with one more of a name, instead of the one that is there. -/
def putHeader : Fields → String × String → Fields
  | [], h => [h]
  | (name, value) :: rest, h =>
      if name = h.1 then (name, h.2) :: rest else (name, value) :: putHeader rest h

/-- The headers of a request that gives some itself. -/
def headersWith (c : HttpClient) (own : Fields) : Fields :=
  own.foldl putHeader [("User-Agent", c.userAgent)]

/-- Whether a status tells that a text was taken. -/
def isPosted (status : Int) : Bool := status = 200 || status = 201

/-- A text as a request can carry it: one that is not well formed has no form in bytes. -/
def encodable : Text.Loose → Except Failure String
  | .whole s => .ok s
  | .torn t => .error (.unencodable t)

/-- The request that carries a text, sent if there is one. -/
def sendText (c : HttpClient) (url : String) (body : Text.Loose) (headers : Fields) :
    Action World Reply := do
  let text ← Action.ofResult (encodable body)
  World.request (.post url text (c.headersWith headers) c.timeout)

/-- One attempt to send a text to an address. -/
def postOnce (c : HttpClient) (url : String) (body : Text.Loose) (headers : Fields) :
    Action World Unit :=
  (c.sendText url body headers).fork
    (fun reply =>
      if isPosted reply.status then .succeed ()
      else .fail (failure s!"POST request to {url} returned error code {reply.status}"))
    (onFailure fun reason => s!"could not send POST request to {url}: {reason}")

/-- Sends a text to an address. -/
def postText (c : HttpClient) (url : String) (body : Text.Loose) (headers : Fields) (retries : Int)
    (interval : Quantity) : Action World Unit := do
  Action.log .debug .http ("POST " ++ url) [("retries", .int retries)]
  Retry.run isRetryable ("POST " ++ url) retries interval World.sleep (c.postOnce url body headers)

end HttpClient

end Flowline
