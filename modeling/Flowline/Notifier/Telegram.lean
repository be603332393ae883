import Flowline.Json.Reader
import Flowline.Value.Literal
import Flowline.World.Basic

/-!
Messages to a chat of the Telegram service. A message is one request; it is delivered if the status
tells success and the reply is an object that says so itself.
-/

namespace Flowline

/-- A chat to which messages are sent, by the address of the service for one bot. -/
structure Telegram where
  chatId : String
  url : String
  timeout : Quantity
  deriving DecidableEq

namespace Telegram

/-- A text without the slashes at its end. -/
def withoutFinalSlashes (s : String) : String :=
  String.ofList (s.toList.reverse.dropWhile (· = '/')).reverse

/-- The address to which the messages of a bot are sent. -/
def sendUrl (base token : String) : String :=
  withoutFinalSlashes base ++ "/bot" ++ token ++ "/sendMessage"

/-- A chat by the token of a bot and its own number, neither of which may be empty. -/
def of (token chatId base : String) (timeout : Quantity) : Except Failure Telegram :=
  if token.isEmpty then .error (.general .value "Telegram token is required")
  else if chatId.isEmpty then .error (.general .value "Telegram chat id is required")
  else .ok ⟨chatId, sendUrl base token, timeout⟩

def standardBase : String := "https://api.telegram.org"

def failure (text : String) : Failure := .operation .notification text

/-- What the service says against a message, if anything. -/
def complaint? (reply : Value) : Option String :=
  let named (name : String) : Value := match reply with
    | .map entries => (Entries.field? entries name).getD .null
    | _ => .null
  if (named "ok").isTruthy then none
  else
    let description := named "description"
    some (if description.isTruthy then description.display else "unknown error")

/-- Why a reply does not tell that a message was delivered. -/
def replyFailure? (t : Telegram) (reply : Reply) : Option Failure :=
  if !reply.isSuccess then
    some (failure s!"telegram notification to chat {t.chatId} returned {reply.status}")
  else match Json.read? reply.text with
    | none => some (failure "telegram notification returned a non-JSON body")
    | some v => (complaint? v).map fun text =>
        failure ("telegram notification returned an error: " ++ text)

/-- Sends a message. A failure of the session is told by its kind alone, for its text may show the
address and so the token. -/
def send (t : Telegram) (message : String) : Action World Unit :=
  (World.request (.form t.url [("chat_id", t.chatId), ("text", message)] t.timeout)).fork
    (fun reply => match t.replyFailure? reply with
      | some f => .fail f
      | none => .log .debug .telegram "Telegram message sent" [("chat_id", .text t.chatId)])
    (fun f => .fail (if f.kind.isTransportError then
      failure s!"telegram notification to chat {t.chatId} failed: {f.kind.name}" else f))

end Telegram

end Flowline
