import Flowline.Notifier.Telegram
import Flowline.Proofs.Action

/-!
Messages to a chat, one at a time. Sending one is a request and then what becomes of the message by the
answer, so that both can be told apart from the world.
-/

namespace Flowline.Telegram

variable (chat : Telegram)

/-- The one request that sends a message. -/
def request (message : String) : Request :=
  .form chat.url [("chat_id", chat.chatId), ("text", message)] chat.timeout

/-- What becomes of a message, by the answer to its request. -/
def conclude : Answer → Action World Unit
  | .ok reply => match chat.replyFailure? reply with
    | some f => .fail f
    | none => .log .debug .telegram "Telegram message sent" [("chat_id", .text chat.chatId)]
  | .error f => .fail (if f.kind.isTransportError then
      failure s!"telegram notification to chat {chat.chatId} failed: {f.kind.name}" else f)

/-- Sending a message is its request and what becomes of it. -/
theorem send_apply (message : String) (w : World) :
    chat.send message w =
      (chat.conclude (w.session w.requests) { w with requests := w.requests + 1 }).after
        [.requested (chat.request message)] := by
  have hRequest : (World.request (chat.request message) w).result = w.session w.requests := rfl
  rw [send]
  cases hAnswer : w.session w.requests with
  | ok reply => exact Action.fork_of_ok _ _ (hRequest.trans hAnswer)
  | error f => exact Action.fork_of_error _ _ (hRequest.trans hAnswer)

/-- What becomes of a message is nothing to the world and shows only records. -/
theorem quiet_conclude (answer : Answer) (w : World) :
    (chat.conclude answer w).quiet = ⟨(chat.conclude answer w).result, [], w⟩ := by
  cases answer with
  | error f => rfl
  | ok reply =>
      rw [conclude]
      cases chat.replyFailure? reply <;> rfl

end Flowline.Telegram
