import Flowline.Http
import Flowline.Proofs.Retry.Loop

/-!
Posts of texts. A text that has no form in bytes fails before there is a request; since it is no failure
of the session, nothing is tried again.
-/

namespace Flowline

/-- One half of a pair, alone. -/
def Text.Torn.lone : Torn := ⟨[.half 0], rfl⟩

namespace HttpClient

variable {interval : Quantity}

theorem postOnce_torn (c : HttpClient) (url : String) (text : Text.Torn) (headers : Fields) :
    c.postOnce url (.torn text) headers = .fail (.unencodable text) := rfl

/-- The attempts to post a text without a form in bytes come to one failure, after the record that
they begin. -/
theorem postText_torn (c : HttpClient) (url : String) (text : Text.Torn) (headers : Fields)
    (retries : Nat) (hInterval : interval.isNegative = false) :
    c.postText url (.torn text) headers retries interval =
      (Action.log .debug .http ("POST " ++ url) [("retries", .int retries)] >>= fun _ =>
        Action.fail (.unencodable text)) := by
  have hOnce (w : World) : Retry.run isRetryable ("POST " ++ url) retries interval World.sleep
      (c.postOnce url (.torn text) headers) w = Action.fail (.unencodable text) w := by
    rw [postOnce_torn, Retry.run_of_unretryable (f := .unencodable text) hInterval rfl rfl]
  rw [postText, Action.ext hOnce]

end HttpClient

end Flowline
