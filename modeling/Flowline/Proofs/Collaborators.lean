import Flowline.Interpreter
import Flowline.Proofs.Action

/-!
What the collaborators of a run emit: requests, sleeps, printed and sent messages, and records of
their own loggers.
-/

namespace Flowline

/-- The parts of the program that do the operations of steps. -/
def Log.Logger.isCollaborator : Log.Logger → Bool
  | .retry | .http | .channels | .telegram => true
  | _ => false

/-- A record of one of these parts. None of them tells of an error, or warns. -/
structure Log.Entry.OfCollaborator (entry : Log.Entry) : Prop where
  logger : entry.logger.isCollaborator = true
  level : entry.level = .debug

theorem Action.Emits.world {P : Event → Prop} {α : Type} {x : Action World α} (h : x.Emits P) :
    (Run.inWorld x).Emits P := h.onPart

variable {P : Event → Prop}

/-! ## Retries -/

/-- A retried operation emits what its attempts and the pauses between them emit, and records of the
retries. -/
theorem Retry.emits_run {σ α : Type} {retryable : ErrorKind → Bool} {description : String}
    {retries : Int} {interval : Quantity} {sleep : Quantity → Action σ Unit}
    {operation : Action σ α}
    (hLog : ∀ entry, entry.OfCollaborator → P (.logged entry))
    (hSleep : (sleep interval).Emits P) (hOperation : operation.Emits P) :
    (Retry.run retryable description retries interval sleep operation).Emits P := by
  have hAttempts (budget : Nat) :
      (Retry.attempts retryable description interval sleep operation budget).Emits P := by
    induction budget with
    | zero => exact hOperation
    | succ left ih =>
        rw [Retry.attempts]
        refine hOperation.orElse fun f => .ite ?_ (.fail f)
        exact (Action.Emits.log (hLog _ ⟨rfl, rfl⟩)).bind fun _ => hSleep.bind fun _ => ih
  rw [Retry.run]
  split
  · exact .fail _
  · exact hAttempts _

/-! ## The world -/

namespace World

theorem emits_sleep {seconds : Quantity} (h : P (.slept seconds)) :
    (World.sleep seconds).Emits P := by
  intro w e hMem
  rw [List.mem_singleton.mp hMem]
  exact h

theorem emits_request {request : Request} (h : P (.requested request)) :
    (World.request request).Emits P := by
  intro w e hMem
  rw [List.mem_singleton.mp hMem]
  exact h

theorem emits_printLine {text : String} (h : ∀ line, P (.printed line)) :
    (World.printLine text).Emits P := by
  intro w e hMem
  rw [World.printLine] at hMem
  split at hMem
  · cases hMem
  · rw [List.mem_singleton.mp hMem]
    exact h _

theorem emits_appendFile {path : FilePath} {text : String} :
    (World.appendFile path text).Emits P := by
  refine .of_silent fun w => ?_
  rw [World.appendFile]
  split
  · rfl
  · split <;> rfl

end World

/-! ## Requests and files -/

namespace HttpClient

variable {c : HttpClient} {url : String} {retries : Int} {interval : Quantity}

theorem emits_onFailure {α : Type} {text : String → String} {f : Failure} :
    (onFailure text f : Action World α).Emits P := .fail _

theorem emits_getOnce
    (hRequest : P (.requested (.get url [("User-Agent", c.userAgent)] c.timeout))) :
    (c.getOnce url).Emits P :=
  (World.emits_request hRequest).fork (fun _ => .ite (.succeed _) (.fail _))
    fun _ => emits_onFailure

theorem emits_getText
    (hLog : ∀ entry, entry.OfCollaborator → P (.logged entry))
    (hRequest : P (.requested (.get url [("User-Agent", c.userAgent)] c.timeout)))
    (hSleep : P (.slept interval)) : (c.getText url retries interval).Emits P :=
  (Action.Emits.log (hLog _ ⟨rfl, rfl⟩)).bind fun _ =>
    Retry.emits_run hLog (World.emits_sleep hSleep) (emits_getOnce hRequest)

theorem emits_postOnce {body : Text.Loose} {headers : Fields}
    (hRequest : ∀ text, P (.requested (.post url text (c.headersWith headers) c.timeout))) :
    (c.postOnce url body headers).Emits P := by
  refine Action.Emits.fork ?_ (fun _ => .ite (.succeed _) (.fail _)) fun _ => emits_onFailure
  exact (Action.Emits.ofResult _).bind fun text => World.emits_request (hRequest text)

theorem emits_postText {body : Text.Loose} {headers : Fields}
    (hLog : ∀ entry, entry.OfCollaborator → P (.logged entry))
    (hRequest : ∀ text, P (.requested (.post url text (c.headersWith headers) c.timeout)))
    (hSleep : P (.slept interval)) : (c.postText url body headers retries interval).Emits P :=
  (Action.Emits.log (hLog _ ⟨rfl, rfl⟩)).bind fun _ =>
    Retry.emits_run hLog (World.emits_sleep hSleep) (emits_postOnce hRequest)

end HttpClient

namespace FileAccess

variable {path : FilePath} {retries : Int} {interval : Quantity}

theorem emits_readOnce : (readOnce path).Emits P :=
  Action.Emits.orElse (.of_silent fun _ => rfl) fun _ => .fail _

theorem emits_readText
    (hLog : ∀ entry, entry.OfCollaborator → P (.logged entry))
    (hSleep : P (.slept interval)) : (readText path retries interval).Emits P :=
  Retry.emits_run hLog (World.emits_sleep hSleep) emits_readOnce

theorem emits_appendOnce {text : String} : (appendOnce path text).Emits P :=
  World.emits_appendFile.orElse fun _ => .fail _

theorem emits_appendLine {text : String}
    (hLog : ∀ entry, entry.OfCollaborator → P (.logged entry))
    (hSleep : P (.slept interval)) : (appendLine path text retries interval).Emits P :=
  Retry.emits_run hLog (World.emits_sleep hSleep) emits_appendOnce

end FileAccess

/-! ## Notifiers -/

/-- What notifiers emit: printed lines, messages to scripted notifiers, forms sent to a service, and
records. -/
structure Notifier.Emitted (P : Event → Prop) : Prop where
  printed : ∀ line, P (.printed line)
  sent : ∀ message, P (.sent message)
  form : ∀ url fields timeout, P (.requested (.form url fields timeout))
  logged : ∀ entry, entry.OfCollaborator → P (.logged entry)

namespace Notifier

theorem emits_telegram (h : Emitted P) (chat : Telegram) (message : String) :
    (chat.send message).Emits P := by
  refine (World.emits_request (h.form _ _ _)).fork (fun reply => ?_) fun _ => .fail _
  split
  · exact .fail _
  · exact .log (h.logged _ ⟨rfl, rfl⟩)

mutual

/-- Sending emits only what notifiers emit, however chains are nested. -/
theorem emits_send (h : Emitted P) (message : String) (n : Notifier) :
    (n.send message).Emits P := by
  cases n with
  | print => exact (World.emits_printLine h.printed).orElse fun _ => .fail _
  | memory log => exact .of_silent fun _ => rfl
  | telegram chat => exact emits_telegram h chat message
  | scripted failure =>
      have hSent : (Action.emit (.sent message) : Action World Unit).Emits P := by
        intro w e hMem
        rw [List.mem_singleton.mp hMem]
        exact h.sent message
      refine hSent.bind fun _ => ?_
      cases failure with
      | none => exact .succeed _
      | some f => exact .fail f
  | chain name members => exact emits_sendToAll h message 0 members

theorem emits_sendToAll (h : Emitted P) (message : String) (index : Nat) (members : List Notifier) :
    (sendToAll message index members).Emits P := by
  cases members with
  | nil => exact .succeed _
  | cons member rest =>
      rw [sendToAll]
      exact (Action.Emits.log (h.logged _ ⟨rfl, rfl⟩)).bind fun _ =>
        (emits_send h message member).bind fun _ => emits_sendToAll h message (index + 1) rest

end

end Notifier

end Flowline
