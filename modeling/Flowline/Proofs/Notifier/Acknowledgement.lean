import Flowline.Interpreter
import Flowline.Proofs.Action
import Flowline.Proofs.Json.Completeness
import Flowline.Proofs.Notifier.Build
import Flowline.Proofs.Notifier.Telegram

/-!
Messages to a chat of the Telegram service. A message is one request. It is delivered if the service
acknowledges it, and whatever else the session answers is a failure of the notification, from which a
step can recover.
-/

namespace Flowline

namespace Telegram

open Interpreter

/-- A reply that acknowledges a message: its status tells success, and its text is a JSON object with a
member `ok` that counts as true. -/
def Acknowledges (reply : Reply) : Prop :=
  200 ≤ reply.status ∧ reply.status < 300 ∧ ∃ members ok,
    Json.Encodes reply.text (.map members) ∧ Entries.field? members "ok" = some ok ∧
      ok.isTruthy = true

/-- The service has nothing against a message only if it says so in an object. -/
theorem complaint?_eq_none_iff {v : Value} : complaint? v = none ↔ ∃ members ok,
    v = .map members ∧ Entries.field? members "ok" = some ok ∧ ok.isTruthy = true := by
  have hNull : Value.isTruthy .null = false := rfl
  cases v with
  | map members =>
      rw [complaint?]
      cases hOk : Entries.field? members "ok" with
      | none => simp [hOk, hNull]
      | some ok => simp [hOk]
  | _ => simp [complaint?, hNull]

variable (t : Telegram)

/-- A reply is no failure exactly if it acknowledges the message. -/
theorem replyFailure?_eq_none_iff {reply : Reply} :
    t.replyFailure? reply = none ↔ Acknowledges reply := by
  have hStatus : reply.isSuccess = true ↔ 200 ≤ reply.status ∧ reply.status < 300 := by
    rw [Reply.isSuccess, Bool.and_eq_true, decide_eq_true_iff, decide_eq_true_iff]
  rw [replyFailure?, Acknowledges, ← and_assoc, ← hStatus]
  cases reply.isSuccess with
  | false => simp
  | true =>
      cases hRead : Json.read? reply.text with
      | none =>
          have hNone (v : Value) : ¬ Json.Encodes reply.text v := by
            rw [← Json.read?_eq_some_iff, hRead]
            exact fun hSome => nomatch hSome
          simp [hNone]
      | some v =>
          have hOnly (members : Entries) :
              Json.Encodes reply.text (.map members) ↔ v = .map members := by
            rw [← Json.read?_eq_some_iff, hRead, Option.some_inj]
          simp [complaint?_eq_none_iff, hOnly]

theorem kind_of_replyFailure? {reply : Reply} {f : Failure} (h : t.replyFailure? reply = some f) :
    f.kind = .operation .notification := by
  rw [replyFailure?] at h
  split at h
  · cases h
    rfl
  · split at h
    · cases h
      rfl
    · obtain ⟨_, -, rfl⟩ := Option.map_eq_some_iff.mp h
      rfl

/-- Only an answer that acknowledges the message is a success. -/
theorem result_conclude_eq_ok {answer : Answer} {w : World} :
    (t.conclude answer w).result = .ok () ↔ ∃ reply, answer = .ok reply ∧ Acknowledges reply := by
  cases answer with
  | error f => simp [conclude]
  | ok reply =>
      rw [conclude]
      cases hReply : t.replyFailure? reply with
      | none => simpa [Action.log, Action.emit] using t.replyFailure?_eq_none_iff.mp hReply
      | some f =>
          have hNot : ¬ Acknowledges reply := by
            rw [← t.replyFailure?_eq_none_iff, hReply]
            exact Option.some_ne_none f
          simp [hNot]

/-- All other answers are failures of the notification. -/
theorem kind_of_conclude {answer : Answer} {w : World} {f : Failure}
    (hTransport : ∀ g, answer = .error g → g.kind.isTransportError = true)
    (h : (t.conclude answer w).result = .error f) : f.kind = .operation .notification := by
  cases answer with
  | error g =>
      rw [conclude, if_pos (hTransport g rfl)] at h
      cases h
      rfl
  | ok reply =>
      cases hReply : t.replyFailure? reply with
      | none =>
          simp only [conclude, hReply] at h
          cases h
      | some g =>
          simp only [conclude, hReply] at h
          cases h
          exact t.kind_of_replyFailure? hReply

section Step

variable {s : Services} {name : String} {channel : Notifier} {template : String} {r : Run}
  (hName : s.notifiers.get? name = some channel) (retry : RetryPolicy) (fallback : List Step)

include hName

/-- A step that notifies sends the text of its template, and recovers from failures of operations. -/
theorem execute_notify :
    execute s (.notify name template retry fallback) r =
      recovering s (Run.inWorld (channel.send (Message.render template r.state))) .succeed
        ErrorKind.isOperationError fallback.length (run s fallback) r := by
  have hNotifier : notifier s name = pure channel := by
    rw [notifier, NotifierSet.require_eq_ok hName]
    rfl
  rw [execute, hNotifier, Action.pure_bind]
  exact (Action.bind_of_ok _ rfl).trans (Done.after_nil _)

theorem execute_notify_of_sent
    (h : (channel.send (Message.render template r.state) r.world).result = .ok ()) :
    execute s (.notify name template retry fallback) r =
      ⟨.ok (), (channel.send (Message.render template r.state) r.world).events,
        ⟨(channel.send (Message.render template r.state) r.world).state, r.state⟩⟩ := by
  have hWorld : (Run.inWorld (channel.send (Message.render template r.state)) r).result = .ok () := h
  rw [execute_notify hName, recovering, Action.fork_of_ok _ _ hWorld, Done.after,
    Action.succeed_apply, List.append_nil]
  rfl

theorem execute_notify_of_failed {f : Failure}
    (h : (channel.send (Message.render template r.state) r.world).result = .error f)
    (hKind : f.kind.isOperationError = true) :
    execute s (.notify name template retry fallback) r =
      (recover s fallback.length (run s fallback) f
        ⟨(channel.send (Message.render template r.state) r.world).state, r.state⟩).after
          (channel.send (Message.render template r.state) r.world).events := by
  have hWorld : (Run.inWorld (channel.send (Message.render template r.state)) r).result = .error f := h
  rw [execute_notify hName, recovering, Action.fork_of_error _ _ hWorld, if_pos hKind]
  rfl

end Step

/-- **A message is delivered exactly if the service acknowledges it.** Whatever the session answers,
sending is one request and nothing else but logs. It succeeds if the answer is a reply that acknowledges
the message, and else it fails with a failure of the notification. So a step that notifies through it
either succeeds or enters the recovery by its fallback, where the sending has left the world. -/
theorem send_succeeds_iff_acknowledged (message : String) (w : World)
    (hSession : ∀ f, w.session w.requests = .error f → f.kind.isTransportError = true) :
    (t.send message w).quiet.events = [.requested (t.request message)] ∧
    (t.send message w).state = (World.request (t.request message) w).state ∧
    ((t.send message w).result = .ok () ↔
      ∃ reply, w.session w.requests = .ok reply ∧ Acknowledges reply) ∧
    (∀ f, (t.send message w).result = .error f → f.kind = .operation .notification) ∧
    ∀ (s : Services) (name template : String) (retry : RetryPolicy) (fallback : List Step)
      (state : RunState), s.notifiers.get? name = some (.telegram t) →
      Message.render template state = message →
      ((t.send message w).result = .ok () ∧
        execute s (.notify name template retry fallback) ⟨w, state⟩ =
          ⟨.ok (), (t.send message w).events, ⟨(t.send message w).state, state⟩⟩) ∨
      ∃ f, (t.send message w).result = .error f ∧
        execute s (.notify name template retry fallback) ⟨w, state⟩ =
          (recover s fallback.length (run s fallback) f ⟨(t.send message w).state, state⟩).after
            (t.send message w).events := by
  have hSend := t.send_apply message w
  have hQuiet := t.quiet_conclude (w.session w.requests) { w with requests := w.requests + 1 }
  have hEvents : (t.send message w).quiet.events = [.requested (t.request message)] := by
    rw [hSend, Done.quiet_after, hQuiet]
    rfl
  have hState : (t.send message w).state = (World.request (t.request message) w).state := by
    rw [hSend, Done.state_after, ← Done.state_quiet, hQuiet]
    rfl
  have hResult : (t.send message w).result =
      (t.conclude (w.session w.requests) { w with requests := w.requests + 1 }).result := by
    rw [hSend, Done.result_after]
  have hKind : ∀ f, (t.send message w).result = .error f → f.kind = .operation .notification :=
    fun f hFailed => t.kind_of_conclude hSession (hResult.symm.trans hFailed)
  refine ⟨hEvents, hState, ?_, hKind, ?_⟩
  · rw [hResult, result_conclude_eq_ok]
  · rintro s name template retry fallback state hName rfl
    cases hSent : (t.send (Message.render template state) w).result with
    | ok _ => exact .inl ⟨rfl, execute_notify_of_sent hName retry fallback hSent⟩
    | error f =>
        have hOperation : f.kind.isOperationError = true := by
          rw [hKind f hSent]
          rfl
        exact .inr ⟨f, rfl, execute_notify_of_failed hName retry fallback hSent hOperation⟩

/-- A chat with a world that answers a message for it. -/
def desk : Telegram := ⟨"42", sendUrl standardBase "token", .int 10⟩

def answering (answer : Answer) : World := .fresh (fun _ => answer) [] (fun _ => []) .working

theorem acknowledges_list : Acknowledges ⟨204, " \x7b\"ok\": [null]\x7d\n"⟩ := by
  have hNone : Json.IsBlanks [] := List.forall_mem_nil _
  have hBlank : Json.IsBlanks [' '] := List.forall_mem_singleton.mpr rfl
  have hNull : Json.Denotes "null".toList .null := .word List.mem_cons_self
  have hList : Json.Denotes "[null]".toList (.list [.null]) := .list (.last hNone hNull hNone)
  have hName : Json.WritesChars "ok".toList "ok".toList :=
    .plain (by decide) (by decide) (by decide) (.plain (by decide) (by decide) (by decide) .nil)
  have hMember := Json.DenotesMembers.last hNone hName hNone hBlank hList hNone
  rw [String.ofList_toList] at hMember
  have hEnd : Json.IsBlanks ['\n'] := List.forall_mem_singleton.mpr rfl
  exact ⟨by decide, by decide, [(.text "ok", .list [.null])], .list [.null],
    .last hBlank (.map hMember) hEnd, rfl, rfl⟩

/-- A message is delivered if any value that counts as true acknowledges it; what is no object, and a
session that cannot be reached, are failures of the notification. -/
theorem desk_send_succeeds_iff_acknowledged :
    (desk.send "up" (answering (.ok ⟨204, " \x7b\"ok\": [null]\x7d\n"⟩))).result = .ok () ∧
    (desk.send "up" (answering (.ok ⟨200, "true"⟩))).result ≠ .ok () ∧
    noNetwork.kind.isTransportError = true ∧
    ∃ f, (desk.send "up" (answering (.error noNetwork))).result = .error f ∧
      f.kind = .operation .notification := by
  have hReply (reply : Reply) : ∀ f, (answering (.ok reply)).session 0 = .error f →
      f.kind.isTransportError = true := fun f hAnswer => nomatch hAnswer
  have hNone : ∀ f, (answering (.error noNetwork)).session 0 = .error f →
      f.kind.isTransportError = true := by
    intro f hAnswer
    cases hAnswer
    rfl
  obtain ⟨-, -, hDelivered, -⟩ := send_succeeds_iff_acknowledged desk "up" _ (hReply _)
  obtain ⟨-, -, hOther, -⟩ := send_succeeds_iff_acknowledged desk "up" _ (hReply ⟨200, "true"⟩)
  obtain ⟨-, -, -, hFailed, -⟩ := send_succeeds_iff_acknowledged desk "up" _ hNone
  refine ⟨hDelivered.mpr ⟨_, rfl, acknowledges_list⟩, ?_, rfl, _, rfl, hFailed _ rfl⟩
  rw [Ne, hOther]
  rintro ⟨reply, hAnswer, -, -, members, ok, hObject, -⟩
  cases hAnswer
  have hWord : Json.Denotes "true".toList (.bool true) := .word (.tail _ List.mem_cons_self)
  have hTrue : Json.Encodes "true" (.bool true) :=
    .last (List.forall_mem_nil _) hWord (List.forall_mem_nil _)
  cases (Json.read?_eq_some_iff.mpr hObject).symm.trans (Json.read?_eq_some_iff.mpr hTrue)

end Telegram

end Flowline
