import Flowline.Proofs.Notifier.Telegram
import Flowline.Proofs.Notifier.Tokens
import Flowline.Proofs.Runner.Comparison

/-!
Secrecy of tokens. The token of a bot shows in the addresses of the messages that are sent to its chats,
and nowhere else: with another token, and with other texts of the errors that the session raises against
such messages, runs have the same outcomes, write the same records and do the same to the world.
-/

namespace Flowline

variable {α : Type}

/-- Answers to a request that are the same or, against a message to a chat, errors of the session of
the same kind. -/
inductive AnswersAlike (q : Request) : Answer → Answer → Prop where
  | same (answer : Answer) : AnswersAlike q answer answer
  | failed {f g : Failure} (form : q.isForm = true) (kind : g.kind = f.kind)
      (transport : f.kind.isTransportError = true) : AnswersAlike q (.error f) (.error g)

/-- Worlds that differ in their sessions alone, which give answers that are alike to the requests that
are ahead. -/
structure World.Twin (ahead : List Event) (w v : World) : Prop where
  rest : v = { w with session := v.session }
  answers : ∀ n q, (ahead.filterMap Event.request?)[n]? = some q →
    AnswersAlike q (w.session (w.requests + n)) (v.session (w.requests + n))

/-- Events that are the same or, if they are messages to one chat, differ in the token that the address
shows. -/
inductive Event.SameButToken (base : String) : Event → Event → Prop where
  | same (e : Event) : SameButToken base e e
  | message (token other : String) (fields : Fields) (timeout : Quantity) :
      SameButToken base (.requested (.form (Telegram.sendUrl base token) fields timeout))
        (.requested (.form (Telegram.sendUrl base other) fields timeout))

theorem Event.sameButToken_refl (base : String) (events : List Event) :
    List.Forall₂ (SameButToken base) events events :=
  List.forall₂_same.mpr fun e _ => .same e

/-- Worlds with a session and another one, in which runs differ in tokens alone. -/
def Comparison.butTokens (base : String) (session : Session) : Comparison World World where
  states ahead w v := w.Twin ahead v ∧ v.session = session
  events := Event.SameButToken base
  logged _ := .same _
  passed _ _ _ _ h := ⟨⟨h.1.rest, h.1.answers⟩, h.2⟩

theorem Comparison.near_butTokens (base : String) (session : Session) :
    (butTokens base session).Near where
  events e := .same e
  output := by
    rintro _ w v ⟨⟨hRest, -⟩, -⟩
    rw [hRest]
  home := by
    rintro _ w v ⟨⟨hRest, -⟩, -⟩
    rw [hRest]
  disk := by
    rintro _ w v ⟨⟨hRest, -⟩, -⟩
    rw [hRest]
  sleeps := by
    rintro _ w v ⟨⟨hRest, -⟩, -⟩
    rw [hRest]
    exact ⟨rfl, rfl⟩
  passed := by
    rintro e ahead w v hSilent ⟨⟨hRest, hAnswers⟩, hSession⟩
    rw [List.filterMap_cons_none hSilent] at hAnswers
    exact ⟨⟨hRest, hAnswers⟩, hSession⟩
  slept := by
    rintro ahead w v ⟨⟨hRest, hAnswers⟩, hSession⟩
    refine ⟨⟨?_, hAnswers⟩, hSession⟩
    rw [hRest]
  written := by
    rintro ahead w v disk ⟨⟨hRest, hAnswers⟩, hSession⟩
    refine ⟨⟨?_, hAnswers⟩, hSession⟩
    rw [hRest]

/-! ## Requests -/

namespace World

/-- After one of the requests that are ahead, the others are. -/
theorem Twin.next {q : Request} {ahead : List Event} {w v : World}
    (h : w.Twin (.requested q :: ahead) v) :
    v.requests = w.requests ∧ AnswersAlike q (w.session w.requests) (v.session w.requests) ∧
      World.Twin ahead { w with requests := w.requests + 1 } { v with requests := w.requests + 1 } := by
  have hRequests : v.requests = w.requests := by rw [h.rest]
  refine ⟨hRequests, h.answers 0 q rfl, ⟨?_, fun n q hAhead => ?_⟩⟩
  · rw [h.rest]
  · have hAnswers := h.answers (n + 1) q hAhead
    rw [Nat.add_right_comm]
    exact hAnswers

end World

namespace Telegram

variable {base : String} {session : Session} {chat other : Telegram}

/-- Of an error of the session only its kind is told. -/
theorem conclude_eq (h : Twin base chat other) {q : Request} {answer otherAnswer : Answer}
    (hAnswers : AnswersAlike q answer otherAnswer) :
    other.conclude otherAnswer = chat.conclude answer := by
  cases hAnswers with
  | same =>
      cases answer with
      | ok reply => rw [conclude, conclude, replyFailure?, replyFailure?, h.chatId]
      | error f => rw [conclude, conclude, h.chatId]
  | failed form kind transport =>
      rw [conclude, conclude, h.chatId, kind, if_pos transport, if_pos transport]

theorem alike_conclude (c : Comparison World World) (chat : Telegram) (answer : Answer) :
    (chat.conclude answer).Alike c Eq (chat.conclude answer) := by
  cases answer with
  | error f => exact .fail _
  | ok reply =>
      rw [conclude]
      split
      · exact .fail _
      · exact .log

theorem alike_send (h : Twin base chat other) (message : String) :
    (chat.send message).Alike (Comparison.butTokens base session) Eq (other.send message) := by
  rintro ahead w v ⟨hTwin, hSession⟩
  obtain ⟨token, otherToken, hUrl, hOtherUrl⟩ := h.url
  rw [send_apply, Done.events_after, List.cons_append, List.nil_append] at hTwin
  obtain ⟨hRequests, hAnswers, hNext⟩ := hTwin.next
  rw [send_apply, send_apply, hRequests, conclude_eq h hAnswers]
  have hConclude := alike_conclude (Comparison.butTokens base session) chat (w.session w.requests)
  refine (hConclude ahead _ _ ⟨hNext, hSession⟩).after (.cons ?_ .nil)
  rw [request, request, hUrl, hOtherUrl, h.chatId, h.timeout]
  exact .message token otherToken _ _

end Telegram

theorem World.alike_request (base : String) (session : Session) {q : Request}
    (hPlain : q.isForm = false) :
    (request q).Alike (Comparison.butTokens base session) Eq (request q) := by
  rintro ahead w v ⟨hTwin, hSession⟩
  obtain ⟨hRequests, hAnswers, hNext⟩ := hTwin.next
  have hOther : request q v = ⟨v.session w.requests, [.requested q],
      { v with requests := w.requests + 1 }⟩ := by rw [request, hRequests]
  rw [hOther]
  refine ⟨?_, Event.sameButToken_refl base _, hNext, hSession⟩
  change ResultsAlike Eq (w.session w.requests) (v.session w.requests)
  generalize w.session w.requests = answer, v.session w.requests = otherAnswer at hAnswers ⊢
  cases hAnswers with
  | same => exact .refl (fun _ => rfl) _
  | failed form kind transport => cases hPlain.symm.trans form

/-- Whatever is done to the world comes to the same, but for tokens in the addresses of messages. -/
theorem Comparison.worldly_butTokens (base : String) (session : Session) :
    (butTokens base session).Worldly (Telegram.Twin base) where
  request _ hPlain := World.alike_request base session hPlain
  sleep := (near_butTokens base session).sleep
  printLine := (near_butTokens base session).printLine
  readFile := (near_butTokens base session).readFile
  appendFile := (near_butTokens base session).appendFile
  keepMessage log message := by
    rintro ahead w v ⟨⟨hRest, hAnswers⟩, hSession⟩
    refine ⟨.ok rfl, .nil, ⟨?_, hAnswers⟩, hSession⟩
    rw [World.keepMessage, World.keepMessage, hRest]
  send _ _ hChats message := Telegram.alike_send hChats message

/-! ## Runs -/

namespace Runner

/-- Runners that differ in tokens alone, those of the configs of their notifiers and of the settings. -/
structure Twin (r other : Runner) : Prop where
  flow : other.flow = { r.flow with notifiers := other.flow.notifiers }
  notifiers : List.Forall₂ NotifierConfig.Twin r.flow.notifiers other.flow.notifiers
  settings : r.settings.Twin other.settings

theorem Twin.like {r other : Runner} (h : r.Twin other) :
    r.Like (Telegram.Twin r.settings.telegramBaseUrl) other where
  label := by rw [label, label, h.flow, FlowDefinition.label, FlowDefinition.label]
  steps := by rw [h.flow]
  uponFailure := by rw [h.flow]
  http := by rw [httpClient, httpClient, h.settings.rest]
  build := NotifierSet.alike_build h.settings h.notifiers

variable {r other : Runner} {w v : World}

/-- With other tokens, in the configs of notifiers or in the settings, and with other texts of the
errors that the session raises against messages to chats, any number of runs of a flow has the same
outcomes, keeps the same messages, changes files alike, and shows the same sleeps, printed lines,
requests and records, the attached errors among them. All that differs are the tokens in the addresses
of messages to chats. -/
theorem tokens_do_not_leak (n : Nat) (hRunners : r.Twin other)
    (hWorlds : w.Twin (r.runTimes n w).events v) :
    (other.runTimes n v).result = (r.runTimes n w).result ∧
      List.Forall₂ (Event.SameButToken r.settings.telegramBaseUrl) (r.runTimes n w).events
        (other.runTimes n v).events ∧
      (other.runTimes n v).state = { (r.runTimes n w).state with session := v.session } := by
  have hAlike := alike_runTimes
    (Comparison.worldly_butTokens r.settings.telegramBaseUrl v.session) hRunners.like n
  obtain ⟨hResult, hEvents, ⟨hRest, -⟩, hSession⟩ :=
    hAlike [] w v ⟨(List.append_nil _).symm ▸ hWorlds, rfl⟩
  rw [hSession] at hRest
  exact ⟨hResult.eq.symm, hEvents, hRest⟩

end Runner

namespace Watch

/-- The watch, with a chat of a bot for its desk. -/
def toldBy (token : String) : Runner :=
  ⟨{ flow with notifiers := [.chain "all" ["desk"], .telegram "desk" (some token) (some "7")] },
    .standard⟩

/-- A world from which nothing is reached, and whose errors show the address of the bot. -/
def cutOff (token : String) : World :=
  .fresh (fun _ => .error ⟨.transport .connection, Telegram.sendUrl Telegram.standardBase token, none⟩)
    [] (fun _ => []) .working

/-- The message fails in the chain, in the fallback of the step and in that of the flow, in two runs;
what these tell is the same for two bots. -/
theorem tokens_do_not_leak_cut_off :
    (toldBy "one").Twin (toldBy "two") ∧
      (cutOff "one").Twin ((toldBy "one").runTimes 2 (cutOff "one")).events (cutOff "two") ∧
      (((toldBy "one").runTimes 2 (cutOff "one")).events.filterMap Event.request?).length = 6 ∧
      ((toldBy "two").runTimes 2 (cutOff "two")).result =
        ((toldBy "one").runTimes 2 (cutOff "one")).result ∧
      List.Forall₂ (Event.SameButToken Telegram.standardBase)
        ((toldBy "one").runTimes 2 (cutOff "one")).events
        ((toldBy "two").runTimes 2 (cutOff "two")).events := by
  have hRunners : (toldBy "one").Twin (toldBy "two") := by
    refine ⟨rfl, .cons (.same _) (.cons ?_ .nil), .refl _⟩
    exact .telegram "desk" (some "7") (by decide) (by decide)
  have hForms : (((toldBy "one").runTimes 2 (cutOff "one")).events.filterMap Event.request?).all
      Request.isForm = true := by decide
  have hWorlds : (cutOff "one").Twin ((toldBy "one").runTimes 2 (cutOff "one")).events
      (cutOff "two") := by
    refine ⟨rfl, fun n q hAhead => .failed ?_ rfl rfl⟩
    exact List.all_eq_true.mp hForms q (List.mem_of_getElem? hAhead)
  obtain ⟨hResults, hEvents, -⟩ := Runner.tokens_do_not_leak 2 hRunners hWorlds
  exact ⟨hRunners, hWorlds, by decide, hResults, hEvents⟩

end Watch

end Flowline
