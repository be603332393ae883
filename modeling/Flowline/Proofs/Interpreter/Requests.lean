import Flowline.Proofs.Flow.Accepted
import Flowline.Proofs.Http
import Flowline.Proofs.Interpreter.Course
import Flowline.Proofs.Retry.Attempts

/-!
Steps that make requests. Every answer of the session is a success, a failure after which the request
is sent again, or a final failure; the last request of a step is the first whose answer is not of the
second sort, unless the retries end before. The step goes on as the answer to that request says. A step
whose text has no form in bytes makes no request and fails in a way from which nothing recovers.
-/

namespace Flowline

/-- What an answer to a request means to the step that made it. -/
inductive Verdict where
  | success (text : String)
  | retryable (f : Failure)
  | final (f : Failure)
  deriving DecidableEq

namespace Verdict

variable {α : Type}

def isRetryable : Verdict → Bool
  | retryable _ => true
  | _ => false

/-- How an attempt ends that sends one request. -/
def result (value : String → α) : Verdict → Except Failure α
  | success text => .ok (value text)
  | retryable f => .error f
  | final f => .error f

end Verdict

/-- A request with the statuses that are a success, the text about any other status, and the text about
a failure of the session. -/
structure Exchange where
  request : Request
  accepts : Int → Bool
  rejection : Int → String
  interruption : String → String

namespace Exchange

def get (c : HttpClient) (url : String) : Exchange where
  request := .get url [("User-Agent", c.userAgent)] c.timeout
  accepts status := 200 ≤ status && status < 300
  rejection status := s!"error code on GET to URL {url}: {status}"
  interruption reason := s!"couldn't get URL {url}: {reason}"

def post (c : HttpClient) (url text : String) (headers : Fields) : Exchange where
  request := .post url text (c.headersWith headers) c.timeout
  accepts status := status = 200 || status = 201
  rejection status := s!"POST request to {url} returned error code {status}"
  interruption reason := s!"could not send POST request to {url}: {reason}"

/-- What an answer means. A failure of the session that is one of its own family, or one of the client,
is no reason to give up. -/
def verdict (x : Exchange) : Answer → Verdict
  | .ok reply =>
      if x.accepts reply.status then .success reply.text
      else .retryable (HttpClient.failure (x.rejection reply.status))
  | .error f =>
      if f.kind.isTransportError then .retryable (HttpClient.failure (x.interruption f.text))
      else if f.kind = .operation .http then .retryable f
      else .final f

variable {α : Type}

/-- One attempt. -/
def once (x : Exchange) (value : String → α) : Action World α :=
  (World.request x.request).fork
    (fun reply =>
      if x.accepts reply.status then .succeed (value reply.text)
      else .fail (HttpClient.failure (x.rejection reply.status)))
    (HttpClient.onFailure x.interruption)

end Exchange

namespace HttpClient

theorem getOnce_eq (c : HttpClient) (url : String) : c.getOnce url = (Exchange.get c url).once id :=
  rfl

theorem postOnce_eq (c : HttpClient) (url text : String) (headers : Fields) :
    c.postOnce url (.whole text) headers = (Exchange.post c url text headers).once fun _ => () := rfl

theorem isRetryable_iff (kind : ErrorKind) : isRetryable kind = true ↔ kind = .operation .http := by
  cases kind with
  | flow k => cases k <;> decide
  | operation k => cases k <;> decide
  | definition => decide
  | transport k => cases k <;> decide
  | general k => cases k <;> decide

theorem lookup_cons (header : String × String) (rest : Fields) (name : String) :
    (header :: rest).lookup name = if name = header.1 then some header.2 else rest.lookup name := by
  rw [List.lookup_cons]
  split
  · rename_i hSame
    rw [if_pos (beq_iff_eq.mp hSame)]
  · rename_i hOther
    rw [if_neg (beq_eq_false_iff_ne.mp hOther)]

theorem lookup_putHeader (headers : Fields) (header : String × String) (name : String) :
    (putHeader headers header).lookup name =
      if name = header.1 then some header.2 else headers.lookup name := by
  induction headers with
  | nil => rw [putHeader, lookup_cons]
  | cons first rest ih =>
      obtain ⟨own, old⟩ := first
      rw [putHeader]
      by_cases hOwn : own = header.1
      · rw [if_pos hOwn, lookup_cons, lookup_cons, hOwn]
        split <;> rfl
      · rw [if_neg hOwn, lookup_cons, lookup_cons, ih]
        by_cases hName : name = own
        · rw [if_pos hName, if_pos hName, if_neg (by rw [hName]; exact hOwn)]
        · rw [if_neg hName, if_neg hName]

/-- A request has the headers that are given for it, the last one of each name, and the agent of the
client unless one of them names another. -/
theorem lookup_headersWith (c : HttpClient) (own : Fields) (name : String) :
    (c.headersWith own).lookup name =
      (own.reverse.lookup name).or (if name = "User-Agent" then some c.userAgent else none) := by
  rw [headersWith, ← List.foldr_reverse]
  induction own.reverse with
  | nil => rw [List.foldr_nil, lookup_cons, List.lookup_nil, Option.none_or]
  | cons header rest ih =>
      rw [List.foldr_cons, lookup_putHeader, ih, lookup_cons]
      split
      · rw [Option.some_or]
      · rfl

end HttpClient

namespace Exchange

variable {α : Type} {x : Exchange} {value : String → α} {interval : Quantity} {w : World}

theorem once_apply (x : Exchange) (value : String → α) (w : World) :
    x.once value w =
      ⟨(x.verdict (w.session w.requests)).result value, [.requested x.request], w.later 1 0⟩ := by
  cases hAnswer : w.session w.requests with
  | ok reply =>
      rw [once, Action.fork_of_ok _ _ hAnswer, verdict]
      by_cases hAccepts : x.accepts reply.status = true
      · rw [if_pos hAccepts, if_pos hAccepts]
        rfl
      · rw [if_neg hAccepts, if_neg hAccepts]
        rfl
  | error f =>
      rw [once, Action.fork_of_error _ _ hAnswer, HttpClient.onFailure, verdict]
      by_cases hTransport : f.kind.isTransportError = true
      · rw [if_pos hTransport, if_pos hTransport]
        rfl
      · rw [if_neg hTransport, if_neg hTransport]
        split <;> rfl

/-- Before an attempt there has been one request and one sleep for each attempt that came first. -/
theorem stateAt_once (n : Nat) :
    Retry.stateAt (World.sleep interval) (x.once value) w n = w.later n n := by
  induction n with
  | zero => rfl
  | succ n ih =>
      rw [Retry.stateAt, ih, once_apply, World.later_later_zero, World.sleep_later]

theorem outcome_once (n : Nat) :
    Retry.outcome (World.sleep interval) (x.once value) w n =
      ⟨(x.verdict (w.session (w.requests + n))).result value, [.requested x.request],
        w.later (n + 1) n⟩ := by
  rw [Retry.outcome, stateAt_once, once_apply, World.later_later_zero]
  rfl

theorem isRetryable_of_verdict {answer : Answer} {f : Failure}
    (h : x.verdict answer = .retryable f) : HttpClient.isRetryable f.kind = true := by
  rw [HttpClient.isRetryable_iff]
  cases answer with
  | ok reply =>
      rw [verdict] at h
      split at h
      · cases h
      · cases h
        rfl
  | error g =>
      rw [verdict] at h
      split at h
      · cases h
        rfl
      · split at h
        · cases h
          assumption
        · cases h

theorem not_isRetryable_of_verdict {answer : Answer} {f : Failure}
    (h : x.verdict answer = .final f) : HttpClient.isRetryable f.kind = false := by
  rw [Bool.eq_false_iff, ne_eq, HttpClient.isRetryable_iff]
  cases answer with
  | ok reply =>
      rw [verdict] at h
      split at h <;> cases h
  | error g =>
      rw [verdict] at h
      split at h
      · cases h
      · split at h
        · cases h
        · cases h
          assumption

/-- A retryable answer, and no other, leads to a failure after which the request is sent again. -/
theorem again_once (n : Nat) :
    Retry.Again HttpClient.isRetryable
        (Retry.outcome (World.sleep interval) (x.once value) w n).result ↔
      (x.verdict (w.session (w.requests + n))).isRetryable = true := by
  rw [outcome_once, Retry.Again]
  cases hVerdict : x.verdict (w.session (w.requests + n)) with
  | success text => simp [Verdict.result, Verdict.isRetryable]
  | retryable f =>
      simp [Verdict.result, Verdict.isRetryable, isRetryable_of_verdict hVerdict]
  | final f =>
      simp [Verdict.result, Verdict.isRetryable, not_isRetryable_of_verdict hVerdict]

/-- The request that a run of attempts ends with. -/
def EndsAt (x : Exchange) (w : World) (budget k : Nat) : Prop :=
  Retry.IsLast (fun n => (x.verdict (w.session (w.requests + n))).isRetryable = true) budget k

/-- What is seen before a request: the same request and a sleep, for each one that came before. -/
theorem filter_seenBefore_once (description : String) (budget n : Nat) :
    (Retry.seenBefore description interval (World.sleep interval) (x.once value) w budget n).filter
        (!·.isLogged) =
      (List.replicate n [.requested x.request, .slept interval]).flatten := by
  rw [Retry.filter_seenBefore fun i _ => by rw [outcome_once]; rfl]
  rfl

/-- Attempts to send a request end with the answer to the last of them. -/
theorem run_once {description : String} {budget k : Nat} (hInterval : interval.isNegative = false)
    (h : x.EndsAt w budget k) :
    Retry.run HttpClient.isRetryable description budget interval World.sleep (x.once value) w =
      (⟨(x.verdict (w.session (w.requests + k))).result value, [.requested x.request],
        w.later (k + 1) k⟩ : Done World α).after
        (Retry.seenBefore description interval (World.sleep interval) (x.once value) w budget k) := by
  rw [Retry.run_of_stopsAt hInterval ((Retry.IsLast.congr again_once).mpr h), outcome_once]

end Exchange

/-! ## Steps -/

/-- The header of a name in a request of a step. -/
def Request.header? (name : String) : Request → Option String
  | get _ headers _ => headers.lookup name
  | post _ _ headers _ => headers.lookup name
  | form .. => none

namespace Step

/-- The exchange of a step that makes a request. -/
def exchange? (c : HttpClient) : Step → Option Exchange
  | getUrl url _ _ _ => some (.get c url)
  | postUrl url (.whole text) headers _ _ => some (.post c url text headers)
  | _ => none

/-- The text of a step that cannot be sent. -/
def unsendable? : Step → Option Text.Torn
  | postUrl _ (.torn text) _ _ _ => some text
  | _ => none

/-- A step with an address makes an exchange, or has a text that cannot be sent. -/
theorem exchange_or_unsendable {c : HttpClient} {step : Step}
    (h : step.kind = .getUrl ∨ step.kind = .postUrl) :
    (∃ x, step.exchange? c = some x) ∨ ∃ text, step.unsendable? = some text := by
  cases step with
  | getUrl => exact .inl ⟨_, rfl⟩
  | postUrl url body =>
      cases body with
      | whole text => exact .inl ⟨_, rfl⟩
      | torn text => exact .inr ⟨_, rfl⟩
  | _ => rcases h with h | h <;> cases h

/-- The state after the request of a step has succeeded. -/
def receive (text : String) : Step → RunState → RunState
  | getUrl _ outputVar _ _, state => state.setOutput text outputVar
  | _, state => state

theorem header?_of_exchange {c : HttpClient} {step : Step} {x : Exchange}
    (h : step.exchange? c = some x) (name : String) :
    x.request.header? name = (step.headers.reverse.lookup name).or
      (if name = "User-Agent" then some c.userAgent else none) := by
  cases step with
  | getUrl =>
      cases h
      exact HttpClient.lookup_headersWith c [] name
  | postUrl url body =>
      cases body <;> cases h
      exact HttpClient.lookup_headersWith c _ name
  | _ => cases h

end Step

namespace Interpreter

/-- How a step goes on after the answer to its last request. -/
def afterAnswer (s : Services) (step : Step) : Verdict → Action Run Unit
  | .success text => .modifyState fun r => { r with state := step.receive text r.state }
  | .retryable f => recover s step.fallback.length (run s step.fallback) f
  | .final f =>
      if f.kind.isOperationError then recover s step.fallback.length (run s step.fallback) f
      else .fail f

variable {α : Type} {s : Services} {step : Step} {x : Exchange} {value : String → α}
  {interval : Quantity} {budget k : Nat} {r : Run}

/-- An operation that records a request and makes it, with retries, and what follows it. -/
theorem recovering_exchange (s : Services) (step : Step) (value : String → α)
    (next : α → Action Run Unit) (message description : String) (fields : List (String × Value))
    (hNext : ∀ text r, next (value text) r = ⟨.ok (), [], ⟨r.world, step.receive text r.state⟩⟩)
    (hInterval : interval.isNegative = false) (hLast : x.EndsAt r.world budget k) :
    ∃ events : List Event,
      events.filter (!·.isLogged) =
        (List.replicate k [.requested x.request, .slept interval]).flatten ++
          [.requested x.request] ∧
      recovering s (Run.inWorld do
          Action.log .debug .http message fields
          Retry.run HttpClient.isRetryable description budget interval World.sleep (x.once value))
        next ErrorKind.isOperationError step.fallback.length (run s step.fallback) r =
        (afterAnswer s step (x.verdict (r.world.session (r.world.requests + k)))
          ⟨r.world.later (k + 1) k, r.state⟩).after events := by
  refine ⟨.logged ⟨.debug, .http, message, fields, none⟩ ::
    (Retry.seenBefore description interval (World.sleep interval) (x.once value) r.world budget k ++
      [.requested x.request]), ?_, ?_⟩
  · rw [List.filter_cons_of_neg (by simp [Event.isLogged, Event.entry?]), List.filter_append,
      Exchange.filter_seenBefore_once]
    rfl
  have hDone : Run.inWorld (do
      Action.log .debug .http message fields
      Retry.run HttpClient.isRetryable description budget interval World.sleep (x.once value)) r =
      ⟨(x.verdict (r.world.session (r.world.requests + k))).result value,
        .logged ⟨.debug, .http, message, fields, none⟩ ::
          (Retry.seenBefore description interval (World.sleep interval) (x.once value) r.world budget
              k ++ [.requested x.request]),
        ⟨r.world.later (k + 1) k, r.state⟩⟩ := by
    have hWorld : (do
        Action.log .debug .http message fields
        Retry.run HttpClient.isRetryable description budget interval World.sleep (x.once value) :
          Action World α) r.world =
        (Retry.run HttpClient.isRetryable description budget interval World.sleep (x.once value)
          r.world).after [.logged ⟨.debug, .http, message, fields, none⟩] :=
      Action.bind_of_ok _ rfl
    rw [Exchange.run_once hInterval hLast] at hWorld
    simp only [Run.inWorld, Action.onPart, hWorld]
    rfl
  have hResult := congrArg Done.result hDone
  rw [recovering]
  cases hVerdict : x.verdict (r.world.session (r.world.requests + k)) with
  | success text =>
      rw [hVerdict] at hResult
      rw [Action.fork_of_ok _ _ hResult, hDone, hNext]
      rfl
  | retryable f =>
      rw [hVerdict] at hResult
      have hKind := (HttpClient.isRetryable_iff f.kind).mp (Exchange.isRetryable_of_verdict hVerdict)
      rw [Action.fork_of_error _ _ hResult, hDone, if_pos (by rw [hKind]; rfl)]
      rfl
  | final f =>
      rw [hVerdict] at hResult
      rw [Action.fork_of_error _ _ hResult, hDone]
      rfl

/-- A step that makes a request sends it until an answer is a success or a final failure, at most once
more than it has retries, and sleeps in between. It goes on as the last answer says. -/
theorem execute_exchange (hExchange : step.exchange? s.http = some x) {retry : RetryPolicy}
    (hRetry : step.retry? = some retry)
    (hInterval : (Quantity.real retry.interval).isNegative = false)
    (hLast : x.EndsAt r.world retry.retries k) :
    ∃ events : List Event,
      events.filter (!·.isLogged) =
        (List.replicate k [.requested x.request, .slept (.real retry.interval)]).flatten ++
          [.requested x.request] ∧
      execute s step r =
        (afterAnswer s step (x.verdict (r.world.session (r.world.requests + k)))
          ⟨r.world.later (k + 1) k, r.state⟩).after events := by
  cases step with
  | getUrl url outputVar own fallback =>
      cases hExchange
      cases hRetry
      rw [execute, HttpClient.getText, HttpClient.getOnce_eq]
      exact recovering_exchange s (.getUrl url outputVar retry fallback) id _ _ _ _ (fun _ _ => rfl)
        hInterval hLast
  | postUrl url body headers own fallback =>
      cases hRetry
      cases body with
      | torn text => cases hExchange
      | whole text =>
          cases hExchange
          rw [execute, HttpClient.postText, HttpClient.postOnce_eq]
          exact recovering_exchange s (.postUrl url (.whole text) headers retry fallback)
            (fun _ => ()) _ _ _ _ (fun _ _ => rfl) hInterval hLast
  | _ => cases hExchange

/-- A step whose text cannot be sent fails before there is a request, and leaves everything as it was.
-/
theorem execute_unsendable {text : Text.Torn} (hText : step.unsendable? = some text)
    {retry : RetryPolicy} (hRetry : step.retry? = some retry)
    (hInterval : (Quantity.real retry.interval).isNegative = false) :
    ∃ entry, execute s step r = ⟨.error (.unencodable text), [.logged entry], r⟩ := by
  cases step with
  | postUrl url body headers own fallback =>
      cases hRetry
      cases body with
      | whole text => cases hText
      | torn text =>
          cases hText
          refine ⟨⟨.debug, .http, "POST " ++ url, [("retries", .int retry.retries)], none⟩, ?_⟩
          rw [execute, HttpClient.postText_torn _ _ _ _ _ hInterval]
          rfl
  | _ => cases hText

/-- A step with an address either makes an exchange or has a text that cannot be sent. The exchange has
one request, which is sent until an answer is a success or a final failure, at most once more than the
step has retries, with sleeps in between; the step goes on as the last answer says. A text that cannot
be sent fails the step before there is a request, in a way from which it does not recover. -/
theorem url_step_follows_answers (s : Services) (step : Step) {retry : RetryPolicy}
    (hKind : step.kind = .getUrl ∨ step.kind = .postUrl) (hRetry : step.retry? = some retry)
    (hInterval : (Quantity.real retry.interval).isNegative = false) (r : Run) :
    ((∃ x, step.exchange? s.http = some x) ∨ ∃ text, step.unsendable? = some text) ∧
      (∀ x, step.exchange? s.http = some x →
        (∀ name, x.request.header? name = (step.headers.reverse.lookup name).or
          (if name = "User-Agent" then some s.http.userAgent else none)) ∧
        (∃ k, x.EndsAt r.world retry.retries k ∧
          ∀ n, x.EndsAt r.world retry.retries n → n = k) ∧
        ∀ k, x.EndsAt r.world retry.retries k → ∃ events : List Event,
          events.filter (!·.isLogged) =
            (List.replicate k [.requested x.request, .slept (.real retry.interval)]).flatten ++
              [.requested x.request] ∧
          execute s step r =
            (afterAnswer s step (x.verdict (r.world.session (r.world.requests + k)))
              ⟨r.world.later (k + 1) k, r.state⟩).after events) ∧
      ∀ text, step.unsendable? = some text → step.recovers (.general .unicodeEncode) = false ∧
        ∃ entry, execute s step r = ⟨.error (.unencodable text), [.logged entry], r⟩ := by
  refine ⟨Step.exchange_or_unsendable hKind, fun x hExchange => ⟨?_, ?_, fun k hLast => ?_⟩,
    fun text hText => ⟨?_, execute_unsendable hText hRetry hInterval⟩⟩
  · exact Step.header?_of_exchange hExchange
  · exact Retry.IsLast.exists_unique _ _
  · exact execute_exchange hExchange hRetry hInterval hLast
  · cases step <;> rfl

/-- A session that rejects a request, loses the next one, and then takes everything. -/
def reluctantSession : Session :=
  .ofList [.ok ⟨503, "busy"⟩, .error ⟨.transport .timeout, "timed out", none⟩, .ok ⟨201, "taken"⟩]

def reluctantRun : Run := ⟨.fresh reluctantSession [] (fun _ => []) .working, .fresh⟩

def hookServices : Services := ⟨[], "nightly", ⟨.int 30, "m7m"⟩⟩

def hookHeaders : Fields := [("User-Agent", "watch"), ("Accept", "text/plain")]

def hookRetry : RetryPolicy := ⟨2, RetryPolicy.standard.interval⟩

/-- A step that posts a text and names its own agent. -/
def hookStep : Step := .postUrl "https://hook" (.whole "up") hookHeaders hookRetry []

def hookRequest : Request := .post "https://hook" "up" hookHeaders (.int 30)

theorem url_step_follows_answers_late_success :
    ∃ events : List Event,
      events.filter (!·.isLogged) =
        [.requested hookRequest, .slept (.real hookRetry.interval), .requested hookRequest,
          .slept (.real hookRetry.interval), .requested hookRequest] ∧
      execute hookServices hookStep reluctantRun =
        ⟨.ok (), events, ⟨reluctantRun.world.later 3 2, .fresh⟩⟩ := by
  have hLast : (Exchange.post hookServices.http "https://hook" "up" hookHeaders).EndsAt
      reluctantRun.world 2 2 := by
    refine ⟨Nat.le_refl 2, fun n hLess => ?_, fun hLess => absurd hLess (Nat.lt_irrefl 2)⟩
    match n with
    | 0 => rfl
    | 1 => rfl
    | n + 2 => exact absurd hLess (by omega)
  have hInterval : (Quantity.real hookRetry.interval).isNegative = false := by
    decide +kernel
  obtain ⟨-, hExchange, -⟩ :=
    url_step_follows_answers hookServices hookStep (.inr rfl) rfl hInterval reluctantRun
  obtain ⟨-, -, hAll⟩ := hExchange _ rfl
  obtain ⟨events, hEvents, hDone⟩ := hAll 2 hLast
  refine ⟨events, hEvents, ?_⟩
  rw [hDone]
  exact congrArg (Done.mk (.ok ()) · _) (List.append_nil events)

/-- A step that may send three requests and has a fallback: its text is one half of a pair. -/
def tornStep : Step := .postUrl "https://hook" (.torn .lone) hookHeaders hookRetry [.abortFlow]

/-- It sends none of them, and does not enter the fallback. -/
theorem torn_post_fails_unsent :
    (Failure.unencodable .lone).text =
        "'utf-8' codec can't encode character '\\ud800' in position 0: surrogates not allowed" ∧
      (execute hookServices tornStep reluctantRun).result = .error (.unencodable .lone) ∧
      (execute hookServices tornStep reluctantRun).events.filter (!·.isLogged) = [] := by
  have hInterval : (Quantity.real hookRetry.interval).isNegative = false := by
    decide +kernel
  obtain ⟨entry, hDone⟩ : ∃ entry, execute hookServices tornStep reluctantRun =
      ⟨.error (.unencodable .lone), [.logged entry], reluctantRun⟩ :=
    execute_unsendable rfl rfl hInterval
  refine ⟨by decide +kernel, ?_, ?_⟩ <;> rw [hDone]
  rfl

end Interpreter

end Flowline
