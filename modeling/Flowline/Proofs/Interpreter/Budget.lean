import Flowline.Proofs.Flow.Accepted
import Flowline.Proofs.Http
import Flowline.Proofs.Interpreter.Records

/-!
Budgets of steps. What the own part of a step does to the world is told by its kind: attempts of one
operation with a sleep between two of them, one message, one sleep, or nothing.
-/

namespace Flowline

namespace Done

variable {σ α : Type}

/-- The requests that were sent, in order. -/
def requests (d : Done σ α) : List Request := d.events.filterMap Event.request?

/-- The sleeps that there were, in order. -/
def sleeps (d : Done σ α) : List Quantity := d.events.filterMap Event.sleep?

end Done

/-! ## Actions without a world -/

/-- An action that neither looks at the world nor changes it. -/
def Action.Offline {α : Type} (x : Action Run α) : Prop :=
  ∀ r w, x ⟨w, r.state⟩ = ⟨(x r).result, (x r).events, w, (x r).state.state⟩

namespace Action.Offline

variable {α β : Type} {x : Action Run α}

theorem pure (a : α) : (Pure.pure a : Action Run α).Offline := fun _ _ => rfl

theorem fail (f : Failure) : (Action.fail f : Action Run α).Offline := fun _ _ => rfl

theorem ofResult (result : Except Failure α) : (Action.ofResult result : Action Run α).Offline := by
  cases result with
  | ok a => exact pure a
  | error f => exact fail f

theorem fork {next : α → Action Run β} {handle : Failure → Action Run β} (hx : x.Offline)
    (hNext : ∀ a, (next a).Offline) (hHandle : ∀ f, (handle f).Offline) :
    (x.fork next handle).Offline := by
  intro r w
  have hFirst := hx r w
  cases hResult : (x r).result with
  | ok a =>
      rw [fork_of_ok _ _ hResult, fork_of_ok _ _ (a := a) (by rw [hFirst, hResult]), hFirst,
        hNext a (x r).state w]
      rfl
  | error f =>
      rw [fork_of_error _ _ hResult, fork_of_error _ _ (f := f) (by rw [hFirst, hResult]), hFirst,
        hHandle f (x r).state w]
      rfl

theorem bind {next : α → Action Run β} (hx : x.Offline) (hNext : ∀ a, (next a).Offline) :
    (x >>= next).Offline := by
  intro r w
  have hFirst := hx r w
  cases hResult : (x r).result with
  | ok a =>
      rw [bind_of_ok _ hResult, bind_of_ok _ (a := a) (by rw [hFirst, hResult]), hFirst,
        hNext a (x r).state w]
      rfl
  | error f =>
      rw [bind_of_error _ hResult, bind_of_error _ (f := f) (by rw [hFirst, hResult]), hFirst]

theorem ite {c : Prop} [Decidable c] {y : Action Run α} (hx : x.Offline) (hy : y.Offline) :
    (if c then x else y).Offline := by
  split
  · exact hx
  · exact hy

end Action.Offline

namespace Interpreter

/-- The own part of a step is offline if its operation is. -/
theorem offline_settle {s : Services} {step : Step} {x : Action Run Yield} (h : x.Offline) :
    (settle s step x).Offline := by
  refine h.fork (fun y => ?_) fun f => .ite ?_ (.fail f)
  · cases y with
    | output text => exact fun _ _ => rfl
    | nothing => exact .pure _
    | arm taken => exact .pure _
  · refine Action.Offline.bind (fun _ _ => rfl) fun _ => .ite (.fail _) ?_
    exact Action.Offline.bind (fun _ _ => rfl) fun _ => .pure _

end Interpreter

/-- An action on the world, as the operation of a step: the step gets something made of its value. -/
def Done.asOperation {α : Type} (x : Done World α) (given : α → Interpreter.Yield) :
    Action Run Interpreter.Yield := fun r =>
  ⟨x.result.map given, x.events, { r with world := x.state }⟩

/-! ## What the own part of a step does -/

namespace Dispatch

/-- The operation of a dispatched step was an action on the world: the own part comes to what a step
makes of the end of that action, and shows, records aside, what the action showed. -/
structure Does {α : Type} (s : Services) (d : Dispatch) (x : Done World α)
    (given : α → Interpreter.Yield) : Prop where
  result : (d.own s).result =
    (Interpreter.settle s d.step (x.asOperation given) d.before).result
  state : (d.own s).state = (Interpreter.settle s d.step (x.asOperation given) d.before).state
  events : (d.own s).events.filter (!·.isLogged) = x.events.filter (!·.isLogged)

/-- The own part of a dispatched step tries an operation: once and at most so many times again as
its policy allows, with one sleep before each time. It comes to what a step makes of the end of the
last attempt. The requests are told by the number of attempts. -/
def Tries {α : Type} (s : Services) (d : Dispatch) (retry : RetryPolicy)
    (operation : Action World α) (given : α → Interpreter.Yield) (requests : Nat → List Request) :
    Prop :=
  ∃ n ≤ retry.retries, ∃ x,
    Retry.Retried (.real retry.interval) operation n d.before.world x ∧ d.Does s x given ∧
      (d.own s).requests = requests (n + 1) ∧
      (d.own s).sleeps = List.replicate n (.real retry.interval)

/-- The own part of a dispatched step leaves the world alone: it shows only records, and would be the
same in any other world. -/
structure Idle (s : Services) (d : Dispatch) : Prop where
  events : (d.own s).events.filter (!·.isLogged) = []
  anywhere : ∀ w, ({ d with before := { d.before with world := w } } : Dispatch).own s =
    ⟨(d.own s).result, (d.own s).events, w, (d.own s).state.state⟩

/-- What the own part of a dispatched step may do, by the kind of the step. A text without a form in
bytes is sent to no address. -/
def WithinBudget (s : Services) (d : Dispatch) : Prop :=
  match d.step with
  | .getUrl url _ retry _ =>
      d.Tries s retry (s.http.getOnce url) .output fun attempts =>
        List.replicate attempts (.get url [("User-Agent", s.http.userAgent)] s.http.timeout)
  | .postUrl url (.whole text) headers retry _ =>
      d.Tries s retry (s.http.postOnce url (.whole text) headers) (fun _ => .nothing)
        fun attempts =>
          List.replicate attempts (.post url text (s.http.headersWith headers) s.http.timeout)
  | .postUrl _ (.torn text) _ _ _ =>
      d.Idle s ∧ (d.own s).result = .error (.unencodable text)
  | .readText path _ retry _ =>
      d.Tries s retry (FileAccess.readOnce (.ofText path)) .output fun _ => []
  | .appendText path inputVar retry _ =>
      match d.before.state.input inputVar with
      | .ok text =>
          d.Tries s retry (FileAccess.appendOnce (.ofText path) text) (fun _ => .nothing) fun _ => []
      | .error f => d.Idle s ∧ (d.own s).result = .error f
  | .notify name template _ _ =>
      (d.own s).sleeps = [] ∧ ∀ channel, s.notifiers.require name = .ok channel →
        d.Does s (channel.send (Message.render template d.before.state) d.before.world)
          fun _ => .nothing
  | .sleep duration => d.Does s (World.sleep (.real duration) d.before.world) fun _ => .nothing
  | _ => d.Idle s

/-! ## Each step keeps to its budget -/

variable {s : Services} {d : Dispatch}

/-- What records do not show can be read off the other events. -/
theorem filterMap_quiet {β : Type} {show? : Event → Option β}
    (h : ∀ entry, show? (.logged entry) = none) (events : List Event) :
    (events.filter (!·.isLogged)).filterMap show? = events.filterMap show? := by
  induction events with
  | nil => rfl
  | cons e rest ih =>
      cases e with
      | logged entry =>
          rw [List.filter_cons_of_neg (by simp [Event.isLogged, Event.entry?]), ih,
            List.filterMap_cons_none (h entry)]
      | _ =>
          rw [List.filter_cons_of_pos (by simp [Event.isLogged, Event.entry?]), List.filterMap_cons,
            List.filterMap_cons, ih]

theorem Does.filterMap {α β : Type} {x : Done World α} {given : α → Interpreter.Yield}
    (hDoes : d.Does s x given) {show? : Event → Option β}
    (h : ∀ entry, show? (.logged entry) = none) :
    (d.own s).events.filterMap show? = x.events.filterMap show? := by
  rw [← filterMap_quiet h, hDoes.events, filterMap_quiet h]

/-- The record before an action is none of the things that it does. -/
theorem Does.without_record {α : Type} {x : Action World α} {given : α → Interpreter.Yield}
    {entry : Log.Entry}
    (h : d.Does s ((Action.emit (.logged entry) >>= fun _ => x) d.before.world) given) :
    d.Does s (x d.before.world) given :=
  ⟨h.result, h.state, h.events⟩

theorem Idle.filterMap {β : Type} (hIdle : d.Idle s) {show? : Event → Option β}
    (h : ∀ entry, show? (.logged entry) = none) : (d.own s).events.filterMap show? = [] := by
  rw [← filterMap_quiet h, hIdle.events, List.filterMap_nil]

/-- A step whose operation is an action on the world does what that action does. -/
theorem does_of_operation {α : Type} {x : Action World α} {g : α → Interpreter.Yield}
    (hOperation : Interpreter.operation s d.step d.before =
      (Run.inWorld x >>= fun a => pure (g a)) d.before) :
    d.Does s (x d.before.world) g := by
  have hEnd : Interpreter.operation s d.step d.before =
      (x d.before.world).asOperation g d.before := by
    rw [hOperation]
    cases h : (x d.before.world).result with
    | ok a =>
        rw [Action.bind_of_ok _ (x := Run.inWorld x) (a := a) h, Done.asOperation, h]
        exact congrArg (Done.mk _ · _) (List.append_nil _)
    | error f =>
        rw [Action.bind_of_error _ (x := Run.inWorld x) (f := f) h, Done.asOperation, h]
        rfl
  obtain ⟨-, hEvents⟩ := Interpreter.world_dispatch s d.step d.before
  obtain ⟨hResult, hState⟩ := Interpreter.settle_congr s d.step (congrArg Done.result hEnd)
    (congrArg Done.state hEnd)
  exact ⟨hResult, hState, hEvents.trans (by rw [hEnd]; rfl)⟩

/-- A step whose operation comes, in every world, to what an action without a world comes to, leaves
the world alone. -/
theorem idle_of_offline (x : Action Run Interpreter.Yield)
    (hSame : ∀ w, Interpreter.operation s d.step ⟨w, d.before.state⟩ = x ⟨w, d.before.state⟩)
    (hOffline : x.Offline) (hLogged : x.Emits fun e => e.isLogged = true) : d.Idle s := by
  have hOwn (w : World) : ({ d with before := { d.before with world := w } } : Dispatch).own s =
      Interpreter.settle s d.step x ⟨w, d.before.state⟩ := by
    rw [own, Interpreter.dispatch]
    simp only [Interpreter.settle, Action.fork, hSame]
  have hHere : d.own s = Interpreter.settle s d.step x d.before := hOwn d.before.world
  refine ⟨?_, fun w => ?_⟩
  · rw [hHere, List.filter_eq_nil_iff]
    intro e hMem
    rw [Interpreter.emits_settle hLogged (fun _ => rfl) rfl d.before e hMem]
    decide
  · rw [hOwn w, hHere]
    exact Interpreter.offline_settle hOffline d.before w

/-- So does one that fails, before it turns to the world, in a way from which it does not recover. -/
theorem idle_of_failure (records : List Log.Entry) {f : Failure}
    (hFails : ∀ w, Interpreter.operation s d.step ⟨w, d.before.state⟩ =
      ⟨.error f, records.map .logged, ⟨w, d.before.state⟩⟩)
    (hStays : d.step.recovers f.kind = false) : d.Idle s ∧ (d.own s).result = .error f := by
  have hHere : Interpreter.operation s d.step d.before = ⟨.error f, records.map .logged, d.before⟩ :=
    hFails d.before.world
  refine ⟨idle_of_offline (fun r => ⟨.error f, records.map .logged, r⟩) hFails (fun _ _ => rfl) ?_, ?_⟩
  · intro r e hMem
    obtain ⟨entry, -, rfl⟩ := List.mem_map.mp hMem
    rfl
  · rw [own, Interpreter.dispatch_of_unrecovered (congrArg Done.result hHere) hStays]

/-- A step that retries an operation keeps to its policy. -/
theorem tries_of_retries {α : Type} {retry : RetryPolicy} {operation : Action World α}
    {given : α → Interpreter.Yield} {requests : Nat → List Request} (retryable : ErrorKind → Bool)
    (description : String) (hDuration : retry.interval.IsDuration)
    (hDoes : d.Does s (Retry.run retryable description retry.retries (.real retry.interval)
      World.sleep operation d.before.world) given)
    (hSleeps : ∀ w, (operation w).events.filterMap Event.sleep? = [])
    (hRequests : ∀ n x, Retry.Retried (.real retry.interval) operation n d.before.world x →
      x.events.filterMap Event.request? = requests (n + 1)) :
    d.Tries s retry operation given requests := by
  obtain ⟨n, hLe, hRetried⟩ := Retry.retried_run retryable description hDuration.not_isNegative
    operation retry.retries d.before.world
  refine ⟨n, hLe, _, hRetried, hDoes, ?_, ?_⟩
  · exact (hDoes.filterMap fun _ => rfl).trans (hRequests n _ hRetried)
  · exact (hDoes.filterMap fun _ => rfl).trans (hRetried.sleeps hSleeps)

/-- One whose attempts show nothing has nothing to show but its sleeps. -/
theorem tries_of_silent {α : Type} {retry : RetryPolicy} {operation : Action World α}
    {given : α → Interpreter.Yield} (retryable : ErrorKind → Bool) (description : String)
    (hDuration : retry.interval.IsDuration)
    (hDoes : d.Does s (Retry.run retryable description retry.retries (.real retry.interval)
      World.sleep operation d.before.world) given)
    (hSilent : operation.Emits fun _ => False) :
    d.Tries s retry operation given fun _ => [] := by
  refine tries_of_retries retryable description hDuration hDoes (fun w => ?_) fun n x hRetried => ?_
  · rw [hSilent.events_eq_nil w, List.filterMap_nil]
  · exact hRetried.no_requests fun w => by rw [hSilent.events_eq_nil w, List.filterMap_nil]

/-- One whose attempts are requests sends one for each. -/
theorem tries_of_request {α : Type} {retry : RetryPolicy} {operation : Action World α}
    {given : α → Interpreter.Yield} {request : Request} (retryable : ErrorKind → Bool)
    (description : String) (hDuration : retry.interval.IsDuration)
    (hDoes : d.Does s (Retry.run retryable description retry.retries (.real retry.interval)
      World.sleep operation d.before.world) given)
    (hRequest : ∀ w, (operation w).events = [.requested request]) :
    d.Tries s retry operation given fun attempts => List.replicate attempts request := by
  refine tries_of_retries retryable description hDuration hDoes (fun w => ?_) fun n x hRetried => ?_
  · rw [hRequest w]
    rfl
  · exact hRetried.requests fun w => by rw [hRequest w]; rfl

theorem logged_log (s : Services) (level : Log.Level) (message : String)
    (fields : List (String × Value)) :
    (Interpreter.log s level message fields).Emits fun e => e.isLogged = true :=
  .log rfl

theorem offline_input (name : Option String) : (Run.input name).Offline := fun _ _ => rfl

/-- One attempt to get a text is one request. -/
theorem events_getOnce (c : HttpClient) (url : String) (w : World) :
    (c.getOnce url w).events = [.requested (.get url [("User-Agent", c.userAgent)] c.timeout)] := by
  refine Action.events_fork_of_silent (fun reply t => ?_) (fun f t => rfl) w
  split <;> rfl

/-- One attempt to send a text is one request. -/
theorem events_postOnce (c : HttpClient) (url text : String) (headers : Fields) (w : World) :
    (c.postOnce url (.whole text) headers w).events =
      [.requested (.post url text (c.headersWith headers) c.timeout)] := by
  refine Action.events_fork_of_silent (fun reply t => ?_) (fun f t => rfl) w
  split <;> rfl

/-- A step that has no text to send sends nothing. -/
theorem idle_of_torn {index : Nat} {url : String} {text : Text.Torn} {headers : Fields}
    {retry : RetryPolicy} {fallback : List Step} {before : Run}
    (hDuration : retry.interval.IsDuration) :
    Idle s ⟨index, .postUrl url (.torn text) headers retry fallback, before⟩ ∧
      (own s ⟨index, .postUrl url (.torn text) headers retry fallback, before⟩).result =
        .error (.unencodable text) := by
  refine idle_of_failure (d := ⟨index, .postUrl url (.torn text) headers retry fallback, before⟩)
    [⟨.debug, .http, "POST " ++ url, [("retries", .int retry.retries)], none⟩] (fun w => ?_) rfl
  rw [Interpreter.operation, HttpClient.postText_torn _ _ _ _ _ hDuration.not_isNegative]
  rfl

/-- Whatever it comes to, the own part of a dispatched step keeps to the budget of its kind. -/
theorem withinBudget (hTimely : d.step.Timely) : d.WithinBudget s := by
  obtain ⟨index, step, before⟩ := d
  cases step with
  | abortFlow =>
      exact idle_of_offline _ (fun _ => rfl) (Action.Offline.bind (fun _ _ => rfl) fun _ => .fail _)
        ((logged_log s _ _ _).bind fun _ => .fail _)
  | debugState =>
      refine idle_of_offline _ (fun _ => rfl) (Action.Offline.bind (fun _ _ => rfl) fun _ => ?_)
        (Action.Emits.bind (.of_silent fun _ => rfl) fun _ => ?_)
      · exact Action.Offline.bind (fun _ _ => rfl) fun _ => .pure _
      · exact (logged_log s _ _ _).bind fun _ => .pure _
  | setVariable outputVar value =>
      exact idle_of_offline _ (fun _ => rfl) (.pure _) (.pure _)
  | extractCapture inputVar outputVar pattern retry fallback =>
      exact idle_of_offline _ (fun _ => rfl)
        ((offline_input inputVar).bind fun _ => (Action.Offline.ofResult _).bind fun _ => .pure _)
        (Action.Emits.bind (.of_silent fun _ => rfl) fun _ =>
          (Action.Emits.ofResult _).bind fun _ => .pure _)
  | compareVar inputVar compareWith compareFor ifTrue ifFalse =>
      exact idle_of_offline _ (fun _ => rfl)
        ((offline_input inputVar).bind fun _ => .ite (.fail _) (.pure _))
        (Action.Emits.bind (.of_silent fun _ => rfl) fun _ => .ite (.fail _) (.pure _))
  | sleep duration =>
      exact does_of_operation (x := World.sleep (.real duration)) (g := fun _ => .nothing) rfl
  | getUrl url outputVar retry fallback =>
      have hDoes := does_of_operation (s := s)
        (d := ⟨index, .getUrl url outputVar retry fallback, before⟩)
        (x := s.http.getText url retry.retries (.real retry.interval)) (g := .output) rfl
      exact tries_of_request HttpClient.isRetryable ("GET " ++ url) (hTimely _ rfl)
        hDoes.without_record (events_getOnce s.http url)
  | postUrl url body headers retry fallback =>
      cases body with
      | torn text => exact idle_of_torn (hTimely _ rfl)
      | whole text =>
          have hDoes := does_of_operation (s := s)
            (d := ⟨index, .postUrl url (.whole text) headers retry fallback, before⟩)
            (x := s.http.postText url (.whole text) headers retry.retries (.real retry.interval))
            (g := fun _ => .nothing) rfl
          exact tries_of_request HttpClient.isRetryable ("POST " ++ url) (hTimely _ rfl)
            hDoes.without_record (events_postOnce s.http url text headers)
  | readText path outputVar retry fallback =>
      have hDoes := does_of_operation (s := s)
        (d := ⟨index, .readText path outputVar retry fallback, before⟩) (g := .output)
        (x := FileAccess.readText (.ofText path) retry.retries (.real retry.interval)) rfl
      exact tries_of_silent FileAccess.isRetryable _ (hTimely _ rfl) hDoes FileAccess.emits_readOnce
  | appendText path inputVar retry fallback =>
      simp only [WithinBudget]
      split
      · rename_i text hInput
        have hOperation := Action.bind_of_ok (x := Run.input inputVar) (s := before) (a := text)
          (fun text => do
            Run.inWorld
              (FileAccess.appendLine (.ofText path) text retry.retries (.real retry.interval))
            return Interpreter.Yield.nothing) hInput
        have hDoes := does_of_operation (s := s)
          (d := ⟨index, .appendText path inputVar retry fallback, before⟩)
          (g := fun _ => .nothing) hOperation
        exact tries_of_silent FileAccess.isRetryable _ (hTimely _ rfl) hDoes
          FileAccess.emits_appendOnce
      · rename_i f hInput
        refine idle_of_failure (d := ⟨index, .appendText path inputVar retry fallback, before⟩) []
          (fun w => ?_) ?_
        · exact Action.bind_of_error (x := Run.input inputVar) (s := ⟨w, before.state⟩) _ hInput
        · rw [Interpreter.kind_of_input (r := before) hInput]
          rfl
  | notify name template retry fallback =>
      have hNoSleep := Interpreter.emits_notify (P := fun e => e.sleep? = none)
        ⟨fun _ => rfl, fun _ => rfl, fun _ _ _ => rfl, fun _ _ => rfl⟩ s name template retry
        fallback
      refine ⟨List.filterMap_eq_nil_iff.mpr ?_, fun channel hChannel => ?_⟩
      · exact Interpreter.emits_settle hNoSleep (fun _ => rfl) rfl before
      · have hFound : Interpreter.notifier s name before = ⟨.ok channel, [], before⟩ := by
          rw [Interpreter.notifier, hChannel]
          rfl
        have hOperation :
            Interpreter.operation s (.notify name template retry fallback) before =
              (Run.inWorld (channel.send (Message.render template before.state)) >>= fun _ =>
                pure Interpreter.Yield.nothing) before := by
          rw [Interpreter.operation, Action.bind_of_ok _ (congrArg Done.result hFound), hFound,
            Action.bind_of_ok _ (x := Interpreter.rendered template) rfl]
          rfl
        exact does_of_operation (d := ⟨index, .notify name template retry fallback, before⟩)
          (g := fun _ => .nothing) hOperation

end Dispatch

/-! ## Requests of steps -/

/-- The requests of steps are all but the forms, which only notifiers send. -/
def Request.ofStep? : Request → Option Request
  | .form .. => none
  | request => some request

/-- The request of a step that an event is. -/
def Event.stepRequest? (e : Event) : Option Request := e.request?.bind Request.ofStep?

/-- How many requests a step may send for its address. -/
def Step.requestBudget : Step → Nat
  | .getUrl _ _ retry _ => retry.retries + 1
  | .postUrl _ _ _ retry _ => retry.retries + 1
  | _ => 0

namespace Dispatch

variable {s : Services} {d : Dispatch}

theorem length_stepRequests_le (events : List Event) :
    (events.filterMap Event.stepRequest?).length ≤ (events.filterMap Event.request?).length := by
  have hBoth : events.filterMap Event.stepRequest? =
      (events.filterMap Event.request?).filterMap Request.ofStep? := by
    rw [List.filterMap_filterMap]
    rfl
  rw [hBoth]
  exact List.length_filterMap_le _ _

theorem stepRequests_of_tries {α : Type} {retry : RetryPolicy} {operation : Action World α}
    {given : α → Interpreter.Yield} {requests : Nat → List Request} {bound : Nat}
    (h : d.Tries s retry operation given requests)
    (hBound : ∀ n ≤ retry.retries, (requests (n + 1)).length ≤ bound) :
    ((d.own s).events.filterMap Event.stepRequest?).length ≤ bound := by
  obtain ⟨n, hLe, -, -, -, hRequests, -⟩ := h
  have hAll := length_stepRequests_le (d.own s).events
  change _ ≤ (d.own s).requests.length at hAll
  rw [hRequests] at hAll
  exact Nat.le_trans hAll (hBound n hLe)

theorem stepRequests_of_idle (h : d.Idle s) (bound : Nat) :
    ((d.own s).events.filterMap Event.stepRequest?).length ≤ bound := by
  rw [h.filterMap fun _ => rfl]
  exact Nat.zero_le bound

/-- The own part of a step sends no more requests than its budget has; only the steps with an
address have any. -/
theorem stepRequests_le (hTimely : d.step.Timely) :
    ((d.own s).events.filterMap Event.stepRequest?).length ≤ d.step.requestBudget := by
  have hWithin := withinBudget (s := s) hTimely
  obtain ⟨index, step, before⟩ := d
  cases step with
  | getUrl url outputVar retry fallback =>
      simp only [WithinBudget] at hWithin
      refine stepRequests_of_tries hWithin fun n hLe => ?_
      rw [List.length_replicate]
      exact Nat.succ_le_succ hLe
  | postUrl url body headers retry fallback =>
      cases body with
      | torn text =>
          simp only [WithinBudget] at hWithin
          exact stepRequests_of_idle hWithin.1 _
      | whole text =>
          simp only [WithinBudget] at hWithin
          refine stepRequests_of_tries hWithin fun n hLe => ?_
          rw [List.length_replicate]
          exact Nat.succ_le_succ hLe
  | readText path outputVar retry fallback =>
      simp only [WithinBudget] at hWithin
      exact stepRequests_of_tries hWithin fun _ _ => Nat.le_refl 0
  | appendText path inputVar retry fallback =>
      simp only [WithinBudget] at hWithin
      split at hWithin
      · exact stepRequests_of_tries hWithin fun _ _ => Nat.le_refl 0
      · exact stepRequests_of_idle hWithin.1 _
  | notify name template retry fallback =>
      have hNone : (Interpreter.dispatch s (.notify name template retry fallback)).Emits fun e =>
          e.stepRequest? = none :=
        Interpreter.emits_settle (Interpreter.emits_notify
          ⟨fun _ => rfl, fun _ => rfl, fun _ _ _ => rfl, fun _ _ => rfl⟩ s name template retry
          fallback) (fun _ => rfl) rfl
      exact Nat.le_of_eq (congrArg List.length (List.filterMap_eq_nil_iff.mpr (hNone before)))
  | sleep duration =>
      simp only [WithinBudget] at hWithin
      change _ ≤ 0
      rw [hWithin.filterMap fun _ => rfl]
      exact Nat.le_refl 0
  | _ =>
      simp only [WithinBudget] at hWithin
      exact stepRequests_of_idle hWithin _

end Dispatch

end Flowline
