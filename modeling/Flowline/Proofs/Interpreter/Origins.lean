import Flowline.Proofs.Interpreter.Replay
import Flowline.Proofs.Interpreter.Requests

/-!
Where the values of a run come from. A step brings a value into the run if it sets a variable, gets
the text at an address or reads a file; a pattern captures a part of a value that is there. So every
value is a part of one that the run began with or that one of its steps brought in before.
-/

namespace Flowline

namespace Pattern

/-- A slice of a text is a contiguous part of it. -/
theorem Subject.slice_isPart (s : Subject) (start stop : Nat) :
    (s.slice start stop).toList <:+: s.chars.toList := by
  rw [slice, String.toList_ofList, Array.toList_extract, List.extract_eq_take_drop]
  exact (List.take_prefix _ _).isInfix.trans (List.drop_suffix _ _).isInfix

/-- Whatever the pattern and however it matches, its first group is a contiguous part of the text. -/
theorem firstGroup_isPart {p : Pattern} {text captured : String}
    (h : firstGroup p text = some (some captured)) : captured.toList <:+: text.toList := by
  rw [firstGroup, Option.map_eq_some_iff] at h
  obtain ⟨⟨stop, marks⟩, -, hGroup⟩ := h
  dsimp only at hGroup
  split at hGroup
  · cases hGroup
  · obtain ⟨⟨first, last⟩, -, rfl⟩ := Option.map_eq_some_iff.mp hGroup
    exact Subject.slice_isPart _ first last

end Pattern

theorem capture_isPart {pattern text captured : String} (h : capture pattern text = .ok captured) :
    captured.toList <:+: text.toList := by
  rw [capture] at h
  split at h
  · cases h
  · split at h
    · cases h
    · cases h
    · rename_i hGroup
      cases h
      exact Pattern.firstGroup_isPart hGroup

namespace RunState

/-- The values of a state: those of its variables, and the latest output. -/
def Holds (state : RunState) (value : String) : Prop :=
  (∃ name, state.vars.get? name = some value) ∨ state.lastOutput = some value

variable {state : RunState} {value own : String} {name : Option String}

theorem holds_setOutput (h : (state.setOutput own name).Holds value) :
    value = own ∨ state.Holds value := by
  rcases h with ⟨var, hVar⟩ | hLast
  · rw [get?_setOutput] at hVar
    split at hVar
    · exact .inl (Option.some.inj hVar).symm
    · exact .inr (.inl ⟨var, hVar⟩)
  · exact .inl (Option.some.inj hLast).symm

/-- A state each value of which is a contiguous part of a text with a property. -/
def PartsOf (P : String → Prop) (state : RunState) : Prop :=
  ∀ value, state.Holds value → ∃ whole, P whole ∧ value.toList <:+: whole.toList

/-- The input of a step is a value of the state. -/
theorem holds_of_input (h : state.input name = .ok value) : state.Holds value := by
  cases name with
  | some own =>
      rw [input] at h
      split at h
      · rename_i hVar
        cases h
        exact .inl ⟨own, hVar⟩
      · cases h
  | none =>
      rw [input] at h
      split at h
      · rename_i hLast
        cases h
        exact .inr hLast
      · cases h

end RunState

namespace Retry

variable {α : Type} {retryable : ErrorKind → Bool} {description : String} {retries : Int}
  {interval : Quantity} {operation : Action World α} {w : World} {a : α}

/-- An operation that succeeds ends as one of its attempts does. -/
theorem exists_attempt_of_run_eq_ok
    (h : (run retryable description retries interval World.sleep operation w).result = .ok a) :
    ∃ n, (outcome (World.sleep interval) operation w n).result = .ok a ∧
      (run retryable description retries interval World.sleep operation w).state =
        (outcome (World.sleep interval) operation w n).state := by
  rw [run] at h ⊢
  cases hBudget : checkBudget retries interval with
  | error f =>
      rw [hBudget] at h
      cases h
  | ok budget =>
      obtain ⟨k, hLast⟩ : ∃ k, StopsAt retryable (World.sleep interval) operation w budget k :=
        IsLast.exists_isLast _ budget
      simp only [hBudget, attempts_of_stopsAt (succeeds_sleep interval) hLast] at h ⊢
      exact ⟨k, h, rfl⟩

end Retry

/-- The text at an address is the body of the reply to the last request for it, and that reply tells
success. -/
theorem HttpClient.reply_of_getText {c : HttpClient} {url text : String} {retries : Int}
    {interval : Quantity} {w : World} (h : (c.getText url retries interval w).result = .ok text) :
    ∃ n reply, w.requests ≤ n ∧ (c.getText url retries interval w).state.requests = n + 1 ∧
      w.session n = .ok reply ∧ reply.isSuccess = true ∧ reply.text = text := by
  have hDone : c.getText url retries interval w =
      (Retry.run isRetryable ("GET " ++ url) retries interval World.sleep (c.getOnce url) w).after
        [.logged ⟨.debug, .http, "GET " ++ url, [("retries", .int retries)], none⟩] :=
    Action.bind_of_ok _ rfl
  rw [hDone] at h ⊢
  obtain ⟨n, hAttempt, hState⟩ := Retry.exists_attempt_of_run_eq_ok h
  rw [getOnce_eq, Exchange.outcome_once] at hAttempt
  rw [getOnce_eq, Exchange.outcome_once] at hState
  refine ⟨w.requests + n, ?_⟩
  cases hAnswer : w.session (w.requests + n) with
  | error f =>
      rw [hAnswer, Exchange.verdict] at hAttempt
      split at hAttempt
      · cases hAttempt
      · split at hAttempt <;> cases hAttempt
  | ok reply =>
      rw [hAnswer, Exchange.verdict] at hAttempt
      split at hAttempt
      · rename_i hAccepts
        cases hAttempt
        refine ⟨reply, Nat.le_add_right _ _, ?_, rfl, hAccepts, rfl⟩
        exact congrArg World.requests hState
      · cases hAttempt

namespace FileAccess

variable {path : FilePath} {text : String} {w : World}

/-- An attempt that reads a text leaves the file as it was read. -/
theorem readFile_of_readOnce (h : (readOnce path w).result = .ok text) :
    (World.readFile path (readOnce path w).state).result = .ok text := by
  cases hRead : (World.readFile path w).result with
  | error f =>
      rw [readOnce, Action.orElse_of_error hRead] at h
      cases h
  | ok own =>
      rw [readOnce, Action.orElse_of_ok hRead] at h ⊢
      exact h

/-- The text that was read from a file is that of the file as it stands afterwards. -/
theorem readFile_of_readText {retries : Int} {interval : Quantity}
    (h : (readText path retries interval w).result = .ok text) :
    (World.readFile path (readText path retries interval w).state).result = .ok text := by
  rw [readText] at h ⊢
  obtain ⟨n, hAttempt, hState⟩ := Retry.exists_attempt_of_run_eq_ok h
  rw [hState]
  exact readFile_of_readOnce hAttempt

end FileAccess

namespace Dispatch

/-- A value that a dispatched step brings into the run. A variable that is set brings its own; a step
that gets the text at an address and succeeds brings the body of the reply to its last request, which
tells success, and one that reads a file and succeeds the text of the file as it leaves it. -/
inductive Brings (s : Services) (d : Dispatch) : String → Prop where
  | set {outputVar : Option String} {value : String} (step : d.step = .setVariable outputVar value) :
      Brings s d value
  | reply {url : String} {outputVar : Option String} {retry : RetryPolicy} {fallback : List Step}
      {n : Nat} {reply : Reply} (step : d.step = .getUrl url outputVar retry fallback)
      (finished : (d.own s).result = .ok .finished)
      (first : d.before.world.requests ≤ n) (last : (d.own s).state.world.requests = n + 1)
      (answer : d.before.world.session n = .ok reply) (success : reply.isSuccess = true) :
      Brings s d reply.text
  | file {path text : String} {outputVar : Option String} {retry : RetryPolicy}
      {fallback : List Step} (step : d.step = .readText path outputVar retry fallback)
      (finished : (d.own s).result = .ok .finished)
      (read : (World.readFile (.ofText path) (d.own s).state.world).result = .ok text) :
      Brings s d text

/-- A value that a dispatched step captures from one that is there. -/
def Captures (d : Dispatch) (value : String) : Prop :=
  ∃ inputVar outputVar pattern retry fallback whole,
    d.step = .extractCapture inputVar outputVar pattern retry fallback ∧
      d.before.state.input inputVar = .ok whole ∧ capture pattern whole = .ok value

variable {s : Services} {d : Dispatch} {value : String}

/-- A step whose operation gets a text from the world is finished when that succeeds, and leaves the
world as the operation does. -/
theorem own_of_inWorld {x : Action World String}
    (hOperation : Interpreter.operation s d.step =
      (do let text ← Run.inWorld x; return .output text))
    (h : (x d.before.world).result = .ok value) :
    (d.own s).result = .ok .finished ∧ (d.own s).state.world = (x d.before.world).state := by
  have hDone : Interpreter.operation s d.step d.before =
      ⟨.ok (.output value), (x d.before.world).events ++ [],
        { d.before with world := (x d.before.world).state }⟩ := by
    rw [hOperation]
    exact Action.bind_of_ok (x := Run.inWorld x) _ h
  rw [own, Interpreter.dispatch_of_ok (congrArg Done.result hDone), hDone]
  exact ⟨rfl, rfl⟩

/-- What a dispatched step produces it brings in or captures. -/
theorem brings_or_captures (h : d.obtained? s = some value) : d.Brings s value ∨ d.Captures value := by
  cases hStep : d.step with
  | setVariable outputVar own =>
      rw [obtained?, hStep] at h
      cases h
      exact .inl (.set hStep)
  | getUrl url outputVar retry fallback =>
      rw [obtained?, hStep] at h
      have hOk := toOption_eq_some.mp h
      obtain ⟨n, reply, hFirst, hLast, hAnswer, hSuccess, rfl⟩ := HttpClient.reply_of_getText hOk
      obtain ⟨hFinished, hWorld⟩ := own_of_inWorld (s := s) (d := d) (by rw [hStep]; rfl) hOk
      exact .inl (.reply hStep hFinished hFirst (by rw [hWorld]; exact hLast) hAnswer hSuccess)
  | readText path outputVar retry fallback =>
      rw [obtained?, hStep] at h
      have hOk := toOption_eq_some.mp h
      obtain ⟨hFinished, hWorld⟩ := own_of_inWorld (s := s) (d := d) (by rw [hStep]; rfl) hOk
      refine .inl (.file hStep hFinished ?_)
      rw [hWorld]
      exact FileAccess.readFile_of_readText hOk
  | extractCapture inputVar outputVar pattern retry fallback =>
      rw [obtained?, hStep] at h
      obtain ⟨whole, hInput, hCapture⟩ := bind_eq_ok.mp (toOption_eq_some.mp h)
      exact .inr ⟨inputVar, outputVar, pattern, retry, fallback, whole, hStep, hInput, hCapture⟩
  | _ =>
      rw [obtained?, hStep] at h
      cases h

/-- The own part of a step leaves the state as it was, or records in it what the step obtained. -/
theorem state_own_cases (s : Services) (d : Dispatch) :
    (d.own s).state.state = d.before.state ∨
      ∃ value, d.obtained? s = some value ∧
        (d.own s).state.state = d.before.state.setOutput value d.step.outputVar := by
  rw [state_own, production?]
  cases hObtained : d.obtained? s with
  | none => exact .inl rfl
  | some value => exact .inr ⟨value, rfl, rfl⟩

/-- A step whose operation fails leaves the state as it was, whether it is recovered or not. -/
theorem state_own_of_error {f : Failure}
    (h : (Interpreter.operation s d.step d.before).result = .error f) :
    (d.own s).state.state = d.before.state := by
  rw [state_own, production?, obtained?_eq_text?, h]
  rfl

/-- After the own part of a step the values are parts of those from before and of what the step brings
in. A captured value is a part of the input, and so of all that the input is a part of. -/
theorem partsOf_own {P : String → Prop} (h : d.before.state.PartsOf P) :
    (d.own s).state.state.PartsOf fun text => P text ∨ d.Brings s text := by
  have hKept {other : String} (hHeld : d.before.state.Holds other) :
      ∃ whole, (P whole ∨ d.Brings s whole) ∧ other.toList <:+: whole.toList := by
    obtain ⟨whole, hWhole, hPart⟩ := h other hHeld
    exact ⟨whole, .inl hWhole, hPart⟩
  intro other hHeld
  rcases d.state_own_cases s with hSame | ⟨value, hObtained, hRecorded⟩
  · rw [hSame] at hHeld
    exact hKept hHeld
  rw [hRecorded] at hHeld
  rcases RunState.holds_setOutput hHeld with rfl | hBefore
  · rcases brings_or_captures hObtained with hBrings | hCaptures
    · exact ⟨other, .inr hBrings, List.infix_rfl⟩
    · obtain ⟨inputVar, -, pattern, -, -, whole, -, hInput, hCapture⟩ := hCaptures
      obtain ⟨source, hSource, hPart⟩ := hKept (RunState.holds_of_input hInput)
      exact ⟨source, hSource, (capture_isPart hCapture).trans hPart⟩
  · exact hKept hBefore

end Dispatch

namespace Interpreter

/-- A text that a run began with, or that one of some dispatched steps brought into it. -/
def Origin (s : Services) (start : RunState) (ds : List Dispatch) (text : String) : Prop :=
  start.Holds text ∨ ∃ d ∈ ds, d.Brings s text

variable {s : Services} {r last : Run} {ds : List Dispatch}

/-- The steps before one of linked steps are linked to it. -/
theorem Linked.before {front back : List Dispatch} {d : Dispatch}
    (h : Linked s r (front ++ d :: back) last) : Linked s r front d.before := by
  induction front generalizing r with
  | nil =>
      cases h
      exact .nil d.before
  | cons first rest ih =>
      cases h with
      | cons link => exact .cons (ih link)

/-- What the values are parts of grows along linked steps by what these bring in. -/
theorem Linked.partsOf {P : String → Prop} (h : Linked s r ds last) (hStart : r.state.PartsOf P) :
    last.state.PartsOf fun text => P text ∨ ∃ d ∈ ds, d.Brings s text := by
  induction h generalizing P with
  | nil r =>
      intro value hHeld
      obtain ⟨whole, hWhole, hPart⟩ := hStart value hHeld
      exact ⟨whole, .inl hWhole, hPart⟩
  | @cons d rest last link ih =>
      intro value hHeld
      obtain ⟨whole, hWhole, hPart⟩ := ih (Dispatch.partsOf_own hStart) value hHeld
      refine ⟨whole, ?_, hPart⟩
      rw [or_assoc] at hWhole
      refine hWhole.imp_right fun hBrought => ?_
      rcases hBrought with hFirst | ⟨other, hMem, hBrings⟩
      · exact ⟨d, List.mem_cons_self, hFirst⟩
      · exact ⟨other, List.mem_cons_of_mem d hMem, hBrings⟩

theorem Linked.partsOf_origin (h : Linked s r ds last) :
    last.state.PartsOf (Origin s r.state ds) :=
  h.partsOf fun value hHeld => ⟨value, hHeld, List.infix_rfl⟩

/-- Every value of a run, in each state that it goes through, is a contiguous part of a value of its
first state, of the text of a variable that a step of the tree sets, of the body of a reply with a
status of success to a step that gets the text at an address, or of the text that a step read from a
file; and that step came before. Nothing else that a step sees or makes comes into the state: its own
part changes nothing, or records what the step brings in or captures, and if its operation fails it
changes nothing. -/
theorem values_have_origins (s : Services) (steps : List Step) (r : Run) :
    (∀ d ∈ dispatches s 0 steps r, d.step ∈ Step.walk steps) ∧
    Linked s r (dispatches s 0 steps r) (run s steps r).state ∧
    (∀ front d back, dispatches s 0 steps r = front ++ d :: back →
      d.before.state.PartsOf (Origin s r.state front)) ∧
    (run s steps r).state.state.PartsOf (Origin s r.state (dispatches s 0 steps r)) ∧
    ∀ d ∈ dispatches s 0 steps r,
      ((d.own s).state.state = d.before.state ∨
        ∃ value, (d.own s).state.state = d.before.state.setOutput value d.step.outputVar ∧
          (d.Brings s value ∨ d.Captures value)) ∧
      ∀ f, (operation s d.step d.before).result = .error f →
        (d.own s).state.state = d.before.state := by
  have hLinked := linked_dispatches s 0 steps r
  refine ⟨fun d hMem => mem_walk_of_mem_dispatches hMem, hLinked, ?_, hLinked.partsOf_origin, ?_⟩
  · intro front d back hSplit
    rw [hSplit] at hLinked
    exact hLinked.before.partsOf_origin
  · intro d hMem
    refine ⟨?_, fun f hFails => Dispatch.state_own_of_error hFails⟩
    rcases d.state_own_cases s with hSame | ⟨value, hObtained, hRecorded⟩
    · exact .inl hSame
    · exact .inr ⟨value, hRecorded, Dispatch.brings_or_captures hObtained⟩

end Interpreter

end Flowline
