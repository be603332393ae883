import Flowline.Proofs.Except
import Flowline.Proofs.Flow.State
import Flowline.Proofs.Interpreter.Course
import Flowline.Proofs.Retry

/-!
What changes the state of a run. A dispatched step produces a value if its own operation obtains one,
and the state of a run is at each stage the replay of what was produced before. Failures, retries and
recovery leave no mark on it, whatever level they unwind to.
-/

namespace Flowline

/-- The output among what operations give. -/
def Interpreter.Yield.text? : Interpreter.Yield → Option String
  | .output text => some text
  | _ => none

namespace Dispatch

/-- The text that the operation of a dispatched step comes to, if the step is one that produces. -/
def obtained? (s : Services) (d : Dispatch) : Option String :=
  match d.step with
  | .setVariable _ value => some value
  | .getUrl url _ retry _ =>
      (s.http.getText url retry.retries (.real retry.interval) d.before.world).result.toOption
  | .readText path _ retry _ =>
      (FileAccess.readText (.ofText path) retry.retries (.real retry.interval)
        d.before.world).result.toOption
  | .extractCapture inputVar _ pattern _ _ =>
      (d.before.state.input inputVar >>= capture pattern).toOption
  | _ => none

/-- What a dispatched step produces. -/
def production? (s : Services) (d : Dispatch) : Option Production :=
  (d.obtained? s).map fun value => ⟨value, d.step.outputVar⟩

/-- A dispatched step obtains a value: a variable that is set gives its own, an address or a file the
text of the attempt that succeeded, and a pattern what its first group captures of the input. -/
def Obtains (s : Services) (d : Dispatch) (value : String) : Prop :=
  match d.step with
  | .setVariable _ own => value = own
  | .getUrl url _ retry _ =>
      Quantity.isNegative (.real retry.interval) = false ∧ ∃ n ≤ retry.retries,
        Retry.Obtains HttpClient.isRetryable (.real retry.interval) (s.http.getOnce url) value n
          d.before.world
  | .readText path _ retry _ =>
      Quantity.isNegative (.real retry.interval) = false ∧ ∃ n ≤ retry.retries,
        Retry.Obtains FileAccess.isRetryable (.real retry.interval)
          (FileAccess.readOnce (.ofText path)) value n d.before.world
  | .extractCapture inputVar _ pattern _ _ =>
      ∃ text, d.before.state.input inputVar = .ok text ∧ capture pattern text = .ok value
  | _ => False

variable {s : Services} {d : Dispatch}

theorem toOption_eq_some {α : Type} {result : Except Failure α} {a : α} :
    result.toOption = some a ↔ result = .ok a := by
  cases result <;> simp [Except.toOption]

theorem obtained?_eq_some {value : String} : d.obtained? s = some value ↔ d.Obtains s value := by
  obtain ⟨index, step, before⟩ := d
  cases step with
  | setVariable outputVar own =>
      rw [obtained?, Obtains, Option.some_inj]
      exact eq_comm
  | getUrl url outputVar retry fallback =>
      rw [obtained?, Obtains, toOption_eq_some]
      exact Retry.result_run_eq_ok ("GET " ++ url)
  | readText path outputVar retry fallback =>
      rw [obtained?, Obtains, toOption_eq_some]
      exact Retry.result_run_eq_ok _
  | extractCapture inputVar outputVar pattern retry fallback =>
      rw [obtained?, Obtains, toOption_eq_some]
      exact bind_eq_ok
  | _ => simp [obtained?, Obtains]

/-- The output of two actions in a row is that of the second one, where the first one succeeds. -/
theorem text?_bind {α : Type} (x : Action Run α) (next : α → Action Run Interpreter.Yield)
    (r : Run) :
    ((x >>= next) r).result.toOption.bind Interpreter.Yield.text? =
      (x r).result.toOption.bind fun a =>
        (next a (x r).state).result.toOption.bind Interpreter.Yield.text? := by
  cases hx : (x r).result with
  | ok a => rw [Action.bind_of_ok _ hx, Done.result_after]; rfl
  | error f => rw [Action.bind_of_error _ hx]; rfl

/-- The output that the operation of a step gives is the text that the step obtains. -/
theorem obtained?_eq_text? (s : Services) (d : Dispatch) :
    d.obtained? s =
      (Interpreter.operation s d.step d.before).result.toOption.bind Interpreter.Yield.text? := by
  obtain ⟨index, step, before⟩ := d
  -- An operation that ends in something else than an output.
  have hNothing {α : Type} (x : Option α) : (none : Option String) = x.bind fun _ => none := by
    cases x <;> rfl
  cases step with
  | abortFlow => rfl
  | debugState => rfl
  | sleep duration => rfl
  | setVariable outputVar value => rfl
  | getUrl url outputVar retry fallback =>
      rw [Interpreter.operation, text?_bind]
      exact (Option.bind_fun_some _).symm
  | readText path outputVar retry fallback =>
      rw [Interpreter.operation, text?_bind]
      exact (Option.bind_fun_some _).symm
  | postUrl url body headers retry fallback =>
      rw [Interpreter.operation, text?_bind]
      exact hNothing _
  | notify name template retry fallback =>
      rw [Interpreter.operation, text?_bind]
      simp only [text?_bind]
      simp [obtained?, Except.toOption, Interpreter.Yield.text?]
  | appendText path inputVar retry fallback =>
      rw [Interpreter.operation, text?_bind]
      simp only [text?_bind]
      simp [obtained?, Except.toOption, Interpreter.Yield.text?]
  | extractCapture inputVar outputVar pattern retry fallback =>
      rw [Interpreter.operation, text?_bind]
      change (before.state.input inputVar >>= capture pattern).toOption =
        (before.state.input inputVar).toOption.bind _
      cases before.state.input inputVar with
      | error f => rfl
      | ok text =>
          refine Eq.trans ?_ (text?_bind (Action.ofResult (capture pattern text)) _ before).symm
          rw [Action.ofResult_apply]
          exact (Option.bind_fun_some _).symm
  | compareVar inputVar compareWith compareFor ifTrue ifFalse =>
      rw [Interpreter.operation, text?_bind]
      have hArm (value : String) (r : Run) :
          ((if compareFor ≠ Interpreter.equality then .fail (Interpreter.unsupported compareFor)
            else pure (.arm (value = compareWith)) : Action Run Interpreter.Yield)
              r).result.toOption.bind Interpreter.Yield.text? = none := by
        split <;> rfl
      simp only [hArm]
      exact hNothing _

theorem production?_eq_some {p : Production} :
    d.production? s = some p ↔ d.Obtains s p.value ∧ p.name = d.step.outputVar := by
  rw [production?, Option.map_eq_some_iff]
  constructor
  · rintro ⟨value, hObtained, rfl⟩
    exact ⟨obtained?_eq_some.mp hObtained, rfl⟩
  · rintro ⟨hObtains, hName⟩
    refine ⟨p.value, obtained?_eq_some.mpr hObtains, ?_⟩
    rw [← hName]

/-- The own part of a step changes the state by what the step produces, and by nothing else. -/
theorem state_own (s : Services) (d : Dispatch) :
    (d.own s).state.state = d.before.state.record (d.production? s) := by
  have hKept := Interpreter.operation_keeps_state s d.step d.before
  rw [production?, obtained?_eq_text?]
  rcases Interpreter.operation_cases s d.step d.before with
    ⟨y, hOp⟩ | ⟨f, hOp, hStays⟩ | ⟨f, hOp, hRecovers, hNone⟩ | ⟨f, hOp, hRecovers, hSome⟩
  · rw [own, Interpreter.dispatch_of_ok hOp, hOp]
    cases y with
    | output text => exact congrArg (RunState.setOutput · text d.step.outputVar) hKept
    | nothing => exact hKept
    | arm taken => exact hKept
  · rw [own, Interpreter.dispatch_of_unrecovered hOp hStays, hOp]
    exact hKept
  · rw [own, Interpreter.dispatch_of_no_fallback hOp hRecovers hNone, hOp]
    exact hKept
  · rw [own, Interpreter.dispatch_of_fallback hOp hRecovers hSome, hOp]
    exact hKept

end Dispatch

namespace Interpreter

variable {s : Services}

/-- Over steps that are linked the state is at each stage what was produced so far makes of the first
one. -/
theorem Linked.stages {r last : Run} {ds : List Dispatch} (h : Linked s r ds last) :
    ds.map (·.before.state) ++ [last.state] =
      List.scanl RunState.record r.state (ds.map (Dispatch.production? s)) := by
  induction h with
  | nil r => rfl
  | @cons d rest last link ih =>
      rw [List.map_cons, List.cons_append, ih, List.map_cons, List.scanl_cons, d.state_own]

theorem Linked.replay {r last : Run} {ds : List Dispatch} (h : Linked s r ds last) :
    last.state = r.state.replay (ds.filterMap (Dispatch.production? s)) := by
  induction h with
  | nil r => rfl
  | @cons d rest last link ih =>
      rw [ih, d.state_own]
      cases hProduced : d.production? s with
      | none => rw [List.filterMap_cons_none hProduced]; rfl
      | some p => rw [List.filterMap_cons_some hProduced]; rfl

/-- The stages of a run: its state before each dispatched step, and in the end. -/
def stages (s : Services) (steps : List Step) (r : Run) : List RunState :=
  (dispatches s 0 steps r).map (·.before.state) ++ [(run s steps r).state.state]

theorem stages_eq_scanl (s : Services) (steps : List Step) (r : Run) :
    stages s steps r = List.scanl RunState.record r.state
      ((dispatches s 0 steps r).map (Dispatch.production? s)) :=
  (linked_dispatches s 0 steps r).stages

/-- A stage is the replay of productions of which each is that of a step of the tree. -/
theorem exists_replay_of_mem_stages {steps : List Step} {r : Run} {t : RunState}
    (hMem : t ∈ stages s steps r) :
    ∃ productions, t = r.state.replay productions ∧
      ∀ p ∈ productions, p.name ∈ (Step.walk steps).map Step.outputVar := by
  rw [stages_eq_scanl] at hMem
  obtain ⟨productions, hInitial, hReplay⟩ := RunState.exists_replay_of_mem_scanl hMem
  refine ⟨productions, hReplay, fun p hProduced => ?_⟩
  have hSome := hInitial.subset hProduced
  rw [List.filterMap_map, List.mem_filterMap] at hSome
  obtain ⟨d, hDispatched, hOwn⟩ := hSome
  rw [(Dispatch.production?_eq_some.mp hOwn).2]
  exact List.mem_map_of_mem (mem_walk_of_mem_dispatches hDispatched)

/-- The state of a run, whether it succeeds or fails, is the replay of what its dispatched steps
produced, in order; each of them begins with what the one before it left, and nothing else has changed
the state. So what is set stays set, new variables are those of the tree, and from the fresh state no
variable is there without an output. -/
theorem state_is_replay_of_productions (s : Services) (steps : List Step) (r : Run) :
    ((dispatches s 0 steps r).map fun d => (d.step, d.index)).Sublist (Step.walk steps).zipIdx ∧
    Linked s r (dispatches s 0 steps r) (run s steps r).state ∧
    (run s steps r).state.state =
      r.state.replay ((dispatches s 0 steps r).filterMap (Dispatch.production? s)) ∧
    stages s steps r = List.scanl RunState.record r.state
      ((dispatches s 0 steps r).map (Dispatch.production? s)) ∧
    (∀ d ∈ dispatches s 0 steps r, ∀ p,
      d.production? s = some p ↔ d.Obtains s p.value ∧ p.name = d.step.outputVar) ∧
    (stages s steps r).Pairwise RunState.Extends ∧
    (∀ t ∈ stages s steps r, ∀ name, (t.vars.get? name).isSome →
      (r.state.vars.get? name).isSome ∨ some name ∈ (Step.walk steps).map Step.outputVar) ∧
    (r.state = .fresh → ∀ t ∈ stages s steps r, t.vars ≠ [] → t.lastOutput.isSome) := by
  refine ⟨dispatches_sublist_walk s 0 steps r, linked_dispatches s 0 steps r,
    (linked_dispatches s 0 steps r).replay, stages_eq_scanl s steps r,
    fun _ _ _ => Dispatch.production?_eq_some, ?_, ?_, ?_⟩
  · rw [stages_eq_scanl]
    exact RunState.pairwise_extends_scanl _ _
  · intro t hMem name hSet
    obtain ⟨productions, hReplay, hNames⟩ := exists_replay_of_mem_stages hMem
    rw [hReplay] at hSet
    rcases RunState.isSome_get?_replay hSet with hBefore | hNamed
    · exact .inl hBefore
    · obtain ⟨p, hProduced, hName⟩ := List.mem_map.mp hNamed
      rw [← hName]
      exact .inr (hNames p hProduced)
  · intro hFresh t hMem hVars
    obtain ⟨productions, hReplay, -⟩ := exists_replay_of_mem_stages hMem
    rw [hReplay] at hVars ⊢
    have hStart : r.state.vars ≠ [] → r.state.lastOutput.isSome := by
      intro hSome
      rw [hFresh] at hSome
      exact absurd rfl hSome
    exact RunState.isSome_lastOutput_replay hStart hVars

end Interpreter

end Flowline
