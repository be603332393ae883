import Flowline.Proofs.Interpreter.Failing

/-!
Inlining. The list of a comparison that is run, and the fallback of an operation that failed, run as
if they stood in the list around the step, records aside. So every run is the run of a flat list: of
the steps that it dispatches, each without the lists that it holds, where of an operation that was
recovered from only the attempt is left.
-/

namespace Flowline

/-- A step without the lists that it holds. -/
def Step.bare : Step → Step
  | .notify name message retry _ => .notify name message retry []
  | .getUrl url outputVar retry _ => .getUrl url outputVar retry []
  | .postUrl url body headers retry _ => .postUrl url body headers retry []
  | .extractCapture inputVar outputVar pattern retry _ =>
      .extractCapture inputVar outputVar pattern retry []
  | .compareVar inputVar compareWith compareFor _ _ =>
      .compareVar inputVar compareWith compareFor [] []
  | .readText path outputVar retry _ => .readText path outputVar retry []
  | .appendText path inputVar retry _ => .appendText path inputVar retry []
  | step => step

theorem Step.childLists_bare (step : Step) : ∀ list ∈ step.bare.childLists, list = [] := by
  cases step <;> simp [bare, childLists]

/-- A step of a flat list. It is run as a step, or its operation is attempted only: a failure that
the step recovers from is then passed over, with what the operation left. -/
inductive FlatStep where
  | plain (step : Step)
  | attempt (step : Step)

def FlatStep.step : FlatStep → Step
  | plain step => step
  | attempt step => step

namespace Interpreter

/-- The operation of a step, of which a failure that the step recovers from is passed over. -/
def attempt (s : Services) (step : Step) : Action Run Unit :=
  (operation s step).fork (fun _ => .succeed ()) fun f =>
    if step.recovers f.kind then .succeed () else .fail f

/-- Runs one step of a flat list. -/
def runFlatStep (s : Services) : FlatStep → Action Run Unit
  | .plain step => run s [step]
  | .attempt step => attempt s step

/-- Runs the steps of a flat list in order. -/
def runFlat (s : Services) : List FlatStep → Action Run Unit
  | [] => .succeed ()
  | item :: rest => do
      runFlatStep s item
      runFlat s rest

/-- What is left of a dispatched step in a flat list. -/
def inlined (s : Services) (d : Dispatch) : FlatStep :=
  match (d.own s).result with
  | .ok .fallback => .attempt d.step.bare
  | _ => .plain d.step.bare

theorem runFlat_append (s : Services) (first second : List FlatStep) :
    runFlat s (first ++ second) = runFlat s first >>= fun _ => runFlat s second := by
  induction first with
  | nil => exact (Action.pure_bind () fun _ => runFlat s second).symm
  | cons item rest ih => rw [List.cons_append, runFlat, runFlat, ih, Action.bind_assoc]

/-- A flat list of plain steps is a list of steps. -/
theorem runFlat_plain (s : Services) (steps : List Step) :
    runFlat s (steps.map .plain) = run s steps := by
  induction steps with
  | nil => rfl
  | cons step rest ih =>
      rw [List.map_cons, runFlat, ih, ← List.singleton_append, run_append]
      rfl

theorem operation_bare (s : Services) (step : Step) : operation s step.bare = operation s step := by
  cases step <;> rfl

theorem recovers_bare (step : Step) (kind : ErrorKind) :
    step.bare.recovers kind = step.recovers kind := by
  cases step <;> rfl

theorem fallback_bare (step : Step) : step.bare.fallback = [] := by
  cases step <;> rfl

theorem nested_bare (step : Step) (next : Next) : step.bare.nested next = [] := by
  cases step <;> cases next <;> try rfl
  exact ite_self []

theorem recorded_bare (y : Yield) (step : Step) : y.recorded step.bare = y.recorded step := by
  cases step <;> rfl

variable {s : Services} {step : Step} {r : Run}

/-- The own part of a step is the same without its lists, unless it leads into the fallback. -/
theorem dispatch_bare (h : (dispatch s step r).result ≠ .ok .fallback) :
    dispatch s step.bare r = dispatch s step r := by
  have hBare := congrFun (operation_bare s step) r
  rcases operation_cases s step r with ⟨y, hOp⟩ | ⟨f, hOp, hStays⟩ | ⟨f, hOp, hRecovers, hNone⟩ |
    ⟨f, hOp, hRecovers, hSome⟩
  · rw [dispatch_of_ok hOp, dispatch_of_ok (by rw [hBare, hOp]), hBare, recorded_bare]
  · rw [dispatch_of_unrecovered hOp hStays,
      dispatch_of_unrecovered (by rw [hBare, hOp]) (by rw [recovers_bare, hStays]), hBare]
  · rw [dispatch_of_no_fallback hOp hRecovers hNone,
      dispatch_of_no_fallback (by rw [hBare, hOp]) (by rw [recovers_bare, hRecovers])
        (fallback_bare step), hBare]
  · rw [dispatch_of_fallback hOp hRecovers hSome] at h
    exact absurd rfl h

/-- The attempt of an operation that was recovered from leaves what the own part of its step leaves.
-/
theorem quiet_attempt (h : (dispatch s step r).result = .ok .fallback) :
    (attempt s step.bare r).quiet =
      ⟨.ok (), (dispatch s step r).events.filter (!·.isLogged), (dispatch s step r).state⟩ := by
  have hBare := congrFun (operation_bare s step) r
  rcases operation_cases s step r with ⟨y, hOp⟩ | ⟨f, hOp, hStays⟩ | ⟨f, hOp, hRecovers, hNone⟩ |
    ⟨f, hOp, hRecovers, hSome⟩
  · rw [dispatch_of_ok hOp] at h
    cases y <;> cases h
  · rw [dispatch_of_unrecovered hOp hStays] at h
    cases h
  · rw [dispatch_of_no_fallback hOp hRecovers hNone] at h
    cases h
  · rw [attempt, Action.fork_of_error _ _ (by rw [hBare, hOp]),
      if_pos (by rw [recovers_bare, hRecovers]), hBare, dispatch_of_fallback hOp hRecovers hSome]
    simp [Done.quiet, failedRecord, enteringRecord, Event.isLogged, Event.entry?]

/-- A dispatched step whose own part fails does the same in a flat list. -/
theorem quiet_inlined_of_error {f : Failure} (first : Nat)
    (h : (dispatch s step r).result = .error f) :
    (runFlatStep s (inlined s ⟨first, step, r⟩) r).quiet =
      ⟨.error f, (dispatch s step r).events.filter (!·.isLogged), (dispatch s step r).state⟩ := by
  have hInlined : inlined s ⟨first, step, r⟩ = .plain step.bare := by
    rw [inlined, Dispatch.own, h]
  have hBare : dispatch s step.bare r = dispatch s step r := by
    refine dispatch_bare ?_
    rw [h]
    simp
  rw [hInlined, runFlatStep, run_cons_of_error (by rw [hBare, h]), hBare]
  rfl

/-- One whose own part succeeds leaves in a flat list what its own part leaves. -/
theorem quiet_inlined_of_ok {next : Next} (first : Nat)
    (h : (dispatch s step r).result = .ok next) :
    (runFlatStep s (inlined s ⟨first, step, r⟩) r).quiet =
      ⟨.ok (), (dispatch s step r).events.filter (!·.isLogged), (dispatch s step r).state⟩ := by
  by_cases hNext : next = .fallback
  · subst hNext
    have hInlined : inlined s ⟨first, step, r⟩ = .attempt step.bare := by
      rw [inlined, Dispatch.own, h]
    rw [hInlined, runFlatStep, quiet_attempt h]
  · have hInlined : inlined s ⟨first, step, r⟩ = .plain step.bare := by
      rw [inlined, Dispatch.own, h]
      cases next <;> first | rfl | exact absurd rfl hNext
    have hBare : dispatch s step.bare r = dispatch s step r :=
      dispatch_bare fun hFallback => hNext (Except.ok.inj (h.symm.trans hFallback))
    have hNested (t : Run) : (run s (step.bare.nested next) t).result = .ok () := by
      rw [nested_bare]
      rfl
    rw [hInlined, runFlatStep, run_cons_of_ok (by rw [hBare, h]) (hNested _), nested_bare, hBare]
    cases next with
    | fallback => exact absurd rfl hNext
    | finished => simp [Done.quiet, starting, Event.isLogged, Event.entry?, closingEvents]
    | arm taken => simp [Done.quiet, starting, Event.isLogged, Event.entry?, closingEvents]

theorem quiet_closingEvents (s : Services) (next : Next) :
    (closingEvents s next).filter (!·.isLogged) = [] :=
  List.filter_eq_nil_iff.mpr (forall_mem_closingEvents Bool.false_ne_true next)

/-- A run is, records aside, the run of the flat list of the steps that it dispatches. -/
theorem quiet_run_flat (s : Services) (first : Nat) (steps : List Step) (r : Run) :
    (run s steps r).quiet = (runFlat s ((dispatches s first steps r).map (inlined s)) r).quiet := by
  induction steps using Step.nested_induction generalizing first r with
  | nil =>
      rw [dispatches_nil]
      rfl
  | cons step rest ihNested ihRest =>
      rcases cons_cases s step r with ⟨f, h⟩ | ⟨next, f, h, hNested⟩ | ⟨next, h, hNested⟩
      · rw [run_cons_of_error h, dispatches_cons_of_error h]
        exact (Action.quiet_bind_of_error _ (quiet_inlined_of_error first h)).symm
      · rw [run_cons_of_nested_error h hNested, dispatches_cons_of_nested_error h hNested,
          List.map_cons, runFlat, Action.quiet_bind_of_ok _ (quiet_inlined_of_ok first h),
          Done.quiet_after, ihNested next (first + 1 + step.offset next)]
        rfl
      · have hInner := (ihNested next (first + 1 + step.offset next) _).symm.trans
          (Done.quiet_of_result hNested)
        rw [run_cons_of_ok h hNested, dispatches_cons_of_ok h hNested, List.map_cons, runFlat,
          Action.quiet_bind_of_ok _ (quiet_inlined_of_ok first h), List.map_append, runFlat_append,
          Action.quiet_bind_of_ok _ hInner, Done.quiet_after,
          ihRest (first + (Step.withDescendants step).length), Done.after_after]
        simp only [List.filter_append, quiet_closingEvents, List.append_nil]
        rfl

/-- What a step leads to runs as if it stood in the list around the step, after its own part. -/
theorem quiet_run_cons {next : Next} (rest : List Step)
    (h : (dispatch s step r).result = .ok next) :
    (run s (step :: rest) r).quiet =
      (run s (step.nested next ++ rest) (dispatch s step r).state).quiet.after
        ((dispatch s step r).events.filter (!·.isLogged)) := by
  have hStarting : (starting s step).isLogged = true := rfl
  rw [run_append]
  cases hNested : (run s (step.nested next) (dispatch s step r).state).result with
  | error f =>
      rw [run_cons_of_nested_error h hNested, Action.bind_of_error _ hNested, Done.quiet_after,
        Done.quiet_of_result hNested]
      simp [Done.quiet, hStarting]
  | ok u =>
      rw [run_cons_of_ok h hNested, Action.bind_of_ok _ hNested, Done.quiet_after, Done.quiet_after,
        Done.after_after]
      simp [quiet_closingEvents, hStarting]

/-- A comparison that is made runs the list that it takes as if it stood in its place. -/
theorem quiet_run_compareVar {inputVar : Option String} {compareWith value : String}
    (ifTrue ifFalse rest : List Step) (h : r.state.input inputVar = .ok value) :
    (run s (.compareVar inputVar compareWith equality ifTrue ifFalse :: rest) r).quiet =
      (run s ((if value = compareWith then ifTrue else ifFalse) ++ rest) r).quiet := by
  have hInput : (Run.input inputVar r).result = .ok value := h
  have hOperation :
      operation s (.compareVar inputVar compareWith equality ifTrue ifFalse) r =
        ⟨.ok (.arm (value = compareWith)), [], r⟩ := by
    rw [operation, Action.bind_of_ok _ hInput]
    rfl
  have hDispatch := dispatch_of_ok (congrArg Done.result hOperation)
  rw [hOperation] at hDispatch
  rw [quiet_run_cons rest (congrArg Done.result hDispatch), hDispatch]
  simp [Step.nested, Yield.next, Yield.recorded]

/-- A fallback runs as if it stood in the place of its step, after the attempts of the operation and
on the state from before them. -/
theorem quiet_run_fallback {f : Failure} (rest : List Step)
    (hFailed : (operation s step r).result = .error f) (hRecovers : step.recovers f.kind = true)
    (hSome : step.fallback ≠ []) :
    (run s (step :: rest) r).quiet =
      (run s (step.fallback ++ rest) ⟨(operation s step r).state.world, r.state⟩).quiet.after
        ((operation s step r).events.filter (!·.isLogged)) := by
  have hDispatch := dispatch_of_fallback hFailed hRecovers hSome
  have hState : (operation s step r).state = ⟨(operation s step r).state.world, r.state⟩ :=
    congrArg (Run.mk _) (operation_keeps_state s step r)
  have hNested : step.nested .fallback = step.fallback := by
    cases step <;> rfl
  rw [quiet_run_cons rest (congrArg Done.result hDispatch), hDispatch, hNested, ← hState]
  simp [failedRecord, enteringRecord, Event.isLogged, Event.entry?]

theorem step_inlined (s : Services) (d : Dispatch) : (inlined s d).step = d.step.bare := by
  rw [inlined]
  split <;> rfl

/-- The flat list of a run holds steps of the tree, in the order of the walk. -/
theorem inlined_sublist_walk (s : Services) (steps : List Step) (r : Run) :
    (((dispatches s 0 steps r).map (inlined s)).map FlatStep.step).Sublist
      ((Step.walk steps).map Step.bare) := by
  have hWalk := ((dispatches_sublist_walk s 0 steps r).map Prod.fst).map Step.bare
  rw [List.zipIdx_map_fst, List.map_map] at hWalk
  have hStep : FlatStep.step ∘ inlined s = fun d => d.step.bare := funext (step_inlined s)
  rw [List.map_map, hStep]
  rw [List.map_map] at hWalk
  exact hWalk

/-- A run without recovery is the run of the list of its dispatched steps. -/
theorem inlined_plain {s : Services} {course : List Dispatch}
    (h : ∀ d ∈ course, (d.own s).result ≠ .ok .fallback) :
    course.map (inlined s) = (course.map fun d => d.step.bare).map .plain := by
  rw [List.map_map]
  refine List.map_congr_left fun d hMem => ?_
  have hOwn := h d hMem
  rw [inlined, Function.comp]
  split
  · rename_i hFallback
    exact absurd hFallback hOwn
  · rfl

/-- The list of a comparison that is taken runs as if it stood in the place of the step, and so does
a fallback, after the attempts that failed and on the state from before them. So every run is,
records aside, the run of a flat list of steps of the tree, none of which holds steps; it is a list
of steps unless a fallback was entered, and then only the attempt is left of the step around that.
-/
theorem nested_lists_run_inline (s : Services) :
    (∀ inputVar compareWith ifTrue ifFalse rest r value, r.state.input inputVar = .ok value →
      (run s (.compareVar inputVar compareWith equality ifTrue ifFalse :: rest) r).quiet =
        (run s ((if value = compareWith then ifTrue else ifFalse) ++ rest) r).quiet) ∧
    (∀ step rest r f, (operation s step r).result = .error f → step.recovers f.kind = true →
      step.fallback ≠ [] →
      (run s (step :: rest) r).quiet =
        (run s (step.fallback ++ rest) ⟨(operation s step r).state.world, r.state⟩).quiet.after
          ((operation s step r).events.filter (!·.isLogged))) ∧
    ∀ steps r,
      let course := dispatches s 0 steps r
      let flat := course.map (inlined s)
      (flat.map FlatStep.step).Sublist ((Step.walk steps).map Step.bare) ∧
      (∀ item ∈ flat, ∀ list ∈ item.step.childLists, list = []) ∧
      (run s steps r).quiet = (runFlat s flat r).quiet ∧
      ((∀ d ∈ course, (d.own s).result ≠ .ok .fallback) →
        (run s steps r).quiet = (run s (course.map fun d => d.step.bare) r).quiet) := by
  refine ⟨?_, ?_, fun steps r =>
    ⟨inlined_sublist_walk s steps r, ?_, quiet_run_flat s 0 steps r, ?_⟩⟩
  · intro inputVar compareWith ifTrue ifFalse rest r value hInput
    exact quiet_run_compareVar ifTrue ifFalse rest hInput
  · intro step rest r f hFailed hRecovers hSome
    exact quiet_run_fallback rest hFailed hRecovers hSome
  · intro item hItem
    obtain ⟨d, -, rfl⟩ := List.mem_map.mp hItem
    rw [step_inlined]
    exact Step.childLists_bare d.step
  · intro hPlain
    rw [quiet_run_flat s 0 steps r, inlined_plain hPlain, runFlat_plain]

/-- A run with an output that a comparison can read. -/
def answeredRun : Run := { stillRun with state := RunState.fresh.setOutput "on" none }

/-- A comparison with the output of that run. -/
def whenOn (ifTrue : List Step) : Step := .compareVar none "on" equality ifTrue []

theorem dispatch_whenOn (ifTrue : List Step) :
    (dispatch deafServices (whenOn ifTrue) answeredRun).result = .ok (.arm true) := rfl

theorem dispatch_set :
    (dispatch deafServices (.setVariable none "off") answeredRun).result = .ok .finished := rfl

theorem dispatches_whenOn :
    dispatches deafServices 0 [whenOn [.setVariable none "off"]] answeredRun =
      [⟨0, whenOn [.setVariable none "off"], answeredRun⟩,
        ⟨1, .setVariable none "off", answeredRun⟩] := by
  rw [dispatches_cons_of_ok (dispatch_whenOn _) rfl, dispatches_nil, List.append_nil]
  change _ :: dispatches deafServices 1 [.setVariable none "off"] answeredRun = _
  rw [dispatches_cons_of_ok dispatch_set rfl]
  simp [Step.nested]

/-- A comparison whose list is taken, a message that is not delivered and has a fallback, and a run
in which no fallback is entered. -/
theorem nested_lists_run_inline_whenOn :
    (answeredRun.state.input none = .ok "on" ∧
      (run deafServices [whenOn [tell [.abortFlow]], .debugState] answeredRun).quiet =
        (run deafServices [tell [.abortFlow], .debugState] answeredRun).quiet) ∧
    ((operation deafServices (tell [.abortFlow]) answeredRun).result = .error undelivered ∧
      (tell [.abortFlow]).recovers undelivered.kind = true ∧
      (run deafServices [tell [.abortFlow], .debugState] answeredRun).quiet =
        (run deafServices [.abortFlow, .debugState] answeredRun).quiet.after [Event.sent ""]) ∧
    (run deafServices [whenOn [.setVariable none "off"]] answeredRun).quiet =
      (run deafServices [whenOn [], .setVariable none "off"] answeredRun).quiet := by
  obtain ⟨hArm, hFallback, hFlat⟩ := nested_lists_run_inline deafServices
  refine ⟨⟨rfl, ?_⟩, ⟨rfl, rfl, ?_⟩, ?_⟩
  · exact hArm none "on" [tell [.abortFlow]] [] [.debugState] answeredRun "on" rfl
  · have hBlank : Message.render "" answeredRun.state = "" := by decide +kernel
    have hSent : (operation deafServices (tell [.abortFlow]) answeredRun).events = [.sent ""] :=
      congrArg (fun message => [Event.sent message]) hBlank
    have hInline := hFallback (tell [.abortFlow]) [.debugState] answeredRun undelivered rfl rfl
      (List.cons_ne_nil _ _)
    rw [hSent] at hInline
    exact hInline
  · have hPlain := (hFlat [whenOn [.setVariable none "off"]] answeredRun).2.2.2
    rw [dispatches_whenOn] at hPlain
    refine hPlain fun d hMem => ?_
    simp only [List.mem_cons, List.not_mem_nil, or_false] at hMem
    rcases hMem with rfl | rfl
    · change (dispatch deafServices (whenOn [.setVariable none "off"]) answeredRun).result ≠ _
      rw [dispatch_whenOn]
      simp
    · change (dispatch deafServices (.setVariable none "off") answeredRun).result ≠ _
      rw [dispatch_set]
      simp

end Interpreter

end Flowline
