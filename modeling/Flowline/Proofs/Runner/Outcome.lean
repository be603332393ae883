import Flowline.Proofs.Runner.Course

/-!
Outcomes of runs. A run of a flow never fails itself. Its outcome tells exactly how the steps of the
flow ended and, if these failed as steps do, how its fallback ended, which runs once and on what the
steps left.
-/

namespace Flowline

/-- The records around the steps of a flow: those of the runner and of the set-up of notifiers. -/
def Event.isFrame (e : Event) : Bool :=
  e.entry?.any fun entry => entry.logger = .runner || entry.logger = .factory

/-- The record that the fallback of a flow is entered. -/
def Event.isFallbackEntry (e : Event) : Bool :=
  e.entry?.any fun entry =>
    entry.logger = .runner && entry.level = .info && entry.message = "Entering flow fallback"

theorem Event.isFrame_of_own {e : Event} (h : e.OfOwnPart) : e.isFrame = false := by
  cases hEntry : e.entry? with
  | none => rw [isFrame, hEntry, Option.any_none]
  | some entry =>
      rw [isFrame, hEntry, Option.any_some]
      rcases h entry hEntry with hOther | ⟨hLogger, -⟩
      · cases hLogger : entry.logger <;> simp_all [Log.Logger.isCollaborator]
      · simp [hLogger]

theorem Event.isFallbackEntry_of_not_frame {e : Event} (h : e.isFrame = false) :
    e.isFallbackEntry = false := by
  cases hEntry : e.entry? with
  | none => rw [isFallbackEntry, hEntry, Option.any_none]
  | some entry =>
      rw [isFrame, hEntry, Option.any_some, Bool.or_eq_false_iff] at h
      rw [isFallbackEntry, hEntry, Option.any_some, h.1, Bool.false_and, Bool.false_and]

/-- Running steps writes no record of the runner, at whatever depth. -/
theorem Interpreter.emits_no_frame (s : Services) (steps : List Step) :
    (run s steps).Emits fun e => e.isFrame = false := by
  refine emits_run (fun _ => rfl) (fun next => ?_) (fun step => ?_) steps
  · cases next with
    | fallback => exact .log rfl
    | finished => exact .succeed ()
    | arm taken => exact .succeed ()
  · exact (emits_dispatch s step).mono fun _ => Event.isFrame_of_own

namespace Runner

variable (r : Runner) (set : NotifierSet) (w : World)

/-- The steps of a flow, run from the fresh state. -/
def stepsRun : Done Run Unit := Interpreter.run (r.services set) r.flow.steps ⟨w, .fresh⟩

/-- The fallback of a flow, run once, in the world and on the state that its steps left. -/
def fallbackRun : Done Run Unit :=
  Interpreter.run (r.services set) r.flow.uponFailure (r.stepsRun set w).state

def record (level : Log.Level) (message : String) : Event :=
  .logged ⟨level, .runner, message, r.fields, none⟩

def errorRecord (message : String) (f : Failure) : Event :=
  .logged ⟨.error, .runner, message, r.fields, some f⟩

/-- The records that a run begins with, once its notifiers are set up. -/
def opening : List Event :=
  [r.record .info "Flow run started",
    .logged ⟨.debug, .factory, "Built notifiers",
      [("notifiers", .list (set.sortedNames.map .text))], none⟩]

/-- The records between the failure of the steps and the fallback. -/
def turning (f : Failure) : List Event :=
  [r.record .warning ("Flow failed: " ++ f.text), r.record .info "Entering flow fallback"]

/-- The record of a fallback that failed itself. -/
def fallbackFailed (f : Failure) : Event :=
  if f.kind.isFlowError then r.record .error ("Flow fallback failed: " ++ f.text)
  else r.errorRecord "Flow fallback raised an unexpected error" f

/-- The six ways in which a run of a flow can go. -/
inductive Ending : Done World Outcome → Prop where
  | notSetUp (f : Failure) (build : NotifierSet.build r.settings r.flow.notifiers = .error f) :
      Ending ⟨.ok .failed,
        [r.record .info "Flow run started", r.errorRecord "Could not set up notifiers" f], w⟩
  | completed (set : NotifierSet) (build : NotifierSet.build r.settings r.flow.notifiers = .ok set)
      (steps : (r.stepsRun set w).result = .ok ()) :
      Ending ⟨.ok .completed, r.opening set ++ (r.stepsRun set w).events ++
        [r.record .info "Flow run completed"], (r.stepsRun set w).state.world⟩
  | unexpected (set : NotifierSet) (f : Failure)
      (build : NotifierSet.build r.settings r.flow.notifiers = .ok set)
      (steps : (r.stepsRun set w).result = .error f) (kind : f.kind.isFlowError = false) :
      Ending ⟨.ok .failed, r.opening set ++ (r.stepsRun set w).events ++
        [r.errorRecord "Flow run raised an unexpected error" f], (r.stepsRun set w).state.world⟩
  | noFallback (set : NotifierSet) (f : Failure)
      (build : NotifierSet.build r.settings r.flow.notifiers = .ok set)
      (steps : (r.stepsRun set w).result = .error f) (kind : f.kind.isFlowError = true)
      (none : r.flow.uponFailure = []) :
      Ending ⟨.ok .failed, r.opening set ++ (r.stepsRun set w).events ++
        [r.record .warning ("Flow failed: " ++ f.text),
          r.record .error "Flow run failed with no fallback"], (r.stepsRun set w).state.world⟩
  | recovered (set : NotifierSet) (f : Failure)
      (build : NotifierSet.build r.settings r.flow.notifiers = .ok set)
      (steps : (r.stepsRun set w).result = .error f) (kind : f.kind.isFlowError = true)
      (some : r.flow.uponFailure ≠ []) (fallback : (r.fallbackRun set w).result = .ok ()) :
      Ending ⟨.ok .recovered, r.opening set ++ (r.stepsRun set w).events ++ r.turning f ++
        (r.fallbackRun set w).events ++ [r.record .info "Flow fallback completed"],
        (r.fallbackRun set w).state.world⟩
  | fallbackFailed (set : NotifierSet) (f g : Failure)
      (build : NotifierSet.build r.settings r.flow.notifiers = .ok set)
      (steps : (r.stepsRun set w).result = .error f) (kind : f.kind.isFlowError = true)
      (some : r.flow.uponFailure ≠ []) (fallback : (r.fallbackRun set w).result = .error g) :
      Ending ⟨.ok .failed, r.opening set ++ (r.stepsRun set w).events ++ r.turning f ++
        (r.fallbackRun set w).events ++ [r.fallbackFailed g], (r.fallbackRun set w).state.world⟩

variable {r set w}

section

variable {s : Services} {start : Run} {d : Done Run Unit} {f : Failure}

theorem runFallback_of_ok (hRun : Interpreter.run s r.flow.uponFailure start = d)
    (h : d.result = .ok ()) :
    r.runFallback s start = ⟨.ok .recovered,
      r.record .info "Entering flow fallback" ::
        (d.events ++ [r.record .info "Flow fallback completed"]), d.state⟩ := by
  subst hRun
  rw [runFallback, Action.bind_of_ok _ (x := r.log .info "Entering flow fallback") (a := ()) rfl]
  exact congrArg (Done.after _) (Action.fork_of_ok _ _ h)

theorem runFallback_of_error (hRun : Interpreter.run s r.flow.uponFailure start = d)
    (h : d.result = .error f) :
    r.runFallback s start = ⟨.ok .failed,
      r.record .info "Entering flow fallback" :: (d.events ++ [r.fallbackFailed f]), d.state⟩ := by
  subst hRun
  rw [runFallback, Action.bind_of_ok _ (x := r.log .info "Entering flow fallback") (a := ()) rfl]
  refine (congrArg (Done.after _) (Action.fork_of_error _ _ h)).trans ?_
  rw [fallbackFailed]
  split <;> rfl

theorem runSteps_of_ok (hRun : Interpreter.run s r.flow.steps start = d) (h : d.result = .ok ()) :
    r.runSteps s start =
      ⟨.ok .completed, d.events ++ [r.record .info "Flow run completed"], d.state⟩ := by
  subst hRun
  exact Action.fork_of_ok _ _ h

theorem runSteps_of_unexpected (hRun : Interpreter.run s r.flow.steps start = d)
    (h : d.result = .error f) (hKind : f.kind.isFlowError = false) :
    r.runSteps s start = ⟨.ok .failed,
      d.events ++ [r.errorRecord "Flow run raised an unexpected error" f], d.state⟩ := by
  subst hRun
  rw [runSteps, Action.fork_of_error _ _ h, if_neg (by rw [hKind]; decide)]
  rfl

/-- After a failure that is one of the run the fallback follows, if there is one. -/
theorem runSteps_of_flowError (hRun : Interpreter.run s r.flow.steps start = d)
    (h : d.result = .error f) (hKind : f.kind.isFlowError = true) :
    r.runSteps s start =
      (if r.flow.uponFailure = [] then
        ⟨.ok .failed, [r.record .error "Flow run failed with no fallback"], d.state⟩
      else r.runFallback s d.state).after
        (d.events ++ [r.record .warning ("Flow failed: " ++ f.text)]) := by
  subst hRun
  rw [runSteps, Action.fork_of_error _ _ h, if_pos hKind,
    Action.bind_of_ok _ (x := r.log .warning ("Flow failed: " ++ f.text)) (a := ()) rfl,
    Done.after_after]
  simp only [← List.isEmpty_iff]
  refine congrArg (Done.after _) ?_
  split <;> rfl

/-- Once notifiers are set up, a run of a flow is that of its steps from the fresh state. -/
theorem runOnce_of_runSteps {d : Done Run Outcome}
    (hBuild : NotifierSet.build r.settings r.flow.notifiers = .ok set)
    (h : r.runSteps (r.services set) ⟨w, .fresh⟩ = d) :
    r.runOnce w = ⟨d.result, r.opening set ++ d.events, d.state.world⟩ := by
  rw [runOnce_of_build hBuild, h]
  rfl

end

theorem ending_runOnce (r : Runner) (w : World) : r.Ending w (r.runOnce w) := by
  cases hBuild : NotifierSet.build r.settings r.flow.notifiers with
  | error f =>
      rw [runOnce_of_build_error hBuild]
      exact .notSetUp f hBuild
  | ok set =>
      have hRun : Interpreter.run (r.services set) r.flow.steps ⟨w, .fresh⟩ = r.stepsRun set w := rfl
      cases hSteps : (r.stepsRun set w).result with
      | ok _ =>
          rw [runOnce_of_runSteps hBuild (runSteps_of_ok hRun hSteps), ← List.append_assoc]
          exact .completed set hBuild hSteps
      | error f =>
          cases hKind : f.kind.isFlowError with
          | false =>
              rw [runOnce_of_runSteps hBuild (runSteps_of_unexpected hRun hSteps hKind),
                ← List.append_assoc]
              exact .unexpected set f hBuild hSteps hKind
          | true =>
              rw [runOnce_of_runSteps hBuild (runSteps_of_flowError hRun hSteps hKind)]
              by_cases hNone : r.flow.uponFailure = []
              · rw [if_pos hNone]
                simpa using Ending.noFallback set f hBuild hSteps hKind hNone
              · rw [if_neg hNone]
                cases hFallback : (r.fallbackRun set w).result with
                | ok _ =>
                    rw [runFallback_of_ok (d := r.fallbackRun set w) rfl hFallback]
                    simpa [turning] using
                      Ending.recovered set f hBuild hSteps hKind hNone hFallback
                | error g =>
                    rw [runFallback_of_error (d := r.fallbackRun set w) rfl hFallback]
                    simpa [turning] using
                      Ending.fallbackFailed set f g hBuild hSteps hKind hNone hFallback

/-! ## Outcomes -/

/-- Notifiers can be set up and the steps of a flow succeed. -/
def Completes (r : Runner) (w : World) : Prop :=
  ∃ set, NotifierSet.build r.settings r.flow.notifiers = .ok set ∧
    (r.stepsRun set w).result = .ok ()

/-- The steps of a flow fail with a failure of the run, of whatever kind, and there is a fallback. -/
def EntersFallback (r : Runner) (set : NotifierSet) (w : World) : Prop :=
  ∃ f, (r.stepsRun set w).result = .error f ∧ f.kind.isFlowError = true ∧ r.flow.uponFailure ≠ []

/-- The fallback of a flow is entered and succeeds. -/
def Recovers (r : Runner) (w : World) : Prop :=
  ∃ set, NotifierSet.build r.settings r.flow.notifiers = .ok set ∧ r.EntersFallback set w ∧
    (r.fallbackRun set w).result = .ok ()

theorem result_runOnce (r : Runner) (w : World) :
    (∃ outcome, (r.runOnce w).result = .ok outcome) ∧
    ((r.runOnce w).result = .ok .completed ↔ r.Completes w) ∧
    ((r.runOnce w).result = .ok .recovered ↔ r.Recovers w) ∧
    ((r.runOnce w).result = .ok .failed ↔ ¬ r.Completes w ∧ ¬ r.Recovers w) := by
  have hEnding := ending_runOnce r w
  generalize r.runOnce w = d at hEnding ⊢
  cases hEnding with
  | notSetUp f build => simp [Completes, Recovers, build]
  | completed set build steps => simp [Completes, Recovers, EntersFallback, build, steps]
  | unexpected set f build steps kind => simp [Completes, Recovers, EntersFallback, build, steps, kind]
  | noFallback set f build steps kind none =>
      simp [Completes, Recovers, EntersFallback, build, steps, none]
  | recovered set f build steps kind some fallback =>
      simp [Completes, Recovers, EntersFallback, build, steps, kind, some, fallback]
  | fallbackFailed set f g build steps kind some fallback =>
      simp [Completes, Recovers, EntersFallback, build, steps, kind, some, fallback]

/-! ## What is seen -/

@[simp] theorem isFrame_record (r : Runner) (level : Log.Level) (message : String) :
    (r.record level message).isFrame = true := rfl

@[simp] theorem isFrame_errorRecord (r : Runner) (message : String) (f : Failure) :
    (r.errorRecord message f).isFrame = true := rfl

@[simp] theorem isFrame_fallbackFailed (r : Runner) (f : Failure) :
    (r.fallbackFailed f).isFrame = true := by
  rw [fallbackFailed]
  split <;> rfl

@[simp] theorem filter_frame_opening (r : Runner) (set : NotifierSet) :
    (r.opening set).filter (!·.isFrame) = [] := rfl

@[simp] theorem filter_frame_turning (r : Runner) (f : Failure) :
    (r.turning f).filter (!·.isFrame) = [] := rfl

theorem filter_frame_run (s : Services) (steps : List Step) (start : Run) :
    (Interpreter.run s steps start).events.filter (!·.isFrame) =
      (Interpreter.run s steps start).events := by
  refine List.filter_eq_self.mpr fun e hMem => ?_
  rw [Interpreter.emits_no_frame s steps start e hMem]
  rfl

/-- The records of the runner aside, a run shows what its steps show and, if the fallback is entered,
what that shows. The world is left as the last of the two leaves it. -/
theorem seen_runOnce (r : Runner) (w : World) :
    (∀ f, NotifierSet.build r.settings r.flow.notifiers = .error f →
      (r.runOnce w).state = w ∧ (r.runOnce w).events.filter (!·.isFrame) = []) ∧
    ∀ set, NotifierSet.build r.settings r.flow.notifiers = .ok set →
      (r.EntersFallback set w → (r.runOnce w).state = (r.fallbackRun set w).state.world ∧
        (r.runOnce w).events.filter (!·.isFrame) =
          (r.stepsRun set w).events ++ (r.fallbackRun set w).events) ∧
      (¬ r.EntersFallback set w → (r.runOnce w).state = (r.stepsRun set w).state.world ∧
        (r.runOnce w).events.filter (!·.isFrame) = (r.stepsRun set w).events) := by
  have hSteps (set : NotifierSet) : (r.stepsRun set w).events.filter (!·.isFrame) =
      (r.stepsRun set w).events := filter_frame_run _ _ _
  have hFallback (set : NotifierSet) : (r.fallbackRun set w).events.filter (!·.isFrame) =
      (r.fallbackRun set w).events := filter_frame_run _ _ _
  have hEnding := ending_runOnce r w
  generalize r.runOnce w = d at hEnding ⊢
  cases hEnding with
  | notSetUp f build => simp [build]
  | completed set build steps =>
      simp [build, EntersFallback, steps, List.filter_append, hSteps, -List.filter_eq_self]
  | unexpected set f build steps kind =>
      simp [build, EntersFallback, steps, kind, List.filter_append, hSteps, -List.filter_eq_self]
  | noFallback set f build steps kind none =>
      simp [build, EntersFallback, none, List.filter_append, hSteps, -List.filter_eq_self]
  | recovered set f build steps kind some fallback =>
      simp [build, EntersFallback, steps, kind, some, hSteps, hFallback]
  | fallbackFailed set f g build steps kind some fallback =>
      simp [build, EntersFallback, steps, kind, some, hSteps, hFallback]

/-! ## The way into the fallback -/

@[simp] theorem isFallbackEntry_errorRecord (r : Runner) (message : String) (f : Failure) :
    (r.errorRecord message f).isFallbackEntry = false := rfl

@[simp] theorem isFallbackEntry_fallbackFailed (r : Runner) (f : Failure) :
    (r.fallbackFailed f).isFallbackEntry = false := by
  rw [fallbackFailed]
  split <;> rfl

@[simp] theorem countP_opening (r : Runner) (set : NotifierSet) :
    (r.opening set).countP Event.isFallbackEntry = 0 := rfl

@[simp] theorem countP_turning (r : Runner) (f : Failure) :
    (r.turning f).countP Event.isFallbackEntry = 1 := rfl

theorem countP_run (s : Services) (steps : List Step) (start : Run) :
    (Interpreter.run s steps start).events.countP Event.isFallbackEntry = 0 := by
  refine List.countP_eq_zero.mpr fun e hMem => Bool.not_eq_true _ ▸ ?_
  exact Event.isFallbackEntry_of_not_frame (Interpreter.emits_no_frame s steps start e hMem)

/-- The record that the fallback is entered is written once if it is, and else not at all. -/
theorem entries_runOnce (r : Runner) (w : World) :
    (∀ f, NotifierSet.build r.settings r.flow.notifiers = .error f →
      (r.runOnce w).events.countP Event.isFallbackEntry = 0) ∧
    ∀ set, NotifierSet.build r.settings r.flow.notifiers = .ok set →
      (r.EntersFallback set w → (r.runOnce w).events.countP Event.isFallbackEntry = 1) ∧
      (¬ r.EntersFallback set w → (r.runOnce w).events.countP Event.isFallbackEntry = 0) := by
  have hSteps (set : NotifierSet) : (r.stepsRun set w).events.countP Event.isFallbackEntry = 0 :=
    countP_run _ _ _
  have hFallback (set : NotifierSet) :
      (r.fallbackRun set w).events.countP Event.isFallbackEntry = 0 := countP_run _ _ _
  have hRecord (level : Log.Level) (message : String) :
      (r.record level message).isFallbackEntry =
        (decide (level = .info) && decide (message = "Entering flow fallback")) := rfl
  have hEnding := ending_runOnce r w
  generalize r.runOnce w = d at hEnding ⊢
  cases hEnding with
  | notSetUp f build => simp [build, hRecord]
  | completed set build steps =>
      simp [build, EntersFallback, steps, hSteps, hRecord, -List.countP_eq_zero]
  | unexpected set f build steps kind =>
      simp [build, EntersFallback, steps, kind, hSteps, -List.countP_eq_zero]
  | noFallback set f build steps kind none =>
      simp [build, EntersFallback, none, hSteps, hRecord, -List.countP_eq_zero]
  | recovered set f build steps kind some fallback =>
      simp [build, EntersFallback, steps, kind, some, hSteps, hFallback, hRecord]
  | fallbackFailed set f g build steps kind some fallback =>
      simp [build, EntersFallback, steps, kind, some, hSteps, hFallback]

/-- A run of a flow never fails itself, and its outcome is exact. It has completed if the notifiers
could be set up and the steps succeeded from the fresh state. It has recovered if the steps failed
with a failure of the run and the fallback, run once on what they left, succeeded. In all other cases
it has failed. The fallback is entered, once, exactly if there is one and the steps failed with a
failure of the run; without notifiers nothing is run at all. -/
theorem outcome_tells_run (r : Runner) (w : World) :
    (∃ outcome, (r.runOnce w).result = .ok outcome) ∧
    ((r.runOnce w).result = .ok .completed ↔ r.Completes w) ∧
    ((r.runOnce w).result = .ok .recovered ↔ r.Recovers w) ∧
    ((r.runOnce w).result = .ok .failed ↔ ¬ r.Completes w ∧ ¬ r.Recovers w) ∧
    (∀ f, NotifierSet.build r.settings r.flow.notifiers = .error f →
      (r.runOnce w).state = w ∧ (r.runOnce w).events.filter (!·.isFrame) = [] ∧
        (r.runOnce w).events.countP Event.isFallbackEntry = 0) ∧
    ∀ set, NotifierSet.build r.settings r.flow.notifiers = .ok set →
      (r.EntersFallback set w → (r.runOnce w).state = (r.fallbackRun set w).state.world ∧
        (r.runOnce w).events.filter (!·.isFrame) =
          (r.stepsRun set w).events ++ (r.fallbackRun set w).events ∧
        (r.runOnce w).events.countP Event.isFallbackEntry = 1) ∧
      (¬ r.EntersFallback set w → (r.runOnce w).state = (r.stepsRun set w).state.world ∧
        (r.runOnce w).events.filter (!·.isFrame) = (r.stepsRun set w).events ∧
        (r.runOnce w).events.countP Event.isFallbackEntry = 0) := by
  obtain ⟨hOutcome, hCompleted, hRecovered, hFailed⟩ := result_runOnce r w
  obtain ⟨hNoNotifiers, hSeen⟩ := seen_runOnce r w
  obtain ⟨hNoEntry, hEntries⟩ := entries_runOnce r w
  refine ⟨hOutcome, hCompleted, hRecovered, hFailed, fun f hBuild => ?_, fun set hBuild => ⟨?_, ?_⟩⟩
  · exact ⟨(hNoNotifiers f hBuild).1, (hNoNotifiers f hBuild).2, hNoEntry f hBuild⟩
  · intro hEnters
    obtain ⟨hState, hEvents⟩ := (hSeen set hBuild).1 hEnters
    exact ⟨hState, hEvents, (hEntries set hBuild).1 hEnters⟩
  · intro hNot
    obtain ⟨hState, hEvents⟩ := (hSeen set hBuild).2 hNot
    exact ⟨hState, hEvents, (hEntries set hBuild).2 hNot⟩

end Runner

end Flowline
