import Flowline.Flow.Document
import Flowline.Number.Quantity
import Flowline.Proofs.Schema.Checked

/-!
Accepted flows. A flow comes from a document or from a value of the shape of a flow, and in either
case the names in it lead where they should, all its durations, wherever in its tree, are within
bounds, no two headers of a request have one name and no chain is empty.
-/

namespace Flowline

/-- A flow that passed the checks, reached from a document or from a value of its shape. -/
inductive FlowDefinition.Accepted (flow : FlowDefinition) : Prop where
  | ofValue (v : Value) (valid : Schema.flow v = .valid flow)
  | ofDocument (document : Value) (place : String) (read : Document.flow document place = .ok flow)

/-- A duration: a number of seconds from zero to the longest one. -/
def Binary64.IsDuration (x : Binary64) : Prop :=
  Binary64.zero.le x = true ∧ x.le Duration.maxSeconds = true

namespace Step

/-- The policy of retries of a step whose operation can fail. -/
def retry? : Step → Option RetryPolicy
  | notify _ _ retry _ => some retry
  | getUrl _ _ retry _ => some retry
  | postUrl _ _ _ retry _ => some retry
  | extractCapture _ _ _ retry _ => some retry
  | readText _ _ retry _ => some retry
  | appendText _ _ retry _ => some retry
  | _ => none

/-- How long a step sleeps at a time, for its own sake or between two attempts. -/
def pause? : Step → Option Binary64
  | sleep duration => some duration
  | step => step.retry?.map RetryPolicy.interval

/-- A step that tries again sleeps for the interval of its policy. -/
theorem pause?_of_retry {step : Step} {retry : RetryPolicy} (h : step.retry? = some retry) :
    step.pause? = some retry.interval := by
  cases step <;> cases h <;> rfl

/-- A step that sleeps for a duration if it sleeps at all. -/
def Timely (step : Step) : Prop := ∀ x, step.pause? = some x → x.IsDuration

theorem timely_of_pause {step : Step} (h : step.pause? = none) : step.Timely := by
  intro x hPause
  rw [h] at hPause
  cases hPause

/-- The headers of the request that a step makes. -/
def headers : Step → List (String × String)
  | postUrl _ _ headers _ _ => headers
  | _ => []

/-- A step that a document can write: it sleeps for durations and its headers have different names. -/
structure Sound (step : Step) : Prop where
  timely : step.Timely
  distinct : (step.headers.map Prod.fst).Nodup

theorem sound_of_pause {step : Step} (hPause : step.pause? = none) (hHeaders : step.headers = []) :
    step.Sound where
  timely := timely_of_pause hPause
  distinct := by
    rw [hHeaders]
    exact List.nodup_nil

theorem sound_of_mem_walk_nil : ∀ d ∈ walk [], d.Sound := by
  rw [walk]
  exact List.forall_mem_nil _

theorem walk_append (first second : List Step) :
    walk (first ++ second) = walk first ++ walk second := by
  induction first with
  | nil => rw [walk, List.nil_append, List.nil_append]
  | cons step rest ih => rw [List.cons_append, walk, walk, ih, List.append_assoc]

end Step

/-- A flow that a document can write: its steps are sound, it repeats after a duration above zero, none
of its chains is empty, and the names in it lead where they should. -/
structure FlowDefinition.Sound (flow : FlowDefinition) : Prop where
  steps : ∀ d ∈ Step.walk (flow.steps ++ flow.uponFailure), d.Sound
  interval : ∀ x, flow.trigger = some (.interval x) → x.IsDuration ∧ Binary64.zero.lt x = true
  targets : ∀ name, NotifierConfig.chain name [] ∉ flow.notifiers
  references : flow.referenceError? = none

theorem Binary64.ofInt_zero : Binary64.ofInt 0 = .zero := by decide +kernel

/-- A duration is not below zero, so that it can stand between attempts. -/
theorem Binary64.IsDuration.not_isNegative {x : Binary64} (h : x.IsDuration) :
    (Quantity.real x).isNegative = false := by
  change (x.le zero && !zero.le x) = false
  rw [h.1]
  exact Bool.and_false _

/-- A duration is neither an infinity nor what is no number, with which every comparison fails. -/
theorem Binary64.IsDuration.isFinite {x : Binary64} (h : x.IsDuration) : x.isFinite = true := by
  have hMax : Duration.maxSeconds.isFinite = true := by decide +kernel
  obtain ⟨hLower, hUpper⟩ := h
  cases x with
  | nan => cases hLower
  | infinite negative =>
      cases negative with
      | true => cases hLower
      | false =>
          cases hLimit : Duration.maxSeconds with
          | finite => rw [hLimit] at hUpper; cases hUpper
          | _ => rw [hLimit] at hMax; cases hMax
  | finite => rfl

theorem Binary64.le_of_isFinite {x y : Binary64} (hx : x.isFinite = true) (hy : y.isFinite = true) :
    x.le y = true ↔ x.signedUnits ≤ y.signedUnits := by
  cases x with
  | finite =>
      cases y with
      | finite => exact decide_eq_true_iff
      | _ => cases hy
  | _ => cases hx

/-- The longest duration is held exactly. -/
theorem Duration.signedUnits_maxSeconds :
    maxSeconds.isFinite = true ∧ maxSeconds.signedUnits = limit * Binary64.unitsPerOne := by
  decide +kernel

/-- The durations are the finite numbers whose exact values are within the bounds. -/
theorem Binary64.isDuration_iff {x : Binary64} :
    x.IsDuration ↔ x.isFinite = true ∧ 0 ≤ x.signedUnits ∧
      x.signedUnits ≤ Duration.limit * unitsPerOne := by
  obtain ⟨hMax, hUnits⟩ := Duration.signedUnits_maxSeconds
  have hBounds (hx : x.isFinite = true) :
      x.IsDuration ↔ 0 ≤ x.signedUnits ∧ x.signedUnits ≤ Duration.limit * unitsPerOne := by
    rw [IsDuration, le_of_isFinite rfl hx, le_of_isFinite hx hMax, hUnits]
    rfl
  constructor
  · intro hDuration
    exact ⟨hDuration.isFinite, (hBounds hDuration.isFinite).mp hDuration⟩
  · rintro ⟨hFinite, hWithin⟩
    exact (hBounds hFinite).mpr hWithin

namespace Schema

theorem isDuration_of_seconds {v : Value} {x : Binary64} (h : seconds v = .valid x) :
    x.IsDuration := by
  rw [seconds, Checked.andThen_eq_valid] at h
  obtain ⟨y, -, h⟩ := h
  rw [Checked.andThen_eq_valid] at h
  obtain ⟨z, hMost, hLeast⟩ := h
  rw [realAtMost] at hMost
  rw [realAtLeast] at hLeast
  split at hMost
  · rename_i hUpper
    cases hMost
    split at hLeast
    · rename_i hLower
      cases hLeast
      exact ⟨Binary64.ofInt_zero ▸ hLower, hUpper⟩
    · cases hLeast
  · cases hMost

theorem isDuration_standard : RetryPolicy.standard.interval.IsDuration := by
  constructor <;> decide +kernel

theorem model_eq_valid {α : Type} {fields : List String} {entries : Entries} {check : Checked α}
    {a : α} (h : model fields entries check = .valid a) : check = .valid a :=
  (Checked.keeping_eq_valid.mp h).1

theorem mem_names_of_mem_putText {texts : List (String × String)} {entry : String × String}
    {name : String} (h : name ∈ (putText texts entry).map Prod.fst) :
    name = entry.1 ∨ name ∈ texts.map Prod.fst := by
  induction texts with
  | nil => exact .inl (by simpa [putText] using h)
  | cons first rest ih =>
      rw [putText] at h
      split at h
      · exact .inr h
      · rcases List.mem_cons.mp h with rfl | hRest
        · exact .inr List.mem_cons_self
        · exact (ih hRest).imp_right (List.mem_cons_of_mem _)

theorem nodup_putText {texts : List (String × String)} (entry : String × String)
    (h : (texts.map Prod.fst).Nodup) : ((putText texts entry).map Prod.fst).Nodup := by
  induction texts with
  | nil => simp [putText]
  | cons first rest ih =>
      obtain ⟨hFirst, hRest⟩ := List.nodup_cons.mp h
      rw [putText]
      split
      · exact h
      · rename_i hOther
        refine List.nodup_cons.mpr ⟨fun hMem => ?_, ih hRest⟩
        exact (mem_names_of_mem_putText hMem).elim hOther hFirst

theorem nodup_of_textMap {v : Value} {headers : List (String × String)}
    (h : textMap v = .valid headers) : (headers.map Prod.fst).Nodup := by
  have hPut : ∀ (texts found : List (String × String)), (found.map Prod.fst).Nodup →
      ((texts.foldl putText found).map Prod.fst).Nodup := by
    intro texts
    induction texts with
    | nil => exact fun _ hFound => hFound
    | cons entry rest ih => exact fun _ hFound => ih _ (nodup_putText entry hFound)
  unfold textMap at h
  split at h
  · obtain ⟨texts, -, rfl⟩ := Checked.map_eq_valid.mp h
    exact hPut texts [] List.nodup_nil
  · cases h

/-- A policy of retries waits for a duration. -/
theorem isDuration_of_failSpec {entries : Entries} {fallback : Checked (List Step)}
    {retry : RetryPolicy} {steps : List Step}
    (h : failSpec entries fallback = .valid (retry, steps)) :
    retry.interval.IsDuration ∧ fallback = .valid steps := by
  have hFields := model_eq_valid h
  simp only [Checked.seq_eq_valid, Checked.map_eq_valid, optional_eq_valid] at hFields
  obtain ⟨_, _, ⟨_, interval, ⟨retries, -, rfl⟩, hInterval, rfl⟩, hSteps, hBoth⟩ := hFields
  cases hBoth
  refine ⟨?_, hSteps⟩
  change interval.IsDuration
  rcases hInterval with ⟨-, hStandard⟩ | ⟨v, -, hSeconds⟩
  · exact hStandard ▸ isDuration_standard
  · exact isDuration_of_seconds hSeconds

/-- A step whose operation can fail takes its policy and its fallback from one field. -/
theorem eq_of_failableStep {kind : StepKind} {entries : Entries}
    {fail : Checked (RetryPolicy × List Step)} {step : Step}
    (h : failableStep kind entries fail = .valid step) :
    ∃ retry fallback, fail = .valid (retry, fallback) ∧
      step.pause? = some retry.interval ∧ (step.headers.map Prod.fst).Nodup ∧
      Step.withDescendants step = step :: Step.walk fallback := by
  unfold failableStep at h
  split at h
  all_goals
    have hFields := model_eq_valid h
    simp only [Checked.seq_eq_valid, Checked.map_eq_valid] at hFields
    obtain ⟨_, ⟨retry, fallback⟩, hRest, hFail, rfl⟩ := hFields
    refine ⟨retry, fallback, hFail, ?_⟩
  case h_3 =>
    obtain ⟨_, headers, ⟨_, _, ⟨_, -, rfl⟩, -, rfl⟩, hHeaders, rfl⟩ := hRest
    refine ⟨rfl, ?_, by rw [Step.withDescendants]⟩
    rcases optional_eq_valid.mp hHeaders with ⟨-, rfl⟩ | ⟨v, -, hText⟩
    · exact List.nodup_nil
    · exact nodup_of_textMap hText
  case h_4 =>
    obtain ⟨_, _, ⟨_, _, ⟨_, -, rfl⟩, -, rfl⟩, -, rfl⟩ := hRest
    exact ⟨rfl, List.nodup_nil, by rw [Step.withDescendants]⟩
  all_goals
    obtain ⟨_, _, ⟨_, -, rfl⟩, -, rfl⟩ := hRest
    exact ⟨rfl, List.nodup_nil, by rw [Step.withDescendants]⟩

/-- A comparison takes its two lists from two fields. -/
theorem eq_of_compareStep {entries : Entries} {ifTrue ifFalse : Checked (List Step)} {step : Step}
    (h : compareStep entries ifTrue ifFalse = .valid step) :
    ∃ taken other, ifTrue = .valid taken ∧ ifFalse = .valid other ∧ step.pause? = none ∧
      step.headers = [] ∧ Step.withDescendants step = step :: (Step.walk taken ++ Step.walk other) := by
  have hFields := model_eq_valid h
  simp only [Checked.seq_eq_valid, Checked.map_eq_valid] at hFields
  obtain ⟨_, other, ⟨_, taken, hRest, hTaken, rfl⟩, hOther, rfl⟩ := hFields
  refine ⟨taken, other, hTaken, hOther, ?_⟩
  obtain ⟨_, _, ⟨_, _, ⟨_, -, rfl⟩, -, rfl⟩, -, rfl⟩ := hRest
  exact ⟨rfl, rfl, by rw [Step.withDescendants]⟩

/-- Of the steps that hold no steps, one sleeps, for a duration. -/
theorem sound_of_leafStep {kind : StepKind} {entries : Entries} {step : Step}
    (h : leafStep kind entries = .valid step) :
    step.Sound ∧ Step.withDescendants step = [step] := by
  unfold leafStep at h
  split at h
  · cases model_eq_valid h
    exact ⟨Step.sound_of_pause rfl rfl, rfl⟩
  · cases model_eq_valid h
    exact ⟨Step.sound_of_pause rfl rfl, rfl⟩
  · have hFields := model_eq_valid h
    simp only [Checked.map_eq_valid, required_eq_valid] at hFields
    obtain ⟨duration, ⟨v, -, hSeconds⟩, rfl⟩ := hFields
    refine ⟨⟨fun x hPause => ?_, List.nodup_nil⟩, rfl⟩
    cases hPause
    exact isDuration_of_seconds hSeconds
  · have hFields := model_eq_valid h
    simp only [Checked.seq_eq_valid, Checked.map_eq_valid] at hFields
    obtain ⟨_, _, ⟨_, -, rfl⟩, -, rfl⟩ := hFields
    exact ⟨Step.sound_of_pause rfl rfl, rfl⟩

/-! ## The tree of steps -/

mutual

/-- All steps of an accepted tree are sound, by induction on the value that holds the tree. -/
theorem sound_of_step {v : Value} {step : Step} (h : Schema.step v = .valid step) :
    ∀ d ∈ Step.withDescendants step, d.Sound := by
  cases hv : v with
  | map entries =>
      rw [hv, Schema.step] at h
      split at h
      · cases h
      · split at h
        · cases h
        · rw [Checked.within_eq_valid] at h
          split at h
          · obtain ⟨retry, fallback, hFail, hPause, hDistinct, hWalk⟩ := eq_of_failableStep h
            obtain ⟨hInterval, hFallback⟩ := sound_of_failField hFail
            rw [hWalk]
            refine List.forall_mem_cons.mpr ⟨⟨fun x hx => ?_, hDistinct⟩, hFallback⟩
            rw [hPause] at hx
            cases hx
            exact hInterval
          · split at h
            · obtain ⟨taken, other, hTaken, hOther, hPause, hHeaders, hWalk⟩ := eq_of_compareStep h
              rw [hWalk]
              refine List.forall_mem_cons.mpr ⟨Step.sound_of_pause hPause hHeaders, ?_⟩
              exact List.forall_mem_append.mpr
                ⟨sound_of_stepsField hTaken, sound_of_stepsField hOther⟩
            · obtain ⟨hSound, hWalk⟩ := sound_of_leafStep h
              rw [hWalk]
              exact List.forall_mem_singleton.mpr hSound
  | _ =>
      rw [hv] at h
      unfold Schema.step at h
      cases h
termination_by (sizeOf v, 0)
decreasing_by
  all_goals
    have hSize := congrArg sizeOf hv
    simp only [Value.map.sizeOf_spec] at hSize
    exact Prod.Lex.left _ _ (by omega)

theorem sound_of_failField {entries : Entries} {retry : RetryPolicy} {fallback : List Step}
    (h : failField entries = .valid (retry, fallback)) :
    retry.interval.IsDuration ∧ ∀ d ∈ Step.walk fallback, d.Sound := by
  rw [failField] at h
  split at h
  · cases h
    exact ⟨isDuration_standard, Step.sound_of_mem_walk_nil⟩
  · rename_i fields hField
    rw [Checked.within_eq_valid] at h
    obtain ⟨hInterval, hFallback⟩ := isDuration_of_failSpec h
    exact ⟨hInterval, sound_of_stepsField hFallback⟩
  · rw [Checked.within_eq_valid] at h
    cases h
termination_by (sizeOf entries, 1)
decreasing_by
  rename_i hField
  have := Entries.sizeOf_lt_of_field? hField
  simp only [Value.map.sizeOf_spec] at this
  exact Prod.Lex.left _ _ (by omega)

theorem sound_of_stepsField {entries : Entries} {name : String} {steps : List Step}
    (h : stepsField entries name = .valid steps) : ∀ d ∈ Step.walk steps, d.Sound := by
  rw [stepsField] at h
  split at h
  · cases h
    exact Step.sound_of_mem_walk_nil
  · rename_i v hField
    rw [Checked.within_eq_valid] at h
    exact sound_of_stepList h
termination_by (sizeOf entries, 1)
decreasing_by exact Prod.Lex.left _ _ (Entries.sizeOf_lt_of_field? ‹_›)

theorem sound_of_stepList {v : Value} {steps : List Step} (h : stepList v = .valid steps) :
    ∀ d ∈ Step.walk steps, d.Sound := by
  unfold stepList at h
  split at h
  · exact sound_of_stepChecks (Checked.sequenceFrom_eq_valid.mp h)
  · exact sound_of_stepChecks (Checked.sequenceFrom_eq_valid.mp h)
  · exact sound_of_stepChecks (Checked.sequenceFrom_eq_valid.mp h)
  · cases h
termination_by (sizeOf v, 1)

theorem sound_of_stepChecks {items : List Value} {steps : List Step}
    (h : stepChecks items = steps.map .valid) : ∀ d ∈ Step.walk steps, d.Sound := by
  cases items with
  | nil =>
      cases steps with
      | nil => exact Step.sound_of_mem_walk_nil
      | cons step others =>
          rw [stepChecks] at h
          cases h
  | cons item rest =>
      cases steps with
      | nil =>
          rw [stepChecks] at h
          cases h
      | cons step others =>
          rw [stepChecks, List.map_cons, List.cons.injEq] at h
          rw [Step.walk]
          exact List.forall_mem_append.mpr ⟨sound_of_step h.1, sound_of_stepChecks h.2⟩
termination_by (sizeOf items, 0)

end

/-! ## Triggers and notifiers -/

/-- A duration above zero, as a trigger waits for it. -/
theorem isDuration_of_positiveSeconds {v : Value} {x : Binary64} (h : positiveSeconds v = .valid x) :
    x.IsDuration ∧ Binary64.zero.lt x = true := by
  rw [positiveSeconds, Checked.andThen_eq_valid] at h
  obtain ⟨y, -, h⟩ := h
  rw [Checked.andThen_eq_valid] at h
  obtain ⟨z, hMost, hAbove⟩ := h
  rw [realAtMost] at hMost
  rw [realAbove] at hAbove
  split at hMost
  · rename_i hUpper
    cases hMost
    split at hAbove
    · rename_i hLower
      cases hAbove
      have hPositive : Binary64.zero.lt x = true := Binary64.ofInt_zero ▸ hLower
      exact ⟨⟨(Bool.and_eq_true_iff.mp hPositive).1, hUpper⟩, hPositive⟩
    · cases hAbove
  · cases hMost

theorem isDuration_of_trigger {v : Value} {x : Binary64}
    (h : Schema.trigger v = .valid (some (.interval x))) :
    x.IsDuration ∧ Binary64.zero.lt x = true := by
  unfold Schema.trigger at h
  split at h
  · cases h
  · obtain ⟨⟨entries, tag⟩, -, h⟩ := Checked.andThen_eq_valid.mp h
    simp only at h
    split at h
    · split at h
      · rename_i type _ check hType
        simp only [Checked.within_eq_valid, Checked.map_eq_valid, Option.some.injEq] at h
        obtain ⟨_, hCheck, rfl⟩ := h
        unfold triggerOfType? at hType
        split at hType
        · cases hType
          cases model_eq_valid hCheck
        · cases hType
          obtain ⟨_, hOptional, hInterval⟩ := Checked.map_eq_valid.mp (model_eq_valid hCheck)
          cases hInterval
          rcases optional_eq_valid.mp hOptional with ⟨-, rfl⟩ | ⟨w, -, hSeconds⟩
          · exact ⟨⟨by decide +kernel, by decide +kernel⟩, by decide +kernel⟩
          · exact isDuration_of_positiveSeconds hSeconds
        · cases hType
      · cases h
    · cases h

theorem targets_ne_nil {v : Value} {names : List String} (h : targets v = .valid names) :
    names ≠ [] := by
  rw [targets, Checked.andThen_eq_valid] at h
  obtain ⟨items, -, h⟩ := h
  obtain ⟨hSequence, hFound⟩ := Checked.keeping_eq_valid.mp h
  have hTexts := Checked.sequenceFrom_eq_valid.mp hSequence
  rintro rfl
  rw [hTexts] at hFound
  cases hFound

/-- No chain of accepted notifiers is empty. -/
theorem targets_of_notifier {v : Value} {name : String} {names : List String}
    (h : notifier v = .valid (.chain name names)) : names ≠ [] := by
  rw [notifier, Checked.andThen_eq_valid] at h
  obtain ⟨⟨entries, tag⟩, -, h⟩ := h
  simp only at h
  split at h
  · split at h
    · rename_i type _ check hType
      rw [Checked.within_eq_valid] at h
      unfold notifierOfType? at hType
      split at hType <;> cases hType
      all_goals
        have hFields := model_eq_valid h
        simp only [Checked.seq_eq_valid, Checked.map_eq_valid] at hFields
      · obtain ⟨_, -, hChain⟩ := hFields
        cases hChain
      · obtain ⟨_, -, hChain⟩ := hFields
        cases hChain
      · obtain ⟨_, _, ⟨_, _, ⟨_, -, rfl⟩, -, rfl⟩, -, hChain⟩ := hFields
        cases hChain
      · obtain ⟨_, targets, ⟨_, -, rfl⟩, hTargets, hChain⟩ := hFields
        cases hChain
        obtain ⟨w, -, hTexts⟩ := required_eq_valid.mp hTargets
        exact targets_ne_nil hTexts
    · cases h
  · cases h

theorem sound_of_flowFields {entries : Entries} {flow : FlowDefinition}
    (h : flowFields entries = .valid flow) :
    (∀ d ∈ Step.walk (flow.steps ++ flow.uponFailure), d.Sound) ∧
      (∀ x, flow.trigger = some (.interval x) → x.IsDuration ∧ Binary64.zero.lt x = true) ∧
      ∀ name, NotifierConfig.chain name [] ∉ flow.notifiers := by
  have hFields := model_eq_valid h
  simp only [Checked.seq_eq_valid, Checked.map_eq_valid, optional_eq_valid, required_eq_valid]
    at hFields
  obtain ⟨_, uponFailure, ⟨_, steps, ⟨_, configs, ⟨_, trigger, ⟨_, -, rfl⟩, hTrigger, rfl⟩,
    hNotifiers, rfl⟩, ⟨v, -, hSteps⟩, rfl⟩, hFallback, rfl⟩ := hFields
  refine ⟨?_, fun x hInterval => ?_, fun name hMem => ?_⟩
  · rw [Step.walk_append]
    refine List.forall_mem_append.mpr ⟨sound_of_stepList hSteps, ?_⟩
    rcases hFallback with ⟨-, rfl⟩ | ⟨w, -, hFallback⟩
    · exact Step.sound_of_mem_walk_nil
    · exact sound_of_stepList hFallback
  · rcases hTrigger with ⟨-, rfl⟩ | ⟨w, -, hTrigger⟩
    · cases hInterval
    · cases hInterval
      exact isDuration_of_trigger hTrigger
  · rcases hNotifiers with ⟨-, rfl⟩ | ⟨w, -, hNotifiers⟩
    · cases hMem
    · obtain ⟨items, -, hItems⟩ := Checked.andThen_eq_valid.mp hNotifiers
      have hChain : Checked.valid (.chain name []) ∈ items.map notifier :=
        Checked.sequenceFrom_eq_valid.mp hItems ▸ List.mem_map_of_mem hMem
      obtain ⟨item, -, hItem⟩ := List.mem_map.mp hChain
      exact targets_of_notifier hItem rfl

end Schema

namespace FlowDefinition.Accepted

variable {flow : FlowDefinition}

/-- Whichever way a flow came, it is the valid value of a mapping. -/
theorem exists_fields (h : flow.Accepted) :
    ∃ entries, Schema.flowFields entries = .valid flow ∧ flow.referenceError? = none := by
  have hValue : ∃ v, Schema.flow v = .valid flow := by
    cases h with
    | ofValue v valid => exact ⟨v, valid⟩
    | ofDocument document place read =>
        rw [Document.flow] at read
        cases hForm : Document.normalForm document place with
        | error e =>
            rw [hForm] at read
            cases read
        | ok data =>
            rw [hForm] at read
            simp only [bind, Except.bind] at read
            split at read
            · rename_i valid
              cases read
              exact ⟨data, valid⟩
            · cases read
  obtain ⟨v, hValid⟩ := hValue
  unfold Schema.flow at hValid
  split at hValid
  · rename_i entries
    obtain ⟨read, hFields, hReferences⟩ := Schema.Checked.andThen_eq_valid.mp hValid
    rw [Schema.wellReferenced] at hReferences
    split at hReferences
    · rename_i hNone
      cases hReferences
      exact ⟨entries, hFields, hNone⟩
    · cases hReferences
  · cases hValid

theorem sound (h : flow.Accepted) : flow.Sound := by
  obtain ⟨entries, hFields, hNone⟩ := h.exists_fields
  obtain ⟨hSteps, hInterval, hTargets⟩ := Schema.sound_of_flowFields hFields
  exact ⟨hSteps, hInterval, hTargets, hNone⟩

/-- The names in an accepted flow lead where they should. -/
theorem referenceError?_eq_none (h : flow.Accepted) : flow.referenceError? = none :=
  h.sound.references

end FlowDefinition.Accepted

/-! ## A watch on a page -/

namespace Watch

/-- The field that gives a step two retries and a fallback. -/
def failValue (fallback : List Value) : Value :=
  .map [(.text "retries", .int 2), (.text "fallback", .list fallback)]

/-- The policy of that field. -/
def retry : RetryPolicy := ⟨2, RetryPolicy.standard.interval⟩

def noticeEntries (name : String) (fallback : List Value) : Entries :=
  [(.text "kind", .text "notify"), (.text "notifier", .text name), (.text "message", .text ""),
    (.text "fail", failValue fallback)]

def visitEntries (fallback : List Value) : Entries :=
  [(.text "kind", .text "get_url"), (.text "url", .text "page"), (.text "fail", failValue fallback)]

/-- All are told, by a chain that stands before its target, and if that fails the desk alone; then a
page is visited. -/
def stepsValue : Value :=
  .list [.map (noticeEntries "all" [.map (noticeEntries "desk" [])]), .map (visitEntries [])]

def notifiersValue : Value :=
  .list [
    .map [(.text "type", .text "chain"), (.text "name", .text "all"),
      (.text "targets", .list [.text "desk"])],
    .map [(.text "type", .text "print"), (.text "name", .text "desk")]]

def fallbackValue : Value := .list [.map (noticeEntries "desk" [])]

def value : Value := .map [(.text "notifiers", notifiersValue), (.text "steps", stepsValue),
  (.text "upon_failure", fallbackValue)]

def notice (name : String) (fallback : List Step) : Step := .notify name "" retry fallback

def visit (fallback : List Step) : Step := .getUrl "page" none retry fallback

def flow : FlowDefinition where
  name := none
  trigger := none
  notifiers := [.chain "all" ["desk"], .print "desk"]
  steps := [notice "all" [notice "desk" []], visit []]
  uponFailure := [notice "desk" []]

theorem failField_eq (entries : Entries) {fallback : List Value} {steps : List Step}
    (hField : entries.field? "fail" = some (failValue fallback))
    (hSteps : Schema.stepList (.list fallback) = .valid steps) :
    Schema.failField entries = .valid (retry, steps) := by
  have hFallback : Schema.stepsField [(.text "retries", .int 2), (.text "fallback", .list fallback)]
      "fallback" = .valid steps := by
    rw [Schema.stepsField]
    change (Schema.stepList (.list fallback)).within _ = _
    rw [hSteps]
    rfl
  rw [Schema.failField]
  split
  · rename_i hNone
    cases hNone.symm.trans hField
  · rename_i fields hSome
    cases hSome.symm.trans hField
    rw [hFallback, Schema.failSpec, retry]
    generalize RetryPolicy.standard = standard
    rfl
  · rename_i v hNoMap hOther
    exact (hNoMap _ (Option.some.inj (hOther.symm.trans hField))).elim

theorem stepList_nil : Schema.stepList (.list []) = .valid [] := by
  rw [Schema.stepList, Schema.stepChecks]
  rfl

theorem stepList_cons {v : Value} {rest : List Value} {step : Step} {steps : List Step}
    (hFirst : Schema.step v = .valid step) (hRest : Schema.stepList (.list rest) = .valid steps) :
    Schema.stepList (.list (v :: rest)) = .valid (step :: steps) := by
  rw [Schema.stepList, Schema.Checked.sequenceFrom_eq_valid] at hRest ⊢
  rw [Schema.stepChecks, hFirst, hRest]
  rfl

theorem step_notice {name : String} {fallback : List Value} {steps : List Step}
    (h : Schema.stepList (.list fallback) = .valid steps) :
    Schema.step (.map (noticeEntries name fallback)) = .valid (notice name steps) := by
  rw [Schema.step]
  change (Schema.failableStep .notify _ (Schema.failField _)).within _ = _
  rw [failField_eq (noticeEntries name fallback) rfl h]
  rfl

theorem step_visit {fallback : List Value} {steps : List Step}
    (h : Schema.stepList (.list fallback) = .valid steps) :
    Schema.step (.map (visitEntries fallback)) = .valid (visit steps) := by
  rw [Schema.step]
  change (Schema.failableStep .getUrl _ (Schema.failField _)).within _ = _
  rw [failField_eq (visitEntries fallback) rfl h]
  rfl

theorem stepList_fallback : Schema.stepList fallbackValue = .valid flow.uponFailure :=
  stepList_cons (step_notice stepList_nil) stepList_nil

theorem accepted : flow.Accepted := by
  have hSteps : Schema.stepList stepsValue = .valid flow.steps :=
    stepList_cons (step_notice stepList_fallback)
      (stepList_cons (step_visit stepList_nil) stepList_nil)
  refine .ofValue value ?_
  change ((Schema.model _ _ (FlowDefinition.mk <$> .valid none <*> .valid none <*>
    .valid flow.notifiers <*> (Schema.stepList stepsValue).within _ <*>
    (Schema.stepList fallbackValue).within _)).andThen Schema.wellReferenced) = _
  rw [hSteps, stepList_fallback]
  rfl

end Watch

end Flowline
