import Flowline.Proofs.Flow.Accepted
import Flowline.Proofs.Interpreter.Course
import Flowline.Proofs.Value.Entries

/-!
The document of a flow. A document writes every step as a mapping of its kind to its fields, with the
policy of retries and the fallback among them, and reading that document gives the flow back. The steps
meet half way at a value of the shape of the model: reading a document brings it there, and its check
gives the steps.
-/

namespace Flowline

/-- A text, or null in place of none. -/
def Value.ofOptional : Option String → Value
  | some s => .text s
  | none => .null

namespace Step

/-- The fields of a step that hold no steps and no policy, named as in the model. -/
def ownFields : Step → List (String × Value)
  | abortFlow | debugState => []
  | sleep duration => [("duration", .real duration)]
  | notify notifier message _ _ => [("notifier", .text notifier), ("message", .text message)]
  | getUrl url outputVar _ _ => [("url", .text url), ("output_var", .ofOptional outputVar)]
  | postUrl url body headers _ _ =>
      [("url", .text url), ("body", .ofLoose body), ("headers", .map (Entries.ofTexts headers))]
  | extractCapture inputVar outputVar pattern _ _ =>
      [("input_var", .ofOptional inputVar), ("output_var", .ofOptional outputVar),
        ("pattern", .text pattern)]
  | compareVar inputVar compareWith compareFor _ _ =>
      [("input_var", .ofOptional inputVar), ("compare_with", .text compareWith),
        ("compare_for", .text compareFor)]
  | readText path outputVar _ _ => [("path", .text path), ("output_var", .ofOptional outputVar)]
  | appendText path inputVar _ _ => [("path", .text path), ("input_var", .ofOptional inputVar)]
  | setVariable outputVar value => [("output_var", .ofOptional outputVar), ("value", .text value)]

/-- The policy of retries and the fallback of a step, as fields beside its own. -/
def failFields (retry : RetryPolicy) (fallback : List Value) : List (String × Value) :=
  [("retries", .int retry.retries), ("retry_interval", .real retry.interval),
    ("upon_failure", .list fallback)]

mutual

/-- The fields of a step beside its own: those of its policy and those that hold steps. -/
def nestedFields : Step → List (String × Value)
  | notify _ _ retry fallback => failFields retry (documents fallback)
  | getUrl _ _ retry fallback => failFields retry (documents fallback)
  | postUrl _ _ _ retry fallback => failFields retry (documents fallback)
  | extractCapture _ _ _ retry fallback => failFields retry (documents fallback)
  | readText _ _ retry fallback => failFields retry (documents fallback)
  | appendText _ _ retry fallback => failFields retry (documents fallback)
  | compareVar _ _ _ ifTrue ifFalse =>
      [("if_true", .list (documents ifTrue)), ("if_false", .list (documents ifFalse))]
  | _ => []

/-- The documents of steps, each a mapping of the kind of the step to its fields. -/
def documents : List Step → List Value
  | [] => []
  | step :: rest =>
      .map [(.text step.kind.name, .map (Entries.ofFields (ownFields step ++ nestedFields step)))] ::
        documents rest

end

end Step

def NotifierConfig.document : NotifierConfig → Value
  | print name => .map (Entries.ofFields [("type", .text "print"), ("name", .text name)])
  | memory name => .map (Entries.ofFields [("type", .text "memory"), ("name", .text name)])
  | telegram name token chatId => .map (Entries.ofFields
      [("type", .text "telegram"), ("name", .text name), ("token", .ofOptional token),
        ("chat_id", .ofOptional chatId)])
  | chain name targets => .map (Entries.ofFields
      [("type", .text "chain"), ("name", .text name), ("targets", .list (targets.map .text))])

/-- The document of a trigger. `word` is the spelling of the type of one that repeats. -/
def Trigger.document (word : String) : Trigger → Value
  | once => .map (Entries.ofFields [("type", .text "once")])
  | interval seconds =>
      .map (Entries.ofFields [("type", .text word), ("interval", .real seconds)])

/-- The fields of a flow in its document. There is no trigger if the flow has none. -/
def FlowDefinition.fields (word : String) (flow : FlowDefinition) : Entries :=
  Entries.ofFields (
    ("name", .ofOptional flow.name) ::
    (flow.trigger.toList.map fun trigger => ("trigger", trigger.document word)) ++
    [("notifiers", .list (flow.notifiers.map NotifierConfig.document)),
      ("steps", .list (Step.documents flow.steps)),
      ("upon_failure", .list (Step.documents flow.uponFailure))])

/-- The document of a flow. -/
def FlowDefinition.document (word : String) (flow : FlowDefinition) : Value := .map (flow.fields word)

/-! ## Durations -/

/-- A number that is a duration already is read as it is. -/
theorem Duration.checked_of_isDuration {x : Binary64} (h : x.IsDuration) (shown : String) :
    checked x shown = .ok x := by
  have hNotBelow : x.lt .zero = false := by rw [Binary64.lt, h.1, Bool.not_true, Bool.and_false]
  have hNotAbove : maxSeconds.lt x = false := by
    rw [Binary64.lt, h.2, Bool.not_true, Bool.and_false]
  rw [checked, h.isFinite, hNotBelow, hNotAbove]
  rfl

theorem Document.duration_real {x : Binary64} (h : x.IsDuration) (place : String) :
    Document.duration place (.real x) = .ok (.real x) := by
  have hValue : Duration.ofValue (.real x) = .ok x := Duration.checked_of_isDuration h x.text
  rw [Document.duration, hValue]

namespace Schema

theorem realAtMost_limit {x : Binary64} (h : x.IsDuration) :
    realAtMost Duration.limit x = .valid x := if_pos h.2

theorem seconds_real {x : Binary64} (h : x.IsDuration) : seconds (.real x) = .valid x := by
  have hLeast : realAtLeast 0 x = .valid x := if_pos (Binary64.ofInt_zero ▸ h.1)
  rw [seconds, real, Checked.andThen, realAtMost_limit h, Checked.andThen, hLeast]

theorem positiveSeconds_real {x : Binary64} (h : x.IsDuration) (hPositive : Binary64.zero.lt x = true) :
    positiveSeconds (.real x) = .valid x := by
  have hAbove : realAbove 0 x = .valid x := if_pos (Binary64.ofInt_zero ▸ hPositive)
  rw [positiveSeconds, real, Checked.andThen, realAtMost_limit h, Checked.andThen, hAbove]

end Schema

/-! ## Reading the fields of a step -/

namespace Document

theorem putOptional_field? (entries : Entries) (name : String) :
    putOptional entries name (entries.field? name) = entries := by
  cases hField : entries.field? name with
  | none => rfl
  | some v => exact Entries.putField_of_field? hField

theorem mapM_normalHeader (texts : List (String × String)) (place : String) :
    (Entries.ofTexts texts).mapM (normalHeader place) = .ok (Entries.ofTexts texts) := by
  induction texts with
  | nil => rfl
  | cons entry rest ih =>
      rw [Entries.ofTexts_cons, List.mapM_cons, ih]
      rfl

/-- Headers with different names are read as they are written. -/
theorem normalHeaders_texts {headers : List (String × String)}
    (h : (headers.map Prod.fst).Nodup) (place : String) :
    normalHeaders place (.map (Entries.ofTexts headers)) = .ok (.map (Entries.ofTexts headers)) := by
  rw [normalHeaders, mapM_normalHeader]
  exact congrArg (fun entries => Except.ok (Value.map entries)) (Entries.ofList_ofTexts h)

theorem normalStepsField_of_field? {body : Entries} {name place : String} {v : Value}
    (h : body.field? name = some v) : normalStepsField body name place = normalSteps v place := by
  rw [normalStepsField]
  split
  · rename_i w hSome
    cases hSome.symm.trans h
    rfl
  · rename_i hNone
    cases hNone.symm.trans h

end Document

/-! ## Steps -/

namespace Step

variable {step : Step} {retry : RetryPolicy} {place : String}

theorem stepKind?_name (kind : StepKind) : Document.stepKind? kind.name = some kind := by
  cases kind <;> rfl

/-- Names that no own field of a step has. -/
def reservedNames : List String :=
  ["retries", "retry_interval", "upon_failure", "if_true", "if_false", "fail", "kind"]

theorem nodup_names (step : Step) : (step.ownFields.map Prod.fst ++ reservedNames).Nodup := by
  cases step <;> simp [ownFields, reservedNames]

theorem not_mem_names (step : Step) {name : String} (h : name ∈ reservedNames) :
    name ∉ step.ownFields.map Prod.fst :=
  fun hMem => (List.nodup_append.mp step.nodup_names).2.2 _ hMem _ h rfl

/-- A field under a reserved name is not one of the step's own. -/
theorem field?_reserved (step : Step) (rest : List (String × Value)) {name : String}
    (h : name ∈ reservedNames) :
    (Entries.ofFields (step.ownFields ++ rest)).field? name = (Entries.ofFields rest).field? name := by
  rw [Entries.ofFields_append, Entries.field?_append_of_not_mem _ (step.not_mem_names h)]

/-- The fields of a step are written as the model names them. -/
theorem normalFields_document (step : Step) (place : String) :
    Document.normalFields place step.kind (Entries.ofFields (step.ownFields ++ step.nestedFields)) =
      .ok (Entries.ofFields (step.ownFields ++ step.nestedFields)) := by
  cases step with
  | postUrl _ body => cases body <;> rfl
  | _ => rfl

theorem nestedFields_of_retry (h : step.retry? = some retry) :
    step.nestedFields = failFields retry (documents step.fallback) := by
  cases step <;> cases h <;> rfl

theorem isFailable_of_retry (h : step.retry? = some retry) : step.kind.isFailable = true := by
  cases step <;> cases h <;> rfl

/-- The headers of a request are read as they are written. -/
theorem mapM_headers (hKind : step.kind = .postUrl) (hSound : step.Sound)
    (rest : List (String × Value)) (place : String) :
    ((Entries.ofFields (step.ownFields ++ rest)).field? "headers").mapM
        (Document.normalHeaders place) =
      .ok ((Entries.ofFields (step.ownFields ++ rest)).field? "headers") := by
  have hField : (Entries.ofFields (step.ownFields ++ rest)).field? "headers" =
      some (.map (Entries.ofTexts step.headers)) := by
    cases step <;> cases hKind
    rfl
  rw [hField]
  change some <$> Document.normalHeaders place _ = _
  rw [Document.normalHeaders_texts hSound.distinct]
  rfl

/-- The field that tells what to do when the operation of a step fails. -/
def failValue (retry : RetryPolicy) (fallback : List Value) : Value :=
  .map (Entries.ofFields [("retries", .int retry.retries), ("retry_interval", .real retry.interval),
    ("fallback", .list fallback)])

/-- A step whose operation can fail is brought to the shape of the model if its fallback is. -/
theorem normalBody_of_retry (hRetry : step.retry? = some retry) (hSound : step.Sound)
    {fallback : List Value}
    (hFallback : Document.normalSteps (.list (documents step.fallback)) s!"{place}.upon_failure" =
      .ok fallback) :
    Document.normalBody step.kind (Entries.ofFields (step.ownFields ++ step.nestedFields)) place =
      .ok (.map (Entries.ofFields
        (step.ownFields ++ [("fail", failValue retry fallback), ("kind", .text step.kind.name)]))) := by
  have hNested := nestedFields_of_retry hRetry
  have hField : ∀ name ∈ reservedNames,
      (Entries.ofFields (step.ownFields ++ step.nestedFields)).field? name =
        (Entries.ofFields (failFields retry (documents step.fallback))).field? name := by
    intro name hName
    rw [step.field?_reserved _ hName, hNested]
  have hRetries := hField "retries" (by decide)
  have hInterval : Document.durationField place "retry_interval"
      (Entries.ofFields (step.ownFields ++ step.nestedFields)) =
        .ok (some (.real retry.interval)) := by
    rw [Document.durationField, hField _ (by decide)]
    change (Document.duration place (.real retry.interval)).map some = _
    rw [Document.duration_real (hSound.timely _ (pause?_of_retry hRetry))]
    rfl
  have hSteps : Document.normalStepsField (Entries.ofFields (step.ownFields ++ step.nestedFields))
      "upon_failure" s!"{place}.upon_failure" = .ok fallback := by
    have hList := hField "upon_failure" (by decide)
    exact (Document.normalStepsField_of_field? hList).trans hFallback
  have hRest : (((Entries.ofFields (step.ownFields ++ step.nestedFields)).eraseField
      "retries").eraseField "retry_interval").eraseField "upon_failure" =
        Entries.ofFields step.ownFields := by
    rw [Entries.ofFields_append, hNested,
      Entries.eraseField_append_of_not_mem (step.not_mem_names (by decide)),
      Entries.eraseField_append_of_not_mem (step.not_mem_names (by decide)),
      Entries.eraseField_append_of_not_mem (step.not_mem_names (by decide))]
    exact List.append_nil _
  have hKind : ∀ fail : Value, (Entries.ofFields (step.ownFields ++ [("fail", fail)])).putField "kind"
      (.text step.kind.name) =
        Entries.ofFields (step.ownFields ++ [("fail", fail), ("kind", .text step.kind.name)]) := by
    intro fail
    have hNew : "kind" ∉ (step.ownFields ++ [("fail", fail)]).map Prod.fst := by
      rw [List.map_append, List.mem_append, not_or]
      exact ⟨step.not_mem_names (by decide), by simp⟩
    rw [Entries.putField_of_not_mem hNew, List.append_assoc]
    rfl
  rw [Document.normalBody, normalFields_document]
  simp only [bind, Except.bind, pure, Except.pure, isFailable_of_retry hRetry, if_true, hInterval,
    hSteps, hRest, hRetries]
  rw [Entries.putField_of_not_mem (step.not_mem_names (by decide))]
  split
  · rename_i hPost
    rw [mapM_headers hPost hSound]
    simp only [Document.putOptional_field?, hKind]
    rfl
  · rw [hKind]
    rfl

/-- A comparison is brought to the shape of the model if its arms are. -/
theorem normalBody_compareVar {inputVar : Option String} {compareWith compareFor : String}
    {ifTrue ifFalse : List Step} {taken other : List Value}
    (hStep : step = compareVar inputVar compareWith compareFor ifTrue ifFalse)
    (hTrue : Document.normalSteps (.list (documents ifTrue)) s!"{place}.if_true" = .ok taken)
    (hFalse : Document.normalSteps (.list (documents ifFalse)) s!"{place}.if_false" = .ok other) :
    Document.normalBody step.kind (Entries.ofFields (step.ownFields ++ step.nestedFields)) place =
      .ok (.map (Entries.ofFields (step.ownFields ++
        [("if_true", .list taken), ("if_false", .list other), ("kind", .text step.kind.name)]))) := by
  have hTaken : Document.normalStepsField (Entries.ofFields (step.ownFields ++ step.nestedFields))
      "if_true" s!"{place}.if_true" = .ok taken := by
    subst hStep
    exact (Document.normalStepsField_of_field? rfl).trans hTrue
  have hOther : Document.normalStepsField (Entries.ofFields (step.ownFields ++ step.nestedFields))
      "if_false" s!"{place}.if_false" = .ok other := by
    subst hStep
    exact (Document.normalStepsField_of_field? rfl).trans hFalse
  rw [Document.normalBody, normalFields_document]
  simp only [bind, Except.bind, hTaken, hOther]
  subst hStep
  rfl

/-- A step that holds no steps is brought to the shape of the model. -/
theorem normalBody_leaf (hRetry : step.retry? = none) (hKind : step.kind ≠ .compareVar)
    (hSound : step.Sound) :
    Document.normalBody step.kind (Entries.ofFields (step.ownFields ++ step.nestedFields)) place =
      .ok (.map (Entries.ofFields (step.ownFields ++ [("kind", .text step.kind.name)]))) := by
  rw [Document.normalBody, normalFields_document]
  cases step with
  | compareVar => exact absurd rfl hKind
  | sleep duration =>
      have hSeconds : Document.durationField place "duration"
          (Entries.ofFields ((sleep duration).ownFields ++ (sleep duration).nestedFields)) =
            .ok (some (.real duration)) := by
        change (Document.duration place (.real duration)).map some = _
        rw [Document.duration_real (hSound.timely _ rfl)]
        rfl
      simp only [kind, bind, Except.bind, hSeconds]
      rfl
  | abortFlow | debugState | setVariable => rfl
  | _ => cases hRetry

end Step

/-! ## Checking a step of the shape of the model -/

namespace Schema

theorem stepsField_of_field? {entries : Entries} {name : String} {v : Value}
    (h : entries.field? name = some v) :
    stepsField entries name = (stepList v).within (.name name) := by
  rw [stepsField]
  split
  · rename_i hNone
    cases hNone.symm.trans h
  · rename_i w hSome
    cases hSome.symm.trans h
    rfl

theorem putText_of_not_mem {texts : List (String × String)} {entry : String × String}
    (h : entry.1 ∉ texts.map Prod.fst) : putText texts entry = texts ++ [entry] := by
  induction texts with
  | nil => rfl
  | cons first rest ih =>
      rw [List.map_cons, List.mem_cons, not_or] at h
      rw [putText, if_neg (Ne.symm h.1), ih h.2, List.cons_append]

/-- Headers with different names are the texts of the mapping that writes them. -/
theorem textMap_texts {headers : List (String × String)} (h : (headers.map Prod.fst).Nodup) :
    textMap (.map (Entries.ofTexts headers)) = .valid headers := by
  have hEntries : ∀ texts, textEntries (Entries.ofTexts texts) = .valid texts := by
    intro texts
    induction texts with
    | nil => rfl
    | cons entry rest ih =>
        rw [Entries.ofTexts_cons, textEntries, ih]
        rfl
  have hPut : ∀ (texts found : List (String × String)), ((found ++ texts).map Prod.fst).Nodup →
      texts.foldl putText found = found ++ texts := by
    intro texts
    induction texts with
    | nil => exact fun found _ => (List.append_nil found).symm
    | cons entry rest ih =>
        intro found hNodup
        have hNew : entry.1 ∉ found.map Prod.fst := by
          rw [List.map_append, List.map_cons] at hNodup
          exact fun hMem => (List.nodup_append.mp hNodup).2.2 _ hMem _ List.mem_cons_self rfl
        rw [List.append_cons] at hNodup ⊢
        rw [List.foldl_cons, putText_of_not_mem hNew, ih _ hNodup]
  rw [textMap, hEntries]
  exact congrArg Checked.valid (hPut headers [] h)

theorem failField_failValue {entries : Entries} {retry : RetryPolicy} {fallback : List Value}
    {steps : List Step} (hField : entries.field? "fail" = some (Step.failValue retry fallback))
    (hInterval : retry.interval.IsDuration) (hSteps : stepList (.list fallback) = .valid steps) :
    failField entries = .valid (retry, steps) := by
  have hPause : optional (Entries.ofFields [("retries", .int retry.retries),
      ("retry_interval", .real retry.interval), ("fallback", .list fallback)]) "retry_interval"
      RetryPolicy.standard.interval seconds = .valid retry.interval := by
    change (seconds (.real retry.interval)).within _ = _
    rw [seconds_real hInterval]
    rfl
  rw [failField]
  split
  · rename_i hNone
    cases hNone.symm.trans hField
  · rename_i fields hSome
    cases hSome.symm.trans hField
    rw [stepsField_of_field? rfl, hSteps, failSpec, hPause]
    rfl
  · rename_i v hNoMap hOther
    exact (hNoMap _ (Option.some.inj (hOther.symm.trans hField))).elim

theorem ofName?_name (kind : StepKind) : StepKind.ofName? kind.name = some kind := by
  cases kind <;> rfl

theorem step_of_kind {entries : Entries} {kind : StepKind}
    (h : entries.field? "kind" = some (.text kind.name)) :
    step (.map entries) =
      (if kind.isFailable then failableStep kind entries (failField entries)
        else if kind = .compareVar then
          compareStep entries (stepsField entries "if_true") (stepsField entries "if_false")
        else leafStep kind entries).within (.name kind.name) := by
  rw [step, h]
  simp only [tagged?, Option.bind_some, ofName?_name]

theorem optional_ofOptional {entries : Entries} {name : String} {text : Option String}
    (h : entries.field? name = some (.ofOptional text)) :
    optional entries name none optionalText = .valid text := by
  rw [optional, h]
  cases text <;> rfl

theorem optional_texts {entries : Entries} {name : String} {texts : List (String × String)}
    (h : entries.field? name = some (.map (Entries.ofTexts texts)))
    (hDistinct : (texts.map Prod.fst).Nodup) : optional entries name [] textMap = .valid texts := by
  rw [optional, h]
  change (textMap (.map (Entries.ofTexts texts))).within _ = _
  rw [textMap_texts hDistinct]
  rfl

/-- A step whose operation can fail is what the check of its model gives. -/
theorem step_of_retry {step : Step} {retry : RetryPolicy} {fallback : List Value}
    (hRetry : step.retry? = some retry) (hSound : step.Sound)
    (hSteps : stepList (.list fallback) = .valid step.fallback) :
    Schema.step (.map (Entries.ofFields (step.ownFields ++
        [("fail", Step.failValue retry fallback), ("kind", .text step.kind.name)]))) =
      .valid step := by
  have hKind : (Entries.ofFields (step.ownFields ++ [("fail", Step.failValue retry fallback),
      ("kind", .text step.kind.name)])).field? "kind" = some (.text step.kind.name) :=
    step.field?_reserved _ (by decide)
  have hFail := failField_failValue (step.field?_reserved [("fail", Step.failValue retry fallback),
    ("kind", .text step.kind.name)] (by decide)) (hSound.timely _ (Step.pause?_of_retry hRetry)) hSteps
  rw [step_of_kind hKind, if_pos (Step.isFailable_of_retry hRetry), hFail]
  cases step with
  | notify =>
      cases hRetry
      rfl
  | getUrl | readText | appendText =>
      cases hRetry
      simp only [Step.kind, failableStep]
      rw [optional_ofOptional rfl]
      rfl
  | postUrl url body headers =>
      cases hRetry
      have hHeaders : (headers.map Prod.fst).Nodup := hSound.distinct
      rw [Step.kind, failableStep, optional_texts rfl hHeaders]
      cases body <;> rfl
  | extractCapture =>
      cases hRetry
      rw [Step.kind, failableStep, optional_ofOptional rfl, optional_ofOptional rfl]
      rfl
  | _ => cases hRetry

theorem step_compareVar {inputVar : Option String} {compareWith compareFor : String}
    {step : Step} {ifTrue ifFalse : List Step} {taken other : List Value}
    (hStep : step = .compareVar inputVar compareWith compareFor ifTrue ifFalse)
    (hTrue : stepList (.list taken) = .valid ifTrue)
    (hFalse : stepList (.list other) = .valid ifFalse) :
    Schema.step (.map (Entries.ofFields (step.ownFields ++
        [("if_true", .list taken), ("if_false", .list other), ("kind", .text step.kind.name)]))) =
      .valid step := by
  rw [step_of_kind (step.field?_reserved _ (by decide))]
  subst hStep
  simp only [Step.kind, StepKind.isFailable, Bool.false_eq_true, if_false, if_true]
  rw [stepsField_of_field? rfl, stepsField_of_field? rfl, hTrue, hFalse, compareStep,
    optional_ofOptional rfl]
  rfl

/-- A step that holds no steps is what the check of its model gives. -/
theorem step_leaf {step : Step} (hRetry : step.retry? = none) (hKind : step.kind ≠ .compareVar)
    (hSound : step.Sound) :
    Schema.step (.map (Entries.ofFields (step.ownFields ++ [("kind", .text step.kind.name)]))) =
      .valid step := by
  rw [step_of_kind (step.field?_reserved _ (by decide))]
  cases step with
  | compareVar => exact absurd rfl hKind
  | abortFlow | debugState => rfl
  | sleep duration =>
      have hSeconds : required (Entries.ofFields ((Step.sleep duration).ownFields ++
          [("kind", .text "sleep")])) "duration" seconds = .valid duration := by
        change (seconds (.real duration)).within _ = _
        rw [seconds_real (hSound.timely _ rfl)]
        rfl
      change (leafStep .sleep (Entries.ofFields ((Step.sleep duration).ownFields ++
          [("kind", .text "sleep")]))).within _ = _
      rw [leafStep, hSeconds]
      rfl
  | setVariable =>
      simp only [Step.kind, StepKind.isFailable, leafStep]
      rw [optional_ofOptional rfl]
      rfl
  | _ => cases hRetry

end Schema

/-! ## The round trip -/

namespace Step

theorem normalStep_document (step : Step) (place : String) :
    Document.normalStep (.map [(.text step.kind.name,
        .map (Entries.ofFields (step.ownFields ++ step.nestedFields)))]) place =
      Document.normalBody step.kind (Entries.ofFields (step.ownFields ++ step.nestedFields)) place := by
  have hShown : Document.shown place (.text step.kind.name) = .ok step.kind.name := rfl
  rw [Document.normalStep, hShown]
  simp only [bind, Except.bind, stepKind?_name]

/-- Steps that are read from their documents, wherever their list stands: brought to the shape of the
model, they pass its check. -/
def ReadBack (steps : List Step) : Prop :=
  ∀ place index, ∃ models, Document.normalItems (documents steps) place index = .ok models ∧
    Schema.stepChecks models = steps.map .valid

theorem ReadBack.list {steps : List Step} (h : ReadBack steps) (place : String) :
    ∃ models, Document.normalSteps (.list (documents steps)) place = .ok models ∧
      Schema.stepList (.list models) = .valid steps := by
  obtain ⟨models, hModels, hChecks⟩ := h place 0
  exact ⟨models, by rw [Document.normalSteps, hModels],
    by rw [Schema.stepList, Schema.Checked.sequenceFrom_eq_valid, hChecks]⟩

/-- A step is read from its fields, given that the lists that it holds are. -/
theorem read_step (step : Step) (hSound : step.Sound) (hNested : ∀ next, ReadBack (step.nested next))
    (place : String) :
    ∃ model, Document.normalBody step.kind
        (Entries.ofFields (step.ownFields ++ step.nestedFields)) place = .ok model ∧
      Schema.step model = .valid step := by
  cases hRetry : step.retry? with
  | some retry =>
      have hFallback : step.nested .fallback = step.fallback := by
        cases step <;> cases hRetry <;> rfl
      obtain ⟨fallback, hRead, hCheck⟩ := (hNested .fallback).list s!"{place}.upon_failure"
      rw [hFallback] at hRead hCheck
      exact ⟨_, normalBody_of_retry hRetry hSound hRead, Schema.step_of_retry hRetry hSound hCheck⟩
  | none =>
      by_cases hKind : step.kind = .compareVar
      · cases step <;> cases hKind
        obtain ⟨taken, hReadTrue, hTrue⟩ := (hNested (.arm true)).list s!"{place}.if_true"
        obtain ⟨other, hReadFalse, hFalse⟩ := (hNested (.arm false)).list s!"{place}.if_false"
        exact ⟨_, normalBody_compareVar rfl hReadTrue hReadFalse,
          Schema.step_compareVar rfl hTrue hFalse⟩
      · exact ⟨_, normalBody_leaf hRetry hKind hSound, Schema.step_leaf hRetry hKind hSound⟩

/-- Sound steps are read back, by induction on their list and on the lists that they hold. -/
theorem readBack (steps : List Step) (hSound : ∀ d ∈ walk steps, d.Sound) : ReadBack steps := by
  induction steps using nested_induction with
  | nil =>
      exact fun _ _ => ⟨[], by rw [documents, Document.normalItems],
        by rw [Schema.stepChecks, List.map_nil]⟩
  | cons step rest ihNested ihRest =>
      intro place index
      rw [walk, List.forall_mem_append] at hSound
      obtain ⟨hStep, hRest⟩ := hSound
      have hNested : ∀ next, ReadBack (step.nested next) := fun next =>
        ihNested next fun d hMem => hStep d (mem_withDescendants_of_nested hMem)
      obtain ⟨model, hNormal, hCheck⟩ :=
        read_step step (hStep step (mem_withDescendants_self step)) hNested s!"{place}[{index}]"
      obtain ⟨models, hModels, hChecks⟩ := ihRest hRest place (index + 1)
      refine ⟨model :: models, ?_, by rw [Schema.stepChecks, hCheck, hChecks, List.map_cons]⟩
      rw [documents, Document.normalItems, normalStep_document, hNormal]
      simp only [bind, Except.bind, hModels]
      rfl

end Step

/-! ## Flows -/

/-- A trigger, or nothing, in the shape of the model. -/
def Trigger.model : Option Trigger → Value
  | none => .null
  | some once => .map (Entries.ofFields [("type", .text "once")])
  | some (interval seconds) =>
      .map (Entries.ofFields [("type", .text "interval"), ("interval", .real seconds)])

/-- The type of a trigger that repeats can be spelt in either way. -/
theorem Document.normalTrigger_document {word : String} (hWord : repeats? word = some true)
    {trigger : Trigger} (hInterval : ∀ x, trigger = .interval x → x.IsDuration) (place : String) :
    normalTrigger (trigger.document word) place = .ok (Trigger.model (some trigger)) := by
  cases trigger with
  | once => rfl
  | interval seconds =>
      have hField : (Entries.ofFields [("type", .text word), ("interval", .real seconds)]).field?
          "interval" = some (.real seconds) := rfl
      rw [Trigger.document, normalTrigger]
      change (Except.ok word >>= _) = _
      simp only [bind, Except.bind, hWord, hField]
      rw [Document.duration_real (hInterval seconds rfl)]
      rfl

namespace Schema

/-- The check of a trigger that repeats is that of its interval. -/
theorem trigger_interval (x : Binary64) :
    Schema.trigger (Trigger.model (some (.interval x))) =
      (some <$> Trigger.interval <$> (positiveSeconds (.real x)).within (.name "interval")).within
        (.name "interval") := by
  change (some <$> model ["type", "interval"] _ (Trigger.interval <$> optional
    (Entries.ofFields [("type", .text "interval"), ("interval", .real x)]) "interval"
      (.ofInt 1) positiveSeconds)).within _ = _
  rw [optional]
  rfl

theorem trigger_model {trigger : Option Trigger}
    (h : ∀ x, trigger = some (.interval x) → x.IsDuration ∧ Binary64.zero.lt x = true) :
    Schema.trigger (Trigger.model trigger) = .valid trigger := by
  cases trigger with
  | none => rfl
  | some trigger =>
      cases trigger with
      | once => rfl
      | interval x =>
          obtain ⟨hDuration, hPositive⟩ := h x rfl
          rw [trigger_interval, positiveSeconds_real hDuration hPositive]
          rfl

theorem targets_texts {names : List String} (h : names ≠ []) :
    targets (.list (names.map .text)) = .valid names := by
  have hTexts : (names.map Value.text).map text = names.map .valid := by
    rw [List.map_map]
    rfl
  have hFound : ¬ (names.map Checked.valid).countP (fun c => c.issues.isEmpty) < 1 := by
    have hAll : (names.map Checked.valid).countP (fun c => c.issues.isEmpty) = names.length := by
      rw [List.countP_map]
      exact List.countP_eq_length.mpr fun _ _ => rfl
    have hLength := List.length_pos_iff.mpr h
    omega
  change ((Checked.sequenceFrom 0 ((names.map Value.text).map text)).keeping _) = _
  rw [Checked.keeping_eq_valid, Checked.sequenceFrom_eq_valid]
  exact ⟨hTexts, by rw [hTexts]; exact if_neg hFound⟩

/-- A notifier is read from its document. -/
theorem notifier_document {config : NotifierConfig} (h : ∀ name, config ≠ .chain name []) :
    notifier config.document = .valid config := by
  cases config with
  | print | memory => rfl
  | telegram name token chatId =>
      cases token <;> cases chatId <;> rfl
  | chain name names =>
      have hNames : names ≠ [] := fun hNil => h name (by rw [hNil])
      change (model ["type", "name", "targets"] _ (NotifierConfig.chain <$> .valid name <*>
        (targets (.list (names.map .text))).within _)).within _ = _
      rw [targets_texts hNames]
      rfl

theorem notifiers_document {configs : List NotifierConfig}
    (h : ∀ name, NotifierConfig.chain name [] ∉ configs) :
    notifiers (.list (configs.map NotifierConfig.document)) = .valid configs := by
  change Checked.sequenceFrom 0 ((configs.map NotifierConfig.document).map notifier) = _
  rw [Checked.sequenceFrom_eq_valid, List.map_map]
  exact List.map_congr_left fun config hMem =>
    notifier_document fun name hChain => h name (hChain ▸ hMem)

end Schema

namespace FlowDefinition

variable {flow : FlowDefinition} {word : String}

/-- The name of a flow is read as it is written. -/
theorem normalName_document {entries : Entries}
    (h : entries.field? "name" = some (.ofOptional flow.name)) (place : String) :
    Document.normalName entries place = .ok entries := by
  rw [Document.normalName, Document.fieldOrNull, h]
  cases hName : flow.name with
  | none => rfl
  | some name =>
      rw [hName] at h
      exact congrArg Except.ok (Entries.putField_of_field? h)

theorem truthy_or_empty (items : List Value) :
    (if (Value.list items).isTruthy then Value.list items else .list []) = .list items := by
  cases items <;> rfl

/-- The value of the shape of the model that the document of a flow is brought to, given those of its
steps. -/
def model (flow : FlowDefinition) (word : String) (steps fallback : List Value) : Entries :=
  ((((flow.fields word).putField "trigger" (Trigger.model flow.trigger)).putField "notifiers"
    (.list (flow.notifiers.map NotifierConfig.document))).putField "steps" (.list steps)).putField
      "upon_failure" (.list fallback)

theorem normalForm_document (hSound : flow.Sound) (hWord : Document.repeats? word = some true)
    {place : String} {steps fallback : List Value}
    (hSteps : Document.normalSteps (.list (Step.documents flow.steps)) s!"{place}.steps" = .ok steps)
    (hFallback : Document.normalSteps (.list (Step.documents flow.uponFailure))
      s!"{place}.upon_failure" = .ok fallback) :
    Document.normalForm (flow.document word) place = .ok (.map (flow.model word steps fallback)) := by
  have hTrigger : Document.normalTrigger (Document.fieldOrNull (flow.fields word) "trigger")
      s!"{place}.trigger" = .ok (Trigger.model flow.trigger) := by
    rw [fields]
    cases hTrigger : flow.trigger with
    | none => rfl
    | some trigger =>
        exact Document.normalTrigger_document hWord
          (fun x hInterval => (hSound.interval x (by rw [hTrigger, hInterval])).1) _
  have hFields : (flow.fields word).field? "name" = some (.ofOptional flow.name) ∧
      Document.fieldOrNull (flow.fields word) "notifiers" =
        .list (flow.notifiers.map NotifierConfig.document) ∧
      (flow.fields word).field? "steps" = some (.list (Step.documents flow.steps)) ∧
      Document.fieldOrNull (flow.fields word) "upon_failure" =
        .list (Step.documents flow.uponFailure) := by
    rw [fields]
    cases flow.trigger <;> exact ⟨rfl, rfl, rfl, rfl⟩
  obtain ⟨hName, hNotifiers, hList, hUponFailure⟩ := hFields
  rw [document, Document.normalForm, normalName_document hName, hTrigger, hNotifiers, hList,
    hUponFailure]
  simp only [bind, Except.bind, truthy_or_empty, hSteps, hFallback]
  rfl

theorem flow_model (hSound : flow.Sound) {steps fallback : List Value}
    (hSteps : Schema.stepList (.list steps) = .valid flow.steps)
    (hFallback : Schema.stepList (.list fallback) = .valid flow.uponFailure) :
    Schema.flow (.map (flow.model word steps fallback)) = .valid flow := by
  have hValues : let data := flow.model word steps fallback
      data.field? "name" = some (.ofOptional flow.name) ∧
      data.field? "trigger" = some (Trigger.model flow.trigger) ∧
      data.field? "notifiers" = some (.list (flow.notifiers.map NotifierConfig.document)) ∧
      data.field? "steps" = some (.list steps) ∧
      data.field? "upon_failure" = some (.list fallback) ∧
      Schema.keyIssues ["name", "trigger", "notifiers", "steps", "upon_failure"] data = [] := by
    rw [model, fields]
    cases flow.trigger <;> exact ⟨rfl, rfl, rfl, rfl, rfl, rfl⟩
  obtain ⟨hName, hTrigger, hNotifiers, hList, hUponFailure, hKeys⟩ := hValues
  have hFields : Schema.flowFields (flow.model word steps fallback) = .valid flow := by
    rw [Schema.flowFields, Schema.model, Schema.Checked.keeping_eq_valid]
    refine ⟨?_, hKeys⟩
    rw [Schema.optional_ofOptional hName,
      Schema.optional_eq_valid.mpr (.inr ⟨_, hTrigger, Schema.trigger_model hSound.interval⟩),
      Schema.optional_eq_valid.mpr (.inr ⟨_, hNotifiers, Schema.notifiers_document hSound.targets⟩),
      Schema.required_eq_valid.mpr ⟨_, hList, hSteps⟩,
      Schema.optional_eq_valid.mpr (.inr ⟨_, hUponFailure, hFallback⟩)]
    rfl
  rw [Schema.flow, hFields, Schema.Checked.andThen, Schema.wellReferenced, hSound.references]

/-- A sound flow is read back from its document. -/
theorem read_document (hSound : flow.Sound) (hWord : Document.repeats? word = some true)
    (place : String) : Document.flow (flow.document word) place = .ok flow := by
  have hSteps := hSound.steps
  rw [Step.walk_append, List.forall_mem_append] at hSteps
  obtain ⟨steps, hReadSteps, hCheckSteps⟩ := (Step.readBack _ hSteps.1).list s!"{place}.steps"
  obtain ⟨fallback, hReadFallback, hCheckFallback⟩ :=
    (Step.readBack _ hSteps.2).list s!"{place}.upon_failure"
  rw [Document.flow, normalForm_document hSound hWord hReadSteps hReadFallback]
  simp only [bind, Except.bind, flow_model hSound hCheckSteps hCheckFallback]
  rfl

/-- The accepted flows are the sound ones: each of these is read from its own document. -/
theorem accepted_iff_sound : flow.Accepted ↔ flow.Sound :=
  ⟨Accepted.sound, fun hSound => .ofDocument (flow.document "timer") "flow" (read_document hSound rfl _)⟩

end FlowDefinition

/-! ## A flow that reports -/

namespace Report

variable {pause every : Binary64}

/-- A page is fetched and posted elsewhere again and again; if it is not there, either all are told or
the flow is aborted, by what came before. -/
def flow (pause every : Binary64) : FlowDefinition where
  name := some "report"
  trigger := some (.interval every)
  notifiers := [.telegram "phone" none (some "7"), .chain "all" ["phone"]]
  steps := [
    .getUrl "page" (some "text") ⟨2, pause⟩
      [.compareVar none "" "equality" [.notify "all" "gone" ⟨2, pause⟩ []] [.abortFlow]],
    .postUrl "archive" "text" [("Accept", "*/*"), ("X-Source", "report")] ⟨2, pause⟩ [],
    .sleep pause]
  uponFailure := [.notify "phone" "failed" ⟨2, pause⟩ [.debugState]]

theorem accepted (hPause : pause.IsDuration) (hEvery : every.IsDuration)
    (hPositive : Binary64.zero.lt every = true) : (flow pause every).Accepted := by
  have hTimely : ∀ step : Step, (∀ x, step.pause? = some x → x = pause) → step.Timely :=
    fun step hStep x hx => hStep x hx ▸ hPause
  refine FlowDefinition.accepted_iff_sound.mpr ⟨?_, ?_, ?_, rfl⟩
  · simp only [flow, Step.walk, Step.withDescendants, List.forall_mem_cons, List.cons_append,
      List.nil_append, List.append_nil]
    refine ⟨⟨hTimely _ ?_, ?_⟩, ⟨hTimely _ ?_, ?_⟩, ⟨hTimely _ ?_, ?_⟩, ⟨hTimely _ ?_, ?_⟩,
      ⟨hTimely _ ?_, ?_⟩, ⟨hTimely _ ?_, ?_⟩, ⟨hTimely _ ?_, ?_⟩, ⟨hTimely _ ?_, ?_⟩,
      List.forall_mem_nil _⟩
    all_goals simp [Step.pause?, Step.retry?, Step.headers, eq_comm]
  · intro x hInterval
    cases hInterval
    exact ⟨hEvery, hPositive⟩
  · simp [flow]

end Report

namespace FlowDefinition

/-- Reading inverts the rendering of flows: the document of an accepted flow, at whatever place it is
read and whichever spelling its trigger has, gives that flow and no other. -/
theorem document_roundtrip (hAccepted : flow.Accepted) (hWord : Document.repeats? word = some true)
    (place : String) : Document.flow (flow.document word) place = .ok flow :=
  read_document hAccepted.sound hWord place

theorem document_roundtrip_report :
    (Report.flow (.ofInt 1) (.ofInt 300)).Accepted ∧ Document.repeats? "timer" = some true ∧
      Document.flow ((Report.flow (.ofInt 1) (.ofInt 300)).document "timer") "flow" =
        .ok (Report.flow (.ofInt 1) (.ofInt 300)) := by
  have hAccepted : (Report.flow (.ofInt 1) (.ofInt 300)).Accepted :=
    Report.accepted ⟨by decide +kernel, by decide +kernel⟩ ⟨by decide +kernel, by decide +kernel⟩
      (by decide +kernel)
  exact ⟨hAccepted, rfl, document_roundtrip hAccepted rfl "flow"⟩

end FlowDefinition

end Flowline
