import Flowline.Proofs.Except
import Flowline.Proofs.Flow.Parts
import Flowline.Proofs.Flow.RoundTrip
import Flowline.Proofs.Schema.Change
import Flowline.Proofs.Value.Keys

/-!
Bodies of steps. The normal form of a body is told by what stands under each name and by its keys, so
that two bodies can be compared whose fields differ in one place.
-/

namespace Flowline

namespace StepKind

/-- The fields of the model of a step, besides its kind and what to do when its operation fails. -/
def ownNames : StepKind → List String
  | abortFlow | debugState => []
  | sleep => ["duration"]
  | notify => ["notifier", "message"]
  | getUrl => ["url", "output_var"]
  | postUrl => ["url", "body", "headers"]
  | extractCapture => ["input_var", "output_var", "pattern"]
  | compareVar => ["input_var", "compare_with", "compare_for", "if_true", "if_false"]
  | readText => ["path", "output_var"]
  | appendText => ["path", "input_var"]
  | setVariable => ["output_var", "value"]

/-- The fields of a body whose operation can fail that are gathered into one field of the model. -/
def budgetNames (kind : StepKind) : List String :=
  if kind.isFailable then ["retries", "retry_interval", "upon_failure"] else []

/-- The fields of a body that hold steps. -/
def nestedNames (kind : StepKind) : List String := kind.nestedFields.map Document.Field.name

/-- The fields of the model of a step. -/
def modelNames (kind : StepKind) : List String :=
  "kind" :: kind.ownNames ++ if kind.isFailable then ["fail"] else []

/-- A kind of step has an operation that can fail, or two arms, or no steps in it. -/
theorem cases_of_nestedNames (kind : StepKind) :
    kind.isFailable = true ∧ kind.nestedNames = ["upon_failure"] ∨ kind = compareVar ∨
      (kind.isFailable = false ∧ kind ≠ compareVar) ∧ kind.nestedNames = [] := by
  cases kind <;> decide

/-- The names under which reading a body puts values of its own, whatever stands there. -/
def overwrittenNames (kind : StepKind) : List String :=
  "kind" :: kind.nestedNames ++ if kind.isFailable then ["fail"] else []

end StepKind

namespace Document

variable {kind : StepKind} {place : String} {n : Value}

/-- The headers of a body under their names and with texts for values, if it has any. -/
def headersOf (place : String) (kind : StepKind) (fields : Entries) : Except Error (Option Value) :=
  if kind = .postUrl then (fields.field? "headers").mapM (normalHeaders place) else .ok none

/-- The seconds of a sleep. -/
def durationOf (place : String) (kind : StepKind) (fields : Entries) : Except Error (Option Value) :=
  if kind = .sleep then durationField place "duration" fields else .ok none

/-- The entries of the field that tells what to do when an operation fails. -/
def failEntries (retries interval : Option Value) (fallback : List Value) : Entries :=
  putOptional (putOptional [] "retries" retries) "retry_interval" interval ++
    [(.text "fallback", .list fallback)]

/-- The normal form of a body whose operation can fail, given what its parts are read as. -/
def failableEntries (kind : StepKind) (fields : Entries) (interval : Option Value)
    (fallback : List Value) (headers : Option Value) : Entries :=
  let rest := ((fields.eraseField "retries").eraseField "retry_interval").eraseField "upon_failure"
  let rest := rest.putField "fail" (.map (failEntries (fields.field? "retries") interval fallback))
  (putOptional rest "headers" headers).putField "kind" (.text kind.name)

/-- The normal form of a comparison, given what its arms are read as. -/
def compareEntries (fields : Entries) (ifTrue ifFalse : List Value) : Entries :=
  ((fields.putField "if_true" (.list ifTrue)).putField "if_false" (.list ifFalse)).putField "kind"
    (.text StepKind.compareVar.name)

/-- The normal form of a body that holds no steps. -/
def leafEntries (kind : StepKind) (fields : Entries) (seconds : Option Value) : Entries :=
  (putOptional fields "duration" seconds).putField "kind" (.text kind.name)

/-- Reading a body whose operation can fail. -/
theorem normalBody_failable_eq (h : kind.isFailable = true) (body : Entries) (place : String) :
    normalBody kind body place = (do
      let fields ← normalFields place kind body
      let interval ← durationField place "retry_interval" fields
      let fallback ← normalStepsField body "upon_failure" s!"{place}.upon_failure"
      let headers ← headersOf place kind fields
      return .map (failableEntries kind fields interval fallback headers)) := by
  rw [normalBody]
  simp only [h, if_true]
  refine bind_congr fun fields => bind_congr fun interval => bind_congr fun fallback => ?_
  by_cases hPost : kind = .postUrl
  · -- The headers are looked up where the budget has been gathered already.
    let rest := ((fields.eraseField "retries").eraseField "retry_interval").eraseField "upon_failure"
    have hHeaders : (rest.putField "fail" (failValue (fields.field? "retries") interval
        fallback)).field? "headers" = fields.field? "headers" := by
      simp [rest]
    simp only [headersOf, if_pos hPost, ← hHeaders]
    change (Option.mapM (normalHeaders place) _ >>= _) = (Option.mapM (normalHeaders place) _ >>= _)
    cases Option.mapM (normalHeaders place) _ <;> rfl
  · simp only [headersOf, if_neg hPost]
    rfl

/-- Reading a comparison. -/
theorem normalBody_compare_eq (body : Entries) (place : String) :
    normalBody .compareVar body place = (do
      let fields ← normalFields place .compareVar body
      let ifTrue ← normalStepsField body "if_true" s!"{place}.if_true"
      let ifFalse ← normalStepsField body "if_false" s!"{place}.if_false"
      return .map (compareEntries fields ifTrue ifFalse)) := by
  rw [normalBody]
  rfl

/-- Reading a body that holds no steps. -/
theorem normalBody_leaf_eq (hFailable : kind.isFailable = false) (hCompare : kind ≠ .compareVar)
    (body : Entries) (place : String) :
    normalBody kind body place = (do
      let fields ← normalFields place kind body
      let seconds ← durationOf place kind fields
      return .map (leafEntries kind fields seconds)) := by
  have hPost : kind ≠ .postUrl := by
    rintro rfl
    cases hFailable
  rw [normalBody]
  refine bind_congr fun fields => ?_
  simp only [hFailable, if_neg hCompare, if_neg hPost]
  by_cases hSleep : kind = .sleep
  · simp only [durationOf, if_pos hSleep]
    cases durationField place "duration" fields <;> rfl
  · simp only [durationOf, if_neg hSleep]
    rfl

theorem normalBody_failable_iff {body : Entries} (h : kind.isFailable = true) :
    normalBody kind body place = .ok n ↔
      ∃ fields, normalFields place kind body = .ok fields ∧
      ∃ interval, durationField place "retry_interval" fields = .ok interval ∧
      ∃ fallback, normalStepsField body "upon_failure" s!"{place}.upon_failure" = .ok fallback ∧
      ∃ headers, headersOf place kind fields = .ok headers ∧
        .map (failableEntries kind fields interval fallback headers) = n := by
  rw [normalBody_failable_eq h]
  simp only [bind_eq_ok, pure, Except.pure, Except.ok.injEq]

theorem normalBody_compare_iff {body : Entries} :
    normalBody .compareVar body place = .ok n ↔
      ∃ fields, normalFields place .compareVar body = .ok fields ∧
      ∃ ifTrue, normalStepsField body "if_true" s!"{place}.if_true" = .ok ifTrue ∧
      ∃ ifFalse, normalStepsField body "if_false" s!"{place}.if_false" = .ok ifFalse ∧
        .map (compareEntries fields ifTrue ifFalse) = n := by
  rw [normalBody_compare_eq]
  simp only [bind_eq_ok, pure, Except.pure, Except.ok.injEq]

theorem normalBody_leaf_iff {body : Entries} (hFailable : kind.isFailable = false)
    (hCompare : kind ≠ .compareVar) :
    normalBody kind body place = .ok n ↔
      ∃ fields, normalFields place kind body = .ok fields ∧
      ∃ seconds, durationOf place kind fields = .ok seconds ∧
        .map (leafEntries kind fields seconds) = n := by
  rw [normalBody_leaf_eq hFailable hCompare]
  simp only [bind_eq_ok, pure, Except.pure, Except.ok.injEq]

end Document

/-! ## Checking bodies that differ -/

namespace Schema

variable {kind : StepKind} {a b : Entries} {refused : Option Value}

theorem failableStep_eq_model (h : kind.isFailable = true) (entries : Entries)
    (fail : Checked (RetryPolicy × List Step)) :
    ∃ check, failableStep kind entries fail = model kind.modelNames entries check := by
  cases kind with
  | notify | getUrl | postUrl | extractCapture | readText | appendText => exact ⟨_, rfl⟩
  | _ => cases h

theorem leafStep_eq_model (hFailable : kind.isFailable = false) (hCompare : kind ≠ .compareVar)
    (entries : Entries) : ∃ check, leafStep kind entries = model kind.modelNames entries check := by
  cases kind with
  | abortFlow | debugState | sleep | setVariable => exact ⟨_, rfl⟩
  | compareVar => exact absurd rfl hCompare
  | _ => cases hFailable

/-- A step whose operation can fail turns as the check of what to do then. -/
theorem turns_failableStep {fail fail' : Checked (RetryPolicy × List Step)}
    (hKind : kind.isFailable = true) (hFields : ∀ name ∈ kind.ownNames, b.field? name = a.field? name)
    (hKeys : keyIssues kind.modelNames a = [] → keyIssues kind.modelNames b = [])
    (hFail : Checked.Turns refused fail fail') :
    Checked.Turns refused (failableStep kind a fail) (failableStep kind b fail') := by
  cases kind with
  | notify | getUrl | postUrl | extractCapture | readText | appendText =>
      simp only [StepKind.ownNames, List.forall_mem_cons] at hFields
      simp only [failableStep, required, optional, hFields]
      exact ((Checked.Turns.refl _).seq hFail).keeping hKeys
  | _ => cases hKind

theorem step_of_compare (h : a.field? "kind" = some (.text StepKind.compareVar.name)) :
    step (.map a) = (compareStep a (stepsField a "if_true") (stepsField a "if_false")).within
      (.name StepKind.compareVar.name) :=
  step_of_kind h

theorem step_of_leaf (hFailable : kind.isFailable = false) (hCompare : kind ≠ .compareVar)
    (h : a.field? "kind" = some (.text kind.name)) :
    step (.map a) = (leafStep kind a).within (.name kind.name) := by
  rw [step_of_kind h, hFailable, if_neg Bool.false_ne_true, if_neg hCompare]

/-- A comparison turns as its arms. -/
theorem turns_compareStep {first second : Option Value}
    {ifTrue ifTrue' ifFalse ifFalse' : Checked (List Step)}
    (hFields : ∀ name ∈ ["input_var", "compare_with", "compare_for"], b.field? name = a.field? name)
    (hKeys : keyIssues StepKind.compareVar.modelNames a = [] →
      keyIssues StepKind.compareVar.modelNames b = [])
    (hTrue : Checked.Turns first ifTrue ifTrue') (hFalse : Checked.Turns second ifFalse ifFalse') :
    Checked.Turns (first.or second) (compareStep a ifTrue ifFalse)
      (compareStep b ifTrue' ifFalse') := by
  simp only [List.forall_mem_cons] at hFields
  simp only [compareStep, required, optional, hFields]
  exact (((Checked.Turns.refl _).seq hTrue).seq hFalse).keeping hKeys

theorem turns_leafStep (hFailable : kind.isFailable = false) (hCompare : kind ≠ .compareVar)
    (hFields : ∀ name ∈ kind.ownNames, b.field? name = a.field? name)
    (hKeys : keyIssues kind.modelNames a = [] → keyIssues kind.modelNames b = []) :
    Checked.Turns none (leafStep kind a) (leafStep kind b) := by
  cases kind with
  | abortFlow | debugState => exact (Checked.Turns.refl _).keeping hKeys
  | sleep | setVariable =>
      simp only [StepKind.ownNames, List.forall_mem_cons] at hFields
      simp only [leafStep, required, optional, hFields]
      exact (Checked.Turns.refl _).keeping hKeys
  | compareVar => exact absurd rfl hCompare
  | _ => cases hFailable

theorem failField_of_map {entries : Entries} (h : a.field? "fail" = some (.map entries)) :
    failField a = (failSpec entries (stepsField entries "fallback")).within (.name "fail") := by
  rw [failField]
  split
  · rename_i hNone
    cases hNone.symm.trans h
  · rename_i fields hSome
    cases hSome.symm.trans h
    rfl
  · rename_i v hNoMap hOther
    exact (hNoMap _ (Option.some.inj (hOther.symm.trans h))).elim

theorem failField_of_failValue {retries interval : Option Value} {fallback : List Value}
    (h : a.field? "fail" = some (.map (Document.failEntries retries interval fallback))) :
    failField a = (failSpec (Document.failEntries retries interval fallback)
      ((stepList (.list fallback)).within (.name "fallback"))).within (.name "fail") := by
  have hField : (Document.failEntries retries interval fallback).field? "fallback" =
      some (.list fallback) := by
    cases retries <;> cases interval <;> rfl
  rw [failField_of_map h, stepsField_of_field? hField]

/-- What to do when an operation fails turns as the fallback. -/
theorem turns_failField {retries interval : Option Value} {fallback fallback' : List Value}
    (ha : a.field? "fail" = some (.map (Document.failEntries retries interval fallback)))
    (hb : b.field? "fail" = some (.map (Document.failEntries retries interval fallback')))
    (hSteps : Checked.Turns refused (stepList (.list fallback)) (stepList (.list fallback'))) :
    Checked.Turns refused (failField a) (failField b) := by
  have hFields : ∀ steps, (Document.failEntries retries interval steps).field? "retries" = retries ∧
      (Document.failEntries retries interval steps).field? "retry_interval" = interval ∧
      keyIssues ["retries", "retry_interval", "fallback"]
        (Document.failEntries retries interval steps) = [] := by
    intro steps
    cases retries <;> cases interval <;> exact ⟨rfl, rfl, rfl⟩
  rw [failField_of_failValue ha, failField_of_failValue hb]
  refine Checked.Turns.within _ ?_
  simp only [failSpec, optional, hFields]
  exact ((Checked.Turns.refl _).seq (hSteps.within _)).keeping fun _ => (hFields _).2.2

end Schema

namespace Document

variable {kind : StepKind} {a b c : Entries} {k : Value} {name other : String}

theorem field?_putOptional (entries : Entries) (name : String) (v : Option Value) (other : String) :
    (putOptional entries name v).field? other =
      if name = other then v.or (entries.field? other) else entries.field? other := by
  cases v with
  | none => exact (ite_self _).symm
  | some v => exact Entries.field?_putField entries name v other

theorem mem_keys_putOptional {entries : Entries} {v : Option Value} :
    k ∈ (putOptional entries name v).keys ↔ k ∈ entries.keys ∨ v.isSome ∧ k = .text name := by
  cases v with
  | none => simp [putOptional]
  | some v => simp [putOptional, Entries.mem_keys_putField]

/-- Two lots of fields that agree but for the names under which reading puts values of its own. -/
structure Agree (kind : StepKind) (a b : Entries) : Prop where
  fields : ∀ name, name ∉ kind.overwrittenNames → b.field? name = a.field? name
  keys : ∀ k, (∀ name ∈ kind.overwrittenNames, k ≠ .text name) → (k ∈ b.keys ↔ k ∈ a.keys)

theorem Agree.refl (kind : StepKind) (a : Entries) : Agree kind a a := ⟨fun _ _ => rfl, fun _ _ => .rfl⟩

theorem Agree.symm (h : Agree kind a b) : Agree kind b a :=
  ⟨fun name hName => (h.fields name hName).symm, fun k hKey => (h.keys k hKey).symm⟩

theorem Agree.trans (h : Agree kind a b) (hNext : Agree kind b c) : Agree kind a c :=
  ⟨fun name hName => (hNext.fields name hName).trans (h.fields name hName),
    fun k hKey => (hNext.keys k hKey).trans (h.keys k hKey)⟩

/-- A key is one of the names under which reading puts values of its own, or it is there as before. -/
theorem Agree.keys_cases (h : Agree kind a b) (k : Value) :
    (∃ name ∈ kind.overwrittenNames, k = .text name) ∨ (k ∈ b.keys ↔ k ∈ a.keys) := by
  by_cases hOver : ∃ name ∈ kind.overwrittenNames, k = .text name
  · exact .inl hOver
  · exact .inr (h.keys k fun name hName hKey => hOver ⟨name, hName, hKey⟩)

variable {place : String} {refused : Option Value} {interval headers : Option Value}
  {fallback : List Value}

theorem mem_keys_failableEntries :
    k ∈ (failableEntries kind a interval fallback headers).keys ↔
      ((((k ∈ a.keys ∧ k ≠ .text "retries") ∧ k ≠ .text "retry_interval") ∧
        k ≠ .text "upon_failure") ∨ k = .text "fail" ∨ headers.isSome ∧ k = .text "headers") ∨
          k = .text "kind" := by
  simp only [failableEntries, Entries.mem_keys_putField, mem_keys_putOptional,
    Entries.mem_keys_eraseField, or_assoc]

theorem field?_kind_failableEntries :
    (failableEntries kind a interval fallback headers).field? "kind" = some (.text kind.name) := by
  simp [failableEntries]

theorem field?_fail_failableEntries :
    (failableEntries kind a interval fallback headers).field? "fail" =
      some (.map (failEntries (a.field? "retries") interval fallback)) := by
  simp [failableEntries, field?_putOptional]

theorem field?_failableEntries (hKind : kind.isFailable = true) (h : name ∈ kind.ownNames) :
    (failableEntries kind a interval fallback headers).field? name =
      if "headers" = name then headers.or (a.field? name) else a.field? name := by
  have hOther : "kind" ≠ name ∧ "fail" ≠ name ∧ "retries" ≠ name ∧ "retry_interval" ≠ name ∧
      "upon_failure" ≠ name := by
    refine ⟨?_, ?_, ?_, ?_, ?_⟩ <;>
    · rintro rfl
      revert h
      cases kind <;> decide
  simp only [failableEntries, Entries.field?_putField, field?_putOptional, Entries.field?_eraseField,
    hOther, if_false]

/-- Nothing of a body whose operation can fail but its own fields and its budget is looked at. -/
theorem Agree.of_failable (h : Agree kind a b) (hKind : kind.isFailable = true) :
    ∀ name ∈ "retries" :: "retry_interval" :: "headers" :: kind.ownNames,
      b.field? name = a.field? name := by
  intro name hMem
  refine h.fields name ?_
  revert name
  cases kind with
  | notify | getUrl | postUrl | extractCapture | readText | appendText => decide
  | _ => cases hKind

theorem keys_failableEntries (h : Agree kind a b) (hKind : kind.isFailable = true)
    {fallback' : List Value} :
    k ∈ (failableEntries kind b interval fallback' headers).keys ↔
      k ∈ (failableEntries kind a interval fallback headers).keys := by
  have hNames : kind.overwrittenNames = ["kind", "upon_failure", "fail"] := by
    cases kind with
    | notify | getUrl | postUrl | extractCapture | readText | appendText => rfl
    | _ => cases hKind
  rw [mem_keys_failableEntries, mem_keys_failableEntries]
  rcases h.keys_cases k with ⟨name, hName, rfl⟩ | hSame
  · simp only [hNames, List.mem_cons, List.not_mem_nil, or_false] at hName
    rcases hName with rfl | rfl | rfl <;> simp
  · rw [hSame]

/-- A step whose operation can fail turns as its fallback if what it holds else stays. -/
theorem turns_failableEntries_of_fields {fallback' : List Value} (hKind : kind.isFailable = true)
    (hRetries : b.field? "retries" = a.field? "retries")
    (hOwn : ∀ name ∈ kind.ownNames, (failableEntries kind b interval fallback' headers).field? name =
      (failableEntries kind a interval fallback headers).field? name)
    (hKeys : ∀ k, k ∈ (failableEntries kind b interval fallback' headers).keys ↔
      k ∈ (failableEntries kind a interval fallback headers).keys)
    (hSteps : Schema.Checked.Turns refused
      (Schema.stepList (.list fallback)) (Schema.stepList (.list fallback'))) :
    Schema.Checked.Turns refused
      (Schema.step (.map (failableEntries kind a interval fallback headers)))
      (Schema.step (.map (failableEntries kind b interval fallback' headers))) := by
  have hFail : Schema.Checked.Turns refused
      (Schema.failField (failableEntries kind a interval fallback headers))
      (Schema.failField (failableEntries kind b interval fallback' headers)) := by
    refine Schema.turns_failField field?_fail_failableEntries ?_ hSteps
    rw [field?_fail_failableEntries, hRetries]
  rw [Schema.step_of_kind field?_kind_failableEntries, Schema.step_of_kind field?_kind_failableEntries,
    if_pos hKind, if_pos hKind]
  exact (Schema.turns_failableStep hKind hOwn (Schema.keyIssues_eq_nil_congr hKeys).mpr hFail).within _

/-- A step whose operation can fail turns as its fallback if its other fields stay. -/
theorem turns_failableEntries {fallback' : List Value} (hKind : kind.isFailable = true)
    (h : Agree kind a b) (hSteps : Schema.Checked.Turns refused
      (Schema.stepList (.list fallback)) (Schema.stepList (.list fallback'))) :
    Schema.Checked.Turns refused
      (Schema.step (.map (failableEntries kind a interval fallback headers)))
      (Schema.step (.map (failableEntries kind b interval fallback' headers))) := by
  have hFields := h.of_failable hKind
  refine turns_failableEntries_of_fields hKind (hFields "retries" (by simp)) (fun name hMem => ?_)
    (fun _ => keys_failableEntries h hKind) hSteps
  rw [field?_failableEntries hKind hMem, field?_failableEntries hKind hMem, hFields name (by simp [hMem])]

theorem headersOf_congr {a b : Entries} (place : String)
    (h : kind = .postUrl → b.field? "headers" = a.field? "headers") :
    headersOf place kind b = headersOf place kind a := by
  rw [headersOf, headersOf]
  split
  · rename_i hPost
    rw [h hPost]
  · rfl

theorem durationField_congr (place : String) (h : b.field? name = a.field? name) :
    durationField place name b = durationField place name a := by
  rw [durationField, durationField, h]

theorem durationOf_congr (place : String)
    (h : kind = .sleep → b.field? "duration" = a.field? "duration") :
    durationOf place kind b = durationOf place kind a := by
  rw [durationOf, durationOf]
  split
  · rename_i hSleep
    exact durationField_congr place (h hSleep)
  · rfl

/-- A list of steps under a name in a body is read and turns. -/
def TurnsNested (refused : Option Value) (body body' : Entries) (name : String) : Prop :=
  ∀ place steps, normalStepsField body name place = .ok steps →
    ∃ steps', normalStepsField body' name place = .ok steps' ∧
      Schema.Checked.Turns refused (Schema.stepList (.list steps)) (Schema.stepList (.list steps'))

/-- The body of a step is read and turns. -/
def TurnsBody (refused : Option Value) (kind : StepKind) (body body' : Entries) : Prop :=
  ∀ place n, normalBody kind body place = .ok n →
    ∃ n', normalBody kind body' place = .ok n' ∧
      Schema.Checked.Turns refused (Schema.step n) (Schema.step n')

/-- The fields of a body stay but for the names under which reading puts values of its own. -/
def Keeps (kind : StepKind) (body body' : Entries) : Prop :=
  ∀ place fields, normalFields place kind body = .ok fields →
    ∃ fields', normalFields place kind body' = .ok fields' ∧ Agree kind fields fields'

theorem turnsBody_failable {body body' : Entries} (hKind : kind.isFailable = true)
    (hKeeps : Keeps kind body body') (hNested : TurnsNested refused body body' "upon_failure") :
    TurnsBody refused kind body body' := by
  intro place n hNormal
  obtain ⟨fields, hFields, interval, hInterval, fallback, hFallback, headers, hHeaders, rfl⟩ :=
    (normalBody_failable_iff hKind).mp hNormal
  obtain ⟨fields', hFields', hAgree⟩ := hKeeps place fields hFields
  obtain ⟨fallback', hFallback', hTurns⟩ := hNested _ _ hFallback
  have hNames := hAgree.of_failable hKind
  have hInterval' := (durationField_congr place (hNames "retry_interval" (by simp))).trans hInterval
  have hHeaders' := (headersOf_congr place fun _ => hNames "headers" (by simp)).trans hHeaders
  exact ⟨_, (normalBody_failable_iff hKind).mpr ⟨fields', hFields', interval, hInterval', fallback',
    hFallback', headers, hHeaders', rfl⟩, turns_failableEntries hKind hAgree hTurns⟩

theorem field?_compareEntries (a : Entries) (taken other : List Value) :
    let entries := compareEntries a taken other
    entries.field? "kind" = some (.text StepKind.compareVar.name) ∧
      entries.field? "if_true" = some (.list taken) ∧
      entries.field? "if_false" = some (.list other) ∧
      ∀ name ∈ ["input_var", "compare_with", "compare_for"],
        entries.field? name = a.field? name := by
  simp [compareEntries]

theorem mem_keys_compareEntries {taken other : List Value} :
    k ∈ (compareEntries a taken other).keys ↔
      ((k ∈ a.keys ∨ k = .text "if_true") ∨ k = .text "if_false") ∨ k = .text "kind" := by
  rw [compareEntries, Entries.mem_keys_putField, Entries.mem_keys_putField,
    Entries.mem_keys_putField]

theorem keys_compareEntries {taken taken' other other' : List Value} (h : Agree .compareVar a b) :
    k ∈ (compareEntries b taken' other').keys ↔ k ∈ (compareEntries a taken other).keys := by
  have hNames : StepKind.compareVar.overwrittenNames = ["kind", "if_true", "if_false"] := rfl
  rw [mem_keys_compareEntries, mem_keys_compareEntries]
  rcases h.keys_cases k with ⟨name, hName, rfl⟩ | hSame
  · simp only [hNames, List.mem_cons, List.not_mem_nil, or_false] at hName
    rcases hName with rfl | rfl | rfl <;> simp
  · rw [hSame]

theorem turns_compareEntries {first second : Option Value} {taken taken' other other' : List Value}
    (h : Agree .compareVar a b)
    (hTaken : Schema.Checked.Turns first
      (Schema.stepList (.list taken)) (Schema.stepList (.list taken')))
    (hOther : Schema.Checked.Turns second
      (Schema.stepList (.list other)) (Schema.stepList (.list other'))) :
    Schema.Checked.Turns (first.or second) (Schema.step (.map (compareEntries a taken other)))
      (Schema.step (.map (compareEntries b taken' other'))) := by
  obtain ⟨hKind, hTrue, hFalse, hRest⟩ := field?_compareEntries a taken other
  obtain ⟨hKind', hTrue', hFalse', hRest'⟩ := field?_compareEntries b taken' other'
  have hFields : ∀ name ∈ ["input_var", "compare_with", "compare_for"],
      (compareEntries b taken' other').field? name = (compareEntries a taken other).field? name := by
    intro name hMem
    rw [hRest name hMem, hRest' name hMem]
    refine h.fields name ?_
    revert name
    decide
  have hKeys : Schema.keyIssues StepKind.compareVar.modelNames (compareEntries a taken other) = [] →
      Schema.keyIssues StepKind.compareVar.modelNames (compareEntries b taken' other') = [] :=
    (Schema.keyIssues_eq_nil_congr fun _ => keys_compareEntries h).mpr
  rw [Schema.step_of_compare hKind, Schema.step_of_compare hKind', Schema.stepsField_of_field? hTrue,
    Schema.stepsField_of_field? hFalse, Schema.stepsField_of_field? hTrue',
    Schema.stepsField_of_field? hFalse']
  exact (Schema.turns_compareStep hFields hKeys (hTaken.within _) (hOther.within _)).within _

variable {seconds : Option Value}

theorem field?_leafEntries (kind : StepKind) (a : Entries) (seconds : Option Value) :
    let entries := leafEntries kind a seconds
    entries.field? "kind" = some (.text kind.name) ∧
      ∀ name ∈ kind.ownNames, entries.field? name =
        if "duration" = name then seconds.or (a.field? name) else a.field? name := by
  have hOwn : "kind" ∉ kind.ownNames := by
    cases kind <;> decide
  refine ⟨by simp [leafEntries], fun name hMem => ?_⟩
  have hKind : "kind" ≠ name := fun h => hOwn (h ▸ hMem)
  rw [leafEntries, Entries.field?_putField, if_neg hKind, field?_putOptional]

theorem mem_keys_leafEntries :
    k ∈ (leafEntries kind a seconds).keys ↔
      (k ∈ a.keys ∨ seconds.isSome ∧ k = .text "duration") ∨ k = .text "kind" := by
  rw [leafEntries, Entries.mem_keys_putField, mem_keys_putOptional]

theorem keys_leafEntries (h : Agree kind a b) (hNames : kind.overwrittenNames = ["kind"]) :
    k ∈ (leafEntries kind b seconds).keys ↔ k ∈ (leafEntries kind a seconds).keys := by
  rw [mem_keys_leafEntries, mem_keys_leafEntries]
  rcases h.keys_cases k with ⟨name, hName, rfl⟩ | hSame
  · rw [hNames, List.mem_singleton] at hName
    simp [hName]
  · rw [hSame]

theorem turns_leafEntries (hFailable : kind.isFailable = false) (hCompare : kind ≠ .compareVar)
    (h : Agree kind a b) :
    Schema.Checked.Turns none (Schema.step (.map (leafEntries kind a seconds)))
      (Schema.step (.map (leafEntries kind b seconds))) := by
  obtain ⟨hKind, hFields⟩ := field?_leafEntries kind a seconds
  obtain ⟨hKind', hFields'⟩ := field?_leafEntries kind b seconds
  have hNames : kind.overwrittenNames = ["kind"] ∧ "kind" ∉ kind.ownNames := by
    cases kind with
    | abortFlow | debugState | sleep | setVariable => exact ⟨rfl, by decide⟩
    | compareVar => exact absurd rfl hCompare
    | _ => cases hFailable
  have hOwn : ∀ name ∈ kind.ownNames,
      (leafEntries kind b seconds).field? name = (leafEntries kind a seconds).field? name := by
    intro name hMem
    have hName : name ∉ kind.overwrittenNames := by
      rw [hNames.1, List.mem_singleton]
      rintro rfl
      exact hNames.2 hMem
    rw [hFields name hMem, hFields' name hMem, h.fields name hName]
  have hKeys : Schema.keyIssues kind.modelNames (leafEntries kind a seconds) = [] →
      Schema.keyIssues kind.modelNames (leafEntries kind b seconds) = [] :=
    (Schema.keyIssues_eq_nil_congr fun _ => keys_leafEntries h hNames.1).mpr
  rw [Schema.step_of_leaf hFailable hCompare hKind, Schema.step_of_leaf hFailable hCompare hKind']
  exact (Schema.turns_leafStep hFailable hCompare hOwn hKeys).within _

theorem normalStepsField_of_none {body : Entries} (h : body.field? name = none) (place : String) :
    normalStepsField body name place = .ok [] := by
  rw [normalStepsField]
  split
  · rename_i v hSome
    cases h.symm.trans hSome
  · rfl

theorem normalStepsField_congr (place : String) (h : b.field? name = a.field? name) :
    normalStepsField b name place = normalStepsField a name place := by
  cases hField : a.field? name with
  | some v => rw [normalStepsField_of_field? hField, normalStepsField_of_field? (h.trans hField)]
  | none => rw [normalStepsField_of_none hField, normalStepsField_of_none (h.trans hField)]

variable {body body' : Entries}

/-- A list of steps that stays is read as before. -/
theorem turnsNested_of_field? (h : body'.field? name = body.field? name) :
    TurnsNested none body body' name := fun place steps hSteps =>
  ⟨steps, (normalStepsField_congr place h).trans hSteps, .refl _⟩

theorem turnsBody_compareVar {first second : Option Value} (hKeeps : Keeps .compareVar body body')
    (hTrue : TurnsNested first body body' "if_true")
    (hFalse : TurnsNested second body body' "if_false") :
    TurnsBody (first.or second) .compareVar body body' := by
  intro place n hNormal
  obtain ⟨fields, hFields, taken, hTaken, other, hOther, rfl⟩ := normalBody_compare_iff.mp hNormal
  obtain ⟨fields', hFields', hAgree⟩ := hKeeps place fields hFields
  obtain ⟨taken', hTaken', hTurnsTrue⟩ := hTrue _ _ hTaken
  obtain ⟨other', hOther', hTurnsFalse⟩ := hFalse _ _ hOther
  exact ⟨_, normalBody_compare_iff.mpr ⟨fields', hFields', taken', hTaken', other', hOther', rfl⟩,
    turns_compareEntries hAgree hTurnsTrue hTurnsFalse⟩

theorem turnsBody_leaf (hFailable : kind.isFailable = false) (hCompare : kind ≠ .compareVar)
    (hKeeps : Keeps kind body body') : TurnsBody none kind body body' := by
  intro place n hNormal
  obtain ⟨fields, hFields, seconds, hSeconds, rfl⟩ :=
    (normalBody_leaf_iff hFailable hCompare).mp hNormal
  obtain ⟨fields', hFields', hAgree⟩ := hKeeps place fields hFields
  have hDuration : kind = .sleep → fields'.field? "duration" = fields.field? "duration" := by
    rintro rfl
    exact hAgree.fields "duration" (by decide)
  have hSeconds' := (durationOf_congr place hDuration).trans hSeconds
  exact ⟨_, (normalBody_leaf_iff hFailable hCompare).mpr ⟨fields', hFields', seconds, hSeconds', rfl⟩,
    turns_leafEntries hFailable hCompare hAgree⟩

/-- A body turns as one of the lists of steps in it if its other fields stay. -/
theorem turnsBody_of_nested (hName : name ∈ kind.nestedNames) (hKeeps : Keeps kind body body')
    (hNested : TurnsNested refused body body' name)
    (hOthers : ∀ other, other ≠ name → body'.field? other = body.field? other) :
    TurnsBody refused kind body body' := by
  rcases kind.cases_of_nestedNames with ⟨hFailable, hNames⟩ | rfl | ⟨-, hNames⟩
  · rw [hNames, List.mem_singleton] at hName
    exact turnsBody_failable hFailable hKeeps (hName ▸ hNested)
  · obtain ⟨f, hMem, rfl⟩ := List.mem_map.mp hName
    simp only [StepKind.nestedFields, List.mem_cons, List.not_mem_nil, or_false] at hMem
    rcases hMem with rfl | rfl
    · have hOther := turnsNested_of_field? (hOthers "if_false" (by decide))
      rw [← refused.or_none]
      exact turnsBody_compareVar hKeeps hNested hOther
    · have hOther := turnsNested_of_field? (hOthers "if_true" (by decide))
      exact turnsBody_compareVar hKeeps hOther hNested
  · rw [hNames] at hName
    exact absurd hName List.not_mem_nil

/-- A body stays if its fields and its lists of steps do. -/
theorem turnsBody_of_keeps (hKeeps : Keeps kind body body')
    (hNested : ∀ name ∈ kind.nestedNames, body'.field? name = body.field? name) :
    TurnsBody none kind body body' := by
  rcases kind.cases_of_nestedNames with ⟨hFailable, hNames⟩ | rfl | ⟨⟨hFailable, hCompare⟩, -⟩
  · have hName : "upon_failure" ∈ kind.nestedNames := hNames ▸ List.mem_singleton_self _
    exact turnsBody_failable hFailable hKeeps (turnsNested_of_field? (hNested _ hName))
  · have hTrue := turnsNested_of_field? (hNested "if_true" (by decide))
    have hFalse := turnsNested_of_field? (hNested "if_false" (by decide))
    exact turnsBody_compareVar hKeeps hTrue hFalse
  · exact turnsBody_leaf hFailable hCompare hKeeps

end Document

end Flowline
