import Flowline.Proofs.Duration.Texts
import Flowline.Proofs.Flow.Loading
import Flowline.Proofs.Flow.Strictness
import Flowline.Proofs.Schema.Issues

/-!
The normal forms of documents. Reading a document lets foreign keys and plain values through, but the
shape of a step is always that of the model: a known kind, and steps wherever the model has steps. So the
model never finds a step or a trigger whose kind it cannot tell.
-/

namespace Flowline

/-- A number of seconds that a document gives is a duration. -/
theorem Duration.isDuration_of_ofValue {v : Value} {x : Binary64} (h : ofValue v = .ok x) :
    x.IsDuration := by
  unfold ofValue at h
  split at h
  · cases h
  · dsimp only at h
    split at h
    · exact (checked_eq_ok.mp h).2
    · split at h <;> cases h
  · exact (checked_eq_ok.mp h).2
  · unfold ofText at h
    dsimp only at h
    split at h
    · cases h
    · split at h
      · exact (checked_eq_ok.mp h).2
      · split at h
        · cases h
        · split at h
          · exact (checked_eq_ok.mp h).2
          · cases h
  · cases h
  · cases h

namespace Document

variable {place : String} {v n : Value}

/-- A value that is a duration if it is there. -/
def IsPause (v : Option Value) : Prop := ∀ w, v = some w → ∃ x : Binary64, w = .real x ∧ x.IsDuration

/-- A step in normal form: a mapping of a known kind. If the operation can fail, it tells what to do then
by no more than a policy of retries and a list of such steps; the arms of a comparison are lists of them
too. All pauses are durations. -/
inductive NormalStep : Value → Prop where
  | failable {kind : StepKind} {entries fail : Entries} {fallback : List Value}
      (hFailable : kind.isFailable = true) (hKind : entries.field? "kind" = some (.text kind.name))
      (hFail : entries.field? "fail" = some (.map fail))
      (keys : ∀ key ∈ fail.keys, key ∈ ["retries", "retry_interval", "fallback"].map Value.text)
      (pause : IsPause (fail.field? "retry_interval"))
      (hFallback : fail.field? "fallback" = some (.list fallback))
      (parts : ∀ step ∈ fallback, NormalStep step) : NormalStep (.map entries)
  | compare {entries : Entries} {ifTrue ifFalse : List Value}
      (hKind : entries.field? "kind" = some (.text StepKind.compareVar.name))
      (hTrue : entries.field? "if_true" = some (.list ifTrue))
      (hFalse : entries.field? "if_false" = some (.list ifFalse))
      (partsTrue : ∀ step ∈ ifTrue, NormalStep step)
      (partsFalse : ∀ step ∈ ifFalse, NormalStep step) : NormalStep (.map entries)
  | leaf {kind : StepKind} {entries : Entries} (hFailable : kind.isFailable = false)
      (hCompare : kind ≠ .compareVar) (hKind : entries.field? "kind" = some (.text kind.name))
      (pause : kind = .sleep → IsPause (entries.field? "duration")) : NormalStep (.map entries)

/-! ## Reading of steps -/

theorem isPause_of_durationField {name : String} {entries : Entries} {found : Option Value}
    (h : durationField place name entries = .ok found) :
    IsPause found ∧ (found = none → entries.field? name = none) := by
  unfold durationField at h
  split at h
  · rename_i w hField
    unfold duration at h
    split at h
    · rename_i seconds hSeconds
      cases h
      refine ⟨fun w hSome => ⟨seconds, (Option.some.inj hSome).symm, ?_⟩, fun hNone => by cases hNone⟩
      exact Duration.isDuration_of_ofValue hSeconds
    · cases h
  · cases h
    exact ⟨fun w hSome => (by cases hSome), fun _ => ‹_›⟩

/-- The field that tells what to do when an operation fails holds nothing else. -/
theorem failEntries_spec (retries interval : Option Value) (fallback : List Value) :
    (∀ key ∈ (failEntries retries interval fallback).keys,
      key ∈ ["retries", "retry_interval", "fallback"].map Value.text) ∧
    (failEntries retries interval fallback).field? "retry_interval" = interval ∧
    (failEntries retries interval fallback).field? "fallback" = some (.list fallback) := by
  refine ⟨fun key hMem => ?_, ?_⟩
  · rw [failEntries, Entries.keys_append, List.mem_append, mem_keys_putOptional,
      mem_keys_putOptional] at hMem
    rcases hMem with ((hNone | ⟨-, rfl⟩) | ⟨-, rfl⟩) | hLast
    · cases hNone
    · exact List.mem_cons_self
    · exact .tail _ List.mem_cons_self
    · rw [List.mem_singleton.mp hLast]
      exact .tail _ (.tail _ List.mem_cons_self)
  · cases retries <;> cases interval <;> exact ⟨rfl, rfl⟩

theorem normalStep_of_body {kind : StepKind} {body : Entries}
    (hNested : ∀ name ∈ kind.nestedNames, ∀ under steps, normalStepsField body name under = .ok steps →
      ∀ step ∈ steps, NormalStep step)
    (h : normalBody kind body place = .ok n) : NormalStep n := by
  rcases kind.cases_of_nestedNames with ⟨hFailable, hNames⟩ | rfl | ⟨⟨hFailable, hCompare⟩, hNames⟩
  · obtain ⟨fields, -, interval, hInterval, fallback, hFallback, headers, -, rfl⟩ :=
      (normalBody_failable_iff hFailable).mp h
    obtain ⟨hKeys, hPause, hSteps⟩ := failEntries_spec (fields.field? "retries") interval fallback
    refine .failable hFailable field?_kind_failableEntries field?_fail_failableEntries hKeys ?_ hSteps
      (hNested "upon_failure" (by simp [hNames]) _ _ hFallback)
    rw [hPause]
    exact (isPause_of_durationField hInterval).1
  · obtain ⟨fields, -, ifTrue, hTrue, ifFalse, hFalse, rfl⟩ := normalBody_compare_iff.mp h
    obtain ⟨hKind, hFieldTrue, hFieldFalse, -⟩ := field?_compareEntries fields ifTrue ifFalse
    exact .compare hKind hFieldTrue hFieldFalse
      (hNested "if_true" List.mem_cons_self _ _ hTrue)
      (hNested "if_false" (.tail _ List.mem_cons_self) _ _ hFalse)
  · obtain ⟨fields, -, seconds, hSeconds, rfl⟩ := (normalBody_leaf_iff hFailable hCompare).mp h
    obtain ⟨hKind, hOwn⟩ := field?_leafEntries kind fields seconds
    refine .leaf hFailable hCompare hKind ?_
    rintro rfl
    obtain ⟨hPause, hNone⟩ := isPause_of_durationField (hSeconds : durationField _ _ _ = _)
    rw [hOwn "duration" List.mem_cons_self, if_pos rfl]
    cases seconds with
    | none => rwa [hNone rfl]
    | some v => exact hPause

mutual

/-- Steps that are read are in normal form, by induction on the value that holds them. -/
theorem normalStep_of_normalSteps (v : Value) (place : String) :
    ∀ steps, normalSteps v place = .ok steps → ∀ step ∈ steps, NormalStep step := by
  intro steps h
  unfold normalSteps at h
  split at h
  · cases h
    exact List.forall_mem_nil _
  · exact normalStep_of_normalItems _ place 0 steps h
  · cases h
  · cases h
termination_by (sizeOf v, 0)

theorem normalStep_of_normalItems (items : List Value) (place : String) (index : Nat) :
    ∀ steps, normalItems items place index = .ok steps → ∀ step ∈ steps, NormalStep step := by
  intro steps h
  unfold normalItems at h
  split at h
  · cases h
    exact List.forall_mem_nil _
  · rename_i item rest
    obtain ⟨first, hFirst, h⟩ := bind_eq_ok.mp h
    obtain ⟨others, hOthers, h⟩ := bind_eq_ok.mp h
    cases h
    exact List.forall_mem_cons.mpr ⟨normalStep_of_normalStep item _ first hFirst,
      normalStep_of_normalItems rest place (index + 1) others hOthers⟩
termination_by (sizeOf items, 0)

theorem normalStep_of_normalStep (v : Value) (place : String) :
    ∀ n, normalStep v place = .ok n → NormalStep n := by
  intro n h
  unfold normalStep at h
  split at h
  · split at h
    · cases h
    · exact normalStep_of_normalBody _ [] place n h
  · cases h
  · obtain ⟨text, -, h⟩ := bind_eq_ok.mp h
    split at h
    · cases h
    · split at h
      · exact normalStep_of_normalBody _ [] place n h
      · exact normalStep_of_normalBody _ _ place n h
      · cases h
      · cases h
  · cases h
  · cases h
termination_by (sizeOf v, 0)
decreasing_by
  · rename_i name hText _ _ _ _
    have hSize := congrArg sizeOf hText
    cases name
    simp only [Value.text.sizeOf_spec, String.ofByteArray.sizeOf_spec] at hSize
    simp only [List.nil.sizeOf_spec]
    exact Prod.Lex.left _ _ (by omega)
  all_goals decreasing_tactic

theorem normalStep_of_normalBody (kind : StepKind) (body : Entries) (place : String) :
    ∀ n, normalBody kind body place = .ok n → NormalStep n := fun _ =>
  normalStep_of_body fun name _ under => normalStep_of_normalStepsField body name under
termination_by (sizeOf body, 2)

theorem normalStep_of_normalStepsField (body : Entries) (name place : String) :
    ∀ steps, normalStepsField body name place = .ok steps → ∀ step ∈ steps, NormalStep step := by
  intro steps h
  unfold normalStepsField at h
  split at h
  · exact normalStep_of_normalSteps _ place steps h
  · cases h
    exact List.forall_mem_nil _
termination_by (sizeOf body, 1)
decreasing_by exact Prod.Lex.left _ _ (Entries.sizeOf_lt_of_field? ‹_›)

end

end Document

/-! ## Checking of normal forms -/

namespace Schema

open Checked (Untagged)
open Document (NormalStep)

theorem untagged_stepList {steps : List Value} (h : ∀ v ∈ steps, (step v).Untagged) :
    (stepList (.list steps)).Untagged := by
  have hChecks : ∀ check ∈ stepChecks steps, check.Untagged := by
    induction steps with
    | nil =>
        rw [stepChecks]
        exact List.forall_mem_nil _
    | cons v rest ih =>
        rw [List.forall_mem_cons] at h
        rw [stepChecks, List.forall_mem_cons]
        exact ⟨h.1, ih h.2⟩
  rw [stepList]
  exact .sequenceFrom hChecks 0

/-- No issue of a step in normal form is about a tag, by induction on the step. -/
theorem untagged_step {v : Value} (h : NormalStep v) : (step v).Untagged := by
  induction h with
  | @failable kind entries fail fallback hFailable hKind hFail keys pause hFallback parts ih =>
      have hSteps : (stepsField fail "fallback").Untagged := by
        rw [stepsField_of_field? hFallback]
        exact (untagged_stepList ih).within _
      rw [step_of_kind hKind, if_pos hFailable, failField_of_map hFail]
      exact (untagged_failableStep ((untagged_failSpec hSteps _).within _) _ _).within _
  | compare hKind hTrue hFalse partsTrue partsFalse ihTrue ihFalse =>
      rw [step_of_compare hKind, stepsField_of_field? hTrue, stepsField_of_field? hFalse]
      exact (untagged_compareStep ((untagged_stepList ihTrue).within _)
        ((untagged_stepList ihFalse).within _) _).within _
  | leaf hFailable hCompare hKind pause =>
      rw [step_of_leaf hFailable hCompare hKind]
      exact (untagged_leafStep _ _).within _

/-- An issue that lies at a field of a flow or below it. -/
def Issue.Under (name : String) (i : Issue) : Prop := i.location.head? = some (.name name)

variable {entries : Entries} {i : Issue} {name : String}

theorem under_of_mem_within {α : Type} {c : Checked α} (h : i ∈ (c.within (.name name)).issues) :
    i.Under name := by
  obtain ⟨own, -, hLocation, -⟩ := Checked.mem_issues_within h
  rw [Issue.Under, hLocation, List.head?_cons]

theorem under_of_mem_optional {α : Type} {absent : α} {check : Value → Checked α}
    (h : i ∈ (optional entries name absent check).issues) : i.Under name := by
  obtain ⟨v, -, hMem⟩ := mem_issues_optional h
  exact under_of_mem_within hMem

theorem under_of_mem_required {α : Type} {check : Value → Checked α}
    (h : i ∈ (required entries name check).issues) : i.Under name := by
  unfold required at h
  split at h <;> exact under_of_mem_within h

/-- An issue of a flow lies under one of its fields and comes from the check of it, or it is about a
key. -/
theorem mem_issues_flowFields (h : i ∈ (flowFields entries).issues) :
    i.Under "name" ∨ i ∈ (optional entries "trigger" none trigger).issues ∨ i.Under "notifiers" ∨
      i ∈ (required entries "steps" stepList).issues ∨
      i ∈ (optional entries "upon_failure" [] stepList).issues ∨
      i ∈ keyIssues ["name", "trigger", "notifiers", "steps", "upon_failure"] entries := by
  rw [flowFields, model, Checked.issues_keeping, Checked.issues_seq, Checked.issues_seq,
    Checked.issues_seq, Checked.issues_seq, Checked.issues_map] at h
  simp only [List.mem_append] at h
  rcases h with ((((hName | hTrigger) | hNotifiers) | hSteps) | hFallback) | hKeys
  · exact .inl (under_of_mem_optional hName)
  · exact .inr (.inl hTrigger)
  · exact .inr (.inr (.inl (under_of_mem_optional hNotifiers)))
  · exact .inr (.inr (.inr (.inl hSteps)))
  · exact .inr (.inr (.inr (.inr (.inl hFallback))))
  · exact .inr (.inr (.inr (.inr (.inr hKeys))))

/-- A duration is refused as an interval if it is zero, and for nothing else. -/
theorem mem_issues_positiveSeconds {x : Binary64} (hDuration : x.IsDuration)
    (h : i ∈ (positiveSeconds (.real x)).issues) : i = ⟨[], .greaterThan 0⟩ := by
  rw [positiveSeconds, real, Checked.andThen, realAtMost_limit hDuration, Checked.andThen,
    realAbove] at h
  split at h
  · cases h
  · exact List.mem_singleton.mp h

/-- The issue of a trigger with an interval of zero, as it stands in a flow. -/
def intervalIssue : Issue :=
  ⟨[.name "trigger", .name "interval", .name "interval"], .greaterThan 0⟩

/-- The only issue of a trigger that repeats is that of its interval, if it has no other keys and its
interval is a duration. -/
theorem eq_intervalIssue (hType : entries.field? "type" = some (.text "interval"))
    (hKeys : keyIssues ["type", "interval"] entries = [])
    (hInterval : Document.IsPause (entries.field? "interval"))
    (h : i ∈ ((trigger (.map entries)).within (.name "trigger")).issues) : i = intervalIssue := by
  have hTrigger : (trigger (.map entries)).issues =
      (optional entries "interval" (.ofInt 1) positiveSeconds).issues.map
        fun own => ⟨.name "interval" :: own.location, own.kind⟩ := by
    simp only [trigger, unionMember, hType, Checked.andThen, tagged?, triggerOfType?, model,
      Checked.issues_within, Checked.issues_map, Checked.issues_keeping, hKeys, List.append_nil]
  rw [Checked.issues_within, hTrigger, List.map_map] at h
  obtain ⟨inner, hInner, rfl⟩ := List.mem_map.mp h
  obtain ⟨v, hField, hInner⟩ := mem_issues_optional hInner
  obtain ⟨x, rfl, hDuration⟩ := hInterval v hField
  rw [Checked.issues_within] at hInner
  obtain ⟨least, hLeast, rfl⟩ := List.mem_map.mp hInner
  rw [mem_issues_positiveSeconds hDuration hLeast]
  rfl

/-- What the checks of a flow say of its steps and of its trigger: no issue there is about a tag, and
none of the trigger is another one than that about the interval. -/
def Issue.Plain (i : Issue) : Prop :=
  (i.Under "steps" ∨ i.Under "upon_failure" ∨ i.Under "trigger" → i.kind.isTagIssue = false) ∧
    (i.Under "trigger" → i = intervalIssue)

/-- An issue under a field that is not the trigger is as it should be if it is about no tag, or if the
field holds no steps. -/
theorem plain_of_under (h : i.Under name) (hTrigger : name ≠ "trigger")
    (hTag : name = "steps" ∨ name = "upon_failure" → i.kind.isTagIssue = false) : i.Plain := by
  have hOther : ∀ {other : String}, i.Under other → name = other := by
    intro other hUnder
    cases h.symm.trans hUnder
    rfl
  refine ⟨?_, fun hUnder => absurd (hOther hUnder) hTrigger⟩
  rintro (hSteps | hFallback | hUnder)
  · exact hTag (.inl (hOther hSteps))
  · exact hTag (.inr (hOther hFallback))
  · exact absurd (hOther hUnder) hTrigger

theorem plain_intervalIssue : intervalIssue.Plain := ⟨fun _ => rfl, fun _ => rfl⟩

/-- Under the name of a field that is there no key is refused. -/
theorem plain_of_mem_keyIssues {fields : List String} (hTrigger : "trigger" ∈ fields)
    (hField : entries.hasField "trigger" = true) (h : i ∈ keyIssues fields entries) : i.Plain := by
  obtain ⟨key, -, hIssue⟩ := mem_keyIssues h
  obtain ⟨hLocation, hKind, hForeign⟩ := keyIssue?_eq_some hIssue
  refine ⟨fun _ => by rcases hKind with hKind | hKind <;> rw [hKind] <;> rfl, fun hUnder => ?_⟩
  rw [Issue.Under, hLocation, List.head?_cons, Option.some_inj] at hUnder
  have hText := eq_text_of_ofKey hUnder rfl
  exact absurd (by rw [hText]; rfl) (hForeign "trigger" (List.mem_filter.mpr ⟨hTrigger, hField⟩))

/-- What is wrong with the names in a flow is told of the flow as a whole. -/
theorem plain_of_mem_wellReferenced {flow : FlowDefinition} (h : i ∈ (wellReferenced flow).issues) :
    i.Plain := by
  have hWhole : i.location = [] := by
    unfold wellReferenced at h
    split at h
    · cases h
    · rw [List.mem_singleton.mp h]
  have hNot (name : String) : ¬ i.Under name := by simp [Issue.Under, hWhole]
  exact ⟨fun hUnder => by simp [hNot] at hUnder, fun hUnder => absurd hUnder (hNot _)⟩

end Schema

namespace Document

variable {place : String} {v n : Value} {i : Schema.Issue}

open Schema (intervalIssue)

/-- A trigger that is read has a known type, and its interval is a duration if it is there. -/
inductive NormalTrigger : Value → Prop where
  | none : NormalTrigger .null
  | once : NormalTrigger (.map [(.text "type", .text "once")])
  | standard : NormalTrigger (.map [(.text "type", .text "interval")])
  | interval {x : Binary64} (hDuration : x.IsDuration) :
      NormalTrigger (.map [(.text "type", .text "interval"), (.text "interval", .real x)])

theorem normalTrigger_spec (h : normalTrigger v place = .ok n) : NormalTrigger n := by
  unfold normalTrigger at h
  split at h
  · cases h
    exact .none
  · obtain ⟨text, -, h⟩ := bind_eq_ok.mp h
    split at h
    · cases h
    · cases h
      exact .once
    · split at h
      · cases h
        exact .standard
      · cases h
        exact .standard
      · obtain ⟨seconds, hSeconds, h⟩ := bind_eq_ok.mp h
        cases h
        unfold duration at hSeconds
        split at hSeconds
        · rename_i x hValue
          cases hSeconds
          exact .interval (Duration.isDuration_of_ofValue hValue)
        · cases hSeconds
  · cases h
  · cases h

/-- A trigger in normal form passes its check, unless its interval is zero. -/
theorem NormalTrigger.issues (h : NormalTrigger n) :
    ∀ i ∈ ((Schema.trigger n).within (.name "trigger")).issues, i = intervalIssue := by
  cases h with
  | none => exact List.forall_mem_nil _
  | once => exact List.forall_mem_nil _
  | standard =>
      refine fun i => Schema.eq_intervalIssue rfl rfl fun v hField => ?_
      cases hField
  | @interval x hDuration =>
      refine fun i => Schema.eq_intervalIssue rfl rfl fun v hField => ?_
      exact ⟨x, (Option.some.inj hField).symm, hDuration⟩

theorem untagged_of_normalSteps {steps : List Value} (h : normalSteps v place = .ok steps) :
    (Schema.stepList (.list steps)).Untagged :=
  Schema.untagged_stepList fun step hStep =>
    Schema.untagged_step (normalStep_of_normalSteps v place steps h step hStep)

theorem untagged_of_stepsOf {given steps : Option Value} (h : stepsOf place given = .ok steps)
    (hValue : steps = some v) : (Schema.stepList v).Untagged := by
  cases given with
  | none =>
      cases h
      cases hValue
  | some w =>
      obtain ⟨list, hList, h⟩ := bind_eq_ok.mp h
      cases h
      cases hValue
      exact untagged_of_normalSteps hList

/-- All issues of the normal form of a document are as the checks of its steps and of its trigger have
them. -/
theorem plain_of_mem_issues {document data : Value} (hData : normalForm document place = .ok data)
    (h : i ∈ (Schema.flow data).issues) : i.Plain := by
  cases document with
  | map entries =>
      obtain ⟨name, -, trigger, hTrigger, steps, hSteps, fallback, hFallback, rfl⟩ :=
        normalForm_iff.mp hData
      obtain ⟨-, hTriggerField, -, hStepsField, hFallbackField⟩ := field?_formEntries entries name
        trigger (notifiersOf (fieldOrNull entries "notifiers")) steps fallback
      rw [or_of_stepsOf hSteps] at hStepsField
      rcases Schema.Checked.mem_issues_andThen h with hFields | ⟨flow, -, hReferences⟩
      · rcases Schema.mem_issues_flowFields hFields with hUnder | hMem | hUnder | hMem | hMem | hMem
        · exact Schema.plain_of_under hUnder (by decide) fun hName => absurd hName (by decide)
        · obtain ⟨v, hField, hMem⟩ := Schema.mem_issues_optional hMem
          cases hTriggerField.symm.trans hField
          rw [(normalTrigger_spec hTrigger).issues i hMem]
          exact Schema.plain_intervalIssue
        · exact Schema.plain_of_under hUnder (by decide) fun hName => absurd hName (by decide)
        · refine Schema.plain_of_under (Schema.under_of_mem_required hMem) (by decide) fun _ => ?_
          refine Schema.untagged_required_of_field? (fun v hField => ?_) i hMem
          exact untagged_of_stepsOf hSteps (hStepsField.symm.trans hField)
        · refine Schema.plain_of_under (Schema.under_of_mem_optional hMem) (by decide) fun _ => ?_
          obtain ⟨v, hField, hMem⟩ := Schema.mem_issues_optional hMem
          cases hFallbackField.symm.trans hField
          exact (untagged_of_normalSteps hFallback).within _ i hMem
        · refine Schema.plain_of_mem_keyIssues (by decide) ?_ hMem
          rw [Entries.hasField, hTriggerField, Option.isSome_some]
      · exact Schema.plain_of_mem_wellReferenced hReferences
  | enclosing isMapping => cases isMapping <;> cases hData
  | _ => cases hData

/-- What the model finds wrong with a document it finds in the normal form of it. -/
theorem exists_normalForm_of_model {document : Value} {under : String} {issues : List Schema.Issue}
    (h : flow document place = .error (.model under issues)) :
    ∃ data, normalForm document place = .ok data ∧ Schema.flow data = .invalid issues := by
  rw [flow] at h
  cases hData : normalForm document place with
  | error e =>
      obtain ⟨part, fault, rfl, -⟩ := failsAs_normalForm document place e hData
      rw [hData] at h
      cases h
  | ok data =>
      refine ⟨data, rfl, ?_⟩
      rw [hData] at h
      cases hCheck : Schema.flow data with
      | valid flow =>
          simp only [bind, Except.bind, hCheck] at h
          cases h
      | invalid found =>
          simp only [bind, Except.bind, hCheck] at h
          cases h
          rfl

/-- Steps that are read are in normal form, wherever they stand in a document. So whatever the model finds
wrong with a document, no issue below its steps or its trigger is about a tag, and none below its trigger
is another one than that about an interval of zero. -/
theorem normal_steps_and_no_tag_issues (document : Value) (place : String) :
    (∀ v under steps, normalSteps v under = .ok steps → ∀ step ∈ steps, NormalStep step) ∧
      ∀ under issues, flow document place = .error (.model under issues) → ∀ i ∈ issues,
        (i.Under "steps" ∨ i.Under "upon_failure" ∨ i.Under "trigger" → i.kind.isTagIssue = false) ∧
          (i.Under "trigger" → i = intervalIssue) := by
  refine ⟨normalStep_of_normalSteps, fun under issues hFlow i hMem => ?_⟩
  obtain ⟨data, hData, hIssues⟩ := exists_normalForm_of_model hFlow
  refine plain_of_mem_issues hData ?_
  rw [hIssues]
  exact hMem

end Document

/-! ## A body with fields of the model -/

namespace Stray

/-- A body that brings a kind and a `fail` field of its own, with one step to fall back on. -/
def body : Entries :=
  [(.text "kind", .int 7), (.text "fail", .text "never"),
    (.text "upon_failure", .list [.text "abort_flow"])]

def steps : Value := .list [.map [(.text "notify", .map body)]]

/-- The fields of the step as its model is checked: neither a notifier nor a message. -/
def entries : Entries :=
  [(.text "kind", .text "notify"),
    (.text "fail", .map [(.text "fallback", .list [.map [(.text "kind", .text "abort_flow")]])])]

def step : Value := .map entries

theorem normalSteps_steps : Document.normalSteps steps "flow.steps" = .ok [step] := by
  have hAbort (place : String) : Document.normalBody .abortFlow [] place =
      .ok (.map [(.text "kind", .text "abort_flow")]) := by
    rw [Document.normalBody_leaf_eq rfl (by decide)]
    rfl
  have hFallback : Document.normalSteps (.list [.text "abort_flow"])
      "flow.steps[0].upon_failure" = .ok [.map [(.text "kind", .text "abort_flow")]] := by
    rw [Document.normalSteps, Document.normalItems, Document.normalItems, Document.normalStep]
    change (Document.normalBody .abortFlow [] "flow.steps[0].upon_failure[0]" >>= _) = _
    rw [hAbort]
    rfl
  have hBody : Document.normalBody .notify body "flow.steps[0]" = .ok step := by
    rw [Document.normalBody_failable_eq rfl]
    change (Document.normalStepsField body "upon_failure" "flow.steps[0].upon_failure" >>= _) = _
    rw [Document.normalStepsField_of_field? rfl, hFallback]
    rfl
  rw [steps, Document.normalSteps, Document.normalItems, Document.normalItems, Document.normalStep]
  change (Document.normalBody .notify body "flow.steps[0]" >>= _) = _
  rw [hBody]
  rfl

/-- The step under a trigger that repeats. -/
def document (x : Binary64) : Value :=
  .map [(.text "trigger", .map [(.text "type", .text "timer"), (.text "interval", .real x)]),
    (.text "steps", steps)]

/-- What is wrong with the document: the interval is zero, and two fields of the step are missing. -/
def issues : List Schema.Issue :=
  [Schema.intervalIssue, ⟨[.name "steps", .index 0, .name "notify", .name "notifier"], .missing⟩,
    ⟨[.name "steps", .index 0, .name "notify", .name "message"], .missing⟩]

variable {x : Binary64}

theorem trigger_refused (hDuration : x.IsDuration) (hZero : Binary64.zero.lt x = false) :
    Schema.trigger (Trigger.model (some (.interval x))) =
      .invalid [⟨[.name "interval", .name "interval"], .greaterThan 0⟩] := by
  have hAbove : Schema.realAbove 0 x = .fail (.greaterThan 0) :=
    if_neg (Binary64.ofInt_zero ▸ Bool.not_eq_true _ ▸ hZero)
  rw [Schema.trigger_interval, Schema.positiveSeconds, Schema.real, Schema.Checked.andThen,
    Schema.realAtMost_limit hDuration, Schema.Checked.andThen, hAbove]
  rfl

theorem stepList_refused : Schema.stepList (.list [step]) =
    .invalid [⟨[.index 0, .name "notify", .name "notifier"], .missing⟩,
      ⟨[.index 0, .name "notify", .name "message"], .missing⟩] := by
  have hAbort : Schema.stepList (.list [.map [(.text "kind", .text "abort_flow")]]) =
      .valid [.abortFlow] := by
    have hKind : StepKind.abortFlow.isFailable = false := rfl
    rw [Schema.stepList, Schema.stepChecks, Schema.stepChecks,
      Schema.step_of_leaf hKind (by decide) rfl]
    rfl
  have hFail : Schema.failField entries = .valid (.standard, [.abortFlow]) := by
    rw [Schema.failField_of_map rfl, Schema.stepsField_of_field? rfl, hAbort, Schema.failSpec]
    generalize RetryPolicy.standard = standard
    rfl
  have hKind : entries.field? "kind" = some (.text StepKind.notify.name) := rfl
  rw [Schema.stepList, Schema.stepChecks, Schema.stepChecks, step, Schema.step_of_kind hKind, hFail]
  rfl

theorem normalForm_document (hDuration : x.IsDuration) :
    Document.normalForm (document x) "flow" =
      .ok (.map [(.text "trigger", Trigger.model (some (.interval x))), (.text "steps", .list [step]),
        (.text "notifiers", .list []), (.text "upon_failure", .list [])]) := by
  have hTrigger : Document.normalTrigger
      (.map [(.text "type", .text "timer"), (.text "interval", .real x)]) "flow.trigger" =
        .ok (Trigger.model (some (.interval x))) := by
    change (Document.duration "flow.trigger.interval" (.real x) >>= _) = _
    rw [Document.duration_real hDuration]
    rfl
  have hSteps : Document.stepsOf "flow.steps" (some steps) = .ok (some (.list [step])) := by
    rw [Document.stepsOf, normalSteps_steps]
    rfl
  have hFallback : Document.normalSteps .null "flow.upon_failure" = .ok [] := by
    rw [Document.normalSteps]
  exact Document.normalForm_iff.mpr ⟨none, rfl, _, hTrigger, _, hSteps, _, hFallback, rfl⟩

theorem refused (hDuration : x.IsDuration) (hZero : Binary64.zero.lt x = false) :
    Document.flow (document x) "flow" = .error (.model "flow" issues) := by
  have hFlow : Schema.flow (.map [(.text "trigger", Trigger.model (some (.interval x))),
      (.text "steps", .list [step]), (.text "notifiers", .list []), (.text "upon_failure", .list [])]) =
        .invalid issues := by
    rw [Schema.flow, Schema.flowFields]
    change ((Schema.model _ _ (FlowDefinition.mk <$> .valid none <*>
      (Schema.trigger (Trigger.model (some (.interval x)))).within (.name "trigger") <*> .valid [] <*>
      (Schema.stepList (.list [step])).within (.name "steps") <*>
      (Schema.stepList (.list [])).within (.name "upon_failure"))).andThen _) = _
    rw [trigger_refused hDuration hZero, stepList_refused, Watch.stepList_nil]
    rfl
  rw [Document.flow, normalForm_document hDuration]
  simp only [bind, Except.bind, hFlow]

end Stray

namespace Document

/-- The kind and the `fail` field of a body are none that its step has, and what the model finds wrong
is the interval and what the step lacks. -/
theorem normal_steps_and_no_tag_issues_stray :
    normalSteps Stray.steps "flow.steps" = .ok [Stray.step] ∧ NormalStep Stray.step ∧
      flow (Stray.document .zero) "flow" = .error (.model "flow" Stray.issues) ∧
      ∀ i ∈ Stray.issues, (i.Under "steps" ∨ i.Under "upon_failure" ∨ i.Under "trigger" →
        i.kind.isTagIssue = false) ∧ (i.Under "trigger" → i = Schema.intervalIssue) := by
  have hDuration : Binary64.zero.IsDuration := by constructor <;> decide +kernel
  have hRefused := Stray.refused hDuration (by decide +kernel)
  obtain ⟨hSteps, hIssues⟩ := normal_steps_and_no_tag_issues (Stray.document .zero) "flow"
  exact ⟨Stray.normalSteps_steps, hSteps _ _ _ Stray.normalSteps_steps _ List.mem_cons_self, hRefused,
    hIssues _ _ hRefused⟩

end Document

end Flowline
