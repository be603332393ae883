import Flowline.Flow.Source
import Flowline.Proofs.Flow.Breaks
import Mathlib.Logic.Relation

/-!
Spellings of a document. Kinds of steps, fields and triggers have several names, a step without fields
needs no mapping, what is left out can be given as null or as an empty list, and a number can stand for
its text. Each replacement of one spelling by another is a relation, anywhere in a tree of steps and in
the document around it; documents that a chain of replacements joins are read alike.
-/

namespace Flowline

/-- A truth value or a number and its text; of an integer, if it can be written. -/
inductive Value.WrittenAs : Value → String → Prop where
  | bool (b : Bool) : WrittenAs (.bool b) (if b then "true" else "false")
  | int (n : Int) (writable : Number.isWritable n = true) : WrittenAs (.int n) (toString n)
  | real (x : Binary64) : WrittenAs (.real x) x.text

namespace Document

/-! ## Replacements -/

/-- An entry in the body of a step in another spelling: under another name of the field, or with the
text of a number in a field that holds a text. -/
inductive EntryRespelled (kind : StepKind) : Value × Value → Value × Value → Prop where
  | name {a b : String} (v : Value) (same : fieldName kind a = fieldName kind b) :
      EntryRespelled kind (.text a, v) (.text b, v)
  | number {name t : String} {v : Value}
      (holdsText : textFields.contains (fieldName kind name) = true) (written : v.WrittenAs t) :
      EntryRespelled kind (.text name, v) (.text name, .text t)

/-- The body of a step in another spelling: with one of its entries respelled, with the text of a number
in one of the headers to post, or with no steps where a list of steps was left out. -/
inductive BodyRespelled (kind : StepKind) : Entries → Entries → Prop where
  | entry {e e' : Value × Value} (before after : Entries) (respelled : EntryRespelled kind e e') :
      BodyRespelled kind (before ++ e :: after) (before ++ e' :: after)
  | header {key v : Value} {t : String} {body body' : Entries} (before after : Entries)
      (posts : kind = .postUrl) (written : v.WrittenAs t)
      (replaces : Entries.Replaces "headers" (.map (before ++ (key, v) :: after))
        (.map (before ++ (key, .text t) :: after)) body body') : BodyRespelled kind body body'
  | absent {name : String} {v : Value} {body body' after : Entries} (holds : name ∈ kind.nestedNames)
      (empty : v = .null ∨ v = .list []) (adds : Entries.Adds (.text name) v after body body') :
      BodyRespelled kind body body'

/-- A step in another spelling: with a mapping for a bare name, under another name of its kind, with its
body respelled, or with a step respelled at whatever depth of its arms and fallbacks. The fields of a
step of an unknown kind are not looked at. -/
inductive StepRespelled : Value → Value → Prop where
  | bare {v : Value} (name : String) (empty : v = .null ∨ v = .map []) :
      StepRespelled (.text name) (.map [(.text name, v)])
  | kind {a b : String} (v : Value) (same : stepKind? a = stepKind? b) :
      StepRespelled (.map [(.text a, v)]) (.map [(.text b, v)])
  | unknown {key : Value} (v w : Value) (unknown : stepKind? key.display = none) :
      StepRespelled (.map [(key, v)]) (.map [(key, w)])
  | body {kind : StepKind} {key : Value} {body body' : Entries}
      (known : stepKind? key.display = some kind) (respelled : BodyRespelled kind body body') :
      StepRespelled (.map [(key, .map body)]) (.map [(key, .map body')])
  | nested {kind : StepKind} {key item item' : Value} {name : String} {body body' : Entries}
      (before after : List Value) (known : stepKind? key.display = some kind)
      (holds : name ∈ kind.nestedNames)
      (replaces : Entries.Replaces name (.list (before ++ item :: after))
        (.list (before ++ item' :: after)) body body')
      (inner : StepRespelled item item') :
      StepRespelled (.map [(key, .map body)]) (.map [(key, .map body')])

/-- A trigger in another spelling: with another name of the type that repeats, or with null where the
interval was left out. -/
inductive TriggerRespelled : Entries → Entries → Prop where
  | type {a b : String} {t t' : Entries} (repeats : repeats? a = some true)
      (repeats' : repeats? b = some true) (replaces : Entries.Replaces "type" (.text a) (.text b) t t') :
      TriggerRespelled t t'
  | absent {t t' after : Entries} (adds : Entries.Adds (.text "interval") .null after t t') :
      TriggerRespelled t t'

/-- A document in another spelling: with one of the steps in its two lists or its trigger respelled, or
with none where its fallback or its notifiers were left out. -/
inductive Respelled : Value → Value → Prop where
  | step {name : String} {item item' : Value} {entries entries' : Entries} (before after : List Value)
      (holds : name ∈ ["steps", "upon_failure"])
      (replaces : Entries.Replaces name (.list (before ++ item :: after))
        (.list (before ++ item' :: after)) entries entries')
      (respelled : StepRespelled item item') : Respelled (.map entries) (.map entries')
  | trigger {t t' entries entries' : Entries}
      (replaces : Entries.Replaces "trigger" (.map t) (.map t') entries entries')
      (respelled : TriggerRespelled t t') : Respelled (.map entries) (.map entries')
  | absent {name : String} {v : Value} {entries entries' after : Entries}
      (holds : name ∈ ["upon_failure", "notifiers"]) (empty : v = .null ∨ v = .list [])
      (adds : Entries.Adds (.text name) v after entries entries') :
      Respelled (.map entries) (.map entries')

/-! ## Entries and bodies -/

variable {kind : StepKind} {place name text : String} {v w : Value} {e e' : Value × Value}
  {body body' after t t' entries entries' : Entries}

theorem asText_of_writtenAs (h : v.WrittenAs text) (place : String) :
    asText place v = .ok (.text text) := by
  cases h with
  | bool | real => rfl
  | int n writable =>
      have hShown : shown place (.int n) = .ok (toString n) := if_pos writable
      rw [asText, hShown]
      rfl

theorem asText_text (place text : String) : asText place (.text text) = .ok (.text text) := rfl

namespace EntryRespelled

theorem normalField (h : EntryRespelled kind e e') (place : String) :
    normalField place kind e' = Document.normalField place kind e := by
  cases h with
  | name v same => simp only [Document.normalField, same]
  | number holdsText written =>
      simp only [Document.normalField, holdsText, asText_of_writtenAs written, asText_text,
        if_true]

/-- An entry under which a list of steps stands has one spelling only. -/
theorem eq_or_ne (h : EntryRespelled kind e e') (hName : name ∈ kind.nestedNames) :
    e' = e ∨ e.1 ≠ .text name ∧ e'.1 ≠ .text name := by
  obtain ⟨hSelf, hText⟩ := fieldName_overwritten kind name (mem_overwrittenNames hName)
  cases h with
  | @name a b v same =>
      by_cases hFirst : a = name
      · obtain rfl : b = name := eq_of_fieldName_nested hName (by rw [← same, hFirst, hSelf])
        exact .inl (by rw [hFirst])
      · by_cases hSecond : b = name
        · obtain rfl : a = name := eq_of_fieldName_nested hName (by rw [same, hSecond, hSelf])
          exact absurd rfl hFirst
        · exact .inr ⟨by simpa using hFirst, by simpa using hSecond⟩
  | @number other _ _ holdsText written =>
      have hOther : other ≠ name := by
        rintro rfl
        rw [hSelf, hText] at holdsText
        cases holdsText
      exact .inr ⟨by simpa using hOther, by simpa using hOther⟩

theorem field? (h : EntryRespelled kind e e') (hName : name ∈ kind.nestedNames)
    (before after : Entries) :
    Entries.field? (before ++ e' :: after) name = Entries.field? (before ++ e :: after) name := by
  rcases h.eq_or_ne hName with rfl | ⟨hOld, hNew⟩
  · rfl
  · rw [Entries.field?_append, Entries.field?_append, Entries.field?_cons_of_ne hOld,
      Entries.field?_cons_of_ne hNew]

end EntryRespelled

theorem normalHeaders_of_writtenAs (h : v.WrittenAs text) (key : Value) (before after : Entries)
    (place : String) : normalHeaders place (.map (before ++ (key, .text text) :: after)) =
      normalHeaders place (.map (before ++ (key, v) :: after)) := by
  have hEntry : normalHeader place (key, .text text) = normalHeader place (key, v) := by
    simp only [normalHeader, asText_of_writtenAs h, asText_text]
  simp only [normalHeaders, List.mapM_append, List.mapM_cons, hEntry]

theorem normalSteps_of_empty (h : v = .null ∨ v = .list []) (place : String) :
    normalSteps v place = .ok [] := by
  rcases h with rfl | rfl
  · rw [normalSteps]
  · rw [normalSteps, normalItems]

/-- A list of steps that is left out is read as one without steps. -/
theorem alikeNested_of_adds (h : v = .null ∨ v = .list [])
    (hAdds : Entries.Adds (.text name) v after body body') (other : String) :
    AlikeNested body body' other := by
  by_cases hSame : name = other
  · intro place
    rw [← hSame, normalStepsField_of_none hAdds.field?_before,
      normalStepsField_of_field? hAdds.field?_self, normalSteps_of_empty h]
    exact .ok (SameSteps.refl [])
  · exact alikeNested_of_field? (hAdds.field?_of_ne (by simpa using hSame))

theorem BodyRespelled.alike (h : BodyRespelled kind body body') : AlikeBody kind body body' := by
  cases h with
  | entry before after respelled =>
      exact alikeBody_of_parts (alikeFields_of_entry respelled.normalField before after)
        fun name hName => alikeNested_of_field? (respelled.field? hName before after)
  | header before after posts written replaces =>
      subst posts
      exact alikeBody_of_headers (normalHeaders_of_writtenAs written _ before after) replaces
  | absent holds empty adds =>
      exact alikeBody_of_parts (alikeFields_of_adds (mem_overwrittenNames holds) adds)
        fun other _ => alikeNested_of_adds empty adds other

/-! ## Trees of steps -/

theorem shown_text (place text : String) : shown place (.text text) = .ok text := rfl

theorem alikeStep_bare (h : v = .null ∨ v = .map []) (name : String) :
    AlikeStep (.text name) (.map [(.text name, v)]) := by
  intro place
  rw [normalStep, normalStep, shown_text]
  simp only [bind, Except.bind]
  cases stepKind? name with
  | none => exact .rejected rfl rfl
  | some kind =>
      rcases h with rfl | rfl
      · exact .refl SameStep.refl _
      · exact .refl SameStep.refl _

theorem alikeStep_kind {a b : String} (h : stepKind? a = stepKind? b) (v : Value) :
    AlikeStep (.map [(.text a, v)]) (.map [(.text b, v)]) := by
  intro place
  rw [normalStep, normalStep, shown_text, shown_text]
  simp only [bind, Except.bind, h]
  cases stepKind? b with
  | none => exact .rejected rfl rfl
  | some kind =>
      cases v with
      | null | map body => exact .refl SameStep.refl _
      | enclosing isMap => cases isMap <;> exact .error rfl
      | _ => exact .rejected rfl rfl

theorem alikeStep_unknown {key : Value} (h : stepKind? key.display = none) (v w : Value) :
    AlikeStep (.map [(key, v)]) (.map [(key, w)]) := by
  intro place
  rw [normalStep, normalStep, shown]
  split
  · simp only [bind, Except.bind, h]
    exact .error rfl
  · exact .error rfl

/-- A step in another spelling is read alike, by induction on the depth at which it is respelled. -/
theorem StepRespelled.alike (h : StepRespelled v w) : AlikeStep v w := by
  induction h with
  | bare name empty => exact alikeStep_bare empty name
  | kind v same => exact alikeStep_kind same v
  | unknown v w unknown => exact alikeStep_unknown unknown v w
  | body known respelled => exact alikeStep_of_body known respelled.alike
  | nested before after known holds replaces _ ih =>
      exact alikeStep_of_body known (alikeBody_of_steps holds replaces (alikeSteps_of_step ih before after))

/-! ## Documents -/

theorem TriggerRespelled.normalTrigger (h : TriggerRespelled t t') (place : String) :
    normalTrigger (.map t') place = Document.normalTrigger (.map t) place := by
  cases h with
  | type repeats repeats' replaces =>
      rw [Document.normalTrigger, Document.normalTrigger, replaces.field?_self,
        replaces.symm.field?_self, replaces.field?_of_ne (by decide)]
      simp only [Option.getD_some, shown_text, bind, Except.bind, repeats, repeats']
  | absent adds =>
      rw [Document.normalTrigger, Document.normalTrigger, adds.field?_before, adds.field?_self,
        adds.field?_of_ne (by simp)]

/-- What is left out of a document is read as none. -/
theorem alikeForm_of_absent (hName : name ∈ ["upon_failure", "notifiers"])
    (h : v = .null ∨ v = .list []) (hAdds : Entries.Adds (.text name) v after entries entries') :
    AlikeForm (.map entries) (.map entries') := by
  have hForm : ∀ name ∈ ["upon_failure", "notifiers"], name ∈ formNames := by decide
  have hOther {other : String} (hNe : name ≠ other) : entries'.field? other = entries.field? other :=
    hAdds.field?_of_ne (by simpa using hNe)
  have hBefore : fieldOrNull entries name = .null := by
    rw [fieldOrNull, hAdds.field?_before]
    rfl
  have hAfter := fieldOrNull_of_field? hAdds.field?_self
  have hEntries (hNe : name ≠ "name") : SameEntries entries entries' :=
    ⟨hOther hNe, fun k hKey => hAdds.mem_keys_iff.trans (or_iff_left (hKey name (hForm name hName)))⟩
  simp only [List.mem_cons, List.not_mem_nil, or_false] at hName
  rcases hName with rfl | rfl
  · refine alikeForm_of_parts (hEntries (by decide)) ?_ ?_ ?_ ?_
    · exact normalTrigger_of_field? (hOther (by decide))
    · rw [fieldOrNull_congr (hOther (by decide))]
    · exact alikeListed_of_field? (hOther (by decide))
    · intro place
      rw [hBefore, hAfter, normalSteps_of_empty h, normalSteps_of_empty (.inl rfl)]
      exact .ok (SameSteps.refl [])
  · refine alikeForm_of_parts (hEntries (by decide)) ?_ ?_ ?_ ?_
    · exact normalTrigger_of_field? (hOther (by decide))
    · rw [hBefore, hAfter]
      rcases h with rfl | rfl <;> rfl
    · exact alikeListed_of_field? (hOther (by decide))
    · rw [fieldOrNull_congr (hOther (by decide))]
      exact .refl _

theorem Respelled.alike (h : Respelled v w) : AlikeForm v w := by
  cases h with
  | step before after holds replaces respelled =>
      have hSteps := alikeSteps_of_step respelled.alike before after
      simp only [List.mem_cons, List.not_mem_nil, or_false] at holds
      rcases holds with rfl | rfl
      · exact alikeForm_of_steps hSteps replaces
      · exact alikeForm_of_fallback hSteps replaces
  | trigger replaces respelled => exact alikeForm_of_trigger respelled.normalTrigger replaces
  | absent holds empty adds => exact alikeForm_of_absent holds empty adds

/-- Documents that a chain of replacements joins write the same flow or fail alike. -/
theorem alike_flow_of_respelled (h : Relation.EqvGen Respelled v w) (place : String) :
    Alike (· = ·) (flow v place) (flow w place) := by
  induction h with
  | rel _ _ respelled => exact respelled.alike.flow place
  | refl => exact .refl (fun _ => rfl) _
  | symm _ _ _ ih => exact ih.symm fun _ _ => Eq.symm
  | trans _ _ _ _ _ ih ihNext => exact ih.trans (fun _ _ _ => Eq.trans) ihNext

/-! ## What documents come to -/

/-- A document is rejected, by a failure of a kind. -/
def Rejects (document : Value) (place : String) (kind : ErrorKind) : Prop :=
  ∃ e, flow document place = .error e ∧ (Source.Error.ofDocument e).toFailure.kind = kind

/-- An error that does not break off the search is one of the definition. -/
theorem rejects_plain {document : Value} {e : Error} (h : flow document place = .error e)
    (hPlain : e.failure? = none) : Rejects document place .definition := by
  refine ⟨e, h, ?_⟩
  rw [Source.Error.ofDocument, hPlain]
  rfl

/-- An integer that cannot be written is a failure of the value, and stands in the document. -/
theorem rejects_long {document : Value} {part : String}
    (h : flow document place = .error (.shape part .longInteger)) :
    document.isShowable = false ∧ Rejects document place (.general .value) := by
  refine ⟨Bool.eq_false_iff.mpr fun hShowable => ?_, _, h, rfl⟩
  exact treeBounds_showable.flow hShowable place _ h part rfl

/-- Steps without an end are a failure by recursion, and something in the document is inside of
itself. -/
theorem rejects_endless {document : Value} {part : String}
    (h : flow document place = .error (.shape part .endless)) :
    document.isEndless = true ∧ Rejects document place (.general .recursion) := by
  refine ⟨(Bool.not_eq_false _).mp fun hEnding => ?_, _, h, rfl⟩
  exact treeBounds_ending.flow hEnding place _ h part rfl

end Document

/-! ## A sketch of a flow -/

namespace Sketch

/-- A flow that sets a variable and stops, again and again. -/
def flow (every : Binary64) : FlowDefinition where
  name := none
  trigger := some (.interval every)
  notifiers := []
  steps := [.setVariable none "7", .abortFlow]
  uponFailure := []

/-- A document of the sketch, but for the type of its trigger, its two steps and what stands behind. -/
def document (every : Binary64) (type : String) (first last : Value) (rest : Entries) : Value :=
  .map ([(.text "name", .null), (.text "trigger",
      .map [(.text "type", .text type), (.text "interval", .real every)]),
    (.text "notifiers", .list []), (.text "steps", .list [first, last])] ++ rest)

/-- The step that sets the variable. -/
def setting (name : String) (v : Value) : Value :=
  .map [(.text "set_variable", .map [(.text "output_var", .null), (.text name, v)])]

/-- The step that stops, with a mapping for its fields. -/
def stopping : Value := .map [(.text "abort_flow", .map [])]

/-- The fallback, which has no steps. -/
def fallback : Entries := [(.text "upon_failure", .list [])]

/-- The sketch with everything written out. -/
def long (every : Binary64) : Value :=
  document every "timer" (setting "value" (.text "7")) stopping fallback

/-- The sketch as short as can be. -/
def short (every : Binary64) : Value :=
  document every "interval" (setting "input" (.int 7)) (.text "abort_flow") []

variable {every : Binary64}

theorem read (hEvery : every.IsDuration) (hPositive : Binary64.zero.lt every = true)
    (place : String) : Document.flow (long every) place = .ok (flow every) := by
  have hWord : Document.repeats? "timer" = some true := rfl
  have hSound : (flow every).Sound := by
    refine ⟨?_, fun x hInterval => ?_, fun name => List.not_mem_nil, rfl⟩
    · simp only [flow, Step.walk, Step.withDescendants, List.cons_append, List.nil_append,
        List.forall_mem_cons]
      exact ⟨Step.sound_of_pause rfl rfl, Step.sound_of_pause rfl rfl, List.forall_mem_nil _⟩
    · cases hInterval
      exact ⟨hEvery, hPositive⟩
  exact FlowDefinition.read_document hSound hWord place

theorem respelled_first {first first' : Value} (h : Document.StepRespelled first first') (type : String)
    (last : Value) : Document.Respelled (document every type first last fallback)
      (document every type first' last fallback) :=
  .step [] [last] List.mem_cons_self (.at [_, _, _] fallback (by simp [Entries.keys, fallback])) h

theorem respelled_setting {a b : String} {v w : Value}
    (h : Document.EntryRespelled .setVariable (.text a, v) (.text b, w)) :
    Document.StepRespelled (setting a v) (setting b w) :=
  .body (Step.stepKind?_name .setVariable) (.entry [(.text "output_var", .null)] [] h)

/-- The sketch becomes short by the type of its trigger, the name of a field, a number, a bare name and
a fallback that is left out. -/
theorem respelled (every : Binary64) :
    Relation.EqvGen Document.Respelled (long every) (short every) := by
  have hField : Document.fieldName .setVariable "value" = Document.fieldName .setVariable "input" := rfl
  let written (first last : Value) := document every "interval" first last fallback
  have hType : Document.Respelled (long every) (written (setting "value" (.text "7")) stopping) :=
    .trigger (.at [_] _ (by simp [Entries.keys, fallback]))
      (.type rfl rfl (.at [] _ (by simp [Entries.keys])))
  have hName : Document.Respelled (written (setting "value" (.text "7")) stopping)
      (written (setting "input" (.text "7")) stopping) :=
    respelled_first (respelled_setting (.name (.text "7") hField)) "interval" stopping
  have hNumber : Document.Respelled (written (setting "input" (.int 7)) stopping)
      (written (setting "input" (.text "7")) stopping) :=
    respelled_first (respelled_setting (.number rfl (.int 7 (by decide +kernel)))) "interval" stopping
  have hBare : Document.Respelled (written (setting "input" (.int 7)) (.text "abort_flow"))
      (written (setting "input" (.int 7)) stopping) :=
    .step [_] [] List.mem_cons_self (.at [_, _, _] fallback (by simp [Entries.keys, fallback]))
      (.bare "abort_flow" (.inr rfl))
  have hAbsent : Document.Respelled (short every)
      (written (setting "input" (.int 7)) (.text "abort_flow")) :=
    .absent List.mem_cons_self (.inr rfl) (.behind _ (by simp [Entries.keys, Value.sameKey]))
  refine .trans _ _ _ (.rel _ _ hType) (.trans _ _ _ (.rel _ _ hName) ?_)
  refine .trans _ _ _ (.symm _ _ (.rel _ _ hNumber)) (.trans _ _ _ (.symm _ _ (.rel _ _ hBare)) ?_)
  exact .symm _ _ (.rel _ _ hAbsent)

end Sketch

namespace Document

variable {v w : Value}

/-- Documents that a chain of replacements joins, each of one spelling by another, write the same flow or
are both rejected by an error of the definition; or the search in both breaks off by one cause, an
integer in them that cannot be written or steps in them that have no end. -/
theorem spellings_write_same_flow (h : Relation.EqvGen Respelled v w) (place : String) :
    (∃ f, flow v place = .ok f ∧ flow w place = .ok f) ∨
      (Rejects v place .definition ∧ Rejects w place .definition) ∨
      ((v.isShowable = false ∧ Rejects v place (.general .value)) ∧
        w.isShowable = false ∧ Rejects w place (.general .value)) ∨
      (v.isEndless = true ∧ Rejects v place (.general .recursion)) ∧
        w.isEndless = true ∧ Rejects w place (.general .recursion) := by
  have hAlike := alike_flow_of_respelled h place
  generalize hOld : flow v place = x at hAlike
  generalize hNew : flow w place = y at hAlike
  cases hAlike with
  | ok related => exact .inl ⟨_, rfl, congrArg Except.ok related.symm⟩
  | @error e f same =>
      rcases e.cases_of_failure? with hPlain | ⟨_, rfl⟩ | ⟨_, rfl⟩
      · exact .inr (.inl ⟨rejects_plain hOld hPlain, rejects_plain hNew (same.symm.trans hPlain)⟩)
      · rcases f.cases_of_failure? with hPlain | ⟨_, rfl⟩ | ⟨_, rfl⟩
        · cases same.trans hPlain
        · exact .inr (.inr (.inl ⟨rejects_long hOld, rejects_long hNew⟩))
        · cases same
      · rcases f.cases_of_failure? with hPlain | ⟨_, rfl⟩ | ⟨_, rfl⟩
        · cases same.trans hPlain
        · cases same
        · exact .inr (.inr (.inr ⟨rejects_endless hOld, rejects_endless hNew⟩))

/-- The sketch writes the same flow in short. -/
theorem spellings_write_same_flow_sketch :
    Relation.EqvGen Respelled (Sketch.long (.ofInt 300)) (Sketch.short (.ofInt 300)) ∧
      flow (Sketch.short (.ofInt 300)) "flow" = .ok (Sketch.flow (.ofInt 300)) := by
  have hEvery : (Binary64.ofInt 300).IsDuration := ⟨by decide +kernel, by decide +kernel⟩
  have hRead := Sketch.read hEvery (by decide +kernel) "flow"
  have hChain := Sketch.respelled (.ofInt 300)
  have hNotRejected : ∀ kind, ¬ Rejects (Sketch.long (.ofInt 300)) "flow" kind := by
    rintro kind ⟨e, hError, -⟩
    cases hRead.symm.trans hError
  rcases spellings_write_same_flow hChain "flow" with
    ⟨f, hLong, hShort⟩ | ⟨hLong, -⟩ | ⟨⟨-, hLong⟩, -⟩ | ⟨⟨-, hLong⟩, -⟩
  · cases hRead.symm.trans hLong
    exact ⟨hChain, hShort⟩
  · exact absurd hLong (hNotRejected _)
  · exact absurd hLong (hNotRejected _)
  · exact absurd hLong (hNotRejected _)

/-- A document without steps that has a number for its name. -/
def numbered (n : Int) (type : String) : Value :=
  .map [(.text "name", .int n),
    (.text "trigger", .map [(.text "type", .text type), (.text "interval", .text "5m")]),
    (.text "steps", .list [])]

theorem respelled_numbered (n : Int) : Respelled (numbered n "timer") (numbered n "interval") :=
  .trigger (.at [_] _ (by simp [Entries.keys])) (.type rfl rfl (.at [] [_] (by simp [Entries.keys])))

theorem rejects_numbered {n : Int} (h : Number.isWritable n = false) (type : String) (place : String) :
    Rejects (numbered n type) place (.general .value) := by
  have hName : nameOf place (.int n) = .error (.shape place .longInteger) := by
    have hShown : shown place (.int n) = .error (.shape place .longInteger) :=
      if_neg (Bool.eq_false_iff.mp h)
    have hNamed : named place (.int n) = .error (.shape place .longInteger) := by
      rw [named, hShown]
      · rfl
      · exact fun t hTorn => by cases hTorn
    change (named place (.int n) >>= fun name => Except.ok (some name)) = _
    rw [hNamed]
    rfl
  have hFlow : flow (numbered n type) place = .error (.shape place .longInteger) := by
    rw [flow, numbered, normalForm_eq, fieldOrNull_of_field? rfl, hName]
    rfl
  exact (rejects_long hFlow).2

/-- Two spellings of a document whose name is an integer with one digit too many: neither writes a flow,
and neither is rejected by an error of the definition. -/
theorem long_name_is_no_definition_error :
    Relation.EqvGen Respelled (numbered (Number.tenTo Number.maxDigits) "timer")
        (numbered (Number.tenTo Number.maxDigits) "interval") ∧
      Rejects (numbered (Number.tenTo Number.maxDigits) "timer") "flow" (.general .value) ∧
      Rejects (numbered (Number.tenTo Number.maxDigits) "interval") "flow" (.general .value) ∧
      ErrorKind.general .value ≠ .definition := by
  have hLong : Number.isWritable (Number.tenTo Number.maxDigits) = false := by
    rw [Number.isWritable, Int.natAbs_natCast, decide_eq_false_iff_not]
    exact Nat.lt_irrefl _
  exact ⟨.rel _ _ (respelled_numbered _), rejects_numbered hLong "timer" "flow",
    rejects_numbered hLong "interval" "flow", by decide⟩

end Document

end Flowline
