import Flowline.Proofs.Flow.Keys

/-!
Strictness of documents. A key more in one of the mappings of a document is refused, with an issue that
tells that key, if it names no field of the mapping; but the keys of a trigger, the names under which
reading a body puts values of its own and an earlier spelling of a field are read over.
-/

namespace Flowline

namespace Document

/-! ## The normal form of a document -/

variable {place : String} {entries : Entries} {k data : Value}

/-- The name of a document as a text, if it has one. -/
def nameOf (place : String) : Value → Except Error (Option Value)
  | .null => .ok none
  | v => do
      let name ← named place v
      return some name

/-- The notifiers of a document, none in place of a value that counts as false. -/
def notifiersOf (v : Value) : Value := if v.isTruthy then v else .list []

/-- The steps of a document, if it has any. -/
def stepsOf (place : String) : Option Value → Except Error (Option Value)
  | some v => do
      let steps ← normalSteps v place
      return some (.list steps)
  | none => .ok none

/-- The normal form of a document, given what its parts are read as. -/
def formEntries (entries : Entries) (name : Option Value) (trigger notifiers : Value)
    (steps : Option Value) (fallback : List Value) : Entries :=
  let data := putOptional entries "name" name
  let data := (data.putField "trigger" trigger).putField "notifiers" notifiers
  (putOptional data "steps" steps).putField "upon_failure" (.list fallback)

theorem normalName_eq (entries : Entries) (place : String) :
    normalName entries place =
      nameOf place (fieldOrNull entries "name") >>= fun name =>
        .ok (putOptional entries "name" name) := by
  have hText : ∀ x : Except Error Value,
      (x >>= fun name => Except.ok (entries.putField "name" name)) =
        (x >>= fun name => Except.ok (some name)) >>= fun name =>
          .ok (putOptional entries "name" name) := by
    intro x
    cases x <;> rfl
  rw [normalName]
  cases fieldOrNull entries "name" with
  | null => rfl
  | _ => exact hText _

theorem normalForm_eq (entries : Entries) (place : String) :
    normalForm (.map entries) place = (do
      let name ← nameOf place (fieldOrNull entries "name")
      let trigger ← normalTrigger (fieldOrNull entries "trigger") s!"{place}.trigger"
      let steps ← stepsOf s!"{place}.steps" (entries.field? "steps")
      let fallback ← normalSteps (fieldOrNull entries "upon_failure") s!"{place}.upon_failure"
      return .map (formEntries entries name trigger (notifiersOf (fieldOrNull entries "notifiers"))
        steps fallback)) := by
  rw [normalForm, normalName_eq, bind_assoc]
  refine bind_congr fun name => ?_
  change (normalTrigger _ _ >>= _) = _
  refine bind_congr fun trigger => ?_
  cases entries.field? "steps" with
  | none => rfl
  | some v =>
      rw [stepsOf, bind_assoc]
      rfl

theorem normalForm_iff :
    normalForm (.map entries) place = .ok data ↔
      ∃ name, nameOf place (fieldOrNull entries "name") = .ok name ∧
      ∃ trigger, normalTrigger (fieldOrNull entries "trigger") s!"{place}.trigger" = .ok trigger ∧
      ∃ steps, stepsOf s!"{place}.steps" (entries.field? "steps") = .ok steps ∧
      ∃ fallback, normalSteps (fieldOrNull entries "upon_failure") s!"{place}.upon_failure" =
        .ok fallback ∧
        .map (formEntries entries name trigger (notifiersOf (fieldOrNull entries "notifiers")) steps
          fallback) = data := by
  rw [normalForm_eq]
  simp only [bind_eq_ok, pure, Except.pure, Except.ok.injEq]

theorem field?_formEntries (entries : Entries) (name : Option Value) (trigger notifiers : Value)
    (steps : Option Value) (fallback : List Value) :
    let form := formEntries entries name trigger notifiers steps fallback
    form.field? "name" = name.or (entries.field? "name") ∧ form.field? "trigger" = some trigger ∧
      form.field? "notifiers" = some notifiers ∧
      form.field? "steps" = steps.or (entries.field? "steps") ∧
      form.field? "upon_failure" = some (.list fallback) := by
  simp [formEntries, field?_putOptional]

theorem mem_keys_formEntries {name : Option Value} {trigger notifiers : Value}
    {steps : Option Value} {fallback : List Value} :
    k ∈ (formEntries entries name trigger notifiers steps fallback).keys ↔
      ((((k ∈ entries.keys ∨ name.isSome ∧ k = .text "name") ∨ k = .text "trigger") ∨
        k = .text "notifiers") ∨ steps.isSome ∧ k = .text "steps") ∨ k = .text "upon_failure" := by
  rw [formEntries, Entries.mem_keys_putField, mem_keys_putOptional, Entries.mem_keys_putField,
    Entries.mem_keys_putField, mem_keys_putOptional]

end Document

namespace Schema

/-- The fields of the model of a flow. -/
def flowNames : List String := ["name", "trigger", "notifiers", "steps", "upon_failure"]

variable {a b : Entries}

theorem optional_congr {α : Type} {name : String} {absent : α} {check : Value → Checked α}
    (h : b.field? name = a.field? name) :
    optional b name absent check = optional a name absent check := by
  rw [optional, optional, h]

/-- The fields of the model of a notifier, by its type. -/
def notifierNames : String → List String
  | "telegram" => ["type", "name", "token", "chat_id"]
  | "chain" => ["type", "name", "targets"]
  | _ => ["type", "name"]

theorem notifierOfType?_eq_model {type : String} (h : type ∈ notifierTypes) (entries : Entries) :
    ∃ check, notifierOfType? type entries = some (model (notifierNames type) entries check) := by
  simp only [notifierTypes, List.mem_cons, List.not_mem_nil, or_false] at h
  rcases h with rfl | rfl | rfl | rfl <;> exact ⟨_, rfl⟩

/-- A notifier refuses a key that is no field of its model. -/
theorem refuses_notifier {type : String} {key : Value} (hKnown : type ∈ notifierTypes)
    (hType : a.field? "type" = some (.text type)) (hMem : key ∈ a.keys)
    (hForeign : ∀ name ∈ notifierNames type, text key ≠ .valid name) :
    (notifier (.map a)).Refuses key := by
  obtain ⟨check, hCheck⟩ := notifierOfType?_eq_model hKnown a
  have hNotifier : notifier (.map a) = (model (notifierNames type) a check).within (.name type) := by
    rw [notifier, unionMember, hType]
    simp only [Checked.andThen, tagged?, hCheck]
  rw [hNotifier]
  exact (refuses_model check hMem hForeign).within _

/-- A list of notifiers refuses what one of them does. -/
theorem refuses_notifiers {item v key : Value} {before after : List Value}
    (hItems : tupleItems v = .valid (before ++ item :: after)) (h : (notifier item).Refuses key) :
    (notifiers v).Refuses key := by
  have hItem : Checked.Turns (some key) (notifier item) (notifier item) := h
  rw [notifiers, hItems, Checked.andThen, List.map_append, List.map_cons]
  exact hItem.sequenceFrom 0 _ _

/-- A flow turns as its notifiers and its lists of steps if the rest of it stays. -/
theorem turns_flow {first second third : Option Value} (hKeys : ∀ k, k ∈ b.keys ↔ k ∈ a.keys)
    (hName : b.field? "name" = a.field? "name") (hTrigger : b.field? "trigger" = a.field? "trigger")
    (hNotifiers : Checked.Turns first (optional a "notifiers" [] notifiers)
      (optional b "notifiers" [] notifiers))
    (hSteps : Checked.Turns second (required a "steps" stepList) (required b "steps" stepList))
    (hFallback : Checked.Turns third (optional a "upon_failure" [] stepList)
      (optional b "upon_failure" [] stepList)) :
    Checked.Turns ((first.or second).or third) (flow (.map a)) (flow (.map b)) := by
  refine Checked.Turns.andThen wellReferenced ?_
  rw [flowFields, flowFields, optional_congr hName, optional_congr hTrigger]
  exact ((((Checked.Turns.refl _).seq hNotifiers).seq hSteps).seq hFallback).keeping
    (keyIssues_eq_nil_congr hKeys).mpr

end Schema

namespace Document

variable {place name : String} {entries entries' after t t' : Entries} {key v w : Value}
  {refused : Option Value} {repeats : Bool}

/-- A document is read and turns. -/
def TurnsFlow (refused : Option Value) (document document' : Value) : Prop :=
  ∀ place data, normalForm document place = .ok data →
    ∃ data', normalForm document' place = .ok data' ∧
      Schema.Checked.Turns refused (Schema.flow data) (Schema.flow data')

theorem fieldOrNull_congr {a b : Entries} (h : b.field? name = a.field? name) :
    fieldOrNull b name = fieldOrNull a name := by
  rw [fieldOrNull, fieldOrNull, h]

theorem fieldOrNull_of_field? (h : entries.field? name = some v) : fieldOrNull entries name = v := by
  rw [fieldOrNull, h]
  rfl

/-- A trigger is read by its type and, if it repeats, by its interval. -/
theorem normalTrigger_congr (place : String) (hType : t'.field? "type" = t.field? "type")
    (hRepeats : repeats? (fieldOrNull t "type").display = some repeats)
    (hInterval : repeats = true → t'.field? "interval" = t.field? "interval") :
    normalTrigger (.map t') place = normalTrigger (.map t) place := by
  have hText : ∀ text, shown place (fieldOrNull t "type") = .ok text →
      repeats? text = some repeats := by
    intro text hShown
    rw [shown] at hShown
    split at hShown
    · cases hShown
      exact hRepeats
    · cases hShown
  rw [normalTrigger, normalTrigger, ← fieldOrNull, ← fieldOrNull, fieldOrNull_congr hType]
  cases hShown : shown place (fieldOrNull t "type") with
  | error e => rfl
  | ok text =>
      simp only [bind, Except.bind, hText text hShown]
      cases repeats with
      | false => rfl
      | true => rw [hInterval rfl]

/-- The check of a list of steps that must be there. -/
def listed : Option Value → Schema.Checked (List Step)
  | some v => Schema.stepList v
  | none => .fail .missing

theorem required_steps (entries : Entries) :
    Schema.required entries "steps" Schema.stepList =
      (listed (entries.field? "steps")).within (.name "steps") := by
  rw [Schema.required]
  cases entries.field? "steps" <;> rfl

/-- Where steps are read, they stand in the place of those that are there. -/
theorem or_of_stepsOf {v steps : Option Value} (h : stepsOf place v = .ok steps) : steps.or v = steps := by
  cases v with
  | none => exact Option.or_none
  | some v =>
      obtain ⟨list, -, hSteps⟩ := bind_eq_ok.mp h
      cases hSteps
      rfl

theorem isSome_of_stepsOf {v steps : Option Value} (h : stepsOf place v = .ok steps) :
    steps.isSome = v.isSome := by
  cases v with
  | none =>
      cases h
      rfl
  | some v =>
      obtain ⟨list, -, hSteps⟩ := bind_eq_ok.mp h
      cases hSteps
      rfl

/-- The steps of a document are read and turn. -/
def TurnsListed (refused : Option Value) (entries entries' : Entries) : Prop :=
  ∀ place steps, stepsOf place (entries.field? "steps") = .ok steps →
    ∃ steps', stepsOf place (entries'.field? "steps") = .ok steps' ∧
      Schema.Checked.Turns refused (listed steps) (listed steps')

/-- The notifiers of a document turn. -/
def TurnsNotifiers (refused : Option Value) (entries entries' : Entries) : Prop :=
  Schema.Checked.Turns refused (Schema.notifiers (notifiersOf (fieldOrNull entries "notifiers")))
    (Schema.notifiers (notifiersOf (fieldOrNull entries' "notifiers")))

/-- The fallback of a document is read and turns. -/
def TurnsFallback (refused : Option Value) (entries entries' : Entries) : Prop :=
  TurnsSteps refused (fieldOrNull entries "upon_failure") (fieldOrNull entries' "upon_failure")

/-- A document turns as its notifiers and its lists of steps if the rest of it stays. -/
theorem turnsFlow_of_parts {first second third : Option Value} (hKeys : entries'.keys = entries.keys)
    (hName : entries'.field? "name" = entries.field? "name")
    (hTrigger : ∀ place, normalTrigger (fieldOrNull entries' "trigger") place =
      normalTrigger (fieldOrNull entries "trigger") place)
    (hNotifiers : TurnsNotifiers first entries entries')
    (hListed : TurnsListed second entries entries')
    (hFallback : TurnsFallback third entries entries') :
    TurnsFlow ((first.or second).or third) (.map entries) (.map entries') := by
  intro place data hData
  obtain ⟨name, hNamed, trigger, hTriggered, steps, hSteps, fallback, hFallen, rfl⟩ :=
    normalForm_iff.mp hData
  obtain ⟨steps', hSteps', hTurnsSteps⟩ := hListed _ _ hSteps
  obtain ⟨fallback', hFallen', hTurnsFallback⟩ := hFallback _ _ hFallen
  rw [← fieldOrNull_congr hName] at hNamed
  rw [← hTrigger] at hTriggered
  refine ⟨_, normalForm_iff.mpr ⟨name, hNamed, trigger, hTriggered, steps', hSteps', fallback',
    hFallen', rfl⟩, ?_⟩
  obtain ⟨hNameA, hTriggerA, hNotifiersA, hStepsA, hFallbackA⟩ := field?_formEntries entries name
    trigger (notifiersOf (fieldOrNull entries "notifiers")) steps fallback
  obtain ⟨hNameB, hTriggerB, hNotifiersB, hStepsB, hFallbackB⟩ := field?_formEntries entries' name
    trigger (notifiersOf (fieldOrNull entries' "notifiers")) steps' fallback'
  rw [or_of_stepsOf hSteps] at hStepsA
  rw [or_of_stepsOf hSteps'] at hStepsB
  refine Schema.turns_flow ?_ ?_ ?_ ?_ ?_ ?_
  · intro k
    have hSome : steps'.isSome = true ↔ steps.isSome = true := by
      rw [isSome_of_stepsOf hSteps, isSome_of_stepsOf hSteps', ← Entries.hasField,
        ← Entries.hasField, Entries.hasField_iff, Entries.hasField_iff, hKeys]
    rw [mem_keys_formEntries, mem_keys_formEntries, hKeys, hSome]
  · rw [hNameA, hNameB, hName]
  · rw [hTriggerA, hTriggerB]
  · rw [Schema.optional, Schema.optional, hNotifiersA, hNotifiersB]
    exact hNotifiers.within _
  · rw [required_steps, required_steps, hStepsA, hStepsB]
    exact hTurnsSteps.within _
  · rw [Schema.optional, Schema.optional, hFallbackA, hFallbackB]
    exact hTurnsFallback.within _

/-! ## Changes in a document -/

theorem normalTrigger_of_field? (h : entries'.field? "trigger" = entries.field? "trigger")
    (place : String) : normalTrigger (fieldOrNull entries' "trigger") place =
      normalTrigger (fieldOrNull entries "trigger") place := by
  rw [fieldOrNull_congr h]

theorem turnsListed_of_field? (h : entries'.field? "steps" = entries.field? "steps") :
    TurnsListed none entries entries' := by
  intro place steps hSteps
  exact ⟨steps, by rw [h, hSteps], .refl _⟩

theorem turnsNotifiers_of_field? (h : entries'.field? "notifiers" = entries.field? "notifiers") :
    TurnsNotifiers none entries entries' := by
  rw [TurnsNotifiers, fieldOrNull_congr h]
  exact .refl _

theorem turnsFallback_of_field? (h : entries'.field? "upon_failure" = entries.field? "upon_failure") :
    TurnsFallback none entries entries' := by
  rw [TurnsFallback, fieldOrNull_congr h]
  exact fun _ steps hSteps => ⟨steps, hSteps, .refl _⟩

/-- What is added to a trigger besides its interval is not looked at. -/
theorem turnsFlow_of_trigger (hRepeats : repeats? (fieldOrNull t "type").display = some repeats)
    (hAdds : Entries.Adds key v after t t') (hKey : repeats = true → key ≠ .text "interval")
    (hReplaces : Entries.Replaces "trigger" (.map t) (.map t') entries entries') :
    TurnsFlow none (.map entries) (.map entries') := by
  have hType : t.hasField "type" = true := by
    rw [Entries.hasField]
    cases hField : t.field? "type" with
    | some v => rfl
    | none =>
        rw [fieldOrNull, hField] at hRepeats
        cases hRepeats
  have hTrigger : ∀ place, normalTrigger (fieldOrNull entries' "trigger") place =
      normalTrigger (fieldOrNull entries "trigger") place := by
    intro place
    rw [fieldOrNull_of_field? hReplaces.field?_self, fieldOrNull_of_field? hReplaces.symm.field?_self]
    exact normalTrigger_congr place (hAdds.field?_of_ne (hAdds.ne_of_hasField hType)) hRepeats
      fun h => hAdds.field?_of_ne (hKey h)
  exact turnsFlow_of_parts hReplaces.keys_eq (hReplaces.field?_of_ne (by decide)) hTrigger
    (turnsNotifiers_of_field? (hReplaces.field?_of_ne (by decide)))
    (turnsListed_of_field? (hReplaces.field?_of_ne (by decide)))
    (turnsFallback_of_field? (hReplaces.field?_of_ne (by decide)))

theorem isTruthy_of_tupleItems {item : Value} {before after : List Value}
    (h : Schema.tupleItems v = .valid (before ++ item :: after)) : v.isTruthy = true := by
  have hFull : ∀ items : List Value, Schema.Checked.valid items = .valid (before ++ item :: after) →
      (!items.isEmpty) = true := by
    intro items hItems
    cases hItems
    cases before <;> rfl
  cases v with
  | list items | tuple items | set items => exact hFull items h
  | _ => cases h

/-- A foreign key of a notifier is refused. -/
theorem turnsFlow_of_notifier {n n' : Entries} {type : String} {before last : List Value}
    (hKnown : type ∈ Schema.notifierTypes) (hType : n.field? "type" = some (.text type))
    (hItems : Schema.tupleItems w = .valid (before ++ .map n' :: last))
    (hAdds : Entries.Adds key v after n n')
    (hForeign : ∀ name ∈ Schema.notifierNames type, Schema.text key ≠ .valid name)
    {old : Value} (hReplaces : Entries.Replaces "notifiers" old w entries entries') :
    TurnsFlow (some key) (.map entries) (.map entries') := by
  have hNotifiers : TurnsNotifiers (some key) entries entries' := by
    have hTypeNew : n'.field? "type" = some (.text type) :=
      (hAdds.field?_of_ne (hAdds.ne_of_hasField (Option.isSome_of_mem hType))).trans hType
    have hSame : notifiersOf w = w := if_pos (isTruthy_of_tupleItems hItems)
    rw [TurnsNotifiers, fieldOrNull_of_field? hReplaces.symm.field?_self, hSame]
    exact Schema.refuses_notifiers hItems
      (Schema.refuses_notifier hKnown hTypeNew hAdds.mem_keys hForeign)
  exact turnsFlow_of_parts hReplaces.keys_eq (hReplaces.field?_of_ne (by decide))
    (normalTrigger_of_field? (hReplaces.field?_of_ne (by decide))) hNotifiers
    (turnsListed_of_field? (hReplaces.field?_of_ne (by decide)))
    (turnsFallback_of_field? (hReplaces.field?_of_ne (by decide)))

/-- A foreign key of the document itself is refused. -/
theorem turnsFlow_of_foreign (hAdds : Entries.Adds key v after entries entries')
    (hForeign : ∀ name ∈ Schema.flowNames, Schema.text key ≠ .valid name) :
    TurnsFlow (some key) (.map entries) (.map entries') := by
  have hFields : ∀ name ∈ Schema.flowNames, entries'.field? name = entries.field? name := by
    intro name hMem
    refine hAdds.field?_of_ne ?_
    rintro rfl
    exact hForeign name hMem rfl
  have hNull : ∀ name ∈ Schema.flowNames, fieldOrNull entries' name = fieldOrNull entries name :=
    fun name hMem => fieldOrNull_congr (hFields name hMem)
  intro place data hData
  obtain ⟨name, hName, trigger, hTrigger, steps, hSteps, fallback, hFallback, rfl⟩ :=
    normalForm_iff.mp hData
  rw [← hNull "name" (by decide)] at hName
  rw [← hNull "trigger" (by decide)] at hTrigger
  rw [← hFields "steps" (by decide)] at hSteps
  rw [← hNull "upon_failure" (by decide)] at hFallback
  refine ⟨_, normalForm_iff.mpr ⟨name, hName, trigger, hTrigger, steps, hSteps, fallback, hFallback,
    rfl⟩, ?_⟩
  refine Schema.Checked.Refuses.andThen (Schema.refuses_model _ ?_ hForeign) _
  exact mem_keys_formEntries.mpr (.inl (.inl (.inl (.inl (.inl hAdds.mem_keys)))))

/-- A document turns as its steps. -/
theorem turnsFlow_of_steps (h : TurnsSteps refused v w)
    (hReplaces : Entries.Replaces "steps" v w entries entries') :
    TurnsFlow refused (.map entries) (.map entries') := by
  have hListed : TurnsListed refused entries entries' := by
    intro place steps hSteps
    rw [hReplaces.field?_self] at hSteps
    rw [hReplaces.symm.field?_self]
    obtain ⟨list, hRead, hSteps⟩ := bind_eq_ok.mp hSteps
    cases hSteps
    obtain ⟨list', hRead', hTurns⟩ := h place list hRead
    exact ⟨some (.list list'), bind_eq_ok.mpr ⟨list', hRead', rfl⟩, hTurns⟩
  rw [← refused.or_none]
  exact turnsFlow_of_parts hReplaces.keys_eq (hReplaces.field?_of_ne (by decide))
    (normalTrigger_of_field? (hReplaces.field?_of_ne (by decide)))
    (turnsNotifiers_of_field? (hReplaces.field?_of_ne (by decide))) hListed
    (turnsFallback_of_field? (hReplaces.field?_of_ne (by decide)))

/-- A document turns as its fallback. -/
theorem turnsFlow_of_fallback (h : TurnsSteps refused v w)
    (hReplaces : Entries.Replaces "upon_failure" v w entries entries') :
    TurnsFlow refused (.map entries) (.map entries') := by
  have hFallback : TurnsFallback refused entries entries' := by
    rw [TurnsFallback, fieldOrNull_of_field? hReplaces.field?_self,
      fieldOrNull_of_field? hReplaces.symm.field?_self]
    exact h
  exact turnsFlow_of_parts hReplaces.keys_eq (hReplaces.field?_of_ne (by decide))
    (normalTrigger_of_field? (hReplaces.field?_of_ne (by decide)))
    (turnsNotifiers_of_field? (hReplaces.field?_of_ne (by decide)))
    (turnsListed_of_field? (hReplaces.field?_of_ne (by decide))) hFallback

/-! ## Mappings in a document -/

/-- A mapping in a document: the document itself, its trigger, which may repeat, a notifier of a type or
the body of a step of a kind. -/
inductive Site where
  | document
  | trigger (repeats : Bool)
  | notifier (type : String)
  | body (kind : StepKind)

/-- A document and what becomes of it with another mapping at a site in it. -/
inductive Change : Site → Entries → Entries → Value → Value → Prop where
  | document (entries entries' : Entries) :
      Change .document entries entries' (.map entries) (.map entries')
  | trigger {repeats : Bool} {t t' entries entries' : Entries}
      (known : repeats? (fieldOrNull t "type").display = some repeats)
      (replaces : Entries.Replaces "trigger" (.map t) (.map t') entries entries') :
      Change (.trigger repeats) t t' (.map entries) (.map entries')
  | notifier {type : String} {n n' entries entries' : Entries} {v w : Value}
      {before after : List Value} (known : type ∈ Schema.notifierTypes)
      (tag : n.field? "type" = some (.text type))
      (items : Schema.tupleItems v = .valid (before ++ .map n :: after))
      (items' : Schema.tupleItems w = .valid (before ++ .map n' :: after))
      (replaces : Entries.Replaces "notifiers" v w entries entries') :
      Change (.notifier type) n n' (.map entries) (.map entries')
  | steps {kind : StepKind} {body body' entries entries' : Entries} {v w : Value}
      (tree : BodyChange kind body body' v w)
      (replaces : Entries.Replaces "steps" v w entries entries') :
      Change (.body kind) body body' (.map entries) (.map entries')
  | fallback {kind : StepKind} {body body' entries entries' : Entries} {v w : Value}
      (tree : BodyChange kind body body' v w)
      (replaces : Entries.Replaces "upon_failure" v w entries entries') :
      Change (.body kind) body body' (.map entries) (.map entries')

namespace Site

/-- The fields of the model of a mapping. -/
def modelNames : Site → List String
  | document => Schema.flowNames
  | trigger repeats => "type" :: if repeats then ["interval"] else []
  | notifier type => Schema.notifierNames type
  | body kind => kind.modelNames

/-- Whether a name is one under which a field of a mapping can be written, in any spelling. -/
def hasSpelling : Site → String → Bool
  | body kind, name => kind.hasSpelling name
  | site, name => site.modelNames.contains name

/-- A key that names no field, neither as a text nor by the bytes of one. -/
def Unknown (site : Site) (key : Value) : Prop :=
  (∀ name, key = .text name → site.hasSpelling name = false) ∧
    ∀ bs, key = .bytes bs → ∀ name ∈ site.modelNames, Schema.bytesText? bs ≠ some name

/-- A key that is read over: any unknown one of a trigger; and in a body the names under which reading
puts a value of its own, and a spelling of a field that stands in another spelling behind it. -/
def ReadsOver (site : Site) (key : Value) (after : Entries) : Prop :=
  match site with
  | trigger _ => ∀ name, key = .text name → site.hasSpelling name = false
  | body kind => ∃ name, key = .text name ∧ (name = "kind" ∨ kind.isFailable = true ∧ name = "fail" ∨
      ∃ other, after.hasField other = true ∧ fieldName kind other = fieldName kind name)
  | _ => False

/-- A value that can be read: what becomes a text is no integer that cannot be written. -/
def Readable (site : Site) (key v : Value) : Prop :=
  match site with
  | body kind => ∀ name n, key = .text name → v = .int n →
      textFields.contains (fieldName kind name) = true → Number.isWritable n = true
  | _ => True

end Site

variable {kind : StepKind} {body body' : Entries} {site : Site} {document document' : Value}
  {flow : FlowDefinition}

theorem exists_normalField (h : (Site.body kind).Readable key v) (place : String) :
    ∃ e, normalField place kind (key, v) = .ok e := by
  cases key with
  | text name =>
      have hText : ∃ w, (if textFields.contains (fieldName kind name) then asText place v else .ok v) =
          .ok w := by
        split
        · rename_i hContains
          cases v with
          | int n =>
              have hShown : shown place (.int n) = .ok (Value.int n).display :=
                if_pos (h name n rfl rfl hContains)
              exact ⟨_, by rw [asText, hShown]; rfl⟩
          | _ => exact ⟨_, rfl⟩
        · exact ⟨v, rfl⟩
      obtain ⟨w, hText⟩ := hText
      exact ⟨_, normalField_text_iff.mpr ⟨w, hText, rfl⟩⟩
  | _ => exact ⟨_, rfl⟩

/-- A field that holds steps has one spelling only. -/
theorem eq_of_fieldName_nested {other : String} (h : name ∈ kind.nestedNames)
    (hSame : fieldName kind other = name) : other = name := by
  unfold fieldName at hSame
  split at hSame
  · subst hSame
    exact absurd h (by decide)
  · subst hSame
    exact absurd h (by decide)
  · exact hSame

/-- What is added to a body under a name of reading's own leaves the step as it is. -/
theorem turnsBody_of_overwritten (hName : name ∈ kind.overwrittenNames)
    (hNested : name ∉ kind.nestedNames) (hAdds : Entries.Adds (.text name) v after body body') :
    TurnsBody none kind body body' := by
  refine turnsBody_of_keeps (keeps_of_overwritten hName hAdds) fun other hMem =>
    hAdds.field?_of_ne fun hKey => ?_
  cases hKey
  exact hNested hMem

/-- An earlier spelling of a field that a body has in another one leaves the step as it is. -/
theorem turnsBody_of_later {other : String} (hLater : after.hasField other = true)
    (hSame : fieldName kind other = fieldName kind name)
    (hReadable : (Site.body kind).Readable (.text name) v)
    (hAdds : Entries.Adds (.text name) v after body body') : TurnsBody none kind body body' := by
  have hKeeps := keeps_of_later hLater hSame (exists_normalField hReadable) hAdds
  refine turnsBody_of_keeps hKeeps fun nested hMem => hAdds.field?_of_ne fun hKey => ?_
  cases hKey
  -- A list of steps has one spelling, and the one behind is another key than the added one.
  obtain ⟨hName, -⟩ := fieldName_overwritten kind name (mem_overwrittenNames hMem)
  rw [eq_of_fieldName_nested hMem (hSame.trans hName)] at hLater
  exact hAdds.ne_of_later hLater rfl

/-- What is read over in a body leaves the step as it is. -/
theorem turnsBody_of_readsOver (hAdds : Entries.Adds key v after body body')
    (hReadable : (Site.body kind).Readable key v) (h : (Site.body kind).ReadsOver key after) :
    TurnsBody none kind body body' := by
  obtain ⟨name, rfl, hName⟩ := h
  rcases hName with rfl | ⟨hFailable, rfl⟩ | ⟨other, hLater, hSame⟩
  · exact turnsBody_of_overwritten List.mem_cons_self (by cases kind <;> decide) hAdds
  · have hOver : "fail" ∈ kind.overwrittenNames := by
      rw [StepKind.overwrittenNames, if_pos hFailable]
      exact List.mem_append_right _ List.mem_cons_self
    exact turnsBody_of_overwritten hOver (by cases kind <;> decide) hAdds
  · exact turnsBody_of_later hLater hSame hReadable hAdds

theorem Site.unknown_text (h : site.hasSpelling name = false) : site.Unknown (.text name) := by
  refine ⟨fun other hOther => ?_, fun bs hBytes => by cases hBytes⟩
  cases hOther
  exact h

/-- An unknown key spells a field of the model as a text if at all. -/
theorem Site.Unknown.eq_text (h : site.Unknown key) (hMem : name ∈ site.modelNames)
    (hText : Schema.text key = .valid name) : key = .text name := by
  cases key with
  | text other =>
      cases hText
      rfl
  | bytes bs =>
      rw [Schema.text] at hText
      split at hText
      · rename_i found hBytes
        cases hText
        exact absurd hBytes (h.2 bs rfl name hMem)
      · cases hText
  | _ => cases hText

/-- An unknown key of a mapping without other spellings names no field of the model. -/
theorem Site.Unknown.ne_valid (h : site.Unknown key)
    (hSite : ∀ name, site.hasSpelling name = site.modelNames.contains name) :
    ∀ name ∈ site.modelNames, Schema.text key ≠ .valid name := by
  intro name hMem hText
  have hSpelling := h.1 name (h.eq_text hMem hText)
  rw [hSite, List.contains_iff_mem.mpr hMem] at hSpelling
  cases hSpelling

/-- An unknown key of a body that is not read over is foreign to it. -/
theorem foreign_of_unknown (hUnknown : (Site.body kind).Unknown key)
    (hOver : ¬ (Site.body kind).ReadsOver key after) : Foreign kind key := by
  refine ⟨hUnknown.1, fun name hMem hText => ?_⟩
  have hKey := hUnknown.eq_text hMem hText
  rcases List.mem_cons.mp hMem with rfl | hRest
  · exact hOver ⟨"kind", hKey, .inl rfl⟩
  · rcases List.mem_append.mp hRest with hOwn | hFail
    · have hSpelling := hUnknown.1 name hKey
      rw [Site.hasSpelling, hasSpelling_of_own hOwn] at hSpelling
      cases hSpelling
    · split at hFail
      · rename_i hFailable
        rw [List.mem_singleton] at hFail
        exact hOver ⟨name, hKey, .inr (.inl ⟨hFailable, hFail⟩)⟩
      · exact absurd hFail List.not_mem_nil

/-- What is read over in a mapping, wherever it stands in a document, leaves the flow as it is. -/
theorem turnsFlow_of_readsOver (hChange : Change site entries entries' document document')
    (hAdds : Entries.Adds key v after entries entries') (hReadable : site.Readable key v)
    (hOver : site.ReadsOver key after) : TurnsFlow none document document' := by
  cases hChange with
  | document | notifier => exact hOver.elim
  | @trigger repeats t t' _ _ known replaces =>
      refine turnsFlow_of_trigger known hAdds ?_ replaces
      rintro rfl rfl
      exact absurd (hOver "interval" rfl) (by decide)
  | steps tree replaces =>
      exact turnsFlow_of_steps (tree.turnsSteps (turnsBody_of_readsOver hAdds hReadable hOver)) replaces
  | fallback tree replaces =>
      exact turnsFlow_of_fallback (tree.turnsSteps (turnsBody_of_readsOver hAdds hReadable hOver))
        replaces

/-- An unknown key of a mapping, wherever it stands in a document, is refused unless it is read over. -/
theorem turnsFlow_of_unknown (hChange : Change site entries entries' document document')
    (hAdds : Entries.Adds key v after entries entries') (hReadable : site.Readable key v)
    (hUnknown : site.Unknown key) (hOver : ¬ site.ReadsOver key after) :
    TurnsFlow (some key) document document' := by
  cases hChange with
  | document => exact turnsFlow_of_foreign hAdds (hUnknown.ne_valid fun _ => rfl)
  | trigger => exact absurd hUnknown.1 hOver
  | notifier known tag items items' replaces =>
      exact turnsFlow_of_notifier known tag items' hAdds (hUnknown.ne_valid fun _ => rfl)
        replaces
  | steps tree replaces =>
      have hBody := turnsBody_of_foreign (foreign_of_unknown hUnknown hOver) hAdds
        (exists_normalField hReadable)
      exact turnsFlow_of_steps (tree.turnsSteps hBody) replaces
  | fallback tree replaces =>
      have hBody := turnsBody_of_foreign (foreign_of_unknown hUnknown hOver) hAdds
        (exists_normalField hReadable)
      exact turnsFlow_of_fallback (tree.turnsSteps hBody) replaces

theorem flow_eq_ok : Document.flow document place = .ok flow ↔
    ∃ data, normalForm document place = .ok data ∧ Schema.flow data = .valid flow := by
  rw [Document.flow, bind_eq_ok]
  refine exists_congr fun data => and_congr_right fun _ => ?_
  cases Schema.flow data with
  | valid found => simp [pure, Except.pure]
  | invalid issues => simp

theorem TurnsFlow.stays (h : TurnsFlow none document document')
    (hFlow : Document.flow document place = .ok flow) : Document.flow document' place = .ok flow := by
  obtain ⟨data, hData, hValid⟩ := flow_eq_ok.mp hFlow
  obtain ⟨data', hData', hTurns⟩ := h place data hData
  exact flow_eq_ok.mpr ⟨data', hData', hTurns flow hValid⟩

theorem TurnsFlow.refuses (h : TurnsFlow (some key) document document')
    (hFlow : Document.flow document place = .ok flow) :
    ∃ issues, Document.flow document' place = .error (.model place issues) ∧
      ∃ i ∈ issues, i.Refuses key := by
  obtain ⟨data, hData, -⟩ := flow_eq_ok.mp hFlow
  obtain ⟨data', hData', issues, hIssues, hRefuses⟩ := h place data hData
  refine ⟨issues, ?_, hRefuses⟩
  rw [Document.flow, hData']
  simp only [bind, Except.bind, hIssues]

end Document

/-! ## A draft of a flow -/

namespace Draft

/-- A comparison that sets a variable in its first arm. -/
def flow : FlowDefinition where
  name := none
  trigger := some .once
  notifiers := []
  steps := [.compareVar none "open" "equality" [.setVariable none "yes"] []]
  uponFailure := []

/-- The document of the draft with a trigger and with a body of the step in the arm. -/
def document (trigger body : Entries) : Value :=
  .map (Entries.ofFields [("name", .null), ("trigger", .map trigger), ("notifiers", .list []),
    ("steps", .list [.map [(.text "compare_var", .map (Entries.ofFields
      [("input_var", .null), ("compare_with", .text "open"), ("compare_for", .text "equality"),
        ("if_true", .list [.map [(.text "set_variable", .map body)]]), ("if_false", .list [])]))]]),
    ("upon_failure", .list [])])

/-- The trigger of the draft. -/
def trigger : Entries := [(.text "type", .text "once")]

/-- The body of the step in the arm. -/
def body : Entries := [(.text "output_var", .null), (.text "value", .text "yes")]

theorem read (place : String) : Document.flow (document trigger body) place = .ok flow := by
  have hWord : Document.repeats? "timer" = some true := rfl
  have hSound : flow.Sound := by
    refine ⟨?_, fun x hInterval => ?_, fun name => List.not_mem_nil, rfl⟩
    · simp only [flow, Step.walk, Step.withDescendants, List.forall_mem_cons, List.append_nil]
      exact ⟨Step.sound_of_pause rfl rfl, Step.sound_of_pause rfl rfl, List.forall_mem_nil _⟩
    · cases hInterval
  exact FlowDefinition.read_document hSound hWord place

theorem change_trigger (trigger' : Entries) :
    Document.Change (.trigger false) trigger trigger' (document trigger body)
      (document trigger' body) :=
  .trigger rfl (.at [(.text "name", .null)] _ (by simp [Entries.keys]))

theorem change_body (body' : Entries) :
    Document.Change (.body .setVariable) body body' (document trigger body)
      (document trigger body') := by
  have hStep : Document.BodyChange .setVariable body body'
      (.list [.map [(.text "set_variable", .map body)]])
      (.list [.map [(.text "set_variable", .map body')]]) := .here [] [] rfl
  refine .steps (.nested [] [] rfl List.mem_cons_self ?_ hStep) (.at (Entries.ofFields
    [("name", .null), ("trigger", .map trigger), ("notifiers", .list [])]) _ ?_)
  · exact .at (Entries.ofFields [("input_var", .null), ("compare_with", .text "open"),
      ("compare_for", .text "equality")]) _
      (by simp [Entries.keys, Entries.ofFields, Document.Field.name])
  · simp [Entries.keys, Entries.ofFields]

end Draft

namespace Document

variable {site : Site} {document document' : Value} {entries entries' after : Entries}
  {key v : Value} {place : String} {flow : FlowDefinition}

/-- In a document that writes a flow, a key more in one of its mappings either is read over, and the
document writes that same flow, or is refused, by an issue that tells the key. -/
theorem added_key_is_refused_or_read_over (hFlow : Document.flow document place = .ok flow)
    (hChange : Change site entries entries' document document')
    (hAdds : Entries.Adds key v after entries entries') (hReadable : site.Readable key v) :
    (site.ReadsOver key after → Document.flow document' place = .ok flow) ∧
      (site.Unknown key → ¬ site.ReadsOver key after →
        ∃ issues, Document.flow document' place = .error (.model place issues) ∧
          ∃ i ∈ issues, i.Refuses key) :=
  ⟨fun hOver => (turnsFlow_of_readsOver hChange hAdds hReadable hOver).stays hFlow,
    fun hUnknown hOver => (turnsFlow_of_unknown hChange hAdds hReadable hUnknown hOver).refuses hFlow⟩

/-- A field of the draft in another spelling, in front of the one that is there, is read over; a note is
refused. -/
theorem added_key_is_refused_or_read_over_draft :
    Document.flow (Draft.document Draft.trigger Draft.body) "flow" = .ok Draft.flow ∧
      Document.flow (Draft.document Draft.trigger ((.text "input", .text "no") :: Draft.body)) "flow" =
        .ok Draft.flow ∧
      ∃ issues, Document.flow (Draft.document Draft.trigger ((.text "note", .null) :: Draft.body)) "flow" =
          .error (.model "flow" issues) ∧
        ∃ i ∈ issues, i.Refuses (.text "note") := by
  have hRead := Draft.read "flow"
  obtain ⟨hReadOver, -⟩ := added_key_is_refused_or_read_over hRead (Draft.change_body _)
    (.in_front "input" (.text "no") rfl) fun _ _ _ hInt => by cases hInt
  obtain ⟨-, hRefused⟩ := added_key_is_refused_or_read_over hRead (Draft.change_body _)
    (.in_front "note" .null rfl) fun _ _ _ hInt => by cases hInt
  refine ⟨hRead, hReadOver ⟨"input", rfl, .inr (.inr ⟨"value", by decide, by decide⟩)⟩,
    hRefused (Site.unknown_text (by decide)) ?_⟩
  rintro ⟨name, hName, hOver⟩
  cases hName
  rcases hOver with hKind | ⟨hFailable, -⟩ | ⟨other, hField, hSame⟩
  · exact absurd hKind (by decide)
  · cases hFailable
  · simp only [Entries.hasField_iff, Draft.body, Entries.keys, List.map_cons, List.map_nil,
      List.mem_cons, Value.text.injEq, List.not_mem_nil, or_false] at hField
    revert hSame
    rcases hField with rfl | rfl <;> decide

/-- A trigger and a body with keys that name no field of theirs, and a body with a field in two
spellings, are accepted, and write the same flow as without them. -/
theorem undocumented_key_is_accepted :
    (Site.trigger false).Unknown (.text "extra") ∧ (Site.body .setVariable).Unknown (.text "kind") ∧
      Document.flow (Draft.document Draft.trigger Draft.body) "flow" = .ok Draft.flow ∧
      Document.flow (Draft.document ((.text "extra", .int 1) :: Draft.trigger) Draft.body) "flow" =
        .ok Draft.flow ∧
      Document.flow (Draft.document Draft.trigger ((.text "kind", .text "abort_flow") :: Draft.body)) "flow" =
        .ok Draft.flow ∧
      Document.flow (Draft.document Draft.trigger ((.text "input", .text "no") :: Draft.body)) "flow" =
        .ok Draft.flow := by
  have hRead := Draft.read "flow"
  have hTrigger := turnsFlow_of_readsOver (Draft.change_trigger _) (.in_front "extra" (.int 1) rfl) trivial
    fun name hName => by cases hName; rfl
  have hKind := turnsFlow_of_readsOver (Draft.change_body _) (.in_front "kind" (.text "abort_flow") rfl)
    (fun _ _ _ hInt => by cases hInt) ⟨"kind", rfl, .inl rfl⟩
  have hSpelling := turnsFlow_of_readsOver (Draft.change_body _) (.in_front "input" (.text "no") rfl)
    (fun _ _ _ hInt => by cases hInt) ⟨"input", rfl, .inr (.inr ⟨"value", by decide, by decide⟩)⟩
  exact ⟨Site.unknown_text (by decide), Site.unknown_text (by decide), hRead, hTrigger.stays hRead,
    hKind.stays hRead, hSpelling.stays hRead⟩

end Document

end Flowline
