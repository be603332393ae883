import Flowline.Proofs.Flow.Parts
import Flowline.Proofs.Flow.Breaks

/-!
Shapes of documents. Before the model is checked, a document is refused because of a part of it that is
ill-shaped: a trigger, a duration, a list of steps or a step. The message begins with the path of that
part, which leads to it in the document, and of several such parts the one that comes first is told.
-/

namespace Flowline

namespace Document

variable {part inner : Part} {v w : Value} {turn : Turn} {path : Path} {fault fault' : ShapeError}
  {place : String} {α β : Type}

/-! ## Lists of steps and steps -/

/-- The branch that a field of a mapping is, if it is there. -/
def fieldBranches (entries : Entries) (turn : Field → Turn) (f : Field) (part : Part) :
    List Branch :=
  ((entries.field? f.name).map fun v => (turn f, part, v)).toList

theorem mem_fieldBranches {entries : Entries} {toTurn : Field → Turn} {f : Field} {b : Branch} :
    b ∈ fieldBranches entries toTurn f part ↔
      ∃ v, entries.field? f.name = some v ∧ b = (toTurn f, part, v) := by
  rw [fieldBranches, Option.mem_toList, Option.map_eq_some_iff]
  exact exists_congr fun v => and_congr_right fun _ => eq_comm

/-- The steps of a list, counted from a number on. -/
def itemBranches (index : Nat) (items : List Value) : List Branch :=
  (items.zipIdx index).map fun item => (.item item.2, .step, item.1)

theorem branches_items (items : List Value) :
    Branches .stepList (.list items) (itemBranches 0 items) where
  sound := by
    intro b hMem
    obtain ⟨item, hItem, rfl⟩ := List.mem_map.mp hMem
    exact .item (List.mem_zipIdx_iff_getElem?.mp hItem)
  complete := by
    intro turn inner w h
    cases h with
    | @item _ index _ given =>
        exact List.mem_map.mpr ⟨(w, index), List.mem_zipIdx_iff_getElem?.mpr given, rfl⟩
  sorted := by
    have hIndices : (List.range' 0 items.length).Pairwise (· < ·) := List.pairwise_lt_range' 1
    rw [← List.zipIdx_map_snd, List.pairwise_map] at hIndices
    exact List.pairwise_map.mpr hIndices

/-- The lists of steps in a body. -/
def nestedBranches (kind : StepKind) (body : Entries) : List Branch :=
  kind.nestedFields.flatMap fun f => fieldBranches body .nested f .stepList

theorem branches_nested {kind : StepKind} {name : Value} {body : Entries}
    (hKnown : stepKind? name.display = some kind) :
    Branches .step (.map [(name, .map body)]) (nestedBranches kind body) where
  sound := by
    intro b hMem
    obtain ⟨f, hField, hBranch⟩ := List.mem_flatMap.mp hMem
    obtain ⟨v, hGiven, rfl⟩ := mem_fieldBranches.mp hBranch
    exact .nested hKnown hField hGiven
  complete := by
    intro turn inner w h
    cases h with
    | nested known holds given =>
        cases hKnown.symm.trans known
        exact List.mem_flatMap.mpr ⟨_, holds, mem_fieldBranches.mpr ⟨w, given, rfl⟩⟩
  sorted := by
    have hOne (f : Field) : (fieldBranches body .nested f .stepList).Pairwise
        fun a b => a.1.rank < b.1.rank := by
      rw [fieldBranches]
      cases Entries.field? body f.name <;> simp
    rw [nestedBranches, List.pairwise_flatMap]
    refine ⟨fun f _ => hOne f, ?_⟩
    have hFields : kind.nestedFields.Pairwise fun f g => f.rank < g.rank := by
      cases kind <;> decide
    refine hFields.imp fun {f g} hLess a hA b hB => ?_
    obtain ⟨_, -, rfl⟩ := mem_fieldBranches.mp hA
    obtain ⟨_, -, rfl⟩ := mem_fieldBranches.mp hB
    exact hLess

variable {kind : StepKind} {body fields entries : Entries} {name : Value}

theorem nestedBranches_failable (h : kind.isFailable = true) :
    nestedBranches kind body = fieldBranches body .nested .uponFailure .stepList := by
  cases kind with
  | notify | getUrl | postUrl | extractCapture | readText | appendText => exact List.append_nil _
  | _ => cases h

theorem nestedBranches_compare (body : Entries) :
    nestedBranches .compareVar body =
      fieldBranches body .nested .ifTrue .stepList ++ fieldBranches body .nested .ifFalse .stepList :=
  congrArg _ (List.append_nil _)

theorem nestedBranches_leaf (hFailable : kind.isFailable = false) (hCompare : kind ≠ .compareVar) :
    nestedBranches kind body = [] := by
  cases kind with
  | abortFlow | debugState | sleep | setVariable => rfl
  | compareVar => exact absurd rfl hCompare
  | _ => cases hFailable

/-- The name of a duration has one spelling only and is not written as a text. -/
theorem timedName_spelling {field : String} (hTimed : kind.timedName? = some field) :
    (∀ other, fieldName kind other = field ↔ other = field) ∧
      textFields.contains field = false := by
  have hName : field = "retry_interval" ∨ field = "duration" := by
    rw [StepKind.timedName?] at hTimed
    split at hTimed
    · exact .inl (Option.some.inj hTimed).symm
    · split at hTimed
      · exact .inr (Option.some.inj hTimed).symm
      · cases hTimed
  refine ⟨fun other => ?_, by rcases hName with rfl | rfl <;> decide⟩
  unfold fieldName
  split
  · rcases hName with rfl | rfl <;> decide
  · rcases hName with rfl | rfl <;> decide
  · exact .rfl

theorem field?_normalField {field : String} {e e' : Value × Value}
    (hTimed : kind.timedName? = some field) (hField : normalField place kind e = .ok e') :
    Entries.field? [e'] field = Entries.field? [e] field := by
  obtain ⟨hSpelling, hText⟩ := timedName_spelling hTimed
  obtain ⟨key, v⟩ := e
  cases key with
  | text other =>
      obtain ⟨w, hValue, rfl⟩ := normalField_text_iff.mp hField
      by_cases hOther : other = field
      · subst hOther
        rw [(hSpelling other).mpr rfl, hText, if_neg Bool.false_ne_true] at hValue
        cases hValue
        rw [(hSpelling other).mpr rfl]
      · have hName : fieldName kind other ≠ field := fun h => hOther ((hSpelling other).mp h)
        rw [Entries.field?_cons_of_ne fun h => hName (Value.text.inj h),
          Entries.field?_cons_of_ne fun h => hOther (Value.text.inj h)]
  | _ =>
      cases hField
      rfl

/-- The duration in a body stands among its fields as it is; the later one if there are two. -/
theorem field?_normalFields {field : String} (hTimed : kind.timedName? = some field)
    (hFields : normalFields place kind body = .ok fields) :
    fields.field? field = (Entries.ofList body).field? field := by
  obtain ⟨pairs, hPairs, hList⟩ := bind_eq_ok.mp hFields
  cases hList
  have hEntries : ∀ {body pairs : Entries}, body.mapM (normalField place kind) = .ok pairs →
      Entries.field? pairs.reverse field = Entries.field? body.reverse field := by
    intro body
    induction body with
    | nil =>
        intro pairs hPairs
        cases hPairs
        rfl
    | cons e rest ih =>
        intro pairs hPairs
        obtain ⟨e', hEntry, others, hRest, rfl⟩ := mapM_cons_eq_ok.mp hPairs
        rw [List.reverse_cons, List.reverse_cons, Entries.field?_append, Entries.field?_append,
          ih hRest, field?_normalField hTimed hEntry]
  rw [Entries.field?_ofList, Entries.field?_ofList, hEntries hPairs]

/-- A step with a kind and a body is ill-shaped only because of a duration. -/
theorem illShaped_body_iff (hKnown : stepKind? name.display = some kind) :
    IllShaped .step (.map [(name, .map body)]) fault ↔
      ∃ field v e, kind.timedName? = some field ∧ (Entries.ofList body).field? field = some v ∧
        Duration.ofValue v = .error e ∧ .duration e = fault := by
  constructor
  · intro h
    cases h with
    | endless inside => cases inside
    | step _ noSingle _ => exact absurd rfl (noSingle _ _)
    | unknownKind unknown => cases hKnown.symm.trans unknown
    | fields _ _ noMapping => cases noMapping
    | duration known timed given malformed =>
        cases hKnown.symm.trans known
        exact ⟨_, _, _, timed, given, malformed, rfl⟩
  · rintro ⟨field, v, e, hTimed, hGiven, hMalformed, rfl⟩
    exact .duration hKnown hTimed hGiven hMalformed

/-- The duration in a body is read, or the step is ill-shaped because of it. -/
theorem durationField_cases {field : String} (hKnown : stepKind? name.display = some kind)
    (hTimed : kind.timedName? = some field) (hFields : normalFields place kind body = .ok fields) :
    (∃ seconds, durationField place field fields = .ok seconds ∧
        ∀ fault, ¬ IllShaped .step (.map [(name, .map body)]) fault) ∨
      ∃ fault, durationField place field fields = .error (.shape place fault) ∧
        IllShaped .step (.map [(name, .map body)]) fault := by
  simp only [illShaped_body_iff hKnown, hTimed, durationField, field?_normalFields hTimed hFields]
  cases hGiven : (Entries.ofList body).field? field with
  | none => exact .inl ⟨none, rfl, by simp [hGiven]⟩
  | some v =>
      cases hRead : Duration.ofValue v with
      | ok seconds =>
          have hDuration : duration place v = .ok (.real seconds) := by rw [duration, hRead]
          refine .inl ⟨some (.real seconds), congrArg (Except.map some) hDuration, ?_⟩
          rintro fault ⟨_, w, e, hSame, hHere, hMalformed, -⟩
          cases hSame
          cases hGiven.symm.trans hHere
          cases hRead.symm.trans hMalformed
      | error e =>
          have hDuration : duration place v = .error (.shape place (.duration e)) := by
            rw [duration, hRead]
          exact .inr ⟨_, congrArg (Except.map some) hDuration, field, v, e, rfl, hGiven, hRead, rfl⟩

/-- A body without fields can be read whatever the kind. -/
theorem exists_normalBody_nil (kind : StepKind) (place : String) :
    ∃ n, normalBody kind [] place = .ok n := by
  have hNested (name place : String) : normalStepsField [] name place = .ok [] :=
    normalStepsField_of_none rfl place
  have hHeaders : headersOf place kind [] = .ok none := by
    unfold headersOf
    split <;> rfl
  have hSeconds : durationOf place kind [] = .ok none := by
    unfold durationOf
    split <;> rfl
  rcases kind.cases_of_nestedNames with ⟨hFailable, -⟩ | rfl | ⟨⟨hFailable, hCompare⟩, -⟩
  · exact ⟨_, (normalBody_failable_iff hFailable).mpr
      ⟨[], rfl, none, rfl, [], hNested _ _, none, hHeaders, rfl⟩⟩
  · exact ⟨_, normalBody_compare_iff.mpr ⟨[], rfl, [], hNested _ _, [], hNested _ _, rfl⟩⟩
  · exact ⟨_, (normalBody_leaf_iff hFailable hCompare).mpr ⟨[], rfl, none, hSeconds, rfl⟩⟩

theorem text_item (place : String) (index : Nat) :
    s!"{place}[{index}]" = place ++ (Turn.item index).text := by
  change place ++ "[" ++ toString index ++ "]" = _
  rw [Turn.text, String.append_assoc, String.append_assoc]

/-- A body whose duration is read before the steps in it. -/
theorem Tells.of_duration {field : String} {next : Option Value → Except Error α}
    (hKnown : stepKind? name.display = some kind) (hTimed : kind.timedName? = some field)
    (hFields : normalFields place kind body = .ok fields)
    (hNext : ∀ seconds, TellsIn (nestedBranches kind body) place (next seconds)) :
    Tells .step (.map [(name, .map body)]) place (durationField place field fields >>= next) := by
  rcases durationField_cases hKnown hTimed hFields with ⟨seconds, hRead, hWell⟩ | ⟨fault, hRead, hIll⟩
  · rw [hRead]
    exact .of_branches hWell (branches_nested hKnown) (hNext seconds)
  · rw [hRead]
    exact .of_illShaped hIll

/-- A body that holds no duration. -/
theorem Tells.of_untimed {x : Except Error α} (hKnown : stepKind? name.display = some kind)
    (hTimed : kind.timedName? = none) (h : TellsIn (nestedBranches kind body) place x) :
    Tells .step (.map [(name, .map body)]) place x := by
  refine .of_branches (fun fault hIll => ?_) (branches_nested hKnown) h
  obtain ⟨_, _, _, hOther, -⟩ := (illShaped_body_iff hKnown).mp hIll
  cases hTimed.symm.trans hOther

mutual

/-- Reading a tree of steps tells the first part of it that is ill-shaped, by induction on the value
that holds it. -/
theorem tells_normalSteps (v : Value) (place : String) (h : v.isShowable = true) :
    Tells .stepList v place (normalSteps v place) := by
  unfold normalSteps
  split
  · refine .of_leaf (fun fault hIll => ?_) (fun turn inner w hLeads => by cases hLeads) _
    cases hIll with
    | endless inside => cases inside
    | stepList some _ => exact some rfl
  · rename_i items
    refine .of_branches (fun fault hIll => ?_) (branches_items items)
      (tellsIn_normalItems items place 0 h)
    cases hIll with
    | endless inside => cases inside
    | stepList _ noList => cases noList
  · exact .of_illShaped (.endless .stepList)
  · rename_i hNull hList hInside
    exact .of_illShaped (.stepList hNull (Value.isList_eq_false hList hInside))
termination_by (sizeOf v, 0)

theorem tellsIn_normalItems (items : List Value) (place : String) (index : Nat)
    (h : Value.areShowable items = true) :
    TellsIn (itemBranches index items) place (normalItems items place index) := by
  unfold normalItems
  split
  · exact .ok (List.forall_mem_nil _)
  · rename_i item rest
    rw [Value.areShowable, Bool.and_eq_true] at h
    have hItem : Tells .step item (place ++ (Turn.item index).text)
        (normalStep item s!"{place}[{index}]") := by
      rw [text_item]
      exact tells_normalStep item _ h.1
    exact (TellsIn.single hItem).bind fun _ =>
      (tellsIn_normalItems rest place (index + 1) h.2).bind_unfailing fun _ => .ok _
termination_by (sizeOf items, 0)

theorem tells_normalStep (v : Value) (place : String) (h : v.isShowable = true) :
    Tells .step v place (normalStep v place) := by
  unfold normalStep
  split
  · rename_i name
    split
    · exact .of_illShaped (.unknownName ‹_›)
    · rename_i kind hKnown
      obtain ⟨n, hBody⟩ := exists_normalBody_nil kind place
      rw [hBody]
      refine .of_leaf (fun fault hIll => ?_) (fun turn inner w hLeads => by cases hLeads) n
      cases hIll with
      | endless inside => cases inside
      | step noName _ _ => cases noName
      | unknownName unknown => cases hKnown.symm.trans unknown
  · exact .of_illShaped .tornName
  · rename_i name body
    have hParts := Value.entriesShowable_iff.mp h _ List.mem_cons_self
    rw [shown, if_pos hParts.1]
    dsimp only [bind, Except.bind]
    split
    · exact .of_illShaped (.unknownKind ‹_›)
    · rename_i kind hKnown
      split
      · obtain ⟨n, hBody⟩ := exists_normalBody_nil kind place
        rw [hBody]
        refine .of_leaf (fun fault hIll => ?_) (fun turn inner w hLeads => by cases hLeads) n
        cases hIll with
        | endless inside => cases inside
        | step _ noSingle _ => exact noSingle _ _ rfl
        | unknownKind unknown => cases hKnown.symm.trans unknown
        | fields _ some _ => exact some rfl
      · exact tells_normalBody kind _ name place hKnown hParts.2
      · exact .of_illShaped (.endless (.fields hKnown))
      · rename_i hNull hMap hInside
        exact .of_illShaped (.fields hKnown hNull (Value.isMapping_eq_false hMap hInside))
  · exact .of_illShaped (.endless .step)
  · rename_i hText hTorn hMap hInside
    exact .of_illShaped (.step (Value.isText_eq_false hText hTorn) hMap hInside)
termination_by (sizeOf v, 0)

theorem tells_normalBody (kind : StepKind) (body : Entries) (name : Value) (place : String)
    (hKnown : stepKind? name.display = some kind) (h : Value.entriesShowable body = true) :
    Tells .step (.map [(name, .map body)]) place (normalBody kind body place) := by
  have hBounds : Bounds (·.isShowable = true) fun _ => False := bounds_showable _
  have hGood := Value.entriesShowable_iff.mp h
  obtain ⟨fields, hFields⟩ := (hBounds.normalFields hGood place kind).exists_ok
  rcases kind.cases_of_nestedNames with ⟨hFailable, -⟩ | rfl | ⟨⟨hFailable, hCompare⟩, -⟩
  · rw [normalBody_failable_eq hFailable, hFields]
    refine .of_duration hKnown (if_pos hFailable) hFields fun _ => ?_
    rw [nestedBranches_failable hFailable]
    refine (tellsIn_normalStepsField body .uponFailure place h).bind_unfailing fun _ => ?_
    exact (hBounds.headersOf _ fun _ => hBounds.good_normalFields hGood hFields).bind fun _ => .ok _
  · rw [normalBody_compare_eq, hFields]
    refine .of_untimed hKnown rfl ?_
    rw [nestedBranches_compare]
    exact (tellsIn_normalStepsField body .ifTrue place h).bind fun _ =>
      (tellsIn_normalStepsField body .ifFalse place h).bind_unfailing fun _ => .ok _
  · rw [normalBody_leaf_eq hFailable hCompare, hFields]
    have hNested : nestedBranches kind body = [] := nestedBranches_leaf hFailable hCompare
    by_cases hSleep : kind = .sleep
    · have hSeconds : durationOf place kind fields = durationField place "duration" fields :=
        if_pos hSleep
      change Tells _ _ _ (durationOf _ _ _ >>= _)
      rw [hSeconds]
      refine .of_duration hKnown ?_ hFields fun _ => ?_
      · rw [StepKind.timedName?, hFailable, if_neg Bool.false_ne_true, if_pos hSleep]
      · rw [hNested]
        exact .ok (List.forall_mem_nil _)
    · have hSeconds : durationOf place kind fields = .ok none := if_neg hSleep
      refine .of_untimed hKnown ?_ ?_
      · rw [StepKind.timedName?, hFailable, if_neg Bool.false_ne_true, if_neg hSleep]
      · change TellsIn _ _ (durationOf _ _ _ >>= _)
        rw [hNested, hSeconds]
        exact .ok (List.forall_mem_nil _)
termination_by (sizeOf body, 2)

theorem tellsIn_normalStepsField (body : Entries) (f : Field) (place : String)
    (h : Value.entriesShowable body = true) :
    TellsIn (fieldBranches body .nested f .stepList) place
      (normalStepsField body f.name (place ++ (Turn.nested f).text)) := by
  unfold normalStepsField fieldBranches
  split
  · rename_i v hGiven
    rw [hGiven]
    exact .single (tells_normalSteps v _ (Value.isShowable_of_field? h hGiven))
  · rename_i hNone
    rw [hNone]
    exact .ok (List.forall_mem_nil _)
termination_by (sizeOf body, 1)
decreasing_by exact Prod.Lex.left _ _ (Entries.sizeOf_lt_of_field? ‹_›)

end

/-! ## Documents -/

theorem Tells.bind_ok {x : Except Error α} {next : α → Except Error β} (h : Tells part v place x)
    (hNext : ∀ a, ∃ b, next a = .ok b) : Tells part v place (x >>= next) := by
  cases h with
  | error first => exact .error first
  | @ok a well =>
      obtain ⟨b, hb⟩ := hNext a
      change Tells part v place (next a)
      rw [hb]
      exact .ok well

theorem tells_duration (v : Value) (place : String) : Tells .interval v place (duration place v) := by
  rw [duration]
  split
  · rename_i seconds hRead
    refine .of_leaf (fun fault hIll => ?_) (fun turn inner w hLeads => by cases hLeads) _
    cases hIll with
    | endless inside => cases inside
    | interval malformed => cases hRead.symm.trans malformed
  · exact .of_illShaped (.interval ‹_›)

theorem tells_normalTrigger (h : v.isShowable = true) (place : String) :
    Tells .trigger v place (normalTrigger v place) := by
  unfold normalTrigger
  split
  · refine .of_leaf (fun fault hIll => ?_) (fun turn inner w hLeads => by cases hLeads) _
    cases hIll with
    | endless inside => cases inside
    | trigger some _ => exact some rfl
  · rename_i entries
    have hType : ((Entries.field? entries "type").getD .null).isShowable = true :=
      (bounds_showable fun _ => False).fieldOrNull (Value.entriesShowable_iff.mp h) "type"
    dsimp only [shown]
    rw [if_pos hType]
    dsimp only [bind, Except.bind]
    have hWell {repeats : Bool} (hType : repeats? (fieldOrNull entries "type").display = some repeats)
        (fault : ShapeError) : ¬ IllShaped .trigger (.map entries) fault := by
      intro hIll
      cases hIll with
      | endless inside => cases inside
      | trigger _ noMapping => cases noMapping
      | triggerType unknown => cases hType.symm.trans unknown
    split
    · exact .of_illShaped (.triggerType ‹_›)
    · rename_i hOnce
      refine .of_leaf (hWell hOnce) (fun turn inner w hLeads => ?_) _
      cases hLeads with
      | interval repeats _ _ => cases hOnce.symm.trans repeats
    · rename_i hRepeats
      split
      · rename_i hNone
        refine .of_leaf (hWell hRepeats) (fun turn inner w hLeads => ?_) _
        cases hLeads with
        | interval _ given _ => cases hNone.symm.trans given
      · rename_i hNull
        refine .of_leaf (hWell hRepeats) (fun turn inner w hLeads => ?_) _
        cases hLeads with
        | interval _ given some =>
            cases hNull.symm.trans given
            exact some rfl
      · rename_i v hSome hGiven
        have hBranches : Branches .trigger (.map entries) [(.field .interval, .interval, v)] := by
          refine ⟨List.forall_mem_singleton.mpr (.interval hRepeats hGiven hSome), ?_,
            List.pairwise_singleton _ _⟩
          intro turn inner w hLeads
          cases hLeads with
          | interval _ given _ =>
              cases hGiven.symm.trans given
              exact List.mem_singleton_self _
        refine .of_branches (hWell hRepeats) hBranches (.single ?_)
        exact (tells_duration v _).bind_ok fun _ => ⟨_, rfl⟩
  · exact .of_illShaped (.endless .trigger)
  · rename_i hNull hMap hInside
    exact .of_illShaped (.trigger hNull (Value.isMapping_eq_false hMap hInside))

/-- The parts of a document, in order. -/
def documentBranches (entries : Entries) : List Branch :=
  fieldBranches entries .field .trigger .trigger ++ (fieldBranches entries .field .steps .stepList ++
    fieldBranches entries .field .uponFailure .stepList)

theorem branches_document (entries : Entries) :
    Branches .document (.map entries) (documentBranches entries) where
  sound := by
    intro b hMem
    rw [documentBranches, List.mem_append, List.mem_append] at hMem
    simp only [mem_fieldBranches] at hMem
    rcases hMem with ⟨v, hGiven, rfl⟩ | ⟨v, hGiven, rfl⟩ | ⟨v, hGiven, rfl⟩
    · exact .trigger hGiven
    · exact .steps hGiven
    · exact .fallback hGiven
  complete := by
    intro turn inner w h
    rw [documentBranches, List.mem_append, List.mem_append]
    simp only [mem_fieldBranches]
    cases h with
    | trigger given => exact .inl ⟨w, given, rfl⟩
    | steps given => exact .inr (.inl ⟨w, given, rfl⟩)
    | fallback given => exact .inr (.inr ⟨w, given, rfl⟩)
  sorted := by
    unfold documentBranches fieldBranches
    cases Entries.field? entries Field.trigger.name <;> cases Entries.field? entries Field.steps.name <;>
      cases Entries.field? entries Field.uponFailure.name <;> simp [Turn.rank, Field.rank]

/-- The reading of a field of a document, null if there is none. -/
theorem tellsIn_fieldOrNull {f : Field} {read : Value → Except Error α} {a : α}
    (hNull : read .null = .ok a)
    (hRead : ∀ v, entries.field? f.name = some v → Tells part v (place ++ (Turn.field f).text) (read v)) :
    TellsIn (fieldBranches entries .field f part) place (read (fieldOrNull entries f.name)) := by
  rw [fieldOrNull, fieldBranches]
  cases hGiven : Entries.field? entries f.name with
  | none =>
      change TellsIn [] place (read .null)
      rw [hNull]
      exact .ok (List.forall_mem_nil _)
  | some v => exact .single (hRead v hGiven)

theorem normalSteps_null (place : String) : normalSteps .null place = .ok [] := by
  rw [normalSteps]

theorem tellsIn_stepsOf (place : String) (h : Value.entriesShowable entries = true) :
    TellsIn (fieldBranches entries .field .steps .stepList) place
      (stepsOf (place ++ (Turn.field .steps).text) (entries.field? "steps")) := by
  rw [fieldBranches]
  change TellsIn (Option.toList ((entries.field? "steps").map _)) _ _
  cases hGiven : entries.field? "steps" with
  | none => exact .ok (List.forall_mem_nil _)
  | some v =>
      have hSteps := tells_normalSteps v (place ++ (Turn.field .steps).text)
        (Value.isShowable_of_field? h hGiven)
      exact .single (hSteps.bind_ok fun _ => ⟨_, rfl⟩)

theorem tells_normalForm {document : Value} (h : document.isShowable = true) (place : String) :
    Tells .document document place (normalForm document place) := by
  cases document with
  | map entries =>
      have hField {name : String} {v : Value} (hGiven : Entries.field? entries name = some v) :
          v.isShowable = true := Value.isShowable_of_field? h hGiven
      have hBounds : Bounds (·.isShowable = true) fun _ => False := bounds_showable _
      have hNamed := hBounds.fieldOrNull (Value.entriesShowable_iff.mp h) "name"
      obtain ⟨name, hName⟩ := (hBounds.nameOf hNamed place).exists_ok
      rw [normalForm_eq, hName]
      refine .of_branches (fun fault hIll => ?_) (branches_document entries) ?_
      · cases hIll with
        | endless inside => cases inside
        | document noMapping => cases noMapping
      refine (tellsIn_fieldOrNull (f := .trigger) (by rfl) fun v hGiven =>
        tells_normalTrigger (hField hGiven) _).bind fun _ => ?_
      refine (tellsIn_stepsOf place h).bind fun _ => ?_
      exact (tellsIn_fieldOrNull (f := .uponFailure) (normalSteps_null _) fun v hGiven =>
        tells_normalSteps v _ (hField hGiven)).bind_unfailing fun _ => .ok _
  | enclosing isMap =>
      cases isMap with
      | true => exact .of_illShaped (.endless .document)
      | false => exact .of_illShaped (.document rfl)
  | _ => exact .of_illShaped (.document rfl)

theorem message_shape (h : IllShaped part v fault) (hEnding : fault ≠ .endless) (place : String) :
    (Error.shape place fault).message = place ++ ": " ++ fault.message := by
  cases h <;> first | rfl | exact absurd rfl hEnding

end Document

/-! ## A document with several defects and one without -/

namespace Survey

/-- A body with a duration that is none and steps that are no list. -/
def request : Entries := [(.text "upon_failure", .text "stop"), (.text "retry_interval", .list [])]

/-- A body whose second arm holds the request, with the first one behind it. -/
def choice : Entries :=
  [(.text "if_false", .list [.text "jump"]), (.text "if_true", .list [.map [(.text "get_url", .map request)]])]

/-- Besides the request, the step behind the comparison and the fallback are ill-shaped, and the request
has no url. -/
def document : Value :=
  .map [(.text "upon_failure", .text "stop"), (.text "trigger", .map [(.text "type", .text "timer")]),
    (.text "steps", .list [.map [(.text "compare_var", .map choice)], .bool true])]

theorem normalForm_document : Document.normalForm document "flow" =
    .error (.shape "flow.steps[0].if_true[0]" (.duration (.wrongKind "list"))) := by
  have hRequest (place : String) : Document.normalBody .getUrl request place =
      .error (.shape place (.duration (.wrongKind "list"))) := by
    rw [Document.normalBody_failable_eq rfl]
    rfl
  have hArm : Document.normalSteps (.list [.map [(.text "get_url", .map request)]])
      "flow.steps[0].if_true" =
        .error (.shape "flow.steps[0].if_true[0]" (.duration (.wrongKind "list"))) := by
    rw [Document.normalSteps, Document.normalItems, Document.normalStep]
    change (Document.normalBody .getUrl request "flow.steps[0].if_true[0]" >>= _) = _
    rw [hRequest]
    rfl
  have hChoice : Document.normalBody .compareVar choice "flow.steps[0]" =
      .error (.shape "flow.steps[0].if_true[0]" (.duration (.wrongKind "list"))) := by
    rw [Document.normalBody_compare_eq]
    change (Document.normalStepsField choice "if_true" "flow.steps[0].if_true" >>= _) = _
    rw [Document.normalStepsField_of_field? rfl, hArm]
    rfl
  have hSteps : Document.normalSteps (.list [.map [(.text "compare_var", .map choice)], .bool true])
      "flow.steps" = .error (.shape "flow.steps[0].if_true[0]" (.duration (.wrongKind "list"))) := by
    rw [Document.normalSteps, Document.normalItems, Document.normalStep]
    change (Document.normalBody .compareVar choice "flow.steps[0]" >>= _) = _
    rw [hChoice]
    rfl
  rw [document, Document.normalForm_eq]
  change (Document.stepsOf "flow.steps"
    (some (.list [.map [(.text "compare_var", .map choice)], .bool true])) >>= _) = _
  rw [Document.stepsOf, hSteps]
  rfl

end Survey

namespace Bare

/-- The entries of a document with a trigger and one step, whose body is null. -/
def entries (trigger : Value) : Entries :=
  [(.text "trigger", trigger), (.text "steps", .list [.map [(.text "debug_state", .null)]])]

def flow (trigger : Option Trigger) : FlowDefinition := ⟨none, trigger, [], [.debugState], []⟩

/-- The step as its model is checked. -/
def step : Value := .map [(.text "kind", .text "debug_state")]

theorem normalForm_entries {trigger data : Value}
    (h : Document.normalTrigger trigger "flow.trigger" = .ok data) :
    Document.normalForm (.map (entries trigger)) "flow" =
      .ok (.map (Document.formEntries (entries trigger) none data (.list []) (some (.list [step])) [])) := by
  have hBody : Document.normalBody .debugState [] "flow.steps[0]" = .ok step := by
    rw [Document.normalBody_leaf_eq rfl (by decide)]
    rfl
  have hSteps : Document.normalSteps (.list [.map [(.text "debug_state", .null)]]) "flow.steps" =
      .ok [step] := by
    rw [Document.normalSteps, Document.normalItems, Document.normalItems, Document.normalStep]
    change (Document.normalBody .debugState [] "flow.steps[0]" >>= _) = _
    rw [hBody]
    rfl
  rw [Document.normalForm_eq]
  change (Document.normalTrigger trigger "flow.trigger" >>= fun _ => Document.stepsOf "flow.steps"
    (some (.list [.map [(.text "debug_state", .null)]])) >>= _) = _
  rw [h]
  change (Document.stepsOf "flow.steps" _ >>= _) = _
  rw [Document.stepsOf, hSteps]
  change (Document.normalSteps .null _ >>= _) = _
  rw [Document.normalSteps_null]
  rfl

theorem read {trigger data : Value} {checked : Option Trigger}
    (hRead : Document.normalTrigger trigger "flow.trigger" = .ok data)
    (hCheck : Schema.trigger data = .valid checked) :
    Document.flow (.map (entries trigger)) "flow" = .ok (flow checked) := by
  have hStep : Schema.stepList (.list [step]) = .valid [.debugState] := by
    have hKind : StepKind.debugState.isFailable = false := rfl
    rw [Schema.stepList, Schema.stepChecks, Schema.stepChecks, step,
      Schema.step_of_leaf hKind (by decide) rfl]
    rfl
  have hNone : Schema.stepList (.list []) = .valid [] := by
    rw [Schema.stepList, Schema.stepChecks]
    rfl
  refine Document.flow_eq_ok.mpr ⟨_, normalForm_entries hRead, ?_⟩
  rw [Schema.flow, Schema.flowFields]
  change ((Schema.model _ _ (FlowDefinition.mk <$> .valid none <*>
    (Schema.trigger data).within (.name "trigger") <*> .valid [] <*>
    (Schema.stepList (.list [step])).within (.name "steps") <*>
    (Schema.stepList (.list [])).within (.name "upon_failure"))).andThen _) = _
  rw [hCheck, hStep, hNone]
  rfl

/-- A trigger that does not repeat, with an interval that is no duration. -/
def onceTrigger : Value := .map [(.text "type", .text "once"), (.text "interval", .list [])]

end Bare

namespace Document

/-- Reading a document fails before its model is checked if and only if a part of it is ill-shaped. The
error is then that of the first such part: the message begins with the path which leads to it, whatever
is wrong with the parts behind it or with the model. A part that has no end is told in its turn, but
breaks the search off. -/
theorem flow_tells_first_ill_shaped {document : Value} (hShowable : document.isShowable = true)
    (place : String) :
    ((∃ e, normalForm document place = .error e) ↔
        ∃ path fault, IllAt .document document path fault) ∧
      (∀ e, normalForm document place = .error e → flow document place = .error e ∧
        ∃ path fault, FirstIllAt .document document path fault ∧
          e = .shape (place ++ path.text) fault ∧
          (fault ≠ .endless → e.message = place ++ path.text ++ ": " ++ fault.message) ∧
          ∃ part v, path.follow document = some v ∧ IllShaped part v fault) ∧
      ∀ data, normalForm document place = .ok data →
        ∀ p fault, flow document place ≠ .error (.shape p fault) := by
  have hTells := tells_normalForm hShowable place
  generalize hForm : normalForm document place = form at hTells ⊢
  cases hTells with
  | @ok data well =>
      refine ⟨⟨?_, fun ⟨path, fault, hIll⟩ => (well path fault hIll).elim⟩, ?_, ?_⟩
      · rintro ⟨e, hError⟩
        cases hError
      · intro e hError
        cases hError
      · intro data' _ p fault hFlow
        rw [flow, hForm] at hFlow
        dsimp only [bind, Except.bind] at hFlow
        split at hFlow <;> cases hFlow
  | @error path fault first =>
      refine ⟨⟨fun _ => ⟨path, fault, first.1⟩, fun _ => ⟨_, rfl⟩⟩, ?_, ?_⟩
      · intro e hError
        cases hError
        obtain ⟨part, v, hHolds, hIll⟩ := first.1
        refine ⟨?_, path, fault, first, rfl, fun hEnding => message_shape hIll hEnding _, part, v,
          hHolds.follow, hIll⟩
        rw [flow, hForm]
        rfl
      · intro data hOk
        cases hOk

/-- The survey is refused because of its request. -/
theorem flow_tells_first_ill_shaped_survey :
    Survey.document.isShowable = true ∧
      ∃ path, FirstIllAt .document Survey.document path (.duration (.wrongKind "list")) ∧
        "flow" ++ path.text = "flow.steps[0].if_true[0]" ∧
        flow Survey.document "flow" =
          .error (.shape ("flow" ++ path.text) (.duration (.wrongKind "list"))) := by
  have hShowable : Survey.document.isShowable = true := rfl
  obtain ⟨-, hTold, -⟩ := flow_tells_first_ill_shaped hShowable "flow"
  obtain ⟨hFlow, path, fault, hFirst, hError, -⟩ := hTold _ Survey.normalForm_document
  injection hError with hPath hFault
  subst hFault
  exact ⟨hShowable, path, hFirst, hPath.symm, hPath ▸ hFlow⟩

/-- A trigger and a body that are null are no mappings, and the interval of a trigger that does not
repeat may be no duration, but the documents that hold them are accepted. -/
theorem null_parts_are_accepted :
    (∀ entries, Value.null ≠ .map entries) ∧
      Path.follow [.field .trigger] (.map (Bare.entries .null)) = some .null ∧
      Path.follow [.field .steps, .item 0] (.map (Bare.entries .null)) =
        some (.map [(.text "debug_state", .null)]) ∧
      flow (.map (Bare.entries .null)) "flow" = .ok (Bare.flow none) ∧
      Path.follow [.field .trigger, .field .interval] (.map (Bare.entries Bare.onceTrigger)) =
        some (.list []) ∧
      Duration.ofValue (.list []) = .error (.wrongKind "list") ∧
      flow (.map (Bare.entries Bare.onceTrigger)) "flow" = .ok (Bare.flow (some .once)) := by
  refine ⟨fun entries hMap => ?_, rfl, rfl, Bare.read rfl rfl, rfl, rfl, Bare.read rfl rfl⟩
  cases hMap

end Document

end Flowline
