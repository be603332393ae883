import Flowline.Proofs.Flow.Body

/-!
Keys of bodies. What is added to the body of a step is refused if it names no field of the body, and
changes nothing if reading puts a value of its own in its place; and so in every list of steps that has
the body somewhere in its tree.
-/

namespace Flowline

/-- Whether a name is one under which a field of a body can be written, in any spelling. -/
def StepKind.hasSpelling (kind : StepKind) (name : String) : Bool :=
  kind.ownNames.contains (Document.fieldName kind name) || kind.budgetNames.contains name

namespace Document

variable {kind : StepKind} {place name : String} {key v w : Value}
  {before after body body' fields : Entries} {refused : Option Value}

/-! ## Fields of a body -/

/-- The key of a field in the model by its key in a document. -/
def normalKey (kind : StepKind) : Value → Value
  | .text name => .text (fieldName kind name)
  | key => key

theorem normalField_text_iff {e : Value × Value} :
    normalField place kind (.text name, v) = .ok e ↔
      ∃ w, (if textFields.contains (fieldName kind name) then asText place v else .ok v) = .ok w ∧
        (.text (fieldName kind name), w) = e := by
  have hPair : ∀ x : Except Error Value,
      (x >>= fun w => Except.ok (Value.text (fieldName kind name), w)) = .ok e ↔
        ∃ w, x = .ok w ∧ (.text (fieldName kind name), w) = e := by
    intro x
    rw [bind_eq_ok]
    exact exists_congr fun w => and_congr_right fun _ => ⟨Except.ok.inj, congrArg Except.ok⟩
  rw [← hPair]
  dsimp only [normalField]
  by_cases hText : textFields.contains (fieldName kind name) = true
  · rw [if_pos hText, if_pos hText]
    rfl
  · rw [if_neg hText, if_neg hText]
    rfl

theorem normalField_key {e e' : Value × Value} (h : normalField place kind e = .ok e') :
    e'.1 = normalKey kind e.1 := by
  obtain ⟨key, v⟩ := e
  cases key with
  | text name =>
      obtain ⟨w, -, rfl⟩ := normalField_text_iff.mp h
      rfl
  | _ =>
      cases h
      rfl

theorem keys_mapM_normalField (h : body.mapM (normalField place kind) = .ok fields) :
    fields.keys = body.keys.map (normalKey kind) := by
  induction body generalizing fields with
  | nil =>
      cases h
      rfl
  | cons e rest ih =>
      obtain ⟨e', hField, others, hRest, rfl⟩ := mapM_cons_eq_ok.mp h
      change e'.1 :: Entries.keys others = _
      rw [normalField_key hField, ih hRest]
      rfl

theorem normalFields_append_iff :
    normalFields place kind (before ++ after) = .ok fields ↔
      ∃ first, before.mapM (normalField place kind) = .ok first ∧
      ∃ last, after.mapM (normalField place kind) = .ok last ∧
        Entries.ofList (first ++ last) = fields := by
  rw [normalFields, bind_eq_ok]
  simp only [mapM_append_eq_ok]
  constructor
  · rintro ⟨_, ⟨first, hFirst, last, hLast, rfl⟩, hFields⟩
    exact ⟨first, hFirst, last, hLast, Except.ok.inj hFields⟩
  · rintro ⟨first, hFirst, last, hLast, rfl⟩
    exact ⟨_, ⟨first, hFirst, last, hLast, rfl⟩, rfl⟩

/-- The fields of a body with an entry more are collected with that entry among them. -/
theorem normalFields_insert {e : Value × Value}
    (hFields : normalFields place kind (before ++ after) = .ok fields)
    (hEntry : normalField place kind (key, v) = .ok e) :
    ∃ first last : Entries, first.keys = before.keys.map (normalKey kind) ∧
      last.keys = after.keys.map (normalKey kind) ∧ fields = Entries.ofList (first ++ last) ∧
      normalFields place kind (before ++ (key, v) :: after) = .ok (Entries.ofList (first ++ e :: last)) := by
  obtain ⟨first, hFirst, last, hLast, rfl⟩ := normalFields_append_iff.mp hFields
  refine ⟨first, last, keys_mapM_normalField hFirst, keys_mapM_normalField hLast, rfl, ?_⟩
  exact normalFields_append_iff.mpr
    ⟨first, hFirst, e :: last, mapM_cons_eq_ok.mpr ⟨e, hEntry, last, hLast, rfl⟩, rfl⟩

/-- A name under which reading puts a value of its own is neither another spelling nor written as a
text. -/
theorem fieldName_overwritten (kind : StepKind) :
    ∀ name ∈ kind.overwrittenNames, fieldName kind name = name ∧ textFields.contains name = false := by
  cases kind <;> decide

theorem normalField_overwritten (h : name ∈ kind.overwrittenNames) :
    normalField place kind (.text name, v) = .ok (.text name, v) := by
  obtain ⟨hName, hText⟩ := fieldName_overwritten kind name h
  refine normalField_text_iff.mpr ⟨v, ?_, by rw [hName]⟩
  rw [hName, hText, if_neg Bool.false_ne_true]

theorem mem_overwrittenNames (h : name ∈ kind.nestedNames) : name ∈ kind.overwrittenNames :=
  List.mem_cons_of_mem _ (List.mem_append_left _ h)

/-- Fields agree with those among which there is one more, under a name at which reading puts a value of
its own. -/
theorem agree_insert (h : name ∈ kind.overwrittenNames) (v : Value) (first last : Entries) :
    Agree kind (Entries.ofList (first ++ last)) (Entries.ofList (first ++ (.text name, v) :: last)) where
  fields other hOther := by
    refine Entries.field?_ofList_insert (fun hSame => hOther ?_) first last
    cases hSame
    exact h
  keys k hKey := by
    rw [Entries.mem_keys_ofList_insert]
    exact or_iff_left (hKey name h)

/-- What is added under a name at which reading puts a value of its own changes no other field. -/
theorem keeps_of_overwritten (h : name ∈ kind.overwrittenNames)
    (hAdds : Entries.Adds (.text name) v after body body') : Keeps kind body body' := by
  obtain ⟨before, -⟩ := hAdds
  intro place fields hFields
  obtain ⟨first, last, -, -, rfl, hNew⟩ :=
    normalFields_insert hFields (normalField_overwritten h)
  exact ⟨_, hNew, agree_insert h v first last⟩

/-- What is added under a spelling of a field changes nothing if another spelling of that field stands
behind it. -/
theorem keeps_of_later {other : String} (hOther : after.hasField other = true)
    (hSame : fieldName kind other = fieldName kind name)
    (hEntry : ∀ place, ∃ e, normalField place kind (.text name, v) = .ok e)
    (hAdds : Entries.Adds (.text name) v after body body') : Keeps kind body body' := by
  obtain ⟨before, -⟩ := hAdds
  intro place fields hFields
  obtain ⟨⟨key, w⟩, hField⟩ := hEntry place
  obtain ⟨first, last, -, hLast, rfl, hNew⟩ := normalFields_insert hFields hField
  obtain rfl : key = .text (fieldName kind name) := normalField_key hField
  have hLater : .text (fieldName kind name) ∈ last.keys := by
    rw [hLast, ← hSame]
    exact List.mem_map.mpr ⟨_, Entries.hasField_iff.mp hOther, rfl⟩
  refine ⟨_, hNew, fun other _ => ?_, fun k _ => ?_⟩
  · by_cases hName : fieldName kind name = other
    · exact Entries.field?_ofList_of_later _ first (hName ▸ hLater)
    · exact Entries.field?_ofList_insert (by simpa using hName) first last
  · rw [Entries.mem_keys_ofList_insert]
    refine or_iff_left_of_imp ?_
    rintro rfl
    rw [Entries.text_mem_keys_ofList, Entries.keys_append]
    exact List.mem_append_right _ hLater

theorem keeps_of_replaces (h : name ∈ kind.overwrittenNames)
    (hReplaces : Entries.Replaces name v w body body') : Keeps kind body body' := by
  obtain ⟨before, after, -⟩ := hReplaces
  intro place fields hFields
  obtain ⟨first, hFirst, rest, hRest, rfl⟩ := normalFields_append_iff.mp hFields
  obtain ⟨e, hEntry, last, hLast, rfl⟩ := mapM_cons_eq_ok.mp hRest
  cases hEntry.symm.trans (normalField_overwritten h)
  exact ⟨_, normalFields_append_iff.mpr ⟨first, hFirst, (.text name, w) :: last,
    mapM_cons_eq_ok.mpr ⟨_, normalField_overwritten h, last, hLast, rfl⟩, rfl⟩,
    (agree_insert h v first last).symm.trans (agree_insert h w first last)⟩

/-! ## A key that is no field of a body -/

/-- A name that is another spelling is one of a field of the model. -/
theorem fieldName_cases (kind : StepKind) (name : String) :
    fieldName kind name = name ∨ fieldName kind name ∈ kind.ownNames := by
  unfold fieldName
  split
  · exact .inr (by decide)
  · exact .inr (by decide)
  · exact .inl rfl

theorem fieldName_eq (h : kind.hasSpelling name = false) : fieldName kind name = name := by
  rw [StepKind.hasSpelling, Bool.or_eq_false_iff, ← Bool.not_eq_true, List.contains_iff_mem] at h
  exact (fieldName_cases kind name).resolve_right h.1

/-- The name of a field in the model is one of its spellings. -/
theorem hasSpelling_of_own (h : name ∈ kind.ownNames) : kind.hasSpelling name = true := by
  cases hSpelling : kind.hasSpelling name with
  | true => rfl
  | false =>
      have hName := fieldName_eq hSpelling
      rw [StepKind.hasSpelling, hName, List.contains_iff_mem.mpr h] at hSpelling
      cases hSpelling

/-- A key that names no field of a body, neither in a document nor in the model. -/
structure Foreign (kind : StepKind) (key : Value) : Prop where
  spelling : ∀ name, key = .text name → kind.hasSpelling name = false
  model : ∀ name ∈ kind.modelNames, Schema.text key ≠ .valid name

namespace Foreign

theorem normalKey (h : Foreign kind key) : normalKey kind key = key := by
  cases key with
  | text name => exact congrArg Value.text (fieldName_eq (h.spelling name rfl))
  | _ => rfl

theorem ne_text (h : Foreign kind key) (hName : kind.hasSpelling name = true) : key ≠ .text name := by
  intro hKey
  rw [h.spelling name hKey] at hName
  cases hName

/-- No other key becomes the same as a foreign one. -/
theorem not_sameKey (h : Foreign kind key) {k : Value} (hOther : k.sameKey key = false) :
    (Document.normalKey kind k).sameKey key = false := by
  cases k with
  | text name =>
      rcases fieldName_cases kind name with hName | hOwn
      · rw [Document.normalKey, hName]
        exact hOther
      · rw [← Bool.not_eq_true, Document.normalKey, Entries.text_sameKey_iff]
        rintro rfl
        exact h.model _ (List.mem_cons_of_mem _ (List.mem_append_left _ hOwn)) rfl
  | _ => exact hOther

/-- A foreign key comes to stand among the fields as it is, and none of them changes. -/
theorem normalFields (h : Foreign kind key) (hAdds : Entries.Adds key v after body body')
    (hEntry : ∃ e, normalField place kind (key, v) = .ok e)
    (hFields : normalFields place kind body = .ok fields) :
    ∃ fields', Document.normalFields place kind body' = .ok fields' ∧ key ∈ fields'.keys ∧
      ∀ name, kind.hasSpelling name = true → fields'.field? name = fields.field? name := by
  obtain ⟨before, hOthers⟩ := hAdds
  obtain ⟨⟨k, w⟩, hEntry⟩ := hEntry
  obtain ⟨first, last, hFirst, -, rfl, hNew⟩ := normalFields_insert hFields hEntry
  obtain rfl : k = key := (normalField_key hEntry).trans h.normalKey
  refine ⟨_, hNew, ?_, fun name hName => Entries.field?_ofList_insert (h.ne_text hName) first last⟩
  refine Entries.mem_keys_ofList_of_new (fun k hMem => ?_) w last
  rw [hFirst] at hMem
  obtain ⟨k, hBefore, rfl⟩ := List.mem_map.mp hMem
  exact h.not_sameKey (hOthers k (by rw [Entries.keys_append]; exact List.mem_append_left _ hBefore))

/-- The steps in a body do not change by a foreign key. -/
theorem normalStepsField (h : Foreign kind key) (hAdds : Entries.Adds key v after body body')
    (hName : kind.hasSpelling name = true) (place : String) :
    normalStepsField body' name place = Document.normalStepsField body name place :=
  normalStepsField_congr place (hAdds.field?_of_ne (h.ne_text hName))

end Foreign

/-- A step refuses a key that is no field of its model. -/
theorem refuses_step (hKind : fields.field? "kind" = some (.text kind.name)) (hMem : key ∈ fields.keys)
    (hModel : ∀ name ∈ kind.modelNames, Schema.text key ≠ .valid name) :
    (Schema.step (.map fields)).Refuses key := by
  have hCheck : ∃ check, Schema.step (.map fields) =
      (Schema.model kind.modelNames fields check).within (.name kind.name) := by
    rw [Schema.step_of_kind hKind]
    rcases kind.cases_of_nestedNames with ⟨hFailable, -⟩ | rfl | ⟨⟨hFailable, hCompare⟩, -⟩
    · obtain ⟨check, hCheck⟩ := Schema.failableStep_eq_model hFailable fields
        (Schema.failField fields)
      exact ⟨check, by rw [if_pos hFailable, hCheck]⟩
    · exact ⟨_, rfl⟩
    · obtain ⟨check, hCheck⟩ := Schema.leafStep_eq_model hFailable hCompare fields
      exact ⟨check, by rw [hFailable, if_neg Bool.false_ne_true, if_neg hCompare, hCheck]⟩
  obtain ⟨check, hCheck⟩ := hCheck
  rw [hCheck]
  exact (Schema.refuses_model check hMem hModel).within _

/-- The fields that tell what to do when an operation fails are some of a body whose operation can. -/
theorem hasSpelling_of_failable (hFailable : kind.isFailable = true) :
    ∀ name ∈ ["retries", "retry_interval", "upon_failure"], kind.hasSpelling name = true := by
  intro name hName
  rw [StepKind.hasSpelling, StepKind.budgetNames, if_pos hFailable, List.contains_iff_mem.mpr hName,
    Bool.or_true]

/-- A foreign key of a body whose operation can fail is refused. -/
theorem turnsBody_of_foreign_failable (hFailable : kind.isFailable = true) (h : Foreign kind key)
    (hAdds : Entries.Adds key v after body body')
    (hEntry : ∀ place, ∃ e, normalField place kind (key, v) = .ok e) :
    TurnsBody (some key) kind body body' := by
  intro place n hNormal
  obtain ⟨fields, hOld, interval, hInterval, fallback, hFallback, headers, hHeaders, rfl⟩ :=
    (normalBody_failable_iff hFailable).mp hNormal
  obtain ⟨fields', hNew, hMem, hSame⟩ := h.normalFields hAdds (hEntry place) hOld
  have hBudget := hasSpelling_of_failable hFailable
  have hPost : kind = .postUrl → fields'.field? "headers" = fields.field? "headers" := by
    rintro rfl
    exact hSame "headers" (by decide)
  have hInterval' :=
    (durationField_congr place (hSame _ (hBudget "retry_interval" (by decide)))).trans hInterval
  have hFallback' :=
    (h.normalStepsField hAdds (hBudget "upon_failure" (by decide)) _).trans hFallback
  have hHeaders' := (headersOf_congr place hPost).trans hHeaders
  refine ⟨_, (normalBody_failable_iff hFailable).mpr ⟨fields', hNew, interval, hInterval', fallback,
    hFallback', headers, hHeaders', rfl⟩, ?_⟩
  refine refuses_step field?_kind_failableEntries ?_ h.model
  have hNot := fun name hName => h.ne_text (hBudget name hName)
  exact mem_keys_failableEntries.mpr (.inl (.inl ⟨⟨⟨hMem, hNot "retries" (by decide)⟩,
    hNot "retry_interval" (by decide)⟩, hNot "upon_failure" (by decide)⟩))

/-- A foreign key of a comparison is refused. -/
theorem turnsBody_of_foreign_compareVar (h : Foreign .compareVar key)
    (hAdds : Entries.Adds key v after body body')
    (hEntry : ∀ place, ∃ e, normalField place .compareVar (key, v) = .ok e) :
    TurnsBody (some key) .compareVar body body' := by
  intro place n hNormal
  obtain ⟨fields, hOld, taken, hTaken, other, hOther, rfl⟩ := normalBody_compare_iff.mp hNormal
  obtain ⟨fields', hNew, hMem, -⟩ := h.normalFields hAdds (hEntry place) hOld
  have hTaken' := (h.normalStepsField hAdds (by decide) _).trans hTaken
  have hOther' := (h.normalStepsField hAdds (by decide) _).trans hOther
  refine ⟨_, normalBody_compare_iff.mpr ⟨fields', hNew, taken, hTaken', other, hOther', rfl⟩, ?_⟩
  refine refuses_step (field?_compareEntries _ _ _).1 ?_ h.model
  exact mem_keys_compareEntries.mpr (.inl (.inl (.inl hMem)))

/-- A foreign key of a body without steps is refused. -/
theorem turnsBody_of_foreign_leaf (hFailable : kind.isFailable = false) (hCompare : kind ≠ .compareVar)
    (h : Foreign kind key) (hAdds : Entries.Adds key v after body body')
    (hEntry : ∀ place, ∃ e, normalField place kind (key, v) = .ok e) :
    TurnsBody (some key) kind body body' := by
  intro place n hNormal
  obtain ⟨fields, hOld, seconds, hSeconds, rfl⟩ :=
    (normalBody_leaf_iff hFailable hCompare).mp hNormal
  obtain ⟨fields', hNew, hMem, hSame⟩ := h.normalFields hAdds (hEntry place) hOld
  have hDuration : kind = .sleep → fields'.field? "duration" = fields.field? "duration" := by
    rintro rfl
    exact hSame "duration" (by decide)
  have hSeconds' := (durationOf_congr place hDuration).trans hSeconds
  refine ⟨_, (normalBody_leaf_iff hFailable hCompare).mpr ⟨fields', hNew, seconds, hSeconds', rfl⟩, ?_⟩
  refine refuses_step (field?_leafEntries _ _ _).1 ?_ h.model
  exact mem_keys_leafEntries.mpr (.inl (.inl hMem))

/-- A foreign key is refused wherever it stands in a body. -/
theorem turnsBody_of_foreign (h : Foreign kind key) (hAdds : Entries.Adds key v after body body')
    (hEntry : ∀ place, ∃ e, normalField place kind (key, v) = .ok e) :
    TurnsBody (some key) kind body body' := by
  rcases kind.cases_of_nestedNames with ⟨hFailable, -⟩ | rfl | ⟨⟨hFailable, hCompare⟩, -⟩
  · exact turnsBody_of_foreign_failable hFailable h hAdds hEntry
  · exact turnsBody_of_foreign_compareVar h hAdds hEntry
  · exact turnsBody_of_foreign_leaf hFailable hCompare h hAdds hEntry

/-! ## Trees of steps -/

/-- A list of steps is read and turns. -/
def TurnsSteps (refused : Option Value) (v v' : Value) : Prop :=
  ∀ place steps, normalSteps v place = .ok steps →
    ∃ steps', normalSteps v' place = .ok steps' ∧
      Schema.Checked.Turns refused (Schema.stepList (.list steps)) (Schema.stepList (.list steps'))

theorem stepChecks_eq_map (items : List Value) : Schema.stepChecks items = items.map Schema.step := by
  induction items with
  | nil => rw [Schema.stepChecks, List.map_nil]
  | cons item rest ih => rw [Schema.stepChecks, ih, List.map_cons]

theorem normalStep_iff (hKind : stepKind? key.display = some kind) {n : Value} :
    normalStep (.map [(key, .map body)]) place = .ok n ↔
      key.isShowable = true ∧ normalBody kind body place = .ok n := by
  rw [normalStep, shown]
  cases key.isShowable with
  | true =>
      rw [if_pos rfl, bind_eq_ok]
      simp [hKind]
  | false =>
      rw [if_neg Bool.false_ne_true, bind_eq_ok]
      simp

/-- A list of steps turns as the body of one of them. -/
theorem normalItems_replace (h : TurnsBody refused kind body body')
    (hKind : stepKind? key.display = some kind) (first last : List Value) (place : String)
    (index : Nat) {steps : List Value}
    (hSteps : normalItems (first ++ .map [(key, .map body)] :: last) place index = .ok steps) :
    ∃ heads n n' tails, steps = heads ++ n :: tails ∧
      normalItems (first ++ .map [(key, .map body')] :: last) place index =
        .ok (heads ++ n' :: tails) ∧
      Schema.Checked.Turns refused (Schema.step n) (Schema.step n') := by
  induction first generalizing index steps with
  | nil =>
      rw [List.nil_append, normalItems] at hSteps ⊢
      obtain ⟨n, hStep, hSteps⟩ := bind_eq_ok.mp hSteps
      obtain ⟨tails, hTails, hSteps⟩ := bind_eq_ok.mp hSteps
      cases hSteps
      obtain ⟨hShowable, hBody⟩ := (normalStep_iff hKind).mp hStep
      obtain ⟨n', hBody', hTurns⟩ := h _ _ hBody
      refine ⟨[], n, n', tails, rfl, ?_, hTurns⟩
      rw [(normalStep_iff hKind).mpr ⟨hShowable, hBody'⟩, hTails]
      rfl
  | cons item rest ih =>
      rw [List.cons_append, normalItems] at hSteps ⊢
      obtain ⟨head, hHead, hSteps⟩ := bind_eq_ok.mp hSteps
      obtain ⟨others, hOthers, hSteps⟩ := bind_eq_ok.mp hSteps
      cases hSteps
      obtain ⟨heads, n, n', tails, rfl, hNew, hTurns⟩ := ih (index + 1) hOthers
      refine ⟨head :: heads, n, n', tails, rfl, ?_, hTurns⟩
      rw [hHead, hNew]
      rfl

theorem turnsSteps_of_body (h : TurnsBody refused kind body body')
    (hKind : stepKind? key.display = some kind) (first last : List Value) :
    TurnsSteps refused (.list (first ++ .map [(key, .map body)] :: last))
      (.list (first ++ .map [(key, .map body')] :: last)) := by
  intro place steps hSteps
  rw [normalSteps] at hSteps
  obtain ⟨heads, n, n', tails, rfl, hNew, hTurns⟩ :=
    normalItems_replace h hKind first last place 0 hSteps
  refine ⟨_, by rw [normalSteps, hNew], ?_⟩
  rw [Schema.stepList, Schema.stepList, stepChecks_eq_map, stepChecks_eq_map, List.map_append,
    List.map_append]
  exact .sequenceFrom 0 _ _ hTurns

theorem turnsBody_of_steps (h : TurnsSteps refused v w) (hName : name ∈ kind.nestedNames)
    (hReplaces : Entries.Replaces name v w body body') : TurnsBody refused kind body body' := by
  refine turnsBody_of_nested hName (keeps_of_replaces (mem_overwrittenNames hName) hReplaces) ?_
    fun other hOther => hReplaces.field?_of_ne hOther.symm
  intro place steps hSteps
  rw [normalStepsField_of_field? hReplaces.field?_self] at hSteps
  rw [normalStepsField_of_field? hReplaces.symm.field?_self]
  exact h place steps hSteps

/-- Two lists of steps that differ in the body of one step, itself in the list or at whatever depth of
arms and fallbacks. -/
inductive BodyChange (kind : StepKind) (body body' : Entries) : Value → Value → Prop where
  | here {name : Value} (before after : List Value) (known : stepKind? name.display = some kind) :
      BodyChange kind body body' (.list (before ++ .map [(name, .map body)] :: after))
        (.list (before ++ .map [(name, .map body')] :: after))
  | nested {name v v' : Value} {outer : StepKind} {field : String} {fields fields' : Entries}
      (before after : List Value) (known : stepKind? name.display = some outer)
      (holds : field ∈ outer.nestedNames) (replaces : Entries.Replaces field v v' fields fields')
      (inner : BodyChange kind body body' v v') :
      BodyChange kind body body' (.list (before ++ .map [(name, .map fields)] :: after))
        (.list (before ++ .map [(name, .map fields')] :: after))

/-- A tree of steps turns as the body of one of its steps, by induction on the depth of that step. -/
theorem BodyChange.turnsSteps (h : BodyChange kind body body' v w)
    (hBody : TurnsBody refused kind body body') : TurnsSteps refused v w := by
  induction h with
  | here before after known => exact turnsSteps_of_body hBody known before after
  | nested before after known holds replaces _ ih =>
      exact turnsSteps_of_body (turnsBody_of_steps ih holds replaces) known before after

end Document

end Flowline
