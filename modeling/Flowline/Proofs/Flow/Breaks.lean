import Flowline.Proofs.Flow.Alike

/-!
What breaks off the reading of a document. Reading shows some values as texts, and an integer in one of
these may have too many digits; and it goes down into steps, which may be inside of themselves. Where no
integer is too long the search does not break off for the one cause, and where nothing is inside of
itself not for the other. Both go by one induction: what a document has, its parts have too.
-/

namespace Flowline

namespace Value

mutual

/-- Whether a value has no end: a list or a mapping in it is inside of itself. -/
def isEndless : Value → Bool
  | list items => anyEndless items
  | tuple items => anyEndless items
  | set items => anyEndless items
  | map entries => entriesEndless entries
  | enclosing _ => true
  | _ => false

def anyEndless : List Value → Bool
  | [] => false
  | item :: rest => isEndless item || anyEndless rest

def entriesEndless : List (Value × Value) → Bool
  | [] => false
  | (key, value) :: rest => isEndless key || isEndless value || entriesEndless rest

end

theorem areShowable_iff {items : List Value} :
    areShowable items = true ↔ ∀ item ∈ items, item.isShowable = true := by
  induction items with
  | nil => simp [areShowable]
  | cons item rest ih => rw [areShowable, Bool.and_eq_true, ih, List.forall_mem_cons]

theorem entriesShowable_iff {entries : Entries} :
    entriesShowable entries = true ↔
      ∀ e ∈ entries, e.1.isShowable = true ∧ e.2.isShowable = true := by
  induction entries with
  | nil => simp [entriesShowable]
  | cons e rest ih =>
      obtain ⟨key, v⟩ := e
      rw [entriesShowable, Bool.and_eq_true, Bool.and_eq_true, ih, List.forall_mem_cons]

theorem anyEndless_eq_false {items : List Value} :
    anyEndless items = false ↔ ∀ item ∈ items, item.isEndless = false := by
  induction items with
  | nil => simp [anyEndless]
  | cons item rest ih => rw [anyEndless, Bool.or_eq_false_iff, ih, List.forall_mem_cons]

theorem entriesEndless_eq_false {entries : Entries} :
    entriesEndless entries = false ↔
      ∀ e ∈ entries, e.1.isEndless = false ∧ e.2.isEndless = false := by
  induction entries with
  | nil => simp [entriesEndless]
  | cons e rest ih =>
      obtain ⟨key, v⟩ := e
      rw [entriesEndless, Bool.or_eq_false_iff, Bool.or_eq_false_iff, ih, List.forall_mem_cons]

end Value

theorem Entries.mem_of_field? {entries : Entries} {name : String} {v : Value}
    (h : entries.field? name = some v) : ∃ key, (key, v) ∈ entries := by
  obtain ⟨e, hFind, rfl⟩ := Option.map_eq_some_iff.mp h
  exact ⟨e.1, List.mem_of_find?_eq_some hFind⟩

theorem Value.isShowable_of_field? {entries : Entries} {name : String} {v : Value}
    (h : entriesShowable entries = true) (hField : entries.field? name = some v) :
    v.isShowable = true := by
  obtain ⟨key, hMem⟩ := Entries.mem_of_field? hField
  exact (entriesShowable_iff.mp h _ hMem).2

namespace Document

variable {kind : StepKind} {v : Value} {e e' : Value × Value} {body entries fields : Entries}
  {Good : Value → Prop} {Fine : Error → Prop}

/-- An error breaks off the search by one of two causes, or does not. -/
theorem Error.cases_of_failure? (e : Error) :
    e.failure? = none ∨ (∃ place, e = .shape place .longInteger) ∨ ∃ place, e = .shape place .endless := by
  cases e with
  | model => exact .inl rfl
  | shape place fault =>
      cases fault with
      | longInteger => exact .inr (.inl ⟨place, rfl⟩)
      | endless => exact .inr (.inr ⟨place, rfl⟩)
      | _ => exact .inl rfl

/-- A property that the parts of a value have too, and that leaves only some errors to the showing of a
value. -/
structure Bounds (Good : Value → Prop) (Fine : Error → Prop) : Prop where
  text (s : String) : Good (.text s)
  null : Good .null
  items {items : List Value} (h : Good (.list items)) : ∀ item ∈ items, Good item
  entries {entries : Entries} (h : Good (.map entries)) : ∀ e ∈ entries, Good e.1 ∧ Good e.2
  shown {v : Value} (h : Good v) (place : String) : FailsAs Fine (shown place v)

/-- The errors that are left to the reading of a document as well. -/
structure TreeBounds (Good : Value → Prop) (Fine : Error → Prop) : Prop extends Bounds Good Fine where
  plain {e : Error} (h : e.failure? = none) : Fine e
  endless {isMap : Bool} (h : Good (.enclosing isMap)) (place : String) : Fine (.shape place .endless)

/-- Entries of which all keys and values have a property. -/
def GoodEntries (Good : Value → Prop) (entries : Entries) : Prop := ∀ e ∈ entries, Good e.1 ∧ Good e.2

theorem good_of_field? {name : String} (h : GoodEntries Good entries)
    (hField : entries.field? name = some v) : Good v := by
  obtain ⟨key, hMem⟩ := Entries.mem_of_field? hField
  exact (h _ hMem).2

/-! ## Values that become texts -/

namespace Bounds

theorem asText (h : Bounds Good Fine) (hGood : Good v) (place : String) :
    FailsAs Fine (asText place v) := by
  cases v with
  | int n =>
      rw [Document.asText]
      exact (h.shown hGood place).map
  | _ => exact .ok _

theorem named (h : Bounds Good Fine) (hGood : Good v) (place : String) :
    FailsAs Fine (named place v) := by
  unfold Document.named
  split
  · exact .ok _
  · exact (h.shown hGood place).map

theorem nameOf (h : Bounds Good Fine) (hGood : Good v) (place : String) :
    FailsAs Fine (nameOf place v) := by
  unfold Document.nameOf
  split
  · exact .ok none
  · exact (h.named hGood place).bind fun _ => .ok _

theorem fieldOrNull (h : Bounds Good Fine) (hGood : GoodEntries Good entries) (name : String) :
    Good (fieldOrNull entries name) := by
  rw [Document.fieldOrNull]
  cases hField : entries.field? name with
  | none => exact h.null
  | some v => exact good_of_field? hGood hField

/-! ## Fields of a body -/

theorem normalField (h : Bounds Good Fine) (hGood : Good e.2) (place : String) :
    FailsAs Fine (normalField place kind e) := by
  unfold Document.normalField
  split
  · exact .ite ((h.asText hGood place).bind fun _ => .ok _) (.ok _)
  · exact .ok _

theorem normalFields (h : Bounds Good Fine) (hGood : GoodEntries Good body) (place : String)
    (kind : StepKind) : FailsAs Fine (normalFields place kind body) := by
  refine (FailsAs.mapM_of_mem fun e hMem => ?_).bind fun _ => .ok _
  exact h.normalField (hGood e hMem).2 place

theorem good_asText (h : Bounds Good Fine) {place : String} {w : Value} (hGood : Good v)
    (hText : Document.asText place v = .ok w) : Good w := by
  cases v with
  | int n =>
      rw [Document.asText, Document.shown] at hText
      split at hText
      · cases hText
        exact h.text _
      · cases hText
  | bool | real =>
      cases hText
      exact h.text _
  | _ =>
      cases hText
      exact hGood

theorem good_normalField (h : Bounds Good Fine) {place : String} (hGood : Good e.2)
    (hField : Document.normalField place kind e = .ok e') : Good e'.2 := by
  obtain ⟨key, v⟩ := e
  cases key with
  | text name =>
      obtain ⟨w, hText, rfl⟩ := normalField_text_iff.mp hField
      split at hText
      · exact h.good_asText hGood hText
      · cases hText
        exact hGood
  | _ =>
      cases hField
      exact hGood

/-- What stands under a name among the fields of a body has what the body has. -/
theorem good_normalFields (h : Bounds Good Fine) {place name : String} (hGood : GoodEntries Good body)
    (hFields : Document.normalFields place kind body = .ok fields)
    (hField : fields.field? name = some v) : Good v := by
  obtain ⟨pairs, hPairs, hList⟩ := bind_eq_ok.mp hFields
  cases hList
  rw [Entries.field?_ofList] at hField
  obtain ⟨key, hMem⟩ := Entries.mem_of_field? hField
  have hAll : ∀ e ∈ pairs, Good e.2 := forall_of_mapM_eq_ok
    (fun e hEntry _ => h.good_normalField (hGood e hEntry).2) hPairs
  exact hAll _ (List.mem_reverse.mp hMem)

theorem normalHeaders (h : Bounds Good Fine) (hGood : Good v) (place : String) :
    FailsAs Fine (normalHeaders place v) := by
  cases v with
  | map entries =>
      refine (FailsAs.mapM_of_mem fun e hMem => ?_).bind fun _ => .ok _
      obtain ⟨hName, hValue⟩ := h.entries hGood e hMem
      exact (h.named hName place).bind fun _ => (h.asText hValue place).bind fun _ => .ok _
  | _ => exact .ok _

theorem headersOf (h : Bounds Good Fine) (place : String)
    (hGood : ∀ v, fields.field? "headers" = some v → Good v) :
    FailsAs Fine (headersOf place kind fields) := by
  refine .ite ?_ (.ok _)
  cases hField : fields.field? "headers" with
  | none => exact .ok none
  | some v => exact (h.normalHeaders (hGood v hField) place).map

end Bounds

/-! ## Trees of steps and documents -/

namespace TreeBounds

theorem duration (h : TreeBounds Good Fine) (place : String) (v : Value) :
    FailsAs Fine (duration place v) := by
  rw [Document.duration]
  split
  · exact .ok _
  · exact .error (h.plain rfl)

theorem durationField (h : TreeBounds Good Fine) (place name : String) (entries : Entries) :
    FailsAs Fine (durationField place name entries) := by
  rw [Document.durationField]
  split
  · exact (h.duration place _).map
  · exact .ok _

mutual

/-- The errors of reading a tree of steps, by induction on the value that holds it. -/
theorem normalSteps (h : TreeBounds Good Fine) (v : Value) (place : String) (hGood : Good v) :
    FailsAs Fine (normalSteps v place) := by
  unfold Document.normalSteps
  split
  · exact .ok _
  · exact h.normalItems _ place 0 (h.items hGood)
  · exact .error (h.endless hGood place)
  · exact .error (h.plain rfl)
termination_by (sizeOf v, 0)

theorem normalItems (h : TreeBounds Good Fine) (items : List Value) (place : String) (index : Nat)
    (hGood : ∀ item ∈ items, Good item) : FailsAs Fine (normalItems items place index) := by
  unfold Document.normalItems
  split
  · exact .ok _
  · rename_i item rest
    rw [List.forall_mem_cons] at hGood
    exact (h.normalStep item _ hGood.1).bind fun _ =>
      (h.normalItems rest place (index + 1) hGood.2).bind fun _ => .ok _
termination_by (sizeOf items, 0)

theorem normalStep (h : TreeBounds Good Fine) (v : Value) (place : String) (hGood : Good v) :
    FailsAs Fine (normalStep v place) := by
  unfold Document.normalStep
  split
  · split
    · exact .error (h.plain rfl)
    · exact h.normalBody _ [] place (List.forall_mem_nil _)
  · exact .error (h.plain rfl)
  · rename_i name body
    have hParts := h.entries hGood _ List.mem_cons_self
    refine (h.shown hParts.1 _).bind fun _ => ?_
    split
    · exact .error (h.plain rfl)
    · split
      · exact h.normalBody _ [] place (List.forall_mem_nil _)
      · exact h.normalBody _ _ place (h.entries hParts.2)
      · exact .error (h.endless hParts.2 place)
      · exact .error (h.plain rfl)
  · exact .error (h.endless hGood place)
  · exact .error (h.plain rfl)
termination_by (sizeOf v, 0)
decreasing_by
  · rename_i name hText _ _ _
    have hSize := congrArg sizeOf hText
    cases name
    simp only [Value.text.sizeOf_spec, String.ofByteArray.sizeOf_spec] at hSize
    simp only [List.nil.sizeOf_spec]
    exact Prod.Lex.left _ _ (by omega)
  all_goals decreasing_tactic

theorem normalBody (h : TreeBounds Good Fine) (kind : StepKind) (body : Entries) (place : String)
    (hGood : GoodEntries Good body) : FailsAs Fine (normalBody kind body place) := by
  have hFields : FailsAs Fine _ := h.normalFields hGood place kind
  rcases kind.cases_of_nestedNames with ⟨hFailable, -⟩ | rfl | ⟨⟨hFailable, hCompare⟩, -⟩
  · rw [normalBody_failable_eq hFailable]
    refine hFields.bind_ok fun fields hRead => ?_
    refine (h.durationField _ _ _).bind fun _ => ?_
    refine (h.normalStepsField body _ _ hGood).bind fun _ => ?_
    exact (h.headersOf _ fun _ => h.good_normalFields hGood hRead).bind fun _ => .ok _
  · rw [normalBody_compare_eq]
    refine hFields.bind fun _ => (h.normalStepsField body _ _ hGood).bind fun _ => ?_
    exact (h.normalStepsField body _ _ hGood).bind fun _ => .ok _
  · rw [normalBody_leaf_eq hFailable hCompare]
    refine hFields.bind fun _ => FailsAs.bind ?_ fun _ => .ok _
    exact .ite (h.durationField _ _ _) (.ok _)
termination_by (sizeOf body, 2)

theorem normalStepsField (h : TreeBounds Good Fine) (body : Entries) (name place : String)
    (hGood : GoodEntries Good body) : FailsAs Fine (normalStepsField body name place) := by
  unfold Document.normalStepsField
  split
  · exact h.normalSteps _ place (good_of_field? hGood ‹_›)
  · exact .ok _
termination_by (sizeOf body, 1)
decreasing_by exact Prod.Lex.left _ _ (Entries.sizeOf_lt_of_field? ‹_›)

end

theorem normalTrigger (h : TreeBounds Good Fine) (hGood : Good v) (place : String) :
    FailsAs Fine (normalTrigger v place) := by
  unfold Document.normalTrigger
  split
  · exact .ok _
  · refine (h.shown (h.fieldOrNull (h.entries hGood) "type") _).bind fun _ => ?_
    split
    · exact .error (h.plain rfl)
    · exact .ok _
    · split
      · exact .ok _
      · exact .ok _
      · exact (h.duration _ _).bind fun _ => .ok _
  · exact .error (h.endless hGood place)
  · exact .error (h.plain rfl)

theorem normalForm (h : TreeBounds Good Fine) {document : Value} (hGood : Good document)
    (place : String) : FailsAs Fine (normalForm document place) := by
  cases document with
  | map entries =>
      have hEntries := h.entries hGood
      have hFields := h.fieldOrNull hEntries
      rw [normalForm_eq]
      refine (h.nameOf (hFields _) _).bind fun _ => ?_
      refine (h.normalTrigger (hFields _) _).bind fun _ => FailsAs.bind ?_ fun _ => ?_
      · cases hField : Entries.field? entries "steps" with
        | none => exact .ok none
        | some v => exact (h.normalSteps v _ (good_of_field? hEntries hField)).bind fun _ => .ok _
      · exact (h.normalSteps _ _ (hFields _)).bind fun _ => .ok _
  | enclosing isMap =>
      cases isMap with
      | true => exact .error (h.endless hGood place)
      | false => exact .error (h.plain rfl)
  | _ => exact .error (h.plain rfl)

theorem flow (h : TreeBounds Good Fine) {document : Value} (hGood : Good document) (place : String) :
    FailsAs Fine (flow document place) := by
  refine (h.normalForm hGood place).bind fun _ => ?_
  split
  · exact .ok _
  · exact .error (h.plain rfl)

end TreeBounds

/-! ## The two causes -/

/-- Where all integers of a value can be written, showing it fails in no way, so in whatever way. -/
theorem bounds_showable (Fine : Error → Prop) : Bounds (·.isShowable = true) Fine where
  text _ := rfl
  null := rfl
  items := Value.areShowable_iff.mp
  entries := Value.entriesShowable_iff.mp
  shown h place := by
    rw [shown, if_pos h]
    exact .ok _

/-- Whatever is wrong with a document whose integers can all be written is not one of these. -/
theorem treeBounds_showable :
    TreeBounds (·.isShowable = true) fun e => ∀ place, e ≠ .shape place .longInteger where
  toBounds := bounds_showable _
  plain h place hLong := by
    rw [hLong] at h
    cases h
  endless _ _ _ hLong := by cases hLong

/-- The search in a document in which nothing is inside of itself comes to an end. -/
theorem treeBounds_ending :
    TreeBounds (·.isEndless = false) fun e => ∀ place, e ≠ .shape place .endless where
  text _ := rfl
  null := rfl
  items := Value.anyEndless_eq_false.mp
  entries := Value.entriesEndless_eq_false.mp
  shown _ _ := .ite (.ok _) (.error fun _ hEndless => by cases hEndless)
  plain h place hEndless := by
    rw [hEndless] at h
    cases h
  endless h := by cases h

end Document

end Flowline
