import Flowline.Proofs.Flow.Strictness
import Mathlib.Data.List.Forall2

/-!
Readings that come to the same. Two readings are alike if both give values that are related, or if both
fail and both break off by the same failure or neither breaks off. Likeness is
carried along a reading from its parts to the whole, and from the body of one step to the tree of
steps and to the document around it.
-/

namespace Flowline

namespace Document

/-- Two readings that come to related values or fail alike. -/
inductive Alike {α β : Type} (R : α → β → Prop) : Except Error α → Except Error β → Prop where
  | ok {a : α} {b : β} (related : R a b) : Alike R (.ok a) (.ok b)
  | error {e f : Error} (same : e.failure? = f.failure?) : Alike R (.error e) (.error f)

namespace Alike

variable {α β γ δ : Type} {R : α → β → Prop} {S : γ → δ → Prop} {x : Except Error α}
  {y : Except Error β}

theorem refl {R : α → α → Prop} (h : ∀ a, R a a) (x : Except Error α) : Alike R x x := by
  cases x with
  | ok a => exact .ok (h a)
  | error e => exact .error rfl

theorem of_eq {R : α → α → Prop} (h : ∀ a, R a a) {x y : Except Error α} (hSame : x = y) :
    Alike R x y := hSame ▸ refl h x

theorem symm {R : α → α → Prop} {x y : Except Error α} (hR : ∀ a b, R a b → R b a)
    (h : Alike R x y) : Alike R y x := by
  cases h with
  | ok related => exact .ok (hR _ _ related)
  | error same => exact .error same.symm

theorem trans {R : α → α → Prop} {x y z : Except Error α} (hR : ∀ a b c, R a b → R b c → R a c)
    (h : Alike R x y) (hNext : Alike R y z) : Alike R x z := by
  cases h with
  | ok related =>
      cases hNext with
      | ok next => exact .ok (hR _ _ _ related next)
  | error same =>
      cases hNext with
      | error next => exact .error (same.trans next)

/-- Two errors that do not break off the search are alike. -/
theorem rejected {e f : Error} (he : e.failure? = none) (hf : f.failure? = none) :
    Alike R (.error e) (.error f) := .error (he.trans hf.symm)

/-- What follows two readings, where it matters what these came to. -/
theorem bind_ok {next : α → Except Error γ} {next' : β → Except Error δ} (h : Alike R x y)
    (hNext : ∀ a b, x = .ok a → y = .ok b → R a b → Alike S (next a) (next' b)) :
    Alike S (x >>= next) (y >>= next') := by
  cases h with
  | ok related => exact hNext _ _ rfl rfl related
  | error same => exact .error same

theorem bind {next : α → Except Error γ} {next' : β → Except Error δ} (h : Alike R x y)
    (hNext : ∀ a b, R a b → Alike S (next a) (next' b)) : Alike S (x >>= next) (y >>= next') :=
  h.bind_ok fun a b _ _ => hNext a b

/-- What follows one and the same reading. -/
theorem bind_same {next : α → Except Error γ} {next' : α → Except Error δ} (x : Except Error α)
    (hNext : ∀ a, Alike S (next a) (next' a)) : Alike S (x >>= next) (x >>= next') := by
  cases x with
  | ok a => exact hNext a
  | error e => exact .error rfl

end Alike

end Document

/-! ## Checks that come to the same -/

namespace Schema.Checked

/-- Two checks of which one gives a value exactly if the other gives the same. -/
def Same {α : Type} (c c' : Checked α) : Prop := Turns none c c' ∧ Turns none c' c

namespace Same

variable {α : Type} {a b c : Checked α}

theorem refl (c : Checked α) : Same c c := ⟨.refl c, .refl c⟩

theorem symm (h : Same a b) : Same b a := ⟨h.2, h.1⟩

end Same

end Schema.Checked

namespace Document

open Schema (Checked)

/-- Two values of which one is a step of the model exactly if the other is the same. -/
def SameStep (n n' : Value) : Prop := Checked.Same (Schema.step n) (Schema.step n')

/-- Lists of such values. -/
def SameSteps : List Value → List Value → Prop := List.Forall₂ SameStep

variable {kind : StepKind} {place name : String} {key v v' w : Value} {steps steps' : List Value}
  {a b c body body' entries entries' : Entries}

theorem SameStep.refl (n : Value) : SameStep n n := Checked.Same.refl _

theorem SameSteps.refl (steps : List Value) : SameSteps steps steps :=
  List.forall₂_same.mpr fun n _ => .refl n

theorem SameSteps.symm (h : SameSteps steps steps') : SameSteps steps' steps :=
  List.Forall₂.flip (h.imp fun _ _ hStep => hStep.symm)

theorem turns_sequenceFrom (h : SameSteps steps steps') (index : Nat) :
    Checked.Turns none (Checked.sequenceFrom index (steps.map Schema.step))
      (Checked.sequenceFrom index (steps'.map Schema.step)) := by
  induction h generalizing index with
  | nil => exact .refl _
  | cons hStep _ ih => exact (hStep.1.within _).map.seq (ih (index + 1))

/-- Steps that are the same one by one are the same as a list. -/
theorem SameSteps.turns (h : SameSteps steps steps') :
    Checked.Turns none (Schema.stepList (.list steps)) (Schema.stepList (.list steps')) := by
  rw [Schema.stepList, Schema.stepList, stepChecks_eq_map, stepChecks_eq_map]
  exact turns_sequenceFrom h 0

/-! ## Bodies -/

/-- The fields of a body are read alike, but for the names under which reading puts values of its
own. -/
def AlikeFields (kind : StepKind) (body body' : Entries) : Prop :=
  ∀ place, Alike (Agree kind) (normalFields place kind body) (normalFields place kind body')

/-- A list of steps under a name in a body is read alike. -/
def AlikeNested (body body' : Entries) (name : String) : Prop :=
  ∀ place, Alike SameSteps (normalStepsField body name place) (normalStepsField body' name place)

/-- The body of a step is read alike. -/
def AlikeBody (kind : StepKind) (body body' : Entries) : Prop :=
  ∀ place, Alike SameStep (normalBody kind body place) (normalBody kind body' place)

theorem alikeBody_failable (hKind : kind.isFailable = true) (hFields : AlikeFields kind body body')
    (hNested : AlikeNested body body' "upon_failure") : AlikeBody kind body body' := by
  intro place
  rw [normalBody_failable_eq hKind, normalBody_failable_eq hKind]
  refine (hFields place).bind fun fields fields' hAgree => ?_
  have hNames := hAgree.of_failable hKind
  rw [durationField_congr place (hNames "retry_interval" (by simp)),
    headersOf_congr place fun _ => hNames "headers" (by simp)]
  refine Alike.bind_same _ fun interval => ?_
  refine (hNested _).bind fun fallback fallback' hSteps => ?_
  refine Alike.bind_same _ fun headers => .ok ⟨?_, ?_⟩
  · exact turns_failableEntries hKind hAgree hSteps.turns
  · exact turns_failableEntries hKind hAgree.symm hSteps.symm.turns

theorem alikeBody_compareVar (hFields : AlikeFields .compareVar body body')
    (hTrue : AlikeNested body body' "if_true") (hFalse : AlikeNested body body' "if_false") :
    AlikeBody .compareVar body body' := by
  intro place
  rw [normalBody_compare_eq, normalBody_compare_eq]
  refine (hFields place).bind fun fields fields' hAgree => ?_
  refine (hTrue _).bind fun taken taken' hTaken => ?_
  refine (hFalse _).bind fun other other' hOther => .ok ⟨?_, ?_⟩
  · exact turns_compareEntries hAgree hTaken.turns hOther.turns
  · exact turns_compareEntries hAgree.symm hTaken.symm.turns hOther.symm.turns

theorem alikeBody_leaf (hFailable : kind.isFailable = false) (hCompare : kind ≠ .compareVar)
    (hFields : AlikeFields kind body body') : AlikeBody kind body body' := by
  intro place
  rw [normalBody_leaf_eq hFailable hCompare, normalBody_leaf_eq hFailable hCompare]
  refine (hFields place).bind fun fields fields' hAgree => ?_
  have hDuration : kind = .sleep → fields'.field? "duration" = fields.field? "duration" := by
    rintro rfl
    exact hAgree.fields "duration" (by decide)
  rw [durationOf_congr place hDuration]
  refine Alike.bind_same _ fun seconds => .ok ⟨?_, ?_⟩
  · exact turns_leafEntries hFailable hCompare hAgree
  · exact turns_leafEntries hFailable hCompare hAgree.symm

/-- A body is read alike if its fields and its lists of steps are. -/
theorem alikeBody_of_parts (hFields : AlikeFields kind body body')
    (hNested : ∀ name ∈ kind.nestedNames, AlikeNested body body' name) : AlikeBody kind body body' := by
  rcases kind.cases_of_nestedNames with ⟨hFailable, hNames⟩ | rfl | ⟨⟨hFailable, hCompare⟩, -⟩
  · have hName : "upon_failure" ∈ kind.nestedNames := hNames ▸ List.mem_singleton_self _
    exact alikeBody_failable hFailable hFields (hNested _ hName)
  · exact alikeBody_compareVar hFields (hNested _ (by decide)) (hNested _ (by decide))
  · exact alikeBody_leaf hFailable hCompare hFields

theorem alikeNested_of_field? (h : body'.field? name = body.field? name) :
    AlikeNested body body' name :=
  fun place => .of_eq SameSteps.refl (normalStepsField_congr place h).symm

/-! ## Fields of a body -/

theorem normalFields_append_eq (place : String) (kind : StepKind) (before after : Entries) :
    normalFields place kind (before ++ after) = (do
      let first ← before.mapM (normalField place kind)
      let last ← after.mapM (normalField place kind)
      return Entries.ofList (first ++ last)) := by
  rw [normalFields, List.mapM_append]
  simp only [bind_assoc, pure_bind]

/-- A body with an entry that is read as it stands. -/
theorem normalFields_insert_eq {e : Value × Value} (h : normalField place kind e = .ok e)
    (before after : Entries) :
    normalFields place kind (before ++ e :: after) = (do
      let first ← before.mapM (normalField place kind)
      let last ← after.mapM (normalField place kind)
      return Entries.ofList (first ++ e :: last)) := by
  rw [normalFields_append_eq, List.mapM_cons, h]
  refine bind_congr fun first => ?_
  cases after.mapM (normalField place kind) <;> rfl

theorem alikeFields_of_adds (h : name ∈ kind.overwrittenNames) {after : Entries}
    (hAdds : Entries.Adds (.text name) v after body body') : AlikeFields kind body body' := by
  obtain ⟨before, -⟩ := hAdds
  intro place
  rw [normalFields_append_eq, normalFields_insert_eq (normalField_overwritten h)]
  exact Alike.bind_same _ fun first => Alike.bind_same _ fun last => .ok (agree_insert h v first last)

theorem alikeFields_of_replaces (h : name ∈ kind.overwrittenNames)
    (hReplaces : Entries.Replaces name v w body body') : AlikeFields kind body body' := by
  obtain ⟨before, after, -⟩ := hReplaces
  intro place
  rw [normalFields_insert_eq (normalField_overwritten h),
    normalFields_insert_eq (normalField_overwritten h)]
  refine Alike.bind_same _ fun first => Alike.bind_same _ fun last => .ok ?_
  exact (agree_insert h v first last).symm.trans (agree_insert h w first last)

/-- The fields of a body do not change with an entry that is read as before. -/
theorem alikeFields_of_entry {e e' : Value × Value}
    (h : ∀ place, normalField place kind e' = normalField place kind e) (before after : Entries) :
    AlikeFields kind (before ++ e :: after) (before ++ e' :: after) := by
  intro place
  refine .of_eq (Agree.refl kind) ?_
  rw [normalFields, normalFields, List.mapM_append, List.mapM_append, List.mapM_cons, List.mapM_cons,
    h place]

/-! ## Headers -/

theorem headersOf_insert {first last : Entries} (v : Value) (h : .text "headers" ∉ last.keys)
    (place : String) : headersOf place .postUrl (Entries.ofList (first ++ (.text "headers", v) :: last)) =
      (normalHeaders place v).map some := by
  rw [headersOf, if_pos rfl, Entries.field?_ofList_self first v h]
  rfl

/-- Where the headers of a body have been read, it does not matter what they were. -/
theorem turns_failableEntries_headers {first last : Entries} {interval : Option Value}
    {fallback : List Value} (v w headers : Value) :
    Checked.Turns none
      (Schema.step (.map (failableEntries .postUrl
        (Entries.ofList (first ++ (.text "headers", v) :: last)) interval fallback (some headers))))
      (Schema.step (.map (failableEntries .postUrl
        (Entries.ofList (first ++ (.text "headers", w) :: last)) interval fallback (some headers)))) := by
  have hOther {name : String} (hName : "headers" ≠ name) (u : Value) :
      (Entries.ofList (first ++ (.text "headers", u) :: last)).field? name =
        (Entries.ofList (first ++ last)).field? name :=
    Entries.field?_ofList_insert (by simpa using hName) first last
  refine turns_failableEntries_of_fields rfl ?_ (fun name hMem => ?_) (fun k => ?_) (.refl _)
  · rw [hOther (by decide), hOther (by decide)]
  · rw [field?_failableEntries rfl hMem, field?_failableEntries rfl hMem]
    split
    · rfl
    · rename_i hName
      rw [hOther hName, hOther hName]
  · rw [mem_keys_failableEntries, mem_keys_failableEntries, Entries.mem_keys_ofList_insert,
      Entries.mem_keys_ofList_insert]

/-- The body of a step that posts is read alike if its headers are read as before. -/
theorem alikeBody_of_headers (h : ∀ place, normalHeaders place w = normalHeaders place v)
    (hReplaces : Entries.Replaces "headers" v w body body') : AlikeBody .postUrl body body' := by
  have hFallback : body'.field? "upon_failure" = body.field? "upon_failure" :=
    hReplaces.field?_of_ne (by decide)
  have hKey : ∀ k, normalKey .postUrl k = k := by
    intro k
    cases k <;> rfl
  obtain ⟨before, after, hUnique⟩ := hReplaces
  intro place
  rw [normalBody_failable_eq rfl, normalBody_failable_eq rfl, normalFields_insert_eq rfl,
    normalFields_insert_eq rfl, normalStepsField_congr _ hFallback]
  simp only [bind_assoc, pure_bind]
  refine Alike.bind_same _ fun first => (Alike.refl Eq.refl _).bind_ok fun last _ hLast _ hSame => ?_
  subst hSame
  have hLater : .text "headers" ∉ Entries.keys last := by
    rw [keys_mapM_normalField hLast, funext hKey, List.map_id']
    exact fun hMem => hUnique (by rw [Entries.keys_append]; exact List.mem_append_right _ hMem)
  have hInterval (u : Value) : (Entries.ofList (first ++ (.text "headers", u) :: last)).field?
      "retry_interval" = (Entries.ofList (first ++ last)).field? "retry_interval" :=
    Entries.field?_ofList_insert (by simp) first last
  rw [durationField_congr place ((hInterval w).trans (hInterval v).symm), headersOf_insert v hLater,
    headersOf_insert w hLater, h]
  refine Alike.bind_same _ fun interval => Alike.bind_same _ fun fallback => ?_
  cases normalHeaders place v with
  | error e => exact .error rfl
  | ok headers =>
      exact .ok ⟨turns_failableEntries_headers v w headers,
        turns_failableEntries_headers w v headers⟩

/-! ## Trees of steps -/

/-- A step is read alike. -/
def AlikeStep (item item' : Value) : Prop :=
  ∀ place, Alike SameStep (normalStep item place) (normalStep item' place)

/-- A list of steps is read alike. -/
def AlikeSteps (v v' : Value) : Prop :=
  ∀ place, Alike SameSteps (normalSteps v place) (normalSteps v' place)

theorem AlikeSteps.refl (v : Value) : AlikeSteps v v := fun _ => .refl SameSteps.refl _

theorem alike_normalItems {item item' : Value} (h : AlikeStep item item') (before after : List Value)
    (place : String) (index : Nat) :
    Alike SameSteps (normalItems (before ++ item :: after) place index)
      (normalItems (before ++ item' :: after) place index) := by
  induction before generalizing index with
  | nil =>
      rw [List.nil_append, List.nil_append, normalItems, normalItems]
      refine (h _).bind fun n n' hStep => Alike.bind_same _ fun rest => .ok ?_
      exact .cons hStep (SameSteps.refl rest)
  | cons first rest ih =>
      rw [List.cons_append, List.cons_append, normalItems, normalItems]
      refine Alike.bind_same _ fun n => (ih (index + 1)).bind fun steps steps' hSteps => .ok ?_
      exact .cons (.refl _) hSteps

/-- A list of steps is read alike if one of its steps is. -/
theorem alikeSteps_of_step {item item' : Value} (h : AlikeStep item item') (before after : List Value) :
    AlikeSteps (.list (before ++ item :: after)) (.list (before ++ item' :: after)) := by
  intro place
  rw [normalSteps, normalSteps]
  exact alike_normalItems h before after place 0

theorem alikeStep_of_body (hKind : stepKind? key.display = some kind) (h : AlikeBody kind body body') :
    AlikeStep (.map [(key, .map body)]) (.map [(key, .map body')]) := by
  intro place
  rw [normalStep, normalStep, shown]
  cases key.isShowable with
  | true =>
      rw [if_pos rfl]
      simp only [bind, Except.bind, hKind]
      exact h place
  | false =>
      rw [if_neg Bool.false_ne_true]
      exact .error rfl

/-- A body is read alike if one of the lists of steps in it is. -/
theorem alikeBody_of_steps (hName : name ∈ kind.nestedNames)
    (hReplaces : Entries.Replaces name v w body body') (h : AlikeSteps v w) :
    AlikeBody kind body body' := by
  refine alikeBody_of_parts (alikeFields_of_replaces (mem_overwrittenNames hName) hReplaces) ?_
  intro other hOther
  by_cases hSame : name = other
  · intro place
    rw [← hSame, normalStepsField_of_field? hReplaces.field?_self,
      normalStepsField_of_field? hReplaces.symm.field?_self]
    exact h place
  · exact alikeNested_of_field? (hReplaces.field?_of_ne hSame)

/-! ## Documents -/

/-- The steps of two documents as values of the model: both have none or both have the same. -/
inductive SameListed : Option Value → Option Value → Prop where
  | absent : SameListed none none
  | listed {steps steps' : List Value} (same : SameSteps steps steps') :
      SameListed (some (.list steps)) (some (.list steps'))

theorem SameListed.symm {v v' : Option Value} (h : SameListed v v') : SameListed v' v := by
  cases h with
  | absent => exact .absent
  | listed same => exact .listed same.symm

theorem SameListed.turns {v v' : Option Value} (h : SameListed v v') :
    Checked.Turns none (Document.listed v) (Document.listed v') := by
  cases h with
  | absent => exact .refl _
  | listed same => exact same.turns

/-- The names in a document under which reading puts values of its own. -/
def formNames : List String := ["trigger", "notifiers", "upon_failure"]

/-- Documents whose entries agree, but for the names under which reading puts values of its own, and
for their steps. -/
structure SameEntries (entries entries' : Entries) : Prop where
  name : entries'.field? "name" = entries.field? "name"
  keys : ∀ k, (∀ name ∈ formNames, k ≠ .text name) → (k ∈ entries'.keys ↔ k ∈ entries.keys)

theorem SameEntries.symm (h : SameEntries entries entries') : SameEntries entries' entries :=
  ⟨h.name.symm, fun k hKey => (h.keys k hKey).symm⟩

theorem SameListed.isSome {v v' : Option Value} (h : SameListed v v') : v'.isSome = v.isSome := by
  cases h <;> rfl

/-- The normal forms of two documents are checked alike if their parts are the same. -/
theorem turns_formEntries {named steps steps' : Option Value} {trigger notifiers : Value}
    {fallback fallback' : List Value} (h : SameEntries entries entries')
    (hOwn : steps.or (entries.field? "steps") = steps)
    (hOwn' : steps'.or (entries'.field? "steps") = steps') (hSteps : SameListed steps steps')
    (hFallback : SameSteps fallback fallback') :
    Checked.Turns none
      (Schema.flow (.map (formEntries entries named trigger notifiers steps fallback)))
      (Schema.flow (.map (formEntries entries' named trigger notifiers steps' fallback'))) := by
  obtain ⟨hNameA, hTriggerA, hNotifiersA, hStepsA, hFallbackA⟩ := field?_formEntries entries named
    trigger notifiers steps fallback
  obtain ⟨hNameB, hTriggerB, hNotifiersB, hStepsB, hFallbackB⟩ := field?_formEntries entries' named
    trigger notifiers steps' fallback'
  rw [hOwn] at hStepsA
  rw [hOwn'] at hStepsB
  change Checked.Turns (((none : Option Value).or none).or none) _ _
  refine Schema.turns_flow ?_ ?_ ?_ ?_ ?_ ?_
  · intro k
    rw [mem_keys_formEntries, mem_keys_formEntries, hSteps.isSome]
    by_cases hOver : ∃ name ∈ formNames, k = .text name
    · obtain ⟨name, hMem, rfl⟩ := hOver
      simp only [formNames, List.mem_cons, List.not_mem_nil, or_false] at hMem
      rcases hMem with rfl | rfl | rfl <;> simp
    · rw [h.keys k fun name hMem hKey => hOver ⟨name, hMem, hKey⟩]
  · rw [hNameA, hNameB, h.name]
  · rw [hTriggerA, hTriggerB]
  · rw [Schema.optional, Schema.optional, hNotifiersA, hNotifiersB]
    exact .refl _
  · rw [required_steps, required_steps, hStepsA, hStepsB]
    exact hSteps.turns.within _
  · rw [Schema.optional, Schema.optional, hFallbackA, hFallbackB]
    exact hFallback.turns.within _

/-- A document is read alike. -/
def AlikeForm (document document' : Value) : Prop :=
  ∀ place, Alike (fun data data' => Checked.Same (Schema.flow data) (Schema.flow data'))
    (normalForm document place) (normalForm document' place)

/-- The steps of a document are read alike. -/
def AlikeListed (entries entries' : Entries) : Prop :=
  ∀ place, Alike SameListed (stepsOf place (entries.field? "steps"))
    (stepsOf place (entries'.field? "steps"))

/-- A document is read alike if its lists of steps are and the rest of it stays. -/
theorem alikeForm_of_parts (h : SameEntries entries entries')
    (hTrigger : ∀ place, normalTrigger (fieldOrNull entries' "trigger") place =
      normalTrigger (fieldOrNull entries "trigger") place)
    (hNotifiers : notifiersOf (fieldOrNull entries' "notifiers") =
      notifiersOf (fieldOrNull entries "notifiers"))
    (hListed : AlikeListed entries entries')
    (hFallback : AlikeSteps (fieldOrNull entries "upon_failure")
      (fieldOrNull entries' "upon_failure")) : AlikeForm (.map entries) (.map entries') := by
  intro place
  rw [normalForm_eq, normalForm_eq, fieldOrNull_congr h.name, hTrigger, hNotifiers]
  refine Alike.bind_same _ fun named => Alike.bind_same _ fun trigger => ?_
  refine (hListed _).bind_ok fun steps steps' hRead hRead' hSteps => ?_
  refine (hFallback _).bind fun fallback fallback' hSame => .ok ⟨?_, ?_⟩
  · exact turns_formEntries h (or_of_stepsOf hRead) (or_of_stepsOf hRead') hSteps hSame
  · exact turns_formEntries h.symm (or_of_stepsOf hRead') (or_of_stepsOf hRead) hSteps.symm hSame.symm

theorem alikeListed_of_field? (h : entries'.field? "steps" = entries.field? "steps") :
    AlikeListed entries entries' := by
  intro place
  rw [h]
  cases entries.field? "steps" with
  | none => exact .ok .absent
  | some v =>
      rw [stepsOf]
      exact Alike.bind_same _ fun steps => .ok (.listed (.refl steps))

theorem sameEntries_of_replaces (hName : name ≠ "name")
    (hReplaces : Entries.Replaces name v w entries entries') : SameEntries entries entries' :=
  ⟨hReplaces.field?_of_ne hName, fun k _ => by rw [hReplaces.keys_eq]⟩

/-- A document is read alike if its steps are. -/
theorem alikeForm_of_steps (h : AlikeSteps v w)
    (hReplaces : Entries.Replaces "steps" v w entries entries') :
    AlikeForm (.map entries) (.map entries') := by
  refine alikeForm_of_parts (sameEntries_of_replaces (by decide) hReplaces) ?_ ?_ ?_ ?_
  · exact normalTrigger_of_field? (hReplaces.field?_of_ne (by decide))
  · rw [fieldOrNull_congr (hReplaces.field?_of_ne (by decide))]
  · intro place
    rw [hReplaces.field?_self, hReplaces.symm.field?_self, stepsOf, stepsOf]
    exact (h _).bind fun steps steps' hSteps => .ok (.listed hSteps)
  · rw [fieldOrNull_congr (hReplaces.field?_of_ne (by decide))]
    exact .refl _

/-- A document is read alike if its fallback is. -/
theorem alikeForm_of_fallback (h : AlikeSteps v w)
    (hReplaces : Entries.Replaces "upon_failure" v w entries entries') :
    AlikeForm (.map entries) (.map entries') := by
  refine alikeForm_of_parts (sameEntries_of_replaces (by decide) hReplaces) ?_ ?_ ?_ ?_
  · exact normalTrigger_of_field? (hReplaces.field?_of_ne (by decide))
  · rw [fieldOrNull_congr (hReplaces.field?_of_ne (by decide))]
  · exact alikeListed_of_field? (hReplaces.field?_of_ne (by decide))
  · rw [fieldOrNull_of_field? hReplaces.field?_self, fieldOrNull_of_field? hReplaces.symm.field?_self]
    exact h

/-- A document is read alike if its trigger is read as before. -/
theorem alikeForm_of_trigger (h : ∀ place, normalTrigger w place = normalTrigger v place)
    (hReplaces : Entries.Replaces "trigger" v w entries entries') :
    AlikeForm (.map entries) (.map entries') := by
  refine alikeForm_of_parts (sameEntries_of_replaces (by decide) hReplaces) ?_ ?_ ?_ ?_
  · rw [fieldOrNull_of_field? hReplaces.field?_self, fieldOrNull_of_field? hReplaces.symm.field?_self]
    exact h
  · rw [fieldOrNull_congr (hReplaces.field?_of_ne (by decide))]
  · exact alikeListed_of_field? (hReplaces.field?_of_ne (by decide))
  · rw [fieldOrNull_congr (hReplaces.field?_of_ne (by decide))]
    exact .refl _

/-- Documents that are read alike write the same flow or fail alike. -/
theorem AlikeForm.flow {document document' : Value} (h : AlikeForm document document')
    (place : String) : Alike (· = ·) (Document.flow document place) (Document.flow document' place) := by
  rw [Document.flow, Document.flow]
  refine (h place).bind fun data data' hSame => ?_
  cases hFlow : Schema.flow data with
  | valid flow =>
      rw [hSame.1 flow hFlow]
      exact .ok rfl
  | invalid issues =>
      cases hFlow' : Schema.flow data' with
      | valid flow => cases hFlow.symm.trans (hSame.2 flow hFlow')
      | invalid issues' => exact .error rfl

end Document

end Flowline
