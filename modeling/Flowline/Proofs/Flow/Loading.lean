import Flowline.Flow.File
import Flowline.Proofs.Except
import Flowline.Proofs.World

/-!
Loading of a file. Each layer of the loader fails in ways of its own, which name the place in the document
where they lie unless they break off the search in it; a file that can be read gives its flows, one for each document
that is not empty, or the failure of the first document that is rejected.
-/

namespace Flowline

namespace Document

/-! ## Where errors lie -/

/-- What a message goes on with after a place: what is wrong there, or more of the place. -/
def marks : List String := [":", ".", "["]

/-- A message that begins with a place. What follows is no part of a number or of a name. -/
def Names (place message : String) : Prop := ∃ mark ∈ marks, ∃ rest, message = place ++ mark ++ rest

/-- The message of an error names a place, unless the search in the document broke off. -/
def LiesAt (place : String) (e : Error) : Prop :=
  e.failure?.isSome = true ∨ Names place e.message

variable {place : String} {e : Error}

theorem names_colon (place text : String) : Names place (place ++ ": " ++ text) := by
  have hColon : ": " = ":" ++ " " := rfl
  refine ⟨":", by decide, " " ++ text, ?_⟩
  rw [hColon]
  simp only [String.append_assoc]

theorem liesAt_shape (place : String) (e : ShapeError) : LiesAt place (.shape place e) := by
  cases e with
  | longInteger | endless => exact .inl rfl
  | _ => exact .inr (names_colon place _)

theorem liesAt_model (place : String) (issues : List Schema.Issue) :
    LiesAt place (.model place issues) := by
  have hText : place ++ ": could not parse flow correctly: " =
      place ++ ": " ++ "could not parse flow correctly: " := by
    rw [String.append_assoc]
    rfl
  have hNames := names_colon place ("could not parse flow correctly: " ++
    "; ".intercalate (issues.map (·.text)))
  rw [← String.append_assoc, ← hText] at hNames
  exact .inr hNames

/-- A message about a part of a place names the place too. -/
theorem LiesAt.of_part {part : String} (hPart : ∃ mark ∈ marks, ∃ rest, part = mark ++ rest)
    (h : LiesAt (place ++ part) e) : LiesAt place e := by
  refine h.imp_right fun hNames => ?_
  obtain ⟨mark, hMark, rest, rfl⟩ := hPart
  obtain ⟨next, -, tail, hMessage⟩ := hNames
  refine ⟨mark, hMark, rest ++ next ++ tail, ?_⟩
  rw [hMessage]
  simp only [String.append_assoc]

/-- An error that is about a shape, at a place or in a part of it. -/
def ShapeIn (place : String) (e : Error) : Prop :=
  ∃ part fault, e = .shape (place ++ part) fault ∧
    (part = "" ∨ ∃ mark ∈ marks, ∃ rest, part = mark ++ rest)

theorem shapeIn_self (place : String) (fault : ShapeError) : ShapeIn place (.shape place fault) :=
  ⟨"", fault, by rw [String.append_empty], .inl rfl⟩

theorem ShapeIn.liesAt (h : ShapeIn place e) : LiesAt place e := by
  obtain ⟨part, fault, rfl, rfl | hPart⟩ := h
  · rw [String.append_empty]
    exact liesAt_shape place fault
  · exact (liesAt_shape _ fault).of_part hPart

/-- An error in a part of a place lies in the place too. -/
theorem ShapeIn.of_part {part : String} (hPart : ∃ mark ∈ marks, ∃ rest, part = mark ++ rest)
    (h : ShapeIn (place ++ part) e) : ShapeIn place e := by
  obtain ⟨inner, fault, rfl, -⟩ := h
  obtain ⟨mark, hMark, rest, rfl⟩ := hPart
  exact ⟨mark ++ rest ++ inner, fault, by simp only [String.append_assoc],
    .inr ⟨mark, hMark, rest ++ inner, by rw [String.append_assoc]⟩⟩

theorem ShapeIn.of_item {index : Nat} (h : ShapeIn s!"{place}[{index}]" e) : ShapeIn place e := by
  have hPlace : s!"{place}[{index}]" = place ++ ("[" ++ (toString index ++ "]")) := by
    simp only [String.append_assoc]
    rfl
  rw [hPlace] at h
  exact h.of_part ⟨"[", by decide, _, rfl⟩

variable {α : Type} {x : Except Error α}

/-- What fails in a field of a place fails at the place. -/
theorem failsAs_field {field : String} (hField : ∃ mark ∈ marks, ∃ rest, field = mark ++ rest)
    (h : FailsAs (ShapeIn (place ++ field)) x) : FailsAs (ShapeIn place) x :=
  h.mono fun _ => ShapeIn.of_part hField

theorem failsAs_shown (place : String) (v : Value) : FailsAs (ShapeIn place) (shown place v) :=
  .ite (.ok _) (.error (shapeIn_self _ _))

theorem failsAs_asText (place : String) (v : Value) : FailsAs (ShapeIn place) (asText place v) := by
  cases v with
  | int n =>
      rw [asText]
      exact (failsAs_shown place (.int n)).map
  | _ => exact .ok _

theorem failsAs_named (place : String) (v : Value) : FailsAs (ShapeIn place) (named place v) := by
  unfold named
  split
  · exact .ok _
  · exact (failsAs_shown place v).map

theorem failsAs_normalFields (place : String) (kind : StepKind) (body : Entries) :
    FailsAs (ShapeIn place) (normalFields place kind body) := by
  refine (FailsAs.mapM (fun entry => ?_) body).bind fun _ => .ok _
  unfold normalField
  split
  · exact FailsAs.ite ((failsAs_asText place entry.2).bind fun _ => .ok _) (.ok _)
  · exact .ok _

theorem failsAs_normalHeaders (place : String) (v : Value) :
    FailsAs (ShapeIn place) (normalHeaders place v) := by
  unfold normalHeaders
  split
  · refine (FailsAs.mapM (fun entry => ?_) _).bind fun _ => .ok _
    exact (failsAs_named place entry.1).bind fun _ =>
      (failsAs_asText place entry.2).bind fun _ => .ok _
  · exact .ok _

theorem failsAs_duration (place : String) (v : Value) :
    FailsAs (ShapeIn place) (duration place v) := by
  rw [duration]
  split
  · exact .ok _
  · exact .error (shapeIn_self _ _)

theorem failsAs_durationField (place name : String) (entries : Entries) :
    FailsAs (ShapeIn place) (durationField place name entries) := by
  rw [durationField]
  split
  · exact (failsAs_duration place _).map
  · exact .ok _

mutual

/-- Errors in a tree of steps lie in the place of the tree, by induction on the value that holds it. -/
theorem failsAs_normalSteps (v : Value) (place : String) :
    FailsAs (ShapeIn place) (normalSteps v place) := by
  unfold normalSteps
  split
  · exact .ok _
  · exact failsAs_normalItems _ place 0
  · exact .error (shapeIn_self _ _)
  · exact .error (shapeIn_self _ _)
termination_by (sizeOf v, 0)

theorem failsAs_normalItems (items : List Value) (place : String) (index : Nat) :
    FailsAs (ShapeIn place) (normalItems items place index) := by
  unfold normalItems
  split
  · exact .ok _
  · rename_i item rest
    exact ((failsAs_normalStep item _).mono fun _ => ShapeIn.of_item).bind fun _ =>
      (failsAs_normalItems rest place (index + 1)).bind fun _ => .ok _
termination_by (sizeOf items, 0)

theorem failsAs_normalStep (v : Value) (place : String) :
    FailsAs (ShapeIn place) (normalStep v place) := by
  unfold normalStep
  split
  · split
    · exact .error (shapeIn_self _ _)
    · exact failsAs_normalBody _ [] place
  · exact .error (shapeIn_self _ _)
  · refine (failsAs_shown _ _).bind fun _ => ?_
    split
    · exact .error (shapeIn_self _ _)
    · split
      · exact failsAs_normalBody _ [] place
      · exact failsAs_normalBody _ _ place
      · exact .error (shapeIn_self _ _)
      · exact .error (shapeIn_self _ _)
  · exact .error (shapeIn_self _ _)
  · exact .error (shapeIn_self _ _)
termination_by (sizeOf v, 0)
decreasing_by
  · rename_i name hText _ _ _
    have hSize := congrArg sizeOf hText
    cases name
    simp only [Value.text.sizeOf_spec, String.ofByteArray.sizeOf_spec] at hSize
    simp only [List.nil.sizeOf_spec]
    exact Prod.Lex.left _ _ (by omega)
  all_goals decreasing_tactic

theorem failsAs_normalBody (kind : StepKind) (body : Entries) (place : String) :
    FailsAs (ShapeIn place) (normalBody kind body place) := by
  unfold normalBody
  refine (failsAs_normalFields _ _ _).bind fun fields => ?_
  -- the end of a body, whatever its fields have become
  have hEnd : ∀ fields : Entries, FailsAs (ShapeIn place) (do
      let fields ←
        if kind = .postUrl then do
          let headers ← (fields.field? "headers").mapM (normalHeaders place)
          pure (putOptional fields "headers" headers)
        else pure fields
      return Value.map (fields.putField "kind" (.text kind.name))) := by
    intro fields
    refine .ite ?_ (.ok _)
    refine FailsAs.bind ?_ fun _ => .ok _
    cases fields.field? "headers" with
    | none => exact .ok none
    | some v => exact (failsAs_normalHeaders place v).map
  refine .ite ?_ (.ite ?_ (.ite ?_ (hEnd _)))
  · refine (failsAs_durationField _ _ _).bind fun _ => ?_
    refine (failsAs_field ⟨".", by decide, "upon_failure", rfl⟩
      (failsAs_normalStepsField body "upon_failure" _)).bind fun _ => ?_
    exact hEnd _
  · exact (failsAs_durationField _ _ _).bind fun _ => hEnd _
  · refine (failsAs_field ⟨".", by decide, "if_true", rfl⟩
      (failsAs_normalStepsField body "if_true" _)).bind fun _ => ?_
    refine (failsAs_field ⟨".", by decide, "if_false", rfl⟩
      (failsAs_normalStepsField body "if_false" _)).bind fun _ => ?_
    exact hEnd _
termination_by (sizeOf body, 2)

theorem failsAs_normalStepsField (body : Entries) (name place : String) :
    FailsAs (ShapeIn place) (normalStepsField body name place) := by
  unfold normalStepsField
  split
  · exact failsAs_normalSteps _ place
  · exact .ok _
termination_by (sizeOf body, 1)
decreasing_by exact Prod.Lex.left _ _ (Entries.sizeOf_lt_of_field? ‹_›)

end

theorem failsAs_normalTrigger (v : Value) (place : String) :
    FailsAs (ShapeIn place) (normalTrigger v place) := by
  unfold normalTrigger
  split
  · exact .ok _
  · refine (failsAs_shown _ _).bind fun _ => ?_
    split
    · exact .error (shapeIn_self _ _)
    · exact .ok _
    · split
      · exact .ok _
      · exact .ok _
      · exact (failsAs_field ⟨".", by decide, "interval", rfl⟩ (failsAs_duration _ _)).bind
          fun _ => .ok _
  · exact .error (shapeIn_self _ _)
  · exact .error (shapeIn_self _ _)

theorem failsAs_normalName (entries : Entries) (place : String) :
    FailsAs (ShapeIn place) (normalName entries place) := by
  unfold normalName
  split
  · exact .ok _
  · exact (failsAs_named _ _).bind fun _ => .ok _

/-- Whatever keeps a document from having a normal form is about a shape. -/
theorem failsAs_normalForm (document : Value) (place : String) :
    FailsAs (ShapeIn place) (normalForm document place) := by
  unfold normalForm
  split
  · rename_i entries
    refine (failsAs_normalName _ _).bind fun _ => ?_
    refine (failsAs_field ⟨".", by decide, "trigger", rfl⟩ (failsAs_normalTrigger _ _)).bind
      fun _ => ?_
    have hEnd : ∀ data : Entries, FailsAs (ShapeIn place) (do
        let fallback ← normalSteps (fieldOrNull entries "upon_failure") s!"{place}.upon_failure"
        return Value.map (data.putField "upon_failure" (.list fallback))) := fun _ =>
      (failsAs_field ⟨".", by decide, "upon_failure", rfl⟩ (failsAs_normalSteps _ _)).bind
        fun _ => .ok _
    dsimp only
    split
    · exact (failsAs_field ⟨".", by decide, "steps", rfl⟩ (failsAs_normalSteps _ _)).bind
        fun _ => hEnd _
    · exact hEnd _
  · exact .error (shapeIn_self _ _)
  · exact .error (shapeIn_self _ _)

/-- Whatever is wrong with a document lies at its place. -/
theorem failsAs_flow (document : Value) (place : String) :
    FailsAs (LiesAt place) (flow document place) := by
  refine ((failsAs_normalForm document place).mono fun _ => ShapeIn.liesAt).bind fun _ => ?_
  split
  · exact .ok _
  · exact .error (liesAt_model _ _)

end Document

/-! ## The documents of a file -/

/-- Whether a document is empty. -/
def Value.isNull : Value → Bool
  | .null => true
  | _ => false

namespace Source

/-- The place of a document in messages. -/
def place (source : String) (number : Nat) : String := s!"{source} document {number}"

/-- Reads the documents that are not empty, each at its place. -/
def readings (source : String) (first : Nat) (documents : List Value) :
    List (Except Document.Error FlowDefinition) :=
  ((documents.zipIdx first).filter fun d => !d.1.isNull).map fun d =>
    Document.flow d.1 (place source d.2)

/-- A document that is empty, or writes a flow at its place. -/
def Passes (source : String) (d : Value × Nat) : Prop :=
  d.1.isNull = true ∨ ∃ flow, Document.flow d.1 (place source d.2) = .ok flow

/-- Of documents from a number on, the one with the least number that is rejected. -/
def FirstRejected (source : String) (first : Nat) (documents : List Value) (number : Nat)
    (e : Document.Error) : Prop :=
  ∃ before document after, documents = before ++ document :: after ∧
    number = first + before.length ∧ document.isNull = false ∧
    Document.flow document (place source number) = .error e ∧
    ∀ d ∈ before.zipIdx first, Passes source d

variable {source : String} {first : Nat} {documents : List Value}

theorem flowsOf_null (rest : List Value) :
    flowsOf source first (.null :: rest) = flowsOf source (first + 1) rest := by
  rw [flowsOf]

theorem flowsOf_cons {document : Value} (h : document.isNull = false) (rest : List Value) :
    flowsOf source first (document :: rest) =
      match Document.flow document (place source first) with
      | .error e => .error (.ofDocument e)
      | .ok flow => (flowsOf source (first + 1) rest).map (flow :: ·) := by
  rw [flowsOf]
  · rfl
  · rintro rfl
    cases h

theorem readings_cons (document : Value) (rest : List Value) :
    readings source first (document :: rest) =
      if document.isNull then readings source (first + 1) rest
      else Document.flow document (place source first) :: readings source (first + 1) rest := by
  cases hNull : document.isNull <;> simp [readings, List.zipIdx_cons, hNull]

/-- A document that passes is not the first rejected one; the rest decides. -/
theorem firstRejected_cons_of_passes {document : Value} {rest : List Value} {number : Nat}
    {e : Document.Error} (h : Passes source (document, first)) :
    FirstRejected source first (document :: rest) number e ↔
      FirstRejected source (first + 1) rest number e := by
  constructor
  · rintro ⟨before, rejected, after, hSplit, rfl, hFull, hError, hBefore⟩
    cases before with
    | nil =>
        cases hSplit
        rcases h with hNull | ⟨flow, hFlow⟩
        · cases hNull.symm.trans hFull
        · cases hFlow.symm.trans hError
    | cons passed before =>
        cases hSplit
        rw [List.zipIdx_cons, List.forall_mem_cons] at hBefore
        rw [List.length_cons, Nat.add_comm before.length, ← Nat.add_assoc] at hError ⊢
        exact ⟨before, rejected, after, rfl, rfl, hFull, hError, hBefore.2⟩
  · rintro ⟨before, rejected, after, rfl, rfl, hFull, hError, hBefore⟩
    rw [Nat.add_assoc, Nat.add_comm 1] at hError ⊢
    refine ⟨document :: before, rejected, after, rfl, rfl, hFull, hError, ?_⟩
    rw [List.zipIdx_cons, List.forall_mem_cons]
    exact ⟨h, hBefore⟩

theorem firstRejected_cons_of_error {document : Value} {rest : List Value} {number : Nat}
    {e rejection : Document.Error} (hFull : document.isNull = false)
    (hError : Document.flow document (place source first) = .error rejection) :
    FirstRejected source first (document :: rest) number e ↔ number = first ∧ e = rejection := by
  constructor
  · rintro ⟨before, rejected, after, hSplit, rfl, -, hOther, hBefore⟩
    cases before with
    | nil =>
        cases hSplit
        exact ⟨rfl, (Except.error.inj (hError.symm.trans hOther)).symm⟩
    | cons passed before =>
        cases hSplit
        rw [List.zipIdx_cons, List.forall_mem_cons] at hBefore
        rcases hBefore.1 with hNull | ⟨flow, hFlow⟩
        · cases hNull.symm.trans hFull
        · cases hFlow.symm.trans hError
  · rintro ⟨rfl, rfl⟩
    exact ⟨[], document, rest, rfl, rfl, hFull, hError, List.forall_mem_nil _⟩

/-- The flows of documents are those of all that are not empty, or the error is that of the first
rejected one. -/
theorem flowsOf_spec (source : String) (first : Nat) (documents : List Value) :
    (∀ flows, flowsOf source first documents = .ok flows ↔
      readings source first documents = flows.map .ok) ∧
    ∀ e, flowsOf source first documents = .error e ↔
      ∃ number rejection, FirstRejected source first documents number rejection ∧
        e = .ofDocument rejection := by
  induction documents generalizing first with
  | nil =>
      have hNone : ∀ number rejection, ¬ FirstRejected source first [] number rejection := by
        rintro number rejection ⟨before, document, after, hSplit, -⟩
        cases before <;> cases hSplit
      refine ⟨fun flows => ?_, fun e => ?_⟩
      · cases flows <;> simp [flowsOf, readings]
      · simp [flowsOf, hNone]
  | cons document rest ih =>
      obtain ⟨ihFlows, ihError⟩ := ih (first + 1)
      cases hNull : document.isNull with
      | true =>
          have hPasses : Passes source (document, first) := .inl hNull
          have hFlows : flowsOf source first (document :: rest) =
              flowsOf source (first + 1) rest := by
            cases document <;> first | exact flowsOf_null rest | cases hNull
          rw [hFlows, readings_cons, hNull, if_pos rfl]
          refine ⟨ihFlows, fun e => ?_⟩
          simp only [ihError, firstRejected_cons_of_passes hPasses]
      | false =>
          rw [flowsOf_cons hNull, readings_cons, hNull, if_neg Bool.false_ne_true]
          cases hFlow : Document.flow document (place source first) with
          | ok flow =>
              have hPasses : Passes source (document, first) := .inr ⟨flow, hFlow⟩
              simp only [firstRejected_cons_of_passes hPasses, ← ihError]
              refine ⟨fun flows => ?_, fun e => ?_⟩
              · cases flows with
                | nil => cases flowsOf source (first + 1) rest <;> simp [Except.map]
                | cons other others =>
                    rw [List.map_cons, List.cons.injEq, ← ihFlows]
                    cases flowsOf source (first + 1) rest <;> simp [Except.map]
              · cases flowsOf source (first + 1) rest <;> simp [Except.map]
          | error rejection =>
              simp only [firstRejected_cons_of_error hNull hFlow]
              refine ⟨fun flows => ?_, fun e => ?_⟩
              · cases flows <;> simp
              · constructor
                · intro h
                  exact ⟨first, rejection, ⟨rfl, rfl⟩, (Except.error.inj h).symm⟩
                · rintro ⟨_, _, ⟨-, rfl⟩, rfl⟩
                  rfl

end Source

/-! ## Files -/

namespace FlowFile

variable {path : FilePath} {w : World}

/-- What a file holds: documents, as far as it can be read and is a text of markup. -/
def Holds (path : FilePath) (w : World) (documents : List Value) : Prop :=
  ∃ text, (World.readFile path w).result = .ok text ∧ Markup.documents text = .ok documents

/-- A failure that loading lets through as it is: the path holds a null character, the bytes of the file
are no text, a scalar of the markup has no value, an integer in a document cannot be written, or the steps
of a document are inside of themselves. -/
inductive LetsThrough (path : FilePath) (w : World) : Failure → Prop where
  | path (f : Failure) (check : World.checkPath path = .error f) : LetsThrough path w f
  | bytes (bytes : List UInt8) (fault : Text.Utf8.Fault) (check : World.checkPath path = .ok ())
      (read : w.disk.read w.home path = .ok bytes) (decode : Text.Utf8.decode bytes = .error fault) :
      LetsThrough path w (.general .unicodeDecode fault.message)
  | scalar (text : String) (f : Failure) (read : (World.readFile path w).result = .ok text)
      (markup : Markup.documents text = .error (.failure f)) : LetsThrough path w f
  | integer (documents : List Value) (number : Nat) (place : String) (holds : Holds path w documents)
      (rejected : Source.FirstRejected path.text 0 documents number (.shape place .longInteger)) :
      LetsThrough path w (.general .value Number.unwritable)
  | endless (documents : List Value) (number : Nat) (place : String) (holds : Holds path w documents)
      (rejected : Source.FirstRejected path.text 0 documents number (.shape place .endless)) :
      LetsThrough path w (.general .recursion Document.ShapeError.endless.message)

/-- The failure that breaks off the search in a document is let through. -/
theorem letsThrough_of_failure {documents : List Value} {number : Nat} {e : Document.Error} {f : Failure}
    (hHolds : Holds path w documents)
    (hRejected : Source.FirstRejected path.text 0 documents number e) (hFailure : e.failure? = some f) :
    LetsThrough path w f := by
  cases e with
  | model => cases hFailure
  | shape place fault =>
      cases fault <;> cases hFailure
      · exact .integer documents number place hHolds hRejected
      · exact .endless documents number place hHolds hRejected

/-- Loading never fails itself: it gives what comes of the text of the file. -/
theorem result_load (path : FilePath) (w : World) :
    (load path w).result = .ok (flowsOf path (World.readFile path w).result) := by
  have hFork : ∀ result, (World.readFile path w).result = result →
      ((World.readFile path).fork (fun text => Action.succeed (flowsOf path (.ok text)))
        (fun f => .succeed (flowsOf path (.error f))) w).result = .ok (flowsOf path result) := by
    intro result hRead
    cases result with
    | ok text => rw [Action.fork_of_ok _ _ hRead]; rfl
    | error f => rw [Action.fork_of_error _ _ hRead]; rfl
  refine (congrArg Done.result (Action.bind_of_ok _ (a := ()) rfl)).trans ?_
  rw [Done.result_after]
  refine (congrArg Done.result (Action.bind_of_ok _ (hFork _ rfl))).trans ?_
  cases flowsOf path (World.readFile path w).result <;> rfl

/-- A file that cannot be read is one that the system cannot open, or its failure is let through. -/
theorem read_error {f : Failure} (h : (World.readFile path w).result = .error f) :
    f.kind.isSystemError = true ∨ f.kind.isSystemError = false ∧ LetsThrough path w f := by
  rcases World.readFile_error_cases h with hPath | hSystem | ⟨bytes, fault, hCheck, hRead, hDecode, rfl⟩
  · exact .inr ⟨World.eq_of_checkPath hPath ▸ rfl, .path _ hPath⟩
  · exact .inl hSystem
  · exact .inr ⟨rfl, .bytes bytes fault hCheck hRead hDecode⟩

/-- What is let through is what comes of the file. -/
theorem flowsOf_of_letsThrough {f : Failure} (h : LetsThrough path w f) :
    flowsOf path (World.readFile path w).result = .error (.failure f) := by
  cases h with
  | path f check =>
      rw [World.readFile_of_checkPath check, World.eq_of_checkPath check]
      rfl
  | bytes bytes fault check read decode =>
      have hRead : (World.readFile path w).result =
          .error (.general .unicodeDecode fault.message) := by
        simp only [World.readFile, check, read, decode, bind, Except.bind]
      rw [hRead]
      rfl
  | scalar text f read markup =>
      rw [read, flowsOf, Source.flows, markup]
  | integer documents number place holds rejected | endless documents number place holds rejected =>
      obtain ⟨text, hRead, hMarkup⟩ := holds
      rw [hRead, flowsOf, Source.flows, hMarkup]
      exact ((Source.flowsOf_spec _ _ _).2 _).mpr ⟨number, _, rejected, rfl⟩

/-- What is no error of the definition is let through. -/
theorem letsThrough_of_flowsOf {f : Failure}
    (h : flowsOf path (World.readFile path w).result = .error (.failure f)) :
    LetsThrough path w f := by
  cases hRead : (World.readFile path w).result with
  | error g =>
      rw [hRead, flowsOf] at h
      rcases read_error hRead with hSystem | ⟨hSystem, hLets⟩
      · rw [hSystem] at h
        cases h
      · rw [hSystem] at h
        cases h
        exact hLets
  | ok text =>
      rw [hRead, flowsOf, Source.flows] at h
      split at h
      · rename_i documents hMarkup
        obtain ⟨number, rejection, hRejected, hError⟩ := ((Source.flowsOf_spec _ _ _).2 _).mp h
        rw [Source.Error.ofDocument] at hError
        split at hError
        · rename_i hFailure
          cases hError
          exact letsThrough_of_failure ⟨text, hRead, hMarkup⟩ hRejected hFailure
        · cases hError
      · cases h
      · rename_i g hMarkup
        cases h
        exact .scalar text f hRead hMarkup

theorem flowsOf_eq_ok {flows : List FlowDefinition} :
    flowsOf path (World.readFile path w).result = .ok flows ↔
      ∃ documents, Holds path w documents ∧
        Source.readings path.text 0 documents = flows.map .ok := by
  cases hRead : (World.readFile path w).result with
  | error g => simp [flowsOf, Holds, hRead]
  | ok text =>
      rw [flowsOf, Source.flows]
      cases hMarkup : Markup.documents text with
      | error fault => cases fault <;> simp [Holds, hRead, hMarkup]
      | ok documents =>
          simp only [(Source.flowsOf_spec _ _ _).1, Holds, hRead]
          constructor
          · exact fun h => ⟨documents, ⟨text, rfl, hMarkup⟩, h⟩
          · rintro ⟨others, ⟨_, hText, hOthers⟩, h⟩
            cases hText
            cases hMarkup.symm.trans hOthers
            exact h

/-- An error of the definition: it begins with the path, and with the place of the first rejected
document if one is rejected. -/
def Tells (path : FilePath) (w : World) (f : Failure) : Prop :=
  f.kind = .definition ∧ (∃ rest, f.text = path.text ++ rest) ∧
    ∀ documents, Holds path w documents →
      ∃ number rejection, Source.FirstRejected path.text 0 documents number rejection ∧
        f.text = rejection.message ∧ Document.Names (Source.place path.text number) f.text

theorem tells_of_rejected {documents : List Value} {number : Nat} {rejection : Document.Error}
    (hHolds : Holds path w documents)
    (hRejected : Source.FirstRejected path.text 0 documents number rejection)
    (hNone : ∀ f, ¬ LetsThrough path w f) :
    Tells path w (Source.Error.ofDocument rejection).toFailure := by
  have hNoFailure : rejection.failure? = none :=
    Option.eq_none_iff_forall_ne_some.mpr fun f hFailure =>
      hNone f (letsThrough_of_failure hHolds hRejected hFailure)
  have hDocument : Source.Error.ofDocument rejection = .document rejection := by
    rw [Source.Error.ofDocument, hNoFailure]
  have hNames : Document.Names (Source.place path.text number) rejection.message := by
    obtain ⟨_, document, _, -, -, -, hFlow, -⟩ := hRejected
    rcases Document.failsAs_flow document _ rejection hFlow with hSome | hNames
    · rw [hNoFailure] at hSome
      cases hSome
    · exact hNames
  rw [hDocument]
  refine ⟨rfl, ?_, fun others hOthers => ?_⟩
  · obtain ⟨mark, -, rest, hMessage⟩ := hNames
    have hPlace : Source.place path.text number = path.text ++ (" document " ++ toString number) := by
      rw [← String.append_assoc]
      rfl
    rw [hPlace, String.append_assoc, String.append_assoc] at hMessage
    exact ⟨_, hMessage⟩
  · obtain ⟨text, hRead, hMarkup⟩ := hHolds
    obtain ⟨_, hText, hSame⟩ := hOthers
    cases hRead.symm.trans hText
    cases hMarkup.symm.trans hSame
    exact ⟨number, rejection, hRejected, rfl, hNames⟩

theorem tells_of_flowsOf {e : Source.Error}
    (h : flowsOf path (World.readFile path w).result = .error e)
    (hNone : ∀ f, ¬ LetsThrough path w f) : Tells path w e.toFailure := by
  have hNoDocuments : ∀ {e : Source.Error}, (∀ documents, ¬ Holds path w documents) →
      (e.toFailure.kind = .definition) → (∃ rest, e.toFailure.text = path.text ++ rest) →
        Tells path w e.toFailure :=
    fun hEmpty hKind hText => ⟨hKind, hText, fun documents hHolds => (hEmpty documents hHolds).elim⟩
  cases hRead : (World.readFile path w).result with
  | error g =>
      have hEmpty : ∀ documents, ¬ Holds path w documents := by simp [Holds, hRead]
      rw [hRead, flowsOf] at h
      rcases read_error hRead with hSystem | ⟨-, hLets⟩
      · rw [hSystem] at h
        cases h
        exact hNoDocuments hEmpty rfl ⟨_, String.append_assoc⟩
      · exact (hNone g hLets).elim
  | ok text =>
      rw [hRead, flowsOf, Source.flows] at h
      cases hMarkup : Markup.documents text with
      | ok documents =>
          rw [hMarkup] at h
          obtain ⟨number, rejection, hRejected, rfl⟩ := ((Source.flowsOf_spec _ _ _).2 e).mp h
          exact tells_of_rejected ⟨text, hRead, hMarkup⟩ hRejected hNone
      | error fault =>
          have hEmpty : ∀ documents, ¬ Holds path w documents := by simp [Holds, hRead, hMarkup]
          rw [hMarkup] at h
          cases fault with
          | invalid level reason =>
              cases h
              exact hNoDocuments hEmpty rfl ⟨_, String.append_assoc⟩
          | failure g => exact (hNone g (.scalar text g hRead hMarkup)).elim

/-- Loading a file gives one flow for each of its documents that is not empty, in their order, or an
error of the definition that begins with the path and, if a document is rejected, names the first such
document by its number; or else a failure is let through, and exactly which ones are is told. -/
theorem load_tells_file (path : FilePath) (w : World) :
    ∃ result, (load path w).result = .ok result ∧
      (∀ flows, result = .ok flows ↔
        ∃ documents, Holds path w documents ∧
          Source.readings path.text 0 documents = flows.map .ok) ∧
      (∀ f, result = .error (.failure f) ↔ LetsThrough path w f) ∧
      ∀ e, result = .error e → (∀ f, ¬ LetsThrough path w f) → Tells path w e.toFailure :=
  ⟨_, result_load path w, fun _ => flowsOf_eq_ok,
    fun _ => ⟨letsThrough_of_flowsOf, flowsOf_of_letsThrough⟩, fun _ => tells_of_flowsOf⟩

/-- A file that is not there: an error of the definition tells so. -/
theorem load_tells_missing_file :
    ∃ e, (load ⟨"", ["flow.yml"]⟩ (.fresh (fun _ => .error noNetwork) [] (fun _ => [])
        .working)).result = .ok (.error e) ∧
      Tells ⟨"", ["flow.yml"]⟩ (.fresh (fun _ => .error noNetwork) [] (fun _ => []) .working)
        e.toFailure := by
  obtain ⟨result, hLoad, -, hLets, hTells⟩ := load_tells_file ⟨"", ["flow.yml"]⟩
    (.fresh (fun _ => .error noNetwork) [] (fun _ => []) .working)
  have hResult : result = .error (.unreadable "flow.yml"
      "[Errno 2] No such file or directory: 'flow.yml'") :=
    (Except.ok.inj ((result_load _ _).symm.trans hLoad)).symm.trans rfl
  have hNone : ∀ f, ¬ LetsThrough ⟨"", ["flow.yml"]⟩
      (.fresh (fun _ => .error noNetwork) [] (fun _ => []) .working) f := by
    intro f hLet
    cases hResult.symm.trans ((hLets f).mpr hLet)
  exact ⟨_, hResult ▸ hLoad, hTells _ hResult hNone⟩

/-- Bytes that are no text: their failure is let through, though it is no error of the definition. -/
theorem load_undecodable :
    (load ⟨"", ["flow.yml"]⟩ (.fresh (fun _ => .error noNetwork) [(["flow.yml"], .file [0xff])]
        (fun _ => []) .working)).result =
      .ok (.error (.failure (.general .unicodeDecode
        "'utf-8' codec can't decode byte 0xff in position 0: invalid start byte"))) ∧
      ErrorKind.general .unicodeDecode ≠ .definition := by
  have hDecode : Text.Utf8.decode [0xff] = .error ⟨.startByte, 0, 1, 0xff⟩ := by
    rw [Text.Utf8.decode, Text.Utf8.decodeFrom]
    rfl
  refine ⟨?_, by decide⟩
  rw [result_load, flowsOf_of_letsThrough (.bytes [0xff] _ rfl rfl hDecode)]
  rfl

end FlowFile

end Flowline
