import Flowline.Proofs.Except
import Flowline.Flow.Document

/-!
Parts of documents: the trigger, its interval, the lists of steps and the steps, at the paths that lead
to them. Null stands for a part that is left out. A reading tells the first part that is ill-shaped: a
part comes before all that is in it, and all that is in it before the parts behind it. A part that is
inside of itself is told in its turn too, as one without an end.
-/

namespace Flowline

namespace Value

/-- Whether a value is a mapping, be it one inside of itself. -/
def isMapping : Value → Bool
  | map _ => true
  | enclosing isMap => isMap
  | _ => false

/-- Whether a value is a list, be it one inside of itself. -/
def isList : Value → Bool
  | list _ => true
  | enclosing isMap => !isMap
  | _ => false

/-- Whether a value is a text, well formed or not. -/
def isText : Value → Bool
  | text _ | torn _ => true
  | _ => false

theorem isMapping_eq_false {v : Value} (hMap : ∀ entries, v ≠ map entries) (hInside : v ≠ enclosing true) :
    v.isMapping = false := by
  cases v with
  | map entries => exact absurd rfl (hMap entries)
  | enclosing isMap => cases isMap <;> first | rfl | exact absurd rfl hInside
  | _ => rfl

theorem isList_eq_false {v : Value} (hList : ∀ items, v ≠ list items) (hInside : v ≠ enclosing false) :
    v.isList = false := by
  cases v with
  | list items => exact absurd rfl (hList items)
  | enclosing isMap => cases isMap <;> first | rfl | exact absurd rfl hInside
  | _ => rfl

theorem isText_eq_false {v : Value} (hText : ∀ s, v ≠ text s) (hTorn : ∀ t, v ≠ torn t) :
    v.isText = false := by
  cases v with
  | text s => exact absurd rfl (hText s)
  | torn t => exact absurd rfl (hTorn t)
  | _ => rfl

end Value

namespace Document

/-! ## Paths -/

/-- The fields that lead to the parts of a document. -/
inductive Field where
  | trigger
  | interval
  | steps
  | uponFailure
  | ifTrue
  | ifFalse
  deriving DecidableEq

namespace Field

def name : Field → String
  | trigger => "trigger"
  | interval => "interval"
  | steps => "steps"
  | uponFailure => "upon_failure"
  | ifTrue => "if_true"
  | ifFalse => "if_false"

/-- The order of the fields of one mapping. -/
def rank : Field → Nat
  | trigger => 0
  | interval => 1
  | steps => 2
  | uponFailure => 3
  | ifTrue => 4
  | ifFalse => 5

end Field

/-- One way down in a document: into a field of a mapping, to an item of a list, or into a field of the
body that a step has under its single key. -/
inductive Turn where
  | field (f : Field)
  | item (index : Nat)
  | nested (f : Field)

namespace Turn

def text : Turn → String
  | field f => "." ++ f.name
  | item index => "[" ++ (toString index ++ "]")
  | nested f => "." ++ f.name

/-- The order of the ways down from one value. -/
def rank : Turn → Nat
  | field f => f.rank
  | item index => index
  | nested f => f.rank

/-- What a way down leads to. -/
def follow : Turn → Value → Option Value
  | field f, .map entries => Entries.field? entries f.name
  | item index, .list items => items[index]?
  | nested f, .map [(_, .map body)] => Entries.field? body f.name
  | _, _ => none

end Turn

/-- A way down in a document, turn by turn. -/
abbrev Path := List Turn

namespace Path

def text (path : Path) : String := String.join (path.map Turn.text)

/-- What stands at a path in a value. -/
def follow : Path → Value → Option Value
  | [], v => some v
  | turn :: path, v => (turn.follow v).bind (follow path)

/-- The order of paths: a part comes before all that is in it, and all that is in it before the parts
behind it. -/
def Before : Path → Path → Prop := List.Lex fun a b => a.rank < b.rank

theorem text_cons (turn : Turn) (path : Path) : text (turn :: path) = turn.text ++ path.text := by
  rw [text, List.map_cons, String.join_cons, text]

end Path

end Document

/-! ## Parts of a document -/

namespace StepKind

/-- The fields of a body that hold steps, in the order in which they are read. -/
def nestedFields : StepKind → List Document.Field
  | compareVar => [.ifTrue, .ifFalse]
  | kind => if kind.isFailable then [.uponFailure] else []

/-- The field of a body that holds a duration. -/
def timedName? (kind : StepKind) : Option String :=
  if kind.isFailable then some "retry_interval"
  else if kind = .sleep then some "duration"
  else none

end StepKind

namespace Document

/-- The parts of a document that have a shape. -/
inductive Part where
  | document
  | trigger
  | interval
  | stepList
  | step

/-- A part of a document leads to another one. The interval of a trigger that does not repeat is none,
and nor is a field that the kind of a step does not have. -/
inductive Leads : Part → Value → Turn → Part → Value → Prop where
  | trigger {entries : Entries} {v : Value} (given : entries.field? "trigger" = some v) :
      Leads .document (.map entries) (.field .trigger) .trigger v
  | steps {entries : Entries} {v : Value} (given : entries.field? "steps" = some v) :
      Leads .document (.map entries) (.field .steps) .stepList v
  | fallback {entries : Entries} {v : Value} (given : entries.field? "upon_failure" = some v) :
      Leads .document (.map entries) (.field .uponFailure) .stepList v
  | interval {entries : Entries} {v : Value}
      (repeats : repeats? (fieldOrNull entries "type").display = some true)
      (given : entries.field? "interval" = some v) (some : v ≠ .null) :
      Leads .trigger (.map entries) (.field .interval) .interval v
  | item {items : List Value} {index : Nat} {v : Value} (given : items[index]? = some v) :
      Leads .stepList (.list items) (.item index) .step v
  | nested {name v : Value} {body : Entries} {kind : StepKind} {f : Field}
      (known : stepKind? name.display = some kind) (holds : f ∈ kind.nestedFields)
      (given : body.field? f.name = some v) :
      Leads .step (.map [(name, .map body)]) (.nested f) .stepList v

/-- A part of a document holds another one, at a path. -/
inductive Holds : Part → Value → Path → Part → Value → Prop where
  | itself (part : Part) (v : Value) : Holds part v [] part v
  | further {part inner last : Part} {v w x : Value} {turn : Turn} {path : Path}
      (leads : Leads part v turn inner w) (holds : Holds inner w path last x) :
      Holds part v (turn :: path) last x

/-- A part that is inside of itself where it is to be read on. -/
inductive Endless : Part → Value → Prop where
  | document : Endless .document (.enclosing true)
  | trigger : Endless .trigger (.enclosing true)
  | stepList : Endless .stepList (.enclosing false)
  | step : Endless .step (.enclosing true)
  | fields {name : Value} {kind : StepKind} (known : stepKind? name.display = some kind) :
      Endless .step (.map [(name, .enclosing true)])

/-- A part is ill-shaped in some way. A step with a duration that is malformed is ill-shaped itself; of
two entries under the name of the duration the later one holds. -/
inductive IllShaped : Part → Value → ShapeError → Prop where
  | endless {part : Part} {v : Value} (inside : Endless part v) : IllShaped part v .endless
  | document {v : Value} (noMapping : v.isMapping = false) : IllShaped .document v .document
  | trigger {v : Value} (some : v ≠ .null) (noMapping : v.isMapping = false) :
      IllShaped .trigger v .trigger
  | triggerType {entries : Entries}
      (unknown : repeats? (fieldOrNull entries "type").display = none) :
      IllShaped .trigger (.map entries) (.triggerType (fieldOrNull entries "type").literal)
  | interval {v : Value} {e : Duration.Error} (malformed : Duration.ofValue v = .error e) :
      IllShaped .interval v (.duration e)
  | stepList {v : Value} (some : v ≠ .null) (noList : v.isList = false) :
      IllShaped .stepList v .stepList
  | step {v : Value} (noName : v.isText = false) (noSingle : ∀ name body, v ≠ .map [(name, body)])
      (ending : v ≠ .enclosing true) : IllShaped .step v .step
  | unknownName {name : String} (unknown : stepKind? name = none) :
      IllShaped .step (.text name) (.unknownStep (Text.quoted name))
  | tornName {name : Text.Torn} : IllShaped .step (.torn name) (.unknownStep name.quoted)
  | unknownKind {name body : Value} (unknown : stepKind? name.display = none) :
      IllShaped .step (.map [(name, body)]) (.unknownStep name.literal)
  | fields {name body : Value} {kind : StepKind} (known : stepKind? name.display = some kind)
      (some : body ≠ .null) (noMapping : body.isMapping = false) :
      IllShaped .step (.map [(name, body)]) (.stepFields name.literal)
  | duration {name v : Value} {body : Entries} {kind : StepKind} {field : String}
      {e : Duration.Error} (known : stepKind? name.display = some kind)
      (timed : kind.timedName? = some field) (given : (Entries.ofList body).field? field = some v)
      (malformed : Duration.ofValue v = .error e) :
      IllShaped .step (.map [(name, .map body)]) (.duration e)

/-- At a path in a part there is one that is ill-shaped. -/
def IllAt (part : Part) (v : Value) (path : Path) (fault : ShapeError) : Prop :=
  ∃ inner w, Holds part v path inner w ∧ IllShaped inner w fault

/-- A part holds none that is ill-shaped. -/
def WellShaped (part : Part) (v : Value) : Prop := ∀ path fault, ¬ IllAt part v path fault

/-- At a path there is the first of all parts that are ill-shaped. -/
def FirstIllAt (part : Part) (v : Value) (path : Path) (fault : ShapeError) : Prop :=
  IllAt part v path fault ∧
    ∀ other fault', IllAt part v other fault' → (other = path ∧ fault' = fault) ∨ path.Before other

variable {part inner : Part} {v w : Value} {turn : Turn} {path : Path} {fault fault' : ShapeError}
  {place : String} {α β : Type}

theorem Leads.follow (h : Leads part v turn inner w) : turn.follow v = some w := by
  cases h <;> assumption

/-- A path leads to the part that is held there. -/
theorem Holds.follow (h : Holds part v path inner w) : path.follow v = some w := by
  induction h with
  | itself part v => rfl
  | further leads _ ih => rw [Path.follow, leads.follow, Option.bind_some, ih]

/-- A part that is inside of itself is ill-shaped in no other way. -/
theorem Endless.unique (h : Endless part v) (hIll : IllShaped part v fault) : fault = .endless := by
  cases h <;> cases hIll <;> simp_all [Value.isMapping, Value.isList]

/-- A part is ill-shaped in one way only. -/
theorem IllShaped.unique (h : IllShaped part v fault) (h' : IllShaped part v fault') :
    fault' = fault := by
  by_cases hInside : Endless part v
  · rw [hInside.unique h, hInside.unique h']
  · cases h <;> cases h' <;> simp_all [Value.isMapping, Value.isText]

theorem illAt_nil : IllAt part v [] fault ↔ IllShaped part v fault := by
  constructor
  · rintro ⟨inner, w, hHolds, hIll⟩
    cases hHolds
    exact hIll
  · exact fun h => ⟨part, v, .itself part v, h⟩

theorem illAt_cons :
    IllAt part v (turn :: path) fault ↔
      ∃ inner w, Leads part v turn inner w ∧ IllAt inner w path fault := by
  constructor
  · rintro ⟨last, x, hHolds, hIll⟩
    cases hHolds with
    | further leads holds => exact ⟨_, _, leads, last, x, holds, hIll⟩
  · rintro ⟨inner, w, hLeads, last, x, hHolds, hIll⟩
    exact ⟨last, x, .further hLeads hHolds, hIll⟩

/-! ## What a reading tells -/

/-- A way down from a part, and the part that it leads to. -/
abbrev Branch := Turn × Part × Value

/-- The branches of a part, in order. -/
structure Branches (part : Part) (v : Value) (branches : List Branch) : Prop where
  sound : ∀ b ∈ branches, Leads part v b.1 b.2.1 b.2.2
  complete : ∀ {turn inner w}, Leads part v turn inner w → (turn, inner, w) ∈ branches
  sorted : branches.Pairwise fun a b => a.1.rank < b.1.rank

/-- A reading of a part gives something if the part is well-shaped, and else the error of the first part
in it that is not. -/
inductive Tells (part : Part) (v : Value) (place : String) : Except Error α → Prop where
  | ok {a : α} (well : WellShaped part v) : Tells part v place (.ok a)
  | error {path : Path} {fault : ShapeError} (first : FirstIllAt part v path fault) :
      Tells part v place (.error (.shape (place ++ path.text) fault))

/-- A reading of branches gives something if all are well-shaped, and else the error of the first one
that is not. -/
inductive TellsIn (branches : List Branch) (place : String) : Except Error α → Prop where
  | ok {a : α} (well : ∀ b ∈ branches, WellShaped b.2.1 b.2.2) : TellsIn branches place (.ok a)
  | error {before after : List Branch} {turn : Turn} {inner : Part} {w : Value} {path : Path}
      {fault : ShapeError} (split : branches = before ++ (turn, inner, w) :: after)
      (well : ∀ b ∈ before, WellShaped b.2.1 b.2.2) (first : FirstIllAt inner w path fault) :
      TellsIn branches place (.error (.shape (place ++ Path.text (turn :: path)) fault))

/-- What is ill-shaped itself is told before all that is in it. -/
theorem Tells.of_illShaped (h : IllShaped part v fault) :
    Tells part v place (.error (.shape place fault) : Except Error α) := by
  have hFirst : FirstIllAt part v [] fault := by
    refine ⟨illAt_nil.mpr h, fun other fault' hOther => ?_⟩
    cases other with
    | nil => exact .inl ⟨rfl, h.unique (illAt_nil.mp hOther)⟩
    | cons turn path => exact .inr .nil
  have hTells : Tells part v place (.error (.shape (place ++ Path.text []) fault) : Except Error α) :=
    .error hFirst
  rwa [Path.text, List.map_nil, String.join_nil, String.append_empty] at hTells

/-- What is not ill-shaped itself is told by its branches. -/
theorem Tells.of_branches {branches : List Branch} {x : Except Error α}
    (hWell : ∀ fault, ¬ IllShaped part v fault) (hBranches : Branches part v branches)
    (h : TellsIn branches place x) : Tells part v place x := by
  cases h with
  | ok well =>
      refine .ok fun path fault hIll => ?_
      cases path with
      | nil => exact hWell fault (illAt_nil.mp hIll)
      | cons turn path =>
          obtain ⟨inner, w, hLeads, hInner⟩ := illAt_cons.mp hIll
          exact well _ (hBranches.complete hLeads) path fault hInner
  | @error before after turn inner w path fault split well first =>
      obtain ⟨hIll, hOthers⟩ := first
      have hSorted := hBranches.sorted
      rw [split, List.pairwise_append, List.pairwise_cons] at hSorted
      have hHere : (turn, inner, w) ∈ branches :=
        split ▸ List.mem_append_right _ List.mem_cons_self
      refine .error ⟨illAt_cons.mpr ⟨inner, w, hBranches.sound _ hHere, hIll⟩, ?_⟩
      intro other fault' hOther
      cases other with
      | nil => exact absurd (illAt_nil.mp hOther) (hWell fault')
      | cons turn' path' =>
          obtain ⟨inner', w', hLeads, hInner⟩ := illAt_cons.mp hOther
          have hMem := hBranches.complete hLeads
          rw [split, List.mem_append, List.mem_cons] at hMem
          rcases hMem with hBefore | hSame | hAfter
          · exact absurd hInner (well _ hBefore path' fault')
          · cases hSame
            rcases hOthers path' fault' hInner with ⟨rfl, rfl⟩ | hLater
            · exact .inl ⟨rfl, rfl⟩
            · exact .inr (.cons hLater)
          · exact .inr (.rel (hSorted.2.1.1 _ hAfter))

/-- A part that is not ill-shaped and leads nowhere. -/
theorem Tells.of_leaf (hWell : ∀ fault, ¬ IllShaped part v fault)
    (hEnd : ∀ turn inner w, ¬ Leads part v turn inner w) (a : α) :
    Tells part v place (.ok a : Except Error α) :=
  .of_branches hWell ⟨List.forall_mem_nil _, fun h => (hEnd _ _ _ h).elim, List.Pairwise.nil⟩
    (.ok (List.forall_mem_nil _))

namespace TellsIn

variable {first last : List Branch} {x : Except Error α}

/-- Two readings in a row tell the branches of both in this order. -/
theorem bind {next : α → Except Error β} (hx : TellsIn first place x)
    (hNext : ∀ a, TellsIn last place (next a)) : TellsIn (first ++ last) place (x >>= next) := by
  cases hx with
  | error split well ill =>
      exact .error (by rw [split, List.append_assoc, List.cons_append]) well ill
  | @ok a well =>
      have hLast := hNext a
      change TellsIn (first ++ last) place (next a)
      generalize next a = y at hLast ⊢
      cases hLast with
      | ok wellLast => exact .ok (List.forall_mem_append.mpr ⟨well, wellLast⟩)
      | @error before after _ _ _ _ _ split wellBefore ill =>
          have hSplit := congrArg (first ++ ·) split
          rw [← List.append_assoc] at hSplit
          exact .error hSplit (List.forall_mem_append.mpr ⟨well, wellBefore⟩) ill

/-- A reading that cannot fail tells nothing. -/
theorem unfailing (h : FailsAs (fun _ => False) x) : TellsIn [] place x := by
  obtain ⟨a, rfl⟩ := h.exists_ok
  exact .ok (List.forall_mem_nil _)

/-- What follows a reading and cannot fail. -/
theorem bind_unfailing {next : α → Except Error β} (hx : TellsIn first place x)
    (hNext : ∀ a, FailsAs (fun _ => False) (next a)) : TellsIn first place (x >>= next) := by
  rw [← List.append_nil first]
  exact hx.bind fun a => unfailing (hNext a)

/-- The reading of one branch, at the place to which it leads. -/
theorem single (h : Tells inner w (place ++ turn.text) x) : TellsIn [(turn, inner, w)] place x := by
  cases h with
  | ok well => exact .ok (List.forall_mem_singleton.mpr well)
  | error first =>
      rw [String.append_assoc, ← Path.text_cons]
      have hSplit : [(turn, inner, w)] = [] ++ (turn, inner, w) :: [] := rfl
      exact .error hSplit (List.forall_mem_nil _) first

end TellsIn

end Document

end Flowline
