import Flowline.Proofs.Interpreter.Failing

/-!
Fallbacks in the log. The records that a fallback is entered and that it came to its end are the brackets
of a word. A run that succeeds closes all that it opens; one that fails leaves those open that enclose
the step which raised the failure. Before each opening bracket stands the record of the failure because
of which the fallback is entered.
-/

namespace Flowline

/-- What a record around a fallback tells. -/
inductive Bracket where
  | entry
  | completion
  deriving DecidableEq, Repr

namespace Bracket

/-- A word of brackets in which each has its counterpart. -/
inductive Balanced : List Bracket → Prop where
  | nil : Balanced []
  | wrap {inner rest : List Bracket} (inside : Balanced inner) (after : Balanced rest) :
      Balanced (entry :: (inner ++ completion :: rest))

/-- A word of brackets in which so many entries have no counterpart, and all others have one. -/
inductive Unclosed : Nat → List Bracket → Prop where
  | balanced {word : List Bracket} (h : Balanced word) : Unclosed 0 word
  | entered {before after : List Bracket} {count : Nat} (earlier : Balanced before)
      (later : Unclosed count after) : Unclosed (count + 1) (before ++ entry :: after)

variable {first last : List Bracket} {count : Nat}

theorem Balanced.append (hFirst : Balanced first) (hLast : Balanced last) :
    Balanced (first ++ last) := by
  induction hFirst with
  | nil => exact hLast
  | wrap inside after _ ihAfter =>
      rw [List.cons_append, List.append_assoc, List.cons_append]
      exact .wrap inside ihAfter

theorem Balanced.append_unclosed (hFirst : Balanced first) (hLast : Unclosed count last) :
    Unclosed count (first ++ last) := by
  cases hLast with
  | balanced h => exact .balanced (hFirst.append h)
  | entered earlier inside =>
      rw [← List.append_assoc]
      exact .entered (hFirst.append earlier) inside

/-- With as many completions as are missing the word is balanced. -/
theorem Unclosed.closed (h : Unclosed count last) :
    Balanced (last ++ List.replicate count completion) := by
  induction h with
  | balanced h =>
      rw [List.replicate_zero, List.append_nil]
      exact h
  | entered earlier _ ih =>
      rw [List.replicate_succ', List.append_assoc, List.cons_append, ← List.append_assoc]
      exact earlier.append (.wrap ih .nil)

end Bracket

/-- The bracket that a record is. -/
def Event.bracket? (e : Event) : Option Bracket :=
  e.entry?.bind fun entry =>
    if entry.logger = .interpreter then
      if entry.message = "Entering step fallback" then some .entry
      else if entry.message = "Step fallback completed" then some .completion
      else none
    else none

/-- A warning of the interpreter. -/
def Event.isStepWarning (e : Event) : Bool :=
  e.entry?.any fun entry => entry.logger = .interpreter && entry.level = .warning

/-! ## Fallbacks around a step -/

namespace Step

theorem nested_fallback (step : Step) : step.nested .fallback = step.fallback := by
  cases step <;> rfl

theorem offset_fallback (step : Step) : step.offset .fallback = 0 := by
  cases step <;> rfl

/-- A step, what stands before the list that is run next, and that list are no more than the step with
all its descendants. -/
theorem length_nested_le (step : Step) (next : Next) :
    1 + step.offset next + (walk (step.nested next)).length ≤ (withDescendants step).length := by
  cases step <;> cases next <;>
    simp only [nested, fallback, offset, withDescendants, walk, List.length_cons, List.length_nil,
      List.length_append] <;>
    try omega
  rename_i taken
  cases taken <;> simp <;> omega

end Step

namespace Dispatch

/-- Whether the own part of a dispatched step leads into its fallback. -/
def entersFallback (s : Services) (d : Dispatch) : Bool :=
  match (d.own s).result with
  | .ok .fallback => true
  | _ => false

/-- Whether a dispatched step has entered its fallback and a place is in there, at whatever depth. -/
def encloses (s : Services) (place : Nat) (d : Dispatch) : Bool :=
  d.entersFallback s && (d.index < place && place ≤ d.index + (Step.walk d.step.fallback).length)

end Dispatch

namespace Interpreter

/-- The bracket that an own part writes. -/
def opening : Next → List Bracket
  | .fallback => [.entry]
  | _ => []

/-- The bracket that follows the list to which an own part led. -/
def ending : Next → List Bracket
  | .fallback => [.completion]
  | _ => []

/-- The number of fallbacks that were entered in a course and hold a place. -/
def enclosing (s : Services) (course : List Dispatch) (place : Nat) : Nat :=
  course.countP (Dispatch.encloses s place)

variable {s : Services} {first : Nat} {step : Step} {rest steps : List Step} {r : Run} {d last : Dispatch}
  {f : Failure}

theorem index_of_mem_dispatches (h : d ∈ dispatches s first steps r) :
    first ≤ d.index ∧ d.index < first + (Step.walk steps).length := by
  have hPlace := (dispatches_sublist_walk s first steps r).subset (List.mem_map_of_mem h)
  exact ⟨List.le_snd_of_mem_zipIdx hPlace, List.snd_lt_add_of_mem_zipIdx hPlace⟩

/-- The places of the fallback of a dispatched step are among those of the list. -/
theorem fallback_of_mem_dispatches (h : d ∈ dispatches s first steps r) :
    d.index + (Step.walk d.step.fallback).length < first + (Step.walk steps).length := by
  induction steps using Step.nested_induction generalizing first r with
  | nil => simp at h
  | cons step rest ihNested ihRest =>
      rw [Step.walk, List.length_append]
      have hHead := step.length_nested_le .fallback
      rw [Step.nested_fallback, Step.offset_fallback] at hHead
      have hInner {next : Next} {t : Run}
          (h : d ∈ dispatches s (first + 1 + step.offset next) (step.nested next) t) :
          d.index + (Step.walk d.step.fallback).length <
            first + ((Step.withDescendants step).length + (Step.walk rest).length) := by
        have hNested := step.length_nested_le next
        have hBound := ihNested next h
        omega
      rcases cons_cases s step r with ⟨f, hOwn⟩ | ⟨next, f, hOwn, hNested⟩ | ⟨next, hOwn, hNested⟩
      · rw [dispatches_cons_of_error hOwn, List.mem_singleton] at h
        subst h
        dsimp only
        omega
      · rw [dispatches_cons_of_nested_error hOwn hNested, List.mem_cons] at h
        rcases h with rfl | h
        · dsimp only
          omega
        · exact hInner h
      · rw [dispatches_cons_of_ok hOwn hNested, List.mem_cons, List.mem_append] at h
        rcases h with rfl | h | h
        · dsimp only
          omega
        · exact hInner h
        · have hBound := ihRest h
          omega

/-- No place behind the fallbacks of a course is in one of them. -/
theorem enclosing_of_behind {course : List Dispatch} {place : Nat}
    (h : ∀ d ∈ course, d.index + (Step.walk d.step.fallback).length < place) :
    enclosing s course place = 0 := by
  refine List.countP_eq_zero.mpr fun d hMem hEncloses => ?_
  have hBehind := h d hMem
  simp only [Dispatch.encloses, Bool.and_eq_true, decide_eq_true_eq] at hEncloses
  omega

/-- Of the places of the list to which an own part led, the fallback holds one more if it is that list. -/
theorem enclosing_cons_of_ok {course : List Dispatch} {next : Next} {place : Nat}
    (h : (dispatch s step r).result = .ok next) (hFirst : first + 1 + step.offset next ≤ place)
    (hLast : place < first + 1 + step.offset next + (Step.walk (step.nested next)).length) :
    enclosing s (⟨first, step, r⟩ :: course) place =
      enclosing s course place + (opening next).length := by
  have hHead : Dispatch.encloses s place ⟨first, step, r⟩ = true ↔ next = .fallback := by
    have hOwn : (Dispatch.own s ⟨first, step, r⟩).result = .ok next := h
    rw [Dispatch.encloses, Dispatch.entersFallback, hOwn]
    cases next with
    | fallback =>
        rw [Step.nested_fallback, Step.offset_fallback] at hLast
        rw [Step.offset_fallback] at hFirst
        simp only [Bool.and_eq_true, decide_eq_true_eq, true_and, iff_true]
        omega
    | finished | arm => simp
  rw [enclosing, enclosing, List.countP_cons]
  simp only [hHead]
  cases next <;> rfl

/-! ## The word of a run -/

theorem bracket?_of_operation {e : Event} (h : e.OfOperation) : e.bracket? = none := by
  rw [Event.bracket?, Option.bind_eq_none_iff]
  intro entry hEntry
  rcases h entry hEntry with hCollaborator | ⟨-, -, hMessage⟩
  · refine if_neg fun hLogger => ?_
    have hNot := hCollaborator.logger
    rw [hLogger] at hNot
    cases hNot
  · have hNeither : entry.message ≠ "Entering step fallback" ∧
        entry.message ≠ "Step fallback completed" := by
      simp only [List.mem_cons, List.not_mem_nil, or_false] at hMessage
      rcases hMessage with hMessage | hMessage <;> rw [hMessage] <;> decide
    rw [if_neg hNeither.1, if_neg hNeither.2, ite_self]

theorem bracket?_failedRecord (s : Services) (f : Failure) : (failedRecord s f).bracket? = none := by
  have hEntry : "Step failed: " ++ f.text ≠ "Entering step fallback" :=
    append_ne_of_start (by decide)
  have hCompletion : "Step failed: " ++ f.text ≠ "Step fallback completed" :=
    append_ne_of_start (by decide)
  refine Option.bind_eq_none_iff.mpr fun entry hSame => ?_
  cases hSame
  rw [if_pos rfl, if_neg hEntry, if_neg hCompletion]

theorem brackets_closingEvents (s : Services) (next : Next) :
    (closingEvents s next).filterMap Event.bracket? = ending next := by
  cases next <;> rfl

theorem brackets_operation (s : Services) (step : Step) (r : Run) :
    (operation s step r).events.filterMap Event.bracket? = [] :=
  List.filterMap_eq_nil_iff.mpr fun e hMem => bracket?_of_operation (emits_operation s step r e hMem)

theorem brackets_dispatch_of_error (h : (dispatch s step r).result = .error f) :
    (dispatch s step r).events.filterMap Event.bracket? = [] := by
  rcases operation_cases s step r with ⟨y, hOp⟩ | ⟨g, hOp, hStays⟩ | ⟨g, hOp, hRecovers, hNone⟩ |
    ⟨g, hOp, hRecovers, hSome⟩
  · rw [dispatch_of_ok hOp] at h
    cases h
  · rw [dispatch_of_unrecovered hOp hStays]
    exact brackets_operation s step r
  · rw [dispatch_of_no_fallback hOp hRecovers hNone]
    simp [List.filterMap_append, brackets_operation, bracket?_failedRecord]
  · rw [dispatch_of_fallback hOp hRecovers hSome] at h
    cases h

theorem brackets_dispatch_of_ok {next : Next} (h : (dispatch s step r).result = .ok next) :
    (dispatch s step r).events.filterMap Event.bracket? = opening next := by
  rcases operation_cases s step r with ⟨y, hOp⟩ | ⟨g, hOp, hStays⟩ | ⟨g, hOp, hRecovers, hNone⟩ |
    ⟨g, hOp, hRecovers, hSome⟩
  · rw [dispatch_of_ok hOp] at h ⊢
    cases h
    refine (brackets_operation s step r).trans ?_
    cases y <;> rfl
  · rw [dispatch_of_unrecovered hOp hStays] at h
    cases h
  · rw [dispatch_of_no_fallback hOp hRecovers hNone] at h
    cases h
  · rw [dispatch_of_fallback hOp hRecovers hSome] at h ⊢
    cases h
    rw [List.filterMap_append, brackets_operation, List.nil_append,
      List.filterMap_cons_none (bracket?_failedRecord s g)]
    rfl

/-- What is opened by an own part is closed after the list to which that led. -/
theorem balanced_around (next : Next) {word : List Bracket} (h : Bracket.Balanced word) :
    Bracket.Balanced (opening next ++ word ++ ending next) := by
  cases next with
  | fallback => exact .wrap h .nil
  | finished | arm =>
      change Bracket.Balanced (word ++ [])
      rw [List.append_nil]
      exact h

theorem balanced_run (s : Services) (steps : List Step) (r : Run)
    (h : (run s steps r).result = .ok ()) :
    Bracket.Balanced ((run s steps r).events.filterMap Event.bracket?) := by
  induction steps using Step.nested_induction generalizing r with
  | nil => exact .nil
  | cons step rest ihNested ihRest =>
      rcases cons_cases s step r with ⟨f, hOwn⟩ | ⟨next, f, hOwn, hNested⟩ | ⟨next, hOwn, hNested⟩
      · rw [run_cons_of_error hOwn] at h
        cases h
      · rw [run_cons_of_nested_error hOwn hNested, Done.result_after, hNested] at h
        cases h
      · rw [run_cons_of_ok hOwn hNested] at h ⊢
        rw [Done.events_after, List.cons_append, List.cons_append, List.cons_append,
          List.filterMap_cons_none rfl]
        simp only [List.filterMap_append, brackets_dispatch_of_ok hOwn, brackets_closingEvents]
        exact (balanced_around next (ihNested next _ hNested)).append (ihRest _ h)

theorem exists_last_of_run_error (first : Nat) (h : (run s steps r).result = .error f) :
    ∃ last, (dispatches s first steps r).getLast? = some last := by
  obtain ⟨last, hLast⟩ := endsWith_of_run_error s first steps r f h
  obtain ⟨earlier, hCourse, -⟩ := hLast.isLast
  exact ⟨last, by rw [hCourse, List.getLast?_concat]⟩

/-- Of the fallbacks that a failing run has entered those stay open which hold the step dispatched
last. -/
theorem unclosed_run (first : Nat) (h : (run s steps r).result = .error f)
    (hLast : (dispatches s first steps r).getLast? = some last) :
    Bracket.Unclosed (enclosing s (dispatches s first steps r) last.index)
      ((run s steps r).events.filterMap Event.bracket?) := by
  induction steps using Step.nested_induction generalizing first r with
  | nil => cases h
  | cons step rest ihNested ihRest =>
      rcases cons_cases s step r with ⟨g, hOwn⟩ | ⟨next, g, hOwn, hNested⟩ | ⟨next, hOwn, hNested⟩
      · rw [dispatches_cons_of_error hOwn] at hLast ⊢
        rw [run_cons_of_error hOwn, List.filterMap_cons_none rfl, brackets_dispatch_of_error hOwn]
        have hNone : enclosing s [⟨first, step, r⟩] last.index = 0 := by
          refine List.countP_eq_zero.mpr fun d hMem hEncloses => ?_
          cases List.mem_singleton.mp hMem
          cases hLast
          simp [Dispatch.encloses] at hEncloses
        rw [hNone]
        exact .balanced .nil
      · obtain ⟨inner, hInner⟩ := exists_last_of_run_error (first + 1 + step.offset next) hNested
        rw [dispatches_cons_of_nested_error hOwn hNested, List.getLast?_cons, hInner,
          Option.getD_some] at hLast
        cases hLast
        obtain ⟨hFirst, hBound⟩ := index_of_mem_dispatches (List.mem_of_getLast? hInner)
        rw [dispatches_cons_of_nested_error hOwn hNested, enclosing_cons_of_ok hOwn hFirst hBound,
          run_cons_of_nested_error hOwn hNested, Done.events_after, List.cons_append,
          List.filterMap_cons_none rfl, List.filterMap_append, brackets_dispatch_of_ok hOwn]
        rw [run_cons_of_nested_error hOwn hNested] at h
        have hUnclosed := ihNested next _ h hInner
        cases next with
        | fallback => exact .entered .nil hUnclosed
        | finished | arm => exact hUnclosed
      · rw [run_cons_of_ok hOwn hNested] at h
        obtain ⟨outer, hOuter⟩ :=
          exists_last_of_run_error (first + (Step.withDescendants step).length) h
        rw [dispatches_cons_of_ok hOwn hNested, ← List.cons_append, List.getLast?_append, hOuter,
          Option.some_or] at hLast
        cases hLast
        obtain ⟨hFirst, -⟩ := index_of_mem_dispatches (List.mem_of_getLast? hOuter)
        have hBehind : enclosing s (⟨first, step, r⟩ ::
            dispatches s (first + 1 + step.offset next) (step.nested next) (dispatch s step r).state)
            last.index = 0 := by
          refine enclosing_of_behind (List.forall_mem_cons.mpr ⟨?_, fun d hMem => ?_⟩)
          · have hLength := step.length_nested_le .fallback
            rw [Step.nested_fallback] at hLength
            dsimp only
            omega
          · have hLength := step.length_nested_le next
            have hInner := fallback_of_mem_dispatches hMem
            omega
        rw [dispatches_cons_of_ok hOwn hNested, ← List.cons_append, enclosing, List.countP_append,
          ← enclosing, ← enclosing, hBehind, Nat.zero_add, run_cons_of_ok hOwn hNested,
          Done.events_after, List.cons_append, List.cons_append, List.cons_append,
          List.filterMap_cons_none rfl]
        simp only [List.filterMap_append, brackets_dispatch_of_ok hOwn, brackets_closingEvents]
        exact (balanced_around next (balanced_run s _ _ hNested)).append_unclosed (ihRest _ h hOuter)

/-! ## Where the records stand -/

/-- An item of two lists in a row stands in one of them. -/
theorem append_eq_split {α : Type} {first last before after : List α} {a : α}
    (h : first ++ last = before ++ a :: after) :
    (∃ others, first = before ++ a :: others ∧ after = others ++ last) ∨
      ∃ others, last = others ++ a :: after ∧ before = first ++ others := by
  rcases List.append_eq_append_iff.mp h with ⟨others, hBefore, hLast⟩ | ⟨others, hFirst, hAfter⟩
  · exact .inr ⟨others, hLast, hBefore⟩
  · cases others with
    | nil => exact .inr ⟨[], hAfter.symm, by rw [hFirst, List.append_nil, List.append_nil]⟩
    | cons b others =>
        rw [List.cons_append, List.cons.injEq] at hAfter
        obtain ⟨rfl, rfl⟩ := hAfter
        exact .inl ⟨others, hFirst, rfl⟩

/-- An event stands among those of the own part of a dispatched step. If that part fails nothing comes
after it. -/
structure StandsIn (s : Services) (d : Dispatch) (before : List Event) (e : Event)
    (after : List Event) (own rest : List Event) : Prop where
  events : (d.own s).events = own ++ e :: rest
  before : ∃ earlier, before = earlier ++ starting s d.step :: own
  after : ∃ later, after = rest ++ later ∧ ∀ f, (d.own s).result = .error f → later = []

variable {e : Event} {before after own others : List Event}

theorem StandsIn.prepend (h : StandsIn s d before e after own others) (more : List Event) :
    StandsIn s d (more ++ before) e after own others where
  events := h.events
  before := by
    obtain ⟨earlier, hBefore⟩ := h.before
    exact ⟨more ++ earlier, by rw [hBefore, List.append_assoc]⟩
  after := h.after

theorem StandsIn.append (h : StandsIn s d before e after own others) {next : Next}
    (hOwn : (d.own s).result = .ok next) (more : List Event) :
    StandsIn s d before e (after ++ more) own others where
  events := h.events
  before := h.before
  after := by
    obtain ⟨later, hAfter, -⟩ := h.after
    refine ⟨later ++ more, by rw [hAfter, List.append_assoc], fun f hError => ?_⟩
    cases hOwn.symm.trans hError

theorem standsIn_head (first : Nat) (hStart : ∀ step, e ≠ starting s step)
    (h : starting s step :: (dispatch s step r).events = before ++ e :: after) :
    ∃ own, StandsIn s ⟨first, step, r⟩ before e after own after := by
  cases before with
  | nil =>
      rw [List.nil_append, List.cons.injEq] at h
      exact absurd h.1.symm (hStart step)
  | cons b own =>
      rw [List.cons_append, List.cons.injEq] at h
      obtain ⟨rfl, hEvents⟩ := h
      exact ⟨own, hEvents, ⟨[], rfl⟩, [], (List.append_nil _).symm, fun _ _ => rfl⟩

/-- An event of a run that is no record around steps stands in an own part. -/
theorem exists_standsIn (first : Nat) (hStart : ∀ step, e ≠ starting s step)
    (hCompleted : e ≠ completedRecord s) (h : (run s steps r).events = before ++ e :: after) :
    ∃ d ∈ dispatches s first steps r, ∃ own others, StandsIn s d before e after own others := by
  induction steps using Step.nested_induction generalizing first r before after with
  | nil => exact absurd h (by simp)
  | cons step rest ihNested ihRest =>
      rcases cons_cases s step r with ⟨f, hOwn⟩ | ⟨next, f, hOwn, hNested⟩ | ⟨next, hOwn, hNested⟩
      · rw [run_cons_of_error hOwn] at h
        rw [dispatches_cons_of_error hOwn]
        obtain ⟨own, hStands⟩ := standsIn_head first hStart h
        exact ⟨_, List.mem_singleton_self _, own, after, hStands⟩
      · rw [run_cons_of_nested_error hOwn hNested, Done.events_after] at h
        rw [dispatches_cons_of_nested_error hOwn hNested]
        rcases append_eq_split h with ⟨others, hHead, rfl⟩ | ⟨others, hInner, rfl⟩
        · obtain ⟨own, hStands⟩ := standsIn_head first hStart hHead
          exact ⟨_, List.mem_cons_self, own, others, hStands.append hOwn _⟩
        · obtain ⟨d, hMem, own, rest, hStands⟩ := ihNested next _ hInner
          exact ⟨d, List.mem_cons_of_mem _ hMem, own, rest, hStands.prepend _⟩
      · rw [run_cons_of_ok hOwn hNested, Done.events_after, List.append_assoc,
          List.append_assoc] at h
        rw [dispatches_cons_of_ok hOwn hNested]
        rcases append_eq_split h with ⟨others, hHead, rfl⟩ | ⟨others, hTail, rfl⟩
        · obtain ⟨own, hStands⟩ := standsIn_head first hStart hHead
          exact ⟨_, List.mem_cons_self, own, others, hStands.append hOwn _⟩
        rcases append_eq_split hTail with ⟨others, hInner, rfl⟩ | ⟨others, hBehind, rfl⟩
        · obtain ⟨d, hMem, own, rest, hStands⟩ := ihNested next _ hInner
          obtain ⟨last, hLast⟩ := own_ok_of_run_ok s _ _ _ hNested d hMem
          exact ⟨d, List.mem_cons_of_mem _ (List.mem_append_left _ hMem), own, rest,
            (hStands.append hLast _).prepend _⟩
        rcases append_eq_split hBehind with ⟨others, hClosing, -⟩ | ⟨others, hRest, rfl⟩
        · have hNot := forall_mem_closingEvents (P := (e ≠ ·)) hCompleted next e
          rw [hClosing] at hNot
          exact absurd rfl (hNot (List.mem_append_right _ List.mem_cons_self))
        · obtain ⟨d, hMem, own, rest, hStands⟩ := ihRest _ hRest
          exact ⟨d, List.mem_cons_of_mem _ (List.mem_append_right _ hMem), own, rest,
            ((hStands.prepend _).prepend _).prepend _⟩

/-- What an own part writes besides the events of its operation: the record of the failure because of
which the step has failed or its fallback is entered, and in the latter case the record of that. -/
theorem StandsIn.records (h : StandsIn s d before e after own others) (hNot : ¬ e.OfOperation) :
    ∃ f, (operation s d.step d.before).result = .error f ∧ d.step.recovers f.kind = true ∧
      ((d.step.fallback = [] ∧ own = (operation s d.step d.before).events ∧ e = failedRecord s f ∧
          others = []) ∨
        (d.step.fallback ≠ [] ∧ own = (operation s d.step d.before).events ∧ e = failedRecord s f ∧
          others = [enteringRecord s d.step]) ∨
        (d.step.fallback ≠ [] ∧ own = (operation s d.step d.before).events ++ [failedRecord s f] ∧
          e = enteringRecord s d.step ∧ others = [])) := by
  have hEvents := h.events
  rw [Dispatch.own] at hEvents
  have hOperation {front back : List Event}
      (hSplit : (operation s d.step d.before).events = front ++ e :: back) : False :=
    hNot (emits_operation s d.step d.before e (hSplit ▸ List.mem_append_right _ List.mem_cons_self))
  rcases operation_cases s d.step d.before with ⟨y, hOp⟩ | ⟨f, hOp, hStays⟩ |
    ⟨f, hOp, hRecovers, hNone⟩ | ⟨f, hOp, hRecovers, hSome⟩
  · rw [dispatch_of_ok hOp] at hEvents
    exact (hOperation hEvents).elim
  · rw [dispatch_of_unrecovered hOp hStays] at hEvents
    exact (hOperation hEvents).elim
  · rw [dispatch_of_no_fallback hOp hRecovers hNone] at hEvents
    rcases append_eq_split hEvents with ⟨_, hSplit, -⟩ | ⟨between, hSplit, hOwn⟩
    · exact (hOperation hSplit).elim
    · rcases List.cons_eq_append_iff.mp hSplit with ⟨rfl, hLast⟩ | ⟨_, -, hNil⟩
      · cases hLast
        exact ⟨f, hOp, hRecovers, .inl ⟨hNone, hOwn.trans (List.append_nil _), rfl, rfl⟩⟩
      · exact absurd hNil (by simp)
  · rw [dispatch_of_fallback hOp hRecovers hSome] at hEvents
    rcases append_eq_split hEvents with ⟨_, hSplit, -⟩ | ⟨between, hSplit, hOwn⟩
    · exact (hOperation hSplit).elim
    · rcases List.cons_eq_append_iff.mp hSplit with ⟨rfl, hLast⟩ | ⟨between, rfl, hTail⟩
      · cases hLast
        exact ⟨f, hOp, hRecovers, .inr (.inl ⟨hSome, hOwn.trans (List.append_nil _), rfl, rfl⟩)⟩
      · rcases List.cons_eq_append_iff.mp hTail with ⟨rfl, hLast⟩ | ⟨_, -, hNil⟩
        · cases hLast
          exact ⟨f, hOp, hRecovers, .inr (.inr ⟨hSome, hOwn, rfl, rfl⟩)⟩
        · exact absurd hNil (by simp)

/-! ## Runs in the log -/

/-- The records around the fallbacks of a run are the prefix of a balanced word. They are balanced if it
succeeds. If it fails so many of them have no counterpart as fallbacks that it has entered hold the
step which raised the failure. The record that a fallback is entered stands behind the warning of the
failure of its step, and all else that follows such a warning is the failure of the run. -/
structure Bracketed (s : Services) (steps : List Step) (r : Run) : Prop where
  closes : ∃ missing, Bracket.Balanced ((run s steps r).events.filterMap Event.bracket? ++ missing)
  balanced : (run s steps r).result = .ok () →
    Bracket.Balanced ((run s steps r).events.filterMap Event.bracket?)
  unclosed : ∀ f, (run s steps r).result = .error f →
    ∃ last, EndsWith s (dispatches s 0 steps r) (run s steps r) last f ∧
      Bracket.Unclosed (enclosing s (dispatches s 0 steps r) last.index)
        ((run s steps r).events.filterMap Event.bracket?)
  entries : ∀ before e after, (run s steps r).events = before ++ e :: after →
    e.bracket? = some .entry →
    ∃ d ∈ dispatches s 0 steps r, ∃ f earlier,
      (operation s d.step d.before).result = .error f ∧ d.step.recovers f.kind = true ∧
        before = earlier ++ starting s d.step ::
          ((operation s d.step d.before).events ++ [failedRecord s f]) ∧
        e = enteringRecord s d.step
  warnings : ∀ before e after, (run s steps r).events = before ++ e :: after →
    e.isStepWarning = true →
    ∃ d ∈ dispatches s 0 steps r, ∃ f, (operation s d.step d.before).result = .error f ∧
      e = failedRecord s f ∧
        ((∃ later, after = enteringRecord s d.step :: later) ∨
          after = [] ∧ (run s steps r).result = .error (.flowFrom .stepFailed f.text f))

theorem not_isStepWarning_of_operation (h : e.OfOperation) : e.isStepWarning = false := by
  cases hEntry : e.entry? with
  | none => rw [Event.isStepWarning, hEntry, Option.any_none]
  | some entry =>
      rw [Event.isStepWarning, hEntry, Option.any_some]
      rcases h entry hEntry with hCollaborator | ⟨-, hLevel, -⟩
      · rw [hCollaborator.level]
        exact Bool.and_false _
      · rw [hLevel]
        exact Bool.and_false _

theorem bracketed_run (s : Services) (steps : List Step) (r : Run) : Bracketed s steps r where
  closes := by
    cases hRun : (run s steps r).result with
    | ok u => exact ⟨[], by rw [List.append_nil]; exact balanced_run s steps r hRun⟩
    | error f =>
        obtain ⟨last, hLast⟩ := exists_last_of_run_error 0 hRun
        exact ⟨_, (unclosed_run 0 hRun hLast).closed⟩
  balanced := balanced_run s steps r
  unclosed := by
    intro f hRun
    obtain ⟨last, hLast⟩ := endsWith_of_run_error s 0 steps r f hRun
    obtain ⟨earlier, hCourse, -⟩ := hLast.isLast
    exact ⟨last, hLast, unclosed_run 0 hRun (by rw [hCourse, List.getLast?_concat])⟩
  entries := by
    intro before e after hEvents hEntry
    have hStart (step : Step) : e ≠ starting s step := by
      rintro rfl
      cases hEntry
    have hCompleted : e ≠ completedRecord s := by
      rintro rfl
      cases hEntry
    have hNot : ¬ e.OfOperation := fun h => by
      rw [bracket?_of_operation h] at hEntry
      cases hEntry
    obtain ⟨d, hMem, own, rest, hStands⟩ := exists_standsIn 0 hStart hCompleted hEvents
    obtain ⟨earlier, hBefore⟩ := hStands.before
    obtain ⟨f, hOp, hRecovers, hRecords⟩ := hStands.records hNot
    rcases hRecords with ⟨-, -, rfl, -⟩ | ⟨-, -, rfl, -⟩ | ⟨-, hOwn, rfl, -⟩
    · rw [bracket?_failedRecord] at hEntry
      cases hEntry
    · rw [bracket?_failedRecord] at hEntry
      cases hEntry
    · exact ⟨d, hMem, f, earlier, hOp, hRecovers, hOwn ▸ hBefore, rfl⟩
  warnings := by
    intro before e after hEvents hWarning
    have hStart (step : Step) : e ≠ starting s step := by
      rintro rfl
      cases hWarning
    have hCompleted : e ≠ completedRecord s := by
      rintro rfl
      cases hWarning
    have hNot : ¬ e.OfOperation := fun h => by
      rw [not_isStepWarning_of_operation h] at hWarning
      cases hWarning
    obtain ⟨d, hMem, own, rest, hStands⟩ := exists_standsIn 0 hStart hCompleted hEvents
    obtain ⟨later, hAfter, hLast⟩ := hStands.after
    obtain ⟨f, hOp, hRecovers, hRecords⟩ := hStands.records hNot
    refine ⟨d, hMem, f, hOp, ?_⟩
    rcases hRecords with ⟨hNone, -, rfl, rfl⟩ | ⟨-, -, rfl, rfl⟩ | ⟨-, -, rfl, -⟩
    · have hOwn : (d.own s).result = .error (.flowFrom .stepFailed f.text f) := by
        rw [Dispatch.own, dispatch_of_no_fallback hOp hRecovers hNone]
      rw [hLast _ hOwn, List.append_nil] at hAfter
      exact ⟨rfl, .inr ⟨hAfter, (endsWith_of_own_error s hMem hOwn).result⟩⟩
    · exact ⟨rfl, .inl ⟨later, hAfter⟩⟩
    · cases hWarning

end Interpreter

end Flowline
