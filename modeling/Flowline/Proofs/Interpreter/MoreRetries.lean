import Flowline.Proofs.Flow.Accepted
import Flowline.Proofs.Interpreter.Dispatch
import Flowline.Proofs.Retry.Attempts
import Mathlib.Data.List.Forall2

/-!
More retries. A run that succeeds without the failure of a step has no use for a larger budget, nor for
any fallback: with more retries and other fallbacks anywhere in the tree it goes the same way, and only
records that count retries can tell the difference.
-/

namespace Flowline

/-! ## What only the number of retries tells apart -/

/-- Events that are the same, but for the number of retries in a record at debug level: the retries that
a request has, or those that are left after a failed attempt. -/
inductive Event.SameButRetries : Event → Event → Prop where
  | same (e : Event) : SameButRetries e e
  | announced (message : String) (retries others : Int) :
      SameButRetries (.logged ⟨.debug, .http, message, [("retries", .int retries)], none⟩)
        (.logged ⟨.debug, .http, message, [("retries", .int others)], none⟩)
  | retried (description : String) (interval : Quantity) (fields : List (String × Value))
      (left others : Nat) :
      SameButRetries
        (.logged ⟨.debug, .retry, Retry.message description left interval, fields, none⟩)
        (.logged ⟨.debug, .retry, Retry.message description others interval, fields, none⟩)

/-- What has no numbers of retries is quite the same. -/
theorem Event.filter_of_sameButRetries {events others : List Event}
    (h : List.Forall₂ SameButRetries events others) :
    others.filter (!·.isLogged) = events.filter (!·.isLogged) := by
  induction h with
  | nil => rfl
  | cons hHead _ ih =>
      cases hHead with
      | same e => rw [List.filter_cons, List.filter_cons, ih]
      | announced => exact ih
      | retried => exact ih

/-- Ends that are the same, but for the numbers of retries in records. -/
structure Done.SameButRetries {σ α : Type} (d e : Done σ α) : Prop where
  result : e.result = d.result
  state : e.state = d.state
  events : List.Forall₂ Event.SameButRetries d.events e.events

namespace Done.SameButRetries

variable {σ α : Type} {d e : Done σ α}

theorem refl (d : Done σ α) : d.SameButRetries d :=
  ⟨rfl, rfl, List.forall₂_same.mpr fun e _ => .same e⟩

theorem after (h : d.SameButRetries e) {earlier others : List Event}
    (hEarlier : List.Forall₂ Event.SameButRetries earlier others) :
    (d.after earlier).SameButRetries (e.after others) :=
  ⟨h.result, h.state, List.rel_append hEarlier h.events⟩

theorem quiet (h : d.SameButRetries e) : e.quiet = d.quiet := by
  rw [Done.quiet, Done.quiet, h.result, h.state, Event.filter_of_sameButRetries h.events]

end Done.SameButRetries

/-! ## Operations with retries -/

namespace Retry

variable {α : Type} {retryable : ErrorKind → Bool} {description : String} {interval : Quantity}
  {operation : Action World α} {w : World} {budget larger : Nat}

theorem sameButRetries_retryRecord (left others : Nat) (result : Except Failure α) :
    List.Forall₂ Event.SameButRetries (retryRecord description left interval result)
      (retryRecord description others interval result) := by
  cases result with
  | ok a => exact .nil
  | error f => exact .cons (.retried _ _ _ _ _) .nil

/-- Before an attempt the same is seen with any budget. -/
theorem sameButRetries_seenBefore (budget larger n : Nat) :
    List.Forall₂ Event.SameButRetries
      (seenBefore description interval (World.sleep interval) operation w budget n)
      (seenBefore description interval (World.sleep interval) operation w larger n) := by
  have hSame (events : List Event) : List.Forall₂ Event.SameButRetries events events :=
    List.forall₂_same.mpr fun e _ => .same e
  refine List.rel_flatMap (List.forall₂_same.mpr fun _ _ => rfl) fun i _ hIndex => ?_
  cases hIndex
  exact List.rel_append (hSame _)
    (List.rel_append (sameButRetries_retryRecord _ _ _) (hSame _))

/-- An attempt that succeeds within a budget is the last one with any larger budget too. -/
theorem StopsAt.enlarge {k : Nat} {a : α}
    (h : StopsAt retryable (World.sleep interval) operation w budget k) (hLarger : budget ≤ larger)
    (hOk : (outcome (World.sleep interval) operation w k).result = .ok a) :
    StopsAt retryable (World.sleep interval) operation w larger k where
  within := Nat.le_trans h.within hLarger
  earlier := h.earlier
  ends _ := by
    rintro ⟨f, hFails, -⟩
    rw [hOk] at hFails
    cases hFails

/-- Retries that come to a value come to it with a larger budget too, by the same attempts. -/
theorem sameButRetries_run {a : α} (hLarger : budget ≤ larger)
    (hOk : (run retryable description budget interval World.sleep operation w).result = .ok a) :
    (run retryable description budget interval World.sleep operation w).SameButRetries
      (run retryable description larger interval World.sleep operation w) := by
  have hInterval := ((result_run_eq_ok description).mp hOk).1
  obtain ⟨k, hLast⟩ : ∃ k, StopsAt retryable (World.sleep interval) operation w budget k :=
    IsLast.exists_isLast _ budget
  rw [run_of_stopsAt hInterval hLast] at hOk ⊢
  rw [run_of_stopsAt hInterval (hLast.enlarge hLarger hOk)]
  exact (Done.SameButRetries.refl _).after (sameButRetries_seenBefore _ _ _)

/-- So do retries that are announced with their number. -/
theorem sameButRetries_announced {a : α} (announcement : String) (hLarger : budget ≤ larger) :
    let announced (retries : Nat) : Action World α := do
      Action.log .debug .http announcement [("retries", .int retries)]
      run retryable description retries interval World.sleep operation
    (announced budget w).result = .ok a →
      (announced budget w).SameButRetries (announced larger w) := by
  intro announced hOk
  have hAnnounced (retries : Nat) : announced retries w =
      (run retryable description retries interval World.sleep operation w).after
        [.logged ⟨.debug, .http, announcement, [("retries", .int retries)], none⟩] :=
    Action.bind_of_ok (a := ()) _ rfl
  rw [hAnnounced] at hOk ⊢
  rw [hAnnounced]
  exact (sameButRetries_run hLarger hOk).after (.cons (.announced _ _ _) .nil)

end Retry

/-! ## Actions that succeed -/

namespace Interpreter

variable {s : Services} {σ α β : Type}

/-- An end without a record of a failed step. -/
def Unfailed (s : Services) (d : Done σ α) : Prop := ∀ f, failedRecord s f ∉ d.events

theorem unfailed_after {earlier : List Event} {d : Done σ α} :
    Unfailed s (d.after earlier) ↔ (∀ f, failedRecord s f ∉ earlier) ∧ Unfailed s d := by
  simp only [Unfailed, Done.events_after, List.mem_append, not_or, forall_and]

/-- Wherever an action succeeds without a record of a failed step, another action does the same. -/
def Kept (s : Services) (x y : Action Run α) : Prop :=
  ∀ r a, (x r).result = .ok a → Unfailed s (x r) → (x r).SameButRetries (y r)

namespace Kept

variable {x y : Action Run α} {next other : α → Action Run β}

theorem refl (x : Action Run α) : Kept s x x := fun _ _ _ _ => .refl _

/-- What follows a success. -/
theorem bind (hx : Kept s x y) (hNext : ∀ a, Kept s (next a) (other a)) :
    Kept s (x >>= next) (y >>= other) := by
  intro r b hOk hUnfailed
  cases hFirst : (x r).result with
  | error f =>
      rw [Action.bind_of_error _ hFirst] at hOk
      cases hOk
  | ok a =>
      rw [Action.bind_of_ok _ hFirst] at hOk hUnfailed ⊢
      obtain ⟨hBefore, hAfter⟩ := unfailed_after.mp hUnfailed
      have hSame := hx r a hFirst hBefore
      rw [Action.bind_of_ok _ (hSame.result.trans hFirst), hSame.state]
      exact (hNext a _ b hOk hAfter).after hSame.events

/-- An action on the world, which writes no records of steps. -/
theorem world {x y : Action World α}
    (h : ∀ w a, (x w).result = .ok a → (x w).SameButRetries (y w)) :
    Kept s (Run.inWorld x) (Run.inWorld y) := by
  intro r a hOk _
  have hSame := h r.world a hOk
  exact ⟨hSame.result, congrArg (Run.mk · r.state) hSame.state, hSame.events⟩

/-- The way into a fallback begins with a record of the failure. -/
theorem not_unfailed_recover (s : Services) (count : Nat) (fallback : Action Run Unit) (f : Failure)
    (r : Run) : ¬ Unfailed s (recover s count fallback f r) := by
  intro hUnfailed
  rw [recover, Action.bind_of_ok (a := ()) _ rfl] at hUnfailed
  exact (unfailed_after.mp hUnfailed).1 f List.mem_cons_self

/-- A step whose operation succeeds needs no fallback, so that it can have any. -/
theorem recovering {recovers : ErrorKind → Bool} {next other : α → Action Run Unit}
    {count more : Nat} {fallback another : Action Run Unit} (hx : Kept s x y)
    (hNext : ∀ a, Kept s (next a) (other a)) :
    Kept s (Interpreter.recovering s x next recovers count fallback)
      (Interpreter.recovering s y other recovers more another) := by
  intro r b hOk hUnfailed
  rw [Interpreter.recovering] at hOk hUnfailed ⊢
  cases hFirst : (x r).result with
  | ok a =>
      rw [Action.fork_of_ok _ _ hFirst] at hOk hUnfailed ⊢
      obtain ⟨hBefore, hAfter⟩ := unfailed_after.mp hUnfailed
      have hSame := hx r a hFirst hBefore
      rw [Interpreter.recovering, Action.fork_of_ok _ _ (hSame.result.trans hFirst), hSame.state]
      exact (hNext a _ b hOk hAfter).after hSame.events
  | error f =>
      rw [Action.fork_of_error _ _ hFirst] at hOk hUnfailed
      cases hRecovers : recovers f.kind with
      | true =>
          rw [if_pos hRecovers] at hUnfailed
          exact absurd (unfailed_after.mp hUnfailed).2 (not_unfailed_recover _ _ _ _ _)
      | false =>
          rw [if_neg (by rw [hRecovers]; decide)] at hOk
          cases hOk

end Kept

end Interpreter

/-! ## Trees with larger budgets -/

/-- A policy with no fewer retries, as far apart. -/
structure RetryPolicy.Extends (own other : RetryPolicy) : Prop where
  retries : own.retries ≤ other.retries
  interval : other.interval = own.interval

namespace Step

/-- A step with another policy and another fallback, if it has such. -/
def withBudget (retry : RetryPolicy) (fallback : List Step) : Step → Step
  | notify name message _ _ => notify name message retry fallback
  | getUrl url outputVar _ _ => getUrl url outputVar retry fallback
  | postUrl url body headers _ _ => postUrl url body headers retry fallback
  | extractCapture inputVar outputVar pattern _ _ =>
      extractCapture inputVar outputVar pattern retry fallback
  | readText path outputVar _ _ => readText path outputVar retry fallback
  | appendText path inputVar _ _ => appendText path inputVar retry fallback
  | step => step

/-- A step from which another one is made by raising the retries of any steps in it, and by replacing
any fallbacks. What stands in a fallback does not matter, as any other can take its place. -/
inductive Relaxed : Step → Step → Prop where
  | kept (step : Step) : Relaxed step step
  | budget {step : Step} {own larger : RetryPolicy} (hOwn : step.retry? = some own)
      (hLarger : own.Extends larger) (fallback : List Step) :
      Relaxed step (step.withBudget larger fallback)
  | arms {inputVar : Option String} {compareWith compareFor : String}
      {ifTrue ifFalse otherTrue otherFalse : List Step}
      (hTrue : List.Forall₂ Relaxed ifTrue otherTrue)
      (hFalse : List.Forall₂ Relaxed ifFalse otherFalse) :
      Relaxed (compareVar inputVar compareWith compareFor ifTrue ifFalse)
        (compareVar inputVar compareWith compareFor otherTrue otherFalse)

theorem kind_withBudget (retry : RetryPolicy) (fallback : List Step) (step : Step) :
    (step.withBudget retry fallback).kind = step.kind := by
  cases step <;> rfl

theorem Relaxed.kind {step other : Step} (h : Relaxed step other) : other.kind = step.kind := by
  cases h with
  | kept => rfl
  | budget => exact kind_withBudget ..
  | arms => rfl

end Step

namespace Interpreter

variable {s : Services}

/-- A step that succeeds does the same with more retries and another fallback. -/
theorem kept_execute_withBudget {step : Step} {own larger : RetryPolicy}
    (hOwn : step.retry? = some own) (hLarger : own.Extends larger) (fallback : List Step) :
    Kept s (execute s step) (execute s (step.withBudget larger fallback)) := by
  obtain ⟨hRetries, hInterval⟩ := hLarger
  cases step with
  | notify name message retry own =>
      exact (Kept.refl _).bind fun channel => (Kept.refl _).bind fun text =>
        (Kept.refl _).recovering fun _ => .refl _
  | getUrl url outputVar retry own =>
      cases hOwn
      rw [Step.withBudget, execute, execute, hInterval]
      refine Kept.recovering (.world fun w text hOk => ?_) fun _ => .refl _
      exact Retry.sameButRetries_announced _ hRetries hOk
  | postUrl url body headers retry own =>
      cases hOwn
      rw [Step.withBudget, execute, execute, hInterval]
      refine Kept.recovering (.world fun w _ hOk => ?_) fun _ => .refl _
      exact Retry.sameButRetries_announced _ hRetries hOk
  | extractCapture inputVar outputVar pattern retry own =>
      exact (Kept.refl _).bind fun text => (Kept.refl _).recovering fun _ => .refl _
  | readText path outputVar retry own =>
      cases hOwn
      rw [Step.withBudget, execute, execute, hInterval]
      exact Kept.recovering (.world fun w text hOk => Retry.sameButRetries_run hRetries hOk)
        fun _ => .refl _
  | appendText path inputVar retry own =>
      cases hOwn
      rw [Step.withBudget, execute, execute, hInterval]
      exact (Kept.refl _).bind fun text =>
        Kept.recovering (.world fun w _ hOk => Retry.sameButRetries_run hRetries hOk)
          fun _ => .refl _
  | _ => cases hOwn

/-- Lists of steps that succeed do the same with larger budgets. -/
theorem kept_run {steps others : List Step} (h : List.Forall₂ Step.Relaxed steps others) :
    Kept s (run s steps) (run s others) := by
  induction steps using Step.nested_induction generalizing others with
  | nil =>
      cases h
      exact .refl _
  | cons step rest ihNested ihRest =>
      cases h with
      | @cons _ other _ others hStep hRest =>
          have hExecute : Kept s (execute s step) (execute s other) := by
            cases hStep with
            | kept => exact .refl _
            | budget hOwn hLarger fallback => exact kept_execute_withBudget hOwn hLarger fallback
            | arms hTrue hFalse =>
                have hArmTrue := ihNested (.arm true) hTrue
                have hArmFalse := ihNested (.arm false) hFalse
                refine (Kept.refl _).bind fun value => ?_
                split
                · exact .refl _
                · split
                  · exact hArmTrue
                  · exact hArmFalse
          rw [run, run, hStep.kind]
          exact (Kept.refl _).bind fun _ => hExecute.bind fun _ => ihRest hRest

/-- **Retry budgets are monotone.** A run that succeeds without the record of a failed step succeeds
too when any steps, however deep in the tree, have more retries and any fallbacks are replaced by
others. It leaves the same world and the same state, and shows the same events, but for the numbers of
retries in records at debug level. -/
theorem run_of_relaxed {steps others : List Step} {r : Run}
    (h : List.Forall₂ Step.Relaxed steps others) (hOk : (run s steps r).result = .ok ())
    (hUnfailed : ∀ f, failedRecord s f ∉ (run s steps r).events) :
    (run s others r).result = .ok () ∧ (run s others r).state = (run s steps r).state ∧
      (run s others r).quiet = (run s steps r).quiet ∧
      List.Forall₂ Event.SameButRetries (run s steps r).events (run s others r).events := by
  have hSame := kept_run h r () hOk hUnfailed
  exact ⟨hSame.result.trans hOk, hSame.state, hSame.quiet, hSame.events⟩

/-- A comparison in whose arm a page is asked for, with a policy and with what comes instead. -/
def pollSteps (retries : Nat) (fallback : List Step) : List Step :=
  [.setVariable (some "mode") "on",
    .compareVar (some "mode") "on" equality
      [.getUrl "https://page" (some "page") ⟨retries, RetryPolicy.standard.interval⟩ fallback,
        .debugState]
      []]

def pollServices : Services := ⟨[], "poll", ⟨.int 30, "m7m"⟩⟩

/-- A session whose first answer is no page. -/
def pollRun : Run :=
  ⟨.fresh (.ofList [.ok ⟨503, "busy"⟩, .ok ⟨200, "up"⟩]) [] (fun _ => []) .working, .fresh⟩

theorem pollSteps_relaxed : List.Forall₂ Step.Relaxed (pollSteps 1 [.abortFlow]) (pollSteps 9 []) := by
  have hGet : Step.Relaxed
      (.getUrl "https://page" (some "page") ⟨1, RetryPolicy.standard.interval⟩ [.abortFlow])
      (.getUrl "https://page" (some "page") ⟨9, RetryPolicy.standard.interval⟩ []) := by
    have hExtends : RetryPolicy.Extends ⟨1, RetryPolicy.standard.interval⟩
        ⟨9, RetryPolicy.standard.interval⟩ := ⟨by decide, rfl⟩
    exact .budget rfl hExtends []
  exact .cons (.kept _) (.cons (.arms (.cons hGet (.cons (.kept _) .nil)) .nil) .nil)

/-- One retry is all that the first answer takes, so nine of them do the same. -/
theorem run_of_relaxed_poll :
    (run pollServices (pollSteps 1 [.abortFlow]) pollRun).result = .ok () ∧
    (∀ f, failedRecord pollServices f ∉
      (run pollServices (pollSteps 1 [.abortFlow]) pollRun).events) ∧
    (run pollServices (pollSteps 9 []) pollRun).result = .ok () ∧
    (run pollServices (pollSteps 9 []) pollRun).state =
      (run pollServices (pollSteps 1 [.abortFlow]) pollRun).state ∧
    (run pollServices (pollSteps 9 []) pollRun).quiet =
      (run pollServices (pollSteps 1 [.abortFlow]) pollRun).quiet := by
  have hEnd : (run pollServices (pollSteps 1 [.abortFlow]) pollRun).result.toBool = true := by
    decide +kernel
  have hOk : (run pollServices (pollSteps 1 [.abortFlow]) pollRun).result = .ok () := by
    cases h : (run pollServices (pollSteps 1 [.abortFlow]) pollRun).result with
    | ok _ => rfl
    | error f =>
        rw [h] at hEnd
        cases hEnd
  have hLevels : (run pollServices (pollSteps 1 [.abortFlow]) pollRun).events.all
      (fun e => e.entry?.map Log.Entry.level ≠ some .warning) = true := by
    decide +kernel
  have hUnfailed : ∀ f, failedRecord pollServices f ∉
      (run pollServices (pollSteps 1 [.abortFlow]) pollRun).events := fun f hMem =>
    absurd rfl (of_decide_eq_true (List.all_eq_true.mp hLevels _ hMem))
  obtain ⟨hOther, hState, hQuiet, -⟩ := run_of_relaxed pollSteps_relaxed hOk hUnfailed
  exact ⟨hOk, hUnfailed, hOther, hState, hQuiet⟩

end Interpreter

end Flowline
