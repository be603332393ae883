import Flowline.Proofs.Confinement
import Flowline.Proofs.Flow.Accepted
import Flowline.Proofs.Interpreter.Failing

/-!
What a run of validated steps can fail with. Where the session fails in its own ways only, every failure
is one of the flow family, but for five that nothing catches: a path that no file can have, read or
written; a text to send that has no form in bytes; a pattern that is refused though it is not invalid;
and a message to an output that was shut. These pass the fallback of their step and that of the flow.
-/

namespace Flowline

/-- A run in a regular world. -/
def Run.Regular (output : OutputCondition) (r : Run) : Prop := r.world.Regular output

/-- A dispatched step raises a failure that no collaborator and no step catches. -/
inductive Dispatch.Escapes (s : Services) : Dispatch → Failure → Prop where
  | read {index : Nat} {path : String} {outputVar : Option String} {retry : RetryPolicy}
      {fallback : List Step} {before : Run} {f : Failure}
      (broken : World.checkPath (.ofText path) = .error f) :
      Escapes s ⟨index, .readText path outputVar retry fallback, before⟩ f
  | append {index : Nat} {path : String} {inputVar : Option String} {retry : RetryPolicy}
      {fallback : List Step} {before : Run} {text : String} {f : Failure}
      (given : before.state.input inputVar = .ok text)
      (broken : World.checkPath (.ofText path) = .error f) :
      Escapes s ⟨index, .appendText path inputVar retry fallback, before⟩ f
  | post {index : Nat} {url : String} {body : Text.Loose} {headers : Fields} {retry : RetryPolicy}
      {fallback : List Step} {before : Run} {f : Failure}
      (unsendable : HttpClient.encodable body = .error f) :
      Escapes s ⟨index, .postUrl url body headers retry fallback, before⟩ f
  | extract {index : Nat} {inputVar outputVar : Option String} {pattern : String}
      {retry : RetryPolicy} {fallback : List Step} {before : Run} {text : String}
      {e : Pattern.Error} (given : before.state.input inputVar = .ok text)
      (refused : Pattern.parse pattern = .error e)
      (other : ∀ fault position, e ≠ .invalid fault position) :
      Escapes s ⟨index, .extractCapture inputVar outputVar pattern retry fallback, before⟩
        (patternFailure pattern e)
  | notify {index : Nat} {name template : String} {retry : RetryPolicy} {fallback : List Step}
      {before : Run} {channel : Notifier} (known : s.notifiers.require name = .ok channel)
      (shut : before.world.output = .shut)
      (unsent : (channel.send (Message.render template before.state) before.world).result =
        .error World.shutFailure) :
      Escapes s ⟨index, .notify name template retry fallback, before⟩ World.shutFailure

namespace Dispatch

variable {s : Services} {d : Dispatch} {f : Failure}

/-- A text that cannot be sent is one without a form in bytes. -/
theorem eq_of_encodable_error {body : Text.Loose} (h : HttpClient.encodable body = .error f) :
    ∃ text, body = .torn text ∧ f = .unencodable text := by
  cases body with
  | whole text => cases h
  | torn text =>
      cases h
      exact ⟨text, rfl, rfl⟩

theorem Escapes.kind (h : d.Escapes s f) : f.kind = .general .value ∨
    f.kind = .general .overflow ∨ f.kind = .general .unicodeEncode := by
  cases h with
  | read broken => exact .inl (World.eq_of_checkPath broken ▸ rfl)
  | append given broken => exact .inl (World.eq_of_checkPath broken ▸ rfl)
  | notify known shut unsent => exact .inl rfl
  | post unsendable =>
      obtain ⟨text, -, rfl⟩ := eq_of_encodable_error unsendable
      exact .inr (.inr rfl)
  | extract given refused other =>
      rename_i e
      cases e with
      | invalid fault position => exact (other fault position rfl).elim
      | tooManyRepeats => exact .inr (.inl rfl)
      | codeTooLarge => exact .inr (.inl rfl)
      | classFlagsClash => exact .inl rfl
      | longNumber digits => exact .inl rfl

/-- What escapes is no failure of the flow family. -/
theorem Escapes.isFlowError (h : d.Escapes s f) : f.kind.isFlowError = false := by
  rcases h.kind with hKind | hKind | hKind <;> rw [hKind] <;> rfl

/-- No step recovers from what escapes. -/
theorem Escapes.recovers (h : d.Escapes s f) (step : Step) : step.recovers f.kind = false := by
  rcases h.kind with hKind | hKind | hKind <;> rw [hKind] <;> cases step <;> rfl

/-- What the operation of a dispatched step may fail with: a failure of the flow family, one that the
step recovers from, or one that escapes. -/
def MayRaise (s : Services) (d : Dispatch) (f : Failure) : Prop :=
  f.kind.isFlowError = true ∨ d.step.recovers f.kind = true ∨ d.Escapes s f

variable {output : OutputCondition}

theorem genuine_of_require {set : NotifierSet} (hGenuine : set.Genuine) {name : String}
    {channel : Notifier} (h : set.require name = .ok channel) : channel.Genuine := by
  rw [NotifierSet.require] at h
  split at h
  · rename_i hFound
    cases h
    exact hGenuine.get? hFound
  · cases h

theorem not_isNegative_of_retry {step : Step} {retry : RetryPolicy} (hTimely : step.Timely)
    (h : step.pause? = some retry.interval) : (Quantity.real retry.interval).isNegative = false :=
  (hTimely _ h).not_isNegative

theorem capture_cases {pattern text : String} (h : capture pattern text = .error f) :
    f.kind.isFlowError = true ∨
      ∃ e, Pattern.parse pattern = .error e ∧ (∀ fault position, e ≠ .invalid fault position) ∧
        f = patternFailure pattern e := by
  rw [capture] at h
  split at h
  · rename_i e hParse
    cases h
    cases e with
    | invalid fault position => exact .inl rfl
    | _ => exact .inr ⟨_, hParse, by simp, rfl⟩
  · split at h <;> cases h <;> exact .inl rfl

/-- A step that notifies does not find its notifier, or fails as sending does. -/
theorem confinedAt_notify (hGenuine : s.notifiers.Genuine) {index : Nat} {name template : String}
    {retry : RetryPolicy} {fallback : List Step} {before : Run} (hRegular : before.Regular output) :
    (Interpreter.operation s (.notify name template retry fallback)).ConfinedAt (Run.Regular output)
      (MayRaise s ⟨index, .notify name template retry fallback, before⟩) before := by
  have hState : (Interpreter.notifier s name before).state = before := by
    rw [Interpreter.notifier, Action.ofResult_apply]
  refine Action.ConfinedAt.bind ⟨hState.symm ▸ hRegular, fun f hError => ?_⟩
    fun channel hFound => ?_
  · exact .inl (Interpreter.kind_of_notifier hError ▸ rfl)
  · have hKnown : s.notifiers.require name = .ok channel := by
      rwa [Interpreter.notifier, Action.ofResult_apply] at hFound
    have hSend := (Notifier.confined_send (Message.render template before.state) channel
      (genuine_of_require hGenuine hKnown)).world before hRegular
    rw [hState]
    refine Action.ConfinedAt.bind (.of_ok hRegular rfl) fun message hMessage => ?_
    cases hMessage
    refine Action.ConfinedAt.bind (hSend.mono fun f hError hFails => ?_)
      fun _ _ => Action.Confined.pure _ _ hSend.1
    rcases hFails with hOperation | ⟨hShut, rfl⟩
    · exact .inr (.inl hOperation)
    · exact .inr (.inr (.notify hKnown (hRegular.output.trans hShut) hError))

/-- The operation of a dispatched step of a tree of durations keeps the world regular, and fails in no
other way than it may. -/
theorem confinedAt_operation (hGenuine : s.notifiers.Genuine) (hTimely : d.step.Timely)
    (hRegular : d.before.Regular output) :
    (Interpreter.operation s d.step).ConfinedAt (Run.Regular output) (d.MayRaise s) d.before := by
  obtain ⟨index, step, before⟩ := d
  have hInput (name : Option String) :
      (Run.input name).ConfinedAt (Run.Regular output) (MayRaise s ⟨index, step, before⟩) before :=
    ⟨hRegular, fun _ hError => .inl (Interpreter.kind_of_input hError ▸ rfl)⟩
  cases step with
  | abortFlow => exact (Action.Confined.log.bind fun _ => .fail (.inl rfl)) _ hRegular
  | debugState =>
      refine Action.Confined.bind (fun _ h => .of_ok h rfl) (fun _ => ?_) _ hRegular
      exact Action.Confined.log.bind fun _ => .pure _
  | sleep duration =>
      exact ((World.confined_sleep _).world.bind fun _ => .pure _) _ hRegular
  | setVariable outputVar value => exact Action.Confined.pure _ _ hRegular
  | notify name template retry fallback =>
      exact confinedAt_notify hGenuine hRegular
  | getUrl url outputVar retry fallback =>
      refine (Action.Confined.bind (Action.Confined.mono
        (HttpClient.confined_getText url retry.retries ?_).world fun f hFails => ?_)
        fun _ => .pure _) _ hRegular
      · exact not_isNegative_of_retry hTimely rfl
      · exact .inr (.inl hFails)
  | postUrl url body headers retry fallback =>
      refine (Action.Confined.bind (Action.Confined.mono
        (HttpClient.confined_postText url body headers retry.retries ?_).world fun f hFails => ?_)
        fun _ => .pure _) _ hRegular
      · exact not_isNegative_of_retry hTimely rfl
      · exact .inr (hFails.imp_right .post)
  | readText path outputVar retry fallback =>
      refine (Action.Confined.bind (Action.Confined.mono
        (FileAccess.confined_readText (.ofText path) retry.retries ?_).world fun f hFails => ?_)
        fun _ => .pure _) _ hRegular
      · exact not_isNegative_of_retry hTimely rfl
      · exact .inr (hFails.imp_right .read)
  | appendText path inputVar retry fallback =>
      refine (hInput inputVar).bind fun text hGiven => ?_
      refine (Action.Confined.bind (Action.Confined.mono
        (FileAccess.confined_appendLine (.ofText path) text retry.retries ?_).world fun f hFails => ?_)
        fun _ => .pure _) _ hRegular
      · exact not_isNegative_of_retry hTimely rfl
      · exact .inr (hFails.imp_right (.append hGiven))
  | extractCapture inputVar outputVar pattern retry fallback =>
      refine (hInput inputVar).bind fun text hGiven => ?_
      refine (Action.Confined.bind (.ofResult fun f hFails => ?_) fun _ => .pure _) _ hRegular
      rcases capture_cases hFails with hFlow | ⟨e, hRefused, hOther, rfl⟩
      · exact .inl hFlow
      · exact .inr (.inr (.extract hGiven hRefused hOther))
  | compareVar inputVar compareWith compareFor ifTrue ifFalse =>
      refine (hInput inputVar).bind fun value _ => ?_
      exact Action.Confined.ite (.fail (.inl rfl)) (.pure _) _ hRegular

/-- The operation of a step from which a failure escapes fails with it. -/
theorem operation_of_escapes (hTimely : d.step.Timely) (h : d.Escapes s f) :
    (Interpreter.operation s d.step d.before).result = .error f := by
  cases h with
  | @read _ path _ retry _ before _ broken =>
      have hRead : (Run.inWorld (FileAccess.readText (.ofText path) retry.retries
          (.real retry.interval)) before).result = .error f :=
        FileAccess.result_readText_of_checkPath _ _ (not_isNegative_of_retry hTimely rfl) broken
      rw [Interpreter.operation, Action.bind_of_error _ hRead]
  | @append _ path inputVar retry _ before text _ given broken =>
      have hInput : (Run.input inputVar before).result = .ok text := given
      have hAppend : (Run.inWorld (FileAccess.appendLine (.ofText path) text retry.retries
          (.real retry.interval)) (Run.input inputVar before).state).result = .error f :=
        FileAccess.result_appendLine_of_checkPath _ _ _ (not_isNegative_of_retry hTimely rfl) broken
      rw [Interpreter.operation, Action.bind_of_ok _ hInput, Done.result_after,
        Action.bind_of_error _ hAppend]
  | @post _ url body headers retry _ before _ unsendable =>
      obtain ⟨text, rfl, rfl⟩ := eq_of_encodable_error unsendable
      have hInterval : (Quantity.real retry.interval).isNegative = false :=
        not_isNegative_of_retry hTimely rfl
      rw [Interpreter.operation, HttpClient.postText_torn _ _ _ _ _ hInterval]
      rfl
  | @extract _ inputVar _ pattern _ _ before text e given refused other =>
      have hInput : (Run.input inputVar before).result = .ok text := given
      have hCapture : capture pattern text = .error (patternFailure pattern e) := by
        rw [capture, refused]
      rw [Interpreter.operation, Action.bind_of_ok _ hInput, Done.result_after, hCapture]
      rfl
  | @notify _ name template _ _ before channel known shut unsent =>
      have hNotifier : Interpreter.notifier s name = pure channel := by
        rw [Interpreter.notifier, known]
        rfl
      have hRendered : (Interpreter.rendered template before).result =
          .ok (Message.render template before.state) := rfl
      have hSend : (Run.inWorld (channel.send (Message.render template before.state))
          (Interpreter.rendered template before).state).result = .error World.shutFailure := unsent
      rw [Interpreter.operation, hNotifier, Action.pure_bind, Action.bind_of_ok _ hRendered,
        Done.result_after, Action.bind_of_error _ hSend]

/-- The own part of a step from which a failure escapes fails with it, whatever its fallback is. -/
theorem own_of_escapes (hTimely : d.step.Timely) (h : d.Escapes s f) :
    (d.own s).result = .error f := by
  rw [own, Interpreter.dispatch_of_unrecovered (operation_of_escapes hTimely h) (h.recovers d.step)]

/-- The own part of a dispatched step fails in the flow family, or something escapes. -/
theorem own_error_cases (hGenuine : s.notifiers.Genuine) (hTimely : d.step.Timely)
    (hRegular : d.before.Regular output) (h : (d.own s).result = .error f) :
    f.kind.isFlowError = true ∨ d.Escapes s f := by
  rw [own] at h
  rcases Interpreter.operation_cases s d.step d.before with ⟨y, hOp⟩ | ⟨g, hOp, hStays⟩ |
    ⟨g, hOp, hRecovers, hNone⟩ | ⟨g, hOp, hRecovers, hSome⟩
  · rw [Interpreter.dispatch_of_ok hOp] at h
    cases h
  · rw [Interpreter.dispatch_of_unrecovered hOp hStays] at h
    cases h
    rcases (confinedAt_operation hGenuine hTimely hRegular).2 f hOp with hFlow | hRecovers | hEscapes
    · exact .inl hFlow
    · rw [hStays] at hRecovers
      cases hRecovers
    · exact .inr hEscapes
  · rw [Interpreter.dispatch_of_no_fallback hOp hRecovers hNone] at h
    cases h
    exact .inl rfl
  · rw [Interpreter.dispatch_of_fallback hOp hRecovers hSome] at h
    cases h

/-- After a failure of its operation that does not escape a step enters its fallback, or its own part
fails in the flow family. -/
theorem own_of_operation_error (hGenuine : s.notifiers.Genuine) (hTimely : d.step.Timely)
    (hRegular : d.before.Regular output)
    (hOp : (Interpreter.operation s d.step d.before).result = .error f) (hNot : ¬ d.Escapes s f) :
    (d.step.fallback ≠ [] ∧ (d.own s).result = .ok .fallback) ∨
      ∃ g, g.kind.isFlowError = true ∧ (d.own s).result = .error g := by
  rw [own]
  cases hRecovers : d.step.recovers f.kind with
  | false =>
      rw [Interpreter.dispatch_of_unrecovered hOp hRecovers]
      refine .inr ⟨f, ?_, rfl⟩
      have hMay := (confinedAt_operation hGenuine hTimely hRegular).2 f hOp
      exact hMay.resolve_right (not_or.mpr ⟨Bool.eq_false_iff.mp hRecovers, hNot⟩)
  | true =>
      by_cases hNone : d.step.fallback = []
      · rw [Interpreter.dispatch_of_no_fallback hOp hRecovers hNone]
        exact .inr ⟨_, rfl, rfl⟩
      · rw [Interpreter.dispatch_of_fallback hOp hRecovers hNone]
        exact .inl ⟨hNone, rfl⟩

end Dispatch

/-- A step whose path can be that of a file, whose text to send is well formed, and whose pattern is
one or is refused as invalid. -/
def Step.Operable : Step → Prop
  | postUrl _ body _ _ _ => ∃ text, body = .whole text
  | readText path _ _ _ => World.checkPath (.ofText path) = .ok ()
  | appendText path _ _ _ => World.checkPath (.ofText path) = .ok ()
  | extractCapture _ _ pattern _ _ =>
      ∀ e, Pattern.parse pattern = .error e → ∃ fault position, e = .invalid fault position
  | _ => True

/-- Nothing escapes from such a step while the output is not shut. -/
theorem Dispatch.not_escapes {s : Services} {d : Dispatch} {f : Failure} (hStep : d.step.Operable)
    (hOutput : d.before.world.output ≠ .shut) : ¬ d.Escapes s f := by
  intro h
  cases h with
  | read broken => cases hStep.symm.trans broken
  | append given broken => cases hStep.symm.trans broken
  | post unsendable =>
      obtain ⟨text, rfl⟩ := hStep
      cases unsendable
  | notify known shut unsent => exact hOutput shut
  | extract given refused other =>
      obtain ⟨fault, position, rfl⟩ := hStep _ refused
      exact other fault position rfl

namespace Interpreter

variable {s : Services} {steps : List Step} {r : Run} {output : OutputCondition}

/-- All dispatched steps of a tree of durations begin in a regular world. -/
theorem regular_of_mem_dispatches (hGenuine : s.notifiers.Genuine)
    (hTimely : ∀ d ∈ Step.walk steps, d.Timely) (hRegular : r.Regular output) {d : Dispatch}
    (hMem : d ∈ dispatches s 0 steps r) : d.before.Regular output := by
  have hOwn : ∀ step ∈ Step.walk steps, ∀ t : Run, t.Regular output →
      (dispatch s step t).state.Regular output := by
    intro step hStep t hBefore
    rw [Run.Regular, (world_dispatch s step t).1]
    exact (Dispatch.confinedAt_operation (d := ⟨0, step, t⟩) hGenuine (hTimely step hStep) hBefore).1
  exact (forall_dispatches_of_own s 0 steps r hOwn hRegular).2 d hMem

/-- A run of validated steps, with notifiers that configs set up and with a session that fails in its
own ways only, fails in the flow family unless a failure escapes from a dispatched step, which ends the
run past every fallback. Every other failure of an operation is recovered from by the fallback of its
step, or else ends the run in the flow family. With paths that files can have, texts to send that are
well formed, patterns that are refused only as invalid, and an output that is not shut, nothing escapes.
-/
theorem run_fails_in_family {v : Value} {settings : Settings} {configs : List NotifierConfig}
    (hSteps : Schema.stepList v = .valid steps)
    (hSet : NotifierSet.build settings configs = .ok s.notifiers)
    (hSession : r.world.session.Transports) :
    (∀ f, (run s steps r).result = .error f →
      f.kind.isFlowError = true ∨ ∃ d ∈ dispatches s 0 steps r, d.Escapes s f) ∧
    (∀ d ∈ dispatches s 0 steps r, ∀ f, d.Escapes s f → f.kind.isFlowError = false ∧
      EndsWith s (dispatches s 0 steps r) (run s steps r) d f) ∧
    (∀ d ∈ dispatches s 0 steps r, ∀ f, (operation s d.step d.before).result = .error f →
      ¬ d.Escapes s f →
        (d.step.fallback ≠ [] ∧ (d.own s).result = .ok .fallback) ∨
        ∃ g, g.kind.isFlowError = true ∧
          EndsWith s (dispatches s 0 steps r) (run s steps r) d g) ∧
    ((∀ step ∈ Step.walk steps, step.Operable) → r.world.output ≠ .shut →
      ∀ f, (run s steps r).result = .error f → f.kind.isFlowError = true) := by
  have hGenuine := NotifierSet.genuine_of_build hSet
  have hTimely : ∀ d ∈ Step.walk steps, d.Timely :=
    fun d hMem => (Schema.sound_of_stepList hSteps d hMem).timely
  have hRegular : r.Regular r.world.output := ⟨hSession, rfl⟩
  have hBefore {d : Dispatch} (hMem : d ∈ dispatches s 0 steps r) :=
    regular_of_mem_dispatches hGenuine hTimely hRegular hMem
  have hStepTimely {d : Dispatch} (hMem : d ∈ dispatches s 0 steps r) : d.step.Timely :=
    hTimely d.step (mem_walk_of_mem_dispatches hMem)
  have hEnds : ∀ f, (run s steps r).result = .error f →
      f.kind.isFlowError = true ∨ ∃ d ∈ dispatches s 0 steps r, d.Escapes s f := by
    intro f hRun
    obtain ⟨last, hLast⟩ := endsWith_of_run_error s 0 steps r f hRun
    have hMem : last ∈ dispatches s 0 steps r := by
      obtain ⟨earlier, hCourse, -⟩ := hLast.isLast
      rw [hCourse]
      exact List.mem_append_right _ List.mem_cons_self
    have hCases := Dispatch.own_error_cases hGenuine (hStepTimely hMem) (hBefore hMem) hLast.raised
    exact hCases.imp_right fun hEscapes => ⟨last, hMem, hEscapes⟩
  refine ⟨hEnds, fun d hMem f hEscapes => ?_, fun d hMem f hOp hNot => ?_, ?_⟩
  · exact ⟨hEscapes.isFlowError,
      endsWith_of_own_error s hMem (Dispatch.own_of_escapes (hStepTimely hMem) hEscapes)⟩
  · have hOwn := Dispatch.own_of_operation_error hGenuine (hStepTimely hMem) (hBefore hMem) hOp hNot
    refine hOwn.imp_right ?_
    rintro ⟨g, hFlow, hRaised⟩
    exact ⟨g, hFlow, endsWith_of_own_error s hMem hRaised⟩
  · intro hOperable hOutput f hRun
    refine (hEnds f hRun).resolve_right ?_
    rintro ⟨d, hMem, hEscapes⟩
    refine Dispatch.not_escapes (hOperable d.step (mem_walk_of_mem_dispatches hMem)) ?_ hEscapes
    rw [(hBefore hMem).output]
    exact hOutput

/-- Services with a notifier that prints. -/
def printingServices : Services := ⟨[("desk", .print)], "nightly", ⟨.int 30, "m7m"⟩⟩

/-- A run that has not begun, in a world without network and with an output in some condition. -/
def printingRun (output : OutputCondition) : Run :=
  ⟨.fresh (fun _ => .error noNetwork) [] (fun _ => []) output, .fresh⟩

theorem transports_printingRun (output : OutputCondition) :
    (printingRun output).world.session.Transports := by
  intro n f hError
  cases hError
  rfl

/-- A message that a broken output does not take, without a fallback, ends the run in the flow
family. -/
theorem run_fails_in_family_broken :
    Schema.stepList Watch.fallbackValue = .valid Watch.flow.uponFailure ∧
      NotifierSet.build .standard [.print "desk"] = .ok printingServices.notifiers ∧
      (printingRun .broken).world.session.Transports ∧
      ∃ f, (run printingServices Watch.flow.uponFailure (printingRun .broken)).result = .error f ∧
        f.kind.isFlowError = true := by
  have hSet : NotifierSet.build .standard [.print "desk"] = .ok printingServices.notifiers := rfl
  have hSession := transports_printingRun .broken
  have hFamily := run_fails_in_family Watch.stepList_fallback hSet hSession
  have hOperable : ∀ step ∈ Step.walk Watch.flow.uponFailure, step.Operable := by
    intro step hMem
    rw [List.mem_singleton.mp hMem]
    trivial
  exact ⟨Watch.stepList_fallback, hSet, hSession, _, rfl,
    hFamily.2.2.2 hOperable (by decide) _ rfl⟩

/-- A message to an output that was shut ends the run outside of it. -/
theorem run_fails_outside_family :
    Schema.stepList Watch.fallbackValue = .valid Watch.flow.uponFailure ∧
      NotifierSet.build .standard [.print "desk"] = .ok printingServices.notifiers ∧
      (printingRun .shut).world.session.Transports ∧
      ∃ f, (run printingServices Watch.flow.uponFailure (printingRun .shut)).result = .error f ∧
        f.kind.isFlowError = false :=
  ⟨Watch.stepList_fallback, rfl, transports_printingRun .shut, _, rfl, rfl⟩

end Interpreter

end Flowline
