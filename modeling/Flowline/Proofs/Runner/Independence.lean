import Flowline.Proofs.Runner.Comparison

/-!
Independence of runs. A run neither reads the messages that are kept nor takes any of them back, so it
goes as the first run of a new runner would, in the world that it finds. All that a runner carries from
run to run is its log of messages, which the runs add to in their order.
-/

namespace Flowline

variable {α : Type}

namespace World

/-- The world with some messages before those of one log. -/
def keeping (log : Nat) (earlier : List String) (w : World) : World :=
  { w with messages := fun n => if n = log then earlier ++ w.messages n else w.messages n }

/-- The world with a new log of messages in the place of one. -/
def withNewLog (log : Nat) (w : World) : World :=
  { w with messages := fun n => if n = log then [] else w.messages n }

@[simp] theorem messages_keeping (log : Nat) (earlier : List String) (w : World) :
    (w.keeping log earlier).messages log = earlier ++ w.messages log := if_pos rfl

theorem keeping_withNewLog (log : Nat) (w : World) :
    (w.withNewLog log).keeping log (w.messages log) = w := by
  have hMessages : ((w.withNewLog log).keeping log (w.messages log)).messages = w.messages := by
    funext n
    by_cases hLog : n = log <;> simp [keeping, withNewLog, hLog]
  exact congrArg (fun messages => { w with messages := messages }) hMessages

end World

/-- What is done in the same way, with some messages before those of one log. -/
def Done.keeping (log : Nat) (earlier : List String) (d : Done World α) : Done World α :=
  ⟨d.result, d.events, d.state.keeping log earlier⟩

/-- Worlds of which the second has more messages before those of one log, and differs in nothing
else. -/
def Comparison.keeping (log : Nat) (earlier : List String) : Comparison World World where
  states _ w v := v = w.keeping log earlier
  events := Eq
  logged _ := rfl
  passed _ _ _ _ h := h

namespace Action

variable {x : Action World α} {log : Nat} {earlier : List String}

theorem alike_keeping (h : ∀ w, x (w.keeping log earlier) = (x w).keeping log earlier) :
    x.Alike (Comparison.keeping log earlier) Eq x := by
  rintro ahead w v (hStates : v = _)
  rw [hStates, h w]
  exact ⟨.refl (fun _ => rfl) _, List.forall₂_eq_eq_eq ▸ rfl, rfl⟩

theorem keeping_of_alike (h : x.Alike (Comparison.keeping log earlier) Eq x) (w : World) :
    x (w.keeping log earlier) = (x w).keeping log earlier := by
  obtain ⟨hResult, hEvents, hState⟩ := h [] w _ rfl
  have hSame : (x w).events = (x (w.keeping log earlier)).events := List.forall₂_eq_eq_eq ▸ hEvents
  rw [Done.keeping, hResult.eq, hSame, ← hState]

end Action

/-- A message is kept at the end of its log, behind whatever stands before. -/
theorem World.keepMessage_keeping (log : Nat) (earlier : List String) (other : Nat) (message : String)
    (w : World) :
    keepMessage other message (w.keeping log earlier) =
      (keepMessage other message w).keeping log earlier := by
  rw [keepMessage, keepMessage, Done.keeping, keeping, keeping]
  congr 2
  funext n
  by_cases hLog : n = log
  · by_cases hOther : n = other
    · simp only [if_pos hLog, if_pos hOther, List.append_assoc]
    · simp only [if_pos hLog, if_neg hOther]
  · simp only [if_neg hLog]

namespace Comparison

variable (log : Nat) (earlier : List String)

theorem near_keeping : (keeping log earlier).Near where
  events _ := rfl
  output := by
    rintro _ w _ rfl
    rfl
  home := by
    rintro _ w _ rfl
    rfl
  disk := by
    rintro _ w _ rfl
    rfl
  sleeps := by
    rintro _ w _ rfl
    exact ⟨rfl, rfl⟩
  passed _ _ _ _ _ hStates := hStates
  slept := by
    rintro _ w _ rfl
    rfl
  written := by
    rintro _ w _ disk rfl
    rfl

/-- Nothing that is done to the world hangs on the messages before those of a log. -/
theorem worldly_keeping : (keeping log earlier).Worldly Eq where
  request _ _ := Action.alike_keeping fun _ => rfl
  sleep := (near_keeping log earlier).sleep
  printLine := (near_keeping log earlier).printLine
  readFile := (near_keeping log earlier).readFile
  appendFile := (near_keeping log earlier).appendFile
  keepMessage other message :=
    Action.alike_keeping (World.keepMessage_keeping log earlier other message)
  send := by
    rintro chat _ rfl message
    refine Action.Alike.forkEq (Action.alike_keeping fun _ => rfl) (fun reply => ?_) fun _ => .fail _
    split
    · exact .fail _
    · exact .log

end Comparison

namespace Runner

/-- The world that a number of runs leave. -/
def leftBy (r : Runner) (n : Nat) (w : World) : World := (r.runTimes n w).state

/-- The first run of a new runner in a world: its log of messages is new. -/
def firstRun (r : Runner) (w : World) : Done World Outcome :=
  r.runOnce (w.withNewLog NotifierSet.sharedLog)

/-- A run goes as it would with a new log, and adds its messages to those that are there. -/
theorem runOnce_eq_firstRun (r : Runner) (w : World) :
    r.runOnce w =
      (r.firstRun w).keeping NotifierSet.sharedLog (w.messages NotifierSet.sharedLog) := by
  have hAlike := alike_runOnce
    (Comparison.worldly_keeping NotifierSet.sharedLog (w.messages NotifierSet.sharedLog))
    (r.like_self fun _ => rfl)
  have hRun := Action.keeping_of_alike hAlike (w.withNewLog NotifierSet.sharedLog)
  rw [World.keeping_withNewLog] at hRun
  exact hRun

/-- One more run comes after the others. -/
theorem runTimes_succ (r : Runner) (n : Nat) :
    r.runTimes (n + 1) = do
      let earlier ← r.runTimes n
      let last ← r.runOnce
      return earlier ++ [last] := by
  induction n with
  | zero => simp only [runTimes, Action.pure_bind, List.nil_append]
  | succ n ih =>
      change (r.runOnce >>= fun first => r.runTimes (n + 1) >>= fun others => pure (first :: others)) =
        (r.runOnce >>= fun first => r.runTimes n >>= fun others => pure (first :: others)) >>= _
      rw [ih]
      simp only [Action.bind_assoc, Action.pure_bind, List.cons_append]

theorem succeeds_runTimes (r : Runner) (n : Nat) : (r.runTimes n).Succeeds := by
  induction n with
  | zero => exact fun _ => ⟨[], rfl⟩
  | succ n ih =>
      intro w
      obtain ⟨first, hFirst⟩ := (result_runOnce r w).1
      obtain ⟨others, hOthers⟩ := ih (r.runOnce w).state
      refine ⟨first :: others, ?_⟩
      rw [runTimes, Action.bind_of_ok _ hFirst, Done.result_after, Action.bind_of_ok _ hOthers]
      rfl

/-- The last of a number of runs starts in the world that those before it leave. -/
theorem runTimes_succ_apply (r : Runner) (n : Nat) (w : World) :
    ∃ outcomes last, (r.runTimes n w).result = .ok outcomes ∧
      (r.runOnce (r.leftBy n w)).result = .ok last ∧
      r.runTimes (n + 1) w =
        ⟨.ok (outcomes ++ [last]), (r.runTimes n w).events ++ (r.runOnce (r.leftBy n w)).events,
          (r.runOnce (r.leftBy n w)).state⟩ := by
  obtain ⟨outcomes, hOutcomes⟩ := succeeds_runTimes r n w
  obtain ⟨last, hLast⟩ := (result_runOnce r (r.leftBy n w)).1
  refine ⟨outcomes, last, hOutcomes, hLast, ?_⟩
  rw [runTimes_succ, Action.bind_of_ok _ hOutcomes, ← leftBy, Action.bind_of_ok _ hLast]
  simp [Done.after]

theorem leftBy_succ (r : Runner) (n : Nat) (w : World) :
    r.leftBy (n + 1) w = (r.runOnce (r.leftBy n w)).state := by
  obtain ⟨_, _, -, -, hRuns⟩ := runTimes_succ_apply r n w
  rw [leftBy, hRuns]

/-- The log of messages holds those of each run, in the order of the runs. -/
theorem messages_leftBy (r : Runner) (n : Nat) (w : World) :
    (r.leftBy n w).messages NotifierSet.sharedLog =
      w.messages NotifierSet.sharedLog ++ (List.range n).flatMap fun i =>
        (r.firstRun (r.leftBy i w)).state.messages NotifierSet.sharedLog := by
  induction n with
  | zero => simp [leftBy, runTimes]
  | succ n ih =>
      rw [leftBy_succ, runOnce_eq_firstRun, Done.keeping, World.messages_keeping, ih,
        List.range_succ, List.flatMap_append, List.append_assoc, List.flatMap_singleton]

/-- After any number of runs, the next run has the outcome and the events of the first run of a new
runner in the world that is left, and does the same to this world. All that it finds there is the log
of messages, to which it adds the ones that the new runner would keep: so the log holds the messages
of all runs in their order, however each of them ended. -/
theorem runs_are_independent (r : Runner) (w : World) (n : Nat) :
    (∃ outcomes last, (r.runTimes n w).result = .ok outcomes ∧
      (r.firstRun (r.leftBy n w)).result = .ok last ∧
      r.runTimes (n + 1) w =
        ⟨.ok (outcomes ++ [last]),
          (r.runTimes n w).events ++ (r.firstRun (r.leftBy n w)).events,
          (r.firstRun (r.leftBy n w)).state.keeping NotifierSet.sharedLog
            ((r.leftBy n w).messages NotifierSet.sharedLog)⟩) ∧
    r.runOnce (r.leftBy n w) =
      (r.firstRun (r.leftBy n w)).keeping NotifierSet.sharedLog
        ((r.leftBy n w).messages NotifierSet.sharedLog) ∧
    (r.leftBy n w).messages NotifierSet.sharedLog =
      w.messages NotifierSet.sharedLog ++ (List.range n).flatMap fun i =>
        (r.firstRun (r.leftBy i w)).state.messages NotifierSet.sharedLog := by
  have hNext := runOnce_eq_firstRun r (r.leftBy n w)
  refine ⟨?_, hNext, messages_leftBy r n w⟩
  obtain ⟨outcomes, last, hOutcomes, hLast, hRuns⟩ := runTimes_succ_apply r n w
  rw [hNext] at hLast hRuns
  exact ⟨outcomes, last, hOutcomes, hLast, hRuns⟩

end Runner

end Flowline
