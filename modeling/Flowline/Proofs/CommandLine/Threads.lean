import Flowline.Proofs.CommandLine.Loading
import Flowline.Proofs.Runner.Outcome
import Flowline.Proofs.Trigger.Interleaving

/-!
Threads of the program. Flows whose trigger fires once are started in their order, and those without a
trigger are left out. In whatever order the threads move, each has made exactly one attempt when none of
them is alive, and the wait of the main thread ends only then; where they move one after another, it
does end.
-/

namespace Flowline.CommandLine

open Trigger

/-- The runners whose flows have a trigger. -/
def triggered (runners : List Runner) : List Runner := runners.filter (·.flow.trigger.isSome)

/-- The handle of a trigger that fires once, when it was just started. -/
def launchedOnce (r : Runner) : Handle := ⟨r, .once, .launched false⟩

/-- The same handle after its thread has finished. -/
def finishedOnce (r : Runner) : Handle := ⟨r, .once, ⟨.finished, 1, 1, false⟩⟩

/-- One run of each of some runners, in their order and each on its own thread. -/
def runAll : List Runner → World → Transcript × World
  | [], w => ([], w)
  | r :: rest, w =>
      let d := r.runOnce w
      let others := runAll rest d.state
      (.onThread r.label d.events ++ others.1, others.2)

/-! ## Starting -/

theorem onlyTells_schedule {σ : Type} {r : Runner} (h : ∀ t, r.flow.trigger = some t → t = .once) :
    (r.schedule : Action σ _).OnlyTells := by
  rw [Runner.schedule]
  split
  · exact (Action.OnlyTells.log (by decide)).bind fun _ => .pure _
  · rename_i t hTrigger
    rw [h t hTrigger]
    refine Action.OnlyTells.bind ?_ fun _ => .pure _
    exact (Action.OnlyTells.log (by decide)).bind fun _ => .pure _

theorem onlyTells_startAll {runners : List Runner}
    (h : ∀ r ∈ runners, ∀ t, r.flow.trigger = some t → t = .once) : (startAll runners).OnlyTells := by
  induction runners with
  | nil => exact .succeed _
  | cons r rest ih =>
      obtain ⟨hFirst, hRest⟩ := List.forall_mem_cons.mp h
      refine (onlyTells_schedule hFirst).bind fun started => ?_
      cases started with
      | none => exact ih hRest
      | some started => exact (ih hRest).bind fun _ => .pure _

/-- Starting gives the handles of the flows that have a trigger, in their order. -/
theorem result_startAll {runners : List Runner}
    (h : ∀ r ∈ runners, ∀ t, r.flow.trigger = some t → t = .once) (w : World) :
    (startAll runners w).result = .ok ((triggered runners).map launchedOnce) := by
  induction runners with
  | nil => rfl
  | cons r rest ih =>
      obtain ⟨hFirst, hRest⟩ := List.forall_mem_cons.mp h
      cases hTrigger : r.flow.trigger with
      | none =>
          have hSchedule : (r.schedule w).result = .ok none := by
            rw [Runner.schedule, hTrigger]
            rfl
          have hTriggered : triggered (r :: rest) = triggered rest := by simp [triggered, hTrigger]
          refine ((onlyTells_schedule hFirst).result_bind hSchedule).trans ?_
          rw [hTriggered]
          exact ih hRest
      | some t =>
          obtain rfl := hFirst t hTrigger
          have hSchedule : (r.schedule w).result = .ok (some (.once, .launched false)) := by
            rw [Runner.schedule, hTrigger]
            rfl
          have hTriggered : triggered (r :: rest) = r :: triggered rest := by simp [triggered, hTrigger]
          refine ((onlyTells_schedule hFirst).result_bind hSchedule).trans ?_
          refine ((onlyTells_startAll hRest).result_bind (ih hRest)).trans ?_
          rw [hTriggered]
          rfl

/-! ## Threads in any order -/

/-- Threads that move in some order. Each move tells whose it is and is possible when its turn comes. -/
inductive Interleaved (start : List Handle) (w : World) : Turns → Played → Prop where
  | nil : Interleaved start w [] ⟨[], start, w⟩
  | snoc {moves : Turns} {p q : Played} {index : Nat} {move : Move}
      (earlier : Interleaved start w moves p) (last : p.move? index move = some q) :
      Interleaved start w (moves ++ [(index, move)]) q

/-- A move of a thread is one of its control; it shows and does what the thread does by it. -/
theorem Played.move?_eq_some {p q : Played} {index : Nat} {move : Move} :
    p.move? index move = some q ↔ ∃ handle control, p.handles[index]? = some handle ∧
      handle.control.move? handle.timing.repeats move = some control ∧
      q = ⟨p.transcript ++ (handle.play (fun _ => [move]) p.world).transcript,
        p.handles.set index { handle with control := control },
        (handle.play (fun _ => [move]) p.world).world⟩ := by
  cases hHandle : p.handles[index]? with
  | none => simp [move?, hHandle]
  | some handle =>
      cases hControl : handle.control.move? handle.timing.repeats move with
      | none => simp [move?, hHandle, hControl]
      | some control => simp [move?, hHandle, hControl, eq_comm]

/-- The moves of one of the threads. -/
def movesOf (index : Nat) (moves : Turns) : List Move :=
  (moves.filter (·.1 = index)).map (·.2)

/-- The threads that have ended an attempt, in the order in which they did. -/
def ended (moves : Turns) : List Nat := (moves.filter (·.2 = .finish)).map (·.1)

theorem movesOf_concat (index : Nat) (moves : Turns) (last : Nat × Move) :
    movesOf index (moves ++ [last]) =
      movesOf index moves ++ if last.1 = index then [last.2] else [] := by
  rw [movesOf, movesOf, List.filter_append, List.map_append]
  by_cases hOwn : last.1 = index <;> simp [hOwn]

theorem ended_concat (moves : Turns) (last : Nat × Move) :
    ended (moves ++ [last]) = ended moves ++ if last.2 = .finish then [last.1] else [] := by
  rw [ended, ended, List.filter_append, List.map_append]
  by_cases hFinish : last.2 = .finish <;> simp [hFinish]

theorem count_ended (index : Nat) (moves : Turns) :
    (ended moves).count index = (movesOf index moves).count .finish := by
  induction moves with
  | nil => rfl
  | cons first rest ih =>
      rw [ended, movesOf] at ih ⊢
      by_cases hFinish : first.2 = .finish <;> by_cases hOwn : first.1 = index <;>
        simp [hFinish, hOwn, ih]

variable {start : List Handle} {w : World} {moves : Turns} {p : Played}

/-- Whatever the others do, the moves of a thread lead it along a path of its own. -/
theorem Interleaved.path (h : Interleaved start w moves p) {index : Nat} {first : Handle}
    (hFirst : start[index]? = some first) :
    ∃ control, p.handles[index]? = some { first with control := control } ∧
      first.control.Path first.timing.repeats (movesOf index moves) control := by
  induction h with
  | nil => exact ⟨first.control, hFirst, .nil⟩
  | @snoc moves p q turn move earlier hLast ih =>
      obtain ⟨handle, control, hTurn, last, rfl⟩ := Played.move?_eq_some.mp hLast
      obtain ⟨now, hNow, hPath⟩ := ih
      rw [movesOf_concat]
      by_cases hOwn : turn = index
      · subst hOwn
        cases hTurn.symm.trans hNow
        rw [if_pos rfl]
        refine ⟨control, ?_, hPath.snoc last⟩
        rw [List.getElem?_set_self (List.getElem?_eq_some_iff.mp hNow).1]
      · rw [if_neg hOwn, List.append_nil, List.getElem?_set_ne hOwn]
        exact ⟨now, hNow, hPath⟩

theorem Interleaved.length_handles (h : Interleaved start w moves p) :
    p.handles.length = start.length := by
  induction h with
  | nil => rfl
  | snoc earlier hLast ih =>
      obtain ⟨handle, control, -, -, rfl⟩ := Played.move?_eq_some.mp hLast
      rw [List.length_set, ih]

theorem runAll_concat (runners : List Runner) (r : Runner) (w : World) :
    runAll (runners ++ [r]) w =
      ((runAll runners w).1 ++ Transcript.onThread r.label (r.runOnce (runAll runners w).2).events,
        (r.runOnce (runAll runners w).2).state) := by
  induction runners generalizing w with
  | nil => simp [runAll]
  | cons first rest ih =>
      rw [List.cons_append, runAll, ih, runAll]
      simp only [List.append_assoc]

theorem attempt_apply (r : Runner) (w : World) :
    Thread.attempt r.label r.attempt w = ⟨.ok (), (r.runOnce w).events, (r.runOnce w).state⟩ := by
  obtain ⟨outcome, hOutcome⟩ := (Runner.result_runOnce r w).1
  have hAttempt : r.attempt w = ⟨.ok (), (r.runOnce w).events, (r.runOnce w).state⟩ := by
    rw [Runner.attempt, Action.bind_of_ok _ hOutcome]
    simp [Done.after]
  rw [Thread.attempt, Action.orElse_of_ok (by rw [hAttempt]), hAttempt]

theorem perform_apply {r : Runner} {c d : Control} {move : Move} (h : c.move? false move = some d)
    (hLeave : move ≠ .leave) (v : World) :
    Thread.perform r.label false r.attempt move ⟨c, v⟩ =
      ⟨.ok (), if move = .finish then (r.runOnce v).events else [],
        ⟨d, if move = .finish then (r.runOnce v).state else v⟩⟩ := by
  simp only [Thread.perform, h]
  cases move with
  | finish => simp [Thread.effect, attempt_apply]
  | leave => exact absurd rfl hLeave
  | _ => rfl

/-- One move of a trigger that fires once: the end of its attempt is a run of its flow, and the other
moves show nothing. -/
theorem play_move {r : Runner} {c d : Control} {move : Move} (h : c.move? false move = some d)
    (hLeave : move ≠ .leave) (v : World) :
    (Handle.mk r .once c).play (fun _ => [move]) v =
      ⟨if move = .finish then Transcript.onThread r.label (r.runOnce v).events else [], [⟨r, .once, d⟩],
        if move = .finish then (r.runOnce v).state else v⟩ := by
  have hPerform := perform_apply (r := r) h hLeave v
  have hFollow : r.follow .once [move] ⟨c, v⟩ =
      Thread.perform r.label false r.attempt move ⟨c, v⟩ := by
    rw [Runner.follow, Timing.repeats, Thread.follow, Action.bind_of_ok _ (by rw [hPerform]),
      Thread.follow, hPerform]
    simp [Done.after]
  rw [Handle.play]
  simp only [hFollow, hPerform]
  by_cases hFinish : move = .finish
  · simp only [if_pos hFinish]
  · simp only [if_neg hFinish]
    rfl

variable {runners : List Runner}

/-- A thread whose trigger fires once, on its way. -/
theorem Interleaved.once (h : Interleaved (runners.map launchedOnce) w moves p) {index : Nat}
    {r : Runner} (hRunner : runners[index]? = some r) :
    ∃ control, p.handles[index]? = some ⟨r, .once, control⟩ ∧
      Control.Tallied false (movesOf index moves) control := by
  have hFirst : (runners.map launchedOnce)[index]? = some (launchedOnce r) := by
    rw [List.getElem?_map, hRunner]
    rfl
  obtain ⟨control, hNow, hPath⟩ := h.path hFirst
  exact ⟨control, hNow, hPath.tallied⟩

/-- What threads whose triggers fire once show and do, in whatever order they move, is what runs of
their flows do, in the order in which their attempts end. -/
theorem Interleaved.runs (h : Interleaved (runners.map launchedOnce) w moves p) :
    p.transcript = (runAll ((ended moves).filterMap (runners[·]?)) w).1 ∧
      p.world = (runAll ((ended moves).filterMap (runners[·]?)) w).2 := by
  induction h with
  | nil => exact ⟨rfl, rfl⟩
  | @snoc moves p q index move earlier hLast ih =>
      obtain ⟨handle, control, turn, last, rfl⟩ := Played.move?_eq_some.mp hLast
      obtain ⟨hTranscript, hWorld⟩ := ih
      have hIndex : index < runners.length := by
        have hInside := (List.getElem?_eq_some_iff.mp turn).1
        rwa [earlier.length_handles, List.length_map] at hInside
      obtain ⟨now, hNow, hTallied⟩ := earlier.once (List.getElem?_eq_getElem hIndex)
      cases turn.symm.trans hNow
      have hLeave : move ≠ .leave := by
        rintro rfl
        have hPosition := (hTallied.single rfl).1
        cases Control.changes_of_move? last with
        | leave position =>
            have hLeaving : now.position = .leaving := position
            simp [hLeaving] at hPosition
      rw [play_move last hLeave, ended_concat]
      by_cases hFinish : move = .finish
      · simp only [if_pos hFinish, List.filterMap_append, List.filterMap_cons, List.filterMap_nil,
          List.getElem?_eq_getElem hIndex, runAll_concat]
        rw [← hWorld, ← hTranscript]
        exact ⟨rfl, rfl⟩
      · simp only [if_neg hFinish, List.append_nil]
        exact ⟨hTranscript, hWorld⟩

/-- A thread whose trigger fires once and that is not alive has made one attempt. -/
theorem count_finish_of_over {moves : List Move} {c : Control} (h : Control.Tallied false moves c)
    (hOver : c.isAlive = false) : moves.count .finish = 1 := by
  have hLaunched := h.launched
  have hFinished : c.position = .finished := by simpa [Control.isAlive, hLaunched] using hOver
  have hStarts := (h.single rfl).2
  have hAttempting := h.attempting
  simp only [hFinished, reduceCtorEq, if_false] at hStarts hAttempting
  omega

theorem Interleaved.lt_of_mem_ended (h : Interleaved start w moves p) {index : Nat}
    (hMem : index ∈ ended moves) : index < start.length := by
  induction h with
  | nil => cases hMem
  | @snoc moves p q turn move earlier hLast ih =>
      obtain ⟨handle, control, hTurn, -, rfl⟩ := Played.move?_eq_some.mp hLast
      rw [ended_concat] at hMem
      rcases List.mem_append.mp hMem with hMem | hMem
      · exact ih hMem
      · have hInside := (List.getElem?_eq_some_iff.mp hTurn).1
        rw [earlier.length_handles] at hInside
        split at hMem
        · rwa [List.mem_singleton.mp hMem]
        · cases hMem

/-- When none of the threads is alive any more, each has ended exactly one attempt. -/
theorem Interleaved.perm_ended (h : Interleaved (runners.map launchedOnce) w moves p)
    (hOver : ∀ handle ∈ p.handles, handle.control.isAlive = false) :
    (ended moves).Perm (List.range runners.length) := by
  have hInside {index : Nat} (hMem : index ∈ ended moves) : index < runners.length := by
    simpa using h.lt_of_mem_ended hMem
  have hOne {index : Nat} (hIndex : index < runners.length) : (ended moves).count index = 1 := by
    obtain ⟨control, hNow, hTallied⟩ := h.once (List.getElem?_eq_getElem hIndex)
    rw [count_ended]
    exact count_finish_of_over hTallied (hOver _ (List.mem_of_getElem? hNow))
  have hNodup : (ended moves).Nodup := by
    refine List.nodup_iff_count_le_one.mpr fun index => ?_
    by_cases hMem : index ∈ ended moves
    · exact Nat.le_of_eq (hOne (hInside hMem))
    · rw [List.count_eq_zero_of_not_mem hMem]
      exact Nat.zero_le 1
  refine (List.perm_ext_iff_of_nodup hNodup List.nodup_range).mpr fun index => ?_
  rw [List.mem_range]
  refine ⟨hInside, fun hIndex => ?_⟩
  rw [← List.count_pos_iff, hOne hIndex]
  exact Nat.one_pos

theorem filterMap_range (runners : List Runner) :
    (List.range runners.length).filterMap (runners[·]?) = runners := by
  induction runners with
  | nil => rfl
  | cons r rest ih =>
      have hFirst : (r :: rest)[0]? = some r := rfl
      rw [List.length_cons, List.range_succ_eq_map, List.filterMap_cons_some hFirst,
        List.filterMap_map]
      exact congrArg (r :: ·) ih

/-- In whatever order threads move whose triggers fire once, when none of them is alive any more they
have run their flows exactly once each, in some order. -/
theorem Interleaved.perm_runs (h : Interleaved (runners.map launchedOnce) w moves p)
    (hOver : ∀ handle ∈ p.handles, handle.control.isAlive = false) :
    ∃ order : List Runner, order.Perm runners ∧ p.transcript = (runAll order w).1 ∧
      p.world = (runAll order w).2 := by
  refine ⟨_, ?_, h.runs⟩
  have hOrder := (h.perm_ended hOver).filterMap (runners[·]?)
  rw [filterMap_range] at hOrder
  exact hOrder

/-! ## The wait of the main thread -/

theorem Played.exists_of_isAlive {p : Played} {index : Nat} (h : p.isAlive index = true) :
    ∃ handle ∈ p.handles, handle.control.isAlive = true := by
  rw [isAlive] at h
  cases hFound : p.handles[index]? with
  | none =>
      rw [hFound] at h
      cases h
  | some handle =>
      rw [hFound, Option.any_some] at h
      exact ⟨handle, List.mem_of_getElem? hFound, h⟩

/-- A thread that is over stays so, whatever moves. -/
theorem Played.isAlive_of_move? {p q : Played} {index turn : Nat} {move : Move}
    (h : p.move? turn move = some q) (hOver : p.isAlive index = false) : q.isAlive index = false := by
  obtain ⟨handle, control, hTurn, hMove, rfl⟩ := move?_eq_some.mp h
  by_cases hOwn : turn = index
  · subst hOwn
    have hInside := (List.getElem?_eq_some_iff.mp hTurn).1
    rw [isAlive, hTurn, Option.any_some] at hOver
    rw [isAlive, List.getElem?_set_self hInside, Option.any_some]
    exact Control.isAlive_of_move? hMove hOver
  · rwa [isAlive, List.getElem?_set_ne hOwn]

theorem isAlive_join {index other : Nat} {p : Played} (turns : Turns)
    (hOver : p.isAlive other = false) : (join index turns p).2.isAlive other = false := by
  induction turns generalizing p with
  | nil => exact hOver
  | cons first later ih =>
      rw [join]
      split
      · cases hMove : p.move? first.1 first.2 with
        | none => exact ih hOver
        | some q => exact ih (Played.isAlive_of_move? hMove hOver)
      · exact hOver

theorem isAlive_waitFor {other : Nat} {p : Played} (indices : List Nat) (turns : Turns)
    (hOver : p.isAlive other = false) : (waitFor indices turns p).2.isAlive other = false := by
  induction indices generalizing turns p with
  | nil => exact hOver
  | cons index rest ih =>
      rw [waitFor]
      dsimp only
      split
      · exact isAlive_join turns hOver
      · exact ih _ (isAlive_join turns hOver)

/-- The wait ends when all threads are over, and goes on as long as one of them is alive. -/
theorem waitFor_cases (indices : List Nat) (turns : Turns) (p : Played) :
    ((waitFor indices turns p).1 = .code 0 ∧
      ∀ index ∈ indices, (waitFor indices turns p).2.isAlive index = false) ∨
    ((waitFor indices turns p).1 = .waiting ∧
      ∃ index ∈ indices, (waitFor indices turns p).2.isAlive index = true) := by
  induction indices generalizing turns p with
  | nil => exact .inl ⟨rfl, List.forall_mem_nil _⟩
  | cons index rest ih =>
      rw [waitFor]
      dsimp only
      split
      · rename_i hAlive
        exact .inr ⟨rfl, index, List.mem_cons_self, hAlive⟩
      · rename_i hOver
        rw [Bool.not_eq_true] at hOver
        rcases ih (join index turns p).1 (join index turns p).2 with ⟨hEnds, hAll⟩ | ⟨hWaits, hSome⟩
        · exact .inl ⟨hEnds, List.forall_mem_cons.mpr ⟨isAlive_waitFor rest _ hOver, hAll⟩⟩
        · obtain ⟨other, hMem, hAlive⟩ := hSome
          exact .inr ⟨hWaits, other, List.mem_cons_of_mem _ hMem, hAlive⟩

/-- Meanwhile the threads move in some order. -/
theorem Interleaved.join (h : Interleaved start w moves p) (index : Nat) (turns : Turns) :
    ∃ more, Interleaved start w (moves ++ more) (join index turns p).2 := by
  induction turns generalizing moves p with
  | nil => exact ⟨[], (List.append_nil moves).symm ▸ h⟩
  | cons first later ih =>
      rw [CommandLine.join]
      split
      · cases hMove : p.move? first.1 first.2 with
        | none => exact ih h
        | some q =>
            obtain ⟨more, hMore⟩ := ih (h.snoc hMove)
            exact ⟨first :: more, List.append_cons moves first more ▸ hMore⟩
      · exact ⟨[], (List.append_nil moves).symm ▸ h⟩

theorem Interleaved.waitFor (h : Interleaved start w moves p) (indices : List Nat) (turns : Turns) :
    ∃ more, Interleaved start w (moves ++ more) (waitFor indices turns p).2 := by
  induction indices generalizing moves p turns with
  | nil => exact ⟨[], (List.append_nil moves).symm ▸ h⟩
  | cons index rest ih =>
      obtain ⟨more, hMore⟩ := h.join index turns
      rw [CommandLine.waitFor]
      dsimp only
      split
      · exact ⟨more, hMore⟩
      · obtain ⟨others, hOthers⟩ := ih hMore (CommandLine.join index turns p).1
        exact ⟨more ++ others, List.append_assoc moves more others ▸ hOthers⟩

/-- In whatever order threads move whose triggers fire once, if the wait for them all ends then they have
run their flows exactly once each, in some order, and else one of them is alive. -/
theorem waitFor_launched (turns : Turns) (w : World) :
    let (ending, p) := waitFor (List.range (runners.map launchedOnce).length) turns
      ⟨[], runners.map launchedOnce, w⟩
    (ending = .waiting ∧ ∃ handle ∈ p.handles, handle.control.isAlive = true) ∨
      ending = .code 0 ∧ (∀ handle ∈ p.handles, handle.control.isAlive = false) ∧
        ∃ order : List Runner, order.Perm runners ∧ p.transcript = (runAll order w).1 ∧
          p.world = (runAll order w).2 := by
  have hStart : Interleaved (runners.map launchedOnce) w [] ⟨[], runners.map launchedOnce, w⟩ := .nil
  obtain ⟨moves, hMoves⟩ := hStart.waitFor (List.range (runners.map launchedOnce).length) turns
  have hLength := hMoves.length_handles
  dsimp only
  rcases waitFor_cases (List.range (runners.map launchedOnce).length) turns
    ⟨[], runners.map launchedOnce, w⟩ with ⟨hEnds, hAll⟩ | ⟨hWaits, index, -, hAlive⟩
  · have hOver : ∀ handle ∈ (waitFor (List.range (runners.map launchedOnce).length) turns
        ⟨[], runners.map launchedOnce, w⟩).2.handles, handle.control.isAlive = false := by
      intro handle hMem
      obtain ⟨index, hInside, rfl⟩ := List.mem_iff_getElem.mp hMem
      have hIndex := hAll index (List.mem_range.mpr (hLength ▸ hInside))
      rwa [Played.isAlive, List.getElem?_eq_getElem hInside, Option.any_some] at hIndex
    exact .inr ⟨hEnds, hOver, hMoves.perm_runs hOver⟩
  · exact .inl ⟨hWaits, Played.exists_of_isAlive hAlive⟩

/-! ## One thread after another -/

section

variable {before after : List Handle} {r : Runner} {t : Transcript}

/-- A move of a thread that stands among others. -/
theorem move?_among {c d : Control} {move : Move} (h : c.move? false move = some d)
    (hLeave : move ≠ .leave) (v : World) :
    (Played.mk t (before ++ ⟨r, .once, c⟩ :: after) v).move? before.length move =
      some ⟨t ++ if move = .finish then Transcript.onThread r.label (r.runOnce v).events else [],
        before ++ ⟨r, .once, d⟩ :: after, if move = .finish then (r.runOnce v).state else v⟩ := by
  refine Played.move?_eq_some.mpr ⟨⟨r, .once, c⟩, d, by simp, h, ?_⟩
  simp [play_move h hLeave]

theorem isAlive_among (handle : Handle) (v : World) :
    (Played.mk t (before ++ handle :: after) v).isAlive before.length = handle.control.isAlive := by
  simp [Played.isAlive]

theorem join_of_over {index : Nat} {p : Played} (turns : Turns) (h : p.isAlive index = false) :
    join index turns p = (turns, p) := by
  cases turns with
  | nil => rfl
  | cons first later => rw [join, h, if_neg Bool.false_ne_true]

/-- A thread that is waited for makes a move. -/
theorem join_among {c d : Control} {move : Move} (later : Turns) (hAlive : c.isAlive = true)
    (h : c.move? false move = some d) (hLeave : move ≠ .leave) (v : World) :
    join before.length ((before.length, move) :: later) ⟨t, before ++ ⟨r, .once, c⟩ :: after, v⟩ =
      join before.length later
        ⟨t ++ if move = .finish then Transcript.onThread r.label (r.runOnce v).events else [],
          before ++ ⟨r, .once, d⟩ :: after, if move = .finish then (r.runOnce v).state else v⟩ := by
  rw [join, isAlive_among, if_pos hAlive, move?_among h hLeave, Option.getD_some]

/-- The wait for a thread that was just started ends after the moves of its one attempt. -/
theorem join_launched (later : Turns) (w : World) :
    join before.length ((Timing.once.attempt.map fun move => (before.length, move)) ++ later)
        ⟨t, before ++ launchedOnce r :: after, w⟩ =
      (later, ⟨t ++ Transcript.onThread r.label (r.runOnce w).events,
        before ++ finishedOnce r :: after, (r.runOnce w).state⟩) := by
  simp only [Timing.attempt, List.map_cons, List.map_nil, List.cons_append, List.nil_append,
    launchedOnce, finishedOnce]
  calc _ = join before.length ((before.length, .finish) :: (before.length, .count) :: later)
          ⟨t, before ++ ⟨r, .once, ⟨.attempting, 1, 0, false⟩⟩ :: after, w⟩ := by
        rw [join_among _ rfl rfl (by decide)]
        simp [Control.launched]
    _ = join before.length ((before.length, .count) :: later)
          ⟨t ++ Transcript.onThread r.label (r.runOnce w).events,
            before ++ ⟨r, .once, ⟨.ended, 1, 0, false⟩⟩ :: after, (r.runOnce w).state⟩ := by
        rw [join_among _ rfl rfl (by decide)]
        simp
    _ = join before.length later
          ⟨t ++ Transcript.onThread r.label (r.runOnce w).events,
            before ++ ⟨r, .once, ⟨.finished, 1, 1, false⟩⟩ :: after, (r.runOnce w).state⟩ := by
        rw [join_among _ rfl rfl (by decide)]
        simp [Control.countRun]
    _ = _ := join_of_over later (isAlive_among _ _)

/-- Threads that were just started and move one after another, in front of which others are over. -/
theorem waitFor_from (before : List Handle) (rest : List Runner) (t : Transcript) (w : World) :
    waitFor (List.range' before.length rest.length)
        (((rest.map launchedOnce).zipIdx before.length).flatMap fun (handle, index) =>
          handle.timing.attempt.map fun move => (index, move))
        ⟨t, before ++ rest.map launchedOnce, w⟩ =
      (.code 0, ⟨t ++ (runAll rest w).1, before ++ rest.map finishedOnce, (runAll rest w).2⟩) := by
  induction rest generalizing before t w with
  | nil => simp [waitFor, runAll]
  | cons r rest ih =>
      have hRest := ih (before ++ [finishedOnce r])
        (t ++ Transcript.onThread r.label (r.runOnce w).events) (r.runOnce w).state
      simp only [List.length_append, List.length_singleton, List.append_assoc,
        List.singleton_append] at hRest
      have hTiming : (launchedOnce r).timing = .once := rfl
      have hOver : (finishedOnce r).control.isAlive = false := rfl
      simp only [List.length_cons, List.range'_succ, List.map_cons, List.zipIdx_cons,
        List.flatMap_cons, waitFor, hTiming, join_launched, isAlive_among, hOver, hRest, runAll,
        Bool.false_eq_true, if_false]

end

/-- Where threads move one after another, the wait for them ends, after one run of each. -/
theorem waitFor_inTurn (runners : List Runner) (w : World) :
    waitFor (List.range (runners.map launchedOnce).length) (inTurn (runners.map launchedOnce))
        ⟨[], runners.map launchedOnce, w⟩ =
      (.code 0, ⟨(runAll runners w).1, runners.map finishedOnce, (runAll runners w).2⟩) := by
  rw [List.length_map, List.range_eq_range', inTurn]
  exact waitFor_from [] runners [] w

end Flowline.CommandLine
