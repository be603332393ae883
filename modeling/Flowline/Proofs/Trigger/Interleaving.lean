import Flowline.Proofs.Action
import Flowline.Trigger.Thread

/-!
Interleavings of a trigger. The thread of a trigger moves on while others ask it to stop and read its
count, at any time. Whatever the order, attempts come one at a time, each is counted once, and after
the first request to stop there is at most one more, for which the thread was already on its way.
-/

namespace Flowline.Trigger

namespace Control

variable {repeats : Bool} {first c d : Control} {moves earlier later : List Move} {move : Move}

/-- Moves that lead from one control to another, each of them possible when its turn comes. -/
inductive Path (repeats : Bool) (first : Control) : List Move → Control → Prop where
  | nil : Path repeats first [] first
  | snoc {moves : List Move} {c d : Control} {move : Move} (earlier : Path repeats first moves c)
      (last : c.move? repeats move = some d) : Path repeats first (moves ++ [move]) d

/-- At each moment of a path there is a control, from which the rest of it leads on. -/
theorem Path.split (h : Path repeats first (earlier ++ later) d) :
    ∃ c, Path repeats first earlier c ∧ Path repeats c later d := by
  generalize hMoves : earlier ++ later = moves at h
  induction h generalizing later with
  | nil =>
      obtain ⟨rfl, rfl⟩ := List.append_eq_nil_iff.mp hMoves
      exact ⟨first, .nil, .nil⟩
  | @snoc moves c d move prior last ih =>
      rcases List.eq_nil_or_concat later with rfl | ⟨rest, move, rfl⟩
      · rw [List.append_nil] at hMoves
        exact ⟨d, hMoves ▸ prior.snoc last, .nil⟩
      · rw [List.concat_eq_append, ← List.append_assoc] at hMoves
        obtain ⟨hRest, hLast⟩ := List.append_inj' hMoves rfl
        cases hLast
        obtain ⟨middle, hEarlier, hLater⟩ := ih hRest
        rw [List.concat_eq_append]
        exact ⟨middle, hEarlier, hLater.snoc last⟩

theorem Path.eq_of_nil (h : Path repeats first [] c) : c = first := by
  generalize hMoves : [] = moves at h
  cases h with
  | nil => rfl
  | snoc prior last => simp at hMoves

theorem Path.move?_of_singleton (h : Path repeats first [move] c) :
    first.move? repeats move = some c := by
  generalize hMoves : [move] = moves at h
  cases h with
  | nil => simp at hMoves
  | @snoc rest d _ other prior last =>
      obtain ⟨rfl, hMove⟩ := List.append_inj' (show [] ++ [move] = rest ++ [other] from hMoves) rfl
      cases hMove
      exact prior.eq_of_nil ▸ last

/-- All that can happen to a control. -/
inductive Changes (repeats : Bool) (c : Control) : Move → Control → Prop where
  | stop : Changes repeats c .stop c.requestStop
  | pass (position : c.position = .looking) (going : c.stopped = false) :
      Changes repeats c .look { c with position := .ready }
  | turn (position : c.position = .looking) (stopped : c.stopped = true) :
      Changes repeats c .look { c with position := .leaving }
  | start (position : c.position = .ready) :
      Changes repeats c .start { c with position := .attempting, started := c.started + 1 }
  | finish (position : c.position = .attempting) :
      Changes repeats c .finish { c with position := .ended }
  | count (position : c.position = .ended) :
      Changes repeats c .count
        { c with position := if repeats then .waiting else .finished, runs := c.runs + 1 }
  | timeOut (position : c.position = .waiting) :
      Changes repeats c .timeOut { c with position := .looking }
  | wake (position : c.position = .waiting) (stopped : c.stopped = true) :
      Changes repeats c .wake { c with position := .leaving }
  | leave (position : c.position = .leaving) :
      Changes repeats c .leave { c with position := .finished }

theorem changes_of_move? (h : c.move? repeats move = some d) : Changes repeats c move d := by
  cases move with
  | stop =>
      cases h
      exact .stop
  | look =>
      rw [move?] at h
      split at h
      · rename_i hPosition
        cases h
        cases hStopped : c.stopped with
        | false =>
            have hPass : Changes repeats c .look { c with position := .ready } :=
              .pass hPosition hStopped
            simpa [hStopped] using hPass
        | true =>
            have hTurn : Changes repeats c .look { c with position := .leaving } :=
              .turn hPosition hStopped
            simpa [hStopped] using hTurn
      · cases h
  | wake =>
      rw [move?] at h
      split at h
      · rename_i hPosition
        split at h
        · rename_i hStopped
          cases h
          exact .wake hPosition hStopped
        · cases h
      · cases h
  | start =>
      rw [move?] at h
      split at h <;> cases h
      exact .start ‹_›
  | finish =>
      rw [move?] at h
      split at h <;> cases h
      exact .finish ‹_›
  | count =>
      rw [move?] at h
      split at h <;> cases h
      exact .count ‹_›
  | timeOut =>
      rw [move?] at h
      split at h <;> cases h
      exact .timeOut ‹_›
  | leave =>
      rw [move?] at h
      split at h <;> cases h
      exact .leave ‹_›

/-- What the moves so far say of a control. -/
structure Tallied (repeats : Bool) (moves : List Move) (c : Control) : Prop where
  launched : c.position ≠ .unstarted
  started : c.started = moves.count .start
  runs : c.runs = moves.count .count
  attempting : moves.count .start =
    moves.count .finish + if c.position = .attempting then 1 else 0
  ended : moves.count .finish = c.runs + if c.position = .ended then 1 else 0
  stopped : c.stopped = true ↔ .stop ∈ moves
  leaving : c.position = .leaving → c.stopped = true
  repeating : repeats = true → (c.position = .finished → c.stopped = true) ∧
    (c.stopped = false → moves.count .look =
      moves.count .start + if c.position = .ready then 1 else 0)
  single : repeats = false → c.position ∈ [.ready, .attempting, .ended, .finished] ∧
    moves.count .start = if c.position = .ready then 0 else 1

theorem tallied_launched (repeats : Bool) : Tallied repeats [] (launched repeats) := by
  cases repeats <;> constructor <;> simp [Control.launched]

theorem Tallied.snoc (h : Tallied repeats moves c) (hChanges : Changes repeats c move d) :
    Tallied repeats (moves ++ [move]) d := by
  obtain ⟨hLaunched, hStarted, hRuns, hAttempting, hEnded, hStopped, hLeaving, hRepeating, hSingle⟩ := h
  cases hChanges with
  | stop => constructor <;> simp_all [requestStop, List.count_append]
  | pass position going => constructor <;> simp_all [List.count_append]
  | turn position stopped => constructor <;> simp_all [List.count_append]
  | start position => constructor <;> simp_all [List.count_append]
  | finish position => constructor <;> simp_all [List.count_append]
  | count position => cases repeats <;> constructor <;> simp_all [List.count_append]
  | timeOut position => constructor <;> simp_all [List.count_append]
  | wake position stopped => constructor <;> simp_all [List.count_append]
  | leave position => constructor <;> simp_all [List.count_append]

theorem Path.tallied (h : Path repeats (launched repeats) moves c) : Tallied repeats moves c := by
  induction h with
  | nil => exact tallied_launched repeats
  | snoc prior last ih => exact ih.snoc (changes_of_move? last)

/-- No count is ever taken back. -/
theorem Path.runs_le (h : Path repeats first moves c) : first.runs ≤ c.runs := by
  induction h with
  | nil => exact Nat.le_refl _
  | snoc prior last ih =>
      refine Nat.le_trans ih ?_
      cases changes_of_move? last <;> simp [requestStop]

/-- Once a thread was asked to stop, it starts an attempt only if it was ready to. -/
theorem Path.count_start_of_stopped (h : Path repeats first moves c) (hStopped : first.stopped = true) :
    c.stopped = true ∧ moves.count .start + (if c.position = .ready then 1 else 0) ≤
      if first.position = .ready then 1 else 0 := by
  induction h with
  | nil => simp [hStopped]
  | snoc prior last ih =>
      obtain ⟨hStill, hCount⟩ := ih
      rw [List.count_append]
      cases changes_of_move? last with
      | stop => exact ⟨rfl, hCount⟩
      | pass position going => simp [going] at hStill
      | start position => exact ⟨hStill, by simpa [position] using hCount⟩
      | turn position stopped => exact ⟨hStill, by simpa [position] using hCount⟩
      | finish position => exact ⟨hStill, by simpa [position] using hCount⟩
      | count position => exact ⟨hStill, by cases repeats <;> simpa [position] using hCount⟩
      | timeOut position => exact ⟨hStill, by simpa [position] using hCount⟩
      | wake position stopped => exact ⟨hStill, by simpa [position] using hCount⟩
      | leave position => exact ⟨hStill, by simpa [position] using hCount⟩

/-- Attempts are counted but for one that is in progress or that has just ended. -/
theorem Tallied.started_cases (h : Tallied repeats moves c) :
    c.started = c.runs ∨ c.started = c.runs + 1 := by
  have hStarted := h.started
  have hAttempting := h.attempting
  have hEnded := h.ended
  by_cases hPosition : c.position = .attempting
  · rw [if_pos hPosition] at hAttempting
    rw [if_neg (by simp [hPosition])] at hEnded
    omega
  · rw [if_neg hPosition] at hAttempting
    split at hEnded <;> omega

/-- At the first request to stop a thread that still starts an attempt has looked already, and is
ready for that attempt. -/
theorem Path.count_start_of_stop
    (h : Path repeats (launched repeats) (earlier ++ .stop :: later) c) (hFirst : .stop ∉ earlier) :
    later.count .start ≤ 1 ∧ (later.count .start = 1 →
      ∃ d, Path repeats (launched repeats) earlier d ∧ d.position = .ready ∧
        (repeats = true → earlier.count .look = earlier.count .start + 1)) := by
  obtain ⟨d, hEarlier, hRest⟩ := h.split
  obtain ⟨asked, hStop, hLater⟩ := Path.split (show Path repeats d ([.stop] ++ later) c from hRest)
  have hAsked : asked = d.requestStop := (Option.some.inj hStop.move?_of_singleton).symm
  obtain ⟨-, hCount⟩ := hLater.count_start_of_stopped (by rw [hAsked]; rfl)
  by_cases hReady : d.position = .ready
  · have hPosition : asked.position = .ready := by rw [hAsked]; exact hReady
    rw [if_pos hPosition] at hCount
    refine ⟨by omega, fun _ => ⟨d, hEarlier, hReady, fun hRepeats => ?_⟩⟩
    have hGoing : d.stopped = false := by
      simpa using mt hEarlier.tallied.stopped.mp hFirst
    rw [(hEarlier.tallied.repeating hRepeats).2 hGoing, if_pos hReady]
  · have hPosition : asked.position ≠ .ready := by rw [hAsked]; exact hReady
    rw [if_neg hPosition] at hCount
    exact ⟨by omega, fun hOne => by omega⟩

/-- A thread that has not finished can move on by itself. -/
theorem exists_move (hLaunched : c.position ≠ .unstarted) (hGoing : c.position ≠ .finished) :
    ∃ move d, move ≠ .stop ∧ c.move? repeats move = some d := by
  cases hPosition : c.position with
  | unstarted => exact (hLaunched hPosition).elim
  | finished => exact (hGoing hPosition).elim
  | looking => exact ⟨.look, _, by decide, by rw [move?, hPosition]⟩
  | ready => exact ⟨.start, _, by decide, by rw [move?, hPosition]⟩
  | attempting => exact ⟨.finish, _, by decide, by rw [move?, hPosition]⟩
  | ended => exact ⟨.count, _, by decide, by rw [move?, hPosition]⟩
  | waiting => exact ⟨.timeOut, _, by decide, by rw [move?, hPosition]⟩
  | leaving => exact ⟨.leave, _, by decide, by rw [move?, hPosition]⟩

/-- A thread that does not run makes no moves of its own. -/
theorem isAlive_of_move? (h : c.move? repeats move = some d) (hOver : c.isAlive = false) :
    d.isAlive = false := by
  cases changes_of_move? h with
  | stop => exact hOver
  | _ => simp [isAlive, *] at hOver

end Control

/-- A trigger that starts at all starts with nothing attempted. -/
theorem launched_of_launch {σ : Type} {name : String} {timing : Timing} {s : σ} {first : Control}
    (h : (timing.launch name s).result = .ok first) : first = .launched timing.repeats := by
  cases timing with
  | once =>
      cases h
      rfl
  | every seconds =>
      rw [Timing.launch] at h
      split at h <;> cases h
      rfl

namespace Thread

variable {σ : Type} (name : String) (action : Action σ Unit)

/-- A number of attempts, one after another. -/
def attempts : Nat → Action σ Unit
  | 0 => return ()
  | n + 1 => do
      attempts n
      attempt name action

/-- However an action ends, the attempt at it goes no further. -/
theorem result_attempt (s : σ) : (attempt name action s).result = .ok () := by
  cases hAction : (action s).result with
  | ok u => rw [attempt, Action.orElse_of_ok hAction, hAction]
  | error f =>
      rw [attempt, Action.orElse_of_error hAction]
      rfl

theorem result_attempts (n : Nat) (s : σ) : (attempts name action n s).result = .ok () := by
  induction n with
  | zero => rfl
  | succ n ih =>
      rw [attempts, Action.bind_of_ok _ ih]
      exact result_attempt name action _

theorem state_attempts_succ (n : Nat) (s : σ) : (attempts name action (n + 1) s).state =
    (attempt name action (attempts name action n s).state).state := by
  rw [attempts, Action.bind_of_ok _ (result_attempts name action n s), Done.state_after]

theorem follow_append (repeats : Bool) (earlier later : List Move) :
    follow name repeats action (earlier ++ later) =
      follow name repeats action earlier >>= fun _ => follow name repeats action later := by
  induction earlier with
  | nil => exact (Action.pure_bind () fun _ => follow name repeats action later).symm
  | cons move rest ih =>
      rw [List.cons_append, follow, follow, ih, Action.bind_assoc]

/-- Only the end of an attempt does something to the state on which the action works. -/
theorem perform_of_move? {repeats : Bool} {c d : Control} {move : Move}
    (h : c.move? repeats move = some d) (s : σ) :
    (perform name repeats action move ⟨c, s⟩).result = .ok () ∧
    (perform name repeats action move ⟨c, s⟩).state =
      ⟨d, if move = .finish then (attempt name action s).state else s⟩ := by
  simp only [perform, h]
  cases move with
  | finish => exact ⟨result_attempt name action s, rfl⟩
  | _ => exact ⟨rfl, rfl⟩

/-- A thread that follows possible moves comes to the control that they lead to, whatever its action
does, and has made as many attempts as these moves have ended. -/
theorem follow_of_path {repeats : Bool} {first c : Control} {moves : List Move}
    (h : first.Path repeats moves c) (s : σ) :
    (follow name repeats action moves ⟨first, s⟩).result = .ok () ∧
    (follow name repeats action moves ⟨first, s⟩).state =
      ⟨c, (attempts name action (moves.count .finish) s).state⟩ := by
  induction h with
  | nil => exact ⟨rfl, rfl⟩
  | @snoc moves c d move prior last ih =>
      obtain ⟨hResult, hState⟩ := ih
      obtain ⟨hPerformed, hLeft⟩ := perform_of_move? name action last
        (attempts name action (moves.count .finish) s).state
      rw [follow_append, Action.bind_of_ok _ hResult, hState, follow, Action.bind_of_ok _ hPerformed]
      refine ⟨rfl, ?_⟩
      change (perform name repeats action move _).state = _
      rw [hLeft, List.count_append]
      by_cases hFinish : move = .finish
      · rw [if_pos hFinish, hFinish, List.count_singleton_self, state_attempts_succ]
      · rw [if_neg hFinish, List.count_singleton, if_neg (by simpa using hFinish), Nat.add_zero]

end Thread

/-- The thread of a trigger, which makes its attempts while anybody may ask it to stop or read its
count at any time. Whatever its action does, the thread keeps to its moves. At most one attempt is in
progress, each one that has ended is counted once, whether it failed or not, and no count is taken
back. After the first request to stop at most one attempt starts, and only if the thread had looked
before and was ready for it. A thread that repeats its attempts finishes only if it was asked to stop;
one that does not has then made and counted exactly one. Until it has finished a thread can go on. -/
theorem attempts_in_any_interleaving {σ : Type} {name : String} {timing : Timing}
    {action : Action σ Unit} {s : σ} {first c : Control} {moves : List Move}
    (hLaunch : (timing.launch name s).result = .ok first)
    (hPath : first.Path timing.repeats moves c) :
    ((Thread.follow name timing.repeats action moves ⟨first, s⟩).result = .ok () ∧
      (Thread.follow name timing.repeats action moves ⟨first, s⟩).state =
        ⟨c, (Thread.attempts name action (moves.count .finish) s).state⟩) ∧
    (moves.count .start = moves.count .finish + (if c.position = .attempting then 1 else 0) ∧
      c.started = moves.count .start ∧ (c.started = c.runs ∨ c.started = c.runs + 1)) ∧
    (moves.count .finish = c.runs + (if c.position = .ended then 1 else 0) ∧
      c.runs = moves.count .count) ∧
    (∀ earlier later, moves = earlier ++ later →
      ∃ d, first.Path timing.repeats earlier d ∧ d.Path timing.repeats later c ∧
        d.runs ≤ c.runs) ∧
    (∀ earlier later, moves = earlier ++ .stop :: later → .stop ∉ earlier →
      later.count .start ≤ 1 ∧ (later.count .start = 1 →
        ∃ d, first.Path timing.repeats earlier d ∧ d.position = .ready ∧
          (timing.repeats = true → earlier.count .look = earlier.count .start + 1))) ∧
    (timing.repeats = true → c.position = .finished → .stop ∈ moves) ∧
    (timing.repeats = false → moves.count .start ≤ 1 ∧
      (c.position = .finished → moves.count .start = 1 ∧ c.runs = 1)) ∧
    (c.position ≠ .finished → ∃ move d, move ≠ .stop ∧ c.move? timing.repeats move = some d) := by
  obtain rfl := launched_of_launch hLaunch
  have hTallied := hPath.tallied
  refine ⟨Thread.follow_of_path name action hPath s, ⟨hTallied.attempting, hTallied.started, ?_⟩,
    ⟨hTallied.ended, hTallied.runs⟩, ?_, ?_, ?_, ?_, Control.exists_move hTallied.launched⟩
  · exact hTallied.started_cases
  · intro earlier later hMoves
    obtain ⟨d, hEarlier, hLater⟩ := Control.Path.split (hMoves ▸ hPath)
    exact ⟨d, hEarlier, hLater, hLater.runs_le⟩
  · intro earlier later hMoves hFirst
    exact Control.Path.count_start_of_stop (hMoves ▸ hPath) hFirst
  · intro hRepeats hFinished
    exact hTallied.stopped.mp ((hTallied.repeating hRepeats).1 hFinished)
  · intro hOnce
    obtain ⟨-, hStarts⟩ := hTallied.single hOnce
    refine ⟨by rw [hStarts]; split <;> omega, fun hFinished => ?_⟩
    have hAttempting := hTallied.attempting
    have hEnded := hTallied.ended
    simp only [hFinished, reduceCtorEq, if_false] at hStarts hAttempting hEnded
    omega

/-- A thread that is asked to stop between its look and its attempt. -/
def lateStop : List Move := [.look, .stop, .start, .finish, .count, .wake, .leave]

/-- It still makes the attempt, which fails, and then finishes. -/
theorem attempts_in_any_interleaving_late_stop :
    ((Timing.every (.int 5)).launch "watch" ()).result = .ok (.launched true) ∧
    (Control.launched true).Path true lateStop ⟨.finished, 1, 1, true⟩ ∧
    (Thread.follow "watch" true (.fail noNetwork) lateStop ⟨.launched true, ()⟩).result = .ok () ∧
    ∃ d, (Control.launched true).Path true [.look] d ∧ d.position = .ready := by
  have hLaunch : ((Timing.every (.int 5)).launch "watch" ()).result = .ok (.launched true) := by
    rw [Timing.launch, if_pos (by decide)]
    rfl
  have hPath : (Control.launched true).Path true lateStop ⟨.finished, 1, 1, true⟩ :=
    .snoc (.snoc (.snoc (.snoc (.snoc (.snoc (.snoc .nil rfl) rfl) rfl) rfl) rfl) rfl) rfl
  have hAll := @attempts_in_any_interleaving Unit "watch" (.every (.int 5)) (.fail noNetwork) () _ _ _
    hLaunch hPath
  obtain ⟨⟨hResult, -⟩, -, -, -, hStop, -⟩ := hAll
  obtain ⟨-, hStarts⟩ := hStop [.look] [.start, .finish, .count, .wake, .leave] rfl (by decide)
  obtain ⟨d, hLook, hReady, -⟩ := hStarts (by decide)
  exact ⟨hLaunch, hPath, hResult, d, hLook, hReady⟩

end Flowline.Trigger
