import Flowline.Proofs.CommandLine.Threads
import Flowline.Proofs.Flow.RoundTrip
import Flowline.Proofs.Text.Utf8

/-!
Start-up of the program. Either all files load and all selected flows have their credentials, and the
program starts the selected flows that have a trigger, or it ends before anything has started. If all
these triggers fire once, the program waits for their threads, and in whatever order these move, it ends
by itself only after each of the flows has run exactly once.
-/

namespace Flowline.CommandLine

open Trigger

/-- Nothing but records of the main thread, none of them of a step. -/
def Transcript.IsStartUp (t : Transcript) : Prop := ∀ e ∈ t, e.1 = mainThread ∧ e.2.IsRecord

/-- The program ends with a code before anything is started: it leaves the world as it was, and shows
records of the main thread alone. -/
structure Report.StartsNothing (report : Report) (code : Nat) (w : World) : Prop where
  ending : report.ending = .code code
  handles : report.handles = []
  world : report.world = w
  transcript : report.transcript.IsStartUp

/-- The program ends by itself after the start and one run of each of some runners, with all threads
finished. -/
structure Report.RunsEachOnce (report : Report) (runners : List Runner) (w : World) : Prop where
  ending : report.ending = .code 0
  handles : report.handles = runners.map finishedOnce
  transcript : ∃ startUp : Transcript, startUp.IsStartUp ∧
    report.transcript = startUp ++ (runAll runners w).1
  world : report.world = (runAll runners w).2

/-- The program ends by itself after the start and one run of each of some runners, in their order, when
no thread is alive. -/
structure Report.RunsInOrder (report : Report) (order : List Runner) (w : World) : Prop where
  ending : report.ending = .code 0
  finished : ∀ handle ∈ report.handles, handle.control.isAlive = false
  transcript : ∃ startUp : Transcript, startUp.IsStartUp ∧
    report.transcript = startUp ++ (runAll order w).1
  world : report.world = (runAll order w).2

/-- The program goes on to wait for a thread that is alive. -/
structure Report.Waits (report : Report) : Prop where
  ending : report.ending = .waiting
  alive : ∃ handle ∈ report.handles, handle.control.isAlive = true

namespace Transcript

theorem IsStartUp.append {t u : Transcript} (ht : t.IsStartUp) (hu : u.IsStartUp) :
    IsStartUp (t ++ u) := List.forall_mem_append.mpr ⟨ht, hu⟩

end Transcript

/-! ## On the main thread -/

/-- What only tells records leaves the world as it was, also on the main thread. -/
theorem onMain_of_onlyTells {α : Type} {x : Action World α} (h : x.OnlyTells) {w : World} {a : α}
    (hResult : (x w).result = .ok a) : ∃ t, onMain x w = .ok (a, t, w) ∧ t.IsStartUp := by
  refine ⟨.onThread mainThread (x w).events, ?_, fun e hMem => ?_⟩
  · rw [onMain, hResult, h.still]
    rfl
  · obtain ⟨shown, hShown, rfl⟩ := List.mem_map.mp hMem
    exact ⟨rfl, h.records w shown hShown⟩

theorem onMain_log (level : Log.Level) (message : String) (fields : List (String × Value))
    (w : World) :
    ∃ t, onMain (log level message fields) w = .ok ((), t, w) ∧ t.IsStartUp :=
  onMain_of_onlyTells (.log (by decide)) rfl

section

variable {schedule : List Handle → Turns} {settings : Settings} {a : Arguments} {interrupted : Bool}
  {w : World} {runners : List Runner}

theorem run_of_reason {reason : String} (h : (load settings a w).result = .ok (.error reason)) :
    ∃ report, run schedule settings a interrupted w = .ok report ∧ report.StartsNothing 1 w := by
  obtain ⟨t, hLoad, hLoaded⟩ := onMain_of_onlyTells (onlyTells_load settings a) h
  obtain ⟨told, hLog, hTold⟩ := onMain_log .error (couldNotLoad reason) [] w
  refine ⟨⟨.code 1, couldNotLoad reason ++ "\n", t ++ told, [], w⟩, ?_, ⟨rfl, rfl, rfl, ?_⟩⟩
  · rw [run, hLoad]
    simp only [bind, Except.bind, hLog]
    rfl
  · exact hLoaded.append hTold

theorem onlyOnce_of_none (h : ∀ r ∈ runners, r.flow.trigger = none) :
    ∀ r ∈ runners, ∀ t, r.flow.trigger = some t → t = .once := by
  intro r hMem t hTrigger
  cases (h r hMem).symm.trans hTrigger

theorem run_of_dead (h : (load settings a w).result = .ok (.ok runners))
    (hDead : ∀ r ∈ runners, r.flow.trigger = none) :
    ∃ report, run schedule settings a interrupted w = .ok report ∧ report.StartsNothing 2 w := by
  have hOnce := onlyOnce_of_none hDead
  have hNone : triggered runners = [] := by
    refine List.filter_eq_nil_iff.mpr fun r hMem => ?_
    rw [hDead r hMem]
    exact Bool.false_ne_true
  obtain ⟨t, hLoad, hLoaded⟩ := onMain_of_onlyTells (onlyTells_load settings a) h
  obtain ⟨started, hStart, hStarted⟩ :=
    onMain_of_onlyTells (onlyTells_startAll hOnce) (result_startAll hOnce w)
  obtain ⟨told, hLog, hTold⟩ := onMain_log .error noFlow [] w
  rw [hNone] at hStart
  refine ⟨⟨.code 2, noFlow ++ "\n", t ++ started ++ told, [], w⟩, ?_, ⟨rfl, rfl, rfl, ?_⟩⟩
  · rw [run, hLoad]
    simp only [bind, Except.bind, hStart, hLog]
    rfl
  · exact (hLoaded.append hStarted).append hTold

/-- With triggers that fire once, the program comes to its waiting with all of them started. -/
theorem run_of_once (interrupted : Bool) (h : (load settings a w).result = .ok (.ok runners))
    (hOnce : ∀ r ∈ runners, ∀ t, r.flow.trigger = some t → t = .once)
    (hSome : triggered runners ≠ []) :
    ∃ t : Transcript, t.IsStartUp ∧ run schedule settings a interrupted w =
      await schedule interrupted ((triggered runners).map launchedOnce) t w := by
  obtain ⟨t, hLoad, hLoaded⟩ := onMain_of_onlyTells (onlyTells_load settings a) h
  obtain ⟨started, hStart, hStarted⟩ :=
    onMain_of_onlyTells (onlyTells_startAll hOnce) (result_startAll hOnce w)
  obtain ⟨told, hLog, hTold⟩ := onMain_log .info "Flows scheduled" [("flows", .list
    (((triggered runners).map launchedOnce).map fun h => Value.text h.runner.label))] w
  refine ⟨t ++ started ++ told, (hLoaded.append hStarted).append hTold, ?_⟩
  have hHandles : ((triggered runners).map launchedOnce).isEmpty = false := by
    rw [List.isEmpty_eq_false_iff, ne_eq, List.map_eq_nil_iff]
    exact hSome
  rw [run, hLoad]
  simp only [bind, Except.bind, hStart, hHandles, hLog]
  rfl

end

/-- Threads that move one after another and are not interrupted each run their flow once, and the program
ends by itself. -/
theorem await_inTurn (runners : List Runner) (t : Transcript) (w : World) :
    await inTurn false (runners.map launchedOnce) t w =
      .ok ⟨.code 0, "", t ++ (runAll runners w).1, runners.map finishedOnce, (runAll runners w).2⟩ := by
  simp only [await, waitFor_inTurn]
  rfl

/-- In whatever order threads move that are not interrupted, the program waits for one that is alive, or
ends by itself after a run of each. -/
theorem await_launched (schedule : List Handle → Turns) (runners : List Runner) {t : Transcript}
    (hStartUp : t.IsStartUp) (w : World) :
    ∃ report, await schedule false (runners.map launchedOnce) t w = .ok report ∧
      (report.Waits ∨ ∃ order : List Runner, order.Perm runners ∧ report.RunsInOrder order w) := by
  refine ⟨_, rfl, ?_⟩
  rcases waitFor_launched (schedule (runners.map launchedOnce)) w with
    ⟨hWaits, hAlive⟩ | ⟨hEnds, hOver, order, hOrder, hTranscript, hWorld⟩
  · exact .inl ⟨hWaits, hAlive⟩
  · exact .inr ⟨order, hOrder, hEnds, hOver, ⟨t, hStartUp, congrArg (t ++ ·) hTranscript⟩, hWorld⟩

theorem await_interrupted (schedule : List Handle → Turns) (runners : List Runner) (t : Transcript)
    (w : World) :
    ∃ report, await schedule true (runners.map launchedOnce) t w = .ok report ∧
      report.ending = .code 130 :=
  ⟨_, rfl, rfl⟩

/-! ## As a whole -/

/-- The program is invoked, with threads that move in some order, and runs, with a report of some kind.
-/
def Ran (schedule : List Handle → Turns) (args : List String)
    (environment : List (String × String)) (timestamp : String) (interrupted : Bool) (w : World)
    (P : Report → Prop) : Prop :=
  ∃ style report, invokeAmong schedule args environment timestamp interrupted w =
    .ok (.ran style report) ∧ P report

section

variable {schedule : List Handle → Turns} {args : List String}
  {environment : List (String × String)} {timestamp : String} {interrupted : Bool} {w : World}
  {a : Arguments} {settings : Settings} {P : Report → Prop}

/-- What comes of the run of the files is what comes of the invocation. -/
theorem ran_of_run (hRead : read args = .ok (.run a))
    (hSettings : settingsFor a environment w = .ok (.valid settings))
    (h : ∃ report, run schedule settings a interrupted w = .ok report ∧ P report) :
    Ran schedule args environment timestamp interrupted w P := by
  obtain ⟨report, hRun, hReport⟩ := h
  refine ⟨⟨settings.logLevel, settings.logFormat, timestamp⟩, report, ?_, hReport⟩
  rw [invokeAmong, hRead]
  simp only [runWith, hSettings, bind, Except.bind, hRun]
  rfl

/-- Each file loads, unless one is rejected. -/
theorem exists_parts {files : List String}
    (hKnown : ∀ file ∈ files, (∃ flows, FlowFile.Writes (.ofText file) w flows) ∨
      FlowFile.Rejected (.ofText file) w) :
    (∃ file ∈ files, FlowFile.Rejected (.ofText file) w) ∨
      ∃ parts, List.Forall₂ (fun file flows => FlowFile.Writes (.ofText file) w flows) files parts := by
  by_cases hRejected : ∃ file ∈ files, FlowFile.Rejected (.ofText file) w
  · exact .inl hRejected
  · right
    induction files with
    | nil => exact ⟨[], .nil⟩
    | cons file rest ih =>
        obtain ⟨hFirst, hRest⟩ := List.forall_mem_cons.mp hKnown
        rw [List.exists_mem_cons_iff, not_or] at hRejected
        obtain ⟨flows, hWrites⟩ := hFirst.resolve_right hRejected.1
        obtain ⟨parts, hParts⟩ := ih hRest hRejected.2
        exact ⟨flows :: parts, .cons hWrites hParts⟩

section

variable {parts : List (List FlowDefinition)} {chosen : List FlowDefinition}
  (hParts : FilesWrite a w parts) (hChosen : chosen = selection a.only parts.flatten)

include hParts hChosen

/-- One of the flows to run that lacks a credential ends the loading with a reason. -/
theorem load_lacking (h : ∃ flow ∈ chosen, flow.LacksCredential settings) :
    ∃ reason, (load settings a w).result = .ok (.error reason) := by
  rw [hChosen] at h
  obtain ⟨f, hError⟩ := checkedRunners_error h
  refine ⟨f.text, ?_⟩
  rw [result_load_of_writes hParts, hError]

/-- Without one, loading gives the runners of these flows. -/
theorem load_checked (h : ∀ flow ∈ chosen, ¬ flow.LacksCredential settings) :
    (load settings a w).result = .ok (.ok (chosen.map fun flow => ⟨flow, settings⟩)) := by
  rw [hChosen] at h ⊢
  rw [result_load_of_writes hParts, checkedRunners_eq_ok h]

end

theorem triggered_map (flows : List FlowDefinition) (settings : Settings) :
    triggered (flows.map fun flow => ⟨flow, settings⟩) =
      (flows.filter (·.trigger.isSome)).map fun flow => ⟨flow, settings⟩ :=
  List.filter_map

/-- The program starts nothing unless all files load and all flows to run have their credentials: if a
file is rejected, or a document of one, or a flow to run lacks a credential, it ends with one code, and
if no flow to run has a trigger, with another one; before either end it only writes records. If all
triggers of these flows fire once, exactly the flows that have one are started, in their order. Unless
it is interrupted, the program then waits for them: where the threads move one after another it ends by
itself, each flow having run exactly once, however its run ended; and in whatever order they move, it
ends by itself only so, and else still waits for one that is alive. -/
theorem start_up_is_all_or_nothing (schedule : List Handle → Turns)
    (hRead : read args = .ok (.run a))
    (hSettings : settingsFor a environment w = .ok (.valid settings))
    (hKnown : ∀ file ∈ a.files, (∃ flows, FlowFile.Writes (.ofText file) w flows) ∨
      FlowFile.Rejected (.ofText file) w) :
    ((∃ file ∈ a.files, FlowFile.Rejected (.ofText file) w) ∨ ∃ parts, FilesWrite a w parts) ∧
    ((∃ file ∈ a.files,
        FlowFile.Rejected (.ofText file) w ∨ FlowFile.RejectsDocument (.ofText file) w) →
      Ran schedule args environment timestamp interrupted w (·.StartsNothing 1 w)) ∧
    ∀ parts chosen, FilesWrite a w parts → chosen = selection a.only parts.flatten →
      ((∃ flow ∈ chosen, flow.LacksCredential settings) →
        Ran schedule args environment timestamp interrupted w (·.StartsNothing 1 w)) ∧
      ((∀ flow ∈ chosen, ¬ flow.LacksCredential settings) →
        ((∀ flow ∈ chosen, flow.trigger = none) →
          Ran schedule args environment timestamp interrupted w (·.StartsNothing 2 w)) ∧
        ((∃ flow ∈ chosen, flow.trigger ≠ none) →
          (∀ flow ∈ chosen, ∀ t, flow.trigger = some t → t = .once) →
          ∀ runners, runners = (chosen.filter (·.trigger.isSome)).map (⟨·, settings⟩) →
            (interrupted = false →
              Ran inTurn args environment timestamp interrupted w (·.RunsEachOnce runners w) ∧
              Ran schedule args environment timestamp interrupted w fun report =>
                report.Waits ∨
                  ∃ order : List Runner, order.Perm runners ∧ report.RunsInOrder order w) ∧
            (interrupted = true →
              Ran schedule args environment timestamp interrupted w (·.ending = .code 130)) ∧
            ∀ moves p, Interleaved (runners.map launchedOnce) w moves p →
              (∀ handle ∈ p.handles, handle.control.isAlive = false) →
              ∃ order : List Runner, order.Perm runners ∧
                p.transcript = (runAll order w).1 ∧ p.world = (runAll order w).2)) := by
  refine ⟨exists_parts hKnown, ?_, ?_⟩
  · rintro ⟨file, hMem, hFile⟩
    have hRejected : FlowFile.Rejected (.ofText file) w :=
      hFile.elim id (FlowFile.rejected_of_document (hKnown file hMem))
    obtain ⟨reason, hLoad⟩ := load_rejected hKnown ⟨file, hMem, hRejected⟩
    exact ran_of_run hRead hSettings (run_of_reason hLoad)
  · intro parts chosen hParts hChosen
    refine ⟨fun hLacks => ?_, fun hChecked => ⟨fun hDead => ?_, fun hSome hOnce runners hRunners => ?_⟩⟩
    · obtain ⟨reason, hLoad⟩ := load_lacking hParts hChosen hLacks
      exact ran_of_run hRead hSettings (run_of_reason hLoad)
    · have hLoad := load_checked hParts hChosen hChecked
      exact ran_of_run hRead hSettings (run_of_dead hLoad (List.forall_mem_map.mpr hDead))
    · have hLoad := load_checked hParts hChosen hChecked
      rw [← triggered_map] at hRunners
      have hStarted : triggered (chosen.map fun flow => ⟨flow, settings⟩) ≠ [] := by
        obtain ⟨flow, hMem, hTrigger⟩ := hSome
        rw [triggered_map, ne_eq, List.map_eq_nil_iff]
        exact List.ne_nil_of_mem (List.mem_filter.mpr ⟨hMem, Option.isSome_iff_ne_none.mpr hTrigger⟩)
      have hTurns (turns : List Handle → Turns) : ∃ t : Transcript, t.IsStartUp ∧
          run turns settings a interrupted w =
            await turns interrupted (runners.map launchedOnce) t w := by
        rw [hRunners]
        exact run_of_once interrupted hLoad (List.forall_mem_map.mpr hOnce) hStarted
      obtain ⟨t, hStartUp, hRun⟩ := hTurns schedule
      refine ⟨?_, ?_, fun moves p hMoves hOver => hMoves.perm_runs hOver⟩
      · rintro rfl
        obtain ⟨u, hStartUpToo, hRunToo⟩ := hTurns inTurn
        obtain ⟨report, hReport, hEnds⟩ := await_launched schedule runners hStartUp w
        rw [await_inTurn] at hRunToo
        exact ⟨ran_of_run hRead hSettings ⟨_, hRunToo, ⟨rfl, rfl, ⟨u, hStartUpToo, rfl⟩, rfl⟩⟩,
          ran_of_run hRead hSettings ⟨report, hRun.trans hReport, hEnds⟩⟩
      · rintro rfl
        obtain ⟨report, hReport, hEnding⟩ := await_interrupted schedule runners t w
        exact ran_of_run hRead hSettings ⟨report, hRun.trans hReport, hEnding⟩

end

/-! ## A file with one flow and a missing one -/

namespace Solo

open Markup

/-- A flow that starts once and has nothing to do. -/
def flow : FlowDefinition := ⟨some "u", some .once, [], [], []⟩

def text : String :=
  "\x7b\"name\":\"u\",\"trigger\":\x7b\"type\":\"once\"\x7d,\"notifiers\":[],\"steps\":[],\"upon_failure\":[]\x7d"

def tokens : List Token := [.flowMappingStart,
  .key, .scalar "name" false, .value, .scalar "u" false, .flowEntry,
  .key, .scalar "trigger" false, .value,
  .flowMappingStart, .key, .scalar "type" false, .value, .scalar "once" false, .flowMappingEnd, .flowEntry,
  .key, .scalar "notifiers" false, .value, .flowSequenceStart, .flowSequenceEnd, .flowEntry,
  .key, .scalar "steps" false, .value, .flowSequenceStart, .flowSequenceEnd, .flowEntry,
  .key, .scalar "upon_failure" false, .value, .flowSequenceStart, .flowSequenceEnd,
  .flowMappingEnd, .streamEnd]

def node : Node := .mapping .mapping [
  (.scalar .text "name", .scalar .text "u"),
  (.scalar .text "trigger", .mapping .mapping [(.scalar .text "type", .scalar .text "once")]),
  (.scalar .text "notifiers", .sequence .sequence []),
  (.scalar .text "steps", .sequence .sequence []),
  (.scalar .text "upon_failure", .sequence .sequence [])]

/-- A world with one file, in which the flow is written. -/
def world : World :=
  .fresh (fun _ => .error noNetwork) [(["a"], .file (Text.Utf8.encode text))] (fun _ => []) .working

theorem tokens_text : Markup.tokens text = ⟨tokens, none⟩ := by
  rw [text, tokens]
  decide +kernel

theorem value_node : node.value = .ok (flow.document "timer") := by
  rw [node, Node.value]
  simp only [Node.valueAs, Node.members, Node.tag, Node.itemValues, Node.keyTag, Node.isCollection,
    Node.scalarText, reduceCtorEq, if_false]
  rfl

theorem unfolded_node (named : List (String × Node)) : node.unfolded named = node := rfl

theorem documents_text : documents text = .ok [flow.document "timer"] := by
  have hFuel : 4 * (tokens.length + 2) = 148 := rfl
  have hBare : (Composer.bareDocument 148).run ⟨tokens, none, [], []⟩ =
      .ok (some node, ⟨[.streamEnd], none, [], defaultHandles⟩) := rfl
  have hFinish : (Composer.finish node).run ⟨[.streamEnd], none, [], defaultHandles⟩ =
      .ok (flow.document "timer", ⟨[.streamEnd], none, [], defaultHandles⟩) := by
    simp only [Composer.finish, unfolded_node, value_node]
    rfl
  have hRun : (Composer.documents 148).run ⟨tokens, none, [], []⟩ =
      .ok ([flow.document "timer"], ⟨[.streamEnd], none, [], defaultHandles⟩) := by
    rw [Composer.documents, StateT.run_bind, hBare]
    simp only [bind, Except.bind]
    change (Composer.finish node >>= _).run _ = _
    rw [StateT.run_bind, hFinish]
    rfl
  rw [documents, tokens_text]
  simp only [hFuel, hRun]
  rfl

theorem sound : flow.Sound where
  steps := Step.sound_of_mem_walk_nil
  interval := by
    rintro x ⟨⟩
  targets _ := List.not_mem_nil
  references := rfl

theorem flowsOf_documents (source : String) :
    Source.flowsOf source 0 [flow.document "timer"] = .ok [flow] := by
  have hWord : Document.repeats? "timer" = some true := rfl
  have hRead := FlowDefinition.read_document sound hWord s!"{source} document {0}"
  rw [FlowDefinition.document] at hRead ⊢
  simp only [Source.flowsOf, hRead]
  rfl

theorem readFile_eq : (World.readFile ⟨"", ["a"]⟩ world).result = .ok text := by
  have hCheck : World.checkPath ⟨"", ["a"]⟩ = .ok () := rfl
  have hBytes : world.disk.read world.home ⟨"", ["a"]⟩ = .ok (Text.Utf8.encode text) := rfl
  have hLines : Text.Utf8.withLineFeeds text = text := by decide +kernel
  simp only [World.readFile, hCheck, hBytes, Text.Utf8.decode_encode, hLines, bind, Except.bind]

theorem writes : FlowFile.Writes (.ofText "a") world [flow] := by
  have hPath : FilePath.ofText "a" = ⟨"", ["a"]⟩ := by
    rw [FilePath.ofText, String.splitOn]
    iterate 2 unfold String.splitOnAux
    decide +kernel
  rw [FlowFile.Writes, FlowFile.result_load, hPath, readFile_eq, FlowFile.flowsOf, Source.flows,
    documents_text]
  exact congrArg Except.ok (flowsOf_documents _)

theorem rejected : FlowFile.Rejected (.ofText "b") world := by
  have hPath : FilePath.ofText "b" = ⟨"", ["b"]⟩ := by
    rw [FilePath.ofText, String.splitOn]
    iterate 2 unfold String.splitOnAux
    decide +kernel
  refine ⟨.unreadable "b" "[Errno 2] No such file or directory: 'b'", ?_, ?_⟩
  · rw [FlowFile.result_load, hPath]
    rfl
  · rintro f ⟨⟩

theorem settingsFor_eq (a : Arguments) (hLevel : a.logLevel = none) :
    settingsFor a [] world = .ok (.valid .standard) := by
  have hCheck : Settings.check [] = .valid .standard := by
    rw [Settings.check]
    generalize Settings.standard = settings
    rfl
  have hOverrides : overrides a = [] := by rw [overrides, hLevel]
  rw [settingsFor, hOverrides]
  exact congrArg Except.ok hCheck

theorem selection_asked : selection (some " u,") [flow] = [flow] := by
  have hParts : " u,".splitOn "," = [" u", ""] := by
    rw [String.splitOn]
    iterate 4 unfold String.splitOnAux
    decide +kernel
  have hNames : flowNames (some " u,") = ["u"] := by
    rw [flowNames, hParts]
    decide +kernel
  have hAsks : Asks (some " u,") "u" := mem_flowNames.mp (hNames ▸ List.mem_singleton_self _)
  rw [selection, if_pos ⟨_, hAsks⟩]
  exact List.filter_eq_self.mpr (List.forall_mem_singleton.mpr (decide_eq_true hAsks))

theorem selection_other : selection (some "v") [flow] = [] := by
  have hParts : "v".splitOn "," = ["v"] := by
    rw [String.splitOn]
    iterate 2 unfold String.splitOnAux
    decide +kernel
  have hNames : flowNames (some "v") = ["v"] := by
    rw [flowNames, hParts]
    decide +kernel
  have hAsks : Asks (some "v") "v" := mem_flowNames.mp (hNames ▸ List.mem_singleton_self _)
  have hOther : ¬ Asks (some "v") "u" := by
    rw [← mem_flowNames, hNames]
    decide
  rw [selection, if_pos ⟨_, hAsks⟩]
  refine List.filter_eq_nil_iff.mpr (List.forall_mem_singleton.mpr ?_)
  exact fun h => hOther (of_decide_eq_true h)

theorem not_lacksCredential : ¬ flow.LacksCredential .standard := by
  rintro ⟨_, hMem, -⟩
  cases hMem

/-- With a missing file nothing starts, though the one before it loads. Without it, the flow that is
asked for runs once, and nothing starts if another one is asked for. -/
theorem start_up_is_all_or_nothing_solo :
    Ran inTurn ["-o", " u,", "a", "b"] [] "now" false world (·.StartsNothing 1 world) ∧
      Ran inTurn ["-o", " u,", "a"] [] "now" false world (·.RunsEachOnce [⟨flow, .standard⟩] world) ∧
      Ran inTurn ["-o", "v", "a"] [] "now" false world (·.StartsNothing 2 world) := by
  have hBoth : read ["-o", " u,", "a", "b"] = .ok (.run ⟨["a", "b"], some " u,", none⟩) := rfl
  have hAsked : read ["-o", " u,", "a"] = .ok (.run ⟨["a"], some " u,", none⟩) := rfl
  have hOther : read ["-o", "v", "a"] = .ok (.run ⟨["a"], some "v", none⟩) := rfl
  have hParts : List.Forall₂ (fun file flows => FlowFile.Writes (.ofText file) world flows)
      ["a"] [[flow]] := .cons writes .nil
  have hKnown : ∀ file ∈ ["a"], (∃ flows, FlowFile.Writes (.ofText file) world flows) ∨
      FlowFile.Rejected (.ofText file) world := List.forall_mem_singleton.mpr (.inl ⟨_, writes⟩)
  refine ⟨?_, ?_, ?_⟩
  · obtain ⟨-, hMissing, -⟩ := start_up_is_all_or_nothing inTurn hBoth (settingsFor_eq _ rfl)
      (List.forall_mem_cons.mpr ⟨.inl ⟨_, writes⟩, List.forall_mem_singleton.mpr (.inr rejected)⟩)
    exact hMissing ⟨"b", by decide, .inl rejected⟩
  · obtain ⟨-, -, hLoaded⟩ := start_up_is_all_or_nothing inTurn hAsked (settingsFor_eq _ rfl) hKnown
    obtain ⟨-, hChecked⟩ := hLoaded [[flow]] [flow] hParts selection_asked.symm
    obtain ⟨-, hStarts⟩ := hChecked (List.forall_mem_singleton.mpr not_lacksCredential)
    obtain ⟨hRuns, -⟩ := hStarts ⟨flow, List.mem_singleton_self _, Option.some_ne_none _⟩
      (List.forall_mem_singleton.mpr fun t hTrigger => (Option.some.inj hTrigger).symm) _ rfl
    exact (hRuns rfl).1
  · obtain ⟨-, -, hLoaded⟩ := start_up_is_all_or_nothing inTurn hOther (settingsFor_eq _ rfl) hKnown
    obtain ⟨-, hChecked⟩ := hLoaded [[flow]] [] hParts selection_other.symm
    obtain ⟨hDead, -⟩ := hChecked (List.forall_mem_nil _)
    exact hDead (List.forall_mem_nil _)

end Solo

end Flowline.CommandLine
