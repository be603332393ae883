import Flowline.CommandLine.Program
import Flowline.Proofs.Flow.Loading
import Flowline.Proofs.Interpreter.Records
import Flowline.Proofs.Notifier.Build

/-!
What the program does before anything starts. It loads all files, selects flows by their names, and
checks their credentials; all this only tells records. It ends with the runners of the selected flows, or
with the reason why a definition is wrong.
-/

namespace Flowline

variable {σ α β : Type}

/-- A record that does not tell the start of a step. -/
def Event.IsRecord (e : Event) : Prop := e.isLogged = true ∧ e.startedKind? = none

/-- An action that leaves the state as it was and only tells records, none of them of a step. -/
structure Action.OnlyTells (x : Action σ α) : Prop where
  still : ∀ s, (x s).state = s
  records : x.Emits Event.IsRecord

namespace Action.OnlyTells

variable {x : Action σ α}

theorem of_silent (h : ∀ s, (x s).events = [] ∧ (x s).state = s) : x.OnlyTells :=
  ⟨fun s => (h s).2, .of_silent fun s => (h s).1⟩

theorem succeed (a : α) : (Action.succeed a : Action σ α).OnlyTells := of_silent fun _ => ⟨rfl, rfl⟩

theorem pure (a : α) : (Pure.pure a : Action σ α).OnlyTells := of_silent fun _ => ⟨rfl, rfl⟩

theorem fail (f : Failure) : (Action.fail f : Action σ α).OnlyTells := of_silent fun _ => ⟨rfl, rfl⟩

theorem log {level : Log.Level} {logger : Log.Logger} {message : String}
    {fields : List (String × Value)} (h : logger ≠ .interpreter) :
    (Action.log level logger message fields : Action σ Unit).OnlyTells where
  still _ := rfl
  records := .log ⟨rfl, Interpreter.startedKind?_of_logger h⟩

theorem bind {next : α → Action σ β} (hx : x.OnlyTells) (hNext : ∀ a, (next a).OnlyTells) :
    (x >>= next).OnlyTells where
  records := hx.records.bind fun a => (hNext a).records
  still s := by
    have hKeeps : (x >>= next).Keeps id := Keeps.bind hx.still fun a => (hNext a).still
    exact hKeeps s

theorem fork {next : α → Action σ β} {handle : Failure → Action σ β} (hx : x.OnlyTells)
    (hNext : ∀ a, (next a).OnlyTells) (hHandle : ∀ f, (handle f).OnlyTells) :
    (x.fork next handle).OnlyTells where
  records := hx.records.fork (fun a => (hNext a).records) fun f => (hHandle f).records
  still s := by
    cases hResult : (x s).result with
    | ok a =>
        rw [fork_of_ok _ _ hResult, Done.state_after, (hNext a).still, hx.still]
    | error f =>
        rw [fork_of_error _ _ hResult, Done.state_after, (hHandle f).still, hx.still]

/-- What comes after such an action starts where it did. -/
theorem result_bind {next : α → Action σ β} (hx : x.OnlyTells) {s : σ} {a : α}
    (h : (x s).result = .ok a) : ((x >>= next) s).result = (next a s).result := by
  rw [bind_of_ok _ h, Done.result_after, hx.still]

end Action.OnlyTells

/-! ## Files -/

namespace FlowFile

variable {path : FilePath} {w : World}

theorem onlyTells_load (path : FilePath) : (load path).OnlyTells := by
  have hRead : (World.readFile path).OnlyTells := .of_silent fun _ => ⟨rfl, rfl⟩
  refine (Action.OnlyTells.log (by decide)).bind fun _ => ?_
  refine (hRead.fork (fun _ => .succeed _) fun _ => .succeed _).bind fun result => ?_
  cases result with
  | ok flows => exact (Action.OnlyTells.log (by decide)).bind fun _ => .pure _
  | error e => exact (Action.OnlyTells.pure ()).bind fun _ => .pure _

/-- The file writes some flows. -/
def Writes (path : FilePath) (w : World) (flows : List FlowDefinition) : Prop :=
  (load path w).result = .ok (.ok flows)

/-- The file is rejected with an error of the definition. -/
def Rejected (path : FilePath) (w : World) : Prop :=
  ∃ e, (load path w).result = .ok (.error e) ∧ ∀ f, e ≠ .failure f

/-- One of the documents that the file holds writes no flow. -/
def RejectsDocument (path : FilePath) (w : World) : Prop :=
  ∃ documents e, Holds path w documents ∧ .error e ∈ Source.readings path.text 0 documents

/-- A file with such a document writes no flows at all. -/
theorem not_writes_of_document (h : RejectsDocument path w) (flows : List FlowDefinition) :
    ¬ Writes path w flows := by
  intro hWrites
  obtain ⟨documents, e, hHolds, hMem⟩ := h
  rw [Writes, result_load] at hWrites
  obtain ⟨others, hOthers, hReadings⟩ := flowsOf_eq_ok.mp (Except.ok.inj hWrites)
  obtain ⟨text, hText, hDocuments⟩ := hHolds
  obtain ⟨_, hSame, hSameToo⟩ := hOthers
  cases hText.symm.trans hSame
  cases hDocuments.symm.trans hSameToo
  rw [hReadings] at hMem
  obtain ⟨flow, -, hOk⟩ := List.mem_map.mp hMem
  cases hOk

theorem rejected_of_document (hKnown : (∃ flows, Writes path w flows) ∨ Rejected path w)
    (h : RejectsDocument path w) : Rejected path w := by
  rcases hKnown with ⟨flows, hWrites⟩ | hRejected
  · exact (not_writes_of_document h flows hWrites).elim
  · exact hRejected

end FlowFile

namespace Registry

open FlowFile

variable {w : World}

theorem onlyTells_ofPaths (paths : List FilePath) : (ofPaths paths).OnlyTells := by
  induction paths with
  | nil => exact .succeed _
  | cons path rest ih =>
      refine (onlyTells_load path).bind fun result => ?_
      cases result with
      | error e => exact .pure _
      | ok flows =>
          refine ih.bind fun others => ?_
          cases others with
          | error e => exact .pure _
          | ok flows => exact .pure _

/-- What comes of a first file that writes flows, and of the others. -/
theorem result_ofPaths_cons {path : FilePath} {flows : List FlowDefinition}
    {result : Except Source.Error (List FlowDefinition)} {rest : List FilePath}
    (hFirst : Writes path w flows) (hRest : (ofPaths rest w).result = .ok result) :
    (ofPaths (path :: rest) w).result = .ok (result.map (flows ++ ·)) := by
  refine ((onlyTells_load path).result_bind hFirst).trans ?_
  refine ((onlyTells_ofPaths rest).result_bind hRest).trans ?_
  cases result <;> rfl

/-- The flows of all files, in the order of the files. -/
theorem result_ofPaths {paths : List FilePath} {parts : List (List FlowDefinition)}
    (h : List.Forall₂ (fun path flows => Writes path w flows) paths parts) :
    (ofPaths paths w).result = .ok (.ok parts.flatten) := by
  induction h with
  | nil => rfl
  | cons first _ ih =>
      rw [result_ofPaths_cons first ih]
      rfl

/-- One file that is rejected is enough, wherever it stands. -/
theorem ofPaths_rejected {paths : List FilePath}
    (hKnown : ∀ path ∈ paths, (∃ flows, Writes path w flows) ∨ Rejected path w)
    (h : ∃ path ∈ paths, Rejected path w) :
    ∃ e, (ofPaths paths w).result = .ok (.error e) ∧ ∀ f, e ≠ .failure f := by
  induction paths with
  | nil =>
      obtain ⟨_, hMem, -⟩ := h
      cases hMem
  | cons path rest ih =>
      obtain ⟨hFirst, hRest⟩ := List.forall_mem_cons.mp hKnown
      rcases hFirst with ⟨flows, hWrites⟩ | ⟨e, hLoad, hDefinition⟩
      · have hLater : ∃ path ∈ rest, Rejected path w := by
          obtain ⟨other, hMem, e, hLoad, hDefinition⟩ := h
          rcases List.mem_cons.mp hMem with rfl | hMem
          · cases hWrites.symm.trans hLoad
          · exact ⟨other, hMem, e, hLoad, hDefinition⟩
        obtain ⟨e, hResult, hDefinition⟩ := ih hRest hLater
        exact ⟨e, result_ofPaths_cons hWrites hResult, hDefinition⟩
      · refine ⟨e, ?_, hDefinition⟩
        exact (onlyTells_load path).result_bind hLoad

end Registry

/-! ## Names -/

namespace CommandLine

variable {only : Option String} {name : String}

/-- A name that is asked for: what is left of a part of the list, between commas, without the blanks
around it. Nothing is asked for by a blank part. -/
def Asks (only : Option String) (name : String) : Prop :=
  name ≠ "" ∧ ∃ text, only = some text ∧ ∃ part ∈ text.splitOn ",", Text.trim part = name

theorem mem_flowNames : name ∈ flowNames only ↔ Asks only name := by
  cases only with
  | none => simp [flowNames, Asks]
  | some text => simp [flowNames, Asks, and_comm]

instance : Decidable (Asks only name) := decidable_of_iff _ mem_flowNames

theorem exists_asks_iff : (∃ name, Asks only name) ↔ flowNames only ≠ [] := by
  constructor
  · rintro ⟨name, hAsks⟩
    exact List.ne_nil_of_mem (mem_flowNames.mpr hAsks)
  · intro hNames
    obtain ⟨name, hMem⟩ := List.exists_mem_of_ne_nil _ hNames
    exact ⟨name, mem_flowNames.mp hMem⟩

instance : Decidable (∃ name, Asks only name) := decidable_of_iff _ exists_asks_iff.symm

/-- Whether a flow is asked for: it has a name, which is. -/
def IsAsked (only : Option String) (flow : FlowDefinition) : Bool :=
  flow.name.any fun name => Asks only name

/-- The flows to run among those that are loaded: all of them if no name is asked for, or else those
that are asked for, each as often as it is there and in the same order. -/
def selection (only : Option String) (flows : List FlowDefinition) : List FlowDefinition :=
  if ∃ name, Asks only name then flows.filter (IsAsked only) else flows

theorem isNamed_flowNames (only : Option String) (flow : FlowDefinition) :
    Registry.isNamed (flowNames only) flow = IsAsked only flow := by
  rw [Registry.isNamed, IsAsked]
  congr 1
  funext name
  rw [List.contains_eq_mem, decide_eq_decide]
  exact mem_flowNames

theorem filter_flowNames (only : Option String) :
    ((flowNames only).filter fun name => !name.isEmpty) = flowNames only := by
  refine List.filter_eq_self.mpr fun name hMem => ?_
  obtain ⟨hName, -⟩ := mem_flowNames.mp hMem
  rw [Bool.not_eq_true', Bool.eq_false_iff]
  exact String.isEmpty_iff.not.mpr hName

end CommandLine

namespace Registry

open CommandLine

theorem onlyTells_select (flows : List FlowDefinition) (names : List String) :
    (select flows names : Action σ (List FlowDefinition)).OnlyTells := by
  rw [select]
  split
  · exact .pure _
  · dsimp only
    split
    · exact (Action.OnlyTells.log (by decide)).bind fun _ => .pure _
    · exact (Action.OnlyTells.pure ()).bind fun _ => .pure _

/-- The flows that are selected by the names of the command line. -/
theorem result_select (flows : List FlowDefinition) (only : Option String) (s : σ) :
    (select flows (flowNames only) s).result = .ok (selection only flows) := by
  rw [select, filter_flowNames, selection]
  have hNone : (flowNames only).isEmpty = true ↔ ¬ ∃ name, Asks only name := by
    rw [exists_asks_iff, ne_eq, not_not, List.isEmpty_iff]
  by_cases hAsks : ∃ name, Asks only name
  · rw [if_neg (fun hEmpty => hNone.mp hEmpty hAsks), if_pos hAsks,
      ← List.filter_congr fun flow _ => isNamed_flowNames only flow]
    dsimp only
    split
    · exact Action.OnlyTells.result_bind (.log (by decide)) rfl
    · rfl
  · rw [if_pos (hNone.mpr hAsks), if_neg hAsks]
    rfl

end Registry

/-! ## Credentials -/

/-- A config that needs a token and a number of a chat, one of which is given neither by itself nor by
the settings. -/
def NotifierConfig.LacksCredential (settings : Settings) : NotifierConfig → Prop
  | .telegram _ token chatId =>
      (token.getD "" = "" ∧ settings.telegramToken = "") ∨
        (chatId.getD "" = "" ∧ settings.telegramChatId = "")
  | _ => False

/-- A flow with such a config. -/
def FlowDefinition.LacksCredential (settings : Settings) (flow : FlowDefinition) : Prop :=
  ∃ config ∈ flow.notifiers, config.LacksCredential settings

namespace NotifierSet

variable {settings : Settings}

theorem orSetting_eq_empty {given : Option String} {setting : String} :
    orSetting given setting = "" ↔ given.getD "" = "" ∧ setting = "" := by
  cases given with
  | none => simp [orSetting]
  | some text =>
      rw [orSetting, Option.getD_some]
      split
      · rename_i hEmpty
        simp [String.isEmpty_iff.mp hEmpty]
      · rename_i hGiven
        simp [String.isEmpty_iff.not.mp hGiven]

/-- The check of a config finds exactly what it lacks. -/
theorem checkCredentials_eq_ok {config : NotifierConfig} :
    checkCredentials settings config = .ok () ↔ ¬ config.LacksCredential settings := by
  cases config with
  | telegram name token chatId =>
      rw [NotifierConfig.LacksCredential, ← orSetting_eq_empty, ← orSetting_eq_empty,
        checkCredentials, credentials, ← String.isEmpty_iff, ← String.isEmpty_iff]
      split
      · rename_i hToken
        simp [Except.map, hToken]
      · rename_i hToken
        split
        · rename_i hChat
          simp [Except.map, hChat]
        · rename_i hChat
          simp [Except.map, hToken, hChat]
  | _ => simp [checkCredentials, NotifierConfig.LacksCredential]

theorem forM_eq_ok_of_checked {configs : List NotifierConfig}
    (h : ∀ config ∈ configs, checkCredentials settings config = .ok ()) :
    configs.forM (checkCredentials settings) = .ok () := by
  induction configs with
  | nil => rfl
  | cons config rest ih =>
      obtain ⟨hFirst, hRest⟩ := List.forall_mem_cons.mp h
      exact bind_eq_ok.mpr ⟨(), hFirst, ih hRest⟩

end NotifierSet

/-- The check of a flow finds exactly what it lacks. -/
theorem Runner.check_eq_ok {flow : FlowDefinition} {settings : Settings} :
    (Runner.mk flow settings).check = .ok () ↔ ¬ flow.LacksCredential settings := by
  constructor
  · rintro hCheck ⟨config, hMem, hLacks⟩
    exact NotifierSet.checkCredentials_eq_ok.mp (NotifierSet.checked_of_forM hCheck config hMem) hLacks
  · intro hNone
    refine NotifierSet.forM_eq_ok_of_checked fun config hMem => ?_
    exact NotifierSet.checkCredentials_eq_ok.mpr fun hLacks => hNone ⟨config, hMem, hLacks⟩

namespace CommandLine

variable {settings : Settings}

theorem checkedRunners_cons (settings : Settings) (flow : FlowDefinition)
    (rest : List FlowDefinition) :
    checkedRunners settings (flow :: rest) = do
      (Runner.mk flow settings).check
      let others ← checkedRunners settings rest
      return ⟨flow, settings⟩ :: others := by
  rw [checkedRunners, List.mapM_cons]
  cases hCheck : (Runner.mk flow settings).check with
  | error f => simp only [hCheck, bind, Except.bind]
  | ok _ => simp only [hCheck, bind, Except.bind, pure, Except.pure]; rfl

/-- The runners of flows, none of which lacks a credential. -/
theorem checkedRunners_eq_ok {flows : List FlowDefinition}
    (h : ∀ flow ∈ flows, ¬ flow.LacksCredential settings) :
    checkedRunners settings flows = .ok (flows.map fun flow => ⟨flow, settings⟩) := by
  induction flows with
  | nil => rfl
  | cons flow rest ih =>
      obtain ⟨hFirst, hRest⟩ := List.forall_mem_cons.mp h
      rw [checkedRunners_cons, Runner.check_eq_ok.mpr hFirst, ih hRest]
      rfl

/-- One flow that lacks a credential is enough, wherever it stands. -/
theorem checkedRunners_error {flows : List FlowDefinition}
    (h : ∃ flow ∈ flows, flow.LacksCredential settings) :
    ∃ f, checkedRunners settings flows = .error f := by
  induction flows with
  | nil =>
      obtain ⟨_, hMem, -⟩ := h
      cases hMem
  | cons flow rest ih =>
      rw [checkedRunners_cons]
      cases hCheck : (Runner.mk flow settings).check with
      | error f => exact ⟨f, rfl⟩
      | ok _ =>
          have hRest : ∃ other ∈ rest, other.LacksCredential settings := by
            obtain ⟨other, hMem, hLacks⟩ := h
            rcases List.mem_cons.mp hMem with rfl | hMem
            · exact (Runner.check_eq_ok.mp hCheck hLacks).elim
            · exact ⟨other, hMem, hLacks⟩
          obtain ⟨f, hError⟩ := ih hRest
          rw [hError]
          exact ⟨f, rfl⟩

/-! ## Loading as a whole -/

variable {a : Arguments} {w : World}

theorem onlyTells_load (settings : Settings) (a : Arguments) : (load settings a).OnlyTells := by
  refine (Registry.onlyTells_ofPaths _).bind fun result => ?_
  split
  · exact .fail _
  · exact .pure _
  · refine (Registry.onlyTells_select _ _).bind fun selected => ?_
    split
    · exact .pure _
    · exact .pure _

/-- The files of the command line write flows, each some of its own. -/
def FilesWrite (a : Arguments) (w : World) (parts : List (List FlowDefinition)) : Prop :=
  List.Forall₂ (fun file flows => FlowFile.Writes (.ofText file) w flows) a.files parts

/-- A file that is rejected ends the loading with a reason. -/
theorem load_rejected
    (hKnown : ∀ file ∈ a.files, (∃ flows, FlowFile.Writes (.ofText file) w flows) ∨
      FlowFile.Rejected (.ofText file) w)
    (h : ∃ file ∈ a.files, FlowFile.Rejected (.ofText file) w) :
    ∃ reason, (load settings a w).result = .ok (.error reason) := by
  obtain ⟨file, hMem, hRejected⟩ := h
  obtain ⟨e, hPaths, hDefinition⟩ :=
    Registry.ofPaths_rejected (List.forall_mem_map.mpr hKnown) ⟨_, List.mem_map_of_mem hMem, hRejected⟩
  refine ⟨e.message, ((Registry.onlyTells_ofPaths _).result_bind hPaths).trans ?_⟩
  cases e with
  | failure f => exact (hDefinition f rfl).elim
  | _ => rfl

variable {parts : List (List FlowDefinition)}

/-- With all files loaded, loading goes on with the selected flows. -/
theorem result_load_of_writes (h : FilesWrite a w parts) :
    (load settings a w).result =
      match checkedRunners settings (selection a.only parts.flatten) with
      | .error f => .ok (.error f.text)
      | .ok runners => .ok (.ok runners) := by
  have hPaths := Registry.result_ofPaths (List.forall₂_map_left_iff.mpr h)
  refine ((Registry.onlyTells_ofPaths _).result_bind hPaths).trans ?_
  refine ((Registry.onlyTells_select _ _).result_bind (Registry.result_select _ _ w)).trans ?_
  cases checkedRunners settings (selection a.only parts.flatten) <;> rfl

end CommandLine

end Flowline
