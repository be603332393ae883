import Flowline.Proofs.Flow.Accepted
import Flowline.Proofs.Interpreter.Dispatch
import Flowline.Proofs.Notifier.Build

/-!
References in a flow. A flow whose fields are valid is accepted exactly if the names in it lead where
they should, however deep the steps are that use them. Otherwise there is one error that comes first: of
the names of notifiers, then of the targets of chains, then of the steps in depth-first order; and this
one is reported.
-/

namespace Flowline

namespace Step

/-! ## Trees of steps -/

/-- A step stands in a list or, however deep, in a list that one of its steps holds. -/
inductive Inside (step : Step) : List Step → Prop where
  | here {steps : List Step} (mem : step ∈ steps) : Inside step steps
  | deeper {steps held : List Step} {holder : Step} (mem : holder ∈ steps)
      (holds : held ∈ holder.childLists) (inside : Inside step held) : Inside step steps

/-- The first step of a tree with a property. Depth first, a step comes before all that is in the lists
that it holds, and these come in order before the steps that follow it. -/
inductive FirstWith (P : Step → Prop) (found : Step) : List Step → Prop where
  | here {rest : List Step} (has : P found) : FirstWith P found (found :: rest)
  | deeper {holder : Step} {rest held : List Step} {before after : List (List Step)}
      (lacks : ¬ P holder) (lists : holder.childLists = before ++ held :: after)
      (clear : ∀ steps ∈ before, ∀ d : Step, d.Inside steps → ¬ P d)
      (first : FirstWith P found held) : FirstWith P found (holder :: rest)
  | later {step : Step} {rest : List Step} (clear : ∀ d : Step, d.Inside [step] → ¬ P d)
      (first : FirstWith P found rest) : FirstWith P found (step :: rest)

/-- A list that a step holds is one to which its own part can lead. -/
theorem exists_nested_of_mem_childLists {step : Step} {held : List Step}
    (h : held ∈ step.childLists) : ∃ next, step.nested next = held := by
  cases step with
  | compareVar inputVar compareWith compareFor ifTrue ifFalse =>
      rcases List.mem_cons.mp h with rfl | hRest
      · exact ⟨.arm true, rfl⟩
      · rw [List.mem_singleton.mp hRest]
        exact ⟨.arm false, rfl⟩
  | abortFlow => cases h
  | debugState => cases h
  | sleep duration => cases h
  | setVariable outputVar value => cases h
  | _ =>
      rw [List.mem_singleton.mp h]
      exact ⟨.fallback, rfl⟩

/-- Induction on a list of steps and on all lists that its steps hold. -/
theorem tree_induction {P : List Step → Prop} (nil : P [])
    (cons : ∀ step rest, (∀ held ∈ step.childLists, P held) → P rest → P (step :: rest))
    (steps : List Step) : P steps := by
  induction steps using nested_induction with
  | nil => exact nil
  | cons step rest ihNested ihRest =>
      refine cons step rest (fun held hHeld => ?_) ihRest
      obtain ⟨next, rfl⟩ := exists_nested_of_mem_childLists hHeld
      exact ihNested next

/-- The walk visits a step, then each list that it holds, then what follows. -/
theorem walk_cons (step : Step) (rest : List Step) :
    walk (step :: rest) = step :: (step.childLists.flatMap walk ++ walk rest) := by
  cases step <;> simp [walk, withDescendants, childLists]

/-- The walk visits what stands in the tree and nothing else. -/
theorem mem_walk_iff {step : Step} {steps : List Step} : step ∈ walk steps ↔ step.Inside steps := by
  constructor
  · intro h
    induction steps using tree_induction with
    | nil => cases h
    | cons first rest ihHeld ihRest =>
        rw [walk_cons] at h
        rcases List.mem_cons.mp h with rfl | hBelow
        · exact .here List.mem_cons_self
        · rcases List.mem_append.mp hBelow with hHeld | hRest
          · obtain ⟨held, hMem, hWalk⟩ := List.mem_flatMap.mp hHeld
            exact .deeper List.mem_cons_self hMem (ihHeld held hMem hWalk)
          · cases ihRest hRest with
            | here mem => exact .here (List.mem_cons_of_mem first mem)
            | deeper mem holds inside => exact .deeper (List.mem_cons_of_mem first mem) holds inside
  · have hWalk {holder : Step} {steps : List Step} (hMem : holder ∈ steps) :
        ∀ d ∈ holder :: holder.childLists.flatMap walk, d ∈ walk steps := by
      obtain ⟨before, after, rfl⟩ := List.append_of_mem hMem
      intro d hHeld
      rw [walk_append, walk_cons]
      exact List.mem_append_right _ (List.mem_append_left (walk after) hHeld)
    intro h
    induction h with
    | here mem => exact hWalk mem _ List.mem_cons_self
    | deeper mem holds inside ih =>
        exact hWalk mem _ (List.mem_cons_of_mem _ (List.mem_flatMap.mpr ⟨_, holds, ih⟩))

section

variable {ε : Type} {f : Step → Option ε} {steps : List Step} {e : ε}

theorem findSome?_flatMap {α β : Type} (lists : List α) (items : α → List β) (g : β → Option ε) :
    (lists.flatMap items).findSome? g = lists.findSome? fun a => (items a).findSome? g := by
  induction lists with
  | nil => rfl
  | cons a rest ih =>
      rw [List.flatMap_cons, List.findSome?_append, List.findSome?_cons, ih]
      cases (items a).findSome? g <;> rfl

/-- What is looked for along the walk is found in a step, or else below it, or else after it. -/
theorem findSome?_walk_cons (step : Step) (rest : List Step) :
    (walk (step :: rest)).findSome? f =
      (f step).or ((step.childLists.findSome? fun held => (walk held).findSome? f).or
        ((walk rest).findSome? f)) := by
  rw [walk_cons, List.findSome?_cons, List.findSome?_append, findSome?_flatMap]
  cases f step <;> rfl

theorem findSome?_walk_eq_none :
    (walk steps).findSome? f = none ↔ ∀ d : Step, d.Inside steps → ¬ (f d).isSome := by
  rw [List.findSome?_eq_none_iff]
  refine forall_congr' fun d => ?_
  rw [mem_walk_iff, Option.not_isSome_iff_eq_none]

/-- The walk finds something first where the tree has it first. -/
theorem findSome?_walk_eq_some :
    (walk steps).findSome? f = some e ↔
      ∃ found, FirstWith (fun d => (f d).isSome) found steps ∧ f found = some e := by
  constructor
  · intro h
    induction steps using tree_induction with
    | nil => cases h
    | cons step rest ihHeld ihRest =>
        rw [findSome?_walk_cons] at h
        rcases Option.or_eq_some_iff.mp h with hHere | ⟨hLacks, h⟩
        · exact ⟨step, .here (Option.isSome_of_eq_some hHere), hHere⟩
        have hNot : ¬ (f step).isSome := by rw [hLacks]; exact Bool.false_ne_true
        rcases Option.or_eq_some_iff.mp h with hBelow | ⟨hClear, hRest⟩
        · obtain ⟨before, held, after, hLists, hFirst, hBefore⟩ :=
            List.findSome?_eq_some_iff.mp hBelow
          have hMem : held ∈ step.childLists := by
            rw [hLists]
            exact List.mem_append_right _ List.mem_cons_self
          obtain ⟨found, hFound, hError⟩ := ihHeld held hMem hFirst
          refine ⟨found, .deeper hNot hLists (fun steps hSteps => ?_) hFound, hError⟩
          exact findSome?_walk_eq_none.mp (hBefore steps hSteps)
        · obtain ⟨found, hFound, hError⟩ := ihRest hRest
          refine ⟨found, .later ?_ hFound, hError⟩
          refine findSome?_walk_eq_none.mp ?_
          rw [findSome?_walk_cons, hLacks, hClear]
          rfl
  · rintro ⟨found, hFirst, hError⟩
    induction hFirst with
    | here has => rw [findSome?_walk_cons, hError]; rfl
    | @deeper holder rest held before after lacks lists clear first ih =>
        have hBefore : before.findSome? (fun held => (walk held).findSome? f) = none :=
          List.findSome?_eq_none_iff.mpr fun steps hSteps =>
            findSome?_walk_eq_none.mpr (clear steps hSteps)
        rw [findSome?_walk_cons, Option.not_isSome_iff_eq_none.mp lacks, lists,
          List.findSome?_append, hBefore, List.findSome?_cons, ih]
        rfl
    | @later step rest clear first ih =>
        have hClear := findSome?_walk_eq_none.mpr clear
        rw [findSome?_walk_cons, Option.or_eq_none_iff, Option.or_eq_none_iff] at hClear
        rw [findSome?_walk_cons, hClear.1, hClear.2.1, ih]
        rfl

end

/-- A step that notifies, but names none of some configs. -/
def NamesNone (configs : List NotifierConfig) (step : Step) : Prop :=
  ∃ name template retry fallback, step = .notify name template retry fallback ∧
    ∀ config ∈ configs, config.name ≠ name

theorem notifierError?_eq_some {configs : List NotifierConfig} {step : Step} {e : ReferenceError} :
    step.notifierError? configs = some e ↔
      ∃ name template retry fallback, step = .notify name template retry fallback ∧
        (∀ config ∈ configs, config.name ≠ name) ∧ e = .unknownNotifier name := by
  constructor
  · intro h
    cases step with
    | notify name template retry fallback =>
        rw [notifierError?] at h
        split at h
        · cases h
        · rename_i hNone
          cases h
          refine ⟨name, template, retry, fallback, rfl, fun config hMem hName => hNone ?_, rfl⟩
          exact List.any_eq_true.mpr ⟨config, hMem, decide_eq_true hName⟩
    | _ => cases h
  · rintro ⟨name, template, retry, fallback, rfl, hNone, rfl⟩
    rw [notifierError?, if_neg]
    intro hAny
    obtain ⟨config, hMem, hName⟩ := List.any_eq_true.mp hAny
    exact hNone config hMem (of_decide_eq_true hName)

theorem isSome_notifierError? {configs : List NotifierConfig} {step : Step} :
    (step.notifierError? configs).isSome ↔ step.NamesNone configs := by
  rw [Option.isSome_iff_exists]
  simp only [notifierError?_eq_some]
  constructor
  · rintro ⟨e, name, template, retry, fallback, hStep, hNone, -⟩
    exact ⟨name, template, retry, fallback, hStep, hNone⟩
  · rintro ⟨name, template, retry, fallback, hStep, hNone⟩
    exact ⟨_, name, template, retry, fallback, hStep, hNone, rfl⟩

end Step

/-! ## Names of notifiers -/

theorem firstDuplicate?_eq_none {seen names : List String} :
    firstDuplicate? seen names = none ↔ names.Nodup ∧ ∀ name ∈ names, name ∉ seen := by
  refine ⟨nodup_of_firstDuplicate?, ?_⟩
  rintro ⟨hNodup, hUnseen⟩
  induction names generalizing seen with
  | nil => rfl
  | cons name rest ih =>
      obtain ⟨hFresh, hRest⟩ := List.nodup_cons.mp hNodup
      obtain ⟨hName, hUnseenRest⟩ := List.forall_mem_cons.mp hUnseen
      rw [firstDuplicate?, if_neg fun hSeen => hName (List.contains_iff_mem.mp hSeen)]
      refine ih hRest fun other hMem hSeen => ?_
      rcases List.mem_cons.mp hSeen with rfl | hSeen
      · exact hFresh hMem
      · exact hUnseenRest other hMem hSeen

/-- The first name that is there already, among those seen earlier or in front of it. -/
theorem firstDuplicate?_eq_some {seen names : List String} {name : String} :
    firstDuplicate? seen names = some name ↔
      ∃ before after, names = before ++ name :: after ∧ before.Nodup ∧
        (∀ other ∈ before, other ∉ seen) ∧ (name ∈ seen ∨ name ∈ before) := by
  induction names generalizing seen with
  | nil => simp [firstDuplicate?]
  | cons first rest ih =>
      rw [firstDuplicate?]
      by_cases hSeen : first ∈ seen
      · rw [if_pos (List.contains_iff_mem.mpr hSeen)]
        constructor
        · intro h
          cases h
          exact ⟨[], rest, rfl, List.nodup_nil, List.forall_mem_nil _, .inl hSeen⟩
        · rintro ⟨before, after, hNames, -, hUnseen, -⟩
          cases before with
          | nil =>
              cases hNames
              rfl
          | cons head tail =>
              cases hNames
              exact absurd hSeen (hUnseen first List.mem_cons_self)
      · rw [if_neg fun h => hSeen (List.contains_iff_mem.mp h), ih]
        constructor
        · rintro ⟨before, after, rfl, hNodup, hUnseen, hAgain⟩
          have hFresh : first ∉ before := fun hMem => hUnseen first hMem List.mem_cons_self
          refine ⟨first :: before, after, rfl, List.nodup_cons.mpr ⟨hFresh, hNodup⟩, ?_, ?_⟩
          · refine List.forall_mem_cons.mpr ⟨hSeen, fun other hMem hOther => ?_⟩
            exact hUnseen other hMem (List.mem_cons_of_mem first hOther)
          · rcases hAgain with hAgain | hAgain
            · rcases List.mem_cons.mp hAgain with rfl | hAgain
              · exact .inr List.mem_cons_self
              · exact .inl hAgain
            · exact .inr (List.mem_cons_of_mem first hAgain)
        · rintro ⟨before, after, hNames, hNodup, hUnseen, hAgain⟩
          cases before with
          | nil =>
              cases hNames
              rcases hAgain with hAgain | hAgain
              · exact absurd hAgain hSeen
              · cases hAgain
          | cons head tail =>
              cases hNames
              obtain ⟨hFresh, hTail⟩ := List.nodup_cons.mp hNodup
              obtain ⟨-, hUnseenTail⟩ := List.forall_mem_cons.mp hUnseen
              refine ⟨tail, after, rfl, hTail, fun other hMem hOther => ?_, ?_⟩
              · rcases List.mem_cons.mp hOther with rfl | hOther
                · exact hFresh hMem
                · exact hUnseenTail other hMem hOther
              · rcases hAgain with hAgain | hAgain
                · exact .inl (List.mem_cons_of_mem first hAgain)
                · rcases List.mem_cons.mp hAgain with rfl | hAgain
                  · exact .inl List.mem_cons_self
                  · exact .inr hAgain

namespace FlowDefinition

/-! ## Targets of chains -/

/-- A name leads to a notifier of a flow that is no chain. -/
def StandsAlone (flow : FlowDefinition) (target : String) : Prop :=
  ∃ config ∈ flow.notifiers, config.name = target ∧ config.isChain = false

/-- The targets of some configs all lead to notifiers that are no chains. -/
def ClearTargets (flow : FlowDefinition) (configs : List NotifierConfig) : Prop :=
  ∀ name targets, NotifierConfig.chain name targets ∈ configs →
    ∀ target ∈ targets, flow.StandsAlone target

/-- What is wrong with a target of a chain: there is no notifier of that name, or it is a chain. -/
inductive TargetFault (flow : FlowDefinition) (chain target : String) : ReferenceError → Prop where
  | unknown (absent : ∀ config ∈ flow.notifiers, config.name ≠ target) :
      TargetFault flow chain target (.unknownTarget chain target)
  | chain (targets : List String) (mem : NotifierConfig.chain target targets ∈ flow.notifiers) :
      TargetFault flow chain target (.chainTarget chain target)

section

variable {flow : FlowDefinition} {chain target : String}

/-- What is found by its name is a config of that name. -/
theorem of_find?_name {configs : List NotifierConfig} {config : NotifierConfig}
    (h : configs.find? (·.name = target) = some config) : config ∈ configs ∧ config.name = target :=
  ⟨List.mem_of_find?_eq_some h, by simpa using List.find?_some h⟩

/-- A config is found by its name, if no other one has it. -/
theorem find?_name_of_mem {configs : List NotifierConfig} {config : NotifierConfig}
    (hDistinct : (configs.map NotifierConfig.name).Nodup) (hMem : config ∈ configs) :
    configs.find? (·.name = config.name) = some config := by
  cases hFound : configs.find? (·.name = config.name) with
  | none => exact absurd (decide_eq_true rfl) (List.find?_eq_none.mp hFound config hMem)
  | some other =>
      obtain ⟨hOther, hName⟩ := of_find?_name hFound
      rw [List.inj_on_of_nodup_map hDistinct hOther hMem hName]

/-- A name that leads to no chain is the only way for a target to be right. -/
theorem targetError?_eq_none (hDistinct : (flow.notifiers.map NotifierConfig.name).Nodup) :
    targetError? flow.notifiers chain target = none ↔ flow.StandsAlone target := by
  rw [targetError?]
  constructor
  · intro h
    split at h
    · cases h
    · rename_i config hFound
      split at h
      · cases h
      · rename_i hPlain
        obtain ⟨hMem, hName⟩ := of_find?_name hFound
        exact ⟨config, hMem, hName, Bool.eq_false_iff.mpr hPlain⟩
  · rintro ⟨config, hMem, rfl, hPlain⟩
    rw [find?_name_of_mem hDistinct hMem]
    exact if_neg (Bool.eq_false_iff.mp hPlain)

theorem targetError?_eq_some (hDistinct : (flow.notifiers.map NotifierConfig.name).Nodup)
    {e : ReferenceError} :
    targetError? flow.notifiers chain target = some e ↔ flow.TargetFault chain target e := by
  rw [targetError?]
  constructor
  · intro h
    split at h
    · rename_i hNone
      cases h
      exact .unknown fun config hMem hName =>
        List.find?_eq_none.mp hNone config hMem (decide_eq_true hName)
    · rename_i config hFound
      obtain ⟨hMem, hName⟩ := of_find?_name hFound
      cases config with
      | chain name targets =>
          cases h
          cases hName
          exact .chain targets hMem
      | _ => cases h
  · intro h
    cases h with
    | unknown absent =>
        have hNone : flow.notifiers.find? (·.name = target) = none :=
          List.find?_eq_none.mpr fun config hMem hName =>
            absent config hMem (of_decide_eq_true hName)
        rw [hNone]
    | chain targets mem =>
        have hFound : flow.notifiers.find? (·.name = target) = some (.chain target targets) :=
          find?_name_of_mem hDistinct mem
        rw [hFound]
        rfl

/-- No target of some configs is wrong. -/
theorem targetsError?_eq_none (hDistinct : (flow.notifiers.map NotifierConfig.name).Nodup)
    {configs : List NotifierConfig} :
    (∀ config ∈ configs, config.targetsError? flow.notifiers = none) ↔ flow.ClearTargets configs := by
  constructor
  · intro h name targets hMem target hTarget
    have hNone := List.findSome?_eq_none_iff.mp (h _ hMem) target hTarget
    exact (targetError?_eq_none hDistinct).mp hNone
  · intro h config hMem
    cases config with
    | chain name targets =>
        exact List.findSome?_eq_none_iff.mpr fun target hTarget =>
          (targetError?_eq_none hDistinct).mpr (h name targets hMem target hTarget)
    | _ => rfl

/-- The first target that is wrong, in the order of the chains and of their targets. -/
theorem findSome?_targetsError? (hDistinct : (flow.notifiers.map NotifierConfig.name).Nodup)
    {configs : List NotifierConfig} {e : ReferenceError} :
    configs.findSome? (·.targetsError? flow.notifiers) = some e ↔
      ∃ before name earlier target later after,
        configs = before ++ .chain name (earlier ++ target :: later) :: after ∧
        flow.ClearTargets before ∧ (∀ other ∈ earlier, flow.StandsAlone other) ∧
        flow.TargetFault name target e := by
  rw [List.findSome?_eq_some_iff]
  constructor
  · rintro ⟨before, config, after, hConfigs, hFound, hClear⟩
    cases config with
    | chain name targets =>
        obtain ⟨earlier, target, later, rfl, hFault, hEarlier⟩ :=
          List.findSome?_eq_some_iff.mp hFound
        exact ⟨before, name, earlier, target, later, after, hConfigs,
          (targetsError?_eq_none hDistinct).mp hClear,
          fun other hMem => (targetError?_eq_none hDistinct).mp (hEarlier other hMem),
          (targetError?_eq_some hDistinct).mp hFault⟩
    | _ => cases hFound
  · rintro ⟨before, name, earlier, target, later, after, hConfigs, hClear, hEarlier, hFault⟩
    refine ⟨before, _, after, hConfigs, ?_, (targetsError?_eq_none hDistinct).mpr hClear⟩
    exact List.findSome?_eq_some_iff.mpr ⟨earlier, target, later, rfl,
      (targetError?_eq_some hDistinct).mpr hFault,
      fun other hMem => (targetError?_eq_none hDistinct).mpr (hEarlier other hMem)⟩

end

/-! ## The first error -/

/-- The error that comes first in a flow: a name of a notifier that one before it has already; if the
names are distinct, a target that leads to no notifier or to a chain; if the targets are right too, the
name of no notifier in a step. -/
inductive FirstError (flow : FlowDefinition) : ReferenceError → Prop where
  | name {before after : List NotifierConfig} {config : NotifierConfig}
      (found : flow.notifiers = before ++ config :: after)
      (distinct : (before.map NotifierConfig.name).Nodup)
      (again : ∃ other ∈ before, other.name = config.name) :
      FirstError flow (.duplicateNotifier config.name)
  | target {before after : List NotifierConfig} {name target : String}
      {earlier later : List String} {e : ReferenceError}
      (distinct : (flow.notifiers.map NotifierConfig.name).Nodup)
      (found : flow.notifiers = before ++ .chain name (earlier ++ target :: later) :: after)
      (clear : flow.ClearTargets before) (clearEarlier : ∀ other ∈ earlier, flow.StandsAlone other)
      (fault : flow.TargetFault name target e) : FirstError flow e
  | step {name template : String} {retry : RetryPolicy} {fallback : List Step}
      (distinct : (flow.notifiers.map NotifierConfig.name).Nodup)
      (clear : flow.ClearTargets flow.notifiers)
      (found : Step.FirstWith (Step.NamesNone flow.notifiers) (.notify name template retry fallback)
        (flow.steps ++ flow.uponFailure)) : FirstError flow (.unknownNotifier name)

variable {flow : FlowDefinition} {e : ReferenceError}

theorem map_firstDuplicate?_eq_some :
    (firstDuplicate? [] (flow.notifiers.map NotifierConfig.name)).map .duplicateNotifier = some e ↔
      ∃ before config after, flow.notifiers = before ++ config :: after ∧
        (before.map NotifierConfig.name).Nodup ∧ (∃ other ∈ before, other.name = config.name) ∧
        e = .duplicateNotifier config.name := by
  rw [Option.map_eq_some_iff]
  constructor
  · rintro ⟨name, hFound, rfl⟩
    obtain ⟨before, after, hNames, hNodup, -, hAgain⟩ := firstDuplicate?_eq_some.mp hFound
    obtain ⟨first, second, hConfigs, rfl, hSecond⟩ := List.map_eq_append_iff.mp hNames
    obtain ⟨config, rest, rfl, rfl, rfl⟩ := List.map_eq_cons_iff.mp hSecond
    refine ⟨first, config, rest, hConfigs, hNodup, ?_, rfl⟩
    exact List.mem_map.mp (hAgain.resolve_left List.not_mem_nil)
  · rintro ⟨before, config, after, hConfigs, hNodup, hAgain, rfl⟩
    refine ⟨config.name, firstDuplicate?_eq_some.mpr ?_, rfl⟩
    refine ⟨before.map NotifierConfig.name, after.map NotifierConfig.name, ?_, hNodup,
      fun _ _ => List.not_mem_nil, .inr (List.mem_map.mpr hAgain)⟩
    rw [hConfigs, List.map_append, List.map_cons]

theorem findSome?_notifierError? {steps : List Step} :
    (Step.walk steps).findSome? (·.notifierError? flow.notifiers) = some e ↔
      ∃ name template retry fallback,
        Step.FirstWith (Step.NamesNone flow.notifiers) (.notify name template retry fallback) steps ∧
        e = .unknownNotifier name := by
  have hNames : (fun d : Step => ((d.notifierError? flow.notifiers).isSome : Prop)) =
      Step.NamesNone flow.notifiers := funext fun d => propext Step.isSome_notifierError?
  rw [Step.findSome?_walk_eq_some, hNames]
  constructor
  · rintro ⟨found, hFirst, hError⟩
    obtain ⟨name, template, retry, fallback, rfl, -, rfl⟩ := Step.notifierError?_eq_some.mp hError
    exact ⟨name, template, retry, fallback, hFirst, rfl⟩
  · rintro ⟨name, template, retry, fallback, hFirst, rfl⟩
    have hHas : Step.NamesNone flow.notifiers (.notify name template retry fallback) := by
      clear hNames
      generalize Step.notify name template retry fallback = found at hFirst
      induction hFirst with
      | here has => exact has
      | deeper _ _ _ _ ih => exact ih
      | later _ _ ih => exact ih
    obtain ⟨_, _, _, _, hStep, hNone⟩ := hHas
    cases hStep
    exact ⟨_, hFirst, Step.notifierError?_eq_some.mpr ⟨_, _, _, _, rfl, hNone, rfl⟩⟩

/-- The check of a flow gives the error that comes first. -/
theorem referenceError?_eq_some : flow.referenceError? = some e ↔ flow.FirstError e := by
  have hDistinct : (firstDuplicate? [] (flow.notifiers.map NotifierConfig.name)).map
      ReferenceError.duplicateNotifier = none ↔ (flow.notifiers.map NotifierConfig.name).Nodup := by
    rw [Option.map_eq_none_iff, firstDuplicate?_eq_none]
    exact and_iff_left fun _ _ => List.not_mem_nil
  rw [referenceError?, Option.or_eq_some_iff, map_firstDuplicate?_eq_some, hDistinct,
    Option.or_eq_some_iff, findSome?_notifierError?, List.findSome?_eq_none_iff]
  constructor
  · rintro (⟨before, config, after, hConfigs, hNodup, hAgain, rfl⟩ | ⟨hNodup, hTarget | hStep⟩)
    · exact .name hConfigs hNodup hAgain
    · obtain ⟨before, name, earlier, target, later, after, hConfigs, hClear, hEarlier, hFault⟩ :=
        (findSome?_targetsError? hNodup).mp hTarget
      exact .target hNodup hConfigs hClear hEarlier hFault
    · obtain ⟨hTargets, name, template, retry, fallback, hFirst, rfl⟩ := hStep
      exact .step hNodup ((targetsError?_eq_none hNodup).mp hTargets) hFirst
  · intro h
    cases h with
    | name found distinct again => exact .inl ⟨_, _, _, found, distinct, again, rfl⟩
    | target distinct found clear clearEarlier fault =>
        refine .inr ⟨distinct, .inl ((findSome?_targetsError? distinct).mpr ?_)⟩
        exact ⟨_, _, _, _, _, _, found, clear, clearEarlier, fault⟩
    | step distinct clear found =>
        exact .inr ⟨distinct, .inr ⟨(targetsError?_eq_none distinct).mpr clear, _, _, _, _, found,
          rfl⟩⟩

/-- The check of a flow gives no error exactly if its names lead where they should. -/
theorem referenceError?_eq_none_iff : flow.referenceError? = none ↔ flow.Referenced := by
  refine ⟨referenced_of_no_error, fun h => ?_⟩
  rw [referenceError?, Option.or_eq_none_iff, Option.or_eq_none_iff, Option.map_eq_none_iff,
    firstDuplicate?_eq_none, List.findSome?_eq_none_iff, List.findSome?_eq_none_iff]
  refine ⟨⟨h.distinct, fun _ _ => List.not_mem_nil⟩,
    (targetsError?_eq_none h.distinct).mpr h.targets, fun step hMem => ?_⟩
  rw [Option.eq_none_iff_forall_ne_some]
  intro e hError
  obtain ⟨name, template, retry, fallback, rfl, hNone, -⟩ := Step.notifierError?_eq_some.mp hError
  obtain ⟨config, hConfig, hName⟩ := h.notified name template retry fallback hMem
  exact hNone config hConfig hName

end FlowDefinition

namespace Schema

variable {entries : Entries} {flow : FlowDefinition}

theorem flow_eq_valid (hFields : flowFields entries = .valid flow) {other : FlowDefinition} :
    Schema.flow (.map entries) = .valid other ↔ other = flow ∧ flow.referenceError? = none := by
  rw [Schema.flow, hFields]
  change wellReferenced flow = _ ↔ _
  rw [wellReferenced]
  split
  · rename_i hNone
    constructor
    · intro h
      cases h
      exact ⟨rfl, hNone⟩
    · rintro ⟨rfl, -⟩
      rfl
  · rename_i e hError
    constructor
    · intro h
      cases h
    · rintro ⟨-, hNone⟩
      cases hError.symm.trans hNone

theorem flow_eq_invalid (hFields : flowFields entries = .valid flow) {issues : List Issue} :
    Schema.flow (.map entries) = .invalid issues ↔
      ∃ e, flow.referenceError? = some e ∧ issues = [⟨[], .valueError e.message⟩] := by
  rw [Schema.flow, hFields]
  change wellReferenced flow = _ ↔ _
  rw [wellReferenced]
  split
  · rename_i hNone
    constructor
    · intro h
      cases h
    · rintro ⟨e, hError, -⟩
      cases hNone.symm.trans hError
  · rename_i e hError
    constructor
    · intro h
      cases h
      exact ⟨e, hError, rfl⟩
    · rintro ⟨other, hOther, rfl⟩
      cases hError.symm.trans hOther
      rfl

/-- A flow whose fields are valid is accepted exactly if its notifiers have distinct names, every target
of a chain leads to a notifier that is no chain, and every step that notifies, in whatever list, names a
notifier. Otherwise there is one error that comes first, and it is the only issue. -/
theorem flow_reports_first_error (hFields : flowFields entries = .valid flow) :
    (∀ other, Schema.flow (.map entries) = .valid other ↔ other = flow ∧
      (flow.notifiers.map NotifierConfig.name).Nodup ∧
      (∀ name targets, NotifierConfig.chain name targets ∈ flow.notifiers → ∀ target ∈ targets,
        ∃ config ∈ flow.notifiers, config.name = target ∧ config.isChain = false) ∧
      ∀ name template retry fallback,
        (Step.notify name template retry fallback).Inside (flow.steps ++ flow.uponFailure) →
        ∃ config ∈ flow.notifiers, config.name = name) ∧
    (∀ issues, Schema.flow (.map entries) = .invalid issues ↔
      ∃ e, flow.FirstError e ∧ issues = [⟨[], .valueError e.message⟩]) ∧
    ∀ e other, flow.FirstError e → flow.FirstError other → e = other := by
  refine ⟨fun other => ?_, fun issues => ?_, fun e other hFirst hOther => ?_⟩
  · rw [flow_eq_valid hFields, FlowDefinition.referenceError?_eq_none_iff]
    refine and_congr_right fun _ => ?_
    constructor
    · intro h
      refine ⟨h.distinct, h.targets, fun name template retry fallback hInside => ?_⟩
      exact h.notified name template retry fallback (Step.mem_walk_iff.mpr hInside)
    · rintro ⟨hDistinct, hTargets, hNotified⟩
      refine ⟨hDistinct, hTargets, fun name template retry fallback hMem => ?_⟩
      exact hNotified name template retry fallback (Step.mem_walk_iff.mp hMem)
  · simp only [flow_eq_invalid hFields, FlowDefinition.referenceError?_eq_some]
  · rw [← FlowDefinition.referenceError?_eq_some] at hFirst hOther
    exact Option.some.inj (hFirst.symm.trans hOther)

end Schema

/-! ## A chain that holds itself -/

namespace Watch

/-- The notifiers of the watch, but all of them are to be told all over again. -/
def tangledNotifiersValue : Value :=
  .list [
    .map [(.text "type", .text "chain"), (.text "name", .text "all"),
      (.text "targets", .list [.text "desk", .text "all"])],
    .map [(.text "type", .text "print"), (.text "name", .text "desk")]]

/-- The fallback calls a phone that there is not. -/
def tangledEntries : Entries :=
  [(.text "notifiers", tangledNotifiersValue), (.text "steps", stepsValue),
    (.text "upon_failure", .list [.map (noticeEntries "phone" [])])]

def tangled : FlowDefinition :=
  { flow with
    notifiers := [.chain "all" ["desk", "all"], .print "desk"]
    uponFailure := [notice "phone" []] }

theorem flowFields_tangled : Schema.flowFields tangledEntries = .valid tangled := by
  have hSteps : Schema.stepList stepsValue = .valid tangled.steps :=
    stepList_cons (step_notice stepList_fallback)
      (stepList_cons (step_visit stepList_nil) stepList_nil)
  have hFallback : Schema.stepList (.list [.map (noticeEntries "phone" [])]) =
      .valid tangled.uponFailure := stepList_cons (step_notice stepList_nil) stepList_nil
  change Schema.model _ _ (FlowDefinition.mk <$> .valid none <*> .valid none <*>
    .valid tangled.notifiers <*> (Schema.stepList stepsValue).within _ <*>
    (Schema.stepList (.list [.map (noticeEntries "phone" [])])).within _) = _
  rw [hSteps, hFallback]
  rfl

/-- The chain that holds itself is reported, after its target that is right and before the step that
names no notifier. -/
theorem flow_reports_first_error_tangled :
    Schema.flowFields tangledEntries = .valid tangled ∧
      Schema.flow (.map tangledEntries) = .invalid
        [⟨[], .valueError "chain notifier all cannot contain chain notifier all"⟩] := by
  obtain ⟨-, hIssues, -⟩ := Schema.flow_reports_first_error flowFields_tangled
  refine ⟨flowFields_tangled, (hIssues _).mpr ⟨.chainTarget "all" "all", ?_, by decide⟩⟩
  have hDesk : tangled.StandsAlone "desk" :=
    ⟨.print "desk", List.mem_cons_of_mem _ List.mem_cons_self, rfl, rfl⟩
  have hFound : tangled.notifiers =
      [] ++ .chain "all" (["desk"] ++ "all" :: []) :: [.print "desk"] := rfl
  refine .target (by decide) hFound ?_ ?_ (.chain ["desk", "all"] List.mem_cons_self)
  · exact fun _ _ hMem => absurd hMem List.not_mem_nil
  · exact List.forall_mem_singleton.mpr hDesk

end Watch

end Flowline
