import Flowline.Proofs.Action
import Flowline.Proofs.Notifier.Build
import Mathlib.Data.List.Forall2
import Mathlib.Data.List.Perm.Basic
import Mathlib.Tactic.Tauto

/-!
Delivery by the notifiers that configs set up. A set has one notifier for each config, a message to a
chain comes to the targets of that chain in turn until one of them fails, and the order of the configs
does not matter.
-/

namespace Flowline

/-- Configs whose names lead where they should: the names are different, and the targets of chains are
those of configs that are no chains. -/
structure NotifierConfig.Sound (configs : List NotifierConfig) : Prop where
  distinct : (configs.map NotifierConfig.name).Nodup
  targets : ∀ name targets, .chain name targets ∈ configs → ∀ target ∈ targets,
    ∃ config ∈ configs, config.name = target ∧ config.isChain = false

theorem FlowDefinition.Referenced.sound {flow : FlowDefinition} (h : flow.Referenced) :
    NotifierConfig.Sound flow.notifiers :=
  ⟨h.distinct, h.targets⟩

theorem NotifierConfig.Sound.perm {configs others : List NotifierConfig} (h : Sound configs)
    (hPerm : configs.Perm others) : Sound others := by
  refine ⟨(hPerm.map _).nodup_iff.mp h.distinct, fun name targets hMem target hTarget => ?_⟩
  obtain ⟨config, hConfig, hFound⟩ := h.targets name targets (hPerm.mem_iff.mpr hMem) target hTarget
  exact ⟨config, hPerm.mem_iff.mp hConfig, hFound⟩

namespace NotifierSet

variable {settings : Settings} {configs others : List NotifierConfig} {set : NotifierSet}

/-! ## Sets in which every name stands once -/

theorem put_of_fresh {name : String} {notifier : Notifier} (h : name ∉ set.names) :
    set.put name notifier = set ++ [(name, notifier)] := by
  induction set with
  | nil => rfl
  | cons entry rest ih =>
      obtain ⟨n, v⟩ := entry
      obtain ⟨hHead, hRest⟩ := List.ne_and_not_mem_of_not_mem_cons h
      rw [put, if_neg (Ne.symm hHead), ih hRest]
      rfl

theorem get?_eq_none_iff {name : String} : set.get? name = none ↔ name ∉ set.names := by
  induction set with
  | nil => exact iff_of_true rfl List.not_mem_nil
  | cons entry rest ih =>
      obtain ⟨n, v⟩ := entry
      rw [get?_cons]
      split
      · rename_i hName
        exact iff_of_false (Option.some_ne_none v) (not_not.mpr (List.mem_cons.mpr (.inl hName.symm)))
      · rename_i hName
        exact ih.trans (by simp [names, Ne.symm hName])

theorem get?_eq_some_of_mem {name : String} {notifier : Notifier} (h : set.names.Nodup)
    (hMem : (name, notifier) ∈ set) : set.get? name = some notifier := by
  induction set with
  | nil => cases hMem
  | cons entry rest ih =>
      obtain ⟨n, v⟩ := entry
      obtain ⟨hFresh, hRest⟩ := List.nodup_cons.mp h
      rw [get?_cons]
      rcases List.mem_cons.mp hMem with hHead | hTail
      · cases hHead
        rw [if_pos rfl]
      · have hName : n ≠ name := by
          rintro rfl
          exact hFresh (List.mem_map.mpr ⟨_, hTail, rfl⟩)
        rw [if_neg hName, ih hRest hTail]

theorem get?_append_of_some {name : String} {notifier : Notifier} {added : NotifierSet}
    (h : set.get? name = some notifier) : (set ++ added : NotifierSet).get? name = some notifier := by
  rw [get?] at h ⊢
  rw [List.lookup_append, h]
  rfl

/-! ## What a config sets up -/

/-- The notifier of a name among configs, if it stands alone. -/
def Stands (settings : Settings) (configs : List NotifierConfig) (name : String)
    (notifier : Notifier) : Prop :=
  ∃ config ∈ configs, config.name = name ∧ plainNotifier? settings config = .ok (some notifier)

/-- The notifier that a config sets up among others: alone, or as a chain of those that its targets
set up, in the order of the targets. -/
inductive Serves (settings : Settings) (configs : List NotifierConfig) :
    NotifierConfig → Notifier → Prop
  | alone {config : NotifierConfig} {notifier : Notifier}
      (h : plainNotifier? settings config = .ok (some notifier)) :
      Serves settings configs config notifier
  | chain {name : String} {targets : List String} {members : List Notifier}
      (h : List.Forall₂ (Stands settings configs) targets members) :
      Serves settings configs (.chain name targets) (.chain (some name) members)

theorem isChain_of_plainNotifier? {config : NotifierConfig} {notifier : Notifier}
    (h : plainNotifier? settings config = .ok (some notifier)) : notifier.isChain = false := by
  cases config with
  | telegram name token chatId =>
      obtain ⟨_, -, hRest⟩ := bind_eq_ok.mp h
      obtain ⟨_, -, hLast⟩ := bind_eq_ok.mp hRest
      cases hLast
      rfl
  | _ => cases h <;> rfl

theorem Stands.unique (hDistinct : (configs.map NotifierConfig.name).Nodup) {name : String}
    {notifier other : Notifier} (h : Stands settings configs name notifier)
    (hOther : Stands settings configs name other) : notifier = other := by
  obtain ⟨config, hMem, rfl, hPlain⟩ := h
  obtain ⟨found, hFound, hName, hSame⟩ := hOther
  obtain rfl := List.inj_on_of_nodup_map hDistinct hFound hMem hName
  cases hPlain.symm.trans hSame
  rfl

theorem Serves.unique (hDistinct : (configs.map NotifierConfig.name).Nodup)
    {config : NotifierConfig} {notifier other : Notifier}
    (h : Serves settings configs config notifier) (hOther : Serves settings configs config other) :
    notifier = other := by
  cases h with
  | alone hPlain =>
      cases hOther with
      | alone hSame =>
          cases hPlain.symm.trans hSame
          rfl
      | chain _ => cases hPlain
  | chain hMembers =>
      cases hOther with
      | alone hPlain => cases hPlain
      | chain hOthers =>
          have hUnique : Relator.RightUnique (Stands settings configs) :=
            fun _ _ _ hOne hTwo => hOne.unique hDistinct hTwo
          rw [List.right_unique_forall₂' hUnique hMembers hOthers]

/-- The order of the configs does not matter for what one of them sets up. -/
theorem Serves.perm (hPerm : configs.Perm others) {config : NotifierConfig} {notifier : Notifier}
    (h : Serves settings configs config notifier) : Serves settings others config notifier := by
  cases h with
  | alone hPlain => exact .alone hPlain
  | chain hMembers =>
      refine .chain (hMembers.imp fun name found hStands => ?_)
      obtain ⟨config, hMem, hFound⟩ := hStands
      exact ⟨config, hPerm.mem_iff.mp hMem, hFound⟩

/-! ## The set that is built -/

/-- An entry of a set that a config is the reason for. -/
def IsEntry (settings : Settings) (configs : List NotifierConfig) (config : NotifierConfig)
    (entry : String × Notifier) : Prop :=
  entry.1 = config.name ∧ Serves settings configs config entry.2

theorem names_of_isEntry {chosen : List NotifierConfig} {entries : NotifierSet}
    (h : List.Forall₂ (IsEntry settings configs) chosen entries) :
    entries.names = chosen.map NotifierConfig.name := by
  induction h with
  | nil => rfl
  | cons hHead _ ih => exact congrArg₂ List.cons hHead.1 ih

theorem exists_mem_of_isEntry {chosen : List NotifierConfig} {entries : NotifierSet}
    (h : List.Forall₂ (IsEntry settings configs) chosen entries) :
    ∀ config ∈ chosen, ∃ notifier, Serves settings configs config notifier ∧
      (config.name, notifier) ∈ entries := by
  induction h with
  | nil => exact List.forall_mem_nil _
  | @cons config entry _ _ hHead _ ih =>
      refine List.forall_mem_cons.mpr ⟨⟨entry.2, hHead.2, ?_⟩, fun other hMem => ?_⟩
      · rw [← hHead.1]
        exact List.mem_cons_self
      · obtain ⟨notifier, hServes, hFound⟩ := ih other hMem
        exact ⟨notifier, hServes, List.mem_cons_of_mem _ hFound⟩

/-- In a set with different names each config finds what it sets up. -/
theorem get?_of_isEntry {chosen : List NotifierConfig} {entries : NotifierSet}
    (h : List.Forall₂ (IsEntry settings configs) chosen entries)
    (hDistinct : (chosen.map NotifierConfig.name).Nodup) :
    ∀ config ∈ chosen, ∃ notifier, Serves settings configs config notifier ∧
      entries.get? config.name = some notifier := by
  intro config hConfig
  obtain ⟨notifier, hServes, hFound⟩ := exists_mem_of_isEntry h config hConfig
  exact ⟨notifier, hServes, get?_eq_some_of_mem (names_of_isEntry h ▸ hDistinct) hFound⟩

theorem not_mem_names_append {name other : String} {notifier : Notifier} (hOld : other ∉ set.names)
    (hNew : other ≠ name) : other ∉ names (set ++ [(name, notifier)]) := by
  rw [names, List.map_append, List.mem_append]
  exact not_or.mpr ⟨hOld, fun hMem => hNew (List.mem_singleton.mp hMem)⟩

theorem name_ne_of_distinct {config : NotifierConfig} {rest : List NotifierConfig}
    (h : ((config :: rest).map NotifierConfig.name).Nodup) :
    ∀ other ∈ rest, other.name ≠ config.name := by
  intro other hMem hName
  exact (List.nodup_cons.mp h).1 (hName ▸ List.mem_map_of_mem hMem)

/-- What stands alone comes behind what is there, in the order of the configs. -/
theorem withPlain_eq_append (configs : List NotifierConfig) (set : NotifierSet)
    {rest : List NotifierConfig}
    (hChecked : ∀ config ∈ rest, checkCredentials settings config = .ok ())
    (hDistinct : (rest.map NotifierConfig.name).Nodup)
    (hFresh : ∀ config ∈ rest, config.name ∉ set.names) :
    ∃ entries, withPlain settings set rest = .ok (set ++ entries) ∧
      List.Forall₂ (IsEntry settings configs) (rest.filter (!·.isChain)) entries := by
  induction rest generalizing set with
  | nil => exact ⟨[], by rw [List.append_nil]; rfl, .nil⟩
  | cons config rest ih =>
      obtain ⟨hHead, hRest⟩ := List.forall_mem_cons.mp hChecked
      obtain ⟨hFreshHead, hFreshRest⟩ := List.forall_mem_cons.mp hFresh
      have hTail := (List.nodup_cons.mp hDistinct).2
      cases hKind : config.isChain with
      | true =>
          have hNone : plainNotifier? settings config = .ok none := by
            cases config <;> first | rfl | cases hKind
          rw [List.filter_cons_of_neg (by rw [hKind]; decide), withPlain, hNone]
          exact ih set hRest hTail hFreshRest
      | false =>
          obtain ⟨notifier, hNew, -⟩ := plainNotifier?_of_checked hHead hKind
          obtain ⟨entries, hSet, hEntries⟩ := ih _ hRest hTail fun other hMem =>
            not_mem_names_append (hFreshRest other hMem) (name_ne_of_distinct hDistinct other hMem)
          refine ⟨(config.name, notifier) :: entries, ?_, ?_⟩
          · rw [withPlain, hNew]
            change withPlain settings (set.put config.name notifier) rest = _
            rw [put_of_fresh hFreshHead, hSet, List.append_assoc]
            rfl
          · rw [List.filter_cons_of_pos (by rw [hKind]; rfl)]
            exact .cons ⟨rfl, .alone hNew⟩ hEntries

/-- The members of a chain are what its targets set up alone. -/
theorem mapM_member_of_stands (chain : String) {targets : List String}
    (hStanding : ∀ name notifier, Stands settings configs name notifier →
      set.get? name = some notifier)
    (hTargets : ∀ target ∈ targets, ∃ notifier, Stands settings configs target notifier) :
    ∃ members, targets.mapM (member set chain) = .ok members ∧
      List.Forall₂ (Stands settings configs) targets members := by
  induction targets with
  | nil => exact ⟨[], rfl, .nil⟩
  | cons target rest ih =>
      obtain ⟨⟨notifier, hStands⟩, hRest⟩ := List.forall_mem_cons.mp hTargets
      obtain ⟨members, hMembers, hAll⟩ := ih hRest
      have hMember : member set chain target = .ok notifier := by
        obtain ⟨config, -, -, hPlain⟩ := id hStands
        rw [member, hStanding target notifier hStands]
        exact if_neg (Bool.eq_false_iff.mp (isChain_of_plainNotifier? hPlain))
      exact ⟨notifier :: members, mapM_cons_eq_ok.mpr ⟨notifier, hMember, members, hMembers, rfl⟩,
        .cons hStands hAll⟩

/-- Chains come behind what is there, in the order of the configs. No chain takes the place of what
stands alone, so the targets of all of them are found where they were. -/
theorem withChains_eq_append {rest : List NotifierConfig}
    (hStanding : ∀ name notifier, Stands settings configs name notifier →
      set.get? name = some notifier)
    (hTargets : ∀ name targets, .chain name targets ∈ rest → ∀ target ∈ targets,
      ∃ notifier, Stands settings configs target notifier)
    (hDistinct : (rest.map NotifierConfig.name).Nodup)
    (hFresh : ∀ config ∈ rest, config.isChain = true → config.name ∉ set.names) :
    ∃ entries, withChains set rest = .ok (set ++ entries) ∧
      List.Forall₂ (IsEntry settings configs) (rest.filter (·.isChain)) entries := by
  induction rest generalizing set with
  | nil => exact ⟨[], by rw [List.append_nil]; rfl, .nil⟩
  | cons config rest ih =>
      have hTargetsRest := fun name targets hMem =>
        hTargets name targets (List.mem_cons_of_mem config hMem)
      obtain ⟨hFreshHead, hFreshRest⟩ := List.forall_mem_cons.mp hFresh
      have hTail := (List.nodup_cons.mp hDistinct).2
      cases hKind : config.isChain with
      | false =>
          have hSkip : withChains set (config :: rest) = withChains set rest := by
            cases config <;> first | rfl | cases hKind
          rw [List.filter_cons_of_neg (by rw [hKind]; decide), hSkip]
          exact ih hStanding hTargetsRest hTail hFreshRest
      | true =>
          cases config with
          | chain name targets =>
              obtain ⟨members, hMembers, hAll⟩ := mapM_member_of_stands name hStanding
                (hTargets name targets List.mem_cons_self)
              let entry : String × Notifier := (name, .chain (some name) members)
              have hFreshNext : ∀ other ∈ rest, other.isChain = true →
                  other.name ∉ names (set ++ [entry]) := fun other hMem hChain =>
                not_mem_names_append (hFreshRest other hMem hChain)
                  (name_ne_of_distinct hDistinct other hMem)
              obtain ⟨entries, hSet, hEntries⟩ := ih
                (fun other found hStands => get?_append_of_some (hStanding other found hStands))
                hTargetsRest hTail hFreshNext
              have hNew : name ∉ set.names := hFreshHead rfl
              refine ⟨entry :: entries, ?_, .cons ⟨rfl, .chain hAll⟩ hEntries⟩
              rw [withChains, hMembers]
              change withChains (set.put name (.chain (some name) members)) rest = _
              rw [put_of_fresh hNew, hSet, List.append_assoc]
              rfl
          | _ => cases hKind

/-- A set of some configs: it has their names, once each, and under each name what its config sets
up. -/
structure OfConfigs (settings : Settings) (configs : List NotifierConfig) (set : NotifierSet) :
    Prop where
  names : set.names.Perm (configs.map NotifierConfig.name)
  serves : ∀ config ∈ configs, ∃ notifier, Serves settings configs config notifier ∧
    set.get? config.name = some notifier

theorem build_ofConfigs (h : NotifierConfig.Sound configs)
    (hChecked : ∀ config ∈ configs, checkCredentials settings config = .ok ()) :
    ∃ set, build settings configs = .ok set ∧ OfConfigs settings configs set := by
  obtain ⟨plain, hPlain, hAlone⟩ := withPlain_eq_append configs [] hChecked h.distinct
    fun _ _ => List.not_mem_nil
  rw [List.nil_append] at hPlain
  have hPlainDistinct := h.distinct.sublist
    ((List.filter_sublist (p := (!·.isChain))).map NotifierConfig.name)
  have hStanding : ∀ name notifier, Stands settings configs name notifier →
      plain.get? name = some notifier := by
    rintro _ notifier ⟨config, hMem, rfl, hFound⟩
    have hKind : config.isChain = false := by
      cases config <;> first | rfl | cases hFound
    have hFiltered : config ∈ configs.filter (!·.isChain) :=
      List.mem_filter.mpr ⟨hMem, congrArg not hKind⟩
    obtain ⟨found, hServes, hGet⟩ := get?_of_isEntry hAlone hPlainDistinct config hFiltered
    rw [hGet, hServes.unique h.distinct (.alone hFound)]
  have hTargets : ∀ name targets, .chain name targets ∈ configs → ∀ target ∈ targets,
      ∃ notifier, Stands settings configs target notifier := by
    intro name targets hMem target hTarget
    obtain ⟨config, hConfig, hName, hKind⟩ := h.targets name targets hMem target hTarget
    obtain ⟨notifier, hFound, -⟩ := plainNotifier?_of_checked (hChecked config hConfig) hKind
    exact ⟨notifier, config, hConfig, hName, hFound⟩
  have hFresh : ∀ config ∈ configs, config.isChain = true → config.name ∉ plain.names := by
    intro config hMem hKind hName
    rw [names_of_isEntry hAlone] at hName
    obtain ⟨other, hOther, hSame⟩ := List.mem_map.mp hName
    obtain ⟨hIn, hPlainKind⟩ := List.mem_filter.mp hOther
    obtain rfl := List.inj_on_of_nodup_map h.distinct hIn hMem hSame
    rw [hKind] at hPlainKind
    cases hPlainKind
  obtain ⟨chains, hSet, hChains⟩ := withChains_eq_append hStanding hTargets h.distinct hFresh
  have hAll := List.rel_append hAlone hChains
  have hPerm : (configs.filter (!·.isChain) ++ configs.filter (·.isChain)).Perm configs :=
    List.perm_append_comm.trans (List.filter_append_perm _ configs)
  refine ⟨plain ++ chains, ?_, ?_, fun config hMem => ?_⟩
  · rw [build, hPlain]
    exact hSet
  · rw [names_of_isEntry hAll]
    exact hPerm.map _
  · have hDistinct := (hPerm.map NotifierConfig.name).nodup_iff.mpr h.distinct
    exact get?_of_isEntry hAll hDistinct config (hPerm.mem_iff.mpr hMem)

namespace OfConfigs

variable {other : NotifierSet}

/-- A chain's members stand in the set by the names that are its targets. -/
theorem chain (h : OfConfigs settings configs set)
    (hSound : NotifierConfig.Sound configs) {name : String} {targets : List String}
    (hMem : .chain name targets ∈ configs) :
    ∃ members, set.get? name = some (.chain (some name) members) ∧
      List.Forall₂ (fun target member => set.get? target = some member) targets members := by
  obtain ⟨notifier, hServes, hFound⟩ := h.serves _ hMem
  cases hServes with
  | alone hPlain => cases hPlain
  | @chain _ _ members hMembers =>
      refine ⟨members, hFound, hMembers.imp ?_⟩
      rintro _ member ⟨config, hConfig, rfl, hPlain⟩
      obtain ⟨found, hServes, hGet⟩ := h.serves config hConfig
      rw [hGet, hServes.unique hSound.distinct (.alone hPlain)]

/-- Sets of the same configs in another order have the same notifiers. -/
theorem get?_eq (h : OfConfigs settings configs set) (hOther : OfConfigs settings others other)
    (hDistinct : (configs.map NotifierConfig.name).Nodup) (hPerm : configs.Perm others)
    (name : String) : other.get? name = set.get? name := by
  by_cases hName : name ∈ configs.map NotifierConfig.name
  · obtain ⟨config, hMem, rfl⟩ := List.mem_map.mp hName
    obtain ⟨notifier, hServes, hFound⟩ := h.serves config hMem
    obtain ⟨found, hSame, hGet⟩ := hOther.serves config (hPerm.mem_iff.mp hMem)
    rw [hFound, hGet, (hSame.perm hPerm.symm).unique hDistinct hServes]
  · have hHere := mt h.names.mem_iff.mp hName
    have hThere := mt (hOther.names.trans (hPerm.map _).symm).mem_iff.mp hName
    rw [get?_eq_none_iff.mpr hHere, get?_eq_none_iff.mpr hThere]

end OfConfigs

/-! ## Sending in turn -/

/-- Sends a message to the notifier of a name, which must be there. -/
def sendTo (set : NotifierSet) (message name : String) : Action World Unit := do
  let notifier ← Action.ofResult (set.require name)
  notifier.send message

/-- What comes of sending a message to the notifiers of some names in turn. The first failure ends it
as it is; what was delivered before it stays delivered, and the names behind it get nothing. -/
inductive SentInTurn (set : NotifierSet) (message : String) :
    List String → World → Done World Unit → Prop
  | all (w : World) : SentInTurn set message [] w ⟨.ok (), [], w⟩
  | stopped {name : String} {rest : List String} {w : World} {f : Failure}
      (h : (set.sendTo message name w).result = .error f) :
      SentInTurn set message (name :: rest) w (set.sendTo message name w)
  | delivered {name : String} {rest : List String} {w : World} {d : Done World Unit}
      (h : (set.sendTo message name w).result = .ok ())
      (hRest : SentInTurn set message rest (set.sendTo message name w).state d) :
      SentInTurn set message (name :: rest) w (d.after (set.sendTo message name w).events)

theorem sendTo_congr {other : NotifierSet} {name : String} (h : other.get? name = set.get? name)
    (message : String) : other.sendTo message name = set.sendTo message name := by
  rw [sendTo, sendTo, require, require, h]

theorem sendTo_of_get? {message name : String} {notifier : Notifier}
    (h : set.get? name = some notifier) : set.sendTo message name = notifier.send message := by
  rw [sendTo, require_eq_ok h]
  exact Action.pure_bind notifier _

/-- The members of a chain get a message one after another, as if each was told by its name; the chain
itself adds nothing but logs. The number of a member is no more than what the logs tell. -/
theorem sentInTurn_sendToAll {message : String} {targets : List String} {members : List Notifier}
    (h : List.Forall₂ (fun target member => set.get? target = some member) targets members)
    (index : Nat) (w : World) :
    ∃ d, set.SentInTurn message targets w d ∧
      (Notifier.sendToAll message index members w).quiet = d.quiet := by
  induction h generalizing index w with
  | nil => exact ⟨_, .all w, rfl⟩
  | @cons target member targets members hHead _ ih =>
      have hSend : set.sendTo message target = member.send message := sendTo_of_get? hHead
      have hTold : (Notifier.sendToAll message index (member :: members) w).quiet =
          ((member.send message >>= fun _ => Notifier.sendToAll message (index + 1) members)
            w).quiet := by
        rw [Notifier.sendToAll, Action.quiet_bind_of_ok _ rfl]
        exact Done.after_nil _
      rw [hTold]
      cases hSent : (member.send message w).result with
      | error f =>
          refine ⟨_, .stopped (f := f) (by rw [hSend, hSent]), ?_⟩
          rw [Action.bind_of_error _ hSent, hSend, ← hSent]
      | ok _ =>
          obtain ⟨d, hTurn, hQuiet⟩ := ih (index + 1) (member.send message w).state
          refine ⟨_, .delivered (by rw [hSend, hSent]) (by rw [hSend]; exact hTurn), ?_⟩
          rw [Action.bind_of_ok _ hSent, Done.quiet_after, hQuiet, hSend, Done.quiet_after]

/-- **Chains deliver as their targets in order, whatever the order of the configs.** Configs whose names
lead where they should and whose credentials are there set up a set that has their names. A message to
a chain does what sending it to the targets in turn does, until one fails, but for logs. The configs in
any other order set up a set in which messages to all names do the same. -/
theorem build_delivers_in_turn (h : NotifierConfig.Sound configs)
    (hChecked : ∀ config ∈ configs, checkCredentials settings config = .ok ()) :
    ∃ set, build settings configs = .ok set ∧
      set.names.Perm (configs.map NotifierConfig.name) ∧
      (∀ name targets, .chain name targets ∈ configs → ∀ message w,
        ∃ d, set.SentInTurn message targets w d ∧ (set.sendTo message name w).quiet = d.quiet) ∧
      ∀ others, configs.Perm others → ∃ other, build settings others = .ok other ∧
        ∀ message name, other.sendTo message name = set.sendTo message name := by
  obtain ⟨set, hSet, hOf⟩ := build_ofConfigs h hChecked
  refine ⟨set, hSet, hOf.names, ?_, ?_⟩
  · intro name targets hMem message w
    obtain ⟨members, hFound, hMembers⟩ := hOf.chain h hMem
    rw [sendTo_of_get? hFound, Notifier.send]
    exact sentInTurn_sendToAll hMembers 0 w
  · intro others hPerm
    obtain ⟨other, hOther, hOfOther⟩ := build_ofConfigs (h.perm hPerm) fun config hMem =>
      hChecked config (hPerm.mem_iff.mpr hMem)
    exact ⟨other, hOther, fun message name =>
      sendTo_congr (hOf.get?_eq hOfOther h.distinct hPerm name) message⟩

end NotifierSet

namespace Watch

/-- A chain that stands before its targets and has one of them twice. -/
def relayConfigs : List NotifierConfig :=
  [.chain "all" ["desk", "chat", "log", "desk"], .print "desk", .memory "log",
    .telegram "chat" (some "token") (some "42")]

theorem relay_delivers_in_turn :
    NotifierConfig.Sound relayConfigs ∧
    (∀ config ∈ relayConfigs,
      NotifierSet.checkCredentials Settings.standard config = .ok ()) ∧
    ∃ set, NotifierSet.build Settings.standard relayConfigs = .ok set ∧
      set.names.Perm ["all", "desk", "log", "chat"] ∧
      (∀ message w, ∃ d, set.SentInTurn message ["desk", "chat", "log", "desk"] w d ∧
        (set.sendTo message "all" w).quiet = d.quiet) ∧
      ∃ other, NotifierSet.build Settings.standard relayConfigs.reverse = .ok other ∧
        ∀ message name, other.sendTo message name = set.sendTo message name := by
  have hSound : NotifierConfig.Sound relayConfigs := by
    refine ⟨by decide, fun name targets hMem target hTarget => ?_⟩
    obtain ⟨rfl, rfl⟩ : name = "all" ∧ targets = ["desk", "chat", "log", "desk"] := by
      simpa [relayConfigs] using hMem
    have hNamed : target = "desk" ∨ target = "chat" ∨ target = "log" := by
      revert hTarget
      simp only [List.mem_cons, List.not_mem_nil]
      tauto
    rcases hNamed with rfl | rfl | rfl
    · exact ⟨.print "desk", by simp [relayConfigs], rfl, rfl⟩
    · exact ⟨.telegram "chat" (some "token") (some "42"), by simp [relayConfigs], rfl, rfl⟩
    · exact ⟨.memory "log", by simp [relayConfigs], rfl, rfl⟩
  have hChecked : ∀ config ∈ relayConfigs,
      NotifierSet.checkCredentials Settings.standard config = .ok () := by
    simp only [relayConfigs, List.forall_mem_cons]
    exact ⟨rfl, rfl, rfl, rfl, List.forall_mem_nil _⟩
  obtain ⟨set, hSet, hNames, hTurn, hOrder⟩ :=
    NotifierSet.build_delivers_in_turn hSound hChecked
  exact ⟨hSound, hChecked, set, hSet, hNames, hTurn _ _ List.mem_cons_self,
    hOrder _ (List.reverse_perm _).symm⟩

end Watch

end Flowline
