import Flowline.Notifier.Build
import Flowline.Proofs.Except
import Mathlib.Data.List.Nodup

/-!
Setting up notifiers. If the names in a flow lead where they should and its credentials are there,
the set is built, it has a notifier for each config, and no chain in it has a chain among its
members.
-/

namespace Flowline

/-! ## Names that lead where they should -/

theorem nodup_of_firstDuplicate? {seen names : List String}
    (h : firstDuplicate? seen names = none) : names.Nodup ∧ ∀ name ∈ names, name ∉ seen := by
  induction names generalizing seen with
  | nil => exact ⟨List.nodup_nil, List.forall_mem_nil _⟩
  | cons name rest ih =>
      rw [firstDuplicate?] at h
      split at h
      · cases h
      · rename_i hFresh
        obtain ⟨hNodup, hUnseen⟩ := ih h
        have hNotSeen : name ∉ seen := fun hMem => hFresh (List.contains_iff_mem.mpr hMem)
        constructor
        · exact List.nodup_cons.mpr ⟨fun hMem => hUnseen name hMem List.mem_cons_self, hNodup⟩
        · refine List.forall_mem_cons.mpr ⟨hNotSeen, fun other hMem hSeen => ?_⟩
          exact hUnseen other hMem (List.mem_cons_of_mem name hSeen)

namespace FlowDefinition

/-- What the names in a flow lead to: the configs have different names, the targets of chains are
configs that are no chains, and the notifiers of steps, wherever in the tree, are configs. -/
structure Referenced (flow : FlowDefinition) : Prop where
  distinct : (flow.notifiers.map NotifierConfig.name).Nodup
  targets : ∀ name targets, NotifierConfig.chain name targets ∈ flow.notifiers → ∀ target ∈ targets,
    ∃ config ∈ flow.notifiers, config.name = target ∧ config.isChain = false
  notified : ∀ name template retry fallback,
    Step.notify name template retry fallback ∈ Step.walk (flow.steps ++ flow.uponFailure) →
    ∃ config ∈ flow.notifiers, config.name = name

theorem referenced_of_no_error {flow : FlowDefinition} (h : flow.referenceError? = none) :
    flow.Referenced := by
  rw [referenceError?, Option.or_eq_none_iff, Option.or_eq_none_iff, Option.map_eq_none_iff,
    List.findSome?_eq_none_iff, List.findSome?_eq_none_iff] at h
  obtain ⟨hNames, hTargets, hSteps⟩ := h
  refine ⟨(nodup_of_firstDuplicate? hNames).1, ?_, ?_⟩
  · intro name targets hMem target hTarget
    have hFound := List.findSome?_eq_none_iff.mp (hTargets _ hMem) target hTarget
    rw [targetError?] at hFound
    split at hFound
    · cases hFound
    · rename_i config hConfig
      split at hFound
      · cases hFound
      · rename_i hPlain
        have hName := List.find?_some hConfig
        exact ⟨config, List.mem_of_find?_eq_some hConfig, of_decide_eq_true hName,
          Bool.eq_false_iff.mpr hPlain⟩
  · intro name template retry fallback hMem
    have hFound := hSteps _ hMem
    rw [Step.notifierError?] at hFound
    split at hFound
    · rename_i hAny
      obtain ⟨config, hConfig, hName⟩ := List.any_eq_true.mp hAny
      exact ⟨config, hConfig, of_decide_eq_true hName⟩
    · cases hFound

end FlowDefinition

namespace NotifierSet

theorem get?_cons (set : NotifierSet) (name other : String) (notifier : Notifier) :
    get? ((name, notifier) :: set) other =
      if name = other then some notifier else set.get? other := by
  rw [get?, List.lookup_cons]
  by_cases h : name = other
  · rw [if_pos h, beq_iff_eq.mpr h.symm]
  · rw [if_neg h, beq_eq_false_iff_ne.mpr fun hSame => h hSame.symm]
    rfl

theorem get?_put (set : NotifierSet) (name other : String) (notifier : Notifier) :
    (set.put name notifier).get? other =
      if name = other then some notifier else set.get? other := by
  induction set with
  | nil => rw [put, get?_cons]
  | cons entry rest ih =>
      obtain ⟨n, v⟩ := entry
      rw [put]
      by_cases hName : n = name
      · subst hName
        rw [if_pos rfl, get?_cons, get?_cons]
        split <;> rfl
      · rw [if_neg hName, get?_cons, get?_cons, ih]
        by_cases hOther : n = other
        · subst hOther
          rw [if_pos rfl, if_pos rfl, if_neg fun h => hName h.symm]
        · rw [if_neg hOther, if_neg hOther]

theorem mem_of_mem_put {set : NotifierSet} {name : String} {notifier : Notifier}
    {entry : String × Notifier} (h : entry ∈ set.put name notifier) :
    entry = (name, notifier) ∨ entry ∈ set := by
  induction set with
  | nil => exact .inl (List.mem_singleton.mp h)
  | cons first rest ih =>
      rw [put] at h
      split at h
      · rename_i hName
        rcases List.mem_cons.mp h with rfl | hRest
        · exact .inl (hName ▸ rfl)
        · exact .inr (List.mem_cons_of_mem first hRest)
      · rcases List.mem_cons.mp h with rfl | hRest
        · exact .inr List.mem_cons_self
        · exact (ih hRest).imp_right (List.mem_cons_of_mem _)

theorem require_eq_ok {set : NotifierSet} {name : String} {notifier : Notifier}
    (h : set.get? name = some notifier) : set.require name = .ok notifier := by
  rw [require, h]

/-! ## The notifiers that stand alone -/

/-- No chain of a set has a chain among its members. -/
def Flat (set : NotifierSet) : Prop :=
  ∀ name known members, (name, .chain known members) ∈ set →
    ∀ member ∈ members, member.isChain = false

/-- All configs but chains have their notifier in a set, none of which is a chain. -/
def Standing (configs : List NotifierConfig) (set : NotifierSet) : Prop :=
  ∀ config ∈ configs, config.isChain = false →
    ∃ notifier, set.get? config.name = some notifier ∧ notifier.isChain = false

/-- With its credentials at hand a config that is no chain sets up a notifier that is none. -/
theorem plainNotifier?_of_checked {settings : Settings} {config : NotifierConfig}
    (h : checkCredentials settings config = .ok ()) (hPlain : config.isChain = false) :
    ∃ notifier, plainNotifier? settings config = .ok (some notifier) ∧
      notifier.isChain = false := by
  cases config with
  | print name => exact ⟨.print, rfl, rfl⟩
  | memory name => exact ⟨.memory sharedLog, rfl, rfl⟩
  | chain name targets => cases hPlain
  | telegram name token chatId =>
      rw [checkCredentials, credentials] at h
      rw [plainNotifier?, credentials]
      split at h
      · cases h
      · rename_i hToken
        split at h
        · cases h
        · rename_i hChat
          rw [if_neg hToken, if_neg hChat]
          change ∃ notifier, (do
            let chat ← Telegram.of (orSetting token settings.telegramToken)
              (orSetting chatId settings.telegramChatId) settings.telegramBaseUrl
              (.real settings.httpTimeout)
            return some (Notifier.telegram chat)) = Except.ok (some notifier) ∧ _
          rw [Telegram.of, if_neg hToken, if_neg hChat]
          exact ⟨_, rfl, rfl⟩

/-- Setting up what stands alone succeeds, and adds nothing that is a chain. -/
theorem withPlain_ok {settings : Settings} {configs : List NotifierConfig} (built : NotifierSet)
    (hChecked : ∀ config ∈ configs, checkCredentials settings config = .ok ()) :
    ∃ set, withPlain settings built configs = .ok set ∧
      (∀ entry ∈ set, entry ∈ built ∨ entry.2.isChain = false) ∧
      (∀ name notifier, built.get? name = some notifier → notifier.isChain = false →
        ∃ notifier, set.get? name = some notifier ∧ notifier.isChain = false) ∧
      Standing configs set := by
  induction configs generalizing built with
  | nil =>
      exact ⟨built, rfl, fun _ => .inl, fun _ notifier h hPlain => ⟨notifier, h, hPlain⟩,
        List.forall_mem_nil _⟩
  | cons config rest ih =>
      obtain ⟨hHead, hRest⟩ := List.forall_mem_cons.mp hChecked
      cases hKind : config.isChain with
      | true =>
          have hNone : plainNotifier? settings config = .ok none := by
            cases config <;> first | rfl | cases hKind
          obtain ⟨set, hSet, hOld, hKept, hStanding⟩ := ih built hRest
          refine ⟨set, ?_, hOld, hKept, ?_⟩
          · rw [withPlain, hNone]
            exact hSet
          · refine List.forall_mem_cons.mpr ⟨fun hPlain => ?_, hStanding⟩
            rw [hKind] at hPlain
            cases hPlain
      | false =>
          obtain ⟨notifier, hNew, hPlain⟩ := plainNotifier?_of_checked hHead hKind
          obtain ⟨set, hSet, hOld, hKept, hStanding⟩ := ih (built.put config.name notifier) hRest
          refine ⟨set, ?_, ?_, ?_, ?_⟩
          · rw [withPlain, hNew]
            exact hSet
          · intro entry hMem
            rcases hOld entry hMem with hPut | hAlone
            · rcases mem_of_mem_put hPut with rfl | hBuilt
              · exact .inr hPlain
              · exact .inl hBuilt
            · exact .inr hAlone
          · intro name found hFound hAlone
            by_cases hName : config.name = name
            · exact hKept name notifier (by rw [get?_put, if_pos hName]) hPlain
            · exact hKept name found (by rw [get?_put, if_neg hName, hFound]) hAlone
          · refine List.forall_mem_cons.mpr ⟨fun _ => ?_, hStanding⟩
            exact hKept config.name notifier (by rw [get?_put, if_pos rfl]) hPlain

/-! ## Chains -/

theorem member_of_standing {configs : List NotifierConfig} {set : NotifierSet} {target : String}
    (chain : String) (hStanding : Standing configs set)
    (hTarget : ∃ config ∈ configs, config.name = target ∧ config.isChain = false) :
    ∃ notifier, member set chain target = .ok notifier ∧ notifier.isChain = false := by
  obtain ⟨config, hMem, rfl, hKind⟩ := hTarget
  obtain ⟨notifier, hFound, hPlain⟩ := hStanding config hMem hKind
  refine ⟨notifier, ?_, hPlain⟩
  rw [member, hFound]
  exact if_neg (Bool.eq_false_iff.mp hPlain)

/-- The targets of a chain become its members. -/
theorem members_of_standing {configs : List NotifierConfig} {set : NotifierSet}
    {targets : List String} (chain : String) (hStanding : Standing configs set)
    (hTargets : ∀ target ∈ targets,
      ∃ config ∈ configs, config.name = target ∧ config.isChain = false) :
    ∃ members, targets.mapM (member set chain) = .ok members ∧
      ∀ notifier ∈ members, notifier.isChain = false := by
  induction targets with
  | nil => exact ⟨[], rfl, List.forall_mem_nil _⟩
  | cons target rest ih =>
      obtain ⟨hHead, hRest⟩ := List.forall_mem_cons.mp hTargets
      obtain ⟨notifier, hMember, hPlain⟩ := member_of_standing chain hStanding hHead
      obtain ⟨members, hMembers, hAll⟩ := ih hRest
      refine ⟨notifier :: members, ?_, List.forall_mem_cons.mpr ⟨hPlain, hAll⟩⟩
      rw [List.mapM_cons, hMember, hMembers]
      rfl

/-- A chain under a name that no other notifier has leaves what stands alone. -/
theorem Standing.put_chain {configs : List NotifierConfig} {set : NotifierSet} {name : String}
    {notifier : Notifier} (h : Standing configs set)
    (hName : ∀ config ∈ configs, config.name = name → config.isChain = true) :
    Standing configs (set.put name notifier) := by
  intro config hMem hPlain
  have hOther : name ≠ config.name := by
    intro hSame
    have hChain := hName config hMem hSame.symm
    rw [hPlain] at hChain
    cases hChain
  obtain ⟨found, hFound, hAlone⟩ := h config hMem hPlain
  exact ⟨found, by rw [get?_put, if_neg hOther, hFound], hAlone⟩

theorem Flat.put_chain {set : NotifierSet} {name : String} {members : List Notifier} (h : Flat set)
    (hMembers : ∀ notifier ∈ members, notifier.isChain = false) :
    Flat (set.put name (.chain (some name) members)) := by
  intro other known found hFound
  rcases mem_of_mem_put hFound with hNew | hOld
  · cases hNew
    exact hMembers
  · exact h other known found hOld

/-- Setting up the chains among some configs succeeds, once all that stands alone is there. -/
theorem withChains_ok {configs rest : List NotifierConfig} (built : NotifierSet)
    (hStanding : Standing configs built) (hFlat : Flat built)
    (hNames : ∀ name targets, .chain name targets ∈ rest → ∀ config ∈ configs,
      config.name = name → config.isChain = true)
    (hTargets : ∀ name targets, .chain name targets ∈ rest → ∀ target ∈ targets,
      ∃ config ∈ configs, config.name = target ∧ config.isChain = false) :
    ∃ set, withChains built rest = .ok set ∧ Standing configs set ∧ Flat set ∧
      (∀ name, (built.get? name).isSome → (set.get? name).isSome) ∧
      ∀ config ∈ rest, config.isChain = true → (set.get? config.name).isSome := by
  induction rest generalizing built with
  | nil => exact ⟨built, rfl, hStanding, hFlat, fun _ => id, List.forall_mem_nil _⟩
  | cons config rest ih =>
      have hNamesRest := fun name targets hMem =>
        hNames name targets (List.mem_cons_of_mem config hMem)
      have hTargetsRest := fun name targets hMem =>
        hTargets name targets (List.mem_cons_of_mem config hMem)
      cases hKind : config.isChain with
      | false =>
          have hSkip : withChains built (config :: rest) = withChains built rest := by
            cases config <;> first | rfl | cases hKind
          rw [hSkip]
          obtain ⟨set, hSet, hStands, hFlatSet, hKept, hNew⟩ :=
            ih built hStanding hFlat hNamesRest hTargetsRest
          refine ⟨set, hSet, hStands, hFlatSet, hKept, ?_⟩
          refine List.forall_mem_cons.mpr ⟨fun hChain => ?_, hNew⟩
          rw [hKind] at hChain
          cases hChain
      | true =>
          cases config with
          | chain name targets =>
              obtain ⟨members, hMembers, hAll⟩ := members_of_standing name hStanding
                (hTargets name targets List.mem_cons_self)
              obtain ⟨set, hSet, hStands, hFlatSet, hKept, hNew⟩ :=
                ih (built.put name (.chain (some name) members))
                  (hStanding.put_chain (hNames name targets List.mem_cons_self))
                  (hFlat.put_chain hAll) hNamesRest hTargetsRest
              refine ⟨set, ?_, hStands, hFlatSet, fun other hOther => hKept other ?_, ?_⟩
              · rw [withChains, hMembers]
                exact hSet
              · rw [get?_put]
                split
                · rfl
                · exact hOther
              · refine List.forall_mem_cons.mpr ⟨fun _ => hKept name ?_, hNew⟩
                rw [get?_put, if_pos rfl]
                rfl
          | _ => cases hKind

/-- Configs whose names lead where they should and whose credentials are there set up a set in which
each has its notifier and no chain has chains. -/
theorem build_ok {settings : Settings} {flow : FlowDefinition} (h : flow.Referenced)
    (hChecked : ∀ config ∈ flow.notifiers, checkCredentials settings config = .ok ()) :
    ∃ set, build settings flow.notifiers = .ok set ∧ Flat set ∧
      ∀ config ∈ flow.notifiers, ∃ notifier, set.require config.name = .ok notifier := by
  obtain ⟨plain, hPlain, hOld, -, hStanding⟩ := withPlain_ok [] hChecked
  have hFlat : Flat plain := by
    intro name known members hFound
    rcases hOld _ hFound with hNone | hAlone
    · cases hNone
    · cases hAlone
  have hNames : ∀ name targets, .chain name targets ∈ flow.notifiers →
      ∀ config ∈ flow.notifiers, config.name = name → config.isChain = true := by
    intro name targets hMem config hConfig hName
    have hSame := List.inj_on_of_nodup_map h.distinct hConfig hMem hName
    rw [hSame]
    rfl
  obtain ⟨set, hSet, hStands, hFlatSet, -, hChains⟩ :=
    withChains_ok plain hStanding hFlat hNames h.targets
  refine ⟨set, ?_, hFlatSet, fun config hMem => ?_⟩
  · rw [build, hPlain]
    exact hSet
  · cases hKind : config.isChain with
    | false =>
        obtain ⟨notifier, hFound, -⟩ := hStands config hMem hKind
        exact ⟨notifier, require_eq_ok hFound⟩
    | true =>
        obtain ⟨notifier, hFound⟩ := Option.isSome_iff_exists.mp (hChains config hMem hKind)
        exact ⟨notifier, require_eq_ok hFound⟩

/-! ## Settings that were checked -/

theorem checked_of_forM {settings : Settings} {configs : List NotifierConfig}
    (h : configs.forM (checkCredentials settings) = .ok ()) :
    ∀ config ∈ configs, checkCredentials settings config = .ok () := by
  induction configs with
  | nil => exact List.forall_mem_nil _
  | cons config rest ih =>
      obtain ⟨_, hHead, hRest⟩ := bind_eq_ok.mp h
      exact List.forall_mem_cons.mpr ⟨hHead, ih hRest⟩

end NotifierSet

end Flowline
