import Flowline.Proofs.Comparison.Collaborators

/-!
Notifiers set up with other tokens. Where two lists of configs differ in tokens alone, none of which is
empty, the notifiers that they set up differ in the addresses of their chats alone, and there only in the
token; or they cannot be set up for the same reason.
-/

namespace Flowline

/-- Tokens that are the same, or that are both given. -/
def TokensAlike (token other : String) : Prop := token = other ∨ (token ≠ "" ∧ other ≠ "")

theorem TokensAlike.isEmpty {token other : String} (h : TokensAlike token other) :
    token.isEmpty = other.isEmpty := by
  rcases h with rfl | ⟨hToken, hOther⟩
  · rfl
  · rw [Bool.eq_false_iff.mpr (String.isEmpty_iff.not.mpr hToken),
      Bool.eq_false_iff.mpr (String.isEmpty_iff.not.mpr hOther)]

/-- Settings that differ in the token alone. -/
structure Settings.Twin (settings other : Settings) : Prop where
  rest : other = { settings with telegramToken := other.telegramToken }
  token : TokensAlike settings.telegramToken other.telegramToken

theorem Settings.Twin.refl (settings : Settings) : settings.Twin settings := ⟨rfl, .inl rfl⟩

/-- Configs that differ in the token alone, if they have one. -/
inductive NotifierConfig.Twin : NotifierConfig → NotifierConfig → Prop where
  | same (config : NotifierConfig) : Twin config config
  | telegram (name : String) {token other : String} (chatId : Option String) (given : token ≠ "")
      (givenToo : other ≠ "") : Twin (.telegram name (some token) chatId) (.telegram name (some other) chatId)

/-- The same chat, to which two bots of one service send. -/
structure Telegram.Twin (base : String) (chat other : Telegram) : Prop where
  chatId : other.chatId = chat.chatId
  timeout : other.timeout = chat.timeout
  url : ∃ token otherToken, chat.url = Telegram.sendUrl base token ∧
    other.url = Telegram.sendUrl base otherToken

theorem Telegram.alike_of {token other : String} (h : TokensAlike token other)
    (chatId base : String) (timeout : Quantity) :
    ResultsAlike (Twin base) (Telegram.of token chatId base timeout)
      (Telegram.of other chatId base timeout) := by
  rw [Telegram.of, Telegram.of, h.isEmpty]
  split
  · exact .error _
  · split
    · exact .error _
    · exact .ok ⟨rfl, rfl, token, other, rfl, rfl⟩

theorem NotifierConfig.Twin.name {config other : NotifierConfig} (h : config.Twin other) :
    config.name = other.name := by
  cases h <;> rfl

namespace NotifierSet

variable {settings other : Settings} {T : Telegram → Telegram → Prop}

/-! ## Notifiers that stand alone -/

theorem tokensAlike_orSetting (given : Option String) {setting otherSetting : String}
    (h : TokensAlike setting otherSetting) :
    TokensAlike (orSetting given setting) (orSetting given otherSetting) := by
  cases given with
  | none => exact h
  | some token =>
      rw [orSetting, orSetting]
      split
      · exact h
      · exact .inl rfl

theorem orSetting_of_ne {token : String} (h : token ≠ "") (setting : String) :
    orSetting (some token) setting = token := if_neg (String.isEmpty_iff.not.mpr h)

/-- Credentials with tokens that are alike, or the same one that is missing. -/
theorem alike_credentials (h : settings.Twin other) {token otherToken : Option String}
    (hTokens : TokensAlike (orSetting token settings.telegramToken)
      (orSetting otherToken other.telegramToken)) (name : String) (chatId : Option String) :
    ResultsAlike (fun a b => TokensAlike a.1 b.1 ∧ a.2 = b.2)
      (credentials settings name token chatId) (credentials other name otherToken chatId) := by
  have hChatId : other.telegramChatId = settings.telegramChatId := by rw [h.rest]
  rw [credentials, credentials, hTokens.isEmpty, hChatId]
  split
  · exact .error _
  · split
    · exact .error _
    · exact .ok ⟨hTokens, rfl⟩

theorem alike_telegram (h : settings.Twin other) {token otherToken : Option String}
    (hTokens : TokensAlike (orSetting token settings.telegramToken)
      (orSetting otherToken other.telegramToken)) (name : String) (chatId : Option String) :
    ResultsAlike (Option.Rel (Notifier.Like (Telegram.Twin settings.telegramBaseUrl)))
      (plainNotifier? settings (.telegram name token chatId))
      (plainNotifier? other (.telegram name otherToken chatId)) := by
  have hBase : other.telegramBaseUrl = settings.telegramBaseUrl := by rw [h.rest]
  have hTimeout : other.httpTimeout = settings.httpTimeout := by rw [h.rest]
  refine (alike_credentials h hTokens name chatId).bind ?_
  rintro ⟨token, chatId⟩ ⟨otherToken, _⟩ ⟨hAlike, rfl⟩
  rw [hBase, hTimeout]
  exact (Telegram.alike_of hAlike _ _ _).bind fun chat otherChat hChats =>
    .ok (.some (.telegram hChats))

/-- Configs that differ in tokens alone set up notifiers that do. -/
theorem alike_plainNotifier? (h : settings.Twin other) {config otherConfig : NotifierConfig}
    (hConfigs : config.Twin otherConfig) :
    ResultsAlike (Option.Rel (Notifier.Like (Telegram.Twin settings.telegramBaseUrl)))
      (plainNotifier? settings config) (plainNotifier? other otherConfig) := by
  cases hConfigs with
  | telegram name chatId given givenToo =>
      refine alike_telegram h ?_ name chatId
      rw [orSetting_of_ne given, orSetting_of_ne givenToo]
      exact .inr ⟨given, givenToo⟩
  | same config =>
      cases config with
      | print name => exact .ok (.some .print)
      | memory name => exact .ok (.some (.memory sharedLog))
      | chain name targets => exact .ok .none
      | telegram name token chatId =>
          exact alike_telegram h (tokensAlike_orSetting token h.token) name chatId

/-! ## Sets -/

theorem Like.put {set otherSet : NotifierSet} (h : Like T set otherSet) (name : String)
    {n otherNotifier : Notifier} (hNew : Notifier.Like T n otherNotifier) :
    Like T (set.put name n) (otherSet.put name otherNotifier) := by
  induction h with
  | nil => exact .cons ⟨rfl, hNew⟩ .nil
  | @cons a b rest others first hRest ih =>
      obtain ⟨found, v⟩ := a
      obtain ⟨_, otherV⟩ := b
      obtain ⟨rfl, hLike⟩ := first
      rw [NotifierSet.put, NotifierSet.put]
      split
      · exact .cons ⟨rfl, hNew⟩ hRest
      · exact .cons ⟨rfl, hLike⟩ ih

theorem alike_withPlain (h : settings.Twin other) {configs otherConfigs : List NotifierConfig}
    (hConfigs : List.Forall₂ NotifierConfig.Twin configs otherConfigs)
    {built otherBuilt : NotifierSet}
    (hBuilt : Like (Telegram.Twin settings.telegramBaseUrl) built otherBuilt) :
    ResultsAlike (Like (Telegram.Twin settings.telegramBaseUrl))
      (withPlain settings built configs) (withPlain other otherBuilt otherConfigs) := by
  induction hConfigs generalizing built otherBuilt with
  | nil => exact .ok hBuilt
  | cons first _ ih =>
      rw [withPlain, withPlain]
      refine (alike_plainNotifier? h first).bind fun n otherNotifier hNew => ?_
      cases hNew with
      | none => exact ih hBuilt
      | some hLike =>
          rw [first.name]
          exact ih (hBuilt.put _ hLike)

theorem alike_member {built otherBuilt : NotifierSet} (hBuilt : Like T built otherBuilt)
    (chain target : String) :
    ResultsAlike (Notifier.Like T) (member built chain target) (member otherBuilt chain target) := by
  rw [member, member]
  rcases hBuilt.get? target with ⟨hSet, hOther⟩ | ⟨n, n', hSet, hOther, hLike⟩
  · rw [hSet, hOther]
    exact .error _
  · simp only [hSet, hOther, hLike.isChain]
    split
    · exact .error _
    · exact .ok hLike

theorem alike_members {built otherBuilt : NotifierSet} (hBuilt : Like T built otherBuilt)
    (chain : String) (targets : List String) :
    ResultsAlike (List.Forall₂ (Notifier.Like T)) (targets.mapM (member built chain))
      (targets.mapM (member otherBuilt chain)) :=
  .mapM (List.forall₂_same.mpr fun target _ => alike_member hBuilt chain target)

theorem alike_withChains {configs otherConfigs : List NotifierConfig}
    (hConfigs : List.Forall₂ NotifierConfig.Twin configs otherConfigs)
    {built otherBuilt : NotifierSet} (hBuilt : Like T built otherBuilt) :
    ResultsAlike (Like T) (withChains built configs) (withChains otherBuilt otherConfigs) := by
  induction hConfigs generalizing built otherBuilt with
  | nil => exact .ok hBuilt
  | @cons config otherConfig rest others first _ ih =>
      cases first with
      | telegram name chatId given givenToo => exact ih hBuilt
      | same =>
          cases config with
          | print name => exact ih hBuilt
          | memory name => exact ih hBuilt
          | telegram name token chatId => exact ih hBuilt
          | chain name targets =>
              rw [withChains, withChains]
              exact (alike_members hBuilt name targets).bind fun members otherMembers hMembers =>
                ih (hBuilt.put name (.chain (some name) hMembers))

/-- Two flows whose configs differ in tokens alone have notifiers that differ in the tokens of their
chats alone. -/
theorem alike_build (h : settings.Twin other) {configs otherConfigs : List NotifierConfig}
    (hConfigs : List.Forall₂ NotifierConfig.Twin configs otherConfigs) :
    ResultsAlike (Like (Telegram.Twin settings.telegramBaseUrl)) (build settings configs)
      (build other otherConfigs) :=
  (alike_withPlain h hConfigs .nil).bind fun _ _ hPlain => alike_withChains hConfigs hPlain

end NotifierSet

end Flowline
