import Flowline.Flow.Definition
import Flowline.Notifier.Basic
import Flowline.Settings.Basic

/-!
Setting up the notifiers of a flow. Chains are set up after all others, so that they may stand before
their targets.
-/

namespace Flowline.NotifierSet

/-- The log that all notifiers of the memory in one flow share. -/
def sharedLog : Nat := 0

/-- A broken definition of a notifier. -/
def definitionFailure (text : String) : Failure := ⟨.definition, text, none⟩

/-- A value that is given and not empty, or else the one of the settings. -/
def orSetting (given : Option String) (setting : String) : String :=
  match given with
  | some s => if s.isEmpty then setting else s
  | none => setting

/-- The token and the chat of a Telegram notifier, its own ones or those of the settings; neither may
be empty. -/
def credentials (settings : Settings) (name : String) (token chatId : Option String) :
    Except Failure (String × String) :=
  let token := orSetting token settings.telegramToken
  let chatId := orSetting chatId settings.telegramChatId
  if token.isEmpty then
    .error (definitionFailure
      s!"telegram notifier {name} has no token (set it or M7M_TELEGRAM_TOKEN)")
  else if chatId.isEmpty then
    .error (definitionFailure
      s!"telegram notifier {name} has no chat_id (set it or M7M_TELEGRAM_CHAT_ID)")
  else .ok (token, chatId)

/-- The credentials of a notifier that needs some. -/
def checkCredentials (settings : Settings) : NotifierConfig → Except Failure Unit
  | .telegram name token chatId => (credentials settings name token chatId).map fun _ => ()
  | _ => .ok ()

/-- A notifier that stands alone; a chain is none. -/
def plainNotifier? (settings : Settings) : NotifierConfig → Except Failure (Option Notifier)
  | .print _ => .ok (some .print)
  | .memory _ => .ok (some (.memory sharedLog))
  | .telegram name token chatId => do
      let (token, chatId) ← credentials settings name token chatId
      let chat ← Telegram.of token chatId settings.telegramBaseUrl (.real settings.httpTimeout)
      return some (.telegram chat)
  | .chain .. => .ok none

/-- The member of a chain that a target names: a notifier that stands alone. -/
def member (built : NotifierSet) (chain target : String) : Except Failure Notifier :=
  let unknown := definitionFailure
    s!"chain notifier {chain} references unknown notifier {target}"
  match built.get? target with
  | none => .error unknown
  | some notifier => if notifier.isChain then .error unknown else .ok notifier

/-- The set with the notifiers that stand alone. -/
def withPlain (settings : Settings) : NotifierSet → List NotifierConfig → Except Failure NotifierSet
  | built, [] => .ok built
  | built, config :: rest => do
      match ← plainNotifier? settings config with
      | some notifier => withPlain settings (built.put config.name notifier) rest
      | none => withPlain settings built rest

/-- The set with the chains too. -/
def withChains : NotifierSet → List NotifierConfig → Except Failure NotifierSet
  | built, [] => .ok built
  | built, .chain name targets :: rest => do
      let members ← targets.mapM (member built name)
      withChains (built.put name (.chain (some name) members)) rest
  | built, _ :: rest => withChains built rest

/-- The notifiers that configs set up. -/
def build (settings : Settings) (configs : List NotifierConfig) : Except Failure NotifierSet := do
  let plain ← withPlain settings [] configs
  withChains plain configs

def sortedNames (set : NotifierSet) : List String := set.names.mergeSort (· ≤ ·)

/-- Sets up the notifiers of a flow. -/
def setUp {σ : Type} (settings : Settings) (configs : List NotifierConfig) :
    Action σ NotifierSet := do
  let set ← Action.ofResult (build settings configs)
  Action.log .debug .factory "Built notifiers"
    [("notifiers", .list (set.sortedNames.map .text))]
  return set

/-! ## Growing chains -/

mutual

/-- A notifier with one more member in the chain of a name, wherever that stands. -/
def grown (name : String) (added : Notifier) : Notifier → Notifier
  | .chain known members =>
      let members := grownAll name added members
      .chain known (if known = some name then members ++ [added] else members)
  | notifier => notifier

def grownAll (name : String) (added : Notifier) : List Notifier → List Notifier
  | [] => []
  | notifier :: rest => grown name added notifier :: grownAll name added rest

end

/-- The set with one more member in the chain of a name. -/
def grow (set : NotifierSet) (name : String) (added : Notifier) : NotifierSet :=
  set.map fun (n, notifier) => (n, grown name added notifier)

end Flowline.NotifierSet
