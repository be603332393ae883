import Flowline.Flow.Step

/-!
Definitions of flows: a trigger, notifiers, steps and a fallback for the whole. The names by which
notifiers refer to each other and steps refer to notifiers must lead somewhere.
-/

namespace Flowline

/-- What starts a flow. -/
inductive Trigger where
  | once
  | interval (seconds : Binary64)
  deriving DecidableEq

/-- How a notifier of a flow is set up. -/
inductive NotifierConfig where
  | print (name : String)
  | memory (name : String)
  | telegram (name : String) (token chatId : Option String)
  | chain (name : String) (targets : List String)
  deriving DecidableEq, Repr

namespace NotifierConfig

def name : NotifierConfig → String
  | print name => name
  | memory name => name
  | telegram name _ _ => name
  | chain name _ => name

def isChain : NotifierConfig → Bool
  | chain .. => true
  | _ => false

end NotifierConfig

structure FlowDefinition where
  name : Option String
  trigger : Option Trigger
  notifiers : List NotifierConfig
  steps : List Step
  uponFailure : List Step

namespace FlowDefinition

/-- The name by which logs tell flows apart. -/
def label (flow : FlowDefinition) : String :=
  match flow.name with
  | some name => if name.isEmpty then "<unnamed>" else name
  | none => "<unnamed>"

end FlowDefinition

/-- A name in a flow that does not lead to what it should. -/
inductive ReferenceError where
  | duplicateNotifier (name : String)
  | unknownTarget (chain target : String)
  | chainTarget (chain target : String)
  | unknownNotifier (name : String)
  deriving DecidableEq, Repr

namespace ReferenceError

def message : ReferenceError → String
  | duplicateNotifier name => "duplicate notifier name: " ++ name
  | unknownTarget chain target =>
      "chain notifier " ++ chain ++ " references unknown notifier " ++ target
  | chainTarget chain target =>
      "chain notifier " ++ chain ++ " cannot contain chain notifier " ++ target
  | unknownNotifier name => "notify step references unknown notifier " ++ name

end ReferenceError

/-- The first name that stands in a list twice, at its second place. -/
def firstDuplicate? (seen : List String) : List String → Option String
  | [] => none
  | name :: rest => if seen.contains name then some name else firstDuplicate? (name :: seen) rest

/-- What is wrong with a target of a chain. -/
def targetError? (configs : List NotifierConfig) (chain target : String) : Option ReferenceError :=
  match configs.find? (·.name = target) with
  | none => some (.unknownTarget chain target)
  | some config => if config.isChain then some (.chainTarget chain target) else none

/-- The first thing wrong with the targets of a notifier. -/
def NotifierConfig.targetsError? (configs : List NotifierConfig) :
    NotifierConfig → Option ReferenceError
  | .chain name targets => targets.findSome? (targetError? configs name)
  | _ => none

/-- What is wrong with the notifier that a step names. -/
def Step.notifierError? (configs : List NotifierConfig) : Step → Option ReferenceError
  | .notify notifier _ _ _ =>
      if configs.any (·.name = notifier) then none else some (.unknownNotifier notifier)
  | _ => none

/-- The first name in a flow that does not lead to what it should: names of notifiers first, then
targets of chains, then notifiers of steps. -/
def FlowDefinition.referenceError? (flow : FlowDefinition) : Option ReferenceError :=
  ((firstDuplicate? [] (flow.notifiers.map (·.name))).map .duplicateNotifier).or
    ((flow.notifiers.findSome? (·.targetsError? flow.notifiers)).or
      ((Step.walk (flow.steps ++ flow.uponFailure)).findSome?
        (·.notifierError? flow.notifiers)))

end Flowline
