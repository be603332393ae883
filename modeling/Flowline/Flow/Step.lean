import Flowline.Number.Decimal
import Flowline.Text.Torn

/-!
Steps of a flow. Steps form a tree: a comparison holds two lists of steps, and a step whose operation
can fail holds the list that is run instead when it does.
-/

namespace Flowline

/-- The kinds of steps. -/
inductive StepKind where
  | abortFlow
  | debugState
  | sleep
  | notify
  | getUrl
  | postUrl
  | extractCapture
  | compareVar
  | readText
  | appendText
  | setVariable
  deriving DecidableEq, Repr

namespace StepKind

def name : StepKind → String
  | abortFlow => "abort_flow"
  | debugState => "debug_state"
  | sleep => "sleep"
  | notify => "notify"
  | getUrl => "get_url"
  | postUrl => "post_url"
  | extractCapture => "extract_capture"
  | compareVar => "compare_var"
  | readText => "read_file"
  | appendText => "append_file"
  | setVariable => "set_variable"

def all : List StepKind :=
  [abortFlow, debugState, sleep, notify, getUrl, postUrl, extractCapture, compareVar, readText,
    appendText, setVariable]

def ofName? (name : String) : Option StepKind := all.find? (·.name = name)

/-- Whether the operation of a step can fail, so that the step has a budget of retries and a
fallback. -/
def isFailable : StepKind → Bool
  | notify | getUrl | postUrl | extractCapture | readText | appendText => true
  | _ => false

end StepKind

/-- How often a failed operation is tried again, and how many seconds later each time. -/
structure RetryPolicy where
  retries : Nat
  interval : Binary64
  deriving DecidableEq

/-- No retries, one second apart. -/
def RetryPolicy.standard : RetryPolicy := ⟨0, .ofInt 1⟩

inductive Step where
  | abortFlow
  | debugState
  | sleep (duration : Binary64)
  | notify (notifier message : String) (retry : RetryPolicy) (fallback : List Step)
  | getUrl (url : String) (outputVar : Option String) (retry : RetryPolicy) (fallback : List Step)
  | postUrl (url : String) (body : Text.Loose) (headers : List (String × String))
      (retry : RetryPolicy) (fallback : List Step)
  | extractCapture (inputVar outputVar : Option String) (pattern : String) (retry : RetryPolicy)
      (fallback : List Step)
  | compareVar (inputVar : Option String) (compareWith compareFor : String)
      (ifTrue ifFalse : List Step)
  | readText (path : String) (outputVar : Option String) (retry : RetryPolicy)
      (fallback : List Step)
  | appendText (path : String) (inputVar : Option String) (retry : RetryPolicy)
      (fallback : List Step)
  | setVariable (outputVar : Option String) (value : String)

namespace Step

def kind : Step → StepKind
  | abortFlow => .abortFlow
  | debugState => .debugState
  | sleep _ => .sleep
  | notify .. => .notify
  | getUrl .. => .getUrl
  | postUrl .. => .postUrl
  | extractCapture .. => .extractCapture
  | compareVar .. => .compareVar
  | readText .. => .readText
  | appendText .. => .appendText
  | setVariable .. => .setVariable

/-- The lists of steps that a step holds. -/
def childLists : Step → List (List Step)
  | abortFlow | debugState | sleep _ | setVariable .. => []
  | notify _ _ _ fallback => [fallback]
  | getUrl _ _ _ fallback => [fallback]
  | postUrl _ _ _ _ fallback => [fallback]
  | extractCapture _ _ _ _ fallback => [fallback]
  | readText _ _ _ fallback => [fallback]
  | appendText _ _ _ fallback => [fallback]
  | compareVar _ _ _ ifTrue ifFalse => [ifTrue, ifFalse]

mutual

/-- A step and all steps in it, each before the steps that it holds. -/
def withDescendants : Step → List Step
  | notify a b c fallback => notify a b c fallback :: walk fallback
  | getUrl a b c fallback => getUrl a b c fallback :: walk fallback
  | postUrl a b c d fallback => postUrl a b c d fallback :: walk fallback
  | extractCapture a b c d fallback => extractCapture a b c d fallback :: walk fallback
  | readText a b c fallback => readText a b c fallback :: walk fallback
  | appendText a b c fallback => appendText a b c fallback :: walk fallback
  | compareVar a b c ifTrue ifFalse =>
      compareVar a b c ifTrue ifFalse :: (walk ifTrue ++ walk ifFalse)
  | step => [step]

/-- All steps of a list and in them, depth first. -/
def walk : List Step → List Step
  | [] => []
  | step :: rest => withDescendants step ++ walk rest

end

end Step

end Flowline
