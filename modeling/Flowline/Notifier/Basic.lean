import Flowline.Notifier.Telegram

/-!
Notifiers: channels to which messages are sent, and the set of those that a flow has.
-/

namespace Flowline

/-- A notifier. One of the memory keeps messages in a log of the world. A scripted one only tells that
it was called and may then fail. A chain sends to its members in turn; it may have the name by which a
set knows it, so that it is one chain wherever it stands. -/
inductive Notifier where
  | print
  | memory (log : Nat)
  | telegram (chat : Telegram)
  | scripted (failure : Option Failure)
  | chain (name : Option String) (members : List Notifier)
  deriving Inhabited

namespace Notifier

def kindName : Notifier → String
  | print => "PrintNotifier"
  | memory _ => "MemoryNotifier"
  | telegram _ => "TelegramNotifier"
  | scripted _ => "ScriptedNotifier"
  | chain .. => "NotifierChain"

def isChain : Notifier → Bool
  | chain .. => true
  | _ => false

/-- Prints a message. What keeps the output from taking it is a failure of the notification. -/
def sendToOutput (message : String) : Action World Unit :=
  (World.printLine message).orElse fun f =>
    .fail (if f.kind.isSystemError || f.kind.isKindOf (.general .unicode) then
      .operation .notification ("could not write notification to stdout: " ++ f.text)
    else f)

mutual

/-- Sends a message. -/
def send (message : String) : Notifier → Action World Unit
  | print => sendToOutput message
  | memory log => World.keepMessage log message
  | telegram chat => chat.send message
  | scripted failure => do
      Action.emit (.sent message)
      match failure with
      | some f => .fail f
      | none => .succeed ()
  | chain _ members => sendToAll message 0 members

/-- Sends a message to the members of a chain, of which the first one has an index, until one
fails. -/
def sendToAll (message : String) (index : Nat) : List Notifier → Action World Unit
  | [] => .succeed ()
  | member :: rest => do
      Action.log .debug .channels "Chain delivering to member"
        [("member", .int index), ("notifier", .text member.kindName)]
      send message member
      sendToAll message (index + 1) rest

end

end Notifier

/-- The notifiers of a flow by their names. -/
abbrev NotifierSet := List (String × Notifier)

namespace NotifierSet

def get? (set : NotifierSet) (name : String) : Option Notifier := set.lookup name

/-- Puts a notifier under a name, instead of the one that is there. -/
def put : NotifierSet → String → Notifier → NotifierSet
  | [], name, notifier => [(name, notifier)]
  | (n, v) :: rest, name, notifier =>
      if n = name then (n, notifier) :: rest else (n, v) :: put rest name notifier

def names (set : NotifierSet) : List String := set.map (·.1)

/-- The notifier of a name, which must be there. -/
def require (set : NotifierSet) (name : String) : Except Failure Notifier :=
  match set.get? name with
  | some notifier => .ok notifier
  | none =>
      .error (.flow .unknownNotifier ("no notifier found with specified name " ++ name))

end NotifierSet

end Flowline
