import Flowline.Proofs.Comparison
import Flowline.Proofs.Confinement

/-!
Collaborators of two runs that are compared. If all that is done to the world comes to the same, then so
do requests and file accesses with their retries, and the sending of messages by notifiers that differ in
their chats alone.
-/

namespace Flowline

/-- Whether a request is a form, as only notifiers send them. -/
def Request.isForm : Request → Bool
  | form .. => true
  | _ => false

/-- A comparison under which everything that is done to the world comes to the same. Messages to chats
do if the chats are related. -/
structure Comparison.Worldly (c : Comparison World World) (T : Telegram → Telegram → Prop) : Prop where
  request : ∀ q : Request, q.isForm = false → (World.request q).Alike c Eq (World.request q)
  sleep : ∀ seconds, (World.sleep seconds).Alike c Eq (World.sleep seconds)
  printLine : ∀ text, (World.printLine text).Alike c Eq (World.printLine text)
  keepMessage : ∀ log message, (World.keepMessage log message).Alike c Eq (World.keepMessage log message)
  readFile : ∀ path, (World.readFile path).Alike c Eq (World.readFile path)
  appendFile : ∀ path text, (World.appendFile path text).Alike c Eq (World.appendFile path text)
  send : ∀ chat other, T chat other → ∀ message, (chat.send message).Alike c Eq (other.send message)

/-- A comparison of worlds that print alike, have the same disk and change it alike during sleeps. It
does not hang on events ahead other than requests, and stays after a sleep and a change of the disk. -/
structure Comparison.Near (c : Comparison World World) : Prop where
  events : ∀ e, c.events e e
  output : ∀ ahead w v, c.states ahead w v → v.output = w.output
  home : ∀ ahead w v, c.states ahead w v → v.home = w.home
  disk : ∀ ahead w v, c.states ahead w v → v.disk = w.disk
  sleeps : ∀ ahead w v, c.states ahead w v → v.sleeps = w.sleeps ∧ v.changes = w.changes
  passed : ∀ e ahead w v, e.request? = none → c.states (e :: ahead) w v → c.states ahead w v
  slept : ∀ ahead w v, c.states ahead w v →
    c.states ahead { w with sleeps := w.sleeps + 1 } { v with sleeps := v.sleeps + 1 }
  written : ∀ ahead w v disk, c.states ahead w v →
    c.states ahead { w with disk := disk } { v with disk := disk }

namespace Comparison.Near

variable {c : Comparison World World} (h : c.Near)

include h

theorem sleep (seconds : Quantity) : (World.sleep seconds).Alike c Eq (World.sleep seconds) := by
  intro ahead w v hStates
  have hPassed := h.passed _ ahead w v rfl hStates
  obtain ⟨hSleeps, hChanges⟩ := h.sleeps ahead w v hPassed
  have hDisk : (v.changes v.sleeps).foldl FileChange.apply v.disk =
      (w.changes w.sleeps).foldl FileChange.apply w.disk := by
    rw [h.disk ahead w v hPassed, hSleeps, hChanges]
  refine ⟨.ok rfl, .cons (h.events _) .nil, ?_⟩
  rw [World.sleep, World.sleep, hDisk]
  exact h.written ahead _ _ _ (h.slept ahead w v hPassed)

theorem printLine (text : String) : (World.printLine text).Alike c Eq (World.printLine text) := by
  intro ahead w v hStates
  have hOutput := h.output _ w v hStates
  rw [World.printLine] at hStates
  rw [World.printLine, World.printLine, hOutput]
  split at hStates
  · exact ⟨.error _, .nil, hStates⟩
  · exact ⟨.ok rfl, .cons (h.events _) .nil, h.passed _ ahead w v rfl hStates⟩

theorem readFile (path : FilePath) : (World.readFile path).Alike c Eq (World.readFile path) := by
  intro ahead w v hStates
  refine ⟨?_, .nil, hStates⟩
  rw [World.readFile, World.readFile, h.disk _ w v hStates, h.home _ w v hStates]
  exact .refl (fun _ => rfl) _

theorem appendFile (path : FilePath) (text : String) :
    (World.appendFile path text).Alike c Eq (World.appendFile path text) := by
  intro ahead w v hStates
  have hAppend : v.disk.append v.home path (Text.Utf8.encode text) =
      w.disk.append w.home path (Text.Utf8.encode text) := by
    rw [h.disk _ w v hStates, h.home _ w v hStates]
  rw [World.appendFile] at hStates
  rw [World.appendFile, World.appendFile, hAppend]
  split at hStates
  · exact ⟨.error _, .nil, hStates⟩
  · split at hStates
    · exact ⟨.error _, .nil, hStates⟩
    · exact ⟨.ok rfl, .nil, h.written ahead w v _ hStates⟩

end Comparison.Near

/-- A retried operation is like another one if the operations are, and the sleeps between them. -/
theorem Retry.alike_run {σ τ α : Type} {c : Comparison σ τ} {x : Action σ α} {y : Action τ α}
    {pause : Quantity → Action σ Unit} {otherPause : Quantity → Action τ Unit}
    {retryable : ErrorKind → Bool} {description : String} {retries : Int} {interval : Quantity}
    (hPause : (pause interval).Alike c Eq (otherPause interval)) (hx : x.Alike c Eq y) :
    (Retry.run retryable description retries interval pause x).Alike c Eq
      (Retry.run retryable description retries interval otherPause y) := by
  have hAttempts (budget : Nat) :
      (Retry.attempts retryable description interval pause x budget).Alike c Eq
        (Retry.attempts retryable description interval otherPause y budget) := by
    induction budget with
    | zero => exact hx
    | succ left ih =>
        refine hx.orElse fun f => .ite ?_ (.fail f)
        exact Action.Alike.log.bindEq fun _ => hPause.bindEq fun _ => ih
  rw [Retry.run, Retry.run]
  split
  · exact .fail _
  · exact hAttempts _

section

variable {c : Comparison World World} {T : Telegram → Telegram → Prop} (h : c.Worldly T)

include h

/-! ## Requests and files -/

namespace HttpClient

variable (client : HttpClient) (url : String) (retries : Int) (interval : Quantity)

theorem alike_getText :
    (client.getText url retries interval).Alike c Eq (client.getText url retries interval) := by
  refine Action.Alike.log.bindEq fun _ => Retry.alike_run (h.sleep interval) ?_
  refine (h.request _ rfl).forkEq (fun reply => ?_) fun _ => .fail _
  exact .ite (.succeed rfl) (.fail _)

theorem alike_postText (body : Text.Loose) (headers : Fields) :
    (client.postText url body headers retries interval).Alike c Eq
      (client.postText url body headers retries interval) := by
  have hSend : (client.sendText url body headers).Alike c Eq (client.sendText url body headers) :=
    (Action.Alike.ofResult (.refl (fun _ => rfl) _)).bindEq fun _ => h.request _ rfl
  refine Action.Alike.log.bindEq fun _ => Retry.alike_run (h.sleep interval) ?_
  refine hSend.forkEq (fun reply => ?_) fun _ => .fail _
  exact .ite (.succeed rfl) (.fail _)

end HttpClient

namespace FileAccess

variable (path : FilePath) (retries : Int) (interval : Quantity)

theorem alike_readText :
    (readText path retries interval).Alike c Eq (readText path retries interval) :=
  Retry.alike_run (h.sleep interval) ((h.readFile path).orElse fun _ => .fail _)

theorem alike_appendLine (text : String) :
    (appendLine path text retries interval).Alike c Eq (appendLine path text retries interval) :=
  Retry.alike_run (h.sleep interval) ((h.appendFile path _).orElse fun _ => .fail _)

end FileAccess

end

/-! ## Notifiers -/

/-- Two notifiers that configs can set up and that differ in their chats alone. -/
inductive Notifier.Like (T : Telegram → Telegram → Prop) : Notifier → Notifier → Prop where
  | print : Like T .print .print
  | memory (log : Nat) : Like T (.memory log) (.memory log)
  | telegram {chat other : Telegram} (chats : T chat other) : Like T (.telegram chat) (.telegram other)
  | chain (name : Option String) {members others : List Notifier}
      (like : List.Forall₂ (Like T) members others) : Like T (.chain name members) (.chain name others)

namespace Notifier

variable {T : Telegram → Telegram → Prop} {c : Comparison World World}

theorem Like.kindName {n other : Notifier} (h : Like T n other) : n.kindName = other.kindName := by
  cases h <;> rfl

theorem Like.isChain {n other : Notifier} (h : Like T n other) : n.isChain = other.isChain := by
  cases h <;> rfl

/-- What configs set up is like itself. -/
theorem like_self (hChats : ∀ chat, T chat chat) {n : Notifier} (h : n.Genuine) : Like T n n := by
  induction h with
  | print => exact .print
  | memory log => exact .memory log
  | telegram chat => exact .telegram (hChats chat)
  | chain name _ ih => exact .chain name (List.forall₂_same.mpr ih)

mutual

/-- Related notifiers send the same, however chains are nested. -/
theorem alike_send (h : c.Worldly T) (message : String) (n other : Notifier) (hLike : Like T n other) :
    (n.send message).Alike c Eq (other.send message) := by
  cases n with
  | print =>
      cases hLike
      exact (h.printLine message).orElse fun _ => .fail _
  | memory log =>
      cases hLike
      exact h.keepMessage log message
  | telegram chat =>
      cases hLike with
      | telegram chats => exact h.send _ _ chats message
  | scripted failure => cases hLike
  | chain name members =>
      cases hLike with
      | chain _ hMembers => exact alike_sendToAll h message 0 members _ hMembers

theorem alike_sendToAll (h : c.Worldly T) (message : String) (index : Nat)
    (members others : List Notifier) (hLike : List.Forall₂ (Like T) members others) :
    (sendToAll message index members).Alike c Eq (sendToAll message index others) := by
  cases members with
  | nil =>
      cases hLike
      exact .succeed rfl
  | cons member rest =>
      cases hLike with
      | cons hMember hRest =>
          rw [sendToAll, sendToAll, hMember.kindName]
          exact Action.Alike.log.bindEq fun _ =>
            (alike_send h message member _ hMember).bindEq fun _ =>
              alike_sendToAll h message (index + 1) rest _ hRest

end

end Notifier

/-! ## Sets of notifiers -/

namespace NotifierSet

variable {T : Telegram → Telegram → Prop} {set other : NotifierSet}

/-- Two sets with the same names, under which notifiers stand that differ in their chats alone. -/
def Like (T : Telegram → Telegram → Prop) (set other : NotifierSet) : Prop :=
  List.Forall₂ (fun a b => a.1 = b.1 ∧ Notifier.Like T a.2 b.2) set other

theorem like_self (hChats : ∀ chat, T chat chat) (h : set.Genuine) : Like T set set :=
  List.forall₂_same.mpr fun entry hMem => ⟨rfl, Notifier.like_self hChats (h entry hMem)⟩

theorem Like.names (h : Like T set other) : set.names = other.names := by
  induction h with
  | nil => rfl
  | cons first _ ih => rw [NotifierSet.names, List.map_cons, first.1]; exact congrArg _ ih

theorem Like.sortedNames (h : Like T set other) : set.sortedNames = other.sortedNames := by
  rw [NotifierSet.sortedNames, h.names, NotifierSet.sortedNames]

/-- What stands under a name in two such sets. -/
theorem Like.get? (h : Like T set other) (name : String) :
    (set.get? name = none ∧ other.get? name = none) ∨
      ∃ n n', set.get? name = some n ∧ other.get? name = some n' ∧ Notifier.Like T n n' := by
  induction h with
  | nil => exact .inl ⟨rfl, rfl⟩
  | @cons a b rest others first hRest ih =>
      obtain ⟨found, n⟩ := a
      obtain ⟨_, n'⟩ := b
      obtain ⟨rfl, hLike⟩ := first
      rw [get?_cons, get?_cons]
      by_cases hName : found = name
      · rw [if_pos hName, if_pos hName]
        exact .inr ⟨n, n', rfl, rfl, hLike⟩
      · rw [if_neg hName, if_neg hName]
        exact ih

theorem Like.require (h : Like T set other) (name : String) :
    ResultsAlike (Notifier.Like T) (set.require name) (other.require name) := by
  rw [NotifierSet.require, NotifierSet.require]
  rcases h.get? name with ⟨hSet, hOther⟩ | ⟨n, n', hSet, hOther, hLike⟩
  · rw [hSet, hOther]
    exact .error _
  · rw [hSet, hOther]
    exact .ok hLike

end NotifierSet

end Flowline
