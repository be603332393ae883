import Flowline.Interpreter
import Flowline.Proofs.Except
import Flowline.Proofs.Http
import Flowline.Proofs.Notifier.Build
import Flowline.Proofs.World

/-!
How the collaborators of a run fail. In a world whose session fails in its own ways, each of them fails
with an error of the operation family, except for what it was not written to catch: a path that no file
can have, a text that has no form in bytes, and an output that was shut.
-/

namespace Flowline

variable {output : OutputCondition} {P : Failure → Prop}

theorem Action.Confined.world {α : Type} {Inv : World → Prop} {x : Action World α}
    (h : x.Confined Inv P) : (Run.inWorld x).Confined (fun r => Inv r.world) P :=
  fun r => h r.world

/-- A retried operation fails as its attempts do. -/
theorem Retry.confined_run {α : Type} {Inv : World → Prop} {retryable : ErrorKind → Bool}
    {description : String} {interval : Quantity} {operation : Action World α}
    (hInterval : interval.isNegative = false) (hSleep : (World.sleep interval).Confined Inv P)
    (hOperation : operation.Confined Inv P) (budget : Nat) :
    (Retry.run retryable description budget interval World.sleep operation).Confined Inv P := by
  rw [Retry.run_eq_attempts _ _ hInterval]
  induction budget with
  | zero => exact hOperation
  | succ left ih =>
      rw [Retry.attempts]
      refine hOperation.orElse fun f hFails => .ite ?_ (.fail hFails)
      exact Action.Confined.log.bind fun _ => hSleep.bind fun _ => ih

/-! ## Requests and files -/

namespace HttpClient

variable {c : HttpClient} {interval : Quantity}

theorem confined_onFailure {α : Type} {text : String → String} {f : Failure}
    (h : f.kind.isTransportError = true) :
    (onFailure text f : Action World α).Confined (World.Regular output)
      (fun f => f.kind.isOperationError = true) := by
  rw [onFailure, if_pos h]
  exact .fail rfl

/-- Whatever becomes of a request, its failure is one of the operation. -/
theorem confined_getText (url : String) (retries : Nat) (hInterval : interval.isNegative = false) :
    (c.getText url retries interval).Confined (World.Regular output)
      (fun f => f.kind.isOperationError = true) := by
  refine Action.Confined.log.bind fun _ =>
    Retry.confined_run hInterval (World.confined_sleep _) ?_ retries
  exact (World.confined_request _).fork (fun _ => .ite (.succeed _) (.fail rfl))
    fun _ => confined_onFailure

/-- The same is true of a text that is sent, unless the text has no form in bytes. -/
theorem confined_postText (url : String) (body : Text.Loose) (headers : Fields) (retries : Nat)
    (hInterval : interval.isNegative = false) :
    (c.postText url body headers retries interval).Confined (World.Regular output)
      (fun f => f.kind.isOperationError = true ∨ encodable body = .error f) := by
  cases body with
  | torn text =>
      rw [postText_torn c url text headers retries hInterval]
      exact Action.Confined.log.bind fun _ => .fail (.inr rfl)
  | whole text =>
      refine Action.Confined.log.bind fun _ =>
        Retry.confined_run hInterval (World.confined_sleep _) ?_ retries
      exact (World.confined_request _).fork (fun _ => .ite (.succeed _) (.fail (.inl rfl)))
        fun _ h => (confined_onFailure h).mono fun _ => .inl

end HttpClient

namespace FileAccess

variable {interval : Quantity}

/-- A failure that is told as one of the file access, or that stays what the world made of a path. -/
theorem confined_raise {α : Type} {caught : Bool} {text : String} {path : FilePath} {f : Failure}
    (h : caught = true ∨ World.checkPath path = .error f) :
    (Action.fail (if caught then failure text else f) : Action World α).Confined
      (World.Regular output)
      (fun f => f.kind.isOperationError = true ∨ World.checkPath path = .error f) := by
  cases caught with
  | true => exact .fail (.inl rfl)
  | false => exact .fail (.inr (h.resolve_left Bool.false_ne_true))

/-- Reading fails as an operation, unless no file can have the path. -/
theorem confined_readText (path : FilePath) (retries : Nat)
    (hInterval : interval.isNegative = false) :
    (readText path retries interval).Confined (World.Regular output)
      (fun f => f.kind.isOperationError = true ∨ World.checkPath path = .error f) := by
  refine Retry.confined_run hInterval (World.confined_sleep _) ?_ retries
  exact (World.confined_readFile path).orElse fun _ => confined_raise

theorem confined_appendLine (path : FilePath) (text : String) (retries : Nat)
    (hInterval : interval.isNegative = false) :
    (appendLine path text retries interval).Confined (World.Regular output)
      (fun f => f.kind.isOperationError = true ∨ World.checkPath path = .error f) := by
  refine Retry.confined_run hInterval (World.confined_sleep _) ?_ retries
  exact (World.confined_appendFile path _).orElse fun _ => confined_raise

/-- A path that no file can have is told as it is, at the first attempt. -/
theorem result_readText_of_checkPath {path : FilePath} {f : Failure} (retries : Nat) (w : World)
    (hInterval : interval.isNegative = false) (h : World.checkPath path = .error f) :
    (readText path retries interval w).result = .error f := by
  have hRead := World.readFile_of_checkPath (w := w) h
  cases World.eq_of_checkPath h
  have hOnce : (readOnce path w).result = .error (.general .value "embedded null byte") := by
    rw [readOnce, Action.orElse_of_error hRead]
    rfl
  rw [readText, Retry.run_of_unretryable hInterval hOnce rfl, hOnce]

theorem result_appendLine_of_checkPath {path : FilePath} {f : Failure} (text : String)
    (retries : Nat) (w : World) (hInterval : interval.isNegative = false)
    (h : World.checkPath path = .error f) :
    (appendLine path text retries interval w).result = .error f := by
  have hAppend : (World.appendFile path (text ++ "\n") w).result = .error f := by
    simp only [World.appendFile, h]
  cases World.eq_of_checkPath h
  have hOnce : (appendOnce path text w).result = .error (.general .value "embedded null byte") := by
    rw [appendOnce, Action.orElse_of_error hAppend]
    rfl
  rw [appendLine, Retry.run_of_unretryable hInterval hOnce rfl, hOnce]

end FileAccess

/-! ## Notifiers -/

namespace Notifier

/-- A notifier that configs can set up: none that is scripted, also not in a chain. -/
inductive Genuine : Notifier → Prop where
  | print : Genuine .print
  | memory (log : Nat) : Genuine (.memory log)
  | telegram (chat : Telegram) : Genuine (.telegram chat)
  | chain {members : List Notifier} (name : Option String)
      (genuine : ∀ member ∈ members, Genuine member) : Genuine (.chain name members)

/-- How sending may fail: as an operation, or because it prints to an output that was shut. -/
def Undelivered (output : OutputCondition) (f : Failure) : Prop :=
  f.kind.isOperationError = true ∨ (output = .shut ∧ f = World.shutFailure)

theorem confined_sendToOutput (message : String) :
    (sendToOutput message).Confined (World.Regular output) (Undelivered output) := by
  refine (World.confined_printLine message).orElse fun f hFails => .fail ?_
  split
  · exact .inl rfl
  · rename_i hOther
    rw [Bool.or_eq_true, not_or] at hOther
    exact .inr ((hFails.resolve_left hOther.1).resolve_left hOther.2)

theorem isOperationError_of_replyFailure? {chat : Telegram} {reply : Reply} {f : Failure}
    (h : chat.replyFailure? reply = some f) : f.kind.isOperationError = true := by
  rw [Telegram.replyFailure?] at h
  split at h
  · cases h
    rfl
  · split at h
    · cases h
      rfl
    · obtain ⟨text, -, rfl⟩ := Option.map_eq_some_iff.mp h
      rfl

theorem confined_telegram (chat : Telegram) (message : String) :
    (chat.send message).Confined (World.Regular output)
      (fun f => f.kind.isOperationError = true) := by
  refine (World.confined_request _).fork (fun reply => ?_) fun f hTransport => ?_
  · split
    · rename_i hFails
      exact .fail (isOperationError_of_replyFailure? hFails)
    · exact .log
  · rw [if_pos hTransport]
    exact .fail rfl

mutual

/-- Sending fails as an operation, unless it prints to an output that was shut. -/
theorem confined_send (message : String) (n : Notifier) (h : n.Genuine) :
    (n.send message).Confined (World.Regular output) (Undelivered output) := by
  cases n with
  | print => exact confined_sendToOutput message
  | memory log => exact World.confined_keepMessage log message
  | telegram chat => exact (confined_telegram chat message).mono fun _ => .inl
  | scripted failure => cases h
  | chain name members =>
      cases h with
      | chain _ hMembers => exact confined_sendToAll message 0 members hMembers

theorem confined_sendToAll (message : String) (index : Nat) (members : List Notifier)
    (h : ∀ member ∈ members, member.Genuine) :
    (sendToAll message index members).Confined (World.Regular output) (Undelivered output) := by
  cases members with
  | nil => exact .succeed _
  | cons member rest =>
      obtain ⟨hMember, hRest⟩ := List.forall_mem_cons.mp h
      rw [sendToAll]
      exact Action.Confined.log.bind fun _ => (confined_send message member hMember).bind fun _ =>
        confined_sendToAll message (index + 1) rest hRest

end

end Notifier

namespace NotifierSet

theorem genuine_of_plainNotifier? {settings : Settings} {config : NotifierConfig} {n : Notifier}
    (h : plainNotifier? settings config = .ok (some n)) : n.Genuine := by
  cases config with
  | print name =>
      cases h
      exact .print
  | memory name =>
      cases h
      exact .memory _
  | chain name targets => cases h
  | telegram name token chatId =>
      obtain ⟨_, -, h⟩ := bind_eq_ok.mp h
      obtain ⟨chat, -, h⟩ := bind_eq_ok.mp h
      cases h
      exact .telegram chat

/-- All notifiers of a set can be set up by configs. -/
def Genuine (set : NotifierSet) : Prop := ∀ entry ∈ set, entry.2.Genuine

variable {built set : NotifierSet}

theorem Genuine.put (h : built.Genuine) {name : String} {n : Notifier} (hNew : n.Genuine) :
    (built.put name n).Genuine := by
  intro entry hMem
  rcases mem_of_mem_put hMem with rfl | hOld
  · exact hNew
  · exact h entry hOld

theorem Genuine.get? (h : set.Genuine) {name : String} {n : Notifier}
    (hFound : set.get? name = some n) : n.Genuine := by
  induction set with
  | nil => cases hFound
  | cons entry rest ih =>
      obtain ⟨hEntry, hRest⟩ := List.forall_mem_cons.mp h
      rw [get?_cons] at hFound
      split at hFound
      · cases hFound
        exact hEntry
      · exact ih hRest hFound

theorem genuine_of_withPlain {settings : Settings} {configs : List NotifierConfig}
    (hBuilt : built.Genuine) (h : withPlain settings built configs = .ok set) : set.Genuine := by
  induction configs generalizing built with
  | nil =>
      cases h
      exact hBuilt
  | cons config rest ih =>
      rw [withPlain, bind_eq_ok] at h
      obtain ⟨found, hPlain, h⟩ := h
      cases found with
      | none => exact ih hBuilt h
      | some n => exact ih (hBuilt.put (genuine_of_plainNotifier? hPlain)) h

theorem genuine_of_member {chain target : String} {n : Notifier} (hBuilt : built.Genuine)
    (h : member built chain target = .ok n) : n.Genuine := by
  rw [member] at h
  split at h
  · cases h
  · rename_i hFound
    split at h
    · cases h
    · cases h
      exact hBuilt.get? hFound

theorem genuine_of_withChains {configs : List NotifierConfig} (hBuilt : built.Genuine)
    (h : withChains built configs = .ok set) : set.Genuine := by
  induction configs generalizing built with
  | nil =>
      cases h
      exact hBuilt
  | cons config rest ih =>
      cases config with
      | chain name targets =>
          rw [withChains, bind_eq_ok] at h
          obtain ⟨members, hMembers, h⟩ := h
          have hGenuine := forall_of_mapM_eq_ok (fun _ _ _ => genuine_of_member hBuilt) hMembers
          exact ih (hBuilt.put (.chain _ hGenuine)) h
      | _ => exact ih hBuilt h

/-- Configs set up genuine notifiers only. -/
theorem genuine_of_build {settings : Settings} {configs : List NotifierConfig}
    (h : build settings configs = .ok set) : set.Genuine := by
  rw [build, bind_eq_ok] at h
  obtain ⟨plain, hPlain, h⟩ := h
  exact genuine_of_withChains (genuine_of_withPlain (List.forall_mem_nil _) hPlain) h

end NotifierSet

end Flowline
