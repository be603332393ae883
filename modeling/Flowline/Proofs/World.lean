import Flowline.Proofs.Action
import Flowline.World.Basic

/-!
How the world fails. Each of its actions leaves the session and the output as they were, and fails in
ways that are told here: requests as the session does, printing as the output makes it, and files by
their paths, by the system, or by bytes that are no text.
-/

namespace Flowline

/-- A session whose failures are all of the transport family. -/
def Session.Transports (session : Session) : Prop :=
  ∀ n f, session n = .error f → f.kind.isTransportError = true

/-- A world with such a session and with an output in some condition. -/
structure World.Regular (output : OutputCondition) (w : World) : Prop where
  session : w.session.Transports
  output : w.output = output

namespace World

variable {output : OutputCondition} {P : Failure → Prop}

theorem confined_request (q : Request) :
    (request q).Confined (Regular output) (fun f => f.kind.isTransportError = true) :=
  fun w h => ⟨⟨h.session, h.output⟩, fun f hError => h.session w.requests f hError⟩

theorem confined_sleep (seconds : Quantity) : (sleep seconds).Confined (Regular output) P :=
  fun _ h => .of_ok ⟨h.session, h.output⟩ rfl

theorem confined_keepMessage (log : Nat) (message : String) :
    (keepMessage log message).Confined (Regular output) P :=
  fun _ h => .of_ok ⟨h.session, h.output⟩ rfl

/-! ## The output -/

/-- The failure to print to an output that was shut. -/
def shutFailure : Failure := .general .value "I/O operation on closed file."

theorem printFailure?_eq_some {text : String} {f : Failure} (h : printFailure? output text = some f) :
    f.kind.isSystemError = true ∨ f.kind.isKindOf (.general .unicode) = true ∨
      (output = .shut ∧ f = shutFailure) := by
  cases output with
  | working => cases h
  | broken =>
      cases h
      exact .inl (by decide)
  | asciiOnly =>
      obtain ⟨run, -, rfl⟩ := Option.map_eq_some_iff.mp h
      exact .inr (.inl rfl)
  | full =>
      cases h
      exact .inl (by decide)
  | shut =>
      cases h
      exact .inr (.inr ⟨rfl, rfl⟩)

theorem confined_printLine (text : String) :
    (printLine text).Confined (Regular output) fun f =>
      f.kind.isSystemError = true ∨ f.kind.isKindOf (.general .unicode) = true ∨
        (output = .shut ∧ f = shutFailure) := by
  intro w h
  cases hFails : printFailure? w.output text with
  | some f =>
      have hPrint : printLine text w = ⟨.error f, [], w⟩ := by rw [printLine, hFails]
      rw [Action.ConfinedAt, hPrint]
      refine ⟨h, fun g hError => ?_⟩
      cases hError
      exact printFailure?_eq_some (h.output ▸ hFails)
  | none =>
      have hPrint : printLine text w = ⟨.ok (), [.printed (text ++ "\n")], w⟩ := by
        rw [printLine, hFails]
      refine .of_ok (a := ()) ?_ (by rw [hPrint])
      rw [hPrint]
      exact h

/-! ## Files -/

variable {path : FilePath} {w : World} {f : Failure}

/-- Of a path that no file can have there is one thing to tell. -/
theorem eq_of_checkPath (h : checkPath path = .error f) :
    f = .general .value "embedded null byte" := by
  rw [checkPath] at h
  split at h
  · exact (Except.error.inj h).symm
  · cases h

theorem isSystemError_fileFailure (fault : FileFault) (path : FilePath) :
    (fileFailure fault path).kind.isSystemError = true := by
  cases fault <;> rfl

theorem readFile_of_checkPath (h : checkPath path = .error f) :
    (readFile path w).result = .error f := by
  simp only [readFile, h, bind, Except.bind]

/-- A file cannot be read because of its path, because the system cannot open it, or because its bytes
are no text. -/
theorem readFile_error_cases (h : (readFile path w).result = .error f) :
    checkPath path = .error f ∨ f.kind.isSystemError = true ∨
      ∃ bytes fault, checkPath path = .ok () ∧ w.disk.read w.home path = .ok bytes ∧
        Text.Utf8.decode bytes = .error fault ∧ f = .general .unicodeDecode fault.message := by
  cases hPath : checkPath path with
  | error g =>
      rw [readFile_of_checkPath hPath] at h
      cases h
      exact .inl rfl
  | ok u =>
      simp only [readFile, hPath, bind, Except.bind] at h
      split at h
      · cases h
        exact .inr (.inl (isSystemError_fileFailure _ path))
      · rename_i bytes hRead
        split at h
        · rename_i fault hDecode
          cases h
          exact .inr (.inr ⟨bytes, fault, rfl, hRead, hDecode, rfl⟩)
        · cases h

theorem confined_readFile (path : FilePath) :
    (readFile path).Confined (Regular output) fun f =>
      (f.kind.isSystemError || f.kind = .general .unicodeDecode) = true ∨
        checkPath path = .error f := by
  refine fun w h => ⟨h, fun f hError => ?_⟩
  rcases readFile_error_cases hError with hPath | hSystem | ⟨_, _, -, -, -, rfl⟩
  · exact .inr hPath
  · exact .inl (by rw [hSystem, Bool.true_or])
  · exact .inl rfl

theorem confined_appendFile (path : FilePath) (text : String) :
    (appendFile path text).Confined (Regular output) fun f =>
      f.kind.isSystemError = true ∨ checkPath path = .error f := by
  intro w h
  rw [Action.ConfinedAt, appendFile]
  split
  · rename_i f hPath
    refine ⟨h, fun g hError => ?_⟩
    cases hError
    exact .inr hPath
  · split
    · refine ⟨h, fun g hError => ?_⟩
      cases hError
      exact .inl (isSystemError_fileFailure _ path)
    · refine ⟨⟨h.session, h.output⟩, fun g hError => ?_⟩
      cases hError

end World

end Flowline
