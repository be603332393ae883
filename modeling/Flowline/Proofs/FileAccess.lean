import Flowline.FileAccess
import Flowline.Proofs.Retry.Attempts
import Flowline.Proofs.Text.Utf8
import Flowline.Proofs.World.FileStore

/-!
Lines that are added to a file and the text that is then read from it. An attempt to add a line adds
all of it or changes nothing, and the attempts end with the first that succeeds, so a line is added
once or not at all, whatever happens to the files between the attempts.
-/

namespace Flowline

namespace Text.Utf8

theorem encode_append (first second : String) :
    encode (first ++ second) = encode first ++ encode second := by
  rw [encode, encode, encode, String.toList_append, List.flatMap_append]

theorem withLineFeeds_go_eq_self {cs : List Char} (h : '\r' ∉ cs) : withLineFeeds.go cs = cs := by
  induction cs with
  | nil => rfl
  | cons c rest ih =>
      have hOther : c ≠ '\r' := fun hSame => h (hSame ▸ List.mem_cons_self)
      have hRest := ih fun hMem => h (List.mem_cons_of_mem c hMem)
      rw [withLineFeeds.go, hRest]
      · rintro _ rfl
        exact absurd rfl hOther
      · rintro rfl
        exact absurd rfl hOther

/-- A text without carriage returns is read as it stands. -/
theorem withLineFeeds_eq_self {s : String} (h : '\r' ∉ s.toList) : withLineFeeds s = s := by
  rw [withLineFeeds, withLineFeeds_go_eq_self h, String.ofList_toList]

end Text.Utf8

namespace FileAccess

variable {path : FilePath} {home place : List String} {old : List UInt8} {text : String} {w : World}
  {retries : Int} {interval : Quantity} {before after : FileStore} {f : Failure}

/-- What adding a line does to files: the file at one place gets longer by the line, and nothing stands
differently at any other place. -/
def AddsLine (home : List String) (path : FilePath) (text : String) (before after : FileStore) :
    Prop :=
  ∃ place old, before.Opens home path place old ∧
    after.node? place = some (.file (old ++ Text.Utf8.encode text ++ [10])) ∧
    ∀ other, other ≠ place → after.node? other = before.node? other

/-- The bytes of a line are those of its text and a line feed. -/
theorem append_encode_line (old : List UInt8) (text : String) :
    old ++ Text.Utf8.encode (text ++ "\n") = old ++ Text.Utf8.encode text ++ [10] := by
  rw [Text.Utf8.encode_append, List.append_assoc]
  rfl

/-- An attempt at a file that can be opened adds the line. -/
theorem appendOnce_of_opens (hPath : World.checkPath path = .ok ())
    (h : w.disk.Opens w.home path place old) (text : String) :
    appendOnce path text w = ⟨.ok (), [], { w with
      disk := w.disk.put place (.file (old ++ Text.Utf8.encode text ++ [10])) }⟩ := by
  have hAppend : World.appendFile path (text ++ "\n") w = ⟨.ok (), [], { w with
      disk := w.disk.put place (.file (old ++ Text.Utf8.encode text ++ [10])) }⟩ := by
    simp only [World.appendFile, hPath, h.append, append_encode_line]
  have hOk := congrArg Done.result hAppend
  rw [appendOnce, Action.orElse_of_ok hOk, hAppend]

/-- An attempt adds the line or leaves the world as it was. -/
theorem appendOnce_cases (path : FilePath) (text : String) (w : World) :
    (∃ f, appendOnce path text w = ⟨.error f, [], w⟩) ∨
      ∃ disk, AddsLine w.home path text w.disk disk ∧
        appendOnce path text w = ⟨.ok (), [], { w with disk }⟩ := by
  have hFails {f : Failure} (h : World.appendFile path (text ++ "\n") w = ⟨.error f, [], w⟩) :
      ∃ g, appendOnce path text w = ⟨.error g, [], w⟩ := by
    have hError := congrArg Done.result h
    rw [appendOnce, Action.orElse_of_error hError, h]
    exact ⟨_, rfl⟩
  cases hPath : World.checkPath path with
  | error f => exact .inl (hFails (f := f) (by simp only [World.appendFile, hPath]))
  | ok u =>
      cases hAppend : w.disk.append w.home path (Text.Utf8.encode (text ++ "\n")) with
      | error fault =>
          exact .inl (hFails (f := World.fileFailure fault path)
            (by simp only [World.appendFile, hPath, hAppend]))
      | ok disk =>
          obtain ⟨place, old, hOpens, -⟩ := FileStore.append_eq_ok hAppend
          refine .inr ⟨_, ⟨place, old, hOpens, FileStore.node?_put_self hOpens.ne_directory _, ?_⟩,
            appendOnce_of_opens hPath hOpens text⟩
          exact fun other hNe => FileStore.node?_put_of_ne hNe _ _

/-- If every earlier attempt has failed, an attempt to add a line begins in a world that only the sleeps
have changed. -/
theorem stateAt_appendOnce {n : Nat}
    (h : ∀ i < n, ∃ f,
      (Retry.outcome (World.sleep interval) (appendOnce path text) w i).result = .error f) :
    Retry.stateAt (World.sleep interval) (appendOnce path text) w n = w.later 0 n := by
  induction n with
  | zero => rfl
  | succ n ih =>
      have hBefore := ih fun i hLess => h i (Nat.lt_succ_of_lt hLess)
      obtain ⟨f, hFails⟩ := h n (Nat.lt_succ_self n)
      rw [Retry.outcome, hBefore] at hFails
      rw [Retry.stateAt, hBefore]
      rcases appendOnce_cases path text (w.later 0 n) with ⟨g, hDone⟩ | ⟨disk, -, hDone⟩
      · rw [hDone, World.sleep_later]
      · rw [hDone] at hFails
        cases hFails

/-- A line is added by one attempt, after attempts that all have failed and changed nothing, or by
none. -/
theorem appendLine_cases (path : FilePath) (text : String) (retries : Int) (interval : Quantity)
    (w : World) :
    ∃ n, (∀ i < n, ∃ f,
        Retry.outcome (World.sleep interval) (appendOnce path text) w i =
          ⟨.error f, [], w.later 0 i⟩) ∧
      (appendLine path text retries interval w).events.filter (!·.isLogged) =
        List.replicate n (.slept interval) ∧
      ((∃ f, (appendLine path text retries interval w).result = .error f ∧
          (appendLine path text retries interval w).state = w.later 0 n) ∨
        ∃ disk, AddsLine w.home path text (w.diskAfter n) disk ∧
          Retry.outcome (World.sleep interval) (appendOnce path text) w n =
            ⟨.ok (), [], { w.later 0 n with disk }⟩ ∧
          (appendLine path text retries interval w).result = .ok () ∧
          (appendLine path text retries interval w).state = { w.later 0 n with disk }) := by
  rw [appendLine, Retry.run]
  cases hBudget : Retry.checkBudget retries interval with
  | error f => exact ⟨0, fun i hLess => absurd hLess (Nat.not_lt_zero i), rfl, .inl ⟨f, rfl, rfl⟩⟩
  | ok budget =>
      obtain ⟨k, hLast⟩ : ∃ k, Retry.StopsAt isRetryable (World.sleep interval)
          (appendOnce path text) w budget k :=
        Retry.IsLast.exists_isLast _ budget
      have hBefore {n : Nat} (hLe : n ≤ k) :
          Retry.stateAt (World.sleep interval) (appendOnce path text) w n = w.later 0 n := by
        refine stateAt_appendOnce fun i hLess => ?_
        obtain ⟨f, hFails, -⟩ := hLast.earlier i (Nat.lt_of_lt_of_le hLess hLe)
        exact ⟨f, hFails⟩
      have hEarlier (i : Nat) (hLess : i < k) : ∃ f,
          Retry.outcome (World.sleep interval) (appendOnce path text) w i =
            ⟨.error f, [], w.later 0 i⟩ := by
        obtain ⟨f, hFails, -⟩ := hLast.earlier i hLess
        rw [Retry.outcome, hBefore (Nat.le_of_lt hLess)] at hFails ⊢
        rcases appendOnce_cases path text (w.later 0 i) with ⟨g, hDone⟩ | ⟨disk, -, hDone⟩
        · exact ⟨g, hDone⟩
        · rw [hDone] at hFails
          cases hFails
      have hSilent (i : Nat) (hLess : i < k) :
          (Retry.outcome (World.sleep interval) (appendOnce path text) w i).events.filter
            (!·.isLogged) = [] := by
        obtain ⟨f, hDone⟩ := hEarlier i hLess
        rw [hDone]
        rfl
      refine ⟨k, hEarlier, ?_⟩
      simp only [Retry.attempts_of_stopsAt (Retry.succeeds_sleep interval) hLast,
        Done.result_after, Done.state_after, Done.events_after, List.filter_append,
        Retry.filter_seenBefore hSilent, List.nil_append, List.flatten_replicate_singleton]
      rw [Retry.outcome, hBefore (Nat.le_refl k)]
      rcases appendOnce_cases path text (w.later 0 k) with ⟨f, hDone⟩ | ⟨disk, hAdds, hDone⟩
      · rw [hDone]
        exact ⟨List.append_nil _, .inl ⟨f, rfl, rfl⟩⟩
      · rw [hDone]
        exact ⟨List.append_nil _, .inr ⟨disk, hAdds, rfl, rfl, rfl⟩⟩

/-! ## Reading what has been added -/

/-- A line to be added, with its own budget. -/
structure Line where
  text : String
  retries : Int
  interval : Quantity

/-- A line that can be added and read back: its budget is not negative, and no carriage return is in
it. -/
structure Line.Plain (line : Line) : Prop where
  retries : 0 ≤ line.retries
  interval : line.interval.isNegative = false
  text : '\r' ∉ line.text.toList

/-- Adds lines in order. -/
def addLines (path : FilePath) : List Line → Action World Unit
  | [] => .succeed ()
  | line :: rest => do
      appendLine path line.text line.retries line.interval
      addLines path rest

/-- The text of lines, each with the line feed at its end. -/
def textOf (lines : List Line) : String := String.join (lines.map fun line => line.text ++ "\n")

/-- Where a file can be opened, a line is added at once. -/
theorem appendLine_of_opens (hPath : World.checkPath path = .ok ())
    (h : w.disk.Opens w.home path place old) (text : String) (hRetries : 0 ≤ retries)
    (hInterval : interval.isNegative = false) :
    appendLine path text retries interval w = ⟨.ok (), [], { w with
      disk := w.disk.put place (.file (old ++ Text.Utf8.encode text ++ [10])) }⟩ := by
  have hOnce := appendOnce_of_opens hPath h text
  rw [appendLine, Retry.run_of_ok hRetries hInterval (congrArg Done.result hOnce), hOnce]

/-- A path leads to a file with a text. -/
def Contains (disk : FileStore) (home : List String) (path : FilePath) (place : List String)
    (text : String) : Prop :=
  disk.Opens home path place (Text.Utf8.encode text) ∧
    disk.node? place = some (.file (Text.Utf8.encode text))

/-- A line that is added stands behind the text that was there. -/
theorem contains_put {disk : FileStore} {initial : String}
    (h : disk.Opens home path place (Text.Utf8.encode initial)) (text : String) :
    Contains (disk.put place (.file (Text.Utf8.encode initial ++ Text.Utf8.encode text ++ [10])))
      home path place (initial ++ (text ++ "\n")) := by
  rw [Contains, Text.Utf8.encode_append, append_encode_line]
  exact ⟨h.put _, FileStore.node?_put_self h.ne_directory _⟩

theorem append_textOf_cons (initial : String) (line : Line) (rest : List Line) :
    initial ++ textOf (line :: rest) = initial ++ (line.text ++ "\n") ++ textOf rest := by
  rw [textOf, List.map_cons, String.join_cons, ← String.append_assoc]
  rfl

/-- The first of several lines is added before all others. -/
theorem addLines_cons {line : Line} (hPath : World.checkPath path = .ok ())
    (h : w.disk.Opens w.home path place old) (hLine : line.Plain) (rest : List Line) :
    addLines path (line :: rest) w = addLines path rest { w with
      disk := w.disk.put place (.file (old ++ Text.Utf8.encode line.text ++ [10])) } := by
  have hAppend := appendLine_of_opens hPath h line.text hLine.retries hLine.interval
  rw [addLines, Action.bind_of_ok _ (congrArg Done.result hAppend), hAppend]
  rfl

/-- Lines are added in order behind the text that was there. -/
theorem addLines_of_contains {lines : List Line} {initial : String}
    (hPath : World.checkPath path = .ok ()) (h : Contains w.disk w.home path place initial)
    (hLines : ∀ line ∈ lines, line.Plain) :
    ∃ disk, addLines path lines w = ⟨.ok (), [], { w with disk }⟩ ∧
      Contains disk w.home path place (initial ++ textOf lines) := by
  induction lines generalizing w initial with
  | nil =>
      refine ⟨w.disk, rfl, ?_⟩
      rw [textOf, List.map_nil, String.join_nil, String.append_empty]
      exact h
  | cons line rest ih =>
      obtain ⟨hFirst, hRest⟩ := List.forall_mem_cons.mp hLines
      rw [addLines_cons hPath h.1 hFirst, append_textOf_cons]
      exact ih (contains_put h.1 line.text) hRest

/-- Lines are added to a file that can be opened, and the first of them makes it if it is not there. -/
theorem addLines_of_opens {lines : List Line} {initial : String}
    (hPath : World.checkPath path = .ok ())
    (h : w.disk.Opens w.home path place (Text.Utf8.encode initial))
    (hPresent : w.disk.node? place = none → lines ≠ []) (hLines : ∀ line ∈ lines, line.Plain) :
    ∃ disk, addLines path lines w = ⟨.ok (), [], { w with disk }⟩ ∧
      Contains disk w.home path place (initial ++ textOf lines) := by
  rcases h.holds with hFile | ⟨hNone, -⟩
  · exact addLines_of_contains hPath ⟨h, hFile⟩ hLines
  · cases lines with
    | nil => exact absurd rfl (hPresent hNone)
    | cons line rest =>
        obtain ⟨hFirst, hRest⟩ := List.forall_mem_cons.mp hLines
        rw [addLines_cons hPath h hFirst, append_textOf_cons]
        exact addLines_of_contains (w := { w with disk := _ }) hPath (contains_put h line.text) hRest

/-- The text of a file without carriage returns is read as it stands. -/
theorem readText_of_contains {initial : String} (hPath : World.checkPath path = .ok ())
    (h : Contains w.disk w.home path place initial) (hPlain : '\r' ∉ initial.toList)
    (hRetries : 0 ≤ retries) (hInterval : interval.isNegative = false) :
    readText path retries interval w = ⟨.ok initial, [], w⟩ := by
  have hOnce : readOnce path w = ⟨.ok initial, [], w⟩ := by
    have hRead : World.readFile path w = ⟨.ok initial, [], w⟩ := by
      simp only [World.readFile, hPath, h.1.read h.2, Text.Utf8.decode_encode,
        Text.Utf8.withLineFeeds_eq_self hPlain, bind, Except.bind]
    rw [readOnce, Action.orElse_of_ok (congrArg Done.result hRead), hRead]
  rw [readText, Retry.run_of_ok hRetries hInterval (congrArg Done.result hOnce), hOnce]

theorem plain_append {first second : String} (hFirst : '\r' ∉ first.toList)
    (hSecond : '\r' ∉ second.toList) : '\r' ∉ (first ++ second).toList := by
  rw [String.toList_append, List.mem_append]
  exact not_or_intro hFirst hSecond

theorem plain_textOf {lines : List Line} (h : ∀ line ∈ lines, line.Plain) :
    '\r' ∉ (textOf lines).toList := by
  induction lines with
  | nil => exact List.not_mem_nil
  | cons line rest ih =>
      obtain ⟨hFirst, hRest⟩ := List.forall_mem_cons.mp h
      rw [textOf, List.map_cons, String.join_cons]
      exact plain_append (plain_append hFirst.text (by decide)) (ih hRest)

/-- A line is added by exactly one attempt, which makes the file at one place longer by the line, or
the operation fails and no attempt has changed any file; all that is different besides is what the
sleeps between the attempts have changed. Lines that are added to a file that can be opened are read
back in order. -/
theorem lines_are_added_once_and_read_back (path : FilePath) :
    (∀ text retries interval w, ∃ n,
      (∀ i < n, ∃ f,
        Retry.outcome (World.sleep interval) (appendOnce path text) w i =
          ⟨.error f, [], w.later 0 i⟩) ∧
      (appendLine path text retries interval w).events.filter (!·.isLogged) =
        List.replicate n (.slept interval) ∧
      ((∃ f, (appendLine path text retries interval w).result = .error f ∧
          (appendLine path text retries interval w).state = w.later 0 n) ∨
        ∃ disk, AddsLine w.home path text (w.diskAfter n) disk ∧
          Retry.outcome (World.sleep interval) (appendOnce path text) w n =
            ⟨.ok (), [], { w.later 0 n with disk }⟩ ∧
          (appendLine path text retries interval w).result = .ok () ∧
          (appendLine path text retries interval w).state = { w.later 0 n with disk })) ∧
    ∀ (w : World) (place : List String) (initial : String) (lines : List Line) (retries : Int)
      (interval : Quantity), World.checkPath path = .ok () →
      w.disk.Opens w.home path place (Text.Utf8.encode initial) →
      (w.disk.node? place = none → lines ≠ []) →
      '\r' ∉ initial.toList → (∀ line ∈ lines, line.Plain) →
      0 ≤ retries → interval.isNegative = false →
      ((do
        addLines path lines
        readText path retries interval) w).result = .ok (initial ++ textOf lines) := by
  refine ⟨appendLine_cases path, ?_⟩
  intro w place initial lines retries interval hPath hOpens hPresent hInitial hLines hRetries hInterval
  obtain ⟨disk, hDone, hContains⟩ := addLines_of_opens hPath hOpens hPresent hLines
  rw [Action.bind_of_ok _ (congrArg Done.result hDone), hDone,
    readText_of_contains hPath hContains (plain_append hInitial (plain_textOf hLines)) hRetries
      hInterval]
  rfl

/-- A world with a directory for logs beside the one in which it works. -/
def emptyWorld : World :=
  .starting (fun _ => .error noNetwork) ["srv", "run"]
    [(["srv"], .directory), (["srv", "run"], .directory), (["srv", "log"], .directory)]
    (fun _ => []) .working

/-- A path from the root, and back on the way. -/
def logPath : FilePath := ⟨"/", ["srv", "run", "..", "log", "out.txt"]⟩

def logLines : List Line :=
  [⟨"one", 0, standardInterval⟩, ⟨"zwölf", 2, .int 0⟩]

theorem lines_are_added_once_and_read_back_log :
    ((do
      addLines logPath logLines
      readText logPath 0 standardInterval) emptyWorld).result = .ok "one\nzwölf\n" := by
  have hStandard : standardInterval.isNegative = false := by decide +kernel
  have hOpens : emptyWorld.disk.Opens emptyWorld.home logPath ["srv", "log", "out.txt"]
      (Text.Utf8.encode "") :=
    ⟨by decide +kernel, .inr ⟨rfl, rfl⟩⟩
  have hLines : ∀ line ∈ logLines, line.Plain := by
    simp only [logLines, List.forall_mem_cons]
    exact ⟨⟨by decide, hStandard, by decide⟩, ⟨by decide, rfl, by decide⟩, List.forall_mem_nil _⟩
  have hRead := (lines_are_added_once_and_read_back logPath).2 emptyWorld ["srv", "log", "out.txt"] ""
    logLines 0 standardInterval rfl hOpens (fun _ => List.cons_ne_nil _ _) (by decide) hLines
    (Int.le_refl 0) hStandard
  rw [hRead]
  decide +kernel

end FileAccess

end Flowline
