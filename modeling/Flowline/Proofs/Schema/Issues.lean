import Flowline.Flow.Model
import Flowline.Proofs.Json.Scalars
import Flowline.Proofs.Number.Text
import Flowline.Proofs.Value.Keys

/-!
The issues of checks. The issues of a check are those of its parts, in order, so that what holds of the
issues of all parts holds of those of the whole. An issue about the tag of a union comes from nothing but
the choice of a member.
-/

namespace Flowline.Schema

/-- An issue about the tag that tells which member of a union a value is, or about a value that cannot
have one. -/
def IssueKind.isTagIssue : IssueKind → Bool
  | .modelAttributesType => true
  | .unionTagNotFound _ => true
  | .unionTagInvalid .. => true
  | _ => false

namespace Checked

variable {α β : Type} {i : Issue}

@[simp] theorem issues_map (f : α → β) (c : Checked α) : (f <$> c).issues = c.issues := by
  cases c <;> rfl

@[simp] theorem issues_seq (cf : Checked (α → β)) (c : Checked α) :
    (cf <*> c).issues = cf.issues ++ c.issues := by
  cases cf with
  | valid f => cases c <;> rfl
  | invalid first =>
      cases c with
      | valid a => exact (List.append_nil first).symm
      | invalid second => rfl

@[simp] theorem issues_keeping (c : Checked α) (more : List Issue) :
    (c.keeping more).issues = c.issues ++ more := by
  rw [keeping]
  split
  · rename_i hNone
    rw [List.isEmpty_iff.mp hNone, List.append_nil]
  · rfl

@[simp] theorem issues_within (part : LocationPart) (c : Checked α) :
    (c.within part).issues = c.issues.map fun i => ⟨part :: i.location, i.kind⟩ := by
  cases c <;> rfl

theorem mem_issues_andThen {c : Checked α} {f : α → Checked β} (h : i ∈ (c.andThen f).issues) :
    i ∈ c.issues ∨ ∃ a, c = .valid a ∧ i ∈ (f a).issues := by
  cases c with
  | valid a => exact .inr ⟨a, rfl, h⟩
  | invalid issues => exact .inl h

theorem mem_issues_within {part : LocationPart} {c : Checked α} (h : i ∈ (c.within part).issues) :
    ∃ own ∈ c.issues, i.location = part :: own.location ∧ i.kind = own.kind := by
  rw [issues_within] at h
  obtain ⟨own, hOwn, rfl⟩ := List.mem_map.mp h
  exact ⟨own, hOwn, rfl, rfl⟩

/-- A check none of whose issues is about a tag. -/
def Untagged (c : Checked α) : Prop := ∀ i ∈ c.issues, i.kind.isTagIssue = false

namespace Untagged

variable {c : Checked α} {cf : Checked (α → β)}

theorem valid (a : α) : (Checked.valid a).Untagged := List.forall_mem_nil _

theorem fail {kind : IssueKind} (h : kind.isTagIssue = false) : (Checked.fail kind : Checked α).Untagged :=
  List.forall_mem_singleton.mpr h

theorem map {f : α → β} (h : c.Untagged) : (f <$> c).Untagged := by
  rw [Untagged, issues_map]
  exact h

theorem seq (hf : cf.Untagged) (h : c.Untagged) : (cf <*> c).Untagged := by
  rw [Untagged, issues_seq]
  exact List.forall_mem_append.mpr ⟨hf, h⟩

theorem keeping {more : List Issue} (h : c.Untagged) (hMore : ∀ i ∈ more, i.kind.isTagIssue = false) :
    (c.keeping more).Untagged := by
  rw [Untagged, issues_keeping]
  exact List.forall_mem_append.mpr ⟨h, hMore⟩

theorem within (part : LocationPart) (h : c.Untagged) : (c.within part).Untagged := by
  intro i hMem
  obtain ⟨own, hOwn, -, hKind⟩ := mem_issues_within hMem
  rw [hKind]
  exact h own hOwn

theorem andThen {f : α → Checked β} (h : c.Untagged) (hf : ∀ a, (f a).Untagged) :
    (c.andThen f).Untagged := by
  intro i hMem
  rcases mem_issues_andThen hMem with hOwn | ⟨a, -, hNext⟩
  · exact h i hOwn
  · exact hf a i hNext

theorem sequenceFrom {checks : List (Checked α)} (h : ∀ check ∈ checks, check.Untagged) (n : Nat) :
    (Checked.sequenceFrom n checks).Untagged := by
  induction checks generalizing n with
  | nil => exact .valid []
  | cons check rest ih =>
      rw [List.forall_mem_cons] at h
      exact (h.1.within _).map.seq (ih h.2 (n + 1))

end Untagged

end Checked

open Checked (Untagged)

/-! ## Plain values -/

theorem untagged_text (v : Value) : (text v).Untagged := by
  unfold text
  split
  · exact .valid _
  · split
    · exact .valid _
    · exact .fail rfl
  · exact .fail rfl
  · exact .fail rfl

theorem untagged_looseText (v : Value) : (looseText v).Untagged := by
  unfold looseText
  split
  · exact .valid _
  · exact (untagged_text v).map

theorem untagged_optionalText (v : Value) : (optionalText v).Untagged := by
  unfold optionalText
  split
  · exact .valid _
  · exact (untagged_text v).map

theorem untagged_intFromText (s : String) : (intFromText s).Untagged := by
  unfold intFromText
  split
  · split
    · exact .fail rfl
    · exact .valid _
  · exact .fail rfl

theorem untagged_int (v : Value) : (int v).Untagged := by
  unfold int
  split
  · exact .valid _
  · exact .valid _
  · split
    · split
      · exact .valid _
      · exact .fail rfl
    · exact .fail rfl
  · exact untagged_intFromText _
  · split
    · exact untagged_intFromText _
    · exact .fail rfl
  · exact .fail rfl
  · exact .fail rfl

theorem untagged_retryCount (v : Value) : (retryCount v).Untagged := by
  refine ((untagged_int v).andThen fun n => ?_).map
  unfold atLeast
  split
  · exact .valid _
  · exact .fail rfl

theorem untagged_realFromText (s : String) : (realFromText s).Untagged := by
  unfold realFromText
  split
  · exact .valid _
  · exact .fail rfl

theorem untagged_real (v : Value) : (real v).Untagged := by
  unfold real
  split
  · exact .valid _
  · dsimp only
    split
    · exact .valid _
    · exact .fail rfl
  · exact .valid _
  · exact untagged_realFromText _
  · split
    · exact untagged_realFromText _
    · exact .fail rfl
  · exact .fail rfl
  · exact .fail rfl

theorem untagged_seconds (v : Value) : (seconds v).Untagged := by
  refine (untagged_real v).andThen fun x => Untagged.andThen ?_ fun y => ?_
  · unfold realAtMost
    split
    · exact .valid _
    · exact .fail rfl
  · unfold realAtLeast
    split
    · exact .valid _
    · exact .fail rfl

theorem untagged_textEntries (entries : Entries) : (textEntries entries).Untagged := by
  induction entries with
  | nil => exact .valid []
  | cons e rest ih =>
      have hKey := ((untagged_text e.1).within (.name "[key]")).within (.ofKey e.1)
      have hValue := (untagged_text e.2).within (.ofKey e.1)
      exact (hKey.map.seq hValue).map.seq ih

theorem untagged_textMap (v : Value) : (textMap v).Untagged := by
  unfold textMap
  split
  · exact (untagged_textEntries _).map
  · exact .fail rfl

/-! ## Fields and keys -/

section Fields

variable {α : Type} {check : Value → Checked α} {entries : Entries} {i : Issue} {fields : List String}

theorem untagged_required_of_field? {name : String}
    (h : ∀ v, entries.field? name = some v → (check v).Untagged) :
    (required entries name check).Untagged := by
  unfold required
  split
  · exact (h _ ‹_›).within _
  · exact (Untagged.fail rfl).within _

theorem untagged_required (h : ∀ v, (check v).Untagged) (entries : Entries) (name : String) :
    (required entries name check).Untagged :=
  untagged_required_of_field? fun v _ => h v

/-- An issue of a field that may be missing is one of the value that is there. -/
theorem mem_issues_optional {name : String} {absent : α}
    (h : i ∈ (optional entries name absent check).issues) :
    ∃ v, entries.field? name = some v ∧ i ∈ ((check v).within (.name name)).issues := by
  unfold optional at h
  split at h
  · exact ⟨_, ‹_›, h⟩
  · cases h

theorem untagged_optional (h : ∀ v, (check v).Untagged) (entries : Entries) (name : String)
    (absent : α) : (optional entries name absent check).Untagged := by
  intro i hMem
  obtain ⟨v, -, hMem⟩ := mem_issues_optional hMem
  exact (h v).within _ i hMem

theorem mem_keyIssues (h : i ∈ keyIssues fields entries) :
    ∃ key ∈ entries.keys, keyIssue? (fields.filter entries.hasField) key = some i := by
  obtain ⟨e, hMem, hIssue⟩ := List.mem_filterMap.mp h
  exact ⟨e.1, List.mem_map_of_mem hMem, hIssue⟩

/-- An issue about a key lies at that key, which spells none of the fields. -/
theorem keyIssue?_eq_some {key : Value} (h : keyIssue? fields key = some i) :
    i.location = [.ofKey key] ∧ (i.kind = .extraForbidden ∨ i.kind = .invalidKey) ∧
      ∀ name ∈ fields, text key ≠ .valid name := by
  rw [keyIssue?] at h
  split at h
  · rename_i name hName
    split at h
    · cases h
    · rename_i hForeign
      cases h
      refine ⟨rfl, .inl rfl, fun other hOther hSame => hForeign ?_⟩
      cases hName.symm.trans hSame
      exact List.contains_iff_mem.mpr hOther
  · rename_i hInvalid
    cases h
    exact ⟨rfl, .inr rfl, fun other _ hSame => by cases hInvalid.symm.trans hSame⟩

theorem untagged_model {check : Checked α} (h : check.Untagged) (fields : List String)
    (entries : Entries) : (model fields entries check).Untagged := by
  refine h.keeping fun i hMem => ?_
  obtain ⟨key, -, hIssue⟩ := mem_keyIssues hMem
  rcases (keyIssue?_eq_some hIssue).2.1 with hKind | hKind <;> rw [hKind] <;> rfl

end Fields

/-! ## The places of keys -/

section Keys

variable {c : Char} {s : String}

/-- A text by its first character. -/
def StartsWith (c : Char) (s : String) : Prop := s.toList.head? = some c

theorem StartsWith.append (h : StartsWith c s) (more : String) : StartsWith c (s ++ more) := by
  rw [StartsWith] at h ⊢
  rw [String.toList_append, List.head?_append, h, Option.some_or]

theorem StartsWith.mem (h : StartsWith c s) : c ∈ s.toList := List.mem_of_mem_head? h

theorem startsWith_dateLiteral (d : Calendar.Date) : StartsWith 'd' (Value.dateLiteral d) := by
  have hOpen : StartsWith 'd' "datetime.date(" := rfl
  exact (((((hOpen.append _).append _).append _).append _).append _).append _

theorem startsWith_momentLiteral (m : Calendar.Moment) : StartsWith 'd' (Value.momentLiteral m) := by
  have hOpen : StartsWith 'd' "datetime.datetime(" := rfl
  exact (hOpen.append _).append _

theorem exists_startsWith_quoted (t : Text.Torn) : ∃ c, StartsWith c t.quoted ∧ c ≠ 't' := by
  have hOpen (quote : Char) : StartsWith quote (String.singleton quote) := by simp [StartsWith]
  refine ⟨Text.quoteFor _ _, ((hOpen _).append _).append _, ?_⟩
  rw [Text.quoteFor]
  split <;> decide

/-- The literal notation of what is neither a text nor a finite number begins with no `t`. -/
theorem exists_startsWith_literal {v : Value} (hText : ∀ s, v ≠ .text s) (hInt : ∀ n, v ≠ .int n)
    (hReal : ∀ x : Binary64, x.isFinite = true → v ≠ .real x) :
    ∃ c, StartsWith c v.literal ∧ c ≠ 't' := by
  have hBracket : StartsWith '[' "[" := rfl
  have hParen : StartsWith '(' "(" := rfl
  have hBrace : StartsWith '\x7b' "\x7b" := rfl
  have hByte : StartsWith 'b' "b" := rfl
  cases v with
  | null => exact ⟨'N', rfl, by decide⟩
  | bool b => cases b <;> exact ⟨_, rfl, by decide⟩
  | int n => exact absurd rfl (hInt n)
  | real x =>
      cases x with
      | nan => exact ⟨'n', rfl, by decide⟩
      | infinite negative => cases negative <;> exact ⟨_, rfl, by decide⟩
      | finite => exact absurd rfl (hReal _ rfl)
  | text s => exact absurd rfl (hText s)
  | torn t => exact exists_startsWith_quoted t
  | bytes bs => exact ⟨'b', hByte.append _, by decide⟩
  | date d => exact ⟨'d', startsWith_dateLiteral d, by decide⟩
  | moment m => exact ⟨'d', startsWith_momentLiteral m, by decide⟩
  | list items =>
      rw [Value.literal]
      exact ⟨'[', (hBracket.append _).append _, by decide⟩
  | tuple items =>
      rcases items with _ | ⟨first, _ | ⟨second, rest⟩⟩
      · exact ⟨'(', rfl, by decide⟩
      · rw [Value.literal]
        exact ⟨'(', (hParen.append _).append _, by decide⟩
      · rw [Value.literal]
        · exact ⟨'(', (hParen.append _).append _, by decide⟩
        · exact fun _ hSingle => by cases hSingle
  | set items =>
      cases items with
      | nil => exact ⟨'s', rfl, by decide⟩
      | cons first rest =>
          rw [Value.literal]
          · exact ⟨'\x7b', (hBrace.append _).append _, by decide⟩
          · exact List.cons_ne_nil _ _
  | map entries =>
      rw [Value.literal]
      exact ⟨'\x7b', (hBrace.append _).append _, by decide⟩
  | enclosing isMap => cases isMap <;> exact ⟨_, rfl, by decide⟩

/-- No key but a text is shown as a name that begins with a `t`. -/
theorem eq_text_of_ofKey {key : Value} {name : String} (h : LocationPart.ofKey key = .name name)
    (hName : StartsWith 't' name) : key = .text name := by
  have hNumeral {cs : List Char} (hAll : ∀ c ∈ cs, Binary64.IsNumeral c) : 't' ∉ cs := fun hMem => by
    rcases hAll _ hMem with hDigit | hMark
    · cases hDigit
    · revert hMark
      decide
  have hOther (hPlain : LocationPart.ofKey key = .name key.literal)
      (hLiteral : ∃ c, StartsWith c key.literal ∧ c ≠ 't') : key = .text name := by
    obtain ⟨c, hStarts, hDifferent⟩ := hLiteral
    cases hPlain.symm.trans h
    exact absurd (Option.some.inj (hStarts.symm.trans hName)) hDifferent
  cases key with
  | text s =>
      cases h
      rfl
  | bool b => cases h
  | int n =>
      rw [LocationPart.ofKey] at h
      split at h
      · cases h
      · cases h
        refine absurd hName.mem (hNumeral ?_)
        rw [Json.toList_toString]
        refine List.forall_mem_append.mpr ⟨?_, Binary64.isNumeral_of_mem_toDigits⟩
        cases decide (n < 0) <;> simp [Json.sign, Binary64.IsNumeral]
  | real x =>
      cases hFinite : x.isFinite with
      | true =>
          cases h
          exact absurd hName.mem (hNumeral (Binary64.isNumeral_of_mem_text hFinite))
      | false =>
          refine hOther rfl (exists_startsWith_literal (by simp) (by simp) fun y hy hSame => ?_)
          cases hSame
          rw [hFinite] at hy
          cases hy
  | _ => exact hOther rfl (exists_startsWith_literal (by simp) (by simp) (by simp))

end Keys

/-! ## Steps whose kind is known -/

variable {kind : StepKind} {entries : Entries}

theorem untagged_leafStep (kind : StepKind) (entries : Entries) : (leafStep kind entries).Untagged := by
  have hOutput := untagged_optional untagged_optionalText entries "output_var" none
  have hValue := untagged_required untagged_text entries "value"
  cases kind with
  | abortFlow | debugState => exact untagged_model (.valid _) _ _
  | sleep => exact untagged_model (untagged_required untagged_seconds entries "duration").map _ _
  | _ => exact untagged_model (hOutput.map.seq hValue) _ _

/-- No issue of a step whose operation can fail is about a tag, if none of the fallback is. -/
theorem untagged_failableStep {fail : Checked (RetryPolicy × List Step)} (hFail : fail.Untagged)
    (kind : StepKind) (entries : Entries) : (failableStep kind entries fail).Untagged := by
  have hText := untagged_required untagged_text entries
  have hName (name : String) := untagged_optional untagged_optionalText entries name none
  have hBody := untagged_required untagged_looseText entries "body"
  have hHeaders := untagged_optional untagged_textMap entries "headers" []
  cases kind with
  | notify => exact untagged_model (((hText _).map.seq (hText _)).seq hFail) _ _
  | getUrl => exact untagged_model (((hText _).map.seq (hName _)).seq hFail) _ _
  | postUrl => exact untagged_model ((((hText _).map.seq hBody).seq hHeaders).seq hFail) _ _
  | extractCapture => exact untagged_model ((((hName _).map.seq (hName _)).seq (hText _)).seq hFail) _ _
  | readText => exact untagged_model (((hText _).map.seq (hName _)).seq hFail) _ _
  | _ => exact untagged_model (((hText _).map.seq (hName _)).seq hFail) _ _

theorem untagged_failSpec {fallback : Checked (List Step)} (h : fallback.Untagged) (entries : Entries) :
    (failSpec entries fallback).Untagged := by
  have hRetries := untagged_optional untagged_retryCount entries "retries" RetryPolicy.standard.retries
  have hInterval := untagged_optional untagged_seconds entries "retry_interval"
    RetryPolicy.standard.interval
  exact untagged_model ((hRetries.map.seq hInterval).seq h) _ _

theorem untagged_compareStep {ifTrue ifFalse : Checked (List Step)} (hTrue : ifTrue.Untagged)
    (hFalse : ifFalse.Untagged) (entries : Entries) :
    (compareStep entries ifTrue ifFalse).Untagged := by
  have hInput := untagged_optional untagged_optionalText entries "input_var" none
  have hWith := untagged_required untagged_text entries "compare_with"
  have hFor := untagged_optional untagged_text entries "compare_for" "equality"
  exact untagged_model ((((hInput.map.seq hWith).seq hFor).seq hTrue).seq hFalse) _ _

end Flowline.Schema
