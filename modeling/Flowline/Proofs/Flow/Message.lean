import Flowline.Flow.Message
import Flowline.Proofs.Flow.State

/-!
What a message template reads. It reads the variables whose names stand in braces in it, and the latest
output; states that agree on these give the same message.
-/

namespace Flowline.Message

/-- A template has a placeholder: an identifier in braces. -/
def HasPlaceholder (template name : String) : Prop :=
  isName name.toList = true ∧ ('\x7b' :: (name.toList ++ ['\x7d'])) <:+: template.toList

instance (template name : String) : Decidable (HasPlaceholder template name) :=
  inferInstanceAs (Decidable (_ ∧ _))

theorem splitName?_eq_some {cs name rest : List Char} (h : splitName? cs = some (name, rest)) :
    isName name = true ∧ cs = name ++ '\x7d' :: rest := by
  have hParts := List.takeWhile_append_dropWhile (p := isNameChar) (l := cs)
  simp only [splitName?] at h
  split at h
  · rename_i tail hTail
    rw [hTail] at hParts
    split at h
    · rename_i hName
      cases h
      exact ⟨hName, hParts.symm⟩
    · cases h
  · cases h

/-- The placeholders among the pieces of a template stand in it as names in braces. -/
theorem stands_of_mem_pieces {name : List Char} {cs : List Char}
    (hMem : Piece.placeholder name ∈ pieces cs) :
    isName name = true ∧ ('\x7b' :: (name ++ ['\x7d'])) <:+: cs := by
  fun_induction pieces cs with
  | case1 => cases hMem
  | case2 c rest own after hSplit ih =>
      split at hSplit
      · rename_i hBrace
        obtain ⟨hName, hRest⟩ := splitName?_eq_some hSplit
        rw [hBrace, hRest]
        rcases List.mem_cons.mp hMem with hOwn | hAfter
        · cases hOwn
          refine ⟨hName, List.IsPrefix.isInfix ⟨after, ?_⟩⟩
          simp
        · obtain ⟨hInner, hInfix⟩ := ih hAfter
          have hTail : after <:+: '\x7b' :: (own ++ '\x7d' :: after) :=
            ⟨'\x7b' :: (own ++ ['\x7d']), [], by simp⟩
          exact ⟨hInner, hInfix.trans hTail⟩
      · cases hSplit
  | case3 c rest hSplit ih =>
      have hRest : Piece.placeholder name ∈ pieces rest := by
        rcases List.mem_cons.mp hMem with hOwn | hAfter
        · cases hOwn
        · exact hAfter
      obtain ⟨hName, hInfix⟩ := ih hRest
      exact ⟨hName, List.infix_cons hInfix⟩

theorem hasPlaceholder_of_mem_pieces {template : String} {name : List Char}
    (hMem : Piece.placeholder name ∈ pieces template.toList) :
    HasPlaceholder template (String.ofList name) := by
  rw [HasPlaceholder, String.toList_ofList]
  exact stands_of_mem_pieces hMem

/-- A template without placeholders for the names that may differ gives one message. -/
theorem render_of_agreeOutside {names : Set String} {a b : RunState}
    (hAgree : a.AgreeOutside names b) {template : String}
    (hOutside : ∀ name ∈ names, ¬ HasPlaceholder template name) :
    render template a = render template b := by
  have hFill : ∀ piece ∈ pieces template.toList, fill a piece = fill b piece := by
    intro piece hMem
    cases piece with
    | char c => rfl
    | placeholder name =>
        have hPlace := hasPlaceholder_of_mem_pieces hMem
        have hVar := hAgree.vars (String.ofList name) fun hIn => hOutside _ hIn hPlace
        rw [fill, fill, valueOf?, valueOf?, hAgree.lastOutput, hVar]
  rw [render, render, List.map_congr_left hFill]

end Flowline.Message
