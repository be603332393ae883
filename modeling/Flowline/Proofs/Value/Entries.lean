import Flowline.Value.Basic

/-!
Fields: entries of a mapping that all have texts for keys. What is put among them, found and taken away
is told by their names.
-/

namespace Flowline.Entries

/-- The entries of fields, given by their names and values. -/
def ofFields (fields : List (String × Value)) : Entries :=
  fields.map fun field => (.text field.1, field.2)

/-- Fields that hold texts. -/
def ofTexts (texts : List (String × String)) : Entries :=
  ofFields (texts.map fun entry => (entry.1, .text entry.2))

variable {fields more : List (String × Value)} {name : String} {v : Value}

theorem sameKey_text (a b : String) : (Value.text a).sameKey (.text b) = decide (a = b) := rfl

theorem ofFields_append : ofFields (fields ++ more) = ofFields fields ++ ofFields more :=
  List.map_append

theorem not_sameKey_of_not_mem (h : name ∉ fields.map Prod.fst) :
    ∀ e ∈ ofFields fields, e.1.sameKey (.text name) = false := by
  intro e hMem
  obtain ⟨field, hField, rfl⟩ := List.mem_map.mp hMem
  rw [sameKey_text, decide_eq_false_iff_not]
  exact fun hName => h (List.mem_map.mpr ⟨field, hField, hName⟩)

theorem field?_append_of_not_mem (rest : Entries) (h : name ∉ fields.map Prod.fst) :
    (ofFields fields ++ rest).field? name = field? rest name := by
  have hNone : (ofFields fields).find? (fun e => e.1.sameKey (.text name)) = none :=
    List.find?_eq_none.mpr fun e hMem => by simp [not_sameKey_of_not_mem h e hMem]
  rw [field?, get?, List.find?_append, hNone, Option.none_or]
  rfl

theorem eraseField_append_of_not_mem {rest : Entries} (h : name ∉ fields.map Prod.fst) :
    (ofFields fields ++ rest).eraseField name = ofFields fields ++ eraseField rest name := by
  rw [eraseField, List.filter_append, List.filter_eq_self.mpr]
  · rfl
  · exact fun e hMem => by simp [not_sameKey_of_not_mem h e hMem]

/-- What is put under a new name stands at the end. -/
theorem putField_of_not_mem (h : name ∉ fields.map Prod.fst) :
    (ofFields fields).putField name v = ofFields (fields ++ [(name, v)]) := by
  induction fields with
  | nil => rfl
  | cons field rest ih =>
      have hKey := not_sameKey_of_not_mem h _ List.mem_cons_self
      have hRest := ih fun hMem => h (List.mem_cons_of_mem _ hMem)
      change put ((.text field.1, field.2) :: ofFields rest) (.text name) v = _
      rw [put, hKey]
      exact congrArg (List.cons _) hRest

/-- A value put again under the name where it stands changes nothing. -/
theorem putField_of_field? {entries : Entries} (h : entries.field? name = some v) :
    entries.putField name v = entries := by
  induction entries with
  | nil => cases h
  | cons e rest ih =>
      rw [putField, put]
      cases hKey : e.1.sameKey (.text name) with
      | true =>
          simp only [field?, get?, List.find?_cons, hKey, Option.map_some, Option.some.injEq] at h
          rw [if_pos rfl, ← h]
      | false =>
          simp only [field?, get?, List.find?_cons, hKey] at h
          rw [if_neg Bool.false_ne_true]
          exact congrArg (List.cons e) (ih h)

/-- Fields with different names are a mapping as they stand. -/
theorem ofList_ofFields (h : (fields.map Prod.fst).Nodup) : ofList (ofFields fields) = ofFields fields := by
  have hFold : ∀ (rest found : List (String × Value)), ((found ++ rest).map Prod.fst).Nodup →
      (ofFields rest).foldl (fun entries pair => entries.put pair.1 pair.2) (ofFields found) =
        ofFields (found ++ rest) := by
    intro rest
    induction rest with
    | nil => exact fun found _ => by rw [List.append_nil]; rfl
    | cons field rest ih =>
        intro found hNodup
        have hNew : field.1 ∉ found.map Prod.fst := by
          rw [List.map_append, List.map_cons] at hNodup
          exact fun hMem => (List.nodup_append.mp hNodup).2.2 _ hMem _ List.mem_cons_self rfl
        have hPut : (ofFields found).put (.text field.1) field.2 = ofFields (found ++ [field]) :=
          putField_of_not_mem hNew
        rw [List.append_cons] at hNodup ⊢
        change (ofFields rest).foldl _ ((ofFields found).put (.text field.1) field.2) = _
        rw [hPut]
        exact ih _ hNodup
  exact hFold fields [] h

theorem ofTexts_cons (entry : String × String) (rest : List (String × String)) :
    ofTexts (entry :: rest) = (.text entry.1, .text entry.2) :: ofTexts rest := rfl

theorem ofList_ofTexts {texts : List (String × String)} (h : (texts.map Prod.fst).Nodup) :
    ofList (ofTexts texts) = ofTexts texts := by
  refine ofList_ofFields ?_
  rw [List.map_map]
  exact h

end Flowline.Entries
