import Flowline.World.FileStore

/-!
Places in a store of files. What is put at a place stands there, all other places keep what they had,
and as long as it is no directory that is replaced, every path that led to the place still does.
-/

namespace Flowline.FileStore

variable {store after : FileStore} {home start place other : List String} {node : FileNode}
  {path : FilePath} {old new bytes : List UInt8}

theorem lookup_put_self (store : FileStore) (place : List String) (node : FileNode) :
    (store.put place node).lookup place = some node := by
  induction store with
  | nil => rw [put, List.lookup_cons_self]
  | cons entry rest ih =>
      obtain ⟨own, first⟩ := entry
      rw [put]
      split
      · rename_i hOwn
        rw [hOwn, List.lookup_cons_self]
      · rename_i hOwn
        have hBeq : (place == own) = false := beq_eq_false_iff_ne.mpr fun h => hOwn h.symm
        rw [List.lookup_cons, hBeq, ih]

theorem lookup_put_of_ne (hNe : other ≠ place) (store : FileStore) (node : FileNode) :
    (store.put place node).lookup other = store.lookup other := by
  induction store with
  | nil => rw [put, List.lookup_cons, beq_eq_false_iff_ne.mpr hNe]
  | cons entry rest ih =>
      obtain ⟨own, first⟩ := entry
      rw [put]
      split
      · rename_i hOwn
        have hBeq : (other == own) = false := beq_eq_false_iff_ne.mpr (hOwn ▸ hNe)
        rw [List.lookup_cons, List.lookup_cons, hBeq]
      · rw [List.lookup_cons, List.lookup_cons, ih]

/-- A place that is no directory is not the root. -/
theorem lookup_of_ne_directory (h : store.node? place ≠ some .directory) :
    place.isEmpty = false := by
  rw [Bool.eq_false_iff]
  intro hEmpty
  rw [node?, if_pos hEmpty] at h
  exact h rfl

theorem node?_put_self (h : store.node? place ≠ some .directory) (node : FileNode) :
    (store.put place node).node? place = some node := by
  rw [node?, lookup_of_ne_directory h, if_neg Bool.false_ne_true, lookup_put_self]

theorem node?_put_of_ne (hNe : other ≠ place) (store : FileStore) (node : FileNode) :
    (store.put place node).node? other = store.node? other := by
  rw [node?, node?, lookup_put_of_ne hNe]

/-! ## Where paths lead -/

/-- A step along a path leads where it led before if it does not start at the place. -/
theorem step_put (hNe : start ≠ place) (part : String) :
    (store.put place node).step start part = store.step start part := by
  rw [step, step, node?_put_of_ne hNe]

/-- Nothing lies behind a place that is no directory. -/
theorem step_of_ne_directory (h : store.node? place ≠ some .directory) (part : String) :
    ∃ fault, store.step place part = .error fault := by
  cases hNode : store.node? place with
  | none => exact ⟨.missing, by rw [step, hNode]⟩
  | some node =>
      cases node with
      | file bytes => exact ⟨.notDirectory, by rw [step, hNode]⟩
      | directory => exact absurd hNode h

theorem follow_put {parts : List String} (h : store.node? place ≠ some .directory)
    (hFollow : store.follow start parts = .ok place) :
    (store.put place node).follow start parts = .ok place := by
  induction parts generalizing start with
  | nil => exact hFollow
  | cons part rest ih =>
      rw [follow] at hFollow ⊢
      have hNe : start ≠ place := by
        rintro rfl
        obtain ⟨fault, hStep⟩ := step_of_ne_directory h part
        rw [hStep] at hFollow
        cases hFollow
      rw [step_put hNe]
      cases hStep : store.step start part with
      | error fault =>
          rw [hStep] at hFollow
          cases hFollow
      | ok next =>
          rw [hStep] at hFollow
          exact ih hFollow

/-! ## Files that can be opened -/

/-- A path leads to a file with some bytes, or to a place where there is nothing yet. -/
structure Opens (store : FileStore) (home : List String) (path : FilePath) (place : List String)
    (old : List UInt8) : Prop where
  leads : store.place home path = .ok place
  holds : store.node? place = some (.file old) ∨ store.node? place = none ∧ old = []

namespace Opens

theorem ne_directory (h : store.Opens home path place old) : store.node? place ≠ some .directory := by
  rcases h.holds with hFile | ⟨hNone, -⟩
  · simp [hFile]
  · simp [hNone]

/-- A path leads to what has been put where it leads. -/
theorem put (h : store.Opens home path place old) (new : List UInt8) :
    (store.put place (.file new)).Opens home path place new where
  leads := by
    have hPlace := h.leads
    rw [FileStore.place] at hPlace ⊢
    split at hPlace
    · cases hPlace
    · rename_i hShort
      rw [if_neg hShort]
      exact follow_put h.ne_directory hPlace
  holds := .inl (node?_put_self h.ne_directory _)

theorem read (h : store.Opens home path place old) (hFile : store.node? place = some (.file old)) :
    store.read home path = .ok old := by
  rw [FileStore.read, h.leads]
  simp only [bind, Except.bind, hFile]
  rfl

theorem append (h : store.Opens home path place old) (bytes : List UInt8) :
    store.append home path bytes = .ok (store.put place (.file (old ++ bytes))) := by
  rw [FileStore.append, h.leads]
  rcases h.holds with hFile | ⟨hNone, rfl⟩
  · simp only [bind, Except.bind, hFile]
    rfl
  · simp only [bind, Except.bind, hNone]
    rfl

end Opens

/-- Bytes can be added exactly to files that can be opened. -/
theorem append_eq_ok (h : store.append home path bytes = .ok after) :
    ∃ place old, store.Opens home path place old ∧ after = store.put place (.file (old ++ bytes)) := by
  cases hPlace : store.place home path with
  | error fault =>
      rw [append, hPlace] at h
      cases h
  | ok place =>
      rw [append, hPlace] at h
      simp only [bind, Except.bind] at h
      cases hNode : store.node? place with
      | none =>
          rw [hNode] at h
          exact ⟨place, [], ⟨hPlace, .inr ⟨hNode, rfl⟩⟩, (Except.ok.inj h).symm⟩
      | some node =>
          rw [hNode] at h
          cases node with
          | directory => cases h
          | file old =>
              exact ⟨place, old, ⟨hPlace, .inl hNode⟩, (Except.ok.inj h).symm⟩

end Flowline.FileStore
