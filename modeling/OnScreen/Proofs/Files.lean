import OnScreen.Files

/-!
# Reading back files

A file that was written is read back: everything that its path goes through is a directory, so that
nothing on the way to the file was replaced when it was put into the tree.

Results:
* `FileTree.step_eq_ok`: what a step along a path does.
* `FileTree.foldlM_step_put`: a path leads to what was put where it led before.
* `FileTree.read_write`, `readText_write`: contents that were written are read.
-/

namespace OnScreen

/-- Two steps succeed if both do. -/
theorem bind_eq_ok {ε α β : Type} {x : Except ε α} {f : α → Except ε β} {b : β}
    (h : x >>= f = .ok b) : ∃ a, x = .ok a ∧ f a = .ok b := by
  cases x with
  | error e => cases h
  | ok a => exact ⟨a, rfl, h⟩

namespace FileTree

variable {tree tree' : FileTree} {names names' : List String} {entry : FileEntry}

/-! ## Entries -/

theorem entry_put (h : names ≠ []) : entry? (tree.put names entry) names = some entry := by
  unfold entry? put
  rw [List.isEmpty_eq_false_iff.mpr h]
  simp

theorem entry_put_of_ne (h : names' ≠ names) :
    entry? (tree.put names entry) names' = tree.entry? names' := by
  unfold entry? put
  split
  · rfl
  · have hfind : (fun e : List String × FileEntry =>
        decide (decide (e.1 ≠ names) = true ∧ decide (e.1 = names') = true)) =
        fun e => decide (e.1 = names') := by
      funext e
      by_cases he : e.1 = names'
      · simp [he, h]
      · simp [he]
    rw [List.find?_cons, decide_eq_false (Ne.symm h), List.find?_filter, hfind]

/-! ## Following a path -/

/-- A place is as it is in the tree. -/
def Holds (tree : FileTree) (here : Location) : Prop :=
  here.entry = tree.entry? here.names

/-- A step along a path starts from a directory, and the names alone tell where it leads. -/
theorem step_eq_ok {here next : Location} {name : String} (hhere : tree.Holds here)
    (h : tree.step here name = .ok next) :
    here.entry = some .directory ∧ tree.Holds next ∧
      ∀ tree' : FileTree, tree'.Holds here →
        tree'.step here name = .ok ⟨next.names, tree'.entry? next.names⟩ := by
  obtain ⟨names, entry⟩ := here
  unfold step at h ⊢
  cases entry with
  | none => cases h
  | some entry =>
    cases entry with
    | file bytes => cases h
    | directory =>
      refine ⟨rfl, ?_⟩
      dsimp only at h ⊢
      by_cases hstays : staysPut name = true
      · rw [if_pos hstays] at h
        cases h
        refine ⟨hhere, fun tree' hhere' => ?_⟩
        rw [if_pos hstays, show tree'.entry? names = some .directory from hhere'.symm]
      rw [if_neg hstays] at h
      by_cases hup : name = ".."
      · rw [if_pos hup] at h
        cases h
        refine ⟨rfl, fun tree' _ => ?_⟩
        rw [if_neg hstays, if_pos hup]
      rw [if_neg hup] at h
      by_cases hlong : maxNameBytes < name.utf8ByteSize
      · rw [if_pos hlong] at h
        cases h
      · rw [if_neg hlong] at h
        cases h
        refine ⟨rfl, fun tree' _ => ?_⟩
        rw [if_neg hstays, if_neg hup, if_neg hlong]

/-- Where a path leads is as it is in the tree. -/
theorem holds_foldlM_step {path : List String} {here place : Location} (hhere : tree.Holds here)
    (h : path.foldlM tree.step here = .ok place) : tree.Holds place := by
  induction path generalizing here with
  | nil =>
    cases h
    exact hhere
  | cons name path ih =>
    rw [List.foldlM_cons] at h
    obtain ⟨next, hstep, hrest⟩ := bind_eq_ok h
    exact ih (step_eq_ok hhere hstep).2.1 hrest

/-- A path that leads to something other than a directory leads to what is put there. -/
theorem foldlM_step_put {path : List String} {here place : Location} (hhere : tree.Holds here)
    (h : path.foldlM tree.step here = .ok place) (hplace : place.entry ≠ some .directory)
    (entry : FileEntry) :
    path.foldlM (tree.put place.names entry).step
        ⟨here.names, entry? (tree.put place.names entry) here.names⟩ =
      .ok ⟨place.names, some entry⟩ := by
  have hholds := holds_foldlM_step hhere h
  induction path generalizing here with
  | nil =>
    cases h
    have hne : place.names ≠ [] := by
      intro hnil
      apply hplace
      rw [hholds, hnil]
      rfl
    rw [entry_put hne]
    rfl
  | cons name path ih =>
    rw [List.foldlM_cons] at h ⊢
    obtain ⟨next, hstep, hrest⟩ := bind_eq_ok h
    obtain ⟨hdirectory, hnext, hall⟩ := step_eq_ok hhere hstep
    -- the place is no directory, so this is another one
    have hne : here.names ≠ place.names := by
      intro hnames
      apply hplace
      rw [hholds, ← hnames, ← hdirectory, hhere]
    have hsame : (⟨here.names, entry? (tree.put place.names entry) here.names⟩ : Location) =
        here := by
      rw [entry_put_of_ne hne, ← show here.entry = tree.entry? here.names from hhere]
    rw [hsame, hall (tree.put place.names entry) (congrArg Location.entry hsame).symm]
    exact ih hnext hrest

/-! ## Files -/

/-- A file is written where its path leads, unless that is a directory. -/
theorem write_eq_ok {path : String} {bytes : ByteArray} (h : tree.write path bytes = .ok tree') :
    ∃ names place, namesOf path = .ok names ∧ ¬ path.endsWith "/" = true ∧
      names.foldlM tree.step top = .ok place ∧ place.entry ≠ some .directory ∧
      tree' = tree.put place.names (.file bytes) := by
  unfold write at h
  cases hlocate : tree.locateForWriting path with
  | error e =>
    rw [hlocate] at h
    cases h
  | ok place =>
    rw [hlocate] at h
    cases h
    unfold locateForWriting at hlocate
    obtain ⟨names, hnames, hrest⟩ := bind_eq_ok hlocate
    by_cases hslash : path.endsWith "/" = true
    · rw [if_pos hslash] at hrest
      obtain ⟨_, _, hdirectory⟩ := bind_eq_ok hrest
      cases hdirectory
    · rw [if_neg hslash] at hrest
      obtain ⟨place', hfold, hfile⟩ := bind_eq_ok hrest
      split at hfile
      · cases hfile
      · rename_i hplace
        cases hfile
        exact ⟨names, place, hnames, hslash, hfold, hplace, rfl⟩

/-- What is written to a file is read from it. -/
theorem read_write {path : String} {bytes : ByteArray} (h : tree.write path bytes = .ok tree') :
    tree'.read path = .ok bytes := by
  obtain ⟨names, place, hnames, hslash, hfold, hplace, rfl⟩ := write_eq_ok h
  have htop : tree.Holds top := rfl
  have hlocate : (tree.put place.names (.file bytes)).locate path =
      .ok ⟨place.names, some (.file bytes)⟩ := by
    unfold locate
    rw [hnames]
    exact foldlM_step_put htop hfold hplace (.file bytes)
  unfold read
  rw [hlocate]
  exact if_neg hslash

/-- The bytes of a text stand for it. -/
theorem textOf_toUTF8 (s : String) : textOf s.toUTF8 = .ok s := by
  have hbytes : String.fromUTF8? s.toUTF8 = some s := dif_pos s.isValidUTF8
  unfold textOf
  rw [hbytes]

/-- A text that is written to a file is read from it. -/
theorem readText_write {path s : String} (h : tree.write path s.toUTF8 = .ok tree') :
    tree'.readText path = .ok s := by
  unfold readText
  rw [read_write h]
  exact textOf_toUTF8 s

end FileTree

end OnScreen
