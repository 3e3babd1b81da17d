import LayoutRecovery.Proofs.Files.Output

/-!
# Growing trees

Writing at a path makes directories where nothing was and puts a file where the path leads.
Whatever is written, and whether or not it can be, the other places stay as they are.
-/

namespace LayoutRecovery
namespace FileTree

open FilePath (IsIdle)

/-- A tree behind successful and vain attempts to write, with the files that have been written. -/
structure Grown (later tree : FileTree) (written : List (String × ByteArray)) : Prop
    extends later.Keeps tree where
  changes : ∀ place, later.node? place = tree.node? place ∨
    (tree.node? place = none ∧ later.node? place = some .directory) ∨
    ∃ path content, (path, content) ∈ written ∧ later.locate path = .ok place ∧
      later.node? place = some (.file content)

variable {tree later last : FileTree} {place : Location} {path : String} {content : ByteArray}

theorem Grown.refl (tree : FileTree) : tree.Grown tree [] where
  toKeeps := .refl tree
  changes _ := .inl rfl

theorem Grown.trans {written more : List (String × ByteArray)} (second : last.Grown later more)
    (first : later.Grown tree written) : last.Grown tree (written ++ more) where
  toKeeps := second.toKeeps.trans first.toKeeps
  changes place := by
    obtain same | ⟨free, made⟩ | ⟨path, content, inside, found, put⟩ := second.changes place
    · rw [same]
      obtain before | made | ⟨path, content, inside, found, put⟩ := first.changes place
      · exact .inl before
      · exact .inr (.inl made)
      · exact .inr (.inr
          ⟨path, content, List.mem_append_left _ inside, second.locate found, put⟩)
    · have free_before : ¬ (tree.node? place).isSome = true := fun there => by
        simpa [free] using first.kept place there
      exact .inr (.inl ⟨by simpa using free_before, made⟩)
    · exact .inr (.inr ⟨path, content, List.mem_append_right _ inside, found, put⟩)

theorem Grown.mono {written more : List (String × ByteArray)} (grown : later.Grown tree written)
    (within : ∀ file ∈ written, file ∈ more) : later.Grown tree more where
  toKeeps := grown.toKeeps
  changes place := by
    obtain same | made | ⟨path, content, inside, found⟩ := grown.changes place
    · exact .inl same
    · exact .inr (.inl made)
    · exact .inr (.inr ⟨path, content, within _ inside, found⟩)

/-! ## Directories -/

theorem keeps_put (solid : tree.node? place ≠ some .directory) (node : FileNode) :
    (tree.put place node).Keeps tree where
  directory other stands := by
    have elsewhere : other ≠ place := fun same => solid (same ▸ stands)
    rwa [node?_put_of_ne tree node elsewhere]
  kept other there := by
    by_cases here : other = place
    · rw [here, node?_put_of_solid solid]
      rfl
    · rwa [node?_put_of_ne tree node here]

theorem grown_of_makeDirectory {base : Location} {outer : List String} {name : String}
    (made : tree.makeDirectory base outer name = .ok later) : later.Grown tree [] := by
  unfold makeDirectory at made
  split at made
  · cases made
  · rename_i location reached
    split at made
    · cases made
    · split at made
      · cases made
      · split at made
        · cases made
        · rename_i taken
          have free : tree.node? (name :: location) = none := by simpa using taken
          have solid : tree.node? (name :: location) ≠ some .directory := by simp [free]
          cases made
          refine ⟨keeps_put solid _, fun place => ?_⟩
          by_cases here : place = name :: location
          · rw [here]
            exact .inr (.inl ⟨free, node?_put_of_solid solid _⟩)
          · exact .inl (node?_put_of_ne tree _ here)

theorem grown_makeDirectories (tree : FileTree) (base : Location) (reversed : List String) :
    (tree.makeDirectories base reversed).2.Grown tree [] := by
  induction reversed with
  | nil => exact .refl tree
  | cons name outer ih =>
      simp only [makeDirectories]
      split
      · -- the directory above is missing, and the name is tried again behind it
        split
        · rename_i above made
          rw [made] at ih
          split
          · rename_i again
            exact (grown_of_makeDirectory again).trans ih
          · exact ih
        · rename_i above made
          rw [made] at ih
          exact ih
      · split
        · rename_i made
          exact grown_of_makeDirectory made
        · exact .refl tree

theorem grown_makeRoom (tree : FileTree) (path : String) :
    (tree.makeRoom path).2.Grown tree [] := by
  unfold makeRoom
  split
  · exact .refl tree
  · split
    · exact .refl tree
    · exact grown_makeDirectories tree _ _

/-! ## Files -/

theorem exists_entryAt_of_outputPlace (given : tree.outputPlace path = .ok place) :
    ∃ front name outer, tree.EntryAt path front name outer ∧ place = name :: outer ∧
      ¬ FilePath.maximumNameLength < name.utf8ByteSize ∧ tree.node? place ≠ some .directory := by
  unfold outputPlace at given
  split at given
  · cases given
  · rename_i sound
    obtain ⟨front, name, whole⟩ : ∃ front name, FilePath.names path = front ++ [name] :=
      ⟨_, _, (List.dropLast_concat_getLast (FilePath.names_ne_nil path)).symm⟩
    rw [whole, List.reverse_append, List.reverse_singleton, List.singleton_append] at given
    unfold creationPlace at given
    by_cases empty : name = ""
    · -- a path that ends in a slash is refused
      simp only [empty, List.head?_cons, or_true, if_true] at given
      split at given
      · cases given
      · split at given <;> cases given
    · rw [List.dropWhile_cons_of_neg (by simpa using empty)] at given
      simp only [List.reverse_reverse] at given
      split at given
      · cases given
      · rename_i outer reached
        obtain ⟨found, directory⟩ := followToDirectory_eq_ok_iff.mp reached
        split at given
        · cases given
        · rename_i plain
          obtain ⟨shown, down, -⟩ := by simpa only [not_or] using plain
          split at given
          · cases given
          · rename_i short
            split at given
            · cases given
            · rename_i solid
              cases given
              have moves : ¬ IsIdle name := not_or.mpr ⟨empty, shown⟩
              exact ⟨front, name, outer, ⟨sound, whole, found, directory, moves, down⟩, rfl,
                short, solid⟩

theorem grown_of_putFile (put : tree.putFile path content = .ok later) :
    later.Grown tree [(path, content)] := by
  rw [putFile_eq_map] at put
  cases given : tree.outputPlace path with
  | error error => simp [given, Except.map] at put
  | ok place =>
      obtain ⟨front, name, outer, entry, named, short, solid⟩ := exists_entryAt_of_outputPlace given
      have later_eq : later = tree.put place (.file content) := by
        simpa [given, Except.map] using put.symm
      have keeps : later.Keeps tree := later_eq ▸ keeps_put solid _
      have filled : later.node? place = some (.file content) := by
        rw [later_eq, node?_put_of_solid solid]
      refine ⟨keeps, fun other => ?_⟩
      by_cases here : other = place
      · have there : (later.node? (name :: outer)).isSome = true := by simp [← named, filled]
        have located := (entry.grow keeps).locate short there
        rw [here]
        exact .inr (.inr ⟨path, content, List.mem_singleton_self _, named ▸ located, filled⟩)
      · rw [later_eq]
        exact .inl (node?_put_of_ne tree _ here)

/-- What is written is put where its path leads, also if directories had to be made for it. -/
theorem grown_of_write (wrote : tree.write path content = (.ok (), later)) :
    later.Grown tree [(path, content)] := by
  have room := grown_makeRoom tree path
  unfold write at wrote
  split at wrote
  · cases wrote
  · rename_i grown made
    rw [made] at room
    split at wrote
    · cases wrote
    · rename_i put
      cases wrote
      exact (grown_of_putFile put).trans room

/-- What cannot be written leaves at most directories. -/
theorem grown_of_write_error {error : FileError}
    (refused : tree.write path content = (.error error, later)) : later.Grown tree [] := by
  have room := grown_makeRoom tree path
  unfold write at refused
  split at refused
  · rename_i made
    rw [made] at room
    cases refused
    exact room
  · rename_i made
    rw [made] at room
    split at refused
    · cases refused
      exact room
    · cases refused

end FileTree
end LayoutRecovery
