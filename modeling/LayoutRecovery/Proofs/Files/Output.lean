import LayoutRecovery.Proofs.Files.Follow

/-!
# Outputs next to inputs

An output that is named like its input with a suffix stands in the directory of the input.  That
directory is there, so writing the output only puts one file, whose place tells the place of the
input.
-/

namespace LayoutRecovery
namespace FilePath

theorem fault?_eq_none_iff {path : String} :
    fault? path = none ↔
      '\x00' ∉ path.toList ∧ path ≠ "" ∧ path.utf8ByteSize ≤ maximumLength := by
  unfold fault?
  split
  · simp_all
  · split
    · simp_all
    · split <;> simp_all

theorem fault?_of_append {directory rest : String} (some_text : directory ≠ "")
    (sound : fault? (directory ++ rest) = none) : fault? directory = none := by
  obtain ⟨no_zero, -, short⟩ := fault?_eq_none_iff.mp sound
  rw [String.toList_append, List.mem_append, not_or] at no_zero
  rw [String.utf8ByteSize_append] at short
  exact fault?_eq_none_iff.mpr ⟨no_zero.1, some_text, by omega⟩

theorem base_append {path : String} (some_text : path ≠ "") (rest : String) :
    base (path ++ rest) = base path := by
  have some_character : path.toList ≠ [] := by simpa using some_text
  obtain ⟨first, others, characters⟩ := List.exists_cons_of_ne_nil some_character
  simp [base, characters]

theorem dots_of_starts {name : String} (starts : name.toList <+: "..".toList) :
    IsIdle name ∨ name = ".." := by
  have spelled (characters : List Char) (same : name.toList = characters) :
      name = String.ofList characters := by
    rw [← same, String.ofList_toList]
  obtain empty | ⟨rest, dotted, rfl | rfl⟩ : name = "" ∨
      ∃ rest, name.toList = '.' :: rest ∧ (rest = [] ∨ rest = ['.']) := by
    simpa [List.prefix_cons_iff] using starts
  · exact .inl (.inl empty)
  · exact .inl (.inr (spelled _ dotted))
  · exact .inr (spelled _ dotted)

theorem moves_append {name : String} (moves : ¬ IsIdle name) (down : name ≠ "..")
    (suffix : String) : ¬ IsIdle (name ++ suffix) ∧ name ++ suffix ≠ ".." := by
  have beyond : ¬ (name ++ suffix).toList <+: "..".toList := by
    intro starts
    rw [String.toList_append] at starts
    exact (dots_of_starts ((List.prefix_append _ _).trans starts)).elim moves down
  refine ⟨?_, ?_⟩
  · rintro (whole | whole) <;> exact beyond (by rw [whole]; decide)
  · intro whole
    rw [whole] at beyond
    exact beyond List.prefix_rfl

end FilePath

namespace FileTree

open FilePath (IsIdle)

/-- The place of a file that is created or replaced at a path. -/
def outputPlace (tree : FileTree) (path : String) : Except FileError Location :=
  match FilePath.fault? path with
  | some error => .error error
  | none => tree.creationPlace (FilePath.base path) (FilePath.names path).reverse

theorem putFile_eq_map (tree : FileTree) (path : String) (content : ByteArray) :
    tree.putFile path content =
      (tree.outputPlace path).map fun place => tree.put place (.file content) := by
  unfold putFile outputPlace
  cases FilePath.fault? path with
  | some error => rfl
  | none =>
      cases tree.creationPlace (FilePath.base path) (FilePath.names path).reverse <;> rfl

theorem makeDirectories_eq_self {tree : FileTree} {base place : Location} {reversed : List String}
    (filled : "" ∉ reversed) (found : tree.follow base reversed.reverse = .ok place)
    (directory : tree.node? place = some .directory) :
    tree.makeDirectories base reversed = (.ok (), tree) := by
  cases reversed with
  | nil => rfl
  | cons name outer =>
      rw [List.reverse_cons] at found
      obtain ⟨middle, above, step⟩ := exists_follow_of_append found
      have stands : tree.node? middle = some .directory :=
        Decidable.byContradiction fun blocked => by simp [follow, blocked] at step
      have outer_found : tree.followToDirectory base outer.reverse = .ok middle := by
        simp [followToDirectory, above, stands]
      have whole : tree.hasDirectory base (outer.reverse ++ [name]) = true := by
        simp [hasDirectory, followToDirectory, found, directory]
      have again : ∃ error, tree.makeDirectory base outer.reverse name = .error error ∧
          error ≠ .notFound := by
        simp only [makeDirectory, outer_found]
        split
        · exact ⟨_, rfl, by simp⟩
        · split
          · exact ⟨_, rfl, by simp⟩
          · split
            · exact ⟨_, rfl, by simp⟩
            · rename_i plain short missing
              have moves : ¬ (name = "" ∨ name = ".") := by
                rintro (rfl | rfl)
                · exact filled List.mem_cons_self
                · exact plain (.inl rfl)
              have down : name ≠ ".." := fun up => plain (.inr up)
              simp [follow, stands, moves, down, short, missing] at step
      obtain ⟨error, refused, other⟩ := again
      unfold makeDirectories
      rw [refused]
      cases error with
      | notFound => exact absurd rfl other
      | _ => simp [whole]

/-- A path leads to a name in a directory. -/
structure EntryAt (tree : FileTree) (path : String) (front : List String) (name : String)
    (outer : Location) : Prop where
  sound : FilePath.fault? path = none
  names_eq : FilePath.names path = front ++ [name]
  found : tree.follow (FilePath.base path) front = .ok outer
  directory : tree.node? outer = some .directory
  moves : ¬ IsIdle name
  down : name ≠ ".."

variable {tree later : FileTree} {path name suffix : String} {front : List String}
variable {outer place : Location}

theorem exists_entryAt (located : tree.locate path = .ok place)
    (solid : tree.node? place ≠ some .directory) :
    ∃ front name outer, tree.EntryAt path front name outer ∧ place = name :: outer := by
  unfold locate at located
  split at located
  · cases located
  · rename_i sound
    obtain ⟨front, name, whole⟩ : ∃ front name, FilePath.names path = front ++ [name] :=
      ⟨_, _, (List.dropLast_concat_getLast (FilePath.names_ne_nil path)).symm⟩
    rw [whole] at located
    obtain ⟨outer, found, directory, moves, down, same⟩ :=
      (tree.reached_base path).exists_entry located solid
    exact ⟨front, name, outer, ⟨sound, whole, found, directory, moves, down⟩, same⟩

namespace EntryAt

theorem grow (entry : tree.EntryAt path front name outer) (grown : later.Keeps tree) :
    later.EntryAt path front name outer :=
  { entry with
    found := grown.follow entry.found
    directory := grown.directory outer entry.directory }

theorem locate (entry : tree.EntryAt path front name outer)
    (short : ¬ FilePath.maximumNameLength < name.utf8ByteSize)
    (there : (tree.node? (name :: outer)).isSome = true) :
    tree.locate path = .ok (name :: outer) := by
  have still : ¬ (name = "" ∨ name = ".") := entry.moves
  have step : tree.follow outer [name] = .ok (name :: outer) := by
    unfold follow
    rw [if_pos entry.directory, if_neg still, if_neg entry.down, if_neg short, if_pos there, follow]
  unfold FileTree.locate
  rw [entry.sound, entry.names_eq]
  simp only [follow_append, entry.found]
  exact step

/-- A file at the path stands under the name, if the name is not too long or that of a directory. -/
theorem outputPlace_eq (entry : tree.EntryAt path front name outer) :
    tree.outputPlace path =
      if FilePath.maximumNameLength < name.utf8ByteSize then .error .nameTooLong
      else if tree.node? (name :: outer) = some .directory then .error .isDirectory
      else .ok (name :: outer) := by
  have filled : name ≠ "" := fun empty => entry.moves (.inl empty)
  have shown : name ≠ "." := fun dot => entry.moves (.inr dot)
  have stands : tree.followToDirectory (FilePath.base path) front = .ok outer := by
    simp [followToDirectory, entry.found, entry.directory]
  have kept : (name :: front.reverse).dropWhile (· == "") = name :: front.reverse :=
    List.dropWhile_cons_of_neg (by simpa using filled)
  unfold outputPlace creationPlace
  simp only [entry.sound, entry.names_eq, List.reverse_append, List.reverse_singleton,
    List.singleton_append, kept, List.reverse_reverse, stands]
  simp [filled, shown, entry.down]

theorem path_ne (entry : tree.EntryAt path front name outer) : path ≠ "" := by
  rintro rfl
  exact absurd entry.sound (by decide)

theorem names_append (entry : tree.EntryAt path front name outer)
    (plain : '/' ∉ suffix.toList) :
    FilePath.names (path ++ suffix) = front ++ [name ++ suffix] := by
  obtain ⟨before, last, whole, longer⟩ := FilePath.exists_names_append path plain
  rw [entry.names_eq] at whole
  obtain ⟨rfl, single⟩ := List.append_inj' whole rfl
  rw [longer, List.singleton_inj.mp single]

theorem append (entry : tree.EntryAt path front name outer) (plain : '/' ∉ suffix.toList)
    (sound : FilePath.fault? (path ++ suffix) = none) :
    tree.EntryAt (path ++ suffix) front (name ++ suffix) outer where
  sound := sound
  names_eq := entry.names_append plain
  found := by
    rw [FilePath.base_append entry.path_ne]
    exact entry.found
  directory := entry.directory
  moves := (FilePath.moves_append entry.moves entry.down suffix).1
  down := (FilePath.moves_append entry.moves entry.down suffix).2

theorem makeRoom_append (entry : tree.EntryAt path front name outer)
    (plain : '/' ∉ suffix.toList) :
    tree.makeRoom (path ++ suffix) = (.ok (), tree) := by
  have moves := (FilePath.moves_append entry.moves entry.down suffix).1
  have same := FilePath.directory?_eq_of_names (entry.names_append plain) entry.names_eq moves
    entry.moves
  unfold makeRoom
  rw [same]
  obtain ⟨missing, -⟩ | ⟨directory, rest, given, some_text, whole, components⟩ :=
    FilePath.directory?_cases entry.names_eq entry.moves
  · rw [missing]
  · have base_eq := FilePath.base_append some_text rest
    rw [← whole] at base_eq
    have sound := entry.sound
    rw [whole] at sound
    simp only [given, FilePath.fault?_of_append some_text sound]
    rw [components]
    refine makeDirectories_eq_self ?_ ?_ entry.directory
    · simpa using FilePath.empty_notMem_stripped front
    · rw [List.reverse_reverse, ← base_eq]
      exact follow_stripped entry.found

theorem outputPlace_append (entry : tree.EntryAt path front name outer)
    (plain : '/' ∉ suffix.toList) :
    tree.outputPlace (path ++ suffix) =
      match FilePath.fault? (path ++ suffix) with
      | some error => .error error
      | none =>
          if FilePath.maximumNameLength < (name ++ suffix).utf8ByteSize then .error .nameTooLong
          else if tree.node? ((name ++ suffix) :: outer) = some .directory then .error .isDirectory
          else .ok ((name ++ suffix) :: outer) := by
  cases sound : FilePath.fault? (path ++ suffix) with
  | some error => simp only [outputPlace, sound]
  | none => exact (entry.append plain sound).outputPlace_eq

theorem outputPlace_grow (entry : tree.EntryAt path front name outer) (grown : later.Extends tree)
    (plain : '/' ∉ suffix.toList) :
    later.outputPlace (path ++ suffix) = tree.outputPlace (path ++ suffix) := by
  rw [entry.outputPlace_append plain, (entry.grow grown.toKeeps).outputPlace_append plain]
  simp only [grown.directory_iff]

theorem eq_of_outputPlace (entry : tree.EntryAt path front name outer)
    (plain : '/' ∉ suffix.toList)
    (given : tree.outputPlace (path ++ suffix) = .ok place) :
    place = (name ++ suffix) :: outer ∧ tree.node? place ≠ some .directory ∧
      FilePath.fault? (path ++ suffix) = none ∧
      ¬ FilePath.maximumNameLength < (name ++ suffix).utf8ByteSize := by
  rw [entry.outputPlace_append plain] at given
  split at given
  · cases given
  · rename_i sound
    split at given
    · cases given
    · rename_i short
      split at given
      · cases given
      · rename_i solid
        cases given
        exact ⟨rfl, solid, sound, short⟩

/-- An output that replaces something is what its path leads to. -/
theorem locate_of_outputPlace (entry : tree.EntryAt path front name outer)
    (plain : '/' ∉ suffix.toList)
    (given : tree.outputPlace (path ++ suffix) = .ok place)
    (there : (tree.node? place).isSome = true) : tree.locate (path ++ suffix) = .ok place := by
  obtain ⟨rfl, -, sound, short⟩ := entry.eq_of_outputPlace plain given
  exact (entry.append plain sound).locate short there

theorem write_append (entry : tree.EntryAt path front name outer)
    (plain : '/' ∉ suffix.toList) (content : ByteArray) :
    tree.write (path ++ suffix) content =
      match tree.outputPlace (path ++ suffix) with
      | .error error => (.error error, tree)
      | .ok place => (.ok (), tree.put place (.file content)) := by
  rw [write, entry.makeRoom_append plain]
  simp only [putFile_eq_map]
  cases tree.outputPlace (path ++ suffix) <;> rfl

end EntryAt

theorem node?_put_of_solid (solid : tree.node? place ≠ some .directory) (node : FileNode) :
    (later.put place node).node? place = some node := by
  refine node?_put_self later node (Bool.eq_false_iff.mpr fun out => solid ?_)
  simp [node?, out]

/-- Files that have been put into a tree. -/
structure Overlays (later tree : FileTree) (files : List (Location × ByteArray)) : Prop where
  there : ∀ place content, (place, content) ∈ files → later.node? place = some (.file content)
  others : ∀ place, place ∉ files.map Prod.fst → later.node? place = tree.node? place

theorem overlays_nil (tree : FileTree) : tree.Overlays tree [] where
  there _ _ inside := absurd inside List.not_mem_nil
  others _ _ := rfl

/-- At a place is one of the files that have been put into a tree, or what the tree has there. -/
theorem Overlays.node?_cases {files : List (Location × ByteArray)}
    (overlays : later.Overlays tree files) (place : Location) :
    (∃ content, (place, content) ∈ files ∧ later.node? place = some (.file content)) ∨
      later.node? place = tree.node? place := by
  by_cases put : place ∈ files.map Prod.fst
  · obtain ⟨⟨place, content⟩, inside, rfl⟩ := List.mem_map.mp put
    exact .inl ⟨content, inside, overlays.there place content inside⟩
  · exact .inr (overlays.others place put)

theorem Overlays.extends_of_solid {files : List (Location × ByteArray)}
    (overlays : later.Overlays tree files)
    (solid : ∀ file ∈ files, tree.node? file.1 ≠ some .directory) : later.Extends tree where
  directory place stands := by
    obtain ⟨content, inside, -⟩ | same := overlays.node?_cases place
    · exact absurd stands (solid _ inside)
    · rwa [same]
  solid place stands := by
    obtain ⟨content, inside, put⟩ | same := overlays.node?_cases place
    · rw [put] at stands
      cases stands
    · rwa [same] at stands
  kept place there := by
    obtain ⟨content, inside, put⟩ | same := overlays.node?_cases place
    · rw [put]
      rfl
    · rwa [same]

theorem Overlays.perm {files others : List (Location × ByteArray)}
    (overlays : later.Overlays tree files) (same : files.Perm others) :
    later.Overlays tree others where
  there place content inside := overlays.there place content (same.mem_iff.mpr inside)
  others place outside :=
    overlays.others place fun inside => outside ((same.map Prod.fst).mem_iff.mp inside)

theorem Overlays.put {files : List (Location × ByteArray)} (overlays : later.Overlays tree files)
    {content : ByteArray} (solid : tree.node? place ≠ some .directory)
    (same : ∀ other, (place, other) ∈ files → other = content) :
    (later.put place (.file content)).Overlays tree (files ++ [(place, content)]) where
  there other found inside := by
    by_cases here : other = place
    · have equal : found = content := by
        obtain before | now := List.mem_append.mp inside
        · exact same found (here ▸ before)
        · exact (Prod.mk.inj (List.mem_singleton.mp now)).2
      rw [here, equal, node?_put_of_solid solid]
    · have before : (other, found) ∈ files := by simpa [here] using inside
      rw [node?_put_of_ne later _ here, overlays.there other found before]
  others other outside := by
    simp only [List.map_append, List.mem_append, List.map_singleton, List.mem_singleton,
      not_or] at outside
    rw [node?_put_of_ne later _ outside.2, overlays.others other outside.1]

end FileTree
end LayoutRecovery
