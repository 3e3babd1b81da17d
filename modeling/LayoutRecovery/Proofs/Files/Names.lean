import LayoutRecovery.Files.Path
import LayoutRecovery.Proofs.Text.Lines

/-!
# Names and directories of paths

A path is its names with slashes between them.  Text without a slash behind a path lengthens its
last name, and the directory of the longer path is named by the other names, idle ones at the end
apart.
-/

namespace LayoutRecovery
namespace FilePath

theorem slash_notMem_of_mem_names {path name : String} (inside : name ∈ names path) :
    '/' ∉ name.toList := by
  obtain ⟨piece, found, rfl⟩ := List.mem_map.mp inside
  rw [String.toList_ofList]
  exact fun slash => (Text.mem_and_ne_of_mem_splitOn found slash).2 rfl

theorem names_ne_nil (path : String) : names path ≠ [] := by
  simp [names]

theorem intercalate_names (path : String) : "/".intercalate (names path) = path := by
  refine String.toList_inj.mp ?_
  simp [String.toList_intercalate, names, Function.comp_def]

theorem names_intercalate {parts : List String} (some_part : parts ≠ [])
    (slashless : ∀ part ∈ parts, '/' ∉ part.toList) : names ("/".intercalate parts) = parts := by
  have apart : ∀ piece ∈ parts.map String.toList, '/' ∉ piece := by simpa using slashless
  have pieces := List.splitOn_intercalate '/' apart (by simpa using some_part)
  rw [names, String.toList_intercalate]
  simp [pieces]

/-- Text without a slash belongs to the last name of the path in front of it. -/
theorem exists_names_append (path : String) {suffix : String} (plain : '/' ∉ suffix.toList) :
    ∃ front last, names path = front ++ [last] ∧
      names (path ++ suffix) = front ++ [last ++ suffix] := by
  obtain ⟨front, last, pieces, longer⟩ := Text.exists_splitOn_append path.toList plain
  refine ⟨front.map String.ofList, String.ofList last, by simp [names, pieces], ?_⟩
  simp [names, longer]

/-- Whether a name stays where it is. -/
def IsIdle (name : String) : Prop :=
  name = "" ∨ name = "."

theorem exists_dropIdle {names : List String} (some_name : names ≠ []) :
    ∃ idle, names = idle ++ dropIdle names ∧ (∀ name ∈ idle, IsIdle name) ∧
      dropIdle names ≠ [] := by
  fun_induction dropIdle names with
  | case1 name next outer stays ih =>
      obtain ⟨idle, whole, stay, remains⟩ := ih (by simp)
      refine ⟨name :: idle, congrArg (name :: ·) whole, ?_, remains⟩
      exact List.forall_mem_cons.mpr ⟨stays, stay⟩
  | case2 name next outer moves => exact ⟨[], rfl, by simp, by simp⟩
  | case3 names => exact ⟨[], rfl, by simp, some_name⟩

theorem drop_dropIdle {name : String} (moves : ¬ IsIdle name) (outer : List String) :
    (dropIdle (name :: outer)).drop 1 = outer := by
  cases outer with
  | nil => rfl
  | cons next outer =>
      rw [dropIdle]
      exact congrArg (List.drop 1) (if_neg moves)

/-- Names without empty ones, and without `.` except at their start. -/
def stripped : List String → List String
  | [] => []
  | first :: rest =>
      (if first = "" then [] else [first]) ++ rest.filter fun name => name != "" && name != "."

theorem components_eq_stripped (path : String) : components path = stripped (names path) :=
  rfl

theorem stripped_append_idle {front idle : List String} (some_name : front ≠ [])
    (stay : ∀ name ∈ idle, IsIdle name) : stripped (front ++ idle) = stripped front := by
  obtain ⟨first, rest, rfl⟩ := List.exists_cons_of_ne_nil some_name
  have dropped : (idle.filter fun name => name != "" && name != ".") = [] := by
    refine List.filter_eq_nil_iff.mpr fun name inside => ?_
    obtain rfl | rfl := stay name inside <;> simp
  simp [stripped, dropped]

theorem empty_notMem_stripped (names : List String) : "" ∉ stripped names := by
  cases names with
  | nil => simp [stripped]
  | cons first rest =>
      by_cases empty : first = ""
      · simp [stripped, empty]
      · simp [stripped, empty, Ne.symm empty]

section Directories

variable {path name : String} {front : List String}

theorem directory?_eq_of_names {other another : String} (here : names path = front ++ [name])
    (there : names other = front ++ [another]) (moves : ¬ IsIdle name)
    (moves_other : ¬ IsIdle another) : directory? path = directory? other := by
  rw [directory?, directory?, here, there, List.reverse_append, List.reverse_append,
    List.reverse_singleton, List.reverse_singleton, List.singleton_append, List.singleton_append,
    drop_dropIdle moves, drop_dropIdle moves_other]

/-- The directory of a path that ends in a moving name is a start of the path, and its names are
those in front. -/
theorem directory?_cases (here : names path = front ++ [name]) (moves : ¬ IsIdle name) :
    directory? path = none ∧ front = [] ∨
      ∃ directory rest, directory? path = some directory ∧ directory ≠ "" ∧
        path = directory ++ rest ∧ components directory = stripped front := by
  have above : (dropIdle (names path).reverse).drop 1 = front.reverse := by
    rw [here, List.reverse_append, List.reverse_singleton, List.singleton_append,
      drop_dropIdle moves]
  by_cases alone : front = []
  · left
    rw [directory?, above, alone]
    exact ⟨rfl, rfl⟩
  right
  obtain ⟨idle, whole, stay, remains⟩ := exists_dropIdle (List.reverse_ne_nil_iff.mpr alone)
  let outer := (dropIdle front.reverse).reverse
  have outer_some : outer ≠ [] := List.reverse_ne_nil_iff.mpr remains
  have split : front = outer ++ idle.reverse := by
    rw [← List.reverse_reverse front, whole, List.reverse_append]
  have same_names : stripped front = stripped outer := by
    rw [split]
    exact stripped_append_idle outer_some fun name inside => stay name (List.mem_reverse.mp inside)
  have slashless : ∀ part ∈ outer, '/' ∉ part.toList := by
    intro part inside
    have listed : part ∈ names path := by simp [here, split, inside]
    exact slash_notMem_of_mem_names listed
  have read := names_intercalate outer_some slashless
  have longer : path =
      "/".intercalate outer ++ "/" ++ "/".intercalate (idle.reverse ++ [name]) := by
    rw [← String.intercalate_append_of_ne_nil outer_some (by simp), ← List.append_assoc, ← split,
      ← here, intercalate_names]
  have found : directory? path =
      some (if ("/".intercalate outer).isEmpty then "/" else "/".intercalate outer) := by
    rw [directory?, above]
    obtain ⟨last, before, reversed⟩ :=
      List.exists_cons_of_ne_nil (List.reverse_ne_nil_iff.mpr alone)
    simp only [outer, reversed]
  rw [found, same_names]
  by_cases root : "/".intercalate outer = ""
  · refine ⟨"/", "/".intercalate (idle.reverse ++ [name]), ?_, by decide, ?_, ?_⟩
    · rw [root]
      rfl
    · rw [longer, root, String.empty_append]
    · rw [root] at read
      rw [← read]
      decide
  · refine ⟨"/".intercalate outer, "/" ++ "/".intercalate (idle.reverse ++ [name]), ?_, root, ?_,
      ?_⟩
    · simp [root]
    · rw [longer, String.append_assoc]
    · rw [components_eq_stripped, read]

end Directories

end FilePath
end LayoutRecovery
