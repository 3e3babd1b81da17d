import LayoutRecovery.Files.Tree
import LayoutRecovery.Proofs.Files.Names

/-!
# Following paths

A path is followed through directories, so what it leads to is there, and the places on the way stay
passable when files are added to the tree.
-/

namespace LayoutRecovery
namespace FileTree

open FilePath (IsIdle)

theorem follow_append (tree : FileTree) (here : Location) (front back : List String) :
    tree.follow here (front ++ back) = (tree.follow here front).bind (tree.follow · back) := by
  fun_induction follow tree here front with
  | case1 here => rfl
  | case2 here name rest stands stays ih => simpa [follow, stands, stays] using ih
  | case3 here rest stands moves ih => simpa [follow, stands] using ih
  | case4 here name rest stands moves up long => simp [follow, stands, moves, up, long, Except.bind]
  | case5 here name rest stands moves up short found ih =>
      simpa [follow, stands, moves, up, short, found] using ih
  | case6 here name rest stands moves up short missing =>
      simp [follow, stands, moves, up, short, missing, Except.bind]
  | case7 here name rest blocked => simp [follow, blocked, Except.bind]

/-- Places that paths lead to: those outside, and those that are there in a reached directory. -/
inductive Reached (tree : FileTree) : Location → Prop
  | outside {here : Location} (out : here.all Location.leadsOut = true) : Reached tree here
  | inside {name : String} {outer : Location} (reached : Reached tree outer)
      (directory : tree.node? outer = some .directory) (there : (tree.node? (name :: outer)).isSome)
      (down : name ≠ "..") : Reached tree (name :: outer)

theorem reached_base (tree : FileTree) (path : String) : tree.Reached (FilePath.base path) := by
  unfold FilePath.base
  split
  · exact .outside (by decide)
  · exact .outside (by decide)

variable {tree : FileTree} {here place : Location} {names : List String}

theorem Reached.isSome (reached : tree.Reached here) : (tree.node? here).isSome = true := by
  cases reached with
  | outside out => simp [node?, out]
  | inside _ _ there _ => exact there

theorem Reached.parent (reached : tree.Reached here)
    (directory : tree.node? here = some .directory) :
    tree.Reached here.parent ∧ tree.node? here.parent = some .directory := by
  cases reached with
  | outside out =>
      have above : here.parent.all Location.leadsOut = true := by
        unfold Location.parent
        split
        · decide
        · split
          · exact out
          · split <;> simp_all [Location.leadsOut]
      exact ⟨.outside above, by simp [node?, above]⟩
  | @inside name outer reached above there down =>
      by_cases root : name = Location.rootName
      · simp only [Location.parent, root, if_true]
        rw [root] at there directory down
        exact ⟨.inside reached above there down, directory⟩
      · simp only [Location.parent, root, down, if_false]
        exact ⟨reached, above⟩

theorem Reached.follow (reached : tree.Reached here) (found : tree.follow here names = .ok place) :
    tree.Reached place := by
  fun_induction FileTree.follow tree here names with
  | case1 here => cases found; exact reached
  | case2 here name rest stands stays ih => exact ih reached found
  | case3 here rest stands moves ih => exact ih (reached.parent stands).1 found
  | case4 here name rest stands moves up long => cases found
  | case5 here name rest stands moves up short there ih =>
      exact ih (.inside reached stands there up) found
  | case6 here name rest stands moves up short missing => cases found
  | case7 here name rest blocked => cases found

theorem isSome_of_locate {path : String} (found : tree.locate path = .ok place) :
    (tree.node? place).isSome = true := by
  unfold locate at found
  split at found
  · cases found
  · exact ((tree.reached_base path).follow found).isSome

theorem exists_follow_of_append {front back : List String}
    (found : tree.follow here (front ++ back) = .ok place) :
    ∃ middle, tree.follow here front = .ok middle ∧ tree.follow middle back = .ok place := by
  rw [follow_append] at found
  cases reach : tree.follow here front with
  | error error => simp [reach, Except.bind] at found
  | ok middle => exact ⟨middle, rfl, by simpa [reach, Except.bind] using found⟩

/-- The last step to something other than a directory goes down by the last name. -/
theorem Reached.exists_entry (reached : tree.Reached here) {front : List String} {name : String}
    (found : tree.follow here (front ++ [name]) = .ok place)
    (solid : tree.node? place ≠ some .directory) :
    ∃ outer, tree.follow here front = .ok outer ∧ tree.node? outer = some .directory ∧
      ¬ IsIdle name ∧ name ≠ ".." ∧ place = name :: outer := by
  obtain ⟨outer, front_found, step⟩ := exists_follow_of_append found
  have reached_outer := reached.follow front_found
  refine ⟨outer, front_found, ?_⟩
  unfold FileTree.follow at step
  split at step
  · rename_i stands
    split at step
    · cases step
      exact absurd stands solid
    · rename_i moves
      split at step
      · cases step
        exact absurd (reached_outer.parent stands).2 solid
      · rename_i down
        split at step
        · cases step
        · split at step
          · cases step
            exact ⟨stands, moves, down, rfl⟩
          · cases step
  · cases step

theorem followToDirectory_eq_ok_iff :
    tree.followToDirectory here names = .ok place ↔
      tree.follow here names = .ok place ∧ tree.node? place = some .directory := by
  unfold followToDirectory
  split
  · rename_i found
    split
    · rename_i directory
      constructor
      · rintro ⟨⟩
        exact ⟨found, directory⟩
      · rintro ⟨same, -⟩
        rw [← same, found]
    · rename_i solid
      constructor
      · rintro ⟨⟩
      · rintro ⟨same, directory⟩
        rw [found] at same
        cases same
        exact absurd directory solid
  · rename_i failed
    simp [failed]

theorem follow_filter (found : tree.follow here names = .ok place) :
    tree.follow here (names.filter fun name => name != "" && name != ".") = .ok place := by
  fun_induction FileTree.follow tree here names with
  | case1 here => exact found
  | case2 here name rest stands stays ih => obtain rfl | rfl := stays <;> simpa using ih found
  | case3 here rest stands moves ih => simpa [follow, stands] using ih found
  | case4 here name rest stands moves up long => cases found
  | case5 here name rest stands moves up short there ih =>
      rw [List.filter_cons_of_pos (by simpa using moves)]
      simpa [follow, stands, moves, up, short, there] using ih found
  | case6 here name rest stands moves up short missing => cases found
  | case7 here name rest blocked => cases found

theorem follow_stripped (found : tree.follow here names = .ok place) :
    tree.follow here (FilePath.stripped names) = .ok place := by
  cases names with
  | nil => exact found
  | cons first rest =>
      rw [← List.singleton_append] at found
      obtain ⟨middle, step, others⟩ := exists_follow_of_append found
      have later := follow_filter others
      by_cases empty : first = ""
      · have stays : middle = here := by
          rw [empty] at step
          unfold FileTree.follow at step
          split at step
          · cases step
            rfl
          · cases step
        simpa [FilePath.stripped, empty, ← stays] using later
      · rw [FilePath.stripped, if_neg empty, follow_append, step]
        exact later

/-- A tree in which everything is still there, directories as directories. -/
structure Keeps (later tree : FileTree) : Prop where
  directory : ∀ place, tree.node? place = some .directory → later.node? place = some .directory
  kept : ∀ place, (tree.node? place).isSome = true → (later.node? place).isSome = true

theorem Keeps.refl (tree : FileTree) : tree.Keeps tree where
  directory _ stands := stands
  kept _ there := there

theorem Keeps.trans {last later : FileTree} (second : last.Keeps later)
    (first : later.Keeps tree) : last.Keeps tree where
  directory place stands := second.directory place (first.directory place stands)
  kept place there := second.kept place (first.kept place there)

/-- A path leads to the same place as long as everything on its way is kept. -/
theorem Keeps.follow {later : FileTree} (grown : later.Keeps tree)
    (found : tree.follow here names = .ok place) : later.follow here names = .ok place := by
  fun_induction FileTree.follow tree here names with
  | case1 here => exact found
  | case2 here name rest stands stays ih =>
      have stands_later := grown.directory here stands
      simpa [FileTree.follow, stands_later, stays] using ih found
  | case3 here rest stands moves ih =>
      have stands_later := grown.directory here stands
      simpa [FileTree.follow, stands_later] using ih found
  | case4 here name rest stands moves up long => cases found
  | case5 here name rest stands moves up short there ih =>
      have stands_later := grown.directory here stands
      have there_later := grown.kept _ there
      simpa [FileTree.follow, stands_later, moves, up, short, there_later] using ih found
  | case6 here name rest stands moves up short missing => cases found
  | case7 here name rest blocked => cases found

theorem Keeps.locate {later : FileTree} (grown : later.Keeps tree) {path : String}
    (found : tree.locate path = .ok place) : later.locate path = .ok place := by
  unfold FileTree.locate at found ⊢
  split at found
  · cases found
  · exact grown.follow found

/-- A tree in which everything is still there, without new directories. -/
structure Extends (later tree : FileTree) : Prop extends later.Keeps tree where
  solid : ∀ place, later.node? place = some .directory → tree.node? place = some .directory

theorem Extends.directory_iff {later : FileTree} (grown : later.Extends tree) (place : Location) :
    later.node? place = some .directory ↔ tree.node? place = some .directory :=
  ⟨grown.solid place, grown.directory place⟩

end FileTree
end LayoutRecovery
