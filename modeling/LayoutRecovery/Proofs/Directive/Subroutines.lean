import LayoutRecovery.Context
import Mathlib.Data.List.Induction

/-!
# The table of subroutines

Declared one after the other, subroutines make a table that lists every name once, at the place of
its first declaration and as it was declared last.  The names in a line are tried in the order of
the table, so that the first declaration of a name decides its rank, and the last one what it stands
for.
-/

namespace LayoutRecovery

namespace SubroutineTable

theorem eraseDups_concat (names : List String) (name : String) :
    (names ++ [name]).eraseDups =
      if name ∈ names then names.eraseDups else names.eraseDups ++ [name] := by
  rw [List.eraseDups_append]
  by_cases known : name ∈ names
  · have nothing : [name].removeAll names = [] := by simpa [List.removeAll] using known
    rw [if_pos known, nothing, List.eraseDups_nil, List.append_nil]
  · have itself : [name].removeAll names = [name] := by simpa [List.removeAll] using known
    rw [if_neg known, itself]
    rfl

theorem find?_eraseDups (holds : String → Bool) (names : List String) :
    names.eraseDups.find? holds = names.find? holds := by
  induction names using List.reverseRecOn with
  | nil => rfl
  | append_singleton names name ih =>
      rw [eraseDups_concat, List.find?_append]
      split
      · next known =>
        rw [ih]
        cases found : names.find? holds with
        | some first => rfl
        | none =>
            have fails : holds name = false := by simpa using List.find?_eq_none.mp found name known
            simp [fails]
      · rw [List.find?_append, ih]

/-- The last declaration of a name. -/
def latest? (declared : List Subroutine) (name : String) : Option Subroutine :=
  declared.findRev? fun subroutine => subroutine.name == name

/-- A table with every declared name once, in the order of the first declarations, each as it was
declared last. -/
structure Lists (declared : List Subroutine) (table : SubroutineTable) : Prop where
  names : table.map Subroutine.name = (declared.map Subroutine.name).eraseDups
  latest : ∀ subroutine ∈ table, latest? declared subroutine.name = some subroutine

theorem exists_latest? {declared : List Subroutine} {subroutine : Subroutine}
    (inside : subroutine ∈ declared) : ∃ last, latest? declared subroutine.name = some last := by
  rw [← Option.isSome_iff_exists, latest?, List.findRev?_eq_find?_reverse, List.find?_isSome]
  exact ⟨subroutine, List.mem_reverse.mpr inside, beq_self_eq_true _⟩

theorem latest?_concat (declared : List Subroutine) (subroutine : Subroutine) (name : String) :
    latest? (declared ++ [subroutine]) name =
      if subroutine.name = name then some subroutine else latest? declared name := by
  simp only [latest?, List.findRev?_eq_find?_reverse, List.reverse_append, List.reverse_singleton,
    List.singleton_append, List.find?_cons]
  cases same : subroutine.name == name <;> simp_all

theorem any_name_iff {table : SubroutineTable} {name : String} :
    (table.any fun known => known.name == name) = true ↔ name ∈ table.map Subroutine.name := by
  simp [List.any_eq_true]

theorem map_name_register (table : SubroutineTable) (subroutine : Subroutine) :
    (table.register subroutine).map Subroutine.name =
      if subroutine.name ∈ table.map Subroutine.name then table.map Subroutine.name
      else table.map Subroutine.name ++ [subroutine.name] := by
  unfold register
  simp only [any_name_iff]
  split
  · rw [List.map_map]
    refine List.map_congr_left fun known _ => ?_
    simp only [Function.comp_apply]
    split
    · next same => exact (beq_iff_eq.mp same).symm
    · rfl
  · rw [List.map_append]
    rfl

/-- A declaration replaces what was declared under its name and leaves everything else. -/
theorem mem_register_iff {table : SubroutineTable} {subroutine known : Subroutine} :
    known ∈ table.register subroutine ↔
      known = subroutine ∨ known ∈ table ∧ known.name ≠ subroutine.name := by
  unfold register
  simp only [any_name_iff]
  split
  · next listed =>
    simp only [List.mem_map, beq_iff_eq]
    constructor
    · rintro ⟨earlier, inside, replaced⟩
      split at replaced
      · exact .inl replaced.symm
      · next other =>
        obtain rfl := replaced
        exact .inr ⟨inside, other⟩
    · rintro (rfl | ⟨inside, other⟩)
      · obtain ⟨earlier, inside, same⟩ := List.mem_map.mp listed
        exact ⟨earlier, inside, if_pos same⟩
      · exact ⟨known, inside, if_neg other⟩
  · next fresh =>
    rw [List.mem_append, List.mem_singleton]
    constructor
    · rintro (inside | rfl)
      · refine .inr ⟨inside, fun same => fresh ?_⟩
        exact List.mem_map.mpr ⟨known, inside, same⟩
      · exact .inl rfl
    · rintro (rfl | ⟨inside, -⟩)
      · exact .inr rfl
      · exact .inl inside

theorem Lists.register {declared : List Subroutine} {table : SubroutineTable}
    (lists : Lists declared table) (subroutine : Subroutine) :
    Lists (declared ++ [subroutine]) (table.register subroutine) where
  names := by
    rw [map_name_register, List.map_append, List.map_singleton, eraseDups_concat, lists.names]
    simp only [List.mem_eraseDups]
  latest known inside := by
    rw [latest?_concat]
    rcases mem_register_iff.mp inside with rfl | ⟨earlier, other⟩
    · rw [if_pos rfl]
    · rw [if_neg (Ne.symm other), lists.latest known earlier]

theorem lists_foldl_register (declared : List Subroutine) :
    Lists declared (declared.foldl SubroutineTable.register []) := by
  induction declared using List.reverseRecOn with
  | nil => exact ⟨rfl, by simp⟩
  | append_singleton declared subroutine ih =>
      rw [List.foldl_append]
      exact ih.register subroutine

/-- A line is expanded by the last declaration of the name that was declared first among those that
occur in it. -/
theorem Lists.find?_eq {declared : List Subroutine} {table : SubroutineTable}
    (lists : Lists declared table) (line : List Char) :
    table.find? line =
      (declared.find? fun known => Text.occursIn known.name.toList line).bind fun first =>
        latest? declared first.name := by
  have names : (table.find? line).map Subroutine.name =
      (declared.find? fun known => Text.occursIn known.name.toList line).map Subroutine.name := by
    have ranked := find?_eraseDups (fun name => Text.occursIn name.toList line)
      (declared.map Subroutine.name)
    rw [← lists.names, List.find?_map, List.find?_map] at ranked
    exact ranked
  cases found : table.find? line with
  | none =>
      rw [found, Option.map_none] at names
      rw [Option.map_eq_none_iff.mp names.symm, Option.bind_none]
  | some subroutine =>
      rw [found, Option.map_some] at names
      obtain ⟨first, earliest, same⟩ := Option.map_eq_some_iff.mp names.symm
      rw [earliest, Option.bind_some, same]
      exact (lists.latest subroutine (List.mem_of_find?_eq_some found)).symm

end SubroutineTable

end LayoutRecovery
