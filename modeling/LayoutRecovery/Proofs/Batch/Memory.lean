import LayoutRecovery.Proofs.Batch.Schedule
import Mathlib.Data.List.Nodup

/-!
# Batches in memory

A batch of texts whose classes are kept in memory.  A visit adds at most one entry, under the name
of its input, so visits of inputs with different names do not disturb each other: whatever the
order, each input has the outcome that it has alone, and there is one entry for each class.
-/

namespace LayoutRecovery

/-- The outcome of an input whose class cannot fail to be handed on. -/
def Reconstruction.outcome (reconstruction : Reconstruction) (name : String) : Outcome where
  name := name
  result := reconstruction.result.mapError .directive

/-- The entry that an outcome leaves in a memory: the text of the class under the input's name. -/
def Outcome.entry? (outcome : Outcome) : Option (String × String) :=
  match outcome.result with
  | .ok (some stub) => some (outcome.name, stub.render)
  | _ => none

theorem Outcome.name_of_entry? {outcome : Outcome} {entry : String × String}
    (left : outcome.entry? = some entry) : entry.1 = outcome.name := by
  unfold entry? at left
  split at left
  · cases left
    rfl
  · cases left

namespace Shelf

/-- Keeps the entry of an outcome. -/
def keep (shelf : Shelf) (outcome : Outcome) : Shelf :=
  match outcome.entry? with
  | some (name, text) => shelf.put name text
  | none => shelf

@[simp]
theorem told_keep (shelf : Shelf) (outcome : Outcome) :
    (shelf.keep outcome).told = shelf.told := by
  unfold keep
  cases outcome.entry? <;> rfl

theorem texts_keep {shelf : Shelf} {outcome : Outcome}
    (fresh : outcome.name ∉ shelf.texts.map Prod.fst) :
    (shelf.keep outcome).texts = outcome.entry?.toList ++ shelf.texts := by
  unfold keep
  cases left : outcome.entry? with
  | none => rfl
  | some entry =>
      rw [← Outcome.name_of_entry? left] at fresh
      have others : shelf.texts.filter (fun other => other.1 != entry.1) = shelf.texts := by
        refine List.filter_eq_self.mpr fun other inside => bne_iff_ne.mpr fun same => fresh ?_
        exact same ▸ List.mem_map_of_mem inside
      exact congrArg (entry :: ·) others

section Runs

variable (config : Config)

theorem run_deliver (name : String) (reconstruction : Reconstruction) (shelf : Shelf) :
    ((Shelf.batch config).deliver name reconstruction).run shelf =
      (reconstruction.outcome name, shelf.keep (reconstruction.outcome name)) := by
  obtain ⟨result, log⟩ := reconstruction
  rcases result with error | (- | stub)
  · rfl
  · rfl
  · rfl

theorem run_log (records : List LogRecord) (shelf : Shelf) :
    (records.forM (Shelf.batch config).log).run shelf = ((), shelf) := by
  induction records with
  | nil => rfl
  | cons record rest ih => exact ih

theorem run_process (name text : String) (shelf : Shelf) :
    let outcome := (config.reconstruct (SourceLine.ofText text)).outcome name
    ((Shelf.batch config).process (Source.ofText name text)).run shelf =
      (outcome, shelf.keep outcome) := by
  intro outcome
  let reconstruction := config.reconstruct (SourceLine.ofText text)
  let source : Source (StateM Shelf) := .ofText name text
  have loaded : source.load.run shelf = (.ok (SourceLine.ofText text), shelf) := rfl
  have logged := run_log config reconstruction.log shelf
  exact (run_bind_eq loaded _).trans
    ((run_bind_eq logged _).trans (run_deliver config name reconstruction shelf))

theorem run_visit (name text : String) (shelf : Shelf) :
    let outcome := (config.reconstruct (SourceLine.ofText text)).outcome name
    ((Shelf.batch config).visit (Source.ofText name text)).run shelf =
      (outcome, { shelf.keep outcome with told := shelf.told ++ [outcome] }) := by
  intro outcome
  rw [Batch.visit, run_bind_eq (run_process config name text shelf), ← told_keep shelf outcome]
  rfl

end Runs

/-- The outcome of an input that is processed by itself. -/
def alone (config : Config) (source : Source (StateM Shelf)) : Outcome :=
  (((Shelf.batch config).process source).run Shelf.empty).1

theorem alone_ofText (config : Config) (name text : String) :
    alone config (Source.ofText name text) =
      (config.reconstruct (SourceLine.ofText text)).outcome name := by
  rw [alone, run_process]

/-- Outcomes have been told, and their entries have been made, the last one first. -/
structure Holds (shelf : Shelf) (outcomes : List Outcome) : Prop where
  told : shelf.told = outcomes
  texts : shelf.texts = (outcomes.filterMap Outcome.entry?).reverse

theorem Holds.keep {shelf : Shelf} {outcomes : List Outcome} (holds : shelf.Holds outcomes)
    {outcome : Outcome} (fresh : outcome.name ∉ outcomes.map Outcome.name) :
    Holds { shelf.keep outcome with told := shelf.told ++ [outcome] } (outcomes ++ [outcome]) where
  told := by rw [holds.told]
  texts := by
    have unused : outcome.name ∉ shelf.texts.map Prod.fst := by
      intro used
      obtain ⟨entry, inside, same⟩ := List.mem_map.mp used
      rw [holds.texts, List.mem_reverse] at inside
      obtain ⟨other, told, left⟩ := List.mem_filterMap.mp inside
      rw [Outcome.name_of_entry? left] at same
      exact fresh (List.mem_map.mpr ⟨other, told, same⟩)
    rw [List.filterMap_append, List.reverse_append, ← holds.texts]
    refine (texts_keep unused).trans ?_
    cases left : outcome.entry? <;> simp [left]

theorem names_entries_sublist (outcomes : List Outcome) :
    ((outcomes.filterMap Outcome.entry?).map Prod.fst).Sublist (outcomes.map Outcome.name) := by
  induction outcomes with
  | nil => exact .refl _
  | cons outcome rest ih =>
      rw [List.filterMap_cons]
      cases left : outcome.entry? with
      | none => exact ih.cons _
      | some entry =>
          rw [List.map_cons, List.map_cons, Outcome.name_of_entry? left]
          exact ih.cons_cons _

theorem text?_eq_some_iff {shelf : Shelf} (distinct : (shelf.texts.map Prod.fst).Nodup)
    {name text : String} : shelf.text? name = some text ↔ (name, text) ∈ shelf.texts := by
  rw [text?, List.lookup_eq_some_iff]
  constructor
  · rintro ⟨front, back, whole, -⟩
    simp [whole]
  · intro inside
    obtain ⟨front, back, whole⟩ := List.append_of_mem inside
    refine ⟨front, back, whole, fun entry before => bne_iff_ne.mpr fun same => ?_⟩
    rw [whole, List.map_append, List.map_cons, List.nodup_append] at distinct
    exact distinct.2.2 entry.1 (List.mem_map_of_mem before) name List.mem_cons_self same.symm

/-- The inputs with the given names and texts. -/
def sources (inputs : List (String × String)) : List (Source (StateM Shelf)) :=
  inputs.map fun input => Source.ofText input.1 input.2

theorem alone_sources (config : Config) {inputs : List (String × String)}
    (index : Fin (sources inputs).length) (shelf : Shelf) :
    let outcome := alone config ((sources inputs).get index)
    outcome.name = ((sources inputs).get index).name ∧
      ((Shelf.batch config).visit ((sources inputs).get index)).run shelf =
        (outcome, { shelf.keep outcome with told := shelf.told ++ [outcome] }) := by
  intro outcome
  obtain ⟨input, -, comes⟩ := List.mem_map.mp (List.get_mem (sources inputs) index)
  have alone_eq : outcome = (config.reconstruct (SourceLine.ofText input.2)).outcome input.1 := by
    simp only [outcome, ← comes, alone_ofText]
  rw [alone_eq, ← comes]
  exact ⟨rfl, run_visit config input.1 input.2 shelf⟩

theorem names_sources (inputs : List (String × String)) :
    (sources inputs).map Source.name = inputs.map Prod.fst := by
  simp [sources, Source.ofText]

theorem names_sources_injective {inputs : List (String × String)}
    (distinct : (inputs.map Prod.fst).Nodup) :
    Function.Injective fun index => ((sources inputs).get index).name := by
  intro index other same
  rw [← names_sources] at distinct
  have equal := List.inj_on_of_nodup_map distinct (List.get_mem _ index) (List.get_mem _ other) same
  exact List.nodup_iff_injective_get.mp distinct.of_map equal

theorem settles_sources (config : Config) {inputs : List (String × String)}
    (distinct : (inputs.map Prod.fst).Nodup) :
    (Shelf.batch config).Settles (sources inputs) (alone config) fun done shelf =>
      shelf.Holds (done.map fun index => alone config ((sources inputs).get index)) where
  outcome_eq _ index state _ _ := by rw [(alone_sources config index state).2]
  after done index state fresh holds := by
    rw [(alone_sources config index state).2, List.map_append]
    refine holds.keep fun again => fresh ?_
    obtain ⟨outcome, before, same⟩ := List.mem_map.mp again
    obtain ⟨other, visited, rfl⟩ := List.mem_map.mp before
    rw [(alone_sources config other state).1, (alone_sources config index state).1] at same
    exact names_sources_injective distinct same ▸ visited

/-- A batch of texts under different names gives the same outcomes in every order, those that the
inputs have alone.  Each outcome is told once, and the memory holds the texts of the classes. -/
theorem runInOrder_sources (config : Config) (inputs : List (String × String))
    (distinct : (inputs.map Prod.fst).Nodup) (order : List (Fin (sources inputs).length))
    (complete : order.Perm (List.finRange (sources inputs).length)) :
    let outcomes := (sources inputs).map (alone config)
    let run := ((Shelf.batch config).runInOrder (sources inputs) order).run Shelf.empty
    run.1 = outcomes ∧
      run.2.told = order.map (fun index => alone config ((sources inputs).get index)) ∧
      run.2.texts.Perm (outcomes.filterMap Outcome.entry?) ∧
      ∀ name text, run.2.text? name = some text ↔
        (name, text) ∈ outcomes.filterMap Outcome.entry? := by
  intro outcomes run
  have start : Shelf.empty.Holds [] := ⟨rfl, rfl⟩
  obtain ⟨shelf, holds, ran⟩ := (settles_sources config distinct).run_runInOrder complete start
  rw [show run = (outcomes, shelf) from ran]
  have told : (order.map (alone config ∘ (sources inputs).get)).Perm outcomes := by
    rw [← List.map_map]
    refine ((complete.map _).trans (.of_eq ?_)).map _
    exact List.map_get_finRange _
  have entries : shelf.texts.Perm (outcomes.filterMap Outcome.entry?) := by
    rw [holds.texts]
    exact (List.reverse_perm _).trans (told.filterMap _)
  have names : outcomes.map Outcome.name = inputs.map Prod.fst := by
    simp [outcomes, sources, Function.comp_def, alone_ofText, Reconstruction.outcome]
  have unique : (shelf.texts.map Prod.fst).Nodup := by
    refine (entries.map _).nodup_iff.mpr ((names_entries_sublist _).nodup ?_)
    rwa [names]
  exact ⟨rfl, holds.told, entries, fun _ _ => (text?_eq_some_iff unique).trans entries.mem_iff⟩

/-- A class, a text without signature and a malformed directive, visited last to first. -/
theorem runInOrder_sources_three :
    let inputs := [("a", "void sub_1(a1)\n  *(_DWORD *)(a1 + 0) = 0;\n"),
      ("c", "// no body here\n"), ("d", "#size x\nvoid sub_3(a1)\n")]
    let order : List (Fin (sources inputs).length) :=
      [⟨2, by decide⟩, ⟨0, by decide⟩, ⟨1, by decide⟩]
    (inputs.map Prod.fst).Nodup ∧ order.Perm (List.finRange (sources inputs).length) ∧
      let outcomes := (sources inputs).map (alone {})
      let run := ((Shelf.batch {}).runInOrder (sources inputs) order).run Shelf.empty
      outcomes.map (fun outcome => (outcome.isSuccess, outcome.isFailure)) =
          [(true, false), (false, false), (false, true)] ∧
        run.1 = outcomes ∧
        run.2.told = order.map (fun index => alone {} ((sources inputs).get index)) ∧
        run.2.texts.Perm (outcomes.filterMap Outcome.entry?) ∧
        ∀ name text, run.2.text? name = some text ↔
          (name, text) ∈ outcomes.filterMap Outcome.entry? := by
  intro inputs order
  have distinct : (inputs.map Prod.fst).Nodup := by decide
  have complete : order.Perm (List.finRange (sources inputs).length) := by decide
  have kinds : ((sources inputs).map (alone {})).map
      (fun outcome => (outcome.isSuccess, outcome.isFailure)) =
        [(true, false), (false, false), (false, true)] := by decide +kernel
  exact ⟨distinct, complete, kinds, runInOrder_sources {} inputs distinct order complete⟩

end Shelf
end LayoutRecovery
