import LayoutRecovery.Batch
import Mathlib.Data.List.Basic
import Mathlib.Data.List.FinRange

/-!
# Schedules

The inputs of a batch are visited one after the other, in any order.  If a visit gives the same
outcome whatever has been visited before, the outcomes do not depend on the order; what the visits
leave behind is described by a property of the inputs visited so far.
-/

namespace LayoutRecovery

theorem run_bind_eq {σ α β : Type} {action : StateM σ α} {state after : σ} {value : α}
    (ran : action.run state = (value, after)) (next : α → StateM σ β) :
    (action >>= next).run state = (next value).run after := by
  rw [StateT.run_bind, ran]
  rfl

section Indexed

variable {α : Type} {count : Nat}

/-- Values that have come up in some order come back in the order of the inputs. -/
theorem filterMap_lookup_graph {order : List (Fin count)}
    (complete : order.Perm (List.finRange count)) (value : Fin count → α) :
    (List.finRange count).filterMap
        (fun index => (order.map fun index => (index, value index)).lookup index) =
      (List.finRange count).map value := by
  have found : ∀ index ∈ List.finRange count,
      (order.map fun index => (index, value index)).lookup index = some (value index) :=
    fun index _ => List.lookup_graph _ (complete.mem_iff.mpr (List.mem_finRange index))
  exact (List.filterMap_congr found).trans (congrFun List.filterMap_eq_map _)

/-- Visits that reach every input once give each input one value. -/
theorem exists_eq_map_of_complete {visits : List (Fin count × α)}
    (complete : (visits.map Prod.fst).Perm (List.finRange count)) :
    ∃ value : Fin count → α,
      visits = (visits.map Prod.fst).map fun index => (index, value index) := by
  have distinct : (visits.map Prod.fst).Nodup :=
    complete.nodup_iff.mpr (List.nodup_finRange count)
  have reached (index : Fin count) : ∃ value, (index, value) ∈ visits := by
    obtain ⟨⟨index, value⟩, inside, rfl⟩ :=
      List.mem_map.mp (complete.mem_iff.mpr (List.mem_finRange index))
    exact ⟨value, inside⟩
  choose value comes using reached
  refine ⟨value, ?_⟩
  have same : ∀ visit ∈ visits, visit = (visit.1, value visit.1) := fun visit inside =>
    List.inj_on_of_nodup_map distinct inside (comes visit.1) rfl
  calc
    visits = visits.map id := (List.map_id visits).symm
    _ = visits.map fun visit => (visit.1, value visit.1) := List.map_congr_left same
    _ = (visits.map Prod.fst).map fun index => (index, value index) := by
      rw [List.map_map]
      rfl

end Indexed

namespace Batch

variable {σ : Type} {batch : Batch (StateM σ)} {sources : List (Source (StateM σ))}

/-- Visits give known outcomes, and keep a property of the inputs visited so far and the state. -/
structure Settles (batch : Batch (StateM σ)) (sources : List (Source (StateM σ)))
    (outcome : Source (StateM σ) → Outcome) (After : List (Fin sources.length) → σ → Prop) :
    Prop where
  /-- The outcome of an input is the same whatever was visited before. -/
  outcome_eq : ∀ done index state, index ∉ done → After done state →
    ((batch.visit (sources.get index)).run state).1 = outcome (sources.get index)
  /-- The property is kept. -/
  after : ∀ done index state, index ∉ done → After done state →
    After (done ++ [index]) ((batch.visit (sources.get index)).run state).2

variable {outcome : Source (StateM σ) → Outcome}
variable {After : List (Fin sources.length) → σ → Prop}

theorem Settles.run_mapM (settles : batch.Settles sources outcome After)
    {done rest : List (Fin sources.length)} (distinct : (done ++ rest).Nodup) {state : σ}
    (reached : After done state) :
    ∃ final, After (done ++ rest) final ∧
      StateT.run (rest.mapM fun index => return (index, ← batch.visit (sources.get index))) state =
        (rest.map fun index => (index, outcome (sources.get index)), final) := by
  induction rest generalizing done state with
  | nil => exact ⟨state, by rwa [List.append_nil], rfl⟩
  | cons index rest ih =>
      have fresh : index ∉ done := fun again =>
        (List.nodup_append.mp distinct).2.2 index again index List.mem_cons_self rfl
      have here := settles.outcome_eq done index state fresh reached
      have next := settles.after done index state fresh reached
      rw [List.append_cons] at distinct ⊢
      obtain ⟨final, finished, others⟩ := ih distinct next
      let visits (indices : List (Fin sources.length)) : StateM σ (List (Fin _ × Outcome)) :=
        indices.mapM fun index => return (index, ← batch.visit (sources.get index))
      have unfolded : (visits (index :: rest)).run state =
          let visit := (batch.visit (sources.get index)).run state
          let later := (visits rest).run visit.2
          ((index, visit.1) :: later.1, later.2) := by
        simp only [visits, List.mapM_cons]
        rfl
      refine ⟨final, finished, unfolded.trans ?_⟩
      simp only [visits, others, here, List.map_cons]

/-- A batch that visits every input once gives each input its outcome, in the order of the
inputs. -/
theorem Settles.run_runInOrder (settles : batch.Settles sources outcome After)
    {order : List (Fin sources.length)} (complete : order.Perm (List.finRange sources.length))
    {state : σ} (start : After [] state) :
    ∃ final, After order final ∧
      (batch.runInOrder sources order).run state = (sources.map outcome, final) := by
  have distinct : ([] ++ order).Nodup := complete.nodup_iff.mpr (List.nodup_finRange _)
  obtain ⟨final, finished, visited⟩ := settles.run_mapM distinct start
  have inOrder := calc
    (List.finRange sources.length).filterMap (fun index =>
        (order.map fun index => (index, outcome (sources.get index))).lookup index)
      = (List.finRange _).map (outcome ∘ sources.get) := filterMap_lookup_graph complete _
    _ = ((List.finRange _).map sources.get).map outcome := List.map_map.symm
    _ = sources.map outcome := by rw [List.map_get_finRange]
  refine ⟨final, finished, ?_⟩
  rw [← inOrder, Batch.runInOrder, run_bind_eq visited]
  rfl

theorem outcomes_first_second (batch : Batch (StateM σ)) (left right : Source (StateM σ))
    (state : σ) :
    let first := (batch.visit left).run state
    ((batch.runInOrder [left, right] [⟨0, Nat.zero_lt_two⟩, ⟨1, Nat.one_lt_two⟩]).run state).1 =
      [first.1, ((batch.visit right).run first.2).1] :=
  rfl

theorem outcomes_second_first (batch : Batch (StateM σ)) (left right : Source (StateM σ))
    (state : σ) :
    let second := (batch.visit right).run state
    ((batch.runInOrder [left, right] [⟨1, Nat.one_lt_two⟩, ⟨0, Nat.zero_lt_two⟩]).run state).1 =
      [((batch.visit left).run second.2).1, second.1] :=
  rfl

end Batch
end LayoutRecovery
