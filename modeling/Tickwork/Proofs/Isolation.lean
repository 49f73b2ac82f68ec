import Mathlib.Data.List.Pairwise
import Tickwork.Proofs.Served

/-!
# Tasks are kept apart

What is done on one task leaves the other tasks, their runs and their rows of the ledger as they are: a step
on a task does, and whatever belongs to one task goes on by steps on it. So the part of the tables that
belongs to another task is still the same.
-/

set_option autoImplicit false

namespace Tickwork

namespace Tables

/-- The tables without what belongs to a task. -/
def apartFrom (t : Tables) (taskId : String) : Tables where
  tasks := t.tasks.filter fun row => row.taskId != taskId
  runs := t.runs.filter fun run => run.taskId != taskId
  rows := t.rows.filter fun row => row.taskId != taskId

def runsFor (t : Tables) (taskId : String) : List RunRow := t.runs.filter fun run => run.taskId == taskId

variable {t t' : Tables} {taskId other : String}

/-- Another task is among the tables without a task. -/
theorem task?_apartFrom (apart : other ≠ taskId) : (t.apartFrom taskId).task? other = t.task? other := by
  unfold task? apartFrom
  simp only [List.find?_filter]
  congr 1
  funext row
  by_cases hit : row.taskId = other
  · simp [hit, apart]
  · simp [hit]

theorem filter_apart {α : Type} (rows : List α) (owner : α → String) (apart : other ≠ taskId) :
    (rows.filter fun row => owner row != taskId).filter (fun row => owner row == other) =
      rows.filter fun row => owner row == other := by
  rw [List.filter_filter]
  apply List.filter_congr
  intro row _
  by_cases hit : owner row = other
  · simp [hit, apart]
  · simp [hit]

theorem runsFor_apartFrom (apart : other ≠ taskId) : (t.apartFrom taskId).runsFor other = t.runsFor other :=
  filter_apart t.runs RunRow.taskId apart

theorem rowsFor_apartFrom (apart : other ≠ taskId) : (t.apartFrom taskId).rowsFor other = t.rowsFor other :=
  filter_apart t.rows Transition.taskId apart

theorem taskIds_setTask (t : Tables) (changed : TaskRow) :
    (t.setTask changed).tasks.map TaskRow.taskId = t.tasks.map TaskRow.taskId :=
  Shop.map_replaced TaskRow.taskId TaskRow.taskId fun _ _ hit => hit.symm

end Tables

namespace Shop

/-- What callables ask for leaves the tables and the factories alone, and the clock goes on. -/
structure Aloof (perform : Request → StateM Shop Unit) : Prop where
  tables : ∀ request s, (perform request s).2.tables = s.tables
  graphs : ∀ request s, (perform request s).2.graphs = s.graphs
  named : ∀ request s, s.rowCount ≤ (perform request s).2.rowCount
  numbered : ∀ request s, s.eventCount ≤ (perform request s).2.eventCount
  clock : ∀ request s, s.now ≤ (perform request s).2.now

theorem Aloof.onward {perform : Request → StateM Shop Unit} (aloof : Aloof perform) {of : Reach}
    (request : Request) (s : Shop) : Onward of s (perform request s).2 :=
  Step.onward (.aside (aloof.tables request s) (aloof.graphs request s) (aloof.named request s)
    (.inr (aloof.clock request s)))

theorem Aloof.advances {perform : Request → StateM Shop Unit} (aloof : Aloof perform) {taskId : String}
    (runner : Runner) (g : Graph Code) (task : TaskInfo) (runId : String) (feedback : Option String)
    {p : Progress} (own : p.taskId = taskId) {s : Shop} (orderly : s.Orderly) :
    Relation.ReflTransGen (Step (.only taskId)) s
      (Engine.advance (host perform runner taskId) runner.budget g task runId none feedback p s).2 := by
  have onward : (host perform runner taskId).PreservesFor taskId (Onward (.only taskId) s) :=
    host_onward aloof.onward rfl runner s
  exact Engine.advance_stays onward runner.budget g task runId none feedback own s (onward_forward.refl s)
    (.inl orderly)

variable {s s' : Shop} {taskId : String}

/-- Replacing rows under one key leaves those alone that a filter keeps, if it keeps none of the replaced
ones. -/
theorem filter_replaced {α : Type} (key : α → String) (keep : α → Bool) {rows : List α} {changed : α}
    (out : keep changed = false) (gone : ∀ old ∈ rows, key old = key changed → keep old = false) :
    (rows.map fun old => if key old = key changed then changed else old).filter keep =
      rows.filter keep := by
  induction rows with
  | nil => rfl
  | cons head rest ih =>
      have later := ih fun old inside => gone old (List.mem_cons_of_mem _ inside)
      rw [List.map_cons, List.filter_cons, List.filter_cons, later]
      by_cases hit : key head = key changed
      · rw [if_pos hit, out, gone head List.mem_cons_self hit]
        rfl
      · rw [if_neg hit]

/-- A task whose row is changed stays apart from the others. -/
theorem filter_setTask (t : Tables) {changed : TaskRow} (own : changed.taskId = taskId) :
    (t.setTask changed).tasks.filter (fun row => row.taskId != taskId) =
      t.tasks.filter fun row => row.taskId != taskId :=
  filter_replaced TaskRow.taskId (fun row => row.taskId != taskId) (by simp [own]) fun old _ hit => by
    simp [hit, own]

theorem Orderly.same_run (orderly : s.Orderly) {run run' : RunRow} (here : run ∈ s.tables.runs)
    (here' : run' ∈ s.tables.runs) (same : run.runId = run'.runId) : run = run' := by
  by_contra apart
  have symm : Std.Symm fun a b : RunRow => a.runId ≠ b.runId := ⟨fun _ _ unlike => unlike.symm⟩
  exact orderly.distinct.forall here here' apart same

theorem Orderly.run?_of_mem (orderly : s.Orderly) {run : RunRow} (inside : run ∈ s.tables.runs) :
    s.tables.run? run.runId = some run := by
  cases found : s.tables.run? run.runId with
  | none =>
      have absent := List.find?_eq_none.mp found run inside
      simp at absent
  | some other =>
      obtain ⟨there, same⟩ := Step.run?_mem found
      rw [orderly.same_run there inside same]

/-- A step on a task leaves alone what belongs to the other tasks. -/
theorem Step.apart (step : Step (.only taskId) s s') (orderly : s.Orderly) :
    s'.tables.apartFrom taskId = s.tables.apartFrom taskId := by
  cases step with
  | aside tables => rw [tables]
  | @update named condition change t own lands same =>
      obtain ⟨row, found, -, rfl⟩ := Tables.updateIf_some lands
      have mine : (change row).taskId = taskId :=
        ((same row).1.trans (Tables.taskId_of_task? found)).trans own
      simp only [Tables.apartFrom, filter_setTask s.tables mine]
      rfl
  | create own created =>
      obtain ⟨context, task, -, -, rfl, -, -, rfl⟩ := Tables.create_ok created
      have own : task.taskId = taskId := own
      simp [Tables.apartFrom, own]
  | record own added =>
      unfold Tables.addRow at added
      repeat' split at added
      all_goals cases added
      have own : _ = taskId := own
      simp [Tables.apartFrom, own]
  | @begin row own found idle =>
      have own : row.taskId = taskId := own
      have tasks := filter_setTask s.tables (show TaskRow.taskId
        { row with activeRunId := some (rowName (s.rowCount + 1)), updatedAt := s.now } = taskId from own)
      have runs : (s.tables.runs ++ [RunRow.mk (rowName (s.rowCount + 1)) row.taskId .running false]).filter
          (fun run => run.taskId != taskId) = s.tables.runs.filter fun run => run.taskId != taskId := by
        simp [own]
      unfold Tables.apartFrom
      exact congr (congr (congrArg Tables.mk tasks) runs) rfl
  | @turn run changed own found same closed =>
      have mine : changed.taskId = taskId := same.2.trans own
      obtain ⟨inside, -⟩ := Step.run?_mem found
      have gone : ∀ old ∈ s.tables.runs, old.runId = changed.runId → (old.taskId != taskId) = false := by
        intro old here hit
        obtain rfl : old = run := orderly.same_run here inside (hit.trans same.1)
        have own : old.taskId = taskId := own
        simp [own]
      have kept := filter_replaced RunRow.runId (fun run => run.taskId != taskId) (by simp [mine]) gone
      simp only [Tables.apartFrom, Tables.setRun, kept]

theorem reached_apart (reached : Relation.ReflTransGen (Step (.only taskId)) s s') (orderly : s.Orderly) :
    s'.tables.apartFrom taskId = s.tables.apartFrom taskId := by
  induction reached with
  | refl => rfl
  | tail before step ih => rw [step.apart (reached_orderly orderly before), ih]

/-- Work on one task does not set the clock back. -/
theorem reached_later (reached : Relation.ReflTransGen (Step (.only taskId)) s s') : s.now ≤ s'.now := by
  induction reached with
  | refl => exact Int.le_refl _
  | tail _ step ih =>
      refine Int.le_trans ih ?_
      cases step with
      | aside tables graphs named clock => exact clock.resolve_left fun back => back
      | _ => exact Int.le_refl _

/-- No name of a run is drawn twice. -/
theorem reached_named {of : Reach} (reached : Relation.ReflTransGen (Step of) s s') : s.rowCount ≤ s'.rowCount := by
  induction reached with
  | refl => exact Nat.le_refl _
  | tail _ step ih =>
      refine Nat.le_trans ih ?_
      cases step with
      | aside tables graphs named clock => exact named
      | begin own found idle => exact Nat.le_succ _
      | _ => exact Nat.le_refl _

/-- The factories stay. -/
theorem reached_graphs {of : Reach} (reached : Relation.ReflTransGen (Step of) s s') : s'.graphs = s.graphs := by
  induction reached with
  | refl => rfl
  | tail _ step ih =>
      rw [← ih]
      cases step with
      | aside tables graphs named clock => exact graphs
      | _ => rfl

/-- Whatever request on a task is carried out, and however it ends: the other tasks, their runs and their
rows of the ledger are left as they are, if callables leave the tables alone. -/
theorem serveWith_apart {perform : Request → StateM Shop Unit} (aloof : Aloof perform) (orderly : s.Orderly)
    {request : Request} (within : request.Within (.only taskId) s) :
    ((serveWith perform request).run s).2.tables.apartFrom taskId = s.tables.apartFrom taskId :=
  reached_apart (serveWith_onward aloof.onward within (.inl orderly)) orderly

end Shop

end Tickwork
