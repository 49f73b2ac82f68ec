import Tickwork.Proofs.Isolation
import Tickwork.Proofs.Recording

/-!
# Tasks and their runs

Whether a run is open is said by the run, which run a task is on by the task. `Tables.Assigned` says how the
two fit together, `Tables.Started` what it is to start a run. Main statement: whatever requests are made in
a shop whose tables were empty, each task has at most one open run, which is the one that the task names,
and it names no run but its own; starting a run goes on with the open one, or opens a new one if there is
none; and a run that is closed stays closed and is never gone on with.
-/

set_option autoImplicit false

namespace Tickwork

namespace Tables

variable {t : Tables} {taskId : String} {run : RunRow}

/-- The open runs of a task. -/
def openRuns (t : Tables) (taskId : String) : List RunRow :=
  (t.runsFor taskId).filter fun run => !run.ended

theorem mem_openRuns :
    run ∈ t.openRuns taskId ↔ run ∈ t.runs ∧ run.taskId = taskId ∧ run.ended = false := by
  simp [openRuns, runsFor, and_comm]

/-- The runs belong to tasks, and a task names the run that it is on: an open run is the one that its task
names, and the run that a task names is there and is its own. -/
structure Assigned (t : Tables) : Prop where
  belongs : ∀ run ∈ t.runs, ∃ row ∈ t.tasks, row.taskId = run.taskId
  active : ∀ row ∈ t.tasks, ∀ run ∈ t.openRuns row.taskId, row.activeRunId = some run.runId
  named : ∀ row ∈ t.tasks, ∀ runId, row.activeRunId = some runId →
    ∃ run, t.run? runId = some run ∧ run.taskId = row.taskId

/-- The start of a run of a task: the run is one of the task's own and is open. It is the one that was open
before, and no run is added; or none was open, and it is added and new. -/
structure Started (before after : Tables) (taskId runId : String) : Prop where
  under_way : ∃ run ∈ after.openRuns taskId, run.runId = runId
  chosen : (∃ run ∈ before.openRuns taskId, run.runId = runId) ∧
      after.runs.map RunRow.runId = before.runs.map RunRow.runId ∨
    before.openRuns taskId = [] ∧ before.run? runId = none ∧
      after.runs.map RunRow.runId = before.runs.map RunRow.runId ++ [runId]

theorem assigned_empty : empty.Assigned where
  belongs _ inside := absurd inside List.not_mem_nil
  active _ inside := absurd inside List.not_mem_nil
  named _ inside := absurd inside List.not_mem_nil

/-- A task is still there when a row is replaced. -/
theorem mem_tasks_setTask (changed : TaskRow) {row : TaskRow} (inside : row ∈ t.tasks) :
    ∃ row' ∈ (t.setTask changed).tasks, row'.taskId = row.taskId := by
  have kept : row.taskId ∈ (t.setTask changed).tasks.map TaskRow.taskId := by
    rw [taskIds_setTask]
    exact List.mem_map_of_mem inside
  exact List.mem_map.mp kept

end Tables

namespace Shop

variable {of : Reach} {s s' : Shop}

/-! ## Steps -/

/-- An open run of a task is the one that it is on. -/
theorem Orderly.activeRun?_of_open (orderly : s.Orderly) (assigned : s.tables.Assigned) {row : TaskRow}
    (here : row ∈ s.tables.tasks) {run : RunRow} (going : run ∈ s.tables.openRuns row.taskId) :
    s.tables.activeRun? row = some run := by
  have names := assigned.active row here run going
  obtain ⟨inside, -, unended⟩ := Tables.mem_openRuns.mp going
  have found := orderly.run?_of_mem inside
  simp [Tables.activeRun?, names, found, unended]

/-- A row that keeps its name and its run is assigned as before. -/
theorem assigned_setTask {t : Tables} (assigned : t.Assigned) {row changed : TaskRow}
    (here : row ∈ t.tasks) (own : changed.taskId = row.taskId) (run : changed.activeRunId = row.activeRunId) :
    (t.setTask changed).Assigned where
  belongs run inside := by
    obtain ⟨task, there, same⟩ := assigned.belongs run inside
    obtain ⟨task', there', same'⟩ := Tables.mem_tasks_setTask changed there
    exact ⟨task', there', same'.trans same⟩
  active := by
    intro task inside going open'
    rcases mem_replaced TaskRow.taskId inside with ⟨rfl, -⟩ | ⟨old, other⟩
    · rw [run]
      rw [own] at open'
      exact assigned.active row here going open'
    · exact assigned.active task old going open'
  named := by
    intro task inside runId names
    rcases mem_replaced TaskRow.taskId inside with ⟨rfl, -⟩ | ⟨old, other⟩
    · rw [run] at names
      rw [own]
      exact assigned.named row here runId names
    · exact assigned.named task old runId names

/-- What a step leaves assigned. -/
theorem Step.assigned (step : Step of s s') (orderly : s.Orderly) (assigned : s.tables.Assigned) :
    s'.tables.Assigned := by
  -- A task goes on naming a run of its own, since runs stay where they are.
  have kept : ∀ {runId taskId : String}, (∃ run, s.tables.run? runId = some run ∧ run.taskId = taskId) →
      ∃ run, s'.tables.run? runId = some run ∧ run.taskId = taskId := fun runs => step.runs runs
  cases step with
  | aside tables =>
      rw [tables]
      exact assigned
  | update own lands same =>
      obtain ⟨row, found, -, rfl⟩ := Tables.updateIf_some lands
      exact assigned_setTask assigned (Step.task?_mem found) (same row).1 (same row).2.2
  | create own created =>
      obtain ⟨context, task, -, new, named, -, idle, rfl⟩ := Tables.create_ok created
      refine ⟨fun run inside => ?_, fun row inside run going => ?_, fun row inside runId names => ?_⟩
      · obtain ⟨row, there, same⟩ := assigned.belongs run inside
        exact ⟨row, List.mem_append_left _ there, same⟩
      · rcases List.mem_append.mp inside with old | added
        · exact assigned.active row old run going
        · -- A run of the new task would belong to a task of that name.
          cases List.mem_singleton.mp added
          obtain ⟨inside, its, -⟩ := Tables.mem_openRuns.mp going
          obtain ⟨row, there, same⟩ := assigned.belongs run inside
          refine absurd (List.find?_eq_none.mp new row there) ?_
          simpa using same.trans (its.trans named)
      · rcases List.mem_append.mp inside with old | added
        · exact assigned.named row old runId names
        · cases List.mem_singleton.mp added
          rw [idle] at names
          cases names
  | record own added =>
      unfold Tables.addRow at added
      repeat' split at added
      all_goals cases added
      exact ⟨assigned.belongs, assigned.active, assigned.named⟩
  | @begin row own found idle =>
      have here := Step.task?_mem found
      refine ⟨fun run inside => ?_, fun task inside run going => ?_, fun task inside runId names => ?_⟩
      · have there : ∃ task ∈ s.tables.tasks, task.taskId = run.taskId := by
          rcases List.mem_append.mp inside with old | new
          · exact assigned.belongs run old
          · cases List.mem_singleton.mp new
            exact ⟨row, here, rfl⟩
        obtain ⟨task, inside, same⟩ := there
        obtain ⟨task', inside', same'⟩ := Tables.mem_tasks_setTask
          { row with activeRunId := some (rowName (s.rowCount + 1)), updatedAt := s.now } inside
        exact ⟨task', inside', same'.trans same⟩
      · obtain ⟨there, its, unended⟩ := Tables.mem_openRuns.mp going
        rcases mem_replaced TaskRow.taskId inside with ⟨rfl, -⟩ | ⟨old, other⟩
        · rcases List.mem_append.mp there with before | new
          · -- No run of the task was open before.
            have going : run ∈ s.tables.openRuns row.taskId := Tables.mem_openRuns.mpr ⟨before, its, unended⟩
            rw [orderly.activeRun?_of_open assigned here going] at idle
            cases idle
          · cases List.mem_singleton.mp new
            rfl
        · refine assigned.active task old run (Tables.mem_openRuns.mpr ⟨?_, its, unended⟩)
          rcases List.mem_append.mp there with before | new
          · exact before
          · cases List.mem_singleton.mp new
            exact absurd its.symm other
      · rcases mem_replaced TaskRow.taskId inside with ⟨rfl, -⟩ | ⟨old, -⟩
        · cases names
          refine ⟨⟨rowName (s.rowCount + 1), row.taskId, .running, false⟩, ?_, rfl⟩
          have unknown := orderly.unopened
          unfold Tables.run? at unknown ⊢
          simp [Tables.openRun, Tables.setTask, List.find?_append, unknown]
        · exact kept (assigned.named task old runId names)
  | @turn run changed own found same closed =>
      obtain ⟨here, -⟩ := Step.run?_mem found
      refine ⟨fun run' inside => ?_, fun row inside run' going => ?_,
        fun row inside runId names => kept (assigned.named row inside runId names)⟩
      · rcases mem_replaced RunRow.runId inside with ⟨rfl, -⟩ | ⟨old, -⟩
        · rw [same.2]
          exact assigned.belongs run here
        · exact assigned.belongs run' old
      · obtain ⟨there, its, unended⟩ := Tables.mem_openRuns.mp going
        rcases mem_replaced RunRow.runId there with ⟨rfl, -⟩ | ⟨old, -⟩
        · -- The run was open before, or it would be closed.
          have going : run ∈ s.tables.openRuns row.taskId := by
            refine Tables.mem_openRuns.mpr ⟨here, same.2.symm.trans its, ?_⟩
            by_contra ended
            rw [closed (Bool.not_eq_false _ ▸ ended)] at unended
            cases unended
          rw [same.1]
          exact assigned.active row inside run going
        · exact assigned.active row inside run' (Tables.mem_openRuns.mpr ⟨old, its, unended⟩)

theorem reached_assigned (reached : Relation.ReflTransGen (Step of) s s') (orderly : s.Orderly)
    (assigned : s.tables.Assigned) : s'.tables.Assigned := by
  induction reached with
  | refl => exact assigned
  | tail before step ih => exact step.assigned (reached_orderly orderly before) ih

/-- A run that is closed stays closed. -/
theorem reached_closed (reached : Relation.ReflTransGen (Step of) s s') {runId : String}
    (closed : ∃ run, s.tables.run? runId = some run ∧ run.ended = true) :
    ∃ run, s'.tables.run? runId = some run ∧ run.ended = true := by
  induction reached with
  | refl => exact closed
  | tail _ step ih =>
      obtain ⟨run, found, ended⟩ := ih
      obtain ⟨run', found', -, later⟩ := step.keeps_run found
      exact ⟨run', found', later ended⟩

/-! ## Starts -/

/-- A task goes on with the run that it has open, or begins one. -/
theorem startRun_started (orderly : s.Orderly) (assigned : s.tables.Assigned) {taskId : String} {row : TaskRow}
    (found : s.tables.task? taskId = some row) :
    ∃ runId after, (startRun taskId).run s = (.ok runId, after) ∧
      s.tables.Started after.tables taskId runId := by
  have here := Step.task?_mem found
  obtain rfl := Tables.taskId_of_task? found
  rw [run_startRun found]
  cases active : s.tables.activeRun? row with
  | some run =>
      obtain ⟨names, there, unended⟩ := activeRun?_some active
      obtain ⟨run', there', own⟩ := assigned.named row here run.runId names
      obtain rfl : run = run' := Option.some.inj (there.symm.trans there')
      have going := Tables.mem_openRuns.mpr ⟨(Step.run?_mem there).1, own, unended⟩
      have goesOn : (s.tables.continueRun run).run? run.runId = some { run with status := .running } := by
        simp [Tables.continueRun, Tables.run?_setRun, there]
      refine ⟨_, _, rfl, ⟨{ run with status := .running }, ?_, rfl⟩, .inl ⟨⟨run, going, rfl⟩, ?_⟩⟩
      · exact Tables.mem_openRuns.mpr ⟨(Step.run?_mem goesOn).1, own, unended⟩
      · exact map_replaced RunRow.runId RunRow.runId fun old _ hit => hit.symm
  | none =>
      refine ⟨_, _, rfl, ⟨⟨rowName (s.rowCount + 1), row.taskId, .running, false⟩, ?_, rfl⟩,
        .inr ⟨?_, orderly.unopened, List.map_append⟩⟩
      · exact Tables.mem_openRuns.mpr ⟨List.mem_append_right _ (List.mem_singleton.mpr rfl), rfl, rfl⟩
      · refine List.eq_nil_iff_forall_not_mem.mpr fun run going => ?_
        rw [orderly.activeRun?_of_open assigned here going] at active
        cases active

/-- A run that is closed is not gone on with. -/
theorem startRun_ne_closed (orderly : s.Orderly) (assigned : s.tables.Assigned) {runId : String}
    (closed : ∃ run, s.tables.run? runId = some run ∧ run.ended = true) (taskId : String) :
    ((startRun taskId).run s).1 ≠ .ok runId := by
  intro came
  cases found : s.tables.task? taskId with
  | none =>
      unfold startRun Tables.getTask at came
      rw [Work.run_bind_get, found] at came
      cases came
  | some row =>
      obtain ⟨runId', after, ran, started⟩ := startRun_started orderly assigned found
      rw [ran] at came
      cases came
      obtain ⟨run, there, ended⟩ := closed
      rcases started.chosen with ⟨⟨run', going, same⟩, -⟩ | ⟨-, new, -⟩
      · obtain ⟨inside, -, unended⟩ := Tables.mem_openRuns.mp going
        have found' := orderly.run?_of_mem inside
        rw [same, there] at found'
        cases found'
        rw [ended] at unended
        cases unended
      · rw [there] at new
        cases new

/-- No task has two open runs. -/
theorem openRuns_le_one (orderly : s.Orderly) (assigned : s.tables.Assigned) (taskId : String) :
    (s.tables.openRuns taskId).length ≤ 1 := by
  have apart : (s.tables.openRuns taskId).Pairwise fun a b => a.runId ≠ b.runId :=
    (orderly.distinct.filter _).filter _
  cases going : s.tables.openRuns taskId with
  | nil => exact Nat.zero_le 1
  | cons a rest =>
      cases rest with
      | nil => exact Nat.le_refl 1
      | cons b rest =>
          -- The task of both names one run only.
          rw [going] at apart
          have first : a ∈ s.tables.openRuns taskId := going ▸ List.mem_cons_self
          have second : b ∈ s.tables.openRuns taskId :=
            going ▸ List.mem_cons_of_mem a List.mem_cons_self
          obtain ⟨inside, own, -⟩ := Tables.mem_openRuns.mp first
          obtain ⟨row, here, same⟩ := assigned.belongs a inside
          rw [← same.trans own] at first second
          have one := (assigned.active row here a first).symm.trans (assigned.active row here b second)
          exact absurd (Option.some.inj one) ((List.pairwise_cons.mp apart).1 b List.mem_cons_self)

/-! ## Requests one after the other -/

/-- The answer to a request to start a run, and the shop after it. -/
theorem run_serve_startRun (taskId : String) (s : Shop) :
    (serve (.startRun taskId)).run s =
      (((startRun taskId).run s).1.map Response.run, ((startRun taskId).run s).2) := by
  show (startRun taskId >>= fun runId => pure (Response.run runId) : Work Response).run s = _
  rw [Work.run_bind]
  cases (startRun taskId).run s with
  | mk result after => cases result <;> rfl

theorem serveAll_steps (requests : List Request) (s : Shop) :
    Relation.ReflTransGen (Step .everything) s (serveAll requests s) := by
  induction requests generalizing s with
  | nil => exact .refl
  | cons request rest ih => exact (serve_steps request s).trans (ih _)

/-- Whatever requests are made in a shop whose tables were empty, one after the other: a task has at most one
open run, an open run is the one that its task names, and a task names no run but its own. A task that is
there starts a run, which is the one that it has open, or a new one if it has none open. A run that is
closed stays closed whatever is asked afterwards, and no task goes on with it. -/
theorem runs_fit_tasks (shop : Shop) (requests : List Request) :
    let s := serveAll requests { shop with tables := .empty }
    s.tables.Assigned ∧
    (∀ taskId, (s.tables.openRuns taskId).length ≤ 1) ∧
    (∀ taskId,
      match s.tables.task? taskId with
      | some _ => ∃ runId after, (serve (.startRun taskId)).run s = (.ok (.run runId), after) ∧
          s.tables.Started after.tables taskId runId
      | none => (serve (.startRun taskId)).run s = (.error (.taskNotFound taskId), s)) ∧
    ∀ run ∈ s.tables.runs, run.ended = true → ∀ later,
      (∃ run', (serveAll later s).tables.run? run.runId = some run' ∧ run'.ended = true) ∧
        ∀ taskId, ((serve (.startRun taskId)).run (serveAll later s)).1 ≠ .ok (.run run.runId) := by
  intro s
  have reached := serveAll_steps requests { shop with tables := .empty }
  have orderly : s.Orderly := reached_orderly (blank_orderly shop) reached
  have assigned : s.tables.Assigned := reached_assigned reached (blank_orderly shop) Tables.assigned_empty
  refine ⟨assigned, openRuns_le_one orderly assigned, fun taskId => ?_, fun run inside ended later => ?_⟩
  · cases found : s.tables.task? taskId with
    | some row =>
        obtain ⟨runId, after, ran, started⟩ := startRun_started orderly assigned found
        refine ⟨runId, after, ?_, started⟩
        rw [run_serve_startRun, ran]
        rfl
    | none =>
        have missing : (startRun taskId).run s = (.error (.taskNotFound taskId), s) := by
          unfold startRun Tables.getTask
          rw [Work.run_bind_get, found]
          rfl
        simp only
        rw [run_serve_startRun, missing]
        rfl
  · have onward := serveAll_steps later s
    have closed := reached_closed onward ⟨run, orderly.run?_of_mem inside, ended⟩
    refine ⟨closed, fun taskId came => ?_⟩
    have refused := startRun_ne_closed (reached_orderly orderly onward)
      (reached_assigned onward orderly assigned) closed taskId
    rw [run_serve_startRun] at came
    cases result : ((startRun taskId).run (serveAll later s)).1 with
    | error fault =>
        rw [result] at came
        cases came
    | ok runId =>
        rw [result] at came refused
        cases came
        exact refused rfl

/-- A run that was finished, and then once more as one that goes on, is not gone on with. -/
example :
    ((serve (.startRun "a")).run
      (serveAll [.create ⟨some "w", some "a", none, none, none, none, .dict []⟩, .startRun "a",
        .finishRun "rid-1" .done, .finishRun "rid-1" .running] (opened ⟨0⟩))).1 = .ok (.run "rid-2") :=
  rfl

end Shop

end Tickwork
