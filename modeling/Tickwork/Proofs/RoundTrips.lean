import Tickwork.Instant.Read
import Tickwork.Proofs.Json
import Tickwork.Proofs.Kept
import Tickwork.Proofs.Recording

/-!
# States that come back

The state of a task is written into columns and read out of them again in two ways, as a state to go on from
and as a view of the task. Main statement: when a write of progress has landed, both give back what was
written, field by field, and the row of the task is otherwise as it was. A write does not say of which factory
the task is, so that a state of another factory comes back as one of the task's.
-/

set_option autoImplicit false

namespace Tickwork

/-! ## What comes back -/

/-- What a clock shows, and the offset of that clock from UTC if it has one. -/
abbrev Clocked := Instant × Option Int

/-- A state is one that was handed over, whose task has waited since a clock showed some time. Its mappings may
have their entries in another order. -/
structure Progress.Restores (q p : Progress) (since : Option Clocked) : Prop where
  taskId : q.taskId = p.taskId
  workflowId : q.workflowId = p.workflowId
  currentStateId : q.currentStateId = p.currentStateId
  context : Value.Alike (.dict q.context) (.dict p.context)
  lifecycle : q.lifecycle = p.lifecycle
  attempts : q.attempts.Perm p.attempts
  loopIterations : q.loopIterations.Perm p.loopIterations
  lastError : q.lastError = p.lastError
  terminalStateId : q.terminalStateId = p.terminalStateId
  waitingSince : since.mapM Instant.ofClock = .ok q.waitingSince
  transitionCount : q.transitionCount = p.transitionCount

/-- A view of a task shows a state. -/
structure TaskView.Shows (view : TaskView) (p : Progress) (since : Option Clocked) : Prop where
  lifecycle : view.row.columns.lifecycle = p.lifecycle
  currentStateId : view.row.columns.currentStateId = p.currentStateId
  terminalStateId : view.row.columns.terminalStateId = p.terminalStateId
  context : Value.Alike (.dict view.context) (.dict p.context)
  lastError : view.row.columns.lastError = p.lastError
  waitingSince : since.mapM Instant.ofClock = .ok view.row.columns.waitingSince
  transitionCount : view.row.columns.transitionCount = p.transitionCount

/-- A state as its mappings are given: the context is JSON, and no counter stands twice. -/
structure Progress.Formed (p : Progress) : Prop where
  context : Value.IsJson (.dict p.context)
  attempts : (names p.attempts).Nodup
  loopIterations : (names p.loopIterations).Nodup

/-! ## Columns -/

section Columns

variable {p : Progress} {kept : Columns} {row : TaskRow} {since : Option Clocked}

/-- What is stored of a state: its context up to the order of entries, and its counters in the order of their
names. -/
theorem Progress.stored_formed (formed : p.Formed) (stored : p.columns.stored = .ok kept) :
    ∃ context, Value.Alike (.dict context) (.dict p.context) ∧
      kept =
        { p.columns with
          context := .dict context
          attempts := Counters.toValue (Sorted.ofPairs p.attempts)
          loopIterations := Counters.toValue (Sorted.ofPairs p.loopIterations) } := by
  obtain ⟨context, attempts, rounds, written, counted, counted', rfl⟩ := Columns.stored_eq stored
  have alike := Columns.document_alike_of_isJson formed.context written
  have ordered : ∀ {counters : Counters} {v : Value}, Columns.document counters.toValue = .ok v →
      v = Counters.toValue (Sorted.ofPairs counters) := by
    intro counters v made
    rcases Counters.document_toValue counters with ok | long
    · exact Except.ok.inj (made.symm.trans ok)
    · cases made.symm.trans long
  obtain ⟨fields, rfl⟩ : ∃ fields, context = .dict fields := by
    cases alike with
    | dict => exact ⟨_, rfl⟩
  exact ⟨fields, alike, by rw [ordered counted, ordered counted']⟩

variable (formed : p.Formed) (stored : p.columns.stored = .ok kept) (columns : row.columns = kept)
  (given : since.mapM Instant.ofClock = .ok p.waitingSince)

include formed stored columns given

/-- A row whose columns a state was stored in is read as that state, if it is one of the state's factory. -/
theorem TaskRow.progress_restores (own : row.taskId = p.taskId) (factory : row.workflowId = p.workflowId) :
    ∃ q, row.progress = .ok q ∧ q.Restores p since := by
  obtain ⟨context, alike, rfl⟩ := Progress.stored_formed formed stored
  have read : row.progress = .ok
      { p with
        taskId := row.taskId
        workflowId := row.workflowId
        context
        attempts := Sorted.ofPairs p.attempts
        loopIterations := Sorted.ofPairs p.loopIterations } := by
    simp only [TaskRow.progress, columns, mappingColumn, Counters.counterColumn_toValue, bind, Except.bind]
    rfl
  exact ⟨_, read,
    { taskId := own
      workflowId := factory
      currentStateId := rfl
      context := alike
      lifecycle := rfl
      attempts := Sorted.ofPairs_perm formed.attempts
      loopIterations := Sorted.ofPairs_perm formed.loopIterations
      lastError := rfl
      terminalStateId := rfl
      waitingSince := given
      transitionCount := rfl }⟩

/-- A row whose columns a state was stored in shows that state. -/
theorem TaskRow.view_shows : ∃ context, row.view = .ok ⟨row, context⟩ ∧ TaskView.Shows ⟨row, context⟩ p since := by
  obtain ⟨context, alike, rfl⟩ := Progress.stored_formed formed stored
  have viewed : row.view = .ok ⟨row, context⟩ := by
    rw [TaskRow.view, columns]
    rfl
  refine ⟨context, viewed, ?_⟩
  constructor <;> simp only [columns, Progress.columns]
  · exact alike
  · exact given

end Columns

/-! ## Requests -/

namespace Shop

theorem run_serve_load {s : Shop} {taskId : String} {row : TaskRow} {q : Progress}
    (found : s.tables.task? taskId = some row) (read : row.progress = .ok q) :
    (serve (.load taskId)).run s = (.ok (.progress q), s) := by
  show (load taskId >>= fun p => pure (Response.progress p) : Work Response).run s = _
  rw [Work.run_bind, run_load_found found, read]
  rfl

theorem run_serve_get {s : Shop} {taskId : String} {row : TaskRow} {view : TaskView}
    (found : s.tables.task? taskId = some row) (viewed : row.view = .ok view) :
    (serve (.get taskId)).run s = (.ok (.task (some view)), s) := by
  show (find? taskId >>= fun view => pure (Response.task view) : Work Response).run s = _
  unfold find?
  rw [Work.run_bind, Work.run_bind_get]
  simp only [found, viewed]
  rfl

/-- What a write of progress leaves when it has landed: the columns of its task are the new ones, and the tasks
are otherwise as they were. -/
theorem kept_of_landed {s after : Shop} {request : Request} {taskId : String} {columns : Columns}
    (sets : request.Sets taskId columns) (ran : (serve request).run s = (.ok (.landed true), after)) :
    ∃ old kept, columns.stored = .ok kept ∧ s.tables.task? taskId = some old ∧
      after.tables.task? taskId = some { old with columns := kept, updatedAt := s.now } ∧
      ∀ id, id ≠ taskId → after.tables.task? id = s.tables.task? id := by
  cases sets with
  | checkpoint owner =>
      rw [run_serve_checkpoint] at ran
      obtain ⟨kept, old, stored, found, -, left⟩ := Tables.checkpoint_iff.mp (landed_of_settled ran)
      have own := Tables.taskId_of_task? found
      rw [left]
      exact ⟨old, kept, stored, found, Tables.task?_setTask found own,
        fun id other => Tables.task?_setTask_other fun same => other (same.symm.trans own)⟩
  | record row missing owner =>
      rw [run_serve_record] at ran
      obtain ⟨⟨old, kept, found, stored, now⟩, -, -, others, -, -⟩ :=
        Tables.recorded_of_record (landed_of_settled ran)
      exact ⟨old, kept, stored, found, now, others⟩

/-- A state is handed over to be kept, with a row for the ledger or without one. Its context is JSON, each of its
counters has a name of its own, and since when its task waits is told by a clock with an offset from UTC, or by
one without, which shows UTC. If the write lands, and the state is of the factory of its task, then the state that
is loaded afterwards is the one that was handed over, field by field, but for the order of entries in its mappings;
the view of the task shows it; and nothing else has changed in the row of the task but the time of its change. -/
theorem state_comes_back {s after : Shop} {p : Progress} {since : Option Clocked} {request : Request}
    (formed : p.Formed) (given : since.mapM Instant.ofClock = .ok p.waitingSince)
    (sets : request.Sets p.taskId p.columns) (ran : (serve request).run s = (.ok (.landed true), after))
    (factory : ∀ row, s.tables.task? p.taskId = some row → row.workflowId = p.workflowId) :
    ∃ old q view, s.tables.task? p.taskId = some old ∧
      (serve (.load p.taskId)).run after = (.ok (.progress q), after) ∧ q.Restores p since ∧
      (serve (.get p.taskId)).run after = (.ok (.task (some view)), after) ∧ view.Shows p since ∧
      view.row = { old with columns := view.row.columns, updatedAt := s.now } ∧
      ∀ id, id ≠ p.taskId → after.tables.task? id = s.tables.task? id := by
  obtain ⟨old, kept, stored, found, now, others⟩ := kept_of_landed sets ran
  have own := Tables.taskId_of_task? found
  have columns : TaskRow.columns { old with columns := kept, updatedAt := s.now } = kept := rfl
  obtain ⟨q, read, restores⟩ := TaskRow.progress_restores formed stored columns given own (factory old found)
  obtain ⟨context, viewed, shows⟩ := TaskRow.view_shows formed stored columns given
  exact ⟨old, q, _, found, run_serve_load now read, restores, run_serve_get now viewed, shows, rfl, others⟩

/-- A shop with one task, of a factory `demo`. -/
def withTask : Shop :=
  ((serve (.create ⟨some "demo", some "task", some "T-1", some "A task", none, none, .dict []⟩)).run (opened ⟨0⟩)).2

/-- An answer tells that a write has landed. -/
def hasLanded : Except Fault Response → Bool
  | .ok (.landed landed) => landed
  | _ => false

theorem eq_of_hasLanded {answer : Except Fault Response} (landed : hasLanded answer = true) :
    answer = .ok (.landed true) := by
  unfold hasLanded at landed
  split at landed
  · rw [landed]
  · cases landed

/-- A state of that task, which waits since a quarter past midnight. -/
def waiting : Progress :=
  { Progress.fresh "task" "demo" with
    currentStateId := some "ask"
    context := [(.text "size", .int 2), (.text "parts", .list [.str "a", .null])]
    lifecycle := .feedback
    attempts := [("work", 2), ("ask", 1)]
    waitingSince := some ⟨900000000⟩
    transitionCount := 3 }

theorem waiting_formed : waiting.Formed where
  context :=
    have parts : Value.IsJson (.list [.str "a", .null]) := .list (by simp [Value.IsJson.str, Value.IsJson.null])
    .of_mem ⟨by simp [waiting, Fields.Texts], .cons (by simp [Key.text_same]) (.cons nofun .nil)⟩
      (by simp [waiting, parts, Value.IsJson.int])
  attempts := by decide +kernel
  loopIterations := .nil

/-- The clock that tells since when the task waits may be one that is an hour ahead of UTC. -/
theorem state_comes_back_waiting :
    ∃ after q, (serve (.checkpoint "task" waiting.columns none)).run withTask = (.ok (.landed true), after) ∧
      (serve (.load "task")).run after = (.ok (.progress q), after) ∧
      q.Restores waiting (some (⟨4500000000⟩, some 3600000000)) := by
  have landed : hasLanded ((serve (.checkpoint "task" waiting.columns none)).run withTask).1 = true := by
    decide +kernel
  have only : (withTask.tables.task? "task").all (fun row => row.workflowId == "demo") = true := by decide +kernel
  have factory : ∀ row, withTask.tables.task? waiting.taskId = some row → row.workflowId = waiting.workflowId := by
    intro row found
    rw [show withTask.tables.task? "task" = some row from found] at only
    exact eq_of_beq only
  have given : (some (⟨4500000000⟩, some 3600000000) : Option Clocked).mapM Instant.ofClock =
      .ok waiting.waitingSince := by decide +kernel
  generalize came : (serve (.checkpoint "task" waiting.columns none)).run withTask = ran at landed
  obtain ⟨answer, after⟩ := ran
  obtain rfl := eq_of_hasLanded landed
  obtain ⟨-, q, -, -, loaded, restores, -⟩ :=
    state_comes_back waiting_formed given (.checkpoint none) came factory
  exact ⟨after, q, rfl, loaded, restores⟩

/-- A state of another factory than its task's comes back as one of the task's. -/
theorem factory_is_not_written :
    let p := Progress.fresh "task" "other"
    let after := ((serve (.checkpoint "task" p.columns none)).run withTask).2
    p.Formed ∧ (serve (.checkpoint "task" p.columns none)).run withTask = (.ok (.landed true), after) ∧
      ∃ q, (serve (.load "task")).run after = (.ok (.progress q), after) ∧ q.workflowId = "demo" ∧
        ¬ q.Restores p none := by
  intro p after
  have formed : p.Formed :=
    { context := .dict Fields.plain_nil nofun
      attempts := .nil
      loopIterations := .nil }
  refine ⟨formed, rfl, { p with workflowId := "demo" }, rfl, rfl, fun restores => ?_⟩
  exact absurd restores.workflowId (by decide)

end Shop

end Tickwork
