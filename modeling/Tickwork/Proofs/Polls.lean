import Mathlib.Data.List.Infix
import Tickwork.Proofs.CalmWork

/-!
# Polls

A runner that polls ticks the tasks that may be picked up, one after the other. `Ticks` are ticks that
follow one another, with what each of them came to. A tick that gives a task up, because its lease was
lost or its ledger does not fit, lets the poll go on; any other fault of a tick breaks the poll off, and
no tick fails with the fault that ends a task. Main statement: a poll ticks the listed tasks in order,
each once, all of them unless the runner is stopped or a tick fails with a fault of that other kind.
-/

set_option autoImplicit false

namespace Tickwork

namespace Shop

variable (perform : Request → StateM Shop Unit) (runner : Runner)

/-! ## The tasks that are listed -/

/-- The tasks that may be picked up are those that are queued or running, each as often as it has a row. -/
theorem runnable_perm (t : Tables) :
    (t.runnable none).Perm ((t.tasks.filter fun row => decide (row.columns.lifecycle ∈ Lifecycle.runnable)).map
      TaskRow.taskId) := by
  have chosen : (Lifecycle.runnable.flatMap t.atStage).Perm
      (t.tasks.filter fun row => decide (row.columns.lifecycle ∈ Lifecycle.runnable)) := by
    have queued := (t.tasks.filter fun row => row.columns.lifecycle == .queued).mergeSort_perm
      fun a b => decide (a.updatedAt ≤ b.updatedAt)
    have running := (t.tasks.filter fun row => row.columns.lifecycle == .running).mergeSort_perm
      fun a b => decide (a.updatedAt ≤ b.updatedAt)
    have both := queued.append running
    have stages : Lifecycle.runnable.flatMap t.atStage =
        t.atStage .queued ++ t.atStage .running := by
      simp [Lifecycle.runnable]
    rw [stages]
    refine both.trans ?_
    induction t.tasks with
    | nil => exact .nil
    | cons row rest ih =>
        cases stage : row.columns.lifecycle <;>
          simp [stage, Lifecycle.runnable] at ih ⊢
        all_goals first
          | exact ih
          | exact List.perm_middle.trans (ih.cons row)
  exact ((List.mergeSort_perm _ _).trans chosen).map _

/-! ## Ticks in a row -/

/-- Ticks without a reply, one after the other, each with what it came to. -/
inductive Ticks : Shop → List (String × Except Fault TickReport) → Shop → Prop
  | none (s : Shop) : Ticks s [] s
  | next {s middle after : Shop} {taskId : String} {result : Except Fault TickReport}
      {log : List (String × Except Fault TickReport)}
      (ticked : (tick perform runner taskId none).run s = (result, middle))
      (later : Ticks middle log after) : Ticks s ((taskId, result) :: log) after

end Shop

/-- What a tick came to lets a poll go on: a report, or a fault that gives the task up. -/
def LetsGoOn : Except Fault TickReport → Prop
  | .ok _ => True
  | .error fault => Shop.isAbandonment fault = true

/-- The summary with one tick more, whatever it came to. -/
def Summary.take (summary : Summary) : Except Fault TickReport → Summary
  | .ok report => summary.count report
  | .error _ => summary.skip

namespace Shop

variable (perform : Request → StateM Shop Unit) (runner : Runner)

/-- How the ticks of a poll come to their end: the listed tasks were all ticked or the runner is stopped,
and the summary counts the ticks; or the last tick failed with a fault that gives no task up. -/
inductive PollEnds (name : String) (summary : Summary) (listed : List String) (after : Shop) :
    List (String × Except Fault TickReport) → Except Fault Summary → Prop
  | through {log : List (String × Except Fault TickReport)} (went : ∀ entry ∈ log, LetsGoOn entry.2)
      (all : log.map Prod.fst = listed) :
      PollEnds name summary listed after log (.ok (log.foldl (fun sum entry => sum.take entry.2) summary))
  | stopped {log : List (String × Except Fault TickReport)} (went : ∀ entry ∈ log, LetsGoOn entry.2)
      (some' : log.map Prod.fst <+: listed) (signalled : (after.stopped.lookup name).isSome = true) :
      PollEnds name summary listed after log (.ok (log.foldl (fun sum entry => sum.take entry.2) summary))
  | broken {log : List (String × Except Fault TickReport)} {taskId : String} {fault : Fault}
      (went : ∀ entry ∈ log, LetsGoOn entry.2) (some' : log.map Prod.fst ++ [taskId] <+: listed)
      (other : isAbandonment fault = false) (calm : fault.isFatal = false) :
      PollEnds name summary listed after (log ++ [(taskId, .error fault)]) (.error fault)

/-- One tick before the others of a poll. -/
theorem PollEnds.cons {name : String} {summary : Summary} {listed : List String} {after : Shop}
    {log : List (String × Except Fault TickReport)} {result : Except Fault Summary} {taskId : String}
    (came : Except Fault TickReport) (goesOn : LetsGoOn came)
    (ends : PollEnds name (summary.take came) listed after log result) :
    PollEnds name summary (taskId :: listed) after ((taskId, came) :: log) result := by
  have went {front : List (String × Except Fault TickReport)} (rest : ∀ entry ∈ front, LetsGoOn entry.2) :
      ∀ entry ∈ (taskId, came) :: front, LetsGoOn entry.2 := by
    intro entry inside
    rcases List.mem_cons.mp inside with rfl | later
    · exact goesOn
    · exact rest entry later
  cases ends with
  | through rest all => exact .through (went rest) (congrArg _ all)
  | stopped rest some' signalled =>
      exact .stopped (went rest) ((List.prefix_cons_inj taskId).mpr some') signalled
  | broken rest some' other calm =>
      exact .broken (went rest) ((List.prefix_cons_inj taskId).mpr some') other calm

theorem tickAll_ends (name : String) (listed : List String) (summary : Summary) (s : Shop) :
    ∃ result after log, (tickAll perform name runner summary listed).run s = (result, after) ∧
      Ticks perform runner s log after ∧ PollEnds name summary listed after log result := by
  induction listed generalizing summary s with
  | nil => exact ⟨_, s, [], rfl, .none s, .through nofun rfl⟩
  | cons taskId rest ih =>
      have looked : (isStopped name).run s = (.ok (s.stopped.lookup name).isSome, s) := rfl
      unfold tickAll
      rw [Work.run_bind_of_ok looked]
      cases signalled : (s.stopped.lookup name).isSome with
      | true => exact ⟨_, s, [], rfl, .none s, .stopped nofun (List.nil_prefix) signalled⟩
      | false =>
          rw [if_neg (by simp)]
          rw [Work.run_bind_get]
          cases ticked : (tick perform runner taskId none).run s with
          | mk came middle =>
              have put : (set middle : Work Unit).run s = (.ok (), middle) := rfl
              cases came with
              | ok report =>
                  obtain ⟨result, after, log, ran, ticks, ends⟩ := ih (summary.count report) middle
                  refine ⟨result, after, (taskId, .ok report) :: log, ?_, .next ticked ticks,
                    .cons (.ok report) trivial ends⟩
                  simp only
                  rw [Work.run_bind_of_ok put, ran]
              | error fault =>
                  simp only
                  rw [Work.run_bind_of_ok put]
                  cases gives : isAbandonment fault with
                  | true =>
                      obtain ⟨result, after, log, ran, ticks, ends⟩ := ih summary.skip middle
                      refine ⟨result, after, (taskId, .error fault) :: log, ?_, .next ticked ticks,
                        .cons (.error fault) gives ends⟩
                      rw [if_pos rfl, ran]
                  | false =>
                      have calm := tick_calm perform runner taskId none s fault (by rw [ticked])
                      refine ⟨.error fault, middle, [(taskId, .error fault)], ?_, .next ticked (.none _), ?_⟩
                      · rw [if_neg (by simp)]
                        rfl
                      · have before : ([] : List (String × Except Fault TickReport)).map Prod.fst ++ [taskId] <+:
                            taskId :: rest := ⟨rest, rfl⟩
                        have front : ∀ entry ∈ ([] : List (String × Except Fault TickReport)),
                            LetsGoOn entry.2 := nofun
                        exact .broken front before gives calm

/-- A task of an unknown factory that stands first in the list breaks every poll off at its start: the
poll fails, no task is ticked, and the shop is as it was before. -/
theorem runOnce_of_unknown {name : String} {s : Shop} {taskId : String} {rest : List String}
    {task : TaskView} (listed : s.tables.runnable none = taskId :: rest)
    (running : s.stopped.lookup name = none) (looked : (getTask taskId).run s = (.ok task, s))
    (unended : task.row.columns.lifecycle.isTerminal = false)
    (unpaused : task.row.columns.lifecycle ≠ .feedback)
    (unknown : s.graphs.lookup task.row.workflowId = none) :
    (runOnce perform name runner).run s = (.error (.catalog (.unknown task.row.workflowId)), s) := by
  have stop : (isStopped name).run s = (.ok false, s) := by
    show (Except.ok (s.stopped.lookup name).isSome, s) = _
    rw [running]
    rfl
  have missing : (graph task.row.workflowId).run s =
      (.error (.catalog (.unknown task.row.workflowId)), s) := by
    unfold graph
    rw [Work.run_bind_get, unknown]
    rfl
  have failed : (tick perform runner taskId none).run s =
      (.error (.catalog (.unknown task.row.workflowId)), s) := by
    unfold tick
    rw [Work.run_bind_of_ok looked]
    simp only
    rw [if_neg (by simp [unended]), if_neg (by simp [unpaused]), Work.run_bind_of_error missing]
  unfold runOnce
  rw [Work.run_bind_get, listed]
  simp only
  unfold tickAll
  rw [Work.run_bind_of_ok stop, if_neg (by simp), Work.run_bind_get, failed]
  rfl

/-- Whatever is in the shop and whatever callables do: the tasks that are listed for a poll are those that
are queued or running when it starts, and the poll ticks them in order, each once. It ticks all of them,
also when ticks report that they failed or give their task up, unless the runner is stopped or a tick fails
with another fault; no such fault comes from a task that ended for good. Then the poll has ticked the tasks
up to that one and fails as that tick did, and the tasks after it wait. -/
theorem poll_ticks_in_order (name : String) (s : Shop) :
    (s.tables.runnable none).Perm
        ((s.tables.tasks.filter fun row => decide (row.columns.lifecycle ∈ Lifecycle.runnable)).map
          TaskRow.taskId) ∧
      ∃ result after log, (runOnce perform name runner).run s = (result, after) ∧
        Ticks perform runner s log after ∧
        PollEnds name { Summary.zero with idlePolls := if s.tables.runnable none = [] then 1 else 0 }
          (s.tables.runnable none) after log result := by
  refine ⟨runnable_perm s.tables, ?_⟩
  unfold runOnce
  rw [Work.run_bind_get]
  cases listed : s.tables.runnable none with
  | nil => exact ⟨_, s, [], rfl, .none s, .through nofun rfl⟩
  | cons taskId rest => exact tickAll_ends perform runner name (taskId :: rest) .zero s

end Shop

end Tickwork
