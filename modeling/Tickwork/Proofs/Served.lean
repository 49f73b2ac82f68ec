import Tickwork.Proofs.Owned
import Tickwork.Proofs.Steps

/-!
# Requests as steps

A tick goes on by steps on its task, whatever the requests of callables do besides, if these go on by such
steps too. Main statement: every request goes on by steps, and what was orderly stays orderly.
-/

set_option autoImplicit false

namespace Tickwork

namespace Tables

theorem run?_setRun (t : Tables) (changed : RunRow) (runId : String) :
    (t.setRun changed).run? runId =
      (t.run? runId).map fun old => if old.runId = changed.runId then changed else old := by
  unfold run? setRun
  simp only
  generalize t.runs = runs
  induction runs with
  | nil => rfl
  | cons head rest ih =>
      rw [List.map_cons, List.find?_cons, List.find?_cons, ih]
      by_cases hit : head.runId = changed.runId
      · rw [if_pos hit, ← hit]
        cases head.runId == runId <;> simp [hit]
      · rw [if_neg hit]
        cases head.runId == runId <;> simp [hit]

end Tables

namespace Shop

variable {of : Reach} {perform : Request → StateM Shop Unit}

/-- The run with a name is one of a task. -/
def Runs (s : Shop) (runId taskId : String) : Prop :=
  ∃ run, s.tables.run? runId = some run ∧ run.taskId = taskId

/-- A run stays, as a run of the same task, and if it is closed it stays closed. -/
theorem Step.keeps_run {s s' : Shop} (step : Step of s s') {runId : String} {run : RunRow}
    (found : s.tables.run? runId = some run) :
    ∃ run', s'.tables.run? runId = some run' ∧ run'.taskId = run.taskId ∧
      (run.ended = true → run'.ended = true) := by
  cases step with
  | aside tables =>
      refine ⟨run, ?_, rfl, id⟩
      rw [tables]
      exact found
  | update _ lands same =>
      obtain ⟨row, -, -, rfl⟩ := Tables.updateIf_some lands
      exact ⟨run, found, rfl, id⟩
  | create _ created =>
      obtain ⟨context, task, -, -, -, -, -, rfl⟩ := Tables.create_ok created
      exact ⟨run, found, rfl, id⟩
  | record _ added =>
      unfold Tables.addRow at added
      repeat' split at added
      all_goals cases added
      exact ⟨run, found, rfl, id⟩
  | begin _ _ _ =>
      refine ⟨run, ?_, rfl, id⟩
      unfold Tables.run? at found ⊢
      simp only [Tables.openRun, Tables.setTask, List.find?_append, found, Option.some_or]
  | @turn old changed _ there same closed =>
      refine ⟨_, by rw [Tables.run?_setRun, found]; rfl, ?_⟩
      obtain ⟨-, named⟩ := Step.run?_mem found
      simp only
      by_cases hit : run.runId = changed.runId
      · rw [if_pos hit]
        rw [named, same.1] at hit
        rw [hit, there] at found
        cases found
        exact ⟨same.2, closed⟩
      · rw [if_neg hit]
        exact ⟨rfl, id⟩

/-- A task keeps its runs. -/
theorem Step.runs {s s' : Shop} (step : Step of s s') {runId taskId : String} (runs : s.Runs runId taskId) :
    s'.Runs runId taskId := by
  obtain ⟨run, found, own⟩ := runs
  obtain ⟨run', found', same, -⟩ := step.keeps_run found
  exact ⟨run', found', same.trans own⟩

theorem reached_runs {s s' : Shop} (reached : Relation.ReflTransGen (Step of) s s') {runId taskId : String}
    (runs : s.Runs runId taskId) : s'.Runs runId taskId := by
  induction reached with
  | refl => exact runs
  | tail _ step ih => exact step.runs ih

/-! ## Ticks -/

/-- The run that a task goes on with is one of its own. -/
theorem startRun_runs {taskId runId : String} {s after : Shop} (orderly : s.Orderly)
    (started : (startRun taskId).run s = (.ok runId, after)) : after.Runs runId taskId := by
  cases found : s.tables.task? taskId with
  | none =>
      unfold startRun Tables.getTask at started
      rw [Work.run_bind_get, found] at started
      cases started
  | some row =>
      have mine := Tables.taskId_of_task? found
      rw [run_startRun found] at started
      cases active : s.tables.activeRun? row with
      | some run =>
          rw [active] at started
          cases started
          obtain ⟨names, there, -⟩ := activeRun?_some active
          refine ⟨{ run with status := .running }, ?_, ?_⟩
          · simp [Tables.continueRun, Tables.run?_setRun, there]
          · exact (orderly.owned row (Step.task?_mem found) run (Step.run?_mem there).1 names).trans mine
      | none =>
          rw [active] at started
          cases started
          refine ⟨⟨rowName (s.rowCount + 1), row.taskId, .running, false⟩, ?_, mine⟩
          have unknown := orderly.unopened
          unfold Tables.run? at unknown ⊢
          simp [Tables.openRun, Tables.setTask, List.find?_append, unknown]

/-- What is left of a tick once its task is loaded and its run is under way. -/
def advancing (perform : Request → StateM Shop Unit) (runner : Runner) (task : TaskView) (g : Graph Code)
    (feedback : Option String) (p : Progress) (runId : String) : Work TickReport := do
  let (result, q) ← Engine.advance (host perform runner task.row.taskId) runner.budget g task.row.info
    runId none feedback p
  match result with
  | .error (.fatal cause _) => do
    finishRun runId .failed
    announce (.lifecycle task.row.taskId p.lifecycle .failed (some cause.message))
    pure ⟨task.row.taskId, some .failed, 0, some cause.message, false⟩
  | .error fault => throw fault
  | .ok finish => do
    finishRun runId (runStatusOf finish.ending)
    tellOf task.row p.lifecycle finish q
    if runner.verifyReplay ∨ runner.leaseMode = .bestEffort then
      let _ ← verify task.row.taskId
    pure ⟨task.row.taskId, some finish.ending, finish.transitions, finish.message, false⟩

theorem advanceTask_started (perform : Request → StateM Shop Unit) (runner : Runner) {task : TaskView}
    (g : Graph Code) (feedback : Option String) {s s' s'' : Shop} {p : Progress} {runId : String}
    (loaded : (load task.row.taskId).run s = (.ok p, s'))
    (started : (startRun task.row.taskId).run s' = (.ok runId, s'')) :
    (advanceTask perform runner task g feedback).run s =
      (advancing perform runner task g feedback p runId).run s'' := by
  unfold advanceTask advancing
  rw [Work.run_bind_of_ok loaded]
  exact Work.run_bind_of_ok started _

section Ticks

variable (aside : ∀ request (s : Shop), Onward of s (perform request s).2)

include aside

/-- In the hands of a runner a shop goes on by steps on the task of the tick. -/
theorem host_onward {taskId : String} (own : of.tasks taskId) (runner : Runner) (start : Shop) :
    (host perform runner taskId).PreservesFor taskId (Onward of start) :=
  have along : ∀ {α : Type} {act : StateM Shop α}, (∀ s : Shop, Onward of s (act s).2) →
      Preserves (Onward of start) act := fun moved s here => onward_forward.trans here (moved s)
  { behaviour := Routine.behaviour_preserves (fun _ => along fun _ => onward_aside rfl rfl (Nat.le_refl _) rfl)
      fun request => along (aside request)
    now := along onward_forward.refl
    freshEventId := along fun _ => onward_aside rfl rfl (Nat.le_refl _) rfl
    freshTickId := along fun _ => onward_aside rfl rfl (Nat.le_refl _) rfl
    sleep := fun _ => along fun _ => onward_aside rfl rfl (Nat.le_refl _) rfl
    checkpoint := fun p named => along <| Goes.leasedWrite own _ _ <| by
      rw [named]
      exact .checkpoint own p.columns _
    record := fun row p named named' => along <| Goes.leasedWrite own _ _ <| by
      rw [named']
      exact .record own (named.symm ▸ own) none p.columns _ }

theorem advancing_onward (runner : Runner) {task : TaskView} (own : of.tasks task.row.taskId) (g : Graph Code)
    (feedback : Option String) {p : Progress} (its : p.taskId = task.row.taskId) {runId : String} {s : Shop}
    (runs : s.Runs runId task.row.taskId ∨ ∀ taskId, of.tasks taskId) :
    Onward of s ((advancing perform runner task g feedback p runId).run s).2 := by
  intro ready
  have advanced := Engine.advance_stays (host_onward aside own runner s) runner.budget g task.row.info runId
    none feedback its s (onward_forward.refl s) ready
  unfold advancing
  rw [Work.run_bind_of_lift]
  generalize Engine.advance (host perform runner task.row.taskId) runner.budget g task.row.info runId none
    feedback p s = came at advanced ⊢
  obtain ⟨⟨result, q⟩, left⟩ := came
  simp only at advanced ⊢
  -- The run that the tick began with still is one of its task.
  have mine : ∀ run, left.tables.run? runId = some run → of.tasks run.taskId := by
    intro run found
    rcases runs with runs | everyone
    · obtain ⟨run', found', its⟩ := reached_runs advanced runs
      rw [Option.some.inj (found.symm.trans found'), its]
      exact own
    · exact everyone _
  cases result with
  | ok finish =>
      exact advanced.trans (Goes.finishRun mine _ (.bind (.tellOf _ _ finish q) fun _ =>
        .ite (.bind (.verify _) fun _ => .pure _) (.pure _)) (ready.reached advanced))
  | error fault =>
      cases fault with
      | fatal cause taskId =>
          exact advanced.trans (Goes.finishRun mine _ (.bind (.announce _) fun _ => .pure _)
            (ready.reached advanced))
      | _ => exact advanced

theorem advanceTask_goes (runner : Runner) {task : TaskView} (own : of.tasks task.row.taskId) (g : Graph Code)
    (feedback : Option String) : Goes of (advanceTask perform runner task g feedback) := by
  intro s ready
  obtain ⟨result, loaded, loads⟩ := run_load task.row.taskId s
  cases result with
  | error fault =>
      unfold advanceTask
      rw [Work.run_bind_of_error loaded]
  | ok p =>
      have begun := Goes.startRun own s ready
      cases started : (startRun task.row.taskId).run s with
      | mk result s' =>
          rw [started] at begun
          cases result with
          | error fault =>
              unfold advanceTask
              rw [Work.run_bind_of_ok loaded, Work.run_bind_of_error started]
              exact begun
          | ok runId =>
              rw [advanceTask_started perform runner g feedback loaded started]
              have runs := ready.imp_left fun orderly => startRun_runs orderly started
              exact begun.trans (advancing_onward aside runner own g feedback (loads p rfl).1 runs
                (ready.reached begun))

theorem tick_onward (runner : Runner) {taskId : String} (own : of.tasks taskId) (feedback : Option String) :
    Goes of (tick perform runner taskId feedback) := by
  intro s
  rcases tick_goes perform runner taskId feedback s with
    ⟨result, ran, -⟩ | ⟨task, g, landed, -, same, -, -, taken, -, ran⟩
  · rw [ran]
    exact onward_forward.refl s
  · have took : Onward of s { s with tables := landed.getD s.tables } := by
      cases landed with
      | none => exact onward_forward.refl s
      | some t =>
          exact Writes.claim own runner.workerId runner.leaseSpan
            (fun now => Tables.isFree now runner.workerId) s t taken
    rw [ran]
    exact onward_forward.trans took
      (Goes.releasing own (advanceTask_goes aside runner (same.symm ▸ own) g feedback) _ _ _)

variable (everyone : ∀ taskId, of.tasks taskId)

include everyone

theorem tickAll_onward (name : String) (runner : Runner) (summary : Summary) (taskIds : List String) :
    Goes of (tickAll perform name runner summary taskIds) := by
  induction taskIds generalizing summary with
  | nil => exact .pure _
  | cons taskId rest ih =>
      intro s
      have ticked := tick_onward aside runner (everyone taskId) none s
      have looked : (isStopped name).run s = (.ok (s.stopped.lookup name).isSome, s) := rfl
      unfold tickAll
      rw [Work.run_bind_of_ok looked]
      by_cases stopped : (s.stopped.lookup name).isSome = true
      · rw [if_pos stopped]
        exact onward_forward.refl s
      · rw [if_neg stopped, Work.run_bind_get]
        generalize (tick perform runner taskId none).run s = came at ticked ⊢
        obtain ⟨result, after⟩ := came
        cases result with
        | ok report => exact onward_forward.trans ticked (ih _ after)
        | error fault =>
            have goesOn : Goes of (if isAbandonment fault then tickAll perform name runner summary.skip rest
                else throw fault) := .ite (ih _) (.throw _)
            exact onward_forward.trans ticked (goesOn after)

theorem runOnce_onward (name : String) (runner : Runner) : Goes of (runOnce perform name runner) := by
  refine .bind .get fun s => ?_
  cases s.tables.runnable none with
  | nil => exact .pure _
  | cons taskId rest => exact tickAll_onward aside everyone name runner .zero (taskId :: rest)

theorem runLoop_onward (name : String) (runner : Runner) (maxTicks : Option Int) (maxIdlePolls : Int) :
    Goes of (runLoop perform name runner maxTicks maxIdlePolls) :=
  runLoop_moves onward_forward (fun _ _ => onward_aside rfl rfl (Nat.le_refl _) rfl)
    (runOnce_onward aside everyone name runner) maxTicks maxIdlePolls

end Ticks

/-! ## Requests -/

end Shop

/-- All that a request may write belongs to tasks of some kind. A request to run tasks may write to any
task, and the end of a run belongs to the task of the run. -/
def Request.Within (of : Shop.Reach) (s : Shop) : Request → Prop
  | .create _ | .runOnce _ | .runLoop .. => ∀ taskId, of.tasks taskId
  | .checkpoint taskId _ _ | .reply taskId _ | .acquire taskId _ _ | .renew taskId _ _
  | .release taskId _ | .startRun taskId | .tick _ taskId _ => of.tasks taskId
  | .record row _ taskId _ _ => of.tasks taskId ∧ of.tasks row.taskId
  | .clock micros => of.back ∨ 0 ≤ micros
  | .finishRun runId _ => ∀ run, s.tables.run? runId = some run → of.tasks run.taskId
  | _ => True

namespace Shop

variable {of : Reach}

theorem runner_onward (name : Option String) : Goes of (runner name) := (Looks.runner name).moves onward_forward

theorem stop_onward (signal : String) (s : Shop) : Onward of s (stop signal s) := by
  unfold stop
  split <;> exact onward_aside rfl rfl (Nat.le_refl _) rfl

/-- A request goes on by steps on the tasks that it belongs to. -/
theorem serveWith_onward {perform : Request → StateM Shop Unit}
    (aside : ∀ request (s : Shop), Onward of s (perform request s).2) {request : Request} {s : Shop}
    (within : request.Within of s) :
    Onward of s ((serveWith perform request).run s).2 := by
  cases request with
  | create draft => exact Goes.bind (.create within draft) (fun _ => .pure _) s
  | get taskId => exact Goes.bind (.find? taskId) (fun _ => .pure _) s
  | list lifecycle workflowId limit =>
      exact Goes.bind (.ofExcept _) (fun _ => .bind .get fun _ => .bind (.ofExcept _) fun _ => .pure _) s
  | runnable limit => exact Goes.bind (.ofExcept _) (fun _ => .bind .get fun _ => .pure _) s
  | load taskId => exact Goes.bind (.load taskId) (fun _ => .pure _) s
  | checkpoint taskId columns owner =>
      exact Goes.bind (.attempt (.checkpoint within columns owner)) (fun _ => .pure _) s
  | record row missing taskId columns owner =>
      exact Goes.bind (.attempt (.record within.1 within.2 missing columns owner)) (fun _ => .pure _) s
  | rows taskId => exact Goes.bind .get (fun _ => .pure _) s
  | reply taskId text => exact Goes.bind (.attempt (.submitReply within text)) (fun _ => .pure _) s
  | acquire taskId owner span =>
      exact Goes.bind (.attempt (.claim within owner span fun now => Tables.isFree now owner))
        (fun _ => .pure _) s
  | renew taskId owner span =>
      exact Goes.bind (.attempt (.claim within owner span fun _ => Tables.heldBy (some owner)))
        (fun _ => .pure _) s
  | release taskId owner => exact onward_release within owner s
  | startRun taskId => exact Goes.bind (.startRun within) (fun _ => .pure _) s
  | finishRun runId status =>
      exact Goes.finishRun within status (.pure Response.nothing)
  | runStatus runId => exact Goes.bind .get (fun _ => .pure _) s
  | clock micros =>
      have moved : Step of s (passTime micros s) :=
        .aside rfl rfl (Nat.le_refl _) (within.imp_right fun forward => Int.le_add_of_nonneg_right forward)
      exact moved.onward
  | tick name taskId feedback =>
      exact Goes.bind (runner_onward name)
        (fun chosen => .bind (tick_onward aside chosen.2 within feedback) fun _ => .pure _) s
  | runOnce name =>
      exact Goes.bind (runner_onward name)
        (fun chosen => .bind (runOnce_onward aside within chosen.1 chosen.2) fun _ => .pure _) s
  | runLoop name maxTicks maxIdlePolls =>
      exact Goes.bind (runner_onward name)
        (fun chosen => .bind (runLoop_onward aside within chosen.1 chosen.2 maxTicks maxIdlePolls)
          fun _ => .bind .get fun _ => .pure _) s
  | verify name taskId =>
      exact Goes.bind (runner_onward name) (fun _ => .bind (.verify taskId) fun _ => .pure _) s
  | signal name => exact stop_onward name s
  | malformed fault => exact onward_forward.refl s

/-- Every request goes on by steps. -/
theorem within_everything (request : Request) (s : Shop) : request.Within .everything s := by
  cases request <;> simp [Request.Within, Reach.everything]

theorem perform_onward (depth : Nat) (request : Request) (s : Shop) :
    Onward .everything s (perform depth request s).2 := by
  induction depth generalizing request s with
  | zero => exact onward_forward.refl s
  | succ depth ih =>
      have served := serveWith_onward ih (within_everything request s)
      show Onward _ s (if isSignal request then _ else _)
      split
      · exact served
      · exact onward_forward.trans served (onward_aside rfl rfl (Nat.le_refl _) rfl)

/-- Whatever request a shop carries out, it does so by steps. -/
theorem serve_steps (request : Request) (s : Shop) :
    Relation.ReflTransGen (Step .everything) s ((serve request).run s).2 :=
  serveWith_onward (perform_onward nestingCeiling) (within_everything request s) (.inr fun _ => trivial)

/-- What was orderly stays orderly, whatever request is carried out. -/
theorem serve_orderly (request : Request) {s : Shop} (orderly : s.Orderly) : ((serve request).run s).2.Orderly :=
  reached_orderly orderly (serve_steps request s)

end Shop

end Tickwork
