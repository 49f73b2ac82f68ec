import Tickwork.Proofs.LeasedWrites

/-!
# Work that does not end a task

Work is calm if none of its faults is the one that ends a task for good. So is all that a shop does with its
tables, and what a runner writes. Main statement: no tick fails with a fault that ends a task. What ends its
task in the advance of a tick is noted with the run, and the tick reports it.
-/

set_option autoImplicit false

namespace Tickwork

/-! ## Checks and work -/

theorem Calm.error {α : Type} {fault : Fault} (calm : fault.isFatal = false) :
    Calm (.error fault : Except Fault α) := by
  rintro _ ⟨⟩
  exact calm

theorem Calm.ite {α : Type} {condition : Prop} [Decidable condition] {yes no : Except Fault α}
    (first : Calm yes) (second : Calm no) : Calm (if condition then yes else no) := by
  split
  · exact first
  · exact second

namespace Work

variable {W α β : Type}

/-- Work whose faults do not end a task. -/
def Calm (act : ExceptT Fault (StateM W) α) : Prop := ∀ w, Tickwork.Calm (act.run w).1

namespace Calm

theorem pure (a : α) : Calm (Pure.pure a : ExceptT Fault (StateM W) α) := fun _ => .ok a

theorem throw {fault : Fault} (calm : fault.isFatal = false) :
    Calm (throw fault : ExceptT Fault (StateM W) α) := fun _ => .error calm

theorem get : Calm (get : ExceptT Fault (StateM W) W) := fun w => .ok w

theorem bind {act : ExceptT Fault (StateM W) α} {next : α → ExceptT Fault (StateM W) β}
    (first : Calm act) (later : ∀ a, Calm (next a)) : Calm (act >>= next) := by
  intro w
  have begun := first w
  rw [Work.run_bind]
  cases ran : act.run w with
  | mk result after =>
      rw [ran] at begun
      cases result with
      | ok a => exact later a after
      | error fault => exact .error (begun fault rfl)

theorem ite {condition : Prop} [Decidable condition] {yes no : ExceptT Fault (StateM W) α}
    (first : Calm yes) (second : Calm no) : Calm (if condition then yes else no) := by
  split
  · exact first
  · exact second

theorem forM {act : β → ExceptT Fault (StateM W) Unit} (each : ∀ item, Calm (act item))
    (items : List β) : Calm (items.forM act) := by
  induction items with
  | nil => exact .pure _
  | cons item rest ih => exact .bind (each item) fun _ => ih

end Calm

end Work

theorem calm_mappingColumn (v : Value) : Calm (mappingColumn v) := by
  intro fault broken
  unfold mappingColumn at broken
  split at broken <;> cases broken
  rfl

/-- A number is not read from a value by a callable, which alone ends a task. -/
theorem calm_toInt (v : Value) : Calm (v.toInt.mapError Fault.ofRaised) := by
  intro fault broken
  cases v with
  | str text =>
      simp only [Value.toInt] at broken
      cases read : Numeral.readInt text with
      | ok n =>
          rw [read] at broken
          cases broken
      | error problem =>
          rw [read] at broken
          cases problem <;> cases broken <;> rfl
  | float x =>
      unfold Value.toInt at broken
      simp only at broken
      split at broken
      · cases broken
      · split at broken <;> cases broken <;> rfl
  | _ => cases broken <;> rfl

theorem calm_readCounters (entries : List (String × Value)) : Calm (readCounters entries) := by
  induction entries with
  | nil => exact .ok _
  | cons entry rest ih => exact (calm_toInt entry.2).bind fun _ => ih.bind fun _ => .ok _

theorem calm_counterColumn (v : Value) : Calm (counterColumn v) :=
  (calm_mappingColumn v).bind fun _ => calm_readCounters _

theorem TaskRow.calm_progress (row : TaskRow) : Calm row.progress :=
  (calm_mappingColumn _).bind fun _ => (calm_counterColumn _).bind fun _ =>
    (calm_counterColumn _).bind fun _ => .ok _

theorem Tables.calm_getTask (t : Tables) (taskId : String) : Calm (t.getTask taskId) := by
  intro fault broken
  unfold Tables.getTask at broken
  split at broken <;> cases broken
  rfl

theorem Tables.calm_finishRun (t : Tables) (runId : String) (status : RunStatus) :
    Calm (t.finishRun runId status) := by
  intro fault broken
  unfold Tables.finishRun at broken
  split at broken <;> cases broken
  rfl

/-! ## Checks of a ledger -/

theorem calm_walk (feedbackIds : List String) (current : String) (previous : Option Transition)
    (rows : List Transition) : Calm (Replay.walk feedbackIds current previous rows) := by
  induction rows generalizing current previous with
  | nil => exact .ok _
  | cons row rest ih =>
      exact row.calm_check.bind fun _ => .ite (.error rfl) (ih _ _)

theorem calm_replay (feedbackIds : List String) (rows : List Transition) :
    Calm (replay feedbackIds rows) := by
  cases rows with
  | nil => exact .ok _
  | cons row rest => exact (calm_walk _ _ _ _).bind fun _ => .ok _

theorem Graph.calm_verify {F : Type} (g : Graph F) (rows : List Transition) (p : Progress) :
    Calm (g.verify rows p) := by
  refine (calm_replay g.feedbackIds rows).bind fun final => ?_
  cases final with
  | none => exact .ok _
  | some final =>
      have compared : Calm (g.matchesProgress rows final p) := by
        unfold Graph.matchesProgress
        refine .ite (.error rfl) (.ite ?_ (.ite (.ok _) (.error rfl)))
        exact (Engine.calm_resumeTarget g _ _).bind fun _ => .ite (.ok _) (.error rfl)
      exact compared.bind fun _ => .ok _

namespace Shop

/-! ## The faults of a tick -/

theorem calm_ofExcept {α : Type} {r : Except Fault α} (calm : Calm r) : Work.Calm (ofExcept r) := by
  cases r with
  | ok a => exact .pure a
  | error fault => exact .throw (calm fault rfl)

theorem calm_attempt {write : Tables → Instant → Except Fault (Option Tables)}
    (calm : ∀ t now, Calm (write t now)) : Work.Calm (attempt write) := by
  refine .bind .get fun s => .bind (calm_ofExcept (calm _ _)) fun landed => ?_
  cases landed with
  | none => exact .pure _
  | some t => exact .bind (fun _ => .ok ()) fun _ => .pure _

theorem calm_leasedWrite (taskId : String) (owner : Option String) (span : Instant.Seconds)
    {write : Tables → Instant → Except Fault (Option Tables)} (calm : ∀ t now, Calm (write t now)) :
    Work.Calm (leasedWrite taskId owner span write) := by
  have written : Work.Calm (attempt write >>= fun landed =>
      if !landed then throw (.leaseLost taskId (shownOption owner)) else pure ()) :=
    .bind (calm_attempt calm) fun _ => .ite (.throw rfl) (.pure _)
  cases owner with
  | none => exact written
  | some owner =>
      refine .bind (calm_attempt fun t now => t.calm_renew now taskId owner span) fun renewed => ?_
      exact .ite (.bind (.throw rfl) fun _ => written) written

theorem calm_getTask (taskId : String) : Work.Calm (getTask taskId) := by
  have finds : Work.Calm (find? taskId) := by
    refine .bind .get fun s => ?_
    cases s.tables.task? taskId with
    | none => exact .pure _
    | some row =>
        exact .bind (calm_ofExcept ((calm_mappingColumn _).bind fun _ => .ok _)) fun _ => .pure _
  refine .bind finds fun found => ?_
  cases found with
  | none => exact .throw rfl
  | some view => exact .pure _

theorem calm_graph (workflowId : String) : Work.Calm (graph workflowId) := by
  refine .bind .get fun s => ?_
  cases s.graphs.lookup workflowId with
  | none => exact .throw rfl
  | some g => exact .pure _

theorem calm_load (taskId : String) : Work.Calm (load taskId) :=
  .bind .get fun _ => .bind (calm_ofExcept (Tables.calm_getTask _ _)) fun row =>
    calm_ofExcept row.calm_progress

theorem calm_startRun (taskId : String) : Work.Calm (startRun taskId) := by
  refine .bind .get fun _ => .bind (calm_ofExcept (Tables.calm_getTask _ _)) fun row => ?_
  refine .bind .get fun s => ?_
  cases s.tables.activeRun? row with
  | some run => exact .bind .get fun _ => .bind (fun _ => .ok ()) fun _ => .pure _
  | none =>
      exact .bind (fun _ => .ok _) fun _ => .bind .get fun _ => .bind (fun _ => .ok ()) fun _ => .pure _

theorem calm_finishRun (runId : String) (status : RunStatus) : Work.Calm (finishRun runId status) :=
  .bind .get fun _ => .bind (calm_ofExcept (Tables.calm_finishRun _ _ _)) fun _ _ => .ok ()

theorem calm_announce (notice : Notice) : Work.Calm (announce notice) := fun _ => .ok ()

theorem calm_pageNotice (relay : Relay) (task : TaskRow) (page : Value) :
    Calm ((pageNotice relay task page).mapError Fault.ofRaised) := by
  intro fault broken
  unfold pageNotice at broken
  repeat' split at broken
  all_goals cases broken
  all_goals rfl

theorem calm_announcePage (task : TaskRow) (page : Value) : Work.Calm (announcePage task page) :=
  .bind .get fun s => .bind (calm_ofExcept (calm_pageNotice s.relay task page)) fun _ =>
    calm_announce _

theorem calm_tellOf (task : TaskRow) (previous : Lifecycle) (finish : Finish) (p : Progress) :
    Work.Calm (tellOf task previous finish p) := by
  unfold tellOf
  refine .bind (.forM (calm_announcePage task) finish.pages) fun _ => ?_
  have changed : Work.Calm (if p.lifecycle ≠ previous then
      announce (.lifecycle task.taskId previous p.lifecycle p.lastError) else pure ()) :=
    .ite (calm_announce _) (.pure _)
  exact .ite (.bind (calm_announce _) fun _ => changed) changed

theorem calm_verify (taskId : String) : Work.Calm (verify taskId) :=
  .bind (calm_getTask taskId) fun _ => .bind (calm_graph _) fun g => .bind .get fun _ =>
    .bind (calm_load taskId) fun _ => calm_ofExcept (g.calm_verify _ _)

variable (perform : Request → StateM Shop Unit) (runner : Runner)

/-- What ends a task for good is noted with its run: no advance in a tick fails with it. -/
theorem calm_advanceTask (task : TaskView) (g : Graph Code) (feedback : Option String) :
    Work.Calm (advanceTask perform runner task g feedback) := by
  unfold advanceTask
  refine .bind (calm_load _) fun p => .bind (calm_startRun _) fun runId => ?_
  refine .bind (fun _ => .ok _) fun came => ?_
  obtain ⟨result, q⟩ := came
  cases result with
  | ok finish =>
      refine .bind (calm_finishRun _ _) fun _ => .bind (calm_tellOf _ _ _ _) fun _ => ?_
      exact .ite (.bind (calm_verify _) fun _ => .pure _) (.pure _)
  | error fault =>
      cases fault with
      | fatal cause named =>
          exact .bind (calm_finishRun _ _) fun _ => .bind (calm_announce _) fun _ => .pure _
      | _ => exact .throw rfl

/-- No tick fails with a fault that ends a task, whatever its callables do. -/
theorem tick_calm (taskId : String) (feedback : Option String) :
    Work.Calm (tick perform runner taskId feedback) := by
  unfold tick
  refine .bind (calm_getTask taskId) fun task => ?_
  refine .ite (.pure _) (.ite (.pure _) (.bind (calm_graph _) fun g => ?_))
  have claims : ∀ t now, Calm (Tables.acquire t now taskId runner.workerId runner.leaseSpan) :=
    fun _ now => (Tables.calm_expiry now _).bind fun _ => .ok _
  refine .bind (calm_attempt claims) fun acquired => .ite (.pure _) fun s => ?_
  have advances := calm_advanceTask perform runner task g feedback s
  unfold releasing
  simp only [ExceptT.run, ExceptT.mk] at advances ⊢
  generalize advanceTask perform runner task g feedback s = came at advances ⊢
  exact advances

end Shop

end Tickwork
