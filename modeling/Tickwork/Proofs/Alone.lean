import Tickwork.Proofs.Closings
import Tickwork.Proofs.Commuting

/-!
# One task alone

A task that a runner picks up is taken, advanced and given back, and the report tells how it came out. So it
is free again after the tick, and `alone`, which ticks one task again and again and touches no other, can go
on for ever. In two shops where a task stands alike, the run that it opens next may be given any name.
-/

set_option autoImplicit false

namespace Tickwork

/-! ## Tasks that are to be worked on -/

namespace Tables

/-- A task is queued or running. -/
def Pending (t : Tables) (taskId : String) : Prop :=
  ∃ row, t.task? taskId = some row ∧ row.columns.lifecycle ∈ Lifecycle.runnable

/-- A task is paused or has ended. -/
def AtRest (t : Tables) (taskId : String) : Prop :=
  ∃ row, t.task? taskId = some row ∧ row.columns.lifecycle ∉ Lifecycle.runnable

variable {t t' : Tables} {taskId : String}

instance (t : Tables) (taskId : String) : Decidable (t.AtRest taskId) :=
  decidable_of_iff ((t.task? taskId).any fun row => row.columns.lifecycle ∉ Lifecycle.runnable) <| by
    simp [AtRest, Option.any_eq_true]

theorem AtRest.not_pending (rests : t.AtRest taskId) : ¬ t.Pending taskId := by
  rintro ⟨row, found, runs⟩
  obtain ⟨row', found', still⟩ := rests
  cases found.symm.trans found'
  exact still runs

theorem Agree.pending (agree : Agree taskId t t') : t.Pending taskId ↔ t'.Pending taskId := by
  unfold Pending
  rw [agree.task]

theorem Alike.pending {σ : String → String} (alike : t.Alike σ taskId t') :
    t.Pending taskId ↔ t'.Pending taskId := by
  have tasks := alike.task
  unfold Pending
  generalize t.task? taskId = found at tasks ⊢
  generalize t'.task? taskId = found' at tasks ⊢
  cases tasks with
  | none => simp
  | some same => simp [same.lifecycle]

/-- Which names of runs mean the same does not matter where a task does not use them. -/
theorem Alike.of_agree {σ τ : String → String} (alike : t.Alike σ taskId t')
    (active : ∀ row, t.task? taskId = some row → ∀ name, row.activeRunId = some name → τ name = σ name)
    (runs : ∀ run ∈ t.runsFor taskId, τ run.runId = σ run.runId)
    (rows : ∀ row ∈ t.rowsFor taskId, τ row.runId = σ row.runId) : t.Alike τ taskId t' where
  task := by
    have tasks := alike.task
    generalize t.task? taskId = found at tasks active ⊢
    generalize t'.task? taskId = found' at tasks ⊢
    cases tasks with
    | none => exact .none
    | @some row row' same =>
        refine .some ⟨same.bare, same.columns, ?_, same.owner⟩
        rw [← same.run]
        cases names : row.activeRunId with
        | none => rfl
        | some name => exact congrArg some (active row rfl name names)
  runs := by
    rw [← alike.runs]
    refine List.map_congr_left fun run inside => ?_
    unfold RunRow.renamed
    rw [runs run inside]
  rows := by
    rw [← alike.rows]
    exact List.map_congr_left fun row inside => by rw [rows row inside]

/-! ## A lease that is given back -/

/-- Nobody has a task that its holder has given back. -/
theorem lease?_release {t : Tables} {taskId owner : String} (held : t.holder? taskId = some owner) :
    (t.release taskId owner).lease? taskId = none := by
  obtain ⟨lease, leased, own⟩ := Option.map_eq_some_iff.mp held
  obtain ⟨row, found, atRow⟩ := Option.bind_eq_some_iff.mp leased
  have met : heldBy (some owner) row = true := by simp [heldBy, atRow, own]
  unfold release
  rw [updateIf_of_met found met]
  exact lease?_setTask found (show TaskRow.taskId { row with lease := none } = row.taskId from rfl)

/-- A task that was taken is in the hands of the taker. -/
theorem holder?_acquire {t t' : Tables} {now : Instant} {taskId owner : String} {span : Instant.Seconds}
    (taken : t.acquire now taskId owner span = .ok (some t')) : t'.holder? taskId = some owner := by
  unfold acquire at taken
  cases ends : expiry now span with
  | error fault =>
      rw [ends] at taken
      cases taken
  | ok ending =>
      rw [ends] at taken
      obtain ⟨row, found, -, rfl⟩ := updateIf_some (Except.ok.inj taken)
      have same : TaskRow.taskId { row with lease := some ⟨owner, ending⟩ } = row.taskId := rfl
      rw [holder?, lease?_setTask found same]
      rfl

end Tables

namespace Shop

/-! ## Who holds a task while it is worked on -/

/-- A worker that holds a task goes on holding it. -/
def HoldsOn (taskId owner : String) (s s' : Shop) : Prop :=
  s.tables.holder? taskId = some owner → s'.tables.holder? taskId = some owner

namespace HoldsOn

variable {taskId owner : String}

theorem forward : Forward (HoldsOn taskId owner) where
  refl _ := id
  trans first second held := second (first held)

theorem of_tasks {s s' : Shop} (same : s'.tables.tasks = s.tables.tasks) : HoldsOn taskId owner s s' := by
  intro held
  unfold Tables.holder? Tables.lease? Tables.task? at held ⊢
  rw [same]
  exact held

theorem attempt {write : Tables → Instant → Except Fault (Option Tables)}
    (keeps : ∀ t now t', write t now = .ok (some t') → t.holder? taskId = some owner →
      t'.holder? taskId = some owner) : Work.Moves (HoldsOn taskId owner) (attempt write) := by
  intro s held
  rw [run_attempt]
  cases came : write s.tables s.now with
  | error fault => exact held
  | ok landed =>
      cases landed with
      | none => exact held
      | some t => exact keeps _ _ _ came held

/-- A write under the lease of a worker, or without a lease, leaves the worker its lease. -/
theorem leasedWrite {under : Option String} (mine : ∀ other, under = some other → other = owner)
    (span : Instant.Seconds) {write : Tables → Instant → Except Fault (Option Tables)}
    (keeps : ∀ t now t', write t now = .ok (some t') → t'.lease? taskId = t.lease? taskId) :
    Work.Moves (HoldsOn taskId owner) (leasedWrite taskId under span write) := by
  have written : Work.Moves (HoldsOn taskId owner) (do
      if !(← Shop.attempt write) then MonadExcept.throw (.leaseLost taskId (shownOption under))) := by
    refine .bind forward (attempt fun t now t' lands held => ?_) fun landed =>
      .ite (.throw forward _) (.pure forward _)
    rw [Tables.holder?, keeps t now t' lands]
    exact held
  cases under with
  | none => exact written
  | some other =>
      cases mine other rfl
      refine .bind forward (attempt fun t now t' lands _ => (Tables.holder?_renew lands).2) fun held => ?_
      cases held with
      | true => exact written
      | false => exact .throw forward _

theorem startRun (taskId' : String) : Work.Moves (HoldsOn taskId owner) (startRun taskId') := by
  intro s
  cases found : s.tables.task? taskId' with
  | none =>
      unfold Shop.startRun Tables.getTask
      rw [Work.run_bind_get, found]
      exact forward.refl s
  | some row =>
      rw [run_startRun found]
      cases s.tables.activeRun? row with
      | some run => exact of_tasks rfl
      | none =>
          intro held
          have opened : Tables.updateIf { s.tables with
              runs := s.tables.runs ++ [⟨rowName (s.rowCount + 1), row.taskId, .running, false⟩] } taskId'
              (fun _ => true) (fun row => { row with
                activeRunId := some (rowName (s.rowCount + 1)), updatedAt := s.now }) =
              some (s.tables.openRun s.now row (rowName (s.rowCount + 1))) := Tables.updateIf_of_met found rfl
          rw [Tables.holder?, Tables.lease?_updateIf opened fun _ => ⟨rfl, rfl⟩]
          exact held

theorem finishRun (runId : String) (status : RunStatus) :
    Work.Moves (HoldsOn taskId owner) (finishRun runId status) := by
  intro s
  rw [run_finishRun]
  cases s.tables.run? runId with
  | none => exact forward.refl s
  | some run => exact of_tasks rfl

theorem of_mute {α : Type} {act : Work α} (mute : Mute act) : Work.Moves (HoldsOn taskId owner) act :=
  fun s => of_tasks (congrArg Tables.tasks (mute s).tables)

end HoldsOn

section Ticks

variable {perform : Request → StateM Shop Unit} (aloof : Aloof perform) (runner : Runner) {taskId : String}

include aloof

/-- A runner that works on a task that it holds goes on holding it. -/
theorem host_holds : (host perform runner taskId).Preserves fun s =>
    s.tables.holder? taskId = some runner.workerId := by
  have mine : ∀ other, (if runner.leaseMode = .strict then some runner.workerId else none) = some other →
      other = runner.workerId := by
    intro other same
    split at same
    · exact (Option.some.inj same).symm
    · cases same
  have still : ∀ {α : Type} {act : StateM Shop α}, (∀ s : Shop, (act s).2.tables = s.tables) →
      Preserves (fun s => s.tables.holder? taskId = some runner.workerId) act := fun same s held =>
    HoldsOn.of_tasks (congrArg Tables.tasks (same s)) held
  exact
    { behaviour := Routine.behaviour_preserves (fun _ => still fun _ => rfl) fun request =>
        still (aloof.tables request)
      now := still fun _ => rfl
      freshEventId := still fun _ => rfl
      freshTickId := still fun _ => rfl
      sleep := fun _ => still fun _ => rfl
      checkpoint := fun _ => HoldsOn.leasedWrite mine _ fun _ _ _ lands => Tables.lease?_checkpoint lands taskId
      record := fun _ _ => HoldsOn.leasedWrite mine _ fun _ _ _ lands => Tables.lease?_record lands taskId }

theorem advanceTask_holds {task : TaskView} (own : task.row.taskId = taskId) (g : Graph Code)
    (feedback : Option String) :
    Work.Moves (HoldsOn taskId runner.workerId) (advanceTask perform runner task g feedback) := by
  have forward : Forward (HoldsOn taskId runner.workerId) := HoldsOn.forward
  subst own
  unfold advanceTask
  refine .bind forward ((Looks.load _).moves forward) fun p => .bind forward (.startRun _) fun runId => ?_
  refine .bind forward (fun s held => ?_) fun ⟨result, q⟩ => ?_
  · exact Engine.advance_preserves (host_holds aloof runner) runner.budget g task.row.info runId none feedback p
      s held
  · cases result with
    | ok finish =>
        refine .bind forward (.finishRun _ _) fun _ => .bind forward (.of_mute (.tellOf _ _ _ _)) fun _ => ?_
        exact .of_mute (.ite (.bind (.verify _) fun _ => .pure _) (.pure _))
    | error fault =>
        cases fault with
        | fatal cause named =>
            exact .bind forward (.finishRun _ _) fun _ => .of_mute (.bind (.announce _) fun _ => .pure _)
        | _ => exact .throw forward _

/-- A task that was free is free after its tick: the runner gives it back. -/
theorem Free.ticked {s : Shop} (free : s.Free taskId runner.workerId) (feedback : Option String) :
    ((tick perform runner taskId feedback).run s).2.Free taskId runner.workerId := by
  rcases tick_goes perform runner taskId feedback s with
    ⟨result, ran, -⟩ | ⟨task, g, landed, looked, own, -, -, taken, -, ran⟩
  · rw [ran]
    exact free
  · have found := found_of_getTask looked
    cases landed with
    | none =>
        obtain ⟨lease, leased, other, lasts⟩ := leased_of_untaken found taken
        have open' := free _ found
        simp [Tables.isFree, leased, other, lasts] at open'
    | some t =>
        have held := advanceTask_holds aloof runner own g feedback { s with tables := t }
          (Tables.holder?_acquire taken)
        rw [ran]
        intro row found'
        have given : row.lease = none :=
          (Tables.lease?_of_task? found').symm.trans (Tables.lease?_release held)
        unfold Tables.isFree
        rw [given]

omit aloof in
/-- A runner that has advanced a task reports how it came out. -/
theorem advanceTask_report {task : TaskView} {g : Graph Code} {feedback : Option String} {s after : Shop}
    {report : TickReport} (ran : (advanceTask perform runner task g feedback).run s = (.ok report, after)) :
    report.skipped = false ∧ report.ending.isSome = true := by
  obtain ⟨p, _, -, ran⟩ := Work.parts_of_ok ran
  obtain ⟨runId, _, -, ran⟩ := Work.parts_of_ok ran
  obtain ⟨⟨result, q⟩, _, -, ran⟩ := Work.parts_of_ok ran
  cases result with
  | ok finish =>
      obtain ⟨_, _, -, ran⟩ := Work.parts_of_ok ran
      obtain ⟨_, _, -, ran⟩ := Work.parts_of_ok ran
      obtain ⟨rfl, -⟩ := checked_ok ran
      exact ⟨rfl, rfl⟩
  | error fault =>
      cases fault with
      | fatal cause named =>
          obtain ⟨_, _, -, ran⟩ := Work.parts_of_ok ran
          obtain ⟨_, _, -, ran⟩ := Work.parts_of_ok ran
          cases ran
          exact ⟨rfl, rfl⟩
      | _ => cases ran

omit aloof in
/-- A task that is free and queued or running is not left alone by a tick that comes to a report. -/
theorem tick_of_pending {s after : Shop} (pending : s.tables.Pending taskId)
    (free : s.Free taskId runner.workerId) {report : TickReport}
    (ticked : (tick perform runner taskId none).run s = (.ok report, after)) :
    (Tables.expiry s.now runner.leaseSpan).isOk = true ∧ report.skipped = false ∧
      report.ending.isSome = true := by
  obtain ⟨row, found, runs⟩ := pending
  rcases tick_goes perform runner taskId none s with
    ⟨result, ran, idle⟩ | ⟨task, g, landed, -, -, -, -, taken, -, ran⟩
  · rw [ticked] at ran
    cases ran
    obtain ⟨row', found', alone⟩ := idle report rfl
    cases found.symm.trans found'
    have open' := free row found
    cases alone with
    | ended past =>
        cases stage : row.columns.lifecycle <;>
          simp [stage, Lifecycle.runnable, Lifecycle.isTerminal] at runs past
    | waits paused _ => simp [paused, Lifecycle.runnable] at runs
    | held strict leased other lasts => simp [Tables.isFree, leased, other, lasts] at open'
  · rw [ran] at ticked
    cases worked : (advanceTask perform runner task g none).run { s with tables := landed.getD s.tables } with
    | mk result left =>
        have came : result = .ok report := by
          have first := congrArg Prod.fst ticked
          exact (congrArg Prod.fst worked).symm.trans first
        subst came
        refine ⟨?_, advanceTask_report runner worked⟩
        unfold Tables.acquire at taken
        cases ends : Tables.expiry s.now runner.leaseSpan with
        | ok ending => rfl
        | error fault =>
            rw [ends] at taken
            cases taken

omit aloof in
/-- A task that is at rest is left alone. -/
theorem tick_of_rest {s : Shop} (rests : s.tables.AtRest taskId) :
    ((tick perform runner taskId none).run s).2 = s := by
  obtain ⟨row, found, still⟩ := rests
  obtain ⟨result, looked, finds⟩ := run_getTask taskId s
  unfold tick
  cases result with
  | error fault => rw [Work.run_bind_of_error looked]
  | ok task =>
      cases found.symm.trans (finds task rfl)
      rw [Work.run_bind_of_ok looked]
      cases stage : task.row.columns.lifecycle <;> simp [stage, Lifecycle.runnable] at still <;>
        simp only [stage, Lifecycle.isTerminal] <;> rfl

end Ticks

/-! ## Names of runs -/

/-- The next run of a task may be known by any name that is drawn next. -/
theorem Matched.next_named {taskId : String} {v w : Shop} {σ : Equiv.Perm String}
    (matched : Matched σ taskId v w) (orderly : v.Orderly) (orderly' : w.Orderly) :
    ∃ τ : Equiv.Perm String, Matched τ taskId v w ∧
      τ (rowName (v.rowCount + 1)) = rowName (w.rowCount + 1) := by
  have alike := matched.alike
  let τ := (Equiv.swap (rowName (v.rowCount + 1)) (σ.symm (rowName (w.rowCount + 1)))).trans σ
  -- A name that is in use here and whose counterpart is in use there is none of the two.
  have still : ∀ name, name ≠ rowName (v.rowCount + 1) → σ name ≠ rowName (w.rowCount + 1) →
      τ name = σ name := by
    intro name here there
    have other : name ≠ σ.symm (rowName (w.rowCount + 1)) := fun same => there (by simp [same])
    simp [τ, Equiv.swap_apply_of_ne_of_ne here other]
  refine ⟨τ, ⟨alike.of_agree ?_ ?_ ?_, matched.unused, matched.unused'⟩, by simp [τ]⟩
  · intro row found name names
    refine still name (fun same => ?_) fun same => ?_
    · exact orderly.active row (Step.task?_mem found) _ (Nat.lt_succ_self _) (same ▸ names)
    · have tasks := alike.task
      rw [found] at tasks
      cases found' : w.tables.task? taskId with
      | none =>
          rw [found'] at tasks
          cases tasks
      | some row' =>
          rw [found'] at tasks
          cases tasks with
          | some like =>
              refine orderly'.active row' (Step.task?_mem found') _ (Nat.lt_succ_self _) ?_
              rw [← like.run, names, ← same]
              rfl
  · intro run inside
    refine still _ (orderly.runs run (List.mem_filter.mp inside).1 _ (Nat.lt_succ_self _)) fun same => ?_
    have there : run.renamed σ ∈ w.tables.runsFor taskId := alike.runs ▸ List.mem_map_of_mem inside
    exact orderly'.runs _ (List.mem_filter.mp there).1 _ (Nat.lt_succ_self _) same
  · intro row inside
    refine still _ (orderly.rows row (List.mem_filter.mp inside).1 _ (Nat.lt_succ_self _)) fun same => ?_
    have there : (row.shape, σ row.runId) ∈ (w.tables.rowsFor taskId).map Transition.told :=
      alike.rows ▸ List.mem_map_of_mem inside
    obtain ⟨row', inside', told⟩ := List.mem_map.mp there
    refine orderly'.rows row' (List.mem_filter.mp inside').1 _ (Nat.lt_succ_self _) ?_
    exact (congrArg Prod.snd told).trans same

/-! ## One task alone -/

/-- The tick of a runner that picks a task up by itself. -/
def pickUp (runner : Runner) (taskId : String) : Errand := ⟨runner, taskId, none⟩

/-- A shop after ticks of one task and no other. -/
def alone (perform : Request → StateM Shop Unit) (runner : Runner) (taskId : String) : Nat → Shop → Shop
  | 0, s => s
  | n + 1, s => (pickUp runner taskId).done perform (alone perform runner taskId n s)

section Alone

variable {perform : Request → StateM Shop Unit} (aloof : Aloof perform)

include aloof

/-- What an errand needs it leaves behind: the lease is free again, and the task stays in its factory. -/
theorem Errand.Clear.after {e : Errand} {s : Shop} (clear : e.Clear perform s) :
    e.Clear perform (e.done perform s) where
  free := clear.free.ticked aloof e.runner e.reply
  steady row g found listed := by
    have extends' : s.Extends (e.done perform s) :=
      tick_adds (fun request s => .of_same (aloof.tables request s) (aloof.graphs request s)) e.runner e.taskId
        e.reply s
    rw [extends'.graphs] at listed
    rcases tick_goes perform e.runner e.taskId e.reply s with ⟨result, ran, -⟩ | ⟨task, g', landed, looked, -⟩
    · have same : e.done perform s = s := congrArg Prod.snd ran
      exact clear.steady row g (same ▸ found) listed
    · have here := found_of_getTask looked
      obtain ⟨row', found', factory⟩ := extends'.tables.tasks e.taskId task.row here
      cases found.symm.trans found'
      exact clear.steady task.row g here (factory ▸ listed)

theorem alone_clear {runner : Runner} {taskId : String} {s : Shop} (orderly : s.Orderly)
    (clear : (pickUp runner taskId).Clear perform s) (n : Nat) :
    (alone perform runner taskId n s).Orderly ∧ (alone perform runner taskId n s).graphs = s.graphs ∧
      (pickUp runner taskId).Clear perform (alone perform runner taskId n s) := by
  induction n with
  | zero => exact ⟨orderly, rfl, clear⟩
  | succ n ih =>
      obtain ⟨orderly', graphs, clear'⟩ := ih
      have reached := Errand.done_reached aloof orderly' (pickUp runner taskId)
      exact ⟨reached_orderly orderly' reached, (reached_graphs reached).trans graphs, clear'.after aloof⟩

end Alone

end Shop

end Tickwork
