import Tickwork.Proofs.Invariants
import Tickwork.Proofs.Replies.Stored

/-!
# The ledger only grows

Nothing that can be asked of a shop takes a row out of the ledger, changes one or puts one in front of
another; no task is removed or moved to another factory. Main statement: whatever request a shop carries
out, ticks and loops with all that their callables ask for included, its tables afterwards extend those
before.
-/

set_option autoImplicit false

namespace Tickwork

/-! ## Tables -/

namespace Tables

/-- The ledger goes on from the one before, and the tasks from before are still there, each in its
factory. -/
structure Extends (before after : Tables) : Prop where
  rows : before.rows <+: after.rows
  tasks : ∀ id row, before.task? id = some row →
    ∃ row', after.task? id = some row' ∧ row'.workflowId = row.workflowId

theorem Extends.refl (t : Tables) : t.Extends t where
  rows := List.prefix_refl _
  tasks _ row found := ⟨row, found, rfl⟩

theorem Extends.trans {a b c : Tables} (first : a.Extends b) (second : b.Extends c) : a.Extends c where
  rows := first.rows.trans second.rows
  tasks id row found := by
    obtain ⟨middle, found', same⟩ := first.tasks id row found
    obtain ⟨last, found'', same'⟩ := second.tasks id middle found'
    exact ⟨last, found'', same'.trans same⟩

variable {t after : Tables} {now : Instant} {taskId : String}

theorem extends_setTask {row changed : TaskRow} (found : t.task? row.taskId = some row)
    (own : changed.taskId = row.taskId) (factory : changed.workflowId = row.workflowId) :
    t.Extends (t.setTask changed) where
  rows := List.prefix_refl _
  tasks id old here := by
    by_cases same : id = row.taskId
    · subst same
      obtain rfl : row = old := Option.some.inj (found.symm.trans here)
      exact ⟨changed, task?_setTask found own, factory⟩
    · have other : changed.taskId ≠ id := fun hit => same (hit.symm.trans own)
      exact ⟨old, (task?_setTask_other other).trans here, rfl⟩

theorem extends_updateIf {condition : TaskRow → Bool} {change : TaskRow → TaskRow}
    (lands : t.updateIf taskId condition change = some after)
    (same : ∀ row, (change row).taskId = row.taskId ∧ (change row).workflowId = row.workflowId) :
    t.Extends after := by
  obtain ⟨row, found, -, rfl⟩ := updateIf_some lands
  have own := taskId_of_task? found
  exact extends_setTask (own.symm ▸ found) (same row).1 (same row).2

theorem extends_create {draft : TaskDraft} (created : t.create now taskId draft = .ok after) :
    t.Extends after := by
  obtain ⟨context, row, -, -, -, -, -, rfl⟩ := create_ok created
  refine ⟨List.prefix_refl _, fun id row found => ⟨row, ?_, rfl⟩⟩
  simp only [task?, List.find?_append] at found ⊢
  rw [found]
  rfl

theorem extends_checkpoint {columns : Columns} {owner : Option String}
    (lands : t.checkpoint now taskId columns owner = .ok (some after)) : t.Extends after := by
  unfold checkpoint at lands
  cases kept : columns.stored with
  | error fault =>
      rw [kept] at lands
      cases lands
  | ok columns =>
      rw [kept] at lands
      exact extends_updateIf (Except.ok.inj lands) fun _ => ⟨rfl, rfl⟩

theorem rows_updateIf {condition : TaskRow → Bool} {change : TaskRow → TaskRow}
    (lands : t.updateIf taskId condition change = some after) : after.rows = t.rows := by
  obtain ⟨row, -, -, rfl⟩ := updateIf_some lands
  rfl

theorem rows_checkpoint {columns : Columns} {owner : Option String}
    (lands : t.checkpoint now taskId columns owner = .ok (some after)) : after.rows = t.rows := by
  unfold checkpoint at lands
  cases kept : columns.stored with
  | error fault =>
      rw [kept] at lands
      cases lands
  | ok columns =>
      rw [kept] at lands
      exact rows_updateIf (Except.ok.inj lands)

theorem addRow_ok {row : Transition} {missing : Option String}
    (added : t.addRow row missing = .ok after) :
    after.rows = t.rows ++ [row] ∧ after.tasks = t.tasks := by
  unfold addRow at added
  repeat' split at added
  all_goals cases added
  exact ⟨rfl, rfl⟩

/-- A write of progress with a row changes the progress and puts the row at the end of the ledger. -/
theorem record_ok {row : Transition} {missing : Option String} {columns : Columns}
    {owner : Option String}
    (lands : t.record now row missing taskId columns owner = .ok (some after)) :
    t.Extends after ∧ after.rows = t.rows ++ [row] := by
  unfold record at lands
  cases kept : t.checkpoint now taskId columns owner with
  | error fault =>
      rw [kept] at lands
      cases lands
  | ok landed =>
      rw [kept] at lands
      cases landed with
      | none => cases lands
      | some middle =>
          simp only [bind, Except.bind] at lands
          cases added : middle.addRow row missing with
          | error fault =>
              rw [added] at lands
              cases lands
          | ok t' =>
              rw [added] at lands
              cases lands
              obtain ⟨rows, tasks⟩ := addRow_ok added
              have extended := extends_checkpoint kept
              have still : middle.rows = t.rows := rows_checkpoint kept
              refine ⟨⟨?_, fun id row found => ?_⟩, by rw [rows, still]⟩
              · rw [rows, still]
                exact List.prefix_append _ _
              · simpa only [task?, tasks] using extended.tasks id row found

theorem extends_submitReply {text : String}
    (lands : t.submitReply now taskId text = .ok (some after)) : t.Extends after := by
  unfold submitReply at lands
  cases found : t.getTask taskId with
  | error fault =>
      rw [found] at lands
      cases lands
  | ok row =>
      rw [found] at lands
      simp only [bind, Except.bind] at lands
      cases read : mappingColumn row.columns.context with
      | error fault =>
          rw [read] at lands
          cases lands
      | ok seen =>
          rw [read] at lands
          simp only at lands
          cases kept : Columns.document (.dict (Fields.put replyKey (.str text) seen)) with
          | error fault =>
              rw [kept] at lands
              cases lands
          | ok context =>
              rw [kept] at lands
              exact extends_updateIf (Except.ok.inj lands) fun _ => ⟨rfl, rfl⟩

/-- A claim changes nothing but the lease of its task. -/
theorem claim_ok {owner : String} {span : Instant.Seconds} {condition : TaskRow → Bool}
    (lands : (do
      let expiresAt ← expiry now span
      .ok (t.updateIf taskId condition fun row => { row with lease := some ⟨owner, expiresAt⟩ })) =
        Except.ok (some after)) : t.Extends after ∧ after.rows = t.rows := by
  cases ends : expiry now span with
  | error fault =>
      rw [ends] at lands
      cases lands
  | ok ending =>
      rw [ends] at lands
      exact ⟨extends_updateIf (Except.ok.inj lands) fun _ => ⟨rfl, rfl⟩,
        rows_updateIf (Except.ok.inj lands)⟩

theorem extends_release (owner : String) : t.Extends (t.release taskId owner) := by
  unfold release
  cases lands : t.updateIf taskId (heldBy (some owner)) fun row => { row with lease := none } with
  | none => exact .refl t
  | some after => exact extends_updateIf lands fun _ => ⟨rfl, rfl⟩

theorem extends_openRun {row : TaskRow} (found : t.task? row.taskId = some row) (runId : String) :
    t.Extends (t.openRun now row runId) := by
  have opened : t.Extends { t with runs := t.runs ++ [⟨runId, row.taskId, .running, false⟩] } :=
    ⟨List.prefix_refl _, fun _ row found => ⟨row, found, rfl⟩⟩
  have found' : Tables.task? { t with runs := t.runs ++ [⟨runId, row.taskId, .running, false⟩] }
      row.taskId = some row := found
  exact opened.trans (extends_setTask found' rfl rfl)

theorem extends_setRun (run : RunRow) : t.Extends (t.setRun run) :=
  ⟨List.prefix_refl _, fun _ row found => ⟨row, found, rfl⟩⟩

theorem extends_finishRun {runId : String} {status : RunStatus}
    (lands : t.finishRun runId status = .ok after) : t.Extends after := by
  unfold finishRun at lands
  split at lands <;> cases lands
  exact extends_setRun _

end Tables

/-! ## Shops -/

namespace Shop

/-- What happened to a shop: its ledger was continued, and its tasks stayed in their factories. -/
structure Extends (before after : Shop) : Prop where
  tables : before.tables.Extends after.tables
  graphs : after.graphs = before.graphs

theorem forward : Forward Extends where
  refl _ := ⟨.refl _, rfl⟩
  trans first second := ⟨first.tables.trans second.tables, second.graphs.trans first.graphs⟩

/-- Work that only extends the tables. -/
abbrev Adds {α : Type} (act : Work α) : Prop := Work.Moves Extends act

theorem Extends.of_tables {s : Shop} {t : Tables} (extends' : s.tables.Extends t) :
    s.Extends { s with tables := t } := ⟨extends', rfl⟩

theorem Extends.of_same {s s' : Shop} (tables : s'.tables = s.tables) (graphs : s'.graphs = s.graphs) :
    s.Extends s' := ⟨tables ▸ .refl _, graphs⟩

/-- A lease that is given back is all that changes when work is over. -/
theorem releasing_extends {α : Type} (act : Work α) (acquired : Bool) (taskId owner : String)
    (s : Shop) : Extends (act.run s).2 ((releasing acquired taskId owner act).run s).2 := by
  cases acquired with
  | false => exact forward.refl _
  | true => exact .of_tables (Tables.extends_release owner)

namespace Adds

variable {α β : Type}

theorem pure (a : α) : Adds (Pure.pure a) := Work.Moves.pure forward a

theorem throw (fault : Fault) : Adds (throw fault : Work α) := Work.Moves.throw forward fault

theorem get : Adds (get : Work Shop) := Work.Moves.get forward

theorem bind {act : Work α} {next : α → Work β} (first : Adds act) (later : ∀ a, Adds (next a)) :
    Adds (act >>= next) := Work.Moves.bind forward first later

theorem ite {condition : Prop} [Decidable condition] {yes no : Work α} (first : Adds yes)
    (second : Adds no) : Adds (if condition then yes else no) := Work.Moves.ite first second

theorem forM {act : α → Work Unit} (each : ∀ item, Adds (act item)) (items : List α) :
    Adds (items.forM act) := Work.Moves.forM forward each items

theorem ofExcept (r : Except Fault α) : Adds (ofExcept r) := (Looks.ofExcept r).moves forward

theorem attempt {write : Tables → Instant → Except Fault (Option Tables)}
    (extend : ∀ t now t', write t now = .ok (some t') → t.Extends t') : Adds (Shop.attempt write) := by
  intro s
  rw [run_attempt]
  cases came : write s.tables s.now with
  | error fault => exact forward.refl s
  | ok landed =>
      cases landed with
      | none => exact forward.refl s
      | some t => exact .of_tables (extend _ _ _ came)

/-- Tables that extend those of the shop take their place. -/
theorem store {f : Shop → Except Fault Tables}
    (extend : ∀ s t, f s = .ok t → s.tables.Extends t) {next : Work α} (later : Adds next) :
    Adds (do
      let s ← MonadState.get
      setTables (← Shop.ofExcept (f s))
      next) := by
  intro s
  rw [Work.run_bind_get]
  cases made : f s with
  | error fault => exact forward.refl s
  | ok t =>
      have given : (Shop.ofExcept (.ok t : Except Fault Tables)).run s = (.ok t, s) := rfl
      have put : (setTables t).run s = (.ok (), { s with tables := t }) := rfl
      rw [Work.run_bind_of_ok given, Work.run_bind_of_ok put]
      exact forward.trans (.of_tables (extend s t made)) (later _)

theorem create (draft : TaskDraft) : Adds (create draft) := by
  intro s
  obtain ⟨count, t, -, left, made⟩ := run_create draft s
  rw [left]
  rcases made with rfl | ⟨taskId, added⟩
  · exact .of_same rfl rfl
  · exact ⟨Tables.extends_create added, rfl⟩

theorem find? (taskId : String) : Adds (find? taskId) := (Looks.find? taskId).moves forward

theorem getTask (taskId : String) : Adds (getTask taskId) := (Looks.getTask taskId).moves forward

theorem load (taskId : String) : Adds (load taskId) := (Looks.load taskId).moves forward

theorem graph (workflowId : String) : Adds (graph workflowId) := (Looks.graph workflowId).moves forward

theorem startRun (taskId : String) : Adds (startRun taskId) := by
  intro s
  unfold Shop.startRun Tables.getTask
  rw [Work.run_bind_get]
  cases found : s.tables.task? taskId with
  | none => exact forward.refl s
  | some row =>
      have own := Tables.taskId_of_task? found
      have looked : (Shop.ofExcept (.ok row : Except Fault TaskRow)).run s = (.ok row, s) := rfl
      simp only
      rw [Work.run_bind_of_ok looked, Work.run_bind_get]
      cases s.tables.activeRun? row with
      | some run => exact .of_tables (Tables.extends_setRun _)
      | none => exact ⟨Tables.extends_openRun (own.symm ▸ found) _, rfl⟩

theorem finishRun (runId : String) (status : RunStatus) : Adds (finishRun runId status) :=
  .store (f := fun s => s.tables.finishRun runId status) (fun _ _ => Tables.extends_finishRun) (.pure _)

theorem announce (notice : Notice) : Adds (announce notice) := fun _ => .of_same rfl rfl

theorem announcePage (task : TaskRow) (page : Value) : Adds (announcePage task page) :=
  .bind .get fun _ => .bind (.ofExcept _) fun _ => .announce _

theorem tellOf (task : TaskRow) (previous : Lifecycle) (finish : Finish) (p : Progress) :
    Adds (tellOf task previous finish p) := by
  unfold Shop.tellOf
  refine .bind (.forM (.announcePage task) finish.pages) fun _ => ?_
  have changed : Adds (if p.lifecycle ≠ previous then
      Shop.announce (.lifecycle task.taskId previous p.lifecycle p.lastError) else Pure.pure ()) :=
    .ite (.announce _) (.pure _)
  exact .ite (.bind (.announce _) fun _ => changed) changed

theorem verify (taskId : String) : Adds (verify taskId) := (Looks.verify taskId).moves forward

theorem releasing {act : Work α} (adds : Adds act) (acquired : Bool) (taskId owner : String) :
    Adds (releasing acquired taskId owner act) := fun s =>
  forward.trans (adds s) (releasing_extends act acquired taskId owner s)

theorem leasedWrite (taskId : String) (owner : Option String) (span : Instant.Seconds)
    {write : Tables → Instant → Except Fault (Option Tables)}
    (extend : ∀ t now t', write t now = .ok (some t') → t.Extends t') :
    Adds (leasedWrite taskId owner span write) := by
  have written : Adds (do
      if !(← Shop.attempt write) then MonadExcept.throw (.leaseLost taskId (shownOption owner))) :=
    .bind (.attempt extend) fun landed => .ite (.throw _) (.pure _)
  cases owner with
  | none => exact written
  | some owner =>
      refine .bind (.attempt fun _ _ _ lands => (Tables.claim_ok lands).1) fun held => ?_
      cases held with
      | true => exact written
      | false => exact .throw _

end Adds

/-! ## Ticks -/

section Ticks

variable {perform : Request → StateM Shop Unit}
variable (adds : ∀ request (s : Shop), s.Extends (perform request s).2)

include adds

/-- Where the requests of callables only extend the tables, a runner works in a shop that only moves
forward. -/
theorem host_moves (runner : Runner) (taskId : String) :
    (host perform runner taskId).Moves Extends := fun start =>
  have along : ∀ {α : Type} {act : StateM Shop α}, (∀ s : Shop, s.Extends (act s).2) →
      Preserves (Extends start) act := fun moved s here => forward.trans here (moved s)
  { behaviour := Routine.behaviour_preserves (fun _ => along fun _ => .of_same rfl rfl)
      fun request => along (adds request)
    now := along forward.refl
    freshEventId := along fun _ => .of_same rfl rfl
    freshTickId := along fun _ => .of_same rfl rfl
    sleep := fun _ => along fun _ => .of_same rfl rfl
    checkpoint := fun _ => along (Adds.leasedWrite _ _ _ fun _ _ _ => Tables.extends_checkpoint)
    record := fun _ _ => along (Adds.leasedWrite _ _ _ fun _ _ _ lands => (Tables.record_ok lands).1) }

omit adds in
/-- What a runner does when an advance is over. -/
theorem advanced_extends (perform : Request → StateM Shop Unit) (runner : Runner) {task : TaskView}
    (g : Graph Code) (feedback : Option String) {s s' s'' : Shop} {p : Progress} {runId : String}
    (loaded : (load task.row.taskId).run s = (.ok p, s'))
    (started : (startRun task.row.taskId).run s' = (.ok runId, s'')) :
    Extends (Engine.advance (host perform runner task.row.taskId) runner.budget g task.row.info runId none
      feedback p s'').2 ((advanceTask perform runner task g feedback).run s).2 := by
  unfold advanceTask
  rw [Work.run_bind_of_ok loaded, Work.run_bind_of_ok started, Work.run_bind_of_lift]
  generalize Engine.advance (host perform runner task.row.taskId) runner.budget g task.row.info runId none
    feedback p s'' = advanced
  obtain ⟨⟨result, q⟩, left⟩ := advanced
  simp only
  cases result with
  | ok finish =>
      refine Adds.bind (.finishRun runId _) (fun _ => .bind (.tellOf _ _ finish q) fun _ => ?_) left
      exact .ite (.bind (.verify _) fun _ => .pure _) (.pure _)
  | error fault =>
      cases fault with
      | fatal cause taskId =>
          exact Adds.bind (.finishRun runId .failed)
            (fun _ => .bind (.announce _) fun _ => .pure _) left
      | _ => exact forward.refl left

theorem advanceTask_adds (runner : Runner) (task : TaskView) (g : Graph Code)
    (feedback : Option String) : Adds (advanceTask perform runner task g feedback) := by
  intro s
  have before := Adds.load task.row.taskId s
  cases loaded : (load task.row.taskId).run s with
  | mk result s' =>
      rw [loaded] at before
      cases result with
      | error fault =>
          unfold advanceTask
          rw [Work.run_bind_of_error loaded]
          exact before
      | ok p =>
          have begun := Adds.startRun task.row.taskId s'
          cases started : (startRun task.row.taskId).run s' with
          | mk result s'' =>
              rw [started] at begun
              have ready : s.Extends s'' := forward.trans before begun
              cases result with
              | error fault =>
                  unfold advanceTask
                  rw [Work.run_bind_of_ok loaded, Work.run_bind_of_error started]
                  exact ready
              | ok runId =>
                  have moved := Engine.advance_preserves (host_moves adds runner task.row.taskId s)
                    runner.budget g task.row.info runId none feedback p s'' ready
                  exact forward.trans moved (advanced_extends perform runner g feedback loaded started)

theorem tick_adds (runner : Runner) (taskId : String) (feedback : Option String) :
    Adds (tick perform runner taskId feedback) := by
  refine .bind (.getTask taskId) fun task => .ite (.pure _) (.ite (.pure _) ?_)
  refine .bind (.graph _) fun g => .bind (.attempt fun _ _ _ lands => (Tables.claim_ok lands).1) ?_
  exact fun acquired => .ite (.pure _) (.releasing (advanceTask_adds adds runner task g feedback) _ _ _)

theorem tickAll_adds (name : String) (runner : Runner) (summary : Summary) (taskIds : List String) :
    Adds (tickAll perform name runner summary taskIds) := by
  induction taskIds generalizing summary with
  | nil => exact .pure _
  | cons taskId rest ih =>
      intro s
      have ticked := tick_adds adds runner taskId none s
      have looked : (isStopped name).run s = (.ok (s.stopped.lookup name).isSome, s) := rfl
      unfold tickAll
      rw [Work.run_bind_of_ok looked]
      by_cases stopped : (s.stopped.lookup name).isSome = true
      · rw [if_pos stopped]
        exact forward.refl s
      · rw [if_neg stopped, Work.run_bind_get]
        generalize (tick perform runner taskId none).run s = came at ticked ⊢
        obtain ⟨result, after⟩ := came
        cases result with
        | ok report => exact forward.trans ticked (ih _ after)
        | error fault =>
            have goesOn : Adds (if isAbandonment fault then tickAll perform name runner summary.skip rest
                else throw fault) := .ite (ih _) (.throw _)
            exact forward.trans ticked (goesOn after)

theorem runOnce_adds (name : String) (runner : Runner) : Adds (runOnce perform name runner) := by
  refine .bind .get fun s => ?_
  cases s.tables.runnable none with
  | nil => exact .pure _
  | cons taskId rest => exact tickAll_adds adds name runner .zero (taskId :: rest)

theorem runLoop_adds (name : String) (runner : Runner) (maxTicks : Option Int) (maxIdlePolls : Int) :
    Adds (runLoop perform name runner maxTicks maxIdlePolls) :=
  runLoop_moves forward (fun _ _ => .of_same rfl rfl) (runOnce_adds adds name runner) maxTicks maxIdlePolls

end Ticks

/-! ## Requests -/

theorem runner_adds (name : Option String) : Adds (runner name) := (Looks.runner name).moves forward

theorem stop_extends (signal : String) (s : Shop) : s.Extends (stop signal s) := by
  unfold stop
  split <;> exact .of_same rfl rfl

theorem serveWith_adds {perform : Request → StateM Shop Unit}
    (adds : ∀ request (s : Shop), s.Extends (perform request s).2) (request : Request) :
    Adds (serveWith perform request) := by
  cases request with
  | create draft => exact .bind (.create draft) fun _ => .pure _
  | get taskId => exact .bind (.find? taskId) fun _ => .pure _
  | list lifecycle workflowId limit =>
      exact .bind (.ofExcept _) fun _ => .bind .get fun _ => .bind (.ofExcept _) fun _ => .pure _
  | runnable limit => exact .bind (.ofExcept _) fun _ => .bind .get fun _ => .pure _
  | load taskId => exact .bind (.load taskId) fun _ => .pure _
  | checkpoint taskId columns owner =>
      exact .bind (.attempt fun _ _ _ => Tables.extends_checkpoint) fun _ => .pure _
  | record row missing taskId columns owner =>
      exact .bind (.attempt fun _ _ _ lands => (Tables.record_ok lands).1) fun _ => .pure _
  | rows taskId => exact .bind .get fun _ => .pure _
  | reply taskId text =>
      exact .bind (.attempt fun _ _ _ => Tables.extends_submitReply) fun _ => .pure _
  | acquire taskId owner span =>
      exact .bind (.attempt fun _ _ _ lands => (Tables.claim_ok lands).1) fun _ => .pure _
  | renew taskId owner span =>
      exact .bind (.attempt fun _ _ _ lands => (Tables.claim_ok lands).1) fun _ => .pure _
  | release taskId owner => exact fun s => .of_tables (Tables.extends_release owner)
  | startRun taskId => exact .bind (.startRun taskId) fun _ => .pure _
  | finishRun runId status => exact .bind (.finishRun runId status) fun _ => .pure _
  | runStatus runId => exact .bind .get fun _ => .pure _
  | clock micros => exact fun s => .of_same rfl rfl
  | tick name taskId feedback =>
      exact .bind (runner_adds name) fun chosen =>
        .bind (tick_adds adds chosen.2 taskId feedback) fun _ => .pure _
  | runOnce name =>
      exact .bind (runner_adds name) fun chosen =>
        .bind (runOnce_adds adds chosen.1 chosen.2) fun _ => .pure _
  | runLoop name maxTicks maxIdlePolls =>
      exact .bind (runner_adds name) fun chosen =>
        .bind (runLoop_adds adds chosen.1 chosen.2 maxTicks maxIdlePolls) fun _ =>
          .bind .get fun _ => .pure _
  | verify name taskId =>
      exact .bind (runner_adds name) fun _ => .bind (.verify taskId) fun _ => .pure _
  | signal name => exact fun s => stop_extends name s
  | malformed fault => exact .throw fault

theorem perform_extends (depth : Nat) (request : Request) (s : Shop) :
    s.Extends (perform depth request s).2 := by
  induction depth generalizing request s with
  | zero => exact forward.refl s
  | succ depth ih =>
      have served := serveWith_adds ih request s
      show Extends s (if isSignal request then _ else _)
      split
      · exact served
      · exact ⟨served.tables, served.graphs⟩

/-- Whatever request a shop carries out: the ledger is continued, and every task stays where it is, in its
factory. -/
theorem serve_extends (request : Request) (s : Shop) : s.Extends ((serve request).run s).2 :=
  serveWith_adds (perform_extends nestingCeiling) request s

/-! ## Rows that are recorded -/

/-- A write under a lease, or without one, makes the write in tables that have the rows of before. -/
theorem leasedWrite_ok {taskId : String} {owner : Option String} {span : Instant.Seconds}
    {write : Tables → Instant → Except Fault (Option Tables)} {s after : Shop}
    (landed : (leasedWrite taskId owner span write).run s = (.ok (), after)) :
    ∃ t, t.rows = s.tables.rows ∧ write t s.now = .ok (some after.tables) := by
  obtain ⟨t, source, lands, -⟩ := leasedWrite_lands landed
  rcases source with rfl | ⟨owner, renewed⟩
  · exact ⟨s.tables, rfl, lands⟩
  · exact ⟨t, (Tables.claim_ok renewed).2, lands⟩

/-- A row that is recorded stands at the end of the ledger. -/
theorem rows_of_recorded {perform : Request → StateM Shop Unit} {runner : Runner} {taskId : String}
    {row : Transition} {p : Progress} {s after : Shop}
    (landed : ((host perform runner taskId).write (some row) p).run s = (.ok (), after)) :
    after.tables.rows = s.tables.rows ++ [row] := by
  obtain ⟨t, same, lands⟩ := leasedWrite_ok landed
  rw [(Tables.record_ok lands).2, same]

end Shop

end Tickwork
