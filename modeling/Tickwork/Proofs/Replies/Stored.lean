import Tickwork.Proofs.Documents
import Tickwork.Proofs.Invariants
import Tickwork.Proofs.LeasedTicks

/-!
# Replies in the tables

What the operations of a store do to the kept progress of a task. A reply is accepted only for a paused
task; then it is in the context that is kept, and the task is not paused any more. Leases and runs leave
the progress alone.
-/

set_option autoImplicit false

namespace Tickwork

/-! ## Kept progress -/

/-- A reply is in the context that is kept. -/
def Columns.Keeps (c : Columns) (text : String) : Prop :=
  ∃ fields, c.context = .dict fields ∧ Fields.get? replyKey fields = some (.str text)

/-- The context that is kept has been written. -/
def Columns.Written (c : Columns) : Prop := ∃ v, Columns.document v = .ok c.context

theorem Columns.Written.fields {c : Columns} (written : c.Written) {fields : Fields}
    (same : c.context = .dict fields) : fields.Texts ∧ fields.Distinct := by
  obtain ⟨v, kept⟩ := written
  rw [same] at kept
  have mapping : ∃ fields', v = .dict fields' := by
    unfold Columns.document at kept
    cases v with
    | dict fields' => exact ⟨fields', rfl⟩
    | list items =>
        unfold Value.toDocument at kept
        cases made : Value.toDocuments items with
        | error problem =>
            rw [made] at kept
            cases kept
        | ok documents =>
            rw [made] at kept
            cases kept
    | int n =>
        unfold Value.toDocument at kept
        split at kept <;> cases kept
    | _ => cases kept
  obtain ⟨fields', rfl⟩ := mapping
  obtain ⟨back, same', texts, distinct, -⟩ := Columns.document_dict kept
  cases same'
  exact ⟨texts, distinct⟩

/-- What is stored of columns differs from them in its documents only. -/
theorem Columns.stored_eq {c stored : Columns} (kept : c.stored = .ok stored) :
    ∃ context attempts loopIterations, Columns.document c.context = .ok context ∧
      Columns.document c.attempts = .ok attempts ∧ Columns.document c.loopIterations = .ok loopIterations ∧
      stored = { c with context, attempts, loopIterations } := by
  unfold Columns.stored at kept
  cases context : Columns.document c.context with
  | error fault =>
      rw [context] at kept
      cases kept
  | ok v =>
      rw [context] at kept
      cases attempts : Columns.document c.attempts with
      | error fault =>
          rw [attempts] at kept
          cases kept
      | ok v' =>
          rw [attempts] at kept
          cases rounds : Columns.document c.loopIterations with
          | error fault =>
              rw [rounds] at kept
              cases kept
          | ok v'' =>
              rw [rounds] at kept
              simp only [bind, Except.bind] at kept
              split at kept <;> cases kept
              exact ⟨v, v', v'', rfl, rfl, rfl, rfl⟩

theorem Columns.stored_ok {c stored : Columns} (kept : c.stored = .ok stored) :
    stored.lifecycle = c.lifecycle ∧ stored.Written := by
  obtain ⟨context, attempts, loopIterations, written, -, -, rfl⟩ := Columns.stored_eq kept
  exact ⟨rfl, _, written⟩

theorem mappingColumn_ok {v : Value} {fields : Fields} (read : mappingColumn v = .ok fields) :
    v = .dict fields := by
  unfold mappingColumn at read
  split at read <;> cases read
  rfl

/-- The progress that is read out of a row differs from it in what is kept as documents only. -/
theorem TaskRow.progress_eq {row : TaskRow} {p : Progress} (read : row.progress = .ok p) :
    ∃ context attempts loopIterations, row.columns.context = .dict context ∧
      p =
        { taskId := row.taskId
          workflowId := row.workflowId
          currentStateId := row.columns.currentStateId
          context
          lifecycle := row.columns.lifecycle
          attempts
          loopIterations
          lastError := row.columns.lastError
          terminalStateId := row.columns.terminalStateId
          waitingSince := row.columns.waitingSince
          transitionCount := row.columns.transitionCount } := by
  unfold TaskRow.progress at read
  simp only at read
  cases context : mappingColumn row.columns.context with
  | error fault =>
      rw [context] at read
      cases read
  | ok fields =>
      rw [context] at read
      cases attempts : counterColumn row.columns.attempts with
      | error fault =>
          simp only [bind, Except.bind, attempts] at read
          cases read
      | ok counters =>
          cases rounds : counterColumn row.columns.loopIterations with
          | error fault =>
              simp only [bind, Except.bind, attempts, rounds] at read
              cases read
          | ok counters' =>
              simp only [bind, Except.bind, attempts, rounds] at read
              cases read
              exact ⟨fields, counters, counters', mappingColumn_ok context, rfl⟩

theorem TaskRow.progress_ok {row : TaskRow} {p : Progress} (read : row.progress = .ok p) :
    p.taskId = row.taskId ∧ row.columns.context = .dict p.context ∧
      row.columns.lifecycle = p.lifecycle := by
  obtain ⟨fields, attempts, loopIterations, context, rfl⟩ := TaskRow.progress_eq read
  exact ⟨rfl, context, rfl⟩

namespace Tables

def columns? (t : Tables) (taskId : String) : Option Columns := (t.task? taskId).map TaskRow.columns

variable {t after : Tables} {taskId : String} {now : Instant}

theorem columns?_setTask {row changed : TaskRow} (found : t.task? taskId = some row)
    (same : changed.taskId = row.taskId) :
    (t.setTask changed).columns? taskId = some changed.columns := by
  simp [columns?, task?_setTask found (same.trans (taskId_of_task? found))]

theorem columns?_setTask_same {row : TaskRow} (changed : TaskRow)
    (found : t.task? changed.taskId = some row) (same : changed.columns = row.columns) (id : String) :
    (t.setTask changed).columns? id = t.columns? id := by
  by_cases own : changed.taskId = id
  · subst own
    rw [columns?_setTask found (taskId_of_task? found).symm, same, columns?, found, Option.map_some]
  · rw [columns?, task?_setTask_other own, columns?]

theorem updateIf_some {condition : TaskRow → Bool} {change : TaskRow → TaskRow}
    (lands : t.updateIf taskId condition change = some after) :
    ∃ row, t.task? taskId = some row ∧ condition row = true ∧ after = t.setTask (change row) := by
  unfold updateIf at lands
  cases found : t.task? taskId with
  | none =>
      rw [found] at lands
      cases lands
  | some row =>
      rw [found] at lands
      simp only at lands
      split at lands <;> cases lands
      exact ⟨row, rfl, ‹_›, rfl⟩

/-- What adds a task: one row, under a name that no task has, with the columns of a task that has not begun. -/
theorem create_ok {draft : TaskDraft} (created : t.create now taskId draft = .ok after) :
    ∃ context row, Columns.document draft.context = .ok context ∧ t.task? taskId = none ∧
      row.taskId = taskId ∧ row.columns = .fresh context ∧ row.activeRunId = none ∧
      after = { t with tasks := t.tasks ++ [row] } := by
  unfold create at created
  cases kept : Columns.document draft.context with
  | error fault =>
      rw [kept] at created
      cases created
  | ok context =>
      rw [kept] at created
      simp only [bind, Except.bind] at created
      split at created
      · cases created
      · split at created
        · cases created
        · rename_i new
          cases created
          exact ⟨context, _, rfl, Option.not_isSome_iff_eq_none.mp new, rfl, rfl, rfl, rfl⟩

theorem columns?_updateIf {id : String} {condition : TaskRow → Bool} {change : TaskRow → TaskRow}
    (lands : t.updateIf id condition change = some after)
    (same : ∀ row, (change row).taskId = row.taskId ∧ (change row).columns = row.columns) :
    after.columns? taskId = t.columns? taskId := by
  obtain ⟨row, found, -, rfl⟩ := updateIf_some lands
  have own : (change row).taskId = id := (same row).1.trans (taskId_of_task? found)
  exact columns?_setTask_same _ (own.symm ▸ found) (same row).2 taskId

theorem columns?_claim {owner id : String} {span : Instant.Seconds} {condition : TaskRow → Bool}
    (lands : (do
      let expiresAt ← expiry now span
      .ok (t.updateIf id condition fun row => { row with lease := some ⟨owner, expiresAt⟩ })) =
        Except.ok (some after)) : after.columns? taskId = t.columns? taskId := by
  cases ends : expiry now span with
  | error fault =>
      rw [ends] at lands
      cases lands
  | ok ending =>
      rw [ends] at lands
      exact columns?_updateIf (Except.ok.inj lands) fun _ => ⟨rfl, rfl⟩

theorem columns?_release (owner id : String) :
    (t.release id owner).columns? taskId = t.columns? taskId := by
  unfold release
  cases lands : t.updateIf id (heldBy (some owner)) fun row => { row with lease := none } with
  | none => rfl
  | some after => exact columns?_updateIf lands fun _ => ⟨rfl, rfl⟩

theorem columns?_openRun {row : TaskRow} (found : t.task? row.taskId = some row) (runId : String) :
    (t.openRun now row runId).columns? taskId = t.columns? taskId := by
  have found' : Tables.task? { t with runs := t.runs ++ [⟨runId, row.taskId, .running, false⟩] }
      row.taskId = some row := found
  exact columns?_setTask_same { row with activeRunId := some runId, updatedAt := now } found' rfl
    taskId

theorem columns?_finishRun {runId : String} {status : RunStatus}
    (lands : t.finishRun runId status = .ok after) : after.columns? taskId = t.columns? taskId := by
  unfold finishRun at lands
  split at lands <;> cases lands
  rfl

theorem columns?_addRow {row : Transition} {missing : Option String}
    (lands : t.addRow row missing = .ok after) : after.columns? taskId = t.columns? taskId := by
  unfold addRow at lands
  repeat' split at lands
  all_goals cases lands
  rfl

/-! ## Writes of progress -/

theorem columns?_guardedWrite {owner : String} {row : Option Transition} {p : Progress}
    (lands : Shop.guardedWrite owner row p t now = .ok (some after)) :
    ∃ c, after.columns? p.taskId = some c ∧ c.lifecycle = p.lifecycle ∧ c.Written := by
  have checkpointed : ∀ middle, t.checkpoint now p.taskId p.columns (some owner) = .ok (some middle) →
      ∃ c, middle.columns? p.taskId = some c ∧ c.lifecycle = p.lifecycle ∧ c.Written := by
    intro middle lands
    unfold checkpoint at lands
    cases kept : p.columns.stored with
    | error fault =>
        rw [kept] at lands
        cases lands
    | ok columns =>
        rw [kept] at lands
        obtain ⟨stage, written⟩ := Columns.stored_ok kept
        obtain ⟨row, found, -, rfl⟩ := updateIf_some (Except.ok.inj lands)
        exact ⟨columns, columns?_setTask found rfl, stage, written⟩
  cases row with
  | none => exact checkpointed after lands
  | some row =>
      unfold Shop.guardedWrite record at lands
      simp only at lands
      cases kept : t.checkpoint now p.taskId p.columns (some owner) with
      | error fault =>
          rw [kept] at lands
          cases lands
      | ok landed =>
          rw [kept] at lands
          cases landed with
          | none => cases lands
          | some middle =>
              simp only [bind, Except.bind] at lands
              cases added : middle.addRow row none with
              | error fault =>
                  rw [added] at lands
                  cases lands
              | ok t' =>
                  rw [added] at lands
                  cases lands
                  rw [columns?_addRow added]
                  exact checkpointed middle kept

/-- A reply that is accepted was given to a paused task; it is kept, and the task goes on. -/
theorem columns?_submitReply {text : String} (written : ∀ c, t.columns? taskId = some c → c.Written)
    (lands : t.submitReply now taskId text = .ok (some after)) :
    (∃ c, t.columns? taskId = some c ∧ c.lifecycle = .feedback) ∧
      ∃ c, after.columns? taskId = some c ∧ c.lifecycle = .running ∧ c.Written ∧ c.Keeps text := by
  unfold submitReply getTask at lands
  cases found : t.task? taskId with
  | none =>
      rw [found] at lands
      cases lands
  | some row =>
      rw [found] at lands
      have here : t.columns? taskId = some row.columns := by rw [columns?, found, Option.map_some]
      simp only [bind, Except.bind] at lands
      cases read : mappingColumn row.columns.context with
      | error fault =>
          rw [read] at lands
          cases lands
      | ok seen =>
          rw [read] at lands
          simp only at lands
          have same := mappingColumn_ok read
          obtain ⟨texts, distinct⟩ := (written _ here).fields same
          cases kept : Columns.document (.dict (Fields.put replyKey (.str text) seen)) with
          | error fault =>
              rw [kept] at lands
              cases lands
          | ok context =>
              rw [kept] at lands
              obtain ⟨row', found', paused, rfl⟩ := updateIf_some (Except.ok.inj lands)
              obtain rfl : row = row' := Option.some.inj (found.symm.trans found')
              obtain ⟨fields, rfl, -, -, settles⟩ := Columns.document_dict kept
              have stage := of_decide_eq_true (Bool.and_eq_true_iff.mp paused).1
              exact ⟨⟨_, here, stage⟩, _, columns?_setTask found rfl, rfl,
                ⟨_, kept⟩, fields, rfl, settles _ _ (texts.put _ _) (Fields.settled_put distinct)⟩

end Tables

/-! ## Work that only looks -/

namespace Shop

variable {α : Type}

/-- Work that leaves the shop as it is. -/
abbrev Looks (act : Work α) : Prop := Work.Moves (fun s s' : Shop => s' = s) act

namespace Looks

theorem forward : Forward fun s s' : Shop => s' = s := ⟨fun _ => rfl, fun first second => second.trans first⟩

/-- Work that only looks goes forward in every way. -/
theorem moves {ahead : Shop → Shop → Prop} {act : Work α} (looks : Looks act) (goes : Forward ahead) :
    Work.Moves ahead act := fun s => by
  rw [looks s]
  exact goes.refl s

theorem ofExcept (r : Except Fault α) : Looks (ofExcept r) := by
  cases r <;> exact fun _ => rfl

theorem find? (taskId : String) : Looks (find? taskId) := by
  refine .bind forward (.get forward) fun s => ?_
  cases s.tables.task? taskId with
  | none => exact .pure forward _
  | some row => exact .bind forward (ofExcept _) fun _ => .pure forward _

theorem getTask (taskId : String) : Looks (getTask taskId) := by
  refine .bind forward (find? taskId) fun found => ?_
  cases found with
  | none => exact .throw forward _
  | some view => exact .pure forward _

theorem load (taskId : String) : Looks (load taskId) :=
  .bind forward (.get forward) fun _ => .bind forward (ofExcept _) fun _ => ofExcept _

theorem graph (workflowId : String) : Looks (graph workflowId) := by
  refine .bind forward (.get forward) fun s => ?_
  cases s.graphs.lookup workflowId with
  | none => exact .throw forward _
  | some g => exact .pure forward _

theorem verify (taskId : String) : Looks (verify taskId) :=
  .bind forward (getTask taskId) fun _ => .bind forward (graph _) fun _ => .bind forward (.get forward) fun _ =>
    .bind forward (load taskId) fun _ => ofExcept _

theorem runner (name : Option String) : Looks (runner name) := by
  refine .bind forward (.get forward) fun s => ?_
  cases name with
  | none =>
      cases s.runners.head? with
      | none => exact .throw forward _
      | some entry => exact .pure forward _
  | some name =>
      simp only
      cases s.runners.lookup name with
      | none => exact .throw forward _
      | some settings => exact .pure forward _

end Looks

end Shop

/-! ## Work that leaves the progress alone -/

namespace Shop

variable {α β : Type}

/-- Work that leaves the progress of a task alone. -/
def LeavesTask (taskId : String) (act : Work α) : Prop :=
  ∀ s : Shop, (act.run s).2.tables.columns? taskId = s.tables.columns? taskId

theorem run_load (taskId : String) (s : Shop) :
    ∃ result, (load taskId).run s = (result, s) ∧ ∀ p, result = .ok p → p.taskId = taskId ∧
      ∃ c, s.tables.columns? taskId = some c ∧ c.context = .dict p.context ∧
        c.lifecycle = p.lifecycle := by
  unfold load Tables.getTask
  rw [Work.run_bind_get]
  cases found : s.tables.task? taskId with
  | none => exact ⟨.error (.taskNotFound taskId), rfl, nofun⟩
  | some row =>
      have looked : (ofExcept (.ok row : Except Fault TaskRow)).run s = (.ok row, s) := rfl
      simp only
      rw [Work.run_bind_of_ok looked]
      cases read : row.progress with
      | error fault => exact ⟨.error fault, rfl, nofun⟩
      | ok p =>
          refine ⟨.ok p, rfl, ?_⟩
          rintro _ ⟨⟩
          obtain ⟨own, context, stage⟩ := TaskRow.progress_ok read
          refine ⟨own.trans (Tables.taskId_of_task? found), row.columns, ?_, context, stage⟩
          rw [Tables.columns?, found, Option.map_some]

/-- What is left of a shop that was to register a task: a name was drawn at most, and the task was added or
not. -/
theorem run_create (draft : TaskDraft) (s : Shop) :
    ∃ count t, s.rowCount ≤ count ∧ ((create draft).run s).2 = { s with rowCount := count, tables := t } ∧
      (t = s.tables ∨ ∃ taskId, s.tables.create s.now taskId draft = .ok t) := by
  have shown : ∀ (taskId : String) (s : Shop),
      ((ofExcept (s.tables.getTask taskId) >>= fun row => ofExcept row.view : Work TaskView).run s).2 = s := by
    intro taskId s
    cases s.tables.getTask taskId with
    | error fault => rfl
    | ok row =>
        have seen : (ofExcept (.ok row : Except Fault TaskRow)).run s = (.ok row, s) := rfl
        rw [Work.run_bind_of_ok seen]
        cases row.view <;> rfl
  have stored : ∀ (taskId : String) (s : Shop), ∃ t,
      ((do
        let s ← MonadState.get
        setTables (← ofExcept (s.tables.create s.now taskId draft))
        let row ← ofExcept ((← MonadState.get).tables.getTask taskId)
        ofExcept row.view : Work TaskView).run s).2 = { s with tables := t } ∧
      (t = s.tables ∨ s.tables.create s.now taskId draft = .ok t) := by
    intro taskId s
    rw [Work.run_bind_get]
    cases made : s.tables.create s.now taskId draft with
    | error fault => exact ⟨_, rfl, .inl rfl⟩
    | ok t =>
        have given : (ofExcept (.ok t : Except Fault Tables)).run s = (.ok t, s) := rfl
        have put : (setTables t).run s = (.ok (), { s with tables := t }) := rfl
        rw [Work.run_bind_of_ok given, Work.run_bind_of_ok put, Work.run_bind_get]
        exact ⟨t, shown taskId _, .inr rfl⟩
  unfold create
  cases firstNonempty [draft.taskId] with
  | some id =>
      obtain ⟨t, left, made⟩ := stored id s
      exact ⟨_, t, Nat.le_refl _, left, made.imp_right fun added => ⟨id, added⟩⟩
  | none =>
      obtain ⟨t, left, made⟩ := stored s!"rid-{s.rowCount + 1}" { s with rowCount := s.rowCount + 1 }
      exact ⟨_, t, Nat.le_succ _, left, made.imp_right fun added => ⟨_, added⟩⟩

theorem run_load_found {s : Shop} {taskId : String} {row : TaskRow} (found : s.tables.task? taskId = some row) :
    (load taskId).run s = (row.progress, s) := by
  unfold load Tables.getTask
  have looked : (ofExcept (.ok row : Except Fault TaskRow)).run s = (.ok row, s) := rfl
  rw [Work.run_bind_get]
  simp only [found]
  rw [Work.run_bind_of_ok looked]
  cases row.progress <;> rfl

namespace LeavesTask

variable {taskId : String}

theorem forward : Forward fun s s' : Shop => s'.tables.columns? taskId = s.tables.columns? taskId where
  refl _ := rfl
  trans first second := second.trans first

theorem pure (a : α) : LeavesTask taskId (Pure.pure a) := fun _ => rfl

theorem throw (fault : Fault) : LeavesTask taskId (throw fault : Work α) := fun _ => rfl

theorem get : LeavesTask taskId (get : Work Shop) := fun _ => rfl

theorem bind {act : Work α} {next : α → Work β} (first : LeavesTask taskId act)
    (later : ∀ a, LeavesTask taskId (next a)) : LeavesTask taskId (act >>= next) :=
  Work.Moves.bind forward first later

theorem ite {condition : Prop} [Decidable condition] {yes no : Work α}
    (first : LeavesTask taskId yes) (second : LeavesTask taskId no) :
    LeavesTask taskId (if condition then yes else no) := by
  split
  · exact first
  · exact second

theorem forM {act : α → Work Unit} (each : ∀ item, LeavesTask taskId (act item)) (items : List α) :
    LeavesTask taskId (items.forM act) :=
  Work.Moves.forM forward each items

theorem ofExcept (r : Except Fault α) : LeavesTask taskId (ofExcept r) := (Looks.ofExcept r).moves forward

theorem attempt {write : Tables → Instant → Except Fault (Option Tables)}
    (same : ∀ t now t', write t now = .ok (some t') → t'.columns? taskId = t.columns? taskId) :
    LeavesTask taskId (Shop.attempt write) := by
  intro s
  rw [run_attempt]
  cases came : write s.tables s.now with
  | error fault => rfl
  | ok landed =>
      cases landed with
      | none => rfl
      | some t => exact same _ _ _ came

theorem find? (id : String) : LeavesTask taskId (find? id) := (Looks.find? id).moves forward

theorem getTask (id : String) : LeavesTask taskId (getTask id) := (Looks.getTask id).moves forward

theorem load (id : String) : LeavesTask taskId (load id) := (Looks.load id).moves forward

theorem graph (id : String) : LeavesTask taskId (graph id) := (Looks.graph id).moves forward

theorem verify (id : String) : LeavesTask taskId (verify id) := (Looks.verify id).moves forward

theorem runner (name : Option String) : LeavesTask taskId (runner name) := (Looks.runner name).moves forward

theorem announce (notice : Notice) : LeavesTask taskId (announce notice) := fun _ => rfl

theorem startRun (id : String) : LeavesTask taskId (startRun id) := by
  intro s
  unfold Shop.startRun Tables.getTask
  rw [Work.run_bind_get]
  cases found : s.tables.task? id with
  | none => rfl
  | some row =>
      have own := Tables.taskId_of_task? found
      have looked : (Shop.ofExcept (.ok row : Except Fault TaskRow)).run s = (.ok row, s) := rfl
      simp only
      rw [Work.run_bind_of_ok looked, Work.run_bind_get]
      cases s.tables.activeRun? row with
      | some run => rfl
      | none => exact Tables.columns?_openRun (own.symm ▸ found) _

theorem finishRun (runId : String) (status : RunStatus) :
    LeavesTask taskId (finishRun runId status) := by
  intro s
  unfold Shop.finishRun
  rw [Work.run_bind_get]
  cases noted : s.tables.finishRun runId status with
  | error fault => rfl
  | ok t => exact Tables.columns?_finishRun noted

theorem announcePage (task : TaskRow) (page : Value) : LeavesTask taskId (announcePage task page) :=
  .bind .get fun _ => .bind (.ofExcept _) fun _ => .announce _

theorem tellOf (task : TaskRow) (previous : Lifecycle) (finish : Finish) (p : Progress) :
    LeavesTask taskId (tellOf task previous finish p) := by
  unfold Shop.tellOf
  refine .bind (.forM (.announcePage task) finish.pages) fun _ => ?_
  have changed : LeavesTask taskId (if p.lifecycle ≠ previous then
      Shop.announce (.lifecycle task.taskId previous p.lifecycle p.lastError) else Pure.pure ()) :=
    .ite (.announce _) (.pure _)
  exact .ite (.bind (.announce _) fun _ => changed) changed

end LeavesTask

end Shop

end Tickwork
