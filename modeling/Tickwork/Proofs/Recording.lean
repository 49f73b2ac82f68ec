import Tickwork.Proofs.AppendOnly

/-!
# Whole writes

A write of progress with a ledger row lands with both or with neither. `Tables.Admits` says which rows
the ledger takes, `Tables.Recorded` what a write that landed has changed. Main statement: whatever row,
progress and lease a shop is asked to record, the answer is that it landed, and then the columns of the
task are the new ones and the ledger of the row's task has that row at its end, or it is another one and
the shop is as it was; and whatever is asked of a shop, one request after the other, every ledger that it
answers with continues the one it answered with before.
-/

set_option autoImplicit false

namespace Tickwork

/-! ## Rows that are admitted -/

namespace Tables

variable {t after : Tables} {now : Instant} {taskId : String} {row : Transition} {missing : Option String}
  {columns : Columns} {owner : Option String}

/-- The ledger takes a row: its reason is one of the known ones, its counters fit, no column is missing,
its id is new, and its run and its task are there. -/
structure Admits (t : Tables) (row : Transition) (missing : Option String) : Prop where
  known : ∃ reason, row.reason = .known reason
  fits : fitsColumn row.attempt = true ∧ fitsColumn row.loopIteration = true
  whole : missing = none
  new : ∀ old ∈ t.rows, old.eventId ≠ row.eventId
  run : ∃ run, t.run? row.runId = some run
  task : ∃ task, t.task? row.taskId = some task

/-- A row is added exactly if it is admitted, and then it stands at the end. -/
theorem addRow_iff :
    t.addRow row missing = .ok after ↔
      t.Admits row missing ∧ after = { t with rows := t.rows ++ [row] } := by
  constructor
  · intro added
    unfold addRow at added
    split at added
    · cases added
    · rename_i reason known
      split at added
      · cases added
      · rename_i fits
        split at added
        · cases added
        · split at added
          · cases added
          · rename_i new
            split at added
            · cases added
            · rename_i there
              simp only [Bool.not_eq_true', Bool.not_eq_false, Bool.and_eq_true] at fits
              simp only [Bool.or_eq_true, not_or, Option.isNone_iff_eq_none, ← ne_eq,
                Option.ne_none_iff_exists'] at there
              refine ⟨⟨⟨reason, known⟩, fits, rfl, fun old inside same => new ?_, there.1, there.2⟩,
                (Except.ok.inj added).symm⟩
              exact List.any_eq_true.mpr ⟨old, inside, beq_iff_eq.mpr same⟩
  · rintro ⟨⟨⟨reason, known⟩, ⟨attempt, iteration⟩, rfl, new, ⟨run, hasRun⟩, ⟨task, hasTask⟩⟩, rfl⟩
    have fresh : (t.rows.any fun old => old.eventId == row.eventId) = false := by
      simpa using new
    simp [addRow, known, attempt, iteration, fresh, hasRun, hasTask]

/-- A row that replaces the row of its task takes no task away and brings none. -/
theorem task?_setTask_iff {old changed : TaskRow} (found : t.task? changed.taskId = some old)
    (id : String) :
    (∃ task, (t.setTask changed).task? id = some task) ↔ ∃ task, t.task? id = some task := by
  by_cases own : changed.taskId = id
  · subst own
    exact ⟨fun _ => ⟨old, found⟩, fun _ => ⟨changed, task?_setTask found rfl⟩⟩
  · rw [task?_setTask_other own]

theorem Admits.of_same {other : Tables} (admitted : t.Admits row missing) (rows : other.rows = t.rows)
    (runs : other.runs = t.runs) (task : ∃ task, other.task? row.taskId = some task) :
    other.Admits row missing where
  known := admitted.known
  fits := admitted.fits
  whole := admitted.whole
  new := rows ▸ admitted.new
  run := by simpa only [run?, runs] using admitted.run
  task := task

/-- Whether a row is admitted does not depend on the progress of a task. -/
theorem admits_setTask {old changed : TaskRow} (found : t.task? changed.taskId = some old) :
    (t.setTask changed).Admits row missing ↔ t.Admits row missing := by
  have tasks := task?_setTask_iff found row.taskId
  exact ⟨fun admitted => admitted.of_same rfl rfl (tasks.mp admitted.task),
    fun admitted => admitted.of_same rfl rfl (tasks.mpr admitted.task)⟩

/-! ## Writes with a row -/

/-- A write of progress lands exactly if its columns can be stored and its task may be written. -/
theorem checkpoint_iff :
    t.checkpoint now taskId columns owner = .ok (some after) ↔
      ∃ kept old, columns.stored = .ok kept ∧ t.task? taskId = some old ∧ heldBy owner old = true ∧
        after = t.setTask { old with columns := kept, updatedAt := now } := by
  unfold checkpoint
  cases stored : columns.stored with
  | error fault =>
      constructor
      · intro lands
        cases lands
      · rintro ⟨kept, old, made, -⟩
        cases made
  | ok kept =>
      constructor
      · intro lands
        obtain ⟨old, found, held, rfl⟩ := updateIf_some (Except.ok.inj lands)
        exact ⟨kept, old, rfl, found, held, rfl⟩
      · rintro ⟨_, old, ⟨⟩, found, held, rfl⟩
        exact congrArg Except.ok (updateIf_of_met found held)

/-- What a write of progress with a row needs to land. -/
structure Lands (t : Tables) (row : Transition) (missing : Option String) (taskId : String)
    (columns : Columns) (owner : Option String) : Prop where
  stored : ∃ kept, columns.stored = .ok kept
  held : ∃ old, t.task? taskId = some old ∧ heldBy owner old = true
  admitted : t.Admits row missing

/-- What a write of progress with a row changes when it lands: the columns of the task, to the new ones,
and the ledger of the row's task, which has that row after its others. -/
structure Recorded (before : Tables) (now : Instant) (row : Transition) (taskId : String)
    (columns : Columns) (after : Tables) : Prop where
  progress : ∃ old kept, before.task? taskId = some old ∧ columns.stored = .ok kept ∧
    after.task? taskId = some { old with columns := kept, updatedAt := now }
  ledger : after.rowsFor row.taskId = before.rowsFor row.taskId ++ [row]
  once : after.rows.filter (fun entry => entry.eventId == row.eventId) = [row]
  otherTasks : ∀ id, id ≠ taskId → after.task? id = before.task? id
  otherLedgers : ∀ id, id ≠ row.taskId → after.rowsFor id = before.rowsFor id
  runs : after.runs = before.runs

theorem rowsFor_append (rows : List Transition) (id : String) :
    rowsFor { t with rows := t.rows ++ rows } id =
      t.rowsFor id ++ rows.filter fun entry => entry.taskId == id :=
  List.filter_append ..

theorem recorded_of_admitted {old : TaskRow} {kept : Columns} (stored : columns.stored = .ok kept)
    (found : t.task? taskId = some old) (admitted : t.Admits row missing) :
    t.Recorded now row taskId columns
      { t.setTask { old with columns := kept, updatedAt := now } with rows := t.rows ++ [row] } where
  progress := by
    have its := taskId_of_task? found
    have own : TaskRow.taskId { old with columns := kept, updatedAt := now } = taskId := its
    exact ⟨old, kept, found, stored, task?_setTask found own⟩
  ledger := by
    refine (rowsFor_append (t := t) [row] row.taskId).trans ?_
    simp
  once := by
    have others : t.rows.filter (fun entry => entry.eventId == row.eventId) = [] := by
      simpa [List.filter_eq_nil_iff] using admitted.new
    simp [List.filter_append, others]
  otherTasks id other := by
    have its : old.taskId ≠ id := fun same => other (same.symm.trans (taskId_of_task? found))
    have apart : TaskRow.taskId { old with columns := kept, updatedAt := now } ≠ id := its
    exact task?_setTask_other apart
  otherLedgers id other := by
    refine (rowsFor_append (t := t) [row] id).trans ?_
    simp [other.symm]
  runs := rfl

/-- A write of progress with a row writes the progress and then adds the row. -/
theorem record_ok_iff :
    t.record now row missing taskId columns owner = .ok (some after) ↔
      ∃ middle, t.checkpoint now taskId columns owner = .ok (some middle) ∧
        middle.addRow row missing = .ok after := by
  unfold record
  constructor
  · intro lands
    cases wrote : t.checkpoint now taskId columns owner with
    | error fault =>
        rw [wrote] at lands
        cases lands
    | ok landed =>
        rw [wrote] at lands
        cases landed with
        | none => cases lands
        | some middle =>
            simp only [bind, Except.bind] at lands
            cases added : middle.addRow row missing with
            | error fault =>
                rw [added] at lands
                cases lands
            | ok t' =>
                rw [added] at lands
                cases lands
                exact ⟨middle, rfl, added⟩
  · rintro ⟨middle, wrote, added⟩
    simp only [wrote, added, bind, Except.bind]

/-- A write of progress with a row lands exactly if it may, and changes what `Recorded` says. -/
theorem record_iff :
    (∃ after, t.record now row missing taskId columns owner = .ok (some after)) ↔
      t.Lands row missing taskId columns owner := by
  constructor
  · rintro ⟨after, lands⟩
    obtain ⟨middle, wrote, added⟩ := record_ok_iff.mp lands
    obtain ⟨kept, old, stored, found, held, rfl⟩ := checkpoint_iff.mp wrote
    have own := taskId_of_task? found
    have admitted := (addRow_iff.mp added).1
    exact ⟨⟨kept, stored⟩, ⟨old, found, held⟩, (admits_setTask (by rwa [own])).mp admitted⟩
  · rintro ⟨⟨kept, stored⟩, ⟨old, found, held⟩, admitted⟩
    have own := taskId_of_task? found
    have wrote : t.checkpoint now taskId columns owner =
        .ok (some (t.setTask { old with columns := kept, updatedAt := now })) :=
      checkpoint_iff.mpr ⟨kept, old, stored, found, held, rfl⟩
    have admitted' : (t.setTask { old with columns := kept, updatedAt := now }).Admits row missing :=
      (admits_setTask (by rwa [own])).mpr admitted
    exact ⟨_, record_ok_iff.mpr ⟨_, wrote, addRow_iff.mpr ⟨admitted', rfl⟩⟩⟩

theorem recorded_of_record
    (lands : t.record now row missing taskId columns owner = .ok (some after)) :
    t.Recorded now row taskId columns after := by
  obtain ⟨middle, wrote, added⟩ := record_ok_iff.mp lands
  obtain ⟨kept, old, stored, found, -, rfl⟩ := checkpoint_iff.mp wrote
  obtain ⟨admitted, rfl⟩ := addRow_iff.mp added
  have own := taskId_of_task? found
  exact recorded_of_admitted stored found ((admits_setTask (by rwa [own])).mp admitted)

/-- A ledger whose rows go on goes on for every task. -/
theorem Extends.rowsFor {before after : Tables} (extended : before.Extends after) (id : String) :
    before.rowsFor id <+: after.rowsFor id := by
  obtain ⟨more, same⟩ := extended.rows
  refine ⟨more.filter fun entry => entry.taskId == id, ?_⟩
  unfold Tables.rowsFor
  rw [← List.filter_append, same]

end Tables

/-! ## Requests one after the other -/

/-- A request to write the progress of a task, with a row for the ledger or without one. -/
inductive Request.Sets (taskId : String) (columns : Columns) : Request → Prop
  | checkpoint (owner : Option String) : Sets taskId columns (.checkpoint taskId columns owner)
  | record (row : Transition) (missing owner : Option String) :
      Sets taskId columns (.record row missing taskId columns owner)

namespace Shop

/-- The shop after some requests, whatever their answers are. -/
def serveAll (requests : List Request) (s : Shop) : Shop :=
  requests.foldl (fun s request => ((serve request).run s).2) s

theorem serveAll_extends (requests : List Request) (s : Shop) : s.Extends (serveAll requests s) := by
  induction requests generalizing s with
  | nil => exact forward.refl s
  | cons request rest ih => exact forward.trans (serve_extends request s) (ih _)

/-- What is answered to a write that may not land, and the shop after it. -/
def settled (s : Shop) : Except Fault (Option Tables) → Except Fault Response × Shop
  | .error fault => (.error fault, s)
  | .ok none => (.ok (.landed false), s)
  | .ok (some t) => (.ok (.landed true), { s with tables := t })

theorem run_landed (write : Tables → Instant → Except Fault (Option Tables)) (s : Shop) :
    (attempt write >>= fun landed => pure (Response.landed landed) : Work Response).run s =
      s.settled (write s.tables s.now) := by
  rw [Work.run_bind, run_attempt]
  cases write s.tables s.now with
  | error fault => rfl
  | ok landed => cases landed <;> rfl

theorem run_serve_checkpoint (taskId : String) (columns : Columns) (owner : Option String) (s : Shop) :
    (serve (.checkpoint taskId columns owner)).run s =
      s.settled (s.tables.checkpoint s.now taskId columns owner) :=
  run_landed (fun t now => t.checkpoint now taskId columns owner) s

theorem run_serve_record (row : Transition) (missing : Option String) (taskId : String)
    (columns : Columns) (owner : Option String) (s : Shop) :
    (serve (.record row missing taskId columns owner)).run s =
      s.settled (s.tables.record s.now row missing taskId columns owner) :=
  run_landed (fun t now => t.record now row missing taskId columns owner) s

/-- A write that is answered to have landed has landed. -/
theorem landed_of_settled {s after : Shop} {written : Except Fault (Option Tables)}
    (ran : s.settled written = (.ok (.landed true), after)) : written = .ok (some after.tables) := by
  cases written with
  | error fault => cases ran
  | ok landed =>
      cases landed with
      | none => cases ran
      | some t =>
          cases ran
          rfl

/-- Whatever row, progress and lease are to be recorded: the write lands exactly if its columns can be
stored, its task is there and may be written, and the row is admitted. Then nothing has changed but the
columns of the task, which are the new ones, and the ledger of the row's task, at whose end the row
stands. If it does not land, the answer is that it did not or a fault, and the shop is as it was.
Whatever is asked of the shop afterwards, every ledger only gets longer at its end. -/
theorem records_are_whole (s : Shop) (row : Transition) (missing : Option String) (taskId : String)
    (columns : Columns) (owner : Option String) :
    (∃ answer after, (serve (.record row missing taskId columns owner)).run s = (answer, after) ∧
      (answer = .ok (.landed true) ↔ s.tables.Lands row missing taskId columns owner) ∧
      (answer = .ok (.landed true) ∧ s.tables.Recorded s.now row taskId columns after.tables ∧
          after = { s with tables := after.tables } ∨
        (answer = .ok (.landed false) ∨ ∃ fault, answer = .error fault) ∧ after = s)) ∧
      ∀ (requests : List Request) (id : String), ∃ before more,
        ((serve (.rows id)).run s).1 = .ok (.rows before) ∧
          ((serve (.rows id)).run (serveAll requests s)).1 = .ok (.rows (before ++ more)) := by
  refine ⟨?_, fun requests id => ?_⟩
  · rw [run_serve_record]
    have lands : (∃ t, s.tables.record s.now row missing taskId columns owner = .ok (some t)) ↔
        s.tables.Lands row missing taskId columns owner := Tables.record_iff
    cases wrote : s.tables.record s.now row missing taskId columns owner with
    | error fault =>
        rw [wrote] at lands
        exact ⟨_, _, rfl, ⟨nofun, fun may => nomatch lands.mpr may⟩, .inr ⟨.inr ⟨fault, rfl⟩, rfl⟩⟩
    | ok landed =>
        rw [wrote] at lands
        cases landed with
        | none =>
            exact ⟨_, _, rfl, ⟨nofun, fun may => nomatch lands.mpr may⟩, .inr ⟨.inl rfl, rfl⟩⟩
        | some t =>
            exact ⟨_, _, rfl, ⟨fun _ => lands.mp ⟨t, rfl⟩, fun _ => rfl⟩,
              .inl ⟨rfl, Tables.recorded_of_record wrote, rfl⟩⟩
  · obtain ⟨more, same⟩ := (serveAll_extends requests s).tables.rowsFor id
    exact ⟨s.tables.rowsFor id, more, rfl,
      congrArg (fun rows => Except.ok (Response.rows rows)) same.symm⟩

end Shop

end Tickwork
