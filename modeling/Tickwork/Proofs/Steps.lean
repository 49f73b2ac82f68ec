import Mathlib.Logic.Relation
import Tickwork.Proofs.Invariants
import Tickwork.Proofs.Replies.Stored
import Tickwork.Shop.Serve

/-!
# Steps of a shop

Everything that is done in a shop comes down to few kinds of steps: a row of a task is changed, a task, a
ledger row or a run is added, a run is noted to stand otherwise. `Step` lists them, each with the task that
it is on. Main statements: whatever request a shop carries out, it goes on by such steps, and the work on
one task goes on by steps on that task; so what holds of each step holds of every request.
-/

set_option autoImplicit false

namespace Tickwork

namespace Shop

/-- The name of a task or a run that is drawn as the one with a number. -/
def rowName (n : Nat) : String := s!"rid-{n}"

/-- A number can be read off a name that ends in it. -/
theorem drawn_inj (front : String) {m n : Nat} (same : front ++ toString m = front ++ toString n) :
    m = n := by
  have written : ∀ n : Nat, (toString n).toList = Nat.toDigits 10 n := fun n => Nat.toList_repr
  have digits := congrArg String.toList same
  rw [String.toList_append, String.toList_append, written, written] at digits
  rw [← Nat.ofDigitChars_ten_toDigits (n := m), List.append_cancel_left digits,
    Nat.ofDigitChars_ten_toDigits]

theorem rowName_inj {m n : Nat} (same : rowName m = rowName n) : m = n := drawn_inj "rid-" same

/-- What holds of the runs in a shop: no two have one name, the run that a task names as its own is one of
its runs, and the names that are still to be drawn are in no use. -/
structure Orderly (s : Shop) : Prop where
  distinct : s.tables.runs.Pairwise fun a b => a.runId ≠ b.runId
  owned : ∀ row ∈ s.tables.tasks, ∀ run ∈ s.tables.runs, row.activeRunId = some run.runId →
    run.taskId = row.taskId
  runs : ∀ run ∈ s.tables.runs, ∀ n, s.rowCount < n → run.runId ≠ rowName n
  active : ∀ row ∈ s.tables.tasks, ∀ n, s.rowCount < n → row.activeRunId ≠ some (rowName n)
  rows : ∀ row ∈ s.tables.rows, ∀ n, s.rowCount < n → row.runId ≠ rowName n

theorem blank_orderly (s : Shop) : Orderly { s with tables := .empty } where
  distinct := .nil
  owned _ inside := absurd inside List.not_mem_nil
  runs _ inside := absurd inside List.not_mem_nil
  active _ inside := absurd inside List.not_mem_nil
  rows _ inside := absurd inside List.not_mem_nil

theorem opened_orderly (now : Instant) : (opened now).Orderly := blank_orderly (opened now)

/-- The name that is drawn next is the name of no run. -/
theorem Orderly.unopened {s : Shop} (orderly : s.Orderly) :
    s.tables.run? (rowName (s.rowCount + 1)) = none := by
  refine List.find?_eq_none.mpr fun run inside => ?_
  simpa using orderly.runs run inside _ (Nat.lt_succ_self _)

/-- How far work in a shop reaches: to the tasks of some kind, and to the clock, which it may set back or
not. -/
structure Reach where
  tasks : String → Prop
  back : Prop

def Reach.everything : Reach := ⟨fun _ => True, True⟩

def Reach.only (taskId : String) : Reach := ⟨(· = taskId), False⟩

/-- One step of a shop, on a task within reach or on no task. A run is begun only where none is open, and a
run that is closed is not opened again. -/
inductive Step (of : Reach) (s : Shop) : Shop → Prop
  /-- The tables stay as they are. -/
  | aside {s' : Shop} (tables : s'.tables = s.tables) (graphs : s'.graphs = s.graphs)
      (named : s.rowCount ≤ s'.rowCount) (clock : of.back ∨ s.now ≤ s'.now) : Step of s s'
  | update {taskId : String} {condition : TaskRow → Bool} {change : TaskRow → TaskRow} {t : Tables}
      (own : of.tasks taskId) (lands : s.tables.updateIf taskId condition change = some t)
      (same : ∀ row, (change row).taskId = row.taskId ∧ (change row).workflowId = row.workflowId ∧
        (change row).activeRunId = row.activeRunId) : Step of s { s with tables := t }
  | create {taskId : String} {draft : TaskDraft} {t : Tables} (own : of.tasks taskId)
      (created : s.tables.create s.now taskId draft = .ok t) : Step of s { s with tables := t }
  | record {row : Transition} {missing : Option String} {t : Tables} (own : of.tasks row.taskId)
      (added : s.tables.addRow row missing = .ok t) : Step of s { s with tables := t }
  | begin {row : TaskRow} (own : of.tasks row.taskId) (found : s.tables.task? row.taskId = some row)
      (idle : s.tables.activeRun? row = none) :
      Step of s
        { s with
          rowCount := s.rowCount + 1
          tables := s.tables.openRun s.now row (rowName (s.rowCount + 1)) }
  | turn {run changed : RunRow} (own : of.tasks run.taskId) (found : s.tables.run? run.runId = some run)
      (same : changed.runId = run.runId ∧ changed.taskId = run.taskId)
      (closed : run.ended = true → changed.ended = true) :
      Step of s { s with tables := s.tables.setRun changed }

/-! ## Lists of rows -/

section Rows

variable {α β : Type} {rows : List α} (key : α → String) {changed : α}

theorem mem_replaced {entry : α}
    (inside : entry ∈ rows.map fun old => if key old = key changed then changed else old) :
    entry = changed ∧ (∃ old ∈ rows, key old = key changed) ∨ entry ∈ rows ∧ key entry ≠ key changed := by
  obtain ⟨old, was, rfl⟩ := List.mem_map.mp inside
  by_cases hit : key old = key changed
  · rw [if_pos hit]
    exact .inl ⟨rfl, old, was, hit⟩
  · rw [if_neg hit]
    exact .inr ⟨was, hit⟩

theorem map_replaced (f : α → β) (same : ∀ old ∈ rows, key old = key changed → f changed = f old) :
    (rows.map fun old => if key old = key changed then changed else old).map f = rows.map f := by
  rw [List.map_map]
  apply List.map_congr_left
  intro old inside
  by_cases hit : key old = key changed
  · simp only [Function.comp, if_pos hit, same old inside hit]
  · simp only [Function.comp, if_neg hit]

end Rows

/-! ## What each step leaves orderly -/

namespace Step

variable {of : Reach} {s s' : Shop}

theorem run?_mem {t : Tables} {runId : String} {run : RunRow} (found : t.run? runId = some run) :
    run ∈ t.runs ∧ run.runId = runId := by
  have hit := List.find?_some found
  exact ⟨List.mem_of_find?_eq_some found, by simpa using hit⟩

theorem task?_mem {t : Tables} {taskId : String} {row : TaskRow} (found : t.task? taskId = some row) :
    row ∈ t.tasks :=
  List.mem_of_find?_eq_some found

/-- A change of a task's row that keeps its name and its run. -/
theorem orderly_setTask (orderly : s.Orderly) {row changed : TaskRow}
    (found : s.tables.task? row.taskId = some row) (own : changed.taskId = row.taskId)
    (run : changed.activeRunId = row.activeRunId) : Orderly { s with tables := s.tables.setTask changed } where
  distinct := orderly.distinct
  owned := by
    intro row' inside run' here names
    rcases mem_replaced TaskRow.taskId inside with ⟨rfl, -⟩ | ⟨old, -⟩
    · rw [own]
      rw [run] at names
      exact orderly.owned row (task?_mem found) run' here names
    · exact orderly.owned row' old run' here names
  runs := orderly.runs
  active := by
    intro row' inside n later
    rcases mem_replaced TaskRow.taskId inside with ⟨rfl, -⟩ | ⟨old, -⟩
    · rw [run]
      exact orderly.active row (task?_mem found) n later
    · exact orderly.active row' old n later
  rows := orderly.rows

theorem orderly (step : Step of s s') (orderly : s.Orderly) : s'.Orderly := by
  cases step with
  | aside tables graphs named clock =>
      have later : ∀ n, s'.rowCount < n → s.rowCount < n := fun n later => Nat.lt_of_le_of_lt named later
      constructor
      · rw [tables]
        exact orderly.distinct
      · rw [tables]
        exact orderly.owned
      · rw [tables]
        exact fun run inside n here => orderly.runs run inside n (later n here)
      · rw [tables]
        exact fun row inside n here => orderly.active row inside n (later n here)
      · rw [tables]
        exact fun row inside n here => orderly.rows row inside n (later n here)
  | update own lands same =>
      obtain ⟨row, found, -, rfl⟩ := Tables.updateIf_some lands
      have here := Tables.taskId_of_task? found
      exact orderly_setTask orderly (here.symm ▸ found) (same row).1 (same row).2.2
  | create own created =>
      obtain ⟨context, task, -, -, -, -, idle, rfl⟩ := Tables.create_ok created
      refine ⟨orderly.distinct, fun row inside => ?_, orderly.runs, fun row inside => ?_, orderly.rows⟩
      · rcases List.mem_append.mp inside with old | new
        · exact orderly.owned row old
        · cases List.mem_singleton.mp new
          rw [idle]
          exact fun run here names => nomatch names
      · rcases List.mem_append.mp inside with old | new
        · exact orderly.active row old
        · cases List.mem_singleton.mp new
          rw [idle]
          exact fun n later => nofun
  | @record row missing t own added =>
      unfold Tables.addRow at added
      repeat' split at added
      all_goals cases added
      rename_i known fits unmissing fresh there
      refine ⟨orderly.distinct, orderly.owned, orderly.runs, orderly.active, fun row' inside n later => ?_⟩
      rcases List.mem_append.mp inside with old | new
      · exact orderly.rows row' old n later
      · cases List.mem_singleton.mp new
        cases found : s.tables.run? row.runId with
        | none => simp [found] at there
        | some run =>
            obtain ⟨here, named⟩ := run?_mem found
            rw [← named]
            exact orderly.runs run here n later
  | @begin row own found idle =>
      have later : ∀ n, s.rowCount + 1 < n → s.rowCount < n := fun n later => by omega
      have added : ∀ n, s.rowCount + 1 < n → rowName (s.rowCount + 1) ≠ rowName n := by
        intro n later same
        have := rowName_inj same
        omega
      refine ⟨?_, fun row' inside run' here names => ?_, fun run' inside n here => ?_,
        fun row' inside n here => ?_, fun row' inside n here => orderly.rows row' inside n (later n here)⟩
      · refine List.pairwise_append.mpr ⟨orderly.distinct, List.pairwise_singleton _ _, ?_⟩
        intro old inside new last
        cases List.mem_singleton.mp last
        exact orderly.runs old inside _ (Nat.lt_succ_self _)
      · rcases mem_replaced TaskRow.taskId inside with ⟨rfl, -⟩ | ⟨old, -⟩
        · rcases List.mem_append.mp here with before | new
          · exact absurd (Option.some.inj names).symm (orderly.runs run' before _ (Nat.lt_succ_self _))
          · cases List.mem_singleton.mp new
            rfl
        · rcases List.mem_append.mp here with before | new
          · exact orderly.owned row' old run' before names
          · cases List.mem_singleton.mp new
            exact absurd names (orderly.active row' old _ (Nat.lt_succ_self _))
      · rcases List.mem_append.mp inside with before | new
        · exact orderly.runs run' before n (later n here)
        · cases List.mem_singleton.mp new
          exact added n here
      · rcases mem_replaced TaskRow.taskId inside with ⟨rfl, -⟩ | ⟨old, -⟩
        · intro same
          exact added n here (Option.some.inj same)
        · exact orderly.active row' old n (later n here)
  | @turn run changed own found same closed =>
      obtain ⟨here, -⟩ := run?_mem found
      have among : ∀ run' ∈ (s.tables.setRun changed).runs, ∃ old ∈ s.tables.runs,
          run'.runId = old.runId ∧ run'.taskId = old.taskId := by
        intro run' inside
        rcases mem_replaced RunRow.runId inside with ⟨rfl, -⟩ | ⟨old, -⟩
        · exact ⟨run, here, same⟩
        · exact ⟨run', old, rfl, rfl⟩
      refine ⟨?_, fun row inside run' turned names => ?_, fun run' turned n later => ?_, orderly.active,
        orderly.rows⟩
      · have names : (s.tables.setRun changed).runs.map RunRow.runId = s.tables.runs.map RunRow.runId :=
          map_replaced RunRow.runId RunRow.runId fun old _ hit => hit.symm
        have apart := List.pairwise_map.mpr orderly.distinct
        rw [← names] at apart
        exact List.pairwise_map.mp apart
      · obtain ⟨old, was, runId, taskId⟩ := among run' turned
        rw [taskId]
        rw [runId] at names
        exact orderly.owned row inside old was names
      · obtain ⟨old, was, runId, -⟩ := among run' turned
        rw [runId]
        exact orderly.runs old was n later

end Step

/-! ## Work that goes on by steps -/

/-- A shop whose runs are where they belong, or steps on whatever task. -/
def Ready (of : Reach) (s : Shop) : Prop := s.Orderly ∨ ∀ taskId, of.tasks taskId

/-- A shop that another one comes to by steps, if it is ready for them. -/
def Onward (of : Reach) (s s' : Shop) : Prop := Ready of s → Relation.ReflTransGen (Step of) s s'

variable {of : Reach}

theorem reached_orderly {s s' : Shop} (orderly : s.Orderly) (reached : Relation.ReflTransGen (Step of) s s') :
    s'.Orderly := by
  induction reached with
  | refl => exact orderly
  | tail _ step ih => exact step.orderly ih

theorem Ready.reached {s s' : Shop} (ready : Ready of s) (reached : Relation.ReflTransGen (Step of) s s') :
    Ready of s' := ready.imp_left fun orderly => reached_orderly orderly reached

theorem onward_forward : Forward (Onward of) where
  refl _ _ := .refl
  trans first second ready := (first ready).trans (second (ready.reached (first ready)))

theorem Step.onward {s s' : Shop} (step : Step of s s') : Onward of s s' := fun _ => .single step

/-- Where tables and clock stay as they are, and no name is drawn again. -/
theorem onward_aside {s s' : Shop} (tables : s'.tables = s.tables) (graphs : s'.graphs = s.graphs)
    (named : s.rowCount ≤ s'.rowCount) (clock : s'.now = s.now) : Onward of s s' :=
  (Step.aside tables graphs named (.inr (Int.le_of_eq (congrArg Instant.micros clock.symm)))).onward

/-- A write that may not land, as seen from any shop. -/
def Writes (of : Reach) (write : Tables → Instant → Except Fault (Option Tables)) : Prop :=
  ∀ (s : Shop) (t : Tables), write s.tables s.now = .ok (some t) → Onward of s { s with tables := t }

namespace Writes

variable {taskId : String}

/-- A change of one row that keeps its name, its factory and its run. -/
theorem update (own : of.tasks taskId) {s : Shop} {condition : TaskRow → Bool} {change : TaskRow → TaskRow}
    {t : Tables} (lands : s.tables.updateIf taskId condition change = some t)
    (same : ∀ row, (change row).taskId = row.taskId ∧ (change row).workflowId = row.workflowId ∧
      (change row).activeRunId = row.activeRunId) : Onward of s { s with tables := t } :=
  (Step.update own lands same).onward

theorem checkpoint (own : of.tasks taskId) (columns : Columns) (owner : Option String) :
    Writes of fun t now => t.checkpoint now taskId columns owner := by
  intro s t lands
  unfold Tables.checkpoint at lands
  cases kept : columns.stored with
  | error fault =>
      rw [kept] at lands
      cases lands
  | ok columns =>
      rw [kept] at lands
      exact update own (Except.ok.inj lands) fun _ => ⟨rfl, rfl, rfl⟩

theorem record {row : Transition} (own : of.tasks taskId) (same : of.tasks row.taskId) (missing : Option String)
    (columns : Columns) (owner : Option String) :
    Writes of fun t now => t.record now row missing taskId columns owner := by
  intro s t lands
  simp only [Tables.record] at lands
  cases kept : s.tables.checkpoint s.now taskId columns owner with
  | error fault =>
      rw [kept] at lands
      cases lands
  | ok landed =>
      rw [kept] at lands
      cases landed with
      | none => cases lands
      | some middle =>
          simp only [bind, Except.bind] at lands
          cases added : middle.addRow row missing with
          | error fault =>
              rw [added] at lands
              cases lands
          | ok t' =>
              rw [added] at lands
              cases lands
              have first : Onward of s { s with tables := middle } := checkpoint own columns owner s middle kept
              exact onward_forward.trans first
                (Step.record (s := { s with tables := middle }) same added).onward

theorem submitReply (own : of.tasks taskId) (text : String) :
    Writes of fun t now => t.submitReply now taskId text := by
  intro s t lands
  simp only [Tables.submitReply] at lands
  cases found : s.tables.getTask taskId with
  | error fault =>
      rw [found] at lands
      cases lands
  | ok row =>
      rw [found] at lands
      simp only [bind, Except.bind] at lands
      cases read : mappingColumn row.columns.context with
      | error fault =>
          rw [read] at lands
          cases lands
      | ok seen =>
          rw [read] at lands
          simp only at lands
          cases kept : Columns.document (.dict (Fields.put replyKey (.str text) seen)) with
          | error fault =>
              rw [kept] at lands
              cases lands
          | ok context =>
              rw [kept] at lands
              exact update own (Except.ok.inj lands) fun _ => ⟨rfl, rfl, rfl⟩

/-- A claim or its extension. -/
theorem claim (own : of.tasks taskId) (owner : String) (span : Instant.Seconds)
    (condition : Instant → TaskRow → Bool) :
    Writes of (fun t now => do
      let expiresAt ← Tables.expiry now span
      .ok (t.updateIf taskId (condition now) fun row => { row with lease := some ⟨owner, expiresAt⟩ })) := by
  intro s t lands
  simp only at lands
  cases ends : Tables.expiry s.now span with
  | error fault =>
      rw [ends] at lands
      cases lands
  | ok ending =>
      rw [ends] at lands
      exact update own (Except.ok.inj lands) fun _ => ⟨rfl, rfl, rfl⟩

end Writes

theorem onward_release {taskId : String} (own : of.tasks taskId) (owner : String) (s : Shop) :
    Onward of s { s with tables := s.tables.release taskId owner } := by
  unfold Tables.release
  cases lands : s.tables.updateIf taskId (Tables.heldBy (some owner))
      (fun row => { row with lease := none }) with
  | none => exact onward_forward.refl s
  | some t => exact Writes.update own lands fun _ => ⟨rfl, rfl, rfl⟩

/-- Work that goes on by steps. -/
abbrev Goes (of : Reach) {α : Type} (act : Work α) : Prop := Work.Moves (Onward of) act

namespace Goes

variable {α β : Type} {taskId : String}

theorem pure (a : α) : Goes of (Pure.pure a) := Work.Moves.pure onward_forward a

theorem throw (fault : Fault) : Goes of (throw fault : Work α) := Work.Moves.throw onward_forward fault

theorem get : Goes of (get : Work Shop) := Work.Moves.get onward_forward

theorem bind {act : Work α} {next : α → Work β} (first : Goes of act) (later : ∀ a, Goes of (next a)) :
    Goes of (act >>= next) := Work.Moves.bind onward_forward first later

theorem ite {condition : Prop} [Decidable condition] {yes no : Work α} (first : Goes of yes)
    (second : Goes of no) : Goes of (if condition then yes else no) := Work.Moves.ite first second

theorem ofExcept (r : Except Fault α) : Goes of (ofExcept r) := (Looks.ofExcept r).moves onward_forward

theorem attempt {write : Tables → Instant → Except Fault (Option Tables)} (writes : Writes of write) :
    Goes of (attempt write) := by
  intro s
  rw [run_attempt]
  cases came : write s.tables s.now with
  | error fault => exact onward_forward.refl s
  | ok landed =>
      cases landed with
      | none => exact onward_forward.refl s
      | some t => exact writes s t came

theorem create (everyone : ∀ id, of.tasks id) (draft : TaskDraft) : Goes of (create draft) := by
  intro s
  obtain ⟨count, t, later, left, made⟩ := run_create draft s
  have drawn : Onward of s { s with rowCount := count } := onward_aside rfl rfl later rfl
  rw [left]
  rcases made with rfl | ⟨taskId, added⟩
  · exact drawn
  · have stored : Step of { s with rowCount := count } { s with rowCount := count, tables := t } :=
      .create (everyone taskId) added
    exact onward_forward.trans drawn stored.onward

theorem find? (taskId : String) : Goes of (find? taskId) := (Looks.find? taskId).moves onward_forward

theorem load (taskId : String) : Goes of (load taskId) := (Looks.load taskId).moves onward_forward

theorem announce (notice : Notice) : Goes of (announce notice) := fun _ =>
  onward_aside rfl rfl (Nat.le_refl _) rfl

theorem announcePage (task : TaskRow) (page : Value) : Goes of (announcePage task page) :=
  .bind .get fun _ => .bind (.ofExcept _) fun _ => .announce _

theorem tellOf (task : TaskRow) (previous : Lifecycle) (finish : Finish) (p : Progress) :
    Goes of (tellOf task previous finish p) := by
  unfold Shop.tellOf
  refine .bind (Work.Moves.forM onward_forward (Goes.announcePage task) finish.pages) fun _ => ?_
  have changed : Goes of (if p.lifecycle ≠ previous then
      Shop.announce (.lifecycle task.taskId previous p.lifecycle p.lastError) else Pure.pure ()) :=
    .ite (.announce _) (.pure _)
  exact .ite (.bind (.announce _) fun _ => changed) changed

theorem verify (taskId : String) : Goes of (verify taskId) := (Looks.verify taskId).moves onward_forward

theorem releasing (own : of.tasks taskId) {act : Work α} (goes : Goes of act) (acquired : Bool) (owner : String) :
    Goes of (releasing acquired taskId owner act) := by
  intro s
  refine onward_forward.trans (goes s) ?_
  cases acquired with
  | false => exact onward_forward.refl _
  | true => exact onward_release own owner _

theorem leasedWrite (own : of.tasks taskId) (owner : Option String) (span : Instant.Seconds)
    {write : Tables → Instant → Except Fault (Option Tables)} (writes : Writes of write) :
    Goes of (leasedWrite taskId owner span write) := by
  have written : Goes of (do
      if !(← Shop.attempt write) then MonadExcept.throw (.leaseLost taskId (shownOption owner))) :=
    .bind (.attempt writes) fun landed => .ite (.throw _) (.pure _)
  cases owner with
  | none => exact written
  | some owner =>
      refine .bind (.attempt (.claim own owner span fun _ => Tables.heldBy (some owner))) fun held => ?_
      cases held with
      | true => exact written
      | false => exact .throw _

end Goes

/-! ## Runs -/

theorem activeRun?_some {t : Tables} {row : TaskRow} {run : RunRow} (active : t.activeRun? row = some run) :
    row.activeRunId = some run.runId ∧ t.run? run.runId = some run ∧ run.ended = false := by
  unfold Tables.activeRun? at active
  obtain ⟨named, going⟩ := Option.filter_eq_some_iff.mp active
  obtain ⟨runId, names, there⟩ := Option.bind_eq_some_iff.mp named
  obtain ⟨-, same⟩ := Step.run?_mem there
  subst same
  exact ⟨names, there, by simpa using going⟩

/-- A run that is open goes on, else a new one is opened. -/
theorem run_startRun {taskId : String} {s : Shop} {row : TaskRow} (found : s.tables.task? taskId = some row) :
    (startRun taskId).run s =
      match s.tables.activeRun? row with
      | some run => (.ok run.runId, { s with tables := s.tables.continueRun run })
      | none =>
        (.ok (rowName (s.rowCount + 1)),
          { s with
            rowCount := s.rowCount + 1
            tables := s.tables.openRun s.now row (rowName (s.rowCount + 1)) }) := by
  unfold startRun Tables.getTask
  have looked : (Shop.ofExcept (.ok row : Except Fault TaskRow)).run s = (.ok row, s) := rfl
  rw [Work.run_bind_get]
  simp only [found]
  rw [Work.run_bind_of_ok looked, Work.run_bind_get]
  cases s.tables.activeRun? row <;> rfl

theorem run_finishRun (runId : String) (status : RunStatus) (s : Shop) :
    (finishRun runId status).run s =
      match s.tables.run? runId with
      | some run =>
        (.ok (), { s with
          tables := s.tables.setRun { run with status, ended := run.ended || status.isEnd } })
      | none => (.error (.runNotFound runId), s) := by
  unfold finishRun Tables.finishRun
  rw [Work.run_bind_get]
  cases s.tables.run? runId <;> rfl

namespace Goes

variable {taskId : String}

theorem startRun (own : of.tasks taskId) : Goes of (startRun taskId) := by
  intro s ready
  cases found : s.tables.task? taskId with
  | none =>
      unfold Shop.startRun Tables.getTask
      rw [Work.run_bind_get, found]
      exact .refl
  | some row =>
      have mine := Tables.taskId_of_task? found
      rw [run_startRun found]
      cases active : s.tables.activeRun? row with
      | some run =>
          obtain ⟨names, there, -⟩ := activeRun?_some active
          have its : of.tasks run.taskId := by
            rcases ready with orderly | everyone
            · rw [orderly.owned row (Step.task?_mem found) run (Step.run?_mem there).1 names, mine]
              exact own
            · exact everyone _
          exact .single (.turn its there ⟨rfl, rfl⟩ fun closed => closed)
      | none => exact .single (.begin (mine.symm ▸ own) (mine.symm ▸ found) active)

/-- A run of a task is noted to stand otherwise, and the work goes on. -/
theorem finishRun {α : Type} {runId : String} {s : Shop}
    (mine : ∀ run, s.tables.run? runId = some run → of.tasks run.taskId) (status : RunStatus) {rest : Work α}
    (goes : Goes of rest) : Onward of s ((finishRun runId status >>= fun _ => rest).run s).2 := by
  cases found : s.tables.run? runId with
  | none =>
      have broken : (Shop.finishRun runId status).run s = (.error (.runNotFound runId), s) := by
        rw [run_finishRun, found]
      rw [Work.run_bind_of_error broken]
      exact onward_forward.refl s
  | some run =>
      obtain ⟨-, same⟩ := Step.run?_mem found
      subst same
      have closed := run_finishRun run.runId status s
      rw [found] at closed
      rw [Work.run_bind_of_ok closed]
      refine onward_forward.trans (Step.onward ?_) (goes _)
      exact .turn (mine run found) found ⟨rfl, rfl⟩ fun closed => by simp [closed]

end Goes

end Shop

end Tickwork
