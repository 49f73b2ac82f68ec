import Tickwork.Proofs.TwinTicks

/-!
# A tick in two shops

One task is ticked in two shops where it stands alike. Runs may go by other names there: a renaming gives
the name that a run of the first shop has in the second one. Main statement: if the lease of the task is free
in both shops and its end stays within the calendar, the task stands alike after the tick as well.
-/

set_option autoImplicit false

namespace Tickwork

namespace Tables

theorem runsFor_setRun {t : Tables} {changed : RunRow} (taskId : String)
    (own : ∀ old ∈ t.runs, old.runId = changed.runId → old.taskId = changed.taskId) :
    (t.setRun changed).runsFor taskId =
      (t.runsFor taskId).map fun old => if old.runId = changed.runId then changed else old := by
  unfold runsFor setRun
  simp only
  rw [List.filter_map]
  congr 1
  apply List.filter_congr
  intro old inside
  by_cases hit : old.runId = changed.runId
  · simp [hit, own old inside hit]
  · simp [hit]

end Tables

namespace Shop

variable {σ : String → String} {taskId runId : String} {v w : Shop}

/-- A task stands alike in two shops, and the names of rows that are still to be drawn are in no use. -/
structure Matched (σ : String → String) (taskId : String) (v w : Shop) : Prop where
  alike : v.tables.Alike σ taskId w.tables
  unused : v.tables.Unused v.eventCount
  unused' : w.tables.Unused w.eventCount

section Runs

variable (alike : v.tables.Alike σ taskId w.tables) (orderly : v.Orderly) (orderly' : w.Orderly)

include alike orderly'

theorem run_over {run : RunRow} (found : v.tables.run? runId = some run) (own : run.taskId = taskId) :
    w.tables.run? (σ runId) = some (run.renamed σ) := by
  obtain ⟨inside, rfl⟩ := Step.run?_mem found
  have there : run.renamed σ ∈ w.tables.runsFor taskId := by
    rw [← alike.runs]
    exact List.mem_map_of_mem (List.mem_filter.mpr ⟨inside, by simp [own]⟩)
  exact orderly'.run?_of_mem (List.mem_filter.mp there).1

variable (distinct : Function.Injective σ)

include orderly distinct

omit orderly' in
theorem run_back {run' : RunRow} (found : w.tables.run? (σ runId) = some run') (own : run'.taskId = taskId) :
    ∃ run, v.tables.run? runId = some run := by
  obtain ⟨inside, same⟩ := Step.run?_mem found
  have there : run' ∈ w.tables.runsFor taskId := List.mem_filter.mpr ⟨inside, by simp [own]⟩
  rw [← alike.runs] at there
  obtain ⟨run, here, rfl⟩ := List.mem_map.mp there
  have named : run.runId = runId := distinct same
  exact ⟨run, named ▸ orderly.run?_of_mem (List.mem_filter.mp here).1⟩

/-- The open run of a task is the same one. -/
theorem activeRun?_alike {row row' : TaskRow} (found : v.tables.task? taskId = some row)
    (found' : w.tables.task? taskId = some row') (same : row.Alike σ row') :
    (v.tables.activeRun? row).map (RunRow.renamed σ) = w.tables.activeRun? row' := by
  have active := same.run
  unfold Tables.activeRun?
  cases names : row.activeRunId with
  | none =>
      rw [names] at active
      rw [← active]
      rfl
  | some x =>
      rw [names] at active
      rw [← active]
      simp only [Option.bind_some, Option.map_some]
      cases there : v.tables.run? x with
      | some run =>
          obtain ⟨inside, rfl⟩ := Step.run?_mem there
          have own : run.taskId = taskId :=
            (orderly.owned row (Step.task?_mem found) run inside names).trans (Tables.taskId_of_task? found)
          rw [run_over alike orderly' there own]
          cases ended : run.ended <;> simp [Option.filter, RunRow.renamed, ended]
      | none =>
          cases there' : w.tables.run? (σ x) with
          | none => rfl
          | some run' =>
              obtain ⟨inside, named⟩ := Step.run?_mem there'
              have own : run'.taskId = taskId :=
                (orderly'.owned row' (Step.task?_mem found') run' inside (by rw [← active, named]; rfl)).trans
                  (Tables.taskId_of_task? found')
              obtain ⟨run, there''⟩ := run_back alike orderly distinct there' own
              rw [there] at there''
              cases there''

/-- A run of the task is noted to stand otherwise here and there. -/
theorem setRun_alike {run changed : RunRow} (found : v.tables.run? runId = some run) (own : run.taskId = taskId)
    (named : changed.runId = run.runId) (same : changed.taskId = run.taskId) :
    (v.tables.setRun changed).Alike σ taskId (w.tables.setRun (changed.renamed σ)) where
  task := alike.task
  rows := alike.rows
  runs := by
    obtain ⟨inside, rfl⟩ := Step.run?_mem found
    have found' := run_over alike orderly' found own
    obtain ⟨inside', -⟩ := Step.run?_mem found'
    rw [Tables.runsFor_setRun taskId fun old here hit => ?_, Tables.runsFor_setRun taskId fun old here hit => ?_]
    · rw [← alike.runs, List.map_map, List.map_map]
      apply List.map_congr_left
      intro old _
      by_cases hit : old.runId = changed.runId
      · simp [RunRow.renamed, hit]
      · have miss : σ old.runId ≠ σ changed.runId := fun same => hit (distinct same)
        simp [RunRow.renamed, hit, miss]
    · rw [orderly'.same_run here inside' (hit.trans (congrArg σ named))]
      exact same.symm
    · rw [orderly.same_run here inside (hit.trans named), same]

end Runs

/-- A run is opened here and there. -/
theorem openRun_alike {t t' : Tables} (alike : t.Alike σ taskId t') {row row' : TaskRow}
    (found : t.task? taskId = some row) (found' : t'.task? taskId = some row') (same : row.Alike σ row')
    {runId' : String} (renames : σ runId = runId') (now now' : Instant) :
    (t.openRun now row runId).Alike σ taskId (t'.openRun now' row' runId') := by
  have own := Tables.taskId_of_task? found
  have own' := Tables.taskId_of_task? found'
  have opened : Tables.Alike σ taskId { t with runs := t.runs ++ [⟨runId, row.taskId, .running, false⟩] }
      { t' with runs := t'.runs ++ [⟨runId', row'.taskId, .running, false⟩] } := by
    refine ⟨alike.task, ?_, alike.rows⟩
    have runs := alike.runs
    unfold Tables.runsFor at runs ⊢
    simp [List.filter_append, own, own', runs, RunRow.renamed, renames]
  refine opened.setTask found found' rfl ⟨same.bare, same.columns, ?_, same.owner⟩
  exact congrArg some renames

/-! ## The end of a tick -/

/-- Neither the tables nor the counts of rows and of calls have changed. -/
structure Undisturbed (s s' : Shop) : Prop where
  tables : s'.tables = s.tables
  numbered : s'.eventCount = s.eventCount
  tally : s'.tally = s.tally

/-- Work that leaves the tables alone, draws no names for rows and calls no callable. -/
abbrev Mute {α : Type} (act : Work α) : Prop := Work.Moves Undisturbed act

namespace Mute

variable {α β : Type}

theorem forward : Forward Undisturbed where
  refl _ := ⟨rfl, rfl, rfl⟩
  trans first second := ⟨second.tables.trans first.tables, second.numbered.trans first.numbered,
    second.tally.trans first.tally⟩

theorem pure (a : α) : Mute (Pure.pure a) := Work.Moves.pure forward a

theorem bind {act : Work α} {next : α → Work β} (first : Mute act) (later : ∀ a, Mute (next a)) :
    Mute (act >>= next) := Work.Moves.bind forward first later

theorem ite {condition : Prop} [Decidable condition] {yes no : Work α} (first : Mute yes)
    (second : Mute no) : Mute (if condition then yes else no) := Work.Moves.ite first second

theorem announce (notice : Notice) : Mute (announce notice) := fun _ => ⟨rfl, rfl, rfl⟩

theorem ofExcept (r : Except Fault α) : Mute (ofExcept r) := (Looks.ofExcept r).moves forward

theorem tellOf (task : TaskRow) (previous : Lifecycle) (finish : Finish) (p : Progress) :
    Mute (tellOf task previous finish p) := by
  have page : ∀ page, Mute (announcePage task page) := fun page =>
    .bind (Work.Moves.get forward) fun _ => .bind (.ofExcept _) fun _ => .announce _
  unfold Shop.tellOf
  refine .bind (Work.Moves.forM forward page finish.pages) fun _ => ?_
  have changed : Mute (if p.lifecycle ≠ previous then
      Shop.announce (.lifecycle task.taskId previous p.lifecycle p.lastError) else Pure.pure ()) :=
    .ite (.announce _) (.pure _)
  exact .ite (.bind (.announce _) fun _ => changed) changed

theorem verify (taskId : String) : Mute (verify taskId) := (Looks.verify taskId).moves forward

end Mute

/-- The run of a tick is noted to stand otherwise in both shops, and nothing more becomes of the task. -/
theorem closing_matched {runId' : String} (distinct : Function.Injective σ)
    (twin : Tables.Twin σ taskId runId runId' v.eventCount w.eventCount v.tables w.tables)
    (renames : σ runId = runId') (orderly : v.Orderly) (orderly' : w.Orderly) (runs : v.Runs runId taskId)
    (status : RunStatus) {α : Type} {rest rest' : Work α} (mute : Mute rest) (mute' : Mute rest') :
    Matched σ taskId ((finishRun runId status >>= fun _ => rest).run v).2
      ((finishRun runId' status >>= fun _ => rest').run w).2 := by
  obtain ⟨run, found, own⟩ := runs
  have found' := run_over twin.alike orderly' found own
  have closed := run_finishRun runId status v
  have closed' := run_finishRun runId' status w
  rw [found] at closed
  rw [← renames, found'] at closed'
  rw [← renames, Work.run_bind_of_ok closed, Work.run_bind_of_ok closed']
  have turned := setRun_alike twin.alike orderly orderly' distinct found own
    (show RunRow.runId { run with status, ended := run.ended || status.isEnd } = run.runId from rfl) rfl
  refine ⟨?_, ?_, ?_⟩
  · rw [(mute _).tables, (mute' _).tables]
    exact turned
  · rw [(mute _).tables, (mute _).numbered]
    exact twin.unused
  · rw [(mute' _).tables, (mute' _).numbered]
    exact twin.unused'

/-- Whether the end of a claim that is made while the clock goes from one instant to another one is in the
calendar: always, or never. -/
def Lasts (span : Instant.Seconds) (start stop : Instant) (yes : Bool) : Prop :=
  ∀ now, start ≤ now → now ≤ stop → (Tables.expiry now span).isOk = yes

/-- Work did not break off because a claim would have ended beyond the calendar. -/
def Unlost {α : Type} (span : Instant.Seconds) (came : Except Fault α × Shop) : Prop :=
  ∀ fault, came.1 = .error fault → Tables.expiry came.2.now span ≠ .error fault

/-- Work that came to a result did not break off. -/
theorem Unlost.of_ok {α : Type} {span : Instant.Seconds} {came : Except Fault α × Shop} {a : α}
    (came_to : came.1 = .ok a) : Unlost span came := fun _ broke =>
  nomatch came_to.symm.trans broke

theorem Lasts.unlost {α : Type} {span : Instant.Seconds} {start : Instant} {came : Except Fault α × Shop}
    (lasts : Lasts span start came.2.now true) (later : start ≤ came.2.now) : Unlost span came := by
  intro fault _ gone
  have ends := lasts came.2.now later (Int.le_refl _)
  rw [gone] at ends
  cases ends

/-- Giving a task back makes no difference to how its work came out. -/
theorem Unlost.of_releasing {α : Type} {span : Instant.Seconds} {acquired : Bool} {taskId owner : String}
    {act : Work α} {s : Shop} (unlost : Unlost span ((releasing acquired taskId owner act).run s)) :
    Unlost span (act.run s) := by
  intro fault broke gone
  have same : ((releasing acquired taskId owner act).run s).2.now = (act.run s).2.now := by
    show (if acquired then { (act.run s).2 with tables := (act.run s).2.tables.release taskId owner }
      else (act.run s).2).now = _
    cases acquired <;> rfl
  exact unlost fault broke (same ▸ gone)

section Ticks

variable {perform : Request → StateM Shop Unit} (aloof : Aloof perform)

include aloof

/-- Once a task is loaded and its run is under way, in both shops. -/
theorem advancing_matched (distinct : Function.Injective σ) (runner : Runner) {task task' : TaskView}
    (own : task.row.taskId = taskId) (same : task.row.Alike σ task'.row) {g : Graph Code}
    (steady : g.Every (Steady perform)) (feedback : Option String) {p p' : Progress}
    (alike : p.Like .exactly p') (its : p.taskId = taskId) {runId' : String} (renames : σ runId = runId')
    (twin : Tables.Twin σ taskId runId runId' v.eventCount w.eventCount v.tables w.tables)
    (orderly : v.Orderly) (orderly' : w.Orderly) (runs : v.Runs runId taskId)
    (lasts : Unlost runner.leaseSpan ((advancing perform runner task g feedback p runId).run v))
    (lasts' : Unlost runner.leaseSpan ((advancing perform runner task' g feedback p' runId').run w)) :
    Matched σ taskId ((advancing perform runner task g feedback p runId).run v).2
      ((advancing perform runner task' g feedback p' runId').run w).2 := by
  have own' : task'.row.taskId = taskId := same.taskId.symm.trans own
  have its' : p'.taskId = taskId := alike.taskId.symm.trans its
  have reached := aloof.advances runner g task.row.info runId feedback its orderly
  have reached' := aloof.advances runner g task.row.info runId' feedback its' orderly'
  have ends : Engine.Advances (twinFooting σ taskId runId runId' runner.leaseSpan)
      (Engine.advance (host perform runner taskId) runner.budget g task.row.info runId none feedback p v)
      (Engine.advance (host perform runner taskId) runner.budget g task.row.info runId' none feedback p' w) :=
    Engine.advance_sync (host_alongside aloof runner renames) steady rfl runner.budget task.row.info feedback
      alike its twin
  unfold advancing at lasts lasts' ⊢
  simp only [own, own', ← same.info] at lasts lasts' ⊢
  rw [Work.run_bind_of_lift] at lasts lasts' ⊢
  rw [Work.run_bind_of_lift]
  generalize Engine.advance (host perform runner taskId) runner.budget g task.row.info runId none feedback p v
    = came at reached lasts ends ⊢
  generalize Engine.advance (host perform runner taskId) runner.budget g task.row.info runId' none feedback p' w
    = came' at reached' lasts' ends ⊢
  have settles : ∀ status {rest rest' : Work TickReport}, Mute rest → Mute rest' →
      Tables.Twin σ taskId runId runId' came.2.eventCount came'.2.eventCount came.2.tables came'.2.tables →
      Matched σ taskId ((finishRun runId status >>= fun _ => rest).run came.2).2
        ((finishRun runId' status >>= fun _ => rest').run came'.2).2 := fun status _ _ mute mute' twin =>
    closing_matched distinct twin renames (reached_orderly orderly reached) (reached_orderly orderly' reached')
      (reached_runs reached runs) status mute mute'
  cases ends with
  | done finished progress world =>
      simp only at settles ⊢
      rw [← finished.ending]
      exact settles _
        (.bind (.tellOf _ _ _ _) fun _ => .ite (.bind (.verify _) fun _ => .pure _) (.pure _))
        (.bind (.tellOf _ _ _ _) fun _ => .ite (.bind (.verify _) fun _ => .pure _) (.pure _)) world
  | doomed causes world =>
      exact settles _ (.bind (.announce _) fun _ => .pure _) (.bind (.announce _) fun _ => .pure _) world
  | @stuck fault fault' _ _ _ _ calm calm' world =>
      have stands : ∀ (v w : Shop), Tables.Twin σ taskId runId runId' v.eventCount w.eventCount v.tables w.tables →
          Matched σ taskId v w := fun _ _ twin => ⟨twin.alike, twin.unused, twin.unused'⟩
      cases fault with
      | fatal cause named => cases calm
      | _ =>
          cases fault' with
          | fatal cause named => cases calm'
          | _ => exact stands _ _ world
  | @left fault _ after gone _ =>
      cases fault with
      | fatal cause named => cases Tables.calm_expiry _ _ _ gone
      | _ => exact absurd gone (lasts _ rfl)
  | @right fault _ after gone _ =>
      cases fault with
      | fatal cause named => cases Tables.calm_expiry _ _ _ gone
      | _ => exact absurd gone (lasts' _ rfl)

omit aloof in
theorem started_orderly {s after : Shop} (orderly : s.Orderly) {result : Except Fault String}
    (started : (startRun taskId).run s = (result, after)) : after.Orderly := by
  have begun : Onward .everything s ((startRun taskId).run s).2 := Goes.startRun trivial s
  rw [started] at begun
  exact reached_orderly orderly (begun (.inl orderly))

/-- A task that was taken is advanced in both shops. -/
theorem advanceTask_matched (distinct : Function.Injective σ) (runner : Runner) {task task' : TaskView}
    (own : task.row.taskId = taskId) (same : task.row.Alike σ task'.row) {g : Graph Code}
    (steady : g.Every (Steady perform)) (feedback : Option String) (matched : Matched σ taskId v w)
    {row row' : TaskRow} (found : v.tables.task? taskId = some row)
    (found' : w.tables.task? taskId = some row') (alike : row.Alike σ row')
    (orderly : v.Orderly) (orderly' : w.Orderly)
    (renames : v.rowCount < ((advanceTask perform runner task g feedback).run v).2.rowCount →
      w.rowCount < ((advanceTask perform runner task' g feedback).run w).2.rowCount →
      σ (rowName (v.rowCount + 1)) = rowName (w.rowCount + 1))
    (lasts : Unlost runner.leaseSpan ((advanceTask perform runner task g feedback).run v))
    (lasts' : Unlost runner.leaseSpan ((advanceTask perform runner task' g feedback).run w)) :
    Matched σ taskId ((advanceTask perform runner task g feedback).run v).2
      ((advanceTask perform runner task' g feedback).run w).2 := by
  have own' : task'.row.taskId = taskId := same.taskId.symm.trans own
  have loaded := run_load_found found
  have loaded' := run_load_found found'
  have progress := alike.progress
  generalize row.progress = read at progress loaded
  generalize row'.progress = read' at progress loaded'
  cases progress with
  | error fault =>
      have stopped : (advanceTask perform runner task g feedback).run v = (.error fault, v) := by
        unfold advanceTask
        rw [own, Work.run_bind_of_error loaded]
      have stopped' : (advanceTask perform runner task' g feedback).run w = (.error fault, w) := by
        unfold advanceTask
        rw [own', Work.run_bind_of_error loaded']
      rw [stopped, stopped']
      exact matched
  | @ok p p' alike' =>
      have its : p.taskId = taskId := by
        obtain ⟨result, ran, loads⟩ := run_load taskId v
        rw [loaded] at ran
        cases ran
        exact (loads p rfl).1
      have active := activeRun?_alike matched.alike orderly orderly' distinct found found' alike
      have started := run_startRun found
      have started' := run_startRun found'
      cases going : v.tables.activeRun? row with
      | some run =>
          rw [going] at active started
          rw [← active] at started'
          obtain ⟨names, there, -⟩ := activeRun?_some going
          have mine : run.taskId = taskId :=
            (orderly.owned row (Step.task?_mem found) run (Step.run?_mem there).1 names).trans
              (Tables.taskId_of_task? found)
          have there' := run_over matched.alike orderly' there mine
          have turned := setRun_alike matched.alike orderly orderly' distinct there mine
            (show RunRow.runId { run with status := .running } = run.runId from rfl) rfl
          have twin : Tables.Twin σ taskId run.runId (σ run.runId) v.eventCount w.eventCount
              (v.tables.continueRun run) (w.tables.continueRun (run.renamed σ)) := by
            refine ⟨turned, ?_, ?_, matched.unused, matched.unused'⟩
            · simp [Tables.continueRun, Tables.run?_setRun, there]
            · simp [Tables.continueRun, Tables.run?_setRun, there']
          rw [← own] at loaded started
          rw [← own'] at loaded' started'
          rw [advanceTask_started perform runner g feedback loaded started] at lasts renames ⊢
          rw [advanceTask_started perform runner g feedback loaded' started'] at lasts' renames ⊢
          exact advancing_matched aloof distinct runner own same steady feedback alike' its rfl twin
            (started_orderly orderly started) (started_orderly orderly' started')
            (own ▸ startRun_runs orderly started) lasts lasts'
      | none =>
          rw [going] at active started
          rw [← active] at started'
          rw [← own] at loaded started
          rw [← own'] at loaded' started'
          have ready := started_orderly orderly started
          have ready' := started_orderly orderly' started'
          have runs := startRun_runs orderly started
          have runs' := startRun_runs orderly' started'
          rw [advanceTask_started perform runner g feedback loaded started] at lasts renames ⊢
          rw [advanceTask_started perform runner g feedback loaded' started'] at lasts' renames ⊢
          have onward : ∀ request (s : Shop), Onward (.only taskId) s (perform request s).2 := aloof.onward
          have reached := advancing_onward onward runner own g feedback (its.trans own.symm)
            (.inl runs) (.inl ready)
          have reached' := advancing_onward onward runner own' g feedback
            ((alike'.taskId.symm.trans its).trans own'.symm) (.inl runs') (.inl ready')
          have renamed := renames (reached_named reached) (reached_named reached')
          have opened := openRun_alike matched.alike found found' alike renamed v.now w.now
          rw [own] at runs
          obtain ⟨run, there, mine⟩ := runs
          obtain ⟨run', there', -⟩ := runs'
          have twin : Tables.Twin σ taskId (rowName (v.rowCount + 1)) (rowName (w.rowCount + 1)) v.eventCount
              w.eventCount (v.tables.openRun v.now row (rowName (v.rowCount + 1)))
              (w.tables.openRun w.now row' (rowName (w.rowCount + 1))) :=
            ⟨opened, by rw [there]; rfl, by rw [there']; rfl, matched.unused, matched.unused'⟩
          exact advancing_matched aloof distinct runner own same steady feedback alike' its renamed twin ready
            ready' ⟨run, there, mine⟩ lasts lasts'

/-! ## Ticks -/

/-- A worker may take a task if it is there. -/
def Free (s : Shop) (taskId owner : String) : Prop :=
  ∀ row, s.tables.task? taskId = some row → Tables.isFree s.now owner row = true

omit aloof in
/-- A task that may be taken may be taken later, while it is left alone. -/
theorem Free.later {s s' : Shop} {owner : String} (free : s.Free taskId owner)
    (same : s'.tables.task? taskId = s.tables.task? taskId) (clock : s.now ≤ s'.now) : s'.Free taskId owner := by
  intro row found
  have free := free row (same.symm.trans found)
  unfold Tables.isFree at free ⊢
  cases lease : row.lease with
  | none => rfl
  | some lease =>
      rw [lease] at free
      simp only [Bool.or_eq_true, decide_eq_true_eq] at free ⊢
      exact free.imp_right fun past => Int.lt_of_lt_of_le past clock

omit aloof in
/-- A task is read here and there, or in neither shop. -/
theorem getTask_alike (alike : v.tables.Alike σ taskId w.tables) :
    (∃ fault fault', (getTask taskId).run v = (.error fault, v) ∧ (getTask taskId).run w = (.error fault', w)) ∨
    ∃ task task', (getTask taskId).run v = (.ok task, v) ∧ (getTask taskId).run w = (.ok task', w) ∧
      v.tables.task? taskId = some task.row ∧ w.tables.task? taskId = some task'.row ∧
      task.row.Alike σ task'.row := by
  have tasks := alike.task
  unfold getTask find?
  rw [Work.run_bind, Work.run_bind_get, Work.run_bind, Work.run_bind_get]
  cases found : v.tables.task? taskId with
  | none =>
      rw [found] at tasks
      cases found' : w.tables.task? taskId with
      | none => exact .inl ⟨_, _, rfl, rfl⟩
      | some row' =>
          rw [found'] at tasks
          cases tasks
  | some row =>
      rw [found] at tasks
      cases found' : w.tables.task? taskId with
      | none =>
          rw [found'] at tasks
          cases tasks
      | some row' =>
          rw [found'] at tasks
          cases tasks with
          | some same =>
              unfold TaskRow.view
              simp only [same.context]
              cases mappingColumn row'.columns.context with
              | error fault => exact .inl ⟨_, _, rfl, rfl⟩
              | ok context => exact .inr ⟨⟨row, context⟩, ⟨row', context⟩, rfl, rfl, rfl, rfl, same⟩

omit aloof in
/-- A task that is taken here and there stands alike afterwards. -/
theorem acquire_alike (alike : v.tables.Alike σ taskId w.tables) {owner : String} {span : Instant.Seconds}
    (free : v.Free taskId owner) (free' : w.Free taskId owner)
    (agree : (Tables.expiry v.now span).isOk = (Tables.expiry w.now span).isOk) {row : TaskRow}
    (found : v.tables.task? taskId = some row) :
    (∃ fault fault', v.tables.acquire v.now taskId owner span = .error fault ∧
      w.tables.acquire w.now taskId owner span = .error fault') ∨
    ∃ t t', v.tables.acquire v.now taskId owner span = .ok (some t) ∧
      w.tables.acquire w.now taskId owner span = .ok (some t') ∧ t.Alike σ taskId t' := by
  have tasks := alike.task
  rw [found] at tasks
  cases found' : w.tables.task? taskId with
  | none =>
      rw [found'] at tasks
      cases tasks
  | some row' =>
      rw [found'] at tasks
      cases tasks with
      | some same =>
          unfold Tables.acquire Tables.updateIf
          simp only [found, found', free row found, free' row' found', if_true]
          cases ends : Tables.expiry v.now span with
          | error fault =>
              cases ends' : Tables.expiry w.now span with
              | error fault' => exact .inl ⟨fault, fault', rfl, rfl⟩
              | ok ending' =>
                  rw [ends, ends'] at agree
                  cases agree
          | ok ending =>
              cases ends' : Tables.expiry w.now span with
              | error fault' =>
                  rw [ends, ends'] at agree
                  cases agree
              | ok ending' =>
                  refine .inr ⟨_, _, rfl, rfl, alike.setTask found found' rfl ?_⟩
                  exact ⟨same.bare, same.columns, same.run, rfl⟩

omit aloof in
/-- A tick leaves the task alone in both shops, or it takes the task in both of them and goes on with it. -/
theorem tick_alike (perform : Request → StateM Shop Unit) (runner : Runner) (feedback : Option String)
    (alike : v.tables.Alike σ taskId w.tables)
    (same : v.graphs = w.graphs) (free : v.Free taskId runner.workerId) (free' : w.Free taskId runner.workerId)
    (agree : (Tables.expiry v.now runner.leaseSpan).isOk = (Tables.expiry w.now runner.leaseSpan).isOk) :
    ((tick perform runner taskId feedback).run v).2 = v ∧ ((tick perform runner taskId feedback).run w).2 = w ∨
    ∃ task task' g t t', v.tables.task? taskId = some task.row ∧ task.row.Alike σ task'.row ∧
      v.graphs.lookup task.row.workflowId = some g ∧ t.Alike σ taskId t' ∧
      v.tables.acquire v.now taskId runner.workerId runner.leaseSpan = .ok (some t) ∧
      w.tables.acquire w.now taskId runner.workerId runner.leaseSpan = .ok (some t') ∧
      (tick perform runner taskId feedback).run v =
        (releasing true taskId runner.workerId (advanceTask perform runner task g feedback)).run
          { v with tables := t } ∧
      (tick perform runner taskId feedback).run w =
        (releasing true taskId runner.workerId (advanceTask perform runner task' g feedback)).run
          { w with tables := t' } := by
  unfold tick
  rcases getTask_alike alike with
    ⟨fault, fault', looked, looked'⟩ | ⟨task, task', looked, looked', found, found', row⟩
  · rw [Work.run_bind_of_error looked, Work.run_bind_of_error looked']
    exact .inl ⟨rfl, rfl⟩
  · rw [Work.run_bind_of_ok looked, Work.run_bind_of_ok looked']
    simp only [← row.lifecycle]
    by_cases ended : task.row.columns.lifecycle.isTerminal = true
    · rw [if_pos ended, if_pos ended]
      exact .inl ⟨rfl, rfl⟩
    · rw [if_neg ended, if_neg ended]
      by_cases waits : task.row.columns.lifecycle = .feedback ∧ feedback = none
      · rw [if_pos waits, if_pos waits]
        exact .inl ⟨rfl, rfl⟩
      · rw [if_neg waits, if_neg waits, ← row.workflowId]
        have known : ∀ s : Shop, s.graphs = v.graphs → (graph task.row.workflowId).run s =
            ((v.graphs.lookup task.row.workflowId).elim (.error (.catalog (.unknown task.row.workflowId))) .ok,
              s) := by
          intro s its
          unfold graph
          rw [Work.run_bind_get, its]
          cases v.graphs.lookup task.row.workflowId <;> rfl
        cases listed : v.graphs.lookup task.row.workflowId with
        | none =>
            have lacking := known v rfl
            have lacking' := known w same.symm
            rw [listed] at lacking lacking'
            rw [Work.run_bind_of_error lacking, Work.run_bind_of_error lacking']
            exact .inl ⟨rfl, rfl⟩
        | some g =>
            have got := known v rfl
            have got' := known w same.symm
            rw [listed] at got got'
            rw [Work.run_bind_of_ok got, Work.run_bind_of_ok got']
            have took := run_attempt (fun t now => t.acquire now taskId runner.workerId runner.leaseSpan) v
            have took' := run_attempt (fun t now => t.acquire now taskId runner.workerId runner.leaseSpan) w
            rcases acquire_alike alike free free' agree found with
              ⟨fault, fault', taken, taken'⟩ | ⟨t, t', taken, taken', alike⟩
            · rw [taken] at took
              rw [taken'] at took'
              rw [Work.run_bind_of_error took, Work.run_bind_of_error took']
              exact .inl ⟨rfl, rfl⟩
            · rw [taken] at took
              rw [taken'] at took'
              refine .inr ⟨task, task', g, t, t', found, row, listed, alike, taken, taken', ?_, ?_⟩
              · rw [Work.run_bind_of_ok took]
                rfl
              · rw [Work.run_bind_of_ok took']
                rfl

omit aloof in
/-- A task that is given back here and there stands alike afterwards. -/
theorem release_matched (owner : String) (matched : Matched σ taskId v w) :
    Matched σ taskId { v with tables := v.tables.release taskId owner }
      { w with tables := w.tables.release taskId owner } := by
  have alike := matched.alike
  unfold Tables.release
  have given : Option.Rel (Tables.Alike σ taskId)
      (v.tables.updateIf taskId (Tables.heldBy (some owner)) fun row => { row with lease := none })
      (w.tables.updateIf taskId (Tables.heldBy (some owner)) fun row => { row with lease := none }) :=
    alike.updateIf (fun _ _ same => same.heldBy (some owner))
      (fun _ _ same => ⟨same.bare, same.columns, same.run, rfl⟩) fun _ => rfl
  cases lands : v.tables.updateIf taskId (Tables.heldBy (some owner)) fun row => { row with lease := none } with
  | none =>
      rw [lands] at given
      cases lands' : w.tables.updateIf taskId (Tables.heldBy (some owner))
          fun row => { row with lease := none } with
      | none => exact matched
      | some t' =>
          rw [lands'] at given
          cases given
  | some t =>
      rw [lands] at given
      cases lands' : w.tables.updateIf taskId (Tables.heldBy (some owner))
          fun row => { row with lease := none } with
      | none =>
          rw [lands'] at given
          cases given
      | some t' =>
          rw [lands'] at given
          obtain ⟨row, -, -, rfl⟩ := Tables.updateIf_some lands
          obtain ⟨row', -, -, rfl⟩ := Tables.updateIf_some lands'
          cases given with
          | some alike => exact ⟨alike, matched.unused, matched.unused'⟩

omit aloof in
/-- What there is to say of a shop where a task was taken. -/
theorem acquired {s : Shop} {owner : String} {span : Instant.Seconds} {t : Tables}
    (taken : s.tables.acquire s.now taskId owner span = .ok (some t)) :
    (Tables.expiry s.now span).isOk = true ∧ (∃ row, t.task? taskId = some row) ∧ t.rows = s.tables.rows ∧
      (s.Orderly → { s with tables := t : Shop }.Orderly) := by
  have claims : Writes .everything fun t now => t.acquire now taskId owner span :=
    Writes.claim trivial owner span fun now => Tables.isFree now owner
  have claimed : s.Orderly → { s with tables := t : Shop }.Orderly := fun orderly =>
    reached_orderly orderly (claims s t taken (.inl orderly))
  unfold Tables.acquire at taken
  cases ends : Tables.expiry s.now span with
  | error fault =>
      rw [ends] at taken
      cases taken
  | ok ending =>
      rw [ends] at taken
      obtain ⟨row, found, -, rfl⟩ := Tables.updateIf_some (Except.ok.inj taken)
      have its := Tables.taskId_of_task? found
      have own : TaskRow.taskId { row with lease := some ⟨owner, ending⟩ } = taskId := its
      exact ⟨rfl, ⟨_, Tables.task?_setTask found own⟩, rfl, claimed⟩

/-- A task that is free stands alike after a tick in both shops, unless a claim would end beyond the calendar
in one of them. -/
theorem tick_matched_of_unlost (distinct : Function.Injective σ) (runner : Runner) (feedback : Option String)
    (matched : Matched σ taskId v w) (orderly : v.Orderly) (orderly' : w.Orderly) (same : v.graphs = w.graphs)
    (steady : ∀ row g, v.tables.task? taskId = some row → v.graphs.lookup row.workflowId = some g →
      g.Every (Steady perform))
    (free : v.Free taskId runner.workerId) (free' : w.Free taskId runner.workerId)
    (renames : v.rowCount < ((tick perform runner taskId feedback).run v).2.rowCount →
      w.rowCount < ((tick perform runner taskId feedback).run w).2.rowCount →
      σ (rowName (v.rowCount + 1)) = rowName (w.rowCount + 1))
    (agree : (Tables.expiry v.now runner.leaseSpan).isOk = (Tables.expiry w.now runner.leaseSpan).isOk)
    (lasts : (Tables.expiry v.now runner.leaseSpan).isOk = true →
      Unlost runner.leaseSpan ((tick perform runner taskId feedback).run v))
    (lasts' : (Tables.expiry w.now runner.leaseSpan).isOk = true →
      Unlost runner.leaseSpan ((tick perform runner taskId feedback).run w)) :
    Matched σ taskId ((tick perform runner taskId feedback).run v).2
      ((tick perform runner taskId feedback).run w).2 := by
  rcases tick_alike perform runner feedback matched.alike same free free' agree with
    ⟨stays, stays'⟩ | ⟨task, task', g, t, t', found, row, listed, alike, taken, taken', ran, ran'⟩
  · rw [stays, stays']
    exact matched
  · rw [ran] at lasts renames ⊢
    rw [ran'] at lasts' renames ⊢
    obtain ⟨ends, ⟨held, there⟩, rows, ready⟩ := acquired taken
    obtain ⟨ends', ⟨held', there'⟩, rows', ready'⟩ := acquired taken'
    have tasks := alike.task
    rw [there, there'] at tasks
    cases tasks with
    | some together =>
        have unused : t.Unused v.eventCount := by
          unfold Tables.Unused
          rw [rows]
          exact matched.unused
        have unused' : t'.Unused w.eventCount := by
          unfold Tables.Unused
          rw [rows']
          exact matched.unused'
        exact release_matched runner.workerId <|
          advanceTask_matched aloof distinct runner (Tables.taskId_of_task? found) row (steady _ g found listed)
            feedback (v := { v with tables := t }) (w := { w with tables := t' }) ⟨alike, unused, unused'⟩ there
            there' together (ready orderly) (ready' orderly') renames (lasts ends).of_releasing
            (lasts' ends').of_releasing

/-- A task that is free stands alike after a tick in both shops, if the ends of claims do not leave the
calendar meanwhile. -/
theorem tick_matched (distinct : Function.Injective σ) (runner : Runner) (feedback : Option String)
    (matched : Matched σ taskId v w) (orderly : v.Orderly) (orderly' : w.Orderly) (same : v.graphs = w.graphs)
    (steady : ∀ row g, v.tables.task? taskId = some row → v.graphs.lookup row.workflowId = some g →
      g.Every (Steady perform))
    (free : v.Free taskId runner.workerId) (free' : w.Free taskId runner.workerId)
    (renames : v.rowCount < ((tick perform runner taskId feedback).run v).2.rowCount →
      w.rowCount < ((tick perform runner taskId feedback).run w).2.rowCount →
      σ (rowName (v.rowCount + 1)) = rowName (w.rowCount + 1))
    {yes : Bool} (lasts : Lasts runner.leaseSpan v.now ((tick perform runner taskId feedback).run v).2.now yes)
    (lasts' : Lasts runner.leaseSpan w.now ((tick perform runner taskId feedback).run w).2.now yes) :
    Matched σ taskId ((tick perform runner taskId feedback).run v).2
      ((tick perform runner taskId feedback).run w).2 := by
  have onward : ∀ request (s : Shop), Onward (.only taskId) s (perform request s).2 := aloof.onward
  have later := reached_later (tick_onward onward runner rfl feedback v (.inl orderly))
  have later' := reached_later (tick_onward onward runner rfl feedback w (.inl orderly'))
  have first := lasts v.now (Int.le_refl _) later
  have first' := lasts' w.now (Int.le_refl _) later'
  refine tick_matched_of_unlost aloof distinct runner feedback matched orderly orderly' same steady free free'
    renames (first.trans first'.symm) (fun ends => ?_) fun ends => ?_
  · obtain rfl : yes = true := first.symm.trans ends
    exact lasts.unlost later
  · obtain rfl : yes = true := first'.symm.trans ends
    exact lasts'.unlost later'

end Ticks

end Shop

end Tickwork
