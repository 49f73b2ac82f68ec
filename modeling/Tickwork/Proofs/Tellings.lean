import Tickwork.Proofs.Closings
import Tickwork.Proofs.Commuting

/-!
# What a tick tells of its task

A tick gives a report, tells the source of its task what became of it, and leaves the task in the tables. Main
statements: the row of the task, the row of its run and what was told of its stage agree with the ending that is
reported; and a tick that does not give its task up reports every transition that it stored and tells every page
that came with one. A tick that gives its task up stores its transitions too, but it reports none of them and
tells none of their pages.
-/

set_option autoImplicit false

namespace Tickwork

/-! ## Kinds of notices -/

namespace Notice

/-- Whether a notice tells of a page. -/
def isPage : Notice → Bool
  | .page .. => true
  | _ => false

/-- Whether a notice tells of another stage. -/
def isChange : Notice → Bool
  | .lifecycle .. => true
  | _ => false

end Notice

namespace Shop

theorem page_of_pageNotice {relay : Relay} {task : TaskRow} {page : Value} {notice : Notice}
    (noticed : pageNotice relay task page = .ok notice) : notice.isPage = true ∧ notice.isChange = false := by
  unfold pageNotice at noticed
  repeat' split at noticed
  all_goals cases noticed
  all_goals exact ⟨rfl, rfl⟩

section Kinds

variable {relay : Relay} {task : TaskRow} {pages : List Value} {told : List Notice}

theorem Published.isPage (published : Published relay task pages told) :
    ∀ notice ∈ told, notice.isPage = true ∧ notice.isChange = false := by
  induction published with
  | nil => exact nofun
  | cons noticed _ ih =>
      intro notice inside
      rcases List.mem_cons.mp inside with rfl | later
      · exact page_of_pageNotice noticed
      · exact ih notice later

variable (taskId : String) (ending : Ending) (message : Option String) (previous : Lifecycle) (q : Progress)

/-- Of what is said where a tick is over, the pages are the notices of pages. -/
theorem Published.filter_isPage (published : Published relay task pages told) :
    (told ++ questionOf taskId ending message ++ changeOf taskId previous q).filter Notice.isPage = told := by
  have all : told.filter Notice.isPage = told :=
    List.filter_eq_self.mpr fun notice inside => (published.isPage notice inside).1
  unfold questionOf changeOf
  split <;> split <;> simp [List.filter_append, all, Notice.isPage]

/-- Of what is said where a tick is over, the stage is told where it is another one. -/
theorem Published.filter_isChange (published : Published relay task pages told) :
    (told ++ questionOf taskId ending message ++ changeOf taskId previous q).filter Notice.isChange =
      changeOf taskId previous q := by
  have none' : told.filter Notice.isChange = [] :=
    List.filter_eq_nil_iff.mpr fun notice inside => by simp [(published.isPage notice inside).2]
  unfold questionOf changeOf
  split <;> split <;> simp [List.filter_append, none', Notice.isChange]

end Kinds

/-! ## Transitions and pages -/

/-- Whatever factory a task has and whatever its callables do besides touching the tables, for a runner with
room for one step at least, as `Budget.clamped` leaves it: a tick that gives a report left its task alone and
changed nothing, or its log carries pages and transitions, by which the stored count has grown. Then it reports
these transitions and tells these pages, each once and in order; or it gave the task up after them, and then it
reports no transition and tells nothing but that the task failed. -/
theorem ticks_tell_their_work {perform : Request → StateM Shop Unit} (reserved : Reserved perform)
    {runner : Runner} (room : 0 < runner.budget.perTick) {taskId : String} {feedback : Option String}
    {s after : Shop} (orderly : s.Orderly) (valid : ∀ id g, s.graphs.lookup id = some g → g.violations = [])
    {report : TickReport} (ticked : (tick perform runner taskId feedback).run s = (.ok report, after)) :
    (report.skipped = true ∧ report.transitions = 0 ∧ after = s) ∨
    ∃ task g landed fr begun written rest pages moved w row said,
      (getTask taskId).run s = (.ok task, s) ∧ s.graphs.lookup task.row.workflowId = some g ∧ fr.graph = g ∧
      s.tables.acquire s.now taskId runner.workerId runner.leaseSpan = .ok landed ∧
      deedsOf perform runner task g feedback { s with tables := landed.getD s.tables } = written ++ rest ∧
      Engine.Carried (host perform runner taskId) fr begun written pages moved w ∧
      after.tables.task? taskId = some row ∧
      row.columns.transitionCount = task.row.columns.transitionCount + moved ∧
      after.notices = s.notices ++ said ∧ report.skipped = false ∧
      ((rest = [] ∧ report.transitions = moved ∧ Published s.relay task.row pages (said.filter Notice.isPage)) ∨
        ∃ calls p before left, ∃ cause : FatalCause, rest = calls ++ [.wrote none p before (.ok ()) left] ∧
          (∀ deed ∈ calls, deed.IsCall) ∧ p.lifecycle = .failed ∧
          report = ⟨taskId, some .failed, 0, some cause.message, false⟩ ∧
          said = [.lifecycle taskId task.row.columns.lifecycle .failed (some cause.message)]) := by
  rcases tick_reported reserved room orderly valid ticked with
    ⟨row, found, alone, rfl⟩ | ⟨task, g, landed, p, fr, begun, looked, rfl, known, taken, read, frame, reported⟩
  · refine .inl ⟨alone.skipped, ?_, rfl⟩
    cases alone <;> rfl
  · have counted := (TaskRow.shows_of_progress read).1.transitionCount
    have staged := (TaskRow.shows_of_progress read).1.lifecycle
    generalize deeds : deedsOf perform runner task g feedback _ = log at reported
    cases reported with
    | @told _ pages moved w q ending message carried count stage closed =>
        obtain ⟨row, found, -, shows⟩ := closed.stands.row
        obtain ⟨told, published, said⟩ := closed.said
        refine .inr ⟨task, g, landed, fr, begun, log, [], pages, moved, w, row, _, looked, known, frame, taken,
          deeds.trans (List.append_nil log).symm, carried, closed.own ▸ found, ?_, said, rfl, .inl ⟨rfl, rfl, ?_⟩⟩
        · rw [shows.transitionCount, count, counted]
        · rw [published.filter_isPage]
          exact published
    | @gaveUp written calls pages moved w before last q cause carried called count failed changed closed =>
        obtain ⟨row, found, -, shows⟩ := closed.stands.row
        obtain ⟨told, published, said⟩ := closed.said
        refine .inr ⟨task, g, landed, fr, begun, written, _, pages, moved, w, row, _, looked, known, frame, taken,
          deeds.trans (List.append_assoc ..), carried, closed.own ▸ found, ?_, said, rfl,
          .inr ⟨calls, q, before, last, cause, rfl, called, failed, rfl, ?_⟩⟩
        · rw [shows.transitionCount, count, counted]
        · cases published
          rw [changed, staged]
          rfl

/-- A factory whose first step is done with a page and whose second step reports a status that there is
not. -/
def showThenStray : Graph Code where
  id := "demo"
  start := "work"
  context := []
  states :=
    [("work", .action (.slot (.code (.script 0 (.literal
        (.result (.str "done") .null .null (.page (.str "Notes") (.str "Draft"))))) .whole))
        ⟨some "more", some "finish", none⟩ none),
      ("more", .action (.slot (.code (.script 1 (.literal (plainReport "astray"))) .whole))
        ⟨some "finish", some "finish", none⟩ none),
      ("finish", .terminal .done none)]
  guards := []
  handlers := []

def strayShop : Shop := { pairShop quickStep with graphs := [("demo", showThenStray)] }

theorem strayShop_orderly : strayShop.Orderly :=
  have orderly := pairShop_orderly quickStep
  ⟨orderly.distinct, orderly.owned, orderly.runs, orderly.active, orderly.rows⟩

theorem strayShop_valid (id : String) (g : Graph Code) (found : strayShop.graphs.lookup id = some g) :
    g.violations = [] := by
  have inside := Graph.mem_of_lookup found
  cases List.mem_singleton.mp inside
  decide

theorem reserved_lettingTimePass : Reserved lettingTimePass := by
  intro request s
  cases request <;> rfl

def strayMessage : String := "Handler for state `more` returned unsupported status `astray`"

/-- What a tick gave, what was said by then, and the count that it stored for its task. -/
def outcome (ticked : Except Fault TickReport × Shop) : Option TickReport × List Notice × Option Int :=
  (ticked.1.toOption, ticked.2.notices,
    (ticked.2.tables.task? "t1").map fun row => row.columns.transitionCount)

theorem strayTick_ended :
    ∃ after, (tick lettingTimePass (claimant 30) "t1" none).run strayShop =
        (.ok ⟨"t1", some .failed, 0, some strayMessage, false⟩, after) ∧
      after.notices = [.lifecycle "t1" .queued .failed (some strayMessage)] ∧
      (after.tables.task? "t1").map (fun row => row.columns.transitionCount) = some 1 := by
  have ended : outcome ((tick lettingTimePass (claimant 30) "t1" none).run strayShop) =
      (some ⟨"t1", some .failed, 0, some strayMessage, false⟩,
        [.lifecycle "t1" .queued .failed (some strayMessage)], some 1) := by decide +kernel
  generalize (tick lettingTimePass (claimant 30) "t1" none).run strayShop = ticked at ended ⊢
  obtain ⟨result, after⟩ := ticked
  obtain ⟨given, said, counted⟩ : result.toOption = _ ∧ after.notices = _ ∧
      (after.tables.task? "t1").map (fun row => row.columns.transitionCount) = some 1 := by
    simpa [outcome] using ended
  cases result with
  | error fault => cases given
  | ok report =>
      obtain rfl := Option.some.inj given
      exact ⟨after, rfl, said, counted⟩

/-- The first step has brought its page and its transition is stored, but the tick says only that the task
failed. -/
theorem ticks_tell_their_work_stray :
    ∃ after, (tick lettingTimePass (claimant 30) "t1" none).run strayShop =
        (.ok ⟨"t1", some .failed, 0, some strayMessage, false⟩, after) ∧
      after.notices = [.lifecycle "t1" .queued .failed (some strayMessage)] ∧
      ∃ fr begun written pages w,
        Engine.Carried (host lettingTimePass (claimant 30) "t1") fr begun written pages 1 w := by
  obtain ⟨after, came, said, counted⟩ := strayTick_ended
  refine ⟨after, came, said, ?_⟩
  rcases ticks_tell_their_work reserved_lettingTimePass (by decide) strayShop_orderly strayShop_valid came with
    ⟨skipped, -⟩ | ⟨task, g, landed, fr, begun, written, rest, pages, moved, w, row, told, looked, -, -, -, -,
      carried, found, grown, -⟩
  · cases skipped
  · have fresh : (strayShop.tables.task? "t1").map (fun row => row.columns.transitionCount) = some 0 := by decide
    rw [found_of_getTask looked] at fresh
    rw [found] at counted
    have before : task.row.columns.transitionCount = 0 := Option.some.inj fresh
    have now : row.columns.transitionCount = 1 := Option.some.inj counted
    obtain rfl : moved = 1 := by omega
    exact ⟨fr, begun, written, pages, w, carried⟩

/-! ## Coherence -/

/-- The row of a task, the row of its run and what was said agree about how a tick ended, which began with the
task at some stage. -/
structure Coherent (taskId : String) (previous : Lifecycle) (ending : Ending) (said : List Notice) (t : Tables)
    (row : TaskRow) (run : RunRow) : Prop where
  found : t.task? taskId = some row
  stage : row.columns.lifecycle = ending.stage
  active : row.activeRunId = some run.runId
  its : t.run? run.runId = some run
  status : run.status = runStatusOf ending
  closed : run.ended = true ↔ ending ∈ [Ending.done, .blocked, .failed]
  told : said.filter Notice.isChange =
    if row.columns.lifecycle = previous then []
    else [.lifecycle taskId previous row.columns.lifecycle row.columns.lastError]

theorem Closed.coherent {task : TaskRow} {previous : Lifecycle} {runId : String} {q : Progress} {ending : Ending}
    {message : Option String} {pages : List Value} {s after : Shop}
    (closed : Closed task previous runId q ending message pages s after) (stage : q.lifecycle = ending.stage) :
    ∃ row run said, after.notices = s.notices ++ said ∧
      Coherent task.taskId previous ending said after.tables row run := by
  obtain ⟨row, found, names, shows⟩ := closed.stands.row
  obtain ⟨run, there, status, ended⟩ := closed.stands.run
  obtain ⟨told, published, said⟩ := closed.said
  obtain ⟨-, rfl⟩ := Step.run?_mem there
  refine ⟨row, run, _, said, closed.own ▸ found, shows.lifecycle.trans stage, names, there, status, ?_, ?_⟩
  · rw [ended]
    cases ending <;> simp [runStatusOf, RunStatus.isEnd]
  · rw [published.filter_isChange, changeOf, shows.lifecycle, shows.lastError]

/-- Whatever is in the shop and whatever callables do besides touching the tables: a tick that gives a report
either skipped its task, which had ended, waited for a reply that was not given, or was leased to another worker
whose lease had not run out while the runner needs the lease, and then the shop is as it was; or it ended with
the reported ending, and then the row of the task, the row of its run and what was said of its stage agree with
that ending. -/
theorem ticks_are_coherent {perform : Request → StateM Shop Unit} (reserved : Reserved perform)
    {runner : Runner} (room : 0 < runner.budget.perTick) {taskId : String} {feedback : Option String}
    {s after : Shop} (orderly : s.Orderly) (valid : ∀ id g, s.graphs.lookup id = some g → g.violations = [])
    {report : TickReport} (ticked : (tick perform runner taskId feedback).run s = (.ok report, after)) :
    ∃ before, s.tables.task? taskId = some before ∧
      ((report.skipped = true ∧ after = s ∧ LeftAlone runner feedback s.now before report) ∨
        ∃ ending row run said, report.skipped = false ∧ report.ending = some ending ∧
          after.notices = s.notices ++ said ∧
          Coherent taskId before.columns.lifecycle ending said after.tables row run) := by
  rcases tick_reported reserved room orderly valid ticked with
    ⟨row, found, alone, rfl⟩ | ⟨task, g, landed, p, fr, begun, looked, rfl, -, -, read, -, reported⟩
  · exact ⟨row, found, .inl ⟨alone.skipped, rfl, alone⟩⟩
  · have staged := (TaskRow.shows_of_progress read).1.lifecycle
    refine ⟨task.row, found_of_getTask looked, .inr ?_⟩
    rw [staged]
    generalize deedsOf perform runner task g feedback _ = log at reported
    cases reported with
    | told carried count stage closed =>
        obtain ⟨row, run, said, spoken, coherent⟩ := closed.coherent stage
        exact ⟨_, row, run, said, rfl, rfl, spoken, coherent⟩
    | gaveUp carried called count failed changed closed =>
        obtain ⟨row, run, said, spoken, coherent⟩ := closed.coherent failed
        exact ⟨_, row, run, said, rfl, rfl, spoken, coherent⟩

/-- Where the tick gives its task up, its task and its run have failed, and it says so once. -/
theorem ticks_are_coherent_stray :
    ∃ after row run said, (tick lettingTimePass (claimant 30) "t1" none).run strayShop =
        (.ok ⟨"t1", some .failed, 0, some strayMessage, false⟩, after) ∧
      Coherent "t1" .queued .failed said after.tables row run := by
  obtain ⟨after, came, -⟩ := strayTick_ended
  obtain ⟨before, found, ⟨skipped, -⟩ | ⟨ending, row, run, said, -, same, -, coherent⟩⟩ :=
    ticks_are_coherent reserved_lettingTimePass (by decide) strayShop_orderly strayShop_valid came
  · cases skipped
  · obtain rfl := Option.some.inj same
    have fresh : (strayShop.tables.task? "t1").map (fun row => row.columns.lifecycle) = some .queued := by decide
    rw [found] at fresh
    have stage : before.columns.lifecycle = .queued := Option.some.inj fresh
    rw [stage] at coherent
    exact ⟨after, row, run, said, came, coherent⟩

end Shop

end Tickwork
