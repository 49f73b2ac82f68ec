import Tickwork.Proofs.Carried
import Tickwork.Proofs.Recording
import Tickwork.Proofs.Standing

/-!
# Where a tick leaves its task

A task stands in three places: in its row, in the row of its run, and in the tick that works on it. `Stands`
says that the tables have a task as a progress has it, and how its run stands. Every write of a tick keeps the
tables abreast of the tick, as long as callables leave them alone. Main statement: a tick that reports has
closed its run by the ending that it reports, and has said of its task what the tables show.
-/

set_option autoImplicit false

namespace Tickwork

/-! ## Tasks and their runs -/

/-- Columns show where a task stands: its stage, its last error and its count. -/
structure Columns.Shows (c : Columns) (p : Progress) : Prop where
  lifecycle : c.lifecycle = p.lifecycle
  lastError : c.lastError = p.lastError
  transitionCount : c.transitionCount = p.transitionCount

theorem Columns.shows_of_stored {p : Progress} {kept : Columns} (stored : p.columns.stored = .ok kept) :
    kept.Shows p := by
  obtain ⟨context, attempts, loopIterations, -, -, -, rfl⟩ := Columns.stored_eq stored
  exact ⟨rfl, rfl, rfl⟩

theorem TaskRow.shows_of_progress {row : TaskRow} {p : Progress} (read : row.progress = .ok p) :
    row.columns.Shows p ∧ p.taskId = row.taskId := by
  obtain ⟨context, attempts, loopIterations, -, rfl⟩ := TaskRow.progress_eq read
  exact ⟨⟨rfl, rfl, rfl⟩, rfl⟩

/-- A task stands in the tables as in a progress, and its run stands in some way. -/
structure Tables.Stands (t : Tables) (runId : String) (p : Progress) (status : RunStatus) (ended : Bool) :
    Prop where
  row : ∃ row, t.task? p.taskId = some row ∧ row.activeRunId = some runId ∧ row.columns.Shows p
  run : ∃ run, t.run? runId = some run ∧ run.status = status ∧ run.ended = ended

namespace Tables.Stands

variable {t after : Tables} {runId : String} {p q : Progress} {status : RunStatus} {ended : Bool}
variable {now : Instant}

/-- What does not show in columns does not matter. -/
theorem of_shown (stands : t.Stands runId p status ended) (task : q.taskId = p.taskId)
    (shown : q.lifecycle = p.lifecycle ∧ q.lastError = p.lastError ∧
      q.transitionCount = p.transitionCount) : t.Stands runId q status ended where
  row := by
    obtain ⟨row, found, names, shows⟩ := stands.row
    exact ⟨row, task ▸ found, names, shows.lifecycle.trans shown.1.symm, shows.lastError.trans shown.2.1.symm,
      shows.transitionCount.trans shown.2.2.symm⟩
  run := stands.run

/-- A row that is changed besides its columns and its run shows the same. -/
theorem updateIf {condition : TaskRow → Bool} {change : TaskRow → TaskRow}
    (stands : t.Stands runId p status ended) (lands : t.updateIf p.taskId condition change = some after)
    (same : ∀ row, (change row).taskId = row.taskId ∧ (change row).columns = row.columns ∧
      (change row).activeRunId = row.activeRunId) : after.Stands runId p status ended := by
  obtain ⟨row, found, -, rfl⟩ := updateIf_some lands
  obtain ⟨⟨row', found', names, shows⟩, run⟩ := stands
  obtain rfl : row = row' := Option.some.inj (found.symm.trans found')
  obtain ⟨task, columns, run'⟩ := same row
  exact ⟨⟨change row, task?_setTask found (task.trans (taskId_of_task? found)), run'.trans names,
    columns ▸ shows⟩, run⟩

theorem renew {owner : String} {span : Instant.Seconds} (stands : t.Stands runId p status ended)
    (lands : t.renew now p.taskId owner span = .ok (some after)) : after.Stands runId p status ended := by
  unfold Tables.renew at lands
  cases ends : expiry now span with
  | error fault =>
      rw [ends] at lands
      cases lands
  | ok ending =>
      rw [ends] at lands
      exact stands.updateIf (Except.ok.inj lands) fun _ => ⟨rfl, rfl, rfl⟩

theorem release (stands : t.Stands runId p status ended) (owner : String) :
    (t.release p.taskId owner).Stands runId p status ended := by
  unfold Tables.release
  cases lands : t.updateIf p.taskId (heldBy (some owner)) fun row => { row with lease := none } with
  | none => exact stands
  | some after => exact stands.updateIf lands fun _ => ⟨rfl, rfl, rfl⟩

theorem checkpoint {owner : Option String} (stands : t.Stands runId p status ended)
    (task : q.taskId = p.taskId) (lands : t.checkpoint now q.taskId q.columns owner = .ok (some after)) :
    after.Stands runId q status ended := by
  obtain ⟨kept, old, stored, found, -, rfl⟩ := checkpoint_iff.mp lands
  obtain ⟨⟨row, found', names, -⟩, run⟩ := stands
  obtain rfl : old = row := Option.some.inj ((task ▸ found).symm.trans found')
  have its := taskId_of_task? found
  have own : TaskRow.taskId { old with columns := kept, updatedAt := now } = q.taskId := its
  exact ⟨⟨_, task?_setTask found own, names, Columns.shows_of_stored stored⟩, run⟩

theorem record {owner : Option String} {row : Transition} (stands : t.Stands runId p status ended)
    (task : q.taskId = p.taskId)
    (lands : t.record now row none q.taskId q.columns owner = .ok (some after)) :
    after.Stands runId q status ended := by
  obtain ⟨middle, wrote, added⟩ := record_ok_iff.mp lands
  obtain ⟨-, rfl⟩ := addRow_iff.mp added
  obtain ⟨row, run⟩ := stands.checkpoint task wrote
  exact ⟨row, run⟩

/-- A run that is closed or goes on by a status. -/
theorem finishRun {status' : RunStatus} (stands : t.Stands runId p status ended)
    (lands : t.finishRun runId status' = .ok after) :
    after.Stands runId p status' (ended || status'.isEnd) := by
  obtain ⟨row, run, found, -, rfl⟩ := stands
  unfold Tables.finishRun at lands
  rw [found] at lands
  cases lands
  refine ⟨row, _, by rw [run?_setRun, found]; rfl, ?_⟩
  obtain ⟨-, named⟩ := Shop.Step.run?_mem found
  simp [named]

/-- A run that is opened under a new name goes on. -/
theorem openRun {row : TaskRow} {taskId : String} (found : t.task? taskId = some row)
    (task : p.taskId = taskId) (shows : row.columns.Shows p) (unknown : t.run? runId = none) :
    (t.openRun now row runId).Stands runId p .running false where
  row := by
    have own := taskId_of_task? found
    refine ⟨{ row with activeRunId := some runId, updatedAt := now }, ?_, rfl, shows⟩
    rw [task]
    exact task?_setTask (t := { t with runs := t.runs ++ [⟨runId, row.taskId, .running, false⟩] }) found own
  run := by
    refine ⟨⟨runId, row.taskId, .running, false⟩, ?_, rfl, rfl⟩
    unfold run? at unknown ⊢
    simp [Tables.openRun, setTask, List.find?_append, unknown]

end Tables.Stands

namespace Shop

/-! ## What callables leave alone -/

/-- The tables of a shop, and what its runners have said. -/
def onRecord (s : Shop) : Tables × List Notice × Relay := (s.tables, s.notices, s.relay)

/-- What callables ask for leaves the tables alone, and the runners are the only ones to speak. -/
abbrev Reserved (perform : Request → StateM Shop Unit) : Prop := Spares onRecord perform

variable {perform : Request → StateM Shop Unit} {runner : Runner} {taskId : String} {fr : Frame Code}

theorem idles_onRecord {w w' : Shop} (idles : Engine.Idles (host perform runner taskId) w w') :
    onRecord w' = onRecord w := by
  obtain ⟨eventCount, waits, rfl⟩ := idles_shop idles
  rfl

theorem asked_onRecord (reserved : Reserved perform) {a : Spot Shop} {id : String} {node : State Code}
    {q : Engine.Question Code} {j : Engine.Judgement Engine.Verdict} {w : Shop}
    (asked : Engine.Asked (host perform runner taskId) fr a id node q j w) :
    onRecord w = onRecord a.world := by
  have consults := q.ask_consults (host perform runner taskId).behaviour a.world
  rw [asked.leaves] at consults
  have leaves : ∀ f call s, onRecord ((host perform runner taskId).behaviour f call s).2 = onRecord s :=
    Routine.behaviour_leaves (fun _ _ => rfl) reserved
  exact consults.view leaves

/-! ## Writes -/

/-- The writes of a tick do not end its task. -/
theorem host_mild (perform : Request → StateM Shop Unit) (runner : Runner) (taskId : String) :
    (host perform runner taskId).Mild where
  checkpoint p := calm_leasedWrite taskId _ _ fun t now => t.calm_checkpoint now p.taskId p.columns _
  record row p := calm_leasedWrite taskId _ _ fun t now => t.calm_record now row none p.taskId p.columns _

/-- What a tick writes of its task stands in the tables. -/
theorem written_stands {row : Option Transition} {runId : String} {p q : Progress} {status : RunStatus}
    {ended : Bool} {s after : Shop} (own : p.taskId = taskId) (same : q.taskId = p.taskId)
    (stands : s.tables.Stands runId p status ended)
    (wrote : ((host perform runner taskId).write row q).run s = (.ok (), after)) :
    after.tables.Stands runId q status ended ∧ after.notices = s.notices ∧ after.relay = s.relay := by
  subst own
  have extended : ∀ t, (t = s.tables ∨ ∃ owner, s.tables.renew s.now p.taskId owner runner.leaseSpan =
      .ok (some t)) → t.Stands runId p status ended := by
    rintro t (rfl | ⟨owner, renewed⟩)
    · exact stands
    · exact stands.renew renewed
  cases row with
  | none =>
      obtain ⟨t, source, lands, rest⟩ := leasedWrite_lands wrote
      exact ⟨(extended t source).checkpoint same lands, by rw [rest], by rw [rest]⟩
  | some row =>
      obtain ⟨t, source, lands, rest⟩ := leasedWrite_lands wrote
      exact ⟨(extended t source).record same lands, by rw [rest], by rw [rest]⟩

/-! ## Advances -/

/-- The tables have a task as its tick has it, and nothing was said since the tick began. -/
structure Abreast (taskId runId : String) (start : Shop) (a : Spot Shop) : Prop where
  own : a.stance.progress.taskId = taskId
  stands : a.world.tables.Stands runId a.stance.progress .running false
  notices : a.world.notices = start.notices
  relay : a.world.relay = start.relay

variable {runId : String} {start : Shop} {a b : Spot Shop}

/-- A tick begins abreast of the tables: its task goes on with a run of its own that is open. -/
theorem started_abreast {s after : Shop} (orderly : s.Orderly) {row : TaskRow}
    (found : s.tables.task? taskId = some row) {p : Progress} (read : row.progress = .ok p)
    (notices : s.notices = start.notices) (relay : s.relay = start.relay)
    (started : (startRun taskId).run s = (.ok runId, after)) :
    Abreast taskId runId start ⟨⟨p, none⟩, after⟩ := by
  obtain ⟨shows, task⟩ := TaskRow.shows_of_progress read
  have mine : p.taskId = taskId := task.trans (Tables.taskId_of_task? found)
  rw [run_startRun found] at started
  cases active : s.tables.activeRun? row with
  | some run =>
      rw [active] at started
      cases started
      obtain ⟨names, there, going⟩ := activeRun?_some active
      refine ⟨mine, ⟨⟨row, mine ▸ found, names, shows⟩, { run with status := .running }, ?_, rfl, going⟩,
        notices, relay⟩
      simp [Tables.continueRun, Tables.run?_setRun, there]
  | none =>
      rw [active] at started
      cases started
      exact ⟨mine, .openRun found mine shows orderly.unopened, notices, relay⟩

theorem Abreast.wrote (abreast : Abreast taskId runId start a) (row : Option Transition) {s : Stance}
    {w w' w'' : Shop} (left : onRecord w = onRecord a.world)
    (same : s.progress.taskId = a.stance.progress.taskId)
    (wrote : ((host perform runner taskId).write row s.progress).run w = (.ok (), w'))
    (waits : onRecord w'' = onRecord w') : Abreast taskId runId start ⟨s, w''⟩ := by
  obtain ⟨tables, said⟩ := Prod.mk.inj left
  obtain ⟨notices, relay⟩ := Prod.mk.inj said
  obtain ⟨tables', said'⟩ := Prod.mk.inj waits
  obtain ⟨notices', relay'⟩ := Prod.mk.inj said'
  obtain ⟨stands, unsaid, unturned⟩ :=
    written_stands abreast.own same (tables.symm ▸ abreast.stands) wrote
  exact ⟨same.trans abreast.own, tables'.symm ▸ stands,
    notices'.trans (unsaid.trans (notices.trans abreast.notices)),
    relay'.trans (unturned.trans (relay.trans abreast.relay))⟩

/-- Each pass of a tick keeps the tables abreast of it. -/
theorem Abreast.pass (reserved : Reserved perform) (abreast : Abreast taskId runId start a)
    (pass : Engine.Pass (host perform runner taskId) fr a b) : Abreast taskId runId start b := by
  cases pass with
  | unasked plain wrote =>
      exact abreast.wrote none (idles_onRecord plain.idles) plain.taskId wrote rfl
  | @visit row s w w' w'' due wrote waits =>
      obtain ⟨id, node, q, j, verdict, now, world, asked, -, -, -, idles⟩ := due.asked
      exact abreast.wrote (some row) ((idles_onRecord idles).trans (asked_onRecord reserved asked))
        due.taskId wrote (idles_onRecord waits)

/-- Where a tick is broken off for good, nothing was written since the last pass. -/
theorem cut_onRecord (reserved : Reserved perform) {cause : FatalCause} {named : Option String}
    (cut : Engine.Cut (host perform runner taskId) fr a (.fatal cause named) b) :
    onRecord b.world = onRecord a.world ∧ b.stance.progress.taskId = a.stance.progress.taskId := by
  have unmoved : ∀ {id node q j w}, Engine.Asked (host perform runner taskId) fr a id node q j w →
      j.after.progress.taskId = a.stance.progress.taskId := fun asked =>
    asked.judged ▸ (Engine.reacted_samePlace _ _ _ _).taskId
  cases cut with
  | stuck => exact ⟨rfl, rfl⟩
  | overlong calm => cases calm
  | judged asked refused => exact ⟨asked_onRecord reserved asked, unmoved asked⟩
  | unrouted asked decided => exact ⟨asked_onRecord reserved asked, unmoved asked⟩
  | unwritten plain broke =>
      have calm := (host_mild perform runner taskId).checkpoint _ _ _ (congrArg Prod.fst broke)
      cases calm
  | unrecorded due broke =>
      have calm := (host_mild perform runner taskId).record _ _ _ _ (congrArg Prod.fst broke)
      cases calm

/-- Where an advance ends, unless a fault escapes, the tables have its task as the advance gives it. -/
theorem advance_abreast (reserved : Reserved perform) {g : Graph Code} (whole : g.WholeLimits)
    (budget : Budget) (task : TaskInfo) (tickId feedback : Option String) {p q : Progress} {s after : Shop}
    {result : Except Fault Finish} (active : p.lifecycle.isTerminal = false)
    (abreast : Abreast taskId runId start ⟨⟨p, none⟩, s⟩)
    (ran : Engine.advance (host perform runner taskId) budget g task runId tickId feedback p s =
      ((result, q), after)) (final : ∀ fault, result = .error fault → fault.isFatal = true) :
    Abreast taskId runId start ⟨⟨q, none⟩, after⟩ := by
  have ended := Engine.advance_ends (host perform runner taskId) whole budget task runId tickId feedback p s
    active
  have drawn : onRecord (Engine.tickIdFor (host perform runner taskId) tickId s).2 = onRecord s := by
    unfold Engine.tickIdFor
    cases firstNonempty [tickId] <;> rfl
  obtain ⟨tables, said⟩ := Prod.mk.inj drawn
  obtain ⟨notices, relay⟩ := Prod.mk.inj said
  rw [ran] at ended
  generalize Engine.tickIdFor (host perform runner taskId) tickId s = named at ended tables notices relay
  obtain ⟨tick, world⟩ := named
  have begins : Abreast taskId runId start ⟨⟨Engine.prepare g p, Engine.acceptedReply p feedback⟩, world⟩ :=
    ⟨abreast.own, tables.symm ▸ abreast.stands.of_shown rfl ⟨rfl, rfl, rfl⟩, notices.trans abreast.notices,
      relay.trans abreast.relay⟩
  cases ended with
  | reports reaches finish =>
      obtain ⟨own, stands, notices, relay⟩ := reaches.keeps (P := Abreast taskId runId start)
        (fun here pass => here.pass reserved pass) begins
      exact ⟨own, stands, notices, relay⟩
  | gaveUp named passes cut wrote =>
      have abreast := passes.keeps (P := Abreast taskId runId start)
        (fun here pass _ => here.pass reserved pass) begins
      obtain ⟨left, same⟩ := cut_onRecord reserved cut
      exact abreast.wrote none (s := ⟨_, none⟩) left same wrote rfl
  | unkept passes cut broke =>
      have calm := (host_mild perform runner taskId).checkpoint _ _ _ (congrArg Prod.fst broke)
      exact absurd (final _ rfl) (by simp [calm])
  | escaped passes cut calm => exact absurd (final _ rfl) (by simp [calm])

/-! ## What is said -/

/-- The notices of some pages of a task, in order. -/
abbrev Published (relay : Relay) (task : TaskRow) : List Value → List Notice → Prop :=
  List.Forall₂ fun page notice => pageNotice relay task page = .ok notice

/-- What asks for a reply where a task was left to wait for one. -/
def questionOf (taskId : String) (ending : Ending) (message : Option String) : List Notice :=
  if ending = .feedback then [.feedback taskId message] else []

/-- What tells that a task came to another stage. -/
def changeOf (taskId : String) (previous : Lifecycle) (p : Progress) : List Notice :=
  if p.lifecycle = previous then [] else [.lifecycle taskId previous p.lifecycle p.lastError]

theorem run_announcePage (task : TaskRow) (page : Value) (s : Shop) :
    (announcePage task page).run s =
      match pageNotice s.relay task page with
      | .error raised => (.error (.ofRaised raised), s)
      | .ok notice => (.ok (), { s with notices := s.notices ++ [notice] }) := by
  unfold announcePage
  rw [Work.run_bind_get]
  simp only
  cases pageNotice s.relay task page <;> rfl

theorem announcePages_ok {task : TaskRow} {pages : List Value} {s after : Shop}
    (ran : (pages.forM (announcePage task)).run s = (.ok (), after)) :
    ∃ told, Published s.relay task pages told ∧ after = { s with notices := s.notices ++ told } := by
  induction pages generalizing s with
  | nil =>
      cases ran
      exact ⟨[], .nil, by simp⟩
  | cons page rest ih =>
      have ran : (announcePage task page >>= fun _ => rest.forM (announcePage task)).run s = (.ok (), after) :=
        ran
      have gave := run_announcePage task page s
      cases noticed : pageNotice s.relay task page with
      | error raised =>
          rw [noticed] at gave
          rw [Work.run_bind_of_error gave] at ran
          cases ran
      | ok notice =>
          rw [noticed] at gave
          rw [Work.run_bind_of_ok gave] at ran
          obtain ⟨told, published, rfl⟩ := ih ran
          exact ⟨notice :: told, .cons noticed published, by simp⟩

theorem tellOf_ok {task : TaskRow} {previous : Lifecycle} {finish : Finish} {p : Progress} {s after : Shop}
    (ran : (tellOf task previous finish p).run s = (.ok (), after)) :
    ∃ told, Published s.relay task finish.pages told ∧
      after = { s with
        notices := s.notices ++ (told ++ questionOf task.taskId finish.ending finish.message ++
          changeOf task.taskId previous p) } := by
  obtain ⟨_, middle, pages, rest⟩ := Work.parts_of_ok ran
  obtain ⟨told, published, rfl⟩ := announcePages_ok pages
  refine ⟨told, published, ?_⟩
  unfold questionOf changeOf
  by_cases asks : finish.ending = .feedback <;> by_cases stays : p.lifecycle = previous <;>
    · simp only [asks, stays, if_true, if_false, ne_eq, not_true_eq_false, not_false_eq_true] at rest
      cases rest
      simp [asks, stays]

/-! ## Reports -/

theorem finishRun_ok {runId : String} {status : RunStatus} {s after : Shop}
    (ran : (finishRun runId status).run s = (.ok (), after)) :
    s.tables.finishRun runId status = .ok after.tables ∧ after = { s with tables := after.tables } := by
  rw [run_finishRun] at ran
  unfold Tables.finishRun
  cases found : s.tables.run? runId with
  | none =>
      rw [found] at ran
      cases ran
  | some run =>
      rw [found] at ran
      cases ran
      exact ⟨rfl, rfl⟩

/-- A tick is over and gave a report. Its task stands where it was left, and its run stands by the ending.
What was said is its pages, a question if the task waits for a reply, and its stage if that is another one. -/
structure Closed (task : TaskRow) (previous : Lifecycle) (runId : String) (q : Progress) (ending : Ending)
    (message : Option String) (pages : List Value) (s after : Shop) : Prop where
  own : q.taskId = task.taskId
  stands : after.tables.Stands runId q (runStatusOf ending) (runStatusOf ending).isEnd
  said : ∃ told, Published s.relay task pages told ∧
    after.notices = s.notices ++ (told ++ questionOf task.taskId ending message ++ changeOf task.taskId previous q)

theorem Abreast.closed (abreast : Abreast taskId runId start a) {ending : Ending} {task : TaskRow}
    (same : task.taskId = taskId) {closed : Shop}
    (finished : (finishRun runId (runStatusOf ending)).run a.world = (.ok (), closed))
    {previous : Lifecycle} {message : Option String} {pages : List Value} {told : List Notice}
    (published : Published closed.relay task pages told) {after : Shop}
    (said : after = { closed with
      notices := closed.notices ++ (told ++ questionOf task.taskId ending message ++
        changeOf task.taskId previous a.stance.progress) }) :
    Closed task previous runId a.stance.progress ending message pages start after where
  own := abreast.own.trans same.symm
  stands := by
    have stands := abreast.stands.finishRun (finishRun_ok finished).1
    rw [said]
    simpa using stands
  said := by
    obtain ⟨-, rest⟩ := finishRun_ok finished
    have relay : closed.relay = start.relay := by
      rw [rest]
      exact abreast.relay
    have notices : closed.notices = start.notices := by
      rw [rest]
      exact abreast.notices
    exact ⟨told, relay ▸ published, by rw [said, notices]⟩

/-- What a tick reports of the advance of a task that stood as `p`, for the log of the advance. It reports all
the transitions and tells all the pages that the log carries; or the task was given up, and then it reports no
transition and tells no page, whatever the log carries. -/
inductive Reported (h : Host Code Shop) (fr : Frame Code) (task : TaskRow) (p : Progress) (s after begun : Shop) :
    List (Deed Shop) → TickReport → Prop
  | told {log : List (Deed Shop)} {pages : List Value} {moved : Nat} {w : Shop} {q : Progress} {ending : Ending}
      {message : Option String} (carried : Engine.Carried h fr begun log pages moved w)
      (count : q.transitionCount = p.transitionCount + moved) (stage : q.lifecycle = ending.stage)
      (closed : Closed task p.lifecycle fr.runId q ending message pages s after) :
      Reported h fr task p s after begun log ⟨task.taskId, some ending, moved, message, false⟩
  | gaveUp {written calls : List (Deed Shop)} {pages : List Value} {moved : Nat} {w before last : Shop}
      {q : Progress} {cause : FatalCause} (carried : Engine.Carried h fr begun written pages moved w)
      (said : ∀ deed ∈ calls, deed.IsCall) (count : q.transitionCount = p.transitionCount + moved)
      (stage : q.lifecycle = .failed)
      (changed : changeOf task.taskId p.lifecycle q =
        [.lifecycle task.taskId p.lifecycle .failed (some cause.message)])
      (closed : Closed task p.lifecycle fr.runId q .failed (some cause.message) [] s after) :
      Reported h fr task p s after begun (written ++ calls ++ [.wrote none q before (.ok ()) last])
        ⟨task.taskId, some .failed, 0, some cause.message, false⟩

/-- A task that was given up is closed as failed, and of its pages nothing is said. -/
theorem Abreast.closed_failed (abreast : Abreast taskId runId start a) {task : TaskRow}
    (same : task.taskId = taskId) {previous : Lifecycle} {notice : Notice} {message : Option String}
    (changed : changeOf task.taskId previous a.stance.progress = [notice]) {came report : TickReport} {after : Shop}
    (ran : (do
      finishRun runId .failed
      announce notice
      pure came : Work TickReport).run a.world = (.ok report, after)) :
    report = came ∧ Closed task previous runId a.stance.progress .failed message [] start after := by
  obtain ⟨_, closed, finished, ran⟩ := Work.parts_of_ok ran
  cases ran
  have finished : (finishRun runId (runStatusOf .failed)).run a.world = (.ok (), closed) := finished
  have published : Published closed.relay task [] [] := .nil
  refine ⟨rfl, abreast.closed same finished published ?_⟩
  simp [changed, questionOf]

/-- A check of the ledger changes neither the report nor the shop. -/
theorem checked_ok {condition : Prop} [Decidable condition] {came report : TickReport} {s after : Shop}
    (ran : (if condition then (do
        let _ ← verify taskId
        pure came) else pure came : Work TickReport).run s = (.ok report, after)) :
    report = came ∧ after = s := by
  by_cases checks : condition
  · rw [if_pos checks] at ran
    obtain ⟨_, middle, looked, ran⟩ := Work.parts_of_ok ran
    have same : middle = s := by
      have still := Looks.verify taskId s
      rwa [looked] at still
    cases ran
    exact ⟨rfl, same⟩
  · rw [if_neg checks] at ran
    cases ran
    exact ⟨rfl, rfl⟩

/-- What a tick whose task is loaded and whose run is under way reports. -/
theorem advancing_reported (reserved : Reserved perform) {runner : Runner} (room : 0 < runner.budget.perTick)
    {task : TaskView} {g : Graph Code} (valid : g.violations = []) (feedback : Option String) {p : Progress}
    (active : p.lifecycle.isTerminal = false) {s after : Shop}
    (begins : Abreast task.row.taskId runId start ⟨⟨p, none⟩, s⟩) {report : TickReport}
    (ran : (advancing perform runner task g feedback p runId).run s = (.ok report, after)) :
    Reported (host perform runner task.row.taskId)
      ⟨g, task.row.info, runId, (Engine.tickIdFor (host perform runner task.row.taskId) none s).1⟩ task.row p
      start after (Engine.tickIdFor (host perform runner task.row.taskId) none s).2
      (Engine.advance (host perform runner task.row.taskId).noting runner.budget g task.row.info runId none feedback
        p (s, [])).2.2 report := by
  have mild := host_mild perform runner task.row.taskId
  have whole := (Graph.fit_of_valid valid).wholeLimits
  have gathers := Engine.advance_gathers mild whole room task.row.info runId none feedback p s active
  have linked := Engine.advance_noting (host perform runner task.row.taskId) runner.budget g task.row.info runId
    none feedback p (s, [])
  unfold advancing at ran
  rw [Work.run_bind_of_lift, linked] at ran
  generalize Engine.advance (host perform runner task.row.taskId).noting _ _ _ _ _ _ _ _ = came at *
  obtain ⟨⟨result, q⟩, left, log⟩ := came
  have abreast := advance_abreast reserved whole runner.budget task.row.info none feedback active begins linked
  simp only at gathers ran ⊢
  cases gathers with
  | reported carried count stage =>
      obtain ⟨_, closed, finished, ran⟩ := Work.parts_of_ok ran
      obtain ⟨_, spoken, telling, ran⟩ := Work.parts_of_ok ran
      obtain ⟨told, published, said⟩ := tellOf_ok telling
      obtain ⟨rfl, rfl⟩ := checked_ok ran
      exact .told carried count stage ((abreast nofun).closed rfl finished published said)
  | @gaveUp _ _ _ _ _ _ _ cause named q carried said count failed words =>
      have changed : changeOf task.row.taskId p.lifecycle q =
          [.lifecycle task.row.taskId p.lifecycle .failed (some cause.message)] := by
        have other : q.lifecycle ≠ p.lifecycle := by
          intro same
          rw [← same, failed] at active
          cases active
        rw [changeOf, if_neg other, failed, words]
      have final : ∀ fault, Except.error (Fault.fatal cause (some named)) = (.error fault : Except Fault Finish) →
          fault.isFatal = true := by
        rintro _ ⟨⟩
        rfl
      obtain ⟨rfl, closed⟩ := (abreast final).closed_failed rfl changed ran
      exact .gaveUp carried said count failed changed closed
  | @escaped _ fault _ calm =>
      cases fault with
      | fatal cause named => cases calm
      | _ => cases ran

/-- What a tick that advances its task reports. -/
theorem advanceTask_reported (reserved : Reserved perform) {runner : Runner} (room : 0 < runner.budget.perTick)
    {task : TaskView} {g : Graph Code} (valid : g.violations = []) (feedback : Option String) {s after : Shop}
    (orderly : s.Orderly) {row : TaskRow} (found : s.tables.task? task.row.taskId = some row)
    (active : row.columns.lifecycle.isTerminal = false) (notices : s.notices = start.notices)
    (relay : s.relay = start.relay) {report : TickReport}
    (ran : (advanceTask perform runner task g feedback).run s = (.ok report, after)) :
    ∃ p fr begun, row.progress = .ok p ∧ fr.graph = g ∧
      Reported (host perform runner task.row.taskId) fr task.row p start after begun
        (deedsOf perform runner task g feedback s) report := by
  have loaded := run_load_found found
  cases read : row.progress with
  | error fault =>
      rw [read] at loaded
      rw [advanceTask, Work.run_bind_of_error loaded] at ran
      cases ran
  | ok p =>
      rw [read] at loaded
      cases started : (startRun task.row.taskId).run s with
      | mk result middle =>
          cases result with
          | error fault =>
              rw [advanceTask, Work.run_bind_of_ok loaded, Work.run_bind_of_error started] at ran
              cases ran
          | ok runId =>
              rw [advanceTask_started perform runner g feedback loaded started] at ran
              have begins := started_abreast orderly found read notices relay started
              rw [(TaskRow.shows_of_progress read).1.lifecycle] at active
              have reported := advancing_reported reserved room valid feedback active begins ran
              have deeds : deedsOf perform runner task g feedback s =
                  (Engine.advance (host perform runner task.row.taskId).noting runner.budget g task.row.info runId
                    none feedback p (middle, [])).2.2 := by
                unfold deedsOf
                rw [loaded]
                simp only
                rw [started]
              rw [deeds]
              exact ⟨p, _, _, rfl, rfl, reported⟩

/-! ## Ticks -/

theorem found_of_getTask {s after : Shop} {task : TaskView}
    (looked : (getTask taskId).run s = (.ok task, after)) : s.tables.task? taskId = some task.row := by
  obtain ⟨result, ran, finds⟩ := run_getTask taskId s
  exact finds task (Prod.mk.inj (ran.symm.trans looked)).1

/-- A claim on a task shows in nothing but its lease. -/
theorem claimed_found {t : Tables} {now : Instant} {owner : String} {span : Instant.Seconds} {row : TaskRow}
    (found : t.task? taskId = some row) {landed : Option Tables}
    (taken : t.acquire now taskId owner span = .ok landed) :
    ∃ lease, (landed.getD t).task? taskId = some { row with lease } := by
  cases landed with
  | none => exact ⟨row.lease, found⟩
  | some claimed =>
      unfold Tables.acquire at taken
      cases ends : Tables.expiry now span with
      | error fault =>
          rw [ends] at taken
          cases taken
      | ok ending =>
          rw [ends] at taken
          obtain ⟨old, found', -, rfl⟩ := Tables.updateIf_some (Except.ok.inj taken)
          obtain rfl : old = row := Option.some.inj (found'.symm.trans found)
          have its := Tables.taskId_of_task? found
          have own : TaskRow.taskId { old with lease := some ⟨owner, ending⟩ } = taskId := its
          exact ⟨some ⟨owner, ending⟩, Tables.task?_setTask found own⟩

theorem Reported.released {h : Host Code Shop} {task : TaskRow} {p : Progress} {s left begun : Shop}
    {log : List (Deed Shop)} {report : TickReport} (reported : Reported h fr task p s left begun log report)
    (owner : String) :
    Reported h fr task p s { left with tables := left.tables.release task.taskId owner } begun log report := by
  have given : ∀ {q : Progress} {ending : Ending} {message : Option String} {pages : List Value},
      Closed task p.lifecycle fr.runId q ending message pages s left →
      Closed task p.lifecycle fr.runId q ending message pages s
        { left with tables := left.tables.release task.taskId owner } := fun closed =>
    ⟨closed.own, closed.own ▸ closed.stands.release owner, closed.said⟩
  cases reported with
  | told carried count stage closed => exact .told carried count stage (given closed)
  | gaveUp carried said count stage changed closed =>
      exact .gaveUp carried said count stage changed (given closed)

/-- What a tick reports: it left its task alone and changed nothing, or it advanced the task. -/
theorem tick_reported (reserved : Reserved perform) {runner : Runner} (room : 0 < runner.budget.perTick)
    {feedback : Option String} {s after : Shop} (orderly : s.Orderly)
    (valid : ∀ id g, s.graphs.lookup id = some g → g.violations = []) {report : TickReport}
    (ticked : (tick perform runner taskId feedback).run s = (.ok report, after)) :
    (∃ row, s.tables.task? taskId = some row ∧ LeftAlone runner feedback s.now row report ∧ after = s) ∨
    ∃ task g landed p fr begun, (getTask taskId).run s = (.ok task, s) ∧ task.row.taskId = taskId ∧
      s.graphs.lookup task.row.workflowId = some g ∧
      s.tables.acquire s.now taskId runner.workerId runner.leaseSpan = .ok landed ∧
      task.row.progress = .ok p ∧ fr.graph = g ∧
      Reported (host perform runner taskId) fr task.row p s after begun
        (deedsOf perform runner task g feedback { s with tables := landed.getD s.tables }) report := by
  rcases tick_goes perform runner taskId feedback s with
    ⟨result, ran, idle⟩ | ⟨task, g, landed, looked, own, active, known, taken, -, ran⟩
  · obtain ⟨rfl, rfl⟩ := Prod.mk.inj (ticked.symm.trans ran)
    obtain ⟨row, found, alone⟩ := idle report rfl
    exact .inl ⟨row, found, alone, rfl⟩
  · obtain ⟨lease, claimed⟩ := claimed_found (found_of_getTask looked) taken
    have orderly' : { s with tables := landed.getD s.tables : Shop }.Orderly := by
      cases landed with
      | none => exact orderly
      | some t => exact (acquired taken).2.2.2 orderly
    subst own
    refine .inr ⟨task, g, landed, ?_⟩
    rw [ticked] at ran
    cases advanced : (advanceTask perform runner task g feedback).run
        { s with tables := landed.getD s.tables } with
    | mk result left =>
        have given : (.ok report, after) = (result,
            if landed.isSome then { left with tables := left.tables.release task.row.taskId runner.workerId }
            else left) := by
          rw [ran]
          show (let (result, s) := (advanceTask perform runner task g feedback).run _
            (result, if landed.isSome then { s with tables := s.tables.release _ _ } else s)) = _
          rw [advanced]
        obtain ⟨rfl, rfl⟩ := Prod.mk.inj given
        have notices : { s with tables := landed.getD s.tables : Shop }.notices = s.notices := rfl
        obtain ⟨p, fr, begun, read, frame, reported⟩ := advanceTask_reported reserved room (valid _ g known)
          feedback orderly' claimed active notices rfl advanced
        refine ⟨p, fr, begun, looked, rfl, known, taken, read, frame, ?_⟩
        split
        · exact reported.released runner.workerId
        · exact reported

end Shop

end Tickwork
