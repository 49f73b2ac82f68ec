import Tickwork.Proofs.Commuting
import Tickwork.Proofs.Refinement

/-!
# A worker's jobs, done over memory

One strict worker ticks a task again and again, replies are given to the task, and time passes in between.
Main statement: what is stored of the task write by write is what the engine stores of it that does the same
over a store in memory, with the state reloaded from that store.
-/

set_option autoImplicit false

namespace Tickwork

namespace Shop

variable {perform : Request → StateM Shop Unit} {runner : Runner} {bare : TaskRow} {g : Graph Code}

/-! ## The ends of a tick -/

/-- Neither a task nor the ledger nor the counts of rows and of calls have changed; a run may have. -/
structure Unwritten (s s' : Shop) : Prop where
  tasks : s'.tables.tasks = s.tables.tasks
  rows : s'.tables.rows = s.tables.rows
  numbered : s'.eventCount = s.eventCount
  tally : s'.tally = s.tally

theorem Undisturbed.unwritten {s s' : Shop} (same : Undisturbed s s') : Unwritten s s' :=
  ⟨by rw [same.tables], by rw [same.tables], same.numbered, same.tally⟩

theorem unwritten_forward : Forward Unwritten where
  refl _ := ⟨rfl, rfl, rfl, rfl⟩
  trans first second := ⟨second.tasks.trans first.tasks, second.rows.trans first.rows,
    second.numbered.trans first.numbered, second.tally.trans first.tally⟩

theorem unwritten_finishRun (runId : String) (status : RunStatus) :
    Work.Moves Unwritten (finishRun runId status) := by
  intro s
  rw [run_finishRun]
  cases s.tables.run? runId <;> exact ⟨rfl, rfl, rfl, rfl⟩

/-- After its advance a tick writes nothing more, and what broke the advance off breaks the tick off. -/
theorem advancing_ends (perform : Request → StateM Shop Unit) (runner : Runner) (task : TaskView)
    (g : Graph Code) (feedback : Option String) (p : Progress) (runId : String) (s : Shop) :
    Unwritten (Engine.advance (host perform runner task.row.taskId) runner.budget g task.row.info runId none
        feedback p s).2 ((advancing perform runner task g feedback p runId).run s).2 ∧
      ∀ fault, (Engine.advance (host perform runner task.row.taskId) runner.budget g task.row.info runId none
        feedback p s).1.1 = .error fault → fault.isFatal = false →
        ((advancing perform runner task g feedback p runId).run s).1 = .error fault := by
  unfold advancing
  rw [Work.run_bind_of_lift]
  generalize Engine.advance (host perform runner task.row.taskId) runner.budget g task.row.info runId none
    feedback p s = came
  obtain ⟨⟨result, q⟩, after⟩ := came
  have settles : ∀ status {rest : Work TickReport}, Mute rest →
      Work.Moves Unwritten (finishRun runId status >>= fun _ => rest) := fun status _ mute =>
    .bind unwritten_forward (unwritten_finishRun runId status) fun _ s => (mute s).unwritten
  cases result with
  | ok finish =>
      refine ⟨settles _ (.bind (.tellOf _ _ _ _) fun _ => .ite (.bind (.verify _) fun _ => .pure _) (.pure _)) _, ?_⟩
      exact fun _ same => nomatch same
  | error fault =>
      cases fault with
      | fatal cause named =>
          refine ⟨settles _ (.bind (.announce _) fun _ => .pure _) _, ?_⟩
          rintro _ ⟨⟩ calm
          cases calm
      | _ =>
          refine ⟨unwritten_forward.refl _, ?_⟩
          rintro _ ⟨⟩ -
          rfl

theorem Unwritten.reflects {s s' : Shop} {m : MemoryStore} (same : Unwritten s s')
    (reflects : s.tables.Reflects bare m) : s'.tables.Reflects bare m where
  task := by
    unfold Tables.task?
    rw [same.tasks]
    exact reflects.task
  ledger := by
    unfold Tables.rowsFor
    rw [same.rows]
    exact reflects.ledger

/-! ## Jobs -/

end Shop

/-- What is done about a task from outside: a tick, with a reply or without, for which the run over memory goes by
a name; a reply that is given to the task; or some time passes. -/
inductive Job where
  | tick (reply : Option String) (runId : String)
  | submit (text : String)
  | wait (micros : Nat)

namespace Job

open Shop

/-- What a strict tick does in the advance of its task. -/
def deeds (perform : Request → StateM Shop Unit) (runner : Runner) (taskId : String) (reply : Option String)
    (s : Shop) : List (Deed Shop) :=
  match (getTask taskId).run s with
  | (.error _, _) => []
  | (.ok task, _) =>
    if task.row.columns.lifecycle.isTerminal then []
    else if task.row.columns.lifecycle = .feedback ∧ reply = none then []
    else
      match s.graphs.lookup task.row.workflowId with
      | none => []
      | some g =>
        match s.tables.acquire s.now taskId runner.workerId runner.leaseSpan with
        | .ok (some t) => deedsOf perform runner task g reply { s with tables := t }
        | _ => []

/-- A job of a worker in a shop: what is stored of the task after each of its writes, and the shop then. -/
def byWorker (perform : Request → StateM Shop Unit) (runner : Runner) (taskId : String) :
    Job → Shop → List Snapshot × Shop
  | .tick reply _, s =>
    ((imprints (deeds perform runner taskId reply s)).map fun i => i.world.snapshot taskId,
      ((Shop.tick perform runner taskId reply).run s).2)
  | .submit text, s =>
    match (attempt fun t now => t.submitReply now taskId text).run s with
    | (.ok true, s) => ([s.snapshot taskId], s)
    | (_, s) => ([], s)
  | .wait micros, s => ([], passTime micros s)

/-- The same job over a store in memory: a tick reloads the task and leaves it alone if it has ended or waits
for a reply, and a reply is applied to a task that waits for one. -/
def overMemory (perform : Request → StateM Shop Unit) (runner : Runner) (g : Graph Code) (task : TaskInfo)
    (taskId : String) : Job → Shop × MemoryStore → List Snapshot × (Shop × MemoryStore)
  | .tick reply runId, w =>
    match w.2.load? taskId with
    | none => ([], w)
    | some p =>
      if p.lifecycle.isTerminal then ([], w)
      else if p.lifecycle = .feedback ∧ reply = none then ([], w)
      else
        let h := (host perform runner taskId).overMemory
        ((imprints (Engine.advance h.noting runner.budget g task runId none reply p (w, [])).2.2).map
            fun i => i.world.2.snapshot taskId,
          (Engine.advance h runner.budget g task runId none reply p w).2)
  | .submit text, (w, m) =>
    match m.load? taskId with
    | none => ([], (w, m))
    | some p =>
      if p.lifecycle = .feedback then
        ([(m.checkpoint (p.replied text)).snapshot taskId], (w, m.checkpoint (p.replied text)))
      else ([], (w, m))
  | .wait micros, (w, m) => ([], (passTime micros w, m))

/-- Jobs one after the other: what is stored of the task write by write, and what there is in the end. -/
def course {S : Type} (step : Job → S → List Snapshot × S) : List Job → S → List Snapshot × S
  | [], s => ([], s)
  | job :: rest, s =>
    ((step job s).1 ++ (course step rest (step job s).2).1, (course step rest (step job s).2).2)

/-- No tick of the worker fails because a number or an instant is too large. -/
def Fit (perform : Request → StateM Shop Unit) (runner : Runner) (taskId : String) : List Job → Shop → Prop
  | [], _ => True
  | job :: rest, s =>
    (∀ reply runId, job = .tick reply runId → ∀ fault,
      ((Shop.tick perform runner taskId reply).run s).1 = .error fault → ¬ fault.Overflows) ∧
      Fit perform runner taskId rest (job.byWorker perform runner taskId s).2

end Job

namespace Shop

variable {perform : Request → StateM Shop Unit} {runner : Runner} {bare : TaskRow} {g : Graph Code}

/-- Between two jobs: a task stands in a shop as it stands in memory, in order; nobody holds it, the names that
are still to be drawn are in no use, and its factory is registered. -/
structure Paired (runner : Runner) (g : Graph Code) (bare : TaskRow) (v : Shop) (w : Shop × MemoryStore) :
    Prop where
  tally : v.tally = w.1.tally
  reflects : v.tables.Reflects bare w.2
  stored : ∃ p, w.2.load? bare.taskId = some p ∧ p.Neat bare.workflowId
  orderly : v.Orderly
  unused : v.tables.Unused v.eventCount
  free : v.Free bare.taskId runner.workerId
  registered : v.graphs.lookup bare.workflowId = some g

namespace Paired

variable {v : Shop} {w : Shop × MemoryStore}

theorem snapshot (paired : Paired runner g bare v w) :
    (v.snapshot bare.taskId).Like (w.2.snapshot bare.taskId) := by
  obtain ⟨p, stored, neat⟩ := paired.stored
  exact paired.reflects.snapshot stored neat

/-- The row of the task, and the progress that is read of it and stored in memory. -/
theorem row (paired : Paired runner g bare v w) :
    ∃ row q p, v.tables.task? bare.taskId = some row ∧ row.bare = bare ∧ row.progress = .ok q ∧
      w.2.load? bare.taskId = some p ∧ q.Like .data p ∧ p.Neat bare.workflowId ∧ p.taskId = bare.taskId := by
  obtain ⟨p, stored, neat⟩ := paired.stored
  obtain ⟨row, p', found, its, stored', own, reads⟩ := paired.reflects.task
  obtain rfl : p = p' := Option.some.inj (stored.symm.trans stored')
  have factory : row.workflowId = bare.workflowId := (congrArg TaskRow.workflowId its :)
  obtain ⟨q, read, alike⟩ := reads (factory ▸ neat)
  exact ⟨row, q, p, found, its, read, stored, alike, neat, own⟩

end Paired

/-- A task that can be read is found. -/
theorem run_getTask_found {s : Shop} {taskId : String} {row : TaskRow} {q : Progress}
    (found : s.tables.task? taskId = some row) (read : row.progress = .ok q) :
    (getTask taskId).run s = (.ok ⟨row, q.context⟩, s) := by
  have viewed : row.view = .ok ⟨row, q.context⟩ := by
    unfold TaskRow.view
    rw [(TaskRow.progress_ok read).2.1]
    rfl
  unfold getTask find?
  rw [Work.run_bind, Work.run_bind_get]
  simp only [found, viewed]
  rfl

theorem run_graph_registered {s : Shop} {workflowId : String} (listed : s.graphs.lookup workflowId = some g) :
    (graph workflowId).run s = (.ok g, s) := by
  unfold graph
  rw [Work.run_bind_get, listed]
  rfl

/-! ## Ticks -/

section Ticks

variable {v : Shop} {w : Shop × MemoryStore} {row : TaskRow}

/-- The run of a tick begins: the worker is in the midst of it. -/
theorem startRun_midway {owner runId : String} {after : Shop} (tally : v.tally = w.1.tally)
    (reflects : v.tables.Reflects bare w.2) (held : v.tables.holder? bare.taskId = some owner)
    (unused : v.tables.Unused v.eventCount) (orderly : v.Orderly)
    (started : (startRun bare.taskId).run v = (.ok runId, after)) : Midway bare owner runId after w := by
  obtain ⟨row, _, found, -⟩ := reflects.task
  obtain ⟨run, there, -⟩ := startRun_runs orderly started
  have goes : (after.tables.run? runId).isSome = true := by
    rw [there]
    rfl
  rw [run_startRun found] at started
  cases active : v.tables.activeRun? row with
  | some run =>
      rw [active] at started
      cases started
      exact ⟨tally, ⟨reflects.task, reflects.ledger⟩, held, goes, unused⟩
  | none =>
      rw [active] at started
      cases started
      let begun : Tables :=
        { v.tables with runs := v.tables.runs ++ [⟨rowName (v.rowCount + 1), row.taskId, .running, false⟩] }
      have stands : begun.Reflects bare w.2 := ⟨reflects.task, reflects.ledger⟩
      have there : begun.task? bare.taskId = some row := found
      refine ⟨tally, stands.setTask there rfl rfl, ?_, goes, unused⟩
      unfold Tables.holder? at held ⊢
      rw [Tables.lease?_of_task? found] at held
      rw [← held]
      exact congrArg _ (Tables.lease?_setTask there rfl)

/-- A task that is free is taken, unless the end of the lease leaves the calendar. -/
theorem acquire_reflects {m : MemoryStore} {owner : String} (reflects : v.tables.Reflects bare m)
    (free : v.Free bare.taskId owner) (span : Instant.Seconds) :
    (∃ fault, v.tables.acquire v.now bare.taskId owner span = .error fault ∧ fault.Overflows) ∨
    ∃ t, v.tables.acquire v.now bare.taskId owner span = .ok (some t) ∧ t.Reflects bare m ∧
      t.holder? bare.taskId = some owner ∧ t.rows = v.tables.rows := by
  obtain ⟨row, _, found, -⟩ := reflects.task
  unfold Tables.acquire Tables.updateIf
  cases ends : Tables.expiry v.now span with
  | error fault => exact .inl ⟨fault, rfl, Fault.overflows_of_expiry ends⟩
  | ok ending =>
      simp only [found, free row found, if_true, bind, Except.bind]
      refine .inr ⟨_, rfl, reflects.setTask found rfl rfl, ?_, rfl⟩
      have mine : TaskRow.taskId { row with lease := some ⟨owner, ending⟩ } = row.taskId := rfl
      unfold Tables.holder?
      rw [Tables.lease?_setTask found mine]
      rfl

/-- A task that is given back stands as it did, and is free. -/
theorem release_reflects {m : MemoryStore} {owner : String} (reflects : v.tables.Reflects bare m)
    (held : v.tables.holder? bare.taskId = some owner) :
    (v.tables.release bare.taskId owner).Reflects bare m ∧
      (v.tables.release bare.taskId owner).rows = v.tables.rows ∧
      ∀ row, (v.tables.release bare.taskId owner).task? bare.taskId = some row → row.lease = none := by
  obtain ⟨row, _, found, -⟩ := reflects.task
  have mine := Tables.heldBy_of_holder? found held
  have given : v.tables.release bare.taskId owner = v.tables.setTask { row with lease := none } := by
    unfold Tables.release Tables.updateIf
    simp only [found, mine, if_true, Option.getD_some]
  have own := Tables.taskId_of_task? found
  have there : (v.tables.setTask { row with lease := none }).task? bare.taskId = some { row with lease := none } :=
    Tables.task?_setTask found own
  rw [given]
  refine ⟨reflects.setTask found rfl rfl, rfl, fun row' found' => ?_⟩
  rw [there] at found'
  cases found'
  rfl

/-- A task that was taken is advanced here and over memory. -/
theorem advanceTask_paired (aloof : Aloof perform) (strict : runner.leaseMode = .strict) (suited : Suited perform g)
    (task : TaskView) (mine : task.row.bare = bare) (tally : v.tally = w.1.tally)
    (reflects : v.tables.Reflects bare w.2) (held : v.tables.holder? bare.taskId = some runner.workerId)
    (unused : v.tables.Unused v.eventCount) (orderly : v.Orderly) {p : Progress}
    (stored : w.2.load? bare.taskId = some p) (neat : p.Neat bare.workflowId) (reply : Option String)
    (runId : String) :
    (∃ fault, ((advanceTask perform runner task g reply).run v).1 = .error fault ∧ fault.Overflows) ∨
    ∃ runId' after, Unwritten after ((advanceTask perform runner task g reply).run v).2 ∧
      Kept bare runner.workerId runId' (after, deedsOf perform runner task g reply v)
        (Engine.advance (host perform runner bare.taskId).overMemory.noting runner.budget g bare.info runId none
          reply p (w, [])).2 := by
  obtain ⟨row, p', found, its, stored', own, reads⟩ := reflects.task
  obtain rfl : p = p' := Option.some.inj (stored.symm.trans stored')
  have factory : row.workflowId = bare.workflowId := (congrArg TaskRow.workflowId its :)
  obtain ⟨q, read, alike⟩ := reads (factory ▸ neat)
  have named : task.row.taskId = bare.taskId := (congrArg TaskRow.taskId mine :)
  have info : task.row.info = bare.info := (congrArg TaskRow.info mine :)
  have loaded : (load task.row.taskId).run v = (.ok q, v) := by
    rw [named, run_load_found found, read]
  cases started : (startRun task.row.taskId).run v with
  | mk result after =>
      cases result with
      | error fault =>
          rw [named, run_startRun found] at started
          cases active : v.tables.activeRun? row <;> rw [active] at started <;> cases started
      | ok runId' =>
          have began := startRun_midway tally reflects held unused orderly (named ▸ started)
          have deeds : deedsOf perform runner task g reply v =
              (Engine.advance (host perform runner bare.taskId).noting runner.budget g bare.info runId' none reply q
                (after, [])).2.2 := by
            unfold deedsOf
            simp only [loaded, started]
            rw [named, info]
          have seen := Engine.advance_noting (host perform runner bare.taskId) runner.budget g bare.info runId'
            none reply q (after, [])
          have ends := advancing_ends perform runner task g reply q runId' after
          rw [named, info] at ends
          obtain ⟨still, breaks⟩ := ends
          rw [advanceTask_started perform runner g reply loaded started, deeds]
          rcases advance_kept aloof strict suited began alike stored neat own bare.info reply with
            ⟨fault, broken, large⟩ | kept
          · exact .inl ⟨fault, breaks fault broken large.calm, large⟩
          · rw [seen] at still
            exact .inr ⟨runId', _, still, kept⟩

/-- A task that has ended or waits for a reply is left alone. -/
theorem run_tick_idle {taskId : String} {task : TaskView} (looked : (getTask taskId).run v = (.ok task, v))
    (reply : Option String) (idle : task.row.columns.lifecycle.isTerminal = true ∨
      task.row.columns.lifecycle = .feedback ∧ reply = none) :
    ((tick perform runner taskId reply).run v).2 = v := by
  unfold tick
  rw [Work.run_bind_of_ok looked]
  simp only
  by_cases ended : task.row.columns.lifecycle.isTerminal = true
  · rw [if_pos ended]
    rfl
  · rw [if_neg ended, if_pos (idle.resolve_left ended)]
    rfl

/-- Any other task is taken and advanced. -/
theorem run_tick_active (perform : Request → StateM Shop Unit) (runner : Runner) {taskId : String} {task : TaskView}
    (looked : (getTask taskId).run v = (.ok task, v))
    (reply : Option String) (active : ¬ task.row.columns.lifecycle.isTerminal = true)
    (hears : ¬ (task.row.columns.lifecycle = .feedback ∧ reply = none))
    (listed : v.graphs.lookup task.row.workflowId = some g) :
    (∀ fault, v.tables.acquire v.now taskId runner.workerId runner.leaseSpan = .error fault →
      (tick perform runner taskId reply).run v = (.error fault, v)) ∧
    ∀ t, v.tables.acquire v.now taskId runner.workerId runner.leaseSpan = .ok (some t) →
      (tick perform runner taskId reply).run v =
        (releasing true taskId runner.workerId (advanceTask perform runner task g reply)).run
          { v with tables := t } := by
  have took := run_attempt (fun t now => t.acquire now taskId runner.workerId runner.leaseSpan) v
  unfold tick
  rw [Work.run_bind_of_ok looked]
  simp only
  rw [if_neg active, if_neg hears, Work.run_bind_of_ok (run_graph_registered listed)]
  refine ⟨fun fault refused => ?_, fun t taken => ?_⟩
  · rw [refused] at took
    rw [Work.run_bind_of_error took]
  · rw [taken] at took
    rw [Work.run_bind_of_ok took]
    rfl

/-- Once a task is given back that stands as it stands in memory, a job is done. -/
theorem Kept.released {runId : String} {after last : Shop} {log : List (Deed Shop)}
    {world : Noted (Shop × MemoryStore)} (kept : Kept bare runner.workerId runId (after, log) world)
    (still : Unwritten after last)
    (orderly : { last with tables := last.tables.release bare.taskId runner.workerId : Shop }.Orderly)
    (registered : last.graphs.lookup bare.workflowId = some g) :
    Paired runner g bare { last with tables := last.tables.release bare.taskId runner.workerId } world.1 := by
  have midway : Midway bare runner.workerId runId after world.1 := kept.midway
  have held : last.tables.holder? bare.taskId = some runner.workerId := by
    unfold Tables.holder? Tables.lease? Tables.task?
    rw [still.tasks]
    exact midway.held
  obtain ⟨reflects, rows, free⟩ := release_reflects (still.reflects midway.reflects) held
  refine ⟨still.tally.trans midway.tally, reflects, kept.stored, orderly, ?_, fun row found => ?_, registered⟩
  · show Tables.Unused _ last.eventCount
    unfold Tables.Unused
    rw [rows, still.rows, still.numbered]
    exact midway.unused
  · unfold Tables.isFree
    rw [free row found]

/-- A tick of the worker, and the same tick over memory. -/
theorem tick_paired (aloof : Aloof perform) (strict : runner.leaseMode = .strict) (suited : Suited perform g)
    (paired : Paired runner g bare v w) (reply : Option String) (runId : String)
    (fits : ∀ fault, ((tick perform runner bare.taskId reply).run v).1 = .error fault → ¬ fault.Overflows) :
    List.Forall₂ Snapshot.Like ((Job.tick reply runId).byWorker perform runner bare.taskId v).1
        ((Job.tick reply runId).overMemory perform runner g bare.info bare.taskId w).1 ∧
      Paired runner g bare ((Job.tick reply runId).byWorker perform runner bare.taskId v).2
        ((Job.tick reply runId).overMemory perform runner g bare.info bare.taskId w).2 := by
  obtain ⟨row, q, p, found, its, read, stored, alike, neat, own⟩ := paired.row
  have looked := run_getTask_found found read
  have stage : row.columns.lifecycle = p.lifecycle := (TaskRow.progress_ok read).2.2.trans alike.lifecycle
  have factory : row.workflowId = bare.workflowId := (congrArg TaskRow.workflowId its :)
  have listed : v.graphs.lookup row.workflowId = some g := factory ▸ paired.registered
  have reached : Relation.ReflTransGen (Step (.only bare.taskId)) v
      ((tick perform runner bare.taskId reply).run v).2 :=
    tick_onward aloof.onward runner rfl reply v (.inl paired.orderly)
  unfold Job.byWorker Job.overMemory Job.deeds
  simp only [looked, stored, stage, listed]
  by_cases ended : p.lifecycle.isTerminal = true
  · rw [run_tick_idle looked reply (.inl (stage ▸ ended))]
    simp only [ended, if_true]
    exact ⟨.nil, paired⟩
  · by_cases waits : p.lifecycle = .feedback ∧ reply = none
    · rw [run_tick_idle looked reply (.inr (stage ▸ waits))]
      simp only [waits, and_self, if_true]
      exact ⟨.nil, paired⟩
    · simp only [ended, waits, if_false]
      obtain ⟨untimely, goes⟩ := run_tick_active perform runner looked reply (stage ▸ ended) (stage ▸ waits) listed
      rcases acquire_reflects paired.reflects paired.free runner.leaseSpan with
        ⟨fault, refused, large⟩ | ⟨t, taken, reflects, held, rows⟩
      · exact absurd large (fits fault (by rw [untimely fault refused]))
      · have unused : t.Unused v.eventCount := by
          unfold Tables.Unused
          rw [rows]
          exact paired.unused
        have ready : { v with tables := t : Shop }.Orderly := (acquired taken).2.2.2 paired.orderly
        rw [goes t taken] at reached fits ⊢
        rw [taken]
        rcases advanceTask_paired (v := { v with tables := t }) aloof strict suited ⟨row, q.context⟩ its
            paired.tally reflects held unused ready stored neat reply runId with
          ⟨fault, broken, large⟩ | ⟨runId', after, still, kept⟩
        · exact absurd large (fits fault broken)
        · have seen := Engine.advance_noting (host perform runner bare.taskId).overMemory runner.budget g bare.info
            runId none reply p (w, [])
          simp only at seen
          rw [seen]
          have registered := paired.registered
          rw [← reached_graphs reached] at registered
          exact ⟨kept.written, kept.released still (reached_orderly paired.orderly reached) registered⟩

end Ticks

/-! ## Replies, and time -/

/-- A row to which a reply was given is read with the reply. -/
theorem progress_of_replied {row : TaskRow} {q : Progress} (read : row.progress = .ok q) (context : Fields)
    (now : Instant) :
    TaskRow.progress
        { row with
          columns := { row.columns with context := .dict context, lifecycle := .running, waitingSince := none }
          updatedAt := now } =
      .ok { q with context, lifecycle := .running, waitingSince := none } := by
  obtain ⟨seen, old⟩ : ∃ seen, row.columns.context = .dict seen := ⟨_, (TaskRow.progress_ok read).2.1⟩
  unfold TaskRow.progress at read ⊢
  simp only [old, mappingColumn, bind, Except.bind] at read ⊢
  cases attempts : counterColumn row.columns.attempts with
  | error fault =>
      rw [attempts] at read
      cases read
  | ok counters =>
      cases rounds : counterColumn row.columns.loopIterations with
      | error fault =>
          rw [attempts, rounds] at read
          cases read
      | ok counters' =>
          rw [attempts, rounds] at read
          cases read
          rfl

section Paired

variable {v : Shop} {w : Shop × MemoryStore} (paired : Paired runner g bare v w)

include paired

/-- A reply is given to the task here and over memory, or in neither. -/
theorem submit_paired (text : String) :
    List.Forall₂ Snapshot.Like ((Job.submit text).byWorker perform runner bare.taskId v).1
        ((Job.submit text).overMemory perform runner g bare.info bare.taskId w).1 ∧
      Paired runner g bare ((Job.submit text).byWorker perform runner bare.taskId v).2
        ((Job.submit text).overMemory perform runner g bare.info bare.taskId w).2 := by
  obtain ⟨row, q, p, found, its, read, stored, alike, neat, own⟩ := paired.row
  obtain ⟨-, context, stage⟩ := TaskRow.progress_ok read
  have stage : row.columns.lifecycle = p.lifecycle := stage.trans alike.lifecycle
  have reached : Onward (.only bare.taskId) v
      ((attempt fun t now => t.submitReply now bare.taskId text).run v).2 :=
    Goes.attempt (.submitReply rfl text) v
  have reached := reached (.inl paired.orderly)
  have same : Value.Alike (.dict (Fields.put replyKey (.str text) q.context))
      (.dict (Fields.put replyKey (.str text) p.context)) :=
    Value.Alike.put (show Value.Alike (.dict q.context) (.dict p.context) from alike.context) _ (.str text)
  obtain ⟨kept, written, -, back⟩ := Columns.document_alike same
  obtain ⟨fields, rfl⟩ : ∃ fields, kept = .dict fields := by
    cases back with
    | dict => exact ⟨_, rfl⟩
  have given : v.tables.submitReply v.now bare.taskId text =
      .ok (v.tables.applyReply v.now bare.taskId q.context (.dict fields)) := by
    unfold Tables.submitReply Tables.getTask
    simp only [found, context, mappingColumn, written, bind, Except.bind]
  have ran := run_attempt (fun t now => t.submitReply now bare.taskId text) v
  unfold Tables.applyReply Tables.updateIf at given
  rw [given] at ran
  unfold Job.byWorker Job.overMemory
  simp only [stored]
  by_cases paused : p.lifecycle = .feedback
  · simp only [found, stage, paused, context, decide_true, Bool.and_self, if_true] at ran ⊢
    rw [ran] at reached ⊢
    let replied : TaskRow :=
      { row with
        columns := { row.columns with context := .dict fields, lifecycle := .running, waitingSince := none }
        updatedAt := v.now }
    have mine : row.taskId = bare.taskId := Tables.taskId_of_task? found
    have there : (v.tables.setTask replied).task? bare.taskId = some replied := Tables.task?_setTask found mine
    have load : (w.2.checkpoint (p.replied text)).load? bare.taskId = some (p.replied text) := by
      rw [← own]
      exact w.2.load?_checkpoint (p.replied text)
    have like : Progress.Like .data { q with context := fields, lifecycle := .running, waitingSince := none }
        (p.replied text) := by
      let woken (p : Progress) : Progress := { p with lifecycle := .running }
      exact alike.changed woken rfl rfl back alike.lastError rfl
    have reflects : (v.tables.setTask replied).Reflects bare (w.2.checkpoint (p.replied text)) :=
      ⟨⟨replied, _, there, its, load, own, fun _ => ⟨_, progress_of_replied read fields v.now, like⟩⟩,
        paired.reflects.ledger⟩
    have ready : (p.replied text).Neat bare.workflowId :=
      ⟨neat.factory, neat.attempts, neat.rounds, neat.counted⟩
    have free : Shop.Free { v with tables := v.tables.setTask replied } bare.taskId runner.workerId := by
      intro row' found'
      obtain rfl : replied = row' := Option.some.inj (there.symm.trans found')
      exact paired.free row found
    refine ⟨.cons (reflects.snapshot load ready) .nil, paired.tally, reflects, ⟨_, load, ready⟩, ?_, paired.unused,
      free, paired.registered⟩
    exact reached_orderly paired.orderly reached
  · have waits : row.columns.lifecycle ≠ .feedback := stage ▸ paused
    simp only [found, waits, decide_false, Bool.false_and, Bool.false_eq_true, if_false] at ran
    rw [ran]
    simp only [paused, if_false]
    exact ⟨.nil, paired⟩

theorem wait_paired (micros : Nat) :
    Paired runner g bare (passTime micros v) (passTime micros w.1, w.2) := by
  obtain ⟨tally, reflects, stored, orderly, unused, free, registered⟩ := paired
  have later : v.now ≤ (passTime micros v).now := Int.le_add_of_nonneg_right (Int.natCast_nonneg micros)
  exact ⟨tally, reflects, stored, ⟨orderly.distinct, orderly.owned, orderly.runs, orderly.active, orderly.rows⟩,
    unused, free.later rfl later, registered⟩

end Paired

/-! ## Courses -/

section Courses

variable {v : Shop} {w : Shop × MemoryStore}

/-- Jobs one after the other. -/
theorem course_paired (aloof : Aloof perform) (strict : runner.leaseMode = .strict) (suited : Suited perform g)
    (paired : Paired runner g bare v w) {jobs : List Job} (fit : Job.Fit perform runner bare.taskId jobs v) :
    List.Forall₂ Snapshot.Like (Job.course (Job.byWorker perform runner bare.taskId) jobs v).1
        (Job.course (Job.overMemory perform runner g bare.info bare.taskId) jobs w).1 ∧
      Paired runner g bare (Job.course (Job.byWorker perform runner bare.taskId) jobs v).2
        (Job.course (Job.overMemory perform runner g bare.info bare.taskId) jobs w).2 := by
  induction jobs generalizing v w with
  | nil => exact ⟨.nil, paired⟩
  | cons job rest ih =>
      obtain ⟨fits, fit⟩ := fit
      have step : List.Forall₂ Snapshot.Like (job.byWorker perform runner bare.taskId v).1
          (job.overMemory perform runner g bare.info bare.taskId w).1 ∧
          Paired runner g bare (job.byWorker perform runner bare.taskId v).2
            (job.overMemory perform runner g bare.info bare.taskId w).2 := by
        cases job with
        | tick reply runId => exact tick_paired aloof strict suited paired reply runId (fits reply runId rfl)
        | submit text => exact submit_paired paired text
        | wait micros => exact ⟨.nil, wait_paired paired micros⟩
      obtain ⟨here, still⟩ := step
      obtain ⟨later, last⟩ := ih still fit
      exact ⟨List.rel_append here later, last⟩

/-- What a strict worker stores of a task, tick after tick and reply after reply, is what the engine stores of it
over memory: the same states with the same rows of the ledger, write by write, names and times apart. Nobody else
takes its lease, callables leave the tables alone and answer the same data with the same data, and no tick
fails because a number or an instant is too large for the tables. -/
theorem worker_refines_memory (aloof : Aloof perform) (strict : runner.leaseMode = .strict)
    (suited : Suited perform g) {taskId : String} {row : TaskRow} (found : v.tables.task? taskId = some row)
    (registered : v.graphs.lookup row.workflowId = some g) (free : v.Free taskId runner.workerId)
    (orderly : v.Orderly) (unused : v.tables.Unused v.eventCount)
    (start : (v.snapshot taskId).Like (w.2.snapshot taskId))
    (neat : ∀ p, w.2.load? taskId = some p → p.Neat row.workflowId) (tally : v.tally = w.1.tally)
    {jobs : List Job} (fit : Job.Fit perform runner taskId jobs v) :
    let worked := Job.course (Job.byWorker perform runner taskId) jobs v
    let advanced := Job.course (Job.overMemory perform runner g row.info taskId) jobs w
    List.Forall₂ Snapshot.Like worked.1 advanced.1 ∧
      (worked.2.snapshot taskId).Like (advanced.2.2.snapshot taskId) := by
  obtain rfl : row.taskId = taskId := Tables.taskId_of_task? found
  obtain ⟨⟨q, p, loaded, stored, alike⟩, ledger⟩ := start
  have read : row.progress = .ok q := by
    unfold Shop.snapshot at loaded
    rw [run_load_found found] at loaded
    cases read : row.progress with
    | ok q' =>
        rw [read] at loaded
        exact congrArg Except.ok (Option.some.inj loaded)
    | error fault =>
        rw [read] at loaded
        cases loaded
  have own : p.taskId = row.taskId := alike.taskId.symm.trans (TaskRow.progress_ok read).1
  have paired : Paired runner g row.bare v w :=
    ⟨tally, ⟨⟨row, p, found, rfl, stored, own, fun _ => ⟨q, read, alike⟩⟩, ledger⟩, ⟨p, stored, neat p stored⟩,
      orderly, unused, free, registered⟩
  obtain ⟨together, last⟩ := course_paired aloof strict suited paired fit
  exact ⟨together, last.snapshot⟩

end Courses

/-! ## A step and a question -/

theorem faithful_literal {v : Value} (site : Nat) (told : Likeness.data.Tells v v) :
    Faithful lettingTimePass (.script site (.literal v)) := by
  intro call call' s s' alike tally
  refine ⟨⟨.ok told, alike.context⟩, ?_⟩
  show (s.tally.next site).2 = (s'.tally.next site).2
  rw [tally]

/-- A step that leaves a mark in the context. -/
def markedStep : Expr Request := .literal (.result (.str "done") (.dict [("made", .bool true)]) .null .null)

theorem faithful_markedStep : Faithful lettingTimePass (.script 0 markedStep) :=
  faithful_literal 0 (.result _ _ _ _ (.dict (Value.Alike.nothing.put "made" (.bool true))))

/-- A factory that asks a question after its step. -/
def stepThenAsk : Graph Code where
  id := "demo"
  start := "work"
  context := []
  states :=
    [("work", .action (.slot (.code (.script 0 markedStep) .whole)) ⟨some "confirm", some "finish", none⟩ none),
      ("confirm", .action (.ask (.named "Continue?") none)
        ⟨some "finish", some "finish", some "confirm__feedback"⟩ none),
      ("confirm__feedback", .feedback previousState),
      ("finish", .terminal .done none)]
  guards := []
  handlers := []

theorem suited_stepThenAsk : Suited lettingTimePass stepThenAsk where
  accepted := by
    have ordered : stepThenAsk.ensureOrdered = .ok () := rfl
    have unbroken : stepThenAsk.violations = [] := by decide +kernel
    unfold Graph.ensureValid Graph.examined
    rw [ordered]
    simp only [bind, Except.bind, unbroken]
  distinct := by decide
  named := by decide
  data := .nothing
  faithful := by
    refine ⟨?_, fun _ inside => absurd inside List.not_mem_nil, fun _ inside => absurd inside List.not_mem_nil⟩
    simpa [stepThenAsk, State.Every, Handler.Every, Slot.Every] using faithful_markedStep

/-- A shop with one new task of a factory. -/
def singleShop (g : Graph Code) : Shop :=
  { Shop.opened ⟨0⟩ with
    tables :=
      ⟨[{ taskId := "t1", workflowId := "demo", externalId := none, title := none, prompt := none,
          contextText := none, columns := .fresh (.dict []), activeRunId := none, lease := none,
          createdAt := ⟨0⟩, updatedAt := ⟨0⟩ }], [], []⟩
    graphs := [("demo", g)] }

/-- The same task in a store in memory. -/
def singleMemory (g : Graph Code) : Shop × MemoryStore :=
  (singleShop g, ⟨[("t1", .fresh "t1" "demo")], []⟩)

theorem singleShop_orderly (g : Graph Code) : (singleShop g).Orderly where
  distinct := .nil
  owned _ _ _ inside := absurd inside List.not_mem_nil
  runs _ inside := absurd inside List.not_mem_nil
  active row inside := by
    have idle : ∀ row ∈ (singleShop g).tables.tasks, row.activeRunId = none := by simp [singleShop]
    simp [idle row inside]
  rows _ inside := absurd inside List.not_mem_nil

theorem singleShop_free (g : Graph Code) (owner : String) : (singleShop g).Free "t1" owner := by
  intro row found
  have unheld : ∀ row ∈ (singleShop g).tables.tasks, row.lease = none := by simp [singleShop]
  unfold Tables.isFree
  rw [unheld row (Step.task?_mem found)]

theorem singleMemory_like (g : Graph Code) :
    ((singleShop g).snapshot "t1").Like ((singleMemory g).2.snapshot "t1") :=
  ⟨⟨.fresh "t1" "demo", .fresh "t1" "demo", rfl, rfl, rfl, .nothing, .none, rfl⟩, rfl⟩

/-- The task is ticked, its question is answered, and after a second it is ticked again. -/
def askedAndAnswered : List Job :=
  [.tick none "run-1", .submit "yes", .wait 1000000, .tick none "run-1"]

theorem worker_refines_memory_stepThenAsk :
    let worked := Job.course (Job.byWorker lettingTimePass (claimant 30) "t1") askedAndAnswered
      (singleShop stepThenAsk)
    let advanced := Job.course
      (Job.overMemory lettingTimePass (claimant 30) stepThenAsk ⟨"t1", none, none, none⟩ "t1") askedAndAnswered
      (singleMemory stepThenAsk)
    (List.Forall₂ Snapshot.Like worked.1 advanced.1 ∧
      (worked.2.snapshot "t1").Like (advanced.2.2.snapshot "t1")) ∧
      worked.1.length = 5 ∧ (worked.2.snapshot "t1").progress.map Progress.lifecycle = some .done := by
  intro worked advanced
  have fine : ∀ {α : Type} {r : Except Fault α}, r.isOk = true →
      ∀ fault, r = .error fault → ¬ fault.Overflows := by
    rintro α _ ok fault rfl -
    cases ok
  refine ⟨?_, by decide +kernel, by decide +kernel⟩
  have found : (singleShop stepThenAsk).tables.task? "t1" =
      some ((singleShop stepThenAsk).tables.tasks.head (by decide)) := rfl
  refine worker_refines_memory aloof_lettingTimePass rfl suited_stepThenAsk found rfl (singleShop_free _ _)
    (singleShop_orderly _) (fun _ inside => nomatch inside) (singleMemory_like _) ?_ rfl ?_
  · intro p stored
    obtain rfl : Progress.fresh "t1" "demo" = p := Option.some.inj stored
    exact ⟨rfl, List.Pairwise.nil, List.Pairwise.nil, ⟨fun _ inside => absurd inside List.not_mem_nil,
      fun _ inside => absurd inside List.not_mem_nil⟩⟩
  · refine ⟨?_, ?_, ?_, ?_, trivial⟩
    · rintro reply runId ⟨⟩
      exact fine (by decide +kernel)
    · exact fun _ _ same => nomatch same
    · exact fun _ _ same => nomatch same
    · rintro reply runId ⟨⟩
      exact fine (by decide +kernel)

/-- An entry of what is stored of a task. -/
def entryOf (name : String) (s : Snapshot) : Option Value :=
  s.progress.bind fun p => Fields.get? name p.context

theorem entryOf_alike {s s' : Snapshot} (alike : s.Like s') (name : String) :
    Option.Rel Value.Alike (entryOf name s) (entryOf name s') := by
  obtain ⟨q, p, stored, stored', same⟩ := alike.progress
  have context : Value.Alike (.dict q.context) (.dict p.context) := same.context
  unfold entryOf
  rw [stored, stored']
  exact context.found name

/-- A first tick by a worker, which claims the task for a number of seconds. -/
def firstTick (seconds : Int) (g : Graph Code) : Shop :=
  (Job.course (Job.byWorker lettingTimePass (claimant seconds) "t1") [.tick none "run-1"] (singleShop g)).2

/-- The same tick over a store in memory, after some ticks of other tasks. -/
def laterTick (seconds : Int) (g : Graph Code) (earlier : Nat) : Shop × MemoryStore :=
  (Job.course (Job.overMemory lettingTimePass (claimant seconds) g ⟨"t1", none, none, none⟩ "t1")
    [.tick none "run-1"] ({ singleShop g with tickCount := earlier }, (singleMemory g).2)).2

/-- A worker does not store the same as the engine over memory if the end of its lease leaves the calendar, or if a
callable looks at the name of its tick. -/
theorem worker_may_part :
    ((oneStep markedStep).Every (Faithful lettingTimePass) ∧
      ¬ ((firstTick 253402300800 (oneStep markedStep)).snapshot "t1").Like
        ((laterTick 253402300800 (oneStep markedStep) 0).2.snapshot "t1")) ∧
    ((oneStep vainStep).Every (Determined lettingTimePass) ∧
      ¬ ((firstTick 30 (oneStep vainStep)).snapshot "t1").Like
        ((laterTick 30 (oneStep vainStep) 1).2.snapshot "t1")) := by
  refine ⟨⟨oneStep_every faithful_markedStep, fun alike => ?_⟩,
    ⟨oneStep_every determined_vainStep, fun alike => ?_⟩⟩
  · have found := entryOf_alike alike "made"
    have here : entryOf "made" ((firstTick 253402300800 (oneStep markedStep)).snapshot "t1") = none := by
      decide +kernel
    have there : entryOf "made" ((laterTick 253402300800 (oneStep markedStep) 0).2.snapshot "t1") =
        some (.bool true) := by decide +kernel
    rw [here, there] at found
    cases found
  · have found := entryOf_alike alike "first"
    have here : entryOf "first" ((firstTick 30 (oneStep vainStep)).snapshot "t1") = some (.bool true) := by
      decide +kernel
    have there : entryOf "first" ((laterTick 30 (oneStep vainStep) 1).2.snapshot "t1") = some (.bool false) := by
      decide +kernel
    rw [here, there] at found
    cases found with
    | some same => cases same

end Shop

end Tickwork
