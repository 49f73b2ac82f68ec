import Tickwork.Proofs.LeasedWrites
import Tickwork.Shop.Serve

/-!
# Strict ticks

A strict runner works on a task only under its lease, but the callables of the task may do anything to the
shop meanwhile, the lease included. Main statement: every write of the tick that lands is made by the
holder; once a callable has returned and the lease is gone, the tick changes the tables no more and fails;
and however a tick ends that took the lease, it leaves nobody's lease but its own behind, which it gives
back.
-/

set_option autoImplicit false

namespace Tickwork

namespace Shop

variable {perform : Request → StateM Shop Unit} {runner : Runner} {taskId : String}

/-! ## The host of a strict tick -/

/-- A write of progress, with a row or without, as long as a worker holds the task. -/
def guardedWrite (owner : String) (row : Option Transition) (p : Progress) (t : Tables)
    (now : Instant) : Except Fault (Option Tables) :=
  match row with
  | none => t.checkpoint now p.taskId p.columns (some owner)
  | some row => t.record now row none p.taskId p.columns (some owner)

theorem lease?_guardedWrite {owner : String} {row : Option Transition} {p : Progress} {t t' : Tables}
    {now : Instant} (lands : guardedWrite owner row p t now = .ok (some t')) (id : String) :
    t'.lease? id = t.lease? id := by
  cases row with
  | none => exact Tables.lease?_checkpoint lands id
  | some row => exact Tables.lease?_record lands id

theorem calm_guardedWrite (owner : String) (row : Option Transition) (p : Progress) (t : Tables)
    (now : Instant) : Calm (guardedWrite owner row p t now) := by
  cases row with
  | none => exact Tables.calm_checkpoint _ _ _ _ _
  | some row => exact Tables.calm_record _ _ _ _ _ _ _

/-- The writes of a strict tick are made under the lease. -/
theorem host_write (strict : runner.leaseMode = .strict) (row : Option Transition) (p : Progress) :
    (host perform runner taskId).write row p =
      leasedWrite taskId (some runner.workerId) runner.leaseSpan
        (guardedWrite runner.workerId row p) := by
  cases row <;> simp only [Host.write, host, strict, if_true] <;> rfl

/-- Names are drawn and waits are noted while a tick idles, and nothing else becomes of the shop. -/
theorem idles_shop {w w' : Shop} (idles : Engine.Idles (host perform runner taskId) w w') :
    ∃ eventCount waits, w' = { w with eventCount, waits } := by
  induction idles with
  | still => exact ⟨_, _, rfl⟩
  | now _ ih => exact ih
  | named _ ih =>
      obtain ⟨eventCount, waits, rfl⟩ := ih
      exact ⟨eventCount + 1, waits, rfl⟩
  | slept _ delay ih =>
      obtain ⟨eventCount, waits, rfl⟩ := ih
      exact ⟨eventCount, waits ++ [delay], rfl⟩

/-! ## The deeds of a tick -/

/-- What is done in the advance of a tick, from where its task is loaded on. -/
def deedsOf (perform : Request → StateM Shop Unit) (runner : Runner) (task : TaskView)
    (g : Graph Code) (feedback : Option String) (s : Shop) : List (Deed Shop) :=
  match (load task.row.taskId).run s with
  | (.error _, _) => []
  | (.ok p, s) =>
    match (startRun task.row.taskId).run s with
    | (.error _, _) => []
    | (.ok runId, s) =>
      (Engine.advance (host perform runner task.row.taskId).noting runner.budget g task.row.info runId
        none feedback p (s, [])).2.2

/-- Work under a lease: what was written was written by the holder, and once a callable had returned and
the lease was gone, the tables were changed no more and the work failed. -/
structure Guarded (taskId owner : String) (span : Instant.Seconds) (deeds : List (Deed Shop))
    {α : Type} (result : Except Fault α) (after : Tables) : Prop where
  landed : ∀ row p before w, .wrote row p before (.ok ()) w ∈ deeds →
    before.tables.holder? taskId = some owner ∧ w.tables.holder? taskId = some owner
  lost : ∀ world since, Returned deeds world since → world.tables.holder? taskId ≠ some owner →
    after = world.tables ∧ ∃ fault, result = .error fault ∧
      (fault = .leaseLost taskId owner ∨ Tables.expiry world.now span = .error fault)

theorem Guarded.nothing {owner : String} {span : Instant.Seconds} {α : Type} {result : Except Fault α}
    {after : Tables} : Guarded taskId owner span [] result after where
  landed _ _ _ _ inside := absurd inside List.not_mem_nil
  lost := by
    rintro world since ⟨before, call, answer, same, -⟩
    simp at same

theorem advance_guarded (perform : Request → StateM Shop Unit) (taskId : String)
    (strict : runner.leaseMode = .strict) {g : Graph Code}
    (valid : g.violations = []) (task : TaskInfo) (runId : String) (tickId feedback : Option String)
    (p : Progress) (s : Shop) :
    Guarded taskId runner.workerId runner.leaseSpan
      (Engine.advance (host perform runner taskId).noting runner.budget g task runId tickId feedback p
        (s, [])).2.2
      (Engine.advance (host perform runner taskId) runner.budget g task runId tickId feedback p s).1.1
      (Engine.advance (host perform runner taskId) runner.budget g task runId tickId feedback p
        s).2.tables := by
  have conducted := Engine.advance_conducted (host perform runner taskId) valid runner.budget task runId
    tickId feedback p s
  constructor
  · intro row p before w inside
    have made := conducted.made row p before (.ok ()) w inside
    rw [host_write strict] at made
    exact holder?_of_landed (fun _ _ _ lands => lease?_guardedWrite lands taskId) made
  · intro world since returned gone
    obtain ⟨row, p, before, result, after, rest, rfl, idles⟩ := conducted.next world since returned
    obtain ⟨eventCount, waits, still⟩ := idles_shop idles
    have tables : before.tables = world.tables := by rw [still]
    have clock : before.now = world.now := by rw [still]
    obtain ⟨earlier, call, answer, same, -⟩ := returned
    have made := conducted.made row p before result after (by rw [same]; simp)
    rw [host_write strict] at made
    obtain ⟨fault, refused, why⟩ := refused_of_lost runner.leaseSpan
      (guardedWrite runner.workerId row p) (tables ▸ gone)
    rw [made] at refused
    cases refused
    have calm := calm_of_refused (calm_guardedWrite runner.workerId row p) made
    obtain ⟨-, result, left⟩ := conducted.last (earlier ++ [.said call answer world]) row p before fault
      before rest (by rw [same]; simp) calm
    exact ⟨by rw [left, tables], fault, result, clock ▸ why⟩

/-- An advance under a lease, from where its task is loaded on. -/
theorem advanceTask_guarded (perform : Request → StateM Shop Unit)
    (strict : runner.leaseMode = .strict) {g : Graph Code}
    (valid : g.violations = []) (task : TaskView) (feedback : Option String) (s : Shop) :
    Guarded task.row.taskId runner.workerId runner.leaseSpan
      (deedsOf perform runner task g feedback s)
      ((advanceTask perform runner task g feedback).run s).1
      ((advanceTask perform runner task g feedback).run s).2.tables := by
  unfold deedsOf advanceTask
  simp only
  cases loaded : (load task.row.taskId).run s with
  | mk result s₁ =>
      cases result with
      | error fault => exact .nothing
      | ok p =>
          rw [Work.run_bind_of_ok loaded]
          simp only
          cases started : (startRun task.row.taskId).run s₁ with
          | mk result s₂ =>
              cases result with
              | error fault => exact .nothing
              | ok runId =>
                  rw [Work.run_bind_of_ok started]
                  simp only
                  have guarded := advance_guarded perform task.row.taskId
                    strict valid task.row.info runId none feedback p s₂
                  generalize (Engine.advance (host perform runner task.row.taskId).noting
                    runner.budget g task.row.info runId none feedback p (s₂, [])).2.2 = deeds
                    at guarded ⊢
                  rw [Work.run_bind_of_lift]
                  generalize Engine.advance (host perform runner task.row.taskId) runner.budget g
                    task.row.info runId none feedback p s₂ = advanced at guarded ⊢
                  obtain ⟨⟨result, q⟩, left⟩ := advanced
                  simp only at guarded ⊢
                  refine ⟨guarded.landed, fun world since returned gone => ?_⟩
                  obtain ⟨tables, fault, rfl, why⟩ := guarded.lost world since returned gone
                  cases fault with
                  | fatal cause taskId =>
                      rcases why with lost | ends
                      · cases lost
                      · cases Tables.calm_expiry _ _ _ ends
                  | _ => exact ⟨tables, _, rfl, why⟩

/-! ## Ticks -/

theorem run_getTask (taskId : String) (s : Shop) :
    ∃ result, (getTask taskId).run s = (result, s) ∧
      ∀ task, result = .ok task → s.tables.task? taskId = some task.row := by
  unfold getTask find?
  rw [Work.run_bind, Work.run_bind_get]
  cases found : s.tables.task? taskId with
  | none => exact ⟨.error (.taskNotFound taskId), rfl, fun _ same => nomatch same⟩
  | some row =>
      have viewed : ∀ view, row.view = .ok view → view.row = row := by
        intro view read
        unfold TaskRow.view at read
        cases context : mappingColumn row.columns.context with
        | error fault =>
            rw [context] at read
            cases read
        | ok fields =>
            rw [context] at read
            cases read
            rfl
      simp only
      cases read : row.view with
      | error fault => exact ⟨.error fault, rfl, fun _ same => nomatch same⟩
      | ok view =>
          refine ⟨.ok view, rfl, ?_⟩
          rintro _ ⟨⟩
          rw [viewed view read]

theorem run_graph (workflowId : String) (s : Shop) :
    ∃ result, (graph workflowId).run s = (result, s) ∧
      ∀ g, result = .ok g → s.graphs.lookup workflowId = some g := by
  unfold graph
  rw [Work.run_bind_get]
  cases found : s.graphs.lookup workflowId with
  | none => exact ⟨.error (.catalog (.unknown workflowId)), rfl, fun _ same => nomatch same⟩
  | some g => exact ⟨.ok g, rfl, fun _ same => congrArg some (Except.ok.inj same)⟩

/-- Why a tick leaves a task alone, and what it reports then: the task has ended, it waits for a reply and
none is given, or the runner needs the lease and another worker has it. -/
inductive LeftAlone (runner : Runner) (feedback : Option String) (now : Instant) (row : TaskRow) :
    TickReport → Prop
  | ended (past : row.columns.lifecycle.isTerminal = true) :
      LeftAlone runner feedback now row
        ⟨row.taskId, some (.ofLifecycle row.columns.lifecycle), 0, row.columns.lastError, true⟩
  | waits (paused : row.columns.lifecycle = .feedback) (unanswered : feedback = none) :
      LeftAlone runner feedback now row ⟨row.taskId, some .feedback, 0, some "Awaiting reply", true⟩
  | held {lease : Lease} (strict : runner.leaseMode = .strict) (leased : row.lease = some lease)
      (other : lease.owner ≠ runner.workerId) (lasts : ¬ lease.expiresAt < now) :
      LeftAlone runner feedback now row ⟨row.taskId, none, 0, none, true⟩

theorem LeftAlone.skipped {feedback : Option String} {now : Instant} {row : TaskRow} {report : TickReport}
    (alone : LeftAlone runner feedback now row report) : report.skipped = true := by
  cases alone <;> rfl

/-- A task that cannot be taken is leased by another worker, and its lease has not run out. -/
theorem leased_of_untaken {taskId owner : String} {span : Instant.Seconds} {t : Tables} {now : Instant}
    {row : TaskRow} (found : t.task? taskId = some row) (untaken : t.acquire now taskId owner span = .ok none) :
    ∃ lease, row.lease = some lease ∧ lease.owner ≠ owner ∧ ¬ lease.expiresAt < now := by
  unfold Tables.acquire at untaken
  cases ends : Tables.expiry now span with
  | error fault =>
      rw [ends] at untaken
      cases untaken
  | ok ending =>
      rw [ends] at untaken
      have busy : ¬ Tables.isFree now owner row = true := fun free =>
        nomatch (Tables.updateIf_of_met found free).symm.trans (Except.ok.inj untaken)
      unfold Tables.isFree at busy
      cases leased : row.lease with
      | none => simp [leased] at busy
      | some lease => exact ⟨lease, rfl, by simpa [leased] using busy⟩

/-- A tick leaves its task alone and changes nothing, or it takes the lease if it can, advances the task
and gives the lease back. Without the lease only a runner advances a task that does not need it. -/
theorem tick_goes (perform : Request → StateM Shop Unit) (runner : Runner) (taskId : String)
    (feedback : Option String) (s : Shop) :
    (∃ result, (tick perform runner taskId feedback).run s = (result, s) ∧
      ∀ report, result = .ok report →
        ∃ row, s.tables.task? taskId = some row ∧ LeftAlone runner feedback s.now row report) ∨
    ∃ task g landed, (getTask taskId).run s = (.ok task, s) ∧ task.row.taskId = taskId ∧
      task.row.columns.lifecycle.isTerminal = false ∧
      s.graphs.lookup task.row.workflowId = some g ∧
      s.tables.acquire s.now taskId runner.workerId runner.leaseSpan = .ok landed ∧
      (landed = none → runner.leaseMode ≠ .strict) ∧
      (tick perform runner taskId feedback).run s =
        (releasing landed.isSome taskId runner.workerId (advanceTask perform runner task g feedback)).run
          { s with tables := landed.getD s.tables } := by
  unfold tick
  obtain ⟨result, looked, finds⟩ := run_getTask taskId s
  cases result with
  | error fault => exact .inl ⟨_, Work.run_bind_of_error looked _, nofun⟩
  | ok task =>
      have here := looked
      have found := finds task rfl
      rw [Work.run_bind_of_ok looked]
      have own := Tables.taskId_of_task? found
      subst own
      simp only
      by_cases ended : task.row.columns.lifecycle.isTerminal = true
      · refine .inl ⟨_, by rw [if_pos ended]; rfl, ?_⟩
        rintro _ ⟨⟩
        exact ⟨task.row, found, .ended ended⟩
      · rw [if_neg ended]
        by_cases waits : task.row.columns.lifecycle = .feedback ∧ feedback = none
        · refine .inl ⟨_, by rw [if_pos waits]; rfl, ?_⟩
          rintro _ ⟨⟩
          exact ⟨task.row, found, .waits waits.1 waits.2⟩
        · rw [if_neg waits]
          have active : task.row.columns.lifecycle.isTerminal = false := by simpa using ended
          obtain ⟨result, looked, finds⟩ := run_graph task.row.workflowId s
          cases result with
          | error fault => exact .inl ⟨_, Work.run_bind_of_error looked _, nofun⟩
          | ok g =>
              rw [Work.run_bind_of_ok looked]
              have took := run_attempt
                (fun t now => t.acquire now task.row.taskId runner.workerId runner.leaseSpan) s
              cases taken : s.tables.acquire s.now task.row.taskId runner.workerId runner.leaseSpan with
              | error fault =>
                  rw [taken] at took
                  exact .inl ⟨_, Work.run_bind_of_error took _, nofun⟩
              | ok landed =>
                  rw [taken] at took
                  cases landed with
                  | none =>
                      rw [Work.run_bind_of_ok took]
                      by_cases strict : runner.leaseMode = .strict
                      · refine .inl ⟨.ok ⟨task.row.taskId, none, 0, none, true⟩, ?_, ?_⟩
                        · rw [if_pos (by simp [strict])]
                          rfl
                        · rintro _ ⟨⟩
                          obtain ⟨lease, leased, other, lasts⟩ := leased_of_untaken found taken
                          exact ⟨task.row, found, .held strict leased other lasts⟩
                      · refine .inr ⟨task, g, none, here, rfl, active, finds g rfl, rfl, fun _ => strict, ?_⟩
                        rw [if_neg (by simp [strict])]
                        rfl
                  | some t =>
                      refine .inr ⟨task, g, some t, here, rfl, active, finds g rfl, rfl, nofun, ?_⟩
                      rw [Work.run_bind_of_ok took, if_neg (by simp)]
                      rfl

/-- A strict tick leaves its task alone and changes nothing, or it takes the lease, advances the task and
gives the lease back. -/
theorem tick_cases (perform : Request → StateM Shop Unit) (strict : runner.leaseMode = .strict)
    (taskId : String) (feedback : Option String) (s : Shop) :
    (∃ result, (tick perform runner taskId feedback).run s = (result, s) ∧
      ∀ report, result = .ok report → report.skipped = true) ∨
    ∃ task g t, (getTask taskId).run s = (.ok task, s) ∧ task.row.taskId = taskId ∧
      s.graphs.lookup task.row.workflowId = some g ∧
      s.tables.acquire s.now taskId runner.workerId runner.leaseSpan = .ok (some t) ∧
      (tick perform runner taskId feedback).run s =
        (releasing true taskId runner.workerId (advanceTask perform runner task g feedback)).run
          { s with tables := t } := by
  rcases tick_goes perform runner taskId feedback s with
    ⟨result, ran, idle⟩ | ⟨task, g, landed, looked, own, -, found, taken, unheld, ran⟩
  · refine .inl ⟨result, ran, fun report came => ?_⟩
    obtain ⟨row, -, alone⟩ := idle report came
    exact alone.skipped
  · cases landed with
    | none => exact absurd strict (unheld rfl)
    | some t => exact .inr ⟨task, g, t, looked, own, found, taken, ran⟩

/-- Whatever callables do to the shop: a strict tick leaves its task alone, or it takes the lease, advances
the task and gives the lease back. Then what it wrote was written by the holder of the lease; once a
callable had returned and the lease was gone, the tables were changed no more and the tick failed; and
however the tick ended, its worker does not hold the task any more, and nobody else has lost it to the
tick. -/
theorem strict_tick_guarded (strict : runner.leaseMode = .strict)
    (perform : Request → StateM Shop Unit) (taskId : String) (feedback : Option String)
    {s after : Shop} (valid : ∀ id g, s.graphs.lookup id = some g → g.violations = [])
    {result : Except Fault TickReport}
    (ticked : (tick perform runner taskId feedback).run s = (result, after)) :
    (after = s ∧ ∀ report, result = .ok report → report.skipped = true) ∨
    ∃ task g t left, (getTask taskId).run s = (.ok task, s) ∧
      s.graphs.lookup task.row.workflowId = some g ∧
      s.tables.acquire s.now taskId runner.workerId runner.leaseSpan = .ok (some t) ∧
      (advanceTask perform runner task g feedback).run { s with tables := t } = (result, left) ∧
      after = { left with tables := left.tables.release taskId runner.workerId } ∧
      after.tables.holder? taskId ≠ some runner.workerId ∧
      (left.tables.holder? taskId ≠ some runner.workerId → after.tables = left.tables) ∧
      Guarded taskId runner.workerId runner.leaseSpan
        (deedsOf perform runner task g feedback { s with tables := t }) result after.tables := by
  rcases tick_cases perform strict taskId feedback s with
    ⟨result', left, idle⟩ | ⟨task, g, t, looked, own, found, taken, worked⟩
  · rw [ticked] at left
    cases left
    exact .inl ⟨rfl, idle⟩
  · have guarded := advanceTask_guarded perform strict (valid _ g found) task feedback
      { s with tables := t }
    rw [ticked] at worked
    generalize ran : (advanceTask perform runner task g feedback).run { s with tables := t } = r
      at guarded
    obtain ⟨result', left⟩ := r
    have released : (result, after) =
        (result', { left with tables := left.tables.release taskId runner.workerId }) := by
      rw [worked]
      show (let (result, s) := (advanceTask perform runner task g feedback).run { s with tables := t }
        (result, { s with tables := s.tables.release taskId runner.workerId })) = _
      rw [ran]
    cases released
    obtain ⟨given, alone⟩ := Tables.holder?_release left.tables taskId runner.workerId
    refine .inr ⟨task, g, t, left, looked, found, taken, ran, rfl, given, alone, ?_⟩
    rw [own] at guarded
    refine ⟨guarded.landed, fun world since returned gone => ?_⟩
    obtain ⟨tables, failed⟩ := guarded.lost world since returned gone
    refine ⟨?_, failed⟩
    simp only at tables ⊢
    rw [tables]
    exact (Tables.holder?_release world.tables taskId runner.workerId).2 gone

/-! ## A lease that is given back behind the back of a tick -/

/-- A factory whose only step gives the lease back, lets a minute pass and is done. -/
def lettingGo : Graph Code where
  id := "demo"
  start := "work"
  context := []
  states :=
    [("work", .action (.slot (.code (.script 0 (.aside (.release "t1" "a")
        (.aside (.clock 60000000) (.literal (plainReport "done"))))) .whole))
        ⟨some "finish", some "finish", none⟩ none),
      ("finish", .terminal .done none)]
  guards := []
  handlers := []

/-- A shop with one task of that factory. -/
def lettingGoShop : Shop :=
  { Shop.opened ⟨0⟩ with tables := oneTask, graphs := [("demo", lettingGo)] }

theorem lettingGoShop_valid (id : String) (g : Graph Code)
    (found : lettingGoShop.graphs.lookup id = some g) : g.violations = [] := by
  have inside := Graph.mem_of_lookup found
  cases List.mem_singleton.mp inside
  decide

/-- A strict runner that claims a task for a number of seconds. -/
def claimant (seconds : Int) : Runner where
  workerId := "a"
  leaseMode := .strict
  leaseSpan := .whole seconds
  budget := .clamped 25 200
  verifyReplay := false

def lettingGoTick (seconds : Int) : Except Fault TickReport × Shop :=
  (tick (Shop.perform 1) (claimant seconds) "t1" none).run lettingGoShop

/-- Whether a tick failed because its lease was lost. -/
def lostLease : Except Fault TickReport → Bool
  | .error (.leaseLost _ _) => true
  | _ => false

/-- Whether the callable was the last to return, and left the task without a lease. -/
def leftAlone : List (Deed Shop) → Bool
  | [_, .said _ _ world, .wrote ..] => decide (world.tables.holder? "t1" = none)
  | _ => false

theorem returned_of_leftAlone {deeds : List (Deed Shop)} (left : leftAlone deeds = true) :
    ∃ world since, Returned deeds world since ∧ world.tables.holder? "t1" = none := by
  unfold leftAlone at left
  split at left
  · rename_i first call answer world row p before result after
    exact ⟨world, _, ⟨[first], call, answer, rfl, fun deed inside => by cases inside; exact id⟩,
      of_decide_eq_true left⟩
  · cases left

def lettingGoTask : TaskView where
  row :=
    { taskId := "t1", workflowId := "demo", externalId := none, title := none, prompt := none,
      contextText := none, columns := .fresh (.dict []), activeRunId := none, lease := none,
      createdAt := ⟨0⟩, updatedAt := ⟨0⟩ }
  context := []

def lettingGoClaimed (seconds : Int) : Shop :=
  { lettingGoShop with
    tables := lettingGoShop.tables.setTask
      { lettingGoTask.row with lease := some ⟨"a", ⟨seconds * 1000000⟩⟩ } }

/-- What such a tick does. -/
def lettingGoDeeds (seconds : Int) : List (Deed Shop) :=
  deedsOf (Shop.perform 1) (claimant seconds) lettingGoTask lettingGo none (lettingGoClaimed seconds)

/-- With the lease gone, the tick fails and leaves the tables as the callable left them. -/
theorem strict_tick_guarded_lettingGo :
    lostLease (lettingGoTick 30).1 = true ∧
      ∃ world since, Returned (lettingGoDeeds 30) world since ∧
        world.tables.holder? "t1" = none ∧ (lettingGoTick 30).2.tables = world.tables := by
  obtain ⟨world, since, returned, gone⟩ := returned_of_leftAlone
    (show leftAlone (lettingGoDeeds 30) = true by decide +kernel)
  refine ⟨by decide +kernel, world, since, returned, gone, ?_⟩
  rcases strict_tick_guarded rfl (Shop.perform 1) "t1" none lettingGoShop_valid
    (show (tick (Shop.perform 1) (claimant 30) "t1" none).run lettingGoShop =
      ((lettingGoTick 30).1, (lettingGoTick 30).2) from rfl) with
    ⟨same, -⟩ | ⟨task, g, t, left, looked, found, taken, -, -, -, -, guarded⟩
  · have moved : (lettingGoTick 30).2.tables ≠ lettingGoShop.tables := by decide +kernel
    exact absurd (congrArg Shop.tables same) moved
  · have here : (getTask "t1").run lettingGoShop = (.ok lettingGoTask, lettingGoShop) := rfl
    obtain rfl : lettingGoTask = task := Except.ok.inj (congrArg Prod.fst (here.symm.trans looked))
    obtain rfl : lettingGo = g := Option.some.inj found
    obtain rfl : (lettingGoClaimed 30).tables = t := Option.some.inj (Except.ok.inj taken)
    have lost : world.tables.holder? "t1" ≠ some "a" := by
      rw [gone]
      exact nofun
    exact (guarded.lost world since returned lost).1

/-- A tick that finds its lease gone does not always say so: where the claim would end beyond the calendar,
renewing it fails for that reason. -/
theorem lost_lease_may_go_unsaid :
    ¬ ∀ world since, Returned (lettingGoDeeds 253402300790) world since →
      world.tables.holder? "t1" ≠ some "a" → lostLease (lettingGoTick 253402300790).1 = true := by
  obtain ⟨world, since, returned, gone⟩ := returned_of_leftAlone
    (show leftAlone (lettingGoDeeds 253402300790) = true by decide +kernel)
  intro said
  have lost : world.tables.holder? "t1" ≠ some "a" := by
    rw [gone]
    exact nofun
  have other : lostLease (lettingGoTick 253402300790).1 = false := by decide +kernel
  rw [said world since returned lost] at other
  cases other

end Shop

end Tickwork
