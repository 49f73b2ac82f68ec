import Tickwork.Proofs.AppendOnly
import Tickwork.Proofs.Openings

/-!
# A tick in company

Other workers, and whoever else reaches the tables, may act between any two operations of a tick.
`tickAmong` is a tick after each of whose operations others make requests of the shop; it keeps in mind
what it loaded and notes what the engine did. Main statements: a tick that is alone is a tick of the
shop, and the first row that a tick in company records tells of the place where its task was loaded.
-/

set_option autoImplicit false

namespace Tickwork

variable {α β : Type}

/-- What others ask of a shop after each operation of a tick. -/
abbrev Company := Nat → List Request

/-- Nobody asks for anything. -/
def Company.none : Company := fun _ => []

/-- A shop in which a tick is at work. -/
structure Floor where
  shop : Shop
  /-- How many operations the tick has made. -/
  operations : Nat
  /-- What the tick has loaded. -/
  loaded : Option Progress

/-- Work on a floor that may fail. -/
abbrev Among (α : Type) := ExceptT Fault (StateM (Noted Floor)) α

namespace Shop

section Tick

variable (company : Company) (perform : Request → StateM Shop Unit) (runner : Runner)

/-- An operation of a tick, after which the others act. -/
def amongOthers (act : StateM Shop α) : StateM Floor α := fun f =>
  ((act f.shop).1, { f with
    shop := (company f.operations).foldl (fun s request => (perform request s).2) (act f.shop).2
    operations := f.operations + 1 })

/-- The world of the engine for one tick in company. A write is one operation here, as it is for a runner
that works without a lease. -/
def hostAmong (taskId : String) : Host Code Floor :=
  let plain := host perform runner taskId
  { behaviour := fun f call => amongOthers company perform (plain.behaviour f call)
    now := amongOthers company perform plain.now
    freshEventId := amongOthers company perform plain.freshEventId
    freshTickId := amongOthers company perform plain.freshTickId
    sleep := fun delay => amongOthers company perform (plain.sleep delay)
    checkpoint := fun p => ExceptT.mk (amongOthers company perform (plain.checkpoint p).run)
    record := fun row p => ExceptT.mk (amongOthers company perform (plain.record row p).run) }

/-- Works in the shop, in one operation. -/
def step (act : Work α) : Among α := ExceptT.mk (besideLog (amongOthers company perform act.run))

/-- Loads a task and keeps in mind what was loaded. -/
def loadAmong (taskId : String) : Among Progress := do
  let p ← step company perform (load taskId)
  modify fun w => ({ w.1 with loaded := some p }, w.2)
  pure p

def advanceTaskAmong (task : TaskView) (g : Graph Code) (feedback : Option String) :
    Among TickReport := do
  let taskId := task.row.taskId
  let p ← loadAmong company perform taskId
  let previous := p.lifecycle
  let runId ← step company perform (startRun taskId)
  let (result, p) ← Engine.advance (hostAmong company perform runner taskId).noting runner.budget g
    task.row.info runId none feedback p
  match result with
  | .error (.fatal cause _) => do
    step company perform (finishRun runId .failed)
    step company perform (announce (.lifecycle taskId previous .failed (some cause.message)))
    pure ⟨taskId, some .failed, 0, some cause.message, false⟩
  | .error fault => throw fault
  | .ok finish => do
    step company perform (finishRun runId (runStatusOf finish.ending))
    step company perform (tellOf task.row previous finish p)
    if runner.verifyReplay ∨ runner.leaseMode = .bestEffort then
      let _ ← step company perform (verify taskId)
    pure ⟨taskId, some finish.ending, finish.transitions, finish.message, false⟩

def giveBackLease (taskId : String) : StateM Shop Unit :=
  modify fun s => { s with tables := s.tables.release taskId runner.workerId }

def releasingAmong (acquired : Bool) (taskId : String) (act : Among α) : Among α :=
  ExceptT.mk fun w =>
    let (result, w) := act.run w
    (result, if acquired then
      (besideLog (amongOthers company perform (giveBackLease runner taskId)) w).2 else w)

/-- One tick of a runner for a task, in company. -/
def tickAmong (taskId : String) (feedback : Option String) : Among TickReport := do
  let task ← step company perform (getTask taskId)
  let columns := task.row.columns
  if columns.lifecycle.isTerminal then
    pure ⟨taskId, some (.ofLifecycle columns.lifecycle), 0, columns.lastError, true⟩
  else if columns.lifecycle = .feedback ∧ feedback = none then
    pure ⟨taskId, some .feedback, 0, some "Awaiting reply", true⟩
  else do
    let g ← step company perform (graph task.row.workflowId)
    let acquired ← step company perform do
      attempt fun t now => t.acquire now taskId runner.workerId runner.leaseSpan
    if !acquired && runner.leaseMode = .strict then pure ⟨taskId, none, 0, none, true⟩
    else
      releasingAmong company perform runner acquired taskId
        (advanceTaskAmong company perform runner task g feedback)

end Tick

/-! ## Nobody else -/

section Alone

variable {perform : Request → StateM Shop Unit} {runner : Runner}

/-- What a floor shows of its shop. -/
abbrev shopOf (w : Noted Floor) : Shop := w.1.shop

theorem step_alone (act : Work α) : Work.Mirrors shopOf (step .none perform act) act := fun _ => rfl

theorem loadAmong_alone (taskId : String) :
    Work.Mirrors shopOf (loadAmong .none perform taskId) (load taskId) := by
  intro w
  obtain ⟨result, ran, -⟩ := run_load taskId w.1.shop
  have stepped : (step .none perform (load taskId)).run w =
      (((load taskId).run w.1.shop).1, { w.1 with
        shop := ((load taskId).run w.1.shop).2, operations := w.1.operations + 1 }, w.2) := rfl
  rw [ran] at stepped ⊢
  unfold loadAmong
  cases result with
  | ok p =>
      rw [Work.run_bind_of_ok stepped]
      rfl
  | error fault => rw [Work.run_bind_of_error stepped]

theorem hostAmong_alone (taskId : String) :
    (hostAmong .none perform runner taskId).noting.Projects (host perform runner taskId) shopOf where
  behaviour _ _ _ := rfl
  now _ := rfl
  freshEventId _ := rfl
  freshTickId _ := rfl
  sleep _ _ := rfl
  checkpoint _ _ := rfl
  record _ _ _ := rfl

theorem advanceTaskAmong_alone (task : TaskView) (g : Graph Code) (feedback : Option String) :
    Work.Mirrors shopOf (advanceTaskAmong .none perform runner task g feedback)
      (advanceTask perform runner task g feedback) := by
  unfold advanceTaskAmong advanceTask
  refine .bind (loadAmong_alone _) fun p => .bind (step_alone _) fun runId =>
    .bind (.lift ?_) fun advanced => ?_
  · exact Engine.advance_sees (hostAmong_alone task.row.taskId) _ _ _ _ _ _ _
  · obtain ⟨result, q⟩ := advanced
    cases result with
    | error fault =>
        cases fault with
        | fatal cause id => exact .bind (step_alone _) fun _ => .bind (step_alone _) fun _ => .pure _
        | _ => exact .throw _
    | ok finish =>
        refine .bind (step_alone _) fun _ => .bind (step_alone _) fun _ => ?_
        exact .ite (.bind (step_alone _) fun _ => .pure _) (.pure _)

theorem releasingAmong_alone {act : Among α} {plain : Work α} (mirrors : Work.Mirrors shopOf act plain)
    (acquired : Bool) (taskId : String) :
    Work.Mirrors shopOf (releasingAmong .none perform runner acquired taskId act)
      (releasing acquired taskId runner.workerId plain) := by
  intro w
  have same : plain.run w.1.shop = ((act.run w).1, (act.run w).2.1.shop) := mirrors w
  unfold releasing releasingAmong
  simp only [ExceptT.run_mk, shopOf, same]
  cases acquired <;> rfl

/-- A tick that is alone is a tick of the shop. -/
theorem tickAmong_alone (taskId : String) (feedback : Option String) :
    Work.Mirrors shopOf (tickAmong .none perform runner taskId feedback)
      (tick perform runner taskId feedback) := by
  unfold tickAmong tick
  refine .bind (step_alone _) fun task => .ite (.pure _) (.ite (.pure _) ?_)
  refine .bind (step_alone _) fun g => .bind (step_alone _) fun acquired => .ite (.pure _) ?_
  exact releasingAmong_alone (advanceTaskAmong_alone task g feedback) acquired taskId

end Alone

/-! ## Later on the floor -/

/-- Later on the same floor: the shop has only grown since, and nothing was loaded. -/
structure Later (f f' : Floor) : Prop where
  shop : f.shop.Extends f'.shop
  loaded : f'.loaded = f.loaded

/-- Later, with nothing noted since. -/
structure Quieter (w w' : Noted Floor) : Prop where
  floor : Later w.1 w'.1
  log : w'.2 = w.2

theorem later_forward : Forward Later where
  refl f := ⟨forward.refl f.shop, rfl⟩
  trans first second :=
    ⟨forward.trans first.shop second.shop, second.loaded.trans first.loaded⟩

theorem quieter_forward : Forward Quieter where
  refl w := ⟨later_forward.refl w.1, rfl⟩
  trans first second := ⟨later_forward.trans first.floor second.floor, second.log.trans first.log⟩

/-- The first row of a tick that loaded `p`: it tells of the place where the task stood, and it was put at
the end of the ledger as that was by then. -/
structure Begins (start : Shop) (g : Graph Code) (p : Progress) (row : Transition)
    (before after : Floor) : Prop where
  place : row.fromId = Engine.position g p
  owner : row.taskId = p.taskId
  since : start.Extends before.shop
  made : before.shop.Extends after.shop
  grown : before.shop.tables.rows ++ [row] <+: after.shop.tables.rows

/-- If a tick loaded a progress and recorded rows, the first one begins there. -/
def Tells (start : Shop) (g : Graph Code) (taskId : String) (w : Noted Floor) : Prop :=
  ∀ p row before after, w.1.loaded = some p →
    w.2.findSome? Deed.recorded? = some (row, before, after) →
    p.taskId = taskId ∧ Begins start g p row before after ∧ after.shop.Extends w.1.shop

theorem Tells.of_silent {start : Shop} {g : Graph Code} {taskId : String} {w : Noted Floor}
    (silent : w.2 = []) : Tells start g taskId w := by
  intro p row before after _ found
  rw [silent] at found
  cases found

theorem Tells.later {start : Shop} {g : Graph Code} {taskId : String} {w w' : Noted Floor}
    (tells : Tells start g taskId w) (quieter : Quieter w w') : Tells start g taskId w' := by
  intro p row before after loaded found
  rw [quieter.floor.loaded] at loaded
  rw [quieter.log] at found
  obtain ⟨own, begins, grown⟩ := tells p row before after loaded found
  exact ⟨own, begins, forward.trans grown quieter.floor.shop⟩

section Company

variable {company : Company} {perform : Request → StateM Shop Unit}
variable (adds : ∀ request (s : Shop), s.Extends (perform request s).2)

include adds

/-- What others do after an operation only adds to the shop. -/
theorem amongOthers_extends (act : StateM Shop α) (f : Floor) :
    (act f.shop).2.Extends (amongOthers company perform act f).2.shop := by
  show Extends _ ((company f.operations).foldl _ _)
  generalize (act f.shop).2 = s
  induction company f.operations generalizing s with
  | nil => exact forward.refl s
  | cons request rest ih => exact forward.trans (adds request s) (ih _)

theorem amongOthers_later {act : StateM Shop α} (moves : ∀ s : Shop, s.Extends (act s).2) (f : Floor) :
    Later f (amongOthers company perform act f).2 :=
  ⟨forward.trans (moves f.shop) (amongOthers_extends adds act f), rfl⟩

theorem step_later {act : Work α} (moves : Adds act) :
    Work.Moves Quieter (step company perform act) := fun w =>
  ⟨amongOthers_later adds moves w.1, rfl⟩

theorem hostAmong_moves (runner : Runner) (taskId : String) :
    (hostAmong company perform runner taskId).Moves Later := fun start =>
  have plain := fun s => host_moves adds runner taskId s
  have along : ∀ {α : Type} {act : StateM Shop α}, (∀ s : Shop, s.Extends (act s).2) →
      Preserves (Later start) (amongOthers company perform act) := fun moves f here =>
    later_forward.trans here (amongOthers_later adds moves f)
  { behaviour := fun f call => along fun s => (plain s).behaviour f call s (forward.refl s)
    now := along fun s => (plain s).now s (forward.refl s)
    freshEventId := along fun s => (plain s).freshEventId s (forward.refl s)
    freshTickId := along fun s => (plain s).freshTickId s (forward.refl s)
    sleep := fun delay => along fun s => (plain s).sleep delay s (forward.refl s)
    checkpoint := fun p => along fun s => (plain s).checkpoint p s (forward.refl s)
    record := fun row p => along fun s => (plain s).record row p s (forward.refl s) }

/-- An advance in company loads nothing, and its first row tells of the place where the task stood. -/
theorem advance_begins {g : Graph Code} (valid : g.violations = []) (runner : Runner) (taskId : String)
    (task : TaskInfo) (runId : String) (feedback : Option String) (p : Progress) (f : Floor)
    {result : Except Fault Finish × Progress} {w : Noted Floor}
    (ran : Engine.advance (hostAmong company perform runner taskId).noting runner.budget g task runId
      none feedback p (f, []) = (result, w)) :
    w.1.loaded = f.loaded ∧ ∀ row before after,
      w.2.findSome? Deed.recorded? = some (row, before, after) →
        Begins f.shop g p row before after ∧ after.shop.Extends w.1.shop := by
  have opens := Engine.advance_opens (hostAmong company perform runner taskId) valid runner.budget task
    runId none feedback p f
  have conducted := Engine.advance_conducted (hostAmong company perform runner taskId) valid
    runner.budget task runId none feedback p f
  have moves : (hostAmong company perform runner taskId).Moves Later := hostAmong_moves adds runner taskId
  have between := Engine.advance_preserves (moves.noting later_forward f) runner.budget g task runId none
    feedback p (f, []) ⟨later_forward.refl f, fun _ _ _ _ _ inside => nomatch inside⟩
  rw [ran] at opens conducted between
  refine ⟨between.here.loaded, fun row before after found => ?_⟩
  obtain ⟨place, owner⟩ := opens row before after found
  obtain ⟨q, inside⟩ := wrote_of_recorded found
  have wrote : (amongOthers company perform ((host perform runner taskId).record row q).run) before =
      (.ok (), after) := conducted.made _ _ _ _ _ inside
  obtain ⟨first, made, last⟩ := between.wrote _ _ _ _ _ inside
  refine ⟨⟨place, owner, first.shop, made.shop, ?_⟩, last.shop⟩
  have others : Extends (((host perform runner taskId).record row q).run before.shop).2
      (amongOthers company perform ((host perform runner taskId).record row q).run before).2.shop :=
    amongOthers_extends adds _ before
  rw [wrote] at others
  have landed : ((host perform runner taskId).write (some row) q).run before.shop =
      (.ok (), (((host perform runner taskId).record row q).run before.shop).2) := by
    have done : (((host perform runner taskId).record row q).run before.shop).1 = .ok () :=
      congrArg Prod.fst wrote
    exact Prod.ext done rfl
  rw [← rows_of_recorded landed]
  exact others.tables.rows

/-! ## The whole tick -/

/-- Loading changes nothing in the shop, and the task that is loaded is kept in mind. -/
theorem run_loadAmong (taskId : String) {w w' : Noted Floor} {result : Except Fault Progress}
    (ran : (loadAmong company perform taskId).run w = (result, w')) :
    w.1.shop.Extends w'.1.shop ∧ w'.2 = w.2 ∧
      ∀ p, result = .ok p → p.taskId = taskId ∧ w'.1.loaded = some p := by
  obtain ⟨loaded, plain, loads⟩ := run_load taskId w.1.shop
  have moved : Quieter w ((step company perform (load taskId)).run w).2 :=
    step_later adds (Adds.load taskId) w
  cases stepped : (step company perform (load taskId)).run w with
  | mk result' after =>
      rw [stepped] at moved
      have same : result' = loaded := by
        have first : ((load taskId).run w.1.shop).1 = result' := congrArg Prod.fst stepped
        rw [plain] at first
        exact first.symm
      unfold loadAmong at ran
      cases result' with
      | error fault =>
          rw [Work.run_bind_of_error stepped] at ran
          cases ran
          exact ⟨moved.floor.shop, moved.log, fun _ same => nomatch same⟩
      | ok p =>
          rw [Work.run_bind_of_ok stepped] at ran
          cases ran
          refine ⟨moved.floor.shop, moved.log, ?_⟩
          rintro _ ⟨⟩
          exact ⟨(loads p same.symm).1, rfl⟩

theorem advanceTaskAmong_tells {g : Graph Code} (valid : g.violations = []) (runner : Runner)
    (task : TaskView) (feedback : Option String) {start : Shop} {w : Noted Floor} (silent : w.2 = [])
    (since : start.Extends w.1.shop) :
    Tells start g task.row.taskId
      ((advanceTaskAmong company perform runner task g feedback).run w).2 := by
  have steps : ∀ {α : Type} {act : Work α}, Adds act →
      Work.Moves Quieter (step company perform act) := step_later adds
  unfold advanceTaskAmong
  refine Work.after_bind (fun _ w' ran => .of_silent ?_) fun p w' ran => ?_
  · exact (run_loadAmong adds _ ran).2.1.trans silent
  obtain ⟨grown, log, loads⟩ := run_loadAmong adds _ ran
  obtain ⟨own, loaded⟩ := loads p rfl
  have begun := steps (Adds.startRun task.row.taskId) w'
  refine Work.after_bind (fun _ w'' started => .of_silent ?_) fun runId w'' started => ?_
  · rw [started] at begun
    exact begun.log.trans (log.trans silent)
  rw [started] at begun
  obtain ⟨f, deeds⟩ := w''
  obtain rfl : deeds = [] := begun.log.trans (log.trans silent)
  rw [Work.run_bind_of_lift]
  generalize ran : Engine.advance (hostAmong company perform runner task.row.taskId).noting runner.budget g
    task.row.info runId none feedback p (f, []) = advanced
  obtain ⟨⟨result, q⟩, w''⟩ := advanced
  obtain ⟨kept, begins⟩ := advance_begins adds valid runner _ _ _ _ p f ran
  have tells : Tells start g task.row.taskId w'' := by
    intro p' row before after loaded' found
    rw [kept, begun.floor.loaded, loaded] at loaded'
    cases loaded'
    obtain ⟨first, last⟩ := begins row before after found
    exact ⟨own, { first with
      since := forward.trans since (forward.trans grown (forward.trans begun.floor.shop first.since)) }, last⟩
  cases result with
  | error fault =>
      cases fault with
      | fatal cause id =>
          exact tells.later (Work.Moves.bind quieter_forward (steps (.finishRun runId .failed)) (fun _ =>
            .bind quieter_forward (steps (.announce _)) fun _ => .pure quieter_forward _) w'')
      | _ => exact tells
  | ok finish =>
      refine tells.later (Work.Moves.bind quieter_forward (steps (.finishRun runId _)) (fun _ =>
        .bind quieter_forward (steps (.tellOf _ _ finish q)) fun _ => ?_) w'')
      exact .ite (.bind quieter_forward (steps (.verify _)) fun _ => .pure quieter_forward _)
        (.pure quieter_forward _)

theorem releasingAmong_quieter (runner : Runner) (acquired : Bool) (taskId : String) (act : Among α)
    (w : Noted Floor) : Quieter (act.run w).2
      ((releasingAmong company perform runner acquired taskId act).run w).2 := by
  cases acquired with
  | false => exact quieter_forward.refl _
  | true =>
      exact ⟨amongOthers_later adds (fun _ => .of_tables (Tables.extends_release _)) (act.run w).2.1, rfl⟩

/-- If a tick in company records rows, the first one begins where it loaded its task. -/
theorem tickAmong_tells {g : Graph Code} (valid : g.violations = []) (runner : Runner)
    {taskId : String} (feedback : Option String) {w : Noted Floor} (silent : w.2 = []) {stored : TaskRow}
    (found : w.1.shop.tables.task? taskId = some stored)
    (known : w.1.shop.graphs.lookup stored.workflowId = some g) :
    Tells w.1.shop g taskId ((tickAmong company perform runner taskId feedback).run w).2 := by
  have steps : ∀ {α : Type} {act : Work α}, Adds act →
      Work.Moves Quieter (step company perform act) := step_later adds
  unfold tickAmong
  have looking := steps (.getTask taskId) w
  refine Work.after_bind (fun _ w' ran => ?_) fun task w' ran => ?_
  · rw [ran] at looking
    exact .of_silent (looking.log.trans silent)
  rw [ran] at looking
  have silent' : w'.2 = [] := looking.log.trans silent
  -- The tick finds the task that is stored, and so its factory.
  obtain ⟨result, looked, finds⟩ := run_getTask taskId w.1.shop
  obtain rfl : result = .ok task := (congrArg Prod.fst looked).symm.trans (congrArg Prod.fst ran)
  obtain rfl : stored = task.row := Option.some.inj (found.symm.trans (finds task rfl))
  have own := Tables.taskId_of_task? found
  dsimp only
  split
  · exact .of_silent silent'
  split
  · exact .of_silent silent'
  have asking := steps (.graph task.row.workflowId) w'
  refine Work.after_bind (fun _ w'' ran => ?_) fun g' w'' ran' => ?_
  · rw [ran] at asking
    exact .of_silent (asking.log.trans silent')
  rw [ran'] at asking
  obtain ⟨result, asked, knows⟩ := run_graph task.row.workflowId w'.1.shop
  obtain rfl : result = .ok g' := (congrArg Prod.fst asked).symm.trans (congrArg Prod.fst ran')
  obtain rfl : g = g' := by
    have known' := knows g' rfl
    rw [looking.floor.shop.graphs, known] at known'
    exact Option.some.inj known'
  have silent'' : w''.2 = [] := asking.log.trans silent'
  have claims : Adds (attempt fun t now => t.acquire now taskId runner.workerId runner.leaseSpan) :=
    .attempt fun _ _ _ lands => (Tables.claim_ok lands).1
  have acquiring := steps claims w''
  refine Work.after_bind (fun _ w₃ ran => ?_) fun acquired w₃ ran => ?_
  · rw [ran] at acquiring
    exact .of_silent (acquiring.log.trans silent'')
  rw [ran] at acquiring
  have grown := forward.trans looking.floor.shop
    (forward.trans asking.floor.shop acquiring.floor.shop)
  split
  · exact .of_silent (acquiring.log.trans silent'')
  · rw [← own]
    exact (advanceTaskAmong_tells adds valid runner task feedback (acquiring.log.trans silent'')
      grown).later (releasingAmong_quieter adds runner acquired _ _ w₃)

end Company

end Shop

end Tickwork
