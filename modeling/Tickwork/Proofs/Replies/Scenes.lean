import Tickwork.Proofs.LeasedTicks

/-!
# A tick among others

While a strict runner ticks, others may give replies to its task between any two operations on the
tables. A `Scene` is a shop together with the course of the others, who do what a `Script` of any kind
tells them, and with a history of what was done to the tables. Main statement: a tick that nobody comes
between is a tick of the shop.
-/

set_option autoImplicit false

namespace Tickwork

variable {σ α β : Type}

/-! ## Scenes -/

/-- What was done to the tables of a shop. -/
inductive Happening where
  /-- A reply was given to the task, and was accepted or not. -/
  | replied (text : String) (accepted : Bool)
  /-- The worker loaded its task. -/
  | loaded (p : Progress)
  /-- The worker wrote a progress of its task. -/
  | wrote (p : Progress)
  /-- The worker did something else, or failed to do it. -/
  | worked

/-- What was done, and the tables after it. -/
structure Moment where
  what : Happening
  tables : Tables

/-- A shop, how far the others are, and what was done so far. -/
structure Scene (σ : Type) where
  shop : Shop
  course : σ
  history : List Moment

/-- What others do in a shop: they give a reply to the task, or let time pass. -/
inductive Visitor where
  | reply (text : String)
  | pass (micros : Int)

/-- Which visitors come next. -/
abbrev Visits (σ : Type) := σ → List Visitor × σ

def Visits.none : Visits σ := fun course => ([], course)

namespace Scene

def note (what : Happening) (s : Scene σ) : Scene σ :=
  { s with history := s.history ++ [⟨what, s.shop.tables⟩] }

def receive (taskId : String) (s : Scene σ) : Visitor → Scene σ
  | .pass micros => { s with shop := s.shop.passTime micros }
  | .reply text =>
    match s.shop.tables.submitReply s.shop.now taskId text with
    | .ok (some t) => Scene.note (.replied text true) { s with shop := { s.shop with tables := t } }
    | _ => s.note (.replied text false)

def welcome (visits : Visits σ) (taskId : String) (s : Scene σ) : Scene σ :=
  (visits s.course).1.foldl (receive taskId) { s with course := (visits s.course).2 }

end Scene

/-! ## Work in a scene -/

abbrev Amid (σ α : Type) := ExceptT Fault (StateM (Scene σ)) α

namespace Amid

/-- Does something in the shop that nobody comes before. -/
def inShop (act : StateM Shop α) : StateM (Scene σ) α := fun s =>
  ((act s.shop).1, { s with shop := (act s.shop).2 })

/-- Works in the shop. Nobody comes before that. -/
def quietly (act : Work α) : Amid σ α := ExceptT.mk (inShop act.run)

/-- Works on the tables once the visitors that come before that are gone, and notes what was done. -/
def work (visits : Visits σ) (taskId : String) (happens : α → Happening) (act : Work α) :
    Amid σ α :=
  ExceptT.mk fun s =>
    let (result, s) := inShop act.run (s.welcome visits taskId)
    match result with
    | .ok a => (.ok a, s.note (happens a))
    | .error fault => (.error fault, s.note .worked)

end Amid

namespace Shop

open Amid

section Runner

variable (visits : Visits σ) (perform : Request → StateM Shop Unit) (runner : Runner)

/-- Makes a write of progress under the lease, which is renewed before. -/
def writeAmid (taskId : String) (row : Option Transition) (p : Progress) : Amid σ Unit := do
  let held ← work visits taskId (fun _ => .worked) do
    attempt fun t now => t.renew now taskId runner.workerId runner.leaseSpan
  if !held then throw (.leaseLost taskId runner.workerId)
  let landed ← work visits taskId (fun landed => if landed then .wrote p else .worked) do
    attempt (guardedWrite runner.workerId row p)
  if !landed then throw (.leaseLost taskId runner.workerId)

/-- The world of the engine in a scene, for one tick of a strict runner. -/
def hostAmid (taskId : String) : Host Code (Scene σ) :=
  let plain := host perform runner taskId
  { behaviour := fun f call => inShop (plain.behaviour f call)
    now := inShop plain.now
    freshEventId := inShop plain.freshEventId
    freshTickId := inShop plain.freshTickId
    sleep := fun delay => inShop (plain.sleep delay)
    checkpoint := writeAmid visits runner taskId none
    record := fun row => writeAmid visits runner taskId (some row) }

/-- Checks the ledger of a task against its progress, which takes three looks at the tables. -/
def verifyAmid (taskId : String) : Amid σ (Option String) := do
  let task ← work visits taskId (fun _ => .worked) (getTask taskId)
  let g ← quietly (graph task.row.workflowId)
  let rows ← work visits taskId (fun _ => .worked) do pure ((← get).tables.rowsFor taskId)
  let p ← work visits taskId (fun _ => .worked) (load taskId)
  quietly (ofExcept (g.verify rows p))

def advanceTaskAmid (task : TaskView) (g : Graph Code) (feedback : Option String) :
    Amid σ TickReport := do
  let taskId := task.row.taskId
  let p ← work visits taskId .loaded (load taskId)
  let previous := p.lifecycle
  let runId ← work visits taskId (fun _ => .worked) (startRun taskId)
  let (result, p) ← Engine.advance (hostAmid visits perform runner taskId) runner.budget g
    task.row.info runId none feedback p
  match result with
  | .error (.fatal cause _) => do
    work visits taskId (fun _ => .worked) (finishRun runId .failed)
    quietly (announce (.lifecycle taskId previous .failed (some cause.message)))
    pure ⟨taskId, some .failed, 0, some cause.message, false⟩
  | .error fault => throw fault
  | .ok finish => do
    work visits taskId (fun _ => .worked) (finishRun runId (runStatusOf finish.ending))
    quietly (tellOf task.row previous finish p)
    if runner.verifyReplay then
      let _ ← verifyAmid visits taskId
    pure ⟨taskId, some finish.ending, finish.transitions, finish.message, false⟩

def giveBack (taskId : String) : Work Unit := do
  setTables ((← get).tables.release taskId runner.workerId)

def releasingAmid (taskId : String) (act : Amid σ α) : Amid σ α :=
  ExceptT.mk fun s =>
    let (result, s) := act.run s
    (result, ((work visits taskId (fun _ => .worked) (giveBack runner taskId)).run s).2)

/-- One tick of a strict runner for a task, among visitors who give replies to the task. -/
def tickAmid (taskId : String) (feedback : Option String) : Amid σ TickReport := do
  let task ← work visits taskId (fun _ => .worked) (getTask taskId)
  let columns := task.row.columns
  if columns.lifecycle.isTerminal then
    pure ⟨taskId, some (.ofLifecycle columns.lifecycle), 0, columns.lastError, true⟩
  else if columns.lifecycle = .feedback ∧ feedback = none then
    pure ⟨taskId, some .feedback, 0, some "Awaiting reply", true⟩
  else do
    let g ← quietly (graph task.row.workflowId)
    let acquired ← work visits taskId (fun _ => .worked) do
      attempt fun t now => t.acquire now taskId runner.workerId runner.leaseSpan
    if !acquired then pure ⟨taskId, none, 0, none, true⟩
    else releasingAmid visits runner taskId (advanceTaskAmid visits perform runner task g feedback)

end Runner

/-! ## Nobody comes -/

/-- Work in a scene does in its shop what other work does. -/
def Matches (rich : Amid σ α) (plain : Work α) : Prop := Sees Scene.shop rich.run plain.run

namespace Matches

theorem pure (a : α) : Matches (Pure.pure a : Amid σ α) (Pure.pure a) := fun _ => rfl

theorem throw (fault : Fault) : Matches (throw fault : Amid σ α) (throw fault) := fun _ => rfl

theorem lift {rich : StateM (Scene σ) α} {plain : StateM Shop α} (sees : Sees Scene.shop rich plain) :
    Matches (liftM rich : Amid σ α) (liftM plain) := Work.Mirrors.lift sees

theorem bind {rich : Amid σ α} {plain : Work α} {rich' : α → Amid σ β} {plain' : α → Work β}
    (first : Matches rich plain) (next : ∀ a, Matches (rich' a) (plain' a)) :
    Matches (rich >>= rich') (plain >>= plain') := Work.Mirrors.bind first next

theorem quietly (act : Work α) : Matches (Amid.quietly act : Amid σ α) act := fun _ => rfl

theorem work (taskId : String) (happens : α → Happening) (act : Work α) :
    Matches (Amid.work (Visits.none : Visits σ) taskId happens act) act := by
  intro s
  show act.run s.shop = _
  unfold Amid.work inShop Scene.welcome Visits.none
  generalize ran : act.run s.shop = r
  obtain ⟨result, after⟩ := r
  cases result <;> simp [ran, Scene.note]

end Matches

variable {runner : Runner}

theorem writeAmid_matches (strict : runner.leaseMode = .strict) (perform : Request → StateM Shop Unit)
    (taskId : String) (row : Option Transition) (p : Progress) :
    Matches (writeAmid (Visits.none : Visits σ) runner taskId row p)
      ((host perform runner taskId).write row p) := by
  rw [host_write strict]
  unfold writeAmid leasedWrite
  refine .bind (.work _ _ _) fun held => ?_
  cases held with
  | false => exact .throw _
  | true =>
      refine .bind (.work _ _ _) fun landed => ?_
      cases landed with
      | false => exact .throw _
      | true => exact .pure _

theorem inShop_sees (act : StateM Shop α) : Sees Scene.shop (inShop act : StateM (Scene σ) α) act :=
  fun _ => rfl

theorem hostAmid_projects (strict : runner.leaseMode = .strict)
    (perform : Request → StateM Shop Unit) (taskId : String) :
    (hostAmid (Visits.none : Visits σ) perform runner taskId).Projects (host perform runner taskId)
      Scene.shop where
  behaviour _ _ := inShop_sees _
  now := inShop_sees _
  freshEventId := inShop_sees _
  freshTickId := inShop_sees _
  sleep _ := inShop_sees _
  checkpoint := writeAmid_matches strict perform taskId none
  record row := writeAmid_matches strict perform taskId (some row)

theorem verifyAmid_matches (taskId : String) :
    Matches (verifyAmid (Visits.none : Visits σ) taskId) (verify taskId) := by
  unfold verifyAmid verify
  exact .bind (.work _ _ _) fun task => .bind (.quietly _) fun g => .bind (.work _ _ _) fun rows =>
    .bind (.work _ _ _) fun p => .quietly _

theorem advanceTaskAmid_matches (strict : runner.leaseMode = .strict)
    (perform : Request → StateM Shop Unit) (task : TaskView) (g : Graph Code)
    (feedback : Option String) :
    Matches (advanceTaskAmid (Visits.none : Visits σ) perform runner task g feedback)
      (advanceTask perform runner task g feedback) := by
  unfold advanceTaskAmid advanceTask
  refine .bind (.work _ _ _) fun p => .bind (.work _ _ _) fun runId => .bind (.lift ?_) fun advanced => ?_
  · exact Engine.advance_sees (hostAmid_projects strict perform task.row.taskId) _ _ _ _ _ _ _
  · obtain ⟨result, q⟩ := advanced
    cases result with
    | error fault =>
        cases fault with
        | fatal cause id =>
            exact .bind (.work _ _ _) fun _ => .bind (.quietly _) fun _ => .pure _
        | _ => exact .throw _
    | ok finish =>
        refine .bind (.work _ _ _) fun _ => .bind (.quietly _) fun _ => ?_
        by_cases checked : runner.verifyReplay = true
        · simp only [checked, if_true, true_or]
          exact .bind (verifyAmid_matches _) fun _ => .pure _
        · simp only [checked, strict]
          exact .pure _

theorem releasingAmid_matches {rich : Amid σ α} {plain : Work α} (taskId : String)
    (same : Matches rich plain) :
    Matches (releasingAmid Visits.none runner taskId rich)
      (releasing true taskId runner.workerId plain) := by
  intro s
  have here := same s
  have given := congrArg Prod.snd
    (Matches.work taskId (fun _ => .worked) (giveBack runner taskId) (rich.run s).2)
  show ((plain.run s.shop).1, ((giveBack runner taskId).run (plain.run s.shop).2).2) = _
  rw [here]
  exact Prod.ext rfl given

/-- A tick that nobody comes between does in the shop of a scene what a tick of the shop does. -/
theorem tickAmid_nobody (strict : runner.leaseMode = .strict) (perform : Request → StateM Shop Unit)
    (taskId : String) (feedback : Option String) :
    Matches (tickAmid (Visits.none : Visits σ) perform runner taskId feedback)
      (tick perform runner taskId feedback) := by
  unfold tickAmid tick
  refine .bind (.work _ _ _) fun task => ?_
  by_cases ended : task.row.columns.lifecycle.isTerminal = true
  · rw [if_pos ended, if_pos ended]
    exact .pure _
  · by_cases waits : task.row.columns.lifecycle = .feedback ∧ feedback = none
    · rw [if_neg ended, if_neg ended, if_pos waits, if_pos waits]
      exact .pure _
    · rw [if_neg ended, if_neg ended, if_neg waits, if_neg waits]
      refine .bind (.quietly _) fun g => .bind (.work _ _ _) fun acquired => ?_
      cases acquired with
      | false =>
          simp only [strict]
          exact .pure _
      | true => exact releasingAmid_matches _ (advanceTaskAmid_matches strict perform task g feedback)

end Shop

end Tickwork
