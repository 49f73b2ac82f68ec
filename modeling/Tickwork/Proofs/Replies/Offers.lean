import Tickwork.Proofs.Json
import Tickwork.Proofs.Recording

/-!
# Replies in two steps

A reply to a task is given in two steps: the task is read and its context with the reply in it is made, then
the task takes that context, if it still waits with the one that was read. Whatever is asked of the tables in
between, other replies included, goes on at a `Desk`, where each call keeps what it has read. Main statement: a
reply is accepted only by a task that waits; it then changes nothing but the task's stage and its context,
which is the one before with the reply in it; what is not accepted changes nothing; and between two replies
that a task accepts somebody has put it back to waiting.
-/

set_option autoImplicit false

namespace Tickwork

/-! ## Requests for one thing -/

/-- A request that asks the tables for one thing. A reply takes two steps, and the work of a runner many. -/
def Request.isSingle : Request → Bool
  | .reply _ _ | .tick _ _ _ | .runOnce _ | .runLoop _ _ _ => false
  | _ => true

namespace Tables

variable {t after : Tables} {now : Instant} {taskId id : String}

/-- The stage of a task. -/
def stage? (t : Tables) (taskId : String) : Option Lifecycle := (t.columns? taskId).map Columns.lifecycle

theorem columns?_checkpoint {columns : Columns} {owner : Option String}
    (lands : t.checkpoint now id columns owner = .ok (some after)) :
    (taskId = id ∧ ∃ kept, columns.stored = .ok kept ∧ after.columns? taskId = some kept) ∨
      after.columns? taskId = t.columns? taskId := by
  obtain ⟨kept, old, stored, found, -, rfl⟩ := checkpoint_iff.mp lands
  have its := taskId_of_task? found
  by_cases own : taskId = id
  · exact .inl ⟨own, kept, stored, own ▸ columns?_setTask found rfl⟩
  · have other : TaskRow.taskId { old with columns := kept, updatedAt := now } ≠ taskId := fun same =>
      own ((show old.taskId = taskId from same).symm.trans its)
    exact .inr (by rw [columns?, task?_setTask_other other, columns?])

theorem columns?_record {row : Transition} {missing : Option String} {columns : Columns}
    {owner : Option String} (lands : t.record now row missing id columns owner = .ok (some after)) :
    (taskId = id ∧ ∃ kept, columns.stored = .ok kept ∧ after.columns? taskId = some kept) ∨
      after.columns? taskId = t.columns? taskId := by
  obtain ⟨middle, wrote, added⟩ := record_ok_iff.mp lands
  rw [columns?_addRow added]
  exact columns?_checkpoint wrote

theorem columns?_create {draft : TaskDraft} (created : t.create now id draft = .ok after) (taskId : String) :
    (∃ context, Columns.document draft.context = .ok context ∧ t.columns? taskId = none ∧
      after.columns? taskId = some (.fresh context)) ∨ after.columns? taskId = t.columns? taskId := by
  obtain ⟨context, row, made, new, named, columns, -, rfl⟩ := create_ok created
  simp only [columns?, task?, List.find?_append]
  cases found : t.tasks.find? fun row => row.taskId == taskId with
  | some old => exact .inr (by simp)
  | none =>
      by_cases own : row.taskId = taskId
      · exact .inl ⟨context, made, rfl, by simp [own, columns]⟩
      · exact .inr (by simp [own])

end Tables

namespace Shop

variable {taskId : String}

/-- How a request for one thing may change the progress of a task: it does not, or it creates the task, or it
writes the task's progress. -/
inductive Changed (taskId : String) (request : Request) (s : Shop) : Prop
  | kept (same : ((serve request).run s).2.tables.columns? taskId = s.tables.columns? taskId)
  | created (context : Value) (given : Value) (made : Columns.document given = .ok context)
      (after : ((serve request).run s).2.tables.columns? taskId = some (.fresh context))
  | written (columns stored : Columns) (sets : request.Sets taskId columns)
      (answer : ((serve request).run s).1 = .ok (.landed true)) (made : columns.stored = .ok stored)
      (after : ((serve request).run s).2.tables.columns? taskId = some stored)

/-- A write of progress changes the task it is of, if it lands. -/
theorem changed_of_write {request : Request} {id : String} {columns : Columns} {s : Shop}
    {written : Except Fault (Option Tables)} (sets : request.Sets id columns)
    (ran : (serve request).run s = s.settled written)
    (lands : ∀ t, written = .ok (some t) →
      (taskId = id ∧ ∃ kept, columns.stored = .ok kept ∧ t.columns? taskId = some kept) ∨
        t.columns? taskId = s.tables.columns? taskId) : Changed taskId request s := by
  cases written with
  | error fault => exact .kept (by rw [ran]; rfl)
  | ok landed =>
      cases landed with
      | none => exact .kept (by rw [ran]; rfl)
      | some t =>
          rcases lands t rfl with ⟨rfl, kept, stored, after⟩ | same
          · exact .written columns kept sets (by rw [ran]; rfl) stored (by rw [ran]; exact after)
          · exact .kept (by rw [ran]; exact same)

theorem serve_changed {request : Request} (single : request.isSingle = true) (s : Shop) (taskId : String) :
    Changed taskId request s := by
  have quiet : LeavesTask taskId (serve request) → Changed taskId request s := fun leaves => .kept (leaves s)
  cases request with
  | create draft =>
      have left : ((serve (.create draft)).run s).2 = ((create draft).run s).2 := by
        show ((create draft >>= fun view => pure (Response.task (some view)) : Work Response).run s).2 = _
        rw [Work.run_bind]
        cases (create draft).run s with
        | mk result after => cases result <;> rfl
      obtain ⟨count, t, -, after, made⟩ := run_create draft s
      rcases made with rfl | ⟨id, created⟩
      · exact .kept (by rw [left, after])
      · rcases Tables.columns?_create created taskId with ⟨context, document, -, new⟩ | same
        · exact .created context _ document (by rw [left, after]; exact new)
        · exact .kept (by rw [left, after]; exact same)
  | checkpoint id columns owner =>
      exact changed_of_write (.checkpoint owner) (run_serve_checkpoint id columns owner s)
        fun _ => Tables.columns?_checkpoint
  | record row missing id columns owner =>
      exact changed_of_write (.record row missing owner) (run_serve_record row missing id columns owner s)
        fun _ => Tables.columns?_record
  | get id => exact quiet (.bind (.find? id) fun _ => .pure _)
  | list lifecycle workflowId limit =>
      exact quiet (.bind (.ofExcept _) fun _ => .bind .get fun _ => .bind (.ofExcept _) fun _ => .pure _)
  | runnable limit => exact quiet (.bind (.ofExcept _) fun _ => .bind .get fun _ => .pure _)
  | load id => exact quiet (.bind (.load id) fun _ => .pure _)
  | rows id => exact quiet (.bind .get fun _ => .pure _)
  | acquire id owner span =>
      exact quiet (.bind (.attempt fun _ _ _ => Tables.columns?_claim) fun _ => .pure _)
  | renew id owner span =>
      exact quiet (.bind (.attempt fun _ _ _ => Tables.columns?_claim) fun _ => .pure _)
  | release id owner => exact .kept (Tables.columns?_release owner id)
  | startRun id => exact quiet (.bind (.startRun id) fun _ => .pure _)
  | finishRun runId status => exact quiet (.bind (.finishRun runId status) fun _ => .pure _)
  | runStatus runId => exact quiet (.bind .get fun _ => .pure _)
  | clock micros => exact .kept rfl
  | verify name id => exact quiet (.bind (.runner name) fun _ => .bind (.verify id) fun _ => .pure _)
  | signal name =>
      refine .kept ?_
      show (stop name s).tables.columns? taskId = _
      unfold stop
      split <;> rfl
  | malformed fault => exact .kept rfl
  | reply | tick | runOnce | runLoop => cases single

end Shop

/-! ## The two steps of a reply -/

/-- A reply that is under way: when it began, the context that was read, and the one that it makes of it. -/
structure Offer where
  taskId : String
  text : String
  begun : Instant
  seen : Fields
  context : Value
  made : Columns.document (.dict (Fields.put replyKey (.str text) seen)) = .ok context

/-- The reply that is made of what was read, if its context can be written. -/
def Offer.of (taskId text : String) (begun : Instant) (seen : Fields) : Except Fault Offer :=
  match made : Columns.document (.dict (Fields.put replyKey (.str text) seen)) with
  | .ok context => .ok ⟨taskId, text, begun, seen, context, made⟩
  | .error fault => .error fault

namespace Tables

variable {t : Tables} {now : Instant} {taskId text : String}

/-- Reads a task for a reply to it. -/
def offer (t : Tables) (now : Instant) (taskId text : String) : Except Fault Offer := do
  let row ← t.getTask taskId
  let seen ← mappingColumn row.columns.context
  Offer.of taskId text now seen

/-- Gives a reply to its task. -/
def give (t : Tables) (o : Offer) : Option Tables := t.applyReply o.begun o.taskId o.seen o.context

/-- What is read for a reply is of its task, for its text and of its time. -/
theorem offer_of {o : Offer} (looked : t.offer now taskId text = .ok o) :
    o.taskId = taskId ∧ o.text = text ∧ o.begun = now := by
  obtain ⟨row, -, rest⟩ := Arrangement.bind_eq_ok.mp looked
  obtain ⟨seen, -, made⟩ := Arrangement.bind_eq_ok.mp rest
  unfold Offer.of at made
  split at made <;> cases made
  exact ⟨rfl, rfl, rfl⟩

theorem map_give (t : Tables) (now : Instant) (taskId text : String) (seen : Fields) :
    (Offer.of taskId text now seen).map t.give =
      (Columns.document (.dict (Fields.put replyKey (.str text) seen)) >>= fun context =>
        .ok (t.applyReply now taskId seen context)) := by
  unfold Offer.of
  split
  · rename_i context made
    simp only [made, bind, Except.bind]
    rfl
  · rename_i fault broken
    simp only [broken, bind, Except.bind]
    rfl

/-- A reply that nothing comes between is its two steps. -/
theorem submitReply_eq (t : Tables) (now : Instant) (taskId text : String) :
    t.submitReply now taskId text = (t.offer now taskId text).map t.give := by
  unfold submitReply offer
  cases t.getTask taskId with
  | error fault => rfl
  | ok row =>
      simp only [bind, Except.bind]
      cases mappingColumn row.columns.context with
      | error fault => rfl
      | ok seen => exact (t.map_give now taskId text seen).symm

end Tables

namespace Offer

/-- The task of a reply waits, with the context that was read. -/
def Awaited (o : Offer) (t : Tables) : Prop :=
  ∃ row, t.task? o.taskId = some row ∧ row.columns.lifecycle = .feedback ∧ row.columns.context = .dict o.seen

/-- What becomes of tables where a reply is accepted: its task, which waited, goes on and waits no more, and
its context is the one it had with the reply in it. -/
def Taken (o : Offer) (before after : Tables) : Prop :=
  ∃ row old new, before.task? o.taskId = some row ∧ row.columns.lifecycle = .feedback ∧
    row.columns.context = .dict old ∧
    Value.Alike (.dict new) (.dict (Fields.put replyKey (.str o.text) old)) ∧
    after = before.setTask
      { row with
        columns := { row.columns with context := .dict new, lifecycle := .running, waitingSince := none }
        updatedAt := o.begun }

variable {o : Offer} {t after : Tables}

theorem awaited_of_give (lands : t.give o = some after) : o.Awaited t ∧ ∃ row, t.task? o.taskId = some row ∧
    after = t.setTask
      { row with
        columns := { row.columns with context := o.context, lifecycle := .running, waitingSince := none }
        updatedAt := o.begun } := by
  obtain ⟨row, found, paused, rfl⟩ := Tables.updateIf_some lands
  obtain ⟨stage, seen⟩ := Bool.and_eq_true_iff.mp paused
  exact ⟨⟨row, found, of_decide_eq_true stage, of_decide_eq_true seen⟩, row, found, rfl⟩

/-- A reply that is given changes the columns of its task. -/
theorem columns?_give (lands : t.give o = some after) :
    (∃ c : Columns, after.columns? o.taskId =
      some { c with context := o.context, lifecycle := .running, waitingSince := none }) ∧
    ∀ id, id ≠ o.taskId → after.columns? id = t.columns? id := by
  obtain ⟨-, row, found, rfl⟩ := awaited_of_give lands
  refine ⟨⟨row.columns, Tables.columns?_setTask found rfl⟩, fun id other => ?_⟩
  have apart : row.taskId ≠ id := fun same => other (same.symm.trans (Tables.taskId_of_task? found))
  exact congrArg (Option.map TaskRow.columns) (Tables.task?_setTask_other apart)

theorem give_of_awaited (awaited : o.Awaited t) : ∃ after, t.give o = some after := by
  obtain ⟨row, found, stage, seen⟩ := awaited
  exact ⟨_, Tables.updateIf_of_met found (by simp [stage, seen])⟩

/-- A reply that is accepted is taken into the context that the task has by then. -/
theorem taken_of_give (written : ∀ c, t.columns? o.taskId = some c → c.Written) (lands : t.give o = some after) :
    o.Taken t after := by
  obtain ⟨⟨row, found, stage, seen⟩, row', found', rfl⟩ := awaited_of_give lands
  obtain rfl : row = row' := Option.some.inj (found.symm.trans found')
  have data : (Value.dict o.seen).IsData := by
    obtain ⟨v, made⟩ := written row.columns (by rw [Tables.columns?, found, Option.map_some])
    exact seen ▸ Columns.document_isData made
  obtain ⟨kept, made, -, alike⟩ := Columns.document_alike (data.put _ (.str o.text))
  obtain rfl : o.context = kept := Except.ok.inj (o.made.symm.trans made)
  obtain ⟨new, mapping, -⟩ := Columns.document_dict o.made
  rw [mapping] at alike ⊢
  exact ⟨row, o.seen, new, found, stage, seen, alike, rfl⟩

end Offer

/-! ## Many calls at once -/

/-- A shop, and the replies that are under way in it, each under the number of its call. -/
structure Desk where
  shop : Shop
  offers : Nat → Option Offer

namespace Desk

/-- One step at a desk: a request for one thing, or one of the two steps of a reply. -/
inductive Act where
  | ask (request : Request) (single : request.isSingle = true)
  | read (call : Nat) (taskId text : String)
  | write (call : Nat)

/-- What comes of a step. -/
inductive Result where
  | answered (answer : Except Fault Response)
  | offered
  | raised (fault : Fault)
  | accepted
  | refused
  /-- There is no such call, or it is over. -/
  | absent

/-- A step that was made, with the desk before it and the desk after it. -/
structure Move where
  before : Desk
  act : Act
  result : Result
  after : Desk

/-- A desk with empty tables and no calls. -/
def blank (s : Shop) : Desk := ⟨{ s with tables := .empty }, fun _ => none⟩

/-- The first step of a reply. -/
def read (d : Desk) (call : Nat) (taskId text : String) : Result × Desk :=
  match d.shop.tables.offer d.shop.now taskId text with
  | .ok o => (.offered, { d with offers := Function.update d.offers call (some o) })
  | .error fault => (.raised fault, d)

/-- The second step of a reply, which ends its call. -/
def write (d : Desk) (call : Nat) : Result × Desk :=
  match d.offers call with
  | none => (.absent, d)
  | some o =>
    let offers := Function.update d.offers call none
    match d.shop.tables.give o with
    | some t => (.accepted, ⟨{ d.shop with tables := t }, offers⟩)
    | none => (.refused, ⟨d.shop, offers⟩)

/-- Makes one step. -/
def make (d : Desk) : Act → Result × Desk
  | .ask request _ =>
    let ran := (Shop.serve request).run d.shop
    (.answered ran.1, { d with shop := ran.2 })
  | .read call taskId text => d.read call taskId text
  | .write call => d.write call

def move (d : Desk) (act : Act) : Move := ⟨d, act, (d.make act).1, (d.make act).2⟩

/-- Steps that are made one after the other. -/
def moves (d : Desk) : List Act → List Move
  | [] => []
  | act :: rest => d.move act :: moves (d.make act).2 rest

variable {d : Desk} {taskId : String}

/-! ### One step -/

theorem read_shop (d : Desk) (call : Nat) (taskId text : String) : (d.read call taskId text).2.shop = d.shop := by
  unfold read
  split <;> rfl

section

variable {call : Nat} {o : Offer} {text : String}

theorem read_offered (looked : d.shop.tables.offer d.shop.now taskId text = .ok o) :
    d.read call taskId text = (.offered, { d with offers := Function.update d.offers call (some o) }) := by
  simp only [read, looked]

theorem read_raised {fault : Fault} (looked : d.shop.tables.offer d.shop.now taskId text = .error fault) :
    d.read call taskId text = (.raised fault, d) := by
  simp only [read, looked]

theorem write_none (none : d.offers call = none) : d.write call = (.absent, d) := by
  simp only [write, none]

theorem write_refused (there : d.offers call = some o) (given : d.shop.tables.give o = none) :
    d.write call = (.refused, ⟨d.shop, Function.update d.offers call none⟩) := by
  simp only [write, there, given]

theorem write_accepted {t : Tables} (there : d.offers call = some o) (given : d.shop.tables.give o = some t) :
    d.write call = (.accepted, ⟨{ d.shop with tables := t }, Function.update d.offers call none⟩) := by
  simp only [write, there, given]

end

/-- What stands in the tables has been written there. -/
def Written (d : Desk) : Prop := ∀ taskId c, d.shop.tables.columns? taskId = some c → c.Written

theorem written_blank (s : Shop) : (blank s).Written := fun _ _ found => nomatch found

/-- What the two steps of a reply come to. The first one changes nothing. The second one is accepted exactly if
the task waits with the context that was read, and it changes nothing if it is not. -/
structure Move.Fair (m : Move) : Prop where
  read : ∀ call taskId text, m.act = .read call taskId text → m.after.shop = m.before.shop
  write : ∀ call o, m.act = .write call → m.before.offers call = some o →
    (m.result = .accepted ↔ o.Awaited m.before.shop.tables) ∧
      (m.result = .accepted ∧ o.Taken m.before.shop.tables m.after.shop.tables ∧
          m.after.shop = { m.before.shop with tables := m.after.shop.tables } ∨
        m.result = .refused ∧ m.after.shop = m.before.shop)
  absent : ∀ call, m.act = .write call → m.before.offers call = none → m.after.shop = m.before.shop

theorem fair_ask (request : Request) (single : request.isSingle = true) : (d.move (.ask request single)).Fair where
  read := nofun
  write := nofun
  absent := nofun

theorem fair_read (call : Nat) (taskId text : String) : (d.move (.read call taskId text)).Fair where
  read _ _ _ _ := d.read_shop call taskId text
  write := nofun
  absent := nofun

theorem fair_write (written : d.Written) (call : Nat) : (d.move (.write call)).Fair where
  read := nofun
  write := by
    rintro _ o ⟨⟩ (there : d.offers call = some o)
    cases given : d.shop.tables.give o with
    | none =>
        have left : d.make (.write call) = _ := write_refused there given
        rw [move, left]
        refine ⟨⟨nofun, fun awaited => ?_⟩, .inr ⟨rfl, rfl⟩⟩
        obtain ⟨t, lands⟩ := Offer.give_of_awaited awaited
        exact absurd (given.symm.trans lands) nofun
    | some t =>
        have left : d.make (.write call) = _ := write_accepted there given
        rw [move, left]
        exact ⟨⟨fun _ => (Offer.awaited_of_give given).1, fun _ => rfl⟩,
          .inl ⟨rfl, Offer.taken_of_give (written o.taskId) given, rfl⟩⟩
  absent := by
    rintro _ ⟨⟩ (absent : d.offers call = none)
    have left : d.make (.write call) = _ := write_none absent
    rw [move, left]

theorem fair_move (written : d.Written) (act : Act) : (d.move act).Fair := by
  cases act with
  | ask request single => exact fair_ask request single
  | read call taskId text => exact fair_read call taskId text
  | write call => exact fair_write written call

/-- What one step does to the progress of a task. -/
inductive Touched (d : Desk) (taskId : String) : Act → Prop
  | kept {act : Act} (same : (d.make act).2.shop.tables.columns? taskId = d.shop.tables.columns? taskId) :
      Touched d taskId act
  | asked {request : Request} (single : request.isSingle = true)
      (changed : Shop.Changed taskId request d.shop) : Touched d taskId (.ask request single)
  | replied {act : Act} (columns : Columns) (o : Offer)
      (after : (d.make act).2.shop.tables.columns? taskId =
        some { columns with context := o.context, lifecycle := .running, waitingSince := none }) :
      Touched d taskId act

theorem touched (d : Desk) (taskId : String) (act : Act) : Touched d taskId act := by
  cases act with
  | ask request single => exact .asked single (Shop.serve_changed single d.shop taskId)
  | read call id text =>
      exact .kept (congrArg (fun s => s.tables.columns? taskId) (d.read_shop call id text))
  | write call =>
      cases there : d.offers call with
      | none =>
          have left : d.make (.write call) = _ := write_none there
          exact .kept (by rw [left])
      | some o =>
          cases given : d.shop.tables.give o with
          | none =>
              have left : d.make (.write call) = _ := write_refused there given
              exact .kept (by rw [left])
          | some t =>
              have left : d.make (.write call) = _ := write_accepted there given
              obtain ⟨⟨columns, own⟩, others⟩ := Offer.columns?_give given
              by_cases its : taskId = o.taskId
              · exact .replied columns o (by rw [left, its]; exact own)
              · exact .kept (by rw [left]; exact others taskId its)

theorem written_make (written : d.Written) (act : Act) : (d.make act).2.Written := by
  intro taskId c found
  cases touched d taskId act with
  | kept same => exact written taskId c (same ▸ found)
  | asked single changed =>
      cases changed with
      | kept same => exact written taskId c (same ▸ found)
      | created context given made new =>
          obtain rfl : c = .fresh context := Option.some.inj (found.symm.trans new)
          exact ⟨given, made⟩
      | written columns stored sets answer made new =>
          obtain rfl : c = stored := Option.some.inj (found.symm.trans new)
          exact (Columns.stored_ok made).2
  | replied columns o new =>
      obtain rfl := Option.some.inj (found.symm.trans new)
      exact ⟨_, o.made⟩

/-- A task accepts a reply. -/
def Move.Accepts (m : Move) (taskId : String) : Prop :=
  m.result = .accepted ∧ ∃ call o, m.act = .write call ∧ m.before.offers call = some o ∧ o.taskId = taskId

/-- A write of progress that lands puts a task to waiting. -/
def Move.Pauses (m : Move) (taskId : String) : Prop :=
  ∃ request single columns, m.act = .ask request single ∧ request.Sets taskId columns ∧
    columns.lifecycle = .feedback ∧ m.result = .answered (.ok (.landed true)) ∧
    m.before.shop.tables.stage? taskId ≠ some .feedback ∧ m.after.shop.tables.stage? taskId = some .feedback

theorem stage?_of_columns? {t : Tables} {c : Columns} (found : t.columns? taskId = some c) :
    t.stage? taskId = some c.lifecycle := by
  rw [Tables.stage?, found, Option.map_some]

/-- Where a task waits that did not wait before, a write of progress has put it there. -/
theorem pauses_of_stage {act : Act} (before : d.shop.tables.stage? taskId ≠ some .feedback)
    (after : (d.make act).2.shop.tables.stage? taskId = some .feedback) : (d.move act).Pauses taskId := by
  have stayed : (d.make act).2.shop.tables.columns? taskId = d.shop.tables.columns? taskId → False := fun same =>
    before ((congrArg (Option.map Columns.lifecycle) same).symm.trans after)
  cases touched d taskId act with
  | kept same => exact (stayed same).elim
  | asked single changed =>
      cases changed with
      | kept same => exact (stayed same).elim
      | created context given made new =>
          cases (stage?_of_columns? new).symm.trans after
      | written columns stored sets answer made new =>
          have stage : stored.lifecycle = .feedback :=
            Option.some.inj ((stage?_of_columns? new).symm.trans after)
          rw [(Columns.stored_ok made).1] at stage
          exact ⟨_, single, columns, rfl, sets, stage, congrArg Result.answered answer, before, after⟩
  | replied columns o new => cases (stage?_of_columns? new).symm.trans after

/-- A task that accepts a reply waits before, and not after. -/
theorem stage?_of_accepts {act : Act} (accepts : (d.move act).Accepts taskId) :
    d.shop.tables.stage? taskId = some .feedback ∧
      (d.make act).2.shop.tables.stage? taskId = some .running := by
  obtain ⟨accepted, call, o, (rfl : act = _), (there : d.offers call = some o), rfl⟩ := accepts
  cases given : d.shop.tables.give o with
  | none =>
      have left : d.make (.write call) = _ := write_refused there given
      rw [move, left] at accepted
      cases accepted
  | some t =>
      have left : d.make (.write call) = _ := write_accepted there given
      obtain ⟨row, found, stage, -⟩ := (Offer.awaited_of_give given).1
      have waited : d.shop.tables.columns? o.taskId = some row.columns :=
        congrArg (Option.map TaskRow.columns) found
      obtain ⟨⟨columns, own⟩, -⟩ := Offer.columns?_give given
      rw [left, stage?_of_columns? waited, stage]
      exact ⟨rfl, stage?_of_columns? own⟩

/-- The first step of a call. -/
def Move.Reads (m : Move) (call : Nat) (o : Offer) : Prop :=
  m.act = .read call o.taskId o.text ∧ m.result = .offered ∧
    m.before.shop.tables.offer m.before.shop.now o.taskId o.text = .ok o

/-- What is under way after a step was so before, unless the step began it. -/
theorem reads_of_offers {act : Act} {call : Nat} {o : Offer} (there : (d.make act).2.offers call = some o) :
    d.offers call = some o ∨ (d.move act).Reads call o := by
  cases act with
  | ask request single => exact .inl there
  | read call' taskId text =>
      cases looked : d.shop.tables.offer d.shop.now taskId text with
      | error fault =>
          have left : d.make (.read call' taskId text) = _ := read_raised looked
          exact .inl (by rwa [left] at there)
      | ok o' =>
          have left : d.make (.read call' taskId text) = _ := read_offered looked
          rw [left] at there
          have there : Function.update d.offers call' (some o') call = some o := there
          by_cases own : call = call'
          · subst own
            rw [Function.update_self] at there
            cases there
            obtain ⟨rfl, rfl, -⟩ := Tables.offer_of looked
            exact .inr ⟨rfl, congrArg Prod.fst left, looked⟩
          · rw [Function.update_of_ne own] at there
            exact .inl there
  | write call' =>
      refine .inl ?_
      cases under : d.offers call' with
      | none =>
          have left : d.make (.write call') = _ := write_none under
          rwa [left] at there
      | some o' =>
          have ended : (d.make (.write call')).2.offers = Function.update d.offers call' none := by
            cases given : d.shop.tables.give o' with
            | none => exact congrArg (fun made => made.2.offers) (write_refused under given)
            | some t => exact congrArg (fun made => made.2.offers) (write_accepted under given)
          rw [ended] at there
          by_cases own : call = call'
          · subst own
            rw [Function.update_self] at there
            cases there
          · rwa [Function.update_of_ne own] at there

/-! ### Many steps -/

theorem moves_fair (written : d.Written) (acts : List Act) : ∀ m ∈ d.moves acts, m.Fair := by
  induction acts generalizing d with
  | nil => exact fun _ inside => absurd inside List.not_mem_nil
  | cons act rest ih =>
      exact List.forall_mem_cons.mpr ⟨fair_move written act, ih (written_make written act)⟩

/-- What comes late in a row of steps is a row of steps itself. -/
theorem moves_append {acts : List Act} {front back : List Move} (same : d.moves acts = front ++ back) :
    ∃ (d' : Desk) (rest : List Act), d'.moves rest = back := by
  induction front generalizing d acts with
  | nil => exact ⟨d, acts, same⟩
  | cons first front ih =>
      cases acts with
      | nil => cases same
      | cons act rest => exact ih (List.cons.inj same).2

/-- A task that does not wait, and later does, has been put there by a write of progress in between. -/
theorem pauses_between {acts : List Act} {middle back : List Move} {last : Move}
    (same : d.moves acts = middle ++ last :: back) (before : d.shop.tables.stage? taskId ≠ some .feedback)
    (after : last.before.shop.tables.stage? taskId = some .feedback) : ∃ m ∈ middle, m.Pauses taskId := by
  induction middle generalizing d acts with
  | nil =>
      cases acts with
      | nil => cases same
      | cons act rest =>
          obtain ⟨rfl, -⟩ := List.cons.inj same
          exact absurd after before
  | cons first middle ih =>
      cases acts with
      | nil => cases same
      | cons act rest =>
          obtain ⟨rfl, later⟩ := List.cons.inj same
          by_cases waits : (d.make act).2.shop.tables.stage? taskId = some .feedback
          · exact ⟨_, List.mem_cons_self, pauses_of_stage before waits⟩
          · obtain ⟨m, inside, pauses⟩ := ih later waits
            exact ⟨m, List.mem_cons_of_mem _ inside, pauses⟩

/-- A call that comes to its second step has made its first one, unless it was under way from the start. -/
theorem reads_before {acts : List Act} {front back : List Move} {m : Move} {call : Nat} {o : Offer}
    (same : d.moves acts = front ++ m :: back) (there : m.before.offers call = some o) :
    d.offers call = some o ∨ ∃ r ∈ front, r.Reads call o := by
  induction front generalizing d acts with
  | nil =>
      cases acts with
      | nil => cases same
      | cons act rest =>
          obtain ⟨rfl, -⟩ := List.cons.inj same
          exact .inl there
  | cons first front ih =>
      cases acts with
      | nil => cases same
      | cons act rest =>
          obtain ⟨rfl, later⟩ := List.cons.inj same
          rcases ih later with under | ⟨r, inside, reads⟩
          · exact (reads_of_offers under).imp_right fun reads => ⟨_, List.mem_cons_self, reads⟩
          · exact .inr ⟨r, List.mem_cons_of_mem _ inside, reads⟩

end Desk

/-- A reply is read and then written, and whatever is asked of the tables, other replies included, may come
before, between and after the two steps. The first step changes nothing. The second one, whose call has made the
first one before, is accepted exactly if the task waits then with the context that was read; it changes the
task's stage, its time of waiting, the time of its change and its context, which is the one that it has by then
with the reply in it, and it changes nothing if it is not accepted. Between two replies that a task accepts a
write of progress has put it back to waiting. A reply that nothing comes between is the two steps. -/
theorem Desk.accepts_once_a_pause (s : Shop) :
    (∀ t now taskId text, Tables.submitReply t now taskId text = (t.offer now taskId text).map t.give) ∧
      ∀ acts, (∀ m ∈ (blank s).moves acts, m.Fair) ∧
        (∀ front m back call o, (blank s).moves acts = front ++ m :: back → m.act = .write call →
          m.before.offers call = some o → ∃ r ∈ front, r.Reads call o) ∧
        ∀ taskId front first middle last back,
          (blank s).moves acts = front ++ first :: (middle ++ last :: back) →
            first.Accepts taskId → last.Accepts taskId → ∃ m ∈ middle, m.Pauses taskId := by
  refine ⟨Tables.submitReply_eq, fun acts => ⟨moves_fair (written_blank s) acts, ?_, ?_⟩⟩
  · intro front m back call o same _ there
    rcases reads_before same there with under | reads
    · cases under
    · exact reads
  · intro taskId front first middle last back same accepts again
    obtain ⟨d, rest, late⟩ := moves_append same
    cases rest with
    | nil => cases late
    | cons act rest =>
        obtain ⟨rfl, later⟩ := List.cons.inj late
        have left := (stage?_of_accepts accepts).2
        obtain ⟨d', rest', own⟩ := moves_append later
        cases rest' with
        | nil => cases own
        | cons act' rest' =>
            obtain ⟨rfl, -⟩ := List.cons.inj own
            exact pauses_between later (by rw [left]; nofun) (stage?_of_accepts again).1

/-- Two calls read a task that waits. The one that writes first is accepted, the other one is not, and no
later one is until the task has been put back to waiting. -/
example :
    let waits : Columns := { Columns.fresh (.dict []) with lifecycle := .feedback }
    let draft : TaskDraft := ⟨some "demo", some "task", none, none, none, none, .dict []⟩
    ((Desk.blank (.opened ⟨0⟩)).moves
      [.ask (.create draft) rfl, .ask (.checkpoint "task" waits none) rfl, .read 1 "task" "yes",
        .read 2 "task" "no", .write 1, .write 2, .read 3 "task" "later", .write 3,
        .ask (.checkpoint "task" waits none) rfl, .read 4 "task" "again", .write 4]).map
        (fun m => match m.result with | .accepted => true | _ => false) =
      [false, false, false, false, true, false, false, false, false, false, true] := by decide +kernel

end Tickwork
