import Tickwork.Proofs.Company

/-!
# Conflicting ticks

A runner that works without a lease finds out afterwards, from the ledger, that another tick worked on
the same task. Main statement: if two ticks loaded a task in the same state and both recorded rows, then
verification fails from then on, unless the row that stands before the first row of the later one leads
back to where both began or into a pause.
-/

set_option autoImplicit false

namespace Tickwork

/-! ## Ledgers that break -/

/-- Why rows do not replay: they do not join, or one of them fails its check. -/
def Unsound (rows : List Transition) (fault : Fault) : Prop :=
  (∃ mismatch, fault = .replay mismatch) ∨ ∃ row ∈ rows, row.check = .error fault

theorem Unsound.mono {rows rows' : List Transition} {fault : Fault} (unsound : Unsound rows fault)
    (inside : ∀ row ∈ rows, row ∈ rows') : Unsound rows' fault :=
  unsound.imp_right fun ⟨row, here, refused⟩ => ⟨row, inside row here, refused⟩

/-- A walk goes on past its first row or ends at it. -/
theorem walk_cons (ids : List String) (current : String) (previous : Option Transition)
    (t : Transition) (rest : List Transition) :
    Replay.walk ids current previous (t :: rest) = Replay.walk ids t.toId (some t) rest ∧
        (t.fromId = current ∨ Replay.afterPause ids previous = true) ∨
      ∃ fault, Replay.walk ids current previous (t :: rest) = .error fault ∧ Unsound [t] fault := by
  simp only [Replay.walk, bind, Except.bind]
  cases checked : t.check with
  | error fault => exact .inr ⟨fault, rfl, .inr ⟨t, List.mem_singleton_self t, checked⟩⟩
  | ok _ =>
      simp only
      by_cases broken : t.fromId ≠ current ∧ Replay.afterPause ids previous = false
      · rw [if_pos broken]
        exact .inr ⟨_, rfl, .inl ⟨_, rfl⟩⟩
      · rw [if_neg broken]
        refine .inl ⟨rfl, ?_⟩
        by_contra apart
        rw [not_or, Bool.not_eq_true] at apart
        exact broken apart

/-- A walk ends at the latest at a row that starts elsewhere than the row before it led to, unless that
was into a pause. -/
theorem walk_breaks {ids : List String} {last row : Transition} (gap : row.fromId ≠ last.toId)
    (awake : Replay.afterPause ids (some last) = false) (before after : List Transition)
    (current : String) (previous : Option Transition) :
    ∃ fault, Replay.walk ids current previous (before ++ last :: row :: after) = .error fault ∧
      Unsound (before ++ last :: row :: after) fault := by
  induction before generalizing current previous with
  | nil =>
      rw [List.nil_append]
      rcases walk_cons ids current previous last (row :: after) with
        ⟨goesOn, -⟩ | ⟨fault, breaks, unsound⟩
      · rcases walk_cons ids last.toId (some last) row after with
          ⟨-, joins | pause⟩ | ⟨fault, breaks, unsound⟩
        · exact absurd joins gap
        · rw [pause] at awake
          cases awake
        · exact ⟨fault, goesOn.trans breaks, unsound.mono (by simp)⟩
      · exact ⟨fault, breaks, unsound.mono (by simp)⟩
  | cons t rest ih =>
      rw [List.cons_append]
      rcases walk_cons ids current previous t (rest ++ last :: row :: after) with
        ⟨goesOn, -⟩ | ⟨fault, breaks, unsound⟩
      · obtain ⟨fault, breaks, unsound⟩ := ih t.toId (some t)
        exact ⟨fault, goesOn.trans breaks, unsound.mono fun _ => List.mem_cons_of_mem t⟩
      · exact ⟨fault, breaks, unsound.mono (by simp)⟩

theorem replay_breaks {ids : List String} {before : List Transition} {row : Transition}
    (after : List Transition) (gap : ∀ last, before.getLast? = some last →
      row.fromId ≠ last.toId ∧ Replay.afterPause ids (some last) = false) (begun : before ≠ []) :
    ∃ fault, replay ids (before ++ row :: after) = .error fault ∧
      Unsound (before ++ row :: after) fault := by
  rcases List.eq_nil_or_concat before with rfl | ⟨front, last, rfl⟩
  · exact absurd rfl begun
  obtain ⟨apart, awake⟩ := gap last (by simp)
  obtain ⟨first, rest, same⟩ : ∃ first rest, front ++ [last] ++ row :: after = first :: rest := by
    cases front <;> exact ⟨_, _, rfl⟩
  obtain ⟨fault, breaks, unsound⟩ := walk_breaks apart awake front after first.fromId none
  rw [List.append_cons, same] at breaks unsound
  refine ⟨fault, ?_, ?_⟩
  · rw [List.concat_eq_append, same]
    simp only [replay, breaks]
    rfl
  · rw [List.concat_eq_append, same]
    exact unsound

/-! ## Ticks that record -/

/-- A tick of a runner in company: how deep requests may nest, what others ask for meanwhile, and the shop
in which the tick starts. -/
structure Shift where
  depth : Nat
  company : Company
  runner : Runner
  taskId : String
  reply : Option String
  shop : Shop

namespace Shift

open Shop

def run (x : Shift) : Except Fault TickReport × Noted Floor :=
  (tickAmong x.company (perform x.depth) x.runner x.taskId x.reply).run (⟨x.shop, 0, none⟩, [])

/-- The tick loads its task, which is one of the factory `g`, as `p`, and it records rows, `row` first. -/
structure Records (x : Shift) (g : Graph Code) (p : Progress) (row : Transition)
    (before after : Floor) : Prop where
  factory : ∃ stored, x.shop.tables.task? x.taskId = some stored ∧
    x.shop.graphs.lookup stored.workflowId = some g
  loaded : x.run.2.1.loaded = some p
  recorded : x.run.2.2.findSome? Deed.recorded? = some (row, before, after)

theorem Records.begins {x : Shift} {g : Graph Code} {p : Progress} {row : Transition}
    {before after : Floor} (valid : g.violations = []) (records : x.Records g p row before after) :
    p.taskId = x.taskId ∧ Begins x.shop g p row before after ∧ after.shop.Extends x.run.2.1.shop := by
  obtain ⟨stored, found, known⟩ := records.factory
  exact tickAmong_tells (w := (⟨x.shop, 0, none⟩, [])) (perform_extends x.depth) valid x.runner x.reply rfl
    found known p row before after records.loaded records.recorded

end Shift

namespace Shop

open Engine

variable {x y : Shift} {g : Graph Code} {p : Progress} {row row' : Transition}
variable {before after : Floor} {final : Shop}

/-- Verification fails where the ledger does not replay, if not before, as the progress cannot be read. -/
theorem verify_fails {taskId : String} {stored : TaskRow} {fault : Fault}
    (found : final.tables.task? taskId = some stored)
    (known : final.graphs.lookup stored.workflowId = some g)
    (breaks : replay g.feedbackIds (final.tables.rowsFor taskId) = .error fault) :
    ∃ fault', (verify taskId).run final = (.error fault', final) ∧
      (fault' = fault ∨ (load taskId).run final = (.error fault', final)) := by
  have loaded : (load taskId).run final = (stored.progress, final) := by
    unfold load Tables.getTask
    rw [Work.run_bind_get, found]
    have given : (ofExcept (.ok stored : Except Fault TaskRow)).run final = (.ok stored, final) := rfl
    rw [Work.run_bind_of_ok given]
    cases stored.progress <;> rfl
  unfold verify
  cases context : mappingColumn stored.columns.context with
  | error fault' =>
      have unread : (getTask taskId).run final = (.error fault', final) := by
        unfold getTask find?
        rw [Work.run_bind, Work.run_bind_get, found]
        simp only [TaskRow.view, context]
        rfl
      refine ⟨fault', Work.run_bind_of_error unread _, .inr ?_⟩
      rw [loaded, TaskRow.progress, context]
      rfl
  | ok fields =>
      have read : (getTask taskId).run final = (.ok ⟨stored, fields⟩, final) := by
        unfold getTask find?
        rw [Work.run_bind, Work.run_bind_get, found]
        simp only [TaskRow.view, context]
        rfl
      have looked : (graph stored.workflowId).run final = (.ok g, final) := by
        unfold graph
        rw [Work.run_bind_get, known]
        rfl
      rw [Work.run_bind_of_ok read, Work.run_bind_of_ok looked, Work.run_bind_get]
      cases came : stored.progress with
      | error fault' =>
          rw [came] at loaded
          exact ⟨fault', Work.run_bind_of_error loaded _, .inr loaded⟩
      | ok p =>
          rw [came] at loaded
          rw [Work.run_bind_of_ok loaded]
          refine ⟨fault, ?_, .inl rfl⟩
          rw [Graph.verify, breaks]
          rfl

/-- Two ticks loaded a task in the same state, and both recorded rows: when the second one recorded its
first row, in the shop of `before`, the first row of the other one was in the ledger already. -/
structure Conflict (x y : Shift) (g : Graph Code) (p : Progress) (row row' : Transition)
    (before after : Floor) : Prop where
  first : ∃ before after, x.Records g p row before after
  second : y.Records g p row' before after
  earlier : row ∈ before.shop.tables.rows

/-- The conflict shows: the row before the one that conflicts does not lead back to where both ticks
began, nor into a pause. -/
def Shows (g : Graph Code) (row : Transition) (rows : List Transition) : Prop :=
  ∀ last, rows.getLast? = some last →
    last.toId ≠ row.fromId ∧ Replay.afterPause g.feedbackIds (some last) = false

instance (g : Graph Code) (row : Transition) (rows : List Transition) :
    Decidable (Shows g row rows) :=
  inferInstanceAs (Decidable (∀ last ∈ rows.getLast?, _))

/-- Whatever the callables of two ticks and others between their operations ask of the shop: if both ticks
loaded a task in the same state and recorded rows, and the conflict shows, then verification fails once the
row that conflicts is recorded, whatever else is recorded. It fails as the ledger does not replay, or as
one of its rows fails its check or the progress of the task cannot be read. -/
theorem conflicts_are_found (valid : g.violations = [])
    (conflict : Conflict x y g p row row' before after)
    (shows : Shows g row (before.shop.tables.rowsFor p.taskId)) (later : after.shop.Extends final) :
    ∃ fault, (verify p.taskId).run final = (.error fault, final) ∧
      (Unsound (final.tables.rowsFor p.taskId) fault ∨
        (load p.taskId).run final = (.error fault, final)) := by
  obtain ⟨_, _, records⟩ := conflict.first
  obtain ⟨-, begins, -⟩ := records.begins valid
  obtain ⟨own, begins', -⟩ := conflict.second.begins valid
  -- The ledger of the task in the end: what it was, the row that conflicts, and what came after.
  obtain ⟨more, rows⟩ : ∃ more, before.shop.tables.rowsFor p.taskId ++ row' :: more =
      final.tables.rowsFor p.taskId := by
    obtain ⟨more, same⟩ := (begins'.grown.trans later.tables.rows).filter
      (·.taskId == p.taskId)
    refine ⟨more, ?_⟩
    show _ = List.filter _ _
    rw [← same]
    simp [Tables.rowsFor, begins'.owner]
  have inside : row ∈ before.shop.tables.rowsFor p.taskId :=
    List.mem_filter.mpr ⟨conflict.earlier, by simp [begins.owner]⟩
  obtain ⟨fault, breaks, unsound⟩ := replay_breaks more (fun last stands =>
    ⟨fun joins => (shows last stands).1 (joins.symm.trans (begins'.place.trans begins.place.symm)),
      (shows last stands).2⟩) (List.ne_nil_of_mem inside)
  rw [rows] at breaks unsound
  -- The task is still there, in its factory.
  obtain ⟨stored, found, known⟩ := conflict.second.factory
  have kept := forward.trans begins'.since (forward.trans begins'.made later)
  obtain ⟨stored', found', factory⟩ := kept.tables.tasks _ _ found
  rw [← own] at found'
  rw [← kept.graphs, ← factory] at known
  obtain ⟨fault', fails, why⟩ := verify_fails found' known breaks
  refine ⟨fault', fails, why.imp ?_ id⟩
  rintro rfl
  exact unsound

/-- Where the conflict does not show, the row that conflicts continues a ledger that replays. -/
theorem hidden_conflict_replays (valid : g.violations = [])
    (conflict : Conflict x y g p row row' before after)
    (hidden : ¬ Shows g row (before.shop.tables.rowsFor p.taskId))
    (replays : replay g.feedbackIds (before.shop.tables.rowsFor p.taskId) =
      .ok ((before.shop.tables.rowsFor p.taskId).getLast?.map Transition.toId))
    (fits : row'.check = .ok ()) :
    replay g.feedbackIds (before.shop.tables.rowsFor p.taskId ++ [row']) = .ok (some row'.toId) := by
  obtain ⟨_, _, records⟩ := conflict.first
  have place := (records.begins valid).2.1.place
  have place' := (conflict.second.begins valid).2.1.place
  rw [replay_snoc replays fits, List.getLast?_append, List.getLast?_singleton]
  · rfl
  · intro last stands
    by_contra apart
    rw [not_or, Bool.not_eq_true] at apart
    refine hidden fun last' stands' => ?_
    obtain rfl : last = last' := Option.some.inj (stands.symm.trans stands')
    exact ⟨fun joins => apart.1 (place'.trans (place.symm.trans joins.symm)), apart.2⟩

/-! ## A tick within a tick -/

/-- A factory of one action that ticks its own task in the middle of its first call. What it reports leads
back to it if it is done, into a pause or to the end. -/
def contested (status : String) : Graph Code where
  id := "demo"
  start := "work"
  context := []
  states :=
    [("work", .action (.slot (.code (.script 0 (.pick (.input "calls")
        [.aside (.tick none "t1" none) (.literal (plainReport status)),
          .literal (plainReport status)])) .whole))
        ⟨some "work", some "finish", some "wait"⟩ none),
      ("wait", .feedback "previous"),
      ("finish", .terminal .done none)]
  guards := []
  handlers := []

/-- A runner that works without a lease if need be and takes one transition at a time. -/
def freelancer : Runner where
  workerId := "a"
  leaseMode := .bestEffort
  leaseSpan := .whole 30
  budget := .clamped 1 200
  verifyReplay := false

/-- The task of that factory, under way. -/
def contestedTask : TaskView where
  row :=
    { lettingGoTask.row with
      columns := { Columns.fresh (.dict []) with currentStateId := some "work", lifecycle := .running } }
  context := []

def contestedProgress : Progress where
  taskId := "t1"
  workflowId := "demo"
  currentStateId := some "work"
  context := []
  lifecycle := .running
  attempts := []
  loopIterations := []
  lastError := none
  terminalStateId := none
  waitingSince := none
  transitionCount := 0

def outerShift (status : String) : Shift where
  depth := 1
  company := .none
  runner := freelancer
  taskId := "t1"
  reply := none
  shop :=
    { Shop.opened ⟨0⟩ with
      tables := ⟨[contestedTask.row], [], []⟩
      graphs := [("demo", contested status)]
      runners := [("a", freelancer)] }

/-- The task in the middle of the first call. -/
def contestedHeld : TaskView where
  row := { contestedTask.row with lease := some ⟨"a", ⟨30000000⟩⟩, activeRunId := some "rid-1" }
  context := []

/-- The tick in the middle of the first call. -/
def innerShift (status : String) : Shift :=
  { outerShift status with
    depth := 0
    shop :=
      { (outerShift status).shop with
        tables := ⟨[contestedHeld.row], [⟨"rid-1", "t1", .running, false⟩], []⟩
        rowCount := 1
        tickCount := 1
        tally := [(0, 1)] } }

/-- The first row of such a tick, and the ledger before it. -/
def opening (x : Shift) : Option (Transition × List Transition) :=
  (x.run.2.2.findSome? Deed.recorded?).map fun found => (found.1, found.2.1.shop.tables.rows)

theorem records_of_opening {x : Shift} {g : Graph Code} {p : Progress} {row : Transition}
    {rows : List Transition} (factory : ∃ stored, x.shop.tables.task? x.taskId = some stored ∧
      x.shop.graphs.lookup stored.workflowId = some g) (loaded : x.run.2.1.loaded = some p)
    (opens : opening x = some (row, rows)) :
    ∃ before after, x.Records g p row before after ∧ before.shop.tables.rows = rows := by
  obtain ⟨⟨first, before, after⟩, found, same⟩ := Option.map_eq_some_iff.mp opens
  cases same
  exact ⟨before, after, ⟨factory, loaded, found⟩, rfl⟩

/-- The row that such a tick records. -/
def contestedRow (status target : String) (reason : Reason) (eventId tickId : String) : Transition :=
  ⟨eventId, "rid-1", tickId, "t1", "work", target, status, .known reason, 1, 0, ⟨0⟩⟩

/-- Both ticks load the task as it was and record rows, the inner one before the outer one. -/
structure Clash (status target : String) (reason : Reason) : Prop where
  inner : opening (innerShift status) =
    some (contestedRow status target reason "evt-1" "tick-2", [])
  outer : opening (outerShift status) =
    some (contestedRow status target reason "evt-2" "tick-1",
      [contestedRow status target reason "evt-1" "tick-2"])
  inside : (innerShift status).run.2.1.loaded = some contestedProgress
  outside : (outerShift status).run.2.1.loaded = some contestedProgress

theorem Clash.conflict {status target : String} {reason : Reason} (clash : Clash status target reason) :
    ∃ before after, before.shop.tables.rows = [contestedRow status target reason "evt-1" "tick-2"] ∧
      Conflict (innerShift status) (outerShift status) (contested status) contestedProgress
        (contestedRow status target reason "evt-1" "tick-2")
        (contestedRow status target reason "evt-2" "tick-1") before after := by
  obtain ⟨_, _, inner, -⟩ := records_of_opening ⟨contestedHeld.row, rfl, rfl⟩ clash.inside clash.inner
  obtain ⟨before, after, outer, rows⟩ :=
    records_of_opening ⟨contestedTask.row, rfl, rfl⟩ clash.outside clash.outer
  exact ⟨before, after, rows, ⟨_, _, inner⟩, outer, by simp [rows]⟩

theorem conflicts_are_found_nested :
    ∃ row row' before after, Shows (contested "failed") row (before.shop.tables.rowsFor "t1") ∧
      Conflict (innerShift "failed") (outerShift "failed") (contested "failed") contestedProgress row row'
        before after ∧
      ∃ fault, (verify "t1").run (outerShift "failed").run.2.1.shop =
          (.error fault, (outerShift "failed").run.2.1.shop) ∧
        (Unsound ((outerShift "failed").run.2.1.shop.tables.rowsFor "t1") fault ∨
          (load "t1").run (outerShift "failed").run.2.1.shop =
            (.error fault, (outerShift "failed").run.2.1.shop)) := by
  have clash : Clash "failed" "finish" .actionExhausted :=
    ⟨by decide +kernel, by decide +kernel, by decide +kernel, by decide +kernel⟩
  obtain ⟨before, after, rows, conflict⟩ := clash.conflict
  have shows : Shows (contested "failed") (contestedRow "failed" "finish" .actionExhausted "evt-1" "tick-2")
      (before.shop.tables.rowsFor "t1") := by
    rw [Tables.rowsFor, rows]
    decide
  refine ⟨_, _, before, after, shows, conflict, ?_⟩
  have later := (conflict.second.begins (by decide)).2.2
  have found := conflicts_are_found (by decide) conflict shows later
  generalize (outerShift "failed").run.2.1.shop = final at found ⊢
  exact found

/-- A tick that leads its task back to where both began is not found, nor is one that leads it into a
pause. -/
theorem conflict_overlooked :
    freelancer.leaseMode = .bestEffort ∧
    ((∃ row row' before after, Conflict (innerShift "done") (outerShift "done") (contested "done")
        contestedProgress row row' before after) ∧ (contested "done").violations = [] ∧
      ((verify "t1").run (outerShift "done").run.2.1.shop).1 = .ok (some "work")) ∧
    (∃ row row' before after, Conflict (innerShift "feedback") (outerShift "feedback")
        (contested "feedback") contestedProgress row row' before after) ∧
      (contested "feedback").violations = [] ∧
      ((verify "t1").run (outerShift "feedback").run.2.1.shop).1 = .ok (some "wait") := by
  have back : Clash "done" "work" .actionDone :=
    ⟨by decide +kernel, by decide +kernel, by decide +kernel, by decide +kernel⟩
  have pause : Clash "feedback" "wait" .actionFeedback :=
    ⟨by decide +kernel, by decide +kernel, by decide +kernel, by decide +kernel⟩
  obtain ⟨before, after, -, conflict⟩ := back.conflict
  obtain ⟨before', after', -, conflict'⟩ := pause.conflict
  exact ⟨rfl, ⟨⟨_, _, before, after, conflict⟩, by decide, by decide +kernel⟩,
    ⟨_, _, before', after', conflict'⟩, by decide, by decide +kernel⟩

end Shop

end Tickwork
