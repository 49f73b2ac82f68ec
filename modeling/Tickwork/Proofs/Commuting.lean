import Mathlib.Logic.Equiv.Basic
import Tickwork.Proofs.Standing

/-!
# Ticks of two tasks

Ticks of two tasks that are free may be made in either order: each task stands alike afterwards, up to times
and the names that are drawn, if callables answer by what they are shown and time does not run out in
between. Together with what a request leaves alone this is the isolation of tasks.
-/

set_option autoImplicit false

namespace Tickwork

namespace Tables

/-- What belongs to a task is the same in both tables. -/
structure Agree (taskId : String) (t t' : Tables) : Prop where
  task : t.task? taskId = t'.task? taskId
  runs : t.runsFor taskId = t'.runsFor taskId
  rows : t.rowsFor taskId = t'.rowsFor taskId

namespace Agree

variable {t t' u u' : Tables} {taskId other : String}

theorem refl : Agree taskId t t := ⟨rfl, rfl, rfl⟩

theorem trans (first : Agree taskId t t') (second : Agree taskId t' u) : Agree taskId t u :=
  ⟨first.task.trans second.task, first.runs.trans second.runs, first.rows.trans second.rows⟩

/-- Tables that differ in one task at most agree on the other ones. -/
theorem of_apartFrom (same : t.apartFrom other = t'.apartFrom other) (apart : taskId ≠ other) :
    Agree taskId t t' where
  task := by rw [← task?_apartFrom apart, same, task?_apartFrom apart]
  runs := by rw [← runsFor_apartFrom apart, same, runsFor_apartFrom apart]
  rows := by rw [← rowsFor_apartFrom apart, same, rowsFor_apartFrom apart]

end Agree

theorem Alike.over {σ : String → String} {t t' u u' : Tables} {taskId : String} (alike : t.Alike σ taskId t')
    (agree : Agree taskId t u) (agree' : Agree taskId t' u') : u.Alike σ taskId u' where
  task := agree.task ▸ agree'.task ▸ alike.task
  runs := agree.runs ▸ agree'.runs ▸ alike.runs
  rows := agree.rows ▸ agree'.rows ▸ alike.rows

end Tables

namespace Shop

/-- A renaming that moves no names but those of rows that are still to be drawn. -/
def Spares (s : Shop) (σ : String → String) : Prop :=
  ∀ name, σ name ≠ name → ∃ n, s.rowCount < n ∧ name = rowName n

/-- Under such a renaming a task stands as it does. -/
theorem Orderly.alike_self {s : Shop} (orderly : s.Orderly) {σ : String → String} (spares : s.Spares σ)
    (taskId : String) : s.tables.Alike σ taskId s.tables where
  task := by
    cases found : s.tables.task? taskId with
    | none => exact .none
    | some row =>
        refine .some ⟨rfl, ⟨rfl, ?_, rfl⟩, ?_, rfl⟩
        · cases row.columns.lastError with
          | none => exact .none
          | some message => exact .some (.same message)
        · cases names : row.activeRunId with
          | none => rfl
          | some name =>
              refine congrArg some (by_contra fun moved => ?_)
              obtain ⟨n, beyond, rfl⟩ := spares name moved
              exact orderly.active row (Step.task?_mem found) n beyond names
  runs := by
    have kept : ∀ run ∈ s.tables.runsFor taskId, run.renamed σ = run := by
      intro run inside
      refine congrArg (fun runId => { run with runId }) (by_contra fun moved => ?_)
      obtain ⟨n, beyond, same⟩ := spares run.runId moved
      exact orderly.runs run (List.mem_filter.mp inside).1 n beyond same
    rw [List.map_congr_left kept, List.map_id']
  rows := by
    refine List.map_congr_left fun row inside => ?_
    have kept : σ row.runId = row.runId := by_contra fun moved => by
      obtain ⟨n, beyond, same⟩ := spares row.runId moved
      exact orderly.rows row (List.mem_filter.mp inside).1 n beyond same
    rw [kept]
    rfl

/-- A claim has an end if its span is one and the end lies in the calendar. -/
theorem expiry_isOk (now : Instant) (span : Instant.Seconds) :
    (Tables.expiry now span).isOk = true ↔ ∃ n, span.micros = .ok n ∧
      ¬ (n.fdiv Instant.dayMicros < -999999999 ∨ 999999999 < n.fdiv Instant.dayMicros) ∧
      Instant.inCalendar ⟨now.micros + n⟩ = true := by
  unfold Tables.expiry Instant.after
  cases length : span.micros with
  | error fault =>
      refine ⟨fun ends => ?_, fun ⟨n, lasts, _⟩ => ?_⟩
      · cases ends
      · cases lasts
  | ok n =>
      simp only [bind, Except.bind, Except.ok.injEq, exists_eq_left']
      by_cases many : n.fdiv Instant.dayMicros < -999999999 ∨ 999999999 < n.fdiv Instant.dayMicros
      · by_cases long : n.fdiv Instant.dayMicros < -2147483648 ∨ 2147483647 < n.fdiv Instant.dayMicros
        · simp [many, long, Except.isOk, Except.toBool, Except.mapError]
        · simp [many, long, Except.isOk, Except.toBool, Except.mapError]
      · have short : ¬ (n.fdiv Instant.dayMicros < -2147483648 ∨ 2147483647 < n.fdiv Instant.dayMicros) := by
          omega
        rw [if_neg short, if_neg many]
        by_cases inside : Instant.inCalendar ⟨now.micros + n⟩ = true
        · simp [many, inside, Except.isOk, Except.toBool, Except.mapError]
        · simp [inside, Except.isOk, Except.toBool, Except.mapError]

/-- What lies in the calendar at both ends lies in it throughout. -/
theorem lasts_of_ends {span : Instant.Seconds} {start stop : Instant}
    (first : (Tables.expiry start span).isOk = true) (last : (Tables.expiry stop span).isOk = true) :
    Lasts span start stop true := by
  intro now after before
  obtain ⟨n, length, short, early⟩ := (expiry_isOk start span).mp first
  obtain ⟨n', length', -, late⟩ := (expiry_isOk stop span).mp last
  cases length.symm.trans length'
  refine (expiry_isOk now span).mpr ⟨n, length, short, ?_⟩
  unfold Instant.inCalendar at early late ⊢
  have after : start.micros ≤ now.micros := after
  have before : now.micros ≤ stop.micros := before
  simp only [Bool.and_eq_true, decide_eq_true_eq] at early late ⊢
  omega

/-- Where both of two names were drawn as the next one, either may be drawn after the other one: a renaming
tells which is which. -/
theorem exists_renaming {count m n : Nat} (more : count ≤ m) (more' : count ≤ n) :
    ∃ σ : Equiv.Perm String, (∀ name, σ name ≠ name → ∃ k, count < k ∧ name = rowName k) ∧
      (count < m → σ (rowName (count + 1)) = rowName (n + 1)) ∧
      (count < n → σ (rowName (m + 1)) = rowName (count + 1)) := by
  by_cases drawn : count < m ∧ count < n
  · obtain ⟨drawn, drawn'⟩ := drawn
    have apart : ∀ k, count < k → rowName (count + 1) ≠ rowName (k + 1) := by
      intro k beyond same
      have := rowName_inj same
      omega
    refine ⟨(Equiv.swap (rowName (count + 1)) (rowName (m + 1))).trans
      (Equiv.swap (rowName (m + 1)) (rowName (n + 1))), ?_, fun _ => ?_, fun _ => ?_⟩
    · intro name moved
      by_contra none
      have fixed : ∀ k, count < k → name ≠ rowName k := fun k beyond same => none ⟨k, beyond, same⟩
      refine moved ?_
      rw [Equiv.trans_apply, Equiv.swap_apply_of_ne_of_ne (fixed _ (by omega)) (fixed _ (by omega)),
        Equiv.swap_apply_of_ne_of_ne (fixed _ (by omega)) (fixed _ (by omega))]
    · rw [Equiv.trans_apply, Equiv.swap_apply_left, Equiv.swap_apply_left]
    · rw [Equiv.trans_apply, Equiv.swap_apply_right, Equiv.swap_apply_of_ne_of_ne (apart m drawn) (apart n drawn')]
  · refine ⟨Equiv.refl _, fun name moved => absurd rfl moved, fun drawn' => ?_, fun drawn' => ?_⟩
    · rw [Equiv.refl_apply, show n = count by omega]
    · rw [Equiv.refl_apply, show m = count by omega]

/-! ## Errands -/

/-- A tick that is to be made: who makes it, of which task, and with which reply. -/
structure Errand where
  runner : Runner
  taskId : String
  reply : Option String

namespace Errand

variable {perform : Request → StateM Shop Unit} {s : Shop}

/-- The shop once the tick is made. -/
def done (perform : Request → StateM Shop Unit) (e : Errand) (s : Shop) : Shop :=
  ((tick perform e.runner e.taskId e.reply).run s).2

/-- The lease of the task is free, and its callables answer by what they are shown. -/
structure Clear (perform : Request → StateM Shop Unit) (e : Errand) (s : Shop) : Prop where
  free : s.Free e.taskId e.runner.workerId
  steady : ∀ row g, s.tables.task? e.taskId = some row → s.graphs.lookup row.workflowId = some g →
    g.Every (Steady perform)

/-- The second of two errands begins some time after the first one. -/
def both (perform : Request → StateM Shop Unit) (e e' : Errand) (pause : Nat) (s : Shop) : Shop :=
  e'.done perform (passTime pause (e.done perform s))

/-- Whether the end of a claim that an errand makes lies in the calendar is the same from an instant on until
another one. -/
def Lasting (e : Errand) (start stop : Instant) : Prop :=
  Lasts e.runner.leaseSpan start stop (Tables.expiry start e.runner.leaseSpan).isOk

section Aloof

variable (aloof : Aloof perform) (orderly : s.Orderly)

include aloof orderly

theorem done_reached (e : Errand) : Relation.ReflTransGen (Step (.only e.taskId)) s (e.done perform s) :=
  have onward : ∀ request (s : Shop), Onward (.only e.taskId) s (perform request s).2 := aloof.onward
  tick_onward onward e.runner rfl e.reply s (.inl orderly)

theorem done_matched (e : Errand) (clear : e.Clear perform s) (unused : s.tables.Unused s.eventCount)
    (lasting : e.Lasting s.now (e.done perform s).now) :
    Matched id e.taskId (e.done perform s) (e.done perform s) := by
  have stands : Matched id e.taskId s s :=
    ⟨orderly.alike_self (fun name moved => absurd rfl moved) e.taskId, unused, unused⟩
  exact tick_matched aloof Function.injective_id e.runner e.reply stands orderly orderly rfl clear.steady
    clear.free clear.free (fun _ _ => rfl) lasting lasting

/-- Some time after an errand: the other tasks stand as they did. -/
theorem later_agree (e : Errand) (pause : Nat) {taskId : String} (apart : taskId ≠ e.taskId) :
    Tables.Agree taskId s.tables (passTime pause (e.done perform s)).tables :=
  .of_apartFrom (reached_apart (done_reached aloof orderly e) orderly).symm apart

theorem later_clock (e : Errand) (pause : Nat) : s.now ≤ (passTime pause (e.done perform s)).now :=
  Int.le_trans (reached_later (done_reached aloof orderly e)) (Int.le_add_of_nonneg_right (Int.natCast_nonneg _))

theorem later_orderly (e : Errand) (pause : Nat) : (passTime pause (e.done perform s)).Orderly :=
  have ⟨distinct, owned, runs, active, rows⟩ := reached_orderly orderly (done_reached aloof orderly e)
  ⟨distinct, owned, runs, active, rows⟩

theorem later_graphs (e : Errand) (pause : Nat) : (passTime pause (e.done perform s)).graphs = s.graphs :=
  have same : (e.done perform s).graphs = s.graphs := reached_graphs (done_reached aloof orderly e)
  same

/-- An errand may still be done after one on another task. -/
theorem later_clear {e e' : Errand} (apart : e'.taskId ≠ e.taskId) (clear : e'.Clear perform s) (pause : Nat) :
    e'.Clear perform (passTime pause (e.done perform s)) := by
  have same := (later_agree aloof orderly e pause apart).task
  have clock := later_clock aloof orderly e pause
  refine ⟨clear.free.later same.symm clock, fun row g found listed => ?_⟩
  exact clear.steady row g (same.trans found) (later_graphs aloof orderly e pause ▸ listed)

end Aloof

theorem Lasting.within {e : Errand} {start stop from' until' : Instant} (lasting : e.Lasting start stop)
    (early : start ≤ from') (late : until' ≤ stop) :
    Lasts e.runner.leaseSpan from' until' (Tables.expiry start e.runner.leaseSpan).isOk :=
  fun now first last => lasting now (Int.le_trans early first) (Int.le_trans last late)

/-- Two errands may be done in either order. -/
theorem commute (aloof : Aloof perform) (orderly : s.Orderly) (unused : s.tables.Unused s.eventCount)
    {e e' : Errand} (apart : e.taskId ≠ e'.taskId) (clear : e.Clear perform s) (clear' : e'.Clear perform s)
    {pause : Nat} {stop : Instant} (lasting : e.Lasting s.now stop) (lasting' : e'.Lasting s.now stop)
    (late : (e.both perform e' pause s).now ≤ stop) (late' : (e'.both perform e pause s).now ≤ stop) :
    ∃ σ : Equiv.Perm String, s.Spares σ ∧
      ∀ taskId, (e.both perform e' pause s).tables.Alike σ taskId (e'.both perform e pause s).tables := by
  have orderly₁ := later_orderly aloof orderly e pause
  have orderly₂ := later_orderly aloof orderly e' pause
  have begins₁ := later_clock aloof orderly e pause
  have begins₂ := later_clock aloof orderly e' pause
  have ends₁ := reached_later (done_reached aloof orderly₁ e')
  have ends₂ := reached_later (done_reached aloof orderly₂ e)
  have first : (e.done perform s).now ≤ stop :=
    Int.le_trans (Int.le_add_of_nonneg_right (Int.natCast_nonneg pause)) (Int.le_trans ends₁ late)
  have first' : (e'.done perform s).now ≤ stop :=
    Int.le_trans (Int.le_add_of_nonneg_right (Int.natCast_nonneg pause)) (Int.le_trans ends₂ late')
  have start := Int.le_refl s.now.micros
  have unused₁ := (done_matched aloof orderly e clear unused (lasting.within start first)).unused
  have unused₂ := (done_matched aloof orderly e' clear' unused (lasting'.within start first')).unused
  have kept : ∀ taskId, taskId ≠ e'.taskId →
      Tables.Agree taskId (e.done perform s).tables (e.both perform e' pause s).tables := fun _ other =>
    .of_apartFrom (reached_apart (done_reached aloof orderly₁ e') orderly₁).symm other
  have kept' : ∀ taskId, taskId ≠ e.taskId →
      Tables.Agree taskId (e'.done perform s).tables (e'.both perform e pause s).tables := fun _ other =>
    .of_apartFrom (reached_apart (done_reached aloof orderly₂ e) orderly₂).symm other
  obtain ⟨σ, spares, renames, renames'⟩ := exists_renaming (reached_named (done_reached aloof orderly e))
    (reached_named (done_reached aloof orderly e'))
  refine ⟨σ, spares, fun taskId => ?_⟩
  have self := orderly.alike_self spares taskId
  by_cases mine : taskId = e.taskId
  · subst mine
    have stands : Matched σ e.taskId s (passTime pause (e'.done perform s)) :=
      ⟨self.over .refl (later_agree aloof orderly e' pause apart), unused, unused₂⟩
    have ticked := tick_matched aloof σ.injective e.runner e.reply stands orderly orderly₂
      (later_graphs aloof orderly e' pause).symm clear.steady clear.free
      (later_clear aloof orderly apart clear pause).free (fun drawn _ => renames drawn)
      (lasting.within start first) (lasting.within begins₂ late')
    exact ticked.alike.over (kept _ apart) .refl
  · by_cases yours : taskId = e'.taskId
    · subst yours
      have still := later_clear aloof orderly mine clear' pause
      have stands : Matched σ e'.taskId (passTime pause (e.done perform s)) s :=
        ⟨self.over (later_agree aloof orderly e pause mine) .refl, unused₁, unused⟩
      have ticked := tick_matched aloof σ.injective e'.runner e'.reply stands orderly₁ orderly
        (later_graphs aloof orderly e pause) still.steady still.free clear'.free (fun _ drawn => renames' drawn)
        (lasting'.within begins₁ late) (lasting'.within start first')
      exact ticked.alike.over .refl (kept' _ mine)
    · exact self.over ((later_agree aloof orderly e pause mine).trans (kept _ yours))
        ((later_agree aloof orderly e' pause yours).trans (kept' _ mine))

end Errand

/-- Callables can only let time pass. -/
def lettingTimePass : Request → StateM Shop Unit
  | .clock micros => modify (passTime (max 0 micros))
  | _ => pure ()

theorem aloof_lettingTimePass : Aloof lettingTimePass where
  tables request s := by cases request <;> rfl
  graphs request s := by cases request <;> rfl
  named request s := by cases request <;> exact Nat.le_refl _
  numbered request s := by cases request <;> exact Nat.le_refl _
  clock request s := by
    cases request with
    | clock micros => exact Int.le_add_of_nonneg_right (Int.le_max_left 0 micros)
    | _ => exact Int.le_refl _

/-- A factory with a single step. -/
def oneStep (body : Expr Request) : Graph Code where
  id := "demo"
  start := "work"
  context := []
  states :=
    [("work", .action (.slot (.code (.script 0 body) .whole)) ⟨some "finish", some "finish", none⟩ none),
      ("finish", .terminal .done none)]
  guards := []
  handlers := []

/-- A shop with two tasks of one factory. -/
def pairShop (body : Expr Request) : Shop :=
  let task (taskId : String) : TaskRow :=
    { taskId, workflowId := "demo", externalId := none, title := none, prompt := none, contextText := none,
      columns := .fresh (.dict []), activeRunId := none, lease := none, createdAt := ⟨0⟩, updatedAt := ⟨0⟩ }
  { Shop.opened ⟨0⟩ with
    tables := ⟨[task "t1", task "t2"], [], []⟩
    graphs := [("demo", oneStep body)]
    runners := [("a", claimant 30)] }

theorem pairShop_orderly (body : Expr Request) : (pairShop body).Orderly where
  distinct := .nil
  owned _ _ _ inside := absurd inside List.not_mem_nil
  runs _ inside := absurd inside List.not_mem_nil
  active row inside := by
    have idle : ∀ row ∈ (pairShop body).tables.tasks, row.activeRunId = none := by simp [pairShop]
    simp [idle row inside]
  rows _ inside := absurd inside List.not_mem_nil

/-- A tick of one of them by a worker of its own. -/
def errandOn (seconds : Int) (taskId : String) : Errand where
  runner := { claimant seconds with workerId := taskId }
  taskId := taskId
  reply := none

theorem errandOn_free (body : Expr Request) (seconds : Int) (taskId : String) :
    (pairShop body).Free (errandOn seconds taskId).taskId (errandOn seconds taskId).runner.workerId := by
  intro row found
  have unheld : ∀ row ∈ (pairShop body).tables.tasks, row.lease = none := by simp [pairShop]
  unfold Tables.isFree
  rw [unheld row (Step.task?_mem found)]

/-- A step that takes a second. -/
def slowStep : Expr Request := .aside (.clock 1000000) (.literal (plainReport "done"))

theorem oneStep_every {kind : Code → Prop} {body : Expr Request} (known : kind (.script 0 body)) :
    (oneStep body).Every kind where
  states := by simpa [oneStep, State.Every, Handler.Every, Slot.Every] using known
  guards _ inside := absurd inside List.not_mem_nil
  handlers _ inside := absurd inside List.not_mem_nil

theorem steady_slowStep : Steady lettingTimePass (.script 0 slowStep) := by
  intro call call' s s' same
  have contexts : call.context = call'.context := by
    have := congrArg Call.context same
    cases call <;> cases call' <;> exact this
  have answered : ∀ (call : Call) (s : Shop), (callables lettingTimePass (.script 0 slowStep) call s).1 =
      ⟨.ok (plainReport "done"), call.context⟩ := fun _ _ => rfl
  rw [answered, answered, contexts]

/-- What a task came to is the same in both tables. -/
theorem cameTo_alike {σ : String → String} {t t' : Tables} {taskId : String} (alike : t.Alike σ taskId t') :
    (t.task? taskId).map (fun row => (row.columns.lifecycle, row.columns.context)) =
      (t'.task? taskId).map fun row => (row.columns.lifecycle, row.columns.context) := by
  have tasks := alike.task
  generalize t.task? taskId = found at tasks ⊢
  generalize t'.task? taskId = found' at tasks ⊢
  cases tasks with
  | none => rfl
  | some same => exact congrArg some (Prod.ext same.lifecycle same.context)

/-- A callable whose answers depend on nothing but what it is shown. -/
def Determined (perform : Request → StateM Shop Unit) (f : Code) : Prop :=
  ∀ call s s', (callables perform f call s).1 = (callables perform f call s').1

def quickStep : Expr Request := .literal (plainReport "done")

/-- A step that tells whether its tick is the first one. -/
def vainStep : Expr Request :=
  .choose (.equal (.input "tick_id") (.literal (.str "tick-1")))
    (.literal (.result (.str "done") (.dict [("first", .bool true)]) .null .null))
    (.literal (.result (.str "done") (.dict [("first", .bool false)]) .null .null))

theorem determined_vainStep : Determined lettingTimePass (.script 0 vainStep) := by
  intro call s s'
  have skip : ∀ (n : Nat) (inputs : Inputs), List.lookup "tick_id" (("calls", Value.int n) :: inputs) =
      inputs.lookup "tick_id" := fun _ _ => by rw [List.lookup_cons]; rfl
  have returns : ∀ {σ α : Type} (a : α) (before : σ), (StateT.pure a : StateM σ α) before = (a, before) :=
    fun _ _ => rfl
  simp only [callables, Routine.behaviour, Routine.runScript, vainStep, Expr.eval, skip, pure_bind]
  generalize List.lookup "tick_id" call.inputs = name
  cases Evaluation.asText (name.getD .null) with
  | error e => rfl
  | ok text =>
      cases Evaluation.asText (.str "tick-1") with
      | error e => rfl
      | ok mark =>
          cases hit : text == mark <;>
            simp [Evaluation.ofExcept, bind, ExceptT.bind, ExceptT.bindCont, ExceptT.mk, StateT.bind, pure,
              ExceptT.pure, returns, ExceptT.run, StateT.run, hit]

end Shop

end Tickwork
