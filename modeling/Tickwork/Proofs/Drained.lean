import Mathlib.Algebra.Order.BigOperators.Group.List
import Mathlib.Algebra.Order.Group.Nat
import Mathlib.Data.List.Nodup
import Tickwork.Proofs.Turns

/-!
# Queues that run dry

The loop of a runner polls until it was idle often enough in a row. Each poll ticks every task that is queued
or running, so it takes one tick from what each of these still needs until it comes to rest: what all of them
need together is what bounds the loop. Main statement: if every queued or running task comes to rest by its
own ticks, the loop returns, and each of these tasks stands as its own ticks leave it.
-/

set_option autoImplicit false

namespace Tickwork

/-! ## The tasks of a poll -/

namespace Tables

variable {t : Tables} {taskId : String}

theorem mem_runnable : taskId ∈ t.runnable none ↔
    ∃ row ∈ t.tasks, row.columns.lifecycle ∈ Lifecycle.runnable ∧ row.taskId = taskId := by
  rw [(Shop.runnable_perm t).mem_iff]
  simp [and_assoc]

/-- A task is looked up by its id, if no other task has the same one. -/
theorem task?_of_mem (distinct : (t.tasks.map TaskRow.taskId).Nodup) {row : TaskRow} (inside : row ∈ t.tasks) :
    t.task? row.taskId = some row := by
  cases found : t.task? row.taskId with
  | none => simpa using List.find?_eq_none.mp found row inside
  | some other =>
      rw [List.inj_on_of_nodup_map distinct (Shop.Step.task?_mem found) inside (taskId_of_task? found)]

variable (distinct : (t.tasks.map TaskRow.taskId).Nodup)

include distinct

theorem mem_runnable_iff : taskId ∈ t.runnable none ↔ t.Pending taskId := by
  rw [mem_runnable]
  constructor
  · rintro ⟨row, inside, runs, rfl⟩
    exact ⟨row, task?_of_mem distinct inside, runs⟩
  · rintro ⟨row, found, runs⟩
    exact ⟨row, Shop.Step.task?_mem found, runs, taskId_of_task? found⟩

theorem nodup_runnable : (t.runnable none).Nodup :=
  (Shop.runnable_perm t).nodup_iff.mpr (distinct.sublist (List.filter_sublist.map _))

end Tables

namespace Shop

/-- No step gives a task an id that is taken. -/
theorem Step.distinct {of : Reach} {s s' : Shop} (step : Step of s s')
    (distinct : (s.tables.tasks.map TaskRow.taskId).Nodup) : (s'.tables.tasks.map TaskRow.taskId).Nodup := by
  cases step with
  | aside tables =>
      rw [tables]
      exact distinct
  | update own lands same =>
      obtain ⟨row, -, -, rfl⟩ := Tables.updateIf_some lands
      rw [Tables.taskIds_setTask]
      exact distinct
  | create own created =>
      obtain ⟨context, task, -, new, named, -, -, rfl⟩ := Tables.create_ok created
      rw [List.map_append, List.nodup_append]
      refine ⟨distinct, List.nodup_singleton _, ?_⟩
      rintro _ inside _ last rfl
      obtain ⟨row, old, same⟩ := List.mem_map.mp inside
      have own' := List.mem_singleton.mp last
      have missing := List.find?_eq_none.mp new row old
      simp [same, own', named] at missing
  | record own added =>
      unfold Tables.addRow at added
      repeat' split at added
      all_goals cases added
      exact distinct
  | begin own found idle =>
      unfold Tables.openRun
      rw [Tables.taskIds_setTask]
      exact distinct
  | turn own found same closed => exact distinct

theorem reached_distinct {of : Reach} {s s' : Shop} (reached : Relation.ReflTransGen (Step of) s s')
    (distinct : (s.tables.tasks.map TaskRow.taskId).Nodup) : (s'.tables.tasks.map TaskRow.taskId).Nodup := by
  induction reached with
  | refl => exact distinct
  | tail _ step ih => exact step.distinct ih

end Shop

/-! ## What a loop counts -/

namespace Summary

/-- The ticks that are counted by what became of the task. -/
def ended (a : Summary) : Nat := a.done + a.blocked + a.failed + a.feedback + a.paused

/-- A summary with so many ticks and idle polls more, each tick counted by what became of its task. -/
structure Grown (a b : Summary) (ticks idle : Nat) : Prop where
  processed : b.processed = a.processed + ticks
  ended : b.ended = a.ended + ticks
  skipped : b.skipped = a.skipped
  idlePolls : b.idlePolls = a.idlePolls + idle

theorem Grown.trans {a b c : Summary} {m n i j : Nat} (first : Grown a b m i) (second : Grown b c n j) :
    Grown a c (m + n) (i + j) where
  processed := by rw [second.processed, first.processed, Nat.add_assoc]
  ended := by rw [second.ended, first.ended, Nat.add_assoc]
  skipped := second.skipped.trans first.skipped
  idlePolls := by rw [second.idlePolls, first.idlePolls, Nat.add_assoc]

/-- A report of a tick that was made. -/
def Told (result : Except Fault TickReport) : Prop :=
  ∃ report, result = .ok report ∧ report.skipped = false ∧ report.ending.isSome = true

theorem grown_take (a : Summary) {result : Except Fault TickReport} (told : Told result) :
    Grown a (a.take result) 1 0 := by
  obtain ⟨⟨taskId, ending, transitions, message, skipped⟩, rfl, same, ends⟩ := told
  obtain rfl : skipped = false := same
  obtain ⟨ending, rfl⟩ := Option.isSome_iff_exists.mp ends
  cases ending <;> constructor <;> simp [take, count, Summary.ended] <;> omega

theorem grown_ticks {log : List (String × Except Fault TickReport)} (told : ∀ entry ∈ log, Told entry.2)
    (a : Summary) : Grown a (log.foldl (fun sum entry => sum.take entry.2) a) log.length 0 := by
  induction log generalizing a with
  | nil => exact ⟨rfl, rfl, rfl, rfl⟩
  | cons entry rest ih =>
      have later := ih (fun entry inside => told entry (List.mem_cons_of_mem _ inside)) (a.take entry.2)
      rw [List.length_cons, Nat.add_comm]
      exact (a.grown_take (told entry List.mem_cons_self)).trans later

/-- What is added to a summary makes it grow as it has grown itself. -/
theorem Grown.add {a b : Summary} {n i : Nat} (grown : Grown zero b n i) : Grown a (a.add b) n i where
  processed := by rw [show (a.add b).processed = a.processed + b.processed from rfl, grown.processed]; simp [zero]
  ended := by
    have ended := grown.ended
    simp only [Summary.ended, Summary.add, zero] at ended ⊢
    omega
  skipped := by rw [show (a.add b).skipped = a.skipped + b.skipped from rfl, grown.skipped]; simp [zero]
  idlePolls := by rw [show (a.add b).idlePolls = a.idlePolls + b.idlePolls from rfl, grown.idlePolls]; simp [zero]

end Summary

namespace Shop

theorem Ticks.trans {perform : Request → StateM Shop Unit} {runner : Runner} {s middle after : Shop}
    {log log' : List (String × Except Fault TickReport)} (first : Ticks perform runner s log middle)
    (second : Ticks perform runner middle log' after) : Ticks perform runner s (log ++ log') after := by
  induction first with
  | none => exact second
  | next ticked _ ih => exact .next ticked (ih second)

/-- After so many ticks alone, and no fewer, a task is paused or has ended. -/
structure Settles (perform : Request → StateM Shop Unit) (runner : Runner) (taskId : String) (s : Shop)
    (n : Nat) : Prop where
  rests : (alone perform runner taskId n s).tables.AtRest taskId
  before : ∀ m < n, (alone perform runner taskId m s).tables.Pending taskId

/-- A queue that can be drained. No two tasks have one id. Every task that is queued or running is free and
comes to rest by its own ticks, its callables answer by what they are shown, and whatever order its ticks and
those of the others come in, they come to reports, which they do only where its factory is known, and signal
no stop; so it is both before the loop starts and while it is running. -/
structure Drainable (perform : Request → StateM Shop Unit) (name : String) (runner : Runner) (s : Shop) :
    Prop where
  distinct : (s.tables.tasks.map TaskRow.taskId).Nodup
  workable : Workable perform runner (s.tables.runnable none) s
  calm : ∀ loops ∈ [s.loops, name :: s.loops],
    Untroubled perform name runner (s.tables.runnable none) { s with loops }
  settles : ∀ taskId ∈ s.tables.runnable none, ∃ n, (alone perform runner taskId n s).tables.AtRest taskId

/-- A queue that was drained by some ticks. No task is queued or running. Each task that was, was ticked as
often as it takes to come to rest alone, and stands as its own ticks leave it, times and the names of runs
apart; the other tasks stand as they did. The summary counts the ticks, each by what became of its task, and
none that was left alone. -/
structure Drained (perform : Request → StateM Shop Unit) (runner : Runner) (s : Shop) (maxIdlePolls : Int)
    (summary : Summary) (log : List (String × Except Fault TickReport)) (after : Shop) : Prop where
  dry : ∀ row ∈ after.tables.tasks, row.columns.lifecycle ∉ Lifecycle.runnable
  settled : ∀ taskId ∈ s.tables.runnable none, ∃ n, Settles perform runner taskId s n ∧
    (log.map Prod.fst).count taskId = n ∧
    ∃ σ : Equiv.Perm String, (alone perform runner taskId n s).tables.Alike σ taskId after.tables
  listed : ∀ entry ∈ log, entry.1 ∈ s.tables.runnable none
  others : ∀ taskId ∉ s.tables.runnable none, Tables.Agree taskId s.tables after.tables
  processed : summary.processed = log.length
  counted : summary.processed =
    summary.done + summary.blocked + summary.failed + summary.feedback + summary.paused
  skipped : summary.skipped = 0
  idlePolls : (summary.idlePolls : Int) = maxIdlePolls

section Loops

variable {perform : Request → StateM Shop Unit} {name : String} {runner : Runner} {s w : Shop}
  {count : String → Nat}

/-- Of the tasks that were listed at first, those are picked up again that are not at rest yet; no other
task is. -/
theorem InPace.due (distinct : (s.tables.tasks.map TaskRow.taskId).Nodup)
    (distinct' : (w.tables.tasks.map TaskRow.taskId).Nodup)
    (pace : InPace perform runner (s.tables.runnable none) s count w) {taskId : String}
    (due : taskId ∈ w.tables.runnable none) : taskId ∈ s.tables.runnable none ∧ w.tables.Pending taskId := by
  have pending := (Tables.mem_runnable_iff distinct').mp due
  refine ⟨by_contra fun outside => outside ?_, pending⟩
  exact (Tables.mem_runnable_iff distinct).mpr ((pace.others taskId outside).pending.mpr pending)

/-- Polls of a queue that has run dry are idle, up to the last one. -/
theorem runRounds_drained (unstopped : w.stopped.lookup name = none) (dry : w.tables.runnable none = [])
    {maxIdlePolls : Int} (left : Nat) (idle : Nat) (same : (idle : Int) + (left + 1 : Nat) = maxIdlePolls)
    (total : Summary) :
    ∃ summary, runRounds perform name runner none maxIdlePolls idle total w = some (.ok summary, w) ∧
      total.Grown summary 0 (left + 1) := by
  have polled : (runOnce perform name runner).run w = (.ok { Summary.zero with idlePolls := 1 }, w) := by
    unfold runOnce
    rw [Work.run_bind_get, dry]
    rfl
  have grown : total.Grown (total.add { Summary.zero with idlePolls := 1 }) 0 1 :=
    .add ⟨rfl, rfl, rfl, (Nat.zero_add 1).symm⟩
  induction left generalizing idle total with
  | zero =>
      refine ⟨_, ?_, grown⟩
      rw [runRounds.eq_def, polled, unstopped]
      have last : maxIdlePolls ≤ (idle + 1 : Int) := by omega
      simp [Summary.zero, last]
  | succ left ih =>
      obtain ⟨summary, ran, grown'⟩ := ih (idle + 1) (by omega) (total.add { Summary.zero with idlePolls := 1 })
        (.add ⟨rfl, rfl, rfl, (Nat.zero_add 1).symm⟩)
      refine ⟨summary, ?_, ?_⟩
      · rw [runRounds.eq_def, polled, unstopped]
        have more : ¬ maxIdlePolls ≤ (idle + 1 : Int) := by omega
        simpa [Summary.zero, more] using ran
      · simpa [Nat.add_comm] using grown.trans grown'

variable (aloof : Aloof perform)

include aloof

theorem ticks_distinct {log : List (String × Except Fault TickReport)} {after : Shop}
    (ticks : Ticks perform runner w log after) (orderly : w.Orderly)
    (distinct : (w.tables.tasks.map TaskRow.taskId).Nodup) :
    (after.tables.tasks.map TaskRow.taskId).Nodup := by
  induction ticks with
  | none => exact distinct
  | @next w middle after taskId result log ticked later ih =>
      have reached := Errand.done_reached aloof orderly (pickUp runner taskId)
      have there : (pickUp runner taskId).done perform w = middle := congrArg Prod.snd ticked
      rw [there] at reached
      exact ih (reached_orderly orderly reached) (reached_distinct reached distinct)

/-- A poll ticks each task that is not at rest once, and counts these ticks. -/
theorem runOnce_drains (ready : Drainable perform name runner s)
    (pace : InPace perform runner (s.tables.runnable none) s count w)
    (calm : Untroubled perform name runner (s.tables.runnable none) w)
    (distinct : (w.tables.tasks.map TaskRow.taskId).Nodup) (waits : w.tables.runnable none ≠ []) :
    ∃ summary after log, (runOnce perform name runner).run w = (.ok summary, after) ∧
      Ticks perform runner w log after ∧ log.map Prod.fst = w.tables.runnable none ∧
      Untroubled perform name runner (s.tables.runnable none) after ∧
      InPace perform runner (s.tables.runnable none) s
        (fun taskId => count taskId + (log.map Prod.fst).count taskId) after ∧
      (after.tables.tasks.map TaskRow.taskId).Nodup ∧ Summary.zero.Grown summary log.length 0 := by
  obtain ⟨result, after, log, ran, ticks, ends⟩ :=
    tickAll_ends perform runner name (w.tables.runnable none) .zero w
  have due : ∀ taskId ∈ w.tables.runnable none, taskId ∈ s.tables.runnable none ∧ w.tables.Pending taskId :=
    fun _ => pace.due ready.distinct distinct
  have listed : ∀ entry ∈ log, entry.1 ∈ w.tables.runnable none := by
    have inside : ∀ {front : List (String × Except Fault TickReport)} {ids : List String},
        front.map Prod.fst <+: ids → ∀ entry ∈ front, entry.1 ∈ ids := fun before entry here =>
      before.subset (List.mem_map_of_mem here)
    cases ends with
    | through went all => exact inside (all ▸ List.prefix_refl _)
    | stopped went some' => exact inside some'
    | @broken front taskId fault went some' => exact inside (by simpa using some')
  obtain ⟨reports, quiet⟩ := calm log after ticks fun entry inside => (due _ (listed entry inside)).1
  have polled : (runOnce perform name runner).run w = (result, after) := by
    unfold runOnce
    rw [Work.run_bind_get]
    cases ids : w.tables.runnable none with
    | nil => exact absurd ids waits
    | cons taskId rest => rwa [ids] at ran
  cases ends with
  | stopped went some' signalled =>
      rw [quiet] at signalled
      cases signalled
  | @broken front taskId fault went some' other calm =>
      obtain ⟨report, came⟩ := reports (taskId, .error fault) (by simp)
      cases came
  | through went all =>
      obtain ⟨calmer, paced, told⟩ := pace.ticks aloof ready.workable (ready.calm s.loops (by simp)) ticks calm
        (all ▸ Tables.nodup_runnable distinct) fun entry inside => due _ (listed entry inside)
      exact ⟨_, after, log, polled, ticks, all, calmer, paced, ticks_distinct aloof ticks pace.orderly distinct,
        Summary.grown_ticks told _⟩

omit aloof in
/-- A task that is not at rest yet has made fewer ticks than it needs. -/
theorem InPace.short {listed : List String} (pace : InPace perform runner listed s count w) {taskId : String}
    (mine : taskId ∈ listed) (pending : w.tables.Pending taskId) {n : Nat}
    (rests : (alone perform runner taskId n s).tables.AtRest taskId) : count taskId < n := by
  obtain ⟨σ, stands⟩ := pace.stands taskId mine
  rcases Nat.lt_trichotomy (count taskId) n with fewer | same | more
  · exact fewer
  · exact absurd (same ▸ stands.alike.pending.mpr pending) rests.not_pending
  · exact absurd (pace.went taskId mine n more) rests.not_pending

/-- A loop that was not idle yet takes its polls until the queue has run dry. -/
theorem runRounds_drains (ready : Drainable perform name runner s) {needs : String → Nat}
    (rests : ∀ taskId ∈ s.tables.runnable none,
      (alone perform runner taskId (needs taskId) s).tables.AtRest taskId)
    {left : Nat} {maxIdlePolls : Int} (idles : ((left + 1 : Nat) : Int) = maxIdlePolls)
    (pace : InPace perform runner (s.tables.runnable none) s count w)
    (calm : Untroubled perform name runner (s.tables.runnable none) w)
    (distinct : (w.tables.tasks.map TaskRow.taskId).Nodup) (total : Summary) :
    ∃ summary after log, runRounds perform name runner none maxIdlePolls 0 total w = some (.ok summary, after) ∧
      Ticks perform runner w log after ∧ (∀ entry ∈ log, entry.1 ∈ s.tables.runnable none) ∧
      InPace perform runner (s.tables.runnable none) s
        (fun taskId => count taskId + (log.map Prod.fst).count taskId) after ∧
      (after.tables.tasks.map TaskRow.taskId).Nodup ∧ after.tables.runnable none = [] ∧
      total.Grown summary log.length (left + 1) := by
  -- The ticks that the tasks still need bound the polls that are not idle.
  induction measure : ((s.tables.runnable none).map fun taskId => needs taskId - count taskId).sum using
    Nat.strong_induction_on generalizing w count total with
  | h m ih =>
      by_cases dry : w.tables.runnable none = []
      · obtain ⟨summary, ran, grown⟩ := runRounds_drained calm.unstopped dry left 0 (by simpa using idles) total
        exact ⟨summary, w, [], ran, .none w, nofun, by simpa using pace, distinct, dry, grown⟩
      · obtain ⟨summary, middle, log, polled, ticks, all, calmer, paced, distinct', counted⟩ :=
          runOnce_drains aloof ready pace calm distinct dry
        have due : ∀ taskId ∈ w.tables.runnable none, taskId ∈ s.tables.runnable none ∧
            w.tables.Pending taskId := fun _ => pace.due ready.distinct distinct
        have fewer : ((s.tables.runnable none).map fun taskId =>
            needs taskId - (count taskId + (log.map Prod.fst).count taskId)).sum < m := by
          rw [← measure]
          refine List.sum_lt_sum _ _ (fun taskId _ => by omega) ?_
          obtain ⟨taskId, first⟩ := List.exists_mem_of_ne_nil _ dry
          obtain ⟨mine, pending⟩ := due taskId first
          have short := pace.short mine pending (rests taskId mine)
          have ticked : 0 < (log.map Prod.fst).count taskId := List.count_pos_iff.mpr (all ▸ first)
          exact ⟨taskId, mine, by omega⟩
        obtain ⟨final, after, log', ran, ticks', listed, paced', distinct'', dry', grown⟩ :=
          ih _ fewer paced calmer distinct' (total.add summary) rfl
        have listed' : ∀ entry ∈ log ++ log', entry.1 ∈ s.tables.runnable none := by
          intro entry inside
          rcases List.mem_append.mp inside with earlier | later
          · have named : entry.1 ∈ log.map Prod.fst := List.mem_map_of_mem earlier
            exact (due entry.1 (all ▸ named)).1
          · exact listed entry later
        refine ⟨final, after, log ++ log', ?_, ticks.trans ticks', listed', ?_, distinct'', dry', ?_⟩
        · have some' : summary.processed ≠ 0 := by
            have length : (log.map Prod.fst).length = log.length := List.length_map _
            rw [counted.processed, ← length, all]
            simpa [Summary.zero] using dry
          rw [runRounds.eq_def, polled, calm.unstopped]
          simpa [some'] using ran
        · simpa [Nat.add_assoc] using paced'
        · simpa using counted.add.trans grown

/-- A task that is there stays there while it is ticked. -/
theorem alone_found {taskId : String} {row : TaskRow} (found : s.tables.task? taskId = some row) (n : Nat) :
    ∃ row', (alone perform runner taskId n s).tables.task? taskId = some row' := by
  induction n with
  | zero => exact ⟨row, found⟩
  | succ n ih =>
      obtain ⟨row', found'⟩ := ih
      have extends' := tick_adds (fun request s => .of_same (aloof.tables request s) (aloof.graphs request s))
        runner taskId none (alone perform runner taskId n s)
      obtain ⟨row'', found'', -⟩ := extends'.tables.tasks taskId row' found'
      exact ⟨row'', found''⟩

end Loops

/-! ## A queue of two tasks -/

/-- Whatever order the ticks of the listed tasks come in, they come to reports, and fewer than so many of them
bring all the tasks to rest. -/
def restsWithin (perform : Request → StateM Shop Unit) (name : String) (runner : Runner) (listed : List String) :
    Nat → Shop → Bool
  | 0, _ => false
  | n + 1, s => (s.stopped.lookup name).isNone && listed.all fun taskId =>
      ((tick perform runner taskId none).run s).1.isOk &&
        (decide (s.tables.AtRest taskId) ||
          restsWithin perform name runner listed n ((tick perform runner taskId none).run s).2)

theorem untroubled_of_restsWithin {perform : Request → StateM Shop Unit} {name : String} {runner : Runner}
    {listed : List String} {n : Nat} {s : Shop}
    (rests : restsWithin perform name runner listed n s = true) :
    Untroubled perform name runner listed s := by
  have reported : ∀ {result : Except Fault TickReport}, result.isOk = true → ∃ report, result = .ok report := by
    rintro (_ | report) ok
    · cases ok
    · exact ⟨report, rfl⟩
  have checked : ∀ {n s}, restsWithin perform name runner listed n s = true →
      s.stopped.lookup name = none ∧ ∀ taskId ∈ listed, ((tick perform runner taskId none).run s).1.isOk = true ∧
        ∃ n, restsWithin perform name runner listed n ((tick perform runner taskId none).run s).2 = true := by
    intro n s rests
    cases n with
    | zero => cases rests
    | succ n =>
        have each := rests
        simp only [restsWithin, Bool.and_eq_true, Bool.or_eq_true, Option.isNone_iff_eq_none, List.all_eq_true,
          decide_eq_true_eq] at each
        refine ⟨each.1, fun taskId mine => ⟨(each.2 taskId mine).1, ?_⟩⟩
        rcases (each.2 taskId mine).2 with still | onward
        · rw [tick_of_rest runner still]
          exact ⟨n + 1, rests⟩
        · exact ⟨n, onward⟩
  intro log after ticks inside
  induction ticks generalizing n with
  | none s => exact ⟨nofun, (checked rests).1⟩
  | @next s middle after taskId result log ticked later ih =>
      have mine : taskId ∈ listed := inside _ List.mem_cons_self
      obtain ⟨ok, n, onward⟩ := (checked rests).2 taskId mine
      rw [ticked] at ok onward
      obtain ⟨reports, quiet⟩ := ih onward fun entry later => inside entry (List.mem_cons_of_mem _ later)
      refine ⟨fun entry among => ?_, quiet⟩
      rcases List.mem_cons.mp among with rfl | later
      · exact reported ok
      · exact reports entry later

/-- A factory of two steps. -/
def twoSteps (body : Expr Request) : Graph Code :=
  { oneStep body with
    states :=
      [("work", .action (.slot (.code (.script 0 body) .whole)) ⟨some "check", some "finish", none⟩ none),
        ("check", .action (.slot (.code (.script 0 body) .whole)) ⟨some "finish", some "finish", none⟩ none),
        ("finish", .terminal .done none)] }

theorem twoSteps_every {kind : Code → Prop} {body : Expr Request} (known : kind (.script 0 body)) :
    (twoSteps body).Every kind where
  states := by simpa [twoSteps, State.Every, Handler.Every, Slot.Every] using known
  guards _ inside := absurd inside List.not_mem_nil
  handlers _ inside := absurd inside List.not_mem_nil

/-- A shop with two tasks of that factory. -/
def queueShop : Shop := { pairShop slowStep with graphs := [("demo", twoSteps slowStep)] }

/-- A runner that makes one transition in a tick. -/
def pacer : Runner := { claimant 30 with budget := .clamped 1 200 }

theorem queueShop_listed (taskId : String) (mine : taskId ∈ queueShop.tables.runnable none) :
    taskId ∈ ["t1", "t2"] := by
  obtain ⟨row, inside, -, rfl⟩ := Tables.mem_runnable.mp mine
  have both : ∀ row ∈ queueShop.tables.tasks, row.taskId ∈ ["t1", "t2"] := by simp [queueShop, pairShop]
  exact both row inside

theorem queueShop_drainable : Drainable lettingTimePass "a" pacer queueShop where
  distinct := by decide
  workable :=
    have ⟨distinct, owned, runs, active, rows⟩ := pairShop_orderly slowStep
    { orderly := ⟨distinct, owned, runs, active, rows⟩
      unused := fun row inside => absurd inside List.not_mem_nil
      clear := fun taskId _ =>
        { free := fun row found => by
            have unheld : ∀ row ∈ queueShop.tables.tasks, row.lease = none := by simp [queueShop, pairShop]
            unfold Tables.isFree
            rw [unheld row (Step.task?_mem found)]
          steady := fun row g _ listed => by
            have inside := Graph.mem_of_lookup listed
            obtain rfl : g = twoSteps slowStep := congrArg Prod.snd (List.mem_singleton.mp inside)
            exact twoSteps_every steady_slowStep } }
  calm := by
    intro loops which
    have dry : restsWithin lettingTimePass "a" pacer ["t1", "t2"] 5 { queueShop with loops } = true := by
      rcases List.mem_cons.mp which with rfl | which
      · decide +kernel
      · rw [List.mem_singleton.mp which]
        decide +kernel
    exact (untroubled_of_restsWithin dry).among queueShop_listed
  settles := by
    have both : ∀ taskId ∈ ["t1", "t2"], (alone lettingTimePass pacer taskId 2 queueShop).tables.AtRest taskId := by
      decide +kernel
    exact fun taskId mine => ⟨2, both taskId (queueShop_listed taskId mine)⟩

end Shop

end Tickwork
