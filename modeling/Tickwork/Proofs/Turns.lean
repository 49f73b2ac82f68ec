import Tickwork.Proofs.Alone
import Tickwork.Proofs.Polls

/-!
# Tasks in turn

Several tasks are worked on in one shop, and each is looked at beside its own ticks alone. `InPace` says that
every one of them stands as after as many ticks alone; it goes on by one tick of any of them. Main statement:
when some of the tasks are ticked one after the other, each of them makes one tick more, and each report
tells of a tick that was made.
-/

set_option autoImplicit false

namespace Tickwork

namespace Shop

/-! ## Tasks in turn -/

/-- Ticks of the listed tasks come to reports, however many there are and in whatever order, and signal no
stop to a runner. -/
def Untroubled (perform : Request → StateM Shop Unit) (name : String) (runner : Runner) (listed : List String)
    (s : Shop) : Prop :=
  ∀ log after, Ticks perform runner s log after → (∀ entry ∈ log, entry.1 ∈ listed) →
    (∀ entry ∈ log, ∃ report, entry.2 = .ok report) ∧ after.stopped.lookup name = none

namespace Untroubled

variable {perform : Request → StateM Shop Unit} {name : String} {runner : Runner} {listed : List String}
  {s : Shop} {taskId : String}

/-- The next tick comes to a report, and so do those after it. -/
theorem next (calm : Untroubled perform name runner listed s) (mine : taskId ∈ listed) :
    ∃ report, (tick perform runner taskId none).run s =
        (.ok report, (pickUp runner taskId).done perform s) ∧
      Untroubled perform name runner listed ((pickUp runner taskId).done perform s) := by
  have ticked : (tick perform runner taskId none).run s =
      (((tick perform runner taskId none).run s).1, (pickUp runner taskId).done perform s) := rfl
  have named : ∀ {log : List (String × Except Fault TickReport)} {result : Except Fault TickReport},
      (∀ entry ∈ log, entry.1 ∈ listed) → ∀ entry ∈ (taskId, result) :: log, entry.1 ∈ listed := by
    intro log result inside entry here
    rcases List.mem_cons.mp here with rfl | later
    · exact mine
    · exact inside entry later
  obtain ⟨reports, -⟩ := calm _ _ (.next ticked (.none _)) (named nofun)
  obtain ⟨report, came⟩ := reports _ List.mem_cons_self
  refine ⟨report, ?_, fun log after ticks inside => ?_⟩
  · rw [ticked]
    exact congrArg (·, _) came
  · obtain ⟨reports, quiet⟩ := calm _ _ (.next ticked ticks) (named inside)
    exact ⟨fun entry later => reports entry (List.mem_cons_of_mem _ later), quiet⟩

/-- What holds of ticks of some tasks holds of ticks of fewer tasks. -/
theorem among {fewer : List String} (calm : Untroubled perform name runner listed s)
    (inside : ∀ taskId ∈ fewer, taskId ∈ listed) : Untroubled perform name runner fewer s :=
  fun log after ticks mine => calm log after ticks fun entry here => inside _ (mine entry here)

theorem unstopped (calm : Untroubled perform name runner listed s) : s.stopped.lookup name = none :=
  (calm [] s (.none s) nofun).2

theorem alone (calm : Untroubled perform name runner listed s) (mine : taskId ∈ listed) (n : Nat) :
    Untroubled perform name runner listed (alone perform runner taskId n s) := by
  induction n with
  | zero => exact calm
  | succ n ih =>
      obtain ⟨-, -, later⟩ := ih.next mine
      exact later

end Untroubled

/-- Tasks that a runner may work on one after the other: the shop is in order, each of them is free, and its
callables answer by what they are shown. -/
structure Workable (perform : Request → StateM Shop Unit) (runner : Runner) (listed : List String)
    (s : Shop) : Prop where
  orderly : s.Orderly
  unused : s.tables.Unused s.eventCount
  clear : ∀ taskId ∈ listed, (pickUp runner taskId).Clear perform s

/-- A shop that other tasks are worked on in as well: each listed task stands there as after its own number
of ticks alone, all of them made while it was queued or running, and the other tasks stand as they did. -/
structure InPace (perform : Request → StateM Shop Unit) (runner : Runner) (listed : List String) (s : Shop)
    (count : String → Nat) (w : Shop) : Prop where
  orderly : w.Orderly
  graphs : w.graphs = s.graphs
  free : ∀ taskId ∈ listed, w.Free taskId runner.workerId
  stands : ∀ taskId ∈ listed, ∃ σ : Equiv.Perm String,
    Matched σ taskId (alone perform runner taskId (count taskId) s) w
  went : ∀ taskId ∈ listed, ∀ n < count taskId, (alone perform runner taskId n s).tables.Pending taskId
  others : ∀ taskId ∉ listed, Tables.Agree taskId s.tables w.tables

section Turns

variable {perform : Request → StateM Shop Unit} {name : String} {runner : Runner} {listed : List String}
  {s w : Shop} {count : String → Nat}

/-- At the start no tick is made; it makes no difference which loops are running. -/
theorem Workable.inPace (workable : Workable perform runner listed s) (loops : List String) :
    InPace perform runner listed s (fun _ => 0) { s with loops } where
  orderly :=
    have ⟨distinct, owned, runs, active, rows⟩ := workable.orderly
    ⟨distinct, owned, runs, active, rows⟩
  graphs := rfl
  free taskId inside := (workable.clear taskId inside).free
  stands taskId _ := ⟨Equiv.refl _, workable.orderly.alike_self (fun _ moved => absurd rfl moved) taskId, workable.unused,
    workable.unused⟩
  went _ _ n beyond := absurd beyond (Nat.not_lt_zero n)
  others _ _ := .refl

variable (aloof : Aloof perform) (workable : Workable perform runner listed s)

include aloof workable

/-- One tick more of one of the tasks, while it is queued or running. -/
theorem InPace.tick (pace : InPace perform runner listed s count w) {taskId : String} (mine : taskId ∈ listed)
    (pending : w.tables.Pending taskId) {report report' : TickReport}
    (ticked : (Shop.tick perform runner taskId none).run w = (.ok report, (pickUp runner taskId).done perform w))
    (ticked' : (Shop.tick perform runner taskId none).run (alone perform runner taskId (count taskId) s) =
      (.ok report', alone perform runner taskId (count taskId + 1) s)) :
    InPace perform runner listed s (Function.update count taskId (count taskId + 1))
      ((pickUp runner taskId).done perform w) := by
  have reached := Errand.done_reached aloof pace.orderly (pickUp runner taskId)
  have apart : ∀ other, other ≠ taskId →
      Tables.Agree other w.tables ((pickUp runner taskId).done perform w).tables := fun other =>
    .of_apartFrom (reached_apart reached pace.orderly).symm
  obtain ⟨σ, stands⟩ := pace.stands taskId mine
  obtain ⟨orderly, graphs, clear⟩ := alone_clear aloof workable.orderly (workable.clear taskId mine)
    (count taskId)
  obtain ⟨τ, matched, renames⟩ := stands.next_named orderly pace.orderly
  have free := pace.free taskId mine
  have pending' := matched.alike.pending.mpr pending
  have ends := (tick_of_pending runner pending free ticked).1
  have ends' := (tick_of_pending runner pending' clear.free ticked').1
  -- Alone and in company the tick does the same.
  have after : Matched τ taskId (alone perform runner taskId (count taskId + 1) s)
      ((pickUp runner taskId).done perform w) := by
    exact tick_matched_of_unlost aloof τ.injective runner none matched orderly pace.orderly
      (graphs.trans pace.graphs.symm) clear.steady clear.free free (fun _ _ => renames) (ends'.trans ends.symm)
      (fun _ => .of_ok (congrArg Prod.fst ticked')) (fun _ => .of_ok (congrArg Prod.fst ticked))
  refine ⟨reached_orderly pace.orderly reached, (reached_graphs reached).trans pace.graphs, ?_, ?_, ?_, ?_⟩
  · intro other inside
    by_cases same : other = taskId
    · subst same
      exact free.ticked aloof runner none
    · exact (pace.free other inside).later (apart other same).task.symm (reached_later reached)
  · intro other inside
    by_cases same : other = taskId
    · subst same
      rw [Function.update_self]
      exact ⟨τ, after⟩
    · rw [Function.update_of_ne same]
      obtain ⟨ρ, still⟩ := pace.stands other inside
      exact ⟨ρ, still.alike.over .refl (apart other same), still.unused, after.unused'⟩
  · intro other inside n made
    by_cases same : other = taskId
    · subst same
      rw [Function.update_self] at made
      rcases Nat.lt_succ_iff_lt_or_eq.mp made with before | rfl
      · exact pace.went other inside n before
      · exact pending'
    · rw [Function.update_of_ne same] at made
      exact pace.went other inside n made
  · intro other outside
    exact (pace.others other outside).trans (apart other fun same => outside (same ▸ mine))

/-- Ticks of some of the tasks, each once and while it is queued or running: each makes one tick more, and
its report tells of it. -/
theorem InPace.ticks (calm' : Untroubled perform name runner listed s)
    {log : List (String × Except Fault TickReport)} {after : Shop} (made : Ticks perform runner w log after)
    (calm : Untroubled perform name runner listed w) (pace : InPace perform runner listed s count w)
    (once : (log.map Prod.fst).Nodup)
    (due : ∀ entry ∈ log, entry.1 ∈ listed ∧ w.tables.Pending entry.1) :
    Untroubled perform name runner listed after ∧
      InPace perform runner listed s (fun taskId => count taskId + (log.map Prod.fst).count taskId) after ∧
      ∀ entry ∈ log, ∃ report, entry.2 = .ok report ∧ report.skipped = false ∧ report.ending.isSome = true := by
  induction made generalizing count with
  | none => exact ⟨calm, pace, nofun⟩
  | @next w middle after taskId result log ticked later ih =>
      obtain ⟨mine, pending⟩ := due _ List.mem_cons_self
      obtain ⟨report, came, calmer⟩ := calm.next mine
      obtain ⟨report', came', -⟩ := (calm'.alone mine (count taskId)).next mine
      obtain ⟨rfl, rfl⟩ := Prod.mk.inj (came.symm.trans ticked)
      obtain ⟨-, told⟩ := tick_of_pending runner pending (pace.free taskId mine) came
      have paced := pace.tick aloof workable mine pending came came'
      obtain ⟨new, apart⟩ := List.nodup_cons.mp once
      have reached := Errand.done_reached aloof pace.orderly (pickUp runner taskId)
      obtain ⟨calmest, pace', told'⟩ := ih calmer paced apart fun entry inside => by
        obtain ⟨listed', pending'⟩ := due entry (List.mem_cons_of_mem _ inside)
        have named : entry.1 ∈ log.map Prod.fst := List.mem_map_of_mem inside
        have other : entry.1 ≠ taskId := fun same => new (same ▸ named)
        have agree := Tables.Agree.of_apartFrom (reached_apart reached pace.orderly).symm other
        exact ⟨listed', agree.pending.mp pending'⟩
      refine ⟨calmest, ?_, ?_⟩
      · convert pace' using 2 with other
        by_cases same : other = taskId
        · subst same
          simp only [List.map_cons, List.count_cons_self, Function.update_self]
          omega
        · simp [Function.update_of_ne same, Ne.symm same]
      · intro entry inside
        rcases List.mem_cons.mp inside with rfl | later'
        · exact ⟨report, rfl, told⟩
        · exact told' entry later'

end Turns

end Shop

end Tickwork
