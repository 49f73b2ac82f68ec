import Mathlib.Data.List.Induction
import Tickwork.Tables.Basic

/-!
# One holder at a time

A lease is claimed, extended and given back, and progress is written under it, by any number of workers
in any order. Each call has a condition of its own on the row of the task. `Served` is a run of such
calls under a clock that does not go back; `LeaseStep` says all that one call may do to the lease. Main
statement: while a claim lasts, no call of another worker lands, every write that lands is the last
taker's, and a worker whose lease was taken over stays locked out until it takes the task again.
-/

set_option autoImplicit false

namespace Tickwork

/-! ## Calls -/

/-- A call on the lease of a task, or a write of the task under its lease. -/
inductive LeaseCall where
  | acquire (owner : String) (span : Instant.Seconds)
  | renew (owner : String) (span : Instant.Seconds)
  | release (owner : String)
  | checkpoint (owner : String) (columns : Columns)
  | record (owner : String) (row : Transition) (missing : Option String) (columns : Columns)
  deriving DecidableEq

/-- What a call comes to. A release says nothing. -/
inductive LeaseAnswer where
  | raised (fault : Fault)
  | refused
  | landed
  | silent
  deriving DecidableEq

namespace LeaseCall

def owner : LeaseCall → String
  | .acquire owner _ | .renew owner _ | .release owner => owner
  | .checkpoint owner _ | .record owner _ _ _ => owner

def isWrite : LeaseCall → Bool
  | .checkpoint _ _ | .record _ _ _ _ => true
  | _ => false

def isAcquire : LeaseCall → Bool
  | .acquire _ _ => true
  | _ => false

def span? : LeaseCall → Option Instant.Seconds
  | .acquire _ span | .renew _ span => some span
  | _ => none

def faultOf {α : Type} : Except Fault α → Option Fault
  | .ok _ => none
  | .error fault => some fault

/-- What a call raises before it looks at the task: the end of its claim or the progress to be written
cannot be kept. -/
def obstacle (now : Instant) : LeaseCall → Option Fault
  | .acquire _ span | .renew _ span => faultOf (Tables.expiry now span)
  | .release _ => none
  | .checkpoint _ columns | .record _ _ _ columns => faultOf columns.stored

/-- What a call comes to whose condition is not met. -/
def turnedAway (now : Instant) (call : LeaseCall) : LeaseAnswer :=
  match call.obstacle now with
  | some fault => .raised fault
  | none =>
    match call with
    | .release _ => .silent
    | _ => .refused

/-- The condition of a call on the row of its task. -/
def admits (now : Instant) (row : TaskRow) : LeaseCall → Bool
  | .acquire owner _ => Tables.isFree now owner row
  | call => Tables.heldBy (some call.owner) row

end LeaseCall

namespace Tables

def lease? (t : Tables) (taskId : String) : Option Lease :=
  (t.task? taskId).bind TaskRow.lease

/-- What an operation comes to that may fail or not land. -/
def settle (t : Tables) : Except Fault (Option Tables) → LeaseAnswer × Tables
  | .error fault => (.raised fault, t)
  | .ok none => (.refused, t)
  | .ok (some after) => (.landed, after)

/-- Answers a call at an instant. -/
def serve (t : Tables) (taskId : String) (now : Instant) : LeaseCall → LeaseAnswer × Tables
  | .acquire owner span => t.settle (t.acquire now taskId owner span)
  | .renew owner span => t.settle (t.renew now taskId owner span)
  | .release owner => (.silent, t.release taskId owner)
  | .checkpoint owner columns => t.settle (t.checkpoint now taskId columns (some owner))
  | .record owner row missing columns =>
    t.settle (t.record now row missing taskId columns (some owner))

end Tables

/-- A call that was answered. -/
structure Served where
  now : Instant
  call : LeaseCall
  answer : LeaseAnswer

/-- The calls on one task from some tables on, oldest first, and the tables they lead to. The clock does
not go back. -/
inductive Calls (start : Tables) (taskId : String) : List Served → Tables → Prop
  | empty : Calls start taskId [] start
  | next {served : List Served} {t : Tables} (earlier : Calls start taskId served t) (now : Instant)
      (call : LeaseCall) (later : ∀ s ∈ served, s.now ≤ now) :
      Calls start taskId (served ++ [⟨now, call, (t.serve taskId now call).1⟩])
        (t.serve taskId now call).2

/-! ## What one call may do -/

namespace Tables

theorem task?_setTask {t : Tables} {taskId : String} {row changed : TaskRow}
    (found : t.task? taskId = some row) (same : changed.taskId = taskId) :
    (t.setTask changed).task? taskId = some changed := by
  unfold task? at found
  unfold task? setTask
  simp only [same]
  generalize t.tasks = rows at found
  induction rows with
  | nil => cases found
  | cons head rest ih =>
      rw [List.map_cons, List.find?_cons]
      rw [List.find?_cons] at found
      by_cases hit : head.taskId = taskId
      · simp [hit, same]
      · have miss : (head.taskId == taskId) = false := by simpa using hit
        rw [miss] at found
        rw [if_neg hit, miss]
        exact ih found

theorem taskId_of_task? {t : Tables} {taskId : String} {row : TaskRow}
    (found : t.task? taskId = some row) : row.taskId = taskId := by
  have hit := List.find?_some found
  simpa using hit

theorem updateIf_of_met {t : Tables} {taskId : String} {condition : TaskRow → Bool}
    {change : TaskRow → TaskRow} {row : TaskRow} (found : t.task? taskId = some row)
    (met : condition row = true) :
    t.updateIf taskId condition change = some (t.setTask (change row)) := by
  simp [updateIf, found, met]

theorem updateIf_of_unmet {t : Tables} {taskId : String} {condition : TaskRow → Bool}
    {change : TaskRow → TaskRow}
    (unmet : ∀ row, t.task? taskId = some row → condition row = false) :
    t.updateIf taskId condition change = none := by
  unfold updateIf
  cases found : t.task? taskId with
  | none => rfl
  | some row => simp [unmet row found]

theorem lease?_setTask {t : Tables} {taskId : String} {row changed : TaskRow}
    (found : t.task? taskId = some row) (same : changed.taskId = row.taskId) :
    (t.setTask changed).lease? taskId = changed.lease := by
  have same' := same.trans (taskId_of_task? found)
  simp [lease?, task?_setTask found same']


theorem serve_of_unmet {t : Tables} {taskId : String} {now : Instant} {call : LeaseCall}
    (unmet : ∀ row, t.task? taskId = some row → call.admits now row = false) :
    t.serve taskId now call = (call.turnedAway now, t) := by
  cases call with
  | acquire owner span =>
      have refused : ∀ change, t.updateIf taskId (isFree now owner) change = none :=
        fun _ => updateIf_of_unmet unmet
      simp only [serve, acquire, LeaseCall.turnedAway, LeaseCall.obstacle]
      cases expiry now span with
      | error fault => rfl
      | ok ending =>
          simp only [bind, Except.bind, refused]
          rfl
  | renew owner span =>
      have refused : ∀ change, t.updateIf taskId (heldBy (some owner)) change = none :=
        fun _ => updateIf_of_unmet unmet
      simp only [serve, renew, LeaseCall.turnedAway, LeaseCall.obstacle]
      cases expiry now span with
      | error fault => rfl
      | ok ending =>
          simp only [bind, Except.bind, refused]
          rfl
  | release owner =>
      have refused : ∀ change, t.updateIf taskId (heldBy (some owner)) change = none :=
        fun _ => updateIf_of_unmet unmet
      simp only [serve, release, refused]
      rfl
  | checkpoint owner columns =>
      have refused : ∀ change, t.updateIf taskId (heldBy (some owner)) change = none :=
        fun _ => updateIf_of_unmet unmet
      simp only [serve, checkpoint, LeaseCall.turnedAway, LeaseCall.obstacle]
      cases columns.stored with
      | error fault => rfl
      | ok columns =>
          simp only [bind, Except.bind, refused]
          rfl
  | record owner row missing columns =>
      have refused : ∀ change, t.updateIf taskId (heldBy (some owner)) change = none :=
        fun _ => updateIf_of_unmet unmet
      simp only [serve, record, checkpoint, LeaseCall.turnedAway, LeaseCall.obstacle]
      cases columns.stored with
      | error fault => rfl
      | ok columns =>
          simp only [bind, Except.bind, refused]
          rfl

end Tables

/-- All that a call may do to the lease of its task: nothing, or what its condition allows. -/
inductive LeaseStep (now : Instant) (before : Option Lease) :
    LeaseCall → LeaseAnswer → Option Lease → Prop
  | still {call : LeaseCall} {answer : LeaseAnswer} (failed : answer ≠ .landed) :
      LeaseStep now before call answer before
  | taken {owner : String} {span : Instant.Seconds} {ending : Instant}
      (free : ∀ lease, before = some lease → lease.owner = owner ∨ lease.expiresAt < now)
      (ends : Tables.expiry now span = .ok ending) :
      LeaseStep now before (.acquire owner span) .landed (some ⟨owner, ending⟩)
  | kept {lease : Lease} {span : Instant.Seconds} {ending : Instant}
      (held : before = some lease) (ends : Tables.expiry now span = .ok ending) :
      LeaseStep now before (.renew lease.owner span) .landed (some ⟨lease.owner, ending⟩)
  | givenBack {lease : Lease} (held : before = some lease) :
      LeaseStep now before (.release lease.owner) .silent none
  | written {lease : Lease} {call : LeaseCall} (held : before = some lease)
      (write : call.isWrite = true) (caller : call.owner = lease.owner) :
      LeaseStep now before call .landed before

namespace Tables

theorem lease?_of_task? {t : Tables} {taskId : String} {row : TaskRow}
    (found : t.task? taskId = some row) : t.lease? taskId = row.lease := by
  simp [lease?, found]

theorem heldBy_some {owner : String} {row : TaskRow} (held : heldBy (some owner) row = true) :
    ∃ lease, row.lease = some lease ∧ lease.owner = owner := by
  unfold heldBy at held
  cases found : row.lease with
  | none => simp [found] at held
  | some lease => exact ⟨lease, rfl, by simpa [found] using held⟩

theorem isFree_cases {now : Instant} {owner : String} {row : TaskRow}
    (free : isFree now owner row = true) (lease : Lease) (found : row.lease = some lease) :
    lease.owner = owner ∨ lease.expiresAt < now := by
  simpa [isFree, found] using free

theorem lease?_addRow {t after : Tables} {row : Transition} {missing : Option String}
    (added : t.addRow row missing = .ok after) (taskId : String) :
    after.lease? taskId = t.lease? taskId := by
  unfold addRow at added
  repeat' split at added
  all_goals cases added
  rfl

theorem leaseStep_of_met {t : Tables} {taskId : String} {now : Instant} {call : LeaseCall}
    {row : TaskRow} (found : t.task? taskId = some row) (met : call.admits now row = true) :
    LeaseStep now (t.lease? taskId) call (t.serve taskId now call).1
      ((t.serve taskId now call).2.lease? taskId) := by
  have lease := lease?_of_task? found
  cases call with
  | acquire owner span =>
      have lands : ∀ change, t.updateIf taskId (isFree now owner) change =
          some (t.setTask (change row)) := fun _ => updateIf_of_met found met
      simp only [serve, acquire]
      cases ends : expiry now span with
      | error fault => exact .still nofun
      | ok ending =>
          simp only [bind, Except.bind, lands, settle]
          rw [lease?_setTask found]
          · refine .taken ?_ ends
            intro held before
            exact isFree_cases met held (lease ▸ before)
          · rfl
  | renew owner span =>
      have lands : ∀ change, t.updateIf taskId (heldBy (some owner)) change =
          some (t.setTask (change row)) := fun _ => updateIf_of_met found met
      obtain ⟨held, atRow, rfl⟩ := heldBy_some met
      simp only [serve, renew]
      cases ends : expiry now span with
      | error fault => exact .still nofun
      | ok ending =>
          simp only [bind, Except.bind, lands, settle]
          rw [lease?_setTask found]
          · exact .kept (lease.trans atRow) ends
          · rfl
  | release owner =>
      have lands : ∀ change, t.updateIf taskId (heldBy (some owner)) change =
          some (t.setTask (change row)) := fun _ => updateIf_of_met found met
      obtain ⟨held, atRow, rfl⟩ := heldBy_some met
      simp only [serve, release, lands, Option.getD_some]
      rw [lease?_setTask found]
      · exact .givenBack (lease.trans atRow)
      · rfl
  | checkpoint owner columns =>
      have lands : ∀ change, t.updateIf taskId (heldBy (some owner)) change =
          some (t.setTask (change row)) := fun _ => updateIf_of_met found met
      obtain ⟨held, atRow, rfl⟩ := heldBy_some met
      simp only [serve, checkpoint]
      cases columns.stored with
      | error fault => exact .still nofun
      | ok columns =>
          simp only [bind, Except.bind, lands, settle]
          rw [lease?_setTask found]
          · have same : row.lease = t.lease? taskId := lease.symm
            simp only [same]
            exact .written (lease.trans atRow) rfl rfl
          · rfl
  | record owner entry missing columns =>
      have lands : ∀ change, t.updateIf taskId (heldBy (some owner)) change =
          some (t.setTask (change row)) := fun _ => updateIf_of_met found met
      obtain ⟨held, atRow, rfl⟩ := heldBy_some met
      simp only [serve, record, checkpoint]
      cases columns.stored with
      | error fault => exact .still nofun
      | ok columns =>
          simp only [bind, Except.bind, lands]
          cases added : Tables.addRow _ entry missing with
          | error fault => exact .still nofun
          | ok after =>
              simp only [settle]
              rw [lease?_addRow added taskId, lease?_setTask found]
              · have same : row.lease = t.lease? taskId := lease.symm
                simp only [same]
                exact .written (lease.trans atRow) rfl rfl
              · rfl

theorem turnedAway_ne_landed (now : Instant) (call : LeaseCall) :
    call.turnedAway now ≠ .landed := by
  unfold LeaseCall.turnedAway
  repeat' split
  all_goals exact nofun

/-- Every call does to the lease what `LeaseStep` says. -/
theorem leaseStep (t : Tables) (taskId : String) (now : Instant) (call : LeaseCall) :
    LeaseStep now (t.lease? taskId) call (t.serve taskId now call).1
      ((t.serve taskId now call).2.lease? taskId) := by
  cases found : t.task? taskId with
  | none =>
      rw [serve_of_unmet (by simp [found])]
      exact .still (turnedAway_ne_landed now call)
  | some row =>
      cases met : call.admits now row with
      | true => exact leaseStep_of_met found met
      | false =>
          rw [serve_of_unmet (by simp [found, met])]
          exact .still (turnedAway_ne_landed now call)

end Tables

/-! ## What a run of calls keeps -/

namespace Served

def takes (s : Served) : Prop :=
  s.call.isAcquire = true ∧ s.answer = .landed

instance (s : Served) : Decidable s.takes :=
  inferInstanceAs (Decidable (_ ∧ _))

/-- Whether the call claimed the task until an instant, by taking or by extending its lease. -/
def claimsUntil (s : Served) (ending : Instant) : Prop :=
  ∃ span, s.call.span? = some span ∧ Tables.expiry s.now span = .ok ending ∧ s.answer = .landed

/-- Whether a worker gave the lease back, or claimed the task anew. -/
def settlesFor (owner : String) (s : Served) : Prop :=
  s.call.owner = owner ∧ (s.call = .release owner ∨ ∃ ending, s.claimsUntil ending)

end Served

/-- The worker that was the last one to take the lease. -/
def lastTaker (served : List Served) : Option String :=
  ((served.filter fun s => decide s.takes).getLast?).map fun s => s.call.owner

theorem lastTaker_append (served : List Served) (s : Served) :
    lastTaker (served ++ [s]) = if s.takes then some s.call.owner else lastTaker served := by
  unfold lastTaker
  rw [List.filter_append]
  by_cases takes : s.takes
  · simp [takes]
  · simp [takes]

namespace Calls

variable {start t : Tables} {taskId : String}

/-- The last call of a run was made on the tables that the calls before it led to. -/
theorem last {served : List Served} {s : Served}
    (calls : Calls start taskId (served ++ [s]) t) :
    ∃ before, Calls start taskId served before ∧ (∀ d ∈ served, d.now ≤ s.now) ∧
      s.answer = (before.serve taskId s.now s.call).1 ∧
      t = (before.serve taskId s.now s.call).2 := by
  generalize whole : served ++ [s] = all at calls
  cases calls with
  | empty => simp at whole
  | @next served' before earlier now call later =>
      obtain ⟨rfl, rfl⟩ := List.append_inj' whole rfl |>.imp_right List.singleton_inj.mp
      exact ⟨before, earlier, later, rfl, rfl⟩

/-- Whoever holds the lease is the last one who took it. -/
theorem holder_took {served : List Served} (free : start.lease? taskId = none)
    (calls : Calls start taskId served t) (lease : Lease)
    (held : t.lease? taskId = some lease) : lastTaker served = some lease.owner := by
  induction calls generalizing lease with
  | empty =>
      rw [free] at held
      cases held
  | @next served before earlier now call later ih =>
      rw [lastTaker_append]
      have step := Tables.leaseStep before taskId now call
      rw [held] at step
      generalize (before.serve taskId now call).1 = answer at step
      generalize atFirst : before.lease? taskId = first at step
      generalize afterwards : some lease = last at step
      cases step with
      | still failed =>
          rw [if_neg fun takes => failed takes.2]
          exact ih lease (atFirst.trans afterwards.symm)
      | taken _ _ =>
          cases afterwards
          exact if_pos ⟨rfl, rfl⟩
      | @kept old span ending found _ =>
          cases afterwards
          rw [if_neg fun takes => Bool.false_ne_true takes.1]
          exact ih old (atFirst.trans found)
      | givenBack _ => cases afterwards
      | @written old _ found write _ =>
          have untaken : ¬ call.isAcquire = true := by
            intro taking
            cases call <;> simp [LeaseCall.isWrite, LeaseCall.isAcquire] at write taking
          rw [if_neg fun takes => untaken takes.1]
          exact ih lease (atFirst.trans afterwards.symm)

/-- A claim stands until it ends or its worker settles the lease. -/
theorem claim_lasts {first between : List Served} {claim : Served} {ending : Instant}
    (calls : Calls start taskId (first ++ claim :: between) t)
    (claims : claim.claimsUntil ending)
    (open' : ∀ s ∈ between, ¬ s.settlesFor claim.call.owner)
    (early : ∀ s ∈ between, s.now ≤ ending) :
    t.lease? taskId = some ⟨claim.call.owner, ending⟩ := by
  induction between using List.reverseRecOn generalizing t with
  | nil =>
      obtain ⟨before, -, -, answered, rfl⟩ := calls.last
      obtain ⟨span, spans, ends, landed⟩ := claims
      have step := Tables.leaseStep before taskId claim.now claim.call
      rw [← answered, landed] at step
      generalize claim.call = call at *
      generalize (before.serve taskId claim.now call).2.lease? taskId = after at step ⊢
      cases step with
      | still failed => exact absurd rfl failed
      | taken _ ends' =>
          cases spans
          cases ends.symm.trans ends'
          rfl
      | kept _ ends' =>
          cases spans
          cases ends.symm.trans ends'
          rfl
      | written _ write _ =>
          cases call <;> simp [LeaseCall.isWrite, LeaseCall.span?] at write spans
  | append_singleton between s ih =>
      have whole : first ++ claim :: (between ++ [s]) = (first ++ claim :: between) ++ [s] := by
        simp
      rw [whole] at calls
      obtain ⟨before, earlier, -, answered, rfl⟩ := calls.last
      have held := ih earlier (fun d inside => open' d (List.mem_append_left _ inside))
        (fun d inside => early d (List.mem_append_left _ inside))
      have notSettled := open' s (by simp)
      have inTime := early s (by simp)
      have step := Tables.leaseStep before taskId s.now s.call
      rw [← answered, held] at step
      obtain ⟨now, call, answer⟩ := s
      generalize (before.serve taskId now call).2.lease? taskId = after at step ⊢
      cases step with
      | still failed => rfl
      | written _ _ _ => rfl
      | taken free ends =>
          rcases free _ rfl with same | isOver
          · exact absurd ⟨same.symm, .inr ⟨_, _, rfl, ends, rfl⟩⟩ notSettled
          · exact absurd inTime (Int.not_le.mpr isOver)
      | kept found ends =>
          cases found
          exact absurd ⟨rfl, .inr ⟨_, _, rfl, ends, rfl⟩⟩ notSettled
      | givenBack found =>
          cases found
          exact absurd ⟨rfl, .inl rfl⟩ notSettled

/-- A worker stays without the lease from when another one took it until it takes the lease itself. -/
theorem locked_out {first between : List Served} {taking : Served} {owner : String}
    (calls : Calls start taskId (first ++ taking :: between) t) (takes : taking.takes)
    (other : taking.call.owner ≠ owner)
    (idle : ∀ s ∈ between, s.takes → s.call.owner ≠ owner) (lease : Lease)
    (held : t.lease? taskId = some lease) : lease.owner ≠ owner := by
  induction between using List.reverseRecOn generalizing t lease with
  | nil =>
      obtain ⟨before, -, -, answered, rfl⟩ := calls.last
      have step := Tables.leaseStep before taskId taking.now taking.call
      rw [← answered, takes.2, held] at step
      have acquires := takes.1
      generalize taking.call = call at *
      generalize afterwards : some lease = last at step
      cases step with
      | still failed => exact absurd rfl failed
      | taken _ _ =>
          cases afterwards
          exact other
      | kept _ _ => cases acquires
      | written _ write _ =>
          cases call <;> simp [LeaseCall.isWrite, LeaseCall.isAcquire] at write acquires
  | append_singleton between s ih =>
      have whole : first ++ taking :: (between ++ [s]) = (first ++ taking :: between) ++ [s] := by
        simp
      rw [whole] at calls
      obtain ⟨before, earlier, -, answered, rfl⟩ := calls.last
      have still := ih earlier (fun d inside => idle d (List.mem_append_left _ inside))
      have untaken := idle s (by simp)
      have step := Tables.leaseStep before taskId s.now s.call
      rw [← answered, held] at step
      obtain ⟨now, call, answer⟩ := s
      generalize atFirst : before.lease? taskId = was at step
      generalize afterwards : some lease = last at step
      cases step with
      | still failed => exact still lease (atFirst.trans afterwards.symm)
      | written _ _ _ => exact still lease (atFirst.trans afterwards.symm)
      | taken _ _ =>
          cases afterwards
          exact untaken ⟨rfl, rfl⟩
      | @kept old _ _ found _ =>
          cases afterwards
          exact still old (atFirst.trans found)
      | givenBack _ => cases afterwards

end Calls

namespace Tables

/-- While another worker's claim lasts, no call is admitted. -/
theorem admits_of_claimed {t : Tables} {taskId : String} {now : Instant} {call : LeaseCall}
    {lease : Lease} (held : t.lease? taskId = some lease) (other : call.owner ≠ lease.owner)
    (inTime : now ≤ lease.expiresAt) (row : TaskRow) (found : t.task? taskId = some row) :
    call.admits now row = false := by
  rw [lease?_of_task? found] at held
  have differs : ¬ lease.owner = call.owner := fun same => other same.symm
  have lasts : ¬ lease.expiresAt < now := Int.not_lt.mpr inTime
  cases call <;> simpa [LeaseCall.admits, LeaseCall.owner, isFree, heldBy, held, lasts] using differs

/-- Without the lease, a worker's call is not admitted unless it takes the lease. -/
theorem admits_of_locked_out {t : Tables} {taskId : String} {now : Instant} {call : LeaseCall}
    (without : ∀ lease, t.lease? taskId = some lease → lease.owner ≠ call.owner)
    (later : call.isAcquire = false) (row : TaskRow) (found : t.task? taskId = some row) :
    call.admits now row = false := by
  have held : heldBy (some call.owner) row = false := by
    by_contra admitted
    obtain ⟨lease, atRow, same⟩ := heldBy_some (Bool.not_eq_false _ ▸ admitted)
    exact without lease ((lease?_of_task? found).trans atRow) same
  cases call with
  | acquire owner span => cases later
  | renew owner span => exact held
  | release owner => exact held
  | checkpoint owner columns => exact held
  | record owner entry missing columns => exact held

/-- A write under the lease that lands is made by its holder. -/
theorem holder_of_landed {t : Tables} {taskId : String} {now : Instant} {call : LeaseCall}
    (write : call.isWrite = true) (landed : (t.serve taskId now call).1 = .landed) :
    ∃ lease, t.lease? taskId = some lease ∧ call.owner = lease.owner := by
  have step := leaseStep t taskId now call
  rw [landed] at step
  generalize t.lease? taskId = before at step ⊢
  generalize (t.serve taskId now call).2.lease? taskId = after at step
  cases step with
  | still failed => exact absurd rfl failed
  | taken _ _ => cases write
  | kept _ _ => cases write
  | written held _ caller => exact ⟨_, held, caller⟩

end Tables

/-! ## One holder -/

/-- Calls on one task that nobody holds at first, and one call more. While a claim lasts, the call of
another worker is turned away and changes nothing; a write that lands is the last taker's; and a worker
from whom the lease was taken is turned away until it takes the lease again. -/
theorem one_holder {start t : Tables} {taskId : String} {served : List Served}
    (free : start.lease? taskId = none) (calls : Calls start taskId served t) (now : Instant)
    (call : LeaseCall) (later : ∀ s ∈ served, s.now ≤ now) :
    (∀ (first between : List Served) (claim : Served) (ending : Instant),
      served = first ++ claim :: between → claim.claimsUntil ending →
      (∀ s ∈ between, ¬ s.settlesFor claim.call.owner) → now ≤ ending →
      call.owner ≠ claim.call.owner →
        t.serve taskId now call = (call.turnedAway now, t)) ∧
    (call.isWrite = true → (t.serve taskId now call).1 = .landed →
      lastTaker served = some call.owner) ∧
    (∀ (first between : List Served) (taking : Served),
      served = first ++ taking :: between → taking.takes → taking.call.owner ≠ call.owner →
      (∀ s ∈ between, s.takes → s.call.owner ≠ call.owner) → call.isAcquire = false →
        t.serve taskId now call = (call.turnedAway now, t)) := by
  refine ⟨?_, ?_, ?_⟩
  · rintro first between claim ending rfl claims unsettled inTime other
    have early : ∀ s ∈ between, s.now ≤ ending := by
      intro s inside
      exact Int.le_trans (later s (by simp [inside])) inTime
    have held := calls.claim_lasts claims unsettled early
    exact Tables.serve_of_unmet (Tables.admits_of_claimed held other inTime)
  · intro write landed
    obtain ⟨lease, held, caller⟩ := Tables.holder_of_landed write landed
    rw [caller]
    exact calls.holder_took free lease held
  · rintro first between taking rfl takes other idle notTaking
    have without := calls.locked_out takes other idle
    exact Tables.serve_of_unmet (Tables.admits_of_locked_out without notTaking)

/-- Tables with one task that nobody holds. -/
def oneTask : Tables where
  tasks :=
    [{ taskId := "t1", workflowId := "demo", externalId := none, title := none, prompt := none,
       contextText := none, columns := .fresh (.dict []), activeRunId := none, lease := none,
       createdAt := ⟨0⟩, updatedAt := ⟨0⟩ }]
  runs := []
  rows := []

/-- A second after the start of the clock one worker takes the task for a minute. -/
def firstClaim : Served := ⟨⟨1000000⟩, .acquire "a" (.whole 60), .landed⟩

/-- The tables after that claim. -/
def claimedTask : Tables := (oneTask.serve "t1" ⟨1000000⟩ (.acquire "a" (.whole 60))).2

theorem calls_firstClaim : Calls oneTask "t1" [firstClaim] claimedTask :=
  .next .empty ⟨1000000⟩ (.acquire "a" (.whole 60)) (by simp)

theorem firstClaim_claimsUntil : firstClaim.claimsUntil ⟨61000000⟩ :=
  ⟨.whole 60, rfl, by decide, rfl⟩

/-- At the last instant of a claim another worker is still turned away; the holder's write lands. -/
theorem one_holder_at_last_instant :
    claimedTask.serve "t1" ⟨61000000⟩ (.acquire "b" (.whole 60)) = (.refused, claimedTask) ∧
      (claimedTask.serve "t1" ⟨61000000⟩ (.checkpoint "a" (.fresh (.dict [])))).1 = .landed ∧
      lastTaker [firstClaim] = some "a" := by
  have turned := (one_holder (by decide) calls_firstClaim ⟨61000000⟩ (.acquire "b" (.whole 60))
    (by decide)).1 [] [] firstClaim ⟨61000000⟩ rfl firstClaim_claimsUntil (by simp)
    (by decide) (by decide)
  have landed : (claimedTask.serve "t1" ⟨61000000⟩
      (.checkpoint "a" (.fresh (.dict [])))).1 = .landed := by decide
  have taker := (one_holder (by decide) calls_firstClaim ⟨61000000⟩
    (.checkpoint "a" (.fresh (.dict []))) (by decide)).2.1 rfl landed
  exact ⟨turned, landed, taker⟩

/-- Not every claim by another worker is refused: one until an instant beyond the calendar raises. -/
theorem claim_of_other_may_raise :
    Calls oneTask "t1" [firstClaim] claimedTask ∧ firstClaim.claimsUntil ⟨61000000⟩ ∧
      ¬ ∀ (now : Instant) (call : LeaseCall), firstClaim.now ≤ now → now ≤ ⟨61000000⟩ →
        call.owner ≠ firstClaim.call.owner → call.isAcquire = true →
          (claimedTask.serve "t1" now call).1 = .refused := by
  refine ⟨calls_firstClaim, firstClaim_claimsUntil, ?_⟩
  intro refused
  have answer := refused ⟨2000000⟩ (.acquire "b" (.whole 1000000000000)) (by decide) (by decide)
    (by decide) rfl
  cases answer

end Tickwork
