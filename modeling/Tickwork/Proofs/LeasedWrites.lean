import Tickwork.Proofs.Leases
import Tickwork.Proofs.Returns
import Tickwork.Shop.Runner

/-!
# Writes under a lease

What a write of a strict runner comes to. It lands only where the runner holds the lease of its task;
otherwise it changes nothing, and the tick fails: the lease is lost, or the end of the claim is not in the
calendar any more.
-/

set_option autoImplicit false

namespace Tickwork

namespace Shop

theorem run_attempt (write : Tables → Instant → Except Fault (Option Tables)) (s : Shop) :
    (attempt write).run s =
      match write s.tables s.now with
      | .error fault => (.error fault, s)
      | .ok none => (.ok false, s)
      | .ok (some t) => (.ok true, { s with tables := t }) := by
  unfold attempt
  rw [Work.run_bind_get]
  cases written : write s.tables s.now with
  | error fault => rfl
  | ok landed => cases landed <;> rfl

/-- What a write under a lease comes to. -/
theorem run_leasedWrite (taskId owner : String) (span : Instant.Seconds)
    (write : Tables → Instant → Except Fault (Option Tables)) (s : Shop) :
    (leasedWrite taskId (some owner) span write).run s =
      match s.tables.renew s.now taskId owner span with
      | .error fault => (.error fault, s)
      | .ok none => (.error (.leaseLost taskId owner), s)
      | .ok (some t) =>
        match write t s.now with
        | .error fault => (.error fault, { s with tables := t })
        | .ok none => (.error (.leaseLost taskId owner), { s with tables := t })
        | .ok (some t') => (.ok (), { s with tables := t' }) := by
  unfold leasedWrite
  simp only
  have renewed := run_attempt (fun t now => t.renew now taskId owner span) s
  cases kept : s.tables.renew s.now taskId owner span with
  | error fault =>
      simp only [kept] at renewed
      rw [Work.run_bind_of_error renewed]
  | ok landed =>
      cases landed with
      | none =>
          simp only [kept] at renewed
          rw [Work.run_bind_of_ok renewed]
          rfl
      | some t =>
          simp only [kept] at renewed
          rw [Work.run_bind_of_ok renewed]
          have written := run_attempt write { s with tables := t }
          simp only [Bool.not_true, Bool.false_eq_true, if_false]
          cases put : write t s.now with
          | error fault =>
              simp only [put] at written
              rw [Work.run_bind_of_error written]
          | ok landed =>
              simp only [put] at written
              cases landed with
              | none =>
                  rw [Work.run_bind_of_ok written]
                  rfl
              | some t' =>
                  rw [Work.run_bind_of_ok written]
                  rfl

/-- What a write without a lease comes to. -/
theorem run_leasedWrite_free (taskId : String) (span : Instant.Seconds)
    (write : Tables → Instant → Except Fault (Option Tables)) (s : Shop) :
    (leasedWrite taskId none span write).run s =
      match write s.tables s.now with
      | .error fault => (.error fault, s)
      | .ok none => (.error (.leaseLost taskId (shownOption none)), s)
      | .ok (some t) => (.ok (), { s with tables := t }) := by
  unfold leasedWrite
  simp only
  show ((attempt write >>= _).run s) = _
  have written := run_attempt write s
  cases made : write s.tables s.now with
  | error fault =>
      rw [made] at written
      rw [Work.run_bind_of_error written]
  | ok landed =>
      cases landed with
      | none =>
          rw [made] at written
          rw [Work.run_bind_of_ok written]
          rfl
      | some t =>
          rw [made] at written
          rw [Work.run_bind_of_ok written]
          rfl

/-- A write that succeeds is made in the tables as they are, or in those in which the lease was renewed, and
changes nothing but the tables. -/
theorem leasedWrite_lands {taskId : String} {owner : Option String} {span : Instant.Seconds}
    {write : Tables → Instant → Except Fault (Option Tables)} {s after : Shop}
    (landed : (leasedWrite taskId owner span write).run s = (.ok (), after)) :
    ∃ t, (t = s.tables ∨ ∃ owner, s.tables.renew s.now taskId owner span = .ok (some t)) ∧
      write t s.now = .ok (some after.tables) ∧ after = { s with tables := after.tables } := by
  cases owner with
  | none =>
      rw [run_leasedWrite_free] at landed
      refine ⟨s.tables, .inl rfl, ?_⟩
      cases put : write s.tables s.now with
      | error fault =>
          rw [put] at landed
          cases landed
      | ok kept =>
          rw [put] at landed
          cases kept <;> cases landed
          exact ⟨rfl, rfl⟩
  | some owner =>
      rw [run_leasedWrite] at landed
      cases renewed : s.tables.renew s.now taskId owner span with
      | error fault =>
          rw [renewed] at landed
          cases landed
      | ok extended =>
          rw [renewed] at landed
          cases extended with
          | none => cases landed
          | some t =>
              refine ⟨t, .inr ⟨owner, renewed⟩, ?_⟩
              simp only at landed
              cases put : write t s.now with
              | error fault =>
                  rw [put] at landed
                  cases landed
              | ok kept =>
                  rw [put] at landed
                  cases kept <;> cases landed
                  exact ⟨rfl, rfl⟩

end Shop

/-! ## Who holds a task -/

namespace Tables

def holder? (t : Tables) (taskId : String) : Option String := (t.lease? taskId).map Lease.owner

theorem task?_setTask_other {t : Tables} {changed : TaskRow} {taskId : String}
    (other : changed.taskId ≠ taskId) : (t.setTask changed).task? taskId = t.task? taskId := by
  unfold task? setTask
  simp only
  generalize t.tasks = rows
  induction rows with
  | nil => rfl
  | cons head rest ih =>
      rw [List.map_cons, List.find?_cons, List.find?_cons, ih]
      by_cases hit : head.taskId = changed.taskId
      · have miss : (changed.taskId == taskId) = false := by simpa using other
        have miss' : (head.taskId == taskId) = false := hit ▸ miss
        rw [if_pos hit, miss, miss']
      · rw [if_neg hit]

theorem lease?_updateIf {t after : Tables} {taskId : String} {condition : TaskRow → Bool}
    {change : TaskRow → TaskRow} (lands : t.updateIf taskId condition change = some after)
    (same : ∀ row, (change row).taskId = row.taskId ∧ (change row).lease = row.lease) (id : String) :
    after.lease? id = t.lease? id := by
  unfold updateIf at lands
  cases found : t.task? taskId with
  | none =>
      rw [found] at lands
      cases lands
  | some row =>
      rw [found] at lands
      simp only at lands
      split at lands
      · cases lands
        have here := taskId_of_task? found
        by_cases own : taskId = id
        · subst own
          rw [lease?_setTask found (same row).1, (same row).2, lease?_of_task? found]
        · have other : (change row).taskId ≠ id := by
            rw [(same row).1, here]
            exact own
          simp only [lease?, task?_setTask_other other]
      · cases lands

theorem lease?_checkpoint {t after : Tables} {now : Instant} {taskId : String} {columns : Columns}
    {owner : Option String} (lands : t.checkpoint now taskId columns owner = .ok (some after))
    (id : String) : after.lease? id = t.lease? id := by
  unfold checkpoint at lands
  cases kept : columns.stored with
  | error fault =>
      rw [kept] at lands
      cases lands
  | ok columns =>
      rw [kept] at lands
      exact lease?_updateIf (Except.ok.inj lands) (fun _ => ⟨rfl, rfl⟩) id

theorem lease?_record {t after : Tables} {now : Instant} {row : Transition} {missing : Option String}
    {taskId : String} {columns : Columns} {owner : Option String}
    (lands : t.record now row missing taskId columns owner = .ok (some after)) (id : String) :
    after.lease? id = t.lease? id := by
  unfold record at lands
  cases kept : t.checkpoint now taskId columns owner with
  | error fault =>
      rw [kept] at lands
      cases lands
  | ok landed =>
      rw [kept] at lands
      cases landed with
      | none => cases lands
      | some middle =>
          simp only [bind, Except.bind] at lands
          cases added : middle.addRow row missing with
          | error fault =>
              rw [added] at lands
              cases lands
          | ok t' =>
              rw [added] at lands
              cases lands
              rw [lease?_addRow added id, lease?_checkpoint kept id]

theorem calm_stored (columns : Columns) : Calm columns.stored := by
  have written : ∀ v, Calm (Columns.document v) := by
    intro v fault refused
    unfold Columns.document at refused
    cases made : v.toDocument with
    | error problem =>
        rw [made] at refused
        cases refused
        rfl
    | ok v =>
        rw [made] at refused
        cases refused
  unfold Columns.stored
  refine (written _).bind fun _ => (written _).bind fun _ => (written _).bind fun _ => ?_
  intro fault refused
  split at refused <;> cases refused
  rfl

theorem calm_checkpoint (t : Tables) (now : Instant) (taskId : String) (columns : Columns)
    (owner : Option String) : Calm (t.checkpoint now taskId columns owner) :=
  (calm_stored columns).bind fun _ => .ok _

theorem calm_record (t : Tables) (now : Instant) (row : Transition) (missing : Option String)
    (taskId : String) (columns : Columns) (owner : Option String) :
    Calm (t.record now row missing taskId columns owner) := by
  refine (calm_checkpoint t now taskId columns owner).bind fun landed => ?_
  cases landed with
  | none => exact .ok _
  | some t =>
      refine Calm.bind ?_ fun _ => .ok _
      intro fault refused
      unfold addRow at refused
      repeat' split at refused
      all_goals cases refused
      all_goals rfl

theorem calm_expiry (now : Instant) (span : Instant.Seconds) : Calm (expiry now span) := by
  intro fault refused
  unfold expiry at refused
  cases ends : now.after span with
  | error problem =>
      rw [ends] at refused
      cases refused
      rfl
  | ok ending =>
      rw [ends] at refused
      cases refused

theorem calm_renew (t : Tables) (now : Instant) (taskId owner : String) (span : Instant.Seconds) :
    Calm (t.renew now taskId owner span) :=
  (calm_expiry now span).bind fun _ => .ok _

theorem holder?_renew {t after : Tables} {now : Instant} {taskId owner : String}
    {span : Instant.Seconds} (lands : t.renew now taskId owner span = .ok (some after)) :
    t.holder? taskId = some owner ∧ after.holder? taskId = some owner := by
  have step := leaseStep t taskId now (.renew owner span)
  simp only [serve, lands, settle] at step
  unfold holder?
  generalize t.lease? taskId = before at step ⊢
  generalize after.lease? taskId = next at step ⊢
  cases step with
  | still failed => exact absurd rfl failed
  | kept held ends =>
      rw [held]
      exact ⟨rfl, rfl⟩
  | written held write caller => cases write

theorem renew_refused {t : Tables} {taskId owner : String} (now : Instant) (span : Instant.Seconds)
    (lost : t.holder? taskId ≠ some owner) :
    t.renew now taskId owner span = .ok none ∨
      ∃ fault, expiry now span = .error fault ∧ t.renew now taskId owner span = .error fault := by
  cases came : t.renew now taskId owner span with
  | error fault =>
      refine .inr ⟨fault, ?_, rfl⟩
      unfold renew at came
      cases ends : expiry now span with
      | error fault' =>
          rw [ends] at came
          cases came
          rfl
      | ok ending =>
          rw [ends] at came
          cases came
  | ok landed =>
      cases landed with
      | none => exact .inl rfl
      | some after => exact absurd (holder?_renew came).1 lost

/-- A claim that is given back is not held any more, and a claim of somebody else is left alone. -/
theorem holder?_release (t : Tables) (taskId owner : String) :
    (t.release taskId owner).holder? taskId ≠ some owner ∧
      (t.holder? taskId ≠ some owner → t.release taskId owner = t) := by
  by_cases held : t.holder? taskId = some owner
  · obtain ⟨lease, leased, own⟩ := Option.map_eq_some_iff.mp held
    obtain ⟨row, found, atRow⟩ := Option.bind_eq_some_iff.mp leased
    have met : heldBy (some owner) row = true := by simp [heldBy, atRow, own]
    have given : t.release taskId owner = t.setTask { row with lease := none } := by
      unfold release
      rw [updateIf_of_met found met]
      rfl
    have nobody : (t.setTask { row with lease := none }).lease? taskId = none :=
      lease?_setTask found (show TaskRow.taskId { row with lease := none } = row.taskId from rfl)
    refine ⟨?_, fun lost => absurd held lost⟩
    rw [given, holder?, nobody]
    simp
  · have kept : t.release taskId owner = t := by
      unfold release
      rw [updateIf_of_unmet]
      · rfl
      · intro row found
        by_contra met
        obtain ⟨lease, atRow, own⟩ := heldBy_some (Bool.of_not_eq_false met)
        exact held (by simp [holder?, lease?_of_task? found, atRow, own])
    exact ⟨kept.symm ▸ held, fun _ => kept⟩

end Tables

namespace Shop

/-! ## What a write comes to -/

section Writes

variable {taskId owner : String} {span : Instant.Seconds}
variable {write : Tables → Instant → Except Fault (Option Tables)} {s after : Shop}

/-- A write under a lease that landed was made by the holder, who holds the task still. -/
theorem holder?_of_landed
    (same : ∀ t now t', write t now = .ok (some t') → t'.lease? taskId = t.lease? taskId)
    (landed : (leasedWrite taskId (some owner) span write).run s = (.ok (), after)) :
    s.tables.holder? taskId = some owner ∧ after.tables.holder? taskId = some owner := by
  rw [run_leasedWrite] at landed
  cases renewed : s.tables.renew s.now taskId owner span with
  | error fault =>
      rw [renewed] at landed
      cases landed
  | ok extended =>
      rw [renewed] at landed
      cases extended with
      | none => cases landed
      | some t =>
          simp only at landed
          obtain ⟨held, holds⟩ := Tables.holder?_renew renewed
          cases put : write t s.now with
          | error fault =>
              rw [put] at landed
              cases landed
          | ok kept =>
              rw [put] at landed
              cases kept with
              | none => cases landed
              | some t' =>
                  cases landed
                  refine ⟨held, ?_⟩
                  show Tables.holder? t' taskId = some owner
                  unfold Tables.holder?
                  rw [same _ _ _ put]
                  exact holds

/-- A write under a lease that is not held changes nothing. -/
theorem refused_of_lost (span : Instant.Seconds)
    (write : Tables → Instant → Except Fault (Option Tables)) (lost : s.tables.holder? taskId ≠ some owner) :
    ∃ fault, (leasedWrite taskId (some owner) span write).run s = (.error fault, s) ∧
      (fault = .leaseLost taskId owner ∨ Tables.expiry s.now span = .error fault) := by
  rw [run_leasedWrite]
  rcases Tables.renew_refused s.now span lost with none' | ⟨fault, ends, broke⟩
  · rw [none']
    exact ⟨_, rfl, .inl rfl⟩
  · rw [broke]
    exact ⟨_, rfl, .inr ends⟩

/-- A write under a lease does not give a task up. -/
theorem calm_of_refused (calm : ∀ t now, Calm (write t now)) {fault : Fault}
    (refused : (leasedWrite taskId (some owner) span write).run s = (.error fault, after)) :
    fault.isFatal = false := by
  rw [run_leasedWrite] at refused
  cases renewed : s.tables.renew s.now taskId owner span with
  | error fault =>
      rw [renewed] at refused
      cases refused
      exact Tables.calm_renew _ _ _ _ _ _ renewed
  | ok extended =>
      rw [renewed] at refused
      cases extended with
      | none =>
          cases refused
          rfl
      | some t =>
          simp only at refused
          cases put : write t s.now with
          | error fault =>
              rw [put] at refused
              cases refused
              exact calm _ _ _ put
          | ok kept =>
              rw [put] at refused
              cases kept <;> cases refused
              rfl

end Writes

end Shop

end Tickwork
