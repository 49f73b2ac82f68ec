import Tickwork.Proofs.Recited
import Tickwork.Proofs.Twins

/-!
# One task in two shops

A task that stands alike in two shops is ticked in both of them. If callables answer by what they are
shown, names and times apart, the tick does the same here and there. Main statement: the task then stands
alike in the two shops again.
-/

set_option autoImplicit false

namespace Tickwork

/-! ## Writes -/

/-- The name of a row that is drawn as the one with a number. -/
def eventName (n : Nat) : String := s!"evt-{n}"

theorem eventName_inj {m n : Nat} (same : eventName m = eventName n) : m = n := Shop.drawn_inj "evt-" same

/-- No row of the ledger has a name that is still to be drawn. -/
def Tables.Unused (t : Tables) (count : Nat) : Prop :=
  ∀ row ∈ t.rows, ∀ n, count < n → row.eventId ≠ eventName n

/-- Two tables in the midst of a tick of one task: the task stands alike in both, the run of the tick is
there, and the names that are still to be drawn are in no use. -/
structure Tables.Twin (σ : String → String) (taskId runId runId' : String) (count count' : Nat)
    (t t' : Tables) : Prop where
  alike : t.Alike σ taskId t'
  run : (t.run? runId).isSome = true
  run' : (t'.run? runId').isSome = true
  unused : t.Unused count
  unused' : t'.Unused count'

/-- How two writes that may not land come out together. -/
inductive Landed (R : Tables → Tables → Prop) :
    Except Fault (Option Tables) → Except Fault (Option Tables) → Prop
  | refused {fault fault' : Fault} (calm : fault.isFatal = false) (calm' : fault'.isFatal = false) :
      Landed R (.error fault) (.error fault')
  | missed : Landed R (.ok none) (.ok none)
  | made {t t' : Tables} (here : R t t') : Landed R (.ok (some t)) (.ok (some t'))

theorem Landed.of_rel {R : Tables → Tables → Prop} {t t' : Option Tables} (rel : Option.Rel R t t') :
    Landed R (.ok t) (.ok t') := by
  cases rel with
  | none => exact .missed
  | some here => exact .made here

namespace Tables.Twin

variable {σ : String → String} {taskId runId runId' : String} {count count' : Nat} {t t' : Tables}

theorem later (twin : Twin σ taskId runId runId' count count' t t') {next next' : Nat}
    (more : count ≤ next) (more' : count' ≤ next') : Twin σ taskId runId runId' next next' t t' where
  alike := twin.alike
  run := twin.run
  run' := twin.run'
  unused row inside n beyond := twin.unused row inside n (Nat.lt_of_le_of_lt more beyond)
  unused' row inside n beyond := twin.unused' row inside n (Nat.lt_of_le_of_lt more' beyond)

theorem updateIf (twin : Twin σ taskId runId runId' count count' t t') {condition condition' : TaskRow → Bool}
    {change change' : TaskRow → TaskRow}
    (agree : ∀ row row', row.Alike σ row' → condition row = condition' row')
    (changes : ∀ row row', row.Alike σ row' → (change row).Alike σ (change' row'))
    (own : ∀ row, (change row).taskId = row.taskId) :
    Option.Rel (Twin σ taskId runId runId' count count') (t.updateIf taskId condition change)
      (t'.updateIf taskId condition' change') := by
  have rel := twin.alike.updateIf agree changes own
  cases lands : t.updateIf taskId condition change with
  | none =>
      rw [lands] at rel
      cases lands' : t'.updateIf taskId condition' change' with
      | none => exact .none
      | some after' =>
          rw [lands'] at rel
          cases rel
  | some after =>
      rw [lands] at rel
      cases lands' : t'.updateIf taskId condition' change' with
      | none =>
          rw [lands'] at rel
          cases rel
      | some after' =>
          rw [lands'] at rel
          cases rel with
          | some alike =>
              obtain ⟨row, -, -, rfl⟩ := updateIf_some lands
              obtain ⟨row', -, -, rfl⟩ := updateIf_some lands'
              exact .some ⟨alike, twin.run, twin.run', twin.unused, twin.unused'⟩

theorem checkpoint (twin : Twin σ taskId runId runId' count count' t t') {c c' : Columns}
    (alike : c.Alike c') (now now' : Instant) (owner : Option String) :
    Landed (Twin σ taskId runId runId' count count') (t.checkpoint now taskId c owner)
      (t'.checkpoint now' taskId c' owner) := by
  have kept := alike.stored
  have calm := calm_stored c
  have calm' := calm_stored c'
  unfold Tables.checkpoint
  generalize c.stored = stored at kept calm ⊢
  generalize c'.stored = stored' at kept calm' ⊢
  cases kept with
  | error fault => exact .refused (calm fault rfl) (calm' fault rfl)
  | ok columns =>
      refine Landed.of_rel (twin.updateIf (fun _ _ same => same.heldBy owner) (fun _ _ same => ?_) fun _ => rfl)
      exact ⟨same.bare, columns, same.run, same.owner⟩

/-- A row is added here and there, each under the name that was drawn for it. -/
theorem addRow (twin : Twin σ taskId runId runId' count count' t t') {row row' : Transition} {reason : Reason}
    (shape : row.shape = row'.shape) (known : row.reason = .known reason) (own : row.taskId = taskId)
    (own' : row'.taskId = taskId) (run : row.runId = runId) (run' : row'.runId = runId')
    (renames : σ runId = runId') (drawn : row.eventId = eventName (count + 1))
    (drawn' : row'.eventId = eventName (count' + 1)) (task : (t.task? taskId).isSome = true) :
    Landed (Twin σ taskId runId runId' (count + 1) (count' + 1)) ((t.addRow row none).map some)
      ((t'.addRow row' none).map some) := by
  have known' : row'.reason = .known reason := by
    rw [← known]
    exact (congrArg Shape.reason shape).symm
  have attempt : row.attempt = row'.attempt := congrArg Shape.attempt shape
  have rounds : row.loopIteration = row'.loopIteration := congrArg Shape.loopIteration shape
  have task' : (t'.task? taskId).isSome = true := by
    have rel := twin.alike.task
    generalize t.task? taskId = found at task rel
    generalize t'.task? taskId = found' at rel ⊢
    cases rel with
    | none => cases task
    | some => rfl
  have new : (t.rows.any fun old => old.eventId == row.eventId) = false := by
    rw [List.any_eq_false]
    intro old inside
    rw [drawn]
    simpa using twin.unused old inside _ (Nat.lt_succ_self count)
  have new' : (t'.rows.any fun old => old.eventId == row'.eventId) = false := by
    rw [List.any_eq_false]
    intro old inside
    rw [drawn']
    simpa using twin.unused' old inside _ (Nat.lt_succ_self count')
  unfold Tables.addRow
  simp only [known, known', attempt, rounds, new, new', run, run', own, own']
  split
  · exact .refused rfl rfl
  · have there : ((t.run? runId).isNone || (t.task? taskId).isNone) = false := by
      rw [Option.isNone_eq_false_iff.mpr twin.run, Option.isNone_eq_false_iff.mpr task, Bool.or_false]
    have there' : ((t'.run? runId').isNone || (t'.task? taskId).isNone) = false := by
      rw [Option.isNone_eq_false_iff.mpr twin.run', Option.isNone_eq_false_iff.mpr task', Bool.or_false]
    simp only [there, there', Bool.false_eq_true, if_false]
    refine .made ⟨⟨twin.alike.task, twin.alike.runs, ?_⟩, twin.run, twin.run', ?_, ?_⟩
    · have rows := twin.alike.rows
      unfold Tables.rowsFor at rows ⊢
      simp [List.filter_append, own, own', rows, Transition.told, shape, run, run', renames]
    · intro old inside n beyond
      rcases List.mem_append.mp inside with before | new
      · exact twin.unused old before n (by omega)
      · cases List.mem_singleton.mp new
        rw [drawn]
        intro same
        have := eventName_inj same
        omega
    · intro old inside n beyond
      rcases List.mem_append.mp inside with before | new
      · exact twin.unused' old before n (by omega)
      · cases List.mem_singleton.mp new
        rw [drawn']
        intro same
        have := eventName_inj same
        omega

theorem record (twin : Twin σ taskId runId runId' count count' t t') {row row' : Transition} {reason : Reason}
    (shape : row.shape = row'.shape) (known : row.reason = .known reason) (own : row.taskId = taskId)
    (own' : row'.taskId = taskId) (run : row.runId = runId) (run' : row'.runId = runId')
    (renames : σ runId = runId') (drawn : row.eventId = eventName (count + 1))
    (drawn' : row'.eventId = eventName (count' + 1)) {c c' : Columns} (alike : c.Alike c') (now now' : Instant)
    (owner : Option String) :
    Landed (Twin σ taskId runId runId' (count + 1) (count' + 1)) (t.record now row none taskId c owner)
      (t'.record now' row' none taskId c' owner) := by
  have kept := twin.checkpoint alike now now' owner
  unfold Tables.record
  cases lands : t.checkpoint now taskId c owner with
  | error fault =>
      rw [lands] at kept
      cases lands' : t'.checkpoint now' taskId c' owner with
      | error fault' =>
          rw [lands'] at kept
          cases kept with
          | refused calm calm' => exact .refused calm calm'
      | ok after' =>
          rw [lands'] at kept
          cases kept
  | ok after =>
      rw [lands] at kept
      cases lands' : t'.checkpoint now' taskId c' owner with
      | error fault' =>
          rw [lands'] at kept
          cases kept
      | ok after' =>
          rw [lands'] at kept
          cases kept with
          | missed => exact .missed
          | @made middle middle' twin =>
              have there : (middle.task? taskId).isSome = true := by
                unfold Tables.checkpoint at lands
                cases stored : c.stored with
                | error fault =>
                    rw [stored] at lands
                    cases lands
                | ok columns =>
                    rw [stored] at lands
                    obtain ⟨old, found, -, rfl⟩ := updateIf_some (Except.ok.inj lands)
                    have its := taskId_of_task? found
                    have mine : TaskRow.taskId { old with columns, updatedAt := now } = taskId := its
                    rw [task?_setTask found mine]
                    rfl
              have added := twin.addRow shape known own own' run run' renames drawn drawn' there
              simp only [bind, Except.bind]
              generalize middle.addRow row none = made at added ⊢
              generalize middle'.addRow row' none = made' at added ⊢
              cases made <;> cases made' <;> exact added

end Tables.Twin

/-! ## Callables -/

theorem Call.Like.unnamed {call call' : Call} (alike : call.Like .exactly call') :
    call.unnamed = call'.unnamed := by
  cases alike with
  | @handler i i' alike =>
      obtain ⟨context, task, stateId, attempt, feedback⟩ := alike
      have context : i.context = i'.context := context
      simp only [Call.unnamed, context, task, stateId, attempt, feedback]
  | @reply i i' alike text =>
      obtain ⟨context, task, stateId, attempt, feedback⟩ := alike
      have context : i.context = i'.context := context
      simp only [Call.unnamed, context, task, stateId, attempt, feedback]
  | @selector i i' alike =>
      obtain ⟨context, task, stateId⟩ := alike
      have context : i.context = i'.context := context
      simp only [Call.unnamed, context, task, stateId]
  | @guard i i' alike =>
      obtain ⟨context, iteration, task, stateId⟩ := alike
      have context : i.context = i'.context := context
      simp only [Call.unnamed, context, iteration, task, stateId]
  | node alike => exact congrArg Call.node alike
  | nodeReply alike text => exact congrArg (Call.nodeReply · text) alike

/-- An answer is like itself. -/
theorem Answer.Like.refl (answer : Answer) : answer.Like .exactly answer where
  context := rfl
  value := by
    cases answer.value with
    | error e => exact .error e
    | ok v =>
        refine .ok ?_
        cases mapping : v.asMapping? with
        | some fields =>
            unfold Value.asMapping? at mapping
            split at mapping <;> cases mapping
            · exact .dict rfl
            · exact .view rfl
        | none =>
            exact .same v ⟨mapping, fun _ _ => rfl, fun _ data _ _ _ => .self data, fun _ _ _ => rfl⟩

namespace Shop

/-! ## Two shops in step -/

/-- The callables of a shop. -/
def callables (perform : Request → StateM Shop Unit) : Behaviour Code Shop :=
  Routine.behaviour
    { count := fun site s =>
        let (n, tally) := s.tally.next site
        (n, { s with tally })
      perform }

/-- A callable whose answers depend on nothing but what it is shown, names of run and tick apart. -/
def Steady (perform : Request → StateM Shop Unit) (f : Code) : Prop :=
  ∀ call call' s s', call.unnamed = call'.unnamed → (callables perform f call s).1 = (callables perform f call' s').1

theorem callables_aloof {perform : Request → StateM Shop Unit} (aloof : Aloof perform) (f : Code) (call : Call)
    (s : Shop) : (callables perform f call s).2.tables = s.tables ∧
      s.eventCount ≤ (callables perform f call s).2.eventCount := by
  refine Routine.behaviour_preserves
    (P := fun s' : Shop => s'.tables = s.tables ∧ s.eventCount ≤ s'.eventCount)
    (fun site s' here => here) (fun request s' here => ?_) f call s ⟨rfl, Nat.le_refl _⟩
  exact ⟨(aloof.tables request s').trans here.1, Nat.le_trans here.2 (aloof.numbered request s')⟩

/-- The footing on which one task is ticked in two shops. A write may get lost here or there if the end of a
lease leaves the calendar. -/
def twinFooting (σ : String → String) (taskId runId runId' : String) (span : Instant.Seconds) :
    Footing Shop Shop where
  like := .exactly
  near v w := Tables.Twin σ taskId runId runId' v.eventCount w.eventCount v.tables w.tables
  taskId := taskId
  runId := runId
  runId' := runId'
  lost fault v := Tables.expiry v.now span = .error fault
  lost' fault w := Tables.expiry w.now span = .error fault

section InStep

variable {σ : String → String} {taskId runId runId' : String} {span : Instant.Seconds} {v w : Shop}

theorem leasedWrite_twin {count count' : Nat}
    (twin : Tables.Twin σ taskId runId runId' count count' v.tables w.tables) (more : count ≤ v.eventCount)
    (more' : count' ≤ w.eventCount) (owner : Option String)
    {write write' : Tables → Instant → Except Fault (Option Tables)}
    (writes : ∀ t t', Tables.Twin σ taskId runId runId' count count' t t' →
      Landed (Tables.Twin σ taskId runId runId' v.eventCount w.eventCount) (write t v.now) (write' t' w.now)) :
    (twinFooting σ taskId runId runId' span).Wrote ((leasedWrite taskId owner span write).run v)
      ((leasedWrite taskId owner span write').run w) := by
  cases owner with
  | none =>
      have landed := writes _ _ twin
      rw [run_leasedWrite_free, run_leasedWrite_free]
      generalize write v.tables v.now = made at landed ⊢
      generalize write' w.tables w.now = made' at landed ⊢
      cases landed with
      | refused calm calm' => exact .stuck calm calm' (twin.later more more')
      | missed => exact .stuck rfl rfl (twin.later more more')
      | made here => exact .done here
  | some owner =>
      rw [run_leasedWrite, run_leasedWrite]
      unfold Tables.renew
      cases ends : Tables.expiry v.now span with
      | error fault => exact .left ends _
      | ok ending =>
          cases ends' : Tables.expiry w.now span with
          | error fault => exact .right ends' _
          | ok ending' =>
              have renewed : Option.Rel (Tables.Twin σ taskId runId runId' count count')
                  (v.tables.updateIf taskId (Tables.heldBy (some owner)) fun row =>
                    { row with lease := some ⟨owner, ending⟩ })
                  (w.tables.updateIf taskId (Tables.heldBy (some owner)) fun row =>
                    { row with lease := some ⟨owner, ending'⟩ }) :=
                twin.updateIf (fun _ _ same => same.heldBy (some owner))
                  (fun _ _ same => ⟨same.bare, same.columns, same.run, rfl⟩) fun _ => rfl
              simp only [bind, Except.bind]
              generalize Tables.updateIf v.tables taskId _ _ = held at renewed ⊢
              generalize Tables.updateIf w.tables taskId _ _ = held' at renewed ⊢
              cases renewed with
              | none => exact .stuck rfl rfl (twin.later more more')
              | @some t t' twin =>
                  have landed := writes t t' twin
                  simp only
                  generalize write t v.now = made at landed ⊢
                  generalize write' t' w.now = made' at landed ⊢
                  cases landed with
                  | refused calm calm' => exact .stuck calm calm' (twin.later more more')
                  | missed => exact .stuck rfl rfl (twin.later more more')
                  | made here => exact .done here

/-- A runner does the same for a task in two shops where it stands alike. -/
theorem host_alongside {perform : Request → StateM Shop Unit} (aloof : Aloof perform) (runner : Runner)
    (renames : σ runId = runId') :
    (host perform runner taskId).Alongside (host perform runner taskId)
      (twinFooting σ taskId runId runId' runner.leaseSpan) (Steady perform) where
  behaviour f steady call call' alike v w near := by
    obtain ⟨tables, more⟩ := callables_aloof aloof f call v
    obtain ⟨tables', more'⟩ := callables_aloof aloof f call' w
    have same := steady call call' v w alike.unnamed
    refine ⟨?_, ?_⟩
    · show Answer.Like .exactly (callables perform f call v).1 (callables perform f call' w).1
      rw [same]
      exact .refl _
    · show Tables.Twin σ taskId runId runId' (callables perform f call v).2.eventCount
        (callables perform f call' w).2.eventCount (callables perform f call v).2.tables
        (callables perform f call' w).2.tables
      rw [tables, tables']
      exact Tables.Twin.later near more more'
  now _ _ near := ⟨trivial, near⟩
  freshTickId _ _ near := ⟨trivial, near⟩
  sleep _ _ _ near := ⟨trivial, near⟩
  checkpoint p p' v w alike own near := by
    have own : p.taskId = taskId := own
    have own' : p'.taskId = taskId := alike.taskId.symm.trans own
    have columns := Progress.Like.columns alike
    refine leasedWrite_twin near (Nat.le_refl _) (Nat.le_refl _) _ fun t t' twin => ?_
    rw [own, own']
    exact twin.checkpoint columns _ _ _
  record row row' reason p p' v w shape known mine mine' runs runs' drawn drawn' alike own near := by
    have own : p.taskId = taskId := own
    have own' : p'.taskId = taskId := alike.taskId.symm.trans own
    have columns := Progress.Like.columns alike
    have before : Tables.Twin σ taskId runId runId' v.eventCount w.eventCount v.tables w.tables := near
    refine leasedWrite_twin (v := { v with eventCount := v.eventCount + 1 })
      (w := { w with eventCount := w.eventCount + 1 }) before (Nat.le_succ _) (Nat.le_succ _) _
      fun t t' twin => ?_
    rw [own, own']
    exact twin.record shape known mine mine' runs runs' renames drawn drawn' columns _ _ _
  calm fault v ends := Tables.calm_expiry _ _ _ ends
  calm' fault w ends := Tables.calm_expiry _ _ _ ends

end InStep

end Shop

end Tickwork
