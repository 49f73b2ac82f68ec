import Tickwork.Proofs.Imprints
import Tickwork.Proofs.InMemory
import Tickwork.Proofs.Standing

/-!
# A worker's store and a store in memory

A strict worker advances a task of its tables, and the engine advances the same task over a store in
memory. Main statement: if the task stands in the store as in the tables, it does so after each write of
the advance and after the advance, unless a number or an instant is too large for the tables.
-/

set_option autoImplicit false

namespace Tickwork

namespace Fault

theorem Overflows.calm {fault : Fault} (large : fault.Overflows) : fault.isFatal = false := by
  cases large <;> rfl

theorem overflows_of_expiry {now : Instant} {span : Instant.Seconds} {fault : Fault}
    (late : Tables.expiry now span = .error fault) : fault.Overflows := by
  unfold Tables.expiry at late
  cases ends : now.after span with
  | ok ending =>
      rw [ends] at late
      cases late
  | error problem =>
      rw [ends] at late
      cases late
      exact .span problem

end Fault

theorem Transition.check_refuses {row : Transition} {fault : Fault} (refused : row.check = .error fault) :
    ∃ problem, fault = .transition problem := by
  unfold Transition.check Transition.checkReason at refused
  repeat' split at refused
  all_goals cases refused
  all_goals exact ⟨_, rfl⟩

theorem Tables.heldBy_of_holder? {t : Tables} {taskId owner : String} {row : TaskRow}
    (found : t.task? taskId = some row) (held : t.holder? taskId = some owner) :
    Tables.heldBy (some owner) row = true := by
  unfold Tables.holder? at held
  rw [Tables.lease?_of_task? found] at held
  obtain ⟨lease, leased, same⟩ := Option.map_eq_some_iff.mp held
  simp [Tables.heldBy, leased, same]

/-! ## A task in tables and in memory -/

/-- A row of a task holds a progress: it is read as the progress if the progress is in order. -/
def TaskRow.Reads (row : TaskRow) (p : Progress) : Prop :=
  p.Neat row.workflowId → ∃ q, row.progress = .ok q ∧ q.Like .data p

/-- A task stands in tables as it stands in a store in memory: its row holds what is stored, and its
ledger is the same, names and times apart. What never changes of the row is `bare`. -/
structure Tables.Reflects (bare : TaskRow) (t : Tables) (m : MemoryStore) : Prop where
  task : ∃ row p, t.task? bare.taskId = some row ∧ row.bare = bare ∧ m.load? bare.taskId = some p ∧
    p.taskId = bare.taskId ∧ row.Reads p
  ledger : (t.rowsFor bare.taskId).map Transition.shape = (m.rowsFor bare.taskId).map Transition.shape

namespace Tables.Reflects

variable {bare : TaskRow} {t : Tables} {m : MemoryStore}

/-- A change of the row that leaves its columns alone. -/
theorem setTask (reflects : t.Reflects bare m) {row changed : TaskRow}
    (found : t.task? bare.taskId = some row) (same : changed.bare = row.bare)
    (columns : changed.columns = row.columns) : (t.setTask changed).Reflects bare m where
  task := by
    obtain ⟨row', p, found', its, stored, own, reads⟩ := reflects.task
    obtain rfl : row = row' := Option.some.inj (found.symm.trans found')
    have mine : changed.taskId = row.taskId := (congrArg TaskRow.taskId same :)
    have factory : changed.workflowId = row.workflowId := (congrArg TaskRow.workflowId same :)
    refine ⟨changed, p, task?_setTask found (mine.trans (taskId_of_task? found)), same.trans its, stored, own, ?_⟩
    unfold TaskRow.Reads TaskRow.progress
    rw [columns, factory, mine]
    exact reads
  ledger := reflects.ledger

/-- A progress is written here and there. -/
theorem checkpoint (reflects : t.Reflects bare m) {row : TaskRow} (found : t.task? bare.taskId = some row)
    {c : Columns} {p : Progress} (holds : c.Holds p) (own : p.taskId = bare.taskId) (now : Instant) :
    (t.setTask { row with columns := c, updatedAt := now }).Reflects bare (m.checkpoint p) where
  task := by
    obtain ⟨row', _, found', its, -⟩ := reflects.task
    obtain rfl : row = row' := Option.some.inj (found.symm.trans found')
    have mine := taskId_of_task? found
    have stored := m.load?_checkpoint p
    rw [own] at stored
    have there : TaskRow.taskId { row with columns := c, updatedAt := now } = bare.taskId := mine
    refine ⟨_, p, task?_setTask found there, its, stored, own, fun neat => ?_⟩
    exact TaskRow.progress_of_holds holds neat (own.trans mine.symm)
  ledger := reflects.ledger

/-- A row is added to both ledgers. -/
theorem addRow (reflects : t.Reflects bare m) {row row' : Transition} (shape : row.shape = row'.shape)
    (own : row.taskId = bare.taskId) (own' : row'.taskId = bare.taskId) :
    Tables.Reflects bare { t with rows := t.rows ++ [row] } { m with rows := m.rows ++ [row'] } where
  task := reflects.task
  ledger := by
    have rows := reflects.ledger
    unfold Tables.rowsFor MemoryStore.rowsFor at rows ⊢
    simp [List.filter_append, own, own', rows, shape]

end Tables.Reflects

namespace Shop

variable {perform : Request → StateM Shop Unit} {runner : Runner} {bare : TaskRow} {owner runId runId' : String}

/-- A callable that answers calls of the same data with the same data, whatever names and times it is shown
and whatever else there is in the shop; it may count its calls. -/
def Faithful (perform : Request → StateM Shop Unit) (f : Code) : Prop :=
  ∀ call call' v w, call.Like .data call' → v.tally = w.tally →
    (callables perform f call v).1.Like .data (callables perform f call' w).1 ∧
      (callables perform f call v).2.tally = (callables perform f call' w).2.tally

/-! ## In the midst of a tick -/

/-- In the midst of a tick: the worker holds the task, which stands in the tables as in memory, the run of
the tick is there, and the names that are still to be drawn are in no use. -/
structure Midway (bare : TaskRow) (owner runId : String) (v : Shop) (w : Shop × MemoryStore) : Prop where
  tally : v.tally = w.1.tally
  reflects : v.tables.Reflects bare w.2
  held : v.tables.holder? bare.taskId = some owner
  run : (v.tables.run? runId).isSome = true
  unused : v.tables.Unused v.eventCount

/-- The footing on which a task is ticked in a shop and advanced over a store in memory. The tables may have
no room for a number or an instant, and the store may refuse a row. -/
def memoryFooting (bare : TaskRow) (owner runId runId' : String) : Footing Shop (Shop × MemoryStore) where
  like := .data
  near := Midway bare owner runId
  taskId := bare.taskId
  runId := runId
  runId' := runId'
  lost fault _ := fault.Overflows
  lost' fault _ := ∃ problem, fault = .transition problem

namespace Midway

variable {v : Shop} {w : Shop × MemoryStore} {p p' : Progress}

/-- The row of the task, which the worker holds. -/
theorem row (midway : Midway bare owner runId v w) :
    ∃ row, v.tables.task? bare.taskId = some row ∧ row.bare = bare ∧ Tables.heldBy (some owner) row = true := by
  obtain ⟨row, _, found, its, -⟩ := midway.reflects.task
  exact ⟨row, found, its, Tables.heldBy_of_holder? found midway.held⟩

/-- A write under the lease, once the lease is renewed, is like any other write. -/
theorem renewed (midway : Midway bare owner runId v w) (span : Instant.Seconds)
    (write : Tables → Instant → Except Fault (Option Tables)) :
    (∃ fault, (leasedWrite bare.taskId (some owner) span write).run v = (.error fault, v) ∧
      fault.Overflows) ∨
    ∃ t, t.rows = v.tables.rows ∧ Midway bare owner runId { v with tables := t } w ∧
      (∀ fault, write t v.now = .error fault →
        (leasedWrite bare.taskId (some owner) span write).run v = (.error fault, { v with tables := t })) ∧
      ∀ t', write t v.now = .ok (some t') →
        (leasedWrite bare.taskId (some owner) span write).run v = (.ok (), { v with tables := t' }) := by
  obtain ⟨row, found, its, held⟩ := midway.row
  cases ends : Tables.expiry v.now span with
  | error fault =>
      refine .inl ⟨fault, ?_, Fault.overflows_of_expiry ends⟩
      rw [run_leasedWrite]
      unfold Tables.renew
      rw [ends]
      rfl
  | ok ending =>
      have renews : v.tables.renew v.now bare.taskId owner span =
          .ok (some (v.tables.setTask { row with lease := some ⟨owner, ending⟩ })) := by
        unfold Tables.renew Tables.updateIf
        simp only [ends, found, held, if_true, bind, Except.bind]
      have holds : (v.tables.setTask { row with lease := some ⟨owner, ending⟩ }).holder? bare.taskId =
          some owner := (Tables.holder?_renew renews).2
      refine .inr ⟨v.tables.setTask { row with lease := some ⟨owner, ending⟩ }, rfl,
        ⟨midway.tally, midway.reflects.setTask found rfl rfl, holds, midway.run, midway.unused⟩,
        fun fault refused => ?_, fun t' landed => ?_⟩
      · rw [run_leasedWrite, renews]
        simp only [refused]
      · rw [run_leasedWrite, renews]
        simp only [landed]

/-- A progress is written to the row and to memory, unless there is no room for it in the row. -/
theorem checkpoint (midway : Midway bare owner runId v w) (alike : p.Like .data p')
    (own : p.taskId = bare.taskId) (now : Instant) :
    (∃ fault, v.tables.checkpoint now p.taskId p.columns (some owner) = .error fault ∧ fault.Overflows) ∨
    ∃ t, v.tables.checkpoint now p.taskId p.columns (some owner) = .ok (some t) ∧ t.rows = v.tables.rows ∧
      Midway bare owner runId { v with tables := t } (w.1, w.2.checkpoint p') := by
  obtain ⟨row, found, its, held⟩ := midway.row
  rw [own]
  rcases alike.stored with ⟨c, stored, holds⟩ | ⟨fault, refused, large⟩
  · have landed : v.tables.checkpoint now bare.taskId p.columns (some owner) =
        .ok (some (v.tables.setTask { row with columns := c, updatedAt := now })) := by
      unfold Tables.checkpoint Tables.updateIf
      simp only [stored, found, held, if_true, bind, Except.bind]
    have keeps : (v.tables.setTask { row with columns := c, updatedAt := now }).holder? bare.taskId =
        some owner := by
      rw [← midway.held]
      exact congrArg (Option.map Lease.owner) (Tables.lease?_checkpoint landed bare.taskId)
    exact .inr ⟨_, landed, rfl, midway.tally,
      midway.reflects.checkpoint found holds (alike.taskId.symm.trans own) now, keeps, midway.run, midway.unused⟩
  · refine .inl ⟨fault, ?_, large⟩
    unfold Tables.checkpoint
    rw [refused]
    rfl

/-- A row is added to both ledgers under a name that was drawn for it, unless there is no room for its
counters. -/
theorem addRow (midway : Midway bare owner runId v w) {row row' : Transition} {reason : Reason} {count : Nat}
    (shape : row.shape = row'.shape) (known : row.reason = .known reason) (own : row.taskId = bare.taskId)
    (own' : row'.taskId = bare.taskId) (run : row.runId = runId) (drawn : row.eventId = eventName (count + 1))
    (unused : v.tables.Unused count) (next : v.eventCount = count + 1) :
    (∃ fault, v.tables.addRow row none = .error fault ∧ fault.Overflows) ∨
    ∃ t, v.tables.addRow row none = .ok t ∧
      Midway bare owner runId { v with tables := t } (w.1, { w.2 with rows := w.2.rows ++ [row'] }) := by
  obtain ⟨task, found, -⟩ := midway.row
  have new : (v.tables.rows.any fun old => old.eventId == row.eventId) = false := by
    rw [List.any_eq_false]
    intro old inside
    rw [drawn]
    simpa using unused old inside _ (Nat.lt_succ_self count)
  have there : ((v.tables.run? runId).isNone || (v.tables.task? bare.taskId).isNone) = false := by
    rw [Option.isNone_eq_false_iff.mpr midway.run, found]
    rfl
  unfold Tables.addRow
  simp only [known, new, run, own, there, Bool.false_eq_true, if_false]
  split
  · exact .inl ⟨_, rfl, .count⟩
  · refine .inr ⟨_, rfl, midway.tally, midway.reflects.addRow shape own own', midway.held, midway.run, ?_⟩
    show Tables.Unused { v.tables with rows := v.tables.rows ++ [row] } v.eventCount
    rw [next]
    intro old inside n beyond
    rcases List.mem_append.mp inside with before | new
    · exact unused old before n (by omega)
    · cases List.mem_singleton.mp new
      rw [drawn]
      intro same
      have := eventName_inj same
      omega

end Midway

/-- A strict runner in a shop and the engine over memory do the same for a task. -/
theorem memory_alongside (aloof : Aloof perform) (strict : runner.leaseMode = .strict) :
    (host perform runner bare.taskId).Alongside (host perform runner bare.taskId).overMemory
      (memoryFooting bare runner.workerId runId runId') (Faithful perform) where
  behaviour f faithful call call' alike v w near := by
    have near : Midway bare runner.workerId runId v w := near
    obtain ⟨answered, tally⟩ := faithful call call' v w.1 alike near.tally
    obtain ⟨tables, more⟩ := callables_aloof aloof f call v
    refine ⟨answered, ?_⟩
    show Midway bare runner.workerId runId (callables perform f call v).2 ((callables perform f call' w.1).2, w.2)
    refine ⟨tally, ?_, ?_, ?_, fun row inside n beyond => ?_⟩
    · rw [tables]
      exact near.reflects
    · rw [tables]
      exact near.held
    · rw [tables]
      exact near.run
    · rw [tables] at inside
      exact near.unused row inside n (Nat.lt_of_le_of_lt more beyond)
  now _ _ near := ⟨trivial, near⟩
  freshTickId _ _ near := ⟨trivial, near.tally, near.reflects, near.held, near.run, near.unused⟩
  sleep _ _ _ near := ⟨trivial, near.tally, near.reflects, near.held, near.run, near.unused⟩
  checkpoint p p' v w alike own near := by
    have near : Midway bare runner.workerId runId v w := near
    have alike : p.Like .data p' := alike
    have own : p.taskId = bare.taskId := own
    have own' : p'.taskId = bare.taskId := alike.taskId.symm.trans own
    have guarded : (host perform runner bare.taskId).checkpoint p = leasedWrite bare.taskId (some runner.workerId)
        runner.leaseSpan (guardedWrite runner.workerId none p) := host_write strict none p
    rw [guarded]
    rcases near.renewed runner.leaseSpan (guardedWrite runner.workerId none p) with
      ⟨fault, ran, large⟩ | ⟨t, -, held, refuses, lands⟩
    · rw [ran]
      exact .left large _
    · rcases held.checkpoint alike own v.now with ⟨fault, refused, large⟩ | ⟨t', landed, -, after⟩
      · rw [refuses fault refused]
        exact .left large _
      · rw [lands t' landed]
        exact .done after
  record row row' reason p p' v w shape known mine mine' runs runs' drawn drawn' alike own near := by
    have near : Midway bare runner.workerId runId v w := near
    have alike : p.Like .data p' := alike
    have own : p.taskId = bare.taskId := own
    have drawn : row.eventId = eventName (v.eventCount + 1) := drawn
    have guarded : (host perform runner bare.taskId).record row p = leasedWrite bare.taskId
        (some runner.workerId) runner.leaseSpan (guardedWrite runner.workerId (some row) p) :=
      host_write strict (some row) p
    have later : Midway bare runner.workerId runId { v with eventCount := v.eventCount + 1 } w :=
      ⟨near.tally, near.reflects, near.held, near.run, fun row inside n beyond =>
        near.unused row inside n (Nat.lt_of_succ_lt beyond)⟩
    rw [guarded]
    show (memoryFooting bare runner.workerId runId runId').Wrote
      ((leasedWrite bare.taskId (some runner.workerId) runner.leaseSpan
        (guardedWrite runner.workerId (some row) p)).run { v with eventCount := v.eventCount + 1 })
      (((host perform runner bare.taskId).overMemory.record row' p').run
        ({ w.1 with eventCount := w.1.eventCount + 1 }, w.2))
    rw [Host.overMemory_record]
    cases checked : row'.check with
    | error fault =>
        rw [MemoryStore.record_refused p' checked]
        exact .right (Transition.check_refuses checked) _
    | ok =>
        rw [MemoryStore.record_eq_keep p' checked]
        rcases later.renewed runner.leaseSpan (guardedWrite runner.workerId (some row) p) with
          ⟨fault, ran, large⟩ | ⟨t, rows, held, refuses, lands⟩
        · rw [ran]
          exact .left large _
        · have unused : t.Unused v.eventCount := by
            unfold Tables.Unused
            rw [rows]
            exact near.unused
          rcases held.checkpoint alike own v.now with ⟨fault, refused, large⟩ | ⟨t', landed, same, after⟩
          · have refused : guardedWrite runner.workerId (some row) p t v.now = .error fault := by
              unfold guardedWrite Tables.record
              simp only [refused, bind, Except.bind]
            rw [refuses fault refused]
            exact .left large _
          · have unused : t'.Unused v.eventCount := by
              unfold Tables.Unused
              rw [same]
              exact unused
            have records : guardedWrite runner.workerId (some row) p t v.now =
                (t'.addRow row none).map some := by
              unfold guardedWrite Tables.record
              simp only [landed, bind, Except.bind]
              cases t'.addRow row none <;> rfl
            rcases after.addRow shape known mine mine' runs drawn unused rfl with
              ⟨fault, refused, large⟩ | ⟨t'', added, done⟩
            · rw [refuses fault (by rw [records, refused]; rfl)]
              exact .left large _
            · rw [lands t'' (by rw [records, added]; rfl)]
              exact .done ⟨done.tally, done.reflects, done.held, done.run, done.unused⟩
  calm fault _ large := Fault.Overflows.calm large
  calm' fault _ refused := by
    obtain ⟨problem, rfl⟩ := refused
    rfl

end Shop

/-! ## Snapshots -/

/-- What is stored of a task: where it stands, and its rows of the ledger, names and times apart. -/
structure Snapshot where
  progress : Option Progress
  ledger : List Shape
  deriving DecidableEq

def Shop.snapshot (taskId : String) (s : Shop) : Snapshot where
  progress := ((load taskId).run s).1.toOption
  ledger := (s.tables.rowsFor taskId).map Transition.shape

def MemoryStore.snapshot (taskId : String) (m : MemoryStore) : Snapshot where
  progress := m.load? taskId
  ledger := (m.rowsFor taskId).map Transition.shape

/-- A task is stored here and there, with the same data. -/
structure Snapshot.Like (s s' : Snapshot) : Prop where
  progress : ∃ q p, s.progress = some q ∧ s'.progress = some p ∧ q.Like .data p
  ledger : s.ledger = s'.ledger

theorem Tables.Reflects.snapshot {bare : TaskRow} {v : Shop} {m : MemoryStore} {p : Progress}
    (reflects : v.tables.Reflects bare m) (stored : m.load? bare.taskId = some p)
    (neat : p.Neat bare.workflowId) : (v.snapshot bare.taskId).Like (m.snapshot bare.taskId) where
  progress := by
    obtain ⟨row, p', found, its, stored', -, reads⟩ := reflects.task
    obtain rfl : p = p' := Option.some.inj (stored.symm.trans stored')
    have factory : row.workflowId = bare.workflowId := (congrArg TaskRow.workflowId its :)
    obtain ⟨q, read, alike⟩ := reads (factory ▸ neat)
    refine ⟨q, p, ?_, stored, alike⟩
    unfold Shop.snapshot
    rw [Shop.run_load_found found, read]
    rfl
  ledger := reflects.ledger

theorem mem_imprints {W : Type} {log : List (Deed W)} {i : Imprint W} (inside : i ∈ imprints log) :
    ∃ before, .wrote i.row i.progress before (.ok ()) i.world ∈ log := by
  obtain ⟨deed, there, same⟩ := List.mem_filterMap.mp inside
  cases deed with
  | wrote row p before result after =>
      cases result with
      | ok =>
          cases same
          exact ⟨before, there⟩
      | error fault => cases same
  | _ => cases same

/-- What was written to memory last is there. -/
theorem Host.overMemory_wrote {F W : Type} (h : Host F W) {row : Option Transition} {p : Progress}
    {before after : W × MemoryStore} (wrote : (h.overMemory.write row p).run before = (.ok (), after)) :
    after.2.load? p.taskId = some p := by
  cases row with
  | none =>
      cases wrote
      exact MemoryStore.load?_checkpoint _ _
  | some row =>
      have wrote : (h.overMemory.record row p).run before = (.ok (), after) := wrote
      rw [overMemory_record] at wrote
      cases checked : row.check with
      | error fault =>
          rw [MemoryStore.record_refused p checked] at wrote
          cases wrote
      | ok =>
          rw [MemoryStore.record_eq_keep p checked] at wrote
          cases wrote
          exact MemoryStore.load?_keep _ (some row) p

/-! ## Advances -/

namespace Shop

variable {perform : Request → StateM Shop Unit} {runner : Runner} {bare : TaskRow} {owner runId runId' : String}

/-- A registered graph with named states whose data is data and whose callables are faithful. -/
structure Suited (perform : Request → StateM Shop Unit) (g : Graph Code) : Prop where
  accepted : g.ensureValid = .ok g
  distinct : (names g.states).Nodup
  named : ∀ id ∈ names g.states, id ≠ ""
  data : Value.IsData (.dict g.context)
  faithful : g.Every (Faithful perform)

/-- An advance in a shop and one over memory that keep in step: the task stands alike after each write and at
the end. -/
structure Kept (bare : TaskRow) (owner runId : String) (v : Noted Shop) (w : Noted (Shop × MemoryStore)) :
    Prop where
  midway : Midway bare owner runId v.1 w.1
  stored : ∃ p, w.1.2.load? bare.taskId = some p ∧ p.Neat bare.workflowId
  written : List.Forall₂ Snapshot.Like ((imprints v.2).map fun i => i.world.snapshot bare.taskId)
    ((imprints w.2).map fun i => i.world.2.snapshot bare.taskId)

/-- A strict worker advances a task as the engine does over memory, unless the tables have no room for a
number or an instant. -/
theorem advance_kept (aloof : Aloof perform) (strict : runner.leaseMode = .strict) {g : Graph Code}
    (suited : Suited perform g) {v : Shop} {w : Shop × MemoryStore} (midway : Midway bare runner.workerId runId v w)
    {p q : Progress} (alike : q.Like .data p) (stored : w.2.load? bare.taskId = some p)
    (neat : p.Neat bare.workflowId) (own : p.taskId = bare.taskId) (task : TaskInfo) (feedback : Option String) :
    (∃ fault, (Engine.advance (host perform runner bare.taskId) runner.budget g task runId none feedback q
        v).1.1 = .error fault ∧ fault.Overflows) ∨
    Kept bare runner.workerId runId
      (Engine.advance (host perform runner bare.taskId).noting runner.budget g task runId none feedback q
        (v, [])).2
      (Engine.advance (host perform runner bare.taskId).overMemory.noting runner.budget g task runId' none
        feedback p (w, [])).2 := by
  let h := host perform runner bare.taskId
  have valid := Graph.violations_of_accepted suited.accepted
  have its : q.taskId = bare.taskId := alike.taskId.trans own
  have level : h.noting.Alongside h.overMemory.noting (memoryFooting bare runner.workerId runId runId').noting
      (Faithful perform) := (memory_alongside aloof strict).noting
  have near : (memoryFooting bare runner.workerId runId runId').noting.near (v, []) (w, []) := ⟨midway, .nil⟩
  have ends : Engine.Advances (memoryFooting bare runner.workerId runId runId').noting
      (Engine.advance h.noting runner.budget g task runId none feedback q (v, []))
      (Engine.advance h.overMemory.noting runner.budget g task runId' none feedback p (w, [])) :=
    Engine.advance_sync level suited.faithful suited.data runner.budget task feedback alike its near
  have came : Advancement bare.workflowId p
      (writesOf (Engine.advance h.overMemory.noting runner.budget g task runId' none feedback p (w, [])).2.2)
      (Engine.advance h.overMemory runner.budget g task runId' none feedback p w).1.1
      (Engine.advance h.overMemory runner.budget g task runId' none feedback p w).2.2 :=
    advance_in_memory suited.accepted suited.distinct suited.named h w.1 runner.budget task runId' none feedback
      neat (own ▸ stored)
  have conducted := Engine.advance_conducted h.overMemory valid runner.budget task runId' none feedback p w
  have seen := Engine.advance_noting h runner.budget g task runId none feedback q (v, [])
  have seen' := Engine.advance_noting h.overMemory runner.budget g task runId' none feedback p (w, [])
  simp only at seen seen'
  rw [seen'] at came conducted
  rw [seen]
  generalize Engine.advance h.noting runner.budget g task runId none feedback q (v, []) = r at ends ⊢
  generalize Engine.advance h.overMemory.noting runner.budget g task runId' none feedback p (w, []) = r'
    at ends came conducted ⊢
  have keeps : (memoryFooting bare runner.workerId runId runId').noting.near r.2 r'.2 →
      Kept bare runner.workerId runId r.2 r'.2 := by
    rintro ⟨after, together⟩
    obtain ⟨p', stored', neat', -⟩ := came.stored
    refine ⟨after, ⟨p', own ▸ stored', neat'⟩, ?_⟩
    rw [List.forall₂_map_left_iff, List.forall₂_map_right_iff]
    have held : ∀ i ∈ imprints r'.2.2, i.world.2.load? bare.taskId = some i.progress ∧
        i.progress.Neat bare.workflowId := by
      intro i inside
      obtain ⟨before, there⟩ := mem_imprints inside
      have writes := came.writes (i.row, i.progress) (by
        rw [writesOf_eq]
        exact List.mem_map_of_mem inside)
      have left := h.overMemory_wrote (conducted.made _ _ _ _ _ there)
      rw [writes.2, own] at left
      exact ⟨left, writes.1⟩
    clear came conducted
    generalize imprints r.2.2 = log at together ⊢
    generalize imprints r'.2.2 = log' at together held ⊢
    induction together with
    | nil => exact .nil
    | @cons i i' rest rest' beside later ih =>
        have world : Midway bare runner.workerId runId i.world i'.world := beside.world
        obtain ⟨left, ready⟩ := held i' List.mem_cons_self
        exact .cons (world.reflects.snapshot left ready) (ih fun j inside => held j (List.mem_cons_of_mem _ inside))
  cases ends with
  | done finished progress world => exact .inr (keeps world)
  | doomed causes world => exact .inr (keeps world)
  | stuck calm calm' world => exact .inr (keeps world)
  | @left fault _ _ gone _ => exact .inl ⟨fault, rfl, gone⟩
  | @right fault _ _ gone _ =>
      obtain ⟨problem, rfl⟩ : ∃ problem, fault = .transition problem := gone
      exact absurd rfl (came.accepted problem)

end Shop

end Tickwork
