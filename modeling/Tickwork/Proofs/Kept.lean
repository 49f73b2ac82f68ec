import Tickwork.Proofs.Data
import Tickwork.Proofs.Replays
import Tickwork.Proofs.Twins

/-!
# Progress in columns

A task is kept in columns, of which the context and the counters are documents. Main statement: a task with
its counters in order comes back from its columns as it was, up to the order of its context and to times.
What can keep a task of data out of its columns is a number that is too large for them.
-/

set_option autoImplicit false

namespace Tickwork

/-- A fault of a number or an instant that there is no room for. -/
inductive Fault.Overflows : Fault → Prop
  | span (problem : Instant.SpanFault) : Fault.Overflows (.span problem)
  | count : Fault.Overflows .countTooLarge
  | digits : Fault.Overflows (.unwritable .tooLong)

/-! ## Counters -/

namespace Counters

/-- The entries of a column of counters. -/
def entries (counters : Counters) : Fields := counters.map fun entry => (.text entry.1, .int entry.2)

variable {counters : Counters}

theorem plain_entries (strict : Sorted.Strict counters) : counters.entries.Plain := by
  refine ⟨fun entry inside => ?_, List.pairwise_map.mpr (strict.imp fun {a b} before => ?_)⟩
  · obtain ⟨old, -, rfl⟩ := List.mem_map.mp inside
    exact ⟨old.1, rfl⟩
  · rw [Key.text_same]
    simp only [decide_eq_false_iff_not, Key.text.injEq]
    intro same
    rw [same] at before
    exact String.lt_irrefl _ before

/-- Counters go into a document one by one, until one of them is too long. -/
theorem documents_of_entries (counters : Counters) :
    (counters.map fun entry => (Key.text entry.1, (Value.int entry.2).toDocument)).mapM Value.documentEntry =
        .ok counters.entries ∨
      (counters.map fun entry => (Key.text entry.1, (Value.int entry.2).toDocument)).mapM Value.documentEntry =
        .error .tooLong := by
  induction counters with
  | nil => exact .inl rfl
  | cons head rest ih =>
      obtain ⟨name, n⟩ := head
      rw [List.map_cons, List.mapM_cons]
      by_cases short : Numeral.isSpellable n = true
      · have made : Value.documentEntry (.text name, (Value.int n).toDocument) = .ok (.text name, .int n) := by
          rw [Value.toDocument, if_pos short]
          rfl
        rw [made]
        rcases ih with ok | long
        · rw [ok]
          exact .inl rfl
        · rw [long]
          exact .inr rfl
      · have refused : Value.documentEntry (.text name, (Value.int n).toDocument) = .error .tooLong := by
          rw [Value.toDocument, if_neg short]
          rfl
        rw [refused]
        exact .inr rfl

/-- A column keeps counters in the order of their names, unless one of them has too many digits. -/
theorem document_toValue (counters : Counters) :
    Columns.document counters.toValue = .ok (Counters.toValue (Sorted.ofPairs counters)) ∨
      Columns.document counters.toValue = .error (.unwritable .tooLong) := by
  let ordered : Counters := Sorted.ofPairs counters
  have plain : ordered.entries.Plain := plain_entries (Sorted.strict_ofPairs counters)
  have named : counters.toValue = .dict (Fields.ofNamed (counters.map fun entry => (entry.1, .int entry.2))) := by
    rw [Fields.ofNamed, List.map_map]
    rfl
  have documents : Value.documentFields (Value.entryDocuments
      (Fields.ofNamed (counters.map fun entry => (entry.1, .int entry.2)))) = .ok ordered.entries ∨
      Value.documentFields (Value.entryDocuments
        (Fields.ofNamed (counters.map fun entry => (entry.1, .int entry.2)))) = .error .tooLong := by
    rw [Value.documentFields_named, Sorted.ofPairs_map, List.map_map]
    exact documents_of_entries ordered
  have back : Value.readBack (.dict ordered.entries) = ordered.toValue := by
    have kept : (ordered.entries.map fun entry => (entry.1, entry.2.readBack)) = ordered.entries := by
      rw [entries, List.map_map]
      rfl
    have laid : Fields.overlay ([] ++ []) ordered.entries = [] ++ ordered.entries :=
      Fields.overlay_append plain.distinct List.nil_prefix
    have laid : Fields.ofPairs ordered.entries = ordered.entries := laid
    rw [Value.readBack, Value.entriesBack_eq, kept, laid]
    rfl
  unfold Columns.document
  rw [named, Value.toDocument]
  rcases documents with ok | long
  · rw [ok]
    exact .inl (congrArg Except.ok back)
  · rw [long]
    exact .inr rfl

theorem counterColumn_toValue (counters : Counters) : counterColumn counters.toValue = .ok counters := by
  have named : Fields.named counters.entries = counters.map fun entry => (entry.1, .int entry.2) := by
    induction counters with
    | nil => rfl
    | cons head rest ih =>
        show (head.1, Value.int head.2) :: Fields.named (entries rest) = _
        rw [ih]
        rfl
  show readCounters (Fields.named counters.entries) = .ok counters
  rw [named]
  clear named
  induction counters with
  | nil => rfl
  | cons head rest ih =>
      rw [List.map_cons, readCounters, ih]
      rfl

end Counters

/-! ## Tasks -/

/-- The columns that hold neither data nor a message nor a time. -/
def Columns.sparse (c : Columns) : Columns :=
  { c with context := .null, attempts := .null, loopIterations := .null, lastError := none, waitingSince := none }

/-- Columns hold a task: its context up to the order of entries, its counters in the order of their names,
and its last error up to the name of a tick. -/
structure Columns.Holds (c : Columns) (p : Progress) : Prop where
  context : c.context.Alike (.dict p.context)
  attempts : c.attempts = Counters.toValue (Sorted.ofPairs p.attempts)
  rounds : c.loopIterations = Counters.toValue (Sorted.ofPairs p.loopIterations)
  rest : c.sparse = p.columns.sparse
  lastError : Option.Rel Blamed c.lastError p.lastError
  waiting : c.waitingSince.isSome = p.waitingSince.isSome

/-- A task of some factory with its counters in the order of their names, none of them negative. -/
structure Progress.Neat (workflowId : String) (p : Progress) : Prop where
  factory : p.workflowId = workflowId
  attempts : Sorted.Strict p.attempts
  rounds : Sorted.Strict p.loopIterations
  counted : p.Counted

namespace Progress.Like

variable {p p' : Progress} (alike : p.Like .data p')

include alike

/-- What is written of a task of data: columns that hold the task, or nothing if a number is too large. -/
theorem stored : (∃ c, p.columns.stored = .ok c ∧ c.Holds p') ∨
    ∃ fault, p.columns.stored = .error fault ∧ fault.Overflows := by
  obtain ⟨context, written, -, same⟩ := Columns.document_alike (show Value.Alike _ _ from alike.context)
  unfold Columns.stored
  have columns : p.columns.context = .dict p.context ∧ p.columns.attempts = p.attempts.toValue ∧
      p.columns.loopIterations = p.loopIterations.toValue := ⟨rfl, rfl, rfl⟩
  rw [columns.1, columns.2.1, columns.2.2, written, alike.attempts, alike.loopIterations]
  rcases Counters.document_toValue p'.attempts with attempts | long
  · rcases Counters.document_toValue p'.loopIterations with rounds | long
    · rw [attempts, rounds]
      simp only [bind, Except.bind]
      by_cases fits : fitsColumn p.columns.transitionCount = true
      · rw [if_pos fits]
        refine .inl ⟨_, rfl, same, rfl, rfl, ?_, alike.lastError, alike.waiting⟩
        exact (congrArg (fun p => p.columns.sparse) alike.level :)
      · rw [if_neg fits]
        exact .inr ⟨_, rfl, .count⟩
    · rw [attempts, long]
      exact .inr ⟨_, rfl, .digits⟩
  · rw [long]
    exact .inr ⟨_, rfl, .digits⟩

end Progress.Like

/-- A row that holds a task is read as that task. -/
theorem TaskRow.progress_of_holds {row : TaskRow} {p : Progress} (holds : row.columns.Holds p)
    (neat : p.Neat row.workflowId) (own : p.taskId = row.taskId) :
    ∃ q, row.progress = .ok q ∧ q.Like .data p := by
  obtain ⟨same, attempts, rounds, rest, lastError, waiting⟩ := holds
  rw [neat.attempts.ofPairs_eq] at attempts
  rw [neat.rounds.ofPairs_eq] at rounds
  obtain ⟨context, mapping⟩ : ∃ context, row.columns.context = .dict context := by
    generalize row.columns.context = v at same ⊢
    cases same with
    | dict => exact ⟨_, rfl⟩
  unfold TaskRow.progress
  rw [mapping] at same
  simp only [mapping, mappingColumn, attempts, rounds, Counters.counterColumn_toValue, bind, Except.bind]
  refine ⟨_, rfl, ?_, same, lastError, waiting⟩
  have places : row.columns.currentStateId = p.currentStateId := (congrArg Columns.currentStateId rest :)
  have ends : row.columns.terminalStateId = p.terminalStateId := (congrArg Columns.terminalStateId rest :)
  have stage : row.columns.lifecycle = p.lifecycle := (congrArg Columns.lifecycle rest :)
  have count : row.columns.transitionCount = p.transitionCount := (congrArg Columns.transitionCount rest :)
  simp only [Progress.level, places, ends, stage, count, own, neat.factory]

end Tickwork
