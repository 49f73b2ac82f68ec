import Tickwork.Proofs.Failures.Blame
import Tickwork.Proofs.Failures.Lives
import Tickwork.Proofs.Noting

/-!
# What a task that is given up leaves behind

A task that is given up has taken its last step whole or not at all: it is stored as failed with the
position, the context and the counters of the write before, and the ledger tells of the visit that failed
only its failed attempts. To speak of the writes of an advance, they are noted in a log beside the world.
-/

set_option autoImplicit false

namespace Tickwork

variable {F W S : Type}

/-! ## The writes of an advance -/

/-- The writes that a log tells of, without those that were refused. -/
def writesOf (log : List (Deed W)) : List (Option Transition × Progress) :=
  log.filterMap fun
    | .wrote row p _ (.ok _) _ => some (row, p)
    | _ => none

/-- What a view shows of a world, and the writes that were noted beside it. -/
def journal (view : W → S) (world : Noted W) : S × List (Option Transition × Progress) :=
  (view world.1, writesOf world.2)

def keepJournal (keep : S → Option Transition → Progress → S)
    (s : S × List (Option Transition × Progress)) (row : Option Transition) (p : Progress) :
    S × List (Option Transition × Progress) :=
  (keep s.1 row p, s.2 ++ [(row, p)])

theorem keepAll_journal (keep : S → Option Transition → Progress → S)
    (s : S × List (Option Transition × Progress)) (entries : List Entry) :
    keepAll (keepJournal keep) s entries =
      (keepAll keep s.1 entries, s.2 ++ entries.map fun e => (e.row, e.progress)) := by
  induction entries generalizing s with
  | nil => simp [keepAll]
  | cons e rest ih =>
      have next : keepAll (keepJournal keep) s (e :: rest) =
          keepAll (keepJournal keep) (keepJournal keep s e.row e.progress) rest := rfl
      rw [next, ih]
      simp [keepJournal, keepAll]

theorem journal_of_write {view : W → S} {row : Option Transition} {p : Progress}
    {write : ExceptT Fault (StateM W) Unit} {world : Noted W} (landed : (write.run world.1).1 = .ok ()) :
    journal view ((notedWrite row p write).run world).2 =
      (view (write.run world.1).2, writesOf world.2 ++ [(row, p)]) := by
  have ran : (notedWrite row p write).run world = ((write.run world.1).1, ((write.run world.1).2,
      world.2 ++ [.wrote row p world.1 (write.run world.1).1 (write.run world.1).2])) := rfl
  rw [ran, landed]
  simp [journal, writesOf]

theorem journal_of_refusal {view : W → S} {row : Option Transition} {p : Progress}
    {write : ExceptT Fault (StateM W) Unit} {world : Noted W} {fault : Fault}
    (refused : (write.run world.1).1 = .error fault) :
    journal view ((notedWrite row p write).run world).2 =
      (view (write.run world.1).2, writesOf world.2) := by
  have ran : (notedWrite row p write).run world = ((write.run world.1).1, ((write.run world.1).2,
      world.2 ++ [.wrote row p world.1 (write.run world.1).1 (write.run world.1).2])) := rfl
  rw [ran, refused]
  simp [journal, writesOf]

/-- Where no write breaks down, what is kept is what is noted. -/
theorem Host.Keeps.noting {h : Host F W} {view : W → S}
    {keep : S → Option Transition → Progress → S} (keeps : h.Keeps view keep) (sturdy : h.Sturdy) :
    h.noting.Keeps (journal view) (keepJournal keep) where
  behaviour f call w := by simp [journal, Host.noting, writesOf, keeps.behaviour]
  now w := by simp [journal, Host.noting, besideLog, keeps.now]
  freshEventId w := by simp [journal, Host.noting, besideLog, keeps.freshEventId]
  freshTickId w := by simp [journal, Host.noting, besideLog, keeps.freshTickId]
  sleep delay w := by simp [journal, Host.noting, besideLog, keeps.sleep]
  checkpoint p w := by
    refine (journal_of_write (sturdy.checkpoint p w.1)).trans ?_
    rw [keeps.checkpoint]
    rfl
  checkpoint_calm p w fault broken := keeps.checkpoint_calm p w.1 fault broken
  record t p w fits := by
    refine (journal_of_write (sturdy.record t p w.1 fits)).trans ?_
    rw [keeps.record t p w.1 fits]
    rfl
  record_calm t p w fault fits broken := keeps.record_calm t p w.1 fault fits broken
  refuse t p w fault unfit := by
    obtain ⟨refused, still⟩ := keeps.refuse t p w.1 fault unfit
    refine ⟨refused, (journal_of_refusal refused).trans ?_⟩
    rw [still]
    rfl

namespace Engine

variable {answers : Question F → Except Raised Value → Prop} {capped : Prop} {fr : Frame F}
variable {g : Graph F} {p : Progress} {s after : Stance} {id : String} {node : State F}

/-! ## The rows of a visit -/

/-- A row of a failed attempt at the state `id`. -/
def IsAttemptAt (row : Transition) (id : String) : Prop :=
  row.moves = false ∧ row.fromId = id ∧ row.toId = id

/-- A turn after which the task is under way has kept it where it is, with a failed attempt or without a
row, or it has moved it to where it then stands. -/
theorem Turn.kept_or_moved (fit : fr.graph.Fit) {e : Entry} (turn : Turn answers capped fr s e after)
    (running : after.progress.lifecycle = .running) :
    (position fr.graph after.progress = position fr.graph s.progress ∧
      ∀ row, e.row = some row → IsAttemptAt row (position fr.graph s.progress)) ∨
    ∃ row, e.row = some row ∧ row.moves = true ∧ row.toId = position fr.graph after.progress := by
  cases turn with
  | begin stands work idle => exact .inl ⟨rfl, nofun⟩
  | @halt id status message stands => cases status <;> cases running
  | rest stands resumes => cases running
  | fail doomed => cases running
  | @visit id node j verdict now row p visit decided lands owner fits =>
      obtain ⟨q, answer, -, -, rfl⟩ := visit.answered
      obtain ⟨shape, looks⟩ : ∃ shape, row.shape = shape := ⟨_, rfl⟩
      rw [looks] at lands
      cases landing_of_landed lands with
      | again reason attempt =>
          have isAttempt := reacted_again_reason decided
          have reason_eq : row.reason = .known reason := congrArg Shape.reason looks
          refine .inl ⟨position_of_same (reacted_samePlace _ _ _ _).currentStateId, ?_⟩
          rintro row' same
          cases same
          rw [visit.stands.1]
          exact ⟨by simp [Transition.moves, reason_eq, isAttempt], congrArg Shape.fromId looks,
            congrArg Shape.toId looks⟩
      | @left step target targetNode p leads found arrives =>
          have notAttempt := reacted_leave_reason decided
          have reason_eq : row.reason = .known step.reason := congrArg Shape.reason looks
          have named := fit.named id node step.event target visit.stands.2 leads
          have here : p = Progress.moved _ step target := arrives.moved running
          have there : position fr.graph p = target := by
            rw [here]
            exact position_of_current rfl named
          exact .inr ⟨row, rfl, by simp [Transition.moves, reason_eq, notAttempt],
            (congrArg Shape.toId looks).trans there.symm⟩

/-- The rows up to where a task stands end in failed attempts at its state; the row before them, if there
is one, leads there. -/
structure LeadsTo (rows : List Transition) (id : String) (done tries : List Transition) : Prop where
  all : rows = done ++ tries
  tried : ∀ row ∈ tries, IsAttemptAt row id
  arrived : ∀ row, done.getLast? = some row → row.moves = true ∧ row.toId = id

namespace LeadsTo

variable {rows done tries : List Transition} {row : Transition}

theorem attempt (leads : LeadsTo rows id [] tries) (attempt : IsAttemptAt row id) :
    LeadsTo (row :: rows) id [] (row :: tries) := by
  refine ⟨by rw [leads.all]; rfl, ?_, leads.arrived⟩
  rintro t (_ | ⟨_, later⟩)
  · exact attempt
  · exact leads.tried t later

theorem moved (leads : LeadsTo rows id [] tries) (moves : row.moves = true) (toId : row.toId = id) :
    LeadsTo (row :: rows) id [row] tries := by
  refine ⟨by rw [leads.all]; rfl, leads.tried, ?_⟩
  rintro t same
  cases same
  exact ⟨moves, toId⟩

theorem earlier {first : Transition} (leads : LeadsTo rows id (first :: done) tries)
    (row : Transition) : LeadsTo (row :: rows) id (row :: first :: done) tries := by
  refine ⟨by rw [leads.all]; rfl, leads.tried, fun t atEnd => leads.arrived t ?_⟩
  rwa [List.getLast?_cons_cons] at atEnd

end LeadsTo

/-- A turn before rows that lead somewhere: its own row, if it has one, leads there too. -/
theorem Turn.leadsTo (fit : fr.graph.Fit) {e : Entry} {middle : Stance} {rows done tries : List Transition}
    (turn : Turn answers capped fr s e middle) (running : middle.progress.lifecycle = .running)
    (leads : LeadsTo rows id done tries) (start : done = [] → position fr.graph middle.progress = id) :
    ∃ done tries, LeadsTo (e.row.toList ++ rows) id done tries ∧
      (done = [] → position fr.graph s.progress = id) := by
  cases done with
  | cons first done =>
      cases e.row with
      | none => exact ⟨first :: done, tries, leads, nofun⟩
      | some row => exact ⟨row :: first :: done, tries, leads.earlier row, nofun⟩
  | nil =>
      have here := start rfl
      rcases turn.kept_or_moved fit running with ⟨stays, attempts⟩ | ⟨row, isRow, moves, toId⟩
      · cases isRow : e.row with
        | none => exact ⟨[], tries, leads, fun _ => stays ▸ here⟩
        | some row =>
            have attempt := attempts row isRow
            rw [← stays, here] at attempt
            exact ⟨[], row :: tries, leads.attempt attempt, fun _ => stays ▸ here⟩
      · rw [isRow]
        exact ⟨[row], tries, leads.moved moves (toId.trans here), nofun⟩

/-- The rows of a walk whose task is under way lead to where it stands. -/
theorem Walk.leadsTo (fit : fr.graph.Fit) {entries : List Entry}
    (walk : Walk answers capped fr s entries after) (more : Open entries after) :
    ∃ done tries, LeadsTo (rowsOf entries) (position fr.graph after.progress) done tries ∧
      (done = [] → position fr.graph s.progress = position fr.graph after.progress) := by
  have nothing : ∀ id, LeadsTo [] id [] [] := fun id => ⟨rfl, nofun, nofun⟩
  induction walk with
  | refl s => exact ⟨[], [], nothing _, fun _ => rfl⟩
  | last turn =>
      have running := more.resolve_right (by simp)
      rw [rowsOf_cons]
      exact turn.leadsTo fit running (nothing _) fun _ => rfl
  | @step s middle after e entries turn running rest ih =>
      obtain ⟨done, tries, leads, start⟩ := ih (.inl (more.resolve_right (by simp)))
      rw [rowsOf_cons]
      exact turn.leadsTo fit running leads start

/-! ## Ends -/

theorem Walk.alive {entries : List Entry} (walk : Walk answers capped fr s entries after)
    (active : s.progress.lifecycle.isTerminal = false) (more : Open entries after) :
    after.progress.lifecycle.isTerminal = false := by
  rcases more with running | rfl
  · exact alive_of_running running
  · cases walk
    exact active

/-- A task that has an end where it stands has ended. -/
def EndsOnly (p : Progress) : Prop :=
  p.terminalStateId = none ∨ p.lifecycle.isTerminal = true

theorem EndsOnly.unended (ends : EndsOnly p) (alive : p.lifecycle.isTerminal = false) :
    p.terminalStateId = none := by
  refine ends.resolve_right ?_
  rw [alive]
  exact nofun

theorem EndsOnly.lasts : Lasting g EndsOnly := by
  have ended : ∀ status : EndStatus, (Lifecycle.ofEnd status).isTerminal = true := by
    intro status
    cases status <;> rfl
  have landing : ∀ {answers : Question F → Except Raised Value → Prop} {fr : Frame F} {s : Stance}
      {id : String} {node : State F} {j : Judgement Verdict} {verdict : Verdict} {now : Instant}
      {shape : Shape} {q : Progress}, Visit answers fr s id node j →
      landed fr.graph id node now j.after.progress verdict = .ok (shape, q) →
      EndsOnly s.progress → EndsOnly q := by
    intro answers fr s id node j verdict now shape q visit lands ends
    have still : j.after.progress.terminalStateId = none :=
      visit.samePlace.terminalStateId.trans (ends.unended (alive_of_running visit.running))
    cases landing_of_landed lands with
    | again reason attempt => exact .inl still
    | left leads found arrives =>
        cases arrives with
        | ended status message => exact .inr (ended status)
        | paused resumes => exact .inl still
        | onward work => exact .inl still
  refine ⟨fun _ _ _ => .inl rfl, fun _ ends => ends, ?_, fun _ visit _ => landing visit,
    fun text paused ends => .inl (ends.unended (by rw [paused]; rfl))⟩
  intro answers capped fr s after e same turn alive ends
  cases turn with
  | begin stands work idle => exact .inl (ends.unended alive)
  | @halt id status message stands => exact .inr (ended status)
  | rest stands resumes => exact .inl (ends.unended alive)
  | visit visit decided lands owner fits => exact landing visit lands ends
  | fail doomed => exact .inr rfl

end Engine

open Engine

/-- The writes of an advance over a store in memory, in order. -/
def writesOfAdvance (h : Host F W) (budget : Budget) (g : Graph F) (task : TaskInfo) (runId : String)
    (tickId feedback : Option String) (p : Progress) (world : W × MemoryStore) :
    List (Option Transition × Progress) :=
  writesOf (Engine.advance h.overMemory.noting budget g task runId tickId feedback p
    (world, [])).2.2

/-- The task is stored as failed, for the cause. -/
structure StoredAsFailed (m : MemoryStore) (q : Progress) (cause : FatalCause) : Prop where
  stored : m.load? q.taskId = some q
  lifecycle : q.lifecycle = .failed
  lastError : q.lastError = some cause.message
  waitingSince : q.waitingSince = none
  terminalStateId : q.terminalStateId = none

/-- Two progresses that are about to take the same step. -/
structure Progress.AtSameStep (p q : Progress) : Prop where
  currentStateId : p.currentStateId = q.currentStateId
  context : p.context = q.context
  loopIterations : p.loopIterations = q.loopIterations
  transitionCount : p.transitionCount = q.transitionCount

/-- The progress that was written last, or the one that was there before. -/
def lastWritten (writes : List (Option Transition × Progress)) (start : Progress) : Progress :=
  (writes.getLast?.map Prod.snd).getD start

theorem Engine.Walk.lastWritten {answers : Question F → Except Raised Value → Prop} {capped : Prop}
    {fr : Frame F} {s after : Stance} {entries : List Entry}
    (walk : Walk answers capped fr s entries after) :
    lastWritten (entries.map fun e => (e.row, e.progress)) s.progress = after.progress := by
  obtain ⟨-, -, -, last⟩ := walk.owner
  unfold Tickwork.lastWritten
  cases atEnd : entries.getLast? with
  | some e => simp [List.getLast?_map, atEnd, last e atEnd]
  | none =>
      rw [List.getLast?_eq_none_iff] at atEnd
      subst atEnd
      cases walk
      rfl

/-- A graph with two actions, the second of which may be tried twice. -/
def twoActions : Graph Unit where
  id := "demo"
  start := "first"
  context := [(.text "count", .int 0)]
  states :=
    [("first", .action (.slot (.code () .whole)) ⟨some "second", some "finish", none⟩ none),
      ("second", .action (.slot (.code () .whole)) ⟨some "finish", some "finish", none⟩
        (some ⟨.int 1, .null, none⟩)),
      ("finish", .terminal .done none)]
  guards := []
  handlers := []

/-- A host whose callable is done with the first action and fails the second one, and reports at the
second attempt what no action can report. -/
def losingHost : Host Unit Unit where
  behaviour
    | _, .handler input => pure ⟨.ok (plainReport (if input.stateId = "first" then "done"
        else if input.attempt = 1 then "failed" else "lost")), input.context⟩
    | _, call => pure ⟨.ok .null, call.context⟩
  now := pure ⟨0⟩
  freshEventId := pure "row"
  freshTickId := pure "tick"
  sleep _ := pure ()
  checkpoint _ := pure ()
  record _ _ := pure ()

def lostAdvance : (Except Fault Finish × Progress) × (Unit × MemoryStore) :=
  Engine.advance losingHost.overMemory (.clamped 25 200) twoActions ⟨"t1", none, none, none⟩ "run"
    none none (.newTask "t1" "demo" []) ((), .empty)

end Tickwork
