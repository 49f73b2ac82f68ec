import Tickwork.Ledger.Replay
import Tickwork.Proofs.Rules

/-!
# The ledger leads to where the task stands

`Aligned` ties the rows of a task to its progress: the rows replay, and the last of them leads to the
stored position, or into a pause whose resume target is the stored position. Every turn keeps it, and so
does every walk. Verification then succeeds, unless a pause went on at an end of the graph: the task ends
there without a row, and the ledger still says that it is paused.
-/

set_option autoImplicit false

namespace Tickwork

variable {F W S : Type}

/-! ## Replaying one row more -/

namespace Replay

theorem walk_append {ids : List String} (first second : List Transition) (current : String)
    (previous : Option Transition) :
    walk ids current previous (first ++ second) =
      match walk ids current previous first with
      | .ok final => walk ids final (first.getLast?.or previous) second
      | .error fault => .error fault := by
  induction first generalizing current previous with
  | nil => simp [walk]
  | cons t rest ih =>
      simp only [List.cons_append, walk, bind, Except.bind]
      cases t.check with
      | error fault => rfl
      | ok _ =>
          simp only
          by_cases broken : t.fromId ≠ current ∧ afterPause ids previous = false
          · rw [if_pos broken, if_pos broken]
          · rw [if_neg broken, if_neg broken, ih]
            cases walk ids t.toId (some t) rest with
            | error fault => rfl
            | ok final =>
                rw [List.getLast?_cons]
                cases rest.getLast? <;> rfl

end Replay

/-- A row continues a ledger that replays, if it starts where the last row led to or follows a pause. -/
theorem replay_snoc {ids : List String} {rows : List Transition} {t : Transition}
    (replays : replay ids rows = .ok (rows.getLast?.map Transition.toId)) (fits : t.check = .ok ())
    (joins : ∀ last, rows.getLast? = some last →
      t.fromId = last.toId ∨ Replay.afterPause ids (some last) = true) :
    replay ids (rows ++ [t]) = .ok ((rows ++ [t]).getLast?.map Transition.toId) := by
  rw [List.getLast?_append, List.getLast?_singleton]
  cases rows with
  | nil => simp [replay, Replay.walk, fits, bind, Except.bind]
  | cons u rest =>
      obtain ⟨last, atEnd⟩ : ∃ last, (u :: rest).getLast? = some last :=
        ⟨_, List.getLast?_eq_some_getLast (by simp)⟩
      simp only [replay, List.cons_append, bind, Except.bind] at replays ⊢
      rw [atEnd] at replays
      cases walked : Replay.walk ids u.fromId none (u :: rest) with
      | error fault =>
          rw [walked] at replays
          cases replays
      | ok final =>
          rw [walked] at replays
          cases replays
          have next : ¬ (t.fromId ≠ last.toId ∧ Replay.afterPause ids (some last) = false) := by
            rintro ⟨apart, notPause⟩
            rcases joins last atEnd with same | pause
            · exact apart same
            · rw [pause] at notPause
              cases notPause
          rw [← List.cons_append, Replay.walk_append, walked]
          simp only [atEnd, Option.some_or, Replay.walk, fits, bind, Except.bind, if_neg next]
          rfl

/-! ## Where a ledger says that a task stands -/

/-- Where a task stands after a row: at its target, or where the pause that it leads into goes on. -/
def resumePoint (g : Graph F) (last : Transition) : Except Fault String :=
  if g.feedbackIds.contains last.toId then g.resumeTarget last.toId (some last.fromId)
  else .ok last.toId

/-- Where the progress says that the task stands or ended. -/
def Progress.stored (p : Progress) : Option String :=
  p.terminalStateId.or p.currentStateId

/-- The rows of a task lead to where its progress says that it stands. -/
structure Aligned (g : Graph F) (rows : List Transition) (p : Progress) : Prop where
  replays : replay g.feedbackIds rows = .ok (rows.getLast?.map Transition.toId)
  place : ∀ last, rows.getLast? = some last →
    ∃ next, resumePoint g last = .ok next ∧ p.stored = some next
  source : ∀ last, rows.getLast? = some last →
    last.fromId ≠ "" ∧ ∃ node, g.state? last.fromId = some node ∧ Engine.isWork node = true
  pausing : p.lifecycle = .feedback → ∀ last, rows.getLast? = some last →
    last.toId ∈ g.feedbackIds
  ended : ∀ id, p.terminalStateId = some id → p.lifecycle.isTerminal = true ∧
    ∃ status message, g.state? id = some (.terminal status message)
  named : ∀ id, p.currentStateId = some id → id ≠ ""
  attempts : ∀ entry ∈ p.attempts, 1 ≤ entry.2
  rounds : ∀ entry ∈ p.loopIterations, 0 ≤ entry.2

/-- The task ended where a pause went on: the last row leads into the pause, and no row to the end. -/
def EndedAfterPause (g : Graph F) (rows : List Transition) (p : Progress) : Prop :=
  ∃ last id, rows.getLast? = some last ∧ last.toId ∈ g.feedbackIds ∧
    g.resumeTarget last.toId (some last.fromId) = .ok id ∧ p.terminalStateId = some id

/-! ## Verification of an aligned ledger -/

namespace Aligned

variable {g : Graph F} {rows : List Transition} {p : Progress}

theorem stored_of_running (open' : p.terminalStateId = none) : p.stored = p.currentStateId := by
  simp [Progress.stored, open']

/-- A ledger whose last row does not lead into a pause matches the progress. -/
theorem matches_regular (aligned : Aligned g rows p) {last : Transition}
    (atEnd : rows.getLast? = some last) (elsewhere : g.feedbackIds.contains last.toId = false) :
    g.matchesProgress rows last.toId p = .ok () := by
  obtain ⟨next, resumes, stands⟩ := aligned.place last atEnd
  have same : next = last.toId := by
    simp only [resumePoint, elsewhere, Bool.false_eq_true, if_false] at resumes
    cases resumes
    rfl
  subst same
  have notPaused : p.lifecycle ≠ .feedback := by
    intro paused
    have inside := aligned.pausing paused last atEnd
    simp [inside] at elsewhere
  unfold Graph.matchesProgress
  simp only [elsewhere, notPaused, false_and, if_false, Bool.false_eq_true]
  unfold Progress.stored at stands
  cases ended : p.terminalStateId with
  | none =>
      simp only [ended, Option.none_or] at stands
      simp [stands]
  | some id =>
      simp only [ended, Option.some_or] at stands
      simp [stands]

/-- A ledger whose last row leads into a pause matches the progress of a task that has not ended. -/
theorem matches_paused (aligned : Aligned g rows p) {last : Transition}
    (atEnd : rows.getLast? = some last) (paused : g.feedbackIds.contains last.toId = true)
    (open' : p.terminalStateId = none) : g.matchesProgress rows last.toId p = .ok () := by
  obtain ⟨next, resumes, stands⟩ := aligned.place last atEnd
  rw [stored_of_running open'] at stands
  simp only [resumePoint, paused, if_true] at resumes
  unfold Graph.matchesProgress
  simp only [paused, Bool.true_eq_false, and_false, if_false, open', and_self, if_true, lastSource,
    atEnd, Option.map_some, resumes, bind, Except.bind, stands]

/-- A ledger that still leads into a pause does not match a task that has ended elsewhere. -/
theorem matches_ended_after_pause (aligned : Aligned g rows p) (distinct : (names g.states).Nodup)
    {last : Transition} {id : String} (paused : last.toId ∈ g.feedbackIds)
    (ended : p.terminalStateId = some id) :
    g.matchesProgress rows last.toId p =
      .error (.replay (.endsElsewhere last.toId p.taskId (some id))) := by
  obtain ⟨isOver, status, message, found⟩ := aligned.ended id ended
  have apart : ¬ id = last.toId := by
    rintro rfl
    obtain ⟨resume, pause⟩ := (Graph.mem_feedbackIds distinct).mp paused
    rw [found] at pause
    cases pause
  unfold Graph.matchesProgress
  simp [paused, ended, apart]

theorem verify_ok (aligned : Aligned g rows p) (regular : ¬ EndedAfterPause g rows p) :
    g.verify rows p = .ok (rows.getLast?.map Transition.toId) := by
  unfold Graph.verify
  rw [aligned.replays]
  cases atEnd : rows.getLast? with
  | none => rfl
  | some last =>
      have matched : g.matchesProgress rows last.toId p = .ok () := by
        cases paused : g.feedbackIds.contains last.toId with
        | false => exact aligned.matches_regular atEnd paused
        | true =>
            refine aligned.matches_paused atEnd paused ?_
            cases ended : p.terminalStateId with
            | none => rfl
            | some id =>
                refine absurd ?_ regular
                obtain ⟨next, resumes, stands⟩ := aligned.place last atEnd
                simp only [Progress.stored, ended, Option.some_or, Option.some.injEq] at stands
                subst stands
                simp only [resumePoint, paused, if_true] at resumes
                exact ⟨last, id, atEnd, by simpa using paused, resumes, ended⟩
      simp only [Option.map_some, bind, Except.bind, matched]

theorem verify_error (aligned : Aligned g rows p) (distinct : (names g.states).Nodup)
    (odd : EndedAfterPause g rows p) :
    ∃ final id, g.verify rows p =
      .error (.replay (.endsElsewhere final p.taskId (some id))) := by
  obtain ⟨last, id, atEnd, paused, -, ended⟩ := odd
  refine ⟨last.toId, id, ?_⟩
  unfold Graph.verify
  rw [aligned.replays]
  simp only [atEnd, Option.map_some, bind, Except.bind,
    aligned.matches_ended_after_pause distinct paused ended]

end Aligned

/-! ## What a turn keeps -/

/-- Attempts are counted from one on, and no loop has begun fewer than no rounds. -/
def Progress.Counted (p : Progress) : Prop :=
  (∀ entry ∈ p.attempts, 1 ≤ entry.2) ∧ ∀ entry ∈ p.loopIterations, 0 ≤ entry.2

theorem mem_put {α : Type} {name : String} {value : α} {entries : List (String × α)}
    {entry : String × α} (inside : entry ∈ Sorted.put name value entries) :
    entry = (name, value) ∨ entry ∈ entries := by
  induction entries with
  | nil => exact .inl (by simpa [Sorted.put] using inside)
  | cons head rest ih =>
      obtain ⟨k, v⟩ := head
      unfold Sorted.put at inside
      by_cases same : k = name
      · rw [if_pos same] at inside
        exact (List.mem_cons.mp inside).imp_right (List.mem_cons_of_mem _)
      · rw [if_neg same] at inside
        by_cases before : name < k
        · rw [if_pos before] at inside
          exact List.mem_cons.mp inside
        · rw [if_neg before] at inside
          rcases List.mem_cons.mp inside with rfl | later
          · exact .inr List.mem_cons_self
          · exact (ih later).imp_right (List.mem_cons_of_mem _)

theorem mem_erase {α : Type} {name : String} {entries : List (String × α)} {entry : String × α}
    (inside : entry ∈ Sorted.erase name entries) : entry ∈ entries :=
  (List.mem_filter.mp inside).1

theorem lookup_nonneg {counters : Counters} (counted : ∀ entry ∈ counters, 0 ≤ entry.2)
    (name : String) : 0 ≤ (counters.lookup name).getD 0 := by
  cases found : counters.lookup name with
  | none => exact Int.le_refl 0
  | some n => exact counted (name, n) (Graph.mem_of_lookup found)

theorem Progress.Counted.attemptNumber_pos {p : Progress} (counted : p.Counted) (id : String) :
    1 ≤ p.attemptNumber id := by
  have nonneg : ∀ entry ∈ p.attempts, 0 ≤ entry.2 := fun entry inside =>
    Int.le_trans (by decide) (counted.1 entry inside)
  have count := lookup_nonneg nonneg id
  unfold Progress.attemptNumber
  omega

namespace Engine

open Tickwork.Action

variable {answers : Question F → Except Raised Value → Prop} {capped : Prop} {fr : Frame F}

theorem reacted_counted (id : String) (s : Stance) (node : State F) (answer : Except Raised Value)
    (counted : s.progress.Counted) : (reacted id s node answer).after.progress.Counted := by
  have attempts_erased : ∀ entry ∈ Sorted.erase id s.progress.attempts, 1 ≤ entry.2 :=
    fun entry inside => counted.1 entry (mem_erase inside)
  have rounds_erased : ∀ entry ∈ Sorted.erase id s.progress.loopIterations, 0 ≤ entry.2 :=
    fun entry inside => counted.2 entry (mem_erase inside)
  have attempts_put : ∀ entry ∈
      Sorted.put id (s.progress.attemptNumber id) s.progress.attempts, 1 ≤ entry.2 := by
    intro entry inside
    rcases mem_put inside with rfl | old
    · exact counted.attemptNumber_pos id
    · exact counted.1 entry old
  have rounds_put : ∀ entry ∈
      Sorted.put id (s.progress.roundsBegun id + 1) s.progress.loopIterations, 0 ≤ entry.2 := by
    intro entry inside
    rcases mem_put inside with rfl | old
    · have nonneg := lookup_nonneg counted.2 id
      simp only [Progress.roundsBegun]
      omega
    · exact counted.2 entry old
  cases node with
  | action handler routes retry =>
      unfold reacted actionReacted attempted judged concluded Progress.settled
      simp only
      repeat' split
      all_goals first
        | exact counted
        | exact ⟨attempts_erased, counted.2⟩
        | exact ⟨attempts_put, counted.2⟩
  | orchestrate routes handler selector =>
      unfold reacted handlerReacted selectorReacted
      simp only
      repeat' split
      all_goals exact counted
  | loop body bound routes stop =>
      unfold reacted loopReacted
      simp only
      repeat' split
      all_goals first
        | exact counted
        | exact ⟨counted.1, rounds_erased⟩
        | exact ⟨counted.1, rounds_put⟩
  | feedback resume => exact counted
  | terminal status message => exact counted
  | unsupported v => exact counted

theorem attempted_settled {id : String} {attempt : Int} {s : Stance} {answer : Except Raised Value}
    {o : Outcome} (settled : (attempted id attempt s answer).result = .ok (.settled o)) :
    o.status = "done" ∨ o.status = "feedback" := by
  cases answer with
  | error e => cases e <;> simp [attempted] at settled
  | ok v =>
      simp only [attempted] at settled
      cases read : Outcome.read id v with
      | error cause => simp [read] at settled
      | ok o' =>
          rw [read] at settled
          simp only [judged] at settled
          cases known : actionEvents.contains o'.status with
          | false =>
              simp only [known, Bool.not_false, if_true] at settled
              cases settled
          | true =>
              simp only [known, Bool.not_true, Bool.false_eq_true, if_false] at settled
              by_cases failed : o'.status = "failed"
              · rw [if_neg (by simp [failed])] at settled
                cases settled
              · rw [if_pos failed] at settled
                cases settled
                simp only [actionEvents, List.contains_iff_mem, List.mem_cons, List.not_mem_nil,
                  or_false] at known
                rcases known with done | feedback | failed'
                · exact .inl done
                · exact .inr feedback
                · exact absurd failed' failed

/-- The counters of a verdict's row are not negative, and its event fits its reason. -/
def Verdict.Sane : Verdict → Prop
  | .again reason attempt => reason.isAttempt = true ∧ 0 ≤ attempt
  | .leave step => (step.reason.requiredEvent?.getD step.event) = step.event ∧
      step.reason.isAttempt = false ∧ 0 ≤ step.attempt ∧ 0 ≤ step.loopIteration

theorem reacted_sane {id : String} {s : Stance} {node : State F} {answer : Except Raised Value}
    {verdict : Verdict} (counted : s.progress.Counted)
    (decided : (reacted id s node answer).result = .ok verdict) : verdict.Sane := by
  have attempt_nonneg : 0 ≤ s.progress.attemptNumber id :=
    Int.le_trans (by decide) (counted.attemptNumber_pos id)
  have rounds_nonneg : 0 ≤ s.progress.roundsBegun id := lookup_nonneg counted.2 id
  cases node with
  | action handler routes retry =>
      unfold reacted actionReacted at decided
      simp only at decided
      cases came : (attempted id (s.progress.attemptNumber id) s answer).result with
      | error fault =>
          rw [came] at decided
          cases decided
      | ok outcome =>
          rw [came] at decided
          cases outcome with
          | settled o =>
              simp only [concluded] at decided
              cases decided
              rcases attempted_settled came with done | feedback
              · exact ⟨by simp [settledStep, done, Reason.requiredEvent?],
                  by simp [settledStep, done, Reason.isAttempt], attempt_nonneg, Int.le_refl 0⟩
              · exact ⟨by simp [settledStep, feedback, Reason.requiredEvent?],
                  by simp [settledStep, feedback, Reason.isAttempt], attempt_nonneg, Int.le_refl 0⟩
          | failed reason message =>
              have isAttempt := attempted_reason came
              simp only [concluded] at decided
              split at decided
              · split at decided <;> cases decided
                exact ⟨rfl, rfl, attempt_nonneg, Int.le_refl 0⟩
              · cases decided
                exact ⟨isAttempt, attempt_nonneg⟩
  | orchestrate routes handler selector =>
      unfold reacted handlerReacted selectorReacted at decided
      simp only at decided
      repeat' split at decided
      all_goals cases decided
      all_goals exact ⟨rfl, rfl, Int.one_nonneg, Int.le_refl 0⟩
  | loop body bound routes stop =>
      unfold reacted loopReacted at decided
      simp only at decided
      repeat' split at decided
      all_goals cases decided
      all_goals exact ⟨rfl, rfl, Int.one_nonneg, by simp only [loopStep]; omega⟩
  | feedback resume => cases decided
  | terminal status message => cases decided
  | unsupported v => cases decided

/-- The row of a failed attempt at a state with a name passes its check. -/
theorem check_of_attempt {id : String} (own : id ≠ "") {reason : Reason}
    (isAttempt : reason.isAttempt = true) {attempt : Int} (nonneg : 0 ≤ attempt) {row : Transition}
    (shape : row.shape = ⟨id, id, "failed", .known reason, attempt, 0⟩) : row.check = .ok () := by
  have fromId : row.fromId = id := congrArg Shape.fromId shape
  have toId : row.toId = id := congrArg Shape.toId shape
  have event : row.event = "failed" := congrArg Shape.event shape
  have reason_eq : row.reason = .known reason := congrArg Shape.reason shape
  have attempt_eq : row.attempt = attempt := congrArg Shape.attempt shape
  have rounds : row.loopIteration = 0 := congrArg Shape.loopIteration shape
  have required : reason.requiredEvent? = some "failed" := by
    cases reason <;> first | rfl | cases isAttempt
  simp [Transition.check, Transition.checkReason, reason_eq, fromId, toId, own, required, event,
    attempt_eq, rounds]
  omega

/-- A row out of a state with a name, with a sane verdict's event and counters, passes its check. -/
theorem check_of_named {g : Graph F} (valid : g.violations = []) {id : String} (own : id ≠ "")
    {node : State F} {now : Instant} {p q : Progress} {verdict : Verdict} {row : Transition}
    (found : g.state? id = some node) (sane : verdict.Sane)
    (lands : landed g id node now p verdict = .ok (row.shape, q)) : row.check = .ok () := by
  cases verdict with
  | again reason attempt =>
      simp only [landed, Except.ok.injEq, Prod.mk.injEq] at lands
      exact check_of_attempt own sane.1 sane.2 lands.1.symm
  | leave step =>
      obtain ⟨event_fits, notAttempt, attempt_nonneg, rounds_nonneg⟩ := sane
      obtain ⟨shape, looks⟩ : ∃ shape, row.shape = shape := ⟨_, rfl⟩
      rw [looks] at lands
      cases landing_of_landed lands with
      | @left _ target targetNode _ leads foundTarget arrives =>
          have named : target ≠ "" := (Graph.target_sound valid found leads).1
          have fromId : row.fromId = id := congrArg Shape.fromId looks
          have toId : row.toId = target := congrArg Shape.toId looks
          have event : row.event = step.event := congrArg Shape.event looks
          have reason_eq : row.reason = .known step.reason := congrArg Shape.reason looks
          have attempt_eq : row.attempt = step.attempt := congrArg Shape.attempt looks
          have rounds : row.loopIteration = step.loopIteration :=
            congrArg Shape.loopIteration looks
          simp [Transition.check, Transition.checkReason, reason_eq, fromId, toId, own, named,
            notAttempt, event, attempt_eq, rounds, event_fits]
          omega

/-- In a graph whose states have names, every such row passes its check. -/
theorem check_of_landed {g : Graph F} (sound : g.Sound) {id : String} {node : State F}
    {now : Instant} {p q : Progress} {verdict : Verdict} {row : Transition}
    (found : g.state? id = some node) (sane : verdict.Sane)
    (lands : landed g id node now p verdict = .ok (row.shape, q)) : row.check = .ok () :=
  check_of_named sound.valid (sound.named id (List.mem_map_of_mem (Graph.mem_of_state? found))) found
    sane lands

end Engine

/-! ## One row more -/

theorem Aligned.snoc {g : Graph F} {rows : List Transition} {p p' : Progress} {t : Transition}
    {next : String} (aligned : Aligned g rows p) (stands : p.currentStateId = some t.fromId)
    (open' : p.terminalStateId = none) (fits : t.check = .ok ())
    (source : t.fromId ≠ "" ∧ ∃ node, g.state? t.fromId = some node ∧ Engine.isWork node = true)
    (resumes : resumePoint g t = .ok next) (stored : p'.stored = some next)
    (pausing : p'.lifecycle = .feedback → t.toId ∈ g.feedbackIds)
    (ended : ∀ id, p'.terminalStateId = some id → p'.lifecycle.isTerminal = true ∧
      ∃ status message, g.state? id = some (.terminal status message))
    (named : ∀ id, p'.currentStateId = some id → id ≠ "") (counted : p'.Counted) :
    Aligned g (rows ++ [t]) p' := by
  have atEnd : (rows ++ [t]).getLast? = some t := List.getLast?_concat
  refine ⟨replay_snoc aligned.replays fits ?_, ?_, ?_, ?_, ended, named, counted.1, counted.2⟩
  · intro last found
    obtain ⟨point, goesOn, at_point⟩ := aligned.place last found
    rw [Aligned.stored_of_running open', stands] at at_point
    cases at_point
    by_cases paused : g.feedbackIds.contains last.toId = true
    · have inside : last.toId ∈ g.feedbackIds := by simpa using paused
      exact .inr (by simp [Replay.afterPause, inside])
    · rw [resumePoint, if_neg paused] at goesOn
      exact .inl (Except.ok.inj goesOn).symm
  · intro last found
    rw [atEnd] at found
    cases found
    exact ⟨next, resumes, stored⟩
  · intro last found
    rw [atEnd] at found
    cases found
    exact source
  · intro paused last found
    rw [atEnd] at found
    cases found
    exact pausing paused

namespace Engine

variable {answers : Question F → Except Raised Value → Prop} {capped : Prop} {fr : Frame F}
variable {rows : List Transition} {s after : Stance} {e : Entry}

/-- The rows of a task that has a position and has not ended. -/
structure Underway (g : Graph F) (rows : List Transition) (p : Progress) : Prop where
  aligned : Aligned g rows p
  active : p.lifecycle.isTerminal = false
  placed : ∃ id, p.currentStateId = some id

namespace Underway

variable {g : Graph F} {p : Progress}

theorem open' (underway : Underway g rows p) : p.terminalStateId = none := by
  cases ended : p.terminalStateId with
  | none => rfl
  | some id =>
      have isOver := (underway.aligned.ended id ended).1
      rw [underway.active] at isOver
      cases isOver

theorem current (underway : Underway g rows p) {id : String} {node : State F}
    (stands : StandsAt g p id node) : p.currentStateId = some id := by
  obtain ⟨id', current⟩ := underway.placed
  have named := underway.aligned.named id' current
  rw [current, ← stands.1, position_of_current current named]

theorem counted (underway : Underway g rows p) : p.Counted :=
  ⟨underway.aligned.attempts, underway.aligned.rounds⟩

/-- Where the task stands is where the ledger says that it goes on. -/
theorem resumes (underway : Underway g rows p) {id : String} {node : State F}
    (stands : StandsAt g p id node) (last : Transition) (atEnd : rows.getLast? = some last) :
    resumePoint g last = .ok id := by
  obtain ⟨next, resumes, stored⟩ := underway.aligned.place last atEnd
  rw [Aligned.stored_of_running underway.open', underway.current stands] at stored
  cases stored
  exact resumes

end Underway

theorem resumePoint_of_rest {g : Graph F} (sound : g.Sound) {t : Transition} {node : State F}
    (found : g.state? t.toId = some node) (regular : node.isFeedback = false) :
    resumePoint g t = .ok t.toId := by
  unfold resumePoint
  rw [if_neg]
  intro paused
  obtain ⟨resume, pause⟩ := (Graph.mem_feedbackIds sound.distinct).mp (by simpa using paused)
  rw [found] at pause
  cases pause
  cases regular

theorem resumePoint_of_pause {g : Graph F} (sound : g.Sound) {t : Transition} {resume : String}
    (found : g.state? t.toId = some (.feedback resume)) :
    resumePoint g t = g.resumeTarget t.toId (some t.fromId) := by
  unfold resumePoint
  rw [if_pos]
  simpa using (Graph.mem_feedbackIds sound.distinct).mpr ⟨resume, found⟩

theorem resumeTarget_named {g : Graph F} (sound : g.Sound) {id source resume next : String}
    (found : g.state? id = some (.feedback resume)) (named : source ≠ "")
    (resumes : g.resumeTarget id (some source) = .ok next) : next ≠ "" := by
  unfold Graph.resumeTarget at resumes
  rw [lookup_of_state? found] at resumes
  simp only at resumes
  rcases Graph.pause_sound sound.valid found with ⟨back, -⟩ | ⟨target, elsewhere, there, -⟩
  · rw [if_neg (by simp [back])] at resumes
    simp only [named, if_false] at resumes
    cases resumes
    exact named
  · rw [if_pos elsewhere] at resumes
    cases resumes
    exact sound.named _ (List.mem_map_of_mem (Graph.mem_of_state? there))

/-- Where a task goes on after a row is never a pause. -/
theorem resumePoint_not_pause {g : Graph F} (sound : g.Sound) {p : Progress}
    (aligned : Aligned g rows p) {last : Transition} (atEnd : rows.getLast? = some last)
    {id resume : String} (resumes : resumePoint g last = .ok id) :
    g.state? id ≠ some (.feedback resume) := by
  intro pause
  unfold resumePoint at resumes
  by_cases paused : g.feedbackIds.contains last.toId = true
  · rw [if_pos paused] at resumes
    obtain ⟨resume', found⟩ := (Graph.mem_feedbackIds sound.distinct).mp (by simpa using paused)
    unfold Graph.resumeTarget at resumes
    rw [lookup_of_state? found] at resumes
    simp only at resumes
    rcases Graph.pause_sound sound.valid found with ⟨back, -⟩ | ⟨target, elsewhere, there, regular⟩
    · obtain ⟨named, node, source, work⟩ := aligned.source last atEnd
      rw [if_neg (by simp [back])] at resumes
      simp only [named, if_false] at resumes
      cases resumes
      rw [source] at pause
      cases pause
      cases work
    · rw [if_pos elsewhere] at resumes
      cases resumes
      rw [there] at pause
      cases pause
      cases regular
  · rw [if_neg paused] at resumes
    cases resumes
    exact paused (by simpa using (Graph.mem_feedbackIds sound.distinct).mpr ⟨resume, pause⟩)

theorem resumeTarget_first {g : Graph F} (sound : g.Sound) {id resume next : String}
    (found : g.state? id = some (.feedback resume)) (resumes : g.resumeTarget id none = .ok next) :
    next ≠ "" := by
  unfold Graph.resumeTarget at resumes
  rw [lookup_of_state? found] at resumes
  simp only at resumes
  rcases Graph.pause_sound sound.valid found with ⟨back, -⟩ | ⟨target, elsewhere, there, -⟩
  · rw [if_neg (by simp [back])] at resumes
    cases resumes
    exact sound.named _ (List.mem_map_of_mem (Graph.mem_of_state? found))
  · rw [if_pos elsewhere] at resumes
    cases resumes
    exact sound.named _ (List.mem_map_of_mem (Graph.mem_of_state? there))

theorem Doomed.same {cause : FatalCause} {taskId : Option String}
    (doomed : Doomed answers capped fr s cause taskId after) (counted : s.progress.Counted) :
    after.progress.SamePlace s.progress ∧ after.progress.Counted := by
  have here : s.progress.SamePlace s.progress := ⟨rfl, rfl, rfl, rfl, rfl, rfl, rfl⟩
  cases doomed with
  | missing absent => exact ⟨here, counted⟩
  | spent transitions stands work cap => exact ⟨here, counted⟩
  | unasked stands work running unresolved => exact ⟨here, counted⟩
  | judged visit refused =>
      obtain ⟨q, answer, -, -, rfl⟩ := visit.answered
      exact ⟨reacted_samePlace _ _ _ _, reacted_counted _ _ _ _ counted⟩
  | unrouted visit decided astray =>
      obtain ⟨q, answer, -, -, rfl⟩ := visit.answered
      exact ⟨reacted_samePlace _ _ _ _, reacted_counted _ _ _ _ counted⟩

theorem Landing.counted {g : Graph F} {id : String} {node : State F} {now : Instant}
    {verdict : Verdict} {shape : Shape} {p q : Progress}
    (lands : Landing g id node now p verdict shape q) (counted : p.Counted) : q.Counted := by
  cases lands with
  | again reason attempt => exact counted
  | left leads found arrives =>
      cases arrives with
      | ended status message => exact ⟨nofun, nofun⟩
      | paused resumes => exact counted
      | onward work => exact counted

theorem Turn.counted (turn : Turn answers capped fr s e after) (counted : s.progress.Counted) :
    after.progress.Counted := by
  cases turn with
  | begin stands work idle => exact counted
  | halt stands => exact ⟨nofun, nofun⟩
  | rest stands resumes => exact counted
  | visit visit decided lands owner fits =>
      obtain ⟨q, answer, -, -, rfl⟩ := visit.answered
      exact (landing_of_landed lands).counted (reacted_counted _ _ _ _ counted)
  | fail doomed => exact (doomed.same counted).2

theorem Walk.counted {entries : List Entry} (walk : Walk answers capped fr s entries after)
    (counted : s.progress.Counted) : after.progress.Counted := by
  induction walk with
  | refl s => exact counted
  | last turn => exact turn.counted counted
  | step turn running rest ih => exact ih (turn.counted counted)

theorem not_feedback_of_work {node : State F} (work : isWork node = true) :
    node.isFeedback = false := by
  cases node <;> first | rfl | cases work

/-- A task that arrives where a row leads stands, waits or has ended there as the ledger says. -/
structure Lands (g : Graph F) (row : Transition) (p : Progress) : Prop where
  place : ∃ next, resumePoint g row = .ok next ∧ p.stored = some next
  pausing : p.lifecycle = .feedback → row.toId ∈ g.feedbackIds
  ended : ∀ id, p.terminalStateId = some id → p.lifecycle.isTerminal = true ∧
    ∃ status message, g.state? id = some (.terminal status message)
  named : ∀ id, p.currentStateId = some id → id ≠ ""
  counted : p.Counted

theorem lands_of_arrival {g : Graph F} (sound : g.Sound) {row : Transition} {targetNode : State F}
    {now : Instant} {arrival : Option String} {moved p : Progress}
    (found : g.state? row.toId = some targetNode) (source : row.fromId ≠ "")
    (current : moved.currentStateId = some row.toId) (open' : moved.terminalStateId = none)
    (running : moved.lifecycle = .running) (counted : moved.Counted)
    (arrives : Arrival g row.fromId row.toId now arrival moved targetNode p) :
    Lands g row p := by
  have named : row.toId ≠ "" :=
    sound.named _ (List.mem_map_of_mem (Graph.mem_of_state? found))
  cases arrives with
  | ended status message =>
      refine ⟨⟨_, resumePoint_of_rest sound found rfl, rfl⟩, ?_, ?_, nofun, nofun, nofun⟩
      · intro paused
        cases status <;> cases paused
      · intro id ended
        cases ended
        exact ⟨by cases status <;> rfl, status, message, found⟩
  | @paused resume next resumes =>
      refine ⟨⟨next, (resumePoint_of_pause sound found).trans resumes, ?_⟩, ?_, ?_, ?_, counted⟩
      · simp [Progress.stored, Progress.pausedAt, open']
      · intro _
        exact (Graph.mem_feedbackIds sound.distinct).mpr ⟨resume, found⟩
      · intro id ended
        exact absurd ended (by simp [Progress.pausedAt, open'])
      · intro id at_id
        cases at_id
        exact resumeTarget_named sound found source resumes
  | onward work =>
      refine ⟨⟨_, resumePoint_of_rest sound found (not_feedback_of_work work), ?_⟩, ?_, ?_, ?_,
        counted⟩
      · rw [Aligned.stored_of_running open', current]
      · rw [running]
        exact nofun
      · intro id ended
        rw [open'] at ended
        cases ended
      · intro id at_id
        rw [current] at at_id
        cases at_id
        exact named

/-- The row of a visit continues the ledger, and the task lands where the row says. -/
theorem visit_aligned (sound : fr.graph.Sound) (underway : Underway fr.graph rows s.progress)
    {id : String} {node : State F} {j : Judgement Verdict} {verdict : Verdict} {now : Instant}
    {row : Transition} {p : Progress} (visit : Visit answers fr s id node j)
    (decided : j.result = .ok verdict)
    (lands : landed fr.graph id node now j.after.progress verdict = .ok (row.shape, p))
    (fits : row.check = .ok ()) : Aligned fr.graph (rows ++ [row]) p := by
  obtain ⟨q, answer, -, -, reaction⟩ := visit.answered
  have same : j.after.progress.SamePlace s.progress := reaction ▸ reacted_samePlace _ _ _ _
  have counted : j.after.progress.Counted :=
    reaction ▸ reacted_counted _ _ _ _ underway.counted
  have open' : j.after.progress.terminalStateId = none :=
    same.terminalStateId.trans underway.open'
  have current := underway.current visit.stands
  have own : id ≠ "" :=
    sound.named id (List.mem_map_of_mem (Graph.mem_of_state? visit.stands.2))
  have running : j.after.progress.lifecycle = .running := same.lifecycle.trans visit.running
  have from_work : ∃ node, fr.graph.state? id = some node ∧ isWork node = true :=
    ⟨node, visit.stands.2, visit.work⟩
  obtain ⟨shape, looks⟩ : ∃ shape, row.shape = shape := ⟨_, rfl⟩
  rw [looks] at lands
  cases landing_of_landed lands with
  | again reason attempt =>
      have fromId : row.fromId = id := congrArg Shape.fromId looks
      have toId : row.toId = id := congrArg Shape.toId looks
      have stays : j.after.progress.currentStateId = some id := same.currentStateId.trans current
      refine underway.aligned.snoc (fromId ▸ current) underway.open' fits ?_
        (resumePoint_of_rest sound (toId ▸ visit.stands.2) (not_feedback_of_work visit.work))
        ?_ ?_ ?_ ?_ counted
      · rw [fromId]
        exact ⟨own, from_work⟩
      · rw [Aligned.stored_of_running open', stays, toId]
      · intro paused
        rw [running] at paused
        cases paused
      · intro id' ended
        rw [open'] at ended
        cases ended
      · intro id' at_id
        rw [stays] at at_id
        cases at_id
        exact own
  | @left step target targetNode _ leads found arrives =>
      have fromId : row.fromId = id := congrArg Shape.fromId looks
      have toId : row.toId = target := congrArg Shape.toId looks
      rw [← fromId] at own current from_work arrives
      rw [← toId] at found arrives
      have there : (Progress.moved j.after.progress step row.toId).currentStateId =
          some row.toId := rfl
      have landed := lands_of_arrival sound found own there open' running counted arrives
      obtain ⟨next, resumes, stored⟩ := landed.place
      exact underway.aligned.snoc current underway.open' fits ⟨own, from_work⟩ resumes stored
        landed.pausing landed.ended landed.named landed.counted

/-- A turn keeps the rows of its task aligned. -/
theorem Turn.aligned (sound : fr.graph.Sound) (turn : Turn answers capped fr s e after)
    (underway : Underway fr.graph rows s.progress) :
    Aligned fr.graph (rows ++ e.row.toList) after.progress := by
  have aligned := underway.aligned
  have open' := underway.open'
  cases turn with
  | begin stands work idle =>
      simp only [Option.toList, List.append_nil]
      exact ⟨aligned.replays, aligned.place, aligned.source, nofun,
        fun id ended => absurd ended (by simp [Progress.begun, open']), aligned.named,
        aligned.attempts, aligned.rounds⟩
  | @halt id status message stands =>
      simp only [Option.toList, List.append_nil]
      refine ⟨aligned.replays, ?_, aligned.source, ?_, ?_, nofun, nofun, nofun⟩
      · intro last atEnd
        exact ⟨id, underway.resumes stands last atEnd, rfl⟩
      · intro paused
        cases status <;> cases paused
      · intro id' ended
        cases ended
        exact ⟨by cases status <;> rfl, status, message, stands.2⟩
  | @rest id resume next now stands resumes =>
      have unwritten : ∀ last, rows.getLast? = some last → False := by
        intro last atEnd
        exact resumePoint_not_pause sound aligned atEnd (underway.resumes stands last atEnd) stands.2
      simp only [Option.toList, List.append_nil]
      refine ⟨aligned.replays, fun last atEnd => (unwritten last atEnd).elim, aligned.source,
        fun _ last atEnd => (unwritten last atEnd).elim, ?_, ?_, aligned.attempts, aligned.rounds⟩
      · intro id' ended
        exact absurd ended (by simp [Progress.pausedAt, open'])
      · intro id' current
        cases current
        exact resumeTarget_first sound stands.2 resumes
  | @visit id node j verdict now row p visit decided lands owner fits =>
      exact visit_aligned sound underway visit decided lands fits
  | @fail cause taskId after doomed =>
      obtain ⟨same, counted⟩ := doomed.same underway.counted
      simp only [Option.toList, List.append_nil]
      refine ⟨aligned.replays, ?_, aligned.source, nofun, ?_, ?_, counted.1, counted.2⟩
      · intro last atEnd
        obtain ⟨next, resumes, stored⟩ := aligned.place last atEnd
        refine ⟨next, resumes, ?_⟩
        simpa [Progress.stored, Progress.failedWith, same.terminalStateId, same.currentStateId]
          using stored
      · intro id ended
        have ended' : s.progress.terminalStateId = some id := same.terminalStateId ▸ ended
        rw [open'] at ended'
        cases ended'
      · intro id current
        exact aligned.named id (same.currentStateId ▸ current)

/-! ## Walks -/

theorem Turn.owner (turn : Turn answers capped fr s e after) :
    e.progress = after.progress ∧ after.progress.taskId = s.progress.taskId ∧
      ∀ row, e.row = some row → row.taskId = s.progress.taskId := by
  cases turn with
  | begin stands work idle => exact ⟨rfl, rfl, nofun⟩
  | halt stands => exact ⟨rfl, rfl, nofun⟩
  | rest stands resumes => exact ⟨rfl, rfl, nofun⟩
  | visit visit decided lands owner fits =>
      obtain ⟨q, answer, -, -, rfl⟩ := visit.answered
      have same := (landing_of_landed lands).taskId
      rw [(reacted_samePlace _ _ _ _).taskId] at same
      refine ⟨rfl, same, ?_⟩
      rintro row ⟨⟩
      exact owner.trans same
  | fail doomed =>
      refine ⟨rfl, ?_, nofun⟩
      cases doomed with
      | missing absent => rfl
      | spent transitions stands work cap => rfl
      | unasked stands work running unresolved => rfl
      | judged visit refused =>
          obtain ⟨q, answer, -, -, rfl⟩ := visit.answered
          exact (reacted_samePlace _ _ _ _).taskId
      | unrouted visit decided astray =>
          obtain ⟨q, answer, -, -, rfl⟩ := visit.answered
          exact (reacted_samePlace _ _ _ _).taskId

theorem Turn.underway (sound : fr.graph.Sound) (turn : Turn answers capped fr s e after)
    (underway : Underway fr.graph rows s.progress) (running : after.progress.lifecycle = .running) :
    Underway fr.graph (rows ++ e.row.toList) after.progress := by
  have alive : after.progress.lifecycle.isTerminal = false := by
    rw [running]
    rfl
  exact ⟨turn.aligned sound underway, alive, turn.placed underway.placed alive⟩

/-- What a walk keeps: the rows of its task stay aligned, and all that it writes is of that task. -/
theorem Walk.aligned {entries : List Entry} (sound : fr.graph.Sound)
    (walk : Walk answers capped fr s entries after)
    (underway : Underway fr.graph rows s.progress) :
    Aligned fr.graph (rows ++ rowsOf entries) after.progress := by
  induction walk generalizing rows with
  | refl s => simpa [rowsOf] using underway.aligned
  | @last s after e turn =>
      have one : rowsOf [e] = e.row.toList := by
        cases found : e.row <;> simp [rowsOf, found]
      rw [one]
      exact turn.aligned sound underway
  | @step s middle after e entries turn running rest ih =>
      have split : rowsOf (e :: entries) = e.row.toList ++ rowsOf entries := by
        cases found : e.row <;> simp [rowsOf, found]
      rw [split, ← List.append_assoc]
      exact ih (turn.underway sound underway running)

theorem Walk.owner {entries : List Entry} (walk : Walk answers capped fr s entries after) :
    after.progress.taskId = s.progress.taskId ∧
      (∀ row ∈ rowsOf entries, row.taskId = s.progress.taskId) ∧
      (∀ e ∈ entries, e.progress.taskId = s.progress.taskId) ∧
      ∀ last, entries.getLast? = some last → last.progress = after.progress := by
  induction walk with
  | refl s => exact ⟨rfl, by simp [rowsOf], by simp, by simp⟩
  | @last s after e turn =>
      obtain ⟨same, taskId, owner⟩ := turn.owner
      refine ⟨taskId, ?_, ?_, ?_⟩
      · intro row inside
        simp only [rowsOf, List.mem_filterMap, List.mem_singleton] at inside
        obtain ⟨e', rfl, found⟩ := inside
        exact owner row found
      · intro e' inside
        rw [List.mem_singleton.mp inside, same]
        exact taskId
      · intro last found
        cases found
        exact same
  | @step s middle after e entries turn running rest ih =>
      obtain ⟨same, taskId, owner⟩ := turn.owner
      obtain ⟨taskId', owner', entries', last'⟩ := ih
      refine ⟨taskId'.trans taskId, ?_, ?_, ?_⟩
      · intro row inside
        simp only [rowsOf, List.mem_filterMap, List.mem_cons] at inside
        obtain ⟨e', rfl | later, found⟩ := inside
        · exact owner row found
        · exact (owner' row (List.mem_filterMap.mpr ⟨e', later, found⟩)).trans taskId
      · intro e' inside
        rcases List.mem_cons.mp inside with rfl | later
        · rw [same]
          exact taskId
        · exact (entries' e' later).trans taskId
      · intro last found
        cases entries with
        | nil =>
            cases found
            cases rest
            exact same
        | cons next more =>
            rw [List.getLast?_cons_cons] at found
            exact last' last found

end Engine

end Tickwork
