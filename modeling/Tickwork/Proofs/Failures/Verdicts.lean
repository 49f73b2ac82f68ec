import Tickwork.Proofs.Failures.Causes

/-!
# What states make of answers

`Reaction` lists all that a state can make of the answer to its question: the verdict, or the fault, and
the progress it leaves. Main statement: `reacted_cases`. What is proved of verdicts is proved by cases
on it.
-/

set_option autoImplicit false

namespace Tickwork

variable {F : Type}

namespace Engine

/-- The cause was in the answer, or is a judgement of the answer. -/
def Blames (answer : Except Raised Value) (cause : FatalCause) (taskId : Option String) : Prop :=
  answer = .error (.fatal cause taskId) ∨ cause.isJudgement = true

theorem status_of_known {status : String} (known : actionEvents.contains status = true)
    (calm : status ≠ "failed") : status = "done" ∨ status = "feedback" := by
  simp only [actionEvents, List.contains_iff_mem, List.mem_cons, List.not_mem_nil, or_false] at known
  rcases known with done | feedback | failed
  · exact .inl done
  · exact .inr feedback
  · exact absurd failed calm

/-- What an attempt comes to. Only an attempt that reports its failure has brought data. -/
inductive Attempted (s : Stance) (answer : Except Raised Value) :
    Except Fault Attempt → Progress → Prop
  | refused {cause : FatalCause} {taskId : Option String} (blames : Blames answer cause taskId) :
      Attempted s answer (.error (.fatal cause taskId)) s.progress
  | settled {o : Outcome} (status : o.status = "done" ∨ o.status = "feedback") :
      Attempted s answer (.ok (.settled o)) s.progress
  | raised (message : String) : Attempted s answer (.ok (.failed .attemptError message)) s.progress
  | failed (data : Option Fields) (message : String) :
      Attempted s answer (.ok (.failed .attemptFailed message)) (Progress.merge s.progress data)

/-- What a state can make of an answer: the verdict, or why there is none, and the progress it leaves. -/
inductive Reaction (id : String) (s : Stance) (answer : Except Raised Value) :
    State F → Except Fault Verdict → Progress → Prop
  | refused {node : State F} {cause : FatalCause} {taskId : Option String}
      (blames : Blames answer cause taskId) :
      Reaction id s answer node (.error (.fatal cause taskId)) s.progress
  | unvisited {node : State F} (bare : isWork node = false ∨ ∃ v, node = .unsupported v) :
      Reaction id s answer node (.error (.fatal (.unsupportedState id "") none)) s.progress
  | incomparable {node : State F} (op left right : String) (p : Progress) :
      Reaction id s answer node (.error (.incomparable op left right)) p
  | settled {handler : Handler F} {routes : ActionRoutes} {retry : Option RetryPolicy} {o : Outcome}
      (status : o.status = "done" ∨ o.status = "feedback") :
      Reaction id s answer (.action handler routes retry)
        (.ok (.leave (settledStep (s.progress.attemptNumber id) o))) (Progress.settled s.progress id o)
  | exhausted {handler : Handler F} {routes : ActionRoutes} {retry : Option RetryPolicy}
      {reason : Reason} {message : String} {p : Progress}
      (failed : Attempted s answer (.ok (.failed reason message)) p)
      (spent : (attemptLimit retry).roomFrom (s.progress.attemptNumber id) = 0) :
      Reaction id s answer (.action handler routes retry)
        (.ok (.leave (exhaustedStep (s.progress.attemptNumber id) message)))
        (Progress.clearAttempts { p with lastError := some message } id)
  | again {handler : Handler F} {routes : ActionRoutes} {retry : Option RetryPolicy}
      {reason : Reason} {message : String} {p : Progress}
      (failed : Attempted s answer (.ok (.failed reason message)) p)
      (room : (attemptLimit retry).roomFrom (s.progress.attemptNumber id) ≠ 0) :
      Reaction id s answer (.action handler routes retry)
        (.ok (.again reason (s.progress.attemptNumber id)))
        { p with
          lastError := some message
          attempts := Sorted.put id (s.progress.attemptNumber id) p.attempts }
  | reported {routes : Routes} {handler : Handler F} {selector : Selector F} (o : Outcome) :
      Reaction id s answer (.orchestrate routes handler selector) (.ok (.leave (reportedStep o)))
        s.progress
  | selected {routes : Routes} {handler : Handler F} {selector : Selector F} (event : String) :
      Reaction id s answer (.orchestrate routes handler selector) (.ok (.leave (selectedStep event)))
        s.progress
  | left {body : Target} {bound : Value} {routes : LoopRoutes} {stop : Slot F} {event : String}
      {reason : Reason} (named : event = "done" ∨ event = "exhausted") :
      Reaction id s answer (.loop body bound routes stop)
        (.ok (.leave (loopStep event reason (s.progress.roundsBegun id))))
        (Progress.clearIterations s.progress id)
  | continued {body : Target} {bound : Value} {routes : LoopRoutes} {stop : Slot F}
      (more : bound.isReached? (s.progress.roundsBegun id) = some false) :
      Reaction id s answer (.loop body bound routes stop)
        (.ok (.leave (loopStep "continue" .loopContinue (s.progress.roundsBegun id + 1))))
        { s.progress with
          loopIterations := Sorted.put id (s.progress.roundsBegun id + 1) s.progress.loopIterations }

variable {id : String} {s : Stance} {node : State F} {answer : Except Raised Value}

theorem attempted_cases (id : String) (attempt : Int) (s : Stance) (answer : Except Raised Value) :
    Attempted s answer (attempted id attempt s answer).result
      (attempted id attempt s answer).after.progress := by
  cases answer with
  | error e =>
      cases e with
      | fatal cause taskId => exact .refused (.inl rfl)
      | error kind text => exact .raised _
  | ok v =>
      simp only [attempted]
      cases read : Outcome.read id v with
      | error cause =>
          have report := Outcome.reports_read id v cause read
          exact .refused (.inr (FatalCause.isJudgement_of_isReport report))
      | ok o =>
          simp only [judged]
          by_cases unknown : (!actionEvents.contains o.status) = true
          · rw [if_pos unknown]
            exact .refused (.inr rfl)
          · rw [if_neg unknown]
            by_cases calm : o.status ≠ "failed"
            · rw [if_pos calm]
              exact .settled (status_of_known (by simpa using unknown) calm)
            · rw [if_neg calm]
              exact .failed o.data _

theorem actionReacted_cases (handler : Handler F) (routes : ActionRoutes) (retry : Option RetryPolicy)
    (id : String) (s : Stance) (answer : Except Raised Value) :
    Reaction id s answer (.action handler routes retry) (actionReacted id retry s answer).result
      (actionReacted id retry s answer).after.progress := by
  have came := attempted_cases id (s.progress.attemptNumber id) s answer
  unfold actionReacted
  simp only
  generalize attempted id (s.progress.attemptNumber id) s answer = j at came ⊢
  obtain ⟨⟨p, reply⟩, pages, result⟩ := j
  cases result with
  | error fault =>
      cases came with
      | refused blames => exact .refused blames
  | ok a =>
      cases a with
      | settled o =>
          cases came with
          | settled status => exact .settled status
      | failed reason message =>
          simp only [concluded]
          by_cases spent : (attemptLimit retry).roomFrom (s.progress.attemptNumber id) = 0
          · rw [if_pos spent]
            split
            · exact .incomparable ..
            · exact .exhausted came spent
          · rw [if_neg spent]
            exact .again came spent

theorem handlerReacted_cases (routes : Routes) (handler : Handler F) (selector : Selector F)
    (id : String) (s : Stance) (answer : Except Raised Value) :
    Reaction id s answer (.orchestrate routes handler selector) (handlerReacted id s answer).result
      (handlerReacted id s answer).after.progress := by
  cases answer with
  | error e =>
      cases e with
      | fatal cause taskId => exact .refused (.inl rfl)
      | error kind text => exact .refused (.inr rfl)
  | ok v =>
      simp only [handlerReacted]
      cases read : Outcome.read id v with
      | error cause =>
          have report := Outcome.reports_read id v cause read
          exact .refused (.inr (FatalCause.isJudgement_of_isReport report))
      | ok o => exact .reported o

theorem selectorReacted_cases (routes : Routes) (handler : Handler F) (selector : Selector F)
    (id : String) (s : Stance) (answer : Except Raised Value) :
    Reaction id s answer (.orchestrate routes handler selector) (selectorReacted id s answer).result
      (selectorReacted id s answer).after.progress := by
  unfold selectorReacted
  split
  · exact .refused (.inr rfl)
  · split
    · exact .refused (.inr rfl)
    · exact .selected _
  · exact .refused (.inr rfl)

theorem loopReacted_cases (body : Target) (bound : Value) (routes : LoopRoutes) (stop : Slot F)
    (id : String) (s : Stance) (answer : Except Raised Value) :
    Reaction id s answer (.loop body bound routes stop) (loopReacted id bound s answer).result
      (loopReacted id bound s answer).after.progress := by
  cases answer with
  | error e => exact .refused (.inr rfl)
  | ok v =>
      simp only [loopReacted]
      cases v.truthy with
      | true => exact .left (.inl rfl)
      | false =>
          simp only [Bool.false_eq_true, if_false]
          cases rounds : bound.isReached? (s.progress.roundsBegun id) with
          | none => exact .incomparable ..
          | some reached =>
              cases reached with
              | true => exact .left (.inr rfl)
              | false => exact .continued rounds

theorem reacted_cases (id : String) (s : Stance) (node : State F) (answer : Except Raised Value) :
    Reaction id s answer node (reacted id s node answer).result
      (reacted id s node answer).after.progress := by
  cases node with
  | action handler routes retry => exact actionReacted_cases handler routes retry id s answer
  | orchestrate routes handler selector =>
      unfold reacted
      simp only
      split
      · exact handlerReacted_cases routes handler selector id s answer
      · exact selectorReacted_cases routes handler selector id s answer
  | loop body bound routes stop => exact loopReacted_cases body bound routes stop id s answer
  | feedback resume => exact .unvisited (.inl rfl)
  | terminal status message => exact .unvisited (.inl rfl)
  | unsupported v => exact .unvisited (.inr ⟨v, rfl⟩)

/-- A state that gives its task up for an answer has the cause from the answer, or judges the
answer. -/
theorem reacted_cause {cause : FatalCause} {taskId : Option String}
    (refused : (reacted id s node answer).result = .error (.fatal cause taskId))
    (work : isWork node = true) (supported : ∀ v, node ≠ .unsupported v) :
    Blames answer cause taskId := by
  have reaction := reacted_cases id s node answer
  rw [refused] at reaction
  generalize (reacted id s node answer).after.progress = p at reaction
  cases reaction with
  | refused blames => exact blames
  | unvisited bare =>
      rcases bare with idle | ⟨v, rfl⟩
      · rw [work] at idle
        cases idle
      · exact absurd rfl (supported v)

/-- An answer that a state gives its task up for has no effect on the task. -/
theorem reacted_refused {cause : FatalCause} {taskId : Option String}
    (refused : (reacted id s node answer).result = .error (.fatal cause taskId)) :
    (reacted id s node answer).after.progress = s.progress := by
  have reaction := reacted_cases id s node answer
  rw [refused] at reaction
  generalize (reacted id s node answer).after.progress = p at reaction ⊢
  cases reaction <;> rfl

theorem reacted_again_reason {reason : Reason} {attempt : Int}
    (decided : (reacted id s node answer).result = .ok (.again reason attempt)) :
    reason.isAttempt = true := by
  have reaction := reacted_cases id s node answer
  rw [decided] at reaction
  generalize (reacted id s node answer).after.progress = p at reaction
  cases reaction with
  | again failed room => cases failed <;> rfl

end Engine

end Tickwork
