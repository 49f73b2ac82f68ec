import Tickwork.Proofs.Overlays
import Tickwork.Proofs.Replies.Deliveries
import Tickwork.Proofs.Turn

/-!
# What a verdict lays over the context

A verdict may bring data that is laid over the context of its task, and a tick forgets the reply that it
was handed where the data names one. Main statement: either nothing is laid and no reply is forgotten, or
the data is that of the report of a handler.
-/

set_option autoImplicit false

namespace Tickwork

variable {F : Type}

def Handler.isAsk : Handler F → Bool
  | .ask _ _ => true
  | _ => false

namespace State

/-- The handler that a visit of a state runs. -/
def handler? : State F → Option (Handler F)
  | .action handler _ _ => some handler
  | .orchestrate _ handler _ => if Graph.hasHandler handler then some handler else none
  | _ => none

def isAsk : State F → Bool
  | .action handler _ _ => handler.isAsk
  | _ => false

end State

namespace Engine

variable {fr : Frame F} {s : Stance} {id : String} {node : State F}

/-- A state that runs a handler asks it with the replies that wait. -/
theorem question_of_handler {handler : Handler F} {q : Question F} (handled : node.handler? = some handler)
    (asks : question fr id s node = .ok q) : ∃ callable attempt,
    resolveHandler fr.graph id handler = .ok callable ∧
      q = .handler callable (s.handlerInput fr id attempt) := by
  cases node with
  | action handler' routes retry =>
      cases handled
      simp only [question, bind, Except.bind] at asks
      cases resolved : resolveHandler fr.graph id handler with
      | error cause =>
          rw [resolved] at asks
          cases asks
      | ok callable =>
          rw [resolved] at asks
          cases asks
          exact ⟨callable, _, rfl, rfl⟩
  | orchestrate routes handler' selector =>
      unfold State.handler? at handled
      simp only at handled
      by_cases has : Graph.hasHandler handler' = true
      · rw [if_pos has] at handled
        cases handled
        simp only [question, has, if_true, bind, Except.bind] at asks
        cases resolved : resolveHandler fr.graph id handler with
        | error cause =>
            rw [resolved] at asks
            cases asks
        | ok callable =>
            rw [resolved] at asks
            cases asks
            exact ⟨callable, _, rfl, rfl⟩
      · rw [if_neg has] at handled
        cases handled
  | _ => cases handled

/-- The data that a verdict lays over the context. -/
def Verdict.data : Verdict → Option Fields
  | .again _ _ => none
  | .leave step => step.data

/-- What comes of an answer for the replies: nothing, or the data of a report is laid over the context. A
state that asks is left as done only for such a report. -/
inductive Lays (id : String) (s : Stance) (answer : Except Raised Value) (node : State F)
    (verdict : Verdict) (feedback : Option String) (context : Fields) : Prop
  | nothing (plain : node.handler? = none ∨ ∃ kind text, answer = .error (.error kind text))
      (replies : feedback = s.feedback) (contexts : context = s.progress.context)
      (undone : ∀ step, verdict = .leave step → node.isAsk = true → step.event ≠ "done") :
      Lays id s answer node verdict feedback context
  | report {handler : Handler F} {v : Value} {o : Outcome} {data : Fields}
      (handled : node.handler? = some handler) (answered : answer = .ok v)
      (read : Outcome.read id v = .ok o) (replies : feedback = (s.observe o).feedback)
      (contexts : context = Fields.overlay s.progress.context data)
      (same : Fields.get? replyKey data = Fields.get? replyKey (o.data.getD []))
      (within : ∀ reply, data.Bears reply → (o.data.getD []).Bears reply)
      (done : ∀ step, verdict = .leave step → step.event = "done" → node.isAsk = true →
        handler.isAsk = true ∧ o.status = "done") :
      Lays id s answer node verdict feedback context

/-- A failed attempt is tried again or was the last one. Either way nothing more is laid. -/
theorem concluded_failed {limit : Value} {attempt : Int} {p : Progress} {reason : Reason}
    {message : String} {verdict : Verdict}
    (decided : (concluded id limit attempt p (.failed reason message)).1 = .ok verdict) :
    (Progress.merge (concluded id limit attempt p (.failed reason message)).2 verdict.data).context =
        p.context ∧
      ∀ step, verdict = .leave step → step.event ≠ "done" := by
  simp only [concluded] at decided ⊢
  split at decided
  · split at decided
    · cases decided
    · rename_i spent comparable
      cases decided
      simp only [spent, comparable, if_true, Bool.false_eq_true, if_false]
      refine ⟨rfl, ?_⟩
      rintro step ⟨⟩
      exact (by decide : "failed" ≠ "done")
  · rename_i room
    cases decided
    simp only [room, if_false]
    exact ⟨rfl, fun step leaves => by cases leaves⟩

theorem actionReacted_lays {handler : Handler F} {routes : ActionRoutes} {retry : Option RetryPolicy}
    {answer : Except Raised Value} {verdict : Verdict}
    (decided : (actionReacted id retry s answer).result = .ok verdict) :
    Lays id s answer (.action handler routes retry) verdict (actionReacted id retry s answer).after.feedback
      (Progress.merge (actionReacted id retry s answer).after.progress verdict.data).context := by
  unfold actionReacted at decided ⊢
  simp only at decided ⊢
  cases answer with
  | error e =>
      cases e with
      | fatal cause taskId => cases decided
      | error kind text =>
          obtain ⟨contexts, undone⟩ := concluded_failed decided
          exact .nothing (.inr ⟨kind, text, rfl⟩) rfl contexts fun step leaves _ => undone step leaves
  | ok v =>
      simp only [attempted] at decided ⊢
      cases read : Outcome.read id v with
      | error cause =>
          rw [read] at decided
          cases decided
      | ok o =>
          simp only [read, judged] at decided ⊢
          by_cases known : actionEvents.contains o.status = true
          · by_cases again : o.status = "failed"
            · simp only [again, if_false, ne_eq, not_true_eq_false] at decided ⊢
              obtain ⟨contexts, undone⟩ := concluded_failed decided
              exact .report rfl rfl read rfl contexts rfl (fun _ bears => bears)
                fun step leaves done => absurd done (undone step leaves)
            · simp only [known, again, Bool.not_true, Bool.false_eq_true, if_false, ne_eq,
                not_false_eq_true, if_true, concluded] at decided ⊢
              cases decided
              have contexts : (Progress.settled s.progress id o).context = s.progress.context := by
                unfold Progress.settled
                simp only
                split <;> rfl
              refine .report rfl rfl read rfl ?_ rfl (fun _ bears => bears) ?_
              · exact congrArg (Fields.overlay · (o.data.getD [])) contexts
              · rintro step ⟨⟩ done asks
                exact ⟨asks, done⟩
          · simp only [known, Bool.not_false, if_true] at decided
            cases decided

/-- What is laid may leave out data of the handler's report that is no reply. -/
theorem handlerReacted_lays {routes : Routes} {handler : Handler F} {selector : Selector F}
    (has : Graph.hasHandler handler = true) {answer : Except Raised Value} {verdict : Verdict}
    (decided : (handlerReacted id s answer).result = .ok verdict) :
    Lays id s answer (.orchestrate routes handler selector) verdict
      (handlerReacted id s answer).after.feedback
      (Progress.merge (handlerReacted id s answer).after.progress verdict.data).context := by
  unfold handlerReacted at decided ⊢
  cases answer with
  | error e => cases e <;> cases decided
  | ok v =>
      simp only at decided ⊢
      cases read : Outcome.read id v with
      | error cause =>
          rw [read] at decided
          cases decided
      | ok o =>
          simp only [read] at decided ⊢
          cases decided
          refine .report (if_pos has) rfl read rfl rfl (Fields.get?_erase_other (by decide)) ?_
            fun _ _ _ asks => by cases asks
          rintro reply ⟨text, inside, spoken⟩
          exact ⟨text, (List.mem_filter.mp inside).1, spoken⟩

/-- A selector chooses an event and nothing else. -/
theorem selectorReacted_bare {answer : Except Raised Value} {verdict : Verdict}
    (decided : (selectorReacted id s answer).result = .ok verdict) :
    (selectorReacted id s answer).after = s ∧ verdict.data = none := by
  unfold selectorReacted at decided ⊢
  repeat' split at decided
  all_goals cases decided
  exact ⟨by repeat' split <;> rfl, rfl⟩

/-- A guard only counts the round. -/
theorem loopReacted_bare {bound : Value} {answer : Except Raised Value} {verdict : Verdict}
    (decided : (loopReacted id bound s answer).result = .ok verdict) :
    (loopReacted id bound s answer).after.feedback = s.feedback ∧
      (loopReacted id bound s answer).after.progress.context = s.progress.context ∧
      verdict.data = none := by
  unfold loopReacted at decided ⊢
  simp only at decided ⊢
  repeat' split at decided
  all_goals cases decided
  all_goals exact ⟨by repeat' split <;> rfl, by repeat' split <;> rfl, rfl⟩

theorem reacted_lays {answer : Except Raised Value} {verdict : Verdict}
    (decided : (reacted id s node answer).result = .ok verdict) :
    Lays id s answer node verdict (reacted id s node answer).after.feedback
      (Progress.merge (reacted id s node answer).after.progress verdict.data).context := by
  cases node with
  | action handler routes retry => exact actionReacted_lays decided
  | orchestrate routes handler selector =>
      unfold reacted at decided ⊢
      simp only at decided ⊢
      by_cases has : Graph.hasHandler handler = true
      · rw [if_pos has] at decided ⊢
        exact handlerReacted_lays has decided
      · rw [if_neg has] at decided ⊢
        obtain ⟨stays, bare⟩ := selectorReacted_bare decided
        rw [stays, bare]
        exact .nothing (.inl (if_neg has)) rfl rfl fun _ _ asks => by cases asks
  | loop body bound routes stop =>
      obtain ⟨replies, contexts, bare⟩ := loopReacted_bare decided
      refine .nothing (.inl rfl) replies ?_ fun _ _ asks => by cases asks
      rw [bare]
      exact contexts
  | feedback resume => cases decided
  | terminal status message => cases decided
  | unsupported v => cases decided

end Engine

end Tickwork
