import Tickwork.Proofs.Failures.Verdicts
import Tickwork.Proofs.Replays

/-!
# Giving a task up in a graph that breaks no rule

The rules of a graph leave few ways to give a task up: it stands at no state, its run is too long, a
loop has a guard that cannot be called, a callable or the judgement of its answer ends the task, or an
answer names an event that its state has no route for. `Doomed.blame` says so, and `Blame.same` that none
of them has touched the step which the task was about to take.
-/

set_option autoImplicit false

namespace Tickwork

variable {F W S : Type}

/-- The fault that something failed with, if it failed. -/
def faultOf? {α : Type} : Except Fault α → Option Fault
  | .ok _ => none
  | .error fault => some fault

theorem error_of_faultOf? {α : Type} {r : Except Fault α} {fault : Fault}
    (failed : faultOf? r = some fault) : r = .error fault := by
  cases r with
  | ok a => cases failed
  | error fault' =>
      cases failed
      rfl

/-! ## References that can be called -/

def Slot.isCode : Slot F → Bool
  | .code _ _ => true
  | _ => false

def Slot.isInert : Slot F → Bool
  | .inert _ => true
  | _ => false

def ReplyReader.slot : ReplyReader F → Slot F
  | .report parse => parse
  | .changes parse => parse

/-- Whether all that a handler calls can be called. The prompt of a question may be any value. -/
def Handler.isReady : Handler F → Bool
  | .slot ref => ref.isCode
  | .ask _ reader => reader.all fun reader => reader.slot.isCode
  | .publish render => render.isCode
  | .merge _ | .decide _ _ _ => true

def Selector.isReady : Selector F → Bool
  | .slot ref => ref.isCode
  | .route select _ => select.isCode

/-- Whether a handler is one of the library's that is made of what cannot be called. -/
def Handler.isHollow : Handler F → Bool
  | .slot _ => false
  | handler => !handler.isReady

/-- Whether a selector is one of the library's that is made of what cannot be called. -/
def Selector.isHollow : Selector F → Bool
  | .slot _ => false
  | selector => !selector.isReady

/-- Whether a state expects a callable in a place that the rules of a graph do not look at, and has
something else there. -/
def State.isHollow : State F → Bool
  | .action handler _ _ => handler.isHollow
  | .orchestrate _ handler selector => handler.isHollow || selector.isHollow
  | .loop _ _ _ stop => stop.isInert
  | .feedback _ | .terminal _ _ | .unsupported _ => false

namespace Engine

/-- Whether all that is called for an answer can be called. -/
def Question.isReady : Question F → Bool
  | .handler asked _ => asked.isReady
  | .selector asked _ => asked.isReady
  | .guard asked _ => asked.isCode
  | .nothing => true

variable {g : Graph F} {id : String} {node : State F}

theorem resolveHandler_of_fine {path : String} {handler : Handler F}
    (fine : g.handlerViolations path handler = []) (id : String) :
    ∃ found, resolveHandler g id handler = .ok found ∧
      (handler.isHollow = false → found.isReady = true) := by
  cases handler with
  | slot ref =>
      cases ref with
      | absent => cases fine
      | inert v => cases fine
      | code f scope => exact ⟨_, rfl, fun _ => rfl⟩
      | named name =>
          simp only [Graph.handlerViolations, Graph.slotViolations] at fine
          cases found : g.handlers.lookup name with
          | none =>
              rw [found] at fine
              cases fine
          | some f => exact ⟨.slot (.code f .whole), by simp [resolveHandler, found], fun _ => rfl⟩
  | _ => exact ⟨_, rfl, fun solid => by simpa [Handler.isHollow] using solid⟩

theorem resolveSelector_of_fine {path : String} {selector : Selector F}
    (fine : g.selectorViolations path selector = []) (id : String) :
    ∃ found, resolveSelector g id selector = .ok found ∧
      (selector.isHollow = false → found.isReady = true) := by
  cases selector with
  | slot ref =>
      cases ref with
      | absent => cases fine
      | inert v => cases fine
      | code f scope => exact ⟨_, rfl, fun _ => rfl⟩
      | named name =>
          simp only [Graph.selectorViolations, Graph.slotViolations] at fine
          cases found : g.handlers.lookup name with
          | none =>
              rw [found] at fine
              cases fine
          | some f => exact ⟨.slot (.code f .whole), by simp [resolveSelector, found], fun _ => rfl⟩
  | route select known => exact ⟨_, rfl, fun solid => by simpa [Selector.isHollow] using solid⟩

/-- A loop with a value in place of a guard. -/
def HasInertGuard (node : State F) : Prop :=
  ∃ body bound routes v, node = .loop body bound routes (.inert v)

/-- In a graph that breaks no rule every state with work to do has a question, but for loops that are
guarded by a value; and unless the state is hollow, all that the question calls can be called. -/
theorem question_of_valid {fr : Frame F} (valid : fr.graph.violations = [])
    (found : fr.graph.state? id = some node) (work : isWork node = true) (s : Stance) :
    (∃ q, question fr id s node = .ok q ∧ (node.isHollow = false → q.isReady = true)) ∨
      HasInertGuard node ∧ question fr id s node = .error (.guardNotCallable id) := by
  have sound := Graph.stateViolations_nil valid (Graph.mem_of_state? found)
  cases node with
  | action handler routes retry =>
      have fine := (List.append_eq_nil_iff.mp (List.append_eq_nil_iff.mp sound).1).2
      obtain ⟨handler', resolved, ready⟩ := resolveHandler_of_fine fine id
      refine .inl ⟨.handler handler' (s.handlerInput fr id (s.progress.attemptNumber id)), ?_, ready⟩
      simp only [question, resolved]
      rfl
  | orchestrate routes handler selector =>
      have parts := List.append_eq_nil_iff.mp (List.append_eq_nil_iff.mp sound).2
      have exclusive := (List.append_eq_nil_iff.mp parts.1).1
      have handled := (List.append_eq_nil_iff.mp parts.1).2
      have selected := parts.2
      cases one : Graph.hasHandler handler with
      | true =>
          rw [if_pos one] at handled
          obtain ⟨handler', resolved, ready⟩ := resolveHandler_of_fine handled id
          refine .inl ⟨.handler handler' (s.handlerInput fr id 1), ?_, fun solid => ?_⟩
          · simp only [question, one, if_true, resolved]
            rfl
          · exact ready (Bool.or_eq_false_iff.mp solid).1
      | false =>
          cases other : Graph.hasSelector selector with
          | false =>
              rw [one, other] at exclusive
              cases exclusive
          | true =>
              rw [if_pos other] at selected
              obtain ⟨selector', resolved, ready⟩ := resolveSelector_of_fine selected id
              refine .inl ⟨.selector selector' (s.selectorInput fr id), ?_, fun solid => ?_⟩
              · simp only [question, one, other, Bool.false_eq_true, if_false, if_true, resolved]
                rfl
              · exact ready (Bool.or_eq_false_iff.mp solid).2
  | loop body bound routes stop =>
      cases stop with
      | absent => exact .inl ⟨.nothing, rfl, fun _ => rfl⟩
      | code f scope => exact .inl ⟨.guard (.code f scope) (s.guardInput fr id), rfl, fun _ => rfl⟩
      | inert v => exact .inr ⟨⟨_, _, _, v, rfl⟩, rfl⟩
      | named name =>
          have guarded := (List.append_eq_nil_iff.mp (List.append_eq_nil_iff.mp sound).2).2
          simp only at guarded
          cases known : fr.graph.guards.lookup name with
          | none =>
              rw [known] at guarded
              cases guarded
          | some f =>
              refine .inl ⟨.guard (.code f .whole) (s.guardInput fr id), ?_, fun _ => rfl⟩
              simp only [question, resolveGuard, known]
              rfl
  | feedback resume => cases work
  | terminal status message => cases work
  | unsupported v => cases sound

/-! ## Steps without a route -/

/-- A step that its state has no route for: a reply is asked for where there is no pause to go to, or an
event is named that is none of the routes. -/
inductive Stray : State F → Step → Prop
  | asks {handler : Handler F} {routes : ActionRoutes} {retry : Option RetryPolicy} {step : Step}
      (unrouted : routes.feedback = none) (asks : step.event = "feedback") :
      Stray (.action handler routes retry) step
  | names {routes : Routes} {handler : Handler F} {selector : Selector F} {step : Step}
      (unrouted : routes.lookup step.event = none) : Stray (.orchestrate routes handler selector) step

/-- A route that is declared leads somewhere. -/
theorem routesViolations_leads {path : String} {routes : Routes} {event : String} {target : Target}
    (fine : g.routesViolations path routes = []) (declared : routes.lookup event = some target) :
    ∃ next, target = some next := by
  unfold Graph.routesViolations at fine
  have entry := Graph.mem_of_lookup declared
  by_cases empty : routes.isEmpty = true
  · rw [if_pos empty] at fine
    cases fine
  · rw [if_neg empty, List.flatMap_eq_nil_iff] at fine
    obtain ⟨next, rfl, -, -⟩ := Graph.routeViolations_nil (fine (event, target) entry)
    exact ⟨next, rfl⟩

/-- In a graph that breaks no rule a step that leads nowhere is stray. -/
theorem stray_of_unrouted (valid : g.violations = []) (found : g.state? id = some node) {s : Stance}
    {answer : Except Raised Value} {step : Step}
    (decided : (reacted id s node answer).result = .ok (.leave step))
    (nowhere : node.target? step.event = none) : Stray node step := by
  have sound := Graph.stateViolations_nil valid (Graph.mem_of_state? found)
  have reaction := reacted_cases id s node answer
  rw [decided] at reaction
  generalize (reacted id s node answer).after.progress = p at reaction
  -- A declared route leads somewhere, so the event of the step is none of them.
  have undeclared : ∀ {path : String} {target : Target},
      g.routesViolations path node.routes = [] → node.routes.lookup step.event = some target → False := by
    intro path target fine declared
    obtain ⟨next, rfl⟩ := routesViolations_leads fine declared
    simp only [State.target?, declared, Option.join_some] at nowhere
    cases nowhere
  cases node with
  | action handler routes retry =>
      have fine := (List.append_eq_nil_iff.mp (List.append_eq_nil_iff.mp sound).1).1
      cases reaction with
      | exhausted failed spent => exact (undeclared fine rfl).elim
      | @settled _ _ _ o status =>
          rcases status with done | asks
          · have declared : routes.toRoutes.lookup o.status = some routes.done := by rw [done]; rfl
            exact (undeclared fine declared).elim
          · cases pause : routes.feedback with
            | none => exact .asks pause asks
            | some next =>
                have declared : routes.toRoutes.lookup o.status = some (some next) := by
                  simp [ActionRoutes.toRoutes, asks, pause, List.lookup_cons]
                exact (undeclared fine declared).elim
  | orchestrate routes handler selector =>
      have fine := (List.append_eq_nil_iff.mp sound).1
      cases declared : routes.lookup step.event with
      | none => exact .names declared
      | some target => exact (undeclared fine declared).elim
  | loop body bound routes stop =>
      have fine := (List.append_eq_nil_iff.mp sound).1
      cases reaction with
      | left named =>
          rcases named with rfl | rfl
          · exact (undeclared fine rfl).elim
          · exact (undeclared fine rfl).elim
      | continued more => exact (undeclared fine rfl).elim
  | feedback resume => cases decided
  | terminal status message => cases decided
  | unsupported v => cases sound

end Engine

/-! ## What giving up leaves untouched -/

/-- Two progresses that differ in their attempts and the last error at most. -/
structure Progress.SameStep (p q : Progress) : Prop where
  place : p.SamePlace q
  context : p.context = q.context
  loopIterations : p.loopIterations = q.loopIterations

theorem Progress.SameStep.refl (p : Progress) : p.SameStep p :=
  ⟨⟨rfl, rfl, rfl, rfl, rfl, rfl, rfl⟩, rfl, rfl⟩

namespace Engine

open Tickwork.Action

variable {answers : Question F → Except Raised Value → Prop} {capped : Prop} {fr : Frame F}
variable {s after : Stance} {cause : FatalCause} {taskId : Option String}
variable {id : String} {node : State F} {answer : Except Raised Value}

/-- A stray step is no reason to touch the context or the rounds of loops. -/
theorem Stray.same {step : Step} (stray : Stray node step)
    (decided : (reacted id s node answer).result = .ok (.leave step)) :
    (reacted id s node answer).after.progress.context = s.progress.context ∧
      (reacted id s node answer).after.progress.loopIterations = s.progress.loopIterations := by
  have reaction := reacted_cases id s node answer
  rw [decided] at reaction
  generalize (reacted id s node answer).after.progress = p at reaction ⊢
  cases stray with
  | asks unrouted asks =>
      cases reaction with
      | settled status =>
          unfold Progress.settled
          simp only
          split <;> exact ⟨rfl, rfl⟩
      | exhausted failed spent =>
          have apart : "failed" = "feedback" := asks
          exact absurd apart (by decide)
  | names unrouted => cases reaction <;> exact ⟨rfl, rfl⟩

/-! ## What is to blame -/

/-- What is left to give a task up for in a graph that breaks no rule, and where the task stands then. -/
inductive Blame (answers : Question F → Except Raised Value → Prop) (fr : Frame F) (s : Stance) :
    FatalCause → Stance → Prop
  | missing (absent : fr.graph.state? (position fr.graph s.progress) = none) :
      Blame answers fr s (.missingState (position fr.graph s.progress)) s
  | spent (transitions : Nat) : Blame answers fr s (.runBudget transitions fr.tickId) s
  | unguarded {id : String} {node : State F} (stands : StandsAt fr.graph s.progress id node)
      (inert : HasInertGuard node) : Blame answers fr s (.guardNotCallable id) s
  | judged {id : String} {node : State F} {j : Judgement Verdict} {cause : FatalCause}
      {taskId : Option String} (visit : Visit answers fr s id node j)
      (refused : j.result = .error (.fatal cause taskId)) : Blame answers fr s cause j.after
  | strayed {id : String} {node : State F} {j : Judgement Verdict} {step : Step}
      (visit : Visit answers fr s id node j) (decided : j.result = .ok (.leave step))
      (stray : Stray node step) : Blame answers fr s (.noTransition step.event id) j.after

theorem landed_of_target {g : Graph F} {step : Step} {target : String} {targetNode : State F}
    (leads : node.target? step.event = some target) (found : g.state? target = some targetNode)
    (now : Instant) (p : Progress) : ∃ landing, landed g id node now p (.leave step) = .ok landing := by
  simp only [landed, stepTarget, leads, found]
  cases targetNode with
  | feedback resume =>
      obtain ⟨next, resumes⟩ := resumeTarget_of_state? found (some id)
      exact ⟨_, by simp only [arrived, resumes]; rfl⟩
  | _ => exact ⟨_, rfl⟩

/-- In a graph that breaks no rule a task is given up for one of these. -/
theorem Doomed.blame (valid : fr.graph.violations = [])
    (doomed : Doomed answers capped fr s cause taskId after) : Blame answers fr s cause after := by
  cases doomed with
  | missing absent => exact .missing absent
  | spent transitions stands work cap => exact .spent transitions
  | unasked stands work running unresolved =>
      rcases question_of_valid valid stands.2 work s with ⟨q, asked, -⟩ | ⟨inert, refused⟩
      · rw [asked] at unresolved
        cases unresolved
      · rw [refused] at unresolved
        cases unresolved
        exact .unguarded stands inert
  | judged visit refused => exact .judged visit refused
  | @unrouted id node j verdict now cause taskId visit decided astray =>
      obtain ⟨q, answer, -, -, reaction⟩ := visit.answered
      cases verdict with
      | again reason attempt => cases astray
      | leave step =>
          cases leads : node.target? step.event with
          | none =>
              simp only [landed, stepTarget, leads] at astray
              cases astray
              rw [reaction] at decided
              have stray := stray_of_unrouted valid visit.stands.2 decided leads
              exact .strayed visit (reaction ▸ decided) stray
          | some target =>
              obtain ⟨-, targetNode, found⟩ := Graph.target_sound valid visit.stands.2 leads
              obtain ⟨landing, lands⟩ := landed_of_target leads found now j.after.progress
              rw [lands] at astray
              cases astray

theorem position_of_same {g : Graph F} {p q : Progress} (same : p.currentStateId = q.currentStateId) :
    position g p = position g q := by
  unfold position
  rw [same]

/-- Whatever is to blame, the task is about to take the same step as before. -/
theorem Blame.same (blame : Blame answers fr s cause after) :
    after.progress.SameStep s.progress := by
  cases blame with
  | missing absent => exact .refl _
  | spent transitions => exact .refl _
  | unguarded stands inert => exact .refl _
  | judged visit refused =>
      obtain ⟨q, answer, -, -, rfl⟩ := visit.answered
      rw [reacted_refused refused]
      exact .refl _
  | strayed visit decided stray =>
      obtain ⟨q, answer, -, -, rfl⟩ := visit.answered
      obtain ⟨context, rounds⟩ := stray.same decided
      exact ⟨reacted_samePlace _ _ _ _, context, rounds⟩

/-- A cause that comes from an answer was raised by a callable, or is a judgement of the answer. -/
theorem Visit.refused_cause {h : Host F W} {j : Judgement Verdict} (valid : fr.graph.violations = [])
    (visit : Visit (Answers h) fr s id node j) (refused : j.result = .error (.fatal cause taskId)) :
    h.behaviour.Raises cause ∨ cause.isJudgement = true := by
  obtain ⟨q, answer, -, ⟨w, answered⟩, rfl⟩ := visit.answered
  have supported : ∀ v, node ≠ .unsupported v := by
    rintro v rfl
    cases Graph.stateViolations_nil valid (Graph.mem_of_state? visit.stands.2)
  rcases reacted_cause refused visit.work supported with fatal | judged
  · exact (q.ask_accounts h.behaviour w cause taskId (answered.trans fatal)).imp_right
      FatalCause.isJudgement_of_isReport
  · exact .inr judged

/-! ## Advances -/

/-- An advance from `p` that gives its task up for `cause` walks to where the task is given up, and leaves
it failed there. -/
structure GivenUp (answers : Question F → Except Raised Value → Prop) (fr : Frame F) (p : Progress)
    (cause : FatalCause) (q : Progress) (entries : List Entry) (s : Stance) : Prop where
  active : p.lifecycle.isTerminal = false
  walk : ∃ reply, Walk answers True fr ⟨prepare fr.graph p, reply⟩ entries s
  more : Open entries s
  doomed : ∃ last given, Doomed answers True fr s cause given last ∧
    q = Progress.failedWith last.progress cause.message

namespace GivenUp

variable {p q : Progress} {entries : List Entry}

/-- There is something to blame, and the task is left failed where it is found. -/
theorem blame (up : GivenUp answers fr p cause q entries s) (valid : fr.graph.violations = []) :
    ∃ last, Blame answers fr s cause last ∧ q = Progress.failedWith last.progress cause.message := by
  obtain ⟨last, given, doomed, failed⟩ := up.doomed
  exact ⟨last, doomed.blame valid, failed⟩

/-- The task is left where the walk has led it. -/
theorem position (up : GivenUp answers fr p cause q entries s) (valid : fr.graph.violations = []) :
    Tickwork.Engine.position fr.graph q = Tickwork.Engine.position fr.graph s.progress := by
  obtain ⟨last, blame, rfl⟩ := up.blame valid
  exact position_of_same blame.same.place.currentStateId

end GivenUp

section Advances

variable {h : Host F W} {view : W → S} {keep : S → Option Transition → Progress → S} {g : Graph F}

/-- An advance that fails with a cause has given its task up, and its last write says so. -/
theorem advance_given_up (serves : Serves h answers view keep) (fit : g.Fit) (budget : Budget)
    (task : TaskInfo) (runId : String) (tickId feedback : Option String) {p q : Progress} {w w' : W}
    (failed : advance h budget g task runId tickId feedback p w =
      ((.error (.fatal cause taskId), q), w')) :
    ∃ (fr : Frame F) (entries : List Entry) (s : Stance), fr.graph = g ∧
      GivenUp answers fr p cause q entries s ∧ (∃ id, taskId = some id) ∧
      view w' = keepAll keep (view w) (entries ++ [⟨none, q, []⟩]) := by
  cases active : p.lifecycle.isTerminal with
  | true =>
      rw [advance_ended _ _ _ _ _ _ _ _ active] at failed
      cases failed
  | false =>
      rw [advance_active h budget g task runId tickId feedback p w active] at failed
      simp only at failed
      have unseen := tickIdFor_view serves.keeps tickId w
      generalize tickIdFor h tickId w = named at unseen failed
      obtain ⟨tick, world⟩ := named
      have ran : Ran answers True h view keep ⟨g, task, runId, tick⟩ budget.perTick
          ⟨firstTick g p feedback, world⟩ _ :=
        run_ran serves fit budget budget.perTick none ⟨firstTick g p feedback, world⟩ (.inl rfl)
          (.inr trivial)
      unfold orPersistFailure at failed
      rw [exec_tryCatch] at failed
      generalize (run h ⟨g, task, runId, tick⟩ budget budget.perTick none).exec
        ⟨firstTick g p feedback, world⟩ = r at ran failed
      cases ran with
      | stopped walk seen wrote halted ending tells => cases failed
      | spent walk more seen count ahead work ending tells => cases failed
      | @escaped entries s fault live walk seen calm escape =>
          cases fault with
          | fatal cause' taskId' => cases calm
          | _ => cases failed
      | @doomed entries s cause' given live walk more seen doom =>
          simp only at failed
          rw [exec_bind_of_ok (exec_changeProgress _ _)] at failed
          obtain ⟨world', kept, ran | ⟨fault, ran, calm, weak⟩⟩ := checkpoint_cases serves.keeps
            ⟨{ live.tick with progress := Progress.failedWith live.tick.progress cause'.message },
              live.world⟩
          · rw [exec_bind_of_ok ran, exec_bind_of_ok (exec_progress _)] at failed
            cases failed
            refine ⟨⟨g, task, runId, tick⟩, entries, s, rfl,
              ⟨active, ⟨_, walk⟩, more, live.tick.stance, given, doom, rfl⟩, ⟨_, rfl⟩, ?_⟩
            rw [keepAll_append, ← unseen, ← seen]
            exact kept
          · rw [exec_bind_of_error ran] at failed
            cases failed
            cases calm

end Advances

end Engine

end Tickwork
