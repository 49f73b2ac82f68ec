import Tickwork.Proofs.Running

/-!
# Hosts seen through a projection

A host over a richer world may do the same as another host does on a part of that world.
`Host.Projects` says so operation by operation. Main statement: an advance then does the same too, so
what is added to a world for the sake of an argument does not change what the engine does.
-/

set_option autoImplicit false

namespace Tickwork

variable {F V W α β : Type}

/-- An operation on a world does, on the part of it that `view` shows, what another operation does. -/
def Sees (view : V → W) (rich : StateM V α) (plain : StateM W α) : Prop :=
  ∀ v, plain (view v) = ((rich v).1, view (rich v).2)

namespace Sees

variable {view : V → W}

theorem pure (a : α) : Sees view (Pure.pure a) (Pure.pure a) := fun _ => rfl

theorem bind {rich : StateM V α} {plain : StateM W α} {rich' : α → StateM V β}
    {plain' : α → StateM W β} (first : Sees view rich plain)
    (next : ∀ a, Sees view (rich' a) (plain' a)) :
    Sees view (rich >>= rich') (plain >>= plain') := by
  intro v
  have here := first v
  have later := next (rich v).1 (rich v).2
  show StateT.bind plain plain' (view v) = _
  simp only [StateT.bind, here]
  exact later

end Sees

/-- Work over a richer world that does on a part of it what other work does. -/
def Work.Mirrors (view : V → W) (rich : ExceptT Fault (StateM V) α) (plain : ExceptT Fault (StateM W) α) :
    Prop := Sees view rich.run plain.run

namespace Work.Mirrors

variable {view : V → W}

theorem pure (a : α) : Mirrors view (Pure.pure a) (Pure.pure a) := fun _ => rfl

theorem throw (fault : Fault) :
    Mirrors view (throw fault : ExceptT Fault (StateM V) α) (throw fault) := fun _ => rfl

theorem bind {rich : ExceptT Fault (StateM V) α} {plain : ExceptT Fault (StateM W) α}
    {rich' : α → ExceptT Fault (StateM V) β} {plain' : α → ExceptT Fault (StateM W) β}
    (first : Mirrors view rich plain) (next : ∀ a, Mirrors view (rich' a) (plain' a)) :
    Mirrors view (rich >>= rich') (plain >>= plain') := by
  show Sees view (rich.run >>= ExceptT.bindCont rich') (plain.run >>= ExceptT.bindCont plain')
  refine .bind first fun result => ?_
  cases result with
  | ok a => exact next a
  | error fault => exact .pure _

theorem lift {rich : StateM V α} {plain : StateM W α} (sees : Sees view rich plain) :
    Mirrors view (liftM rich : ExceptT Fault (StateM V) α) (liftM plain) :=
  Sees.bind sees fun _ => Sees.pure _

theorem ite {condition : Prop} [Decidable condition] {yes no : ExceptT Fault (StateM V) α}
    {yes' no' : ExceptT Fault (StateM W) α} (first : Mirrors view yes yes')
    (second : Mirrors view no no') :
    Mirrors view (if condition then yes else no) (if condition then yes' else no') := by
  split
  · exact first
  · exact second

end Work.Mirrors

/-- A host over a richer world that does on a part of it what another host does. -/
structure Host.Projects (rich : Host F V) (plain : Host F W) (view : V → W) : Prop where
  behaviour : ∀ f call, Sees view (rich.behaviour f call) (plain.behaviour f call)
  now : Sees view rich.now plain.now
  freshEventId : Sees view rich.freshEventId plain.freshEventId
  freshTickId : Sees view rich.freshTickId plain.freshTickId
  sleep : ∀ delay, Sees view (rich.sleep delay) (plain.sleep delay)
  checkpoint : ∀ p, Sees view (rich.checkpoint p).run (plain.checkpoint p).run
  record : ∀ t p, Sees view (rich.record t p).run (plain.record t p).run

/-! ## Callables -/

section Callables

variable {rich : Behaviour F V} {plain : Behaviour F W} {view : V → W}
variable (sees : ∀ f call, Sees view (rich f call) (plain f call))

include sees

theorem Sees.slot (slot : Slot F) (call : Call) :
    Sees view (slot.call rich call) (slot.call plain call) := by
  cases slot with
  | code f scope => exact sees f _
  | absent => exact .pure _
  | named name => exact .pure _
  | inert v => exact .pure _

theorem Sees.renderPrompt (input : HandlerInput) (prompt : Slot F) :
    Sees view (renderPrompt rich input prompt) (renderPrompt plain input prompt) := by
  cases prompt with
  | code f scope => exact sees f _
  | absent => exact .pure _
  | named name => exact .pure _
  | inert v => exact .pure _

theorem Sees.parseReply (input : HandlerInput) (reply : String) (reader : Option (ReplyReader F)) :
    Sees view (parseReply rich input reply reader) (parseReply plain input reply reader) := by
  match reader with
  | none => exact .pure _
  | some (.report parse) => exact .bind (.slot sees parse _) fun _ => .pure _
  | some (.changes parse) => exact .bind (.slot sees parse _) fun _ => .pure _

theorem Sees.runAsk (prompt : Slot F) (reader : Option (ReplyReader F)) (input : HandlerInput) :
    Sees view (runAsk rich prompt reader input) (runAsk plain prompt reader input) := by
  refine .bind (.renderPrompt sees input prompt) fun asked => ?_
  cases asked.value with
  | error e => exact .pure _
  | ok v =>
      simp only
      cases readReply input.feedback asked.context with
      | none => exact .pure _
      | some reply => exact .bind (.parseReply sees _ reply reader) fun _ => .pure _

theorem Sees.handler (handler : Handler F) (input : HandlerInput) :
    Sees view (handler.run rich input) (handler.run plain input) := by
  cases handler with
  | slot ref => exact .bind (.slot sees ref _) fun _ => .pure _
  | ask prompt reader => exact .runAsk sees prompt reader input
  | publish render => exact .bind (.slot sees render _) fun _ => .pure _
  | merge run => exact .bind (sees run _) fun _ => .pure _
  | decide select branches hasOtherwise => exact .bind (sees select _) fun _ => .pure _

theorem Sees.selector (selector : Selector F) (input : SelectorInput) :
    Sees view (selector.run rich input) (selector.run plain input) := by
  cases selector with
  | slot ref => exact .bind (.slot sees ref _) fun _ => .pure _
  | route select known => exact .bind (.slot sees select _) fun _ => .pure _

theorem Sees.question (q : Engine.Question F) : Sees view (q.ask rich) (q.ask plain) := by
  cases q with
  | handler handler input => exact .handler sees handler input
  | selector selector input => exact .selector sees selector input
  | guard guard input => exact .bind (.slot sees guard _) fun _ => .pure _
  | nothing => exact .pure _

end Callables

/-! ## Parts of a tick -/

/-- A tick in a richer world, as it looks in the part that `view` shows. -/
def Live.through (view : V → W) (live : Live V) : Live W := ⟨live.tick, view live.world⟩

/-- A part of a tick does in a richer world what another part does in the part that `view` shows. -/
def Action.Mirrors (view : V → W) (rich : Action V α) (plain : Action W α) : Prop :=
  ∀ live, plain.exec (live.through view) = ((rich.exec live).1, (rich.exec live).2.through view)

namespace Action.Mirrors

variable {view : V → W}

theorem pure (a : α) : Mirrors view (Pure.pure a : Action V α) (Pure.pure a) := fun _ => rfl

theorem throw (fault : Fault) :
    Mirrors view (MonadExcept.throw fault : Action V α) (MonadExcept.throw fault) := fun _ => rfl

theorem fail (cause : FatalCause) :
    Mirrors view (Action.fail cause : Action V α) (Action.fail cause) := fun _ => rfl

theorem tick : Mirrors view (Action.tick : Action V Tick) Action.tick := fun _ => rfl

theorem progress : Mirrors view (Action.progress : Action V Progress) Action.progress := fun _ => rfl

theorem change (f : Tick → Tick) : Mirrors view (Action.change f : Action V Unit) (.change f) :=
  fun _ => rfl

theorem changeProgress (f : Progress → Progress) :
    Mirrors view (Action.changeProgress f : Action V Unit) (.changeProgress f) := fun _ => rfl

theorem orFail (r : Except FatalCause α) :
    Mirrors view (Engine.orFail r : Action V α) (Engine.orFail r) := by
  cases r with
  | ok a => exact pure a
  | error cause => exact fail cause

theorem onWorld {rich : StateM V α} {plain : StateM W α} (sees : Sees view rich plain) :
    Mirrors view (Action.onWorld rich) (Action.onWorld plain) := by
  intro live
  rw [exec_onWorld, exec_onWorld]
  simp only [Live.through, sees live.world]

theorem onStore {rich : ExceptT Fault (StateM V) α} {plain : ExceptT Fault (StateM W) α}
    (sees : Sees view rich.run plain.run) :
    Mirrors view (Action.onStore rich) (Action.onStore plain) := by
  intro live
  rw [exec_onStore, exec_onStore]
  simp only [Live.through, sees live.world]

theorem bind {rich : Action V α} {plain : Action W α} {rich' : α → Action V β}
    {plain' : α → Action W β} (first : Mirrors view rich plain)
    (next : ∀ a, Mirrors view (rich' a) (plain' a)) :
    Mirrors view (rich >>= rich') (plain >>= plain') := by
  intro live
  have here := first live
  cases ran : rich.exec live with
  | mk r after =>
      rw [ran] at here
      cases r with
      | ok a => rw [exec_bind_of_ok here, exec_bind_of_ok ran]; exact next a after
      | error fault => rw [exec_bind_of_error here, exec_bind_of_error ran]

theorem map (f : α → β) {rich : Action V α} {plain : Action W α} (first : Mirrors view rich plain) :
    Mirrors view (f <$> rich) (f <$> plain) := by
  rw [← bind_pure_comp, ← bind_pure_comp]
  exact first.bind fun a => pure (f a)

theorem tryCatch {rich : Action V α} {plain : Action W α} {rich' : Fault → Action V α}
    {plain' : Fault → Action W α} (first : Mirrors view rich plain)
    (next : ∀ fault, Mirrors view (rich' fault) (plain' fault)) :
    Mirrors view (MonadExcept.tryCatch rich rich') (MonadExcept.tryCatch plain plain') := by
  intro live
  have here := first live
  rw [exec_tryCatch, exec_tryCatch, here]
  cases ran : rich.exec live with
  | mk r after =>
      cases r with
      | ok a => rfl
      | error fault => exact next fault after

end Action.Mirrors

/-! ## The engine -/

namespace Engine

open Action

variable {rich : Host F V} {plain : Host F W} {view : V → W}
variable (projects : rich.Projects plain view) (fr : Frame F)

include projects

theorem record_mirrors (fromId toId event : String) (reason : Reason) (attempt iteration : Int) :
    Mirrors view (record rich fr fromId toId event reason attempt iteration)
      (record plain fr fromId toId event reason attempt iteration) := by
  refine .bind (.onWorld projects.freshEventId) fun eventId => ?_
  refine .bind (.onWorld projects.now) fun time => .bind .progress fun p => ?_
  exact .bind (.onStore (projects.record _ p)) fun _ => .change _

theorem checkpoint_mirrors : Mirrors view (checkpoint rich) (checkpoint plain) :=
  .bind .progress fun p => .onStore (projects.checkpoint p)

omit projects in
theorem judge_mirrors (id : String) (attempt : Int) (o : Outcome) :
    Mirrors view (judge id attempt o : Action V Attempt) (judge id attempt o) := by
  refine .bind (.change _) fun _ => ?_
  by_cases known : actionEvents.contains o.status = true
  · simp only [known, Bool.not_true, Bool.false_eq_true, if_false]
    by_cases failed : o.status = "failed"
    · simp only [failed, ne_eq, not_true_eq_false, if_false]
      exact .bind (.changeProgress _) fun _ => .pure _
    · simp only [ne_eq, failed, not_false_eq_true, if_true]
      exact .pure _
  · simp only [known, Bool.not_false, if_true]
    exact .fail _

theorem attemptOnce_mirrors (id : String) (handler : Handler F) (attempt : Int) :
    Mirrors view (attemptOnce rich fr id handler attempt) (attemptOnce plain fr id handler attempt) := by
  refine .bind .tick fun t => .bind (.onWorld (.handler projects.behaviour handler _)) fun answer => ?_
  match answer with
  | .error (.fatal cause taskId) => exact .throw _
  | .error (.error kind text) => exact .pure _
  | .ok v => exact .bind (.orFail _) fun o => judge_mirrors id attempt o

theorem waitForRetry_mirrors (retry : Option RetryPolicy) (attempt : Int) :
    Mirrors view (waitForRetry rich retry attempt) (waitForRetry plain retry attempt) := by
  cases retry with
  | none => exact .pure _
  | some policy =>
      simp only [waitForRetry]
      cases policy.delaySeconds attempt with
      | error fault => exact .throw _
      | ok delay =>
          simp only
          by_cases positive : delay.isPositive = true
          · rw [if_pos positive, if_pos positive]
            exact .onWorld (projects.sleep delay)
          · rw [if_neg positive, if_neg positive]
            exact .pure _

theorem tryAttempts_mirrors (id : String) (handler : Handler F) (retry : Option RetryPolicy)
    (limit : Value) (room : Nat) (attempt : Int) :
    Mirrors view (tryAttempts rich fr id handler retry limit room attempt)
      (tryAttempts plain fr id handler retry limit room attempt) := by
  induction room generalizing attempt with
  | zero =>
      unfold tryAttempts
      refine .bind (attemptOnce_mirrors projects fr id handler attempt) fun a => ?_
      cases a with
      | settled o => exact .bind (.changeProgress _) fun _ => .pure _
      | failed reason message =>
          refine .bind (.changeProgress _) fun _ => ?_
          by_cases incomparable : (limit.isBelow? attempt).isNone = true
          · simp only [incomparable, if_true]
            exact .throw _
          · simp only [incomparable, Bool.false_eq_true, if_false]
            exact .bind (.changeProgress _) fun _ => .pure _
  | succ room ih =>
      unfold tryAttempts
      refine .bind (attemptOnce_mirrors projects fr id handler attempt) fun a => ?_
      cases a with
      | settled o => exact .bind (.changeProgress _) fun _ => .pure _
      | failed reason message =>
          refine .bind (.changeProgress _) fun _ => .bind (.changeProgress _) fun _ => ?_
          refine .bind (record_mirrors projects fr id id _ reason attempt 0) fun _ => ?_
          exact .bind (waitForRetry_mirrors projects retry attempt) fun _ => ih (attempt + 1)

theorem runOrchestrate_mirrors (id : String) (handler : Handler F) (selector : Selector F) :
    Mirrors view (runOrchestrate rich fr id handler selector)
      (runOrchestrate plain fr id handler selector) := by
  unfold runOrchestrate
  by_cases has : Graph.hasHandler handler = true
  · rw [if_pos has, if_pos has]
    refine .bind (.orFail _) fun callable => .bind .tick fun t => ?_
    refine .bind (.onWorld (.handler projects.behaviour callable _)) fun answer => ?_
    match answer with
    | .error (.fatal cause taskId) => exact .throw _
    | .error (.error kind text) => exact .fail _
    | .ok v => exact .bind (.orFail _) fun o => .bind (.change _) fun _ => .pure _
  · rw [if_neg has, if_neg has]
    by_cases selects : Graph.hasSelector selector = true
    · rw [if_pos selects, if_pos selects]
      refine .bind (.orFail _) fun callable => .bind .progress fun p => ?_
      refine .bind (.onWorld (.selector projects.behaviour callable _)) fun answer => ?_
      cases answer with
      | error e => exact .fail _
      | ok v =>
          cases v with
          | str s =>
              by_cases blank : Text.isBlankText s = true
              · simp only [blank, if_true]
                exact .fail _
              · simp only [blank, Bool.false_eq_true, if_false]
                exact .pure _
          | _ => exact .fail _
    · rw [if_neg selects, if_neg selects]
      exact .fail _

theorem guardPasses_mirrors (id : String) (stop : Slot F) (iteration : Int) :
    Mirrors view (guardPasses rich fr id stop iteration) (guardPasses plain fr id stop iteration) := by
  refine .bind (.orFail _) fun found => ?_
  cases found with
  | none => exact .pure _
  | some guard =>
      refine .bind .progress fun p => ?_
      refine .bind (.onWorld (.slot projects.behaviour guard _)) fun answer => ?_
      cases answer.value with
      | error e => exact .fail _
      | ok v => exact .pure _

theorem runLoop_mirrors (id : String) (bound : Value) (stop : Slot F) :
    Mirrors view (runLoop rich fr id bound stop) (runLoop plain fr id bound stop) := by
  refine .bind .progress fun p => .bind (guardPasses_mirrors projects fr id stop _) fun passed => ?_
  cases passed with
  | true => exact .bind (.changeProgress _) fun _ => .pure _
  | false =>
      simp only [Bool.false_eq_true, if_false]
      cases bound.isReached? ((p.loopIterations.lookup id).getD 0) with
      | none => exact .throw _
      | some reached => cases reached <;> exact .bind (.changeProgress _) fun _ => .pure _

theorem runState_mirrors (id : String) (node : State F) :
    Mirrors view (runState rich fr id node) (runState plain fr id node) := by
  cases node with
  | action handler routes retry =>
      exact .bind (.orFail _) fun callable => .bind .progress fun p =>
        tryAttempts_mirrors projects fr id callable retry _ _ _
  | orchestrate routes handler selector => exact runOrchestrate_mirrors projects fr id handler selector
  | loop body bound routes stop => exact runLoop_mirrors projects fr id bound stop
  | unsupported v => exact .fail _
  | feedback resume => exact .fail _
  | terminal status message => exact .fail _

theorem applyPause_mirrors (id : String) (previous : Option String) :
    Mirrors view (applyPause rich fr id previous) (applyPause plain fr id previous) := by
  unfold applyPause
  cases fr.graph.resumeTarget id previous with
  | error fault => exact .throw _
  | ok target =>
      exact .bind (.changeProgress _) fun _ => .bind (.onWorld projects.now) fun _ =>
        .changeProgress _

theorem applyArrival_mirrors (id target : String) (arrival : Option String) (node : State F) :
    Mirrors view (applyArrival rich fr id target arrival node)
      (applyArrival plain fr id target arrival node) := by
  cases node with
  | terminal status message =>
      exact .changeProgress fun p => Progress.atEnd p target status message arrival
  | feedback resume => exact applyPause_mirrors projects fr target (some id)
  | _ => exact .pure _

theorem markRunning_mirrors : Mirrors view (markRunning rich) (markRunning plain) := by
  refine .bind .progress fun p => ?_
  by_cases running : p.lifecycle = .running
  · simp only [running, ne_eq, not_true_eq_false, if_false]
    exact .pure _
  · simp only [ne_eq, running, not_false_eq_true, if_true]
    exact .bind (.changeProgress _) fun _ => checkpoint_mirrors projects

omit projects in
theorem finished_mirrors (ending : Lifecycle → Ending) (message : Option String) :
    Mirrors view (finished ending message : Action V Finish) (finished ending message) :=
  .bind .tick fun _ => .pure _

omit projects in
theorem arrivalFinish_mirrors (step : Step) (node : State F) :
    Mirrors view (arrivalFinish step node : Action V (Option Finish)) (arrivalFinish step node) := by
  cases node with
  | terminal status message => exact .bind .progress fun _ => .map _ (finished_mirrors _ _)
  | feedback resume => exact .map _ (finished_mirrors _ _)
  | _ => exact .pure _

theorem takeTransition_mirrors (budget : Budget) (id : String) (node : State F) :
    Mirrors view (takeTransition rich fr budget id node) (takeTransition plain fr budget id node) := by
  refine .bind .tick fun t => ?_
  by_cases isOver : budget.perRun ≤ t.transitions
  · simp only [isOver, if_true]
    exact .fail _
  · simp only [isOver, if_false]
    refine .bind (markRunning_mirrors projects) fun _ => ?_
    refine .bind (runState_mirrors projects fr id node) fun step => .bind (.orFail _) fun route => ?_
    refine .bind (.change _) fun _ => ?_
    refine .bind (applyArrival_mirrors projects fr id route.1 step.message route.2) fun _ => ?_
    exact .bind (record_mirrors projects fr id route.1 _ _ _ _) fun _ => arrivalFinish_mirrors _ _

theorem arrive_mirrors (previous : Option String) :
    Mirrors view (arrive rich fr previous) (arrive plain fr previous) := by
  refine .bind .progress fun p => ?_
  simp only
  cases fr.graph.state? (position fr.graph p) with
  | none => exact .fail _
  | some node =>
      cases node with
      | terminal status message =>
          exact .bind (.changeProgress fun p => Progress.atEnd p _ status message none) fun _ =>
            .bind (checkpoint_mirrors projects) fun _ =>
            .bind .progress fun _ => .map _ (finished_mirrors _ _)
      | feedback resume =>
          exact .bind (applyPause_mirrors projects fr _ previous) fun _ =>
            .bind (checkpoint_mirrors projects) fun _ => .map _ (finished_mirrors _ _)
      | _ => exact .pure _

theorem run_mirrors (budget : Budget) (left : Nat) (previous : Option String) :
    Mirrors view (run rich fr budget left previous) (run plain fr budget left previous) := by
  induction left generalizing previous with
  | zero =>
      unfold run
      refine .bind (arrive_mirrors projects fr previous) fun seen => ?_
      cases seen with
      | inl finish => exact .pure _
      | inr ahead => exact finished_mirrors _ _
  | succ left ih =>
      unfold run
      refine .bind (arrive_mirrors projects fr previous) fun seen => ?_
      cases seen with
      | inl finish => exact .pure _
      | inr ahead =>
          refine .bind (takeTransition_mirrors projects fr budget ahead.1 ahead.2) fun finish => ?_
          cases finish with
          | some finish => exact .pure _
          | none => exact ih (some ahead.1)

theorem orPersistFailure_mirrors {α : Type} {act : Action V α} {act' : Action W α}
    (mirrors : Mirrors view act act') :
    Mirrors view (orPersistFailure rich act) (orPersistFailure plain act') := by
  refine .tryCatch mirrors fun fault => ?_
  cases fault with
  | fatal cause taskId =>
      exact .bind (.changeProgress _) fun _ => .bind (checkpoint_mirrors projects) fun _ =>
        .bind .progress fun _ => .throw _
  | _ => exact .throw _

theorem tickIdFor_sees (given : Option String) :
    Sees view (tickIdFor rich given) (tickIdFor plain given) := by
  unfold tickIdFor
  cases firstNonempty [given] with
  | some id => exact .pure _
  | none => exact projects.freshTickId

omit fr in
/-- An advance in a richer world is, in the part that the projection shows, an advance there. -/
theorem advance_sees (budget : Budget) (g : Graph F) (task : TaskInfo) (runId : String)
    (tickId feedback : Option String) (p : Progress) :
    Sees view (advance rich budget g task runId tickId feedback p)
      (advance plain budget g task runId tickId feedback p) := by
  intro v
  cases active : p.lifecycle.isTerminal with
  | true => rw [advance_ended _ _ _ _ _ _ _ _ active, advance_ended _ _ _ _ _ _ _ _ active]
  | false =>
      rw [advance_active _ _ _ _ _ _ _ _ _ active, advance_active _ _ _ _ _ _ _ _ _ active]
      simp only
      rw [tickIdFor_sees projects tickId v]
      have mirrors := orPersistFailure_mirrors projects
        (run_mirrors projects ⟨g, task, runId, (tickIdFor rich tickId v).1⟩ budget budget.perTick
          none) ⟨firstTick g p feedback, (tickIdFor rich tickId v).2⟩
      simp only [Live.through] at mirrors
      rw [mirrors]

end Engine

end Tickwork
