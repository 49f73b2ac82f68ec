import Tickwork.Proofs.Calm
import Tickwork.Proofs.InStep
import Tickwork.Proofs.Running

/-!
# Two hosts in step

One graph is run by two hosts, whose worlds need not be of one type. The hosts give out names and times of
their own; apart from these, and from what a likeness does not tell apart, they do the same. A footing says
when two worlds are near each other. Main statement: an advance over one host goes as the same advance over
the other one, to its end or to the fault that breaks it off. A host may fail in ways of its own; nothing
is said of what comes after that.
-/

set_option autoImplicit false

namespace Tickwork

variable {F V W α β γ δ : Type}

/-! ## Progress -/

/-- Two messages that say the same, names of ticks apart. -/
inductive Blamed : String → String → Prop
  | same (message : String) : Blamed message message
  | spent (transitions : Nat) (tickId tickId' : String) :
      Blamed (FatalCause.runBudget transitions tickId).message
        (FatalCause.runBudget transitions tickId').message

/-- A progress without its context, its last error and the time since which it waits. -/
def Progress.level (p : Progress) : Progress :=
  { p with context := [], lastError := none, waitingSince := none }

/-- Two states of a task that are alike. -/
structure Progress.Like (like : Likeness) (p p' : Progress) : Prop where
  level : p.level = p'.level
  context : like.fields p.context p'.context
  lastError : Option.Rel Blamed p.lastError p'.lastError
  waiting : p.waitingSince.isSome = p'.waitingSince.isSome

theorem firstWords_blamed {message arrival last last' : Option String} (blamed : Option.Rel Blamed last last')
    (fallback : String) :
    Blamed (Engine.firstWords [message, arrival, last] fallback)
      (Engine.firstWords [message, arrival, last'] fallback) := by
  have later : Blamed (Engine.firstWords [last] fallback) (Engine.firstWords [last'] fallback) := by
    cases blamed with
    | none => exact .same _
    | some here =>
        cases here with
        | same => exact .same _
        | spent transitions tickId tickId' =>
            have said : ∀ tickId, (FatalCause.runBudget transitions tickId).message ≠ "" := by
              intro tickId
              show s!"Transition budget exceeded: {transitions} transitions in tick {tickId}" ≠ ""
              simp
            simp only [Engine.firstWords, firstNonempty, if_neg (said tickId), if_neg (said tickId')]
            exact .spent _ _ _
  have spoken : ∀ s : String, s ≠ "" → ∀ rest, Engine.firstWords (some s :: rest) fallback = s := by
    intro s words rest
    simp only [Engine.firstWords, firstNonempty, if_neg words, Option.getD_some]
  have silent : ∀ rest, Engine.firstWords (some "" :: rest) fallback = Engine.firstWords rest fallback :=
    fun _ => rfl
  have missing : ∀ rest, Engine.firstWords (none :: rest) fallback = Engine.firstWords rest fallback :=
    fun _ => rfl
  have arrived : Blamed (Engine.firstWords [arrival, last] fallback)
      (Engine.firstWords [arrival, last'] fallback) := by
    cases arrival with
    | none => exact later
    | some s =>
        by_cases words : s = ""
        · subst words
          exact later
        · rw [spoken s words, spoken s words]
          exact .same _
  cases message with
  | none => exact arrived
  | some s =>
      by_cases words : s = ""
      · subst words
        exact arrived
      · rw [spoken s words, spoken s words]
        exact .same _

namespace Progress.Like

variable {like : Likeness} {p p' q q' : Progress}

theorem changed (alike : p.Like like p') (shown : Progress → Progress) (first : q.level = shown p.level)
    (second : q'.level = shown p'.level) (context : like.fields q.context q'.context)
    (lastError : Option.Rel Blamed q.lastError q'.lastError)
    (waiting : q.waitingSince.isSome = q'.waitingSince.isSome) : q.Like like q' where
  level := by rw [first, second, alike.level]
  context := context
  lastError := lastError
  waiting := waiting

theorem currentStateId (alike : p.Like like p') : p.currentStateId = p'.currentStateId :=
  (congrArg Progress.currentStateId alike.level :)

theorem lifecycle (alike : p.Like like p') : p.lifecycle = p'.lifecycle :=
  (congrArg Progress.lifecycle alike.level :)

theorem attempts (alike : p.Like like p') : p.attempts = p'.attempts :=
  (congrArg Progress.attempts alike.level :)

theorem loopIterations (alike : p.Like like p') : p.loopIterations = p'.loopIterations :=
  (congrArg Progress.loopIterations alike.level :)

theorem taskId (alike : p.Like like p') : p.taskId = p'.taskId :=
  (congrArg Progress.taskId alike.level :)

theorem merge (alike : p.Like like p') {data data' : Option Fields}
    (laid : like.fields (data.getD []) (data'.getD [])) :
    (Engine.Progress.merge p data).Like like (Engine.Progress.merge p' data') :=
  alike.changed id rfl rfl (like.overlay alike.context laid) alike.lastError alike.waiting

theorem atEnd (alike : p.Like like p') (id : String) (status : EndStatus)
    (message arrival : Option String) :
    (Engine.Progress.atEnd p id status message arrival).Like like
      (Engine.Progress.atEnd p' id status message arrival) := by
  let ended (p : Progress) : Progress :=
    { p with
      lifecycle := .ofEnd status, currentStateId := none, terminalStateId := some id, attempts := []
      loopIterations := [] }
  refine alike.changed ended rfl rfl alike.context ?_ rfl
  simp only [Engine.Progress.atEnd]
  by_cases done : status = .done
  · rw [if_pos done, if_pos done]
    exact .none
  · rw [if_neg done, if_neg done]
    exact .some (firstWords_blamed alike.lastError _)

theorem failedWith (alike : p.Like like p') {message message' : String} (blamed : Blamed message message') :
    (Engine.Progress.failedWith p message).Like like (Engine.Progress.failedWith p' message') := by
  let failed (p : Progress) : Progress := { p with lifecycle := .failed }
  exact alike.changed failed rfl rfl alike.context (.some blamed) rfl

theorem prepare (alike : p.Like like p') {g : Graph F} (base : like.fields g.context g.context) :
    (Engine.prepare g p).Like like (Engine.prepare g p') := by
  let placed (p : Progress) : Progress :=
    { p with currentStateId := some (p.currentStateId.getD g.start) }
  exact alike.changed placed rfl rfl (like.overlay base alike.context) alike.lastError alike.waiting

end Progress.Like

/-- Two ticks that are alike; their pages and rows may differ. -/
structure Tick.Like (like : Likeness) (t t' : Tick) : Prop where
  progress : t.progress.Like like t'.progress
  feedback : t.feedback = t'.feedback
  transitions : t.transitions = t'.transitions

/-- Two steps that are one, with data that is alike. -/
structure Step.Like (like : Likeness) (s s' : Step) : Prop where
  event : s.event = s'.event
  reason : s.reason = s'.reason
  attempt : s.attempt = s'.attempt
  loopIteration : s.loopIteration = s'.loopIteration
  message : s.message = s'.message
  data : like.fields (s.data.getD []) (s'.data.getD [])

theorem Step.Like.refl {like : Likeness} {s : Step} (bare : s.data = none) : Step.Like like s s where
  event := rfl
  reason := rfl
  attempt := rfl
  loopIteration := rfl
  message := rfl
  data := by
    rw [bare]
    exact like.nothing

/-- Two reports of ticks that ended alike. -/
structure Finish.Like (f f' : Finish) : Prop where
  ending : f.ending = f'.ending
  transitions : f.transitions = f'.transitions

/-! ## Footings -/

/-- What two ticks go by side by side: which data they do not tell apart, which worlds are near each
other, the task that both work on, the names of its run here and there, and the faults by which one of
them may break off alone. -/
structure Footing (V W : Type) where
  like : Likeness
  near : V → W → Prop
  taskId : String
  runId : String
  runId' : String
  lost : Fault → V → Prop
  lost' : Fault → W → Prop

namespace Footing

/-- How two writes go: both land, both break down without an end to the task, or one is lost. -/
inductive Wrote (ft : Footing V W) : Except Fault Unit × V → Except Fault Unit × W → Prop
  | done {v : V} {w : W} (world : ft.near v w) : Wrote ft (.ok (), v) (.ok (), w)
  | stuck {fault fault' : Fault} {v : V} {w : W} (calm : fault.isFatal = false)
      (calm' : fault'.isFatal = false) (world : ft.near v w) : Wrote ft (.error fault, v) (.error fault', w)
  | left {fault : Fault} {v : V} (gone : ft.lost fault v) (result : Except Fault Unit × W) :
      Wrote ft (.error fault, v) result
  | right {fault : Fault} {w : W} (gone : ft.lost' fault w) (result : Except Fault Unit × V) :
      Wrote ft result (.error fault, w)

/-- Two ticks under way that are alike, in worlds near each other. -/
structure Level (ft : Footing V W) (l : Live V) (m : Live W) : Prop where
  tick : l.tick.Like ft.like m.tick
  task : l.tick.progress.taskId = ft.taskId
  world : ft.near l.world m.world

/-- Two causes that are one, names of ticks apart. -/
inductive Causes : FatalCause → FatalCause → Prop
  | same (cause : FatalCause) : Causes cause cause
  | spent (transitions : Nat) (tickId tickId' : String) :
      Causes (.runBudget transitions tickId) (.runBudget transitions tickId')

theorem Causes.blamed {cause cause' : FatalCause} (causes : Causes cause cause') :
    Blamed cause.message cause'.message := by
  cases causes with
  | same => exact .same _
  | spent transitions tickId tickId' => exact .spent _ _ _

/-- How two parts of ticks come out: with results that go together, given up for one cause, broken off
without an end to the task, or one of them alone. -/
inductive Ends (ft : Footing V W) (R : α → β → Prop) : Except Fault α × Live V → Except Fault β × Live W → Prop
  | done {a : α} {b : β} {l : Live V} {m : Live W} (here : R a b) (level : ft.Level l m) :
      Ends ft R (.ok a, l) (.ok b, m)
  | doomed {cause cause' : FatalCause} {taskId taskId' : Option String} {l : Live V} {m : Live W}
      (causes : Causes cause cause') (level : ft.Level l m) :
      Ends ft R (.error (.fatal cause taskId), l) (.error (.fatal cause' taskId'), m)
  | stuck {fault fault' : Fault} {l : Live V} {m : Live W} (calm : fault.isFatal = false)
      (calm' : fault'.isFatal = false) (world : ft.near l.world m.world) :
      Ends ft R (.error fault, l) (.error fault', m)
  | left {fault : Fault} {l : Live V} (gone : ft.lost fault l.world) (result : Except Fault β × Live W) :
      Ends ft R (.error fault, l) result
  | right {fault : Fault} {m : Live W} (gone : ft.lost' fault m.world) (result : Except Fault α × Live V) :
      Ends ft R result (.error fault, m)

theorem Wrote.onStore {ft : Footing V W} {act : ExceptT Fault (StateM V) Unit}
    {act' : ExceptT Fault (StateM W) Unit} {l : Live V} {m : Live W}
    (wrote : ft.Wrote (act.run l.world) (act'.run m.world)) (level : ft.Level l m) :
    ft.Ends (fun _ _ => True) ((Action.onStore act).exec l) ((Action.onStore act').exec m) := by
  rw [Action.exec_onStore, Action.exec_onStore]
  generalize act.run l.world = r at wrote ⊢
  generalize act'.run m.world = r' at wrote ⊢
  cases wrote with
  | done world => exact .done trivial ⟨level.tick, level.task, world⟩
  | stuck calm calm' world => exact .stuck calm calm' world
  | left gone => exact .left gone _
  | right gone => exact .right gone _

end Footing

/-- Two parts of ticks that go side by side. -/
def Action.Sync (ft : Footing V W) (R : α → β → Prop) (act : Action V α) (act' : Action W β) : Prop :=
  ∀ l m, ft.Level l m → ft.Ends R (act.exec l) (act'.exec m)

theorem both_same {ε : Type} (r : Except ε α) : Both (fun a b => r = .ok a ∧ a = b) r r := by
  cases r with
  | ok a => exact .ok ⟨rfl, rfl⟩
  | error e => exact .error e

namespace Action.Sync

variable {ft : Footing V W} {R : α → β → Prop} {S : γ → δ → Prop}

theorem pure {a : α} {b : β} (here : R a b) :
    Sync ft R (Pure.pure a : Action V α) (Pure.pure b : Action W β) := fun _ _ level => .done here level

theorem fail {cause cause' : FatalCause} (causes : Footing.Causes cause cause') :
    Sync ft R (Action.fail cause : Action V α) (Action.fail cause' : Action W β) :=
  fun _ _ level => .doomed causes level

theorem throw {fault : Fault} (calm : fault.isFatal = false) :
    Sync ft R (MonadExcept.throw fault : Action V α) (MonadExcept.throw fault : Action W β) :=
  fun _ _ level => .stuck calm calm level.world

theorem throwFatal (cause : FatalCause) (taskId taskId' : Option String) :
    Sync ft R (MonadExcept.throw (.fatal cause taskId) : Action V α)
      (MonadExcept.throw (.fatal cause taskId') : Action W β) := fun _ _ level => .doomed (.same cause) level

theorem tick : Sync ft (fun t t' => t.Like ft.like t' ∧ t.progress.taskId = ft.taskId)
    (Action.tick : Action V Tick) (Action.tick : Action W Tick) :=
  fun _ _ level => .done ⟨level.tick, level.task⟩ level

theorem progress : Sync ft (fun p p' => p.Like ft.like p' ∧ p.taskId = ft.taskId)
    (Action.progress : Action V Progress) (Action.progress : Action W Progress) :=
  fun _ _ level => .done ⟨level.tick.progress, level.task⟩ level

theorem change {f f' : Tick → Tick} (kept : ∀ t t', t.Like ft.like t' → (f t).Like ft.like (f' t'))
    (task : ∀ t, (f t).progress.taskId = t.progress.taskId) :
    Sync ft (fun _ _ => True) (Action.change f : Action V Unit) (Action.change f' : Action W Unit) :=
  fun l _ level => .done trivial ⟨kept _ _ level.tick, (task l.tick).trans level.task, level.world⟩

theorem changeProgress {f f' : Progress → Progress}
    (kept : ∀ p p', p.Like ft.like p' → (f p).Like ft.like (f' p')) (task : ∀ p, (f p).taskId = p.taskId) :
    Sync ft (fun _ _ => True) (Action.changeProgress f : Action V Unit)
      (Action.changeProgress f' : Action W Unit) :=
  .change (fun _ _ alike => ⟨kept _ _ alike.progress, alike.feedback, alike.transitions⟩)
    fun t => task t.progress

theorem orFail {r : Except FatalCause α} {r' : Except FatalCause β} (both : Both R r r') :
    Sync ft R (Engine.orFail r) (Engine.orFail r') := by
  cases both with
  | ok here => exact pure here
  | error cause => exact fail (.same cause)

theorem onWorld {act : StateM V α} {act' : StateM W β} (pace : InStep ft.near R act act') :
    Sync ft R (Action.onWorld act) (Action.onWorld act') := by
  intro l m level
  obtain ⟨here, still⟩ := pace l.world m.world level.world
  exact .done here ⟨level.tick, level.task, still⟩

theorem bind {act : Action V α} {act' : Action W β} {next : α → Action V γ} {next' : β → Action W δ}
    (first : Sync ft R act act') (later : ∀ a b, R a b → Sync ft S (next a) (next' b)) :
    Sync ft S (act >>= next) (act' >>= next') := by
  intro l m level
  have here := first l m level
  rw [exec_bind, exec_bind]
  generalize act.exec l = r at here ⊢
  generalize act'.exec m = r' at here ⊢
  cases here with
  | done here level => exact later _ _ here _ _ level
  | doomed causes level => exact .doomed causes level
  | stuck calm calm' world => exact .stuck calm calm' world
  | left gone => exact .left gone _
  | right gone => exact .right gone _

theorem map {act : Action V α} {act' : Action W β} {f : α → γ} {f' : β → δ} (first : Sync ft R act act')
    (made : ∀ a b, R a b → S (f a) (f' b)) : Sync ft S (f <$> act) (f' <$> act') := by
  rw [← bind_pure_comp, ← bind_pure_comp]
  exact first.bind fun a b here => pure (made a b here)

end Action.Sync

/-! ## Hosts -/

/-- Two hosts that do the same on a footing. A row is recorded with the name that was drawn for it. -/
structure Host.Alongside (h : Host F V) (h' : Host F W) (ft : Footing V W) (kind : F → Prop) : Prop where
  behaviour : h.behaviour.InStep ft.like kind ft.near h'.behaviour
  now : InStep ft.near (fun _ _ => True) h.now h'.now
  freshTickId : InStep ft.near (fun _ _ => True) h.freshTickId h'.freshTickId
  sleep : ∀ delay, InStep ft.near (fun _ _ => True) (h.sleep delay) (h'.sleep delay)
  checkpoint : ∀ p p' v w, p.Like ft.like p' → p.taskId = ft.taskId → ft.near v w →
    ft.Wrote ((h.checkpoint p).run v) ((h'.checkpoint p').run w)
  record : ∀ (row row' : Transition) (reason : Reason) (p p' : Progress) (v : V) (w : W),
    row.shape = row'.shape → row.reason = .known reason → row.taskId = ft.taskId → row'.taskId = ft.taskId →
    row.runId = ft.runId → row'.runId = ft.runId' → row.eventId = (h.freshEventId v).1 →
    row'.eventId = (h'.freshEventId w).1 → p.Like ft.like p' → p.taskId = ft.taskId → ft.near v w →
    ft.Wrote ((h.record row p).run (h.now (h.freshEventId v).2).2)
      ((h'.record row' p').run (h'.now (h'.freshEventId w).2).2)
  calm : ∀ fault v, ft.lost fault v → fault.isFatal = false
  calm' : ∀ fault w, ft.lost' fault w → fault.isFatal = false

/-- Two frames of one graph and one task. -/
structure Frame.Alongside (ft : Footing V W) (kind : F → Prop) (fr fr' : Frame F) : Prop where
  graph : fr'.graph = fr.graph
  task : fr'.task = fr.task
  runId : fr.runId = ft.runId
  runId' : fr'.runId = ft.runId'
  every : fr.graph.Every kind

/-! ## The engine -/

namespace Engine

open Tickwork.Action

variable {h : Host F V} {h' : Host F W} {ft : Footing V W} {kind : F → Prop}
variable (level : h.Alongside h' ft kind) {fr fr' : Frame F} (frames : fr.Alongside ft kind fr')

include level

theorem checkpoint_sync : Sync ft (fun _ _ => True) (checkpoint h) (checkpoint h') :=
  .bind .progress fun _ _ alike _ _ here =>
    (level.checkpoint _ _ _ _ alike.1 alike.2 here.world).onStore here

include frames

theorem record_sync (fromId toId event : String) (reason : Reason) (attempt iteration : Int) :
    Sync ft (fun _ _ => True) (record h fr fromId toId event reason attempt iteration)
      (record h' fr' fromId toId event reason attempt iteration) := by
  intro l m here
  unfold record
  rw [exec_bind_of_ok (exec_onWorld _ _), exec_bind_of_ok (exec_onWorld _ _),
    exec_bind_of_ok (exec_onWorld _ _), exec_bind_of_ok (exec_onWorld _ _),
    exec_bind_of_ok (exec_progress _), exec_bind_of_ok (exec_progress _)]
  simp only
  have task' : m.tick.progress.taskId = ft.taskId := here.tick.progress.taskId.symm.trans here.task
  have wrote := level.record
    ⟨(h.freshEventId l.world).1, fr.runId, fr.tickId, l.tick.progress.taskId, fromId, toId, event,
      .known reason, attempt, iteration, (h.now (h.freshEventId l.world).2).1⟩
    ⟨(h'.freshEventId m.world).1, fr'.runId, fr'.tickId, m.tick.progress.taskId, fromId, toId, event,
      .known reason, attempt, iteration, (h'.now (h'.freshEventId m.world).2).1⟩
    reason _ _ l.world m.world rfl rfl here.task task' frames.runId frames.runId' rfl rfl
    here.tick.progress here.task here.world
  rw [exec_bind, exec_bind, exec_onStore, exec_onStore]
  simp only
  generalize ExceptT.run (h.record _ _) _ = r at wrote ⊢
  generalize ExceptT.run (h'.record _ _) _ = r' at wrote ⊢
  cases wrote with
  | done world =>
      exact .done trivial ⟨⟨here.tick.progress, here.tick.feedback, here.tick.transitions⟩, here.task, world⟩
  | stuck calm calm' world => exact .stuck calm calm' world
  | left gone => exact .left gone _
  | right gone => exact .right gone _

omit level frames

theorem observe_like {like : Likeness} {t t' : Tick} {o o' : Outcome} (alike : t.Like like t')
    (reported : o.Like like o') : (observe o t).Like like (observe o' t') where
  progress := alike.progress
  feedback := by
    simp only [observe, reported.heard, alike.feedback]
  transitions := alike.transitions

/-- Two attempts that came out alike. -/
inductive Attempt.Like (like : Likeness) : Attempt → Attempt → Prop
  | settled {o o' : Outcome} (alike : o.Like like o') : Attempt.Like like (.settled o) (.settled o')
  | failed (reason : Reason) (message : String) :
      Attempt.Like like (.failed reason message) (.failed reason message)

theorem judge_sync (id : String) (attempt : Int) {o o' : Outcome} (alike : o.Like ft.like o') :
    Sync ft (Attempt.Like ft.like) (judge id attempt o) (judge id attempt o') := by
  refine .bind (.change (fun t t' here => observe_like here alike) fun _ => rfl) fun _ _ _ => ?_
  rw [← alike.status]
  by_cases known : actionEvents.contains o.status = true
  · simp only [known, Bool.not_true, Bool.false_eq_true, if_false]
    by_cases failed : o.status = "failed"
    · simp only [failed, ne_eq, not_true_eq_false, if_false]
      refine .bind (.changeProgress (fun _ _ here => here.merge alike.laid) fun _ => rfl) fun _ _ _ => ?_
      rw [alike.message]
      exact .pure (.failed _ _)
    · simp only [ne_eq, failed, not_false_eq_true, if_true]
      exact .pure (.settled alike)
  · simp only [known, Bool.not_false, if_true]
    exact .fail (.same _)

include frames

theorem handlerInput_like {t t' : Tick} (alike : t.Like ft.like t') (id : String) (attempt : Int) :
    (handlerInput fr t id attempt).Like ft.like (handlerInput fr' t' id attempt) :=
  ⟨alike.progress.context, frames.task.symm, rfl, rfl, alike.feedback⟩

include level

theorem attemptOnce_sync (id : String) {handler : Handler F} (every : handler.Every kind) (attempt : Int) :
    Sync ft (Attempt.Like ft.like) (attemptOnce h fr id handler attempt)
      (attemptOnce h' fr' id handler attempt) := by
  refine .bind .tick fun t t' here => ?_
  refine .bind (.onWorld (.handler level.behaviour every (handlerInput_like frames here.1 id attempt)))
    fun answer answer' both => ?_
  cases both with
  | ok reported => exact .bind (.orFail (reported id)) fun o o' alike => judge_sync id attempt alike
  | error raised =>
      cases raised with
      | fatal cause taskId => exact .throwFatal cause taskId taskId
      | error kind text => exact .pure (.failed _ _)

omit frames

theorem waitForRetry_sync (retry : Option RetryPolicy) (attempt : Int) :
    Sync ft (fun _ _ => True) (waitForRetry h retry attempt) (waitForRetry h' retry attempt) := by
  cases retry with
  | none => exact .pure trivial
  | some policy =>
      simp only [waitForRetry]
      cases delayed : policy.delaySeconds attempt with
      | error fault => exact .throw (policy.calm_delaySeconds attempt fault delayed)
      | ok delay =>
          simp only
          by_cases positive : delay.isPositive = true
          · rw [if_pos positive, if_pos positive]
            exact .onWorld (level.sleep delay)
          · rw [if_neg positive, if_neg positive]
            exact .pure trivial

omit level

theorem settledStep_like {like : Likeness} {o o' : Outcome} (alike : o.Like like o') (attempt : Int) :
    Step.Like like (settledStep attempt o) (settledStep attempt o') where
  event := alike.status
  reason := by simp only [settledStep, alike.status]
  attempt := rfl
  loopIteration := rfl
  message := alike.message
  data := alike.laid

/-- The counters of two tasks that are alike are changed in the same way. -/
theorem counted_like {like : Likeness} {p p' : Progress} (alike : p.Like like p')
    (attempts iterations : Counters → Counters) {lastError lastError' : Option String}
    (blamed : Option.Rel Blamed lastError lastError') :
    Progress.Like like
      { p with attempts := attempts p.attempts, loopIterations := iterations p.loopIterations, lastError }
      { p' with
        attempts := attempts p'.attempts, loopIterations := iterations p'.loopIterations
        lastError := lastError' } := by
  let counted (p : Progress) : Progress :=
    { p with attempts := attempts p.attempts, loopIterations := iterations p.loopIterations }
  exact alike.changed counted rfl rfl alike.context blamed alike.waiting

theorem settle_sync (id : String) {o o' : Outcome} (alike : o.Like ft.like o') (attempt : Int) :
    Sync ft (Step.Like ft.like)
      (do
        Action.changeProgress fun p =>
          let p := Progress.clearAttempts p id
          if o.status = "done" then { p with lastError := none } else p
        pure (settledStep attempt o) : Action V Step)
      (do
        Action.changeProgress fun p =>
          let p := Progress.clearAttempts p id
          if o'.status = "done" then { p with lastError := none } else p
        pure (settledStep attempt o') : Action W Step) := by
  refine .bind (.changeProgress (fun p p' here => ?_) fun p => ?_) fun _ _ _ =>
    .pure (settledStep_like alike attempt)
  · simp only [← alike.status]
    by_cases done : o.status = "done"
    · rw [if_pos done, if_pos done]
      exact counted_like here (Sorted.erase id) (fun counters => counters) .none
    · rw [if_neg done, if_neg done]
      exact counted_like here (Sorted.erase id) (fun counters => counters) here.lastError
  · simp only
    split <;> rfl

include level frames

theorem tryAttempts_sync (id : String) {handler : Handler F} (every : handler.Every kind)
    (retry : Option RetryPolicy) (limit : Value) (room : Nat) (attempt : Int) :
    Sync ft (Step.Like ft.like) (tryAttempts h fr id handler retry limit room attempt)
      (tryAttempts h' fr' id handler retry limit room attempt) := by
  have blame : ∀ message : String, Sync ft (fun _ _ => True)
      (Action.changeProgress fun p => { p with lastError := some message } : Action V Unit)
      (Action.changeProgress fun p => { p with lastError := some message } : Action W Unit) := fun message =>
    .changeProgress (fun _ _ here => counted_like here (fun counters => counters) (fun counters => counters)
      (.some (.same message))) fun _ => rfl
  induction room generalizing attempt with
  | zero =>
      unfold tryAttempts
      refine .bind (attemptOnce_sync level frames id every attempt) fun a a' tried => ?_
      cases tried with
      | settled alike => exact settle_sync id alike attempt
      | failed reason message =>
          refine .bind (blame message) fun _ _ _ => ?_
          by_cases incomparable : (limit.isBelow? attempt).isNone = true
          · simp only [incomparable, if_true]
            exact .throw rfl
          · simp only [incomparable, Bool.false_eq_true, if_false]
            exact .bind (.changeProgress (fun _ _ here =>
              counted_like here (Sorted.erase id) (fun counters => counters) here.lastError) fun _ => rfl)
              fun _ _ _ => .pure (.refl rfl)
  | succ room ih =>
      unfold tryAttempts
      refine .bind (attemptOnce_sync level frames id every attempt) fun a a' tried => ?_
      cases tried with
      | settled alike => exact settle_sync id alike attempt
      | failed reason message =>
          refine .bind (blame message) fun _ _ _ => .bind (.changeProgress (fun _ _ here =>
            counted_like here (Sorted.put id attempt) (fun counters => counters) here.lastError) fun _ => rfl)
            fun _ _ _ => ?_
          refine .bind (record_sync level frames id id _ reason attempt 0) fun _ _ _ => ?_
          exact .bind (waitForRetry_sync level retry attempt) fun _ _ _ => ih (attempt + 1)

theorem runAction_sync (id : String) {handler : Handler F} (every : handler.Every kind)
    (retry : Option RetryPolicy) :
    Sync ft (Step.Like ft.like) (runAction h fr id handler retry) (runAction h' fr' id handler retry) := by
  unfold runAction
  rw [frames.graph]
  refine .bind (.orFail (both_same _)) ?_
  rintro callable _ ⟨found, rfl⟩
  refine .bind .progress fun p p' here => ?_
  simp only [here.1.attempts]
  exact tryAttempts_sync level frames id (frames.every.handler every found) retry _ _ _

theorem runOrchestrateHandler_sync (id : String) {handler : Handler F} (every : handler.Every kind) :
    Sync ft (Step.Like ft.like) (runOrchestrateHandler h fr id handler)
      (runOrchestrateHandler h' fr' id handler) := by
  unfold runOrchestrateHandler
  rw [frames.graph]
  refine .bind (.orFail (both_same _)) ?_
  rintro callable _ ⟨found, rfl⟩
  refine .bind .tick fun t t' here => ?_
  refine .bind (.onWorld (.handler level.behaviour (frames.every.handler every found)
    (handlerInput_like frames here.1 id 1))) fun answer answer' both => ?_
  cases both with
  | error raised =>
      cases raised with
      | fatal cause taskId => exact .throwFatal cause taskId taskId
      | error kind text => exact .fail (.same _)
  | ok reported =>
      refine .bind (.orFail (reported id)) fun o o' alike => ?_
      refine .bind (.change (fun _ _ here => observe_like here alike) fun _ => rfl) fun _ _ _ => ?_
      have named : routedBy (o.data.getD []) o.status = routedBy (o'.data.getD []) o'.status := by
        have event := (Likeness.field alike.laid "event").asString?
        unfold routedBy
        rw [alike.status]
        generalize field "event" (o.data.getD []) = v at event ⊢
        generalize field "event" (o'.data.getD []) = v' at event ⊢
        cases v <;> cases v' <;> cases event
        all_goals rfl
      exact .pure ⟨named, rfl, rfl, rfl, alike.message, ft.like.erase alike.laid "event"⟩

theorem runSelector_sync (id : String) {selector : Selector F} (every : selector.Every kind) :
    Sync ft (Step.Like ft.like) (runSelector h fr id selector) (runSelector h' fr' id selector) := by
  unfold runSelector
  rw [frames.graph]
  refine .bind (.orFail (both_same _)) ?_
  rintro callable _ ⟨found, rfl⟩
  refine .bind .progress fun p p' here => ?_
  have input : SelectorInput.Like ft.like
      { context := p.context, task := fr.task, stateId := id, runId := fr.runId, tickId := fr.tickId }
      { context := p'.context, task := fr'.task, stateId := id, runId := fr'.runId, tickId := fr'.tickId } :=
    ⟨here.1.context, frames.task.symm, rfl⟩
  refine .bind (.onWorld (.selector level.behaviour (frames.every.selector every found) input))
    fun answer answer' both => ?_
  cases both with
  | error e => exact .fail (.same _)
  | @ok v v' worded =>
      unfold Worded at worded
      cases v with
      | str s =>
          cases v' with
          | str s' =>
              cases worded
              by_cases blank : Text.isBlankText s = true
              · simp only [blank, if_true]
                exact .fail (.same _)
              · simp only [blank, Bool.false_eq_true, if_false]
                exact .pure (.refl rfl)
          | _ => cases worded
      | _ =>
          cases v' with
          | str s' => cases worded
          | _ => exact .fail (.same _)

theorem runOrchestrate_sync (id : String) {handler : Handler F} {selector : Selector F}
    (every : handler.Every kind) (every' : selector.Every kind) :
    Sync ft (Step.Like ft.like) (runOrchestrate h fr id handler selector)
      (runOrchestrate h' fr' id handler selector) := by
  unfold runOrchestrate
  by_cases has : Graph.hasHandler handler = true
  · rw [if_pos has, if_pos has]
    exact runOrchestrateHandler_sync level frames id every
  · rw [if_neg has, if_neg has]
    by_cases selects : Graph.hasSelector selector = true
    · rw [if_pos selects, if_pos selects]
      exact runSelector_sync level frames id every'
    · rw [if_neg selects, if_neg selects]
      exact .fail (.same _)

theorem guardPasses_sync (id : String) {stop : Slot F} (every : stop.Every kind) (iteration : Int) :
    Sync ft (· = ·) (guardPasses h fr id stop iteration) (guardPasses h' fr' id stop iteration) := by
  unfold guardPasses
  rw [frames.graph]
  refine .bind (.orFail (both_same _)) ?_
  rintro found _ ⟨resolved, rfl⟩
  cases found with
  | none => exact .pure rfl
  | some guard =>
      refine .bind .progress fun p p' here => ?_
      have input : GuardInput.Like ft.like
          { context := p.context, iteration, task := fr.task, stateId := id, runId := fr.runId,
            tickId := fr.tickId }
          { context := p'.context, iteration, task := fr'.task, stateId := id, runId := fr'.runId,
            tickId := fr'.tickId } :=
        ⟨here.1.context, rfl, frames.task.symm, rfl⟩
      refine .bind (.onWorld (.slot level.behaviour (frames.every.guard every resolved) (.guard input)))
        fun answer answer' alike => ?_
      have value := alike.value
      generalize answer.value = r at value ⊢
      generalize answer'.value = r' at value ⊢
      cases value with
      | error e => exact .fail (.same _)
      | ok tells => exact .pure tells.truthy

theorem runLoop_sync (id : String) (bound : Value) {stop : Slot F} (every : stop.Every kind) :
    Sync ft (Step.Like ft.like) (runLoop h fr id bound stop) (runLoop h' fr' id bound stop) := by
  refine .bind .progress fun p p' here => ?_
  simp only [here.1.loopIterations]
  have cleared : Sync ft (fun _ _ => True)
      (Action.changeProgress (Progress.clearIterations · id) : Action V Unit)
      (Action.changeProgress (Progress.clearIterations · id) : Action W Unit) :=
    .changeProgress (fun _ _ here =>
      counted_like here (fun counters => counters) (Sorted.erase id) here.lastError) fun _ => rfl
  refine .bind (guardPasses_sync level frames id every _) ?_
  rintro passed _ rfl
  cases passed with
  | true => exact .bind cleared fun _ _ _ => .pure (.refl rfl)
  | false =>
      simp only [Bool.false_eq_true, if_false]
      cases bound.isReached? ((p'.loopIterations.lookup id).getD 0) with
      | none => exact .throw rfl
      | some reached =>
          cases reached with
          | true => exact .bind cleared fun _ _ _ => .pure (.refl rfl)
          | false =>
              exact .bind (.changeProgress (fun _ _ here =>
                counted_like here (fun counters => counters) (Sorted.put id _) here.lastError) fun _ => rfl)
                fun _ _ _ => .pure (.refl rfl)

theorem runState_sync (id : String) {node : State F} (every : node.Every kind) :
    Sync ft (Step.Like ft.like) (runState h fr id node) (runState h' fr' id node) := by
  cases node with
  | action handler routes retry => exact runAction_sync level frames id every retry
  | orchestrate routes handler selector => exact runOrchestrate_sync level frames id every.1 every.2
  | loop body bound routes stop => exact runLoop_sync level frames id bound every
  | unsupported v => exact .fail (.same _)
  | feedback resume => exact .fail (.same _)
  | terminal status message => exact .fail (.same _)

/-! ## Transitions -/

theorem applyPause_sync (id : String) (previous : Option String) :
    Sync ft (fun _ _ => True) (applyPause h fr id previous) (applyPause h' fr' id previous) := by
  unfold applyPause
  rw [frames.graph]
  cases resumes : fr.graph.resumeTarget id previous with
  | error fault => exact .throw (calm_resumeTarget _ _ _ fault resumes)
  | ok target =>
      let paused (p : Progress) : Progress := { p with currentStateId := some target, lifecycle := .feedback }
      refine .bind (.changeProgress (fun _ _ here =>
        here.changed paused rfl rfl here.context here.lastError here.waiting) fun _ => rfl) fun _ _ _ => ?_
      refine .bind (.onWorld level.now) fun now now' _ => ?_
      exact .changeProgress (fun _ _ here =>
        here.changed (fun p => p) rfl rfl here.context here.lastError rfl) fun _ => rfl

omit level frames in
theorem applyTerminal_sync (id : String) (status : EndStatus) (message arrival : Option String) :
    Sync ft (fun _ _ => True) (applyTerminal id status message arrival : Action V Unit)
      (applyTerminal id status message arrival : Action W Unit) :=
  .changeProgress (fun _ _ here => here.atEnd id status message arrival) fun _ => rfl

theorem applyArrival_sync (id target : String) (arrival : Option String) (node : State F) :
    Sync ft (fun _ _ => True) (applyArrival h fr id target arrival node)
      (applyArrival h' fr' id target arrival node) := by
  cases node with
  | terminal status message => exact applyTerminal_sync target status message arrival
  | feedback resume => exact applyPause_sync level frames target (some id)
  | _ => exact .pure trivial

omit frames in
theorem markRunning_sync : Sync ft (fun _ _ => True) (markRunning h) (markRunning h') := by
  refine .bind .progress fun p p' here => ?_
  simp only [here.1.lifecycle]
  by_cases running : p'.lifecycle = .running
  · simp only [running, ne_eq, not_true_eq_false, if_false]
    exact .pure trivial
  · simp only [ne_eq, running, not_false_eq_true, if_true]
    let begun (p : Progress) : Progress := { p with lifecycle := .running }
    refine .bind (.changeProgress (fun _ _ here =>
      here.changed begun rfl rfl here.context here.lastError rfl) fun _ => rfl) fun _ _ _ => ?_
    exact checkpoint_sync level

omit level frames

theorem finished_sync (ending : Lifecycle → Ending) (message message' : Option String) :
    Sync ft Finish.Like (finished ending message : Action V Finish)
      (finished ending message' : Action W Finish) :=
  .bind .tick fun _ _ here => .pure ⟨congrArg ending here.1.progress.lifecycle, here.1.transitions⟩

theorem arrivalFinish_sync (step step' : Step) (node : State F) :
    Sync ft (Option.Rel Finish.Like) (arrivalFinish step node : Action V (Option Finish))
      (arrivalFinish step' node : Action W (Option Finish)) := by
  cases node with
  | terminal status message =>
      exact .bind .progress fun _ _ _ => .map (finished_sync _ _ _) fun _ _ alike => .some alike
  | feedback resume => exact .map (finished_sync _ _ _) fun _ _ alike => .some alike
  | _ => exact .pure .none

theorem move_like {like : Likeness} {t t' : Tick} {step step' : Step} (alike : t.Like like t')
    (stepped : Step.Like like step step') (target : String) :
    (move step target t).Like like (move step' target t') where
  progress := by
    let moved (p : Progress) : Progress :=
      { p with currentStateId := some target, transitionCount := p.transitionCount + 1 }
    have merged := alike.progress.merge stepped.data
    exact merged.changed moved rfl rfl merged.context merged.lastError merged.waiting
  feedback := alike.feedback
  transitions := congrArg (· + 1) alike.transitions

include level frames

theorem takeTransition_sync (budget : Budget) (id : String) {node : State F} (every : node.Every kind) :
    Sync ft (Option.Rel Finish.Like) (takeTransition h fr budget id node)
      (takeTransition h' fr' budget id node) := by
  refine .bind .tick fun t t' here => ?_
  simp only [here.1.transitions]
  by_cases isOver : budget.perRun ≤ t'.transitions
  · simp only [isOver, if_true]
    exact .fail (.spent _ _ _)
  · simp only [isOver, if_false]
    refine .bind (markRunning_sync level) fun _ _ _ => ?_
    refine .bind (runState_sync level frames id every) fun step step' stepped => ?_
    have leads : stepTarget fr'.graph id node step' = stepTarget fr.graph id node step := by
      unfold stepTarget
      rw [frames.graph, stepped.event]
    rw [leads]
    refine .bind (.orFail (both_same _)) ?_
    rintro route _ ⟨-, rfl⟩
    refine .bind (.change (fun _ _ here => move_like here stepped route.1) fun _ => rfl) fun _ _ _ => ?_
    rw [← stepped.message, ← stepped.event, ← stepped.reason, ← stepped.attempt, ← stepped.loopIteration]
    refine .bind (applyArrival_sync level frames id route.1 step.message route.2) fun _ _ _ => ?_
    exact .bind (record_sync level frames id route.1 _ _ _ _) fun _ _ _ => arrivalFinish_sync _ _ _

/-- What two ticks find where they stand: both stop there, or both have one state to visit. -/
inductive Arrived (fr : Frame F) : Finish ⊕ (String × State F) → Finish ⊕ (String × State F) → Prop
  | stopped {finish finish' : Finish} (alike : Finish.Like finish finish') :
      Arrived fr (.inl finish) (.inl finish')
  | onward (id : String) {node : State F} (found : fr.graph.state? id = some node) :
      Arrived fr (.inr (id, node)) (.inr (id, node))

theorem arrive_sync (previous : Option String) :
    Sync ft (Arrived fr) (arrive h fr previous) (arrive h' fr' previous) := by
  refine .bind .progress fun p p' here => ?_
  have placed : position fr.graph p' = position fr.graph p := by
    unfold position
    rw [here.1.currentStateId]
  simp only [frames.graph, placed]
  cases found : fr.graph.state? (position fr.graph p) with
  | none => exact .fail (.same _)
  | some node =>
      cases node with
      | terminal status message =>
          exact .bind (applyTerminal_sync _ _ _ _) fun _ _ _ => .bind (checkpoint_sync level) fun _ _ _ =>
            .bind .progress fun _ _ _ => .map (finished_sync _ _ _) fun _ _ alike => Arrived.stopped alike
      | feedback resume =>
          exact .bind (applyPause_sync level frames _ previous) fun _ _ _ =>
            .bind (checkpoint_sync level) fun _ _ _ =>
              .map (finished_sync _ _ _) fun _ _ alike => Arrived.stopped alike
      | _ => exact .pure (.onward _ found)

theorem run_sync (budget : Budget) (left : Nat) (previous : Option String) :
    Sync ft Finish.Like (run h fr budget left previous) (run h' fr' budget left previous) := by
  induction left generalizing previous with
  | zero =>
      unfold run
      refine .bind (arrive_sync level frames previous) fun seen seen' arrived => ?_
      cases arrived with
      | stopped alike => exact .pure alike
      | onward id found => exact finished_sync _ _ _
  | succ left ih =>
      unfold run
      refine .bind (arrive_sync level frames previous) fun seen seen' arrived => ?_
      cases arrived with
      | stopped alike => exact .pure alike
      | onward id found =>
          refine .bind (takeTransition_sync level frames budget id (frames.every.state found))
            fun finish finish' taken => ?_
          cases taken with
          | some alike => exact .pure alike
          | none => exact ih (some id)

omit frames

/-- How two advances end: alike, given up for one cause, broken off, or one of them alone. -/
theorem orPersistFailure_sync {R : α → β → Prop} {act : Action V α} {act' : Action W β}
    (pace : Sync ft R act act') : Sync ft R (orPersistFailure h act) (orPersistFailure h' act') := by
  intro l m here
  have ends := pace l m here
  unfold orPersistFailure
  rw [exec_tryCatch, exec_tryCatch]
  generalize act.exec l = r at ends ⊢
  generalize act'.exec m = r' at ends ⊢
  cases ends with
  | done here level => exact .done here level
  | doomed causes here =>
      refine Sync.bind (.changeProgress (fun _ _ here => here.failedWith causes.blamed) fun _ => rfl)
        (fun _ _ _ => .bind (checkpoint_sync level) fun _ _ _ => .bind .progress fun _ _ _ => ?_) _ _ here
      exact fun _ _ level => .doomed causes level
  | @stuck fault fault' _ _ calm calm' world =>
      cases fault with
      | fatal cause taskId => cases calm
      | _ =>
          cases fault' with
          | fatal cause taskId => cases calm'
          | _ => exact .stuck calm calm' world
  | @left fault l gone result =>
      have calm := level.calm fault _ gone
      cases fault with
      | fatal cause taskId => cases calm
      | _ => exact .left gone _
  | @right fault m gone result =>
      have calm := level.calm' fault _ gone
      cases fault with
      | fatal cause taskId => cases calm
      | _ => exact .right gone _

omit level

/-- How two advances end: with reports that are alike, given up for one cause, broken off without an end
to the task, or one of them alone. -/
inductive Advances (ft : Footing V W) :
    (Except Fault Finish × Progress) × V → (Except Fault Finish × Progress) × W → Prop
  | done {f f' : Finish} {p p' : Progress} {v : V} {w : W} (alike : f.Like f') (progress : p.Like ft.like p')
      (world : ft.near v w) : Advances ft ((.ok f, p), v) ((.ok f', p'), w)
  | doomed {cause cause' : FatalCause} {taskId taskId' : Option String} {p p' : Progress} {v : V} {w : W}
      (causes : Footing.Causes cause cause') (world : ft.near v w) :
      Advances ft ((.error (.fatal cause taskId), p), v) ((.error (.fatal cause' taskId'), p'), w)
  | stuck {fault fault' : Fault} {p p' : Progress} {v : V} {w : W} (calm : fault.isFatal = false)
      (calm' : fault'.isFatal = false) (world : ft.near v w) :
      Advances ft ((.error fault, p), v) ((.error fault', p'), w)
  | left {fault : Fault} {p : Progress} {v : V} (gone : ft.lost fault v)
      (result : (Except Fault Finish × Progress) × W) : Advances ft ((.error fault, p), v) result
  | right {fault : Fault} {p : Progress} {w : W} (gone : ft.lost' fault w)
      (result : (Except Fault Finish × Progress) × V) : Advances ft result ((.error fault, p), w)

include level

/-- An advance over one host goes as the same advance over the other one. -/
theorem advance_sync {g : Graph F} (every : g.Every kind) (base : ft.like.fields g.context g.context)
    (budget : Budget) (task : TaskInfo) (feedback : Option String) {p p' : Progress}
    (alike : p.Like ft.like p') (own : p.taskId = ft.taskId) {v : V} {w : W} (world : ft.near v w) :
    Advances ft (advance h budget g task ft.runId none feedback p v)
      (advance h' budget g task ft.runId' none feedback p' w) := by
  cases active : p.lifecycle.isTerminal with
  | true =>
      have ended' : p'.lifecycle.isTerminal = true := by rw [← alike.lifecycle, active]
      rw [advance_ended _ _ _ _ _ _ _ _ active, advance_ended _ _ _ _ _ _ _ _ ended']
      exact .done ⟨congrArg Ending.ofLifecycle alike.lifecycle, rfl⟩ alike world
  | false =>
      have active' : p'.lifecycle.isTerminal = false := by rw [← alike.lifecycle, active]
      rw [advance_active _ _ _ _ _ _ _ _ _ active, advance_active _ _ _ _ _ _ _ _ _ active']
      simp only
      obtain ⟨-, named⟩ := level.freshTickId v w world
      have frames : Frame.Alongside ft kind ⟨g, task, ft.runId, (tickIdFor h none v).1⟩
          ⟨g, task, ft.runId', (tickIdFor h' none w).1⟩ := ⟨rfl, rfl, rfl, rfl, every⟩
      have began : ft.Level ⟨firstTick g p feedback, (tickIdFor h none v).2⟩
          ⟨firstTick g p' feedback, (tickIdFor h' none w).2⟩ := by
        refine ⟨⟨alike.prepare base, ?_, rfl⟩, own, named⟩
        simp only [firstTick, acceptedReply, alike.lifecycle]
      have ends := orPersistFailure_sync level (run_sync level frames budget budget.perTick none) _ _ began
      generalize (orPersistFailure h _).exec _ = r at ends ⊢
      generalize (orPersistFailure h' _).exec _ = r' at ends ⊢
      cases ends with
      | done here level => exact .done here level.tick.progress level.world
      | doomed causes level => exact .doomed causes level.world
      | stuck calm calm' world => exact .stuck calm calm' world
      | left gone => exact .left gone _
      | right gone => exact .right gone _

end Engine

end Tickwork
