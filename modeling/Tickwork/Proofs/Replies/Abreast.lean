import Tickwork.Proofs.Replies.Beside
import Tickwork.Proofs.Running

/-!
# Two ticks abreast

Two ticks of one graph, one of which was handed its reply while the other one finds it in the context,
take the same transitions with the same budget. Whatever a part of a tick does, it does in both: `Abreast`
says that two parts come to results that go together, or both break off. The worlds stay `near` each
other; they may be a little further apart (`eve`) until the first tick has begun.
-/

set_option autoImplicit false

namespace Tickwork

variable {F W : Type}

/-- A host whose callables are discreet and whose store takes what the two ticks write: in worlds near each
other it leaves them near each other. Only the tick that was handed its reply writes that it begins. -/
structure Host.Pairs (h : Host F W) (reply : Option String) (near eve : W → W → Prop) : Prop where
  words : ∀ text ∈ reply, Text.isBlankText text = false
  discreet : h.behaviour.Discreet near
  now : ∀ w w', near w w' → near (h.now w).2 (h.now w').2
  freshEventId : ∀ w w', near w w' → near (h.freshEventId w).2 (h.freshEventId w').2
  sleep : ∀ delay w w', near w w' → near (h.sleep delay w).2 (h.sleep delay w').2
  sturdy : h.Sturdy
  checkpoint : ∀ p p' w w', p.Beside reply p' → near w w' →
    near ((h.checkpoint p).run w).2 ((h.checkpoint p').run w').2
  begin : ∀ p w w', eve w w' → near ((h.checkpoint p).run w).2 w'
  record : ∀ t t' p p' w w', t.shape = t'.shape → p.Beside reply p' → near w w' →
    near ((h.record t p).run w).2 ((h.record t' p').run w').2
  refuse : ∀ t p w fault, t.check = .error fault → ((h.record t p).run w).1 = .error fault

namespace Engine

open Tickwork.Action

variable {near eve : W → W → Prop} {reply : Option String} {owed : Option Fields}
variable {l l' : Live W} {α β : Type}

/-! ## Parts of ticks that go together -/

/-- Two ticks under way that are beside each other, in worlds near each other. -/
structure LiveBeside (near : W → W → Prop) (reply : Option String) (owed : Option Fields)
    (l l' : Live W) : Prop where
  stance : l.tick.stance.Beside reply owed l'.tick.stance
  transitions : l.tick.transitions = l'.tick.transitions
  world : near l.world l'.world

/-- How two ticks break off: both give their task up, or both leave it for the next tick. -/
inductive Broke (near : W → W → Prop) (reply : Option String) :
    Fault → Fault → Live W → Live W → Prop
  | doomed {cause cause' : FatalCause} {taskId taskId' : Option String} {l l' : Live W}
      (core : l.tick.progress.core = l'.tick.progress.core)
      (context : Fields.Beside reply l.tick.progress.context l'.tick.progress.context)
      (world : near l.world l'.world) :
      Broke near reply (.fatal cause taskId) (.fatal cause' taskId') l l'
  | stuck {fault fault' : Fault} {l l' : Live W} (calm : fault.isFatal = false)
      (calm' : fault'.isFatal = false) (world : near l.world l'.world) :
      Broke near reply fault fault' l l'

/-- Two results that go together. -/
inductive Abreast (near : W → W → Prop) (reply : Option String)
    (after : α → α → Live W → Live W → Prop) :
    Except Fault α × Live W → Except Fault α × Live W → Prop
  | done {a a' : α} {l l' : Live W} (here : after a a' l l') :
      Abreast near reply after (.ok a, l) (.ok a', l')
  | broke {fault fault' : Fault} {l l' : Live W} (here : Broke near reply fault fault' l l') :
      Abreast near reply after (.error fault, l) (.error fault', l')

theorem Abreast.bind {before : α → α → Live W → Live W → Prop}
    {after : β → β → Live W → Live W → Prop} {act act' : Action W α} {next next' : α → Action W β}
    (first : Abreast near reply before (act.exec l) (act'.exec l'))
    (rest : ∀ a a' m m', before a a' m m' →
      Abreast near reply after ((next a).exec m) ((next' a').exec m')) :
    Abreast near reply after ((act >>= next).exec l) ((act' >>= next').exec l') := by
  generalize came : act.exec l = r at first
  generalize came' : act'.exec l' = r' at first
  cases first with
  | done here =>
      rw [exec_bind_of_ok came, exec_bind_of_ok came']
      exact rest _ _ _ _ here
  | broke here =>
      rw [exec_bind_of_error came, exec_bind_of_error came']
      exact .broke here

/-- Two ticks that give their task up where they are beside each other. -/
theorem Abreast.fail {after : α → α → Live W → Live W → Prop} {cause cause' : FatalCause}
    {taskId taskId' : Option String} (beside : l.tick.progress.Beside reply l'.tick.progress)
    (world : near l.world l'.world) :
    Abreast near reply after (.error (.fatal cause taskId), l) (.error (.fatal cause' taskId'), l') :=
  .broke (.doomed beside.core beside.context world)

theorem abreast_change {after : Unit → Unit → Live W → Live W → Prop} {f f' : Tick → Tick}
    (here : after () () ⟨f l.tick, l.world⟩ ⟨f' l'.tick, l'.world⟩) :
    Abreast near reply after ((Action.change f).exec l) ((Action.change f').exec l') :=
  .done here

/-- Two results without a value that leave the ticks beside each other. -/
def Rests (near : W → W → Prop) (reply : Option String) (_ _ : Unit) (l l' : Live W) : Prop :=
  LiveBeside near reply none l l'

/-- Two steps that are one, after which its data is owed to both tasks. -/
def Steps (near : W → W → Prop) (reply : Option String) (step step' : Step) (l l' : Live W) : Prop :=
  step = step' ∧ LiveBeside near reply step.data l l'

variable {h : Host F W} {fr : Frame F} {id : String} (runId tickId : String)

/-! ## Writes -/

theorem abreast_onStore {write write' : ExceptT Fault (StateM W) Unit}
    (first : (write.run l.world).1 = .ok ()) (second : (write'.run l'.world).1 = .ok ())
    (world : near (write.run l.world).2 (write'.run l'.world).2)
    (beside : LiveBeside near reply none l l') :
    Abreast near reply (Rests near reply) ((Action.onStore write).exec l)
      ((Action.onStore write').exec l') := by
  rw [exec_onStore, exec_onStore, first, second]
  exact .done ⟨beside.stance, beside.transitions, world⟩

theorem exec_checkpoint (sturdy : h.Sturdy) (live : Live W) :
    (checkpoint h).exec live =
      (.ok (), ⟨live.tick, ((h.checkpoint live.tick.progress).run live.world).2⟩) := by
  unfold checkpoint
  rw [exec_bind_of_ok (exec_progress live), exec_onStore, sturdy.checkpoint]

theorem checkpoint_abreast (pairs : h.Pairs reply near eve)
    (beside : LiveBeside near reply none l l') :
    Abreast near reply (Rests near reply) ((checkpoint h).exec l) ((checkpoint h).exec l') := by
  rw [exec_checkpoint pairs.sturdy, exec_checkpoint pairs.sturdy]
  exact .done ⟨beside.stance, beside.transitions,
    pairs.checkpoint _ _ _ _ beside.stance.progress beside.world⟩

/-- Two rows of one shape are both kept or both refused. -/
theorem keep_abreast (pairs : h.Pairs reply near eve) {row row' : Transition}
    (looks : row.shape = row'.shape) (beside : LiveBeside near reply none l l') :
    Abreast near reply (Rests near reply)
      ((do
        Action.onStore (h.record row l.tick.progress)
        Action.change fun t => { t with events := t.events ++ [row] } : Action W Unit).exec l)
      ((do
        Action.onStore (h.record row' l'.tick.progress)
        Action.change fun t => { t with events := t.events ++ [row'] } : Action W Unit).exec l') := by
  have world := pairs.record row row' _ _ _ _ looks beside.stance.progress beside.world
  cases checked : row.check with
  | ok _ =>
      have checked' := Transition.check_of_shape looks.symm checked
      refine (abreast_onStore (pairs.sturdy.record row _ _ checked)
        (pairs.sturdy.record row' _ _ checked') world beside).bind ?_
      intro _ _ m m' written
      exact abreast_change ⟨written.stance, written.transitions, written.world⟩
  | error fault =>
      obtain ⟨fault', checked'⟩ : ∃ fault', row'.check = .error fault' := by
        cases found : row'.check with
        | error fault' => exact ⟨fault', rfl⟩
        | ok _ =>
            rw [Transition.check_of_shape looks found] at checked
            cases checked
      have first := pairs.refuse row l.tick.progress l.world fault checked
      have second := pairs.refuse row' l'.tick.progress l'.world fault' checked'
      rw [exec_bind, exec_bind, exec_onStore, exec_onStore, first, second]
      exact .broke (.stuck (row.calm_check fault checked) (row'.calm_check fault' checked') world)

theorem record_abreast (pairs : h.Pairs reply near eve) (fr : Frame F)
    (fromId toId event : String) (reason : Reason) (attempt rounds : Int)
    (beside : LiveBeside near reply none l l') :
    Abreast near reply (Rests near reply)
      ((record h fr fromId toId event reason attempt rounds).exec l)
      ((record h (fr.renamed runId tickId) fromId toId event reason attempt rounds).exec l') := by
  have world := pairs.now _ _ (pairs.freshEventId _ _ beside.world)
  unfold record
  rw [exec_bind_of_ok (exec_onWorld _ l), exec_bind_of_ok (exec_onWorld _ l')]
  rw [exec_bind_of_ok (exec_onWorld _ ⟨l.tick, _⟩), exec_bind_of_ok (exec_onWorld _ ⟨l'.tick, _⟩),
    exec_bind_of_ok (exec_progress ⟨l.tick, _⟩), exec_bind_of_ok (exec_progress ⟨l'.tick, _⟩)]
  have written : LiveBeside near reply none ⟨l.tick, (h.now (h.freshEventId l.world).2).2⟩
      ⟨l'.tick, (h.now (h.freshEventId l'.world).2).2⟩ :=
    ⟨beside.stance, beside.transitions, world⟩
  exact keep_abreast pairs rfl written

/-! ## Visits -/

/-- Two attempts that come out alike. -/
def Attempts (near : W → W → Prop) (reply : Option String) (attempt attempt' : Attempt)
    (l l' : Live W) : Prop :=
  attempt = attempt' ∧ LiveBeside near reply attempt.owed l l'

theorem attemptOnce_abreast (pairs : h.Pairs reply near eve) (fr : Frame F) (id : String)
    (handler : Handler F) (attempt : Int) (beside : LiveBeside near reply none l l') :
    Abreast near reply (Attempts near reply) ((attemptOnce h fr id handler attempt).exec l)
      ((attemptOnce h (fr.renamed runId tickId) id handler attempt).exec l') := by
  have inputs := handlerInput_beside beside.stance fr runId tickId id attempt
  have asked := pairs.discreet.ask pairs.words (.handler handler inputs) beside.world
  generalize first : (Question.handler handler (l.tick.stance.handlerInput fr id attempt)).ask
    h.behaviour l.world = r at asked
  generalize second : (Question.handler handler (l'.tick.stance.handlerInput
    (fr.renamed runId tickId) id attempt)).ask h.behaviour l'.world = r' at asked
  obtain ⟨answer, world⟩ := r
  obtain ⟨answer', world'⟩ := r'
  obtain ⟨same, worlds⟩ := asked
  simp only at same worlds
  subst same
  rw [exec_attemptOnce h fr id handler attempt l answer world first,
    exec_attemptOnce h (fr.renamed runId tickId) id handler attempt l' answer world' second]
  have tried := attempted_beside beside.stance id attempt answer
  generalize attempted id attempt l.tick.stance answer = j at tried ⊢
  generalize attempted id attempt l'.tick.stance answer = j' at tried ⊢
  cases tried with
  | on outcome after => exact .done ⟨rfl, after, beside.transitions, worlds⟩
  | doomed cause taskId after => exact .fail after worlds

theorem waitForRetry_abreast (pairs : h.Pairs reply near eve) (retry : Option RetryPolicy)
    (attempt : Int) (beside : LiveBeside near reply none l l') :
    Abreast near reply (Rests near reply) ((waitForRetry h retry attempt).exec l)
      ((waitForRetry h retry attempt).exec l') := by
  cases retry with
  | none => exact .done beside
  | some policy =>
      simp only [waitForRetry]
      cases delayed : policy.delaySeconds attempt with
      | error fault =>
          have calm := policy.calm_delaySeconds attempt fault delayed
          exact .broke (.stuck calm calm beside.world)
      | ok delay =>
          simp only
          by_cases positive : delay.isPositive = true
          · rw [if_pos positive]
            exact .done ⟨beside.stance, beside.transitions, pairs.sleep delay _ _ beside.world⟩
          · rw [if_neg positive]
            exact .done beside

theorem LiveBeside.changed (beside : LiveBeside near reply owed l l') {p p' : Progress}
    (shown : Progress → Progress) (first : p.core = shown l.tick.progress.core)
    (second : p'.core = shown l'.tick.progress.core)
    (stage : p.lifecycle = l.tick.progress.lifecycle)
    (stage' : p'.lifecycle = l'.tick.progress.lifecycle)
    (context : p.context = l.tick.progress.context)
    (context' : p'.context = l'.tick.progress.context) :
    LiveBeside near reply owed ⟨{ l.tick with progress := p }, l.world⟩
      ⟨{ l'.tick with progress := p' }, l'.world⟩ := by
  have core := Progress.core_congr shown first second beside.stance.progress.core
  have lifecycle : p.lifecycle = p'.lifecycle := by
    rw [stage, stage']
    exact beside.stance.progress.lifecycle
  exact ⟨beside.stance.changed core lifecycle context context', beside.transitions, beside.world⟩

theorem changeProgress_abreast {f f' : Progress → Progress}
    (after : LiveBeside near reply owed ⟨{ l.tick with progress := f l.tick.progress }, l.world⟩
      ⟨{ l'.tick with progress := f' l'.tick.progress }, l'.world⟩) :
    Abreast near reply (fun _ _ m m' => LiveBeside near reply owed m m')
      ((Action.changeProgress f).exec l) ((Action.changeProgress f').exec l') :=
  .done after

theorem settled_abreast (attempt : Int) (o : Outcome) (id : String)
    (beside : LiveBeside near reply o.data l l') :
    Abreast near reply (Steps near reply)
      ((do
        Action.changeProgress (Progress.settled · id o)
        pure (settledStep attempt o) : Action W Step).exec l)
      ((do
        Action.changeProgress (Progress.settled · id o)
        pure (settledStep attempt o) : Action W Step).exec l') := by
  have settles : ∀ p : Progress, (Progress.settled p id o).core = Progress.clearAttempts p.core id ∧
      (Progress.settled p id o).lifecycle = p.lifecycle ∧
      (Progress.settled p id o).context = p.context := by
    intro p
    unfold Progress.settled
    by_cases done : o.status = "done"
    · simp only [done, if_true]
      exact ⟨rfl, rfl, rfl⟩
    · simp only [done, if_false]
      exact ⟨rfl, rfl, rfl⟩
  refine (changeProgress_abreast (beside.changed (Progress.clearAttempts · id) (settles _).1
    (settles _).1 (settles _).2.1 (settles _).2.1 (settles _).2.2 (settles _).2.2)).bind ?_
  exact fun _ _ m m' after => .done ⟨rfl, after⟩

theorem tryAttempts_abreast (pairs : h.Pairs reply near eve) (fr : Frame F) (id : String)
    (handler : Handler F) (retry : Option RetryPolicy) (limit : Value) (room : Nat)
    (attempt : Int) (beside : LiveBeside near reply none l l') :
    Abreast near reply (Steps near reply)
      ((tryAttempts h fr id handler retry limit room attempt).exec l)
      ((tryAttempts h (fr.renamed runId tickId) id handler retry limit room attempt).exec l') := by
  induction room generalizing attempt l l' with
  | zero =>
      unfold tryAttempts
      refine (attemptOnce_abreast runId tickId pairs fr id handler attempt beside).bind ?_
      rintro outcome _ m m' ⟨rfl, tried⟩
      cases outcome with
      | settled o => exact settled_abreast attempt o id tried
      | failed reason message =>
          refine (changeProgress_abreast (tried.changed (fun p => p) rfl rfl rfl rfl rfl rfl)).bind ?_
          intro _ _ n n' failed
          simp only
          by_cases incomparable : (limit.isBelow? attempt).isNone
          · rw [if_pos incomparable]
            exact .broke (.stuck rfl rfl failed.world)
          · rw [if_neg incomparable]
            refine (changeProgress_abreast (failed.changed (Progress.clearAttempts · id)
              rfl rfl rfl rfl rfl rfl)).bind ?_
            exact fun _ _ o o' cleared => .done ⟨rfl, cleared⟩
  | succ room ih =>
      unfold tryAttempts
      refine (attemptOnce_abreast runId tickId pairs fr id handler attempt beside).bind ?_
      rintro outcome _ m m' ⟨rfl, tried⟩
      cases outcome with
      | settled o => exact settled_abreast attempt o id tried
      | failed reason message =>
          refine (changeProgress_abreast (tried.changed (fun p => p) rfl rfl rfl rfl rfl rfl)).bind ?_
          intro _ _ n n' failed
          let count (p : Progress) : Progress :=
            { p with attempts := Sorted.put id attempt p.attempts }
          refine (changeProgress_abreast (failed.changed count rfl rfl rfl rfl rfl rfl)).bind ?_
          intro _ _ o o' counted
          refine (record_abreast runId tickId pairs fr id id "failed" reason attempt 0 counted).bind ?_
          intro _ _ o o' recorded
          refine (waitForRetry_abreast pairs retry attempt recorded).bind ?_
          exact fun _ _ o o' waited => ih (attempt + 1) waited

theorem runAction_abreast (pairs : h.Pairs reply near eve) (fr : Frame F) (id : String)
    (handler : Handler F) (retry : Option RetryPolicy) (beside : LiveBeside near reply none l l') :
    Abreast near reply (Steps near reply) ((runAction h fr id handler retry).exec l)
      ((runAction h (fr.renamed runId tickId) id handler retry).exec l') := by
  have graph : (fr.renamed runId tickId).graph = fr.graph := rfl
  unfold runAction
  rw [graph]
  cases resolveHandler fr.graph id handler with
  | error cause => exact .fail beside.stance.progress beside.world
  | ok callable =>
      have attempts := beside.stance.progress.attempts
      rw [exec_bind_of_ok (exec_orFail_ok callable l), exec_bind_of_ok (exec_orFail_ok callable l')]
      simp only
      rw [exec_bind_of_ok (exec_progress l), exec_bind_of_ok (exec_progress l')]
      have same : l.tick.progress.attempts = l'.tick.progress.attempts := attempts
      simp only [same]
      exact tryAttempts_abreast runId tickId pairs fr id callable retry _ _ _ beside

theorem AsksOnce.abreast (pairs : h.Pairs reply near eve) {node : State F}
    {act act' : Action W Step} (asks : AsksOnce h fr id node act)
    (asks' : AsksOnce h (fr.renamed runId tickId) id node act')
    (judges : ∀ answer, Left reply (reacted id l.tick.stance node answer)
      (reacted id l'.tick.stance node answer)) (beside : LiveBeside near reply none l l') :
    Abreast near reply (Steps near reply) (act.exec l) (act'.exec l') := by
  have asked := question_beside beside.stance fr runId tickId id node
  generalize known : question fr id l.tick.stance node = k at asked
  generalize known' : question (fr.renamed runId tickId) id l'.tick.stance node = k' at asked
  cases asked with
  | unknown cause =>
      rw [asks.unresolved l cause known, asks'.unresolved l' cause known']
      exact .fail beside.stance.progress beside.world
  | @known q q' questions =>
      have agree := pairs.discreet.ask pairs.words questions beside.world
      generalize first : q.ask h.behaviour l.world = a at agree
      generalize second : q'.ask h.behaviour l'.world = a' at agree
      obtain ⟨answer, world⟩ := a
      obtain ⟨answer', world'⟩ := a'
      obtain ⟨same, worlds⟩ := agree
      simp only at same worlds
      subst same
      obtain ⟨r, settles, ran⟩ := asks.resolved l q answer world known first
      obtain ⟨r', settles', ran'⟩ := asks'.resolved l' q' answer world' known' second
      rw [ran, ran']
      have left := judges answer
      generalize reacted id l.tick.stance node answer = j at settles left ⊢
      generalize reacted id l'.tick.stance node answer = j' at settles' left ⊢
      cases left with
      | on step after =>
          cases settles
          cases settles'
          exact .done ⟨rfl, after, beside.transitions, worlds⟩
      | doomed cause taskId after =>
          cases settles
          cases settles'
          exact .fail after worlds
      | stuck fault calm after =>
          cases settles
          cases settles'
          exact .broke (.stuck calm calm worlds)

theorem runState_abreast (pairs : h.Pairs reply near eve) (fr : Frame F) (id : String)
    (node : State F) (beside : LiveBeside near reply none l l') :
    Abreast near reply (Steps near reply) ((runState h fr id node).exec l)
      ((runState h (fr.renamed runId tickId) id node).exec l') := by
  cases node with
  | action handler routes retry => exact runAction_abreast runId tickId pairs fr id handler retry beside
  | orchestrate routes handler selector =>
      refine (runOrchestrate_asksOnce h fr id routes handler selector).abreast runId tickId pairs
        (runOrchestrate_asksOnce h (fr.renamed runId tickId) id routes handler selector) ?_ beside
      intro answer
      simp only [reacted]
      by_cases handled : Graph.hasHandler handler = true
      · simp only [handled, if_true]
        exact reported_beside beside.stance id answer
      · simp only [handled, Bool.false_eq_true, if_false]
        exact selected_beside beside.stance id answer
  | loop body bound routes stop =>
      exact (runLoop_asksOnce h fr id body bound routes stop).abreast runId tickId pairs
        (runLoop_asksOnce h (fr.renamed runId tickId) id body bound routes stop)
        (rounds_beside beside.stance id bound) beside
  | feedback resume => exact .fail beside.stance.progress beside.world
  | terminal status message => exact .fail beside.stance.progress beside.world
  | unsupported v => exact .fail beside.stance.progress beside.world

/-! ## Transitions -/

/-- Two ticks before their next transition. Their tasks may still be at different stages: the first one
waits for its reply and has yet to begin, the second one is under way already. -/
structure Poised (near eve : W → W → Prop) (reply : Option String) (l l' : Live W) : Prop where
  stance : Stance.Beside reply none ⟨Progress.begun l.tick.progress, l.tick.feedback⟩
    ⟨Progress.begun l'.tick.progress, l'.tick.feedback⟩
  transitions : l.tick.transitions = l'.tick.transitions
  world : near l.world l'.world
  stage : l.tick.progress.lifecycle = l'.tick.progress.lifecycle ∨
    (l'.tick.progress.lifecycle = .running ∧ eve l.world l'.world)

theorem LiveBeside.poised (beside : LiveBeside near reply none l l') : Poised near eve reply l l' :=
  ⟨begun_beside beside.stance, beside.transitions, beside.world,
    .inl beside.stance.progress.lifecycle⟩

theorem Poised.position (poised : Poised near eve reply l l') (g : Graph F) :
    Engine.position g l.tick.progress = Engine.position g l'.tick.progress :=
  (poised.stance.progress.position g :)

theorem exec_markRunning_running {live : Live W} (running : live.tick.progress.lifecycle = .running) :
    (markRunning h).exec live = (.ok (), live) := by
  unfold markRunning
  rw [exec_bind_of_ok (exec_progress live)]
  simp only [running, ne_eq, not_true_eq_false, if_false]
  rfl

theorem exec_markRunning_idle (sturdy : h.Sturdy) {live : Live W}
    (idle : live.tick.progress.lifecycle ≠ .running) :
    (markRunning h).exec live =
      (.ok (), ⟨{ live.tick with progress := Progress.begun live.tick.progress },
        ((h.checkpoint (Progress.begun live.tick.progress)).run live.world).2⟩) := by
  unfold markRunning
  rw [exec_bind_of_ok (exec_progress live)]
  simp only [idle, ne_eq, not_false_eq_true, if_true]
  rw [exec_bind_of_ok (exec_changeProgress _ live), exec_checkpoint sturdy]
  rfl

/-- Once both tasks are under way, the ticks are beside each other. -/
theorem markRunning_abreast (pairs : h.Pairs reply near eve) (poised : Poised near eve reply l l') :
    Abreast near reply (Rests near reply) ((markRunning h).exec l) ((markRunning h).exec l') := by
  have core := poised.stance.progress.core
  by_cases running' : l'.tick.progress.lifecycle = .running
  · rw [exec_markRunning_running running']
    by_cases running : l.tick.progress.lifecycle = .running
    · rw [exec_markRunning_running running]
      have stage : l.tick.progress.lifecycle = l'.tick.progress.lifecycle :=
        running.trans running'.symm
      exact .done ⟨poised.stance.changed core stage rfl rfl, poised.transitions, poised.world⟩
    · -- only the first tick begins
      rw [exec_markRunning_idle pairs.sturdy running]
      have eve : eve l.world l'.world := by
        rcases poised.stage with same | ⟨-, eve⟩
        · exact absurd (same.trans running') running
        · exact eve
      exact .done ⟨poised.stance.changed core running'.symm rfl rfl, poised.transitions,
        pairs.begin _ _ _ eve⟩
  · have same : l.tick.progress.lifecycle = l'.tick.progress.lifecycle :=
      poised.stage.resolve_right fun apart => running' apart.1
    have running : l.tick.progress.lifecycle ≠ .running := by rwa [same]
    rw [exec_markRunning_idle pairs.sturdy running, exec_markRunning_idle pairs.sturdy running']
    exact .done ⟨poised.stance, poised.transitions,
      pairs.checkpoint _ _ _ _ poised.stance.progress poised.world⟩

/-- What two ticks find where they stand: both stop there, or both have the same state to visit. -/
inductive Arrives (near eve : W → W → Prop) (reply : Option String) :
    Finish ⊕ (String × State F) → Finish ⊕ (String × State F) → Live W → Live W → Prop
  | stopped (finish finish' : Finish) {l l' : Live W} (world : near l.world l'.world) :
      Arrives near eve reply (.inl finish) (.inl finish') l l'
  | onward (id : String) (node : State F) {l l' : Live W} (poised : Poised near eve reply l l') :
      Arrives near eve reply (.inr (id, node)) (.inr (id, node)) l l'

theorem applyTerminal_abreast (poised : Poised near eve reply l l') (id : String)
    (status : EndStatus) (message arrival : Option String) :
    Abreast near reply (Rests near reply) ((applyTerminal id status message arrival).exec l)
      ((applyTerminal id status message arrival).exec l') :=
  .done ⟨atEnd_beside poised.stance id status message arrival, poised.transitions, poised.world⟩

theorem applyPause_abreast (pairs : h.Pairs reply near eve) (fr : Frame F) {id resume : String}
    (found : fr.graph.state? id = some (.feedback resume)) (previous : Option String)
    (poised : Poised near eve reply l l') :
    Abreast near reply (Rests near reply) ((applyPause h fr id previous).exec l)
      ((applyPause h (fr.renamed runId tickId) id previous).exec l') := by
  obtain ⟨next, resumes⟩ := resumeTarget_of_state? found previous
  have resumes' : (fr.renamed runId tickId).graph.resumeTarget id previous = .ok next := resumes
  rw [exec_applyPause fr resumes l, exec_applyPause (fr.renamed runId tickId) resumes' l']
  exact .done ⟨pausedAt_beside poised.stance next _ _, poised.transitions,
    pairs.now _ _ poised.world⟩

theorem arrive_abreast (pairs : h.Pairs reply near eve) (fr : Frame F) (previous : Option String)
    (poised : Poised near eve reply l l') :
    Abreast near reply (Arrives near eve reply) ((arrive h fr previous).exec l)
      ((arrive h (fr.renamed runId tickId) previous).exec l') := by
  have graph : (fr.renamed runId tickId).graph = fr.graph := rfl
  unfold arrive
  rw [exec_bind_of_ok (exec_progress l), exec_bind_of_ok (exec_progress l')]
  simp only [graph, ← poised.position fr.graph]
  cases found : fr.graph.state? (position fr.graph l.tick.progress) with
  | none =>
      exact .broke (.doomed poised.stance.progress.core poised.stance.progress.context poised.world)
  | some node =>
      cases node with
      | terminal status message =>
          refine (applyTerminal_abreast poised _ status message none).bind ?_
          intro _ _ m m' ended
          refine (checkpoint_abreast pairs ended).bind ?_
          exact fun _ _ m m' written => .done (.stopped _ _ written.world)
      | feedback resume =>
          refine (applyPause_abreast runId tickId pairs fr found previous poised).bind ?_
          intro _ _ m m' paused
          refine (checkpoint_abreast pairs paused).bind ?_
          exact fun _ _ m m' written => .done (.stopped _ _ written.world)
      | _ => exact .done (.onward _ _ poised)

theorem applyArrival_abreast (pairs : h.Pairs reply near eve) (fr : Frame F) (id : String)
    {target : String} {node : State F} (found : fr.graph.state? target = some node)
    (arrival : Option String) (beside : LiveBeside near reply none l l') :
    Abreast near reply (Rests near reply) ((applyArrival h fr id target arrival node).exec l)
      ((applyArrival h (fr.renamed runId tickId) id target arrival node).exec l') := by
  have poised : Poised near eve reply l l' := beside.poised
  cases node with
  | terminal status message => exact applyTerminal_abreast poised target status message arrival
  | feedback resume => exact applyPause_abreast runId tickId pairs fr found (some id) poised
  | _ => exact .done beside

/-- Two transitions after which both ticks stop, or both go on. -/
inductive Takes (near : W → W → Prop) (reply : Option String) :
    Option Finish → Option Finish → Live W → Live W → Prop
  | stopped (finish finish' : Finish) {l l' : Live W} (world : near l.world l'.world) :
      Takes near reply (some finish) (some finish') l l'
  | onward {l l' : Live W} (beside : LiveBeside near reply none l l') :
      Takes near reply none none l l'

theorem arrivalFinish_abreast (step : Step) (node : State F)
    (beside : LiveBeside near reply none l l') :
    Abreast near reply (Takes near reply) ((arrivalFinish step node).exec l)
      ((arrivalFinish step node).exec l') := by
  cases node with
  | terminal status message => exact .done (.stopped _ _ beside.world)
  | feedback resume => exact .done (.stopped _ _ beside.world)
  | _ => exact .done (.onward beside)

theorem takeTransition_abreast (pairs : h.Pairs reply near eve) (fr : Frame F) (budget : Budget)
    (id : String) (node : State F) (poised : Poised near eve reply l l') :
    Abreast near reply (Takes near reply) ((takeTransition h fr budget id node).exec l)
      ((takeTransition h (fr.renamed runId tickId) budget id node).exec l') := by
  unfold takeTransition
  rw [exec_bind_of_ok (exec_tick l), exec_bind_of_ok (exec_tick l')]
  simp only [← poised.transitions]
  by_cases spent : budget.perRun ≤ l.tick.transitions
  · simp only [spent, if_true]
    exact .broke (.doomed poised.stance.progress.core poised.stance.progress.context poised.world)
  · simp only [spent, if_false]
    refine (markRunning_abreast pairs poised).bind ?_
    intro _ _ m m' running
    refine (runState_abreast runId tickId pairs fr id node running).bind ?_
    rintro step _ m m' ⟨rfl, left⟩
    have graph : (fr.renamed runId tickId).graph = fr.graph := rfl
    rw [graph]
    cases routed : stepTarget fr.graph id node step with
    | error cause => exact .fail left.stance.progress left.world
    | ok route =>
        obtain ⟨target, targetNode⟩ := route
        obtain ⟨-, found⟩ := stepTarget_ok routed
        rw [exec_bind_of_ok (exec_orFail_ok _ m), exec_bind_of_ok (exec_orFail_ok _ m')]
        simp only
        have moved : LiveBeside near reply none ⟨move step target m.tick, m.world⟩
            ⟨move step target m'.tick, m'.world⟩ :=
          ⟨moved_beside left.stance target, congrArg (· + 1) left.transitions, left.world⟩
        rw [exec_bind_of_ok (exec_change _ m), exec_bind_of_ok (exec_change _ m')]
        refine (applyArrival_abreast runId tickId pairs fr id found step.message moved).bind ?_
        intro _ _ n n' arrived
        refine (record_abreast runId tickId pairs fr id target step.event step.reason step.attempt
          step.loopIteration arrived).bind ?_
        exact fun _ _ n n' recorded => arrivalFinish_abreast step targetNode recorded

/-! ## Runs -/

/-- Two runs leave their worlds near each other, unless both break off. -/
theorem run_abreast (pairs : h.Pairs reply near eve) (fr : Frame F) (budget : Budget) (left : Nat)
    (previous : Option String) (poised : Poised near eve reply l l') :
    Abreast near reply (fun _ _ m m' => near m.world m'.world)
      ((run h fr budget left previous).exec l)
      ((run h (fr.renamed runId tickId) budget left previous).exec l') := by
  induction left generalizing previous l l' with
  | zero =>
      unfold run
      refine (arrive_abreast runId tickId pairs fr previous poised).bind ?_
      intro found found' m m' arrives
      cases arrives with
      | stopped finish finish' world => exact .done world
      | onward id node poised => exact .done poised.world
  | succ left ih =>
      unfold run
      refine (arrive_abreast runId tickId pairs fr previous poised).bind ?_
      intro found found' m m' arrives
      cases arrives with
      | stopped finish finish' world => exact .done world
      | onward id node poised =>
          refine (takeTransition_abreast runId tickId pairs fr budget id node poised).bind ?_
          intro taken taken' n n' takes
          cases takes with
          | stopped finish finish' world => exact .done world
          | onward beside => exact ih (some id) beside.poised

/-- Whether they give their tasks up or not, two ticks leave their worlds near each other. -/
theorem orPersistFailure_near (pairs : h.Pairs reply near eve) {act act' : Action W α}
    (abreast : Abreast near reply (fun _ _ m m' => near m.world m'.world) (act.exec l)
      (act'.exec l')) :
    near ((orPersistFailure h act).exec l).2.world ((orPersistFailure h act').exec l').2.world := by
  unfold orPersistFailure
  rw [exec_tryCatch, exec_tryCatch]
  generalize act.exec l = r at abreast ⊢
  generalize act'.exec l' = r' at abreast ⊢
  cases abreast with
  | done world => exact world
  | @broke fault fault' m m' broke =>
      cases broke with
      | doomed core context world =>
          simp only
          rw [exec_bind_of_ok (exec_changeProgress _ m), exec_bind_of_ok (exec_changeProgress _ m'),
            exec_bind_of_ok (exec_checkpoint pairs.sturdy _),
            exec_bind_of_ok (exec_checkpoint pairs.sturdy _)]
          exact pairs.checkpoint _ _ _ _ (failedWith_beside core context _ _) world
      | stuck calm calm' world =>
          cases fault with
          | fatal cause taskId => cases calm
          | _ =>
              cases fault' with
              | fatal cause taskId => cases calm'
              | _ => exact world

end Engine

end Tickwork
