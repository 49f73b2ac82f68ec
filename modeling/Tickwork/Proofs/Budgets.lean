import Tickwork.Proofs.Edges
import Tickwork.Proofs.Validity

/-!
# Budgets

A tick takes transitions until its task is stopped, its own budget is spent or that of the run is, and a
visit of an action calls its handler until the retry limit is passed. Main statement:
`budgets_are_kept`: a tick takes no more transitions than either budget allows; which of them it ran
into is told by the rows that it wrote; and a visit calls its handler no more often than the stored
counter leaves room for, or once.
-/

set_option autoImplicit false

namespace Tickwork

variable {F W : Type}

/-! ## Calls of a handler -/

namespace Action

variable {α β : Type} {count : W → Nat} {n : Nat}

/-- A part of a tick that raises a count of the world by `n` at most, however it ends. -/
def Costs (count : W → Nat) (n : Nat) (act : Action W α) : Prop :=
  ∀ live, count (act.exec live).2.world ≤ count live.world + n

theorem Costs.bind {act : Action W α} {next : α → Action W β} {m : Nat} (first : Costs count m act)
    (rest : ∀ a, Costs count n (next a)) : Costs count (m + n) (act >>= next) := by
  intro live
  have paid := first live
  rw [exec_bind]
  generalize act.exec live = r at paid ⊢
  obtain ⟨result, after⟩ := r
  cases result with
  | error fault => exact Nat.le_trans paid (by omega)
  | ok a =>
      have owed := rest a after
      simp only at paid owed ⊢
      omega

/-- What costs nothing may stand before anything. -/
theorem Costs.after_free {act : Action W α} {next : α → Action W β} (free : Costs count 0 act)
    (rest : ∀ a, Costs count n (next a)) : Costs count n (act >>= next) := by
  have both := free.bind rest
  rwa [Nat.zero_add] at both

/-- A part of a tick that leaves the world as it is costs nothing. -/
theorem Costs.of_still {act : Action W α} (still : ∀ live, (act.exec live).2.world = live.world) :
    Costs count n act := by
  intro live
  rw [still live]
  exact Nat.le_add_right _ n

theorem costs_onWorld {act : StateM W α} (raises : ∀ w, count (act w).2 ≤ count w + n) :
    Costs count n (onWorld act) := fun live => raises live.world

end Action

namespace Engine

open Tickwork.Action

/-- A count, kept in the world, of the calls of a handler: a call raises it by one at most, and nothing
else that a visit does raises it. -/
structure CallCount (h : Host F W) (handler : Handler F) (count : W → Nat) : Prop where
  call : ∀ input w, count (handler.run h.behaviour input w).2 ≤ count w + 1
  now : ∀ w, count (h.now w).2 ≤ count w
  freshEventId : ∀ w, count (h.freshEventId w).2 ≤ count w
  sleep : ∀ delay w, count (h.sleep delay w).2 ≤ count w
  record : ∀ t p w, count ((h.record t p).run w).2 ≤ count w

section Visits

variable {h : Host F W} {fr : Frame F} {id : String} {handler : Handler F} {count : W → Nat}

theorem CallCount.costs_record (counts : CallCount h handler count) (fromId toId event : String)
    (reason : Reason) (attempt rounds : Int) :
    Costs count 0 (Engine.record h fr fromId toId event reason attempt rounds) := by
  refine .after_free (costs_onWorld counts.freshEventId) fun eventId => ?_
  refine .after_free (costs_onWorld counts.now) fun time => ?_
  refine .after_free (.of_still fun _ => rfl) fun p => ?_
  refine .after_free (fun live => counts.record _ p live.world) fun _ => ?_
  exact .of_still fun _ => rfl

theorem CallCount.costs_waitForRetry (counts : CallCount h handler count) (retry : Option RetryPolicy)
    (attempt : Int) : Costs count 0 (waitForRetry h retry attempt) := by
  cases retry with
  | none => exact .of_still fun _ => rfl
  | some policy =>
      simp only [waitForRetry]
      cases policy.delaySeconds attempt with
      | error fault => exact .of_still fun _ => rfl
      | ok delay =>
          dsimp only
          by_cases positive : delay.isPositive = true
          · rw [if_pos positive]
            exact costs_onWorld (counts.sleep delay)
          · rw [if_neg positive]
            exact .of_still fun _ => rfl

theorem CallCount.costs_attemptOnce (counts : CallCount h handler count) (attempt : Int) :
    Costs count 1 (attemptOnce h fr id handler attempt) := by
  intro live
  rw [exec_attemptOnce h fr id handler attempt live _ _ rfl]
  exact counts.call _ live.world

/-- Tries from one on that `room` others may follow call the handler once more than that at most. -/
theorem CallCount.costs_tryAttempts (counts : CallCount h handler count) (retry : Option RetryPolicy)
    (limit : Value) (room : Nat) (attempt : Int) :
    Costs count (room + 1) (tryAttempts h fr id handler retry limit room attempt) := by
  induction room generalizing attempt with
  | zero =>
      unfold tryAttempts
      show Costs count (1 + 0) _
      refine (counts.costs_attemptOnce attempt).bind fun came => ?_
      cases came with
      | settled o => exact .of_still fun _ => rfl
      | failed reason message =>
          refine .after_free (.of_still fun _ => rfl) fun _ => ?_
          by_cases incomparable : (limit.isBelow? attempt).isNone = true
          · rw [if_pos incomparable]
            exact .of_still fun _ => rfl
          · rw [if_neg incomparable]
            exact .of_still fun _ => rfl
  | succ room ih =>
      unfold tryAttempts
      rw [Nat.add_comm (room + 1) 1]
      refine (counts.costs_attemptOnce attempt).bind fun came => ?_
      cases came with
      | settled o => exact .of_still fun _ => rfl
      | failed reason message =>
          refine .after_free (.of_still fun _ => rfl) fun _ => ?_
          refine .after_free (.of_still fun _ => rfl) fun _ => ?_
          refine .after_free (counts.costs_record _ _ _ _ _ _) fun _ => ?_
          refine .after_free (counts.costs_waitForRetry retry attempt) fun _ => ?_
          exact ih (attempt + 1)

/-- A visit of an action calls its handler as often as the stored counter leaves room for, or once. -/
theorem CallCount.runAction_le (counts : CallCount h handler count) {written : Handler F}
    {retry : Option RetryPolicy} {limit : Int} (whole : attemptLimit retry = .int limit)
    (resolved : resolveHandler fr.graph id written = .ok handler) (live : Live W) :
    (count ((runAction h fr id written retry).exec live).2.world : Int) ≤
      count live.world + max 1 (limit + 1 - (live.tick.progress.attempts.lookup id).getD 0) := by
  have limited : (retry.map RetryPolicy.limit).getD (.int 0) = .int limit := whole
  unfold runAction
  rw [resolved, exec_bind_of_ok (exec_orFail_ok handler live), exec_bind_of_ok (exec_progress live),
    limited]
  simp only [Value.roomFrom_int]
  have cost := (counts.costs_tryAttempts retry (.int limit)
    (limit + 1 - ((live.tick.progress.attempts.lookup id).getD 0 + 1)).toNat
    ((live.tick.progress.attempts.lookup id).getD 0 + 1) :
      Costs count _ (tryAttempts h fr id handler retry (.int limit) _ _)) live
  omega

end Visits

/-! ## Where rows lead -/

variable {answers : Question F → Except Raised Value → Prop} {capped : Prop} {fr : Frame F}
variable {s after : Stance} {e : Entry} {entries : List Entry} {g : Graph F}

/-- There is work to do for a task at an id: its state is neither a pause nor an end. -/
def AtWork (g : Graph F) (id : String) : Prop :=
  ∃ node, g.state? id = some node ∧ isWork node = true

/-- Rows that lead to work, all of them. -/
def LeadsOn (g : Graph F) (rows : List Transition) : Prop :=
  ∀ row ∈ rows, AtWork g row.toId

theorem LeadsOn.nil : LeadsOn g [] := by
  intro row inside
  cases inside

theorem LeadsOn.append {first second : List Transition} (front : LeadsOn g first) (back : LeadsOn g second) :
    LeadsOn g (first ++ second) := by
  intro row inside
  rcases List.mem_append.mp inside with old | new
  · exact front row old
  · exact back row new

theorem not_leadsOn {rows : List Transition}
    (off : ∃ row ∈ rows, ∃ node, g.state? row.toId = some node ∧ isWork node = false) :
    ¬ LeadsOn g rows := by
  obtain ⟨row, inside, node, found, rests⟩ := off
  intro onward
  obtain ⟨node', found', work⟩ := onward row inside
  rw [found] at found'
  cases found'
  rw [rests] at work
  cases work

/-- A turn after which the task is under way leads to work. -/
theorem Turn.leadsOn (turn : Turn answers capped fr s e after)
    (running : after.progress.lifecycle = .running) : LeadsOn fr.graph e.row.toList := by
  cases turn with
  | begin stands work idle => exact LeadsOn.nil
  | halt stands => exact LeadsOn.nil
  | rest stands resumes => exact LeadsOn.nil
  | fail doomed => exact LeadsOn.nil
  | @visit id node j verdict now row p visit decided lands owner fits =>
      intro row' inside
      rw [Option.toList_some, List.mem_singleton] at inside
      subst inside
      obtain ⟨shape, looks⟩ : ∃ shape, row'.shape = shape := ⟨_, rfl⟩
      rw [looks] at lands
      cases landing_of_landed lands with
      | again reason attempt =>
          have stays : row'.toId = id := congrArg Shape.toId looks
          rw [stays]
          exact ⟨node, visit.stands.2, visit.work⟩
      | left leads found arrives =>
          have toId : row'.toId = _ := congrArg Shape.toId looks
          rw [toId]
          refine ⟨_, found, ?_⟩
          cases arrives with
          | ended status message => cases status <;> cases running
          | paused resumes => cases running
          | onward work => exact work

theorem Walk.leadsOn (walk : Walk answers capped fr s entries after)
    (running : after.progress.lifecycle = .running) : LeadsOn fr.graph (rowsOf entries) := by
  induction walk with
  | refl s => exact LeadsOn.nil
  | @last s after e turn =>
      rw [rowsOf_cons]
      exact (turn.leadsOn running).append LeadsOn.nil
  | @step s middle after e entries turn under rest ih =>
      rw [rowsOf_cons]
      exact (turn.leadsOn under).append (ih running)

/-! ## What a task is not given up for -/

/-- A task that is given up for the budget of its run, though that is not spent, has a callable that
raises just this. -/
theorem Doomed.raises_runBudget {h : Host F W} {n : Nat} {tick : String} {taskId : Option String}
    (valid : fr.graph.violations = [])
    (doomed : Doomed (Answers h) False fr s (.runBudget n tick) taskId after) :
    h.behaviour.Raises (.runBudget n tick) := by
  cases doomed with
  | spent transitions stands work cap => exact cap.elim
  | unasked stands work running unresolved =>
      rcases question_of_valid valid stands.2 work s with ⟨q, asked, -⟩ | ⟨inert, refused⟩
      · rw [asked] at unresolved
        cases unresolved
      · rw [refused] at unresolved
        cases unresolved
  | judged visit refused => exact (visit.refused_cause valid refused).resolve_right nofun
  | @unrouted id node j verdict now cause taskId visit decided astray =>
      cases verdict with
      | again reason attempt => cases astray
      | leave step =>
          simp only [landed, stepTarget] at astray
          cases leads : node.target? step.event with
          | none =>
              rw [leads] at astray
              cases astray
          | some target =>
              obtain ⟨-, targetNode, found⟩ := Graph.target_sound valid visit.stands.2 leads
              obtain ⟨landing, lands⟩ := landed_of_target leads found now j.after.progress
              simp only [landed, stepTarget] at lands
              rw [lands] at astray
              cases astray

/-! ## Transitions -/

section Runs

variable {h : Host F W} {view : W → MemoryStore} {budget : Budget} {left taken : Nat}
variable {rows : List Transition} {result : Except Fault Finish}

/-- How a run ends that has taken some transitions before and may take `left` of them yet, by the rows that
it writes. -/
inductive Metered (h : Host F W) (fr : Frame F) (budget : Budget) (left taken : Nat) :
    List Transition → Except Fault Finish → Prop
  | exhausted {rows : List Transition} {finish : Finish} (all : stepsIn rows = left)
      (within : taken + stepsIn rows ≤ budget.perRun) (onward : LeadsOn fr.graph rows)
      (ending : finish.ending = .budgetExhausted) : Metered h fr budget left taken rows (.ok finish)
  | stopped {rows : List Transition} {finish : Finish} (few : stepsIn rows ≤ left)
      (within : taken + stepsIn rows ≤ budget.perRun) (off : ¬ LeadsOn fr.graph rows)
      (ending : finish.ending ≠ .budgetExhausted) : Metered h fr budget left taken rows (.ok finish)
  | capped {rows : List Transition} (few : stepsIn rows < left)
      (all : taken + stepsIn rows = budget.perRun) (onward : LeadsOn fr.graph rows) :
      Metered h fr budget left taken rows (.error (.fatal (.runBudget budget.perRun fr.tickId) none))
  | broken {rows : List Transition} {fault : Fault} (few : stepsIn rows < left)
      (within : taken + stepsIn rows < budget.perRun)
      (other : ∀ n tick owner, fault = .fatal (.runBudget n tick) owner →
        h.behaviour.Raises (.runBudget n tick)) : Metered h fr budget left taken rows (.error fault)

/-- One transition more, before a run. -/
theorem Metered.after_transition {first : List Transition} (one : stepsIn first = 1)
    (onward : LeadsOn fr.graph first) (rest : Metered h fr budget left (taken + 1) rows result) :
    Metered h fr budget (left + 1) taken (first ++ rows) result := by
  have count : stepsIn (first ++ rows) = 1 + stepsIn rows := by rw [stepsIn_append, one]
  cases rest with
  | exhausted all within onward' ending =>
      exact .exhausted (by omega) (by omega) (onward.append onward') ending
  | stopped few within off ending =>
      refine .stopped (by omega) (by omega) (fun onward' => off fun row inside => ?_) ending
      exact onward' row (List.mem_append_right _ inside)
  | capped few all onward' => exact .capped (by omega) (by omega) (onward.append onward')
  | broken few within other => exact .broken (by omega) (by omega) other

theorem exec_arrive_work {id : String} {node : State F} (previous : Option String) {live : Live W}
    (stands : StandsAt fr.graph live.tick.progress id node) (work : isWork node = true) :
    (arrive h fr previous).exec live = (.ok (.inr (id, node)), live) := by
  obtain ⟨here, found⟩ := stands
  unfold arrive
  rw [exec_bind_of_ok (exec_progress live)]
  simp only [here, found]
  cases node with
  | terminal status message => cases work
  | feedback resume => cases work
  | _ => rfl

theorem exec_takeTransition_over (id : String) (node : State F) {live : Live W}
    (spent : budget.perRun ≤ live.tick.transitions) :
    (takeTransition h fr budget id node).exec live =
      (.error (.fatal (.runBudget live.tick.transitions fr.tickId) none), live) := by
  unfold takeTransition
  rw [exec_bind_of_ok (exec_tick live)]
  simp only [spent, if_true]
  rfl

/-- One transition within the budget of the run: the task has moved on to where there is work to do, or it
is how the run ends. -/
theorem takeTransition_metered (keeps : h.Keeps view MemoryStore.keep) (sturdy : h.Sturdy)
    (valid : fr.graph.violations = []) {id : String} {node : State F} (live : Live W)
    (stands : StandsAt fr.graph live.tick.progress id node) (work : isWork node = true)
    (room : live.tick.transitions < budget.perRun) (left : Nat) :
    ∃ rows result after, (takeTransition h fr budget id node).exec live = (result, after) ∧
      (view after.world).rows = (view live.world).rows ++ rows ∧
      ((result = .ok none ∧ stepsIn rows = 1 ∧ LeadsOn fr.graph rows ∧
          after.tick.transitions = live.tick.transitions + 1 ∧
          ∃ target next, StandsAt fr.graph after.tick.progress target next ∧ isWork next = true) ∨
        (∃ finish, result = .ok (some finish) ∧
          Metered h fr budget (left + 1) live.tick.transitions rows (.ok finish)) ∨
        ∃ fault, result = .error fault ∧
          Metered h fr budget (left + 1) live.tick.transitions rows (.error fault)) := by
  have serves : Serves h (Answers h) view MemoryStore.keep := ⟨keeps, fun q w => ⟨w, rfl⟩⟩
  have took : Took (Answers h) False h view MemoryStore.keep fr live _ :=
    takeTransition_took serves (Graph.fit_of_valid valid) budget live stands work (.inl room)
  have written : ∀ (world : W) (entries : List Entry),
      view world = keepAll MemoryStore.keep (view live.world) entries →
      (view world).rows = (view live.world).rows ++ rowsOf entries :=
    fun world entries seen => seen ▸ MemoryStore.rows_keepAll _ entries
  generalize (takeTransition h fr budget id node).exec live = r at took
  cases took with
  | @went entries s world target next walk seen running one ahead work =>
      rw [countP_moves] at one
      refine ⟨_, _, _, rfl, written world entries seen, .inl ⟨rfl, one, walk.leadsOn running, ?_,
        target, next, ahead, work⟩⟩
      simp only [Tick.grown, countP_moves, one]
  | @stopped entries s world finish walk seen wrote halted one off ending tells =>
      rw [countP_moves] at one
      refine ⟨_, _, _, rfl, written world entries seen, .inr (.inl ⟨finish, rfl,
        .stopped (by omega) (by omega) (not_leadsOn off) ?_⟩)⟩
      rw [ending]
      exact Ending.ofLifecycle_ne halted (walk.not_queued wrote)
  | @doomed entries s cause taskId after walk more seen doom still =>
      -- the budget is not spent here, so only a callable can have named it
      rw [countP_moves] at still
      refine ⟨_, _, _, rfl, written _ entries seen, .inr (.inr ⟨_, rfl,
        .broken (by omega) (by omega) ?_⟩)⟩
      intro n tick owner same
      cases same
      exact doom.raises_runBudget valid
  | @escaped entries s fault after walk seen calm escape still =>
      have still := still sturdy
      rw [countP_moves] at still
      refine ⟨_, _, _, rfl, written _ entries seen, .inr (.inr ⟨_, rfl,
        .broken (by omega) (by omega) ?_⟩)⟩
      rintro n tick owner rfl
      cases calm

/-- A run from where there is work to do. -/
theorem run_metered (keeps : h.Keeps view MemoryStore.keep) (sturdy : h.Sturdy) (fr : Frame F)
    (valid : fr.graph.violations = []) (budget : Budget) (left : Nat) {id : String} {node : State F}
    (previous : Option String) (live : Live W)
    (stands : StandsAt fr.graph live.tick.progress id node) (work : isWork node = true)
    (within : live.tick.transitions ≤ budget.perRun) :
    ∃ rows result after, (run h fr budget left previous).exec live = (result, after) ∧
      (view after.world).rows = (view live.world).rows ++ rows ∧
      Metered h fr budget left live.tick.transitions rows result := by
  -- on what the tick may still take; what it has taken grows by as much, so that the run's budget is
  -- looked at before each transition but not after the last
  induction left generalizing id node previous live with
  | zero =>
      unfold run
      rw [exec_bind_of_ok (exec_arrive_work previous stands work)]
      exact ⟨[], _, live, rfl, (List.append_nil _).symm, .exhausted rfl within .nil rfl⟩
  | succ left ih =>
      unfold run
      rw [exec_bind_of_ok (exec_arrive_work previous stands work)]
      simp only
      by_cases isOver : budget.perRun ≤ live.tick.transitions
      · have all : live.tick.transitions = budget.perRun := Nat.le_antisymm within isOver
        rw [exec_bind_of_error (exec_takeTransition_over id node isOver), all]
        exact ⟨[], _, live, rfl, (List.append_nil _).symm, .capped (Nat.succ_pos left) rfl .nil⟩
      · have room : live.tick.transitions < budget.perRun := Nat.not_le.mp isOver
        obtain ⟨first, came, middle, ran, new, ⟨rfl, one, onward, taken, target, next, ahead, work⟩ |
          ⟨finish, rfl, ends⟩ | ⟨fault, rfl, ends⟩⟩ :=
          takeTransition_metered keeps sturdy valid live stands work room left
        · rw [exec_bind_of_ok ran]
          obtain ⟨rows, result, after, ran, new', metered⟩ := ih (some id) middle ahead work
            (by rw [taken]; exact room)
          rw [taken] at metered
          refine ⟨first ++ rows, result, after, ran, ?_, metered.after_transition one onward⟩
          rw [new', new, List.append_assoc]
        · rw [exec_bind_of_ok ran]
          exact ⟨first, _, middle, rfl, new, ends⟩
        · rw [exec_bind_of_error ran]
          exact ⟨first, _, middle, rfl, new, ends⟩

end Runs

/-! ## Advances -/

section Advances

variable {h : Host F W} {view : W → MemoryStore}

/-- A look at where the task stands, if there is no work to do: no row is written, and neither budget is
to blame. -/
theorem arrive_idle (keeps : h.Keeps view MemoryStore.keep) (sturdy : h.Sturdy) (live : Live W)
    (idle : ¬ ∃ id node, StandsAt fr.graph live.tick.progress id node ∧ isWork node = true) :
    ∃ result after, (arrive h fr none).exec live = (result, after) ∧
      (view after.world).rows = (view live.world).rows ∧
      ((∃ finish : Finish, result = .ok (.inl finish) ∧ finish.ending ≠ .budgetExhausted) ∨
        ∃ id, result = .error (.fatal (.missingState id) none)) := by
  -- the progress is written, and the rows stay as they are
  have saved : ∀ live : Live W, ∃ world, (checkpoint h).exec live = (.ok (), ⟨live.tick, world⟩) ∧
      (view world).rows = (view live.world).rows := by
    intro live
    obtain ⟨world, seen, ran | ⟨fault, ran, calm, weak⟩⟩ := checkpoint_cases keeps live
    · exact ⟨world, ran, by rw [seen]; rfl⟩
    · exact absurd sturdy weak
  unfold arrive
  rw [exec_bind_of_ok (exec_progress live)]
  simp only
  cases found : fr.graph.state? (position fr.graph live.tick.progress) with
  | none => exact ⟨_, live, rfl, rfl, .inr ⟨_, rfl⟩⟩
  | some node =>
      cases node with
      | terminal status message =>
          simp only [applyTerminal]
          rw [exec_bind_of_ok (exec_changeProgress _ _)]
          obtain ⟨world, ran, same⟩ := saved ⟨_, live.world⟩
          rw [exec_bind_of_ok ran]
          refine ⟨_, _, rfl, same, .inl ⟨_, rfl, ?_⟩⟩
          have ended : Ending.ofLifecycle (.ofEnd status) ≠ .budgetExhausted := by
            cases status <;> decide
          exact ended
      | feedback resume =>
          obtain ⟨next, resumes⟩ := resumeTarget_of_state? found none
          simp only
          rw [exec_bind_of_ok (exec_applyPause fr resumes live)]
          obtain ⟨world, ran, same⟩ := saved ⟨_, (h.now live.world).2⟩
          rw [exec_bind_of_ok ran]
          have paused : Ending.feedback ≠ .budgetExhausted := by decide
          refine ⟨_, _, rfl, ?_, .inl ⟨_, rfl, paused⟩⟩
          rw [same, keeps.now]
      | action handler routes retry => exact absurd ⟨_, _, ⟨rfl, found⟩, rfl⟩ idle
      | orchestrate routes handler selector => exact absurd ⟨_, _, ⟨rfl, found⟩, rfl⟩ idle
      | loop body bound routes stop => exact absurd ⟨_, _, ⟨rfl, found⟩, rfl⟩ idle
      | unsupported v => exact absurd ⟨_, _, ⟨rfl, found⟩, rfl⟩ idle

/-- A run from where there is no work to do. -/
theorem run_idle (keeps : h.Keeps view MemoryStore.keep) (sturdy : h.Sturdy) (fr : Frame F)
    (budget : Budget) (left : Nat) (live : Live W)
    (idle : ¬ ∃ id node, StandsAt fr.graph live.tick.progress id node ∧ isWork node = true) :
    ∃ result after, (run h fr budget left none).exec live = (result, after) ∧
      (view after.world).rows = (view live.world).rows ∧
      ((∃ finish : Finish, result = .ok finish ∧ finish.ending ≠ .budgetExhausted) ∨
        ∃ id, result = .error (.fatal (.missingState id) none)) := by
  obtain ⟨_, after, ran, same, ⟨finish, rfl, ending⟩ | ⟨id, rfl⟩⟩ :=
    arrive_idle keeps sturdy live idle
  · refine ⟨.ok finish, after, ?_, same, .inl ⟨finish, rfl, ending⟩⟩
    unfold run
    rw [exec_bind_of_ok ran]
    rfl
  · refine ⟨_, after, ?_, same, .inr ⟨id, rfl⟩⟩
    unfold run
    rw [exec_bind_of_error ran]

/-- A result, with the task that a fatal fault is about. -/
def about {α : Type} (taskId : String) : Except Fault α → Except Fault α
  | .error (.fatal cause owner) => .error (.fatal cause (some (owner.getD taskId)))
  | result => result

/-- What persists a failure writes no row, and tells the same but for the task that it is about. -/
theorem exec_orPersistFailure {α : Type} {act : Action W α} {live after : Live W}
    {result : Except Fault α} (keeps : h.Keeps view MemoryStore.keep) (sturdy : h.Sturdy)
    (ran : act.exec live = (result, after)) :
    ∃ last, (orPersistFailure h act).exec live = (about last.tick.progress.taskId result, last) ∧
      (view last.world).rows = (view after.world).rows := by
  unfold orPersistFailure
  rw [exec_tryCatch, ran]
  cases result with
  | ok a => exact ⟨after, rfl, rfl⟩
  | error fault =>
      cases fault with
      | fatal cause owner =>
          simp only
          rw [exec_bind_of_ok (exec_changeProgress _ _)]
          obtain ⟨world, seen, saved | ⟨fault, saved, calm, weak⟩⟩ := checkpoint_cases keeps
            ⟨{ after.tick with progress := Progress.failedWith after.tick.progress cause.message },
              after.world⟩
          · rw [exec_bind_of_ok saved, exec_bind_of_ok (exec_progress _)]
            exact ⟨_, rfl, by rw [seen]; rfl⟩
          · exact absurd sturdy weak
      | _ => exact ⟨after, rfl, rfl⟩

end Advances

end Engine

/-- What a tick comes to under its budgets, by the rows that it writes: it runs out of its own budget, or
the run out of its, exactly if it has taken so many transitions and all of its rows lead to work. -/
structure KeepsBudget (h : Host F W) (g : Graph F) (budget : Budget) (tickId : String)
    (rows : List Transition) (result : Except Fault Finish × Progress) : Prop where
  within : stepsIn rows ≤ min budget.perTick budget.perRun
  exhausted : (∃ finish, result.1 = .ok finish ∧ finish.ending = .budgetExhausted) ↔
    budget.perTick ≤ budget.perRun ∧ stepsIn rows = budget.perTick ∧ Engine.LeadsOn g rows
  capped : budget.perRun < budget.perTick → stepsIn rows = budget.perRun → Engine.LeadsOn g rows →
    result.1 = .error (.fatal (.runBudget budget.perRun tickId) (some result.2.taskId))
  overrun : ∀ n tick owner, result.1 = .error (.fatal (.runBudget n tick) owner) →
    (n = budget.perRun ∧ tick = tickId ∧ budget.perRun < budget.perTick ∧
      stepsIn rows = budget.perRun ∧ Engine.LeadsOn g rows) ∨ h.behaviour.Raises (.runBudget n tick)

namespace Engine

variable {h : Host F W} {view : W → MemoryStore} {g : Graph F} {fr : Frame F}
variable {rows : List Transition} {budget : Budget}

theorem Metered.keepsBudget {result : Except Fault Finish}
    (metered : Metered h fr budget budget.perTick 0 rows result) (p : Progress) :
    KeepsBudget h fr.graph budget fr.tickId rows (about p.taskId result, p) := by
  cases metered with
  | exhausted all within onward ending =>
      refine ⟨by omega, ⟨fun _ => ⟨by omega, all, onward⟩, fun _ => ⟨_, rfl, ending⟩⟩,
        fun smaller most onward => ?_, nofun⟩
      omega
  | stopped few within off ending =>
      refine ⟨by omega, ⟨?_, fun spent => absurd spent.2.2 off⟩,
        fun smaller most onward => absurd onward off, nofun⟩
      rintro ⟨finish, same, exhausted⟩
      cases same
      exact absurd exhausted ending
  | capped few all onward =>
      refine ⟨by omega, ⟨?_, fun spent => ?_⟩, fun smaller most onward => rfl, ?_⟩
      · rintro ⟨finish, same, -⟩
        cases same
      · omega
      · intro n tick owner same
        cases same
        exact .inl ⟨rfl, rfl, by omega, by omega, onward⟩
  | @broken fault few within other =>
      refine ⟨by omega, ⟨?_, fun spent => ?_⟩, fun smaller most onward => ?_, ?_⟩
      · rintro ⟨finish, same, -⟩
        cases fault <;> cases same
      · omega
      · omega
      · intro n tick owner same
        cases fault with
        | fatal cause owner' =>
            cases same
            exact .inr (other _ _ _ rfl)
        | _ => cases same

/-- A tick that writes no row and is stopped for neither of its budgets. -/
theorem keepsBudget_idle {result : Except Fault Finish × Progress} {tickId : String}
    (moves : 1 ≤ budget.perTick) (runs : 1 ≤ budget.perRun)
    (unspent : ∀ finish, result.1 = .ok finish → finish.ending ≠ .budgetExhausted)
    (uncapped : ∀ n tick owner, result.1 ≠ .error (.fatal (.runBudget n tick) owner)) :
    KeepsBudget h g budget tickId [] result := by
  have none_taken : stepsIn [] = 0 := rfl
  refine ⟨Nat.zero_le _, ⟨?_, fun spent => ?_⟩, fun smaller most onward => ?_,
    fun n tick owner same => absurd same (uncapped n tick owner)⟩
  · rintro ⟨finish, same, exhausted⟩
    exact absurd exhausted (unspent finish same)
  · omega
  · omega

theorem advance_keepsBudget (keeps : h.Keeps view MemoryStore.keep) (sturdy : h.Sturdy)
    (valid : g.violations = []) (moves : 1 ≤ budget.perTick) (runs : 1 ≤ budget.perRun)
    (task : TaskInfo) (runId : String) (tickId feedback : Option String) (p : Progress) (w : W) :
    ∃ rows,
      (view (advance h budget g task runId tickId feedback p w).2).rows = (view w).rows ++ rows ∧
      KeepsBudget h g budget (tickIdFor h tickId w).1 rows
        (advance h budget g task runId tickId feedback p w).1 := by
  cases active : p.lifecycle.isTerminal with
  | true =>
      rw [advance_ended _ _ _ _ _ _ _ _ active]
      refine ⟨[], (List.append_nil _).symm, keepsBudget_idle moves runs ?_ nofun⟩
      intro finish same
      cases same
      have started : p.lifecycle ≠ .queued := by
        intro queued
        rw [queued] at active
        cases active
      exact Ending.ofLifecycle_ne (fun running => by rw [running] at active; cases active) started
  | false =>
      rw [advance_active _ _ _ _ _ _ _ _ _ active]
      simp only
      have unseen := tickIdFor_view keeps tickId w
      generalize tickIdFor h tickId w = named at unseen ⊢
      obtain ⟨tick, world⟩ := named
      simp only at unseen ⊢
      rw [← unseen]
      by_cases placed : ∃ id node,
        StandsAt g (firstTick g p feedback).progress id node ∧ isWork node = true
      · obtain ⟨id, node, stands, work⟩ := placed
        obtain ⟨rows, result, after, ran, new, metered⟩ := run_metered keeps sturdy
          ⟨g, task, runId, tick⟩ valid budget budget.perTick none ⟨firstTick g p feedback, world⟩ stands
          work (Nat.zero_le _)
        obtain ⟨last, persisted, same⟩ := exec_orPersistFailure keeps sturdy ran
        rw [persisted]
        exact ⟨rows, same.trans new, metered.keepsBudget last.tick.progress⟩
      · obtain ⟨result, after, ran, same, ends⟩ := run_idle keeps sturdy ⟨g, task, runId, tick⟩ budget
          budget.perTick ⟨firstTick g p feedback, world⟩ placed
        obtain ⟨last, persisted, same'⟩ := exec_orPersistFailure keeps sturdy ran
        rw [persisted]
        refine ⟨[], by rw [same', List.append_nil]; exact same, ?_⟩
        rcases ends with ⟨finish, rfl, ending⟩ | ⟨id, rfl⟩
        · refine keepsBudget_idle moves runs (fun finish' told => ?_) nofun
          cases told
          exact ending
        · exact keepsBudget_idle moves runs nofun nofun

end Engine

open Engine

/-- In an accepted graph, a tick with any callables and any reply, from any progress of a task, takes no
more transitions than its own budget and that of its run allow, the one between one and two hundred and the
other at least one. It reports that its budget is exhausted exactly if that is no larger than the run's,
and was spent on transitions none of which paused or ended the task. It is given up for the run's budget
exactly if that is the smaller one and was spent so, unless a callable raises just this. And a visit of an
action calls its handler once, or as often as the stored counter leaves room for. -/
theorem budgets_are_kept {g : Graph F} (accepted : g.ensureValid = .ok g) :
    (∀ perTick perRun : Int,
      ((Budget.clamped perTick perRun).perTick : Int) = max 1 (min perTick 200) ∧
      ((Budget.clamped perTick perRun).perRun : Int) = max 1 perRun ∧
      ∀ {W : Type} {h : Host F W} {view : W → MemoryStore}, h.Keeps view MemoryStore.keep → h.Sturdy →
      ∀ (task : TaskInfo) (runId : String) (tickId feedback : Option String) (p : Progress) (w : W),
      ∃ rows,
        (view (advance h (.clamped perTick perRun) g task runId tickId feedback p w).2).rows =
          (view w).rows ++ rows ∧
        KeepsBudget h g (.clamped perTick perRun) (tickIdFor h tickId w).1 rows
          (advance h (.clamped perTick perRun) g task runId tickId feedback p w).1) ∧
    ∀ {id : String} {written : Handler F} {routes : ActionRoutes} {retry : Option RetryPolicy},
      g.state? id = some (.action written routes retry) →
      ∃ limit : Int, attemptLimit retry = .int limit ∧
        ∀ {W : Type} (h : Host F W) (fr : Frame F) (handler : Handler F) (count : W → Nat),
        fr.graph = g → resolveHandler g id written = .ok handler → CallCount h handler count →
        ∀ live : Live W,
        (count ((runState h fr id (.action written routes retry)).exec live).2.world : Int) ≤
          count live.world + max 1 (limit + 1 - (live.tick.progress.attempts.lookup id).getD 0) := by
  have valid := Graph.violations_of_accepted accepted
  refine ⟨fun perTick perRun => ?_, fun found => ?_⟩
  · have perTick_eq : ((Budget.clamped perTick perRun).perTick : Int) = max 1 (min perTick 200) := by
      simp only [Budget.clamped, Budget.tickCeiling]
      omega
    have perRun_eq : ((Budget.clamped perTick perRun).perRun : Int) = max 1 perRun := by
      simp only [Budget.clamped]
      omega
    refine ⟨perTick_eq, perRun_eq, fun keeps sturdy task runId tickId feedback p w => ?_⟩
    exact advance_keepsBudget keeps sturdy valid (by omega) (by omega) task runId tickId feedback p w
  · obtain ⟨limit, whole⟩ := (Graph.fit_of_valid valid).wholeLimits _ _ _ _ found
    refine ⟨limit, whole, ?_⟩
    rintro W h fr handler count rfl resolved counts live
    exact counts.runAction_le whole resolved live

/-! ## Two actions that lead to each other -/

/-- A graph that a task never leaves while its actions are done; the first of them may be tried again. -/
def circle : Graph Unit where
  id := "demo"
  start := "first"
  context := []
  states :=
    [("first", .action (.slot (.code () .whole)) ⟨some "second", some "finish", none⟩
        (some ⟨.int 2, .null, none⟩)),
      ("second", .action (.slot (.code () .whole)) ⟨some "first", some "finish", none⟩ none),
      ("finish", .terminal .done none)]
  guards := []
  handlers := []

/-- A host that counts the calls of its callable, which fails the first action twice and is done then. -/
def countingHost : Host Unit Nat where
  behaviour
    | _, .handler input => fun calls =>
      let status := if input.stateId = "first" ∧ input.attempt ≤ 2 then "failed" else "done"
      (⟨.ok (plainReport status), input.context⟩, calls + 1)
    | _, call => fun calls => (⟨.ok .null, call.context⟩, calls + 1)
  now := pure ⟨0⟩
  freshEventId := pure "row"
  freshTickId := pure "tick"
  sleep _ := pure ()
  checkpoint _ := pure ()
  record _ _ := pure ()

/-- A tick that may take three transitions, of a run that may take two. -/
def circlingTick : (Except Fault Finish × Progress) × (Nat × MemoryStore) :=
  advance countingHost.overMemory (.clamped 3 2) circle ⟨"t1", none, none, none⟩ "run" none none
    (.newTask "t1" "demo" []) (0, .empty)

/-- The first visit of such a tick. -/
def firstVisit : Except Fault Step × Live (Nat × MemoryStore) :=
  (runState countingHost.overMemory ⟨circle, ⟨"t1", none, none, none⟩, "run", "tick"⟩ "first"
    (.action (.slot (.code () .whole)) ⟨some "second", some "finish", none⟩
      (some ⟨.int 2, .null, none⟩))).exec
    ⟨firstTick circle (.newTask "t1" "demo" []) none, (0, .empty)⟩

theorem circle_accepted : circle.ensureValid = .ok circle := by
  have ordered : circle.ensureOrdered = .ok () := rfl
  have unbroken : circle.violations = [] := by decide +kernel
  simp only [Graph.ensureValid, Graph.examined, ordered, unbroken, bind, Except.bind]

theorem countingHost_counts :
    CallCount countingHost.overMemory (.slot (.code () .whole)) (Prod.fst : Nat × MemoryStore → Nat) where
  call _ _ := Nat.le_refl _
  now _ := Nat.le_refl _
  freshEventId _ := Nat.le_refl _
  sleep _ _ := Nat.le_refl _
  record t p w := by
    rw [Host.overMemory_record]
    cases w.2.record t p <;> exact Nat.le_refl _

/-- The tick is given up after two transitions, and its first visit has called the handler three times, as
often as two retries allow. -/
theorem budgets_are_kept_circling :
    stepsIn circlingTick.2.2.rows = 2 ∧
    (match circlingTick.1.1 with
      | .error (.fatal (.runBudget n tick) owner) => some (n, tick, owner)
      | _ => none) = some (2, "tick", some "t1") ∧
    KeepsBudget countingHost.overMemory circle (.clamped 3 2) "tick" circlingTick.2.2.rows
      circlingTick.1 ∧
    firstVisit.2.world.1 = 3 ∧ (firstVisit.2.world.1 : Int) ≤ 0 + max 1 (2 + 1 - 0) := by
  refine ⟨by decide +kernel, by decide +kernel, ?_, by decide +kernel, ?_⟩
  · obtain ⟨-, -, kept⟩ := (budgets_are_kept circle_accepted).1 3 2
    obtain ⟨rows, written, keeps⟩ := kept countingHost.overMemory_keeps countingHost.overMemory_sturdy
      ⟨"t1", none, none, none⟩ "run" none none (.newTask "t1" "demo" []) (0, .empty)
    have same : circlingTick.2.2.rows = rows := written
    rw [same]
    exact keeps
  · have found : circle.state? "first" = some _ := rfl
    obtain ⟨limit, whole, bounded⟩ := (budgets_are_kept circle_accepted).2 found
    cases whole
    exact bounded countingHost.overMemory ⟨circle, ⟨"t1", none, none, none⟩, "run", "tick"⟩ _ Prod.fst
      rfl rfl countingHost_counts ⟨firstTick circle (.newTask "t1" "demo" []) none, (0, .empty)⟩

end Tickwork
