import Tickwork.Proofs.Visits

/-!
# A visit, attempt by attempt

Every visit of a state is a run of turns that are kept, one for each attempt that is tried again, and
then the task leaves the state, is given up or a fault escapes: `runState_visited`. Retry limits have to
be whole numbers, as the rules of a graph ask for.
-/

set_option autoImplicit false

namespace Tickwork

variable {F W S : Type}

/-- Whether a row moves its task, as all rows do but those of failed attempts that are tried again. -/
def Transition.moves (t : Transition) : Bool :=
  match t.reason with
  | .known reason => !reason.isAttempt
  | .unknown _ => true

/-- Whether an entry moves its task. -/
def Entry.moves (e : Entry) : Bool :=
  e.row.any Transition.moves

/-- The rows of some entries. -/
def rowsOf (entries : List Entry) : List Transition :=
  entries.filterMap Entry.row

def pagesOf (entries : List Entry) : List Value :=
  entries.flatMap Entry.pages

theorem rowsOf_cons (e : Entry) (entries : List Entry) :
    rowsOf (e :: entries) = e.row.toList ++ rowsOf entries := by
  cases found : e.row <;> simp [rowsOf, found]

theorem rowsOf_append (first second : List Entry) :
    rowsOf (first ++ second) = rowsOf first ++ rowsOf second :=
  List.filterMap_append

theorem pagesOf_cons (e : Entry) (entries : List Entry) :
    pagesOf (e :: entries) = e.pages ++ pagesOf entries := rfl

theorem pagesOf_one (e : Entry) : pagesOf [e] = e.pages := by
  rw [pagesOf_cons]
  exact List.append_nil _

/-- A tick that has made some writes and stands somewhere else. -/
def Tick.grown (t : Tick) (entries : List Entry) (s : Stance) : Tick where
  progress := s.progress
  feedback := s.feedback
  events := t.events ++ rowsOf entries
  pages := t.pages ++ pagesOf entries
  transitions := t.transitions + entries.countP Entry.moves

theorem Tick.grown_nil (t : Tick) : t.grown [] t.stance = t := by
  simp [Tick.grown, Tick.stance, rowsOf, pagesOf]

theorem Tick.grown_append (t : Tick) (first second : List Entry) (middle s : Stance) :
    (t.grown first middle).grown second s = t.grown (first ++ second) s := by
  simp [Tick.grown, rowsOf, pagesOf, List.countP_append, Nat.add_assoc]

/-- Every action of a graph has a whole number for its retry limit. -/
def Graph.WholeLimits (g : Graph F) : Prop :=
  ∀ id handler routes retry, g.state? id = some (.action handler routes retry) →
    ∃ n, Engine.attemptLimit retry = .int n

theorem Value.roomFrom_int (n attempt : Int) :
    (Value.int n).roomFrom attempt = (n + 1 - attempt).toNat := by
  simp [Value.roomFrom, Value.quantity?, Quantity.roomFrom, Quantity.place?]

theorem Value.isBelow?_int (n attempt : Int) :
    ((Value.int n).isBelow? attempt).isNone = false := rfl

theorem Value.isReached?_int (n count : Int) :
    (Value.int n).isReached? count = some (decide (n ≤ count)) := by
  have turned : decide (count < n) = !decide (n ≤ count) := by
    by_cases reached : n ≤ count
    · simp [reached]
    · simp [reached, Int.not_le.mp reached]
  simp [Value.isReached?, Value.quantity?, Quantity.atMost, Quantity.place?, Quantity.Place.below,
    turned]

namespace Engine

open Tickwork.Action

variable {answers : Question F → Except Raised Value → Prop} {capped : Prop} {fr : Frame F}
variable {h : Host F W} {view : W → S} {keep : S → Option Transition → Progress → S}

/-! ## Walks -/

theorem Walk.of_running {s middle after : Stance} {first second : List Entry}
    (front : Walk answers capped fr s first middle)
    (running : middle.progress.lifecycle = .running)
    (back : Walk answers capped fr middle second after) :
    Walk answers capped fr s (first ++ second) after := by
  induction front with
  | refl s => exact back
  | last turn => exact .step turn running back
  | step turn under _ ih => exact .step turn under (ih running back)

/-! ## Faults that escape -/

/-- A fault that ends a tick but not the task, and where the task stands then: a write that broke down,
a delay that no clock can wait for, or an answer that the state cannot be judged or left by. The first
two come only after a write. -/
inductive Escape (answers : Question F → Except Raised Value → Prop) (h : Host F W) (fr : Frame F)
    (entries : List Entry) (s : Stance) : Fault → Progress → Prop
  | broke {fault : Fault} (wrote : entries ≠ []) (weak : ¬ h.Sturdy) :
      Escape answers h fr entries s fault s.progress
  | overlong {id : String} {handler : Handler F} {routes : ActionRoutes} {policy : RetryPolicy}
      {attempt : Int} {fault : Fault} (wrote : entries ≠ [])
      (found : fr.graph.state? id = some (.action handler routes (some policy)))
      (counted : s.progress.attempts.lookup id = some attempt)
      (within : (attemptLimit (some policy)).roomFrom attempt ≠ 0)
      (tooLong : policy.delaySeconds attempt = .error fault) :
      Escape answers h fr entries s fault s.progress
  | jammed {id : String} {node : State F} {j : Judgement Verdict} {fault : Fault}
      (visit : Visit answers fr s id node j) (broken : j.result = .error fault) :
      Escape answers h fr entries s fault j.after.progress
  | unlanded {id : String} {node : State F} {j : Judgement Verdict} {verdict : Verdict}
      {now : Instant} {fault : Fault} {p : Progress}
      (visit : Visit answers fr s id node j) (decided : j.result = .ok verdict)
      (lost : landed fr.graph id node now j.after.progress verdict = .error fault) :
      Escape answers h fr entries s fault p
  | refused {id : String} {node : State F} {j : Judgement Verdict} {verdict : Verdict}
      {now : Instant} {fault : Fault} {row : Transition} {p : Progress}
      (visit : Visit answers fr s id node j) (decided : j.result = .ok verdict)
      (lands : landed fr.graph id node now j.after.progress verdict = .ok (row.shape, p))
      (owner : row.taskId = p.taskId) (unfit : row.check = .error fault) :
      Escape answers h fr entries s fault p

theorem Escape.after {first second : List Entry} {s : Stance} {fault : Fault} {p : Progress}
    (escape : Escape answers h fr second s fault p) :
    Escape answers h fr (first ++ second) s fault p := by
  cases escape with
  | broke wrote weak => exact .broke (by simp [wrote]) weak
  | overlong wrote found counted within tooLong =>
      exact .overlong (by simp [wrote]) found counted within tooLong
  | jammed visit broken => exact .jammed visit broken
  | unlanded visit decided lost => exact .unlanded visit decided lost
  | refused visit decided lands owner unfit => exact .refused visit decided lands owner unfit

/-- A host that keeps what is written and whose callables answer as `answers` says. -/
structure Serves (h : Host F W) (answers : Question F → Except Raised Value → Prop)
    (view : W → S) (keep : S → Option Transition → Progress → S) : Prop where
  keeps : h.Keeps view keep
  answered : ∀ q w, answers q (q.ask h.behaviour w).1

/-! ## Writes -/

/-- What recording a row comes to. -/
inductive Recorded (h : Host F W) (view : W → S) (keep : S → Option Transition → Progress → S)
    (shape : Shape) (live : Live W) : Except Fault Unit → Live W → Prop
  | kept {row : Transition} {world : W} (looks : row.shape = shape)
      (owner : row.taskId = live.tick.progress.taskId) (fits : row.check = .ok ())
      (seen : view world = keep (view live.world) (some row) live.tick.progress) :
      Recorded h view keep shape live (.ok ())
        ⟨{ live.tick with events := live.tick.events ++ [row] }, world⟩
  | broke {row : Transition} {world : W} {fault : Fault} (looks : row.shape = shape)
      (owner : row.taskId = live.tick.progress.taskId) (fits : row.check = .ok ())
      (seen : view world = keep (view live.world) (some row) live.tick.progress)
      (weak : ¬ h.Sturdy) (calm : fault.isFatal = false) :
      Recorded h view keep shape live (.error fault) ⟨live.tick, world⟩
  | refused {row : Transition} {world : W} {fault : Fault} (looks : row.shape = shape)
      (owner : row.taskId = live.tick.progress.taskId) (unfit : row.check = .error fault)
      (seen : view world = view live.world) :
      Recorded h view keep shape live (.error fault) ⟨live.tick, world⟩

theorem record_recorded (keeps : h.Keeps view keep) (fr : Frame F) (fromId toId event : String) (reason : Reason)
    (attempt loopIteration : Int) (live : Live W) :
    ∃ r after, (record h fr fromId toId event reason attempt loopIteration).exec live = (r, after) ∧
      Recorded h view keep ⟨fromId, toId, event, .known reason, attempt, loopIteration⟩ live
        r after := by
  unfold record
  rw [exec_bind_of_ok (exec_onWorld _ _), exec_bind_of_ok (exec_onWorld _ _),
    exec_bind_of_ok (exec_progress _)]
  simp only
  rw [exec_bind, exec_onStore]
  simp only
  have unseen : view (h.now (h.freshEventId live.world).2).2 = view live.world :=
    (keeps.now _).trans (keeps.freshEventId _)
  generalize (h.now (h.freshEventId live.world).2).1 = time
  generalize (h.now (h.freshEventId live.world).2).2 = world at unseen
  obtain ⟨row, built⟩ : ∃ row : Transition, row =
    { eventId := (h.freshEventId live.world).1, runId := fr.runId, tickId := fr.tickId,
      taskId := live.tick.progress.taskId, fromId, toId, event, reason := .known reason, attempt,
      loopIteration, time } := ⟨_, rfl⟩
  have looks : row.shape = ⟨fromId, toId, event, .known reason, attempt, loopIteration⟩ := by
    rw [built]
    rfl
  have owner : row.taskId = live.tick.progress.taskId := by rw [built]
  rw [← built]
  cases checked : row.check with
  | error fault =>
      obtain ⟨raised, seen⟩ := keeps.refuse row live.tick.progress world fault checked
      rw [raised]
      exact ⟨_, _, rfl, .refused looks owner checked (seen.trans unseen)⟩
  | ok _ =>
      have seen := keeps.record row live.tick.progress world checked
      rw [unseen] at seen
      cases written : ((h.record row live.tick.progress).run world).1 with
      | ok _ => exact ⟨_, _, rfl, .kept looks owner checked seen⟩
      | error fault =>
          have weak : ¬ h.Sturdy := by
            intro sturdy
            have fine := sturdy.record row live.tick.progress world checked
            rw [written] at fine
            cases fine
          exact ⟨_, _, rfl, .broke looks owner checked seen weak
            (keeps.record_calm _ _ _ _ checked written)⟩

/-! ## Visits -/

/-- What a visit comes to: the attempts that were tried again are turns that are kept, and then the task
leaves the state, is given up or a fault escapes. -/
inductive Visited (answers : Question F → Except Raised Value → Prop) (capped : Prop)
    (h : Host F W) (view : W → S) (keep : S → Option Transition → Progress → S) (fr : Frame F)
    (id : String) (node : State F) (live : Live W) : Except Fault Step × Live W → Prop
  | left {entries : List Entry} {s : Stance} {j : Judgement Verdict} {step : Step} {world : W}
      (walk : Walk answers capped fr live.tick.stance entries s)
      (seen : view world = keepAll keep (view live.world) entries)
      (still : entries.countP Entry.moves = 0)
      (visit : Visit answers fr s id node j) (decided : j.result = .ok (.leave step)) :
      Visited answers capped h view keep fr id node live
        (.ok step, ⟨(live.tick.grown entries s).taken j.after j.pages, world⟩)
  | doomed {entries : List Entry} {s : Stance} {cause : FatalCause} {taskId : Option String}
      {after : Live W}
      (walk : Walk answers capped fr live.tick.stance entries s)
      (running : s.progress.lifecycle = .running)
      (seen : view after.world = keepAll keep (view live.world) entries)
      (doom : Doomed answers capped fr s cause taskId after.tick.stance)
      (still : entries.countP Entry.moves = 0) :
      Visited answers capped h view keep fr id node live (.error (.fatal cause taskId), after)
  | escaped {entries : List Entry} {s : Stance} {fault : Fault} {after : Live W}
      (walk : Walk answers capped fr live.tick.stance entries s)
      (running : s.progress.lifecycle = .running)
      (seen : view after.world = keepAll keep (view live.world) entries)
      (calm : fault.isFatal = false)
      (escape : Escape answers h fr entries s fault after.tick.progress)
      (still : entries.countP Entry.moves = 0) :
      Visited answers capped h view keep fr id node live (.error fault, after)

theorem Visited.at_once {id : String} {node : State F} {live : Live W} {j : Judgement Verdict}
    {step : Step} {world : W} (unseen : view world = view live.world)
    (visit : Visit answers fr live.tick.stance id node j) (decided : j.result = .ok (.leave step)) :
    Visited answers capped h view keep fr id node live
      (.ok step, ⟨live.tick.taken j.after j.pages, world⟩) := by
  rw [← Tick.grown_nil live.tick]
  exact .left (.refl _) unseen rfl visit decided

theorem Visited.after_turn {id : String} {node : State F} {live middle : Live W} {e : Entry}
    {r : Except Fault Step × Live W}
    (turn : Turn answers capped fr live.tick.stance e middle.tick.stance)
    (running : middle.tick.progress.lifecycle = .running)
    (grown : middle.tick = live.tick.grown [e] middle.tick.stance)
    (seen : view middle.world = keep (view live.world) e.row e.progress)
    (still : e.moves = false)
    (rest : Visited answers capped h view keep fr id node middle r) :
    Visited answers capped h view keep fr id node live r := by
  cases rest with
  | @left entries s j step world walk seen' still' visit decided =>
      have whole : (live.tick.grown (e :: entries) s) = middle.tick.grown entries s := by
        rw [grown, Tick.grown_append]
        rfl
      rw [← whole]
      refine .left (.step turn running walk) (by rw [seen', seen]; rfl) ?_ visit decided
      simp [still, still']
  | doomed walk under seen' doom still' =>
      exact .doomed (.step turn running walk) under (by rw [seen', seen]; rfl) doom
        (by simp [still, still'])
  | @escaped entries s fault after walk under seen' calm escape still' =>
      have later : Escape answers h fr ([e] ++ entries) s fault after.tick.progress :=
        Escape.after escape
      exact .escaped (.step turn running walk) under (by rw [seen', seen]; rfl) calm later
        (by simp [still, still'])

theorem attempted_error {id : String} {attempt : Int} {s : Stance} {answer : Except Raised Value}
    {fault : Fault} (broken : (attempted id attempt s answer).result = .error fault) :
    ∃ cause taskId, fault = .fatal cause taskId := by
  unfold attempted judged at broken
  repeat' split at broken
  all_goals cases broken
  all_goals exact ⟨_, _, rfl⟩

theorem lookup_put (name : String) {α : Type} (value : α) (entries : List (String × α)) :
    (Sorted.put name value entries).lookup name = some value := by
  induction entries with
  | nil => simp [Sorted.put]
  | cons head rest ih =>
      obtain ⟨k, v⟩ := head
      unfold Sorted.put
      by_cases same : k = name
      · simp [same]
      · by_cases before : name < k
        · simp [same, before]
        · rw [if_neg same, if_neg before, List.lookup_cons]
          have differs : (name == k) = false := by simpa using fun h => same h.symm
          rw [differs]
          exact ih

theorem lookup_put_ne {name other : String} (apart : other ≠ name) {α : Type} (value : α)
    (entries : List (String × α)) :
    (Sorted.put name value entries).lookup other = entries.lookup other := by
  have unnamed : (other == name) = false := by simpa using apart
  induction entries with
  | nil => simp [Sorted.put, List.lookup_cons, unnamed]
  | cons head rest ih =>
      obtain ⟨k, v⟩ := head
      unfold Sorted.put
      by_cases same : k = name
      · subst same
        simp [List.lookup_cons, unnamed]
      · by_cases before : name < k
        · simp [same, before, List.lookup_cons, unnamed]
        · rw [if_neg same, if_neg before, List.lookup_cons, List.lookup_cons, ih]

theorem attemptNumber_put (p : Progress) (id : String) (attempt : Int) :
    Progress.attemptNumber { p with attempts := Sorted.put id attempt p.attempts } id =
      attempt + 1 := by
  unfold Progress.attemptNumber
  rw [lookup_put]
  rfl

theorem attempted_reason {id : String} {attempt : Int} {s : Stance} {answer : Except Raised Value}
    {reason : Reason} {message : String}
    (failed : (attempted id attempt s answer).result = .ok (.failed reason message)) :
    reason.isAttempt = true := by
  unfold attempted judged at failed
  repeat' split at failed
  all_goals cases failed
  all_goals rfl

theorem attempted_position (id : String) (attempt : Int) (s : Stance)
    (answer : Except Raised Value) :
    (attempted id attempt s answer).after.progress.currentStateId = s.progress.currentStateId ∧
      (attempted id attempt s answer).after.progress.lifecycle = s.progress.lifecycle := by
  unfold attempted judged
  repeat' split
  all_goals exact ⟨rfl, rfl⟩

theorem waitForRetry_cases (keeps : h.Keeps view keep) (retry : Option RetryPolicy) (attempt : Int)
    (live : Live W) :
    (∃ world, (waitForRetry h retry attempt).exec live = (.ok (), ⟨live.tick, world⟩) ∧
      view world = view live.world) ∨
    ∃ policy fault, retry = some policy ∧ policy.delaySeconds attempt = .error fault ∧
      (waitForRetry h retry attempt).exec live = (.error fault, live) := by
  cases retry with
  | none => exact .inl ⟨live.world, rfl, rfl⟩
  | some policy =>
      simp only [waitForRetry]
      cases delayed : policy.delaySeconds attempt with
      | error fault => exact .inr ⟨policy, fault, rfl, delayed, rfl⟩
      | ok delay =>
          refine .inl ?_
          simp only
          by_cases positive : delay.isPositive = true
          · rw [if_pos positive]
            exact ⟨_, exec_onWorld _ _, keeps.sleep delay live.world⟩
          · rw [if_neg positive]
            exact ⟨live.world, rfl, rfl⟩

theorem actionReacted_of_error {id : String} {retry : Option RetryPolicy} {s : Stance}
    {answer : Except Raised Value} {attempt : Int} {fault : Fault}
    (number : s.progress.attemptNumber id = attempt)
    (broken : (attempted id attempt s answer).result = .error fault) :
    actionReacted id retry s answer =
      ⟨(attempted id attempt s answer).after, (attempted id attempt s answer).pages,
        .error fault⟩ := by
  simp only [actionReacted, number, broken]

theorem actionReacted_of_ok {id : String} {retry : Option RetryPolicy} {s : Stance}
    {answer : Except Raised Value} {attempt : Int} {a : Attempt}
    {conclusion : Except Fault Verdict × Progress}
    (number : s.progress.attemptNumber id = attempt)
    (came : (attempted id attempt s answer).result = .ok a)
    (concludes : concluded id (attemptLimit retry) attempt
      (attempted id attempt s answer).after.progress a = conclusion) :
    actionReacted id retry s answer =
      ⟨⟨conclusion.2, (attempted id attempt s answer).after.feedback⟩,
        (attempted id attempt s answer).pages, conclusion.1⟩ := by
  simp only [actionReacted, number, came, concludes]

theorem concluded_exhausted {id : String} {attempt n : Int} {p : Progress} {reason : Reason}
    {message : String} (spent : (Value.int n).roomFrom attempt = 0) :
    concluded id (.int n) attempt p (.failed reason message) =
      (.ok (.leave (exhaustedStep attempt message)),
        Progress.clearAttempts { p with lastError := some message } id) := by
  simp [concluded, spent, Value.isBelow?_int]

theorem concluded_again {id : String} {attempt n : Int} {p : Progress} {reason : Reason}
    {message : String} (room : (Value.int n).roomFrom attempt ≠ 0) :
    concluded id (.int n) attempt p (.failed reason message) =
      (.ok (.again reason attempt),
        { p with lastError := some message, attempts := Sorted.put id attempt p.attempts }) := by
  simp [concluded, room]

theorem again_visited (keeps : h.Keeps view keep) {id : String} {handler : Handler F}
    {routes : ActionRoutes} {retry : Option RetryPolicy} {live taken : Live W}
    {j : Judgement Verdict} {reason : Reason} {attempt : Int} {next : Action W Step}
    (visit : Visit answers fr live.tick.stance id (.action handler routes retry) j)
    (decided : j.result = .ok (.again reason attempt)) (isAttempt : reason.isAttempt = true)
    (stands : taken.tick = live.tick.taken j.after j.pages)
    (unseen : view taken.world = view live.world)
    (running : j.after.progress.lifecycle = .running)
    (found : fr.graph.state? id = some (.action handler routes retry))
    (counted : j.after.progress.attempts.lookup id = some attempt)
    (within : (attemptLimit retry).roomFrom attempt ≠ 0)
    (rest : ∀ middle, middle.tick.progress = j.after.progress →
      Visited answers capped h view keep fr id (.action handler routes retry) middle
        (next.exec middle)) :
    Visited answers capped h view keep fr id (.action handler routes retry) live
      ((do
        record h fr id id "failed" reason attempt 0
        waitForRetry h retry attempt
        next : Action W Step).exec taken) := by
  obtain ⟨tick, world⟩ := taken
  subst stands
  have under : live.tick.stance.progress.lifecycle = .running := visit.running
  obtain ⟨r, after, ran, recorded⟩ := record_recorded keeps fr id id "failed" reason attempt 0
    ⟨live.tick.taken j.after j.pages, world⟩
  have lands : ∀ row : Transition, row.shape = ⟨id, id, "failed", .known reason, attempt, 0⟩ →
      landed fr.graph id (.action handler routes retry) ⟨0⟩ j.after.progress
        (.again reason attempt) = .ok (row.shape, j.after.progress) := by
    intro row looks
    rw [looks]
    rfl
  have stays : ∀ row : Transition, row.shape = ⟨id, id, "failed", .known reason, attempt, 0⟩ →
      row.moves = false := by
    intro row looks
    have reason_eq : row.reason = .known reason := congrArg Shape.reason looks
    simp [Transition.moves, reason_eq, isAttempt]
  cases recorded with
  | @refused row world' fault looks owner unfit seen =>
      rw [exec_bind_of_error ran]
      exact .escaped (.refl _) under (seen.trans unseen) (row.calm_check _ unfit)
        (.refused visit decided (lands row looks) owner unfit) rfl
  | @broke row world' fault looks owner fits seen weak calm =>
      rw [exec_bind_of_error ran]
      have turn : Turn answers capped fr live.tick.stance ⟨some row, j.after.progress, j.pages⟩
          j.after := .visit visit decided (lands row looks) owner fits
      exact .escaped (.last turn) running (by rw [seen, unseen]; rfl) calm
        (.broke (by simp) weak) (by simp [Entry.moves, stays row looks])
  | @kept row world' looks owner fits seen =>
      rw [exec_bind_of_ok ran]
      have turn : Turn answers capped fr live.tick.stance ⟨some row, j.after.progress, j.pages⟩
          j.after := .visit visit decided (lands row looks) owner fits
      have still := stays row looks
      have seen' : view world' = keep (view live.world) (some row) j.after.progress := by
        rw [seen, unseen]
        rfl
      rcases waitForRetry_cases keeps retry attempt
          ⟨{ live.tick.taken j.after j.pages with
              events := (live.tick.taken j.after j.pages).events ++ [row] }, world'⟩ with
        ⟨world'', waited, unseen'⟩ | ⟨policy, fault, rfl, tooLong, waited⟩
      · rw [exec_bind_of_ok waited]
        refine Visited.after_turn turn running ?_ (unseen'.trans seen') ?_ (rest _ rfl)
        · simp [Tick.grown, Tick.taken, Tick.stance, rowsOf, pagesOf, Entry.moves, still]
        · simp [Entry.moves, still]
      · rw [exec_bind_of_error waited]
        exact .escaped (.last turn) running seen' (policy.calm_delaySeconds _ _ tooLong)
          (.overlong (by simp) found counted within tooLong) (by simp [Entry.moves, still])

section Attempts

variable {id : String} {handler callable : Handler F} {routes : ActionRoutes}
variable {retry : Option RetryPolicy} {n : Int}

/-- One try of an action: it decides, or it is kept as a turn and the next try follows. -/
theorem tryAttempts_step (serves : Serves h answers view keep)
    (limit : attemptLimit retry = .int n)
    (resolved : resolveHandler fr.graph id handler = .ok callable) (room : Nat) (live : Live W)
    (left : room = (attemptLimit retry).roomFrom (live.tick.progress.attemptNumber id))
    (stands : StandsAt fr.graph live.tick.progress id (.action handler routes retry))
    (running : live.tick.progress.lifecycle = .running)
    (again : ∀ room' middle, room = room' + 1 →
      room' = (attemptLimit retry).roomFrom (middle.tick.progress.attemptNumber id) →
      StandsAt fr.graph middle.tick.progress id (.action handler routes retry) →
      middle.tick.progress.lifecycle = .running →
      Visited answers capped h view keep fr id (.action handler routes retry) middle
        ((tryAttempts h fr id callable retry (attemptLimit retry) room'
          (middle.tick.progress.attemptNumber id)).exec middle)) :
    Visited answers capped h view keep fr id (.action handler routes retry) live
      ((tryAttempts h fr id callable retry (attemptLimit retry) room
        (live.tick.progress.attemptNumber id)).exec live) := by
  rw [limit] at left again ⊢
  generalize number : live.tick.progress.attemptNumber id = attempt at left ⊢
  obtain ⟨answer, world, asked⟩ : ∃ answer world,
      (Question.handler callable (live.tick.stance.handlerInput fr id attempt)).ask
        h.behaviour live.world = (answer, world) := ⟨_, _, rfl⟩
  have unseen : view world = view live.world := by
    have unseen := serves.keeps.ask
      (.handler callable (live.tick.stance.handlerInput fr id attempt)) live.world
    rwa [asked] at unseen
  have answered := serves.answered
    (.handler callable (live.tick.stance.handlerInput fr id attempt)) live.world
  rw [asked] at answered
  have questioned : question fr id live.tick.stance (.action handler routes retry) =
      .ok (.handler callable (live.tick.stance.handlerInput fr id attempt)) := by
    rw [← number]
    simp only [question, resolved]
    rfl
  have visit : Visit answers fr live.tick.stance id (.action handler routes retry)
      (actionReacted id retry live.tick.stance answer) :=
    ⟨stands, rfl, running, _, answer, questioned, answered, rfl⟩
  have ran := exec_attemptOnce h fr id callable _ live answer world asked
  have unmoved := attempted_position id attempt live.tick.stance answer
  unfold tryAttempts
  cases judged : (attempted id attempt live.tick.stance answer).result with
  | error fault =>
      obtain ⟨cause, taskId, rfl⟩ := attempted_error judged
      rw [actionReacted_of_error number judged] at visit
      rw [judged] at ran
      rw [exec_bind_of_error ran]
      exact .doomed (.refl _) running unseen (.judged visit rfl) rfl
  | ok outcome =>
      rw [judged] at ran
      rw [exec_bind_of_ok ran]
      cases outcome with
      | settled o =>
          rw [actionReacted_of_ok number judged rfl] at visit
          exact .at_once unseen visit rfl
      | failed reason message =>
          simp only
          rw [exec_bind_of_ok (exec_changeProgress _ _)]
          cases room with
          | zero =>
              rw [actionReacted_of_ok number judged (limit ▸ concluded_exhausted left.symm)] at visit
              simp only [Value.isBelow?_int, Bool.false_eq_true, if_false]
              rw [exec_bind_of_ok (exec_changeProgress _ _)]
              exact .at_once unseen visit rfl
          | succ room' =>
              have some_room : (Value.int n).roomFrom attempt ≠ 0 := by
                rw [← left]
                exact Nat.succ_ne_zero room'
              rw [actionReacted_of_ok number judged (limit ▸ concluded_again some_room)] at visit
              simp only
              rw [exec_bind_of_ok (exec_changeProgress _ _)]
              refine again_visited serves.keeps visit rfl (attempted_reason judged) rfl unseen
                (unmoved.2.trans running) stands.2 (lookup_put _ _ _) (limit ▸ some_room) ?_
              intro middle same
              have number' : middle.tick.progress.attemptNumber id = attempt + 1 := by
                rw [same]
                exact attemptNumber_put _ _ _
              have at_state : StandsAt fr.graph middle.tick.progress id
                  (.action handler routes retry) := by
                rw [same]
                refine ⟨?_, stands.2⟩
                unfold position
                simp only [unmoved.1]
                exact stands.1
              have next := again room' middle rfl ?_ at_state ?_
              · rw [number'] at next
                exact next
              · rw [number', Value.roomFrom_int]
                rw [Value.roomFrom_int] at left
                omega
              · rw [same]
                exact unmoved.2.trans running

/-- The tries of an action are turns that are kept, up to the one that decides. -/
theorem tryAttempts_visited (serves : Serves h answers view keep)
    (limit : attemptLimit retry = .int n)
    (resolved : resolveHandler fr.graph id handler = .ok callable) (room : Nat) (live : Live W)
    (left : room = (attemptLimit retry).roomFrom (live.tick.progress.attemptNumber id))
    (stands : StandsAt fr.graph live.tick.progress id (.action handler routes retry))
    (running : live.tick.progress.lifecycle = .running) :
    Visited answers capped h view keep fr id (.action handler routes retry) live
      ((tryAttempts h fr id callable retry (attemptLimit retry) room
        (live.tick.progress.attemptNumber id)).exec live) := by
  induction room generalizing live with
  | zero =>
      refine tryAttempts_step serves limit resolved 0 live left stands running ?_
      intro room' middle impossible
      cases impossible
  | succ room ih =>
      refine tryAttempts_step serves limit resolved (room + 1) live left stands running ?_
      intro room' middle same left' stands' running'
      cases same
      exact ih middle left' stands' running'

theorem runAction_visited (serves : Serves h answers view keep)
    (limit : attemptLimit retry = .int n) (live : Live W)
    (stands : StandsAt fr.graph live.tick.progress id (.action handler routes retry))
    (running : live.tick.progress.lifecycle = .running) :
    Visited answers capped h view keep fr id (.action handler routes retry) live
      ((runAction h fr id handler retry).exec live) := by
  unfold runAction
  cases resolved : resolveHandler fr.graph id handler with
  | error cause =>
      have unresolved : question fr id live.tick.stance (.action handler routes retry) =
          .error cause := by
        simp only [question, resolved]
        rfl
      rw [exec_bind_of_error (exec_orFail_error cause live)]
      exact .doomed (.refl _) running rfl (.unasked stands rfl running unresolved) rfl
  | ok callable =>
      rw [exec_bind_of_ok (exec_orFail_ok callable live), exec_bind_of_ok (exec_progress live)]
      exact tryAttempts_visited serves limit resolved _ live rfl stands running

end Attempts

theorem AsksOnce.visited (serves : Serves h answers view keep) {id : String} {node : State F}
    {act : Action W Step} (asks : AsksOnce h fr id node act) (live : Live W)
    (stands : StandsAt fr.graph live.tick.progress id node) (work : isWork node = true)
    (running : live.tick.progress.lifecycle = .running) :
    Visited answers capped h view keep fr id node live (act.exec live) := by
  cases questioned : question fr id live.tick.stance node with
  | error cause =>
      rw [asks.unresolved live cause questioned]
      exact .doomed (.refl _) running rfl (.unasked stands work running questioned) rfl
  | ok q =>
      obtain ⟨answer, world, asked⟩ : ∃ answer world,
          q.ask h.behaviour live.world = (answer, world) := ⟨_, _, rfl⟩
      have unseen : view world = view live.world := by
        have unseen := serves.keeps.ask q live.world
        rwa [asked] at unseen
      have answered := serves.answered q live.world
      rw [asked] at answered
      have visit : Visit answers fr live.tick.stance id node
          (reacted id live.tick.stance node answer) :=
        ⟨stands, work, running, q, answer, questioned, answered, rfl⟩
      obtain ⟨r, settles, ran⟩ := asks.resolved live q answer world questioned asked
      rw [ran]
      generalize judged : (reacted id live.tick.stance node answer).result = verdict at settles
      cases settles with
      | left step => exact .at_once unseen visit judged
      | broken fault =>
          cases ending : fault.isFatal with
          | false => exact .escaped (.refl _) running unseen ending (.jammed visit judged) rfl
          | true =>
              cases fault with
              | fatal cause taskId => exact .doomed (.refl _) running unseen (.judged visit judged) rfl
              | _ => cases ending

theorem runState_visited (serves : Serves h answers view keep) (whole : fr.graph.WholeLimits)
    {id : String} {node : State F} (live : Live W)
    (stands : StandsAt fr.graph live.tick.progress id node) (work : isWork node = true)
    (running : live.tick.progress.lifecycle = .running) :
    Visited answers capped h view keep fr id node live ((runState h fr id node).exec live) := by
  cases node with
  | action handler routes retry =>
      obtain ⟨n, limit⟩ := whole id handler routes retry stands.2
      exact runAction_visited serves limit live stands running
  | orchestrate routes handler selector =>
      exact (runOrchestrate_asksOnce h fr id routes handler selector).visited serves live stands
        work running
  | loop body bound routes stop =>
      exact (runLoop_asksOnce h fr id body bound routes stop).visited serves live stands work
        running
  | unsupported v => exact .doomed (.refl _) running rfl (.unasked stands work running rfl) rfl
  | feedback resume => cases work
  | terminal status message => cases work

end Engine

end Tickwork
