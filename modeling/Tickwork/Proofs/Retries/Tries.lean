import Tickwork.Proofs.WellFormed

/-!
# The tries of a visit

A visit of an action over a store in memory, call by call. `Tries` follows the visit from try to try:
what the handler answers, the one row that a failure leaves, and the sleep before the next call. Main
statement: `tryAttempts_tries`, every visit is such a run of tries, and the last of them decides it, uses
up the limit, ends the task for good or cannot be followed by another one.
-/

set_option autoImplicit false

namespace Tickwork

variable {F W : Type}

/-- One call of the handler of an action: the number of the attempt, where the tick and the world stand
before it, what it answers, and the world after it. -/
structure Try (W : Type) where
  number : Int
  before : Live W
  answer : Except Raised Value
  world : W

namespace Engine

open Tickwork.Action

/-! ## Answers -/

/-- An answer that counts as a failure, and the reason that is recorded for it: a raised error, or a
report of the status `failed`. -/
inductive Fails (id : String) : Except Raised Value → Reason → Prop
  | raised (kind : ErrorKind) (text : String) : Fails id (.error (.error kind text)) .attemptError
  | reported {v : Value} {o : Outcome} (read : Outcome.read id v = .ok o) (status : o.status = "failed") :
      Fails id (.ok v) .attemptFailed

/-- An answer that settles the visit: a report of another status that an action can have. -/
inductive Decides (id : String) : Except Raised Value → Outcome → Prop
  | reported {v : Value} {o : Outcome} (read : Outcome.read id v = .ok o)
      (status : o.status = "done" ∨ o.status = "feedback") : Decides id (.ok v) o

/-- An answer that ends the task for good: a fatal error, or what is no report of an action. -/
inductive Ruins (id : String) : Except Raised Value → Prop
  | raised (cause : FatalCause) (taskId : Option String) : Ruins id (.error (.fatal cause taskId))
  | unreadable {v : Value} {cause : FatalCause} (unread : Outcome.read id v = .error cause) :
      Ruins id (.ok v)
  | unsupported {v : Value} {o : Outcome} (read : Outcome.read id v = .ok o)
      (status : actionEvents.contains o.status = false) : Ruins id (.ok v)

variable {id : String} {answer : Except Raised Value}

theorem Fails.not_decides {reason : Reason} {o : Outcome} (fails : Fails id answer reason) :
    ¬ Decides id answer o := by
  rintro ⟨read, status⟩
  cases fails with
  | reported read' failed =>
      rw [read] at read'
      cases read'
      rw [failed] at status
      rcases status with same | same <;> exact absurd same (by decide)

theorem Fails.not_ruins {reason : Reason} (fails : Fails id answer reason) : ¬ Ruins id answer := by
  intro ruins
  cases fails with
  | raised kind text => cases ruins
  | reported read failed =>
      cases ruins with
      | unreadable unread =>
          rw [read] at unread
          cases unread
      | unsupported read' status =>
          rw [read] at read'
          cases read'
          rw [failed] at status
          exact absurd status (by decide)

theorem Decides.status {o : Outcome} (decides : Decides id answer o) :
    o.status = "done" ∨ o.status = "feedback" := by
  obtain ⟨-, status⟩ := decides
  exact status

theorem Decides.unique {o o' : Outcome} (decides : Decides id answer o) (decides' : Decides id answer o') :
    o = o' := by
  obtain ⟨read, -⟩ := decides
  obtain ⟨read', -⟩ := decides'
  rw [read] at read'
  exact Except.ok.inj read'

theorem Decides.not_ruins {o : Outcome} (decides : Decides id answer o) : ¬ Ruins id answer := by
  obtain ⟨read, status⟩ := decides
  intro ruins
  cases ruins with
  | unreadable unread =>
      rw [read] at unread
      cases unread
  | unsupported read' unknown =>
      rw [read] at read'
      cases read'
      rcases status with same | same <;> rw [same] at unknown <;> exact absurd unknown (by decide)

theorem Fails.isAttempt {reason : Reason} (fails : Fails id answer reason) : reason.isAttempt = true := by
  cases fails <;> rfl

/-- How an answer is judged. -/
inductive Judged (id : String) (answer : Except Raised Value) : Except Fault Attempt → Prop
  | failed {reason : Reason} {message : String} (fails : Fails id answer reason) :
      Judged id answer (.ok (.failed reason message))
  | settled {o : Outcome} (decides : Decides id answer o) : Judged id answer (.ok (.settled o))
  | ruined {cause : FatalCause} {taskId : Option String} (ruins : Ruins id answer) :
      Judged id answer (.error (.fatal cause taskId))

theorem attempted_judged (id : String) (number : Int) (s : Stance) (answer : Except Raised Value) :
    Judged id answer (attempted id number s answer).result := by
  cases answer with
  | error e =>
      cases e with
      | fatal cause taskId => exact .ruined (.raised cause taskId)
      | error kind text => exact .failed (.raised kind text)
  | ok v =>
      simp only [attempted]
      cases read : Outcome.read id v with
      | error cause => exact .ruined (.unreadable read)
      | ok o =>
          simp only [judged]
          by_cases unknown : (!actionEvents.contains o.status) = true
          · rw [if_pos unknown]
            exact .ruined (.unsupported read (by simpa using unknown))
          · rw [if_neg unknown]
            by_cases calm : o.status ≠ "failed"
            · rw [if_pos calm]
              exact .settled ⟨read, status_of_known (by simpa using unknown) calm⟩
            · rw [if_neg calm]
              exact .failed (.reported read (Decidable.not_not.mp calm))

/-! ## Rows and sleeps over a store in memory -/

/-- The row that is recorded for a task, with a fresh name and the time. -/
def rowAt (h : Host F W) (fr : Frame F) (p : Progress) (w : W) (shape : Shape) : Transition :=
  { eventId := (h.freshEventId w).1, runId := fr.runId, tickId := fr.tickId, taskId := p.taskId,
    fromId := shape.fromId, toId := shape.toId, event := shape.event, reason := shape.reason,
    attempt := shape.attempt, loopIteration := shape.loopIteration,
    time := (h.now (h.freshEventId w).2).1 }

/-- The world once a row was named and the clock was read. -/
def afterRow (h : Host F W) (w : W) : W := (h.now (h.freshEventId w).2).2

theorem exec_record (h : Host F W) (fr : Frame F) (fromId toId event : String) (reason : Reason)
    (number rounds : Int) (live : Live (W × MemoryStore)) {row : Transition}
    (made : rowAt h fr live.tick.progress live.world.1
      ⟨fromId, toId, event, .known reason, number, rounds⟩ = row) :
    (record h.overMemory fr fromId toId event reason number rounds).exec live =
      match row.check with
      | .ok _ => (.ok (), ⟨{ live.tick with events := live.tick.events ++ [row] },
          (afterRow h live.world.1, live.world.2.keep (some row) live.tick.progress)⟩)
      | .error fault => (.error fault, ⟨live.tick, (afterRow h live.world.1, live.world.2)⟩) := by
  have stored : ∀ (act : Action (W × MemoryStore) Unit),
      (onStore (h.overMemory.record row live.tick.progress) >>= fun _ => act).exec
        ⟨live.tick, (afterRow h live.world.1, live.world.2)⟩ =
      match row.check with
      | .ok _ => act.exec
          ⟨live.tick, (afterRow h live.world.1, live.world.2.keep (some row) live.tick.progress)⟩
      | .error fault => (.error fault, ⟨live.tick, (afterRow h live.world.1, live.world.2)⟩) := by
    intro act
    rw [exec_bind, exec_onStore, Host.overMemory_record]
    cases fits : row.check with
    | ok _ => simp only [MemoryStore.record_eq_keep _ fits]
    | error fault => simp only [MemoryStore.record_refused _ fits]
  unfold record
  rw [exec_bind_of_ok (exec_onWorld _ _), exec_bind_of_ok (exec_onWorld _ _),
    exec_bind_of_ok (exec_progress _)]
  subst made
  refine (stored _).trans ?_
  split <;> rfl

/-- The delay before the attempt that follows a failed one. -/
def delayAfter (retry : Option RetryPolicy) (number : Int) : Except Fault Binary64 :=
  match retry with
  | none => .ok (.zero false)
  | some policy => policy.delaySeconds number

/-- The world after a delay, which takes a sleep if it is positive. -/
def afterDelay (h : Host F W) (delay : Binary64) (w : W) : W :=
  if delay.isPositive then (h.sleep delay w).2 else w

theorem exec_waitForRetry (h : Host F W) (retry : Option RetryPolicy) (number : Int)
    (live : Live (W × MemoryStore)) :
    (waitForRetry h.overMemory retry number).exec live =
      match delayAfter retry number with
      | .ok delay => (.ok (), ⟨live.tick, (afterDelay h delay live.world.1, live.world.2)⟩)
      | .error fault => (.error fault, live) := by
  cases retry with
  | none => rfl
  | some policy =>
      simp only [waitForRetry, delayAfter]
      cases policy.delaySeconds number with
      | error fault => rfl
      | ok delay =>
          simp only [afterDelay]
          by_cases positive : delay.isPositive = true
          · rw [if_pos positive, if_pos positive]
            rfl
          · rw [if_neg positive, if_neg positive]
            rfl

/-! ## From try to try -/

/-- The handler is called at a try. -/
def Made (h : Host F W) (fr : Frame F) (id : String) (callable : Handler F)
    (t : Try (W × MemoryStore)) : Prop :=
  callable.run h.overMemory.behaviour (handlerInput fr t.before.tick id t.number) t.before.world =
    (t.answer, t.world)

/-- How a failed try leads to where the next one begins: one row that stays at the action, the progress
that is kept with it has the number of the failed attempt, and then the delay, a sleep if it is positive. -/
structure Retried (h : Host F W) (id : String) (retry : Option RetryPolicy) (t : Try (W × MemoryStore))
    (next : Live (W × MemoryStore)) : Prop where
  recorded : ∃ reason row, Fails id t.answer reason ∧
    row.shape = ⟨id, id, "failed", .known reason, t.number, 0⟩ ∧
    row.taskId = next.tick.progress.taskId ∧
    next.world.2 = t.before.world.2.keep (some row) next.tick.progress
  counted : next.tick.progress.attempts.lookup id = some t.number
  waited : ∃ delay, delayAfter retry t.number = .ok delay ∧
    next.world.1 = afterDelay h delay (afterRow h t.world.1)

/-- The tries of a visit, of which the first has the given number and begins at the given place: those
that were followed by another one, and the last. -/
inductive Tries (h : Host F W) (fr : Frame F) (id : String) (callable : Handler F)
    (retry : Option RetryPolicy) (limit : Int) :
    Int → Live (W × MemoryStore) → List (Try (W × MemoryStore)) → Try (W × MemoryStore) → Prop
  | last {t : Try (W × MemoryStore)} (made : Made h fr id callable t) :
      Tries h fr id callable retry limit t.number t.before [] t
  | again {t last : Try (W × MemoryStore)} {next : Live (W × MemoryStore)}
      {tries : List (Try (W × MemoryStore))} (made : Made h fr id callable t) (within : t.number ≤ limit)
      (retried : Retried h id retry t next)
      (rest : Tries h fr id callable retry limit (t.number + 1) next tries last) :
      Tries h fr id callable retry limit t.number t.before (t :: tries) last

/-- What the last try of a visit comes to. -/
inductive LastTry (id : String) (retry : Option RetryPolicy) (limit : Int)
    (last : Try (W × MemoryStore)) : Except Fault Step × Live (W × MemoryStore) → Prop
  | settled {o : Outcome} {tick : Tick} (decides : Decides id last.answer o)
      (cleared : tick.progress.attempts.lookup id = none) :
      LastTry id retry limit last (.ok (settledStep last.number o), ⟨tick, last.world⟩)
  | exhausted {reason : Reason} {message : String} {tick : Tick} (fails : Fails id last.answer reason)
      (spent : limit < last.number) (cleared : tick.progress.attempts.lookup id = none) :
      LastTry id retry limit last (.ok (exhaustedStep last.number message), ⟨tick, last.world⟩)
  | ruined {cause : FatalCause} {taskId : Option String} {tick : Tick} (ruins : Ruins id last.answer) :
      LastTry id retry limit last (.error (.fatal cause taskId), ⟨tick, last.world⟩)
  | stuck {reason : Reason} {fault : Fault} {after : Live (W × MemoryStore)}
      (fails : Fails id last.answer reason) (within : last.number ≤ limit)
      (barred : id = "" ∨ last.number < 0 ∨ delayAfter retry last.number = .error fault) :
      LastTry id retry limit last (.error fault, after)

namespace Tries

variable {h : Host F W} {fr : Frame F} {callable : Handler F} {retry : Option RetryPolicy} {limit : Int}
variable {number : Int} {live : Live (W × MemoryStore)} {tries : List (Try (W × MemoryStore))}
variable {last : Try (W × MemoryStore)}

/-- The last number is as many numbers after the first as there are tries before the last. -/
theorem last_number (all : Tries h fr id callable retry limit number live tries last) :
    last.number = number + tries.length := by
  induction all with
  | last made => simp
  | again made within retried rest ih =>
      rw [ih, List.length_cons]
      push_cast
      omega

/-- Only tries within the limit are followed by another one. -/
theorem last_within (all : Tries h fr id callable retry limit number live tries last)
    (more : tries ≠ []) : last.number ≤ limit + 1 := by
  induction all with
  | last made => exact absurd rfl more
  | @again t last next tries made within retried rest ih =>
      by_cases none_left : tries = []
      · subst none_left
        have one := rest.last_number
        simp only [List.length_nil] at one
        omega
      · exact ih none_left

end Tries

/-! ## A visit is a run of tries -/

section Visit

variable {h : Host F W} {fr : Frame F} {callable : Handler F} {retry : Option RetryPolicy} {n : Int}

/-- A failed try within the limit: its row is recorded and the delay is waited for, and then comes the
next try; or there is no row or no such delay, and the visit is stuck. -/
theorem retried_tries {t : Try (W × MemoryStore)} (made : Made h fr id callable t) {reason : Reason}
    (fails : Fails id t.answer reason) (within : t.number ≤ n) (tick : Tick)
    (counted : tick.progress.attempts.lookup id = some t.number)
    (unwritten : t.world.2 = t.before.world.2) {room : Nat}
    (again : ∀ next, ∃ tries last, Tries h fr id callable retry n (t.number + 1) next tries last ∧
      LastTry id retry n last
        ((tryAttempts h.overMemory fr id callable retry (.int n) room (t.number + 1)).exec next)) :
    ∃ tries last, Tries h fr id callable retry n t.number t.before tries last ∧
      LastTry id retry n last
        ((do
          record h.overMemory fr id id "failed" reason t.number 0
          waitForRetry h.overMemory retry t.number
          tryAttempts h.overMemory fr id callable retry (.int n) room (t.number + 1)
            : Action (W × MemoryStore) Step).exec ⟨tick, t.world⟩) := by
  obtain ⟨row, built⟩ : ∃ row, rowAt h fr tick.progress t.world.1
    ⟨id, id, "failed", .known reason, t.number, 0⟩ = row := ⟨_, rfl⟩
  have looks : row.shape = ⟨id, id, "failed", .known reason, t.number, 0⟩ := built ▸ rfl
  have owner : row.taskId = tick.progress.taskId := built ▸ rfl
  have recorded := exec_record h fr id id "failed" reason t.number 0 ⟨tick, t.world⟩ built
  cases fits : row.check with
  | error fault =>
      rw [fits] at recorded
      rw [exec_bind_of_error recorded]
      refine ⟨[], t, .last made, .stuck fails within ?_⟩
      by_cases own : id = ""
      · exact .inl own
      · by_cases negative : t.number < 0
        · exact .inr (.inl negative)
        · rw [check_of_attempt own fails.isAttempt (Int.not_lt.mp negative) looks] at fits
          cases fits
  | ok _ =>
      rw [fits] at recorded
      have waits := exec_waitForRetry h retry t.number
        ⟨{ tick with events := tick.events ++ [row] },
          (afterRow h t.world.1, t.world.2.keep (some row) tick.progress)⟩
      rw [exec_bind_of_ok recorded]
      cases delayed : delayAfter retry t.number with
      | error fault =>
          rw [delayed] at waits
          rw [exec_bind_of_error waits]
          exact ⟨[], t, .last made, .stuck fails within (.inr (.inr delayed))⟩
      | ok delay =>
          rw [delayed] at waits
          rw [exec_bind_of_ok waits]
          obtain ⟨tries, last, rest, ended⟩ := again _
          refine ⟨t :: tries, last, .again made within ?_ rest, ended⟩
          exact ⟨⟨reason, row, fails, looks, owner, by rw [unwritten]⟩, counted, delay, delayed, rfl⟩

/-- One try: it ends the visit, or leads to where the next one begins. -/
theorem tryAttempts_try (room : Nat) (number : Int) (left : room = (n + 1 - number).toNat)
    (live : Live (W × MemoryStore))
    (again : ∀ room' next, room = room' + 1 →
      ∃ tries last, Tries h fr id callable retry n (number + 1) next tries last ∧
        LastTry id retry n last
          ((tryAttempts h.overMemory fr id callable retry (.int n) room' (number + 1)).exec next)) :
    ∃ tries last, Tries h fr id callable retry n number live tries last ∧
      LastTry id retry n last
        ((tryAttempts h.overMemory fr id callable retry (.int n) room number).exec live) := by
  obtain ⟨answer, world, asked⟩ : ∃ answer world,
      callable.run h.overMemory.behaviour (Engine.handlerInput fr live.tick id number) live.world =
        (answer, world) := ⟨_, _, rfl⟩
  have alone : Tries h fr id callable retry n number live [] ⟨number, live, answer, world⟩ :=
    .last (t := ⟨number, live, answer, world⟩) asked
  have unwritten : world.2 = live.world.2 := by
    have unseen := h.overMemory_keeps.ask
      (.handler callable (Engine.handlerInput fr live.tick id number)) live.world
    rwa [show (Question.handler callable _).ask h.overMemory.behaviour live.world = _ from asked] at unseen
  have ran := exec_attemptOnce h.overMemory fr id callable number live answer world asked
  have sorted := attempted_judged id number live.tick.stance answer
  unfold tryAttempts
  generalize (attempted id number live.tick.stance answer).after = after at ran
  generalize (attempted id number live.tick.stance answer).pages = pages at ran
  generalize (attempted id number live.tick.stance answer).result = result at ran sorted
  cases sorted with
  | ruined ruins =>
      rw [exec_bind_of_error ran]
      exact ⟨[], _, alone, .ruined ruins⟩
  | @settled o decides =>
      rw [exec_bind_of_ok ran, exec_bind_of_ok (exec_changeProgress _ _)]
      refine ⟨[], _, alone, .settled decides ?_⟩
      have cleared := lookup_erase_self id after.progress.attempts
      simp only
      split <;> exact cleared
  | @failed reason message fails =>
      rw [exec_bind_of_ok ran]
      simp only
      rw [exec_bind_of_ok (exec_changeProgress _ _)]
      cases room with
      | zero =>
          simp only [Value.isBelow?_int, Bool.false_eq_true, if_false]
          rw [exec_bind_of_ok (exec_changeProgress _ _)]
          exact ⟨[], _, alone, .exhausted fails (by simp only; omega) (lookup_erase_self id _)⟩
      | succ room =>
          have within : number ≤ n := by omega
          simp only
          rw [exec_bind_of_ok (exec_changeProgress _ _)]
          exact retried_tries (t := ⟨number, live, answer, world⟩) asked fails within _ (lookup_put _ _ _)
            unwritten fun next => again room next rfl

/-- The tries of an action, from the number `number` on. -/
theorem tryAttempts_tries (room : Nat) (number : Int) (left : room = (n + 1 - number).toNat)
    (live : Live (W × MemoryStore)) :
    ∃ tries last, Tries h fr id callable retry n number live tries last ∧
      LastTry id retry n last
        ((tryAttempts h.overMemory fr id callable retry (.int n) room number).exec live) := by
  induction room generalizing number live with
  | zero =>
      refine tryAttempts_try 0 number left live fun room' next impossible => ?_
      cases impossible
  | succ room ih =>
      refine tryAttempts_try (room + 1) number left live fun room' next same => ?_
      cases same
      exact ih (number + 1) (by omega) next

/-- A visit of an action begins with the number after that of the last failed attempt. -/
theorem runAction_tries {handler : Handler F} (limit : attemptLimit retry = .int n)
    (resolved : resolveHandler fr.graph id handler = .ok callable) (live : Live (W × MemoryStore)) :
    ∃ tries last,
      Tries h fr id callable retry n (live.tick.progress.attemptNumber id) live tries last ∧
        LastTry id retry n last ((runAction h.overMemory fr id handler retry).exec live) := by
  have limited : (retry.map RetryPolicy.limit).getD (.int 0) = .int n := limit
  unfold runAction
  rw [resolved, exec_bind_of_ok (exec_orFail_ok callable live), exec_bind_of_ok (exec_progress live),
    limited]
  exact tryAttempts_tries _ _ (Value.roomFrom_int n _) live

end Visit

end Engine

end Tickwork
