import Mathlib.Logic.Relation
import Tickwork.Proofs.Running

/-!
# Turns in the world

`Pass` is one turn of the engine together with what it does to the world: the callable that is asked
may do anything to it, and the write that ends the turn is made in the world that the callable left.
`Cut` says how a turn is broken off, `Ended` how an advance ends. Main statement: an advance is a run
of passes, and then it ends. Each pass but the last leaves the task under way, so that a pause or an end
is never followed by a write.
-/

set_option autoImplicit false

namespace Tickwork

variable {F W : Type}

/-- Where a tick stands, and the world around it. -/
structure Spot (W : Type) where
  stance : Stance
  world : W

def Live.spot (live : Live W) : Spot W := ⟨live.tick.stance, live.world⟩

namespace Engine

open Tickwork.Action

/-- The world goes on while the engine reads the clock, takes a name for a row or waits. -/
inductive Idles (h : Host F W) (w : W) : W → Prop
  | still : Idles h w w
  | now {w' : W} (before : Idles h w w') : Idles h w (h.now w').2
  | named {w' : W} (before : Idles h w w') : Idles h w (h.freshEventId w').2
  | slept {w' : W} (before : Idles h w w') (delay : Binary64) : Idles h w (h.sleep delay w').2

theorem Idles.trans {h : Host F W} {w w' w'' : W} (first : Idles h w w')
    (second : Idles h w' w'') : Idles h w w'' := by
  induction second with
  | still => exact first
  | now _ ih => exact ih.now
  | named _ ih => exact ih.named
  | slept _ delay ih => exact ih.slept delay

/-- A visit asked its question: how the answer is judged, and the world as the callable left it. -/
structure Asked (h : Host F W) (fr : Frame F) (a : Spot W) (id : String) (node : State F)
    (q : Question F) (j : Judgement Verdict) (w : W) : Prop where
  stands : StandsAt fr.graph a.stance.progress id node
  work : isWork node = true
  running : a.stance.progress.lifecycle = .running
  asks : question fr id a.stance node = .ok q
  judged : reacted id a.stance node (q.ask h.behaviour a.world).1 = j
  leaves : (q.ask h.behaviour a.world).2 = w

theorem Asked.under_way {h : Host F W} {fr : Frame F} {a : Spot W} {id : String} {node : State F}
    {q : Question F} {j : Judgement Verdict} {w : W} (asked : Asked h fr a id node q j w) :
    j.after.progress.lifecycle = .running := by
  rw [← asked.judged]
  exact (reacted_samePlace id a.stance node _).lifecycle.trans asked.running

/-- A progress that is written without a question before it. -/
inductive Unasked (h : Host F W) (fr : Frame F) (a : Spot W) : Progress → W → Prop
  | begin {id : String} {node : State F} (stands : StandsAt fr.graph a.stance.progress id node)
      (work : isWork node = true) (idle : a.stance.progress.lifecycle ≠ .running) :
      Unasked h fr a (Progress.begun a.stance.progress) a.world
  | halt {id : String} {status : EndStatus} {message : Option String}
      (stands : StandsAt fr.graph a.stance.progress id (.terminal status message)) :
      Unasked h fr a (Progress.atEnd a.stance.progress id status message none) a.world
  | rest {id resume next : String}
      (stands : StandsAt fr.graph a.stance.progress id (.feedback resume)) :
      Unasked h fr a (Progress.pausedAt a.stance.progress next (h.now a.world).1)
        (h.now a.world).2

/-- A row that follows from an answer: it is written with the progress `s.progress` in the world `w`. -/
structure Due (h : Host F W) (fr : Frame F) (a : Spot W) (row : Transition) (s : Stance) (w : W) :
    Prop where
  asked : ∃ id node q j verdict now world, Asked h fr a id node q j world ∧
    j.result = .ok verdict ∧ s.feedback = j.after.feedback ∧
    landed fr.graph id node now j.after.progress verdict = .ok (row.shape, s.progress) ∧
    Idles h world w
  owner : row.taskId = s.progress.taskId

/-- A progress that is written without a question belongs to the task of the tick. -/
theorem Unasked.taskId {h : Host F W} {fr : Frame F} {a : Spot W} {p : Progress} {w : W}
    (plain : Unasked h fr a p w) : p.taskId = a.stance.progress.taskId := by
  cases plain <;> rfl

/-- What is written after an answer belongs to the task of the tick. -/
theorem Due.taskId {h : Host F W} {fr : Frame F} {a : Spot W} {row : Transition} {s : Stance} {w : W}
    (due : Due h fr a row s w) : s.progress.taskId = a.stance.progress.taskId := by
  obtain ⟨id, node, q, j, verdict, now, world, asked, -, -, lands, -⟩ := due.asked
  rw [(landing_of_landed lands).taskId, ← asked.judged]
  exact (reacted_samePlace id a.stance node _).taskId

/-- One turn, with a write that succeeded. -/
inductive Pass (h : Host F W) (fr : Frame F) (a : Spot W) : Spot W → Prop
  | unasked {p : Progress} {w w' : W} (plain : Unasked h fr a p w)
      (wrote : (h.checkpoint p).run w = (.ok (), w')) :
      Pass h fr a ⟨⟨p, a.stance.feedback⟩, w'⟩
  | visit {row : Transition} {s : Stance} {w w' w'' : W} (due : Due h fr a row s w)
      (wrote : (h.record row s.progress).run w = (.ok (), w')) (waits : Idles h w' w'') :
      Pass h fr a ⟨s, w''⟩

/-- How a turn is broken off: with which fault, and where tick and world are then. -/
inductive Cut (h : Host F W) (fr : Frame F) (a : Spot W) : Fault → Spot W → Prop
  | stuck (cause : FatalCause) : Cut h fr a (.fatal cause none) a
  | overlong {fault : Fault} (calm : fault.isFatal = false) : Cut h fr a fault a
  | judged {id : String} {node : State F} {q : Question F} {j : Judgement Verdict} {w : W}
      {fault : Fault} (asked : Asked h fr a id node q j w) (refused : j.result = .error fault) :
      Cut h fr a fault ⟨j.after, w⟩
  | unrouted {id : String} {node : State F} {q : Question F} {j : Judgement Verdict} {w : W}
      {verdict : Verdict} {cause : FatalCause} (asked : Asked h fr a id node q j w)
      (decided : j.result = .ok verdict) :
      Cut h fr a (.fatal cause none) ⟨j.after, w⟩
  | unwritten {p : Progress} {w w' : W} {fault : Fault} (plain : Unasked h fr a p w)
      (broke : (h.checkpoint p).run w = (.error fault, w')) :
      Cut h fr a fault ⟨⟨p, a.stance.feedback⟩, w'⟩
  | unrecorded {row : Transition} {s : Stance} {w w' : W} {fault : Fault}
      (due : Due h fr a row s w) (broke : (h.record row s.progress).run w = (.error fault, w')) :
      Cut h fr a fault ⟨s, w'⟩

/-- A run of passes, each of which leaves the task under way. -/
abbrev Passes (h : Host F W) (fr : Frame F) : Spot W → Spot W → Prop :=
  Relation.ReflTransGen fun a b => Pass h fr a b ∧ b.stance.progress.lifecycle = .running

theorem Passes.one {h : Host F W} {fr : Frame F} {a b : Spot W} (pass : Pass h fr a b)
    (running : b.stance.progress.lifecycle = .running) : Passes h fr a b :=
  .single ⟨pass, running⟩

/-- A run of passes of which the last may stop the task. -/
inductive Reaches (h : Host F W) (fr : Frame F) (a : Spot W) : Spot W → Prop
  | alive {b : Spot W} (passes : Passes h fr a b) : Reaches h fr a b
  | last {b c : Spot W} (passes : Passes h fr a b) (pass : Pass h fr b c) : Reaches h fr a c

theorem Reaches.after {h : Host F W} {fr : Frame F} {a b c : Spot W} (passes : Passes h fr a b)
    (reaches : Reaches h fr b c) : Reaches h fr a c := by
  cases reaches with
  | alive more => exact .alive (passes.trans more)
  | last more pass => exact .last (passes.trans more) pass

/-- What each pass keeps that leaves the task under way, a run of passes keeps. -/
theorem Passes.keeps {h : Host F W} {fr : Frame F} {P : Spot W → Prop}
    (step : ∀ {a b : Spot W}, P a → Pass h fr a b → b.stance.progress.lifecycle = .running → P b)
    {a b : Spot W} (passes : Passes h fr a b) (here : P a) : P b := by
  induction passes with
  | refl => exact here
  | tail _ last ih => exact step ih last.1 last.2

theorem Reaches.keeps {h : Host F W} {fr : Frame F} {P : Spot W → Prop}
    (step : ∀ {a b : Spot W}, P a → Pass h fr a b → P b) {a b : Spot W} (reaches : Reaches h fr a b)
    (here : P a) : P b := by
  have alive : ∀ {b : Spot W}, Passes h fr a b → P b := fun passes =>
    passes.keeps (P := P) (fun before pass _ => step before pass) here
  cases reaches with
  | alive passes => exact alive passes
  | last passes pass => exact step (alive passes) pass

/-- What a transition comes to: the task goes on and is under way, the run stops, or a turn is broken
off. -/
inductive Goes (h : Host F W) (fr : Frame F) (a : Spot W) :
    Except Fault (Option Finish) → Spot W → Prop
  | on {b : Spot W} (passes : Passes h fr a b) : Goes h fr a (.ok none) b
  | stops {b : Spot W} (reaches : Reaches h fr a b) (finish : Finish) : Goes h fr a (.ok (some finish)) b
  | off {b c : Spot W} {fault : Fault} (passes : Passes h fr a b) (cut : Cut h fr b fault c) :
      Goes h fr a (.error fault) c

/-- What a run of transitions comes to. -/
inductive Closes (h : Host F W) (fr : Frame F) (a : Spot W) : Except Fault Finish → Spot W → Prop
  | stops {b : Spot W} (reaches : Reaches h fr a b) (finish : Finish) : Closes h fr a (.ok finish) b
  | off {b c : Spot W} {fault : Fault} (passes : Passes h fr a b) (cut : Cut h fr b fault c) :
      Closes h fr a (.error fault) c

variable {h : Host F W} {fr : Frame F} {a b : Spot W}

theorem Goes.after {r : Except Fault (Option Finish)} {c : Spot W} (passes : Passes h fr a b)
    (goes : Goes h fr b r c) : Goes h fr a r c := by
  cases goes with
  | on more => exact .on (passes.trans more)
  | stops reaches finish => exact .stops (reaches.after passes) finish
  | off more cut => exact .off (passes.trans more) cut

theorem Closes.after {r : Except Fault Finish} {c : Spot W} (passes : Passes h fr a b)
    (closes : Closes h fr b r c) : Closes h fr a r c := by
  cases closes with
  | stops reaches finish => exact .stops (reaches.after passes) finish
  | off more cut => exact .off (passes.trans more) cut

/-- How a visit ends: its last answer leads out of the state, or a turn of it is broken off. -/
inductive VisitEnds (h : Host F W) (fr : Frame F) (id : String) (node : State F) (a : Spot W) :
    Except Fault Step → Spot W → Prop
  | left {b : Spot W} {q : Question F} {j : Judgement Verdict} {w : W} {step : Step}
      (passes : Passes h fr a b) (asked : Asked h fr b id node q j w)
      (decided : j.result = .ok (.leave step)) :
      VisitEnds h fr id node a (.ok step) ⟨j.after, w⟩
  | off {b c : Spot W} {fault : Fault} (passes : Passes h fr a b) (cut : Cut h fr b fault c) :
      VisitEnds h fr id node a (.error fault) c

theorem VisitEnds.after {id : String} {node : State F} {r : Except Fault Step} {c : Spot W}
    (passes : Passes h fr a b) (ends : VisitEnds h fr id node b r c) :
    VisitEnds h fr id node a r c := by
  cases ends with
  | left more asked decided => exact .left (passes.trans more) asked decided
  | off more cut => exact .off (passes.trans more) cut

/-! ## Writes -/

variable (h fr) in
/-- What recording a row comes to: one write, after the name and the time of the row were taken. -/
theorem record_writes (fromId toId event : String) (reason : Reason) (attempt loopIteration : Int)
    (live : Live W) :
    ∃ row w, row.shape = ⟨fromId, toId, event, .known reason, attempt, loopIteration⟩ ∧
      row.taskId = live.tick.progress.taskId ∧ Idles h live.world w ∧
      ((∃ w' events, (h.record row live.tick.progress).run w = (.ok (), w') ∧
          (record h fr fromId toId event reason attempt loopIteration).exec live =
            (.ok (), ⟨{ live.tick with events := events }, w'⟩)) ∨
        ∃ fault w', (h.record row live.tick.progress).run w = (.error fault, w') ∧
          (record h fr fromId toId event reason attempt loopIteration).exec live =
            (.error fault, ⟨live.tick, w'⟩)) := by
  unfold record
  rw [exec_bind_of_ok (exec_onWorld _ _), exec_bind_of_ok (exec_onWorld _ _),
    exec_bind_of_ok (exec_progress _)]
  simp only
  rw [exec_bind, exec_onStore]
  refine ⟨⟨(h.freshEventId live.world).1, fr.runId, fr.tickId, live.tick.progress.taskId, fromId,
    toId, event, .known reason, attempt, loopIteration, (h.now (h.freshEventId live.world).2).1⟩,
    (h.now (h.freshEventId live.world).2).2, rfl, rfl, .now (.named .still), ?_⟩
  generalize (h.record _ _).run _ = written
  obtain ⟨r, w'⟩ := written
  cases r with
  | ok _ => exact .inl ⟨w', _, rfl, rfl⟩
  | error fault => exact .inr ⟨fault, w', rfl, rfl⟩

theorem checkpoint_writes (live : Live W) :
    (checkpoint h).exec live =
      (((h.checkpoint live.tick.progress).run live.world).1,
        ⟨live.tick, ((h.checkpoint live.tick.progress).run live.world).2⟩) := by
  unfold checkpoint
  rw [exec_bind_of_ok (exec_progress _), exec_onStore]

/-- A progress that is written without a question: the pass, or the write that breaks down. -/
theorem Unasked.goes {p : Progress} {w : W} (plain : Unasked h fr a p w) (tick : Tick)
    (here : tick.stance = ⟨p, a.stance.feedback⟩) :
    ∃ w', ((checkpoint h).exec ⟨tick, w⟩ = (.ok (), ⟨tick, w'⟩) ∧
        Pass h fr a ⟨tick.stance, w'⟩) ∨
      ∃ fault, (checkpoint h).exec ⟨tick, w⟩ = (.error fault, ⟨tick, w'⟩) ∧
        Cut h fr a fault ⟨tick.stance, w'⟩ := by
  rw [checkpoint_writes]
  have same : tick.progress = p := congrArg Stance.progress here
  rw [same, here]
  cases written : (h.checkpoint p).run w with
  | mk r w' =>
      refine ⟨w', ?_⟩
      cases r with
      | ok _ => exact .inl ⟨rfl, .unasked plain written⟩
      | error fault => exact .inr ⟨fault, rfl, .unwritten plain written⟩

/-- A wait before a retry: the world goes on, or the delay is longer than any clock can wait. -/
theorem waitForRetry_idles (retry : Option RetryPolicy) (attempt : Int) (live : Live W) :
    (∃ w, (waitForRetry h retry attempt).exec live = (.ok (), ⟨live.tick, w⟩) ∧
      Idles h live.world w) ∨
    ∃ fault, fault.isFatal = false ∧
      (waitForRetry h retry attempt).exec live = (.error fault, live) := by
  cases retry with
  | none => exact .inl ⟨live.world, rfl, .still⟩
  | some policy =>
      simp only [waitForRetry]
      cases delayed : policy.delaySeconds attempt with
      | error fault => exact .inr ⟨fault, policy.calm_delaySeconds _ _ delayed, rfl⟩
      | ok delay =>
          refine .inl ?_
          simp only
          by_cases positive : delay.isPositive = true
          · rw [if_pos positive]
            exact ⟨_, exec_onWorld _ _, .slept .still delay⟩
          · rw [if_neg positive]
            exact ⟨live.world, rfl, .still⟩

/-! ## Visits -/

section Attempts

variable {id : String} {handler callable : Handler F} {routes : ActionRoutes}
variable {retry : Option RetryPolicy} {n : Int}

theorem again_ends {live taken : Live W} {q : Question F} {j : Judgement Verdict} {reason : Reason}
    {attempt : Int} {next : Action W Step}
    (asked : Asked h fr live.spot id (.action handler routes retry) q j taken.world)
    (decided : j.result = .ok (.again reason attempt)) (stands : taken.tick.stance = j.after)
    (running : j.after.progress.lifecycle = .running)
    (rest : ∀ middle : Live W, middle.tick.progress = j.after.progress →
      VisitEnds h fr id (.action handler routes retry) middle.spot (next.exec middle).1
        (next.exec middle).2.spot) :
    VisitEnds h fr id (.action handler routes retry) live.spot
      ((do
        record h fr id id "failed" reason attempt 0
        waitForRetry h retry attempt
        next : Action W Step).exec taken).1
      ((do
        record h fr id id "failed" reason attempt 0
        waitForRetry h retry attempt
        next : Action W Step).exec taken).2.spot := by
  have place : taken.tick.progress = j.after.progress := congrArg Stance.progress stands
  obtain ⟨row, w, looks, owner, idles, ⟨w', events, wrote, ran⟩ | ⟨fault, w', broke, ran⟩⟩ :=
    record_writes h fr id id "failed" reason attempt 0 taken
  all_goals
    have due : Due h fr live.spot row taken.tick.stance w :=
      ⟨⟨id, _, q, j, _, ⟨0⟩, _, asked, decided, by rw [stands], by rw [looks, stands]; rfl, idles⟩, owner⟩
  · rw [exec_bind_of_ok ran]
    rcases waitForRetry_idles (h := h) retry attempt
        ⟨{ taken.tick with events := events }, w'⟩ with ⟨w'', waited, waits⟩ | ⟨fault, calm, waited⟩
    · rw [exec_bind_of_ok waited]
      have pass : Pass h fr live.spot ⟨taken.tick.stance, w''⟩ := .visit due wrote waits
      exact .after (.one pass (stands ▸ running)) (rest ⟨{ taken.tick with events := events }, w''⟩ place)
    · rw [exec_bind_of_error waited]
      have pass : Pass h fr live.spot ⟨taken.tick.stance, w'⟩ := .visit due wrote .still
      exact .off (.one pass (stands ▸ running)) (.overlong calm)
  · rw [exec_bind_of_error ran]
    exact .off .refl (.unrecorded due broke)

theorem tryAttempts_turn (limit : attemptLimit retry = .int n)
    (resolved : resolveHandler fr.graph id handler = .ok callable) (room : Nat) (live : Live W)
    (left : room = (attemptLimit retry).roomFrom (live.tick.progress.attemptNumber id))
    (stands : StandsAt fr.graph live.tick.progress id (.action handler routes retry))
    (running : live.tick.progress.lifecycle = .running)
    (again : ∀ room' (middle : Live W), room = room' + 1 →
      room' = (attemptLimit retry).roomFrom (middle.tick.progress.attemptNumber id) →
      StandsAt fr.graph middle.tick.progress id (.action handler routes retry) →
      middle.tick.progress.lifecycle = .running →
      VisitEnds h fr id (.action handler routes retry) middle.spot
        ((tryAttempts h fr id callable retry (attemptLimit retry) room'
          (middle.tick.progress.attemptNumber id)).exec middle).1
        ((tryAttempts h fr id callable retry (attemptLimit retry) room'
          (middle.tick.progress.attemptNumber id)).exec middle).2.spot) :
    VisitEnds h fr id (.action handler routes retry) live.spot
      ((tryAttempts h fr id callable retry (attemptLimit retry) room
        (live.tick.progress.attemptNumber id)).exec live).1
      ((tryAttempts h fr id callable retry (attemptLimit retry) room
        (live.tick.progress.attemptNumber id)).exec live).2.spot := by
  rw [limit] at left again ⊢
  generalize number : live.tick.progress.attemptNumber id = attempt at left ⊢
  obtain ⟨answer, world, ask⟩ : ∃ answer world,
      (Question.handler callable (live.tick.stance.handlerInput fr id attempt)).ask
        h.behaviour live.world = (answer, world) := ⟨_, _, rfl⟩
  have questioned : question fr id live.tick.stance (.action handler routes retry) =
      .ok (.handler callable (live.tick.stance.handlerInput fr id attempt)) := by
    rw [← number]
    simp only [question, resolved]
    rfl
  have asked : Asked h fr live.spot id (.action handler routes retry) _
      (actionReacted id retry live.tick.stance answer) world :=
    ⟨stands, rfl, running, questioned,
      congrArg (reacted id live.tick.stance (.action handler routes retry)) (congrArg Prod.fst ask),
      congrArg Prod.snd ask⟩
  have ran := exec_attemptOnce h fr id callable attempt live answer world ask
  have unmoved := attempted_position id attempt live.tick.stance answer
  unfold tryAttempts
  cases judged : (attempted id attempt live.tick.stance answer).result with
  | error fault =>
      rw [actionReacted_of_error number judged] at asked
      rw [judged] at ran
      rw [exec_bind_of_error ran]
      exact .off .refl (.judged asked rfl)
  | ok outcome =>
      rw [judged] at ran
      rw [exec_bind_of_ok ran]
      cases outcome with
      | settled o =>
          rw [actionReacted_of_ok number judged rfl] at asked
          exact .left .refl asked rfl
      | failed reason message =>
          simp only
          rw [exec_bind_of_ok (exec_changeProgress _ _)]
          cases room with
          | zero =>
              rw [actionReacted_of_ok number judged (limit ▸ concluded_exhausted left.symm)] at asked
              simp only [Value.isBelow?_int, Bool.false_eq_true, if_false]
              rw [exec_bind_of_ok (exec_changeProgress _ _)]
              exact .left .refl asked rfl
          | succ room' =>
              have some_room : (Value.int n).roomFrom attempt ≠ 0 := by
                rw [← left]
                exact Nat.succ_ne_zero room'
              rw [actionReacted_of_ok number judged (limit ▸ concluded_again some_room)] at asked
              simp only
              rw [exec_bind_of_ok (exec_changeProgress _ _)]
              refine again_ends asked rfl rfl (unmoved.2.trans running) ?_
              intro middle same
              have number' : middle.tick.progress.attemptNumber id = attempt + 1 := by
                rw [same]
                exact attemptNumber_put _ _ _
              have at_state : StandsAt fr.graph middle.tick.progress id
                  (.action handler routes retry) := by
                rw [same]
                refine ⟨?_, stands.2⟩
                unfold position
                simp only [unmoved.1]
                exact stands.1
              have next := again room' middle rfl ?_ at_state ?_
              · rw [number'] at next
                exact next
              · rw [number', Value.roomFrom_int]
                rw [Value.roomFrom_int] at left
                omega
              · rw [same]
                exact unmoved.2.trans running

/-- The tries of an action are passes, up to the one that decides. -/
theorem tryAttempts_ends (limit : attemptLimit retry = .int n)
    (resolved : resolveHandler fr.graph id handler = .ok callable) (room : Nat) (live : Live W)
    (left : room = (attemptLimit retry).roomFrom (live.tick.progress.attemptNumber id))
    (stands : StandsAt fr.graph live.tick.progress id (.action handler routes retry))
    (running : live.tick.progress.lifecycle = .running) :
    VisitEnds h fr id (.action handler routes retry) live.spot
      ((tryAttempts h fr id callable retry (attemptLimit retry) room
        (live.tick.progress.attemptNumber id)).exec live).1
      ((tryAttempts h fr id callable retry (attemptLimit retry) room
        (live.tick.progress.attemptNumber id)).exec live).2.spot := by
  induction room generalizing live with
  | zero =>
      refine tryAttempts_turn limit resolved 0 live left stands running ?_
      intro room' middle impossible
      cases impossible
  | succ room ih =>
      refine tryAttempts_turn limit resolved (room + 1) live left stands running ?_
      intro room' middle same left' stands' running'
      cases same
      exact ih middle left' stands' running'

theorem runAction_ends (limit : attemptLimit retry = .int n) (live : Live W)
    (stands : StandsAt fr.graph live.tick.progress id (.action handler routes retry))
    (running : live.tick.progress.lifecycle = .running) :
    VisitEnds h fr id (.action handler routes retry) live.spot
      ((runAction h fr id handler retry).exec live).1
      ((runAction h fr id handler retry).exec live).2.spot := by
  unfold runAction
  cases resolved : resolveHandler fr.graph id handler with
  | error cause =>
      rw [exec_bind_of_error (exec_orFail_error cause live)]
      exact .off .refl (.stuck cause)
  | ok callable =>
      rw [exec_bind_of_ok (exec_orFail_ok callable live), exec_bind_of_ok (exec_progress live)]
      exact tryAttempts_ends limit resolved _ live rfl stands running

end Attempts

theorem AsksOnce.ends {id : String} {node : State F} {act : Action W Step}
    (asks : AsksOnce h fr id node act) (live : Live W)
    (stands : StandsAt fr.graph live.tick.progress id node) (work : isWork node = true)
    (running : live.tick.progress.lifecycle = .running) :
    VisitEnds h fr id node live.spot (act.exec live).1 (act.exec live).2.spot := by
  cases questioned : question fr id live.tick.stance node with
  | error cause =>
      rw [asks.unresolved live cause questioned]
      exact .off .refl (.stuck cause)
  | ok q =>
      obtain ⟨answer, world, ask⟩ : ∃ answer world,
          q.ask h.behaviour live.world = (answer, world) := ⟨_, _, rfl⟩
      obtain ⟨r, settles, ran⟩ := asks.resolved live q answer world questioned ask
      have asked : Asked h fr live.spot id node q (reacted id live.tick.stance node answer) world :=
        ⟨stands, work, running, questioned,
          congrArg (reacted id live.tick.stance node) (congrArg Prod.fst ask),
          congrArg Prod.snd ask⟩
      rw [ran]
      generalize judged : (reacted id live.tick.stance node answer).result = verdict at settles
      cases settles with
      | left step => exact .left .refl asked judged
      | broken fault => exact .off .refl (.judged asked judged)

theorem runState_ends (whole : fr.graph.WholeLimits) {id : String} {node : State F} (live : Live W)
    (stands : StandsAt fr.graph live.tick.progress id node) (work : isWork node = true)
    (running : live.tick.progress.lifecycle = .running) :
    VisitEnds h fr id node live.spot ((runState h fr id node).exec live).1
      ((runState h fr id node).exec live).2.spot := by
  cases node with
  | action handler routes retry =>
      obtain ⟨n, limit⟩ := whole id handler routes retry stands.2
      exact runAction_ends limit live stands running
  | orchestrate routes handler selector =>
      exact (runOrchestrate_asksOnce h fr id routes handler selector).ends live stands work running
  | loop body bound routes stop =>
      exact (runLoop_asksOnce h fr id body bound routes stop).ends live stands work running
  | unsupported v => exact .off .refl (.stuck _)
  | feedback resume => cases work
  | terminal status message => cases work

/-! ## Transitions -/

theorem arrival_idles {id : String} {node : State F} {step : Step} {target : String}
    {targetNode : State F} (routed : stepTarget fr.graph id node step = .ok (target, targetNode))
    (live : Live W) :
    ∃ now p w, (applyArrival h fr id target step.message targetNode).exec
        ⟨move step target live.tick, live.world⟩ = (.ok (), ⟨Tick.movedTo live.tick p, w⟩) ∧
      Idles h live.world w ∧
      landed fr.graph id node now live.tick.progress (.leave step) =
        .ok (⟨id, target, step.event, .known step.reason, step.attempt, step.loopIteration⟩, p) ∧
      (isWork targetNode = true → p.lifecycle = live.tick.progress.lifecycle) := by
  cases targetNode with
  | feedback resume =>
      obtain ⟨next, resumes⟩ := resumeTarget_of_state? (stepTarget_ok routed).2 (some id)
      refine ⟨(h.now live.world).1, _, _, exec_applyPause fr resumes _, .now .still, ?_, ?_⟩
      · simp only [landed, routed, arrived, resumes]
        rfl
      · intro work
        cases work
  | terminal status message =>
      refine ⟨⟨0⟩, _, live.world, rfl, .still, ?_, ?_⟩
      · simp only [landed, routed]
        rfl
      · intro work
        cases work
  | _ =>
      refine ⟨⟨0⟩, _, live.world, rfl, .still, ?_, fun _ => rfl⟩
      simp only [landed, routed]
      rfl

theorem markRunning_goes {id : String} {node : State F} (live : Live W)
    (stands : StandsAt fr.graph live.tick.progress id node) (work : isWork node = true) :
    (∃ begun, (markRunning h).exec live = (.ok (), begun) ∧ Passes h fr live.spot begun.spot ∧
      begun.tick.progress.lifecycle = .running ∧ StandsAt fr.graph begun.tick.progress id node) ∨
    ∃ fault left, (markRunning h).exec live = (.error fault, left) ∧
      Cut h fr live.spot fault left.spot := by
  unfold markRunning
  rw [exec_bind_of_ok (exec_progress live)]
  by_cases running : live.tick.progress.lifecycle = .running
  · simp only [running, ne_eq, not_true_eq_false, if_false]
    exact .inl ⟨live, rfl, .refl, running, stands⟩
  · simp only [ne_eq, running, not_false_eq_true, if_true]
    rw [exec_bind_of_ok (exec_changeProgress _ _)]
    have plain : Unasked h fr live.spot (Progress.begun live.tick.progress) live.world :=
      .begin stands work running
    obtain ⟨w, ⟨ran, pass⟩ | ⟨fault, ran, cut⟩⟩ :=
      plain.goes { live.tick with progress := Progress.begun live.tick.progress } rfl
    · exact .inl ⟨_, ran, .one pass rfl, rfl, stands⟩
    · exact .inr ⟨fault, _, ran, cut⟩

/-- What is reported of an arrival changes neither tick nor world. Nothing is reported where there is work
to be done. -/
theorem exec_arrivalFinish (step : Step) (node : State F) (live : Live W) :
    ∃ finish, (arrivalFinish step node : Action W (Option Finish)).exec live =
      (.ok finish, live) ∧ (finish = none → isWork node = true) := by
  cases node <;> exact ⟨_, rfl, fun same => by first | rfl | cases same⟩

theorem takeTransition_goes (whole : fr.graph.WholeLimits) (budget : Budget) {id : String}
    {node : State F} (live : Live W) (stands : StandsAt fr.graph live.tick.progress id node)
    (work : isWork node = true) :
    Goes h fr live.spot ((takeTransition h fr budget id node).exec live).1
      ((takeTransition h fr budget id node).exec live).2.spot := by
  unfold takeTransition
  rw [exec_bind_of_ok (exec_tick live)]
  by_cases isOver : budget.perRun ≤ live.tick.transitions
  · simp only [isOver, if_true]
    exact .off .refl (.stuck _)
  · simp only [isOver, if_false]
    obtain ⟨begun, marked, passes, running, stands'⟩ | ⟨fault, left, marked, cut⟩ :=
      markRunning_goes (h := h) live stands work
    · rw [exec_bind_of_ok marked]
      refine .after passes ?_
      have ends := runState_ends (h := h) whole begun stands' work running
      generalize came : (runState h fr id node).exec begun = r at ends
      obtain ⟨r, left⟩ := r
      generalize spot : left.spot = c at ends
      cases ends with
      | off passes cut =>
          rw [exec_bind_of_error came]
          subst spot
          exact .off passes cut
      | @left b q j w step passes asked decided =>
          rw [exec_bind_of_ok came]
          refine .after passes ?_
          have stance : left.tick.stance = j.after := congrArg Spot.stance spot
          have place : left.tick.progress = j.after.progress := congrArg Stance.progress stance
          have reply : left.tick.feedback = j.after.feedback := congrArg Stance.feedback stance
          have world : left.world = w := congrArg Spot.world spot
          subst world
          cases routed : stepTarget fr.graph id node step with
          | error cause =>
              rw [exec_bind_of_error (exec_orFail_error _ _)]
              have cut : Cut h fr b (.fatal cause none) ⟨j.after, left.world⟩ :=
                .unrouted asked decided
              rw [← stance] at cut
              exact .off .refl cut
          | ok route =>
              obtain ⟨target, targetNode⟩ := route
              rw [exec_bind_of_ok (exec_orFail_ok _ _)]
              simp only
              rw [exec_bind_of_ok (exec_change _ _)]
              obtain ⟨now, p, w, arrived, idles, lands, onward⟩ :=
                arrival_idles (h := h) routed left
              rw [exec_bind_of_ok arrived]
              obtain ⟨row, w', looks, owner, named, written⟩ :=
                record_writes h fr id target step.event step.reason step.attempt
                  step.loopIteration ⟨Tick.movedTo left.tick p, w⟩
              have due : Due h fr b row ⟨p, left.tick.feedback⟩ w' :=
                ⟨⟨id, node, q, j, _, now, left.world, asked, decided,
                  reply, by rw [looks, ← place]; exact lands,
                  idles.trans named⟩, owner⟩
              rcases written with ⟨w'', events, wrote, ran⟩ | ⟨fault, w'', broke, ran⟩
              · rw [exec_bind_of_ok ran]
                obtain ⟨finish, reported, goesOn⟩ := exec_arrivalFinish step targetNode
                  ⟨{ Tick.movedTo left.tick p with events := events }, w''⟩
                rw [reported]
                have pass : Pass h fr b ⟨⟨p, left.tick.feedback⟩, w''⟩ := .visit due wrote .still
                cases finish with
                | none =>
                    have under : p.lifecycle = .running := by
                      rw [onward (goesOn rfl), place]
                      exact asked.under_way
                    exact .on (.one pass under)
                | some finish => exact .stops (.last .refl pass) finish
              · rw [exec_bind_of_error ran]
                exact .off .refl (.unrecorded due broke)
    · rw [exec_bind_of_error marked]
      exact .off .refl cut

/-! ## Runs -/

variable (h fr) in
/-- Where a run looks first: the task has work to do there, or one write ends the run. -/
theorem arrive_goes (previous : Option String) (live : Live W) :
    (∃ id node, StandsAt fr.graph live.tick.progress id node ∧ isWork node = true ∧
      (arrive h fr previous).exec live = (.ok (.inr (id, node)), live)) ∨
    ∃ (r : Except Fault Finish) (live' : Live W),
      (arrive h fr previous).exec live = (r.map Sum.inl, live') ∧
      Closes h fr live.spot r live'.spot := by
  unfold arrive
  rw [exec_bind_of_ok (exec_progress live)]
  simp only
  cases found : fr.graph.state? (position fr.graph live.tick.progress) with
  | none => exact .inr ⟨_, live, rfl, .off .refl (.stuck _)⟩
  | some node =>
      cases node with
      | terminal status message =>
          refine .inr ?_
          simp only [applyTerminal]
          rw [exec_bind_of_ok (exec_changeProgress _ _)]
          have plain : Unasked h fr live.spot
              (Progress.atEnd live.tick.progress _ status message none) live.world :=
            .halt ⟨rfl, found⟩
          obtain ⟨w, ⟨ran, pass⟩ | ⟨fault, ran, cut⟩⟩ := plain.goes { live.tick with
            progress := Progress.atEnd live.tick.progress
              (position fr.graph live.tick.progress) status message none } rfl
          · rw [exec_bind_of_ok ran]
            exact ⟨.ok _, ⟨_, w⟩, rfl, .stops (.last .refl pass) _⟩
          · rw [exec_bind_of_error ran]
            exact ⟨.error fault, ⟨_, w⟩, rfl, .off .refl cut⟩
      | feedback resume =>
          refine .inr ?_
          obtain ⟨next, resumes⟩ := resumeTarget_of_state? found previous
          simp only
          rw [exec_bind_of_ok (exec_applyPause fr resumes live)]
          have plain : Unasked h fr live.spot
              (Progress.pausedAt live.tick.progress next (h.now live.world).1) (h.now live.world).2 :=
            .rest ⟨rfl, found⟩
          obtain ⟨w, ⟨ran, pass⟩ | ⟨fault, ran, cut⟩⟩ := plain.goes { live.tick with
            progress := Progress.pausedAt live.tick.progress next (h.now live.world).1 } rfl
          · rw [exec_bind_of_ok ran]
            exact ⟨.ok _, ⟨_, w⟩, rfl, .stops (.last .refl pass) _⟩
          · rw [exec_bind_of_error ran]
            exact ⟨.error fault, ⟨_, w⟩, rfl, .off .refl cut⟩
      | _ => exact .inl ⟨_, _, ⟨rfl, found⟩, rfl, rfl⟩

theorem closes_of_arrival {r : Except Fault Finish} {live live' : Live W}
    {next : Finish ⊕ (String × State F) → Action W Finish} {act : Action W (Finish ⊕ (String × State F))}
    (ran : act.exec live = (r.map Sum.inl, live')) (closes : Closes h fr live.spot r live'.spot)
    (done : ∀ finish, (next (.inl finish)).exec live' = (.ok finish, live')) :
    Closes h fr live.spot ((act >>= next).exec live).1 ((act >>= next).exec live).2.spot := by
  cases r with
  | ok finish =>
      rw [exec_bind_of_ok ran, done finish]
      exact closes
  | error fault =>
      rw [exec_bind_of_error ran]
      exact closes

/-- A run of transitions. -/
theorem run_closes (whole : fr.graph.WholeLimits) (budget : Budget) (left : Nat)
    (previous : Option String) (live : Live W) :
    Closes h fr live.spot ((run h fr budget left previous).exec live).1
      ((run h fr budget left previous).exec live).2.spot := by
  induction left generalizing previous live with
  | zero =>
      unfold run
      rcases arrive_goes h fr previous live with
        ⟨id, node, stands, work, ran⟩ | ⟨r, live', ran, closes⟩
      · rw [exec_bind_of_ok ran]
        exact .stops (.alive .refl) _
      · exact closes_of_arrival ran closes fun _ => rfl
  | succ left ih =>
      unfold run
      rcases arrive_goes h fr previous live with
        ⟨id, node, stands, work, ran⟩ | ⟨r, live', ran, closes⟩
      · rw [exec_bind_of_ok ran]
        simp only
        have goes := takeTransition_goes (h := h) whole budget live stands work
        generalize came : (takeTransition h fr budget id node).exec live = r at goes
        obtain ⟨r, live'⟩ := r
        generalize spot : live'.spot = c at goes
        cases goes with
        | on passes =>
            rw [exec_bind_of_ok came]
            exact .after passes (spot ▸ ih (some id) live')
        | stops reaches finish =>
            rw [exec_bind_of_ok came]
            exact spot ▸ .stops reaches finish
        | off passes cut =>
            rw [exec_bind_of_error came]
            exact spot ▸ .off passes cut
      · exact closes_of_arrival ran closes fun _ => rfl

/-! ## Advances -/

/-- How an advance ends: it reports, it gives the task up and writes that, or a fault escapes from it. -/
inductive Ended (h : Host F W) (fr : Frame F) (a : Spot W) :
    Except Fault Finish → Progress → W → Prop
  | reports {b : Spot W} (reaches : Reaches h fr a b) (finish : Finish) :
      Ended h fr a (.ok finish) b.stance.progress b.world
  | gaveUp {cause : FatalCause} {taskId : Option String} {b c : Spot W} {w : W} (named : String)
      (passes : Passes h fr a b) (cut : Cut h fr b (.fatal cause taskId) c)
      (wrote : (h.checkpoint (Progress.failedWith c.stance.progress cause.message)).run c.world =
        (.ok (), w)) :
      Ended h fr a (.error (.fatal cause (some named)))
        (Progress.failedWith c.stance.progress cause.message) w
  | unkept {cause : FatalCause} {taskId : Option String} {b c : Spot W} {w : W} {fault : Fault}
      (passes : Passes h fr a b) (cut : Cut h fr b (.fatal cause taskId) c)
      (broke : (h.checkpoint (Progress.failedWith c.stance.progress cause.message)).run c.world =
        (.error fault, w)) :
      Ended h fr a (.error fault) (Progress.failedWith c.stance.progress cause.message) w
  | escaped {fault : Fault} {b c : Spot W} (passes : Passes h fr a b) (cut : Cut h fr b fault c)
      (calm : fault.isFatal = false) :
      Ended h fr a (.error fault) c.stance.progress c.world

theorem advance_ends (h : Host F W) {g : Graph F} (whole : g.WholeLimits) (budget : Budget)
    (task : TaskInfo) (runId : String) (tickId feedback : Option String) (p : Progress) (w : W)
    (active : p.lifecycle.isTerminal = false) :
    Ended h ⟨g, task, runId, (tickIdFor h tickId w).1⟩
      ⟨⟨prepare g p, acceptedReply p feedback⟩, (tickIdFor h tickId w).2⟩
      (advance h budget g task runId tickId feedback p w).1.1
      (advance h budget g task runId tickId feedback p w).1.2
      (advance h budget g task runId tickId feedback p w).2 := by
  rw [advance_active h budget g task runId tickId feedback p w active]
  simp only
  generalize tickIdFor h tickId w = named
  obtain ⟨tick, world⟩ := named
  have closes : Closes h ⟨g, task, runId, tick⟩ _ _ _ :=
    run_closes whole budget budget.perTick none
      ⟨firstTick g p feedback, world⟩
  unfold orPersistFailure
  rw [exec_tryCatch]
  generalize (run h ⟨g, task, runId, tick⟩ budget budget.perTick none).exec
    ⟨firstTick g p feedback, world⟩ = r at closes ⊢
  obtain ⟨r, live⟩ := r
  simp only at closes
  generalize spot : live.spot = c at closes
  cases closes with
  | stops reaches finish =>
      subst spot
      exact .reports reaches finish
  | @off _ _ fault passes cut =>
      subst spot
      cases fault with
      | fatal cause taskId =>
          simp only
          rw [exec_bind_of_ok (exec_changeProgress _ _)]
          have writes := checkpoint_writes (h := h) ⟨{ live.tick with
            progress := Progress.failedWith live.tick.progress cause.message }, live.world⟩
          cases kept : (h.checkpoint (Progress.failedWith live.tick.progress cause.message)).run
            live.world with
          | mk r w' =>
              simp only [kept] at writes
              cases r with
              | ok _ =>
                  rw [exec_bind_of_ok writes, exec_bind_of_ok (exec_progress _)]
                  exact .gaveUp _ passes cut kept
              | error fault =>
                  rw [exec_bind_of_error writes]
                  exact .unkept passes cut kept
      | _ => exact .escaped passes cut rfl

end Engine

end Tickwork
