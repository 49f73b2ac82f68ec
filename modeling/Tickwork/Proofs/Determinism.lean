import Tickwork.Proofs.Recited

/-!
# What the next turn will be

Where callables answer by a function, the next turn is a function of where the tick stands: `foreseen`
gives it up to the clock and to names. Two walks from one stance then agree as far as both of them go,
and once one of them has stopped the task, the other one is the same or has a turn left.
-/

set_option autoImplicit false

namespace Tickwork

variable {F : Type}

/-- What the engine writes, up to the clock and to names. -/
structure Trace where
  row : Option Shape
  progress : Progress
  pages : List Value

def Progress.unwaited (p : Progress) : Progress :=
  { p with waitingSince := none }

def Entry.trace (e : Entry) : Trace :=
  ⟨e.row.map Transition.shape, e.progress.unwaited, e.pages⟩

namespace Engine

variable {reply : F → Call → Answer} {fr : Frame F} {s after after' : Stance} {e e' : Entry}

/-! ## The next turn -/

/-- The task is given up. -/
def givenUp (s : Stance) (cause : FatalCause) : Trace × Option String :=
  (⟨none, (Progress.failedWith s.progress cause.message).unwaited, []⟩, s.feedback)

/-- What follows from the answer to a question; nothing where a fault escapes. -/
def foreseenFrom (fr : Frame F) (id : String) (node : State F) (j : Judgement Verdict) :
    Option (Trace × Option String) :=
  match j.result with
  | .error (.fatal cause _) => some (givenUp j.after cause)
  | .error _ => none
  | .ok verdict =>
    match landed fr.graph id node ⟨0⟩ j.after.progress verdict with
    | .error (.fatal cause _) => some (givenUp j.after cause)
    | .error _ => none
    | .ok (shape, p) => some (⟨some shape, p.unwaited, j.pages⟩, j.after.feedback)

/-- What the visit of a state comes to. -/
def foreseenVisit (reply : F → Call → Answer) (fr : Frame F) (id : String) (s : Stance)
    (node : State F) : Option (Trace × Option String) :=
  match question fr id s node with
  | .error cause => some (givenUp s cause)
  | .ok q => foreseenFrom fr id node (reacted id s node (recite reply q))

/-- The next turn from a stance, with the reply that may still be handed out after it. -/
def foreseen (reply : F → Call → Answer) (fr : Frame F) (s : Stance) :
    Option (Trace × Option String) :=
  let id := position fr.graph s.progress
  match fr.graph.state? id with
  | none => some (givenUp s (.missingState id))
  | some (.terminal status message) =>
    some (⟨none, (Progress.atEnd s.progress id status message none).unwaited, []⟩, s.feedback)
  | some (.feedback _) =>
    match fr.graph.resumeTarget id none with
    | .error _ => none
    | .ok next => some (⟨none, (Progress.pausedAt s.progress next ⟨0⟩).unwaited, []⟩, s.feedback)
  | some node =>
    if s.progress.lifecycle = .running then foreseenVisit reply fr id s node
    else some (⟨none, (Progress.begun s.progress).unwaited, []⟩, s.feedback)

theorem foreseen_of_work {id : String} {node : State F} (stands : StandsAt fr.graph s.progress id node)
    (work : isWork node = true) :
    foreseen reply fr s =
      if s.progress.lifecycle = .running then foreseenVisit reply fr id s node
      else some (⟨none, (Progress.begun s.progress).unwaited, []⟩, s.feedback) := by
  obtain ⟨here, found⟩ := stands
  unfold foreseen
  rw [here]
  simp only [found]
  cases node with
  | terminal status message => cases work
  | feedback resume => cases work
  | _ => rfl

theorem foreseen_of_visit {id : String} {node : State F} {j : Judgement Verdict}
    (visit : Visit (answersBy reply) fr s id node j) :
    foreseen reply fr s = foreseenFrom fr id node j := by
  obtain ⟨q, answer, asked, answered, reaction⟩ := visit.answered
  have given : answer = recite reply q := answered
  rw [foreseen_of_work visit.stands visit.work, if_pos visit.running]
  unfold foreseenVisit
  rw [asked, reaction, given]

/-- Where a verdict lands does not depend on the clock, but for the time since when a task waits. -/
theorem landed_unwaited {g : Graph F} {id : String} {node : State F} {now : Instant}
    {p q : Progress} {verdict : Verdict} {shape : Shape}
    (lands : landed g id node now p verdict = .ok (shape, q)) (now' : Instant) :
    ∃ q', landed g id node now' p verdict = .ok (shape, q') ∧ q'.unwaited = q.unwaited := by
  cases landing_of_landed lands with
  | again reason attempt => exact ⟨p, rfl, rfl⟩
  | @left step target targetNode _ leads found arrives =>
      have routed : stepTarget g id node step = .ok (target, targetNode) := by
        simp only [stepTarget, leads, found]
      simp only [landed, routed]
      cases arrives with
      | ended status message => exact ⟨_, rfl, rfl⟩
      | paused resumes =>
          simp only [arrived, resumes]
          exact ⟨_, rfl, rfl⟩
      | onward work =>
          refine ⟨_, ?_, rfl⟩
          cases targetNode with
          | terminal status message => cases work
          | feedback resume => cases work
          | _ => rfl

theorem landed_error_now {g : Graph F} {id : String} {node : State F} {now : Instant}
    {p : Progress} {verdict : Verdict} {fault : Fault}
    (lost : landed g id node now p verdict = .error fault) (now' : Instant) :
    landed g id node now' p verdict = .error fault := by
  cases verdict with
  | again reason attempt => cases lost
  | leave step =>
      simp only [landed] at lost ⊢
      cases routed : stepTarget g id node step with
      | error cause =>
          rw [routed] at lost
          exact lost
      | ok route =>
          obtain ⟨target, targetNode⟩ := route
          simp only [routed] at lost ⊢
          cases targetNode with
          | feedback resume =>
              simp only [arrived] at lost ⊢
              cases resumed : g.resumeTarget target (some id) with
              | error fault' =>
                  rw [resumed] at lost
                  exact lost
              | ok next =>
                  rw [resumed] at lost
                  cases lost
          | _ => cases lost

theorem Doomed.foreseen {cause : FatalCause} {taskId : Option String}
    (doomed : Doomed (answersBy reply) False fr s cause taskId after) :
    Engine.foreseen reply fr s = some (givenUp after cause) := by
  cases doomed with
  | missing absent =>
      unfold Engine.foreseen
      simp only [absent]
  | spent transitions stands work cap => exact cap.elim
  | unasked stands work running unresolved =>
      rw [foreseen_of_work stands work, if_pos running]
      unfold foreseenVisit
      rw [unresolved]
  | judged visit refused =>
      rw [foreseen_of_visit visit]
      unfold foreseenFrom
      rw [refused]
  | unrouted visit decided astray =>
      rw [foreseen_of_visit visit]
      unfold foreseenFrom
      rw [decided]
      simp only [landed_error_now astray ⟨0⟩]

/-- The turn that a tick takes is the one that was foreseen. -/
theorem Turn.foreseen (turn : Turn (answersBy reply) False fr s e after) :
    Engine.foreseen reply fr s = some (e.trace, after.feedback) := by
  cases turn with
  | begin stands work idle =>
      rw [foreseen_of_work stands work, if_neg idle]
      rfl
  | halt stands =>
      obtain ⟨here, found⟩ := stands
      unfold Engine.foreseen
      rw [here]
      simp only [found]
      rfl
  | rest stands resumes =>
      obtain ⟨here, found⟩ := stands
      unfold Engine.foreseen
      rw [here]
      simp only [found, resumes]
      rfl
  | visit visit decided lands owner fits =>
      obtain ⟨q, lands', same⟩ := landed_unwaited lands ⟨0⟩
      rw [foreseen_of_visit visit]
      unfold foreseenFrom
      rw [decided]
      simp only [lands', same]
      rfl
  | fail doomed => exact doomed.foreseen

/-! ## Two walks from one stance -/

theorem Turn.progress (turn : Turn (answersBy reply) False fr s e after) :
    e.progress = after.progress := by
  cases turn <;> rfl

theorem Turn.waitingSince (turn : Turn (answersBy reply) False fr s e after)
    (running : after.progress.lifecycle = .running) :
    after.progress.waitingSince =
      if s.progress.lifecycle = .running then s.progress.waitingSince else none := by
  cases turn with
  | begin stands work idle => rw [if_neg idle]; rfl
  | @halt id status message stands => cases status <;> cases running
  | rest stands resumes => cases running
  | @visit id node j verdict now row p visit decided lands owner fits =>
      obtain ⟨q, answer, -, -, reaction⟩ := visit.answered
      have same : j.after.progress.SamePlace s.progress := reaction ▸ reacted_samePlace _ _ _ _
      rw [if_pos visit.running, ← same.waitingSince]
      obtain ⟨shape, looks⟩ : ∃ shape, row.shape = shape := ⟨_, rfl⟩
      rw [looks] at lands
      cases landing_of_landed lands with
      | again reason attempt => rfl
      | left leads found arrives =>
          have moved : p = _ := arrives.moved running
          rw [moved]
          rfl
  | fail doomed => cases running

theorem Progress.eq_of_unwaited {p q : Progress} (same : p.unwaited = q.unwaited)
    (since : p.waitingSince = q.waitingSince) : p = q := by
  cases p
  cases q
  simp only [Progress.unwaited, Progress.mk.injEq] at same since ⊢
  simp [same, since]

theorem Turn.trace_unique (turn : Turn (answersBy reply) False fr s e after)
    (turn' : Turn (answersBy reply) False fr s e' after') : e.trace = e'.trace := by
  have first := turn.foreseen
  rw [turn'.foreseen] at first
  exact (congrArg Prod.fst (Option.some.inj first)).symm

/-- Since when a paused task waits makes no difference to what becomes of it. -/
theorem foreseen_unwaited
    (since : s.progress.lifecycle = .running → s.progress.waitingSince = none) :
    foreseen reply fr ⟨s.progress.unwaited, s.feedback⟩ = foreseen reply fr s := by
  by_cases running : s.progress.lifecycle = .running
  · have same : s.progress.unwaited = s.progress := Progress.eq_of_unwaited rfl (since running).symm
    rw [same]
  · have still : s.progress.unwaited.lifecycle ≠ .running := running
    unfold foreseen
    have here : position fr.graph s.progress.unwaited = position fr.graph s.progress := rfl
    rw [here]
    simp only [running, still, if_false]
    rfl

/-- A turn that leaves the task under way leaves it where every other turn does. -/
theorem Turn.after_unique (turn : Turn (answersBy reply) False fr s e after)
    (turn' : Turn (answersBy reply) False fr s e' after')
    (running : after.progress.lifecycle = .running) : after' = after := by
  have first := turn.foreseen
  rw [turn'.foreseen] at first
  obtain ⟨traces, replies⟩ : e'.trace = e.trace ∧ after'.feedback = after.feedback := by
    simpa using first
  have same : after'.progress.unwaited = after.progress.unwaited := by
    rw [← turn.progress, ← turn'.progress]
    exact congrArg Trace.progress traces
  have running' : after'.progress.lifecycle = .running := by
    have stage := congrArg Progress.lifecycle same
    exact stage.trans running
  have since : after'.progress.waitingSince = after.progress.waitingSince :=
    (turn'.waitingSince running').trans (turn.waitingSince running).symm
  have alike : after'.progress = after.progress := Progress.eq_of_unwaited same since
  cases after
  cases after'
  simp only at alike replies
  rw [alike, replies]

/-- Two walks from one stance, the first of which has stopped the task: the second one wrote the same, or
it is shorter and has a turn left. -/
theorem Walk.compare {entries entries' : List Entry}
    (walk : Walk (answersBy reply) False fr s entries after)
    (walk' : Walk (answersBy reply) False fr s entries' after') (wrote : entries ≠ [])
    (halted : after.progress.lifecycle ≠ .running) :
    (entries'.map Entry.trace = entries.map Entry.trace ∧
        after'.progress.unwaited = after.progress.unwaited) ∨
      (entries'.length < entries.length ∧ Open entries' after' ∧
        ∃ e next, Turn (answersBy reply) False fr after' e next) := by
  induction walk generalizing entries' after' with
  | refl s => exact absurd rfl wrote
  | @last s after e turn =>
      cases walk' with
      | refl s => exact .inr ⟨by simp, .inr rfl, e, after, turn⟩
      | @last _ _ e' turn' =>
          have traces := turn'.trace_unique turn
          refine .inl ⟨by simp [traces], ?_⟩
          rw [← turn.progress, ← turn'.progress]
          exact congrArg Trace.progress traces
      | step turn' running rest =>
          rw [turn'.after_unique turn running] at halted
          exact absurd running halted
  | @step s middle after e entries turn running rest ih =>
      have more : entries ≠ [] := by
        rintro rfl
        cases rest
        exact halted running
      cases walk' with
      | refl s => exact .inr ⟨by simp, .inr rfl, e, middle, turn⟩
      | @last _ _ e' turn' =>
          rw [turn.after_unique turn' running]
          refine .inr ⟨?_, .inl running, ?_⟩
          · have some_left := List.length_pos_iff.mpr more
            simp only [List.length_cons, List.length_nil]
            omega
          · cases rest with
            | refl s => exact absurd rfl more
            | last next => exact ⟨_, _, next⟩
            | step next under rest => exact ⟨_, _, next⟩
      | @step _ middle' _ e' entries' turn' running' rest' =>
          have same := turn.after_unique turn' running
          subst same
          have traces := turn'.trace_unique turn
          rcases ih rest' more halted with ⟨alike, final⟩ | ⟨shorter, open', next⟩
          · exact .inl ⟨by simp [traces, alike], final⟩
          · refine .inr ⟨by simpa using shorter, ?_, next⟩
            rcases open' with under | rfl
            · exact .inl under
            · cases rest'
              exact .inl running

end Engine

end Tickwork
