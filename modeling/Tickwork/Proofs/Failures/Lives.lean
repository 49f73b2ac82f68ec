import Tickwork.Proofs.Sessions

/-!
# Lives of tasks

A life is what can become of a task that is kept in memory. It is advanced again and again, with other
callables, budgets and replies each time, a reply may be kept for it while it waits, and whoever goes on
with it has it as the advance before left it, or loads what is stored. `Life.lasting` is the induction
over lives: what lasts through every turn holds of the progress at hand and of the stored one.
-/

set_option autoImplicit false

namespace Tickwork

variable {F : Type}

/-- The stores and the progresses at hand that a task comes to. Other tasks may be written to the store
in between. -/
inductive Life (g : Graph F) : MemoryStore → Progress → Prop
  | new {m : MemoryStore} (taskId workflowId : String) (context : Fields)
      (untouched : ∀ q, m.load? taskId = some q → q = .newTask taskId workflowId context) :
      Life g m (.newTask taskId workflowId context)
  | advanced {W : Type} {m : MemoryStore} {p : Progress} (before : Life g m p) (h : Host F W) (w : W)
      (budget : Budget) (task : TaskInfo) (runId : String) (tickId feedback : Option String) :
      Life g (Engine.advance h.overMemory budget g task runId tickId feedback p (w, m)).2.2
        (Engine.advance h.overMemory budget g task runId tickId feedback p (w, m)).1.2
  | replied {m : MemoryStore} {p : Progress} (before : Life g m p) (paused : p.lifecycle = .feedback)
      (text : String) : Life g (m.checkpoint (p.replied text)) (p.replied text)
  | loaded {m : MemoryStore} {p q : Progress} (before : Life g m p)
      (kept : m.load? p.taskId = some q) : Life g m q
  | elsewhere {m m' : MemoryStore} {p : Progress} (before : Life g m p)
      (same : m'.load? p.taskId = m.load? p.taskId) : Life g m' p

theorem Life.of_empty (g : Graph F) (taskId workflowId : String) (context : Fields) :
    Life g .empty (.newTask taskId workflowId context) := by
  refine .new taskId workflowId context fun q kept => ?_
  cases kept

namespace Engine

variable {answers : Question F → Except Raised Value → Prop} {capped : Prop} {fr : Frame F}
variable {g : Graph F} {P : Progress → Prop}

/-- A property that a new task has and that every step of a life keeps. A row that is refused is no
turn, but the progress that was to go with it is at hand afterwards. -/
structure Lasting (g : Graph F) (P : Progress → Prop) : Prop where
  new : ∀ taskId workflowId context, P (.newTask taskId workflowId context)
  prepared : ∀ {p : Progress}, p.lifecycle.isTerminal = false → P p → P (prepare g p)
  turn : ∀ {answers : Question F → Except Raised Value → Prop} {capped : Prop} {fr : Frame F}
    {s after : Stance} {e : Entry}, fr.graph = g → Turn answers capped fr s e after →
    s.progress.lifecycle.isTerminal = false → P s.progress → P after.progress
  landing : ∀ {answers : Question F → Except Raised Value → Prop} {fr : Frame F} {s : Stance}
    {id : String} {node : State F} {j : Judgement Verdict} {verdict : Verdict} {now : Instant}
    {shape : Shape} {q : Progress}, fr.graph = g → Visit answers fr s id node j →
    j.result = .ok verdict → landed fr.graph id node now j.after.progress verdict = .ok (shape, q) →
    P s.progress → P q
  replied : ∀ {p : Progress} (text : String), p.lifecycle = .feedback → P p → P (p.replied text)

theorem Lasting.walk (lasting : Lasting g P) (same : fr.graph = g) {s after : Stance}
    {entries : List Entry} (walk : Walk answers capped fr s entries after)
    (alive : s.progress.lifecycle.isTerminal = false) (holds : P s.progress) : P after.progress := by
  induction walk with
  | refl s => exact holds
  | last turn => exact lasting.turn same turn alive holds
  | step turn running rest ih =>
      exact ih (alive_of_running running) (lasting.turn same turn alive holds)

/-- What still escapes from a graph that breaks no rule, over a store that does not break down: a delay
that no clock can wait for, and a row that is refused. -/
inductive Slip (answers : Question F → Except Raised Value → Prop) (fr : Frame F)
    (entries : List Entry) (s : Stance) : Fault → Progress → Prop
  | overlong {id : String} {handler : Handler F} {routes : ActionRoutes} {policy : RetryPolicy}
      {attempt : Int} {fault : Fault} (wrote : entries ≠ [])
      (found : fr.graph.state? id = some (.action handler routes (some policy)))
      (counted : s.progress.attempts.lookup id = some attempt)
      (within : (attemptLimit (some policy)).roomFrom attempt ≠ 0)
      (tooLong : policy.delaySeconds attempt = .error fault) :
      Slip answers fr entries s fault s.progress
  | refused {id : String} {node : State F} {j : Judgement Verdict} {verdict : Verdict}
      {now : Instant} {fault : Fault} {row : Transition} {p : Progress}
      (visit : Visit answers fr s id node j) (decided : j.result = .ok verdict)
      (lands : landed fr.graph id node now j.after.progress verdict = .ok (row.shape, p))
      (unfit : row.check = .error fault) : Slip answers fr entries s fault p

theorem Escape.slip {W : Type} {h : Host F W} (valid : fr.graph.violations = [])
    (sturdy : h.Sturdy) {s : Stance} {entries : List Entry} {fault : Fault} {p : Progress}
    (calm : fault.isFatal = false) (escape : Escape answers h fr entries s fault p) :
    Slip answers fr entries s fault p := by
  cases escape with
  | broke wrote weak => exact absurd sturdy weak
  | overlong wrote found counted within tooLong => exact .overlong wrote found counted within tooLong
  | jammed visit broken =>
      obtain ⟨q, answer, -, -, rfl⟩ := visit.answered
      rw [reacted_error valid visit.stands.2 broken] at calm
      cases calm
  | unlanded visit decided lost =>
      rw [landed_error lost] at calm
      cases calm
  | refused visit decided lands owner unfit => exact .refused visit decided lands unfit

/-- What a state makes of an answer leaves the task in its place. -/
theorem Visit.samePlace {s : Stance} {id : String} {node : State F} {j : Judgement Verdict}
    (visit : Visit answers fr s id node j) : j.after.progress.SamePlace s.progress := by
  obtain ⟨q, answer, -, -, rfl⟩ := visit.answered
  exact reacted_samePlace _ _ _ _

theorem Lasting.slip (lasting : Lasting g P) (same : fr.graph = g) {s : Stance}
    {entries : List Entry} {fault : Fault} {p : Progress}
    (slip : Slip answers fr entries s fault p) (holds : P s.progress) :
    P p ∧ p.taskId = s.progress.taskId := by
  cases slip with
  | overlong wrote found counted within tooLong => exact ⟨holds, rfl⟩
  | @refused id node j verdict now fault row q visit decided lands unfit =>
      exact ⟨lasting.landing same visit decided lands holds,
        (landing_of_landed lands).taskId.trans visit.samePlace.taskId⟩

/-- A walk that has written leaves the task in the store as it then stands. -/
theorem Walk.stored {p : Progress} {reply : Option String} {s : Stance} {entries : List Entry}
    (walk : Walk answers capped fr ⟨prepare g p, reply⟩ entries s) (wrote : entries ≠ [])
    (m : MemoryStore) :
    (keepAll MemoryStore.keep m entries).load? p.taskId = some s.progress := by
  obtain ⟨(owner : s.progress.taskId = p.taskId), -, -, last⟩ := walk.owner
  have atEnd := List.getLast?_eq_some_getLast wrote
  have loaded := MemoryStore.load?_keepAll m atEnd
  rw [last _ atEnd, owner] at loaded
  exact loaded

/-- What lasts holds of the task after an advance, and of what is stored of it then. -/
theorem Lasting.advance {W : Type} (lasting : Lasting g P) (valid : g.violations = [])
    (h : Host F W) (budget : Budget) (task : TaskInfo) (runId : String)
    (tickId feedback : Option String) {m : MemoryStore} {p : Progress} (w : W) (holds : P p)
    (stored : ∀ q, m.load? p.taskId = some q → q.taskId = p.taskId ∧ P q)
    {result : Except Fault Finish} {p' : Progress} {after : W × MemoryStore}
    (advanced : Engine.advance h.overMemory budget g task runId tickId feedback p (w, m) =
      ((result, p'), after)) :
    P p' ∧ ∀ q, after.2.load? p'.taskId = some q → q.taskId = p'.taskId ∧ P q := by
  cases active : p.lifecycle.isTerminal with
  | true =>
      rw [advance_ended _ _ _ _ _ _ _ _ active] at advanced
      cases advanced
      exact ⟨holds, stored⟩
  | false =>
      have serves : Serves h.overMemory (fun _ _ => True) Prod.snd MemoryStore.keep :=
        ⟨h.overMemory_keeps, fun _ _ => trivial⟩
      have cap : budget.perTick ≤ budget.perRun ∨ True := .inr trivial
      obtain ⟨tick, entries, s, walk, seen, ending⟩ := advance_walks serves
        (Graph.fit_of_valid valid) budget task runId tickId feedback p (w, m) active cap
      rw [advanced] at seen ending
      simp only at seen ending
      have held : P s.progress := lasting.walk rfl walk active (lasting.prepared active holds)
      have owner : s.progress.taskId = p.taskId := walk.owner.1
      have kept : ∀ q, after.2.load? s.progress.taskId = some q → q.taskId = s.progress.taskId ∧ P q := by
        intro q found
        by_cases wrote : entries = []
        · subst wrote
          rw [seen, owner] at found
          rw [owner]
          exact stored q found
        · rw [seen, owner, walk.stored wrote m] at found
          cases found
          exact ⟨rfl, held⟩
      have outcome : P p' ∧ p'.taskId = s.progress.taskId := by
        cases ending with
        | stopped wrote halted ending events pages => exact ⟨held, rfl⟩
        | spent more count ahead work ending events pages => exact ⟨held, rfl⟩
        | failed wrote lifecycle error placed => exact ⟨held, rfl⟩
        | escaped calm escape =>
            exact lasting.slip rfl (escape.slip valid h.overMemory_sturdy calm) held
      rw [outcome.2]
      exact ⟨outcome.1, kept⟩

end Engine

open Engine

/-- What lasts through every turn holds of the progress at hand and of the stored one, all life long. -/
theorem Life.lasting {g : Graph F} {P : Progress → Prop} (lasting : Lasting g P)
    (valid : g.violations = []) {m : MemoryStore} {p : Progress} (life : Life g m p) :
    P p ∧ ∀ q, m.load? p.taskId = some q → q.taskId = p.taskId ∧ P q := by
  induction life with
  | new taskId workflowId context untouched =>
      refine ⟨lasting.new taskId workflowId context, fun q kept => ?_⟩
      rw [untouched q kept]
      exact ⟨rfl, lasting.new taskId workflowId context⟩
  | advanced before h w budget task runId tickId feedback ih =>
      exact lasting.advance valid h budget task runId tickId feedback w ih.1 ih.2 rfl
  | @replied m p before paused text ih =>
      have holds := lasting.replied text paused ih.1
      refine ⟨holds, fun q kept => ?_⟩
      have loaded := MemoryStore.load?_checkpoint m (p.replied text)
      rw [kept] at loaded
      cases loaded
      exact ⟨rfl, holds⟩
  | loaded before kept ih =>
      obtain ⟨owner, holds⟩ := ih.2 _ kept
      refine ⟨holds, fun q found => ?_⟩
      rw [owner] at found ⊢
      exact ih.2 q found
  | elsewhere before same ih =>
      rw [same]
      exact ih

end Tickwork
