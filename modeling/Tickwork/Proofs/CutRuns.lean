import Tickwork.Proofs.Determinism
import Tickwork.Proofs.Overlays
import Tickwork.Proofs.Sessions

/-!
# Runs that are cut

A run of a task may be cut into advances anywhere: by the budgets of the ticks, and by crashes right after
any write. Each advance goes on from what was written last. Main statement: if the cut run stops its task,
it appended the rows that one advance without an end to its budget appends, and it left the task in the
same state, but for the time since when it waits.
-/

set_option autoImplicit false

namespace Tickwork

variable {F W W' : Type}

/-- After every failed attempt that is followed by another one there is a delay to wait for. -/
def Graph.Waitable (g : Graph F) : Prop :=
  ∀ id handler routes policy attempt,
    g.state? id = some (.action handler routes (some policy)) → 1 ≤ attempt →
    (Engine.attemptLimit (some policy)).roomFrom attempt ≠ 0 →
    ∃ delay, policy.delaySeconds attempt = .ok delay

/-- A graph without retries has no delays to wait for. -/
theorem Graph.Waitable.of_untried {g : Graph F} (untried : ∀ id handler routes retry,
    g.state? id = some (.action handler routes retry) → retry = none) : g.Waitable := by
  intro id handler routes policy attempt found
  cases untried _ _ _ _ found

/-- A budget that lets every tick take a transition and no tick outrun its run. -/
structure Budget.Paced (budget : Budget) : Prop where
  moves : 1 ≤ budget.perTick
  within : budget.perTick ≤ budget.perRun

theorem Budget.clamped_paced {perTick perRun : Int} (within : perTick ≤ perRun) :
    (Budget.clamped perTick perRun).Paced := by
  constructor
  · simp only [Budget.clamped, Budget.tickCeiling]
    omega
  · simp only [Budget.clamped, Budget.tickCeiling]
    omega

/-- The states of a task that a store can come to hold: a new task is advanced by any hosts with any
callables, budgets and replies, and replies are kept for it while it waits. -/
inductive Reached (g : Graph F) (task : TaskInfo) : Progress → Prop
  | new (taskId workflowId : String) (context : Fields) :
      Reached g task (Progress.newTask taskId workflowId context)
  | advanced {W : Type} {h : Host F W} {view : W → MemoryStore} {p q : Progress}
      (before : Reached g task p) (keeps : h.Keeps view MemoryStore.keep) (w : W)
      (stored : (view w).load? p.taskId = some p) (budget : Budget) (runId : String)
      (tickId feedback : Option String)
      (kept : (view (Engine.advance h budget g task runId tickId feedback p w).2).load? p.taskId =
        some q) : Reached g task q
  | replied {p : Progress} (before : Reached g task p) (text : String) :
      Reached g task (p.replied text)

/-- The worlds that a cut run of a task comes to, from the progress `p` and the world `w`. Between two
advances the world may change as it likes, but for what is kept. -/
inductive CutRun (h : Host F W) (view : W → MemoryStore) (g : Graph F) (task : TaskInfo)
    (p : Progress) (w : W) : W → Prop
  | first (budget : Budget) (paced : budget.Paced) (runId : String) (tickId : Option String) :
      CutRun h view g task p w (Engine.advance h budget g task runId tickId none p w).2
  | next {u u' : W} {q : Progress} (before : CutRun h view g task p w u)
      (untouched : view u' = view u) (stored : (view u').load? p.taskId = some q)
      (running : q.lifecycle = .running) (budget : Budget) (paced : budget.Paced)
      (runId : String) (tickId : Option String) :
      CutRun h view g task p w (Engine.advance h budget g task runId tickId none q u').2

/-- What a run added to a store: rows of the given shapes, and the task in the given state, but for the
time since when it waits. -/
structure Adds (before after : MemoryStore) (taskId : String) (shapes : List Shape)
    (p : Progress) : Prop where
  rows : ∃ rows, after.rows = before.rows ++ rows ∧ rows.map Transition.shape = shapes
  kept : ∃ q, after.load? taskId = some q ∧ q.unwaited = p.unwaited

/-- An advance that paused or ended its task. -/
def Concludes : Except Fault Finish → Prop
  | .ok finish => finish.ending ≠ .budgetExhausted
  | .error fault => fault.isFatal = true

namespace Engine

variable {answers : Question F → Except Raised Value → Prop} {capped : Prop} {fr : Frame F}
variable {s after : Stance} {e : Entry} {entries : List Entry}

/-! ## What a walk without replies keeps -/

theorem Stance.observe_none {s : Stance} (silent : s.feedback = none) (o : Outcome) :
    (s.observe o).feedback = none := by
  simp [Stance.observe, silent]

theorem reacted_silent {id : String} {node : State F} {answer : Except Raised Value}
    (silent : s.feedback = none) : (reacted id s node answer).after.feedback = none := by
  cases node with
  | action handler routes retry =>
      unfold reacted actionReacted attempted judged
      simp only
      repeat' split
      all_goals first | exact silent | exact Stance.observe_none silent _
  | orchestrate routes handler selector =>
      unfold reacted handlerReacted selectorReacted
      simp only
      repeat' split
      all_goals first | exact silent | exact Stance.observe_none silent _
  | loop body bound routes stop =>
      unfold reacted loopReacted
      simp only
      repeat' split
      all_goals exact silent
  | feedback resume => exact silent
  | terminal status message => exact silent
  | unsupported v => exact silent

theorem Visit.silent {id : String} {node : State F} {j : Judgement Verdict}
    (visit : Visit answers fr s id node j) (silent : s.feedback = none) :
    j.after.feedback = none := by
  obtain ⟨q, answer, -, -, rfl⟩ := visit.answered
  exact reacted_silent silent

theorem Turn.silent (turn : Turn answers capped fr s e after) (silent : s.feedback = none) :
    after.feedback = none := by
  cases turn with
  | begin stands work idle => exact silent
  | halt stands => exact silent
  | rest stands resumes => exact silent
  | visit visit decided lands owner fits => exact visit.silent silent
  | fail doomed =>
      cases doomed with
      | missing absent => exact silent
      | spent transitions stands work cap => exact silent
      | unasked stands work running unresolved => exact silent
      | judged visit refused => exact visit.silent silent
      | unrouted visit decided astray => exact visit.silent silent

theorem Walk.silent (walk : Walk answers capped fr s entries after) (silent : s.feedback = none) :
    after.feedback = none := by
  induction walk with
  | refl s => exact silent
  | last turn => exact turn.silent silent
  | step turn running rest ih => exact ih (turn.silent silent)

theorem Turn.not_queued (turn : Turn answers capped fr s e after) :
    after.progress.lifecycle ≠ .queued := by
  cases turn with
  | begin stands work idle => exact nofun
  | @halt id status message stands => cases status <;> exact nofun
  | rest stands resumes => exact nofun
  | @visit id node j verdict now row p visit decided lands owner fits =>
      obtain ⟨q, answer, -, -, reaction⟩ := visit.answered
      have same : j.after.progress.SamePlace s.progress := reaction ▸ reacted_samePlace _ _ _ _
      have under : j.after.progress.lifecycle = .running := same.lifecycle.trans visit.running
      have onward : ∀ moved : Progress, moved.lifecycle = .running → moved.lifecycle ≠ .queued := by
        intro moved running queued
        rw [running] at queued
        cases queued
      obtain ⟨shape, looks⟩ : ∃ shape, row.shape = shape := ⟨_, rfl⟩
      rw [looks] at lands
      cases landing_of_landed lands with
      | again reason attempt => exact onward _ under
      | left leads found arrives =>
          cases arrives with
          | ended status message => cases status <;> exact nofun
          | paused resumes => exact nofun
          | onward work => exact onward _ under
  | fail doomed => exact nofun

/-- What a walk without replies keeps of where it stands. -/
structure Standing (g : Graph F) (s : Stance) : Prop where
  based : Fields.Over g.context s.progress.context
  silent : s.feedback = none
  placed : s.progress.lifecycle = .running → ∃ id, s.progress.currentStateId = some id
  counted : s.progress.Counted

theorem Turn.standing (turn : Turn answers capped fr s e after) (standing : Standing fr.graph s)
    (placed : ∃ id, s.progress.currentStateId = some id) : Standing fr.graph after :=
  ⟨turn.over standing.based, turn.silent standing.silent,
    fun running => turn.placed placed (alive_of_running running), turn.counted standing.counted⟩

theorem Walk.standing (walk : Walk answers capped fr s entries after)
    (standing : Standing fr.graph s) (placed : ∃ id, s.progress.currentStateId = some id) :
    Standing fr.graph after := by
  induction walk with
  | refl s => exact standing
  | last turn => exact turn.standing standing placed
  | step turn running rest ih =>
      exact ih (turn.standing standing placed) (turn.placed placed (alive_of_running running))

theorem Walk.not_queued (walk : Walk answers capped fr s entries after) (wrote : entries ≠ []) :
    after.progress.lifecycle ≠ .queued := by
  induction walk with
  | refl s => exact absurd rfl wrote
  | last turn => exact turn.not_queued
  | step turn running rest ih =>
      cases rest with
      | refl s => exact turn.not_queued
      | last next => exact ih (by simp)
      | step next under rest => exact ih (by simp)

/-- What is kept of a task after a walk: what was written last, if anything was. -/
theorem Walk.kept {g : Graph F} {p q : Progress} {reply : Option String} {m : MemoryStore}
    (walk : Walk answers capped fr ⟨prepare g p, reply⟩ entries after)
    (stored : m.load? p.taskId = some p)
    (kept : (keepAll MemoryStore.keep m entries).load? p.taskId = some q) :
    (entries = [] ∧ q = p) ∨ (entries ≠ [] ∧ q = after.progress) := by
  by_cases wrote : entries = []
  · subst wrote
    have same : some p = some q := stored.symm.trans kept
    exact .inl ⟨rfl, (Option.some.inj same).symm⟩
  · obtain ⟨last, atEnd⟩ : ∃ last, entries.getLast? = some last :=
      ⟨_, List.getLast?_eq_some_getLast wrote⟩
    obtain ⟨taskId, -, -, final⟩ := walk.owner
    have here := final last atEnd
    have loaded := MemoryStore.load?_keepAll m atEnd
    rw [here, taskId] at loaded
    have same : some after.progress = some q := loaded.symm.trans kept
    exact .inr ⟨wrote, (Option.some.inj same).symm⟩

theorem prepare_counted {g : Graph F} {p : Progress} (counted : p.Counted) :
    (prepare g p).Counted := counted

end Engine

open Engine

/-- Every state of a task that a store can come to hold has counted attempts and rounds. -/
theorem Reached.counted {g : Graph F} (valid : g.violations = []) {task : TaskInfo} {p : Progress}
    (reached : Reached g task p) : p.Counted := by
  induction reached with
  | new taskId workflowId context => exact ⟨nofun, nofun⟩
  | @advanced W h view p q before keeps w stored budget runId tickId feedback kept ih =>
      cases active : p.lifecycle.isTerminal with
      | true =>
          rw [advance_ended h budget g task runId tickId feedback w active] at kept
          have same : some p = some q := stored.symm.trans kept
          cases same
          exact ih
      | false =>
          have serves : Serves h (fun _ _ => True) view MemoryStore.keep :=
            ⟨keeps, fun _ _ => trivial⟩
          have cap : budget.perTick ≤ budget.perRun ∨ True := .inr trivial
          obtain ⟨tick, entries, s, walk, seen, -⟩ := advance_walks serves
            (Graph.fit_of_valid valid) budget task runId tickId feedback p w active cap
          rw [seen] at kept
          rcases walk.kept stored kept with ⟨-, rfl⟩ | ⟨-, rfl⟩
          · exact ih
          · exact walk.counted (prepare_counted ih)
  | replied before text ih => exact ih

/-! ## A cut run is one walk -/

namespace CutRun

variable {reply : F → Call → Answer} {h : Host F W} {view : W → MemoryStore} {g : Graph F}
variable {task : TaskInfo} {p : Progress} {w u : W}

/-- What one advance of the run adds to the walk. -/
theorem leg (task : TaskInfo) (valid : g.violations = []) (keeps : h.Keeps view MemoryStore.keep)
    (follows : h.behaviour.Follows reply) (budget : Budget) (paced : budget.Paced) (runId : String)
    (tickId : Option String) (q : Progress) (w : W) (active : q.lifecycle.isTerminal = false) :
    ∃ entries s, Walk (answersBy reply) False ⟨g, task, "", ""⟩ ⟨prepare g q, none⟩ entries s ∧
      view (advance h budget g task runId tickId none q w).2 =
        keepAll MemoryStore.keep (view w) entries ∧
      (entries ≠ [] ∨ q.lifecycle = .running) := by
  have serves := serves_answersBy keeps follows
  have cap : budget.perTick ≤ budget.perRun ∨ False := .inl paced.within
  obtain ⟨tick, entries, s, walk, seen, ending⟩ := advance_walks serves
    (Graph.fit_of_valid valid) budget task runId tickId none q w active cap
  have unanswered : acceptedReply q none = none := by simp [acceptedReply]
  rw [unanswered] at walk
  refine ⟨entries, s, walk.rename "" "", seen, ?_⟩
  have under : entries = [] → s.progress.lifecycle = .running → q.lifecycle = .running := by
    rintro rfl running
    cases walk
    exact running
  by_cases wrote : entries = []
  · right
    generalize (advance h budget g task runId tickId none q w).1 = result at ending
    cases ending with
    | stopped wrote' halted ending events pages => exact absurd wrote wrote'
    | spent more count ahead work ending events pages =>
        have none_moved : budget.perTick = 0 := by
          rw [← count, wrote]
          rfl
        have moves := paced.moves
        omega
    | failed wrote' lifecycle error placed => exact absurd wrote wrote'
    | escaped calm escape =>
        cases escape with
        | broke wrote' weak => exact absurd wrote wrote'
        | overlong wrote' found counted within tooLong => exact absurd wrote wrote'
        | jammed visit broken => exact under wrote visit.running
        | unlanded visit decided lost => exact under wrote visit.running
        | refused visit decided lands owner unfit => exact under wrote visit.running
  · exact .inl wrote

/-- The writes of a cut run, in order, are one walk from where the run started. -/
theorem walk (valid : g.violations = []) (distinct : g.context.Distinct) (counted : p.Counted)
    (keeps : h.Keeps view MemoryStore.keep) (follows : h.behaviour.Follows reply)
    (active : p.lifecycle.isTerminal = false) (stored : (view w).load? p.taskId = some p)
    (cut : CutRun h view g task p w u) :
    ∃ entries s, Walk (answersBy reply) False ⟨g, task, "", ""⟩ ⟨prepare g p, none⟩ entries s ∧
      view u = keepAll MemoryStore.keep (view w) entries ∧
      (entries ≠ [] ∨ p.lifecycle = .running) := by
  have standing : Standing g ⟨prepare g p, none⟩ :=
    ⟨prepare_over distinct p, rfl, fun _ => ⟨_, rfl⟩, prepare_counted counted⟩
  induction cut with
  | first budget paced runId tickId =>
      exact leg task valid keeps follows budget paced runId tickId p w active
  | @next u u' q before untouched kept running budget paced runId tickId ih =>
      obtain ⟨first, middle, front, seen, wrote⟩ := ih
      have active' : q.lifecycle.isTerminal = false := by
        rw [running]
        rfl
      obtain ⟨second, last, back, seen', -⟩ :=
        leg task valid keeps follows budget paced runId tickId q u' active'
      rw [untouched, seen] at kept seen'
      rw [← keepAll_append] at seen'
      rcases front.kept stored kept with ⟨rfl, rfl⟩ | ⟨more, rfl⟩
      · exact ⟨second, last, back, seen', .inr running⟩
      · have here := front.standing standing ⟨_, rfl⟩
        obtain ⟨id, current⟩ := here.placed running
        have prepared : prepare g middle.progress = middle.progress :=
          prepare_of_over here.based current
        have stance : (⟨prepare g middle.progress, none⟩ : Stance) = middle := by
          rw [prepared, ← here.silent]
        rw [stance] at back
        exact ⟨first ++ second, last, front.of_running running back, seen', .inl (by simp [more])⟩

end CutRun

/-! ## The reference run -/

namespace Engine

section Reference

variable {reply : F → Call → Answer} {fr : Frame F} {s after : Stance} {e : Entry}
variable {h : Host F W}

theorem Turn.fits (turn : Turn (answersBy reply) False fr s e after) {row : Transition}
    (written : e.row = some row) : row.check = .ok () := by
  cases turn with
  | begin stands work idle => cases written
  | halt stands => cases written
  | rest stands resumes => cases written
  | visit visit decided lands owner fits =>
      cases written
      exact fits
  | fail doomed => cases written

theorem Escape.no_turn {entries : List Entry} {fault : Fault} {p : Progress}
    (escape : Escape (answersBy reply) h fr entries s fault p) (calm : fault.isFatal = false)
    (sturdy : h.Sturdy) (waitable : fr.graph.Waitable) (counted : s.progress.Counted)
    (turn : Turn (answersBy reply) False fr s e after) : False := by
  have seen := turn.foreseen
  cases escape with
  | broke wrote weak => exact weak sturdy
  | @overlong id handler routes policy attempt _ wrote found reckoned within tooLong =>
      have positive : 1 ≤ attempt := counted.1 (id, attempt) (Graph.mem_of_lookup reckoned)
      obtain ⟨delay, waits⟩ := waitable id handler routes policy attempt found positive within
      rw [waits] at tooLong
      cases tooLong
  | jammed visit broken =>
      rw [foreseen_of_visit visit] at seen
      unfold foreseenFrom at seen
      rw [broken] at seen
      cases fault with
      | fatal cause taskId => cases calm
      | _ => cases seen
  | unlanded visit decided lost =>
      rw [foreseen_of_visit visit] at seen
      unfold foreseenFrom at seen
      rw [decided] at seen
      simp only [landed_error_now lost ⟨0⟩] at seen
      cases fault with
      | fatal cause taskId => cases calm
      | _ => cases seen
  | @refused id node j verdict now _ row q visit decided lands owner unfit =>
      obtain ⟨q', lands', same⟩ := landed_unwaited lands ⟨0⟩
      rw [foreseen_of_visit visit] at seen
      unfold foreseenFrom at seen
      rw [decided] at seen
      simp only [lands'] at seen
      have traced := congrArg Prod.fst (Option.some.inj seen)
      have shaped : some row.shape = e.row.map Transition.shape := congrArg Trace.row traced
      cases written : e.row with
      | none =>
          rw [written] at shaped
          cases shaped
      | some row' =>
          rw [written] at shaped
          have fits := Transition.check_of_shape (Option.some.inj shaped) (turn.fits written)
          rw [fits] at unfit
          cases unfit

end Reference

section Escapes

variable {answers : Question F → Except Raised Value → Prop} {h : Host F W} {fr : Frame F}
variable {entries : List Entry} {s : Stance} {fault : Fault} {p : Progress}

/-- No fault escapes from a sound graph over a sturdy store, if there is no delay that is too long. -/
theorem Escape.impossible (escape : Escape answers h fr entries s fault p) (sound : fr.graph.Sound)
    (sturdy : h.Sturdy) (waitable : fr.graph.Waitable) (counted : s.progress.Counted)
    (calm : fault.isFatal = false) : False := by
  cases escape with
  | broke wrote weak => exact weak sturdy
  | @overlong id handler routes policy attempt _ wrote found reckoned within tooLong =>
      have positive : 1 ≤ attempt := counted.1 (id, attempt) (Graph.mem_of_lookup reckoned)
      obtain ⟨delay, waits⟩ := waitable id handler routes policy attempt found positive within
      rw [waits] at tooLong
      cases tooLong
  | jammed visit broken =>
      obtain ⟨q, answer, -, -, rfl⟩ := visit.answered
      rw [reacted_error sound.valid visit.stands.2 broken] at calm
      cases calm
  | unlanded visit decided lost =>
      rw [landed_error lost] at calm
      cases calm
  | refused visit decided lands owner unfit =>
      obtain ⟨q, answer, -, -, rfl⟩ := visit.answered
      have fits := check_of_landed sound visit.stands.2 (reacted_sane counted decided) lands
      rw [fits] at unfit
      cases unfit

end Escapes

end Engine

theorem Ending.ofLifecycle_ne {l : Lifecycle} (halted : l ≠ .running) (started : l ≠ .queued) :
    Ending.ofLifecycle l ≠ .budgetExhausted := by
  cases l with
  | running => exact absurd rfl halted
  | queued => exact absurd rfl started
  | _ => exact nofun

theorem shapes_of_traces (entries : List Entry) :
    (rowsOf entries).map Transition.shape = (entries.map Entry.trace).filterMap Trace.row := by
  induction entries with
  | nil => rfl
  | cons e rest ih =>
      cases written : e.row with
      | none => simpa [rowsOf, written, Entry.trace] using ih
      | some row => simpa [rowsOf, written, Entry.trace] using ih

/-- What a walk that wrote something adds to the store. -/
theorem adds_of_walk {answers : Question F → Except Raised Value → Prop} {fr : Frame F}
    {g : Graph F} {p : Progress} {reply : Option String} {m m' : MemoryStore}
    {entries : List Entry} {s : Stance} {shapes : List Shape} {q : Progress}
    (walk : Walk answers False fr ⟨prepare g p, reply⟩ entries s) (wrote : entries ≠ [])
    (seen : m' = keepAll MemoryStore.keep m entries)
    (traced : (entries.map Entry.trace).filterMap Trace.row = shapes)
    (final : s.progress.unwaited = q.unwaited) : Adds m m' p.taskId shapes q := by
  subst seen
  refine ⟨⟨rowsOf entries, MemoryStore.rows_keepAll m entries, ?_⟩, s.progress, ?_, final⟩
  · rw [shapes_of_traces, traced]
  · obtain ⟨last, atEnd⟩ : ∃ last, entries.getLast? = some last :=
      ⟨_, List.getLast?_eq_some_getLast wrote⟩
    obtain ⟨taskId, -, -, same⟩ := walk.owner
    have loaded := MemoryStore.load?_keepAll m atEnd
    rw [same last atEnd, taskId] at loaded
    exact loaded

theorem Graph.violations_of_accepted {g : Graph F} (accepted : g.ensureValid = .ok g) :
    g.violations = [] := by
  unfold Graph.ensureValid Graph.examined at accepted
  cases ordered : g.ensureOrdered with
  | error fault =>
      rw [ordered] at accepted
      cases accepted
  | ok _ =>
      rw [ordered] at accepted
      cases found : g.violations with
      | nil => rfl
      | cons first rest =>
          simp only [found, bind, Except.bind] at accepted
          cases accepted

section Main

variable {reply : F → Call → Answer} {h' : Host F W'} {view' : W' → MemoryStore} {g : Graph F}
variable {task : TaskInfo} {p : Progress} {w' : W'}

/-- An advance of a host that does not break down, with a budget longer than a walk that stopped the
task, is that walk once more. -/
theorem advance_matches {entries : List Entry} {s : Stance} (valid : g.violations = [])
    (waitable : g.Waitable) (standing : Standing g ⟨prepare g p, none⟩)
    (keeps : h'.Keeps view' MemoryStore.keep) (follows : h'.behaviour.Follows reply)
    (sturdy : h'.Sturdy) (active : p.lifecycle.isTerminal = false)
    (walk : Walk (answersBy reply) False ⟨g, task, "", ""⟩ ⟨prepare g p, none⟩ entries s)
    (wrote : entries ≠ []) (halted : s.progress.lifecycle ≠ .running) (ticks perRun : Nat)
    (enough : entries.length ≤ ticks) (paced : ticks ≤ perRun) (runId : String)
    (tickId : Option String) :
    Concludes (advance h' ⟨ticks, perRun⟩ g task runId tickId none p w').1.1 ∧
      Adds (view' w') (view' (advance h' ⟨ticks, perRun⟩ g task runId tickId none p w').2) p.taskId
        ((entries.map Entry.trace).filterMap Trace.row) s.progress := by
  have serves := serves_answersBy keeps follows
  have cap : (⟨ticks, perRun⟩ : Budget).perTick ≤ (⟨ticks, perRun⟩ : Budget).perRun ∨ False :=
    .inl paced
  obtain ⟨tick, entries', s', walk', seen, ending⟩ := advance_walks serves
    (Graph.fit_of_valid valid) ⟨ticks, perRun⟩ task runId tickId none p w' active cap
  have unanswered : acceptedReply p none = none := by simp [acceptedReply]
  rw [unanswered] at walk'
  generalize advance h' ⟨ticks, perRun⟩ g task runId tickId none p w' = r at seen ending ⊢
  obtain ⟨result, world⟩ := r
  rcases (walk.rename runId tick).compare walk' wrote halted with
    ⟨traces, final⟩ | ⟨shorter, more, e, next, turn⟩
  · have wrote' : entries' ≠ [] := by
      rintro rfl
      have no_traces : entries.map Entry.trace = [] := traces.symm
      exact wrote (List.map_eq_nil_iff.mp no_traces)
    have halted' : s'.progress.lifecycle ≠ .running := by
      have stage := congrArg Progress.lifecycle final
      exact fun running => halted (stage.symm.trans running)
    refine ⟨?_, adds_of_walk walk' wrote' seen (by rw [traces]) final⟩
    cases ending with
    | stopped _ _ ending events pages =>
        have told : Ending.ofLifecycle s'.progress.lifecycle ≠ .budgetExhausted :=
          Ending.ofLifecycle_ne halted' (walk'.not_queued wrote')
        rw [← ending] at told
        exact told
    | spent more count ahead work ending events pages =>
        rcases more with running | empty
        · exact absurd running halted'
        · exact absurd empty wrote'
    | failed _ lifecycle error placed => rfl
    | escaped calm escape =>
        cases escape with
        | broke _ weak => exact absurd sturdy weak
        | @overlong id handler routes policy attempt _ _ found reckoned within tooLong =>
            have counted := walk'.counted standing.counted
            have positive : 1 ≤ attempt := counted.1 (id, attempt) (Graph.mem_of_lookup reckoned)
            obtain ⟨delay, waits⟩ := waitable id handler routes policy attempt found positive within
            rw [waits] at tooLong
            cases tooLong
        | jammed visit broken => exact absurd visit.running halted'
        | unlanded visit decided lost => exact absurd visit.running halted'
        | refused visit decided lands owner unfit => exact absurd visit.running halted'
  · -- the reference run has a turn left, so that nothing can have ended it
    exfalso
    cases ending with
    | stopped wrote' halted' ending events pages =>
        rcases more with running | empty
        · exact halted' running
        · exact wrote' empty
    | spent _ count ahead work ending events pages =>
        have bounded : entries'.countP Entry.moves ≤ entries'.length := List.countP_le_length
        have spent : entries'.countP Entry.moves = ticks := count
        omega
    | failed wrote' lifecycle error placed =>
        rcases more with running | empty
        · rw [lifecycle] at running
          cases running
        · exact wrote' empty
    | escaped calm escape =>
        exact escape.no_turn calm sturdy waitable (walk'.counted standing.counted) turn

variable {h : Host F W} {view : W → MemoryStore} {w u : W}

theorem CutRun.untouched (ended : p.lifecycle.isTerminal = true)
    (stored : (view w).load? p.taskId = some p) (cut : CutRun h view g task p w u) :
    view u = view w := by
  induction cut with
  | first budget paced runId tickId =>
      rw [advance_ended h budget g task runId tickId none w ended]
  | @next u u' q before untouched kept running budget paced runId tickId ih =>
      rw [untouched, ih] at kept
      have same : some p = some q := stored.symm.trans kept
      cases same
      rw [running] at ended
      cases ended

/-- However a run is cut into advances, by the budgets of ticks or by crashes after any write: once it
has paused, ended or given up its task, it has appended the rows of one run without a budget, and the
task is kept as that run keeps it, but for the time since when it waits. -/
theorem cut_run_adds_the_same (accepted : g.ensureValid = .ok g) (distinct : g.context.Distinct)
    (waitable : g.Waitable) (reached : Reached g task p)
    (keeps : h.Keeps view MemoryStore.keep) (follows : h.behaviour.Follows reply)
    (keeps' : h'.Keeps view' MemoryStore.keep) (follows' : h'.behaviour.Follows reply)
    (sturdy' : h'.Sturdy) (stored : (view w).load? p.taskId = some p)
    (stored' : (view' w').load? p.taskId = some p) (cut : CutRun h view g task p w u)
    {q : Progress} (final : (view u).load? p.taskId = some q) (halted : q.lifecycle ≠ .running) :
    ∃ shapes enough, Adds (view w) (view u) p.taskId shapes q ∧
      ∀ ticks perRun runId tickId, enough ≤ ticks → ticks ≤ perRun →
        Concludes (advance h' ⟨ticks, perRun⟩ g task runId tickId none p w').1.1 ∧
        Adds (view' w') (view' (advance h' ⟨ticks, perRun⟩ g task runId tickId none p w').2)
          p.taskId shapes q := by
  have valid := Graph.violations_of_accepted accepted
  have counted := reached.counted valid
  cases active : p.lifecycle.isTerminal with
  | true =>
      have still := cut.untouched active stored
      rw [still] at final
      have same : some p = some q := stored.symm.trans final
      cases same
      refine ⟨[], 0, ⟨⟨[], by simp [still], rfl⟩, p, by rw [still, stored], rfl⟩, ?_⟩
      intro ticks perRun runId tickId _ _
      rw [advance_ended h' ⟨ticks, perRun⟩ g task runId tickId none w' active]
      refine ⟨?_, ⟨⟨[], by simp, rfl⟩, p, stored', rfl⟩⟩
      have started : p.lifecycle ≠ .queued := by
        intro queued
        rw [queued] at active
        cases active
      exact Ending.ofLifecycle_ne halted started
  | false =>
      obtain ⟨entries, s, walk, seen, wrote⟩ :=
        cut.walk valid distinct counted keeps follows active stored
      rw [seen] at final
      rcases walk.kept stored final with ⟨empty, rfl⟩ | ⟨wrote, rfl⟩
      · exact absurd (wrote.resolve_left fun some_left => some_left empty) halted
      · have standing : Standing g ⟨prepare g p, none⟩ :=
          ⟨prepare_over distinct p, rfl, fun _ => ⟨_, rfl⟩, prepare_counted counted⟩
        refine ⟨(entries.map Entry.trace).filterMap Trace.row, entries.length,
          adds_of_walk walk wrote seen rfl rfl, ?_⟩
        intro ticks perRun runId tickId enough paced
        exact advance_matches valid waitable standing keeps' follows' sturdy' active walk wrote halted
          ticks perRun enough paced runId tickId

end Main

/-! ## A store that breaks down -/

/-- A host that writes to a store in memory, which breaks down right after some of the writes. -/
def Host.frail (h : Host F W) (breaks : W × MemoryStore → Bool) : Host F (W × MemoryStore) :=
  { h.overMemory with
    checkpoint p := ExceptT.mk fun world =>
      let written := (world.1, world.2.checkpoint p)
      (if breaks written then .error (.raised .runtime "") else .ok (), written)
    record t p := ExceptT.mk fun world =>
      match world.2.record t p with
      | .ok m => (if breaks (world.1, m) then .error (.raised .runtime "") else .ok (), (world.1, m))
      | .error fault => (.error fault, world) }

section Frail

variable (h : Host F W) (breaks : W × MemoryStore → Bool)

theorem Host.frail_record (t : Transition) (p : Progress) (world : W × MemoryStore) :
    ((h.frail breaks).record t p).run world =
      match world.2.record t p with
      | .ok m => (if breaks (world.1, m) then .error (.raised .runtime "") else .ok (), (world.1, m))
      | .error fault => (.error fault, world) := rfl

theorem Host.frail_keeps : (h.frail breaks).Keeps Prod.snd MemoryStore.keep where
  behaviour _ _ _ := rfl
  now _ := rfl
  freshEventId _ := rfl
  freshTickId _ := rfl
  sleep _ _ := rfl
  checkpoint _ _ := rfl
  checkpoint_calm p world fault broken := by
    have broke : (if breaks (world.1, world.2.checkpoint p) then
        Except.error (Fault.raised .runtime "") else .ok ()) = .error fault := broken
    split at broke <;> cases broke
    rfl
  record t p world fits := by
    rw [frail_record, MemoryStore.record_eq_keep p fits]
  record_calm t p world fault fits broken := by
    rw [frail_record, MemoryStore.record_eq_keep p fits] at broken
    simp only at broken
    split at broken <;> cases broken
    rfl
  refuse t p world fault unfit := by
    rw [frail_record, MemoryStore.record_refused p unfit]
    exact ⟨rfl, rfl⟩

theorem Host.frail_follows {reply : F → Call → Answer} (follows : h.behaviour.Follows reply) :
    (h.frail breaks).behaviour.Follows reply :=
  fun f call world => follows f call world.1

theorem Host.overMemory_follows {reply : F → Call → Answer} (follows : h.behaviour.Follows reply) :
    h.overMemory.behaviour.Follows reply :=
  fun f call world => follows f call world.1

end Frail

/-- A graph with one action, which is tried twice. -/
def twoTries : Graph Unit where
  id := "demo"
  start := "work"
  context := []
  states :=
    [("work", .action (.slot (.code () .whole)) ⟨some "finish", some "finish", none⟩
        (some ⟨.int 1, .null, some ⟨.int 250, .fixed, .null⟩⟩)),
      ("finish", .terminal .done none)]
  guards := []
  handlers := []

/-- A callable that fails on the first attempt. -/
def failsFirst (_ : Unit) : Call → Answer
  | .handler input =>
    ⟨.ok (plainReport (if input.attempt = 1 then "failed" else "done")), input.context⟩
  | call => ⟨.ok .null, call.context⟩

/-- A host with that callable. -/
def failingHost : Host Unit Unit where
  behaviour f call := pure (failsFirst f call)
  now := pure ⟨0⟩
  freshEventId := pure "row"
  freshTickId := pure "tick"
  sleep _ := pure ()
  checkpoint _ := pure ()
  record _ _ := pure ()

/-- A store that breaks down after every write until it holds two rows. -/
def frailHost : Host Unit (Unit × MemoryStore) :=
  failingHost.frail fun world => decide (world.2.rows.length < 2)

def registered : Unit × MemoryStore :=
  ((), MemoryStore.empty.checkpoint (.newTask "t1" "demo" []))

def frailAdvance (p : Progress) (world : Unit × MemoryStore) :
    (Except Fault Finish × Progress) × (Unit × MemoryStore) :=
  Engine.advance frailHost ⟨1, 1⟩ twoTries ⟨"t1", none, none, none⟩ "run" none none p world

/-- The advance that breaks down once the task is under way. -/
def firstBreak : (Except Fault Finish × Progress) × (Unit × MemoryStore) :=
  frailAdvance (.newTask "t1" "demo" []) registered

def secondBreak : (Except Fault Finish × Progress) × (Unit × MemoryStore) :=
  frailAdvance firstBreak.1.2 firstBreak.2

def lastLeg : (Except Fault Finish × Progress) × (Unit × MemoryStore) :=
  frailAdvance secondBreak.1.2 secondBreak.2

theorem twoTries_accepted : twoTries.ensureValid = .ok twoTries := by
  have ordered : twoTries.ensureOrdered = .ok () := by
    simp [twoTries, Graph.ensureOrdered, Backoff.ensureOrdered, Value.isLess, bind, Except.bind]
    rfl
  have unbroken : twoTries.violations = [] := by decide +kernel
  simp only [Graph.ensureValid, Graph.examined, ordered, unbroken, bind, Except.bind]

theorem twoTries_waitable : twoTries.Waitable := by
  intro id handler routes policy attempt found positive within
  have there := Graph.mem_of_state? found
  simp only [twoTries, List.mem_cons, Prod.mk.injEq, List.not_mem_nil, or_false] at there
  rcases there with ⟨-, same⟩ | ⟨-, same⟩
  · cases same
    exact ⟨_, rfl⟩
  · cases same

/-- The task breaks down twice, and yet its three advances add what one advance adds. -/
theorem cut_run_adds_the_same_twoTries :
    ∃ shapes enough, Adds registered.2 lastLeg.2.2 "t1" shapes lastLeg.1.2 ∧
      ∀ ticks perRun runId tickId, enough ≤ ticks → ticks ≤ perRun →
        Concludes (advance failingHost.overMemory ⟨ticks, perRun⟩ twoTries ⟨"t1", none, none, none⟩
          runId tickId none (.newTask "t1" "demo" []) registered).1.1 ∧
        Adds registered.2 (advance failingHost.overMemory ⟨ticks, perRun⟩ twoTries
          ⟨"t1", none, none, none⟩ runId tickId none (.newTask "t1" "demo" []) registered).2.2 "t1"
          shapes lastLeg.1.2 := by
  have follows : failingHost.behaviour.Follows failsFirst := by
    intro f call world
    cases call <;> rfl
  have reached : Reached twoTries ⟨"t1", none, none, none⟩ (.newTask "t1" "demo" []) :=
    .new "t1" "demo" []
  have paced : Budget.Paced ⟨1, 1⟩ := ⟨by decide, by decide⟩
  have once : CutRun frailHost Prod.snd twoTries ⟨"t1", none, none, none⟩ (.newTask "t1" "demo" [])
      registered firstBreak.2 := .first ⟨1, 1⟩ paced "run" none
  have twice : CutRun frailHost Prod.snd twoTries ⟨"t1", none, none, none⟩ (.newTask "t1" "demo" [])
      registered secondBreak.2 :=
    .next once rfl (by decide +kernel) (by decide +kernel) ⟨1, 1⟩ paced "run" none
  have whole : CutRun frailHost Prod.snd twoTries ⟨"t1", none, none, none⟩ (.newTask "t1" "demo" [])
      registered lastLeg.2 :=
    .next twice rfl (by decide +kernel) (by decide +kernel) ⟨1, 1⟩ paced "run" none
  have distinct : twoTries.context.Distinct := List.Pairwise.nil
  exact cut_run_adds_the_same twoTries_accepted distinct twoTries_waitable reached
    (failingHost.frail_keeps _) (failingHost.frail_follows _ follows) failingHost.overMemory_keeps
    (failingHost.overMemory_follows follows) failingHost.overMemory_sturdy rfl rfl whole
    (by decide +kernel) (by decide +kernel)

end Tickwork
