import Tickwork.Proofs.CutRuns
import Tickwork.Proofs.Replies.Abreast

/-!
# Two ways of delivering a reply

A paused task gets its reply in one of two ways: the reply is handed to an advance, or it is kept in the
context of the task, which then is under way again and is advanced without one. Main statement: with
callables that look at a reply only where they parse it, both ways add the same rows and leave the task at
the same place, advance after advance. The one exception is a reply that is still unread when the advance
which it was handed to comes back with the task under way: kept in the context it would be read later on,
handed over it is gone.
-/

set_option autoImplicit false

namespace Tickwork

variable {F W M : Type}

/-- A host whose callables look at replies only where they parse them. They may have a state of their own,
which nothing else touches. -/
structure Host.Discreet (h : Host F W) (mind : W → M) : Prop where
  callables : h.behaviour.Discreet fun w w' => mind w = mind w'
  now : ∀ w, mind (h.now w).2 = mind w
  freshEventId : ∀ w, mind (h.freshEventId w).2 = mind w
  freshTickId : ∀ w, mind (h.freshTickId w).2 = mind w
  sleep : ∀ delay w, mind (h.sleep delay w).2 = mind w
  checkpoint : ∀ p w, mind ((h.checkpoint p).run w).2 = mind w
  record : ∀ t p w, mind ((h.record t p).run w).2 = mind w

/-- Two ledgers that have taken rows of the same shapes since they were `before` and `before'`. -/
def SameRows (before before' after after' : MemoryStore) : Prop :=
  ∃ rows rows', after.rows = before.rows ++ rows ∧ after'.rows = before'.rows ++ rows' ∧
    rows.map Transition.shape = rows'.map Transition.shape

/-- A store keeps a task, and another one keeps it beside. -/
def KeptBeside (reply : Option String) (taskId : String) (m m' : MemoryStore) : Prop :=
  ∃ q q', m.load? taskId = some q ∧ m'.load? taskId = some q' ∧ q.Beside reply q'

/-- Two worlds whose callables are of one mind and whose ledgers have taken the same rows. -/
structure Apace (view : W → MemoryStore) (mind : W → M) (before before' : MemoryStore)
    (w w' : W) : Prop where
  mind : mind w = mind w'
  rows : SameRows before before' (view w) (view w')

/-- Two such worlds in which a task is kept beside, unless its state in the second one is still `fresh`. -/
structure Level (view : W → MemoryStore) (mind : W → M) (before before' : MemoryStore)
    (taskId : String) (reply : Option String) (fresh : Option Progress → Prop) (w w' : W) : Prop where
  apace : Apace view mind before before' w w'
  task : fresh ((view w').load? taskId) ∨ KeptBeside reply taskId (view w) (view w')

/-- Two such worlds before the second one has written anything. -/
structure Eve (view : W → MemoryStore) (mind : W → M) (before before' : MemoryStore)
    (taskId : String) (fresh : Option Progress → Prop) (w w' : W) : Prop where
  apace : Apace view mind before before' w w'
  task : fresh ((view w').load? taskId)

section Worlds

variable {view : W → MemoryStore} {mind : W → M} {before before' : MemoryStore} {taskId : String}
variable {reply : Option String} {fresh : Option Progress → Prop} {u u' w w' : W}

theorem Apace.congr (apace : Apace view mind before before' w w') (seen : view u = view w)
    (seen' : view u' = view w') (minds : mind u = mind w) (minds' : mind u' = mind w') :
    Apace view mind before before' u u' := by
  refine ⟨minds.trans (apace.mind.trans minds'.symm), ?_⟩
  rw [seen, seen']
  exact apace.rows

theorem Level.congr (level : Level view mind before before' taskId reply fresh w w')
    (seen : view u = view w) (seen' : view u' = view w') (minds : mind u = mind w)
    (minds' : mind u' = mind w') : Level view mind before before' taskId reply fresh u u' := by
  refine ⟨level.apace.congr seen seen' minds minds', ?_⟩
  rw [seen, seen']
  exact level.task

theorem Eve.congr (eve : Eve view mind before before' taskId fresh w w')
    (seen : view u = view w) (seen' : view u' = view w') (minds : mind u = mind w)
    (minds' : mind u' = mind w') : Eve view mind before before' taskId fresh u u' := by
  refine ⟨eve.apace.congr seen seen' minds minds', ?_⟩
  rw [seen']
  exact eve.task

theorem Eve.level (eve : Eve view mind before before' taskId fresh w w') :
    Level view mind before before' taskId reply fresh w w' :=
  ⟨eve.apace, .inl eve.task⟩

/-! ## What is written in both worlds -/

namespace MemoryStore

theorem load?_checkpoint_other (m : MemoryStore) {p : Progress} (apart : taskId ≠ p.taskId) :
    (m.checkpoint p).load? taskId = m.load? taskId :=
  Engine.lookup_put_ne apart p m.states

end MemoryStore

theorem SameRows.snoc {m m' : MemoryStore} (same : SameRows before before' m m') {row row' : Transition}
    (looks : row.shape = row'.shape) (p p' : Progress) :
    SameRows before before' (m.keep (some row) p) (m'.keep (some row') p') := by
  obtain ⟨rows, rows', grown, grown', shapes⟩ := same
  refine ⟨rows ++ [row], rows' ++ [row'], ?_, ?_, by simp [shapes, looks]⟩
  · simp [MemoryStore.keep, MemoryStore.checkpoint, grown]
  · simp [MemoryStore.keep, MemoryStore.checkpoint, grown']

/-- Two tasks that are kept beside stay so when both are written, whichever tasks they are. -/
theorem task_kept {m m' n n' : MemoryStore} {p p' : Progress} (beside : p.Beside reply p')
    (states : n.states = (m.checkpoint p).states) (states' : n'.states = (m'.checkpoint p').states)
    (task : fresh (m'.load? taskId) ∨ KeptBeside reply taskId m m') :
    fresh (n'.load? taskId) ∨ KeptBeside reply taskId n n' := by
  have same : p.taskId = p'.taskId := (congrArg Progress.taskId beside.core :)
  have load : n.load? taskId = (m.checkpoint p).load? taskId := by
    unfold MemoryStore.load?
    rw [states]
  have load' : n'.load? taskId = (m'.checkpoint p').load? taskId := by
    unfold MemoryStore.load?
    rw [states']
  by_cases own : taskId = p.taskId
  · subst own
    refine .inr ⟨p, p', load.trans (MemoryStore.load?_checkpoint m p), load'.trans ?_, beside⟩
    rw [same]
    exact MemoryStore.load?_checkpoint m' p'
  · have own' : taskId ≠ p'.taskId := by rwa [← same]
    rw [MemoryStore.load?_checkpoint_other m own] at load
    rw [MemoryStore.load?_checkpoint_other m' own'] at load'
    unfold KeptBeside
    rw [load, load']
    exact task

theorem Host.Discreet.pairs {h : Host F W} (discreet : h.Discreet mind)
    (keeps : h.Keeps view MemoryStore.keep) (sturdy : h.Sturdy)
    (words : ∀ text ∈ reply, Text.isBlankText text = false)
    (before before' : MemoryStore) (taskId : String) (fresh : Option Progress → Prop) :
    h.Pairs reply (Level view mind before before' taskId reply fresh)
      (Eve view mind before before' taskId fresh) where
  words := words
  discreet :=
    { value f call call' w w' same level := discreet.callables.value f call call' w w' same level.apace.mind
      others f call call' w w' same level :=
        discreet.callables.others f call call' w w' same level.apace.mind
      reply := discreet.callables.reply
      world f call call' w w' same level := by
        have mind' := discreet.callables.world f call call' w w' same level.apace.mind
        refine ⟨⟨mind', ?_⟩, ?_⟩
        · rw [keeps.behaviour, keeps.behaviour]
          exact level.apace.rows
        · rw [keeps.behaviour, keeps.behaviour]
          exact level.task }
  now w w' level := level.congr (keeps.now w) (keeps.now w') (discreet.now w) (discreet.now w')
  freshEventId w w' level :=
    level.congr (keeps.freshEventId w) (keeps.freshEventId w') (discreet.freshEventId w)
      (discreet.freshEventId w')
  sleep delay w w' level :=
    level.congr (keeps.sleep delay w) (keeps.sleep delay w') (discreet.sleep delay w)
      (discreet.sleep delay w')
  sturdy := sturdy
  checkpoint p p' w w' beside level := by
    have seen := keeps.checkpoint p w
    have seen' := keeps.checkpoint p' w'
    refine ⟨⟨?_, ?_⟩, ?_⟩
    · rw [discreet.checkpoint, discreet.checkpoint]
      exact level.apace.mind
    · rw [seen, seen']
      exact level.apace.rows
    · rw [seen, seen']
      exact task_kept beside rfl rfl level.task
  begin p w w' eve := by
    have seen := keeps.checkpoint p w
    refine ⟨⟨?_, ?_⟩, .inl eve.task⟩
    · rw [discreet.checkpoint]
      exact eve.apace.mind
    · rw [seen]
      exact eve.apace.rows
  record t t' p p' w w' looks beside level := by
    have mind' : mind ((h.record t p).run w).2 = mind ((h.record t' p').run w').2 := by
      rw [discreet.record, discreet.record]
      exact level.apace.mind
    cases checked : t.check with
    | ok _ =>
        have seen := keeps.record t p w checked
        have seen' := keeps.record t' p' w' (Transition.check_of_shape looks.symm checked)
        refine ⟨⟨mind', ?_⟩, ?_⟩
        · rw [seen, seen']
          exact level.apace.rows.snoc looks p p'
        · rw [seen, seen']
          exact task_kept beside rfl rfl level.task
    | error fault =>
        cases checked' : t'.check with
        | ok _ =>
            rw [Transition.check_of_shape looks checked'] at checked
            cases checked
        | error fault' =>
            have seen := (keeps.refuse t p w fault checked).2
            have seen' := (keeps.refuse t' p' w' fault' checked').2
            exact level.congr seen seen' (discreet.record t p w) (discreet.record t' p' w')
  refuse t p w fault unfit := (keeps.refuse t p w fault unfit).1

end Worlds

/-! ## Advances -/

/-- One advance of a task: its budget and the names that it is given. -/
structure Leg where
  budget : Budget
  runId : String
  tickId : Option String

/-- The world after one advance. -/
def Leg.taken (leg : Leg) (h : Host F W) (g : Graph F) (task : TaskInfo) (reply : Option String)
    (p : Progress) (w : W) : W :=
  (Engine.advance h leg.budget g task leg.runId leg.tickId reply p w).2

/-- The world after some advances without a reply, each of which takes the task as it is kept. A task that
has paused or ended is not advanced any more. -/
def carriedOn (h : Host F W) (view : W → MemoryStore) (g : Graph F) (task : TaskInfo)
    (taskId : String) : List Leg → W → W
  | [], w => w
  | leg :: legs, w =>
    match (view w).load? taskId with
    | none => w
    | some q =>
      if q.lifecycle = .running then
        carriedOn h view g task taskId legs (leg.taken h g task none q w)
      else w

section Advances

variable {h : Host F W} {view : W → MemoryStore} {mind : W → M} {g : Graph F} {task : TaskInfo}
variable {reply : Option String} {before before' : MemoryStore} {taskId : String}
variable {fresh : Option Progress → Prop} {w w' : W}

open Engine

theorem tickIdFor_mind (discreet : h.Discreet mind) (given : Option String) (w : W) :
    mind (tickIdFor h given w).2 = mind w := by
  unfold tickIdFor
  cases firstNonempty [given] with
  | some id => rfl
  | none => exact discreet.freshTickId w

/-- Two advances with one budget, from where their ticks are poised. -/
theorem advance_level (task : TaskInfo) (discreet : h.Discreet mind) (keeps : h.Keeps view MemoryStore.keep)
    (sturdy : h.Sturdy) (words : ∀ text ∈ reply, Text.isBlankText text = false)
    {leg leg' : Leg} (budget : leg.budget = leg'.budget) {feedback : Option String}
    {p p' : Progress} (active : p.lifecycle.isTerminal = false)
    (active' : p'.lifecycle.isTerminal = false)
    (stance : Stance.Beside reply none ⟨Progress.begun (prepare g p), acceptedReply p feedback⟩
      ⟨Progress.begun (prepare g p'), none⟩)
    (level : Level view mind before before' taskId reply fresh w w')
    (stage : p.lifecycle = p'.lifecycle ∨
      (p'.lifecycle = .running ∧ Eve view mind before before' taskId fresh w w')) :
    Level view mind before before' taskId reply fresh (leg.taken h g task feedback p w)
      (leg'.taken h g task none p' w') := by
  have unseen := tickIdFor_view keeps leg.tickId w
  have unseen' := tickIdFor_view keeps leg'.tickId w'
  have same := tickIdFor_mind discreet leg.tickId w
  have same' := tickIdFor_mind discreet leg'.tickId w'
  have pairs := discreet.pairs keeps sturdy words before before' taskId fresh
  have unanswered : acceptedReply p' none = none := by simp [acceptedReply]
  simp only [Leg.taken]
  rw [advance_active h leg.budget g task leg.runId leg.tickId feedback p w active,
    advance_active h leg'.budget g task leg'.runId leg'.tickId none p' w' active', budget]
  simp only
  refine orPersistFailure_near pairs (run_abreast leg'.runId (tickIdFor h leg'.tickId w').1 pairs
    ⟨g, task, leg.runId, (tickIdFor h leg.tickId w).1⟩ leg'.budget leg'.budget.perTick none ?_)
  refine ⟨?_, rfl, level.congr unseen unseen' same same', ?_⟩
  · simp only [firstTick, unanswered]
    exact stance
  · exact stage.imp_right fun ahead => ⟨ahead.1, ahead.2.congr unseen unseen' same same'⟩

theorem prepare_context {p : Progress} (based : Fields.Over g.context p.context) :
    (prepare g p).context = p.context :=
  based.overlay_self

/-- A store keeps a task under its id, with a context laid over the one of the graph. -/
def KeptOver (g : Graph F) (taskId : String) (m : MemoryStore) : Prop :=
  ∀ q, m.load? taskId = some q → q.taskId = taskId ∧ Fields.Over g.context q.context

theorem KeptOver.advance (task : TaskInfo) (valid : g.violations = []) (keeps : h.Keeps view MemoryStore.keep)
    {p : Progress} (stored : (view w).load? p.taskId = some p)
    (based : Fields.Over g.context p.context) (leg : Leg) (feedback : Option String) :
    KeptOver g p.taskId (view (leg.taken h g task feedback p w)) := by
  intro q kept
  cases active : p.lifecycle.isTerminal with
  | true =>
      have still := advance_ended h leg.budget g task leg.runId leg.tickId feedback w active
      simp only [Leg.taken] at kept
      rw [still, stored] at kept
      cases kept
      exact ⟨rfl, based⟩
  | false =>
      have serves : Serves h (fun _ _ => True) view MemoryStore.keep := ⟨keeps, fun _ _ => trivial⟩
      have cap : leg.budget.perTick ≤ leg.budget.perRun ∨ True := .inr trivial
      obtain ⟨tick, entries, s, walk, seen, -⟩ := advance_walks serves (Graph.fit_of_valid valid)
        leg.budget task leg.runId leg.tickId feedback p w active cap
      have prepared : Fields.Over g.context (prepare g p).context := by
        rw [prepare_context based]
        exact based
      simp only [Leg.taken] at kept
      rw [seen] at kept
      rcases walk.kept stored kept with ⟨-, rfl⟩ | ⟨-, rfl⟩
      · exact ⟨rfl, based⟩
      · exact ⟨walk.owner.1, walk.over prepared⟩

theorem prepare_core {p p' : Progress} (same : p.core = p'.core)
    (based : Fields.Over g.context p.context) (based' : Fields.Over g.context p'.context) :
    (prepare g p).core = (prepare g p').core := by
  let placed (q : Progress) : Progress :=
    { q with currentStateId := some (q.currentStateId.getD g.start) }
  have shown : ∀ q : Progress, Fields.Over g.context q.context → (prepare g q).core = placed q.core := by
    intro q based
    simp only [Progress.core, prepare_context based]
    rfl
  exact Progress.core_congr placed (shown p based) (shown p' based') same

/-- Two tasks that are kept alike start their ticks beside each other. -/
theorem prepare_beside {p p' : Progress} (beside : p.Beside none p')
    (based : Fields.Over g.context p.context) (based' : Fields.Over g.context p'.context) :
    Stance.Beside none none ⟨Progress.begun (prepare g p), acceptedReply p none⟩
      ⟨Progress.begun (prepare g p'), none⟩ := by
  have unanswered : acceptedReply p none = none := by simp [acceptedReply]
  have same : Fields.get? replyKey (prepare g p).context = Fields.get? replyKey (prepare g p').context := by
    rw [prepare_context based, prepare_context based']
    rcases beside.context with same | ⟨text, given, -⟩
    · exact same
    · cases given
  rw [unanswered]
  exact ⟨⟨prepare_core beside.core based based', rfl, .inl same⟩, rfl, .level same⟩

/-- Two tasks that are kept alike, and that are advanced with the same budgets, stay alike. -/
theorem carriedOn_level (task : TaskInfo) (valid : g.violations = []) (discreet : h.Discreet mind)
    (keeps : h.Keeps view MemoryStore.keep) (sturdy : h.Sturdy) {legs legs' : List Leg}
    (budgets : legs.map Leg.budget = legs'.map Leg.budget)
    (level : Level view mind before before' taskId none (fun _ => False) w w')
    (kept : KeptOver g taskId (view w)) (kept' : KeptOver g taskId (view w')) :
    Level view mind before before' taskId none (fun _ => False)
      (carriedOn h view g task taskId legs w) (carriedOn h view g task taskId legs' w') := by
  induction legs generalizing legs' w w' with
  | nil =>
      cases legs' with
      | nil => exact level
      | cons leg' rest' => cases budgets
  | cons leg rest ih =>
      cases legs' with
      | nil => cases budgets
      | cons leg' rest' =>
          simp only [List.map_cons, List.cons.injEq] at budgets
          obtain ⟨q, q', load, load', beside⟩ := level.task.resolve_left id
          simp only [carriedOn, load, load']
          by_cases running : q.lifecycle = .running
          · have running' : q'.lifecycle = .running := beside.lifecycle.symm.trans running
            rw [if_pos running, if_pos running']
            obtain ⟨own, based⟩ := kept q load
            obtain ⟨own', based'⟩ := kept' q' load'
            have after := advance_level task discreet keeps sturdy (by simp) budgets.1
              (alive_of_running running) (alive_of_running running')
              (prepare_beside beside based based') level (.inl beside.lifecycle)
            have stored : (view w).load? q.taskId = some q := by rw [own, load]
            have stored' : (view w').load? q'.taskId = some q' := by rw [own', load']
            refine ih budgets.2 after ?_ ?_
            · exact own ▸ KeptOver.advance task valid keeps stored based leg none
            · exact own' ▸ KeptOver.advance task valid keeps stored' based' leg' none
          · have halted : q'.lifecycle ≠ .running := by rwa [← beside.lifecycle]
            rw [if_neg running, if_neg halted]
            exact level

end Advances

/-- What two ways of delivering a reply have come to: the ledgers have taken rows of the same shapes, and
the task is kept at the same stage and place, with the same counters and a context that is the same but
for the reply key. -/
structure SameCourse (before before' after after' : MemoryStore) (taskId : String) : Prop where
  rows : SameRows before before' after after'
  task : ∃ q q', after.load? taskId = some q ∧ after'.load? taskId = some q' ∧
    q.lifecycle = q'.lifecycle ∧ q.core = q'.core

section Ways

open Engine

variable {g : Graph F} {task : TaskInfo} {p : Progress}

/-- A task that waits for a reply was advanced before, so that its context lies over the one of the
graph. -/
theorem Reached.over_of_paused (valid : g.violations = []) (distinct : g.context.Distinct)
    (reached : Reached g task p) (paused : p.lifecycle = .feedback) :
    Fields.Over g.context p.context := by
  induction reached with
  | new taskId workflowId context => cases paused
  | @advanced W h view p q before keeps w stored budget runId tickId feedback kept ih =>
      cases active : p.lifecycle.isTerminal with
      | true =>
          rw [advance_ended h budget g task runId tickId feedback w active] at kept
          have same : some p = some q := stored.symm.trans kept
          cases same
          exact ih paused
      | false =>
          have serves : Serves h (fun _ _ => True) view MemoryStore.keep :=
            ⟨keeps, fun _ _ => trivial⟩
          have cap : budget.perTick ≤ budget.perRun ∨ True := .inr trivial
          obtain ⟨tick, entries, s, walk, seen, -⟩ := advance_walks serves
            (Graph.fit_of_valid valid) budget task runId tickId feedback p w active cap
          rw [seen] at kept
          rcases walk.kept stored kept with ⟨-, rfl⟩ | ⟨-, rfl⟩
          · exact ih paused
          · exact walk.over (prepare_over distinct p)
  | replied before text ih => cases paused

variable {h : Host F W} {view : W → MemoryStore} {mind : W → M} {w w' : W} {text : String}

/-- A tick that is handed a reply and one that finds it in the context start beside each other. -/
theorem replied_beside (paused : p.lifecycle = .feedback)
    (based : Fields.Over g.context p.context)
    (based' : Fields.Over g.context (p.replied text).context) :
    Stance.Beside (some text) none
      ⟨Progress.begun (prepare g p), acceptedReply p (some text)⟩
      ⟨Progress.begun (prepare g (p.replied text)), none⟩ := by
  have accepted : acceptedReply p (some text) = some text := by simp [acceptedReply, paused]
  have there : Fields.get? replyKey (prepare g (p.replied text)).context = some (.str text) := by
    rw [prepare_context based']
    exact Fields.get?_put_self
  have core : p.core = (p.replied text).core := by
    simp only [Progress.core, Progress.replied, Fields.erase_put_self]
  rw [accepted]
  exact ⟨⟨prepare_core core based based', rfl, .inr ⟨text, rfl, there⟩⟩, rfl, .handed rfl there⟩

theorem carriedOn_halted (h : Host F W) (g : Graph F) (task : TaskInfo) {taskId : String}
    {q : Progress} (kept : (view w).load? taskId = some q) (halted : q.lifecycle ≠ .running)
    (legs : List Leg) : carriedOn h view g task taskId legs w = w := by
  cases legs with
  | nil => rfl
  | cons leg rest => simp only [carriedOn, kept, if_neg halted]

/-- The two ways in which a paused task gets a reply that says something agree, however its ticks are
budgeted and whatever state the pause goes on at: as often as the task is advanced, both have added rows
of the same shapes and have left it at the same stage and place, with a context that is the same apart
from the reply key. It is only that a reply does not outlast the tick that it is handed to: by then it
must be used up, unless that tick pauses or ends the task. -/
theorem delivered_either_way (accepted : g.ensureValid = .ok g) (distinct : g.context.Distinct)
    (reached : Reached g task p) (paused : p.lifecycle = .feedback)
    (words : Text.isBlankText text = false) (keeps : h.Keeps view MemoryStore.keep)
    (sturdy : h.Sturdy) (discreet : h.Discreet mind) (alike : mind w = mind w')
    (stored : (view w).load? p.taskId = some p)
    (replied : (view w').load? p.taskId = some (p.replied text)) {first first' : Leg}
    (budget : first.budget = first'.budget) {legs legs' : List Leg}
    (budgets : legs.map Leg.budget = legs'.map Leg.budget)
    (used : ∀ q, (view (first'.taken h g task none (p.replied text) w')).load? p.taskId = some q →
      q.lifecycle = .running → Fields.get? replyKey q.context ≠ some (.str text)) :
    SameCourse (view w) (view w')
      (view (carriedOn h view g task p.taskId legs (first.taken h g task (some text) p w)))
      (view (carriedOn h view g task p.taskId legs'
        (first'.taken h g task none (p.replied text) w'))) p.taskId := by
  have valid := Graph.violations_of_accepted accepted
  have based := reached.over_of_paused valid distinct paused
  have based' : Fields.Over g.context (p.replied text).context := based.put replyKey _
  have active : p.lifecycle.isTerminal = false := by
    rw [paused]
    rfl
  have eve : Eve view mind (view w) (view w') p.taskId (· = some (p.replied text)) w w' :=
    ⟨⟨alike, [], [], by simp, by simp, rfl⟩, replied⟩
  have after := advance_level task discreet keeps sturdy (by simpa using words) budget active rfl
    (replied_beside paused based based') eve.level (.inr ⟨rfl, eve⟩)
  have kept := KeptOver.advance task valid keeps stored based first (some text)
  have kept' := KeptOver.advance task valid keeps replied based' first' none
  rcases after.task with unwritten | ⟨q, q', load, load', beside⟩
  · -- nothing was written after the reply was kept, so that it is still there
    exact absurd Fields.get?_put_self (used _ unwritten rfl)
  · by_cases running : q'.lifecycle = .running
    · have context : Fields.get? replyKey q.context = Fields.get? replyKey q'.context := by
        rcases beside.context with same | ⟨said, given, unread⟩
        · exact same
        · cases given
          exact absurd unread (used q' load' running)
      have level : Level view mind (view w) (view w') p.taskId none (fun _ => False) _ _ :=
        ⟨after.apace, .inr ⟨q, q', load, load', beside.core, beside.lifecycle, .inl context⟩⟩
      have final := carriedOn_level task valid discreet keeps sturdy budgets level kept kept'
      obtain ⟨r, r', ends, ends', level'⟩ := final.task.resolve_left id
      exact ⟨final.apace.rows, r, r', ends, ends', level'.lifecycle, level'.core⟩
    · have halted : q.lifecycle ≠ .running := by rwa [beside.lifecycle]
      rw [carriedOn_halted h g task load halted legs, carriedOn_halted h g task load' running legs']
      exact ⟨after.apace.rows, q, q', load, load', beside.lifecycle, beside.core⟩

end Ways

/-! ## A pause that goes on before its question -/

/-- A graph that asks for a reply once it has gathered what it needs, and gathers it again with the
reply. -/
def askLater : Graph Unit where
  id := "demo"
  start := "gather"
  context := []
  states :=
    [("gather", .action (.slot (.code () .whole)) ⟨some "confirm", some "finish", none⟩ none),
      ("confirm", .action (.ask (.named "Continue?") (some (.report (.code () .whole))))
        ⟨some "report", some "finish", some "wait"⟩ none),
      ("wait", .feedback "gather"),
      ("report", .action (.slot (.code () .whole)) ⟨some "finish", some "finish", none⟩ none),
      ("finish", .terminal .done none)]
  guards := []
  handlers := []

/-- What a callable reports that is always done and keeps the replies that it parses. -/
def hears (call : Call) : Value :=
  match call.reply? with
  | some text => .result (.str "done") (.dict [(.text "heard", .str text)]) .null .null
  | none => plainReport "done"

/-- A host with such callables, which count how often they are called. -/
def hearingHost : Host Unit Nat where
  behaviour _ call := fun calls => (⟨.ok (hears call), call.context⟩, calls + 1)
  now := pure ⟨0⟩
  freshEventId := pure "row"
  freshTickId := pure "tick"
  sleep _ := pure ()
  checkpoint _ := pure ()
  record _ _ := pure ()

/-- The new task in its store, before any call. -/
def unasked : Nat × MemoryStore :=
  (0, MemoryStore.empty.checkpoint (.newTask "t1" "demo" []))

def gathered : (Except Fault Finish × Progress) × (Nat × MemoryStore) :=
  Engine.advance hearingHost.overMemory (.clamped 25 200) askLater ⟨"t1", none, none, none⟩ "run"
    none none (.newTask "t1" "demo" []) unasked

/-- The world in which the reply is kept for the task. -/
def keptYes : Nat × MemoryStore :=
  (gathered.2.1, gathered.2.2.checkpoint (gathered.1.2.replied "yes"))

/-- The reply is handed to an advance of some length, and then the task is advanced as often as it may
need. -/
def handedYes (ticks : Nat) : Nat × MemoryStore :=
  carriedOn hearingHost.overMemory Prod.snd askLater ⟨"t1", none, none, none⟩ "t1"
    (List.replicate 3 ⟨⟨ticks, 200⟩, "run", none⟩)
    (Leg.taken ⟨⟨ticks, 200⟩, "run", none⟩ hearingHost.overMemory askLater ⟨"t1", none, none, none⟩
      (some "yes") gathered.1.2 gathered.2)

/-- The task with the kept reply is advanced as often. -/
def readYes (ticks : Nat) : Nat × MemoryStore :=
  carriedOn hearingHost.overMemory Prod.snd askLater ⟨"t1", none, none, none⟩ "t1"
    (List.replicate 3 ⟨⟨ticks, 200⟩, "run", none⟩)
    (Leg.taken ⟨⟨ticks, 200⟩, "run", none⟩ hearingHost.overMemory askLater ⟨"t1", none, none, none⟩
      none (gathered.1.2.replied "yes") keptYes)

theorem askLater_accepted : askLater.ensureValid = .ok askLater := by
  have ordered : askLater.ensureOrdered = .ok () := rfl
  have unbroken : askLater.violations = [] := by decide +kernel
  simp only [Graph.ensureValid, Graph.examined, ordered, unbroken, bind, Except.bind]

theorem hearingHost_discreet :
    hearingHost.overMemory.Discreet (Prod.fst : Nat × MemoryStore → Nat) where
  callables :=
    { value f call call' w w' same _ := by
        have heard := congrArg Call.reply? same
        rw [Call.bare_reply?, Call.bare_reply?] at heard
        simp only [hearingHost, Host.overMemory, besideMemory, hears, heard]
      others f call call' w w' same _ := by
        have shown := congrArg Call.context same
        rw [Call.bare_context, Call.bare_context] at shown
        exact shown
      reply _ _ _ := rfl
      world f call call' w w' _ level := congrArg (· + 1) level }
  now _ := rfl
  freshEventId _ := rfl
  freshTickId _ := rfl
  sleep _ _ := rfl
  checkpoint _ _ := rfl
  record t p w := by
    rw [Host.overMemory_record]
    cases w.2.record t p <;> rfl

/-- With two transitions a tick the question is reached while the reply is there, and both ways end the
task. -/
theorem delivered_either_way_askLater :
    SameCourse gathered.2.2 keptYes.2 (handedYes 2).2 (readYes 2).2 "t1" ∧
      ((readYes 2).2.load? "t1").map (fun q => (q.lifecycle, field "heard" q.context)) =
        some (.done, .str "yes") := by
  have reached : Reached askLater ⟨"t1", none, none, none⟩ gathered.1.2 :=
    .advanced (.new "t1" "demo" []) hearingHost.overMemory_keeps unasked (by decide +kernel)
      (.clamped 25 200) "run" none none (by decide +kernel)
  have own : gathered.1.2.taskId = "t1" := by decide +kernel
  have stored : gathered.2.2.load? gathered.1.2.taskId = some gathered.1.2 := by decide +kernel
  have replied : keptYes.2.load? gathered.1.2.taskId = some (gathered.1.2.replied "yes") := by
    decide +kernel
  have words : Text.isBlankText "yes" = false := by decide +kernel
  have alike : gathered.2.1 = keptYes.1 := rfl
  have both := delivered_either_way askLater_accepted .nil reached (by decide +kernel) words
    hearingHost.overMemory_keeps hearingHost.overMemory_sturdy hearingHost_discreet alike stored replied
    (show Leg.budget ⟨⟨2, 200⟩, "run", none⟩ = Leg.budget ⟨⟨2, 200⟩, "run", none⟩ from rfl)
    (show (List.replicate 3 (⟨⟨2, 200⟩, "run", none⟩ : Leg)).map Leg.budget =
      (List.replicate 3 (⟨⟨2, 200⟩, "run", none⟩ : Leg)).map Leg.budget from rfl)
  rw [own] at both
  refine ⟨both ?_, by decide +kernel⟩
  intro q kept _ unread
  -- after the first tick the reply key is there, but the reply is used up
  have used : ((Leg.taken ⟨⟨2, 200⟩, "run", none⟩ hearingHost.overMemory askLater
      ⟨"t1", none, none, none⟩ none (gathered.1.2.replied "yes") keptYes).2.load? "t1").map
      (fun q => Fields.get? replyKey q.context) = some (some .null) := by decide +kernel
  rw [kept, Option.map_some, unread] at used
  cases used

/-- With one transition a tick the reply that is handed over is gone when the question is asked. -/
example : ((handedYes 1).2.load? "t1").map Progress.lifecycle = some .feedback ∧
    ((readYes 1).2.load? "t1").map Progress.lifecycle = some .done := by decide +kernel

end Tickwork
