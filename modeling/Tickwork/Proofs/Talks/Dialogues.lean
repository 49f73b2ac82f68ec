import Tickwork.Proofs.Pipe.Ticks
import Tickwork.Proofs.Talks.Stretches
import Tickwork.Script.Routine

/-!
# Dialogues

A dialogue is a new task that is advanced, tick after tick, and gets one reply at each pause: handed over
with the tick that goes on, or kept before it. A plan says what the ledger, the pages and the task are at
rest, reply by reply. Main statement: a dialogue goes by its plan, however its ticks are cut.
-/

set_option autoImplicit false

namespace Tickwork

variable {F S W : Type}

open Engine Pipe

/-! ## Dialogues -/

/-- A dialogue so far: the store and the task, the replies that it got, and the results of its ticks.
`ticks` counts the ticks since the last reply, or since the start. -/
structure Talk where
  store : MemoryStore
  progress : Progress
  replies : List String
  results : List (Except Fault Finish)
  ticks : Nat

namespace Talk

/-- The rows of the task, oldest first. -/
def rows (talk : Talk) : List Transition :=
  talk.store.rowsFor talk.progress.taskId

/-- The pages that the ticks reported. -/
def pages (talk : Talk) : List Value :=
  talk.results.flatMap pagesIn

/-- The task is to be picked up by a worker. -/
def Underway (talk : Talk) : Prop :=
  talk.progress.lifecycle ∈ Lifecycle.runnable

instance (talk : Talk) : Decidable talk.Underway :=
  inferInstanceAs (Decidable (talk.progress.lifecycle ∈ Lifecycle.runnable))

/-- Advances the task once. -/
def advanced (h : Host F W) (w : W) (g : Graph F) (task : TaskInfo) (pace : Pace)
    (given : Option String) (talk : Talk) : Talk :=
  let came := Engine.advance h.overMemory pace.budget g task pace.runId pace.tickId given talk.progress
    (w, talk.store)
  { talk with
    store := came.2.2
    progress := came.1.2
    results := talk.results ++ [came.1.1]
    ticks := talk.ticks + 1 }

/-- Notes a reply. -/
def noted (talk : Talk) (reply : String) : Talk :=
  { talk with replies := talk.replies ++ [reply], ticks := 0 }

/-- Keeps a reply for the task. -/
def kept (talk : Talk) (reply : String) : Talk :=
  { talk.noted reply with
    store := talk.store.checkpoint (talk.progress.replied reply)
    progress := talk.progress.replied reply }

end Talk

/-- A host that runs the callables of this library. -/
def Routine.Plays (h : Host (Routine S) W) : Prop :=
  ∃ around : Surroundings S W, h.behaviour = Routine.behaviour around

/-- What a dialogue with a new task that has no context of its own can come to. A task under way is ticked,
by any host and with any budget; a paused task gets one reply. The store may change in between, but for the
rows of the task. -/
inductive Dialogue (g : Graph (Routine S)) (task : TaskInfo) : Talk → Prop
  | new {m : MemoryStore} (taskId workflowId : String) (unwritten : m.rowsFor taskId = []) :
      Dialogue g task ⟨m, .newTask taskId workflowId [], [], [], 0⟩
  | tick {W : Type} {talk : Talk} (before : Dialogue g task talk) (underway : talk.Underway)
      (h : Host (Routine S) W) (plays : Routine.Plays h) (w : W) (pace : Pace)
      (paced : pace.budget.Paced) : Dialogue g task (talk.advanced h w g task pace none)
  | handed {W : Type} {talk : Talk} (before : Dialogue g task talk)
      (paused : talk.progress.lifecycle = .feedback) (reply : String) (h : Host (Routine S) W)
      (plays : Routine.Plays h) (w : W) (pace : Pace) (paced : pace.budget.Paced) :
      Dialogue g task ((talk.noted reply).advanced h w g task pace (some reply))
  | kept {talk : Talk} (before : Dialogue g task talk) (paused : talk.progress.lifecycle = .feedback)
      (reply : String) : Dialogue g task (talk.kept reply)
  | elsewhere {talk : Talk} (before : Dialogue g task talk) {m : MemoryStore}
      (same : m.rowsFor talk.progress.taskId = talk.rows) : Dialogue g task { talk with store := m }

/-! ## Plans -/

/-- How a paused task goes on with a reply: the reply is handed out, or it was kept in the context. -/
inductive Offered (p : Progress) (reply : String) : Stance → Prop
  | handed : Offered p reply ⟨Progress.begun p, some reply⟩
  | kept : Offered p reply ⟨p.replied reply, none⟩

/-- What is to become of a task at rest, by the replies that it got: its rows, its pages and its progress,
each of them reached from the rest before by a stretch of at most `most` rows. Nothing is planned for
replies that are not `Within` the plan. -/
structure Plan (reply : F → Call → Answer) (g : Graph F) (task : TaskInfo) where
  ledger : List String → List Shape
  pages : List String → List Value
  Rests : List String → Progress → Prop
  Within : List String → Prop
  most : Nat
  within_front : ∀ {heard : List String} {said : String}, Within (heard ++ [said]) → Within heard
  halts : ∀ {heard : List String} {p : Progress}, Rests heard p →
    p.lifecycle = .feedback ∨ p.lifecycle = .done
  stands : ∀ {heard : List String} {p : Progress}, Rests heard p → p.lifecycle = .feedback →
    ∃ id node, StandsAt g p id node ∧ isWork node = true
  starts : ∃ node, g.state? g.start = some node ∧ isWork node = true
  opens : Within [] → ∀ taskId workflowId, ∃ final, Rests [] final ∧ (ledger []).length ≤ most ∧
    Stretch reply g task final ⟨Progress.begun (prepare g (.newTask taskId workflowId [])), none⟩
      (ledger []) (pages [])
  goesOn : ∀ {heard : List String} {said : String} {p : Progress} {s : Stance},
    Within (heard ++ [said]) → Rests heard p → p.lifecycle = .feedback → Offered p said s →
    ∃ final shapes shown, Rests (heard ++ [said]) final ∧ shapes.length ≤ most ∧
      ledger (heard ++ [said]) = ledger heard ++ shapes ∧
      pages (heard ++ [said]) = pages heard ++ shown ∧ Stretch reply g task final s shapes shown

variable {h : Host F W} {reply : F → Call → Answer} {g : Graph F} {task : TaskInfo}

/-- A dialogue that is where its plan has it: at rest, or with the rest of a stretch ahead. -/
inductive Plan.Places (plan : Plan reply g task) (talk : Talk) : Prop
  | rests (here : plan.Rests talk.replies talk.progress.unwaited)
      (settled : talk.progress.lifecycle.isTerminal = false → talk.progress.Settled g)
      (wrote : talk.rows.map Transition.shape = plan.ledger talk.replies)
      (showed : talk.pages = plan.pages talk.replies)
  | goes {final : Progress} {left : List Shape} {later : List Value}
      (underway : talk.Underway) (ahead : OnStretch reply g task final talk.progress none left later)
      (there : plan.Rests talk.replies final)
      (wrote : talk.rows.map Transition.shape ++ left = plan.ledger talk.replies)
      (showed : talk.pages ++ later = plan.pages talk.replies)
      (fewer : talk.ticks + left.length ≤ plan.most)

/-- A dialogue that goes by its plan. -/
structure Plan.Keeps (plan : Plan reply g task) (talk : Talk) : Prop where
  returned : ∀ result ∈ talk.results, ∃ finish, result = .ok finish
  counted : talk.progress.Counted
  places : plan.Places talk

namespace Engine

theorem Stretch.begins {final p : Progress} {given : Option String} {shapes : List Shape}
    {pages : List Value} {id : String} {node : State F} (stands : StandsAt g p id node)
    (work : isWork node = true) (idle : p.lifecycle ≠ .running)
    (rest : Stretch reply g task final ⟨Progress.begun p, given⟩ shapes pages) :
    Stretch reply g task final ⟨p, given⟩ shapes pages := by
  have first : foreseen reply ⟨g, task, "", ""⟩ ⟨p, given⟩ =
      some (⟨none, (Progress.begun p).unwaited, []⟩, given) :=
    Eq.trans (foreseen_of_work stands work) (if_neg idle)
  exact .goes first rfl (.inr rfl) rest

end Engine

/-- What is ahead of a paused task that is handed a reply. -/
theorem OnStretch.of_handed {final p : Progress} {said : String} {shapes : List Shape} {pages : List Value}
    {id : String} {node : State F} (stands : StandsAt g p id node) (work : isWork node = true)
    (paused : p.lifecycle = .feedback) (settled : p.Settled g) (counted : p.Counted)
    (stretch : Stretch reply g task final ⟨Progress.begun p, some said⟩ shapes pages) :
    OnStretch reply g task final p (some said) shapes pages := by
  have idle : p.lifecycle ≠ .running := by
    rw [paused]
    exact nofun
  refine ⟨?_, counted, fun running => absurd running idle, ?_⟩
  · rw [paused]
    rfl
  · rw [settled.prepare, acceptedReply, if_pos paused]
    exact Stretch.begins (p := p.unwaited) stands work idle stretch

theorem Progress.Settled.replied {p : Progress} (settled : p.Settled g) (said : String) :
    (p.replied said).Settled g :=
  ⟨settled.based.put _ _, settled.placed⟩

/-- What is ahead of a task that a reply was kept for. -/
theorem OnStretch.of_kept {final p : Progress} {said : String} {shapes : List Shape} {pages : List Value}
    (settled : p.Settled g) (counted : p.Counted)
    (stretch : Stretch reply g task final ⟨p.replied said, none⟩ shapes pages) :
    OnStretch reply g task final (p.replied said) none shapes pages := by
  refine ⟨rfl, counted, fun _ => rfl, ?_⟩
  rw [(settled.replied said).prepare]
  exact stretch

theorem Talk.pages_advanced (talk : Talk) (w : W) (pace : Pace) (given : Option String) :
    (talk.advanced h w g task pace given).pages =
      talk.pages ++ pagesIn (Engine.advance h.overMemory pace.budget g task pace.runId pace.tickId
        given talk.progress (w, talk.store)).1.1 := by
  simp [Talk.pages, Talk.advanced]

namespace Plan

variable {plan : Plan reply g task} {talk : Talk}

theorem mild {heard : List String} {p : Progress} (rests : plan.Rests heard p) :
    p.lifecycle ≠ .failed := by
  intro failed
  rcases plan.halts rests with paused | ended
  · rw [failed] at paused
    cases paused
  · rw [failed] at ended
    cases ended

theorem not_underway {heard : List String} (rests : plan.Rests heard talk.progress.unwaited) :
    ¬ talk.Underway := by
  have halts : talk.progress.lifecycle = .feedback ∨ talk.progress.lifecycle = .done :=
    plan.halts (p := talk.progress.unwaited) rests
  unfold Talk.Underway
  rcases halts with paused | ended
  · rw [paused]
    decide
  · rw [ended]
    decide

theorem Keeps.rests_of_paused (keeps : plan.Keeps talk) (paused : talk.progress.lifecycle = .feedback) :
    plan.Rests talk.replies talk.progress.unwaited ∧ talk.progress.Settled g ∧
      talk.rows.map Transition.shape = plan.ledger talk.replies ∧
      talk.pages = plan.pages talk.replies := by
  cases keeps.places with
  | rests here settled wrote showed =>
      refine ⟨here, settled ?_, wrote, showed⟩
      rw [paused]
      rfl
  | goes underway ahead there wrote showed fewer =>
      unfold Talk.Underway at underway
      rw [paused] at underway
      exact absurd underway (by decide)

/-- What is planned for the replies is there or ahead. -/
theorem Keeps.planned (keeps : plan.Keeps talk) : ∃ p, plan.Rests talk.replies p := by
  cases keeps.places with
  | rests here settled wrote showed => exact ⟨_, here⟩
  | goes underway ahead there wrote showed fewer => exact ⟨_, there⟩

theorem Keeps.unfailed (keeps : plan.Keeps talk) : talk.progress.lifecycle ≠ .failed := by
  cases keeps.places with
  | rests here settled wrote showed => exact plan.mild (p := talk.progress.unwaited) here
  | goes underway ahead there wrote showed fewer =>
      intro failed
      unfold Talk.Underway at underway
      rw [failed] at underway
      exact absurd underway (by decide)

/-- Only planned rows are written. -/
theorem Keeps.row_planned (keeps : plan.Keeps talk) {row : Transition} (inside : row ∈ talk.rows) :
    row.shape ∈ plan.ledger talk.replies := by
  have written := List.mem_map_of_mem (f := Transition.shape) inside
  cases keeps.places with
  | rests here settled wrote showed => exact wrote ▸ written
  | goes underway ahead there wrote showed fewer => exact wrote ▸ List.mem_append_left _ written

/-- A task is under way for some ticks only, and then at rest as it is planned. -/
theorem Keeps.comes (keeps : plan.Keeps talk) : (talk.Underway ∧ talk.ticks ≤ plan.most) ∨
    (plan.Rests talk.replies talk.progress.unwaited ∧
      talk.rows.map Transition.shape = plan.ledger talk.replies ∧
      talk.pages = plan.pages talk.replies) := by
  cases keeps.places with
  | rests here settled wrote showed => exact .inr ⟨here, wrote, showed⟩
  | goes underway ahead there wrote showed fewer =>
      exact .inl ⟨underway, Nat.le_trans (Nat.le_add_right _ _) fewer⟩

/-- A tick goes on by the plan. -/
theorem advanced {final : Progress} {left : List Shape} {later : List Value} {given : Option String}
    {pace : Pace} (w : W) (returned : ∀ result ∈ talk.results, ∃ finish, result = .ok finish)
    (ahead : OnStretch reply g task final talk.progress given left later)
    (there : plan.Rests talk.replies final)
    (wrote : talk.rows.map Transition.shape ++ left = plan.ledger talk.replies)
    (showed : talk.pages ++ later = plan.pages talk.replies)
    (fewer : talk.ticks + left.length ≤ plan.most) (sound : g.Sound) (waitable : g.Waitable)
    (distinct : g.context.Distinct) (recites : h.overMemory.behaviour.Recites reply g)
    (paced : pace.budget.Paced) : plan.Keeps (talk.advanced h w g task pace given) := by
  have strides := ahead.advance sound waitable distinct recites (plan.mild there) paced pace.runId
    pace.tickId (w, talk.store)
  obtain ⟨⟨finish, rows, came, written, strode⟩, owner, counted, settled⟩ := strides
  have rows_eq : (talk.advanced h w g task pace given).rows = talk.rows ++ rows := by
    unfold Talk.rows
    rw [show (talk.advanced h w g task pace given).progress.taskId = talk.progress.taskId from owner]
    exact written
  have pages_eq : (talk.advanced h w g task pace given).pages = talk.pages ++ finish.pages := by
    rw [Talk.pages_advanced, came]
    rfl
  refine ⟨?_, counted, ?_⟩
  · intro result inside
    rcases List.mem_append.mp inside with before | last
    · exact returned result before
    · exact ⟨finish, (List.mem_singleton.mp last).trans came⟩
  · cases strode with
    | rested wrote' showed' here =>
        refine .rests ?_ settled ?_ ?_
        · exact here ▸ there
        · rw [rows_eq, List.map_append, wrote']
          exact wrote
        · rw [pages_eq, showed']
          exact showed
    | @goes left' later' wrote' moved showed' running ahead' =>
        have some_written := List.length_pos_iff.mpr moved
        have lengths := congrArg List.length wrote'
        rw [List.length_append, List.length_map] at lengths
        refine .goes ?_ ahead' there ?_ ?_ ?_
        · exact List.mem_cons_of_mem _ (List.mem_singleton.mpr running)
        · rw [rows_eq, List.map_append, List.append_assoc, wrote']
          exact wrote
        · rw [pages_eq, List.append_assoc, showed']
          exact showed
        · change talk.ticks + 1 + left'.length ≤ plan.most
          omega

/-- A new task has the first stretch ahead. -/
theorem keeps_new (plan : Plan reply g task) (within : plan.Within []) {m : MemoryStore}
    (taskId workflowId : String) (unwritten : m.rowsFor taskId = []) :
    plan.Keeps ⟨m, .newTask taskId workflowId [], [], [], 0⟩ := by
  obtain ⟨final, rests, short, stretch⟩ := plan.opens within taskId workflowId
  obtain ⟨node, found, work⟩ := plan.starts
  have stands : StandsAt g (prepare g (.newTask taskId workflowId [])) g.start node := by
    refine ⟨?_, found⟩
    unfold position
    by_cases unnamed : g.start = ""
    · simp [prepare, Progress.newTask, Progress.fresh, firstNonempty, unnamed]
    · simp [prepare, Progress.newTask, Progress.fresh, firstNonempty, unnamed]
  have ahead : OnStretch reply g task final (.newTask taskId workflowId []) none (plan.ledger [])
      (plan.pages []) :=
    ⟨rfl, ⟨List.forall_mem_nil _, List.forall_mem_nil _⟩, fun running => (by cases running),
      stretch.begins stands work fun running => by cases running⟩
  refine ⟨fun _ inside => absurd inside List.not_mem_nil, ahead.counted,
    .goes (List.mem_cons_self ..) ahead rests ?_ rfl ?_⟩
  · have none_yet : Talk.rows ⟨m, .newTask taskId workflowId [], [], [], 0⟩ = [] := unwritten
    rw [none_yet]
    rfl
  · rw [Nat.zero_add]
    exact short

/-- A pause is left by the plan with a reply that is handed over. -/
theorem Keeps.handed {pace : Pace} (w : W) {said : String} (keeps : plan.Keeps talk)
    (within : plan.Within (talk.replies ++ [said])) (paused : talk.progress.lifecycle = .feedback)
    (sound : g.Sound) (waitable : g.Waitable) (distinct : g.context.Distinct)
    (recites : h.overMemory.behaviour.Recites reply g) (paced : pace.budget.Paced) :
    plan.Keeps ((talk.noted said).advanced h w g task pace (some said)) := by
  obtain ⟨here, settled, wrote, showed⟩ := keeps.rests_of_paused paused
  obtain ⟨final, shapes, shown, there, short, wrote', showed', stretch⟩ :=
    plan.goesOn within here paused .handed
  obtain ⟨id, node, stands, work⟩ := plan.stands here paused
  have ahead := OnStretch.of_handed (p := talk.progress) stands work paused settled keeps.counted
    stretch
  have wrote'' : (talk.noted said).rows.map Transition.shape ++ shapes =
      plan.ledger (talk.replies ++ [said]) := (congrArg (· ++ shapes) wrote).trans wrote'.symm
  have showed'' : (talk.noted said).pages ++ shown = plan.pages (talk.replies ++ [said]) :=
    (congrArg (· ++ shown) showed).trans showed'.symm
  have fewer : (talk.noted said).ticks + shapes.length ≤ plan.most :=
    Nat.le_trans (Nat.le_of_eq (Nat.zero_add _)) short
  exact plan.advanced w keeps.returned ahead there wrote'' showed'' fewer sound waitable distinct
    recites paced

/-- Or with one that is kept. -/
theorem Keeps.kept {said : String} (keeps : plan.Keeps talk)
    (within : plan.Within (talk.replies ++ [said])) (paused : talk.progress.lifecycle = .feedback) :
    plan.Keeps (talk.kept said) := by
  obtain ⟨here, settled, wrote, showed⟩ := keeps.rests_of_paused paused
  obtain ⟨final, shapes, shown, there, short, wrote', showed', stretch⟩ :=
    plan.goesOn within here paused .kept
  have ahead := OnStretch.of_kept (p := talk.progress) settled keeps.counted stretch
  refine ⟨keeps.returned, keeps.counted, .goes ?_ ahead there ?_ ?_ ?_⟩
  · exact List.mem_cons_of_mem _ (List.mem_singleton.mpr rfl)
  · exact (congrArg (· ++ shapes) wrote).trans wrote'.symm
  · exact (congrArg (· ++ shown) showed).trans showed'.symm
  · exact Nat.le_trans (Nat.le_of_eq (Nat.zero_add _)) short

/-- Writes for other tasks change nothing. -/
theorem Keeps.elsewhere (keeps : plan.Keeps talk) {m : MemoryStore}
    (same : m.rowsFor talk.progress.taskId = talk.rows) : plan.Keeps { talk with store := m } := by
  obtain ⟨returned, counted, places⟩ := keeps
  have rows : Talk.rows { talk with store := m } = talk.rows := same
  refine ⟨returned, counted, ?_⟩
  cases places with
  | rests here settled wrote showed => exact .rests here settled (rows ▸ wrote) showed
  | goes underway ahead there wrote showed fewer =>
      exact .goes underway ahead there (rows ▸ wrote) showed fewer

end Plan

/-- A dialogue goes by its plan. -/
theorem Dialogue.keeps {g : Graph (Routine S)} {reply : Routine S → Call → Answer}
    (plan : Plan reply g task) (sound : g.Sound) (waitable : g.Waitable)
    (distinct : g.context.Distinct)
    (recites : ∀ {W : Type} (h : Host (Routine S) W), Routine.Plays h →
      h.overMemory.behaviour.Recites reply g) {talk : Talk} (dialogue : Dialogue g task talk)
    (within : plan.Within talk.replies) : plan.Keeps talk := by
  induction dialogue with
  | new taskId workflowId unwritten => exact plan.keeps_new within taskId workflowId unwritten
  | tick before underway h plays w pace paced ih =>
      obtain ⟨returned, counted, places⟩ := ih within
      cases places with
      | rests here settled wrote showed => exact absurd underway (plan.not_underway here)
      | goes underway' ahead there wrote showed fewer =>
          exact plan.advanced w returned ahead there wrote showed fewer sound waitable distinct
            (recites h plays) paced
  | handed before paused said h plays w pace paced ih =>
      have keeps := ih (plan.within_front within)
      exact keeps.handed w within paused sound waitable distinct (recites h plays) paced
  | kept before paused said ih => exact (ih (plan.within_front within)).kept within paused
  | elsewhere before same ih => exact (ih within).elsewhere same

end Tickwork
