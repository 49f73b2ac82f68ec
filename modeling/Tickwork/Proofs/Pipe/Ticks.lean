import Tickwork.Proofs.Pipe.Compiled
import Tickwork.Proofs.Pipe.Followed
import Tickwork.Proofs.Pipe.Preserved
import Tickwork.Proofs.CutRuns

/-!
# Pipes in ticks

A new task is advanced through the graph of a pipe, tick after tick, and each pause gets the next reply of
a script. Main statement: whatever the budgets of the ticks, the task comes to rest where the pipe does.
-/

set_option autoImplicit false

namespace Tickwork

variable {F W S : Type}

namespace Pipe

open Engine

/-! ## Ticks with replies -/

/-- A task between two ticks: where it stands, the replies that are left and the pages so far. -/
structure Served (W : Type) where
  progress : Progress
  world : W
  replies : List String
  pages : List Value

/-- What a tick is given: its budget and its names. -/
structure Pace where
  budget : Budget
  runId : String
  tickId : Option String

/-- The pages that an advance reports; a tick that fails reports none. -/
def pagesIn : Except Fault Finish → List Value
  | .ok finish => finish.pages
  | .error _ => []

namespace Served

/-- The reply that the next tick gets: a paused task gets one. -/
def offered (served : Served W) : Option String :=
  if served.progress.lifecycle = .feedback then served.replies.head? else none

/-- The replies that are left for later ticks. -/
def later (served : Served W) : List String :=
  if served.progress.lifecycle = .feedback then served.replies.tail else served.replies

/-- Advances the task once, with a reply if it is paused. A paused task that no reply is left for is not
advanced. -/
def tick (h : Host F W) (g : Graph F) (task : TaskInfo) (pace : Pace) (served : Served W) :
    Served W :=
  if served.progress.lifecycle = .feedback ∧ served.replies = [] then served
  else
    let r := advance h pace.budget g task pace.runId pace.tickId served.offered served.progress
      served.world
    ⟨r.1.2, r.2, served.later, served.pages ++ pagesIn r.1.1⟩

/-- The task after a number of ticks. -/
def ticks (h : Host F W) (g : Graph F) (task : TaskInfo) (paces : Nat → Pace) (served : Served W) :
    Nat → Served W
  | 0 => served
  | n + 1 => tick h g task (paces n) (ticks h g task paces served n)

end Served

section

variable {fn : Functions F} {h : Host F W} {view : W → S}
variable {keep : S → Option Transition → Progress → S} {g : Graph F} {task : TaskInfo}
variable {close : Close} {k : Nat} {served : Served W} {paces : Nat → Pace} {pace : Pace}
variable {pages : List Value}

/-- A task that has not come to rest, with a course ahead. -/
structure Due (fn : Functions F) (g : Graph F) (task : TaskInfo) (close : Close) (k : Nat)
    (served : Served W) : Prop where
  active : served.progress.lifecycle.isTerminal = false
  awaited : ¬ (served.progress.lifecycle = .feedback ∧ served.replies = [])
  counted : served.progress.Counted
  since : served.progress.lifecycle = .running → served.progress.waitingSince = none
  course : Course fn ⟨g, task, "", ""⟩ close k ⟨(prepare g served.progress).unwaited, served.offered⟩
    served.pages served.later

/-- A task that came to rest as told. -/
def Served.Rests (served : Served W) (close : Close) : Prop :=
  Closed served.progress served.pages served.replies close

theorem Served.acceptedReply_offered (served : Served W) :
    acceptedReply served.progress served.offered = served.offered := by
  unfold acceptedReply offered
  by_cases paused : served.progress.lifecycle = .feedback
  · rw [if_pos paused]
  · rw [if_neg paused, if_neg paused]

theorem Served.tick_rests (rests : served.Rests close) :
    served.tick h g task pace = served := by
  unfold tick
  rcases rests.halted with ended | ⟨paused, none_left⟩
  · have awake : ¬ (served.progress.lifecycle = .feedback ∧ served.replies = []) := by
      rintro ⟨paused, -⟩
      rw [paused] at ended
      cases ended
    have unpaused : served.progress.lifecycle ≠ .feedback := by
      intro paused
      rw [paused] at ended
      cases ended
    rw [if_neg awake]
    simp only [advance_ended h pace.budget g task pace.runId pace.tickId _ _ ended, later,
      if_neg unpaused, pagesIn, List.append_nil]
  · rw [if_pos ⟨paused, none_left⟩]

theorem Due.of_pause {p : Progress} {world : W} {replies later : List String} {next : String}
    (moved : prepare g p = p ∨ p.lifecycle.isTerminal = true) (counted : p.Counted)
    (isLeft : replies = next :: later) (paused : p.lifecycle = .feedback)
    (rest : Course fn ⟨g, task, "", ""⟩ close k ⟨p.unwaited, some next⟩ pages later) :
    Due fn g task close k ⟨p, world, replies, pages⟩ := by
  subst isLeft
  have active : p.lifecycle.isTerminal = false := by
    rw [paused]
    rfl
  have prepared : prepare g p = p := by
    rcases moved with same | ended
    · exact same
    · rw [active] at ended
      cases ended
  refine ⟨active, by simp, counted, ?_, ?_⟩
  · intro running
    simp only [paused] at running
    cases running
  · simpa [prepared, Served.offered, Served.later, paused] using rest

theorem Due.of_running {p : Progress} {world : W} {replies : List String}
    (moved : prepare g p = p ∨ p.lifecycle.isTerminal = true) (counted : p.Counted)
    (since : p.waitingSince = none) (running : p.lifecycle = .running)
    (rest : Course fn ⟨g, task, "", ""⟩ close k ⟨p.unwaited, none⟩ pages replies) :
    Due fn g task close k ⟨p, world, replies, pages⟩ := by
  have active := alive_of_running running
  have prepared : prepare g p = p := by
    rcases moved with same | ended
    · exact same
    · rw [active] at ended
      cases ended
  refine ⟨active, by simp [running], counted, fun _ => since, ?_⟩
  simpa [prepared, Served.offered, Served.later, running] using rest

/-- One tick brings a task to rest or leaves it with a shorter course. -/
theorem Due.tick (due : Due fn g task close k served) (sound : g.Sound)
    (untried : ∀ id handler routes retry, g.state? id = some (.action handler routes retry) →
      retry = none)
    (distinct : g.context.Distinct) (keeps : h.Keeps view keep) (sturdy : h.Sturdy)
    (follows : h.behaviour.Follows (computed fn)) (paced : pace.budget.Paced) :
    (served.tick h g task pace).Rests close ∨
      ∃ left < k, Due fn g task close left (served.tick h g task pace) := by
  obtain ⟨active, awaited, counted, since, course⟩ := due
  have serves := serves_answersBy keeps follows
  have cap : pace.budget.perTick ≤ pace.budget.perRun ∨ False := .inl paced.within
  obtain ⟨tick, entries, s, walk, -, ending⟩ := advance_walks serves (Graph.fit_of_valid sound.valid)
    pace.budget task pace.runId pace.tickId served.offered served.progress served.world active cap
  rw [served.acceptedReply_offered] at walk
  have based : Fields.Over g.context s.progress.context := walk.over (prepare_over distinct _)
  have counted' : s.progress.Counted := walk.counted (prepare_counted counted)
  have moved : prepare g s.progress = s.progress ∨ s.progress.lifecycle.isTerminal = true := by
    cases alive : s.progress.lifecycle.isTerminal with
    | true => exact .inr rfl
    | false =>
        obtain ⟨id, current⟩ := Walk.placed_of_alive walk ⟨_, rfl⟩ alive
        exact .inl (prepare_of_over based current)
  have along := Walk.along (walk.rename "" "") since course
  unfold Served.tick
  rw [if_neg awaited]
  simp only
  generalize advance h pace.budget g task pace.runId pace.tickId served.offered served.progress
    served.world = r at ending ⊢
  obtain ⟨⟨result, p⟩, world⟩ := r
  cases ending with
  | @stopped finish wrote halted ending events shown =>
      simp only [pagesIn, shown]
      cases along with
      | goes turns more since' silent rest =>
          rcases more with running | empty
          · exact absurd running halted
          · exact absurd empty wrote
      | closed closed => exact .inl closed
      | paused turns isLeft paused rest => exact .inr ⟨_, turns, .of_pause moved counted' isLeft paused rest⟩
  | @spent finish target node more count ahead work ending events shown =>
      simp only [pagesIn, shown]
      have some_moved : 1 ≤ entries.countP Entry.moves := count ▸ paced.moves
      have some_written : entries.countP Entry.moves ≤ entries.length := List.countP_le_length
      cases along with
      | @goes left turns more' since' silent rest =>
          have running : s.progress.lifecycle = .running := by
            rcases more with running | rfl
            · exact running
            · cases some_moved
          have unanswered : s.feedback = none := by
            rcases silent with none_left | ⟨still, -⟩
            · exact none_left
            · omega
          rw [unanswered] at rest
          exact .inr ⟨left, by omega, .of_running moved counted' (since' running) running rest⟩
      | closed closed => exact .inl closed
      | paused turns isLeft paused rest => exact .inr ⟨_, turns, .of_pause moved counted' isLeft paused rest⟩
  | @failed cause taskId wrote lifecycle error placed =>
      cases along with
      | goes turns more since' silent rest =>
          rcases more with running | empty
          · rw [lifecycle] at running
            cases running
          · exact absurd empty wrote
      | closed closed =>
          have fatal : close.fatal ≠ false := by
            intro mild
            obtain ⟨id, current⟩ := placed
            rcases closed.left mild with paused | unplaced
            · rw [lifecycle] at paused
              cases paused
            · rw [current] at unplaced
              cases unplaced
          exact .inl ⟨closed.lifecycle, closed.lastError, closed.context, fun mild => absurd mild fatal,
            closed.halted, closed.left⟩
      | paused turns isLeft paused rest =>
          rw [lifecycle] at paused
          cases paused
  | escaped calm escape =>
      exact (escape.impossible sound sturdy (.of_untried untried) counted' calm).elim

theorem Served.ticks_rest {start : Served W} {n : Nat}
    (rests : (start.ticks h g task paces n).Rests close) {m : Nat} (later : n ≤ m) :
    (start.ticks h g task paces m).Rests close := by
  induction later with
  | refl => exact rests
  | @step m later ih =>
      have still : start.ticks h g task paces (m + 1) = start.ticks h g task paces m :=
        Served.tick_rests ih
      rw [Nat.succ_eq_add_one, still]
      exact ih

/-- A task with a course comes to rest, and then nothing changes any more. -/
theorem Due.rests {start : Served W} {n : Nat}
    (due : Due fn g task close k (start.ticks h g task paces n)) (sound : g.Sound)
    (untried : ∀ id handler routes retry, g.state? id = some (.action handler routes retry) →
      retry = none)
    (distinct : g.context.Distinct) (keeps : h.Keeps view keep) (sturdy : h.Sturdy)
    (follows : h.behaviour.Follows (computed fn)) (paced : ∀ n, (paces n).budget.Paced) :
    ∃ enough, ∀ m, enough ≤ m → (start.ticks h g task paces m).Rests close := by
  induction k using Nat.strongRecOn generalizing n with
  | ind k ih =>
      rcases due.tick sound untried distinct keeps sturdy follows (paced n) with
        rests | ⟨left, fewer, later⟩
      · exact ⟨n + 1, fun m after => Served.ticks_rest (n := n + 1) rests after⟩
      · exact ih left fewer (n := n + 1) later

/-! ## From the start -/

theorem follows_close {fr : Frame F} (done : fr.graph.state? doneId = some (.terminal .done none))
    (result : Result) : Follows fn fr result.close [] doneId result := by
  cases result with
  | rested close => rfl
  | onward scene =>
      intro p holds
      exact .ended done ⟨rfl, rfl, holds.context, fun _ => rfl, .inl rfl, fun _ => .inr rfl⟩

theorem course_of_arrives {fr : Frame F} {p : Progress} {target : String} {script : List String}
    (queued : p.lifecycle = .queued) (here : p.currentStateId = some target) (named : target ≠ "")
    (arrives : Arrives fn fr close none ⟨Progress.begun p, none⟩ target pages script) :
    Leads fn fr close ⟨p.unwaited, none⟩ pages script := by
  have stands : position fr.graph p.unwaited = target := position_of_current here named
  cases arrives with
  | @ended status message found closed =>
      have next : foreseen (computed fn) fr ⟨p.unwaited, none⟩ =
          some (⟨none, (Progress.atEnd p.unwaited target status message none).unwaited, []⟩,
            none) := by
        unfold foreseen
        simp only [stands, found]
      refine ⟨0, .closes next ?_⟩
      rw [List.append_nil]
      exact closed
  | @onward node found work silent leads =>
      obtain ⟨k, rest⟩ := leads
      have idle : p.unwaited.lifecycle ≠ .running := by
        intro running
        have stage : p.lifecycle = .running := running
        rw [queued] at stage
        cases stage
      exact ⟨k + 1, .begins ⟨stands, found⟩ work idle rest⟩

/-- A new task of a pipe has a course to where running the pipe comes to rest. -/
theorem Supported.leads {node : Node F} (supported : Supported fn node) (id : String)
    (initial own : Fields) {script : List String}
    (worded : ∀ reply ∈ script, Text.isBlankText reply = false) (taskId workflowId : String)
    (task : TaskInfo) :
    Leads fn ⟨graphOf id initial node, task, "", ""⟩
      (node.meaning fn (Fields.overlay initial own) script)
      ⟨(prepare (graphOf id initial node) (.newTask taskId workflowId own)).unwaited, none⟩ []
      script := by
  have done : (graphOf id initial node).state? doneId = some (.terminal .done none) :=
    supported.built.state? List.mem_cons_self
  have failed : (graphOf id initial node).state? failedId = some (.terminal .failed none) :=
    supported.built.state? (List.mem_cons_of_mem _ List.mem_cons_self)
  have laid : ∀ emitted s, (emitted, s) ∈ statesOf (items node.numbering doneId node) →
      (graphOf id initial node).state? emitted = some s := by
    intro emitted s inside
    refine supported.built.state? ?_
    rw [states_graphOf]
    exact List.mem_append_right _ inside
  have placed : Placed (graphOf id initial node) [] (items node.numbering doneId node)
      (serials node.numbering node) :=
    ⟨laid, supported.built.numbering_nodup, fun _ _ _ => List.not_mem_nil⟩
  have named : entry node.numbering doneId node ≠ "" :=
    (supported.built.entered node.numbering doneId).named (by decide)
  refine course_of_arrives rfl rfl named ?_
  have holds : Holds
      ⟨Fields.erase replyKey (Fields.overlay initial own),
        readReply none (Fields.overlay initial own), script, []⟩ []
      (entry node.numbering doneId node)
      (Progress.begun (prepare (graphOf id initial node) (.newTask taskId workflowId own))) :=
    ⟨rfl, rfl, rfl, rfl, rfl, rfl, rfl, worded⟩
  exact supported.preserves failed node.numbering doneId [] _ _ (by decide) placed holds
    (follows_close done _)

/-- A pipe compiles, and a new task that is advanced through its graph comes to rest where running the
pipe does: with the same lifecycle, error, context and pages. The ticks may have any budgets, and every
pause gets the next reply of the script. -/
theorem pipe_rests_as_meant {node : Node F} (supported : Supported fn node) {initial : Fields}
    (distinct : initial.Distinct) {script : List String}
    (worded : ∀ reply ∈ script, Text.isBlankText reply = false)
    (keeps : h.Keeps view keep) (sturdy : h.Sturdy) (follows : h.behaviour.Follows (computed fn))
    (paced : ∀ n, (paces n).budget.Paced) (id taskId : String) (own : Fields) (task : TaskInfo)
    (world : W) :
    ∃ g, node.compile id initial = .ok g ∧ ∃ enough, ∀ n, enough ≤ n →
      (Served.ticks h g task paces ⟨.newTask taskId g.id own, world, script, []⟩ n).Rests
        (node.meaning fn (Fields.overlay initial own) script) := by
  refine ⟨graphOf id initial node, supported.compile, ?_⟩
  obtain ⟨k, course⟩ := supported.leads id initial own worded taskId id task
  have unpaused : ¬ ((Progress.newTask taskId id own).lifecycle = .feedback ∧ script = []) :=
    fun waits => nomatch waits.1
  have due : Due fn (graphOf id initial node) task
      (node.meaning fn (Fields.overlay initial own) script) k
      (⟨.newTask taskId id own, world, script, []⟩ : Served W) :=
    ⟨rfl, unpaused, ⟨nofun, nofun⟩, nofun, course⟩
  exact Due.rests (n := 0) due supported.sound
    (fun _ _ _ _ found => supported.untried found) distinct keeps sturdy follows paced

end

/-! ## A pipe that asks, repeats and decides -/

/-- The functions of a small pipe. -/
inductive Part where
  | read
  | raise
  | enough
  | choose
  | page

/-- A count in a context. -/
def countIn (context : Fields) : Int :=
  match field "count" context with
  | .int n => n
  | _ => 0

/-- A reply starts a count, which is raised up to two and shown. -/
def greeting : Functions Part
  | .read, _, reply => .ok (.dict [(.text "name", .ofOption reply), (.text "count", .int 0)])
  | .raise, context, _ => .ok (.dict [(.text "count", .int (countIn context + 1))])
  | .enough, context, _ => .ok (.bool (2 ≤ countIn context))
  | .choose, context, _ => .ok (.str (if countIn context = 2 then "two" else "more"))
  | .page, context, _ => .ok (field "name" context)

/-- The pipe of these functions. -/
def greetingPipe : Node Part :=
  .flow [.ask (.named "Name?") (.code .read .context) none,
    .loop (.step .raise none) .enough (.int 3) none none,
    .decide .choose [("two", .write .page none)] none none]

theorem countIn_erase (context : Fields) : countIn (Fields.erase replyKey context) = countIn context := by
  unfold countIn field
  rw [Fields.get?_erase_other (by decide)]

theorem greeting_blind (part : Part) : Blind greeting part := by
  intro context reply
  cases part with
  | read => rfl
  | raise => simp only [greeting, countIn_erase]
  | enough => simp only [greeting, countIn_erase]
  | choose => simp only [greeting, countIn_erase]
  | page =>
      simp only [greeting, field]
      rw [Fields.get?_erase_other (by decide)]

theorem greetingPipe_supported : Supported greeting greetingPipe := by
  have mute_raise : Mute greeting .raise := by
    rintro context reply v reading ⟨⟩ ⟨⟩
    rfl
  have mute_read : Mute greeting .read := by
    rintro context reply v reading ⟨⟩ ⟨⟩
    rfl
  refine .flow ?_
  intro node inside
  simp only [List.mem_cons, List.not_mem_nil, or_false] at inside
  rcases inside with rfl | rfl | rfl
  · refine .ask nofun ?_
    rintro f scope ⟨⟩
    exact ⟨greeting_blind _, mute_read⟩
  · exact .loop (greeting_blind _) (by decide) (.step (greeting_blind _) mute_raise) nofun
  · refine .decide (greeting_blind _) (by decide) ?_ nofun
    intro branch inside
    rw [List.mem_singleton.mp inside]
    exact .write (greeting_blind _)

def greetingHost : Host Part Unit where
  behaviour f call := pure (computed greeting f call)
  now := pure ⟨0⟩
  freshEventId := pure "row"
  freshTickId := pure "tick"
  sleep _ := pure ()
  checkpoint _ := pure ()
  record _ _ := pure ()

/-- The pipe asks once, counts to two and shows the name; its task does so in ticks of one transition. -/
theorem pipe_rests_as_meant_greeting :
    greetingPipe.meaning greeting [] ["  Ada "] =
      ⟨.done, none, [(.text "name", .str "Ada"), (.text "count", .int 2)],
        [.page (.str "Ada") .null], false⟩ ∧
    ∃ g, greetingPipe.compile "greeting" [] = .ok g ∧ ∃ enough, ∀ n, enough ≤ n →
      (Served.ticks greetingHost.overMemory g ⟨"t1", none, none, none⟩
        (fun _ => ⟨⟨1, 1⟩, "run", none⟩)
        ⟨.newTask "t1" g.id [], ((), .empty), ["  Ada "], []⟩ n).Rests
          (greetingPipe.meaning greeting (Fields.overlay [] []) ["  Ada "]) := by
  have follows : greetingHost.overMemory.behaviour.Follows (computed greeting) := by
    intro f call world
    cases call <;> rfl
  refine ⟨by decide +kernel, ?_⟩
  exact pipe_rests_as_meant greetingPipe_supported List.Pairwise.nil (by decide +kernel)
    greetingHost.overMemory_keeps greetingHost.overMemory_sturdy follows
    (fun _ => ⟨Nat.le_refl 1, Nat.le_refl 1⟩) "greeting" "t1" [] _ _

end Pipe

end Tickwork
