import Tickwork.Proofs.Calls
import Tickwork.Proofs.Replies.Histories
import Tickwork.Proofs.Requests

/-!
# Accepted replies

A reply that was accepted is not overwritten. Main statement: however others give replies to a task
between the operations of a strict tick, each reply that was accepted stays in the context that is kept of
the task until the worker writes that has loaded it; but for a reply that comes after the worker has
loaded the paused task, to which it was given another reply, and before it writes for the first time.
-/

set_option autoImplicit false

namespace Tickwork

variable {σ α β : Type}

namespace Scene

/-- A property of histories holds of a scene. -/
def Has (taskId : String) (P : List Moment → Option Columns → Prop) (s : Scene σ) : Prop :=
  P s.history (s.shop.tables.columns? taskId)

variable {taskId : String} {P : List Moment → Option Columns → Prop} {s : Scene σ}

theorem Has.shop (has : s.Has taskId P) {shop : Shop}
    (same : shop.tables.columns? taskId = s.shop.tables.columns? taskId) :
    Has taskId P { s with shop } := by
  unfold Has
  rw [same]
  exact has

theorem Has.note (steady : Steady taskId P) (has : s.Has taskId P) {what : Happening}
    (quiet : Moment.Quiet ⟨what, s.shop.tables⟩) : (s.note what).Has taskId P :=
  steady.quiet has quiet rfl

theorem Has.receive (steady : Steady taskId P) (has : s.Has taskId P) (visitor : Visitor) :
    (s.receive taskId visitor).Has taskId P := by
  cases visitor with
  | pass micros => exact has
  | reply text =>
      unfold Scene.receive
      simp only
      cases given : s.shop.tables.submitReply s.shop.now taskId text with
      | error fault => exact has.note steady (.inr ⟨text, rfl⟩)
      | ok landed =>
          cases landed with
          | none => exact has.note steady (.inr ⟨text, rfl⟩)
          | some t =>
              obtain ⟨paused, c, here, running, written, keeps⟩ :=
                Tables.columns?_submitReply (steady.sound has).written given
              refine steady.accepted has ⟨paused, ⟨c, here, running, keeps⟩, ?_⟩ rfl
              intro c' here'
              obtain rfl : c = c' := Option.some.inj (here.symm.trans here')
              exact written

theorem Has.welcome (steady : Steady taskId P) (has : s.Has taskId P) (visits : Visits σ) :
    (s.welcome visits taskId).Has taskId P := by
  unfold Scene.welcome
  have here : Has taskId P { s with course := (visits s.course).2 } := has
  generalize Scene.mk s.shop (visits s.course).2 s.history = s' at here
  generalize (visits s.course).1 = visitors
  induction visitors generalizing s' with
  | nil => exact here
  | cons visitor rest ih => exact ih _ (here.receive steady visitor)

end Scene

/-! ## Work in a scene -/

/-- What work in a scene leads to from a scene of some kind: to one kind if it succeeds, to another if it
fails. -/
def Amid.Leads (before : Scene σ → Prop) (act : Amid σ α) (after : α → Scene σ → Prop)
    (broken : Scene σ → Prop) : Prop :=
  ∀ s, before s → (∃ a s', act.run s = (.ok a, s') ∧ after a s') ∨
    ∃ fault s', act.run s = (.error fault, s') ∧ broken s'

theorem Amid.run_work_of_ok {visits : Visits σ} {taskId : String} {act : Work α} {s : Scene σ} {a : α}
    {shop : Shop} (ran : act.run (s.welcome visits taskId).shop = (.ok a, shop))
    (happens : α → Happening) :
    (Amid.work visits taskId happens act).run s =
      (.ok a, Scene.note (happens a) { s.welcome visits taskId with shop }) := by
  have ran' : act (s.welcome visits taskId).shop = (.ok a, shop) := ran
  simp only [Amid.work, Amid.inShop, ExceptT.run, ExceptT.mk, ran']

theorem Amid.run_work_of_error {visits : Visits σ} {taskId : String} {act : Work α} {s : Scene σ}
    {fault : Fault} {shop : Shop} (ran : act.run (s.welcome visits taskId).shop = (.error fault, shop))
    (happens : α → Happening) :
    (Amid.work visits taskId happens act).run s =
      (.error fault, Scene.note .worked { s.welcome visits taskId with shop }) := by
  have ran' : act (s.welcome visits taskId).shop = (.error fault, shop) := ran
  simp only [Amid.work, Amid.inShop, ExceptT.run, ExceptT.mk, ran']

namespace Amid.Leads

open Scene

variable {taskId : String} {P : List Moment → Option Columns → Prop} {visits : Visits σ}
variable {before broken : Scene σ → Prop}

theorem pure {after : α → Scene σ → Prop} (a : α) (here : ∀ s, before s → after a s) :
    Leads before (Pure.pure a) after broken := fun s known => .inl ⟨a, s, rfl, here s known⟩

theorem throw {after : α → Scene σ → Prop} (fault : Fault) (here : ∀ s, before s → broken s) :
    Leads before (throw fault) after broken := fun s known => .inr ⟨fault, s, rfl, here s known⟩

theorem bind {act : Amid σ α} {next : α → Amid σ β} {middle : α → Scene σ → Prop}
    {after : β → Scene σ → Prop} (first : Leads before act middle broken)
    (later : ∀ a, Leads (middle a) (next a) after broken) :
    Leads before (act >>= next) after broken := by
  intro s known
  rcases first s known with ⟨a, s', ran, here⟩ | ⟨fault, s', ran, here⟩
  · rw [Work.run_bind_of_ok ran]
    exact later a s' here
  · exact .inr ⟨fault, s', Work.run_bind_of_error ran next, here⟩

theorem given {q : Prop} {act : Amid σ α} {after : α → Scene σ → Prop}
    (leads : q → Leads before act after broken) :
    Leads (fun s => before s ∧ q) act after broken := fun s known => leads known.2 s known.1

theorem lift {act : StateM (Scene σ) α} {after : α → Scene σ → Prop}
    (leads : ∀ s, before s → after (act s).1 (act s).2) :
    Leads before (liftM act : Amid σ α) after broken := fun s known =>
  .inl ⟨(act s).1, (act s).2, rfl, leads s known⟩

theorem weaken {act : Amid σ α} {after after' : α → Scene σ → Prop} {broken' : Scene σ → Prop}
    (leads : Leads before act after broken) (ok : ∀ a s, after a s → after' a s)
    (bad : ∀ s, broken s → broken' s) : Leads before act after' broken' := fun s known =>
  (leads s known).imp (fun ⟨a, s', ran, here⟩ => ⟨a, s', ran, ok a s' here⟩)
    fun ⟨fault, s', ran, here⟩ => ⟨fault, s', ran, bad s' here⟩

theorem quietly {act : Work α} (leaves : Shop.LeavesTask taskId act) :
    Leads (Has taskId P) (Amid.quietly act : Amid σ α) (fun _ => Has taskId P) (Has taskId P) := by
  intro s known
  have same := leaves s.shop
  cases ran : act.run s.shop with
  | mk result shop =>
      rw [ran] at same
      have here : Has taskId P { s with shop } := known.shop same
      have done : (Amid.quietly act : Amid σ α).run s = (result, { s with shop }) := by
        show ((act.run s.shop).1, { s with shop := (act.run s.shop).2 }) = _
        rw [ran]
      cases result with
      | ok a => exact .inl ⟨a, _, done, here⟩
      | error fault => exact .inr ⟨fault, _, done, here⟩

/-- What becomes of a scene when the worker does something with the tables: visitors come first. -/
theorem work {happens : α → Happening} {act : Work α} {after : α → Scene σ → Prop}
    (steady : Steady taskId P)
    (acts : ∀ s : Scene σ, s.Has taskId P →
      (∃ a shop, act.run s.shop = (.ok a, shop) ∧ after a (Scene.note (happens a) { s with shop })) ∨
      ∃ fault shop, act.run s.shop = (.error fault, shop) ∧
        broken (Scene.note .worked { s with shop })) :
    Leads (Has taskId P) (Amid.work visits taskId happens act) after broken := by
  intro s known
  rcases acts _ (known.welcome steady visits) with ⟨a, shop, ran, next⟩ | ⟨fault, shop, ran, next⟩
  · exact .inl ⟨a, _, run_work_of_ok ran happens, next⟩
  · exact .inr ⟨fault, _, run_work_of_error ran happens, next⟩

theorem aside {act : Work α} (steady : Steady taskId P) (leaves : Shop.LeavesTask taskId act) :
    Leads (Has taskId P) (Amid.work visits taskId (fun _ => .worked) act)
      (fun _ => Has taskId P) (Has taskId P) := by
  refine .work steady fun s known => ?_
  have same := leaves s.shop
  cases ran : act.run s.shop with
  | mk result shop =>
      rw [ran] at same
      have here : Has taskId P { s with shop } := known.shop same
      cases result with
      | ok a => exact .inl ⟨a, shop, rfl, here.note steady (.inl rfl)⟩
      | error fault => exact .inr ⟨fault, shop, rfl, here.note steady (.inl rfl)⟩

end Amid.Leads

/-! ## The phases of a tick -/

namespace Shop

open Scene Amid

variable {taskId : String} {visits : Visits σ} {runner : Runner}

/-- The worker has loaded its task and may write it. -/
abbrev MayWrite (taskId : String) : Scene σ → Prop := Has taskId (Under taskId)

theorem load_leads : Leads (Has taskId (Ahead taskId)) (work visits taskId .loaded (load taskId))
    (fun p s => MayWrite taskId s ∧ p.taskId = taskId) (Has taskId (Ahead taskId)) := by
  refine .work steady_ahead fun s ahead => ?_
  obtain ⟨result, ran, loads⟩ := run_load taskId s.shop
  cases result with
  | error fault => exact .inr ⟨fault, _, ran, ahead.note steady_ahead (.inl rfl)⟩
  | ok p =>
      obtain ⟨own, c, here, context, stage⟩ := loads p rfl
      exact .inl ⟨p, _, ran, Ahead.loaded ahead here context stage rfl, own⟩

/-- What a write leaves behind. The task may be written again unless it is paused now. -/
def AfterWrite (taskId : String) (p : Progress) (s : Scene σ) : Prop :=
  s.Has taskId (Sound taskId) ∧ (p.lifecycle ≠ .feedback → MayWrite taskId s)

theorem guardedWrite_leads (row : Option Transition) {p : Progress} (own : p.taskId = taskId) :
    Leads (MayWrite taskId)
      (work visits taskId (fun landed => if landed then .wrote p else .worked) do
        attempt (guardedWrite runner.workerId row p))
      (fun landed s => if landed = true then AfterWrite taskId p s else MayWrite taskId s)
      (MayWrite taskId) := by
  refine .work steady_under fun s under => ?_
  rw [run_attempt]
  cases came : guardedWrite runner.workerId row p s.shop.tables s.shop.now with
  | error fault => exact .inr ⟨fault, _, rfl, Has.note steady_under under (.inl rfl)⟩
  | ok landed =>
      refine .inl ?_
      cases landed with
      | none => exact ⟨false, _, rfl, Has.note steady_under under (.inl rfl)⟩
      | some t =>
          obtain ⟨c, here, stage, written⟩ := Tables.columns?_guardedWrite came
          rw [own] at here
          refine ⟨true, _, rfl, ?_⟩
          have wrote := Under.wrote under here written stage
          rw [← here] at wrote
          exact wrote

/-- A write of a task that may be written. -/
theorem writeAmid_leads (row : Option Transition) {p : Progress} (own : p.taskId = taskId) :
    Leads (MayWrite taskId) (writeAmid visits runner taskId row p) (fun _ => AfterWrite taskId p)
      (MayWrite taskId) := by
  unfold writeAmid
  refine .bind (.aside steady_under (.attempt fun _ _ _ lands => Tables.columns?_claim lands))
    fun held => ?_
  cases held with
  | false => exact .throw _ fun _ known => known
  | true =>
      refine .bind (guardedWrite_leads row own) fun landed => ?_
      cases landed with
      | false => exact .throw _ fun _ known => known
      | true => exact .pure _ fun _ known => known

/-! ## The engine -/

section Engine

open Engine

variable {perform : Request → StateM Shop Unit} {fr : Frame Code}

/-- What a scene shows of the task: the history and the tables. -/
def shown (s : Scene σ) : List Moment × Tables := (s.history, s.shop.tables)

theorem has_congr {P : List Moment → Option Columns → Prop} {s s' : Scene σ} (same : shown s' = shown s)
    (has : s.Has taskId P) : s'.Has taskId P := by
  obtain ⟨history, tables⟩ := Prod.mk.inj same
  unfold Has
  rw [history, tables]
  exact has

/-- Callables leave history and tables alone if their requests leave the tables alone. -/
theorem behaviour_shown (spares : Spares Shop.tables perform) (f : Code) (call : Call) (s : Scene σ) :
    shown ((hostAmid visits perform runner taskId).behaviour f call s).2 = shown s := by
  have left : ((host perform runner taskId).behaviour f call s.shop).2.tables = s.shop.tables :=
    Routine.behaviour_leaves (fun _ _ => rfl) spares f call s.shop
  exact congrArg (Prod.mk s.history) left

theorem idles_shown {s s' : Scene σ}
    (idles : Idles (hostAmid visits perform runner taskId) s s') : shown s' = shown s := by
  induction idles with
  | still => rfl
  | now _ ih => exact ih
  | named _ ih => exact ih
  | slept _ delay ih => exact ih

theorem tickIdFor_shown (given : Option String) (s : Scene σ) :
    shown (tickIdFor (hostAmid visits perform runner taskId) given s).2 = shown s := by
  unfold tickIdFor
  cases firstNonempty [given] <;> rfl

theorem asked_shown (spares : Spares Shop.tables perform) {a : Spot (Scene σ)} {id : String}
    {node : State Code} {q : Question Code} {j : Judgement Verdict} {s : Scene σ}
    (asked : Asked (hostAmid visits perform runner taskId) fr a id node q j s) :
    shown s = shown a.world := by
  have consults := q.ask_consults (hostAmid visits perform runner taskId).behaviour a.world
  rw [asked.leaves] at consults
  exact consults.view (behaviour_shown spares)

/-- Where the engine may write the task: the worker may, and it is the task of the tick. -/
def Writable (taskId : String) (a : Spot (Scene σ)) : Prop :=
  MayWrite taskId a.world ∧ a.stance.progress.taskId = taskId

variable {a b : Spot (Scene σ)}

theorem Writable.unasked (writable : Writable taskId a) {p : Progress} {s : Scene σ}
    (plain : Unasked (hostAmid visits perform runner taskId) fr a p s) :
    MayWrite taskId s ∧ p.taskId = taskId := by
  cases plain with
  | begin stands work idle => exact writable
  | halt stands => exact writable
  | rest stands => exact ⟨has_congr rfl writable.1, writable.2⟩

theorem Writable.asked (spares : Spares Shop.tables perform) (writable : Writable taskId a)
    {id : String} {node : State Code} {q : Question Code} {j : Judgement Verdict} {s : Scene σ}
    (asked : Asked (hostAmid visits perform runner taskId) fr a id node q j s) :
    Writable taskId ⟨j.after, s⟩ := by
  refine ⟨has_congr (asked_shown spares asked) writable.1, ?_⟩
  rw [← asked.judged]
  exact (reacted_samePlace id a.stance node _).taskId.trans writable.2

theorem Writable.due (spares : Spares Shop.tables perform) (writable : Writable taskId a)
    {row : Transition} {s : Stance} {w : Scene σ}
    (due : Due (hostAmid visits perform runner taskId) fr a row s w) : Writable taskId ⟨s, w⟩ := by
  obtain ⟨id, node, q, j, verdict, now, world, asked, -, -, lands, idles⟩ := due.asked
  obtain ⟨open', own⟩ := writable.asked spares asked
  exact ⟨has_congr (idles_shown idles) open', (landing_of_landed lands).taskId.trans own⟩

theorem MayWrite.wrote {row : Option Transition} {p : Progress} {s s' : Scene σ}
    (open' : MayWrite taskId s) (own : p.taskId = taskId)
    (wrote : (writeAmid visits runner taskId row p).run s = (.ok (), s')) : AfterWrite taskId p s' := by
  rcases writeAmid_leads row own s open' with ⟨a, after, ran, here⟩ | ⟨fault, after, ran, here⟩
  · rw [wrote] at ran
    cases ran
    exact here
  · rw [wrote] at ran
    cases ran

theorem MayWrite.broke {row : Option Transition} {p : Progress} {s s' : Scene σ} {fault : Fault}
    (open' : MayWrite taskId s) (own : p.taskId = taskId)
    (broke : (writeAmid visits runner taskId row p).run s = (.error fault, s')) :
    MayWrite taskId s' := by
  rcases writeAmid_leads row own s open' with ⟨a, after, ran, here⟩ | ⟨fault, after, ran, here⟩
  · rw [broke] at ran
    cases ran
  · rw [broke] at ran
    cases ran
    exact here

/-- A turn leaves a sound history behind; the engine may go on writing unless the task is paused now. -/
theorem pass_sound (spares : Spares Shop.tables perform) (writable : Writable taskId a)
    (pass : Pass (hostAmid visits perform runner taskId) fr a b) :
    b.world.Has taskId (Sound taskId) ∧
      (b.stance.progress.lifecycle ≠ .feedback → Writable taskId b) := by
  cases pass with
  | unasked plain wrote =>
      obtain ⟨open', own⟩ := writable.unasked plain
      obtain ⟨sound, free⟩ := open'.wrote own wrote
      exact ⟨sound, fun busy => ⟨free busy, own⟩⟩
  | visit due wrote waits =>
      obtain ⟨open', own⟩ := writable.due spares due
      obtain ⟨sound, free⟩ := open'.wrote own wrote
      have same := idles_shown waits
      exact ⟨has_congr same sound, fun busy => ⟨has_congr same (free busy), own⟩⟩

theorem passes_writable (spares : Spares Shop.tables perform) (writable : Writable taskId a)
    (passes : Passes (hostAmid visits perform runner taskId) fr a b) : Writable taskId b := by
  refine passes.keeps (P := Writable taskId) (fun before pass running => ?_) writable
  refine (pass_sound spares before pass).2 ?_
  rw [running]
  exact nofun

theorem cut_writable (spares : Spares Shop.tables perform) (writable : Writable taskId a)
    {fault : Fault} (cut : Cut (hostAmid visits perform runner taskId) fr a fault b) :
    Writable taskId b := by
  cases cut with
  | stuck cause => exact writable
  | overlong calm => exact writable
  | judged asked refused => exact writable.asked spares asked
  | unrouted asked decided => exact writable.asked spares asked
  | unwritten plain broke =>
      obtain ⟨open', own⟩ := writable.unasked plain
      exact ⟨open'.broke own broke, own⟩
  | unrecorded due broke =>
      obtain ⟨open', own⟩ := writable.due spares due
      exact ⟨open'.broke own broke, own⟩

/-- However an advance ends, it leaves a sound history behind. -/
theorem ended_sound (spares : Spares Shop.tables perform) (writable : Writable taskId a)
    {result : Except Fault Finish} {p : Progress} {s : Scene σ}
    (ended : Ended (hostAmid visits perform runner taskId) fr a result p s) :
    s.Has taskId (Sound taskId) := by
  cases ended with
  | reports reaches finish =>
      cases reaches with
      | alive passes => exact (passes_writable spares writable passes).1.toSound
      | last passes pass => exact (pass_sound spares (passes_writable spares writable passes) pass).1
  | @gaveUp cause id b c w named passes cut wrote =>
      obtain ⟨open', own⟩ := cut_writable spares (passes_writable spares writable passes) cut
      have failed : (Progress.failedWith c.stance.progress cause.message).taskId = taskId := own
      exact (open'.wrote failed wrote).1
  | @unkept cause id b c w fault passes cut broke =>
      obtain ⟨open', own⟩ := cut_writable spares (passes_writable spares writable passes) cut
      have failed : (Progress.failedWith c.stance.progress cause.message).taskId = taskId := own
      exact (open'.broke failed broke).toSound
  | escaped passes cut calm =>
      exact (cut_writable spares (passes_writable spares writable passes) cut).1.toSound

theorem advance_sound (spares : Spares Shop.tables perform) {g : Graph Code} (valid : g.violations = [])
    (budget : Budget) (task : TaskInfo) (runId : String) (tickId feedback : Option String) {p : Progress}
    {s : Scene σ} (open' : MayWrite taskId s) (own : p.taskId = taskId) :
    (advance (hostAmid visits perform runner taskId) budget g task runId tickId feedback p
      s).2.Has taskId (Sound taskId) := by
  cases active : p.lifecycle.isTerminal with
  | true =>
      rw [advance_ended _ _ _ _ _ _ _ _ active]
      exact open'.toSound
  | false =>
      have ended := advance_ends (hostAmid visits perform runner taskId)
        (Graph.fit_of_valid valid).wholeLimits budget task runId tickId feedback p s active
      exact ended_sound spares ⟨has_congr (tickIdFor_shown tickId s) open', own⟩ ended

end Engine

/-! ## The tick -/

section Tick

variable {perform : Request → StateM Shop Unit}

/-- Where a tick may end. -/
abbrev Rests (taskId : String) : Scene σ → Prop := Has taskId (Sound taskId)

theorem verifyAmid_leads :
    Leads (Rests taskId) (verifyAmid visits taskId) (fun _ => Rests taskId) (Rests taskId) := by
  unfold verifyAmid
  exact .bind (.aside steady_sound (.getTask _)) fun task => .bind (.quietly (.graph _)) fun g =>
    .bind (.aside steady_sound (.bind .get fun _ => .pure _)) fun rows =>
      .bind (.aside steady_sound (.load _)) fun p => .quietly (.ofExcept _)

/-- An advance of a graph without violations, from where the task is loaded on. -/
theorem advanceTaskAmid_leads (spares : Spares Shop.tables perform) {g : Graph Code}
    (valid : g.violations = []) (task : TaskView) (own : task.row.taskId = taskId)
    (feedback : Option String) :
    Leads (Has taskId (Ahead taskId)) (advanceTaskAmid visits perform runner task g feedback)
      (fun _ => Rests taskId) (Rests taskId) := by
  unfold advanceTaskAmid
  rw [own]
  refine .bind (.weaken load_leads (fun _ _ => id) fun _ ahead => Ahead.toSound ahead) fun p => ?_
  refine .given fun own' => ?_
  have started : Leads (MayWrite taskId) (work visits taskId (fun _ => .worked) (startRun taskId))
      (fun _ => MayWrite taskId) (Rests taskId) :=
    .weaken (.aside steady_under (.startRun taskId)) (fun _ _ => id) fun _ under => Under.toSound under
  have advanced : ∀ runId : String, Leads (MayWrite taskId)
      (liftM (Engine.advance (hostAmid visits perform runner taskId) runner.budget g task.row.info runId
        none feedback p) : Amid σ (Except Fault Finish × Progress))
      (fun _ => Rests taskId) (Rests taskId) := fun runId =>
    .lift fun s open' => advance_sound spares valid runner.budget task.row.info runId none feedback
      open' own'
  refine .bind started fun runId => .bind (advanced runId) fun answer => ?_
  obtain ⟨result, q⟩ := answer
  have noted : ∀ status : RunStatus, Leads (Rests taskId)
      (work visits taskId (fun _ => .worked) (finishRun runId status)) (fun _ => Rests taskId)
      (Rests taskId) := fun status => .aside steady_sound (.finishRun runId status)
  cases result with
  | error fault =>
      cases fault with
      | fatal cause named =>
          exact .bind (noted _) fun _ => .bind (.quietly (.announce _)) fun _ =>
            .pure _ fun _ => id
      | _ => exact .throw _ fun _ => id
  | ok finish =>
      refine .bind (noted _) fun _ => .bind (.quietly (.tellOf _ _ _ _)) fun _ => ?_
      by_cases checked : runner.verifyReplay = true
      · rw [if_pos checked]
        exact .bind verifyAmid_leads fun _ => .pure _ fun _ => id
      · rw [if_neg checked]
        exact .pure _ fun _ => id

theorem releasingAmid_leads {act : Amid σ α} {before : Scene σ → Prop}
    (leads : Leads before act (fun _ => Rests taskId) (Rests taskId)) :
    Leads before (releasingAmid visits runner taskId act) (fun _ => Rests taskId) (Rests taskId) := by
  have given : ∀ s : Scene σ, Rests taskId s → Rests taskId
      ((work visits taskId (fun _ => .worked) (giveBack runner taskId)).run s).2 := by
    intro s rests
    have leaves : LeavesTask taskId (giveBack runner taskId) := fun _ =>
      Tables.columns?_release runner.workerId taskId
    rcases Leads.aside steady_sound leaves s rests with ⟨a, s', ran, here⟩ | ⟨fault, s', ran, here⟩
    · rw [ran]
      exact here
    · rw [ran]
      exact here
  intro s known
  have runs : (releasingAmid visits runner taskId act).run s = ((act.run s).1,
      ((work visits taskId (fun _ => .worked) (giveBack runner taskId)).run (act.run s).2).2) := rfl
  rw [runs]
  rcases leads s known with ⟨a, s', ran, here⟩ | ⟨fault, s', ran, here⟩
  · rw [ran]
    exact .inl ⟨a, _, rfl, given s' here⟩
  · rw [ran]
    exact .inr ⟨fault, _, rfl, given s' here⟩

theorem welcome_graphs (s : Scene σ) : (s.welcome visits taskId).shop.graphs = s.shop.graphs := by
  have received : ∀ (s : Scene σ) (visitor : Visitor),
      (s.receive taskId visitor).shop.graphs = s.shop.graphs := by
    intro s visitor
    unfold Scene.receive
    split
    · rfl
    · split <;> rfl
  unfold Scene.welcome
  have here : (Scene.mk s.shop (visits s.course).2 s.history).shop.graphs = s.shop.graphs := rfl
  generalize Scene.mk s.shop (visits s.course).2 s.history = s' at here
  generalize (visits s.course).1 = visitors
  induction visitors generalizing s' with
  | nil => exact here
  | cons visitor rest ih => exact ih _ ((received s' visitor).trans here)

/-- Where the worker may look for its task. -/
def Looking (taskId : String) (graphs : List (String × Graph Code)) (s : Scene σ) : Prop :=
  s.Has taskId (Ahead taskId) ∧ s.shop.graphs = graphs

theorem getTask_leads (graphs : List (String × Graph Code)) :
    Leads (Looking taskId graphs) (work visits taskId (fun _ => .worked) (getTask taskId))
      (fun task s => Looking taskId graphs s ∧ task.row.taskId = taskId) (Rests taskId) := by
  intro s looking
  have ahead := looking.1.welcome steady_ahead visits
  have same : (s.welcome visits taskId).shop.graphs = graphs := (welcome_graphs s).trans looking.2
  obtain ⟨result, ran, finds⟩ := run_getTask taskId (s.welcome visits taskId).shop
  have here : Has taskId (Ahead taskId) ((s.welcome visits taskId).note .worked) :=
    ahead.note steady_ahead (.inl rfl)
  cases result with
  | error fault => exact .inr ⟨fault, _, run_work_of_error ran _, Ahead.toSound here⟩
  | ok task =>
      exact .inl ⟨task, _, run_work_of_ok ran _, ⟨here, same⟩,
        Tables.taskId_of_task? (finds task rfl)⟩

theorem graph_leads {graphs : List (String × Graph Code)} (workflowId : String)
    (valid : ∀ id g, graphs.lookup id = some g → g.violations = []) :
    Leads (Looking taskId graphs) (quietly (graph workflowId) : Amid σ (Graph Code))
      (fun g s => s.Has taskId (Ahead taskId) ∧ g.violations = []) (Rests taskId) := by
  intro s looking
  obtain ⟨result, ran, finds⟩ := run_graph workflowId s.shop
  have runs : (quietly (graph workflowId) : Amid σ (Graph Code)).run s = (result, s) := by
    show (((graph workflowId).run s.shop).1, { s with shop := ((graph workflowId).run s.shop).2 }) = _
    rw [ran]
  rw [runs]
  cases result with
  | error fault => exact .inr ⟨fault, _, rfl, looking.1.toSound⟩
  | ok g => exact .inl ⟨g, _, rfl, looking.1, valid _ _ (looking.2 ▸ finds g rfl)⟩

/-- A tick leaves a sound history behind, however it ends. -/
theorem tickAmid_leads (spares : Spares Shop.tables perform) {graphs : List (String × Graph Code)}
    (valid : ∀ id g, graphs.lookup id = some g → g.violations = []) (feedback : Option String) :
    Leads (Looking taskId graphs) (tickAmid visits perform runner taskId feedback)
      (fun _ => Rests taskId) (Rests taskId) := by
  unfold tickAmid
  refine .bind (getTask_leads graphs) fun task => .given fun own => ?_
  by_cases ended : task.row.columns.lifecycle.isTerminal = true
  · rw [if_pos ended]
    exact .pure _ fun _ looking => Ahead.toSound looking.1
  · rw [if_neg ended]
    by_cases waits : task.row.columns.lifecycle = .feedback ∧ feedback = none
    · rw [if_pos waits]
      exact .pure _ fun _ looking => Ahead.toSound looking.1
    · rw [if_neg waits]
      refine .bind (graph_leads _ valid) fun g => .given fun valid' => ?_
      have acquired : Leads (Has taskId (Ahead taskId)) (work visits taskId (fun _ => .worked) do
          attempt fun t now => t.acquire now taskId runner.workerId runner.leaseSpan)
          (fun _ => Has taskId (Ahead taskId)) (Rests taskId) :=
        .weaken (.aside steady_ahead (.attempt fun _ _ _ lands => Tables.columns?_claim lands))
          (fun _ _ => id) fun _ ahead => Ahead.toSound ahead
      refine .bind acquired fun acquired => ?_
      cases acquired with
      | false => exact .pure _ fun _ ahead => Ahead.toSound ahead
      | true =>
          exact releasingAmid_leads (advanceTaskAmid_leads spares valid' task own feedback)

end Tick

/-- However others give replies to the task between the operations of a strict tick, and whatever the
callables do that leave the tables alone: each reply that was accepted stays in the context that is kept
of the task until the worker has loaded it and writes, but for a reply that comes between the load of the
paused task and the first write. -/
theorem accepted_reply_stays (visits : Visits σ) {perform : Request → StateM Shop Unit}
    (spares : Spares Shop.tables perform) (runner : Runner) (taskId : String)
    (feedback : Option String) {s after : Scene σ} (new : s.history = [])
    (written : ∀ c, s.shop.tables.columns? taskId = some c → c.Written)
    (valid : ∀ id g, s.shop.graphs.lookup id = some g → g.violations = [])
    {result : Except Fault TickReport}
    (ticked : (tickAmid visits perform runner taskId feedback).run s = (result, after))
    {earlier since rest : List Moment} {text : String} {t : Tables}
    (happened : after.history = earlier ++ ⟨.replied text true, t⟩ :: since ++ rest)
    (heedful : ¬ Heedless earlier) :
    Heeded text since ∨ ∃ c, (tablesAfter t since).columns? taskId = some c ∧ c.Keeps text := by
  have none' : ∀ front, front <+: s.history → Faithful taskId front := by
    rw [new]
    intro front begins earlier text t since same
    rw [List.prefix_nil.mp begins] at same
    simp at same
  have start : Looking taskId s.shop.graphs s := by
    refine ⟨⟨⟨written, none', ?_⟩, ?_⟩, rfl⟩
    · intro earlier text t since same
      rw [new] at same
      simp at same
    · rw [new]
      exact fun _ _ => List.not_mem_nil
  have sound : after.Has taskId (Sound taskId) := by
    have leads : Leads (Looking taskId s.shop.graphs)
        (tickAmid visits perform runner taskId feedback) (fun _ => Rests taskId) (Rests taskId) :=
      tickAmid_leads spares valid feedback
    rcases leads s start with ⟨report, s', ran, here⟩ | ⟨fault, s', ran, here⟩
    all_goals
      rw [ticked] at ran
      cases ran
      exact here
  exact sound.past _ (happened ▸ List.prefix_append _ _) earlier text t since rfl heedful

/-! ## A reply before the load, and one after it -/

/-- A factory that asks whether to go on, and pauses until it is told. -/
def asking : Graph Code where
  id := "demo"
  start := "confirm"
  context := []
  states :=
    [("confirm", .action (.ask (.named "Continue?") none)
        ⟨some "finish", some "finish", some "wait"⟩ none),
      ("wait", .feedback "confirm"), ("finish", .terminal .done none)]
  guards := []
  handlers := []

/-- Tables with a task of that factory that waits for a reply. -/
def waitingTask : Tables where
  tasks :=
    [{ taskId := "t1", workflowId := "demo", externalId := none, title := none, prompt := none,
       contextText := none,
       columns := { Columns.fresh (.dict []) with
         currentStateId := some "confirm", lifecycle := .feedback, waitingSince := some ⟨0⟩ },
       activeRunId := none, lease := none, createdAt := ⟨0⟩, updatedAt := ⟨0⟩ }]
  runs := []
  rows := []

def parties : Visits (List (List Visitor))
  | [] => ([], [])
  | party :: rest => (party, rest)

/-- A scene with that task, in which such visitors are to come. -/
def waitingScene (course : List (List Visitor)) : Scene (List (List Visitor)) where
  shop := { Shop.opened ⟨0⟩ with tables := waitingTask, graphs := [("demo", asking)] }
  course := course
  history := []

def waitingTick (course : List (List Visitor)) (feedback : Option String) :
    Except Fault TickReport × Scene (List (List Visitor)) :=
  (tickAmid parties (fun _ => pure ()) (claimant 30) "t1" feedback).run (waitingScene course)

def keptReplyOf (t : Tables) : Option Value :=
  (t.columns? "t1").bind fun c =>
    match c.context with
    | .dict fields => Fields.get? replyKey fields
    | _ => none

/-- Whether a reply was the first thing that happened, and was accepted. -/
def beginsWith (text : String) : List Moment → Bool
  | ⟨.replied text' true, _⟩ :: _ => text' == text
  | _ => false

theorem eq_of_beginsWith {text : String} {moments : List Moment}
    (begins : beginsWith text moments = true) :
    ∃ t since, moments = [] ++ ⟨.replied text true, t⟩ :: since ++ [] := by
  unfold beginsWith at begins
  split at begins
  · rename_i text' t since
    rw [beq_iff_eq] at begins
    exact ⟨t, since, by simp [begins]⟩
  · cases begins

/-- A reply that comes before the tick looks at its task is kept until the tick has loaded it and
writes. -/
theorem accepted_reply_stays_early :
    ∃ t since, (waitingTick [[.reply "yes"]] none).2.history =
        [] ++ ⟨.replied "yes" true, t⟩ :: since ++ [] ∧
      (Heeded "yes" since ∨
        ∃ c, (tablesAfter t since).columns? "t1" = some c ∧ c.Keeps "yes") := by
  obtain ⟨t, since, happened⟩ := eq_of_beginsWith
    (show beginsWith "yes" (waitingTick [[.reply "yes"]] none).2.history = true by decide +kernel)
  have written : ∀ c, waitingTask.columns? "t1" = some c → c.Written := by
    rintro _ ⟨⟩
    exact ⟨.dict [], rfl⟩
  have valid : ∀ id g, (waitingScene [[.reply "yes"]]).shop.graphs.lookup id = some g →
      g.violations = [] := by
    intro id g found
    cases List.mem_singleton.mp (Graph.mem_of_lookup found)
    decide
  have heedful : ¬ Heedless [] := by
    rintro ⟨⟨p, t, inside, -⟩, -⟩
    cases inside
  exact ⟨t, since, happened, accepted_reply_stays parties (fun _ _ => rfl) (claimant 30) "t1" none rfl
    written valid (show (tickAmid parties (fun _ => pure ()) (claimant 30) "t1" none).run
      (waitingScene [[.reply "yes"]]) = ((waitingTick [[.reply "yes"]] none).1,
        (waitingTick [[.reply "yes"]] none).2) from rfl) happened heedful⟩

/-- A reply that comes after the tick, which was given another one, has loaded the paused task is accepted,
and the first write of the tick takes it away. -/
example :
    ((waitingTick [[], [], [], [.reply "yes"]] (some "no")).2.history.drop 3).head?.map
        (fun m => (beginsWith "yes" [m], keptReplyOf m.tables)) = some (true, some (.str "yes")) ∧
      ((waitingTick [[], [], [], [.reply "yes"]] (some "no")).2.history.drop 6).head?.map
        (fun m => keptReplyOf m.tables) = some none := by
  decide +kernel

end Shop

end Tickwork
