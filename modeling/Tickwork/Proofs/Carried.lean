import Tickwork.Proofs.CalmWork
import Tickwork.Proofs.Gathered
import Tickwork.Proofs.Provenance

/-!
# What the log of an advance carries

`Carried` is a log of writes that succeeded, with the pages of the answers that came between them and the
number of its rows that move the task. Main statement: an advance that reports has the pages and the
transitions of its whole log to report. An advance that gives its task up has a log of the same kind behind
it, and the count of the task has grown by the transitions in it, but all that it gives is the reason.
-/

set_option autoImplicit false

namespace Tickwork

variable {F W : Type}

/-! ## The pages of an answer -/

/-- The page of what a handler returned, if it can be read and has one. -/
def reportedPages (id : String) (v : Value) : List Value :=
  match Outcome.read id v with
  | .ok o => o.page.toList
  | .error _ => []

/-- The pages that the answer of a state carries. Only handlers report pages. -/
def State.shows (id : String) : State F → Except Raised Value → List Value
  | .action _ _ _, .ok v => reportedPages id v
  | .orchestrate _ handler _, .ok v => if Graph.hasHandler handler then reportedPages id v else []
  | _, _ => []

/-- The faults of what a host writes do not end a task. -/
structure Host.Mild (h : Host F W) : Prop where
  checkpoint : ∀ p, Work.Calm (h.checkpoint p)
  record : ∀ row p, Work.Calm (h.record row p)

/-- A write that is noted fails with the fault of the write itself. -/
theorem Host.Mild.noted {h : Host F W} (mild : h.Mild) {w w' : Noted W} {fault : Fault} :
    (∀ p, (h.noting.checkpoint p).run w = (.error fault, w') → fault.isFatal = false) ∧
      ∀ row p, (h.noting.record row p).run w = (.error fault, w') → fault.isFatal = false := by
  constructor
  · intro p broke
    have written : (h.checkpoint p).run w.1 = (.error fault, w'.1) := (noted_of_write broke).1
    exact mild.checkpoint p w.1 fault (by rw [written])
  · intro row p broke
    have written : (h.record row p).run w.1 = (.error fault, w'.1) := (noted_of_write broke).1
    exact mild.record row p w.1 fault (by rw [written])

namespace Engine

theorem attempted_pages (id : String) (attempt : Int) (s : Stance) (v : Value) :
    (attempted id attempt s (.ok v)).pages = reportedPages id v := by
  unfold attempted reportedPages
  simp only
  cases Outcome.read id v with
  | error cause => rfl
  | ok o =>
      unfold judged
      simp only
      repeat' split
      all_goals rfl

/-- What comes with an answer is what the state shows of it. -/
theorem reacted_pages (id : String) (s : Stance) (node : State F) (answer : Except Raised Value) :
    (reacted id s node answer).pages = node.shows id answer := by
  cases node with
  | action handler routes retry =>
      have kept : (actionReacted id retry s answer).pages =
          (attempted id (s.progress.attemptNumber id) s answer).pages := by
        unfold actionReacted
        simp only
        split <;> rfl
      refine kept.trans ?_
      cases answer with
      | error e => cases e <;> rfl
      | ok v => exact attempted_pages id _ s v
  | orchestrate routes handler selector =>
      unfold reacted
      by_cases has : Graph.hasHandler handler = true
      · simp only [has, if_true]
        cases answer with
        | error e => cases e <;> rfl
        | ok v =>
            simp only [handlerReacted, State.shows, has, if_true, reportedPages]
            cases Outcome.read id v <;> rfl
      · simp only [has, Bool.false_eq_true, if_false]
        have unseen : (State.orchestrate routes handler selector).shows id answer = [] := by
          cases answer with
          | error e => rfl
          | ok v => exact if_neg has
        rw [unseen]
        unfold selectorReacted
        repeat' split
        all_goals rfl
  | loop body bound routes stop =>
      unfold reacted loopReacted
      simp only
      repeat' split
      all_goals rfl
  | feedback resume => rfl
  | terminal status message => rfl
  | unsupported v => rfl

/-! ## Logs and what they carry -/

/-- A log of writes that succeeded, with the pages of the answers in it, in order, and the number of its
rows that move the task, from the world that a tick starts with to the world as it then is. A row comes after
one visit of the state that it leads from, and brings the pages of the answer of that visit. -/
inductive Carried (h : Host F W) (fr : Frame F) (begun : W) : List (Deed W) → List Value → Nat → W → Prop
  | start : Carried h fr begun [] [] 0 begun
  | idled {log : List (Deed W)} {pages : List Value} {moved : Nat} {w w' : W}
      (before : Carried h fr begun log pages moved w) (idles : Idles h w w') :
      Carried h fr begun log pages moved w'
  | unasked {log : List (Deed W)} {pages : List Value} {moved : Nat} {w w' : W} {p : Progress}
      (before : Carried h fr begun log pages moved w) (wrote : (h.checkpoint p).run w = (.ok (), w')) :
      Carried h fr begun (log ++ [.wrote none p w (.ok ()) w']) pages moved w'
  | visited {log calls : List (Deed W)} {pages : List Value} {moved : Nat} {w asked written w' : W}
      {context : Fields} {row : Transition} {p : Progress} {node : State F} {answer : Except Raised Value}
      (before : Carried h fr begun log pages moved w)
      (consulted : Consulted h fr context row.fromId node w answer calls asked) (idles : Idles h asked written)
      (wrote : (h.record row p).run written = (.ok (), w')) :
      Carried h fr begun (log ++ calls ++ [.wrote (some row) p written (.ok ()) w'])
        (pages ++ node.shows row.fromId answer) (moved + if row.moves then 1 else 0) w'

variable {h : Host F W} {fr : Frame F} {begun : W}

/-- A tick under way whose log carries what it has collected. -/
abbrev CarriedAt (h : Host F W) (fr : Frame F) (begun : W) (live : Live (Noted W)) : Prop :=
  Carried h fr begun live.world.2 live.tick.pages live.tick.transitions live.world.1

theorem Turned.carried {live after : Live (Noted W)} (carried : CarriedAt h fr begun live)
    (turned : Turned h.noting fr live after) : CarriedAt h fr begun after := by
  cases turned with
  | @unasked p w w' plain wrote =>
      obtain ⟨written, noted⟩ := noted_of_write wrote
      have idles : Idles h live.world.1 w.1 := plain.idles.world
      have quiet : w.2 = live.world.2 := plain.keeps.2
      simp only [CarriedAt, noted, quiet]
      exact (carried.idled idles).unasked written
  | @visit row s pages w w' w'' events yields wrote waits =>
      obtain ⟨id, node, q, j, verdict, now, world, asked, decided, -, lands, idles, rfl⟩ := yields.asked
      obtain ⟨answer, calls, consulted, heard, -, rfl⟩ := asked.consulted
      obtain ⟨written, noted⟩ := noted_of_write wrote
      obtain rfl : row.fromId = id := (landing_of_landed lands).source
      have heard : world.2 = live.world.2 ++ calls := heard
      have recorded := (carried.visited consulted idles.world written).idled waits.world
      simp only [CarriedAt, Tick.recorded, waits.log, noted, idles.log, heard, reacted_pages]
      exact recorded

theorem Turns.carried {live after : Live (Noted W)} (turns : Turns h.noting fr live after)
    (carried : CarriedAt h fr begun live) : CarriedAt h fr begun after := by
  induction turns with
  | refl => exact carried
  | tail _ last ih => exact last.carried ih

/-- A spot at which some tick stands whose log carries what it has collected, and which has counted from
`start` on. -/
def CarriedFrom (h : Host F W) (fr : Frame F) (start : Int) (begun : W) (a : Spot (Noted W)) : Prop :=
  ∃ live : Live (Noted W), live.spot = a ∧ CarriedAt h fr begun live ∧
    live.tick.progress.transitionCount = start + live.tick.transitions

theorem Pass.carriedFrom {start : Int} {a b : Spot (Noted W)} (carried : CarriedFrom h fr start begun a)
    (pass : Pass h.noting fr a b) : CarriedFrom h fr start begun b := by
  obtain ⟨live, rfl, here, count⟩ := carried
  obtain ⟨live', rfl, turned⟩ := pass.turned
  refine ⟨live', rfl, turned.carried here, ?_⟩
  have added := turned.count
  omega

/-! ## Advances -/

/-- How an advance of a task that has counted `start` transitions ends, for its log and its report: it
reports what the log carries; it gives the task up, after a log that carries pages and transitions of which
the fault says nothing; or a fault escapes that does not end the task. -/
inductive Gathered (h : Host F W) (fr : Frame F) (start : Int) (begun : W) :
    List (Deed W) → Except Fault Finish → Progress → Prop
  | reported {log : List (Deed W)} {finish : Finish} {p : Progress} {w : W}
      (carried : Carried h fr begun log finish.pages finish.transitions w)
      (count : p.transitionCount = start + finish.transitions)
      (stage : p.lifecycle = finish.ending.stage) : Gathered h fr start begun log (.ok finish) p
  | gaveUp {written calls : List (Deed W)} {pages : List Value} {moved : Nat} {w before after : W}
      {cause : FatalCause} {named : String} {p : Progress}
      (carried : Carried h fr begun written pages moved w) (said : ∀ deed ∈ calls, deed.IsCall)
      (count : p.transitionCount = start + moved) (failed : p.lifecycle = .failed)
      (words : p.lastError = some cause.message) :
      Gathered h fr start begun (written ++ calls ++ [.wrote none p before (.ok ()) after])
        (.error (.fatal cause (some named))) p
  | escaped {log : List (Deed W)} {fault : Fault} {p : Progress} (calm : fault.isFatal = false) :
      Gathered h fr start begun log (.error fault) p

/-- Where a turn is broken off for good, at most a question was asked in vain, and nothing was counted. -/
theorem Cut.gathered {a b : Spot (Noted W)} {cause : FatalCause} {taskId : Option String} (mild : h.Mild)
    (cut : Cut h.noting fr a (.fatal cause taskId) b) :
    b.stance.progress.transitionCount = a.stance.progress.transitionCount ∧
      ∃ calls, b.world.2 = a.world.2 ++ calls ∧ ∀ deed ∈ calls, deed.IsCall := by
  have unmoved : ∀ {id : String} {node : State F} {q : Question F} {j : Judgement Verdict} {w : Noted W},
      Asked h.noting fr a id node q j w →
        j.after.progress.transitionCount = a.stance.progress.transitionCount ∧
          ∃ calls, w.2 = a.world.2 ++ calls ∧ ∀ deed ∈ calls, deed.IsCall := by
    intro id node q j w asked
    obtain ⟨answer, calls, -, heard, said, rfl⟩ := asked.consulted
    exact ⟨(reacted_samePlace _ _ _ _).transitionCount, calls, heard, said⟩
  cases cut with
  | stuck => exact ⟨rfl, [], (List.append_nil _).symm, fun _ inside => absurd inside List.not_mem_nil⟩
  | overlong calm => cases calm
  | judged asked refused => exact unmoved asked
  | unrouted asked decided => exact unmoved asked
  | unwritten plain broke => cases mild.noted.1 _ broke
  | unrecorded due broke => cases mild.noted.2 _ _ broke

theorem tickIdFor_noted (tickId : Option String) (w : W) :
    (tickIdFor h.noting tickId (w, [])).1 = (tickIdFor h tickId w).1 ∧
      (tickIdFor h.noting tickId (w, [])).2 = ((tickIdFor h tickId w).2, []) := by
  have named : tickIdFor h tickId w = _ := tickIdFor_sees h.noting_projects tickId (w, [])
  have unnoted : (tickIdFor h.noting tickId (w, [])).2.2 = [] := tickIdFor_log (h := h) tickId (w, [])
  exact ⟨(congrArg Prod.fst named).symm, Prod.ext (congrArg Prod.snd named).symm unnoted⟩

/-- What an advance of a task under way gathers in its log, and what it gives of it. -/
theorem advance_gathers (mild : h.Mild) {g : Graph F} (whole : g.WholeLimits) {budget : Budget}
    (room : 0 < budget.perTick) (task : TaskInfo) (runId : String) (tickId feedback : Option String)
    (p : Progress) (w : W) (active : p.lifecycle.isTerminal = false) :
    Gathered h ⟨g, task, runId, (tickIdFor h tickId w).1⟩ p.transitionCount (tickIdFor h tickId w).2
      (advance h.noting budget g task runId tickId feedback p (w, [])).2.2
      (advance h.noting budget g task runId tickId feedback p (w, [])).1.1
      (advance h.noting budget g task runId tickId feedback p (w, [])).1.2 := by
  obtain ⟨tick, world⟩ := tickIdFor_noted (h := h) tickId w
  have turns := fun finish q w'
      (ran : advance h.noting budget g task runId tickId feedback p (w, []) = ((.ok finish, q), w')) =>
    advance_turns h.noting whole room task runId tickId feedback (w, []) active ran
  have ended := advance_ends h.noting whole budget task runId tickId feedback p (w, []) active
  rw [tick, world] at turns ended
  have begins : CarriedAt h ⟨g, task, runId, (tickIdFor h tickId w).1⟩ (tickIdFor h tickId w).2
      ⟨firstTick g p feedback, ((tickIdFor h tickId w).2, [])⟩ := .start
  have counted : CarriedFrom h ⟨g, task, runId, (tickIdFor h tickId w).1⟩ p.transitionCount
      (tickIdFor h tickId w).2 ⟨⟨prepare g p, acceptedReply p feedback⟩, ((tickIdFor h tickId w).2, [])⟩ :=
    ⟨_, rfl, begins, (Int.add_zero _).symm⟩
  generalize came : advance h.noting budget g task runId tickId feedback p (w, []) = r at turns ended ⊢
  obtain ⟨⟨result, q⟩, left⟩ := r
  simp only at ended ⊢
  cases ended with
  | @reports b reaches finish =>
      obtain ⟨after, reached, place, begun, sums, turned⟩ := turns finish _ _ rfl
      rw [← place] at begun
      rw [← reached, ← place]
      have carried := turned.carried begins
      have count := turned.count
      rw [CarriedAt, ← sums.tells.pages, ← sums.tells.transitions] at carried
      refine .reported carried ?_ (sums.stage begun)
      have none : (firstTick g p feedback).transitions = 0 := rfl
      have same : (firstTick g p feedback).progress.transitionCount = p.transitionCount := rfl
      rw [sums.tells.transitions]
      simp only [none, same] at count
      omega
  | @gaveUp cause taskId b c w' named passes cut wrote =>
      obtain ⟨live, rfl, carried, count⟩ := passes.keeps
        (P := CarriedFrom h ⟨g, task, runId, (tickIdFor h tickId w).1⟩ p.transitionCount
          (tickIdFor h tickId w).2) (fun here pass _ => Pass.carriedFrom here pass) counted
      obtain ⟨uncounted, calls, heard, said⟩ := cut.gathered mild
      obtain ⟨-, noted⟩ := noted_of_write wrote
      rw [noted, heard]
      exact .gaveUp carried said (uncounted.trans count) rfl rfl
  | unkept passes cut broke => exact .escaped (mild.noted.1 _ broke)
  | escaped passes cut calm => exact .escaped calm

end Engine

end Tickwork
