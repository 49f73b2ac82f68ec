import Tickwork.Proofs.Failures.Positions
import Tickwork.Proofs.Returns

/-!
# The first row of an advance

Until a row is recorded the task stays where it was loaded. Main statement: the first row that an advance
records, whatever its host does, tells of the place and the task that it began with.
-/

set_option autoImplicit false

namespace Tickwork

variable {F W : Type}

/-- The row that a deed recorded, with the worlds before and after. -/
def Deed.recorded? : Deed W → Option (Transition × W × W)
  | .wrote (some row) _ before (.ok _) after => some (row, before, after)
  | _ => none

theorem wrote_of_recorded {log : List (Deed W)} {row : Transition} {before after : W}
    (found : log.findSome? Deed.recorded? = some (row, before, after)) :
    ∃ q, .wrote (some row) q before (.ok ()) after ∈ log := by
  obtain ⟨deed, inside, recorded⟩ := List.exists_of_findSome?_eq_some found
  cases deed with
  | given text => cases recorded
  | said call answer w => cases recorded
  | wrote written q w result w' =>
      cases written with
      | none => cases recorded
      | some written =>
          cases result with
          | error fault => cases recorded
          | ok done =>
              cases recorded
              exact ⟨q, inside⟩

namespace Engine

/-! ## The first row of an advance -/

/-- If a row is recorded, the first one tells of the place where the task stood as it was loaded. -/
def Opens (g : Graph F) (p : Progress) (log : List (Deed W)) : Prop :=
  ∀ row before after, log.findSome? Deed.recorded? = some (row, before, after) →
    row.fromId = position g p ∧ row.taskId = p.taskId

/-- While nothing is recorded, the task stays in the place where it was loaded. -/
structure Opening (g : Graph F) (p : Progress) (a : Spot (Noted W)) : Prop where
  owner : a.stance.progress.taskId = p.taskId
  opens : Opens g p a.world.2
  unmoved : a.world.2.findSome? Deed.recorded? = none →
    position g a.stance.progress = position g p

variable {h : Host F W} {fr : Frame F} {p : Progress} {a b : Spot (Noted W)}

theorem recorded_consults {w w' : Noted W} (consults : Consults h.noting.behaviour w w') :
    w'.2.findSome? Deed.recorded? = w.2.findSome? Deed.recorded? := by
  induction consults with
  | still => rfl
  | called before f call ih =>
      simpa [Host.noting, List.findSome?_append, Deed.recorded?] using ih

theorem recorded_asked {id : String} {node : State F} {q : Question F} {j : Judgement Verdict}
    {w : Noted W} (asked : Asked h.noting fr a id node q j w) :
    w.2.findSome? Deed.recorded? = a.world.2.findSome? Deed.recorded? := by
  have consults := q.ask_consults h.noting.behaviour a.world
  rw [asked.leaves] at consults
  exact recorded_consults consults

/-- Nothing is recorded by a write of progress alone, nor by a write that fails. -/
theorem recorded_wrote {row : Option Transition} {q : Progress}
    {write : ExceptT Fault (StateM W) Unit} {r : Except Fault Unit} {w w' : Noted W}
    (wrote : (notedWrite row q write).run w = (r, w')) (quiet : row = none ∨ ∃ fault, r = .error fault) :
    w'.2.findSome? Deed.recorded? = w.2.findSome? Deed.recorded? := by
  rw [(noted_of_write wrote).2, List.findSome?_append]
  have silent : Deed.recorded? (.wrote row q w.1 r w'.1) = none := by
    rcases quiet with rfl | ⟨fault, rfl⟩
    · rfl
    · cases row <;> rfl
  simp [silent]

theorem Opens.of_same {g : Graph F} {log log' : List (Deed W)} (opens : Opens g p log)
    (same : log'.findSome? Deed.recorded? = log.findSome? Deed.recorded?) : Opens g p log' := by
  unfold Opens
  rw [same]
  exact opens

/-- Where a row is due, nothing was recorded since the turn began, and the row tells of the place of the
turn. -/
theorem Due.tells {row : Transition} {s : Stance} {w : Noted W} (due : Due h.noting fr a row s w) :
    w.2.findSome? Deed.recorded? = a.world.2.findSome? Deed.recorded? ∧
      row.fromId = position fr.graph a.stance.progress ∧ row.taskId = a.stance.progress.taskId ∧
      s.progress.taskId = a.stance.progress.taskId := by
  obtain ⟨id, node, q, j, verdict, now, world, asked, -, -, lands, idles⟩ := due.asked
  have landing := landing_of_landed lands
  have place : row.fromId = id := landing.source
  exact ⟨idles.log ▸ recorded_asked asked, place.trans asked.stands.1.symm, due.owner.trans due.taskId,
    due.taskId⟩

/-- The first row is recorded where the task was loaded, however the turn goes on. -/
theorem Opening.pass_opens (opening : Opening fr.graph p a) (pass : Pass h.noting fr a b) :
    Opens fr.graph p b.world.2 := by
  cases pass with
  | unasked plain wrote =>
      refine opening.opens.of_same ?_
      rw [recorded_wrote wrote (.inl rfl), plain.keeps.2]
  | @visit row s w w' w'' due wrote waits =>
      obtain ⟨quiet, place, owner, -⟩ := due.tells
      intro first before after found
      rw [waits.log, (noted_of_write wrote).2, List.findSome?_append, quiet] at found
      cases earlier : a.world.2.findSome? Deed.recorded? with
      | some deed =>
          rw [earlier] at found
          exact opening.opens first before after (earlier.trans found)
      | none =>
          rw [earlier] at found
          cases found
          exact ⟨place.trans (opening.unmoved earlier), owner.trans opening.owner⟩

theorem Opening.pass (opening : Opening fr.graph p a) (pass : Pass h.noting fr a b)
    (running : b.stance.progress.lifecycle = .running) : Opening fr.graph p b := by
  refine ⟨?_, opening.pass_opens pass, ?_⟩
  · cases pass with
    | unasked plain wrote => exact plain.taskId.trans opening.owner
    | visit due wrote waits => exact due.tells.2.2.2.trans opening.owner
  · cases pass with
    | unasked plain wrote =>
        intro silent
        rw [recorded_wrote wrote (.inl rfl), plain.keeps.2] at silent
        cases plain with
        | begin stands work idle => exact opening.unmoved silent
        | @halt id status message stands => cases status <;> cases running
        | rest stands => cases running
    | @visit row s w w' w'' due wrote waits =>
        intro silent
        rw [waits.log, (noted_of_write wrote).2, List.findSome?_append] at silent
        simp [Deed.recorded?] at silent

theorem Opening.cut {fault : Fault} (opening : Opening fr.graph p a)
    (cut : Cut h.noting fr a fault b) : Opens fr.graph p b.world.2 := by
  refine opening.opens.of_same ?_
  cases cut with
  | stuck cause => rfl
  | overlong calm => rfl
  | judged asked refused => exact recorded_asked asked
  | unrouted asked decided => exact recorded_asked asked
  | unwritten plain broke => rw [recorded_wrote broke (.inl rfl), plain.keeps.2]
  | unrecorded due broke => rw [recorded_wrote broke (.inr ⟨_, rfl⟩), due.tells.1]

theorem Ended.opens (opening : Opening fr.graph p a) {result : Except Fault Finish} {q : Progress}
    {w : Noted W} (ended : Ended h.noting fr a result q w) : Opens fr.graph p w.2 := by
  have alive : ∀ {b : Spot (Noted W)}, Passes h.noting fr a b → Opening fr.graph p b := fun passes =>
    passes.keeps (P := Opening fr.graph p) Opening.pass opening
  cases ended with
  | reports reaches finish =>
      cases reaches with
      | alive passes => exact (alive passes).opens
      | last passes pass => exact (alive passes).pass_opens pass
  | gaveUp named passes cut wrote =>
      exact ((alive passes).cut cut).of_same (recorded_wrote wrote (.inl rfl))
  | unkept passes cut broke =>
      exact ((alive passes).cut cut).of_same (recorded_wrote broke (.inl rfl))
  | escaped passes cut calm => exact (alive passes).cut cut

/-- The first row that an advance records tells of the place where the task stood as it was loaded. -/
theorem advance_opens (h : Host F W) {g : Graph F} (valid : g.violations = []) (budget : Budget)
    (task : TaskInfo) (runId : String) (tickId feedback : Option String) (p : Progress) (w : W) :
    Opens g p (advance h.noting budget g task runId tickId feedback p (w, [])).2.2 := by
  cases active : p.lifecycle.isTerminal with
  | true =>
      rw [advance_ended _ _ _ _ _ _ _ _ active]
      exact fun _ _ _ found => nomatch found
  | false =>
      have quiet := tickIdFor_log (h := h) tickId (w, [])
      have ended := advance_ends h.noting (Graph.fit_of_valid valid).wholeLimits budget task runId
        tickId feedback p (w, []) active
      refine ended.opens (p := p) ⟨rfl, ?_, fun _ => position_prepare g p⟩
      rw [quiet]
      exact fun _ _ _ found => nomatch found

end Engine

end Tickwork
