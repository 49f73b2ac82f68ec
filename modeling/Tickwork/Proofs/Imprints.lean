import Mathlib.Data.List.Forall2
import Tickwork.Proofs.Failures.Writes
import Tickwork.Proofs.Lockstep

/-!
# Writes side by side

Where two hosts do the same, they write the same. Main statement: if two hosts go alongside on a footing,
they do so with the log of each beside its world, and their writes so far go together one by one.
-/

set_option autoImplicit false

namespace Tickwork

variable {F V W α β : Type}

/-- A write that landed, and the world that it left. -/
structure Imprint (W : Type) where
  row : Option Transition
  progress : Progress
  world : W

/-- The writes that landed according to a log. -/
def imprints (log : List (Deed W)) : List (Imprint W) :=
  log.filterMap fun
    | .wrote row p _ (.ok _) after => some ⟨row, p, after⟩
    | _ => none

theorem writesOf_eq (log : List (Deed W)) :
    writesOf log = (imprints log).map fun i => (i.row, i.progress) := by
  unfold writesOf imprints
  rw [List.map_filterMap]
  refine List.filterMap_congr fun deed _ => ?_
  cases deed with
  | wrote row p before result after => cases result <;> rfl
  | _ => rfl

theorem imprints_said (log : List (Deed W)) (call : Call) (answer : Answer) (after : W) :
    imprints (log ++ [.said call answer after]) = imprints log := by
  unfold imprints
  rw [List.filterMap_append]
  exact List.append_nil _

theorem imprints_wrote (log : List (Deed W)) (row : Option Transition) (p : Progress) (before after : W) :
    imprints (log ++ [.wrote row p before (.ok ()) after]) = imprints log ++ [⟨row, p, after⟩] := by
  unfold imprints
  rw [List.filterMap_append]
  rfl

theorem imprints_failed (log : List (Deed W)) (row : Option Transition) (p : Progress) (before after : W)
    (fault : Fault) : imprints (log ++ [.wrote row p before (.error fault) after]) = imprints log := by
  unfold imprints
  rw [List.filterMap_append]
  exact List.append_nil _

/-- Two writes that go together. -/
structure Imprint.Beside (ft : Footing V W) (i : Imprint V) (i' : Imprint W) : Prop where
  row : i.row.map Transition.shape = i'.row.map Transition.shape
  progress : i.progress.Like ft.like i'.progress
  own : i.progress.taskId = ft.taskId
  world : ft.near i.world i'.world

namespace Footing

/-- The footing on which logs are kept beside the worlds. -/
def noting (ft : Footing V W) : Footing (Noted V) (Noted W) where
  like := ft.like
  near v w := ft.near v.1 w.1 ∧ List.Forall₂ (Imprint.Beside ft) (imprints v.2) (imprints w.2)
  taskId := ft.taskId
  runId := ft.runId
  runId' := ft.runId'
  lost fault v := ft.lost fault v.1
  lost' fault w := ft.lost' fault w.1

variable {ft : Footing V W}

theorem besideLog_inStep {R : α → β → Prop} {act : StateM V α} {act' : StateM W β}
    (pace : InStep ft.near R act act') : InStep ft.noting.near R (besideLog act) (besideLog act') := by
  rintro ⟨v, log⟩ ⟨w, log'⟩ ⟨near, together⟩
  obtain ⟨here, still⟩ := pace v w near
  exact ⟨here, still, together⟩

/-- Two writes go with logs beside them as they go without. -/
theorem Wrote.noted {row row' : Option Transition} {p p' : Progress} {write : ExceptT Fault (StateM V) Unit}
    {write' : ExceptT Fault (StateM W) Unit} (shape : row.map Transition.shape = row'.map Transition.shape)
    (alike : p.Like ft.like p') (own : p.taskId = ft.taskId) {v : Noted V} {w : Noted W}
    (together : List.Forall₂ (Imprint.Beside ft) (imprints v.2) (imprints w.2))
    (wrote : ft.Wrote (write.run v.1) (write'.run w.1)) :
    ft.noting.Wrote ((notedWrite row p write).run v) ((notedWrite row' p' write').run w) := by
  have ran : (notedWrite row p write).run v = ((write.run v.1).1, ((write.run v.1).2,
      v.2 ++ [.wrote row p v.1 (write.run v.1).1 (write.run v.1).2])) := rfl
  have ran' : (notedWrite row' p' write').run w = ((write'.run w.1).1, ((write'.run w.1).2,
      w.2 ++ [.wrote row' p' w.1 (write'.run w.1).1 (write'.run w.1).2])) := rfl
  rw [ran, ran']
  generalize write.run v.1 = came at wrote ⊢
  generalize write'.run w.1 = came' at wrote ⊢
  cases wrote with
  | done world =>
      refine .done ⟨world, ?_⟩
      rw [imprints_wrote, imprints_wrote]
      exact List.rel_append together (.cons ⟨shape, alike, own, world⟩ .nil)
  | stuck calm calm' world =>
      refine .stuck calm calm' ⟨world, ?_⟩
      rw [imprints_failed, imprints_failed]
      exact together
  | @left fault after gone =>
      have lost : ft.noting.lost fault (after, v.2 ++ [.wrote row p v.1 (.error fault) after]) := gone
      exact .left lost _
  | @right fault after gone =>
      have lost : ft.noting.lost' fault (after, w.2 ++ [.wrote row' p' w.1 (.error fault) after]) := gone
      exact .right lost _

end Footing

theorem Host.Alongside.noting {h : Host F V} {h' : Host F W} {ft : Footing V W} {kind : F → Prop}
    (level : h.Alongside h' ft kind) : h.noting.Alongside h'.noting ft.noting kind where
  behaviour f known call call' alike := by
    rintro ⟨v, log⟩ ⟨w, log'⟩ ⟨near, together⟩
    obtain ⟨answered, still⟩ := level.behaviour f known call call' alike v w near
    refine ⟨answered, still, ?_⟩
    show List.Forall₂ _ (imprints (log ++ [_])) (imprints (log' ++ [_]))
    rw [imprints_said, imprints_said]
    exact together
  now := Footing.besideLog_inStep level.now
  freshTickId := Footing.besideLog_inStep level.freshTickId
  sleep delay := Footing.besideLog_inStep (level.sleep delay)
  checkpoint p p' v w alike own near := by
    have alike : p.Like ft.like p' := alike
    have own : p.taskId = ft.taskId := own
    have plain : (none : Option Transition).map Transition.shape = none := rfl
    have wrote := level.checkpoint p p' v.1 w.1 alike own near.1
    exact wrote.noted (plain.trans plain.symm) alike own near.2
  record row row' reason p p' v w shape known its its' run run' drawn drawn' alike own near := by
    have alike : p.Like ft.like p' := alike
    have own : p.taskId = ft.taskId := own
    have same : (some row).map Transition.shape = (some row').map Transition.shape := congrArg some shape
    have wrote := level.record row row' reason p p' v.1 w.1 shape known its its' run run' drawn drawn' alike own
      near.1
    exact wrote.noted same alike own near.2
  calm fault v gone := level.calm fault v.1 gone
  calm' fault w gone := level.calm' fault w.1 gone

end Tickwork
