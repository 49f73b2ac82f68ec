import Tickwork.Proofs.Passes
import Tickwork.Proofs.Projections

/-!
# Noting what is done

`Host.noting` is a host that keeps a log beside its world: every call of a callable, with its answer and
the world as it left it, and every write, with the worlds before and after it. Main statement: apart
from the log an advance of this host is an advance of the host itself.
-/

set_option autoImplicit false

namespace Tickwork

variable {F W : Type}

/-- What happened around a task: it was given a reply, a callable was called, or it was written. -/
inductive Deed (W : Type) where
  | given (text : String)
  | said (call : Call) (answer : Answer) (after : W)
  | wrote (row : Option Transition) (p : Progress) (before : W) (result : Except Fault Unit)
      (after : W)

/-- A world with a log beside it. -/
abbrev Noted (W : Type) := W × List (Deed W)

def besideLog {α : Type} (act : StateM W α) : StateM (Noted W) α := fun world =>
  ((act world.1).1, ((act world.1).2, world.2))

/-- Writes and notes that. -/
def notedWrite (row : Option Transition) (p : Progress) (write : ExceptT Fault (StateM W) Unit) :
    ExceptT Fault (StateM (Noted W)) Unit :=
  ExceptT.mk fun world =>
    let written := write.run world.1
    (written.1, (written.2, world.2 ++ [.wrote row p world.1 written.1 written.2]))

def Host.noting (h : Host F W) : Host F (Noted W) where
  behaviour f call := fun world =>
    let said := h.behaviour f call world.1
    (said.1, (said.2, world.2 ++ [.said call said.1 said.2]))
  now := besideLog h.now
  freshEventId := besideLog h.freshEventId
  freshTickId := besideLog h.freshTickId
  sleep delay := besideLog (h.sleep delay)
  checkpoint p := notedWrite none p (h.checkpoint p)
  record t p := notedWrite (some t) p (h.record t p)

theorem Host.noting_projects (h : Host F W) : h.noting.Projects h Prod.fst where
  behaviour _ _ _ := rfl
  now _ := rfl
  freshEventId _ := rfl
  freshTickId _ := rfl
  sleep _ _ := rfl
  checkpoint _ _ := rfl
  record _ _ _ := rfl

theorem noted_of_write {row : Option Transition} {p : Progress}
    {write : ExceptT Fault (StateM W) Unit} {r : Except Fault Unit} {w w' : Noted W}
    (wrote : (notedWrite row p write).run w = (r, w')) :
    write.run w.1 = (r, w'.1) ∧ w'.2 = w.2 ++ [.wrote row p w.1 r w'.1] := by
  cases wrote
  exact ⟨rfl, rfl⟩

namespace Engine

/-- Apart from the log, an advance that is noted is the advance itself. -/
theorem advance_noting (h : Host F W) (budget : Budget) (g : Graph F) (task : TaskInfo)
    (runId : String) (tickId feedback : Option String) (p : Progress) (world : Noted W) :
    advance h budget g task runId tickId feedback p world.1 =
      ((advance h.noting budget g task runId tickId feedback p world).1,
        (advance h.noting budget g task runId tickId feedback p world).2.1) :=
  advance_sees h.noting_projects budget g task runId tickId feedback p world

theorem Idles.world {h : Host F W} {w w' : Noted W} (idles : Idles h.noting w w') :
    Idles h w.1 w'.1 := by
  induction idles with
  | still => exact .still
  | now _ ih => exact ih.now
  | named _ ih => exact ih.named
  | slept _ delay ih => exact ih.slept delay

/-- While the engine only idles, nothing is noted. -/
theorem Idles.log {h : Host F W} {w w' : Noted W} (idles : Idles h.noting w w') : w'.2 = w.2 := by
  induction idles with
  | still => rfl
  | now _ ih => exact ih
  | named _ ih => exact ih
  | slept _ delay ih => exact ih

theorem tickIdFor_log {h : Host F W} (given : Option String) (world : Noted W) :
    (tickIdFor h.noting given world).2.2 = world.2 := by
  unfold tickIdFor
  cases firstNonempty [given] <;> rfl

/-- A progress that is written without a question has the context that it had, and nothing is noted
before it is written. -/
theorem Unasked.keeps {h : Host F W} {fr : Frame F} {a : Spot (Noted W)} {p : Progress} {w : Noted W}
    (plain : Unasked h.noting fr a p w) : p.context = a.stance.progress.context ∧ w.2 = a.world.2 := by
  cases plain <;> exact ⟨rfl, rfl⟩

end Engine

end Tickwork
