import Tickwork.Engine.Host

/-!
# What a part of a tick comes to

`Action.exec` runs a part of a tick from where tick and world are, as `run` runs other work that may fail.
There is an equation for the ways in which the engine builds its parts, so that a part can be followed
step by step from its start.
-/

set_option autoImplicit false

namespace Tickwork

variable {W α β : Type}

/-! ## Operations that may fail -/

namespace Work

theorem run_bind (act : ExceptT Fault (StateM W) α) (next : α → ExceptT Fault (StateM W) β) (s : W) :
    (act >>= next).run s =
      match act.run s with
      | (.ok a, after) => (next a).run after
      | (.error fault, after) => (.error fault, after) := by
  cases found : act.run s with
  | mk result after =>
      have found' : act s = (result, after) := found
      cases result with
      | error fault =>
          simp only [ExceptT.run, bind, ExceptT.bind, ExceptT.mk, StateT.bind, found',
            ExceptT.bindCont]
          rfl
      | ok a =>
          simp only [ExceptT.run, bind, ExceptT.bind, ExceptT.mk, StateT.bind, found',
            ExceptT.bindCont]

theorem run_bind_of_ok {act : ExceptT Fault (StateM W) α} {s after : W} {a : α}
    (done : act.run s = (.ok a, after)) (next : α → ExceptT Fault (StateM W) β) :
    (act >>= next).run s = (next a).run after := by
  rw [run_bind, done]

theorem run_bind_of_error {act : ExceptT Fault (StateM W) α} {s after : W} {fault : Fault}
    (broken : act.run s = (.error fault, after)) (next : α → ExceptT Fault (StateM W) β) :
    (act >>= next).run s = (.error fault, after) := by
  rw [run_bind, broken]

theorem run_bind_of_lift (act : StateM W α) (next : α → ExceptT Fault (StateM W) β) (s : W) :
    ((liftM act : ExceptT Fault (StateM W) α) >>= next).run s = (next (act s).1).run (act s).2 :=
  run_bind_of_ok rfl next

/-- Work that first looks at the world goes on with the world that is there. -/
theorem run_bind_get (next : W → ExceptT Fault (StateM W) β) (s : W) :
    (get >>= next).run s = (next s).run s :=
  run_bind_of_ok rfl next

/-- Where work that has two parts succeeds, both succeed. -/
theorem parts_of_ok {act : ExceptT Fault (StateM W) α} {next : α → ExceptT Fault (StateM W) β} {s after : W}
    {b : β} (done : (act >>= next).run s = (.ok b, after)) :
    ∃ a middle, act.run s = (.ok a, middle) ∧ (next a).run middle = (.ok b, after) := by
  rw [run_bind] at done
  cases first : act.run s with
  | mk result middle =>
      rw [first] at done
      cases result with
      | ok a => exact ⟨a, middle, rfl, done⟩
      | error fault => cases done

end Work

/-! ## Parts of a tick -/

namespace Action

/-- What a part of a tick comes to, and where it leaves tick and world. -/
def exec (act : Action W α) (live : Live W) : Except Fault α × Live W :=
  ExceptT.run act live

theorem exec_bind (act : Action W α) (next : α → Action W β) (live : Live W) :
    (act >>= next).exec live =
      match act.exec live with
      | (.ok a, after) => (next a).exec after
      | (.error fault, after) => (.error fault, after) := by
  show (act >>= next).run live = _
  rw [Work.run_bind]
  unfold exec
  generalize ExceptT.run act live = ran
  obtain ⟨result, after⟩ := ran
  cases result <;> rfl

theorem exec_bind_of_ok {act : Action W α} {live after : Live W} {a : α}
    (done : act.exec live = (.ok a, after)) (next : α → Action W β) :
    (act >>= next).exec live = (next a).exec after :=
  Work.run_bind_of_ok done next

theorem exec_bind_of_error {act : Action W α} {live after : Live W} {fault : Fault}
    (broken : act.exec live = (.error fault, after)) (next : α → Action W β) :
    (act >>= next).exec live = (.error fault, after) :=
  Work.run_bind_of_error broken next

theorem exec_onWorld (act : StateM W α) (live : Live W) :
    (onWorld act).exec live = (.ok (act live.world).1, ⟨live.tick, (act live.world).2⟩) := rfl

theorem exec_onStore (act : ExceptT Fault (StateM W) α) (live : Live W) :
    (onStore act).exec live = ((act.run live.world).1, ⟨live.tick, (act.run live.world).2⟩) := rfl

theorem exec_tick (live : Live W) : (tick : Action W Tick).exec live = (.ok live.tick, live) := rfl

theorem exec_progress (live : Live W) :
    (progress : Action W Progress).exec live = (.ok live.tick.progress, live) := rfl

theorem exec_change (f : Tick → Tick) (live : Live W) :
    (change f : Action W Unit).exec live = (.ok (), ⟨f live.tick, live.world⟩) := rfl

theorem exec_changeProgress (f : Progress → Progress) (live : Live W) :
    (changeProgress f : Action W Unit).exec live =
      (.ok (), ⟨{ live.tick with progress := f live.tick.progress }, live.world⟩) := rfl

/-- A part that recovers from faults goes on from where the fault left tick and world. -/
theorem exec_tryCatch (act : Action W α) (handle : Fault → Action W α) (live : Live W) :
    (tryCatch act handle : Action W α).exec live =
      match act.exec live with
      | (.ok a, after) => (.ok a, after)
      | (.error fault, after) => (handle fault).exec after := by
  cases found : act.exec live with
  | mk result after =>
      have found' : act live = (result, after) := found
      cases result <;>
        simp only [exec, ExceptT.run, tryCatch, tryCatchThe, MonadExceptOf.tryCatch,
          ExceptT.tryCatch, ExceptT.mk, bind, StateT.bind, found'] <;> rfl

end Action

end Tickwork
