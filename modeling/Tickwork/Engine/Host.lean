import Tickwork.Engine.Callable
import Tickwork.Ledger.Transition

/-!
# What the engine runs on

A host gives the engine everything outside the task itself: the callables, a clock, fresh names, a way
to sleep and a store. All of it acts on one world `W`, so that a callable may do to the world what
others do to it between two writes.
-/

set_option autoImplicit false

namespace Tickwork

/-- A host over a world `W`. A store may refuse a write with a fault. -/
structure Host (F W : Type) where
  behaviour : Behaviour F W
  now : StateM W Instant
  freshEventId : StateM W String
  freshTickId : StateM W String
  sleep : Binary64 → StateM W Unit
  checkpoint : Progress → ExceptT Fault (StateM W) Unit
  record : Transition → Progress → ExceptT Fault (StateM W) Unit

/-- How many transitions are taken at most: in one tick before it rests, and in one run before it is
given up. -/
structure Budget where
  perTick : Nat
  perRun : Nat
  deriving DecidableEq

namespace Budget

/-- The most transitions that one tick may be allowed. -/
def tickCeiling : Int := 200

/-- The budget asked for, with a tick between one transition and the ceiling and a run of at least
one. -/
def clamped (perTick perRun : Int) : Budget :=
  ⟨(max 1 (min perTick tickCeiling)).toNat, (max 1 perRun).toNat⟩

/-- The transitions of a tick unless asked otherwise. -/
def defaultPerTick : Int := 25

/-- The transitions of a run unless asked otherwise. -/
def defaultPerRun : Int := 200

end Budget

/-- How an advance ended. -/
inductive Ending where
  | done
  | blocked
  | failed
  | feedback
  | budgetExhausted
  deriving DecidableEq

namespace Ending

def name : Ending → String
  | .done => "done"
  | .blocked => "blocked"
  | .failed => "failed"
  | .feedback => "feedback"
  | .budgetExhausted => "budget_exhausted"

/-- The ending that a task's stage stands for; a task that is still to be run has spent its budget. -/
def ofLifecycle : Lifecycle → Ending
  | .done => .done
  | .blocked => .blocked
  | .failed => .failed
  | .feedback => .feedback
  | .queued | .running => .budgetExhausted

end Ending

/-- What an advance reports. -/
structure Finish where
  ending : Ending
  transitions : Nat
  events : List Transition
  pages : List Value
  message : Option String

/-- What stays the same during one tick. -/
structure Frame (F : Type) where
  graph : Graph F
  task : TaskInfo
  runId : String
  tickId : String

/-- What changes during one tick. -/
structure Tick where
  progress : Progress
  feedback : Option String
  events : List Transition
  pages : List Value
  transitions : Nat

/-- A tick under way, and the world around it. -/
structure Live (W : Type) where
  tick : Tick
  world : W

/-- A part of a tick, which may fail and leaves tick and world as they then are. -/
abbrev Action (W α : Type) := ExceptT Fault (StateM (Live W)) α

namespace Action

variable {W α : Type}

def onWorld (act : StateM W α) : Action W α :=
  ExceptT.mk fun live =>
    let (a, world) := act live.world
    (.ok a, { live with world })

/-- Acts on the world through the store. -/
def onStore (act : ExceptT Fault (StateM W) α) : Action W α :=
  ExceptT.mk fun live =>
    let (a, world) := act.run live.world
    (a, { live with world })

def tick : Action W Tick :=
  ExceptT.mk fun live => (.ok live.tick, live)

def progress : Action W Progress :=
  ExceptT.mk fun live => (.ok live.tick.progress, live)

def change (f : Tick → Tick) : Action W Unit :=
  ExceptT.mk fun live => (.ok (), { live with tick := f live.tick })

def changeProgress (f : Progress → Progress) : Action W Unit :=
  change fun t => { t with progress := f t.progress }

/-- Ends the tick for good. -/
def fail (cause : FatalCause) : Action W α :=
  throw (.fatal cause none)

end Action

end Tickwork
