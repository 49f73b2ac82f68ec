import Tickwork.Engine.Advance
import Tickwork.Engine.Memory
import Tickwork.Script.Routine

/-!
# The bench

A bench is a small world to try a factory out in: a store in memory, a clock that goes one second
forward whenever it is read, running numbers for fresh names and a record of every write to the store
and of every wait.
-/

set_option autoImplicit false

namespace Tickwork

variable {S : Type}

/-- A write to a store. -/
inductive Write where
  | checkpoint (p : Progress)
  | record (t : Transition)
  deriving DecidableEq

structure Bench where
  clock : Instant
  eventCount : Nat
  tickCount : Nat
  waits : List Binary64
  writes : List Write
  store : MemoryStore
  tally : Tally

namespace Bench

/-- A bench on which nothing has happened yet. -/
def start (clock : Instant) : Bench where
  clock := clock
  eventCount := 0
  tickCount := 0
  waits := []
  writes := []
  store := .empty
  tally := []

/-- A second, by which the clock goes forward. -/
def secondMicros : Int := 1000000

def now : StateM Bench Instant := do
  modify fun b => { b with clock := ⟨b.clock.micros + secondMicros⟩ }
  return (← get).clock

def freshEventId : StateM Bench String := do
  modify fun b => { b with eventCount := b.eventCount + 1 }
  return s!"evt-{(← get).eventCount}"

def freshTickId : StateM Bench String := do
  modify fun b => { b with tickCount := b.tickCount + 1 }
  return s!"tick-{(← get).tickCount}"

def wait (delay : Binary64) : StateM Bench Unit :=
  modify fun b => { b with waits := b.waits ++ [delay] }

def checkpoint (p : Progress) : StateM Bench Unit :=
  modify fun b =>
    { b with store := b.store.checkpoint p, writes := b.writes ++ [Write.checkpoint p] }

/-- Keeps a row, if there is nothing wrong with it, and the progress that goes with it. -/
def record (t : Transition) (p : Progress) : ExceptT Fault (StateM Bench) Unit := do
  modify fun b => { b with writes := b.writes ++ [.record t] }
  let b ← get
  match b.store.record t p with
  | .error fault => throw fault
  | .ok store => set { b with store, writes := b.writes ++ [Write.checkpoint p] }

/-- Scripts on a bench: their calls are counted and their requests are ignored. -/
def surroundings : Surroundings S Bench where
  count site := fun b =>
    let (n, tally) := b.tally.next site
    (n, { b with tally })
  perform _ := pure ()

/-- The engine's host. -/
def host : Host (Routine S) Bench where
  behaviour := Routine.behaviour surroundings
  now := now
  freshEventId := freshEventId
  freshTickId := freshTickId
  sleep := wait
  checkpoint p := checkpoint p
  record t p := record t p

end Bench

end Tickwork
