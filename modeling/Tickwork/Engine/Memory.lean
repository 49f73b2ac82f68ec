import Tickwork.Ledger.Progress
import Tickwork.Ledger.Transition
import Tickwork.Value.Fields

/-!
# A store in memory

The plainest store that the engine can write to: the last progress of every task and all rows of the
ledger. A row is checked before it is kept, and keeping it also keeps the progress that goes with it.
-/

set_option autoImplicit false

namespace Tickwork

structure MemoryStore where
  states : List (String × Progress)
  rows : List Transition
  deriving DecidableEq

namespace MemoryStore

def empty : MemoryStore := ⟨[], []⟩

def checkpoint (m : MemoryStore) (p : Progress) : MemoryStore :=
  { m with states := Sorted.put p.taskId p m.states }

/-- Appends a row to the ledger and keeps the progress that goes with it. -/
def record (m : MemoryStore) (t : Transition) (p : Progress) : Except Fault MemoryStore := do
  t.check
  .ok (MemoryStore.checkpoint { m with rows := m.rows ++ [t] } p)

def load? (m : MemoryStore) (taskId : String) : Option Progress :=
  m.states.lookup taskId

/-- The rows of a task, oldest first. -/
def rowsFor (m : MemoryStore) (taskId : String) : List Transition :=
  m.rows.filter fun t => t.taskId == taskId

end MemoryStore

end Tickwork
