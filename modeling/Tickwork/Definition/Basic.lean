import Tickwork.Graph.Violations

/-!
# Factory definitions

What an author writes: named primitives, which compile into the states of a graph. A step runs a
handler, an ask pauses for a reply and reads it, a route picks an event, a loop repeats a body, a
publish renders a page and an end finishes the task. A state of the graph may also stand for itself.
-/

set_option autoImplicit false

namespace Tickwork

variable {F : Type}

inductive Primitive (F : Type) where
  | step (run : Handler F) (on : Routes) (retry : Option RetryPolicy)
  | ask (prompt : Slot F) (reader : Option (ReplyReader F)) (on : Routes) (resume : Option String)
  | route (select : Slot F) (on : Routes)
  | loop (body : Target) (maxIterations : Value) (on : Routes) (stop : Slot F)
  | publish (render : Slot F) (on : Routes)
  | finish (status : EndStatus) (message : Option String)
  deriving DecidableEq

/-- What may stand under an id of a definition. -/
inductive Item (F : Type) where
  | primitive (p : Primitive F)
  | state (s : State F)
  deriving DecidableEq

structure Definition (F : Type) where
  id : String
  start : String
  items : List (String × Item F)
  context : Fields
  guards : List (String × F)
  handlers : List (String × F)
  deriving DecidableEq

namespace Primitive

/-- The routes of a publish without routes of its own. -/
def publishRoutes : Routes := [("done", some "done"), ("failed", some "failed")]

end Primitive

/-- The definition made of the states of a graph, which compiles to that graph again. -/
def Graph.toDefinition (g : Graph F) : Definition F where
  id := g.id
  start := g.start
  items := g.states.map fun entry => (entry.1, .state entry.2)
  context := g.context
  guards := g.guards
  handlers := g.handlers

end Tickwork
