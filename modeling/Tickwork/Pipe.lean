import Tickwork.Definition.Compile

/-!
# Pipes

A pipe is a tree of nodes that work on the plain context: steps, questions, decisions, loops, pages and
ends, joined by flows. It is defined in terms of ordinary primitives, so that a pipe runs like any other
factory. Each node gets an id made of its label and a running number; a flow numbers its own nodes
before it goes into them.
-/

set_option autoImplicit false

namespace Tickwork

variable {F : Type}

/-- The word of a loop that ran out of iterations. -/
def loopExhaustedMessage : String := "Loop exhausted before completion"

inductive Node (F : Type) where
  | flow (nodes : List (Node F))
  | step (run : F) (name : Option String)
  | ask (prompt : Slot F) (parse : Slot F) (name : Option String)
  | decide (select : F) (branches : List (String × Node F)) (otherwise : Option (Node F))
      (name : Option String)
  | loop (body : Node F) (stop : F) (maxIterations : Value) (onExhausted : Option (Node F))
      (name : Option String)
  | write (render : F) (name : Option String)
  | finish (status : EndStatus) (message : Option String)
  /-- A value that is no node. -/
  | unsupported (v : Value)

namespace Node

def isFlow : Node F → Bool
  | .flow _ => true
  | _ => false

/-- A given name, or the default when it is missing or empty. -/
def nameOr (fallback : String) (name : Option String) : String :=
  (firstNonempty [name]).getD fallback

/-- What the id of a node starts with. -/
def label : Node F → String
  | .flow _ => "flow"
  | .step _ name => nameOr "step" name
  | .ask _ _ name => nameOr "ask" name
  | .decide _ _ _ name => nameOr "decide" name
  | .loop _ _ _ _ name => nameOr "loop" name
  | .write _ name => nameOr "write" name
  | .finish status _ => "end_" ++ status.name
  | .unsupported _ => ""

end Node

namespace Pipe

/-- The items defined so far and the running number. -/
structure Draft (F : Type) where
  items : List (String × Item F)
  count : Nat

/-- Numbers a label. -/
def numbered (label : String) (n : Nat) : String := s!"{label}_{n}"

/-- The next id for a label. -/
def Draft.allocate (d : Draft F) (label : String) : String × Draft F :=
  (numbered label (d.count + 1), { d with count := d.count + 1 })

/-- An id that was given beforehand, or the next one. -/
def Draft.idFor (d : Draft F) (given : Option String) (label : String) : String × Draft F :=
  match firstNonempty [given] with
  | some id => (id, d)
  | none => d.allocate label

def Draft.add (d : Draft F) (id : String) (item : Item F) : Draft F :=
  { d with items := Ordered.put id item d.items }

/-- The id of the end that a pipe reaches when it runs through. -/
def doneId : String := "done"

/-- The id of the end that a pipe reaches when a node fails. -/
def failedId : String := "failed"

/-- The id of the end of a loop that runs out of iterations. -/
def exhaustedId (id : String) : String := id ++ "__exhausted"

/-- The routes of a node that goes on to `next` or fails. -/
def onward (next : String) : Routes := [("done", some next), ("failed", some failedId)]

/-- Ids for the nodes of a flow that are not flows themselves; the first node may have one already. -/
def allocateIds (d : Draft F) (given : Option String) : List (Node F) →
    Except Fault (List (Option String) × Draft F)
  | [] => .ok ([], d)
  | node :: rest =>
    if given.isSome || node.isFlow then do
      let (ids, d) ← allocateIds d none rest
      .ok (given :: ids, d)
    else
      match node with
      | .unsupported v => .error (.unlabelledNode v.typeName)
      | _ => do
        let (id, d) := d.allocate node.label
        let (ids, d) ← allocateIds d none rest
        .ok (some id :: ids, d)

mutual

/-- Defines a node that goes on to `next`. Gives the id to enter it by. -/
def define (d : Draft F) (next : String) (given : Option String) :
    Node F → Except Fault (String × Draft F)
  | .flow nodes => do
    if nodes.isEmpty then .ok (next, d)
    else
      let (ids, d) ← allocateIds d given nodes
      defineFlow d next nodes ids
  | .step run name =>
    let (id, d) := d.idFor given (Node.nameOr "step" name)
    .ok (id, d.add id (.primitive (.step (.merge run) (onward next) none)))
  | .ask prompt parse name =>
    let (id, d) := d.idFor given (Node.nameOr "ask" name)
    let reader := match parse with
      | .absent => none
      | ref => some (.changes ref)
    .ok (id, d.add id (.primitive (.ask prompt reader (onward next) none)))
  | .decide select branches otherwise name => do
    let (id, d) := d.idFor given (Node.nameOr "decide" name)
    let (routes, d) ← defineBranches d next branches
    let (routes, d) ← defineOtherwise d next routes otherwise
    let routes := Ordered.put unknownBranchEvent (some failedId) routes
    let handler := Handler.decide select (names branches) otherwise.isSome
    .ok (id, d.add id (.state (.orchestrate routes handler (.slot .absent))))
  | .loop body stop bound onExhausted name => do
    let (id, d) := d.idFor given (Node.nameOr "loop" name)
    let (bodyId, d) ← define d id none body
    let (exhausted, d) ← defineExhausted d id next onExhausted
    let routes := [("done", some next), ("exhausted", some exhausted)]
    .ok (id, d.add id (.primitive (.loop (some bodyId) bound routes (.code stop .context))))
  | .write render name =>
    let (id, d) := d.idFor given (Node.nameOr "write" name)
    .ok (id, d.add id (.primitive (.publish (.code render .context) (onward next))))
  | .finish status message =>
    let (id, d) := d.idFor given ("end_" ++ status.name)
    .ok (id, d.add id (.primitive (.finish status message)))
  | .unsupported v => .error (.unsupportedNode v.typeName)

/-- Defines the nodes of a flow, the last one first. -/
def defineFlow (d : Draft F) (next : String) :
    List (Node F) → List (Option String) → Except Fault (String × Draft F)
  | [], _ => .ok (next, d)
  | node :: nodes, ids => do
    let (target, d) ← defineFlow d next nodes ids.tail
    define d target (ids.head?.join) node

/-- Defines the branches of a decision and gives their routes. -/
def defineBranches (d : Draft F) (next : String) :
    List (String × Node F) → Except Fault (Routes × Draft F)
  | [] => .ok ([], d)
  | (key, node) :: rest => do
    let (id, d) ← define d next none node
    let (routes, d) ← defineBranches d next rest
    .ok ((key, some id) :: routes, d)

/-- Defines where a decision goes for other keys, if anywhere. -/
def defineOtherwise (d : Draft F) (next : String) (routes : Routes) :
    Option (Node F) → Except Fault (Routes × Draft F)
  | none => .ok (routes, d)
  | some node => do
    let (id, d) ← define d next none node
    .ok (Ordered.put otherwiseEvent (some id) routes, d)

/-- Defines where a loop goes when it runs out of iterations: to a given node or to a failed end. -/
def defineExhausted (d : Draft F) (id next : String) :
    Option (Node F) → Except Fault (String × Draft F)
  | none =>
    let item := Item.primitive (.finish .failed (some loopExhaustedMessage))
    .ok (exhaustedId id, d.add (exhaustedId id) item)
  | some node => define d next none node

end

end Pipe

/-- The definition of a pipe. -/
def Node.toDefinition (id : String) (initial : Fields) (node : Node F) :
    Except Fault (Definition F) := do
  let d : Pipe.Draft F := ⟨[], 0⟩
  let d := d.add Pipe.doneId (.primitive (.finish .done none))
  let d := d.add Pipe.failedId (.primitive (.finish .failed none))
  let (start, d) ← Pipe.define d Pipe.doneId none node
  .ok { id, start, items := d.items, context := initial, guards := [], handlers := [] }

def Node.compile (id : String) (initial : Fields) (node : Node F) : Except Fault (Graph F) := do
  let d ← node.toDefinition id initial
  d.compile

end Tickwork
