import Tickwork.Script.Routine
import Tickwork.Value.Access

/-!
# Factories as documents

A factory can be written as a document: as a definition or a graph with its states one by one, as the
tree of a pipe, or as the name of a bundled factory. Its callables are expressions. Each of them takes
the next number as its site, so that reading a factory again gives callables that are counted anew.
-/

set_option autoImplicit false

namespace Tickwork

variable {S : Type}

/-- Reading a document that has callables in it: it may fail, and it counts the sites. -/
abbrev Reading (α : Type) := StateT Nat (Except Fault) α

/-- A factory as its author provides it. -/
inductive Source (S : Type) where
  | definition (d : Definition (Routine S))
  | graph (g : Graph (Routine S))

namespace Source

def id : Source S → String
  | .definition d => d.id
  | .graph g => g.id

def stateIds : Source S → List String
  | .definition d => names d.items
  | .graph g => names g.states

def typeName : Source S → String
  | .definition _ => "FactoryDefinition"
  | .graph _ => "FactoryGraph"

/-- The graph of the factory: compiled, or checked if it is a graph already. -/
def checked : Source S → Except Fault (Graph (Routine S))
  | .definition d => d.compile
  | .graph g => g.ensureValid

/-- The graph of the factory; one that is a graph already is taken as it is. -/
def compiled : Source S → Except Fault (Graph (Routine S))
  | .definition d => d.compile
  | .graph g => .ok g

def toDefinition : Source S → Definition (Routine S)
  | .definition d => d
  | .graph g => g.toDefinition

end Source

namespace Reading

def fail {α : Type} (fault : Fault) : Reading α :=
  fun _ => .error fault

/-- A result that needs no sites. -/
def ofExcept {α : Type} (r : Except Fault α) : Reading α :=
  fun n => r.map (·, n)

/-- A script with a site of its own. -/
def script (readAside : Value → S) (v : Value) : Reading (Routine S) :=
  fun n => .ok (.script n (.ofValue readAside v), n + 1)

/-- What stands where a callable is expected: nothing, a name, an expression or a plain value. -/
def slot (readAside : Value → S) (scope : Scope) (v : Value) : Reading (Slot (Routine S)) :=
  match v with
  | .null => pure .absent
  | .str name => pure (.named name)
  | v =>
    if v.has "fn" then do
      let f ← script readAside (v.get "fn")
      pure (.code f scope)
    else
      match v.get "value" with
      | .null => pure .absent
      | .str name => pure (.named name)
      | plain => pure (.inert plain)

def scripts (readAside : Value → S) :
    List (String × Value) → Reading (List (String × Routine S))
  | [] => pure []
  | (name, v) :: rest => do
    let f ← script readAside v
    let more ← scripts readAside rest
    pure ((name, f) :: more)

def target (v : Value) : Target :=
  v.asString?

/-- Routes as a list of pairs; of two with one event the later counts. -/
def routes (v : Value) : Routes :=
  Ordered.ofPairs (v.pairs.map fun entry => (entry.1, target entry.2))

def endStatus (v : Value) : Reading EndStatus :=
  match v.asString?.bind EndStatus.ofName? with
  | some status => pure status
  | none => fail (.notAMember v.detailed "TerminalStatus")

def strategy (v : Value) : Except Fault Strategy :=
  match v.asString?.bind Strategy.ofName? with
  | some s => .ok s
  | none => .error (.notAMember v.detailed "BackoffStrategy")

/-- A backoff that stands by itself; without a strategy it is the fixed one. -/
def backoff (v : Value) : Except Fault Backoff := do
  let s ← if v.has "strategy" then strategy (v.get "strategy") else .ok .fixed
  .ok ⟨if v.has "base_ms" then v.get "base_ms" else .int 0, s, v.get "cap_ms"⟩

/-- A backoff among the fields of a retry policy; every strategy that counts as false is the fixed
one. -/
def inlineBackoff (v : Value) : Except Fault Backoff := do
  let name := v.get "strategy"
  let s ← if name.truthy then strategy name else .ok .fixed
  .ok ⟨v.get "base_ms", s, v.get "cap_ms"⟩

/-- A retry policy. A backoff stands in it as a whole or by its fields. -/
def retryPolicy (v : Value) : Except Fault RetryPolicy := do
  let whole := v.get "backoff"
  let b ←
    if whole ≠ .null then some <$> backoff whole
    else if v.get "base_ms" ≠ .null then some <$> inlineBackoff v
    else .ok none
  .ok ⟨v.get "max", v.get "max_retries", b⟩

def retry (v : Value) : Reading (Option RetryPolicy) :=
  match v with
  | .null => pure none
  | v => do
    let policy ← ofExcept (retryPolicy v)
    pure (some policy)

/-! ## States and primitives -/

def state (readAside : Value → S) (v : Value) : Reading (State (Routine S)) := do
  let routed := v.get "routes"
  match v.get "state" with
  | .str "action" => do
    let handler ← slot readAside .whole (v.get "handler")
    let policy ← retry (v.get "retry")
    pure (.action (.slot handler)
      ⟨routed.text? "done", routed.text? "failed", routed.text? "feedback"⟩ policy)
  | .str "orchestrate" => do
    let handler ← slot readAside .whole (v.get "handler")
    let selector ← slot readAside .whole (v.get "selector")
    pure (.orchestrate (routes routed) (.slot handler) (.slot selector))
  | .str "loop" => do
    let stop ← slot readAside .whole (v.get "until")
    pure (.loop (target (v.get "body")) (v.get "max_iterations")
      ⟨routed.text? "continue", routed.text? "done", routed.text? "exhausted"⟩ stop)
  | .str "feedback" => pure (.feedback (v.textOr "resume" previousState))
  | .str "terminal" => do
    let status ← endStatus (v.get "status")
    pure (.terminal status (v.text? "message"))
  | _ => pure (.unsupported (v.get "raw"))

def primitive (readAside : Value → S) (v : Value) : String → Reading (Primitive (Routine S))
  | "step" => do
    let run ← slot readAside .whole (v.get "run")
    let policy ← retry (v.get "retry")
    pure (.step (.slot run) (routes (v.get "on")) policy)
  | "ask" => do
    let prompt ← slot readAside .whole (v.get "prompt")
    let parse ← slot readAside .whole (v.get "parse")
    let reader := match parse with
      | .absent => none
      | parse => some (ReplyReader.report parse)
    pure (.ask prompt reader (routes (v.get "on")) (v.text? "resume"))
  | "route" => do
    let select ← slot readAside .whole (v.get "select")
    pure (.route select (routes (v.get "on")))
  | "loop" => do
    let stop ← slot readAside .whole (v.get "until")
    pure (.loop (target (v.get "body")) (v.get "max_iterations") (routes (v.get "on")) stop)
  | "publish" => do
    let render ← slot readAside .whole (v.get "render")
    let on := match v.get "on" with
      | .null => Primitive.publishRoutes
      | on => routes on
    pure (.publish render on)
  | _ => do
    let status ← endStatus (v.get "status")
    pure (.finish status (v.text? "message"))

def item (readAside : Value → S) (v : Value) : Reading (Item (Routine S)) :=
  match v.get "prim" with
  | .str name => do
    let p ← primitive readAside v name
    pure (.primitive p)
  | _ => do
    let s ← state readAside v
    pure (.state s)

/-- Entries read one after the other; of two with one name the later counts. -/
def entries {α : Type} (read : Value → Reading α) (pairs : List (String × Value)) :
    Reading (List (String × α)) := do
  let found ← pairs.mapM fun entry => do
    let a ← read entry.2
    pure (entry.1, a)
  pure (Ordered.ofPairs found)

def definition (readAside : Value → S) (v : Value) : Reading (Definition (Routine S)) := do
  let items ← entries (item readAside) (v.get "states").pairs
  let guards ← scripts readAside (v.namedAt "guards")
  let handlers ← scripts readAside (v.namedAt "handlers")
  pure
    { id := v.textOr "id" "", start := v.textOr "start" "", items,
      context := v.fieldsAt "context", guards, handlers }

def graph (readAside : Value → S) (v : Value) : Reading (Graph (Routine S)) := do
  let states ← entries (state readAside) (v.get "states").pairs
  let guards ← scripts readAside (v.namedAt "guards")
  let handlers ← scripts readAside (v.namedAt "handlers")
  pure
    { id := v.textOr "id" "", start := v.textOr "start" "", states,
      context := v.fieldsAt "context", guards, handlers }

/-! ## Pipes -/

/-- The iterations of a loop in a pipe that gives no number. -/
def defaultIterations : Value := .int 100

mutual

/-- A node of a pipe, from the entries of its mapping. The depth of the document bounds the nesting. -/
def node (readAside : Value → S) : Nat → Value → Reading (Node (Routine S))
  | 0, v => pure (.unsupported v)
  | depth + 1, v => do
    let name := v.text? "name"
    if v.has "flow" then do
      let nodes ← (v.itemsAt "flow").mapM (node readAside depth)
      pure (.flow nodes)
    else if v.has "step" then do
      let run ← script readAside (v.get "step")
      pure (.step run name)
    else if v.has "ask" then do
      let prompt ← slot readAside .context (v.get "ask")
      let parse ← slot readAside .context (v.get "parse")
      pure (.ask prompt parse name)
    else if v.has "decide" then do
      let select ← script readAside (v.get "decide")
      let branches ← entries (node readAside depth) (v.get "branches").pairs
      let otherwise ← optionalNode readAside depth (v.get "otherwise")
      pure (.decide select branches otherwise name)
    else if v.has "loop" then do
      let body ← node readAside depth (v.get "loop")
      let stop ← script readAside (v.get "until")
      let exhausted ← optionalNode readAside depth (v.get "on_exhausted")
      let bound := if v.has "max" then v.get "max" else defaultIterations
      pure (.loop body stop bound exhausted name)
    else if v.has "write" then do
      let render ← script readAside (v.get "write")
      pure (.write render name)
    else if v.has "end" then do
      let status ← endStatus (v.get "end")
      pure (.finish status (v.text? "message"))
    else pure (.unsupported (v.get "bad"))

/-- A node of a pipe, if there is one. Null in place of a node is none. -/
def optionalNode (readAside : Value → S) : Nat → Value → Reading (Option (Node (Routine S)))
  | _, .null => pure none
  | depth, v => do
    match ← node readAside depth v with
    | .unsupported .null => pure none
    | found => pure (some found)

end

def source (readAside : Value → S) (v : Value) : Reading (Source S) :=
  if v.has "definition" then do
    let d ← definition readAside (v.get "definition")
    pure (.definition d)
  else if v.has "graph" then do
    let g ← graph readAside (v.get "graph")
    pure (.graph g)
  else if v.has "pipe" then do
    let pipe := v.get "pipe"
    let root ← node readAside (pipe.depth + 1) (pipe.get "run")
    let d ← ofExcept (root.toDefinition (pipe.textOr "id" "") (pipe.fieldsAt "initial"))
    pure (.definition d)
  else
    match bundled? (v.textOr "bundled" "") with
    | some g => do
      let g ← ofExcept g
      pure (.graph g)
    | none => fail (.catalog (.unknown (v.textOr "bundled" "")))

end Reading

end Tickwork
