import Tickwork.Shop.Runner

/-!
# Serving requests

`Shop.serve` carries out one request. A callable may make requests while a request is being served, so
that requests nest; the nesting has a bound.
-/

set_option autoImplicit false

namespace Tickwork

namespace Shop

/-- The named runner, or the first one. -/
def runner (name : Option String) : Work (String × Runner) := do
  let s ← get
  match name with
  | none =>
    match s.runners.head? with
    | some entry => pure entry
    | none => throw (.raised .key (Text.quoted ""))
  | some name =>
    match s.runners.lookup name with
    | some settings => pure (name, settings)
    | none => throw (.raised .key (Text.quoted name))

/-- Stops the innermost loop that is running. -/
def stop (signal : String) (s : Shop) : Shop :=
  match s.loops with
  | [] => s
  | name :: _ => { s with stopped := Sorted.put name signal s.stopped }

/-- Carries out a request; `perform` is what the requests of callables do. -/
def serveWith (perform : Request → StateM Shop Unit) : Request → Work Response
  | .create draft => do
    let view ← create draft
    pure (.task (some view))
  | .get taskId => do
    let view ← find? taskId
    pure (.task view)
  | .list lifecycle workflowId limit => do
    ofExcept (Tables.ensureLimit limit)
    let views ← ofExcept
      (((← get).tables.listTasks lifecycle workflowId limit).mapM TaskRow.view)
    pure (.tasks views)
  | .runnable limit => do
    ofExcept (limit.forM Tables.ensureLimit)
    pure (.ids ((← get).tables.runnable limit))
  | .load taskId => do
    let p ← load taskId
    pure (.progress p)
  | .checkpoint taskId columns owner => do
    let landed ← attempt fun t now => t.checkpoint now taskId columns owner
    pure (.landed landed)
  | .record row missing taskId columns owner => do
    let landed ← attempt fun t now => t.record now row missing taskId columns owner
    pure (.landed landed)
  | .rows taskId => do
    pure (.rows ((← get).tables.rowsFor taskId))
  | .reply taskId text => do
    let landed ← attempt fun t now => t.submitReply now taskId text
    pure (.landed landed)
  | .acquire taskId owner span => do
    let landed ← attempt fun t now => t.acquire now taskId owner span
    pure (.landed landed)
  | .renew taskId owner span => do
    let landed ← attempt fun t now => t.renew now taskId owner span
    pure (.landed landed)
  | .release taskId owner => do
    setTables ((← get).tables.release taskId owner)
    pure .nothing
  | .startRun taskId => do
    let runId ← startRun taskId
    pure (.run runId)
  | .finishRun runId status => do
    finishRun runId status
    pure .nothing
  | .runStatus runId => do
    pure (.runStatus (((← get).tables.run? runId).map RunRow.status))
  | .clock micros => do
    modify (passTime micros)
    pure (.time (← get).now)
  | .tick name taskId feedback => do
    let (_, settings) ← runner name
    let report ← tick perform settings taskId feedback
    pure (.report report)
  | .runOnce name => do
    let (name, settings) ← runner name
    let summary ← runOnce perform name settings
    pure (.summary summary)
  | .runLoop name maxTicks maxIdlePolls => do
    let (name, settings) ← runner name
    let summary ← runLoop perform name settings maxTicks maxIdlePolls
    pure (.loop summary ((← get).stopped.lookup name))
  | .verify name taskId => do
    let _ ← runner name
    let final ← verify taskId
    pure (.final final)
  | .signal name => do
    modify (stop name)
    pure .nothing
  | .malformed fault => throw fault

/-- Whether a request is a signal, which leaves no trace among the asides. -/
def isSignal : Request → Bool
  | .signal _ => true
  | _ => false

/-- Carries out a request of a callable and notes how it came out; requests nest up to a depth. -/
def perform : Nat → Request → StateM Shop Unit
  | 0, _ => pure ()
  | depth + 1, request => fun s =>
    let (result, s) := (serveWith (perform depth) request).run s
    ((), if isSignal request then s else { s with asides := s.asides ++ [result] })

/-- How deep requests may nest. -/
def nestingCeiling : Nat := 1000

def serve (request : Request) : Work Response :=
  serveWith (perform nestingCeiling) request

/-- Carries out the next request, a second after the one before it. -/
def serveNext (request : Request) : Work Response := do
  modify (passTime 1000000)
  serve request

end Shop

end Tickwork
