import Tickwork.Engine.Host
import Tickwork.Proofs.Pipe.Numbering

/-!
# What a pipe means

`Node.eval` runs a pipe by going down its tree: no states, no routes and no ticks. A step lays its
mapping over the context, a question takes the next reply, a decision goes into a branch, a loop repeats
its body, a page is kept and an end stops the pipe. The reply key of the context belongs to the engine and
is no part of this.
-/

set_option autoImplicit false

namespace Tickwork

variable {F : Type}

namespace Pipe

/-- What the functions of a pipe give for a context and, when they read one, a reply. -/
abbrev Functions (F : Type) := F → Fields → Option String → Except Raised Value

/-- What a pipe works on: its context, a reply that came with it, the replies that it can still ask for
and the pages so far. -/
structure Scene where
  context : Fields
  kept : Option String
  replies : List String
  pages : List Value

/-- Where a pipe came to rest. After a fatal error its pages are not kept. -/
structure Close where
  lifecycle : Lifecycle
  lastError : Option String
  context : Fields
  pages : List Value
  fatal : Bool
  deriving DecidableEq

/-- What running a node comes to: the pipe goes on, or it came to rest. -/
inductive Result where
  | onward (scene : Scene)
  | rested (close : Close)

/-- Goes on with what follows. -/
def Result.andThen : Result → (Scene → Result) → Result
  | .onward scene, next => next scene
  | .rested close, _ => .rested close

/-- A pipe that runs through is done. -/
def Result.close : Result → Close
  | .onward scene => ⟨.done, none, scene.context, scene.pages, false⟩
  | .rested close => close

namespace Scene

/-- Lays changes over the context. -/
def changed (s : Scene) (changes : Fields) : Scene :=
  { s with context := Fields.overlay s.context changes }

/-- The pipe waits for a reply. -/
def waits (s : Scene) : Result :=
  .rested ⟨.feedback, none, s.context, s.pages, false⟩

/-- The pipe ends failed with a message. -/
def fails (s : Scene) (message : String) : Result :=
  .rested ⟨.failed, some message, s.context, s.pages, false⟩

/-- The pipe is given up. -/
def givesUp (s : Scene) (cause : FatalCause) : Result :=
  .rested ⟨.failed, some cause.message, s.context, s.pages, true⟩

/-- The pipe comes to an end of its own. -/
def ends (s : Scene) (status : EndStatus) (message : Option String) : Result :=
  let words := if status = .done then none
    else some (Node.nameOr s!"Terminal state: {status.name}" message)
  .rested ⟨.ofEnd status, words, s.context, s.pages, false⟩

/-- A step, a question or a page raised. -/
def raises (s : Scene) : Raised → Result
  | .fatal cause _ => s.givesUp cause
  | e => s.fails e.described

/-- The function of a decision raised. -/
def cannotDecide (s : Scene) (id : String) : Raised → Result
  | .fatal cause _ => s.givesUp cause
  | e => s.givesUp (.orchestrateRaised id e.message)

end Scene

/-! ## Questions -/

/-- What a prompt says: a function's answer, or what stands there itself. -/
def promptValue (fn : Functions F) (context : Fields) : Slot F → Except Raised Value
  | .code f _ => fn f context none
  | .named text => .ok (.str text)
  | .inert v => .ok v
  | .absent => .ok .null

/-- What a reply is read as. -/
inductive Reading where
  | changes (fields : Fields)
  | again (message : Value) (changes : Fields)

/-- What a reading function's answer stands for. -/
def readingOf (v : Value) : Except Raised Reading :=
  match v with
  | .again message changes => .ok (.again message changes)
  | v => v.toFields.map .changes

/-- Reads a reply. Without a function any reply will do. -/
def readingFor (fn : Functions F) (context : Fields) (reply : String) :
    Slot F → Except Raised Reading
  | .absent => .ok (.changes [])
  | .code f _ => (fn f context (some reply)).bind readingOf
  | ref => .error (.notCallable ref.typeName)

/-- Whether a question can show a value: a text, or nothing. -/
def isWords : Value → Bool
  | .null | .str _ => true
  | _ => false

/-- What a question shows that is asked again: its own prompt where it has no other words. -/
def shownAgain (prompt message : Value) : Value :=
  if message = .null ∨ message = .str "" then prompt else message

/-- Answers a question with a reply, and with the next ones while it is asked again. -/
def answered (fn : Functions F) (id : String) (prompt parse : Slot F) (pages : List Value) :
    List String → Fields → String → Result
  | later, context, reply =>
    let scene : Scene := ⟨context, none, later, pages⟩
    match promptValue fn context prompt with
    | .error e => scene.raises e
    | .ok asked =>
      match readingFor fn context reply parse with
      | .error e => scene.raises e
      | .ok (.changes fields) => .onward (scene.changed fields)
      | .ok (.again message changes) =>
        if isWords (shownAgain asked message) then
          match later with
          | [] => (scene.changed changes).waits
          | next :: rest =>
            answered fn id prompt parse pages rest (Fields.overlay context changes) (Text.strip next)
        else scene.givesUp (.messageNotText id)

/-- Asks for a reply. A reply that came with the context is taken at once; otherwise the question is
shown, and the pipe waits unless there is a reply left. -/
def asked (fn : Functions F) (id : String) (prompt parse : Slot F) (s : Scene) : Result :=
  match s.kept with
  | some reply => answered fn id prompt parse s.pages s.replies s.context reply
  | none =>
    match promptValue fn s.context prompt with
    | .error e => s.raises e
    | .ok shown =>
      if isWords shown then
        match s.replies with
        | [] => s.waits
        | reply :: rest => answered fn id prompt parse s.pages rest s.context (Text.strip reply)
      else s.givesUp (.messageNotText id)

/-! ## Loops -/

/-- Repeats a body until the guard holds, at most so often as there are rounds left. -/
def repeated (guard : Fields → Except Raised Value) (id : String) (body exhausted : Scene → Result) :
    Nat → Scene → Result
  | left, s =>
    match guard s.context with
    | .error e => s.givesUp (.guardRaised id e.message)
    | .ok v =>
      if v.truthy then .onward s
      else
        match left with
        | 0 => exhausted s
        | left + 1 => (body s).andThen (repeated guard id body exhausted left)

/-- How often a loop may repeat its body. -/
def bounded : Value → Nat
  | .int n => n.toNat
  | _ => 0

end Pipe

namespace Node

open Pipe

mutual

/-- Runs a node. -/
def eval (fn : Functions F) (nums : Numbering) : Node F → Scene → Result
  | .flow nodes, s => evalFlow fn nums.under nodes s
  | .step run _, s =>
    match (fn run s.context none).bind Value.toFields with
    | .error e => s.raises e
    | .ok changes => .onward (s.changed changes)
  | .ask prompt parse name, s => asked fn (numbered (nameOr "ask" name) (nums [])) prompt parse s
  | .decide select branches otherwise name, s =>
    let id := numbered (nameOr "decide" name) (nums [])
    match fn select s.context none with
    | .error e => s.cannotDecide id e
    | .ok key =>
      match key.toKey with
      | .error e => s.cannotDecide id e
      | .ok word =>
        evalBranches fn (nums.under 0).under word.asString?
          (evalOtherwise fn (nums.under 1) id key otherwise) branches s
  | .loop body stop bound onExhausted name, s =>
    repeated (fun context => fn stop context none) (numbered (nameOr "loop" name) (nums []))
      (eval fn (nums.under 0) body) (evalExhausted fn (nums.under 1) onExhausted) (bounded bound) s
  | .write render _, s =>
    match fn render s.context none with
    | .error e => s.raises e
    | .ok v =>
      match readPage v with
      | .error cause => s.givesUp cause
      | .ok page => .onward { s with pages := s.pages ++ [page] }
  | .finish status message, s => s.ends status message
  | .unsupported _, s => .onward s

/-- Runs the nodes of a flow one after the other. -/
def evalFlow (fn : Functions F) (family : Nat → Numbering) : List (Node F) → Scene → Result
  | [], s => .onward s
  | node :: rest, s =>
    (eval fn (family 0) node s).andThen (evalFlow fn (fun i => family (i + 1)) rest)

/-- Runs the branch under a word, or something else when there is none. -/
def evalBranches (fn : Functions F) (family : Nat → Numbering) (word : Option String)
    (other : Scene → Result) : List (String × Node F) → Scene → Result
  | [], s => other s
  | (key, node) :: rest, s =>
    if word = some key then eval fn (family 0) node s
    else evalBranches fn (fun i => family (i + 1)) word other rest s

/-- Runs what a decision has for other words; if there is nothing, the pipe fails. -/
def evalOtherwise (fn : Functions F) (nums : Numbering) (id : String) (key : Value) :
    Option (Node F) → Scene → Result
  | some node, s => eval fn nums node s
  | none, s =>
    match key.sentence with
    | .error e => s.cannotDecide id e
    | .ok shown => s.fails ("Unknown branch selected: " ++ shown)

/-- Runs what a loop has for when its rounds are used up; if there is nothing, the pipe fails. -/
def evalExhausted (fn : Functions F) (nums : Numbering) : Option (Node F) → Scene → Result
  | some node, s => eval fn nums node s
  | none, s => s.fails loopExhaustedMessage

end

/-- Where a pipe comes to rest that starts with a context and a script of replies. -/
def meaning (fn : Functions F) (node : Node F) (initial : Fields) (script : List String) : Close :=
  (node.eval fn node.numbering
    ⟨Fields.erase replyKey initial, readReply none initial, script, []⟩).close

end Node

/-! ## Trees that are compiled -/

namespace Pipe

/-- What a reading changes in the context. -/
def Reading.fields : Reading → Fields
  | .changes laid => laid
  | .again _ laid => laid

/-- A function whose answers do not depend on the reply key. -/
def Blind (fn : Functions F) (f : F) : Prop :=
  ∀ context reply, fn f context reply = fn f (Fields.erase replyKey context) reply

/-- A function whose answers do not change the reply key. -/
def Mute (fn : Functions F) (f : F) : Prop :=
  ∀ context reply v reading, fn f context reply = .ok v → readingOf v = .ok reading →
    Fields.get? replyKey reading.fields = none

/-- Trees whose nodes are all of a kind that pipes know. -/
inductive Recognized : Node F → Prop
  | flow {nodes : List (Node F)} (all : ∀ node ∈ nodes, Recognized node) : Recognized (.flow nodes)
  | step {run : F} {name : Option String} : Recognized (.step run name)
  | ask {prompt parse : Slot F} {name : Option String} : Recognized (.ask prompt parse name)
  | decide {select : F} {branches : List (String × Node F)} {otherwise : Option (Node F)}
      {name : Option String} (all : ∀ branch ∈ branches, Recognized branch.2)
      (other : ∀ node, otherwise = some node → Recognized node) :
      Recognized (.decide select branches otherwise name)
  | loop {body : Node F} {stop : F} {bound : Value} {onExhausted : Option (Node F)} {name : Option String}
      (inner : Recognized body) (other : ∀ node, onExhausted = some node → Recognized node) :
      Recognized (.loop body stop bound onExhausted name)
  | write {render : F} {name : Option String} : Recognized (.write render name)
  | finish {status : EndStatus} {message : Option String} : Recognized (.finish status message)

/-- Trees of proper nodes: bounds are counts and branches have names. -/
inductive Built : Node F → Prop
  | flow {nodes : List (Node F)} (all : ∀ node ∈ nodes, Built node) : Built (.flow nodes)
  | step {run : F} {name : Option String} : Built (.step run name)
  | ask {prompt parse : Slot F} {name : Option String} : Built (.ask prompt parse name)
  | decide {select : F} {branches : List (String × Node F)} {otherwise : Option (Node F)}
      {name : Option String} (named : ∀ branch ∈ branches, branch.1 ≠ "")
      (all : ∀ branch ∈ branches, Built branch.2) (other : ∀ node, otherwise = some node → Built node) :
      Built (.decide select branches otherwise name)
  | loop {body : Node F} {stop : F} {n : Int} {onExhausted : Option (Node F)} {name : Option String}
      (count : 0 ≤ n) (inner : Built body) (other : ∀ node, onExhausted = some node → Built node) :
      Built (.loop body stop (.int n) onExhausted name)
  | write {render : F} {name : Option String} : Built (.write render name)
  | finish {status : EndStatus} {message : Option String} : Built (.finish status message)

theorem Built.recognized {node : Node F} (built : Built node) : Recognized node := by
  induction built with
  | flow all ih => exact .flow ih
  | step => exact .step
  | ask => exact .ask
  | decide named all other ihAll ihOther => exact .decide ihAll ihOther
  | loop count inner other ihInner ihOther => exact .loop ihInner ihOther
  | write => exact .write
  | finish => exact .finish

/-- Trees of proper nodes: bounds are counts, branches have names of their own, and no function reads or
writes the reply key. -/
inductive Supported (fn : Functions F) : Node F → Prop
  | flow {nodes : List (Node F)} (all : ∀ node ∈ nodes, Supported fn node) :
      Supported fn (.flow nodes)
  | step {run : F} {name : Option String} (blind : Blind fn run) (mute : Mute fn run) :
      Supported fn (.step run name)
  | ask {prompt parse : Slot F} {name : Option String}
      (blind : ∀ f scope, prompt = .code f scope → Blind fn f)
      (reads : ∀ f scope, parse = .code f scope → Blind fn f ∧ Mute fn f) :
      Supported fn (.ask prompt parse name)
  | decide {select : F} {branches : List (String × Node F)} {otherwise : Option (Node F)}
      {name : Option String} (blind : Blind fn select)
      (named : ∀ branch ∈ branches, Text.isBlankText branch.1 = false ∧
        branch.1 ≠ otherwiseEvent ∧ branch.1 ≠ unknownBranchEvent)
      (all : ∀ branch ∈ branches, Supported fn branch.2)
      (other : ∀ node, otherwise = some node → Supported fn node) :
      Supported fn (.decide select branches otherwise name)
  | loop {body : Node F} {stop : F} {n : Int} {onExhausted : Option (Node F)}
      {name : Option String} (blind : Blind fn stop) (count : 0 ≤ n)
      (inner : Supported fn body) (other : ∀ node, onExhausted = some node → Supported fn node) :
      Supported fn (.loop body stop (.int n) onExhausted name)
  | write {render : F} {name : Option String} (blind : Blind fn render) :
      Supported fn (.write render name)
  | finish {status : EndStatus} {message : Option String} : Supported fn (.finish status message)

theorem Supported.built {fn : Functions F} {node : Node F} (supported : Supported fn node) : Built node := by
  induction supported with
  | flow all ih => exact .flow ih
  | step blind mute => exact .step
  | ask blind reads => exact .ask
  | decide blind named all other ihAll ihOther =>
      refine .decide ?_ ihAll ihOther
      intro branch inside empty
      have blank := (named branch inside).1
      rw [empty] at blank
      cases blank
  | loop blind count inner other ihInner ihOther => exact .loop count ihInner ihOther
  | write blind => exact .write
  | finish => exact .finish

end Pipe

end Tickwork
