import Tickwork.Command.Options
import Tickwork.Shop.Request

/-!
# Commands

The commands of the command line and how they are spelled: `factory check`, `task create`, `task list`,
`task show`, `task reply`, `task replay` and `tick`.
-/

set_option autoImplicit false

namespace Tickwork

inductive Command where
  | help
  | version
  | check (sources : List String)
  | create (storePath : Option String) (sources : List String) (workflowId : String)
      (taskId title prompt context : Option String)
  | list (storePath : Option String) (lifecycle : Option Lifecycle) (workflowId : Option String)
      (limit : Int)
  | view (storePath : Option String) (taskId : String) (withRows : Bool)
  | reply (storePath : Option String) (taskId text : String)
  | replay (storePath : Option String) (sources : List String) (taskId : String)
  | tick (storePath : Option String) (sources : List String) (taskId : Option String) (loop : Bool)
      (maxTicks : Option Int) (leaseMode : Option LeaseMode) (workerId : Option String)
  deriving DecidableEq

namespace Command

/-- The spelling of one command. -/
structure Spelling where
  options : List OptionSpec
  required : List String
  arguments : List String
  build : Scan → Command

/-- The option that asks for help, which every command has. -/
def helpOption : OptionSpec := .flag "--help"

def storeOption : OptionSpec := .text "--db-path"

def sourceOption : OptionSpec := .text "--factory"

def storePath (s : Scan) : Option String := s.text? "--db-path"

def sources (s : Scan) : List String := s.texts "--factory"

def argument (s : Scan) (i : Nat) : String := (s.words[i]?).getD ""

def numberOf (s : Scan) (name : String) : Option Int :=
  (s.text? name).bind fun word => (Numeral.readInt word).toOption

def checkSpelling : Spelling where
  options := [sourceOption, helpOption]
  required := []
  arguments := []
  build s := .check (sources s)

def createSpelling : Spelling where
  options :=
    [storeOption, sourceOption, .text "--workflow", .text "--task-id", .text "--title",
      .text "--prompt", .text "--context", helpOption]
  required := ["--workflow"]
  arguments := []
  build s :=
    .create (storePath s) (sources s) ((s.text? "--workflow").getD "") (s.text? "--task-id")
      (s.text? "--title") (s.text? "--prompt") (s.text? "--context")

def listSpelling : Spelling where
  options :=
    [storeOption, .choice "--lifecycle" (Lifecycle.all.map Lifecycle.name), .text "--workflow",
      .range "--limit" 1 (some 1000), helpOption]
  required := []
  arguments := []
  build s :=
    .list (storePath s) ((s.text? "--lifecycle").bind Lifecycle.ofName?) (s.text? "--workflow")
      ((numberOf s "--limit").getD 50)

def viewSpelling : Spelling where
  options :=
    [storeOption, .flag "--events", ⟨"--no-events", "--events", .sets false⟩, helpOption]
  required := []
  arguments := ["TASK_ID"]
  build s := .view (storePath s) (argument s 0) (s.isSet "--events" true)

def replySpelling : Spelling where
  options := [storeOption, helpOption]
  required := []
  arguments := ["TASK_ID", "REPLY"]
  build s := .reply (storePath s) (argument s 0) (argument s 1)

def replaySpelling : Spelling where
  options := [storeOption, sourceOption, helpOption]
  required := []
  arguments := ["TASK_ID"]
  build s := .replay (storePath s) (sources s) (argument s 0)

def tickSpelling : Spelling where
  options :=
    [storeOption, sourceOption, .text "--task-id", .flag "--loop", .range "--max-ticks" 1 none,
      .choice "--lease-mode" [LeaseMode.strict.name, LeaseMode.bestEffort.name],
      .text "--worker-id", helpOption]
  required := []
  arguments := []
  build s :=
    .tick (storePath s) (sources s) (s.text? "--task-id") (s.isSet "--loop" false)
      (numberOf s "--max-ticks") ((s.text? "--lease-mode").bind LeaseMode.ofName?)
      (s.text? "--worker-id")

/-- What stands under a word of the command line. -/
inductive Entry where
  | command (spelling : Spelling)
  | group (commands : List (String × Spelling))

/-- Everything that the command line knows. -/
def entries : List (String × Entry) :=
  [("factory", .group [("check", checkSpelling)]),
    ("task", .group [("create", createSpelling), ("list", listSpelling), ("show", viewSpelling),
      ("reply", replySpelling), ("replay", replaySpelling)]),
    ("tick", .command tickSpelling)]

def rootOptions : List OptionSpec :=
  [.flag "--version", .flag "--verbose", ⟨"-v", "--verbose", .sets true⟩, helpOption]

def readSpelling (spelling : Spelling) (words : List String) : Except UsageFault Command := do
  let s ← Scan.ofWords spelling.options false words
  if s.isSet "--help" false then .ok .help
  else do
    s.checkGiven
    s.checkArguments spelling.arguments
    s.checkRequired spelling.required
    s.checkExtra spelling.arguments
    .ok (spelling.build s)

/-- A word that names none of the commands; one with a dash in front was meant as an option. -/
def unknown (options : List OptionSpec) (commands : List String) (name : String) : UsageFault :=
  let fault := UsageFault.noSuchCommand name (Text.likely name commands)
  if Scan.isOption name then
    match Scan.ofWords options true [name] with
    | .error fault => fault
    | .ok _ => fault
  else fault

def readGroup (commands : List (String × Spelling)) (words : List String) :
    Except UsageFault Command := do
  if words.isEmpty then .error .nothingGiven
  else do
    let s ← Scan.ofWords [helpOption] true words
    if s.isSet "--help" false then .ok .help
    else
      match s.words with
      | [] => .error .missingCommand
      | name :: rest =>
        match commands.lookup name with
        | some spelling => readSpelling spelling rest
        | none => .error (unknown [helpOption] (commands.map Prod.fst) name)

/-- The option that counts among those that end the reading of a command line at once. -/
def atOnce? (s : Scan) : Option Command :=
  s.given.findSome? fun entry =>
    if entry.1.sets = "--help" then some .help
    else if entry.1.sets = "--version" then some .version
    else none

def read (words : List String) : Except UsageFault Command := do
  if words.isEmpty then .error .nothingGiven
  else do
    let s ← Scan.ofWords rootOptions true words
    match atOnce? s with
    | some command => .ok command
    | none =>
      match s.words with
      | [] => .error .missingCommand
      | name :: rest =>
        match entries.lookup name with
        | some (.command spelling) => readSpelling spelling rest
        | some (.group commands) => readGroup commands rest
        | none => .error (unknown rootOptions (entries.map Prod.fst) name)

end Command

end Tickwork
