import Tickwork.Number.Numeral
import Tickwork.Text.Likeness
import Tickwork.Text.Quoted

/-!
# Options and arguments

How the words of a command line are told apart. A word that starts with a dash and goes on is an
option, two dashes alone end the options, everything else is an argument. An option that takes a value
takes it from after an equals sign or from the next word, whatever that is. Values are checked in the
order in which the options were given first. A name that is not known is answered with those that are
spelled like it.
-/

set_option autoImplicit false

namespace Tickwork

/-- What is wrong with a command line. -/
inductive UsageFault where
  | noSuchCommand (name : String) (likely : List String)
  | noSuchOption (name : String) (likely : List String)
  | missingOption (name : String)
  | missingArgument (name : String)
  | needsArgument (name : String)
  | takesNoValue (name : String)
  | invalidValue (option problem : String)
  | extraArguments (words : List String)
  | missingCommand
  | nothingGiven
  deriving DecidableEq

def UsageFault.suggestion (noun : String) : List String → String
  | [] => ""
  | [name] => " Did you mean " ++ Text.quoted name ++ "?"
  | names =>
    let known := (names.mergeSort fun a b => decide (a ≤ b)).map Text.quoted
    s!" (Possible {noun}: " ++ ", ".intercalate known ++ ")"

def UsageFault.message : UsageFault → String
  | .noSuchCommand name likely =>
    "No such command " ++ Text.quoted name ++ "." ++ suggestion "commands" likely
  | .noSuchOption name likely =>
    "No such option " ++ Text.quoted name ++ "." ++ suggestion "options" likely
  | .missingOption name => s!"Missing option '{name}'."
  | .missingArgument name => s!"Missing argument '{name}'."
  | .needsArgument name => "Option " ++ Text.quoted name ++ " requires an argument."
  | .takesNoValue name => "Option " ++ Text.quoted name ++ " does not take a value."
  | .invalidValue option problem => s!"Invalid value for '{option}': {problem}"
  | .extraArguments words =>
    let noun := if words.length = 1 then "argument" else "arguments"
    s!"Got unexpected extra {noun} (" ++ " ".intercalate words ++ ")"
  | .missingCommand => "Missing command."
  | .nothingGiven => ""

/-- What an option does: it takes a value, of which something may be asked, or it sets a flag. -/
inductive OptionKind where
  | takesValue (problem : String → Option String)
  | sets (flag : Bool)

/-- An option. Several options may set one thing, named by the first of them. -/
structure OptionSpec where
  name : String
  sets : String
  kind : OptionKind

namespace OptionSpec

def text (name : String) : OptionSpec := ⟨name, name, .takesValue fun _ => none⟩

def flag (name : String) : OptionSpec := ⟨name, name, .sets true⟩

def choice (name : String) (choices : List String) : OptionSpec :=
  ⟨name, name, .takesValue fun word =>
    if choices.contains word then none
    else some (Text.quoted word ++ " is not one of " ++
      ", ".intercalate (choices.map Text.quoted) ++ ".")⟩

def rangeWords (least : Int) : Option Int → String
  | some most => s!"{least}<=x<={most}"
  | none => s!"x>={least}"

def range (name : String) (least : Int) (most : Option Int) : OptionSpec :=
  ⟨name, name, .takesValue fun word =>
    match Numeral.readInt word with
    | .error _ => some (Text.quoted word ++ " is not a valid integer range.")
    | .ok n =>
      if least ≤ n ∧ most.all (fun (m : Int) => decide (n ≤ m)) then none
      else some (s!"{n} is not in the range " ++ rangeWords least most ++ ".")⟩

end OptionSpec

/-- What an option was given. -/
inductive Given where
  | word (text : String)
  | flag (on : Bool)
  deriving DecidableEq

/-- A command line taken apart: what options were given, in order, and the words that are left. -/
structure Scan where
  given : List (OptionSpec × Given)
  words : List String

namespace Scan

/-- A scan with one option more in front. -/
def withOption (spec : OptionSpec) (given : Given) (s : Scan) : Scan :=
  { s with given := (spec, given) :: s.given }

/-- The flags of a word like `-ab`, each of one letter. -/
def shortFlags (specs : List OptionSpec) : List Char → Except UsageFault (List (OptionSpec × Given))
  | [] => .ok []
  | c :: rest =>
    let name := String.ofList ['-', c]
    match specs.find? fun spec => spec.name == name with
    | some spec => do
      let more ← shortFlags specs rest
      .ok ((spec, .flag true) :: more)
    | none => .error (.noSuchOption name [])

/-- The name of an option and the value after its equals sign. -/
def splitWord (word : String) : String × Option String :=
  let cs := word.toList
  let name := cs.takeWhile (· != '=')
  if name.length = cs.length then (word, none)
  else (String.ofList name, some (String.ofList (cs.drop (name.length + 1))))

def isOption (word : String) : Bool :=
  word.startsWith "-" && decide (1 < word.length)

def unknownOption (specs : List OptionSpec) (name : String) : UsageFault :=
  .noSuchOption name
    (Text.likely name ((specs.map OptionSpec.name).filter fun known => known.startsWith "--"))

/-- Takes a command line apart. A group of commands stops at the first argument, which names a
command. -/
def ofWords (specs : List OptionSpec) (group : Bool) : List String → Except UsageFault Scan
  | [] => .ok ⟨[], []⟩
  | word :: rest =>
    if word = "--" then .ok ⟨[], rest⟩
    else if !isOption word then
      if group then .ok ⟨[], word :: rest⟩
      else do
        let s ← ofWords specs group rest
        .ok { s with words := word :: s.words }
    else
      let (name, value) := splitWord word
      let long := name.startsWith "--"
      match if long then specs.find? (fun spec => spec.name == name) else none with
      | none =>
        if word.startsWith "--" then .error (unknownOption specs name)
        else do
          let flags ← shortFlags specs (word.toList.drop 1)
          let s ← ofWords specs group rest
          .ok { s with given := flags ++ s.given }
      | some spec =>
        match spec.kind, value with
        | .sets _, some _ => .error (.takesNoValue name)
        | .sets on, none => do
          let s ← ofWords specs group rest
          .ok (s.withOption spec (.flag on))
        | .takesValue _, some text => do
          let s ← ofWords specs group rest
          .ok (s.withOption spec (.word text))
        | .takesValue _, none =>
          match rest with
          | [] => .error (.needsArgument name)
          | text :: rest => do
            let s ← ofWords specs group rest
            .ok (s.withOption spec (.word text))

/-- Everything that was given for one thing, in order. -/
def all (s : Scan) (name : String) : List Given :=
  (s.given.filter fun entry => entry.1.sets == name).map Prod.snd

def texts (s : Scan) (name : String) : List String :=
  (s.all name).filterMap fun
    | .word text => some text
    | .flag _ => none

/-- The word that counts for an option: the last one. -/
def text? (s : Scan) (name : String) : Option String :=
  (s.texts name).getLast?

/-- Whether a flag is set; the last option for it counts. -/
def isSet (s : Scan) (name : String) (default : Bool) : Bool :=
  match (s.all name).getLast? with
  | some (.flag on) => on
  | _ => default

def checkOption (s : Scan) (spec : OptionSpec) : Except UsageFault Unit :=
  match spec.kind, s.text? spec.sets with
  | .takesValue problem, some word =>
    match problem word with
    | some words => .error (.invalidValue spec.name words)
    | none => .ok ()
  | _, _ => .ok ()

/-- Checks the values of the options in the order in which these were given. -/
def checkGiven (s : Scan) : Except UsageFault Unit :=
  s.given.forM fun entry => s.checkOption entry.1

/-- Checks that there is a word for every argument. -/
def checkArguments (s : Scan) (names : List String) : Except UsageFault Unit :=
  match names.drop s.words.length with
  | [] => .ok ()
  | name :: _ => .error (.missingArgument name)

/-- Checks that the options are there which have to be. -/
def checkRequired (s : Scan) (names : List String) : Except UsageFault Unit :=
  match names.find? fun name => (s.text? name).isNone with
  | some name => .error (.missingOption name)
  | none => .ok ()

def checkExtra (s : Scan) (names : List String) : Except UsageFault Unit :=
  match s.words.drop names.length with
  | [] => .ok ()
  | words => .error (.extraArguments words)

end Scan

end Tickwork
