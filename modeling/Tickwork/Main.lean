import Std.Time.DateTime.Timestamp
import Tickwork.Catalog.Read
import Tickwork.Command.Run

/-!
# The program

Runs the command line that the program was started with, in an office that is opened for it. A single
dash asks for a session instead: command lines are read from the standard input, each a list of words
on a line of its own, and run one after the other in one office, so that what one of them stores is
there for the next.
-/

set_option autoImplicit false

namespace Tickwork

namespace Program

/-- The variables that settings are read from, as far as they are set. -/
def environment : IO Environment := do
  let entries ← Settings.variableNames.mapM fun name => do
    let full := Settings.variableName name
    return (← IO.getEnv full).map fun text => (full, text)
  return entries.filterMap id

def now : IO Instant := do
  let t ← Std.Time.Timestamp.now
  return ⟨t.toNanosecondsSinceUnixEpoch.val / 1000⟩

/-- The modules with factories: those of a document, if one is given, and the bundled ones. -/
def modules (text : Option String) : Except String (Shelf × Nat) := do
  let v ← match text with
    | none => .ok (.dict [])
    | some text => (Value.read text).mapError fun fault => fault.message text
  ((Shelf.read v) 0).mapError Fault.message

/-- An office with an empty store under every path. -/
def office : IO Office := do
  let text ← IO.getEnv (Settings.variableName "MODULES")
  match modules text with
  | .error words => throw (IO.userError words)
  | .ok (shelf, sites) =>
    return { environment := ← environment, shelf, sites, shop := .opened (← now), stores := [] }

/-- Runs one command line and prints what it reports. The result is an exit code. -/
def runWords (o : Office) (words : List String) : IO (Nat × Office) := do
  let opened := { o with shop := { o.shop with now := ← now } }
  let (report, o) := (Office.run words).run opened
  IO.print report.text
  match report.failure with
  | none => return (0, o)
  | some failure => do
    IO.eprintln s!"Error: {failure.message}"
    return (failure.exitCode, o)

/-- The words of a command line that is written as a list. -/
def wordsOf (line : String) : Except String (List String) :=
  match Value.read line with
  | .error fault => .error (fault.message line)
  | .ok v => .ok (v.elements.filterMap Value.asString?)

/-- Runs the command lines of the standard input. The result is the last exit code that told of a
failure, zero if there was none. -/
partial def session (input : IO.FS.Stream) (o : Office) (code : Nat) : IO Nat := do
  let line ← input.getLine
  if line.isEmpty then return code
  else
    match wordsOf line with
    | .error words => do
      IO.eprintln s!"Error: {words}"
      session input o 2
    | .ok words => do
      let (failed, o) ← runWords o words
      session input o (if failed = 0 then code else failed)

end Program

end Tickwork

/-- Runs the command line, or a session if it is a single dash. -/
def main (words : List String) : IO UInt32 := do
  let o ← Tickwork.Program.office
  if words = ["-"] then
    let code ← Tickwork.Program.session (← IO.getStdin) o 0
    return code.toUInt32
  else
    let (code, _) ← Tickwork.Program.runWords o words
    return code.toUInt32
