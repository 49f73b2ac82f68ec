import Tickwork.Number.Numeral
import Tickwork.Shop.Request
import Tickwork.Text.Path

/-!
# Settings

Settings are read from environment variables, one after the other in a fixed order, so that the first
variable that cannot be read is the one that is reported. Whether the values are in range is a second
question, which `Settings.validate` answers.
-/

set_option autoImplicit false

namespace Tickwork

/-- The variables of an environment. -/
abbrev Environment := List (String × String)

structure Settings where
  storePath : String
  busyTimeoutMs : Int
  perTick : Int
  perRun : Int
  /-- The id of the worker, if one was chosen. -/
  workerId : Option String
  leaseMode : LeaseMode
  leaseSeconds : Binary64
  pollSeconds : Binary64
  verifyReplay : Bool
  /-- Where factories are looked for. -/
  sources : List String
  deriving DecidableEq

namespace Settings

def variableName (name : String) : String := "TASKFACTORY_" ++ name

/-- The names of the variables that settings are read from. -/
def variableNames : List String :=
  ["DB_PATH", "SQLITE_BUSY_TIMEOUT_MS", "MAX_TRANSITIONS_PER_TICK", "MAX_TRANSITIONS_PER_RUN",
    "WORKER_ID", "LEASE_MODE", "LEASE_SECONDS", "POLL_INTERVAL_SECONDS", "VERIFY_REPLAY",
    "FACTORIES"]

def textOr (env : Environment) (name fallback : String) : String :=
  (env.lookup (variableName name)).getD fallback

def wholeOr (env : Environment) (name fallback : String) : Except SettingsFault Int :=
  let text := textOr env name fallback
  (Numeral.readInt text).mapError (.notWhole text)

def realOr (env : Environment) (name fallback : String) : Except SettingsFault Binary64 :=
  let text := textOr env name fallback
  match Numeral.readFloat? text with
  | some x => .ok x
  | none => .error (.notReal text)

/-- A variable as a lease mode. Case, blanks around it and the kind of dash do not matter. -/
def readLeaseMode (env : Environment) : Except SettingsFault LeaseMode :=
  let name := variableName "LEASE_MODE"
  match env.lookup name with
  | none => .ok .strict
  | some text =>
    let plain := String.ofList
      ((Text.lowered (Text.strip text)).toList.map fun c => if c = '-' then '_' else c)
    match LeaseMode.ofName? plain with
    | some mode => .ok mode
    | none => .error (.leaseMode name text)

def readFlag (env : Environment) (name : String) : Except SettingsFault Bool :=
  match env.lookup (variableName name) with
  | none => .ok false
  | some text =>
    let plain := Text.lowered (Text.strip text)
    if ["1", "true", "yes", "on"].contains plain then .ok true
    else if ["0", "false", "no", "off"].contains plain then .ok false
    else .error (.flag (variableName name) text)

/-- The parts of a list with commas, without blanks around them, each once and none empty. -/
def readList (text : String) : List String :=
  (((Text.split ',' text).map Text.strip).filter (· ≠ "")).foldl
    (fun parts part => if parts.contains part then parts else parts ++ [part]) []

/-- Reads the settings of an environment. A path that is given goes before that of the environment. -/
def read (env : Environment) (storePath : Option String) : Except SettingsFault Settings := do
  let busyTimeoutMs ← wholeOr env "SQLITE_BUSY_TIMEOUT_MS" "5000"
  let perTick ← wholeOr env "MAX_TRANSITIONS_PER_TICK" "25"
  let perRun ← wholeOr env "MAX_TRANSITIONS_PER_RUN" "200"
  let leaseMode ← readLeaseMode env
  let leaseSeconds ← realOr env "LEASE_SECONDS" "30"
  let pollSeconds ← realOr env "POLL_INTERVAL_SECONDS" "2.0"
  let verifyReplay ← readFlag env "VERIFY_REPLAY"
  .ok
    { storePath := Text.plainPath (storePath.getD (textOr env "DB_PATH" ".taskfactory.db"))
      busyTimeoutMs, perTick, perRun
      workerId := env.lookup (variableName "WORKER_ID")
      leaseMode, leaseSeconds, pollSeconds, verifyReplay
      sources := readList (textOr env "FACTORIES" "") }

def isNotPositive (x : Binary64) : Bool :=
  x.isZero || x.isNegative

/-- Fails with the first value that is out of range. -/
def validate (s : Settings) : Except SettingsFault Unit :=
  let fail (name range : String) : Except SettingsFault Unit :=
    .error (.outOfRange (variableName name) range)
  if s.perTick < 1 ∨ Budget.tickCeiling < s.perTick then
    fail "MAX_TRANSITIONS_PER_TICK" s!"between 1 and {Budget.tickCeiling}"
  else if s.perRun < 1 then fail "MAX_TRANSITIONS_PER_RUN" ">= 1"
  else if isNotPositive s.leaseSeconds then fail "LEASE_SECONDS" "> 0"
  else if s.pollSeconds.isNegative then fail "POLL_INTERVAL_SECONDS" ">= 0"
  else if s.busyTimeoutMs ≤ 0 then fail "SQLITE_BUSY_TIMEOUT_MS" "> 0"
  else .ok ()

end Settings

end Tickwork
