import Tickwork.Script.Source
import Tickwork.Shop.Request

/-!
# Modules of factories

Factories are found by paths of the form `module:item`. A module that is on the shelf is found under
its dotted name; to tell why another one is missing, what it would be part of is looked for first. An
item is a factory, a builder that makes one when it is asked, or a list of both; without a name the
item is `FACTORIES`.
-/

set_option autoImplicit false

namespace Tickwork

/-- What a module may hold under a name. -/
inductive Provided where
  | source (s : Source Request)
  | list (items : List Provided)
  | tuple (items : List Provided)
  /-- Makes a value anew whenever it is asked; the sites of its callables start at a number. -/
  | builder (make : Nat → Except Fault (Provided × Nat))
  | plain (v : Value)
  /-- Something else that is no factory, of which only the type is told. -/
  | other (type : String)

namespace Provided

def typeName : Provided → String
  | .source s => s.typeName
  | .list _ => "list"
  | .tuple _ => "tuple"
  | .builder _ => "function"
  | .plain v => v.typeName
  | .other type => type

/-- What a builder makes; anything else stands for itself. -/
def built : Provided → Reading Provided
  | .builder make => make
  | p => pure p

/-- The items of a list, or the one item that is there. -/
def parts : Provided → List Provided
  | .list items => items
  | .tuple items => items
  | p => [p]

end Provided

/-- What a module holds, by name. -/
abbrev ModuleItems := List (String × Provided)

/-- A module; one that is a package may have modules below it. -/
structure FactoryModule where
  items : ModuleItems
  isPackage : Bool

/-- The modules that can be imported, by dotted name. -/
abbrev Shelf := List (String × FactoryModule)

namespace Shelf

def isPackage (shelf : Shelf) (name : String) : Bool :=
  (shelf.lookup name).any FactoryModule.isPackage

/-- Why the module cannot be imported whose name has the given parts, last part first: the outermost
name that is missing is the one to blame. -/
def missing? (shelf : Shelf) : List String → Option String
  | [] => none
  | last :: outer =>
    let name := ".".intercalate (last :: outer).reverse
    if (shelf.lookup name).isSome then none
    else
      let plain := "No module named " ++ Text.quoted name
      match outer with
      | [] => some plain
      | _ =>
        let parent := ".".intercalate outer.reverse
        match shelf.missing? outer with
        | some reason => some reason
        | none =>
          if shelf.isPackage parent then some plain
          else some (plain ++ "; " ++ Text.quoted parent ++ " is not a package")

def importModule (shelf : Shelf) (name : String) : Except Fault ModuleItems :=
  if name = "" then .error .emptyModuleName
  else if name.startsWith "." then .error (.relativeModuleName name)
  else
    match shelf.missing? (Text.split '.' name).reverse with
    | some reason => .error (.catalog (.cannotImport name reason))
    | none => .ok (((shelf.lookup name).map FactoryModule.items).getD [])

/-- The name of the item when a path gives none. -/
def defaultItem : String := "FACTORIES"

/-- A path in two parts: the module, and the item after the first colon. -/
def splitPath (path : String) : String × String :=
  let cs := path.toList
  let name := cs.takeWhile (· != ':')
  let item := String.ofList (cs.drop (name.length + 1))
  (String.ofList name, if item = "" then defaultItem else item)

/-- The factories among some items, or the first item that is none. -/
def sources (path : String) : List Provided → Except Fault (List (Source Request))
  | [] => .ok []
  | .source s :: rest => do
    let more ← sources path rest
    .ok (s :: more)
  | p :: _ => .error (.catalog (.notAFactory path p.typeName))

def load (shelf : Shelf) (path : String) : Reading (List (Source Request)) := do
  let (name, item) := splitPath path
  let items ← Reading.ofExcept (shelf.importModule name)
  match items.lookup item with
  | none => Reading.fail (.catalog (.noItem name item))
  | some p => do
    let p ← p.built
    let parts ← p.parts.mapM Provided.built
    Reading.ofExcept (sources path parts)

/-! ## Checks -/

/-- What a check found out about one factory, or about one path that gave none. -/
structure Check where
  path : String
  factoryId : Option String
  violations : List Violation
  problem : Option String
  deriving DecidableEq

def Check.ok (c : Check) : Bool :=
  c.violations.isEmpty && c.problem.isNone

/-- What a fault means for a check: broken rules, or a problem in words. A fault that is neither stops
the checks. -/
def checkOfFault (path : String) (factoryId : Option String) (fault : Fault) :
    Except Fault Check :=
  match fault with
  | .invalidGraph graphId violations =>
    .ok ⟨path, some (factoryId.getD graphId), violations, none⟩
  | .catalog f =>
    if factoryId.isNone then .ok ⟨path, none, [], some f.message⟩ else .error fault
  | fault =>
    if fault.isValueFault then .ok ⟨path, factoryId, [], some fault.message⟩ else .error fault

def checkSource (path : String) (s : Source Request) : Except Fault Check :=
  match s.checked with
  | .ok _ => .ok ⟨path, some s.id, [], none⟩
  | .error fault => checkOfFault path (some s.id) fault

def checkPath (shelf : Shelf) (path : String) : Reading (List Check) := fun sites =>
  match shelf.load path sites with
  | .ok (found, sites) => (found.mapM (checkSource path)).map (·, sites)
  | .error fault => (checkOfFault path none fault).map fun c => ([c], sites)

def check (shelf : Shelf) (paths : List String) : Reading (List Check) := do
  let found ← paths.mapM shelf.checkPath
  pure found.flatten

end Shelf

/-! ## Registry -/

/-- The graphs that are known, by factory id. -/
abbrev Registry := List (String × Graph Code)

namespace Registry

/-- Adds a factory under its id, which must be new. -/
def register (r : Registry) (s : Source Request) : Except Fault Registry := do
  let g ← s.checked
  if (r.lookup g.id).isSome then .error (.catalog (.duplicate g.id))
  else .ok (r ++ [(g.id, g)])

def registerAll (r : Registry) : List (Source Request) → Except Fault Registry
  | [] => .ok r
  | s :: rest => do
    let r ← r.register s
    r.registerAll rest

/-- Adds the factories of several paths, each path loaded when its turn comes. -/
def ofPaths (shelf : Shelf) (r : Registry) : List String → Reading Registry
  | [] => pure r
  | path :: rest => do
    let found ← shelf.load path
    let r ← Reading.ofExcept (r.registerAll found)
    ofPaths shelf r rest

def get (r : Registry) (id : String) : Except Fault (Graph Code) :=
  match r.lookup id with
  | some g => .ok g
  | none => .error (.catalog (.unknown id))

def ids (r : Registry) : List String :=
  (names r).mergeSort fun a b => decide (a ≤ b)

end Registry

end Tickwork
