import Tickwork.Catalog.Bundled
import Tickwork.Shop.Read

/-!
# Modules as documents

A shelf of modules can be written as a document. Such modules are no packages. The modules of the
bundled factories are on every shelf.
-/

set_option autoImplicit false

namespace Tickwork

namespace Provided

def readCompiled (v : Value) : Reading Provided := do
  let s ← Reading.source Request.ofValue v
  let g ← Reading.ofExcept s.compiled
  pure (.source (.graph g))

/-- What a document provides. The depth of the document bounds how far builders and lists nest. -/
def read : Nat → Value → Reading Provided
  | 0, v => pure (.plain v)
  | depth + 1, v =>
    if v.has "factory" then do
      let s ← Reading.source Request.ofValue (v.get "factory")
      pure (.source s)
    else if v.has "compiled" then readCompiled (v.get "compiled")
    else if v.has "builder" then pure (.builder (read depth (v.get "builder")))
    else if v.has "list" then do
      let items ← (v.itemsAt "list").mapM (read depth)
      pure (.list items)
    else if v.has "tuple" then do
      let items ← (v.itemsAt "tuple").mapM (read depth)
      pure (.tuple items)
    else
      match v.get "raise" with
      | .list (.str kind :: .str text :: _) =>
        Reading.fail (.ofRaised (Expr.raisedOf kind text none))
      | _ => pure (.plain (v.get "raw"))

end Provided

namespace Shelf

def readItems : List (String × Value) → Reading ModuleItems
  | [] => pure []
  | (name, v) :: rest => do
    let p ← Provided.read (v.depth + 1) v
    let more ← readItems rest
    pure ((name, p) :: more)

def readModules : List (String × Value) → Reading Shelf
  | [] => pure []
  | (name, v) :: rest => do
    let items ← readItems (Fields.named (v.asMapping?.getD []))
    let more ← readModules rest
    pure ((name, ⟨items ++ Attributes.ofModule, false⟩) :: more)

/-- A shelf with the modules of a document and the bundled ones. -/
def read (v : Value) : Reading Shelf := do
  let modules ← readModules (Fields.named (v.asMapping?.getD []))
  pure (modules ++ bundled)

end Shelf

end Tickwork
