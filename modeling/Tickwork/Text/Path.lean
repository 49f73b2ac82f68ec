import Tickwork.Text.Blank

/-!
# Paths

The plain form of a path: no empty parts and no parts that stand for the same place, and nothing but a
point when no part is left. Two slashes at the start are a root of their own; more are one.
-/

set_option autoImplicit false

namespace Tickwork.Text

/-- The root of a path from the slashes that it starts with. -/
def rootOf (cs : List Char) : String :=
  match (cs.takeWhile (· == '/')).length with
  | 0 => ""
  | 2 => "//"
  | _ => "/"

/-- The plain form of a path. -/
def plainPath (s : String) : String :=
  let parts := (split '/' s).filter fun part => part ≠ "" ∧ part ≠ "."
  match rootOf s.toList ++ "/".intercalate parts with
  | "" => "."
  | path => path

end Tickwork.Text
