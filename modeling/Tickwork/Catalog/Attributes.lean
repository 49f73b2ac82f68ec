import Tickwork.Catalog.Basic

/-!
# What every module holds

Beside what its author puts there, a module holds things that tell of the module itself. None of them
is a factory: a few are plain values, the others are asked like builders, and answer with some value or
refuse because something is missing that they have to be told.
-/

set_option autoImplicit false

namespace Tickwork

namespace Provided

/-- Something that answers with a value of a type when it is asked. -/
def answering (type : String) : Provided :=
  .builder fun sites => .ok (.other type, sites)

/-- Something that refuses when it is asked. -/
def refusing (words : String) : Provided :=
  .builder fun _ => .error (.raised .type words)

def listed : List String → String
  | [] => ""
  | [a] => s!"'{a}'"
  | [a, b] => s!"'{a}' and '{b}'"
  | names =>
    let shown := names.map fun name => s!"'{name}'"
    ", ".intercalate shown.dropLast ++ ", and " ++ shown.getLastD ""

/-- Something that refuses when it is asked without having been told what it needs. -/
def needing (name : String) (needs : List String) : Provided :=
  let noun := if needs.length = 1 then "argument" else "arguments"
  refusing (s!"{name}() missing {needs.length} required positional {noun}: " ++ listed needs)

end Provided

namespace Attributes

open Provided

/-- What is refused to a comparison that lacks its other side. -/
def oneExpected : String := "expected 1 argument, got 0"

/-- What is refused to a module that is made without a name. -/
def nameExpected : String := "module() missing required argument 'name' (pos 1)"

/-- What all objects hold. -/
def ofObject : ModuleItems :=
  [("__dict__", .other "dict"), ("__annotations__", .other "dict"),
    ("__class__", refusing nameExpected), ("__init__", refusing nameExpected),
    ("__new__", refusing "module.__new__(): not enough arguments"),
    ("__dir__", answering "str"), ("__repr__", answering "str"), ("__str__", answering "str"),
    ("__hash__", answering "int"), ("__sizeof__", answering "int"),
    ("__getstate__", answering "dict"), ("__init_subclass__", answering "NoneType"),
    ("__subclasshook__", answering "NotImplementedType"),
    ("__reduce__", refusing "cannot pickle 'module' object"),
    ("__reduce_ex__", refusing "__reduce_ex__() takes exactly one argument (0 given)"),
    ("__format__", refusing "__format__() takes exactly one argument (0 given)"),
    ("__eq__", refusing oneExpected), ("__ne__", refusing oneExpected),
    ("__lt__", refusing oneExpected), ("__le__", refusing oneExpected),
    ("__gt__", refusing oneExpected), ("__ge__", refusing oneExpected),
    ("__getattribute__", refusing oneExpected), ("__delattr__", refusing oneExpected),
    ("__setattr__", refusing " expected 2 arguments, got 0")]

/-- What a module holds that was made on the spot. -/
def ofModule : ModuleItems :=
  [("__name__", .other "str"), ("__doc__", .other "NoneType"), ("__package__", .other "NoneType"),
    ("__loader__", .other "NoneType"), ("__spec__", .other "NoneType")] ++ ofObject

/-- What a module holds that was read from a file. -/
def ofFile : ModuleItems :=
  [("__name__", .other "str"), ("__doc__", .other "str"), ("__package__", .other "str"),
    ("__loader__", .other "SourceFileLoader"), ("__spec__", .other "ModuleSpec"),
    ("__file__", .other "str"), ("__cached__", .other "str"), ("__builtins__", .other "dict")] ++
    ofObject

/-- What a package holds. -/
def ofPackage : ModuleItems :=
  ("__path__", .other "str") :: ofFile

end Attributes

end Tickwork
