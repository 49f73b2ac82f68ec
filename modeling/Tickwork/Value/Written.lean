import Tickwork.Arrangement
import Tickwork.Number.Numeral
import Tickwork.Value.Fields

/-!
# Documents as text

A value is written as JSON on one line: a blank after every colon and comma. A text escapes quotes,
backslashes and control characters; `plain` leaves all other characters as they are, `ascii` escapes
what is not ASCII in UTF-16 units. What is written is a document: its mappings are in the order of
their keys, every key is a text, no number is too long and there are no records. `toDocument` makes a
value a document, or tells what keeps it from being one. Keys that differ may have one name, so that an
entry is written twice; `readBack` is what is read from such a document.
-/

set_option autoImplicit false

namespace Tickwork

/-- What keeps a value from being a document. -/
inductive Unwritable where
  /-- A value of a type that documents do not have. -/
  | foreign (type : String)
  /-- A key of a type that has no name. -/
  | foreignKey (type : String)
  /-- A whole number with too many digits. -/
  | tooLong
  /-- Keys of two types that have no order between them. -/
  | unordered (left right : String)
  deriving DecidableEq

/-- What keeps a value from being a document, in words. -/
def Unwritable.message : Unwritable → String
  | .foreign type => s!"Object of type {type} is not JSON serializable"
  | .foreignKey type => s!"keys must be str, int, float, bool or None, not {type}"
  | .tooLong => Numeral.unspellableWords
  | .unordered left right => s!"'<' not supported between instances of '{left}' and '{right}'"

namespace Value

/-! ## Documents -/

def documentKey (key : Key) : Except Unwritable Key :=
  match key with
  | .again => .error (.foreignKey key.typeName)
  | .int n => if Numeral.isSpellable n then .ok (.text key.name) else .error .tooLong
  | key => .ok (.text key.name)

/-- The entries by name, if every key is a text. -/
def texts? {α : Type} (entries : List (Key × α)) : Option (List (String × α)) :=
  entries.mapM fun entry => entry.1.asString?.map (·, entry.2)

/-- The entries in the order of their keys. Texts have an order of their own; among other keys the first
comparison between types that have no order decides what is wrong. -/
def inOrder {α : Type} (entries : List (Key × α)) : Except Unwritable (List (Key × α)) :=
  match texts? entries with
  | some named => .ok ((Sorted.ofPairs named).map fun entry => (.text entry.1, entry.2))
  | none =>
    arranged (fun a b => (a.1.below b.1).mapError fun (left, right) => .unordered left right)
      entries

/-- The entries of a mapping of documents in order. That its keys have no order is found first, then
what is wrong with one entry after the other. -/
def documentFields (entries : List (Key × Except Unwritable Value)) : Except Unwritable Fields := do
  let ordered ← inOrder entries
  ordered.mapM fun entry => do
    let key ← documentKey entry.1
    let value ← entry.2
    pure (key, value)

mutual

/-- A value as a document. -/
def toDocument : Value → Except Unwritable Value
  | .int n => if Numeral.isSpellable n then .ok (.int n) else .error .tooLong
  | .list items => do
    let documents ← toDocuments items
    pure (.list documents)
  | .dict fields => do
    let documents ← documentFields (entryDocuments fields)
    pure (.dict documents)
  | .record kind fields => .error (.foreign (Value.record kind fields).typeName)
  | v => .ok v

def toDocuments : List Value → Except Unwritable (List Value)
  | [] => .ok []
  | x :: rest => do
    let document ← toDocument x
    let documents ← toDocuments rest
    pure (document :: documents)

/-- The values of a mapping as documents, each by itself. -/
def entryDocuments : Fields → List (Key × Except Unwritable Value)
  | [] => []
  | (k, x) :: rest => (k, toDocument x) :: entryDocuments rest

end

mutual

/-- A document as it is read back: of two entries with one name the later counts. -/
def readBack : Value → Value
  | .list items => .list (itemsBack items)
  | .dict fields => .dict (Fields.ofPairs (entriesBack fields))
  | v => v

/-- The items of a list as they are read back. -/
def itemsBack : List Value → List Value
  | [] => []
  | x :: rest => readBack x :: itemsBack rest

/-- The entries of a mapping as they are read back, one after the other. -/
def entriesBack : Fields → Fields
  | [] => []
  | (k, x) :: rest => (k, readBack x) :: entriesBack rest

end

/-! ## Text -/

/-- Which characters of a text are escaped beyond quotes, backslashes and control characters. -/
inductive Escaping where
  | plain
  | ascii
  deriving DecidableEq

/-- One UTF-16 unit as an escape. -/
def unitEscape (unit : Nat) : List Char :=
  Text.backslash :: 'u' :: (Text.hex 4 unit).toList

/-- A character as one or two UTF-16 units, each escaped. -/
def unitEscapes (c : Char) : List Char :=
  let n := c.toNat
  if n < 0x10000 then unitEscape n
  else unitEscape (0xd800 + (n - 0x10000) / 0x400) ++ unitEscape (0xdc00 + (n - 0x10000) % 0x400)

def escapeWritten (mode : Escaping) (c : Char) : List Char :=
  if c = Text.doubleQuote ∨ c = Text.backslash then [Text.backslash, c]
  else if c = '\n' then [Text.backslash, 'n']
  else if c = '\r' then [Text.backslash, 'r']
  else if c = '\t' then [Text.backslash, 't']
  else if c.toNat = 0x08 then [Text.backslash, 'b']
  else if c.toNat = 0x0c then [Text.backslash, 'f']
  else if c.toNat < 0x20 then unitEscape c.toNat
  else if mode = .ascii ∧ 0x7f ≤ c.toNat then unitEscapes c
  else [c]

def writtenText (mode : Escaping) (s : String) : String :=
  String.ofList (Text.doubleQuote :: s.toList.flatMap (escapeWritten mode) ++ [Text.doubleQuote])

mutual

/-- The JSON of a value as it stands: keys by their names, and a record as the mapping of its parts. -/
def json (mode : Escaping) : Value → String
  | .null => "null"
  | .bool b => if b then "true" else "false"
  | .int n => toString n
  | .float x => x.text Binary64.documentSpelling
  | .str s => writtenText mode s
  | .list items => "[" ++ ", ".intercalate (jsonItems mode items) ++ "]"
  | .dict fields => "\x7b" ++ ", ".intercalate (jsonFields mode fields) ++ "\x7d"
  | .record _ fields => "\x7b" ++ ", ".intercalate (jsonFields mode fields) ++ "\x7d"

def jsonItems (mode : Escaping) : List Value → List String
  | [] => []
  | x :: rest => json mode x :: jsonItems mode rest

def jsonFields (mode : Escaping) : Fields → List String
  | [] => []
  | (k, x) :: rest => (writtenText mode k.name ++ ": " ++ json mode x) :: jsonFields mode rest

end

def written (mode : Escaping) (v : Value) : Except Unwritable String := do
  let document ← v.toDocument
  pure (document.json mode)

end Value

end Tickwork
