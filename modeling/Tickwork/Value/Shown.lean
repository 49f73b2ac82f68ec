import Tickwork.Value.Basic
import Tickwork.Number.Numeral

/-!
# Values inside messages

`shown` is the text of a value as part of a sentence: a text stands for itself, everything else is
written out by `detailed`, where texts are quoted. A whole number that is too long has no text;
`isSpellable` says that there is none in a value.
-/

set_option autoImplicit false

namespace Tickwork

/-- Whether a key that is a whole number can be spelled. -/
def Key.isSpellable : Key → Bool
  | .int n => Numeral.isSpellable n
  | _ => true

namespace Value

mutual

/-- A value written out, texts quoted. -/
def detailed : Value → String
  | .null => "None"
  | .bool true => "True"
  | .bool false => "False"
  | .int n => toString n
  | .float x => x.text Binary64.messageSpelling
  | .str s => Text.quoted s
  | .list items => "[" ++ ", ".intercalate (detailedItems items) ++ "]"
  | .dict fields => "\x7b" ++ ", ".intercalate (detailedFields fields) ++ "\x7d"
  | .record .view fields => "mappingproxy(\x7b" ++ ", ".intercalate (detailedFields fields) ++ "\x7d)"
  | .record .page fields => "PageOutput(" ++ ", ".intercalate (detailedSlots fields) ++ ")"
  | .record .result fields => "HandlerResult(" ++ ", ".intercalate (detailedSlots fields) ++ ")"
  | .record .again _ => "<AwaitFeedback>"

def detailedItems : List Value → List String
  | [] => []
  | x :: rest => detailed x :: detailedItems rest

def detailedFields : Fields → List String
  | [] => []
  | (k, x) :: rest => (k.detailed ++ ": " ++ detailed x) :: detailedFields rest

def detailedSlots : Fields → List String
  | [] => []
  | (k, x) :: rest => (k.name ++ "=" ++ detailed x) :: detailedSlots rest

end

/-- A value as part of a sentence. -/
def shown : Value → String
  | .str s => s
  | v => v.detailed

mutual

/-- Whether every whole number in a value can be spelled. -/
def isSpellable : Value → Bool
  | .int n => Numeral.isSpellable n
  | .list items => areSpellable items
  | .dict fields => haveSpellable fields
  | .record _ fields => haveSpellable fields
  | _ => true

/-- Whether every whole number in a list of values can be spelled. -/
def areSpellable : List Value → Bool
  | [] => true
  | x :: rest => isSpellable x && areSpellable rest

/-- Whether every whole number in some entries can be spelled. -/
def haveSpellable : Fields → Bool
  | [] => true
  | (k, x) :: rest => k.isSpellable && isSpellable x && haveSpellable rest

end

end Value

def shownOption (s : Option String) : String :=
  s.getD "None"

end Tickwork
