import Tickwork.Value.Fields
import Tickwork.Number.Numeral
import Tickwork.Text.Digit
import Tickwork.Text.Quoted

/-!
# Documents from text

Reads JSON. A failure names what was expected and the character where it was missed; the place is
told as line, column and offset. Every reader returns what it did not read, and the characters that
are left tell how far it came, so positions need no counter of their own.
-/

set_option autoImplicit false

namespace Tickwork

/-- What is wrong with a text that is no document. -/
inductive DocumentProblem where
  | value
  | name
  | colon
  | comma
  | unterminated
  | escape
  | unicodeEscape
  | controlCharacter
  | extraData
  | byteOrderMark
  /-- A whole number has too many digits. -/
  | tooLong (digits : Nat)
  deriving DecidableEq

def DocumentProblem.words : DocumentProblem → String
  | .value => "Expecting value"
  | .name => "Expecting property name enclosed in double quotes"
  | .colon => "Expecting ':' delimiter"
  | .comma => "Expecting ',' delimiter"
  | .unterminated => "Unterminated string starting at"
  | .escape => "Invalid \\escape"
  | .unicodeEscape => "Invalid \\uXXXX escape"
  | .controlCharacter => "Invalid control character at"
  | .extraData => "Extra data"
  | .byteOrderMark => "Unexpected UTF-8 BOM (decode using utf-8-sig)"
  | .tooLong digits => Numeral.tooLongWords digits

/-- Whether the text breaks the grammar of documents. A number that is too long does not. -/
def DocumentProblem.isGrammatical : DocumentProblem → Bool
  | .tooLong _ => false
  | _ => true

/-- A problem and the number of characters that were left where it was met. -/
structure DocumentFault where
  problem : DocumentProblem
  left : Nat
  deriving DecidableEq

namespace DocumentFault

/-- Line and column, both from one, of the character after `before`. -/
def place (before : List Char) : Nat × Nat :=
  let line := before.count '\n' + 1
  let column := (before.reverse.takeWhile (· != '\n')).length + 1
  (line, column)

/-- The problem, and where the text breaks the grammar its place. -/
def message (text : String) (fault : DocumentFault) : String :=
  let offset := text.length - fault.left
  let (line, column) := place (text.toList.take offset)
  if fault.problem.isGrammatical then
    s!"{fault.problem.words}: line {line} column {column} (char {offset})"
  else fault.problem.words

end DocumentFault

namespace Value

/-- The blanks that may stand between the parts of a document. -/
def isGap (c : Char) : Bool :=
  c == ' ' || c == '\t' || c == '\n' || c == '\r'

def skipGap (cs : List Char) : List Char :=
  cs.dropWhile isGap

/-- A failure at the first of the characters left. -/
def failAt {α : Type} (problem : DocumentProblem) (left : List Char) : Except DocumentFault α :=
  .error ⟨problem, left.length⟩

/-- The character that a one-letter escape stands for. -/
def shortEscape? (c : Char) : Option Char :=
  if c = Text.doubleQuote ∨ c = Text.backslash ∨ c = '/' then some c
  else if c = 'b' then some (Char.ofNat 0x08)
  else if c = 'f' then some (Char.ofNat 0x0c)
  else if c = 'n' then some '\n'
  else if c = 'r' then some '\r'
  else if c = 't' then some '\t'
  else none

def fourHex? : List Char → Option (Nat × List Char)
  | a :: b :: c :: d :: rest => do
    let a ← Text.hexDigit? a
    let b ← Text.hexDigit? b
    let c ← Text.hexDigit? c
    let d ← Text.hexDigit? d
    some (((a * 16 + b) * 16 + c) * 16 + d, rest)
  | _ => none

/-- The low half of a surrogate pair at the front, written as an escape that is not the last thing of
the text. -/
def lowHalf? (cs : List Char) : Option (Nat × List Char) :=
  match cs with
  | slash :: 'u' :: rest =>
    if slash = Text.backslash then
      match fourHex? rest with
      | some (unit, left) =>
        if 0xdc00 ≤ unit ∧ unit < 0xe000 ∧ left ≠ [] then some (unit, left) else none
      | none => none
    else none
  | _ => none

/-- Whether an escape opens at the front whose four digits are not all hexadecimal. -/
def brokenHalf (cs : List Char) : Bool :=
  match cs with
  | slash :: 'u' :: rest =>
    slash == Text.backslash && decide (4 < rest.length) && (fourHex? rest).isNone
  | _ => false

/-- The character of a numeric escape, after its letter. A high half of a surrogate pair joins the low
half that follows it; a half on its own is replaced. -/
def unicodeEscape (cs : List Char) : Except DocumentFault (Char × List Char) :=
  if cs.length ≤ 4 then .error ⟨.unicodeEscape, cs.length + 1⟩
  else
    match fourHex? cs with
    | none => .error ⟨.unicodeEscape, cs.length + 1⟩
    | some (unit, rest) =>
      if 0xd800 ≤ unit ∧ unit < 0xdc00 then
        if brokenHalf rest then .error ⟨.unicodeEscape, rest.length - 1⟩
        else
          match lowHalf? rest with
          | some (low, left) =>
            .ok (Char.ofNat (0x10000 + (unit - 0xd800) * 0x400 + (low - 0xdc00)), left)
          | none => .ok (Char.ofNat 0xfffd, rest)
      else if 0xdc00 ≤ unit ∧ unit < 0xe000 then .ok (Char.ofNat 0xfffd, rest)
      else .ok (Char.ofNat unit, rest)

/-- The rest of a text after its opening quote; `opening` counts the characters from that quote on. -/
def readText (opening : Nat) :
    Nat → List Char → List Char → Except DocumentFault (String × List Char)
  | 0, _, _ => .error ⟨.unterminated, opening⟩
  | _ + 1, _, [] => .error ⟨.unterminated, opening⟩
  | fuel + 1, done, c :: rest =>
    if c = Text.doubleQuote then .ok (String.ofList done.reverse, rest)
    else if c = Text.backslash then
      match rest with
      | [] => .error ⟨.unterminated, opening⟩
      | 'u' :: rest => do
        let (c, left) ← unicodeEscape rest
        readText opening fuel (c :: done) left
      | e :: left =>
        match shortEscape? e with
        | some c => readText opening fuel (c :: done) left
        | none => failAt .escape (c :: rest)
    else if c.toNat < 0x20 then failAt .controlCharacter (c :: rest)
    else readText opening fuel (c :: done) rest

def readQuoted (cs : List Char) : Except DocumentFault (String × List Char) :=
  readText cs.length cs.length [] (cs.drop 1)

def digitsAt (cs : List Char) : List Nat × List Char :=
  match cs with
  | [] => ([], [])
  | c :: rest =>
    match Text.asciiDigit? c with
    | some d =>
      let (ds, left) := digitsAt rest
      (d :: ds, left)
    | none => ([], c :: rest)

/-- The fraction of a number: a point with at least one digit after it. -/
def fractionAt (cs : List Char) : List Nat × List Char :=
  match cs with
  | '.' :: rest =>
    match digitsAt rest with
    | ([], _) => ([], cs)
    | (ds, left) => (ds, left)
  | _ => ([], cs)

/-- The exponent of a number: a letter, a sign and at least one digit. -/
def exponentAt (cs : List Char) : Option Int × List Char :=
  match cs with
  | letter :: rest =>
    if letter = 'e' ∨ letter = 'E' then
      let (negative, digits) := match rest with
        | '-' :: r => (true, r)
        | '+' :: r => (false, r)
        | r => (false, r)
      match digitsAt digits with
      | ([], _) => (none, cs)
      | (ds, left) =>
        (some (Numeral.signed negative ds), left)
    else (none, cs)
  | [] => (none, cs)

/-- A number after its sign: no zero in front of other digits, and whole unless it has a fraction or an
exponent. -/
def readNumber (negative : Bool) (cs : List Char) :
    Except DocumentProblem (Value × List Char) :=
  let (whole, rest) := match digitsAt cs with
    | (0 :: _, _) => ([0], cs.drop 1)
    | found => found
  if whole.isEmpty then .error .value
  else
    let (fraction, afterFraction) := fractionAt rest
    let (exponent, left) := exponentAt afterFraction
    if fraction.isEmpty ∧ exponent.isNone then
      if Numeral.digitLimit < whole.length then .error (.tooLong whole.length)
      else .ok (.int (Numeral.signed negative whole), left)
    else
      let digits := Text.ofDigits (whole ++ fraction)
      .ok (.float (Binary64.ofDecimal negative digits (exponent.getD 0 - fraction.length)), left)

/-- The words that stand for themselves. -/
def literals : List (String × Value) :=
  [("null", .null), ("true", .bool true), ("false", .bool false), ("NaN", .float Binary64.nan),
    ("Infinity", .float (Binary64.infinity false)), ("-Infinity", .float (Binary64.infinity true))]

/-- What follows a word at the front. -/
def afterWord? : List Char → List Char → Option (List Char)
  | [], cs => some cs
  | _ :: _, [] => none
  | w :: word, c :: cs => if w = c then afterWord? word cs else none

def readAtom (cs : List Char) : Except DocumentFault (Value × List Char) :=
  match literals.findSome? fun (word, v) => (afterWord? word.toList cs).map (v, ·) with
  | some found => .ok found
  | none =>
    let number := match cs with
      | '-' :: rest => readNumber true rest
      | _ => readNumber false cs
    match number with
    | .ok found => .ok found
    | .error problem => failAt problem cs

mutual

def readValue : Nat → List Char → Except DocumentFault (Value × List Char)
  | 0, cs => failAt .value cs
  | _ + 1, [] => failAt .value []
  | fuel + 1, c :: rest =>
    if c = Text.doubleQuote then do
      let (s, left) ← readQuoted (c :: rest)
      .ok (.str s, left)
    else if c = '[' then
      match skipGap rest with
      | ']' :: left => .ok (.list [], left)
      | cs => do
        let (items, left) ← readItems fuel cs
        .ok (.list items, left)
    else if c = '\x7b' then
      match skipGap rest with
      | '\x7d' :: left => .ok (.dict [], left)
      | cs => do
        let (pairs, left) ← readPairs fuel cs
        .ok (.dict (Fields.ofPairs (Fields.ofNamed pairs)), left)
    else readAtom (c :: rest)

/-- The items of a list, from the first one to the closing bracket. -/
def readItems : Nat → List Char → Except DocumentFault (List Value × List Char)
  | 0, cs => failAt .value cs
  | fuel + 1, cs => do
    let (item, left) ← readValue fuel cs
    match skipGap left with
    | ']' :: left => .ok ([item], left)
    | ',' :: left => do
      let (items, left) ← readItems fuel (skipGap left)
      .ok (item :: items, left)
    | left => failAt .comma left

/-- The entries of a mapping, from the first name to the closing brace. -/
def readPairs : Nat → List Char → Except DocumentFault (List (String × Value) × List Char)
  | 0, cs => failAt .name cs
  | fuel + 1, cs =>
    if cs.head? = some Text.doubleQuote then do
      let (name, left) ← readQuoted cs
      match skipGap left with
      | ':' :: left => do
        let (value, left) ← readValue fuel (skipGap left)
        match skipGap left with
        | '\x7d' :: left => .ok ([(name, value)], left)
        | ',' :: left => do
          let (pairs, left) ← readPairs fuel (skipGap left)
          .ok ((name, value) :: pairs, left)
        | left => failAt .comma left
      | left => failAt .colon left
    else failAt .name cs

end

/-- Reads a whole text as one value. Each level of nesting and each item takes at least one character,
so twice the length bounds the recursion. -/
def read (text : String) : Except DocumentFault Value :=
  let cs := text.toList
  if cs.head? = some (Char.ofNat 0xfeff) then .error ⟨.byteOrderMark, cs.length⟩
  else do
    let (v, left) ← readValue (2 * cs.length + 2) (skipGap cs)
    match skipGap left with
    | [] => .ok v
    | left => failAt .extraData left

end Value

end Tickwork
