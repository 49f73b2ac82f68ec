import Tickwork.Text.Digit
import Tickwork.Text.Printable

/-!
# Quoted texts

How a text is shown inside a message: between single quotes, or between double quotes when it holds a
single quote and no double one, with what cannot be printed escaped by its code point.
-/

set_option autoImplicit false

namespace Tickwork.Text

def singleQuote : Char := Char.ofNat 0x27

def doubleQuote : Char := Char.ofNat 0x22

def backslash : Char := Char.ofNat 0x5c

/-- The quote that a shown text stands between. -/
def quoteFor (cs : List Char) : Char :=
  if cs.contains singleQuote && !cs.contains doubleQuote then doubleQuote else singleQuote

def escapeShown (quote c : Char) : List Char :=
  if c = quote ∨ c = backslash then [backslash, c]
  else if c = '\n' then [backslash, 'n']
  else if c = '\r' then [backslash, 'r']
  else if c = '\t' then [backslash, 't']
  else if isPrintable c then [c]
  else if c.toNat < 0x100 then backslash :: 'x' :: (hex 2 c.toNat).toList
  else if c.toNat < 0x10000 then backslash :: 'u' :: (hex 4 c.toNat).toList
  else backslash :: 'U' :: (hex 8 c.toNat).toList

/-- A text as a message shows it. -/
def quoted (s : String) : String :=
  let quote := quoteFor s.toList
  String.ofList (quote :: s.toList.flatMap (escapeShown quote) ++ [quote])

end Tickwork.Text
