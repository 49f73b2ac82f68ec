/-!
# Blank characters

The characters that count as blank wherever a text is trimmed or tested for content, and the two
operations built on them: `strip` drops blanks at both ends, `isBlankText` says that nothing else is
there.
-/

set_option autoImplicit false

namespace Tickwork.Text

/-- Spaces, line and paragraph separators, and the control characters that separate. Zero-width
characters are not blank. -/
def isBlank (c : Char) : Bool :=
  let n := c.toNat
  (0x09 ≤ n && n ≤ 0x0d) || (0x1c ≤ n && n ≤ 0x20) || n == 0x85 || n == 0xa0 || n == 0x1680 ||
    (0x2000 ≤ n && n ≤ 0x200a) || n == 0x2028 || n == 0x2029 || n == 0x202f || n == 0x205f ||
    n == 0x3000

/-- The blanks that may stand around a numeral: all of them but the control characters that separate
parts of a file. -/
def isMargin (c : Char) : Bool :=
  isBlank c && !(0x1c ≤ c.toNat && c.toNat ≤ 0x1f)

/-- A list of characters without those of a kind at its two ends. -/
def trimChars (kind : Char → Bool) (cs : List Char) : List Char :=
  ((cs.dropWhile kind).reverse.dropWhile kind).reverse

def strip (s : String) : String :=
  String.ofList (trimChars isBlank s.toList)

def isBlankText (s : String) : Bool :=
  s.toList.all isBlank

/-- The text with its ASCII capitals made small. The words that the program compares with are ASCII,
and no other capital becomes an ASCII letter of one of them. -/
def lowered (s : String) : String :=
  String.ofList (s.toList.map Char.toLower)

/-- Splits a text at every occurrence of a character; there is always at least one part. -/
def splitChars (sep : Char) : List Char → List (List Char)
  | [] => [[]]
  | c :: rest =>
    match splitChars sep rest with
    | [] => [[c]]
    | part :: parts => if c = sep then [] :: part :: parts else (c :: part) :: parts

/-- Splits a text at every occurrence of a character. -/
def split (sep : Char) (s : String) : List String :=
  (splitChars sep s.toList).map String.ofList

end Tickwork.Text
