import Tickwork.Text.Blank

/-!
# Lines

The lines of a text, as a reader counts them. Main statement: every character that ends a line is a
blank one, so that a line without the blanks at its ends has no break there.
-/

set_option autoImplicit false

namespace Tickwork.Text

/-- The characters that end a line: feeds, returns and the separators of lines, paragraphs and parts of
a file. -/
def isBreak (c : Char) : Bool :=
  let n := c.toNat
  (0x0a ≤ n && n ≤ 0x0d) || (0x1c ≤ n && n ≤ 0x1e) || n == 0x85 || n == 0x2028 || n == 0x2029

theorem isBlank_of_isBreak (c : Char) (h : isBreak c = true) : isBlank c = true := by
  simp only [isBreak, isBlank, Bool.or_eq_true, Bool.and_eq_true, decide_eq_true_eq,
    beq_iff_eq] at h ⊢
  omega

/-- The lines of some characters, after those of the line so far, the last of them first. A return and
a feed after it are one break, and a break at the end opens no line. -/
def linesFrom (line : List Char) : List Char → List (List Char)
  | [] => if line.isEmpty then [] else [line.reverse]
  | '\r' :: '\n' :: rest => line.reverse :: linesFrom [] rest
  | c :: rest =>
    if isBreak c then line.reverse :: linesFrom [] rest else linesFrom (c :: line) rest

def lines (s : String) : List String :=
  (linesFrom [] s.toList).map String.ofList

end Tickwork.Text
