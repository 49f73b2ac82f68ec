/-!
# Likeness of words

How much two words are alike is told by the runs of characters that they share: the longest run first,
then, in the same way, the longest ones on both sides of it. The words that are like a given one are
its `likely` spellings.
-/

set_option autoImplicit false

namespace Tickwork

namespace Text

/-- The number of characters that two words share at the front. -/
def sharedFront : List Char → List Char → Nat
  | a :: as, b :: bs => if a = b then sharedFront as bs + 1 else 0
  | _, _ => 0

/-- A run of characters that two words share: how long it is and where it starts in each of them. -/
structure SharedRun where
  length : Nat
  inFirst : Nat
  inSecond : Nat
  deriving DecidableEq

/-- Every run that two words share, also those without a character, by where they start. -/
def sharedRuns (a b : List Char) : List SharedRun :=
  (List.range a.length).flatMap fun i =>
    (List.range b.length).map fun j => ⟨sharedFront (a.drop i) (b.drop j), i, j⟩

/-- The longest run that two words share; of several, the one that starts first. -/
def longestRun (a b : List Char) : SharedRun :=
  (sharedRuns a b).foldl (fun best run => if best.length < run.length then run else best) ⟨0, 0, 0⟩

/-- The number of characters in the runs that two words share, with a bound on how often words are
split. -/
def sharedWithin : Nat → List Char → List Char → Nat
  | 0, _, _ => 0
  | splits + 1, a, b =>
    let run := longestRun a b
    if run.length = 0 then 0
    else
      sharedWithin splits (a.take run.inFirst) (b.take run.inSecond) + run.length +
        sharedWithin splits (a.drop (run.inFirst + run.length))
          (b.drop (run.inSecond + run.length))

/-- The number of characters in the runs that two words share. Each split takes at least one character
away, so the length of a word bounds their number. -/
def sharedCount (a b : String) : Nat :=
  sharedWithin (a.length + 1) a.toList b.toList

/-- Whether two words are alike: at least three fifths of their characters are in shared runs. -/
def areAlike (a b : String) : Bool :=
  decide (3 * (a.length + b.length) ≤ 10 * sharedCount a b)

/-- Whether a word is closer to a given one than another word, or as close and later in the order of
texts. -/
def isCloser (word a b : String) : Bool :=
  let left := sharedCount a word * (b.length + word.length)
  let right := sharedCount b word * (a.length + word.length)
  decide (right < left) || (decide (left = right) && decide (b ≤ a))

/-- The words of a list that are like a given one, at most three, the closest first. -/
def likely (word : String) (words : List String) : List String :=
  ((words.filter fun w => areAlike w word).mergeSort (isCloser word)).take 3

end Text

end Tickwork
