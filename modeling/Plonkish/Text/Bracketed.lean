/-!
# Numbers in brackets

A list of numbers is written in brackets and spread over lines of limited width.
The numbers are aligned on the right, and of a very long list only the first and
the last few are shown.
-/

namespace Plonkish

/-- The greatest width of a line. -/
def lineWidth : Nat := 75

/-- The width before the first number of a line.  In the first line it is taken by
the text up to the bracket, in the others by blanks. -/
def lineIndent : Nat := 4

/-- Spreads words over lines.  A word goes to the current line if that is empty
or keeps its width with the word and a closing mark; a comma and a blank follow
every word. -/
def spreadWords (used : Nat) (line : List String) : List String → List (List String)
  | [] => [line]
  | word :: words =>
    if line.isEmpty || used + word.length < lineWidth - 1 then
      spreadWords (used + word.length + 2) (line ++ [word]) words
    else line :: spreadWords (lineIndent + word.length + 2) [word] words

/-- The word with blanks before it up to the given width. -/
def alignRight (width : Nat) (word : String) : String :=
  String.ofList (List.replicate (width - word.length) ' ') ++ word

def alignedNumbers (numbers : List Nat) : List String :=
  let words := numbers.map toString
  let width := (words.map String.length).foldl max 0
  words.map (alignRight width)

/-- The greatest length of a list that is written in full. -/
def fullLength : Nat := 1000

/-- How many numbers at either end of a longer list are written. -/
def edgeLength : Nat := 3

def numberWords (numbers : List Nat) : List String :=
  if numbers.length ≤ fullLength then alignedNumbers numbers
  else
    let first := numbers.take edgeLength
    let last := numbers.drop (numbers.length - edgeLength)
    let words := alignedNumbers (first ++ last)
    words.take edgeLength ++ "..." :: words.drop edgeLength

def bracketed (numbers : List Nat) : String :=
  let lines := spreadWords lineIndent [] (numberWords numbers)
  let lineBreak := ",\n" ++ alignRight lineIndent ""
  "[" ++ lineBreak.intercalate (lines.map ", ".intercalate) ++ "]"

end Plonkish
