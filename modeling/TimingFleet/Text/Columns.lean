import TimingFleet.Text.Blank
import TimingFleet.Text.Split

/-!
# Blocks of text side by side

`collate` sets text blocks next to each other, aligned at the top, with two blanks between them.  Each
block takes as many characters as its longest line has, and blanks at the end of a line are dropped.
-/

namespace TimingFleet.Text

namespace Columns

/-- The characters of the longest line. -/
def blockWidth (block : List (List Char)) : Nat := (block.map List.length).foldr max 0

/-- Line `i` of a block, filled with blanks up to the block's width. -/
def blockLine (block : List (List Char)) (i : Nat) : List Char :=
  let line := block.getD i []
  line ++ List.replicate (blockWidth block - line.length) ' '

/-- Line `i` of all blocks side by side. -/
def outputLine (blocks : List (List (List Char))) (i : Nat) : List Char :=
  trimEnd (join [' ', ' '] (blocks.map (blockLine · i)))

/-- The lines of the tallest block. -/
def height (blocks : List (List (List Char))) : Nat := (blocks.map List.length).foldr max 0

end Columns

/-- The blocks side by side, as lines. -/
def collateLines (blocks : List (List (List Char))) : List (List Char) :=
  (List.range (Columns.height blocks)).map (Columns.outputLine blocks)

/-- The blocks side by side. -/
def collate (blocks : List String) : String :=
  String.ofList (join ['\n'] (collateLines (blocks.map fun block => lines block.toList)))

end TimingFleet.Text
