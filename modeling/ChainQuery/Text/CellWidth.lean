import ChainQuery.Text.CellWidthTable
import ChainQuery.Text.Ranges

/-!
# Text on a console

A console shows text in cells: most characters take one, some take two and some take none. A tab
goes on to the next cell whose number is a multiple of eight.
-/

namespace ChainQuery.Text

/-- How many cells a character takes. -/
def cellWidth (c : Char) : Nat :=
  if inRanges zeroWidthRanges c.toNat then 0 else if inRanges wideRanges c.toNat then 2 else 1

/-- The distance between two tab stops. -/
def tabStop : Nat := 8

/-- A text with spaces for its tabs, where `cell` cells of the line are taken. -/
def expandTabsFrom (cell : Nat) : List Char → List Char
  | [] => []
  | c :: rest =>
    if c = '\t' then
      let width := tabStop - cell % tabStop
      List.replicate width ' ' ++ expandTabsFrom (cell + width) rest
    else if c = '\n' then c :: expandTabsFrom 0 rest
    else c :: expandTabsFrom (cell + cellWidth c) rest

/-- A text as a console shows it, with spaces for its tabs. -/
def expandTabs (text : List Char) : List Char :=
  expandTabsFrom 0 text

end ChainQuery.Text
