import ChainQuery.Text.Digit
import ChainQuery.Text.UnprintableTable

/-!
# Quotations of text inside messages

A message quotes a text between quote marks so that every character of it can be seen: characters
without a printed form are escaped by number.
-/

namespace ChainQuery.Text

/-- Whether a character is shown as it is inside a quotation. -/
def isPrintable (c : Char) : Bool :=
  let n := c.toNat
  if n < 0x80 then 0x20 ≤ n && n < 0x7F else !inRanges unprintableRanges n

/-- The escape of a character by its number, with the fewest of two, four or eight digits. -/
def escapeByNumber (n : Nat) : List Char :=
  if n < 0x100 then '\\' :: 'x' :: hexPadded 2 n
  else if n < 0x10000 then '\\' :: 'u' :: hexPadded 4 n
  else '\\' :: 'U' :: hexPadded 8 n

/-- One character inside a quotation with the given quote mark. -/
def quoteChar (mark c : Char) : List Char :=
  if c = mark ∨ c = '\\' then ['\\', c]
  else if c = '\t' then ['\\', 't']
  else if c = '\n' then ['\\', 'n']
  else if c = '\r' then ['\\', 'r']
  else if isPrintable c then [c]
  else escapeByNumber c.toNat

/-- The quotation of a text: single quote marks, unless the text holds one and no double one. -/
def quote (text : List Char) : List Char :=
  let mark := if text.contains '\'' && !text.contains '"' then '"' else '\''
  mark :: text.flatMap (quoteChar mark) ++ [mark]

end ChainQuery.Text
