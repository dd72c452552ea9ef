/-!
# Blank characters and cutting text

Which characters are blank, and the cuts of a text that depend on it: trimming and splitting into
words. `splitWhere_ne_nil` says that a split always has a first piece, and `not_isBlank_of_mem_word`
that no word holds a blank character.
-/

namespace ChainQuery.Text

/-- Blank characters are the Unicode white space and the four information separators. -/
def isBlank (c : Char) : Bool :=
  let n := c.toNat
  (9 ≤ n && n ≤ 13) || (28 ≤ n && n ≤ 32) || n == 0x85 || n == 0xA0 || n == 0x1680 ||
    (0x2000 ≤ n && n ≤ 0x200A) || n == 0x2028 || n == 0x2029 || n == 0x202F || n == 0x205F ||
    n == 0x3000

/-- The text without its leading blanks. -/
def trimStart (text : List Char) : List Char :=
  text.dropWhile isBlank

/-- The text without those characters at its end that satisfy `p`. -/
def dropEndWhile (p : Char → Bool) (text : List Char) : List Char :=
  (text.reverse.dropWhile p).reverse

/-- The text without its trailing blanks. -/
def trimEnd (text : List Char) : List Char :=
  dropEndWhile isBlank text

/-- The text without blanks at either end. -/
def trim (text : List Char) : List Char :=
  trimEnd (trimStart text)

/-- Whether a character may stand around a number: the Unicode white space. -/
def isNumberBlank (c : Char) : Bool :=
  isBlank c && !(0x1C ≤ c.toNat && c.toNat ≤ 0x1F)

/-- The text of a number without blanks at either end. -/
def trimNumber (text : List Char) : List Char :=
  dropEndWhile isNumberBlank (text.dropWhile isNumberBlank)

/-- Put a character in front of the first of several pieces. -/
def consFirst (c : Char) : List (List Char) → List (List Char)
  | [] => [[c]]
  | piece :: pieces => (c :: piece) :: pieces

/-- Cut a text at every character that satisfies `p`; the cutting characters are dropped. -/
def splitWhere (p : Char → Bool) : List Char → List (List Char)
  | [] => [[]]
  | c :: rest => if p c then [] :: splitWhere p rest else consFirst c (splitWhere p rest)

/-- The longest stretches of a text that hold no blank. -/
def words (text : List Char) : List (List Char) :=
  (splitWhere isBlank text).filter (fun piece => !piece.isEmpty)

/-- Cut a text at the first occurrence of `mark`; `none` if there is none. -/
def cutAt (mark : Char) : List Char → Option (List Char × List Char)
  | [] => none
  | c :: rest =>
    if c = mark then some ([], rest)
    else (cutAt mark rest).map fun (before, after) => (c :: before, after)

/-- Whether a piece occurs somewhere in a text. -/
def occursIn (piece : List Char) : List Char → Bool
  | [] => piece.isEmpty
  | c :: rest => piece.isPrefixOf (c :: rest) || occursIn piece rest

/-- Join pieces with a separator between neighbours. -/
def joinWith (separator : List Char) (pieces : List (List Char)) : List Char :=
  separator.intercalate pieces

theorem consFirst_ne_nil (c : Char) (pieces : List (List Char)) : consFirst c pieces ≠ [] := by
  cases pieces <;> simp [consFirst]

theorem splitWhere_ne_nil (p : Char → Bool) (text : List Char) : splitWhere p text ≠ [] := by
  cases text with
  | nil => simp [splitWhere]
  | cons c rest =>
    simp only [splitWhere]
    split
    · simp
    · exact consFirst_ne_nil _ _

/-- No piece of a split holds a cutting character. -/
theorem not_mem_of_mem_splitWhere {p : Char → Bool} {text piece : List Char} {c : Char}
    (mem : piece ∈ splitWhere p text) (inside : c ∈ piece) : p c = false := by
  induction text generalizing piece with
  | nil => simp_all [splitWhere]
  | cons d rest ih =>
    simp only [splitWhere] at mem
    split at mem
    · rcases List.mem_cons.1 mem with rfl | mem
      · simp at inside
      · exact ih mem inside
    · rename_i notCut
      cases pieces : splitWhere p rest with
      | nil => exact absurd pieces (splitWhere_ne_nil p rest)
      | cons first others =>
        rw [pieces, consFirst] at mem
        rcases List.mem_cons.1 mem with rfl | mem
        · rcases List.mem_cons.1 inside with rfl | inside
          · simpa using notCut
          · exact ih (pieces ▸ List.mem_cons_self) inside
        · exact ih (pieces ▸ List.mem_cons_of_mem _ mem) inside

theorem not_isBlank_of_mem_word {text word : List Char} {c : Char}
    (mem : word ∈ words text) (inside : c ∈ word) : isBlank c = false :=
  not_mem_of_mem_splitWhere (List.mem_filter.1 mem).1 inside

end ChainQuery.Text
