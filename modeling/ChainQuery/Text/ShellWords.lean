import ChainQuery.Text.Blank

/-!
# Words of a command line

Splitting a command line into words as a shell does: blanks separate words, single quote marks keep
everything as it is, and in double quote marks a backslash escapes only itself and the mark.
-/

namespace ChainQuery.Text

/-- Whether a character separates words of a command line. -/
def isWordGap (c : Char) : Bool :=
  c == ' ' || c == '\t' || c == '\r' || c == '\n'

/-- The state between two characters of a command line. -/
inductive ShellState where
  /-- Between words. -/
  | gap
  /-- Inside a word. -/
  | plain
  /-- Inside single quote marks. -/
  | single
  /-- Inside double quote marks. -/
  | double
  /-- Behind a backslash, with the state to go back to. -/
  | escape (quoted : Bool)
deriving DecidableEq, Repr

/-- The words of the rest of a command line; `word` holds the current word in reverse. -/
def shellWordsFrom (state : ShellState) (word : List Char) : List Char → Option (List (List Char))
  | [] =>
    match state with
    | .gap => some []
    | .plain => some [word.reverse]
    | _ => none
  | c :: rest =>
    match state with
    | .gap =>
      if isWordGap c then shellWordsFrom .gap [] rest
      else if c = '\\' then shellWordsFrom (.escape false) [] rest
      else if c = '\'' then shellWordsFrom .single [] rest
      else if c = '"' then shellWordsFrom .double [] rest
      else shellWordsFrom .plain [c] rest
    | .plain =>
      if isWordGap c then (shellWordsFrom .gap [] rest).map (word.reverse :: ·)
      else if c = '\\' then shellWordsFrom (.escape false) word rest
      else if c = '\'' then shellWordsFrom .single word rest
      else if c = '"' then shellWordsFrom .double word rest
      else shellWordsFrom .plain (c :: word) rest
    | .single =>
      if c = '\'' then shellWordsFrom .plain word rest
      else shellWordsFrom .single (c :: word) rest
    | .double =>
      if c = '"' then shellWordsFrom .plain word rest
      else if c = '\\' then shellWordsFrom (.escape true) word rest
      else shellWordsFrom .double (c :: word) rest
    | .escape false => shellWordsFrom .plain (c :: word) rest
    | .escape true =>
      if c = '"' ∨ c = '\\' then shellWordsFrom .double (c :: word) rest
      else shellWordsFrom .double (c :: '\\' :: word) rest

/-- The words of a command line; `none` if a quotation or an escape does not end. -/
def shellWords (text : List Char) : Option (List (List Char)) :=
  shellWordsFrom .gap [] text

end ChainQuery.Text
