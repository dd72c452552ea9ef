import ChainQuery.Text.Blank

/-!
# Files of environment variables

Reading a text of bindings `NAME=value`, one to a line. Values may be quoted, and may refer to
variables as `${NAME}` or `${NAME:-default}`. A line that is no binding is skipped.
-/

namespace ChainQuery.EnvFile

/-- A name and the value it is bound to; a name may stand without a value. -/
abbrev Binding := String × Option String

/-- Whether a character is blank and ends no line. -/
def isInlineBlank (c : Char) : Bool :=
  Text.isBlank c && c != '\n'

/-- The text behind blanks on the same line. -/
def skipInline (text : List Char) : List Char :=
  text.dropWhile isInlineBlank

/-- The text behind the end of the current line. -/
def skipLine (text : List Char) : List Char :=
  (text.dropWhile (· != '\n')).drop 1

/-- The text up to a closing quote mark, and the text behind it. A mark behind a backslash closes
only if no other one does. -/
def takeQuoted (mark : Char) : List Char → Option (List Char × List Char)
  | [] => none
  | '\\' :: c :: rest =>
    if c = mark then
      match takeQuoted mark rest with
      | some (inside, after) => some ('\\' :: c :: inside, after)
      | none => some (['\\'], rest)
    else (takeQuoted mark (c :: rest)).map fun (inside, after) => ('\\' :: inside, after)
  | c :: rest =>
    if c = mark then some ([], rest)
    else (takeQuoted mark rest).map fun (inside, after) => (c :: inside, after)

/-- The character that a backslash and a letter stand for between quote marks. -/
def escaped? (mark c : Char) : Option Char :=
  if c = '\\' ∨ c = '\'' then some c
  else if mark = '\'' then none
  else match c with
    | '"' => some '"'
    | 'a' => some '\x07'
    | 'b' => some '\x08'
    | 'f' => some '\x0c'
    | 'n' => some '\n'
    | 'r' => some '\r'
    | 't' => some '\t'
    | 'v' => some '\x0b'
    | _ => none

/-- A quoted value with its escapes replaced. -/
def unescape (mark : Char) : List Char → List Char
  | '\\' :: c :: rest =>
    match escaped? mark c with
    | some plain => plain :: unescape mark rest
    | none => '\\' :: unescape mark (c :: rest)
  | c :: rest => c :: unescape mark rest
  | [] => []

/-- A value without quote marks: up to a comment that stands behind a blank. -/
def withoutComment : List Char → List Char
  | [] => []
  | c :: rest =>
    if Text.isBlank c ∧ (Text.trimStart rest).head? = some '#' then []
    else c :: withoutComment rest

/-- A key at the front of a text, and the text behind it; a comment stands for no key. -/
def takeKey (text : List Char) : Option (Option (List Char) × List Char) :=
  match text with
  | '#' :: _ => some (none, text)
  | '\'' :: rest =>
    let key := rest.takeWhile (· != '\'')
    match rest.dropWhile (· != '\'') with
    | _ :: after => if key.isEmpty then none else some (some key, after)
    | [] => none
  | _ =>
    let isKeyChar (c : Char) : Bool := c != '=' && c != '#' && !Text.isBlank c
    let key := text.takeWhile isKeyChar
    if key.isEmpty then none else some (some key, text.dropWhile isKeyChar)

/-- A value at the front of a text, and the text behind it. -/
def takeValue (text : List Char) : Option (List Char × List Char) :=
  match text with
  | [] | '\n' :: _ => some ([], text)
  | c :: rest =>
    if c = '\'' ∨ c = '"' then
      (takeQuoted c rest).map fun (inside, after) => (unescape c inside, after)
    else
      some (Text.trimEnd (withoutComment (text.takeWhile (· != '\n'))),
        text.dropWhile (· != '\n'))

/-- The text behind a comment, if there is one, and the end of the line. -/
def takeLineEnd (text : List Char) : Option (List Char) :=
  let behind := match skipInline text with
    | '#' :: comment => comment.dropWhile (· != '\n')
    | other => other
  match behind with
  | [] => some []
  | '\n' :: rest => some rest
  | _ => none

/-- The text behind the word `export` and blanks. -/
def skipExport (text : List Char) : List Char :=
  match "export".toList.isPrefixOf? text with
  | some behind => if (skipInline behind).length < behind.length then skipInline behind else text
  | none => text

/-- A binding at the front of a text and the text behind it. What is no binding is dropped up to the
end of the line on which reading stopped. -/
def takeBinding (text : List Char) : Option Binding × List Char :=
  match takeKey (skipExport (Text.trimStart text)) with
  | none => (none, skipLine (skipExport (Text.trimStart text)))
  | some (key?, afterKey) =>
    let (value?, behind) := match skipInline afterKey with
      | '=' :: rest => match takeValue (skipInline rest) with
        | some (value, after) => (some (some (String.ofList value)), after)
        | none => (none, skipInline rest)
      | other => (some none, other)
    match value?, takeLineEnd behind with
    | some value, some rest => (key?.map fun key => (String.ofList key, value), rest)
    | _, _ => (none, skipLine behind)

/-- All bindings of a text, in order. -/
def bindings (text : List Char) : List Binding :=
  if (Text.trimStart text).isEmpty then []
  else
    let (binding?, rest) := takeBinding text
    if rest.length < text.length then binding?.toList ++ bindings rest else binding?.toList
termination_by text.length

/-- The value of the last binding of a name. -/
def lookup? (known : List Binding) (name : String) : Option (Option String) :=
  (known.reverse.find? (·.1 == name)).map (·.2)

/-- A reference at the front of a text: the name, the default and the text behind it. -/
def reference? (text : List Char) : Option (List Char × List Char × List Char) :=
  match text with
  | '$' :: '{' :: rest =>
    let name := rest.takeWhile fun c => c != '}' && c != ':'
    match rest.dropWhile fun c => c != '}' && c != ':' with
    | '}' :: after => some (name, [], after)
    | ':' :: '-' :: more =>
      match more.dropWhile (· != '}') with
      | _ :: after => some (name, more.takeWhile (· != '}'), after)
      | [] => none
    | _ => none
  | _ => none

/-- A value with every reference replaced by what it refers to. The count of characters left to skip
stands for a reference that has been replaced. -/
def interpolate (known : List Binding) : (skip : Nat) → List Char → List Char
  | _, [] => []
  | skip + 1, _ :: rest => interpolate known skip rest
  | 0, c :: rest =>
    match reference? (c :: rest) with
    | none => c :: interpolate known 0 rest
    | some (name, default, after) =>
      let value := match lookup? known (String.ofList name) with
        | some (some value) => value.toList
        | some none => []
        | none => default
      value ++ interpolate known (rest.length - after.length) rest

/-- The bindings with their references replaced: each may refer to the environment and to those
before it, which come first. -/
def resolve (environment : List Binding) : List Binding → List Binding
  | [] => []
  | (name, value) :: rest =>
    let value := value.map fun value => String.ofList (interpolate environment 0 value.toList)
    (name, value) :: resolve (environment ++ [(name, value)]) rest

end ChainQuery.EnvFile
