import ChainQuery.Text.Blank

/-!
# Options of a command line

Taking the words of a command line apart into options with their values and positional words. An
option takes the words behind it as its values whatever they look like.
-/

namespace ChainQuery.CommandLine

/-- Why a command line is not understood. -/
inductive UsageFault where
  | noSuchCommand
  | noSuchOption
  /-- An option has too few values, or has a value and takes none. -/
  | badOptionUsage
  | missingParameter
  | badParameter
  /-- A command is missing or there are too many words. -/
  | wrongWords
deriving DecidableEq, Repr

/-- An option of a command; one without values is a flag. -/
structure OptionSpec where
  name : String
  /-- The long spelling, behind two dashes. -/
  long : String
  /-- The letter of the short spelling, behind one dash. -/
  short : Option Char
  /-- How many values the option takes. -/
  arity : Nat
deriving DecidableEq, Repr

/-- An option as it was given, with its values. -/
structure Given where
  name : String
  values : List String
deriving DecidableEq, Repr

/-- The values of an option, of which one may be attached to it: the option as given and how many of
the words behind it were used. -/
def takeValues (spec : OptionSpec) (attached : Option String) (rest : List String) :
    Except UsageFault (Given × Nat) :=
  let available := attached.toList ++ rest
  if available.length < spec.arity then .error .badOptionUsage
  else .ok (⟨spec.name, available.take spec.arity⟩, spec.arity - attached.toList.length)

/-- Short options in one word, up to one that takes a value. -/
def takeCluster (specs : List OptionSpec) (rest : List String) :
    List Char → Except UsageFault (List Given × Nat)
  | [] => .ok ([], 0)
  | letter :: letters =>
    match specs.find? (·.short == some letter) with
    | none => .error .noSuchOption
    | some spec =>
      if spec.arity = 0 then do
        let (more, used) ← takeCluster specs rest letters
        return (⟨spec.name, []⟩ :: more, used)
      else do
        let attached := if letters.isEmpty then none else some (String.ofList letters)
        let (given, used) ← takeValues spec attached rest
        return ([given], used)

/-- A word in two parts at its first equals sign. -/
def splitEquals (word : List Char) : List Char × Option (List Char) :=
  match Text.cutAt '=' word with
  | some (name, value) => (name, some value)
  | none => (word, none)

/-- The options that a word spells, and how many of the words behind it they use. -/
def takeOption (specs : List OptionSpec) (word : List Char) (rest : List String) :
    Except UsageFault (List Given × Nat) :=
  let (name, value) := splitEquals word
  match specs.find? (·.long.toList == name) with
  | some spec =>
    if spec.arity = 0 then
      if value.isSome then .error .badOptionUsage else .ok ([⟨spec.name, []⟩], 0)
    else do
      let (given, used) ← takeValues spec (value.map String.ofList) rest
      return ([given], used)
  | none =>
    match word with
    | '-' :: '-' :: _ => .error .noSuchOption
    | _ :: letters => takeCluster specs rest letters
    | [] => .error .noSuchOption

/-- Whether a word spells options. -/
def isOptionWord (word : List Char) : Bool :=
  match word with
  | '-' :: _ :: _ => true
  | _ => false

/-- The options among words, and the positional words. With `mixed`, options may stand behind
positional words. -/
def takeOptions (specs : List OptionSpec) (mixed : Bool) (words : List String) :
    Except UsageFault (List Given × List String) :=
  match words with
  | [] => .ok ([], [])
  | word :: rest =>
    if word = "--" then .ok ([], rest)
    else if isOptionWord word.toList then
      match takeOption specs word.toList rest with
      | .error fault => .error fault
      | .ok (given, used) => do
        let (more, positional) ← takeOptions specs mixed (rest.drop used)
        return (given ++ more, positional)
    else if mixed then do
      let (given, positional) ← takeOptions specs mixed rest
      return (given, word :: positional)
    else .ok ([], word :: rest)
termination_by words.length
decreasing_by
  · simp only [List.length_drop, List.length_cons]; omega
  · simp

/-- All values of an option, in order. -/
def valuesOf (given : List Given) (name : String) : List (List String) :=
  (given.filter (·.name == name)).map Given.values

/-- The value of an option that takes one; the last one given counts. -/
def lastValue? (given : List Given) (name : String) : Option String :=
  (valuesOf given name).getLast?.bind List.head?

/-- Whether a flag was given. -/
def hasFlag (given : List Given) (name : String) : Bool :=
  given.any (·.name == name)

end ChainQuery.CommandLine
