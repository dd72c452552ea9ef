import ChainQuery.Proofs.Abi.Nesting

/-! # The notation of signatures

Which functions the notation can name (`Function.Readable`) and all the ways to write one
(`Function.Spells`). The two are stated apart from the readers, as predicates on functions and
relations between functions and texts.

A parameter is a type with words behind it: the name, if there is one, among words that say where a
value is kept. A tuple is a list of parameters in parentheses. What a writer may choose is where
blanks stand, whether a size that can be left out is written, whether the word `tuple` and the word
`function` are written, which words without meaning are added, and in which order the modifiers of
a function stand. The form in which functions are written out is one of these ways
(`Function.spells_written`).
-/

namespace ChainQuery.Abi

open Text (AllBlank NoBlank)

/-- A name: a letter, `_` or `$`, and behind it also digits. -/
def IsIdentifier (word : List Char) : Prop :=
  ∃ c rest, word = c :: rest ∧ isIdentifierStart c = true ∧
    ∀ d ∈ rest, isIdentifierChar d = true

/-- Array brackets one behind the other, each empty or with digits inside. -/
inductive IsSuffix : List Char → Prop
  | nil : IsSuffix []
  | cons {digits rest : List Char} : (∀ d ∈ digits, Text.isDigit d = true) → IsSuffix rest →
      IsSuffix ('[' :: (digits ++ ']' :: rest))

/-- The words of elementary types that need a size. -/
def sizedWords : List (List Char) :=
  ["uint".toList, "int".toList, "byte".toList]

/-- An elementary type in full: lower-case letters, a size and array brackets. -/
structure IsElementary (type : List Char) (base size suffix : List Char) : Prop where
  parts : type = base ++ (size ++ suffix)
  filled : base ≠ []
  letters : ∀ c ∈ base, isLowerLetter c = true
  digits : ∀ d ∈ size, Text.isDigit d = true
  brackets : IsSuffix suffix
  notTuple : ¬ Param.tupleWord <+: type
  sized : size = [] → base ∉ sizedWords

/-- The types whose size may be left out, and how they are written then. -/
def shortForms : List (List Char × List Char) :=
  [("uint256".toList, "uint".toList), ("int256".toList, "int".toList),
    ("bytes1".toList, "byte".toList)]

/-- The ways to write an elementary type. -/
inductive TypeSpells : List Char → List Char → Prop
  | full (type : List Char) : TypeSpells type type
  | short {full short suffix : List Char} : (full, short) ∈ shortForms → IsSuffix suffix →
      TypeSpells (full ++ suffix) (short ++ suffix)

/-- Words of which one is the name, if there is one, and the others say where a value is kept. -/
def Labels (name : Option String) (words : List (List Char)) : Prop :=
  ∃ before after : List (List Char),
    (∀ word ∈ before ++ after, String.ofList word ∈ locationWords) ∧
      words = before ++ (name.map String.toList).toList ++ after

/-- Words with blanks before each of them; before the first one there may be none, unless it has to
stand apart. -/
inductive Trailing : Bool → List (List Char) → List Char → Prop
  | nil {apart : Bool} : Trailing apart [] []
  | cons {apart : Bool} {gap word text : List Char} {words : List (List Char)} :
      AllBlank gap → (apart = true → gap ≠ []) → Trailing true words text →
      Trailing apart (word :: words) (gap ++ (word ++ text))

/-- Pieces with commas between them; a text of blanks if there is none. -/
inductive Listed : List (List Char) → List Char → Prop
  | none {gap : List Char} : AllBlank gap → Listed [] gap
  | some {pieces : List (List Char)} : pieces ≠ [] → Listed pieces (Text.joinWith [','] pieces)

/-- A name that a parameter can have, or none. -/
def NameReadable (name : Option String) : Prop :=
  ∀ word ∈ name, IsIdentifier word.toList ∧ word ∉ locationWords

namespace Param

/-- The parameters that the notation can write. -/
inductive Readable : Param → Prop
  | elementary {name : Option String} {type : String} {base size suffix : List Char} :
      NameReadable name → IsElementary type.toList base size suffix → Readable ⟨name, type, none⟩
  | tuple {name : Option String} {suffix : List Char} {members : List Param} :
      NameReadable name → IsSuffix suffix → (∀ member ∈ members, Readable member) →
      Readable ⟨name, String.ofList (tupleWord ++ suffix), some members⟩

/-- A readable parameter without components names an elementary type. -/
theorem Readable.of_none {name : Option String} {type : String}
    (readable : Readable ⟨name, type, none⟩) :
    NameReadable name ∧ ∃ base size suffix, IsElementary type.toList base size suffix := by
  cases readable with
  | elementary named elementary => exact ⟨named, _, _, _, elementary⟩

theorem Readable.of_some {name : Option String} {type : String} {members : List Param}
    (readable : Readable ⟨name, type, some members⟩) :
    NameReadable name ∧ ∀ member ∈ members, Readable member := by
  cases readable with
  | tuple named _ each => exact ⟨named, each⟩

/-- How a tuple begins. -/
def tupleOpenings : List (List Char) :=
  [tupleWord ++ ['('], ['(']]

/-- The ways to write a parameter. -/
inductive Spells : Param → List Char → Prop
  | padded {param : Param} {before text after : List Char} :
      AllBlank before → AllBlank after → Spells param text →
      Spells param (before ++ (text ++ after))
  | elementary {name : Option String} {type : String} {word text : List Char}
      {words : List (List Char)} :
      TypeSpells type.toList word → Labels name words → Trailing true words text →
      Spells ⟨name, type, none⟩ (word ++ text)
  | tuple {name : Option String} {opening inside gap suffix text : List Char}
      {members : List (Param × List Char)} {words : List (List Char)} :
      opening ∈ tupleOpenings → (∀ member ∈ members, Spells member.1 member.2) →
      Listed (members.map Prod.snd) inside → AllBlank gap → IsSuffix suffix →
      Labels name words → Trailing false words text →
      Spells ⟨name, String.ofList (tupleWord ++ suffix), some (members.map Prod.fst)⟩
        (opening ++ (inside ++ ')' :: (gap ++ (suffix ++ text))))

/-- The ways to write a list of parameters. -/
def AllSpell (params : List Param) (text : List Char) : Prop :=
  ∃ members : List (Param × List Char), members.map Prod.fst = params ∧
    (∀ member ∈ members, Spells member.1 member.2) ∧ Listed (members.map Prod.snd) text

end Param

/-- The mutability that a modifier declares, if it declares one. -/
def declared? (word : String) : Option String :=
  if word ∈ mutabilityWords then some word else if word = "constant" then some "view" else none

/-- Modifiers that declare a mutability: the last one that says anything about it counts, and
visibility says nothing. -/
structure Declares (modifiers : List String) (mutability : String) : Prop where
  known : ∀ word ∈ modifiers, (declared? word).isSome = true ∨ word ∈ visibilityWords
  last : (modifiers.filterMap declared?).getLast?.getD Function.defaultMutability = mutability

namespace Function

/-- The functions that the notation can write. -/
structure Readable (function : Function) : Prop where
  name : IsIdentifier function.name.toList
  inputs : ∀ param ∈ function.inputs, param.Readable
  outputs : ∀ param ∈ function.outputs, param.Readable
  mutability : function.mutability ∈ mutabilityWords

/-- What may stand before the name of a function. -/
inductive Opens (name : String) : List Char → Prop
  | word {gap : List Char} : AllBlank gap → Opens name ("function ".toList ++ gap)
  | bare : name ≠ "function" → name ∉ otherKinds → Opens name []

/-- What may stand behind the inputs of a function: modifiers, and the outputs behind the word
`returns`. -/
inductive Closes (outputs : List Param) (modifiers : List (List Char)) : List Char → Prop
  | plain {text : List Char} : outputs = [] → Trailing false modifiers text →
      Closes outputs modifiers text
  | returning {front gap space inside : List Char} : Trailing false modifiers front →
      AllBlank gap → (modifiers ≠ [] → gap ≠ []) → AllBlank space →
      Param.AllSpell outputs inside →
      Closes outputs modifiers
        (front ++ (gap ++ ("returns".toList ++ (space ++ '(' :: (inside ++ [')'])))))

/-- The ways to write a function. Semicolons may stand at the end. -/
inductive Spells (function : Function) : List Char → Prop
  | mk {before opening gap inside tail behind semicolons after : List Char}
      {modifiers : List (List Char)} :
      AllBlank before → Opens function.name opening → AllBlank gap →
      Param.AllSpell function.inputs inside → Closes function.outputs modifiers tail →
      Declares (modifiers.map String.ofList) function.mutability →
      AllBlank behind → (∀ c ∈ semicolons, c = ';') → AllBlank after →
      Spells function
        (before ++ ((opening ++ (function.name.toList ++
          (gap ++ '(' :: (inside ++ ')' :: tail)))) ++ (behind ++ (semicolons ++ after))))

end Function

end ChainQuery.Abi
