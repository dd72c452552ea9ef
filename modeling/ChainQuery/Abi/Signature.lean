import ChainQuery.Abi.Param
import ChainQuery.Error
import ChainQuery.Text.Digit
import ChainQuery.Text.Quoted
import ChainQuery.Text.Word

/-!
# Reading signatures

Reading the readable form of parameters (`parseParam`), function signatures (`parseSignature`) and
the tuple descriptors of query results (`parseDescriptor`).

The readers are lenient: blanks may stand almost anywhere, words that say where a value is kept are
dropped, and types written short are completed. A tuple is read by cutting out the text between its
parentheses; that text is shorter (`takeGroup_length`), so reading ends.
-/

namespace ChainQuery.Abi

/-- What is wrong with a signature. -/
inductive SignatureProblem where
  | unbalanced
  | emptyParameter
  | unknownType (word : String)
  | unexpectedTokens (words : String)
  | notAFunction
  | noName
  | textAfterReturns
  | unexpectedModifier (word : String)
deriving DecidableEq, Repr

/-- What a problem is called. -/
def SignatureProblem.text : SignatureProblem → String
  | .unbalanced => "unbalanced parentheses"
  | .emptyParameter => "empty parameter"
  | .unknownType word => "unknown type '" ++ word ++ "'"
  | .unexpectedTokens words => "unexpected tokens " ++ String.ofList (Text.quote words.toList)
  | .notAFunction => "only function signatures are supported"
  | .noName => "expected a function name followed by '('"
  | .textAfterReturns => "unexpected text after returns clause"
  | .unexpectedModifier word => "unexpected modifier '" ++ word ++ "'"

/-- A piece of text that cannot be read, and why. -/
structure SignatureFault where
  signature : List Char
  problem : SignatureProblem
deriving DecidableEq, Repr

/-- The error that reports a fault. -/
def SignatureFault.toError (fault : SignatureFault) : PipelineError :=
  .badSignature (String.ofList fault.signature) fault.problem.text

/-- What reading a piece of a signature gives. -/
abbrev Reading := Except SignatureFault

/-- The nesting depth after a character. -/
def depthAfter (depth : Int) (c : Char) : Int :=
  if c = '(' then depth + 1 else if c = ')' then depth - 1 else depth

/-- The text up to the parenthesis that closes the current group, and the text behind that
parenthesis; `inner` counts the groups opened since. -/
def takeGroup (inner : Nat) : List Char → Option (List Char × List Char)
  | [] => none
  | c :: rest =>
    if c = '(' then (takeGroup (inner + 1) rest).map fun (inside, after) => (c :: inside, after)
    else if c = ')' then
      match inner with
      | 0 => some ([], rest)
      | inner + 1 => (takeGroup inner rest).map fun (inside, after) => (c :: inside, after)
    else (takeGroup inner rest).map fun (inside, after) => (c :: inside, after)

/-- Cut a text at the commas that stand at depth zero. -/
def splitTop (depth : Int) : List Char → List (List Char)
  | [] => [[]]
  | c :: rest =>
    if c = ',' ∧ depth = 0 then [] :: splitTop depth rest
    else Text.consFirst c (splitTop (depthAfter depth c) rest)

/-- The parameters of a list, each without blanks around it. A blank list has none; otherwise none
may be empty. -/
def splitParams (text : List Char) : Reading (List (List Char)) :=
  let pieces := (splitTop 0 text).map Text.trim
  if pieces = [[]] then .ok []
  else if pieces.any List.isEmpty then .error ⟨text, .emptyParameter⟩
  else .ok pieces

/-- Words that may stand between a type and a name and mean nothing here. -/
def locationWords : List String := ["indexed", "memory", "calldata", "storage", "payable"]

/-- The name among the words behind a type; there may be one at most. -/
def paramName (words : List (List Char)) (source : List Char) : Reading (Option String) :=
  match words.filter fun word => !locationWords.contains (String.ofList word) with
  | [] => .ok none
  | [name] => .ok (some (String.ofList name))
  | names => .error ⟨source, .unexpectedTokens (String.ofList (Text.joinWith [' '] names))⟩

/-- The array brackets at the front of a text, and the text behind them. -/
def takeBrackets (text : List Char) : List Char × List Char :=
  match text with
  | '[' :: rest =>
    match _h : rest.dropWhile Text.isDigit with
    | ']' :: after =>
      let (brackets, remaining) := takeBrackets after
      ('[' :: rest.takeWhile Text.isDigit ++ ']' :: brackets, remaining)
    | _ => ([], text)
  | _ => ([], text)
termination_by text.length
decreasing_by
  have shorter := (List.dropWhile_sublist Text.isDigit (l := rest)).length_le
  simp only [List.length_cons, _h] at shorter ⊢
  omega

/-- Whether a character is a lower-case ASCII letter. -/
def isLowerLetter (c : Char) : Bool :=
  'a' ≤ c && c ≤ 'z'

/-- An elementary type written out in full: a word, a size and array brackets. The sizes of `uint`,
`int` and `byte` may be left out. -/
def elementaryType (word source : List Char) : Reading String :=
  let base := word.takeWhile isLowerLetter
  let sized := word.dropWhile isLowerLetter
  let size := sized.takeWhile Text.isDigit
  let (brackets, remaining) := takeBrackets (sized.dropWhile Text.isDigit)
  if base.isEmpty || !remaining.isEmpty then
    .error ⟨source, .unknownType (String.ofList word)⟩
  else if size.isEmpty && (base = "uint".toList || base = "int".toList) then
    .ok (String.ofList (base ++ "256".toList ++ brackets))
  else if size.isEmpty && base = "byte".toList then
    .ok (String.ofList ("bytes1".toList ++ brackets))
  else .ok (String.ofList (base ++ size ++ brackets))

/-- The text behind the opening parenthesis of a tuple, which may have the word `tuple` before it.
-/
def tupleOpening? (text : List Char) : Option (List Char) :=
  match (Param.tupleWord ++ ['(']).isPrefixOf? text with
  | some inside => some inside
  | none => ['('].isPrefixOf? text

theorem takeGroup_length {inner : Nat} {text inside after : List Char}
    (found : takeGroup inner text = some (inside, after)) :
    inside.length + after.length + 1 = text.length := by
  induction text generalizing inner inside after with
  | nil => simp [takeGroup] at found
  | cons c rest ih =>
    have step : ∀ inner',
        (takeGroup inner' rest).map (fun (inside, after) => (c :: inside, after)) =
          some (inside, after) →
        inside.length + after.length + 1 = (c :: rest).length := by
      intro inner' mapped
      obtain ⟨⟨inside', after'⟩, found', same⟩ := Option.map_eq_some_iff.1 mapped
      obtain ⟨rfl, rfl⟩ := Prod.mk.inj same
      have := ih found'
      simp only [List.length_cons]
      omega
    simp only [takeGroup] at found
    split at found
    · exact step _ found
    · split at found
      · split at found
        · obtain ⟨rfl, rfl⟩ := Prod.mk.inj (Option.some.inj found)
          simp
        · exact step _ found
      · exact step _ found

theorem append_of_isPrefixOf? {first text rest : List Char}
    (found : first.isPrefixOf? text = some rest) : first ++ rest = text := by
  induction first generalizing text with
  | nil => exact (Option.some.inj found).symm
  | cons c first ih =>
    cases text with
    | nil => cases found
    | cons d text =>
      change (if c == d then first.isPrefixOf? text else none) = some rest at found
      split at found
      · rename_i same
        rw [List.cons_append, ih found, eq_of_beq same]
      · cases found

theorem length_of_isPrefixOf? {first text rest : List Char}
    (found : first.isPrefixOf? text = some rest) : first.length + rest.length = text.length := by
  rw [← append_of_isPrefixOf? found, List.length_append]

theorem tupleOpening?_length {text inside : List Char} (found : tupleOpening? text = some inside) :
    inside.length < text.length := by
  unfold tupleOpening? at found
  split at found
  · rename_i found'
    have := length_of_isPrefixOf? found'
    obtain rfl := Option.some.inj found
    simp [Param.tupleWord] at this
    omega
  · have := length_of_isPrefixOf? found
    simp at this
    omega

theorem trim_length (text : List Char) : (Text.trim text).length ≤ text.length := by
  have front := (List.dropWhile_sublist Text.isBlank (l := text)).length_le
  have back := (List.dropWhile_sublist Text.isBlank
    (l := (text.dropWhile Text.isBlank).reverse)).length_le
  simp only [List.length_reverse] at back
  simp only [Text.trim, Text.trimEnd, Text.dropEndWhile, Text.trimStart, List.length_reverse]
  omega

theorem length_of_mem_splitTop {depth : Int} {text piece : List Char}
    (mem : piece ∈ splitTop depth text) : piece.length ≤ text.length := by
  induction text generalizing depth piece with
  | nil => simp_all [splitTop]
  | cons c rest ih =>
    simp only [splitTop] at mem
    split at mem
    · rcases List.mem_cons.1 mem with rfl | mem
      · simp
      · exact Nat.le_succ_of_le (ih mem)
    · cases pieces : splitTop (depthAfter depth c) rest with
      | nil =>
        rw [pieces, Text.consFirst, List.mem_singleton] at mem
        simp [mem]
      | cons first others =>
        rw [pieces, Text.consFirst] at mem
        rcases List.mem_cons.1 mem with rfl | mem
        · have shorter : first.length ≤ rest.length := ih (pieces ▸ List.mem_cons_self)
          simpa using shorter
        · exact Nat.le_succ_of_le (ih (pieces ▸ List.mem_cons_of_mem _ mem))

theorem length_of_mem_splitParams {text piece : List Char} {pieces : List (List Char)}
    (split : splitParams text = .ok pieces) (mem : piece ∈ pieces) :
    piece.length ≤ text.length := by
  unfold splitParams at split
  simp only at split
  split at split
  · obtain rfl := Except.ok.inj split
    simp at mem
  · split at split
    · cases split
    · obtain rfl := Except.ok.inj split
      obtain ⟨whole, inside, rfl⟩ := List.mem_map.1 mem
      exact Nat.le_trans (trim_length whole) (length_of_mem_splitTop inside)

/-- Read a parameter: a tuple in parentheses or an elementary type, and possibly a name. -/
def parseParam (source : List Char) : Reading Param :=
  match _opened : tupleOpening? (Text.trim source) with
  | some opening =>
    match _grouped : takeGroup 0 opening with
    | none => .error ⟨Text.trim source, .unbalanced⟩
    | some (inside, rest) =>
      match _split : splitParams inside with
      | .error fault => .error fault
      | .ok pieces => do
        let components ← pieces.attach.mapM fun ⟨piece, _⟩ => parseParam piece
        let (brackets, behind) := takeBrackets (Text.trimStart rest)
        let name ← paramName (Text.words behind) (Text.trim source)
        return ⟨name, String.ofList (Param.tupleWord ++ brackets), some components⟩
  | none =>
    match Text.words (Text.trim source) with
    | [] => .error ⟨Text.trim source, .emptyParameter⟩
    | word :: words => do
      let name ← paramName words (Text.trim source)
      let type ← elementaryType word (Text.trim source)
      return ⟨name, type, none⟩
termination_by source.length
decreasing_by
  rename_i mem
  have whole := trim_length source
  have front := tupleOpening?_length _opened
  have group := takeGroup_length _grouped
  have piece := length_of_mem_splitParams _split mem
  omega

/-- Read a list of parameters. -/
def parseParams (text : List Char) : Reading (List Param) := do
  (← splitParams text).mapM parseParam

/-- Words that start something other than a function. -/
def otherKinds : List String := ["event", "error", "constructor", "fallback", "receive"]

/-- Words that say whether a call may change state. -/
def mutabilityWords : List String := ["pure", "view", "payable", "nonpayable"]

/-- Words that say who may call. -/
def visibilityWords : List String := ["external", "public"]

/-- Whether a character may start an identifier. -/
def isIdentifierStart (c : Char) : Bool :=
  ('A' ≤ c && c ≤ 'Z') || ('a' ≤ c && c ≤ 'z') || c == '_' || c == '$'

/-- Whether a character may stand in an identifier. -/
def isIdentifierChar (c : Char) : Bool :=
  isIdentifierStart c || ('0' ≤ c && c ≤ '9')

/-- An identifier with an opening parenthesis behind it: the identifier and the text inside. -/
def functionName? (text : List Char) : Option (List Char × List Char) :=
  match text with
  | c :: _ =>
    if isIdentifierStart c then
      match Text.trimStart (text.dropWhile isIdentifierChar) with
      | '(' :: inside => some (text.takeWhile isIdentifierChar, inside)
      | _ => none
    else none
  | [] => none

/-- The text behind the word `returns` and an opening parenthesis. -/
def returnsOpening? (text : List Char) : Option (List Char) :=
  match "returns".toList.isPrefixOf? text with
  | some behind =>
    match Text.trimStart behind with
    | '(' :: inside => some inside
    | _ => none
  | none => none

/-- The text before the first returns clause and the text inside it; `afterWord` says whether a word
character stands before the text. -/
def findReturns (afterWord : Bool) : List Char → Option (List Char × List Char)
  | [] => none
  | c :: rest =>
    match if afterWord then none else returnsOpening? (c :: rest) with
    | some inside => some ([], inside)
    | none =>
      (findReturns (Text.isWordChar c) rest).map fun (before, inside) => (c :: before, inside)

/-- The mutability that modifiers declare; the last one counts. -/
def mutabilityOf (source : List Char) (declared : String) : List (List Char) → Reading String
  | [] => .ok declared
  | word :: rest =>
    let word := String.ofList word
    if mutabilityWords.contains word then mutabilityOf source word rest
    else if word = "constant" then mutabilityOf source "view" rest
    else if visibilityWords.contains word then mutabilityOf source declared rest
    else .error ⟨source, .unexpectedModifier word⟩

/-- The signature without its leading word and without semicolons at its end. -/
def signatureBody (source : List Char) : Reading (List Char) :=
  let text := Text.trim (Text.dropEndWhile (· == ';') (Text.trim source))
  match "function ".toList.isPrefixOf? text with
  | some body => .ok (Text.trimStart body)
  | none =>
    let word := (text.takeWhile (· != ' ')).takeWhile (· != '(')
    if otherKinds.contains (String.ofList word) then .error ⟨source, .notAFunction⟩ else .ok text

/-- The modifiers behind the inputs and the text of the outputs. -/
def signatureTail (source rest : List Char) : Reading (List (List Char) × List Char) :=
  match findReturns false rest with
  | none => .ok (Text.words rest, [])
  | some (before, opened) =>
    match takeGroup 0 opened with
    | none => .error ⟨source, .unbalanced⟩
    | some (outputs, after) =>
      if (Text.trim after).isEmpty then .ok (Text.words before, outputs)
      else .error ⟨source, .textAfterReturns⟩

/-- Read a function signature; the leading word `function` may be left out. -/
def parseSignature (source : List Char) : Reading Function := do
  let body ← signatureBody source
  match functionName? body with
  | none => .error ⟨source, .noName⟩
  | some (name, opened) =>
    match takeGroup 0 opened with
    | none => .error ⟨source, .unbalanced⟩
    | some (inputs, rest) => do
      let (modifiers, outputs) ← signatureTail source (Text.trim rest)
      let mutability ← mutabilityOf source Function.defaultMutability modifiers
      let inputs ← parseParams inputs
      let outputs ← parseParams outputs
      return ⟨String.ofList name, inputs, outputs, mutability⟩

/-- Read the tuple descriptor of a result: the parameters the tuple is made of. -/
def parseDescriptor (descriptor : List Char) : Except PipelineError (List Param) :=
  let text := String.ofList descriptor
  match parseParam descriptor with
  | .error fault =>
    .error (.queryRefused text ("Invalid tuple type descriptor: " ++ fault.toError.text))
  | .ok param =>
    match param.components with
    | some components =>
      if param.type = "tuple" then .ok components
      else .error (.queryRefused text ("Expected a tuple type descriptor, got: " ++ text))
    | none => .error (.queryRefused text ("Expected a tuple type descriptor, got: " ++ text))

end ChainQuery.Abi
