import ChainQuery.Proofs.Abi.Faults
import ChainQuery.Proofs.Abi.Validation

/-! # Readers that trust nothing

The readers again, with everything made explicit that might go wrong beside a refused text
(`Guarded.Stop`): a part that is looked up may be missing, a value that is put together is checked
against the schema of interfaces, and tuples may be nested only to a given depth. None of it ever
happens: a guarded reader that may go deeper than its text is long gives what the reader gives
(`Guarded.parseParam_eq`, `Guarded.parseSignature_eq`, `Guarded.parseDescriptor_eq`).
-/

namespace ChainQuery.Abi

namespace Guarded

/-- Why a guarded reader stops: the text is refused, or one of its guards fails. -/
inductive Stop (ρ : Type) where
  | refused (reason : ρ)
  /-- A value was put together that breaks the schema. -/
  | invalid (violations : List Schema.Violation)
  /-- A part is missing. -/
  | missing
  /-- Tuples are nested too deeply. -/
  | tooDeep
deriving DecidableEq, Repr

/-- What a guarded reader gives. -/
abbrev Result (ρ : Type) := Except (Stop ρ)

variable {ρ σ α β : Type}

/-- A part that has to be there. -/
def present : Option α → Result ρ α
  | some value => .ok value
  | none => .error .missing

/-- A reading that goes on behind a guard. -/
def unguarded (reading : Except ρ α) : Result ρ α :=
  reading.mapError .refused

/-- The same stop, with the refusal put into other words. -/
def Stop.map (f : ρ → σ) : Stop ρ → Stop σ
  | .refused reason => .refused (f reason)
  | .invalid violations => .invalid violations
  | .missing => .missing
  | .tooDeep => .tooDeep

/-- A parameter, checked against the schema. -/
def checkedParam (param : Param) : Result ρ Param :=
  (Param.ofJson param.toAbi).mapError .invalid

/-- A function, checked against the schema. -/
def checkedFunction (function : Function) : Result ρ Function :=
  (Function.ofJson function.toAbi).mapError .invalid

/-- Whether a text starts as a tuple does. -/
def startsTuple (text : List Char) : Bool :=
  Param.tupleOpenings.any fun opening => opening.isPrefixOf text

/-- The brackets at the front of a text, provided that they do stand there. -/
def bracketsAt? (text : List Char) : Option (List Char × List Char) :=
  let (brackets, behind) := takeBrackets text
  if brackets ++ behind = text then some (brackets, behind) else none

/-- Read a parameter whose tuples are nested to less than a depth. -/
def parseParam : Nat → List Char → Result SignatureFault Param
  | 0, _ => .error .tooDeep
  | depth + 1, source => do
    let text := Text.trim source
    if startsTuple text then
      let index ← present (text.idxOf? '(')
      match takeGroup 0 (text.drop (index + 1)) with
      | none => .error (.refused ⟨text, .unbalanced⟩)
      | some (inside, rest) =>
        let pieces ← unguarded (splitParams inside)
        let components ← pieces.mapM (parseParam depth)
        let (brackets, behind) ← present (bracketsAt? (Text.trimStart rest))
        let name ← unguarded (paramName (Text.words behind) text)
        checkedParam ⟨name, String.ofList (Param.tupleWord ++ brackets), some components⟩
    else if (Text.words text).isEmpty then
      .error (.refused ⟨text, .emptyParameter⟩)
    else
      let name ← unguarded (paramName (Text.words text).tail text)
      let word ← present (Text.words text).head?
      let type ← unguarded (elementaryType word text)
      checkedParam ⟨name, type, none⟩

/-- Read a list of parameters whose tuples are nested to less than a depth. -/
def parseParams (depth : Nat) (text : List Char) : Result SignatureFault (List Param) := do
  (← unguarded (splitParams text)).mapM (parseParam depth)

/-- Read a function signature whose tuples are nested to less than a depth. -/
def parseSignature (depth : Nat) (source : List Char) : Result SignatureFault Function := do
  let body ← unguarded (signatureBody source)
  match functionName? body with
  | none => .error (.refused ⟨source, .noName⟩)
  | some (name, opened) =>
    match takeGroup 0 opened with
    | none => .error (.refused ⟨source, .unbalanced⟩)
    | some (inputs, rest) => do
      let (modifiers, outputs) ← unguarded (signatureTail source (Text.trim rest))
      let mutability ← unguarded (mutabilityOf source Function.defaultMutability modifiers)
      let inputs ← parseParams depth inputs
      let outputs ← parseParams depth outputs
      checkedFunction ⟨String.ofList name, inputs, outputs, mutability⟩

/-- Read the tuple descriptor of a result, nested to less than a depth. -/
def parseDescriptor (depth : Nat) (descriptor : List Char) :
    Result PipelineError (List Param) := do
  let text := String.ofList descriptor
  let param ← (parseParam depth descriptor).mapError (.map fun fault =>
    .queryRefused text ("Invalid tuple type descriptor: " ++ fault.toError.text))
  if param.components = none ∨ param.type ≠ "tuple" then
    .error (.refused (.queryRefused text ("Expected a tuple type descriptor, got: " ++ text)))
  else present param.components

/-- What is read step by step goes on behind a guard if each step does. -/
theorem bind_unguarded {first : Result ρ α} {reading : Except ρ α} {next : α → Result ρ β}
    {rest : α → Except ρ β} (same : first = unguarded reading)
    (behind : ∀ value, reading = .ok value → next value = unguarded (rest value)) :
    first >>= next = unguarded (reading >>= rest) := by
  rw [same]
  cases reading with
  | error reason => rfl
  | ok value => exact behind value rfl

/-- A reader of several inputs is guarded as soon as its step is, input by input. -/
theorem mapM_unguarded {guarded : α → Result ρ β} {step : α → Except ρ β} {inputs : List α}
    (each : ∀ input ∈ inputs, guarded input = unguarded (step input)) :
    inputs.mapM guarded = unguarded (inputs.mapM step) := by
  induction inputs with
  | nil => rfl
  | cons input rest ih =>
      obtain ⟨first, others⟩ := List.forall_mem_cons.mp each
      rw [List.mapM_cons, List.mapM_cons]
      exact bind_unguarded first fun _ _ => bind_unguarded (ih others) fun _ _ => rfl

/-- The check of a parameter passes when its name and its type are not empty. -/
theorem checkedParam_of_valid {param : Param} (valid : param.Valid) :
    (checkedParam param : Result ρ Param) = .ok param := by
  rw [checkedParam, Param.ofJson_toAbi valid]
  rfl

theorem checkedFunction_of_valid {function : Function} (valid : function.Valid) :
    (checkedFunction function : Result ρ Function) = .ok function := by
  rw [checkedFunction, Function.ofJson_toAbi valid]
  rfl

/-- Array brackets are found at the start of any text, if only none of them, so the guard of this
step never fails. -/
theorem bracketsAt?_eq (text : List Char) : bracketsAt? text = some (takeBrackets text) :=
  if_pos (isSuffix_of_takeBrackets rfl).2.symm

/-- A text that opens a tuple holds a parenthesis, and the first one opens the members. So the
guarded reader, which looks for this parenthesis, goes on with the same text. -/
theorem startsTuple_of_some {text opening : List Char}
    (opened : tupleOpening? text = some opening) :
    startsTuple text = true ∧
      ∃ index, text.idxOf? '(' = some index ∧ text.drop (index + 1) = opening := by
  obtain ⟨front, known, rfl⟩ := exists_of_tupleOpening? opened
  constructor
  · exact List.any_eq_true.mpr ⟨front, known,
      List.isPrefixOf_iff_prefix.mpr (List.prefix_append front opening)⟩
  · simp only [Param.tupleOpenings, List.mem_cons, List.not_mem_nil, or_false] at known
    rcases known with rfl | rfl
    · exact ⟨5, rfl, rfl⟩
    · exact ⟨0, rfl, rfl⟩

/-- A text without an opening of a tuple is none that the guard would take for a tuple. -/
theorem startsTuple_of_none {text : List Char} (unopened : tupleOpening? text = none) :
    startsTuple text = false := by
  rw [Bool.eq_false_iff]
  intro starts
  obtain ⟨front, known, isFront⟩ := List.any_eq_true.mp starts
  obtain ⟨rest, rfl⟩ := List.isPrefixOf_iff_prefix.mp isFront
  rw [tupleOpening?_append known] at unopened
  exact nomatch unopened

end Guarded

/-- A name is one of the words behind a type, so it is not empty where the words are not. -/
theorem ne_of_paramName {words : List (List Char)} {source : List Char} {name : Option String}
    (filled : ∀ word ∈ words, word ≠ []) (named : paramName words source = .ok name) :
    name ≠ some "" := by
  rintro rfl
  obtain ⟨⟨before, after, _, rfl⟩, _⟩ := labels_of_paramName named
  exact filled [] (List.mem_append_left _ (List.mem_append_right _ List.mem_cons_self)) rfl

theorem ne_nil_of_mem_words {text word : List Char} (among : word ∈ Text.words text) :
    word ≠ [] := by
  simpa using (List.mem_filter.mp among).2

/-- A tuple is valid if its members are. Its type starts with `tuple` and so is not empty. -/
theorem valid_tuple {brackets behind source : List Char} {name : Option String}
    {members : List Param} (each : ∀ member ∈ members, member.Valid)
    (named : paramName (Text.words behind) source = .ok name) :
    Param.Valid ⟨name, String.ofList (Param.tupleWord ++ brackets), some members⟩ := by
  refine .mk (ne_of_paramName (fun _ => ne_nil_of_mem_words) named) ?_ ?_
  · intro empty
    exact nomatch String.ofList_injective empty
  · rintro _ ⟨⟩
    exact each

/-- An elementary parameter that is read is valid: its type is the normalized form of a word. -/
theorem valid_elementary {text word source : List Char} {words : List (List Char)}
    {name : Option String} {type : String} (cut : Text.words text = word :: words)
    (named : paramName words source = .ok name)
    (typed : elementaryType word source = .ok type) : Param.Valid ⟨name, type, none⟩ := by
  have filled : ∀ other ∈ words, other ≠ [] := fun other among =>
    ne_nil_of_mem_words (cut ▸ List.mem_cons_of_mem word among)
  obtain ⟨_, base, size, suffix, parts⟩ := isTypeWord_of_elementaryType typed
  refine .mk (ne_of_paramName filled named) ?_ nofun
  rintro rfl
  exact parts.isWord.filled rfl

/-- A parameter that is read has no empty name and no empty type, at any depth. That is why the
checks that the guarded reader makes on its results never fail. -/
theorem valid_of_parseParam {source : List Char} {param : Param}
    (read : parseParam source = .ok param) : param.Valid := by
  induction length : source.length using Nat.strong_induction_on generalizing source param with
  | _ size ih =>
  cases opened : tupleOpening? (Text.trim source) with
  | some opening =>
      obtain ⟨inside, rest, brackets, behind, members, name, grouped, readMembers, cut, named,
        rfl⟩ := exists_of_parseParam_tuple opened read
      refine valid_tuple (fun member among => ?_) named
      obtain ⟨pieces, split, found⟩ := exists_of_parseParams readMembers
      obtain ⟨piece, isPiece, readPiece⟩ := found member among
      have shorter := length_inside opened grouped
      have part := length_of_mem_splitParams split isPiece
      exact ih _ (by omega) readPiece rfl
  | none =>
      obtain ⟨word, words, name, type, cut, named, typed, rfl⟩ :=
        exists_of_parseParam_elementary opened read
      exact valid_elementary cut named typed

/-- The parameters that are read from a list are valid. -/
theorem valid_of_parseParams {text : List Char} {params : List Param}
    (read : parseParams text = .ok params) : ∀ param ∈ params, param.Valid := by
  intro param among
  obtain ⟨pieces, _, found⟩ := exists_of_parseParams read
  obtain ⟨piece, _, readPiece⟩ := found param among
  exact valid_of_parseParam readPiece

namespace Guarded

/-- A guarded reader of lists reads what the reader itself reads, as soon as this holds for pieces
up to the length of the list. No piece is longer than the list it is cut from. -/
theorem parseParams_eq {depth : Nat} {text : List Char}
    (each : ∀ piece : List Char, piece.length ≤ text.length →
      parseParam depth piece = unguarded (Abi.parseParam piece)) :
    parseParams depth text = unguarded (Abi.parseParams text) := by
  rw [parseParams, Abi.parseParams_eq]
  refine bind_unguarded rfl fun pieces split => mapM_unguarded fun piece among => ?_
  exact each piece (length_of_mem_splitParams split among)

/-- A guarded reader that may go deeper than its text is long reads as the reader does. Each level
reads a text that is shorter, as the opening of its tuple and one parenthesis are gone, so the depth
is never used up. -/
theorem parseParam_eq {depth : Nat} {source : List Char} (enough : source.length < depth) :
    parseParam depth source = unguarded (Abi.parseParam source) := by
  induction depth generalizing source with
  | zero => exact absurd enough (Nat.not_lt_zero _)
  | succ depth ih =>
  rw [parseParam, Abi.parseParam_eq]
  cases opened : tupleOpening? (Text.trim source) with
  | some opening =>
      obtain ⟨starts, index, found, dropped⟩ := startsTuple_of_some opened
      simp only [starts, ↓reduceIte, found, present, ok_bind, dropped]
      cases grouped : takeGroup 0 opening with
      | none => rfl
      | some group =>
          obtain ⟨inside, rest⟩ := group
          have members : parseParams depth inside = unguarded (Abi.parseParams inside) := by
            refine parseParams_eq fun piece shorter => ih ?_
            have inner := length_inside opened grouped
            omega
          rw [parseParams] at members
          dsimp only
          rw [← bind_assoc, bracketsAt?_eq]
          refine bind_unguarded members fun components readMembers => ?_
          refine bind_unguarded rfl fun name named => ?_
          exact checkedParam_of_valid (valid_tuple (valid_of_parseParams readMembers) named)
  | none =>
      rw [startsTuple_of_none opened]
      cases cut : Text.words (Text.trim source) with
      | nil => rfl
      | cons word words =>
          refine bind_unguarded rfl fun name named => ?_
          refine bind_unguarded rfl fun type typed => ?_
          exact checkedParam_of_valid (valid_elementary cut named typed)

/-- With more levels than a signature has characters, no guard of its reader fails: what is read of
it is what the reader itself reads, errors included. -/
theorem parseSignature_eq {depth : Nat} {source : List Char} (enough : source.length < depth) :
    parseSignature depth source = unguarded (Abi.parseSignature source) := by
  have params : ∀ {text : List Char}, text <:+: source →
      parseParams depth text = unguarded (Abi.parseParams text) := by
    intro text inside
    refine parseParams_eq fun piece shorter => parseParam_eq ?_
    have whole := inside.length_le
    omega
  unfold parseSignature Abi.parseSignature
  refine bind_unguarded rfl fun body read => ?_
  cases named : functionName? body with
  | none => rfl
  | some found =>
      obtain ⟨name, opened⟩ := found
      dsimp only
      cases grouped : takeGroup 0 opened with
      | none => rfl
      | some group =>
          obtain ⟨inputsText, rest⟩ := group
          obtain ⟨inputsInside, restInside⟩ := infix_of_inputs read named grouped
          refine bind_unguarded rfl fun ⟨modifiers, outputsText⟩ tail => ?_
          have outputsInside := (infix_of_signatureTail tail).trans
            ((infix_trim rest).trans restInside)
          refine bind_unguarded rfl fun mutability _ => ?_
          refine bind_unguarded (params inputsInside) fun inputs readInputs => ?_
          refine bind_unguarded (params outputsInside) fun outputs readOutputs => ?_
          refine checkedFunction_of_valid
            ⟨?_, valid_of_parseParams readInputs, valid_of_parseParams readOutputs⟩
          intro empty
          exact (isIdentifier_of_functionName? named).ne_nil (String.ofList_injective empty)

/-- With more levels than a descriptor has characters, no guard of its reader fails: what is read of
it is what the reader itself reads, errors included. -/
theorem parseDescriptor_eq {depth : Nat} {descriptor : List Char}
    (enough : descriptor.length < depth) :
    parseDescriptor depth descriptor = unguarded (Abi.parseDescriptor descriptor) := by
  unfold parseDescriptor Abi.parseDescriptor
  dsimp only
  rw [parseParam_eq enough]
  cases Abi.parseParam descriptor with
  | error fault => rfl
  | ok param =>
      obtain ⟨name, type, components⟩ := param
      cases components with
      | none => rfl
      | some members =>
          by_cases isTuple : type = "tuple"
          · subst isTuple
            rfl
          · refine (if_pos (Or.inr isTuple)).trans ?_
            dsimp only
            rw [if_neg isTuple]
            rfl

end Guarded

/-- **Reading always ends in a value or a refusal.** On every text, a list of parameters, a
parameter or a signature that is refused is refused for a contiguous piece of the text, and the
descriptor of a result is refused as it was given. The text between the parentheses of a tuple is
shorter than the tuple, so a reader never goes deeper than its text is long; and with every look-up,
every value that is put together and that depth guarded, no guard fails. -/
theorem readers_end (source : List Char) :
    Located source (splitParams source) ∧ Located source (parseParam source) ∧
      Located source (parseSignature source) ∧
    (∀ error, parseDescriptor source = .error error →
      ∃ message, error = .queryRefused (String.ofList source) message) ∧
    (∀ opening inside rest, tupleOpening? (Text.trim source) = some opening →
      takeGroup 0 opening = some (inside, rest) → inside.length < source.length) ∧
    ∀ depth, source.length < depth →
      Guarded.parseParam depth source = Guarded.unguarded (parseParam source) ∧
      Guarded.parseSignature depth source = Guarded.unguarded (parseSignature source) ∧
      Guarded.parseDescriptor depth source = Guarded.unguarded (parseDescriptor source) := by
  refine ⟨located_splitParams source, located_parseParam source, located_parseSignature source,
    fun _ => refused_of_parseDescriptor, fun _ _ _ => length_inside, fun depth enough => ?_⟩
  exact ⟨Guarded.parseParam_eq enough, Guarded.parseSignature_eq enough,
    Guarded.parseDescriptor_eq enough⟩

/-- A member with two names is refused for its own text, however the tuple around it is read. -/
theorem readers_end_nested :
    let source := " (bool,(uint8 a b)[2]) ".toList
    let fault : SignatureFault := ⟨"uint8 a b".toList, .unexpectedTokens "a b"⟩
    parseParam source = .error fault ∧ fault.signature <:+: source ∧
      Guarded.parseParam 24 source = .error (.refused fault) ∧
      "bool,(uint8 a b)[2]".toList.length < source.length ∧
      ∃ message, parseDescriptor source =
        .error (.queryRefused " (bool,(uint8 a b)[2]) " message) := by
  intro source fault
  have refused : parseParam source = .error fault := by decide +kernel
  obtain ⟨_, located, _, descriptor, inner, guarded⟩ := readers_end source
  refine ⟨refused, located fault refused, ?_, inner _ _ [] rfl (by decide +kernel), ?_⟩
  · rw [(guarded 24 (by decide)).1, refused]
    rfl
  · cases read : parseDescriptor source with
    | ok params =>
        have failed : (parseDescriptor source).toOption = none := by decide +kernel
        rw [read] at failed
        exact nomatch failed
    | error error =>
        obtain ⟨message, rfl⟩ := descriptor error read
        exact ⟨message, rfl⟩

end ChainQuery.Abi
