import ChainQuery.Proofs.CommandLine.Printing
import ChainQuery.Proofs.CommandLine.Sources
import ChainQuery.Proofs.Text.Integers

/-! # Arguments as they are printed

An argument of an elementary type may be given as it is printed (`Shows`), and a whole number in
hexadecimal digits too: each of these spellings is read as the value itself (`coerce_of_spells`).
The command that runs a contract therefore does with such arguments what it does with the values
(`execute_spelled`).
-/

namespace ChainQuery.CommandLine

open Abi CoreArithmetic

/-- The values of the kind of an elementary type, in its range or not; a whole number is at most as
great as a word can say. -/
inductive OfKind : Ty → Value → Prop
  | uint {bits : Nat} {n : Int} : n.natAbs ≤ 2 ^ 256 → OfKind (.uint bits) (.int n)
  | int {bits : Nat} {n : Int} : n.natAbs ≤ 2 ^ 256 → OfKind (.int bits) (.int n)
  | bool (value : Bool) : OfKind .bool (.bool value)
  | address (written : String) : OfKind .address (.text written)
  | fixedBytes {size : Nat} (content : Bytes) : OfKind (.fixedBytes size) (.bytes content)
  | bytes (content : Bytes) : OfKind .bytes (.bytes content)
  | string (written : String) : OfKind .string (.text written)

/-- A text that is shown for a value: what the string on the printed line says, or else the line
itself. -/
inductive Shows (value : Value) (text : String) : Prop
  | content {line : String} : printed value = .ok line → Json.ofText line = .ok (.str text) →
      Shows value text
  | line : printed value = .ok (text ++ "\n") →
      (∀ content, Json.ofText (text ++ "\n") ≠ .ok (.str content)) → Shows value text

/-- The texts by which a value may be given: what is shown of it, and for a whole number its
hexadecimal digits behind `0x`, with a minus sign or without one. -/
inductive Spells : String → Value → Prop
  | shown {value : Value} {text : String} : Shows value text → Spells text value
  | hexadecimal {text : String} {n : Int} : Text.SpellsHex text.toList n → Spells text (.int n)

variable {ty : Ty} {value : Value} {word : List Char} {text : String}

/-- The values of elementary types are values that results hold, and none of them is a number with
decimal places. -/
theorem OfKind.isResult (kind : OfKind ty value) :
    value.IsResult ∧ value.holdsDecimal = false := by
  cases kind with
  | uint small => exact ⟨.int small, rfl⟩
  | int small => exact ⟨.int small, rfl⟩
  | bool value => exact ⟨.bool value, rfl⟩
  | address written => exact ⟨.text written, rfl⟩
  | fixedBytes content => exact ⟨.bytes content, rfl⟩
  | bytes content => exact ⟨.bytes content, rfl⟩
  | string written => exact ⟨.text written, rfl⟩

/-- Every value of an elementary type is shown in some way, since it is printed as a document. -/
theorem exists_shows (kind : OfKind ty value) : ∃ text, Shows value text := by
  obtain ⟨result, whole⟩ := kind.isResult
  obtain ⟨json, shown⟩ := exists_printsAs result whole
  obtain ⟨line, written, read⟩ := shown.document
  by_cases string : ∃ content, json = .str content
  · obtain ⟨content, rfl⟩ := string
    exact ⟨content, .content written read⟩
  · have same := printed_of_toJson? shown.form shown.plain
    have text : String.ofList (json.pretty ++ ['\n']) = String.ofList json.pretty ++ "\n" := by
      rw [String.ofList_append]
    rw [text] at same
    refine ⟨String.ofList json.pretty, .line same ?_⟩
    intro content quoted
    obtain rfl := Except.ok.inj (written.symm.trans same)
    exact string ⟨content, Except.ok.inj (read.symm.trans quoted)⟩

/-- What is shown of a value is the content of its JSON form if that is a string, and the form
written out if not. -/
theorem Shows.cases (shows : Shows value text) {json : Json} (shown : PrintsAs value json) :
    json = .str text ∨ ((∀ content, json ≠ .str content) ∧ text.toList = json.pretty) := by
  obtain ⟨line, written, read⟩ := shown.document
  cases shows with
  | content same quoted =>
      obtain rfl := Except.ok.inj (written.symm.trans same)
      exact .inl (Except.ok.inj (read.symm.trans quoted))
  | line same other =>
      obtain rfl := Except.ok.inj (written.symm.trans same)
      refine .inr ⟨fun content string => other content (string ▸ read), ?_⟩
      have texts := congrArg String.toList
        (Except.ok.inj ((printed_of_toJson? shown.form shown.plain).symm.trans same))
      rw [String.toList_ofList, String.toList_append] at texts
      exact (List.append_cancel_right texts).symm

/-- What is shown of a whole number is its digits, with a sign in front of those of a negative one.
-/
theorem toList_of_shows_int {n : Int} (small : n.natAbs ≤ 2 ^ 256) (shows : Shows (.int n) text) :
    text.toList = Json.integer n := by
  have shown : PrintsAs (.int n) (.int n) :=
    printsAs_of_toJson? rfl (.int (Value.length_decimal_le small))
  rcases shows.cases shown with string | ⟨_, written⟩
  · exact nomatch string
  · exact written

/-- What is shown of a truth value is its word in small letters. -/
theorem toList_of_shows_bool {flag : Bool} (shows : Shows (.bool flag) text) :
    text.toList = (Json.bool flag).pretty := by
  have shown : PrintsAs (.bool flag) (.bool flag) := printsAs_of_toJson? rfl (.bool flag)
  rcases shows.cases shown with string | ⟨_, written⟩
  · exact nomatch string
  · exact written

/-- What is shown of a value whose JSON form is a string is what the string says. -/
theorem eq_of_shows {content : String} (form : value.toJson? = some (.str content))
    (shows : Shows value text) : text = content := by
  rcases shows.cases (printsAs_of_toJson? form (.str content)) with string | ⟨other, _⟩
  · exact (Json.str.inj string).symm
  · exact absurd rfl (other content)

theorem isPairGap_eq_false {c : Char} (digit : Text.isHexDigit c = true) : isPairGap c = false := by
  have known : ∀ n < 128, Text.isHexDigit (Char.ofNat n) = true →
      isPairGap (Char.ofNat n) = false := by
    decide
  rw [← Char.ofNat_toNat c] at digit ⊢
  exact known _ (by simpa only [Char.ofNat_toNat] using Text.toNat_lt_of_isHexDigit digit) digit

/-- Digits without gaps are read as pairs of digits are. Gaps may stand between pairs, which digits
in a row do not have. -/
theorem spacedHex?_of_ofHex? {digits : List Char} {content : Bytes}
    (read : Bytes.ofHex? digits = some content) : spacedHex? digits = some content := by
  fun_induction Bytes.ofHex? digits generalizing content with
  | case1 => exact read
  | case2 high low rest ih =>
      simp only [Option.bind_eq_bind, Option.bind_eq_some_iff] at read
      obtain ⟨first, firstRead, second, secondRead, others, rest, same⟩ := read
      have solid : isPairGap high = false := by
        have digit : Text.isHexDigit high = true := Option.isSome_iff_exists.mpr ⟨first, firstRead⟩
        exact isPairGap_eq_false digit
      simp only [spacedHex?, solid, Bool.false_eq_true, ↓reduceIte, firstRead, secondRead,
        ih rest, Option.bind_eq_bind, Option.bind_some]
      exact same
  | case3 single => cases read

theorem bytesOf?_hexText (content : Bytes) : bytesOf? content.hexText.toList = some content := by
  rw [Bytes.hexText, String.toList_ofList, bytesOf?]
  exact spacedHex?_of_ofHex? (Bytes.ofHex?_hex content)

/-- The word of an elementary type has no brackets. -/
theorem bracket_not_mem (names : WordNames word ty) : '[' ∉ word := by
  have sized (base : List Char) (size : Nat) (letters : '[' ∉ base) :
      '[' ∉ base ++ Text.decimal size := by
    rw [List.mem_append, not_or]
    refine ⟨letters, fun inside => ?_⟩
    exact absurd (Text.digit_of_mem_decimal inside).2 (by decide)
  cases names with
  | uint => exact sized "uint".toList _ (by decide)
  | int => exact sized "int".toList _ (by decide)
  | fixedBytes => exact sized "bytes".toList _ (by decide)
  | bool => decide
  | address => decide
  | bytes => decide
  | string => decide

/-- What is read for a parameter of an elementary type is its value. A word with brackets would be
the type of an array, which takes no text. -/
theorem coerce_eq_ok (names : WordNames word ty) (name : Option String)
    (components : Option (List Param)) (read : valueOf? (String.ofList word) text = some value) :
    coerce ⟨name, String.ofList word, components⟩ text = .ok value := by
  have flat : word.contains '[' = false := by
    rw [List.contains_eq_mem, decide_eq_false (bracket_not_mem names)]
  have scalar : startsWith (String.ofList word) "tuple" = false := by
    simp only [startsWith, String.toList_ofList]
    cases names <;> rfl
  simp only [coerce, String.toList_ofList, flat, scalar, Bool.or_self, Bool.false_eq_true,
    ↓reduceIte, read]

/-- How a text is read depends on the kind of the values only: a whole number, a truth value, a byte
string or a text. No size or range is looked at here. -/
theorem valueOf?_of_kind (names : WordNames word ty) (kind : OfKind ty value) :
    valueOf? (String.ofList word) text = match value with
      | .int _ => (Text.integer? text.toList).map .int
      | .bool _ => (truthOf? text.toList).map .bool
      | .bytes _ => (bytesOf? text.toList).map .bytes
      | _ => some (.text text) := by
  cases names with
  | uint =>
      cases kind
      have known (digits : List Char) :
          startsWith (String.ofList ("uint".toList ++ digits)) "uint" = true := by
        simp only [startsWith, String.toList_ofList]
        rfl
      rw [valueOf?, known, Bool.true_or, if_pos rfl]
  | int =>
      cases kind
      have known (digits : List Char) :
          startsWith (String.ofList ("int".toList ++ digits)) "int" = true := by
        simp only [startsWith, String.toList_ofList]
        rfl
      rw [valueOf?, known, Bool.or_true, if_pos rfl]
  | bool =>
      cases kind
      rfl
  | address =>
      cases kind
      rfl
  | fixedBytes =>
      cases kind
      have known (digits : List Char) :
          startsWith (String.ofList ("bytes".toList ++ digits)) "uint" = false ∧
          startsWith (String.ofList ("bytes".toList ++ digits)) "int" = false ∧
          startsWith (String.ofList ("bytes".toList ++ digits)) "bytes" = true ∧
          String.ofList ("bytes".toList ++ digits) ≠ "bool" := by
        refine ⟨?_, ?_, ?_, fun same => ?_⟩
        · simp only [startsWith, String.toList_ofList]
          rfl
        · simp only [startsWith, String.toList_ofList]
          rfl
        · simp only [startsWith, String.toList_ofList]
          rfl
        · have letters := congrArg String.toList same
          simp only [String.toList_ofList] at letters
          exact nomatch letters
      obtain ⟨unsigned, signed, bytes, other⟩ := known (Text.decimal _)
      rw [valueOf?, unsigned, signed, bytes, if_neg other]
      rfl
  | bytes =>
      cases kind
      rfl
  | string =>
      cases kind
      rfl

/-- Every spelling of a value of an elementary type is read as the value, in the range of the type
or not. -/
theorem coerce_of_spells (names : WordNames word ty) (kind : OfKind ty value)
    (spells : Spells text value) (name : Option String) (components : Option (List Param)) :
    coerce ⟨name, String.ofList word, components⟩ text = .ok value := by
  apply coerce_eq_ok names
  rw [valueOf?_of_kind names kind]
  cases spells with
  | hexadecimal spells =>
      change (Text.integer? text.toList).map Value.int = _
      rw [spells.integer?_eq, Option.map_some]
  | shown shows =>
      cases kind with
      | uint small | int small =>
          change (Text.integer? text.toList).map Value.int = _
          rw [toList_of_shows_int small shows,
            Text.integer?_integer (Value.length_decimal_le small),
            Option.map_some]
      | bool flag =>
          have known : ∀ flag, truthOf? (Json.bool flag).pretty = some flag := by decide
          change (truthOf? text.toList).map Value.bool = _
          rw [toList_of_shows_bool shows, known flag, Option.map_some]
      | address written | string written =>
          obtain rfl := eq_of_shows rfl shows
          rfl
      | fixedBytes content | bytes content =>
          obtain rfl := eq_of_shows rfl shows
          change (bytesOf? content.hexText.toList).map Value.bytes = _
          rw [bytesOf?_hexText, Option.map_some]

/-- The words that give arguments. -/
def argumentWords (texts : List String) : List String :=
  texts.flatMap fun text => ["--arg", text]

/-- Arguments in front of other options. -/
def giving (texts : List String) (given : List Given) : List Given :=
  texts.map (fun text => ⟨"arg", [text]⟩) ++ given

/-- An argument on the command line takes the word behind it, whatever this word looks like. -/
theorem takeOption_argument (text : String) (words : List String) :
    takeOption solidityOptions "--arg".toList (text :: words) = .ok ([⟨"arg", [text]⟩], 1) := by
  have name : splitEquals "--arg".toList = ("--arg".toList, none) := by decide
  have spec : solidityOptions.find? (·.long.toList == "--arg".toList) =
      some ⟨"arg", "--arg", some 'a', 1⟩ := by
    rfl
  have enough : ¬ (text :: words).length < 1 := Nat.not_lt.mpr (Nat.succ_pos _)
  simp only [takeOption, name, spec, takeValues, Option.map_none, Option.toList_none,
    List.nil_append, if_neg enough]
  rfl

/-- An argument in front of other words adds its text to what these give. -/
theorem takeOptions_argument (text : String) (words : List String) :
    takeOptions solidityOptions true ("--arg" :: text :: words) =
      (takeOptions solidityOptions true words).map (Prod.map (giving [text]) id) := by
  rw [takeOptions, if_neg (by decide), if_pos (by decide), takeOption_argument]
  rfl

/-- Arguments in front of other words add their texts in order. -/
theorem takeOptions_argumentWords (texts words : List String) :
    takeOptions solidityOptions true (argumentWords texts ++ words) =
      (takeOptions solidityOptions true words).map (Prod.map (giving texts) id) := by
  induction texts with
  | nil => exact (congrFun Except.map_id _).symm
  | cons text rest ih =>
      change takeOptions solidityOptions true ("--arg" :: text :: (argumentWords rest ++ words)) = _
      rw [takeOptions_argument, ih]
      cases takeOptions solidityOptions true words with
      | error fault => rfl
      | ok taken => rfl

/-- Arguments may stand behind positional words too, as these words are passed over when the options
are taken. -/
theorem takeOptions_behind {front : List String}
    (positional : ∀ word ∈ front, isOptionWord word.toList = false) (texts words : List String) :
    takeOptions solidityOptions true (front ++ (argumentWords texts ++ words)) =
      (takeOptions solidityOptions true (front ++ words)).map (Prod.map (giving texts) id) := by
  induction front with
  | nil => exact takeOptions_argumentWords texts words
  | cons word rest ih =>
      obtain ⟨own, others⟩ := List.forall_mem_cons.mp positional
      have step (behind : List String) : takeOptions solidityOptions true (word :: behind) =
          (takeOptions solidityOptions true behind).map
            fun taken => (taken.1, word :: taken.2) := by
        have ends : word ≠ "--" := by
          rintro rfl
          exact nomatch own
        rw [takeOptions, if_neg ends, if_neg (by simp [own]), if_pos rfl]
        rfl
      rw [List.cons_append, List.cons_append, step, step, ih others]
      cases takeOptions solidityOptions true (rest ++ words) with
      | error fault => rfl
      | ok taken => rfl

variable (texts : List String) (given : List Given)

/-- Arguments leave the values of every other option as they are. -/
theorem valuesOf_giving {name : String} (other : name ≠ "arg") :
    valuesOf (giving texts given) name = valuesOf given name := by
  have skipped : (texts.map fun text => Given.mk "arg" [text]).filter (·.name == name) = [] := by
    rw [List.filter_eq_nil_iff]
    intro option among
    obtain ⟨text, _, rfl⟩ := List.mem_map.mp among
    exact fun same => other (beq_iff_eq.mp same).symm
  rw [valuesOf, giving, List.filter_append, skipped, List.nil_append, valuesOf]

/-- The texts of arguments stand in front of those that were given before, each in its own option.
-/
theorem valuesOf_giving_arg :
    valuesOf (giving texts given) "arg" =
      texts.map (fun text => [text]) ++ valuesOf given "arg" := by
  have kept : (texts.map fun text => Given.mk "arg" [text]).filter (·.name == "arg") =
      texts.map fun text => Given.mk "arg" [text] := by
    rw [List.filter_eq_self]
    intro option among
    obtain ⟨text, _, rfl⟩ := List.mem_map.mp among
    rfl
  rw [valuesOf, giving, List.filter_append, kept, List.map_append, List.map_map, valuesOf]
  rfl

theorem lastValue?_giving {name : String} (other : name ≠ "arg") :
    lastValue? (giving texts given) name = lastValue? given name := by
  rw [lastValue?, valuesOf_giving texts given other, lastValue?]

/-- Arguments do not ask for help. -/
theorem hasFlag_giving : hasFlag (giving texts given) "help" = hasFlag given "help" := by
  have none : (texts.map fun text => Given.mk "arg" [text]).any (·.name == "help") = false := by
    rw [List.any_eq_false]
    intro option among
    obtain ⟨text, _, rfl⟩ := List.mem_map.mp among
    exact Bool.false_ne_true
  rw [hasFlag, giving, List.any_append, none, Bool.false_or, hasFlag]

theorem connectionOf_giving (surroundings : Surroundings) :
    connectionOf surroundings (giving texts given) = connectionOf surroundings given := by
  have last {name : String} (other : name ≠ "arg") := lastValue?_giving texts given other
  simp only [connectionOf, versionOf, urlOf, last (show "engine-version" ≠ "arg" by decide),
    last (show "rpc-url" ≠ "arg" by decide), last (show "network" ≠ "arg" by decide),
    last (show "contract-address" ≠ "arg" by decide)]

theorem kindOf_giving : kindOf (giving texts given) = kindOf given := by
  rw [kindOf, lastValue?_giving texts given (by decide), kindOf]

variable {surroundings : Surroundings} {words front : List String} {path function : String}
  {kind : Option Artifact.Kind} {connection : Connection} {arguments : List String}

/-- Words that give arguments put them in front of the arguments of the other words, and change
nothing else of the command. -/
theorem solidityOfWords_behind {texts : List String}
    (positional : ∀ word ∈ front, isOptionWord word.toList = false)
    (read : solidityOfWords surroundings (front ++ words) =
      .ok (.solidity path arguments function kind connection)) :
    solidityOfWords surroundings (front ++ (argumentWords texts ++ words)) =
      .ok (.solidity path (texts ++ arguments) function kind connection) := by
  unfold solidityOfWords at read ⊢
  rw [takeOptions_behind positional]
  cases took : takeOptions solidityOptions true (front ++ words) with
  | error fault =>
      rw [took] at read
      cases read
  | ok taken =>
      have flattened : (texts.map fun text => [text]).flatten = texts := by
        rw [← List.flatMap_def, List.flatMap_singleton']
      obtain ⟨given, others⟩ := taken
      rw [took] at read
      simp only [Except.map, Prod.map, id, ok_bind, hasFlag_giving, connectionOf_giving,
        kindOf_giving, valuesOf_giving_arg, List.flatten_append, flattened,
        lastValue?_giving texts given (show "function" ≠ "arg" by decide)] at read ⊢
      split at read
      · cases read
      · next asked =>
          obtain ⟨_, connected, read⟩ := bind_eq_ok.mp read
          obtain ⟨_, chosen, read⟩ := bind_eq_ok.mp read
          rw [if_neg asked, connected, ok_bind, chosen, ok_bind]
          cases others with
          | nil => cases read
          | cons first more =>
              simp only at read ⊢
              split at read
              · cases read
              · split at read
                · cases read
                · next found single =>
                    cases read
                    rw [if_neg found, if_neg single]
                    rfl

/-- A command line that runs a contract, with arguments behind its positional words: these arguments
stand in front of the others, and nothing else changes. -/
theorem ofWords_behind (texts : List String)
    (positional : ∀ word ∈ front, isOptionWord word.toList = false)
    (read : Invocation.ofWords surroundings ("sol" :: (front ++ words)) =
      .ok (.solidity path arguments function kind connection)) :
    Invocation.ofWords surroundings ("sol" :: (front ++ (argumentWords texts ++ words))) =
      .ok (.solidity path (texts ++ arguments) function kind connection) := by
  have command (words : List String) : Invocation.ofWords surroundings ("sol" :: words) =
      solidityOfWords surroundings words := by
    rw [Invocation.ofWords, takeOptions, if_neg (by decide), if_neg (by decide), if_neg (by decide)]
    rfl
  rw [command] at read ⊢
  exact solidityOfWords_behind positional read

/-- A parameter, a value for it and a text. -/
structure Argument where
  param : Param
  value : Value
  text : String

/-- A value of the kind of an elementary parameter, with one of its spellings. -/
inductive Argument.Fits : Argument → Prop
  | elementary {name : Option String} {components : Option (List Param)} {word : List Char}
      {ty : Ty} {value : Value} {text : String} : WordNames word ty → OfKind ty value →
      Spells text value → Fits ⟨⟨name, String.ofList word, components⟩, value, text⟩

theorem Argument.Fits.coerce_eq {argument : Argument} (fits : argument.Fits) :
    coerce argument.param argument.text = .ok argument.value := by
  cases fits with
  | elementary names kind spells => exact coerce_of_spells names kind spells _ _

/-- Texts that fit are coerced to their values, one for each parameter, and none of them is in the
way of another. -/
theorem coerceAll_of_fits {arguments : List Argument}
    (fits : ∀ argument ∈ arguments, argument.Fits) :
    coerceAll (arguments.map (·.param)) (arguments.map (·.text)) =
      .ok (arguments.map (·.value)) := by
  induction arguments with
  | nil => rfl
  | cons argument rest ih =>
      obtain ⟨own, others⟩ := List.forall_mem_cons.mp fits
      rw [List.map_cons, List.map_cons, coerceAll, own.coerce_eq, ih others]
      rfl

section

variable [Address.CaseRule]

/-- Build the query of a file in a session of its own and run it with values. -/
def fetchSolidity (services : Collaborators) (surroundings : Surroundings) (path function : String)
    (kind : Option Artifact.Kind) (connection : Connection) (values : List Value) : Run Value := do
  let session ← openSession surroundings connection
  let query ← Build.fromSolidity services ((surroundings.text? path).getD "") kind function
  Engine.fetch services session.engine query values

/-- A run of a contract with texts that fit is one with their values. The texts are coerced only
once the query has been built, so its parameters have to be those of the arguments. -/
theorem runSolidity_of_fits (services : Collaborators) {arguments : List Argument}
    (fits : ∀ argument ∈ arguments, argument.Fits)
    (takes : ∀ query, (Build.fromSolidity services ((surroundings.text? path).getD "") kind
      function).outcome = .ok query → query.inputs = arguments.map (·.param)) :
    runSolidity services surroundings path (arguments.map (·.text)) function kind connection = (do
      let value ← fetchSolidity services surroundings path function kind connection
        (arguments.map (·.value))
      printed value) := by
  simp only [fetchSolidity, Run.bind_assoc]
  unfold runSolidity
  refine congrArg (openSession surroundings connection >>= ·) (funext fun session => ?_)
  apply Run.bind_congr
  intro query built
  have inputs := takes query built
  have count : ¬ (arguments.map (·.text)).length ≠ query.inputs.length := by
    rw [inputs, List.length_map, List.length_map]
    exact not_not_intro rfl
  rw [if_neg count, inputs, coerceAll_of_fits fits]
  rfl

/-- **What is printed can be given as an argument.** Something is shown of every value of an
elementary type, and each of its spellings is read as the value. A command line that runs a contract
with such spellings, of which the words may be any, does what a run with the values does; and words
that give them may stand behind the path of the contract or in front of it. -/
theorem execute_spelled (services : Collaborators) (surroundings : Surroundings) :
    (∀ word ty value, WordNames word ty → OfKind ty value → (∃ text, Shows value text) ∧
      ∀ text, Spells text value → ∀ name components,
        coerce ⟨name, String.ofList word, components⟩ text = .ok value) ∧
    ∀ (arguments : List Argument) (path function : String) (kind : Option Artifact.Kind)
      (connection : Connection), (∀ argument ∈ arguments, argument.Fits) →
      (∀ query, (Build.fromSolidity services ((surroundings.text? path).getD "") kind
        function).outcome = .ok query → query.inputs = arguments.map (·.param)) →
      (∀ words, Invocation.ofWords surroundings words =
          .ok (.solidity path (arguments.map (·.text)) function kind connection) →
        let run := fetchSolidity services surroundings path function kind connection
          (arguments.map (·.value))
        (execute services surroundings words).events = run.events ∧
          (execute services surroundings words).outcome =
            (run.outcome >>= printed).mapError Refusal.ofFailure) ∧
      ∀ front words, (∀ word ∈ front, isOptionWord word.toList = false) →
        Invocation.ofWords surroundings ("sol" :: (front ++ words)) =
          .ok (.solidity path [] function kind connection) →
        Invocation.ofWords surroundings
            ("sol" :: (front ++ (argumentWords (arguments.map (·.text)) ++ words))) =
          .ok (.solidity path (arguments.map (·.text)) function kind connection) := by
  refine ⟨fun word ty value names kind => ⟨exists_shows kind, fun text spells name components =>
    coerce_of_spells names kind spells name components⟩, ?_⟩
  intro arguments path function kind connection fits takes
  constructor
  · intro words read run
    have same : (Invocation.solidity path (arguments.map (·.text)) function kind connection).run
        services surroundings = ⟨run.events, run.outcome >>= printed⟩ :=
      (runSolidity_of_fits services fits takes).trans (Run.bind_liftM_eq run printed)
    simp only [execute, read, same, and_self]
  · intro front words positional read
    have behind := ofWords_behind (arguments.map (·.text)) positional read
    rwa [List.append_nil] at behind

end

/-- A negative number in capitals and two bytes, behind the path of an artifact, are sent like the
values themselves. -/
theorem execute_spelled_mixed :
    let _ : Address.CaseRule := ⟨false⟩
    let inputs := "\"inputs\":[\x7b\"name\":\"\",\"type\":\"int8\"\x7d," ++
      "\x7b\"name\":\"\",\"type\":\"bytes2\"\x7d]"
    let artifact := "\x7b\"abi\":[\x7b\"type\":\"function\",\"name\":\"query\"," ++ inputs ++
      "\x7d],\"bytecode\":\x7b\"object\":\"0x00\"\x7d\x7d"
    let services : Collaborators :=
      ⟨fun _ => .ok "", fun _ => .ok (.obj []), fun _ _ => .ok []⟩
    let surroundings : Surroundings := ⟨[], [("q.json", artifact)]⟩
    let connection : Connection := ⟨defaultUrl, "mainnet", 1, none⟩
    let words := ["sol", "q.json", "--arg", "-0x2A", "--arg", "0xbeef"]
    Invocation.ofWords surroundings words =
        .ok (.solidity "q.json" ["-0x2A", "0xbeef"] "query" none connection) ∧
      (execute services surroundings words).events =
        (fetchSolidity services surroundings "q.json" "query" none connection
          [.int (-42), .bytes [0xBE, 0xEF]]).events := by
  intro _ inputs artifact services surroundings connection words
  let arguments : List Argument := [⟨⟨none, "int8", none⟩, .int (-42), "-0x2A"⟩,
    ⟨⟨none, "bytes2", none⟩, .bytes [0xBE, 0xEF], "0xbeef"⟩]
  have number : Argument.Fits ⟨⟨none, "int8", none⟩, .int (-42), "-0x2A"⟩ := by
    have spells : Text.SpellsHex "-0x2A".toList (-42) :=
      @Text.SpellsHex.minus ['2', 'A'] [2, 10] (by decide) (by decide)
    exact .elementary (@WordNames.int 8 (by decide)) (.int (by decide)) (.hexadecimal spells)
  have content : Argument.Fits ⟨⟨none, "bytes2", none⟩, .bytes [0xBE, 0xEF], "0xbeef"⟩ := by
    have written : printed (.bytes [0xBE, 0xEF]) = .ok "\"0xbeef\"\n" :=
      eq_ok_of_toOption (by decide +kernel)
    have read : Json.ofText "\"0xbeef\"\n" = .ok (.str "0xbeef") :=
      eq_ok_of_toOption (by decide +kernel)
    exact .elementary (@WordNames.fixedBytes 2 (by decide) (by decide)) (.fixedBytes _)
      (.shown (.content written read))
  have fits : ∀ argument ∈ arguments, argument.Fits :=
    List.forall_mem_cons.mpr ⟨number, List.forall_mem_singleton.mpr content⟩
  have takes : ∀ query, (Build.fromSolidity services ((surroundings.text? "q.json").getD "") none
      "query").outcome = .ok query → query.inputs = arguments.map (·.param) := by
    have known : (Build.fromSolidity services ((surroundings.text? "q.json").getD "") none
        "query").outcome = .ok ⟨"0x00", [], arguments.map (·.param)⟩ :=
      eq_ok_of_toOption (by decide +kernel)
    intro query built
    rw [known] at built
    exact congrArg Query.inputs (Except.ok.inj built).symm
  have plain : Invocation.ofWords surroundings ("sol" :: (["q.json"] ++ [])) =
      .ok (.solidity "q.json" [] "query" none connection) :=
    eq_ok_of_toOption (by decide +kernel)
  obtain ⟨_, commands⟩ := execute_spelled services surroundings
  obtain ⟨runs, reads⟩ := commands arguments "q.json" "query" none connection fits takes
  have read := reads ["q.json"] [] (by decide) plain
  exact ⟨read, (runs words read).1⟩

end ChainQuery.CommandLine
