import ChainQuery.Proofs.Abi.Writing
import ChainQuery.Proofs.Json.Documents
import ChainQuery.Registry.Basic

/-! # The statements before a query say what the registry holds

The statement of each source stands on a line of its own before the text of a query. Cut at its
first line breaks, as many as there are sources, the whole text falls into these statements and the
text of the query, and each statement tells its source (`Registry.fullQueryText_faithful`). A
statement is read by its first seven blanks (`Source.ofStatement?`); what stands behind them is an
array of signatures, written without line breaks (`Source.newline_not_mem_written`).
-/

namespace ChainQuery

namespace Text

/-- Cut a text at the first occurrences of `mark`, as many as `count` says. -/
def cutTimes (mark : Char) : (count : Nat) → List Char → Option (List (List Char) × List Char)
  | 0, text => some ([], text)
  | count + 1, text => do
    let (piece, rest) ← cutAt mark text
    let (pieces, rest) ← cutTimes mark count rest
    return (piece :: pieces, rest)

/-- Pieces with a mark behind each of them are cut apart again. The rest may hold marks of its own,
since only as many cuts are made as there are pieces. -/
theorem cutTimes_flatMap {mark : Char} {pieces : List (List Char)}
    (free : ∀ piece ∈ pieces, mark ∉ piece) (rest : List Char) :
    cutTimes mark pieces.length (pieces.flatMap (· ++ [mark]) ++ rest) = some (pieces, rest) := by
  induction pieces with
  | nil => rfl
  | cons piece others ih =>
      have first := cutAt_append (free piece List.mem_cons_self)
        (others.flatMap (· ++ [mark]) ++ rest)
      have behind := ih fun other member => free other (List.mem_cons_of_mem piece member)
      rw [List.length_cons, List.flatMap_cons, List.append_assoc, List.append_assoc,
        List.singleton_append, cutTimes, first]
      simp only [Option.bind_eq_bind, Option.bind_some, behind]
      rfl

end Text

namespace Source

/-- A source whose statement can be read: no blanks in its name and address, and functions that the
notation of signatures can write. -/
structure Legible (source : Source) : Prop where
  name : Text.NoBlank source.name.toList
  address : Text.NoBlank source.address.toList
  interface : ∀ function ∈ source.interface, function.Readable

/-- The function that a JSON string writes. -/
def function? : Json → Option Abi.Function
  | .str text => (Abi.parseSignature text.toList).toOption
  | _ => none

/-- The functions that a JSON array of signatures writes. -/
def functions? : Json → Option (List Abi.Function)
  | .arr items => items.mapM function?
  | _ => none

/-- The source that a statement tells, read by its first seven blanks. -/
def ofStatement? (statement : List Char) : Option Source := do
  let (words, rest) ← Text.cutTimes ' ' 7 statement
  match words with
  | [register, contract, name, place, address, joint, interface] =>
    if [register, contract, place, joint, interface] =
        ["REGISTER".toList, "CONTRACT".toList, "AT".toList, "WITH".toList, "INTERFACE".toList] ∧
        rest.getLast? = some ';' then
      let written ← (Json.parse rest.dropLast).toOption
      let functions ← functions? written
      return ⟨String.ofList name, String.ofList address, functions⟩
    else none
  | _ => none

/-- The words of a statement, up to the array of signatures. -/
def openingWords (source : Source) : List (List Char) :=
  ["REGISTER".toList, "CONTRACT".toList, source.name.toList, "AT".toList, source.address.toList,
    "WITH".toList, "INTERFACE".toList]

/-- A statement starts with words that are each followed by a space, and its signatures and a
semicolon stand behind them. -/
theorem written_eq (source : Source) :
    source.written =
      source.openingWords.flatMap (· ++ [' ']) ++ (source.signatures.compact ++ [';']) := by
  have register : "REGISTER CONTRACT ".toList = "REGISTER".toList ++ [' '] ++
      ("CONTRACT".toList ++ [' ']) := by decide
  have place : " AT ".toList = [' '] ++ ("AT".toList ++ [' ']) := by decide
  have interface : " WITH INTERFACE ".toList = [' '] ++ ("WITH".toList ++ [' '] ++
      ("INTERFACE".toList ++ [' '])) := by decide
  unfold written openingWords
  rw [register, place, interface]
  simp only [List.flatMap_cons, List.flatMap_nil, List.append_assoc, List.nil_append]

theorem signatures_eq (source : Source) :
    source.signatures = .arr ((source.interface.map Abi.Function.formatted).map .str) := by
  rw [signatures, List.map_map]
  rfl

/-- A readable function is read back from its text. -/
theorem function?_formatted {function : Abi.Function} (readable : function.Readable) :
    function? (.str function.formatted) = some function := by
  rw [function?, Abi.Function.formatted, String.toList_ofList, Abi.parseSignature_written readable]
  rfl

/-- The functions that are written in an array are read back, in their order. -/
theorem functions?_formatted {functions : List Abi.Function}
    (readable : ∀ function ∈ functions, function.Readable) :
    functions? (.arr ((functions.map Abi.Function.formatted).map .str)) = some functions := by
  unfold functions?
  induction functions with
  | nil => rfl
  | cons function others ih =>
      have first := function?_formatted (readable function List.mem_cons_self)
      have behind := ih fun other member => readable other (List.mem_cons_of_mem function member)
      simp only [List.map_cons, List.mapM_cons, first, behind, Option.bind_eq_bind,
        Option.bind_some]
      rfl

variable {source : Source} (legible : source.Legible)

include legible

/-- None of the first words has blanks, so they are found again by the spaces between them. -/
theorem noBlank_of_mem_openingWords : ∀ word ∈ source.openingWords, Text.NoBlank word := by
  simp only [openingWords, List.forall_mem_cons, List.not_mem_nil, false_implies, implies_true,
    and_true, legible.name, legible.address]
  decide

/-- A statement takes one line. -/
theorem newline_not_mem_written : '\n' ∉ source.written := by
  rw [written_eq, signatures_eq]
  intro inside
  rcases List.mem_append.mp inside with inside | inside
  · obtain ⟨word, member, inside⟩ := List.mem_flatMap.mp inside
    rcases List.mem_append.mp inside with inside | inside
    · have noBlank := noBlank_of_mem_openingWords legible word member '\n' inside
      exact absurd noBlank (by decide)
    · exact absurd (List.mem_singleton.mp inside) (by decide)
  · rcases List.mem_append.mp inside with inside | inside
    · have printable := Json.printable_compact_strings _ _ inside
      exact absurd printable (by decide)
    · exact absurd (List.mem_singleton.mp inside) (by decide)

/-- The statement of a source tells the source: its name and its address between the first words,
and its functions from the array of signatures. -/
theorem ofStatement?_written : ofStatement? source.written = some source := by
  have free : ∀ word ∈ source.openingWords, ' ' ∉ word := by
    intro word member inside
    exact absurd (noBlank_of_mem_openingWords legible word member ' ' inside) (by decide)
  have cut := Text.cutTimes_flatMap free (source.signatures.compact ++ [';'])
  have json := Json.parse_compact_strings (source.interface.map Abi.Function.formatted)
  have functions := functions?_formatted legible.interface
  rw [← written_eq] at cut
  rw [← signatures_eq] at json functions
  change Text.cutTimes ' ' 7 source.written = _ at cut
  unfold ofStatement?
  simp only [cut, Option.bind_eq_bind, Option.bind_some, openingWords, true_and,
    List.getLast?_append, List.getLast?_singleton, Option.some_or, ↓reduceIte, List.dropLast_concat,
    json, Except.toOption, functions, String.ofList_toList]
  rfl

end Source

namespace Registry

/-- A registry whose statements can be read. -/
def Legible (registry : Registry) : Prop :=
  ∀ source ∈ registry.sources, source.Legible

/-- The whole text of a query has one line for each statement, and the text itself behind these
lines. -/
theorem toList_fullQueryText (registry : Registry) (text : String) :
    (registry.fullQueryText text).toList =
      registry.statements.flatMap (· ++ ['\n']) ++ text.toList := by
  rw [fullQueryText, String.toList_ofList, fullText]

section

variable {registry : Registry} (legible : registry.Legible)

include legible

/-- The whole text is cut into the statements and the text of the query, whatever lines this text
has. -/
theorem cutTimes_fullQueryText (text : String) :
    Text.cutTimes '\n' registry.size (registry.fullQueryText text).toList =
      some (registry.statements, text.toList) := by
  have free : ∀ statement ∈ registry.statements, '\n' ∉ statement := by
    intro statement member
    obtain ⟨source, registered, rfl⟩ := List.mem_map.mp member
    exact Source.newline_not_mem_written (legible source registered)
  have size : registry.size = registry.statements.length :=
    (List.length_map Source.written).symm
  rw [toList_fullQueryText, size]
  exact Text.cutTimes_flatMap free text.toList

/-- The statements tell the sources. -/
theorem ofStatement?_statements :
    registry.statements.map Source.ofStatement? = registry.sources.map some := by
  rw [statements, List.map_map]
  apply List.map_congr_left
  intro source member
  exact Source.ofStatement?_written (legible source member)

/-- The text that is handed on says what the registry and the text of the query are: it falls into
one statement for each source and the text of the query, each statement tells its source, and no two
registries of one size, with texts, give the same whole text. -/
theorem fullQueryText_faithful (text : String) :
    Text.cutTimes '\n' registry.size (registry.fullQueryText text).toList =
        some (registry.statements, text.toList) ∧
      registry.statements.map Source.ofStatement? = registry.sources.map some ∧
      ∀ other : Registry, other.Legible → other.size = registry.size → ∀ otherText,
        registry.fullQueryText text = other.fullQueryText otherText →
          registry = other ∧ text = otherText := by
  refine ⟨cutTimes_fullQueryText legible text, ofStatement?_statements legible, ?_⟩
  intro other otherLegible size otherText same
  have first := cutTimes_fullQueryText legible text
  rw [same, ← size, cutTimes_fullQueryText otherLegible otherText] at first
  obtain ⟨statements, texts⟩ := Prod.mk.inj (Option.some.inj first)
  have sources := ofStatement?_statements legible
  rw [← statements, ofStatement?_statements otherLegible] at sources
  have sameSources : other.sources = registry.sources :=
    List.map_injective_iff.mpr (Option.some_injective Source) sources
  refine ⟨?_, (String.toList_inj.mp texts).symm⟩
  cases registry
  cases other
  exact congrArg Registry.mk sameSources.symm

end

/-- One source, and a text that looks like a statement: they are told apart by the number of lines
that are cut. -/
theorem fullQueryText_faithful_lookalike :
    let registry : Registry := ⟨[⟨"c", "0x1", [⟨"f", [⟨some "a", "uint256", none⟩], [], "view"⟩]⟩]⟩
    let text := "REGISTER CONTRACT c AT 0x1 WITH INTERFACE [];\nSELECT 1;"
    Text.cutTimes '\n' 1 (registry.fullQueryText text).toList =
        some (registry.statements, text.toList) ∧
      registry.fullQueryText text ≠ fullQueryText ⟨[⟨"c", "0x1", []⟩]⟩ text := by
  have named : Abi.NameReadable (some "a") := by
    rintro word ⟨rfl⟩
    decide
  have elementary : Abi.IsElementary "uint256".toList "uint".toList "256".toList [] :=
    ⟨rfl, by decide, by decide, by decide, .nil, by decide, by decide⟩
  have readable : Abi.Function.Readable ⟨"f", [⟨some "a", "uint256", none⟩], [], "view"⟩ := by
    refine ⟨by decide, ?_, ?_, by decide⟩
    · intro param member
      obtain rfl := List.mem_singleton.mp member
      exact .elementary named elementary
    · exact fun param member => nomatch member
  have legible : Legible ⟨[⟨"c", "0x1", [⟨"f", [⟨some "a", "uint256", none⟩], [], "view"⟩]⟩]⟩ := by
    intro source member
    obtain rfl := List.mem_singleton.mp member
    refine ⟨by decide, by decide, ?_⟩
    intro function member
    obtain rfl := List.mem_singleton.mp member
    exact readable
  have otherLegible : Legible ⟨[⟨"c", "0x1", []⟩]⟩ := by
    intro source member
    obtain rfl := List.mem_singleton.mp member
    refine ⟨by decide, by decide, ?_⟩
    exact fun function member => nomatch member
  obtain ⟨cut, _, injective⟩ := fullQueryText_faithful legible
    "REGISTER CONTRACT c AT 0x1 WITH INTERFACE [];\nSELECT 1;"
  refine ⟨cut, fun same => ?_⟩
  exact absurd (injective _ otherLegible rfl _ same).1 (by decide)

end Registry

end ChainQuery
