import ChainQuery.Build
import ChainQuery.Proofs.Json.Paths
import ChainQuery.Proofs.Run
import ChainQuery.Proofs.Text.Cutting

/-! # Programs in the answers of a compiler

A bare program is a text of hexadecimal digits. A query holds it with a mark in front, whether it
came with that mark or without (`Query.make_bare`, `Query.make_marked`). An answer without
diagnostics passes the check for them (`Build.checkDiagnostics_of_clean`), and a program in its
place becomes the query (`Build.outcome_ofProgram`).
-/

namespace ChainQuery

namespace Query

/-- A program in hexadecimal digits without a mark in front. -/
structure IsBare (program : String) : Prop where
  filled : program ≠ ""
  hexadecimal : ∀ digit ∈ program.toList, Text.isHexDigit digit = true

variable {program : String} (bare : IsBare program)

include bare

theorem IsBare.noBlank : Text.NoBlank program.toList :=
  fun digit member => Text.isBlank_eq_false (by decide) (bare.hexadecimal digit member)

/-- A bare program has no `0x` in front of it. -/
theorem IsBare.not_hasHexMark : hasHexMark program.toList = false := by
  have digits := bare.hexadecimal
  unfold hasHexMark
  split
  · next rest marked =>
      rw [marked] at digits
      exact absurd (digits 'x' (.tail _ (.head _))) (by decide)
  · next rest marked =>
      rw [marked] at digits
      exact absurd (digits 'X' (.tail _ (.head _))) (by decide)
  · rfl

/-- A bare program is put behind `0x`. -/
theorem markedBytecode_bare : markedBytecode program = .ok ("0x" ++ program) := by
  have filled : ¬ (program.toList = [] ∨ program.toList = ['0', 'x'] ∨
      program.toList = ['0', 'X']) := by
    have unmarked := bare.not_hasHexMark
    rintro (empty | mark | mark)
    · exact bare.filled (String.toList_eq_nil_iff.mp empty)
    · rw [mark] at unmarked
      exact nomatch unmarked
    · rw [mark] at unmarked
      exact nomatch unmarked
  unfold markedBytecode
  dsimp only
  rw [Text.trim_of_noBlank bare.noBlank, if_neg filled, bare.not_hasHexMark]
  change Except.ok (String.ofList (['0', 'x'] ++ program.toList)) = _
  rw [String.ofList_append, String.ofList_toList]

/-- A program with a mark in front stays as it is, whichever of the two marks it has. -/
theorem markedBytecode_behind {mark : String} (known : mark = "0x" ∨ mark = "0X") :
    markedBytecode (mark ++ program) = .ok (mark ++ program) := by
  obtain ⟨digit, rest, digits⟩ := List.exists_cons_of_ne_nil
    (mt String.toList_eq_nil_iff.mp bare.filled)
  obtain ⟨letter, spelled, solid, isMark⟩ : ∃ letter, mark.toList = ['0', letter] ∧
      Text.isBlank letter = false ∧ hasHexMark ('0' :: letter :: digit :: rest) = true := by
    rcases known with rfl | rfl
    · exact ⟨'x', rfl, by decide, rfl⟩
    · exact ⟨'X', rfl, by decide, rfl⟩
  have whole : (mark ++ program).toList = '0' :: letter :: digit :: rest := by
    rw [String.toList_append, digits, spelled]
    rfl
  have noBlank : Text.NoBlank ('0' :: letter :: digit :: rest) := by
    have inside := bare.noBlank
    rw [digits] at inside
    exact List.forall_mem_cons.mpr ⟨by decide, List.forall_mem_cons.mpr ⟨solid, inside⟩⟩
  unfold markedBytecode
  dsimp only
  rw [whole, Text.trim_of_noBlank noBlank, if_neg (by simp), if_pos isMark, ← whole,
    String.ofList_toList]

theorem markedBytecode_marked : markedBytecode ("0x" ++ program) = .ok ("0x" ++ program) :=
  markedBytecode_behind bare (Or.inl rfl)

/-- A query is built of a bare program, which it holds behind `0x`. -/
theorem make_bare (outputs inputs : List Abi.Param) :
    make (.str program) outputs inputs = .ok ⟨"0x" ++ program, outputs, inputs⟩ := by
  have read : bytecodeOf (.str program) = .ok ("0x" ++ program) := markedBytecode_bare bare
  rw [make, read]
  rfl

/-- A query is built of a program behind `0x` as well, and is the same one. -/
theorem make_marked (outputs inputs : List Abi.Param) :
    make (.str ("0x" ++ program)) outputs inputs = .ok ⟨"0x" ++ program, outputs, inputs⟩ := by
  have read : bytecodeOf (.str ("0x" ++ program)) = .ok ("0x" ++ program) :=
    markedBytecode_marked bare
  rw [make, read]
  rfl

end Query

namespace Build

/-- An answer in which nothing is reported. -/
def Clean (answer : Json) : Prop :=
  ∀ reported ∈ answer.get? "errors", reported.isTruthy = false

/-- Diagnostics without an error let an answer pass. -/
theorem checkDiagnostics_obj {members : Json.Members} (clean : Clean (.obj members)) :
    checkDiagnostics (.obj members) = pure () := by
  have silent : ((Json.Members.get? members "errors").getD .null).isTruthy = false := by
    cases reported : Json.Members.get? members "errors" with
    | none => rfl
    | some value => exact clean value reported
  unfold checkDiagnostics
  change (if ((Json.Members.get? members "errors").getD .null).isTruthy = true then _ else _) = _
  rw [silent]
  rfl

/-- A clean answer in which something is found is an object, and passes. -/
theorem checkDiagnostics_of_clean {answer : Json} {key : String} {found : Json}
    (clean : Clean answer) (has : answer.get? key = some found) :
    checkDiagnostics answer = pure () := by
  obtain ⟨members, rfl, _⟩ := Json.exists_members_of_get? has
  exact checkDiagnostics_obj clean

theorem memberOr_eq {value found : Json} {key : String} (has : value.get? key = some found) :
    memberOr value key = .ok found := by
  rw [memberOr, Json.member_eq has]
  rfl

/-- The path to the program in the answer to a request for a program. -/
def programPath : List String :=
  ["contracts", "query.yul", "Query", "evm", "bytecode", "object"]

/-- The program of a query text is found on its path through the contracts. Each object on the path
is there, and no default is taken in its place. -/
theorem programIn_eq {contracts program : Json}
    (leads : contracts.at? ["query.yul", "Query", "evm", "bytecode", "object"] = some program)
    (present : program.isTruthy = true) : programIn contracts = .ok (some program) := by
  obtain ⟨file, hasFile, leads⟩ := Json.at?_cons_eq_some.mp leads
  have presentFile := Json.isTruthy_of_at? leads
  obtain ⟨object, hasObject, leads⟩ := Json.at?_cons_eq_some.mp leads
  have presentObject := Json.isTruthy_of_at? leads
  obtain ⟨evm, hasEvm, leads⟩ := Json.at?_cons_eq_some.mp leads
  obtain ⟨bytecode, hasBytecode, leads⟩ := Json.at?_cons_eq_some.mp leads
  obtain ⟨_, hasProgram, ⟨⟩⟩ := Json.at?_cons_eq_some.mp leads
  unfold programIn
  rw [yulFile, yulObject, Json.memberOrEmpty_eq hasFile presentFile]
  change (file.memberOrEmpty "Query" >>= _) = _
  rw [Json.memberOrEmpty_eq hasObject presentObject]
  change (memberOr object "evm" >>= _) = _
  rw [memberOr_eq hasEvm]
  change (memberOr evm "bytecode" >>= _) = _
  rw [memberOr_eq hasBytecode]
  change (bytecode.member "object" >>= _) = _
  rw [Json.member_eq hasProgram]
  change Except.ok (if program.isTruthy = true then some program else none) = _
  rw [if_pos present]

/-- A bare program in its place becomes the query, with the outputs that were declared for it. -/
theorem outcome_ofProgram {answer : Json} {program : String} (bare : Query.IsBare program)
    (leads : answer.at? programPath = some (.str program)) (registry : Registry)
    (outputs : List Abi.Param) :
    (ofProgram registry outputs answer).outcome = .ok ⟨"0x" ++ program, outputs, []⟩ := by
  obtain ⟨contracts, hasContracts, leads⟩ := Json.at?_cons_eq_some.mp leads
  have present : (Json.str program).isTruthy = true := bne_iff_ne.mpr bare.filled
  unfold ofProgram
  rw [Json.memberOrEmpty_eq hasContracts (Json.isTruthy_of_at? leads), Run.liftM_ok_bind,
    programIn_eq leads present, Run.liftM_ok_bind]
  change (liftM (Query.make (.str program) outputs []).orInvalid : Run Query).outcome = _
  rw [Query.make_bare bare]
  rfl

end Build

end ChainQuery
