import ChainQuery.Proofs.Build.Answers
import ChainQuery.Proofs.Engine.Requests
import ChainQuery.Proofs.Outcome

/-! # Spellings of a program

A program is written with a mark in front or without one, and with blanks around it
(`Query.Writes`). A query keeps the digits behind a mark (`Query.markedBytecode_of_writes`); a
capital mark stays as it is. The engine takes a query's program exactly if that is digits in pairs
behind the small mark (`Query.Canonical.sendable`, `Query.canonical_of_sendable`), and which texts
become such a program says `Query.canonical_iff`.
-/

namespace ChainQuery

namespace Query

/-- What may stand in front of the digits of a program. -/
inductive Mark where
  | bare
  | small
  | capital
deriving DecidableEq

/-- A mark as text. -/
def Mark.text : Mark → String
  | .bare => ""
  | .small => "0x"
  | .capital => "0X"

/-- A text that writes a program behind a mark, with blanks around it. -/
def Writes (mark : Mark) (program text : String) : Prop :=
  ∃ before after, Text.AllBlank before ∧ Text.AllBlank after ∧
    text.toList = before ++ (mark.text ++ program).toList ++ after

/-- A program that can be sent: hexadecimal digits in pairs behind a small mark, and not none. -/
def Canonical (bytecode : String) : Prop :=
  ∃ program, IsBare program ∧ Even program.toList.length ∧ bytecode = "0x" ++ program

/-- The mark that a query keeps. -/
def Mark.kept : Mark → String
  | .bare | .small => "0x"
  | .capital => "0X"

/-- Blanks around a program make no difference. -/
theorem markedBytecode_congr {first second : String}
    (same : Text.trim first.toList = Text.trim second.toList) :
    markedBytecode first = markedBytecode second := by
  unfold markedBytecode
  rw [same]

variable {program : String}

/-- A query keeps the digits of a program behind a mark: the mark that it was written with, or a
small one where it had none. -/
theorem markedBytecode_of_writes {mark : Mark} {text : String} (bare : IsBare program)
    (writes : Writes mark program text) : markedBytecode text = .ok (mark.kept ++ program) := by
  obtain ⟨before, after, blankBefore, blankAfter, split⟩ := writes
  have same : Text.trim text.toList = Text.trim (mark.text ++ program).toList := by
    rw [split, Text.trim_append_right _ blankAfter, Text.trim_append_left blankBefore]
  rw [markedBytecode_congr same]
  cases mark with
  | bare =>
      rw [Mark.text, String.empty_append]
      exact markedBytecode_bare bare
  | small => exact markedBytecode_marked bare
  | capital => exact markedBytecode_behind bare (Or.inr rfl)

/-- A text that is trimmed to a mark and a program is one of the ways to write the program. -/
theorem writes_of_trim {mark : Mark} {text : String}
    (trimmed : Text.trim text.toList = (mark.text ++ program).toList) :
    Writes mark program text := by
  obtain ⟨before, after, blankBefore, blankAfter, split⟩ := Text.exists_trim text.toList
  rw [trimmed] at split
  exact ⟨before, after, blankBefore, blankAfter, split⟩

/-- Only digits in pairs, bare or behind a small mark, become a program that can be sent. A capital
mark is kept as it is, and then the program is not in its canonical form. -/
theorem canonical_iff {text bytecode : String} (marked : markedBytecode text = .ok bytecode) :
    Canonical bytecode ↔ ∃ program, IsBare program ∧ Even program.toList.length ∧
      (Writes .bare program text ∨ Writes .small program text) := by
  constructor
  · rintro ⟨program, bare, pairs, rfl⟩
    refine ⟨program, bare, pairs, ?_⟩
    unfold markedBytecode at marked
    dsimp only at marked
    split at marked
    · exact nomatch marked
    · split at marked
      · right
        apply writes_of_trim
        rw [Mark.text, ← Except.ok.inj marked, String.toList_ofList]
      · left
        apply writes_of_trim
        have same : ['0', 'x'] ++ Text.trim text.toList = "0x".toList ++ program.toList := by
          rw [← String.toList_append, ← Except.ok.inj marked, String.toList_ofList]
          rfl
        rw [Mark.text, String.empty_append]
        exact List.append_cancel_left same
  · rintro ⟨program, bare, pairs, writes⟩
    refine ⟨program, bare, pairs, ?_⟩
    rcases writes with writes | writes
    · exact Except.ok.inj (marked.symm.trans (markedBytecode_of_writes bare writes))
    · exact Except.ok.inj (marked.symm.trans (markedBytecode_of_writes bare writes))

theorem Canonical.sendable {bytecode : String} (canonical : Canonical bytecode) :
    Engine.Sendable bytecode := by
  obtain ⟨program, bare, pairs, rfl⟩ := canonical
  refine ⟨program.toList, ?_, pairs, bare.hexadecimal⟩
  rw [String.toList_append]
  rfl

/-- What a query keeps is never a mark alone, since a program without digits is refused. -/
theorem ne_mark_of_markedBytecode {text bytecode : String}
    (marked : markedBytecode text = .ok bytecode) : bytecode.toList ≠ ['0', 'x'] := by
  intro alone
  unfold markedBytecode at marked
  dsimp only at marked
  split at marked
  · exact nomatch marked
  · next filled =>
      apply filled
      split at marked
      · rw [← Except.ok.inj marked, String.toList_ofList] at alone
        exact Or.inr (Or.inl alone)
      · rw [← Except.ok.inj marked, String.toList_ofList] at alone
        have behind : ['0', 'x'] ++ Text.trim text.toList = ['0', 'x'] ++ [] := alone
        exact Or.inl (List.append_cancel_left behind)

/-- For the program of a query, to be sent is to be canonical: only a small mark and pairs of digits
are sent. -/
theorem canonical_of_sendable {text bytecode : String} (marked : markedBytecode text = .ok bytecode)
    (sendable : Engine.Sendable bytecode) : Canonical bytecode := by
  obtain ⟨digits, spelled, pairs, hexadecimal⟩ := sendable
  refine ⟨String.ofList digits, ⟨?_, ?_⟩, ?_, ?_⟩
  · intro empty
    have none := congrArg String.toList empty
    rw [String.toList_ofList] at none
    rw [none] at spelled
    exact ne_mark_of_markedBytecode marked spelled
  · rwa [String.toList_ofList]
  · rwa [String.toList_ofList]
  · have mark : "0x".toList = ['0', 'x'] := rfl
    apply String.toList_inj.mp
    rw [spelled, String.toList_append, mark, String.toList_ofList]
    rfl

/-- Two spellings of one program are kept alike unless just one of them has a capital mark. -/
theorem kept_eq_iff {first second : Mark} (program : String) :
    first.kept ++ program = second.kept ++ program ↔ (first = .capital ↔ second = .capital) := by
  rw [String.append_left_inj]
  cases first <;> cases second <;> decide

end Query

end ChainQuery
