import ChainQuery.Proofs.Abi.Untrusted
import ChainQuery.Proofs.Engine.Results

/-! # Results of untrusted bytes

A node may answer with any bytes. Whatever they are, decoding them for a shape gives one value for
each of its parameters, each of the parameter's type, or fails (`Engine.decodeResult_returned`).
-/

namespace ChainQuery.Engine

open Abi

/-- **Any bytes are decoded to values of the shape or not at all.** The values are a bare one where
the shape has one parameter and a list where it has several. -/
theorem decodeResult_returned {params : List Param} {types : List Ty} (nonempty : params ≠ [])
    (denotes : List.Forall₂ Param.Denotes params types) (data : Bytes) :
    (∃ values, decodeResult params data = .ok (answer values) ∧
        List.Forall₂ Returned types values) ∨
      ∃ fault, decodeResult params data = .error (.decoding fault) := by
  rw [decodeResult_eq nonempty (ofParams_of_denotes denotes)]
  cases read : decodeResults types data with
  | error fault => exact Or.inr ⟨fault, rfl⟩
  | ok values =>
      have returned := decodeResults_returned (regular_of_denotes denotes) read
      exact Or.inl ⟨values, rfl, returned⟩

/-- Two offsets that lead to one place, where a byte string and an array are read. -/
def aliased : Bytes :=
  lengthWord 64 ++ (lengthWord 64 ++ (lengthWord 1 ++ lengthWord 0))

/-- Data that no encoder writes bring values that conform all the same: both offsets lead to the
same two words. -/
theorem decodeResult_returned_aliased :
    ∃ values, List.Forall₂ Returned [.bytes, .array (.uint 8) none] values ∧
      decodeResult [⟨some "a", "bytes", none⟩, ⟨none, "uint8[]", none⟩] aliased =
        .ok (answer values) ∧
      answer values = .list [.bytes [0], .tuple [.int 0]] := by
  have content : Param.Denotes ⟨some "a", "bytes", none⟩ .bytes :=
    @Param.Denotes.elementary _ _ _ _ [] .bytes (by decide)
  have numbers : Param.Denotes ⟨none, "uint8[]", none⟩ (.array (.uint 8) none) :=
    @Param.Denotes.elementary _ _ _ _ [none] (@WordNames.uint 8 (by decide)) (by decide)
  have denotes := List.Forall₂.cons content (.cons numbers .nil)
  have read : decodeResults [.bytes, .array (.uint 8) none] aliased =
      .ok [.bytes [0], .tuple [.int 0]] := by
    decide +kernel
  have decoded := decodeResult_eq (List.cons_ne_nil _ _) (ofParams_of_denotes denotes) aliased
  rw [read] at decoded
  rcases decodeResult_returned (List.cons_ne_nil _ _) denotes aliased with found | failed
  · obtain ⟨values, same, returned⟩ := found
    exact ⟨values, returned, same, Except.ok.inj (same.symm.trans decoded)⟩
  · obtain ⟨fault, failed⟩ := failed
    exact nomatch decoded.symm.trans failed

end ChainQuery.Engine
