import ChainQuery.Engine
import ChainQuery.Proofs.Abi.Layout

/-! # Results undo arguments

Values that are encoded for a shape and decoded for it again come back
(`Engine.decodeResult_encodeArguments`): a bare value where the shape has one parameter and a list
of values where it has several, with tuples for the lists inside them. Nothing but the types of the
parameters matters.
-/

namespace ChainQuery

open Abi CoreArithmetic

/-- Arguments that conform to regular types are carried by bytes. -/
theorem Abi.exists_carries_arguments [Address.CaseRule] {types : List Ty} {values : List Value}
    (nonempty : types ≠ []) (regular : ∀ ty ∈ types, ty.Regular)
    (conforms : List.Forall₂ Conforms types values) :
    ∃ data, Carries (.tuple types) (.list values) data := by
  have pairs : Conforms (.tuple types) (.list values) := .of_forall₂ rfl conforms
  exact exists_carries pairs (.tuple nonempty regular)

namespace Engine

/-- The answer that values make: a bare value, or a list of several. -/
def answer : List Value → Value
  | [value] => value
  | values => .list values

theorem requireOutputs_eq_ok {params : List Param} (nonempty : params ≠ []) :
    requireOutputs params = .ok () := by
  refine if_neg ?_
  rw [List.isEmpty_iff]
  exact nonempty

/-- A result is decoded for the types of the outputs, and a single value stands for itself; several
values are a list. -/
theorem decodeResult_eq {params : List Param} {types : List Ty} (nonempty : params ≠ [])
    (found : Ty.ofParams params = .ok types) (data : Bytes) :
    decodeResult params data =
      ((decodeResults types data).mapError .decoding).map answer := by
  have known : typesOf params = .ok types := by
    rw [typesOf, found]
    rfl
  unfold decodeResult
  rw [requireOutputs_eq_ok nonempty, known]
  dsimp only [bind, Except.bind]
  cases decodeResults types data with
  | error fault => rfl
  | ok values =>
      match values with
      | [] => rfl
      | [value] => rfl
      | first :: second :: rest => rfl

/-- Decoding undoes encoding. For each shape that is not empty and for all values that conform to
it there are encoded arguments. When these are shorter than what an offset can reach, they are
decoded to the values, unless the length of a byte string among these cannot be counted; that of
each can when the encoded arguments are shorter than what a machine can count. -/
theorem decodeResult_encodeArguments [Address.CaseRule] {params : List Param} {types : List Ty}
    {values : List Value} (nonempty : params ≠ []) (denotes : List.Forall₂ Param.Denotes params types)
    (conforms : List.Forall₂ Conforms types values) :
    ∃ data, encodeArguments params values = .ok data ∧
      (data.length < 2 ^ 256 → decodeResult params data =
        if Value.allCountable values then .ok (answer (values.map Value.decoded))
        else .error (.decoding .oversized)) ∧
      (data.length < lengthLimit → Value.allCountable values = true) := by
  have found := ofParams_of_denotes denotes
  have filled : types ≠ [] := by
    rintro rfl
    exact nonempty (List.forall₂_nil_right_iff.mp denotes)
  obtain ⟨data, carries⟩ :=
    exists_carries_arguments filled (regular_of_denotes denotes) conforms
  refine ⟨data, ?_, fun small => ?_, fun short => ?_⟩
  · rw [encodeArguments, typesOf, found]
    change (encode (.tuple types) (.list values)).mapError _ = _
    rw [carries.encoded]
    rfl
  · have stands : StandsAt data 0 data := List.prefix_refl data
    obtain ⟨next, decoded, _⟩ := carries.decoded small stands
    rw [decodeResult_eq nonempty found, decodeResults, decoded,
      @Value.outcome_of_items (.list values) values rfl, Value.mapM_outcome]
    split
    · rfl
    · rfl
  · have countable := carries.short short
    rwa [Value.countable] at countable

/-- An array of pairs of numbers and a tuple with a byte string are encoded and come back as tuples.
-/
theorem decodeResult_encodeArguments_nested :
    let _ : Address.CaseRule := ⟨false⟩
    ∃ data, encodeArguments [⟨some "a", "uint8[2][]", none⟩,
          ⟨none, "tuple", some [⟨some "b", "bytes", none⟩, ⟨none, "bytes3", none⟩]⟩]
        [.list [.list [.int 1, .int 2]], .list [.bytes [7], .bytes [1, 2, 3]]] = .ok data ∧
      decodeResult [⟨some "a", "uint8[2][]", none⟩,
          ⟨none, "tuple", some [⟨some "b", "bytes", none⟩, ⟨none, "bytes3", none⟩]⟩] data =
        .ok (.list [.tuple [.tuple [.int 1, .int 2]], .tuple [.bytes [7], .bytes [1, 2, 3]]]) := by
  intro _
  have pairs : Param.Denotes ⟨some "a", "uint8[2][]", none⟩
      (.array (.array (.uint 8) (some 2)) none) :=
    @Param.Denotes.elementary _ _ _ _ [some 2, none] (@WordNames.uint 8 (by decide)) (by decide)
  have content : Param.Denotes ⟨some "b", "bytes", none⟩ .bytes :=
    @Param.Denotes.elementary _ _ _ _ [] .bytes (by decide)
  have three : Param.Denotes ⟨none, "bytes3", none⟩ (.fixedBytes 3) :=
    @Param.Denotes.elementary _ _ _ _ [] (@WordNames.fixedBytes 3 (by decide) (by decide))
      (by decide)
  have tuple : Param.Denotes
      ⟨none, "tuple", some [⟨some "b", "bytes", none⟩, ⟨none, "bytes3", none⟩]⟩
      (.tuple [.bytes, .fixedBytes 3]) := by
    refine @Param.Denotes.tuple _ [(_, .bytes), (_, .fixedBytes 3)] [] (List.cons_ne_nil _ _) ?_
      (by decide)
    exact List.forall_mem_cons.mpr ⟨content, List.forall_mem_cons.mpr ⟨three, nofun⟩⟩
  have two : ∀ n ∈ [(1 : Int), 2], Conforms (.uint 8) (.int n) := by
    have range : ∀ n ∈ [(1 : Int), 2], 0 ≤ n ∧ n < 2 ^ 8 := by decide
    exact fun n member => .uint (range n member).1 (range n member).2
  have first : Conforms (.array (.array (.uint 8) (some 2)) none)
      (.list [.list [.int 1, .int 2]]) := by
    refine .array rfl nofun (List.forall_mem_cons.mpr ⟨.array rfl ?_ ?_, nofun⟩)
    · rintro count ⟨rfl⟩
      rfl
    · exact List.forall_mem_cons.mpr ⟨two 1 (by decide),
        List.forall_mem_cons.mpr ⟨two 2 (by decide), nofun⟩⟩
  have second : Conforms (.tuple [.bytes, .fixedBytes 3]) (.list [.bytes [7], .bytes [1, 2, 3]]) := by
    refine @Conforms.tuple _ [(.bytes, _), (.fixedBytes 3, _)] rfl ?_
    exact List.forall_mem_cons.mpr ⟨.bytes [7],
      List.forall_mem_cons.mpr ⟨@Conforms.fixedBytes [1, 2, 3], nofun⟩⟩
  have denotes := List.Forall₂.cons pairs (.cons tuple .nil)
  obtain ⟨data, encoded, decoded, _⟩ := decodeResult_encodeArguments (List.cons_ne_nil _ _)
    denotes (.cons first (.cons second .nil))
  have length : (Abi.encodeArguments
      [.array (.array (.uint 8) (some 2)) none, .tuple [.bytes, .fixedBytes 3]]
      [.list [.list [.int 1, .int 2]], .list [.bytes [7], .bytes [1, 2, 3]]]).map List.length =
        .ok 288 := by
    decide +kernel
  refine ⟨data, encoded, ?_⟩
  rw [encodeArguments, typesOf, ofParams_of_denotes denotes] at encoded
  dsimp only [Except.mapError, bind, Except.bind] at encoded
  generalize Abi.encodeArguments _ _ = result at length encoded
  cases result with
  | error fault => exact nomatch length
  | ok bytes =>
      obtain rfl := Except.ok.inj encoded
      have small : bytes.length < 2 ^ 256 := by
        rw [Except.ok.inj length]
        decide
      exact decoded small

end Engine

end ChainQuery
