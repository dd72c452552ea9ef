import ChainQuery.CommandLine.Output
import ChainQuery.Proofs.Engine.Untrusted
import ChainQuery.Proofs.Json.Indented

/-! # Printed results

A result is printed as an indented JSON document. A value of which no part is a decimal number has a
JSON form, and the printed document is that of the form (`CommandLine.exists_printsAs`). The form
does not say which texts were byte strings and which arrays were tuples, but the types of a shape
do: two values of one type that have the same form are the same but for lists and tuples
(`Abi.Conforms.decoded_eq`), so different results of one shape are printed as different texts
(`CommandLine.printed_lossless`).
-/

namespace ChainQuery

open CoreArithmetic

namespace Abi

namespace Value

/-- The values that results consist of; a whole number is at most as great as a word can say. -/
inductive IsResult : Value → Prop
  | bool (value : Bool) : IsResult (.bool value)
  | int {n : Int} : n.natAbs ≤ 2 ^ 256 → IsResult (.int n)
  | decimal (value : Decimal) : IsResult (.decimal value)
  | text (written : String) : IsResult (.text written)
  | bytes (content : Bytes) : IsResult (.bytes content)
  | items {value : Value} {items : List Value} : value.items? = some items →
      (∀ item ∈ items, IsResult item) → IsResult value

mutual

/-- Whether a decimal number is in a value. -/
def holdsDecimal : Value → Bool
  | .decimal _ => true
  | .list items | .tuple items => anyHoldsDecimal items
  | _ => false

/-- Whether a decimal number is in one of several values. -/
def anyHoldsDecimal : List Value → Bool
  | [] => false
  | value :: rest => value.holdsDecimal || anyHoldsDecimal rest

end

variable {value : Value} {items : List Value}

/-- A number with decimal places is held by a list or a tuple if one of the items holds it. -/
theorem holdsDecimal_of_items (found : value.items? = some items) :
    value.holdsDecimal = anyHoldsDecimal items := by
  rcases eq_of_items? found with rfl | rfl
  · rw [holdsDecimal]
  · rw [holdsDecimal]

/-- A list or a tuple has the JSON form of an array if all of its items have one. -/
theorem toJson?_of_items (found : value.items? = some items) :
    value.toJson? = (toJsons? items).map .arr := by
  rcases eq_of_items? found with rfl | rfl
  · rw [toJson?]
  · rw [toJson?]

/-- Items hold no number with decimal places if none of them does. -/
theorem anyHoldsDecimal_eq_false :
    anyHoldsDecimal items = false ↔ ∀ item ∈ items, item.holdsDecimal = false := by
  induction items with
  | nil => simp [anyHoldsDecimal]
  | cons first rest ih => simp [anyHoldsDecimal, ih]

/-- Several values have a JSON form if each of them has, and the forms are theirs in order. -/
theorem toJsons?_eq_some {jsons : List Json} : toJsons? items = some jsons ↔
    List.Forall₂ (fun item json => item.toJson? = some json) items jsons := by
  induction items generalizing jsons with
  | nil => simp [toJsons?, eq_comm]
  | cons first rest ih =>
      rw [toJsons?, List.forall₂_cons_left_iff]
      constructor
      · intro shown
        split at shown
        · next json others own behind =>
            obtain rfl := Option.some.inj shown
            exact ⟨json, others, own, ih.mp behind, rfl⟩
        · exact nomatch shown
      · rintro ⟨json, others, own, behind, rfl⟩
        rw [own, ih.mpr behind]

/-- A whole number of a word is short enough to be read. -/
theorem length_decimal_le {n : Int} (small : n.natAbs ≤ 2 ^ 256) :
    (Text.decimal n.natAbs).length ≤ Json.maxIntegerDigits := by
  have bound : n.natAbs < 10 ^ 78 := Nat.lt_of_le_of_lt small (by norm_num)
  have digits : (Text.decimal n.natAbs).length ≤ 78 :=
    (Nat.length_toDigits_le_iff (by norm_num) (by norm_num)).mpr bound
  exact Nat.le_trans digits (by decide)

/-- Several values have plain JSON forms if each of them has one. -/
theorem exists_toJsons?
    (each : ∀ item ∈ items, ∃ json, item.toJson? = some json ∧ json.Plain) :
    ∃ jsons, toJsons? items = some jsons ∧ ∀ json ∈ jsons, json.Plain := by
  induction items with
  | nil => exact ⟨[], rfl, nofun⟩
  | cons first rest ih =>
      obtain ⟨⟨json, form, plain⟩, others⟩ := List.forall_mem_cons.mp each
      obtain ⟨jsons, forms, plains⟩ := ih others
      refine ⟨json :: jsons, ?_, List.forall_mem_cons.mpr ⟨plain, plains⟩⟩
      rw [toJsons?, form, forms]

/-- A result without decimal numbers has a JSON form, which is plain. The induction is on how the
result is built. -/
theorem IsResult.exists_toJson? (result : value.IsResult) (whole : value.holdsDecimal = false) :
    ∃ json, value.toJson? = some json ∧ json.Plain := by
  induction result with
  | bool value => exact ⟨.bool value, rfl, .bool value⟩
  | @int n small => exact ⟨.int n, rfl, .int (length_decimal_le small)⟩
  | decimal value => exact nomatch whole
  | text written => exact ⟨.str written, rfl, .str written⟩
  | bytes content => exact ⟨.str content.hexText, rfl, .str _⟩
  | @items value items found _ ih =>
      rw [holdsDecimal_of_items found, anyHoldsDecimal_eq_false] at whole
      obtain ⟨jsons, forms, plains⟩ := exists_toJsons? fun item among =>
        ih item among (whole item among)
      refine ⟨.arr jsons, ?_, .arr plains⟩
      rw [toJson?_of_items found, forms, Option.map_some]

end Value

section

variable {ty : Ty} {value other : Value}

/-- A number in the range of a type is at most as great as a word can say. -/
theorem natAbs_le_of_lt {bits : Nat} {n : Int} (size : isBitSize bits = true)
    (low : -2 ^ bits ≤ n) (high : n < 2 ^ bits) : n.natAbs ≤ 2 ^ 256 := by
  simp only [isBitSize, Bool.and_eq_true, decide_eq_true_eq] at size
  have power : (2 : Int) ^ bits ≤ 2 ^ 256 := pow_le_pow_right₀ (by norm_num) size.1.2
  omega

/-- The values of a regular type are results without decimal numbers, so all of them have a JSON
form. -/
theorem Conforms.isResult (conforms : Conforms ty value) (regular : ty.Regular) :
    value.IsResult ∧ value.holdsDecimal = false := by
  induction conforms with
  | @uint bits n low high =>
      cases regular with
      | uint size =>
          have positive : (0 : Int) < 2 ^ bits := by positivity
          exact ⟨.int (natAbs_le_of_lt size (by omega) high), rfl⟩
  | @int bits n low high =>
      cases regular with
      | int size =>
          have half : (2 : Int) ^ (bits - 1) ≤ 2 ^ bits :=
            pow_le_pow_right₀ (by norm_num) (Nat.sub_le bits 1)
          exact ⟨.int (natAbs_le_of_lt size (by omega) (by omega)), rfl⟩
  | bool value => exact ⟨.bool value, rfl⟩
  | address => exact ⟨.text _, rfl⟩
  | fixedBytes => exact ⟨.bytes _, rfl⟩
  | bytes content => exact ⟨.bytes content, rfl⟩
  | string text => exact ⟨.text text, rfl⟩
  | @array item size value items found _ _ ih =>
      cases regular with
      | array regular _ =>
          refine ⟨.items found fun member among => (ih member among regular).1, ?_⟩
          rw [Value.holdsDecimal_of_items found, Value.anyHoldsDecimal_eq_false]
          exact fun member among => (ih member among regular).2
  | @tuple value members found _ ih =>
      cases regular with
      | tuple _ regular =>
          have each : ∀ item ∈ members.map Prod.snd,
              item.IsResult ∧ item.holdsDecimal = false := by
            intro item inside
            obtain ⟨member, among, rfl⟩ := List.mem_map.mp inside
            exact ih member among (regular _ (List.mem_map_of_mem among))
          refine ⟨.items found fun item inside => (each item inside).1, ?_⟩
          rw [Value.holdsDecimal_of_items found, Value.anyHoldsDecimal_eq_false]
          exact fun item inside => (each item inside).2

/-- Different byte strings have different texts. -/
theorem hexText_inj {first second : Bytes} (same : first.hexText = second.hexText) :
    first = second := by
  have digits : first.hex = second.hex := by
    have texts := congrArg String.toList same
    simpa only [Bytes.hexText, String.toList_ofList, List.cons.injEq, true_and] using texts
  have read := Bytes.ofHex?_hex first
  rw [digits, Bytes.ofHex?_hex] at read
  exact (Option.some.inj read).symm

/-- Items that have the same JSON forms are decoded to the same values if each two are. The pairs
carry the hypothesis of the induction on types. -/
theorem map_decoded_eq {items others : List Value} {jsons : List Json}
    (shown : Value.toJsons? items = some jsons) (same : Value.toJsons? others = some jsons)
    (each : ∀ pair ∈ items.zip others, ∀ json, pair.1.toJson? = some json →
      pair.2.toJson? = some json → pair.1.decoded = pair.2.decoded) :
    items.map Value.decoded = others.map Value.decoded := by
  rw [Value.toJsons?_eq_some] at shown same
  induction shown generalizing others with
  | nil =>
      cases same
      rfl
  | cons form _ ih =>
      cases same with
      | cons form' forms' =>
          obtain ⟨own, behind⟩ := List.forall_mem_cons.mp each
          rw [List.map_cons, List.map_cons, own _ form form', ih forms' behind]

/-- A value of a tuple has a value for each component, in the order of the components. -/
theorem Conforms.exists_items {types : List Ty} (conforms : Conforms (.tuple types) value) :
    ∃ items, value.items? = some items ∧ List.Forall₂ Conforms types items := by
  generalize shape : Ty.tuple types = ty at conforms
  cases conforms with
  | @tuple value members found each =>
      obtain rfl := Ty.tuple.inj shape
      refine ⟨_, found, List.forall₂_map_left_iff.mpr (List.forall₂_map_right_iff.mpr ?_)⟩
      exact List.forall₂_same.mpr each
  | uint | int | bool | address | fixedBytes | bytes | string | array => exact nomatch shape

theorem Conforms.exists_bytes {size : Nat} (conforms : Conforms (.fixedBytes size) value) :
    ∃ content, value = .bytes content := by
  cases conforms
  exact ⟨_, rfl⟩

/-- Two values of one type that have the same JSON form are decoded to the same value. The type is
needed: a byte string and the text of its digits have one JSON form. -/
theorem Conforms.decoded_eq (first : Conforms ty value) (second : Conforms ty other) {json : Json}
    (shown : value.toJson? = some json) (same : other.toJson? = some json) :
    value.decoded = other.decoded := by
  induction first generalizing other json with
  | uint | int =>
      cases second
      exact congrArg Value.int (Json.int.inj (Option.some.inj (shown.trans same.symm)))
  | bool =>
      cases second
      exact congrArg Value.bool (Json.bool.inj (Option.some.inj (shown.trans same.symm)))
  | address | string =>
      cases second
      exact congrArg Value.text (Json.str.inj (Option.some.inj (shown.trans same.symm)))
  | fixedBytes =>
      obtain ⟨content, rfl⟩ := second.exists_bytes
      have texts := Json.str.inj (Option.some.inj (shown.trans same.symm))
      exact congrArg Value.bytes (hexText_inj texts)
  | bytes content =>
      cases second
      have texts := Json.str.inj (Option.some.inj (shown.trans same.symm))
      exact congrArg Value.bytes (hexText_inj texts)
  | @array item size value items found _ _ ih =>
      cases second with
      | @array _ _ _ others foundOthers _ conform =>
          rw [Value.toJson?_of_items found] at shown
          rw [Value.toJson?_of_items foundOthers] at same
          obtain ⟨jsons, forms, rfl⟩ := Option.map_eq_some_iff.mp shown
          obtain ⟨_, forms', ⟨⟩⟩ := Option.map_eq_some_iff.mp same
          rw [Value.decoded_of_items found, Value.decoded_of_items foundOthers]
          refine congrArg Value.tuple (map_decoded_eq forms forms' fun pair among json => ?_)
          obtain ⟨inFront, behind⟩ := List.of_mem_zip among
          exact ih pair.1 inFront (conform pair.2 behind)
  | @tuple value members found _ ih =>
      obtain ⟨others, foundOthers, conform⟩ := second.exists_items
      rw [Value.toJson?_of_items found] at shown
      rw [Value.toJson?_of_items foundOthers] at same
      obtain ⟨jsons, forms, rfl⟩ := Option.map_eq_some_iff.mp shown
      obtain ⟨_, forms', ⟨⟩⟩ := Option.map_eq_some_iff.mp same
      rw [Value.decoded_of_items found, Value.decoded_of_items foundOthers]
      refine congrArg Value.tuple (map_decoded_eq forms forms' fun pair among json => ?_)
      rw [List.zip_map_left] at among
      obtain ⟨⟨member, another⟩, inside, rfl⟩ := List.mem_map.mp among
      have conforms := (List.forall₂_iff_zip.mp (List.forall₂_map_left_iff.mp conform)).2 inside
      exact ih member (List.of_mem_zip inside).1 conforms

end

end Abi

namespace CommandLine

open Abi

variable {value : Value}

/-- A value that is printed as a document of a plain JSON value. -/
structure PrintsAs (value : Value) (json : Json) : Prop where
  form : value.toJson? = some json
  plain : json.Plain
  document : ∃ text, printed value = .ok text ∧ Json.ofText text = .ok json

/-- The line that is written for the console is read back, so that only its form is changed. -/
theorem printed_of_toJson? {json : Json} (form : value.toJson? = some json) (plain : json.Plain) :
    printed value = .ok (String.ofList (json.pretty ++ ['\n'])) := by
  have line : Json.ofText json.compactText = .ok json := by
    rw [Json.ofText, Json.compactText, String.toList_ofList,
      Json.parse_compact plain.exact plain.isWritable]
  rw [printed, jsonOf, form]
  change shownDocument json.compactText = _
  rw [shownDocument, line]
  rfl

/-- An indented document is read as the value it was written for, with the line break behind it too.
-/
theorem ofText_pretty {json : Json} (plain : json.Plain) :
    Json.ofText (String.ofList (json.pretty ++ ['\n'])) = .ok json := by
  rw [Json.ofText, String.toList_ofList, Json.parse_pretty plain]

/-- A value with a plain JSON form is printed as that form. -/
theorem printsAs_of_toJson? {json : Json} (form : value.toJson? = some json) (plain : json.Plain) :
    PrintsAs value json :=
  ⟨form, plain, _, printed_of_toJson? form plain, ofText_pretty plain⟩

/-- A result without decimal numbers is printed as its JSON form. -/
theorem exists_printsAs (result : value.IsResult) (whole : value.holdsDecimal = false) :
    ∃ json, PrintsAs value json := by
  obtain ⟨json, form, plain⟩ := result.exists_toJson? whole
  exact ⟨json, printsAs_of_toJson? form plain⟩

/-- What is printed as the same text has the same JSON form. -/
theorem PrintsAs.eq_of_printed {other : Value} {json another : Json} (first : PrintsAs value json)
    (second : PrintsAs other another) (same : printed value = printed other) : json = another := by
  obtain ⟨text, written, read⟩ := first.document
  obtain ⟨text', written', read'⟩ := second.document
  obtain rfl : text = text' := Except.ok.inj (written.symm.trans (same.trans written'))
  exact Except.ok.inj (read.symm.trans read')

theorem decoded_list {types : List Ty} {values : List Value}
    (each : List.Forall₂ Returned types values) :
    (Value.list values).decoded = .tuple values :=
  (returned_tuple each).tuples

/-- The results of a shape conform to one type, and what they are decoded to tells them apart. A
single result is no tuple, so the type depends on the number of the outputs. -/
theorem exists_answerType {types : List Ty} (nonempty : types ≠ [])
    (regular : ∀ ty ∈ types, ty.Regular) :
    ∃ ty : Ty, ty.Regular ∧
      (∀ values, List.Forall₂ Returned types values → Conforms ty (Engine.answer values)) ∧
      ∀ values others, List.Forall₂ Returned types values → List.Forall₂ Returned types others →
        (Engine.answer values).decoded = (Engine.answer others).decoded →
        Engine.answer values = Engine.answer others := by
  match types, nonempty with
  | [ty], _ =>
      refine ⟨ty, regular ty List.mem_cons_self, ?_, ?_⟩
      · rintro _ (_ | ⟨own, ⟨⟩⟩)
        exact own.conforms
      · rintro _ _ (_ | ⟨own, ⟨⟩⟩) (_ | ⟨other, ⟨⟩⟩) same
        exact own.tuples.symm.trans (same.trans other.tuples)
  | first :: second :: rest, _ =>
      refine ⟨.tuple (first :: second :: rest), .tuple (List.cons_ne_nil _ _) regular, ?_, ?_⟩
      · rintro _ (_ | ⟨own, _ | ⟨next, behind⟩⟩)
        exact .of_forall₂ rfl (.cons own.conforms (.cons next.conforms
          (behind.imp fun _ _ returned => returned.conforms)))
      · rintro _ _ (_ | ⟨own, _ | ⟨next, behind⟩⟩) (_ | ⟨other, _ | ⟨another, left⟩⟩) same
        have firsts := decoded_list (.cons own (.cons next behind))
        have seconds := decoded_list (.cons other (.cons another left))
        exact congrArg Value.list (Value.tuple.inj (firsts.symm.trans (same.trans seconds)))

/-- **A printed result loses nothing.** Each result of a shape is printed as a document of its JSON
form, and two different results of one shape are printed as different texts. -/
theorem printed_lossless {params : List Param} {types : List Ty} (nonempty : params ≠ [])
    (denotes : List.Forall₂ Param.Denotes params types) :
    (∀ data value, Engine.decodeResult params data = .ok value → ∃ json, PrintsAs value json) ∧
    ∀ first second value other, Engine.decodeResult params first = .ok value →
      Engine.decodeResult params second = .ok other → value ≠ other →
      printed value ≠ printed other := by
  have filled : types ≠ [] := by
    rintro rfl
    exact nonempty (List.forall₂_nil_right_iff.mp denotes)
  obtain ⟨ty, regular, conform, apart⟩ := exists_answerType filled (regular_of_denotes denotes)
  have answers {data : Bytes} {value : Value}
      (decoded : Engine.decodeResult params data = .ok value) :
      ∃ values, value = Engine.answer values ∧ List.Forall₂ Returned types values := by
    rcases Engine.decodeResult_returned nonempty denotes data with
      ⟨values, same, each⟩ | ⟨_, failed⟩
    · exact ⟨values, Except.ok.inj (decoded.symm.trans same), each⟩
    · exact nomatch decoded.symm.trans failed
  have prints {values : List Value} (each : List.Forall₂ Returned types values) :
      ∃ json, PrintsAs (Engine.answer values) json := by
    obtain ⟨result, whole⟩ := (conform values each).isResult regular
    exact exists_printsAs result whole
  constructor
  · intro data value decoded
    obtain ⟨values, rfl, each⟩ := answers decoded
    exact prints each
  · intro first second value other decoded decodedOther different same
    obtain ⟨values, rfl, each⟩ := answers decoded
    obtain ⟨others, rfl, eachOther⟩ := answers decodedOther
    obtain ⟨json, shown⟩ := prints each
    obtain ⟨another, shownOther⟩ := prints eachOther
    obtain rfl := shown.eq_of_printed shownOther same
    apply different
    apply apart values others each eachOther
    exact (conform values each).decoded_eq (conform others eachOther) shown.form shownOther.form

/-- A byte string and an array that hold a zero, and ones that hold nothing, are printed apart. -/
theorem printed_lossless_hollow :
    let params : List Param := [⟨some "a", "bytes", none⟩, ⟨none, "uint8[]", none⟩]
    let hollow := lengthWord 64 ++ (lengthWord 96 ++ (lengthWord 0 ++ lengthWord 0))
    let value : Value := .list [.bytes [0], .tuple [.int 0]]
    let other : Value := .list [.bytes [], .tuple []]
    Engine.decodeResult params Engine.aliased = .ok value ∧
      Engine.decodeResult params hollow = .ok other ∧
      (∃ json, PrintsAs value json) ∧ (∃ json, PrintsAs other json) ∧
      printed value ≠ printed other := by
  intro params hollow value other
  have content : Param.Denotes ⟨some "a", "bytes", none⟩ .bytes :=
    @Param.Denotes.elementary _ _ _ _ [] .bytes (by decide)
  have numbers : Param.Denotes ⟨none, "uint8[]", none⟩ (.array (.uint 8) none) :=
    @Param.Denotes.elementary _ _ _ _ [none] (@WordNames.uint 8 (by decide)) (by decide)
  have denotes := List.Forall₂.cons content (.cons numbers .nil)
  have nonempty : params ≠ [] := List.cons_ne_nil _ _
  have decoded (data : Bytes) := Engine.decodeResult_eq nonempty (ofParams_of_denotes denotes) data
  have first : Engine.decodeResult params Engine.aliased = .ok value := by
    have read : decodeResults [.bytes, .array (.uint 8) none] Engine.aliased =
        .ok [.bytes [0], .tuple [.int 0]] := by
      decide +kernel
    rw [decoded, read]
    rfl
  have second : Engine.decodeResult params hollow = .ok other := by
    have read : decodeResults [.bytes, .array (.uint 8) none] hollow =
        .ok [.bytes [], .tuple []] := by
      decide +kernel
    rw [decoded, read]
    rfl
  have different : value ≠ other := by decide
  obtain ⟨prints, apart⟩ := printed_lossless nonempty denotes
  exact ⟨first, second, prints _ _ first, prints _ _ second,
    apart _ _ _ _ first second different⟩

end CommandLine

end ChainQuery
