import ChainQuery.Proofs.Abi.Values
import ChainQuery.Proofs.Outcome

/-! # What untrusted bytes decode to

Bytes that are decoded may come from anywhere: they may end early, their padding may be dirty, their
offsets may lead to the same place or out of the data, and their lengths may be absurd. Whatever is
decoded for a regular type from such bytes is a value that the type takes (`decode_returned`). Each
range is that of the bytes which a number is read from, and each length is the one that the type
asks for, so nothing has to be known about the places that the offsets lead to.
-/

namespace ChainQuery.Abi

open CoreArithmetic

/-- A value of a type as results hold it: the items of arrays and tuples are tuples. -/
structure Returned (ty : Ty) (value : Value) : Prop where
  conforms : Conforms ty value
  tuples : value.decoded = value

/-- As many bytes are read as were asked for, or none: a reading past the end of the data fails. -/
theorem length_of_bytesAt {data found : Bytes} {place count : Nat}
    (read : bytesAt data place count = .ok found) : found.length = count := by
  unfold bytesAt at read
  dsimp only at read
  split at read
  · next enough =>
      obtain rfl := Except.ok.inj read
      exact enough
  · exact nomatch read

/-- A word that is read has the size of a word. -/
theorem length_of_wordAt {data word : Bytes} {place : Nat} (read : wordAt data place = .ok word) :
    word.length = wordSize :=
  length_of_bytesAt read

/-- A check of the padding returns the value it was given, whatever the padding is. -/
theorem eq_of_checkPadding {α : Type} {padding : Bytes} {filler : UInt8} {value result : α}
    (checked : checkPadding padding filler value = .ok result) : value = result := by
  unfold checkPadding at checked
  split at checked
  · exact Except.ok.inj checked
  · exact nomatch checked

theorem length_splitWord {word : Bytes} {count : Nat} (length : word.length = wordSize)
    (small : count ≤ wordSize) : (splitWord word count).2.length = count := by
  rw [splitWord, List.length_drop, length]
  omega

/-- The bytes that stand for a number write one that is small enough, as there are only as many of
them as the type has. -/
theorem toNat_splitWord_lt {word : Bytes} {bits : Nat} (size : isBitSize bits = true)
    (length : word.length = wordSize) : Bytes.toNat (splitWord word (bits / 8)).2 < 2 ^ bits := by
  simp only [isBitSize, Bool.and_eq_true, decide_eq_true_eq, beq_iff_eq] at size
  have small : bits / 8 ≤ wordSize := by
    change bits / 8 ≤ 32
    omega
  have whole : 256 ^ (bits / 8) = 2 ^ bits := by
    have parts : bits = 8 * (bits / 8) := by omega
    conv_rhs => rw [parts, Nat.pow_mul]
  have below := Bytes.toNat_lt (splitWord word (bits / 8)).2
  rwa [length_splitWord length small, whole] at below

/-- A number that is read from a word is in the range of its type: what stands above the range is
padding, and this is checked. -/
theorem unsignedOf_range {word : Bytes} {bits : Nat} {n : Int} (size : isBitSize bits = true)
    (length : word.length = wordSize) (read : unsignedOf bits word = .ok n) :
    0 ≤ n ∧ n < 2 ^ bits := by
  obtain rfl := eq_of_checkPadding read
  exact ⟨Int.natCast_nonneg _, by exact_mod_cast toNat_splitWord_lt size length⟩

/-- A number with a sign is read from its own bytes alone: the greater half of what they write
stands for the negative numbers. -/
theorem signedOf_range {word : Bytes} {bits : Nat} {n : Int} (size : isBitSize bits = true)
    (length : word.length = wordSize) (read : signedOf bits word = .ok n) :
    -2 ^ (bits - 1) ≤ n ∧ n < 2 ^ (bits - 1) := by
  have below := toNat_splitWord_lt size length
  have double : 2 ^ bits = 2 * 2 ^ (bits - 1) := by
    simp only [isBitSize, Bool.and_eq_true, decide_eq_true_eq] at size
    rw [← Nat.pow_succ']
    congr 1
    omega
  have half : (2 : Int) ^ bits = 2 * ((2 ^ (bits - 1) : Nat) : Int) := by exact_mod_cast double
  have cast : ((2 ^ (bits - 1) : Nat) : Int) = 2 ^ (bits - 1) := by push_cast; rfl
  unfold signedOf at read
  rw [← cast]
  dsimp only at read
  split at read
  · obtain rfl := eq_of_checkPadding read
    omega
  · obtain rfl := eq_of_checkPadding read
    omega

/-- Twenty bytes of any content are an address as results hold it. -/
theorem addressText_conforms {bytes : Bytes} (length : bytes.length = 20) :
    Conforms .address (.text bytes.hexText) := by
  refine .address ?_ fun digit inside => Bytes.lower_of_mem_hex inside
  rw [Bytes.length_hex, length]

/-- What is decoded for an elementary type is a value of it, whatever bytes it is decoded from: the
padding of a word is checked, and what remains is in the range of the type. -/
theorem decodeScalar_returned {ty : Ty} (regular : ty.Regular) {data : Bytes} {place : Nat}
    {value : Value} (read : decodeScalar data place ty = .ok value) : Returned ty value := by
  cases regular with
  | uint size =>
      obtain ⟨word, found, rest⟩ := bind_eq_ok.mp read
      obtain ⟨n, number, same⟩ := bind_eq_ok.mp rest
      obtain rfl := Except.ok.inj same
      obtain ⟨nonneg, small⟩ := unsignedOf_range size (length_of_wordAt found) number
      exact ⟨.uint nonneg small, rfl⟩
  | int size =>
      obtain ⟨word, found, rest⟩ := bind_eq_ok.mp read
      obtain ⟨n, number, same⟩ := bind_eq_ok.mp rest
      obtain rfl := Except.ok.inj same
      obtain ⟨large, small⟩ := signedOf_range size (length_of_wordAt found) number
      exact ⟨.int large small, rfl⟩
  | bool =>
      obtain ⟨word, _, rest⟩ := bind_eq_ok.mp read
      obtain ⟨truth, _, same⟩ := bind_eq_ok.mp rest
      obtain rfl := Except.ok.inj same
      exact ⟨.bool truth, rfl⟩
  | address =>
      obtain ⟨word, found, checked⟩ := bind_eq_ok.mp read
      obtain rfl := eq_of_checkPadding checked
      have length := length_splitWord (length_of_wordAt found) (by decide : 20 ≤ wordSize)
      exact ⟨addressText_conforms length, rfl⟩
  | @fixedBytes size filled small =>
      obtain ⟨word, found, checked⟩ := bind_eq_ok.mp read
      obtain rfl := eq_of_checkPadding checked
      have length : (word.take size).length = size := by
        rw [List.length_take, length_of_wordAt found]
        exact Nat.min_eq_left small
      have conforms := @Conforms.fixedBytes (word.take size)
      rw [length] at conforms
      exact ⟨conforms, rfl⟩
  | bytes =>
      obtain ⟨content, _, same⟩ := bind_eq_ok.mp read
      obtain rfl := Except.ok.inj same
      exact ⟨.bytes content, rfl⟩
  | string =>
      obtain ⟨content, _, rest⟩ := bind_eq_ok.mp read
      obtain ⟨text, _, same⟩ := bind_eq_ok.mp rest
      obtain rfl := Except.ok.inj same
      exact ⟨.string text, rfl⟩
  | array => exact nomatch read
  | tuple => exact nomatch read

/-- Whatever a decoder of items gives, it has a property. -/
def Yields (property : Value → Prop) (decodeItem : Nat → Except DecodeFault (Value × Nat)) : Prop :=
  ∀ {place : Nat} {value : Value} {next : Nat},
    decodeItem place = .ok (value, next) → property value

variable {data : Bytes}

/-- Where each item has a property, so have all items of a run, and there are as many as were
counted. The induction is on the count. -/
theorem decodeRun_yields {property : Value → Prop}
    {decodeItem : Nat → Except DecodeFault (Value × Nat)} (each : Yields property decodeItem)
    {count place next : Nat} {items : List Value}
    (read : decodeRun decodeItem count place = .ok (items, next)) :
    items.length = count ∧ ∀ value ∈ items, property value := by
  induction count generalizing place items next with
  | zero =>
      obtain ⟨rfl, rfl⟩ := Prod.mk.inj (Except.ok.inj read)
      exact ⟨rfl, fun value among => absurd among List.not_mem_nil⟩
  | succ count ih =>
      obtain ⟨⟨first, behind⟩, found, rest⟩ := bind_eq_ok.mp read
      obtain ⟨⟨others, final⟩, left, same⟩ := bind_eq_ok.mp rest
      obtain ⟨rfl, rfl⟩ := Prod.mk.inj (Except.ok.inj same)
      obtain ⟨length, hold⟩ := ih left
      exact ⟨congrArg (· + 1) length, List.forall_mem_cons.mpr ⟨each found, hold⟩⟩

/-- A run of offsets has as many targets as there are items. -/
theorem length_of_offsetRun {start headsEnd count place : Nat} {targets : List Nat}
    (read : offsetRun data start headsEnd count place = .ok targets) :
    targets.length = count := by
  induction count generalizing place targets with
  | zero =>
      obtain rfl := Except.ok.inj read
      rfl
  | succ count ih =>
      obtain ⟨target, _, rest⟩ := bind_eq_ok.mp read
      obtain ⟨others, left, same⟩ := bind_eq_ok.mp rest
      obtain rfl := Except.ok.inj same
      exact congrArg (· + 1) (ih left)

/-- The items of an array are as many as its count says, wherever its offsets lead. Nothing is
assumed of the places to which these lead. -/
theorem decodeItems_yields {property : Value → Prop} {isTail : Bool}
    {decodeItem : Nat → Except DecodeFault (Value × Nat)} (each : Yields property decodeItem)
    {count start next : Nat} {items : List Value}
    (read : decodeItems data isTail decodeItem count start = .ok (items, next)) :
    items.length = count ∧ ∀ value ∈ items, property value := by
  unfold decodeItems at read
  split at read
  · obtain ⟨targets, led, rest⟩ := bind_eq_ok.mp read
    obtain ⟨values, found, same⟩ := bind_eq_ok.mp rest
    obtain ⟨rfl, rfl⟩ := Prod.mk.inj (Except.ok.inj same)
    have pairs := mapM_eq_ok.mp found
    refine ⟨pairs.length_eq.symm.trans (length_of_offsetRun led), ?_⟩
    intro value among
    obtain ⟨target, _, done⟩ := exists_of_mem_mapM found value among
    obtain ⟨⟨result, behind⟩, decoded, same⟩ := bind_eq_ok.mp done
    obtain rfl := Except.ok.inj same
    exact each decoded
  · exact decodeRun_yields each read

/-- An array is decoded to a tuple of its items, as many as its size says, or as its first word says
where it has no size. -/
theorem exists_items_of_decode {property : Value → Prop} {item : Ty} {size : Option Nat}
    (each : Yields property (decode data item)) {place next : Nat} {value : Value}
    (read : decode data (.array item size) place = .ok (value, next)) :
    ∃ items, value = .tuple items ∧ (∀ count ∈ size, items.length = count) ∧
      ∀ member ∈ items, property member := by
  cases size with
  | some count =>
      rw [decode] at read
      obtain ⟨⟨items, final⟩, found, same⟩ := bind_eq_ok.mp read
      obtain ⟨rfl, _⟩ := Prod.mk.inj (Except.ok.inj same)
      obtain ⟨length, hold⟩ := decodeItems_yields each found
      refine ⟨items, rfl, ?_, hold⟩
      rintro _ ⟨⟩
      exact length
  | none =>
      rw [decode] at read
      obtain ⟨count, _, rest⟩ := bind_eq_ok.mp read
      obtain ⟨⟨items, final⟩, found, same⟩ := bind_eq_ok.mp rest
      obtain ⟨rfl, _⟩ := Prod.mk.inj (Except.ok.inj same)
      exact ⟨items, rfl, nofun, (decodeItems_yields each found).2⟩

section

variable {Allowed : Ty → Value → Prop}

/-- Slots of which each one that holds a value holds one that its type allows. -/
def SlotsAllowed (Allowed : Ty → Value → Prop) (types : List Ty) (slots : List Slot) : Prop :=
  List.Forall₂ (fun ty slot => ∀ value, slot = .value value → Allowed ty value) types slots

/-- What is decoded for each of several types is allowed there. -/
def AllYield (Allowed : Ty → Value → Prop) (data : Bytes) (types : List Ty) : Prop :=
  ∀ ty ∈ types, Yields (Allowed ty) (decode data ty)

/-- Each type has one head: the value itself where the type has a fixed length, and an offset where
it has not. -/
theorem decodeHeads_allowed {types : List Ty} (each : AllYield Allowed data types)
    {start headsEnd place next : Nat} {slots : List Slot}
    (read : decodeHeads data start headsEnd types place = .ok (slots, next)) :
    SlotsAllowed Allowed types slots := by
  induction types generalizing place slots next with
  | nil =>
      obtain ⟨rfl, rfl⟩ := Prod.mk.inj (Except.ok.inj read)
      exact .nil
  | cons ty types ih =>
      have others : AllYield Allowed data types := fun other among => each other (.tail ty among)
      rw [decodeHeads] at read
      split at read
      · obtain ⟨target, _, rest⟩ := bind_eq_ok.mp read
        obtain ⟨⟨slots, final⟩, left, same⟩ := bind_eq_ok.mp rest
        obtain ⟨rfl, rfl⟩ := Prod.mk.inj (Except.ok.inj same)
        exact .cons nofun (ih others left)
      · obtain ⟨⟨value, behind⟩, found, rest⟩ := bind_eq_ok.mp read
        obtain ⟨⟨slots, final⟩, left, same⟩ := bind_eq_ok.mp rest
        obtain ⟨rfl, rfl⟩ := Prod.mk.inj (Except.ok.inj same)
        refine .cons ?_ (ih others left)
        rintro _ ⟨⟩
        exact each ty (.head types) found

/-- Each type has one member, in its head or behind the offset there, so the members of a tuple
belong to their types one by one. -/
theorem decodeTails_allowed {types : List Ty} {slots : List Slot}
    (each : AllYield Allowed data types) (heads : SlotsAllowed Allowed types slots)
    {values : List Value} (read : decodeTails data types slots = .ok values) :
    List.Forall₂ Allowed types values := by
  induction heads generalizing values with
  | nil =>
      obtain rfl := Except.ok.inj read
      exact .nil
  | @cons ty slot types slots head _ ih =>
      have others : AllYield Allowed data types := fun other among => each other (.tail ty among)
      cases slot with
      | value inPlace =>
          obtain ⟨value, found, rest⟩ := bind_eq_ok.mp read
          obtain ⟨values, left, same⟩ := bind_eq_ok.mp rest
          obtain rfl := Except.ok.inj same
          obtain rfl := Except.ok.inj found
          exact .cons (head _ rfl) (ih others left)
      | place target =>
          obtain ⟨value, found, rest⟩ := bind_eq_ok.mp read
          obtain ⟨values, left, same⟩ := bind_eq_ok.mp rest
          obtain rfl := Except.ok.inj same
          obtain ⟨⟨result, behind⟩, decoded, rfl⟩ := map_eq_ok.mp found
          exact .cons (each ty (.head types) decoded) (ih others left)

/-- The members of a tuple are what its types allow if what is decoded for these is. -/
theorem exists_members_of_decode {types : List Ty} (each : AllYield Allowed data types)
    {place next : Nat} {value : Value}
    (read : decode data (.tuple types) place = .ok (value, next)) :
    ∃ values, value = .tuple values ∧ List.Forall₂ Allowed types values := by
  rw [decode] at read
  obtain ⟨⟨slots, final⟩, heads, rest⟩ := bind_eq_ok.mp read
  obtain ⟨values, tails, same⟩ := bind_eq_ok.mp rest
  obtain ⟨rfl, _⟩ := Prod.mk.inj (Except.ok.inj same)
  exact ⟨values, rfl, decodeTails_allowed each (decodeHeads_allowed each heads) tails⟩

/-- A result has one value for each of its types. -/
theorem decodeResults_allowed {types : List Ty} (each : AllYield Allowed data types)
    {values : List Value} (read : decodeResults types data = .ok values) :
    List.Forall₂ Allowed types values := by
  obtain ⟨⟨value, next⟩, decoded, same⟩ := bind_eq_ok.mp read
  obtain ⟨members, rfl, all⟩ := exists_members_of_decode each decoded
  obtain rfl := Except.ok.inj same
  exact all

end

theorem decoded_of_all {items : List Value} (each : ∀ value ∈ items, value.decoded = value) :
    (Value.tuple items).decoded = .tuple items := by
  rw [Value.decoded, Value.decodedAll_eq_map]
  congr 1
  conv_rhs => rw [← List.map_id items]
  exact List.map_congr_left each

/-- Items that were returned make an array that is returned, if there are as many as the type says.
-/
theorem returned_array {item : Ty} {size : Option Nat} {items : List Value}
    (sized : ∀ count ∈ size, items.length = count) (each : ∀ value ∈ items, Returned item value) :
    Returned (.array item size) (.tuple items) where
  conforms := .array rfl sized fun value among => (each value among).conforms
  tuples := decoded_of_all fun value among => (each value among).tuples

/-- Members that were returned for their types make a tuple that is returned. -/
theorem returned_tuple {types : List Ty} {values : List Value}
    (each : List.Forall₂ Returned types values) : Returned (.tuple types) (.tuple values) where
  conforms := .of_forall₂ rfl (each.imp fun _ _ returned => returned.conforms)
  tuples := by
    apply decoded_of_all
    induction each with
    | nil => exact fun value among => absurd among List.not_mem_nil
    | cons first _ ih => exact List.forall_mem_cons.mpr ⟨first.tuples, ih⟩

/-- Whatever a word says, the value that is read from it for an elementary type is one that results
hold for this type. -/
theorem returned_of_scalar {ty : Ty} (regular : ty.Regular) {place next : Nat} {value : Value}
    (read : (do return (← decodeScalar data place ty, place + wordSize)) = .ok (value, next)) :
    Returned ty value := by
  obtain ⟨result, found, same⟩ := bind_eq_ok.mp read
  obtain ⟨rfl, _⟩ := Prod.mk.inj (Except.ok.inj same)
  exact decodeScalar_returned regular found

/-- **What is decoded for a regular type is a value of it**, whatever bytes it is decoded from. The
induction is on the type; an offset that leads anywhere is met by the statement about all places. -/
theorem decode_returned {ty : Ty} (regular : ty.Regular) :
    Yields (Returned ty) (decode data ty) := by
  intro place value next read
  induction regular generalizing place value next with
  | uint size => exact returned_of_scalar (.uint size) read
  | int size => exact returned_of_scalar (.int size) read
  | bool => exact returned_of_scalar .bool read
  | address => exact returned_of_scalar .address read
  | fixedBytes filled small => exact returned_of_scalar (.fixedBytes filled small) read
  | bytes => exact returned_of_scalar .bytes read
  | string => exact returned_of_scalar .string read
  | array _ _ ih =>
      obtain ⟨items, rfl, sized, each⟩ := exists_items_of_decode ih read
      exact returned_array sized each
  | tuple _ _ ih =>
      obtain ⟨values, rfl, each⟩ := exists_members_of_decode ih read
      exact returned_tuple each

/-- A result has one value of each of its types. -/
theorem decodeResults_returned {types : List Ty} (regular : ∀ ty ∈ types, ty.Regular)
    {values : List Value} (read : decodeResults types data = .ok values) :
    List.Forall₂ Returned types values :=
  decodeResults_allowed (fun ty among => decode_returned (regular ty among)) read

end ChainQuery.Abi
