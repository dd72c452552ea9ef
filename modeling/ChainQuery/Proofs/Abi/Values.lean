import ChainQuery.Abi.Decode
import ChainQuery.Proofs.Abi.Types
import ChainQuery.Proofs.Bytes

/-! # Values that conform to a type

Which values a call can be given for a type (`Conforms`), and what becomes of a value that is
encoded and decoded again (`Value.outcome`): lists come back as tuples (`Value.decoded`), and a byte
string is refused whose length is beyond what can be counted (`Value.countable`). What becomes of a
list or a tuple is what becomes of its items (`Value.outcome_of_items`).
-/

namespace ChainQuery.Abi

open CoreArithmetic

/-- The values that a type takes: integers in range, addresses in lower case behind `0x`, as many
bytes as the type says, and lists or tuples of the right length whose items conform. -/
inductive Conforms : Ty → Value → Prop
  | uint {bits : Nat} {n : Int} : 0 ≤ n → n < 2 ^ bits → Conforms (.uint bits) (.int n)
  | int {bits : Nat} {n : Int} : -2 ^ (bits - 1) ≤ n → n < 2 ^ (bits - 1) →
      Conforms (.int bits) (.int n)
  | bool (value : Bool) : Conforms .bool (.bool value)
  | address {digits : List Char} : digits.length = 40 →
      (∀ digit ∈ digits, digit ∈ Text.lowerHexDigits) →
      Conforms .address (.text (String.ofList ('0' :: 'x' :: digits)))
  | fixedBytes {bytes : Bytes} : Conforms (.fixedBytes bytes.length) (.bytes bytes)
  | bytes (bytes : Bytes) : Conforms .bytes (.bytes bytes)
  | string (text : String) : Conforms .string (.text text)
  | array {item : Ty} {size : Option Nat} {value : Value} {items : List Value} :
      value.items? = some items → (∀ count ∈ size, items.length = count) →
      (∀ member ∈ items, Conforms item member) → Conforms (.array item size) value
  | tuple {value : Value} {members : List (Ty × Value)} :
      value.items? = some (members.map Prod.snd) →
      (∀ member ∈ members, Conforms member.1 member.2) →
      Conforms (.tuple (members.map Prod.fst)) value

/-- Values that conform to the types one by one make up a value of the tuple, given as a list or as
a tuple. -/
theorem Conforms.of_forall₂ {value : Value} {types : List Ty} {values : List Value}
    (found : value.items? = some values) (each : List.Forall₂ Conforms types values) :
    Conforms (.tuple types) value := by
  have firsts : (types.zip values).map Prod.fst = types :=
    List.map_fst_zip (Nat.le_of_eq each.length_eq)
  have seconds : (types.zip values).map Prod.snd = values :=
    List.map_snd_zip (Nat.le_of_eq each.length_eq.symm)
  have conforms : ∀ member ∈ types.zip values, Conforms member.1 member.2 :=
    fun member among => (List.forall₂_iff_zip.mp each).2 among
  have tuple := Conforms.tuple (seconds.symm ▸ found) conforms
  rwa [firsts] at tuple

namespace Value

mutual

/-- A value as it comes back from a decoded result. -/
def decoded : Value → Value
  | .list items | .tuple items => .tuple (decodedAll items)
  | value => value

/-- Several values as they come back. -/
def decodedAll : List Value → List Value
  | [] => []
  | value :: rest => value.decoded :: decodedAll rest

end

/-- Whether the length of a byte string can be counted when it has been filled up to whole words.
That of every byte string which fits into a memory of `lengthLimit` bytes can. -/
def countableBytes (bytes : Bytes) : Bool :=
  bytes.length + paddingSize bytes.length < lengthLimit

mutual

/-- Whether the length of every byte string and text in a value can be counted. -/
def countable : Value → Bool
  | .bytes content => countableBytes content
  | .text content => countableBytes content.toUTF8.toList
  | .list items | .tuple items => allCountable items
  | _ => true

/-- Whether the lengths in several values can be counted. -/
def allCountable : List Value → Bool
  | [] => true
  | value :: rest => value.countable && allCountable rest

end

/-- What becomes of a value that is encoded and decoded again. -/
def outcome (value : Value) : Except DecodeFault Value :=
  if value.countable then .ok value.decoded else .error .oversized

theorem decodedAll_eq_map (values : List Value) : decodedAll values = values.map decoded := by
  induction values with
  | nil => rfl
  | cons value rest ih => rw [decodedAll, List.map_cons, ih]

theorem outcome_of_countable {value : Value} (countable : value.countable = true) :
    value.outcome = .ok value.decoded :=
  if_pos countable

/-- Several values come back if the lengths in all of them can be counted; the first one that does
not fails for all of them. -/
theorem mapM_outcome (values : List Value) :
    values.mapM outcome =
      if allCountable values then .ok (values.map decoded) else .error .oversized := by
  induction values with
  | nil => rfl
  | cons value rest ih =>
      rw [List.mapM_cons, ih, allCountable, outcome]
      by_cases first : value.countable = true
      · by_cases others : allCountable rest = true
        · simp only [first, others, Bool.and_self, ↓reduceIte, List.map_cons]
          rfl
        · simp only [first, others, Bool.and_false, Bool.false_eq_true, ↓reduceIte]
          rfl
      · simp only [first, Bool.false_and, Bool.false_eq_true, ↓reduceIte]
        rfl

/-- A value with items is a list or a tuple of them. -/
theorem eq_of_items? {value : Value} {items : List Value} (found : value.items? = some items) :
    value = .list items ∨ value = .tuple items := by
  cases value with
  | list => exact .inl (congrArg _ (Option.some.inj found))
  | tuple => exact .inr (congrArg _ (Option.some.inj found))
  | null | bool | int | float | decimal | text | bytes => exact nomatch found

/-- Items are decoded to a tuple, whether they were given as a list or as a tuple. -/
theorem decoded_of_items {value : Value} {items : List Value} (found : value.items? = some items) :
    value.decoded = .tuple (items.map decoded) := by
  rcases eq_of_items? found with rfl | rfl
  · rw [decoded, decodedAll_eq_map]
  · rw [decoded, decodedAll_eq_map]

/-- A list or a tuple comes back as a tuple of what comes back of its items, or fails as the first
of them that does. -/
theorem outcome_of_items {value : Value} {items : List Value} (found : value.items? = some items) :
    value.outcome = (items.mapM outcome).map .tuple := by
  have countable : value.countable = allCountable items := by
    rcases eq_of_items? found with rfl | rfl
    · rw [countable]
    · rw [countable]
  rw [outcome, mapM_outcome, countable, decoded_of_items found]
  split
  · rfl
  · rfl

end Value

theorem paddingSize_lt (length : Nat) : paddingSize length < wordSize :=
  Nat.mod_lt _ (by decide)

/-- A byte string of up to `2 ^ 62` bytes is not too long to be counted together with its length and
its filling. -/
theorem Value.countableBytes_of_le {bytes : Bytes} (short : bytes.length ≤ 2 ^ 62) :
    countableBytes bytes = true := by
  have padding : paddingSize bytes.length < 32 := paddingSize_lt bytes.length
  refine decide_eq_true (?_ : bytes.length + paddingSize bytes.length < 2 ^ 63)
  omega

/-- Values that can all be counted can be counted together. -/
theorem Value.allCountable_of_forall {values : List Value}
    (each : ∀ value ∈ values, value.countable = true) : allCountable values = true := by
  induction values with
  | nil => rfl
  | cons value rest ih =>
      rw [allCountable, each value List.mem_cons_self,
        ih fun other member => each other (List.mem_cons_of_mem value member)]
      rfl

/-- A value can be counted if its items can. -/
theorem Value.countable_of_items {value : Value} {items : List Value}
    (found : value.items? = some items) (each : ∀ item ∈ items, item.countable = true) :
    value.countable = true := by
  have all := allCountable_of_forall each
  rcases eq_of_items? found with rfl | rfl
  · rwa [countable]
  · rwa [countable]

/-- No component of a static tuple is dynamic. -/
theorem isDynamic_of_mem {components : List Ty} (static : Ty.anyDynamic components = false) :
    ∀ ty ∈ components, ty.isDynamic = false := by
  induction components with
  | nil => exact fun ty member => absurd member List.not_mem_nil
  | cons first rest ih =>
      rw [Ty.anyDynamic, Bool.or_eq_false_iff] at static
      intro ty member
      rcases List.mem_cons.mp member with rfl | member
      · exact static.1
      · exact ih static.2 ty member

/-- Values of a type of fixed length hold no byte string whose length could not be counted: their
byte strings are words, and their arrays have the sizes of their types. -/
theorem Conforms.countable {ty : Ty} {value : Value} (conforms : Conforms ty value)
    (static : ty.isDynamic = false) (regular : ty.Regular) : value.countable = true := by
  induction conforms with
  | uint | int | bool => rfl
  | @address digits length _ =>
      have bound := Bytes.length_toUTF8_le (String.ofList ('0' :: 'x' :: digits))
      rw [String.toList_ofList, List.length_cons, List.length_cons, length] at bound
      exact Value.countableBytes_of_le (Nat.le_trans bound (by decide))
  | fixedBytes =>
      cases regular with
      | fixedBytes _ small => exact Value.countableBytes_of_le (Nat.le_trans small (by decide))
  | bytes | string => exact nomatch static
  | @array item size value items found _ _ ih =>
      cases regular with
      | array regular _ =>
          cases size with
          | none => exact nomatch static
          | some count =>
              refine Value.countable_of_items found fun member inside => ?_
              exact ih member inside static regular
  | @tuple value members found _ ih =>
      cases regular with
      | tuple _ regular =>
          refine Value.countable_of_items found fun item inside => ?_
          obtain ⟨member, among, rfl⟩ := List.mem_map.mp inside
          have component := List.mem_map_of_mem (f := Prod.fst) among
          exact ih member among (isDynamic_of_mem static _ component) (regular _ component)

end ChainQuery.Abi
