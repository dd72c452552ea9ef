import ChainQuery.Proofs.Json.Floats
import ChainQuery.Proofs.Outcome

/-! # What is read is read back

Every value that is read from a document can be written, and its own text determines it
(`regular_of_parse`). So reading a document, writing the value on one line and reading that gives
the value again, whatever the document looked like (`parse_compact_of_parse`).
-/

namespace ChainQuery.Json

open CoreArithmetic

variable {text rest : List Char}

/-- The value of digits is below the power of ten of their number. A number that was read is
therefore not too long to be written. -/
theorem digitsValue_lt {digits : List Char} (each : ∀ c ∈ digits, isDecimalDigit c = true) :
    digitsValue digits < 10 ^ digits.length := by
  induction digits using List.reverseRecOn with
  | nil => exact Nat.one_pos
  | append_singleton front last ih =>
      have own : isDecimalDigit last = true :=
        each last (List.mem_append_right _ List.mem_cons_self)
      have small : last.toNat ≤ 57 := by
        rw [isDecimalDigit, Bool.and_eq_true, decide_eq_true_eq, decide_eq_true_eq] at own
        exact own.2
      have before := ih fun c among => each c (List.mem_append_left _ among)
      rw [digitsValue_concat, List.length_append, List.length_singleton, Nat.pow_succ]
      omega

/-- What is taken as the whole part of a number is a row of digits. -/
theorem digits_of_wholePart {whole : List Char} (read : wholePart text = some (whole, rest)) :
    Digits whole := by
  unfold wholePart at read
  split at read
  · obtain ⟨rfl, _⟩ := Prod.mk.inj (Option.some.inj read)
    exact .decimal 0
  · next c more _ =>
      split at read
      · next digit =>
          obtain ⟨rfl, _⟩ := Prod.mk.inj (Option.some.inj read)
          exact ⟨List.cons_ne_nil _ _, List.forall_mem_cons.mpr
            ⟨digit, fun c among => List.mem_takeWhile_imp among⟩⟩
      · cases read
  · cases read

/-- A number that is read is regular: a whole number as it is, and any other one as the double it
was rounded to. -/
theorem regular_of_scanNumber {value : Json} (read : scanNumber text = .ok (value, rest)) :
    Regular value := by
  unfold scanNumber at read
  split at read
  next negative unsigned sign =>
    split at read
    · cases read
    · next whole behind wholes =>
        dsimp only at read
        split at read
        · split at read
          · cases read
          · next short =>
              obtain ⟨rfl, _⟩ := Prod.mk.inj (Except.ok.inj read)
              refine ⟨.int _, ?_⟩
              have digits := digits_of_wholePart wholes
              have size : (if negative = true then -(digitsValue whole : Int)
                  else (digitsValue whole : Int)).natAbs = digitsValue whole := by
                split <;> omega
              have filled := List.length_pos_of_ne_nil digits.filled
              have length : (Text.decimal (digitsValue whole)).length ≤ whole.length :=
                (Nat.length_toDigits_le_iff (by decide) filled).mpr (digitsValue_lt digits.each)
              rw [isWritable, decide_eq_true_eq, size]
              omega
        · obtain ⟨rfl, _⟩ := Prod.mk.inj (Except.ok.inj read)
          exact ⟨.float (Binary64.ofDecimal_canonical _ _ _), rfl⟩

theorem arr_regular {items : List Json} (each : ∀ item ∈ items, Regular item) :
    Regular (.arr items) := by
  refine ⟨.arr fun item among => (each item among).determined, ?_⟩
  rw [isWritable]
  exact areWritable_iff.mpr fun item among => (each item among).writable

/-- What holds of all members and of a new value holds of all members with the new one among them.
-/
theorem forall_mem_insert {property : Json → Prop} {members : Members} {key : String} {value : Json}
    (each : ∀ member ∈ members, property member.2) (own : property value) :
    ∀ member ∈ Members.insert members key value, property member.2 := by
  induction members with
  | nil => exact List.forall_mem_singleton.mpr own
  | cons member more ih =>
      obtain ⟨name, kept⟩ := member
      obtain ⟨first, behind⟩ := List.forall_mem_cons.mp each
      rw [Members.insert]
      split
      · exact List.forall_mem_cons.mpr ⟨own, behind⟩
      · exact List.forall_mem_cons.mpr ⟨first, ih behind⟩

/-- One more member adds its key. -/
theorem mem_keys_insert {members : Members} {key other : String} {value : Json} :
    other ∈ Members.keys (Members.insert members key value) ↔
      other = key ∨ other ∈ Members.keys members := by
  induction members with
  | nil => exact List.mem_singleton.trans (or_iff_left List.not_mem_nil).symm
  | cons member more ih =>
      obtain ⟨name, kept⟩ := member
      rw [Members.insert]
      split
      · next same =>
          rw [Members.keys, Members.keys, List.map_cons, List.map_cons, List.mem_cons, ← same]
          exact ⟨.inr, fun among => among.elim .inl id⟩
      · rw [Members.keys, Members.keys, List.map_cons, List.map_cons, List.mem_cons, List.mem_cons]
        rw [show other ∈ List.map (·.1) (Members.insert more key value) ↔ _ from ih]
        exact or_left_comm

/-- Keys stay distinct when a member is inserted, as an earlier value of its key is replaced. -/
theorem nodup_keys_insert {members : Members} (distinct : (Members.keys members).Nodup)
    (key : String) (value : Json) : (Members.keys (Members.insert members key value)).Nodup := by
  induction members with
  | nil => exact List.nodup_singleton key
  | cons member more ih =>
      obtain ⟨name, kept⟩ := member
      rw [Members.insert]
      split
      · exact distinct
      · next other =>
          obtain ⟨fresh, apart⟩ := List.nodup_cons.mp (distinct : (name :: Members.keys more).Nodup)
          refine List.nodup_cons.mpr ⟨fun among => ?_, ih apart⟩
          exact (mem_keys_insert.mp among).elim other fresh

/-- An object has one member of each name, with one of the values that are written. So its keys are
distinct, whatever was written. -/
theorem ofWritten_regular {written : List (String × Json)}
    (each : ∀ member ∈ written, Regular member.2) :
    Regular (.obj (Members.ofWritten written)) := by
  have onwards : ∀ front : Members, (Members.keys front).Nodup →
      (∀ member ∈ front, Regular member.2) →
      let kept := written.foldl (fun kept member => Members.insert kept member.1 member.2) front
      (Members.keys kept).Nodup ∧ ∀ member ∈ kept, Regular member.2 := by
    induction written with
    | nil => exact fun front distinct own => ⟨distinct, own⟩
    | cons member more ih =>
        obtain ⟨first, behind⟩ := List.forall_mem_cons.mp each
        intro front distinct own
        exact ih behind _ (nodup_keys_insert distinct _ _) (forall_mem_insert own first)
  obtain ⟨distinct, own⟩ := onwards [] List.nodup_nil fun _ among => absurd among List.not_mem_nil
  refine ⟨.obj distinct fun member among => (own member among).determined, ?_⟩
  rw [isWritable]
  exact areMembersWritable_iff.mpr fun member among => (own member among).writable

/-- Whatever is read within a depth can be written: values, items and members. -/
structure ReadsRegular (depth : Nat) : Prop where
  values : ∀ {text value rest}, scanValue depth text = .ok (value, rest) → Regular value
  items : ∀ {text items rest}, scanItems depth text = .ok (items, rest) →
    ∀ item ∈ items, Regular item
  members : ∀ {text members rest}, scanMembers depth text = .ok (members, rest) →
    ∀ member ∈ members, Regular member.2

variable {depth : Nat} (within : ReadsRegular depth)

include within

/-- A value that is read is regular if what is read one level down is. The first character decides
which of the readers is used. -/
theorem regular_of_scanValue {value : Json}
    (read : scanValue (depth + 1) text = .ok (value, rest)) : Regular value := by
  unfold scanValue at read
  split at read
  · obtain ⟨_, _, read⟩ := bind_eq_ok.mp read
    cases read
    exact ⟨.str _, rfl⟩
  · split at read
    · cases read
      exact ofWritten_regular fun _ among => absurd among List.not_mem_nil
    · obtain ⟨_, written, read⟩ := bind_eq_ok.mp read
      cases read
      exact ofWritten_regular (within.members written)
  · split at read
    · cases read
      exact arr_regular fun _ among => absurd among List.not_mem_nil
    · obtain ⟨_, written, read⟩ := bind_eq_ok.mp read
      cases read
      exact arr_regular (within.items written)
  · cases read
    exact ⟨.null, rfl⟩
  · cases read
    exact ⟨.bool true, rfl⟩
  · cases read
    exact ⟨.bool false, rfl⟩
  · cases read
    exact ⟨.float .nan, rfl⟩
  · cases read
    exact ⟨.float (.infinite false), rfl⟩
  · cases read
    exact ⟨.float (.infinite true), rfl⟩
  · exact regular_of_scanNumber read

/-- Items that are read are regular, from the first one on, each at the depth of their array. -/
theorem regular_of_scanItems {items : List Json}
    (read : scanItems (depth + 1) text = .ok (items, rest)) : ∀ item ∈ items, Regular item := by
  rw [scanItems] at read
  obtain ⟨⟨item, behind⟩, first, read⟩ := bind_eq_ok.mp read
  dsimp only at read
  split at read
  · cases read
    exact List.forall_mem_singleton.mpr (within.values first)
  · obtain ⟨_, others, read⟩ := bind_eq_ok.mp read
    cases read
    exact List.forall_mem_cons.mpr ⟨within.values first, within.items others⟩
  · cases read

/-- The values of members that are read are regular, from the first one on, whatever their keys are.
-/
theorem regular_of_scanMembers {members : List (String × Json)}
    (read : scanMembers (depth + 1) text = .ok (members, rest)) :
    ∀ member ∈ members, Regular member.2 := by
  unfold scanMembers at read
  split at read
  · obtain ⟨⟨key, behind⟩, _, read⟩ := bind_eq_ok.mp read
    dsimp only at read
    split at read
    · obtain ⟨⟨value, behind⟩, first, read⟩ := bind_eq_ok.mp read
      dsimp only at read
      split at read
      · cases read
        exact List.forall_mem_singleton.mpr (within.values first)
      · obtain ⟨_, others, read⟩ := bind_eq_ok.mp read
        cases read
        exact List.forall_mem_cons.mpr ⟨within.values first, within.members others⟩
      · cases read
    · cases read
  · cases read

omit within

/-- At every depth, everything that is read is regular. The induction is on the depth. -/
theorem readsRegular (depth : Nat) : ReadsRegular depth := by
  induction depth with
  | zero =>
      refine ⟨fun read => ?_, fun read => ?_, fun read => ?_⟩
      · rw [scanValue] at read
        cases read
      · rw [scanItems] at read
        cases read
      · rw [scanMembers] at read
        cases read
  | succ depth within =>
      exact ⟨regular_of_scanValue within, regular_of_scanItems within,
        regular_of_scanMembers within⟩

/-- **What is read can be written.** A value that is read from a document can be written, and is
determined by its text. -/
theorem regular_of_parse {value : Json} (read : parse text = .ok value) : Regular value := by
  unfold parse at read
  split at read
  · cases read
  · obtain ⟨⟨value, rest⟩, scanned, read⟩ := bind_eq_ok.mp read
    dsimp only at read
    split at read
    · obtain rfl := Except.ok.inj read
      exact (readsRegular _).values scanned
    · cases read

/-- Reading, writing and reading again gives the value again. -/
theorem parse_compact_of_parse {value : Json} (read : parse text = .ok value) :
    parse (compact value) = .ok value :=
  (regular_of_parse read).parse_compact

end ChainQuery.Json
