import ChainQuery.Proofs.Abi.Scalars

/-! # Tuples and arrays in bytes

The members of a tuple or an array are carried by parts. All heads come first, each of fixed length
in place and each other an offset, and the parts behind the offsets follow in order (`assemble`). So
when the heads have been read, every offset has led to the bytes of its member (`exists_slots`,
`exists_targets`), and a tuple or an array is carried by its assembled parts (`carries_tuple`,
`carries_array`).
-/

namespace ChainQuery.Abi

open CoreArithmetic

theorem headsSize_cons (part : Part) (parts : List Part) :
    headsSize (part :: parts) = part.headSize + headsSize parts :=
  rfl

variable [Address.CaseRule]

/-- A member of a tuple or an array with the bytes that carry it. -/
structure Member where
  ty : Ty
  value : Value
  bytes : Bytes
  carries : Carries ty value bytes

namespace Member

/-- The part that a member is encoded as. -/
def part (member : Member) : Part :=
  ⟨member.ty.isDynamic, member.bytes⟩

theorem wordSize_le_headSize (member : Member) : wordSize ≤ member.part.headSize := by
  rw [Part.headSize]
  split
  · exact Nat.le_refl _
  · exact member.carries.filled

end Member

/-- The heads of members are as many words as there are members, or more. -/
theorem wordSize_mul_length_le (members : List Member) :
    wordSize * members.length ≤ headsSize (members.map Member.part) := by
  induction members with
  | nil => exact Nat.zero_le _
  | cons member rest ih =>
      have first := member.wordSize_le_headSize
      simp only [headsSize, List.map_cons, List.sum_cons, List.length_cons] at ih ⊢
      rw [Nat.mul_succ]
      omega

/-- The words that the types count for are not more than the heads take. A decoder takes the heads
to end behind these words, so no offset that is written points in front of their end. -/
theorem wordSize_mul_headWords_le (members : List Member) :
    wordSize * ((members.map Member.ty).map headWords).sum ≤
      headsSize (members.map Member.part) := by
  induction members with
  | nil => exact Nat.zero_le _
  | cons member rest ih =>
      have first : wordSize * headWords member.ty ≤ member.part.headSize := member.carries.heads
      simp only [headsSize, List.map_cons, List.sum_cons] at ih ⊢
      rw [Nat.mul_add]
      omega

/-- Members of static types have no tails. -/
theorem tails_of_static {members : List Member}
    (static : ∀ member ∈ members, member.ty.isDynamic = false) :
    tails (members.map Member.part) = [] := by
  induction members with
  | nil => rfl
  | cons member rest ih =>
      rw [List.map_cons, tails, Member.part, static member List.mem_cons_self]
      exact ih fun other among => static other (List.mem_cons_of_mem member among)

theorem length_assemble_of_static {members : List Member}
    (static : ∀ member ∈ members, member.ty.isDynamic = false) :
    (assemble (members.map Member.part)).length = headsSize (members.map Member.part) := by
  rw [length_assemble, tails_of_static static]
  rfl

/-- No member is longer than all parts together: its bytes stand in its head, or in the tail that
its head points to. -/
theorem length_bytes_le_assemble {members : List Member} {member : Member}
    (among : member ∈ members) :
    member.bytes.length ≤ (assemble (members.map Member.part)).length := by
  rw [length_assemble]
  induction members with
  | nil => exact absurd among List.not_mem_nil
  | cons first rest ih =>
      rw [List.map_cons, headsSize_cons, tails, Part.headSize]
      rcases List.mem_cons.mp among with rfl | among
      · split
        · rw [List.length_append]
          change member.part.bytes.length ≤ _
          omega
        · change member.part.bytes.length ≤ _
          omega
      · have others := ih among
        split
        · rw [List.length_append]
          omega
        · omega

/-- Members that are carried by bytes are encoded as the parts with these bytes. -/
theorem encodeMembers_eq (members : List Member) :
    encodeMembers (members.map Member.ty) (members.map Member.value) =
      .ok (members.map Member.part) := by
  induction members with
  | nil => rfl
  | cons member rest ih =>
      rw [List.map_cons, List.map_cons, encodeMembers, member.carries.encoded, ih]
      rfl

/-- Items of one type are encoded like members that all have this type, so that what is shown of
members holds of items too. -/
theorem encodeItems_eq {item : Ty} {members : List Member}
    (same : ∀ member ∈ members, member.ty = item) :
    encodeItems (encode item) item.isDynamic (members.map Member.value) =
      .ok (members.map Member.part) := by
  induction members with
  | nil => rfl
  | cons member rest ih =>
      have first := same member List.mem_cons_self
      have others := ih fun other among => same other (List.mem_cons_of_mem member among)
      have encoded := member.carries.encoded
      rw [first] at encoded
      rw [List.map_cons, encodeItems, encoded, others, List.map_cons, Member.part, first]
      rfl

/-- A member of fixed length is decoded in place. -/
theorem decode_static {member : Member} {data : Bytes} {place : Nat}
    (static : member.ty.isDynamic = false) (small : data.length < 2 ^ 256)
    (stands : StandsAt data place member.bytes) :
    decode data member.ty place =
      .ok (member.value.decoded, place + member.bytes.length) := by
  obtain ⟨next, decoded, behind⟩ := member.carries.decoded small stands
  rw [decoded, behind static, Value.outcome_of_countable (member.carries.static static)]
  rfl

/-- An offset leads to the bytes that stand behind the heads. It is accepted because it points
neither into the heads nor past the end of the data. -/
theorem offsetAt_eq {member : Member} {data : Bytes} {start headsEnd place offset : Nat}
    (small : data.length < 2 ^ 256) (head : StandsAt data place (lengthWord offset))
    (tail : StandsAt data (start + offset) member.bytes) (behind : headsEnd ≤ start + offset) :
    offsetAt data start headsEnd place = .ok (start + offset) := by
  have filled : 32 ≤ member.bytes.length := member.carries.filled
  have inside := tail.bound (by omega)
  have target : headsEnd ≤ start + offset ∧ start + offset < data.length := by omega
  rw [offsetAt, head.lengthAt_eq (by omega)]
  exact if_pos target

/-- The head of a member that is not of fixed length is an offset, which leads to its bytes; what is
left of the heads and of the bytes behind them belongs to the members after it. -/
theorem offset_of_dynamic {member : Member} {rest : List Member} {data : Bytes}
    {start headsEnd place offset : Nat} (dynamic : member.ty.isDynamic = true)
    (small : data.length < 2 ^ 256)
    (standing : StandsAt data place (heads offset ((member :: rest).map Member.part)))
    (behind : StandsAt data (start + offset) (tails ((member :: rest).map Member.part)))
    (after : headsEnd ≤ start + offset) :
    offsetAt data start headsEnd place = .ok (start + offset) ∧
      StandsAt data (start + offset) member.bytes ∧
      StandsAt data (place + wordSize)
        (heads (offset + member.bytes.length) (rest.map Member.part)) ∧
      StandsAt data (start + (offset + member.bytes.length)) (tails (rest.map Member.part)) := by
  have isTail : member.part.isTail = true := dynamic
  rw [List.map_cons, heads, if_pos isTail] at standing
  rw [List.map_cons, tails, if_pos isTail] at behind
  have next := standing.right
  have others := behind.right
  rw [lengthWord, Bytes.length_ofNat] at next
  rw [Nat.add_assoc] at others
  exact ⟨offsetAt_eq small standing.left behind.left after, behind.left, next, others⟩

/-- The heads of members are read, and the places they hold lead to what becomes of the members. The
members before them take `offset` bytes behind the heads. -/
theorem exists_slots (members : List Member) {data : Bytes} {start headsEnd place offset : Nat}
    (small : data.length < 2 ^ 256)
    (standing : StandsAt data place (heads offset (members.map Member.part)))
    (behind : StandsAt data (start + offset) (tails (members.map Member.part)))
    (after : headsEnd ≤ start + offset) :
    ∃ slots, decodeHeads data start headsEnd (members.map Member.ty) place =
        .ok (slots, place + headsSize (members.map Member.part)) ∧
      decodeTails data (members.map Member.ty) slots =
        (members.map Member.value).mapM Value.outcome := by
  induction members generalizing place offset with
  | nil => exact ⟨[], rfl, rfl⟩
  | cons member rest ih =>
      by_cases dynamic : member.ty.isDynamic = true
      · have head : member.part.headSize = wordSize := if_pos dynamic
        obtain ⟨target, first, next, others⟩ :=
          offset_of_dynamic dynamic small standing behind after
        obtain ⟨slots, read, led⟩ := ih next others (by omega)
        obtain ⟨final, decoded, _⟩ := member.carries.decoded small first
        refine ⟨.place (start + offset) :: slots, ?_, ?_⟩
        · rw [List.map_cons, decodeHeads, if_pos dynamic, target]
          dsimp only [bind, Except.bind]
          rw [read, List.map_cons, headsSize_cons, head, Nat.add_assoc]
          rfl
        · rw [List.map_cons, List.map_cons, List.mapM_cons, decodeTails, led]
          change ((·.1) <$> decode data member.ty (start + offset) >>= _) = _
          rw [decoded]
          cases member.value.outcome with
          | error fault => rfl
          | ok value => rfl
      · have static : member.ty.isDynamic = false := Bool.eq_false_of_not_eq_true dynamic
        have inPlace : member.part.isTail ≠ true := dynamic
        have head : member.part.headSize = member.bytes.length := if_neg inPlace
        rw [List.map_cons, heads, if_neg inPlace] at standing
        rw [List.map_cons, tails, if_neg inPlace] at behind
        change StandsAt data place (member.bytes ++ _) at standing
        have first := decode_static static small standing.left
        obtain ⟨slots, read, led⟩ := ih standing.right behind after
        refine ⟨.value member.value.decoded :: slots, ?_, ?_⟩
        · rw [List.map_cons, decodeHeads, if_neg dynamic, first]
          dsimp only [bind, Except.bind]
          rw [read, List.map_cons, headsSize_cons, head, Nat.add_assoc]
          rfl
        · rw [List.map_cons, List.map_cons, List.mapM_cons, decodeTails, led,
            Value.outcome_of_countable (member.carries.static static)]

/-- The offsets of an array's items lead to what becomes of the items: each of them stands in the
heads, and the item it leads to stands among the tails. -/
theorem exists_targets {item : Ty} (members : List Member) {data : Bytes}
    {start headsEnd place offset : Nat} (same : ∀ member ∈ members, member.ty = item)
    (dynamic : item.isDynamic = true) (small : data.length < 2 ^ 256)
    (standing : StandsAt data place (heads offset (members.map Member.part)))
    (behind : StandsAt data (start + offset) (tails (members.map Member.part)))
    (after : headsEnd ≤ start + offset) :
    ∃ targets, offsetRun data start headsEnd members.length place = .ok targets ∧
      (targets.mapM fun target => do return (← decode data item target).1) =
        (members.map Member.value).mapM Value.outcome := by
  induction members generalizing place offset with
  | nil => exact ⟨[], rfl, rfl⟩
  | cons member rest ih =>
      have first := same member List.mem_cons_self
      obtain ⟨target, stands, next, others⟩ :=
        offset_of_dynamic (first ▸ dynamic) small standing behind after
      obtain ⟨targets, read, led⟩ :=
        ih (fun other among => same other (List.mem_cons_of_mem member among)) next others (by omega)
      obtain ⟨final, decoded, _⟩ := member.carries.decoded small stands
      rw [first] at decoded
      refine ⟨(start + offset) :: targets, ?_, ?_⟩
      · rw [List.length_cons, offsetRun, target]
        dsimp only [bind, Except.bind]
        rw [read]
        rfl
      · rw [List.mapM_cons, List.map_cons, List.mapM_cons, led, decoded]
        cases member.value.outcome with
        | error fault => rfl
        | ok value => rfl

/-- The items of an array whose items have a fixed length are decoded one behind the other, and the
run ends behind the last of them. -/
theorem decodeRun_eq {item : Ty} (members : List Member) {data : Bytes} {place offset : Nat}
    (same : ∀ member ∈ members, member.ty = item) (static : item.isDynamic = false)
    (small : data.length < 2 ^ 256)
    (standing : StandsAt data place (heads offset (members.map Member.part))) :
    decodeRun (decode data item) members.length place =
      ((members.map Member.value).mapM Value.outcome).map
        (·, place + headsSize (members.map Member.part)) := by
  induction members generalizing place with
  | nil => rfl
  | cons member rest ih =>
      have first := same member List.mem_cons_self
      have inPlace : member.part.isTail = false := by rw [Member.part, first, static]
      have fixed : member.ty.isDynamic = false := inPlace
      have head : member.part.headSize = member.bytes.length := by
        rw [Part.headSize, inPlace]
        rfl
      rw [List.map_cons, heads, inPlace] at standing
      change StandsAt data place (member.bytes ++ _) at standing
      have decoded := decode_static fixed small standing.left
      have others := ih (fun other among => same other (List.mem_cons_of_mem member among))
        standing.right
      rw [first] at decoded
      rw [List.length_cons, decodeRun, decoded]
      dsimp only [bind, Except.bind]
      rw [others, List.map_cons, List.map_cons, List.mapM_cons, headsSize_cons, head,
        Value.outcome_of_countable (member.carries.static fixed), Nat.add_assoc]
      cases (rest.map Member.value).mapM Value.outcome with
      | error fault => rfl
      | ok values => rfl

/-- The items of an array are decoded from its parts, through offsets where their type is dynamic
and one behind the other where it is not. -/
theorem exists_decodeItems {item : Ty} (members : List Member) {data : Bytes} {start : Nat}
    (same : ∀ member ∈ members, member.ty = item) (small : data.length < 2 ^ 256)
    (stands : StandsAt data start (assemble (members.map Member.part))) :
    ∃ next, decodeItems data item.isDynamic (decode data item) members.length start =
        ((members.map Member.value).mapM Value.outcome).map (·, next) ∧
      (item.isDynamic = false → next = start + (assemble (members.map Member.part)).length) := by
  have standing := stands.left
  have behind := stands.right
  rw [length_heads] at behind
  by_cases dynamic : item.isDynamic = true
  · have after : start + wordSize * members.length ≤
        start + headsSize (members.map Member.part) :=
      Nat.add_le_add_left (wordSize_mul_length_le members) start
    obtain ⟨targets, read, led⟩ :=
      exists_targets members same dynamic small standing behind after
    refine ⟨start + wordSize * members.length, ?_, fun static => ?_⟩
    · unfold decodeItems
      rw [if_pos dynamic]
      dsimp only [bind, Except.bind] at led ⊢
      rw [read]
      dsimp only
      rw [led]
      cases (members.map Member.value).mapM Value.outcome with
      | error fault => rfl
      | ok values => rfl
    · exact absurd (dynamic.symm.trans static) (by decide)
  · have static : item.isDynamic = false := Bool.eq_false_of_not_eq_true dynamic
    refine ⟨start + headsSize (members.map Member.part), ?_, fun _ => ?_⟩
    · unfold decodeItems
      rw [if_neg dynamic]
      exact decodeRun_eq members same static small standing
    · rw [length_assemble_of_static fun member among => by rw [same member among, static]]

/-- Where there are members, their bytes are one word long at least. -/
theorem wordSize_le_assemble {members : List Member} (nonempty : members ≠ []) :
    wordSize ≤ (assemble (members.map Member.part)).length := by
  have some := List.length_pos_iff.mpr nonempty
  have heads := wordSize_mul_length_le members
  have one : wordSize * 1 ≤ wordSize * members.length := Nat.mul_le_mul_left wordSize some
  rw [length_assemble]
  omega

/-- A value with static items can be counted, since no offset among them is needed. -/
theorem countable_of_members {value : Value} {members : List Member}
    (found : value.items? = some (members.map Member.value))
    (static : ∀ member ∈ members, member.ty.isDynamic = false) : value.countable = true := by
  refine Value.countable_of_items found fun item inside => ?_
  obtain ⟨member, among, rfl⟩ := List.mem_map.mp inside
  exact member.carries.static (static member among)

/-- A value whose items take fewer bytes than can be counted has a number of items that can be
counted. -/
theorem countable_of_short {value : Value} {members : List Member}
    (found : value.items? = some (members.map Member.value))
    (short : (assemble (members.map Member.part)).length < lengthLimit) :
    value.countable = true := by
  refine Value.countable_of_items found fun item inside => ?_
  obtain ⟨member, among, rfl⟩ := List.mem_map.mp inside
  exact member.carries.short (Nat.lt_of_le_of_lt (length_bytes_le_assemble among) short)

/-- A tuple is carried by the parts of its members: their heads first, and then the tails of the
dynamic ones. -/
theorem carries_tuple {value : Value} {members : List Member} (nonempty : members ≠ [])
    (found : value.items? = some (members.map Member.value)) :
    Carries (.tuple (members.map Member.ty)) value (assemble (members.map Member.part)) := by
  have static (fixed : (Ty.tuple (members.map Member.ty)).isDynamic = false) :
      ∀ member ∈ members, member.ty.isDynamic = false := fun member among =>
    isDynamic_of_mem fixed member.ty (List.mem_map_of_mem among)
  refine ⟨?_, wordSize_le_assemble nonempty, ?_, fun fixed => ?_, countable_of_short found, ?_⟩
  · rw [encode, found]
    dsimp only
    rw [List.length_map, List.length_map, if_pos rfl, encodeMembers_eq]
    rfl
  · rw [Part.headSize]
    split
    · exact Nat.le_refl _
    · exact wordSize_le_assemble nonempty
  · exact countable_of_members found (static fixed)
  · intro data place small stands
    have behind := stands.right
    rw [length_heads] at behind
    have after := Nat.add_le_add_left (wordSize_mul_headWords_le members) place
    obtain ⟨slots, read, led⟩ := exists_slots members small stands.left behind after
    refine ⟨place + headsSize (members.map Member.part), ?_, fun fixed => ?_⟩
    · rw [decode, Value.outcome_of_items found]
      dsimp only [bind, Except.bind]
      rw [read]
      dsimp only
      rw [led]
      cases (members.map Member.value).mapM Value.outcome with
      | error fault => rfl
      | ok values => rfl
    · rw [length_assemble_of_static (static fixed)]

/-- An array of fixed length is carried by the parts of its items, like a tuple of members of one
type. -/
theorem carries_fixedArray {item : Ty} {value : Value} {members : List Member}
    (nonempty : members ≠ []) (same : ∀ member ∈ members, member.ty = item)
    (found : value.items? = some (members.map Member.value)) :
    Carries (.array item (some members.length)) value (assemble (members.map Member.part)) := by
  have static (fixed : (Ty.array item (some members.length)).isDynamic = false) :
      ∀ member ∈ members, member.ty.isDynamic = false := fun member among => by
    rw [same member among]
    exact fixed
  refine ⟨?_, wordSize_le_assemble nonempty, ?_, fun fixed => ?_, countable_of_short found, ?_⟩
  · rw [encode, found]
    dsimp only
    rw [encodeItems_eq same]
    dsimp only [bind, Except.bind]
    rw [List.length_map, if_pos rfl]
    rfl
  · change wordSize * headWords (.array item (some members.length)) ≤
      (Part.mk item.isDynamic (assemble (members.map Member.part))).headSize
    rw [headWords, Part.headSize]
    split
    · exact Nat.le_refl _
    · rw [length_assemble]
      exact Nat.le_trans (wordSize_mul_length_le members) (Nat.le_add_right _ _)
  · exact countable_of_members found (static fixed)
  · intro data place small stands
    obtain ⟨next, read, final⟩ := exists_decodeItems members same small stands
    refine ⟨next, ?_, final⟩
    rw [decode, Value.outcome_of_items found]
    dsimp only [bind, Except.bind]
    rw [read]
    cases (members.map Member.value).mapM Value.outcome with
    | error fault => rfl
    | ok values => rfl

/-- An array of any length is carried by the number of its items and their parts. Offsets among the
items are counted from behind this number. -/
theorem carries_array {item : Ty} {value : Value} {members : List Member}
    (same : ∀ member ∈ members, member.ty = item)
    (found : value.items? = some (members.map Member.value)) :
    Carries (.array item none) value
      (lengthWord members.length ++ assemble (members.map Member.part)) := by
  have word : (lengthWord members.length).length = wordSize := Bytes.length_ofNat _ _
  have filled : wordSize ≤
      (lengthWord members.length ++ assemble (members.map Member.part)).length := by
    rw [List.length_append, word]
    exact Nat.le_add_right _ _
  refine ⟨?_, filled, Nat.le_refl _, (fun static => nomatch static), fun short => ?_, ?_⟩
  · rw [encode, found]
    dsimp only
    rw [encodeItems_eq same]
    dsimp only [bind, Except.bind]
    rw [List.length_map]
    rfl
  · rw [List.length_append] at short
    exact countable_of_short found (Nat.lt_of_le_of_lt (Nat.le_add_left _ _) short)
  · intro data place small stands
    have positive : 0 < wordSize := by decide
    have inside := stands.bound (Nat.lt_of_lt_of_le positive filled)
    have sizes := wordSize_mul_length_le members
    rw [List.length_append, length_assemble] at inside
    have count : members.length < 2 ^ 256 := by
      simp only [wordSize] at sizes
      omega
    have items := stands.right
    rw [word] at items
    obtain ⟨next, read, _⟩ := exists_decodeItems members same small items
    refine ⟨next, ?_, (fun static => nomatch static)⟩
    rw [decode, Value.outcome_of_items found]
    dsimp only [bind, Except.bind]
    rw [stands.left.lengthAt_eq count]
    dsimp only
    rw [read]
    cases (members.map Member.value).mapM Value.outcome with
    | error fault => rfl
    | ok values => rfl

/-- Values that bytes carry one by one make members, in the same order and with the same types. -/
theorem exists_members (pairs : List (Ty × Value))
    (each : ∀ pair ∈ pairs, ∃ bytes, Carries pair.1 pair.2 bytes) :
    ∃ members : List Member, members.map (fun member => (member.ty, member.value)) = pairs := by
  induction pairs with
  | nil => exact ⟨[], rfl⟩
  | cons pair rest ih =>
      obtain ⟨bytes, carries⟩ := each pair List.mem_cons_self
      obtain ⟨members, others⟩ := ih fun other among => each other (List.mem_cons_of_mem pair among)
      exact ⟨⟨pair.1, pair.2, bytes, carries⟩ :: members, congrArg (pair :: ·) others⟩

/-- Values that are carried by bytes one by one are the values of members, all of the type of the
items. -/
theorem exists_items {item : Ty} {items : List Value}
    (each : ∀ value ∈ items, ∃ bytes, Carries item value bytes) :
    ∃ members : List Member, members.map Member.value = items ∧
      ∀ member ∈ members, member.ty = item := by
  obtain ⟨members, pairs⟩ := exists_members (items.map (item, ·)) fun pair among => by
    obtain ⟨value, inside, rfl⟩ := List.mem_map.mp among
    exact each value inside
  refine ⟨members, ?_, ?_⟩
  · have seconds := congrArg (List.map Prod.snd) pairs
    rw [List.map_map, List.map_map] at seconds
    exact seconds.trans (List.map_id items)
  · intro member among
    have pair := List.mem_map_of_mem (f := fun member => (member.ty, member.value)) among
    rw [pairs] at pair
    obtain ⟨_, _, equal⟩ := List.mem_map.mp pair
    exact (Prod.mk.inj equal).1.symm

/-- Every value that conforms to a regular type is carried by bytes. The induction is on how it
conforms: items and members are carried first, and their bytes are the parts of the whole. -/
theorem exists_carries {ty : Ty} {value : Value} (conforms : Conforms ty value)
    (regular : ty.Regular) : ∃ bytes, Carries ty value bytes := by
  induction conforms with
  | uint nonneg small =>
      cases regular with
      | uint size => exact ⟨_, carries_uint size nonneg small⟩
  | int large small =>
      cases regular with
      | int size => exact ⟨_, carries_int size large small⟩
  | bool value => exact ⟨_, carries_bool value⟩
  | address length lower => exact carries_address length lower
  | fixedBytes =>
      cases regular with
      | fixedBytes _ small => exact ⟨_, carries_fixedBytes small⟩
  | bytes content => exact ⟨_, carries_bytes content⟩
  | string text => exact ⟨_, carries_string text⟩
  | @array item size value items found counted _ ih =>
      cases regular with
      | array regular filled =>
          obtain ⟨members, rfl, same⟩ :=
            exists_items fun value among => ih value among regular
          cases size with
          | none => exact ⟨_, carries_array same found⟩
          | some count =>
              obtain rfl : members.length = count := by
                rw [← counted count rfl, List.length_map]
              have nonempty : members ≠ [] :=
                List.length_pos_iff.mp (filled members.length rfl)
              exact ⟨_, carries_fixedArray nonempty same found⟩
  | @tuple value pairs found _ ih =>
      cases regular with
      | tuple nonempty regular =>
          obtain ⟨members, rfl⟩ := exists_members pairs fun pair among =>
            ih pair among (regular pair.1 (List.mem_map_of_mem among))
          rw [List.map_map] at found nonempty ⊢
          exact ⟨_, carries_tuple (fun none => nonempty (by rw [none]; rfl)) found⟩

end ChainQuery.Abi
