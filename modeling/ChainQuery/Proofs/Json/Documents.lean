import ChainQuery.Proofs.Json.Numbers
import ChainQuery.Proofs.Json.Strings

/-! # JSON documents are read back

A value without floating-point numbers in which no object names a member twice is the value of its
one-line text (`parse_compact`), and so is one with floating-point numbers as far as these are read
back (`Determined.parse_compact`). Between a value and what follows it stands nothing, so the text
behind a whole number must not go on with a digit, a point or an exponent (`Closes`). The nesting
that the reader allows is bounded by the length of the text, which is never less than it needs
(`ReadBack`).
-/

namespace ChainQuery.Json

/-- A value that its text determines: without floating-point numbers, and without an object that has
two members of one name. -/
inductive Exact : Json → Prop
  | null : Exact .null
  | bool (value : Bool) : Exact (.bool value)
  | int (value : Int) : Exact (.int value)
  | str (value : String) : Exact (.str value)
  | arr {items : List Json} : (∀ item ∈ items, Exact item) → Exact (.arr items)
  | obj {members : Members} : (Members.keys members).Nodup →
      (∀ member ∈ members, Exact member.2) → Exact (.obj members)

mutual

/-- Whether every whole number in a value is short enough to be written. -/
def isWritable : Json → Bool
  | .int n => (Text.decimal n.natAbs).length ≤ maxIntegerDigits
  | .arr items => areWritable items
  | .obj members => areMembersWritable members
  | .null | .bool _ | .float _ | .str _ => true

/-- Whether every whole number in some values is short enough to be written. -/
def areWritable : List Json → Bool
  | [] => true
  | item :: rest => isWritable item && areWritable rest

/-- Whether every whole number in some members is short enough to be written. -/
def areMembersWritable : List (String × Json) → Bool
  | [] => true
  | (_, value) :: rest => isWritable value && areMembersWritable rest

end

/-- The text of a value on one line. A whole number with more digits than are read is not written
either. -/
def serialized? (value : Json) : Option String :=
  if value.isWritable then some value.compactText else none

/-- A value has a serialized text, which is its compact text, if it can be written at all. -/
theorem serialized?_eq_some {value : Json} {text : String} :
    value.serialized? = some text ↔ value.isWritable = true ∧ value.compactText = text := by
  unfold serialized?
  by_cases writable : value.isWritable = true
  · simp only [writable, ↓reduceIte, Option.some.injEq, true_and]
  · simp only [writable, Bool.false_eq_true, ↓reduceIte, reduceCtorEq, false_and]

theorem areWritable_iff {items : List Json} :
    areWritable items = true ↔ ∀ item ∈ items, item.isWritable = true := by
  induction items with
  | nil => exact iff_of_true rfl fun item among => absurd among List.not_mem_nil
  | cons first rest ih => rw [areWritable, Bool.and_eq_true, ih, List.forall_mem_cons]

/-- An object can be written if the value of each of its members can. -/
theorem areMembersWritable_iff {members : Members} :
    areMembersWritable members = true ↔ ∀ member ∈ members, member.2.isWritable = true := by
  induction members with
  | nil => exact iff_of_true rfl fun member among => absurd among List.not_mem_nil
  | cons first rest ih => rw [areMembersWritable, Bool.and_eq_true, ih, List.forall_mem_cons]

/-- What may stand behind a value inside a document. -/
def Closes (rest : List Char) : Prop :=
  ∀ c ∈ rest.head?, c = ',' ∨ c = ']' ∨ c = '}'

/-- A value may stand at the end of a text. -/
theorem closes_nil : Closes [] :=
  fun _ among => nomatch among

/-- A value may stand in front of a comma or of a closing bracket or brace. -/
theorem closes_cons {c : Char} (mark : c = ',' ∨ c = ']' ∨ c = '}') (rest : List Char) :
    Closes (c :: rest) := by
  rintro _ ⟨⟩
  exact mark

/-- What may stand behind a value ends a number: none of it goes on with the digits. -/
theorem Closes.endsNumber {rest : List Char} (closes : Closes rest) : EndsNumber rest := by
  cases rest with
  | nil => exact endsNumber_nil
  | cons c more =>
      refine ⟨?_, ?_, ?_⟩
      · rintro _ ⟨⟩
        rcases closes c rfl with rfl | rfl | rfl <;> decide
      · rcases closes c rfl with rfl | rfl | rfl <;> rfl
      · rcases closes c rfl with rfl | rfl | rfl <;> rfl

/-- How the text of a value starts: not with a blank, nor with what closes an array or marks the
order of bytes. -/
def Opens (text : List Char) : Prop :=
  ∃ first more, text = first :: more ∧ isSpace first = false ∧ first ≠ ']' ∧ first ≠ '\uFEFF'

theorem opens_quoted (text : String) : Opens (quoted true text) :=
  ⟨'"', _, rfl, by decide⟩

/-- A number opens with a digit, or with its sign, and neither of these closes an array. -/
theorem opens_number (negative : Bool) {first : Char} (digit : isDecimalDigit first = true)
    (more : List Char) : Opens (signOf negative ++ first :: more) := by
  cases negative with
  | true => exact ⟨'-', first :: more, rfl, by decide⟩
  | false =>
      refine ⟨first, more, rfl, ?_, ne_of_isDecimalDigit digit (by decide),
        ne_of_isDecimalDigit digit (by decide)⟩
      have blank (mark : Char) (other : isDecimalDigit mark = false) : (first == mark) = false :=
        beq_false_of_ne (ne_of_isDecimalDigit digit other)
      simp only [isSpace, blank ' ' (by decide), blank '\t' (by decide), blank '\n' (by decide),
        blank '\r' (by decide), Bool.or_self]

theorem Opens.append {text : List Char} (opens : Opens text) (rest : List Char) :
    Opens (text ++ rest) := by
  obtain ⟨first, more, rfl, start⟩ := opens
  exact ⟨first, more ++ rest, rfl, start⟩

theorem Opens.skipSpace {text : List Char} (opens : Opens text) : skipSpace text = text := by
  obtain ⟨first, more, rfl, solid, _⟩ := opens
  rw [Json.skipSpace, List.dropWhile_cons, solid]
  rfl

/-- A value whose text is read back, whatever closes it, when the reader may go as deep as the text
is long. -/
def ReadBack (value : Json) : Prop :=
  ∀ depth rest, (compact value).length ≤ depth → Closes rest →
    scanValue depth (compact value ++ rest) = .ok (value, rest)

theorem skipSpace_comma (rest : List Char) : skipSpace (',' :: rest) = ',' :: rest := rfl

theorem skipSpace_blank (rest : List Char) : skipSpace (' ' :: rest) = skipSpace rest := rfl

theorem compactItems_cons_cons (item next : Json) (more : List Json) :
    compactItems (item :: next :: more) =
      compact item ++ ',' :: ' ' :: compactItems (next :: more) := rfl

/-- Items open with the first one. -/
theorem opens_compactItems {item : Json} (opens : Opens (compact item)) (others : List Json) :
    Opens (compactItems (item :: others)) := by
  cases others with
  | nil => exact opens
  | cons next more => exact opens.append _

/-- The items of an array are read back up to its closing bracket. The induction is on the items;
behind each of them stands a comma and a space, or the bracket. -/
theorem scanItems_compactItems {items : List Json} (filled : items ≠ [])
    (each : ∀ item ∈ items, Opens (compact item) ∧ ReadBack item) {depth : Nat}
    (deep : (compactItems items).length < depth) (rest : List Char) :
    scanItems depth (compactItems items ++ ']' :: rest) = .ok (items, rest) := by
  induction items generalizing depth with
  | nil => exact absurd rfl filled
  | cons item others ih =>
      obtain ⟨depth, rfl⟩ : ∃ less, depth = less + 1 := ⟨depth - 1, by omega⟩
      obtain ⟨⟨opens, reads⟩, behind⟩ := List.forall_mem_cons.mp each
      cases others with
      | nil =>
          have value := reads depth (']' :: rest) (Nat.le_of_lt_succ deep)
            (closes_cons (.inr (.inl rfl)) rest)
          rw [compactItems, scanItems, value]
          rfl
      | cons next more =>
          obtain ⟨opensNext, _⟩ := behind next List.mem_cons_self
          have length : (compactItems (item :: next :: more)).length =
              (compact item).length + ((compactItems (next :: more)).length + 2) := by
            rw [compactItems_cons_cons, List.length_append, List.length_cons, List.length_cons]
          have filledItem : 0 < (compact item).length := by
            obtain ⟨first, tail, start, _⟩ := opens
            rw [start]
            exact Nat.succ_pos _
          have text : compactItems (item :: next :: more) ++ ']' :: rest =
              compact item ++ ',' :: ' ' :: (compactItems (next :: more) ++ ']' :: rest) := by
            rw [compactItems_cons_cons, List.append_assoc]
            rfl
          have value := reads depth (',' :: ' ' :: (compactItems (next :: more) ++ ']' :: rest))
            (by omega) (closes_cons (.inl rfl) _)
          have start := ((opens_compactItems opensNext more).append (']' :: rest)).skipSpace
          have tail := @ih (List.cons_ne_nil next more) behind depth (by omega)
          rw [text, scanItems, value]
          simp only [bind, Except.bind, skipSpace_comma, skipSpace_blank, start, tail]
          rfl

theorem compactMembers_cons_cons (key : String) (value : Json) (next : String × Json)
    (more : List (String × Json)) :
    compactMembers ((key, value) :: next :: more) =
      quoted true key ++ ':' :: ' ' ::
        (compact value ++ ',' :: ' ' :: compactMembers (next :: more)) := by
  rw [compactMembers, List.append_assoc]
  · rfl
  · exact fun none => List.cons_ne_nil next more none

/-- Members start with the quotation mark of the first key. -/
theorem exists_compactMembers (member : String × Json) (others : List (String × Json)) :
    ∃ more, compactMembers (member :: others) = '"' :: more := by
  cases others with
  | nil => exact ⟨_, rfl⟩
  | cons next more =>
      rw [compactMembers_cons_cons]
      exact ⟨_, rfl⟩

theorem opens_compactMembers (member : String × Json) (others : List (String × Json)) :
    Opens (compactMembers (member :: others)) := by
  obtain ⟨more, text⟩ := exists_compactMembers member others
  exact ⟨'"', more, text, by decide⟩

/-- A member is read back in front of what its object goes on with: its key, a colon, and its value,
which is read at a depth that is enough for it. -/
theorem scanMembers_member {key : String} {value : Json} (opens : Opens (compact value))
    (reads : ReadBack value) {depth : Nat} (deep : (compact value).length ≤ depth)
    {rest : List Char} (closes : Closes rest) :
    scanMembers (depth + 1) (quoted true key ++ ':' :: ' ' :: (compact value ++ rest)) =
      match skipSpace rest with
      | '}' :: after => .ok ([(key, value)], after)
      | ',' :: more => do
        let (members, after) ← scanMembers depth (skipSpace more)
        return ((key, value) :: members, after)
      | other => .error ⟨.comma, other⟩ := by
  have scanned := scanString_escaped true
    (quoted true key ++ ':' :: ' ' :: (compact value ++ rest)) key.toList
    (':' :: ' ' :: (compact value ++ rest))
  have quotes : quoted true key ++ ':' :: ' ' :: (compact value ++ rest) =
      '"' :: (key.toList.flatMap (escapeChar true) ++
        '"' :: ':' :: ' ' :: (compact value ++ rest)) := by
    simp only [quoted, List.cons_append, List.append_assoc, List.nil_append]
  have colon (more : List Char) : skipSpace (':' :: more) = ':' :: more := rfl
  rw [quotes] at scanned ⊢
  rw [scanMembers, scanned]
  simp only [bind, Except.bind, colon, skipSpace_blank, (opens.append rest).skipSpace,
    reads depth rest deep closes, String.ofList_toList]
  rfl

/-- The members of an object are read back up to its closing brace, in the order in which they are
written. -/
theorem scanMembers_compactMembers {members : Members} (filled : members ≠ [])
    (each : ∀ member ∈ members, Opens (compact member.2) ∧ ReadBack member.2) {depth : Nat}
    (deep : (compactMembers members).length < depth) (rest : List Char) :
    scanMembers depth (compactMembers members ++ '}' :: rest) = .ok (members, rest) := by
  induction members generalizing depth with
  | nil => exact absurd rfl filled
  | cons member others ih =>
      obtain ⟨key, value⟩ := member
      obtain ⟨depth, rfl⟩ : ∃ less, depth = less + 1 := ⟨depth - 1, by omega⟩
      obtain ⟨own, behind⟩ := List.forall_mem_cons.mp each
      obtain ⟨opens, reads⟩ : Opens (compact value) ∧ ReadBack value := own
      cases others with
      | nil =>
          have text : compactMembers [(key, value)] ++ '}' :: rest =
              quoted true key ++ ':' :: ' ' :: (compact value ++ '}' :: rest) := by
            rw [compactMembers, List.append_assoc]
            rfl
          have short : (compact value).length ≤ depth := by
            simp only [compactMembers, List.length_append, List.length_cons] at deep
            omega
          rw [text, scanMembers_member opens reads short (closes_cons (.inr (.inr rfl)) rest)]
          rfl
      | cons next more =>
          have text : compactMembers ((key, value) :: next :: more) ++ '}' :: rest =
              quoted true key ++ ':' :: ' ' :: (compact value ++
                ',' :: ' ' :: (compactMembers (next :: more) ++ '}' :: rest)) := by
            simp only [compactMembers_cons_cons, List.append_assoc, List.cons_append]
          have length : (compactMembers ((key, value) :: next :: more)).length =
              (quoted true key).length + ((compact value).length +
                ((compactMembers (next :: more)).length + 2) + 2) := by
            simp only [compactMembers_cons_cons, List.length_append, List.length_cons]
          have start := ((opens_compactMembers next more).append ('}' :: rest)).skipSpace
          have tail := @ih (List.cons_ne_nil next more) behind depth (by omega)
          rw [text, scanMembers_member opens reads (by omega) (closes_cons (.inl rfl) _),
            skipSpace_comma]
          simp only [bind, Except.bind, skipSpace_blank, start, tail]
          rfl

/-- A new key is inserted at the end, so members with distinct keys are read in the order in which
they are written. -/
theorem insert_of_not_mem {members : Members} {key : String} (new : key ∉ Members.keys members)
    (value : Json) : Members.insert members key value = members ++ [(key, value)] := by
  induction members with
  | nil => rfl
  | cons member rest ih =>
      obtain ⟨first, kept⟩ := member
      rw [Members.keys, List.map_cons, List.mem_cons, not_or] at new
      rw [Members.insert, if_neg (Ne.symm new.1), ih new.2]
      rfl

/-- Members of different names are all kept, in the order in which they are written. Only a name
that is written twice would replace an earlier member. -/
theorem ofWritten_eq_self {members : Members} (distinct : (Members.keys members).Nodup) :
    Members.ofWritten members = members := by
  -- What has been inserted so far stands in front of what is left.
  have onwards : ∀ front : Members, (Members.keys (front ++ members)).Nodup →
      members.foldl (fun kept member => Members.insert kept member.1 member.2) front =
        front ++ members := by
    clear distinct
    induction members with
    | nil => exact fun front _ => (List.append_nil front).symm
    | cons member rest ih =>
        obtain ⟨key, value⟩ := member
        intro front distinct
        have split : front ++ (key, value) :: rest = front ++ [(key, value)] ++ rest := by
          rw [List.append_assoc, List.singleton_append]
        have new : key ∉ Members.keys front := by
          rw [Members.keys, List.map_append, List.map_cons] at distinct
          intro among
          exact (List.nodup_append.mp distinct).2.2 key among key List.mem_cons_self rfl
        rw [List.foldl_cons]
        dsimp only
        rw [insert_of_not_mem new, split]
        exact ih _ (split ▸ distinct)
  exact onwards [] distinct

/-- A value is read back at every depth that is enough if it is read back one level down. No text of
a value is empty, so that the depth is never zero. -/
theorem readBack_of_succ {value : Json} (opens : Opens (compact value))
    (reads : ∀ depth rest, (compact value).length ≤ depth + 1 → Closes rest →
      scanValue (depth + 1) (compact value ++ rest) = .ok (value, rest)) : ReadBack value := by
  obtain ⟨first, more, text, _⟩ := opens
  intro depth rest deep closes
  cases depth with
  | zero =>
      rw [text] at deep
      exact absurd deep (Nat.not_succ_le_zero more.length)
  | succ depth => exact reads depth rest deep closes

/-- Items that are read back make an array that is read back. The text of the array is longer than
those of its items, so its depth is enough for them. -/
theorem readBack_arr {items : List Json}
    (each : ∀ item ∈ items, Opens (compact item) ∧ ReadBack item) : ReadBack (.arr items) := by
  apply readBack_of_succ ⟨'[', _, rfl, by decide⟩
  intro depth rest deep _
  cases items with
  | nil => rfl
  | cons item others =>
      obtain ⟨opens, _⟩ := each item List.mem_cons_self
      have text : compact (.arr (item :: others)) ++ rest =
          '[' :: (compactItems (item :: others) ++ ']' :: rest) := by
        simp only [compact, List.cons_append, List.append_assoc, List.nil_append]
      have short : (compactItems (item :: others)).length < depth := by
        simp only [compact, List.length_append, List.length_cons, List.length_nil] at deep
        omega
      have opened := (opens_compactItems opens others).append (']' :: rest)
      have start := opened.skipSpace
      obtain ⟨first, more, same, _, notClosed, _⟩ := opened
      rw [text, scanValue, start]
      split
      · next closed =>
          rw [same] at closed
          exact absurd (List.cons.inj closed).1 notClosed
      · rw [scanItems_compactItems (List.cons_ne_nil item others) each short]
        rfl

/-- Members with distinct keys whose values are read back make an object that is read back, with the
keys as they were quoted. -/
theorem readBack_obj {members : Members} (distinct : (Members.keys members).Nodup)
    (each : ∀ member ∈ members, Opens (compact member.2) ∧ ReadBack member.2) :
    ReadBack (.obj members) := by
  apply readBack_of_succ ⟨'{', _, rfl, by decide⟩
  intro depth rest deep _
  cases members with
  | nil => rfl
  | cons member others =>
      have text : compact (.obj (member :: others)) ++ rest =
          '{' :: (compactMembers (member :: others) ++ '}' :: rest) := by
        simp only [compact, List.cons_append, List.append_assoc, List.nil_append]
      have short : (compactMembers (member :: others)).length < depth := by
        simp only [compact, List.length_append, List.length_cons, List.length_nil] at deep
        omega
      have start := ((opens_compactMembers member others).append ('}' :: rest)).skipSpace
      rw [text, scanValue, start]
      split
      · next closed =>
          obtain ⟨more, quote⟩ := exists_compactMembers member others
          rw [quote] at closed
          exact absurd (List.cons.inj closed).1 (by decide)
      · rw [scanMembers_compactMembers (List.cons_ne_nil member others) each short]
        dsimp only [bind, Except.bind]
        rw [ofWritten_eq_self distinct]
        rfl

/-- A value that its text determines as far as the known floating-point numbers are determined by
theirs: no object has two members of one name. -/
inductive Determined (known : Binary64 → Prop) : Json → Prop
  | null : Determined known .null
  | bool (value : Bool) : Determined known (.bool value)
  | int (value : Int) : Determined known (.int value)
  | float {value : Binary64} : known value → Determined known (.float value)
  | str (value : String) : Determined known (.str value)
  | arr {items : List Json} : (∀ item ∈ items, Determined known item) →
      Determined known (.arr items)
  | obj {members : Members} : (Members.keys members).Nodup →
      (∀ member ∈ members, Determined known member.2) → Determined known (.obj members)

/-- A value without numbers with a point is determined, whatever is known of such numbers. -/
theorem Exact.determined {known : Binary64 → Prop} {value : Json} (exact : Exact value) :
    Determined known value := by
  induction exact with
  | null => exact .null
  | bool value => exact .bool value
  | int value => exact .int value
  | str value => exact .str value
  | arr _ ih => exact .arr ih
  | obj distinct _ ih => exact .obj distinct ih

section

variable {known : Binary64 → Prop}
  (floats : ∀ x, known x → Opens (compact (.float x)) ∧ ReadBack (.float x))

include floats

/-- The compact text of a determined value opens a value, so no space in front of it is passed over
by mistake. -/
theorem Determined.opens {value : Json} (determined : Determined known value) :
    Opens (compact value) := by
  cases determined with
  | null => exact ⟨'n', _, rfl, by decide⟩
  | bool value => cases value with
    | false => exact ⟨'f', _, rfl, by decide⟩
    | true => exact ⟨'t', _, rfl, by decide⟩
  | int n =>
      obtain ⟨first, more, digits, digit⟩ := (Whole.decimal n.natAbs).opens
      rw [compact, integer_eq, digits]
      exact opens_number _ digit more
  | float own => exact (floats _ own).1
  | str text => exact opens_quoted text
  | arr _ => exact ⟨'[', _, rfl, by decide⟩
  | obj _ _ => exact ⟨'{', _, rfl, by decide⟩

/-- A value that can be written is read back from its text. The induction is on how the value is
determined, from the items and members to the whole. -/
theorem Determined.readBack {value : Json} (determined : Determined known value)
    (writable : value.isWritable = true) : ReadBack value := by
  induction determined with
  | null => exact readBack_of_succ (Determined.null.opens floats) fun _ _ _ _ => rfl
  | bool value =>
      apply readBack_of_succ ((Determined.bool value).opens floats)
      cases value with
      | false => exact fun _ _ _ _ => rfl
      | true => exact fun _ _ _ _ => rfl
  | int n =>
      apply readBack_of_succ ((Determined.int n).opens floats)
      intro depth rest _ closes
      rw [isWritable, decide_eq_true_eq] at writable
      rw [compact, scanValue_integer]
      exact scanNumber_integer writable closes.endsNumber
  | float own => exact (floats _ own).2
  | str text =>
      apply readBack_of_succ ((Determined.str text).opens floats)
      exact fun depth rest _ _ => scanValue_quoted true depth text rest
  | arr each ih =>
      rw [isWritable] at writable
      apply readBack_arr
      intro item among
      exact ⟨(each item among).opens floats, ih item among (areWritable_iff.mp writable item among)⟩
  | obj distinct each ih =>
      rw [isWritable] at writable
      apply readBack_obj distinct
      intro member among
      exact ⟨(each member among).opens floats,
        ih member among (areMembersWritable_iff.mp writable member among)⟩

/-- The text of a value that can be written is a document of that value. Its depth is bounded by its
length, which is what the reader allows for. -/
theorem Determined.parse_compact {value : Json} (determined : Determined known value)
    (writable : value.isWritable = true) : parse (compact value) = .ok value := by
  have opens := determined.opens floats
  have read := determined.readBack floats writable ((compact value).length + 1) [] (Nat.le_succ _)
    closes_nil
  rw [List.append_nil] at read
  have start := opens.skipSpace
  obtain ⟨first, more, text, _, _, unmarked⟩ := opens
  unfold parse
  split
  · next marked =>
      rw [text] at marked
      exact absurd (List.cons.inj marked).1 unmarked
  · rw [start, read]
    rfl

end

theorem opens_compact {value : Json} (exact : Exact value) : Opens (compact value) :=
  exact.determined.opens fun (_ : Binary64) (none : False) => none.elim

/-- **A document is read back.** The text of a value that can be written is a document of that
value. -/
theorem parse_compact {value : Json} (exact : Exact value) (writable : value.isWritable = true) :
    parse (compact value) = .ok value :=
  exact.determined.parse_compact (fun (_ : Binary64) (none : False) => none.elim) writable

/-- An array of strings is read back, whatever characters the strings have. -/
theorem parse_compact_strings (texts : List String) :
    parse (compact (.arr (texts.map .str))) = .ok (.arr (texts.map .str)) := by
  have writable : isWritable (.arr (texts.map .str)) = true := by
    rw [isWritable]
    induction texts with
    | nil => rfl
    | cons text others ih => exact ih
  apply parse_compact _ writable
  apply Exact.arr
  intro item among
  obtain ⟨text, _, rfl⟩ := List.mem_map.mp among
  exact .str text

end ChainQuery.Json
