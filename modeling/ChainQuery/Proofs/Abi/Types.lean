import ChainQuery.Abi.Value
import ChainQuery.Proofs.Abi.Nesting
import ChainQuery.Proofs.Text.Numerals
import Mathlib.Data.List.Forall2

/-! # The types that parameters denote

A parameter denotes a type through the word of an elementary type or the members of a tuple, with
array dimensions behind it (`Param.Denotes`); its name plays no part. The type is found again from
the text of the parameter's type with tuples spelled out (`Param.Denotes.ofText_canonical`). Types
that are denoted are regular: their sizes are those that words can have, their arrays of fixed
length and their tuples are not empty (`Param.Denotes.regular`).
-/

namespace ChainQuery.Abi

/-- A type of integers, truth values, addresses and bytes, and of arrays and tuples of them, without
empty tuples and arrays of length zero. -/
inductive Ty.Regular : Ty → Prop
  | uint {bits : Nat} : isBitSize bits = true → Regular (.uint bits)
  | int {bits : Nat} : isBitSize bits = true → Regular (.int bits)
  | bool : Regular .bool
  | address : Regular .address
  | fixedBytes {size : Nat} : 1 ≤ size → size ≤ 32 → Regular (.fixedBytes size)
  | bytes : Regular .bytes
  | string : Regular .string
  | array {item : Ty} {size : Option Nat} : Regular item → (∀ count ∈ size, 1 ≤ count) →
      Regular (.array item size)
  | tuple {components : List Ty} : components ≠ [] → (∀ ty ∈ components, Regular ty) →
      Regular (.tuple components)

/-- The elementary types and the words that name them. -/
inductive WordNames : List Char → Ty → Prop
  | uint {bits : Nat} : isBitSize bits = true →
      WordNames ("uint".toList ++ Text.decimal bits) (.uint bits)
  | int {bits : Nat} : isBitSize bits = true →
      WordNames ("int".toList ++ Text.decimal bits) (.int bits)
  | bool : WordNames "bool".toList .bool
  | address : WordNames "address".toList .address
  | fixedBytes {size : Nat} : 1 ≤ size → size ≤ 32 →
      WordNames ("bytes".toList ++ Text.decimal size) (.fixedBytes size)
  | bytes : WordNames "bytes".toList .bytes
  | string : WordNames "string".toList .string

/-- One array dimension. -/
def dimText : Option Nat → List Char
  | none => ['[', ']']
  | some size => '[' :: (Text.decimal size ++ [']'])

/-- The array dimensions behind a type, innermost first. -/
def dimsText (dims : List (Option Nat)) : List Char :=
  dims.flatMap dimText

/-- Dimensions of which none is zero. -/
def DimsFilled (dims : List (Option Nat)) : Prop :=
  ∀ dim ∈ dims, ∀ count ∈ dim, 1 ≤ count

instance (dims : List (Option Nat)) : Decidable (DimsFilled dims) :=
  inferInstanceAs (Decidable (∀ dim ∈ dims, ∀ count ∈ dim, 1 ≤ count))

/-- The types that parameters stand for. -/
inductive Param.Denotes : Param → Ty → Prop
  | elementary {name : Option String} {components : Option (List Param)} {word : List Char}
      {ty : Ty} {dims : List (Option Nat)} : WordNames word ty → DimsFilled dims →
      Denotes ⟨name, String.ofList (word ++ dimsText dims), components⟩ (arraysOf ty dims)
  | tuple {name : Option String} {members : List (Param × Ty)} {dims : List (Option Nat)} :
      members ≠ [] → (∀ member ∈ members, Denotes member.1 member.2) → DimsFilled dims →
      Denotes ⟨name, String.ofList (tupleWord ++ dimsText dims), some (members.map Prod.fst)⟩
        (arraysOf (.tuple (members.map Prod.snd)) dims)

/-- Arrays of a regular type are regular when none of their fixed sizes is zero. -/
theorem regular_arraysOf {ty : Ty} {dims : List (Option Nat)} (regular : ty.Regular)
    (filled : DimsFilled dims) : (arraysOf ty dims).Regular := by
  induction dims generalizing ty with
  | nil => exact regular
  | cons dim rest ih =>
      have first := filled dim List.mem_cons_self
      exact ih (.array regular first) fun other member =>
        filled other (List.mem_cons_of_mem dim member)

/-- The types with names of one word are regular. -/
theorem WordNames.regular {word : List Char} {ty : Ty} (names : WordNames word ty) :
    ty.Regular := by
  cases names with
  | uint size => exact .uint size
  | int size => exact .int size
  | bool => exact .bool
  | address => exact .address
  | fixedBytes filled small => exact .fixedBytes filled small
  | bytes => exact .bytes
  | string => exact .string

/-- A parameter denotes a regular type, at every depth: its tuples have members, and none of its
sizes is zero or too great. -/
theorem Param.Denotes.regular {param : Param} {ty : Ty} (denotes : param.Denotes ty) :
    ty.Regular := by
  induction denotes with
  | elementary names filled => exact regular_arraysOf names.regular filled
  | @tuple name members dims nonempty _ filled ih =>
      refine regular_arraysOf (.tuple ?_ ?_) filled
      · exact fun none => nonempty (List.map_eq_nil_iff.mp none)
      · intro ty among
        obtain ⟨member, inside, rfl⟩ := List.mem_map.mp among
        exact ih member inside

/-- The digits of a whole number are digits of a size. -/
theorem isAsciiDigit_of_mem_decimal {n : Nat} {c : Char} (inside : c ∈ Text.decimal n) :
    isAsciiDigit c = true := by
  obtain ⟨low, high⟩ := Text.digit_of_mem_decimal inside
  rw [isAsciiDigit, decide_eq_true low, decide_eq_true high]
  rfl

/-- A positive size is read back from its digits, as no zero leads them. -/
theorem positive?_decimal {n : Nat} (positive : 0 < n) : positive? (Text.decimal n) = some n := by
  obtain ⟨first, rest, digits, notZero⟩ := Text.head_decimal positive
  have all : (Text.decimal n).all isAsciiDigit = true :=
    List.all_eq_true.mpr fun c inside => isAsciiDigit_of_mem_decimal inside
  have value := Text.ofDigits_decimal n
  rw [digits] at all value ⊢
  simp only [positive?, notZero, all, Bool.not_true, decide_false, Bool.or_false,
    Bool.false_eq_true, ↓reduceIte, value]

/-- A dimension is read together with those behind it: empty brackets are an array of any length,
and digits are a size. -/
theorem dims?_cons {digits : List Char} {size : Option Nat} (inside : ∀ c ∈ digits,
    isAsciiDigit c = true)
    (known : (if digits.isEmpty then some none else (positive? digits).map some) = some size)
    (rest : List Char) :
    dims? ('[' :: (digits ++ ']' :: rest)) = (dims? rest).map (size :: ·) := by
  have ends : ∀ c ∈ (']' :: rest).head?, isAsciiDigit c = false := by
    rintro c ⟨rfl⟩
    decide
  have behind := Text.dropWhile_append_eq inside ends
  have front := Text.takeWhile_append_eq inside ends
  rw [dims?]
  split
  · next after cut =>
      obtain rfl : after = rest := (List.cons.inj (cut.symm.trans behind)).2
      simp only [front, known]
      cases dims? after with
      | none => rfl
      | some dims => rfl
  · next other => exact absurd behind (other rest)

/-- Array brackets that are written for dimensions are read as these dimensions, where no fixed size
is zero. -/
theorem dims?_dimsText {dims : List (Option Nat)} (filled : DimsFilled dims) :
    dims? (dimsText dims) = some dims := by
  induction dims with
  | nil => rw [dimsText, List.flatMap_nil, dims?]
  | cons dim rest ih =>
      have behind := ih fun other member => filled other (List.mem_cons_of_mem dim member)
      have first := filled dim List.mem_cons_self
      rw [dimsText, List.flatMap_cons, ← dimsText]
      cases dim with
      | none =>
          change dims? ('[' :: ([] ++ ']' :: dimsText rest)) = _
          rw [dims?_cons (fun c inside => absurd inside List.not_mem_nil) rfl, behind]
          rfl
      | some size =>
          have positive := positive?_decimal (first size rfl)
          have filled : (Text.decimal size).isEmpty = false := by
            obtain ⟨digit, others, digits, _⟩ := Text.head_decimal (first size rfl)
            rw [digits]
            rfl
          rw [dimText, List.cons_append, List.append_assoc, List.singleton_append,
            @dims?_cons _ (some size) fun c inside => isAsciiDigit_of_mem_decimal inside, behind]
          · rfl
          · rw [filled, positive]
            rfl

/-- What is written for dimensions starts with a bracket, if with anything. -/
theorem head_dimsText {dims : List (Option Nat)} : ∀ c ∈ (dimsText dims).head?, c = '[' := by
  cases dims with
  | nil => exact fun c member => nomatch member
  | cons dim rest =>
      cases dim with
      | none =>
          rintro c ⟨rfl⟩
          rfl
      | some size =>
          rintro c ⟨rfl⟩
          rfl

/-- In front of array brackets there is no size. -/
theorem takeSize_dimsText (dims : List (Option Nat)) :
    takeSize (dimsText dims) = some (.none, dimsText dims) := by
  have ends : ∀ c ∈ (dimsText dims).head?, isAsciiDigit c = false := by
    intro c member
    rw [head_dimsText c member]
    decide
  have front := @Text.takeWhile_append_eq isAsciiDigit [] _
    (fun c inside => absurd inside List.not_mem_nil) ends
  rw [List.nil_append] at front
  simp only [takeSize, front, List.isEmpty_nil, ↓reduceIte]

/-- A positive size is taken in front of array brackets, up to the first of them, and the brackets
are left. -/
theorem takeSize_decimal {n : Nat} (positive : 0 < n) (dims : List (Option Nat)) :
    takeSize (Text.decimal n ++ dimsText dims) = some (.one n, dimsText dims) := by
  have ends : ∀ c ∈ (dimsText dims).head?, isAsciiDigit c = false := by
    intro c member
    rw [head_dimsText c member]
    decide
  have inside : ∀ c ∈ Text.decimal n, isAsciiDigit c = true :=
    fun c inside => isAsciiDigit_of_mem_decimal inside
  have front := Text.takeWhile_append_eq inside ends
  have behind := Text.dropWhile_append_eq inside ends
  have filled : (Text.decimal n).isEmpty = false := by
    obtain ⟨digit, others, digits, _⟩ := Text.head_decimal positive
    rw [digits]
    rfl
  simp only [takeSize, front, behind, filled, positive?_decimal positive, Bool.false_eq_true,
    ↓reduceIte]
  split
  · next more known last =>
      have bracket := head_dimsText 'x' (by rw [last]; rfl)
      exact absurd bracket (by decide)
  · next known _ => rw [← Option.some.inj known]
  · next none => exact nomatch none

/-- A type name with sizes that are allowed, which stands for a type wherever it occurs. -/
structure TypeName.StandsFor (name : TypeName) (ty : Ty) : Prop where
  sizes : name.sizesAllowed = true
  inner : name.innerType = .ok ty
  outer : name.toType = .ok ty

/-- A base of letters is read up to its first other character, and what follows it is its size and
its dimensions. -/
theorem wordName?_eq {base sized : List Char} {size : Size} {dims : List (Option Nat)}
    (nonempty : base ≠ []) (letters : ∀ c ∈ base, isLetter c = true)
    (ends : ∀ c ∈ (sized ++ dimsText dims).head?, isLetter c = false)
    (found : takeSize (sized ++ dimsText dims) = some (size, dimsText dims))
    (filled : DimsFilled dims) :
    wordName? (base ++ (sized ++ dimsText dims)) = some (.word (String.ofList base) size dims) := by
  have front := Text.takeWhile_append_eq letters ends
  have behind := Text.dropWhile_append_eq letters ends
  simp only [wordName?, front, behind, found, dims?_dimsText filled, Option.map_some,
    List.isEmpty_eq_false_iff.mpr nonempty, Bool.false_eq_true, ↓reduceIte]

/-- The name of a word that has no size. -/
theorem wordName?_sizeless {base : List Char} {dims : List (Option Nat)} (nonempty : base ≠ [])
    (letters : ∀ c ∈ base, isLetter c = true) (filled : DimsFilled dims) :
    wordName? (base ++ dimsText dims) = some (.word (String.ofList base) .none dims) := by
  have ends : ∀ c ∈ ([] ++ dimsText dims).head?, isLetter c = false := by
    intro c member
    rw [head_dimsText c member]
    decide
  exact wordName?_eq nonempty letters ends (takeSize_dimsText dims) filled

/-- No digit is a letter, so the base of a type ends where its size starts. -/
theorem isLetter_eq_false_of_isAsciiDigit {c : Char} (digit : isAsciiDigit c = true) :
    isLetter c = false := by
  simp only [isAsciiDigit, Bool.and_eq_true, decide_eq_true_eq] at digit
  have high : c.toNat ≤ 57 := digit.2
  have notUpper : ¬ 'A' ≤ c := by
    intro upper
    have low : 65 ≤ c.toNat := upper
    omega
  have notLower : ¬ 'a' ≤ c := by
    intro lower
    have low : 97 ≤ c.toNat := lower
    omega
  rw [isLetter, decide_eq_false notUpper, decide_eq_false notLower]
  rfl

/-- The name of a word with a size: its letters are the base, its digits the size and its brackets
the dimensions. -/
theorem wordName?_sized {base : List Char} {size : Nat} {dims : List (Option Nat)}
    (nonempty : base ≠ []) (letters : ∀ c ∈ base, isLetter c = true) (positive : 0 < size)
    (filled : DimsFilled dims) :
    wordName? (base ++ Text.decimal size ++ dimsText dims) =
      some (.word (String.ofList base) (.one size) dims) := by
  have ends : ∀ c ∈ (Text.decimal size ++ dimsText dims).head?, isLetter c = false := by
    intro c member
    obtain ⟨first, rest, digits, _⟩ := Text.head_decimal positive
    have digit := @isAsciiDigit_of_mem_decimal size first (by rw [digits]; exact .head rest)
    rw [digits] at member
    obtain rfl : first = c := Option.some.inj member
    exact isLetter_eq_false_of_isAsciiDigit digit
  rw [List.append_assoc]
  exact wordName?_eq nonempty letters ends (takeSize_decimal positive dims) filled

theorem pos_of_isBitSize {bits : Nat} (size : isBitSize bits = true) : 0 < bits := by
  simp only [isBitSize, Bool.and_eq_true, decide_eq_true_eq] at size
  omega

/-- A word with a size that it may have stands for arrays over the type of the word, with one
dimension for each pair of brackets. -/
theorem TypeName.standsFor_sized {base : String} {size : Nat} {ty : Ty}
    (listed : typeWords.contains base = true) (allowed : sizeAllowed base (.one size) = true)
    (typed : typeOfWord base (.one size) = .ok ty) (dims : List (Option Nat)) :
    (TypeName.word base (.one size) dims).StandsFor (arraysOf ty dims) := by
  have complete : completed base (.one size) = (base, .one size) := if_pos nofun
  have inner : (TypeName.word base (.one size) dims).innerType = .ok (arraysOf ty dims) := by
    simp only [TypeName.innerType, complete, listed, allowed, typed, Bool.not_true, Bool.false_and,
      Bool.false_eq_true, ↓reduceIte]
    rfl
  refine ⟨?_, inner, ?_⟩
  · rw [TypeName.sizesAllowed, complete]
    exact allowed
  · rw [TypeName.toType]
    · exact inner
    · intro word
      exact nomatch word

/-- The word of an elementary type with dimensions behind it spells a name that stands for an array
type over it. -/
theorem WordNames.standsFor {word : List Char} {ty : Ty} {dims : List (Option Nat)}
    (names : WordNames word ty) (filled : DimsFilled dims) :
    ∃ name, wordName? (word ++ dimsText dims) = some name ∧
      name.StandsFor (arraysOf ty dims) := by
  cases names with
  | uint size =>
      exact ⟨_, wordName?_sized (by decide) (by decide) (pos_of_isBitSize size) filled,
        @TypeName.standsFor_sized "uint" _ _ (by decide) size rfl dims⟩
  | int size =>
      exact ⟨_, wordName?_sized (by decide) (by decide) (pos_of_isBitSize size) filled,
        @TypeName.standsFor_sized "int" _ _ (by decide) size rfl dims⟩
  | bool => exact ⟨_, wordName?_sizeless (by decide) (by decide) filled, rfl, rfl, rfl⟩
  | address => exact ⟨_, wordName?_sizeless (by decide) (by decide) filled, rfl, rfl, rfl⟩
  | fixedBytes positive small =>
      exact ⟨_, wordName?_sized (by decide) (by decide) positive filled,
        @TypeName.standsFor_sized "bytes" _ _ (by decide) (decide_eq_true small) rfl dims⟩
  | bytes => exact ⟨_, wordName?_sizeless (by decide) (by decide) filled, rfl, rfl, rfl⟩
  | string => exact ⟨_, wordName?_sizeless (by decide) (by decide) filled, rfl, rfl, rfl⟩

/-- The name of an elementary type has no parenthesis in front of it and is read as one word. -/
theorem parse?_word {word : List Char} {ty : Ty} (names : WordNames word ty) (rest : List Char) :
    TypeName.parse? (word ++ rest) = wordName? (word ++ rest) := by
  cases names <;>
  · rw [TypeName.parse?]
    intro _ first
    exact absurd (List.head_eq_of_cons_eq first) (by decide)

/-- Names of types in parentheses are read as the tuple of these names, with its array brackets
behind them. -/
theorem parse?_tuple {pieces : List (List Char)} {names : List TypeName}
    {dims : List (Option Nat)} (nonempty : pieces ≠ []) (solid : ∀ piece ∈ pieces, Solid piece)
    (read : pieces.mapM TypeName.parse? = some names) (filled : DimsFilled dims) :
    TypeName.parse? ('(' :: (Text.joinWith [','] pieces ++ ')' :: dimsText dims)) =
      some (.tuple names dims) := by
  have group := takeGroup_balanced (balanced_joinWith solid) (dimsText dims)
  have members : ((Text.joinWith [','] pieces |> splitTop 0).attach.mapM
      fun piece => TypeName.parse? piece.1) = some names := by
    change (splitTop 0 _).attach.mapM (TypeName.parse? ∘ Subtype.val) = _
    rw [← List.mapM_map, List.attach_map_subtype_val, splitTop_joinWith nonempty solid, read]
  rw [TypeName.parse?]
  split
  · next none => cases none.symm.trans group
  · next inside behind grouped =>
      obtain ⟨rfl, rfl⟩ := Prod.mk.inj (Option.some.inj (grouped.symm.trans group))
      rw [dims?_dimsText filled]
      simp only [Option.bind_eq_bind]
      rw [members]
      rfl

theorem plain_decimal (n : Nat) : Plain (Text.decimal n) := by
  intro c inside
  have digit := isAsciiDigit_of_mem_decimal inside
  refine ⟨?_, ?_, ?_⟩ <;>
  · rintro rfl
    exact absurd digit (by decide)

/-- Array brackets have neither parentheses nor commas. -/
theorem plain_dimsText (dims : List (Option Nat)) : Plain (dimsText dims) := by
  intro c inside
  obtain ⟨dim, _, inside⟩ := List.mem_flatMap.mp inside
  have brackets : Plain ['['] ∧ Plain [']'] := by decide
  have plain : Plain (dimText dim) := by
    cases dim with
    | none => exact brackets.1.append brackets.2
    | some size => exact brackets.1.append ((plain_decimal size).append brackets.2)
  exact plain c inside

/-- The name of an elementary type has neither parentheses nor commas. -/
theorem WordNames.plain {word : List Char} {ty : Ty} (names : WordNames word ty) : Plain word := by
  have words : Plain "uint".toList ∧ Plain "int".toList ∧ Plain "bytes".toList := by decide
  cases names with
  | uint => exact words.1.append (plain_decimal _)
  | int => exact words.2.1.append (plain_decimal _)
  | fixedBytes => exact words.2.2.append (plain_decimal _)
  | bool => decide
  | address => decide
  | bytes => decide
  | string => decide

/-- No name of an elementary type starts with the word `tuple`. -/
theorem WordNames.tupleSuffix?_eq {word : List Char} {ty : Ty} (names : WordNames word ty)
    (rest : List Char) : Param.tupleSuffix? (String.ofList (word ++ rest)) = none := by
  rw [Param.tupleSuffix?, String.toList_ofList]
  cases names <;> rfl

/-- The members of a tuple are named one by one: if the canonical text of each is a name that stands
for its type, the names together stand for the types in order. -/
theorem exists_names {members : List (Param × Ty)}
    (each : ∀ member ∈ members, ∃ name, TypeName.parse? member.1.canonical = some name ∧
      name.StandsFor member.2) :
    ∃ names, ((members.map Prod.fst).map Param.canonical).mapM TypeName.parse? = some names ∧
      TypeName.allSizesAllowed names = true ∧
      TypeName.innerTypes names = .ok (members.map Prod.snd) := by
  induction members with
  | nil => exact ⟨[], rfl, rfl, rfl⟩
  | cons member rest ih =>
      obtain ⟨name, read, standsFor⟩ := each member List.mem_cons_self
      obtain ⟨names, others, sizes, types⟩ :=
        ih fun other among => each other (List.mem_cons_of_mem member among)
      refine ⟨name :: names, ?_, ?_, ?_⟩
      · simp only [List.map_cons, List.mapM_cons, read, others, Option.bind_eq_bind,
          Option.bind_some]
        rfl
      · rw [TypeName.allSizesAllowed, standsFor.sizes, sizes]
        rfl
      · rw [TypeName.innerTypes, standsFor.inner, types]
        rfl

namespace Param.Denotes

/-- The text of a parameter's type is one piece of a list and spells a name that stands for the
type. -/
theorem named {param : Param} {ty : Ty} (denotes : param.Denotes ty) :
    Solid param.canonical ∧
      ∃ name, TypeName.parse? param.canonical = some name ∧ name.StandsFor ty := by
  induction denotes with
  | @elementary name components word ty dims names filled =>
      obtain ⟨typeName, spelled, standsFor⟩ := names.standsFor filled
      have text : canonical ⟨name, String.ofList (word ++ dimsText dims), components⟩ =
          word ++ dimsText dims := by
        rw [canonical.eq_def]
        dsimp only
        rw [names.tupleSuffix?_eq]
        exact String.toList_ofList
      rw [text]
      refine ⟨(names.plain.append (plain_dimsText dims)).solid, typeName, ?_, standsFor⟩
      rw [parse?_word names, spelled]
  | @tuple _ members dims nonempty _ filled ih =>
      have solid : ∀ piece ∈ (members.map Prod.fst).map canonical, Solid piece := by
        intro piece among
        rw [List.map_map] at among
        obtain ⟨member, inside, rfl⟩ := List.mem_map.mp among
        exact (ih member inside).1
      have pieces : (members.map Prod.fst).map canonical ≠ [] := by
        rw [List.map_map]
        exact fun none => nonempty (List.map_eq_nil_iff.mp none)
      obtain ⟨names, read, sizes, types⟩ := exists_names fun member inside => (ih member inside).2
      have suffix : tupleSuffix? (String.ofList (tupleWord ++ dimsText dims)) =
          some (dimsText dims) := by
        rw [tupleSuffix?, String.toList_ofList]
        rfl
      rw [canonical, suffix]
      dsimp only
      rw [canonicalAll_eq_map, List.cons_append]
      refine ⟨.group (balanced_joinWith solid) (plain_dimsText dims).solid,
        .tuple names dims, parse?_tuple pieces solid read filled, sizes, ?_, ?_⟩
      all_goals
      · change TypeName.innerType (.tuple names dims) = _
        rw [TypeName.innerType, sizes, types]
        rfl

/-- The type that a parameter denotes is found from the text of its type. -/
theorem ofText_canonical {param : Param} {ty : Ty} (denotes : param.Denotes ty) :
    Ty.ofText param.canonical = .ok ty := by
  obtain ⟨_, name, read, standsFor⟩ := denotes.named
  rw [Ty.ofText, read]
  exact standsFor.outer

end Param.Denotes

/-- The types of a shape are found from its parameters. -/
theorem ofParams_of_denotes {params : List Param} {types : List Ty}
    (denotes : List.Forall₂ Param.Denotes params types) : Ty.ofParams params = .ok types := by
  unfold Ty.ofParams
  induction denotes with
  | nil => rfl
  | cons first _ ih =>
      rw [List.mapM_cons, first.ofText_canonical, ih]
      rfl

theorem regular_of_denotes {params : List Param} {types : List Ty}
    (denotes : List.Forall₂ Param.Denotes params types) : ∀ ty ∈ types, ty.Regular := by
  induction denotes with
  | nil => exact fun ty member => absurd member List.not_mem_nil
  | cons first _ ih => exact List.forall_mem_cons.mpr ⟨first.regular, ih⟩

end ChainQuery.Abi
