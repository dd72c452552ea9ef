import ChainQuery.Text.Blank
import ChainQuery.Text.Digit
import ChainQuery.Text.Word
import Mathlib.Data.List.DropRight
import Mathlib.Data.List.TakeWhile

/-! # Trimming and words

Blanks around a text change neither its trimmed form (`trim_append_left`, `trim_append_right`) nor
its words (`words_trim`). A text is cut into words one by one: a stretch without blanks that is
followed by a blank is the first word (`words_cons`).

No blank is a digit or a word character (`isBlank_eq_false_of_isDigit`,
`isWordChar_eq_false_of_isBlank`), so that blanks end both.
-/

namespace ChainQuery.Text

/-- What holds of every character of a text is decided along the text, not over all characters. -/
instance (priority := 2000) decidableForallMem {p : Char → Prop} [DecidablePred p]
    (text : List Char) : Decidable (∀ c ∈ text, p c) :=
  text.decidableBAll p

/-- A text of blanks alone. -/
def AllBlank (text : List Char) : Prop :=
  ∀ c ∈ text, isBlank c = true

instance (text : List Char) : Decidable (AllBlank text) :=
  inferInstanceAs (Decidable (∀ c ∈ text, isBlank c = true))

/-- A text without blanks. -/
def NoBlank (text : List Char) : Prop :=
  ∀ c ∈ text, isBlank c = false

instance (text : List Char) : Decidable (NoBlank text) :=
  inferInstanceAs (Decidable (∀ c ∈ text, isBlank c = false))

theorem allBlank_nil : AllBlank [] := by
  intro c member
  exact absurd member List.not_mem_nil

/-- A stretch ends where the text behind it starts with a character of another kind, or where there
is none. -/
theorem takeWhile_append_eq {p : Char → Bool} {first rest : List Char}
    (inside : ∀ c ∈ first, p c = true) (ends : ∀ c ∈ rest.head?, p c = false) :
    (first ++ rest).takeWhile p = first := by
  rw [List.takeWhile_append_of_pos inside]
  cases rest with
  | nil => exact List.append_nil _
  | cons c rest =>
      have stop : p c = false := ends c rfl
      rw [List.takeWhile_cons, stop]
      exact List.append_nil _

/-- A stretch of characters of one kind is dropped as a whole, and nothing of what follows it, once
the next character is of another kind. -/
theorem dropWhile_append_eq {p : Char → Bool} {first rest : List Char}
    (inside : ∀ c ∈ first, p c = true) (ends : ∀ c ∈ rest.head?, p c = false) :
    (first ++ rest).dropWhile p = rest := by
  rw [List.dropWhile_append_of_pos inside]
  cases rest with
  | nil => rfl
  | cons c rest =>
      have stop : p c = false := ends c rfl
      rw [List.dropWhile_cons, stop]
      rfl

/-- A stretch of one kind at the end of a text is dropped, and whatever else would be dropped in
front of it goes as before. -/
theorem dropEndWhile_append {p : Char → Bool} (text : List Char) {last : List Char}
    (inside : ∀ c ∈ last, p c = true) : dropEndWhile p (text ++ last) = dropEndWhile p text := by
  unfold dropEndWhile
  rw [List.reverse_append, List.dropWhile_append_of_pos]
  intro c member
  exact inside c (List.mem_reverse.mp member)

/-- A text whose last character is of another kind keeps its end. -/
theorem dropEndWhile_eq_self {p : Char → Bool} {text : List Char}
    (ends : ∀ c ∈ text.getLast?, p c = false) : dropEndWhile p text = text := by
  apply List.rdropWhile_eq_self_iff.mpr
  intro nonempty
  rw [ends _ (List.getLast?_eq_getLast_of_ne_nil nonempty)]
  exact Bool.false_ne_true

theorem trimStart_append {gap : List Char} (blank : AllBlank gap) (text : List Char) :
    trimStart (gap ++ text) = trimStart text :=
  List.dropWhile_append_of_pos blank

theorem trimStart_eq_self {text : List Char} (starts : ∀ c ∈ text.head?, isBlank c = false) :
    trimStart text = text :=
  @dropWhile_append_eq isBlank [] text (fun _ member => absurd member List.not_mem_nil) starts

theorem trimStart_eq_nil {gap : List Char} (blank : AllBlank gap) : trimStart gap = [] := by
  rw [← List.append_nil gap, trimStart_append blank]
  rfl

theorem trimEnd_append (text : List Char) {gap : List Char} (blank : AllBlank gap) :
    trimEnd (text ++ gap) = trimEnd text :=
  dropEndWhile_append text blank

/-- The blanks that trimming takes off the front. -/
theorem exists_trimStart (text : List Char) :
    ∃ gap, AllBlank gap ∧ text = gap ++ trimStart text := by
  refine ⟨text.takeWhile isBlank, ?_, List.takeWhile_append_dropWhile.symm⟩
  intro c member
  exact List.mem_takeWhile_imp member

/-- The blanks that trimming takes off the end. -/
theorem exists_trimEnd (text : List Char) : ∃ gap, AllBlank gap ∧ text = trimEnd text ++ gap := by
  obtain ⟨gap, blank, split⟩ := exists_trimStart text.reverse
  refine ⟨gap.reverse, fun c member => blank c (List.mem_reverse.mp member), ?_⟩
  calc text = text.reverse.reverse := (List.reverse_reverse text).symm
    _ = (gap ++ trimStart text.reverse).reverse := congrArg List.reverse split
    _ = trimEnd text ++ gap.reverse := List.reverse_append

/-- A gap in front of a text makes no difference once the text is trimmed, so that a reader may take
any number of blanks there. -/
theorem trim_append_left {gap : List Char} (blank : AllBlank gap) (text : List Char) :
    trim (gap ++ text) = trim text := by
  rw [trim, trimStart_append blank, trim]

/-- A gap behind a text makes no difference once the text is trimmed. -/
theorem trim_append_right (text : List Char) {gap : List Char} (blank : AllBlank gap) :
    trim (text ++ gap) = trim text := by
  unfold trim trimStart
  rw [List.dropWhile_append]
  by_cases none : (text.dropWhile isBlank).isEmpty = true
  · rw [if_pos none, List.isEmpty_iff.mp none]
    exact congrArg trimEnd (trimStart_eq_nil blank)
  · rw [if_neg none, trimEnd_append _ blank]

/-- A text without blanks at its ends is not changed. -/
theorem trim_eq_self {text : List Char} (starts : ∀ c ∈ text.head?, isBlank c = false)
    (ends : ∀ c ∈ text.getLast?, isBlank c = false) : trim text = text := by
  rw [trim, trimStart_eq_self starts]
  exact dropEndWhile_eq_self ends

theorem trim_of_noBlank {text : List Char} (noBlank : NoBlank text) : trim text = text :=
  trim_eq_self (fun c member => noBlank c (List.mem_of_head? member))
    fun c member => noBlank c (List.mem_of_getLast? member)

/-- The blanks that trimming takes off both ends. -/
theorem exists_trim (text : List Char) :
    ∃ before after, AllBlank before ∧ AllBlank after ∧ text = before ++ trim text ++ after := by
  obtain ⟨before, blankBefore, split⟩ := exists_trimStart text
  obtain ⟨after, blankAfter, split'⟩ := exists_trimEnd (trimStart text)
  exact ⟨before, after, blankBefore, blankAfter,
    by rw [trim, List.append_assoc, ← split', ← split]⟩

/-- Trimming a text once more changes nothing. -/
theorem trim_trim (text : List Char) : trim (trim text) = trim text := by
  obtain ⟨before, after, blankBefore, blankAfter, split⟩ := exists_trim text
  conv_rhs => rw [split, trim_append_right _ blankAfter, trim_append_left blankBefore]

/-- A text with a solid character is not trimmed away. -/
theorem trim_ne_nil {text : List Char} {c : Char} (member : c ∈ text) (solid : isBlank c = false) :
    trim text ≠ [] := by
  intro empty
  obtain ⟨before, after, blankBefore, blankAfter, split⟩ := exists_trim text
  rw [empty, List.append_nil] at split
  rw [split] at member
  have blank : isBlank c = true :=
    (List.mem_append.mp member).elim (blankBefore c) (blankAfter c)
  exact Bool.false_ne_true (solid.symm.trans blank)

/-- What is left of a text behind its first blanks does not start with a blank. -/
theorem head_trimStart (text : List Char) :
    ∀ c ∈ (trimStart text).head?, isBlank c = false := by
  intro c member
  have stops := List.head?_dropWhile_not isBlank text
  rw [trimStart] at member
  rwa [member] at stops

/-- A trimmed text does not end in a blank. -/
theorem getLast_trimEnd (text : List Char) :
    ∀ c ∈ (trimEnd text).getLast?, isBlank c = false := by
  intro c member
  rw [trimEnd, dropEndWhile, List.getLast?_reverse] at member
  have stops := List.head?_dropWhile_not isBlank text.reverse
  rw [member] at stops
  simpa using stops

/-- A text ends as its back does, or as its front does if there is nothing behind it. -/
theorem forall_getLast?_append {p : Char → Prop} {front back : List Char}
    (ends : ∀ c ∈ back.getLast?, p c) (bare : back = [] → ∀ c ∈ front.getLast?, p c) :
    ∀ c ∈ (front ++ back).getLast?, p c := by
  intro c member
  rw [List.getLast?_append] at member
  cases last : back.getLast? with
  | none =>
      rw [last, Option.none_or] at member
      exact bare (List.getLast?_eq_none_iff.mp last) c member
  | some d =>
      rw [last] at member
      obtain rfl : d = c := Option.some.inj member
      exact ends d last

/-- The front of a text stays if it starts and ends with other characters than blanks, so only what
stands behind it is trimmed. -/
theorem trim_append_cons {front rest : List Char} {c : Char}
    (starts : ∀ d ∈ (front ++ c :: rest).head?, isBlank d = false) (solid : isBlank c = false) :
    trim (front ++ c :: rest) = front ++ c :: trimEnd rest := by
  obtain ⟨gap, blank, split⟩ := exists_trimEnd rest
  have whole : front ++ c :: rest = (front ++ c :: trimEnd rest) ++ gap := by
    rw [List.append_assoc, List.cons_append, ← split]
  rw [whole, trim_append_right _ blank]
  apply trim_eq_self
  · intro d member
    apply starts d
    rw [whole, List.head?_append, member]
    rfl
  · rw [List.append_cons]
    apply forall_getLast?_append (getLast_trimEnd rest)
    intro _ d member
    rw [List.getLast?_concat] at member
    obtain rfl : c = d := Option.some.inj member
    exact solid

/-- Trimming takes blanks off the front alone if the text ends otherwise, so both ends may be
treated one after the other. -/
theorem trim_eq_trimStart {text : List Char} (ends : ∀ c ∈ text.getLast?, isBlank c = false) :
    trim text = trimStart text := by
  apply dropEndWhile_eq_self
  intro c member
  obtain ⟨gap, _, split⟩ := exists_trimStart text
  apply ends c
  rw [split, List.getLast?_append, member]
  rfl

/-- Blanks in front of a text that does not end in one are taken off. -/
theorem trimStart_trimEnd {gap text : List Char} (blank : AllBlank gap)
    (ends : ∀ c ∈ text.getLast?, isBlank c = false) :
    trimStart (trimEnd (gap ++ text)) = trimStart text := by
  by_cases empty : text = []
  · subst empty
    have none : trimEnd gap = [] := trimEnd_append [] blank
    rw [List.append_nil, none]
  · have whole : trimEnd (gap ++ text) = gap ++ text := by
      apply dropEndWhile_eq_self
      exact forall_getLast?_append ends fun none => absurd none empty
    rw [whole, trimStart_append blank]

section

variable {mark : Char} {piece text : List Char}

/-- A text is cut at its first mark: the piece in front of it has none, so the search goes over the
whole piece and stops there. -/
theorem cutAt_append (free : mark ∉ piece) (rest : List Char) :
    cutAt mark (piece ++ mark :: rest) = some (piece, rest) := by
  induction piece with
  | nil => rw [List.nil_append, cutAt, if_pos rfl]
  | cons c piece ih =>
      have other : c ≠ mark := fun same => free (same ▸ List.mem_cons_self)
      rw [List.cons_append, cutAt, if_neg other, ih fun inside => free (List.mem_cons_of_mem c inside)]
      rfl

/-- A text without the mark is not cut. -/
theorem cutAt_eq_none (free : mark ∉ text) : cutAt mark text = none := by
  induction text with
  | nil => rfl
  | cons c text ih =>
      have other : c ≠ mark := fun same => free (same ▸ List.mem_cons_self)
      rw [cutAt, if_neg other, ih fun inside => free (List.mem_cons_of_mem c inside)]
      rfl

/-- Joined pieces hold only what the separator or one of them holds, so a mark that none of them has
is not among them. -/
theorem not_mem_joinWith {separator : List Char} {pieces : List (List Char)}
    (between : mark ∉ separator) (free : ∀ piece ∈ pieces, mark ∉ piece) :
    mark ∉ joinWith separator pieces := by
  unfold joinWith
  induction pieces with
  | nil => exact List.not_mem_nil
  | cons piece rest ih =>
      obtain ⟨first, others⟩ := List.forall_mem_cons.mp free
      cases rest with
      | nil =>
          rw [List.intercalate_singleton]
          exact first
      | cons next rest =>
          rw [List.intercalate_cons_cons, List.mem_append, List.mem_append]
          rintro ((inside | inside) | inside)
          · exact first inside
          · exact between inside
          · exact ih others inside

end

/-- A piece without a cut is the only piece. -/
theorem splitWhere_of_forall {p : Char → Bool} {piece : List Char}
    (inside : ∀ c ∈ piece, p c = false) : splitWhere p piece = [piece] := by
  induction piece with
  | nil => rfl
  | cons c rest ih =>
      have other : p c = false := inside c List.mem_cons_self
      rw [splitWhere, other, ih fun d member => inside d (List.mem_cons_of_mem c member)]
      rfl

/-- The first piece ends at the first character that cuts, and the pieces behind it are those of the
rest. -/
theorem splitWhere_append_cons {p : Char → Bool} {piece : List Char} {mark : Char}
    (inside : ∀ c ∈ piece, p c = false) (cut : p mark = true) (rest : List Char) :
    splitWhere p (piece ++ mark :: rest) = piece :: splitWhere p rest := by
  induction piece with
  | nil => rw [List.nil_append, splitWhere, if_pos cut]
  | cons c piece ih =>
      have other : p c = false := inside c List.mem_cons_self
      rw [List.cons_append, splitWhere, other,
        ih fun d member => inside d (List.mem_cons_of_mem c member)]
      rfl

/-- A blank at the front belongs to no word. -/
theorem words_blank {c : Char} (blank : isBlank c = true) (rest : List Char) :
    words (c :: rest) = words rest := by
  rw [words, splitWhere, if_pos blank]
  rfl

/-- A gap in front of a text adds no words: between its blanks stand only empty pieces, which are no
words. -/
theorem words_append_left {gap : List Char} (blank : AllBlank gap) (text : List Char) :
    words (gap ++ text) = words text := by
  induction gap with
  | nil => rfl
  | cons c gap ih =>
      rw [List.cons_append, words_blank (blank c List.mem_cons_self),
        ih fun d member => blank d (List.mem_cons_of_mem c member)]

/-- A stretch without blanks is a word. -/
theorem words_of_noBlank {word : List Char} (nonempty : word ≠ []) (solid : NoBlank word) :
    words word = [word] := by
  rw [words, splitWhere_of_forall solid]
  simp [nonempty]

/-- A stretch without blanks in front of a blank is the first word. -/
theorem words_cons {word : List Char} (nonempty : word ≠ []) (solid : NoBlank word) {c : Char}
    (blank : isBlank c = true) (rest : List Char) :
    words (word ++ c :: rest) = word :: words rest := by
  rw [words, splitWhere_append_cons solid blank]
  simp [nonempty, words]

/-- Each character that cuts behind a text adds one empty piece at the end, and the pieces of the
text stay as they are. -/
theorem splitWhere_append_of_forall {p : Char → Bool} (text : List Char) {gap : List Char}
    (cut : ∀ c ∈ gap, p c = true) :
    splitWhere p (text ++ gap) = splitWhere p text ++ List.replicate gap.length [] := by
  induction text with
  | nil =>
      induction gap with
      | nil => rfl
      | cons c gap ih =>
          have rest := ih fun d member => cut d (List.mem_cons_of_mem c member)
          simp only [List.nil_append, splitWhere, cut c List.mem_cons_self, ↓reduceIte] at rest ⊢
          exact congrArg ([] :: ·) rest
  | cons c text ih =>
      rw [List.cons_append, splitWhere, splitWhere, ih]
      by_cases cuts : p c = true
      · rw [if_pos cuts, if_pos cuts]
        rfl
      · rw [if_neg cuts, if_neg cuts]
        cases pieces : splitWhere p text with
        | nil => exact absurd pieces (splitWhere_ne_nil p text)
        | cons first others => rfl

/-- A gap behind a text adds no words. -/
theorem words_append_right (text : List Char) {gap : List Char} (blank : AllBlank gap) :
    words (text ++ gap) = words text := by
  rw [words, splitWhere_append_of_forall text blank, List.filter_append]
  have none : (List.replicate gap.length ([] : List Char)).filter (fun piece => !piece.isEmpty) =
      [] := by
    rw [List.filter_eq_nil_iff]
    intro piece member
    simp [(List.mem_replicate.mp member).2]
  rw [none, List.append_nil, words]

theorem words_trimStart (text : List Char) : words (trimStart text) = words text := by
  obtain ⟨gap, blank, split⟩ := exists_trimStart text
  conv_rhs => rw [split, words_append_left blank]

theorem words_trim (text : List Char) : words (trim text) = words text := by
  obtain ⟨before, after, blankBefore, blankAfter, split⟩ := exists_trim text
  conv_rhs => rw [split, words_append_right _ blankAfter, words_append_left blankBefore]

/-- A text that is not blank has a first word, which ends in front of a blank or at its end. Words
are found one by one in this way. -/
theorem exists_firstWord (text : List Char) :
    AllBlank text ∨ ∃ gap word rest, AllBlank gap ∧ word ≠ [] ∧ NoBlank word ∧
      (∀ c ∈ rest.head?, isBlank c = true) ∧ text = gap ++ (word ++ rest) := by
  obtain ⟨gap, blank, split⟩ := exists_trimStart text
  have first := head_trimStart text
  generalize trimStart text = started at split first
  subst split
  cases started with
  | nil => exact Or.inl ((List.append_nil gap).symm ▸ blank)
  | cons c tail =>
      refine Or.inr ⟨gap, (c :: tail).takeWhile (!isBlank ·), (c :: tail).dropWhile (!isBlank ·),
        blank, ?_, ?_, ?_, by rw [List.takeWhile_append_dropWhile]⟩
      · rw [List.takeWhile_cons_of_pos (by rw [first c rfl]; rfl)]
        exact List.cons_ne_nil _ _
      · intro d member
        have kept := List.mem_takeWhile_imp member
        rwa [Bool.not_eq_true'] at kept
      · intro d member
        have stops := List.head?_dropWhile_not (!isBlank ·) (c :: tail)
        rw [member] at stops
        simpa using stops

/-- The code points of the blanks. -/
def blankCodes : List Nat :=
  [9, 10, 11, 12, 13, 28, 29, 30, 31, 32, 0x85, 0xA0, 0x1680, 0x2000, 0x2001, 0x2002, 0x2003,
    0x2004, 0x2005, 0x2006, 0x2007, 0x2008, 0x2009, 0x200A, 0x2028, 0x2029, 0x202F, 0x205F, 0x3000]

/-- The table of blanks is complete: a statement about every blank can be checked by going through
its codes. -/
theorem mem_blankCodes {c : Char} (blank : isBlank c = true) : c.toNat ∈ blankCodes := by
  simp only [isBlank, Bool.or_eq_true, Bool.and_eq_true, decide_eq_true_eq, beq_iff_eq] at blank
  simp only [blankCodes, List.mem_cons, List.not_mem_nil, or_false]
  omega

/-- What can be checked for each blank holds of all. -/
theorem eq_false_of_isBlank {p : Char → Bool} (checked : ∀ n ∈ blankCodes, p (Char.ofNat n) = false)
    {c : Char} (blank : isBlank c = true) : p c = false := by
  have known := checked c.toNat (mem_blankCodes blank)
  rwa [Char.ofNat_toNat] at known

/-- A class that holds no blank tells its characters from blanks. -/
theorem isBlank_eq_false {p : Char → Bool} (checked : ∀ n ∈ blankCodes, p (Char.ofNat n) = false)
    {c : Char} (inside : p c = true) : isBlank c = false := by
  rw [Bool.eq_false_iff]
  intro blank
  exact Bool.false_ne_true ((eq_false_of_isBlank checked blank).symm.trans inside)

theorem isBlank_eq_false_of_isDigit {c : Char} (digit : isDigit c = true) : isBlank c = false :=
  isBlank_eq_false (by decide) digit

theorem isWordChar_eq_false_of_isBlank {c : Char} (blank : isBlank c = true) :
    isWordChar c = false :=
  eq_false_of_isBlank (by decide +kernel) blank

end ChainQuery.Text
