import ChainQuery.Abi.Signature
import ChainQuery.Proofs.Text.Cutting

/-! # Nested parentheses

In a balanced text every parenthesis has its partner (`Balanced`); a balanced text whose commas all
stand inside parentheses is one piece of a list (`Solid`). A group is taken out up to the
parenthesis that closes it (`takeGroup_balanced`), and a list of pieces with commas between them is
cut into these pieces again (`splitTop_joinWith`, `splitParams_joinWith`). In the other direction,
every group that is taken out is balanced (`balanced_of_takeGroup`), and the pieces of a balanced
text are solid (`solid_of_splitParams`).
-/

namespace ChainQuery.Abi

/-- A text in which every parenthesis has its partner. -/
inductive Balanced : List Char → Prop
  | nil : Balanced []
  | plain {c : Char} {rest : List Char} : c ≠ '(' → c ≠ ')' → Balanced rest → Balanced (c :: rest)
  | group {inside rest : List Char} :
      Balanced inside → Balanced rest → Balanced ('(' :: (inside ++ ')' :: rest))

/-- A balanced text with commas only inside parentheses. -/
inductive Solid : List Char → Prop
  | nil : Solid []
  | plain {c : Char} {rest : List Char} :
      c ≠ '(' → c ≠ ')' → c ≠ ',' → Solid rest → Solid (c :: rest)
  | group {inside rest : List Char} :
      Balanced inside → Solid rest → Solid ('(' :: (inside ++ ')' :: rest))

/-- A text without parentheses and commas. -/
def Plain (text : List Char) : Prop :=
  ∀ c ∈ text, c ≠ '(' ∧ c ≠ ')' ∧ c ≠ ','

instance (text : List Char) : Decidable (Plain text) :=
  inferInstanceAs (Decidable (∀ c ∈ text, c ≠ '(' ∧ c ≠ ')' ∧ c ≠ ','))

theorem Plain.append {first second : List Char} (left : Plain first) (right : Plain second) :
    Plain (first ++ second) := by
  intro c member
  exact (List.mem_append.mp member).elim (left c) (right c)

/-- Texts that close the groups they open do so one behind the other. -/
theorem Balanced.append {first second : List Char} (left : Balanced first)
    (right : Balanced second) : Balanced (first ++ second) := by
  induction left with
  | nil => exact right
  | plain notOpen notClose _ ih => exact .plain notOpen notClose ih
  | group inside _ _ ih =>
      rw [List.cons_append, List.append_assoc, List.cons_append]
      exact .group inside ih

/-- Texts that have no comma outside of groups have none one behind the other. -/
theorem Solid.append {first second : List Char} (left : Solid first) (right : Solid second) :
    Solid (first ++ second) := by
  induction left with
  | nil => exact right
  | plain notOpen notClose notComma _ ih => exact .plain notOpen notClose notComma ih
  | group inside _ ih =>
      rw [List.cons_append, List.append_assoc, List.cons_append]
      exact .group inside ih

theorem Solid.balanced {text : List Char} (solid : Solid text) : Balanced text := by
  induction solid with
  | nil => exact .nil
  | plain notOpen notClose _ _ ih => exact .plain notOpen notClose ih
  | group inside _ ih => exact .group inside ih

/-- A text without parentheses and commas is solid. -/
theorem Plain.solid {text : List Char} (plain : Plain text) : Solid text := by
  induction text with
  | nil => exact .nil
  | cons c rest ih =>
      obtain ⟨notOpen, notClose, notComma⟩ := plain c List.mem_cons_self
      exact .plain notOpen notClose notComma
        (ih fun d member => plain d (List.mem_cons_of_mem c member))

theorem plain_of_allBlank {gap : List Char} (blank : Text.AllBlank gap) : Plain gap := by
  intro c member
  have isBlank := blank c member
  refine ⟨?_, ?_, ?_⟩ <;>
  · rintro rfl
    exact absurd isBlank (by decide)

/-- What is left of a solid text behind a plain front is solid. The front closes no group, so the
rest closes only its own. -/
theorem Solid.of_append_left {front text : List Char} (plain : Plain front)
    (solid : Solid (front ++ text)) : Solid text := by
  induction front with
  | nil => exact solid
  | cons c front ih =>
      have first := plain c List.mem_cons_self
      apply ih fun d member => plain d (List.mem_cons_of_mem c member)
      generalize whole : c :: front ++ text = joined at solid
      cases solid with
      | nil => exact nomatch whole
      | plain _ _ _ rest =>
          obtain ⟨_, rfl⟩ := List.cons.inj whole
          exact rest
      | group => exact absurd (List.cons.inj whole).1 first.1

/-- What is left of a solid text in front of a plain back is solid. A group cannot end in the back,
so no group is cut. -/
theorem Solid.of_append_right {text back : List Char} (plain : Plain back)
    (solid : Solid (text ++ back)) : Solid text := by
  generalize whole : text ++ back = joined at solid
  induction solid generalizing text with
  | nil =>
      rw [(List.append_eq_nil_iff.mp whole).1]
      exact .nil
  | plain notOpen notClose notComma _ ih =>
      cases text with
      | nil => exact .nil
      | cons c text =>
          obtain ⟨rfl, rest⟩ := List.cons.inj whole
          exact .plain notOpen notClose notComma (ih rest)
  | @group inside rest balanced _ ih =>
      cases text with
      | nil =>
          rw [List.nil_append] at whole
          rw [whole] at plain
          exact absurd rfl (plain '(' List.mem_cons_self).1
      | cons c text =>
          -- The parenthesis that closes the group is not part of the plain text behind.
          obtain ⟨rfl, same⟩ := List.cons.inj whole
          rcases List.append_eq_append_iff.mp same with ⟨middle, _, cut⟩ | ⟨middle, rfl, cut⟩
          · have closes : ')' ∈ back := by
              rw [cut]
              exact List.mem_append_right _ List.mem_cons_self
            exact absurd rfl (plain ')' closes).2.1
          · cases middle with
            | nil =>
                have closes : ')' ∈ back := by
                  rw [List.nil_append] at cut
                  rw [← cut]
                  exact List.mem_cons_self
                exact absurd rfl (plain ')' closes).2.1
            | cons d middle =>
                obtain ⟨rfl, last⟩ := List.cons.inj cut
                exact .group balanced (ih last.symm)

theorem Solid.middle {front text back : List Char} (before : Plain front) (behind : Plain back)
    (solid : Solid (front ++ (text ++ back))) : Solid text :=
  .of_append_right behind (.of_append_left before solid)

theorem Solid.trim {text : List Char} (solid : Solid text) : Solid (Text.trim text) := by
  obtain ⟨before, after, blankBefore, blankAfter, split⟩ := Text.exists_trim text
  rw [split, List.append_assoc] at solid
  exact solid.middle (plain_of_allBlank blankBefore) (plain_of_allBlank blankAfter)

/-- Solid pieces with commas between them make a balanced text: the commas stand outside of all
groups and close none. -/
theorem balanced_joinWith {pieces : List (List Char)} (solid : ∀ piece ∈ pieces, Solid piece) :
    Balanced (Text.joinWith [','] pieces) := by
  unfold Text.joinWith
  induction pieces with
  | nil => exact .nil
  | cons piece rest ih =>
      have first := (solid piece List.mem_cons_self).balanced
      cases rest with
      | nil => simpa [List.intercalate] using first
      | cons next others =>
          rw [List.intercalate_cons_cons]
          exact (first.append (.plain (by decide) (by decide) .nil)).append
            (ih fun other member => solid other (List.mem_cons_of_mem piece member))

/-- An opening parenthesis inside a group opens one more group, whose end is looked for first. -/
theorem takeGroup_open (inner : Nat) (rest : List Char) :
    takeGroup inner ('(' :: rest) =
      (takeGroup (inner + 1) rest).map fun (inside, after) => ('(' :: inside, after) := by
  simp [takeGroup]

theorem takeGroup_close (rest : List Char) : takeGroup 0 (')' :: rest) = some ([], rest) := by
  simp [takeGroup]

/-- A parenthesis that closes an inner group belongs to the inside of the outer one. -/
theorem takeGroup_close_inner (inner : Nat) (rest : List Char) :
    takeGroup (inner + 1) (')' :: rest) =
      (takeGroup inner rest).map fun (inside, after) => (')' :: inside, after) := by
  simp [takeGroup]

theorem takeGroup_plain {c : Char} (notOpen : c ≠ '(') (notClose : c ≠ ')') (inner : Nat)
    (rest : List Char) :
    takeGroup inner (c :: rest) =
      (takeGroup inner rest).map fun (inside, after) => (c :: inside, after) := by
  simp [takeGroup, notOpen, notClose]

/-- A balanced text belongs to the current group as a whole, since each group that it opens is
closed in it. -/
theorem takeGroup_append {text : List Char} (balanced : Balanced text) (inner : Nat)
    (rest : List Char) :
    takeGroup inner (text ++ rest) =
      (takeGroup inner rest).map fun (inside, after) => (text ++ inside, after) := by
  induction balanced generalizing inner rest with
  | nil => simp
  | plain notOpen notClose _ ih =>
      rw [List.cons_append, takeGroup_plain notOpen notClose, ih, Option.map_map]
      rfl
  | group _ _ ihInside ihRest =>
      rw [List.cons_append, takeGroup_open, List.append_assoc, List.cons_append, ihInside,
        takeGroup_close_inner, ihRest]
      cases takeGroup inner rest with
      | none => rfl
      | some found => simp

/-- The group of a balanced text ends at the parenthesis behind it. -/
theorem takeGroup_balanced {inside : List Char} (balanced : Balanced inside) (rest : List Char) :
    takeGroup 0 (inside ++ ')' :: rest) = some (inside, rest) := by
  rw [takeGroup_append balanced, takeGroup_close]
  simp

/-- A text in which so many groups end that began before it. -/
def Closing : Nat → List Char → Prop
  | 0, text => Balanced text
  | inner + 1, text =>
    ∃ inside rest, text = inside ++ ')' :: rest ∧ Balanced inside ∧ Closing inner rest

/-- Text that closes its own groups may be put in front of what closes some more. -/
theorem Closing.append {inner : Nat} {front rest : List Char} (balanced : Balanced front)
    (closing : Closing inner rest) : Closing inner (front ++ rest) := by
  cases inner with
  | zero => exact balanced.append closing
  | succ inner =>
      obtain ⟨inside, after, rfl, first, others⟩ := closing
      exact ⟨front ++ inside, after, (List.append_assoc _ _ _).symm, balanced.append first, others⟩

/-- What is taken as a group closes all groups that were open but the outer one, which the next
parenthesis closes. The induction is on the text, for every number of groups that are open. -/
theorem closing_of_takeGroup {inner : Nat} {text inside after : List Char}
    (found : takeGroup inner text = some (inside, after)) :
    Closing inner inside ∧ text = inside ++ ')' :: after := by
  induction text generalizing inner inside with
  | nil => exact nomatch found
  | cons c text ih =>
      -- What is taken behind the first character is taken from the rest of the text.
      have step : ∀ inner', (takeGroup inner' text).map (fun (i, a) => (c :: i, a)) =
          some (inside, after) →
          ∃ rest, inside = c :: rest ∧ Closing inner' rest ∧ text = rest ++ ')' :: after := by
        intro inner' mapped
        obtain ⟨⟨rest, behind⟩, taken, same⟩ := Option.map_eq_some_iff.mp mapped
        obtain ⟨rfl, rfl⟩ := Prod.mk.inj same
        obtain ⟨closing, split⟩ := ih taken
        exact ⟨rest, rfl, closing, split⟩
      by_cases opens : c = '('
      · subst opens
        rw [takeGroup_open] at found
        obtain ⟨rest, rfl, ⟨front, back, rfl, balanced, closing⟩, rfl⟩ := step _ found
        have group : Balanced ('(' :: (front ++ [')'])) := .group balanced .nil
        have whole := closing.append group
        rw [List.cons_append, List.append_assoc, List.singleton_append] at whole
        exact ⟨whole, rfl⟩
      · by_cases closes : c = ')'
        · subst closes
          cases inner with
          | zero =>
              rw [takeGroup_close] at found
              obtain ⟨rfl, rfl⟩ := Prod.mk.inj (Option.some.inj found)
              exact ⟨.nil, rfl⟩
          | succ inner =>
              rw [takeGroup_close_inner] at found
              obtain ⟨rest, rfl, closing, rfl⟩ := step _ found
              exact ⟨⟨[], rest, rfl, .nil, closing⟩, rfl⟩
        · rw [takeGroup_plain opens closes] at found
          obtain ⟨rest, rfl, closing, rfl⟩ := step _ found
          exact ⟨@Closing.append _ [c] _ (.plain opens closes .nil) closing, rfl⟩

/-- The inside of a group closes every group that it opens, and its closing parenthesis stands
behind it. -/
theorem balanced_of_takeGroup {text inside after : List Char}
    (found : takeGroup 0 text = some (inside, after)) :
    Balanced inside ∧ text = inside ++ ')' :: after :=
  closing_of_takeGroup found

/-- What stands behind a group in a solid text is solid. -/
theorem Solid.behind_group {text inside after : List Char} (solid : Solid ('(' :: text))
    (found : takeGroup 0 text = some (inside, after)) : Solid after := by
  cases solid with
  | plain notOpen => exact absurd rfl notOpen
  | group balanced rest =>
      rw [takeGroup_balanced balanced] at found
      obtain ⟨_, rfl⟩ := Prod.mk.inj (Option.some.inj found)
      exact rest

/-- Characters that are put in front of the first piece one by one stand there as they stood in the
text. -/
theorem foldr_consFirst (text piece : List Char) (pieces : List (List Char)) :
    text.foldr Text.consFirst (piece :: pieces) = (text ++ piece) :: pieces := by
  induction text with
  | nil => rfl
  | cons c text ih => rw [List.foldr_cons, ih, Text.consFirst, List.cons_append]

/-- Nothing is cut inside parentheses. The depth stays positive along a balanced text, where a comma
is taken like any other character. -/
theorem splitTop_append_of_pos {text : List Char} (balanced : Balanced text) {depth : Int}
    (inside : 0 < depth) (rest : List Char) :
    splitTop depth (text ++ rest) = text.foldr Text.consFirst (splitTop depth rest) := by
  have notTop : depth ≠ 0 := by omega
  induction balanced generalizing depth rest with
  | nil => rfl
  | plain notOpen notClose _ ih =>
      rw [List.cons_append, splitTop, if_neg fun cut => notTop cut.2, depthAfter, if_neg notOpen,
        if_neg notClose, ih inside rest notTop, List.foldr_cons]
  | group _ _ ihInside ihRest =>
      rw [List.cons_append, splitTop, if_neg fun cut => absurd cut.1 (by decide), depthAfter, if_pos rfl,
        List.append_assoc, List.cons_append, ihInside (by omega) _ (by omega), splitTop,
        if_neg fun cut => absurd cut.1 (by decide), depthAfter, if_neg (by decide), if_pos rfl,
        Int.add_sub_cancel, ihRest inside _ notTop]
      simp

/-- Nothing is cut in a solid text: what stands in it goes in front of the first piece of the rest.
-/
theorem splitTop_append {text : List Char} (solid : Solid text) (rest : List Char) :
    splitTop 0 (text ++ rest) = text.foldr Text.consFirst (splitTop 0 rest) := by
  induction solid generalizing rest with
  | nil => rfl
  | plain notOpen notClose notComma _ ih =>
      rw [List.cons_append, splitTop, if_neg fun cut => notComma cut.1, depthAfter,
        if_neg notOpen, if_neg notClose, ih, List.foldr_cons]
  | group inside _ ih =>
      rw [List.cons_append, splitTop, if_neg (by decide), depthAfter, if_pos rfl,
        List.append_assoc, List.cons_append, splitTop_append_of_pos inside (by decide), splitTop,
        if_neg (by decide), depthAfter, if_neg (by decide), if_pos rfl]
      simp [ih]

/-- Pieces with commas between them are cut at these commas and nowhere else, since the commas
inside a solid piece stand in its groups. -/
theorem splitTop_joinWith {pieces : List (List Char)} (nonempty : pieces ≠ [])
    (solid : ∀ piece ∈ pieces, Solid piece) :
    splitTop 0 (Text.joinWith [','] pieces) = pieces := by
  unfold Text.joinWith
  induction pieces with
  | nil => exact absurd rfl nonempty
  | cons piece rest ih =>
      have first := solid piece List.mem_cons_self
      cases rest with
      | nil =>
          have whole := splitTop_append first []
          rw [List.append_nil, splitTop, foldr_consFirst, List.append_nil] at whole
          simpa [List.intercalate] using whole
      | cons next others =>
          rw [List.intercalate_cons_cons, List.append_assoc, splitTop_append first,
            List.singleton_append, splitTop, if_pos ⟨rfl, rfl⟩, foldr_consFirst, List.append_nil,
            ih (List.cons_ne_nil _ _) fun other member =>
              solid other (List.mem_cons_of_mem piece member)]

/-- Solid pieces that are not empty are told apart by the text that they make with commas between
them. -/
theorem joinWith_inj {first second : List (List Char)}
    (left : ∀ piece ∈ first, Solid piece ∧ piece ≠ [])
    (right : ∀ piece ∈ second, Solid piece ∧ piece ≠ [])
    (same : Text.joinWith [','] first = Text.joinWith [','] second) : first = second := by
  -- The cut at the commas gives the pieces back; only for no pieces at all it gives an empty one.
  have cut : ∀ {pieces : List (List Char)}, (∀ piece ∈ pieces, Solid piece ∧ piece ≠ []) →
      (splitTop 0 (Text.joinWith [','] pieces)).filter (fun piece => !piece.isEmpty) =
        pieces := by
    intro pieces each
    by_cases none : pieces = []
    · subst none
      rfl
    · rw [splitTop_joinWith none fun piece among => (each piece among).1]
      apply List.filter_eq_self.mpr
      intro piece among
      rw [List.isEmpty_eq_false_iff.mpr (each piece among).2]
      rfl
  rw [← cut left, same, cut right]

/-- A text has at least one piece. -/
theorem splitTop_ne_nil (depth : Int) (text : List Char) : splitTop depth text ≠ [] := by
  cases text with
  | nil => exact List.cons_ne_nil _ _
  | cons c rest =>
      rw [splitTop]
      split
      · exact List.cons_ne_nil _ _
      · exact Text.consFirst_ne_nil c _

/-- Pieces stay solid when a solid text is put in front of the first one. -/
theorem solid_of_mem_foldr {front : List Char} {pieces : List (List Char)} (solid : Solid front)
    (nonempty : pieces ≠ []) (each : ∀ piece ∈ pieces, Solid piece) :
    ∀ piece ∈ front.foldr Text.consFirst pieces, Solid piece := by
  obtain ⟨first, others, rfl⟩ := List.exists_cons_of_ne_nil nonempty
  obtain ⟨isSolid, rest⟩ := List.forall_mem_cons.mp each
  rw [foldr_consFirst]
  exact List.forall_mem_cons.mpr ⟨solid.append isSolid, rest⟩

/-- A text that closes its groups is cut at commas outside of them, so each piece closes its own
groups and has no comma outside of them. -/
theorem solid_of_mem_splitTop {text : List Char} (balanced : Balanced text) :
    ∀ piece ∈ splitTop 0 text, Solid piece := by
  induction balanced with
  | nil => exact List.forall_mem_cons.mpr ⟨.nil, nofun⟩
  | @plain c rest notOpen notClose _ ih =>
      by_cases comma : c = ','
      · rw [splitTop, if_pos ⟨comma, rfl⟩]
        exact List.forall_mem_cons.mpr ⟨.nil, ih⟩
      · have single : Solid [c] := .plain notOpen notClose comma .nil
        have split := splitTop_append single rest
        rw [List.singleton_append] at split
        rw [split]
        exact solid_of_mem_foldr single (splitTop_ne_nil 0 rest) ih
  | @group inside rest balanced _ _ ih =>
      have group : Solid ('(' :: (inside ++ [')'])) := .group balanced .nil
      have split := splitTop_append group rest
      rw [List.cons_append, List.append_assoc, List.singleton_append] at split
      rw [split]
      exact solid_of_mem_foldr group (splitTop_ne_nil 0 rest) ih

/-- A blank text lists no parameters, whereas a blank piece among others would be refused. -/
theorem splitParams_of_allBlank {gap : List Char} (blank : Text.AllBlank gap) :
    splitParams gap = .ok [] := by
  have whole := splitTop_append (plain_of_allBlank blank).solid []
  rw [List.append_nil, splitTop, foldr_consFirst, List.append_nil] at whole
  have none : Text.trim gap = [] := by
    rw [Text.trim, Text.trimStart_eq_nil blank]
    rfl
  rw [splitParams, whole, List.map_singleton, none]
  rfl

/-- The trimmed pieces of a list are solid too. -/
theorem solid_of_splitParams {text : List Char} {pieces : List (List Char)}
    (balanced : Balanced text) (split : splitParams text = .ok pieces) :
    ∀ piece ∈ pieces, Solid piece := by
  have each : ∀ piece ∈ (splitTop 0 text).map Text.trim, Solid piece := by
    intro piece member
    obtain ⟨whole, inside, rfl⟩ := List.mem_map.mp member
    exact (solid_of_mem_splitTop balanced whole inside).trim
  unfold splitParams at split
  dsimp only at split
  split_ifs at split
  · obtain rfl := Except.ok.inj split
    exact nofun
  · obtain rfl := Except.ok.inj split
    exact each

/-- A list of solid pieces, none of them blank, is cut into these pieces, each without the blanks at
its ends. -/
theorem splitParams_joinWith {pieces : List (List Char)} (nonempty : pieces ≠ [])
    (solid : ∀ piece ∈ pieces, Solid piece) (filled : ∀ piece ∈ pieces, Text.trim piece ≠ []) :
    splitParams (Text.joinWith [','] pieces) = .ok (pieces.map Text.trim) := by
  rw [splitParams, splitTop_joinWith nonempty solid]
  have someFilled : pieces.map Text.trim ≠ [[]] := by
    intro blank
    obtain ⟨piece, rfl⟩ := List.length_eq_one_iff.mp
      (by simpa using congrArg List.length blank : pieces.length = 1)
    exact filled piece List.mem_cons_self (List.singleton_inj.mp blank)
  have noneEmpty : (pieces.map Text.trim).any List.isEmpty = false := by
    rw [List.any_eq_false]
    intro piece member
    obtain ⟨whole, inside, rfl⟩ := List.mem_map.mp member
    simpa using filled whole inside
  simp only [someFilled, ↓reduceIte, noneEmpty, Bool.false_eq_true]

end ChainQuery.Abi
