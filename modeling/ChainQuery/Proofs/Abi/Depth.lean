import ChainQuery.Proofs.Abi.Faults

/-! # Counting parentheses

The depth of a text is the number of parentheses that it opens less those that it closes
(`depthOf`). A text is balanced if no front of it has a negative depth and the whole has none
(`balanced_iff_matched`), and it is one piece of a list if moreover no comma stands at depth zero
(`solid_iff`). In these terms, a group ends at the first parenthesis that brings the depth back to
zero, and the pieces of a list are told by the text that they make with commas between them
(`groups_and_pieces`).
-/

namespace ChainQuery.Abi

/-- How many more parentheses a text opens than it closes. -/
def depthOf (text : List Char) : Int :=
  text.count '(' - text.count ')'

/-- A text that closes as many parentheses as it opens, and at no place more than before it. -/
structure Matched (text : List Char) : Prop where
  front : ∀ front, front <+: text → 0 ≤ depthOf front
  whole : depthOf text = 0

/-- A piece of a list: not empty, without blanks at its ends, with parentheses that match, and with
commas only inside them. -/
structure IsPiece (piece : List Char) : Prop where
  filled : piece ≠ []
  starts : ∀ c ∈ piece.head?, Text.isBlank c = false
  ends : ∀ c ∈ piece.getLast?, Text.isBlank c = false
  matched : Matched piece
  nested : ∀ front back, piece = front ++ ',' :: back → 0 < depthOf front

/-- A text that starts with a group: behind the parenthesis that opens it, the depth is back at zero
for the first time at the parenthesis that closes it. -/
structure Encloses (text inside after : List Char) : Prop where
  split : text = '(' :: (inside ++ ')' :: after)
  matched : Matched inside
  open_until : ∀ front, front <+: '(' :: inside → front ≠ [] → 0 < depthOf front

/-- A text with blanks around a piece. -/
def Padded (piece text : List Char) : Prop :=
  ∃ before after, Text.AllBlank before ∧ Text.AllBlank after ∧ text = before ++ piece ++ after

/-- A text that has the pieces of a list with commas between them, and blanks around each; for no
pieces there are blanks alone. -/
inductive Spaced : List (List Char) → List Char → Prop
  | none {gap : List Char} : Text.AllBlank gap → Spaced [] gap
  | pieces {pieces padded : List (List Char)} : pieces ≠ [] →
      List.Forall₂ Padded pieces padded → Spaced pieces (Text.joinWith [','] padded)

/-- The depth of a text is that of its first part and that of its second part together. -/
theorem depthOf_append (first second : List Char) :
    depthOf (first ++ second) = depthOf first + depthOf second := by
  simp only [depthOf, List.count_append]
  omega

/-- The depth behind a text is counted on from the depth behind its first character, which is how
the scanners go along. -/
theorem add_depthOf_cons (depth : Int) (c : Char) (rest : List Char) :
    depth + depthOf (c :: rest) = depthAfter depth c + depthOf rest := by
  unfold depthOf depthAfter
  by_cases opens : c = '('
  · subst opens
    rw [if_pos rfl, List.count_cons_self, List.count_cons_of_ne (by decide)]
    omega
  · by_cases closes : c = ')'
    · subst closes
      rw [if_neg (by decide), if_pos rfl, List.count_cons_self, List.count_cons_of_ne (by decide)]
      omega
    · rw [if_neg opens, if_neg closes, List.count_cons_of_ne opens, List.count_cons_of_ne closes]

/-- At no place of the text is the depth negative, if it is `depth` before the text. -/
def NeverBelow (depth : Int) (text : List Char) : Prop :=
  ∀ front, front <+: text → 0 ≤ depth + depthOf front

/-- A text stays at depth zero or above when it starts there and what follows its first character
does so too. -/
theorem neverBelow_cons {depth : Int} {c : Char} {rest : List Char} :
    NeverBelow depth (c :: rest) ↔ 0 ≤ depth ∧ NeverBelow (depthAfter depth c) rest := by
  have none : depth + depthOf [] = depth := Int.add_zero depth
  constructor
  · intro all
    refine ⟨?_, ?_⟩
    · rw [← none]
      exact all [] List.nil_prefix
    · intro front within
      rw [← add_depthOf_cons]
      exact all (c :: front) (List.cons_prefix_cons.mpr ⟨rfl, within⟩)
  · rintro ⟨start, behind⟩ front within
    rcases List.prefix_cons_iff.mp within with rfl | ⟨front, rfl, inside⟩
    · rwa [none]
    · rw [add_depthOf_cons]
      exact behind front inside

theorem neverBelow_nil {depth : Int} : NeverBelow depth [] ↔ 0 ≤ depth := by
  have none : depth + depthOf [] = depth := Int.add_zero depth
  constructor
  · intro all
    rw [← none]
    exact all [] List.nil_prefix
  · intro start front within
    rwa [List.prefix_nil.mp within, none]

/-- No comma of the text stands at depth zero, if the depth is `depth` before the text. -/
def Uncut (depth : Int) (text : List Char) : Prop :=
  ∀ front back, text = front ++ ',' :: back → depth + depthOf front ≠ 0

/-- A text is not cut when its first character is no comma at depth zero and what follows it is not
cut. -/
theorem uncut_cons {depth : Int} {c : Char} {rest : List Char} :
    Uncut depth (c :: rest) ↔ ¬ (c = ',' ∧ depth = 0) ∧ Uncut (depthAfter depth c) rest := by
  have none : depth + depthOf [] = depth := Int.add_zero depth
  constructor
  · intro all
    refine ⟨?_, ?_⟩
    · rintro ⟨rfl, top⟩
      exact all [] rest rfl (none.trans top)
    · rintro front back rfl
      rw [← add_depthOf_cons]
      exact all (c :: front) back rfl
  · rintro ⟨first, behind⟩ front back split
    cases front with
    | nil =>
        obtain ⟨comma, _⟩ := List.cons.inj split
        rw [none]
        exact fun top => first ⟨comma, top⟩
    | cons d front =>
        obtain ⟨rfl, same⟩ := List.cons.inj split
        rw [add_depthOf_cons]
        exact behind front back same

/-- A group does not end if at no place more is closed than was opened. The number of groups that
are open inside the outer one is the depth at which the text starts. -/
theorem takeGroup_eq_none_iff {inner : Nat} {text : List Char} :
    takeGroup inner text = none ↔ NeverBelow inner text := by
  induction text generalizing inner with
  | nil => exact ⟨fun _ => neverBelow_nil.mpr (Int.natCast_nonneg inner), fun _ => rfl⟩
  | cons c rest ih =>
      rw [neverBelow_cons]
      have start : (0 : Int) ≤ inner := Int.natCast_nonneg inner
      by_cases opens : c = '('
      · subst opens
        rw [takeGroup_open, Option.map_eq_none_iff, ih]
        exact ⟨fun behind => ⟨start, behind⟩, And.right⟩
      · by_cases closes : c = ')'
        · subst closes
          cases inner with
          | zero =>
              rw [takeGroup_close]
              refine ⟨nofun, fun ⟨_, behind⟩ => ?_⟩
              exact absurd (behind [] List.nil_prefix) (by decide)
          | succ inner =>
              have depth : depthAfter ((inner + 1 : Nat) : Int) ')' = inner :=
                Int.add_sub_cancel inner 1
              rw [takeGroup_close_inner, Option.map_eq_none_iff, ih, depth]
              exact ⟨fun behind => ⟨start, behind⟩, And.right⟩
        · have depth : depthAfter inner c = inner := by
            rw [depthAfter, if_neg opens, if_neg closes]
          rw [takeGroup_plain opens closes, Option.map_eq_none_iff, ih, depth]
          exact ⟨fun behind => ⟨start, behind⟩, And.right⟩

/-- From depth zero on, the depth never falls below zero in a text if and only if no front of it
closes more groups than it opens. -/
theorem neverBelow_zero_iff {text : List Char} :
    NeverBelow 0 text ↔ ∀ front, front <+: text → 0 ≤ depthOf front := by
  simp only [NeverBelow, Int.zero_add]

/-- A text that closes every group it opens ends at the depth at which it starts. The induction is
on how the text is built. -/
theorem Balanced.depthOf_eq {text : List Char} (balanced : Balanced text) : depthOf text = 0 := by
  induction balanced with
  | nil => rfl
  | @plain c rest notOpen notClose _ ih =>
      have first := add_depthOf_cons 0 c rest
      rw [depthAfter, if_neg notOpen, if_neg notClose, ih] at first
      simpa using first
  | @group inside rest _ _ ihInside ihRest =>
      have split : '(' :: (inside ++ ')' :: rest) = ['('] ++ inside ++ [')'] ++ rest := by
        simp only [List.cons_append, List.nil_append, List.append_assoc]
      rw [split, depthOf_append, depthOf_append, depthOf_append, ihInside, ihRest]
      rfl

/-- The parentheses of a text have their partners if none is closed that was not opened and as many
are closed as are opened. -/
theorem balanced_iff_matched {text : List Char} : Balanced text ↔ Matched text := by
  constructor
  · intro balanced
    refine ⟨?_, balanced.depthOf_eq⟩
    have endless := takeGroup_append balanced 0 []
    rw [List.append_nil] at endless
    exact neverBelow_zero_iff.mp (takeGroup_eq_none_iff.mp endless)
  · rintro ⟨front, whole⟩
    have never := neverBelow_zero_iff.mpr front
    clear front
    -- The induction is on the length, since the rest behind a group is no tail of the text.
    induction size : text.length using Nat.strong_induction_on generalizing text with
    | _ size ih =>
        subst size
        cases text with
        | nil => exact .nil
        | cons c rest =>
            obtain ⟨_, behind⟩ := neverBelow_cons.mp never
            have total : depthAfter 0 c + depthOf rest = 0 := by
              rw [← add_depthOf_cons, whole]
              rfl
            by_cases opens : c = '('
            · subst opens
              cases taken : takeGroup 0 rest with
              | none =>
                  have depth : depthAfter 0 '(' = 1 := rfl
                  have most := neverBelow_zero_iff.mp (takeGroup_eq_none_iff.mp taken) rest
                    (List.prefix_refl rest)
                  omega
              | some found =>
                  obtain ⟨inside, after⟩ := found
                  obtain ⟨balanced, rfl⟩ := balanced_of_takeGroup taken
                  have group : Balanced ('(' :: (inside ++ [')'])) := .group balanced .nil
                  have split : '(' :: (inside ++ ')' :: after) =
                      ('(' :: (inside ++ [')'])) ++ after := by
                    rw [List.cons_append, List.append_assoc, List.singleton_append]
                  rw [split] at whole never
                  refine .group balanced (ih after.length ?_ ?_ ?_ rfl)
                  · simp only [List.length_cons, List.length_append]
                    omega
                  · rw [depthOf_append, group.depthOf_eq, Int.zero_add] at whole
                    exact whole
                  · intro front within
                    have depth := never (_ ++ front) ((List.prefix_append_right_inj _).mpr within)
                    rwa [depthOf_append, group.depthOf_eq, Int.zero_add] at depth
            · by_cases closes : c = ')'
              · subst closes
                exact absurd (behind [] List.nil_prefix) (by decide)
              · have depth : depthAfter 0 c = 0 := by
                  rw [depthAfter, if_neg opens, if_neg closes]
                rw [depth] at behind total
                refine .plain opens closes (ih rest.length ?_ ?_ behind rfl)
                · exact Nat.lt_succ_self _
                · rwa [Int.zero_add] at total

theorem depthOf_open (text : List Char) : depthOf ('(' :: text) = 1 + depthOf text := by
  have first := add_depthOf_cons 0 '(' text
  rwa [Int.zero_add] at first

/-- A group is taken out up to the first parenthesis that brings the depth back to zero. This names
the inside without reference to the reader: it is the only place at which the depth is zero for the
first time. -/
theorem takeGroup_eq_some_iff {text inside after : List Char} :
    takeGroup 0 text = some (inside, after) ↔ Encloses ('(' :: text) inside after := by
  constructor
  · intro taken
    obtain ⟨balanced, rfl⟩ := balanced_of_takeGroup taken
    have matched := balanced_iff_matched.mp balanced
    refine ⟨rfl, matched, ?_⟩
    intro front within filled
    rcases List.prefix_cons_iff.mp within with rfl | ⟨front, rfl, behind⟩
    · exact absurd rfl filled
    · have least := matched.front front behind
      rw [depthOf_open]
      omega
  · rintro ⟨split, matched, _⟩
    rw [(List.cons.inj split).2]
    exact takeGroup_balanced (balanced_iff_matched.mpr matched) after

/-- No group is taken out if the depth never comes back to zero. With the statement before, a group
ends exactly where its parenthesis is matched. -/
theorem takeGroup_eq_none_iff_depth {text : List Char} : takeGroup 0 text = none ↔
    ∀ front, front <+: '(' :: text → front ≠ [] → depthOf front ≠ 0 := by
  constructor
  · intro endless front within filled
    have never := neverBelow_zero_iff.mp (takeGroup_eq_none_iff.mp endless)
    rcases List.prefix_cons_iff.mp within with rfl | ⟨front, rfl, behind⟩
    · exact absurd rfl filled
    · have least := never front behind
      rw [depthOf_open]
      omega
  · intro never
    cases taken : takeGroup 0 text with
    | none => rfl
    | some found =>
        obtain ⟨inside, after⟩ := found
        obtain ⟨balanced, rfl⟩ := balanced_of_takeGroup taken
        have group : Balanced ('(' :: (inside ++ [')'])) := .group balanced .nil
        refine absurd group.depthOf_eq (never _ ⟨after, ?_⟩ (List.cons_ne_nil _ _))
        simp only [List.cons_append, List.append_assoc, List.nil_append]

/-- A text is not cut if no comma of it stands at depth zero. Commas below depth zero, behind more
closing parentheses than opening ones, do not cut it either. -/
theorem splitTop_eq_singleton_iff {depth : Int} {text : List Char} :
    splitTop depth text = [text] ↔ Uncut depth text := by
  induction text generalizing depth with
  | nil =>
      refine ⟨fun _ front back split => ?_, fun _ => rfl⟩
      exact absurd split.symm (List.append_ne_nil_of_right_ne_nil _ (List.cons_ne_nil _ _))
  | cons c rest ih =>
      rw [uncut_cons, splitTop]
      by_cases cut : c = ',' ∧ depth = 0
      · rw [if_pos cut]
        refine ⟨fun same => ?_, fun all => absurd cut all.1⟩
        exact absurd (List.cons.inj same).1.symm (List.cons_ne_nil c rest)
      · rw [if_neg cut, ← ih]
        constructor
        · intro same
          obtain ⟨first, others, pieces⟩ :=
            List.exists_cons_of_ne_nil (splitTop_ne_nil (depthAfter depth c) rest)
          rw [pieces, Text.consFirst] at same
          obtain ⟨front, none⟩ := List.cons.inj same
          rw [pieces, (List.cons.inj front).2, none]
          exact ⟨cut, rfl⟩
        · rintro ⟨_, same⟩
          rw [same, Text.consFirst]

/-- A text is solid if its parentheses match and all commas stand inside them. The rules by which
solid texts are built say the same as the depths along the text. -/
theorem solid_iff {text : List Char} : Solid text ↔
    Matched text ∧ ∀ front back, text = front ++ ',' :: back → 0 < depthOf front := by
  have positive : Matched text →
      ((∀ front back, text = front ++ ',' :: back → 0 < depthOf front) ↔ Uncut 0 text) := by
    intro matched
    unfold Uncut
    refine forall₃_congr fun front back split => ?_
    have least := matched.front front ⟨_, split.symm⟩
    omega
  constructor
  · intro solid
    have matched := balanced_iff_matched.mp solid.balanced
    refine ⟨matched, (positive matched).mpr (splitTop_eq_singleton_iff.mp ?_)⟩
    have whole := splitTop_joinWith (List.cons_ne_nil text [])
      (List.forall_mem_cons.mpr ⟨solid, nofun⟩)
    rwa [Text.joinWith, List.intercalate_singleton] at whole
  · rintro ⟨matched, nested⟩
    have uncut := splitTop_eq_singleton_iff.mpr ((positive matched).mp nested)
    have pieces := solid_of_mem_splitTop (balanced_iff_matched.mpr matched)
    rw [uncut] at pieces
    exact pieces text List.mem_cons_self

theorem IsPiece.solid {piece : List Char} (isPiece : IsPiece piece) : Solid piece :=
  solid_iff.mpr ⟨isPiece.matched, isPiece.nested⟩

theorem Padded.solid {piece text : List Char} (padded : Padded piece text) (solid : Solid piece) :
    Solid text := by
  obtain ⟨before, after, blankBefore, blankAfter, rfl⟩ := padded
  exact ((plain_of_allBlank blankBefore).solid.append solid).append
    (plain_of_allBlank blankAfter).solid

/-- Blanks around a piece are trimmed, and the piece itself is not. -/
theorem Padded.trim_eq {piece text : List Char} (padded : Padded piece text)
    (isPiece : IsPiece piece) : Text.trim text = piece := by
  obtain ⟨before, after, blankBefore, blankAfter, rfl⟩ := padded
  rw [Text.trim_append_right _ blankAfter, Text.trim_append_left blankBefore,
    Text.trim_eq_self isPiece.starts isPiece.ends]

theorem padded_trim (text : List Char) : Padded (Text.trim text) text :=
  Text.exists_trim text

/-- Nothing is left of a text when it is trimmed if and only if it is all blank. -/
theorem trim_eq_nil_iff {text : List Char} : Text.trim text = [] ↔ Text.AllBlank text := by
  constructor
  · intro empty
    obtain ⟨before, after, blankBefore, blankAfter, split⟩ := Text.exists_trim text
    rw [empty, List.append_nil] at split
    rw [split]
    exact List.forall_mem_append.mpr ⟨blankBefore, blankAfter⟩
  · intro blank
    rw [Text.trim, Text.trimStart_eq_nil blank]
    rfl

/-- What is left of a solid text without the blanks around it is a piece, if anything is left. -/
theorem Solid.isPiece {text : List Char} (solid : Solid text) (filled : Text.trim text ≠ []) :
    IsPiece (Text.trim text) := by
  obtain ⟨matched, nested⟩ := solid_iff.mp solid.trim
  refine ⟨filled, ?_, Text.getLast_trimEnd _, matched, nested⟩
  intro c first
  obtain ⟨gap, _, split⟩ := Text.exists_trimEnd (Text.trimStart text)
  apply Text.head_trimStart text c
  rw [split]
  change c ∈ (Text.trim text ++ gap).head?
  rwa [List.head?_append_of_ne_nil _ filled]

/-- Pieces with commas between them and blanks around them are cut at these commas, and every piece
is given as it was. -/
theorem Spaced.splitParams_eq {pieces : List (List Char)} {text : List Char}
    (spaced : Spaced pieces text) (each : ∀ piece ∈ pieces, IsPiece piece) :
    splitParams text = .ok pieces := by
  cases spaced with
  | none blank => exact splitParams_of_allBlank blank
  | @pieces pieces padded nonempty around =>
      have cut : padded.map Text.trim = pieces ∧ ∀ text ∈ padded, Solid text := by
        clear nonempty
        induction around with
        | nil => exact ⟨rfl, nofun⟩
        | cons first _ ih =>
            obtain ⟨isPiece, others⟩ := List.forall_mem_cons.mp each
            obtain ⟨trimmed, solid⟩ := ih others
            rw [List.map_cons, first.trim_eq isPiece, trimmed]
            exact ⟨rfl, List.forall_mem_cons.mpr ⟨first.solid isPiece.solid, solid⟩⟩
      obtain ⟨rfl, solid⟩ := cut
      apply splitParams_joinWith
      · rintro rfl
        exact nonempty rfl
      · exact solid
      · intro text among
        exact (each _ (List.mem_map_of_mem among)).filled

/-- A list with a piece that is blank is refused, unless it has no other piece. A text that is blank
as a whole lists nothing and is not refused. -/
theorem splitParams_of_blank {chunks : List (List Char)} (several : 2 ≤ chunks.length)
    (solid : ∀ chunk ∈ chunks, Solid chunk) {chunk : List Char} (among : chunk ∈ chunks)
    (blank : Text.AllBlank chunk) : splitParams (Text.joinWith [','] chunks) =
      .error ⟨Text.joinWith [','] chunks, .emptyParameter⟩ := by
  have nonempty : chunks ≠ [] := List.ne_nil_of_mem among
  have more : chunks.map Text.trim ≠ [[]] := by
    intro single
    have one := congrArg List.length single
    rw [List.length_map, List.length_singleton] at one
    omega
  have empty : (chunks.map Text.trim).any List.isEmpty = true := by
    rw [List.any_eq_true]
    exact ⟨_, List.mem_map_of_mem among, List.isEmpty_iff.mpr (trim_eq_nil_iff.mpr blank)⟩
  rw [splitParams, splitTop_joinWith nonempty solid, if_neg more, if_pos empty]

/-- A text of solid pieces with commas between them is blank, or one of several pieces is, or what
is left of each without the blanks around it is a piece. -/
theorem spaced_or_blank {chunks : List (List Char)} (nonempty : chunks ≠ [])
    (solid : ∀ chunk ∈ chunks, Solid chunk) :
    (∃ pieces, (∀ piece ∈ pieces, IsPiece piece) ∧ Spaced pieces (Text.joinWith [','] chunks)) ∨
      (2 ≤ chunks.length ∧ ∃ chunk ∈ chunks, Text.AllBlank chunk) := by
  by_cases blank : ∃ chunk ∈ chunks, Text.AllBlank chunk
  · by_cases several : 2 ≤ chunks.length
    · exact .inr ⟨several, blank⟩
    · obtain ⟨chunk, among, gap⟩ := blank
      have single : chunks = [chunk] := by
        obtain ⟨only, rfl⟩ := List.length_eq_one_iff.mp
          (by have := List.length_pos_of_mem among; omega : chunks.length = 1)
        rw [List.mem_singleton.mp among]
      rw [single, Text.joinWith, List.intercalate_singleton]
      exact .inl ⟨[], List.forall_mem_nil _, .none gap⟩
  · refine .inl ⟨chunks.map Text.trim, ?_, .pieces ?_ ?_⟩
    · intro piece among
      obtain ⟨chunk, inside, rfl⟩ := List.mem_map.mp among
      exact (solid chunk inside).isPiece fun none =>
        blank ⟨chunk, inside, trim_eq_nil_iff.mp none⟩
    · exact fun none => nonempty (List.map_eq_nil_iff.mp none)
    · exact List.forall₂_map_left_iff.mpr (List.forall₂_same.mpr fun chunk _ => padded_trim chunk)

/-- A balanced text is cut into pieces that it has with commas between them and blanks around each,
or refused because one of several pieces is blank. -/
theorem splitParams_cases {text : List Char} (matched : Matched text) :
    (∃ pieces, splitParams text = .ok pieces ∧ (∀ piece ∈ pieces, IsPiece piece) ∧
      Spaced pieces text) ∨
    (splitParams text = .error ⟨text, .emptyParameter⟩ ∧
      ∃ chunks, text = Text.joinWith [','] chunks ∧ 2 ≤ chunks.length ∧
        (∀ chunk ∈ chunks, Solid chunk) ∧ ∃ chunk ∈ chunks, Text.AllBlank chunk) := by
  have solid := solid_of_mem_splitTop (balanced_iff_matched.mpr matched)
  have whole := joinWith_splitTop 0 text
  have nonempty := splitTop_ne_nil 0 text
  generalize splitTop 0 text = chunks at solid whole nonempty
  subst whole
  rcases spaced_or_blank nonempty solid with ⟨pieces, each, spaced⟩ | ⟨several, blank⟩
  · exact .inl ⟨pieces, spaced.splitParams_eq each, each, spaced⟩
  · obtain ⟨chunk, among, gap⟩ := blank
    exact .inr ⟨splitParams_of_blank several solid among gap, chunks, rfl, several, solid,
      chunk, among, gap⟩

/-- **Nothing is lost between parentheses and commas.** At any place where a parenthesis opens:
what is taken out as its group ends at the first parenthesis that brings the depth back to zero, and
no group is taken out only if none does. The text of a group is refused only if one of several
pieces between its commas at depth zero is blank; else it is cut into trimmed pieces, each with
matching parentheses and no comma at depth zero, which give the text again with commas between them
and blanks around each. And every list of such pieces is what any such text is cut into. -/
theorem groups_and_pieces {text : List Char} {position : Nat}
    (opens : text[position]? = some '(') :
    (∀ inside after, takeGroup 0 (text.drop (position + 1)) = some (inside, after) ↔
      Encloses (text.drop position) inside after) ∧
    (takeGroup 0 (text.drop (position + 1)) = none ↔
      ∀ front, front <+: text.drop position → front ≠ [] → depthOf front ≠ 0) ∧
    (∀ inside after, takeGroup 0 (text.drop (position + 1)) = some (inside, after) →
      (∃ pieces, splitParams inside = .ok pieces ∧ (∀ piece ∈ pieces, IsPiece piece) ∧
        Spaced pieces inside) ∨
      (splitParams inside = .error ⟨inside, .emptyParameter⟩ ∧
        ∃ chunks, inside = Text.joinWith [','] chunks ∧ 2 ≤ chunks.length ∧
          (∀ chunk ∈ chunks, Solid chunk) ∧ ∃ chunk ∈ chunks, Text.AllBlank chunk)) ∧
    ∀ pieces listed, (∀ piece ∈ pieces, IsPiece piece) → Spaced pieces listed →
      splitParams listed = .ok pieces := by
  obtain ⟨inBounds, isOpen⟩ := List.getElem?_eq_some_iff.mp opens
  have split : text.drop position = '(' :: text.drop (position + 1) := by
    rw [List.drop_eq_getElem_cons inBounds, isOpen]
  rw [split]
  refine ⟨fun inside after => takeGroup_eq_some_iff, takeGroup_eq_none_iff_depth, ?_, ?_⟩
  · intro inside after taken
    exact splitParams_cases (takeGroup_eq_some_iff.mp taken).matched
  · exact fun pieces listed each spaced => spaced.splitParams_eq each

theorem groups_and_pieces_nested :
    "f(a, (b,c)[] ) x".toList[1]? = some '(' ∧
      Encloses "(a, (b,c)[] ) x".toList "a, (b,c)[] ".toList " x".toList ∧
      splitParams "a, (b,c)[] ".toList = .ok ["a".toList, "(b,c)[]".toList] ∧
      (∀ piece ∈ ["a".toList, "(b,c)[]".toList], IsPiece piece) ∧
      Spaced ["a".toList, "(b,c)[]".toList] "a, (b,c)[] ".toList := by
  have opens : "f(a, (b,c)[] ) x".toList[1]? = some '(' := by decide
  obtain ⟨enclosed, _, cut, _⟩ := groups_and_pieces opens
  have taken : takeGroup 0 ("f(a, (b,c)[] ) x".toList.drop 2) =
      some ("a, (b,c)[] ".toList, " x".toList) := by decide
  have split : splitParams "a, (b,c)[] ".toList = .ok ["a".toList, "(b,c)[]".toList] := by decide
  refine ⟨opens, (enclosed _ _).mp taken, split, ?_⟩
  rcases cut _ _ taken with ⟨pieces, same, each, spaced⟩ | ⟨refused, _⟩
  · obtain rfl := Except.ok.inj (split.symm.trans same)
    exact ⟨each, spaced⟩
  · exact nomatch split.symm.trans refused

end ChainQuery.Abi
