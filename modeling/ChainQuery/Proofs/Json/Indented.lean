import ChainQuery.Proofs.Json.Documents

/-! # Indented documents are read back

What is shown to a user is written on indented lines. A value of truth values, whole numbers,
strings and arrays (`Plain`) is the value of that text too (`parse_pretty`). Behind a value stands a
comma or a line break (`BreaksLine`), and the blanks of the indentation are skipped wherever they
stand.
-/

namespace ChainQuery.Json

/-- A value of truth values, strings, arrays and whole numbers that are short enough to be read. -/
inductive Plain : Json → Prop
  | bool (value : Bool) : Plain (.bool value)
  | int {n : Int} : (Text.decimal n.natAbs).length ≤ maxIntegerDigits → Plain (.int n)
  | str (text : String) : Plain (.str text)
  | arr {items : List Json} : (∀ item ∈ items, Plain item) → Plain (.arr items)

/-- A plain value holds no doubles and no objects. -/
theorem Plain.exact {value : Json} (plain : Plain value) : Exact value := by
  induction plain with
  | bool value => exact .bool value
  | int _ => exact .int _
  | str text => exact .str text
  | arr _ each => exact .arr each

/-- Every whole number in a plain value is short enough to be written. -/
theorem Plain.isWritable {value : Json} (plain : Plain value) : value.isWritable = true := by
  induction plain with
  | bool value => rfl
  | int short => exact decide_eq_true short
  | str text => rfl
  | arr _ each => exact areWritable_iff.mpr each

/-- What stands behind a value on indented lines. -/
def BreaksLine (rest : List Char) : Prop :=
  ∀ c ∈ rest.head?, c = ',' ∨ c = '\n'

/-- A comma is one of the characters that may stand behind an indented value. -/
theorem breaksLine_comma (rest : List Char) : BreaksLine (',' :: rest) := by
  rintro _ ⟨⟩
  exact .inl rfl

/-- A line break and the indentation behind it may stand there too. -/
theorem breaksLine_lineBreak (level : Nat) (rest : List Char) :
    BreaksLine (lineBreak level ++ rest) := by
  rintro _ ⟨⟩
  exact .inr rfl

/-- What stands behind an indented value ends a number: a comma or a line break is neither a digit
nor a point nor the mark of an exponent. -/
theorem BreaksLine.endsNumber {rest : List Char} (breaks : BreaksLine rest) : EndsNumber rest := by
  cases rest with
  | nil => exact endsNumber_nil
  | cons c more =>
      rcases breaks c rfl with rfl | rfl
      · exact (closes_cons (.inl rfl) more).endsNumber
      · refine ⟨?_, rfl, rfl⟩
        rintro _ ⟨⟩
        rfl

/-- An indentation is skipped. -/
theorem skipSpace_lineBreak (level : Nat) (rest : List Char) :
    skipSpace (lineBreak level ++ rest) = skipSpace rest := by
  have blank : ∀ c ∈ lineBreak level, isSpace c = true := by
    rw [lineBreak, List.forall_mem_cons]
    exact ⟨rfl, fun c among => List.eq_of_mem_replicate among ▸ rfl⟩
  exact List.dropWhile_append_of_pos blank

variable {value item : Json} {level : Nat}

/-- The indented text of a value opens a value at every level: indentation stands in front of items
and never in front of the value itself. -/
theorem opens_prettyAt (level : Nat) (plain : Plain value) : Opens (prettyAt level value) := by
  cases plain with
  | bool value => cases value with
    | false => exact opens_compact (.bool false)
    | true => exact opens_compact (.bool true)
  | @int n _ => exact opens_compact (.int n)
  | str text => exact ⟨'"', _, rfl, by decide⟩
  | @arr items _ => cases items with
    | nil => exact ⟨'[', _, rfl, by decide⟩
    | cons item rest => exact ⟨'[', _, rfl, by decide⟩

/-- A value that is read back from its indented text when the reader may go as deep as the text is
long. -/
def ReadBackIndented (value : Json) : Prop :=
  ∀ level depth rest, (prettyAt level value).length ≤ depth → BreaksLine rest →
    scanValue depth (prettyAt level value ++ rest) = .ok (value, rest)

/-- The items of an array are read back up to its closing bracket, each on a line of its own. The
induction is on the items behind the first one. -/
theorem scanItems_prettyRest {others : List Json} (opens : Opens (prettyAt level item))
    (reads : ReadBackIndented item)
    (each : ∀ other ∈ others, Opens (prettyAt level other) ∧ ReadBackIndented other) {depth : Nat}
    (deep : (prettyAt level item ++ prettyRest level others).length < depth) (outer : Nat)
    (rest : List Char) :
    scanItems depth
        (prettyAt level item ++ (prettyRest level others ++ (lineBreak outer ++ ']' :: rest))) =
      .ok (item :: others, rest) := by
  induction others generalizing item depth with
  | nil =>
      obtain ⟨depth, rfl⟩ : ∃ less, depth = less + 1 := ⟨depth - 1, by omega⟩
      have short : (prettyAt level item).length ≤ depth := by
        simp only [prettyRest, List.append_nil] at deep
        omega
      have value := reads level depth (lineBreak outer ++ ']' :: rest) short
        (breaksLine_lineBreak outer _)
      have bracket : skipSpace (']' :: rest) = ']' :: rest := rfl
      simp only [prettyRest, List.nil_append, scanItems, value, bind, Except.bind,
        skipSpace_lineBreak, bracket]
      rfl
  | cons next more ih =>
      obtain ⟨depth, rfl⟩ : ∃ less, depth = less + 1 := ⟨depth - 1, by omega⟩
      obtain ⟨⟨opensNext, readsNext⟩, behind⟩ := List.forall_mem_cons.mp each
      have filled : 0 < (prettyAt level item).length := by
        obtain ⟨first, tail, start, _⟩ := opens
        rw [start]
        exact Nat.succ_pos _
      have text : prettyRest level (next :: more) ++ (lineBreak outer ++ ']' :: rest) =
          ',' :: (lineBreak level ++ (prettyAt level next ++
            (prettyRest level more ++ (lineBreak outer ++ ']' :: rest)))) := by
        simp only [prettyRest, List.cons_append, List.append_assoc]
      simp only [prettyRest, List.length_append, List.length_cons] at deep
      have value := reads level depth _ (by omega) (breaksLine_comma
        (lineBreak level ++ (prettyAt level next ++
          (prettyRest level more ++ (lineBreak outer ++ ']' :: rest)))))
      have start := (opensNext.append
        (prettyRest level more ++ (lineBreak outer ++ ']' :: rest))).skipSpace
      have tail : scanItems depth
          (prettyAt level next ++ (prettyRest level more ++ (lineBreak outer ++ ']' :: rest))) =
            .ok (next :: more, rest) := by
        apply ih opensNext readsNext behind
        rw [List.length_append]
        omega
      rw [text, scanItems, value]
      simp only [bind, Except.bind, skipSpace_comma, skipSpace_lineBreak, start, tail]
      rfl

/-- A value is read back at every depth that is enough if it is read back one level down, as in
compact documents. -/
theorem readBackIndented_of_succ (opens : ∀ level, Opens (prettyAt level value))
    (reads : ∀ level depth rest, (prettyAt level value).length ≤ depth + 1 → BreaksLine rest →
      scanValue (depth + 1) (prettyAt level value ++ rest) = .ok (value, rest)) :
    ReadBackIndented value := by
  intro level depth rest deep breaks
  obtain ⟨first, more, text, _⟩ := opens level
  cases depth with
  | zero =>
      rw [text] at deep
      exact absurd deep (Nat.not_succ_le_zero more.length)
  | succ depth => exact reads level depth rest deep breaks

/-- Items that are read back make an array that is read back, each item one level further in. -/
theorem readBackIndented_arr {items : List Json} (plain : ∀ item ∈ items, Plain item)
    (reads : ∀ item ∈ items, ReadBackIndented item) : ReadBackIndented (.arr items) := by
  apply readBackIndented_of_succ (fun level => opens_prettyAt level (.arr plain))
  intro level depth rest deep _
  cases items with
  | nil => rfl
  | cons item others =>
      obtain ⟨plainItem, plainOthers⟩ := List.forall_mem_cons.mp plain
      obtain ⟨readsItem, readsOthers⟩ := List.forall_mem_cons.mp reads
      have opens := opens_prettyAt (level + 1) plainItem
      have text : prettyAt level (.arr (item :: others)) ++ rest =
          '[' :: (lineBreak (level + 1) ++ (prettyAt (level + 1) item ++
            (prettyRest (level + 1) others ++ (lineBreak level ++ ']' :: rest)))) := by
        simp only [prettyAt, List.cons_append, List.append_assoc, List.nil_append]
      have short : (prettyAt (level + 1) item ++ prettyRest (level + 1) others).length < depth := by
        simp only [prettyAt, List.length_append, List.length_cons, lineBreak] at deep ⊢
        omega
      have opened := opens.append
        (prettyRest (level + 1) others ++ (lineBreak level ++ ']' :: rest))
      have start := opened.skipSpace
      obtain ⟨first, more, same, _, notClosed, _⟩ := opened
      rw [text, scanValue, skipSpace_lineBreak, start]
      split
      · next closed =>
          rw [same] at closed
          exact absurd (List.cons.inj closed).1 notClosed
      · rw [scanItems_prettyRest opens readsItem (fun other among =>
          ⟨opens_prettyAt (level + 1) (plainOthers other among), readsOthers other among⟩) short]
        rfl

/-- Every plain value is read back at every level. The induction is on how it is built, and the
level grows from an array to its items. -/
theorem Plain.readBackIndented (plain : Plain value) : ReadBackIndented value := by
  induction plain with
  | bool value =>
      apply readBackIndented_of_succ fun level => opens_prettyAt level (.bool value)
      cases value with
      | false => exact fun _ _ _ _ _ => rfl
      | true => exact fun _ _ _ _ _ => rfl
  | @int n short =>
      apply readBackIndented_of_succ fun level => opens_prettyAt level (.int short)
      intro level depth rest _ breaks
      rw [prettyAt, scanValue_integer]
      exact scanNumber_integer short breaks.endsNumber
  | str text =>
      apply readBackIndented_of_succ fun level => opens_prettyAt level (.str text)
      exact fun _ depth rest _ _ => scanValue_quoted false depth text rest
  | arr plain ih => exact readBackIndented_arr plain ih

/-- **A shown document is read back.** The indented text of a plain value, with the end of its last
line, is a document of that value. -/
theorem parse_pretty (plain : Plain value) : parse (pretty value ++ ['\n']) = .ok value := by
  have opens := (opens_prettyAt 0 plain).append ['\n']
  have read := plain.readBackIndented 0 ((pretty value ++ ['\n']).length + 1) ['\n'] (by
    rw [pretty, List.length_append]
    omega) (breaksLine_lineBreak 0 [])
  have start := opens.skipSpace
  obtain ⟨first, more, text, _, _, unmarked⟩ := opens
  unfold parse
  split
  · next marked =>
      rw [pretty, text] at marked
      exact absurd (List.cons.inj marked).1 unmarked
  · rw [pretty, start]
    rw [pretty] at read
    rw [read]
    rfl

end ChainQuery.Json
