import ChainQuery.Proofs.Abi.Validation
import ChainQuery.Proofs.Build.Agreement

/-! # How an artifact becomes a query

Turning an object into a query ends where something is missing first (`Artifact.Ends`): an
interface, a text for the program, a function of the name, or a program in the text; and else in the
query. What the errors are documented to mean is said apart from that (`Artifact.Documented`). The
two agree on all objects but those in which an interface hides the program, a function is malformed
or a text stands where a program should (`Artifact.Defect`), and there they disagree always
(`Artifact.documented_normalize_iff`).
-/

namespace ChainQuery

namespace Artifact

/-- The path to the program in a layout. -/
def Layout.path : Layout → List String
  | .compiler => ["evm", "bytecode", "object"]
  | .buildTool => ["bytecode", "object"]

/-- A text that holds no program: but for blanks around it there is a mark at most. -/
def IsVoid (text : String) : Prop :=
  Text.trim text.toList ∈ [[], ['0', 'x'], ['0', 'X']]

instance : DecidablePred IsVoid :=
  fun text => inferInstanceAs (Decidable (Text.trim text.toList ∈ _))

variable (members : Json.Members)

/-- The text in the place where a layout has its program. -/
def Holds (layout : Layout) (text : String) : Prop :=
  (Json.obj members).at? (Layout.path layout) = some (.str text)

/-- A program in one of the two places. -/
def HoldsProgram (program : String) : Prop :=
  ∃ layout, Holds members layout program ∧ ¬ IsVoid program

/-- The program of an artifact: the one in the place of the compiler, or else the other. -/
inductive FirstProgram : String → Prop
  | compiler {program : String} : Holds members .compiler program → ¬ IsVoid program →
      FirstProgram program
  | buildTool {program : String} : (∀ text, Holds members .compiler text → IsVoid text) →
      Holds members .buildTool program → ¬ IsVoid program → FirstProgram program

/-- The interface of an artifact, as a list of objects; none counts as an empty one. -/
inductive HasInterface : List Json.Members → Prop
  | absent : Json.Members.get? members "abi" = none → HasInterface []
  | listed {interface : List Json.Members} :
      Json.Members.get? members "abi" = some (.arr (interface.map .obj)) → HasInterface interface

/-- The objects of a list, whatever else stands in it, that are functions by their type. -/
def functionEntries (value : Json) : List Json.Members :=
  match value with
  | .arr items => (items.filterMap fun
    | .obj entry => some entry
    | _ => none).filter isFunction
  | _ => []

/-- The functions that an artifact declares. -/
def declared : List Json.Members :=
  ((Json.Members.get? members "abi").map functionEntries).getD []

/-- An entry with a name. -/
def Named (function : String) (entry : Json.Members) : Prop :=
  Json.Members.get? entry "name" = some (.str function)

/-- What turning an object into a query is documented to end in: an error that there is no program,
an error that no function of the interface has the name, or the query with the program and with the
inputs and outputs of the first function of that name. -/
inductive Documented (function : String) : Except Failure Query → Prop
  | noProgram : (∀ program, ¬ HoldsProgram members program) →
      Documented function (.error (.pipeline (.missingBytecode (.obj members))))
  | noFunction {program : String} {names : List String} : HoldsProgram members program →
      (∀ entry ∈ declared members, ¬ Named function entry) →
      List.Forall₂ Named names (declared members) →
      Documented function (.error (.pipeline (.missingFunction function names)))
  | query {program bytecode : String} {before after : List Json.Members} {entry : Json.Members}
      {outputs inputs : List Abi.Param} : FirstProgram members program →
      declared members = before ++ entry :: after → (∀ other ∈ before, ¬ Named function other) →
      Named function entry → Query.markedBytecode program = .ok bytecode →
      Schema.optional entry "outputs" [] Abi.Param.listOf = .ok outputs →
      Schema.optional entry "inputs" [] Abi.Param.listOf = .ok inputs →
      Documented function (.ok ⟨bytecode, outputs, inputs⟩)

/-- What is taken as a list of objects has no other items. -/
theorem eq_of_objects? {items : List Json} {entries : List Json.Members}
    (read : objects? items = some entries) : items = entries.map .obj := by
  induction items generalizing entries with
  | nil =>
      obtain rfl := Option.some.inj read
      rfl
  | cons item rest ih =>
      cases item with
      | obj entry =>
          obtain ⟨others, readRest, rfl⟩ := Option.map_eq_some_iff.mp read
          rw [ih readRest, List.map_cons]
      | null | bool | int | float | str | arr => exact nomatch read

variable {members}

/-- The interface of an artifact is the list of objects that is found when the artifact is read;
anything else under its key, or nothing at all, is no interface. -/
theorem hasInterface_iff {interface : List Json.Members} :
    HasInterface members interface ↔ interface? members = some interface := by
  constructor
  · intro has
    cases has with
    | absent missing => rw [interface?, missing]
    | listed has => exact interface?_eq has
  · intro read
    unfold interface? at read
    split at read
    · next missing =>
        obtain rfl := Option.some.inj read
        exact .absent missing
    · next items has =>
        rw [eq_of_objects? read] at has
        exact .listed has
    · cases read

/-- The functions that an artifact declares are those among the entries of its interface. -/
theorem HasInterface.declared_eq {interface : List Json.Members}
    (has : HasInterface members interface) : declared members = interface.filter isFunction := by
  cases has with
  | absent missing => rw [declared, missing]; rfl
  | listed has =>
      rw [declared, has, Option.map_some, Option.getD_some, functionEntries, List.filterMap_map]
      congr 1
      exact List.filterMap_some

/-- A program in a layout is the text on the path of the layout, unless this text is empty.
Something else than a text on the path is no program either. -/
theorem program?_eq_some {layout : Layout} {text : String} :
    Layout.program? members layout = some text ↔ Holds members layout text ∧ text ≠ "" := by
  have below : ∀ value : Json, program? value = some text ↔
      value.at? ["bytecode", "object"] = some (.str text) ∧ text ≠ "" := by
    intro value
    constructor
    · intro read
      unfold program? at read
      split at read
      · next written leads =>
          split at read
          · exact nomatch read
          · next filled =>
              obtain rfl := Option.some.inj read
              obtain ⟨bytecode, has, hasObject⟩ := Option.bind_eq_some_iff.mp leads
              exact ⟨Json.at?_cons_eq_some.mpr ⟨bytecode, has,
                Json.at?_cons_eq_some.mpr ⟨_, hasObject, rfl⟩⟩, filled⟩
      · exact nomatch read
    · rintro ⟨leads, filled⟩
      exact program?_eq filled leads
  cases layout with
  | buildTool => exact below (.obj members)
  | compiler =>
      change (Json.Members.get? members "evm").bind program? = some text ↔
        (Json.obj members).at? ("evm" :: ["bytecode", "object"]) = some (.str text) ∧ text ≠ ""
      simp only [Option.bind_eq_some_iff, below, Json.at?_cons_eq_some, ← and_assoc,
        exists_and_right]
      rfl

/-- The text that is taken for the program: the first that is not empty. -/
def stored? (members : Json.Members) : Option String :=
  (Layout.program? members .compiler).or (Layout.program? members .buildTool)

theorem inLayout?_of_none (unlisted : interface? members = none) (layout : Layout) :
    inLayout? members layout = none := by
  rw [inLayout?, unlisted]
  rfl

/-- With an interface, an artifact is in each layout in which it has a program. -/
theorem inLayout?_of_some {interface : List Json.Members}
    (listed : interface? members = some interface) (layout : Layout) :
    inLayout? members layout =
      (Layout.program? members layout).map fun text => ⟨layout, interface, text⟩ := by
  rw [inLayout?, listed]
  cases Layout.program? members layout with
  | none => rfl
  | some text => rfl

/-- An artifact becomes the query of the first layout that fits, and is reported as one without a
program if neither does. -/
theorem outcome_normalize_layouts (members : Json.Members) (function : String) :
    (normalize (.obj members) function).outcome =
      match [Layout.compiler, .buildTool].findSome? (inLayout? members) with
      | some artifact => artifact.toQuery function
      | none => .error (.pipeline (.missingBytecode (.obj members))) := by
  unfold normalize parse
  dsimp only
  cases [Layout.compiler, .buildTool].findSome? (inLayout? members) with
  | none => rfl
  | some artifact => rfl

/-- An artifact becomes a query if it has an interface and a text for a program, whichever layout
the text comes from. -/
theorem outcome_normalize (members : Json.Members) (function : String) :
    (normalize (.obj members) function).outcome =
      match interface? members, stored? members with
      | some interface, some text => toQuery ⟨.compiler, interface, text⟩ function
      | _, _ => .error (.pipeline (.missingBytecode (.obj members))) := by
  rw [outcome_normalize_layouts, stored?]
  cases listed : interface? members with
  | none =>
      simp only [List.findSome?_cons, List.findSome?_nil, inLayout?_of_none listed]
  | some interface =>
      simp only [List.findSome?_cons, List.findSome?_nil, inLayout?_of_some listed]
      cases Layout.program? members .compiler with
      | some text => rfl
      | none =>
          cases Layout.program? members .buildTool with
          | some text => rfl
          | none => rfl

/-- There is no program in a layout when no text stands on its path, or only an empty one. -/
theorem program?_eq_none {layout : Layout} :
    Layout.program? members layout = none ↔ ∀ text, Holds members layout text → text = "" := by
  rw [Option.eq_none_iff_forall_ne_some]
  simp only [ne_eq, program?_eq_some, not_and, not_not]

/-- No program is stored when no layout has one: on the path of each layout stands no text, or an
empty one. -/
theorem stored?_eq_none :
    stored? members = none ↔ ∀ layout text, Holds members layout text → text = "" := by
  rw [stored?, Option.or_eq_none_iff, program?_eq_none, program?_eq_none]
  constructor
  · rintro ⟨compiler, buildTool⟩ layout
    cases layout with
    | compiler => exact compiler
    | buildTool => exact buildTool
  · exact fun all => ⟨all .compiler, all .buildTool⟩

/-- The text that is taken is the program of the artifact, if it is one. -/
theorem firstProgram_of_stored? {text : String} (stored : stored? members = some text)
    (filled : ¬ IsVoid text) : FirstProgram members text := by
  rcases Option.or_eq_some_iff.mp stored with compiler | ⟨none, buildTool⟩
  · exact .compiler (program?_eq_some.mp compiler).1 filled
  · refine .buildTool ?_ (program?_eq_some.mp buildTool).1 filled
    intro other holds
    rw [program?_eq_none.mp none other holds]
    exact List.mem_cons_self

/-- The first program that is found is one that the artifact holds. -/
theorem FirstProgram.holdsProgram {program : String} (first : FirstProgram members program) :
    HoldsProgram members program := by
  cases first with
  | compiler holds filled => exact ⟨.compiler, holds, filled⟩
  | buildTool _ holds filled => exact ⟨.buildTool, holds, filled⟩

/-- What a query reports about a text that is no program. -/
def voidReport : Failure :=
  .invalid [⟨[.field "bytecode"], .own "bytecode must be non-empty"⟩]

/-- How turning an object into a query ends: without an interface or a text for the program, there
is none; else a function is chosen or not; and then the text is looked at. -/
inductive Ends (members : Json.Members) (function : String) : Except Failure Query → Prop
  | noInterface : (∀ interface, ¬ HasInterface members interface) →
      Ends members function (.error (.pipeline (.missingBytecode (.obj members))))
  | noText : stored? members = none →
      Ends members function (.error (.pipeline (.missingBytecode (.obj members))))
  | noFunction {interface : List Json.Members} {text : String} {failure : Failure} :
      HasInterface members interface → stored? members = some text →
      Choosing interface function (.error failure) → Ends members function (.error failure)
  | void {interface : List Json.Members} {text : String} {first : Abi.Function} :
      HasInterface members interface → stored? members = some text →
      Choosing interface function (.ok first) → IsVoid text →
      Ends members function (.error voidReport)
  | query {interface : List Json.Members} {text bytecode : String} {first : Abi.Function} :
      HasInterface members interface → stored? members = some text →
      Choosing interface function (.ok first) → ¬ IsVoid text →
      Query.markedBytecode text = .ok bytecode →
      Ends members function (.ok ⟨bytecode, first.outputs, first.inputs⟩)

/-- A text that is no program is refused, and any other gets a mark. A text is no program if nothing
is left of it when it is trimmed and its mark is taken off. -/
theorem markedBytecode_cases (text : String) :
    (IsVoid text ∧ Query.markedBytecode text =
      Schema.Checked.broken (.own "bytecode must be non-empty")) ∨
    (¬ IsVoid text ∧ ∃ bytecode, Query.markedBytecode text = .ok bytecode) := by
  unfold IsVoid Query.markedBytecode
  by_cases void : Text.trim text.toList ∈ [[], ['0', 'x'], ['0', 'X']]
  · have empty : Text.trim text.toList = [] ∨ Text.trim text.toList = ['0', 'x'] ∨
        Text.trim text.toList = ['0', 'X'] := by
      simpa only [List.mem_cons, List.not_mem_nil, or_false] using void
    exact Or.inl ⟨void, if_pos empty⟩
  · have filled : ¬ (Text.trim text.toList = [] ∨ Text.trim text.toList = ['0', 'x'] ∨
        Text.trim text.toList = ['0', 'X']) := by
      simpa only [List.mem_cons, List.not_mem_nil, or_false] using void
    refine Or.inr ⟨void, ?_⟩
    dsimp only
    rw [if_neg filled]
    split
    · exact ⟨_, rfl⟩
    · exact ⟨_, rfl⟩

/-- A query is made of any text that is a program, with the shapes that it is given, and a text that
is none is reported. -/
theorem make_cases (text : String) (outputs inputs : List Abi.Param) :
    (IsVoid text ∧ (Query.make (.str text) outputs inputs).orInvalid = .error voidReport) ∨
    (¬ IsVoid text ∧ ∃ bytecode, Query.markedBytecode text = .ok bytecode ∧
      (Query.make (.str text) outputs inputs).orInvalid = .ok ⟨bytecode, outputs, inputs⟩) := by
  have checked : Query.bytecodeOf (.str text) = Query.markedBytecode text := rfl
  rcases markedBytecode_cases text with ⟨void, refused⟩ | ⟨filled, bytecode, marked⟩
  · refine Or.inl ⟨void, ?_⟩
    rw [Query.make, checked, refused]
    rfl
  · refine Or.inr ⟨filled, bytecode, marked, ?_⟩
    rw [Query.make, checked, marked]
    rfl

/-- The function that is looked for in an artifact is found, or the search fails in one of the ways
listed. This holds of every object, whatever its members are. -/
theorem ends_normalize (members : Json.Members) (function : String) :
    Ends members function (normalize (.obj members) function).outcome := by
  rw [outcome_normalize]
  cases has : interface? members with
  | none =>
      apply Ends.noInterface
      intro interface listed
      exact nomatch has.symm.trans (hasInterface_iff.mp listed)
  | some interface =>
      have listed := hasInterface_iff.mpr has
      cases stored : stored? members with
      | none => exact .noText stored
      | some text =>
          dsimp only
          rw [toQuery_eq]
          have choosing := choosing_choose interface function
          cases chosen : choose interface function with
          | error failure =>
              rw [chosen] at choosing
              exact .noFunction listed stored choosing
          | ok first =>
              rw [chosen] at choosing
              -- the text is looked at only now
              change Ends members function
                (Query.make (.str text) first.outputs first.inputs).orInvalid
              rcases make_cases text first.outputs first.inputs with
                ⟨void, refused⟩ | ⟨filled, bytecode, marked, made⟩
              · rw [refused]
                exact .void listed stored choosing void
              · rw [made]
                exact .query listed stored choosing filled marked

section

variable {interface : List Json.Members} {function : String}

/-- The entries that are read as functions have their names, in the same order. -/
theorem AllRead.named {entries : List Json.Members} {functions : List Abi.Function}
    (read : AllRead entries functions) :
    List.Forall₂ Named (functions.map (·.name)) entries := by
  induction read with
  | nil => exact .nil
  | cons first _ ih => exact .cons (Abi.Function.fields_of_ofJson first).1 ih

/-- A name that no function has is the name of no entry, as every entry has the name of the function
that is read from it. -/
theorem not_named_of_allRead {entries : List Json.Members} {functions : List Abi.Function}
    (read : AllRead entries functions) (others : ∀ other ∈ functions, other.name ≠ function) :
    ∀ entry ∈ entries, ¬ Named function entry := by
  induction read with
  | nil => exact fun _ among => absurd among List.not_mem_nil
  | @cons entry first _ _ readFirst _ ih =>
      obtain ⟨distinct, others⟩ := List.forall_mem_cons.mp others
      refine List.forall_mem_cons.mpr ⟨?_, ih others⟩
      intro named
      have same := named.symm.trans (Abi.Function.fields_of_ofJson readFirst).1
      exact distinct (Json.str.inj (Option.some.inj same)).symm

/-- The function that is chosen is that of the first entry of the name, and the entries in front of
it have other names. -/
theorem exists_entry_of_allRead {entries : List Json.Members} {before after : List Abi.Function}
    {first : Abi.Function} (read : AllRead entries (before ++ first :: after)) :
    ∃ earlier entry later, entries = earlier ++ entry :: later ∧ AllRead earlier before ∧
      Abi.Function.ofJson (.obj entry) = .ok first := by
  induction before generalizing entries with
  | nil =>
      cases read with
      | cons readFirst _ => exact ⟨[], _, _, rfl, .nil, readFirst⟩
  | cons other before ih =>
      cases read with
      | @cons otherEntry _ _ _ readOther rest =>
          obtain ⟨earlier, entry, later, rfl, readEarlier, readFirst⟩ := ih rest
          exact ⟨otherEntry :: earlier, entry, later, rfl, .cons readOther readEarlier, readFirst⟩

/-- Where all are read as functions, none is malformed. -/
theorem not_malformed_of_allRead {entries : List Json.Members} {functions : List Abi.Function}
    (read : AllRead entries functions) {entry : Json.Members} (among : entry ∈ entries)
    {violations : List Schema.Violation} :
    Abi.Function.ofJson (.obj entry) ≠ .error violations := by
  induction read with
  | nil => exact absurd among List.not_mem_nil
  | cons readFirst _ ih =>
      rcases List.mem_cons.mp among with rfl | among
      · rw [readFirst]
        exact nofun
      · exact ih among

end

/-- What keeps the errors from being the documented ones: an interface that is no list of objects
hides a program; a function is malformed, whichever is wanted; or the text that is taken is no
program, although there is none at all or the function is there. -/
inductive Defect (members : Json.Members) (function : String) : Prop
  | hidden {program : String} : HoldsProgram members program →
      (∀ interface, ¬ HasInterface members interface) → Defect members function
  | malformed {interface : List Json.Members} {text : String} {entry : Json.Members}
      {violations : List Schema.Violation} :
      HasInterface members interface → stored? members = some text →
      entry ∈ interface.filter isFunction →
      Abi.Function.ofJson (.obj entry) = .error violations → Defect members function
  | void {interface : List Json.Members} {text : String} :
      HasInterface members interface → stored? members = some text → IsVoid text →
      ((∀ program, ¬ HoldsProgram members program) ∨
        ∃ entry ∈ interface.filter isFunction, Named function entry) → Defect members function

/-- An artifact has one interface at most. -/
theorem HasInterface.eq {first second : List Json.Members} (one : HasInterface members first)
    (other : HasInterface members second) : first = second :=
  Option.some.inj ((hasInterface_iff.mp one).symm.trans (hasInterface_iff.mp other))

/-- No report on broken data is documented. -/
theorem not_documented_invalid {function : String} {violations : List Schema.Violation} :
    ¬ Documented members function (.error (.invalid violations)) :=
  nofun

/-- Where there is a text for a program and all functions are read, only the text can be a
defect. -/
theorem Defect.void_of_allRead {function text : String} {interface : List Json.Members}
    {functions : List Abi.Function} (defect : Defect members function)
    (has : HasInterface members interface) (stored : stored? members = some text)
    (read : AllRead (interface.filter isFunction) functions) :
    IsVoid text ∧ ((∀ program, ¬ HoldsProgram members program) ∨
      ∃ entry ∈ interface.filter isFunction, Named function entry) := by
  cases defect with
  | hidden _ unlisted => exact absurd has (unlisted interface)
  | malformed listed _ among fails =>
      rw [listed.eq has] at among
      exact absurd fails (not_malformed_of_allRead read among)
  | void listed taken void reason =>
      obtain rfl := Option.some.inj (taken.symm.trans stored)
      obtain rfl := listed.eq has
      exact ⟨void, reason⟩

/-- Where there is a defect, the end is none of the documented ones: the failure is of another kind,
or it does not say what is missing. -/
theorem Ends.not_documented {function : String} {outcome : Except Failure Query}
    (ends : Ends members function outcome) (defect : Defect members function) :
    ¬ Documented members function outcome := by
  intro documented
  cases ends with
  | noInterface unlisted =>
      cases documented with
      | noProgram none =>
          cases defect with
          | hidden holds _ => exact none _ holds
          | malformed has | void has => exact unlisted _ has
  | noText untaken =>
      cases documented with
      | noProgram none =>
          cases defect with
          | hidden holds _ => exact none _ holds
          | malformed _ stored | void _ stored => exact nomatch untaken.symm.trans stored
  | noFunction has stored choosing =>
      cases choosing with
      | malformed => exact not_documented_invalid documented
      | missing read others =>
          cases documented with
          | noFunction holds _ _ =>
              rcases (defect.void_of_allRead has stored read).2 with none | ⟨entry, among, named⟩
              · exact none _ holds
              · exact not_named_of_allRead read others entry among named
  | void => exact not_documented_invalid documented
  | query has stored choosing filled _ =>
      cases choosing with
      | found read _ _ => exact filled (defect.void_of_allRead has stored read).1

/-- Where there is no defect, the end is a documented one, so the defects are all the cases in which
the errors are others than documented. -/
theorem Ends.documented {function : String} {outcome : Except Failure Query}
    (ends : Ends members function outcome) (sound : ¬ Defect members function) :
    Documented members function outcome := by
  cases ends with
  | noInterface unlisted => exact .noProgram fun program holds => sound (.hidden holds unlisted)
  | noText untaken =>
      refine .noProgram ?_
      rintro program ⟨layout, holds, filled⟩
      rw [stored?_eq_none.mp untaken layout program holds] at filled
      exact filled List.mem_cons_self
  | @noFunction interface text failure has stored choosing =>
      cases choosing with
      | @malformed before after entry violations split _ fails =>
          have among : entry ∈ interface.filter isFunction := by
            rw [split]
            exact List.mem_append_right before List.mem_cons_self
          exact absurd (.malformed has stored among fails) sound
      | missing read others =>
          obtain ⟨program, holds⟩ : ∃ program, HoldsProgram members program := by
            by_cases void : IsVoid text
            · by_contra none
              refine sound (.void has stored void (Or.inl ?_))
              exact fun program holds => none ⟨program, holds⟩
            · exact ⟨text, (firstProgram_of_stored? stored void).holdsProgram⟩
          rw [← has.declared_eq] at read
          exact .noFunction holds (not_named_of_allRead read others) read.named
  | @void interface text first has stored choosing void =>
      cases choosing with
      | found read named _ =>
          obtain ⟨earlier, entry, later, split, _, readFirst⟩ := exists_entry_of_allRead read
          have among : entry ∈ interface.filter isFunction := by
            rw [split]
            exact List.mem_append_right earlier List.mem_cons_self
          have called : Named function entry := by
            rw [← named]
            exact (Abi.Function.fields_of_ofJson readFirst).1
          exact absurd (.void has stored void (Or.inr ⟨entry, among, called⟩)) sound
  | @query interface text bytecode first has stored choosing filled marked =>
      cases choosing with
      | found read named others =>
          obtain ⟨earlier, entry, later, split, readEarlier, readFirst⟩ :=
            exists_entry_of_allRead read
          obtain ⟨called, inputs, outputs⟩ := Abi.Function.fields_of_ofJson readFirst
          rw [named] at called
          rw [← has.declared_eq] at split
          exact .query (firstProgram_of_stored? stored filled) split
            (not_named_of_allRead readEarlier others) called marked outputs inputs

/-- **Errors of artifacts.** Whatever the object and the name: turning it into a query ends in one
of the ways that are listed, and the end is a documented one exactly where none of the listed
defects is. -/
theorem documented_normalize_iff (members : Json.Members) (function : String) :
    Ends members function (normalize (.obj members) function).outcome ∧
      (Documented members function (normalize (.obj members) function).outcome ↔
        ¬ Defect members function) := by
  have ends := ends_normalize members function
  refine ⟨ends, fun documented defect => ?_, ends.documented⟩
  exact ends.not_documented defect documented

/-- An interface that is null, a function without a name beside the one that is wanted, and a mark
for a program: none of these objects ends in a documented way. -/
theorem not_documented_of_defects :
    let query : Json.Members := [("type", .str "function"), ("name", .str "query")]
    let nameless : Json.Members := [("type", .str "function")]
    let program (text : String) : String × Json := ("bytecode", .obj [("object", .str text)])
    let hidden : Json.Members := [("abi", .null), program "0x6001"]
    let malformed : Json.Members := [("abi", .arr [.obj query, .obj nameless]), program "0x6001"]
    let void : Json.Members := [("abi", .arr [.obj query]), program "0x"]
    ∀ members ∈ [hidden, malformed, void],
      ¬ Documented members "query" (normalize (.obj members) "query").outcome := by
  intro query nameless program hidden malformed void
  have filled : ¬ IsVoid "0x6001" := by decide
  have isHidden : Defect hidden "query" := by
    refine .hidden ⟨.buildTool, rfl, filled⟩ ?_
    intro interface has
    exact nomatch hasInterface_iff.mp has
  have isMalformed : Defect malformed "query" := by
    have has : HasInterface malformed [query, nameless] := .listed rfl
    have among : nameless ∈ [query, nameless].filter isFunction := .tail _ (.head _)
    exact .malformed has rfl among rfl
  have isVoid : Defect void "query" := by
    have has : HasInterface void [query] := .listed rfl
    have among : query ∈ [query].filter isFunction := .head _
    exact .void has rfl (by decide) (Or.inr ⟨query, among, rfl⟩)
  intro members among
  apply (ends_normalize members "query").not_documented
  rcases List.mem_cons.mp among with rfl | among
  · exact isHidden
  · rcases List.mem_cons.mp among with rfl | among
    · exact isMalformed
    · rw [List.mem_singleton.mp among]
      exact isVoid

end Artifact

end ChainQuery
