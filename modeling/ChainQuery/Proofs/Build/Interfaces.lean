import ChainQuery.Proofs.Abi.Interfaces
import ChainQuery.Proofs.Build.Endings
import ChainQuery.Proofs.Registry.History

/-! # One interface, registered and ingested

The entries of a JSON interface can be registered with a source, and an artifact can carry them. The
artifact has the functions among those entries that have a type at all
(`Artifact.functions_eq_normalize_typed`), while an entry without a type is registered as a
function. So the two agree exactly if every entry has a type, or if both stop at malformed entries
that break the same rules (`Artifact.functions_agree_iff`).
-/

namespace ChainQuery.Artifact

/-- An entry that says what it is. -/
def HasType (entry : Json.Members) : Prop :=
  Json.Members.get? entry "type" ≠ none

instance : DecidablePred HasType :=
  fun entry => inferInstanceAs (Decidable (Json.Members.get? entry "type" ≠ none))

/-- Whether an entry counts as a function where a missing type stands for that of a function. -/
def isCallable (entry : Json.Members) : Bool :=
  (Json.Members.get? entry "type").getD (.str Abi.Function.kindWord) = .str Abi.Function.kindWord

/-- The entries of an interface, as they are registered. -/
def entriesOf (interface : List Json.Members) : List Abi.Entry :=
  interface.map fun entry => .json (.obj entry)

/-- An entry is taken for a function by the stricter reader if the other one takes it too and it
says its type. -/
theorem isFunction_iff {entry : Json.Members} :
    isFunction entry = true ↔ isCallable entry = true ∧ HasType entry := by
  unfold isFunction isCallable HasType
  rw [decide_eq_true_iff, decide_eq_true_iff]
  cases Json.Members.get? entry "type" with
  | none => exact ⟨nofun, fun ⟨_, typed⟩ => absurd rfl typed⟩
  | some kind =>
      constructor
      · exact fun same => ⟨Option.some.inj same, nofun⟩
      · exact fun ⟨same, _⟩ => congrArg some same

/-- An entry that does not say its type is taken for a function. -/
theorem isCallable_of_not_hasType {entry : Json.Members} (untyped : ¬ HasType entry) :
    isCallable entry = true := by
  unfold isCallable
  rw [not_not.mp untyped]
  rfl

/-- Among the entries that say their type, both readers take the same ones. -/
theorem filter_isCallable_typed (interface : List Json.Members) :
    (interface.filter HasType).filter isCallable = interface.filter isFunction := by
  rw [List.filter_filter]
  apply List.filter_congr
  intro entry _
  rw [Bool.eq_iff_iff, Bool.and_eq_true, decide_eq_true_iff, isFunction_iff]

/-- Registering entries reads all those that count as functions, among them the ones that do not say
their type. -/
theorem normalize_entriesOf (interface : List Json.Members) :
    Abi.normalize (entriesOf interface) = checkAll (interface.filter isCallable) := by
  induction interface with
  | nil => rfl
  | cons entry rest ih =>
      change Abi.normalize (.json (.obj entry) :: entriesOf rest) = _
      rw [Abi.normalize_cons, ih, List.filter_cons]
      by_cases callable : isCallable entry = true
      · rw [if_pos callable, checkAll, Abi.Entry.read_obj_of_function (decide_eq_true_iff.mp callable)]
        cases Abi.Function.ofJson (.obj entry) with
        | error violations => rfl
        | ok function => rfl
      · have other : Abi.IsOther entry := by
          have typed : HasType entry := by
            by_contra untyped
            exact callable (isCallable_of_not_hasType untyped)
          obtain ⟨kind, has⟩ := Option.ne_none_iff_exists'.mp typed
          refine ⟨kind, has, fun same => callable ?_⟩
          rw [isCallable, has, same]
          rfl
        rw [if_neg callable, Abi.Entry.read_obj_of_other other]
        cases checkAll (rest.filter isCallable) with
        | error failure => rfl
        | ok functions => rfl

/-- The functions of an artifact are those that are registered for the entries with a type. -/
theorem functions_eq_normalize_typed (artifact : Artifact) :
    artifact.functions = Abi.normalize (entriesOf (artifact.interface.filter HasType)) := by
  rw [normalize_entriesOf, filter_isCallable_typed, functions]

/-- The first of several entries that cannot be read as a function, by the rules that it breaks. -/
def FirstMalformed (entries : List Json.Members) (violations : List Schema.Violation) : Prop :=
  ∃ before entry after, entries = before ++ entry :: after ∧
    (∀ other ∈ before, ∃ function, Abi.Function.ofJson (.obj other) = .ok function) ∧
    Abi.Function.ofJson (.obj entry) = .error violations

/-- Checking entries fails as the first malformed one, whatever stands behind it. -/
theorem FirstMalformed.checkAll_eq {entries : List Json.Members}
    {violations : List Schema.Violation} (malformed : FirstMalformed entries violations) :
    checkAll entries = .error (.invalid violations) := by
  obtain ⟨before, entry, after, rfl, sound, fails⟩ := malformed
  induction before with
  | nil =>
      rw [List.nil_append, checkAll, fails]
      rfl
  | cons other before ih =>
      obtain ⟨⟨function, read⟩, sound⟩ := List.forall_mem_cons.mp sound
      rw [List.cons_append, checkAll, read, ih sound]
      rfl

/-- A failure of a check is that of the first entry that is malformed. -/
theorem exists_firstMalformed {entries : List Json.Members} {failure : Failure}
    (failed : checkAll entries = .error failure) :
    ∃ violations, FirstMalformed entries violations ∧ failure = .invalid violations := by
  obtain ⟨before, entry, after, violations, split, sound, fails, same⟩ :=
    exists_of_checkAll_eq_error failed
  exact ⟨violations, ⟨before, entry, after, split, sound, fails⟩, same⟩

/-- If the same functions are read with and without the entries that have no type, there is no such
entry. -/
theorem hasType_of_checkAll_eq_ok {interface : List Json.Members} {functions : List Abi.Function}
    (typed : checkAll (interface.filter isFunction) = .ok functions)
    (callable : checkAll (interface.filter isCallable) = .ok functions) :
    ∀ entry ∈ interface, HasType entry := by
  have sameLength := (checkAll_eq_ok.mp typed).length_eq.trans
    (checkAll_eq_ok.mp callable).length_eq.symm
  have among : (interface.filter isCallable).filter isFunction = interface.filter isFunction := by
    rw [List.filter_filter]
    apply List.filter_congr
    intro entry _
    rw [Bool.eq_iff_iff, Bool.and_eq_true]
    exact ⟨And.left, fun named => ⟨named, (isFunction_iff.mp named).1⟩⟩
  intro entry inside
  by_contra untyped
  have dropped : ((interface.filter isCallable).filter isFunction).length <
      (interface.filter isCallable).length := by
    apply List.length_filter_lt_length_iff_exists.mpr
    refine ⟨entry, List.mem_filter.mpr ⟨inside, isCallable_of_not_hasType untyped⟩, ?_⟩
    exact fun named => untyped (isFunction_iff.mp named).2
  rw [among, sameLength] at dropped
  exact Nat.lt_irrefl _ dropped

/-- The two readers agree on an interface in two cases: every entry says its type, or they fail
alike at their first malformed entry before an entry without a type makes a difference. -/
theorem checkAll_filter_eq_iff (interface : List Json.Members) :
    checkAll (interface.filter isFunction) = checkAll (interface.filter isCallable) ↔
      (∀ entry ∈ interface, HasType entry) ∨
        ∃ violations, FirstMalformed (interface.filter isFunction) violations ∧
          FirstMalformed (interface.filter isCallable) violations := by
  constructor
  · intro same
    cases typed : checkAll (interface.filter isFunction) with
    | ok functions => exact Or.inl (hasType_of_checkAll_eq_ok typed (same ▸ typed))
    | error failure =>
        obtain ⟨violations, first, rfl⟩ := exists_firstMalformed typed
        obtain ⟨_, second, sameViolations⟩ := exists_firstMalformed (same ▸ typed)
        obtain rfl := Failure.invalid.inj sameViolations
        exact Or.inr ⟨violations, first, second⟩
  · rintro (typed | ⟨violations, first, second⟩)
    · have same : interface.filter isFunction = interface.filter isCallable := by
        apply List.filter_congr
        intro entry inside
        rw [Bool.eq_iff_iff, isFunction_iff]
        exact ⟨And.left, fun callable => ⟨callable, typed entry inside⟩⟩
      rw [same]
    · rw [first.checkAll_eq, second.checkAll_eq]

/-- An object with an interface and a text for the program is an artifact with that interface, in
whichever of the layouts the text stands. -/
theorem exists_parse {members : Json.Members} {interface : List Json.Members} {layout : Layout}
    {text : String}
    (listed : Json.Members.get? members "abi" = some (.arr (interface.map .obj)))
    (holds : Holds members layout text) (filled : text ≠ "") :
    ∃ artifact, (parse (.obj members)).outcome = .ok artifact ∧
      artifact.interface = interface := by
  have found := program?_eq_some.mpr ⟨holds, filled⟩
  have fits := inLayout?_of_some (interface?_eq listed)
  unfold parse
  simp only [List.findSome?_cons, List.findSome?_nil, fits]
  cases compiler : Layout.program? members .compiler with
  | some program => exact ⟨_, rfl, rfl⟩
  | none =>
      cases layout with
      | compiler => exact nomatch compiler.symm.trans found
      | buildTool =>
          rw [found]
          exact ⟨_, rfl, rfl⟩

/-- **Two readers of one interface.** Whatever the entries: an artifact that carries them has the
functions that are read from those with a type. It agrees with an interface that is read from all
entries exactly if all of them have a type, or if on both sides the first malformed function breaks
the same rules. So a contract that can be registered with these entries has the same functions as
the artifact exactly if every entry has a type. -/
theorem functions_agree_iff {members : Json.Members} {interface : List Json.Members}
    {layout : Layout} {text : String}
    (listed : Json.Members.get? members "abi" = some (.arr (interface.map .obj)))
    (holds : Holds members layout text) (filled : text ≠ "") :
    ∃ artifact, (parse (.obj members)).outcome = .ok artifact ∧
      artifact.functions = Abi.normalize (entriesOf (interface.filter HasType)) ∧
      (artifact.functions = Abi.normalize (entriesOf interface) ↔
        (∀ entry ∈ interface, HasType entry) ∨
          ∃ violations, FirstMalformed (interface.filter isFunction) violations ∧
            FirstMalformed (interface.filter isCallable) violations) ∧
      ∀ (registry later : Registry) name address source,
        (registry.add name address (entriesOf interface)).outcome = .ok (later, source) →
        (artifact.functions = .ok source.interface ↔ ∀ entry ∈ interface, HasType entry) := by
  obtain ⟨artifact, parsed, rfl⟩ := exists_parse listed holds filled
  have agree := checkAll_filter_eq_iff artifact.interface
  rw [← normalize_entriesOf, ← functions] at agree
  refine ⟨artifact, parsed, functions_eq_normalize_typed artifact, agree, ?_⟩
  intro registry later name address source added
  have registered := Registry.normalize_of_add added
  rw [registered] at agree
  rw [agree]
  constructor
  · rintro (typed | ⟨violations, _, malformed⟩)
    · exact typed
    · rw [normalize_entriesOf, malformed.checkAll_eq] at registered
      exact nomatch registered
  · exact Or.inl

/-- An event, a malformed function and a function without a type: both readers report what is wrong
with the malformed function. -/
theorem functions_agree_iff_malformed :
    let interface : List Json.Members := [[("type", .str "event")],
      [("type", .str "function"), ("inputs", .null)], [("name", .str "query")]]
    let members : Json.Members :=
      [("abi", .arr (interface.map .obj)), ("bytecode", .obj [("object", .str "0x6001")])]
    ∃ artifact, (parse (.obj members)).outcome = .ok artifact ∧
      artifact.functions = Abi.normalize (entriesOf interface) ∧
      artifact.functions = .error (.invalid
        [⟨[.field "name"], .missing⟩, ⟨[.field "inputs"], .sequence⟩]) := by
  intro interface members
  have holds : Holds members .buildTool "0x6001" := rfl
  obtain ⟨artifact, parsed, typed, agree, _⟩ := functions_agree_iff rfl holds (by decide)
  have malformed {later : List Json.Members} : FirstMalformed
      ([("type", .str "function"), ("inputs", .null)] :: later)
      [⟨[.field "name"], .missing⟩, ⟨[.field "inputs"], .sequence⟩] :=
    ⟨[], _, later, rfl, fun _ among => absurd among List.not_mem_nil, rfl⟩
  refine ⟨artifact, parsed, agree.mpr (Or.inr ⟨_, malformed, malformed⟩), ?_⟩
  rw [typed]
  rfl

/-- A function without a type is registered, and an artifact does not have it. -/
theorem functions_differ_untyped :
    let entry : Json.Members := [("name", .str "query")]
    let members : Json.Members :=
      [("abi", .arr [.obj entry]), ("bytecode", .obj [("object", .str "0x6001")])]
    ∃ artifact, (parse (.obj members)).outcome = .ok artifact ∧ artifact.interface = [entry] ∧
      artifact.functions = .ok [] ∧
      Abi.normalize (entriesOf [entry]) = .ok [⟨"query", [], [], "nonpayable"⟩] :=
  ⟨⟨.buildTool, [[("name", .str "query")]], "0x6001"⟩, rfl, rfl, rfl, rfl⟩

end ChainQuery.Artifact
