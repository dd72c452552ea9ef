import ChainQuery.Proofs.Abi.Interfaces
import ChainQuery.Proofs.CommandLine.EngineAddress
import ChainQuery.Proofs.Registry.History

/-! # Sources of a query

The source options of a query are put together by name: one group for each name, in the order of
first appearances, with the address as it was first spelled and with all signatures in order
(`groupsOf`). They are refused if two options of one name have different addresses, which is found
out although each address is only compared with the first one (`groupSources_cases`). Every group
becomes one source of the session (`outcome_register`), so that a query only depends on the options
of each name and on the order of the names (`runQuery_sources`).
-/

namespace ChainQuery

namespace CommandLine

/-- The names of options in the order of their first appearances. -/
def distinctNames (options : List SourceOption) : List String :=
  (options.map (·.name)).eraseDups

/-- The options of a name, in order. -/
def optionsOf (options : List SourceOption) (name : String) : List SourceOption :=
  options.filter (·.name == name)

/-- The options of a name put together: the address of the first, the signatures of all. -/
def groupOf (options : List SourceOption) (name : String) : SourceGroup where
  name := name
  address := ((optionsOf options name).map (·.address)).headD ""
  signatures := (optionsOf options name).map (·.signature)

/-- A group for each name. -/
def groupsOf (options : List SourceOption) : List SourceGroup :=
  (distinctNames options).map (groupOf options)

/-- Two options give one name two addresses. -/
def Clash (first second : SourceOption) : Prop :=
  first.name = second.name ∧ lowered first.address ≠ lowered second.address

/-- Some name is given two addresses. -/
def Conflicting (options : List SourceOption) : Prop :=
  ∃ first ∈ options, ∃ second ∈ options, Clash first second

instance (options : List SourceOption) : Decidable (Conflicting options) :=
  inferInstanceAs (Decidable (∃ first ∈ options, ∃ second ∈ options,
    first.name = second.name ∧ lowered first.address ≠ lowered second.address))

/-- What is said about a name with two addresses. -/
def twoAddresses (first second : SourceOption) : String :=
  "source '" ++ second.name ++ "' given two addresses: " ++ first.address ++ ", " ++ second.address

variable {options : List SourceOption} {option : SourceOption}

theorem mem_distinctNames {name : String} :
    name ∈ distinctNames options ↔ ∃ option ∈ options, option.name = name := by
  rw [distinctNames, List.mem_eraseDups, List.mem_map]

/-- One more option adds its name at the end, unless it is there already. -/
theorem distinctNames_concat (options : List SourceOption) (option : SourceOption) :
    distinctNames (options ++ [option]) =
      if option.name ∈ distinctNames options then distinctNames options
      else distinctNames options ++ [option.name] := by
  simp only [distinctNames, List.map_append, List.map_cons, List.map_nil, List.mem_eraseDups]
  exact Registration.eraseDups_concat _ _

theorem nodup_distinctNames (options : List SourceOption) : (distinctNames options).Nodup :=
  Registration.nodup_eraseDups _

/-- No option has a name that is not listed. -/
theorem optionsOf_eq_nil {name : String} (new : name ∉ distinctNames options) :
    optionsOf options name = [] := by
  rw [optionsOf, List.filter_eq_nil_iff]
  intro option among same
  exact new (mem_distinctNames.mpr ⟨option, among, beq_iff_eq.mp same⟩)

/-- A listed name has a first option. -/
theorem exists_optionsOf_eq {name : String} (known : name ∈ distinctNames options) :
    ∃ first rest, optionsOf options name = first :: rest ∧ first ∈ options ∧ first.name = name := by
  obtain ⟨option, among, named⟩ := mem_distinctNames.mp known
  cases own : optionsOf options name with
  | nil =>
      have inside : option ∈ optionsOf options name :=
        List.mem_filter.mpr ⟨among, beq_iff_eq.mpr named⟩
      rw [own] at inside
      exact absurd inside List.not_mem_nil
  | cons first rest =>
      have inside : first ∈ optionsOf options name := own ▸ List.mem_cons_self
      obtain ⟨among, same⟩ := List.mem_filter.mp inside
      exact ⟨first, rest, rfl, among, beq_iff_eq.mp same⟩

/-- One more option leaves the groups of the other names as they are. -/
theorem groupOf_concat_of_ne {name : String} (other : option.name ≠ name) :
    groupOf (options ++ [option]) name = groupOf options name := by
  have same : optionsOf (options ++ [option]) name = optionsOf options name := by
    simp only [optionsOf, List.filter_append, List.filter_cons, beq_eq_false_iff_ne.mpr other,
      Bool.false_eq_true, ↓reduceIte, List.filter_nil, List.append_nil]
  rw [groupOf, groupOf, same]

theorem optionsOf_concat_self (options : List SourceOption) (option : SourceOption) :
    optionsOf (options ++ [option]) option.name = optionsOf options option.name ++ [option] := by
  simp only [optionsOf, List.filter_append, List.filter_cons, beq_self_eq_true, ↓reduceIte,
    List.filter_nil]

/-- The first option of a name makes a group of one signature. -/
theorem groupOf_concat_of_new (new : option.name ∉ distinctNames options) :
    groupOf (options ++ [option]) option.name =
      ⟨option.name, option.address, [option.signature]⟩ := by
  rw [groupOf, optionsOf_concat_self, optionsOf_eq_nil new]
  rfl

/-- A further option of a name does not change the address that came first. -/
theorem groupOf_concat_of_known (known : option.name ∈ distinctNames options) :
    groupOf (options ++ [option]) option.name =
      { groupOf options option.name with
        signatures := (groupOf options option.name).signatures ++ [option.signature] } := by
  obtain ⟨first, rest, own, _⟩ := exists_optionsOf_eq known
  simp only [groupOf, optionsOf_concat_self, own, List.map_append, List.map_cons, List.map_nil,
    List.cons_append, List.headD_cons]

theorem map_groupOf_concat {names : List String} (others : option.name ∉ names) :
    names.map (groupOf (options ++ [option])) = names.map (groupOf options) := by
  apply List.map_congr_left
  intro name among
  exact groupOf_concat_of_ne fun same => others (same ▸ among)

theorem addToGroup_cons_of_ne {group : SourceGroup} (other : option.name ≠ group.name)
    (rest : List SourceGroup) :
    addToGroup option (group :: rest) = (addToGroup option rest).map (group :: ·) :=
  if_neg (Ne.symm other)

/-- An option of a new name makes a group of its own, behind the others, with the address and the
signature of the option. -/
theorem addToGroup_of_new (new : option.name ∉ distinctNames options) {names : List String}
    (others : option.name ∉ names) :
    addToGroup option (names.map (groupOf options)) =
      .ok ((names ++ [option.name]).map (groupOf (options ++ [option]))) := by
  induction names with
  | nil =>
      rw [List.nil_append, List.map_singleton, groupOf_concat_of_new new]
      rfl
  | cons name rest ih =>
      obtain ⟨apart, others⟩ := List.ne_and_not_mem_of_not_mem_cons others
      rw [List.map_cons, addToGroup_cons_of_ne apart, ih others, List.cons_append, List.map_cons,
        groupOf_concat_of_ne apart]
      rfl

/-- An option whose name is known goes to the group of the name, if that has its address in any case
of letters. The other groups stay where they are. -/
theorem addToGroup_of_agrees (known : option.name ∈ distinctNames options)
    (agrees : lowered (groupOf options option.name).address = lowered option.address)
    {names : List String} (among : option.name ∈ names) (distinct : names.Nodup) :
    addToGroup option (names.map (groupOf options)) =
      .ok (names.map (groupOf (options ++ [option]))) := by
  induction names with
  | nil => exact absurd among List.not_mem_nil
  | cons name rest ih =>
      obtain ⟨fresh, distinct⟩ := List.nodup_cons.mp distinct
      rw [List.map_cons, List.map_cons]
      by_cases same : option.name = name
      · subst same
        rw [groupOf_concat_of_known known, map_groupOf_concat fresh]
        exact (if_pos rfl).trans (if_pos agrees)
      · have behind := (List.mem_cons.mp among).resolve_left same
        rw [addToGroup_cons_of_ne same, ih behind distinct, groupOf_concat_of_ne same]
        rfl

/-- An option is compared with the address that came first, and shown with it if the two differ. -/
theorem addToGroup_of_differs {first : SourceOption}
    (spelled : (groupOf options option.name).address = first.address)
    (differs : lowered first.address ≠ lowered option.address) {names : List String}
    (among : option.name ∈ names) :
    addToGroup option (names.map (groupOf options)) =
      .error (.badArgument (twoAddresses first option)) := by
  rw [← spelled] at differs
  induction names with
  | nil => exact absurd among List.not_mem_nil
  | cons name rest ih =>
      rw [List.map_cons]
      by_cases same : option.name = name
      · subst same
        rw [twoAddresses, ← spelled]
        exact (if_pos rfl).trans (if_neg differs)
      · have behind := (List.mem_cons.mp among).resolve_left same
        rw [addToGroup_cons_of_ne same, ih behind]
        rfl

/-- With one more option there is a conflict if there was one before, or if the new option clashes
with an earlier one. -/
theorem conflicting_concat : Conflicting (options ++ [option]) ↔
    Conflicting options ∨ ∃ first ∈ options, Clash first option := by
  constructor
  · rintro ⟨first, inFront, second, inside, clash⟩
    rw [List.mem_append, List.mem_singleton] at inFront inside
    rcases inFront with inFront | rfl
    · rcases inside with inside | rfl
      · exact .inl ⟨first, inFront, second, inside, clash⟩
      · exact .inr ⟨first, inFront, clash⟩
    · rcases inside with inside | rfl
      · exact .inr ⟨second, inside, clash.1.symm, clash.2.symm⟩
      · exact absurd rfl clash.2
  · rintro (⟨first, inFront, second, inside, clash⟩ | ⟨first, inFront, clash⟩)
    · exact ⟨first, List.mem_append_left _ inFront, second, List.mem_append_left _ inside, clash⟩
    · exact ⟨first, List.mem_append_left _ inFront, option, List.mem_concat_self, clash⟩

/-- Where no two options clash, it is enough to compare a further one with any of its name: all of
these have one address. -/
theorem conflicting_concat_iff (peaceful : ¬ Conflicting options) {first : SourceOption}
    (among : first ∈ options) (named : first.name = option.name) :
    Conflicting (options ++ [option]) ↔ lowered first.address ≠ lowered option.address := by
  rw [conflicting_concat]
  constructor
  · rintro (conflict | ⟨other, inside, same, differs⟩) agrees
    · exact peaceful conflict
    · have between : lowered other.address = lowered first.address := by
        by_contra apart
        exact peaceful ⟨other, inside, first, among, same.trans named.symm, apart⟩
      exact differs (between.trans agrees)
  · exact fun differs => .inr ⟨first, among, named, differs⟩

/-- The last option is added to the groups of the others, if these can be made. -/
theorem groupInto_concat (groups : List SourceGroup) (options : List SourceOption)
    (option : SourceOption) :
    groupInto groups (options ++ [option]) = groupInto groups options >>= addToGroup option := by
  induction options generalizing groups with
  | nil => exact bind_pure _
  | cons first rest ih =>
      rw [List.cons_append, groupInto, groupInto, bind_assoc]
      exact congrArg (addToGroup first groups >>= ·) (funext ih)

/-- Options are put together by name, or two of them clash and the two are shown. The induction adds
one option at the end. -/
theorem groupSources_cases (options : List SourceOption) :
    (¬ Conflicting options ∧ groupSources options = .ok (groupsOf options)) ∨
      ∃ first ∈ options, ∃ second ∈ options, Clash first second ∧
        groupSources options = .error (.badArgument (twoAddresses first second)) := by
  induction options using List.reverseRecOn with
  | nil => exact .inl ⟨fun ⟨_, among, _⟩ => absurd among List.not_mem_nil, rfl⟩
  | append_singleton options option ih =>
      have onwards : groupSources (options ++ [option]) =
          groupSources options >>= addToGroup option := groupInto_concat [] options option
      rcases ih with ⟨peaceful, grouped⟩ | ⟨first, inFront, second, inside, clash, refused⟩
      · rw [onwards, grouped, ok_bind, groupsOf, groupsOf, distinctNames_concat]
        by_cases known : option.name ∈ distinctNames options
        · obtain ⟨first, rest, own, among, named⟩ := exists_optionsOf_eq known
          have spelled : (groupOf options option.name).address = first.address := by
            rw [groupOf, own]
            rfl
          rw [if_pos known]
          by_cases agrees : lowered first.address = lowered option.address
          · refine .inl ⟨fun conflict => ?_, ?_⟩
            · exact (conflicting_concat_iff peaceful among named).mp conflict agrees
            · have distinct := nodup_distinctNames options
              exact addToGroup_of_agrees known (spelled ▸ agrees) known distinct
          · refine .inr ⟨first, List.mem_append_left _ among, option, List.mem_concat_self,
              ⟨named, agrees⟩, addToGroup_of_differs spelled agrees known⟩
        · rw [if_neg known]
          refine .inl ⟨?_, addToGroup_of_new known known⟩
          rw [conflicting_concat, not_or]
          refine ⟨peaceful, ?_⟩
          rintro ⟨first, among, named, _⟩
          exact known (mem_distinctNames.mpr ⟨first, among, named⟩)
      · refine .inr ⟨first, List.mem_append_left _ inFront, second, List.mem_append_left _ inside,
          clash, ?_⟩
        rw [onwards, refused]
        rfl

/-- The source that a group becomes: a name that is not empty, the address of the group, and what
each signature is read as, in order. -/
structure Becomes (group : SourceGroup) (source : Source) : Prop where
  filled : group.name ≠ ""
  name : source.name = group.name
  address : source.address = group.address
  interface : List.Forall₂
    (fun signature function => Abi.parseSignature signature.toList = .ok function)
    group.signatures source.interface

/-- A group becomes a source if and only if the registry makes this source of it. The registry reads
each signature of the group, in order. -/
theorem becomes_iff {group : SourceGroup} {source : Source} : Becomes group source ↔
    Registry.source group.name group.address (group.signatures.map .signature) = .ok source := by
  rw [Registry.source_eq_ok]
  constructor
  · rintro ⟨filled, named, placed, read⟩
    refine ⟨filled, source.interface, Abi.normalize_signatures.mpr read, ?_⟩
    rw [← named, ← placed]
  · rintro ⟨filled, interface, read, rfl⟩
    exact ⟨filled, rfl, rfl, Abi.normalize_signatures.mp read⟩

/-- The sources of groups are registered behind those that are known, in order, and there is a
registry at the end if every group makes a source. -/
theorem outcome_register {registry later : Registry} {groups : List SourceGroup}
    (apart : (registry.names ++ groups.map (·.name)).Nodup) :
    (register registry groups).outcome = .ok later ↔
      ∃ sources, List.Forall₂ Becomes groups sources ∧ later = ⟨registry.sources ++ sources⟩ := by
  induction groups generalizing registry with
  | nil =>
      constructor
      · rintro ⟨⟩
        exact ⟨[], .nil, by rw [List.append_nil]⟩
      · rintro ⟨_, ⟨⟩, rfl⟩
        rw [List.append_nil]
        rfl
  | cons group rest ih =>
      have onwards {source : Source} (becomes : Becomes group source) :
          (register (registry.insert source) rest).outcome = .ok later ↔
            ∃ sources, List.Forall₂ Becomes rest sources ∧
              later = ⟨registry.sources ++ source :: sources⟩ := by
        rw [List.map_cons, ← becomes.name] at apart
        have new : source.name ∉ registry.names := fun known =>
          (List.nodup_append.mp apart).2.2 _ known _ List.mem_cons_self rfl
        have apart : ((registry.insert source).names ++ rest.map (·.name)).Nodup := by
          rw [Registry.names_insert, if_neg new, List.append_assoc]
          exact apart
        rw [ih apart, Registry.insert_of_new new]
        simp only [List.append_assoc, List.singleton_append]
      rw [register, Run.outcome_bind, Registry.outcome_add, bind_eq_ok]
      constructor
      · rintro ⟨_, added, rest⟩
        obtain ⟨source, made, rfl⟩ := map_eq_ok.mp added
        have becomes := becomes_iff.mpr made
        obtain ⟨sources, others, rfl⟩ := (onwards becomes).mp rest
        exact ⟨source :: sources, .cons becomes others, rfl⟩
      · rintro ⟨_, all, rfl⟩
        cases all with
        | @cons _ source _ sources becomes others =>
            exact ⟨_, map_eq_ok.mpr ⟨source, becomes_iff.mp becomes, rfl⟩,
              (onwards becomes).mpr ⟨sources, others, rfl⟩⟩

/-- Options in another order, in which those of each name keep theirs, and so do the names. -/
structure Rearranges (options reordered : List SourceOption) : Prop where
  firsts : distinctNames reordered = distinctNames options
  within : ∀ name, optionsOf reordered name = optionsOf options name

variable {reordered : List SourceOption}

/-- The groups do not depend on how the options of different names are mixed. -/
theorem Rearranges.groupsOf_eq (rearranges : Rearranges options reordered) :
    groupsOf reordered = groupsOf options := by
  have each : groupOf reordered = groupOf options := by
    funext name
    rw [groupOf, groupOf, rearranges.within]
  rw [groupsOf, groupsOf, rearranges.firsts, each]

theorem Rearranges.mem_iff (rearranges : Rearranges options reordered) :
    option ∈ reordered ↔ option ∈ options := by
  have among (list : List SourceOption) : option ∈ list ↔ option ∈ optionsOf list option.name := by
    rw [optionsOf, List.mem_filter, beq_self_eq_true, and_iff_left rfl]
  rw [among, among options, rearranges.within]

theorem Rearranges.conflicting_iff (rearranges : Rearranges options reordered) :
    Conflicting reordered ↔ Conflicting options := by
  simp only [Conflicting, rearranges.mem_iff]

/-- Options without a conflict are grouped by their names. -/
theorem groupSources_of_peaceful (peaceful : ¬ Conflicting options) :
    groupSources options = .ok (groupsOf options) := by
  rcases groupSources_cases options with ⟨_, grouped⟩ | ⟨first, inFront, second, inside, clash, _⟩
  · exact grouped
  · exact absurd ⟨first, inFront, second, inside, clash⟩ peaceful

theorem groupSources_of_conflicting (conflict : Conflicting options) :
    ∃ message, groupSources options = .error (.badArgument message) := by
  rcases groupSources_cases options with ⟨peaceful, _⟩ | ⟨first, _, second, _, _, refused⟩
  · exact absurd conflict peaceful
  · exact ⟨_, refused⟩

section

variable [Address.CaseRule] (surroundings : Surroundings)

/-- What a query does before it is built: a session with the sources of the options. -/
def prepare (options : List SourceOption) (connection : Connection) : Run Session := do
  let groups ← groupSources options
  let session ← openSession surroundings connection
  let registry ← register session.registry groups
  return { session with registry := registry }

/-- A query is run in three steps: its session is prepared, the query is fetched, and the result is
printed. -/
theorem runQuery_eq (services : Collaborators) (text : String) (options : List SourceOption)
    (connection : Connection) :
    runQuery services surroundings text options connection = (do
      let session ← prepare surroundings options connection
      let value ← session.fetchText services text
      printed value) := by
  simp only [prepare, Run.bind_assoc]
  unfold runQuery Session.fetchText
  simp only [Run.bind_assoc]
  rfl

/-- A session starts without sources, whatever its options and settings are. -/
theorem registry_of_openSession {connection : Connection} {session : Session}
    (opened : (openSession surroundings connection).outcome = .ok session) :
    session.registry = .empty := by
  rw [outcome_openSession] at opened
  obtain ⟨_, _, opened⟩ := bind_eq_ok.mp opened
  obtain ⟨_, _, opened⟩ := bind_eq_ok.mp opened
  obtain ⟨_, _, opened⟩ := bind_eq_ok.mp opened
  obtain ⟨_, _, ⟨⟩⟩ := bind_eq_ok.mp opened
  rfl

/-- Options in conflict are refused before anything is done. -/
theorem prepare_of_conflicting (conflict : Conflicting options) (connection : Connection) :
    ∃ message, prepare surroundings options connection = Run.fail (.badArgument message) := by
  obtain ⟨message, refused⟩ := groupSources_of_conflicting conflict
  refine ⟨message, ?_⟩
  rw [prepare, refused]
  rfl

/-- The groups of different names make sources of their own: a session is prepared if no options are
in conflict, the session can be opened and each group makes a source. -/
theorem outcome_prepare (options : List SourceOption) (connection : Connection)
    {session : Session} :
    (prepare surroundings options connection).outcome = .ok session ↔
      ¬ Conflicting options ∧ ∃ opened sources,
        (openSession surroundings connection).outcome = .ok opened ∧
        List.Forall₂ Becomes (groupsOf options) sources ∧
        session = { opened with registry := ⟨sources⟩ } := by
  by_cases conflict : Conflicting options
  · obtain ⟨message, refused⟩ := prepare_of_conflicting surroundings conflict connection
    rw [refused]
    exact ⟨nofun, fun accepted => absurd conflict accepted.1⟩
  · have distinct : (Registry.empty.names ++ (groupsOf options).map (·.name)).Nodup := by
      have names : (groupsOf options).map (·.name) = distinctNames options := by
        rw [groupsOf, List.map_map]
        exact List.map_id _
      exact names ▸ nodup_distinctNames options
    rw [and_iff_right conflict, prepare, groupSources_of_peaceful conflict, Run.liftM_ok_bind,
      Run.outcome_bind_eq_ok]
    constructor
    · rintro ⟨opened, opens, rest⟩
      obtain ⟨registry, registered, ⟨⟩⟩ := Run.outcome_bind_eq_ok.mp rest
      rw [registry_of_openSession surroundings opens, outcome_register distinct] at registered
      obtain ⟨sources, all, rfl⟩ := registered
      exact ⟨opened, sources, opens, all, rfl⟩
    · rintro ⟨opened, sources, opens, all, rfl⟩
      refine ⟨opened, opens, Run.outcome_bind_eq_ok.mpr ⟨⟨sources⟩, ?_, rfl⟩⟩
      rw [registry_of_openSession surroundings opens, outcome_register distinct]
      exact ⟨sources, all, rfl⟩

/-- **Source options are put together by name.** They are refused exactly if two of one name have
addresses that differ in more than case; if not, there is one group for each name, in the order of
first appearances, with the address of the first option of the name and the signatures of all. A
query starts from a session with one source for each group, which has a function for each signature,
and in any order that keeps those of each name and of the names it starts from the same session or
fails in the same way. -/
theorem runQuery_sources (options : List SourceOption) :
    ((∃ message, groupSources options = .error (.badArgument message)) ↔ Conflicting options) ∧
    (¬ Conflicting options → groupSources options = .ok (groupsOf options)) ∧
    ∀ (surroundings : Surroundings) (connection : Connection),
      (∀ services text, runQuery services surroundings text options connection = (do
        let session ← prepare surroundings options connection
        let value ← session.fetchText services text
        printed value)) ∧
      (∀ session, (prepare surroundings options connection).outcome = .ok session ↔
        ¬ Conflicting options ∧ ∃ opened sources,
          (openSession surroundings connection).outcome = .ok opened ∧
          List.Forall₂ Becomes (groupsOf options) sources ∧
          session = { opened with registry := ⟨sources⟩ }) ∧
      ∀ reordered, Rearranges options reordered →
        prepare surroundings reordered connection = prepare surroundings options connection ∨
        ∃ message other,
          prepare surroundings options connection = Run.fail (.badArgument message) ∧
          prepare surroundings reordered connection = Run.fail (.badArgument other) := by
  refine ⟨⟨?_, groupSources_of_conflicting⟩, groupSources_of_peaceful, ?_⟩
  · rintro ⟨message, refused⟩
    by_contra peaceful
    rw [groupSources_of_peaceful peaceful] at refused
    exact nomatch refused
  · intro surroundings connection
    refine ⟨fun services text => runQuery_eq surroundings services text options connection,
      fun session => outcome_prepare surroundings options connection, ?_⟩
    intro reordered rearranges
    by_cases conflict : Conflicting options
    · obtain ⟨message, refused⟩ := prepare_of_conflicting surroundings conflict connection
      obtain ⟨other, refusedToo⟩ := prepare_of_conflicting surroundings
        (rearranges.conflicting_iff.mpr conflict) connection
      exact .inr ⟨message, other, refused, refusedToo⟩
    · have grouped := groupSources_of_peaceful (mt rearranges.conflicting_iff.mp conflict)
      left
      rw [prepare, prepare, grouped, groupSources_of_peaceful conflict, rearranges.groupsOf_eq]

end

/-- Two names whose options alternate, one with its address in capitals and without, make two
sources. -/
theorem runQuery_sources_alternating :
    let _ : Address.CaseRule := ⟨false⟩
    let supply := "function totalSupply() returns (uint256)"
    let decimals := "function decimals() view returns (uint8)"
    let options : List SourceOption := [⟨"comet", "0xAB", supply⟩, ⟨"usdc", "0x11", decimals⟩,
      ⟨"comet", "0xab", decimals⟩]
    let reordered : List SourceOption := [⟨"comet", "0xAB", supply⟩, ⟨"comet", "0xab", decimals⟩,
      ⟨"usdc", "0x11", decimals⟩]
    let surroundings : Surroundings := ⟨[], []⟩
    let connection : Connection := ⟨defaultUrl, "mainnet", 1, none⟩
    let read : Abi.Function := ⟨"decimals", [], [⟨none, "uint8", none⟩], "view"⟩
    groupSources options =
        .ok [⟨"comet", "0xAB", [supply, decimals]⟩, ⟨"usdc", "0x11", [decimals]⟩] ∧
      prepare surroundings reordered connection = prepare surroundings options connection ∧
      ∃ session, (prepare surroundings options connection).outcome = .ok session ∧
        session.registry.sources = [
          ⟨"comet", "0xAB",
            [⟨"totalSupply", [], [⟨none, "uint256", none⟩], "nonpayable"⟩, read]⟩,
          ⟨"usdc", "0x11", [read]⟩] := by
  intro _ supply decimals options reordered surroundings connection read
  obtain ⟨_, grouped, commands⟩ := runQuery_sources options
  obtain ⟨_, sessions, orders⟩ := commands surroundings connection
  have peaceful : ¬ Conflicting options := by decide +kernel
  have rearranges : Rearranges options reordered := by
    refine ⟨by decide, fun name => ?_⟩
    by_cases comet : "comet" = name
    · subst comet
      rfl
    · by_cases usdc : "usdc" = name
      · subst usdc
        rfl
      · simp [optionsOf, options, reordered, comet, usdc]
  obtain ⟨opened, opens⟩ := Option.isSome_iff_exists.mp (show
    (openSession surroundings connection).outcome.toOption.isSome = true by decide +kernel)
  have supplyRead : Abi.parseSignature supply.toList =
      .ok ⟨"totalSupply", [], [⟨none, "uint256", none⟩], "nonpayable"⟩ :=
    eq_ok_of_toOption (by decide +kernel)
  have decimalsRead : Abi.parseSignature decimals.toList = .ok read :=
    eq_ok_of_toOption (by decide +kernel)
  have comet : Becomes ⟨"comet", "0xAB", [supply, decimals]⟩ ⟨"comet", "0xAB",
      [⟨"totalSupply", [], [⟨none, "uint256", none⟩], "nonpayable"⟩, read]⟩ :=
    ⟨by decide, rfl, rfl, List.Forall₂.cons supplyRead (.cons decimalsRead .nil)⟩
  have usdc : Becomes ⟨"usdc", "0x11", [decimals]⟩ ⟨"usdc", "0x11", [read]⟩ :=
    ⟨by decide, rfl, rfl, List.Forall₂.cons decimalsRead .nil⟩
  have prepared := (sessions _).mpr
    ⟨peaceful, opened, _, eq_ok_of_toOption opens, .cons comet (.cons usdc .nil), rfl⟩
  refine ⟨grouped peaceful, ?_, _, prepared, rfl⟩
  rcases orders reordered rearranges with same | ⟨message, _, refused, _⟩
  · exact same
  · rw [refused] at prepared
    exact nomatch prepared

end CommandLine

end ChainQuery
