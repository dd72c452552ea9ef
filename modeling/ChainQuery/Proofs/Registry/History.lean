import ChainQuery.Proofs.Outcome
import ChainQuery.Registry.Basic
import Mathlib.Data.List.Induction
import Mathlib.Data.List.Nodup

/-! # Registries after any number of registrations

A registry is filled by calls that may fail. Which source a call makes is said by
`Registration.source?` alone, without the registry: all entries of the interface must be readable
and the name must not be empty. After any list of calls the registry holds one source for each name
that was ever registered, at the place of the name's first successful call and with the content of
its last one (`Registry.sources_afterAll`).

One insertion is described by its effect on the names (`Registry.names_insert`) and on the look-up
(`Registry.get?_insert`); the two determine a registry whose names are distinct
(`Registry.sources_eq_filterMap`).
-/

namespace ChainQuery

/-- A call that registers a contract. -/
structure Registration where
  name : String
  address : String
  entries : List Abi.Entry

namespace Registration

/-- The source that a call makes known; `none` for a call that fails. -/
def source? (call : Registration) : Option Source :=
  match Abi.normalize call.entries with
  | .ok interface => if call.name = "" then none else some ⟨call.name, call.address, interface⟩
  | .error _ => none

/-- The sources of the calls that succeed, in the order of the calls. -/
def accepted (calls : List Registration) : List Source :=
  calls.filterMap source?

/-- The names that are registered, in the order of each name's first successful call. -/
def firstNames (calls : List Registration) : List String :=
  ((accepted calls).map Source.name).eraseDups

/-- The source of the last successful call with a name. -/
def lastSource? (calls : List Registration) (name : String) : Option Source :=
  (accepted calls).reverse.find? (·.name == name)

/-- One more name is kept if it is new. -/
theorem eraseDups_concat (names : List String) (name : String) :
    (names ++ [name]).eraseDups =
      if name ∈ names then names.eraseDups else names.eraseDups ++ [name] := by
  rw [List.eraseDups_append]
  by_cases known : name ∈ names
  · have none : [name].removeAll names = [] := by
      simp only [List.removeAll, List.filter_cons, List.contains_eq_mem, known, decide_true,
        Bool.not_true, Bool.false_eq_true, ↓reduceIte, List.filter_nil]
    simp only [none, known, ↓reduceIte, List.eraseDups_nil, List.append_nil]
  · have one : [name].removeAll names = [name] := by
      simp only [List.removeAll, List.filter_cons, List.contains_eq_mem, known, decide_false,
        Bool.not_false, ↓reduceIte, List.filter_nil]
    simp only [one, known, ↓reduceIte, List.eraseDups_cons, List.filter_nil, List.eraseDups_nil]

/-- No name is kept twice. -/
theorem nodup_eraseDups (names : List String) : names.eraseDups.Nodup := by
  induction names using List.reverseRecOn with
  | nil => exact List.nodup_nil
  | append_singleton names name ih =>
      rw [eraseDups_concat]
      split
      · exact ih
      · next new =>
          have fresh : name ∉ names.eraseDups := fun among => new (List.mem_eraseDups.mp among)
          exact List.nodup_append_comm.mp (List.nodup_cons.mpr ⟨fresh, ih⟩)

variable (calls : List Registration) {call : Registration}

theorem accepted_concat_of_none (failed : call.source? = none) :
    accepted (calls ++ [call]) = accepted calls := by
  simp only [accepted, List.filterMap_append, List.filterMap_cons, failed, List.filterMap_nil,
    List.append_nil]

/-- A call that succeeds adds its source at the end of the accepted ones. -/
theorem accepted_concat_of_some {source : Source} (made : call.source? = some source) :
    accepted (calls ++ [call]) = accepted calls ++ [source] := by
  simp only [accepted, List.filterMap_append, List.filterMap_cons, made, List.filterMap_nil]

/-- A successful call adds its name behind the known ones, unless it is among them. -/
theorem firstNames_concat {source : Source} (made : call.source? = some source) :
    firstNames (calls ++ [call]) =
      if source.name ∈ firstNames calls then firstNames calls
      else firstNames calls ++ [source.name] := by
  simp only [firstNames, accepted_concat_of_some calls made, List.map_append, List.map_cons,
    List.map_nil, List.mem_eraseDups]
  exact eraseDups_concat _ _

/-- A successful call is the last one of its name and leaves the other names alone, so the last
source of a name is known call by call. -/
theorem lastSource?_concat {source : Source} (made : call.source? = some source) (name : String) :
    lastSource? (calls ++ [call]) name =
      if source.name = name then some source else lastSource? calls name := by
  simp only [lastSource?, accepted_concat_of_some calls made, List.reverse_append,
    List.reverse_cons, List.reverse_nil, List.nil_append, List.cons_append, List.find?_cons]
  by_cases same : source.name = name
  · simp only [same, beq_self_eq_true, ↓reduceIte]
  · simp only [same, beq_eq_false_iff_ne.mpr same, ↓reduceIte]

end Registration

namespace Registry

/-- The registry after a call; a call that fails leaves it as it was. -/
def after (registry : Registry) (call : Registration) : Registry :=
  match (registry.add call.name call.address call.entries).outcome with
  | .ok (next, _) => next
  | .error _ => registry

/-- The registry after several calls. -/
def afterAll (registry : Registry) (calls : List Registration) : Registry :=
  calls.foldl after registry

theorem outcome_logInsert (registry : Registry) (source : Source) :
    (registry.logInsert source).outcome = .ok () := by
  unfold logInsert
  split <;> rfl

/-- Whether a call succeeds and what it answers depends on the call alone; the registry only says
what it becomes. -/
theorem outcome_add (registry : Registry) (name address : String) (entries : List Abi.Entry) :
    (registry.add name address entries).outcome =
      (Registry.source name address entries).map fun source => (registry.insert source, source) := by
  unfold add
  cases made : Registry.source name address entries with
  | error failure => rfl
  | ok source =>
      change (Run.ofExcept (.ok source) >>= _).outcome = _
      rw [Run.outcome_bind_ok (a := source) rfl,
        Run.outcome_bind_ok (outcome_logInsert registry source)]
      rfl

/-- What a call answers with has the functions that its entries describe, and no others. -/
theorem normalize_of_add {registry later : Registry} {source : Source} {name address : String}
    {entries : List Abi.Entry}
    (added : (registry.add name address entries).outcome = .ok (later, source)) :
    Abi.normalize entries = .ok source.interface := by
  rw [outcome_add] at added
  obtain ⟨_, makes, same⟩ := map_eq_ok.mp added
  obtain ⟨_, rfl⟩ := Prod.mk.inj same
  obtain ⟨functions, read, makes⟩ := bind_eq_ok.mp makes
  obtain ⟨_, _, rfl⟩ := map_eq_ok.mp (mapError_eq_ok.mp makes)
  exact read

/-- The source of a call is made from its name, its address and the functions its entries
describe. -/
theorem toOption_source (call : Registration) :
    (Registry.source call.name call.address call.entries).toOption = call.source? := by
  unfold Registry.source Registration.source?
  cases Abi.normalize call.entries with
  | error failure => rfl
  | ok interface =>
      by_cases empty : call.name = ""
      · rw [empty]
        rfl
      · simp only [empty, ↓reduceIte]
        change (Source.make call.name call.address interface).orInvalid.toOption = _
        simp [Source.make, Schema.nonemptyString, Schema.string, empty, bind, Except.bind, pure,
          Except.pure, Schema.Checked.under, Schema.Checked.orInvalid, Except.mapError, Except.map,
          Except.toOption]

/-- A source is made if it has a name and an interface that can be read, and it holds both, with the
address as it was given. -/
theorem source_eq_ok {name address : String} {entries : List Abi.Entry} {source : Source} :
    Registry.source name address entries = .ok source ↔
      name ≠ "" ∧ ∃ interface, Abi.normalize entries = .ok interface ∧
        source = ⟨name, address, interface⟩ := by
  constructor
  · intro made
    have makes := toOption_source ⟨name, address, entries⟩
    rw [made, Registration.source?] at makes
    split at makes
    · next interface read =>
        by_cases empty : name = ""
        · rw [if_pos empty] at makes
          exact nomatch makes
        · rw [if_neg empty] at makes
          exact ⟨empty, interface, read, Option.some.inj makes⟩
    · exact nomatch makes
  · rintro ⟨filled, interface, read, rfl⟩
    apply eq_ok_of_toOption
    rw [toOption_source ⟨name, address, entries⟩, Registration.source?, read]
    exact if_neg filled

/-- A successful call inserts its source and answers it, into whatever registry. -/
theorem outcome_add_of_some {call : Registration} {source : Source}
    (made : call.source? = some source) (registry : Registry) :
    (registry.add call.name call.address call.entries).outcome =
      .ok (registry.insert source, source) := by
  rw [outcome_add]
  rw [← toOption_source] at made
  cases result : Registry.source call.name call.address call.entries with
  | error failure => simp [result, Except.toOption] at made
  | ok found =>
      obtain rfl : found = source := by simpa [result, Except.toOption] using made
      rfl

/-- A call that makes no source fails. -/
theorem outcome_add_of_none {call : Registration} (failed : call.source? = none)
    (registry : Registry) :
    ∃ failure, (registry.add call.name call.address call.entries).outcome = .error failure := by
  rw [outcome_add]
  rw [← toOption_source] at failed
  cases result : Registry.source call.name call.address call.entries with
  | error failure => exact ⟨failure, rfl⟩
  | ok found => simp [result, Except.toOption] at failed

theorem after_of_some {call : Registration} {source : Source}
    (made : call.source? = some source) (registry : Registry) :
    registry.after call = registry.insert source := by
  simp only [after, outcome_add_of_some made]

theorem after_of_none {call : Registration} (failed : call.source? = none)
    (registry : Registry) : registry.after call = registry := by
  obtain ⟨failure, outcome⟩ := outcome_add_of_none failed registry
  simp only [after, outcome]

/-- A new name goes to the end; a known one keeps its place, so a source that is registered again is
stated where it was. -/
theorem names_insert (registry : Registry) (source : Source) :
    (registry.insert source).names =
      if source.name ∈ registry.names then registry.names
      else registry.names ++ [source.name] := by
  unfold names insert
  induction registry.sources with
  | nil => simp [insertInto]
  | cons known rest ih =>
      by_cases same : known.name = source.name
      · simp [insertInto, same]
      · have other : source.name ≠ known.name := fun equal => same equal.symm
        simp only [insertInto, same, ↓reduceIte, List.map_cons, ih, List.mem_cons, other, false_or]
        split <;> rfl

/-- A source of a new name stands behind the others. -/
theorem insert_of_new {registry : Registry} {source : Source}
    (new : source.name ∉ registry.names) :
    registry.insert source = ⟨registry.sources ++ [source]⟩ := by
  obtain ⟨sources⟩ := registry
  refine congrArg Registry.mk ?_
  change source.name ∉ sources.map Source.name at new
  induction sources with
  | nil => rfl
  | cons known rest ih =>
      obtain ⟨apart, new⟩ := List.ne_and_not_mem_of_not_mem_cons new
      rw [insertInto, if_neg (Ne.symm apart), ih new]
      rfl

/-- The inserted source is found under its name, and every other name is left alone, whether the
name was there before or not. -/
theorem get?_insert (registry : Registry) (source : Source) (name : String) :
    (registry.insert source).get? name =
      if source.name = name then some source else registry.get? name := by
  unfold get? insert
  induction registry.sources with
  | nil => by_cases same : source.name = name <;> simp [insertInto, same]
  | cons known rest ih =>
      by_cases same : known.name = source.name
      · by_cases asked : source.name = name
        · simp [insertInto, same, asked]
        · simp [insertInto, same, asked]
      · by_cases asked : source.name = name
        · have other : known.name ≠ name := asked ▸ same
          simpa [insertInto, same, asked, other] using ih
        · by_cases found : known.name = name
          · subst found
            simp only [insertInto, same, ↓reduceIte, asked, List.find?_cons, beq_self_eq_true]
          · simpa [insertInto, same, asked, found] using ih

/-- A registry whose names are distinct is what its names and the look-up say, in the order of the
names. -/
theorem sources_eq_filterMap (registry : Registry) (distinct : registry.names.Nodup) :
    registry.sources = registry.names.filterMap registry.get? := by
  obtain ⟨sources⟩ := registry
  change sources = (sources.map Source.name).filterMap
    fun name => sources.find? fun source => source.name == name
  induction sources with
  | nil => rfl
  | cons first rest ih =>
      have apart := List.nodup_cons.mp (distinct : ((first :: rest).map Source.name).Nodup)
      have skip : (rest.map Source.name).filterMap
            (fun name => (first :: rest).find? fun source => source.name == name) =
          (rest.map Source.name).filterMap
            (fun name => rest.find? fun source => source.name == name) := by
        apply List.filterMap_congr
        intro name known
        have other : first.name ≠ name := fun same => apart.1 (same ▸ known)
        simp only [List.find?_cons, beq_eq_false_iff_ne.mpr other]
      rw [List.map_cons, List.filterMap_cons, skip, ← ih apart.2]
      simp only [List.find?_cons, beq_self_eq_true]

/-- What every list of calls leaves behind: distinct names in the order of first successes, each
with the source of its last success. -/
structure Reflects (registry : Registry) (calls : List Registration) : Prop where
  names : registry.names = Registration.firstNames calls
  distinct : registry.names.Nodup
  latest : ∀ name, registry.get? name = Registration.lastSource? calls name

theorem reflects_empty : empty.Reflects [] where
  names := rfl
  distinct := List.nodup_nil
  latest := fun _ => rfl

/-- One more call, successful or not, is reflected: a new name goes to the end, a known one keeps
its place, and a failed call changes nothing. -/
theorem Reflects.after {registry : Registry} {calls : List Registration}
    (reflects : registry.Reflects calls) (call : Registration) :
    (registry.after call).Reflects (calls ++ [call]) := by
  cases made : call.source? with
  | none =>
      have same := Registration.accepted_concat_of_none calls made
      rw [after_of_none made]
      refine ⟨?_, reflects.distinct, ?_⟩
      · rw [reflects.names, Registration.firstNames, Registration.firstNames, same]
      · intro name
        rw [reflects.latest, Registration.lastSource?, Registration.lastSource?, same]
  | some source =>
      rw [after_of_some made]
      have names : (registry.insert source).names = Registration.firstNames (calls ++ [call]) := by
        rw [names_insert, Registration.firstNames_concat calls made, reflects.names]
      refine ⟨names, ?_, ?_⟩
      · rw [names]
        exact Registration.nodup_eraseDups _
      · intro name
        rw [get?_insert, Registration.lastSource?_concat calls made, reflects.latest]

/-- A registry reflects the calls it has gone through. The induction goes along the calls from the
first one, and each call keeps this. -/
theorem reflects_afterAll (calls : List Registration) : (empty.afterAll calls).Reflects calls := by
  induction calls using List.reverseRecOn with
  | nil => exact reflects_empty
  | append_singleton calls call ih =>
      simp only [afterAll, List.foldl_append, List.foldl_cons, List.foldl_nil] at ih ⊢
      exact ih.after call

/-- **A registry is the record of its successful calls.** After any calls it lists one source for
each name that was registered, in the order of first successes and with the content of the last
one. Look-up, size and statements agree with that list. The next call is answered with the source
it makes, or fails and changes nothing. -/
theorem sources_afterAll (calls : List Registration) :
    let registry := empty.afterAll calls
    let listed := (Registration.firstNames calls).filterMap (Registration.lastSource? calls)
    registry.sources = listed ∧
      registry.names = Registration.firstNames calls ∧
      registry.names.Nodup ∧
      (∀ name, registry.get? name = Registration.lastSource? calls name) ∧
      registry.size = (Registration.firstNames calls).length ∧
      registry.statements = listed.map Source.written ∧
      ∀ call : Registration,
        match call.source? with
        | some source =>
          (registry.add call.name call.address call.entries).outcome =
            .ok (registry.after call, source)
        | none =>
          (∃ failure, (registry.add call.name call.address call.entries).outcome =
            .error failure) ∧ registry.after call = registry := by
  intro registry listed
  have reflects : registry.Reflects calls := reflects_afterAll calls
  have sources : registry.sources = listed := by
    rw [sources_eq_filterMap registry reflects.distinct, reflects.names, funext reflects.latest]
  refine ⟨sources, reflects.names, reflects.distinct, reflects.latest, ?_, ?_, ?_⟩
  · rw [← reflects.names, names, List.length_map, size]
  · rw [statements, sources]
  · intro call
    cases made : call.source? with
    | some source =>
        change (registry.add _ _ _).outcome = .ok (registry.after call, source)
        rw [after_of_some made, outcome_add_of_some made]
    | none => exact ⟨outcome_add_of_none made registry, after_of_none made registry⟩

example : (empty.afterAll [⟨"a", "0x1", []⟩, ⟨"b", "0x2", []⟩, ⟨"", "0x3", []⟩,
    ⟨"a", "0x4", []⟩]).sources = [⟨"a", "0x4", []⟩, ⟨"b", "0x2", []⟩] := by decide

end Registry

end ChainQuery
