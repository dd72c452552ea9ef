import ChainQuery.Compiler.Toolchain
import ChainQuery.Proofs.Json.Rereading
import ChainQuery.Proofs.Run

/-! # A compiler that is used again and again

A compiler whose version has to be there is prepared before its first request: the installed versions
are looked up, and the version is installed if it is not among them. A use that cannot be prepared
ends with that failure and asks for nothing else; the first one that can is followed by requests
alone, each of which ends as its own answer says (`Toolchain.Follows`). So where the toolchain answers
the preparation, it is asked for it once and before all else (`Toolchain.uses_ofVersion`).

An answer that the compiler wrote while it failed is as good as one that it returned
(`Toolchain.Judged`): an object that was ever read from a text is read from its own text again.
-/

namespace ChainQuery

namespace Toolchain

/-- A use of a compiler: how compilers are kept at the time, the request, and how the compiler
answers. -/
structure Use where
  shelf : Shelf
  request : Json
  answer : ToolAnswer

/-- The runs of a compiler that is used several times, each from where the one before it left the
compiler. -/
def uses (toolchain : Toolchain) : List Use → List (Run Json)
  | [] => []
  | use :: rest =>
    let (after, run) := toolchain.compile use.shelf use.request use.answer
    run :: after.uses rest

/-- The version that has to be there before the first request, if there is one. -/
def required (version : Option String) (install : Bool) : Option String :=
  version.filter fun version => install && version != ""

namespace Use

/-- What the toolchain is asked before a request for which a version has to be there: the installed
versions, and an installation if they are known and the version is not among them. -/
def lookUp (use : Use) : Option String → List ToolCall
  | none => []
  | some version => .listInstalled :: match use.shelf.installed with
    | .ok installed => if version ∈ installed then [] else [.install version]
    | .error _ => []

/-- How the preparation of a request ends for which a version has to be there. -/
def prepared (use : Use) : Option String → Except Failure Unit
  | none => .ok ()
  | some version => do
    let installed ← use.shelf.installed
    if version ∈ installed then .ok () else use.shelf.install

end Use

/-- What several uses ask the toolchain for and how they end, when a version has to be there before
the first request. -/
inductive Follows (version required : Option String) :
    List Use → List (List ToolCall × Except Failure Json) → Prop
  | unused : Follows version required [] []
  /-- A use that cannot be prepared makes no request, and the next one is prepared anew. -/
  | unprepared {use : Use} {rest : List Use} {entries : List (List ToolCall × Except Failure Json)}
      {failure : Failure} : use.prepared required = .error failure →
      Follows version required rest entries →
      Follows version required (use :: rest) ((use.lookUp required, .error failure) :: entries)
  /-- Behind a use that can be prepared there are requests alone. -/
  | prepared {use : Use} {rest : List Use} : use.prepared required = .ok () →
      Follows version required (use :: rest)
        ((use.lookUp required ++ [.compile use.request version], outcome use.answer) ::
          rest.map fun use => ([.compile use.request version], outcome use.answer))

/-- How a request ends that is answered in some way. -/
structure Judged (answer : ToolAnswer) (outcome : Except Failure Json) : Prop where
  /-- What is returned is the result. -/
  returned : ∀ output, answer = .output output → outcome = .ok output
  /-- So is an object that is serialized while the compiler fails, -/
  serialized : ∀ message members, Json.Regular (.obj members) →
    answer = .crash message (some (Json.obj members).compactText) → outcome = .ok (.obj members)
  /-- which any object is that was read from a text before, -/
  reread : ∀ message text members, Json.parse text = .ok (.obj members) →
    answer = .crash message (some (Json.obj members).compactText) → outcome = .ok (.obj members)
  /-- or that is written in any other form. -/
  written : ∀ message text members, Json.parse text.toList = .ok (.obj members) →
    answer = .crash message (some text) → outcome = .ok (.obj members)
  /-- Anything else leaves the failure as it is. -/
  crashed : ∀ message written, answer = .crash message written →
    (∀ text members, written = some text → Json.parse text.toList ≠ .ok (.obj members)) →
    outcome = .error (.compilerCrash message)

/-- Every answer is judged by what it returned or wrote. The forms of a written document differ only
in how it is known to be read as the object. -/
theorem judged_outcome (answer : ToolAnswer) : Judged answer (outcome answer) := by
  have written : ∀ message text members, Json.parse text.toList = .ok (.obj members) →
      answer = .crash message (some text) → outcome answer = .ok (.obj members) := by
    rintro message text members parsed rfl
    rw [outcome, Option.map_some, parsed]
  have serialized : ∀ message members,
      Json.parse (Json.compact (.obj members)) = .ok (.obj members) →
      answer = .crash message (some (Json.obj members).compactText) →
      outcome answer = .ok (.obj members) := by
    intro message members parsed
    apply written
    rwa [Json.compactText, String.toList_ofList]
  refine ⟨?_, fun message members regular => ?_, fun message text members read => ?_, written, ?_⟩
  · rintro output rfl
    rfl
  · exact serialized message members regular.parse_compact
  · exact serialized message members (Json.parse_compact_of_parse read)
  · rintro message (_ | text) rfl other
    · rfl
    · rw [outcome, Option.map_some]
      split
      · next members parsed => exact absurd (Option.some.inj parsed) (other text members rfl)
      · rfl

theorem toolCalls_append (first second : List Event) :
    Event.toolCalls (first ++ second) = Event.toolCalls first ++ Event.toolCalls second :=
  List.filterMap_append

/-- A compiler after a use that could be prepared: what was wanted is there. -/
def settled (toolchain : Toolchain) : Toolchain :=
  { toolchain with checked := toolchain.checked || toolchain.wanted?.isSome }

variable {toolchain : Toolchain}

/-- After a use that could be prepared nothing is left to be looked up, now or later. -/
theorem wanted?_settled (toolchain : Toolchain) : toolchain.settled.wanted? = none := by
  unfold settled
  cases wanted : toolchain.wanted? with
  | none =>
      rw [Option.isSome_none, Bool.or_false]
      exact wanted
  | some version =>
      rw [Option.isSome_some, Bool.or_true]
      rfl

/-- Providing a version looks it up, and installs it if it is known not to be there. It succeeds if
neither fails. -/
theorem provide_spec (use : Use) (version : String) :
    Event.toolCalls (use.shelf.provide version).events = use.lookUp (some version) ∧
      (use.shelf.provide version).outcome = use.prepared (some version) := by
  unfold Shelf.provide Use.lookUp Use.prepared
  cases use.shelf.installed with
  | error failure => exact ⟨rfl, rfl⟩
  | ok installed =>
      by_cases there : version ∈ installed
      · have contained : installed.contains version = true := List.contains_iff_mem.mpr there
        simp only [Run.liftM_ok_bind, if_pos there, if_pos contained]
        exact ⟨rfl, (if_pos there).symm⟩
      · have missing : ¬ installed.contains version = true := mt List.contains_iff_mem.mp there
        simp only [Run.liftM_ok_bind, if_neg there, if_neg missing]
        have asked : (do
            let installed ← Except.ok installed
            if version ∈ installed then .ok () else use.shelf.install) = use.shelf.install :=
          if_neg there
        rw [asked]
        cases use.shelf.install with
        | error failure => exact ⟨rfl, rfl⟩
        | ok nothing => exact ⟨rfl, rfl⟩

/-- The preparation of a use looks up what is wanted, and notes that only if nothing fails. A use
that fails here leaves the toolchain as it was, so the next one prepares again. -/
theorem ensureInstalled_spec (toolchain : Toolchain) (use : Use) :
    Event.toolCalls (toolchain.ensureInstalled use.shelf).events =
        use.lookUp toolchain.wanted? ∧
      (toolchain.ensureInstalled use.shelf).outcome =
        (use.prepared toolchain.wanted?).map fun _ => toolchain.settled := by
  unfold ensureInstalled settled
  cases wanted : toolchain.wanted? with
  | none =>
      rw [Option.isSome_none, Bool.or_false]
      exact ⟨rfl, rfl⟩
  | some version =>
      obtain ⟨calls, ended⟩ := provide_spec use version
      rw [Option.isSome_some, Bool.or_true, ← calls, ← ended]
      dsimp only
      cases provided : (use.shelf.provide version).outcome with
      | error failure =>
          rw [Run.bind_error provided]
          exact ⟨rfl, rfl⟩
      | ok nothing =>
          rw [Run.events_bind_ok provided, Run.outcome_bind_ok provided, toolCalls_append]
          exact ⟨List.append_nil _, rfl⟩

/-- A use that cannot be prepared asks for no more than the preparation and ends as that did. The
compiler is left as it was. -/
theorem compile_of_unprepared {use : Use} {failure : Failure}
    (failed : use.prepared toolchain.wanted? = .error failure) :
    (toolchain.compile use.shelf use.request use.answer).1 = toolchain ∧
      Event.toolCalls (toolchain.compile use.shelf use.request use.answer).2.events =
        use.lookUp toolchain.wanted? ∧
      (toolchain.compile use.shelf use.request use.answer).2.outcome = .error failure := by
  obtain ⟨calls, ended⟩ := toolchain.ensureInstalled_spec use
  rw [failed] at ended
  have ended : (toolchain.ensureInstalled use.shelf).outcome = .error failure := ended
  refine ⟨?_, ?_, ?_⟩
  · simp only [compile, ended]
  · rw [compile, Run.bind_error ended]
    exact calls
  · rw [compile, Run.bind_error ended]

/-- A use that can be prepared makes its request behind the preparation, and ends as its answer
says. -/
theorem compile_of_prepared {use : Use} (ready : use.prepared toolchain.wanted? = .ok ()) :
    (toolchain.compile use.shelf use.request use.answer).1 = toolchain.settled ∧
      Event.toolCalls (toolchain.compile use.shelf use.request use.answer).2.events =
        use.lookUp toolchain.wanted? ++ [.compile use.request toolchain.version] ∧
      (toolchain.compile use.shelf use.request use.answer).2.outcome = outcome use.answer := by
  obtain ⟨calls, ended⟩ := toolchain.ensureInstalled_spec use
  rw [ready] at ended
  have ended : (toolchain.ensureInstalled use.shelf).outcome = .ok toolchain.settled := ended
  refine ⟨?_, ?_, ?_⟩
  · simp only [compile, ended]
  · rw [compile, Run.events_bind_ok ended, toolCalls_append, calls, Run.events_bind_ok rfl,
      toolCalls_append]
    rfl
  · rw [compile, Run.outcome_bind_ok ended]
    rfl

/-- What is seen of the runs of a compiler: what the toolchain was asked for, and how they ended. -/
def traces (runs : List (Run Json)) : List (List ToolCall × Except Failure Json) :=
  runs.map fun run => (Event.toolCalls run.events, run.outcome)

/-- What a toolchain does over several uses starts with its first use. The others begin with the
toolchain that this one leaves behind. -/
theorem traces_uses_cons (toolchain : Toolchain) (use : Use) (rest : List Use) :
    let compiled := toolchain.compile use.shelf use.request use.answer
    traces (toolchain.uses (use :: rest)) =
      (Event.toolCalls compiled.2.events, compiled.2.outcome) :: traces (compiled.1.uses rest) :=
  rfl

/-- A compiler for which nothing is left to be looked up makes its requests alone, whatever its
shelf would answer. -/
theorem traces_of_settled (nothing : toolchain.wanted? = none) (history : List Use) :
    traces (toolchain.uses history) =
      history.map fun use => ([.compile use.request toolchain.version], outcome use.answer) := by
  have done : toolchain.settled = toolchain := by
    rw [settled, nothing, Option.isSome_none, Bool.or_false]
  induction history with
  | nil => rfl
  | cons use rest ih =>
      have ready : use.prepared toolchain.wanted? = .ok () := by rw [nothing]; rfl
      obtain ⟨after, calls, ending⟩ := compile_of_prepared ready
      rw [done] at after
      rw [nothing] at calls
      rw [traces_uses_cons, calls, ending, after, ih]
      rfl

/-- However often a compiler is used, its uses keep to the law. The induction is on the uses: each
of them is prepared, or fails and leaves the rest to begin anew. -/
theorem follows_uses (toolchain : Toolchain) (history : List Use) :
    Follows toolchain.version toolchain.wanted? history (traces (toolchain.uses history)) := by
  induction history with
  | nil => exact .unused
  | cons use rest ih =>
      rw [traces_uses_cons]
      cases ready : use.prepared toolchain.wanted? with
      | error failure =>
          obtain ⟨after, calls, ending⟩ := compile_of_unprepared ready
          rw [calls, ending, after]
          exact .unprepared ready ih
      | ok nothing =>
          obtain ⟨after, calls, ending⟩ := compile_of_prepared ready
          rw [calls, ending, after, traces_of_settled (wanted?_settled toolchain)]
          exact .prepared ready

/-- A new compiler looks up the version that has to be there: the one that was given, if it is to be
installed. -/
theorem wanted?_ofVersion (version : Option String) (install : Bool) :
    (ofVersion version install).wanted? = required version install := by
  cases install with
  | false => cases version <;> rfl
  | true => cases version with
    | none => rfl
    | some version =>
        by_cases empty : version = ""
        · subst empty
          rfl
        · have wanted : (ofVersion (some version) true).wanted? = some version := if_neg empty
          have named : (version != "") = true := bne_iff_ne.mpr empty
          rw [wanted, required, Option.filter_some, Bool.true_and, if_pos named]

/-- Where the first use can be prepared, the preparation is asked for once and before all else, and
every use makes its request. -/
theorem Follows.of_prepared {version required : Option String} {history : List Use}
    {entries : List (List ToolCall × Except Failure Json)}
    (follows : Follows version required history entries)
    (ready : ∀ first ∈ history.head?, first.prepared required = .ok ()) :
    entries.flatMap (·.1) = (history.head?.elim [] (·.lookUp required)) ++
        history.map (fun use => .compile use.request version) ∧
      entries.map (·.2) = history.map fun use => outcome use.answer := by
  cases follows with
  | unused => exact ⟨rfl, rfl⟩
  | unprepared failed => exact nomatch failed.symm.trans (ready _ rfl)
  | @prepared use rest _ =>
      refine ⟨?_, ?_⟩
      · rw [List.flatMap_cons, List.flatMap_map, List.map_cons, List.map_eq_flatMap,
          List.append_assoc]
        rfl
      · rw [List.map_cons, List.map_map]
        rfl

end Toolchain

end ChainQuery
