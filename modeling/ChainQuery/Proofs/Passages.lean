import ChainQuery.Proofs.Spans

/-! # Steps that a run passes through

Each step of the pipeline has a span of its own (`Stage.scope`). A run that is planned to pass
through several steps opens their spans one after the other, and may end inside the last one that it
opens, behind it, or before the first (`Course`). What it records of its steps tells how far it got
and whether it ended inside a step (`Run.Tells`): a course that is known from what the steps do is
also the one that can be read off the trace (`Run.Follows.exists_tells`).
-/

namespace ChainQuery

/-- A step of the pipeline. -/
inductive Stage where
  | transpile
  | compile
  | fetch (engine : String)
deriving DecidableEq, Repr

/-- The span of a step. -/
def Stage.scope : Stage → Scope
  | .transpile => .ofStep "transpile" none none .internal
  | .compile => .ofStep "compile" (some "Yul") none .internal
  | .fetch engine => .ofStep "fetch" none (some engine) .client

/-- A step whose span was opened, and the failure that the step ended with, if it did. -/
structure Passage where
  stage : Stage
  failure : Option Failure
deriving DecidableEq, Repr

namespace Passage

/-- What is recorded of a passage: its span is opened, its start is logged, and then it ends well or
fails, which is said of the span and logged before the span is closed. -/
def events (passage : Passage) : List Event :=
  let scope := passage.stage.scope
  .spanOpened scope.name scope.kind scope.attributes :: scope.entry .debug "_started" [] ::
    match passage.failure with
    | none => [.spanStatus true, scope.entry .debug "_completed" [], .spanClosed]
    | some failure => [.spanStatus false, .spanException failure,
        scope.entry .error "_failed" (Scope.errorField failure), .spanClosed]

/-- The span of a passage. -/
def record (passage : Passage) : SpanRecord where
  name := passage.stage.scope.name
  kind := passage.stage.scope.kind
  attributes := passage.stage.scope.attributes
  marks := match passage.failure with
    | none => [.status true]
    | some failure => [.status false, .exception failure]

end Passage

namespace Event

/-- The names of the entries about steps. -/
def stepEntries : List String :=
  ["transpile", "compile", "fetch"].flatMap fun step =>
    ["_started", "_completed", "_failed"].map fun suffix => "sleuth_" ++ step ++ suffix

/-- An event that is about a step: a part of a span or an entry about one. -/
def IsOfStep : Event → Prop
  | .logged entry => entry.event ∈ stepEntries
  | .spanOpened _ _ _ | .spanStatus _ | .spanException _ | .spanClosed => True
  | .transpiled _ | .compiled _ | .called _ _ | .connected _ | .executed _ _ | .tool _ => False

instance : DecidablePred IsOfStep
  | .logged entry => inferInstanceAs (Decidable (entry.event ∈ stepEntries))
  | .spanOpened _ _ _ | .spanStatus _ | .spanException _ | .spanClosed => isTrue trivial
  | .transpiled _ | .compiled _ | .called _ _ | .connected _ | .executed _ _ | .tool _ =>
    isFalse id

/-- The events about steps, in order. -/
def ofSteps (events : List Event) : List Event :=
  events.filter (IsOfStep ·)

@[simp] theorem ofSteps_append (first second : List Event) :
    ofSteps (first ++ second) = ofSteps first ++ ofSteps second :=
  List.filter_append ..

theorem ofSteps_eq_self {events : List Event} (own : ∀ event ∈ events, event.IsOfStep) :
    ofSteps events = events :=
  List.filter_eq_self.mpr fun event among => decide_eq_true (own event among)

theorem ofSteps_cons_of {event : Event} (own : event.IsOfStep) (events : List Event) :
    ofSteps (event :: events) = event :: ofSteps events :=
  List.filter_cons_of_pos (decide_eq_true own)

theorem ofSteps_cons_of_not {event : Event} (aside : ¬ event.IsOfStep) (events : List Event) :
    ofSteps (event :: events) = ofSteps events :=
  List.filter_cons_of_neg fun own => aside (of_decide_eq_true own)

end Event

namespace Stage

/-- The names of a stage are its own, and none of them is taken by the log, so every entry of its
span can be written. -/
theorem loggable (stage : Stage) : stage.scope.Loggable := by
  cases stage with
  | transpile => exact Scope.loggable_ofStep _ _ _ _
  | compile => exact Scope.loggable_ofStep _ _ _ _
  | fetch engine => exact Scope.loggable_ofStep _ _ _ _

/-- The log entries of a stage are named after one of the three steps. -/
theorem exists_eventName (stage : Stage) :
    ∃ step ∈ ["transpile", "compile", "fetch"], stage.scope.eventName = "sleuth_" ++ step := by
  cases stage with
  | transpile => exact ⟨"transpile", by simp, rfl⟩
  | compile => exact ⟨"compile", by simp, rfl⟩
  | fetch engine =>
      have named : (fetch engine).scope.eventName = (fetch "").scope.eventName := rfl
      exact ⟨"fetch", by simp, named⟩

/-- An entry about the span of a step is an entry about a step. -/
theorem isOfStep_entry (stage : Stage) (level : Level) {suffix : String} (fields : Json.Members)
    (known : suffix ∈ ["_started", "_completed", "_failed"]) :
    (stage.scope.entry level suffix fields).IsOfStep := by
  obtain ⟨step, among, named⟩ := stage.exists_eventName
  change stage.scope.eventName ++ suffix ∈ Event.stepEntries
  rw [named]
  exact List.mem_flatMap.mpr ⟨step, among, List.mem_map.mpr ⟨suffix, known, rfl⟩⟩

end Stage

namespace Passage

/-- A passage records what the span of its step does. -/
theorem events_eq (stage : Stage) (failure : Option Failure) :
    events ⟨stage, failure⟩ = stage.scope.opening ++ stage.scope.ending failure := by
  cases stage with
  | transpile => cases failure <;> rfl
  | compile => cases failure <;> rfl
  | fetch engine => cases failure <;> rfl

/-- All events of a passage are events of a step. -/
theorem isOfStep_of_mem (passage : Passage) : ∀ event ∈ passage.events, event.IsOfStep := by
  obtain ⟨stage, failure⟩ := passage
  have started := stage.isOfStep_entry .debug [] (List.mem_cons_self ..)
  cases failure with
  | none =>
      have completed := stage.isOfStep_entry .debug [] (by simp : "_completed" ∈ _)
      simp only [events, List.forall_mem_cons]
      exact ⟨trivial, started, trivial, completed, trivial, nofun⟩
  | some failure =>
      have failed := stage.isOfStep_entry .error (Scope.errorField failure)
        (by simp : "_failed" ∈ _)
      simp only [events, List.forall_mem_cons]
      exact ⟨trivial, started, trivial, trivial, failed, trivial, nofun⟩

end Passage

namespace SpanRecord

/-- Spans are made of events about steps only, so what else is recorded between these events does
not show in them. -/
theorem collect_ofSteps (records : List SpanRecord) (opened : List Nat) (events : List Event) :
    collect records opened (Event.ofSteps events) = collect records opened events := by
  induction events generalizing records opened with
  | nil => rfl
  | cons event rest ih =>
      by_cases own : event.IsOfStep
      · rw [Event.ofSteps_cons_of own]
        cases event with
        | spanOpened name kind attributes => exact ih _ _
        | spanStatus ok => exact ih _ _
        | spanException failure => exact ih _ _
        | spanClosed => exact ih _ _
        | logged entry => exact ih _ _
        | transpiled | compiled | called | connected | executed | tool => exact own.elim
      · rw [Event.ofSteps_cons_of_not own, ih]
        cases event with
        | spanOpened | spanStatus | spanException | spanClosed => exact absurd trivial own
        | logged | transpiled | compiled | called | connected | executed | tool => rfl

/-- The record that was added last is the one that is marked. -/
theorem mark_append_singleton (records : List SpanRecord) (record : SpanRecord) (mark : Mark) :
    SpanRecord.mark (records ++ [record]) (some records.length) mark =
      records ++ [{ record with marks := record.marks ++ [mark] }] := by
  induction records with
  | nil => rfl
  | cons first rest ih => exact congrArg (first :: ·) ih

/-- A passage adds the record of its span and leaves no span open, so what comes behind it is
collected as if it stood alone. -/
theorem collect_events_append (records : List SpanRecord) (passage : Passage)
    (rest : List Event) :
    collect records [] (passage.events ++ rest) =
      collect (records ++ [passage.record]) [] rest := by
  obtain ⟨stage, failure⟩ := passage
  cases failure with
  | none =>
      change collect (SpanRecord.mark (records ++ [_]) (some records.length) _) [] rest = _
      rw [mark_append_singleton]
      rfl
  | some failure =>
      change collect (SpanRecord.mark (SpanRecord.mark (records ++ [_]) (some records.length) _)
        (some records.length) _) [] rest = _
      rw [mark_append_singleton, mark_append_singleton]
      rfl

/-- The spans that are collected from passages are their records, in the order in which they were
opened. No passage is inside another one. -/
theorem collect_passages (records : List SpanRecord) (passages : List Passage) :
    collect records [] (passages.flatMap Passage.events) =
      records ++ passages.map Passage.record := by
  induction passages generalizing records with
  | nil => exact (List.append_nil records).symm
  | cons passage later ih =>
      rw [List.flatMap_cons, collect_events_append, ih, List.append_assoc]
      rfl

/-- The spans of passages are theirs, in order. -/
theorem ofEvents_of_ofSteps {events : List Event} {passages : List Passage}
    (trace : Event.ofSteps events = passages.flatMap Passage.events) :
    ofEvents events = passages.map Passage.record := by
  rw [ofEvents, ← collect_ofSteps, trace, collect_passages, List.nil_append]

end SpanRecord

section

variable {α β : Type} (reached : Stage → Prop) (raised : Stage → Failure → Prop)

/-- How a run passes through the steps that are planned, and ends: it reaches none of them, or it
fails inside the first one, or it leaves that one well and passes through the others. -/
inductive Course : List Stage → List Passage → Except Failure α → Prop
  | ended {planned : List Stage} {outcome : Except Failure α} :
      (∀ stage ∈ planned, ¬ reached stage) → Course planned [] outcome
  | failed {stage : Stage} {later : List Stage} {failure : Failure} : reached stage →
      raised stage failure → (∀ stage ∈ later, ¬ reached stage) →
      Course (stage :: later) [⟨stage, some failure⟩] (.error failure)
  | passed {stage : Stage} {later : List Stage} {passages : List Passage}
      {outcome : Except Failure α} : reached stage → (∀ failure, ¬ raised stage failure) →
      Course later passages outcome → Course (stage :: later) (⟨stage, none⟩ :: passages) outcome

/-- A run that tells how far it got in the steps that are planned. Its events about steps are those
of the passages, one after the other, and so its spans are theirs. The steps passed are the first
ones of the plan, and exactly those that are reached. All but the last end well, and the last one
ends with a failure exactly if this is how the run ends and it was raised in that step. -/
structure Run.Tells (planned : List Stage) (run : Run α) (passages : List Passage) : Prop where
  trace : Event.ofSteps run.events = passages.flatMap Passage.events
  spans : SpanRecord.ofEvents run.events = passages.map Passage.record
  inOrder : passages.map Passage.stage <+: planned
  opened : ∀ stage ∈ planned, stage ∈ passages.map Passage.stage ↔ reached stage
  earlier : ∀ passage ∈ passages.dropLast, passage.failure = none
  last : ∀ passage ∈ passages.getLast?, ∀ failure,
    passage.failure = some failure ↔ run.outcome = .error failure ∧ raised passage.stage failure

/-- A run that records of its steps what they do. -/
def Run.Follows (planned : List Stage) (run : Run α) : Prop :=
  ∃ passages, Event.ofSteps run.events = passages.flatMap Passage.events ∧
    Course reached raised planned passages run.outcome

end

variable {α β : Type} {reached : Stage → Prop} {raised : Stage → Failure → Prop}

namespace Course

variable {planned : List Stage} {passages : List Passage} {outcome : Except Failure α}

/-- The stages that were passed are a front of the planned ones. -/
theorem stages_prefix (course : Course reached raised planned passages outcome) :
    passages.map Passage.stage <+: planned := by
  induction course with
  | ended => exact List.nil_prefix
  | failed => exact List.prefix_append [_] _
  | passed _ _ _ ih => exact (List.prefix_cons_inj _).mpr ih

/-- A planned stage was passed if and only if it was reached. What stops the course in front of a
stage is that the stage is not reached. -/
theorem mem_stages_iff (course : Course reached raised planned passages outcome) :
    ∀ stage ∈ planned, stage ∈ passages.map Passage.stage ↔ reached stage := by
  induction course with
  | ended unreached =>
      intro stage among
      exact ⟨nofun, fun reaches => absurd reaches (unreached stage among)⟩
  | @failed first later failure reaches _ unreached =>
      intro stage among
      rw [List.map_singleton, List.mem_singleton]
      constructor
      · rintro rfl
        exact reaches
      · intro other
        rcases List.mem_cons.mp among with same | behind
        · exact same
        · exact absurd other (unreached stage behind)
  | @passed first later passages outcome reaches _ _ ih =>
      intro stage among
      rw [List.map_cons, List.mem_cons]
      rcases List.mem_cons.mp among with rfl | behind
      · exact iff_of_true (Or.inl rfl) reaches
      · constructor
        · rintro (rfl | passed)
          · exact reaches
          · exact (ih stage behind).mp passed
        · exact fun other => Or.inr ((ih stage behind).mpr other)

/-- Only the last passage may fail, since nothing is done behind a failure. -/
theorem earlier_end_well (course : Course reached raised planned passages outcome) :
    ∀ passage ∈ passages.dropLast, passage.failure = none := by
  induction course with
  | ended => exact nofun
  | failed => exact nofun
  | @passed first later passages outcome _ _ _ ih =>
      cases passages with
      | nil => exact nofun
      | cons next more =>
          rw [List.dropLast_cons_of_ne_nil (List.cons_ne_nil next more)]
          exact List.forall_mem_cons.mpr ⟨rfl, ih⟩

/-- The last passage has a failure if and only if the whole course ended with it in this stage. A
failure between the stages leaves every passage without one. -/
theorem last_fails_iff (course : Course reached raised planned passages outcome) :
    ∀ passage ∈ passages.getLast?, ∀ failure,
      passage.failure = some failure ↔
        outcome = .error failure ∧ raised passage.stage failure := by
  induction course with
  | ended => exact nofun
  | @failed stage later failure _ raises _ =>
      rintro _ ⟨⟩ other
      constructor
      · rintro ⟨⟩
        exact ⟨rfl, raises⟩
      · rintro ⟨⟨⟩, _⟩
        rfl
  | @passed first later passages outcome _ safe _ ih =>
      cases passages with
      | nil =>
          rintro _ ⟨⟩ failure
          exact ⟨nofun, fun ⟨_, raises⟩ => absurd raises (safe failure)⟩
      | cons next more =>
          rw [List.getLast?_cons_cons]
          exact ih

end Course

namespace Run

/-- What a run records of its steps tells how far it got. -/
theorem Follows.exists_tells {planned : List Stage} {run : Run α}
    (follows : Run.Follows reached raised planned run) :
    ∃ passages, Run.Tells reached raised planned run passages := by
  obtain ⟨passages, trace, course⟩ := follows
  exact ⟨passages, trace, SpanRecord.ofEvents_of_ofSteps trace, course.stages_prefix,
    course.mem_stages_iff, course.earlier_end_well, course.last_fails_iff⟩

/-- A run that records nothing about steps. -/
def Aside (run : Run α) : Prop :=
  run.All fun event => ¬ event.IsOfStep

theorem Aside.ofSteps_eq {run : Run α} (aside : run.Aside) : Event.ofSteps run.events = [] :=
  List.filter_eq_nil_iff.mpr fun event among own => aside event among (of_decide_eq_true own)

variable {planned later : List Stage} {stage : Stage} {run : Run α} {next : α → Run β}

/-- What is done aside follows any plan of which no stage is reached. -/
theorem follows_of_aside (aside : run.Aside) (unreached : ∀ stage ∈ planned, ¬ reached stage) :
    run.Follows reached raised planned :=
  ⟨[], aside.ofSteps_eq, .ended unreached⟩

/-- What stands beside the steps comes before those that are still planned. If it fails, none of
these may be reached. -/
theorem follows_aside_bind (aside : run.Aside)
    (stops : ∀ failure, run.outcome = .error failure → ∀ stage ∈ planned, ¬ reached stage)
    (rest : ∀ a, run.outcome = .ok a → (next a).Follows reached raised planned) :
    (run >>= next).Follows reached raised planned := by
  cases ended : run.outcome with
  | error failure =>
      rw [bind_error ended]
      exact ⟨[], aside.ofSteps_eq, .ended (stops failure ended)⟩
  | ok a =>
      obtain ⟨passages, trace, course⟩ := rest a ended
      refine ⟨passages, ?_, ?_⟩
      · rw [events_bind_ok ended, Event.ofSteps_append, aside.ofSteps_eq, trace, List.nil_append]
      · rw [outcome_bind_ok ended]
        exact course

/-- The span of a stage frames what is done in it, as its entries can all be written. -/
theorem span_stage_eq_framed (stage : Stage) (run : Run α) :
    Run.span stage.scope run = Run.framed stage.scope run :=
  span_eq_framed stage.loggable.not_clashes

/-- The span of a step records the passage of the run inside it. -/
theorem ofSteps_span (stage : Stage) (aside : run.Aside) :
    Event.ofSteps (Run.span stage.scope run).events =
      Passage.events ⟨stage, failure? run.outcome⟩ := by
  have own := Event.ofSteps_eq_self (Passage.isOfStep_of_mem ⟨stage, failure? run.outcome⟩)
  rw [Passage.events_eq, Event.ofSteps_append] at own
  rw [span_stage_eq_framed, Passage.events_eq]
  dsimp only [framed]
  rw [Event.ofSteps_append, Event.ofSteps_append, aside.ofSteps_eq, List.nil_append, own]

/-- A step, and what follows it if it ends well: the stage of the step is passed, and behind it the
later stages, of which none is reached if the step fails. -/
theorem follows_span_bind (aside : run.Aside) (reaches : reached stage)
    (raises : ∀ failure, run.outcome = .error failure ↔ raised stage failure)
    (stops : ∀ failure, run.outcome = .error failure → ∀ stage ∈ later, ¬ reached stage)
    (rest : ∀ a, run.outcome = .ok a → (next a).Follows reached raised later) :
    (Run.span stage.scope run >>= next).Follows reached raised (stage :: later) := by
  have recorded := ofSteps_span stage aside
  cases ended : run.outcome with
  | error failure =>
      have fails : (Run.span stage.scope run).outcome = .error failure :=
        (congrArg Run.outcome (span_stage_eq_framed stage run)).trans ended
      rw [ended] at recorded
      rw [bind_error fails]
      refine ⟨[⟨stage, some failure⟩], ?_, ?_⟩
      · rw [recorded, List.flatMap_singleton]
        rfl
      · exact .failed reaches ((raises failure).mp ended) (stops failure ended)
  | ok a =>
      have ends : (Run.span stage.scope run).outcome = .ok a :=
        (congrArg Run.outcome (span_stage_eq_framed stage run)).trans ended
      rw [ended] at recorded
      obtain ⟨passages, trace, course⟩ := rest a ended
      refine ⟨⟨stage, none⟩ :: passages, ?_, ?_⟩
      · rw [events_bind_ok ends, Event.ofSteps_append, recorded, trace]
        rfl
      · rw [outcome_bind_ok ends]
        refine .passed reaches (fun failure raised => ?_) course
        exact nomatch ended.symm.trans ((raises failure).mpr raised)

end Run

end ChainQuery
