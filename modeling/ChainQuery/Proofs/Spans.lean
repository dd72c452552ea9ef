import ChainQuery.Proofs.Run

/-! # What a span adds to a run

A span puts its records around those of the run inside it and ends as that run does
(`Run.framed`), unless the name of an attribute stands in the way of an entry that has to be logged
(`Scope.Clashes`). Then the span ends with the failure of logging whatever the run inside it ended
with; if the entry for the start is concerned, the run inside does not even begin
(`Run.span_eq_framed_iff`).

The spans of the pipeline have attributes that never stand in the way (`Scope.loggable_ofStep`), so a
run in one of them asks for the same and ends in the same way as without it (`Run.frames_span`).
-/

namespace ChainQuery

/-- The failure that an operation ended with, if it did not end well. -/
def failure? {α : Type} : Except Failure α → Option Failure
  | .ok _ => none
  | .error failure => some failure

namespace Scope

variable {α : Type}

/-- An entry about a span: its attributes stand behind the fields. -/
def entry (scope : Scope) (level : Level) (suffix : String) (fields : Json.Members) : Event :=
  .logged ⟨level, scope.eventName ++ suffix, fields ++ scope.attributes⟩

/-- The entry for the start, if it is wanted. -/
def startEntry (scope : Scope) : List Event :=
  if scope.logStart then [scope.entry .debug "_started" []] else []

/-- The entry for a good end, if it is wanted. -/
def endEntry (scope : Scope) : List Event :=
  if scope.logEnd then [scope.entry .debug "_completed" []] else []

/-- What a span records before the run inside it. -/
def opening (scope : Scope) : List Event :=
  .spanOpened scope.name scope.kind scope.attributes :: scope.startEntry

/-- What a span records behind the run inside it, which may have failed. -/
def ending (scope : Scope) : Option Failure → List Event
  | none => .spanStatus true :: (scope.endEntry ++ [.spanClosed])
  | some failure => [.spanStatus false, .spanException failure,
      scope.entry .error "_failed" (errorField failure), .spanClosed]

/-- A name that one of the attributes has. -/
def Names (scope : Scope) (key : String) : Prop :=
  key ∈ Json.Members.keys scope.attributes

instance (scope : Scope) (key : String) : Decidable (scope.Names key) :=
  inferInstanceAs (Decidable (key ∈ Json.Members.keys scope.attributes))

/-- That no entry can be logged, since an attribute has a name that the logger binds itself. -/
def Muted (scope : Scope) : Prop :=
  ∃ key ∈ reserved, scope.Names key

instance (scope : Scope) : Decidable scope.Muted :=
  inferInstanceAs (Decidable (∃ key ∈ reserved, scope.Names key))

/-- That an entry has to be logged although the name of an attribute stands in its way. The entry for
a failure is the only one with a field of its own. -/
inductive Clashes (scope : Scope) : Except Failure α → Prop
  | start {outcome : Except Failure α} : scope.logStart = true → scope.Muted →
      Clashes scope outcome
  | completed {a : α} : scope.logEnd = true → scope.Muted → Clashes scope (.ok a)
  | failed {failure : Failure} : scope.Names "error" ∨ scope.Muted →
      Clashes scope (.error failure)

/-- How logging a failure fails: the field for its text is noticed before a reserved name is. -/
def handlerFailure (scope : Scope) : Failure :=
  if scope.Names "error" then .noSuchKey "error" else .wrongKind

/-- A span with attributes that can be logged: none is called like a field or like something that the
logger binds. -/
def Loggable (scope : Scope) : Prop :=
  ∀ key ∈ Json.Members.keys scope.attributes, key ∉ "error" :: reserved

/-- An attribute that is left out if it has no value comes under its own name only. -/
theorem keys_givenAttribute {key other : String} {value : Option String}
    (among : other ∈ Json.Members.keys (givenAttribute key value)) : other = key := by
  unfold givenAttribute at among
  cases value with
  | none => exact absurd among List.not_mem_nil
  | some text =>
      dsimp only at among
      split at among
      · exact absurd among List.not_mem_nil
      · exact List.mem_singleton.mp among

/-- The attributes of a step of the pipeline have a dot in their names, so they can be logged. -/
theorem loggable_ofStep (step : String) (language engine : Option String) (kind : SpanKind) :
    (ofStep step language engine kind).Loggable := by
  intro key among
  have cases : key = "sleuth.step" ∨ key = "sleuth.language" ∨ key = "sleuth.engine_address" := by
    simp only [ofStep, Json.Members.keys, List.map_cons, List.map_append, List.mem_cons,
      List.mem_append] at among
    rcases among with first | language | engine
    · exact Or.inl first
    · exact Or.inr (Or.inl (keys_givenAttribute language))
    · exact Or.inr (Or.inr (keys_givenAttribute engine))
  rcases cases with rfl | rfl | rfl <;> decide

variable {scope : Scope}

theorem Loggable.not_names_error (loggable : scope.Loggable) : ¬ scope.Names "error" :=
  fun taken => loggable _ taken List.mem_cons_self

theorem Loggable.not_muted (loggable : scope.Loggable) : ¬ scope.Muted :=
  fun ⟨key, known, taken⟩ => loggable key taken (List.mem_cons_of_mem _ known)

/-- Nothing clashes in a span whose attributes can be logged, however the run inside it ends. -/
theorem Loggable.not_clashes {outcome : Except Failure α} (loggable : scope.Loggable) :
    ¬ scope.Clashes outcome := by
  intro clashes
  cases clashes with
  | start _ muted => exact loggable.not_muted muted
  | completed _ muted => exact loggable.not_muted muted
  | failed taken =>
      rcases taken with error | muted
      · exact loggable.not_names_error error
      · exact loggable.not_muted muted

/-- What a span puts before the run inside it asks for nothing. -/
theorem areRecords_opening (scope : Scope) : Event.AreRecords scope.opening := by
  unfold opening startEntry
  split
  · exact .cons trivial (.cons trivial Event.areRecords_nil)
  · exact .cons trivial Event.areRecords_nil

/-- What a span puts behind the run inside it asks for nothing, however that run ended. -/
theorem areRecords_ending (scope : Scope) (failure : Option Failure) :
    Event.AreRecords (scope.ending failure) := by
  have closing : Event.AreRecords [.spanClosed] := .cons trivial Event.areRecords_nil
  cases failure with
  | none =>
      have final : Event.AreRecords scope.endEntry := by
        unfold endEntry
        split
        · exact .cons trivial Event.areRecords_nil
        · exact Event.areRecords_nil
      exact .cons trivial (final.append closing)
  | some failure => exact .cons trivial (.cons trivial (.cons trivial closing))

/-- The logger is handed a name twice exactly if an attribute has a reserved one. -/
theorem any_reserved_iff :
    reserved.any (Json.Members.keys scope.attributes).contains = true ↔ scope.Muted := by
  simp only [List.any_eq_true, List.contains_iff_mem]
  rfl

/-- An entry without fields of its own is refused for a reserved name only. -/
theorem refusal?_nil : scope.refusal? [] = if scope.Muted then some .wrongKind else none :=
  ite_congr (propext any_reserved_iff) (fun _ => rfl) fun _ => rfl

/-- The entry for a failure is refused for its field first, and then for a reserved name. Which of
the two it is decides the failure that takes the place of the one to be logged. -/
theorem refusal?_errorField (failure : Failure) :
    scope.refusal? (errorField failure) =
      if scope.Names "error" ∨ scope.Muted then some scope.handlerFailure else none := by
  unfold refusal? handlerFailure
  by_cases error : scope.Names "error"
  · have found : (Json.Members.keys (errorField failure)).find?
        (Json.Members.keys scope.attributes).contains = some "error" :=
      List.find?_cons_of_pos (List.contains_iff_mem.mpr error)
    rw [if_pos (Or.inl error), if_pos error]
    simp only [found]
  · have missing : (Json.Members.keys (errorField failure)).find?
        (Json.Members.keys scope.attributes).contains = none :=
      List.find?_cons_of_neg fun contained => error (List.contains_iff_mem.mp contained)
    rw [if_neg error]
    simp only [missing]
    exact ite_congr (propext (any_reserved_iff.trans (or_iff_right error).symm))
      (fun _ => rfl) fun _ => rfl

/-- Without a refusal, an entry of the scope is written with its attributes and the fields of the
entry. -/
theorem log_eq_entry {level : Level} {suffix : String} {fields : Json.Members}
    (free : scope.refusal? fields = none) :
    scope.log level suffix fields = ⟨[scope.entry level suffix fields], .ok ()⟩ := by
  unfold log
  rw [free]
  rfl

/-- A refused entry is not written, and the failure takes its place. -/
theorem log_eq_fail {level : Level} {suffix : String} {fields : Json.Members} {failure : Failure}
    (refused : scope.refusal? fields = some failure) :
    scope.log level suffix fields = .fail failure := by
  unfold log
  rw [refused]

/-- The beginning of a span is logged if this is wanted and the scope is not muted. -/
theorem started_eq (free : ¬ (scope.logStart = true ∧ scope.Muted)) :
    scope.started = ⟨scope.startEntry, .ok ()⟩ := by
  unfold started startEntry
  by_cases wanted : scope.logStart = true
  · rw [if_pos wanted, if_pos wanted]
    exact log_eq_entry (refusal?_nil.trans (if_neg fun muted => free ⟨wanted, muted⟩))
  · rw [if_neg wanted, if_neg wanted]
    rfl

/-- A muted scope fails at the entry for its beginning. -/
theorem started_eq_fail (wanted : scope.logStart = true) (muted : scope.Muted) :
    scope.started = .fail .wrongKind := by
  unfold started
  rw [if_pos wanted]
  exact log_eq_fail (refusal?_nil.trans (if_pos muted))

/-- The end of a span is marked first and logged next, if this is wanted and the scope is not muted.
-/
theorem completed_eq (free : ¬ (scope.logEnd = true ∧ scope.Muted)) :
    scope.completed = ⟨.spanStatus true :: scope.endEntry, .ok ()⟩ := by
  unfold completed endEntry
  by_cases wanted : scope.logEnd = true
  · rw [if_pos wanted, if_pos wanted,
      log_eq_entry (refusal?_nil.trans (if_neg fun muted => free ⟨wanted, muted⟩))]
    rfl
  · rw [if_neg wanted, if_neg wanted]
    rfl

/-- A muted scope fails at the entry for its end, when the status of the span has been set. -/
theorem completed_eq_fail (wanted : scope.logEnd = true) (muted : scope.Muted) :
    scope.completed = ⟨[.spanStatus true], .error .wrongKind⟩ := by
  unfold completed
  rw [if_pos wanted, log_eq_fail (refusal?_nil.trans (if_pos muted))]
  rfl

/-- A failure is recorded in the span and logged, and then goes on as it was. -/
theorem failed_eq {failure : Failure} (free : ¬ (scope.Names "error" ∨ scope.Muted)) :
    (scope.failed failure : Run α) = ⟨[.spanStatus false, .spanException failure,
      scope.entry .error "_failed" (errorField failure)], .error failure⟩ := by
  unfold failed
  rw [log_eq_entry ((refusal?_errorField failure).trans (if_neg free))]
  rfl

/-- A failure that cannot be logged is recorded in the span, and another one takes its place. -/
theorem failed_eq_fail {failure : Failure} (taken : scope.Names "error" ∨ scope.Muted) :
    (scope.failed failure : Run α) =
      ⟨[.spanStatus false, .spanException failure], .error scope.handlerFailure⟩ := by
  unfold failed
  rw [log_eq_fail ((refusal?_errorField failure).trans (if_pos taken))]
  rfl

end Scope

namespace Run

variable {α : Type} {scope : Scope} {run : Run α}

/-- A run with what a span records around it. -/
def framed (scope : Scope) (run : Run α) : Run α :=
  ⟨scope.opening ++ (run.events ++ scope.ending (failure? run.outcome)), run.outcome⟩

/-- A run in a span that ends with the failure of logging: nothing of the run if the start cannot be
logged, and else the run up to the entry that cannot be. -/
def brokenOff (scope : Scope) (run : Run α) : Run α :=
  if scope.logStart = true ∧ scope.Muted then
    ⟨[.spanOpened scope.name scope.kind scope.attributes, .spanClosed], .error .wrongKind⟩
  else
    ⟨scope.opening ++ (run.events ++ match run.outcome with
      | .ok _ => [.spanStatus true, .spanStatus false, .spanException .wrongKind, .spanClosed]
      | .error failure => [.spanStatus false, .spanException failure, .spanClosed]),
      .error scope.handlerFailure⟩

/-- A run whose good end is recorded, and whose failure is. -/
def attended (scope : Scope) (run : Run α) : Run α :=
  (do
    let a ← run
    scope.completed
    return a).onFailure scope.failed

/-- A span that can log its start adds the opening and the closing to the run that it attends. -/
theorem span_of_started (free : ¬ (scope.logStart = true ∧ scope.Muted)) :
    Run.span scope run = ⟨scope.opening ++ ((attended scope run).events ++ [.spanClosed]),
      (attended scope run).outcome⟩ := by
  unfold span
  dsimp only
  rw [Scope.started_eq free]
  change (⟨.spanOpened _ _ _ :: (scope.startEntry ++ (attended scope run).events) ++
    [.spanClosed], _⟩ : Run α) = _
  rw [List.cons_append, List.append_assoc]
  rfl

/-- Where the beginning cannot be logged, nothing is done within the span, and no failure is
recorded in it. -/
theorem span_of_not_started (wanted : scope.logStart = true) (muted : scope.Muted) :
    Run.span scope run = ⟨[.spanOpened scope.name scope.kind scope.attributes, .spanClosed],
      .error .wrongKind⟩ := by
  unfold span
  rw [Scope.started_eq_fail wanted muted]
  rfl

section

variable {events : List Event} {a : α} {failure : Failure}

/-- A run that succeeds within a span has its end logged behind its events. -/
theorem attended_ok (free : ¬ (scope.logEnd = true ∧ scope.Muted)) :
    attended scope ⟨events, .ok a⟩ =
      ⟨events ++ .spanStatus true :: scope.endEntry, .ok a⟩ := by
  unfold attended
  rw [Scope.completed_eq free]
  change (⟨events ++ (_ :: scope.endEntry ++ []), .ok a⟩ : Run α) = _
  rw [List.append_nil]

/-- A good end that cannot be logged is treated as a failure, which then cannot be logged either. -/
theorem attended_ok_fail (wanted : scope.logEnd = true) (muted : scope.Muted) :
    attended scope ⟨events, .ok a⟩ = ⟨events ++
      [.spanStatus true, .spanStatus false, .spanException .wrongKind],
      .error scope.handlerFailure⟩ := by
  unfold attended
  rw [Scope.completed_eq_fail wanted muted]
  change (⟨(events ++ [.spanStatus true]) ++ (scope.failed .wrongKind : Run α).events,
    (scope.failed .wrongKind : Run α).outcome⟩ : Run α) = _
  rw [Scope.failed_eq_fail (Or.inr muted), List.append_assoc]
  rfl

/-- A run that fails within a span has its failure handled behind its events, and this decides how
the span ends. -/
theorem attended_error :
    attended scope (⟨events, .error failure⟩ : Run α) =
      ⟨events ++ (scope.failed failure : Run α).events,
        (scope.failed failure : Run α).outcome⟩ := rfl

end

/-- A span whose entries can be logged only adds its records: it runs what is inside it once and
ends as that does. -/
theorem span_eq_framed (free : ¬ scope.Clashes run.outcome) :
    Run.span scope run = Run.framed scope run := by
  obtain ⟨events, outcome⟩ := run
  rw [span_of_started fun ⟨wanted, muted⟩ => free (.start wanted muted)]
  cases outcome with
  | ok a =>
      rw [attended_ok fun ⟨wanted, muted⟩ => free (.completed wanted muted), List.append_assoc]
      rfl
  | error failure =>
      rw [attended_error, Scope.failed_eq fun taken => free (.failed taken), List.append_assoc]
      rfl

/-- A span whose attributes can be logged only records: the run inside it does and ends as it would
without it. -/
theorem frames_span (loggable : scope.Loggable) (run : Run α) :
    Frames run (Run.span scope run) := by
  rw [span_eq_framed loggable.not_clashes]
  exact ⟨rfl, _, _, scope.areRecords_opening, scope.areRecords_ending _, rfl⟩

/-- A span of which an entry cannot be logged ends with the failure of logging, and not with what
the run within it gave. -/
theorem span_eq_brokenOff (clashes : scope.Clashes run.outcome) :
    Run.span scope run = Run.brokenOff scope run := by
  obtain ⟨events, outcome⟩ := run
  unfold brokenOff
  by_cases first : scope.logStart = true ∧ scope.Muted
  · rw [if_pos first]
    exact span_of_not_started first.1 first.2
  · rw [if_neg first, span_of_started first]
    cases clashes with
    | start wanted muted => exact absurd ⟨wanted, muted⟩ first
    | completed wanted muted =>
        rw [attended_ok_fail wanted muted, List.append_assoc]
        rfl
    | failed taken =>
        rw [attended_error, Scope.failed_eq_fail taken, List.append_assoc]
        rfl

/-- A failure of logging is told from the end of the run inside by its records, even if that run
ended with such a failure itself. -/
theorem framed_ne_brokenOff : Run.framed scope run ≠ Run.brokenOff scope run := by
  obtain ⟨events, outcome⟩ := run
  intro same
  unfold brokenOff framed at same
  -- equal outcomes leave a run that failed, whose entry is missing on the right
  split at same
  · obtain ⟨recorded, rfl⟩ := Run.mk.inj same
    have lengths := congrArg List.length recorded
    simp only [failure?, Scope.ending, Scope.opening, List.length_append, List.length_cons,
      List.length_nil] at lengths
    omega
  · obtain ⟨recorded, rfl⟩ := Run.mk.inj same
    have lengths := congrArg List.length recorded
    simp only [failure?, Scope.ending, List.length_append, List.length_cons,
      List.length_nil] at lengths
    omega

/-- **A span adds nothing but its records, unless an attribute stands in the way of its entries.**
For any span and any run, whether it ends well or fails: the run in the span is that run once, with
the records of the span before it and behind it, and it ends as the run does, exactly if no entry
that has to be logged is refused, for an attribute called `error` if the run failed or for one with a
name that the logger binds itself. In all other cases the span ends with the failure of logging:
without beginning the run if the entry for the start is concerned, and else behind it and in place of
its result or of its failure. -/
theorem span_eq_framed_iff (scope : Scope) (run : Run α) :
    (Run.span scope run = Run.framed scope run ↔ ¬ scope.Clashes run.outcome) ∧
    (scope.Clashes run.outcome → Run.span scope run = Run.brokenOff scope run) := by
  refine ⟨⟨fun same clashes => ?_, span_eq_framed⟩, span_eq_brokenOff⟩
  exact framed_ne_brokenOff (same.symm.trans (span_eq_brokenOff clashes))

/-- An attribute called `error` takes the place of the failure of a run, and one with a name that the
logger binds keeps a run from beginning. -/
theorem span_loses_outcome :
    (Run.span ⟨"x", .internal, [("error", .str "e")], true, true⟩
      (Run.fail (.badValue "boom") : Run Unit)).outcome = .error (.noSuchKey "error") ∧
    (Run.span ⟨"x", .internal, [("event", .str "e")], true, true⟩
      (Run.emit (.transpiled "t"))).outcome = .error .wrongKind ∧
    .transpiled "t" ∉ (Run.span ⟨"x", .internal, [("event", .str "e")], true, true⟩
      (Run.emit (.transpiled "t"))).events := by
  refine ⟨rfl, rfl, ?_⟩
  decide

end Run

end ChainQuery
