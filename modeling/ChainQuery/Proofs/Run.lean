import ChainQuery.Run

/-! # What runs do beside recording

Log entries and spans only record what a run does; every other event is a request
(`Event.requests`). What a run asks for can be read off without the records that stand around it
(`Run.Frames.requests`) and without the parts of it that only record (`Run.OnlyRecords`).
-/

namespace ChainQuery

namespace Event

/-- An event that only records something: a log entry or a part of a span. -/
def IsRecord : Event → Prop
  | .logged _ | .spanOpened _ _ _ | .spanStatus _ | .spanException _ | .spanClosed => True
  | .transpiled _ | .compiled _ | .called _ _ | .connected _ | .executed _ _ | .tool _ => False

/-- Events that only record something. -/
def AreRecords (events : List Event) : Prop :=
  ∀ event ∈ events, event.IsRecord

variable {first second : List Event}

theorem areRecords_nil : AreRecords [] :=
  fun _ among => absurd among List.not_mem_nil

theorem AreRecords.cons {event : Event} (record : event.IsRecord) (others : AreRecords first) :
    AreRecords (event :: first) :=
  List.forall_mem_cons.mpr ⟨record, others⟩

theorem AreRecords.append (left : AreRecords first) (right : AreRecords second) :
    AreRecords (first ++ second) := by
  intro event among
  rcases List.mem_append.mp among with before | behind
  · exact left event before
  · exact right event behind

instance : DecidablePred IsRecord
  | .logged _ | .spanOpened _ _ _ | .spanStatus _ | .spanException _ | .spanClosed =>
    isTrue trivial
  | .transpiled _ | .compiled _ | .called _ _ | .connected _ | .executed _ _ | .tool _ =>
    isFalse id

/-- What is asked for: the events that do more than record something, in order. -/
def requests (events : List Event) : List Event :=
  events.filter (¬ IsRecord ·)

@[simp] theorem requests_append (first second : List Event) :
    requests (first ++ second) = requests first ++ requests second :=
  List.filter_append ..

/-- Events are all records if and only if there is no request among them. -/
theorem areRecords_iff {events : List Event} : AreRecords events ↔ requests events = [] := by
  simp only [AreRecords, requests, List.filter_eq_nil_iff, decide_not, Bool.not_eq_true,
    Bool.not_eq_false', decide_eq_true_eq]

theorem AreRecords.requests_eq (records : AreRecords first) : requests first = [] :=
  areRecords_iff.mp records

theorem calls_append (first second : List Event) :
    calls (first ++ second) = calls first ++ calls second :=
  List.filterMap_append

/-- Records have no call among them. -/
theorem AreRecords.calls_eq (records : AreRecords first) : calls first = [] := by
  apply List.filterMap_eq_nil_iff.mpr
  intro event among
  have record := records event among
  cases event with
  | logged | spanOpened | spanStatus | spanException | spanClosed => rfl
  | transpiled | compiled | called | connected | executed | tool => exact record.elim

end Event

namespace Run

variable {α β : Type}

theorem liftM_ok_bind (a : α) (next : α → Run β) :
    (liftM (.ok a : Except Failure α) : Run α) >>= next = next a := rfl

theorem outcome_liftM (outcome : Except Failure α) : (liftM outcome : Run α).outcome = outcome :=
  rfl

/-- A run of two parts ends as its parts do one after the other; what was recorded has no influence
on this. -/
theorem outcome_bind (run : Run α) (next : α → Run β) :
    (run >>= next).outcome = run.outcome >>= fun a => (next a).outcome := by
  cases ended : run.outcome with
  | error failure =>
      rw [bind_error ended]
      rfl
  | ok a =>
      rw [outcome_bind_ok ended]
      rfl

/-- The requests of two steps are those of both, if the first one succeeds. -/
theorem requests_bind_ok {run : Run α} {next : α → Run β} {a : α} (ok : run.outcome = .ok a) :
    Event.requests (run >>= next).events =
      Event.requests run.events ++ Event.requests (next a).events := by
  rw [events_bind_ok ok, Event.requests_append]

theorem requests_bind_error {run : Run α} {next : α → Run β} {failure : Failure}
    (failed : run.outcome = .error failure) :
    Event.requests (run >>= next).events = Event.requests run.events := by
  rw [bind_error failed]

/-- Two steps succeed if both do, the second one with what the first one gives. -/
theorem outcome_bind_eq_ok {run : Run α} {next : α → Run β} {b : β} :
    (run >>= next).outcome = .ok b ↔ ∃ a, run.outcome = .ok a ∧ (next a).outcome = .ok b := by
  cases ended : run.outcome with
  | error failure =>
      rw [bind_error ended]
      exact ⟨nofun, fun ⟨_, same, _⟩ => nomatch same⟩
  | ok a =>
      rw [outcome_bind_ok ended]
      constructor
      · exact fun rest => ⟨a, rfl, rest⟩
      · rintro ⟨_, ⟨⟩, rest⟩
        exact rest

/-- A step that only returns what it is given changes nothing. -/
theorem bind_pure (run : Run α) : run >>= pure = run := by
  obtain ⟨events, outcome⟩ := run
  cases outcome with
  | error failure => rfl
  | ok a => exact congrArg (Run.mk · (.ok a)) (List.append_nil events)

/-- A result that is only put into another form leaves the events as they are, also where there is
none. -/
theorem bind_pure_eq (run : Run α) (f : α → β) :
    (run >>= fun a => pure (f a)) = ⟨run.events, run.outcome.map f⟩ := by
  obtain ⟨events, outcome⟩ := run
  cases outcome with
  | error failure => rfl
  | ok a =>
      change (⟨events ++ [], .ok (f a)⟩ : Run β) = _
      rw [List.append_nil]
      rfl

/-- Of three steps it does not matter which two are taken together: their events stand in the same
order and the first failure ends them. -/
theorem bind_assoc {γ : Type} (run : Run α) (next : α → Run β) (last : β → Run γ) :
    run >>= next >>= last = run >>= fun a => next a >>= last := by
  obtain ⟨events, outcome⟩ := run
  cases outcome with
  | error failure => rfl
  | ok a =>
      change andThen ⟨events ++ (next a).events, (next a).outcome⟩ last =
        ⟨events ++ (andThen (next a) last).events, (andThen (next a) last).outcome⟩
      obtain ⟨more, outcome⟩ := next a
      cases outcome with
      | error failure => rfl
      | ok b => exact congrArg (Run.mk · (last b).outcome) (List.append_assoc ..)

/-- A last step in which nothing happens leaves the events as they are, and decides the end. -/
theorem bind_liftM_eq (run : Run α) (last : α → Except Failure β) :
    (run >>= fun a => liftM (last a)) = ⟨run.events, run.outcome >>= last⟩ := by
  obtain ⟨events, outcome⟩ := run
  cases outcome with
  | error failure => rfl
  | ok a =>
      change (⟨events ++ [], last a⟩ : Run β) = _
      rw [List.append_nil]
      rfl

/-- What follows a run counts for the values that the run ends with. -/
theorem bind_congr {run : Run α} {next other : α → Run β}
    (same : ∀ a, run.outcome = .ok a → next a = other a) : (run >>= next) = (run >>= other) := by
  cases ended : run.outcome with
  | error failure => rw [bind_error ended, bind_error ended]
  | ok a =>
      show andThen run next = andThen run other
      simp only [andThen, ended, same a ended]

theorem calls_bind_ok {run : Run α} {next : α → Run β} {a : α} (ok : run.outcome = .ok a) :
    Event.calls (run >>= next).events =
      Event.calls run.events ++ Event.calls (next a).events := by
  rw [events_bind_ok ok, Event.calls_append]

/-- A run that adds nothing but records to another and ends as it does. -/
structure Frames (inner outer : Run α) : Prop where
  outcome : outer.outcome = inner.outcome
  events : ∃ before after, Event.AreRecords before ∧ Event.AreRecords after ∧
    outer.events = before ++ (inner.events ++ after)

/-- What a run asks for is what the run inside it asks for. -/
theorem Frames.requests {inner outer : Run α} (frames : Frames inner outer) :
    Event.requests outer.events = Event.requests inner.events := by
  obtain ⟨before, after, recordsBefore, recordsAfter, events⟩ := frames.events
  rw [events, Event.requests_append, Event.requests_append, recordsBefore.requests_eq,
    recordsAfter.requests_eq, List.nil_append, List.append_nil]

/-- The calls of a run are those of the run inside it. -/
theorem Frames.calls {inner outer : Run α} (frames : Frames inner outer) :
    Event.calls outer.events = Event.calls inner.events := by
  obtain ⟨before, after, recordsBefore, recordsAfter, events⟩ := frames.events
  rw [events, Event.calls_append, Event.calls_append, recordsBefore.calls_eq,
    recordsAfter.calls_eq, List.nil_append, List.append_nil]

/-- A run in which nothing happens but what is allowed. -/
def All (allowed : Event → Prop) (run : Run α) : Prop :=
  ∀ event ∈ run.events, allowed event

section

variable {allowed : Event → Prop}

theorem all_liftM (outcome : Except Failure α) : (liftM outcome : Run α).All allowed :=
  fun _ among => absurd among List.not_mem_nil

theorem all_pure (a : α) : (pure a : Run α).All allowed :=
  all_liftM (.ok a)

theorem all_fail (failure : Failure) : (fail failure : Run α).All allowed :=
  all_liftM (.error failure)

theorem all_emit {event : Event} (allows : allowed event) : (emit event).All allowed :=
  List.forall_mem_singleton.mpr allows

theorem all_log {level : Level} {event : String} {fields : Json.Members}
    (allows : allowed (.logged ⟨level, event, fields⟩)) : (log level event fields).All allowed :=
  all_emit allows

/-- Only allowed things happen in two steps if this holds of both. The second one counts where the
first one has succeeded. -/
theorem All.bind {run : Run α} {next : α → Run β} (first : run.All allowed)
    (rest : ∀ a, run.outcome = .ok a → (next a).All allowed) : (run >>= next).All allowed := by
  cases ended : run.outcome with
  | error failure =>
      rw [bind_error ended]
      exact first
  | ok a =>
      rw [All, events_bind_ok ended]
      exact List.forall_mem_append.mpr ⟨first, rest a ended⟩

end

/-- A run that asks nobody for anything. -/
def OnlyRecords (run : Run α) : Prop :=
  Event.AreRecords run.events

theorem onlyRecords_ofExcept (outcome : Except Failure α) :
    (liftM outcome : Run α).OnlyRecords :=
  all_liftM outcome

theorem onlyRecords_pure (a : α) : (pure a : Run α).OnlyRecords :=
  all_pure a

theorem onlyRecords_fail (failure : Failure) : (fail failure : Run α).OnlyRecords :=
  all_fail failure

theorem onlyRecords_log (level : Level) (event : String) (fields : Json.Members) :
    (log level event fields).OnlyRecords :=
  all_log trivial

theorem OnlyRecords.bind {run : Run α} {next : α → Run β} (first : run.OnlyRecords)
    (rest : ∀ a, run.outcome = .ok a → (next a).OnlyRecords) : (run >>= next).OnlyRecords :=
  All.bind first rest

/-- What only records behind a run adds no requests to it. -/
theorem requests_bind_of_onlyRecords {run : Run α} {next : α → Run β}
    (rest : ∀ a, run.outcome = .ok a → (next a).OnlyRecords) :
    Event.requests (run >>= next).events = Event.requests run.events := by
  cases ended : run.outcome with
  | error failure => exact requests_bind_error ended
  | ok a => rw [requests_bind_ok ended, (rest a ended).requests_eq, List.append_nil]

end Run

end ChainQuery
