import Mathlib.Data.List.Forall2

/-! # Steps that succeed

A computation that may fail succeeds only if each of its steps does (`bind_eq_ok`, `mapM_eq_ok`), so
what a step gives can be named and what follows it goes on from there.
-/

namespace ChainQuery

variable {ε δ α β : Type}

theorem ok_bind (value : α) (next : α → Except ε β) :
    (.ok value : Except ε α) >>= next = next value := rfl

/-- Two steps succeed if both do, the second one with what the first one gives. -/
theorem bind_eq_ok {first : Except ε α} {next : α → Except ε β} {result : β} :
    first >>= next = .ok result ↔ ∃ value, first = .ok value ∧ next value = .ok result := by
  cases first with
  | error fault => exact ⟨nofun, fun ⟨_, same, _⟩ => nomatch same⟩
  | ok value =>
      constructor
      · exact fun same => ⟨value, rfl, same⟩
      · rintro ⟨_, ⟨⟩, rest⟩
        exact rest

/-- Two steps fail if the first one does, or if it succeeds and the second one fails with what it
gives. -/
theorem bind_eq_error {first : Except ε α} {next : α → Except ε β} {fault : ε} :
    first >>= next = .error fault ↔
      first = .error fault ∨ ∃ value, first = .ok value ∧ next value = .error fault := by
  cases first with
  | error other =>
      constructor
      · exact fun same => Or.inl (congrArg Except.error (Except.error.inj same))
      · rintro (⟨⟨⟩⟩ | ⟨_, same, _⟩)
        · rfl
        · exact nomatch same
  | ok value =>
      constructor
      · exact fun failed => Or.inr ⟨value, rfl, failed⟩
      · rintro (same | ⟨_, ⟨⟩, failed⟩)
        · exact nomatch same
        · exact failed

/-- A result that is mapped is there if the result is. -/
theorem map_eq_ok {first : Except ε α} {f : α → β} {result : β} :
    f <$> first = .ok result ↔ ∃ value, first = .ok value ∧ f value = result := by
  cases first with
  | error fault => exact ⟨nofun, fun ⟨_, same, _⟩ => nomatch same⟩
  | ok value =>
      constructor
      · exact fun same => ⟨value, rfl, Except.ok.inj same⟩
      · rintro ⟨_, ⟨⟩, rfl⟩
        rfl

/-- Another form of the failure makes no difference to what succeeds. -/
theorem mapError_eq_ok {result : Except ε α} {f : ε → δ} {value : α} :
    result.mapError f = .ok value ↔ result = .ok value := by
  cases result with
  | error fault => exact ⟨nofun, nofun⟩
  | ok found =>
      constructor
      · exact fun same => congrArg Except.ok (Except.ok.inj same)
      · rintro ⟨⟩
        rfl

/-- A result is known when its value is known. The value alone can be evaluated where results as a
whole cannot be compared. -/
theorem eq_ok_of_toOption {result : Except ε α} {value : α}
    (found : result.toOption = some value) : result = .ok value := by
  cases result with
  | error fault => exact nomatch found
  | ok other => exact congrArg Except.ok (Option.some.inj found)

/-- All of several steps succeed if and only if each of them does, and the results are theirs in
order. -/
theorem mapM_eq_ok {step : α → Except ε β} {inputs : List α} {results : List β} :
    inputs.mapM step = .ok results ↔
      List.Forall₂ (fun input result => step input = .ok result) inputs results := by
  induction inputs generalizing results with
  | nil =>
      constructor
      · rintro ⟨⟩
        exact .nil
      · rintro ⟨⟩
        rfl
  | cons input rest ih =>
      rw [List.mapM_cons, bind_eq_ok]
      constructor
      · rintro ⟨first, done, others⟩
        obtain ⟨results, rest, same⟩ := bind_eq_ok.mp others
        obtain rfl := Except.ok.inj same
        exact .cons done (ih.mp rest)
      · intro all
        cases all with
        | cons done others =>
            exact ⟨_, done, bind_eq_ok.mpr ⟨_, ih.mpr others, rfl⟩⟩

/-- Several steps fail as the first of them that does; those in front of it have succeeded. -/
theorem exists_of_mapM_eq_error {step : α → Except ε β} {inputs : List α} {fault : ε}
    (failed : inputs.mapM step = .error fault) :
    ∃ before input after, inputs = before ++ input :: after ∧
      (∀ other ∈ before, ∃ result, step other = .ok result) ∧ step input = .error fault := by
  induction inputs with
  | nil => exact nomatch failed
  | cons input rest ih =>
      rw [List.mapM_cons] at failed
      cases done : step input with
      | error first =>
          rw [done] at failed
          obtain rfl : first = fault := Except.error.inj failed
          exact ⟨[], input, rest, rfl, fun _ among => absurd among List.not_mem_nil, done⟩
      | ok result =>
          have others : rest.mapM step = .error fault := by
            rw [done] at failed
            cases ended : rest.mapM step with
            | error other =>
                rw [ended] at failed
                exact congrArg Except.error (Except.error.inj failed)
            | ok results =>
                rw [ended] at failed
                exact nomatch failed
          obtain ⟨before, failing, after, rfl, succeed, fails⟩ := ih others
          exact ⟨input :: before, failing, after, rfl,
            List.forall_mem_cons.mpr ⟨⟨result, done⟩, succeed⟩, fails⟩

/-- Each result of several steps is that of one of them, so what holds of every step's result holds
of all. -/
theorem exists_of_mem_mapM {step : α → Except ε β} {inputs : List α} {results : List β}
    (done : inputs.mapM step = .ok results) :
    ∀ result ∈ results, ∃ input ∈ inputs, step input = .ok result := by
  have pairs := mapM_eq_ok.mp done
  clear done
  induction pairs with
  | nil => exact fun result among => absurd among List.not_mem_nil
  | @cons input result _ _ first _ ih =>
      intro other among
      rcases List.mem_cons.mp among with rfl | among
      · exact ⟨input, List.mem_cons_self, first⟩
      · obtain ⟨source, inside, found⟩ := ih other among
        exact ⟨source, List.mem_cons_of_mem input inside, found⟩

end ChainQuery
