import ChainQuery.Proofs.Outcome
import ChainQuery.Schema.Check

/-! # Checks that succeed

A check of two fields succeeds only if the check of each field does (`Schema.Checked.both_eq_ok`),
and a field that must be there or has a default succeeds as the check of its value does
(`Schema.required_eq_ok`, `Schema.optional_eq_ok`). A list of values succeeds if each of its items
does (`Schema.sequence_eq_ok`).
-/

namespace ChainQuery.Schema

variable {α β : Type}

namespace Checked

variable {first : Checked α} {second : Checked β} {a : α} {b : β}

theorem under_ok (step : Step) (value : α) : under step (.ok value : Checked α) = .ok value := rfl

theorem under_eq_ok {step : Step} : under step first = .ok a ↔ first = .ok a :=
  mapError_eq_ok

/-- Two checks pass together if each of them does; otherwise the violations of both are reported. -/
theorem both_eq_ok : both first second = .ok (a, b) ↔ first = .ok a ∧ second = .ok b := by
  cases first with
  | error violations => cases second <;> exact ⟨nofun, fun ⟨same, _⟩ => nomatch same⟩
  | ok x =>
      cases second with
      | error violations => exact ⟨nofun, fun ⟨_, same⟩ => nomatch same⟩
      | ok y =>
          constructor
          · intro same
            obtain ⟨rfl, rfl⟩ := Prod.mk.inj (Except.ok.inj same)
            exact ⟨rfl, rfl⟩
          · rintro ⟨⟨⟩, ⟨⟩⟩
            rfl

/-- A check with another one behind it passes if both do, and the result is that of the first. -/
theorem after_eq_ok : after second first = .ok a ↔ first = .ok a ∧ ∃ b, second = .ok b := by
  unfold after
  constructor
  · intro done
    obtain ⟨⟨_, b⟩, both, rfl⟩ := map_eq_ok.mp done
    obtain ⟨left, right⟩ := both_eq_ok.mp both
    exact ⟨left, b, right⟩
  · rintro ⟨left, b, right⟩
    exact map_eq_ok.mpr ⟨(a, b), both_eq_ok.mpr ⟨left, right⟩, rfl⟩

end Checked

variable {members : Json.Members} {name : String} {check : Json → Checked α} {result : α}

/-- A required member passes if it is there and passes its check. There is no default that could
take its place. -/
theorem required_eq_ok : required members name check = .ok result ↔
    ∃ value, Json.Members.get? members name = some value ∧ check value = .ok result := by
  rw [required, Checked.under_eq_ok]
  cases Json.Members.get? members name with
  | none => exact ⟨nofun, fun ⟨_, has, _⟩ => nomatch has⟩
  | some value =>
      constructor
      · exact fun checked => ⟨value, rfl, checked⟩
      · rintro ⟨_, ⟨⟩, checked⟩
        exact checked

/-- An optional member passes if it is not there, with its default, or if it passes its check. The
default itself is not checked. -/
theorem optional_eq_ok {default : α} : optional members name default check = .ok result ↔
    (Json.Members.get? members name = none ∧ result = default) ∨
      ∃ value, Json.Members.get? members name = some value ∧ check value = .ok result := by
  rw [optional]
  cases Json.Members.get? members name with
  | none =>
      constructor
      · exact fun same => Or.inl ⟨rfl, (Except.ok.inj same).symm⟩
      · rintro (⟨_, rfl⟩ | ⟨_, has, _⟩)
        · rfl
        · exact nomatch has
  | some value =>
      rw [Checked.under_eq_ok]
      constructor
      · exact fun checked => Or.inr ⟨value, rfl, checked⟩
      · rintro (⟨has, _⟩ | ⟨_, ⟨⟩, checked⟩)
        · exact nomatch has
        · exact checked

/-- What passes as a text that is not empty is one, and it passes as it is. -/
theorem nonemptyString_eq_ok {value : Json} {text : String} :
    nonemptyString value = .ok text ↔ value = .str text ∧ text ≠ "" := by
  cases value with
  | str written =>
      by_cases empty : written = ""
      · have refused : nonemptyString (.str written) = Checked.broken .nonempty := if_pos empty
        rw [refused]
        exact ⟨nofun, fun ⟨same, filled⟩ => absurd (Json.str.inj same ▸ empty) filled⟩
      · have accepted : nonemptyString (.str written) = .ok written := if_neg empty
        rw [accepted]
        constructor
        · rintro ⟨⟩
          exact ⟨rfl, empty⟩
        · rintro ⟨⟨⟩, _⟩
          rfl
  | null | bool | int | float | arr | obj => exact ⟨nofun, fun ⟨same, _⟩ => nomatch same⟩

/-- All items of a list are accepted if each of them is. The places of the items matter to what is
reported only. -/
theorem all_itemsFrom_eq_ok {items : List Json} {results : List α} {index : Nat} :
    Checked.all (itemsFrom check index items) = .ok results ↔
      List.Forall₂ (fun item result => check item = .ok result) items results := by
  induction items generalizing index results with
  | nil =>
      rw [List.forall₂_nil_left_iff]
      exact ⟨fun same => (Except.ok.inj same).symm, fun same => same ▸ rfl⟩
  | cons item rest ih =>
      rw [itemsFrom, Checked.all, List.forall₂_cons_left_iff]
      constructor
      · intro done
        obtain ⟨⟨first, others⟩, both, rfl⟩ := map_eq_ok.mp done
        obtain ⟨accepted, behind⟩ := Checked.both_eq_ok.mp both
        exact ⟨first, others, Checked.under_eq_ok.mp accepted, ih.mp behind, rfl⟩
      · rintro ⟨first, others, accepted, behind, rfl⟩
        exact map_eq_ok.mpr ⟨(first, others),
          Checked.both_eq_ok.mpr ⟨Checked.under_eq_ok.mpr accepted, ih.mpr behind⟩, rfl⟩

/-- Values in a form that is accepted make a list that is accepted. -/
theorem all_itemsFrom_map {form : α → Json} {results : List α}
    (each : ∀ result ∈ results, check (form result) = .ok result) (index : Nat) :
    Checked.all (itemsFrom check index (results.map form)) = .ok results :=
  all_itemsFrom_eq_ok.mpr (List.forall₂_map_left_iff.mpr (List.forall₂_same.mpr each))

/-- A list passes if each of its items does, and the results are those of the items in order. -/
theorem sequence_eq_ok {value : Json} {results : List α} : sequence check value = .ok results ↔
    ∃ items, value = .arr items ∧
      List.Forall₂ (fun item result => check item = .ok result) items results := by
  cases value with
  | arr items =>
      constructor
      · exact fun done => ⟨items, rfl, all_itemsFrom_eq_ok.mp done⟩
      · rintro ⟨_, ⟨⟩, each⟩
        exact all_itemsFrom_eq_ok.mpr each
  | null | bool | int | float | str | obj => exact ⟨nofun, fun ⟨_, same, _⟩ => nomatch same⟩

end ChainQuery.Schema
