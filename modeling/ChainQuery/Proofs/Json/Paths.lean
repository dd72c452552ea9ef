import ChainQuery.Compiler.Request
import ChainQuery.Proofs.Json.Members

/-! # Values at the end of a path

A path of keys leads through objects to a value (`Json.at?`). Whatever has a member is an object and
not empty, so on the way along such a path no member is taken for a missing one. Another value can
be put at the end of a path (`Json.setAt`), which leaves the members beside it as they are.
-/

namespace ChainQuery.Json

/-- The value to which a path of keys leads. -/
def at? (value : Json) : List String → Option Json
  | [] => some value
  | key :: path => (value.get? key).bind fun member => member.at? path

/-- A path leads to a value if its first key leads to a member from which the rest of the path does.
-/
theorem at?_cons_eq_some {value found : Json} {key : String} {path : List String} :
    value.at? (key :: path) = some found ↔
      ∃ member, value.get? key = some member ∧ member.at? path = some found :=
  Option.bind_eq_some_iff

variable {value found : Json} {key : String}

/-- Only objects have members. -/
theorem exists_members_of_get? (has : value.get? key = some found) :
    ∃ members, value = .obj members ∧ Members.get? members key = some found := by
  cases value with
  | obj members => exact ⟨members, rfl, has⟩
  | null | bool | int | float | str | arr => exact nomatch has

/-- What has a member counts as present. -/
theorem isTruthy_of_get? (has : value.get? key = some found) : value.isTruthy = true := by
  obtain ⟨members, rfl, has⟩ := exists_members_of_get? has
  cases members with
  | nil => exact nomatch has
  | cons member rest => rfl

theorem isTruthy_of_at? {path : List String} (leads : value.at? (key :: path) = some found) :
    value.isTruthy = true := by
  obtain ⟨_, has, _⟩ := at?_cons_eq_some.mp leads
  exact isTruthy_of_get? has

theorem member_eq (has : value.get? key = some found) : value.member key = .ok (some found) := by
  obtain ⟨members, rfl, _⟩ := exists_members_of_get? has
  exact congrArg Except.ok has

/-- A member that counts as present is not taken for a missing one. -/
theorem memberOrEmpty_eq (has : value.get? key = some found) (present : found.isTruthy = true) :
    value.memberOrEmpty key = .ok found := by
  unfold memberOrEmpty
  rw [member_eq has]
  change Except.ok (if found.isTruthy = true then found else .obj []) = _
  rw [if_pos present]

/-- A value with another one at the end of a path. What is not an object on the way stays as it is.
-/
def setAt (value : Json) (path : List String) (replacement : Json) : Json :=
  match path with
  | [] => replacement
  | key :: path =>
    match value with
    | .obj members => .obj (Members.insert members key
        (((Members.get? members key).getD .null).setAt path replacement))
    | other => other

variable {path : List String}

/-- Another value at the end of a path changes one member of each object on the path and leaves the
others. -/
theorem setAt_cons {members : Members} (has : Members.get? members key = some found)
    (path : List String) (replacement : Json) :
    (obj members).setAt (key :: path) replacement =
      .obj (Members.insert members key (found.setAt path replacement)) := by
  rw [setAt, has, Option.getD_some]

/-- What was put at the end of a path is found there, if the path led somewhere before. -/
theorem at?_setAt (leads : value.at? path = some found) (replacement : Json) :
    (value.setAt path replacement).at? path = some replacement := by
  induction path generalizing value with
  | nil => rfl
  | cons key path ih =>
      obtain ⟨member, has, onwards⟩ := at?_cons_eq_some.mp leads
      obtain ⟨members, rfl, stands⟩ := exists_members_of_get? has
      rw [setAt_cons stands]
      refine at?_cons_eq_some.mpr ⟨_, ?_, ih onwards⟩
      change Members.get? _ key = _
      rw [Members.get?_insert, if_pos rfl]

/-- Members beside a path stay as they are. -/
theorem member_setAt {other : String} (leads : value.at? (key :: path) = some found)
    (beside : key ≠ other) (replacement : Json) :
    (value.setAt (key :: path) replacement).member other = value.member other := by
  obtain ⟨member, has, _⟩ := at?_cons_eq_some.mp leads
  obtain ⟨members, rfl, stands⟩ := exists_members_of_get? has
  rw [setAt_cons stands]
  change Except.ok (Members.get? _ other) = Except.ok (Members.get? members other)
  rw [Members.get?_insert, if_neg beside]

end ChainQuery.Json
