import ChainQuery.Json.Basic
import Mathlib.Data.List.Nodup

/-! # Members of objects

Looking up a member behind another one (`get?_cons`), after one was set (`get?_insert`), and where
no name stands twice: then a member is found by its name wherever it stands (`get?_eq_some_iff`), so
the order of the members makes no difference (`get?_eq_of_perm`).
-/

namespace ChainQuery.Json.Members

theorem get?_cons (name key : String) (value : Json) (rest : Members) :
    get? ((name, value) :: rest) key = if name = key then some value else get? rest key := by
  rw [get?, List.find?_cons]
  by_cases same : name = key
  · rw [if_pos same, same, beq_self_eq_true]
    rfl
  · rw [if_neg same, beq_eq_false_iff_ne.mpr same]
    rfl

/-- Setting a member sets its value and leaves the others as they are, whether there was such a
member or not. -/
theorem get?_insert (members : Members) (name key : String) (value : Json) :
    get? (members.insert name value) key = if name = key then some value else get? members key := by
  induction members with
  | nil => exact get?_cons name key value []
  | cons member rest ih =>
      obtain ⟨front, kept⟩ := member
      by_cases set : front = name
      · rw [insert, if_pos set, get?_cons, get?_cons, set]
        split
        · rfl
        · rfl
      · rw [insert, if_neg set, get?_cons, get?_cons, ih]
        by_cases found : front = key
        · rw [if_pos found, if_neg fun same => set (found.trans same.symm), if_pos found]
        · rw [if_neg found, if_neg found]

/-- The value that a member is set to does not decide which members there are. So what is checked of
keys alone does not depend on it. -/
theorem keys_insert (members : Members) (key : String) (first second : Json) :
    keys (members.insert key first) = keys (members.insert key second) := by
  induction members with
  | nil => rfl
  | cons member rest ih =>
      obtain ⟨name, kept⟩ := member
      by_cases same : name = key
      · rw [insert, insert, if_pos same, if_pos same]
        rfl
      · rw [insert, insert, if_neg same, if_neg same, keys, keys, List.map_cons, List.map_cons]
        exact congrArg (name :: ·) ih

/-- Where no name stands twice, a member is found by its name, so members may be spoken of without
their order. -/
theorem get?_eq_some_iff {members : Members} (distinct : (keys members).Nodup) {key : String}
    {value : Json} : get? members key = some value ↔ (key, value) ∈ members := by
  induction members with
  | nil => exact ⟨nofun, fun among => absurd among List.not_mem_nil⟩
  | cons member rest ih =>
      obtain ⟨name, kept⟩ := member
      obtain ⟨fresh, apart⟩ := List.nodup_cons.mp (distinct : (name :: keys rest).Nodup)
      rw [get?_cons, List.mem_cons, Prod.mk.injEq]
      by_cases same : name = key
      · subst same
        have new : (name, value) ∉ rest := fun among => fresh (List.mem_map.mpr ⟨_, among, rfl⟩)
        rw [if_pos rfl, Option.some.injEq]
        exact ⟨fun found => .inl ⟨rfl, found.symm⟩,
          fun found => (found.resolve_right new).2.symm⟩
      · rw [if_neg same, ih apart]
        exact ⟨.inr, fun found => found.resolve_left fun front => same front.1.symm⟩

/-- The order of members with distinct keys makes no difference to what is found under a key. -/
theorem get?_eq_of_perm {members reordered : Members} (distinct : (keys members).Nodup)
    (perm : members.Perm reordered) (key : String) : get? reordered key = get? members key := by
  have apart : (keys reordered).Nodup := (perm.map Prod.fst).nodup_iff.mp distinct
  ext value
  rw [get?_eq_some_iff distinct, get?_eq_some_iff apart, perm.mem_iff]

end ChainQuery.Json.Members
