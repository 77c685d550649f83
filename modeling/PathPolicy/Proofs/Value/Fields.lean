import PathPolicy.Value
import Mathlib

/-! Looking up what was put into fields. The value that was put last under a name is the one that is
found. -/

namespace PathPolicy

namespace Fields

variable {fields more : Fields} {name key : String} {v : Value}

theorem lookup_cons :
    List.lookup key ((name, v) :: fields) = if key = name then some v else fields.lookup key := by
  rw [List.lookup_cons]
  split_ifs with hk
  · rw [beq_iff_eq.2 hk]
  · rw [beq_false_of_ne hk]

theorem lookup_insert :
    (fields.insert name v).lookup key = if key = name then some v else fields.lookup key := by
  induction fields with
  | nil => exact lookup_cons
  | cons e rest ih =>
    obtain ⟨n, u⟩ := e
    by_cases hn : n = name
    · subst hn
      rw [insert, if_pos rfl, lookup_cons, lookup_cons]
      split_ifs <;> rfl
    · rw [insert, if_neg hn, lookup_cons, ih, lookup_cons]
      by_cases hk : key = n
      · subst hk
        rw [if_pos rfl, if_neg hn, if_pos rfl]
      · rw [if_neg hk, if_neg hk]

/-- Later values win. -/
theorem lookup_update :
    (fields.update more).lookup key = (more.reverse.lookup key).or (fields.lookup key) := by
  unfold update
  induction more generalizing fields with
  | nil => rfl
  | cons e rest ih =>
    have hone : List.lookup key [e] = if key = e.1 then some e.2 else none := lookup_cons
    rw [List.foldl_cons, ih, lookup_insert, List.reverse_cons, List.lookup_append, hone,
      Option.or_assoc]
    split_ifs <;> rfl

theorem update_append {rest : Fields} :
    fields.update (more ++ rest) = (fields.update more).update rest := List.foldl_append

end Fields

end PathPolicy
