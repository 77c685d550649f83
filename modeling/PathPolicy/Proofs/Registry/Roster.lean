import PathPolicy.Proofs.Registry.Command
import Mathlib.Data.List.Find

/-! A roster is one list of schemas with pairwise unequal selectors, exact paths and
patterns together in the order of registration. It says what the commands of a registry
mean, with no tables and no keys. -/

namespace PathPolicy

open Registry (Command)

variable [Host]

abbrev Roster := List Schema

namespace Roster

def Distinct (l : Roster) : Prop := l.Pairwise fun s t => s.selector ≠ t.selector

instance (l : Roster) : Decidable l.Distinct :=
  inferInstanceAs (Decidable (l.Pairwise fun s t => s.selector ≠ t.selector))

def has (l : Roster) (selector : Selector) : Bool := l.any (·.selector = selector)

/-- In the place of the entry with the same selector, or at the end. -/
def enter (l : Roster) (s : Schema) : Roster :=
  if l.has s.selector then l.map fun t => if t.selector = s.selector then s else t
  else l ++ [s]

/-- Without the entry with the selector. -/
def strike (l : Roster) (selector : Selector) : Roster := l.filter (·.selector ≠ selector)

/-- The exact entry for a path, or else the earliest pattern with that text. -/
def entryFor? (l : Roster) (path : String) : Option Schema :=
  (l.find? fun s => s.isExact && s.path = path).or
    (l.find? fun s => !s.isExact && s.path = path)

def next (l : Roster) : Command → Roster
  | .register s => l.enter s
  | .registerAll schemas => schemas.foldl enter l
  | .registerSet set => set.schemas.foldl enter l
  | .unregister s => l.strike s.selector
  | .unregisterPath path =>
    match l.entryFor? path with
    | some s => l.strike s.selector
    | none => l
  | .clear => []

/-- A removal answers whether it deleted an entry. -/
def answer (l : Roster) (c : Command) : Option Bool :=
  match c with
  | .unregister _ => some (l.length = (l.next c).length + 1)
  | .unregisterPath _ => some (l.length = (l.next c).length + 1)
  | _ => none

def run (commands : List Command) : Roster := commands.foldl next []

theorem has_iff {l : Roster} {selector : Selector} :
    l.has selector = true ↔ ∃ s ∈ l, s.selector = selector := by
  simp [has]

theorem not_has_iff {l : Roster} {selector : Selector} :
    l.has selector = false ↔ ∀ s ∈ l, s.selector ≠ selector := by
  simp [has]

theorem entryFor?_mem {l : Roster} {path : String} {s : Schema} (h : l.entryFor? path = some s) :
    s ∈ l := by
  rcases Option.or_eq_some_iff.1 h with h | ⟨_, h⟩ <;> exact List.mem_of_find?_eq_some h

theorem path_of_entryFor? {l : Roster} {path : String} {s : Schema}
    (h : l.entryFor? path = some s) : s.path = path := by
  rcases Option.or_eq_some_iff.1 h with h | ⟨_, h⟩
  all_goals
    have hs := List.find?_some h
    rw [Bool.and_eq_true, decide_eq_true_iff] at hs
    exact hs.2

theorem selector_replaced (s t : Schema) :
    (if t.selector = s.selector then s else t).selector = t.selector := by
  split
  · next h => exact h.symm
  · rfl

theorem Distinct.enter {l : Roster} (h : l.Distinct) (s : Schema) : (l.enter s).Distinct := by
  unfold Roster.enter
  split
  · -- replacing an entry changes no selector
    refine List.pairwise_map.2 (h.imp fun {a b} hab => ?_)
    rw [selector_replaced, selector_replaced]
    exact hab
  · next hs =>
    rw [Bool.not_eq_true, not_has_iff] at hs
    refine List.pairwise_append.2 ⟨h, List.pairwise_singleton _ _, fun t ht u hu => ?_⟩
    rw [List.mem_singleton.1 hu]
    exact hs t ht

theorem Distinct.strike {l : Roster} (h : l.Distinct) (selector : Selector) :
    (l.strike selector).Distinct := h.sublist List.filter_sublist

theorem not_has_strike (l : Roster) (selector : Selector) :
    (l.strike selector).has selector = false := by
  simp [not_has_iff, strike]

/-- What was struck and comes back stands at the end. -/
theorem enter_strike (l : Roster) (s : Schema) :
    (l.strike s.selector).enter s = l.strike s.selector ++ [s] := by
  rw [enter, not_has_strike]
  rfl

theorem strike_eq_self {l : Roster} {selector : Selector} (h : l.has selector = false) :
    l.strike selector = l := by
  rw [not_has_iff] at h
  exact List.filter_eq_self.2 fun s hs => by simpa using h s hs

theorem strike_cons (s : Schema) (l : Roster) (selector : Selector) :
    strike (s :: l) selector =
      if s.selector = selector then l.strike selector else s :: l.strike selector := by
  by_cases h : s.selector = selector <;> simp [strike, h]

theorem has_cons (s : Schema) (l : Roster) (selector : Selector) :
    has (s :: l) selector = (decide (s.selector = selector) || l.has selector) := rfl

/-- Among distinct entries a selector is struck once, if it is there. -/
theorem Distinct.length_strike {l : Roster} (h : l.Distinct) (selector : Selector) :
    decide (l.length = (l.strike selector).length + 1) = l.has selector := by
  induction l with
  | nil => rfl
  | cons s rest ih =>
    obtain ⟨hs, hr⟩ := List.pairwise_cons.1 h
    rw [strike_cons, has_cons]
    by_cases he : s.selector = selector
    · have hrest : Roster.has rest selector = false :=
        not_has_iff.2 fun t ht => he ▸ (hs t ht).symm
      simp [he, strike_eq_self hrest]
    · simpa [he] using ih hr

theorem Distinct.length_next_unregisterPath {l : Roster} (h : l.Distinct) (path : String) :
    decide (l.length = (l.next (.unregisterPath path)).length + 1) = (l.entryFor? path).isSome := by
  cases he : l.entryFor? path with
  | none =>
    have hnext : l.next (.unregisterPath path) = l := by simp only [Roster.next, he]
    simp [hnext]
  | some s =>
    have hnext : l.next (.unregisterPath path) = l.strike s.selector := by
      simp only [Roster.next, he]
    rw [hnext, h.length_strike]
    exact has_iff.2 ⟨s, entryFor?_mem he, rfl⟩

theorem enter_cons (t : Schema) (l : Roster) (s : Schema) :
    enter (t :: l) s =
      if t.selector = s.selector then s :: l.map fun u => if u.selector = s.selector then s else u
      else t :: l.enter s := by
  by_cases h : t.selector = s.selector
  · simp [enter, has_cons, h]
  · unfold enter
    rw [has_cons, decide_eq_false h, Bool.false_or, if_neg h]
    split <;> simp [h]

theorem replace_eq_self {l : Roster} {s : Schema} (h : l.has s.selector = false) :
    (l.map fun u => if u.selector = s.selector then s else u) = l := by
  rw [not_has_iff] at h
  conv_rhs => rw [← List.map_id l]
  exact List.map_congr_left fun t ht => by simp [h t ht]

section Filter

variable (q : Selector → Bool)

theorem has_filter {selector : Selector} (l : Roster) (h : q selector = true) :
    Roster.has (l.filter fun s => q s.selector) selector = l.has selector := by
  rw [Bool.eq_iff_iff, has_iff, has_iff]
  constructor
  · rintro ⟨s, hs, he⟩
    exact ⟨s, (List.mem_filter.1 hs).1, he⟩
  · rintro ⟨s, hs, rfl⟩
    exact ⟨s, List.mem_filter.2 ⟨hs, h⟩, rfl⟩

/-- Entering a schema is entering it among those of its kind. -/
theorem filter_enter (l : Roster) (s : Schema) :
    (l.enter s).filter (fun t => q t.selector) =
      if q s.selector then Roster.enter (l.filter fun t => q t.selector) s
      else l.filter fun t => q t.selector := by
  unfold enter
  by_cases hq : q s.selector = true
  · rw [if_pos hq, has_filter q l hq]
    split
    · rw [List.filter_map]
      congr 1
      apply List.filter_congr
      intro t _
      rw [Function.comp_apply, selector_replaced]
    · rw [List.filter_append]
      simp [hq]
  · rw [if_neg hq]
    split
    · -- the entry that is replaced is of the other kind, before and after
      rw [List.filter_map]
      have hcomp : ((fun t => q t.selector) ∘ fun t => if t.selector = s.selector then s else t) =
          fun t => q t.selector := by
        funext t
        rw [Function.comp_apply, selector_replaced]
      rw [hcomp]
      conv_rhs => rw [← List.map_id (l.filter fun t => q t.selector)]
      apply List.map_congr_left
      intro t ht
      have hne : t.selector ≠ s.selector := fun he => hq (he ▸ (List.mem_filter.1 ht).2)
      simp [hne]
    · rw [List.filter_append]
      simp [hq]

/-- Entering a schema of the other kind leaves those of this kind. -/
theorem filter_enter_of_not {s : Schema} (l : Roster) (h : ¬q s.selector = true) :
    (l.enter s).filter (fun t => q t.selector) = l.filter fun t => q t.selector := by
  rw [filter_enter, if_neg h]

theorem filter_strike (l : Roster) (selector : Selector) :
    (l.strike selector).filter (fun t => q t.selector) =
      Roster.strike (l.filter fun t => q t.selector) selector := by
  simp only [strike, List.filter_filter, Bool.and_comm]

/-- Striking an entry of the other kind leaves those of this kind. -/
theorem filter_strike_of_not {selector : Selector} (l : Roster) (h : ¬q selector = true) :
    (l.strike selector).filter (fun t => q t.selector) = l.filter fun t => q t.selector := by
  rw [filter_strike]
  refine strike_eq_self (not_has_iff.2 fun t ht he => h ?_)
  exact he ▸ (List.mem_filter.1 ht).2

end Filter

end Roster

end PathPolicy
