import PathPolicy.Error.Failure
import Mathlib.Data.List.Forall2
import Mathlib.Tactic.Common

/-! Documents are read part by part, and reading ends with the first part that is not in
order. A part says when it is in order, and when reading it ends with a fault where a
report was due. Readers are described by their parts, and parts are put one after another
as readers are. -/

namespace PathPolicy

namespace Failure

variable {ε α β : Type}

theorem exists_of_bind_eq_ok {x : Except ε α} {g : α → Except ε β} {b : β}
    (h : (x >>= g) = .ok b) : ∃ a, x = .ok a ∧ g a = .ok b := by
  cases x with
  | ok a => exact ⟨a, rfl, h⟩
  | error e => cases h

theorem error_or_of_bind_eq_error {x : Except ε α} {g : α → Except ε β} {e : ε}
    (h : (x >>= g) = .error e) : x = .error e ∨ ∃ a, x = .ok a ∧ g a = .error e := by
  cases x with
  | ok a => exact .inr ⟨a, rfl, h⟩
  | error d =>
    cases h
    exact .inl rfl

theorem exists_of_forall₂ {R : α → β → Prop} {items : List α} {results : List β}
    (h : List.Forall₂ R items results) : ∀ a ∈ items, ∃ b, R a b :=
  ((List.forall₂_and_left _ _).1 (h.imp fun _ b hb => ⟨⟨b, hb⟩, hb⟩)).1

theorem forall₂_of_mapM_eq_ok {read : α → Except ε β} {items : List α} {results : List β}
    (h : items.mapM read = .ok results) : List.Forall₂ (read · = .ok ·) items results := by
  induction items generalizing results with
  | nil =>
    cases h
    exact .nil
  | cons a rest ih =>
    rw [List.mapM_cons] at h
    obtain ⟨b, hb, h⟩ := exists_of_bind_eq_ok h
    obtain ⟨bs, hbs, h⟩ := exists_of_bind_eq_ok h
    cases h
    exact .cons hb (ih hbs)

/-- All before the one that fails are read. -/
theorem split_of_mapM_eq_error {read : α → Except ε β} {items : List α} {e : ε}
    (h : items.mapM read = .error e) : ∃ before a after, items = before ++ a :: after ∧
      (∀ b ∈ before, ∃ result, read b = .ok result) ∧ read a = .error e := by
  induction items with
  | nil => cases h
  | cons a rest ih =>
    rw [List.mapM_cons] at h
    rcases error_or_of_bind_eq_error h with ha | ⟨b, hb, hrest⟩
    · exact ⟨[], a, rest, rfl, by simp, ha⟩
    · rcases error_or_of_bind_eq_error hrest with hm | ⟨bs, -, hpure⟩
      · obtain ⟨before, c, after, rfl, hbefore, hc⟩ := ih hm
        refine ⟨a :: before, c, after, rfl, ?_, hc⟩
        rintro d (_ | ⟨_, hd⟩)
        · exact ⟨b, hb⟩
        · exact hbefore d hd
      · cases hpure

theorem mapM_eq_ok_of_forall₂ {read : α → Except ε β} {items : List α} {results : List β}
    (h : List.Forall₂ (read · = .ok ·) items results) : items.mapM read = .ok results := by
  induction h with
  | nil => rfl
  | cons ha _ ih =>
    rw [List.mapM_cons, ha, ih]
    rfl

theorem exists_of_mapM_eq_error {read : α → Except ε β} {items : List α} {e : ε}
    (h : items.mapM read = .error e) : ∃ a ∈ items, read a = .error e := by
  obtain ⟨before, a, after, rfl, -, ha⟩ := split_of_mapM_eq_error h
  exact ⟨a, by simp, ha⟩

end Failure

structure Part where
  fine : Prop
  stops : Prop

namespace Part

def AllFine (parts : List Part) : Prop := ∀ p ∈ parts, p.fine

/-- The first part that is not in order ends with a fault. -/
def Stop : List Part → Prop
  | [] => False
  | p :: rest => p.stops ∨ p.fine ∧ Stop rest

variable {ps qs : List Part} {α β : Type}

theorem allFine_nil : AllFine [] := by simp [AllFine]

theorem allFine_cons {p : Part} : AllFine (p :: ps) ↔ p.fine ∧ AllFine ps := by simp [AllFine]

theorem allFine_append : AllFine (ps ++ qs) ↔ AllFine ps ∧ AllFine qs := by
  simp [AllFine, or_imp, forall_and]

theorem stop_append : Stop (ps ++ qs) ↔ Stop ps ∨ AllFine ps ∧ Stop qs := by
  induction ps with
  | nil => simp [Stop, allFine_nil]
  | cons p rest ih =>
    rw [List.cons_append, Stop, Stop, ih, allFine_cons]
    tauto

/-- The reading succeeds if all parts are in order, and ends with a fault if they stop it. -/
structure Reads (parts : List Part) (x : Except Failure α) : Prop where
  ok_iff : (∃ a, x = .ok a) ↔ AllFine parts
  fault_iff : (∃ f, x = .error (.fault f)) ↔ Stop parts

theorem Reads.bind {x : Except Failure α} {g : α → Except Failure β} (hx : Reads ps x)
    (hg : ∀ a, x = .ok a → Reads qs (g a)) : Reads (ps ++ qs) (x >>= g) := by
  cases x with
  | ok a =>
    have hfine : AllFine ps := hx.ok_iff.1 ⟨a, rfl⟩
    have hstop : ¬Stop ps := fun h => by cases hx.fault_iff.2 h with | intro f hf => cases hf
    obtain ⟨hok, hfault⟩ := hg a rfl
    constructor
    · rw [allFine_append]
      exact hok.trans (by simp [hfine])
    · rw [stop_append]
      exact hfault.trans (by simp [hfine, hstop])
  | error e =>
    have hfine : ¬AllFine ps := fun h => by cases hx.ok_iff.2 h with | intro a ha => cases ha
    have hbind : (Except.error e >>= g) = .error e := rfl
    constructor
    · rw [allFine_append]
      simp [hbind, hfine]
    · rw [stop_append, ← hx.fault_iff]
      simp [hbind, hfine]

theorem Reads.map {x : Except Failure α} (f : α → β) (hx : Reads ps x) : Reads ps (x.map f) := by
  obtain ⟨hok, hfault⟩ := hx
  constructor
  · rw [← hok]
    cases x <;> simp [Except.map]
  · rw [← hfault]
    cases x <;> simp [Except.map]

end Part

end PathPolicy
