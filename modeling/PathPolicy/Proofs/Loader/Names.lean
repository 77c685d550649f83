import PathPolicy.Proofs.Loader.Answers
import Mathlib.Data.String.Basic
import Mathlib.Data.List.Sort
import Mathlib.Tactic.Tauto

/-! The names that sources list. Sorting and leaving out repetitions gives the one list in strict
order that has the same names, so a source that is made of sources lists the names that any of them
lists, whatever their order. -/

namespace PathPolicy

open Files

variable {name : String} {names others : List String}

/-! The same names. -/

theorem mem_eraseRepsLoop {a b : String} {as seen : List String} :
    b ∈ List.eraseRepsBy.loop (· == ·) a as seen ↔ b = a ∨ b ∈ as ∨ b ∈ seen := by
  induction as generalizing a seen with
  | nil => simp [List.eraseRepsBy.loop, or_comm]
  | cons c rest ih =>
    unfold List.eraseRepsBy.loop
    cases hac : a == c with
    | true =>
      obtain rfl := eq_of_beq hac
      simp only [ih, List.mem_cons]
      tauto
    | false =>
      simp only [ih, List.mem_cons]
      tauto

theorem mem_eraseReps : name ∈ names.eraseReps ↔ name ∈ names := by
  cases names with
  | nil => rfl
  | cons a rest =>
    rw [List.eraseReps, List.eraseRepsBy, mem_eraseRepsLoop, List.mem_cons]
    simp

theorem mem_sortedNames : name ∈ sortedNames names ↔ name ∈ names := by
  rw [sortedNames, mem_eraseReps, List.mem_mergeSort]

/-! Strict order. -/

/-- What was seen stands, last name first, below the name at hand, and that below all to come. -/
theorem pairwise_eraseRepsLoop {a : String} {as seen : List String}
    (hseen : (a :: seen).Pairwise (· > ·)) (has : (a :: as).Pairwise (· ≤ ·)) :
    (List.eraseRepsBy.loop (· == ·) a as seen).Pairwise (· < ·) := by
  induction as generalizing a seen with
  | nil => exact List.pairwise_reverse.2 hseen
  | cons c rest ih =>
    obtain ⟨hle, hrest⟩ := List.pairwise_cons.1 has
    unfold List.eraseRepsBy.loop
    cases hac : a == c with
    | true =>
      obtain rfl := eq_of_beq hac
      exact ih hseen hrest
    | false =>
      have hlt : a < c := lt_of_le_of_ne (hle c List.mem_cons_self) (ne_of_beq_false hac)
      have hbelow : ∀ b ∈ a :: seen, c > b := by
        intro b hb
        rcases List.mem_cons.1 hb with rfl | hb
        · exact hlt
        · exact ((List.pairwise_cons.1 hseen).1 b hb).trans hlt
      exact ih (List.pairwise_cons.2 ⟨hbelow, hseen⟩) hrest

theorem pairwise_sortedNames (names : List String) : (sortedNames names).Pairwise (· < ·) := by
  have hsorted : (names.mergeSort (· ≤ ·)).Pairwise (· ≤ ·) := by
    refine (List.pairwise_mergeSort ?_ ?_ names).imp of_decide_eq_true
    · intro a b c hab hbc
      exact decide_eq_true ((of_decide_eq_true hab).trans (of_decide_eq_true hbc))
    · intro a b
      simpa using le_total a b
  unfold sortedNames
  cases h : names.mergeSort (· ≤ ·) with
  | nil => exact List.Pairwise.nil
  | cons a rest => exact pairwise_eraseRepsLoop (List.pairwise_singleton _ _) (h ▸ hsorted)

/-- In strict order there is one list of the same names. -/
theorem eq_of_sorted (hnames : names.Pairwise (· < ·)) (hothers : others.Pairwise (· < ·))
    (h : ∀ name, name ∈ names ↔ name ∈ others) : names = others := by
  have hperm : names.Perm others :=
    (List.perm_ext_iff_of_nodup (hnames.imp ne_of_lt) (hothers.imp ne_of_lt)).2 h
  exact hperm.eq_of_pairwise (fun a b _ _ hab hba => absurd hba (lt_asymm hab)) hnames hothers

theorem sortedNames_congr (h : ∀ name, name ∈ names ↔ name ∈ others) :
    sortedNames names = sortedNames others := by
  refine eq_of_sorted (pairwise_sortedNames names) (pairwise_sortedNames others) fun name => ?_
  rw [mem_sortedNames, mem_sortedNames, h]

theorem sortedNames_append_sortedNames (names others : List String) :
    sortedNames (sortedNames names ++ sortedNames others) = sortedNames (names ++ others) :=
  sortedNames_congr fun name => by simp [mem_sortedNames]

theorem sortedNames_sortedNames (names : List String) :
    sortedNames (sortedNames names) = sortedNames names :=
  sortedNames_congr fun _ => mem_sortedNames

/-! Listings. -/

theorem DirectoryLoader.sorted_list [Host] (d : Disk) (l : DirectoryLoader) :
    (l.list d).map sortedNames = l.list d := by
  have hnone : sortedNames [] = [] := by rw [sortedNames, List.mergeSort_nil]; rfl
  unfold list
  rcases d.locate l.base with f | place
  · rfl
  · cases place with
    | none => exact congrArg Except.ok hnone
    | some place =>
      show Except.map sortedNames (if _ then _ else _) = if _ then _ else _
      split
      · exact congrArg Except.ok hnone
      · exact congrArg Except.ok (sortedNames_sortedNames _)

namespace Loader

/-- One listing after another. The first fault counts. -/
def joined (x y : Except Fault (List String)) : Except Fault (List String) :=
  x.bind fun names => y.map (names ++ ·)

theorem joined_assoc (x y z : Except Fault (List String)) :
    joined (joined x y) z = joined x (joined y z) := by
  rcases x with f | names
  · rfl
  · rcases y with f | others
    · rfl
    · rcases z with f | last
      · rfl
      · exact congrArg Except.ok (List.append_assoc names others last)

theorem joined_nil (x : Except Fault (List String)) : joined (.ok []) x = x := by
  rcases x with f | names <;> rfl

/-- Sorting the parts first makes no difference. -/
theorem sorted_joined (x y : Except Fault (List String)) :
    (joined x y).map sortedNames =
      (joined (x.map sortedNames) (y.map sortedNames)).map sortedNames := by
  rcases x with f | names
  · rfl
  · rcases y with f | others
    · rfl
    · exact congrArg Except.ok (sortedNames_append_sortedNames names others).symm

theorem joined_eq_ok_iff {x y : Except Fault (List String)} :
    joined x y = .ok names ↔ ∃ a b, x = .ok a ∧ y = .ok b ∧ a ++ b = names := by
  rcases x with f | a
  · simp [joined, Except.bind]
  · rcases y with f | b
    · simp [joined, Except.bind, Except.map]
    · simp [joined, Except.bind, Except.map]

variable [Host] {d : Disk} {sources : List Loader}

theorem listAll_cons (l : Loader) (rest : List Loader) :
    listAll d (l :: rest) = joined (list d l) (listAll d rest) := by
  rw [listAll]
  rcases list d l with f | names
  · rfl
  · rcases listAll d rest with f | others <;> rfl

theorem listAll_append (before rest : List Loader) :
    listAll d (before ++ rest) = joined (listAll d before) (listAll d rest) := by
  induction before with
  | nil => rw [listAll, joined_nil, List.nil_append]
  | cons l before ih => rw [List.cons_append, listAll_cons, listAll_cons, ih, joined_assoc]

theorem listAll_singleton (l : Loader) : listAll d [l] = list d l := by
  rw [listAll_cons, listAll]
  rcases list d l with f | names
  · rfl
  · exact congrArg Except.ok (List.append_nil names)

/-- A listing is in order and without repetition already. -/
theorem sorted_list (d : Disk) (l : Loader) : (list d l).map sortedNames = list d l := by
  cases l with
  | directory l => rw [list, l.sorted_list]
  | memory sets =>
    rw [list]
    exact congrArg Except.ok (sortedNames_sortedNames _)
  | composite loaders =>
    rw [list]
    rcases listAll d loaders with f | names
    · rfl
    · exact congrArg Except.ok (sortedNames_sortedNames names)

/-- `names` are those that the sources list, in order and without repetition. -/
structure Union (d : Disk) (sources : List Loader) (names : List String) : Prop where
  listed : ∀ m ∈ sources, ∃ own, list d m = .ok own
  sorted : names.Pairwise (· < ·)
  mem_iff : ∀ n, n ∈ names ↔ ∃ m ∈ sources, ∃ own, list d m = .ok own ∧ n ∈ own

theorem Union.unique (h : Union d sources names) (h' : Union d sources others) :
    names = others :=
  eq_of_sorted h.sorted h'.sorted fun n => (h.mem_iff n).trans (h'.mem_iff n).symm

theorem union_perm {same : List Loader} (h : sources.Perm same) :
    Union d sources names ↔ Union d same names := by
  have hmem (m : Loader) : m ∈ sources ↔ m ∈ same := h.mem_iff
  constructor
  · rintro ⟨hlisted, hsorted, hnames⟩
    exact ⟨by simpa [hmem] using hlisted, hsorted, by simpa [hmem] using hnames⟩
  · rintro ⟨hlisted, hsorted, hnames⟩
    exact ⟨by simpa [hmem] using hlisted, hsorted, by simpa [hmem] using hnames⟩

theorem union_of_listAll (h : listAll d sources = .ok names) :
    Union d sources (sortedNames names) := by
  induction sources generalizing names with
  | nil =>
    rw [listAll] at h
    cases h
    exact ⟨by simp, pairwise_sortedNames [], fun n => by simp [mem_sortedNames]⟩
  | cons l rest ih =>
    rw [listAll_cons, joined_eq_ok_iff] at h
    obtain ⟨own, later, hown, hlater, rfl⟩ := h
    have hrest := ih hlater
    refine ⟨List.forall_mem_cons.2 ⟨⟨own, hown⟩, hrest.listed⟩, pairwise_sortedNames _, fun n => ?_⟩
    have hmem := hrest.mem_iff n
    rw [mem_sortedNames] at hmem
    rw [mem_sortedNames, List.mem_append, hmem]
    simp [hown]

theorem exists_listAll (h : ∀ m ∈ sources, ∃ own, list d m = .ok own) :
    ∃ names, listAll d sources = .ok names := by
  induction sources with
  | nil => exact ⟨[], by rw [listAll]⟩
  | cons l rest ih =>
    obtain ⟨⟨own, hown⟩, hrest⟩ := List.forall_mem_cons.1 h
    obtain ⟨later, hlater⟩ := ih hrest
    refine ⟨own ++ later, ?_⟩
    rw [listAll_cons, joined_eq_ok_iff]
    exact ⟨own, later, hown, hlater, rfl⟩

/-- Sources together can be listed if each of them can, and then list what any of them lists. -/
theorem list_composite_eq_ok_iff :
    list d (composite sources) = .ok names ↔ Union d sources names := by
  rw [list]
  constructor
  · intro h
    obtain ⟨all, hall, rfl⟩ := exists_of_map_eq_ok h
    exact union_of_listAll hall
  · intro h
    obtain ⟨all, hall⟩ := exists_listAll h.listed
    rw [hall, h.unique (union_of_listAll hall)]
    rfl

end Loader

end PathPolicy
